import DevDriver.Library.Machine
import DevDriver.Model.EventProvider
import DevDriver.Model.RmtTokens

/-!
# The RMT writer

`RmtWriter` puts a file together in memory: a header and then chunks, each of which says how long
it is.  A data chunk stays open while tokens are written to it, and its size is put into its header
in the end.  A call whose assertion fails has no result.
-/

namespace DevDriver.Model

open Library

/-- `RmtFileHeader` for a time, whose fields go from `tm_sec` to `tm_isdst`.
rmtFileFormat.h:20-36, rmtWriter.cpp:93-107 -/
def rmtFileHeader (rmtFileTime : List UInt32) : List UInt8 :=
  leBytes 4 0x494e494d ++ leBytes 4 1 ++ leBytes 4 1 ++ leBytes 4 0 ++ leBytes 4 56 ++
    rmtFileTime.flatMap fun x => leBytes 4 x.toNat

/-- rmtFileFormat.h. -/
structure RmtFileChunkHeader where
  chunkType : UInt8
  chunkIndex : UInt8
  reserved : UInt16
  versionMinor : UInt16
  versionMajor : UInt16
  sizeInBytes : UInt32
  padding : UInt32
  deriving DecidableEq

def RmtFileChunkHeader.bytes (h : RmtFileChunkHeader) : List UInt8 :=
  leBytes 1 h.chunkType.toNat ++ leBytes 1 h.chunkIndex.toNat ++ leBytes 2 h.reserved.toNat ++
    leBytes 2 h.versionMinor.toNat ++ leBytes 2 h.versionMajor.toNat ++
    leBytes 4 h.sizeInBytes.toNat ++ leBytes 4 h.padding.toNat

structure ChunkStruct (size : ℕ) where
  header : RmtFileChunkHeader
  fields : List UInt8
  length_fields : 16 + fields.length = size

abbrev RmtFileChunkSystemInfo := ChunkStruct 112

abbrev RmtFileChunkSegmentInfo := ChunkStruct 40

abbrev RmtFileChunkAdapterInfo := ChunkStruct 188

/-! ## The writer -/

inductive RmtWriterState where
  | uninitialized
  | initialized
  | writingDataChunk
  | finalized
  deriving DecidableEq

structure RmtWriter where
  state : RmtWriterState
  dataChunkHeaderOffset : ℕ
  eventTimer : EventTimer
  rmtFileData : List UInt8

/-- `Data` and `Size` of a token. -/
def RmtTokenData.data (d : RmtTokenData) : List UInt8 :=
  (d.pByteData.take d.sizeInBytes).map .ofBitVec

/-- The bytes that `CalculateDelta` writes for a timestamp.
rmtWriter.cpp:243-262 -/
def timeToken (memory : ℕ → BitVec 8) : EventTimestamp → List UInt8
  | .full timestamp frequency =>
    (rmtMsgTimestamp memory timestamp.toBitVec frequency.toBitVec).data
  | .largeDelta delta numBytes =>
    if h : (BitVec.ofNat 8 numBytes).toNat ≤ 6 then
      (rmtMsgTimeDelta memory delta.toBitVec (.ofNat 8 numBytes) h).data
    else []
  | .smallDelta _ => []

namespace RmtWriter

variable (w : RmtWriter)

def init : Option RmtWriter :=
  if w.state = .uninitialized ∨ w.state = .finalized then
    some ⟨.initialized, 0, w.eventTimer.reset, []⟩
  else none

def writeBytes (pData : List UInt8) : Option RmtWriter :=
  if w.state = .initialized ∨ w.state = .writingDataChunk then
    some { w with rmtFileData := w.rmtFileData ++ pData }
  else none

def writeFileHeader (rmtFileTime : List UInt32) : Option RmtWriter :=
  if w.state = .initialized then w.writeBytes (rmtFileHeader rmtFileTime) else none

/-- What `WriteSystemInfo`, `WriteSegmentInfo` and `WriteAdapterInfo` do.  They leave the reserved
bits of the header as they are. -/
def writeInfo {size : ℕ} (chunkType : UInt8) (info : ChunkStruct size) : Option RmtWriter :=
  if w.state = .initialized then
    w.writeBytes (RmtFileChunkHeader.bytes
      ⟨chunkType, 0, info.header.reserved, 1, 0, .ofNat size, 0⟩ ++ info.fields)
  else none

def writeSystemInfo (systemInfo : RmtFileChunkSystemInfo) : Option RmtWriter :=
  w.writeInfo 2 systemInfo

def writeSegmentInfo (segmentInfo : RmtFileChunkSegmentInfo) : Option RmtWriter :=
  w.writeInfo 4 segmentInfo

def writeAdapterInfo (adapterInfo : RmtFileChunkAdapterInfo) : Option RmtWriter :=
  w.writeInfo 7 adapterInfo

/-- `WriteSnapshot` with a clock that reads `timestamp`.  The last four bytes of the struct are
padding.
rmtWriter.cpp:168-195 -/
def writeSnapshot (pSnapshotName : List UInt8) (snapshotTimestamp timestamp : UInt64) :
    Option RmtWriter :=
  let snapshotPoint := if snapshotTimestamp = 0 then timestamp else snapshotTimestamp
  (w.writeBytes (RmtFileChunkHeader.bytes ⟨6, 0, 0, 1, 0, .ofNat (32 + pSnapshotName.length), 0⟩ ++
    (leBytes 8 snapshotPoint.toNat ++ leBytes 4 pSnapshotName.length ++ leBytes 4 0))).bind
      (·.writeBytes pSnapshotName)

/-- What it takes for the major version it writes as the minor one.
rmtWriter.cpp:306-328 -/
def writeDataChunkHeader (processId threadId : UInt64) (dataSize : ℕ) (chunkIndex : UInt32)
    (rmtMajorVersion rmtMinorVersion : UInt16) : Option RmtWriter :=
  if w.state = .initialized then
    w.writeBytes (RmtFileChunkHeader.bytes
      ⟨3, chunkIndex.toUInt8, 0, rmtMajorVersion, rmtMinorVersion, .ofNat (dataSize + 32), 0⟩ ++
      (leBytes 8 processId.toNat ++ leBytes 8 threadId.toNat))
  else none

def beginDataChunk (processId threadId : UInt64) : Option RmtWriter :=
  (w.writeDataChunkHeader processId threadId 0 0 1 9).map fun w' =>
    { w' with state := .writingDataChunk, dataChunkHeaderOffset := w.rmtFileData.length }

def writeTokenData (tokenData : RmtTokenData) : Option RmtWriter :=
  if w.state = .writingDataChunk then w.writeBytes tokenData.data else none

/-- `CalculateDelta` at this reading of the clock.
rmtWriter.cpp:233-279 -/
def calculateDelta (memory : ℕ → BitVec 8) (timestamp : UInt64) : Option (UInt8 × RmtWriter) :=
  if w.state = .writingDataChunk then
    let (eventTimestamp, eventTimer) := w.eventTimer.createTimestamp timestamp
    let delta := match eventTimestamp with
      | .smallDelta delta => delta
      | _ => 0
    (writeBytes { w with eventTimer := eventTimer } (timeToken memory eventTimestamp)).map
      (delta, ·)
  else none

/-- rmtWriter.cpp:282-295 -/
def endDataChunk : Option RmtWriter :=
  if w.state = .writingDataChunk then
    let rmtDataChunkSize := w.rmtFileData.length - w.dataChunkHeaderOffset
    some { w with
      rmtFileData := overwrite w.rmtFileData (w.dataChunkHeaderOffset + 8)
        (leBytes 4 (UInt32.ofNat rmtDataChunkSize).toNat)
      state := .initialized
      dataChunkHeaderOffset := 0 }
  else none

def writeDataChunk (pData : List UInt8) : Option RmtWriter :=
  w.writeBytes pData

def finalize : Option RmtWriter :=
  if w.state = .initialized then some { w with state := .finalized } else none

end RmtWriter

/-- The calls that write the chunks of a file behind its header.  A data chunk from an external
source is written with its header and then its data. -/
inductive RmtCall where
  | writeSystemInfo (systemInfo : RmtFileChunkSystemInfo)
  | writeSegmentInfo (segmentInfo : RmtFileChunkSegmentInfo)
  | writeAdapterInfo (adapterInfo : RmtFileChunkAdapterInfo)
  | writeSnapshot (pSnapshotName : List UInt8) (snapshotTimestamp timestamp : UInt64)
  | beginDataChunk (processId threadId : UInt64)
  | writeTokenData (tokenData : RmtTokenData)
  | calculateDelta (memory : ℕ → BitVec 8) (timestamp : UInt64)
  | endDataChunk
  | writeDataChunk (processId threadId : UInt64) (chunkIndex : UInt32)
      (rmtMajorVersion rmtMinorVersion : UInt16) (pData : List UInt8)
  | finalize

def RmtCall.run (w : RmtWriter) : RmtCall → Option RmtWriter
  | .writeSystemInfo systemInfo => w.writeSystemInfo systemInfo
  | .writeSegmentInfo segmentInfo => w.writeSegmentInfo segmentInfo
  | .writeAdapterInfo adapterInfo => w.writeAdapterInfo adapterInfo
  | .writeSnapshot pSnapshotName snapshotTimestamp timestamp =>
    w.writeSnapshot pSnapshotName snapshotTimestamp timestamp
  | .beginDataChunk processId threadId => w.beginDataChunk processId threadId
  | .writeTokenData tokenData => w.writeTokenData tokenData
  | .calculateDelta memory timestamp => (w.calculateDelta memory timestamp).map (·.2)
  | .endDataChunk => w.endDataChunk
  | .writeDataChunk processId threadId chunkIndex rmtMajorVersion rmtMinorVersion pData =>
    (w.writeDataChunkHeader processId threadId pData.length chunkIndex rmtMajorVersion
      rmtMinorVersion).bind (·.writeDataChunk pData)
  | .finalize => w.finalize

/-- A writer from its file header on. -/
def rmtWriterMachine : Machine RmtWriter RmtCall Unit where
  init w := ∃ (w₀ : RmtWriter) (rmtFileTime : List UInt32), rmtFileTime.length = 9 ∧
    w₀.init.bind (·.writeFileHeader rmtFileTime) = some w
  step w call := (call.run w).map (·, ())

end DevDriver.Model
