import DevDriver.Library.ByteStore
import DevDriver.Library.LittleEndian

/-!
# Settings blobs

`SettingsBlobNode::GetAllSettingsBlobs` of dd_settings_blob.cpp, which packs the blobs of all nodes
into one buffer, and `ParseSettingsBlobs` of dd_settings_utils.cpp, which walks such a buffer.
-/

namespace DevDriver.Model

open Library

/-- A `SettingsBlobNode`, by what its virtual functions return.  The size of its blob has
32 bits. -/
structure SettingsBlobNode where
  blob : List UInt8
  isEncoded : Bool
  magicOffset : UInt32
  blobHash : UInt64
  length_lt : blob.length < 2 ^ 32

def SettingsBlobNode.blobSize (node : SettingsBlobNode) : UInt32 := UInt32.ofNat node.blob.length

/-- `CalcSettingsBlobSizeAligned`, where `size_t` has 64 bits; a blob starts at offset 24 of its
`SettingsBlob`.
dd_settings_blob.cpp:10-23 -/
def calcSettingsBlobSizeAligned (blobSize : UInt32) : UInt32 :=
  let wordSize : UInt32 := 8
  let unalignedSize : UInt64 := 24 + blobSize.toUInt64
  ((unalignedSize + wordSize.toUInt64 - 1) &&& (~~~(wordSize - 1)).toUInt64).toUInt32

/-- A `SettingsBlob` is filled in.  `encoded` is one byte, and three bytes of padding follow it.
dd_settings_blob.cpp:80-87; dd_settings_blob_core.h:8-26 -/
def writeSettingsBlob (memory : ℕ → UInt8) (pos : ℕ) (blobSizeAligned : UInt32)
    (node : SettingsBlobNode) : ℕ → UInt8 :=
  let memory := writeAt memory pos <|
    leBytes 4 blobSizeAligned.toNat ++ leBytes 4 node.blobSize.toNat ++ [node.isEncoded.toUInt8]
  writeAt memory (pos + 12) <|
    leBytes 4 node.magicOffset.toNat ++ leBytes 8 node.blobHash.toNat ++ node.blob

/-- The variables of `GetAllSettingsBlobs`, and the memory if there is a buffer. -/
structure BlobPacking where
  totalSizeRequired : UInt32
  buffer : Option (ℕ → UInt8)
  blobBufCurrPos : ℕ
  blobCount : UInt32

/-- One node.
dd_settings_blob.cpp:64-102 -/
def BlobPacking.pack (bufferSize : UInt32) (s : BlobPacking) (node : SettingsBlobNode) :
    BlobPacking :=
  if node.blobSize > 0 then
    let blobSizeAligned := calcSettingsBlobSizeAligned node.blobSize
    let s := { s with totalSizeRequired := s.totalSizeRequired + blobSizeAligned }
    match s.buffer with
    | none => s
    | some memory =>
      let blobBufNextPos := s.blobBufCurrPos + blobSizeAligned.toNat
      if blobBufNextPos ≤ bufferSize.toNat then
        { s with
          buffer := some (writeSettingsBlob memory s.blobBufCurrPos blobSizeAligned node)
          blobBufCurrPos := blobBufNextPos
          blobCount := s.blobCount + 1 }
      else { s with blobBufCurrPos := blobBufNextPos }
  else s

/-- `GetAllSettingsBlobs` for the nodes that are linked: the size, and the memory behind `pBuffer`.
dd_settings_blob.cpp:44-113 -/
def getAllSettingsBlobs (nodes : List SettingsBlobNode) (buffer : Option (ℕ → UInt8))
    (bufferSize : UInt32) : UInt32 × Option (ℕ → UInt8) :=
  let s := nodes.foldl (BlobPacking.pack bufferSize) ⟨8, buffer, 8, 0⟩
  (s.totalSizeRequired, s.buffer.map fun memory =>
    if bufferSize ≥ 8 then writeAt memory 0 (leBytes 4 1 ++ leBytes 4 s.blobCount.toNat)
    else memory)

section Walk

variable {C : Type} (component : List UInt8 → C) (memory : ℕ → UInt8)

/-- `SettingsBlob::size`. -/
def sizeAt (pos : ℕ) : ℕ := leNat (readAt memory pos 4)

/-- `SettingsBlob::blobSize`. -/
def blobSizeAt (pos : ℕ) : ℕ := leNat (readAt memory (pos + 4) 4)

/-- What a walk does: the ranges that it reads or has parsed, the positions of the records that it
examines, and the components that it puts out. -/
structure BlobWalk (C : Type) where
  reads : List (ℕ × ℕ)
  visited : List ℕ
  output : List C

/-- The loop of `ParseSettingsBlobs`, when so many rounds are left.
dd_settings_utils.cpp:286-331 -/
def parseBlobs : ℕ → ℕ → BlobWalk C
  | 0, _ => ⟨[], [], []⟩
  | n + 1, pos =>
    if blobSizeAt memory pos = 0 then
      let walk := parseBlobs n pos
      { walk with
        reads := (pos + 4, 4) :: walk.reads
        visited := pos :: walk.visited }
    else
      let walk := parseBlobs n (pos + sizeAt memory pos)
      { reads := (pos + 4, 4) :: (pos + 24, blobSizeAt memory pos) :: (pos, 4) :: walk.reads
        visited := pos :: walk.visited
        output := component (readAt memory (pos + 24) (blobSizeAt memory pos)) :: walk.output }

inductive ParseResult where
  | success
  | invalidParameter
  | invalidSettingData
  deriving DecidableEq

/-- `DD_SETTINGS_DRIVER_TYPE_KMD`.
dd_settings_api.h:45-50 -/
def driverTypeKmd : UInt16 := 5

/-- Where the header starts: behind the path of the settings and its size, unless the blobs are
from the kernel-mode driver.
dd_settings_utils.cpp:268-279 -/
def blobsHeader (connectionId : UInt16) : ℕ :=
  if connectionId ≠ driverTypeKmd then leNat (readAt memory 0 2) + 2 else 0

/-- `SettingsBlobsAll::nblobs`. -/
def nblobsAt (header : ℕ) : ℕ := leNat (readAt memory (header + 4) 4)

/-- dd_settings_utils.cpp:262-345 -/
def parseSettingsBlobs (blobBuffer : Option (ℕ → UInt8)) (bufferSize : ℕ)
    (connectionId : UInt16) : ParseResult × BlobWalk C :=
  match blobBuffer with
  | none => (.invalidParameter, ⟨[], [], []⟩)
  | some memory =>
    if bufferSize > 0 then
      let header := blobsHeader memory connectionId
      let walk := parseBlobs component memory (nblobsAt memory header) (header + 8)
      let walk := { walk with
        reads := (if connectionId ≠ driverTypeKmd then [(0, 2)] else []) ++
          (header + 4, 4) :: walk.reads }
      (if nblobsAt memory header > 0 then .success else .invalidSettingData, walk)
    else (.invalidParameter, ⟨[], [], []⟩)

end Walk

end DevDriver.Model
