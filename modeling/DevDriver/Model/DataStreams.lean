import DevDriver.Model.Socket
import DevDriver.Model.Vectors

/-!
# Recorded data streams

The files that event streamers record to: how their bytes are copied to an RDF file at the end, and
how the memory tracer goes over its streams when a trace ends.
-/

namespace DevDriver.Model

open Library

def DDResult.commonUnknown : DDResult := ⟨10⟩

def DDResult.genericFileIoError : DDResult := ⟨10117⟩

/-- A file with the position it is read from. -/
structure StreamFile where
  bytes : List UInt8
  position : ℕ

/-- `fread` of `count` bytes, where the system delivers at most `limit`. -/
def StreamFile.fread (file : StreamFile) (count limit : ℕ) : List UInt8 × StreamFile :=
  let data := slice file.bytes file.position (min count limit)
  (data, { file with position := file.position + data.length })

/-- `rdfResult`; every other code is taken for an error. -/
inductive RdfResult where
  | ok
  | error
  | invalidArgument

/-- `RdfResultToDDResult` and `ConvertRdfResult`.
RdfEventStreamer.cpp:25-45, GpuDetectiveEventStreamer.cpp:23-43 -/
def rdfResultToDDResult : RdfResult → DDResult
  | .ok => .success
  | .invalidArgument => .commonInvalidParameter
  | .error => .unknown

/-- What an iteration of a transfer meets: the bytes `fread` can deliver and the answer of the RDF
writer. -/
structure TransferAnswer where
  limit : ℕ
  write : RdfResult

structure Transfer where
  result : DDResult
  file : StreamFile
  written : List UInt8

/-- A read of `transferSize` bytes and their write; `TransferFileData`, and the same lines in the
other two streamers.
RmtEventTracer.cpp:173-202, RdfEventStreamer.cpp:279-289 -/
def transferFileData (transferSize : ℕ) (file : StreamFile) (answer : TransferAnswer) : Transfer :=
  let (data, file) := file.fread transferSize answer.limit
  if data.length = transferSize then
    let result := rdfResultToDDResult answer.write
    ⟨result, file, if result = .success then data else []⟩
  else ⟨.genericFileIoError, file, []⟩

/-- The loop over the bytes that remain, with the number of the iteration.  A scratch buffer has
more than one byte.
RmtEventTracer.cpp:972-998, RdfEventStreamer.cpp:277-294 -/
def transferLoop (scratchBufferSize : { n : ℕ // 1 < n }) (answers : ℕ → TransferAnswer)
    (bytesRemaining : ℕ) (file : StreamFile) (i : ℕ) : Transfer :=
  if _h : 0 < bytesRemaining then
    let transferSize := min bytesRemaining scratchBufferSize
    let t := transferFileData transferSize file (answers i)
    if t.result = .success then
      let rest := transferLoop scratchBufferSize answers (bytesRemaining - transferSize) t.file
        (i + 1)
      { rest with written := t.written ++ rest.written }
    else t
  else ⟨.success, file, []⟩
termination_by bytesRemaining
decreasing_by
  have := scratchBufferSize.2
  omega

/-- `currPosition`, which is kept as a `uint32_t`. -/
def StreamFile.currPosition (file : StreamFile) : ℕ := file.position % 2 ^ 32

def RmtEventTracer.transferDataStream (scratchBufferSize : { n : ℕ // 1 < n })
    (answers : ℕ → TransferAnswer) (file : StreamFile) (totalDataSize : ℕ) : Transfer :=
  let t := transferLoop scratchBufferSize answers totalDataSize { file with position := 0 } 0
  { t with file := { t.file with position := file.currPosition } }

def kTransferBufferSize : { n : ℕ // 1 < n } := ⟨4 * 1024 * 1024, by decide⟩

/-- `RdfEventStreamer::TransferDataStream`, with whether `malloc` gives memory and what the RDF
writer answers when the chunk begins and ends.
RdfEventStreamer.cpp:242-320 -/
def RdfEventStreamer.transferDataStream (malloc : Bool) (beginChunk endChunk : RdfResult)
    (answers : ℕ → TransferAnswer) (file : StreamFile) (totalDataSize : ℤ) : Transfer :=
  if malloc then
    if 0 < totalDataSize then
      let start : StreamFile := { file with position := 0 }
      let result := rdfResultToDDResult beginChunk
      let t := if result = .success then
          transferLoop kTransferBufferSize answers totalDataSize.toNat start 0
        else ⟨result, start, []⟩
      let result := if t.result = .success then rdfResultToDDResult endChunk else t.result
      ⟨result, { t.file with position := file.currPosition }, t.written⟩
    else ⟨.success, file, []⟩
  else ⟨.genericInsufficientMemory, file, []⟩

/-- `GPUDetectiveStreamer::TransferDataStream`, word for word the same.
GpuDetectiveEventStreamer.cpp:242-320 -/
def GPUDetectiveStreamer.transferDataStream (malloc : Bool) (beginChunk endChunk : RdfResult)
    (answers : ℕ → TransferAnswer) (file : StreamFile) (totalDataSize : ℤ) : Transfer :=
  RdfEventStreamer.transferDataStream malloc beginChunk endChunk answers file totalDataSize

/-! ## The end of a trace -/

/-- `TraceDataStream`; a file handle is the number of the file. -/
structure TraceDataStream where
  pFileHandle : ℕ
  processId : UInt32
  threadId : UInt32
  totalDataSize : UInt64
  rmtMajorVersion : UInt16
  rmtMinorVersion : UInt16

inductive TraceState where
  | notStarted
  | running
  | ended

inductive EndTraceReason where
  | unknown
  | userRequested
  | appRequested
  | appExited
  | userRequestedContinue
  | abort
  deriving DecidableEq

structure RmtEventTracer where
  traceState : TraceState
  traceResult : DDResult
  endReason : EndTraceReason
  dataStreams : List TraceDataStream
  totalDataSize : ℤ

namespace RmtEventTracer

/-- The first failure stays.
RmtEventTracer.cpp:1037-1043 -/
def updateTraceResult (tracer : RmtEventTracer) (result : DDResult) : RmtEventTracer :=
  if tracer.traceResult = .success then { tracer with traceResult := result } else tracer

def finish (tracer : RmtEventTracer) (reason : EndTraceReason) : RmtEventTracer :=
  if reason ≠ .userRequestedContinue then
    { tracer with traceState := .ended, endReason := reason }
  else tracer

@[simp]
theorem dataStreams_updateTraceResult (tracer : RmtEventTracer) (result : DDResult) :
    (tracer.updateTraceResult result).dataStreams = tracer.dataStreams := by
  unfold updateTraceResult
  split <;> rfl

@[simp]
theorem dataStreams_finish (tracer : RmtEventTracer) (reason : EndTraceReason) :
    (tracer.finish reason).dataStreams = tracer.dataStreams := by
  unfold finish
  split <;> rfl

end RmtEventTracer

/-- `ferror` and `ftell` of the files. -/
structure FileStates where
  ferror : ℕ → Bool
  ftell : ℕ → UInt64

/-- The loop of `EndTraceInternal`, `n` rounds of it at most.  A message is logged about the stream
that the iterator points to after a removal; there is no result where this is the end.
RmtEventTracer.cpp:823-845 -/
def endTraceLoop (files : FileStates) :
    ℕ → VectorIterator → List TraceDataStream → DDResult → Option (List TraceDataStream × DDResult)
  | 0, _, _, _ => none
  | n + 1, streamIter, streams, result =>
    if streamIter ≠ .atEnd then
      (streamIter.get? streams).bind fun stream =>
        if files.ferror stream.pFileHandle = false then
          let streams := streams.set streamIter.index
            { stream with totalDataSize := files.ftell stream.pFileHandle }
          endTraceLoop files n (streamIter.next streams) streams result
        else
          let removed := vectorRemoveIterator streams streamIter
          (removed.2.get? removed.1).bind fun _ =>
            endTraceLoop files n (removed.2.next removed.1) removed.1 .genericFileIoError
    else some (streams, result)

/-- Its result, the tracer and the files that it has closed.
RmtEventTracer.cpp:811-870, 1006-1022 -/
def endTraceInternal (files : FileStates) (reason : EndTraceReason) (isDataValid : Bool)
    (tracer : RmtEventTracer) : Option (DDResult × RmtEventTracer × List ℕ) :=
  match tracer.traceState with
  | .running =>
    if isDataValid then
      (endTraceLoop files (tracer.dataStreams.length + 1) (.create tracer.dataStreams 0)
        tracer.dataStreams .success).map fun r =>
          (r.2, ({ tracer with dataStreams := r.1 }.updateTraceResult r.2).finish reason, [])
    else
      let closed := tracer.dataStreams.map TraceDataStream.pFileHandle
      some (.success, ({ tracer with
        dataStreams := [], totalDataSize := 0 }.updateTraceResult .commonUnknown).finish reason,
        closed)
  | _ => some (.genericUnavailable, tracer, [])

end DevDriver.Model
