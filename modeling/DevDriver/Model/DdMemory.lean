import DevDriver.Library.Ring
import DevDriver.Model.Socket

/-!
# Scratch, dynamic and ring buffers

The three buffers of the common library.  What the platform answers (`CommitMemory`, `realloc`) is
part of the action of a step.  The mirrored memory of a ring buffer is a function of the address
modulo its size, and the bytes of a work item lie at consecutive addresses.
-/

namespace DevDriver.Model

open Library

def DDResult.commonAlreadyExists : DDResult := ⟨17⟩

def alignU32 (x alignment : UInt32) : UInt32 := (x + (alignment - 1)) &&& ~~~(alignment - 1)

structure ScratchBuffer where
  totalSize : UInt32
  committedSize : UInt32
  pageSize : UInt32
  top : UInt32

namespace ScratchBuffer

/-- `Initialize`, where it succeeds.  `reserveMemory` says for which sizes the platform reserves
memory, and `commit` whether `CommitMemory` succeeds.
dd_memory.cpp:10-45 -/
def initializeWith (reserveMemory : UInt32 → Bool) (pageSize totalSize initialCommitSize : UInt32)
    (commit : Bool) : Option ScratchBuffer :=
  if totalSize = 0 ∨ totalSize < initialCommitSize then none
  else
    let pageSizeAlignedTotalSize := alignU32 totalSize pageSize
    let pageSizeAlignedInitialCommitSize := alignU32 initialCommitSize pageSize
    if reserveMemory pageSizeAlignedTotalSize ∧ commit then
      some ⟨pageSizeAlignedTotalSize, pageSizeAlignedInitialCommitSize, pageSize, 0⟩
    else none

/-- The size that `Push` asks `CommitMemory` for; zero without a call. -/
def alignedSizeToCommit (s : ScratchBuffer) (size : UInt32) : UInt32 :=
  if size > s.committedSize - s.top then
    alignU32 (size - (s.committedSize - s.top)) s.pageSize
  else 0

/-- The offset of the block, or the null pointer.
dd_memory.cpp:57-82 -/
def push (s : ScratchBuffer) (size : UInt32) (commit : Bool) : Option UInt32 × ScratchBuffer :=
  if size > s.totalSize - s.top then (none, s)
  else if size > s.committedSize - s.top ∧ commit = false then (none, s)
  else (some s.top, { s with
    committedSize := s.committedSize + s.alignedSizeToCommit size, top := s.top + size })

end ScratchBuffer

/-- The calls of a scratch buffer; `commit` says whether memory could be committed. -/
inductive ScratchAction where
  | push (size : UInt32) (commit : Bool)
  | pop (size : UInt32)
  | clear

/-- A scratch buffer that `Initialize` has accepted.  `Pop` is called with at most what was pushed.
dd_memory.cpp:57-94 -/
def scratchMachine (reserveMemory : UInt32 → Bool)
    (pageSize totalSize initialCommitSize : UInt32) :
    Machine ScratchBuffer ScratchAction (Option UInt32) where
  init s := ∃ commit,
    ScratchBuffer.initializeWith reserveMemory pageSize totalSize initialCommitSize commit = some s
  step s
  | .push size commit => some ((s.push size commit).2, (s.push size commit).1)
  | .pop size => if size ≤ s.top then some ({ s with top := s.top - size }, none) else none
  | .clear => some ({ s with top := 0 }, none)

/-! ## Dynamic buffers -/

/-- `m_pBuf` is the memory behind the pointer, or nothing for the null pointer. -/
structure DynamicBuffer where
  pBuf : Option (List UInt8)
  capacity : UInt64
  size : UInt64
  error : DDResult

/-- What `Realloc` finds behind the old bytes; nothing where it fails. -/
abbrev ReallocAnswer : Type := Option (List UInt8)

namespace DynamicBuffer

/-- `Realloc` to a larger size.  It fails for objects of more than `PTRDIFF_MAX` bytes. -/
def realloc (pBuf : Option (List UInt8)) (newSize : UInt64) (answer : ReallocAnswer) :
    Option (Option (List UInt8)) :=
  match answer with
  | none => some none
  | some tail =>
    if newSize.toNat < 2 ^ 63 ∧ (pBuf.getD []).length + tail.length = newSize.toNat then
      some (some (pBuf.getD [] ++ tail))
    else none

/-- `m_pBuf = Realloc(…)` with what `Reserve` and `Copy` do with the result. -/
def reallocTo (b : DynamicBuffer) (newCapacity : UInt64) (answer : ReallocAnswer) :
    Option DynamicBuffer :=
  (realloc b.pBuf newCapacity answer).map fun
    | none => { b with pBuf := none, error := .commonOutOfHeapMemory }
    | some memory => { b with pBuf := some memory, capacity := newCapacity }

/-- `newCapacity` of `Copy`. -/
def newCapacity (b : DynamicBuffer) (srcSize : UInt64) : UInt64 :=
  if srcSize > b.capacity then b.capacity + srcSize else b.capacity * 2

def reserveRequest (b : DynamicBuffer) (reserveSize : UInt64) : Option UInt64 :=
  if (b.size = 0 ∧ reserveSize > 0) ∧ reserveSize > b.capacity then some reserveSize else none

def copyRequest (b : DynamicBuffer) (srcSize : UInt64) : Option UInt64 :=
  if (b.error = .success ∧ srcSize > 0) ∧ b.capacity - b.size < srcSize then
    some (b.newCapacity srcSize)
  else none

/-- dd_dynamic_buffer.cpp:58-85 -/
def reserve (b : DynamicBuffer) (reserveSize : UInt64) (answer : ReallocAnswer) :
    Option (DDResult × DynamicBuffer) :=
  if b.size = 0 ∧ reserveSize > 0 then
    match b.reserveRequest reserveSize with
    | some size => (b.reallocTo size answer).map fun b' =>
      (if b'.pBuf = none then b'.error else .success, b')
    | none => some (.success, b)
  else some (.commonAlreadyExists, b)

/-- `Memcpy_s` to the end of the data; there is no result for a write through the null pointer or
past the memory. -/
def append (b : DynamicBuffer) (srcBuf : List UInt8) : Option DynamicBuffer :=
  b.pBuf.bind fun memory =>
    if b.size.toNat + srcBuf.length ≤ memory.length then
      some { b with
        pBuf := some (overwrite memory b.size.toNat srcBuf)
        size := b.size + UInt64.ofNat srcBuf.length }
    else none

/-- dd_dynamic_buffer.cpp:107-142 -/
def copy (b : DynamicBuffer) (srcBuf : List UInt8) (answer : ReallocAnswer) :
    Option DynamicBuffer :=
  if b.error = .success ∧ UInt64.ofNat srcBuf.length > 0 then
    match b.copyRequest (UInt64.ofNat srcBuf.length) with
    | some size => (b.reallocTo size answer).bind fun b' =>
      if b'.error = .success then b'.append srcBuf else some b'
    | none => b.append srcBuf
  else some b

/-- The pointer, the size that it reports and the buffer.
dd_dynamic_buffer.cpp:144-156 -/
def transfer (b : DynamicBuffer) : Option (List UInt8) × UInt64 × DynamicBuffer :=
  (b.pBuf, b.capacity, ⟨none, 0, 0, .success⟩)

end DynamicBuffer

/-- The calls of a dynamic buffer, with what `realloc` answers. -/
inductive DynamicBufferAction where
  | reserve (reserveSize : UInt64) (answer : ReallocAnswer)
  | copy (srcBuf : List UInt8) (answer : ReallocAnswer)
  | clear
  | transfer

def DynamicBuffer.refused (b : DynamicBuffer) : DynamicBufferAction → Bool
  | .reserve reserveSize none => (b.reserveRequest reserveSize).isSome
  | .copy srcBuf none => (b.copyRequest (UInt64.ofNat srcBuf.length)).isSome
  | _ => false

/-- A dynamic buffer with what has happened to it: the bytes copied since the last `Clear` or
`Transfer` while no reallocation had failed, whether one has failed since the last `Transfer`, and
how many blocks were neither freed nor handed out when the pointer to them was overwritten. -/
structure DynamicBufferRun where
  buffer : DynamicBuffer
  copied : List UInt8
  failed : Bool
  lost : ℕ

def DynamicBufferRun.lostAfter (s : DynamicBufferRun) (b : DynamicBuffer) : ℕ :=
  if s.buffer.pBuf.isSome ∧ b.pBuf = none then s.lost + 1 else s.lost

/-- A buffer from its constructor on.  A source buffer is an object, of less than `PTRDIFF_MAX`
bytes.
dd_dynamic_buffer.cpp:29-156 -/
def dynamicBufferMachine : Machine DynamicBufferRun DynamicBufferAction Unit where
  init s := s = ⟨⟨none, 0, 0, .success⟩, [], false, 0⟩
  step s a :=
    let failed := s.failed || s.buffer.refused a
    match a with
    | .reserve reserveSize answer => (s.buffer.reserve reserveSize answer).map fun r =>
      (⟨r.2, s.copied, failed, s.lostAfter r.2⟩, ())
    | .copy srcBuf answer =>
      if srcBuf.length < 2 ^ 63 then (s.buffer.copy srcBuf answer).map fun b =>
        (⟨b, if failed then s.copied else s.copied ++ srcBuf, failed, s.lostAfter b⟩, ())
      else none
    | .clear => some (⟨{ s.buffer with size := 0 }, [], failed, s.lost⟩, ())
    | .transfer => some (⟨s.buffer.transfer.2.2, [], false, s.lost⟩, ())

structure RingBuffer where
  bufSize : UInt32
  bufSizeMask : UInt32
  write : UInt64
  read : UInt64

structure Work where
  offset : UInt32
  size : UInt32

namespace RingBuffer

/-- `SetBuffer` on a new ring buffer.
dd_ring_buffer.cpp:10-17, dd_ring_buffer.h:36-43 -/
def setBuffer (bufferSize : UInt32) : RingBuffer := ⟨bufferSize, bufferSize - 1, 0, 0⟩

/-- What the calls compute of the cursors: `occupiedBufSize` and `writtenDataSize`. -/
def writtenDataSize (r : RingBuffer) : UInt64 := r.write - r.read

/-- The assertions of the calls. -/
def asserts (r : RingBuffer) : Bool := r.write ≥ r.read ∧ r.writtenDataSize ≤ r.bufSize.toUInt64

/-- `AcquireForWrite`, and whether its assertions hold.
dd_ring_buffer.cpp:19-43 -/
def acquireForWrite (r : RingBuffer) (size : UInt32) : Work × Bool × RingBuffer :=
  if size > 0 then
    if r.bufSize.toUInt64 - r.writtenDataSize ≥ size.toUInt64 then
      (⟨(r.write &&& r.bufSizeMask.toUInt64).toUInt32, size⟩, r.asserts,
        { r with write := r.write + size.toUInt64 })
    else (⟨0, 0⟩, r.asserts, r)
  else (⟨0, 0⟩, true, r)

def acquire (r : RingBuffer) (acquiredSize : UInt64) : Work × Bool × RingBuffer :=
  let size := acquiredSize.toUInt32
  (⟨(r.read &&& r.bufSizeMask.toUInt64).toUInt32, size⟩, r.asserts,
    { r with read := r.read + size.toUInt64 })

def acquireForRead (r : RingBuffer) (maxSize : UInt32) : Work × Bool × RingBuffer :=
  r.acquire (if r.writtenDataSize > maxSize.toUInt64 then maxSize.toUInt64 else r.writtenDataSize)

def acquireForReadAll (r : RingBuffer) : Work × Bool × RingBuffer := r.acquire r.writtenDataSize

end RingBuffer

/-- A ring buffer and the memory behind both of its mappings. -/
structure MirroredRing where
  ring : RingBuffer
  memory : ℕ → UInt8

/-- An acquisition, the use of the range and the `Release`; the mutex keeps them together.  A write
comes with the bytes for the range. -/
inductive RingAction where
  | write (size : UInt32) (data : List UInt8)
  | read (maxSize : UInt32)
  | readAll

structure RingReply where
  work : Work
  asserts : Bool
  bytes : List UInt8

/-- dd_ring_buffer.cpp:19-80 -/
def ringMachine (bufferSize : UInt32) : Machine MirroredRing RingAction RingReply where
  init s := s.ring = .setBuffer bufferSize
  step s a :=
    let read (r : Work × Bool × RingBuffer) : MirroredRing × RingReply :=
      (⟨r.2.2, s.memory⟩, ⟨r.1, r.2.1,
        getRing s.ring.bufSize.toNat s.memory r.1.offset.toNat r.1.size.toNat⟩)
    match a with
    | .write size data =>
      if data.length = size.toNat then
        let r := s.ring.acquireForWrite size
        let bytes := data.take r.1.size.toNat
        some (⟨r.2.2, putRing s.ring.bufSize.toNat s.memory r.1.offset.toNat bytes⟩,
          ⟨r.1, r.2.1, bytes⟩)
      else none
    | .read maxSize => some (read (s.ring.acquireForRead maxSize))
    | .readAll => some (read s.ring.acquireForReadAll)

end DevDriver.Model
