import DevDriver.Model.EventParser

/-!
# The event provider

A provider writes its events as tokens into chunks of 64 KiB, which a flush hands to the queue of
its session.
-/

namespace DevDriver.Model

open Library

def kEventTimeDeltaThreshold : UInt64 := 15

def kEventTimestampThreshold : UInt64 := 281474976710655

inductive EventTimestamp where
  | full (timestamp frequency : UInt64)
  | largeDelta (delta : UInt64) (numBytes : ℕ)
  | smallDelta (delta : UInt8)
  deriving DecidableEq, Repr

structure EventTimer where
  timestampFrequency : UInt64
  lastTimestamp : UInt64
  deriving DecidableEq, Repr

namespace EventTimer

/-- The loop that counts the bytes of a delta, in some rounds at most. -/
def countBytes (delta : UInt64) : ℕ → ℕ → ℕ
  | 0, numBytes => numBytes
  | rounds + 1, numBytes =>
    if 2 ^ (numBytes * 8) - 1 < delta.toNat then countBytes delta rounds (numBytes + 1)
    else numBytes

/-- `CreateTimestamp` at this reading of the clock.
ddEventTimer.cpp:20-76 -/
def createTimestamp (timestamp : UInt64) (timer : EventTimer) : EventTimestamp × EventTimer :=
  let deltaSinceLastToken := (timestamp - timer.lastTimestamp) / kEventTimeUnit
  if deltaSinceLastToken > kEventTimestampThreshold ∨ timer.lastTimestamp = 0 then
    (.full (timestamp / kEventTimeUnit) timer.timestampFrequency,
      { timer with lastTimestamp := timestamp })
  else if deltaSinceLastToken > kEventTimeDeltaThreshold then
    (.largeDelta deltaSinceLastToken (countBytes deltaSinceLastToken 7 1),
      { timer with lastTimestamp := timestamp })
  else (.smallDelta (deltaSinceLastToken / kEventTimeUnit).toUInt8, timer)

def reset (timer : EventTimer) : EventTimer := { timer with lastTimestamp := 0 }

end EventTimer

/-! ## Chunks -/

def kEventChunkMaxDataSize : ℕ := 65532

structure EventChunk where
  data : List UInt8
  fits : data.length ≤ kEventChunkMaxDataSize

namespace EventChunk

def empty : EventChunk := ⟨[], Nat.zero_le _⟩

/-- `CalculateBytesRemaining`. -/
def bytesRemaining (chunk : EventChunk) : ℕ := kEventChunkMaxDataSize - chunk.data.length

def isEmpty (chunk : EventChunk) : Bool := chunk.data.isEmpty

def isFull (chunk : EventChunk) : Bool := chunk.data.length == kEventChunkMaxDataSize

theorem length_append_take_le (chunk : EventChunk) (bytes : List UInt8) :
    (chunk.data ++ bytes.take chunk.bytesRemaining).length ≤ kEventChunkMaxDataSize := by
  have hfits := chunk.fits
  have htake := List.length_take_le chunk.bytesRemaining bytes
  unfold bytesRemaining at htake ⊢
  rw [List.length_append]
  omega

/-- As much of the bytes as the chunk has room for.
ddEventProtocol.h:380-396, 435-440 -/
def write (bytes : List UInt8) (chunk : EventChunk) : EventChunk :=
  ⟨chunk.data ++ bytes.take chunk.bytesRemaining, chunk.length_append_take_le bytes⟩

end EventChunk

/-- The chunks in front of the current one, the current one, and those
behind it. -/
structure EventChunkBufferView where
  before : List EventChunk
  current : EventChunk
  after : List EventChunk

namespace EventChunkBufferView

def chunks (view : EventChunkBufferView) : List EventChunk :=
  view.before ++ view.current :: view.after

/-- The next chunk becomes the current one if that is full; there is none to become it if it is the
last. -/
def advance (view : EventChunkBufferView) : Option EventChunkBufferView :=
  if view.current.isFull then
    match view.after with
    | [] => none
    | next :: after => some ⟨view.before ++ [view.current], next, after⟩
  else some view

def writeRound (bytes : List UInt8) (view : EventChunkBufferView) :
    Option (List UInt8 × EventChunkBufferView) :=
  view.advance.map fun view =>
    (bytes.drop view.current.bytesRemaining, { view with current := view.current.write bytes })

/-- The loop of `Write`, in some rounds at most. -/
def writeRounds : ℕ → List UInt8 → EventChunkBufferView → Bool × EventChunkBufferView
  | 0, _, view => (false, view)
  | rounds + 1, bytes, view =>
    match view.writeRound bytes with
    | none => (false, view)
    | some ([], view) => (true, view)
    | some (b :: rest, view) => writeRounds rounds (b :: rest) view

/-- `Write`, with whether it succeeds.  Every round but the first goes to a next chunk.
ddEventProtocol.h:408-456 -/
def write (bytes : List UInt8) (view : EventChunkBufferView) : Bool × EventChunkBufferView :=
  writeRounds (view.after.length + 2) bytes view

/-- One write after the other, until one fails. -/
def writeAll : List (List UInt8) → EventChunkBufferView → Bool × EventChunkBufferView
  | [], view => (true, view)
  | piece :: pieces, view =>
    match view.write piece with
    | (true, view) => writeAll pieces view
    | (false, view) => (false, view)

def writeEventProviderToken (providerId : UInt32) (frequency timestamp : UInt64)
    (view : EventChunkBufferView) : Bool × EventChunkBufferView :=
  view.writeAll [[eventTokenHeader .provider 0],
    leBytes 4 providerId.toNat ++ (leBytes 4 0 ++ (leBytes 8 frequency.toNat ++
      leBytes 8 timestamp.toNat))]

def writeEventDataToken (delta : UInt8) (eventId index : UInt32) (eventDataSize : ℕ)
    (view : EventChunkBufferView) : Bool × EventChunkBufferView :=
  view.writeAll [[eventTokenHeader .data delta.toNat],
    leBytes 4 eventId.toNat ++ (leBytes 4 index.toNat ++ leBytes 8 eventDataSize)]

def writeEventTimestampToken (frequency timestamp : UInt64) (view : EventChunkBufferView) :
    Bool × EventChunkBufferView :=
  view.writeAll [[eventTokenHeader .timestamp 0],
    leBytes 8 frequency.toNat ++ leBytes 8 timestamp.toNat]

def writeEventTimeDeltaToken (numBytes : ℕ) (timeDelta : UInt64) (view : EventChunkBufferView) :
    Bool × EventChunkBufferView :=
  view.writeAll [[eventTokenHeader .timeDelta 0], [UInt8.ofNat numBytes],
    leBytes numBytes timeDelta.toNat]

end EventChunkBufferView

/-! ## The provider -/

/-- The event, and the largest tokens that it may need.
ddEventProvider.cpp:13-25 -/
def calculateWorstCaseSize (eventDataSize : ℕ) : ℕ :=
  eventDataSize + (1 + EventTokenType.timestamp.size) + (1 + EventTokenType.data.size)

/-- `BaseEventProvider`, enabled, with the queue of its session.  The queue is kept whole: chunks
that the session has taken off it are still there. -/
structure BaseEventProvider where
  id : UInt32
  flushFrequencyInMs : UInt64
  eventTimer : EventTimer
  eventDataIndex : UInt32
  nextFlushTime : UInt64
  eventChunks : List EventChunk
  queue : List EventChunk

/-- A call of `WriteEventWithHeader`: its arguments, the readings of the clock when it begins a
stream and for the event itself, the time in milliseconds, and which of its allocations succeed.
When these run out, the next one fails.  The event and its tokens fit into the memory. -/
structure EventWrite where
  eventId : UInt32
  header : Option (List UInt8)
  eventData : List UInt8
  streamReading : UInt64
  reading : UInt64
  allocations : List Bool
  currentTime : UInt64
  fits : (header.getD []).length + eventData.length + 34 < 2 ^ 64

namespace EventWrite

def bytes (w : EventWrite) : List UInt8 := w.header.getD [] ++ w.eventData

def totalEventSize (w : EventWrite) : ℕ := (w.header.getD []).length + w.eventData.length

end EventWrite

namespace BaseEventProvider

def new (id : UInt32) (flushFrequencyInMs timestampFrequency : UInt64) : BaseEventProvider :=
  ⟨id, flushFrequencyInMs, ⟨timestampFrequency, 0⟩, 0, 0, [], []⟩

/-- `Flush`, and `EnqueueEventChunks`, which leaves out the empty chunks.
ddEventProvider.cpp:294-303, ddEventServerSession.cpp:394-425 -/
def flush (p : BaseEventProvider) : BaseEventProvider :=
  { p with
    queue := p.queue ++ p.eventChunks.filter fun chunk => !chunk.isEmpty
    eventChunks := [] }

/-- `UpdateFlushTimer` at this time.
ddEventProvider.cpp:277-291 -/
def updateFlushTimer (currentTime : UInt64) (p : BaseEventProvider) : BaseEventProvider :=
  if p.flushFrequencyInMs > 0 ∧ currentTime ≥ p.nextFlushTime then
    { p with nextFlushTime := currentTime + p.flushFrequencyInMs }.flush
  else p

/-- The fields of a full timestamp, the only kind that a timer gives out after a reset. -/
def fullTimestamp : EventTimestamp → UInt64 × UInt64
  | .full timestamp frequency => (timestamp, frequency)
  | _ => (0, 0)

/-- `BeginEventStream` with `WriteStreamPreamble`: the first chunk of the stream, and which of the
allocations are left.
ddEventProvider.cpp:448-484 -/
def beginEventStream (reading : UInt64) (allocations : List Bool) (p : BaseEventProvider) :
    Option (EventChunk × List Bool) × BaseEventProvider :=
  match allocations with
  | true :: allocations =>
    let (timestamp, timer) := p.eventTimer.reset.createTimestamp reading
    let view := EventChunkBufferView.mk [] .empty []
    match view.writeEventProviderToken p.id (fullTimestamp timestamp).2
        (fullTimestamp timestamp).1 with
    | (true, view) =>
      (some (view.current, allocations),
        { p with eventTimer := timer, eventChunks := [view.current] })
    | (false, _) => (none, { p with eventTimer := timer })
  | _ => (none, p)

def acquireCurrentChunk (reading : UInt64) (allocations : List Bool) (p : BaseEventProvider) :
    Option (EventChunk × List Bool) × BaseEventProvider :=
  match p.eventChunks.getLast? with
  | some chunk => (some (chunk, allocations), p)
  | none => p.beginEventStream reading allocations

/-- How many chunks are allocated until there is enough room.  Each of them takes two allocations,
one for itself and one in the list that it is put into. -/
def allocateChunks (numBytesRequired : ℕ) (allocations : List Bool) (bytesAllocated : ℕ) :
    Option ℕ :=
  if bytesAllocated < numBytesRequired then
    match allocations with
    | true :: true :: allocations =>
      (allocateChunks numBytesRequired allocations
        (bytesAllocated + kEventChunkMaxDataSize)).map (· + 1)
    | _ => none
  else some 0

/-- The view on the chunks to write to.  In front of its current chunk are
those that are used up, which nothing is written to any more.  The chunks that were allocated are
freed when one is missing; they are the last ones, and the others keep their order.
ddEventProvider.cpp:305-379 -/
def acquireEventChunks (numBytesRequired : ℕ) (reading : UInt64) (allocations : List Bool)
    (p : BaseEventProvider) : Option EventChunkBufferView × BaseEventProvider :=
  let hasExistingData := !p.eventChunks.isEmpty
  match p.acquireCurrentChunk reading allocations with
  | (none, p) => (none, p)
  | (some (chunk, true :: allocations), p) =>
    match allocateChunks numBytesRequired allocations chunk.bytesRemaining with
    | some added =>
      (some ⟨p.eventChunks.dropLast, chunk, List.replicate added .empty⟩, p)
    | none => (none, if hasExistingData then p else { p with eventChunks := [] })
  | (some _, p) => (none, p)

/-- Whether it succeeds, and the small delta for the next token.
ddEventProvider.cpp:487-523 -/
def generateEventTimestamp (timestamp : EventTimestamp) (view : EventChunkBufferView) :
    (Bool × EventChunkBufferView) × UInt8 :=
  match timestamp with
  | .full timestamp frequency => (view.writeEventTimestampToken frequency timestamp, 0)
  | .largeDelta delta numBytes => (view.writeEventTimeDeltaToken numBytes delta, 0)
  | .smallDelta delta => ((true, view), delta)

/-- The event is written behind its timestamp, one part after the other until one fails.
ddEventProvider.cpp:197-227 -/
def writeEvent (w : EventWrite) (timestamp : EventTimestamp) (index : UInt32)
    (view : EventChunkBufferView) : Bool × EventChunkBufferView :=
  match generateEventTimestamp timestamp view with
  | ((false, view), _) => (false, view)
  | ((true, view), smallDelta) =>
    match view.writeEventDataToken smallDelta w.eventId index w.totalEventSize with
    | (false, view) => (false, view)
    | (true, view) =>
      match w.header with
      | none => view.write w.eventData
      | some header =>
        match view.write header with
        | (false, view) => (false, view)
        | (true, view) => view.write w.eventData

/-- `WriteEventWithHeader`, with whether it succeeds.
ddEventProvider.cpp:174-252 -/
def writeEventWithHeader (w : EventWrite) (p : BaseEventProvider) : Bool × BaseEventProvider :=
  let requiredSize := calculateWorstCaseSize w.totalEventSize
  match p.acquireEventChunks requiredSize w.streamReading w.allocations with
  | (none, p) => (false, { p with eventDataIndex := p.eventDataIndex + 1 })
  | (some view, p) =>
    let (timestamp, timer) := p.eventTimer.createTimestamp w.reading
    let (result, view) := writeEvent w timestamp p.eventDataIndex view
    let p := { p with eventTimer := timer, eventChunks := view.chunks }
    let p := if result then p.updateFlushTimer w.currentTime else p
    (result, { p with eventDataIndex := p.eventDataIndex + 1 })

end BaseEventProvider

/-- What is done with a provider while it is enabled: an event is written, `Update` looks at the
time, or the chunks are flushed. -/
inductive ProviderCall where
  | write (w : EventWrite)
  | update (currentTime : UInt64)
  | flush

structure WrittenEvent where
  eventId : UInt32
  eventIndex : UInt32
  bytes : List UInt8
  deriving DecidableEq

namespace BaseEventProvider

def call (p : BaseEventProvider) : ProviderCall → Option WrittenEvent × BaseEventProvider
  | .write w =>
    ((if (p.writeEventWithHeader w).1 then some ⟨w.eventId, p.eventDataIndex, w.bytes⟩ else none),
      (p.writeEventWithHeader w).2)
  | .update currentTime => (none, p.updateFlushTimer currentTime)
  | .flush => (none, p.flush)

def calls : List ProviderCall → BaseEventProvider → List WrittenEvent × BaseEventProvider
  | [], p => ([], p)
  | c :: cs, p =>
    ((p.call c).1.toList ++ (calls cs (p.call c).2).1, (calls cs (p.call c).2).2)

end BaseEventProvider

end DevDriver.Model
