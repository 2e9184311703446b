import DevDriver.Model.EventProvider
import DevDriver.Model.EventServer

/-!
# The chunks of an event session

What `EventServerSession` does with event chunks: it allocates them for a provider, takes them back
into its queue when the provider flushes, sends their data in payloads when its client has nothing
to ask, and puts the empty ones into a pool.
-/

namespace DevDriver.Model

open Library

def kMaxEventDataSize : ℕ := kMaxPayloadSizeInBytes - 4

def eventDataUpdate (data : List UInt8) : List UInt8 :=
  [EventMessage.eventDataUpdate.toCode, 0] ++ leBytes 2 data.length ++ data

/-- The event data that a payload carries, if it is an `EventDataUpdatePayload`. -/
def eventDataOf (payload : List UInt8) : List UInt8 :=
  if EventMessage.ofCode (payload.headD 0) = .eventDataUpdate then
    slice payload 4 (leNat (slice payload 2 2))
  else []

namespace SizedPayloadContainer

/-- `CreatePayload` of an `EventDataUpdatePayload`, which has the same size for any event data.
ddEventProtocol.h:227-242, protocolSession.h:50-76 -/
def createEventDataUpdate (data : List UInt8) (c : SizedPayloadContainer) :
    SizedPayloadContainer :=
  ⟨kMaxPayloadSizeInBytes, writeBytes (eventDataUpdate (data.take kMaxEventDataSize)) c.payload⟩

def bytes (c : SizedPayloadContainer) : List UInt8 := readBytes c.payloadSize c.payload

end SizedPayloadContainer

abbrev EventChunkRef := ℕ

/-- 4 MiB of chunks of 64 KiB. -/
def kTargetAllocatedChunks : ℕ := 64

def kTrimFrequencyInMs : UInt64 := 16

def kMaxChunksPerTrim : ℕ := 16

/-- A chunk that `SendEventData` released, with the event bytes that were handed over by then. -/
structure ReleasedChunk where
  pChunk : EventChunkRef
  handedOver : List UInt8
  deriving DecidableEq

/-- `EventServerSession` with its chunks, in the surroundings of a call. -/
structure EventChunkCtx extends EventCtx where
  chunks : EventChunkRef → Option EventChunk
  eventPayloadContainer : SizedPayloadContainer
  eventPayloadPending : Bool
  /-- `m_eventChunkInfo` -/
  pChunk : Option EventChunkRef
  bytesSent : ℕ
  eventChunkPool : List EventChunkRef
  eventChunkQueue : List EventChunkRef
  nextTrimTime : UInt64
  /-- which of the next allocations of a vector succeed; those after them do -/
  allocations : List Bool
  held : List EventChunkRef
  enqueued : List (EventChunkRef × EventChunk)
  released : List ReleasedChunk
  misfreed : List EventChunkRef

namespace EventChunkCtx

def new (event : EventCtx) (chunks : EventChunkRef → Option EventChunk)
    (container : SizedPayloadContainer) (nextTrimTime : UInt64) : EventChunkCtx :=
  ⟨event, chunks, container, false, none, 0, [], [], nextTrimTime, [], [], [], [], []⟩

def acceptedEventBytes (c : EventChunkCtx) : List UInt8 := c.sent.flatMap eventDataOf

def pendingEventBytes (c : EventChunkCtx) : List UInt8 :=
  if c.eventPayloadPending then eventDataOf c.eventPayloadContainer.bytes else []

def handedOver (c : EventChunkCtx) : List UInt8 := c.acceptedEventBytes ++ c.pendingEventBytes

/-- The data of a chunk; there is none at an address where nothing is allocated. -/
def dataAt (c : EventChunkCtx) (pChunk : EventChunkRef) : List UInt8 :=
  match c.chunks pChunk with
  | none => []
  | some chunk => chunk.data

def currentRest (c : EventChunkCtx) : List UInt8 :=
  match c.pChunk with
  | none => []
  | some pChunk => (c.dataAt pChunk).drop c.bytesSent

def queuedBytes (c : EventChunkCtx) : List UInt8 := c.eventChunkQueue.flatMap c.dataAt

end EventChunkCtx

def chunkData (entries : List (EventChunkRef × EventChunk)) : List UInt8 :=
  entries.flatMap (·.2.data)

namespace EventChunkCtx

def pushBack (c : EventChunkCtx) : Bool × EventChunkCtx :=
  match c.allocations with
  | [] => (true, c)
  | succeeds :: allocations => (succeeds, { c with allocations := allocations })

/-- Notes a chunk that is freed while nothing is allocated at its address. -/
def noteFree (pChunk : EventChunkRef) (c : EventChunkCtx) : EventChunkCtx :=
  if c.chunks pChunk = none ∨ pChunk ∈ c.eventChunkPool then
    { c with misfreed := c.misfreed ++ [pChunk] }
  else c

/-- `DD_FREE` of a chunk that is in no list anymore. -/
def ddFree (pChunk : EventChunkRef) (c : EventChunkCtx) : EventChunkCtx :=
  { c.noteFree pChunk with chunks := Function.update c.chunks pChunk none }

def isTargetMemoryUsageExceeded (c : EventChunkCtx) : Bool :=
  decide (kTargetAllocatedChunks < c.eventChunkPool.length)

def freeEventChunk (pChunk : EventChunkRef) (c : EventChunkCtx) : EventChunkCtx :=
  if c.isTargetMemoryUsageExceeded then c.ddFree pChunk
  else
    match (c.noteFree pChunk).pushBack with
    | (true, c) => { c with eventChunkPool := c.eventChunkPool ++ [pChunk] }
    | (false, c) => c

def handOut (pChunk : EventChunkRef) (c : EventChunkCtx) : EventChunkCtx :=
  { c with
    chunks := Function.update c.chunks pChunk (some .empty)
    held := c.held ++ [pChunk] }

/-- `AllocateEventChunk`, with the answer of `DD_CALLOC`.
ddEventServerSession.cpp:337-371 -/
def allocateEventChunk (answer : Option EventChunkRef) (c : EventChunkCtx) : EventChunkCtx :=
  match c.eventChunkPool.getLast? with
  | some pChunk => { c with eventChunkPool := c.eventChunkPool.dropLast }.handOut pChunk
  | none =>
    match answer with
    | some pChunk => c.handOut pChunk
    | none => c

/-- The loop of `TrimEventChunkMemory`, in some rounds at most. -/
def trimRounds : ℕ → EventChunkCtx → EventChunkCtx
  | 0, c => c
  | rounds + 1, c =>
    if c.isTargetMemoryUsageExceeded then
      match c.eventChunkPool.getLast? with
      | some pChunk =>
        trimRounds rounds ({ c with eventChunkPool := c.eventChunkPool.dropLast }.ddFree pChunk)
      | none => c
    else c

/-- `TrimEventChunkMemory`; nothing is done while a provider holds the lock of the pool.
ddEventServerSession.cpp:448-470 -/
def trimEventChunkMemory (locked : Bool) (c : EventChunkCtx) : EventChunkCtx :=
  if locked then c else trimRounds kMaxChunksPerTrim c

/-- `EnqueueEventChunks`; the chunks behind one that the queue has no memory for are lost.
ddEventServerSession.cpp:391-424 -/
def enqueueEventChunks : List EventChunkRef → EventChunkCtx → EventChunkCtx
  | [], c => c
  | pChunk :: rest, c =>
    match c.chunks pChunk with
    | none => c
    | some chunk =>
      if chunk.isEmpty then enqueueEventChunks rest (c.freeEventChunk pChunk)
      else
        match c.pushBack with
        | (true, c) => enqueueEventChunks rest
            { c with
              eventChunkQueue := c.eventChunkQueue ++ [pChunk]
              enqueued := c.enqueued ++ [(pChunk, chunk)] }
        | (false, c) => c

/-- `DequeueEventChunk`, into the current chunk.
ddEventServerSession.cpp:290-291, 431-441 -/
def dequeueEventChunk (c : EventChunkCtx) : EventChunkCtx :=
  { c with
    pChunk := c.eventChunkQueue.head?
    bytesSent := 0
    eventChunkQueue := c.eventChunkQueue.tail }

/-! ## Sending -/

/-- `Send` of the event payload. -/
def sendEventPayload (c : EventChunkCtx) : Result × EventChunkCtx :=
  match c.toEventCtx.send c.eventPayloadContainer.bytes with
  | (result, event) => (result, { c with toEventCtx := event })

/-- The payload that is still to be sent.
ddEventServerSession.cpp:262-269 -/
def sendPending (c : EventChunkCtx) : Result × EventChunkCtx :=
  if c.eventPayloadPending then
    match c.sendEventPayload with
    | (.success, c) => (.success, { c with eventPayloadPending := false })
    | (result, c) => (result, c)
  else (.success, c)

/-- The next payload of the current chunk.
ddEventServerSession.cpp:292-297 -/
def createEventPayload (chunk : EventChunk) (c : EventChunkCtx) : EventChunkCtx :=
  let bytesToSend := min (chunk.data.length - c.bytesSent) kMaxEventDataSize
  { c with
    eventPayloadContainer := c.eventPayloadContainer.createEventDataUpdate
      (slice chunk.data c.bytesSent bytesToSend)
    bytesSent := c.bytesSent + bytesToSend }

/-- The loop over the bytes of the current chunk, in some rounds at most; each of them sends one
byte at least.
ddEventServerSession.cpp:289-309 -/
def sendRounds (chunk : EventChunk) : ℕ → EventChunkCtx → Result × EventChunkCtx
  | 0, c => (.success, c)
  | rounds + 1, c =>
    if c.bytesSent < chunk.data.length then
      match (c.createEventPayload chunk).sendEventPayload with
      | (.success, c) => sendRounds chunk rounds c
      | (result, c) => (result, { c with eventPayloadPending := true })
    else (.success, c)

/-- The current chunk goes back to the pool, and the next one takes its place.
ddEventServerSession.cpp:318-326 -/
def finishChunk (pChunk : EventChunkRef) (c : EventChunkCtx) : EventChunkCtx :=
  dequeueEventChunk
    (freeEventChunk pChunk { c with released := c.released ++ [⟨pChunk, c.handedOver⟩] })

/-- The loop over the chunks, in some rounds at most; each of them but the last takes a chunk from
the queue.
ddEventServerSession.cpp:281-333 -/
def sendChunks : ℕ → EventChunkCtx → EventChunkCtx
  | 0, c => c
  | rounds + 1, c =>
    match c.pChunk with
    | none => c
    | some pChunk =>
      match c.chunks pChunk with
      | none => c
      | some chunk =>
        if c.eventPayloadPending then c
        else
          match c.sendRounds chunk chunk.data.length with
          | (result, c) =>
            if (result = .success ∨ result = .notReady) ∧ chunk.data.length ≤ c.bytesSent then
              sendChunks rounds (c.finishChunk pChunk)
            else c

def sendEventData (c : EventChunkCtx) : EventChunkCtx :=
  match c.sendPending with
  | (.success, c) =>
    let c := if c.pChunk = none then c.dequeueEventChunk else c
    sendChunks (c.eventChunkQueue.length + 1) c
  | (_, c) => c

/-- Whether `ReceivePayload` answers that nothing was received. -/
def receivesNothing (c : EventCtx) : Bool :=
  match c.receives with
  | [] => true
  | .failure result _ :: _ => result = .notReady
  | .payload _ :: _ => false

/-- Whether `UpdateSession` sends event data.
ddEventServerSession.cpp:66-86 -/
def isIdle (pSession : EventSessionRef) (c : EventChunkCtx) : Bool :=
  match c.server.sessions pSession with
  | none => false
  | some session => session.state = .receivePayload ∧ receivesNothing c.toEventCtx

/-- The trim at the end of `UpdateSession`.
ddEventServerSession.cpp:156-162 -/
def trim (currentTime : UInt64) (locked : Bool) (c : EventChunkCtx) : EventChunkCtx :=
  if c.nextTrimTime ≤ currentTime then
    { c with nextTrimTime := currentTime + kTrimFrequencyInMs }.trimEventChunkMemory locked
  else c

def updateSession (pSession : EventSessionRef) (currentTime : UInt64) (locked : Bool)
    (c : EventChunkCtx) : EventChunkCtx :=
  let updated := { c with toEventCtx := c.toEventCtx.updateEventSession pSession }
  (if c.isIdle pSession then updated.sendEventData else updated).trim currentTime locked

end EventChunkCtx

inductive EventChunkAction where
  | allocate (answer : Option EventChunkRef)
  | write (pChunk : EventChunkRef) (chunk : EventChunk)
  | free (pChunk : EventChunkRef) (allocations : List Bool)
  /-- `EnqueueEventChunks` of chunks that a provider holds -/
  | enqueue (pChunks : List EventChunkRef) (allocations : List Bool)
  | update (receives : List ReceiveAnswer) (sends : List Result) (allocations : List Bool)
      (currentTime : UInt64) (locked : Bool)
  /-- the server does something for its other sessions -/
  | others (server : EventServer) (blocks : BlockCtx)

namespace EventChunkCtx

/-- A step of the session and its surroundings.  A provider gives back only what it was given, and
`DD_CALLOC` answers only with what is not allocated. -/
def step (pSession : EventSessionRef) (c : EventChunkCtx) :
    EventChunkAction → Option EventChunkCtx
  | .allocate answer =>
    if answer.all fun pChunk => (c.chunks pChunk).isNone then some (c.allocateEventChunk answer)
    else none
  | .write pChunk chunk =>
    if pChunk ∈ c.held then
      some { c with chunks := Function.update c.chunks pChunk (some chunk) }
    else none
  | .free pChunk allocations =>
    if pChunk ∈ c.held then
      some ({ c with allocations := allocations, held := c.held.erase pChunk }.freeEventChunk
        pChunk)
    else none
  | .enqueue pChunks allocations =>
    if pChunks.Nodup ∧ ∀ pChunk ∈ pChunks, pChunk ∈ c.held then
      some (enqueueEventChunks pChunks
        { c with
          allocations := allocations
          held := c.held.filter fun pChunk => pChunk ∉ pChunks })
    else none
  | .update receives sends allocations currentTime locked =>
    some (updateSession pSession currentTime locked
      { c with
        allocations := allocations
        receives := receives
        sends := sends })
  | .others server blocks =>
    some { c with
      server := { server with
        sessions := Function.update server.sessions pSession (c.server.sessions pSession) }
      blocks := blocks }

end EventChunkCtx

/-- A session of the event server with its chunks, from its establishment on. -/
def eventChunkMachine (pSession : EventSessionRef) : Machine EventChunkCtx EventChunkAction Unit
    where
  init c := ∃ event chunks container nextTrimTime id, c = .new event chunks container nextTrimTime ∧
    event.sent = [] ∧ event.server.sessions pSession = some (.new id)
  step c a := (c.step pSession a).map fun c => (c, ())

end DevDriver.Model
