import DevDriver.Library.ByteStore
import DevDriver.Library.Machine
import DevDriver.Model.Message

/-!
# The shared message queue

A queue of ddDevModeQueue.cpp: message slots in a buffer that processes share, an index for each
end, and two semaphores.
-/

namespace DevDriver.Model

open Library

abbrev QueueMessage := { bytes : List UInt8 // bytes.length = kMaxMessageSizeInBytes }

namespace QueueMessage

/-- `offsetof(MessageHeader, payloadSize)`. -/
abbrev payloadSizeOffset : ℕ := 8

/-- `header.payloadSize`. -/
def payloadSize (m : QueueMessage) : ℕ := leNat (slice m.1 payloadSizeOffset 4)

/-- `sizeof(MessageHeader) + header.payloadSize`. -/
def size (m : QueueMessage) : ℕ := kMessageHeaderSize + m.payloadSize

def encoded (m : QueueMessage) : List UInt8 := m.1.take m.size

end QueueMessage

/-- `sizeof(SharedQueueHeader)`. -/
abbrev kSharedQueueHeaderSize : ℕ := 28

/-- `QueueInfo`, with a shared buffer that has room for the header and every slot. -/
structure QueueInfo where
  bufferSize : UInt32
  messageOffset : ℕ
  queueLength : ℕ
  queueMessageSize : ℕ
  header_le : kSharedQueueHeaderSize ≤ messageOffset
  slots_le : messageOffset + queueMessageSize * queueLength ≤ bufferSize.toNat

def QueueInfo.baseOffset (q : QueueInfo) (index : ℕ) : ℕ :=
  (q.messageOffset + q.queueMessageSize * index) % 2 ^ 32

/-- A wait for a semaphore that fails: a timeout, or an error. -/
abbrev FailedWait := { r : Result // r ≠ .success }

inductive QueueCall where
  | pushWaits (message : QueueMessage)
  | pushLocks (message : QueueMessage)
  | pushSignals (result : Result)
  | pushed (result : Result)
  | popWaits (message : QueueMessage)
  | popLocks (message : QueueMessage)
  | popSignals (result : Result) (message : QueueMessage)
  | popped (result : Result) (message : QueueMessage)

structure SharedQueue where
  semWrite : ℕ
  semRead : ℕ
  readIndex : ℕ
  writeIndex : ℕ
  popCount : UInt32
  pushCount : UInt32
  failCount : UInt32
  memory : ℕ → UInt8
  calls : List QueueCall

inductive QueueEvent where
  | pushed (message : QueueMessage)
  | popped (message : QueueMessage)

/-- The steps of the calls; all but the first two name the call. -/
inductive QueueAction where
  | push (message : QueueMessage)
  | pop (message : QueueMessage)
  | wait (call : ℕ)
  | waitFails (call : ℕ) (result : FailedWait)
  | lock (call : ℕ)
  | signal (call : ℕ)

namespace SharedQueue

/-- The queue of `CreateMessageQueue` over a buffer whose header is zero.
ddDevModeQueue.cpp:215-255 -/
structure IsCreated (q : QueueInfo) (s : SharedQueue) : Prop where
  semWrite : s.semWrite = q.queueLength
  semRead : s.semRead = 0
  readIndex : s.readIndex = 0
  writeIndex : s.writeIndex = 0
  calls : s.calls = []

def setCall (s : SharedQueue) (call : ℕ) (c : QueueCall) : SharedQueue :=
  { s with calls := s.calls.set call c }

/-- `ReleaseSemaphore`, which does nothing at the maximum of the semaphore. -/
def release (q : QueueInfo) (count : ℕ) : ℕ := if count < q.queueLength then count + 1 else count

/-- `PushQueueMessage` up to its wait.
ddDevModeQueue.cpp:103-109 -/
def push (m : QueueMessage) (s : SharedQueue) : SharedQueue :=
  { s with calls := s.calls ++
      [if m.payloadSize ≤ kMaxPayloadSizeInBytes then .pushWaits m else .pushed .error] }

/-- The section of `PushQueueMessage` under the write lock.
ddDevModeQueue.cpp:110-131 -/
def pushSection (q : QueueInfo) (m : QueueMessage) (s : SharedQueue) : SharedQueue × Result :=
  if m.size ≤ q.queueMessageSize then
    ({ s with
        memory := writeAt s.memory (q.baseOffset s.writeIndex) m.encoded
        writeIndex := (s.writeIndex + 1) % q.queueLength
        pushCount := s.pushCount + 1 }, .success)
  else (s, .error)

/-- The section of `PopQueueMessage` under the read lock, with the message that it returns.
ddDevModeQueue.cpp:45-71 -/
def popSection (q : QueueInfo) (message : QueueMessage) (s : SharedQueue) :
    SharedQueue × Result × QueueMessage :=
  let baseOffset := q.baseOffset s.readIndex
  let payloadSize := leNat (readAt s.memory (baseOffset + QueueMessage.payloadSizeOffset) 4)
  if payloadSize ≤ kMaxPayloadSizeInBytes then
    let encodedMsgSize := kMessageHeaderSize + payloadSize
    if h : encodedMsgSize ≤ q.queueMessageSize ∧ encodedMsgSize ≤ kMaxMessageSizeInBytes then
      ({ s with
          readIndex := (s.readIndex + 1) % q.queueLength
          popCount := s.popCount + 1 }, .success,
        ⟨readAt s.memory baseOffset encodedMsgSize ++ message.1.drop encodedMsgSize, by
          rw [List.length_append, length_readAt, List.length_drop, message.2]
          exact Nat.add_sub_of_le h.2⟩)
    else (s, .error, message)
  else (s, .error, message)

def moved (result : Result) (e : QueueEvent) : Option QueueEvent :=
  if result = .success then some e else none

/-- A step of a call; nothing when the call does not stand there or has to wait.
ddDevModeQueue.cpp:32-143 -/
def step (q : QueueInfo) (s : SharedQueue) :
    QueueAction → Option (SharedQueue × Option QueueEvent)
  | .push m => some (s.push m, none)
  | .pop message => some ({ s with calls := s.calls ++ [.popWaits message] }, none)
  | .wait call =>
    match s.calls[call]? with
    | some (.pushWaits m) =>
      if 0 < s.semWrite then
        some ({ s with semWrite := s.semWrite - 1 }.setCall call (.pushLocks m), none)
      else none
    | some (.popWaits message) =>
      if 0 < s.semRead then
        some ({ s with semRead := s.semRead - 1 }.setCall call (.popLocks message), none)
      else none
    | _ => none
  | .waitFails call result =>
    match s.calls[call]? with
    | some (.pushWaits _) =>
      some ({ s with failCount := s.failCount + 1 }.setCall call (.pushed result.1), none)
    | some (.popWaits message) => some (s.setCall call (.popped result.1 message), none)
    | _ => none
  | .lock call =>
    match s.calls[call]? with
    | some (.pushLocks m) =>
      let r := s.pushSection q m
      some (r.1.setCall call (.pushSignals r.2), moved r.2 (.pushed m))
    | some (.popLocks message) =>
      let r := s.popSection q message
      some (r.1.setCall call (.popSignals r.2.1 r.2.2), moved r.2.1 (.popped r.2.2))
    | _ => none
  | .signal call =>
    match s.calls[call]? with
    | some (.pushSignals result) =>
      some ({ s with semRead := release q s.semRead }.setCall call (.pushed result), none)
    | some (.popSignals result message) =>
      some ({ s with semWrite := release q s.semWrite }.setCall call (.popped result message), none)
    | _ => none

end SharedQueue

/-- The shared queue, with its threads in any order. -/
def queueMachine (q : QueueInfo) : Machine SharedQueue QueueAction (Option QueueEvent) where
  init := SharedQueue.IsCreated q
  step := SharedQueue.step q

end DevDriver.Model
