import DevDriver.Library.Ring
import DevDriver.Model.Message
import Mathlib.Data.Rat.Floor
import Mathlib.Logic.Function.Basic

/-!
# Sessions

`Session` of session.h and session.cpp: the send and receive windows, the state machine and every
method that reads or changes them.

A method takes a `Ctx`, the session together with the `Effects` of the step it is part of.
-/

namespace DevDriver.Model

open Library

/-! ## Constants and enumerations -/

abbrev kDefaultWindowSize : ℕ := 128

instance : NeZero kDefaultWindowSize := ⟨by decide⟩

def kMaxRetransmits : ℕ := 5

def kFastRetransmitThreshold : ℕ := 3

def kMaxUnacknowledgedThreshold : ℕ := 5

/-- `kSessionProtocolVersionSynAckVersion`, which is also `kSessionProtocolVersion`. -/
def kSessionProtocolVersion : SessionVersion := 2

/-- The float arithmetic of the round trip time: its initial value, the moving average of
`MarkMessagesAsAcknowledged` and the timeout in milliseconds `UpdateSendWindow` computes
from it and the retransmit count.
session.h:39, session.cpp:141-145, session.cpp:811-815 -/
class RoundTripTime (ρ : Type) where
  initial : ρ
  average : ℕ → ρ → ρ
  timeout : ρ → ℕ → ℕ

/-- The same formulas in exact arithmetic. -/
instance : RoundTripTime ℚ where
  initial := 50
  average elapsedTimeInMs currentAverage :=
    2 / 3 * elapsedTimeInMs + (1 - 2 / 3) * currentAverage
  timeout roundTripTime retransmitCount :=
    ⌊min (max roundTripTime 100 * 2 ^ (retransmitCount + 1)) 2000⌋.toNat

/-- session.h. -/
inductive SessionState where
  | closed
  | listening
  | synSent
  | synReceived
  | established
  | finWait1
  | closing
  | finWait2
  deriving DecidableEq, Repr

/-- The numeric value of a state, which the source compares states by. -/
def SessionState.toNat : SessionState → ℕ
  | .closed => 0
  | .listening => 1
  | .synSent => 2
  | .synReceived => 3
  | .established => 4
  | .finWait1 => 5
  | .closing => 6
  | .finWait2 => 7

inductive SessionCallbackState where
  | none
  | establishedCalled
  | terminatedCalled
  deriving DecidableEq, Repr

inductive SessionType where
  | client
  | server
  deriving DecidableEq, Repr

/-- The assertions of session.cpp and sessionManager.cpp. -/
inductive Assertion where
  /-- `MarkMessagesAsAcknowledged`: the slot is valid and holds the sequence. -/
  | markSlot
  /-- `MarkMessagesAsAcknowledged`: at most a window of messages is outstanding. -/
  | markDistance
  /-- `WriteMessageIntoSendWindow`: less than a window of messages is outstanding. -/
  | writeDistance
  /-- `WriteMessageIntoSendWindow`: the slot is free. -/
  | writeSlot
  /-- `WriteMessageIntoSendWindow`: there is a payload pointer just when the size is positive. -/
  | writePayload
  /-- `UpdateSendWindow`: the slot to retransmit is valid. -/
  | retransmitValid
  /-- `UpdateSendWindow`: the slot to retransmit holds the sequence. -/
  | retransmitSequence
  /-- `UpdateSendWindow`: "Transmit window data corruption detected". -/
  | transmitCorruption
  /-- `WriteMessageIntoReceiveWindow`: the scan has left the next unread sequence. -/
  | receiveScan
  /-- `CalculateCurrentWindowSize`: the window does not hold a negative number of messages. -/
  | windowSize
  /-- `Receive`: there is a message to read. -/
  | receiveAvailable
  /-- `Receive`: the slot is valid and holds the next unread sequence. -/
  | receiveSlot
  /-- `Receive`: a message that is not Data is Fin. -/
  | receiveFin
  /-- `HandleSynMessage`: the session is a server session. -/
  | synServer
  /-- `HandleSynAckMessage`: the session is a client session. -/
  | synAckClient
  /-- `HandleMessage`: the message kind is known. -/
  | messageKind
  /-- `HandleMessage`: an established server session has a protocol server. -/
  | establishedServer
  /-- `HandleMessage`: no callback was made before `SessionEstablished`. -/
  | establishedCallback
  /-- `Update`: an established server session has made its callback. -/
  | updateCallback
  /-- `Update`: an established server session has a protocol server. -/
  | updateServer
  /-- `Update`: a terminating server session has a protocol server. -/
  | terminateServer
  /-- `HandleUnregisterProtocolServer`: the session is a server session. -/
  | unregisterType
  /-- `HandleUnregisterProtocolServer`: the server has the session's protocol. -/
  | unregisterProtocol
  /-- `FindOpenSession`: the session's id is the key it is filed under. -/
  | findSessionId
  /-- `HandleReceivedSessionMessage`: the message comes from the session's remote client. -/
  | routedClient
  deriving DecidableEq, Repr

abbrev SessionRef := ℕ

abbrev ServerRef := ℕ

inductive Callback where
  | sessionEstablished (pServer : ServerRef) (pSession : SessionRef)
  | updateSession (pServer : ServerRef) (pSession : SessionRef)
  | sessionTerminated (pServer : ServerRef) (pSession : SessionRef) (reason : Result)
  deriving DecidableEq

/-- What a step does to the outside, and what is left of the answers it gets. -/
structure Effects where
  answers : List Result
  clock : List ℕ
  protocolServer : Protocol → Option ServerRef
  forwarded : List (MessageBuffer × Result)
  callbacks : List Callback
  failedAsserts : List Assertion
  /-- a loop of the step was left by its iteration bound: the source would loop forever -/
  spinning : Bool

namespace Effects

def start (answers : List Result) (clock : List ℕ)
    (protocolServer : Protocol → Option ServerRef) : Effects :=
  ⟨answers, clock, protocolServer, [], [], [], false⟩

/-- `GetCurrentTimeInMs`. -/
def currentTime (fx : Effects) : ℕ := fx.clock.headD 0

def tick (fx : Effects) : Effects := { fx with clock := fx.clock.tail }

/-- `DD_ASSERT(condition)`. -/
def check (fx : Effects) (a : Assertion) (condition : Bool) : Effects :=
  if condition then fx else { fx with failedAsserts := fx.failedAsserts ++ [a] }

def forward (m : MessageBuffer) (fx : Effects) : Effects × Result :=
  ({ fx with
      answers := fx.answers.tail
      forwarded := fx.forwarded ++ [(m, fx.answers.headD .success)] },
    fx.answers.headD .success)

def inFlight (fx : Effects) : List MessageBuffer :=
  fx.forwarded.filterMap fun p => if p.2 = .success then some p.1 else none

/-- `Forward` again and again while it answers `NotReady`, over the list of answers. -/
def forwardRetry (m : MessageBuffer) : List Result → Effects → Effects × Result
  | .notReady :: answers, fx => forwardRetry m answers (forward m fx).1
  | _, fx => forward m fx

end Effects

/-! ## The session object -/

/-- session.h:161-200. -/
structure TransmitWindow (size : ℕ) (ρ : Type) where
  messages : Fin size → MessageBuffer
  sequence : Fin size → ℕ
  initialTransmitTimeInMs : Fin size → ℕ
  valid : Fin size → Bool
  semaphore : ℕ
  nextSequence : ℕ
  nextUnacknowledgedSequence : ℕ
  lastSentSequence : ℕ
  lastAckCount : ℕ
  roundTripTime : ρ
  retransmitCount : ℕ
  lastAvailableSize : ℕ

/-- `TransmitWindow()`. -/
def TransmitWindow.new (size : ℕ) (ρ : Type) [RoundTripTime ρ] : TransmitWindow size ρ where
  messages := fun _ => .zero
  sequence := fun _ => 0
  initialTransmitTimeInMs := fun _ => 0
  valid := fun _ => false
  semaphore := size
  nextSequence := 1
  nextUnacknowledgedSequence := 1
  lastSentSequence := 0
  lastAckCount := 0
  roundTripTime := RoundTripTime.initial
  retransmitCount := 0
  lastAvailableSize := 1

/-- session.h:202-232. -/
structure ReceiveWindow (size : ℕ) where
  messages : Fin size → MessageBuffer
  sequence : Fin size → ℕ
  valid : Fin size → Bool
  semaphore : ℕ
  nextUnreadSequence : ℕ
  nextExpectedSequence : ℕ
  lastUnacknowledgedSequence : ℕ
  currentAvailableSize : ℕ

def maxAdvertizedSize (size : ℕ) : ℕ := size - size / 2

/-- `ReceiveWindow()`. -/
def ReceiveWindow.new (size : ℕ) : ReceiveWindow size where
  messages := fun _ => .zero
  sequence := fun _ => 0
  valid := fun _ => false
  semaphore := 0
  nextUnreadSequence := 1
  nextExpectedSequence := 1
  lastUnacknowledgedSequence := 1
  currentAvailableSize := maxAdvertizedSize size

/-- session.h:234-251; the user data pointer and the session name are left out,
as no method here reads them. -/
structure Session (ρ : Type) where
  sendWindow : TransmitWindow kDefaultWindowSize ρ
  receiveWindow : ReceiveWindow kDefaultWindowSize
  protocol : Protocol
  clientId : ClientId
  remoteClientId : ClientId
  sessionId : SessionId
  sessionState : SessionState
  callbackState : SessionCallbackState
  sessionType : SessionType
  sessionTerminationReason : Result
  protocolVersion : Version
  minClientProtocolVersion : Version
  sessionVersion : SessionVersion
  connectionEvent : Bool
  disconnectionEvent : Bool

structure Ctx (ρ : Type) where
  session : Session ρ
  fx : Effects

namespace Session

variable {ρ : Type}

/-- `Session::Session`. -/
def new (ρ : Type) [RoundTripTime ρ] (clientId : ClientId) (type : SessionType)
    (protocol : Protocol) : Session ρ where
  sendWindow := .new _ ρ
  receiveWindow := .new _
  protocol := protocol
  clientId := clientId
  remoteClientId := kBroadcastClientId
  sessionId := kInvalidSessionId
  sessionState := .closed
  callbackState := .none
  sessionType := type
  sessionTerminationReason := .success
  protocolVersion := 0
  minClientProtocolVersion := 0
  sessionVersion := kSessionProtocolVersion
  connectionEvent := false
  disconnectionEvent := false

def setState (newState : SessionState) (s : Session ρ) : Session ρ :=
  { s with sessionState := newState }

/-- session.cpp:944-974 -/
def shutdown (reason : Result) (s : Session ρ) : Session ρ :=
  let s := { s with sessionTerminationReason := reason }
  match s.sessionState with
  | .closed | .finWait1 | .finWait2 | .closing =>
    if reason ≠ .success then s.setState .closed else s
  | .established =>
    if reason = .success then s.setState .finWait1 else s.setState .closed
  | _ => s.setState .closed

end Session

namespace Ctx

variable {ρ : Type}

def setSend (w : TransmitWindow kDefaultWindowSize ρ) (c : Ctx ρ) : Ctx ρ :=
  { c with session := { c.session with sendWindow := w } }

def setReceive (w : ReceiveWindow kDefaultWindowSize) (c : Ctx ρ) : Ctx ρ :=
  { c with session := { c.session with receiveWindow := w } }

def setState (newState : SessionState) (c : Ctx ρ) : Ctx ρ :=
  { c with session := c.session.setState newState }

def shutdown (reason : Result) (c : Ctx ρ) : Ctx ρ :=
  { c with session := c.session.shutdown reason }

/-- `DD_ASSERT(condition)`. -/
def check (a : Assertion) (condition : Bool) (c : Ctx ρ) : Ctx ρ :=
  { c with fx := c.fx.check a condition }

end Ctx

section Sending

variable {ρ : Type}

def sendOrClose (m : MessageBuffer) (c : Ctx ρ) : Ctx ρ × Bool :=
  let r := Effects.forwardRetry m c.fx.answers c.fx
  if r.2 ≠ .success then (Ctx.shutdown .error { c with fx := r.1 }, false)
  else ({ c with fx := r.1 }, true)

def controlMessage (command : SessionMessage) (sequenceNumber : ℕ) (s : Session ρ) :
    MessageBuffer where
  header :=
    { dstClientId := s.remoteClientId
      srcClientId := s.clientId
      protocolId := Protocol.session
      messageId := command.toCode
      sessionId := s.sessionId
      sequence := sequenceNumber
      payloadSize := 0
      windowSize := s.receiveWindow.currentAvailableSize }
  payload := MessageBuffer.zero.payload

def sendControlMessage (command : SessionMessage) (sequenceNumber : ℕ) (c : Ctx ρ) :
    Ctx ρ × Bool :=
  sendOrClose (controlMessage command sequenceNumber c.session) c

/-- `static_cast<int32>` of a 64-bit unsigned value. -/
def toInt32 (n : ℕ) : ℤ := Int.bmod n (2 ^ 32)

/-- `Session::CalculateCurrentWindowSize`; its assertion is made by the callers.
session.cpp:745-757 -/
def calculateCurrentWindowSize (w : ReceiveWindow kDefaultWindowSize) : ℕ :=
  let windowSize := toInt32 (maxAdvertizedSize kDefaultWindowSize) -
    toInt32 (sub64 w.nextExpectedSequence w.nextUnreadSequence)
  (max windowSize 1).toNat % 2 ^ 16

/-- The assertion of `CalculateCurrentWindowSize`. -/
def checkWindowSize (c : Ctx ρ) : Ctx ρ :=
  c.check .windowSize
    (c.session.receiveWindow.nextExpectedSequence ≥ c.session.receiveWindow.nextUnreadSequence)

def ReceiveWindow.acknowledged (w : ReceiveWindow kDefaultWindowSize) :
    ReceiveWindow kDefaultWindowSize :=
  { w with
    lastUnacknowledgedSequence := w.nextExpectedSequence
    currentAvailableSize := calculateCurrentWindowSize w }

def sendAckMessage (c : Ctx ρ) : Ctx ρ × Bool :=
  let seq := c.session.receiveWindow.nextExpectedSequence
  let c := checkWindowSize c
  let c := c.setReceive c.session.receiveWindow.acknowledged
  sendControlMessage .ack (sub64 seq 1) c

end Sending

end DevDriver.Model
