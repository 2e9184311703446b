import DevDriver.Model.Session

/-!
# The send window

The methods of `Session` that write, transmit, retransmit and acknowledge the messages of the send
window.
-/

namespace DevDriver.Model

open Library

variable {ρ : Type} [RoundTripTime ρ]

/-- The payload array `dst` after `payloadSizeInBytes` bytes are copied from `pPayload`, where
`none` is the null pointer, from which nothing is copied. -/
def copyPayload (payloadSizeInBytes : ℕ) (pPayload : Option (List UInt8)) (dst : Payload) :
    Payload :=
  match pPayload with
  | some data => writeBytes (data.take payloadSizeInBytes) dst
  | none => dst

/-- The message `WriteMessageIntoSendWindow` leaves in the slot of `seq`, over what the
slot's payload array held. -/
def sendMessage (message : SessionMessage) (payloadSizeInBytes : ℕ)
    (pPayload : Option (List UInt8)) (s : Session ρ) (seq : ℕ) : MessageBuffer where
  header :=
    { srcClientId := s.clientId
      dstClientId := s.remoteClientId
      protocolId := Protocol.session
      messageId := message.toCode
      sessionId := s.sessionId
      windowSize := s.receiveWindow.currentAvailableSize
      sequence := seq
      payloadSize := payloadSizeInBytes }
  payload :=
    copyPayload payloadSizeInBytes pPayload (s.sendWindow.messages (slot _ seq)).payload

def TransmitWindow.write (m : MessageBuffer) (w : TransmitWindow kDefaultWindowSize ρ) :
    TransmitWindow kDefaultWindowSize ρ :=
  let index := slot kDefaultWindowSize w.nextSequence
  { w with
    nextSequence := w.nextSequence + 1
    messages := Function.update w.messages index m
    sequence := Function.update w.sequence index w.nextSequence
    valid := Function.update w.valid index true }

/-- `m_sendWindow.semaphore.Wait` that finds the semaphore signalled. -/
def TransmitWindow.wait (w : TransmitWindow kDefaultWindowSize ρ) :
    TransmitWindow kDefaultWindowSize ρ :=
  { w with semaphore := w.semaphore - 1 }

/-- The conditions under which `WriteMessageIntoSendWindow` waits for the semaphore. -/
def mayWrite (payloadSizeInBytes : ℕ) (s : Session ρ) : Bool :=
  s.sessionState.toNat < SessionState.finWait2.toNat &&
    payloadSizeInBytes ≤ kMaxPayloadSizeInBytes

/-- The argument assertion of `WriteMessageIntoSendWindow`: there is a payload pointer just
when the size is positive. -/
def payloadMatches (payloadSizeInBytes : ℕ) (pPayload : Option (List UInt8)) : Bool :=
  (0 < payloadSizeInBytes && pPayload.isSome) || (pPayload.isNone && payloadSizeInBytes = 0)

/-- The locked section of `WriteMessageIntoSendWindow`.
session.cpp:317-351 -/
def writeLocked (message : SessionMessage) (payloadSizeInBytes : ℕ)
    (pPayload : Option (List UInt8)) (c : Ctx ρ) : Ctx ρ :=
  let w := c.session.sendWindow
  let seq := w.nextSequence
  let c := c.check .writeDistance (sub64 seq w.nextUnacknowledgedSequence < kDefaultWindowSize)
  let c := c.check .writeSlot (w.valid (slot _ seq) = false)
  let c := c.check .writePayload (payloadMatches payloadSizeInBytes pPayload)
  c.setSend (w.write (sendMessage message payloadSizeInBytes pPayload c.session seq))

/-- `Session::WriteMessageIntoSendWindow`, where a wait that finds no free slot runs into its
timeout.
session.cpp:301-361 -/
def writeMessageIntoSendWindow (message : SessionMessage) (payloadSizeInBytes : ℕ)
    (pPayload : Option (List UInt8)) (c : Ctx ρ) : Ctx ρ × Result :=
  if c.session.sessionState.toNat < SessionState.finWait2.toNat then
    if payloadSizeInBytes ≤ kMaxPayloadSizeInBytes then
      if 0 < c.session.sendWindow.semaphore then
        (writeLocked message payloadSizeInBytes pPayload
          (c.setSend c.session.sendWindow.wait), .success)
      else (c, .notReady)
    else (c, .insufficientMemory)
  else (c, .error)

/-- The state of the first pass of `MarkMessagesAsAcknowledged`. -/
structure AckScan (ρ : Type) where
  window : TransmitWindow kDefaultWindowSize ρ
  seq : ℕ
  currentAverage : ρ
  failed : List Assertion

def AckScan.acknowledge (currentTime : ℕ) (a : AckScan ρ) : AckScan ρ where
  window :=
    { a.window with
      valid := Function.update a.window.valid (slot _ a.seq) false
      semaphore := a.window.semaphore + 1 }
  seq := a.seq + 1
  currentAverage :=
    if a.window.retransmitCount = 0 then
      RoundTripTime.average
        (sub64 currentTime (a.window.initialTransmitTimeInMs (slot _ a.seq))) a.currentAverage
    else a.currentAverage
  failed :=
    if sub64 a.window.nextSequence a.seq ≤ kDefaultWindowSize then a.failed
    else a.failed ++ [.markDistance]

/-- The first pass of `MarkMessagesAsAcknowledged`, at most the given number of iterations.
session.cpp:128-150 -/
def ackScan (currentTime : ℕ) (maxSequenceNumber : ℕ) : ℕ → AckScan ρ → AckScan ρ
  | 0, a => a
  | n + 1, a =>
    if a.seq ≤ min maxSequenceNumber a.window.lastSentSequence then
      if a.window.valid (slot _ a.seq) ∧ a.window.sequence (slot _ a.seq) = a.seq then
        ackScan currentTime maxSequenceNumber n (a.acknowledge currentTime)
      else { a with failed := a.failed ++ [.markSlot] }
    else a

def TransmitWindow.stamp (index : Fin kDefaultWindowSize) (windowSize : ℕ)
    (w : TransmitWindow kDefaultWindowSize ρ) : TransmitWindow kDefaultWindowSize ρ :=
  let m := w.messages index
  { w with
    messages := Function.update w.messages index
      { m with header := { m.header with windowSize := windowSize } } }

/-- The sequence number the fast retransmit sends for the current number of duplicate acks. -/
def TransmitWindow.retransSeq (w : TransmitWindow kDefaultWindowSize ρ) : ℕ :=
  w.nextUnacknowledgedSequence + (w.lastAckCount - kFastRetransmitThreshold)

/-- The retransmission of one message after a duplicate ack.
session.cpp:177-193 -/
def fastRetransmit (c : Ctx ρ) : Ctx ρ :=
  let index := slot kDefaultWindowSize c.session.sendWindow.retransSeq
  let c := c.setSend
    (c.session.sendWindow.stamp index c.session.receiveWindow.currentAvailableSize)
  let r := sendOrClose (c.session.sendWindow.messages index) c
  if r.2 then r.1.setSend { r.1.session.sendWindow with retransmitCount := 0 } else r.1

/-- An ack that acknowledged no message: count it and, from the threshold on, retransmit.
`lastAckCount` is a 32-bit counter.
session.cpp:164-194 -/
def duplicateAck (c : Ctx ρ) : Ctx ρ :=
  let w := c.session.sendWindow
  let c := c.setSend { w with lastAckCount := (w.lastAckCount + 1) % 2 ^ 32 }
  if kFastRetransmitThreshold ≤ c.session.sendWindow.lastAckCount then fastRetransmit c else c

/-- The window after the first pass has acknowledged the messages before `a.seq`. -/
def AckScan.advance (a : AckScan ρ) : TransmitWindow kDefaultWindowSize ρ :=
  { a.window with
    roundTripTime := a.currentAverage
    retransmitCount := 0
    nextUnacknowledgedSequence := a.seq
    lastAckCount := 0 }

def Ctx.ackScan (maxSequenceNumber : ℕ) (c : Ctx ρ) : AckScan ρ :=
  let w := c.session.sendWindow
  Model.ackScan c.fx.currentTime maxSequenceNumber
    (w.lastSentSequence + 1 - w.nextUnacknowledgedSequence)
    ⟨w, w.nextUnacknowledgedSequence, w.roundTripTime, []⟩

/-- `Session::MarkMessagesAsAcknowledged`; no caller uses its result.
session.cpp:122-197 -/
def markMessagesAsAcknowledged (maxSequenceNumber : ℕ) (c : Ctx ρ) : Ctx ρ :=
  let a := c.ackScan maxSequenceNumber
  let fx := c.fx.tick
  let c : Ctx ρ :=
    { session := { c.session with sendWindow := a.window }
      fx := { fx with failedAsserts := fx.failedAsserts ++ a.failed } }
  if a.window.nextUnacknowledgedSequence < a.seq then c.setSend a.advance
  else if a.window.nextUnacknowledgedSequence = a.seq then duplicateAck c
  else c

/-- The retransmission loop of `UpdateSendWindow`, at most the given number of iterations.
The second result is the 8-bit count of retransmitted messages.
session.cpp:821-849 -/
def retransmitLoop (currentTime currentTimeout : ℕ) :
    ℕ → ℕ → ℕ → Ctx ρ → Ctx ρ × ℕ
  | 0, _, count, c => (c, count)
  | n + 1, seq, count, c =>
    let w := c.session.sendWindow
    let index := slot kDefaultWindowSize seq
    if seq ≤ w.lastSentSequence then
      -- the messages are in transmission order, so the first one in time ends the loop
      if sub64 currentTime (w.initialTransmitTimeInMs index) ≤ currentTimeout then (c, count)
      else
        let c := c.check .retransmitValid (w.valid index)
        let c := c.check .retransmitSequence (w.sequence index = seq)
        let c := c.setSend (w.stamp index c.session.receiveWindow.currentAvailableSize)
        let r := sendOrClose (c.session.sendWindow.messages index) c
        if r.2 then
          retransmitLoop currentTime currentTimeout n (seq + 1) ((count + 1) % 256) r.1
        else (r.1, count)
    else (c, count)

/-- The first half of `UpdateSendWindow`: retransmit what has timed out, and give up after
too many retransmissions.
session.cpp:804-861 -/
def retransmitTimedOut (c : Ctx ρ) : Ctx ρ :=
  let w := c.session.sendWindow
  if w.nextUnacknowledgedSequence ≤ w.lastSentSequence then
    if w.retransmitCount ≤ kMaxRetransmits then
      let r := retransmitLoop c.fx.currentTime
        (RoundTripTime.timeout w.roundTripTime w.retransmitCount)
        (w.lastSentSequence + 1 - w.nextUnacknowledgedSequence) w.nextUnacknowledgedSequence 0
        { c with fx := c.fx.tick }
      if 0 < r.2 then
        r.1.setSend
          { r.1.session.sendWindow with
            retransmitCount := r.1.session.sendWindow.retransmitCount + 1 }
      else r.1
    else c.shutdown .notReady
  else c

def TransmitWindow.transmitted (index : Fin kDefaultWindowSize) (currentTime : ℕ)
    (w : TransmitWindow kDefaultWindowSize ρ) : TransmitWindow kDefaultWindowSize ρ :=
  { w with
    initialTransmitTimeInMs := Function.update w.initialTransmitTimeInMs index currentTime
    lastSentSequence := (w.messages index).header.sequence
    lastAvailableSize := w.lastAvailableSize - 1 }

/-- The transmit loop of `UpdateSendWindow`, at most the given number of iterations; the
second result tells whether the loop ended by itself.
session.cpp:866-897 -/
def transmitLoop : ℕ → ℕ → Ctx ρ → Ctx ρ × Bool
  | 0, _, c => (c, false)
  | n + 1, seq, c =>
    let w := c.session.sendWindow
    let index := slot kDefaultWindowSize seq
    if seq < w.nextSequence ∧ 0 < w.lastAvailableSize then
      if w.valid index ∧ seq = w.sequence index then
        let c := c.setSend (w.stamp index c.session.receiveWindow.currentAvailableSize)
        let r := Effects.forward (c.session.sendWindow.messages index) c.fx
        if r.2 = .success then
          let c : Ctx ρ := { c with fx := r.1.tick }
          transmitLoop n (seq + 1)
            (c.setSend (c.session.sendWindow.transmitted index r.1.currentTime))
        else if r.2 ≠ .notReady then (Ctx.shutdown .error { c with fx := r.1 }, true)
        else ({ c with fx := r.1 }, true)
      else transmitLoop n seq (c.check .transmitCorruption false)
    else (c, true)

/-- The iterations the transmit loop needs when each of them advances. -/
def TransmitWindow.transmitBound (w : TransmitWindow kDefaultWindowSize ρ) : ℕ :=
  w.nextSequence - w.lastSentSequence + 1

def updateSendWindow (c : Ctx ρ) : Ctx ρ :=
  let c := retransmitTimedOut c
  let w := c.session.sendWindow
  let r := transmitLoop w.transmitBound (w.lastSentSequence + 1) c
  if r.2 then r.1 else { r.1 with fx := { r.1.fx with spinning := true } }

def updateSendWindowSize (m : MessageBuffer) (c : Ctx ρ) : Ctx ρ :=
  c.setSend { c.session.sendWindow with lastAvailableSize := m.header.windowSize }

def isSendWindowEmpty (s : Session ρ) : Bool :=
  let w := s.sendWindow
  let isEmpty : Bool := w.nextUnacknowledgedSequence > w.lastSentSequence
  if s.sessionVersion ≥ kSessionProtocolVersion then
    isEmpty && w.lastSentSequence + 1 = w.nextSequence
  else isEmpty

end DevDriver.Model
