import DevDriver.Model.Session

/-!
# The receive window

The methods of `Session` that file received messages and read them.
-/

namespace DevDriver.Model

open Library

variable {ρ : Type}

/-- The receive window with `m` filed under its sequence number.  Only the header and the
first `payloadSize` bytes are copied. -/
def ReceiveWindow.store (m : MessageBuffer) (w : ReceiveWindow kDefaultWindowSize) :
    ReceiveWindow kDefaultWindowSize :=
  let index := slot kDefaultWindowSize m.header.sequence
  { w with
    messages := Function.update w.messages index
      { header := m.header
        payload :=
          memcpyPayload m.header.payloadSize m.payload (w.messages index).payload }
    sequence := Function.update w.sequence index m.header.sequence
    valid := Function.update w.valid index true }

/-- The scan of `WriteMessageIntoReceiveWindow` from `nextSequence` over the messages that
are in order, at most the given number of iterations: the sequence it stops at.
session.cpp:240-256 -/
def receiveScan (w : ReceiveWindow kDefaultWindowSize) : ℕ → ℕ → ℕ
  | 0, nextSequence => nextSequence
  | n + 1, nextSequence =>
    if sub64 nextSequence w.nextUnreadSequence < kDefaultWindowSize ∧
        w.valid (slot _ nextSequence) then
      receiveScan w n (nextSequence + 1)
    else nextSequence

/-- The window after a scan that stopped at `nextSequence`: each step of it has signalled the
semaphore. -/
def ReceiveWindow.advance (nextSequence : ℕ) (w : ReceiveWindow kDefaultWindowSize) :
    ReceiveWindow kDefaultWindowSize :=
  { w with
    semaphore := w.semaphore + (nextSequence - w.nextExpectedSequence)
    nextExpectedSequence := nextSequence }

def ReceiveWindow.accept (m : MessageBuffer) (w : ReceiveWindow kDefaultWindowSize) :
    ReceiveWindow kDefaultWindowSize :=
  let w := w.store m
  w.advance (receiveScan w kDefaultWindowSize w.nextExpectedSequence)

/-- The scan's assertion, made after each of its steps: the scan has left the next unread
sequence. -/
def ReceiveWindow.scanAssertion (w w' : ReceiveWindow kDefaultWindowSize) : Bool :=
  ¬ (w.nextExpectedSequence < w.nextUnreadSequence ∧
    w.nextUnreadSequence ≤ w'.nextExpectedSequence)

/-- `Session::WriteMessageIntoReceiveWindow`; no caller uses its result.
session.cpp:199-299 -/
def writeMessageIntoReceiveWindow (m : MessageBuffer) (c : Ctx ρ) : Ctx ρ :=
  if m.header.payloadSize ≤ kMaxPayloadSizeInBytes then
    let w := c.session.receiveWindow
    if m.header.sequence ≥ w.nextExpectedSequence then
      if sub64 m.header.sequence w.nextUnreadSequence < kDefaultWindowSize then
        let w' := w.accept m
        let c := (c.check .receiveScan (w.scanAssertion w')).setReceive w'
        -- with data already waiting for an ack, too much of it is acknowledged at once
        if w.nextExpectedSequence > w.lastUnacknowledgedSequence ∧
            kMaxUnacknowledgedThreshold ≤
              sub64 w'.nextExpectedSequence w.lastUnacknowledgedSequence then
          (sendAckMessage c).1
        else c
      else c
    else (sendAckMessage c).1
  else c

def updateReceiveWindow (c : Ctx ρ) : Ctx ρ :=
  if c.session.receiveWindow.nextExpectedSequence >
      c.session.receiveWindow.lastUnacknowledgedSequence then (sendAckMessage c).1
  else c

/-- The receive window as the handshake resets it, for a peer whose first message has the
sequence number `sequence`.
session.cpp:527-530, session.cpp:583-586 -/
def ReceiveWindow.reset (sequence : ℕ) (w : ReceiveWindow kDefaultWindowSize) :
    ReceiveWindow kDefaultWindowSize :=
  { w with
    nextUnreadSequence := sequence + 1
    nextExpectedSequence := sequence + 1
    lastUnacknowledgedSequence := sequence + 1
    currentAvailableSize := maxAdvertizedSize kDefaultWindowSize }

/-- `m_receiveWindow.semaphore.Wait` that finds the semaphore signalled. -/
def ReceiveWindow.wait (w : ReceiveWindow kDefaultWindowSize) :
    ReceiveWindow kDefaultWindowSize :=
  { w with semaphore := w.semaphore - 1 }

def ReceiveWindow.unreadSlot (w : ReceiveWindow kDefaultWindowSize) : Fin kDefaultWindowSize :=
  slot _ w.nextUnreadSequence

def ReceiveWindow.consume (w : ReceiveWindow kDefaultWindowSize) :
    ReceiveWindow kDefaultWindowSize :=
  let w :=
    { w with
      valid := Function.update w.valid w.unreadSlot false
      nextUnreadSequence := w.nextUnreadSequence + 1 }
  { w with currentAvailableSize := calculateCurrentWindowSize w }

abbrev Received := Result × Option (List UInt8)

/-- The locked section of `Receive`, for a caller that has passed the semaphore.
session.cpp:1022-1056 -/
def receiveLocked (payloadBufferSizeInBytes : ℕ) (c : Ctx ρ) : Ctx ρ × Received :=
  let w := c.session.receiveWindow
  let c := c.check .receiveAvailable (w.nextUnreadSequence < w.nextExpectedSequence)
  let message := w.messages w.unreadSlot
  if payloadBufferSizeInBytes ≥ message.header.payloadSize then
    if message.kind = .data then
      let c := c.check .receiveSlot
        (w.valid w.unreadSlot ∧ w.sequence w.unreadSlot = w.nextUnreadSequence)
      (checkWindowSize (c.setReceive w.consume), (.success, some message.bytes))
    else
      let c := c.check .receiveFin (message.kind = .fin)
      (checkWindowSize ((c.setState .closed).setReceive w.consume), (.endOfStream, none))
  else
    -- the semaphore is signalled again, so that a later call can read the message
    (c.setReceive { w with semaphore := w.semaphore + 1 }, (.insufficientMemory, none))

/-- `Session::Receive`, where a wait that finds no message runs into its timeout.
session.cpp:1006-1060 -/
def receive (payloadBufferSizeInBytes : ℕ) (c : Ctx ρ) : Ctx ρ × Received :=
  if SessionState.established.toNat ≤ c.session.sessionState.toNat then
    if 0 < c.session.receiveWindow.semaphore then
      receiveLocked payloadBufferSizeInBytes (c.setReceive c.session.receiveWindow.wait)
    else (c, (.notReady, none))
  else (c, (.error, none))

end DevDriver.Model
