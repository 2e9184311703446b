import DevDriver.Library.Machine
import DevDriver.Model.Handlers

/-!
# A session and the threads that use it

A session object is used from two sides.  The manager's thread runs the message handlers, the parts
of `Update` and the shutdowns under the manager's mutex, so these never overlap.
-/

namespace DevDriver.Model

open Library

/-- The arguments of a call of `Send`; `none` is the null pointer. -/
structure SendCall where
  payloadSizeInBytes : ℕ
  pPayload : Option (List UInt8)
  deriving DecidableEq

/-- The payload a call hands over: the `payloadSizeInBytes` bytes behind its pointer. -/
def SendCall.bytes (call : SendCall) : List UInt8 :=
  (call.pPayload.getD []).take call.payloadSizeInBytes

/-- A call whose pointer can be read for as many bytes as the call says. -/
def SendCall.Readable (call : SendCall) : Prop :=
  call.bytes.length = call.payloadSizeInBytes

instance (call : SendCall) : Decidable call.Readable :=
  inferInstanceAs (Decidable (_ = _))

/-- A session with the calls of `Send` and `Receive` that are in progress. -/
structure Endpoint (ρ : Type) where
  session : Session ρ
  senders : List SendCall
  /-- calls of `Send` that have passed the semaphore but not yet taken the lock -/
  writers : List SendCall
  receivers : ℕ
  /-- calls of `Receive` that have passed the semaphore -/
  readers : ℕ
  /-- calls of `Receive` that have then found the session not closed -/
  openReaders : ℕ

/-- The parts of the methods, each of which runs without interruption. -/
inductive Operation where
  | send (call : SendCall)
  | sendTimeout (k : ℕ)
  | sendWait (k : ℕ)
  | sendWrite (k : ℕ)
  | receive
  | receiveTimeout
  | receiveWait
  /-- `Receive` looks at the session state again and returns when it is closed -/
  | receiveCheck
  | receiveRead (payloadBufferSizeInBytes : ℕ)
  | handleMessage (m : MessageBuffer)
  | updateReceiveWindow
  | updateSendWindow
  | updateFinWait1
  | updateFinWait2
  | updateClosing
  /-- the rest of `Update`; what a protocol server does in its callback are steps of its own -/
  | updateCallbacks (lastReference : Bool)
  | shutdown (reason : Result)
  | unregisterProtocolServer (pServer : ServerRef)

/-- What a step did: its effects, and what `Send` and `Receive` handed over. -/
structure Outcome where
  fx : Effects
  written : Option (SessionMessage × List UInt8)
  received : Option (List UInt8)

/-- The messages the manager passes to a session it has already opened: a Syn only opens a
session, an unknown kind is never passed on, and apart from a SynAck nothing reaches a
closed session.
sessionManager.cpp:341-474 -/
def mayHandle (m : MessageBuffer) (state : SessionState) : Bool :=
  match m.kind with
  | .unknown | .syn => false
  | .synAck => true
  | _ => state ≠ .closed

namespace Endpoint

variable {ρ : Type} [RoundTripTime ρ]

/-- An endpoint without calls in progress. -/
def idle (s : Session ρ) : Endpoint ρ := ⟨s, [], [], 0, 0, 0⟩

def run (f : Ctx ρ → Ctx ρ) (fx : Effects) (e : Endpoint ρ) : Endpoint ρ × Outcome :=
  let c := f ⟨e.session, fx⟩
  ({ e with session := c.session }, ⟨c.fx, none, none⟩)

/-- The first part of `UpdateTimeout` as a step, which may file a Fin. -/
def runFinWait1 (fx : Effects) (e : Endpoint ρ) : Endpoint ρ × Outcome :=
  let c := updateFinWait1 ⟨e.session, fx⟩
  let written :=
    if e.session.sendWindow.nextSequence < c.session.sendWindow.nextSequence then
      some (.fin, [])
    else none
  ({ e with session := c.session }, ⟨c.fx, written, none⟩)

def write (k : ℕ) (call : SendCall) (fx : Effects) (e : Endpoint ρ) : Endpoint ρ × Outcome :=
  let c := writeLocked .data call.payloadSizeInBytes call.pPayload ⟨e.session, fx⟩
  ({ e with session := c.session, writers := e.writers.eraseIdx k },
    ⟨c.fx, some (.data, call.bytes), none⟩)

def read (payloadBufferSizeInBytes : ℕ) (fx : Effects) (e : Endpoint ρ) :
    Endpoint ρ × Outcome :=
  let r := receiveLocked payloadBufferSizeInBytes ⟨e.session, fx⟩
  ({ e with session := r.1.session, openReaders := e.openReaders - 1 },
    ⟨r.1.fx, none, r.2.2⟩)

def setSend (w : TransmitWindow kDefaultWindowSize ρ) (e : Endpoint ρ) : Endpoint ρ :=
  { e with session := { e.session with sendWindow := w } }

def setReceive (w : ReceiveWindow kDefaultWindowSize) (e : Endpoint ρ) : Endpoint ρ :=
  { e with session := { e.session with receiveWindow := w } }

def silent (fx : Effects) (e : Endpoint ρ) : Endpoint ρ × Outcome := (e, ⟨fx, none, none⟩)

/-- One step, or nothing where the operation is not enabled. -/
def perform (op : Operation) (fx : Effects) (e : Endpoint ρ) :
    Option (Endpoint ρ × Outcome) :=
  match op with
  | .send call =>
    if e.session.sessionState ≠ .closed ∧ mayWrite call.payloadSizeInBytes e.session then
      some (silent fx { e with senders := call :: e.senders })
    else none
  | .sendTimeout k =>
    if k < e.senders.length then some (silent fx { e with senders := e.senders.eraseIdx k })
    else none
  | .sendWait k =>
    match e.senders[k]? with
    | none => none
    | some call =>
      if 0 < e.session.sendWindow.semaphore then
        some <| silent fx <|
          { e with senders := e.senders.eraseIdx k, writers := call :: e.writers }.setSend
            e.session.sendWindow.wait
      else none
  | .sendWrite k =>
    match e.writers[k]? with
    | none => none
    | some call => some (e.write k call fx)
  | .receive =>
    if SessionState.established.toNat ≤ e.session.sessionState.toNat then
      some (silent fx { e with receivers := e.receivers + 1 })
    else none
  | .receiveTimeout =>
    if 0 < e.receivers then some (silent fx { e with receivers := e.receivers - 1 }) else none
  | .receiveWait =>
    if 0 < e.receivers ∧ 0 < e.session.receiveWindow.semaphore then
      some <| silent fx <|
        { e with receivers := e.receivers - 1, readers := e.readers + 1 }.setReceive
          e.session.receiveWindow.wait
    else none
  | .receiveCheck =>
    if 0 < e.readers then
      if e.session.sessionState = .closed then
        some (silent fx { e with readers := e.readers - 1 })
      else some (silent fx
        { e with readers := e.readers - 1, openReaders := e.openReaders + 1 })
    else none
  | .receiveRead payloadBufferSizeInBytes =>
    if 0 < e.openReaders then some (e.read payloadBufferSizeInBytes fx) else none
  | .handleMessage m =>
    if mayHandle m e.session.sessionState then some (e.run (handleMessage 0 m) fx) else none
  | .updateReceiveWindow => some (e.run updateReceiveWindow fx)
  | .updateSendWindow => some (e.run updateSendWindow fx)
  | .updateFinWait1 => some (e.runFinWait1 fx)
  | .updateFinWait2 => some (e.run updateFinWait2 fx)
  | .updateClosing => some (e.run updateClosing fx)
  | .updateCallbacks lastReference => some (e.run (updateCallbacks 0 lastReference []) fx)
  | .shutdown reason => some (e.run (Ctx.shutdown reason) fx)
  | .unregisterProtocolServer pServer =>
    some (e.run (handleUnregisterProtocolServer 0 pServer e.session.protocol) fx)

end Endpoint

section Opening

variable (ρ : Type) [RoundTripTime ρ]

/-- The client session after `Connect`.
sessionManager.cpp:100-150 -/
def openClient (clientId remoteClientId : ClientId) (protocol : Protocol)
    (sessionId : SessionId) (minProtocolVersion maxProtocolVersion : Version) : Session ρ :=
  (connect remoteClientId sessionId minProtocolVersion maxProtocolVersion
    ⟨.new ρ clientId .client protocol, .start [] [] fun _ => none⟩).1.session

/-- The server session that the Syn `m` opens, after `BindToServer` and before it handles
the Syn.
sessionManager.cpp:381-400 -/
def openServer (clientId : ClientId) (protocol : Protocol) (version : Version)
    (sessionId : SessionId) (m : MessageBuffer) : Session ρ :=
  (bindToServer m.header.srcClientId (SynPayload.decode m.payload).sessionVersion version
    sessionId (.new ρ clientId .server protocol)).1

def acceptServer (clientId : ClientId) (protocol : Protocol) (version : Version)
    (sessionId : SessionId) (m : MessageBuffer) (fx : Effects) : Ctx ρ :=
  handleMessage 0 m ⟨openServer ρ clientId protocol version sessionId m, fx⟩

end Opening

/-- What a step asks for: the transport's answers, the time and the servers. -/
structure Surroundings where
  answers : List Result
  clock : List ℕ
  protocolServer : Protocol → Option ServerRef

def Surroundings.start (env : Surroundings) : Effects :=
  .start env.answers env.clock env.protocolServer

/-- The sessions the manager opens: a client session that has connected, or a server session
that has handled the Syn that opened it. -/
inductive Opened (ρ : Type) [RoundTripTime ρ] : Session ρ → Prop where
  | client (clientId remoteClientId : ClientId) (protocol : Protocol) (sessionId : SessionId)
      (minProtocolVersion maxProtocolVersion : Version)
      (hremote : remoteClientId ≠ kBroadcastClientId) (hid : sessionId ≠ kInvalidSessionId) :
      Opened ρ (openClient ρ clientId remoteClientId protocol sessionId minProtocolVersion
        maxProtocolVersion)
  | server (clientId : ClientId) (protocol : Protocol) (version : Version)
      (sessionId : SessionId) (m : MessageBuffer) (env : Surroundings)
      (hkind : m.kind = .syn) (hremote : m.header.srcClientId ≠ kBroadcastClientId)
      (hid : sessionId ≠ kInvalidSessionId) :
      Opened ρ (acceptServer ρ clientId protocol version sessionId m env.start).session

/-- A session from its opening on. -/
def sessionMachine (ρ : Type) [RoundTripTime ρ] :
    Machine (Endpoint ρ) (Operation × Surroundings) Outcome where
  init e := ∃ s, Opened ρ s ∧ e = .idle s
  step e a := e.perform a.1 a.2.start

/-! ## Calls during the handling of a Fin

The manager looks at the state before it passes a Fin on, and `HandleFinMessage` lets go of the
receive window's lock before it sets the state.  The threads that call `Send` and `Receive` run in
between. -/

/-- What `HandleFinMessage` does once the message is in the receive window. -/
inductive FinRest where
  | close
  | acknowledge
  | ignore
  deriving DecidableEq

section Handling

variable {ρ : Type}

/-- `HandleFinMessage` up to where the lock of the receive window is released.
session.cpp:598-613 -/
def storeFin (m : MessageBuffer) (c : Ctx ρ) : Ctx ρ × FinRest :=
  if c.session.sessionState.toNat < SessionState.closing.toNat then
    (writeMessageIntoReceiveWindow m c, .close)
  else if c.session.sessionState = .finWait2 then
    (writeMessageIntoReceiveWindow m c, .acknowledge)
  else (c, .ignore)

/-- The rest of `HandleFinMessage`.
session.cpp:605-621 -/
def finishFin (m : MessageBuffer) (rest : FinRest) (c : Ctx ρ) : Ctx ρ :=
  updateSendWindowSize m <|
    match rest with
    | .close => c.closeGracefully .closing
    | .acknowledge => (sendAckMessage c).1.closeGracefully .closed
    | .ignore => c

/-- An endpoint with the Fin that the manager's thread is handling, if any, and what is left to do
once the handler has stored it. -/
structure FinEndpoint (ρ : Type) where
  endpoint : Endpoint ρ
  handling : Option (MessageBuffer × Option FinRest)

/-- The parts of `Send` and `Receive`, which no thread of the manager runs. -/
def Operation.isCall : Operation → Bool
  | .send _ | .sendTimeout _ | .sendWait _ | .sendWrite _ | .receive | .receiveTimeout
  | .receiveWait | .receiveCheck | .receiveRead _ => true
  | _ => false

def Operation.isFin : Operation → Bool
  | .handleMessage m => m.kind = .fin
  | _ => false

inductive FinOperation where
  | operation (op : Operation)
  /-- `FindOpenSession` finds the session open -/
  | receiveFin (m : MessageBuffer)
  | storeFin
  | finishFin

namespace FinEndpoint

def run (f : Ctx ρ → Ctx ρ) (handling : Option (MessageBuffer × Option FinRest)) (fx : Effects)
    (h : FinEndpoint ρ) : FinEndpoint ρ × Outcome :=
  let r := h.endpoint.run f fx
  (⟨r.1, handling⟩, r.2)

/-- One step.  While a Fin is handled the manager's thread does nothing else. -/
def perform [RoundTripTime ρ] (op : FinOperation) (fx : Effects) (h : FinEndpoint ρ) :
    Option (FinEndpoint ρ × Outcome) :=
  match op, h.handling with
  | .operation op, handling =>
    if op.isCall ∨ (handling = none ∧ ¬ op.isFin) then
      (h.endpoint.perform op fx).map fun r => (⟨r.1, handling⟩, r.2)
    else none
  | .receiveFin m, none =>
    if m.kind = .fin ∧ mayHandle m h.endpoint.session.sessionState then
      some (h.run id (some (m, none)) fx)
    else none
  | .storeFin, some (m, none) =>
    let rest := (Model.storeFin m ⟨h.endpoint.session, fx⟩).2
    some (h.run (fun c => (Model.storeFin m c).1) (some (m, some rest)) fx)
  | .finishFin, some (m, some rest) => some (h.run (Model.finishFin m rest) none fx)
  | _, _ => none

end FinEndpoint

end Handling

/-- A session whose Fins are handled in parts. -/
def finMachine (ρ : Type) [RoundTripTime ρ] :
    Machine (FinEndpoint ρ) (FinOperation × Surroundings) Outcome where
  init h := h.handling = none ∧ (sessionMachine ρ).init h.endpoint
  step h a := h.perform a.1 a.2.start

end DevDriver.Model
