import DevDriver.Model.SendWindow
import DevDriver.Model.ReceiveWindow

/-!
# The session state machine

Opening a session, handling each kind of message, the periodic update, the public calls
`Send` and `Receive` and the ways a session is shut down.
-/

namespace DevDriver.Model

variable {ρ : Type} [RoundTripTime ρ]

/-- session.cpp:363-400 -/
def connect (remoteClientId : ClientId) (sessionId : SessionId)
    (minProtocolVersion maxProtocolVersion : Version) (c : Ctx ρ) : Ctx ρ × Result :=
  if c.session.sessionType = .client ∧ remoteClientId ≠ kBroadcastClientId ∧
      sessionId ≠ kInvalidSessionId ∧ c.session.sessionState = .closed then
    let c : Ctx ρ :=
      { c with session :=
          { c.session with
            remoteClientId := remoteClientId
            sessionId := sessionId
            minClientProtocolVersion := minProtocolVersion } }
    let payload : SynPayload :=
      { minVersion := minProtocolVersion
        protocol := c.session.protocol
        sessionVersion := c.session.sessionVersion
        maxVersion := maxProtocolVersion }
    let r := writeMessageIntoSendWindow .syn kSynPayloadSize (some payload.encode) c
    if r.2 = .success then (r.1.setState .synSent, r.2) else r
  else (c, .error)

/-- `Session::BindToServer`; the owner is a protocol server, so its type is `Server`.
session.cpp:402-429 -/
def bindToServer (remoteClientId : ClientId) (sessionVersion : SessionVersion)
    (protocolVersion : Version) (sessionId : SessionId) (s : Session ρ) :
    Session ρ × Result :=
  if remoteClientId ≠ kBroadcastClientId ∧ sessionId ≠ kInvalidSessionId ∧
      s.sessionState = .closed then
    ({ s with
        remoteClientId := remoteClientId
        sessionVersion := min sessionVersion kSessionProtocolVersion
        protocolVersion := protocolVersion
        sessionId := sessionId
        sessionState := .listening }, .success)
  else (s, .error)

/-! ## Message handlers -/

def synAckPayload (m : MessageBuffer) (s : Session ρ) : SynAckPayload where
  sequence := m.header.sequence
  initialSessionId := m.header.sessionId
  version := s.protocolVersion
  sessionVersion := s.sessionVersion

/-- session.cpp:508-537 -/
def handleSynMessage (m : MessageBuffer) (c : Ctx ρ) : Ctx ρ :=
  let c := c.check .synServer (c.session.sessionType = .server)
  let r := writeMessageIntoSendWindow .synAck kSynAckPayloadSize
    (some (synAckPayload m c.session).encode) c
  if r.2 = .success then
    let c := r.1.setState .synReceived
    c.setReceive (c.session.receiveWindow.reset m.header.sequence)
  else r.1.shutdown .error

def adoptSynAck (m : MessageBuffer) (s : Session ρ) : Session ρ :=
  let payload := SynAckPayload.decode m.payload
  { s with
    sessionVersion := payload.sessionVersion
    sessionState := .established
    sessionId := m.header.sessionId
    protocolVersion :=
      if payload.version ≠ 0 then payload.version else s.minClientProtocolVersion
    receiveWindow := s.receiveWindow.reset m.header.sequence }

/-- session.cpp:539-594 -/
def handleSynAckMessage (m : MessageBuffer) (c : Ctx ρ) : Ctx ρ :=
  let c := c.check .synAckClient (c.session.sessionType = .client)
  let c :=
    match c.session.sessionState with
    | .finWait1 | .finWait2 | .closing | .established =>
      markMessagesAsAcknowledged m.header.sequence c
    | .synSent =>
      let c := markMessagesAsAcknowledged (SynAckPayload.decode m.payload).sequence c
      (sendAckMessage { c with session := adoptSynAck m c.session }).1
    | _ => c
  updateSendWindowSize m c

def Ctx.closeGracefully (newState : SessionState) (c : Ctx ρ) : Ctx ρ :=
  { c with session :=
      { c.session with sessionState := newState, sessionTerminationReason := .success } }

/-- session.cpp:596-622 -/
def handleFinMessage (m : MessageBuffer) (c : Ctx ρ) : Ctx ρ :=
  let c :=
    if c.session.sessionState.toNat < SessionState.closing.toNat then
      (writeMessageIntoReceiveWindow m c).closeGracefully .closing
    else if c.session.sessionState = .finWait2 then
      (sendAckMessage (writeMessageIntoReceiveWindow m c)).1.closeGracefully .closed
    else c
  updateSendWindowSize m c

/-- Data is dropped in every state but three.
session.cpp:624-644 -/
def handleDataMessage (m : MessageBuffer) (c : Ctx ρ) : Ctx ρ :=
  let c :=
    match c.session.sessionState with
    | .finWait1 | .finWait2 | .established => writeMessageIntoReceiveWindow m c
    | _ => c
  updateSendWindowSize m c

/-- session.cpp:646-667 -/
def handleAckMessage (m : MessageBuffer) (c : Ctx ρ) : Ctx ρ :=
  let c :=
    match c.session.sessionState with
    | .synReceived => markMessagesAsAcknowledged m.header.sequence (c.setState .established)
    | .established | .finWait1 | .finWait2 | .closing =>
      markMessagesAsAcknowledged m.header.sequence c
    | _ => c
  updateSendWindowSize m c

def handleRstMessage (m : MessageBuffer) (c : Ctx ρ) : Ctx ρ :=
  updateSendWindowSize m (c.shutdown (Result.ofCode m.header.sequence))

def dispatchMessage (m : MessageBuffer) (c : Ctx ρ) : Ctx ρ :=
  match m.kind with
  | .syn => handleSynMessage m c
  | .synAck => handleSynAckMessage m c
  | .fin => handleFinMessage m c
  | .data => handleDataMessage m c
  | .ack => handleAckMessage m c
  | .rst => handleRstMessage m c
  | .unknown => c.check .messageKind false

def Ctx.callback (cb : Callback) (newState : SessionCallbackState) (c : Ctx ρ) : Ctx ρ :=
  { session := { c.session with callbackState := newState }
    fx := { c.fx with callbacks := c.fx.callbacks ++ [cb] } }

/-- The transition to Established as `HandleMessage` processes it.  Without a protocol server
the source dereferences a null pointer; the model stops after the assertion.
session.cpp:465-498 -/
def enterEstablished (pSession : SessionRef) (c : Ctx ρ) : Ctx ρ :=
  match c.session.sessionType with
  | .client => { c with session := { c.session with connectionEvent := true } }
  | .server =>
    match c.fx.protocolServer c.session.protocol with
    | none => c.check .establishedServer false
    | some pServer =>
      let c := c.check .establishedCallback (c.session.callbackState = .none)
      c.callback (.sessionEstablished pServer pSession) .establishedCalled

def handleMessage (pSession : SessionRef) (m : MessageBuffer) (c : Ctx ρ) : Ctx ρ :=
  let initialState := c.session.sessionState
  let c := dispatchMessage m c
  if initialState ≠ c.session.sessionState ∧ c.session.sessionState = .established then
    enterEstablished pSession c
  else c

def send (payloadSizeInBytes : ℕ) (pPayload : Option (List UInt8)) (c : Ctx ρ) :
    Ctx ρ × Result :=
  if c.session.sessionState ≠ .closed then
    writeMessageIntoSendWindow .data payloadSizeInBytes pPayload c
  else (c, .error)

inductive UserCall where
  | send (payloadSizeInBytes : ℕ) (pPayload : Option (List UInt8))
  | receive (payloadBufferSizeInBytes : ℕ)

def userCall : UserCall → Ctx ρ → Ctx ρ
  | .send payloadSizeInBytes pPayload, c => (send payloadSizeInBytes pPayload c).1
  | .receive payloadBufferSizeInBytes, c => (receive payloadBufferSizeInBytes c).1

/-- The first step of `UpdateTimeout`: send the Fin of a session that shuts down. -/
def updateFinWait1 (c : Ctx ρ) : Ctx ρ :=
  if c.session.sessionState = .finWait1 then
    let r := writeMessageIntoSendWindow .fin 0 none c
    if r.2 = .success then r.1.setState .finWait2 else r.1
  else c

/-- The second step of `UpdateTimeout`: close when everything sent is acknowledged. -/
def updateFinWait2 (c : Ctx ρ) : Ctx ρ :=
  if c.session.sessionState = .finWait2 ∧ isSendWindowEmpty c.session then c.setState .closed
  else c

/-- The third step of `UpdateTimeout`: close when only the Fin is left to read, or when
nobody will read it.
session.cpp:917-941 -/
def updateClosing (c : Ctx ρ) : Ctx ρ :=
  if c.session.sessionState = .closing then
    let w := c.session.receiveWindow
    if (c.session.sessionType = .server ∧ c.session.callbackState = .terminatedCalled) ∨
        (w.nextUnreadSequence < w.nextExpectedSequence ∧
          (w.messages w.unreadSlot).kind = .fin) then c.setState .closed
    else c
  else c

def updateTimeout (c : Ctx ρ) : Ctx ρ := updateClosing (updateFinWait2 (updateFinWait1 c))

def closeUnreferenced (lastReference : Bool) (c : Ctx ρ) : Ctx ρ :=
  if lastReference ∧ c.session.sessionType = .client then c.shutdown .success else c

/-- The `UpdateSession` callback of an established server session, in which the protocol
server makes the given calls on the session.
session.cpp:700-716 -/
def updateEstablished (pSession : SessionRef) (calls : List UserCall) (c : Ctx ρ) : Ctx ρ :=
  if c.session.sessionType = .server ∧ c.session.sessionState = .established then
    let c := c.check .updateCallback (c.session.callbackState = .establishedCalled)
    match c.fx.protocolServer c.session.protocol with
    | none => c.check .updateServer false
    | some pServer =>
      calls.foldl (fun c call => userCall call c)
        (c.callback (.updateSession pServer pSession) c.session.callbackState)
  else c

/-- The `SessionTerminated` callback of a closed server session.
session.cpp:718-739 -/
def updateTerminated (pSession : SessionRef) (c : Ctx ρ) : Ctx ρ :=
  if c.session.sessionType = .server ∧ c.session.sessionState = .closed ∧
      c.session.callbackState = .establishedCalled then
    match c.fx.protocolServer c.session.protocol with
    | none => c.check .terminateServer false
    | some pServer =>
      c.callback (.sessionTerminated pServer pSession c.session.sessionTerminationReason)
        .terminatedCalled
  else c

def signalDisconnection (c : Ctx ρ) : Ctx ρ :=
  if c.session.sessionState = .closed then
    { c with session := { c.session with disconnectionEvent := true } }
  else c

/-- What `Update` does after the windows and the timeout.
session.cpp:691-742 -/
def updateCallbacks (pSession : SessionRef) (lastReference : Bool) (calls : List UserCall)
    (c : Ctx ρ) : Ctx ρ :=
  signalDisconnection <| updateTerminated pSession <| updateEstablished pSession calls <|
    closeUnreferenced lastReference c

def update (pSession : SessionRef) (lastReference : Bool) (calls : List UserCall)
    (c : Ctx ρ) : Ctx ρ :=
  updateCallbacks pSession lastReference calls
    (updateTimeout (updateSendWindow (updateReceiveWindow c)))

/-- `Session::HandleUnregisterProtocolServer`, for the server `pServer` of the given protocol.
session.cpp:976-994 -/
def handleUnregisterProtocolServer (pSession : SessionRef) (pServer : ServerRef)
    (protocol : Protocol) (c : Ctx ρ) : Ctx ρ :=
  let c := c.check .unregisterType (c.session.sessionType = .server)
  let c := c.check .unregisterProtocol (protocol = c.session.protocol)
  let c :=
    if c.session.callbackState = .establishedCalled then
      c.callback (.sessionTerminated pServer pSession .endOfStream) .terminatedCalled
    else c
  c.shutdown .success

end DevDriver.Model
