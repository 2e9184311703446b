import DevDriver.Model.Endpoint
import Mathlib.Data.List.AList

/-!
# The session manager

`SessionManager` of sessionManager.h and sessionManager.cpp: the table of sessions, the registered
protocol servers and every method that opens, finds, updates or removes a session.

The table maps a session id to a session object.
-/

namespace DevDriver.Model

open Library

/-! ## State -/

def kSessionProtocolRangeVersion : SessionVersion := 1

structure ProtocolServer where
  pServer : ServerRef
  protocol : Protocol
  minVersion : Version
  maxVersion : Version
  deriving DecidableEq

/-- Whether there is a common version, and the
version it reports either way.
baseProtocolServer.cpp:38-78 -/
def ProtocolServer.getSupportedVersion (minVersion maxVersion : Version) (s : ProtocolServer) :
    Bool × Version :=
  if maxVersion ≤ s.maxVersion ∧ maxVersion ≥ s.minVersion then (true, maxVersion)
  else if ¬ maxVersion ≤ s.maxVersion ∧ minVersion ≤ s.maxVersion then (true, s.maxVersion)
  else (false, if ¬ minVersion ≤ s.maxVersion then s.maxVersion else s.minVersion)

abbrev SessionTable := AList fun _ : SessionId => SessionRef

structure SessionManager (ρ : Type) where
  clientId : ClientId
  lastSessionId : UInt32
  sessions : SessionTable
  protocolServers : Protocol → Option ProtocolServer
  /-- the session objects by name; those from `nextSession` on do not exist yet -/
  objects : SessionRef → Session ρ
  nextSession : SessionRef

/-- A manager in the middle of a call. -/
structure ManagerCtx (ρ : Type) where
  manager : SessionManager ρ
  fx : Effects

/-- What a call of the manager asks for. -/
structure ManagerEnv where
  answers : List Result
  clock : List ℕ
  allocSession : Bool
  allocEntry : Bool
  acceptSession : Bool
  /-- the manager holds the last reference to a session -/
  lastReference : SessionRef → Bool
  /-- the calls a protocol server makes on a session while `UpdateSession` runs -/
  calls : SessionRef → List UserCall

section Manager

variable {ρ : Type} [RoundTripTime ρ]

/-- `SessionManager` after `Init`, which picks a random `m_lastSessionId`. -/
def SessionManager.new (ρ : Type) [RoundTripTime ρ] (clientId : ClientId)
    (lastSessionId : UInt32) : SessionManager ρ where
  clientId := clientId
  lastSessionId := lastSessionId
  sessions := ∅
  protocolServers _ := none
  objects _ := .new ρ clientId .client 0
  nextSession := 0

def ManagerEnv.start (env : ManagerEnv) (m : SessionManager ρ) : ManagerCtx ρ :=
  ⟨m, .start env.answers env.clock fun protocol =>
    (m.protocolServers protocol).map (·.pServer)⟩

namespace ManagerCtx

omit [RoundTripTime ρ]

def onSession (pSession : SessionRef) (f : Ctx ρ → Ctx ρ) (c : ManagerCtx ρ) : ManagerCtx ρ :=
  let r := f ⟨c.manager.objects pSession, c.fx⟩
  { manager :=
      { c.manager with objects := Function.update c.manager.objects pSession r.session }
    fx := r.fx }

/-- `DD_ASSERT(condition)`. -/
def check (a : Assertion) (condition : Bool) (c : ManagerCtx ρ) : ManagerCtx ρ :=
  { c with fx := c.fx.check a condition }

/-- `SharedPointer<Session>::Create`. -/
def newSession (s : Session ρ) (c : ManagerCtx ρ) : ManagerCtx ρ × SessionRef :=
  ({ c with manager :=
      { c.manager with
        objects := Function.update c.manager.objects c.manager.nextSession s
        nextSession := c.manager.nextSession + 1 } },
    c.manager.nextSession)

/-- `m_sessions.Create`: whether the entry was made. -/
def createEntry (allocEntry : Bool) (sessionId : SessionId) (pSession : SessionRef)
    (c : ManagerCtx ρ) : ManagerCtx ρ × Bool :=
  if sessionId ∈ c.manager.sessions then (c, false)
  else if allocEntry then
    ({ c with manager :=
        { c.manager with sessions := c.manager.sessions.insert sessionId pSession } }, true)
  else (c, false)

/-- `m_sessions.Remove`. -/
def removeEntry (sessionId : SessionId) (c : ManagerCtx ρ) : ManagerCtx ρ :=
  { c with manager := { c.manager with sessions := c.manager.sessions.erase sessionId } }

end ManagerCtx

/-- The loop of `GetNewSessionId`, at most the given number of iterations. -/
def newSessionIdLoop (sessions : SessionTable) (remoteInput : UInt32) :
    ℕ → UInt32 → Option (SessionId × UInt32)
  | 0, _ => none
  | n + 1, lastSessionId =>
    let nextId := lastSessionId + 1
    let sessionId := (nextId &&& 0xFFFF) ||| remoteInput
    if sessionId = kInvalidSessionId ∨ sessionId ∈ sessions then
      newSessionIdLoop sessions remoteInput n nextId
    else some (sessionId, nextId)

/-- `SessionManager::GetNewSessionId`; nothing when every id with these upper bits is taken, as
the source then loops forever.
sessionManager.cpp:498-508 -/
def getNewSessionId (remoteSessionId : SessionId) (m : SessionManager ρ) :
    Option (SessionId × SessionManager ρ) :=
  (newSessionIdLoop m.sessions (remoteSessionId <<< 16) (2 ^ 16) m.lastSessionId).map
    fun r => (r.1, { m with lastSessionId := r.2 })

structure EstablishSessionInfo where
  protocol : Protocol
  remoteClientId : ClientId
  minProtocolVersion : Version
  maxProtocolVersion : Version

/-- sessionManager.cpp:100-150 -/
def establishSessionForClient (info : EstablishSessionInfo) (env : ManagerEnv)
    (c : ManagerCtx ρ) : Option (ManagerCtx ρ) :=
  if env.allocSession then
    let r := c.newSession (.new ρ c.manager.clientId .client info.protocol)
    (getNewSessionId kInvalidSessionId r.1.manager).map fun id =>
      let c : ManagerCtx ρ := { r.1 with manager := id.2 }
      let connected := connect info.remoteClientId id.1 info.minProtocolVersion
        info.maxProtocolVersion ⟨c.manager.objects r.2, c.fx⟩
      let c := c.onSession r.2 fun _ => connected.1
      if connected.2 = .success then
        let entry := c.createEntry env.allocEntry id.1 r.2
        if entry.2 then entry.1 else entry.1.onSession r.2 (Ctx.shutdown .insufficientMemory)
      else c
  else some c

/-! ## Received messages -/

def sendReset (remoteClientId : ClientId) (remoteSessionId : SessionId) (reason : Result)
    (version : Version) (c : ManagerCtx ρ) : ManagerCtx ρ :=
  { c with fx :=
      (Effects.forward (resetMessage c.manager.clientId remoteClientId remoteSessionId reason
        version) c.fx).1 }

def findOpenSession (sessionId : SessionId) (m : SessionManager ρ) : Option SessionRef :=
  match m.sessions.lookup sessionId with
  | some pSession =>
    if (m.objects pSession).sessionState ≠ .closed then some pSession else none
  | none => none

/-- The assertion of `FindOpenSession`. -/
def checkOpenSession (sessionId : SessionId) (c : ManagerCtx ρ) : ManagerCtx ρ :=
  match c.manager.sessions.lookup sessionId with
  | some pSession => c.check .findSessionId ((c.manager.objects pSession).sessionId = sessionId)
  | none => c

/-- What `HandleReceivedSessionMessage` has found out when its switch is over: the session to
pass the message to, or the arguments of the reset. -/
structure Routing (ρ : Type) where
  c : ManagerCtx ρ
  pSession : Option SessionRef
  reason : Result
  version : Version

/-- The Syn case after a common version was found.
sessionManager.cpp:379-412 -/
def acceptSyn (server : ProtocolServer) (version : Version) (m : MessageBuffer)
    (env : ManagerEnv) (c : ManagerCtx ρ) : Option (Routing ρ) :=
  if env.allocSession then
    let r := c.newSession (.new ρ c.manager.clientId .server server.protocol)
    (getNewSessionId m.header.sessionId r.1.manager).map fun id =>
      let c : ManagerCtx ρ := { r.1 with manager := id.2 }
      let bound := bindToServer m.header.srcClientId
        (SynPayload.decode m.payload).sessionVersion version id.1 (c.manager.objects r.2)
      let c := c.onSession r.2 fun s => { s with session := bound.1 }
      let entry :=
        if bound.2 = .success then c.createEntry env.allocEntry id.1 r.2 else (c, false)
      if entry.2 ∧ env.acceptSession then ⟨entry.1, some r.2, .rejected, version⟩
      else ⟨entry.1.onSession r.2 (Ctx.shutdown .rejected), none, .rejected, version⟩
  else some ⟨c, none, .rejected, version⟩

/-- The Syn case.
sessionManager.cpp:347-415 -/
def routeSyn (m : MessageBuffer) (env : ManagerEnv) (c : ManagerCtx ρ) : Option (Routing ρ) :=
  let request := SynPayload.decode m.payload
  match c.manager.protocolServers request.protocol with
  | none => some ⟨c, none, .unavailable, 0⟩
  | some server =>
    let maxVersion :=
      if request.sessionVersion ≥ kSessionProtocolRangeVersion then
        max request.maxVersion request.minVersion
      else request.minVersion
    let supported := server.getSupportedVersion request.minVersion maxVersion
    if supported.1 then acceptSyn server supported.2 m env c
    else some ⟨c, none, .versionMismatch, supported.2⟩

/-- The SynAck case: a session that is known under the id of the header gets the message; one
that is known under the initial id of the payload moves to the id of the header first.
sessionManager.cpp:416-452 -/
def routeSynAck (m : MessageBuffer) (env : ManagerEnv) (c : ManagerCtx ρ) : Routing ρ :=
  match c.manager.sessions.lookup m.header.sessionId with
  | some pSession => ⟨c, some pSession, .unavailable, 0⟩
  | none =>
    let initialSessionId := (SynAckPayload.decode m.payload).initialSessionId
    match c.manager.sessions.lookup initialSessionId with
    | none => ⟨c, none, .unavailable, 0⟩
    | some pSession =>
      let entry := (c.removeEntry initialSessionId).createEntry env.allocEntry
        m.header.sessionId pSession
      if entry.2 then ⟨entry.1, some pSession, .unavailable, 0⟩
      else ⟨entry.1.onSession pSession (Ctx.shutdown .error), none, .error, 0⟩

/-- The switch of `HandleReceivedSessionMessage`.
sessionManager.cpp:345-461 -/
def route (m : MessageBuffer) (env : ManagerEnv) (c : ManagerCtx ρ) : Option (Routing ρ) :=
  match m.kind with
  | .syn => routeSyn m env c
  | .synAck => some (routeSynAck m env c)
  | .fin | .data | .ack | .rst =>
    some ⟨checkOpenSession m.header.sessionId c, findOpenSession m.header.sessionId c.manager,
      .unavailable, 0⟩
  | .unknown => some ⟨c, none, .unavailable, 0⟩

/-- The message is passed to the session that was found, or answered with a reset.
sessionManager.cpp:463-473 -/
def dispatch (m : MessageBuffer) (r : Routing ρ) : ManagerCtx ρ :=
  match r.pSession with
  | some pSession =>
    let c := r.c.check .routedClient
      ((r.c.manager.objects pSession).remoteClientId = m.header.srcClientId)
    c.onSession pSession (handleMessage pSession m)
  | none => sendReset m.header.srcClientId m.header.sessionId r.reason r.version r.c

/-- `SessionManager::HandleReceivedSessionMessage`; its assertions about the protocol and the
destination of the message belong to the router and are left out.
sessionManager.cpp:329-474 -/
def handleReceivedSessionMessage (m : MessageBuffer) (env : ManagerEnv) (c : ManagerCtx ρ) :
    Option (ManagerCtx ρ) :=
  (route m env c).map (dispatch m)

def updateSession (env : ManagerEnv) (entry : Sigma fun _ : SessionId => SessionRef)
    (c : ManagerCtx ρ) : ManagerCtx ρ :=
  let c := c.onSession entry.2
    (update entry.2 (env.lastReference entry.2) (env.calls entry.2))
  if (c.manager.objects entry.2).sessionState = .closed then c.removeEntry entry.1 else c

def updateSessions (env : ManagerEnv) (c : ManagerCtx ρ) : ManagerCtx ρ :=
  c.manager.sessions.entries.foldl (fun c entry => updateSession env entry c) c

def handleClientDisconnection (dstClientId : ClientId) (c : ManagerCtx ρ) : ManagerCtx ρ :=
  c.manager.sessions.entries.foldl
    (fun c entry =>
      if (c.manager.objects entry.2).remoteClientId = dstClientId then
        c.onSession entry.2 (Ctx.shutdown .notReady)
      else c) c

/-- sessionManager.cpp:152-161 -/
def registerProtocolServer (server : ProtocolServer) (env : ManagerEnv) (c : ManagerCtx ρ) :
    ManagerCtx ρ :=
  if (c.manager.protocolServers server.protocol).isSome ∨ ¬ env.allocEntry then c
  else
    { c with manager :=
        { c.manager with
          protocolServers :=
            Function.update c.manager.protocolServers server.protocol (some server) } }

/-- sessionManager.cpp:163-200 -/
def unregisterProtocolServer (server : ProtocolServer) (c : ManagerCtx ρ) : ManagerCtx ρ :=
  if (c.manager.protocolServers server.protocol).isSome then
    let c := c.manager.sessions.entries.foldl
      (fun c entry =>
        let s := c.manager.objects entry.2
        if s.sessionType = .server ∧ s.protocol = server.protocol then
          c.onSession entry.2
            (handleUnregisterProtocolServer entry.2 server.pServer server.protocol)
        else c) c
    { c with manager :=
        { c.manager with
          protocolServers :=
            Function.update c.manager.protocolServers server.protocol none } }
  else c

/-- The calls of a manager. -/
inductive ManagerAction where
  | establishSessionForClient (info : EstablishSessionInfo)
  | handleReceivedSessionMessage (m : MessageBuffer)
  | updateSessions
  | handleClientDisconnection (dstClientId : ClientId)
  | registerProtocolServer (server : ProtocolServer)
  | unregisterProtocolServer (server : ProtocolServer)
  | shutdown (sessionId : SessionId) (reason : Result)
  | userCall (pSession : SessionRef) (call : UserCall)

/-- The effect of an action, or nothing where the action does not end or is not possible. -/
def ManagerAction.run (env : ManagerEnv) (c : ManagerCtx ρ) :
    ManagerAction → Option (ManagerCtx ρ)
  | .establishSessionForClient info => Model.establishSessionForClient info env c
  | .handleReceivedSessionMessage m => Model.handleReceivedSessionMessage m env c
  | .updateSessions => some (Model.updateSessions env c)
  | .handleClientDisconnection dstClientId =>
    some (Model.handleClientDisconnection dstClientId c)
  | .registerProtocolServer server => some (Model.registerProtocolServer server env c)
  | .unregisterProtocolServer server => some (Model.unregisterProtocolServer server c)
  | .shutdown sessionId reason =>
    (c.manager.sessions.lookup sessionId).map fun pSession =>
      c.onSession pSession (Ctx.shutdown reason)
  | .userCall pSession call =>
    if pSession < c.manager.nextSession then
      some (c.onSession pSession (Model.userCall call))
    else none

/-- A session manager from its creation on. -/
def sessionManagerMachine (ρ : Type) [RoundTripTime ρ] :
    Machine (SessionManager ρ) (ManagerAction × ManagerEnv) Effects where
  init m := ∃ clientId lastSessionId, m = .new ρ clientId lastSessionId
  step m a := (a.1.run a.2 (a.2.start m)).map fun c => (c.manager, c.fx)

end Manager

/-- ddSocketApi.h. -/
structure DDSocketVersionRange where
  min : UInt32
  max : UInt32

/-- ddSocketApi.h. -/
structure DDSocketListenInfo where
  protocolId : Protocol
  versionRange : DDSocketVersionRange

/-- socketServer.h. -/
structure SocketServerCreateInfo where
  protocol : Protocol
  minVersion : Version
  maxVersion : Version

/-- `BaseProtocolServer::BaseProtocolServer`.
baseProtocolServer.cpp:8-16 -/
def BaseProtocolServer.create (pServer : ServerRef) (protocol : Protocol)
    (minVersion maxVersion : Version) : ProtocolServer :=
  ⟨pServer, protocol, minVersion, maxVersion⟩

/-- `SocketServer::SocketServer`.
socketServer.cpp:8-15 -/
def SocketServer.create (pServer : ServerRef) (createInfo : SocketServerCreateInfo) :
    ProtocolServer :=
  BaseProtocolServer.create pServer createInfo.protocol createInfo.minVersion
    createInfo.maxVersion

/-- The server that `ddSocketListen` makes.
ddSocket.cpp:209-220 -/
def ddSocketListenServer (pServer : ServerRef) (info : DDSocketListenInfo) : ProtocolServer :=
  SocketServer.create pServer
    { protocol := info.protocolId
      maxVersion := info.versionRange.min.toUInt16
      minVersion := info.versionRange.max.toUInt16 }

inductive ServerRequest where
  | construct (protocol : Protocol) (minVersion maxVersion : Version)
  | ddSocketListen (info : DDSocketListenInfo)

def ServerRequest.server (pServer : ServerRef) : ServerRequest → ProtocolServer
  | .construct protocol minVersion maxVersion =>
    BaseProtocolServer.create pServer protocol minVersion maxVersion
  | .ddSocketListen info => ddSocketListenServer pServer info

end DevDriver.Model
