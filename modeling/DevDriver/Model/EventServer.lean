import DevDriver.Library.Table
import DevDriver.Model.UriServer
import DevDriver.Model.Vectors

/-!
# The event server

`EventServer` of ddEventServer.cpp and `EventServerSession` of ddEventServerSession.cpp: providers
are registered with the server, a session asks which there are, changes their states through a block
of updates, and subscribes to one of them.
-/

namespace DevDriver.Model

open Library

/-- `EventMessage`; every other value is `unknown`. -/
inductive EventMessage where
  | unknown
  | queryProvidersRequest
  | queryProvidersResponse
  | allocateProviderUpdatesRequest
  | allocateProviderUpdatesResponse
  | applyProviderUpdatesRequest
  | applyProviderUpdatesResponse
  | eventDataUpdate
  | subscribeToProviderRequest
  | subscribeToProviderResponse
  | unsubscribeFromProviderRequest
  deriving DecidableEq, Repr

def EventMessage.toCode : EventMessage → UInt8
  | .unknown => 0
  | .queryProvidersRequest => 1
  | .queryProvidersResponse => 2
  | .allocateProviderUpdatesRequest => 3
  | .allocateProviderUpdatesResponse => 4
  | .applyProviderUpdatesRequest => 5
  | .applyProviderUpdatesResponse => 6
  | .eventDataUpdate => 7
  | .subscribeToProviderRequest => 8
  | .subscribeToProviderResponse => 9
  | .unsubscribeFromProviderRequest => 10

def EventMessage.ofCode (code : UInt8) : EventMessage :=
  if code = 1 then .queryProvidersRequest
  else if code = 2 then .queryProvidersResponse
  else if code = 3 then .allocateProviderUpdatesRequest
  else if code = 4 then .allocateProviderUpdatesResponse
  else if code = 5 then .applyProviderUpdatesRequest
  else if code = 6 then .applyProviderUpdatesResponse
  else if code = 7 then .eventDataUpdate
  else if code = 8 then .subscribeToProviderRequest
  else if code = 9 then .subscribeToProviderResponse
  else if code = 10 then .unsubscribeFromProviderRequest
  else .unknown

@[simp] theorem EventMessage.ofCode_toCode (m : EventMessage) : ofCode m.toCode = m := by
  cases m <;> rfl

abbrev EventProviderId := UInt32

def eventHeader (command : EventMessage) : List UInt8 := [command.toCode, 0, 0, 0]

def queryProvidersResponsePayload (result : Result) (block : BlockId) : List UInt8 :=
  eventHeader .queryProvidersResponse ++ leBytes 4 result.toCode ++ leBytes 4 block.toNat

def allocateProviderUpdatesResponse (result : Result) (block : BlockId) : List UInt8 :=
  eventHeader .allocateProviderUpdatesResponse ++ leBytes 4 result.toCode ++ leBytes 4 block.toNat

def applyProviderUpdatesResponse (result : Result) : List UInt8 :=
  eventHeader .applyProviderUpdatesResponse ++ leBytes 4 result.toCode

def subscribeToProviderResponse (result : Result) : List UInt8 :=
  eventHeader .subscribeToProviderResponse ++ leBytes 4 result.toCode

namespace SizedPayloadContainer

/-- `EventHeader::command`. -/
def eventCommand (c : SizedPayloadContainer) : EventMessage :=
  .ofCode (UInt8.ofNat (payloadField c.payload 0 1))

/-- `SubscribeToProviderRequest::providerId`. -/
def subscribeProviderId (c : SizedPayloadContainer) : EventProviderId :=
  UInt32.ofNat (payloadField c.payload 4 4)

end SizedPayloadContainer

/-- `sizeof(ProviderUpdateHeader)`. -/
abbrev kProviderUpdateHeaderSize : ℕ := 12

structure ProviderUpdateHeader where
  providerId : EventProviderId
  eventDataSize : ℕ
  isEnabled : Bool

/-- `ByteReader::Get` of a header: the header at the front of the data.
ddByteReader.cpp:25-47 -/
def ProviderUpdateHeader.get (data : List UInt8) : Option ProviderUpdateHeader :=
  if kProviderUpdateHeaderSize ≤ data.length then
    some ⟨UInt32.ofNat (leNat (slice data 0 4)), leNat (slice data 4 4), leNat (slice data 8 1) ≠ 0⟩
  else none

/-! ## The server -/

abbrev EventSessionRef := ℕ

/-- `SessionState`, ddEventServerSession.h. -/
inductive EventSessionState where
  | receivePayload
  | processPayload
  | sendPayload
  deriving DecidableEq, Repr

/-- `EventServerSession`, with the id of its protocol session. -/
structure EventServerSession where
  sessionId : SessionId
  state : EventSessionState
  payloadContainer : SizedPayloadContainer
  pUpdateBlock : Option SharedServerBlock
  assignedProviderId : EventProviderId

def EventServerSession.new (sessionId : SessionId) : EventServerSession :=
  ⟨sessionId, .receivePayload, .zero, none, 0⟩

/-- `BaseEventProvider`, without its events. -/
structure EventProvider where
  numEvents : ℕ
  eventData : List UInt8
  eventDescriptionData : List UInt8
  isEnabled : Bool
  pSession : Option EventSessionRef

/-- `GetHeader`: a `ProviderDescriptionHeader` of version 1.
ddEventProvider.cpp:255-263 -/
def EventProvider.header (providerId : EventProviderId) (provider : EventProvider) : List UInt8 :=
  leBytes 4 providerId.toNat ++ leBytes 4 provider.numEvents ++
    leBytes 4 provider.eventDescriptionData.length ++ [if provider.isEnabled then 1 else 0, 1, 0, 0]

/-- `EventServer`, with its sessions by name; those from `nextSession` on do not exist yet, and
one that was deleted does not exist anymore. -/
structure EventServer where
  eventProviders : Table EventProviderId EventProvider
  pendingSessions : List EventSessionRef
  sessions : EventSessionRef → Option EventServerSession
  nextSession : EventSessionRef

namespace EventServer

def new : EventServer := ⟨∅, [], fun _ => none, 0⟩

/-- `GetSessionId`; no session is found through a pointer to a deleted one. -/
def sessionId (s : EventServer) (pSession : EventSessionRef) : Option SessionId :=
  (s.sessions pSession).map (·.sessionId)

/-- `FindPendingSessionById`, with the index in the vector.
ddEventServer.cpp:374-385 -/
def findPendingSessionById (id : SessionId) (s : EventServer) : Option ℕ :=
  s.pendingSessions.findIdx? fun pSession => s.sessionId pSession = some id

/-- `FindProviderBySessionId`, with the session of the provider.
ddEventServer.cpp:387-399 -/
def findProviderBySessionId (id : SessionId) (s : EventServer) :
    Option (EventProviderId × EventSessionRef) :=
  s.eventProviders.entries.findSome? fun entry =>
    match entry.2.pSession with
    | none => none
    | some pSession => if s.sessionId pSession = some id then some (entry.1, pSession) else none

def setProvider (providerId : EventProviderId) (provider : EventProvider) (s : EventServer) :
    EventServer :=
  { s with eventProviders := s.eventProviders.replace providerId provider }

def setSession (pSession : EventSessionRef) (session : EventServerSession) (s : EventServer) :
    EventServer :=
  { s with sessions := Function.update s.sessions pSession (some session) }

def sessionEstablished (id : SessionId) (s : EventServer) : EventServer where
  eventProviders := s.eventProviders
  pendingSessions := s.pendingSessions ++ [s.nextSession]
  sessions := Function.update s.sessions s.nextSession (some (.new id))
  nextSession := s.nextSession + 1

/-- `RegisterProvider`; a provider that is registered has no session yet.
ddEventServer.cpp:165-190 -/
def registerProvider (providerId : EventProviderId) (provider : EventProvider) (s : EventServer) :
    Result × EventServer :=
  if providerId ∈ s.eventProviders then (.error, s)
  else (.success, { s with
    eventProviders := s.eventProviders.insert providerId { provider with pSession := none } })

def applyProviderUpdate (update : ProviderUpdateHeader) (s : EventServer) : Result × EventServer :=
  match s.eventProviders.lookup update.providerId with
  | none => (.error, s)
  | some provider =>
    (.success, s.setProvider update.providerId { provider with isEnabled := update.isEnabled })

/-- The loop of `HandleApplyProviderUpdatesRequest` over the bytes that remain.
ddEventServerSession.cpp:207-226 -/
def applyProviderUpdates (data : List UInt8) (s : EventServer) : Result × EventServer :=
  if data = [] then (.success, s)
  else
    match ProviderUpdateHeader.get data with
    | none => (.error, s)
    | some update =>
      if _h : kProviderUpdateHeaderSize + update.eventDataSize ≤ data.length then
        let applied := s.applyProviderUpdate update
        if applied.1 = .success then
          applyProviderUpdates (data.drop (kProviderUpdateHeaderSize + update.eventDataSize))
            applied.2
        else applied
      else (.error, s)
termination_by data.length
decreasing_by
  have hsize : kProviderUpdateHeaderSize = 12 := rfl
  rw [List.length_drop]
  omega

/-- `AssignSessionToProvider`.  A session that is not pending, which the source asserts does not
happen, is looked up at the end of the vector, whose iterator has index 0.
ddEventServer.cpp:312-354, vector.h:413-450 -/
def assignSessionToProvider (pSession : EventSessionRef) (providerId : EventProviderId)
    (s : EventServer) : Result × EventServer :=
  match s.eventProviders.lookup providerId, s.sessions pSession with
  | some provider, some session =>
    if provider.pSession = none then
      let s := (s.setProvider providerId
        { provider with pSession := some pSession, isEnabled := true }).setSession pSession
        { session with assignedProviderId := providerId }
      (.success, { s with
        pendingSessions :=
          vectorRemove ((s.findPendingSessionById session.sessionId).getD 0) s.pendingSessions })
    else (.unavailable, s)
  | _, _ => (.unavailable, s)

/-- `UnassignSessionFromProvider`; nothing is done where the source asserts that the provider is
registered.
ddEventServer.cpp:356-372 -/
def unassignSessionFromProvider (providerId : EventProviderId) (s : EventServer) : EventServer :=
  match s.eventProviders.lookup providerId with
  | none => s
  | some provider => s.setProvider providerId { provider with pSession := none, isEnabled := false }

/-- The session that `UpdateSession` of the server updates.
ddEventServer.cpp:92-111 -/
def sessionOf (id : SessionId) (s : EventServer) : Option EventSessionRef :=
  match s.findProviderBySessionId id with
  | some (_, pSession) => some pSession
  | none => (s.findPendingSessionById id).bind (s.pendingSessions[·]?)

/-- What `BuildQueryProvidersResponse` writes to its block.
ddEventServer.cpp:238-259 -/
def providerDescriptions (s : EventServer) : List UInt8 :=
  leBytes 4 s.eventProviders.entries.length ++
    s.eventProviders.entries.flatMap fun entry =>
      entry.2.header entry.1 ++ entry.2.eventData ++ entry.2.eventDescriptionData

end EventServer

/-! ## Sessions -/

structure EventCtx where
  server : EventServer
  blocks : BlockCtx
  receives : List ReceiveAnswer
  sends : List Result
  sent : List (List UInt8)

namespace EventCtx

def send (payload : List UInt8) (c : EventCtx) : Result × EventCtx :=
  match c.sends with
  | [] => (.notReady, c)
  | r :: sends =>
    (r, { c with sends := sends, sent := if r = .success then c.sent ++ [payload] else c.sent })

/-- `ReceivePayload`, with the bytes of the payload. -/
def receive (c : EventCtx) : Option (List UInt8) × EventCtx :=
  match c.receives with
  | [] => (none, c)
  | .failure _ _ :: receives => (none, { c with receives := receives })
  | .payload p :: receives => (some p.1, { c with receives := receives })

def setSession (pSession : EventSessionRef) (session : EventServerSession) (c : EventCtx) :
    EventCtx :=
  { c with server := c.server.setSession pSession session }

def respond (pSession : EventSessionRef) (session : EventServerSession) (data : List UInt8)
    (c : EventCtx) : EventCtx :=
  c.setSession pSession
    { session with
      payloadContainer := session.payloadContainer.fill data
      state := .sendPayload }

/-- `~EventServerSession`, and the object is gone.
ddEventServerSession.cpp:41-53 -/
def deleteSession (pSession : EventSessionRef) (c : EventCtx) : EventCtx :=
  match c.server.sessions pSession with
  | none => c
  | some session =>
    { c with
      server := { c.server with sessions := Function.update c.server.sessions pSession none }
      blocks := c.blocks.closeServerBlock session.pUpdateBlock }

/-- `BuildQueryProvidersResponse`, with the id of the block.
ddEventServer.cpp:226-275 -/
def buildQueryProvidersResponse (c : EventCtx) : Result × BlockId × EventCtx :=
  match c.blocks.openServerBlock with
  | (none, blocks) => (.insufficientMemory, kInvalidBlockId, { c with blocks := blocks })
  | (some block, blocks) =>
    (.success, block.id,
      { c with
        blocks := (blocks.onBlock block (.write (c.server.providerDescriptions))).onBlock
          block .close })

def handleQueryProvidersRequest (pSession : EventSessionRef) (session : EventServerSession)
    (c : EventCtx) : EventCtx :=
  let (result, blockId, c) := c.buildQueryProvidersResponse
  c.respond pSession session (queryProvidersResponsePayload result blockId)

/-- ddEventServerSession.cpp:175-197 -/
def handleAllocateProviderUpdatesRequest (pSession : EventSessionRef)
    (session : EventServerSession) (c : EventCtx) : EventCtx :=
  match session.pUpdateBlock with
  | some block => c.respond pSession session (allocateProviderUpdatesResponse .success block.id)
  | none =>
    match c.blocks.openServerBlock with
    | (none, blocks) =>
      { c with blocks := blocks }.respond pSession session
        (allocateProviderUpdatesResponse .error kInvalidBlockId)
    | (some block, blocks) =>
      { c with blocks := blocks }.respond pSession { session with pUpdateBlock := some block }
        (allocateProviderUpdatesResponse .success block.id)

/-- ddEventServerSession.cpp:199-236 -/
def handleApplyProviderUpdatesRequest (pSession : EventSessionRef) (session : EventServerSession)
    (c : EventCtx) : EventCtx :=
  match session.pUpdateBlock with
  | none => c.respond pSession session (applyProviderUpdatesResponse .error)
  | some block =>
    let applied := c.server.applyProviderUpdates (c.blocks.manager.blocks block.resource).data
    { c with server := applied.2, blocks := c.blocks.onBlock block .reset }.respond pSession
      session (applyProviderUpdatesResponse applied.1)

/-- ddEventServerSession.cpp:238-247 -/
def handleSubscribeToProviderRequest (pSession : EventSessionRef) (session : EventServerSession)
    (c : EventCtx) : EventCtx :=
  let assigned := c.server.assignSessionToProvider pSession
    session.payloadContainer.subscribeProviderId
  match assigned.2.sessions pSession with
  | none => c
  | some session =>
    { c with server := assigned.2 }.respond pSession session
      (subscribeToProviderResponse assigned.1)

def handleUnsubscribeFromProviderRequest (pSession : EventSessionRef)
    (session : EventServerSession) (c : EventCtx) : EventCtx :=
  let server := if 0 < session.assignedProviderId then
    c.server.unassignSessionFromProvider session.assignedProviderId else c.server
  { c with server := server }.setSession pSession { session with state := .receivePayload }

/-- A request, by its command.  The source asserts that a session is sent no other message; one
that is stays where it is.
ddEventServerSession.cpp:88-135 -/
def processPayload (pSession : EventSessionRef) (session : EventServerSession) (c : EventCtx) :
    EventCtx :=
  match session.payloadContainer.eventCommand with
  | .queryProvidersRequest => c.handleQueryProvidersRequest pSession session
  | .allocateProviderUpdatesRequest => c.handleAllocateProviderUpdatesRequest pSession session
  | .applyProviderUpdatesRequest => c.handleApplyProviderUpdatesRequest pSession session
  | .subscribeToProviderRequest => c.handleSubscribeToProviderRequest pSession session
  | .unsubscribeFromProviderRequest => c.handleUnsubscribeFromProviderRequest pSession session
  | _ => c

/-- `EventServerSession::UpdateSession`.
ddEventServerSession.cpp:60-163 -/
def updateEventSession (pSession : EventSessionRef) (c : EventCtx) : EventCtx :=
  match c.server.sessions pSession with
  | none => c
  | some session =>
    match session.state with
    | .receivePayload =>
      match c.receive with
      | (none, c) => c
      | (some data, c) =>
        c.setSession pSession
          { session with
            payloadContainer := session.payloadContainer.fill data
            state := .processPayload }
    | .processPayload => c.processPayload pSession session
    | .sendPayload =>
      match c.send (readBytes session.payloadContainer.payloadSize
          session.payloadContainer.payload) with
      | (r, c) =>
        if r = .success then c.setSession pSession { session with state := .receivePayload } else c

def updateSession (id : SessionId) (c : EventCtx) : EventCtx :=
  match c.server.sessionOf id with
  | some pSession => c.updateEventSession pSession
  | none => (c.send (subscribeToProviderResponse .unavailable)).2

/-- ddEventServer.cpp:121-163 -/
def sessionTerminated (id : SessionId) (c : EventCtx) : EventCtx :=
  match c.server.findPendingSessionById id with
  | some index =>
    match c.server.pendingSessions[index]? with
    | none => c
    | some pSession =>
      let c := c.deleteSession pSession
      { c with server := { c.server with
        pendingSessions := vectorRemove index c.server.pendingSessions } }
  | none =>
    match c.server.findProviderBySessionId id with
    | none => c
    | some (providerId, pSession) =>
      let c := c.deleteSession pSession
      { c with server := c.server.unassignSessionFromProvider providerId }

/-- ddEventServer.cpp:192-224 -/
def unregisterProvider (providerId : EventProviderId) (c : EventCtx) : Result × EventCtx :=
  match c.server.eventProviders.lookup providerId with
  | none => (.error, c)
  | some provider =>
    let c := match provider.pSession with
      | none => c
      | some pSession => c.deleteSession pSession
    (.success, { c with server := { c.server with
      eventProviders := c.server.eventProviders.erase providerId } })

end EventCtx

/-! ## Runs of the event server

The calls that the session manager and the providers make to an `EventServer`, in any order: a
session is established, updated and terminated, a provider is registered and unregistered. -/

namespace EventServer

def acquiredSession (providerId : EventProviderId) (s : EventServer) : Option EventSessionRef :=
  (s.eventProviders.lookup providerId).bind (·.pSession)

/-- What `SessionTerminated` deletes.
ddEventServer.cpp:129-162 -/
def terminatedSession (id : SessionId) (s : EventServer) : Option EventSessionRef :=
  match s.findPendingSessionById id with
  | some index => s.pendingSessions[index]?
  | none => (s.findProviderBySessionId id).map (·.2)

end EventServer

structure EventServerRun where
  ctx : EventCtx
  live : List SessionId
  /-- their event sessions, but for those whose provider was unregistered -/
  current : List (SessionId × EventSessionRef)
  /-- the event sessions of the protocol sessions that were terminated since -/
  terminated : List EventSessionRef
  deleted : List EventSessionRef

/-- What happens to an event server. -/
inductive EventServerAction where
  | sessionEstablished (id : SessionId)
  | updateSession (id : SessionId) (receives : List ReceiveAnswer) (sends : List Result)
  | sessionTerminated (id : SessionId)
  | registerProvider (providerId : EventProviderId) (provider : EventProvider)
  | unregisterProvider (providerId : EventProviderId)

namespace EventServerRun

def new (blocks : BlockCtx) : EventServerRun := ⟨⟨.new, blocks, [], [], []⟩, [], [], [], []⟩

def step (s : EventServerRun) : EventServerAction → Option EventServerRun
  | .sessionEstablished id =>
    if id ∈ s.live then none
    else some { s with
      ctx := { s.ctx with server := s.ctx.server.sessionEstablished id }
      live := s.live ++ [id]
      current := s.current ++ [(id, s.ctx.server.nextSession)] }
  | .updateSession id receives sends =>
    if id ∈ s.live then
      some { s with
        ctx := { s.ctx with receives := receives, sends := sends }.updateSession id }
    else none
  | .sessionTerminated id =>
    if id ∈ s.live then
      some {
        ctx := s.ctx.sessionTerminated id
        live := s.live.erase id
        current := s.current.filter fun entry => entry.1 ≠ id
        terminated := s.terminated ++ (s.current.filter fun entry => entry.1 = id).map (·.2)
        deleted := s.deleted ++ (s.ctx.server.terminatedSession id).toList }
    else none
  | .registerProvider providerId provider =>
    some { s with
      ctx := { s.ctx with server := (s.ctx.server.registerProvider providerId provider).2 } }
  | .unregisterProvider providerId =>
    let acquired := s.ctx.server.acquiredSession providerId
    some { s with
      ctx := (s.ctx.unregisterProvider providerId).2
      current := s.current.filter fun entry => acquired ≠ some entry.2
      deleted := s.deleted ++ acquired.toList }

end EventServerRun

/-- An event server with its sessions and providers. -/
def eventServerMachine : Machine EventServerRun EventServerAction Unit where
  init s := ∃ blocks, s = .new blocks
  step s a := (s.step a).map fun s => (s, ())

end DevDriver.Model
