import DevDriver.Model.EventProvider
import DevDriver.Model.EventServer

/-!
# Providers with a server

A provider takes its chunks from the session that it has acquired, and hands them to that session
when it is flushed.
-/

namespace DevDriver.Model

open Library

namespace BaseEventProvider

/-- Whether `AcquireEventChunks` allocates a chunk: for the first chunk of a stream, or when there
is not enough room in the current one.
ddEventProvider.cpp:318-379 -/
def allocatesChunk (w : EventWrite) (p : BaseEventProvider) : Bool :=
  match p.eventChunks.getLast? with
  | none => true
  | some chunk =>
    w.allocations.head? = some true ∧
      chunk.bytesRemaining < calculateWorstCaseSize w.totalEventSize

def flushIsDue (currentTime : UInt64) (p : BaseEventProvider) : Bool :=
  p.flushFrequencyInMs > 0 ∧ currentTime ≥ p.nextFlushTime

/-- Whether `WriteEventWithHeader` uses the session: it allocates a chunk, or it flushes the chunks
behind an event that it could write.
ddEventProvider.cpp:174-252 -/
def writeUsesSession (w : EventWrite) (p : BaseEventProvider) : Bool :=
  p.allocatesChunk w || (p.writeEventWithHeader w).1 && p.flushIsDue w.currentTime

end BaseEventProvider

/-- An event server with the event streams of its providers. -/
structure ServedProviders where
  ctx : EventCtx
  streams : EventProviderId → BaseEventProvider
  unregistered : EventProviderId → EventProvider
  fault : Bool

namespace ServedProviders

def newProvider (numEvents : ℕ) (eventData eventDescriptionData : List UInt8) : EventProvider :=
  ⟨numEvents, eventData, eventDescriptionData, false, none⟩

/-- A new server, and providers that are not registered yet and have written nothing. -/
def new (blocks : BlockCtx) (streams : EventProviderId → BaseEventProvider) : ServedProviders :=
  ⟨⟨.new, blocks, [], [], []⟩, fun id => { streams id with eventChunks := [] },
    fun _ => newProvider 0 [] [], false⟩

def setStream (providerId : EventProviderId) (stream : BaseEventProvider) (s : ServedProviders) :
    ServedProviders :=
  { s with streams := Function.update s.streams providerId stream }

def setServer (server : EventServer) (s : ServedProviders) : ServedProviders :=
  { s with ctx := { s.ctx with server := server } }

/-- `Flush` of a registered provider.
ddEventProvider.cpp:294-303 -/
def flush (providerId : EventProviderId) (s : ServedProviders) : ServedProviders :=
  if (s.streams providerId).eventChunks = [] then s
  else
    match s.ctx.server.acquiredSession providerId with
    | none => { s with fault := true }
    | some _ => s.setStream providerId (s.streams providerId).flush

/-- What `Disable` does before the provider is disabled.
ddEventProvider.h:98-109 -/
def flushIfEnabled (providerId : EventProviderId) (s : ServedProviders) : ServedProviders :=
  match s.ctx.server.eventProviders.lookup providerId with
  | none => s
  | some provider => if provider.isEnabled then s.flush providerId else s

/-- `WriteEventWithHeader`, which refuses an event unless the provider is registered and enabled.
ddEventProvider.cpp:159-252 -/
def writeEvent (providerId : EventProviderId) (w : EventWrite) (s : ServedProviders) :
    ServedProviders :=
  match s.ctx.server.eventProviders.lookup providerId with
  | none => s
  | some provider =>
    if provider.isEnabled then
      if provider.pSession = none ∧ (s.streams providerId).writeUsesSession w then
        { s with fault := true }
      else s.setStream providerId ((s.streams providerId).writeEventWithHeader w).2
    else s

/-- `Update` of a provider that has acquired a session.
ddEventServer.cpp:92-99, ddEventProvider.cpp:264-291 -/
def updateProvider (providerId : EventProviderId) (currentTime : UInt64) (s : ServedProviders) :
    ServedProviders :=
  match s.ctx.server.acquiredSession providerId with
  | none => s
  | some _ => s.setStream providerId ((s.streams providerId).updateFlushTimer currentTime)

def applyProviderUpdate (update : ProviderUpdateHeader) (s : ServedProviders) : ServedProviders :=
  let s := if update.isEnabled then s else s.flushIfEnabled update.providerId
  s.setServer (s.ctx.server.applyProviderUpdate update).2

def assignSessionToProvider (pSession : EventSessionRef) (providerId : EventProviderId)
    (s : ServedProviders) : ServedProviders :=
  s.setServer (s.ctx.server.assignSessionToProvider pSession providerId).2

/-- `HandleUnsubscribeFromProviderRequest` with `UnassignSessionFromProvider`.
ddEventServerSession.cpp:249-256, ddEventServer.cpp:356-372 -/
def unsubscribe (session : EventServerSession) (s : ServedProviders) : ServedProviders :=
  if 0 < session.assignedProviderId then
    let s := s.flushIfEnabled session.assignedProviderId
    s.setServer (s.ctx.server.unassignSessionFromProvider session.assignedProviderId)
  else s

/-- ddEventServer.cpp:121-163 -/
def sessionTerminated (id : SessionId) (s : ServedProviders) : ServedProviders :=
  let s :=
    match s.ctx.server.findPendingSessionById id with
    | some _ => s
    | none =>
      match s.ctx.server.findProviderBySessionId id with
      | none => s
      | some (providerId, _) => s.flushIfEnabled providerId
  { s with ctx := s.ctx.sessionTerminated id }

def registerProvider (providerId : EventProviderId) (s : ServedProviders) : ServedProviders :=
  s.setServer (s.ctx.server.registerProvider providerId (s.unregistered providerId)).2

/-- The provider is flushed, and loses its session, but stays as enabled as it
was.
ddEventServer.cpp:192-224, ddEventProvider.cpp:410-418 -/
def unregisterProvider (providerId : EventProviderId) (s : ServedProviders) : ServedProviders :=
  match s.ctx.server.eventProviders.lookup providerId with
  | none => s
  | some provider =>
    let s := s.flush providerId
    { s with
      ctx := (s.ctx.unregisterProvider providerId).2
      unregistered := Function.update s.unregistered providerId
        { provider with pSession := none } }

end ServedProviders

/-- What happens to the providers of a server. -/
inductive ProviderAction where
  | sessionEstablished (id : SessionId)
  | sessionTerminated (id : SessionId)
  | subscribe (pSession : EventSessionRef) (providerId : EventProviderId)
  | unsubscribe (pSession : EventSessionRef)
  | providerUpdate (update : ProviderUpdateHeader)
  | register (providerId : EventProviderId)
  | unregister (providerId : EventProviderId)
  | write (providerId : EventProviderId) (w : EventWrite)
  | update (providerId : EventProviderId) (currentTime : UInt64)
  /-- another provider takes the place of one that is not registered -/
  | construct (providerId : EventProviderId) (provider : EventProvider)
      (stream : BaseEventProvider)

namespace ServedProviders

def step (s : ServedProviders) (a : ProviderAction) : Option ServedProviders :=
  if s.fault then none
  else
    match a with
    | .sessionEstablished id => some (s.setServer (s.ctx.server.sessionEstablished id))
    | .sessionTerminated id => some (s.sessionTerminated id)
    | .subscribe pSession providerId => some (s.assignSessionToProvider pSession providerId)
    | .unsubscribe pSession => (s.ctx.server.sessions pSession).map s.unsubscribe
    | .providerUpdate update => some (s.applyProviderUpdate update)
    | .register providerId => some (s.registerProvider providerId)
    | .unregister providerId => some (s.unregisterProvider providerId)
    | .write providerId w => some (s.writeEvent providerId w)
    | .update providerId currentTime => some (s.updateProvider providerId currentTime)
    | .construct providerId provider stream =>
      if providerId ∈ s.ctx.server.eventProviders then none
      else some {
        s.setStream providerId { stream with eventChunks := [] } with
        unregistered := Function.update s.unregistered providerId
          (newProvider provider.numEvents provider.eventData provider.eventDescriptionData) }

end ServedProviders

/-- An event server whose providers write events. -/
def servedProvidersMachine : Machine ServedProviders ProviderAction Unit where
  init s := ∃ blocks streams, s = .new blocks streams
  step s a := (s.step a).map fun s => (s, ())

end DevDriver.Model
