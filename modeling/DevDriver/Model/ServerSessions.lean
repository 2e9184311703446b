import DevDriver.Model.EventServer

/-!
# URI and event sessions over one transfer manager

A URI server and an event server with all their sessions, and the transfer manager that both open
blocks of. A session is established, is updated over and over with whatever it receives, and is
terminated at any point.
-/

namespace DevDriver.Model

open Library

/-- A transfer manager, the URI sessions, the oldest first, and the event server with the protocol
sessions that are established with it. -/
structure ServerSessions where
  manager : TransferManager
  uriSessions : List URISession
  eventServer : EventServer
  eventSessions : List SessionId

inductive ServerSessionsAction where
  | openServerBlock (newBlockId : BlockId)
  | closeServerBlock (serverBlockId : BlockId)
  | blockOperation (pBlock : BlockRef) (operation : BlockOperation)
  | uriSessionEstablished (version : Version)
  | updateUriSession (index : ℕ) (services : UriServices) (draws : List (Option BlockId))
      (receives : List ReceiveAnswer) (sends : List Result)
  | uriSessionTerminated (index : ℕ)
  | registerProvider (providerId : EventProviderId) (provider : EventProvider)
  | unregisterProvider (providerId : EventProviderId)
  | eventSessionEstablished (id : SessionId)
  | updateEventSession (id : SessionId) (draws : List (Option BlockId))
      (receives : List ReceiveAnswer) (sends : List Result)
  | eventSessionTerminated (id : SessionId)

namespace ServerSessions

def uriContext (s : ServerSessions) (session : URISession) (services : UriServices)
    (draws : List (Option BlockId)) (receives : List ReceiveAnswer) (sends : List Result) :
    UriServerCtx :=
  ⟨session, services, ⟨s.manager, draws, []⟩, receives, sends, [], []⟩

def eventContext (s : ServerSessions) (draws : List (Option BlockId))
    (receives : List ReceiveAnswer) (sends : List Result) : EventCtx :=
  ⟨s.eventServer, ⟨s.manager, draws, []⟩, receives, sends, []⟩

def afterEvent (s : ServerSessions) (c : EventCtx) : ServerSessions × List SharedServerBlock :=
  ({ s with manager := c.blocks.manager, eventServer := c.server }, c.blocks.opened)

def step (s : ServerSessions) :
    ServerSessionsAction → Option (ServerSessions × List SharedServerBlock)
  | .openServerBlock newBlockId =>
    some ({ s with manager := s.manager.openServerBlock newBlockId }, [])
  | .closeServerBlock serverBlockId =>
    some ({ s with manager := s.manager.closeServerBlock serverBlockId }, [])
  | .blockOperation pBlock operation =>
    some ({ s with manager := s.manager.onBlock pBlock operation }, [])
  | .uriSessionEstablished version =>
    some ({ s with uriSessions := s.uriSessions ++ [.new version] }, [])
  | .updateUriSession index services draws receives sends =>
    (s.uriSessions[index]?).map fun session =>
      let c := (s.uriContext session services draws receives sends).update
      ({ s with
        manager := c.blocks.manager
        uriSessions := s.uriSessions.set index c.session }, c.blocks.opened)
  | .uriSessionTerminated index =>
    (s.uriSessions[index]?).map fun session =>
      let c := (s.uriContext session (fun _ => none) [] [] []).destroy
      ({ s with
        manager := c.blocks.manager
        uriSessions := s.uriSessions.eraseIdx index }, c.blocks.opened)
  | .registerProvider providerId provider =>
    some ({ s with eventServer := (s.eventServer.registerProvider providerId provider).2 }, [])
  | .unregisterProvider providerId =>
    some (s.afterEvent ((s.eventContext [] [] []).unregisterProvider providerId).2)
  | .eventSessionEstablished id =>
    if id ∈ s.eventSessions then none
    else some ({ s with
      eventServer := s.eventServer.sessionEstablished id
      eventSessions := s.eventSessions ++ [id] }, [])
  | .updateEventSession id draws receives sends =>
    if id ∈ s.eventSessions then
      some (s.afterEvent ((s.eventContext draws receives sends).updateSession id))
    else none
  | .eventSessionTerminated id =>
    if id ∈ s.eventSessions then
      let (s, opened) := s.afterEvent ((s.eventContext [] [] []).sessionTerminated id)
      some ({ s with eventSessions := s.eventSessions.erase id }, opened)
    else none

end ServerSessions

/-- The URI server and the event server over one transfer manager. -/
def serverSessionsMachine :
    Machine ServerSessions ServerSessionsAction (List SharedServerBlock) where
  init s := s = ⟨.new, [], .new, []⟩
  step s a := s.step a

end DevDriver.Model
