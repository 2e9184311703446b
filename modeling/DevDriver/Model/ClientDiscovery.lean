import DevDriver.Model.MessageChannel

/-!
# Client discovery

`MessageChannel::DiscoverClients` of messageChannel.inl.  A call sets the filter of the channel's
queue and activates it, waits for its event, takes one entry after the other and shows the clients
that it has not seen to its callback.
-/

namespace DevDriver.Model

open Library

/-! ## The queue -/

def discoveredClient (m : MessageBuffer) : DiscoveredClientInfo :=
  ⟨m.header.srcClientId, .ofSequence m.header.sequence, carriedClientInfo m⟩

def DiscoveredClientInfo.zero : DiscoveredClientInfo := ⟨0, .zero, none⟩

inductive DiscoverPhase where
  | waiting
  | signaled
  | retrieved (clientInfo : DiscoveredClientInfo)
  | leaving (result : Result)
  | returned (result : Result)

structure DiscoverCall where
  filter : ClientMetadata
  clientHashSet : List ClientId
  phase : DiscoverPhase

/-- The queue of discovered clients, its event, and the calls that wait on it. -/
structure ClientDiscovery (ι : Type) where
  queue : DiscoveredClientsQueue
  hasDataEvent : Bool
  calls : ι → Option DiscoverCall

inductive DiscoveryAction (ι : Type) where
  /-- a system message for this host is handled, with whether there is memory for an entry -/
  | receive (m : MessageBuffer) (pushBack : Bool)
  | begin (call : ι) (filter : ClientMetadata)
  | wake (call : ι)
  | timeOut (call : ι)
  | retrieve (call : ι)
  /-- the entry is looked at, with whether there is memory to remember the client, the answer of
  the callback and whether there is time left -/
  | report (call : ι) (inserted continueDiscovery timeLeft : Bool)
  | finish (call : ι)

inductive DiscoveryEvent (ι : Type) where
  | nothing
  /-- "We should never have an empty queue while the hasDataEvent is signaled." -/
  | assertionFailed (call : ι)
  | callback (call : ι) (clientInfo : DiscoveredClientInfo)

namespace ClientDiscovery

variable {ι : Type} [DecidableEq ι]

def setCall (d : ClientDiscovery ι) (call : ι) (c : DiscoverCall) : ClientDiscovery ι :=
  { d with calls := Function.update d.calls call (some c) }

/-- What a system message does to the queue.
messageChannel.inl:499-543 -/
def receive (d : ClientDiscovery ι) (m : MessageBuffer) (pushBack : Bool) : ClientDiscovery ι :=
  if SystemMessage.ofCode m.header.messageId = .pong then
    if d.queue.active ∧ d.queue.filter.Matches (.ofSequence m.header.sequence) ∧ pushBack then
      { d with
        queue := { d.queue with clients := d.queue.clients ++ [discoveredClient m] }
        hasDataEvent := true }
    else d
  else d

/-- The beginning of `DiscoverClients`.
messageChannel.inl:263-277 -/
def begin (d : ClientDiscovery ι) (call : ι) (filter : ClientMetadata) : ClientDiscovery ι :=
  { d with queue := { d.queue with filter := filter, active := true } }.setCall call
    ⟨filter, [], .waiting⟩

/-- The last entry is taken; without one the zeroed structure stays as it is.
messageChannel.inl:280-296 -/
def retrieve (d : ClientDiscovery ι) (call : ι) (c : DiscoverCall) :
    ClientDiscovery ι × DiscoveryEvent ι :=
  let clients := d.queue.clients.dropLast
  let clientInfo := d.queue.clients.getLast?.getD .zero
  ({ d with
      queue := { d.queue with clients := clients }
      hasDataEvent := if clients = [] then false else d.hasDataEvent }.setCall call
    { c with phase := .retrieved clientInfo },
    if d.queue.clients = [] then .assertionFailed call else .nothing)

/-- The wait of the next round, or the end when the time is up.
messageChannel.inl:324-340 -/
def nextRound (timeLeft : Bool) : DiscoverPhase :=
  if timeLeft then .waiting else .leaving .notReady

/-- What is made of an entry.
messageChannel.inl:298-349 -/
def report (d : ClientDiscovery ι) (call : ι) (c : DiscoverCall) (clientInfo : DiscoveredClientInfo)
    (inserted continueDiscovery timeLeft : Bool) : ClientDiscovery ι × DiscoveryEvent ι :=
  if clientInfo.id ∈ c.clientHashSet then
    (d.setCall call { c with phase := nextRound timeLeft }, .nothing)
  else if inserted then
    let phase := if continueDiscovery then nextRound timeLeft else .leaving .success
    (d.setCall call ⟨c.filter, clientInfo.id :: c.clientHashSet, phase⟩, .callback call clientInfo)
  else (d.setCall call { c with phase := .leaving .insufficientMemory }, .nothing)

/-- The end of `DiscoverClients`.
messageChannel.inl:352-362 -/
def finish (d : ClientDiscovery ι) (call : ι) (c : DiscoverCall) (result : Result) :
    ClientDiscovery ι :=
  { d with
    queue := { d.queue with active := false, clients := [] }
    hasDataEvent := false }.setCall call { c with phase := .returned result }

/-- A step; nothing when the call is not where the step is taken. -/
def step (d : ClientDiscovery ι) :
    DiscoveryAction ι → Option (ClientDiscovery ι × DiscoveryEvent ι)
  | .receive m pushBack => some (d.receive m pushBack, .nothing)
  | .begin call filter =>
    if (d.calls call).isNone then some (d.begin call filter, .nothing) else none
  | .wake call =>
    match d.calls call with
    | some ⟨filter, clientHashSet, .waiting⟩ =>
      if d.hasDataEvent then some (d.setCall call ⟨filter, clientHashSet, .signaled⟩, .nothing)
      else none
    | _ => none
  | .timeOut call =>
    match d.calls call with
    | some ⟨filter, clientHashSet, .waiting⟩ =>
      some (d.setCall call ⟨filter, clientHashSet, .leaving .notReady⟩, .nothing)
    | _ => none
  | .retrieve call =>
    match d.calls call with
    | some ⟨filter, clientHashSet, .signaled⟩ =>
      some (d.retrieve call ⟨filter, clientHashSet, .signaled⟩)
    | _ => none
  | .report call inserted continueDiscovery timeLeft =>
    match d.calls call with
    | some ⟨filter, clientHashSet, .retrieved clientInfo⟩ =>
      some (d.report call ⟨filter, clientHashSet, .retrieved clientInfo⟩ clientInfo inserted
        continueDiscovery timeLeft)
    | _ => none
  | .finish call =>
    match d.calls call with
    | some ⟨filter, clientHashSet, .leaving result⟩ =>
      some (d.finish call ⟨filter, clientHashSet, .leaving result⟩ result, .nothing)
    | _ => none

end ClientDiscovery

/-- Any number of calls that discover clients, a part of one of them at a time. -/
def discoveryMachine (ι : Type) [DecidableEq ι] :
    Machine (ClientDiscovery ι) (DiscoveryAction ι) (DiscoveryEvent ι) where
  init d := d.queue.clients = [] ∧ d.queue.active = false ∧ d.hasDataEvent = false ∧
    ∀ call, d.calls call = none
  step := ClientDiscovery.step

end DevDriver.Model
