import DevDriver.Model.RouterMessages

/-!
# The steps of a router

A router as a machine: its receive threads route what they read, its client thread works through the
queue and looks after the timeouts, and transports and the client manager come and go.
-/

namespace DevDriver.Analysis

open Library Model RouterCtx

/-! ## The machine -/

/-- A router with its threads: what the client thread has taken from the queue, and the receive
thread of each transport object that is enabled. -/
structure Router where
  core : RouterCore
  active : Bool
  messageBuffer : List MessageContext
  receivers : Table ℕ (TransportHandle × RoutingCache)

/-- What happens to a router, with what the surroundings answer. -/
inductive RouterAction where
  | setClientManager (routerPrefix routerPrefixMask : ClientId) (draws : List UInt32)
  | setClientTimeoutCount (timeoutCount : UInt32)
  | registerTransport (pTransport : ListenerTransport)
  | removeTransport (env : RouterEnv) (handle : TransportHandle)
  | disable (object : ℕ)
  | start
  | stop
  | receive (env : RouterEnv) (object : ℕ) (m : MessageContext)
  | takeQueue
  | processMessage (env : RouterEnv)
  | updateClients (env : RouterEnv) (currentTimeInMs : ℕ)
  /-- a hash map holds its entries in another order -/
  | rehashClients (clientMap : Table ClientId ClientContext)
  | rehashTransports (transportMap : Table TransportHandle TransportContext)
  | rehashTransportClients (handle : TransportHandle) (clientMap : Table ClientId ConnectionInfo)

/-- A new router: its own id is whatever the memory holds.
routerCore.cpp:699-710 -/
structure IsNewRouter (s : Router) : Prop where
  clientMap : s.core.clientMap = ∅
  transportMap : s.core.transportMap = ∅
  pClientManager : s.core.pClientManager = none
  lastTransportId : s.core.lastTransportId = 0
  queue : s.core.queue = []
  inactive : s.active = false
  messageBuffer : s.messageBuffer = []
  receivers : s.receivers = ∅

namespace Router

def after (s : Router) (c : RouterCtx) : Router × List RouterEvent :=
  ({ s with core := c.core }, c.events)

/-- A message of the queue, handed to the function for its protocol.
routerCore.cpp:662-676 -/
def processMessage (env : RouterEnv) (m : MessageContext) (c : RouterCtx) : Option RouterCtx :=
  if m.IsClientManagement then c.processClientManagementMessage env m
  else c.processRouterMessage env m

/-- A receive thread routes a message that it has read, from its transport's handle or, once that
transport is being disabled, from none. -/
def receive (s : Router) (env : RouterEnv) (object : ℕ) (m : MessageContext) :
    Option (Router × List RouterEvent) :=
  (s.receivers.lookup object).bind fun (handle, cache) =>
    if m.connectionInfo.handle = handle ∨ m.connectionInfo.handle = 0 then
      (cache.routeMessage env m ⟨s.core, []⟩).map fun (cache, c) =>
        ({ s with core := c.core, receivers := s.receivers.replace object (handle, cache) },
          c.events)
    else none

/-- `Start` and `Stop`, which has removed the transports and joins the threads.
routerCore.cpp:717-748, 824-864 -/
def start (s : Router) : Option Router :=
  if s.core.pClientManager.isSome ∧ s.core.transportMap.keys ≠ [] ∧ ¬ s.active then
    some { s with core := { s.core with lastClientPingTimeInMs := 0 }, active := true }
  else none

def stop (s : Router) : Option Router :=
  if s.core.pClientManager.isSome ∧ s.core.transportMap.keys = [] ∧ s.receivers.keys = [] ∧
      s.messageBuffer = [] then
    some { s with core := { s.core with pClientManager := none }, active := false }
  else none

end Router

/-- A router of a listener, which registers its client manager before its transports, with the
events of its steps. -/
def routerMachine : Machine Router RouterAction (List RouterEvent) where
  init := IsNewRouter
  step
    | s, .setClientManager routerPrefix routerPrefixMask draws =>
      if s.core.pClientManager = none then
        ((⟨routerPrefix, routerPrefixMask, 0, []⟩ : ListenerClientManager).registerHost draws).map
          fun manager =>
            ({ s with core := { s.core with
                pClientManager := some manager
                clientId := manager.hostClientId } }, [])
      else none
    | s, .setClientTimeoutCount timeoutCount =>
      some ({ s with core := { s.core with clientTimeoutCount := timeoutCount } }, [])
    | s, .registerTransport pTransport =>
      if s.core.pClientManager.isSome ∧ pTransport.object ∉ s.receivers then
        let r := s.after ((⟨s.core, []⟩ : RouterCtx).registerTransport pTransport)
        some ({ r.1 with
          receivers := s.receivers.insert pTransport.object
            (r.1.core.lastTransportId, .new) }, r.2)
      else none
    | s, .removeTransport env handle =>
      ((⟨s.core, []⟩ : RouterCtx).removeTransport env handle).map s.after
    | s, .disable object =>
      (s.receivers.lookup object).bind fun (handle, _) =>
        if handle ∈ s.core.transportMap then none
        else some ({ s with receivers := s.receivers.erase object }, [])
    | s, .start => s.start.map (·, [])
    | s, .stop => s.stop.map (·, [])
    | s, .receive env object m => s.receive env object m
    | s, .takeQueue =>
      if s.active ∧ s.messageBuffer = [] then
        some ({ s with
          core := { s.core with queue := [] }, messageBuffer := s.core.queue }, [])
      else none
    | s, .processMessage env =>
      match s.messageBuffer with
      | [] => none
      | m :: rest =>
        (Router.processMessage env m ⟨s.core, []⟩).map { s with messageBuffer := rest }.after
    | s, .updateClients env currentTimeInMs =>
      if s.active ∧ s.messageBuffer = [] then
        ((⟨s.core, []⟩ : RouterCtx).updateClients env currentTimeInMs).map s.after
      else none
    | s, .rehashClients clientMap =>
      if clientMap.entries.Perm s.core.clientMap.entries then
        some ({ s with core := { s.core with clientMap := clientMap } }, [])
      else none
    | s, .rehashTransports transportMap =>
      if transportMap.entries.Perm s.core.transportMap.entries then
        some ({ s with core := { s.core with transportMap := transportMap } }, [])
      else none
    | s, .rehashTransportClients handle clientMap =>
      (s.core.transportMap.lookup handle).bind fun context =>
        if clientMap.entries.Perm context.clientMap.entries then
          some (s.after ((⟨s.core, []⟩ : RouterCtx).setTransportClients handle fun _ => clientMap))
        else none

/-! ## What a call leaves as it was -/

def failedAssertions (events : List RouterEvent) : List RouterAssert :=
  events.filterMap fun
    | .assertFailed assertion => some assertion
    | _ => none

/-- The transports, the router's own id, its queue and its client manager are left as they were;
the manager may hand out and take back ids. -/
structure RouterFrame (c c' : RouterCtx) : Prop where
  transports : c'.core.transportMap.keys = c.core.transportMap.keys
  clientId : c'.core.clientId = c.core.clientId
  queue : c'.core.queue = c.core.queue
  lastTransportId : c'.core.lastTransportId = c.core.lastTransportId
  managed : c'.core.pClientManager.isSome = c.core.pClientManager.isSome

theorem RouterFrame.trans {c₁ c₂ c₃ : RouterCtx} (h : RouterFrame c₁ c₂) (h' : RouterFrame c₂ c₃) :
    RouterFrame c₁ c₃ where
  transports := h'.transports.trans h.transports
  clientId := h'.clientId.trans h.clientId
  queue := h'.queue.trans h.queue
  lastTransportId := h'.lastTransportId.trans h.lastTransportId
  managed := h'.managed.trans h.managed

structure RouterQuiet (c c' : RouterCtx) : Prop extends RouterFrame c c' where
  assertions : failedAssertions c'.events = failedAssertions c.events

theorem RouterQuiet.refl (c : RouterCtx) : RouterQuiet c c := ⟨⟨rfl, rfl, rfl, rfl, rfl⟩, rfl⟩

theorem RouterQuiet.trans {c₁ c₂ c₃ : RouterCtx} (h : RouterQuiet c₁ c₂) (h' : RouterQuiet c₂ c₃) :
    RouterQuiet c₁ c₃ :=
  ⟨h.toRouterFrame.trans h'.toRouterFrame, h'.assertions.trans h.assertions⟩

theorem frame_assert (c : RouterCtx) (p : Prop) [Decidable p] (assertion : RouterAssert) :
    RouterFrame c (c.assert p assertion) := by
  unfold assert
  split <;> exact ⟨rfl, rfl, rfl, rfl, rfl⟩

variable {c : RouterCtx}

theorem assert_of {p : Prop} [Decidable p] {assertion : RouterAssert} (h : p) :
    c.assert p assertion = c := if_pos h

theorem quiet_transmitMessage (env : RouterEnv) (pTransport : ListenerTransport)
    (connectionInfo : ConnectionInfo) (message : MessageBuffer) (c : RouterCtx) :
    RouterQuiet c (c.transmitMessage env pTransport connectionInfo message).2 :=
  ⟨⟨rfl, rfl, rfl, rfl, rfl⟩, by simp [transmitMessage, emit,
    failedAssertions]⟩

variable {env : RouterEnv}

theorem quiet_transmitUntilReady {pTransport : ListenerTransport} {connectionInfo : ConnectionInfo}
    {message : MessageBuffer} {n : ℕ} {r : Result × RouterCtx}
    (h : c.transmitUntilReady env pTransport connectionInfo message n = some r) :
    RouterQuiet c r.2 := by
  induction n generalizing c with
  | zero => cases h
  | succ n ih =>
    have hsent := quiet_transmitMessage env pTransport connectionInfo message c
    rw [transmitUntilReady] at h
    split at h
    · exact hsent.trans (ih h)
    · cases h
      exact hsent

theorem quiet_setClient (c : RouterCtx) (clientId : ClientId) (client : ClientContext) :
    RouterQuiet c (c.setClient clientId client) := ⟨⟨rfl, rfl, rfl, rfl, rfl⟩, rfl⟩

theorem quiet_emplaceClient (c : RouterCtx) (clientId : ClientId) (client : ClientContext) :
    RouterQuiet c (c.emplaceClient clientId client) := ⟨⟨rfl, rfl, rfl, rfl, rfl⟩, rfl⟩

theorem quiet_setTransportClients (c : RouterCtx) (handle : TransportHandle)
    (change : Table ClientId ConnectionInfo → Table ClientId ConnectionInfo) :
    RouterQuiet c (c.setTransportClients handle change) := by
  unfold setTransportClients
  split
  · exact ⟨⟨AList.keys_replace _ _ _, rfl, rfl, rfl, rfl⟩, rfl⟩
  · exact .refl c

variable {clientId : ClientId}

theorem quiet_addClient (h : clientId ≠ kBroadcastClientId) (connectionInfo : ConnectionInfo)
    (registeredClient : Bool) (c : RouterCtx) :
    RouterQuiet c (c.addClient clientId connectionInfo registeredClient) := by
  rw [addClient, assert_of h]
  split
  · exact (quiet_emplaceClient c clientId _).trans (quiet_setTransportClients _ _ _)
  · exact .refl c

theorem frame_addClient (clientId : ClientId) (connectionInfo : ConnectionInfo)
    (registeredClient : Bool) (c : RouterCtx) :
    RouterFrame c (c.addClient clientId connectionInfo registeredClient) := by
  have hassert := frame_assert c (clientId ≠ kBroadcastClientId) .addClient
  rw [addClient]
  split
  · exact hassert.trans ((quiet_emplaceClient _ clientId _).trans
      (quiet_setTransportClients _ _ _)).toRouterFrame
  · exact hassert

theorem quiet_transmitToClients (env : RouterEnv) (message : MessageBuffer)
    (pTransport : ListenerTransport) (clients : List (Σ _ : ClientId, ConnectionInfo))
    (r : ClientId × RouterCtx) :
    RouterQuiet r.2 (transmitToClients env message pTransport clients r).2 := by
  induction clients generalizing r with
  | nil => exact .refl _
  | cons e clients ih =>
    rw [transmitToClients]
    split
    · have hsent := quiet_transmitMessage env pTransport e.2 message r.2
      exact hsent.trans (ih (_, (r.2.transmitMessage env pTransport e.2 message).2))
    · exact ih _

theorem quiet_transmitToTransports (env : RouterEnv) (message : MessageBuffer)
    (pSourceTransport : Option ListenerTransport)
    (transports : List (Σ _ : TransportHandle, TransportContext)) (r : ClientId × RouterCtx) :
    RouterQuiet r.2
      (transmitToTransports env message pSourceTransport transports r).2 := by
  induction transports generalizing r with
  | nil => exact .refl _
  | cons e transports ih =>
    rw [transmitToTransports]
    refine .trans ?_ (ih _)
    split
    · split
      · exact ⟨⟨rfl, rfl, rfl, rfl, rfl⟩, by simp [emit, failedAssertions]⟩
      · exact .refl _
    · exact quiet_transmitToClients env message e.2.pTransport e.2.clientMap.entries r

variable {r : Bool × RouterCtx} {c' : RouterCtx}

theorem quiet_removeClientWith {send : MessageBuffer → RouterCtx → Option RouterCtx}
    (hsend : ∀ m c c', send m c = some c' → RouterQuiet c c')
    (h : removeClientWith send clientId c = some c') : RouterQuiet c c' := by
  unfold removeClientWith at h
  split at h
  · cases h
    exact .refl c
  · rename_i client _
    refine (quiet_setTransportClients c client.connectionInfo.handle (·.erase clientId)).trans ?_
    obtain ⟨c₂, hannounced, h⟩ := Option.bind_eq_some_iff.mp h
    have hbefore :
        RouterQuiet (c.setTransportClients client.connectionInfo.handle (·.erase clientId)) c₂ := by
      split at hannounced
      · obtain ⟨manager, hmanager, hannounced⟩ := Option.bind_eq_some_iff.mp hannounced
        refine .trans ?_ (hsend _ _ _ hannounced)
        exact ⟨⟨rfl, rfl, rfl, rfl, by rw [hmanager]; rfl⟩,
          by simp [emit, failedAssertions]⟩
      · cases hannounced
        exact .refl _
    split at h
    · cases h
      exact hbefore.trans ⟨⟨rfl, rfl, rfl, rfl, rfl⟩, rfl⟩
    · cases h

theorem quiet_sendBroadcastMessage {depth : ℕ} {pSourceTransport : Option ListenerTransport}
    {message : MessageBuffer}
    (h : sendBroadcastMessage env depth pSourceTransport message c = some c') :
    RouterQuiet c c' := by
  induction depth generalizing pSourceTransport message c c' with
  | zero => cases h
  | succ depth ih =>
    rw [sendBroadcastMessage] at h
    have hpass := quiet_transmitToTransports env message pSourceTransport
      c.core.transportMap.entries (kBroadcastClientId, c)
    split at h
    · exact hpass.trans (quiet_removeClientWith (fun _ _ _ hsend => ih hsend) h)
    · cases h
      exact hpass

theorem quiet_removeClient (h : c.removeClient env clientId = some c') : RouterQuiet c c' :=
  quiet_removeClientWith (fun _ _ _ hsend => quiet_sendBroadcastMessage hsend) h

theorem quiet_removeOnError {sent : Result × RouterCtx}
    (h : removeOnError env clientId sent = some c') : RouterQuiet sent.2 c' := by
  unfold removeOnError at h
  split at h
  · exact quiet_removeClient h
  · cases h
    exact .refl _

theorem quiet_updateClients {currentTimeInMs : ℕ}
    (h : c.updateClients env currentTimeInMs = some c') : RouterQuiet c c' := by
  unfold updateClients at h
  split at h
  · obtain ⟨c₁, hloop, hping⟩ := Option.bind_eq_some_iff.mp h
    have hrounds : RouterQuiet c c₁ := by
      refine foldlM_related (R := RouterQuiet) .refl .trans (fun c clientId c' hround => ?_) hloop
      unfold updateClient at hround
      split at hround
      · cases hround
        exact .refl c
      · rename_i client _
        refine (quiet_setClient c clientId (countPing client)).trans ?_
        dsimp only at hround
        split at hround
        · exact quiet_removeClient hround
        · cases hround
          exact .refl _
    refine hrounds.trans (.trans ?_ (quiet_sendBroadcastMessage hping))
    exact ⟨⟨rfl, rfl, rfl, rfl, rfl⟩, rfl⟩
  · cases h
    exact .refl c

variable {m : MessageContext}

theorem frame_connectClient {r : Result × ClientId × RouterCtx}
    (h : c.connectClient env m = some r) :
    RouterFrame c r.2.2 := by
  unfold connectClient at h
  split at h
  · split at h
    · cases h
      exact frame_assert c _ _
    · obtain ⟨⟨result, clientId, manager⟩, hregistered, h⟩ := Option.bind_eq_some_iff.mp h
      obtain ⟨before, hbefore, -⟩ := Option.bind_eq_some_iff.mp hregistered
      dsimp only at h
      split at h
      · obtain ⟨c', hsend, rfl⟩ := Option.map_eq_some_iff.mp h
        let managed : RouterCtx :=
          { c with core := { c.core with pClientManager := some manager } }
        have hmanaged : RouterFrame c managed :=
          ⟨rfl, rfl, rfl, rfl, by simp [managed, hbefore]⟩
        exact hmanaged.trans (.trans (frame_assert managed _ _)
          ((frame_addClient clientId m.connectionInfo true _).trans
            (quiet_sendBroadcastMessage hsend).toRouterFrame))
      · cases h
        exact (RouterQuiet.refl c).toRouterFrame
  · cases h
    exact (RouterQuiet.refl c).toRouterFrame

theorem frame_processClientManagementMessage
    (h : c.processClientManagementMessage env m = some c') : RouterFrame c c' := by
  unfold processClientManagementMessage at h
  split at h
  · cases h
    exact (RouterQuiet.refl c).toRouterFrame
  rename_i context _
  split_ifs at h
  · obtain ⟨r, hsent, rfl⟩ := Option.map_eq_some_iff.mp h
    exact (quiet_transmitUntilReady hsent).toRouterFrame
  · obtain ⟨r, hsent, rfl⟩ := Option.map_eq_some_iff.mp h
    exact (quiet_transmitUntilReady hsent).toRouterFrame
  · obtain ⟨⟨result, clientId, c₁⟩, hconnect, h⟩ := Option.bind_eq_some_iff.mp h
    have hsent := quiet_transmitMessage env context.pTransport m.connectionInfo
      (connectResponse m result clientId) c₁
    refine (frame_connectClient hconnect).trans (hsent.toRouterFrame.trans ?_)
    dsimp only at h
    split at h
    · exact (quiet_removeClient h).toRouterFrame
    · cases h
      exact (RouterQuiet.refl _).toRouterFrame
  · exact ((quiet_transmitMessage env _ m.connectionInfo _ c).trans
      (quiet_removeClient h)).toRouterFrame
  · cases h
    exact (RouterQuiet.refl c).toRouterFrame
  · obtain ⟨r, hsent, h⟩ := Option.bind_eq_some_iff.mp h
    exact ((quiet_transmitUntilReady hsent).trans (quiet_removeOnError h)).toRouterFrame
  · cases h
    exact (RouterQuiet.refl c).toRouterFrame
  · obtain ⟨r, hsent, h⟩ := Option.bind_eq_some_iff.mp h
    exact ((quiet_transmitUntilReady hsent).trans (quiet_removeOnError h)).toRouterFrame
  · cases h
    exact (RouterQuiet.refl c).toRouterFrame

/-! ## A system message -/

def IsClientInfo (m : MessageContext) : Prop :=
  m.header.protocolId = Protocol.system ∧ m.header.messageId = SystemMessage.clientInfo.toCode

instance (m : MessageContext) : Decidable (IsClientInfo m) := inferInstanceAs (Decidable (_ ∧ _))

theorem systemMessage_toCode {code : MessageCode} {kind : SystemMessage}
    (h : SystemMessage.ofCode code = kind) (hkind : kind ≠ .unhandled) :
    code = kind.toCode := by
  unfold SystemMessage.ofCode at h
  split_ifs at h with h₁ h₂ h₃ h₄ h₅ h₆ <;> subst h
  · exact h₁
  · exact h₂
  · exact h₃
  · exact h₄
  · exact h₅
  · exact h₆
  · exact absurd rfl hkind

theorem quiet_processSystemMessage {client : Option ClientContext} {queryClientInfo : Bool}
    (hsender : m.header.messageId = SystemMessage.clientInfo.toCode → client.isSome)
    (h : c.processSystemMessage env m client queryClientInfo = some r) : RouterQuiet c r.2 := by
  unfold processSystemMessage at h
  split at h
  · cases h
    exact .refl c
  · split at h
    · obtain ⟨c', hremove, rfl⟩ := Option.map_eq_some_iff.mp h
      split at hremove
      · exact quiet_removeClient hremove
      · cases hremove
        exact .refl c
    · split at h
      · cases h
        exact quiet_setClient c _ _
      · cases h
        exact .refl c
    · rename_i hkind
      have hcode : m.header.messageId = SystemMessage.clientInfo.toCode :=
        systemMessage_toCode hkind (by decide)
      rw [assert_of (hsender hcode)] at h
      split at h
      · cases h
        exact quiet_setClient c _ _
      · cases h
        exact .refl c
    · cases h
      exact .refl c

theorem frame_processSystemMessage {client : Option ClientContext} {queryClientInfo : Bool}
    (h : c.processSystemMessage env m client queryClientInfo = some r) : RouterFrame c r.2 := by
  by_cases hsender : m.header.messageId = SystemMessage.clientInfo.toCode → client.isSome
  · exact (quiet_processSystemMessage hsender h).toRouterFrame
  · obtain ⟨hkind, hclient⟩ := Classical.not_imp.mp hsender
    obtain rfl : client = none := by simpa using hclient
    rw [processSystemMessage, hkind] at h
    cases h
    exact frame_assert c ((none : Option ClientContext).isSome = true) .clientInfoSender

theorem quiet_queryClientInfo {pTransport : ListenerTransport}
    (h : (if r.1 then
        let sent := r.2.transmitMessage env pTransport m.connectionInfo
          (r.2.queryClientInfoMessage m.header.srcClientId)
        if sent.1 = .error then removeClient env m.header.srcClientId sent.2
        else some sent.2
      else some r.2) = some c') : RouterQuiet r.2 c' := by
  split at h
  · refine (quiet_transmitMessage env pTransport m.connectionInfo
      (r.2.queryClientInfoMessage m.header.srcClientId) r.2).trans ?_
    dsimp only at h
    split at h
    · exact quiet_removeClient h
    · cases h
      exact .refl _
  · cases h
    exact .refl _

theorem frame_processRouterMessage (h : c.processRouterMessage env m = some c') :
    RouterFrame c c' := by
  unfold processRouterMessage at h
  split at h
  · cases h
    exact (RouterQuiet.refl c).toRouterFrame
  split at h
  · refine (frame_assert c (m.header.dstClientId = c.core.clientId ∨
      m.header.dstClientId = kBroadcastClientId) .routerDestination).trans ?_
    obtain ⟨r, hswitch, hquery⟩ := Option.bind_eq_some_iff.mp h
    refine .trans ?_
      ((frame_processSystemMessage hswitch).trans (quiet_queryClientInfo hquery).toRouterFrame)
    split
    · exact frame_addClient _ _ _ _
    · exact (RouterQuiet.refl _).toRouterFrame
  · cases h
    exact (RouterQuiet.refl c).toRouterFrame

def IsInternal (clientId : ClientId) (m : MessageContext) : Prop :=
  m.IsClientManagement ∨ m.header.protocolId = Protocol.system ∧
    m.header.srcClientId ≠ kBroadcastClientId ∧
    (m.header.dstClientId = clientId ∨ m.header.dstClientId = kBroadcastClientId)

theorem isRoutableMessage_cases (m : MessageContext) (c : RouterCtx) :
    (c.isRoutableMessage m).2 = c ∨
      (c.isRoutableMessage m).2 = c.routeInternalMessage m ∧ IsInternal c.core.clientId m := by
  unfold isRoutableMessage
  split_ifs with hmanagement hsource hsystem
  · exact .inr ⟨rfl, .inl hmanagement⟩
  · exact .inr ⟨rfl, .inr ⟨hsystem.1, hsource, hsystem.2.symm⟩⟩
  · exact .inl rfl
  · exact .inl rfl

theorem frame_select (cache : RoutingCache) (dstClientId : ClientId) (c : RouterCtx) :
    RouterFrame c (cache.select dstClientId c).2 := by
  unfold RoutingCache.select
  split
  · split
    · exact (RouterQuiet.refl c).toRouterFrame
    · split
      · exact (frame_assert c _ _).trans (frame_assert _ _ _)
      · exact (RouterQuiet.refl c).toRouterFrame
  · exact (RouterQuiet.refl c).toRouterFrame

theorem frame_routeMessage {cache : RoutingCache} {r : RoutingCache × RouterCtx}
    (h : cache.routeMessage env m c = some r) :
    RouterFrame c r.2 ∨
      RouterFrame (c.routeInternalMessage m) r.2 ∧ IsInternal c.core.clientId m := by
  let routed := (c.assert (m.connectionInfo.handle ≠ 0) .connectionHandle).isRoutableMessage m
  have hrouted : RouterFrame routed.2 r.2 := by
    unfold RoutingCache.routeMessage at h
    dsimp only at h
    split_ifs at h with hroutable hbroadcast
    · obtain ⟨c', hsend, rfl⟩ := Option.map_eq_some_iff.mp h
      exact (quiet_sendBroadcastMessage hsend).toRouterFrame
    · refine (frame_select cache m.header.dstClientId routed.2).trans ?_
      split at h
      · cases h
        exact (RouterQuiet.refl _).toRouterFrame
      · rename_i context _
        obtain ⟨pTransport, -, h⟩ := Option.bind_eq_some_iff.mp h
        refine (quiet_transmitMessage env pTransport context.connectionInfo m.message _
          ).toRouterFrame.trans ?_
        split at h
        · obtain ⟨c', hremove, rfl⟩ := Option.map_eq_some_iff.mp h
          exact (quiet_removeClient hremove).toRouterFrame
        · cases h
          exact (RouterQuiet.refl _).toRouterFrame
    · cases h
      exact (RouterQuiet.refl _).toRouterFrame
  have hassert := frame_assert c (m.connectionInfo.handle ≠ 0) .connectionHandle
  rcases isRoutableMessage_cases m (c.assert (m.connectionInfo.handle ≠ 0) .connectionHandle)
    with hcase | ⟨hcase, hinternal⟩
  · exact .inl (hassert.trans (hcase ▸ hrouted))
  · have hqueue : RouterFrame (c.routeInternalMessage m) routed.2 := by
      rw [show routed.2 = _ from hcase]
      exact ⟨hassert.transports, hassert.clientId, congrArg (· ++ [m]) hassert.queue,
        hassert.lastTransportId, hassert.managed⟩
    exact .inr ⟨hqueue.trans hrouted, hassert.clientId ▸ hinternal⟩

end DevDriver.Analysis
