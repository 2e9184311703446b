import DevDriver.Analysis.RouterSteps

/-!
# Client identification

A router learns who a client is from the ClientInfo message that answers its query.
-/

namespace DevDriver.Analysis

open Library Model RouterCtx

/-! ## What the queue holds -/

structure IsQueued (core : RouterCore) (m : MessageContext) : Prop where
  handle : m.connectionInfo.handle ≤ core.lastTransportId
  internal : m.connectionInfo.handle ∈ core.transportMap → IsInternal core.clientId m

structure RouterConsistent (s : Router) : Prop where
  unmanaged : s.core.pClientManager = none → s.core.transportMap.keys = []
  receivers : ∀ object r, s.receivers.lookup object = some r → r.1 ≤ s.core.lastTransportId
  queued : ∀ m ∈ s.messageBuffer ++ s.core.queue, IsQueued s.core m

/-- What a step that keeps the router's id and its client manager leaves, when it adds no
transport. -/
structure CoreShrinks (core core' : RouterCore) : Prop where
  transports : ∀ handle, handle ∈ core'.transportMap → handle ∈ core.transportMap
  clientId : core'.clientId = core.clientId
  lastTransportId : core'.lastTransportId = core.lastTransportId
  managed : core'.pClientManager.isSome = core.pClientManager.isSome

variable {c : RouterCtx} {s : Router} {c' : RouterCtx}

theorem RouterFrame.shrinks (h : RouterFrame c c') :
    CoreShrinks c.core c'.core where
  transports handle hmem := by rwa [AList.mem_keys, h.transports] at hmem
  clientId := h.clientId
  lastTransportId := h.lastTransportId
  managed := h.managed

variable {m : MessageContext}

theorem CoreShrinks.isQueued {core core' : RouterCore} (h : CoreShrinks core core')
    (hqueued : IsQueued core m) : IsQueued core' m where
  handle := h.lastTransportId ▸ hqueued.handle
  internal hmem := h.clientId ▸ hqueued.internal (h.transports _ hmem)

theorem CoreShrinks.unmanaged {core core' : RouterCore} (h : CoreShrinks core core')
    (hunmanaged : core.pClientManager = none → core.transportMap.keys = [])
    (hnone : core'.pClientManager = none) : core'.transportMap.keys = [] := by
  have hkeys : core.transportMap.keys = [] := hunmanaged (by
    rw [← Option.isSome_eq_false_iff.trans Option.isNone_iff_eq_none, ← h.managed, hnone]
    rfl)
  refine List.eq_nil_iff_forall_not_mem.mpr fun handle hmem => ?_
  have hbefore := AList.mem_keys.mp (h.transports handle (AList.mem_keys.mpr hmem))
  rw [hkeys] at hbefore
  cases hbefore

variable {t : Router}

theorem RouterConsistent.of_shrinks (h : RouterConsistent s) (hshrinks : CoreShrinks s.core t.core)
    (hreceivers : t.receivers = s.receivers)
    (hqueue : ∀ m ∈ t.messageBuffer ++ t.core.queue, m ∈ s.messageBuffer ++ s.core.queue) :
    RouterConsistent t where
  unmanaged := hshrinks.unmanaged h.unmanaged
  receivers object r hlookup := by
    rw [hreceivers] at hlookup
    exact hshrinks.lastTransportId ▸ h.receivers object r hlookup
  queued m hmem := hshrinks.isQueued (h.queued m (hqueue m hmem))

variable {env : RouterEnv}

theorem coreShrinks_removeTransport {handle : TransportHandle}
    (h : c.removeTransport env handle = some c') :
    CoreShrinks c.core c'.core ∧ c'.core.queue = c.core.queue := by
  unfold removeTransport at h
  split at h
  · cases h
    exact ⟨(RouterQuiet.refl c).shrinks, rfl⟩
  · obtain ⟨c₁, hloop, rfl⟩ := Option.map_eq_some_iff.mp h
    have hquiet := foldlM_related (R := RouterQuiet) .refl .trans
      (fun _ _ _ hremove => quiet_removeClient hremove) hloop
    have hshrinks := hquiet.toRouterFrame.shrinks
    exact ⟨⟨fun x hmem => hshrinks.transports x (AList.mem_erase.mp hmem).2, hshrinks.clientId,
      hshrinks.lastTransportId, hshrinks.managed⟩, hquiet.queue⟩

theorem frame_processMessage (h : Router.processMessage env m c = some c') : RouterFrame c c' := by
  unfold Router.processMessage at h
  split at h
  · exact frame_processClientManagementMessage h
  · exact frame_processRouterMessage h

variable {events : List RouterEvent}

theorem routerConsistent_receive {object : ℕ} (h : RouterConsistent s)
    (hstep : s.receive env object m = some (t, events)) : RouterConsistent t := by
  obtain ⟨⟨handle, cache⟩, hreceiver, hstep⟩ := Option.bind_eq_some_iff.mp hstep
  have hhandle : handle ≤ s.core.lastTransportId := h.receivers object _ hreceiver
  obtain ⟨hfrom, hstep⟩ := Option.ite_none_right_eq_some.mp hstep
  obtain ⟨⟨cache', c⟩, hroute, hstep⟩ := Option.map_eq_some_iff.mp hstep
  cases hstep
  have hreceivers : ∀ x r, (s.receivers.replace object (handle, cache')).lookup x = some r →
      r.1 ≤ s.core.lastTransportId := by
    intro x r hlookup
    rcases eq_or_ne x object with rfl | hne
    · rw [lookup_replace (AList.lookup_isSome.mp (by rw [hreceiver]; rfl))] at hlookup
      cases hlookup
      exact hhandle
    · rw [lookup_replace_ne hne] at hlookup
      exact h.receivers x r hlookup
  have hmhandle : m.connectionInfo.handle ≤ s.core.lastTransportId := by
    rcases hfrom with hfrom | hfrom
    · exact hfrom ▸ hhandle
    · rw [hfrom]
      exact Nat.zero_le _
  rcases frame_routeMessage hroute with hframe | ⟨hframe, hinternal⟩
  · refine ⟨hframe.shrinks.unmanaged h.unmanaged, fun x r hlookup => ?_, fun x hx => ?_⟩
    · exact hframe.lastTransportId ▸ hreceivers x r hlookup
    · rw [hframe.queue] at hx
      exact hframe.shrinks.isQueued (h.queued x hx)
  · refine ⟨hframe.shrinks.unmanaged h.unmanaged, fun x r hlookup => ?_, fun x hx => ?_⟩
    · exact hframe.lastTransportId ▸ hreceivers x r hlookup
    · rw [hframe.queue] at hx
      have hbefore : IsQueued s.core x := by
        rcases List.mem_append.mp hx with hx | hx
        · exact h.queued x (List.mem_append_left _ hx)
        · rcases List.mem_append.mp hx with hx | hx
          · exact h.queued x (List.mem_append_right _ hx)
          · obtain rfl := List.mem_singleton.mp hx
            exact ⟨hmhandle, fun _ => hinternal⟩
      exact hframe.shrinks.isQueued ⟨hbefore.handle, hbefore.internal⟩

/-- Every step of a router keeps its tables and its queue consistent. -/
theorem routerConsistent_step {a : RouterAction} (h : RouterConsistent s)
    (hstep : routerMachine.step s a = some (t, events)) : RouterConsistent t := by
  cases a with
  | setClientManager routerPrefix routerPrefixMask draws =>
    obtain ⟨hnone, hstep⟩ := Option.ite_none_right_eq_some.mp hstep
    obtain ⟨manager, -, hstep⟩ := Option.map_eq_some_iff.mp hstep
    cases hstep
    have hkeys := h.unmanaged hnone
    refine ⟨fun _ => hkeys, h.receivers, fun m hm => ⟨(h.queued m hm).handle, fun hmem => ?_⟩⟩
    rw [AList.mem_keys, show AList.keys _ = [] from hkeys] at hmem
    cases hmem
  | setClientTimeoutCount timeoutCount =>
    cases hstep
    exact h.of_shrinks ⟨fun _ hmem => hmem, rfl, rfl, rfl⟩ rfl fun _ hm => hm
  | registerTransport pTransport =>
    obtain ⟨hmanaged, ⟨⟩⟩ := Option.ite_none_right_eq_some.mp hstep
    refine ⟨fun hnone => ?_, fun object r hlookup => ?_, fun m hm => ⟨?_, fun hmem => ?_⟩⟩
    · rw [show s.core.pClientManager = none from hnone] at hmanaged
      cases hmanaged.1
    · rcases eq_or_ne object pTransport.object with rfl | hne
      · rw [AList.lookup_insert] at hlookup
        cases hlookup
        exact le_rfl
      · rw [AList.lookup_insert_ne hne] at hlookup
        exact Nat.le_succ_of_le (h.receivers object r hlookup)
    · exact Nat.le_succ_of_le (h.queued m hm).handle
    · have hold : m.connectionInfo.handle ≤ s.core.lastTransportId := (h.queued m hm).handle
      exact (h.queued m hm).internal
        ((AList.mem_insert _).mp hmem |>.resolve_left (Nat.lt_succ_of_le hold).ne)
  | removeTransport env handle =>
    obtain ⟨c, hremove, hstep⟩ := Option.map_eq_some_iff.mp hstep
    cases hstep
    obtain ⟨hshrinks, hqueue⟩ := coreShrinks_removeTransport hremove
    refine h.of_shrinks hshrinks rfl fun m hm => ?_
    rwa [show c.core.queue = _ from hqueue] at hm
  | disable object =>
    obtain ⟨r, -, hstep⟩ := Option.bind_eq_some_iff.mp hstep
    obtain ⟨-, ⟨⟩⟩ := Option.ite_none_left_eq_some.mp hstep
    exact ⟨h.unmanaged, fun x r hlookup => h.receivers x r (lookup_of_erase hlookup), h.queued⟩
  | start =>
    obtain ⟨t, hstart, hstep⟩ := Option.map_eq_some_iff.mp hstep
    cases hstep
    obtain ⟨-, ⟨⟩⟩ := Option.ite_none_right_eq_some.mp hstart
    exact h.of_shrinks ⟨fun _ hmem => hmem, rfl, rfl, rfl⟩ rfl fun _ hm => hm
  | stop =>
    obtain ⟨t, hstop, hstep⟩ := Option.map_eq_some_iff.mp hstep
    cases hstep
    obtain ⟨hempty, ⟨⟩⟩ := Option.ite_none_right_eq_some.mp hstop
    exact ⟨fun _ => hempty.2.1, h.receivers, fun m hm =>
      ⟨(h.queued m hm).handle, (h.queued m hm).internal⟩⟩
  | receive env object m => exact routerConsistent_receive h hstep
  | takeQueue =>
    obtain ⟨-, ⟨⟩⟩ := Option.ite_none_right_eq_some.mp hstep
    exact h.of_shrinks ⟨fun _ hmem => hmem, rfl, rfl, rfl⟩ rfl fun m hm =>
      List.mem_append_right _ (by simpa using hm)
  | processMessage env =>
    simp only [routerMachine] at hstep
    split at hstep
    · cases hstep
    · rename_i m rest hbuffer
      obtain ⟨c, hprocess, hstep⟩ := Option.map_eq_some_iff.mp hstep
      cases hstep
      have hframe := frame_processMessage hprocess
      refine h.of_shrinks hframe.shrinks rfl fun x hx => ?_
      rw [show c.core.queue = _ from hframe.queue] at hx
      rw [hbuffer]
      exact List.mem_cons_of_mem m hx
  | updateClients env currentTimeInMs =>
    obtain ⟨-, hstep⟩ := Option.ite_none_right_eq_some.mp hstep
    obtain ⟨c, hupdate, hstep⟩ := Option.map_eq_some_iff.mp hstep
    cases hstep
    have hquiet := quiet_updateClients hupdate
    refine h.of_shrinks hquiet.toRouterFrame.shrinks rfl fun x hx => ?_
    rwa [show c.core.queue = _ from hquiet.queue] at hx
  | rehashClients clientMap =>
    obtain ⟨-, ⟨⟩⟩ := Option.ite_none_right_eq_some.mp hstep
    exact h.of_shrinks ⟨fun _ hmem => hmem, rfl, rfl, rfl⟩ rfl fun _ hm => hm
  | rehashTransports transportMap =>
    obtain ⟨hperm, ⟨⟩⟩ := Option.ite_none_right_eq_some.mp hstep
    have hkeys : ∀ handle, handle ∈ transportMap → handle ∈ s.core.transportMap :=
      fun handle hmem => (hperm.map Sigma.fst).mem_iff.mp hmem
    exact h.of_shrinks ⟨hkeys, rfl, rfl, rfl⟩ rfl fun _ hm => hm
  | rehashTransportClients handle clientMap =>
    obtain ⟨context, -, hstep⟩ := Option.bind_eq_some_iff.mp hstep
    split at hstep
    · cases hstep
      have hquiet := quiet_setTransportClients ⟨s.core, []⟩ handle fun _ => clientMap
      refine h.of_shrinks hquiet.toRouterFrame.shrinks rfl fun x hx => ?_
      rwa [show RouterCore.queue _ = _ from hquiet.queue] at hx
    · cases hstep

theorem routerConsistent_init (h : routerMachine.init s) : RouterConsistent s where
  unmanaged _ := by
    rw [h.transportMap]
    rfl
  receivers object r hlookup := by
    rw [h.receivers] at hlookup
    cases hlookup
  queued m hm := by
    rw [h.messageBuffer, h.queue] at hm
    cases hm

theorem routerConsistent_reachable (h : routerMachine.Reachable s) : RouterConsistent s :=
  h.invariant (fun _ hinit => routerConsistent_init hinit)
    fun _ _ _ _ _ hs hstep => routerConsistent_step hs hstep

def stringAt (size offset : ℕ) (p : Payload) : List UInt8 :=
  ((List.range size).map fun k => p (Fin.ofNat _ (offset + k))).takeWhile (· ≠ 0)

theorem strncpy_eq (size offset : ℕ) (p : Payload) :
    strncpy size p offset = (stringAt size offset p).take (size - 1) := by
  have hrange : List.range (size - 1) = (List.range size).take (size - 1) := by
    rw [List.take_range, Nat.min_eq_left (Nat.sub_le size 1)]
  rw [strncpy, stringAt, List.take_takeWhile, hrange, List.map_take]

/-- The record of the sender of a ClientInfo message, when it holds what the message says. -/
structure RecordsInfo (client : ClientContext) (p : Payload) : Prop where
  identified : client.clientInfo.hasBeenIdentified = true
  clientName : client.clientInfo.clientName =
    (stringAt kMaxStringLength 0 p).take (kMaxStringLength - 1)
  clientDescription : client.clientInfo.clientDescription =
    (stringAt kMaxStringLength kMaxStringLength p).take (kMaxStringLength - 1)
  clientPid : client.clientInfo.clientPid = UInt32.ofNat (payloadField p 392 4)

theorem recordsInfo_identify (client : ClientContext) (p : Payload) :
    RecordsInfo (client.identify p) p :=
  ⟨rfl, strncpy_eq _ _ p, strncpy_eq _ _ p, rfl⟩

/-- The message comes over a transport that the router has. -/
def IsLive (core : RouterCore) (m : MessageContext) : Prop :=
  m.connectionInfo.handle ≠ 0 ∧ m.connectionInfo.handle ∈ core.transportMap

instance (core : RouterCore) (m : MessageContext) : Decidable (IsLive core m) :=
  inferInstanceAs (Decidable (_ ∧ _))

theorem transportForTransportHandle_of_live (h : IsLive c.core m) :
    ∃ pTransport, c.transportForTransportHandle m.connectionInfo.handle = some pTransport := by
  obtain ⟨context, hcontext⟩ := Option.isSome_iff_exists.mp (AList.lookup_isSome.mpr h.2)
  exact ⟨context.pTransport, by
    rw [transportForTransportHandle, if_pos h.1, hcontext]
    rfl⟩

theorem transportForTransportHandle_of_not_live (h : ¬ IsLive c.core m) :
    c.transportForTransportHandle m.connectionInfo.handle = none := by
  unfold transportForTransportHandle
  split
  · rename_i hhandle
    rw [AList.lookup_eq_none.mpr fun hmem => h ⟨hhandle, hmem⟩]
    rfl
  · rfl

/-- The condition on a message: a ClientInfo message comes from a client that has a record. -/
def HasKnownSender (core : RouterCore) (m : MessageContext) : Prop :=
  IsClientInfo m → IsLive core m → m.header.srcClientId ∈ core.clientMap

theorem quiet_processRouterMessage (hmanagement : ¬ m.IsClientManagement)
    (hinternal : m.connectionInfo.handle ∈ c.core.transportMap → IsInternal c.core.clientId m)
    (hsender : HasKnownSender c.core m) (h : c.processRouterMessage env m = some c') :
    RouterQuiet c c' := by
  unfold processRouterMessage at h
  split at h
  · cases h
    exact .refl c
  · rename_i hlive
    have hlive : IsLive c.core m := by
      by_contra hnot
      rw [transportForTransportHandle_of_not_live hnot] at hlive
      cases hlive
    obtain ⟨hsystem, hsource, hdestination⟩ := (hinternal hlive.2).resolve_left hmanagement
    rw [if_pos hsystem, assert_of hdestination] at h
    obtain ⟨r, hswitch, hquery⟩ := Option.bind_eq_some_iff.mp h
    refine .trans ?_ ((quiet_processSystemMessage (fun hinfo => ?_) hswitch).trans
      (quiet_queryClientInfo hquery))
    · split
      · exact quiet_addClient hsource _ _ _
      · exact .refl c
    · exact AList.lookup_isSome.mpr (hsender ⟨hsystem, hinfo⟩ hlive)

theorem processRouterMessage_known (env : RouterEnv) (c : RouterCtx)
    (hinternal : IsInternal c.core.clientId m) (hmanagement : ¬ m.IsClientManagement)
    (hinfo : IsClientInfo m) (hlive : IsLive c.core m)
    (hsender : m.header.srcClientId ∈ c.core.clientMap) :
    ∃ client : ClientContext, c.processRouterMessage env m =
      some (c.setClient m.header.srcClientId (client.identify m.message.payload)) := by
  obtain ⟨pTransport, htransport⟩ := transportForTransportHandle_of_live hlive
  obtain ⟨-, -, hdestination⟩ := hinternal.resolve_left hmanagement
  obtain ⟨client, hclient⟩ := Option.isSome_iff_exists.mp (AList.lookup_isSome.mpr hsender)
  have hclient : c.findClientById m.header.srcClientId = some client := hclient
  refine ⟨client, ?_⟩
  have hswitch : c.processSystemMessage env m (some client) false =
      some (false, c.setClient m.header.srcClientId (client.identify m.message.payload)) := by
    rw [processSystemMessage, hinfo.2]
    rfl
  unfold processRouterMessage
  simp [htransport, hinfo.1, assert_of hdestination, hclient, hswitch]

theorem processRouterMessage_unknown (hinfo : IsClientInfo m) (hlive : IsLive c.core m)
    (hsender : m.header.srcClientId ∉ c.core.clientMap)
    (h : c.processRouterMessage env m = some c') :
    RouterAssert.clientInfoSender ∈ failedAssertions c'.events := by
  obtain ⟨pTransport, htransport⟩ := transportForTransportHandle_of_live hlive
  unfold processRouterMessage at h
  rw [htransport] at h
  dsimp only at h
  rw [if_pos hinfo.1] at h
  have hclient : (c.assert (m.header.dstClientId = c.core.clientId ∨
      m.header.dstClientId = kBroadcastClientId) .routerDestination).findClientById
      m.header.srcClientId = none := by
    have hlookup : c.findClientById m.header.srcClientId = none := AList.lookup_eq_none.mpr hsender
    unfold assert
    split <;> exact hlookup
  obtain ⟨r, hswitch, hquery⟩ := Option.bind_eq_some_iff.mp h
  rw [hclient] at hswitch
  rw [(quiet_queryClientInfo hquery).assertions]
  rw [processSystemMessage, hinfo.2] at hswitch
  cases hswitch
  simp [assert, emit, failedAssertions]

def Router.routerMessage (s : Router) : Option MessageContext :=
  s.messageBuffer.head?.filter fun m => ¬ m.IsClientManagement

/-- The step processes this router message. -/
def Processes (x : Router × RouterAction × List RouterEvent) (m : MessageContext) : Prop :=
  (∃ env, x.2.1 = .processMessage env) ∧ x.1.routerMessage = some m

/-- No assertion fails, and the sender of a ClientInfo message that came over a live transport is
in the client table with what the message says. -/
structure IsIdentifying (s t : Router) (events : List RouterEvent) (m : MessageContext) :
    Prop where
  assertions : failedAssertions events = []
  identified : IsClientInfo m → IsLive s.core m → ∃ client,
    t.core.clientMap.lookup m.header.srcClientId = some client ∧
      RecordsInfo client m.message.payload

theorem routerMessage_cons (h : s.routerMessage = some m) :
    (∃ rest, s.messageBuffer = m :: rest) ∧ ¬ m.IsClientManagement := by
  obtain ⟨hhead, hmanagement⟩ := Option.filter_eq_some_iff.mp h
  exact ⟨List.head?_eq_some_iff.mp hhead, of_decide_eq_true hmanagement⟩

theorem step_processMessage (hmessage : s.routerMessage = some m)
    (hstep : routerMachine.step s (.processMessage env) = some (t, events)) :
    ∃ c, processRouterMessage env m ⟨s.core, []⟩ = some c ∧ t.core = c.core ∧
      events = c.events := by
  obtain ⟨⟨rest, hbuffer⟩, hmanagement⟩ := routerMessage_cons hmessage
  simp only [routerMachine, hbuffer, Router.processMessage, if_neg hmanagement] at hstep
  obtain ⟨c, hprocess, hstep⟩ := Option.map_eq_some_iff.mp hstep
  cases hstep
  exact ⟨c, hprocess, rfl, rfl⟩

theorem isIdentifying_iff (hs : RouterConsistent s) (hmessage : s.routerMessage = some m)
    (hstep : routerMachine.step s (.processMessage env) = some (t, events)) :
    IsIdentifying s t events m ↔ HasKnownSender s.core m := by
  obtain ⟨⟨rest, hbuffer⟩, hmanagement⟩ := routerMessage_cons hmessage
  have hqueued : IsQueued s.core m := hs.queued m (by simp [hbuffer])
  obtain ⟨c, hprocess, hcore, rfl⟩ := step_processMessage hmessage hstep
  constructor
  · intro h hinfo hlive
    by_contra hunknown
    have hfails := processRouterMessage_unknown hinfo hlive hunknown hprocess
    rw [h.assertions] at hfails
    cases hfails
  · intro hsender
    refine ⟨(quiet_processRouterMessage hmanagement hqueued.internal hsender hprocess).assertions,
      fun hinfo hlive => ?_⟩
    have hknown : m.header.srcClientId ∈ s.core.clientMap := hsender hinfo hlive
    obtain ⟨client, hrecord⟩ := processRouterMessage_known env ⟨s.core, []⟩
      (hqueued.internal hlive.2) hmanagement hinfo hlive hknown
    obtain rfl := Option.some.inj (hprocess.symm.trans hrecord)
    refine ⟨client.identify m.message.payload, ?_, recordsInfo_identify client _⟩
    rw [hcore]
    exact lookup_replace hknown _

/-- In every run, the messages at which no assertion fails and a ClientInfo message identifies its
sender are those whose sender has a record, if they are ClientInfo messages over a live transport;
and such a message is always processed. -/
theorem router_identification {s t : Router} {tr : List (Router × RouterAction × List RouterEvent)}
    (hinit : routerMachine.init s) (htrace : routerMachine.Trace s tr t) :
    (∀ x ∈ tr, ∀ m, Processes x m →
      ((∀ u, routerMachine.step x.1 x.2.1 = some (u, x.2.2) → IsIdentifying x.1 u x.2.2 m) ↔
        HasKnownSender x.1.core m)) ∧
    ∀ m, t.routerMessage = some m → IsClientInfo m → IsLive t.core m →
      m.header.srcClientId ∈ t.core.clientMap →
      ∀ env, (routerMachine.step t (.processMessage env)).isSome := by
  refine ⟨fun x hx m hm => ?_, fun m hm hinfo hlive hknown env => ?_⟩
  · obtain ⟨hreachable, v, hstep⟩ := htrace.reachable_of_mem (.init hinit) hx
    have hs := routerConsistent_reachable hreachable
    obtain ⟨⟨env, ha⟩, hmessage⟩ := hm
    constructor
    · intro h
      have hv := h v hstep
      rw [ha] at hstep
      exact (isIdentifying_iff hs hmessage hstep).mp hv
    · intro hsender u hu
      rw [ha] at hu
      exact (isIdentifying_iff hs hmessage hu).mpr hsender
  · have hs := routerConsistent_reachable (htrace.reachable (.init hinit))
    obtain ⟨⟨rest, hbuffer⟩, hmanagement⟩ := routerMessage_cons hm
    have hqueued : IsQueued t.core m := hs.queued m (by simp [hbuffer])
    obtain ⟨client, hrecord⟩ := processRouterMessage_known env ⟨t.core, []⟩
      (hqueued.internal hlive.2) hmanagement hinfo hlive hknown
    simp only [routerMachine, hbuffer, Router.processMessage, if_neg hmanagement, hrecord]
    rfl

def newRouter : Router where
  core := ⟨∅, ∅, none, 0, 0, 0, 3, []⟩
  active := false
  messageBuffer := []
  receivers := ∅

theorem isNewRouter_newRouter : IsNewRouter newRouter := ⟨rfl, rfl, rfl, rfl, rfl, rfl, rfl, rfl⟩

def calmRouterEnv : RouterEnv where
  transmit _ _ _ _ := .success
  depth := 4
  draws := []

def fromClient (messageId : MessageCode) : MessageContext where
  message := systemBroadcast messageId 5
  connectionInfo := ⟨[7], 1⟩

def routerRun (messages : List MessageCode) : List RouterAction :=
  [.setClientManager 0 0 [41], .registerTransport ⟨0, false⟩, .start] ++
    messages.map (fun messageId => .receive calmRouterEnv 0 (fromClient messageId)) ++ [.takeQueue]

theorem router_identification_announced : ∃ s t events m,
    routerMachine.run newRouter
      (routerRun [SystemMessage.clientConnected, SystemMessage.clientInfo.toCode] ++
        [.processMessage calmRouterEnv]) = some s ∧
    routerMachine.step s (.processMessage calmRouterEnv) = some (t, events) ∧
    IsClientInfo m ∧ IsIdentifying s t events m := by
  let as := routerRun [SystemMessage.clientConnected, SystemMessage.clientInfo.toCode] ++
    [.processMessage calmRouterEnv]
  obtain ⟨s, hrun, hs⟩ := routerMachine.exists_of_run newRouter as
    (fun s => s.routerMessage.any (fun m => decide (IsClientInfo m ∧
      IsLive s.core m ∧ m.header.srcClientId ∈ s.core.clientMap)) = true) (by decide +kernel)
  obtain ⟨m, hmessage, hm⟩ := (Option.any_eq_true _ _).mp hs
  obtain ⟨hinfo, hlive, hknown⟩ := of_decide_eq_true hm
  have hprocessed := (router_identification isNewRouter_newRouter (.of_run hrun)).2 m hmessage
    hinfo hlive hknown calmRouterEnv
  obtain ⟨⟨t, events⟩, hstep⟩ := Option.isSome_iff_exists.mp hprocessed
  have hidentifies := ((router_identification isNewRouter_newRouter
    (.snoc (.of_run hrun) hstep)).1 (s, .processMessage calmRouterEnv, events)
    (List.mem_append_right _ (List.mem_singleton_self _)) m ⟨⟨_, rfl⟩, hmessage⟩).mpr
    (fun _ _ => hknown) t hstep
  exact ⟨s, t, events, m, hrun, hstep, hinfo, hidentifies⟩

/-- A client that tells who it is before the router knows it trips the assertion. -/
theorem client_info_of_new_client : ¬ ∀ (s t : Router)
    (tr : List (Router × RouterAction × List RouterEvent)),
    routerMachine.init s → routerMachine.Trace s tr t →
    ∀ x ∈ tr, ∀ m, Processes x m →
      ∀ u, routerMachine.step x.1 x.2.1 = some (u, x.2.2) → IsIdentifying x.1 u x.2.2 m := by
  intro hall
  obtain ⟨s, hrun, hs⟩ :=
    routerMachine.exists_of_run newRouter (routerRun [SystemMessage.clientInfo.toCode])
      (fun s => ((routerMachine.step s (.processMessage calmRouterEnv)).any fun x =>
        s.routerMessage.isSome && decide (failedAssertions x.2 ≠ [])) = true) (by decide +kernel)
  obtain ⟨⟨t, events⟩, hstep, hfails⟩ := (Option.any_eq_true _ _).mp hs
  rw [Bool.and_eq_true] at hfails
  obtain ⟨m, hmessage⟩ := Option.isSome_iff_exists.mp hfails.1
  exact of_decide_eq_true hfails.2 (hall newRouter t _ isNewRouter_newRouter
    (.snoc (.of_run hrun) hstep) (s, .processMessage calmRouterEnv, events)
    (List.mem_append_right _ (List.mem_singleton_self _)) m ⟨⟨_, rfl⟩, hmessage⟩ t
    hstep).assertions

end DevDriver.Analysis
