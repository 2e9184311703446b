import DevDriver.Analysis.RouterRoutes

/-!
# The routing caches and the client table

A receive thread remembers where it found the clients that it sends to, and of the last of them also
that it found none.
-/

namespace DevDriver.Analysis

open Library Model RouterCtx

/-! ## What a receive thread remembers -/

/-- The cache has nothing of a client but the given route: neither that the client was not found,
when it is the last one that was looked up, nor an entry with another connection or transport. -/
def CacheAgrees (cache : RoutingCache) (clientId : ClientId)
    (r : ConnectionInfo × ListenerTransport) : Prop :=
  (cache.currentClientId = clientId → cache.currentClientContext = some ⟨r.1, some r.2⟩) ∧
    ∀ context ∈ cache.routingCache.lookup clientId, context = ⟨r.1, some r.2⟩

instance (cache : RoutingCache) (clientId : ClientId) (r : ConnectionInfo × ListenerTransport) :
    Decidable (CacheAgrees cache clientId r) := inferInstanceAs (Decidable (_ ∧ _))

def CacheCoherent (cache : RoutingCache) (core : RouterCore) : Prop :=
  ∀ clientId r, clientId ≠ kBroadcastClientId → routeOf core clientId = some r →
    CacheAgrees cache clientId r

theorem cacheCoherent_new (core : RouterCore) : CacheCoherent .new core := by
  intro clientId r hne _
  refine ⟨fun h => absurd h.symm hne, fun context h => ?_⟩
  cases h

theorem CacheCoherent.shrink {cache : RoutingCache} {core core' : RouterCore}
    (h : CacheCoherent cache core) (hshrink : RoutesShrink core core') :
    CacheCoherent cache core' :=
  fun clientId r hne hr => h clientId r hne (hshrink.routeOf hr)

section Select

variable {cache : RoutingCache} {dstClientId : ClientId} {c : RouterCtx}

theorem core_select : (cache.select dstClientId c).2.core = c.core := by
  unfold RoutingCache.select
  split
  · split
    · rfl
    · split
      · simp only [core_assert]
      · rfl
  · rfl

theorem directed_assert (c : RouterCtx) (p : Prop) [Decidable p] (assertion : RouterAssert) :
    directed (c.assert p assertion).events = directed c.events := by
  unfold assert
  split
  · rfl
  · simp [emit, directed]

theorem directed_select : directed (cache.select dstClientId c).2.events = directed c.events := by
  unfold RoutingCache.select
  split
  · split
    · rfl
    · split
      · simp only [directed_assert]
      · rfl
  · rfl

theorem currentClientContext_select {r : ConnectionInfo × ListenerTransport}
    (hr : routeOf c.core dstClientId = some r) (hcache : CacheAgrees cache dstClientId r) :
    (cache.select dstClientId c).1.currentClientContext = some ⟨r.1, some r.2⟩ := by
  obtain ⟨client, hclient, hconnection, htransport⟩ := routeOf_eq_some.mp hr
  unfold RoutingCache.select
  split
  · split
    · rename_i context hcontext
      exact congrArg some (hcache.2 context hcontext)
    · rw [show c.findClientById dstClientId = some client from hclient]
      have hfound : (c.assert (client.connectionInfo.handle ≠ 0) .connectionHandle
          ).transportForTransportHandle client.connectionInfo.handle = some r.2 := by
        unfold transportOf at htransport
        unfold transportForTransportHandle at htransport ⊢
        rw [core_assert, hconnection, ← htransport]
      dsimp only
      rw [hfound, hconnection]
  · rename_i hcurrent
    exact hcache.1 (not_not.mp hcurrent)

theorem CacheCoherent.select (h : CacheCoherent cache c.core) :
    CacheCoherent (cache.select dstClientId c).1 c.core := by
  intro clientId r hne hr
  have hold := h clientId r hne hr
  by_cases hdst : clientId = dstClientId
  · subst hdst
    have hselected := currentClientContext_select hr hold
    refine ⟨fun _ => hselected, ?_⟩
    unfold RoutingCache.select at hselected ⊢
    split
    · rename_i hcurrent
      rw [if_pos hcurrent] at hselected
      split
      · exact hold.2
      · rename_i hmiss
        simp only [hmiss] at hselected
        split
        · rename_i client hclient
          simp only [hclient] at hselected
          intro context hcontext
          rw [AList.lookup_insert] at hcontext
          exact (Option.some.inj hcontext).symm.trans (Option.some.inj hselected)
        · exact hold.2
    · exact hold.2
  · unfold RoutingCache.select
    split
    · split
      · exact ⟨fun heq => absurd heq.symm hdst, hold.2⟩
      · split
        · refine ⟨fun heq => absurd heq.symm hdst, ?_⟩
          rw [AList.lookup_insert_ne hdst]
          exact hold.2
        · exact ⟨fun heq => absurd heq.symm hdst, hold.2⟩
    · exact hold

end Select

/-! ## Routing a message -/

/-- The message is one that a receive thread routes.
routerCore.cpp:566-590 -/
def IsRoutable (core : RouterCore) (m : MessageContext) : Prop :=
  ((⟨core, []⟩ : RouterCtx).isRoutableMessage m).1 = true

instance (core : RouterCore) (m : MessageContext) : Decidable (IsRoutable core m) :=
  inferInstanceAs (Decidable (_ = true))

def routing (m : MessageContext) (c : RouterCtx) : RouterCtx :=
  ((c.assert (m.connectionInfo.handle ≠ 0) .connectionHandle).isRoutableMessage m).2

variable {s t : Router} {env : RouterEnv} {m : MessageContext} {events : List RouterEvent}
    {c : RouterCtx}

theorem isRoutable_iff :
    ((c.assert (m.connectionInfo.handle ≠ 0) .connectionHandle).isRoutableMessage m).1 = true ↔
      IsRoutable c.core m := by
  unfold IsRoutable isRoutableMessage
  rw [core_assert]
  split_ifs <;> rfl

theorem routing_cases (m : MessageContext) (c : RouterCtx) :
    (routing m c).core.clientMap = c.core.clientMap ∧
      (routing m c).core.transportMap = c.core.transportMap ∧
      directed (routing m c).events = directed c.events := by
  have hcore := core_assert c (m.connectionInfo.handle ≠ 0) .connectionHandle
  have hevents := directed_assert c (m.connectionInfo.handle ≠ 0) .connectionHandle
  unfold routing
  generalize c.assert (m.connectionInfo.handle ≠ 0) .connectionHandle = c₁ at hcore hevents
  rw [← hcore, ← hevents]
  rcases isRoutableMessage_cases m c₁ with h | ⟨h, -⟩
  · rw [h]
    exact ⟨rfl, rfl, rfl⟩
  · rw [h]
    exact ⟨rfl, rfl, rfl⟩

theorem routeMessage_found {cache : RoutingCache} {r : ConnectionInfo × ListenerTransport}
    (hroutable : IsRoutable c.core m) (hdirected : m.header.dstClientId ≠ kBroadcastClientId)
    (hfound : (cache.select m.header.dstClientId (routing m c)).1.currentClientContext =
      some ⟨r.1, some r.2⟩) :
    cache.routeMessage env m c =
      let selected := cache.select m.header.dstClientId (routing m c)
      let sent := selected.2.transmitMessage env r.2 r.1 m.message
      if sent.1 = .error then
        (removeClient env m.header.dstClientId sent.2).map
          ({ routingCache := selected.1.routingCache.erase m.header.dstClientId
             currentClientId := kBroadcastClientId
             currentClientContext := none }, ·)
      else some (selected.1, sent.2) := by
  unfold RoutingCache.routeMessage
  dsimp only
  rw [if_pos (isRoutable_iff.mpr hroutable), if_neg hdirected, ← routing]
  generalize cache.select m.header.dstClientId (routing m c) = selected at hfound ⊢
  rw [hfound]
  rfl

section Routed

variable {env : RouterEnv} {m : MessageContext} {cache cache' : RoutingCache} {c c' : RouterCtx}
  {r : ConnectionInfo × ListenerTransport}

theorem routeOf_routing (clientId : ClientId) :
    routeOf (routing m c).core clientId = routeOf c.core clientId := by
  obtain ⟨hclients, htransports, -⟩ := routing_cases m c
  unfold routeOf transportOf transportForTransportHandle
  rw [hclients, htransports]

theorem directed_transmitMessage (hdirected : m.header.dstClientId ≠ kBroadcastClientId)
    (c : RouterCtx) : directed (c.transmitMessage env r.2 r.1 m.message).2.events =
      directed c.events ++ [(r.2, r.1, m.message)] := by
  simp [transmitMessage, emit, directed, hdirected]

theorem directed_routeMessage (hroutable : IsRoutable c.core m)
    (hdirected : m.header.dstClientId ≠ kBroadcastClientId)
    (hr : routeOf c.core m.header.dstClientId = some r)
    (hcache : CacheAgrees cache m.header.dstClientId r)
    (h : cache.routeMessage env m c = some (cache', c')) :
    directed c'.events = directed c.events ++ [(r.2, r.1, m.message)] := by
  have hroute := (routeOf_routing (m := m) (c := c) m.header.dstClientId).trans hr
  rw [routeMessage_found hroutable hdirected (currentClientContext_select hroute hcache)] at h
  dsimp only at h
  have hsent : directed ((cache.select m.header.dstClientId (routing m c)).2.transmitMessage env
      r.2 r.1 m.message).2.events = _ := directed_transmitMessage hdirected _
  rw [directed_select, (routing_cases m c).2.2] at hsent
  rw [← hsent]
  split at h
  · obtain ⟨c₁, hremove, h⟩ := Option.map_eq_some_iff.mp h
    cases h
    exact (withdraws_removeClient hremove).directed
  · cases h
    rfl

theorem isSome_routeMessage (hroutable : IsRoutable c.core m)
    (hdirected : m.header.dstClientId ≠ kBroadcastClientId)
    (hr : routeOf c.core m.header.dstClientId = some r)
    (hcache : CacheAgrees cache m.header.dstClientId r)
    (henv : ∀ n, env.transmit n r.2 r.1 m.message ≠ .error) :
    (cache.routeMessage env m c).isSome := by
  have hroute := (routeOf_routing (m := m) (c := c) m.header.dstClientId).trans hr
  rw [routeMessage_found hroutable hdirected (currentClientContext_select hroute hcache)]
  rw [if_neg (show ¬ (transmitMessage env r.2 r.1 m.message _).1 = .error from henv _)]
  rfl

theorem CacheCoherent.routeMessage (hcache : CacheCoherent cache c.core)
    (h : cache.routeMessage env m c = some (cache', c')) :
    RoutesShrink c.core c'.core ∧ CacheCoherent cache' c'.core := by
  obtain ⟨hclients, htransports, -⟩ := routing_cases m c
  have hshrink : RoutesShrink c.core (routing m c).core := .of_eq hclients htransports
  have hrouting : CacheCoherent cache (routing m c).core := hcache.shrink hshrink
  unfold RoutingCache.routeMessage at h
  dsimp only at h
  split_ifs at h with hroutable hbroadcast
  · obtain ⟨c₁, hsend, h⟩ := Option.map_eq_some_iff.mp h
    cases h
    have hsent := (withdraws_sendBroadcastMessage hbroadcast hsend).shrink
    exact ⟨hshrink.trans hsent, hrouting.shrink hsent⟩
  · have hselected : CacheCoherent (cache.select m.header.dstClientId (routing m c)).1
        (routing m c).core := hrouting.select
    have hcore : (cache.select m.header.dstClientId (routing m c)).2.core =
        (routing m c).core := core_select
    rw [← routing] at h
    generalize cache.select m.header.dstClientId (routing m c) = selected at h hselected hcore
    split at h
    · cases h
      rw [← hcore] at hselected hshrink
      exact ⟨hshrink, hselected⟩
    · rename_i context _
      obtain ⟨pTransport, -, h⟩ := Option.bind_eq_some_iff.mp h
      rw [← hcore] at hselected hshrink
      split at h
      · obtain ⟨c₁, hremove, h⟩ := Option.map_eq_some_iff.mp h
        cases h
        have hremoved := (withdraws_removeClient hremove).shrink
        refine ⟨hshrink.trans hremoved, fun clientId r hne hr => ?_⟩
        have hold := hselected clientId r hne (hremoved.routeOf hr)
        exact ⟨fun heq => absurd heq.symm hne,
          fun context hcontext => hold.2 context (lookup_of_erase hcontext)⟩
      · cases h
        exact ⟨hshrink, hselected⟩
  · cases h
    exact ⟨hshrink, hrouting⟩

end Routed

/-! ## The runs of a router -/

/-- The client that a step enters into the table, and the connection that it is entered with. -/
def Router.entering (s : Router) : RouterAction → Option (ClientId × ConnectionInfo)
  | .processMessage env => s.messageBuffer.head?.bind fun m =>
      (enteringClient env m ⟨s.core, []⟩).map (·, m.connectionInfo)
  | _ => none

/-- The condition on a step: when the client thread enters a client into the table, no receive
thread remembers the client otherwise than over the connection that it is entered with. -/
def EntersUnremembered (s : Router) (a : RouterAction) : Prop :=
  ∀ x ∈ s.entering a, ∀ pTransport ∈ transportOf s.core x.2.handle,
    ∀ e ∈ s.receivers.entries, CacheAgrees e.2.2 x.1 (x.2, pTransport)

instance (s : Router) (a : RouterAction) : Decidable (EntersUnremembered s a) :=
  inferInstanceAs (Decidable (∀ x ∈ s.entering a, ∀ _ ∈ _, ∀ _ ∈ _, _))

/-- Each cache agrees with the tables about the clients that have a route. -/
structure RoutesCoherent (s : Router) : Prop where
  transports : ∀ handle, handle ∈ s.core.transportMap → handle ≤ s.core.lastTransportId
  clients : ∀ clientId client, s.core.clientMap.lookup clientId = some client →
    client.connectionInfo.handle ≤ s.core.lastTransportId
  caches : ∀ object r, s.receivers.lookup object = some r → CacheCoherent r.2 s.core

theorem RoutesCoherent.of_shrink (h : RoutesCoherent s) (hcore : CoreShrinks s.core t.core)
    (hshrink : RoutesShrink s.core t.core)
    (hreceivers : ∀ object r, t.receivers.lookup object = some r →
      s.receivers.lookup object = some r) : RoutesCoherent t where
  transports handle hmem := by
    rw [hcore.lastTransportId]
    exact h.transports handle (hcore.transports handle hmem)
  clients clientId client' hclient' := by
    obtain ⟨client, hclient, hconnection⟩ := hshrink.clients clientId client' hclient'
    rw [hcore.lastTransportId, hconnection]
    exact h.clients clientId client hclient
  caches object r hlookup := (h.caches object r (hreceivers object r hlookup)).shrink hshrink

theorem routesCoherent_processMessage {rest : List MessageContext} (h : RoutesCoherent s)
    (hbuffer : s.messageBuffer = m :: rest) (hcond : EntersUnremembered s (.processMessage env))
    (hprocess : Router.processMessage env m ⟨s.core, []⟩ = some c) :
    RoutesCoherent { s with core := c.core, messageBuffer := rest } where
  transports handle hmem := by
    have hcore := (frame_processMessage hprocess).shrinks
    rw [show c.core.lastTransportId = _ from hcore.lastTransportId]
    exact h.transports handle (hcore.transports handle hmem)
  clients clientId client' hclient' := by
    have hgrow := (reworks_processMessage hprocess).grow
    rw [show c.core.lastTransportId = _ from (frame_processMessage hprocess).lastTransportId]
    rcases hgrow.clients clientId client' hclient' with ⟨client, hclient, hconnection⟩ |
      ⟨-, hconnection, hmem⟩
    · rw [hconnection]
      exact h.clients clientId client hclient
    · rw [hconnection]
      exact h.transports _ hmem
  caches object r hlookup clientId route hne hroute := by
    rcases (reworks_processMessage hprocess).grow.routeOf hroute with hold |
      ⟨hentering, hconnection, htransport⟩
    · exact h.caches object r hlookup clientId route hne hold
    · have henters : s.entering (.processMessage env) = some (clientId, m.connectionInfo) := by
        simp [Router.entering, hbuffer, hentering]
      have hagrees := hcond _ henters route.2 htransport ⟨object, r⟩
        (AList.mem_lookup_iff.mp hlookup)
      rwa [← hconnection] at hagrees

theorem routesCoherent_receive {object : ℕ} (h : RoutesCoherent s)
    (hstep : s.receive env object m = some (t, events)) : RoutesCoherent t := by
  obtain ⟨⟨handle, cache⟩, hreceiver, hstep⟩ := Option.bind_eq_some_iff.mp hstep
  obtain ⟨-, hstep⟩ := Option.ite_none_right_eq_some.mp hstep
  obtain ⟨⟨cache', c⟩, hroute, hstep⟩ := Option.map_eq_some_iff.mp hstep
  cases hstep
  obtain ⟨hshrink, hcache⟩ := (h.caches object _ hreceiver).routeMessage hroute
  have hcore : c.core.lastTransportId = s.core.lastTransportId ∧
      ∀ x, x ∈ c.core.transportMap → x ∈ s.core.transportMap := by
    rcases frame_routeMessage hroute with hframe | ⟨hframe, -⟩
    · exact ⟨hframe.lastTransportId, hframe.shrinks.transports⟩
    · exact ⟨hframe.lastTransportId, hframe.shrinks.transports⟩
  refine ⟨fun x hx => ?_, fun x y hy => ?_, fun x r hx => ?_⟩
  · exact hcore.1 ▸ h.transports x (hcore.2 x hx)
  · obtain ⟨client, hclient, hconnection⟩ := hshrink.clients x y hy
    rw [hconnection]
    exact hcore.1 ▸ h.clients x client hclient
  · rcases eq_or_ne x object with rfl | hne
    · rw [lookup_replace (AList.lookup_isSome.mp (by rw [hreceiver]; rfl))] at hx
      cases hx
      exact hcache
    · rw [lookup_replace_ne hne] at hx
      exact (h.caches x r hx).shrink hshrink

theorem routesCoherent_registerTransport (h : RoutesCoherent s) (pTransport : ListenerTransport) :
    RoutesCoherent { s with
      core := ((⟨s.core, []⟩ : RouterCtx).registerTransport pTransport).core
      receivers := s.receivers.insert pTransport.object (s.core.lastTransportId + 1, .new) } where
  transports handle hmem := by
    rcases (AList.mem_insert _).mp hmem with rfl | hmem
    · exact le_rfl
    · exact Nat.le_succ_of_le (h.transports handle hmem)
  clients clientId client hclient := Nat.le_succ_of_le (h.clients clientId client hclient)
  caches object r hlookup := by
    -- no client has the handle of the new transport yet
    have hroute : ∀ clientId route,
        routeOf ((⟨s.core, []⟩ : RouterCtx).registerTransport pTransport).core clientId =
          some route → routeOf s.core clientId = some route := by
      intro clientId route hroute
      obtain ⟨client, hclient, hconnection, htransport⟩ := routeOf_eq_some.mp hroute
      apply routeOf_eq_some.mpr
      refine ⟨client, hclient, hconnection, ?_⟩
      have hhandle : route.1.handle ≠ s.core.lastTransportId + 1 := by
        rw [← hconnection]
        exact (Nat.lt_succ_of_le (h.clients clientId client hclient)).ne
      have hold : (((⟨s.core, []⟩ : RouterCtx).registerTransport pTransport).core.transportMap
          ).lookup route.1.handle = s.core.transportMap.lookup route.1.handle :=
        AList.lookup_insert_ne hhandle
      unfold transportOf transportForTransportHandle at htransport ⊢
      rwa [hold] at htransport
    rcases eq_or_ne object pTransport.object with rfl | hne
    · rw [AList.lookup_insert] at hlookup
      cases hlookup
      exact cacheCoherent_new _
    · rw [AList.lookup_insert_ne hne] at hlookup
      intro clientId route hbroadcast hnew
      exact h.caches object r hlookup clientId route hbroadcast (hroute clientId route hnew)

/-- One case for each step of a router. -/
theorem routesCoherent_step {a : RouterAction} (h : RoutesCoherent s)
    (hcond : EntersUnremembered s a) (hstep : routerMachine.step s a = some (t, events)) :
    RoutesCoherent t := by
  cases a with
  | setClientManager routerPrefix routerPrefixMask draws =>
    obtain ⟨-, hstep⟩ := Option.ite_none_right_eq_some.mp hstep
    obtain ⟨manager, -, hstep⟩ := Option.map_eq_some_iff.mp hstep
    cases hstep
    exact ⟨h.transports, h.clients, h.caches⟩
  | setClientTimeoutCount timeoutCount =>
    cases hstep
    exact ⟨h.transports, h.clients, h.caches⟩
  | registerTransport pTransport =>
    obtain ⟨-, ⟨⟩⟩ := Option.ite_none_right_eq_some.mp hstep
    exact routesCoherent_registerTransport h pTransport
  | removeTransport env handle =>
    obtain ⟨c, hremove, hstep⟩ := Option.map_eq_some_iff.mp hstep
    cases hstep
    exact h.of_shrink (coreShrinks_removeTransport hremove).1
      (routesShrink_removeTransport hremove) fun _ _ hlookup => hlookup
  | disable object =>
    obtain ⟨r, -, hstep⟩ := Option.bind_eq_some_iff.mp hstep
    obtain ⟨-, ⟨⟩⟩ := Option.ite_none_left_eq_some.mp hstep
    exact ⟨h.transports, h.clients, fun x r hlookup => h.caches x r (lookup_of_erase hlookup)⟩
  | start =>
    obtain ⟨t, hstart, hstep⟩ := Option.map_eq_some_iff.mp hstep
    cases hstep
    obtain ⟨-, ⟨⟩⟩ := Option.ite_none_right_eq_some.mp hstart
    exact ⟨h.transports, h.clients, h.caches⟩
  | stop =>
    obtain ⟨t, hstop, hstep⟩ := Option.map_eq_some_iff.mp hstep
    cases hstep
    obtain ⟨-, ⟨⟩⟩ := Option.ite_none_right_eq_some.mp hstop
    exact ⟨h.transports, h.clients, h.caches⟩
  | receive env object m => exact routesCoherent_receive h hstep
  | takeQueue =>
    obtain ⟨-, ⟨⟩⟩ := Option.ite_none_right_eq_some.mp hstep
    exact ⟨h.transports, h.clients, h.caches⟩
  | processMessage env =>
    simp only [routerMachine] at hstep
    split at hstep
    · cases hstep
    · rename_i m rest hbuffer
      obtain ⟨c, hprocess, hstep⟩ := Option.map_eq_some_iff.mp hstep
      cases hstep
      exact routesCoherent_processMessage (s := s) h hbuffer hcond hprocess
  | updateClients env currentTimeInMs =>
    obtain ⟨-, hstep⟩ := Option.ite_none_right_eq_some.mp hstep
    obtain ⟨c, hupdate, hstep⟩ := Option.map_eq_some_iff.mp hstep
    cases hstep
    have hreworks : Reworks True ⟨[], 0⟩ none ⟨s.core, []⟩ c := reworks_updateClients hupdate
    exact h.of_shrink (quiet_updateClients hupdate).toRouterFrame.shrinks hreworks.shrink
      fun _ _ hlookup => hlookup
  | rehashClients clientMap =>
    obtain ⟨hperm, ⟨⟩⟩ := Option.ite_none_right_eq_some.mp hstep
    refine h.of_shrink ⟨fun _ hmem => hmem, rfl, rfl, rfl⟩ ?_ fun _ _ hlookup => hlookup
    refine ⟨fun clientId client hclient => ⟨client, ?_, rfl⟩, fun _ _ hlookup => hlookup⟩
    exact (AList.perm_lookup hperm).symm.trans hclient
  | rehashTransports transportMap =>
    obtain ⟨hperm, ⟨⟩⟩ := Option.ite_none_right_eq_some.mp hstep
    have hkeys : ∀ handle, handle ∈ transportMap → handle ∈ s.core.transportMap :=
      fun handle hmem => (hperm.map Sigma.fst).mem_iff.mp hmem
    refine h.of_shrink ⟨hkeys, rfl, rfl, rfl⟩ ?_ fun _ _ hlookup => hlookup
    refine ⟨fun _ client hclient => ⟨client, hclient, rfl⟩, fun handle pTransport h' => ?_⟩
    unfold transportOf transportForTransportHandle at h' ⊢
    rwa [show AList.lookup handle _ = _ from AList.perm_lookup hperm] at h'
  | rehashTransportClients handle clientMap =>
    obtain ⟨context, -, hstep⟩ := Option.bind_eq_some_iff.mp hstep
    split at hstep
    · cases hstep
      have hquiet := quiet_setTransportClients ⟨s.core, []⟩ handle fun _ => clientMap
      exact h.of_shrink hquiet.toRouterFrame.shrinks
        (routesShrink_setTransportClients ⟨s.core, []⟩ handle fun _ => clientMap)
        fun _ _ hlookup => hlookup
    · cases hstep

theorem routesCoherent_init (h : routerMachine.init s) : RoutesCoherent s where
  transports handle hmem := by
    rw [h.transportMap] at hmem
    exact absurd hmem (AList.notMem_empty handle)
  clients clientId client hclient := by
    rw [h.clientMap] at hclient
    cases hclient
  caches object r hlookup := by
    rw [h.receivers] at hlookup
    cases hlookup

/-- A step at which a receive thread has a routable message for one client: the message is
transmitted once, through the transport and with the connection that the tables have for the
client, if they have both. -/
def RoutesByTable (x : Router × RouterAction × List RouterEvent) : Prop :=
  ∀ env object m r, x.2.1 = .receive env object m → IsRoutable x.1.core m →
    m.header.dstClientId ≠ kBroadcastClientId → routeOf x.1.core m.header.dstClientId = some r →
      directed x.2.2 = [(r.2, r.1, m.message)]

theorem routesByTable_of_coherent {a : RouterAction} (h : RoutesCoherent s)
    (hstep : routerMachine.step s a = some (t, events)) : RoutesByTable (s, a, events) := by
  intro env object m r ha hroutable hdirected hr
  obtain rfl : a = .receive env object m := ha
  obtain ⟨⟨handle, cache⟩, hreceiver, hstep⟩ := Option.bind_eq_some_iff.mp hstep
  dsimp only at hstep
  split at hstep
  · obtain ⟨⟨cache', c⟩, hroute, hstep⟩ := Option.map_eq_some_iff.mp hstep
    cases hstep
    exact directed_routeMessage hroutable hdirected hr
      (h.caches object _ hreceiver _ _ hdirected hr) hroute
  · cases hstep

/-- In every run in which the client thread enters no client that a receive thread remembers
otherwise, every routable message to a client of the table is transmitted where the table places
the client, and none is lost as long as the transmission does not fail. -/
theorem routing_agrees_of_run {s t : Router}
    {tr : List (Router × RouterAction × List RouterEvent)}
    (hinit : routerMachine.init s) (htrace : routerMachine.Trace s tr t)
    (hcond : ∀ x ∈ tr, EntersUnremembered x.1 x.2.1) :
    (∀ x ∈ tr, RoutesByTable x) ∧
    ∀ env object m r receiver, t.receivers.lookup object = some receiver →
      m.connectionInfo.handle = receiver.1 → IsRoutable t.core m →
      m.header.dstClientId ≠ kBroadcastClientId → routeOf t.core m.header.dstClientId = some r →
      (∀ n, env.transmit n r.2 r.1 m.message ≠ .error) →
      (routerMachine.step t (.receive env object m)).isSome := by
  have hinvariant := routesCoherent_init hinit
  constructor
  · intro x hx
    obtain ⟨hcoherent, -, v, hstep⟩ := htrace.invariant_of_mem hinvariant hcond
      (fun _ _ _ _ h hone hstep => routesCoherent_step h hone hstep) hx
    exact routesByTable_of_coherent hcoherent hstep
  · intro env object m r ⟨handle, cache⟩ hreceiver hhandle hroutable hdirected hr henv
    have hcoherent := htrace.invariant hinvariant hcond
      fun _ _ _ _ h hone hstep => routesCoherent_step h hone hstep
    have hrouted := isSome_routeMessage (c := ⟨t.core, []⟩) hroutable hdirected hr
      (hcoherent.caches object _ hreceiver _ _ hdirected hr) henv
    change (t.receive env object m).isSome
    unfold Router.receive
    rw [hreceiver]
    dsimp only [Option.bind_some]
    rw [if_pos (.inl hhandle), Option.isSome_map]
    exact hrouted

def toClient : MessageContext where
  message := { MessageBuffer.zero with
    header := { MessageBuffer.zero.header with
      dstClientId := 5
      srcClientId := 6
      protocolId := Protocol.session } }
  connectionInfo := ⟨[3], 2⟩

def announcedRun : List RouterAction :=
  [.setClientManager 0 0 [41], .registerTransport ⟨0, false⟩, .registerTransport ⟨1, false⟩,
    .start, .receive calmRouterEnv 0 (fromClient SystemMessage.clientConnected), .takeQueue,
    .processMessage calmRouterEnv, .receive calmRouterEnv 1 toClient]

theorem routing_agrees_of_run_announced :
    (routerMachine.run newRouter announcedRun).isSome ∧
      ∀ x ∈ routerMachine.transitions newRouter announcedRun, RoutesByTable x := by
  have hrun : (routerMachine.run newRouter announcedRun).isSome = true := by decide +kernel
  have hcond : ∀ x ∈ routerMachine.transitions newRouter announcedRun,
      EntersUnremembered x.1 x.2.1 := by
    decide +kernel
  obtain ⟨t, ht⟩ := Option.isSome_iff_exists.mp hrun
  refine ⟨hrun, ?_⟩
  exact (routing_agrees_of_run isNewRouter_newRouter (.of_run ht) hcond).1

def movedRun : List RouterAction :=
  announcedRun ++
    [.receive calmRouterEnv 0 (fromClient SystemMessage.clientDisconnected.toCode),
      .receive calmRouterEnv 0
        { fromClient SystemMessage.clientConnected with connectionInfo := ⟨[8], 1⟩ },
      .takeQueue, .processMessage calmRouterEnv, .processMessage calmRouterEnv]

/-- The next message to client 5 is transmitted with the connection that it no longer has. -/
theorem routing_agrees_not : ¬ ∀ (s t : Router)
    (tr : List (Router × RouterAction × List RouterEvent)),
    routerMachine.init s → routerMachine.Trace s tr t → ∀ x ∈ tr, RoutesByTable x := by
  intro hall
  obtain ⟨s, hrun, hs⟩ := routerMachine.exists_of_run newRouter movedRun
    (fun s => (routerMachine.step s (.receive calmRouterEnv 1 toClient)).any fun y => (routeOf
      s.core 5).any fun r => decide (IsRoutable s.core toClient ∧
      (directed y.2).map (·.2.1) ≠ [r.1])) (by decide +kernel)
  obtain ⟨⟨t, events⟩, hstep, hs⟩ := (Option.any_eq_true _ _).mp hs
  obtain ⟨r, hr, hwrong⟩ := (Option.any_eq_true _ _).mp hs
  obtain ⟨hroutable, hwrong⟩ := of_decide_eq_true hwrong
  have hrouted := hall newRouter t _ isNewRouter_newRouter (.snoc (.of_run hrun) hstep)
    (s, .receive calmRouterEnv 1 toClient, events)
    (List.mem_append_right _ (List.mem_singleton_self _)) calmRouterEnv 1 toClient r rfl
    hroutable (by decide) hr
  apply hwrong
  rw [show directed events = _ from hrouted]
  rfl

end DevDriver.Analysis
