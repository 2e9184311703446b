import DevDriver.Analysis.RouterCalls

/-!
# Where a router finds its clients

The route of a client is its connection in the client table and the live transport of that
connection.
-/

namespace DevDriver.Analysis

open Library Model RouterCtx

/-! ## Routes -/

def transportOf (core : RouterCore) (handle : TransportHandle) : Option ListenerTransport :=
  (⟨core, []⟩ : RouterCtx).transportForTransportHandle handle

/-- Where the tables of the router place a client: its connection, and the transport of that
connection when it is live.
routerCore.cpp:592-618 -/
def routeOf (core : RouterCore) (clientId : ClientId) :
    Option (ConnectionInfo × ListenerTransport) :=
  (core.clientMap.lookup clientId).bind fun client =>
    (transportOf core client.connectionInfo.handle).map (client.connectionInfo, ·)

variable (c : RouterCtx) (handle : TransportHandle)
    (change : Table ClientId ConnectionInfo → Table ClientId ConnectionInfo) {core : RouterCore}
    {clientId : ClientId}

theorem routeOf_eq_some {r : ConnectionInfo × ListenerTransport} :
    routeOf core clientId = some r ↔ ∃ client, core.clientMap.lookup clientId = some client ∧
      client.connectionInfo = r.1 ∧ transportOf core r.1.handle = some r.2 := by
  constructor
  · intro h
    obtain ⟨client, hclient, h⟩ := Option.bind_eq_some_iff.mp h
    obtain ⟨pTransport, htransport, rfl⟩ := Option.map_eq_some_iff.mp h
    exact ⟨client, hclient, rfl, htransport⟩
  · intro ⟨client, hclient, hconnection, htransport⟩
    simp [routeOf, hclient, hconnection, htransport]

/-- What a call does to the tables when it enters no client: a client that is in the table has the
connection that it had, and a transport that is live was live. -/
structure RoutesShrink (core core' : RouterCore) : Prop where
  clients : ∀ clientId client', core'.clientMap.lookup clientId = some client' →
    ∃ client, core.clientMap.lookup clientId = some client ∧
      client'.connectionInfo = client.connectionInfo
  transports : ∀ handle pTransport, transportOf core' handle = some pTransport →
    transportOf core handle = some pTransport

theorem RoutesShrink.refl (core : RouterCore) : RoutesShrink core core :=
  ⟨fun _ client h => ⟨client, h, rfl⟩, fun _ _ h => h⟩

theorem RoutesShrink.trans {core₁ core₂ core₃ : RouterCore} (h : RoutesShrink core₁ core₂)
    (h' : RoutesShrink core₂ core₃) : RoutesShrink core₁ core₃ where
  clients clientId client' hclient' := by
    obtain ⟨client₂, hclient₂, hconnection'⟩ := h'.clients clientId client' hclient'
    obtain ⟨client, hclient, hconnection⟩ := h.clients clientId client₂ hclient₂
    exact ⟨client, hclient, hconnection'.trans hconnection⟩
  transports handle pTransport h'' := h.transports _ _ (h'.transports _ _ h'')

theorem RoutesShrink.of_eq {core' : RouterCore} (hclients : core'.clientMap = core.clientMap)
    (htransports : core'.transportMap = core.transportMap) : RoutesShrink core core' where
  clients clientId client' h := ⟨client', hclients ▸ h, rfl⟩
  transports handle pTransport h := by
    unfold transportOf transportForTransportHandle at h ⊢
    rwa [htransports] at h

theorem RoutesShrink.routeOf {core' : RouterCore} (h : RoutesShrink core core')
    {r : ConnectionInfo × ListenerTransport} (hr : routeOf core' clientId = some r) :
    routeOf core clientId = some r := by
  obtain ⟨client', hclient', hconnection', htransport⟩ := routeOf_eq_some.mp hr
  obtain ⟨client, hclient, hconnection⟩ := h.clients clientId client' hclient'
  apply routeOf_eq_some.mpr
  exact ⟨client, hclient, hconnection.symm.trans hconnection', h.transports _ _ htransport⟩

theorem routesShrink_setClient {c : RouterCtx} {client client' : ClientContext}
    (hclient : c.core.clientMap.lookup clientId = some client)
    (hconnection : client'.connectionInfo = client.connectionInfo) :
    RoutesShrink c.core (c.setClient clientId client').core where
  clients x y hy := by
    rcases eq_or_ne x clientId with rfl | hne
    · have hmem : x ∈ c.core.clientMap := AList.lookup_isSome.mp (by rw [hclient]; rfl)
      have hnew : (c.setClient x client').core.clientMap.lookup x = some client' :=
        lookup_replace hmem client'
      obtain rfl := Option.some.inj (hnew.symm.trans hy)
      exact ⟨client, hclient, hconnection⟩
    · have hold : (c.setClient clientId client').core.clientMap.lookup x =
          c.core.clientMap.lookup x := lookup_replace_ne hne client' _
      exact ⟨y, hold.symm.trans hy, rfl⟩
  transports _ _ h := h

theorem routesShrink_eraseClient (clientId : ClientId) :
    RoutesShrink c.core (c.eraseClient clientId).core where
  clients _ y hy := ⟨y, lookup_of_erase hy, rfl⟩
  transports _ _ h := h

theorem clientMap_setTransportClients :
    (c.setTransportClients handle change).core.clientMap = c.core.clientMap := by
  unfold setTransportClients
  split <;> rfl

theorem transportOf_setTransportClients (x : TransportHandle) :
    transportOf (c.setTransportClients handle change).core x = transportOf c.core x := by
  unfold setTransportClients
  split
  · rename_i context hcontext
    unfold transportOf transportForTransportHandle
    rcases eq_or_ne x handle with rfl | hne
    · have hmem : x ∈ c.core.transportMap := AList.lookup_isSome.mp (by rw [hcontext]; rfl)
      simp only [lookup_replace hmem, hcontext, Option.map_some]
    · simp only [lookup_replace_ne hne]
  · rfl

theorem routesShrink_setTransportClients :
    RoutesShrink c.core (c.setTransportClients handle change).core where
  clients x y hy := by
    rw [clientMap_setTransportClients] at hy
    exact ⟨y, hy, rfl⟩
  transports x pTransport h := by rwa [transportOf_setTransportClients] at h

structure RoutesGrow (entering : Option ClientId) (connectionInfo : ConnectionInfo)
    (core core' : RouterCore) : Prop where
  clients : ∀ clientId client', core'.clientMap.lookup clientId = some client' →
    (∃ client, core.clientMap.lookup clientId = some client ∧
      client'.connectionInfo = client.connectionInfo) ∨
    entering = some clientId ∧ client'.connectionInfo = connectionInfo ∧
      connectionInfo.handle ∈ core.transportMap
  transports : ∀ handle pTransport, transportOf core' handle = some pTransport →
    transportOf core handle = some pTransport

section RoutesGrow

variable {entering : Option ClientId} {connectionInfo : ConnectionInfo}
  {core₁ core₂ core₃ : RouterCore}

theorem RoutesShrink.grow (h : RoutesShrink core₁ core₂) :
    RoutesGrow entering connectionInfo core₁ core₂ :=
  ⟨fun clientId client' hclient' => .inl (h.clients clientId client' hclient'), h.transports⟩

theorem RoutesGrow.routeOf (h : RoutesGrow entering connectionInfo core₁ core₂)
    {clientId : ClientId} {r : ConnectionInfo × ListenerTransport}
    (hr : routeOf core₂ clientId = some r) :
    routeOf core₁ clientId = some r ∨
      entering = some clientId ∧ r.1 = connectionInfo ∧
        transportOf core₁ connectionInfo.handle = some r.2 := by
  obtain ⟨client', hclient', hconnection', htransport⟩ := routeOf_eq_some.mp hr
  have htransport := h.transports _ _ htransport
  rcases h.clients clientId client' hclient' with ⟨client, hclient, hconnection⟩ |
    ⟨hentering, hconnection, -⟩
  · apply Or.inl
    apply routeOf_eq_some.mpr
    exact ⟨client, hclient, hconnection.symm.trans hconnection', htransport⟩
  · apply Or.inr
    have hroute : r.1 = connectionInfo := hconnection'.symm.trans hconnection
    exact ⟨hentering, hroute, hroute ▸ htransport⟩

theorem RoutesGrow.trans (h : RoutesGrow entering connectionInfo core₁ core₂)
    (h' : RoutesGrow entering connectionInfo core₂ core₃)
    (hkeys : core₂.transportMap.keys = core₁.transportMap.keys) :
    RoutesGrow entering connectionInfo core₁ core₃ where
  clients clientId client' hclient' := by
    rcases h'.clients clientId client' hclient' with ⟨client₂, hclient₂, hconnection'⟩ |
      ⟨hentering, hconnection, hmem⟩
    · rw [hconnection']
      exact h.clients clientId client₂ hclient₂
    · rw [AList.mem_keys, hkeys] at hmem
      exact .inr ⟨hentering, hconnection, hmem⟩
  transports handle pTransport h'' := h.transports _ _ (h'.transports _ _ h'')

theorem RoutesGrow.shrink (h : RoutesGrow none connectionInfo core₁ core₂) :
    RoutesShrink core₁ core₂ where
  clients clientId client' hclient' := by
    rcases h.clients clientId client' hclient' with hold | ⟨hentering, -⟩
    · exact hold
    · cases hentering
  transports := h.transports

end RoutesGrow

theorem routesGrow_addClient {entering : Option ClientId} {connectionInfo : ConnectionInfo}
    {registeredClient : Bool} {c : RouterCtx}
    (hentering : clientId ∉ c.core.clientMap → entering = some clientId) :
    RoutesGrow entering connectionInfo c.core
      (c.addClient clientId connectionInfo registeredClient).core := by
  rw [RouterCtx.addClient]
  have hcore := core_assert c (clientId ≠ kBroadcastClientId) .addClient
  generalize c.assert (clientId ≠ kBroadcastClientId) .addClient = c₁ at hcore
  rw [← hcore] at hentering ⊢
  split
  · rename_i henabled
    refine ⟨fun x y hy => ?_, fun x pTransport h => ?_⟩
    · rw [clientMap_setTransportClients] at hy
      rcases lookup_emplace hy with hy | ⟨hnew, rfl, rfl⟩
      · exact .inl ⟨y, hy, rfl⟩
      · exact .inr ⟨hentering hnew, rfl, henabled.2⟩
    · rwa [transportOf_setTransportClients] at h
  · exact (RoutesShrink.refl _).grow

theorem keys_setTransportClients :
    (c.setTransportClients handle change).core.transportMap.keys = c.core.transportMap.keys := by
  unfold setTransportClients
  split
  · exact AList.keys_replace _ _ _
  · rfl

section Reworks

variable {unclaimed : Prop} {entering : Option ClientId} {connectionInfo : ConnectionInfo}
  {c c' : RouterCtx}

theorem Withdrawal.keys (h : Withdrawal c c') :
    c'.core.transportMap.keys = c.core.transportMap.keys := by
  induction h with
  | same _ htransports => rw [htransports]
  | removeClient _ _ ih => exact ih.trans (keys_setTransportClients _ _ _)
  | trans _ _ ih ih' => exact ih'.trans ih

theorem Withdrawal.shrink (h : Withdrawal c c') : RoutesShrink c.core c'.core := by
  induction h with
  | same hclients htransports => exact .of_eq hclients htransports
  | removeClient _ _ ih =>
    have hbefore := (routesShrink_setTransportClients _ _ _).trans ih
    exact hbefore.trans (routesShrink_eraseClient _ _)
  | trans _ _ ih ih' => exact ih.trans ih'

theorem Reworks.keys (h : Reworks unclaimed connectionInfo entering c c') :
    c'.core.transportMap.keys = c.core.transportMap.keys := by
  induction h with
  | withdraw h => exact h.keys
  | setClient _ _ => rfl
  | @addClient c clientId registeredClient _ _ =>
    rw [RouterCtx.addClient]
    split
    · rw [keys_setTransportClients, emplaceClient, core_assert]
    · rw [core_assert]
  | trans _ _ ih ih' => exact ih'.trans ih

theorem Reworks.grow (h : Reworks unclaimed connectionInfo entering c c') :
    RoutesGrow entering connectionInfo c.core c'.core := by
  induction h with
  | withdraw h => exact h.shrink.grow
  | setClient hclient hconnection => exact (routesShrink_setClient hclient hconnection).grow
  | addClient hentering _ => exact routesGrow_addClient hentering
  | trans h _ ih ih' => exact ih.trans ih' h.keys

theorem Reworks.shrink (h : Reworks unclaimed connectionInfo none c c') :
    RoutesShrink c.core c'.core := h.grow.shrink

theorem Withdraws.shrink (h : Withdraws c c') : RoutesShrink c.core c'.core :=
  h.withdrawal.shrink

end Reworks

theorem routesShrink_removeTransport {env : RouterEnv} {handle : TransportHandle}
    {c c' : RouterCtx} (h : c.removeTransport env handle = some c') :
    RoutesShrink c.core c'.core := by
  unfold removeTransport at h
  split at h
  · cases h
    exact .refl c.core
  · obtain ⟨c₁, hloop, rfl⟩ := Option.map_eq_some_iff.mp h
    have hclients := foldlM_related (R := Reworks True ⟨[], 0⟩ none) .refl .trans
      (fun _ _ _ hremove => reworks_removeClient hremove) hloop
    apply hclients.shrink.trans
    refine ⟨fun _ y hy => ⟨y, hy, rfl⟩, fun x pTransport hx => ?_⟩
    unfold transportOf transportForTransportHandle at hx ⊢
    split at hx
    · rename_i hne
      obtain ⟨context, hcontext, hx⟩ := Option.map_eq_some_iff.mp hx
      rw [if_pos hne, lookup_of_erase hcontext]
      exact congrArg some hx
    · cases hx

end DevDriver.Analysis
