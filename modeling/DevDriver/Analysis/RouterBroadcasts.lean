import DevDriver.Analysis.ClientTables

/-!
# The broadcasts of a router

A broadcast that a client cannot be reached by removes that client, which is announced by another
broadcast, and so on.  Each of them is sent to fewer clients, so that the last one returns.
-/

namespace DevDriver.Analysis

namespace RouterBroadcasts

open Library Model RouterCtx

/-! ## Clients that cannot be reached -/

/-- Every transmission over the connection fails, and its transport does not forward broadcasts. -/
structure AlwaysFails (env : RouterEnv) (core : RouterCore) (connectionInfo : ConnectionInfo) :
    Prop where
  fails : ∀ n pTransport message, env.transmit n pTransport connectionInfo message = .error
  handle : connectionInfo.handle ≠ 0
  direct : ∀ pTransport, transportOf core connectionInfo.handle = some pTransport →
    pTransport.forwardingConnection = false

/-- The client manager has registered the clients that a transmission may fail to. -/
def FailuresRegistered (env : RouterEnv) (core : RouterCore) : Prop :=
  ∀ clientId client, core.clientMap.lookup clientId = some client →
    client.registeredClient = true ∨ NeverFails env client.connectionInfo

/-- The clients that are not being removed. -/
def remaining (gone : List ClientId) (core : RouterCore) : List ClientId :=
  core.clientMap.keys.filter (· ∉ gone)

structure CanBroadcast (gone : List ClientId) (core : RouterCore) : Prop where
  tables : AgreeBut (· ∈ gone) core
  broadcast : kBroadcastClientId ∉ core.clientMap
  managed : core.pClientManager.isSome

/-- What a broadcast leaves of the clients: those that are being removed, as their removal goes on
behind it, and none that cannot be reached. -/
structure Cleans (env : RouterEnv) (gone : List ClientId) (srcClientId : ClientId)
    (core core' : RouterCore) : Prop where
  kept : ∀ clientId ∈ gone, clientId ∈ core.clientMap → clientId ∈ core'.clientMap
  removed : FailuresRegistered env core → ∀ clientId info, clientId ∉ gone →
    clientId ≠ srcClientId → recorded core clientId = some info → AlwaysFails env core info →
      clientId ∉ core'.clientMap

section Broadcast

variable {env : RouterEnv} {message : MessageBuffer} {pTransport : ListenerTransport}
  {pSourceTransport : Option ListenerTransport} {gone : List ClientId} {clientId : ClientId}
  {c : RouterCtx}

theorem transmitToClients_ne {clients : List (Σ _ : ClientId, ConnectionInfo)}
    (hids : ∀ e ∈ clients, e.1 ≠ kBroadcastClientId) (r : ClientId × RouterCtx)
    (h : r.1 ≠ kBroadcastClientId ∨ ∃ e ∈ clients, e.1 ≠ message.header.srcClientId ∧
      ∀ n, env.transmit n pTransport e.2 message = .error) :
    (transmitToClients env message pTransport clients r).1 ≠ kBroadcastClientId := by
  induction clients generalizing r with
  | nil =>
    rcases h with h | ⟨e, he, -⟩
    · exact h
    · cases he
  | cons e clients ih =>
    have hrest := fun e' he' => hids e' (List.mem_cons_of_mem e he')
    have he := hids e List.mem_cons_self
    rw [transmitToClients]
    split
    · apply ih hrest
      rcases h with h | ⟨e', he', hsrc, hfails⟩
      · left
        split
        · exact he
        · exact h
      rcases List.mem_cons.mp he' with rfl | he'
      · left
        rw [show (r.2.transmitMessage env pTransport e'.2 message).1 = .error from hfails _]
        exact he
      · exact .inr ⟨e', he', hsrc, hfails⟩
    · rename_i hsource
      apply ih hrest
      apply h.imp_right
      rintro ⟨e', he', hsrc, hfails⟩
      rcases List.mem_cons.mp he' with rfl | he'
      · exact absurd hsrc hsource
      · exact ⟨e', he', hsrc, hfails⟩

theorem transmitToTransports_ne {transports : List (Σ _ : TransportHandle, TransportContext)}
    (hids : ∀ t ∈ transports, ∀ e ∈ t.2.clientMap.entries, e.1 ≠ kBroadcastClientId)
    (r : ClientId × RouterCtx)
    (h : r.1 ≠ kBroadcastClientId ∨ ∃ t ∈ transports,
      t.2.pTransport.forwardingConnection = false ∧ ∃ e ∈ t.2.clientMap.entries,
        e.1 ≠ message.header.srcClientId ∧
        ∀ n, env.transmit n t.2.pTransport e.2 message = .error) :
    (transmitToTransports env message pSourceTransport transports r).1 ≠
      kBroadcastClientId := by
  induction transports generalizing r with
  | nil =>
    rcases h with h | ⟨t, ht, -⟩
    · exact h
    · cases ht
  | cons t transports ih =>
    have hthis := hids t List.mem_cons_self
    rw [transmitToTransports]
    apply ih fun t' ht' => hids t' (List.mem_cons_of_mem t ht')
    rcases h with h | ⟨t', ht', hdirect, hfails⟩
    · left
      split
      · exact h
      · exact transmitToClients_ne hthis r (.inl h)
    rcases List.mem_cons.mp ht' with rfl | ht'
    · left
      rw [if_neg (by rw [hdirect]; decide)]
      exact transmitToClients_ne hthis r (.inr hfails)
    · exact .inr ⟨t', ht', hdirect, hfails⟩

theorem CanBroadcast.removing (h : CanBroadcast gone c.core) {client : ClientContext}
    (hclient : c.core.clientMap.lookup clientId = some client) :
    CanBroadcast (clientId :: gone)
      (c.setTransportClients client.connectionInfo.handle (·.erase clientId)).core where
  tables := by
    have heq : (· ∈ clientId :: gone) = fun id => id ∈ gone ∨ id = clientId := by
      funext id
      rw [List.mem_cons, or_comm]
    rw [heq]
    exact h.tables.removing hclient
  broadcast := by
    rw [clientMap_setTransportClients]
    exact h.broadcast
  managed := by
    rw [(quiet_setTransportClients c _ _).managed]
    exact h.managed

/-- A removal returns if the broadcasts that announce it do. -/
theorem removeClientWith_cleans {send : MessageBuffer → RouterCtx → Option RouterCtx}
    {client : ClientContext} (hcan : CanBroadcast gone c.core) (hnew : clientId ∉ gone)
    (hclient : c.core.clientMap.lookup clientId = some client)
    (hsend : ∀ (m : MessageBuffer) (c₁ : RouterCtx), c₁.core.clientMap = c.core.clientMap →
      CanBroadcast (clientId :: gone) c₁.core → ∃ c₂, send m c₁ = some c₂ ∧
        Cleans env (clientId :: gone) m.header.srcClientId c₁.core c₂.core) :
    ∃ c', removeClientWith send clientId c = some c' ∧
      (∀ x ∈ gone, x ∈ c.core.clientMap → x ∈ c'.core.clientMap) ∧
      (client.registeredClient = true → FailuresRegistered env c.core → ∀ x info, x ∉ gone →
        recorded c.core x = some info → AlwaysFails env c.core info →
          x ∉ c'.core.clientMap) := by
  have hmem : clientId ∈ c.core.clientMap := AList.lookup_isSome.mp (by rw [hclient]; rfl)
  have hmap := clientMap_setTransportClients c client.connectionInfo.handle (·.erase clientId)
  have htransport := transportOf_setTransportClients c client.connectionInfo.handle
    (·.erase clientId)
  have hremoving := hcan.removing hclient
  unfold removeClientWith
  rw [hclient]
  dsimp only
  generalize c.setTransportClients client.connectionInfo.handle (·.erase clientId) = c₁
    at hmap htransport hremoving
  split
  · obtain ⟨manager, hmanager⟩ := Option.isSome_iff_exists.mp hremoving.managed
    rw [hmanager, Option.bind_some]
    obtain ⟨c₂, hsent, hcleans⟩ := hsend
      (systemBroadcast SystemMessage.clientDisconnected.toCode clientId)
      ({ c₁ with core := { c₁.core with
          pClientManager := some (manager.unregisterClient clientId) } }.emit
        (.unregisterClient clientId)) hmap
      ⟨hremoving.tables.of_lookups (fun _ => rfl) fun _ _ => rfl, hremoving.broadcast, rfl⟩
    have hstill : clientId ∈ c₂.core.clientMap :=
      hcleans.kept clientId List.mem_cons_self (hmap ▸ hmem)
    rw [hsent, Option.bind_some, if_pos hstill]
    refine ⟨_, rfl, fun x hx hold => ?_, fun _ hregistered x info hx hinfo hfails hafter => ?_⟩
    · have hkept := hcleans.kept x (List.mem_cons_of_mem clientId hx) (hmap ▸ hold)
      exact AList.mem_erase.mpr ⟨fun heq => hnew (heq ▸ hx), hkept⟩
    · obtain ⟨hne, hafter⟩ := AList.mem_erase.mp hafter
      refine hcleans.removed ?_ x info ?_ hne ?_ ?_ hafter
      · intro id client' hclient'
        exact hregistered id client' (hmap ▸ hclient')
      · exact fun hmem => (List.mem_cons.mp hmem).elim hne hx
      · unfold recorded
        rw [← hinfo]
        exact congrArg (fun clients => (AList.lookup x clients).map (·.connectionInfo)) hmap
      · refine ⟨hfails.fails, hfails.handle, fun pTransport hlive => hfails.direct pTransport ?_⟩
        rw [← htransport]
        exact hlive
  · rename_i hunregistered
    rw [Option.bind_some, if_pos (hmap ▸ hmem)]
    refine ⟨_, rfl, fun x hx hold => ?_, fun hregistered => absurd hregistered hunregistered⟩
    exact AList.mem_erase.mpr ⟨fun heq => hnew (heq ▸ hx), hmap ▸ hold⟩

/-- A broadcast returns on a stack that is deeper than the clients are many. -/
theorem sendBroadcastMessage_cleans {depth : ℕ} (hcan : CanBroadcast gone c.core)
    (hdepth : (remaining gone c.core).length < depth) :
    ∃ c', sendBroadcastMessage env depth pSourceTransport message c = some c' ∧
      Cleans env gone message.header.srcClientId c.core c'.core := by
  induction depth generalizing pSourceTransport message c gone with
  | zero => exact absurd hdepth (Nat.not_lt_zero _)
  | succ depth ih =>
    have hbound : ∀ t ∈ c.core.transportMap.entries, ∀ e ∈ t.2.clientMap.entries,
        boundIn c.core t.1 e.1 = some e.2 := by
      intro t ht e he
      rw [boundIn, AList.mem_lookup_iff.mpr ht]
      exact AList.mem_lookup_iff.mpr he
    -- a client that a transport has is not being removed
    have hold : ∀ t ∈ c.core.transportMap.entries, ∀ e ∈ t.2.clientMap.entries,
        e.1 ∉ gone ∧ recorded c.core e.1 = some e.2 := by
      intro t ht e he
      have hgone : e.1 ∉ gone := by
        intro hmem
        have hnone := hcan.tables.unbound e.1 hmem t.1
        rw [hbound t ht e he] at hnone
        cases hnone
      exact ⟨hgone, ((hcan.tables.bound e.1 hgone _ _).mp (hbound t ht e he)).1⟩
    have hids : ∀ t ∈ c.core.transportMap.entries, ∀ e ∈ t.2.clientMap.entries,
        e.1 ≠ kBroadcastClientId := by
      intro t ht e he heq
      have hrecorded := (hold t ht e he).2
      rw [heq, recorded_eq_none.mpr hcan.broadcast] at hrecorded
      cases hrecorded
    rw [sendBroadcastMessage]
    have hcore := @core_transmitToTransports env message pSourceTransport
      c.core.transportMap.entries (kBroadcastClientId, c)
    have hfst := @transmitToTransports_fst env message pSourceTransport
      c.core.transportMap.entries (kBroadcastClientId, c)
    have hne := @transmitToTransports_ne env message pSourceTransport
      c.core.transportMap.entries hids (kBroadcastClientId, c)
    generalize transmitToTransports env message pSourceTransport
      c.core.transportMap.entries (kBroadcastClientId, c) = sent at hcore hfst hne
    split
    · rename_i hfailed
      rcases hfst with heq | ⟨t, ht, e, he, heq, n, herror⟩
      · exact absurd heq hfailed
      obtain ⟨hgone, hrecorded⟩ := hold t ht e he
      obtain ⟨client, hclient, hconnection⟩ := Option.map_eq_some_iff.mp hrecorded
      have hshorter : ∀ c₁ : RouterCtx, c₁.core.clientMap = sent.2.core.clientMap →
          (remaining (sent.1 :: gone) c₁.core).length < depth := by
        intro c₁ hmap
        apply Nat.lt_of_lt_of_le _ (Nat.le_of_lt_succ hdepth)
        have hfilter : remaining (sent.1 :: gone) c₁.core =
            (remaining gone c.core).filter (· ≠ e.1) := by
          rw [remaining, hmap, hcore, heq, remaining, List.filter_filter]
          apply List.filter_congr
          intro id _
          simp
        rw [hfilter, List.length_filter_lt_length_iff_exists]
        refine ⟨e.1, List.mem_filter.mpr ⟨?_, by simpa using hgone⟩, by simp⟩
        exact AList.mem_keys.mp (AList.lookup_isSome.mp (by rw [hclient]; rfl))
      rw [← hcore] at hcan hclient
      rw [← heq] at hclient hgone
      obtain ⟨c', hremove, hkept, hremoved⟩ := removeClientWith_cleans hcan hgone
        hclient fun m c₁ hmap hcan₁ => ih hcan₁ (hshorter c₁ hmap)
      rw [hcore] at hkept hremoved hclient
      refine ⟨c', hremove, hkept, fun hregistered id info hid _ => ?_⟩
      apply hremoved _ hregistered id info hid
      apply (hregistered _ client hclient).resolve_right
      rw [hconnection]
      exact fun hnever => hnever n _ _ herror
    · rename_i hcalm
      refine ⟨sent.2, rfl, fun id _ hmem => hcore ▸ hmem, ?_⟩
      intro _ id info hgone hsrc hrecorded hfails
      have hthere := (hcan.tables.bound id hgone info.handle info).mpr ⟨hrecorded, rfl⟩
      obtain ⟨context, hcontext, hentry⟩ := Option.bind_eq_some_iff.mp hthere
      have hdirect := hfails.direct context.pTransport (by
        rw [transportOf, transportForTransportHandle, if_pos hfails.handle]
        exact congrArg (Option.map (·.pTransport)) hcontext)
      exact absurd (not_not.mp hcalm) (hne (.inr ⟨⟨info.handle, context⟩,
        AList.mem_lookup_iff.mp hcontext, hdirect, ⟨id, info⟩, AList.mem_lookup_iff.mp hentry,
        hsrc, fun n => hfails.fails n _ _⟩))

end Broadcast

/-! ## A round over the clients -/

/-- The clients that stay are as they were, but for the pings that are counted. -/
structure Thins (core core' : RouterCore) : Prop extends RoutesShrink core core' where
  registered : ∀ clientId client client', core.clientMap.lookup clientId = some client →
    core'.clientMap.lookup clientId = some client' →
      client'.registeredClient = client.registeredClient

theorem Thins.refl (core : RouterCore) : Thins core core where
  toRoutesShrink := .refl core
  registered _ _ _ h h' := by rw [Option.some.inj (h'.symm.trans h)]

theorem Thins.trans {core₁ core₂ core₃ : RouterCore} (h : Thins core₁ core₂)
    (h' : Thins core₂ core₃) : Thins core₁ core₃ where
  toRoutesShrink := h.toRoutesShrink.trans h'.toRoutesShrink
  registered clientId client₁ client₃ h₁ h₃ := by
    obtain ⟨client₂, h₂, -⟩ := h'.clients clientId client₃ h₃
    exact (h'.registered clientId client₂ client₃ h₂ h₃).trans
      (h.registered clientId client₁ client₂ h₁ h₂)

/-- A client that a withdrawal leaves has the record that it had. -/
theorem lookup_of_withdrawal {c c' : RouterCtx} (h : Withdrawal c c') {clientId : ClientId}
    {client : ClientContext} (hclient : c'.core.clientMap.lookup clientId = some client) :
    c.core.clientMap.lookup clientId = some client := by
  induction h with
  | same hclients _ => rwa [hclients] at hclient
  | removeClient _ _ ih =>
    rw [← clientMap_setTransportClients]
    exact ih (lookup_of_erase hclient)
  | trans _ _ ih ih' => exact ih (ih' hclient)

section Round

variable {env : RouterEnv} {core core' : RouterCore} {c c' : RouterCtx} {clientId : ClientId}

theorem Withdrawal.thins (h : Withdrawal c c') : Thins c.core c'.core where
  toRoutesShrink := h.shrink
  registered _ _ _ hclient hclient' := by
    rw [Option.some.inj ((lookup_of_withdrawal h hclient').symm.trans hclient)]

theorem recorded_countPing {client : ClientContext}
    (hclient : c.core.clientMap.lookup clientId = some client) (x : ClientId) :
    recorded (c.setClient clientId (countPing client)).core x = recorded c.core x := by
  apply recorded_setClient hclient
  unfold countPing
  split <;> rfl

theorem thins_setClient {client : ClientContext}
    (hclient : c.core.clientMap.lookup clientId = some client) :
    Thins c.core (c.setClient clientId (countPing client)).core where
  toRoutesShrink := routesShrink_setClient hclient (by unfold countPing; split <;> rfl)
  registered x client₁ client₂ h₁ h₂ := by
    rcases eq_or_ne x clientId with rfl | hne
    · have hnew : (c.setClient x (countPing client)).core.clientMap.lookup x =
          some (countPing client) :=
        lookup_replace (AList.lookup_isSome.mp (by rw [hclient]; rfl)) _
      obtain rfl := Option.some.inj (hnew.symm.trans h₂)
      obtain rfl := Option.some.inj (hclient.symm.trans h₁)
      unfold countPing
      split <;> rfl
    · have hold : (c.setClient clientId (countPing client)).core.clientMap.lookup x =
          c.core.clientMap.lookup x := lookup_replace_ne hne _ _
      rw [Option.some.inj ((hold.symm.trans h₂).symm.trans h₁)]

theorem Thins.length_le (h : Thins core core') :
    core'.clientMap.keys.length ≤ core.clientMap.keys.length := by
  apply (core'.clientMap.keys_nodup.subperm fun id hid => ?_).length_le
  obtain ⟨client', hclient'⟩ := Option.isSome_iff_exists.mp (AList.lookup_isSome.mpr hid)
  obtain ⟨client, hclient, -⟩ := h.clients id client' hclient'
  exact AList.lookup_isSome.mp (by rw [hclient]; rfl)

theorem Thins.failuresRegistered (h : Thins core core')
    (hregistered : FailuresRegistered env core) :
    FailuresRegistered env core' := by
  intro id client' hclient'
  obtain ⟨client, hclient, hconnection⟩ := h.clients id client' hclient'
  rw [h.registered id client client' hclient hclient', hconnection]
  exact hregistered id client hclient

theorem Thins.alwaysFails (h : Thins core core') {info : ConnectionInfo}
    (hfails : AlwaysFails env core info) : AlwaysFails env core' info :=
  ⟨hfails.fails, hfails.handle, fun pTransport hlive =>
    hfails.direct pTransport (h.transports _ pTransport hlive)⟩

theorem canBroadcast_nil : CanBroadcast [] core ↔
    TablesAgree core ∧ kBroadcastClientId ∉ core.clientMap ∧ core.pClientManager.isSome := by
  have heq : (· ∈ ([] : List ClientId)) = fun _ => False := by
    funext id
    exact eq_false List.not_mem_nil
  constructor
  · intro h
    exact ⟨agreeBut_none.mp (heq ▸ h.tables), h.broadcast, h.managed⟩
  · rintro ⟨htables, hbroadcast, hmanaged⟩
    exact ⟨heq ▸ agreeBut_none.mpr htables, hbroadcast, hmanaged⟩

theorem remaining_le (gone : List ClientId) (core : RouterCore) :
    (remaining gone core).length ≤ core.clientMap.keys.length := List.length_filter_le _ _

/-- What a round keeps: the router can broadcast, and the clients thin out. -/
structure Rounds (core core' : RouterCore) : Prop where
  can : CanBroadcast [] core'
  thins : Thins core core'
  clientId : core'.clientId = core.clientId

theorem Rounds.trans {core₁ core₂ core₃ : RouterCore} (h : Rounds core₁ core₂)
    (h' : Rounds core₂ core₃) : Rounds core₁ core₃ :=
  ⟨h'.can, h.thins.trans h'.thins, h'.clientId.trans h.clientId⟩

theorem Withdraws.rounds (h : Withdraws c c') (hquiet : RouterQuiet c c')
    (hcan : CanBroadcast [] c.core) : Rounds c.core c'.core := by
  obtain ⟨htables, hbroadcast, hmanaged⟩ := canBroadcast_nil.mp hcan
  refine ⟨canBroadcast_nil.mpr ⟨h.withdrawal.tablesAgree htables,
    h.withdrawal.shrink.notMem hbroadcast, ?_⟩, Withdrawal.thins h.withdrawal, hquiet.clientId⟩
  rw [hquiet.managed]
  exact hmanaged

theorem removeClient_returns (hcan : CanBroadcast [] c.core)
    (hdepth : c.core.clientMap.keys.length < env.depth) :
    ∃ c', c.removeClient env clientId = some c' ∧ Rounds c.core c'.core := by
  have hreturns : ∃ c', c.removeClient env clientId = some c' := by
    cases hclient : c.core.clientMap.lookup clientId with
    | none =>
      refine ⟨c, ?_⟩
      rw [removeClient, removeClientWith, hclient]
    | some client =>
      obtain ⟨c', hremove, -⟩ := removeClientWith_cleans hcan List.not_mem_nil
        hclient fun m c₁ hmap hcan₁ => sendBroadcastMessage_cleans hcan₁ (by
          apply (remaining_le _ _).trans_lt
          rw [hmap]
          exact hdepth)
      exact ⟨c', hremove⟩
  obtain ⟨c', hremove⟩ := hreturns
  exact ⟨c', hremove, Withdraws.rounds (withdraws_removeClient hremove)
    (quiet_removeClient hremove) hcan⟩

theorem updateClient_returns (hcan : CanBroadcast [] c.core)
    (hdepth : c.core.clientMap.keys.length < env.depth) :
    ∃ c', RouterCtx.updateClient env clientId c = some c' ∧ Rounds c.core c'.core := by
  unfold RouterCtx.updateClient
  split
  · exact ⟨c, rfl, hcan, .refl _, rfl⟩
  · rename_i client hclient
    have hthins := thins_setClient hclient
    have hcounted : Rounds c.core (c.setClient clientId (countPing client)).core := by
      refine ⟨⟨?_, hthins.toRoutesShrink.notMem hcan.broadcast, hcan.managed⟩, hthins, rfl⟩
      exact hcan.tables.of_lookups (recorded_countPing hclient) fun _ _ => rfl
    dsimp only
    split
    · obtain ⟨c', hremove, hrounds⟩ := @removeClient_returns env _ clientId hcounted.can
        (hthins.length_le.trans_lt hdepth)
      exact ⟨c', hremove, hcounted.trans hrounds⟩
    · exact ⟨_, rfl, hcounted⟩

theorem updateClients_loop (clients : List ClientId) (hcan : CanBroadcast [] c.core)
    (hdepth : c.core.clientMap.keys.length < env.depth) :
    ∃ c', clients.foldlM (fun c clientId => RouterCtx.updateClient env clientId c) c = some c' ∧
      Rounds c.core c'.core := by
  induction clients generalizing c with
  | nil => exact ⟨c, rfl, hcan, .refl _, rfl⟩
  | cons clientId clients ih =>
    obtain ⟨c₁, hfirst, hrounds₁⟩ := @updateClient_returns env _ clientId hcan hdepth
    obtain ⟨c₂, hrest, hrounds₂⟩ := ih hrounds₁.can (hrounds₁.thins.length_le.trans_lt hdepth)
    refine ⟨c₂, ?_, hrounds₁.trans hrounds₂⟩
    rw [List.foldlM_cons, hfirst]
    exact hrest

/-- The client has answered the last ping, if the round has still to come to it. -/
structure Answers (core : RouterCore) (clients : List ClientId) (clientId : ClientId)
    (info : ConnectionInfo) : Prop where
  known : recorded core clientId = some info
  answered : clientId ∈ clients → ∃ client, core.clientMap.lookup clientId = some client ∧
    client.receivedPong = true

theorem Answers.updateClient {info : ConnectionInfo} {x : ClientId} {clients : List ClientId}
    (h : Answers c.core (x :: clients) clientId info) (hnodup : (x :: clients).Nodup)
    (hcan : CanBroadcast [] c.core) (hnever : NeverFails env info)
    (hupdate : RouterCtx.updateClient env x c = some c') :
    Answers c'.core clients clientId info := by
  obtain ⟨hnot, -⟩ := List.nodup_cons.mp hnodup
  unfold RouterCtx.updateClient at hupdate
  split at hupdate
  · cases hupdate
    exact ⟨h.known, fun hmem => h.answered (List.mem_cons_of_mem x hmem)⟩
  rename_i client hclient
  have hrecorded := (recorded_countPing hclient clientId).trans h.known
  dsimp only at hupdate
  rcases eq_or_ne clientId x with rfl | hne
  · obtain ⟨client', hclient', hpong⟩ := h.answered List.mem_cons_self
    obtain rfl := Option.some.inj (hclient.symm.trans hclient')
    -- no ping is missing, so that the client has not timed out
    have hcount : (countPing client).pingRetryCount = 0 := by
      rw [countPing, if_pos hpong]
    rw [hcount, if_neg (by exact UInt32.not_lt.mpr UInt32.zero_le)] at hupdate
    cases hupdate
    exact ⟨hrecorded, fun hmem => absurd hmem hnot⟩
  · have hold : (c.setClient x (countPing client)).core.clientMap.lookup clientId =
        c.core.clientMap.lookup clientId := lookup_replace_ne hne _ _
    split at hupdate
    · have hagree := hcan.tables.of_lookups (recorded_countPing hclient) fun _ _ => rfl
      have hstays := recorded_removeClientWith (fun _ _ _ _ _ hsend hagree hnew hrecorded =>
        recorded_sendBroadcastMessage hnever hsend hagree hnew hrecorded) hupdate hagree
        List.not_mem_nil hne hrecorded
      refine ⟨hstays, fun hmem => ?_⟩
      obtain ⟨client₁, hclient₁, hpong⟩ := h.answered (List.mem_cons_of_mem x hmem)
      obtain ⟨client₂, hclient₂, -⟩ := Option.map_eq_some_iff.mp hstays
      have hsame := lookup_of_withdrawal (withdraws_removeClient hupdate).withdrawal hclient₂
      rw [hold, hclient₁] at hsame
      cases hsame
      exact ⟨client₁, hclient₂, hpong⟩
    · cases hupdate
      refine ⟨hrecorded, fun hmem => ?_⟩
      rw [hold]
      exact h.answered (List.mem_cons_of_mem x hmem)

theorem Answers.loop {info : ConnectionInfo} {clients : List ClientId}
    (h : Answers c.core clients clientId info) (hnodup : clients.Nodup)
    (hcan : CanBroadcast [] c.core) (hdepth : c.core.clientMap.keys.length < env.depth)
    (hnever : NeverFails env info)
    (hloop : clients.foldlM (fun c clientId => RouterCtx.updateClient env clientId c) c = some c') :
    recorded c'.core clientId = some info := by
  induction clients generalizing c with
  | nil =>
    obtain rfl := Option.some.inj hloop
    exact h.known
  | cons x clients ih =>
    obtain ⟨c₁, hfirst, hrounds⟩ := @updateClient_returns env _ x hcan hdepth
    rw [List.foldlM_cons, hfirst] at hloop
    exact ih (h.updateClient hnodup hcan hnever hfirst) (List.nodup_cons.mp hnodup).2 hrounds.can
      (hrounds.thins.length_le.trans_lt hdepth) hloop

/-- What a round leaves of the clients. -/
structure RoundCleans (env : RouterEnv) (core core' : RouterCore) : Prop where
  rounds : Rounds core core'
  stays : ∀ clientId client, core.clientMap.lookup clientId = some client →
    client.receivedPong = true → NeverFails env client.connectionInfo →
      recorded core' clientId = some client.connectionInfo
  removed : FailuresRegistered env core → ∀ clientId info, clientId ≠ core.clientId →
    recorded core clientId = some info → AlwaysFails env core info → clientId ∉ core'.clientMap

theorem updateClients_cleans {currentTimeInMs : ℕ} (hcan : CanBroadcast [] c.core)
    (hdepth : c.core.clientMap.keys.length < env.depth)
    (htime : c.core.lastClientPingTimeInMs ≤ sub64 currentTimeInMs kClientDiscoveryIntervalInMs) :
    ∃ c', updateClients env currentTimeInMs c = some c' ∧
      RoundCleans env c.core c'.core := by
  obtain ⟨c₁, hloop, hrounds⟩ := updateClients_loop c.core.clientMap.keys hcan hdepth
  let pinging : RouterCtx :=
    { c₁ with core := { c₁.core with lastClientPingTimeInMs := currentTimeInMs } }
  have hpinging : CanBroadcast [] pinging.core := by
    refine ⟨?_, hrounds.can.broadcast, hrounds.can.managed⟩
    exact hrounds.can.tables.of_lookups (fun _ => rfl) fun _ _ => rfl
  obtain ⟨c₂, hping, hcleans⟩ := @sendBroadcastMessage_cleans env
    (systemBroadcast SystemMessage.ping.toCode c₁.core.clientId) none [] pinging
    env.depth hpinging ((remaining_le _ _).trans_lt (hrounds.thins.length_le.trans_lt hdepth))
  have hthins : Thins c₁.core pinging.core := Withdrawal.thins (.same rfl rfl)
  have hpinged := Withdraws.rounds (withdraws_sendBroadcastMessage rfl hping)
    (quiet_sendBroadcastMessage hping) hpinging
  refine ⟨c₂, ?_, hrounds.trans ⟨hpinged.can, hthins.trans hpinged.thins, hpinged.clientId⟩,
    fun id client hclient hpong hnever => ?_, fun hregistered id info hsrc hinfo hfails => ?_⟩
  · rw [updateClients, if_pos htime, hloop]
    exact hping
  · have hanswers : Answers c.core c.core.clientMap.keys id client.connectionInfo :=
      ⟨by rw [recorded, hclient]; rfl, fun _ => ⟨client, hclient, hpong⟩⟩
    have hstays := hanswers.loop c.core.clientMap.keys_nodup hcan hdepth hnever hloop
    exact recorded_sendBroadcastMessage hnever hping hpinging.tables List.not_mem_nil hstays
  · by_cases hmem : id ∈ c₁.core.clientMap
    · have hstill := hrounds.thins
      obtain ⟨client', hclient'⟩ := Option.isSome_iff_exists.mp (AList.lookup_isSome.mpr hmem)
      obtain ⟨client, hclient, hconnection⟩ := hstill.clients id client' hclient'
      have hrecorded : recorded c₁.core id = some info := by
        rw [← hinfo, recorded, recorded, hclient', hclient, Option.map_some, hconnection]
        rfl
      apply hcleans.removed (hstill.failuresRegistered hregistered) id info List.not_mem_nil _
        hrecorded (hthins.alwaysFails (hstill.alwaysFails hfails))
      rw [← hrounds.clientId] at hsrc
      exact hsrc
    · exact hpinged.thins.toRoutesShrink.notMem hmem

end Round

/-! ## Runs -/

theorem Reworks.broadcast {unclaimed : Prop} {connectionInfo : ConnectionInfo}
    {entering : Option ClientId} {c c' : RouterCtx}
    (h : Reworks unclaimed connectionInfo entering c c')
    (hnot : kBroadcastClientId ∉ c.core.clientMap) : kBroadcastClientId ∉ c'.core.clientMap := by
  induction h with
  | withdraw h => exact h.shrink.notMem hnot
  | setClient hclient hconnection =>
    exact (routesShrink_setClient hclient hconnection).notMem hnot
  | @addClient c clientId registeredClient _ _ =>
    rw [addClient]
    split
    · rename_i henabled
      rw [clientMap_setTransportClients]
      intro hmem
      obtain ⟨client, hclient⟩ := Option.isSome_iff_exists.mp (AList.lookup_isSome.mpr hmem)
      rcases lookup_emplace hclient with hold | ⟨-, heq, -⟩
      · rw [core_assert] at hold
        exact hnot (AList.lookup_isSome.mp (by rw [hold]; rfl))
      · exact henabled.1 heq.symm
    · rwa [core_assert]
  | trans _ _ ih ih' => exact ih' (ih hnot)

structure TablesReady (core : RouterCore) : Prop where
  tables : TablesConsistent core
  broadcast : kBroadcastClientId ∉ core.clientMap

theorem tablesReady_step {s t : Router} {a : RouterAction} {events : List RouterEvent}
    (h : TablesReady s.core) (hcond : RegistersUnclaimed s a)
    (hstep : routerMachine.step s a = some (t, events)) : TablesReady t.core where
  tables := tablesConsistent_step h.tables hcond hstep
  broadcast := by
    cases stepsTables_step hstep with
    | same _ _ hrecorded _ =>
      rw [← recorded_eq_none, hrecorded]
      exact recorded_eq_none.mpr h.broadcast
    | rework hreworks _ _ _ hcore =>
      rw [hcore]
      exact Reworks.broadcast hreworks h.broadcast
    | registerTransport _ hcore =>
      rw [hcore]
      exact h.broadcast
    | removeTransport hremove hcore =>
      rw [hcore]
      exact (routesShrink_removeTransport hremove).notMem h.broadcast

theorem canBroadcast_of_run {s t : Router} {tr : List (Router × RouterAction × List RouterEvent)}
    (hinit : routerMachine.init s) (htrace : routerMachine.Trace s tr t)
    (hcond : ∀ x ∈ tr, RegistersUnclaimed x.1 x.2.1) (hmanager : t.core.pClientManager.isSome) :
    CanBroadcast [] t.core := by
  have hinvariant : TablesReady s.core := by
    refine ⟨tablesConsistent_init hinit, ?_⟩
    rw [show s.core.clientMap = ∅ from hinit.clientMap]
    exact AList.notMem_empty _
  have hconsistent := htrace.invariant (P := fun s => TablesReady s.core) hinvariant hcond
    fun _ _ _ _ h hone hstep => tablesReady_step h hone hstep
  exact canBroadcast_nil.mpr ⟨hconsistent.tables.tables, hconsistent.broadcast, hmanager⟩

/-- In every run that gives no client a second connection, a broadcast returns, the tables agree,
the clients that can be reached stay, and if all others have been registered, the ones that cannot
be reached are removed. -/
theorem broadcast_cleans_of_run {s t : Router}
    {tr : List (Router × RouterAction × List RouterEvent)}
    (hinit : routerMachine.init s) (htrace : routerMachine.Trace s tr t)
    (hcond : ∀ x ∈ tr, RegistersUnclaimed x.1 x.2.1) (hmanager : t.core.pClientManager.isSome)
    {env : RouterEnv} {depth : ℕ} (hdepth : t.core.clientMap.keys.length < depth)
    {pSourceTransport : Option ListenerTransport} {message : MessageBuffer}
    (hmessage : message.header.dstClientId = kBroadcastClientId) (events : List RouterEvent) :
    ∃ c', sendBroadcastMessage env depth pSourceTransport message ⟨t.core, events⟩ =
        some c' ∧ TablesAgree c'.core ∧
      (∀ clientId info, recorded t.core clientId = some info → NeverFails env info →
        recorded c'.core clientId = some info) ∧
      (FailuresRegistered env t.core → ∀ clientId info,
        clientId ≠ message.header.srcClientId → recorded t.core clientId = some info →
          AlwaysFails env t.core info → clientId ∉ c'.core.clientMap) := by
  have hcan := canBroadcast_of_run hinit htrace hcond hmanager
  obtain ⟨c', hsend, hcleans⟩ := @sendBroadcastMessage_cleans env message pSourceTransport []
    ⟨t.core, events⟩ depth hcan ((remaining_le _ _).trans_lt hdepth)
  have hwithdraws := withdraws_sendBroadcastMessage hmessage hsend
  refine ⟨c', hsend, hwithdraws.withdrawal.tablesAgree (canBroadcast_nil.mp hcan).1, ?_, ?_⟩
  · intro clientId info hrecorded hnever
    exact recorded_sendBroadcastMessage hnever hsend hcan.tables List.not_mem_nil hrecorded
  · intro hregistered clientId info
    exact hcleans.removed hregistered clientId info List.not_mem_nil

/-- In every run that gives no client a second connection, the round over the clients returns when
it is time for it, the clients that answered and can be reached stay, and if those that may not be
reached have been registered, none that cannot be reached is left. -/
theorem round_cleans_of_run {s t : Router}
    {tr : List (Router × RouterAction × List RouterEvent)}
    (hinit : routerMachine.init s) (htrace : routerMachine.Trace s tr t)
    (hcond : ∀ x ∈ tr, RegistersUnclaimed x.1 x.2.1) (hmanager : t.core.pClientManager.isSome)
    {env : RouterEnv} (hdepth : t.core.clientMap.keys.length < env.depth) {currentTimeInMs : ℕ}
    (htime : t.core.lastClientPingTimeInMs ≤
      sub64 currentTimeInMs kClientDiscoveryIntervalInMs) :
    ∃ c', updateClients env currentTimeInMs ⟨t.core, []⟩ = some c' ∧
      TablesAgree c'.core ∧ RoundCleans env t.core c'.core := by
  obtain ⟨c', hupdate, hcleans⟩ := @updateClients_cleans env ⟨t.core, []⟩ currentTimeInMs
    (canBroadcast_of_run hinit htrace hcond hmanager) hdepth htime
  exact ⟨c', hupdate, (canBroadcast_nil.mp hcleans.rounds.can).1, hcleans⟩

def brokenRouterEnv : RouterEnv := { calmRouterEnv with transmit _ _ _ _ := .error }

/-- A second client connects over the transport of the first one. -/
def twoConnectedRun : List RouterAction :=
  connectedRun ++ [.receive calmRouterEnv 1 { connecting with connectionInfo := ⟨[9], 2⟩ },
    .takeQueue, .processMessage { calmRouterEnv with draws := [5] }]

def brokenRouter : Router := (routerMachine.run newRouter twoConnectedRun).getD newRouter

theorem brokenRouter_run : routerMachine.run newRouter twoConnectedRun = some brokenRouter := by
  have hrun : (routerMachine.run newRouter twoConnectedRun).isSome = true := by decide +kernel
  obtain ⟨t, ht⟩ := Option.isSome_iff_exists.mp hrun
  rw [brokenRouter, ht]
  rfl

theorem brokenRouter_unclaimed :
    ∀ x ∈ routerMachine.transitions newRouter twoConnectedRun, RegistersUnclaimed x.1 x.2.1 := by
  have hcond : ∀ x ∈ routerMachine.transitions newRouter twoConnectedRun,
      RegistersUnclaimed x.1 x.2.1 := by
    decide +kernel
  exact hcond

theorem brokenRouter_clients : brokenRouter.core.pClientManager.isSome ∧
    brokenRouter.core.clientMap.keys.length < 4 ∧
    (recorded brokenRouter.core 5 = some ⟨[8], 2⟩ ∧ recorded brokenRouter.core 6 = some ⟨[9], 2⟩) ∧
    transportOf brokenRouter.core 2 = some ⟨1, false⟩ ∧
    (∀ e ∈ brokenRouter.core.clientMap.entries, e.2.registeredClient = true) ∧
    brokenRouter.core.lastClientPingTimeInMs = 0 ∧
    5 ≠ brokenRouter.core.clientId ∧ 6 ≠ brokenRouter.core.clientId := by
  decide +kernel

theorem failuresRegistered_broken : FailuresRegistered brokenRouterEnv brokenRouter.core :=
  fun _ _ hclient => .inl (brokenRouter_clients.2.2.2.2.1 _ (AList.mem_lookup_iff.mp hclient))

theorem alwaysFails_broken (address : List UInt8) :
    AlwaysFails brokenRouterEnv brokenRouter.core ⟨address, 2⟩ where
  fails _ _ _ := rfl
  handle := (by decide : (2 : TransportHandle) ≠ 0)
  direct pTransport hlive := by
    rw [brokenRouter_clients.2.2.2.1] at hlive
    cases hlive
    rfl

/-- The two clients of a router cannot be reached any more: the removal of the one that the ping
fails to sends a message that fails to the other. -/
theorem broadcast_cleans_of_run_broken :
    ∃ c', sendBroadcastMessage brokenRouterEnv 4 none
        (systemBroadcast SystemMessage.ping.toCode 0) ⟨brokenRouter.core, []⟩ =
        some c' ∧ TablesAgree c'.core ∧ 5 ∉ c'.core.clientMap ∧ 6 ∉ c'.core.clientMap := by
  obtain ⟨hmanager, hdepth, ⟨hfirst, hsecond⟩, -⟩ := brokenRouter_clients
  obtain ⟨c', hsend, htables, -, hremoved⟩ := @broadcast_cleans_of_run _ _ _
    isNewRouter_newRouter (.of_run brokenRouter_run) brokenRouter_unclaimed hmanager
    brokenRouterEnv 4 hdepth none (systemBroadcast SystemMessage.ping.toCode 0) rfl []
  have hgone := hremoved failuresRegistered_broken
  exact ⟨c', hsend, htables, hgone 5 _ (by decide) hfirst (alwaysFails_broken _),
    hgone 6 _ (by decide) hsecond (alwaysFails_broken _)⟩

theorem round_cleans_of_run_broken :
    ∃ c', updateClients brokenRouterEnv 4000 ⟨brokenRouter.core, []⟩ = some c' ∧
      TablesAgree c'.core ∧ 5 ∉ c'.core.clientMap ∧ 6 ∉ c'.core.clientMap := by
  obtain ⟨hmanager, hdepth, ⟨hfirst, hsecond⟩, -, -, htime, hne, hne'⟩ := brokenRouter_clients
  obtain ⟨c', hupdate, htables, hcleans⟩ := @round_cleans_of_run _ _ _ isNewRouter_newRouter
    (.of_run brokenRouter_run) brokenRouter_unclaimed hmanager brokenRouterEnv hdepth 4000
    (by rw [htime]; exact Nat.zero_le _)
  have hgone := hcleans.removed failuresRegistered_broken
  exact ⟨c', hupdate, htables, hgone 5 _ hne hfirst (alwaysFails_broken _),
    hgone 6 _ hne' hsecond (alwaysFails_broken _)⟩

end RouterBroadcasts

end DevDriver.Analysis
