import DevDriver.Analysis.RoutingCoherence

/-!
# The two client tables of a router

A router has the clients in `m_clientMap` and once more with the transport that each of them is
connected through.
-/

namespace DevDriver.Analysis

open Library Model RouterCtx

/-! ## Agreement -/

/-- The connection that the transport of a handle has for a client. -/
def boundIn (core : RouterCore) (handle : TransportHandle) (clientId : ClientId) :
    Option ConnectionInfo :=
  (core.transportMap.lookup handle).bind fun context => context.clientMap.lookup clientId

/-- A transport has a client with the connection that the client table has for it, if that is a
connection of the transport. -/
def TablesAgree (core : RouterCore) : Prop :=
  ∀ handle clientId connectionInfo, boundIn core handle clientId = some connectionInfo ↔
    recorded core clientId = some connectionInfo ∧ connectionInfo.handle = handle

/-- The tables agree but for the clients that are being removed, which no transport has any more. -/
structure AgreeBut (removed : ClientId → Prop) (core : RouterCore) : Prop where
  bound : ∀ clientId, ¬ removed clientId → ∀ handle connectionInfo,
    boundIn core handle clientId = some connectionInfo ↔
      recorded core clientId = some connectionInfo ∧ connectionInfo.handle = handle
  unbound : ∀ clientId, removed clientId → ∀ handle, boundIn core handle clientId = none

theorem agreeBut_none {core : RouterCore} : AgreeBut (fun _ => False) core ↔ TablesAgree core := by
  constructor
  · intro h handle clientId connectionInfo
    exact h.bound clientId not_false handle connectionInfo
  · intro h
    exact ⟨fun clientId _ handle connectionInfo => h handle clientId connectionInfo,
      fun _ hremoved => hremoved.elim⟩

section Agreement

variable {removed : ClientId → Prop} {core core' : RouterCore} {c : RouterCtx}
  {clientId : ClientId}

theorem recorded_eq_none : recorded core clientId = none ↔ clientId ∉ core.clientMap := by
  rw [recorded, Option.map_eq_none_iff, AList.lookup_eq_none]

theorem AgreeBut.of_lookups (h : AgreeBut removed core)
    (hrecorded : ∀ clientId, recorded core' clientId = recorded core clientId)
    (hbound : ∀ handle clientId, boundIn core' handle clientId = boundIn core handle clientId) :
    AgreeBut removed core' where
  bound clientId hnot handle connectionInfo := by
    rw [hrecorded, hbound]
    exact h.bound clientId hnot handle connectionInfo
  unbound clientId hremoved handle := by
    rw [hbound]
    exact h.unbound clientId hremoved handle

theorem recorded_setClient {client client' : ClientContext}
    (hclient : c.core.clientMap.lookup clientId = some client)
    (hconnection : client'.connectionInfo = client.connectionInfo) (x : ClientId) :
    recorded (c.setClient clientId client').core x = recorded c.core x := by
  unfold recorded setClient
  rcases eq_or_ne x clientId with rfl | hne
  · have hmem : x ∈ c.core.clientMap := AList.lookup_isSome.mp (by rw [hclient]; rfl)
    rw [lookup_replace hmem, hclient, Option.map_some, Option.map_some, hconnection]
  · rw [lookup_replace_ne hne]

theorem recorded_eraseClient (x : ClientId) :
    recorded (c.eraseClient clientId).core x =
      if x = clientId then none else recorded c.core x := by
  unfold recorded eraseClient
  split
  · rename_i heq
    rw [heq, AList.lookup_erase]
    rfl
  · rename_i hne
    rw [AList.lookup_erase_ne hne]

variable (handle : TransportHandle)

theorem recorded_setTransportClients
    (change : Table ClientId ConnectionInfo → Table ClientId ConnectionInfo) (x : ClientId) :
    recorded (c.setTransportClients handle change).core x = recorded c.core x := by
  rw [recorded, clientMap_setTransportClients]
  rfl

theorem boundIn_setTransportClients
    (change : Table ClientId ConnectionInfo → Table ClientId ConnectionInfo) (x : TransportHandle)
    (clientId : ClientId) :
    boundIn (c.setTransportClients handle change).core x clientId =
      if x = handle then
        (c.core.transportMap.lookup handle).bind fun context =>
          (change context.clientMap).lookup clientId
      else boundIn c.core x clientId := by
  unfold setTransportClients boundIn
  split
  · rename_i context hcontext
    have hmem : handle ∈ c.core.transportMap := AList.lookup_isSome.mp (by rw [hcontext]; rfl)
    split
    · rename_i heq
      rw [heq, lookup_replace hmem, hcontext]
      rfl
    · rename_i hne
      rw [lookup_replace_ne hne]
  · rename_i hnone
    split
    · rename_i heq
      rw [heq, hnone]
      rfl
    · rfl

theorem boundIn_erase (x : TransportHandle) (id : ClientId) :
    boundIn (c.setTransportClients handle (·.erase clientId)).core x id =
      if x = handle ∧ id = clientId then none else boundIn c.core x id := by
  rw [boundIn_setTransportClients]
  by_cases hx : x = handle
  · subst hx
    rw [if_pos rfl]
    unfold boundIn
    by_cases hid : id = clientId
    · subst hid
      rw [if_pos ⟨rfl, rfl⟩]
      simp only [AList.lookup_erase, Option.bind_fun_none]
    · rw [if_neg fun h => hid h.2]
      simp only [AList.lookup_erase_ne hid]
  · rw [if_neg hx, if_neg fun h => hx h.1]

theorem AgreeBut.removing (h : AgreeBut removed c.core) {client : ClientContext}
    (hclient : c.core.clientMap.lookup clientId = some client) :
    AgreeBut (fun id => removed id ∨ id = clientId)
      (c.setTransportClients client.connectionInfo.handle (·.erase clientId)).core where
  bound id hnot handle connectionInfo := by
    rw [not_or] at hnot
    rw [boundIn_erase, if_neg fun heq => hnot.2 heq.2, recorded_setTransportClients]
    exact h.bound id hnot.1 handle connectionInfo
  unbound id hremoved handle := by
    rw [boundIn_erase]
    split
    · rfl
    rename_i hnot
    by_cases hold : removed id
    · exact h.unbound id hold handle
    · have hid := hremoved.resolve_left hold
      subst hid
      by_contra hsome
      obtain ⟨connectionInfo, hbound⟩ := Option.ne_none_iff_exists'.mp hsome
      obtain ⟨hrecorded, hhandle⟩ := (h.bound id hold handle connectionInfo).mp hbound
      rw [recorded, hclient] at hrecorded
      cases hrecorded
      exact hnot ⟨hhandle.symm, rfl⟩

theorem AgreeBut.erased (h : AgreeBut (fun id => removed id ∨ id = clientId) c.core) :
    AgreeBut removed (c.eraseClient clientId).core where
  bound id hnot handle connectionInfo := by
    change boundIn c.core handle id = some connectionInfo ↔ _
    rw [recorded_eraseClient]
    split
    · rename_i heq
      rw [h.unbound id (.inr heq) handle]
      simp
    · rename_i hne
      exact h.bound id (not_or.mpr ⟨hnot, hne⟩) handle connectionInfo
  unbound id hremoved handle := h.unbound id (.inl hremoved) handle

theorem emplace_of_notMem {κ β : Type} [DecidableEq κ] {t : Table κ β} {a : κ} {b : β}
    (h : a ∉ t) (x : κ) : (emplace a b t).lookup x = if x = a then some b else t.lookup x := by
  rw [emplace, if_neg h]
  split
  · rename_i heq
    rw [heq, AList.lookup_insert]
  · rename_i hne
    rw [AList.lookup_insert_ne hne]

theorem TablesAgree.addClient {connectionInfo : ConnectionInfo} {registeredClient : Bool}
    (h : TablesAgree c.core) (hnew : clientId ∉ c.core.clientMap) :
    TablesAgree (c.addClient clientId connectionInfo registeredClient).core := by
  rw [RouterCtx.addClient]
  have hcore := core_assert c (clientId ≠ kBroadcastClientId) .addClient
  generalize c.assert (clientId ≠ kBroadcastClientId) .addClient = c₁ at hcore
  rw [← hcore] at h hnew
  split
  case isFalse => exact h
  rename_i henabled
  have hunrecorded : recorded c₁.core clientId = none := recorded_eq_none.mpr hnew
  obtain ⟨context, hcontext⟩ := Option.isSome_iff_exists.mp (AList.lookup_isSome.mpr henabled.2)
  have hunbound : clientId ∉ context.clientMap := by
    intro hmem
    obtain ⟨info, hinfo⟩ := Option.isSome_iff_exists.mp (AList.lookup_isSome.mpr hmem)
    have hbound : boundIn c₁.core connectionInfo.handle clientId = some info := by
      rw [boundIn, hcontext]
      exact hinfo
    rw [((h _ _ _).mp hbound).1] at hunrecorded
    cases hunrecorded
  intro x id info
  rw [boundIn_setTransportClients, recorded_setTransportClients]
  have hrecorded : recorded (c₁.emplaceClient clientId
      (newClientContext clientId connectionInfo registeredClient)).core id =
        if id = clientId then some connectionInfo else recorded c₁.core id := by
    unfold recorded emplaceClient
    rw [emplace_of_notMem hnew]
    split <;> rfl
  have hlookup : (c₁.emplaceClient clientId
      (newClientContext clientId connectionInfo registeredClient)).core.transportMap.lookup
        connectionInfo.handle = some context := hcontext
  have hother : boundIn (c₁.emplaceClient clientId
      (newClientContext clientId connectionInfo registeredClient)).core x id =
        boundIn c₁.core x id := rfl
  rw [hrecorded, hlookup, hother, Option.bind_some, emplace_of_notMem hunbound]
  by_cases hid : id = clientId
  · subst hid
    rw [if_pos rfl, if_pos rfl]
    by_cases hx : x = connectionInfo.handle
    · rw [if_pos hx]
      constructor
      · intro heq
        cases heq
        exact ⟨rfl, hx.symm⟩
      · exact fun hboth => hboth.1
    · rw [if_neg hx]
      constructor
      · intro hbound
        rw [((h _ _ _).mp hbound).1] at hunrecorded
        cases hunrecorded
      · rintro ⟨heq, hhandle⟩
        cases heq
        exact absurd hhandle.symm hx
  · rw [if_neg hid, if_neg hid]
    by_cases hx : x = connectionInfo.handle
    · subst hx
      rw [if_pos rfl]
      have hbound : boundIn c₁.core connectionInfo.handle id = context.clientMap.lookup id := by
        rw [boundIn, hcontext]
        rfl
      rw [← hbound]
      exact h _ _ _
    · rw [if_neg hx]
      exact h _ _ _

theorem addClient_recorded {connectionInfo : ConnectionInfo} {registeredClient : Bool}
    (h : TablesAgree c.core) (hold : recorded c.core clientId = some connectionInfo) :
    (c.addClient clientId connectionInfo registeredClient).core.clientMap = c.core.clientMap ∧
      ∀ handle x, boundIn (c.addClient clientId connectionInfo registeredClient).core handle x =
        boundIn c.core handle x := by
  rw [addClient]
  have hcore := core_assert c (clientId ≠ kBroadcastClientId) .addClient
  generalize c.assert (clientId ≠ kBroadcastClientId) .addClient = c₁ at hcore
  rw [← hcore] at h hold ⊢
  split
  case isFalse => exact ⟨rfl, fun _ _ => rfl⟩
  have hmem : clientId ∈ c₁.core.clientMap := by
    by_contra hnot
    rw [recorded_eq_none.mpr hnot] at hold
    cases hold
  have hsame : c₁.emplaceClient clientId
      (newClientContext clientId connectionInfo registeredClient) = c₁ := by
    rw [emplaceClient, emplace, if_pos hmem]
  rw [hsame, clientMap_setTransportClients]
  refine ⟨rfl, fun handle x => ?_⟩
  rw [boundIn_setTransportClients]
  split
  · rename_i hhandle
    obtain ⟨context, hcontext, hbound⟩ :=
      Option.bind_eq_some_iff.mp ((h _ _ _).mpr ⟨hold, hhandle.symm⟩)
    have hclient : clientId ∈ context.clientMap := AList.lookup_isSome.mp (by rw [hbound]; rfl)
    rw [boundIn, ← hhandle, hcontext, Option.bind_some, Option.bind_some, emplace, if_pos hclient]
  · rfl

end Agreement

/-! ## What a call keeps -/

section Calls

variable {unclaimed : Prop} {entering : Option ClientId} {connectionInfo : ConnectionInfo}
  {c c' : RouterCtx}

theorem Withdrawal.agreeBut (h : Withdrawal c c') :
    ∀ removed : ClientId → Prop, AgreeBut removed c.core → AgreeBut removed c'.core := by
  induction h with
  | same hclients htransports =>
    intro removed hagree
    apply hagree.of_lookups
    · intro clientId
      rw [recorded, hclients]
      rfl
    · intro handle clientId
      rw [boundIn, htransports]
      rfl
  | removeClient hclient _ ih =>
    intro removed hagree
    exact (ih _ (hagree.removing hclient)).erased
  | trans _ _ ih ih' =>
    intro removed hagree
    exact ih' removed (ih removed hagree)

theorem Withdrawal.tablesAgree (h : Withdrawal c c') (hagree : TablesAgree c.core) :
    TablesAgree c'.core := agreeBut_none.mp (h.agreeBut _ (agreeBut_none.mpr hagree))

theorem Reworks.tablesAgree (h : Reworks unclaimed connectionInfo entering c c')
    (hunclaimed : unclaimed) (hagree : TablesAgree c.core) : TablesAgree c'.core := by
  induction h with
  | withdraw h => exact h.tablesAgree hagree
  | setClient hclient hconnection =>
    apply agreeBut_none.mp
    apply (agreeBut_none.mpr hagree).of_lookups
    · exact recorded_setClient hclient hconnection
    · exact fun _ _ => rfl
  | @addClient c clientId registeredClient _ hinfo =>
    cases hrecorded : recorded c.core clientId with
    | none => exact hagree.addClient (recorded_eq_none.mp hrecorded)
    | some info =>
      obtain rfl := hinfo hunclaimed info hrecorded
      obtain ⟨hclients, hbound⟩ := @addClient_recorded c clientId info registeredClient
        hagree hrecorded
      apply agreeBut_none.mp
      apply (agreeBut_none.mpr hagree).of_lookups _ hbound
      intro x
      rw [recorded, hclients]
      rfl
  | trans _ _ ih ih' => exact ih' (ih hagree)

variable {env : RouterEnv}

theorem notMem_removeClient {clientId : ClientId} (h : c.removeClient env clientId = some c') :
    clientId ∉ c'.core.clientMap := by
  unfold removeClient removeClientWith at h
  split at h
  · rename_i hnone
    cases h
    exact AList.lookup_eq_none.mp hnone
  · obtain ⟨c₂, -, h⟩ := Option.bind_eq_some_iff.mp h
    split at h
    · cases h
      intro hmem
      exact (AList.mem_erase.mp hmem).1 rfl
    · cases h

theorem RoutesShrink.notMem {core core' : RouterCore} (h : RoutesShrink core core')
    {clientId : ClientId} (hnot : clientId ∉ core.clientMap) : clientId ∉ core'.clientMap := by
  intro hmem
  obtain ⟨client', hclient'⟩ := Option.isSome_iff_exists.mp (AList.lookup_isSome.mpr hmem)
  obtain ⟨client, hclient, -⟩ := h.clients clientId client' hclient'
  exact hnot (AList.lookup_isSome.mp (by rw [hclient]; rfl))

theorem notMem_foldlM_removeClient {clients : List ClientId}
    (h : clients.foldlM (fun c clientId => c.removeClient env clientId) c = some c') :
    RoutesShrink c.core c'.core ∧ ∀ clientId ∈ clients, clientId ∉ c'.core.clientMap := by
  induction clients generalizing c with
  | nil =>
    cases h
    exact ⟨.refl _, fun _ hmem => nomatch hmem⟩
  | cons clientId clients ih =>
    obtain ⟨c₁, hfirst, hrest⟩ := Option.bind_eq_some_iff.mp h
    obtain ⟨hshrink, hgone⟩ := ih hrest
    refine ⟨(withdraws_removeClient hfirst).shrink.trans hshrink, fun x hx => ?_⟩
    rcases List.mem_cons.mp hx with rfl | hx
    · exact hshrink.notMem (notMem_removeClient hfirst)
    · exact hgone x hx

theorem tablesAgree_removeTransport {handle : TransportHandle} (hagree : TablesAgree c.core)
    (h : c.removeTransport env handle = some c') : TablesAgree c'.core := by
  unfold removeTransport at h
  split at h
  · cases h
    exact hagree
  rename_i context hcontext
  obtain ⟨c₁, hloop, rfl⟩ := Option.map_eq_some_iff.mp h
  obtain ⟨hshrink, hgone⟩ := notMem_foldlM_removeClient hloop
  have hreworks := foldlM_related (R := Reworks True ⟨[], 0⟩ none) .refl .trans
    (fun _ _ _ hremove => reworks_removeClient hremove) hloop
  have hagree₁ := hreworks.tablesAgree trivial hagree
  intro x id info
  have hbound : boundIn { c₁.core with transportMap := c₁.core.transportMap.erase handle } x id =
      if x = handle then none else boundIn c₁.core x id := by
    unfold boundIn
    split
    · rename_i heq
      rw [heq, AList.lookup_erase]
      rfl
    · rename_i hne
      rw [AList.lookup_erase_ne hne]
  rw [hbound]
  split
  · rename_i heq
    refine iff_of_false (by simp) fun ⟨hrecorded, hhandle⟩ => ?_
    obtain ⟨client', hclient', hinfo⟩ := Option.map_eq_some_iff.mp hrecorded
    obtain ⟨client, hclient, hconnection⟩ := hshrink.clients id client' hclient'
    have hbefore : boundIn c.core handle id = some info := by
      apply (hagree handle id info).mpr
      refine ⟨?_, hhandle.trans heq⟩
      rw [recorded, hclient, Option.map_some, ← hconnection, hinfo]
    rw [boundIn, hcontext] at hbefore
    have hmem : id ∈ context.clientMap := AList.lookup_isSome.mp (by
      rw [show context.clientMap.lookup id = _ from hbefore]
      rfl)
    exact hgone id hmem (AList.lookup_isSome.mp (by rw [hclient']; rfl))
  · exact hagree₁ x id info

end Calls

/-! ## Clients that can be reached -/

/-- Whatever is sent over this connection, the transport does not answer with an error. -/
def NeverFails (env : RouterEnv) (connectionInfo : ConnectionInfo) : Prop :=
  ∀ n pTransport message, env.transmit n pTransport connectionInfo message ≠ .error

section Stays

variable {env : RouterEnv} {message : MessageBuffer} {pTransport : ListenerTransport}
  {connectionInfo : ConnectionInfo} {clientId : ClientId} {removed : ClientId → Prop}

theorem transmitToClients_fst (clients : List (Σ _ : ClientId, ConnectionInfo))
    (r : ClientId × RouterCtx) :
    (transmitToClients env message pTransport clients r).1 = r.1 ∨
      ∃ e ∈ clients, (transmitToClients env message pTransport clients r).1 = e.1 ∧
        ∃ n, env.transmit n pTransport e.2 message = .error := by
  induction clients generalizing r with
  | nil => exact .inl rfl
  | cons e clients ih =>
    rw [transmitToClients]
    split
    · dsimp only
      rcases ih (if (r.2.transmitMessage env pTransport e.2 message).1 = .error then e.1 else r.1,
        (r.2.transmitMessage env pTransport e.2 message).2) with heq | ⟨e', he', heq, hfails⟩
      · rw [heq]
        split
        · rename_i herror
          exact .inr ⟨e, List.mem_cons_self, rfl, _, herror⟩
        · exact .inl rfl
      · exact .inr ⟨e', List.mem_cons_of_mem e he', heq, hfails⟩
    · rcases ih r with heq | ⟨e', he', heq, hfails⟩
      · exact .inl heq
      · exact .inr ⟨e', List.mem_cons_of_mem e he', heq, hfails⟩

theorem transmitToTransports_fst (pSourceTransport : Option ListenerTransport)
    (transports : List (Σ _ : TransportHandle, TransportContext)) (r : ClientId × RouterCtx) :
    (transmitToTransports env message pSourceTransport transports r).1 = r.1 ∨
      ∃ t ∈ transports, ∃ e ∈ t.2.clientMap.entries,
        (transmitToTransports env message pSourceTransport transports r).1 = e.1 ∧
        ∃ n, env.transmit n t.2.pTransport e.2 message = .error := by
  induction transports generalizing r with
  | nil => exact .inl rfl
  | cons t transports ih =>
    rw [transmitToTransports]
    split
    · rcases ih (r.1, if some t.2.pTransport ≠ pSourceTransport then
        r.2.emit (.transmitBroadcast t.2.pTransport message) else r.2) with
          heq | ⟨t', ht', hlater⟩
      · exact .inl heq
      · exact .inr ⟨t', List.mem_cons_of_mem t ht', hlater⟩
    · rcases ih (transmitToClients env message t.2.pTransport t.2.clientMap.entries r)
        with heq | ⟨t', ht', hlater⟩
      · rw [heq]
        rcases transmitToClients_fst t.2.clientMap.entries r with hold | ⟨e, he, hthis⟩
        · exact .inl hold
        · exact .inr ⟨t, List.mem_cons_self, e, he, hthis⟩
      · exact .inr ⟨t', List.mem_cons_of_mem t ht', hlater⟩

theorem core_transmitToClients (clients : List (Σ _ : ClientId, ConnectionInfo))
    (r : ClientId × RouterCtx) :
    (transmitToClients env message pTransport clients r).2.core = r.2.core := by
  induction clients generalizing r with
  | nil => rfl
  | cons e clients ih =>
    rw [transmitToClients]
    split
    · exact (ih _).trans rfl
    · exact ih _

theorem core_transmitToTransports (pSourceTransport : Option ListenerTransport)
    (transports : List (Σ _ : TransportHandle, TransportContext)) (r : ClientId × RouterCtx) :
    (transmitToTransports env message pSourceTransport transports r).2.core =
      r.2.core := by
  induction transports generalizing r with
  | nil => rfl
  | cons t transports ih =>
    rw [transmitToTransports, ih]
    split
    · dsimp only
      split <;> rfl
    · exact core_transmitToClients _ _

theorem recorded_removeClientWith {send : MessageBuffer → RouterCtx → Option RouterCtx}
    {other : ClientId} {c c' : RouterCtx}
    (hsend : ∀ m c c' removed, m.header.dstClientId = kBroadcastClientId → send m c = some c' →
      AgreeBut removed c.core → ¬ removed clientId →
      recorded c.core clientId = some connectionInfo →
      recorded c'.core clientId = some connectionInfo)
    (h : removeClientWith send other c = some c') (hagree : AgreeBut removed c.core)
    (hstays : ¬ removed clientId) (hother : clientId ≠ other)
    (hrecorded : recorded c.core clientId = some connectionInfo) :
    recorded c'.core clientId = some connectionInfo := by
  unfold removeClientWith at h
  split at h
  · cases h
    exact hrecorded
  rename_i client hclient
  obtain ⟨c₂, hannounced, h⟩ := Option.bind_eq_some_iff.mp h
  have hagree₁ := hagree.removing hclient
  have hstays₁ : ¬ (removed clientId ∨ clientId = other) := not_or.mpr ⟨hstays, hother⟩
  have hrecorded₁ := (recorded_setTransportClients (c := c) client.connectionInfo.handle
    (·.erase other) clientId).trans hrecorded
  have hbefore : recorded c₂.core clientId = some connectionInfo := by
    split at hannounced
    · obtain ⟨manager, -, hannounced⟩ := Option.bind_eq_some_iff.mp hannounced
      apply hsend _ _ _ (fun id => removed id ∨ id = other) rfl hannounced _ hstays₁
      · exact hrecorded₁
      · exact hagree₁.of_lookups (fun _ => rfl) fun _ _ => rfl
    · cases hannounced
      exact hrecorded₁
  split at h
  · cases h
    rw [recorded_eraseClient, if_neg hother]
    exact hbefore
  · cases h

theorem recorded_sendBroadcastMessage (hnever : NeverFails env connectionInfo) {depth : ℕ}
    {pSourceTransport : Option ListenerTransport} {c c' : RouterCtx}
    (h : sendBroadcastMessage env depth pSourceTransport message c = some c')
    (hagree : AgreeBut removed c.core) (hstays : ¬ removed clientId)
    (hrecorded : recorded c.core clientId = some connectionInfo) :
    recorded c'.core clientId = some connectionInfo := by
  induction depth generalizing pSourceTransport message c c' removed with
  | zero => cases h
  | succ depth ih =>
    rw [sendBroadcastMessage] at h
    have hcore := @core_transmitToTransports env message pSourceTransport
      c.core.transportMap.entries (kBroadcastClientId, c)
    have hfst := @transmitToTransports_fst env message pSourceTransport
      c.core.transportMap.entries (kBroadcastClientId, c)
    generalize transmitToTransports env message pSourceTransport
      c.core.transportMap.entries (kBroadcastClientId, c) = sent at h hcore hfst
    rw [← hcore] at hagree hrecorded
    split at h
    · rename_i hfailed
      rcases hfst with heq | ⟨t, ht, e, he, heq, n, hfails⟩
      · exact absurd heq hfailed
      have hne : clientId ≠ sent.1 := by
        intro hsame
        have hbound : boundIn sent.2.core t.1 clientId = some e.2 := by
          rw [boundIn, hcore, AList.mem_lookup_iff.mpr ht, hsame, heq]
          exact AList.mem_lookup_iff.mpr he
        have hown := ((hagree.bound clientId hstays _ _).mp hbound).1
        rw [hrecorded] at hown
        cases hown
        exact hnever n _ _ hfails
      exact recorded_removeClientWith
        (fun _ _ _ _ _ hsend hagree hstays hrecorded => ih hsend hagree hstays hrecorded)
        h hagree hstays hne hrecorded
    · cases h
      exact hrecorded

end Stays

/-! ## A client that connects -/

section Connects

variable {env : RouterEnv} {m : MessageContext} {c c' : RouterCtx} {clientId : ClientId}

theorem recorded_addClient {connectionInfo : ConnectionInfo} {registeredClient : Bool}
    (hclient : clientId ≠ kBroadcastClientId)
    (hlive : connectionInfo.handle ∈ c.core.transportMap)
    (hunclaimed : Unclaimed c.core clientId connectionInfo) :
    recorded (c.addClient clientId connectionInfo registeredClient).core clientId =
      some connectionInfo := by
  rw [addClient, assert_of hclient, if_pos ⟨hclient, hlive⟩,
    recorded_setTransportClients]
  unfold emplaceClient
  cases hrecorded : recorded c.core clientId with
  | none =>
    unfold recorded
    rw [emplace_of_notMem (recorded_eq_none.mp hrecorded), if_pos rfl]
    rfl
  | some info =>
    have hmem : clientId ∈ c.core.clientMap := by
      by_contra hnot
      rw [recorded_eq_none.mpr hnot] at hrecorded
      cases hrecorded
    rw [emplace, if_pos hmem]
    exact hrecorded.trans (congrArg some (hunclaimed info hrecorded))

theorem registerClient_ne_broadcast {manager manager' : ListenerClientManager}
    {draws : List UInt32}
    (h : manager.registerClient draws = some (.success, clientId, manager')) :
    clientId ≠ kBroadcastClientId := by
  obtain ⟨drawn, -, h⟩ := Option.map_eq_some_iff.mp h
  split at h
  · rename_i hne
    obtain ⟨-, rfl, -⟩ := Prod.mk.injEq .. ▸ (Prod.mk.injEq .. ▸ h : _ ∧ _)
    exact hne
  · cases h

theorem connectClient_registered {manager : ListenerClientManager}
    (hsize : m.header.payloadSize = kConnectRequestPayloadSize)
    (hnew : c.findExternalClientByConnection m.connectionInfo = none)
    (hregistered : (c.core.pClientManager.bind fun manager => manager.registerClient env.draws) =
      some (.success, clientId, manager)) (hne : clientId ≠ kBroadcastClientId) :
    c.connectClient env m =
      (sendBroadcastMessage env env.depth none
        (systemBroadcast SystemMessage.clientConnected clientId)
        (addClient clientId m.connectionInfo true
          { c with core := { c.core with pClientManager := some manager } })).map
        (.success, clientId, ·) := by
  rw [connectClient, if_pos hsize, hnew]
  rw [hregistered]
  dsimp only [Option.bind_some]
  rw [if_pos rfl, assert_of hne]

theorem recorded_processMessage (hagree : TablesAgree c.core)
    (hregisters : registeringClient env m c = some clientId)
    (hunclaimed : ConnectsUnclaimed env m c) (hnever : NeverFails env m.connectionInfo)
    (h : Router.processMessage env m c = some c') :
    recorded c'.core clientId = some m.connectionInfo := by
  have hown := hunclaimed clientId hregisters
  unfold registeringClient at hregisters
  split at hregisters
  case isFalse => cases hregisters
  rename_i hconnects
  obtain ⟨hmanagement, hlive, hvalid, hcode, hsize, hnew⟩ := hconnects
  obtain ⟨⟨result, id, manager⟩, hregistered, hid⟩ := Option.bind_eq_some_iff.mp hregisters
  split at hid
  case isFalse => cases hid
  rename_i hresult
  subst hresult
  obtain rfl := Option.some.inj hid
  have hne : id ≠ kBroadcastClientId := by
    obtain ⟨manager₀, -, hregister⟩ := Option.bind_eq_some_iff.mp hregistered
    exact registerClient_ne_broadcast hregister
  obtain ⟨context, hcontext⟩ := Option.isSome_iff_exists.mp (AList.lookup_isSome.mpr hlive)
  rw [Router.processMessage, if_pos hmanagement, processClientManagementMessage,
    hcontext] at h
  have hkeepAlive : m.header.messageId ≠ ManagementMessage.keepAlive := by
    rw [hcode]
    decide
  dsimp only at h
  rw [if_neg fun hinvalid => hinvalid.2 (hvalid hinvalid.1),
    if_neg fun hkeep => hkeepAlive hkeep.2.2, if_pos hcode] at h
  obtain ⟨r, hconnected, h⟩ := Option.bind_eq_some_iff.mp h
  rw [connectClient_registered hsize hnew hregistered hne] at hconnected
  obtain ⟨c₂, hsend, rfl⟩ := Option.map_eq_some_iff.mp hconnected
  -- the broadcast of its registration does not remove it, and the answer reaches it
  let managed : RouterCtx := { c with core := { c.core with pClientManager := some manager } }
  have hentered : recorded (managed.addClient id m.connectionInfo true).core id =
      some m.connectionInfo := recorded_addClient hne hlive hown
  have hadded : Reworks True m.connectionInfo (some id) managed
      (managed.addClient id m.connectionInfo true) := .addClient (fun _ => rfl) fun _ => hown
  have hagree₁ := agreeBut_none.mpr (hadded.tablesAgree trivial hagree)
  have hstays := recorded_sendBroadcastMessage hnever hsend hagree₁ not_false hentered
  rw [if_neg fun herror => hnever _ _ _ herror.1] at h
  cases h
  exact hstays

end Connects

/-! ## The runs of a router -/

/-- The client that a step registers, and the connection that requested it. -/
def Router.registering (s : Router) : RouterAction → Option (ClientId × ConnectionInfo)
  | .processMessage env => s.messageBuffer.head?.bind fun m =>
      (registeringClient env m ⟨s.core, []⟩).map (·, m.connectionInfo)
  | _ => none

/-- The condition on a step: when it registers a client, the client table has no other connection
for that client. -/
def RegistersUnclaimed (s : Router) (a : RouterAction) : Prop :=
  ∀ x ∈ s.registering a, Unclaimed s.core x.1 x.2

instance (s : Router) (a : RouterAction) : Decidable (RegistersUnclaimed s a) :=
  Option.decidableForallMem (s.registering a)

variable {s t : Router} {env : RouterEnv} {m : MessageContext} {c : RouterCtx}

theorem withdrawal_routeMessage {cache : RoutingCache} {r : RoutingCache × RouterCtx}
    (h : cache.routeMessage env m c = some r) : Withdrawal c r.2 := by
  obtain ⟨hclients, htransports, -⟩ := routing_cases m c
  apply Withdrawal.trans (.same hclients htransports : Withdrawal c (routing m c))
  unfold RoutingCache.routeMessage at h
  dsimp only at h
  rw [← routing] at h
  split_ifs at h with hroutable hbroadcast
  · obtain ⟨c₁, hsend, rfl⟩ := Option.map_eq_some_iff.mp h
    exact (withdraws_sendBroadcastMessage hbroadcast hsend).withdrawal
  · have hcore : (cache.select m.header.dstClientId (routing m c)).2.core =
        (routing m c).core := core_select
    generalize cache.select m.header.dstClientId (routing m c) = selected at h hcore
    have hselected : Withdrawal (routing m c) selected.2 := by
      apply Withdrawal.same
      · rw [hcore]
      · rw [hcore]
    apply hselected.trans
    split at h
    · cases h
      exact .same rfl rfl
    · rename_i context _
      obtain ⟨pTransport, -, h⟩ := Option.bind_eq_some_iff.mp h
      have hsent : Withdrawal selected.2 (selected.2.transmitMessage env pTransport
          context.connectionInfo m.message).2 := .same rfl rfl
      apply hsent.trans
      split at h
      · obtain ⟨c₁, hremove, rfl⟩ := Option.map_eq_some_iff.mp h
        exact (withdraws_removeClient hremove).withdrawal
      · cases h
        exact .same rfl rfl
  · cases h
    exact .same rfl rfl

inductive StepsTables (s : Router) (a : RouterAction) (t : Router) : Prop where
  /-- the tables are rehashed, or left as they are -/
  | same (hlast : t.core.lastTransportId = s.core.lastTransportId)
      (hkeys : ∀ handle, handle ∈ t.core.transportMap → handle ∈ s.core.transportMap)
      (hrecorded : ∀ clientId, recorded t.core clientId = recorded s.core clientId)
      (hbound : ∀ handle clientId,
        boundIn t.core handle clientId = boundIn s.core handle clientId)
  | rework {unclaimed : Prop} {connectionInfo : ConnectionInfo} {entering : Option ClientId}
      {c : RouterCtx} (h : Reworks unclaimed connectionInfo entering ⟨s.core, []⟩ c)
      (hunclaimed : RegistersUnclaimed s a → unclaimed)
      (hentering : ∀ clientId, entering = some clientId → clientId ∉ s.core.clientMap)
      (hlast : c.core.lastTransportId = s.core.lastTransportId) (hcore : t.core = c.core)
  | registerTransport (pTransport : ListenerTransport)
      (hcore : t.core = ((⟨s.core, []⟩ : RouterCtx).registerTransport pTransport).core)
  | removeTransport {env : RouterEnv} {handle : TransportHandle} {c : RouterCtx}
      (h : (⟨s.core, []⟩ : RouterCtx).removeTransport env handle = some c)
      (hcore : t.core = c.core)

variable {a : RouterAction}

theorem StepsTables.of_eq (hclients : t.core.clientMap = s.core.clientMap)
    (htransports : t.core.transportMap = s.core.transportMap)
    (hlast : t.core.lastTransportId = s.core.lastTransportId) : StepsTables s a t := by
  apply StepsTables.same hlast
  · intro handle hmem
    exact htransports ▸ hmem
  · intro clientId
    rw [recorded, hclients]
    rfl
  · intro handle clientId
    rw [boundIn, htransports]
    rfl

theorem enteringClient_notMem {clientId : ClientId} (h : enteringClient env m c = some clientId) :
    clientId ∉ c.core.clientMap := by
  have hfilter := (Option.filter_eq_some_iff.mp h).2
  exact of_decide_eq_true hfilter

variable {events : List RouterEvent}

theorem stepsTables_receive {object : ℕ} (hstep : s.receive env object m = some (t, events)) :
    StepsTables s (.receive env object m) t := by
  obtain ⟨⟨handle, cache⟩, -, hstep⟩ := Option.bind_eq_some_iff.mp hstep
  dsimp only at hstep
  split at hstep
  case isFalse => cases hstep
  obtain ⟨⟨cache', c⟩, hroute, hstep⟩ := Option.map_eq_some_iff.mp hstep
  cases hstep
  have hlast : c.core.lastTransportId = s.core.lastTransportId := by
    rcases frame_routeMessage hroute with hframe | ⟨hframe, -⟩
    · exact hframe.lastTransportId
    · exact hframe.lastTransportId
  have hreworks : Reworks True ⟨[], 0⟩ none ⟨s.core, []⟩ c :=
    .withdraw (withdrawal_routeMessage hroute)
  exact .rework hreworks (fun _ => trivial) nofun hlast rfl

/-- What each step does to the tables of clients and transports. -/
theorem stepsTables_step (hstep : routerMachine.step s a = some (t, events)) :
    StepsTables s a t := by
  cases a with
  | setClientManager routerPrefix routerPrefixMask draws =>
    obtain ⟨-, hstep⟩ := Option.ite_none_right_eq_some.mp hstep
    obtain ⟨manager, -, hstep⟩ := Option.map_eq_some_iff.mp hstep
    cases hstep
    exact .of_eq rfl rfl rfl
  | setClientTimeoutCount timeoutCount =>
    cases hstep
    exact .of_eq rfl rfl rfl
  | registerTransport pTransport =>
    obtain ⟨-, ⟨⟩⟩ := Option.ite_none_right_eq_some.mp hstep
    exact .registerTransport pTransport rfl
  | removeTransport env handle =>
    obtain ⟨c, hremove, hstep⟩ := Option.map_eq_some_iff.mp hstep
    cases hstep
    exact .removeTransport hremove rfl
  | disable object =>
    obtain ⟨r, -, hstep⟩ := Option.bind_eq_some_iff.mp hstep
    obtain ⟨-, ⟨⟩⟩ := Option.ite_none_left_eq_some.mp hstep
    exact .of_eq rfl rfl rfl
  | start =>
    obtain ⟨t, hstart, hstep⟩ := Option.map_eq_some_iff.mp hstep
    cases hstep
    obtain ⟨-, ⟨⟩⟩ := Option.ite_none_right_eq_some.mp hstart
    exact .of_eq rfl rfl rfl
  | stop =>
    obtain ⟨t, hstop, hstep⟩ := Option.map_eq_some_iff.mp hstep
    cases hstep
    obtain ⟨-, ⟨⟩⟩ := Option.ite_none_right_eq_some.mp hstop
    exact .of_eq rfl rfl rfl
  | receive env object m => exact stepsTables_receive hstep
  | takeQueue =>
    obtain ⟨-, ⟨⟩⟩ := Option.ite_none_right_eq_some.mp hstep
    exact .of_eq rfl rfl rfl
  | processMessage env =>
    simp only [routerMachine] at hstep
    split at hstep
    · cases hstep
    · rename_i m rest hbuffer
      obtain ⟨c, hprocess, hstep⟩ := Option.map_eq_some_iff.mp hstep
      cases hstep
      refine .rework (reworks_processMessage hprocess) (fun hcond clientId hregisters => ?_)
        (fun clientId hentering => enteringClient_notMem hentering)
        (frame_processMessage hprocess).lastTransportId rfl
      apply hcond (clientId, m.connectionInfo)
      simp [Router.registering, hbuffer, Option.mem_def.mp hregisters]
  | updateClients env currentTimeInMs =>
    obtain ⟨-, hstep⟩ := Option.ite_none_right_eq_some.mp hstep
    obtain ⟨c, hupdate, hstep⟩ := Option.map_eq_some_iff.mp hstep
    cases hstep
    have hreworks : Reworks True ⟨[], 0⟩ none ⟨s.core, []⟩ c := reworks_updateClients hupdate
    exact .rework hreworks (fun _ => trivial) (fun _ h => by cases h)
      (quiet_updateClients hupdate).toRouterFrame.lastTransportId rfl
  | rehashClients clientMap =>
    obtain ⟨hperm, ⟨⟩⟩ := Option.ite_none_right_eq_some.mp hstep
    refine .same rfl (fun _ hmem => hmem) (fun clientId => ?_) fun _ _ => rfl
    exact congrArg _ (AList.perm_lookup hperm)
  | rehashTransports transportMap =>
    obtain ⟨hperm, ⟨⟩⟩ := Option.ite_none_right_eq_some.mp hstep
    have hkeys : ∀ handle, handle ∈ transportMap → handle ∈ s.core.transportMap :=
      fun handle hmem => (hperm.map Sigma.fst).mem_iff.mp hmem
    refine .same rfl hkeys (fun _ => rfl) fun handle clientId => ?_
    exact congrArg (Option.bind · _) (AList.perm_lookup hperm)
  | rehashTransportClients handle clientMap =>
    obtain ⟨context, hcontext, hstep⟩ := Option.bind_eq_some_iff.mp hstep
    obtain ⟨hperm, ⟨⟩⟩ := Option.ite_none_right_eq_some.mp hstep
    have hquiet := quiet_setTransportClients ⟨s.core, []⟩ handle fun _ => clientMap
    have hcore := hquiet.toRouterFrame.shrinks
    refine .same hcore.lastTransportId hcore.transports
      (recorded_setTransportClients (c := ⟨s.core, []⟩) handle _) fun x clientId => ?_
    rw [show boundIn _ x clientId = _ from
      boundIn_setTransportClients (c := ⟨s.core, []⟩) handle _ x clientId]
    split
    · rename_i hx
      subst hx
      unfold boundIn
      rw [hcontext, Option.bind_some, Option.bind_some, AList.perm_lookup hperm]
    · rfl

structure TablesConsistent (core : RouterCore) : Prop where
  transports : ∀ handle, handle ∈ core.transportMap → handle ≤ core.lastTransportId
  tables : TablesAgree core

theorem tablesConsistent_registerTransport (h : TablesConsistent c.core)
    (pTransport : ListenerTransport) : TablesConsistent (c.registerTransport pTransport).core where
  transports handle hmem := by
    rcases (AList.mem_insert _).mp hmem with rfl | hmem
    · exact le_rfl
    · exact Nat.le_succ_of_le (h.transports handle hmem)
  tables handle clientId connectionInfo := by
    rcases eq_or_ne handle (c.core.lastTransportId + 1) with rfl | hne
    · have hbound : boundIn (c.registerTransport pTransport).core (c.core.lastTransportId + 1)
          clientId = none := by
        unfold boundIn registerTransport
        rw [AList.lookup_insert]
        rfl
      rw [hbound]
      refine iff_of_false (by simp) fun ⟨hrecorded, hhandle⟩ => ?_
      obtain ⟨context, hcontext, -⟩ :=
        Option.bind_eq_some_iff.mp ((h.tables _ _ _).mpr ⟨hrecorded, hhandle⟩)
      have hmem : c.core.lastTransportId + 1 ∈ c.core.transportMap :=
        AList.lookup_isSome.mp (by rw [hcontext]; rfl)
      exact Nat.not_succ_le_self _ (h.transports _ hmem)
    · have hbound : boundIn (c.registerTransport pTransport).core handle clientId =
          boundIn c.core handle clientId := by
        unfold boundIn registerTransport
        rw [AList.lookup_insert_ne hne]
      rw [hbound]
      exact h.tables handle clientId connectionInfo

theorem tablesConsistent_step (h : TablesConsistent s.core) (hcond : RegistersUnclaimed s a)
    (hstep : routerMachine.step s a = some (t, events)) : TablesConsistent t.core := by
  cases stepsTables_step hstep with
  | same hlast hkeys hrecorded hbound =>
    refine ⟨fun handle hmem => ?_, ?_⟩
    · rw [hlast]
      exact h.transports handle (hkeys handle hmem)
    · exact agreeBut_none.mp ((agreeBut_none.mpr h.tables).of_lookups hrecorded hbound)
  | @rework _ _ _ c hreworks hunclaimed _ hlast hcore =>
    rw [hcore]
    refine ⟨fun handle hmem => ?_, hreworks.tablesAgree (hunclaimed hcond) h.tables⟩
    rw [AList.mem_keys, hreworks.keys] at hmem
    rw [hlast]
    exact h.transports handle (AList.mem_keys.mpr hmem)
  | registerTransport pTransport hcore =>
    rw [hcore]
    exact tablesConsistent_registerTransport h pTransport
  | removeTransport hremove hcore =>
    rw [hcore]
    have hshrinks := (coreShrinks_removeTransport hremove).1
    refine ⟨fun handle hmem => ?_, tablesAgree_removeTransport h.tables hremove⟩
    rw [hshrinks.lastTransportId]
    exact h.transports handle (hshrinks.transports handle hmem)

/-- A client recorded before and after has the same connection. -/
def KeepsConnections (core core' : RouterCore) : Prop :=
  ∀ clientId, ∀ info ∈ recorded core clientId, ∀ info' ∈ recorded core' clientId, info' = info

theorem RoutesShrink.keepsConnections {core core' : RouterCore} (h : RoutesShrink core core') :
    KeepsConnections core core' := by
  intro clientId info hinfo info' hinfo'
  obtain ⟨client', hclient', rfl⟩ := Option.map_eq_some_iff.mp hinfo'
  obtain ⟨client, hclient, hconnection⟩ := h.clients clientId client' hclient'
  rw [recorded, hclient] at hinfo
  exact hconnection.trans (Option.some.inj hinfo)

theorem keepsConnections_step (hstep : routerMachine.step s a = some (t, events)) :
    KeepsConnections s.core t.core := by
  cases stepsTables_step hstep with
  | same _ _ hrecorded _ =>
    intro clientId info hinfo info' hinfo'
    rw [hrecorded] at hinfo'
    exact Option.mem_unique hinfo' hinfo
  | rework hreworks _ hentering _ hcore =>
    intro clientId info hinfo info' hinfo'
    rw [hcore] at hinfo'
    obtain ⟨client', hclient', rfl⟩ := Option.map_eq_some_iff.mp hinfo'
    rcases hreworks.grow.clients clientId client' hclient' with ⟨client, hclient, hconnection⟩ |
      ⟨hnew, -, -⟩
    · rw [recorded, show s.core.clientMap.lookup clientId = _ from hclient] at hinfo
      exact hconnection.trans (Option.some.inj hinfo)
    · rw [recorded_eq_none.mpr (hentering clientId hnew)] at hinfo
      cases hinfo
  | registerTransport _ hcore =>
    rw [hcore]
    exact fun _ _ hinfo _ hinfo' => Option.mem_unique hinfo' hinfo
  | removeTransport hremove hcore =>
    rw [hcore]
    exact (routesShrink_removeTransport hremove).keepsConnections

theorem tablesConsistent_init (h : routerMachine.init s) :
    TablesConsistent s.core where
  transports handle hmem := by
    rw [h.transportMap] at hmem
    exact absurd hmem (AList.notMem_empty handle)
  tables handle clientId connectionInfo := by
    have hbound : boundIn s.core handle clientId = none := by
      unfold boundIn
      rw [h.transportMap]
      rfl
    have hrecorded : recorded s.core clientId = none := by
      unfold recorded
      rw [h.clientMap]
      rfl
    rw [hbound, hrecorded]
    simp

/-- A step that registers a client: the table has no connection for it afterwards but the one that
requested it, and it has that one, unless a transmission over it fails. -/
def RegistersReachable (x : Router × RouterAction × List RouterEvent) : Prop :=
  ∀ env clientId connectionInfo t, x.2.1 = .processMessage env →
    x.1.registering x.2.1 = some (clientId, connectionInfo) →
    routerMachine.step x.1 x.2.1 = some (t, x.2.2) →
      (∀ info ∈ recorded t.core clientId, info = connectionInfo) ∧
        (NeverFails env connectionInfo → recorded t.core clientId = some connectionInfo)

theorem registersReachable_of_agree (h : TablesAgree s.core) (hcond : RegistersUnclaimed s a) :
    RegistersReachable (s, a, events) := by
  intro env clientId connectionInfo t ha hregisters hstep
  have hown := hcond _ hregisters
  subst ha
  simp only [routerMachine] at hstep
  split at hstep
  · cases hstep
  rename_i m rest hbuffer
  obtain ⟨c, hprocess, hstep⟩ := Option.map_eq_some_iff.mp hstep
  obtain ⟨rfl, rfl⟩ := Prod.mk.injEq .. ▸ hstep
  rw [Router.registering, hbuffer] at hregisters
  obtain ⟨id, hid, heq⟩ := Option.map_eq_some_iff.mp hregisters
  obtain ⟨rfl, rfl⟩ := Prod.mk.injEq .. ▸ heq
  constructor
  · intro info hinfo
    obtain ⟨client', hclient', rfl⟩ := Option.map_eq_some_iff.mp hinfo
    rcases (reworks_processMessage hprocess).grow.clients id client' hclient' with
      ⟨client, hclient, hconnection⟩ | ⟨-, hconnection, -⟩
    · rw [hconnection]
      apply hown
      rw [recorded, show s.core.clientMap.lookup id = _ from hclient]
      rfl
    · exact hconnection
  · intro hnever
    apply recorded_processMessage h hid _ hnever hprocess
    intro x hx
    obtain rfl := Option.mem_unique hx hid
    exact hown

/-- In every run in which no client is registered that the client table has with another
connection, the tables agree, a client that is registered can be reached through the connection
that requested it, and no client ever changes its connection while it stays. -/
theorem client_tables_agree_of_run {s t : Router}
    {tr : List (Router × RouterAction × List RouterEvent)}
    (hinit : routerMachine.init s) (htrace : routerMachine.Trace s tr t)
    (hcond : ∀ x ∈ tr, RegistersUnclaimed x.1 x.2.1) :
    TablesAgree t.core ∧ ∀ x ∈ tr, RegistersReachable x ∧
      ∀ u, routerMachine.step x.1 x.2.1 = some (u, x.2.2) →
        KeepsConnections x.1.core u.core := by
  have hinvariant := tablesConsistent_init hinit
  constructor
  · exact (htrace.invariant (P := fun s => TablesConsistent s.core) hinvariant hcond
      (fun _ _ _ _ h hone hstep => tablesConsistent_step h hone hstep)).tables
  · intro x hx
    obtain ⟨hconsistent, hone, -⟩ := htrace.invariant_of_mem
      (P := fun s => TablesConsistent s.core) hinvariant hcond
      (fun _ _ _ _ h hone hstep => tablesConsistent_step h hone hstep) hx
    exact ⟨registersReachable_of_agree hconsistent.tables hone,
      fun u hu => keepsConnections_step hu⟩

def connecting : MessageContext where
  message := outOfBandMessage ManagementMessage.connectRequest 0 (List.replicate 8 0)
  connectionInfo := ⟨[8], 2⟩

def drawingRouterEnv : RouterEnv := { calmRouterEnv with draws := [4] }

def connectedRun : List RouterAction :=
  [.setClientManager 0 0 [41], .registerTransport ⟨0, false⟩, .registerTransport ⟨1, false⟩,
    .start, .receive calmRouterEnv 1 connecting, .takeQueue, .processMessage drawingRouterEnv]

theorem client_tables_agree_of_run_connected :
    (∃ x ∈ routerMachine.transitions newRouter connectedRun,
      x.1.registering x.2.1 = some (5, ⟨[8], 2⟩) ∧ RegistersReachable x) ∧
    ∃ t, routerMachine.run newRouter connectedRun = some t ∧ TablesAgree t.core ∧
      recorded t.core 5 = some ⟨[8], 2⟩ := by
  obtain ⟨t, ht, hrecorded⟩ := routerMachine.exists_of_run newRouter connectedRun
    (fun t => recorded t.core 5 = some ⟨[8], 2⟩) (by decide +kernel)
  have hcond : ∀ x ∈ routerMachine.transitions newRouter connectedRun,
      RegistersUnclaimed x.1 x.2.1 := by
    decide +kernel
  have hregisters : (routerMachine.transitions newRouter connectedRun).any
      (fun x => decide (x.1.registering x.2.1 = some (5, ⟨[8], 2⟩))) = true := by
    decide +kernel
  obtain ⟨x, hx, hregistered⟩ := List.any_eq_true.mp hregisters
  obtain ⟨hagree, hsteps⟩ := client_tables_agree_of_run isNewRouter_newRouter (.of_run ht)
    hcond
  exact ⟨⟨x, hx, of_decide_eq_true hregistered, (hsteps x hx).1⟩, t, ht, hagree,
    hrecorded⟩

def claimedRun : List RouterAction :=
  [.setClientManager 0 0 [41], .registerTransport ⟨0, false⟩, .registerTransport ⟨1, false⟩,
    .start, .receive calmRouterEnv 0 (fromClient SystemMessage.clientConnected),
    .receive calmRouterEnv 1 connecting, .takeQueue, .processMessage calmRouterEnv,
    .processMessage drawingRouterEnv]

/-- The client that connected has its transport, and the client table has the other connection. -/
theorem client_tables_agree_not : ¬ ∀ (s t : Router)
    (tr : List (Router × RouterAction × List RouterEvent)),
    routerMachine.init s → routerMachine.Trace s tr t → TablesAgree t.core := by
  intro hall
  obtain ⟨t, ht, hbound, hrecorded⟩ := routerMachine.exists_of_run newRouter claimedRun
    (fun t => boundIn t.core 2 5 = some ⟨[8], 2⟩ ∧ recorded t.core 5 = some ⟨[7], 1⟩)
    (by decide +kernel)
  have hagree := hall newRouter t _ isNewRouter_newRouter (.of_run ht)
  have hother := ((hagree _ _ _).mp hbound).1
  rw [hrecorded] at hother
  exact absurd (Option.some.inj hother) (by decide)

end DevDriver.Analysis
