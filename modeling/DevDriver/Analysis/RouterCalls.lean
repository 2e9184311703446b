import DevDriver.Analysis.RouterIdentification

/-!
# What a call does to the tables of a router

Whatever a router works on, it changes its tables in four ways only: a record is changed in its
place, a client is entered, a client is removed, and in between the removed client's broadcast may
remove others.
-/

namespace DevDriver.Analysis

open Library Model RouterCtx ManagementMessage

inductive Withdrawal : RouterCtx → RouterCtx → Prop where
  /-- anything that leaves the tables as they are -/
  | same {c c' : RouterCtx} (hclients : c'.core.clientMap = c.core.clientMap)
      (htransports : c'.core.transportMap = c.core.transportMap) : Withdrawal c c'
  /-- the removal of a client, with what its broadcast does -/
  | removeClient {c c' : RouterCtx} {clientId : ClientId} {client : ClientContext}
      (hclient : c.core.clientMap.lookup clientId = some client)
      (hannounced : Withdrawal
        (c.setTransportClients client.connectionInfo.handle (·.erase clientId)) c') :
      Withdrawal c (c'.eraseClient clientId)
  | trans {c₁ c₂ c₃ : RouterCtx} (h : Withdrawal c₁ c₂) (h' : Withdrawal c₂ c₃) :
      Withdrawal c₁ c₃

/-- The connection that the client table has for a client. -/
def recorded (core : RouterCore) (clientId : ClientId) : Option ConnectionInfo :=
  (core.clientMap.lookup clientId).map (·.connectionInfo)

/-- The client table has no other connection for a client. -/
def Unclaimed (core : RouterCore) (clientId : ClientId) (connectionInfo : ConnectionInfo) : Prop :=
  ∀ info ∈ recorded core clientId, info = connectionInfo

instance (core : RouterCore) (clientId : ClientId) (connectionInfo : ConnectionInfo) :
    Decidable (Unclaimed core clientId connectionInfo) :=
  Option.decidableForallMem (recorded core clientId)

/-- The steps of a call, when the client that it may enter is `entering`, over the given
connection.  If `unclaimed` holds, no other connection has the client. -/
inductive Reworks (unclaimed : Prop) (connectionInfo : ConnectionInfo)
    (entering : Option ClientId) : RouterCtx → RouterCtx → Prop where
  | withdraw {c c' : RouterCtx} (h : Withdrawal c c') :
      Reworks unclaimed connectionInfo entering c c'
  | setClient {c : RouterCtx} {clientId : ClientId} {client client' : ClientContext}
      (hclient : c.core.clientMap.lookup clientId = some client)
      (hconnection : client'.connectionInfo = client.connectionInfo) :
      Reworks unclaimed connectionInfo entering c (c.setClient clientId client')
  | addClient {c : RouterCtx} {clientId : ClientId} {registeredClient : Bool}
      (hentering : clientId ∉ c.core.clientMap → entering = some clientId)
      (hunclaimed : unclaimed → Unclaimed c.core clientId connectionInfo) :
      Reworks unclaimed connectionInfo entering c
        (c.addClient clientId connectionInfo registeredClient)
  | trans {c₁ c₂ c₃ : RouterCtx} (h : Reworks unclaimed connectionInfo entering c₁ c₂)
      (h' : Reworks unclaimed connectionInfo entering c₂ c₃) :
      Reworks unclaimed connectionInfo entering c₁ c₃

section Reworks

variable {unclaimed : Prop} {entering : Option ClientId} {connectionInfo : ConnectionInfo}

theorem Reworks.same {c c' : RouterCtx} (hclients : c'.core.clientMap = c.core.clientMap)
    (htransports : c'.core.transportMap = c.core.transportMap) :
    Reworks unclaimed connectionInfo entering c c' := .withdraw (.same hclients htransports)

variable (c : RouterCtx)

theorem Reworks.refl : Reworks unclaimed connectionInfo entering c c :=
  .same rfl rfl

@[simp] theorem core_assert (p : Prop) [Decidable p] (assertion : RouterAssert) :
    (c.assert p assertion).core = c.core := by
  unfold assert
  split <;> rfl

theorem reworks_assert (p : Prop) [Decidable p] (assertion : RouterAssert) :
    Reworks unclaimed connectionInfo entering c (c.assert p assertion) := by
  apply Reworks.same
  · rw [core_assert]
  · rw [core_assert]

end Reworks

/-! ## Broadcasts and removals -/

/-- The messages to one client that were transmitted, with what they were transmitted through. -/
def directed (events : List RouterEvent) :
    List (ListenerTransport × ConnectionInfo × MessageBuffer) :=
  events.filterMap fun
    | .transmit pTransport connectionInfo message _ =>
      if message.header.dstClientId = kBroadcastClientId then none
      else some (pTransport, connectionInfo, message)
    | _ => none

structure Withdraws (c c' : RouterCtx) : Prop where
  withdrawal : Withdrawal c c'
  directed : directed c'.events = directed c.events

theorem Withdraws.refl (c : RouterCtx) : Withdraws c c := ⟨.same rfl rfl, rfl⟩

theorem Withdraws.trans {c₁ c₂ c₃ : RouterCtx} (h : Withdraws c₁ c₂) (h' : Withdraws c₂ c₃) :
    Withdraws c₁ c₃ :=
  ⟨h.withdrawal.trans h'.withdrawal, h'.directed.trans h.directed⟩

variable {env : RouterEnv} {message : MessageBuffer}

variable {clientId : ClientId} {c : RouterCtx}

theorem withdraws_transmitMessage {pTransport : ListenerTransport} {connectionInfo : ConnectionInfo}
    (h : message.header.dstClientId = kBroadcastClientId) :
    Withdraws c (c.transmitMessage env pTransport connectionInfo message).2 :=
  ⟨.same rfl rfl, by simp [transmitMessage, emit, directed, h]⟩

theorem withdraws_transmitToClients {pTransport : ListenerTransport}
    {clients : List (Σ _ : ClientId, ConnectionInfo)}
    (h : message.header.dstClientId = kBroadcastClientId) (r : ClientId × RouterCtx) :
    Withdraws r.2 (transmitToClients env message pTransport clients r).2 := by
  induction clients generalizing r with
  | nil => exact .refl _
  | cons e clients ih =>
    rw [transmitToClients]
    split
    · have hsent : Withdraws r.2 (r.2.transmitMessage env pTransport e.2 message).2 :=
        withdraws_transmitMessage h
      exact hsent.trans (ih (_, (r.2.transmitMessage env pTransport e.2 message).2))
    · exact ih _

theorem withdraws_transmitToTransports {pSourceTransport : Option ListenerTransport}
    {transports : List (Σ _ : TransportHandle, TransportContext)}
    (h : message.header.dstClientId = kBroadcastClientId) (r : ClientId × RouterCtx) :
    Withdraws r.2
      (transmitToTransports env message pSourceTransport transports r).2 := by
  induction transports generalizing r with
  | nil => exact .refl _
  | cons e transports ih =>
    rw [transmitToTransports]
    apply Withdraws.trans _ (ih _)
    split
    · dsimp only
      split
      · exact ⟨.same rfl rfl, by simp [emit, directed]⟩
      · exact .refl _
    · exact withdraws_transmitToClients h r

variable {c' : RouterCtx}

theorem withdraws_removeClientWith {send : MessageBuffer → RouterCtx → Option RouterCtx}
    (hsend : ∀ m c c', m.header.dstClientId = kBroadcastClientId → send m c = some c' →
      Withdraws c c')
    (h : removeClientWith send clientId c = some c') : Withdraws c c' := by
  unfold removeClientWith at h
  split at h
  · cases h
    exact .refl c
  · rename_i client hclient
    obtain ⟨c₂, hannounced, h⟩ := Option.bind_eq_some_iff.mp h
    have hbefore :
        Withdraws (c.setTransportClients client.connectionInfo.handle (·.erase clientId)) c₂ := by
      split at hannounced
      · obtain ⟨manager, -, hannounced⟩ := Option.bind_eq_some_iff.mp hannounced
        apply Withdraws.trans _ (hsend _ _ _ rfl hannounced)
        exact ⟨.same rfl rfl, by simp [emit, directed]⟩
      · cases hannounced
        exact .refl _
    split at h
    · cases h
      refine ⟨.removeClient hclient hbefore.withdrawal, ?_⟩
      apply hbefore.directed.trans
      unfold setTransportClients
      split <;> rfl
    · cases h

theorem withdraws_sendBroadcastMessage {depth : ℕ} {pSourceTransport : Option ListenerTransport}
    (hmessage : message.header.dstClientId = kBroadcastClientId)
    (h : sendBroadcastMessage env depth pSourceTransport message c = some c') :
    Withdraws c c' := by
  induction depth generalizing pSourceTransport message c c' with
  | zero => cases h
  | succ depth ih =>
    rw [sendBroadcastMessage] at h
    have hpass : Withdraws c (transmitToTransports env message pSourceTransport
        c.core.transportMap.entries (kBroadcastClientId, c)).2 :=
      withdraws_transmitToTransports hmessage (kBroadcastClientId, c)
    split at h
    · exact hpass.trans (withdraws_removeClientWith (fun _ _ _ hm hsend => ih hm hsend) h)
    · cases h
      exact hpass

theorem withdraws_removeClient (h : c.removeClient env clientId = some c') : Withdraws c c' :=
  withdraws_removeClientWith (fun _ _ _ hm hsend => withdraws_sendBroadcastMessage hm hsend) h

section Calls

variable {unclaimed : Prop} {entering : Option ClientId} {connectionInfo : ConnectionInfo}

variable {env : RouterEnv}

variable {c c' : RouterCtx}

theorem reworks_removeClient {clientId : ClientId} (h : c.removeClient env clientId = some c') :
    Reworks unclaimed connectionInfo entering c c' :=
  .withdraw (withdraws_removeClient h).withdrawal

theorem reworks_removeOnError {clientId : ClientId} {sent : Result × RouterCtx}
    (h : removeOnError env clientId sent = some c') :
    Reworks unclaimed connectionInfo entering sent.2 c' := by
  unfold removeOnError at h
  split at h
  · exact reworks_removeClient h
  · cases h
    exact .refl _

theorem reworks_updateClients {currentTimeInMs : ℕ}
    (h : c.updateClients env currentTimeInMs = some c') :
    Reworks unclaimed connectionInfo entering c c' := by
  unfold updateClients at h
  split at h
  · obtain ⟨c₁, hloop, hping⟩ := Option.bind_eq_some_iff.mp h
    have hrounds : Reworks unclaimed connectionInfo entering c c₁ := by
      apply foldlM_related (R := Reworks unclaimed connectionInfo entering) .refl .trans _ hloop
      intro c clientId c' hround
      unfold updateClient at hround
      split at hround
      · cases hround
        exact .refl c
      · rename_i client hclient
        have hcounted : Reworks unclaimed connectionInfo entering c
            (c.setClient clientId (countPing client)) := by
          apply Reworks.setClient hclient
          unfold countPing
          split <;> rfl
        apply hcounted.trans
        dsimp only at hround
        split at hround
        · exact reworks_removeClient hround
        · cases hround
          exact .refl _
    apply hrounds.trans
    apply Reworks.trans _ (.withdraw (withdraws_sendBroadcastMessage rfl hping).withdrawal)
    exact .same rfl rfl
  · cases h
    exact .refl c

/-! ## What the client thread enters -/

theorem reworks_transmitUntilReady {pTransport : ListenerTransport} {info : ConnectionInfo}
    {message : MessageBuffer} {n : ℕ} {r : Result × RouterCtx}
    (h : c.transmitUntilReady env pTransport info message n = some r) :
    Reworks unclaimed connectionInfo entering c r.2 := by
  induction n generalizing c with
  | zero => cases h
  | succ n ih =>
    have hsent : Reworks unclaimed connectionInfo entering c
        (c.transmitMessage env pTransport info message).2 := .same rfl rfl
    rw [transmitUntilReady] at h
    split at h
    · exact hsent.trans (ih h)
    · cases h
      exact hsent

theorem reworks_processSystemMessage {m : MessageContext} {client : Option ClientContext}
    {queryClientInfo : Bool} {r : Bool × RouterCtx}
    (hclient : ∀ x, client = some x → c.core.clientMap.lookup m.header.srcClientId = some x)
    (h : c.processSystemMessage env m client queryClientInfo = some r) :
    Reworks unclaimed connectionInfo entering c r.2 := by
  unfold processSystemMessage at h
  split at h
  · cases h
    exact .refl _
  split at h
  · obtain ⟨c', hremove, rfl⟩ := Option.map_eq_some_iff.mp h
    split at hremove
    · exact reworks_removeClient hremove
    · cases hremove
      exact .refl _
  · split at h
    · cases h
      exact .setClient (hclient _ rfl) rfl
    · cases h
      exact .refl _
  · apply (reworks_assert c (client.isSome = true) .clientInfoSender).trans
    have hcore := core_assert c (client.isSome = true) .clientInfoSender
    generalize c.assert (client.isSome = true) .clientInfoSender = c₁ at h hcore ⊢
    rw [← hcore] at hclient
    split at h
    · cases h
      exact .setClient (hclient _ rfl) rfl
    · cases h
      exact .refl _
  · cases h
    exact .refl _

theorem reworks_queryClientInfo {m : MessageContext} {pTransport : ListenerTransport}
    {r : Bool × RouterCtx}
    (h : (if r.1 then
        let sent := r.2.transmitMessage env pTransport m.connectionInfo
          (r.2.queryClientInfoMessage m.header.srcClientId)
        if sent.1 = .error then removeClient env m.header.srcClientId sent.2
        else some sent.2
      else some r.2) = some c') : Reworks unclaimed connectionInfo entering r.2 c' := by
  split at h
  · have hsent : Reworks unclaimed connectionInfo entering r.2
        (r.2.transmitMessage env pTransport m.connectionInfo
          (r.2.queryClientInfoMessage m.header.srcClientId)).2 := .same rfl rfl
    apply hsent.trans
    dsimp only at h
    split at h
    · exact reworks_removeClient h
    · cases h
      exact .refl _
  · cases h
    exact .refl _

end Calls

/-- The client that the client thread calls `AddClient` for when it works on a message, unless that
client is in the table already: one that connects, or the sender of a system message.
routerCore.cpp:187-198, 398-450 -/
def enteringClient (env : RouterEnv) (m : MessageContext) (c : RouterCtx) : Option ClientId :=
  (if m.IsClientManagement then
    if (m.message.IsOutOfBand → m.message.IsValidOutOfBand) ∧
        m.header.messageId = connectRequest ∧
        m.header.payloadSize = kConnectRequestPayloadSize ∧
        c.findExternalClientByConnection m.connectionInfo = none then
      (c.core.pClientManager.bind fun manager => manager.registerClient env.draws).bind fun r =>
        if r.1 = .success then some r.2.1 else none
    else none
  else if m.header.protocolId = Protocol.system ∧
      SystemMessage.ofCode m.header.messageId ≠ .clientDisconnected then
    some m.header.srcClientId
  else none).filter (· ∉ c.core.clientMap)

/-- The client that the client manager registers when the client thread works on a ConnectRequest.
routerCore.cpp:398-450 -/
def registeringClient (env : RouterEnv) (m : MessageContext) (c : RouterCtx) : Option ClientId :=
  if m.IsClientManagement ∧ m.connectionInfo.handle ∈ c.core.transportMap ∧
      (m.message.IsOutOfBand → m.message.IsValidOutOfBand) ∧
      m.header.messageId = connectRequest ∧
      m.header.payloadSize = kConnectRequestPayloadSize ∧
      c.findExternalClientByConnection m.connectionInfo = none then
    (c.core.pClientManager.bind fun manager => manager.registerClient env.draws).bind fun r =>
      if r.1 = .success then some r.2.1 else none
  else none

def ConnectsUnclaimed (env : RouterEnv) (m : MessageContext) (c : RouterCtx) : Prop :=
  ∀ clientId ∈ registeringClient env m c, Unclaimed c.core clientId m.connectionInfo

variable {m : MessageContext}

theorem enteringClient_connecting {manager : ListenerClientManager}
    (hmanagement : m.IsClientManagement)
    (hvalid : m.message.IsOutOfBand → m.message.IsValidOutOfBand)
    (hcode : m.header.messageId = connectRequest)
    (hsize : m.header.payloadSize = kConnectRequestPayloadSize)
    (hnew : c.findExternalClientByConnection m.connectionInfo = none)
    (hregistered : (c.core.pClientManager.bind fun manager => manager.registerClient env.draws) =
      some (.success, clientId, manager))
    (hclient : clientId ∉ c.core.clientMap) : enteringClient env m c = some clientId := by
  rw [enteringClient, if_pos hmanagement, if_pos ⟨hvalid, hcode, hsize, hnew⟩, hregistered]
  simp [hclient]

theorem reworks_connectClient {r : Result × ClientId × RouterCtx}
    (hmanagement : m.IsClientManagement) (hlive : m.connectionInfo.handle ∈ c.core.transportMap)
    (hvalid : m.message.IsOutOfBand → m.message.IsValidOutOfBand)
    (hcode : m.header.messageId = connectRequest)
    (h : c.connectClient env m = some r) :
    Reworks (ConnectsUnclaimed env m c) m.connectionInfo (enteringClient env m c) c r.2.2 := by
  unfold connectClient at h
  split at h
  · rename_i hsize
    split at h
    · cases h
      exact reworks_assert _ _ _
    · rename_i hnew
      obtain ⟨⟨result, clientId, manager⟩, hregistered, h⟩ := Option.bind_eq_some_iff.mp h
      dsimp only at h
      split at h
      · rename_i hresult
        subst hresult
        obtain ⟨c', hsend, rfl⟩ := Option.map_eq_some_iff.mp h
        let managed : RouterCtx :=
          { c with core := { c.core with pClientManager := some manager } }
        have hmanaged : Reworks (ConnectsUnclaimed env m c) m.connectionInfo
            (enteringClient env m c) c
            (managed.assert (clientId ≠ kBroadcastClientId) .externalClientId) := by
          apply Reworks.trans (.same rfl rfl : Reworks _ _ _ c managed)
          exact reworks_assert managed _ _
        apply hmanaged.trans
        apply Reworks.trans _ (.withdraw (withdraws_sendBroadcastMessage rfl hsend).withdrawal)
        apply Reworks.addClient
        · rw [core_assert]
          exact enteringClient_connecting hmanagement hvalid hcode hsize hnew hregistered
        · rw [core_assert]
          intro hunclaimed
          apply hunclaimed clientId
          rw [registeringClient, if_pos ⟨hmanagement, hlive, hvalid, hcode, hsize, hnew⟩,
            hregistered]
          rfl
      · cases h
        exact .refl _
  · cases h
    exact .refl _

theorem reworks_processClientManagementMessage (hmanagement : m.IsClientManagement)
    (h : c.processClientManagementMessage env m = some c') :
    Reworks (ConnectsUnclaimed env m c) m.connectionInfo (enteringClient env m c) c c' := by
  unfold processClientManagementMessage at h
  split at h
  · cases h
    exact .refl _
  rename_i context hcontext
  split_ifs at h with hinvalid _ hconnect
  · obtain ⟨r, hsent, rfl⟩ := Option.map_eq_some_iff.mp h
    exact reworks_transmitUntilReady hsent
  · obtain ⟨r, hsent, rfl⟩ := Option.map_eq_some_iff.mp h
    exact reworks_transmitUntilReady hsent
  · obtain ⟨⟨result, clientId, c₁⟩, hconnected, h⟩ := Option.bind_eq_some_iff.mp h
    have hvalid : m.message.IsOutOfBand → m.message.IsValidOutOfBand := fun hband =>
      not_not.mp fun hnot => hinvalid ⟨hband, hnot⟩
    have hlive : m.connectionInfo.handle ∈ c.core.transportMap :=
      AList.lookup_isSome.mp (by rw [hcontext]; rfl)
    apply (reworks_connectClient hmanagement hlive hvalid hconnect hconnected).trans
    have hsent : Reworks (ConnectsUnclaimed env m c) m.connectionInfo (enteringClient env m c) c₁
        (c₁.transmitMessage env context.pTransport m.connectionInfo
          (connectResponse m result clientId)).2 := .same rfl rfl
    apply hsent.trans
    dsimp only at h
    split at h
    · exact reworks_removeClient h
    · cases h
      exact .refl _
  · have hsent : Reworks (ConnectsUnclaimed env m c) m.connectionInfo (enteringClient env m c) c
        (c.transmitMessage env context.pTransport m.connectionInfo
          (clientResponse m disconnectResponse [] c)).2 :=
      .same rfl rfl
    exact hsent.trans (reworks_removeClient h)
  · cases h
    exact .refl _
  · obtain ⟨r, hsent, h⟩ := Option.bind_eq_some_iff.mp h
    exact (reworks_transmitUntilReady hsent).trans (reworks_removeOnError h)
  · cases h
    exact .refl _
  · obtain ⟨r, hsent, h⟩ := Option.bind_eq_some_iff.mp h
    exact (reworks_transmitUntilReady hsent).trans (reworks_removeOnError h)
  · cases h
    exact .refl _

theorem reworks_processRouterMessage {unclaimed : Prop} (hmanagement : ¬ m.IsClientManagement)
    (h : c.processRouterMessage env m = some c') :
    Reworks unclaimed m.connectionInfo (enteringClient env m c) c c' := by
  unfold processRouterMessage at h
  split at h
  · cases h
    exact .refl _
  split at h
  · rename_i hsystem
    obtain ⟨r, hswitch, hquery⟩ := Option.bind_eq_some_iff.mp h
    apply Reworks.trans _ (reworks_queryClientInfo hquery)
    apply (reworks_assert c (m.header.dstClientId = c.core.clientId ∨
      m.header.dstClientId = kBroadcastClientId) .routerDestination).trans
    have hcore := core_assert c (m.header.dstClientId = c.core.clientId ∨
      m.header.dstClientId = kBroadcastClientId) .routerDestination
    generalize c.assert (m.header.dstClientId = c.core.clientId ∨
      m.header.dstClientId = kBroadcastClientId) .routerDestination = c₁ at hswitch hcore ⊢
    -- a sender without a record is entered, and the switch then has none for it
    split at hswitch
    · rename_i hnew
      rw [Bool.and_eq_true] at hnew
      have hnone : c₁.findClientById m.header.srcClientId = none :=
        Option.isNone_iff_eq_none.mp hnew.1
      have hkind := of_decide_eq_true hnew.2
      have hentered : Reworks unclaimed m.connectionInfo (enteringClient env m c) c₁
          (c₁.addClient m.header.srcClientId m.connectionInfo false) := by
        apply Reworks.addClient
        · intro hsender
          rw [hcore] at hsender
          simp [enteringClient, hmanagement, hsystem, hkind, hsender]
        · intro _ info hinfo
          rw [recorded, show c₁.core.clientMap.lookup m.header.srcClientId = none from hnone]
            at hinfo
          cases hinfo
      apply hentered.trans
      apply reworks_processSystemMessage _ hswitch
      intro client hclient
      rw [hnone] at hclient
      cases hclient
    · exact reworks_processSystemMessage (fun _ hclient => hclient) hswitch
  · cases h
    exact .refl _

theorem reworks_processMessage (h : Router.processMessage env m c = some c') :
    Reworks (ConnectsUnclaimed env m c) m.connectionInfo (enteringClient env m c) c c' := by
  unfold Router.processMessage at h
  split at h
  · rename_i hmanagement
    exact reworks_processClientManagementMessage hmanagement h
  · rename_i hmanagement
    exact reworks_processRouterMessage hmanagement h

end DevDriver.Analysis
