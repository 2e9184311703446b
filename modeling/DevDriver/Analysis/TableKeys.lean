import DevDriver.Analysis.ManagerSteps

/-!
# The keys of the session table

Every entry of the session table is filed under the id of its session.  All steps of a manager
keep it so, but one: a SynAck moves the session that its payload names to the id of its header
before the session decides whether to take this id over, which it does in SynSent only.
-/

namespace DevDriver.Analysis

open Library Model

variable {ρ : Type}

def Created (s : SessionManager ρ) : Prop :=
  ∀ id pSession, s.sessions.lookup id = some pSession → pSession < s.nextSession

variable {s : SessionManager ρ}

theorem Created.of_values (h : Created s) {pSession : SessionRef}
    (hmem : pSession ∈ values s.sessions) : pSession < s.nextSession := by
  obtain ⟨id, hid⟩ := mem_values.mp hmem
  exact h id pSession hid

def KeysMatch (s : SessionManager ρ) : Prop :=
  ∀ id pSession, s.sessions.lookup id = some pSession → (s.objects pSession).sessionId = id

structure Keeps (s s' : SessionManager ρ) : Prop where
  lookup : ∀ id pSession, s'.sessions.lookup id = some pSession →
    s.sessions.lookup id = some pSession
  sessionId : ∀ pSession, (s'.objects pSession).sessionId = (s.objects pSession).sessionId
  nextSession : s'.nextSession = s.nextSession

theorem Keeps.refl (s : SessionManager ρ) : Keeps s s := ⟨fun _ _ => id, fun _ => rfl, rfl⟩

theorem Keeps.trans {a b c : SessionManager ρ} (hab : Keeps a b) (hbc : Keeps b c) :
    Keeps a c :=
  ⟨fun id r h => hab.lookup id r (hbc.lookup id r h),
    fun r => (hbc.sessionId r).trans (hab.sessionId r),
    hbc.nextSession.trans hab.nextSession⟩

theorem Keeps.created {s' : SessionManager ρ} (hk : Keeps s s') (h : Created s) : Created s' := by
  intro id r hr
  rw [hk.nextSession]
  exact h id r (hk.lookup id r hr)

theorem Keeps.keysMatch {s' : SessionManager ρ} (hk : Keeps s s') (h : KeysMatch s) :
    KeysMatch s' := fun id r hr => (hk.sessionId r).trans (h id r (hk.lookup id r hr))

theorem keeps_onSession {pSession : SessionRef} {f : Ctx ρ → Ctx ρ} {c : ManagerCtx ρ}
    (hid : (f ⟨c.manager.objects pSession, c.fx⟩).session.sessionId =
      (c.manager.objects pSession).sessionId) :
    Keeps c.manager (c.onSession pSession f).manager := by
  refine ⟨fun _ _ => id, fun r => ?_, rfl⟩
  rcases eq_or_ne r pSession with rfl | hne
  · simpa [ManagerCtx.onSession] using hid
  · simp [ManagerCtx.onSession, hne]

theorem keeps_removeEntry (sessionId : SessionId) (c : ManagerCtx ρ) :
    Keeps c.manager (c.removeEntry sessionId).manager :=
  ⟨fun _ _ => lookup_of_erase, fun _ => rfl, rfl⟩

theorem keeps_foldl {f : ManagerCtx ρ → Entry → ManagerCtx ρ}
    (hf : ∀ c entry, Keeps c.manager (f c entry).manager) (l : List Entry) (c : ManagerCtx ρ) :
    Keeps c.manager (l.foldl f c).manager := by
  induction l generalizing c with
  | nil => exact .refl _
  | cons entry l ih => exact (hf c entry).trans (ih _)

theorem created_admitSession {m : SessionManager ρ} (h : Created m) {s : Session ρ}
    (lastSessionId : UInt32) {sessions : SessionTable} (hsessions : FiledOrNot s m sessions) :
    Created (admitSession s lastSessionId sessions m) := by
  intro id r hr
  change r < m.nextSession + 1
  rcases hsessions.lookup hr with hold | ⟨-, rfl⟩
  · exact (h id r hold).trans (Nat.lt_succ_self _)
  · exact Nat.lt_succ_self _

theorem keysMatch_admitSession {m : SessionManager ρ} (hcreated : Created m) (h : KeysMatch m)
    {s : Session ρ} (lastSessionId : UInt32) {sessions : SessionTable}
    (hsessions : FiledOrNot s m sessions) :
    KeysMatch (admitSession s lastSessionId sessions m) := by
  intro id r hr
  change (Function.update m.objects m.nextSession s r).sessionId = id
  rcases hsessions.lookup hr with hold | ⟨hid, rfl⟩
  · rw [Function.update_of_ne (hcreated id r hold).ne]
    exact h id r hold
  · rw [Function.update_self]
    exact hid.symm

/-! ## Steps -/

section Steps

variable [RoundTripTime ρ]

variable {s : SessionManager ρ} {env : ManagerEnv} {c c' : ManagerCtx ρ}

/-- No other call of the manager moves a session to another key. -/
theorem keeps_run {a : ManagerAction} (h : a.run env c = some c')
    (hmessage : ∀ m, a ≠ .handleReceivedSessionMessage m)
    (hestablish : ∀ info, a ≠ .establishSessionForClient info) : Keeps c.manager c'.manager := by
  cases a with
  | establishSessionForClient info => exact absurd rfl (hestablish info)
  | handleReceivedSessionMessage m => exact absurd rfl (hmessage m)
  | updateSessions =>
    cases h
    refine keeps_foldl (fun c entry => ?_) _ c
    have hupdate : Keeps c.manager (c.onSession entry.2 (update entry.2
        (env.lastReference entry.2) (env.calls entry.2))).manager :=
      keeps_onSession (sessionId_update _ _ _ _)
    dsimp only [updateSession]
    split
    · exact hupdate.trans (keeps_removeEntry _ _)
    · exact hupdate
  | handleClientDisconnection dstClientId =>
    cases h
    refine keeps_foldl (fun c entry => ?_) _ c
    split
    · exact keeps_onSession (winds_shutdown _ _).sessionId
    · exact .refl _
  | registerProtocolServer server =>
    cases h
    unfold registerProtocolServer
    split
    · exact .refl _
    · exact ⟨fun _ _ => id, fun _ => rfl, rfl⟩
  | unregisterProtocolServer server =>
    cases h
    have hentry : ∀ (c : ManagerCtx ρ) (entry : Entry),
        Keeps c.manager (unregisterEntry server c entry).manager := by
      intro c entry
      unfold unregisterEntry
      split
      · exact keeps_onSession (sessionId_handleUnregisterProtocolServer _ _ _ _)
      · exact .refl _
    have hall := keeps_foldl hentry c.manager.sessions.entries c
    rcases unregisterProtocolServer_cases server c with h | h
    · rw [h]
      exact .refl _
    · rw [h]
      exact ⟨hall.lookup, hall.sessionId, hall.nextSession⟩
  | shutdown sessionId reason =>
    obtain ⟨pSession, -, rfl⟩ := Option.map_eq_some_iff.mp h
    exact keeps_onSession (winds_shutdown _ _).sessionId
  | userCall pSession call =>
    obtain ⟨-, ⟨⟩⟩ := Option.ite_none_right_eq_some.mp h
    exact keeps_onSession (quiet_userCall _ _).sessionId

theorem created_handled {m : MessageBuffer} (h : Handled m env c c') (hc : Created c.manager) :
    Created c'.manager := by
  cases h with
  | answered => exact hc
  | refused hkind hs hsessions => exact created_admitSession hc _ hsessions
  | opened hkind hserver hs hfree hfx =>
    rw [onSession_admitSession]
    exact created_admitSession hc _ (hs.filedOrNot hkind hfree _ _)
  | delivered => exact hc
  | moved hkind hnone hlookup halloc hfx =>
    intro id r hr
    exact hc.of_values ((values_rekey_perm hlookup hnone).mem_iff.mp (mem_values.mpr ⟨id, hr⟩))
  | lost => exact fun id r hr => hc id r (lookup_of_erase hr)

/-- Only a session that waits for a SynAck is moved to another id. -/
def MovesInSynSent (s : SessionManager ρ) (a : ManagerAction × ManagerEnv) : Prop :=
  ∀ m pSession, a.1 = .handleReceivedSessionMessage m → m.kind = .synAck →
    s.sessions.lookup m.header.sessionId = none →
    s.sessions.lookup (initialSessionId m) = some pSession → a.2.allocEntry = true →
    (s.objects pSession).sessionState = .synSent

def movesInSynSent (s : SessionManager ρ) (a : ManagerAction × ManagerEnv) : Bool :=
  match a.1 with
  | .handleReceivedSessionMessage m =>
    (m.kind = .synAck ∧ s.sessions.lookup m.header.sessionId = none ∧ a.2.allocEntry) →
      (s.sessions.lookup (initialSessionId m)).all fun pSession =>
        (s.objects pSession).sessionState = .synSent
  | _ => true

omit [RoundTripTime ρ] in
theorem movesInSynSent_of_test {a : ManagerAction × ManagerEnv} (h : movesInSynSent s a = true) :
    MovesInSynSent s a := by
  intro m pSession ha hkind hnone hlookup halloc
  unfold movesInSynSent at h
  rw [ha] at h
  have hall := of_decide_eq_true h ⟨hkind, hnone, halloc⟩
  rw [hlookup] at hall
  exact of_decide_eq_true hall

theorem keysMatch_handled {m : MessageBuffer} (h : Handled m env c c') (hc : Created c.manager)
    (hk : KeysMatch c.manager)
    (hmoves : MovesInSynSent c.manager (.handleReceivedSessionMessage m, env)) :
    KeysMatch c'.manager := by
  cases h with
  | answered => exact hk
  | refused hkind hs hsessions => exact keysMatch_admitSession hc hk _ hsessions
  | opened hkind hserver hs hfree hfx =>
    rw [onSession_admitSession]
    exact keysMatch_admitSession hc hk _ (hs.filedOrNot hkind hfree _ _)
  | @delivered pSession fx hselected hlookup hfx =>
    have hsame : (handleMessage pSession m
        ⟨c.manager.objects pSession, fx⟩).session.sessionId =
          (c.manager.objects pSession).sessionId := by
      rw [sessionId_handleMessage, adoptedSessionId, hk _ _ hlookup]
      exact ite_self _
    exact (keeps_onSession (c := ⟨c.manager, fx⟩) hsame).keysMatch hk
  | @moved pSession fx hkind hnone hlookup halloc hfx =>
    have hadopts : (handleMessage pSession m
        ⟨c.manager.objects pSession, fx⟩).session.sessionId = m.header.sessionId := by
      rw [sessionId_handleMessage, adoptedSessionId]
      exact if_pos ⟨hkind, hmoves m pSession rfl hkind hnone hlookup halloc⟩
    intro id r hr
    change (Function.update c.manager.objects pSession _ r).sessionId = id
    rcases eq_or_ne id m.header.sessionId with rfl | hnew
    · obtain rfl := Option.some.inj ((lookup_rekey _).symm.trans hr)
      rw [Function.update_self]
      exact hadopts
    · have hold : id ≠ initialSessionId m := by
        rintro rfl
        cases (lookup_rekey_self pSession hnew).symm.trans hr
      have hbefore : c.manager.sessions.lookup id = some r :=
        (lookup_rekey_of_ne pSession hold hnew).symm.trans hr
      -- another entry holds another session, as its id is another
      have hne : r ≠ pSession := by
        rintro rfl
        exact hold ((hk _ _ hbefore).symm.trans (hk _ _ hlookup))
      rw [Function.update_of_ne hne]
      exact hk _ _ hbefore
  | @lost pSession hkind hnone hlookup halloc =>
    have herased : KeysMatch { c.manager with
        sessions := c.manager.sessions.erase (initialSessionId m) } :=
      fun id r hr => hk id r (lookup_of_erase hr)
    exact (keeps_onSession (c := ⟨_, c.fx⟩) (winds_shutdown .error _).sessionId).keysMatch herased

/-! ## Runs -/

theorem keysMatch_step {t : SessionManager ρ} {a : ManagerAction × ManagerEnv} {fx : Effects}
    (h : (sessionManagerMachine ρ).step s a = some (t, fx)) (hc : Created s) :
    Created t ∧ (KeysMatch s → MovesInSynSent s a → KeysMatch t) := by
  obtain ⟨c, hrun, hout⟩ := Option.map_eq_some_iff.mp h
  cases hout
  obtain ⟨action, env⟩ := a
  by_cases hmessage : ∃ m, action = .handleReceivedSessionMessage m
  · obtain ⟨m, rfl⟩ := hmessage
    have hhandled := handled_of_eq hrun
    exact ⟨created_handled hhandled hc, fun hk hmoves => keysMatch_handled hhandled hc hk hmoves⟩
  · by_cases hestablish : ∃ info, action = .establishSessionForClient info
    · obtain ⟨info, rfl⟩ := hestablish
      rcases (establishSessionForClient_cases hrun).2 with hsame | ⟨s', last, sessions, hs, -, hf⟩
      · rw [hsame]
        exact ⟨hc, fun hk _ => hk⟩
      · rw [hs]
        exact ⟨created_admitSession hc last hf, fun hk _ => keysMatch_admitSession hc hk last hf⟩
    · have hkeeps := keeps_run hrun (fun m hm => hmessage ⟨m, hm⟩)
        fun info hinfo => hestablish ⟨info, hinfo⟩
      exact ⟨hkeeps.created hc, fun hk _ => hkeeps.keysMatch hk⟩

theorem created_init (h : (sessionManagerMachine ρ).init s) : Created s ∧ KeysMatch s := by
  obtain ⟨clientId, lastSessionId, rfl⟩ := h
  have hempty : ∀ (id : SessionId) (r : SessionRef),
      (∅ : SessionTable).lookup id = some r → False := fun id r hr => nomatch hr
  exact ⟨fun id r hr => (hempty id r hr).elim, fun id r hr => (hempty id r hr).elim⟩

theorem created_reachable (h : (sessionManagerMachine ρ).Reachable s) : Created s :=
  h.invariant (fun _ h => (created_init h).1) fun _ _ _ _ _ hc hstep => (keysMatch_step hstep hc).1

/-- A table in order: entries are filed under the ids of their sessions,
no session is filed twice, the assertion of `FindOpenSession` holds for every id, and an open
session is found under its own id. -/
structure TableKeys (s : SessionManager ρ) : Prop where
  sessionId : ∀ id pSession, s.sessions.lookup id = some pSession →
    (s.objects pSession).sessionId = id
  unique : ∀ id id' pSession, s.sessions.lookup id = some pSession →
    s.sessions.lookup id' = some pSession → id = id'
  asserted : ∀ id fx, checkOpenSession id ⟨s, fx⟩ = ⟨s, fx⟩
  found : ∀ id pSession, s.sessions.lookup id = some pSession →
    (s.objects pSession).sessionState ≠ .closed →
    findOpenSession (s.objects pSession).sessionId s = some pSession

omit [RoundTripTime ρ] in
theorem KeysMatch.tableKeys (hk : KeysMatch s) : TableKeys s where
  sessionId := hk
  unique id id' r hr hr' := (hk id r hr).symm.trans (hk id' r hr')
  asserted id fx := by
    unfold checkOpenSession
    split
    · rename_i r hr
      have hcheck : decide ((s.objects r).sessionId = id) = true := decide_eq_true (hk id r hr)
      simp only [ManagerCtx.check, hcheck, Effects.check_true]
    · rfl
  found id r hr hopen := by
    rw [hk id r hr]
    exact findOpenSession_eq_some.mpr ⟨hr, hopen⟩

/-- In a run in which every SynAck that moves a session finds it in SynSent, the entries of the
table are filed under the ids of their sessions throughout. -/
theorem session_table_keys {s₀ s : SessionManager ρ}
    {tr : List (SessionManager ρ × (ManagerAction × ManagerEnv) × Effects)}
    (h : (sessionManagerMachine ρ).Trace s₀ tr s) (hinit : (sessionManagerMachine ρ).init s₀)
    (hmoves : ∀ x ∈ tr, MovesInSynSent x.1 x.2.1) : TableKeys s := by
  have hboth : Created s ∧ KeysMatch s :=
    h.invariant (P := fun s => Created s ∧ KeysMatch s) (created_init hinit) hmoves
      fun s t a o hs ha hstep =>
        have hnext := keysMatch_step hstep hs.1
        ⟨hnext.1, hnext.2 hs.2 ha⟩
  exact hboth.2.tableKeys

end Steps

def synFromClient : MessageBuffer where
  header := ⟨1, 2, Protocol.session, SessionMessage.syn.toCode, 1, 8, 1, 1⟩
  payload := writeBytes (SynPayload.encode ⟨1, 16, 2, 1⟩) MessageBuffer.zero.payload

def synAckFor (initialSessionId : SessionId) : MessageBuffer where
  header := ⟨1, 2, Protocol.session, SessionMessage.synAck.toCode, 1, 16, 9, 1⟩
  payload := writeBytes (SynAckPayload.encode ⟨1, initialSessionId, 1, 2⟩)
    MessageBuffer.zero.payload

def synHandled : List (ManagerAction × ManagerEnv) :=
  [(.registerProtocolServer ⟨5, 16, 1, 1⟩, calmEnv),
    (.handleReceivedSessionMessage synFromClient, calmEnv)]

def clientConnected : List (ManagerAction × ManagerEnv) :=
  [(.establishSessionForClient ⟨16, 1, 1, 1⟩, calmEnv),
    (.handleReceivedSessionMessage (synAckFor 1), calmEnv)]

theorem reachable_manager (clientId : ClientId) (lastSessionId : UInt32) :
    (sessionManagerMachine ℚ).Reachable (.new ℚ clientId lastSessionId) :=
  .init ⟨clientId, lastSessionId, rfl⟩

theorem session_table_keys_connected : ∃ s : SessionManager ℚ,
    (sessionManagerMachine ℚ).run (.new ℚ 2 0) clientConnected = some s ∧
      s.sessions.lookup 9 = some 0 ∧ TableKeys s := by
  obtain ⟨s, hs, hmoved⟩ := (sessionManagerMachine ℚ).exists_of_run (.new ℚ 2 0) clientConnected
    (fun s => s.sessions.lookup 9 = some 0) (by decide +kernel)
  have htest : ((sessionManagerMachine ℚ).transitions (.new ℚ 2 0) clientConnected).all
      (fun x => movesInSynSent x.1 x.2.1) = true := by
    decide +kernel
  refine ⟨s, hs, hmoved, session_table_keys (.of_run hs) ⟨2, 0, rfl⟩ ?_⟩
  exact fun x hx => movesInSynSent_of_test (List.all_eq_true.mp htest x hx)

/-- A SynAck moves a server session, which keeps its id. -/
theorem server_session_moved : ¬ ∀ s : SessionManager ℚ,
    (sessionManagerMachine ℚ).Reachable s → TableKeys s := by
  intro hall
  obtain ⟨s, hs, hp⟩ := (reachable_manager 2 0).exists_of_run
    (synHandled ++ [(.handleReceivedSessionMessage (synAckFor 65537), calmEnv)])
    (fun s => s.sessions.lookup 9 = some 0 ∧ (s.objects 0).sessionId = 65537)
    (by decide +kernel)
  obtain ⟨hlookup, hid⟩ := of_decide_eq_true hp
  exact absurd (hid.symm.trans ((hall s hs).sessionId 9 0 hlookup)) (by decide)

end DevDriver.Analysis
