import DevDriver.Analysis.Drain
import DevDriver.Analysis.ManagerSteps
import DevDriver.Model.Connection

/-!
# Resets and draining

A manager that finds no open session for a message answers it with a reset, whatever the message is.
-/

namespace DevDriver.Analysis

open Library Model Weight Effects

variable {ρ : Type}

/-! ## The weight of a manager -/

def managerWeight (s : SessionManager ρ) : Weight where
  first := ((values s.sessions).map fun r => (sessionWeight (s.objects r)).first).sum
  second := ((values s.sessions).map fun r => (sessionWeight (s.objects r)).second).sum
  third := 0

theorem map_update_objects (f : Session ρ → ℕ) (objects : SessionRef → Session ρ)
    (r : SessionRef) (s : Session ρ) :
    (fun r' => f (Function.update objects r s r')) =
      Function.update (fun r' => f (objects r')) r (f s) :=
  Function.comp_update f objects r s

theorem managerWeight_update_le (objects : SessionRef → Session ρ) {s : Session ρ}
    (hs : extraAnswers s.sessionState = 0) (r : SessionRef) (l : List SessionRef) :
    (l.map fun r' => (sessionWeight (Function.update objects r s r')).first).sum ≤
      (l.map fun r' => (sessionWeight (objects r')).first).sum := by
  rw [map_update_objects fun s => (sessionWeight s).first]
  exact sum_map_update_le l (hs.le.trans (Nat.zero_le _))

theorem managerWeight_perm {s : SessionManager ρ} {sessions : SessionTable}
    (h : (values sessions).Perm (values s.sessions)) :
    managerWeight { s with sessions := sessions } = managerWeight s := by
  ext
  · exact (h.map _).sum_eq
  · exact (h.map _).sum_eq
  · rfl

variable {m : MessageBuffer}

theorem below_onSession {r : SessionRef} {c : ManagerCtx ρ} {f : Ctx ρ → Ctx ρ}
    (hr : r ∈ values c.manager.sessions)
    (hspends : Spends m ⟨c.manager.objects r, c.fx⟩ (f ⟨c.manager.objects r, c.fx⟩)) :
    ∃ l, (c.onSession r f).fx.inFlight = c.fx.inFlight ++ l ∧
      (wireWeight l + managerWeight (c.onSession r f).manager).Below
        (messageWeight m + managerWeight c.manager) := by
  obtain ⟨hextra, l, hl, hfirst, hlt⟩ := hspends
  have hfirsts := sum_map_update_add_le hr
    (f := fun r' => (sessionWeight (c.manager.objects r')).first) hextra
  refine ⟨l, hl, ?_, ?_⟩
  · simp only [first_add, managerWeight, ManagerCtx.onSession, sessionWeight,
      map_update_objects fun s => extraAnswers s.sessionState] at hfirst hfirsts ⊢
    omega
  · rcases hlt with hlt | hlt
    · left
      simp only [first_add, managerWeight, ManagerCtx.onSession, sessionWeight,
        map_update_objects fun s => extraAnswers s.sessionState] at hlt hfirsts ⊢
      omega
    · right
      have hseconds := sum_map_update_add_le hr
        (f := fun r' => (sessionWeight (c.manager.objects r')).second)
        (v := (sessionWeight (f ⟨c.manager.objects r, c.fx⟩).session).second) (by
          simp only [second_add, wireWeight, messageWeight] at hlt
          omega)
      simp only [second_add, third_add, wireWeight, messageWeight, managerWeight,
        ManagerCtx.onSession, sessionWeight, map_update_objects remainingDuplicates]
        at hlt hseconds ⊢
      omega

theorem sendReset_inFlight (remoteClientId : ClientId) (remoteSessionId : SessionId)
    (reason : Result) (version : Version) (c : ManagerCtx ρ) :
    ∃ l, (sendReset remoteClientId remoteSessionId reason version c).fx.inFlight =
      c.fx.inFlight ++ l ∧ (wireWeight l).first = 0 := by
  unfold sendReset forward
  generalize c.fx.answers.headD .success = answer
  by_cases hsuccess : answer = .success
  · exact ⟨[_], by simp [inFlight, List.filterMap_append, hsuccess]; rfl, rfl⟩
  · exact ⟨[], by simp [inFlight, List.filterMap_append, hsuccess], rfl⟩

theorem below_sendReset (hkind : m.kind ≠ .rst) (c c' : ManagerCtx ρ)
    (hinFlight : c'.fx.inFlight = c.fx.inFlight)
    (hfirst : (managerWeight c'.manager).first ≤ (managerWeight c.manager).first)
    (remoteClientId : ClientId) (remoteSessionId : SessionId) (reason : Result)
    (version : Version) :
    ∃ l, (sendReset remoteClientId remoteSessionId reason version c').fx.inFlight =
        c.fx.inFlight ++ l ∧
      (wireWeight l + managerWeight
        (sendReset remoteClientId remoteSessionId reason version c').manager).Below
        (messageWeight m + managerWeight c.manager) := by
  obtain ⟨l, hl, hzero⟩ := sendReset_inFlight remoteClientId remoteSessionId reason version c'
  have hcost : (messageWeight m).first = 1 := if_neg hkind
  rw [hinFlight] at hl
  refine ⟨l, hl, ?_, .inl ?_⟩
  · simp only [first_add, sendReset]
    omega
  · simp only [first_add, sendReset]
    omega

theorem managerWeight_admitSession_le {m : SessionManager ρ} {s : Session ρ}
    (hs : extraAnswers s.sessionState = 0) (lastSessionId : UInt32) {sessionId : SessionId}
    {sessions : SessionTable} (hsessions : sessions = m.sessions ∨
      sessionId ∉ m.sessions ∧ sessions = m.sessions.insert sessionId m.nextSession) :
    (managerWeight (admitSession s lastSessionId sessions m)).first ≤
      (managerWeight m).first := by
  have hold := managerWeight_update_le m.objects hs m.nextSession
    (values m.sessions)
  rcases hsessions with rfl | ⟨hfree, rfl⟩
  · exact hold
  · have hnew : (sessionWeight (Function.update m.objects m.nextSession s m.nextSession)).first =
        0 := by
      rw [Function.update_self]
      exact hs
    simp only [managerWeight, admitSession, values_insert hfree, List.map_cons, List.sum_cons,
      hnew, Nat.zero_add]
    exact hold

theorem below_handled [RoundTripTime ρ] {env : ManagerEnv} {c c' : ManagerCtx ρ}
    (h : Handled m env c c')
    (hrst : m.kind = .rst → ∃ pSession, findOpenSession m.header.sessionId c.manager =
      some pSession) :
    ∃ l, c'.fx.inFlight = c.fx.inFlight ++ l ∧
      (wireWeight l + managerWeight c'.manager).Below
        (messageWeight m + managerWeight c.manager) := by
  cases h with
  | @answered fx _ _ hselected hfx =>
    have hkind : m.kind ≠ .rst := by
      intro hkind
      obtain ⟨pSession, hopen⟩ := hrst hkind
      rw [selectedSession, hkind] at hselected
      cases hselected.symm.trans hopen
    have hinFlight : fx.inFlight = c.fx.inFlight := by rw [inFlight, hfx.forwarded]; rfl
    exact below_sendReset hkind c ⟨c.manager, fx⟩ hinFlight le_rfl _ _ _ _
  | refused hkind hs hsessions =>
    refine below_sendReset (by rw [hkind]; decide) c _ ?_ ?_ _ _ _ _
    · rfl
    · refine managerWeight_admitSession_le ?_ _ hsessions
      rw [hs.state]
      rfl
  | @opened s sessionId lastSessionId server fx hkind hserver hs hfree hfx =>
    have hextra := extraAnswers_handleSynMessage m ⟨s, fx⟩
    rw [onSession_admitSession, handleMessage_syn _ hkind]
    have hfirst := managerWeight_admitSession_le hextra lastSessionId
      (.inr ⟨hfree, rfl⟩)
    have hcost : (messageWeight m).first = 1 := if_neg (by rw [hkind]; decide)
    refine ⟨[], ?_, ?_, .inl ?_⟩
    · rw [inFlight, (handleSynMessage_spec m _).1, hfx.forwarded, List.append_nil]
      rfl
    · simp only [first_add, wireWeight_nil, hcost]
      omega
    · simp only [first_add, wireWeight_nil, hcost]
      omega
  | @delivered pSession fx hselected hlookup hfx =>
    have hbelow := below_onSession (c := ⟨c.manager, fx⟩) (mem_values.mpr ⟨_, hlookup⟩)
      (spends_handleMessage pSession m _)
    have hinFlight : fx.inFlight = c.fx.inFlight := by rw [inFlight, hfx.forwarded]; rfl
    rwa [hinFlight] at hbelow
  | @moved pSession fx hkind hnone hlookup halloc hfx =>
    have hperm := values_rekey_perm hlookup hnone
    have hmem : pSession ∈ values (rekey (initialSessionId m) m.header.sessionId pSession
        c.manager.sessions) := mem_values.mpr ⟨_, lookup_rekey _⟩
    have hbelow := below_onSession (c := ⟨{ c.manager with
        sessions := rekey (initialSessionId m) m.header.sessionId pSession
          c.manager.sessions }, fx⟩) hmem (spends_handleMessage pSession m _)
    have hweight := managerWeight_perm hperm
    have hinFlight : fx.inFlight = c.fx.inFlight := by rw [inFlight, hfx.forwarded]; rfl
    rwa [hinFlight, hweight] at hbelow
  | @lost pSession hkind hnone hlookup halloc =>
    refine below_sendReset (by rw [hkind]; decide) c _ ?_ ?_ _ _ _ _
    · rfl
    · refine (managerWeight_update_le _ ?_ pSession _).trans ?_
      · rw [(Ctx.shutdown_frame _ _).2.2.2.2.2.2.2.2, shutdownState_of_ne (by decide)]
        rfl
      · have hsum := ((values_perm_erase hlookup).map fun r =>
          (sessionWeight (c.manager.objects r)).first).sum_eq
        rw [List.map_cons, List.sum_cons] at hsum
        simp only [managerWeight, ManagerCtx.onSession]
        omega

def exchangeWeight (x : Exchange ρ) : Weight :=
  (managerWeight (x.manager .client) + wireWeight (x.toward .client)) +
    (managerWeight (x.manager .server) + wireWeight (x.toward .server))

theorem exchangeWeight_eq (x : Exchange ρ) (e : End) : exchangeWeight x =
    (managerWeight (x.manager e) + wireWeight (x.toward e)) +
      (managerWeight (x.manager e.other) + wireWeight (x.toward e.other)) := by
  cases e with
  | client => rfl
  | server => ext <;> simp only [exchangeWeight, End.other, first_add,
      second_add, third_add] <;> omega

/-- If the handled message is a reset, it finds an open session under its session id. -/
def FindsSession (x : Exchange ρ) (a : Handling) : Prop :=
  ∀ m, (x.toward a.e)[a.k]? = some m → m.kind = .rst →
    ∃ pSession, findOpenSession m.header.sessionId (x.manager a.e) = some pSession

theorem wireWeight_eraseIdx {l : List MessageBuffer} {k : ℕ} (h : l[k]? = some m) :
    wireWeight l = messageWeight m + wireWeight (l.eraseIdx k) := by
  obtain ⟨hk, rfl⟩ := List.getElem?_eq_some_iff.mp h
  have hperm := List.getElem_cons_eraseIdx_perm hk
  ext
  · exact (hperm.map fun m => (messageWeight m).first).sum_eq.symm
  · rfl
  · exact (hperm.map fun m => (messageWeight m).third).sum_eq.symm

variable [RoundTripTime ρ]

theorem below_step {x y : Exchange ρ} {a : Handling} (h : x.step a = some y)
    (hfinds : FindsSession x a) : (exchangeWeight y).Below (exchangeWeight x) := by
  unfold Exchange.step at h
  split at h
  · cases h
  · rename_i m hm
    obtain ⟨c, hc, rfl⟩ := Option.map_eq_some_iff.mp h
    obtain ⟨l, hl, hbelow⟩ := below_handled (handled_of_eq hc) (hfinds m hm)
    obtain rfl : c.fx.inFlight = l := hl
    have hwire := wireWeight_eraseIdx hm
    have hmanager : (a.env.start (x.manager a.e)).manager = x.manager a.e := rfl
    rw [hmanager] at hbelow
    have hfirst := hbelow.first_le
    have hlt := hbelow.lt
    have hother := End.other_ne a.e
    -- what the manager puts in flight goes to the other end
    rw [exchangeWeight_eq _ a.e, exchangeWeight_eq x a.e]
    simp only [Function.update_self, Function.update_of_ne hother,
      Function.update_of_ne hother.symm, wireWeight_append, hwire]
    simp only [first_add, second_add, third_add] at hfirst hlt
    constructor <;> simp only [first_add, second_add, third_add] <;> omega

/-! ## The result -/

/-- Handling the message `m` puts no reset in flight, whatever the surroundings do. -/
def AnswersNoReset (m : MessageBuffer) (s : SessionManager ρ) : Prop :=
  ∀ env c, handleReceivedSessionMessage m env (env.start s) = some c →
    ∀ m' ∈ c.fx.inFlight, m'.kind ≠ .rst

theorem answersNoReset_iff (hkind : m.kind = .rst) (s : SessionManager ρ) :
    AnswersNoReset m s ↔
      ∃ pSession, findOpenSession m.header.sessionId s = some pSession := by
  constructor
  · intro h
    by_contra hnone
    have hclosed : findOpenSession m.header.sessionId s = none :=
      Option.eq_none_iff_forall_ne_some.mpr fun r hr => hnone ⟨r, hr⟩
    have hfx := (sameFx_checkOpenSession m.header.sessionId (calmEnv.start s)).2
    set c := checkOpenSession m.header.sessionId (calmEnv.start s)
    set reset := resetMessage c.manager.clientId m.header.srcClientId m.header.sessionId
      .unavailable 0
    have hhandled : handleReceivedSessionMessage m calmEnv (calmEnv.start s) =
        some (sendReset m.header.srcClientId m.header.sessionId .unavailable 0 c) := by
      rw [handleReceivedSessionMessage, route, hkind]
      simp only [Option.map_some, dispatch]
      rw [show findOpenSession m.header.sessionId (calmEnv.start s).manager = none from hclosed]
    have hsent : reset ∈ (sendReset m.header.srcClientId m.header.sessionId .unavailable 0
        c).fx.inFlight := by
      have hanswer : c.fx.answers.headD .success = .success := by
        rw [hfx.answers]
        rfl
      refine List.mem_filterMap.mpr ⟨(reset, c.fx.answers.headD .success), ?_, if_pos hanswer⟩
      exact List.mem_append_right _ (List.mem_singleton_self _)
    exact h calmEnv _ hhandled reset hsent rfl
  · rintro ⟨r, hopen⟩ env c hc
    have hselected : selectedSession m s = some r := by
      rw [selectedSession, hkind]
      exact hopen
    cases handled_of_eq hc with
    | answered hnone => cases hnone.symm.trans hselected
    | refused hsyn => cases hkind.symm.trans hsyn
    | opened hsyn => cases hkind.symm.trans hsyn
    | moved hsynAck => cases hkind.symm.trans hsynAck
    | lost hsynAck => cases hkind.symm.trans hsynAck
    | @delivered pSession fx _ _ hfx =>
      have hsilent : (handleMessage pSession m ⟨s.objects pSession, fx⟩).fx.forwarded = [] := by
        have hdispatch : dispatchMessage m (⟨s.objects pSession, fx⟩ : Ctx ρ) =
            handleRstMessage m ⟨s.objects pSession, fx⟩ := by
          unfold dispatchMessage
          rw [hkind]
        dsimp only [handleMessage]
        rw [hdispatch]
        split
        · rw [enterEstablished_forwarded]
          exact hfx.forwarded
        · exact hfx.forwarded
      intro m' hm'
      obtain ⟨q, hq, -⟩ := List.mem_filterMap.mp hm'
      exact absurd (hsilent ▸ hq : q ∈ []) List.not_mem_nil

/-- While every handled reset finds its session, two managers that only handle messages come to
rest; and a reset that finds none is the only one that is answered by a reset. -/
theorem exchange_drains :
    (∀ (s : SessionManager ρ) (m : MessageBuffer), m.kind = .rst → (AnswersNoReset m s ↔
      ∃ pSession, findOpenSession m.header.sessionId s = some pSession)) ∧
    ¬ ∃ (x : ℕ → Exchange ρ) (a : ℕ → Handling), ∀ n,
      (x n).step (a n) = some (x (n + 1)) ∧ FindsSession (x n) (a n) := by
  refine ⟨fun s m hkind => answersNoReset_iff hkind s, ?_⟩
  rintro ⟨x, a, hsteps⟩
  refine no_infinite_chain (R := fun x y => ∃ a, Exchange.step x a = some y ∧ FindsSession x a)
    exchangeWeight ?_ ⟨x, fun n => ⟨a n, hsteps n⟩⟩
  rintro x y ⟨a, hstep, hfinds⟩
  exact below_step hstep hfinds

def idleManager : End → SessionManager ℚ
  | .client => .new ℚ 1 0
  | .server => .new ℚ 2 0

def strayReset : End → MessageBuffer
  | .client => resetMessage 2 1 7 .unavailable 0
  | .server => resetMessage 1 2 7 .unavailable 0

def pingPong (e : End) : Exchange ℚ where
  manager := idleManager
  toward e' := if e' = e then [strayReset e] else []

theorem step_pingPong (e : End) :
    (pingPong e).step ⟨e, 0, calmEnv⟩ = some (pingPong e.other) := by
  have hhandled : handleReceivedSessionMessage (strayReset e) calmEnv
      (calmEnv.start (idleManager e)) = some ⟨idleManager e,
        (forward (strayReset e.other) (calmEnv.start (idleManager e)).fx).1⟩ := by
    cases e <;> rfl
  have harrives : ((pingPong e).toward e)[0]? = some (strayReset e) := by
    simp [pingPong]
  simp only [Exchange.step, harrives]
  rw [show (pingPong e).manager e = idleManager e from rfl, hhandled]
  simp only [Option.map_some, pingPong, Function.update_eq_self, Option.some.injEq,
    Exchange.mk.injEq, true_and]
  funext e'
  rcases End.eq_or_eq_other e e' with rfl | rfl
  · simp [(End.other_ne e').symm]
  · simp [inFlight, forward, ManagerEnv.start, start, calmEnv]

/-- Two managers without sessions pass a reset on forever. -/
theorem reset_exchange_forever : ∃ (x : ℕ → Exchange ℚ) (a : ℕ → Handling),
    x 0 = pingPong .server ∧ ∀ n, (x n).step (a n) = some (x (n + 1)) := by
  refine ⟨fun n => pingPong (End.other^[n] .server),
    fun n => ⟨End.other^[n] .server, 0, calmEnv⟩, rfl, ?_⟩
  intro n
  have hstep := step_pingPong (End.other^[n] .server)
  rw [← Function.iterate_succ_apply' End.other] at hstep
  exact hstep

end DevDriver.Analysis
