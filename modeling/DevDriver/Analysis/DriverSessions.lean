import DevDriver.Analysis.DriverControlMoves

/-!
# What a step of the driver control server does to a session

A session is touched by its own updates only, unless a pause or resume request of it is being
handled, and a new session is told apart from all sessions there have been.
-/

namespace DevDriver.Analysis

open Library Model DriverControlThreads

def requestOf : RequestThread → Option ℕ
  | .idle => none
  | .pausing r => some r
  | .clearing r => some r
  | .switching r => some r
  | .resuming r => some r
  | .signalling r => some r

def isSentTo (r : ℕ) : DriverControlEvent → Bool
  | .sent r' _ => r' = r
  | _ => false

def sentTo (r : ℕ) (es : List DriverControlEvent) : ℕ := es.countP (isSentTo r)

structure SessionsKept (t : DriverControlThreads) : Prop where
  fresh : ∀ r session, t.sessions r = some session → r < t.nextSession
  busy : ∀ r, requestOf t.requestThread = some r →
    ∃ session, t.sessions r = some session ∧ session.state = .processPayload

section Steps

variable {t u : DriverControlThreads} {es : List DriverControlEvent} {r r' : ℕ}
  {session : DriverControlSession}

variable {a : DriverControlAction} (data : List UInt8)

theorem sessions_finishRequest (h : r ≠ r') :
    (t.finishRequest r' data).sessions r = t.sessions r := by
  rw [finishRequest]
  cases t.sessions r' with
  | none => rfl
  | some session => exact Function.update_of_ne h _ _

theorem nextSession_finishRequest : (t.finishRequest r data).nextSession = t.nextSession := by
  rw [finishRequest]
  cases t.sessions r <;> rfl

theorem sessions_finishRequest_setServer (server : DriverControlServer) (data : List UInt8) :
    ((t.setServer server).finishRequest r data).sessions = (t.finishRequest r data).sessions := by
  simp only [finishRequest, setServer]
  cases t.sessions r <;> rfl

theorem requestThread_finishRequest : (t.finishRequest r data).requestThread = .idle := by
  rw [finishRequest]
  cases t.sessions r <;> rfl

theorem continueRequest_cases (h : t.continueRequest = some (u, es)) :
    ∃ r, requestOf t.requestThread = some r ∧ u.nextSession = t.nextSession ∧
      ((u.sessions = t.sessions ∧ requestOf u.requestThread = some r) ∨
        (u.requestThread = .idle ∧ ∃ data, u.sessions = (t.finishRequest r data).sessions)) := by
  rw [continueRequest] at h
  split at h
  · cases h
  · rename_i r hthread
    cases h
    exact ⟨r, congrArg requestOf hthread, rfl, .inl ⟨rfl, rfl⟩⟩
  · rename_i r hthread
    cases h
    exact ⟨r, congrArg requestOf hthread, nextSession_finishRequest _,
      .inr ⟨requestThread_finishRequest _, _, sessions_finishRequest_setServer _ _⟩⟩
  · rename_i r hthread
    refine ⟨r, congrArg requestOf hthread, ?_⟩
    split at h <;> cases h
    · exact ⟨rfl, .inl ⟨rfl, rfl⟩⟩
    · exact ⟨rfl, .inl ⟨rfl, rfl⟩⟩
    · exact ⟨rfl, .inl ⟨rfl, rfl⟩⟩
    · exact ⟨rfl, .inl ⟨rfl, rfl⟩⟩
    · exact ⟨nextSession_finishRequest _, .inr ⟨requestThread_finishRequest _, _, rfl⟩⟩
  · rename_i r hthread
    cases h
    exact ⟨r, congrArg requestOf hthread, rfl, .inl ⟨rfl, rfl⟩⟩
  · rename_i r hthread
    cases h
    exact ⟨r, congrArg requestOf hthread, nextSession_finishRequest _,
      .inr ⟨requestThread_finishRequest _, _, sessions_finishRequest_setServer _ _⟩⟩

structure SessionsSame (t u : DriverControlThreads) : Prop where
  sessions : u.sessions = t.sessions
  nextSession : u.nextSession = t.nextSession
  requestThread : u.requestThread = t.requestThread

theorem sessionsSame_continueDriver {found : Option ClientId} {timedOut : Bool}
    (h : t.continueDriver found timedOut = some (u, es)) : SessionsSame t u := by
  rw [continueDriver] at h
  split at h
  · cases h
  · cases h
    exact ⟨rfl, rfl, rfl⟩
  · dsimp only at h
    split at h <;> cases h <;> exact ⟨rfl, rfl, rfl⟩
  · cases h
    exact ⟨rfl, rfl, rfl⟩
  · cases h
    exact ⟨rfl, rfl, rfl⟩
  · cases h
    exact ⟨rfl, rfl, rfl⟩
  · cases h
    exact ⟨rfl, rfl, rfl⟩
  · split at h <;> cases h <;> exact ⟨rfl, rfl, rfl⟩
  · cases h
    exact ⟨rfl, rfl, rfl⟩
  · split at h <;> cases h <;> exact ⟨rfl, rfl, rfl⟩

theorem sessionsSame_driverTick : SessionsSame t t.driverTick.1 := by
  rw [driverTick]
  split
  · dsimp only
    split <;> exact ⟨rfl, rfl, rfl⟩
  · exact ⟨rfl, rfl, rfl⟩

theorem updateSession_cases (hsession : t.sessions r = some session) (receive : ReceiveAnswer)
    (send : Result) (hidle : t.requestThread = .idle)
    (h : t.updateSession r session receive send = (u, es)) :
    u.nextSession = t.nextSession ∧ (∃ session', u.sessions r = some session') ∧
      (∀ r', r' ≠ r → u.sessions r' = t.sessions r') ∧ (∀ r', r' ≠ r → sentTo r' es = 0) ∧
      (requestOf u.requestThread = none ∨
        (session.state = .processPayload ∧ u.sessions = t.sessions ∧
          requestOf u.requestThread = some r)) := by
  have hnone : requestOf t.requestThread = none := congrArg requestOf hidle
  have hset : ∀ {session' : DriverControlSession} {t' : DriverControlThreads}
      {es' : List DriverControlEvent}, t'.sessions = t.sessions → t'.nextSession = t.nextSession →
      t'.requestThread = t.requestThread → (∀ r', r' ≠ r → sentTo r' es' = 0) →
      (t'.setSession r session', es') = (u, es) → u.nextSession = t.nextSession ∧
        (∃ session', u.sessions r = some session') ∧
        (∀ r', r' ≠ r → u.sessions r' = t.sessions r') ∧ (∀ r', r' ≠ r → sentTo r' es = 0) ∧
        (requestOf u.requestThread = none ∨ (session.state = .processPayload ∧
          u.sessions = t.sessions ∧ requestOf u.requestThread = some r)) := by
    rintro session' t' es' hsessions hnext hthread hsent ⟨rfl, rfl⟩
    refine ⟨hnext, ⟨session', Function.update_self r _ _⟩, fun r' hr' => ?_, hsent, .inl ?_⟩
    · rw [← hsessions]
      exact Function.update_of_ne hr' _ _
    · exact (congrArg requestOf hthread).trans hnone
  have hnothing : ∀ r', r' ≠ r → sentTo r' [] = 0 := fun _ _ => rfl
  unfold DriverControlThreads.updateSession at h
  split at h
  · split at h
    · exact hset rfl rfl rfl (fun _ _ => rfl) h
    · cases h
      exact ⟨rfl, ⟨session, hsession⟩, fun _ _ => rfl, hnothing, .inl hnone⟩
  · rename_i hstate
    unfold processPayload at h
    split at h
    · split at h
      · cases h
        exact ⟨rfl, ⟨session, hsession⟩, fun _ _ => rfl, hnothing, .inr ⟨hstate, rfl, rfl⟩⟩
      · exact hset rfl rfl rfl hnothing h
    · split at h
      · cases h
        exact ⟨rfl, ⟨session, hsession⟩, fun _ _ => rfl, hnothing, .inr ⟨hstate, rfl, rfl⟩⟩
      · exact hset rfl rfl rfl hnothing h
    · refine hset ?_ ?_ ?_ (fun r' _ => ?_) h
      · rfl
      · rfl
      · rfl
      · rw [stepEvents]
        split
        · rfl
        · split <;> rfl
    · refine hset ?_ ?_ ?_ hnothing h <;> rfl
  · split at h
    · refine hset rfl rfl rfl (fun r' hr' => ?_) h
      simp [sentTo, isSentTo, hr'.symm]
    · cases h
      exact ⟨rfl, ⟨session, hsession⟩, fun _ _ => rfl, hnothing, .inl hnone⟩
  · split at h
    · exact hset rfl rfl rfl hnothing h
    · cases h
      exact ⟨rfl, ⟨session, hsession⟩, fun _ _ => rfl, hnothing, .inl hnone⟩

theorem sentTo_of_move {c c' : Control} {l : ControlLabel} (hmove : ControlMove c l es c')
    (hl : l ≠ .quiet) : sentTo r es = 0 := by
  cases hmove with
  | quiet => exact absurd rfl hl
  | pause | resume | tickLast | enterWait =>
    simp only [assertion]
    split <;> rfl
  | _ => rfl

theorem SessionsKept.same (h : SessionsKept t) (hsame : SessionsSame t u) : SessionsKept u := by
  obtain ⟨hsessions, hnext, hthread⟩ := hsame
  refine ⟨fun r session hsession => ?_, fun r hr => ?_⟩
  · rw [hsessions] at hsession
    rw [hnext]
    exact h.fresh r session hsession
  · rw [hthread] at hr
    rw [hsessions]
    exact h.busy r hr

theorem SessionsKept.continueRequest (h : SessionsKept t)
    (hstep : t.continueRequest = some (u, es)) : SessionsKept u := by
  obtain ⟨r, hr, hnext, ⟨hsessions, hu⟩ | ⟨hidle, data, hsessions⟩⟩ := continueRequest_cases hstep
  · refine ⟨fun r session hsession => ?_, fun r' hr' => ?_⟩
    · rw [hsessions] at hsession
      rw [hnext]
      exact h.fresh r session hsession
    · obtain rfl : r = r' := Option.some.inj (hu.symm.trans hr')
      rw [hsessions]
      exact h.busy r hr
  · refine ⟨fun r' session hsession => ?_, fun r' hr' => ?_⟩
    · rw [hnext]
      by_cases heq : r' = r
      · obtain ⟨session', hsession', -⟩ := h.busy r hr
        rw [heq]
        exact h.fresh r session' hsession'
      · rw [hsessions, sessions_finishRequest data heq] at hsession
        exact h.fresh r' session hsession
    · rw [hidle] at hr'
      cases hr'

/-- What a step does to the sessions. -/
inductive SessionStep (t u : DriverControlThreads) (es : List DriverControlEvent) : Prop where
  | same (hsame : SessionsSame t u) (hsent : ∀ r, sentTo r es = 0)
  | established (session : DriverControlSession) (hidle : t.requestThread = .idle)
      (hsessions : u.sessions = Function.update t.sessions t.nextSession (some session))
      (hnext : u.nextSession = t.nextSession + 1) (hrequest : u.requestThread = t.requestThread)
      (hsent : ∀ r, sentTo r es = 0)
  | terminated (r : ℕ) (hidle : t.requestThread = .idle) (halive : (t.sessions r).isSome)
      (hsessions : u.sessions = Function.update t.sessions r none)
      (hnext : u.nextSession = t.nextSession) (hrequest : u.requestThread = t.requestThread)
      (hsent : ∀ r, sentTo r es = 0)
  | updated (r : ℕ) (session : DriverControlSession) (receive : ReceiveAnswer) (send : Result)
      (hidle : t.requestThread = .idle) (hsession : t.sessions r = some session)
      (hupdate : t.updateSession r session receive send = (u, es))
  | continued (hcontinue : t.continueRequest = some (u, es)) (hsent : ∀ r, sentTo r es = 0)

theorem sessionStep_of_step (hstep : t.step a = some (u, es)) : SessionStep t u es := by
  have hmove : ControlMove (control t) (label t a) es (control u) := controlMove_of_step hstep
  cases a with
  | setNumGpus | setDeviceClockCallback | setDriverInitClientId =>
    cases hstep
    exact .same ⟨rfl, rfl, rfl⟩ fun _ => rfl
  | sessionEstablished version =>
    obtain ⟨hidle, ⟨⟩⟩ := Option.ite_none_right_eq_some.mp hstep
    exact .established _ hidle rfl rfl rfl fun _ => rfl
  | sessionTerminated r =>
    obtain ⟨hidle, ⟨⟩⟩ := Option.ite_none_right_eq_some.mp hstep
    exact .terminated r hidle.1 hidle.2 rfl rfl rfl fun _ => rfl
  | updateSession r receive send =>
    obtain ⟨hidle, hstep⟩ := Option.ite_none_right_eq_some.mp hstep
    obtain ⟨session, hsession, heq⟩ := Option.map_eq_some_iff.mp hstep
    exact .updated r session receive send hidle hsession heq
  | continueRequest => exact .continued hstep fun _ => sentTo_of_move hmove nofun
  | advanceDriverInitState =>
    obtain ⟨-, ⟨⟩⟩ := Option.ite_none_right_eq_some.mp hstep
    exact .same ⟨rfl, rfl, rfl⟩ fun _ => rfl
  | driverTick =>
    obtain ⟨-, hstep⟩ := Option.ite_none_right_eq_some.mp hstep
    have hsame := sessionsSame_driverTick (t := t)
    rw [Option.some.inj hstep] at hsame
    exact .same hsame fun _ => sentTo_of_move hmove nofun
  | continueDriver found timedOut =>
    exact .same (sessionsSame_continueDriver hstep) fun _ => sentTo_of_move hmove nofun

/-- The sessions that a thread works for stay there. -/
theorem SessionsKept.step (h : SessionsKept t) (hstep : t.step a = some (u, es)) :
    SessionsKept u := by
  cases sessionStep_of_step hstep with
  | same hsame => exact h.same hsame
  | established session hidle hsessions hnext hrequest =>
    refine ⟨fun r session' hsession => ?_, fun r hr => ?_⟩
    · rw [hsessions] at hsession
      rw [hnext]
      by_cases heq : r = t.nextSession
      · rw [heq]
        exact Nat.lt_succ_self _
      · rw [Function.update_of_ne heq] at hsession
        exact Nat.lt_succ_of_lt (h.fresh r session' hsession)
    · rw [hrequest, hidle] at hr
      cases hr
  | terminated r hidle halive hsessions hnext hrequest =>
    refine ⟨fun r' session hsession => ?_, fun r' hr' => ?_⟩
    · rw [hsessions] at hsession
      rw [hnext]
      by_cases heq : r' = r
      · rw [heq, Function.update_self] at hsession
        cases hsession
      · rw [Function.update_of_ne heq] at hsession
        exact h.fresh r' session hsession
    · rw [hrequest, hidle] at hr'
      cases hr'
  | updated r session receive send hidle hsession hupdate =>
    obtain ⟨hnext, -, hothers, -, hrequest⟩ :=
      updateSession_cases hsession receive send hidle hupdate
    refine ⟨fun r' session' hsession' => ?_, fun r' hr' => ?_⟩
    · rw [hnext]
      by_cases heq : r' = r
      · rw [heq]
        exact h.fresh r session hsession
      · rw [hothers r' heq] at hsession'
        exact h.fresh r' session' hsession'
    · rcases hrequest with hnone | ⟨hstate, hsessions, hr⟩
      · rw [hnone] at hr'
        cases hr'
      · obtain rfl : r = r' := Option.some.inj (hr.symm.trans hr')
        rw [hsessions]
        exact ⟨session, hsession, hstate⟩
  | continued hcontinue => exact h.continueRequest hcontinue

theorem sessionsKept_init (h : driverControlMachine.init t) : SessionsKept t := by
  obtain ⟨clientInfo, rfl⟩ := h
  exact ⟨nofun, nofun⟩

/-! ## One session -/

inductive SessionMove (t u : DriverControlThreads) (es : List DriverControlEvent) (r : ℕ)
    (session : DriverControlSession) : Prop where
  | terminated (hu : u.sessions r = none) (hsent : sentTo r es = 0)
  | same (hu : u.sessions r = some session) (hsent : sentTo r es = 0)
  | received (hreceived : DriverControlEvent.received r ∈ es)
  | sent (hstate : session.state = .sendPayload)
      (hu : u.sessions r = some { session with state := .receivePayload })
      (hsent : es = [.sent r session.sentBytes])
  | answered (hstate : session.state = .stepDriver) (hdone : t.server.stepDone = true)
      (hu : u.sessions r = some (t.server.stepResponse .success session)) (hsent : sentTo r es = 0)

theorem sessionMove_updateSession (hsession : t.sessions r = some session)
    (hstate : session.state ≠ .processPayload) {receive : ReceiveAnswer} {send : Result}
    (h : t.updateSession r session receive send = (u, es)) : SessionMove t u es r session := by
  unfold DriverControlThreads.updateSession at h
  split at h
  · split at h
    · cases h
      exact .received (List.mem_singleton_self _)
    · cases h
      exact .same hsession rfl
  · rename_i hprocess
    exact absurd hprocess hstate
  · rename_i hsend
    split at h
    · cases h
      exact .sent hsend (Function.update_self r _ _) rfl
    · cases h
      exact .same hsession rfl
  · rename_i hwait
    split at h
    · rename_i hdone
      cases h
      exact .answered hwait hdone (Function.update_self r _ _) rfl
    · cases h
      exact .same hsession rfl

theorem sessionMove_of_same (hsession : t.sessions r = some session) (hsame : SessionsSame t u)
    (hsent : sentTo r es = 0) : SessionMove t u es r session := by
  refine .same ?_ hsent
  rw [hsame.sessions]
  exact hsession

theorem sessionMove_of_step (h : SessionsKept t) (hstep : t.step a = some (u, es))
    (hsession : t.sessions r = some session) (hstate : session.state ≠ .processPayload) :
    SessionMove t u es r session := by
  cases sessionStep_of_step hstep with
  | same hsame hsent => exact sessionMove_of_same hsession hsame (hsent r)
  | established session' _ hsessions _ _ hsent =>
    refine .same ?_ (hsent r)
    rw [hsessions, Function.update_of_ne (Nat.ne_of_lt (h.fresh r session hsession))]
    exact hsession
  | terminated r' _ _ hsessions _ _ hsent =>
    by_cases heq : r = r'
    · refine .terminated ?_ (hsent r)
      rw [hsessions, heq, Function.update_self]
    · refine .same ?_ (hsent r)
      rw [hsessions, Function.update_of_ne heq]
      exact hsession
  | updated r' session' receive send hidle hsession' hupdate =>
    by_cases hr : r = r'
    · obtain rfl := hr
      obtain rfl : session = session' := Option.some.inj (hsession.symm.trans hsession')
      exact sessionMove_updateSession hsession hstate hupdate
    · obtain ⟨-, -, hothers, hsent, -⟩ := updateSession_cases hsession' receive send hidle hupdate
      exact .same ((hothers r hr).trans hsession) (hsent r hr)
  | continued hcontinue hsent =>
    refine .same ?_ (hsent r)
    obtain ⟨r', hr', -, ⟨hsessions, -⟩ | ⟨-, data, hsessions⟩⟩ := continueRequest_cases hcontinue
    · rw [hsessions]
      exact hsession
    · obtain ⟨session', hsession', hprocess⟩ := h.busy r' hr'
      have hne : r ≠ r' := by
        rintro rfl
        obtain rfl : session = session' := Option.some.inj (hsession.symm.trans hsession')
        exact hstate hprocess
      rw [hsessions, sessions_finishRequest data hne]
      exact hsession

theorem terminated_step (h : SessionsKept t) (hstep : t.step a = some (u, es))
    (hnone : t.sessions r = none) (hold : r < t.nextSession) :
    u.sessions r = none ∧ sentTo r es = 0 := by
  have hother : ∀ {r' session'}, t.sessions r' = some session' → r ≠ r' := by
    rintro r' session' hsession' rfl
    rw [hnone] at hsession'
    cases hsession'
  cases sessionStep_of_step hstep with
  | same hsame hsent =>
    rw [hsame.sessions]
    exact ⟨hnone, hsent r⟩
  | established session' _ hsessions _ _ hsent =>
    rw [hsessions, Function.update_of_ne (Nat.ne_of_lt hold)]
    exact ⟨hnone, hsent r⟩
  | terminated r' _ halive hsessions _ _ hsent =>
    obtain ⟨session', hsession'⟩ := Option.isSome_iff_exists.mp halive
    rw [hsessions, Function.update_of_ne (hother hsession')]
    exact ⟨hnone, hsent r⟩
  | updated r' session' receive send hidle hsession' hupdate =>
    obtain ⟨-, -, hothers, hsent, -⟩ := updateSession_cases hsession' receive send hidle hupdate
    exact ⟨(hothers r (hother hsession')).trans hnone, hsent r (hother hsession')⟩
  | continued hcontinue hsent =>
    obtain ⟨r', hr', -, ⟨hsessions, -⟩ | ⟨-, data, hsessions⟩⟩ := continueRequest_cases hcontinue
    · rw [hsessions]
      exact ⟨hnone, hsent r⟩
    · obtain ⟨session', hsession', -⟩ := h.busy r' hr'
      rw [hsessions, sessions_finishRequest data (hother hsession')]
      exact ⟨hnone, hsent r⟩

theorem nextSession_le_of_step (hstep : t.step a = some (u, es)) :
    t.nextSession ≤ u.nextSession := by
  cases sessionStep_of_step hstep with
  | same hsame => exact hsame.nextSession.ge
  | established _ _ _ hnext => exact hnext ▸ Nat.le_succ _
  | terminated _ _ _ _ hnext => exact hnext.ge
  | updated r session receive send hidle hsession hupdate =>
    exact (updateSession_cases hsession receive send hidle hupdate).1.ge
  | continued hcontinue =>
    obtain ⟨-, -, hnext, -⟩ := continueRequest_cases hcontinue
    exact hnext.ge

end Steps

end DevDriver.Analysis
