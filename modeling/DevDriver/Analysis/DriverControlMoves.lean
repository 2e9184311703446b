import DevDriver.Model.DriverControlThreads

/-!
# What a step of the driver control server does to the driver

The status of the driver, the event it waits on, the counter of its steps and the places of both
threads are the control state of the server.
-/

namespace DevDriver.Analysis

open Library Model DriverControlServer DriverStatus

/-! ## The control state -/

structure Control where
  driverStatus : DriverStatus
  driverResumedEvent : Bool
  stepCounter : ℤ
  initStepRequested : Bool
  requestThread : RequestThread
  driverThread : DriverThread

def control (t : DriverControlThreads) : Control where
  driverStatus := t.server.driverStatus
  driverResumedEvent := t.server.driverResumedEvent
  stepCounter := t.server.stepCounter
  initStepRequested := t.server.initStepRequested
  requestThread := t.requestThread
  driverThread := t.driverThread

def IsStopped (status : DriverStatus) : Prop :=
  status = .haltedOnPlatformInit ∨ status = .haltedOnDeviceInit ∨
    status = .haltedPostDeviceInit ∨ status = .paused

def IsInitialized (status : DriverStatus) : Prop :=
  status = .haltedPostDeviceInit ∨ status = .running ∨ status = .paused

/-- The step is one of the session thread that accepts a request or goes on with it, one of the
driver thread, or another one. -/
inductive ControlLabel where
  | quiet
  | acceptPause (session : ℕ)
  | acceptResume (session : ℕ)
  | acceptStep (session : ℕ) (count : ℤ)
  | acceptInitStep (session : ℕ)
  | continueRequest
  | beginPhase
  | tick
  | continueDriver

def requestLabel (s : DriverControlServer) (r : ℕ) (session : DriverControlSession) :
    ControlLabel :=
  if session.state = .processPayload then
    match session.payloadContainer.driverControlCommand with
    | .pauseDriverRequest => if s.driverStatus = .running then .acceptPause r else .quiet
    | .resumeDriverRequest =>
      if s.isHalted ∨ s.driverStatus = .paused then .acceptResume r else .quiet
    | .stepDriverRequest =>
      if s.startsStep then .acceptStep r (stepsOf session)
      else if s.startsInitStep then .acceptInitStep r
      else .quiet
    | _ => .quiet
  else .quiet

def label (t : DriverControlThreads) : DriverControlAction → ControlLabel
  | .updateSession r _ _ =>
    match t.sessions r with
    | none => .quiet
    | some session => requestLabel t.server r session
  | .continueRequest => .continueRequest
  | .advanceDriverInitState => .beginPhase
  | .driverTick => .tick
  | .continueDriver _ _ => .continueDriver
  | _ => .quiet

def SessionEvents (es : List DriverControlEvent) : Prop :=
  es = [] ∨ (∃ r, es = [.received r]) ∨ ∃ r bytes, es = [.sent r bytes]

/-- What a step does to the places of the two threads, and the events it tells. -/
inductive ControlMove (c : Control) : ControlLabel → List DriverControlEvent → Control → Prop where
  | quiet {es : List DriverControlEvent} (h : SessionEvents es) : ControlMove c .quiet es c
  | acceptPause {r : ℕ} (hidle : c.requestThread = .idle) (h : c.driverStatus = .running) :
      ControlMove c (.acceptPause r) [] { c with requestThread := .pausing r }
  | acceptResume {r : ℕ} (hidle : c.requestThread = .idle) (h : IsStopped c.driverStatus) :
      ControlMove c (.acceptResume r) [] { c with requestThread := .switching r }
  | acceptStep {r : ℕ} {n : ℤ} (hidle : c.requestThread = .idle)
      (h : c.driverStatus = .paused ∨ c.driverStatus = .haltedPostDeviceInit)
      (hcounter : c.stepCounter = 0) (hn : 1 ≤ n) :
      ControlMove c (.acceptStep r n) [.stepAccepted r n, .signalled]
        { c with driverStatus := .running, driverResumedEvent := true, stepCounter := n }
  | acceptInitStep {r : ℕ} (hidle : c.requestThread = .idle)
      (h : c.driverStatus = .haltedOnPlatformInit ∨ c.driverStatus = .haltedOnDeviceInit) :
      ControlMove c (.acceptInitStep r) [.initStepAccepted r, .signalled]
        { c with driverResumedEvent := true, initStepRequested := true }
  | pause {r : ℕ} (h : c.requestThread = .pausing r) :
      ControlMove c .continueRequest (assertion .pauseDriver (c.driverStatus = .running))
        { c with driverStatus := .paused, requestThread := .clearing r }
  | clearForPause {r : ℕ} (h : c.requestThread = .clearing r) :
      ControlMove c .continueRequest []
        { c with driverResumedEvent := false, requestThread := .idle }
  | switchToSignal {r : ℕ} (h : c.requestThread = .switching r) :
      ControlMove c .continueRequest [] { c with requestThread := .signalling r }
  | switchToResume {r : ℕ} (h : c.requestThread = .switching r)
      (hstatus : c.driverStatus = .paused ∨ c.driverStatus = .haltedPostDeviceInit) :
      ControlMove c .continueRequest [] { c with requestThread := .resuming r }
  | switchFailed {r : ℕ} (h : c.requestThread = .switching r)
      (hstatus : ¬ IsStopped c.driverStatus) :
      ControlMove c .continueRequest [.assertionFailed .handleResumeDriverRequest]
        { c with requestThread := .idle }
  | resume {r : ℕ} {b : Bool} (h : c.requestThread = .resuming r)
      (hb : IsInitialized c.driverStatus → c.driverStatus ≠ .running → b = true) :
      ControlMove c .continueRequest (assertion .resumeDriver b)
        { c with driverStatus := .running, requestThread := .signalling r }
  | signal {r : ℕ} (h : c.requestThread = .signalling r) :
      ControlMove c .continueRequest [.signalled]
        { c with driverResumedEvent := true, requestThread := .idle }
  | beginPhase (hthread : c.driverThread = .outside) (h : c.driverStatus.isPhase = true) :
      ControlMove c .beginPhase [] { c with driverThread := .discover c.driverStatus }
  | tickLast (hthread : c.driverThread = .outside) (hcounter : c.stepCounter = 1) :
      ControlMove c .tick (.ticked :: assertion .pauseDriver (c.driverStatus = .running))
        { c with
          driverStatus := .paused
          driverResumedEvent := false
          stepCounter := 0
          driverThread := .readStatus }
  | tickStep (hthread : c.driverThread = .outside) (hcounter : 1 < c.stepCounter) :
      ControlMove c .tick [.ticked]
        { c with stepCounter := c.stepCounter - 1, driverThread := .readStatus }
  | tick (hthread : c.driverThread = .outside)
      (h : ¬ (IsInitialized c.driverStatus ∧ 0 < c.stepCounter)) :
      ControlMove c .tick [.ticked] { c with driverThread := .readStatus }
  | discover {curr : DriverStatus} (hthread : c.driverThread = .discover curr) :
      ControlMove c .continueDriver []
        { c with driverThread := .search curr c.initStepRequested }
  | searchHalt {curr : DriverStatus} {ret : Bool} (hthread : c.driverThread = .search curr ret) :
      ControlMove c .continueDriver [] { c with driverThread := .halt curr }
  | searchSkip {curr : DriverStatus} (hthread : c.driverThread = .search curr false) :
      ControlMove c .continueDriver [.notHalted] { c with driverThread := .advance curr }
  | halt {curr : DriverStatus} (hthread : c.driverThread = .halt curr) :
      ControlMove c .continueDriver [.halted]
        { c with driverStatus := c.driverStatus.halted, driverThread := .clear curr }
  | clear {curr : DriverStatus} (hthread : c.driverThread = .clear curr) :
      ControlMove c .continueDriver []
        { c with driverResumedEvent := false, driverThread := .resetFlag curr }
  | resetFlag {curr : DriverStatus} (hthread : c.driverThread = .resetFlag curr) :
      ControlMove c .continueDriver []
        { c with initStepRequested := false, driverThread := .enterWait (some curr) }
  | enterWait {after : Option DriverStatus} {b : Bool} (hthread : c.driverThread = .enterWait after)
      (hb : IsStopped c.driverStatus → b = true) :
      ControlMove c .continueDriver (assertion .waitForResume b)
        { c with driverThread := .wait after }
  | waitEnds {after : Option DriverStatus} (hthread : c.driverThread = .wait after) :
      ControlMove c .continueDriver [.waitEnded] { c with driverThread := .leave after }
  | waitGoesOn {after : Option DriverStatus} (hthread : c.driverThread = .wait after)
      (h : c.driverResumedEvent = false) : ControlMove c .continueDriver [] c
  | advance {curr : DriverStatus} (hthread : c.driverThread = .advance curr) :
      ControlMove c .continueDriver []
        { c with driverStatus := c.driverStatus.next curr, driverThread := .outside }
  | readPaused (hthread : c.driverThread = .readStatus) (h : c.driverStatus = .paused) :
      ControlMove c .continueDriver [] { c with driverThread := .enterWait none }
  | readOther (hthread : c.driverThread = .readStatus) :
      ControlMove c .continueDriver [] { c with driverThread := .outside }

/-! ## Every step is a move -/

section Steps

variable {t u : DriverControlThreads} {es : List DriverControlEvent}

variable {s : DriverControlServer}

theorem isHalted_or_paused_iff :
    s.isHalted ∨ s.driverStatus = .paused ↔ IsStopped s.driverStatus := by
  simp [isHalted, IsStopped, or_assoc]

theorem isDriverInitialized_iff : s.isDriverInitialized = true ↔ IsInitialized s.driverStatus := by
  simp [isDriverInitialized, IsInitialized]

theorem one_le_stepsOf (session : DriverControlSession) :
    1 ≤ stepsOf session :=
  le_max_right _ _

theorem control_finishRequest (r : ℕ) (data : List UInt8) (t : DriverControlThreads) :
    control (t.finishRequest r data) = { control t with requestThread := .idle } := by
  rw [DriverControlThreads.finishRequest]
  cases t.sessions r <;> rfl

theorem control_processPayload {session : DriverControlSession}
    (hpause : session.payloadContainer.driverControlCommand ≠ .pauseDriverRequest)
    (hresume : session.payloadContainer.driverControlCommand ≠ .resumeDriverRequest)
    (hstep : session.payloadContainer.driverControlCommand ≠ .stepDriverRequest) (r : ℕ)
    (t : DriverControlThreads) (ht : t.server = s) :
    control ((t.setServer (s.processPayload session).1).setSession r
      (s.processPayload session).2) = control t := by
  subst ht
  have hclock : ∀ session, (t.server.handleSetDeviceClockModeRequest session).1.driverStatus =
        t.server.driverStatus ∧
      (t.server.handleSetDeviceClockModeRequest session).1.driverResumedEvent =
        t.server.driverResumedEvent ∧
      (t.server.handleSetDeviceClockModeRequest session).1.stepCounter =
        t.server.stepCounter ∧
      (t.server.handleSetDeviceClockModeRequest session).1.initStepRequested =
        t.server.initStepRequested := by
    intro session
    dsimp only [handleSetDeviceClockModeRequest]
    split
    · split
      · exact ⟨rfl, rfl, rfl, rfl⟩
      · split <;> exact ⟨rfl, rfl, rfl, rfl⟩
    · exact ⟨rfl, rfl, rfl, rfl⟩
  obtain ⟨hstatus, hevent, hcounter, hflag⟩ := hclock session
  rw [processPayload]
  split <;> first | contradiction | rfl | skip
  simp only [control, DriverControlThreads.setServer, DriverControlThreads.setSession, hstatus,
    hevent, hcounter, hflag]

theorem controlMove_processPayload (hidle : t.requestThread = .idle) {r : ℕ}
    {session : DriverControlSession} (hstate : session.state = .processPayload) :
    ControlMove (control t) (requestLabel t.server r session) (t.processPayload r session).2
      (control (t.processPayload r session).1) := by
  rw [requestLabel, if_pos hstate]
  by_cases hpause : session.payloadContainer.driverControlCommand = .pauseDriverRequest
  · simp only [DriverControlThreads.processPayload, hpause]
    split
    · rename_i hstatus
      exact .acceptPause (c := control t) hidle hstatus
    · exact .quiet (.inl rfl)
  by_cases hresume : session.payloadContainer.driverControlCommand = .resumeDriverRequest
  · simp only [DriverControlThreads.processPayload, hresume]
    split
    · rename_i hstatus
      exact .acceptResume (c := control t) hidle (isHalted_or_paused_iff.mp hstatus)
    · exact .quiet (.inl rfl)
  by_cases hstep : session.payloadContainer.driverControlCommand = .stepDriverRequest
  · simp only [DriverControlThreads.processPayload, hstep, DriverControlThreads.stepEvents,
      handleStepDriverRequest]
    split
    · rename_i hstarts
      obtain ⟨hstatus, hcounter⟩ : (t.server.driverStatus = .paused ∨
          t.server.driverStatus = .haltedPostDeviceInit) ∧ t.server.stepCounter = 0 := by
        simpa [startsStep] using hstarts
      have hmove := ControlMove.acceptStep (c := control t) (r := r) hidle hstatus hcounter
        (one_le_stepsOf session)
      rw [hcounter, zero_add]
      exact hmove
    · split
      · rename_i hstarts
        have hstatus : t.server.driverStatus = .haltedOnPlatformInit ∨
            t.server.driverStatus = .haltedOnDeviceInit := by
          simpa [startsInitStep] using hstarts
        exact .acceptInitStep (c := control t) (r := r) hidle hstatus
      · exact .quiet (.inl rfl)
  · have hother : t.processPayload r session =
        ((t.setServer (t.server.processPayload session).1).setSession r
          (t.server.processPayload session).2, []) := by
      rw [DriverControlThreads.processPayload]
      split <;> first | contradiction | rfl
    have hquiet : control (t.processPayload r session).1 = control t := by
      rw [hother]
      exact control_processPayload hpause hresume hstep r t rfl
    rw [hquiet, hother]
    split <;> first | contradiction | exact .quiet (.inl rfl)

theorem controlMove_updateSession (hidle : t.requestThread = .idle) {r : ℕ}
    (session : DriverControlSession) (receive : ReceiveAnswer) (send : Result) :
    ControlMove (control t) (requestLabel t.server r session)
      (t.updateSession r session receive send).2
      (control (t.updateSession r session receive send).1) := by
  have hlabel : session.state ≠ .processPayload → requestLabel t.server r session = .quiet := by
    intro hstate
    rw [requestLabel, if_neg hstate]
  unfold DriverControlThreads.updateSession
  cases hstate : session.state with
  | receivePayload =>
    rw [hlabel (by rw [hstate]; nofun)]
    cases receive with
    | payload p => exact .quiet (.inr (.inl ⟨r, rfl⟩))
    | failure result hfailure => exact .quiet (.inl rfl)
  | processPayload => exact controlMove_processPayload hidle hstate
  | sendPayload =>
    rw [hlabel (by rw [hstate]; nofun)]
    dsimp only
    split
    · exact .quiet (.inr (.inr ⟨r, _, rfl⟩))
    · exact .quiet (.inl rfl)
  | stepDriver =>
    rw [hlabel (by rw [hstate]; nofun)]
    dsimp only
    split <;> exact .quiet (.inl rfl)

theorem controlMove_continueRequest (h : t.continueRequest = some (u, es)) :
    ControlMove (control t) .continueRequest es (control u) := by
  rw [DriverControlThreads.continueRequest] at h
  split at h
  · cases h
  · rename_i r hthread
    cases h
    exact .pause hthread
  · rename_i r hthread
    cases h
    rw [control_finishRequest]
    exact .clearForPause (c := control t) hthread
  · rename_i r hthread
    split at h
    · cases h
      exact .switchToSignal hthread
    · cases h
      exact .switchToSignal hthread
    · rename_i hstatus
      cases h
      exact .switchToResume hthread (.inr hstatus)
    · rename_i hstatus
      cases h
      exact .switchToResume hthread (.inl hstatus)
    · rename_i hdevice hplatform hpost hpaused
      cases h
      rw [control_finishRequest]
      refine .switchFailed (c := control t) hthread ?_
      rintro (hstatus | hstatus | hstatus | hstatus)
      · exact hplatform hstatus
      · exact hdevice hstatus
      · exact hpost hstatus
      · exact hpaused hstatus
  · rename_i r hthread
    cases h
    refine .resume (c := control t) hthread fun hinitialized hrunning => ?_
    rw [Bool.and_eq_true]
    exact ⟨isDriverInitialized_iff.mpr hinitialized, decide_eq_true hrunning⟩
  · rename_i r hthread
    cases h
    rw [control_finishRequest]
    exact .signal (c := control t) hthread

theorem controlMove_driverTick (hthread : t.driverThread = .outside) :
    ControlMove (control t) .tick t.driverTick.2 (control t.driverTick.1) := by
  rw [DriverControlThreads.driverTick]
  split
  · rename_i hsteps
    dsimp only
    split
    · rename_i hlast
      have hone : t.server.stepCounter = 1 := by omega
      have hmove := ControlMove.tickLast (c := control t) hthread hone
      rw [← hlast] at hmove
      exact hmove
    · rename_i hmore
      have hcounter : 1 < t.server.stepCounter := by omega
      exact .tickStep (c := control t) hthread hcounter
  · rename_i hsteps
    exact .tick (c := control t) hthread fun h => hsteps ⟨isDriverInitialized_iff.mpr h.1, h.2⟩

theorem searchClient_ret {ret : Bool} {found : Option ClientId}
    (h : (DriverControlThreads.searchClient ret found s).1 = false) : ret = false := by
  unfold DriverControlThreads.searchClient at h
  split at h
  · split at h
    · split at h
      · exact h
      · cases h
    · cases h
  · exact h

theorem control_searchClient (ret : Bool) (found : Option ClientId) (t : DriverControlThreads)
    (thread : DriverThread) :
    control ((t.setServer (DriverControlThreads.searchClient ret found t.server).2).setDriverThread
      thread) = { control t with driverThread := thread } := by
  unfold DriverControlThreads.searchClient
  split
  · split
    · split <;> rfl
    · rfl
  · rfl

theorem controlMove_continueDriver {found : Option ClientId} {timedOut : Bool}
    (h : t.continueDriver found timedOut = some (u, es)) :
    ControlMove (control t) .continueDriver es (control u) := by
  rw [DriverControlThreads.continueDriver] at h
  split at h
  · cases h
  · rename_i curr hthread
    cases h
    exact .discover (c := control t) hthread
  · rename_i curr ret hthread
    dsimp only at h
    split at h
    · cases h
      rw [control_searchClient]
      exact .searchHalt (c := control t) hthread
    · rename_i hret
      cases h
      obtain rfl := searchClient_ret (eq_false_of_ne_true hret)
      rw [control_searchClient]
      exact .searchSkip (c := control t) hthread
  · rename_i curr hthread
    cases h
    exact .halt (c := control t) hthread
  · rename_i curr hthread
    cases h
    exact .clear (c := control t) hthread
  · rename_i curr hthread
    cases h
    exact .resetFlag (c := control t) hthread
  · rename_i after hthread
    cases h
    refine .enterWait (c := control t) hthread fun hstopped => ?_
    rw [Bool.or_eq_true, decide_eq_true_iff]
    exact isHalted_or_paused_iff.mpr hstopped
  · rename_i after hthread
    split at h
    · cases h
      exact .waitEnds (c := control t) hthread
    · rename_i hwait
      cases h
      exact .waitGoesOn hthread (eq_false_of_ne_true fun hevent => hwait (.inl hevent))
  · rename_i curr hthread
    cases h
    exact .advance (c := control t) hthread
  · rename_i hthread
    split at h
    · rename_i hstatus
      cases h
      exact .readPaused hthread hstatus
    · cases h
      exact .readOther hthread

theorem controlMove_of_step {a : DriverControlAction} (h : t.step a = some (u, es)) :
    ControlMove (control t) (label t a) es (control u) := by
  cases a with
  | setNumGpus numGpus =>
    cases h
    have hcontrol : control (t.setServer (t.server.setNumGpus numGpus)) = control t := by
      rw [setNumGpus]
      split <;> rfl
    rw [hcontrol]
    exact .quiet (.inl rfl)
  | setDeviceClockCallback deviceClockCallbackInfo =>
    cases h
    exact .quiet (.inl rfl)
  | setDriverInitClientId clientId =>
    cases h
    exact .quiet (.inl rfl)
  | sessionEstablished version =>
    obtain ⟨-, ⟨⟩⟩ := Option.ite_none_right_eq_some.mp h
    exact .quiet (.inl rfl)
  | sessionTerminated r =>
    obtain ⟨-, ⟨⟩⟩ := Option.ite_none_right_eq_some.mp h
    exact .quiet (.inl rfl)
  | updateSession r receive send =>
    obtain ⟨hidle, h⟩ := Option.ite_none_right_eq_some.mp h
    obtain ⟨session, hsession, heq⟩ := Option.map_eq_some_iff.mp h
    have hmove := controlMove_updateSession (r := r) hidle session receive send
    rw [heq] at hmove
    rw [label, hsession]
    exact hmove
  | continueRequest => exact controlMove_continueRequest h
  | advanceDriverInitState =>
    obtain ⟨hphase, ⟨⟩⟩ := Option.ite_none_right_eq_some.mp h
    exact .beginPhase (c := control t) hphase.1 hphase.2
  | driverTick =>
    obtain ⟨hthread, h⟩ := Option.ite_none_right_eq_some.mp h
    have hmove := controlMove_driverTick hthread
    rw [Option.some.inj h] at hmove
    exact hmove
  | continueDriver found timedOut => exact controlMove_continueDriver h

end Steps

/-! ## The status and the place of the driver thread -/

def IsOutside (status : DriverStatus) : Prop :=
  status.isPhase = true ∨ status = .running ∨ status = .paused

/-- A status that is made visible by a halt at the end of a phase.  Requests that come during the
last halt may have resumed and paused the driver since. -/
def HaltedAfter (status curr : DriverStatus) : Prop :=
  status = curr.halted ∨ (curr = .lateDeviceInit ∧ IsInitialized status)

def StatusAt (status : DriverStatus) : DriverThread → Prop
  | .outside => IsOutside status
  | .discover curr => curr.isPhase = true ∧ status = curr
  | .search curr _ => curr.isPhase = true ∧ status = curr
  | .halt curr => curr.isPhase = true ∧ status = curr
  | .clear curr => curr.isPhase = true ∧ HaltedAfter status curr
  | .resetFlag curr => curr.isPhase = true ∧ HaltedAfter status curr
  | .enterWait (some curr) => curr.isPhase = true ∧ HaltedAfter status curr
  | .enterWait none => IsOutside status
  | .wait (some curr) => curr.isPhase = true ∧ HaltedAfter status curr
  | .wait none => IsOutside status
  | .advance curr => curr.isPhase = true ∧ (status = curr ∨ HaltedAfter status curr)
  | .readStatus => IsOutside status

def NeedsInitialized : RequestThread → Prop
  | .pausing _ => True
  | .clearing _ => True
  | .resuming _ => True
  | _ => False

/-- The status fits the place at which each thread is. -/
structure Coherent (c : Control) : Prop where
  status : StatusAt c.driverStatus c.driverThread
  initialized : NeedsInitialized c.requestThread → IsInitialized c.driverStatus

section Coherence

variable {status status' curr : DriverStatus} {c c' : Control} {thread : DriverThread}

theorem not_initialized_of_isPhase (h : status.isPhase = true) : ¬ IsInitialized status := by
  cases status <;> simp_all [isPhase, IsInitialized]

theorem HaltedAfter.last (h : HaltedAfter status curr) (hphase : curr.isPhase = true)
    (hinit : IsInitialized status) : curr = .lateDeviceInit := by
  rcases h with rfl | ⟨h, -⟩
  · cases curr <;> simp_all [isPhase, halted, IsInitialized]
  · exact h

theorem StatusAt.initialized (h : StatusAt status thread) (hinit : IsInitialized status)
    (h' : status' = .running ∨ status' = .paused) : StatusAt status' thread := by
  have hinit' : IsInitialized status' := .inr h'
  have hhalted : ∀ {curr : DriverStatus}, curr.isPhase = true ∧ HaltedAfter status curr →
      curr.isPhase = true ∧ HaltedAfter status' curr := by
    rintro curr ⟨hphase, h⟩
    exact ⟨hphase, .inr ⟨h.last hphase hinit, hinit'⟩⟩
  have hcurr : ∀ {curr : DriverStatus}, curr.isPhase = true → status ≠ curr := by
    rintro curr hphase rfl
    exact not_initialized_of_isPhase hphase hinit
  cases thread with
  | outside => exact .inr h'
  | discover curr => exact absurd h.2 (hcurr h.1)
  | search curr ret => exact absurd h.2 (hcurr h.1)
  | halt curr => exact absurd h.2 (hcurr h.1)
  | clear curr => exact hhalted h
  | resetFlag curr => exact hhalted h
  | enterWait after =>
    cases after with
    | none => exact .inr h'
    | some curr => exact hhalted h
  | wait after =>
    cases after with
    | none => exact .inr h'
    | some curr => exact hhalted h
  | advance curr =>
    rcases h with ⟨hphase, h | h⟩
    · exact absurd h (hcurr hphase)
    · exact ⟨hphase, .inr (hhalted ⟨hphase, h⟩).2⟩
  | readStatus => exact .inr h'

theorem next_of_halted (hphase : curr.isPhase = true)
    (h : status = curr ∨ HaltedAfter status curr) :
    (curr = .lateDeviceInit ∧ status.next curr = .running) ∨
      (¬ IsInitialized status ∧ (status.next curr).isPhase = true) := by
  cases curr <;> simp_all [isPhase, next]
  · rcases h with rfl | rfl | ⟨⟨⟩, -⟩ <;> simp [IsInitialized, halted]
  · rcases h with rfl | rfl | ⟨⟨⟩, -⟩ <;> simp [IsInitialized, halted]

variable {l : ControlLabel} {es : List DriverControlEvent}

/-- Every access keeps the status and the places together. -/
theorem Coherent.step (h : Coherent c) (hmove : ControlMove c l es c') : Coherent c' := by
  obtain ⟨hstatus, hinit⟩ := h
  cases hmove with
  | quiet => exact ⟨hstatus, hinit⟩
  | acceptPause hidle h => exact ⟨hstatus, fun _ => .inr (.inl h)⟩
  | acceptResume hidle h => exact ⟨hstatus, nofun⟩
  | acceptStep hidle h =>
    have hinitialized : IsInitialized c.driverStatus := by
      rcases h with h | h
      · exact .inr (.inr h)
      · exact .inl h
    exact ⟨hstatus.initialized hinitialized (.inl rfl), fun _ => .inr (.inl rfl)⟩
  | acceptInitStep => exact ⟨hstatus, hinit⟩
  | pause h =>
    have hinitialized : IsInitialized c.driverStatus := hinit (by rw [h]; trivial)
    exact ⟨hstatus.initialized hinitialized (.inr rfl), fun _ => .inr (.inr rfl)⟩
  | clearForPause => exact ⟨hstatus, nofun⟩
  | switchToSignal => exact ⟨hstatus, nofun⟩
  | switchToResume h hresumed =>
    refine ⟨hstatus, fun _ => ?_⟩
    rcases hresumed with h | h
    · exact .inr (.inr h)
    · exact .inl h
  | switchFailed => exact ⟨hstatus, nofun⟩
  | resume h =>
    have hinitialized : IsInitialized c.driverStatus := hinit (by rw [h]; trivial)
    exact ⟨hstatus.initialized hinitialized (.inl rfl), nofun⟩
  | signal => exact ⟨hstatus, nofun⟩
  | beginPhase hthread h => exact ⟨⟨h, rfl⟩, hinit⟩
  | tickLast => exact ⟨.inr (.inr rfl), fun _ => .inr (.inr rfl)⟩
  | tickStep hthread =>
    rw [hthread] at hstatus
    exact ⟨hstatus, hinit⟩
  | tick hthread =>
    rw [hthread] at hstatus
    exact ⟨hstatus, hinit⟩
  | discover hthread =>
    rw [hthread] at hstatus
    exact ⟨hstatus, hinit⟩
  | searchHalt hthread =>
    rw [hthread] at hstatus
    exact ⟨hstatus, hinit⟩
  | searchSkip hthread =>
    rw [hthread] at hstatus
    exact ⟨⟨hstatus.1, .inl hstatus.2⟩, hinit⟩
  | halt hthread =>
    rw [hthread] at hstatus
    obtain ⟨hphase, heq⟩ := hstatus
    refine ⟨⟨hphase, .inl ?_⟩, fun hneeds => ?_⟩
    · dsimp only
      rw [heq]
    · rw [← heq] at hphase
      exact absurd (hinit hneeds) (not_initialized_of_isPhase hphase)
  | clear hthread =>
    rw [hthread] at hstatus
    exact ⟨hstatus, hinit⟩
  | resetFlag hthread =>
    rw [hthread] at hstatus
    exact ⟨hstatus, hinit⟩
  | enterWait hthread =>
    rename_i after b hb
    rw [hthread] at hstatus
    cases after <;> exact ⟨hstatus, hinit⟩
  | waitEnds hthread =>
    rename_i after
    rw [hthread] at hstatus
    cases after with
    | none => exact ⟨hstatus, hinit⟩
    | some curr => exact ⟨⟨hstatus.1, .inr hstatus.2⟩, hinit⟩
  | waitGoesOn => exact ⟨hstatus, hinit⟩
  | advance hthread =>
    rw [hthread] at hstatus
    rcases next_of_halted hstatus.1 hstatus.2 with ⟨-, hnext⟩ | ⟨hinitialized, hnext⟩
    · exact ⟨.inr (.inl hnext), fun _ => .inr (.inl hnext)⟩
    · exact ⟨.inl hnext, fun hneeds => absurd (hinit hneeds) hinitialized⟩
  | readPaused hthread =>
    rw [hthread] at hstatus
    exact ⟨hstatus, hinit⟩
  | readOther hthread =>
    rw [hthread] at hstatus
    exact ⟨hstatus, hinit⟩

theorem coherent_init {t : DriverControlThreads} (h : driverControlMachine.init t) :
    Coherent (control t) := by
  obtain ⟨clientInfo, rfl⟩ := h
  exact ⟨.inl rfl, nofun⟩

theorem coherent_of_reachable {t : DriverControlThreads} (h : driverControlMachine.Reachable t) :
    Coherent (control t) :=
  h.invariant (P := fun t => Coherent (control t)) (fun _ hinit => coherent_init hinit)
    fun _ _ _ _ _ hcoherent hstep => hcoherent.step (controlMove_of_step hstep)

theorem ControlMove.initialized (hmove : ControlMove c l es c') (h : Coherent c)
    (hinit : IsInitialized c.driverStatus) : IsInitialized c'.driverStatus := by
  cases hmove with
  | acceptStep => exact .inr (.inl rfl)
  | pause => exact .inr (.inr rfl)
  | resume => exact .inr (.inl rfl)
  | tickLast => exact .inr (.inr rfl)
  | halt hthread =>
    have hstatus := h.status
    rw [hthread] at hstatus
    obtain ⟨hphase, heq⟩ := hstatus
    rw [← heq] at hphase
    exact absurd hinit (not_initialized_of_isPhase hphase)
  | advance hthread =>
    have hstatus := h.status
    rw [hthread] at hstatus
    rcases next_of_halted hstatus.1 hstatus.2 with ⟨-, hnext⟩ | ⟨hinitialized, -⟩
    · exact .inr (.inl hnext)
    · exact absurd hinit hinitialized
  | _ => exact hinit

/-- The order of the statuses during the initialization of the driver. -/
def initOrder : DriverStatus → ℕ
  | .platformInit => 0
  | .haltedOnPlatformInit => 1
  | .earlyDeviceInit => 2
  | .haltedOnDeviceInit => 3
  | .lateDeviceInit => 4
  | .haltedPostDeviceInit => 5
  | .running => 6
  | .paused => 6

theorem initOrder_le (status : DriverStatus) : initOrder status ≤ 6 := by
  cases status <;> decide

theorem initOrder_halted (h : curr.isPhase = true) : initOrder curr ≤ initOrder curr.halted := by
  cases curr <;> simp_all [isPhase, halted, initOrder]

theorem initOrder_next (hphase : curr.isPhase = true)
    (h : status = curr ∨ HaltedAfter status curr) :
    initOrder status ≤ initOrder (status.next curr) := by
  rcases next_of_halted hphase h with ⟨-, hnext⟩ | ⟨hinitialized, -⟩
  · rw [hnext]
    exact initOrder_le status
  · rcases h with rfl | rfl | ⟨-, hinit⟩
    · cases status <;> simp_all [isPhase, next, initOrder]
    · cases curr <;>
        simp_all [isPhase, next, halted, initOrder]
    · exact absurd hinit hinitialized

theorem ControlMove.advances (hmove : ControlMove c l es c') (h : Coherent c) :
    initOrder c.driverStatus ≤ initOrder c'.driverStatus := by
  cases hmove with
  | acceptStep => exact initOrder_le _
  | pause => exact initOrder_le _
  | resume => exact initOrder_le _
  | tickLast => exact initOrder_le _
  | halt hthread =>
    have hstatus := h.status
    rw [hthread] at hstatus
    obtain ⟨hphase, heq⟩ := hstatus
    rw [← heq] at hphase
    exact initOrder_halted hphase
  | advance hthread =>
    have hstatus := h.status
    rw [hthread] at hstatus
    exact initOrder_next hstatus.1 hstatus.2
  | _ => exact le_rfl

end Coherence

end DevDriver.Analysis
