import DevDriver.Analysis.DriverResumes
import DevDriver.Analysis.DriverSessions

/-!
# Steps of the driver

A step request that an initialized driver accepts sets the counter and lets the driver run; each
tick takes one off, and the last one pauses the driver again.
-/

namespace DevDriver.Analysis

open Library Model DriverControlServer DriverControlEvent

/-- The driver thread is between making a halted or paused status visible, or seeing it, and its
wait. -/
def beforeWait : DriverThread → Bool
  | .clear _ => true
  | .resetFlag _ => true
  | .enterWait _ => true
  | _ => false

def isResuming : RequestThread → Bool
  | .resuming _ => true
  | _ => false

/-- No pause request is accepted while there are steps left, no request makes the driver run that
is about to wait, and the driver does not leave its last initialization phase while a request is
about to call `ResumeDriver`. -/
def KeepsStepsAt (c : Control) : ControlLabel → Prop
  | .acceptPause _ => c.stepCounter = 0
  | .acceptStep _ _ => beforeWait c.driverThread = false
  | .continueRequest => isResuming c.requestThread = true → beforeWait c.driverThread = false
  | .continueDriver =>
    c.driverThread = .advance .lateDeviceInit → isResuming c.requestThread = false
  | _ => True

instance (c : Control) (l : ControlLabel) : Decidable (KeepsStepsAt c l) :=
  match l with
  | .acceptPause _ => inferInstanceAs (Decidable (c.stepCounter = 0))
  | .acceptStep _ _ => inferInstanceAs (Decidable (beforeWait c.driverThread = false))
  | .continueRequest => inferInstanceAs
      (Decidable (isResuming c.requestThread = true → beforeWait c.driverThread = false))
  | .continueDriver => inferInstanceAs
      (Decidable (c.driverThread = .advance .lateDeviceInit → isResuming c.requestThread = false))
  | .quiet => isTrue trivial
  | .acceptResume _ => isTrue trivial
  | .acceptInitStep _ => isTrue trivial
  | .beginPhase => isTrue trivial
  | .tick => isTrue trivial

/-- The step does not disturb steps that are still to be made. -/
def KeepsSteps (t : DriverControlThreads) (a : DriverControlAction) : Prop :=
  KeepsStepsAt (control t) (label t a)

instance (t : DriverControlThreads) (a : DriverControlAction) : Decidable (KeepsSteps t a) :=
  inferInstanceAs (Decidable (KeepsStepsAt (control t) (label t a)))

/-- The assertions about the steps. -/
def IsStepAssertion : DriverControlEvent → Prop
  | .assertionFailed .pauseDriver => True
  | .assertionFailed .resumeDriver => True
  | .assertionFailed .waitForResume => True
  | _ => False

/-! ## What a step keeps -/

/-- The count of steps, the status and the places of the threads fit. -/
structure Steady (c : Control) : Prop where
  coherent : Coherent c
  nonneg : 0 ≤ c.stepCounter
  running : 0 < c.stepCounter → c.driverStatus = .running
  pausing : ∀ r, c.requestThread = .pausing r → c.driverStatus = .running ∧ c.stepCounter = 0
  resuming : isResuming c.requestThread = true →
    c.driverStatus = .paused ∨ c.driverStatus = .haltedPostDeviceInit
  stopped : beforeWait c.driverThread = true → IsStopped c.driverStatus

section Steps

variable {c c' : Control} {l : ControlLabel} {es : List DriverControlEvent}

theorem Steady.counter_eq_zero (h : Steady c) (hstatus : c.driverStatus ≠ .running) :
    c.stepCounter = 0 := by
  have hnonneg := h.nonneg
  by_contra hcounter
  exact hstatus (h.running (by omega))

theorem Steady.uninitialized (h : Steady c) (hinit : ¬ IsInitialized c.driverStatus) :
    c.stepCounter = 0 ∧ (∀ r, c.requestThread ≠ .pausing r) ∧
      isResuming c.requestThread = false := by
  refine ⟨h.counter_eq_zero fun hstatus => ?_, fun r hpausing => ?_, ?_⟩
  · exact hinit (.inr (.inl hstatus))
  · exact hinit (.inr (.inl (h.pausing r hpausing).1))
  · apply eq_false_of_ne_true
    intro hresuming
    rcases h.resuming hresuming with hstatus | hstatus
    · exact hinit (.inr (.inr hstatus))
    · exact hinit (.inl hstatus)

theorem Steady.of_same (h : Steady c) (hmove : ControlMove c l es c')
    (hstatus : c'.driverStatus = c.driverStatus) (hcounter : c'.stepCounter = c.stepCounter)
    (hpausing : ∀ r, c'.requestThread = .pausing r →
      c.driverStatus = .running ∧ c.stepCounter = 0)
    (hresuming : isResuming c'.requestThread = true →
      c.driverStatus = .paused ∨ c.driverStatus = .haltedPostDeviceInit)
    (hstopped : beforeWait c'.driverThread = true → IsStopped c.driverStatus) : Steady c' := by
  refine ⟨h.coherent.step hmove, ?_, ?_, ?_, ?_, ?_⟩
  · rw [hcounter]
    exact h.nonneg
  · rw [hcounter, hstatus]
    exact h.running
  · rw [hcounter, hstatus]
    exact hpausing
  · rw [hstatus]
    exact hresuming
  · rw [hstatus]
    exact hstopped

/-- A step keeps the steps that are asked for and those made in agreement. -/
theorem Steady.step (h : Steady c) (hmove : ControlMove c l es c') (hkeeps : KeepsStepsAt c l) :
    Steady c' := by
  have hcoherent : Coherent c' := h.coherent.step hmove
  have hsame := fun hstatus hcounter => h.of_same hmove hstatus hcounter
  cases hmove with
  | quiet => exact h
  | acceptPause hidle hstatus =>
    exact hsame rfl rfl (fun _ _ => ⟨hstatus, hkeeps⟩) nofun h.stopped
  | acceptResume => exact hsame rfl rfl nofun nofun h.stopped
  | acceptStep hidle hstatus hcounter hn =>
    refine ⟨hcoherent, by dsimp only; omega, fun _ => rfl, fun r hpausing => ?_,
      fun hresuming => ?_, fun hbefore => ?_⟩
    · dsimp only at hpausing
      rw [hidle] at hpausing
      cases hpausing
    · dsimp only at hresuming
      rw [hidle] at hresuming
      cases hresuming
    · have hbefore' : beforeWait c.driverThread = false := hkeeps
      rw [hbefore'] at hbefore
      cases hbefore
  | acceptInitStep => exact hsame rfl rfl h.pausing h.resuming h.stopped
  | pause hpausing =>
    obtain ⟨-, hcounter⟩ := h.pausing _ hpausing
    refine ⟨hcoherent, h.nonneg, fun hpos => ?_, nofun, nofun, fun _ => .inr (.inr (.inr rfl))⟩
    dsimp only at hpos
    omega
  | clearForPause => exact hsame rfl rfl nofun nofun h.stopped
  | switchToSignal => exact hsame rfl rfl nofun nofun h.stopped
  | switchToResume _ hstatus => exact hsame rfl rfl nofun (fun _ => hstatus) h.stopped
  | switchFailed => exact hsame rfl rfl nofun nofun h.stopped
  | resume hresuming =>
    have hthread : isResuming c.requestThread = true := by
      rw [hresuming]
      rfl
    refine ⟨hcoherent, h.nonneg, fun _ => rfl, nofun, nofun, fun hbefore => ?_⟩
    have hbefore' : beforeWait c.driverThread = false := hkeeps hthread
    rw [hbefore'] at hbefore
    cases hbefore
  | signal => exact hsame rfl rfl nofun nofun h.stopped
  | tickLast hthread hcounter =>
    refine ⟨hcoherent, le_refl _, fun hpos => absurd hpos (lt_irrefl _), fun r hpausing => ?_,
      fun _ => .inl rfl, nofun⟩
    obtain ⟨-, hzero⟩ := h.pausing r hpausing
    omega
  | tickStep hthread hcounter =>
    have hrunning : c.driverStatus = .running := h.running (by omega)
    refine ⟨hcoherent, by dsimp only; omega, fun _ => hrunning, fun r hpausing => ?_, h.resuming,
      nofun⟩
    obtain ⟨-, hzero⟩ := h.pausing r hpausing
    omega
  | halt hthread =>
    have hstatus := h.coherent.status
    rw [hthread] at hstatus
    obtain ⟨hphase, heq⟩ := hstatus
    rw [← heq] at hphase
    obtain ⟨hzero, hpausing, hresuming⟩ := h.uninitialized (not_initialized_of_isPhase hphase)
    refine ⟨hcoherent, h.nonneg, fun hpos => ?_, fun r hr => absurd hr (hpausing r), fun hr => ?_,
      fun _ => isStopped_halted hphase⟩
    · dsimp only at hpos
      omega
    · dsimp only at hr
      rw [hresuming] at hr
      cases hr
  | clear hthread =>
    exact hsame rfl rfl h.pausing h.resuming fun _ => h.stopped (by rw [hthread]; rfl)
  | resetFlag hthread =>
    exact hsame rfl rfl h.pausing h.resuming fun _ => h.stopped (by rw [hthread]; rfl)
  | enterWait hthread => exact hsame rfl rfl h.pausing h.resuming nofun
  | waitEnds =>
    rename_i after hthread
    cases after <;> exact hsame rfl rfl h.pausing h.resuming nofun
  | waitGoesOn => exact h
  | advance hthread =>
    have hstatus := h.coherent.status
    rw [hthread] at hstatus
    rcases next_of_halted hstatus.1 hstatus.2 with ⟨rfl, hnext⟩ | ⟨hinitialized, hnext⟩
    · refine ⟨hcoherent, h.nonneg, fun _ => hnext, fun r hpausing => ?_, fun hresuming => ?_, nofun⟩
      · exact ⟨hnext, (h.pausing r hpausing).2⟩
      · have hidle : isResuming c.requestThread = false := hkeeps hthread
        rw [hidle] at hresuming
        cases hresuming
    · obtain ⟨hzero, hpausing, hresuming⟩ := h.uninitialized hinitialized
      refine ⟨hcoherent, h.nonneg, fun hpos => ?_, fun r hr => absurd hr (hpausing r), fun hr => ?_,
        nofun⟩
      · dsimp only at hpos
        omega
      · dsimp only at hr
        rw [hresuming] at hr
        cases hr
  | readPaused hthread hstatus =>
    exact hsame rfl rfl h.pausing h.resuming fun _ => .inr (.inr (.inr hstatus))
  | beginPhase | tick | discover | searchHalt | searchSkip | readOther =>
    exact hsame rfl rfl h.pausing h.resuming nofun

theorem not_mem_assertion {e : DriverControlEvent} {function : AssertingFunction} {b : Bool}
    (h : b = true) : e ∉ assertion function b := by
  rw [assertion, if_pos h]
  exact List.not_mem_nil

theorem Steady.assertions (h : Steady c) (hmove : ControlMove c l es c') :
    ∀ e ∈ es, ¬ IsStepAssertion e := by
  intro e he
  cases hmove with
  | quiet hes =>
    rcases hes with rfl | ⟨r, rfl⟩ | ⟨r, bytes, rfl⟩
    · cases he
    · obtain rfl := List.mem_singleton.mp he
      exact id
    · obtain rfl := List.mem_singleton.mp he
      exact id
  | pause hpausing =>
    exact absurd he (not_mem_assertion (decide_eq_true (h.pausing _ hpausing).1))
  | resume hresuming hb =>
    refine absurd he (not_mem_assertion (hb ?_ ?_)) <;>
      rcases h.resuming (by rw [hresuming]; rfl) with hstatus | hstatus <;> rw [hstatus]
    · exact .inr (.inr rfl)
    · exact .inl rfl
    · nofun
    · nofun
  | tickLast hthread hcounter =>
    rcases List.mem_cons.mp he with rfl | he
    · exact id
    · exact absurd he (not_mem_assertion (decide_eq_true (h.running (by omega))))
  | enterWait hthread hb =>
    exact absurd he (not_mem_assertion (hb (h.stopped (by rw [hthread]; rfl))))
  | acceptStep | acceptInitStep =>
    rcases List.mem_cons.mp he with rfl | he
    · exact id
    · obtain rfl := List.mem_singleton.mp he
      exact id
  | switchFailed | signal | tickStep | tick | searchSkip | halt | waitEnds =>
    obtain rfl := List.mem_singleton.mp he
    exact id
  | _ => cases he

theorem Steady.counter (h : Steady c) (hmove : ControlMove c l es c')
    (hpos : 0 < c.stepCounter) :
    c'.stepCounter + es.count .ticked = c.stepCounter := by
  have hrunning : c.driverStatus = .running := h.running hpos
  cases hmove with
  | quiet hes =>
    rcases hes with rfl | ⟨r, rfl⟩ | ⟨r, bytes, rfl⟩ <;> simp
  | acceptStep hidle hstatus hcounter => omega
  | pause hpausing =>
    obtain ⟨-, hzero⟩ := h.pausing _ hpausing
    omega
  | resume hresuming =>
    rcases h.resuming (by rw [hresuming]; rfl) with hstatus | hstatus <;>
      rw [hstatus] at hrunning <;> cases hrunning
  | tickLast hthread hcounter =>
    rw [assertion, if_pos (decide_eq_true hrunning), hcounter]
    rfl
  | tickStep =>
    simp
  | tick hthread hnot => exact absurd ⟨.inr (.inl hrunning), hpos⟩ hnot
  | enterWait hthread hb =>
    have hstopped := h.stopped (by rw [hthread]; rfl)
    rw [hrunning] at hstopped
    rcases hstopped with h | h | h | h <;> cases h
  | _ => simp

end Steps

/-! ## A step from its request on -/

def driverEventsOf (tr : List DriverControlTransition) : List DriverControlEvent :=
  tr.foldl (fun es x => es ++ x.2.2) []

def ticksOf (es : List DriverControlEvent) : ℕ := es.count .ticked

def IsStepResponse (session : DriverControlSession) : Prop :=
  ∃ (s : DriverControlServer) (before : DriverControlSession),
    session = s.stepResponse .success before

/-- What the session of an accepted step does until it receives its next request. -/
def AnswersOnce (n r : ℕ) (es : List DriverControlEvent) (session : DriverControlSession) : Prop :=
  (session.state = .stepDriver ∧ sentTo r es = 0) ∨
  (session.state = .sendPayload ∧ sentTo r es = 0 ∧ n ≤ ticksOf es ∧ IsStepResponse session) ∨
  (session.state = .receivePayload ∧ sentTo r es = 1 ∧ n ≤ ticksOf es)

structure StepUnderway (n r : ℕ) (es : List DriverControlEvent) (t : DriverControlThreads) :
    Prop where
  steady : Steady (control t)
  kept : SessionsKept t
  old : r < t.nextSession
  initialized : IsInitialized t.server.driverStatus
  counter : ticksOf es < n → t.server.stepCounter = n - ticksOf es
  bounded : DriverControlEvent.received r ∉ es →
    sentTo r es ≤ 1 ∧ (ticksOf es < n → sentTo r es = 0)
  answers : DriverControlEvent.received r ∉ es →
    ∀ session, t.sessions r = some session → AnswersOnce n r es session

section Runs

variable {n r : ℕ} {es new : List DriverControlEvent} {t u : DriverControlThreads}

theorem ticksOf_append : ticksOf (es ++ new) = ticksOf es + ticksOf new := List.count_append

theorem sentTo_append : sentTo r (es ++ new) = sentTo r es + sentTo r new := List.countP_append

theorem not_received_of_append (h : DriverControlEvent.received r ∉ es ++ new) :
    DriverControlEvent.received r ∉ es ∧ DriverControlEvent.received r ∉ new :=
  ⟨fun hes => h (List.mem_append_left _ hes), fun hnew => h (List.mem_append_right _ hnew)⟩

theorem counter_of_stepDone {s : DriverControlServer} (hrunning : s.driverStatus = .running)
    (hdone : s.stepDone = true) : s.stepCounter = 0 := by
  simpa [stepDone, isHalted,
    isDriverInitialized, hrunning] using hdone

theorem StepUnderway.le_of_stepDone (h : StepUnderway n r es t) (hdone : t.server.stepDone = true) :
    n ≤ ticksOf es := by
  by_contra hlt
  have hcounter := h.counter (by omega)
  have hrunning : t.server.driverStatus = .running := h.steady.running (by
    change 0 < t.server.stepCounter
    omega)
  have hzero := counter_of_stepDone hrunning hdone
  omega

theorem stepResponse_state (result : Result) (s : DriverControlServer)
    (session : DriverControlSession) : (s.stepResponse result session).state = .sendPayload := by
  rw [stepResponse]
  split <;> rfl

theorem StepUnderway.answersOnce (h : StepUnderway n r es t) {a : DriverControlAction}
    (hstep : t.step a = some (u, new)) (hnew : DriverControlEvent.received r ∉ es ++ new) :
    (sentTo r (es ++ new) ≤ 1 ∧ (ticksOf (es ++ new) < n → sentTo r (es ++ new) = 0)) ∧
      ∀ session, u.sessions r = some session → AnswersOnce n r (es ++ new) session := by
  obtain ⟨hreceived, hnotnow⟩ := not_received_of_append hnew
  obtain ⟨hone, hnone⟩ := h.bounded hreceived
  have hanswers := h.answers hreceived
  simp only [AnswersOnce, ticksOf_append, sentTo_append]
  cases hsession : t.sessions r with
  | none =>
    obtain ⟨hu, hsent⟩ := terminated_step h.kept hstep hsession h.old
    refine ⟨⟨by omega, fun hlt => ?_⟩, fun session hsome => ?_⟩
    · have hzero := hnone (by omega)
      omega
    · rw [hu] at hsome
      cases hsome
  | some session =>
    have hbefore := hanswers session hsession
    have hstate : session.state ≠ .processPayload := by
      rcases hbefore with ⟨hstate, -⟩ | ⟨hstate, -⟩ | ⟨hstate, -⟩ <;> rw [hstate] <;> nofun
    cases sessionMove_of_step h.kept hstep hsession hstate with
    | terminated hu hsent =>
      refine ⟨⟨by omega, fun hlt => ?_⟩, fun session hsome => ?_⟩
      · have hzero := hnone (by omega)
        omega
      · rw [hu] at hsome
        cases hsome
    | same hu hsent =>
      refine ⟨⟨by omega, fun hlt => ?_⟩, fun session' hsome => ?_⟩
      · have hzero := hnone (by omega)
        omega
      · obtain rfl : session = session' := Option.some.inj (hu.symm.trans hsome)
        rw [hsent, add_zero]
        rcases hbefore with hwait | ⟨hstate, hzero, hle, hresponse⟩ | ⟨hstate, hsent, hle⟩
        · exact .inl hwait
        · exact .inr (.inl ⟨hstate, hzero, by omega, hresponse⟩)
        · exact .inr (.inr ⟨hstate, hsent, by omega⟩)
    | received hreceived => exact absurd hreceived hnotnow
    | sent hsend hu hes =>
      have hsent : sentTo r new = 1 := by
        rw [hes]
        simp [sentTo, isSentTo]
      rcases hbefore with ⟨hstate, -⟩ | ⟨-, hzero, hle, -⟩ | ⟨hstate, -⟩
      · rw [hstate] at hsend
        cases hsend
      · refine ⟨⟨by omega, fun hlt => by omega⟩, fun session' hsome => ?_⟩
        obtain rfl := Option.some.inj (hu.symm.trans hsome)
        exact .inr (.inr ⟨rfl, by omega, by omega⟩)
      · rw [hstate] at hsend
        cases hsend
    | answered hwait hdone hu hsent =>
      have hle : n ≤ ticksOf es := h.le_of_stepDone hdone
      rcases hbefore with ⟨-, hzero⟩ | ⟨hstate, -⟩ | ⟨hstate, -⟩
      · refine ⟨⟨by omega, fun hlt => by omega⟩, fun session' hsome => ?_⟩
        obtain rfl := Option.some.inj (hu.symm.trans hsome)
        exact .inr (.inl ⟨stepResponse_state _ _ _, by omega, by omega, t.server, session, rfl⟩)
      · rw [hstate] at hwait
        cases hwait
      · rw [hstate] at hwait
        cases hwait

theorem StepUnderway.step (h : StepUnderway n r es t) {a : DriverControlAction}
    (hkeeps : KeepsSteps t a) (hstep : t.step a = some (u, new)) :
    StepUnderway n r (es ++ new) u := by
  have hmove : ControlMove (control t) (label t a) new (control u) := controlMove_of_step hstep
  refine ⟨h.steady.step hmove hkeeps, h.kept.step hstep,
    h.old.trans_le (nextSession_le_of_step hstep),
    hmove.initialized h.steady.coherent h.initialized, fun hlt => ?_,
    fun hnew => (h.answersOnce hstep hnew).1, fun hnew => (h.answersOnce hstep hnew).2⟩
  rw [ticksOf_append] at hlt ⊢
  have hbefore : t.server.stepCounter = n - ticksOf es := h.counter (by omega)
  have hpos : 0 < t.server.stepCounter := by omega
  have hcounter : u.server.stepCounter + ticksOf new = t.server.stepCounter :=
    h.steady.counter hmove hpos
  push_cast
  omega

theorem StepUnderway.last (h : StepUnderway n r es t) (hlast : ticksOf es + 1 = n)
    (hstep : t.step .driverTick = some (u, new)) :
    u.server.driverStatus = .paused ∧ u.server.stepCounter = 0 := by
  have hcounter : t.server.stepCounter = n - ticksOf es := h.counter (by omega)
  have hmove : ControlMove (control t) .tick new (control u) := controlMove_of_step hstep
  have hone : (control t).stepCounter = 1 := by
    change t.server.stepCounter = 1
    omega
  have hu : (control u).driverStatus = .paused ∧ (control u).stepCounter = 0 := by
    generalize control u = c' at hmove
    cases hmove with
    | tickLast => exact ⟨rfl, rfl⟩
    | tickStep hthread hmore => omega
    | tick hthread hnot => exact absurd ⟨h.initialized, by omega⟩ hnot
  exact hu

theorem stepsOf_eq {session : DriverControlSession}
    (hn : session.payloadContainer.stepCount.toNat = n) (hpos : 1 ≤ n) (hlt : n < 2 ^ 31) :
    stepsOf session = n := by
  have hnat : session.payloadContainer.stepCount.toBitVec.toNat = n := hn
  have hint : session.payloadContainer.stepCount.toInt32.toInt = n := by
    change session.payloadContainer.stepCount.toBitVec.toInt = n
    rw [BitVec.toInt_eq_toNat_of_lt (by omega), hnat]
  rw [stepsOf, hint]
  omega

/-- A session asks a stopped driver that is initialized for some ticks. -/
structure StepRequest (n r : ℕ) (t : DriverControlThreads) (session : DriverControlSession) :
    Prop where
  lookup : t.sessions r = some session
  state : session.state = .processPayload
  command : session.payloadContainer.driverControlCommand = .stepDriverRequest
  count : session.payloadContainer.stepCount.toNat = n
  accepted : t.server.startsStep = true

theorem stepUnderway_of_request {session : DriverControlSession}
    (h : StepRequest n r t session) (hpos : 1 ≤ n) (hlt : n < 2 ^ 31)
    (hsteady : Steady (control t)) (hkept : SessionsKept t) {receive : ReceiveAnswer}
    {send : Result} (hkeeps : KeepsSteps t (.updateSession r receive send))
    (hstep : t.step (.updateSession r receive send) = some (u, new)) :
    StepUnderway n r [] u := by
  obtain ⟨hsession, hstate, hcommand, hcount, haccepted⟩ := h
  have hmove := controlMove_of_step hstep
  have hsteady' : Steady (control u) := hsteady.step hmove hkeeps
  have hkept' : SessionsKept u := hkept.step hstep
  have hold : r < u.nextSession :=
    (hkept.fresh r session hsession).trans_le (nextSession_le_of_step hstep)
  obtain ⟨-, hstep⟩ := Option.ite_none_right_eq_some.mp hstep
  rw [hsession, Option.map_some, DriverControlThreads.updateSession.eq_def, hstate] at hstep
  simp only [DriverControlThreads.processPayload, hcommand,
    handleStepDriverRequest, haccepted, if_true] at hstep
  have hzero : t.server.stepCounter = 0 := by
    have hstarts := haccepted
    simp only [startsStep, decide_eq_true_eq] at hstarts
    exact hstarts.2
  cases hstep
  refine ⟨hsteady', hkept', hold, .inr (.inl rfl), fun _ => ?_,
    fun _ => ⟨Nat.zero_le _, fun _ => rfl⟩, fun _ session' hsession' => ?_⟩
  · change t.server.stepCounter + stepsOf session = _
    rw [hzero, stepsOf_eq hcount hpos hlt]
    simp [ticksOf]
  · obtain rfl := Option.some.inj ((Function.update_self r _ _).symm.trans hsession')
    exact .inl ⟨rfl, rfl⟩

/-- What is left of a step of `n` ticks, from the events since it was accepted. -/
structure StepIsExact (n r : ℕ) (es : List DriverControlEvent) (t : DriverControlThreads) :
    Prop where
  running : ticksOf es < n →
    t.server.driverStatus = .running ∧ t.server.stepCounter = n - ticksOf es
  paused : ticksOf es + 1 = n → ∀ u new, t.step .driverTick = some (u, new) →
    u.server.driverStatus = .paused ∧ u.server.stepCounter = 0
  answered : DriverControlEvent.received r ∉ es →
    sentTo r es ≤ 1 ∧ (ticksOf es < n → sentTo r es = 0) ∧
    ∀ session, t.sessions r = some session → AnswersOnce n r es session
  done : t.server.stepCounter = 0 → t.server.stepDone = true

theorem StepUnderway.isExact (h : StepUnderway n r es t) : StepIsExact n r es t := by
  refine ⟨fun hlt => ?_, fun hlast u new hstep => h.last hlast hstep, fun hnew => ?_,
    fun hzero => ?_⟩
  · have hcounter : t.server.stepCounter = n - ticksOf es := h.counter hlt
    have hpos : 0 < (control t).stepCounter := by
      change 0 < t.server.stepCounter
      omega
    exact ⟨h.steady.running hpos, hcounter⟩
  · exact ⟨(h.bounded hnew).1, (h.bounded hnew).2, h.answers hnew⟩
  · have hinitialized : t.server.isDriverInitialized = true :=
      isDriverInitialized_iff.mpr h.initialized
    rw [stepDone, decide_eq_true_iff]
    exact .inr ⟨hinitialized, hzero⟩

end Runs

theorem steady_init {t : DriverControlThreads} (h : driverControlMachine.init t) :
    Steady (control t) := by
  have hcoherent := coherent_init h
  obtain ⟨clientInfo, rfl⟩ := h
  exact ⟨hcoherent, le_refl _, fun hpos => absurd hpos (lt_irrefl _), nofun, nofun, nofun⟩

theorem Steady.trace {s t : DriverControlThreads} {tr : List DriverControlTransition}
    (h : driverControlMachine.Trace s tr t) (hsteady : Steady (control s))
    (hkeeps : ∀ x ∈ tr, KeepsSteps x.1 x.2.1) : Steady (control t) :=
  h.invariant (P := fun t => Steady (control t)) hsteady hkeeps
    fun _ _ _ _ hsteady hkeep hstep => hsteady.step (controlMove_of_step hstep) hkeep

theorem sessionsKept_of_reachable {t : DriverControlThreads}
    (h : driverControlMachine.Reachable t) : SessionsKept t :=
  h.invariant (fun _ hinit => sessionsKept_init hinit) fun _ _ _ _ _ hkept hstep => hkept.step hstep

/-- In every run whose steps keep the driver's steps: the counter is never negative and positive
only while the driver is running; the assertions of `PauseDriver`, `ResumeDriver` and
`WaitForResume` hold; and every step of an initialized driver that is accepted is exact. -/
theorem steps_exact {s t : DriverControlThreads} {tr : List DriverControlTransition}
    (hinit : driverControlMachine.init s) (h : driverControlMachine.Trace s tr t)
    (hkeeps : ∀ x ∈ tr, KeepsSteps x.1 x.2.1) :
    0 ≤ t.server.stepCounter ∧
    (0 < t.server.stepCounter → t.server.driverStatus = .running) ∧
    (∀ x ∈ tr, ∀ e ∈ x.2.2, ¬ IsStepAssertion e) ∧
    ∀ before u r receive send es after n session,
      tr = before ++ (u, .updateSession r receive send, es) :: after →
      StepRequest n r u session → 1 ≤ n → n < 2 ^ 31 →
      StepIsExact n r (driverEventsOf after) t := by
  have hsteady : Steady (control t) := (steady_init hinit).trace h hkeeps
  refine ⟨hsteady.nonneg, hsteady.running, fun x hx => ?_, ?_⟩
  · obtain ⟨hbefore, hkeep, v, hstep⟩ := h.invariant_of_mem (P := fun t => Steady (control t))
      (steady_init hinit) hkeeps
      (fun _ _ _ _ hsteady hkeep hstep => hsteady.step (controlMove_of_step hstep) hkeep) hx
    exact hbefore.assertions (controlMove_of_step hstep)
  · rintro before u r receive send es after n session rfl hrequest hpos hlt
    obtain ⟨hbefore, v, hstep, hafter⟩ := h.split
    have hkeepsBefore : ∀ x ∈ before, KeepsSteps x.1 x.2.1 :=
      fun x hx => hkeeps x (List.mem_append_left _ hx)
    have hkeepsAfter : ∀ x ∈ after, KeepsSteps x.1 x.2.1 :=
      fun x hx => hkeeps x (List.mem_append_right _ (List.mem_cons_of_mem _ hx))
    have hkeep : KeepsSteps u (.updateSession r receive send) :=
      hkeeps _ (List.mem_append_right _ List.mem_cons_self)
    have hstart : StepUnderway n r [] v := stepUnderway_of_request hrequest hpos hlt
      ((steady_init hinit).trace hbefore hkeepsBefore)
      (sessionsKept_of_reachable (hbefore.reachable (.init hinit))) hkeep hstep
    have hunderway : StepUnderway n r (driverEventsOf after) t :=
      hafter.foldl_invariant (f := fun es x => es ++ x.2.2) (g := [])
        (P := fun es t => StepUnderway n r es t) hstart hkeepsAfter
        fun _ _ _ _ _ hunderway hkeep hstep => hunderway.step hkeep hstep
    exact hunderway.isExact

def stepTwiceRequest : SessionPayload :=
  ⟨driverControlHeader .stepDriverRequest ++ leBytes 4 2,
    (by decide : 4 + 4 ≤ kMaxPayloadSizeInBytes)⟩

def startRunning : List DriverControlAction :=
  (List.replicate 3 [.advanceDriverInitState, .continueDriver none false,
    .continueDriver none false, .continueDriver none false]).flatten

def pauseRunning : List DriverControlAction :=
  takeRequest .pauseDriverRequest ++
    [.continueRequest, .continueRequest, .updateSession 0 .notReady .success]

def stepTwice : List DriverControlAction :=
  [.sessionEstablished driverControlStepReturnStatusVersion] ++ startRunning ++ pauseRunning ++
    [.updateSession 0 (.payload stepTwiceRequest) .notReady, .updateSession 0 .notReady .notReady]

def stepOnce : List DriverControlAction := [.driverTick, .continueDriver none false]

def pausedStep : List DriverControlAction :=
  stepTwice ++ stepOnce ++ [.sessionEstablished driverControlStepReturnStatusVersion,
    .updateSession 1 (.payload (plainControlRequest .pauseDriverRequest)) .notReady,
    .updateSession 1 .notReady .notReady, .continueRequest, .continueRequest]

theorem steps_exact_twice :
    ∃ t, driverControlMachine.Trace newDriver
        (driverControlMachine.transitions newDriver (stepTwice ++ stepOnce)) t ∧
      0 < t.server.stepCounter ∧ t.server.driverStatus = .running := by
  obtain ⟨t, hrun, hpos⟩ := driverControlMachine.exists_of_run newDriver (stepTwice ++ stepOnce)
    (fun t => 0 < t.server.stepCounter) (by decide +kernel)
  have htrace : driverControlMachine.Trace newDriver
      (driverControlMachine.transitions newDriver (stepTwice ++ stepOnce)) t := .of_run hrun
  have hkeeps : ∀ x ∈ driverControlMachine.transitions newDriver (stepTwice ++ stepOnce),
      KeepsSteps x.1 x.2.1 := by
    decide +kernel
  have hpos : 0 < t.server.stepCounter := hpos
  exact ⟨t, htrace, hpos, (steps_exact ⟨plainClientInfo, rfl⟩ htrace hkeeps).2.1 hpos⟩

/-- A pause request leaves steps of a driver that does not run. -/
theorem step_left_paused :
    ¬ ∀ s tr t, driverControlMachine.init s → driverControlMachine.Trace s tr t →
      0 < t.server.stepCounter → t.server.driverStatus = .running := by
  intro hall
  obtain ⟨t, hrun, hpos, hpaused⟩ := driverControlMachine.exists_of_run newDriver pausedStep
    (fun t => 0 < t.server.stepCounter ∧ t.server.driverStatus = .paused) (by decide +kernel)
  have hrunning := hall newDriver _ t ⟨plainClientInfo, rfl⟩ (.of_run hrun) hpos
  rw [hpaused] at hrunning
  cases hrunning

end DevDriver.Analysis
