import DevDriver.Analysis.DriverResumes

/-!
# Pauses of the driver

A pause request that is answered with success leaves the driver paused, with the event that it waits
on cleared.
-/

namespace DevDriver.Analysis

open Library Model

/-! ## Pauses that hold -/

def isClearing : RequestThread → Bool
  | .clearing _ => true
  | _ => false

/-- Whether a pause has been answered with success and no resume or step request has been accepted
since, after a step with a label. -/
def pauseHeldAt (held : Bool) (requestThread : RequestThread) : ControlLabel → Bool
  | .acceptResume _ => false
  | .acceptStep _ _ => false
  | .acceptInitStep _ => false
  | .continueRequest => held || isClearing requestThread
  | _ => held

def pauseHeldAfter (held : Bool) (x : DriverControlTransition) : Bool :=
  pauseHeldAt held x.1.requestThread (label x.1 x.2.1)

/-- A pause was accepted and no resume since. -/
def pauseHeld (tr : List DriverControlTransition) : Bool := tr.foldl pauseHeldAfter false

/-- The driver thread is going to write the status that follows a phase of the initialization. -/
def isAdvancing : DriverThread → Bool
  | .advance _ => true
  | _ => false

/-- The driver thread goes on from a phase of the initialization with a driver that is paused. -/
def AdvancesPausedAt (c : Control) (l : ControlLabel) : Prop :=
  l = .continueDriver ∧ isAdvancing c.driverThread = true ∧ c.driverStatus = .paused

/-- The step takes a paused driver on. -/
def AdvancesPaused (t : DriverControlThreads) (a : DriverControlAction) : Prop :=
  AdvancesPausedAt (control t) (label t a)

instance (l : ControlLabel) : Decidable (l = .continueDriver) :=
  match l with
  | .continueDriver => isTrue rfl
  | .quiet => isFalse nofun
  | .acceptPause _ => isFalse nofun
  | .acceptResume _ => isFalse nofun
  | .acceptStep _ _ => isFalse nofun
  | .acceptInitStep _ => isFalse nofun
  | .continueRequest => isFalse nofun
  | .beginPhase => isFalse nofun
  | .tick => isFalse nofun

instance (t : DriverControlThreads) (a : DriverControlAction) : Decidable (AdvancesPaused t a) :=
  inferInstanceAs (Decidable (_ ∧ _ ∧ _))

structure KeepsPause (held : Bool) (c : Control) : Prop where
  clearing : isClearing c.requestThread = true → c.driverStatus = .paused
  paused : held = true → c.driverStatus = .paused
  cleared : held = true → c.driverResumedEvent = false
  idle : held = true → c.requestThread = .idle

theorem pauseHeldAt_continueRequest {held : Bool} {requestThread : RequestThread}
    (h : isClearing requestThread = false) :
    pauseHeldAt held requestThread .continueRequest = held := by
  rw [pauseHeldAt, h, Bool.or_false]

theorem KeepsPause.step {held : Bool} {c c' : Control} {l : ControlLabel}
    {es : List DriverControlEvent} (h : KeepsPause held c) (hadvances : ¬ AdvancesPausedAt c l)
    (hmove : ControlMove c l es c') : KeepsPause (pauseHeldAt held c.requestThread l) c' := by
  obtain ⟨hclearing, hpaused, hcleared, hidle⟩ := h
  -- while a pause holds no request is being handled
  have hnot : ∀ thread, c.requestThread = thread → thread ≠ .idle → held = true → False :=
    fun thread hthread hne hheld => hne (hthread.symm.trans (hidle hheld))
  cases hmove with
  | acceptPause _ hrunning =>
    refine ⟨nofun, hpaused, hcleared, fun hheld => ?_⟩
    rw [hpaused hheld] at hrunning
    cases hrunning
  | acceptResume => exact ⟨nofun, nofun, nofun, nofun⟩
  | acceptStep hthread =>
    refine ⟨fun hc => ?_, nofun, nofun, nofun⟩
    rw [hthread] at hc
    cases hc
  | acceptInitStep => exact ⟨hclearing, nofun, nofun, nofun⟩
  | pause hthread =>
    rw [pauseHeldAt_continueRequest (by rw [hthread]; rfl)]
    exact ⟨fun _ => rfl, fun _ => rfl, hcleared, fun hheld => (hnot _ hthread nofun hheld).elim⟩
  | clearForPause hthread =>
    have hstatus : c.driverStatus = .paused := hclearing (by rw [hthread]; rfl)
    exact ⟨nofun, fun _ => hstatus, fun _ => rfl, fun _ => rfl⟩
  | switchToSignal hthread =>
    rw [pauseHeldAt_continueRequest (by rw [hthread]; rfl)]
    exact ⟨nofun, hpaused, hcleared, fun hheld => (hnot _ hthread nofun hheld).elim⟩
  | switchToResume hthread =>
    rw [pauseHeldAt_continueRequest (by rw [hthread]; rfl)]
    exact ⟨nofun, hpaused, hcleared, fun hheld => (hnot _ hthread nofun hheld).elim⟩
  | switchFailed hthread =>
    rw [pauseHeldAt_continueRequest (by rw [hthread]; rfl)]
    exact ⟨nofun, hpaused, hcleared, fun _ => rfl⟩
  | resume hthread =>
    rw [pauseHeldAt_continueRequest (by rw [hthread]; rfl)]
    exact ⟨nofun, fun hheld => (hnot _ hthread nofun hheld).elim, hcleared,
      fun hheld => (hnot _ hthread nofun hheld).elim⟩
  | signal hthread =>
    rw [pauseHeldAt_continueRequest (by rw [hthread]; rfl)]
    exact ⟨nofun, hpaused, fun hheld => (hnot _ hthread nofun hheld).elim, fun _ => rfl⟩
  | tickLast => exact ⟨fun _ => rfl, fun _ => rfl, fun _ => rfl, hidle⟩
  | halt =>
    have hhalted : c.driverStatus = .paused → c.driverStatus.halted = .paused := by
      intro hstatus
      rw [hstatus]
      rfl
    exact ⟨fun hc => hhalted (hclearing hc), fun hheld => hhalted (hpaused hheld), hcleared, hidle⟩
  | clear => exact ⟨hclearing, hpaused, fun _ => rfl, hidle⟩
  | advance hthread =>
    have hne : c.driverStatus ≠ .paused := fun hstatus =>
      hadvances ⟨rfl, by rw [hthread]; rfl, hstatus⟩
    exact ⟨fun hc => absurd (hclearing hc) hne, fun hheld => absurd (hpaused hheld) hne, hcleared,
      hidle⟩
  | _ => exact ⟨hclearing, hpaused, hcleared, hidle⟩

/-- In every run in which the driver thread goes on from no phase of the initialization with a
paused driver, a pause that was answered with success holds until a resume or step request is
accepted: the driver is paused, the event is not signalled, and a tick waits. -/
theorem acknowledged_pause_holds {t u : DriverControlThreads} {tr : List DriverControlTransition}
    (hinit : driverControlMachine.init t) (h : driverControlMachine.Trace t tr u)
    (hadvances : ∀ x ∈ tr, ¬ AdvancesPaused x.1 x.2.1) (hheld : pauseHeld tr = true) :
    u.server.driverStatus = .paused ∧ u.server.driverResumedEvent = false ∧
      ∀ found timedOut, u.driverThread = .readStatus →
        u.step (.continueDriver found timedOut) =
          some (u.setDriverThread (.enterWait none), []) := by
  have hkeeps : KeepsPause (pauseHeld tr) (control u) := by
    refine h.foldl_invariant (f := pauseHeldAfter) (P := fun held t => KeepsPause held (control t))
      (C := fun t a => ¬ AdvancesPaused t a) ?_ hadvances ?_
    · obtain ⟨clientInfo, rfl⟩ := hinit
      exact ⟨nofun, nofun, nofun, nofun⟩
    · intro held s s' a es hkeeps hadvances hstep
      exact hkeeps.step hadvances (controlMove_of_step hstep)
  have hpaused : u.server.driverStatus = .paused := hkeeps.paused hheld
  refine ⟨hpaused, hkeeps.cleared hheld, ?_⟩
  intro found timedOut hthread
  simp only [DriverControlThreads.step, DriverControlThreads.continueDriver, hthread, hpaused,
    if_true]

def passPhase : List DriverControlAction :=
  [.advanceDriverInitState, .continueDriver none false, .continueDriver none false,
    .continueDriver none false]

def handleRequest (command : DriverControlMessage) : List DriverControlAction :=
  takeRequest command ++ [.continueRequest, .continueRequest]

def latePause : List DriverControlAction :=
  [.sessionEstablished driverControlStepReturnStatusVersion] ++ passPhase ++ passPhase ++
    passPhase ++ handleRequest .pauseDriverRequest

theorem acknowledged_pause_holds_late :
    ∃ u, driverControlMachine.Trace newDriver
        (driverControlMachine.transitions newDriver latePause) u ∧
      u.server.driverStatus = .paused ∧ u.server.driverResumedEvent = false := by
  obtain ⟨u, hrun, hheld⟩ := driverControlMachine.exists_of_run newDriver latePause
    (fun _ => pauseHeld (driverControlMachine.transitions newDriver latePause) = true)
    (by decide +kernel)
  have htrace : driverControlMachine.Trace newDriver
      (driverControlMachine.transitions newDriver latePause) u := .of_run hrun
  have hadvances : ∀ x ∈ driverControlMachine.transitions newDriver latePause,
      ¬ AdvancesPaused x.1 x.2.1 := by
    decide +kernel
  have hpaused := acknowledged_pause_holds ⟨plainClientInfo, rfl⟩ htrace hadvances hheld
  exact ⟨u, htrace, hpaused.1, hpaused.2.1⟩

/-- The driver thread halts at the end of a phase, for a client that it finds or for a step, and
waits. -/
def haltPhase : List DriverControlAction :=
  [.advanceDriverInitState, .continueDriver none false, .continueDriver (some 5) false] ++
    List.replicate 4 (.continueDriver none false)

def sendResponse : DriverControlAction := .updateSession 0 .notReady .success

/-- A driver that was halted after its last phase is resumed and wakes up, and is paused before it
goes on. -/
def earlyPause : List DriverControlAction :=
  [.sessionEstablished driverControlStepReturnStatusVersion] ++ passPhase ++ haltPhase ++
    takeRequest .stepDriverRequest ++
    [.continueDriver none false, .continueDriver none false] ++ haltPhase ++
    [.updateSession 0 .notReady .notReady, sendResponse] ++
    handleRequest .resumeDriverRequest ++ [.continueRequest, sendResponse] ++
    [.continueDriver none false] ++ handleRequest .pauseDriverRequest ++
    [.continueDriver none false]

/-- A pause that was answered with success is overwritten by the end of the initialization. -/
theorem acknowledged_pause_overwritten :
    ¬ ∀ t tr u, driverControlMachine.init t → driverControlMachine.Trace t tr u →
      pauseHeld tr = true → u.server.driverStatus = .paused := by
  intro hall
  obtain ⟨u, hrun, hheld⟩ := driverControlMachine.exists_of_run newDriver earlyPause
    (fun u => (pauseHeld (driverControlMachine.transitions newDriver earlyPause) &&
      decide (u.server.driverStatus = .running)) = true) (by decide +kernel)
  rw [Bool.and_eq_true, decide_eq_true_eq] at hheld
  have hpaused := hall newDriver _ u ⟨plainClientInfo, rfl⟩ (.of_run hrun) hheld.1
  rw [hheld.2] at hpaused
  cases hpaused

end DevDriver.Analysis
