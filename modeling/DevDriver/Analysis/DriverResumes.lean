import DevDriver.Analysis.DriverControlMoves

/-!
# Resumes of a halted driver

A resume or step request that is accepted signals the event that the driver waits on.
-/

namespace DevDriver.Analysis

open Library Model DriverControlEvent

/-- The driver thread has made a halted or paused status visible and has not ended its wait. -/
def inHalt : DriverThread → Bool
  | .clear _ => true
  | .resetFlag _ => true
  | .enterWait _ => true
  | .wait _ => true
  | _ => false

def clearsEvent : DriverThread → Bool
  | .clear _ => true
  | _ => false

def resetsFlag : DriverThread → Bool
  | .clear _ => true
  | .resetFlag _ => true
  | _ => false

/-- The steps of the driver thread until its wait ends, when it finds the event signalled. -/
def stepsToLeave : DriverThread → ℕ
  | .clear _ => 4
  | .resetFlag _ => 3
  | .enterWait _ => 2
  | .wait _ => 1
  | _ => 0

def isSignalling : RequestThread → Bool
  | .signalling _ => true
  | _ => false

abbrev DriverControlTransition :=
  DriverControlThreads × DriverControlAction × List DriverControlEvent

/-- A request has signalled the event during a halt whose wait has not ended. -/
def resumeOwedAfter (owed : Bool) (x : DriverControlTransition) : Bool :=
  (x.2.2.contains .signalled && inHalt x.1.driverThread) || (owed && !x.2.2.contains .waitEnded)

/-- A resume was signalled to a halted driver whose wait has not ended since. -/
def resumeOwed (tr : List DriverControlTransition) : Bool := tr.foldl resumeOwedAfter false

def isInitStepAccepted : DriverControlEvent → Bool
  | .initStepAccepted _ => true
  | _ => false

/-- A step during initialization was accepted, and the driver has not halted since. -/
def initStepOwedAfter (owed : Bool) (x : DriverControlTransition) : Bool :=
  x.2.2.any isInitStepAccepted || (owed && !x.2.2.contains .halted)

def initStepOwed (tr : List DriverControlTransition) : Bool := tr.foldl initStepOwedAfter false

/-- No request signals the event that is going to be cleared or sets the flag that is going to be
reset, and none pauses a driver that has been resumed but has not left its halt. -/
def KeepsResumesAt (c : Control) : ControlLabel → Prop
  | .acceptPause _ => inHalt c.driverThread = false
  | .acceptStep _ _ => clearsEvent c.driverThread = false
  | .acceptInitStep _ => resetsFlag c.driverThread = false
  | .continueRequest => isSignalling c.requestThread = true → clearsEvent c.driverThread = false
  | _ => True

instance (c : Control) (l : ControlLabel) : Decidable (KeepsResumesAt c l) :=
  match l with
  | .acceptPause _ => inferInstanceAs (Decidable (inHalt c.driverThread = false))
  | .acceptStep _ _ => inferInstanceAs (Decidable (clearsEvent c.driverThread = false))
  | .acceptInitStep _ => inferInstanceAs (Decidable (resetsFlag c.driverThread = false))
  | .continueRequest => inferInstanceAs
      (Decidable (isSignalling c.requestThread = true → clearsEvent c.driverThread = false))
  | .quiet => isTrue trivial
  | .acceptResume _ => isTrue trivial
  | .beginPhase => isTrue trivial
  | .tick => isTrue trivial
  | .continueDriver => isTrue trivial

/-- The step does not take back a resume that the driver has not noticed yet. -/
def KeepsResumes (t : DriverControlThreads) (a : DriverControlAction) : Prop :=
  KeepsResumesAt (control t) (label t a)

instance (t : DriverControlThreads) (a : DriverControlAction) : Decidable (KeepsResumes t a) :=
  inferInstanceAs (Decidable (KeepsResumesAt (control t) (label t a)))

/-! ## What a step keeps -/

/-- The event is signalled, and nothing is going to clear it before the driver has left its
halt. -/
structure Signalled (c : Control) : Prop where
  event : c.driverResumedEvent = true
  halted : inHalt c.driverThread = true
  cleared : clearsEvent c.driverThread = false
  request : ∀ r, c.requestThread ≠ .pausing r ∧ c.requestThread ≠ .clearing r

structure StepRequested (c : Control) : Prop where
  flag : c.initStepRequested = true
  reset : resetsFlag c.driverThread = false
  searched : ∀ curr, c.driverThread ≠ .search curr false

def SwitchStopped (c : Control) : Prop :=
  ∀ r, c.requestThread = .switching r → inHalt c.driverThread = true → IsStopped c.driverStatus

section Steps

variable {c c' : Control} {l : ControlLabel} {es : List DriverControlEvent}

theorem Signalled.step (h : Signalled c) (hmove : ControlMove c l es c')
    (hkeeps : KeepsResumesAt c l) (hwait : waitEnded ∉ es) : Signalled c' := by
  obtain ⟨hevent, hhalted, hcleared, hrequest⟩ := h
  cases hmove with
  | quiet => exact ⟨hevent, hhalted, hcleared, hrequest⟩
  | acceptPause =>
    have hout : inHalt c.driverThread = false := hkeeps
    rw [hout] at hhalted
    cases hhalted
  | acceptResume => exact ⟨hevent, hhalted, hcleared, fun _ => ⟨nofun, nofun⟩⟩
  | acceptStep => exact ⟨rfl, hhalted, hcleared, hrequest⟩
  | acceptInitStep => exact ⟨rfl, hhalted, hcleared, hrequest⟩
  | pause h => exact absurd h (hrequest _).1
  | clearForPause h => exact absurd h (hrequest _).2
  | switchToSignal => exact ⟨hevent, hhalted, hcleared, fun _ => ⟨nofun, nofun⟩⟩
  | switchToResume => exact ⟨hevent, hhalted, hcleared, fun _ => ⟨nofun, nofun⟩⟩
  | switchFailed => exact ⟨hevent, hhalted, hcleared, fun _ => ⟨nofun, nofun⟩⟩
  | resume => exact ⟨hevent, hhalted, hcleared, fun _ => ⟨nofun, nofun⟩⟩
  | signal => exact ⟨rfl, hhalted, hcleared, fun _ => ⟨nofun, nofun⟩⟩
  | clear hthread =>
    rw [hthread] at hcleared
    cases hcleared
  | resetFlag => exact ⟨hevent, rfl, rfl, hrequest⟩
  | enterWait => exact ⟨hevent, rfl, rfl, hrequest⟩
  | waitEnds => exact absurd (List.mem_singleton_self _) hwait
  | waitGoesOn => exact ⟨hevent, hhalted, hcleared, hrequest⟩
  | beginPhase hthread | tickLast hthread | tickStep hthread | tick hthread | discover hthread
  | searchHalt hthread | searchSkip hthread | halt hthread | advance hthread | readPaused hthread
  | readOther hthread =>
    rw [hthread] at hhalted
    cases hhalted

theorem signalled_of_move (hmove : ControlMove c l es c') (hkeeps : KeepsResumesAt c l)
    (hsignal : signalled ∈ es) (hhalted : inHalt c.driverThread = true) :
    Signalled c' := by
  cases hmove with
  | acceptStep hidle =>
    refine ⟨rfl, hhalted, hkeeps, fun r => ?_⟩
    rw [hidle]
    exact ⟨nofun, nofun⟩
  | acceptInitStep hidle =>
    have hcleared : clearsEvent c.driverThread = false := by
      have hreset : resetsFlag c.driverThread = false := hkeeps
      cases hthread : c.driverThread <;> simp_all [resetsFlag, clearsEvent]
    refine ⟨rfl, hhalted, hcleared, fun r => ?_⟩
    rw [hidle]
    exact ⟨nofun, nofun⟩
  | signal h => exact ⟨rfl, hhalted, hkeeps (by rw [h]; rfl), fun _ => ⟨nofun, nofun⟩⟩
  | quiet h =>
    rcases h with rfl | ⟨r, rfl⟩ | ⟨r, bytes, rfl⟩ <;> simp at hsignal
  | pause | resume | tickLast | enterWait =>
    simp only [assertion] at hsignal
    split at hsignal <;> simp at hsignal
  | _ => simp at hsignal

theorem StepRequested.step (h : StepRequested c) (hmove : ControlMove c l es c')
    (hhalt : halted ∉ es) : StepRequested c' := by
  obtain ⟨hflag, hreset, hsearched⟩ := h
  cases hmove with
  | quiet | acceptPause | acceptResume | acceptStep | pause | clearForPause | switchToSignal
  | switchToResume | switchFailed | resume | signal | waitGoesOn =>
    exact ⟨hflag, hreset, hsearched⟩
  | acceptInitStep => exact ⟨rfl, hreset, hsearched⟩
  | discover =>
    refine ⟨hflag, rfl, fun curr h => ?_⟩
    obtain ⟨-, hret⟩ := DriverThread.search.inj h
    rw [hflag] at hret
    cases hret
  | halt => exact absurd (List.mem_singleton_self _) hhalt
  | clear hthread =>
    rw [hthread] at hreset
    cases hreset
  | resetFlag hthread =>
    rw [hthread] at hreset
    cases hreset
  | waitEnds =>
    rename_i after hthread
    cases after <;> exact ⟨hflag, rfl, nofun⟩
  | _ => exact ⟨hflag, rfl, nofun⟩

theorem stepRequested_of_move (hmove : ControlMove c l es c') (hkeeps : KeepsResumesAt c l)
    (hcoherent : Coherent c) (haccepted : es.any isInitStepAccepted = true) :
    StepRequested c' := by
  cases hmove with
  | acceptInitStep hidle h =>
    refine ⟨rfl, hkeeps, fun curr hthread => ?_⟩
    have hstatus := hcoherent.status
    rw [hthread] at hstatus
    obtain ⟨hphase, heq⟩ := hstatus
    rw [← heq] at hphase
    rcases h with h | h <;> rw [h] at hphase <;> cases hphase
  | quiet h =>
    rcases h with rfl | ⟨r, rfl⟩ | ⟨r, bytes, rfl⟩ <;> cases haccepted
  | pause | resume | tickLast | enterWait =>
    simp only [assertion] at haccepted
    split at haccepted <;> cases haccepted
  | _ => cases haccepted

theorem StepRequested.notHalted (h : StepRequested c) (hmove : ControlMove c l es c') :
    DriverControlEvent.notHalted ∉ es := by
  intro hskip
  cases hmove with
  | searchSkip hthread => exact h.searched _ hthread
  | quiet h =>
    rcases h with rfl | ⟨r, rfl⟩ | ⟨r, bytes, rfl⟩ <;> simp at hskip
  | pause | resume | tickLast | enterWait =>
    simp only [assertion] at hskip
    split at hskip <;> simp at hskip
  | _ => simp at hskip

theorem isStopped_halted {status : DriverStatus} (h : status.isPhase = true) :
    IsStopped status.halted := by
  cases status <;> simp_all [DriverStatus.isPhase, DriverStatus.halted, IsStopped]

theorem SwitchStopped.step (h : SwitchStopped c) (hcoherent : Coherent c)
    (hmove : ControlMove c l es c') : SwitchStopped c' := by
  cases hmove with
  | acceptResume hidle hstopped => exact fun _ _ _ => hstopped
  | acceptStep hidle =>
    intro r hswitching
    rw [hidle] at hswitching
    cases hswitching
  | quiet | acceptInitStep | waitGoesOn => exact h
  | acceptPause | pause | clearForPause | switchToSignal | switchToResume | switchFailed | resume
  | signal => exact fun _ hswitching => nomatch hswitching
  | halt hthread =>
    intro r hswitching hhalted
    have hstatus := hcoherent.status
    rw [hthread] at hstatus
    obtain ⟨hphase, heq⟩ := hstatus
    rw [← heq] at hphase
    exact isStopped_halted hphase
  | clear hthread => exact fun r hswitching _ => h r hswitching (by rw [hthread]; rfl)
  | resetFlag hthread => exact fun r hswitching _ => h r hswitching (by rw [hthread]; rfl)
  | enterWait hthread => exact fun r hswitching _ => h r hswitching (by rw [hthread]; rfl)
  | waitEnds =>
    rename_i after hthread
    cases after <;> exact fun _ _ hhalted => nomatch hhalted
  | readPaused hthread hstatus => exact fun _ _ _ => .inr (.inr (.inr hstatus))
  | _ => exact fun _ _ hhalted => nomatch hhalted

end Steps

/-! ## Runs -/

theorem signalled_of_owed {s t : DriverControlThreads} {tr : List DriverControlTransition}
    (h : driverControlMachine.Trace s tr t) (hkeeps : ∀ x ∈ tr, KeepsResumes x.1 x.2.1)
    (howed : resumeOwed tr = true) : Signalled (control t) := by
  refine h.foldl_invariant (f := resumeOwedAfter) (g := false)
    (P := fun owed t => owed = true → Signalled (control t)) nofun hkeeps ?_ howed
  intro owed t u a es hbefore hkeep hstep howed
  have hmove : ControlMove (control t) (label t a) es (control u) := controlMove_of_step hstep
  rcases Bool.or_eq_true_iff.mp howed with hsignal | hstill
  · obtain ⟨hsignal, hhalted⟩ := Bool.and_eq_true_iff.mp hsignal
    exact signalled_of_move hmove hkeep (List.contains_iff_mem.mp hsignal) hhalted
  · obtain ⟨howed, hwait⟩ := Bool.and_eq_true_iff.mp hstill
    refine (hbefore howed).step hmove hkeep fun hmem => ?_
    rw [List.contains_iff_mem.mpr hmem] at hwait
    cases hwait

theorem stepRequested_of_owed {s t : DriverControlThreads} {tr : List DriverControlTransition}
    (h : driverControlMachine.Trace s tr t) (hcoherent : Coherent (control s))
    (hkeeps : ∀ x ∈ tr, KeepsResumes x.1 x.2.1) (howed : initStepOwed tr = true) :
    StepRequested (control t) := by
  refine (h.foldl_invariant (f := initStepOwedAfter) (g := false)
    (P := fun owed t => Coherent (control t) ∧ (owed = true → StepRequested (control t)))
    ⟨hcoherent, nofun⟩ hkeeps ?_).2 howed
  rintro owed t u a es ⟨hcoherent, hbefore⟩ hkeep hstep
  have hmove : ControlMove (control t) (label t a) es (control u) := controlMove_of_step hstep
  refine ⟨hcoherent.step hmove, fun howed => ?_⟩
  rcases Bool.or_eq_true_iff.mp howed with haccepted | hstill
  · exact stepRequested_of_move hmove hkeep hcoherent haccepted
  · obtain ⟨howed, hhalt⟩ := Bool.and_eq_true_iff.mp hstill
    refine (hbefore howed).step hmove fun hmem => ?_
    rw [List.contains_iff_mem.mpr hmem] at hhalt
    cases hhalt

theorem switchStopped_of_reachable {t : DriverControlThreads}
    (h : driverControlMachine.Reachable t) : SwitchStopped (control t) := by
  have hboth : Coherent (control t) ∧ SwitchStopped (control t) := by
    refine h.invariant (P := fun t => Coherent (control t) ∧ SwitchStopped (control t)) ?_ ?_
    · rintro s hinit
      refine ⟨coherent_init hinit, ?_⟩
      obtain ⟨clientInfo, rfl⟩ := hinit
      exact fun _ hswitching => nomatch hswitching
    · rintro s t a es - ⟨hcoherent, hswitch⟩ hstep
      have hmove : ControlMove (control s) (label s a) es (control t) := controlMove_of_step hstep
      exact ⟨hcoherent.step hmove, hswitch.step hcoherent hmove⟩
  exact hboth.2

theorem Signalled.leaves {t : DriverControlThreads} (h : Signalled (control t))
    (found : Option ClientId) (timedOut : Bool) :
    ∃ u es, t.step (.continueDriver found timedOut) = some (u, es) ∧
      stepsToLeave u.driverThread < stepsToLeave t.driverThread ∧
      (stepsToLeave t.driverThread = 1 → waitEnded ∈ es) := by
  obtain ⟨hevent, hhalted, hcleared, -⟩ := h
  have hevent : t.server.driverResumedEvent = true := hevent
  simp only [control] at hhalted hcleared
  simp only [DriverControlThreads.step, DriverControlThreads.continueDriver]
  cases hthread : t.driverThread with
  | clear curr => simp [hthread, clearsEvent] at hcleared
  | resetFlag curr =>
    exact ⟨_, _, rfl, (by decide : 2 < 3), fun h => absurd h (by decide : (3 : ℕ) ≠ 1)⟩
  | enterWait after =>
    exact ⟨_, _, rfl, (by decide : 1 < 2), fun h => absurd h (by decide : (2 : ℕ) ≠ 1)⟩
  | wait after =>
    dsimp only
    rw [if_pos (.inl hevent)]
    refine ⟨_, _, rfl, ?_, fun _ => List.mem_singleton_self _⟩
    cases after <;> exact (by decide : 0 < 1)
  | outside | discover | search | halt | advance | readStatus => simp [hthread, inHalt] at hhalted

/-- In every run whose steps keep resumes: a request that signalled the event during a halt finds
it signalled until the driver leaves the halt, which every step of the driver brings closer; a
resume request that was accepted gets to signal it; and a step that was accepted during
initialization keeps the driver from going on to its next phase without a halt. -/
theorem resumes_kept {s t : DriverControlThreads} {tr : List DriverControlTransition}
    (hinit : driverControlMachine.init s) (h : driverControlMachine.Trace s tr t)
    (hkeeps : ∀ x ∈ tr, KeepsResumes x.1 x.2.1) :
    (resumeOwed tr = true → t.server.driverResumedEvent = true ∧
      ∀ found timedOut, ∃ u es, t.step (.continueDriver found timedOut) = some (u, es) ∧
        stepsToLeave u.driverThread < stepsToLeave t.driverThread ∧
        (stepsToLeave t.driverThread = 1 → waitEnded ∈ es)) ∧
    (∀ r, t.requestThread = .switching r → inHalt t.driverThread = true →
      ∃ u, t.step .continueRequest = some (u, []) ∧
        (u.requestThread = .signalling r ∨ u.requestThread = .resuming r)) ∧
    (initStepOwed tr = true → t.server.initStepRequested = true ∧
      ∀ a u es, t.step a = some (u, es) → notHalted ∉ es) := by
  refine ⟨fun howed => ?_, fun r hswitching hhalted => ?_, fun howed => ?_⟩
  · have hsignalled : Signalled (control t) := signalled_of_owed h hkeeps howed
    exact ⟨hsignalled.event, hsignalled.leaves⟩
  · have hstopped : IsStopped t.server.driverStatus :=
      switchStopped_of_reachable (h.reachable (.init hinit)) r hswitching hhalted
    simp only [DriverControlThreads.step, DriverControlThreads.continueRequest, hswitching]
    rcases hstopped with hstatus | hstatus | hstatus | hstatus <;> rw [hstatus]
    · exact ⟨_, rfl, .inl rfl⟩
    · exact ⟨_, rfl, .inl rfl⟩
    · exact ⟨_, rfl, .inr rfl⟩
    · exact ⟨_, rfl, .inr rfl⟩
  · have hrequested : StepRequested (control t) :=
      stepRequested_of_owed h (coherent_init hinit) hkeeps howed
    exact ⟨hrequested.flag, fun a u es hstep => hrequested.notHalted (controlMove_of_step hstep)⟩

def plainClientInfo : ClientInfoStruct := ⟨[], [], .zero, 0⟩

def newDriver : DriverControlThreads := .new plainClientInfo

def plainControlRequest (command : DriverControlMessage) : SessionPayload :=
  ⟨driverControlHeader command, (by decide : 4 ≤ kMaxPayloadSizeInBytes)⟩

def takeRequest (command : DriverControlMessage) : List DriverControlAction :=
  [.updateSession 0 (.payload (plainControlRequest command)) .notReady,
    .updateSession 0 .notReady .notReady]

def reachHalt : List DriverControlAction :=
  [.sessionEstablished driverControlStepReturnStatusVersion, .advanceDriverInitState,
    .continueDriver none false, .continueDriver (some 5) false, .continueDriver none false]

def lateResume : List DriverControlAction :=
  reachHalt ++ [.continueDriver none false, .continueDriver none false] ++
    takeRequest .resumeDriverRequest ++ [.continueRequest, .continueRequest]

def earlyResume : List DriverControlAction :=
  reachHalt ++ takeRequest .resumeDriverRequest ++
    [.continueRequest, .continueRequest, .continueDriver none false]

theorem resumes_kept_late :
    ∃ t, driverControlMachine.Trace newDriver
        (driverControlMachine.transitions newDriver lateResume) t ∧
      t.server.driverResumedEvent = true := by
  obtain ⟨t, hrun, howed⟩ := driverControlMachine.exists_of_run newDriver lateResume
    (fun _ => resumeOwed (driverControlMachine.transitions newDriver lateResume) = true)
    (by decide +kernel)
  have htrace : driverControlMachine.Trace newDriver
      (driverControlMachine.transitions newDriver lateResume) t := .of_run hrun
  have hkeeps : ∀ x ∈ driverControlMachine.transitions newDriver lateResume,
      KeepsResumes x.1 x.2.1 := by
    decide +kernel
  have hkept := resumes_kept ⟨plainClientInfo, rfl⟩ htrace hkeeps
  exact ⟨t, htrace, (hkept.1 howed).1⟩

/-- A resume request that comes before the event is cleared is lost. -/
theorem resume_forgotten :
    ¬ ∀ s tr t, driverControlMachine.init s → driverControlMachine.Trace s tr t →
      resumeOwed tr = true → t.server.driverResumedEvent = true := by
  intro hall
  obtain ⟨t, hrun, howed, hevent⟩ := driverControlMachine.exists_of_run newDriver earlyResume
    (fun t => resumeOwed (driverControlMachine.transitions newDriver earlyResume) = true ∧
      t.server.driverResumedEvent = false) (by decide +kernel)
  have hsignalled := hall newDriver _ t ⟨plainClientInfo, rfl⟩ (.of_run hrun) howed
  rw [hevent] at hsignalled
  cases hsignalled

/-- However the driver thread and the session thread take turns, the status of the driver agrees
with the place of the driver thread, a request that pauses or resumes the driver is only in progress
when the driver is initialized, and the status never goes back in the order of initialization. -/
theorem driver_status_advances {s t : DriverControlThreads} {tr : List DriverControlTransition}
    (hs : driverControlMachine.Reachable s) (h : driverControlMachine.Trace s tr t) :
    Coherent (control t) ∧
      initOrder (control s).driverStatus ≤ initOrder (control t).driverStatus :=
  h.invariant (C := fun _ _ => True)
    (P := fun u => Coherent (control u) ∧
      initOrder (control s).driverStatus ≤ initOrder (control u).driverStatus)
    ⟨coherent_of_reachable hs, le_rfl⟩ (fun _ _ => trivial) fun _ _ _ _ hcoherent _ hstep =>
      ⟨hcoherent.1.step (controlMove_of_step hstep),
        hcoherent.2.trans ((controlMove_of_step hstep).advances hcoherent.1)⟩

def throughResume : List DriverControlAction :=
  [.continueDriver none false, .continueDriver none false] ++ takeRequest .resumeDriverRequest ++
    [.continueRequest, .continueRequest, .continueDriver none false, .continueDriver none false,
      .continueDriver none false]

/-- A driver that halts at the end of its first phase is resumed and enters the second one. -/
theorem driver_status_advances_halted :
    ∃ s t, driverControlMachine.run newDriver reachHalt = some s ∧
      s.server.driverStatus = .haltedOnPlatformInit ∧
      driverControlMachine.run s throughResume = some t ∧
      t.server.driverStatus = .earlyDeviceInit ∧ t.driverThread = .outside ∧
      Coherent (control t) ∧ 1 ≤ initOrder t.server.driverStatus := by
  obtain ⟨s, hs, htest⟩ := driverControlMachine.exists_of_run newDriver reachHalt
    (fun s => (s.server.driverStatus = .haltedOnPlatformInit &&
      (driverControlMachine.run s throughResume).any fun t => t.server.driverStatus =
      .earlyDeviceInit && t.driverThread = .outside) = true) (by decide +kernel)
  obtain ⟨hhalted, hresumed⟩ := Bool.and_eq_true_iff.mp htest
  obtain ⟨t, ht, htest⟩ := (Option.any_eq_true _ _).mp hresumed
  obtain ⟨hearly, houtside⟩ := Bool.and_eq_true_iff.mp htest
  have hstatus := of_decide_eq_true hhalted
  obtain ⟨hcoherent, horder⟩ := driver_status_advances
    (.run (.init ⟨plainClientInfo, rfl⟩) hs) (.of_run ht)
  rw [show (control s).driverStatus = _ from hstatus] at horder
  exact ⟨s, t, hs, hstatus, ht, of_decide_eq_true hearly, of_decide_eq_true houtside, hcoherent,
    horder⟩

end DevDriver.Analysis
