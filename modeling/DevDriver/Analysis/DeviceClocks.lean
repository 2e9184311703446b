import DevDriver.Analysis.DriverControlReplies
import DevDriver.Model.DeviceClocks

/-!
# Setting and querying device clocks

A request to set a mode records it for the GPUs that it asks for, unless it asks for all GPUs of a
driver that has none: the index of the last one wraps, and the loop does not end.
-/

namespace DevDriver.Analysis

open Library Model Model.DriverControlServer DriverControlThreads DriverControlServer

section Loop

variable {mode : UInt32}

theorem recordModes_range {lastGpuIndex : ℕ} (hlast : lastGpuIndex + 1 < 2 ^ 32) (count : ℕ) :
    ∀ curGpuIndex modes written, curGpuIndex + count = lastGpuIndex + 1 →
      recordModes mode lastGpuIndex (count + 1) curGpuIndex modes written =
        some (fun i => if curGpuIndex ≤ i ∧ i ≤ lastGpuIndex then mode else modes i,
          written ++ List.range' curGpuIndex count) := by
  induction count with
  | zero =>
    intro curGpuIndex modes written hcount
    have hnone : (fun i => if curGpuIndex ≤ i ∧ i ≤ lastGpuIndex then mode else modes i) =
        modes := by
      funext i
      apply if_neg
      omega
    rw [recordModes, if_neg (by omega), hnone, List.range'_zero, List.append_nil]
  | succ count ih =>
    intro curGpuIndex modes written hcount
    have hnext : (curGpuIndex + 1) % 2 ^ 32 = curGpuIndex + 1 := Nat.mod_eq_of_lt (by omega)
    rw [recordModes, if_pos (by omega), hnext, ih _ _ _ (by omega), List.append_assoc,
      List.range'_succ]
    congr 2
    funext i
    by_cases hi : i = curGpuIndex
    · subst hi
      rw [if_neg (by omega), if_pos (by omega), Function.update_self]
    · rw [Function.update_of_ne hi]
      have hsame : (curGpuIndex + 1 ≤ i ∧ i ≤ lastGpuIndex) ↔
          (curGpuIndex ≤ i ∧ i ≤ lastGpuIndex) := by omega
      simp only [hsame]

theorem recordModes_endless (rounds : ℕ) : ∀ curGpuIndex modes written, curGpuIndex < 2 ^ 32 →
    recordModes mode (2 ^ 32 - 1) rounds curGpuIndex modes written = none := by
  induction rounds with
  | zero => exact fun _ _ _ _ => rfl
  | succ rounds ih =>
    intro curGpuIndex modes written hcur
    rw [recordModes, if_pos (by omega)]
    exact ih _ _ _ (Nat.mod_lt _ (by omega))

end Loop

/-! ## Setting a mode -/

section Setting

variable {s : DriverControlServer} {gpuIndex : ℕ} {mode : UInt32}

def AsksFor (s : DriverControlServer) (gpuIndex i : ℕ) : Prop :=
  i < s.numGpus ∧ (gpuIndex = i ∨ gpuIndex = 2 ^ 32 - 1)

instance (i : ℕ) : Decidable (AsksFor s gpuIndex i) := inferInstanceAs (Decidable (_ ∧ _))

def DriverAccepts (s : DriverControlServer) (gpuIndex : ℕ) (mode : UInt32) : Prop :=
  ∃ setCallback ∈ s.deviceClockCallbackInfo.setCallback, setCallback gpuIndex mode = .success

def withRequested (s : DriverControlServer) (gpuIndex : ℕ) (mode : UInt32) :
    DriverControlServer :=
  { s with
    deviceClockModes := fun i => if AsksFor s gpuIndex i then mode else s.deviceClockModes i }

/-- The request ends, writes to the modes of GPUs there are, and records the mode for those that it
asks for if the driver has accepted it, and otherwise changes nothing. -/
structure RecordsRequested (s : DriverControlServer) (gpuIndex : ℕ) (mode : UInt32)
    (record : ModeRecord) : Prop where
  written : ∀ i ∈ record.written, i < s.numGpus
  recorded : record.result = .success →
    DriverAccepts s gpuIndex mode ∧ record.server = withRequested s gpuIndex mode
  failed : record.result ≠ .success → record.server = s ∧
    ¬ ((gpuIndex < s.numGpus ∨ gpuIndex = 2 ^ 32 - 1) ∧ DriverAccepts s gpuIndex mode)

/-- The request asks for all GPUs of a driver that has none, and the driver accepts it. -/
def AsksForAllOfNone (s : DriverControlServer) (gpuIndex : ℕ) (mode : UInt32) : Prop :=
  gpuIndex = 2 ^ 32 - 1 ∧ s.numGpus = 0 ∧ DriverAccepts s gpuIndex mode

/-- What the loop leaves is what the handler of the server's threads computes at once. -/
theorem setDeviceClockModes_eq (hnum : s.numGpus ≤ kMaxNumGpus)
    (hvalid : gpuIndex < s.numGpus ∨ gpuIndex = 2 ^ 32 - 1)
    (hsome : ¬ (gpuIndex = 2 ^ 32 - 1 ∧ s.numGpus = 0)) :
    s.setDeviceClockModes gpuIndex mode = withRequested s gpuIndex mode := by
  have hfew : s.numGpus ≤ 16 := hnum
  rw [setDeviceClockModes, withRequested]
  congr 1
  funext i
  have hsame : ((if gpuIndex = 2 ^ 32 - 1 then 0 else gpuIndex) ≤ i ∧
      i ≤ if gpuIndex = 2 ^ 32 - 1 then (s.numGpus + 2 ^ 32 - 1) % 2 ^ 32 else gpuIndex) ↔
        AsksFor s gpuIndex i := by
    unfold AsksFor
    split <;> omega
  simp only [hsame]

theorem recordRequested_some (hnum : s.numGpus ≤ kMaxNumGpus)
    (hvalid : gpuIndex < s.numGpus ∨ gpuIndex = 2 ^ 32 - 1)
    (hsome : ¬ (gpuIndex = 2 ^ 32 - 1 ∧ s.numGpus = 0)) :
    ∃ rounds, s.recordRequested rounds gpuIndex mode =
      some ⟨.success, withRequested s gpuIndex mode,
        if gpuIndex = 2 ^ 32 - 1 then List.range' 0 s.numGpus else [gpuIndex]⟩ := by
  have hfew : s.numGpus ≤ 16 := hnum
  rw [← setDeviceClockModes_eq hnum hvalid hsome]
  unfold recordRequested DriverControlServer.requestedRange setDeviceClockModes
  by_cases hall : gpuIndex = 2 ^ 32 - 1
  · have hlast : (s.numGpus + 2 ^ 32 - 1) % 2 ^ 32 + 1 = s.numGpus := by omega
    refine ⟨s.numGpus + 1, ?_⟩
    simp only [if_pos hall]
    rw [recordModes_range (by omega) s.numGpus 0 _ _ (by omega)]
    rfl
  · have hindex : gpuIndex < s.numGpus := hvalid.resolve_right hall
    refine ⟨2, ?_⟩
    simp only [if_neg hall]
    rw [recordModes_range (by omega) 1 gpuIndex _ _ rfl]
    rfl

theorem setClockMode_endless (h : AsksForAllOfNone s gpuIndex mode) (rounds : ℕ) :
    s.setClockMode rounds gpuIndex mode = none := by
  obtain ⟨hall, hnone, setCallback, hcallback, haccepts⟩ := h
  rw [setClockMode, if_pos (.inr hall), Option.mem_def.mp hcallback]
  dsimp only
  rw [if_pos haccepts, recordRequested, DriverControlServer.requestedRange, if_pos hall, hnone]
  exact Option.map_eq_none_iff.mpr (recordModes_endless rounds 0 _ _ (by omega))

theorem setClockMode_records (hnum : s.numGpus ≤ kMaxNumGpus)
    (h : ¬ AsksForAllOfNone s gpuIndex mode) :
    ∃ rounds record, s.setClockMode rounds gpuIndex mode = some record ∧
      RecordsRequested s gpuIndex mode record := by
  have hnothing : ∀ result, result ≠ .success →
      (¬ ((gpuIndex < s.numGpus ∨ gpuIndex = 2 ^ 32 - 1) ∧ DriverAccepts s gpuIndex mode)) →
      RecordsRequested s gpuIndex mode ⟨result, s, []⟩ := by
    intro result hresult hnot
    exact ⟨nofun, fun hsuccess => absurd hsuccess hresult, fun _ => ⟨rfl, hnot⟩⟩
  by_cases hvalid : gpuIndex < s.numGpus ∨ gpuIndex = 2 ^ 32 - 1
  · cases hcallback : s.deviceClockCallbackInfo.setCallback with
    | none =>
      refine ⟨0, ⟨.error, s, []⟩, ?_, hnothing _ (by nofun) ?_⟩
      · rw [setClockMode, if_pos hvalid, hcallback]
      · rintro ⟨-, setCallback, hmem, -⟩
        rw [hcallback] at hmem
        cases hmem
    | some setCallback =>
      by_cases haccepts : setCallback gpuIndex mode = .success
      · have hdriver : DriverAccepts s gpuIndex mode := ⟨setCallback, hcallback, haccepts⟩
        obtain ⟨rounds, hrecord⟩ : ∃ rounds, s.recordRequested rounds gpuIndex mode = some _ :=
          recordRequested_some hnum hvalid fun hnone => h ⟨hnone.1, hnone.2, hdriver⟩
        have hset : s.setClockMode rounds gpuIndex mode =
            s.recordRequested rounds gpuIndex mode := by
          rw [setClockMode, if_pos hvalid, hcallback]
          exact if_pos haccepts
        refine ⟨rounds, _, hset.trans hrecord, ?_, fun _ => ⟨hdriver, rfl⟩,
          fun hfailed => absurd rfl hfailed⟩
        intro i hi
        split at hi
        · exact (List.mem_range'_1.mp hi).2.trans_eq (Nat.zero_add _)
        · rename_i hone
          obtain rfl := List.mem_singleton.mp hi
          exact hvalid.resolve_right hone
      · refine ⟨0, ⟨setCallback gpuIndex mode, s, []⟩, ?_, hnothing _ haccepts ?_⟩
        · rw [setClockMode, if_pos hvalid, hcallback]
          dsimp only
          rw [if_neg haccepts]
        · rintro ⟨-, other, hmem, hother⟩
          obtain rfl := Option.some.inj (hcallback.symm.trans hmem)
          exact haccepts hother
  · refine ⟨0, ⟨.error, s, []⟩, ?_, hnothing _ (by nofun) fun hnot => hvalid hnot.1⟩
    rw [setClockMode, if_neg hvalid]

/-- The handler with its loop and the one of the server's threads do the same where the loop
ends. -/
theorem handleSetClockMode_agrees (hnum : s.numGpus ≤ kMaxNumGpus) (session : DriverControlSession)
    (h : ¬ AsksForAllOfNone s session.payloadContainer.gpuIndex
      session.payloadContainer.deviceClockMode) :
    ∃ rounds written, s.handleSetClockMode rounds session =
      some ((s.handleSetDeviceClockModeRequest session).1,
        (s.handleSetDeviceClockModeRequest session).2, written) := by
  unfold handleSetClockMode setClockMode handleSetDeviceClockModeRequest
  dsimp only
  split
  · rename_i hvalid
    cases hcallback : s.deviceClockCallbackInfo.setCallback with
    | none => exact ⟨0, [], rfl⟩
    | some setCallback =>
      dsimp only
      split
      · rename_i haccepts
        have hsome : ¬ (session.payloadContainer.gpuIndex = 2 ^ 32 - 1 ∧ s.numGpus = 0) :=
          fun hnone => h ⟨hnone.1, hnone.2, setCallback, hcallback, haccepts⟩
        obtain ⟨rounds, hrecord⟩ : ∃ rounds, s.recordRequested rounds
            session.payloadContainer.gpuIndex session.payloadContainer.deviceClockMode = some _ :=
          recordRequested_some hnum hvalid hsome
        refine ⟨rounds, ?_⟩
        rw [hrecord, setDeviceClockModes_eq hnum hvalid hsome, haccepts]
        exact ⟨_, rfl⟩
      · exact ⟨0, [], rfl⟩
  · exact ⟨0, [], rfl⟩

/-- The handler of a request to set a mode ends and does what the request asks for. -/
def SetsRequestedClocks (s : DriverControlServer) (session : DriverControlSession) : Prop :=
  ∃ rounds record,
    s.handleSetClockMode rounds session = some (record.server,
      session.respond (setDeviceClockModeResponsePayload record.result), record.written) ∧
    RecordsRequested s session.payloadContainer.gpuIndex session.payloadContainer.deviceClockMode
      record

end Setting

/-! ## The number of GPUs -/

section NumGpus

variable {s : DriverControlServer} {t u : DriverControlThreads} {es : List DriverControlEvent}

theorem numGpus_handle (s : DriverControlServer) (session : DriverControlSession) :
    (s.processPayload session).1.numGpus = s.numGpus := by
  have hset : (s.handleSetDeviceClockModeRequest session).1.numGpus = s.numGpus := by
    dsimp only [handleSetDeviceClockModeRequest]
    split
    · split
      · rfl
      · split <;> rfl
    · rfl
  have hresume : s.resumeHalted.2.numGpus = s.numGpus := by
    rw [resumeHalted]
    split <;> rfl
  rw [DriverControlServer.processPayload]
  split
  case h_1 =>
    rw [handlePauseDriverRequest]
    split <;> rfl
  case h_2 =>
    rw [handleResumeDriverRequest]
    split
    · exact hresume
    · rfl
  case h_4 => exact hset
  case h_9 =>
    rw [handleStepDriverRequest]
    split
    · rfl
    · split <;> rfl
  all_goals rfl

theorem numGpus_processPayload (r : ℕ) (session : DriverControlSession)
    (t : DriverControlThreads) :
    (t.processPayload r session).1.server.numGpus = t.server.numGpus := by
  rw [DriverControlThreads.processPayload]
  split
  · split <;> rfl
  · split <;> rfl
  · rename_i hcommand
    have h := numGpus_handle t.server session
    rw [DriverControlServer.processPayload, hcommand] at h
    exact h
  · exact numGpus_handle t.server session

theorem numGpus_updateSession (r : ℕ) (session : DriverControlSession) (receive : ReceiveAnswer)
    (send : Result) (t : DriverControlThreads) :
    (t.updateSession r session receive send).1.server.numGpus = t.server.numGpus := by
  unfold DriverControlThreads.updateSession
  split
  · split <;> rfl
  · exact numGpus_processPayload r session t
  · split <;> rfl
  · split <;> rfl

theorem server_finishRequest (r : ℕ) (data : List UInt8) (t : DriverControlThreads) :
    (t.finishRequest r data).server = t.server := by
  rw [finishRequest]
  split <;> rfl

theorem numGpus_continueRequest (h : t.continueRequest = some (u, es)) :
    u.server.numGpus = t.server.numGpus := by
  rw [continueRequest] at h
  split at h
  · cases h
  · cases h
    rfl
  · cases h
    rw [server_finishRequest]
    rfl
  · split at h <;> cases h
    all_goals first
      | rfl
      | rw [server_finishRequest]
  · cases h
    rfl
  · cases h
    rw [server_finishRequest]
    rfl

theorem numGpus_continueDriver {found : Option ClientId} {timedOut : Bool}
    (h : t.continueDriver found timedOut = some (u, es)) :
    u.server.numGpus = t.server.numGpus := by
  have hsearch : ∀ ret, (searchClient ret found t.server).2.numGpus =
      t.server.numGpus := by
    intro ret
    unfold searchClient
    split
    · split
      · split <;> rfl
      · rfl
    · rfl
  rw [continueDriver] at h
  split at h
  case h_3 ret _ =>
    dsimp only at h
    split at h <;> cases h <;> exact hsearch ret
  all_goals try split at h
  all_goals first
    | cases h; rfl
    | cases h

theorem numGpus_step {a : DriverControlAction} (h : t.step a = some (u, es)) :
    u.server.numGpus = t.server.numGpus ∨ u.server.numGpus ≤ kMaxNumGpus := by
  cases a with
  | setNumGpus numGpus =>
    cases h
    change (t.server.setNumGpus numGpus).numGpus = _ ∨ (t.server.setNumGpus numGpus).numGpus ≤ _
    rw [setNumGpus]
    split
    · rename_i hroom
      exact .inr hroom
    · exact .inl rfl
  | setDeviceClockCallback info =>
    cases h
    exact .inl rfl
  | setDriverInitClientId clientId =>
    cases h
    exact .inl rfl
  | sessionEstablished version =>
    rw [DriverControlThreads.step] at h
    split at h <;> cases h
    exact .inl rfl
  | sessionTerminated r =>
    rw [DriverControlThreads.step] at h
    split at h <;> cases h
    exact .inl rfl
  | updateSession r receive send =>
    obtain ⟨-, h⟩ := Option.ite_none_right_eq_some.mp h
    obtain ⟨session, -, hupdate⟩ := Option.map_eq_some_iff.mp h
    left
    rw [← numGpus_updateSession r session receive send t, hupdate]
  | continueRequest => exact .inl (numGpus_continueRequest h)
  | advanceDriverInitState =>
    rw [DriverControlThreads.step] at h
    split at h <;> cases h
    exact .inl rfl
  | driverTick =>
    obtain ⟨-, h⟩ := Option.ite_none_right_eq_some.mp h
    left
    obtain rfl := congrArg Prod.fst (Option.some.inj h)
    rw [driverTick]
    split
    · dsimp only
      split <;> rfl
    · rfl
  | continueDriver found timedOut => exact .inl (numGpus_continueDriver h)

theorem numGpus_le (h : driverControlMachine.Reachable t) :
    t.server.numGpus ≤ kMaxNumGpus := by
  apply h.invariant (P := fun t => t.server.numGpus ≤ kMaxNumGpus)
  · rintro t ⟨clientInfo, rfl⟩
    exact Nat.zero_le _
  · intro t u a es _ hbound hstep
    rcases numGpus_step hstep with hsame | hroom
    · exact hsame.trans_le hbound
    · exact hroom

end NumGpus

/-- The handler ends and sets the modes of the GPUs that are asked for unless the driver accepts to
set those of all GPUs when there are none. -/
theorem set_requested_clocks_iff {t : DriverControlThreads}
    (h : driverControlMachine.Reachable t) (session : DriverControlSession) :
    SetsRequestedClocks t.server session ↔
      ¬ AsksForAllOfNone t.server session.payloadContainer.gpuIndex
        session.payloadContainer.deviceClockMode := by
  constructor
  · rintro ⟨rounds, record, hsome, -⟩ hnone
    rw [handleSetClockMode, setClockMode_endless hnone, Option.map_none] at hsome
    cases hsome
  · intro hnot
    obtain ⟨rounds, record, hset, hrecords⟩ := setClockMode_records (numGpus_le h) hnot
    refine ⟨rounds, record, ?_, hrecords⟩
    rw [handleSetClockMode, hset, Option.map_some]

def acceptingDriver : DriverControlThreads :=
  newDriver.setServer
    { newDriver.server with deviceClockCallbackInfo := ⟨none, some fun _ _ => .success⟩ }

theorem acceptingDriver_reachable : driverControlMachine.Reachable acceptingDriver :=
  .step (.init ⟨plainClientInfo, rfl⟩)
    (a := .setDeviceClockCallback ⟨none, some fun _ _ => .success⟩) rfl

def asksForPeak : DriverControlSession :=
  ⟨8, (DriverControlCall.setDeviceClockMode 0xFFFFFFFF deviceClockModePeak).container,
    .processPayload⟩

theorem gpuIndex_asksForPeak : asksForPeak.payloadContainer.gpuIndex = 2 ^ 32 - 1 := by
  decide +kernel

theorem set_requested_clocks_iff_twoGpus :
    SetsRequestedClocks (acceptingDriver.setServer (acceptingDriver.server.setNumGpus 2)).server
      asksForPeak := by
  refine (set_requested_clocks_iff
    (.step acceptingDriver_reachable (a := .setNumGpus 2) rfl) asksForPeak).mpr ?_
  rintro ⟨-, hnone, -⟩
  cases hnone

/-- The driver is asked for all of its GPUs before it has registered any. -/
theorem set_requested_clocks_not :
    ¬ ∀ t, driverControlMachine.Reachable t → ∀ session, SetsRequestedClocks t.server session := by
  intro hall
  obtain ⟨rounds, record, hended, -⟩ := hall _ acceptingDriver_reachable asksForPeak
  have hnone : AsksForAllOfNone acceptingDriver.server asksForPeak.payloadContainer.gpuIndex
      asksForPeak.payloadContainer.deviceClockMode :=
    ⟨gpuIndex_asksForPeak, rfl, fun _ _ => .success, rfl, rfl⟩
  rw [handleSetClockMode, setClockMode_endless hnone] at hended
  cases hended

end DevDriver.Analysis
