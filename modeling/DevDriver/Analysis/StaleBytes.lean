import DevDriver.Analysis.Containers
import DevDriver.Model.DriverControlServer
import DevDriver.Model.EventServer

/-!
# What servers read behind a payload

A session has one container for its requests and its responses, and a handler reads the struct of
its request from it, whatever the size of the payload that was received.
-/

namespace DevDriver.Analysis

open Library Model DriverControlServer EventServer SizedPayloadContainer

/-! ## The driver control server -/

def receivedRequest (version : Version) (p : SessionPayload) (c : SizedPayloadContainer) :
    DriverControlSession :=
  ⟨version, c.fill p.1, .processPayload⟩

def driverControlReply (session : DriverControlSession) (s : DriverControlServer) :
    Option (List UInt8) :=
  match session.state with
  | .sendPayload => some session.sentBytes
  | .stepDriver => some (s.stepResponse .success session).sentBytes
  | _ => none

/-- The server, the state of the session and its reply are the same. -/
structure SameOutcome (x y : DriverControlServer × DriverControlSession) : Prop where
  server : x.1 = y.1
  version : x.2.version = y.2.version
  state : x.2.state = y.2.state
  reply : ∀ s, driverControlReply x.2 s = driverControlReply y.2 s

/-- Whatever the server and the bytes behind the payload are, they do not matter. -/
def DriverControlIgnoresStale (version : Version) (p : SessionPayload) : Prop :=
  ∀ (s : DriverControlServer) (c c' : SizedPayloadContainer), SameOutcome
    (s.processPayload (receivedRequest version p c))
    (s.processPayload (receivedRequest version p c'))

def driverControlReadSize : DriverControlMessage → ℕ
  | .queryDeviceClockModeRequest => 8
  | .queryDeviceClockRequest => 8
  | .queryMaxDeviceClockRequest => 8
  | .stepDriverRequest => 8
  | .setDeviceClockModeRequest => 12
  | .queryDeviceClockByModeRequest => 12
  | _ => 1

def repliesShort : DriverControlMessage → Bool
  | .pauseDriverRequest => true
  | .resumeDriverRequest => true
  | .queryNumGpusRequest => true
  | .queryDeviceClockModeRequest => true
  | .setDeviceClockModeRequest => true
  | .queryDriverStatusRequest => true
  | .stepDriverRequest => true
  | .ignoreDriverRequest => true
  | _ => false

/-- A payload is as long as what its command reads and what is sent back from its container. -/
def CoversDriverControl (version : Version) (p : List UInt8) : Prop :=
  ∃ code rest, p = code :: rest ∧
    driverControlReadSize (.ofCode code) ≤ p.length ∧
    (version < driverControlQueryClientInfoVersion → repliesShort (.ofCode code) = true →
      kLegacyDriverControlPayloadSize ≤ p.length)

section DriverControl

variable {version : Version} {p : SessionPayload} {code : UInt8} {rest data : List UInt8}

theorem driverControlCommand_received (version : Version) (hp : p.1 = code :: rest)
    (c : SizedPayloadContainer) :
    (receivedRequest version p c).payloadContainer.driverControlCommand = .ofCode code := by
  rw [driverControlCommand]
  change DriverControlMessage.ofCode (UInt8.ofNat (payloadField (writeBytes p.1 c.payload) 0 1)) = _
  rw [payloadField_first hp, UInt8.ofNat_toNat]

def sentCount (version : Version) (data : List UInt8) : ℕ :=
  if driverControlQueryClientInfoVersion ≤ version then data.length
  else kLegacyDriverControlPayloadSize

theorem sentBytes_respond (data : List UInt8) (version : Version) (p : SessionPayload)
    (c : SizedPayloadContainer) :
    ((receivedRequest version p c).respond data).sentBytes =
      readBytes (sentCount version data) (writeBytes data (writeBytes p.1 c.payload)) := rfl

theorem sentBytes_respond_congr (c c' : SizedPayloadContainer)
    (h : version < driverControlQueryClientInfoVersion →
      kLegacyDriverControlPayloadSize ≤ data.length ∨
        kLegacyDriverControlPayloadSize ≤ p.1.length) :
    ((receivedRequest version p c).respond data).sentBytes =
      ((receivedRequest version p c').respond data).sentBytes := by
  rw [sentBytes_respond, sentBytes_respond]
  apply readBytes_response
  rw [sentCount]
  split
  · exact .inl (le_refl _)
  · rename_i hversion
    exact h (Nat.lt_of_not_le hversion)

theorem sameOutcome_respond (s : DriverControlServer) (c c' : SizedPayloadContainer)
    (h : version < driverControlQueryClientInfoVersion →
      kLegacyDriverControlPayloadSize ≤ data.length ∨
        kLegacyDriverControlPayloadSize ≤ p.1.length) :
    SameOutcome (s, (receivedRequest version p c).respond data)
      (s, (receivedRequest version p c').respond data) :=
  ⟨rfl, rfl, rfl, fun _ => congrArg some (sentBytes_respond_congr c c' h)⟩

@[simp] theorem length_clockResponse (command : DriverControlMessage) (result : Result)
    (gpuClock memClock : UInt32) :
    (clockResponse command result gpuClock memClock).length = 16 := by
  simp [clockResponse]

theorem gpuIndex_received (version : Version) (c c' : SizedPayloadContainer)
    (h : 8 ≤ p.1.length) :
    (receivedRequest version p c).payloadContainer.gpuIndex =
      (receivedRequest version p c').payloadContainer.gpuIndex :=
  payloadField_received 4 4 h p.2 _ _

theorem stepsOf_received (version : Version) (c c' : SizedPayloadContainer)
    (h : 8 ≤ p.1.length) :
    stepsOf (receivedRequest version p c) =
      stepsOf (receivedRequest version p c') := by
  have hcount : (receivedRequest version p c).payloadContainer.stepCount =
      (receivedRequest version p c').payloadContainer.stepCount :=
    congrArg UInt32.ofNat (payloadField_received 4 4 h p.2 _ _)
  rw [stepsOf, stepsOf, hcount]

theorem deviceClockMode_received (version : Version) (c c' : SizedPayloadContainer)
    (h : 12 ≤ p.1.length) :
    (receivedRequest version p c).payloadContainer.deviceClockMode =
      (receivedRequest version p c').payloadContainer.deviceClockMode :=
  congrArg UInt32.ofNat (payloadField_received 8 4 h p.2 _ _)

def stepResponseData (version : Version) (result : Result) (s : DriverControlServer) :
    List UInt8 :=
  if driverControlStepReturnStatusVersion ≤ version then
    stepDriverResponsePayloadV2 result s.driverStatus
  else stepDriverResponsePayload result

theorem stepResponse_eq (result : Result) (s : DriverControlServer)
    (session : DriverControlSession) :
    s.stepResponse result session =
      session.respond (stepResponseData session.version result s) := by
  rw [stepResponse, stepResponseData]
  split <;> rfl

theorem driverControl_ignoresStale (h : CoversDriverControl version p.1) :
    DriverControlIgnoresStale version p := by
  obtain ⟨code, rest, hp, hsize, hshort⟩ := h
  intro s c c'
  have hpayload : (repliesShort (.ofCode code) = true) →
      ∀ {data : List UInt8}, version < driverControlQueryClientInfoVersion →
        kLegacyDriverControlPayloadSize ≤ data.length ∨
          kLegacyDriverControlPayloadSize ≤ p.1.length :=
    fun hreply _ hversion => .inr (hshort hversion hreply)
  rw [processPayload, processPayload,
    driverControlCommand_received version hp c, driverControlCommand_received version hp c']
  generalize DriverControlMessage.ofCode code = command at hsize hshort hpayload
  cases command with
  | pauseDriverRequest =>
    simp only [handlePauseDriverRequest]
    split <;> exact sameOutcome_respond _ c c' (hpayload rfl)
  | resumeDriverRequest =>
    simp only [handleResumeDriverRequest]
    split <;> exact sameOutcome_respond _ c c' (hpayload rfl)
  | queryNumGpusRequest => exact sameOutcome_respond _ c c' (hpayload rfl)
  | queryDeviceClockModeRequest =>
    have hindex := gpuIndex_received version c c' hsize
    simp only [handleQueryDeviceClockModeRequest, hindex]
    split <;> exact sameOutcome_respond _ c c' (hpayload rfl)
  | setDeviceClockModeRequest =>
    have hindex := gpuIndex_received version c c'
      (le_trans (by decide) hsize)
    have hmode := deviceClockMode_received version c c' hsize
    simp only [handleSetDeviceClockModeRequest, hindex, hmode]
    split
    · split <;> exact sameOutcome_respond _ c c' (hpayload rfl)
    · exact sameOutcome_respond _ c c' (hpayload rfl)
  | queryDeviceClockRequest =>
    have hindex := gpuIndex_received version c c' hsize
    simp only [handleQueryDeviceClockRequest, hindex]
    exact sameOutcome_respond _ c c' fun _ => .inl (length_clockResponse _ _ _ _).ge
  | queryMaxDeviceClockRequest =>
    have hindex := gpuIndex_received version c c' hsize
    simp only [handleQueryMaxDeviceClockRequest, hindex]
    exact sameOutcome_respond _ c c' fun _ => .inl (length_clockResponse _ _ _ _).ge
  | queryDriverStatusRequest => exact sameOutcome_respond _ c c' (hpayload rfl)
  | stepDriverRequest =>
    have hsteps := stepsOf_received version c c' hsize
    have hstep : ∀ s, driverControlReply
        { receivedRequest version p c with state := .stepDriver } s =
          driverControlReply { receivedRequest version p c' with state := .stepDriver } s := by
      intro s
      simp only [driverControlReply, stepResponse_eq]
      exact congrArg some (sentBytes_respond_congr c c' (hpayload rfl))
    simp only [handleStepDriverRequest, hsteps]
    split
    · exact ⟨rfl, rfl, rfl, hstep⟩
    · split
      · exact ⟨rfl, rfl, rfl, hstep⟩
      · rw [stepResponse_eq, stepResponse_eq]
        exact sameOutcome_respond _ c c' (hpayload rfl)
  | queryClientInfoRequest =>
    refine sameOutcome_respond _ c c' fun _ => .inl ?_
    rw [queryClientInfoResponsePayload, List.length_append, length_clientInfo]
    decide
  | queryDeviceClockByModeRequest =>
    have hindex := gpuIndex_received version c c'
      (le_trans (by decide) hsize)
    have hmode := deviceClockMode_received version c c' hsize
    simp only [handleQueryDeviceClockByModeRequest, hindex, hmode]
    exact sameOutcome_respond _ c c' fun _ => .inl (length_clockResponse _ _ _ _).ge
  | ignoreDriverRequest => exact sameOutcome_respond _ c c' (hpayload rfl)
  | _ => exact ⟨rfl, rfl, rfl, fun _ => rfl⟩

/-! ### Payloads that are too short -/

variable {i : ℕ}

theorem getElem?_sentBytes (hdata : i < data.length) (hlegacy : i < kLegacyDriverControlPayloadSize)
    (c : SizedPayloadContainer) :
    ((receivedRequest version p c).respond data).sentBytes[i]? = data[i]? := by
  have hcount : i < sentCount version data := by
    rw [sentCount]
    split
    · exact hdata
    · exact hlegacy
  have hmax : i < kMaxPayloadSizeInBytes := hlegacy.trans (by decide)
  rw [sentBytes_respond, getElem?_readBytes hcount hmax, writeBytes_of_lt hdata,
    List.getElem?_eq_getElem hdata]

theorem getElem?_sentBytes_stale (hversion : version < driverControlQueryClientInfoVersion)
    (hdata : data.length ≤ 15) (hp : p.1.length ≤ 15) (b : UInt8) :
    ((receivedRequest version p (staleByte 15 b)).respond data).sentBytes[15]? = some b := by
  have hcount : 15 < sentCount version data := by
    rw [sentCount, if_neg (UInt16.not_le.mpr hversion)]
    decide
  have hmax : 15 < kMaxPayloadSizeInBytes := by decide
  rw [sentBytes_respond, getElem?_readBytes hcount hmax, writeBytes_of_le hdata,
    writeBytes_of_le hp]
  rfl

theorem SameOutcome.sentBytes {s s' : DriverControlServer} {session session' : DriverControlSession}
    {data data' : List UInt8}
    (h : SameOutcome (s, session.respond data) (s', session'.respond data')) :
    (session.respond data).sentBytes = (session'.respond data').sentBytes :=
  Option.some.inj (h.reply s)

theorem SameOutcome.byte {s s' : DriverControlServer} {c c' : SizedPayloadContainer}
    {data data' : List UInt8}
    (h : SameOutcome (s, (receivedRequest version p c).respond data)
      (s', (receivedRequest version p c').respond data')) (i : ℕ)
    (hi : i < kLegacyDriverControlPayloadSize) {x y : UInt8} (hx : data[i]? = some x)
    (hy : data'[i]? = some y) : x = y := by
  obtain ⟨hdata, -⟩ := List.getElem?_eq_some_iff.mp hx
  obtain ⟨hdata', -⟩ := List.getElem?_eq_some_iff.mp hy
  have hsent := congrArg (·[i]?) h.sentBytes
  rw [getElem?_sentBytes hdata hi, getElem?_sentBytes hdata' hi, hx, hy] at hsent
  exact Option.some.inj hsent

def probeServer (driverStatus : DriverStatus) (numGpus : ℕ) (callback : UInt32 → Result) :
    DriverControlServer :=
  { DriverControlServer.new ⟨[], [], .zero, 0⟩ with
    driverStatus := driverStatus
    numGpus := numGpus
    deviceClockCallbackInfo :=
      ⟨some fun _ mode => (callback mode, 0, 0), some fun _ mode => callback mode⟩ }

@[simp] theorem numGpus_probeServer (driverStatus : DriverStatus) (numGpus : ℕ)
    (callback : UInt32 → Result) :
    (probeServer driverStatus numGpus callback).numGpus = numGpus := rfl

theorem queryClocks_probeServer {driverStatus : DriverStatus} {numGpus : ℕ}
    (callback : UInt32 → Result) (mode : UInt32) (h : i < numGpus) :
    (probeServer driverStatus numGpus callback).queryClocks i mode = (callback mode, 0, 0) :=
  if_pos h

theorem queryClocks_probeServer_of_not_lt {driverStatus : DriverStatus} {numGpus : ℕ}
    (callback : UInt32 → Result) (mode : UInt32) (h : ¬ i < numGpus) :
    (probeServer driverStatus numGpus callback).queryClocks i mode = (.error, 0, 0) :=
  if_neg h

@[simp] theorem setCallback_probeServer (driverStatus : DriverStatus) (numGpus : ℕ)
    (callback : UInt32 → Result) :
    (probeServer driverStatus numGpus callback).deviceClockCallbackInfo.setCallback =
      some fun _ mode => callback mode := rfl

theorem one_le_of_ignoresStale (h : DriverControlIgnoresStale version p) : p.1 ≠ [] := by
  intro hp
  have hcommand : ∀ b, (receivedRequest version p
      (staleByte 0 b)).payloadContainer.driverControlCommand = .ofCode b := by
    intro b
    rw [driverControlCommand]
    change DriverControlMessage.ofCode
      (UInt8.ofNat (payloadField (writeBytes p.1 (staleByte 0 b).payload) 0 1)) = _
    rw [hp, payloadField_empty, UInt8.ofNat_toNat]
  have hsame := h (probeServer .running 0 fun _ => .error)
    (staleByte 0 (DriverControlMessage.toCode .queryNumGpusRequest))
    (staleByte 0 (DriverControlMessage.toCode .ignoreDriverRequest))
  rw [processPayload, processPayload, hcommand, hcommand,
    DriverControlMessage.ofCode_toCode, DriverControlMessage.ofCode_toCode] at hsame
  exact absurd (hsame.byte 0 (by decide) rfl rfl) (by decide)

theorem gpuIndex_stale (version : Version) (p : SessionPayload) (hp : p.1.length ≤ 7) :
    ∃ x, (receivedRequest version p (staleByte 7 0)).payloadContainer.gpuIndex = x ∧
      (receivedRequest version p (staleByte 7 1)).payloadContainer.gpuIndex = x + 2 ^ 24 := by
  obtain ⟨x, -, h0, h1⟩ := payloadField_stale_ne 4 hp (by decide)
  exact ⟨x, h0, h1⟩

theorem deviceClockMode_stale (version : Version) (p : SessionPayload) (hp : p.1.length ≤ 11) :
    ∃ mode mode' i, mode' ≠ mode ∧
      (receivedRequest version p (staleByte 11 0)).payloadContainer.deviceClockMode = mode ∧
      (receivedRequest version p (staleByte 11 1)).payloadContainer.deviceClockMode = mode' ∧
      (receivedRequest version p (staleByte 11 0)).payloadContainer.gpuIndex = i ∧
      (receivedRequest version p (staleByte 11 1)).payloadContainer.gpuIndex = i := by
  obtain ⟨x, hx, h0, h1⟩ := payloadField_stale_ne 8 hp (by decide)
  refine ⟨_, _, _, fun heq => ?_, rfl, rfl, ?_, rfl⟩
  · change UInt32.ofNat (payloadField (writeBytes p.1 (staleByte 11 1).payload) 8 4) =
      UInt32.ofNat (payloadField (writeBytes p.1 (staleByte 11 0).payload) 8 4) at heq
    rw [h0, h1] at heq
    have hnat := congrArg UInt32.toNat heq
    rw [UInt32.toNat_ofNat', UInt32.toNat_ofNat'] at hnat
    omega
  · apply payloadField_congr (by decide)
    intro i hi
    change writeBytes p.1 (staleByte 11 0).payload i = writeBytes p.1 (staleByte 11 1).payload i
    by_cases hreceived : i.val < p.1.length
    · rw [writeBytes_of_lt hreceived, writeBytes_of_lt hreceived]
    · have hbehind : p.1.length ≤ i.val := Nat.le_of_not_lt hreceived
      have hne : ¬ i.val = 11 := by omega
      rw [writeBytes_of_le hbehind, writeBytes_of_le hbehind]
      simp only [staleByte, if_neg hne]

theorem stepsOf_stale (version : Version) (p : SessionPayload) (hp : p.1.length ≤ 7) :
    stepsOf (receivedRequest version p (staleByte 7 0)) ≠
      stepsOf (receivedRequest version p (staleByte 7 1)) := by
  obtain ⟨x, hx, h0, h1⟩ := payloadField_stale_ne 4 hp (by decide)
  have hcount : ∀ b y, payloadField (writeBytes p.1 (staleByte 7 b).payload) 4 4 = y →
      y < 2 ^ 31 → stepsOf (receivedRequest version p (staleByte 7 b)) =
        max (y : ℤ) 1 := by
    intro b y hy hlt
    have hnat : (receivedRequest version p
        (staleByte 7 b)).payloadContainer.stepCount.toBitVec.toNat = y := by
      change (UInt32.ofNat (payloadField (writeBytes p.1 (staleByte 7 b).payload) 4 4)).toNat = y
      rw [hy, UInt32.toNat_ofNat']
      omega
    rw [stepsOf]
    change max ((receivedRequest version p
      (staleByte 7 b)).payloadContainer.stepCount.toBitVec.toInt) 1 = _
    rw [BitVec.toInt_eq_toNat_of_lt (by omega), hnat]
  rw [hcount 0 x h0 (by omega), hcount 1 (x + 2 ^ 24) h1 (by omega)]
  push_cast
  omega

theorem readSize_le_of_ignoresStale (h : DriverControlIgnoresStale version p)
    (hp : p.1 = code :: rest) : driverControlReadSize (.ofCode code) ≤ p.1.length := by
  by_contra hshort
  have hpos : 1 ≤ p.1.length := by simp [hp]
  have hle : ∀ n, ¬ n + 1 ≤ p.1.length → p.1.length ≤ n := fun _ => Nat.le_of_not_lt
  have hcommand := driverControlCommand_received version hp
  have hindex := fun hp => gpuIndex_stale version p hp
  have hmode := fun hp => deviceClockMode_stale version p hp
  have hstep := fun hp => stepsOf_stale version p hp
  have hsame := fun (s : DriverControlServer) (c c' : SizedPayloadContainer) => h s c c'
  simp only [processPayload, hcommand] at hsame
  generalize DriverControlMessage.ofCode code = command at hshort hsame
  have hlt : ∀ x : ℕ, x < x + 1 := Nat.lt_succ_self
  have hnot : ∀ x : ℕ, ¬ x + 2 ^ 24 < x + 1 := by omega
  cases command with
  | queryDeviceClockModeRequest =>
    obtain ⟨x, h0, h1⟩ := hindex (hle 7 hshort)
    have hoff := hsame (probeServer .running (x + 1) fun _ => .success) (staleByte 7 0)
      (staleByte 7 1)
    simp only [handleQueryDeviceClockModeRequest, h0, h1,
      numGpus_probeServer, hlt, hnot, if_true, if_false] at hoff
    exact absurd (hoff.byte 4 (by decide) rfl rfl) (by decide)
  | queryDeviceClockRequest =>
    obtain ⟨x, h0, h1⟩ := hindex (hle 7 hshort)
    have hoff := hsame (probeServer .running (x + 1) fun _ => .success) (staleByte 7 0)
      (staleByte 7 1)
    simp only [handleQueryDeviceClockRequest, h0, h1,
      queryClocks_probeServer _ _ (hlt x), queryClocks_probeServer_of_not_lt _ _ (hnot x)] at hoff
    exact absurd (hoff.byte 4 (by decide) rfl rfl) (by decide)
  | queryMaxDeviceClockRequest =>
    obtain ⟨x, h0, h1⟩ := hindex (hle 7 hshort)
    have hoff := hsame (probeServer .running (x + 1) fun _ => .success) (staleByte 7 0)
      (staleByte 7 1)
    simp only [handleQueryMaxDeviceClockRequest, h0, h1,
      queryClocks_probeServer _ _ (hlt x), queryClocks_probeServer_of_not_lt _ _ (hnot x)] at hoff
    exact absurd (hoff.byte 4 (by decide) rfl rfl) (by decide)
  | stepDriverRequest =>
    have hne := hstep (hle 7 hshort)
    have hoff := (hsame (probeServer .paused 0 fun _ => .success) (staleByte 7 0)
      (staleByte 7 1)).server
    have hcounter : 0 + stepsOf (receivedRequest version p (staleByte 7 0)) =
        0 + stepsOf (receivedRequest version p (staleByte 7 1)) :=
      congrArg stepCounter hoff
    omega
  | setDeviceClockModeRequest =>
    obtain ⟨mode, mode', i, hne, h0, h1, hi, heq⟩ := hmode (hle 11 hshort)
    have hoff := hsame (probeServer .running (i + 1) fun m => if m = mode then .success else .error)
      (staleByte 11 0) (staleByte 11 1)
    simp only [handleSetDeviceClockModeRequest, h0, h1, hi, heq,
      numGpus_probeServer, setCallback_probeServer, hlt, true_or, if_true, if_neg hne] at hoff
    exact absurd (hoff.byte 4 (by decide) rfl rfl) (by decide)
  | queryDeviceClockByModeRequest =>
    obtain ⟨mode, mode', i, hne, h0, h1, hi, heq⟩ := hmode (hle 11 hshort)
    have hoff := hsame (probeServer .running (i + 1) fun m => if m = mode then .success else .error)
      (staleByte 11 0) (staleByte 11 1)
    simp only [handleQueryDeviceClockByModeRequest, h0, h1, hi, heq,
      queryClocks_probeServer _ _ (hlt i), if_true, if_neg hne] at hoff
    exact absurd (hoff.byte 4 (by decide) rfl rfl) (by decide)
  | _ => exact hshort hpos

theorem exists_short_response (hp : p.1 = code :: rest)
    (hversion : version < driverControlQueryClientInfoVersion)
    (hreply : repliesShort (.ofCode code) = true) (c : SizedPayloadContainer) :
    ∃ data : List UInt8, data.length ≤ 15 ∧
      ((probeServer .platformInit 0 fun _ => .error).processPayload
        (receivedRequest version p c)).2 = (receivedRequest version p c).respond data := by
  rw [processPayload, driverControlCommand_received version hp]
  have hmode : ∀ result mode, (queryDeviceClockModeResponsePayload result mode).length ≤ 15 := by
    intro result mode
    simp [queryDeviceClockModeResponsePayload]
  have hstep : ¬ driverControlStepReturnStatusVersion ≤ version := by
    intro hle
    have hlt : driverControlQueryClientInfoVersion < driverControlStepReturnStatusVersion := by
      decide
    exact absurd (UInt16.lt_of_lt_of_le (UInt16.lt_trans hversion hlt) hle) (UInt16.lt_irrefl _)
  generalize DriverControlMessage.ofCode code = command at hreply
  cases command with
  | pauseDriverRequest => exact ⟨_, by decide, rfl⟩
  | resumeDriverRequest => exact ⟨_, by decide, rfl⟩
  | queryNumGpusRequest => exact ⟨_, by decide, rfl⟩
  | queryDeviceClockModeRequest =>
    simp only [handleQueryDeviceClockModeRequest]
    split <;> exact ⟨_, hmode _ _, rfl⟩
  | setDeviceClockModeRequest =>
    simp only [handleSetDeviceClockModeRequest, setCallback_probeServer]
    split <;> exact ⟨_, by decide, rfl⟩
  | queryDriverStatusRequest =>
    refine ⟨_, ?_, rfl⟩
    simp [queryDriverStatusResponsePayload, driverControlHeader]
  | stepDriverRequest =>
    refine ⟨stepDriverResponsePayload .error, by decide, ?_⟩
    exact if_neg hstep
  | ignoreDriverRequest => exact ⟨_, by decide, rfl⟩
  | _ => cases hreply

theorem legacy_of_ignoresStale (h : DriverControlIgnoresStale version p) (hp : p.1 = code :: rest)
    (hversion : version < driverControlQueryClientInfoVersion)
    (hreply : repliesShort (.ofCode code) = true) :
    kLegacyDriverControlPayloadSize ≤ p.1.length := by
  by_contra hshort
  have hlength : p.1.length ≤ 15 := Nat.le_of_lt_succ (Nat.lt_of_not_le hshort)
  obtain ⟨data, hdata, hzero⟩ := exists_short_response hp hversion hreply (staleByte 15 0)
  obtain ⟨data', hdata', hone⟩ := exists_short_response hp hversion hreply (staleByte 15 1)
  have hsame := (h (probeServer .platformInit 0 fun _ => .error) (staleByte 15 0)
    (staleByte 15 1)).reply (probeServer .platformInit 0 fun _ => .error)
  rw [hzero, hone] at hsame
  have hsent := congrArg (·[15]?) (Option.some.inj hsame)
  rw [getElem?_sentBytes_stale hversion hdata hlength,
    getElem?_sentBytes_stale hversion hdata' hlength] at hsent
  exact absurd (Option.some.inj hsent) (by decide)

theorem driverControl_ignoresStale_iff (version : Version) (p : SessionPayload) :
    DriverControlIgnoresStale version p ↔ CoversDriverControl version p.1 := by
  refine ⟨fun h => ?_, driverControl_ignoresStale⟩
  cases hp : p.1 with
  | nil => exact absurd hp (one_le_of_ignoresStale h)
  | cons code rest =>
    refine ⟨code, rest, rfl, ?_, fun hversion hreply => ?_⟩
    · rw [← hp]
      exact readSize_le_of_ignoresStale h hp
    · rw [← hp]
      exact legacy_of_ignoresStale h hp hversion hreply

end DriverControl

/-! ## The event server -/

/-- What is left of a call of the event server, without the container of the session, and the
bytes that the session sends. -/
def eventOutcome (pSession : EventSessionRef) (c : EventCtx) : EventCtx × Option (List UInt8) :=
  match c.server.sessions pSession with
  | none => (c, none)
  | some session =>
    (c.setSession pSession { session with payloadContainer := .zero },
      if session.state = .sendPayload then
        some (readBytes session.payloadContainer.payloadSize session.payloadContainer.payload)
      else none)

def processEvent (pSession : EventSessionRef) (session : EventServerSession) (p : SessionPayload)
    (k : SizedPayloadContainer) (c : EventCtx) : EventCtx :=
  let received := { session with payloadContainer := k.fill p.1, state := .processPayload }
  (c.setSession pSession received).processPayload pSession received

/-- Whatever the server, the session and the bytes behind the payload are, they do not matter. -/
def EventIgnoresStale (p : SessionPayload) : Prop :=
  ∀ (c : EventCtx) (pSession : EventSessionRef) (session : EventServerSession)
    (k k' : SizedPayloadContainer),
    eventOutcome pSession (processEvent pSession session p k c) =
      eventOutcome pSession (processEvent pSession session p k' c)

def eventReadSize : EventMessage → ℕ
  | .subscribeToProviderRequest => 8
  | _ => 1

/-- The payload is long enough for what its handler reads. -/
def CoversEvent (p : List UInt8) : Prop :=
  ∃ code rest, p = code :: rest ∧ eventReadSize (.ofCode code) ≤ p.length

section Event

variable {p : SessionPayload} {code : UInt8} {rest data : List UInt8} {pSession : EventSessionRef}
  {session : EventServerSession}

def SameButContainer (x y : EventServerSession) : Prop :=
  ∃ k, y = { x with payloadContainer := k }

def SameElsewhere (pSession : EventSessionRef) (c c' : EventCtx) : Prop :=
  ∀ x, c.setSession pSession x = c'.setSession pSession x

variable (x : EventServerSession)

theorem sessions_setSession (s : EventServer) :
    (s.setSession pSession x).sessions pSession = some x := Function.update_self pSession _ _

theorem server_setSession (c : EventCtx) :
    (c.setSession pSession x).server = c.server.setSession pSession x := rfl

theorem blocks_setSession (c : EventCtx) : (c.setSession pSession x).blocks = c.blocks := rfl

theorem eventProviders_setSession (s : EventServer) :
    (s.setSession pSession x).eventProviders = s.eventProviders := rfl

theorem setSession_setSession (y : EventServerSession) (c : EventCtx) :
    (c.setSession pSession x).setSession pSession y = c.setSession pSession y := by
  simp only [EventCtx.setSession, EventServer.setSession, Function.update_idem]

theorem sameElsewhere_setSession (pSession : EventSessionRef) (x y : EventServerSession)
    (c : EventCtx) :
    SameElsewhere pSession (c.setSession pSession x) (c.setSession pSession y) := by
  intro z
  rw [setSession_setSession, setSession_setSession]

theorem eventOutcome_setSession (c : EventCtx) :
    eventOutcome pSession (c.setSession pSession x) =
      (c.setSession pSession { x with payloadContainer := .zero },
        if x.state = .sendPayload then
          some (readBytes x.payloadContainer.payloadSize x.payloadContainer.payload)
        else none) := by
  simp only [eventOutcome, server_setSession, sessions_setSession, setSession_setSession]

theorem eventOutcome_respond {c c' : EventCtx} {x y : EventServerSession}
    (h : SameElsewhere pSession c c') (hxy : SameButContainer x y)
    (hdata : data.length ≤ kMaxPayloadSizeInBytes) :
    eventOutcome pSession (c.respond pSession x data) =
      eventOutcome pSession (c'.respond pSession y data) := by
  have hread : ∀ k : SizedPayloadContainer,
      readBytes (k.fill data).payloadSize (k.fill data).payload = data :=
    fun k => readBytes_writeBytes hdata k.payload
  obtain ⟨k, rfl⟩ := hxy
  rw [EventCtx.respond, EventCtx.respond, eventOutcome_setSession, eventOutcome_setSession]
  simp only [hread]
  rw [h]

theorem eventCommand_received (hp : p.1 = code :: rest) (k : SizedPayloadContainer) :
    (k.fill p.1).eventCommand = .ofCode code := by
  rw [eventCommand]
  change EventMessage.ofCode (UInt8.ofNat (payloadField (writeBytes p.1 k.payload) 0 1)) = _
  rw [payloadField_first hp, UInt8.ofNat_toNat]

theorem applyProviderUpdate_setSession (update : ProviderUpdateHeader) (s : EventServer) :
    (s.setSession pSession x).applyProviderUpdate update =
      ((s.applyProviderUpdate update).1,
        (s.applyProviderUpdate update).2.setSession pSession x) := by
  simp only [applyProviderUpdate, setSession]
  cases s.eventProviders.lookup update.providerId <;> rfl

theorem applyProviderUpdates_setSession (data : List UInt8) (s : EventServer) :
    (s.setSession pSession x).applyProviderUpdates data =
      ((s.applyProviderUpdates data).1,
        (s.applyProviderUpdates data).2.setSession pSession x) := by
  fun_induction applyProviderUpdates data s with
  | case1 s => rw [applyProviderUpdates, if_pos rfl]
  | case2 data s hdata hget =>
    rw [applyProviderUpdates, if_neg hdata, hget]
  | case3 data s hdata update hget hsize applied hresult ih =>
    rw [applyProviderUpdates, if_neg hdata, hget]
    simp only [dif_pos hsize, applyProviderUpdate_setSession]
    rw [if_pos hresult, ih]
  | case4 data s hdata update hget hsize applied hresult =>
    rw [applyProviderUpdates, if_neg hdata, hget]
    simp only [dif_pos hsize, applyProviderUpdate_setSession]
    rw [if_neg hresult]
  | case5 data s hdata update hget hsize =>
    rw [applyProviderUpdates, if_neg hdata, hget]
    simp only [dif_neg hsize]

theorem unassignSessionFromProvider_setSession (providerId : EventProviderId) (s : EventServer) :
    (s.setSession pSession x).unassignSessionFromProvider providerId =
      (s.unassignSessionFromProvider providerId).setSession pSession x := by
  simp only [unassignSessionFromProvider, setSession]
  cases s.eventProviders.lookup providerId <;> rfl

theorem findPendingSessionById_setSession {x y : EventServerSession}
    (hid : x.sessionId = y.sessionId) (id : SessionId) (s : EventServer) :
    (s.setSession pSession x).findPendingSessionById id =
      (s.setSession pSession y).findPendingSessionById id := by
  have hids : ∀ q, (s.setSession pSession x).sessionId q =
      (s.setSession pSession y).sessionId q := by
    intro q
    simp only [sessionId, setSession]
    by_cases hq : q = pSession
    · rw [hq, Function.update_self, Function.update_self, Option.map_some, Option.map_some, hid]
    · rw [Function.update_of_ne hq, Function.update_of_ne hq]
  simp only [findPendingSessionById, hids]
  rfl

def acquiredProvider (pSession : EventSessionRef) (providerId : EventProviderId)
    (provider : EventProvider) (s : EventServer) : EventServer :=
  s.setProvider providerId { provider with pSession := some pSession, isEnabled := true }

def pendingAfter (pSession : EventSessionRef) (x : EventServerSession) (s : EventServer) :
    List EventSessionRef :=
  vectorRemove (((s.setSession pSession x).findPendingSessionById x.sessionId).getD 0)
    s.pendingSessions

theorem assignSessionToProvider_acquired {x : EventServerSession} {providerId : EventProviderId}
    {provider : EventProvider} {s : EventServer}
    (hlookup : s.eventProviders.lookup providerId = some provider)
    (hfree : provider.pSession = none) :
    (s.setSession pSession x).assignSessionToProvider pSession providerId =
      (.success, { acquiredProvider pSession providerId provider s with
        pendingSessions := pendingAfter pSession { x with assignedProviderId := providerId }
          (acquiredProvider pSession providerId provider s) }.setSession pSession
            { x with assignedProviderId := providerId }) := by
  have hset : ((s.setSession pSession x).setProvider providerId
      { provider with pSession := some pSession, isEnabled := true }).setSession pSession
        { x with assignedProviderId := providerId } =
      (acquiredProvider pSession providerId provider s).setSession pSession
        { x with assignedProviderId := providerId } := by
    simp only [acquiredProvider, setProvider, setSession,
      Function.update_idem]
  simp only [assignSessionToProvider, sessions_setSession, eventProviders_setSession, hlookup,
    hfree, if_true,
    hset]
  rfl

theorem assignSessionToProvider_setSession (pSession : EventSessionRef) (x : EventServerSession)
    (k : SizedPayloadContainer) (providerId : EventProviderId) (s : EventServer) :
    ∃ (r : Result) (s' : EventServer) (x' : EventServerSession),
      (s.setSession pSession x).assignSessionToProvider pSession providerId =
        (r, s'.setSession pSession x') ∧
      (s.setSession pSession { x with payloadContainer := k }).assignSessionToProvider pSession
        providerId = (r, s'.setSession pSession { x' with payloadContainer := k }) := by
  cases hlookup : s.eventProviders.lookup providerId with
  | none =>
    refine ⟨.unavailable, s, x, ?_, ?_⟩ <;>
      simp only [assignSessionToProvider, eventProviders_setSession, hlookup]
  | some provider =>
    by_cases hfree : provider.pSession = none
    · rw [assignSessionToProvider_acquired hlookup hfree,
        assignSessionToProvider_acquired hlookup hfree]
      have hpending : ∀ s' : EventServer,
          pendingAfter pSession { x with payloadContainer := k, assignedProviderId := providerId }
              s' = pendingAfter pSession { x with assignedProviderId := providerId } s' := by
        intro s'
        rw [pendingAfter, pendingAfter]
        congr 2
        apply findPendingSessionById_setSession
        rfl
      rw [hpending]
      exact ⟨_, _, _, rfl, rfl⟩
    · refine ⟨.unavailable, s, x, ?_, ?_⟩ <;>
        simp only [assignSessionToProvider, eventProviders_setSession, sessions_setSession,
          hlookup, if_neg hfree]

theorem subscribeProviderId_received (k k' : SizedPayloadContainer) (h : 8 ≤ p.1.length) :
    (k.fill p.1).subscribeProviderId = (k'.fill p.1).subscribeProviderId :=
  congrArg UInt32.ofNat (payloadField_received 4 4 h p.2 _ _)

theorem SameElsewhere.blocks {c c' : EventCtx} (h : SameElsewhere pSession c c')
    (blocks : BlockCtx) :
    SameElsewhere pSession { c with blocks := blocks } { c' with blocks := blocks } :=
  fun z => congrArg (fun c => { c with blocks := blocks }) (h z)

theorem sameElsewhere_server (x y : EventServerSession) (s : EventServer) (c : EventCtx) :
    SameElsewhere pSession { c with server := s.setSession pSession x }
      { c with server := s.setSession pSession y } := by
  intro z
  simp only [EventCtx.setSession, setSession, Function.update_idem]

variable (result : Result)

theorem length_queryProvidersResponse_le (block : BlockId) :
    (queryProvidersResponsePayload result block).length ≤ kMaxPayloadSizeInBytes := by
  simp [queryProvidersResponsePayload, eventHeader, kMaxPayloadSizeInBytes, kMaxMessageSizeInBytes,
    kMessageHeaderSize]

theorem length_allocateProviderUpdatesResponse_le (block : BlockId) :
    (allocateProviderUpdatesResponse result block).length ≤ kMaxPayloadSizeInBytes := by
  simp [allocateProviderUpdatesResponse, eventHeader, kMaxPayloadSizeInBytes,
    kMaxMessageSizeInBytes, kMessageHeaderSize]

theorem length_applyProviderUpdatesResponse_le :
    (applyProviderUpdatesResponse result).length ≤ kMaxPayloadSizeInBytes := by
  simp [applyProviderUpdatesResponse, eventHeader, kMaxPayloadSizeInBytes, kMaxMessageSizeInBytes,
    kMessageHeaderSize]

theorem length_subscribeToProviderResponse_le :
    (subscribeToProviderResponse result).length ≤ kMaxPayloadSizeInBytes := by
  simp [subscribeToProviderResponse, eventHeader, kMaxPayloadSizeInBytes, kMaxMessageSizeInBytes,
    kMessageHeaderSize]

section Handlers

/-- A handler acts alike, whatever the container of the session holds. -/
def ActsAlike (pSession : EventSessionRef) (x : EventServerSession) (k : SizedPayloadContainer)
    (c : EventCtx) (handle : EventSessionRef → EventServerSession → EventCtx → EventCtx) : Prop :=
  let y := { x with payloadContainer := k }
  eventOutcome pSession (handle pSession x (c.setSession pSession x)) =
    eventOutcome pSession (handle pSession y (c.setSession pSession y))

variable (x : EventServerSession) (k : SizedPayloadContainer) (c : EventCtx)

theorem queryProviders_alike :
    ActsAlike pSession x k c EventCtx.handleQueryProvidersRequest := by
  have hsame := sameElsewhere_setSession pSession x { x with payloadContainer := k } c
  simp only [ActsAlike, EventCtx.handleQueryProvidersRequest, EventCtx.buildQueryProvidersResponse,
    blocks_setSession]
  split
  · exact eventOutcome_respond (hsame.blocks _) ⟨k, rfl⟩ (length_queryProvidersResponse_le _ _)
  · exact eventOutcome_respond (hsame.blocks _) ⟨k, rfl⟩ (length_queryProvidersResponse_le _ _)

theorem allocateProviderUpdates_alike :
    ActsAlike pSession x k c EventCtx.handleAllocateProviderUpdatesRequest := by
  have hsame := sameElsewhere_setSession pSession x { x with payloadContainer := k } c
  have hlength := fun result => length_allocateProviderUpdatesResponse_le result
  simp only [ActsAlike, EventCtx.handleAllocateProviderUpdatesRequest, blocks_setSession]
  split
  · exact eventOutcome_respond hsame ⟨k, rfl⟩ (hlength _ _)
  · split
    · exact eventOutcome_respond (hsame.blocks _) ⟨k, rfl⟩ (hlength _ _)
    · exact eventOutcome_respond (hsame.blocks _) ⟨k, rfl⟩ (hlength _ _)

theorem applyProviderUpdates_alike :
    ActsAlike pSession x k c EventCtx.handleApplyProviderUpdatesRequest := by
  have hsame := sameElsewhere_setSession pSession x { x with payloadContainer := k } c
  simp only [ActsAlike, EventCtx.handleApplyProviderUpdatesRequest, blocks_setSession,
    server_setSession, applyProviderUpdates_setSession]
  split
  · exact eventOutcome_respond hsame ⟨k, rfl⟩ (length_applyProviderUpdatesResponse_le _)
  · exact eventOutcome_respond
      ((sameElsewhere_server x { x with payloadContainer := k } _ c).blocks _) ⟨k, rfl⟩
      (length_applyProviderUpdatesResponse_le _)

theorem subscribeToProvider_alike
    (hprovider : k.subscribeProviderId = x.payloadContainer.subscribeProviderId) :
    ActsAlike pSession x k c EventCtx.handleSubscribeToProviderRequest := by
  obtain ⟨r, s', x', hx, hk⟩ := assignSessionToProvider_setSession pSession x k
    x.payloadContainer.subscribeProviderId c.server
  simp only [ActsAlike, EventCtx.handleSubscribeToProviderRequest, server_setSession, hprovider, hx,
    hk, sessions_setSession]
  exact eventOutcome_respond (sameElsewhere_server x' { x' with payloadContainer := k } s' c)
    ⟨k, rfl⟩ (length_subscribeToProviderResponse_le _)

theorem unsubscribeFromProvider_alike :
    ActsAlike pSession x k c EventCtx.handleUnsubscribeFromProviderRequest := by
  simp only [ActsAlike, EventCtx.handleUnsubscribeFromProviderRequest, server_setSession,
    unassignSessionFromProvider_setSession]
  rw [eventOutcome_setSession, eventOutcome_setSession]
  split
  · exact congrArg (·, none) (sameElsewhere_server x { x with payloadContainer := k } _ c _)
  · exact congrArg (·, none) (sameElsewhere_server x { x with payloadContainer := k } _ c _)

end Handlers

theorem event_ignoresStale (h : CoversEvent p.1) : EventIgnoresStale p := by
  obtain ⟨code, rest, hp, hsize⟩ := h
  intro c pSession session k k'
  rw [processEvent, processEvent]
  rw [EventCtx.processPayload, EventCtx.processPayload, eventCommand_received hp k,
    eventCommand_received hp k']
  generalize EventMessage.ofCode code = command at hsize
  cases command with
  | queryProvidersRequest => exact queryProviders_alike _ (k'.fill p.1) c
  | allocateProviderUpdatesRequest => exact allocateProviderUpdates_alike _ (k'.fill p.1) c
  | applyProviderUpdatesRequest => exact applyProviderUpdates_alike _ (k'.fill p.1) c
  | subscribeToProviderRequest =>
    exact subscribeToProvider_alike _ (k'.fill p.1) c (subscribeProviderId_received k' k hsize)
  | unsubscribeFromProviderRequest => exact unsubscribeFromProvider_alike _ (k'.fill p.1) c
  | _ =>
    rw [eventOutcome_setSession, eventOutcome_setSession]
    rfl

theorem eventOutcome_respond_snd (c : EventCtx) (x : EventServerSession)
    (hdata : data.length ≤ kMaxPayloadSizeInBytes) :
    (eventOutcome pSession (c.respond pSession x data)).2 = some data := by
  rw [EventCtx.respond, eventOutcome_setSession]
  exact congrArg some (readBytes_writeBytes hdata x.payloadContainer.payload)

def probeEvents (s : EventServer) : EventCtx := ⟨s, ⟨.new, [], []⟩, [], [], []⟩

def probeProvider (providerId : EventProviderId) : EventServer :=
  (EventServer.new.registerProvider providerId ⟨0, [], [], false, none⟩).2

theorem probeProvider_providers (providerId : EventProviderId) :
    (probeProvider providerId).eventProviders =
      EventServer.new.eventProviders.insert providerId ⟨0, [], [], false, none⟩ := by
  have hnone : providerId ∉ EventServer.new.eventProviders := AList.notMem_empty _
  rw [probeProvider, registerProvider, if_neg hnone]

theorem probeProvider_success {providerId : EventProviderId} {x : EventServerSession}
    (hid : x.payloadContainer.subscribeProviderId = providerId) :
    (eventOutcome pSession (((probeEvents (probeProvider providerId)).setSession pSession
      x).handleSubscribeToProviderRequest pSession x)).2 =
        some (subscribeToProviderResponse .success) := by
  have hlookup : (probeProvider providerId).eventProviders.lookup providerId =
      some ⟨0, [], [], false, none⟩ := by
    rw [probeProvider_providers]
    exact AList.lookup_insert _
  simp only [EventCtx.handleSubscribeToProviderRequest, server_setSession, probeEvents, hid,
    assignSessionToProvider_acquired hlookup rfl, sessions_setSession]
  exact eventOutcome_respond_snd _ _ (length_subscribeToProviderResponse_le _)

theorem probeProvider_unavailable {providerId : EventProviderId} {x : EventServerSession}
    (hid : x.payloadContainer.subscribeProviderId ≠ providerId) :
    (eventOutcome pSession (((probeEvents (probeProvider providerId)).setSession pSession
      x).handleSubscribeToProviderRequest pSession x)).2 =
        some (subscribeToProviderResponse .unavailable) := by
  have hlookup : ((probeProvider providerId).setSession pSession x).eventProviders.lookup
      x.payloadContainer.subscribeProviderId = none := by
    change (probeProvider providerId).eventProviders.lookup _ = none
    rw [probeProvider_providers, AList.lookup_insert_ne hid]
    rfl
  simp only [EventCtx.handleSubscribeToProviderRequest, server_setSession, probeEvents,
    assignSessionToProvider, hlookup, sessions_setSession]
  exact eventOutcome_respond_snd _ _ (length_subscribeToProviderResponse_le _)

theorem eventCommand_empty (hp : p.1 = []) (b : UInt8) :
    ((staleByte 0 b).fill p.1).eventCommand = .ofCode b := by
  rw [eventCommand]
  change EventMessage.ofCode
    (UInt8.ofNat (payloadField (writeBytes p.1 (staleByte 0 b).payload) 0 1)) = _
  rw [hp, payloadField_empty, UInt8.ofNat_toNat]

theorem subscribeProviderId_stale (hp : p.1.length ≤ 7) :
    ((staleByte 7 0).fill p.1).subscribeProviderId ≠
      ((staleByte 7 1).fill p.1).subscribeProviderId := by
  obtain ⟨x, hx, h0, h1⟩ := payloadField_stale_ne 4 hp (by decide)
  intro heq
  change UInt32.ofNat (payloadField (writeBytes p.1 (staleByte 7 0).payload) 4 4) =
    UInt32.ofNat (payloadField (writeBytes p.1 (staleByte 7 1).payload) 4 4) at heq
  rw [h0, h1] at heq
  have hnat := congrArg UInt32.toNat heq
  rw [UInt32.toNat_ofNat', UInt32.toNat_ofNat'] at hnat
  omega

theorem ne_nil_of_eventIgnoresStale (h : EventIgnoresStale p) : p.1 ≠ [] := by
  intro hp
  have hsame := congrArg Prod.snd (h (probeEvents .new) 0 (.new 0)
    (staleByte 0 (EventMessage.toCode .unsubscribeFromProviderRequest))
    (staleByte 0 (EventMessage.toCode .applyProviderUpdatesRequest)))
  rw [processEvent, processEvent, EventCtx.processPayload, EventCtx.processPayload,
    eventCommand_empty hp, eventCommand_empty hp, EventMessage.ofCode_toCode,
    EventMessage.ofCode_toCode] at hsame
  rw [EventCtx.handleUnsubscribeFromProviderRequest, eventOutcome_setSession,
    EventCtx.handleApplyProviderUpdatesRequest] at hsame
  dsimp only [EventServerSession.new] at hsame
  rw [eventOutcome_respond_snd _ _ (length_applyProviderUpdatesResponse_le _)] at hsame
  cases hsame

theorem coversEvent_of_ignoresStale (h : EventIgnoresStale p) : CoversEvent p.1 := by
  cases hp : p.1 with
  | nil => exact absurd hp (ne_nil_of_eventIgnoresStale h)
  | cons code rest =>
    refine ⟨code, rest, rfl, ?_⟩
    rw [← hp]
    by_contra hshort
    have hpos : 1 ≤ p.1.length := by simp [hp]
    have hcommand := eventCommand_received hp
    have hsame := fun providerId => congrArg Prod.snd
      (h (probeEvents (probeProvider providerId)) 0 (.new 0) (staleByte 7 0) (staleByte 7 1))
    simp only [processEvent, EventCtx.processPayload, hcommand] at hsame
    have hne := fun hp => subscribeProviderId_stale (p := p) hp
    generalize EventMessage.ofCode code = command at hshort hsame
    cases command with
    | subscribeToProviderRequest =>
      have hreply := hsame ((staleByte 7 0).fill p.1).subscribeProviderId
      rw [probeProvider_success rfl, probeProvider_unavailable
        (hne (Nat.le_of_lt_succ (Nat.lt_of_not_le hshort))).symm] at hreply
      exact absurd (Option.some.inj hreply) (by decide)
    | _ => exact hshort hpos

end Event

/-- Sessions of the driver control server and of the event server act on the bytes of a payload
alone exactly when there are as many as the command reads, and as an old version is answered
with. -/
theorem servers_ignore_stale_bytes (version : Version) (p : SessionPayload) :
    (DriverControlIgnoresStale version p ↔ CoversDriverControl version p.1) ∧
      (EventIgnoresStale p ↔ CoversEvent p.1) :=
  ⟨driverControl_ignoresStale_iff version p, coversEvent_of_ignoresStale, event_ignoresStale⟩

/-- A step request without its count is a step of whatever number was there before. -/
theorem stale_step_count :
    ¬ ∀ version p, DriverControlIgnoresStale version p ∧ EventIgnoresStale p := by
  intro hall
  have hcovers := (driverControl_ignoresStale_iff driverControlStepReturnStatusVersion
    ⟨driverControlHeader .stepDriverRequest, (by decide : 4 ≤ kMaxPayloadSizeInBytes)⟩).mp
      (hall _ _).1
  obtain ⟨code, rest, hp, hsize, -⟩ := hcovers
  obtain ⟨rfl, -⟩ := List.cons.inj hp
  exact absurd hsize (by decide)

end DevDriver.Analysis
