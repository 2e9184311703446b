import DevDriver.Analysis.DeviceClocks
import DevDriver.Analysis.TransferMessages

/-!
# Queries of device clocks

What each request of a query does to the server, and what the client is told about it.
-/

namespace DevDriver.Analysis

open Library Model DriverControlServer SizedPayloadContainer

/-! ## Payloads -/

section Payloads

theorem readBytes_writeBytes_append {data : List UInt8} {count : ℕ} (hcount : data.length ≤ count)
    (hmax : data.length ≤ kMaxPayloadSizeInBytes) (d : Payload) :
    ∃ rest, readBytes count (writeBytes data d) = data ++ rest := by
  refine ⟨(readBytes count (writeBytes data d)).drop data.length, ?_⟩
  have htake : (readBytes count (writeBytes data d)).take data.length = data := by
    apply List.ext_getElem
    · rw [List.length_take, length_readBytes]
      omega
    · intro i h₁ h₂
      rw [List.getElem_take, getElem_readBytes _ (by omega)]
      exact writeBytes_of_lt h₂ d
  exact (List.take_append_drop data.length _).symm.trans
    (congrArg (· ++ (readBytes count (writeBytes data d)).drop data.length) htake)

theorem length_header (command : DriverControlMessage) :
    (driverControlHeader command).length = 4 := rfl

theorem payloadField_fill {offset width : ℕ} (pre field post : List UInt8)
    (c : SizedPayloadContainer) (hoffset : pre.length = offset) (hwidth : field.length = width)
    (hmax : offset + width ≤ kMaxPayloadSizeInBytes) :
    payloadField (c.fill (pre ++ (field ++ post))).payload offset width = leNat field := by
  subst hoffset hwidth
  exact payloadField_writeBytes pre field post c.payload rfl hmax

theorem coded_error : Result.Coded .error := ⟨rfl, by decide⟩

theorem coded_ofCode (n : UInt32) : Result.Coded (Result.ofCode n.toNat) := by
  rw [Result.Coded]
  cases hr : Result.ofCode n.toNat with
  | code value =>
    have hlt : n.toNat < 2 ^ 32 := n.toNat_lt
    have hvalue : value = n.toNat := by
      rw [Result.ofCode] at hr
      split at hr
      case h_10 =>
        cases hr
        exact Nat.mod_eq_of_lt hlt
      all_goals cases hr
    subst hvalue
    exact ⟨hr, hlt⟩
  | _ => exact ⟨rfl, by decide⟩

theorem sentBytes_respond_append (session : DriverControlSession) {data : List UInt8}
    (h : data.length ≤ kLegacyDriverControlPayloadSize) :
    ∃ rest, (session.respond data).sentBytes = data ++ rest := by
  have hmax : data.length ≤ kMaxPayloadSizeInBytes := h.trans (by decide)
  rw [DriverControlSession.sentBytes]
  apply readBytes_writeBytes_append _ hmax
  split
  · exact le_refl _
  · exact h

theorem length_words (m n : ℕ) : (leBytes 4 m ++ leBytes 4 n).length ≤ 8 := by
  have happend : (leBytes 4 m ++ leBytes 4 n).length = (leBytes 4 m).length +
      (leBytes 4 n).length :=
    List.length_append
  have hfirst := length_leBytes 4 m
  have hsecond := length_leBytes 4 n
  omega

theorem length_requestFields (call : DriverControlCall) : call.requestFields.length ≤ 8 := by
  cases call with
  | stepDriver numSteps => exact (length_leBytes 4 numSteps.toNat).trans_le (by decide)
  | advanceDriverState => exact (length_leBytes 4 1).trans_le (by decide)
  | queryDeviceClockMode gpuIndex => exact (length_leBytes 4 gpuIndex.toNat).trans_le (by decide)
  | queryDeviceClock gpuIndex => exact (length_leBytes 4 gpuIndex.toNat).trans_le (by decide)
  | setDeviceClockMode gpuIndex clockMode => exact length_words gpuIndex.toNat clockMode.toNat
  | queryDeviceClockByMode gpuIndex clockMode => exact length_words gpuIndex.toNat clockMode.toNat
  | _ => exact Nat.zero_le 8

theorem sentBytes_call (version : Version) (call : DriverControlCall) :
    ∃ rest, call.sentBytes version =
      driverControlHeader call.requestCommand ++ (call.requestFields ++ rest) := by
  have hdata : (driverControlHeader call.requestCommand ++ call.requestFields).length ≤ 12 := by
    rw [List.length_append]
    exact Nat.add_le_add_left (length_requestFields call) 4
  rw [DriverControlCall.sentBytes]
  have hcount : (driverControlHeader call.requestCommand ++ call.requestFields).length ≤
      if driverControlQueryClientInfoVersion ≤ version then call.container.payloadSize
      else kLegacyDriverControlPayloadSize := by
    split
    · exact le_refl _
    · exact hdata.trans (by decide)
  obtain ⟨rest, hrest⟩ := readBytes_writeBytes_append hcount (hdata.trans (by decide))
    SizedPayloadContainer.zero.payload
  exact ⟨rest, hrest.trans (List.append_assoc _ _ _)⟩

end Payloads

section Client

variable {version : Version} {call : DriverControlCall}

theorem result_of_other (hcommand : call.requestCommand ≠ call.responseCommand version)
    {bytes : List UInt8}
    (h : bytes.head?.map DriverControlMessage.ofCode ≠ some (call.responseCommand version)) :
    call.result version bytes = .error := by
  rw [DriverControlCall.result]
  apply if_neg
  cases bytes with
  | nil =>
    have hrequest : (call.container.fill []).driverControlCommand = call.requestCommand := by
      rw [← driverControlCommand_fill (rfl : (driverControlHeader call.requestCommand ++
        call.requestFields).head? = some call.requestCommand.toCode) .zero]
      rfl
    rw [hrequest]
    exact hcommand
  | cons code rest =>
    rw [driverControlCommand]
    change DriverControlMessage.ofCode
      (UInt8.ofNat (payloadField (writeBytes (code :: rest) call.container.payload) 0 1)) ≠ _
    rw [payloadField_first rfl, UInt8.ofNat_toNat]
    exact fun hsame => h (congrArg some hsame)

theorem result_of_response (hhas : call.hasResult = true) {r : Result} (hr : Result.Coded r)
    (rest : List UInt8) :
    call.result version (driverControlResponse (call.responseCommand version) r ++ rest) = r := by
  rw [DriverControlCall.result, driverControlCommand_fill rfl, if_pos rfl, if_pos hhas,
    result, driverControlResponse, List.append_assoc,
    payloadField_fill _ _ _ _ (length_header _) (length_leBytes 4 _) (by decide)]
  exact leNat_result hr

end Client

/-! ## The requests -/

section Requests

variable {link : ClockLink} {gpuIndex clockMode : UInt32} {answers : DriverAnswers}

def withRequest (call : DriverControlCall) (link : ClockLink) : DriverControlSession :=
  { link.session with
    payloadContainer :=
      link.session.payloadContainer.fill (call.sentBytes link.session.version) }

theorem command_withRequest (call : DriverControlCall) (link : ClockLink) :
    (withRequest call link).payloadContainer.driverControlCommand = call.requestCommand :=
  driverControlCommand_fill (head_sentBytes link.session.version call) _

variable {call : DriverControlCall}

theorem gpuIndex_withRequest (rest : List UInt8)
    (h : call.requestFields = leBytes 4 gpuIndex.toNat ++ rest) :
    (withRequest call link).payloadContainer.gpuIndex = gpuIndex.toNat := by
  obtain ⟨behind, hsent⟩ := sentBytes_call link.session.version call
  rw [withRequest, SizedPayloadContainer.gpuIndex]
  rw [hsent, h, List.append_assoc, payloadField_fill _ _ _ _ (length_header _)
    (length_leBytes 4 _) (by decide), leNat_leBytes_uint32]

theorem deviceClockMode_withRequest
    (h : call.requestFields = leBytes 4 gpuIndex.toNat ++ leBytes 4 clockMode.toNat) :
    (withRequest call link).payloadContainer.deviceClockMode = clockMode := by
  obtain ⟨behind, hsent⟩ := sentBytes_call link.session.version call
  rw [withRequest, deviceClockMode]
  rw [hsent, h, List.append_assoc, ← List.append_assoc (driverControlHeader _),
    payloadField_fill _ _ _ _ (by rw [List.length_append, length_leBytes]; rfl)
      (length_leBytes 4 _) (by decide), leNat_leBytes_uint32]
  exact UInt32.ofNat_toNat

/-- What handling a request comes to: the server, the result in the response and what stands behind
it. -/
structure ServedRequest where
  server : DriverControlServer
  result : Result
  rest : List UInt8
  coded : Result.Coded result
  short : rest.length ≤ 8

def ServedRequest.data (served : ServedRequest) (response : DriverControlMessage) : List UInt8 :=
  driverControlResponse response served.result ++ served.rest

/-- What a request has come to for the server and for the client, by how the server handles it. -/
structure RequestSpec {response : DriverControlMessage} (link : ClockLink)
    (call : DriverControlCall) (fate : RequestFate response)
    (handle : DriverAnswers → ServedRequest) (reply : ClockReply) :
    Prop where
  version : reply.link.session.version = link.session.version
  server : reply.link.server =
    (fate.answered.map fun answers => (handle answers).server).getD link.server
  result : reply.result = .success ↔
    fate.Arrives ∧ ∃ answers ∈ fate.answered, (handle answers).result = .success
  container : ∀ answers, fate = .served answers .arrives → ∃ behind,
    reply.container = call.container.fill ((handle answers).data response ++ behind)

/-- What a request does, by what becomes of it on its way. -/
theorem request_spec (call : DriverControlCall) {handle : DriverAnswers → ServedRequest}
    (hcommand : call.requestCommand ≠ call.responseCommand link.session.version)
    (hhas : call.hasResult = true)
    (hserve : ∀ answers, link.serve (call.sentBytes link.session.version) answers =
      ⟨(handle answers).server, (withRequest call link).respond
        ((handle answers).data (call.responseCommand link.session.version))⟩)
    (fate : RequestFate (call.responseCommand link.session.version)) :
    RequestSpec link call fate handle (link.request call fate) := by
  have hversion : ∀ answers,
      (link.serve (call.sentBytes link.session.version) answers).session.version =
        link.session.version := by
    intro answers
    rw [hserve]
    rfl
  have hnot : ∀ {answers reply}, reply ≠ .arrives →
      ¬ (RequestFate.served answers reply :
        RequestFate (call.responseCommand link.session.version)).Arrives := by
    rintro answers reply hreply ⟨other, hsame⟩
    cases hsame
    exact hreply rfl
  cases fate with
  | lost result h =>
    refine ⟨rfl, rfl, ⟨fun hsuccess => absurd hsuccess h, ?_⟩, nofun⟩
    rintro ⟨⟨other, hsame⟩, -⟩
    cases hsame
  | served answers reply =>
    cases reply with
    | lost result h =>
      refine ⟨hversion answers, congrArg ClockLink.server (hserve answers),
        ⟨fun hsuccess => absurd hsuccess h, ?_⟩, nofun⟩
      rintro ⟨harrives, -⟩
      exact absurd harrives (hnot (by nofun))
    | other bytes h =>
      refine ⟨hversion answers, congrArg ClockLink.server (hserve answers), ⟨?_, ?_⟩, nofun⟩
      · intro hsuccess
        exact absurd (hsuccess.symm.trans (result_of_other hcommand h)) (by nofun)
      · rintro ⟨harrives, -⟩
        exact absurd harrives (hnot (by nofun))
    | arrives =>
      have hshort : ((handle answers).data
          (call.responseCommand link.session.version)).length ≤
            kLegacyDriverControlPayloadSize := by
        have hrest := (handle answers).short
        rw [ServedRequest.data, List.length_append, length_driverControlResponse]
        exact Nat.add_le_add_left hrest 8
      obtain ⟨behind, hsent⟩ := sentBytes_respond_append (withRequest call link) hshort
      have hresult : (link.request call (.served answers .arrives)).result =
          (handle answers).result := by
        change call.result link.session.version
          (link.serve (call.sentBytes link.session.version) answers).session.sentBytes = _
        rw [hserve, hsent, ServedRequest.data, List.append_assoc]
        exact result_of_response hhas (handle answers).coded _
      refine ⟨hversion answers, congrArg ClockLink.server (hserve answers), ?_, ?_⟩
      · rw [hresult]
        constructor
        · intro hsuccess
          exact ⟨⟨answers, rfl⟩, answers, rfl, hsuccess⟩
        · rintro ⟨-, other, hother, hsuccess⟩
          cases hother
          exact hsuccess
      · rintro other hsame
        cases hsame
        refine ⟨behind, ?_⟩
        change call.container.fill
          (link.serve (call.sentBytes link.session.version) answers).session.sentBytes = _
        rw [hserve, hsent]

def answeringServer (link : ClockLink) (answers : DriverAnswers) : DriverControlServer :=
  { link.server with deviceClockCallbackInfo := answers.callbacks }

theorem serve_eq
    (h : ¬ (link.session.version <
      driverControlQueryByModeBackCompatVersion ∧ call.requestCommand = .queryDeviceClockRequest))
    (answers : DriverAnswers) :
    link.serve (call.sentBytes link.session.version) answers =
      ⟨((answeringServer link answers).processPayload (withRequest call link)).1,
        ((answeringServer link answers).processPayload (withRequest call link)).2⟩ := by
  have hsame : (answeringServer link answers).processClockPayload (withRequest call link) =
      (answeringServer link answers).processPayload (withRequest call link) := by
    apply if_neg
    rw [command_withRequest]
    exact h
  change (⟨((answeringServer link answers).processClockPayload (withRequest call link)).1,
    ((answeringServer link answers).processClockPayload (withRequest call link)).2⟩ : ClockLink) = _
  rw [hsame]

def tellsMode (link : ClockLink) (gpuIndex : UInt32) (answers : DriverAnswers) : ServedRequest where
  server := answeringServer link answers
  result := if gpuIndex.toNat < link.server.numGpus then .success else .error
  rest := leBytes 4 (if gpuIndex.toNat < link.server.numGpus then
    link.server.deviceClockModes gpuIndex.toNat else deviceClockModeUnknown).toNat
  coded := by
    split
    · exact ⟨rfl, by decide⟩
    · exact coded_error
  short := by
    rw [length_leBytes]
    decide

theorem getMode_spec (link : ClockLink) (gpuIndex : UInt32)
    (fate : RequestFate .queryDeviceClockModeResponse) :
    RequestSpec link (.queryDeviceClockMode gpuIndex) fate (tellsMode link gpuIndex)
      (link.request (.queryDeviceClockMode gpuIndex) fate) := by
  apply request_spec (.queryDeviceClockMode gpuIndex) (by nofun) rfl
  intro answers
  have hindex : (withRequest (.queryDeviceClockMode gpuIndex) link).payloadContainer.gpuIndex =
      gpuIndex.toNat := gpuIndex_withRequest [] (List.append_nil _).symm
  rw [serve_eq (by rintro ⟨-, ⟨⟩⟩), processPayload, command_withRequest]
  change (⟨answeringServer link answers, (answeringServer link answers
    ).handleQueryDeviceClockModeRequest (withRequest (.queryDeviceClockMode gpuIndex) link)⟩ :
      ClockLink) = _
  rw [handleQueryDeviceClockModeRequest, hindex]
  change (⟨_, if gpuIndex.toNat < link.server.numGpus then _ else _⟩ : ClockLink) = ⟨_, _⟩
  congr 1
  unfold tellsMode ServedRequest.data
  split <;> rfl

def setResult (s : DriverControlServer) (gpuIndex : ℕ) (mode : UInt32) : Result :=
  if gpuIndex < s.numGpus ∨ gpuIndex = 2 ^ 32 - 1 then
    s.deviceClockCallbackInfo.setCallback.elim .error fun setCallback => setCallback gpuIndex mode
  else .error

theorem coded_setResult (link : ClockLink) (gpuIndex : ℕ) (mode : UInt32)
    (answers : DriverAnswers) :
    Result.Coded (setResult (answeringServer link answers) gpuIndex mode) := by
  rw [setResult]
  split
  · rw [answeringServer, DriverAnswers.callbacks]
    cases answers.setMode with
    | none => exact coded_error
    | some set => exact coded_ofCode _
  · exact coded_error

def setsMode (link : ClockLink) (gpuIndex clockMode : UInt32) (answers : DriverAnswers) :
    ServedRequest where
  server :=
    if setResult (answeringServer link answers) gpuIndex.toNat clockMode = .success then
      (answeringServer link answers).setDeviceClockModes gpuIndex.toNat clockMode
    else answeringServer link answers
  result := setResult (answeringServer link answers) gpuIndex.toNat clockMode
  rest := []
  coded := coded_setResult link gpuIndex.toNat clockMode answers
  short := Nat.zero_le _

theorem setMode_spec (link : ClockLink) (gpuIndex clockMode : UInt32)
    (fate : RequestFate .setDeviceClockModeResponse) :
    RequestSpec link (.setDeviceClockMode gpuIndex clockMode) fate
      (setsMode link gpuIndex clockMode)
      (link.request (.setDeviceClockMode gpuIndex clockMode) fate) := by
  apply request_spec (.setDeviceClockMode gpuIndex clockMode) (by nofun) rfl
  intro answers
  have hindex : (withRequest (.setDeviceClockMode gpuIndex clockMode) link
      ).payloadContainer.gpuIndex = gpuIndex.toNat := gpuIndex_withRequest _ rfl
  have hmode : (withRequest (.setDeviceClockMode gpuIndex clockMode) link
      ).payloadContainer.deviceClockMode = clockMode := deviceClockMode_withRequest rfl
  rw [serve_eq (by rintro ⟨-, ⟨⟩⟩), processPayload, command_withRequest]
  dsimp only [DriverControlCall.requestCommand]
  rw [handleSetDeviceClockModeRequest, hindex, hmode]
  unfold setsMode ServedRequest.data setResult
  by_cases hvalid : gpuIndex.toNat < (answeringServer link answers).numGpus ∨
      gpuIndex.toNat = 2 ^ 32 - 1
  · simp only [if_pos hvalid, List.append_nil]
    cases (answeringServer link answers).deviceClockCallbackInfo.setCallback with
    | none => rfl
    | some setCallback => rfl
  · simp only [if_neg hvalid, List.append_nil]
    rfl

theorem coded_queryClocks (link : ClockLink) (gpuIndex : ℕ) (mode : UInt32)
    (answers : DriverAnswers) :
    Result.Coded ((answeringServer link answers).queryClocks gpuIndex mode).1 := by
  rw [queryClocks]
  split
  · rw [answeringServer, DriverAnswers.callbacks]
    cases answers.queryClock with
    | none => exact coded_error
    | some query => exact coded_ofCode _
  · exact coded_error

def tellsClocks (link : ClockLink) (gpuIndex clockMode : UInt32) (answers : DriverAnswers) :
    ServedRequest where
  server := answeringServer link answers
  result := ((answeringServer link answers).queryClocks gpuIndex.toNat clockMode).1
  rest :=
    leBytes 4 ((answeringServer link answers).queryClocks gpuIndex.toNat clockMode).2.1.toNat ++
      leBytes 4 ((answeringServer link answers).queryClocks gpuIndex.toNat clockMode).2.2.toNat
  coded := coded_queryClocks link gpuIndex.toNat clockMode answers
  short := by
    rw [List.length_append, length_leBytes, length_leBytes]

theorem byMode_spec (link : ClockLink) (gpuIndex clockMode : UInt32)
    (fate : RequestFate .queryDeviceClockByModeResponse) :
    RequestSpec link (.queryDeviceClockByMode gpuIndex clockMode) fate
      (tellsClocks link gpuIndex clockMode)
      (link.request (.queryDeviceClockByMode gpuIndex clockMode) fate) := by
  apply request_spec (.queryDeviceClockByMode gpuIndex clockMode) (by nofun) rfl
  intro answers
  have hindex : (withRequest (.queryDeviceClockByMode gpuIndex clockMode) link
      ).payloadContainer.gpuIndex = gpuIndex.toNat := gpuIndex_withRequest _ rfl
  have hmode : (withRequest (.queryDeviceClockByMode gpuIndex clockMode) link
      ).payloadContainer.deviceClockMode = clockMode := deviceClockMode_withRequest rfl
  rw [serve_eq (by rintro ⟨-, ⟨⟩⟩), processPayload, command_withRequest]
  dsimp only [DriverControlCall.requestCommand]
  rw [handleQueryDeviceClockByModeRequest, hindex, hmode]
  unfold tellsClocks ServedRequest.data
  rw [← List.append_assoc]
  rfl

theorem currentClock_spec (link : ClockLink) (gpuIndex : UInt32)
    (hold : link.session.version < driverControlQueryByModeBackCompatVersion)
    (fate : RequestFate .queryDeviceClockResponse) :
    RequestSpec link (.queryDeviceClock gpuIndex) fate
      (tellsClocks link gpuIndex (link.server.deviceClockModes gpuIndex.toNat))
      (link.request (.queryDeviceClock gpuIndex) fate) := by
  apply request_spec (.queryDeviceClock gpuIndex) (by nofun) rfl
  intro answers
  have hindex : (withRequest (.queryDeviceClock gpuIndex) link).payloadContainer.gpuIndex =
      gpuIndex.toNat := gpuIndex_withRequest [] (List.append_nil _).symm
  have hhandle : (answeringServer link answers).processClockPayload
      (withRequest (.queryDeviceClock gpuIndex) link) =
        (answeringServer link answers,
          (answeringServer link answers).handleQueryCurrentClockRequest
            (withRequest (.queryDeviceClock gpuIndex) link)) :=
    if_pos ⟨hold, command_withRequest _ link⟩
  change (⟨((answeringServer link answers).processClockPayload
      (withRequest (.queryDeviceClock gpuIndex) link)).1,
    ((answeringServer link answers).processClockPayload
      (withRequest (.queryDeviceClock gpuIndex) link)).2⟩ : ClockLink) = _
  rw [hhandle, handleQueryCurrentClockRequest, hindex]
  unfold tellsClocks ServedRequest.data
  rw [← List.append_assoc]
  rfl

/-! ### What the requests change -/

structure KeepsModes (link link' : ClockLink) : Prop where
  version : link'.session.version = link.session.version
  numGpus : link'.server.numGpus = link.server.numGpus
  modes : link'.server.deviceClockModes = link.server.deviceClockModes

theorem keepsModes_of_spec {response : DriverControlMessage} {fate : RequestFate response}
    {handle : DriverAnswers → ServedRequest} {reply : ClockReply}
    (h : RequestSpec link call fate handle reply)
    (hserver : ∀ answers, (handle answers).server = answeringServer link answers) :
    KeepsModes link reply.link := by
  refine ⟨h.version, ?_, ?_⟩
  all_goals
    rw [h.server]
    cases fate.answered with
    | none => rfl
    | some answers =>
      rw [Option.map_some, Option.getD_some, hserver]
      rfl

theorem getMode_effect (link : ClockLink) (gpuIndex : UInt32)
    (fate : RequestFate .queryDeviceClockModeResponse) :
    KeepsModes link (link.request (.queryDeviceClockMode gpuIndex) fate).link ∧
      ((link.request (.queryDeviceClockMode gpuIndex) fate).result = .success ↔
        fate.Arrives ∧ gpuIndex.toNat < link.server.numGpus) ∧
      ((link.request (.queryDeviceClockMode gpuIndex) fate).result = .success →
        (link.request (.queryDeviceClockMode gpuIndex) fate).container.deviceClockMode =
          link.server.deviceClockModes gpuIndex.toNat) := by
  have hspec := getMode_spec link gpuIndex fate
  have hresult : (link.request (.queryDeviceClockMode gpuIndex) fate).result = .success ↔
      fate.Arrives ∧ gpuIndex.toNat < link.server.numGpus := by
    rw [hspec.result]
    constructor
    · rintro ⟨harrives, answers, -, hsuccess⟩
      refine ⟨harrives, ?_⟩
      by_contra hindex
      change (if gpuIndex.toNat < link.server.numGpus then Result.success else .error) = _
        at hsuccess
      rw [if_neg hindex] at hsuccess
      cases hsuccess
    · rintro ⟨⟨answers, rfl⟩, hindex⟩
      exact ⟨⟨answers, rfl⟩, answers, rfl, if_pos hindex⟩
  refine ⟨keepsModes_of_spec hspec fun _ => rfl, hresult, ?_⟩
  intro hsuccess
  obtain ⟨⟨answers, hserved⟩, hindex⟩ := hresult.mp hsuccess
  obtain ⟨behind, hcontainer⟩ := hspec.container answers hserved
  have hdata : (tellsMode link gpuIndex answers).data .queryDeviceClockModeResponse =
      driverControlResponse .queryDeviceClockModeResponse .success ++
        leBytes 4 (link.server.deviceClockModes gpuIndex.toNat).toNat := by
    unfold tellsMode ServedRequest.data
    dsimp only
    rw [if_pos hindex, if_pos hindex]
  rw [hcontainer, hdata, deviceClockMode, List.append_assoc,
    payloadField_fill _ _ _ _ (length_driverControlResponse _ _) (length_leBytes 4 _) (by decide),
    leNat_leBytes_uint32]
  exact UInt32.ofNat_toNat

theorem setResult_success_iff (hindex : gpuIndex.toNat < link.server.numGpus) :
    setResult (answeringServer link answers) gpuIndex.toNat clockMode = .success ↔
      ∃ set ∈ answers.setMode, Result.ofCode (set gpuIndex.toNat clockMode).toNat = .success := by
  rw [setResult, if_pos (.inl hindex), answeringServer, DriverAnswers.callbacks]
  cases answers.setMode with
  | none => exact ⟨nofun, nofun⟩
  | some set => simp

structure SetEffect (link : ClockLink) (gpuIndex clockMode : UInt32)
    (fate : RequestFate .setDeviceClockModeResponse) (reply : ClockReply) : Prop where
  version : reply.link.session.version = link.session.version
  numGpus : reply.link.server.numGpus = link.server.numGpus
  accepted : fate.AcceptsMode gpuIndex clockMode →
    reply.link.server.deviceClockModes gpuIndex.toNat = clockMode
  rejected : ¬ fate.AcceptsMode gpuIndex clockMode →
    reply.link.server.deviceClockModes gpuIndex.toNat =
      link.server.deviceClockModes gpuIndex.toNat
  result : reply.result = .success ↔ fate.Arrives ∧ fate.AcceptsMode gpuIndex clockMode

theorem setMode_effect (hnum : link.server.numGpus ≤ kMaxNumGpus)
    (hindex : gpuIndex.toNat < link.server.numGpus)
    (fate : RequestFate .setDeviceClockModeResponse) :
    SetEffect link gpuIndex clockMode fate
      (link.request (.setDeviceClockMode gpuIndex clockMode) fate) := by
  have hspec := setMode_spec link gpuIndex clockMode fate
  have hfew : link.server.numGpus ≤ 16 := hnum
  have hone : gpuIndex.toNat ≠ 2 ^ 32 - 1 := by omega
  have hserver := hspec.server
  have haccepts : fate.AcceptsMode gpuIndex clockMode ↔ ∃ answers ∈ fate.answered,
      setResult (answeringServer link answers) gpuIndex.toNat clockMode = .success := by
    constructor
    · rintro ⟨answers, hanswers, hset⟩
      exact ⟨answers, hanswers, (setResult_success_iff hindex).mpr hset⟩
    · rintro ⟨answers, hanswers, hset⟩
      exact ⟨answers, hanswers, (setResult_success_iff hindex).mp hset⟩
  refine ⟨hspec.version, ?_, ?_, ?_, hspec.result.trans (and_congr_right fun _ => haccepts.symm)⟩
  · rw [hserver]
    cases fate.answered with
    | none => rfl
    | some answers =>
      rw [Option.map_some, Option.getD_some, setsMode]
      split <;> rfl
  · intro haccepted
    obtain ⟨answers, hanswers, hset⟩ := haccepts.mp haccepted
    rw [hserver, Option.mem_def.mp hanswers, Option.map_some, Option.getD_some, setsMode]
    rw [if_pos hset, setDeviceClockModes]
    rw [if_neg hone, if_neg hone]
    exact if_pos ⟨le_refl _, le_refl _⟩
  · intro hrejected
    rw [hserver]
    cases hanswered : fate.answered with
    | none => rfl
    | some answers =>
      rw [Option.map_some, Option.getD_some, setsMode]
      rw [if_neg fun hset => hrejected (haccepts.mpr ⟨answers, hanswered, hset⟩)]
      rfl

theorem clocks_effect {response : DriverControlMessage} {fate : RequestFate response}
    {reply : ClockReply}
    (hspec : RequestSpec link call fate (tellsClocks link gpuIndex clockMode) reply) :
    KeepsModes link reply.link ∧
      (reply.result = .success → fate.Arrives ∧
        fate.TellsClocks gpuIndex clockMode reply.container.clocks) ∧
      (fate.Arrives → gpuIndex.toNat < link.server.numGpus →
        ∀ clocks, fate.TellsClocks gpuIndex clockMode clocks → reply.result = .success) := by
  have hclocks : ∀ answers, gpuIndex.toNat < link.server.numGpus →
      (answeringServer link answers).queryClocks gpuIndex.toNat clockMode =
        answers.queryClock.elim (.error, 0, 0) fun query =>
          (Result.ofCode (query gpuIndex.toNat clockMode).1.toNat,
            (query gpuIndex.toNat clockMode).2) := by
    intro answers hindex
    rw [queryClocks]
    change (if gpuIndex.toNat < link.server.numGpus then _ else _) = _
    rw [if_pos hindex, answeringServer, DriverAnswers.callbacks]
    cases answers.queryClock <;> rfl
  refine ⟨keepsModes_of_spec hspec fun _ => rfl, ?_, ?_⟩
  · intro hsuccess
    obtain ⟨⟨answers, rfl⟩, other, hother, htold⟩ := hspec.result.mp hsuccess
    cases hother
    change ((answeringServer link answers).queryClocks gpuIndex.toNat clockMode).1 = _ at htold
    have hindex : gpuIndex.toNat < link.server.numGpus := by
      by_contra hindex
      rw [queryClocks] at htold
      change (if gpuIndex.toNat < link.server.numGpus then _ else _ : Result × _).1 = _ at htold
      rw [if_neg hindex] at htold
      cases htold
    refine ⟨⟨answers, rfl⟩, answers, rfl, ?_⟩
    obtain ⟨behind, hcontainer⟩ := hspec.container answers rfl
    have hread : reply.container.clocks =
        ((answeringServer link answers).queryClocks gpuIndex.toNat clockMode).2 := by
      rw [hcontainer, clocks, ServedRequest.data, tellsClocks]
      dsimp only
      generalize (answeringServer link answers).queryClocks gpuIndex.toNat clockMode = told
      simp only [List.append_assoc]
      rw [payloadField_fill _ _ _ _ (length_driverControlResponse _ _) (length_leBytes 4 _)
        (by decide),
        leNat_leBytes_uint32, ← List.append_assoc (driverControlResponse _ _),
        payloadField_fill _ _ _ _
          (by rw [List.length_append, length_driverControlResponse, length_leBytes])
          (length_leBytes 4 _) (by decide), leNat_leBytes_uint32, UInt32.ofNat_toNat,
        UInt32.ofNat_toNat]
    rw [hread]
    rw [hclocks answers hindex] at htold ⊢
    cases hquery : answers.queryClock with
    | none =>
      rw [hquery] at htold
      cases htold
    | some query =>
      rw [hquery] at htold
      exact ⟨query, rfl, htold, rfl⟩
  · rintro ⟨answers, rfl⟩ hindex clocks ⟨other, hother, query, hquery, htold, -⟩
    cases hother
    refine hspec.result.mpr ⟨⟨answers, rfl⟩, answers, rfl, ?_⟩
    change ((answeringServer link answers).queryClocks gpuIndex.toNat clockMode).1 = _
    rw [hclocks answers hindex, Option.mem_def.mp hquery]
    exact htold

end Requests

/-! ## Queries -/

section Queries

variable {link : ClockLink} {gpuIndex clockMode : UInt32} {fates : ClockFates}

/-- The driver has told the clocks of the mode for the request that asks for them. -/
def TellsRequested (link : ClockLink) (gpuIndex clockMode : UInt32) (fates : ClockFates)
    (clocks : UInt32 × UInt32) : Prop :=
  if driverControlQueryByModeBackCompatVersion ≤ link.session.version then
    fates.byMode.TellsClocks gpuIndex clockMode clocks
  else fates.query.TellsClocks gpuIndex clockMode clocks

/-- A query leaves the mode of the GPU as it was, and succeeds only with the clocks of the mode that
it was asked for. -/
structure LeavesNoEffect (link : ClockLink) (gpuIndex clockMode : UInt32) (fates : ClockFates)
    (query : ClockQuery) : Prop where
  mode : query.link.server.deviceClockModes gpuIndex.toNat =
    link.server.deviceClockModes gpuIndex.toNat
  clocks : query.result = .success →
    ∃ clocks ∈ query.clocks, TellsRequested link gpuIndex clockMode fates clocks

/-- The emulated query changes the mode and does not get to restore it. -/
def ChangesMode (link : ClockLink) (gpuIndex clockMode : UInt32) (fates : ClockFates) : Prop :=
  link.session.version < driverControlQueryByModeBackCompatVersion ∧
    gpuIndex.toNat < link.server.numGpus ∧ fates.getMode.Arrives ∧
    fates.setMode.AcceptsMode gpuIndex clockMode ∧
    clockMode ≠ link.server.deviceClockModes gpuIndex.toNat

/-- The responses to the requests behind the change arrive, and the driver tells the clocks. -/
def ReachesRestore (gpuIndex clockMode : UInt32) (fates : ClockFates) : Prop :=
  fates.setMode.Arrives ∧ fates.query.Arrives ∧
    ∃ clocks, fates.query.TellsClocks gpuIndex clockMode clocks

theorem queryByMode_leavesNoEffect
    (hnew : driverControlQueryByModeBackCompatVersion ≤ link.session.version) :
    LeavesNoEffect link gpuIndex clockMode fates
      (link.queryByMode gpuIndex clockMode fates) := by
  obtain ⟨hkeeps, hclocks, -⟩ := clocks_effect (byMode_spec link gpuIndex clockMode fates.byMode)
  refine ⟨congrFun hkeeps.modes _, ?_⟩
  intro hsuccess
  refine ⟨_, if_pos hsuccess, ?_⟩
  rw [TellsRequested, if_pos hnew]
  exact (hclocks hsuccess).2

theorem queryInMode_leavesNoEffect_iff (hnum : link.server.numGpus ≤ kMaxNumGpus)
    (hold : link.session.version < driverControlQueryByModeBackCompatVersion)
    (hrestore : fates.restore.AcceptsMode gpuIndex
      (link.server.deviceClockModes gpuIndex.toNat)) :
    LeavesNoEffect link gpuIndex clockMode fates (link.queryInMode gpuIndex clockMode fates) ↔
      (ChangesMode link gpuIndex clockMode fates → ReachesRestore gpuIndex clockMode fates) := by
  obtain ⟨hkept, hgot, hread⟩ := getMode_effect link gpuIndex fates.getMode
  rw [ClockLink.queryInMode]
  generalize link.request (.queryDeviceClockMode gpuIndex) fates.getMode = get at *
  by_cases hget : get.result = .success
  swap
  · rw [if_pos hget]
    refine iff_of_true ⟨congrFun hkept.modes _, fun hsuccess => absurd hsuccess hget⟩ ?_
    rintro ⟨-, hindex, harrives, -⟩
    exact absurd (hgot.mpr ⟨harrives, hindex⟩) hget
  obtain ⟨harrives, hindex⟩ := hgot.mp hget
  rw [if_neg (not_not.mpr hget), hread hget]
  have hset : SetEffect get.link gpuIndex clockMode fates.setMode _ :=
    setMode_effect (hkept.numGpus.trans_le hnum) (hindex.trans_eq hkept.numGpus.symm) fates.setMode
  generalize get.link.request (.setDeviceClockMode gpuIndex clockMode) fates.setMode = set at *
  have hmode : get.link.server.deviceClockModes gpuIndex.toNat =
      link.server.deviceClockModes gpuIndex.toNat := congrFun hkept.modes _
  by_cases haccepts : fates.setMode.AcceptsMode gpuIndex clockMode
  swap
  · have hfailed : set.result ≠ .success := fun hsuccess => haccepts (hset.result.mp hsuccess).2
    rw [if_pos hfailed]
    refine iff_of_true ⟨(hset.rejected haccepts).trans hmode,
      fun hsuccess => absurd hsuccess hfailed⟩ ?_
    rintro ⟨-, -, -, haccepted, -⟩
    exact absurd haccepted haccepts
  -- a query that has failed behind the change leaves the mode that it has set
  have hleft : ∀ link' result, link'.server.deviceClockModes gpuIndex.toNat = clockMode →
      result ≠ .success → ¬ ReachesRestore gpuIndex clockMode fates →
      (LeavesNoEffect link gpuIndex clockMode fates ⟨link', result, none⟩ ↔
        (ChangesMode link gpuIndex clockMode fates → ReachesRestore gpuIndex clockMode fates)) := by
    intro link' result hmode' hfailed hstops
    constructor
    · rintro ⟨hsame, -⟩ ⟨-, -, -, -, hchanges⟩
      exact absurd (hmode'.symm.trans hsame) hchanges
    · intro hgoes
      refine ⟨?_, fun hsuccess => absurd hsuccess hfailed⟩
      by_contra hchanges
      exact hstops (hgoes ⟨hold, hindex, harrives, haccepts, fun hsame =>
        hchanges (hmode'.trans hsame)⟩)
  by_cases hsetok : set.result = .success
  swap
  · rw [if_pos hsetok]
    apply hleft _ _ (hset.accepted haccepts) hsetok
    rintro ⟨hsetArrives, -⟩
    exact hsetok (hset.result.mpr ⟨hsetArrives, haccepts⟩)
  rw [if_neg (not_not.mpr hsetok)]
  have hquery := clocks_effect (currentClock_spec set.link gpuIndex
    (by rw [hset.version, hkept.version]; exact hold) fates.query)
  rw [hset.accepted haccepts] at hquery
  generalize set.link.request (.queryDeviceClock gpuIndex) fates.query = query at *
  obtain ⟨hquerykeeps, htells, hsucceeds⟩ := hquery
  have hquerymode : query.link.server.deviceClockModes gpuIndex.toNat = clockMode :=
    (congrFun hquerykeeps.modes _).trans (hset.accepted haccepts)
  have hcount : query.link.server.numGpus = link.server.numGpus :=
    (hquerykeeps.numGpus.trans hset.numGpus).trans hkept.numGpus
  by_cases hqueryok : query.result = .success
  swap
  · rw [if_pos hqueryok]
    apply hleft _ _ hquerymode hqueryok
    rintro ⟨-, hqueryArrives, clocks, htold⟩
    refine hqueryok (hsucceeds hqueryArrives ?_ clocks htold)
    rw [hset.numGpus, hkept.numGpus]
    exact hindex
  · rw [if_neg (not_not.mpr hqueryok)]
    have hrestored : SetEffect query.link gpuIndex (link.server.deviceClockModes gpuIndex.toNat)
        fates.restore _ :=
      setMode_effect (hcount.trans_le hnum) (hindex.trans_eq hcount.symm) fates.restore
    have hgoes : ReachesRestore gpuIndex clockMode fates :=
      ⟨(hset.result.mp hsetok).1, (htells hqueryok).1, _, (htells hqueryok).2⟩
    refine iff_of_true ⟨hrestored.accepted hrestore, ?_⟩ fun _ => hgoes
    intro _
    refine ⟨_, rfl, ?_⟩
    rw [TellsRequested, if_neg (UInt16.not_le.mpr hold)]
    exact (htells hqueryok).2

theorem queryDeviceClock_leavesNoEffect_iff (link : ClockLink)
    (hnum : link.server.numGpus ≤ kMaxNumGpus)
    (hrestore : fates.restore.AcceptsMode gpuIndex
      (link.server.deviceClockModes gpuIndex.toNat)) :
    LeavesNoEffect link gpuIndex clockMode fates
        (link.queryDeviceClock gpuIndex clockMode fates) ↔
      (ChangesMode link gpuIndex clockMode fates → ReachesRestore gpuIndex clockMode fates) := by
  rw [ClockLink.queryDeviceClock]
  split
  · rename_i hnew
    refine iff_of_true (queryByMode_leavesNoEffect hnew) ?_
    rintro ⟨hold, -⟩
    exact absurd hold (UInt16.not_lt.mpr hnew)
  · rename_i hold
    exact queryInMode_leavesNoEffect_iff hnum (UInt16.not_le.mp hold) hrestore

/-- A query has no lasting effect just where it goes on after it has changed the mode. -/
theorem query_leaves_no_effect_iff {t : DriverControlThreads}
    (h : driverControlMachine.Reachable t) (session : DriverControlSession)
    (gpuIndex clockMode : UInt32) (fates : ClockFates)
    (hrestore : fates.restore.AcceptsMode gpuIndex
      (t.server.deviceClockModes gpuIndex.toNat)) :
    LeavesNoEffect ⟨t.server, session⟩ gpuIndex clockMode fates
        ((⟨t.server, session⟩ : ClockLink).queryDeviceClock gpuIndex clockMode fates) ↔
      (ChangesMode ⟨t.server, session⟩ gpuIndex clockMode fates →
        ReachesRestore gpuIndex clockMode fates) :=
  queryDeviceClock_leavesNoEffect_iff _ (numGpus_le h) hrestore

end Queries

def sameClocks : DriverAnswers := ⟨some fun _ _ => (0, 10, 20), some fun _ _ => 0⟩

def clockFatesWith (query : RequestFate .queryDeviceClockResponse) : ClockFates :=
  ⟨.served sameClocks .arrives, .served sameClocks .arrives, .served sameClocks .arrives, query,
    .served sameClocks .arrives⟩

def twoGpus : DriverControlThreads :=
  acceptingDriver.setServer (acceptingDriver.server.setNumGpus 2)

theorem twoGpus_reachable : driverControlMachine.Reachable twoGpus :=
  .step acceptingDriver_reachable (a := .setNumGpus 2) rfl

theorem query_leaves_no_effect_iff_arrives :
    LeavesNoEffect ⟨twoGpus.server, .new 5⟩ 0 deviceClockModePeak
      (clockFatesWith (.served sameClocks .arrives))
      ((⟨twoGpus.server, .new 5⟩ : ClockLink).queryDeviceClock 0 deviceClockModePeak
        (clockFatesWith (.served sameClocks .arrives))) := by
  apply (query_leaves_no_effect_iff twoGpus_reachable (.new 5) 0 deviceClockModePeak _ ?_).mpr
  · intro _
    exact ⟨⟨_, rfl⟩, ⟨_, rfl⟩, (10, 20), _, rfl, _, rfl, rfl, rfl⟩
  · exact ⟨_, rfl, _, rfl, rfl⟩

/-- The response with the clocks is lost, and the GPU stays in the mode that was asked for. -/
theorem query_leaves_no_effect_not :
    ¬ ∀ t, driverControlMachine.Reachable t → ∀ session gpuIndex clockMode (fates : ClockFates),
      fates.restore.AcceptsMode gpuIndex (t.server.deviceClockModes gpuIndex.toNat) →
      LeavesNoEffect ⟨t.server, session⟩ gpuIndex clockMode fates
        ((⟨t.server, session⟩ : ClockLink).queryDeviceClock gpuIndex clockMode fates) := by
  intro hall
  have hlost : Result.notReady ≠ .success := by nofun
  have hrestore : (clockFatesWith (.served sameClocks (.lost .notReady hlost))).restore.AcceptsMode
      0 (twoGpus.server.deviceClockModes (0 : UInt32).toNat) := ⟨_, rfl, _, rfl, rfl⟩
  have hchanges : ChangesMode ⟨twoGpus.server, .new 5⟩ 0 deviceClockModePeak
      (clockFatesWith (.served sameClocks (.lost .notReady hlost))) :=
    ⟨by decide, by decide, ⟨_, rfl⟩, ⟨_, rfl, _, rfl, rfl⟩, by decide⟩
  have hkeeps := hall _ twoGpus_reachable (.new 5) 0 deviceClockModePeak _ hrestore
  obtain ⟨-, ⟨answers, harrives⟩, -⟩ :=
    (queryDeviceClock_leavesNoEffect_iff _ (by decide) hrestore).mp hkeeps hchanges
  cases harrives

end DevDriver.Analysis
