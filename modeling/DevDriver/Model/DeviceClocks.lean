import DevDriver.Model.DriverControlClient

/-!
# Device clocks

What is done about the clock mode of a GPU: the loop in which the server records a mode, with the
indices that it writes to, and the call that asks for the clocks of a mode.
-/

namespace DevDriver.Model

open Library

namespace DriverControlServer

/-- The loop over the GPUs from one index to another, with the indices that it has written to; none
when it has not ended.
driverControlServer.cpp:363-367 -/
def recordModes (mode : UInt32) (lastGpuIndex : ℕ) :
    ℕ → ℕ → (ℕ → UInt32) → List ℕ → Option ((ℕ → UInt32) × List ℕ)
  | 0, _, _, _ => none
  | rounds + 1, curGpuIndex, modes, written =>
    if curGpuIndex ≤ lastGpuIndex then
      recordModes mode lastGpuIndex rounds ((curGpuIndex + 1) % 2 ^ 32)
        (Function.update modes curGpuIndex mode) (written ++ [curGpuIndex])
    else some (modes, written)

/-- What a request to set a mode comes to: the result, the server and the indices written to. -/
structure ModeRecord where
  result : Result
  server : DriverControlServer
  written : List ℕ

/-- The GPUs that a request asks for, by the first and the last index.
driverControlServer.cpp:349-361 -/
def requestedRange (gpuIndex : ℕ) (s : DriverControlServer) : ℕ × ℕ :=
  if gpuIndex = 2 ^ 32 - 1 then (0, (s.numGpus + 2 ^ 32 - 1) % 2 ^ 32) else (gpuIndex, gpuIndex)

/-- The modes are recorded after the driver has set one.
driverControlServer.cpp:346-368 -/
def recordRequested (rounds : ℕ) (gpuIndex : ℕ) (mode : UInt32) (s : DriverControlServer) :
    Option ModeRecord :=
  let range := s.requestedRange gpuIndex
  (recordModes mode range.2 rounds range.1 s.deviceClockModes []).map fun recorded =>
    ⟨.success, { s with deviceClockModes := recorded.1 }, recorded.2⟩

/-- What a request to set a mode does, with a bound on the rounds of the loop.
driverControlServer.cpp:333-370 -/
def setClockMode (rounds : ℕ) (gpuIndex : ℕ) (mode : UInt32) (s : DriverControlServer) :
    Option ModeRecord :=
  if gpuIndex < s.numGpus ∨ gpuIndex = 2 ^ 32 - 1 then
    match s.deviceClockCallbackInfo.setCallback with
    | none => some ⟨.error, s, []⟩
    | some setCallback =>
      if setCallback gpuIndex mode = .success then s.recordRequested rounds gpuIndex mode
      else some ⟨setCallback gpuIndex mode, s, []⟩
  else some ⟨.error, s, []⟩

/-- The handler with the response that it leaves, and the indices it has written to.
driverControlServer.cpp:327-375 -/
def handleSetClockMode (rounds : ℕ) (s : DriverControlServer) (session : DriverControlSession) :
    Option (DriverControlServer × DriverControlSession × List ℕ) :=
  (s.setClockMode rounds session.payloadContainer.gpuIndex
      session.payloadContainer.deviceClockMode).map fun record =>
    (record.server, session.respond (setDeviceClockModeResponsePayload record.result),
      record.written)

/-- `HandleQueryDeviceClockRequest` of a server that was built for an interface without clock modes:
the driver reports the clocks of a GPU as it runs.
driverControlServer.cpp:377-413 -/
def handleQueryCurrentClockRequest (s : DriverControlServer) (session : DriverControlSession) :
    DriverControlSession :=
  let gpuIndex := session.payloadContainer.gpuIndex
  let clocks := s.queryClocks gpuIndex (s.deviceClockModes gpuIndex)
  session.respond (queryDeviceClockResponsePayload clocks.1 clocks.2.1 clocks.2.2)

def processClockPayload (s : DriverControlServer) (session : DriverControlSession) :
    DriverControlServer × DriverControlSession :=
  if session.version < driverControlQueryByModeBackCompatVersion ∧
      session.payloadContainer.driverControlCommand = .queryDeviceClockRequest then
    (s, s.handleQueryCurrentClockRequest session)
  else s.processPayload session

end DriverControlServer

/-! ## Requests of the client -/

/-- What the callbacks of the driver answer, with their results as 32-bit values. -/
structure DriverAnswers where
  queryClock : Option (ℕ → UInt32 → UInt32 × UInt32 × UInt32)
  setMode : Option (ℕ → UInt32 → UInt32)

def DriverAnswers.callbacks (answers : DriverAnswers) : DeviceClockCallbackInfo where
  queryClockCallback := answers.queryClock.map fun query gpuIndex mode =>
    (Result.ofCode (query gpuIndex mode).1.toNat, (query gpuIndex mode).2)
  setCallback := answers.setMode.map fun set gpuIndex mode =>
    Result.ofCode (set gpuIndex mode).toNat

/-- What the client gets for a request that has reached the server: its response, an error, or a
payload with another command. -/
inductive ReplyFate (response : DriverControlMessage) where
  | arrives
  | lost (result : Result) (h : result ≠ .success)
  | other (bytes : List UInt8) (h : bytes.head?.map DriverControlMessage.ofCode ≠ some response)

/-- What becomes of a request: it does not reach the server, or the server handles it with what the
driver answers then. -/
inductive RequestFate (response : DriverControlMessage) where
  | lost (result : Result) (h : result ≠ .success)
  | served (answers : DriverAnswers) (reply : ReplyFate response)

namespace RequestFate

variable {response : DriverControlMessage}

def answered : RequestFate response → Option DriverAnswers
  | .lost _ _ => none
  | .served answers _ => some answers

def Arrives (fate : RequestFate response) : Prop := ∃ answers, fate = .served answers .arrives

/-- The request reaches the server when the driver accepts a mode. -/
def AcceptsMode (fate : RequestFate response) (gpuIndex clockMode : UInt32) : Prop :=
  ∃ answers ∈ fate.answered, ∃ set ∈ answers.setMode,
    Result.ofCode (set gpuIndex.toNat clockMode).toNat = .success

/-- The request reaches the server when the driver tells the clocks of a mode. -/
def TellsClocks (fate : RequestFate response) (gpuIndex clockMode : UInt32)
    (clocks : UInt32 × UInt32) : Prop :=
  ∃ answers ∈ fate.answered, ∃ query ∈ answers.queryClock,
    Result.ofCode (query gpuIndex.toNat clockMode).1.toNat = .success ∧
      (query gpuIndex.toNat clockMode).2 = clocks

end RequestFate

/-- A driver control server and the session of a client. -/
structure ClockLink where
  server : DriverControlServer
  session : DriverControlSession

/-- What a call has come to: the result that it returns, and the container with the response. -/
structure ClockReply where
  link : ClockLink
  result : Result
  container : SizedPayloadContainer

namespace ClockLink

def serve (bytes : List UInt8) (answers : DriverAnswers) (link : ClockLink) : ClockLink :=
  let server := { link.server with deviceClockCallbackInfo := answers.callbacks }
  let session := { link.session with payloadContainer := link.session.payloadContainer.fill bytes }
  ⟨(server.processClockPayload session).1, (server.processClockPayload session).2⟩

/-- A call that sends one request.
driverControlClient.cpp:566-579 -/
def request (call : DriverControlCall) (link : ClockLink)
    (fate : RequestFate (call.responseCommand link.session.version)) : ClockReply :=
  let version := link.session.version
  match fate with
  | .lost result _ => ⟨link, result, call.container⟩
  | .served answers reply =>
    let link := link.serve (call.sentBytes version) answers
    match reply with
    | .arrives =>
      ⟨link, call.result version link.session.sentBytes,
        call.container.fill link.session.sentBytes⟩
    | .lost result _ => ⟨link, result, call.container⟩
    | .other bytes _ => ⟨link, call.result version bytes, call.container.fill bytes⟩

end ClockLink

/-- `gpuClock` and `memClock` of a response. -/
def SizedPayloadContainer.clocks (c : SizedPayloadContainer) : UInt32 × UInt32 :=
  (UInt32.ofNat (payloadField c.payload 8 4), UInt32.ofNat (payloadField c.payload 12 4))

/-- What becomes of the requests of a query, one by one. -/
structure ClockFates where
  byMode : RequestFate .queryDeviceClockByModeResponse
  getMode : RequestFate .queryDeviceClockModeResponse
  setMode : RequestFate .setDeviceClockModeResponse
  query : RequestFate .queryDeviceClockResponse
  restore : RequestFate .setDeviceClockModeResponse

structure ClockQuery where
  link : ClockLink
  result : Result
  clocks : Option (UInt32 × UInt32)

namespace ClockLink

/-- `QueryDeviceClock` with a server that takes the mode in its request.
driverControlClient.cpp:330-355 -/
def queryByMode (gpuIndex clockMode : UInt32) (fates : ClockFates) (link : ClockLink) :
    ClockQuery :=
  let reply := link.request (.queryDeviceClockByMode gpuIndex clockMode) fates.byMode
  ⟨reply.link, reply.result,
    if reply.result = .success then some reply.container.clocks else none⟩

/-- `QueryDeviceClock` with a server of an older version.
driverControlClient.cpp:358-383 -/
def queryInMode (gpuIndex clockMode : UInt32) (fates : ClockFates) (link : ClockLink) :
    ClockQuery :=
  let get := link.request (.queryDeviceClockMode gpuIndex) fates.getMode
  if get.result ≠ .success then ⟨get.link, get.result, none⟩
  else
    let set := get.link.request (.setDeviceClockMode gpuIndex clockMode) fates.setMode
    if set.result ≠ .success then ⟨set.link, set.result, none⟩
    else
      let query := set.link.request (.queryDeviceClock gpuIndex) fates.query
      if query.result ≠ .success then ⟨query.link, query.result, none⟩
      else
        let restore := query.link.request
          (.setDeviceClockMode gpuIndex get.container.deviceClockMode) fates.restore
        ⟨restore.link, restore.result, some query.container.clocks⟩

/-- `QueryDeviceClock` of a connected client; the request of one that has lost its connection is
lost.
driverControlClient.cpp:324-389 -/
def queryDeviceClock (gpuIndex clockMode : UInt32) (fates : ClockFates) (link : ClockLink) :
    ClockQuery :=
  if driverControlQueryByModeBackCompatVersion ≤ link.session.version then
    link.queryByMode gpuIndex clockMode fates
  else link.queryInMode gpuIndex clockMode fates

end ClockLink

end DevDriver.Model
