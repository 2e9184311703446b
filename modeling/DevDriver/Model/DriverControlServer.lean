import DevDriver.Model.MessageChannel
import DevDriver.Model.Socket
import DevDriver.Model.TransferProtocol

/-!
# The driver control server

The messages of driverControlProtocol.h and `DriverControlServer` of driverControlServer.cpp: what
each request of a session does to the server and which response it leaves in the container of the
session.
-/

namespace DevDriver.Model

open Library

/-! ## Messages -/

/-- gpuopen.h. -/
inductive DriverStatus where
  | running
  | paused
  | haltedOnDeviceInit
  | earlyDeviceInit
  | lateDeviceInit
  | platformInit
  | haltedOnPlatformInit
  | haltedPostDeviceInit
  deriving DecidableEq, Repr

def DriverStatus.toCode : DriverStatus → ℕ
  | .running => 0
  | .paused => 1
  | .haltedOnDeviceInit => 2
  | .earlyDeviceInit => 3
  | .lateDeviceInit => 4
  | .platformInit => 5
  | .haltedOnPlatformInit => 6
  | .haltedPostDeviceInit => 7

/-- `DriverControlMessage`; every other value is `unknown`. -/
inductive DriverControlMessage where
  | unknown
  | pauseDriverRequest
  | pauseDriverResponse
  | resumeDriverRequest
  | resumeDriverResponse
  | queryNumGpusRequest
  | queryNumGpusResponse
  | queryDeviceClockModeRequest
  | queryDeviceClockModeResponse
  | setDeviceClockModeRequest
  | setDeviceClockModeResponse
  | queryDeviceClockRequest
  | queryDeviceClockResponse
  | queryMaxDeviceClockRequest
  | queryMaxDeviceClockResponse
  | queryDriverStatusRequest
  | queryDriverStatusResponse
  | stepDriverRequest
  | stepDriverResponse
  | queryClientInfoRequest
  | queryClientInfoResponse
  | queryDeviceClockByModeRequest
  | queryDeviceClockByModeResponse
  | stepDriverResponseV2
  | ignoreDriverRequest
  | ignoreDriverResponse
  deriving DecidableEq, Repr

def DriverControlMessage.all : List DriverControlMessage :=
  [.unknown, .pauseDriverRequest, .pauseDriverResponse, .resumeDriverRequest,
    .resumeDriverResponse, .queryNumGpusRequest, .queryNumGpusResponse,
    .queryDeviceClockModeRequest, .queryDeviceClockModeResponse, .setDeviceClockModeRequest,
    .setDeviceClockModeResponse, .queryDeviceClockRequest, .queryDeviceClockResponse,
    .queryMaxDeviceClockRequest, .queryMaxDeviceClockResponse, .queryDriverStatusRequest,
    .queryDriverStatusResponse, .stepDriverRequest, .stepDriverResponse,
    .queryClientInfoRequest, .queryClientInfoResponse, .queryDeviceClockByModeRequest,
    .queryDeviceClockByModeResponse, .stepDriverResponseV2, .ignoreDriverRequest,
    .ignoreDriverResponse]

def DriverControlMessage.toCode (m : DriverControlMessage) : UInt8 :=
  UInt8.ofNat (all.idxOf m)

def DriverControlMessage.ofCode (code : UInt8) : DriverControlMessage :=
  all.getD code.toNat .unknown

@[simp] theorem DriverControlMessage.ofCode_toCode (m : DriverControlMessage) :
    ofCode m.toCode = m := by
  cases m <;> rfl

def driverControlInitializationStatusVersion : Version := 2
def driverControlQueryClientInfoVersion : Version := 3
def driverControlHaltedPostDeviceInitVersion : Version := 4
def driverControlStepReturnStatusVersion : Version := 8

abbrev kLegacyDriverControlPayloadSize : ℕ := 16

abbrev kMaxNumGpus : ℕ := 16

def driverControlHeader (command : DriverControlMessage) : List UInt8 := [command.toCode, 0, 0, 0]

def driverControlResponse (command : DriverControlMessage) (result : Result) : List UInt8 :=
  driverControlHeader command ++ leBytes 4 result.toCode

@[simp] theorem length_driverControlResponse (command : DriverControlMessage) (result : Result) :
    (driverControlResponse command result).length = 8 := by
  simp [driverControlResponse, driverControlHeader]

def pauseDriverResponsePayload : Result → List UInt8 :=
  driverControlResponse .pauseDriverResponse

def resumeDriverResponsePayload : Result → List UInt8 :=
  driverControlResponse .resumeDriverResponse

def setDeviceClockModeResponsePayload : Result → List UInt8 :=
  driverControlResponse .setDeviceClockModeResponse

def stepDriverResponsePayload : Result → List UInt8 :=
  driverControlResponse .stepDriverResponse

def stepDriverResponsePayloadV2 (result : Result) (status : DriverStatus) : List UInt8 :=
  driverControlResponse .stepDriverResponseV2 result ++ leBytes 4 status.toCode

def queryNumGpusResponsePayload (result : Result) (numGpus : ℕ) : List UInt8 :=
  driverControlResponse .queryNumGpusResponse result ++ leBytes 4 numGpus

def queryDeviceClockModeResponsePayload (result : Result) (mode : UInt32) : List UInt8 :=
  driverControlResponse .queryDeviceClockModeResponse result ++ leBytes 4 mode.toNat

def clockResponse (command : DriverControlMessage) (result : Result) (gpuClock memClock : UInt32) :
    List UInt8 :=
  driverControlResponse command result ++ leBytes 4 gpuClock.toNat ++ leBytes 4 memClock.toNat

def queryDeviceClockResponsePayload : Result → UInt32 → UInt32 → List UInt8 :=
  clockResponse .queryDeviceClockResponse

def queryMaxDeviceClockResponsePayload : Result → UInt32 → UInt32 → List UInt8 :=
  clockResponse .queryMaxDeviceClockResponse

def queryDeviceClockByModeResponsePayload : Result → UInt32 → UInt32 → List UInt8 :=
  clockResponse .queryDeviceClockByModeResponse

def queryDriverStatusResponsePayload (status : DriverStatus) : List UInt8 :=
  driverControlHeader .queryDriverStatusResponse ++ leBytes 4 status.toCode

def queryClientInfoResponsePayload (clientInfo : ClientInfoStruct) : List UInt8 :=
  driverControlHeader .queryClientInfoResponse ++ clientInfo.encode

def ignoreDriverResponsePayload : List UInt8 := driverControlHeader .ignoreDriverResponse

namespace SizedPayloadContainer

/-- `DriverControlHeader::command`. -/
def driverControlCommand (c : SizedPayloadContainer) : DriverControlMessage :=
  .ofCode (UInt8.ofNat (payloadField c.payload 0 1))

/-- `gpuIndex` of a request. -/
def gpuIndex (c : SizedPayloadContainer) : ℕ := payloadField c.payload 4 4

/-- `mode` of a request. -/
def deviceClockMode (c : SizedPayloadContainer) : UInt32 :=
  UInt32.ofNat (payloadField c.payload 8 4)

/-- `StepDriverRequestPayload::count`. -/
def stepCount (c : SizedPayloadContainer) : UInt32 := UInt32.ofNat (payloadField c.payload 4 4)

end SizedPayloadContainer

structure DeviceClockCallbackInfo where
  queryClockCallback : Option (ℕ → UInt32 → Result × UInt32 × UInt32)
  setCallback : Option (ℕ → UInt32 → Result)

/-- `DeviceClockMode::Unknown`, `DeviceClockMode::Default` and `DeviceClockMode::Peak`. -/
def deviceClockModeUnknown : UInt32 := 0
def deviceClockModeDefault : UInt32 := 1
def deviceClockModePeak : UInt32 := 5

/-- `DriverControlServer`, with the information about its client that its channel has. -/
structure DriverControlServer where
  driverStatus : DriverStatus
  driverResumedEvent : Bool
  numGpus : ℕ
  deviceClockModes : ℕ → UInt32
  deviceClockCallbackInfo : DeviceClockCallbackInfo
  numSessions : ℕ
  stepCounter : ℤ
  initStepRequested : Bool
  driverInitClientId : ClientId
  isIgnored : Bool
  clientInfo : ClientInfoStruct

/-- `SessionState`, driverControlServer.cpp. -/
inductive DriverControlSessionState where
  | receivePayload
  | processPayload
  | sendPayload
  | stepDriver
  deriving DecidableEq, Repr

/-- `DriverControlSession`, with the version of its protocol session. -/
structure DriverControlSession where
  version : Version
  payloadContainer : SizedPayloadContainer
  state : DriverControlSessionState

namespace DriverControlSession

def new (version : Version) : DriverControlSession := ⟨version, .zero, .receivePayload⟩

/-- The bytes that `SendPayload` sends.
driverControlServer.cpp:46-55 -/
def sentBytes (session : DriverControlSession) : List UInt8 :=
  readBytes (if driverControlQueryClientInfoVersion ≤ session.version then
    session.payloadContainer.payloadSize else kLegacyDriverControlPayloadSize)
    session.payloadContainer.payload

def respond (data : List UInt8) (session : DriverControlSession) : DriverControlSession :=
  { session with payloadContainer := session.payloadContainer.fill data, state := .sendPayload }

end DriverControlSession

namespace DriverControlServer

/-- A new server.
driverControlServer.cpp:59-77 -/
def new (clientInfo : ClientInfoStruct) : DriverControlServer where
  driverStatus := .platformInit
  driverResumedEvent := true
  numGpus := 0
  deviceClockModes := fun _ => deviceClockModeDefault
  deviceClockCallbackInfo := ⟨none, none⟩
  numSessions := 0
  stepCounter := 0
  initStepRequested := false
  driverInitClientId := kBroadcastClientId
  isIgnored := false
  clientInfo := clientInfo

def isHalted (s : DriverControlServer) : Bool :=
  s.driverStatus = .haltedOnPlatformInit ∨ s.driverStatus = .haltedOnDeviceInit ∨
    s.driverStatus = .haltedPostDeviceInit

def isDriverInitialized (s : DriverControlServer) : Bool :=
  s.driverStatus = .haltedPostDeviceInit ∨ s.driverStatus = .running ∨ s.driverStatus = .paused

def setStatus (driverStatus : DriverStatus) (s : DriverControlServer) : DriverControlServer :=
  { s with driverStatus := driverStatus }

/-- `m_driverResumedEvent.Clear`. -/
def clearEvent (s : DriverControlServer) : DriverControlServer :=
  { s with driverResumedEvent := false }

/-- `m_driverResumedEvent.Signal`. -/
def signalEvent (s : DriverControlServer) : DriverControlServer :=
  { s with driverResumedEvent := true }

def pauseDriver (s : DriverControlServer) : DriverControlServer := (s.setStatus .paused).clearEvent

def resumeDriver (s : DriverControlServer) : DriverControlServer :=
  (s.setStatus .running).signalEvent

def setNumGpus (numGpus : ℕ) (s : DriverControlServer) : DriverControlServer :=
  if numGpus ≤ kMaxNumGpus then { s with numGpus := numGpus } else s

/-! ### Requests -/

def handlePauseDriverRequest (s : DriverControlServer) (session : DriverControlSession) :
    DriverControlServer × DriverControlSession :=
  if s.driverStatus = .running then
    (s.pauseDriver, session.respond (pauseDriverResponsePayload .success))
  else (s, session.respond (pauseDriverResponsePayload .error))

/-- The switch of `HandleResumeDriverRequest`.
driverControlServer.cpp:281-297 -/
def resumeHalted (s : DriverControlServer) : Result × DriverControlServer :=
  match s.driverStatus with
  | .haltedOnDeviceInit => (.success, s.signalEvent)
  | .haltedOnPlatformInit => (.success, s.signalEvent)
  | .haltedPostDeviceInit => (.success, s.resumeDriver)
  | .paused => (.success, s.resumeDriver)
  | _ => (.error, s)

def handleResumeDriverRequest (s : DriverControlServer) (session : DriverControlSession) :
    DriverControlServer × DriverControlSession :=
  if s.isHalted ∨ s.driverStatus = .paused then
    (s.resumeHalted.2, session.respond (resumeDriverResponsePayload s.resumeHalted.1))
  else (s, session.respond (resumeDriverResponsePayload .error))

def handleQueryDeviceClockModeRequest (s : DriverControlServer) (session : DriverControlSession) :
    DriverControlSession :=
  let gpuIndex := session.payloadContainer.gpuIndex
  if gpuIndex < s.numGpus then
    session.respond (queryDeviceClockModeResponsePayload .success (s.deviceClockModes gpuIndex))
  else session.respond (queryDeviceClockModeResponsePayload .error deviceClockModeUnknown)

/-- The clock modes after one was set for a GPU or for all of them; the index of the last GPU
wraps when there is none.
driverControlServer.cpp:347-369 -/
def setDeviceClockModes (gpuIndex : ℕ) (mode : UInt32) (s : DriverControlServer) :
    DriverControlServer :=
  let firstGpuIndex := if gpuIndex = 2 ^ 32 - 1 then 0 else gpuIndex
  let lastGpuIndex := if gpuIndex = 2 ^ 32 - 1 then (s.numGpus + 2 ^ 32 - 1) % 2 ^ 32 else gpuIndex
  { s with deviceClockModes := fun curGpuIndex =>
      if firstGpuIndex ≤ curGpuIndex ∧ curGpuIndex ≤ lastGpuIndex then mode
      else s.deviceClockModes curGpuIndex }

/-- driverControlServer.cpp:327-375 -/
def handleSetDeviceClockModeRequest (s : DriverControlServer) (session : DriverControlSession) :
    DriverControlServer × DriverControlSession :=
  let gpuIndex := session.payloadContainer.gpuIndex
  let mode := session.payloadContainer.deviceClockMode
  if gpuIndex < s.numGpus ∨ gpuIndex = 2 ^ 32 - 1 then
    match s.deviceClockCallbackInfo.setCallback with
    | none => (s, session.respond (setDeviceClockModeResponsePayload .error))
    | some setCallback =>
      (if setCallback gpuIndex mode = .success then s.setDeviceClockModes gpuIndex mode else s,
        session.respond (setDeviceClockModeResponsePayload (setCallback gpuIndex mode)))
  else (s, session.respond (setDeviceClockModeResponsePayload .error))

def queryClocks (gpuIndex : ℕ) (mode : UInt32) (s : DriverControlServer) :
    Result × UInt32 × UInt32 :=
  if gpuIndex < s.numGpus then
    match s.deviceClockCallbackInfo.queryClockCallback with
    | none => (.error, 0, 0)
    | some queryClockCallback => queryClockCallback gpuIndex mode
  else (.error, 0, 0)

def handleQueryDeviceClockRequest (s : DriverControlServer) (session : DriverControlSession) :
    DriverControlSession :=
  let clocks := s.queryClocks session.payloadContainer.gpuIndex deviceClockModeDefault
  session.respond (queryDeviceClockResponsePayload clocks.1 clocks.2.1 clocks.2.2)

def handleQueryDeviceClockByModeRequest (s : DriverControlServer)
    (session : DriverControlSession) : DriverControlSession :=
  let clocks := s.queryClocks session.payloadContainer.gpuIndex
    session.payloadContainer.deviceClockMode
  session.respond (queryDeviceClockByModeResponsePayload clocks.1 clocks.2.1 clocks.2.2)

def handleQueryMaxDeviceClockRequest (s : DriverControlServer) (session : DriverControlSession) :
    DriverControlSession :=
  let clocks := s.queryClocks session.payloadContainer.gpuIndex deviceClockModePeak
  session.respond (queryMaxDeviceClockResponsePayload clocks.1 clocks.2.1 clocks.2.2)

/-- The status that a session of a version is told.
driverControlServer.cpp:511-527 -/
def statusFor (sessionVersion : Version) (s : DriverControlServer) : DriverStatus :=
  if sessionVersion < driverControlInitializationStatusVersion ∧
      (s.driverStatus = .earlyDeviceInit ∨ s.driverStatus = .lateDeviceInit) then .running
  else if sessionVersion < driverControlHaltedPostDeviceInitVersion ∧
      s.driverStatus = .haltedPostDeviceInit then .paused
  else s.driverStatus

/-- The response to a step request, which carries the status from a version on.
driverControlServer.cpp:221-228, 564-571 -/
def stepResponse (result : Result) (s : DriverControlServer) (session : DriverControlSession) :
    DriverControlSession :=
  if driverControlStepReturnStatusVersion ≤ session.version then
    session.respond (stepDriverResponsePayloadV2 result s.driverStatus)
  else session.respond (stepDriverResponsePayload result)

def stepsOf (session : DriverControlSession) : ℤ :=
  max session.payloadContainer.stepCount.toInt32.toInt 1

def startsStep (s : DriverControlServer) : Bool :=
  (s.driverStatus = .paused ∨ s.driverStatus = .haltedPostDeviceInit) ∧ s.stepCounter = 0

/-- A step request lets a driver that is not initialized go on to its next halt. -/
def startsInitStep (s : DriverControlServer) : Bool :=
  s.driverStatus = .haltedOnPlatformInit ∨ s.driverStatus = .haltedOnDeviceInit

/-- driverControlServer.cpp:533-577 -/
def handleStepDriverRequest (s : DriverControlServer) (session : DriverControlSession) :
    DriverControlServer × DriverControlSession :=
  if s.startsStep then
    ({ s with stepCounter := s.stepCounter + stepsOf session }.resumeDriver,
      { session with state := .stepDriver })
  else if s.startsInitStep then
    ({ s with initStepRequested := true }.signalEvent, { session with state := .stepDriver })
  else (s, s.stepResponse .error session)

/-- The request that is in the container of a session; one that the source asserts not to come
stays there.
driverControlServer.cpp:143-193 -/
def processPayload (s : DriverControlServer) (session : DriverControlSession) :
    DriverControlServer × DriverControlSession :=
  match session.payloadContainer.driverControlCommand with
  | .pauseDriverRequest => s.handlePauseDriverRequest session
  | .resumeDriverRequest => s.handleResumeDriverRequest session
  | .queryDeviceClockModeRequest => (s, s.handleQueryDeviceClockModeRequest session)
  | .setDeviceClockModeRequest => s.handleSetDeviceClockModeRequest session
  | .queryDeviceClockRequest => (s, s.handleQueryDeviceClockRequest session)
  | .queryMaxDeviceClockRequest => (s, s.handleQueryMaxDeviceClockRequest session)
  | .queryNumGpusRequest =>
    (s, session.respond (queryNumGpusResponsePayload .success s.numGpus))
  | .queryDriverStatusRequest =>
    (s, session.respond (queryDriverStatusResponsePayload (s.statusFor session.version)))
  | .stepDriverRequest => s.handleStepDriverRequest session
  | .queryClientInfoRequest =>
    (s, session.respond (queryClientInfoResponsePayload s.clientInfo))
  | .queryDeviceClockByModeRequest => (s, s.handleQueryDeviceClockByModeRequest session)
  | .ignoreDriverRequest =>
    ({ s with isIgnored := true }, session.respond ignoreDriverResponsePayload)
  | _ => (s, session)

/-- A session that waits for its step is answered when the driver has come to a halt again.
driverControlServer.cpp:207-234 -/
def stepDone (s : DriverControlServer) : Bool :=
  (s.isHalted ∧ s.initStepRequested = false) ∨ (s.isDriverInitialized ∧ s.stepCounter = 0)

end DriverControlServer

end DevDriver.Model
