import DevDriver.Model.DriverControlThreads
import DevDriver.Model.ProtocolClient

/-!
# The driver control client

The calls of `DriverControlClient` of driverControlClient.cpp that send one request each, and the
session of a driver control server that they talk to.
-/

namespace DevDriver.Model

open Library

def driverControlQueryByModeBackCompatVersion : Version := 7
def driverControlIgnoreDriverVersion : Version := 9

/-- The calls.  `queryDeviceClock` is the one without a mode. -/
inductive DriverControlCall where
  | pauseDriver
  | resumeDriver
  | stepDriver (numSteps : UInt32)
  | advanceDriverState
  | queryNumGpus
  | queryDeviceClockMode (gpuIndex : UInt32)
  | queryClientInfo
  | setDeviceClockMode (gpuIndex clockMode : UInt32)
  | queryDeviceClockByMode (gpuIndex clockMode : UInt32)
  | queryDeviceClock (gpuIndex : UInt32)
  | queryDriverStatus
  | ignoreDriver
  deriving DecidableEq

namespace DriverControlCall

/-- A call leads to its request in a session of a version.
driverControlClient.cpp:86-520 -/
def issues (version : Version) : DriverControlCall → Bool
  | .stepDriver numSteps => 0 < numSteps
  | .advanceDriverState => driverControlStepReturnStatusVersion ≤ version
  | .queryClientInfo => driverControlQueryClientInfoVersion ≤ version
  | .queryDeviceClockByMode _ _ => driverControlQueryByModeBackCompatVersion ≤ version
  | .ignoreDriver => driverControlIgnoreDriverVersion ≤ version
  | _ => true

def requestCommand : DriverControlCall → DriverControlMessage
  | .pauseDriver => .pauseDriverRequest
  | .resumeDriver => .resumeDriverRequest
  | .stepDriver _ => .stepDriverRequest
  | .advanceDriverState => .stepDriverRequest
  | .queryNumGpus => .queryNumGpusRequest
  | .queryDeviceClockMode _ => .queryDeviceClockModeRequest
  | .queryClientInfo => .queryClientInfoRequest
  | .setDeviceClockMode _ _ => .setDeviceClockModeRequest
  | .queryDeviceClockByMode _ _ => .queryDeviceClockByModeRequest
  | .queryDeviceClock _ => .queryDeviceClockRequest
  | .queryDriverStatus => .queryDriverStatusRequest
  | .ignoreDriver => .ignoreDriverRequest

def responseCommand (version : Version) : DriverControlCall → DriverControlMessage
  | .pauseDriver => .pauseDriverResponse
  | .resumeDriver => .resumeDriverResponse
  | .stepDriver _ =>
    if driverControlStepReturnStatusVersion ≤ version then .stepDriverResponseV2
    else .stepDriverResponse
  | .advanceDriverState => .stepDriverResponseV2
  | .queryNumGpus => .queryNumGpusResponse
  | .queryDeviceClockMode _ => .queryDeviceClockModeResponse
  | .queryClientInfo => .queryClientInfoResponse
  | .setDeviceClockMode _ _ => .setDeviceClockModeResponse
  | .queryDeviceClockByMode _ _ => .queryDeviceClockByModeResponse
  | .queryDeviceClock _ => .queryDeviceClockResponse
  | .queryDriverStatus => .queryDriverStatusResponse
  | .ignoreDriver => .ignoreDriverResponse

def requestFields : DriverControlCall → List UInt8
  | .stepDriver numSteps => leBytes 4 numSteps.toNat
  | .advanceDriverState => leBytes 4 1
  | .queryDeviceClockMode gpuIndex => leBytes 4 gpuIndex.toNat
  | .setDeviceClockMode gpuIndex clockMode =>
    leBytes 4 gpuIndex.toNat ++ leBytes 4 clockMode.toNat
  | .queryDeviceClockByMode gpuIndex clockMode =>
    leBytes 4 gpuIndex.toNat ++ leBytes 4 clockMode.toNat
  | .queryDeviceClock gpuIndex => leBytes 4 gpuIndex.toNat
  | _ => []

def hasResult : DriverControlCall → Bool
  | .queryClientInfo => false
  | .queryDriverStatus => false
  | .ignoreDriver => false
  | _ => true

def container (call : DriverControlCall) : SizedPayloadContainer :=
  .fill (driverControlHeader call.requestCommand ++ call.requestFields) .zero

/-- The bytes that `SendDriverControlPayload` sends.
driverControlClient.cpp:505-516 -/
def sentBytes (version : Version) (call : DriverControlCall) : List UInt8 :=
  readBytes (if driverControlQueryClientInfoVersion ≤ version then call.container.payloadSize
    else kLegacyDriverControlPayloadSize) call.container.payload

/-- What the call returns when it has received a payload into its container.
driverControlClient.cpp:28-58 -/
def result (version : Version) (call : DriverControlCall) (bytes : List UInt8) : Result :=
  let response := call.container.fill bytes
  if response.driverControlCommand = call.responseCommand version then
    if call.hasResult then response.result else .success
  else .error

end DriverControlCall

/-- `DriverControlClient` in a session of a version.
driverControlClient.cpp:505-541 -/
def driverControlClient (version : Version) (timeoutInMs retryInMs : UInt32) :
    ProtocolClient DriverControlCall where
  issues := DriverControlCall.issues version
  request call := ⟨call.sentBytes version, by
    rw [DriverControlCall.sentBytes, readBytes, List.length_ofFn]
    exact min_le_right _ _⟩
  bufferSize _ := kMaxPayloadSizeInBytes
  result := DriverControlCall.result version
  timeoutInMs _ := timeoutInMs
  retryInMs _ := retryInMs

def takesPayload (r : ℕ) (t : DriverControlThreads) : DriverControlAction → Bool
  | .updateSession r' (.payload _) _ =>
    r' = r ∧ (t.sessions r).any fun session => session.state = .receivePayload
  | _ => false

def payloadSentTo (r : ℕ) (es : List DriverControlEvent) : Option (List UInt8) :=
  es.findSome? fun
    | .sent r' bytes => if r' = r then some bytes else none
    | _ => none

/-- The server of one session: all threads, where a payload that the session receives is one that
its client sent. -/
def driverControlSessionServer (r : ℕ) :
    SessionServer DriverControlThreads DriverControlAction where
  receive p t :=
    if takesPayload r t (.updateSession r (.payload p) .success) then
      (t.step (.updateSession r (.payload p) .success)).map Prod.fst
    else none
  step a t :=
    if takesPayload r t a then none else (t.step a).map fun x => (x.1, payloadSentTo r x.2)

/-- A client and a server whose session has just been established, whatever the server has done
before. -/
def driverControlLinkMachine (version : Version) (r : ℕ) (timeoutInMs retryInMs : UInt32) :
    Machine (ClientLink DriverControlCall DriverControlThreads)
      (ClientLinkAction DriverControlCall DriverControlAction)
      (Option (Returned DriverControlCall)) :=
  clientLinkMachine (driverControlSessionServer r)
    (driverControlClient version timeoutInMs retryInMs)
    fun t => driverControlMachine.Reachable t ∧ t.sessions r = some (.new version)

end DevDriver.Model
