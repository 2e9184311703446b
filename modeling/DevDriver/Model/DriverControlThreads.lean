import DevDriver.Model.DriverControlServer

/-!
# The threads of the driver control server

The thread of the message channel handles the requests of all sessions, one after the other.  The
thread of the driver goes through the initialization phases and then ticks.
-/

namespace DevDriver.Model

open Library

/-- The functions of the server whose assertions are observed. -/
inductive AssertingFunction where
  | handleResumeDriverRequest
  | pauseDriver
  | resumeDriver
  | waitForResume
  deriving DecidableEq, Repr

inductive DriverControlEvent where
  | assertionFailed (function : AssertingFunction)
  | signalled
  | received (session : ℕ)
  | sent (session : ℕ) (bytes : List UInt8)
  | stepAccepted (session : ℕ) (count : ℤ)
  | initStepAccepted (session : ℕ)
  | ticked
  | halted
  | notHalted
  | waitEnded
  deriving DecidableEq, Repr

/-- An assertion. -/
def assertion (function : AssertingFunction) (condition : Bool) : List DriverControlEvent :=
  if condition then [] else [.assertionFailed function]

/-- The request that the thread of the message channel is in the middle of. -/
inductive RequestThread where
  | idle
  /-- a pause request found the driver running and is going to change its status -/
  | pausing (session : ℕ)
  /-- it is going to clear the event -/
  | clearing (session : ℕ)
  /-- a resume request found the driver halted or paused and is going to look at its status again -/
  | switching (session : ℕ)
  /-- it is going to call `ResumeDriver` -/
  | resuming (session : ℕ)
  /-- it is going to signal the event -/
  | signalling (session : ℕ)
  deriving DecidableEq, Repr

/-- The place of the driver thread in `AdvanceDriverInitState`, whose phase is `curr`, or in
`DriverTick`, which waits with no phase to go on from. -/
inductive DriverThread where
  | outside
  | discover (curr : DriverStatus)
  | search (curr : DriverStatus) (ret : Bool)
  | halt (curr : DriverStatus)
  | clear (curr : DriverStatus)
  | resetFlag (curr : DriverStatus)
  | enterWait (after : Option DriverStatus)
  | wait (after : Option DriverStatus)
  | advance (curr : DriverStatus)
  | readStatus
  deriving DecidableEq, Repr

/-- The status of a driver that halts at the end of a phase.
driverControlServer.cpp:656-670 -/
def DriverStatus.halted : DriverStatus → DriverStatus
  | .platformInit => .haltedOnPlatformInit
  | .earlyDeviceInit => .haltedOnDeviceInit
  | .lateDeviceInit => .haltedPostDeviceInit
  | status => status

/-- The status after a phase.
driverControlServer.cpp:628-643 -/
def DriverStatus.next (driverStatus : DriverStatus) : DriverStatus → DriverStatus
  | .platformInit => .earlyDeviceInit
  | .earlyDeviceInit => .lateDeviceInit
  | .lateDeviceInit => .running
  | _ => driverStatus

def DriverStatus.isPhase (driverStatus : DriverStatus) : Bool :=
  driverStatus = .platformInit ∨ driverStatus = .earlyDeviceInit ∨ driverStatus = .lateDeviceInit

def DriverThread.leave : Option DriverStatus → DriverThread
  | some curr => .advance curr
  | none => .outside

/-- The server with the places at which its two threads are. -/
structure DriverControlThreads where
  server : DriverControlServer
  sessions : ℕ → Option DriverControlSession
  nextSession : ℕ
  requestThread : RequestThread
  driverThread : DriverThread

/-- The steps.  A session is updated with what its protocol session answers to a receive and to a
send, and the driver thread goes on with the client that a search finds and with the timeout of a
wait that has run out or not. -/
inductive DriverControlAction where
  | setNumGpus (numGpus : ℕ)
  | setDeviceClockCallback (deviceClockCallbackInfo : DeviceClockCallbackInfo)
  | setDriverInitClientId (clientId : ClientId)
  | sessionEstablished (version : Version)
  | sessionTerminated (session : ℕ)
  | updateSession (session : ℕ) (receive : ReceiveAnswer) (send : Result)
  | continueRequest
  | advanceDriverInitState
  | driverTick
  | continueDriver (found : Option ClientId) (timedOut : Bool)

namespace DriverControlThreads

def setServer (server : DriverControlServer) (t : DriverControlThreads) : DriverControlThreads :=
  { t with server := server }

def setSession (r : ℕ) (session : DriverControlSession) (t : DriverControlThreads) :
    DriverControlThreads :=
  { t with sessions := Function.update t.sessions r (some session) }

def setRequestThread (requestThread : RequestThread) (t : DriverControlThreads) :
    DriverControlThreads :=
  { t with requestThread := requestThread }

def setDriverThread (driverThread : DriverThread) (t : DriverControlThreads) :
    DriverControlThreads :=
  { t with driverThread := driverThread }

def finishRequest (r : ℕ) (data : List UInt8) (t : DriverControlThreads) : DriverControlThreads :=
  match t.sessions r with
  | none => t.setRequestThread .idle
  | some session => (t.setSession r (session.respond data)).setRequestThread .idle

/-! ### Sessions -/

def sessionEstablished (version : Version) (t : DriverControlThreads) : DriverControlThreads :=
  { t.setSession t.nextSession (.new version) with
    nextSession := t.nextSession + 1
    server := { t.server with numSessions := t.server.numSessions + 1 } }

def sessionTerminated (r : ℕ) (t : DriverControlThreads) : DriverControlThreads :=
  { t with
    sessions := Function.update t.sessions r none
    server := { t.server with numSessions := t.server.numSessions - 1 } }

def stepEvents (s : DriverControlServer) (r : ℕ) (session : DriverControlSession) :
    List DriverControlEvent :=
  if s.startsStep then [.stepAccepted r (DriverControlServer.stepsOf session), .signalled]
  else if s.startsInitStep then [.initStepAccepted r, .signalled]
  else []

/-- A request is handled, or a pause or resume request begins to be.
driverControlServer.cpp:143-193, 253-302 -/
def processPayload (r : ℕ) (session : DriverControlSession) (t : DriverControlThreads) :
    DriverControlThreads × List DriverControlEvent :=
  match session.payloadContainer.driverControlCommand with
  | .pauseDriverRequest =>
    if t.server.driverStatus = .running then (t.setRequestThread (.pausing r), [])
    else (t.setSession r (session.respond (pauseDriverResponsePayload .error)), [])
  | .resumeDriverRequest =>
    if t.server.isHalted ∨ t.server.driverStatus = .paused then
      (t.setRequestThread (.switching r), [])
    else (t.setSession r (session.respond (resumeDriverResponsePayload .error)), [])
  | .stepDriverRequest =>
    ((t.setServer (t.server.handleStepDriverRequest session).1).setSession r
      (t.server.handleStepDriverRequest session).2, stepEvents t.server r session)
  | _ =>
    ((t.setServer (t.server.processPayload session).1).setSession r
      (t.server.processPayload session).2, [])

/-- driverControlServer.cpp:119-237 -/
def updateSession (r : ℕ) (session : DriverControlSession) (receive : ReceiveAnswer)
    (send : Result) (t : DriverControlThreads) : DriverControlThreads × List DriverControlEvent :=
  match session.state with
  | .receivePayload =>
    match receive with
    | .payload p =>
      (t.setSession r { session with
        payloadContainer := session.payloadContainer.fill p.1
        state := .processPayload }, [.received r])
    | .failure _ _ => (t, [])
  | .processPayload => t.processPayload r session
  | .sendPayload =>
    if send = .success then
      (t.setSession r { session with state := .receivePayload }, [.sent r session.sentBytes])
    else (t, [])
  | .stepDriver =>
    if t.server.stepDone then (t.setSession r (t.server.stepResponse .success session), [])
    else (t, [])

/-- The rest of a pause or of a resume request.
driverControlServer.cpp:253-302, 737-755 -/
def continueRequest (t : DriverControlThreads) :
    Option (DriverControlThreads × List DriverControlEvent) :=
  match t.requestThread with
  | .idle => none
  | .pausing r =>
    some ((t.setServer (t.server.setStatus .paused)).setRequestThread (.clearing r),
      assertion .pauseDriver (t.server.driverStatus = .running))
  | .clearing r =>
    some ((t.setServer t.server.clearEvent).finishRequest r
      (pauseDriverResponsePayload .success), [])
  | .switching r =>
    match t.server.driverStatus with
    | .haltedOnDeviceInit => some (t.setRequestThread (.signalling r), [])
    | .haltedOnPlatformInit => some (t.setRequestThread (.signalling r), [])
    | .haltedPostDeviceInit => some (t.setRequestThread (.resuming r), [])
    | .paused => some (t.setRequestThread (.resuming r), [])
    | _ =>
      some (t.finishRequest r (resumeDriverResponsePayload .error),
        [.assertionFailed .handleResumeDriverRequest])
  | .resuming r =>
    some ((t.setServer (t.server.setStatus .running)).setRequestThread (.signalling r),
      assertion .resumeDriver
        (t.server.isDriverInitialized && decide (t.server.driverStatus ≠ .running)))
  | .signalling r =>
    some ((t.setServer t.server.signalEvent).finishRequest r
      (resumeDriverResponsePayload .success), [.signalled])

/-- The locked section of `DriverTick`.
driverControlServer.cpp:763-775 -/
def driverTick (t : DriverControlThreads) : DriverControlThreads × List DriverControlEvent :=
  if t.server.isDriverInitialized ∧ 0 < t.server.stepCounter then
    let server := { t.server with stepCounter := t.server.stepCounter - 1 }
    if server.stepCounter = 0 then
      ((t.setServer server.pauseDriver).setDriverThread .readStatus,
        .ticked :: assertion .pauseDriver (t.server.driverStatus = .running))
    else ((t.setServer server).setDriverThread .readStatus, [.ticked])
  else (t.setDriverThread .readStatus, [.ticked])

/-- The rest of `DiscoverHaltRequests`: a client is looked for in the phases that can have one,
unless a step was requested or a client is known.
driverControlServer.cpp:692-731 -/
def searchClient (ret : Bool) (found : Option ClientId) (s : DriverControlServer) :
    Bool × DriverControlServer :=
  if s.initStepRequested = false ∧
      (s.driverStatus = .platformInit ∨ s.driverStatus = .earlyDeviceInit) then
    if s.driverInitClientId = kBroadcastClientId then
      match found with
      | none => (ret, s)
      | some clientId => (true, { s with driverInitClientId := clientId })
    else (true, s)
  else (ret, s)

/-- The driver thread goes on.
driverControlServer.cpp:618-732, 761-828 -/
def continueDriver (found : Option ClientId) (timedOut : Bool) (t : DriverControlThreads) :
    Option (DriverControlThreads × List DriverControlEvent) :=
  match t.driverThread with
  | .outside => none
  | .discover curr =>
    some (t.setDriverThread (.search curr t.server.initStepRequested), [])
  | .search curr ret =>
    let searched := searchClient ret found t.server
    if searched.1 then some ((t.setServer searched.2).setDriverThread (.halt curr), [])
    else some ((t.setServer searched.2).setDriverThread (.advance curr), [.notHalted])
  | .halt curr =>
    some ((t.setServer (t.server.setStatus t.server.driverStatus.halted)).setDriverThread
      (.clear curr), [.halted])
  | .clear curr =>
    some ((t.setServer t.server.clearEvent).setDriverThread (.resetFlag curr), [])
  | .resetFlag curr =>
    some ((t.setServer { t.server with initStepRequested := false }).setDriverThread
      (.enterWait (some curr)), [])
  | .enterWait after =>
    some (t.setDriverThread (.wait after), assertion .waitForResume
      (t.server.isHalted || decide (t.server.driverStatus = .paused)))
  | .wait after =>
    if t.server.driverResumedEvent ∨ (t.server.numSessions = 0 ∧ timedOut) then
      some (t.setDriverThread (.leave after), [.waitEnded])
    else some (t, [])
  | .advance curr =>
    some ((t.setServer (t.server.setStatus (t.server.driverStatus.next curr))).setDriverThread
      .outside, [])
  | .readStatus =>
    if t.server.driverStatus = .paused then some (t.setDriverThread (.enterWait none), [])
    else some (t.setDriverThread .outside, [])

/-- The sessions are established, updated and terminated by the thread that handles the requests,
and the driver starts a phase in the status that `StartEarlyDeviceInit`, `StartLateDeviceInit` or
`FinishDeviceInit` asserts. -/
def step (t : DriverControlThreads) :
    DriverControlAction → Option (DriverControlThreads × List DriverControlEvent)
  | .setNumGpus numGpus => some (t.setServer (t.server.setNumGpus numGpus), [])
  | .setDeviceClockCallback deviceClockCallbackInfo =>
    some (t.setServer { t.server with deviceClockCallbackInfo := deviceClockCallbackInfo }, [])
  | .setDriverInitClientId clientId =>
    some (t.setServer { t.server with driverInitClientId := clientId }, [])
  | .sessionEstablished version =>
    if t.requestThread = .idle then some (t.sessionEstablished version, []) else none
  | .sessionTerminated r =>
    if t.requestThread = .idle ∧ (t.sessions r).isSome then some (t.sessionTerminated r, [])
    else none
  | .updateSession r receive send =>
    if t.requestThread = .idle then
      (t.sessions r).map fun session => t.updateSession r session receive send
    else none
  | .continueRequest => t.continueRequest
  | .advanceDriverInitState =>
    if t.driverThread = .outside ∧ t.server.driverStatus.isPhase then
      some (t.setDriverThread (.discover t.server.driverStatus), [])
    else none
  | .driverTick => if t.driverThread = .outside then some t.driverTick else none
  | .continueDriver found timedOut => t.continueDriver found timedOut

def new (clientInfo : ClientInfoStruct) : DriverControlThreads :=
  ⟨.new clientInfo, fun _ => none, 0, .idle, .outside⟩

end DriverControlThreads

/-- A driver control server, a single access of one of its threads at a time. -/
def driverControlMachine :
    Machine DriverControlThreads DriverControlAction (List DriverControlEvent) where
  init t := ∃ clientInfo, t = .new clientInfo
  step t a := t.step a

end DevDriver.Model
