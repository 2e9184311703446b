import DevDriver.Library.Buffer
import DevDriver.Library.Machine
import DevDriver.Model.Message

/-!
# Receiving through a socket

The client sockets of ddSocket.cpp.  A socket turns the payloads of its session into a stream of
bytes: what a caller's buffer has no room for waits in the payload cache.
-/

namespace DevDriver.Model

open Library

/-- ddApi.h. -/
structure DDResult where
  code : Int32
  deriving DecidableEq, Repr

namespace DDResult

def unknown : DDResult := ⟨0⟩
def success : DDResult := ⟨1⟩
def commonInvalidParameter : DDResult := ⟨12⟩
def commonOutOfHeapMemory : DDResult := ⟨13⟩
def commonBufferTooSmall : DDResult := ⟨14⟩
def commonVersionMismatch : DDResult := ⟨15⟩
def commonUnsupported : DDResult := ⟨20⟩
def genericNotReady : DDResult := ⟨10102⟩
def genericVersionMismatch : DDResult := ⟨10103⟩
def genericUnavailable : DDResult := ⟨10104⟩
def genericRejected : DDResult := ⟨10105⟩
def genericEndOfStream : DDResult := ⟨10106⟩
def genericInsufficientMemory : DDResult := ⟨10108⟩
def genericEntryExists : DDResult := ⟨10115⟩

end DDResult

/-- `DevDriverToDDResult` on the results a session returns.
ddCommon.cpp:366-428 -/
def devDriverToDDResult : Result → DDResult
  | .success => .success
  | .error => .unknown
  | .notReady => .genericNotReady
  | .versionMismatch => .genericVersionMismatch
  | .unavailable => .genericUnavailable
  | .rejected => .genericRejected
  | .endOfStream => .genericEndOfStream
  | .insufficientMemory => .genericInsufficientMemory
  | .entryExists => .genericEntryExists
  | .code _ => .unknown

/-- A payload of a session. -/
abbrev SessionPayload := { bytes : List UInt8 // bytes.length ≤ kMaxPayloadSizeInBytes }

/-- An answer of `ISession::Receive` to a buffer of `kMaxPayloadSizeInBytes` bytes. -/
inductive ReceiveAnswer where
  | payload (p : SessionPayload)
  | failure (r : Result) (hfailure : r ≠ .success)

def ReceiveAnswer.notReady : ReceiveAnswer := .failure .notReady Result.notReady_ne_success

def ReceiveAnswer.bytes : ReceiveAnswer → List UInt8
  | .payload p => p.1
  | .failure _ _ => []

def payloadBytes (answers : List ReceiveAnswer) : List UInt8 := answers.flatMap (·.bytes)

/-! ## The socket -/

structure ClientSocketContext where
  payloadCacheOffset : ℕ
  payloadCacheSize : ℕ
  payloadCache : List UInt8

/-- A new socket; its cache holds whatever the memory held. -/
def ClientSocketContext.new (payloadCache : List UInt8) : ClientSocketContext :=
  ⟨0, 0, payloadCache⟩

def ClientSocketContext.cached (c : ClientSocketContext) : List UInt8 :=
  slice c.payloadCache c.payloadCacheOffset c.payloadCacheSize

structure SocketReceive where
  context : ClientSocketContext
  answers : List ReceiveAnswer
  buffer : List UInt8
  result : DDResult
  bytesReceived : ℕ

/-- The first part of `ddSocketReceiveRaw`: cached bytes are copied to the front of the buffer.
The last component is `bytesReceived`.
ddSocket.cpp:384-402 -/
def receiveCached (buffer : List UInt8) (c : ClientSocketContext) :
    ClientSocketContext × List UInt8 × ℕ :=
  if 0 < buffer.length ∧ 0 < c.payloadCacheSize then
    let bytesToReceive := min buffer.length c.payloadCacheSize
    ({ c with
        payloadCacheOffset := c.payloadCacheOffset + bytesToReceive
        payloadCacheSize := c.payloadCacheSize - bytesToReceive },
      overwrite buffer 0 (slice c.payloadCache c.payloadCacheOffset bytesToReceive),
      bytesToReceive)
  else (c, buffer, 0)

/-- The copy of a payload that was received into the cache.
ddSocket.cpp:434-447 -/
def receiveThroughCache (p : SessionPayload) (buffer : List UInt8) (bytesReceived : ℕ)
    (c : ClientSocketContext) : ClientSocketContext × List UInt8 × ℕ :=
  let payloadCache := overwrite c.payloadCache 0 p.1
  let payloadCacheSize := c.payloadCacheSize + p.1.length
  let bytesToReceive := min (buffer.length - bytesReceived) payloadCacheSize
  (⟨bytesToReceive, payloadCacheSize - bytesToReceive, payloadCache⟩,
    overwrite buffer bytesReceived (payloadCache.take bytesToReceive),
    bytesReceived + bytesToReceive)

/-- `ddSocketReceiveRaw`, or nothing while it waits for the session's answer.
ddSocket.cpp:353-469 -/
def ddSocketReceiveRaw (answers : List ReceiveAnswer) (buffer : List UInt8)
    (c : ClientSocketContext) : Option SocketReceive :=
  let (c, buffer, bytesReceived) := receiveCached buffer c
  let bytesRemaining := buffer.length - bytesReceived
  if kMaxPayloadSizeInBytes ≤ bytesRemaining then
    match answers with
    | [] => none
    | .failure r _ :: answers =>
      some ⟨c, answers, buffer, devDriverToDDResult r, bytesReceived⟩
    | .payload p :: answers =>
      some ⟨c, answers, overwrite buffer bytesReceived p.1, .success,
        bytesReceived + p.1.length⟩
  else if 0 < bytesRemaining then
    match answers with
    | [] => none
    | .failure r _ :: answers =>
      some ⟨c, answers, buffer, devDriverToDDResult r, bytesReceived⟩
    | .payload p :: answers =>
      let (c, buffer, bytesReceived) := receiveThroughCache p buffer bytesReceived c
      some ⟨c, answers, buffer, .success, bytesReceived⟩
  else some ⟨c, answers, buffer, .success, bytesReceived⟩

def kMaxRetryCount : ℕ := 8

/-- The loop of `ddSocketReceiveWithTimeout`, where `pBytes` points behind the first `filled`
bytes of the buffer.  A round takes an answer or fills the buffer, so two rounds more than there
are answers are enough.
ddSocket.cpp:543-562 -/
def receiveLoop : ℕ → ℕ → ℕ → List ReceiveAnswer → List UInt8 → ClientSocketContext →
    Option SocketReceive
  | 0, _, _, _, _, _ => none
  | rounds + 1, retryCount, filled, answers, buffer, c =>
    if buffer.length ≤ filled then some ⟨c, answers, buffer, .success, filled⟩
    else
      match ddSocketReceiveRaw answers (buffer.drop filled) c with
      | none => none
      | some r =>
        let buffer := buffer.take filled ++ r.buffer
        if r.result = .success then
          receiveLoop rounds retryCount (filled + r.bytesReceived) r.answers buffer r.context
        else if r.result = .genericNotReady ∧ retryCount < kMaxRetryCount then
          receiveLoop rounds (retryCount + 1) filled r.answers buffer r.context
        else some ⟨r.context, r.answers, buffer, r.result, filled⟩

/-- `ddSocketReceiveWithTimeout`, and `ddSocketReceive`, which is this call with a timeout of
its own.
ddSocket.cpp:517-565 -/
def ddSocketReceiveWithTimeout (answers : List ReceiveAnswer) (buffer : List UInt8)
    (c : ClientSocketContext) : Option SocketReceive :=
  receiveLoop (answers.length + 2) 0 0 answers buffer c

/-- The calls that receive from a socket. -/
inductive ReceiveCall where
  | raw (buffer : List UInt8)
  | withTimeout (buffer : List UInt8)

def ReceiveCall.perform (answers : List ReceiveAnswer) (c : ClientSocketContext) :
    ReceiveCall → Option SocketReceive
  | .raw buffer => ddSocketReceiveRaw answers buffer c
  | .withTimeout buffer => ddSocketReceiveWithTimeout answers buffer c

def SocketReceive.reported (r : SocketReceive) : List UInt8 :=
  if r.result = .success then r.buffer.take r.bytesReceived else []

/-- A socket, the answers its session is going to give, and what its calls have reported. -/
structure SocketState where
  context : ClientSocketContext
  answers : List ReceiveAnswer
  reported : List UInt8

/-- A client socket with its cache. -/
def socketMachine : Machine SocketState ReceiveCall DDResult where
  init s := s.reported = [] ∧ ∃ payloadCache : List UInt8,
    payloadCache.length = kMaxPayloadSizeInBytes ∧ s.context = .new payloadCache
  step s call := (call.perform s.answers s.context).map fun r =>
    (⟨r.context, r.answers, s.reported ++ r.reported⟩, r.result)

end DevDriver.Model
