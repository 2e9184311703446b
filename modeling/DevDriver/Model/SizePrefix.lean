import DevDriver.Model.Socket

/-!
# Messages with a size prefix

How ddSocket.cpp puts messages on the byte stream of a socket and takes them off it again: eight
bytes with the size, then the bytes of the message, each of the two with a send or receive call of
its own.
-/

namespace DevDriver.Model

open Library

/-! ## Sending -/

/-- What `ISession::Send` answers, and whether the time that has passed is less than the timeout
that remains. -/
structure SendAnswer where
  result : Result
  inTime : Bool

structure SocketSend where
  answers : List SendAnswer
  payloads : List SessionPayload
  result : DDResult
  /-- the bytes sent, which the caller learns on success only -/
  bytesSent : ℕ

/-- The bytes behind the first `bytesSent` ones that go into the next payload.
ddSocket.cpp:315-316 -/
def nextPayload (data : List UInt8) (bytesSent : ℕ) : SessionPayload :=
  ⟨(data.drop bytesSent).take (min ((data.length - bytesSent) % 2 ^ 32) kMaxPayloadSizeInBytes),
    (List.length_take_le _ _).trans (Nat.min_le_right _ _)⟩

/-- The loop of `ddSocketSendRaw`; nothing while it waits for the session.
ddSocket.cpp:313-337 -/
def sendRawLoop (data : List UInt8) : ℕ → List SessionPayload → List SendAnswer → Option SocketSend
  | bytesSent, payloads, [] =>
    if bytesSent < data.length then none else some ⟨[], payloads, .success, bytesSent⟩
  | bytesSent, payloads, a :: answers =>
    if bytesSent < data.length then
      if a.result = .success then
        let p := nextPayload data bytesSent
        let bytesSent := bytesSent + p.1.length
        if a.inTime ∨ data.length ≤ bytesSent then
          sendRawLoop data bytesSent (payloads ++ [p]) answers
        else some ⟨answers, payloads ++ [p], .genericNotReady, bytesSent⟩
      else some ⟨answers, payloads, devDriverToDDResult a.result, bytesSent⟩
    else some ⟨a :: answers, payloads, .success, bytesSent⟩

def ddSocketSendRaw (answers : List SendAnswer) (data : List UInt8) : Option SocketSend :=
  (sendRawLoop data 0 [] answers).map fun r =>
    if 0 < r.bytesSent ∧ r.result = .genericNotReady then { r with result := .success } else r

/-- The loop of `ddSocketSendWithTimeout` on the bytes that are left.  A round takes an answer or
has sent everything, so one round more than there are answers is enough.
ddSocket.cpp:491-511 -/
def sendLoop : ℕ → ℕ → List UInt8 → List SessionPayload → List SendAnswer → Option SocketSend
  | 0, _, _, _, _ => none
  | rounds + 1, retryCount, data, payloads, answers =>
    if data = [] then some ⟨answers, payloads, .success, 0⟩
    else
      match ddSocketSendRaw answers data with
      | none => none
      | some r =>
        let payloads := payloads ++ r.payloads
        if r.result = .success then
          sendLoop rounds retryCount (data.drop r.bytesSent) payloads r.answers
        else if r.result = .genericNotReady ∧ retryCount < kMaxRetryCount then
          sendLoop rounds (retryCount + 1) data payloads r.answers
        else some ⟨r.answers, payloads, r.result, 0⟩

def ddSocketSend (answers : List SendAnswer) (data : List UInt8) : Option SocketSend :=
  sendLoop (answers.length + 1) 0 data [] answers

/-- `sizeof(sizePrefix)`. -/
abbrev kSizePrefixSize : ℕ := 8

def ddSocketSendWithSizePrefix (answers : List SendAnswer) (data : List UInt8) :
    Option SocketSend :=
  (ddSocketSend answers (leBytes kSizePrefixSize data.length)).bind fun r =>
    if r.result = .success then
      (ddSocketSend r.answers data).map fun r' =>
        { r' with payloads := r.payloads ++ r'.payloads }
    else some r

/-- `SIZE_MAX`, for 64-bit addresses. -/
def kSizeMax : ℕ := 2 ^ 64 - 1

structure PrefixReceive where
  context : ClientSocketContext
  answers : List ReceiveAnswer
  buffer : List UInt8
  result : DDResult
  sizePrefix : Option ℕ

/-- `ddSocketReceiveWithSizePrefix` and `ddSocketReceiveWithSizePrefixWithTimeout`, which differ in
the timeout of the first receive only.
ddSocket.cpp:585-668 -/
def ddSocketReceiveWithSizePrefix (answers : List ReceiveAnswer) (buffer : List UInt8)
    (c : ClientSocketContext) : Option PrefixReceive :=
  (ddSocketReceiveWithTimeout answers (List.replicate kSizePrefixSize 0) c).bind fun r =>
    if r.result = .success then
      let sizePrefix := leNat r.buffer
      if sizePrefix ≤ kSizeMax then
        if sizePrefix ≤ buffer.length then
          (ddSocketReceiveWithTimeout r.answers (buffer.take sizePrefix) r.context).map fun r' =>
            ⟨r'.context, r'.answers, r'.buffer ++ buffer.drop sizePrefix, r'.result,
              if r'.result = .success then some sizePrefix else none⟩
        else some ⟨r.context, r.answers, buffer, .commonBufferTooSmall, none⟩
      else some ⟨r.context, r.answers, buffer, .commonUnsupported, none⟩
    else some ⟨r.context, r.answers, buffer, r.result, none⟩

def PrefixReceive.message (r : PrefixReceive) : Option (List UInt8) :=
  r.sizePrefix.map r.buffer.take

structure PrefixState where
  context : ClientSocketContext
  answers : List ReceiveAnswer

/-- A new socket and any receive calls for messages on it, each with the buffer it is to fill; a
step gives the result and the message that is returned. -/
def prefixMachine : Machine PrefixState (List UInt8) (DDResult × Option (List UInt8)) where
  init s := ∃ payloadCache : List UInt8,
    payloadCache.length = kMaxPayloadSizeInBytes ∧ s.context = .new payloadCache
  step s buffer := (ddSocketReceiveWithSizePrefix s.answers buffer s.context).map fun r =>
    (⟨r.context, r.answers⟩, r.result, r.message)

end DevDriver.Model
