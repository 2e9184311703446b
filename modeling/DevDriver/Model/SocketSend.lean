import DevDriver.Model.SizePrefix

/-!
# Sending through a socket in time

The send calls of ddSocket.cpp once more, with their timeouts, and with all that they hand to their
session: a slice of the data is where it starts and its size.
-/

namespace DevDriver.Model

namespace TimedSocket

/-- An answer of `ISession::Send`, and the milliseconds that the call has taken until then. -/
structure TimedAnswer where
  result : Result
  elapsedTime : ℕ

structure SessionSend where
  offset : ℕ
  size : ℕ
  result : Result
  deriving DecidableEq

def SessionSend.shift (start : ℕ) (s : SessionSend) : SessionSend :=
  { s with offset := start + s.offset }

structure TimedSend where
  result : DDResult
  /-- the bytes sent, which the caller learns on success only -/
  bytesSent : ℕ
  sends : List SessionSend
  answers : List TimedAnswer

/-- The end of `ddSocketSendRaw`.
ddSocket.cpp:338-347 -/
def finishSend (result : DDResult) (bytesSent : ℕ) (sends : List SessionSend)
    (answers : List TimedAnswer) : TimedSend :=
  ⟨if 0 < bytesSent ∧ result = .genericNotReady then .success else result,
    bytesSent, sends, answers⟩

/-- The loop of `ddSocketSendRaw`.  The sizes are of type `size_t`, and cut to 32 bits.
ddSocket.cpp:314-336 -/
def sendRawLoop (dataSize : ℕ) :
    List TimedAnswer → ℕ → UInt32 → List SessionSend → Option TimedSend
  | answers, bytesSent, timeoutRemaining, sends =>
    let bytesRemaining := dataSize - bytesSent
    if 0 < bytesRemaining then
      match answers with
      | [] => none
      | answer :: answers =>
        let bytesToSend := min (bytesRemaining % 2 ^ 32) kMaxPayloadSizeInBytes
        let sends := sends ++ [⟨bytesSent, bytesToSend, answer.result⟩]
        if answer.result = .success then
          let bytesSent := bytesSent + bytesToSend
          if answer.elapsedTime < timeoutRemaining.toNat then
            sendRawLoop dataSize answers bytesSent
              (timeoutRemaining - UInt32.ofNat answer.elapsedTime) sends
          else if 0 < dataSize - bytesSent then
            some (finishSend .genericNotReady bytesSent sends answers)
          else some (finishSend .success bytesSent sends answers)
        else some (finishSend (devDriverToDDResult answer.result) bytesSent sends answers)
    else some (finishSend .success bytesSent sends answers)

/-- `ddSocketSendRaw`, or nothing while it waits for the session's answer.
ddSocket.cpp:280-351 -/
def ddSocketSendRaw (answers : List TimedAnswer) (dataSize : ℕ) (timeoutInMs : UInt32) :
    Option TimedSend :=
  sendRawLoop dataSize answers 0 timeoutInMs []

/-- The loop of `ddSocketSendWithTimeout`, where `pBytes` points behind the first `offset` bytes of
the data.  A round takes an answer or is the last one, so one round more than there are answers is
enough.
ddSocket.cpp:493-514 -/
def sendLoop (timeoutMillis : UInt32) :
    ℕ → ℕ → ℕ → ℕ → List TimedAnswer → List SessionSend → Option (DDResult × List SessionSend)
  | 0, _, _, _, _, _ => none
  | rounds + 1, retryCount, offset, bytesLeft, answers, sends =>
    if 0 < bytesLeft then
      (ddSocketSendRaw answers bytesLeft timeoutMillis).bind fun r =>
        let sends := sends ++ r.sends.map (SessionSend.shift offset)
        if r.result = .success then
          sendLoop timeoutMillis rounds retryCount (offset + r.bytesSent) (bytesLeft - r.bytesSent)
            r.answers sends
        else if r.result = .genericNotReady ∧ retryCount < kMaxRetryCount then
          sendLoop timeoutMillis rounds (retryCount + 1) offset bytesLeft r.answers sends
        else some (r.result, sends)
    else some (.success, sends)

def kRetryTimeoutMs : UInt32 := 250

/-- Its result and the calls of `ISession::Send`.
ddSocket.cpp:481-517 -/
def ddSocketSendWithTimeout (answers : List TimedAnswer) (dataSize : ℕ) (timeoutMillis : UInt32) :
    Option (DDResult × List SessionSend) :=
  sendLoop (if timeoutMillis = 0 then kRetryTimeoutMs else timeoutMillis) (answers.length + 1) 0 0
    dataSize answers []

end TimedSocket

end DevDriver.Model
