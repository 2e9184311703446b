import DevDriver.Library.Dialogue
import DevDriver.Model.TransferProtocol
import DevDriver.Model.Socket

/-!
# The client side of the transfer protocol

`TransferClient` of ddTransferClient.cpp with the retries of `LegacyProtocolClient`.  A call is a
dialogue with the protocol session: it sends payloads, each answered with what `Send` returns, and
takes the answers of `Receive`.
-/

namespace DevDriver.Model

open Library

abbrev TransferDialogue := Dialogue (List UInt8) Result ReceiveAnswer

/-- `g_timeoutConstants`; `TimeoutConstantsInitialize` never sets a timeout to zero. -/
structure TimeoutConstants where
  retryTimeoutInMs : ℕ
  communicationTimeoutInMs : ℕ
  retry_pos : 0 < retryTimeoutInMs

def kTransferChunkTimeoutInMs : ℕ := 3000

def kInvalidBlockId : BlockId := 0

def sendRounds (payload : List UInt8) : ℕ → TransferDialogue Result
  | 0 => .done .notReady
  | rounds + 1 => .send payload fun r =>
    if r = .notReady then sendRounds payload rounds else .done r

/-- `SendSizedPayload`.  It tries once more as long as no more than the timeout has passed.
legacyProtocolClient.h:102-119 -/
def sendSizedPayload (payload : List UInt8) (timeoutInMs retryInMs : ℕ) :
    TransferDialogue Result :=
  sendRounds payload (timeoutInMs / retryInMs + 1)

def receiveRounds (container : SizedPayloadContainer) :
    ℕ → TransferDialogue (Result × SizedPayloadContainer)
  | 0 => .done (.notReady, container)
  | rounds + 1 => .receive fun
    | .payload p => .done (.success, container.fill p.1)
    | .failure r _ =>
      if r = .notReady then receiveRounds container rounds else .done (r, container)

/-- `ReceiveSizedPayload` into a container.
legacyProtocolClient.h:59-81 -/
def receiveSizedPayload (container : SizedPayloadContainer) (timeoutInMs retryInMs : ℕ) :
    TransferDialogue (Result × SizedPayloadContainer) :=
  receiveRounds container (timeoutInMs / retryInMs + 1)

/-- `TransferState` of a client, ddTransferClient.h. -/
inductive TransferClientState where
  | idle
  | transferInProgress
  | error
  deriving DecidableEq, Repr

/-- The fields of a `TransferClient` that a transfer changes. -/
structure ClientTransferContext where
  state : TransferClientState
  type : TransferType
  totalBytes : ℕ
  crc32 : UInt32
  dataChunkSizeInBytes : ℕ
  dataChunkBytesTransfered : ℕ
  scratchPayload : SizedPayloadContainer

namespace ClientTransferContext

def zero : ClientTransferContext := ⟨.idle, .pull, 0, 0, 0, 0, .zero⟩

def start (totalBytes : ℕ) (context : ClientTransferContext) : ClientTransferContext :=
  { context with
    state := .transferInProgress
    totalBytes := totalBytes
    crc32 := 0
    dataChunkSizeInBytes := 0
    dataChunkBytesTransfered := 0 }

/-- The context after a chunk was received into its scratch container.
ddTransferClient.cpp:173-187 -/
def takeChunk (context : ClientTransferContext) : ClientTransferContext :=
  let receivedSize := sub64 context.scratchPayload.payloadSize 4
  let payloadSize := min receivedSize kMaxTransferDataChunkSize
  let adjustedPayloadSize := min payloadSize context.totalBytes
  { context with
    dataChunkSizeInBytes := adjustedPayloadSize
    dataChunkBytesTransfered := 0
    totalBytes := context.totalBytes - adjustedPayloadSize
    crc32 := CRC32 (context.scratchPayload.chunkData.take adjustedPayloadSize) context.crc32 }

def copyChunk (bytes : ℕ) (context : ClientTransferContext) :
    List UInt8 × ClientTransferContext :=
  (slice context.scratchPayload.chunkData context.dataChunkBytesTransfered bytes,
    { context with dataChunkBytesTransfered := context.dataChunkBytesTransfered + bytes })

def offerChunk (data : List UInt8) (context : ClientTransferContext) :
    ClientTransferContext :=
  { context with
    crc32 := CRC32 data context.crc32
    scratchPayload := context.scratchPayload.fill (transferDataChunk data) }

end ClientTransferContext

structure TransferClient where
  timeouts : TimeoutConstants
  version : Version

/-- A client with the default timeouts.
dd_timeout_constants.cpp:5-11 -/
def defaultClient (version : Version) : TransferClient := ⟨⟨50, 5000, by decide⟩, version⟩

namespace TransferClient

variable (client : TransferClient)

/-- `SendTransferPayload`, with the communication timeout that every caller gives it.
ddTransferClient.cpp:400-412 -/
def sendTransferPayload (container : SizedPayloadContainer) : TransferDialogue Result :=
  sendSizedPayload (container.sentBytes client.version)
    client.timeouts.communicationTimeoutInMs client.timeouts.retryTimeoutInMs

def receiveTransferPayload (container : SizedPayloadContainer) (timeoutInMs : ℕ) :
    TransferDialogue (Result × SizedPayloadContainer) :=
  receiveSizedPayload container timeoutInMs client.timeouts.retryTimeoutInMs

def transactTransferPayload (container : SizedPayloadContainer) :
    TransferDialogue (Result × SizedPayloadContainer) := do
  let result ← client.sendTransferPayload container
  if result = .success then
    client.receiveTransferPayload container client.timeouts.communicationTimeoutInMs
  else pure (result, container)

/-! ## Pull transfers -/

/-- `RequestPullTransfer`, with the size that it hands to the caller, if any.  A session of the
refactored version says nothing about the type of the transfer.
ddTransferClient.cpp:41-102 -/
def requestPullTransfer (blockId : BlockId) (context : ClientTransferContext) :
    TransferDialogue (Result × ClientTransferContext × Option ℕ) :=
  if context.state = .idle then do
    let (result, container) ← client.transactTransferPayload
      (SizedPayloadContainer.zero.fill (transferRequest blockId .pull 0))
    if result = .success ∧ container.command = .transferDataHeader then
      if transferRefactorVersion ≤ client.version then
        pure (result, context.start container.headerV2SizeInBytes,
          some container.headerV2SizeInBytes)
      else if container.result = .success then
        pure (.success, { context.start container.headerSizeInBytes with type := .pull },
          some container.headerSizeInBytes)
      else pure (.error, { context with state := .error }, none)
    else pure (.error, { context with state := .error }, none)
  else pure (.error, context, none)

/-- The end of the data was reached: the sentinel is received and looked at.
ddTransferClient.cpp:192-215 -/
def receivePullSentinel (context : ClientTransferContext) :
    TransferDialogue (Result × ClientTransferContext) := do
  let (result, sentinel) ← client.receiveTransferPayload .zero kTransferChunkTimeoutInMs
  if result ≠ .success ∨ sentinel.command ≠ .transferDataSentinel ∨
      sentinel.result ≠ .success then
    pure (result, { context with state := .error })
  else if transferRefactorVersion ≤ client.version ∧ sentinel.sentinelCrc32 ≠ context.crc32 then
    pure (result, { context with state := .error })
  else pure (result, context)

/-- A chunk is received, and the sentinel after the last one.
ddTransferClient.cpp:156-224 -/
def receivePullChunk (context : ClientTransferContext) :
    TransferDialogue (Result × ClientTransferContext) := do
  let (result, scratchPayload) ← client.receiveTransferPayload context.scratchPayload
    kTransferChunkTimeoutInMs
  let context := { context with scratchPayload := scratchPayload }
  if result = .success ∧ scratchPayload.command = .transferDataChunk then
    if context.takeChunk.totalBytes = 0 then client.receivePullSentinel context.takeChunk
    else pure (result, context.takeChunk)
  else pure (result, { context with state := .error })

/-- The loop of `ReadPullTransferData`, with what is left of the caller's buffer and what was
copied into it.
ddTransferClient.cpp:126-225 -/
def readLoop : ℕ → ℕ → Result → ClientTransferContext → List UInt8 →
    TransferDialogue (Result × ClientTransferContext × List UInt8)
  | 0, _, _, _, _ => .pending
  | rounds + 1, remaining, result, context, copied =>
    if 0 < remaining ∧ context.state = .transferInProgress then
      let available := context.dataChunkSizeInBytes - context.dataChunkBytesTransfered
      if 0 < available then
        let bytesToRead := min remaining available
        let chunk := context.copyChunk bytesToRead
        if chunk.2.dataChunkBytesTransfered = chunk.2.dataChunkSizeInBytes ∧
            chunk.2.totalBytes = 0 then
          readLoop rounds (remaining - bytesToRead) .endOfStream
            { chunk.2 with state := .idle } (copied ++ chunk.1)
        else readLoop rounds (remaining - bytesToRead) result chunk.2 (copied ++ chunk.1)
      else if 0 < context.totalBytes then do
        let (result, context) ← client.receivePullChunk context
        readLoop rounds remaining result context copied
      else readLoop rounds remaining result context copied
    else pure (result, context, copied)

/-- `ReadPullTransferData`, with the bytes it copies to the caller's buffer.
ddTransferClient.cpp:105-237 -/
def readPullTransferData (rounds bufferSize : ℕ) (context : ClientTransferContext) :
    TransferDialogue (Result × ClientTransferContext × List UInt8) :=
  if context.state = .transferInProgress then
    if context.totalBytes = 0 ∧
        context.dataChunkSizeInBytes = context.dataChunkBytesTransfered then
      pure (.endOfStream, { context with state := .idle }, [])
    else if 0 < bufferSize then client.readLoop rounds bufferSize .success context []
    else pure (.success, context, [])
  else pure (.error, context, [])

/-- The loop of `AbortPullTransfer`.
ddTransferClient.cpp:358-365 -/
def abortLoop : ℕ → Result → SizedPayloadContainer →
    TransferDialogue (Result × SizedPayloadContainer)
  | 0, _, _ => .pending
  | rounds + 1, transferResult, container =>
    if transferResult = .success ∧ container.command ≠ .transferDataSentinel then do
      let (transferResult, container) ← client.receiveTransferPayload container
        client.timeouts.communicationTimeoutInMs
      abortLoop rounds transferResult container
    else pure (transferResult, container)

/-- ddTransferClient.cpp:343-390 -/
def abortPullTransfer (rounds : ℕ) (context : ClientTransferContext) :
    TransferDialogue (Result × ClientTransferContext) :=
  if context.state = .transferInProgress ∧ context.type = .pull then do
    let container := SizedPayloadContainer.zero.fill (transferStatus .aborted)
    let transferResult ← client.sendTransferPayload container
    if transferResult = .success then do
      let (transferResult, container) ← client.abortLoop rounds transferResult container
      if transferResult = .success ∧ container.command = .transferDataSentinel then
        pure (.success, { context with state := .idle })
      else pure (.error, { context with state := .error })
    else pure (.error, { context with state := .error })
  else pure (.error, { context with state := .error })

/-- `RequestPushTransfer`.  The size is cut to 32 bits.
ddTransferClient.cpp:240-269 -/
def requestPushTransfer (blockId : BlockId) (transferSizeInBytes : ℕ)
    (context : ClientTransferContext) : TransferDialogue (Result × ClientTransferContext) :=
  if context.state = .idle ∧ transferRefactorVersion ≤ client.version ∧
      blockId ≠ kInvalidBlockId ∧ transferSizeInBytes ≠ 0 then do
    let (transactResult, container) ← client.transactTransferPayload
      (SizedPayloadContainer.zero.fill
        (transferRequest blockId .push (transferSizeInBytes % 2 ^ 32)))
    if transactResult = .success ∧ container.command = .transferStatus ∧
        container.result = .success then
      pure (.success, { context.start (transferSizeInBytes % 2 ^ 32) with type := .push })
    else pure (.error, context)
  else pure (.error, context)

/-- The loop of `WritePushTransferData`, with what is left of the source buffer.
ddTransferClient.cpp:278-301 -/
def writeLoop : ℕ → Result → List UInt8 → ClientTransferContext →
    TransferDialogue (Result × List UInt8 × ClientTransferContext)
  | 0, _, _, _ => .pending
  | rounds + 1, result, srcBuffer, context =>
    if 0 < context.totalBytes ∧ 0 < srcBuffer.length then do
      let maxBytesInChunk := min kMaxTransferDataChunkSize context.totalBytes
      let bytesToSend := min maxBytesInChunk srcBuffer.length
      let context := context.offerChunk (srcBuffer.take bytesToSend)
      let result ← client.sendTransferPayload context.scratchPayload
      if result = .success then writeLoop rounds result (srcBuffer.drop bytesToSend) context
      else if result = .notReady then writeLoop rounds result srcBuffer context
      else pure (result, srcBuffer, context)
    else pure (result, srcBuffer, context)

def writePushTransferData (rounds : ℕ) (srcBuffer : List UInt8)
    (context : ClientTransferContext) : TransferDialogue (Result × ClientTransferContext) :=
  if context.state = .transferInProgress ∧ context.type = .push then do
    let (result, srcBuffer, context) ← client.writeLoop rounds .error srcBuffer context
    if context.totalBytes = 0 ∧ 0 < srcBuffer.length then pure (.endOfStream, context)
    else pure (result, context)
  else pure (.error, context)

/-- The state a closed push leaves: `Error` unless the transfer was closed or discarded.
ddTransferClient.cpp:334-337 -/
def closedState (result : Result) (state : TransferClientState) : TransferClientState :=
  if result ≠ .success ∧ result ≠ .aborted then .error else state

/-- ddTransferClient.cpp:313-340 -/
def closePushTransfer (discard : Bool) (context : ClientTransferContext) :
    TransferDialogue (Result × ClientTransferContext) :=
  if context.state = .transferInProgress ∧ context.type = .push then do
    let (transactResult, container) ← client.transactTransferPayload
      (SizedPayloadContainer.zero.fill
        (transferDataSentinel (if discard then .aborted else .success) context.crc32))
    if transactResult = .success ∧ container.command = .transferStatus then
      pure (container.result, { context with state := closedState container.result .idle })
    else pure (.error, { context with state := .error })
  else pure (.error, { context with state := .error })

end TransferClient

end DevDriver.Model
