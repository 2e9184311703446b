import DevDriver.Model.TransferClient
import DevDriver.Model.UriProtocol

/-!
# The client side of the URI protocol

`URIClient` of ddURIClient.cpp.  A call is a dialogue with the protocol session and with the
transfer manager, which opens blocks, moves their bytes over sessions of its own and closes them.
-/

namespace DevDriver.Model

open Library

/-- What the parts of a call ask the session and its blocks for. -/
inductive UriCall where
  | send (payload : List UInt8)
  | openPushBlock (blockId : BlockId) (blockSize : ℕ)
  | write (data : List UInt8)
  | finalize
  | closePushBlock
  | openPullBlock (blockId : BlockId)
  | read (bufferSize : ℕ)
  | closePullBlock
  deriving DecidableEq

/-- The answers: those of `Send`, `Write` and `Finalize`, whether a push block could be opened, the
size of a pull block that could be, what a read returns, and that a block is closed. -/
inductive UriAnswer where
  | result (r : Result)
  | openedPushBlock (success : Bool)
  | openedPullBlock (blockDataSize : Option ℕ)
  | read (r : Result) (bytes : List UInt8)
  | closed
  deriving DecidableEq

abbrev UriDialogue := Dialogue UriCall UriAnswer ReceiveAnswer

namespace UriDialogue

def onSession {α : Type} : TransferDialogue α → UriDialogue α
  | .done a => .done a
  | .send payload next => .send (.send payload) fun
    | .result r => onSession (next r)
    | _ => .pending
  | .receive next => .receive fun a => onSession (next a)
  | .pending => .pending

def write (data : List UInt8) : UriDialogue Result :=
  .send (.write data) fun
    | .result r => .done r
    | _ => .pending

def finalize : UriDialogue Result :=
  .send .finalize fun
    | .result r => .done r
    | _ => .pending

def openPushBlock (blockId : BlockId) (blockSize : ℕ) : UriDialogue Bool :=
  .send (.openPushBlock blockId blockSize) fun
    | .openedPushBlock success => .done success
    | _ => .pending

def openPullBlock (blockId : BlockId) : UriDialogue (Option ℕ) :=
  .send (.openPullBlock blockId) fun
    | .openedPullBlock blockDataSize => .done blockDataSize
    | _ => .pending

def read (bufferSize : ℕ) : UriDialogue (Result × List UInt8) :=
  .send (.read bufferSize) fun
    | .read r bytes => .done (r, bytes)
    | _ => .pending

/-- `ClosePushBlock` and `ClosePullBlock`. -/
def close (call : UriCall) : UriDialogue Unit :=
  .send call fun
    | .closed => .done ()
    | _ => .pending

end UriDialogue

/-! ## The client -/

inductive UriClientState where
  | idle
  | readResponse
  deriving DecidableEq, Repr

/-- `URIClient::Context`, with the block that `pBlock` points to. -/
structure UriContext where
  state : UriClientState
  pBlock : Option BlockId
  deriving DecidableEq

def UriContext.zero : UriContext := ⟨.idle, none⟩

structure UriResponseHeader where
  responseDataSizeInBytes : ℕ
  responseDataFormat : URIDataFormat
  deriving DecidableEq

def UriResponseHeader.empty : UriResponseHeader := ⟨0, URIDataFormat.unknown⟩

/-- A vector for a response: whether `Resize` gets the memory for a size. -/
structure ResponseBuffer where
  canResize : ℕ → Bool

structure UriClient where
  timeouts : TimeoutConstants
  version : Version

namespace UriClient

open UriDialogue

variable (client : UriClient)

/-- `SendURIPayload`, with the timeouts that every caller gives it.
ddURIClient.cpp:445-459 -/
def sendURIPayload (container : SizedPayloadContainer) : UriDialogue Result :=
  onSession (sendSizedPayload (container.uriSentBytes client.version)
    client.timeouts.communicationTimeoutInMs client.timeouts.retryTimeoutInMs)

def receiveURIPayload (container : SizedPayloadContainer) :
    UriDialogue (Result × SizedPayloadContainer) :=
  onSession (receiveSizedPayload container client.timeouts.communicationTimeoutInMs
    client.timeouts.retryTimeoutInMs)

def transactURIPayload (container : SizedPayloadContainer) :
    UriDialogue (Result × SizedPayloadContainer) := do
  let result ← client.sendURIPayload container
  if result = .success then client.receiveURIPayload container else pure (result, container)

/-- The post data is written to the push block, which is then finalized.
ddURIClient.cpp:254-258 -/
def writePostData (postData : List UInt8) : UriDialogue Result := do
  let result ← write postData
  if result = .success then finalize else pure result

/-- Post data that does not fit into a message is pushed to a block that the server opens for it;
with the block's id.
ddURIClient.cpp:229-277 -/
def pushPostData (request postData : List UInt8) : UriDialogue (Result × BlockId) := do
  let (result, blockRequest) ← client.transactURIPayload
    (SizedPayloadContainer.zero.fill (uriPostRequestPayload request (postData.length % 2 ^ 32)))
  let pushBlockId := blockRequest.uriResponseBlockId
  if result = .success then
    if blockRequest.uriResult = .success then do
      if ← openPushBlock pushBlockId postData.length then do
        let result ← writePostData postData
        close .closePushBlock
        pure (result, pushBlockId)
      else pure (.uriFailedToAcquirePostBlock, pushBlockId)
    else pure (blockRequest.uriResult, pushBlockId)
  else pure (result, pushBlockId)

/-- The container with the request.
ddURIClient.cpp:206-289 -/
def createRequest (request postData : List UInt8) :
    UriDialogue (Result × SizedPayloadContainer) :=
  if postData.length = 0 then
    pure (.success, SizedPayloadContainer.zero.fill
      (uriRequestPayload request kInvalidBlockId URIDataFormat.unknown 0))
  else if postData.length ≤ kMaxInlineDataSize then
    pure (.success, SizedPayloadContainer.zero.fill
      (uriRequestPayload request kInvalidBlockId URIDataFormat.binary postData.length ++ postData))
  else do
    let (result, pushBlockId) ← client.pushPostData request postData
    if result = .success then
      pure (.success, SizedPayloadContainer.zero.fill (uriRequestPayload request pushBlockId
        URIDataFormat.binary (postData.length % 2 ^ 32)))
    else pure (result, SizedPayloadContainer.zero)

/-- The block of a response is opened.
ddURIClient.cpp:307-352 -/
def openResponse (response : SizedPayloadContainer) (context : UriContext) :
    UriDialogue (Result × UriContext × UriResponseHeader) :=
  if response.uriResponseBlockId ≠ kInvalidBlockId then do
    match ← openPullBlock response.uriResponseBlockId with
    | some blockSize =>
      let format := if uriResponseFormatsVersion ≤ client.version then response.uriResponseFormat
        else URIDataFormat.text
      if 0 < blockSize then
        pure (.success, ⟨.readResponse, some response.uriResponseBlockId⟩, ⟨blockSize, format⟩)
      else do
        close .closePullBlock
        pure (.success, { context with pBlock := none }, ⟨blockSize, format⟩)
    | none => pure (.uriFailedToOpenResponseBlock, context, .empty)
  else pure (.success, context, .empty)

/-- `RequestURI`; there is no post data when it is a null pointer or its size is zero.
ddURIClient.cpp:191-358 -/
def requestURI (request postData : List UInt8) (context : UriContext) :
    UriDialogue (Result × UriContext × UriResponseHeader) :=
  if context.state = .idle then do
    let (result, container) ← client.createRequest request postData
    if result = .success then do
      let (result, response) ← client.transactURIPayload container
      if result = .success ∧ response.uriCommand = .uriResponse then
        if response.uriResult = .success then client.openResponse response context
        else pure (response.uriResult, context, .empty)
      else pure (result, context, .empty)
    else pure (result, context, .empty)
  else pure (.uriInvalidParameters, context, .empty)

/-- `ReadResponse`, with the bytes that it reads.
ddURIClient.cpp:361-379 -/
def readResponse (bufferSize : ℕ) (context : UriContext) :
    UriDialogue (Result × UriContext × List UInt8) :=
  if context.state = .readResponse then do
    let (result, bytes) ← read bufferSize
    if result = .endOfStream ∨ result = .error then do
      close .closePullBlock
      pure (result, ⟨.idle, none⟩, bytes)
    else pure (result, context, bytes)
  else pure (.uriInvalidParameters, context, [])

def abortRequest (context : UriContext) : UriDialogue (Result × UriContext) :=
  if context.state = .readResponse then do
    close .closePullBlock
    pure (.success, ⟨.idle, none⟩)
  else pure (.uriInvalidParameters, context)

/-- The loop of `ReadFullResponse`, with what has been read.
ddURIClient.cpp:405-417 -/
def readFullLoop : ℕ → ℕ → UriContext → List UInt8 →
    UriDialogue (Result × UriContext × List UInt8)
  | 0, _, _, _ => .pending
  | rounds + 1, bufferSize, context, data => do
    let (result, context, bytes) ← readResponse (bufferSize - data.length) context
    if result = .success then readFullLoop rounds bufferSize context (data ++ bytes)
    else pure (result, context, data ++ bytes)

/-- `ReadFullResponse`; the buffer is valid when it is not null.
ddURIClient.cpp:398-428 -/
def readFullResponse (rounds : ℕ) (validBuffer : Bool) (bufferSize : ℕ) (context : UriContext) :
    UriDialogue (Result × UriContext × List UInt8) :=
  if validBuffer then do
    let (result, context, data) ← readFullLoop rounds bufferSize context []
    pure (if result = .endOfStream then .success else result, context, data)
  else pure (.invalidParameter, context, [])

/-- `TransactURIRequest`, with what a response buffer then holds.  The data of a buffer that gets
no memory for the response is a null pointer.
ddURIClient.cpp:106-173 -/
def transactURIRequest (rounds : ℕ) (request postData : List UInt8)
    (pResponseBuffer : Option ResponseBuffer) (context : UriContext) :
    UriDialogue (Result × UriContext × List UInt8) := do
  let (result, context, header) ← client.requestURI request postData context
  match pResponseBuffer with
  | some buffer =>
    if result = .success ∧ header.responseDataSizeInBytes ≠ 0 then
      readFullResponse rounds (buffer.canResize header.responseDataSizeInBytes)
        header.responseDataSizeInBytes context
    else pure (result, context, [])
  | none => pure (result, context, [])

end UriClient

/-! ## Reading a response from its block

What a `URIClient` asks of a pull block that it has opened is answered by the block's transfer
client. -/

/-- A part of a call on an opened pull block.  `PullBlock::Read` reads from the transfer; a block
that is closed is not read any more, and nothing else is asked of it.
ddTransferManager.cpp:338-341 -/
def onPullBlock {α : Type} (client : TransferClient) (rounds : ℕ) :
    ClientTransferContext → UriDialogue α → TransferDialogue (α × ClientTransferContext)
  | transfer, .done a => .done (a, transfer)
  | transfer, .send (.read bufferSize) next =>
    client.readPullTransferData rounds bufferSize transfer >>= fun (result, transfer, bytes) =>
      onPullBlock client rounds transfer (next (.read result bytes))
  | transfer, .send .closePullBlock next => onPullBlock client rounds transfer (next .closed)
  | _, _ => .pending

/-- `ReadFullResponse` between two rounds of its loop, with what it has written to the buffer. -/
structure FullRead where
  context : UriContext
  transfer : ClientTransferContext
  data : List UInt8

/-- The body of the loop of `ReadFullResponse`.
ddURIClient.cpp:410-416 -/
def FullRead.iteration (client : TransferClient) (rounds bufferSize : ℕ) (s : FullRead) :
    TransferDialogue (Result × FullRead) := do
  let ((result, context, bytes), transfer) ← onPullBlock client rounds s.transfer
    (UriClient.readResponse (bufferSize - s.data.length) s.context)
  pure (result, ⟨context, transfer, s.data ++ bytes⟩)

def FullRead.start (responseSize : ℕ) (blockId : BlockId) (transfer : ClientTransferContext) :
    FullRead where
  context := ⟨.readResponse, some blockId⟩
  transfer := transfer.start responseSize
  data := []

end DevDriver.Model
