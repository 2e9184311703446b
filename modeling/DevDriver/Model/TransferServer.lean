import DevDriver.Model.TransferProtocol
import DevDriver.Model.Socket

/-!
# The server side of the transfer protocol

`ServerBlock` and `TransferManager` of ddTransferManager.cpp and `TransferSession` of
ddTransferServer.cpp.
-/

namespace DevDriver.Model

open Library

/-! ## Blocks -/

abbrev BlockRef := ℕ

def kTransferChunkSizeInBytes : ℕ := 4096

/-- `ServerBlock`.  The memory of the chunks is one array, and the number of pending transfers
never wraps, since sessions have different 32-bit ids. -/
structure ServerBlock where
  isClosed : Bool
  chunks : List UInt8
  blockDataSize : ℕ
  numPendingTransfers : ℕ
  crc32 : UInt32

namespace ServerBlock

def new : ServerBlock := ⟨false, [], 0, 0, 0⟩

def data (b : ServerBlock) : List UInt8 := b.chunks.take b.blockDataSize

/-- `GetBlockData`, with nothing to read behind the null pointer. -/
def getBlockData (b : ServerBlock) : List UInt8 := if 0 < b.blockDataSize then b.chunks else []

def chunksRequired (bytes : ℕ) : ℕ :=
  (bytes + kTransferChunkSizeInBytes - 1) / kTransferChunkSizeInBytes

/-- The memory of a block with room for `numBytes` more bytes.
ddTransferManager.cpp:238-249 -/
def grown (numBytes : ℕ) (b : ServerBlock) : List UInt8 :=
  let bytesAvailable := b.chunks.length - b.blockDataSize
  if bytesAvailable < numBytes then
    b.chunks ++ List.replicate
      (chunksRequired (numBytes - bytesAvailable) * kTransferChunkSizeInBytes) 0
  else b.chunks

def write (src : List UInt8) (b : ServerBlock) : ServerBlock :=
  if 0 < src.length then
    { b with
      chunks := overwrite (b.grown src.length) b.blockDataSize src
      crc32 := CRC32 src b.crc32
      blockDataSize := b.blockDataSize + src.length }
  else b

def close (b : ServerBlock) : ServerBlock := { b with isClosed := true }

def reset (b : ServerBlock) : ServerBlock :=
  { b with isClosed := false, blockDataSize := 0, crc32 := 0 }

def beginTransfer (b : ServerBlock) : ServerBlock :=
  { b with numPendingTransfers := b.numPendingTransfers + 1 }

def endTransfer (b : ServerBlock) : ServerBlock :=
  { b with numPendingTransfers := b.numPendingTransfers - 1 }

end ServerBlock

inductive BlockOperation where
  | write (src : List UInt8)
  | close
  | reset
  | beginTransfer
  | endTransfer

def BlockOperation.apply : BlockOperation → ServerBlock → ServerBlock
  | .write src => ServerBlock.write src
  | .close => ServerBlock.close
  | .reset => ServerBlock.reset
  | .beginTransfer => ServerBlock.beginTransfer
  | .endTransfer => ServerBlock.endTransfer

/-- An operation on a block, with the block before it. -/
structure BlockEvent where
  pBlock : BlockRef
  operation : BlockOperation
  before : ServerBlock

/-- The table of registered blocks, and the blocks by name; those from
`nextBlock` on do not exist yet. -/
structure TransferManager where
  registeredServerBlocks : BlockId → Option BlockRef
  blocks : BlockRef → ServerBlock
  nextBlock : BlockRef

namespace TransferManager

def new : TransferManager := ⟨fun _ => none, fun _ => .new, 0⟩

/-- `OpenServerBlock`, for the id that the generator draws.  Its loop only rejects an id that is
both invalid and in use, and an id in use keeps the block it has.
ddTransferManager.cpp:96-116 -/
def openServerBlock (newBlockId : BlockId) (m : TransferManager) : TransferManager where
  registeredServerBlocks :=
    if (m.registeredServerBlocks newBlockId).isSome then m.registeredServerBlocks
    else Function.update m.registeredServerBlocks newBlockId (some m.nextBlock)
  blocks := Function.update m.blocks m.nextBlock .new
  nextBlock := m.nextBlock + 1

def getServerBlock (serverBlockId : BlockId) (m : TransferManager) : Option BlockRef :=
  m.registeredServerBlocks serverBlockId

/-- `CloseServerBlock`, for the block of an id.
ddTransferManager.cpp:132-143 -/
def closeServerBlock (serverBlockId : BlockId) (m : TransferManager) : TransferManager :=
  { m with registeredServerBlocks := Function.update m.registeredServerBlocks serverBlockId none }

def onBlock (pBlock : BlockRef) (operation : BlockOperation) (m : TransferManager) :
    TransferManager :=
  { m with blocks := Function.update m.blocks pBlock (operation.apply (m.blocks pBlock)) }

end TransferManager

/-! ## Sessions -/

/-- `SessionState`, ddTransferServer.cpp. -/
inductive TransferSessionState where
  | idle
  | sendPayload
  | startPullTransfer
  | processPullTransfer
  | startPushTransfer
  | receivePushTransferData
  deriving DecidableEq, Repr

/-- `TransferSession`, with the version of its protocol session. -/
structure TransferSession where
  version : Version
  scratchPayload : SizedPayloadContainer
  pBlock : Option BlockRef
  totalBytes : ℕ
  bytesTransferred : ℕ
  crc32 : UInt32
  state : TransferSessionState

def TransferSession.new (version : Version) : TransferSession :=
  ⟨version, .zero, none, 0, 0, 0, .idle⟩

structure TransferCtx where
  session : TransferSession
  manager : TransferManager
  receives : List ReceiveAnswer
  sends : List Result
  sent : List (List UInt8)
  events : List BlockEvent

namespace TransferCtx

def onBlock (pBlock : BlockRef) (operation : BlockOperation) (c : TransferCtx) : TransferCtx :=
  { c with
    manager := c.manager.onBlock pBlock operation
    events := c.events ++ [⟨pBlock, operation, c.manager.blocks pBlock⟩] }

def onHeldBlock (operation : BlockOperation) (c : TransferCtx) : TransferCtx :=
  match c.session.pBlock with
  | none => c
  | some pBlock => c.onBlock pBlock operation

def blockData (c : TransferCtx) : List UInt8 :=
  match c.session.pBlock with
  | none => []
  | some pBlock => (c.manager.blocks pBlock).getBlockData

def blockCrc32 (c : TransferCtx) : UInt32 :=
  match c.session.pBlock with
  | none => 0
  | some pBlock => (c.manager.blocks pBlock).crc32

def setState (state : TransferSessionState) (c : TransferCtx) : TransferCtx :=
  { c with session := { c.session with state := state } }

def clearBlock (c : TransferCtx) : TransferCtx :=
  { c with session := { c.session with pBlock := none } }

def createPayload (data : List UInt8) (c : TransferCtx) : TransferCtx :=
  { c with session :=
    { c.session with scratchPayload := c.session.scratchPayload.fill data } }

/-- `SendPayload` of the scratch container.
ddTransferServer.cpp:54-62 -/
def sendPayload (c : TransferCtx) : Result × TransferCtx :=
  match c.sends with
  | [] => (.notReady, c)
  | r :: sends =>
    (r, { c with
      sends := sends
      sent := if r = .success then
        c.sent ++ [c.session.scratchPayload.sentBytes c.session.version] else c.sent })

/-- `ReceivePayload` into the scratch container.
ddTransferServer.cpp:65-69 -/
def receivePayload (c : TransferCtx) : Result × TransferCtx :=
  match c.receives with
  | [] => (.notReady, c)
  | .failure r _ :: receives => (r, { c with receives := receives })
  | .payload p :: receives => (.success, { c with receives := receives }.createPayload p.1)

def sendScratchPayloadAndMoveToIdle (c : TransferCtx) : TransferCtx :=
  let sent := c.sendPayload
  if sent.1 = .success then sent.2.setState .idle else sent.2

def releaseBlock (c : TransferCtx) : TransferCtx := (c.onHeldBlock .endTransfer).clearBlock

def sendSentinel (status : Result) (crc : UInt32) (c : TransferCtx) : TransferCtx :=
  ((c.releaseBlock.createPayload (transferDataSentinel status crc)).setState
    .sendPayload).sendScratchPayloadAndMoveToIdle

/-- `m_bytesTransferred` grows. -/
def advance (bytes : ℕ) (c : TransferCtx) : TransferCtx :=
  { c with session :=
    { c.session with bytesTransferred := c.session.bytesTransferred + bytes } }

/-- The loop of `ProcessPullSession`.  Every round but the last one sends a byte or more, so as
many rounds as bytes remain are enough.
ddTransferServer.cpp:237-255 -/
def sendChunks : ℕ → TransferCtx → TransferCtx
  | 0, c => c
  | rounds + 1, c =>
    if c.session.bytesTransferred < c.session.totalBytes then
      let bytesRemaining := c.session.totalBytes - c.session.bytesTransferred
      let bytesToSend := min kMaxTransferDataChunkSize bytesRemaining
      let sent := (c.createPayload (transferDataChunk
        (slice c.blockData c.session.bytesTransferred bytesToSend))).sendPayload
      if sent.1 = .success then sendChunks rounds (sent.2.advance bytesToSend) else sent.2
    else c

/-- ddTransferServer.cpp:227-281 -/
def processPullSession (c : TransferCtx) : TransferCtx :=
  let received := c.receivePayload
  if received.1 = .notReady then
    let c := received.2.sendChunks
      (received.2.session.totalBytes - received.2.session.bytesTransferred)
    if c.session.bytesTransferred = c.session.totalBytes then
      c.sendSentinel .success c.session.crc32
    else c
  else if received.1 = .success then
    if received.2.session.scratchPayload.command = .transferStatus then
      received.2.sendSentinel .aborted 0
    else received.2.sendSentinel .error 0
  else received.2

def sendPullTransferHeader (c : TransferCtx) : TransferCtx :=
  let sent := c.sendPayload
  if sent.1 = .success then (sent.2.setState .processPullTransfer).processPullSession
  else sent.2

def startPushTransferSession (c : TransferCtx) : TransferCtx :=
  let sent := c.sendPayload
  if sent.1 = .success then sent.2.setState .receivePushTransferData else sent.2

/-- An answer that the session owes and goes back to `Idle` after.
ddTransferServer.cpp:121-123, 157-159, 164-166, 172-174 -/
def reply (data : List UInt8) (c : TransferCtx) : TransferCtx :=
  ((c.createPayload data).setState .sendPayload).sendScratchPayloadAndMoveToIdle

def cancelTransfer (reason : Result) (c : TransferCtx) : TransferCtx :=
  (c.onHeldBlock .reset).releaseBlock.reply (transferStatus reason)

def takeBlock (pBlock : BlockRef) (totalBytes : ℕ) (crc : UInt32) (c : TransferCtx) :
    TransferCtx :=
  let c := c.onBlock pBlock .beginTransfer
  { c with session :=
    { c.session with
      pBlock := some pBlock
      totalBytes := totalBytes
      bytesTransferred := 0
      crc32 := crc } }

/-- A pull request.
ddTransferServer.cpp:85-126 -/
def processPullRequest (blockId : BlockId) (c : TransferCtx) : TransferCtx :=
  match c.manager.getServerBlock blockId with
  | none => c.reply (transferStatus .error)
  | some pBlock =>
    let block := c.manager.blocks pBlock
    if block.isClosed = true ∧ c.session.state = .idle then
      let c := (c.takeBlock pBlock block.blockDataSize block.crc32).setState .startPullTransfer
      (c.createPayload
        (if transferRefactorVersion ≤ c.session.version then
          transferDataHeaderV2 block.blockDataSize
        else transferDataHeader .success block.blockDataSize)).sendPullTransferHeader
    else c.reply (transferStatus .error)

/-- A push request.  `Reserve` only makes room in the memory of the block.
ddTransferServer.cpp:127-170 -/
def processPushRequest (blockId : BlockId) (sizeInBytes : ℕ) (c : TransferCtx) : TransferCtx :=
  match c.manager.getServerBlock blockId with
  | none => c.reply (transferStatus .error)
  | some pBlock =>
    let block := c.manager.blocks pBlock
    if block.isClosed = false ∧ c.session.state = .idle then
      let c := c.takeBlock pBlock sizeInBytes 0
      if 0 < sizeInBytes then
        ((c.setState .startPushTransfer).createPayload
          (transferStatus .success)).startPushTransferSession
      else c.reply (transferStatus .error)
    else c.reply (transferStatus .error)

/-- ddTransferServer.cpp:72-200 -/
def processPayload (c : TransferCtx) : TransferCtx :=
  match c.session.scratchPayload.command with
  | .transferRequest =>
    match c.session.scratchPayload.requestType with
    | .pull => c.processPullRequest c.session.scratchPayload.requestBlockId
    | .push => c.processPushRequest c.session.scratchPayload.requestBlockId
        c.session.scratchPayload.requestSizeInBytes
    | .other _ => c.reply (transferStatus .error)
  | .transferStatus => c.sendSentinel .aborted 0
  | _ => c

/-- A chunk of a push.  The size of a payload shorter than its header wraps.
ddTransferServer.cpp:317-332 -/
def receiveChunk (c : TransferCtx) : TransferCtx :=
  if c.session.bytesTransferred < c.session.totalBytes then
    let bytesRemaining := c.session.totalBytes - c.session.bytesTransferred
    let numBytes := sub64 c.session.scratchPayload.payloadSize 4
    let bytesToWrite := min numBytes bytesRemaining
    (c.onHeldBlock
      (.write (c.session.scratchPayload.chunkData.take bytesToWrite))).advance bytesToWrite
  else c.cancelTransfer .insufficientMemory

/-- The sentinel of a push.
ddTransferServer.cpp:335-353 -/
def receiveSentinel (c : TransferCtx) : TransferCtx :=
  let result := c.session.scratchPayload.result
  if result = .success ∧ c.blockCrc32 = c.session.scratchPayload.sentinelCrc32 then
    (c.onHeldBlock .close).releaseBlock.reply (transferStatus .success)
  else c.cancelTransfer (if result ≠ .aborted then .error else .aborted)

/-- A message of a push.
ddTransferServer.cpp:314-360 -/
def receivePushMessage (c : TransferCtx) : TransferCtx :=
  match c.session.scratchPayload.command with
  | .transferDataChunk => c.receiveChunk
  | .transferDataSentinel => c.receiveSentinel
  | _ => c.cancelTransfer .error

/-- The loop of `ReceivePushTransferData`.  Every round takes an answer of `Receive`, so one
round more than there are answers is enough.
ddTransferServer.cpp:311-363 -/
def receivePushLoop : ℕ → TransferCtx → TransferCtx
  | 0, c => c
  | rounds + 1, c =>
    let received := c.receivePayload
    if received.1 = .success then
      let c := received.2.receivePushMessage
      if c.session.state = .receivePushTransferData then receivePushLoop rounds c else c
    else received.2

def receivePushTransferData (c : TransferCtx) : TransferCtx :=
  c.receivePushLoop (c.receives.length + 1)

/-- ddTransferServer.cpp:381-430 -/
def updateSession (c : TransferCtx) : TransferCtx :=
  match c.session.state with
  | .idle =>
    let received := c.receivePayload
    if received.1 = .success then received.2.processPayload else received.2
  | .processPullTransfer => c.processPullSession
  | .startPullTransfer => c.sendPullTransferHeader
  | .startPushTransfer => c.startPushTransferSession
  | .receivePushTransferData => c.receivePushTransferData
  | .sendPayload => c.sendScratchPayloadAndMoveToIdle

/-- `~TransferSession`.
ddTransferServer.cpp:41-49 -/
def destroy (c : TransferCtx) : TransferCtx := c.onHeldBlock .endTransfer

end TransferCtx

structure TransferState where
  manager : TransferManager
  sessions : List TransferSession

inductive OwnerOperation where
  | write (src : List UInt8)
  | close
  | reset

def OwnerOperation.toBlockOperation : OwnerOperation → BlockOperation
  | .write src => .write src
  | .close => .close
  | .reset => .reset

/-- What happens to a transfer manager and its sessions. -/
inductive TransferAction where
  | openServerBlock (newBlockId : BlockId)
  | closeServerBlock (serverBlockId : BlockId)
  | ownerOperation (pBlock : BlockRef) (operation : OwnerOperation)
  | sessionEstablished (version : Version)
  | updateSession (index : ℕ) (receives : List ReceiveAnswer) (sends : List Result)
  | sessionTerminated (index : ℕ)

namespace TransferState

def context (s : TransferState) (session : TransferSession) (receives : List ReceiveAnswer)
    (sends : List Result) : TransferCtx :=
  ⟨session, s.manager, receives, sends, [], []⟩

def step (s : TransferState) : TransferAction → Option (TransferState × List BlockEvent)
  | .openServerBlock newBlockId =>
    some ({ s with manager := s.manager.openServerBlock newBlockId }, [])
  | .closeServerBlock serverBlockId =>
    some ({ s with manager := s.manager.closeServerBlock serverBlockId }, [])
  | .ownerOperation pBlock operation =>
    if pBlock < s.manager.nextBlock then
      some ({ s with manager := s.manager.onBlock pBlock operation.toBlockOperation }, [])
    else none
  | .sessionEstablished version =>
    some ({ s with sessions := s.sessions ++ [.new version] }, [])
  | .updateSession index receives sends =>
    (s.sessions[index]?).map fun session =>
      let c := (s.context session receives sends).updateSession
      ({ manager := c.manager, sessions := s.sessions.set index c.session }, c.events)
  | .sessionTerminated index =>
    (s.sessions[index]?).map fun session =>
      let c := (s.context session [] []).destroy
      ({ manager := c.manager, sessions := s.sessions.eraseIdx index }, c.events)

end TransferState

/-- A transfer manager with its sessions. -/
def transferMachine : Machine TransferState TransferAction (List BlockEvent) where
  init s := s = ⟨.new, []⟩
  step s a := s.step a

end DevDriver.Model
