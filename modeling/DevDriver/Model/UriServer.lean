import DevDriver.Library.Registry
import DevDriver.Model.TransferClient
import DevDriver.Model.TransferServer
import DevDriver.Model.UriProtocol

/-!
# The server side of the URI protocol

`URIServer::URISession` of ddURIServer.cpp, with the services that are registered with its server
and the transfer manager that it opens blocks of.
-/

namespace DevDriver.Model

open Library

/-- A `SharedPointer<ServerBlock>` that is not null: the block and its id. -/
abbrev SharedServerBlock := Handle BlockId BlockRef

/-- A manager with the ids that its generator is going to draw, none where a block cannot be
allocated, and the blocks that a session opened. -/
structure BlockCtx where
  manager : TransferManager
  draws : List (Option BlockId)
  opened : List SharedServerBlock

namespace BlockCtx

/-- ddTransferManager.cpp:96-116 -/
def openServerBlock (b : BlockCtx) : Option SharedServerBlock × BlockCtx :=
  match b.draws with
  | some newBlockId :: draws =>
    (some ⟨newBlockId, b.manager.nextBlock⟩,
      { manager := b.manager.openServerBlock newBlockId
        draws := draws
        opened := b.opened ++ [⟨newBlockId, b.manager.nextBlock⟩] })
  | none :: draws => (none, { b with draws := draws })
  | [] => (none, b)

/-- `CloseServerBlock`, for a pointer that may be null.
ddTransferManager.cpp:132-143 -/
def closeServerBlock (pBlock : Option SharedServerBlock) (b : BlockCtx) : BlockCtx :=
  match pBlock with
  | none => b
  | some block => { b with manager := b.manager.closeServerBlock block.id }

def onBlock (block : SharedServerBlock) (operation : BlockOperation) (b : BlockCtx) : BlockCtx :=
  { b with manager := b.manager.onBlock block.resource operation }

end BlockCtx

/-- `PostDataInfo`; a null pointer has no data. -/
structure PostDataInfo where
  data : List UInt8
  format : URIDataFormat
  deriving DecidableEq

def PostDataInfo.empty : PostDataInfo := ⟨[], URIDataFormat.unknown⟩

structure UriRequest where
  serviceName : List UInt8
  arguments : List UInt8
  postData : PostDataInfo
  deriving DecidableEq

structure UriServiceAnswer where
  result : Result
  written : List UInt8
  format : URIDataFormat

/-- `IService`. -/
structure UriService where
  handleRequest : List UInt8 → PostDataInfo → UriServiceAnswer
  queryPostSizeLimit : List UInt8 → ℕ

/-- `FindService`: the service that is registered under a name. -/
abbrev UriServices := List UInt8 → Option UriService

/-- `ServiceRequest`, with no answer when there is no such service.
ddURIServer.cpp:497-513 -/
def UriServices.serviceRequest (services : UriServices) (request : UriRequest) :
    Option UriServiceAnswer :=
  (services request.serviceName).map fun service =>
    service.handleRequest request.arguments request.postData

def UriServices.validatePostRequest (services : UriServices) (serviceName arguments : List UInt8)
    (sizeRequested : ℕ) : Result :=
  match services serviceName with
  | none => .unavailable
  | some service =>
    if sizeRequested ≤ service.queryPostSizeLimit arguments then .success
    else .uriInvalidPostDataSize

def splitRequest : List UInt8 → Option (List UInt8 × List UInt8)
  | [] => none
  | c :: cs =>
    if [58, 47, 47].isPrefixOf (c :: cs) then some ([], cs.drop 2)
    else (splitRequest cs).map fun parts => (c :: parts.1, parts.2)

namespace SizedPayloadContainer

/-- The service name and the arguments, and the container, in which
the name now ends with a zero byte.
ddURIServer.cpp:36-63 -/
def extractRequestParameters (c : SizedPayloadContainer) :
    Option (SizedPayloadContainer × List UInt8 × List UInt8) :=
  (splitRequest c.uriString).map fun parts =>
    (⟨c.payloadSize, Function.update c.payload (Fin.ofNat _ (4 + parts.1.length)) 0⟩,
      parts.1, parts.2)

/-- The post data fields of a request are set to their defaults: all their bytes are zero.
ddURIServer.cpp:189-194 -/
def clearPostData (c : SizedPayloadContainer) : SizedPayloadContainer :=
  { c with payload := fun i => if 260 ≤ i.val ∧ i.val < 272 then 0 else c.payload i }

end SizedPayloadContainer

/-- `URISession`, with the version of its protocol session.  `pPostDataBlock` is that of the
pending post request, whose requested size is never read. -/
structure URISession where
  version : Version
  pResponseBlock : Option SharedServerBlock
  payload : SizedPayloadContainer
  hasQueuedPayload : Bool
  pPostDataBlock : Option SharedServerBlock

def URISession.new (version : Version) : URISession := ⟨version, none, .zero, false, none⟩

/-- A session with its server's services and the surroundings of an update. -/
structure UriServerCtx where
  session : URISession
  services : UriServices
  blocks : BlockCtx
  receives : List ReceiveAnswer
  sends : List Result
  sent : List (List UInt8)
  served : List UriRequest

namespace UriServerCtx

def setPayload (payload : SizedPayloadContainer) (c : UriServerCtx) : UriServerCtx :=
  { c with session := { c.session with payload := payload } }

def createPayload (data : List UInt8) (c : UriServerCtx) : UriServerCtx :=
  c.setPayload (c.session.payload.fill data)

def setQueuedPayload (hasQueuedPayload : Bool) (c : UriServerCtx) : UriServerCtx :=
  { c with session := { c.session with hasQueuedPayload := hasQueuedPayload } }

/-- `SendPayload` of the session's container.
ddURIServer.cpp:98-106 -/
def sendPayload (c : UriServerCtx) : Result × UriServerCtx :=
  match c.sends with
  | [] => (.notReady, c)
  | r :: sends =>
    (r, { c with
      sends := sends
      sent := if r = .success then
        c.sent ++ [c.session.payload.uriSentBytes c.session.version] else c.sent })

/-- `ReceivePayload` into the session's container.
ddURIServer.cpp:109-113 -/
def receivePayload (c : UriServerCtx) : Result × UriServerCtx :=
  match c.receives with
  | [] => (.notReady, c)
  | .failure r _ :: receives => (r, { c with receives := receives })
  | .payload p :: receives => (.success, { c with receives := receives }.createPayload p.1)

/-- `OpenServerBlock` of the session's manager. -/
def openServerBlock (c : UriServerCtx) : Option SharedServerBlock × UriServerCtx :=
  (c.blocks.openServerBlock.1, { c with blocks := c.blocks.openServerBlock.2 })

def onBlock (block : SharedServerBlock) (operation : BlockOperation) (c : UriServerCtx) :
    UriServerCtx :=
  { c with blocks := c.blocks.onBlock block operation }

def closePendingPostRequest (c : UriServerCtx) : UriServerCtx :=
  { c with
    session := { c.session with pPostDataBlock := none }
    blocks := c.blocks.closeServerBlock c.session.pPostDataBlock }

/-- A post request: a block is opened for its data when the service takes as much.
ddURIServer.cpp:138-179 -/
def processPostRequest (c : UriServerCtx) : UriServerCtx :=
  match c.session.payload.extractRequestParameters with
  | none => c.createPayload (uriPostResponsePayload .uriStringParseError kInvalidBlockId)
  | some (payload, serviceName, arguments) =>
    let c := c.setPayload payload
    let result := c.services.validatePostRequest serviceName arguments payload.uriPostDataSize
    if result = .success then
      match c.openServerBlock with
      | (none, c) =>
        c.createPayload (uriPostResponsePayload .uriFailedToOpenResponseBlock kInvalidBlockId)
      | (some block, c) =>
        { c with session := { c.session with pPostDataBlock := some block } }.createPayload
          (uriPostResponsePayload .success block.id)
    else c.createPayload (uriPostResponsePayload result kInvalidBlockId)

/-! ### Requests -/

/-- The pending block, when it is the one that a request names and holds as much data as the
request says.
ddURIServer.cpp:239-247 -/
def postedBlock (c : UriServerCtx) : Option ServerBlock :=
  match c.session.pPostDataBlock with
  | none => none
  | some pPostDataBlock =>
    let block := c.blocks.manager.blocks pPostDataBlock.resource
    if pPostDataBlock.id = c.session.payload.uriRequestBlockId ∧ 0 < block.blockDataSize ∧
        c.session.payload.uriRequestDataSize = block.blockDataSize then some block
    else none

/-- The post data of a request: none, behind the request in its message, or in a block.
ddURIServer.cpp:202-255 -/
def acceptPostData (c : UriServerCtx) : Except Result PostDataInfo × UriServerCtx :=
  let payload := c.session.payload
  if 0 < payload.uriRequestDataSize then
    if payload.uriRequestBlockId = kInvalidBlockId then
      if c.session.pPostDataBlock = none then
        if payload.uriRequestDataSize ≤ kMaxInlineDataSize then
          (.ok ⟨payload.uriInlineData payload.uriRequestDataSize, payload.uriRequestDataFormat⟩, c)
        else (.error .uriInvalidParameters, c)
      else (.error .uriPendingRequestError, c.closePendingPostRequest)
    else
      match c.postedBlock with
      | some block => (.ok ⟨block.data, payload.uriRequestDataFormat⟩, c)
      | none => (.error .uriInvalidPostDataBlock, c.closePendingPostRequest)
  else (.ok .empty, c)

/-- What a request asks for, or the result it is turned down with.
ddURIServer.cpp:188-255 -/
def checkRequest (c : UriServerCtx) : Except Result UriRequest × UriServerCtx :=
  let payload := if c.session.version < uriPostProtocolVersion then
    c.session.payload.clearPostData else c.session.payload
  match payload.extractRequestParameters with
  | none => (.error .uriStringParseError, c.setPayload payload)
  | some (payload, serviceName, arguments) =>
    let accepted := (c.setPayload payload).acceptPostData
    (accepted.1.map fun postData => ⟨serviceName, arguments, postData⟩, accepted.2)

/-- The call of the service that a request names, which writes to the response block.
ddURIServer.cpp:267-273 -/
def callService (request : UriRequest) (block : SharedServerBlock) (c : UriServerCtx) :
    Result × URIDataFormat × UriServerCtx :=
  match c.services.serviceRequest request with
  | none => (.unavailable, URIDataFormat.unknown, c)
  | some answer =>
    (answer.result, answer.format,
      { c with served := c.served ++ [request] }.onBlock block (.write answer.written))

/-- A response block is opened and the service called; the response is created.
ddURIServer.cpp:257-302 -/
def handleRequest (request : UriRequest) (c : UriServerCtx) : UriServerCtx :=
  match c.openServerBlock with
  | (none, c) =>
    { c with session := { c.session with pResponseBlock := none } }.createPayload
      (uriResponsePayload .uriFailedToOpenResponseBlock kInvalidBlockId URIDataFormat.unknown 0)
  | (some block, c) =>
    let (result, format, c) :=
      { c with session := { c.session with pResponseBlock := some block } }.callService
        request block
    let c := c.closePendingPostRequest.onBlock block .close
    if result = .success then c.createPayload (uriResponsePayload result block.id format 0)
    else c.createPayload (uriResponsePayload result kInvalidBlockId URIDataFormat.unknown 0)

/-- A request.
ddURIServer.cpp:180-303 -/
def processRequest (c : UriServerCtx) : UriServerCtx :=
  match c.checkRequest with
  | (.ok request, c) => c.handleRequest request
  | (.error result, c) =>
    c.createPayload (uriResponsePayload result kInvalidBlockId URIDataFormat.unknown 0)

/-- A message, by its command; one that is neither request is sent back as it is.
ddURIServer.cpp:137-308 -/
def processPayload (c : UriServerCtx) : UriServerCtx :=
  match c.session.payload.uriCommand with
  | .uriPostRequest => c.processPostRequest
  | .uriRequest => c.processRequest
  | _ => c

/-- The payload that waits is sent.
ddURIServer.cpp:118-127 -/
def sendQueuedPayload (c : UriServerCtx) : UriServerCtx :=
  if c.session.hasQueuedPayload then
    let sent := c.sendPayload
    if sent.1 = .success then sent.2.setQueuedPayload false else sent.2
  else c

/-- The response is sent, or waits.
ddURIServer.cpp:310-314 -/
def sendResponse (c : UriServerCtx) : UriServerCtx :=
  let sent := c.sendPayload
  if sent.1 = .success then sent.2 else sent.2.setQueuedPayload true

/-- The message that an update is about to process, if it comes to one.
ddURIServer.cpp:118-135 -/
def takeMessage (c : UriServerCtx) : Bool × UriServerCtx :=
  let c := c.sendQueuedPayload
  if c.session.hasQueuedPayload then (false, c)
  else
    let received := c.receivePayload
    (decide (received.1 = .success), received.2)

def update (c : UriServerCtx) : UriServerCtx :=
  let taken := c.takeMessage
  if taken.1 then taken.2.processPayload.sendResponse else taken.2

/-- `~URISession`.
ddURIServer.cpp:84-93 -/
def destroy (c : UriServerCtx) : UriServerCtx :=
  { c with blocks := c.blocks.closeServerBlock c.session.pResponseBlock }.closePendingPostRequest

end UriServerCtx

/-! ## The ids of server blocks

`TransferManager::OpenServerBlock` with the loop that draws an id, and the blocks that were opened
and closed over the time of a manager. -/

/-- The loop of `OpenServerBlock`: it draws again after an id that is invalid and in use.
ddTransferManager.cpp:100-104 -/
def TransferManager.drawBlockId (m : TransferManager) : List BlockId → Option BlockId
  | [] => none
  | newBlockId :: draws =>
    if newBlockId = kInvalidBlockId ∧ (m.registeredServerBlocks newBlockId).isSome then
      m.drawBlockId draws
    else some newBlockId

/-- A transfer manager with the blocks that were opened and closed. -/
structure OpenedBlocks where
  manager : TransferManager
  opened : List SharedServerBlock
  closed : List SharedServerBlock

/-- The calls on a manager; a block that is not allocated is a null pointer. -/
inductive BlockIdAction where
  | openServerBlock (draws : List BlockId) (allocated : Bool)
  | closeServerBlock (pBlock : SharedServerBlock)

/-- Opening and closing of server blocks, with the ids that are drawn. -/
def blockIdMachine : Machine OpenedBlocks BlockIdAction (Option SharedServerBlock) where
  init s := s = ⟨.new, [], []⟩
  step
    | s, .openServerBlock draws allocated =>
      (s.manager.drawBlockId draws).map fun newBlockId =>
        if allocated then
          ({ s with
            manager := s.manager.openServerBlock newBlockId
            opened := s.opened ++ [⟨newBlockId, s.manager.nextBlock⟩] },
            some ⟨newBlockId, s.manager.nextBlock⟩)
        else (s, none)
    | s, .closeServerBlock pBlock =>
      if pBlock ∈ s.opened then
        some ({ s with
          manager := s.manager.closeServerBlock pBlock.id
          closed := s.closed ++ [pBlock] }, none)
      else none

end DevDriver.Model
