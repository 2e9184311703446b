import DevDriver.Model.SessionManager

/-!
# Message channels

`MessageChannel` of messageChannel.h and messageChannel.inl over a message transport: what it does
with the messages it receives, its updates, and how it registers and disconnects.
-/

namespace DevDriver.Model

open Library

/-- `Component`; every byte can be received. -/
abbrev Component := UInt8

def Component.unknown : Component := 0

abbrev StatusFlags := UInt16

/-- gpuopen.h. -/
structure ClientMetadata where
  protocols : UInt32
  clientType : Component
  reserved : UInt8
  status : StatusFlags
  deriving DecidableEq

namespace ClientMetadata

def zero : ClientMetadata := ⟨0, .unknown, 0, 0⟩

def IsDefault (m : ClientMetadata) : Prop :=
  m.protocols = 0 ∧ m.clientType = .unknown ∧ m.status = 0

instance (m : ClientMetadata) : Decidable m.IsDefault :=
  inferInstanceAs (Decidable (_ ∧ _ ∧ _))

/-- `filter.Matches(right)`.
gpuopen.cpp:29-55 -/
def Matches (filter right : ClientMetadata) : Prop :=
  ¬ filter.IsDefault →
    (filter.clientType ≠ .unknown → filter.clientType = right.clientType) ∧
    (filter.protocols ≠ 0 → filter.protocols &&& right.protocols = filter.protocols) ∧
    (filter.status ≠ 0 → filter.status &&& right.status = filter.status)

instance (filter right : ClientMetadata) : Decidable (filter.Matches right) :=
  inferInstanceAs (Decidable (_ → _))

def encode (m : ClientMetadata) : List UInt8 :=
  leBytes 4 m.protocols.toNat ++ (m.clientType :: m.reserved :: leBytes 2 m.status.toNat)

def toSequence (m : ClientMetadata) : ℕ := leNat m.encode

/-- `ClientMetadata::ClientMetadata(uint64)`.
gpuopen.cpp:8-27 -/
def ofSequence (value : ℕ) : ClientMetadata where
  protocols := UInt32.ofNat (value &&& 0xFFFF)
  clientType := UInt8.ofNat ((value &&& 0xFF00000000) >>> 32)
  reserved := 0
  status := UInt16.ofNat ((value &&& 0xFFFF000000000000) >>> 48)

end ClientMetadata

abbrev kMaxStringLength : ℕ := 128

/-- `sizeof(ClientInfoStruct)`. -/
abbrev kClientInfoSize : ℕ := 512

def stringField (size : ℕ) (s : List UInt8) : List UInt8 :=
  (s ++ List.replicate size 0).take size

/-- gpuopen.h. -/
structure ClientInfoStruct where
  clientName : List UInt8
  clientDescription : List UInt8
  metadata : ClientMetadata
  processId : UInt32

/-- The bytes of a `ClientInfoStruct`, its reserved bytes zero. -/
def ClientInfoStruct.encode (info : ClientInfoStruct) : List UInt8 :=
  stringField kMaxStringLength info.clientName ++
    (stringField kMaxStringLength info.clientDescription ++
      (List.replicate kMaxStringLength 0 ++
        (info.metadata.encode ++ (leBytes 4 info.processId.toNat ++ List.replicate 116 0))))

def Protocol.system : Protocol := 255

def Protocol.clientManagement : Protocol := 254

def kMessageVersion : ℕ := 1011

/-- systemProtocols.h; `ClientConnected` and `ClientInfo` are not handled. -/
inductive SystemMessage where
  | clientDisconnected
  | ping
  | pong
  | queryClientInfo
  | clientInfo
  | halted
  | unhandled
  deriving DecidableEq

def SystemMessage.ofCode (code : MessageCode) : SystemMessage :=
  if code = 2 then .clientDisconnected
  else if code = 3 then .ping
  else if code = 4 then .pong
  else if code = 5 then .queryClientInfo
  else if code = 6 then .clientInfo
  else if code = 7 then .halted
  else .unhandled

/-- `static_cast<MessageCode>`. -/
def SystemMessage.toCode : SystemMessage → MessageCode
  | .clientDisconnected => 2
  | .ping => 3
  | .pong => 4
  | .queryClientInfo => 5
  | .clientInfo => 6
  | .halted => 7
  | .unhandled => 0

/-- `ManagementMessage`, the messages that a channel sends or looks for. -/
def ManagementMessage.connectRequest : MessageCode := 1
def ManagementMessage.connectResponse : MessageCode := 2
def ManagementMessage.disconnectNotification : MessageCode := 3
def ManagementMessage.keepAlive : MessageCode := 9

/-- `IsOutOfBandMessage`.
systemProtocols.cpp:9-15 -/
def MessageBuffer.IsOutOfBand (m : MessageBuffer) : Prop :=
  m.header.dstClientId ||| m.header.srcClientId = kBroadcastClientId

instance (m : MessageBuffer) : Decidable m.IsOutOfBand := inferInstanceAs (Decidable (_ = _))

/-- `IsValidOutOfBandMessage`.
systemProtocols.cpp:17-23 -/
def MessageBuffer.IsValidOutOfBand (m : MessageBuffer) : Prop :=
  m.header.sequence = kMessageVersion ∧ m.header.protocolId = Protocol.clientManagement

instance (m : MessageBuffer) : Decidable m.IsValidOutOfBand :=
  inferInstanceAs (Decidable (_ ∧ _))

/-- `kOutOfBandMessage` with a message id, a session id and a payload. -/
def outOfBandMessage (messageId : MessageCode) (sessionId : SessionId) (payload : List UInt8) :
    MessageBuffer where
  header :=
    { srcClientId := kBroadcastClientId
      dstClientId := kBroadcastClientId
      protocolId := Protocol.clientManagement
      messageId := messageId
      windowSize := 0
      payloadSize := payload.length
      sessionId := sessionId
      sequence := kMessageVersion }
  payload := writeBytes payload MessageBuffer.zero.payload

structure ConnectResponsePayload where
  result : Result
  clientId : ClientId

/-- `reinterpret_cast<ConnectResponsePayload*>` of a payload array. -/
def ConnectResponsePayload.decode (p : Payload) : ConnectResponsePayload where
  result := .ofCode (payloadField p 0 4)
  clientId := UInt16.ofNat (payloadField p 4 2)

/-! ## The channel -/

structure MsgTransport where
  requiresClientRegistration : Bool
  requiresKeepAlive : Bool

def socketMsgTransport : MsgTransport := ⟨true, true⟩

structure MessageChannelCreateInfo where
  initialFlags : StatusFlags
  componentType : Component
  createUpdateThread : Bool
  clientDescription : List UInt8

/-- `DiscoveredClientInfo`, with the info that a Pong carries, if it does. -/
structure DiscoveredClientInfo where
  id : ClientId
  metadata : ClientMetadata
  clientInfo : Option (List UInt8)

structure DiscoveredClientsQueue where
  clients : List DiscoveredClientInfo
  active : Bool
  filter : ClientMetadata

/-- What a channel tells: its callbacks, and what the keep alive check does. -/
inductive ChannelEvent where
  | pongRequest (clientId : ClientId) (pClientInfo : Option (List UInt8))
  | clientHalted (clientId : ClientId) (clientInfo : List UInt8)
  | activity (timeInMs : ℕ)
  /-- "Received keep alive response" -/
  | keepAliveReceived (sequence : SessionId)
  | heartbeat (sequence : SessionId) (timeInMs : ℕ) (written : Result)
  /-- "Disconnecting transport due to keep alive timeout" -/
  | keepAliveTimeout (timeInMs : ℕ)
  /-- a client id was given, by a reply that was read at this time -/
  | registered (timeInMs : ℕ)

/-- `MessageChannel`, with what its transport and its update thread are in. -/
structure MessageChannel (ρ : Type) where
  clientId : ClientId
  transportConnected : Bool
  /-- `m_osSocket` of the transport's socket is not -1 -/
  socketOpen : Bool
  clientInfoResponse : ClientInfoStruct
  discoveredClientsQueue : DiscoveredClientsQueue
  busEventCb : Bool
  lastActivityTimeMs : ℕ
  lastKeepaliveTransmitted : SessionId
  lastKeepaliveReceived : SessionId
  sessionManager : SessionManager ρ
  /-- `m_pURIServer` is not null -/
  hasURIServer : Bool
  threadRunning : Bool

/-- A channel in the middle of a call, with what it has sent and told. -/
structure ChannelCtx (ρ : Type) where
  channel : MessageChannel ρ
  fx : Effects
  events : List ChannelEvent

/-- What the calls of a channel ask for. -/
structure ChannelEnv where
  manager : ManagerEnv
  shouldRespond : Bool
  pushBack : Bool

def kKeepAliveTimeout : ℕ := 2000

def kKeepAliveThreshold : ℕ := 5

section Channel

variable {ρ : Type} [RoundTripTime ρ]

/-- The branch of `SessionManager::ShutDownAllSessions` for a channel that is disconnected; its
last assertion is left out.
sessionManager.cpp:275-303, 324-327 -/
def handleTransportDisconnect (env : ManagerEnv) (c : ManagerCtx ρ) : ManagerCtx ρ :=
  if c.manager.sessions.entries = [] then c
  else updateSessions env (c.manager.sessions.entries.foldl
    (fun c entry => c.onSession entry.2 (Ctx.shutdown .endOfStream)) c)

def ChannelEnv.start (env : ChannelEnv) (channel : MessageChannel ρ) : ChannelCtx ρ :=
  ⟨channel, (env.manager.start channel.sessionManager).fx, []⟩

namespace ChannelCtx

def managerCtx (c : ChannelCtx ρ) : ManagerCtx ρ := ⟨c.channel.sessionManager, c.fx⟩

def ofManager (c : ChannelCtx ρ) (x : ManagerCtx ρ) : ChannelCtx ρ :=
  { c with
    channel := { c.channel with sessionManager := x.manager }
    fx := x.fx }

/-- `MessageChannel::Disconnect`, with a `close` that succeeds.
messageChannel.inl:910-921, socketMsgTransport.cpp:94-103 -/
def disconnect (env : ChannelEnv) (c : ChannelCtx ρ) : ChannelCtx ρ :=
  if c.channel.clientId ≠ kBroadcastClientId then
    let c : ChannelCtx ρ :=
      { c with channel :=
          { c.channel with
            clientId := kBroadcastClientId
            transportConnected := false
            socketOpen := c.channel.socketOpen && !c.channel.transportConnected } }
    c.ofManager (handleTransportDisconnect env.manager c.managerCtx)
  else c

/-- An answer of the transport that makes `Forward` disconnect. -/
def Breaks (r : Result) : Prop := r ≠ .success ∧ r ≠ .notReady

instance (r : Result) : Decidable (Breaks r) := inferInstanceAs (Decidable (_ ∧ _))

def forward (env : ChannelEnv) (m : MessageBuffer) (c : ChannelCtx ρ) : ChannelCtx ρ × Result :=
  if c.channel.clientId ≠ kBroadcastClientId then
    let written := c.fx.forward m
    let c : ChannelCtx ρ := { c with fx := written.1 }
    (if Breaks written.2 then c.disconnect env else c, written.2)
  else (c, .error)

/-- The channel after its session manager has worked, disconnected when something that the session
manager forwarded could not be written. -/
def afterManager (env : ChannelEnv) (c : ChannelCtx ρ) (x : ManagerCtx ρ) : ChannelCtx ρ :=
  let c' := c.ofManager x
  if (x.fx.forwarded.drop c.fx.forwarded.length).any fun p => decide (Breaks p.2) then
    c'.disconnect env
  else c'

/-- The message that `Send` builds.
messageChannel.inl:606-630 -/
def sendBuffer (dstClientId : ClientId) (protocol : Protocol) (message : MessageCode)
    (metadata : ClientMetadata) (payload : List UInt8) (c : ChannelCtx ρ) : MessageBuffer where
  header :=
    { srcClientId := c.channel.clientId
      dstClientId := dstClientId
      protocolId := protocol
      messageId := message
      windowSize := 0
      payloadSize := payload.length
      sessionId := 0
      sequence := metadata.toSequence }
  payload := writeBytes payload MessageBuffer.zero.payload

def send (env : ChannelEnv) (dstClientId : ClientId) (protocol : Protocol) (message : MessageCode)
    (metadata : ClientMetadata) (payload : List UInt8) (c : ChannelCtx ρ) :
    ChannelCtx ρ × Result :=
  if payload.length ≤ kMaxPayloadSizeInBytes then
    c.forward env (c.sendBuffer dstClientId protocol message metadata payload)
  else (c, .insufficientMemory)

def sendClientInfo (env : ChannelEnv) (dstClientId : ClientId) (message : SystemMessage)
    (c : ChannelCtx ρ) : ChannelCtx ρ :=
  (c.send env dstClientId Protocol.system message.toCode c.channel.clientInfoResponse.metadata
    c.channel.clientInfoResponse.encode).1

end ChannelCtx

def carriedClientInfo (m : MessageBuffer) : Option (List UInt8) :=
  if m.header.payloadSize = kClientInfoSize then some (readBytes kClientInfoSize m.payload)
  else none

/-- The Ping case.
messageChannel.inl:443-498 -/
def handlePing (env : ChannelEnv) (m : MessageBuffer) (c : ChannelCtx ρ) : ChannelCtx ρ :=
  if c.channel.busEventCb then
    let c : ChannelCtx ρ :=
      { c with events :=
          c.events ++ [.pongRequest m.header.srcClientId (carriedClientInfo m)] }
    if env.shouldRespond then c.sendClientInfo env m.header.srcClientId .pong else c
  else c.sendClientInfo env m.header.srcClientId .pong

/-- The Pong case; its event is left out.
messageChannel.inl:499-543 -/
def handlePong (env : ChannelEnv) (m : MessageBuffer) (c : ChannelCtx ρ) : ChannelCtx ρ :=
  let queue := c.channel.discoveredClientsQueue
  let metadata := ClientMetadata.ofSequence m.header.sequence
  if queue.active ∧ queue.filter.Matches metadata ∧ env.pushBack then
    { c with channel :=
        { c.channel with discoveredClientsQueue :=
            { queue with clients :=
                queue.clients ++ [⟨m.header.srcClientId, metadata, carriedClientInfo m⟩] } } }
  else c

/-- The Halted case.
messageChannel.inl:561-582 -/
def handleHalted (m : MessageBuffer) (c : ChannelCtx ρ) : ChannelCtx ρ :=
  if c.channel.busEventCb then
    { c with events :=
        c.events ++ [.clientHalted m.header.srcClientId (readBytes kClientInfoSize m.payload)] }
  else c

/-- A system message for this channel.
messageChannel.inl:439-593 -/
def handleSystemMessage (env : ChannelEnv) (m : MessageBuffer) (c : ChannelCtx ρ) : ChannelCtx ρ :=
  match SystemMessage.ofCode m.header.messageId with
  | .ping => handlePing env m c
  | .pong => handlePong env m c
  | .queryClientInfo => c.sendClientInfo env m.header.srcClientId .clientInfo
  | .clientDisconnected =>
    c.afterManager env (handleClientDisconnection m.header.srcClientId c.managerCtx)
  | .halted => handleHalted m c
  | .clientInfo | .unhandled => c

/-- Whether a message that is neither a session nor an out-of-band message is for this channel.
messageChannel.inl:428-437 -/
def IsForThisHost (m : MessageBuffer) (channel : MessageChannel ρ) : Prop :=
  m.header.dstClientId = channel.clientId ∨
    (m.header.dstClientId = kBroadcastClientId ∧
      (ClientMetadata.ofSequence m.header.sequence).Matches channel.clientInfoResponse.metadata)

instance (m : MessageBuffer) (channel : MessageChannel ρ) : Decidable (IsForThisHost m channel) :=
  inferInstanceAs (Decidable (_ ∨ _ ∧ _))

/-- The time of the last activity is taken for a transport that needs heartbeats.
messageChannel.inl:403-407 -/
def noteActivity (transport : MsgTransport) (c : ChannelCtx ρ) : ChannelCtx ρ :=
  if transport.requiresClientRegistration ∧ transport.requiresKeepAlive then
    { channel := { c.channel with lastActivityTimeMs := c.fx.currentTime }
      fx := c.fx.tick
      events := c.events ++ [.activity c.fx.currentTime] }
  else c

/-- `MessageChannel::HandleMessageReceived`; its assertion about the destination of a session
message belongs to the router and is left out.
messageChannel.inl:397-596 -/
def handleMessageReceived (transport : MsgTransport) (env : ChannelEnv) (m : MessageBuffer)
    (c : ChannelCtx ρ) : Option (ChannelCtx ρ) :=
  let c := noteActivity transport c
  if m.header.protocolId = Protocol.session then
    (handleReceivedSessionMessage m env.manager c.managerCtx).map (c.afterManager env)
  else if m.IsOutOfBand then
    if m.IsValidOutOfBand ∧ m.header.messageId = ManagementMessage.keepAlive then
      some
        { c with
          channel := { c.channel with lastKeepaliveReceived := m.header.sessionId }
          events := c.events ++ [.keepAliveReceived m.header.sessionId] }
    else some c
  else if m.header.protocolId = Protocol.system ∧ IsForThisHost m c.channel then
    some (handleSystemMessage env m c)
  else some c

abbrev FailedRead := { r : Result // r ≠ .success }

/-- A message is received into a buffer that was used before: behind its payload the buffer keeps
the bytes that it had. -/
def MessageBuffer.receiveInto (m buffer : MessageBuffer) : MessageBuffer where
  header := m.header
  payload := memcpyPayload m.header.payloadSize m.payload buffer.payload

/-- The loop of `Update`: the messages that can be read and the result that ends it.  A transport
that was disconnected meanwhile has no further message.
messageChannel.inl:91-103, socketMsgTransport.cpp:106-134 -/
def readMessages (transport : MsgTransport) (env : ChannelEnv) (last : FailedRead) :
    List MessageBuffer → MessageBuffer → ChannelCtx ρ → Option (ChannelCtx ρ × Result)
  | [], _, c => some (c, if c.channel.transportConnected then last.1 else .error)
  | m :: ms, buffer, c =>
    if c.channel.transportConnected then
      (handleMessageReceived transport env (m.receiveInto buffer) c).bind
        (readMessages transport env last ms (m.receiveInto buffer))
    else some (c, .error)

/-- The Ping of a discovery.
messageChannel.inl:111-118 -/
def sendPing (env : ChannelEnv) (c : ChannelCtx ρ) : ChannelCtx ρ × Result :=
  c.send env kBroadcastClientId Protocol.system SystemMessage.ping.toCode
    c.channel.discoveredClientsQueue.filter c.channel.clientInfoResponse.encode

/-- The heartbeat with the next sequence number.
messageChannel.inl:145-153 -/
def sendHeartbeat (env : ChannelEnv) (currentTime : ℕ) (c : ChannelCtx ρ) : ChannelCtx ρ :=
  let sequence := c.channel.lastKeepaliveTransmitted + 1
  let forwarded := ChannelCtx.forward env (outOfBandMessage ManagementMessage.keepAlive sequence [])
    { c with channel := { c.channel with lastKeepaliveTransmitted := sequence } }
  { forwarded.1 with
    channel := { forwarded.1.channel with lastActivityTimeMs := currentTime }
    events := forwarded.1.events ++ [.heartbeat sequence currentTime forwarded.2] }

/-- What `Update` does about keep-alive.
messageChannel.inl:133-163 -/
def keepAlive (env : ChannelEnv) (c : ChannelCtx ρ) : ChannelCtx ρ :=
  let currentTime := c.fx.currentTime
  let c : ChannelCtx ρ := { c with fx := c.fx.tick }
  if sub64 currentTime c.channel.lastActivityTimeMs > kKeepAliveTimeout then
    if (c.channel.lastKeepaliveTransmitted - c.channel.lastKeepaliveReceived).toNat <
        kKeepAliveThreshold then
      sendHeartbeat env currentTime c
    else
      ChannelCtx.disconnect env { c with events := c.events ++ [.keepAliveTimeout currentTime] }
  else c

/-- `Update` after its loop, which ended with `result`.
messageChannel.inl:105-166 -/
def finishUpdate (transport : MsgTransport) (env : ChannelEnv) (result : Result)
    (c : ChannelCtx ρ) : ChannelCtx ρ :=
  let pinged :=
    if result = .notReady ∧ c.channel.discoveredClientsQueue.active then
      let sent := sendPing env c
      (sent.1, if sent.2 = .success then .notReady else sent.2)
    else (c, result)
  let c :=
    if pinged.2 ≠ .notReady then pinged.1.disconnect env
    else if transport.requiresClientRegistration ∧ transport.requiresKeepAlive then
      keepAlive env pinged.1
    else pinged.1
  c.afterManager env (updateSessions env.manager c.managerCtx)

def ChannelCtx.update (transport : MsgTransport) (env : ChannelEnv) (reads : List MessageBuffer)
    (last : FailedRead) (c : ChannelCtx ρ) : Option (ChannelCtx ρ) :=
  (readMessages transport env last reads .zero c).map fun r => finishUpdate transport env r.2 r.1

/-! ## Registration -/

/-- What a round of the registration loop meets: the answer to the request that is written, the
message or the failure that is read, and the time since the first request. -/
structure RegisterRound where
  write : Result
  read : MessageBuffer ⊕ FailedRead
  elapsedTime : ℕ

/-- What the platform answers when the transport connects: whether there is a descriptor and whether
it can be made non-blocking, and what `Bind` and `Connect` return. -/
structure ConnectAnswers where
  socket : Bool
  nonBlocking : Bool
  bind : Result
  connect : Result

structure RegisterEnv where
  connect : ConnectAnswers
  rounds : List RegisterRound
  timeoutInMs : ℕ
  clientName : List UInt8
  processId : UInt32
  /-- the random `m_lastSessionId` -/
  sessionId : UInt32
  /-- the transfer server and the URI server, when there is memory for them -/
  transferServer : Option ProtocolServer
  uriServer : Option ProtocolServer
  startThread : Result

/-- What a round makes of the reply that was read.
messageChannel.inl:716-735 -/
def registerReply (reply : MessageBuffer) (clientId : ClientId) : Result × ClientId :=
  if reply.header.protocolId = Protocol.clientManagement then
    if reply.IsOutOfBand ∧ reply.IsValidOutOfBand ∧
        reply.header.messageId = ManagementMessage.connectResponse then
      let response := ConnectResponsePayload.decode reply.payload
      (response.result, response.clientId)
    else (.versionMismatch, clientId)
  else (.notReady, clientId)

/-- The registration loop, with the receive buffer and the client id; nothing when the rounds are
used up.
messageChannel.inl:707-741 -/
def registerLoop (timeoutInMs : ℕ) :
    List RegisterRound → MessageBuffer → ClientId → Option (Result × ClientId)
  | [], _, _ => none
  | round :: rounds, buffer, clientId =>
    let buffer :=
      match round.read with
      | .inl m => m.receiveInto buffer
      | .inr _ => buffer
    let r : Result × ClientId :=
      if round.write = .success then
        match round.read with
        | .inl _ => registerReply buffer clientId
        | .inr failed => (failed.1, clientId)
      else (round.write, clientId)
    if r.1 = .notReady ∧ round.elapsedTime < timeoutInMs then
      registerLoop timeoutInMs rounds buffer r.2
    else some r

/-- `SocketMsgTransport::Connect`.  A socket that was opened stays open when it cannot be set up,
bound or connected, and `Init` refuses a socket that is open.
socketMsgTransport.cpp:59-91, ddPosixSocket.cpp:144-193 -/
def connectTransport (answers : ConnectAnswers) (channel : MessageChannel ρ) :
    Result × MessageChannel ρ :=
  if channel.transportConnected ∨ channel.socketOpen ∨ ¬ answers.socket then (.error, channel)
  else if ¬ answers.nonBlocking then (.error, { channel with socketOpen := true })
  else if answers.bind ≠ .success then (answers.bind, { channel with socketOpen := true })
  else
    (answers.connect,
      { channel with socketOpen := true, transportConnected := answers.connect = .success })

/-- The connection of the transport and the client id that the router gives.
messageChannel.inl:677-747 -/
def registerClient (env : RegisterEnv) (channel : MessageChannel ρ) :
    Option (Result × MessageChannel ρ) :=
  let connected : Result × MessageChannel ρ :=
    if channel.clientId = kBroadcastClientId then connectTransport env.connect channel
    else (.error, channel)
  if connected.1 = .success ∧ connected.2.clientId = kBroadcastClientId then
    (registerLoop env.timeoutInMs env.rounds .zero kBroadcastClientId).map fun r =>
      (r.1, { connected.2 with clientId := r.2 })
  else some connected

/-- `SessionManager::Init` and the registration of a server that there was memory for.
sessionManager.cpp:67-87 -/
def initSessionManager (clientId : ClientId) (lastSessionId : UInt32)
    (servers : List ProtocolServer)
    (m : SessionManager ρ) : SessionManager ρ :=
  { m with
    clientId := clientId
    lastSessionId := lastSessionId
    protocolServers := servers.foldl
      (fun registered server =>
        if (registered server.protocol).isSome then registered
        else Function.update registered server.protocol (some server)) m.protocolServers }

/-- The parts of a registered channel are set up.
messageChannel.inl:749-797 -/
def initChannel (createInfo : MessageChannelCreateInfo) (env : RegisterEnv)
    (channel : MessageChannel ρ) : Result × MessageChannel ρ :=
  let info : ClientInfoStruct :=
    { clientName := env.clientName
      clientDescription := createInfo.clientDescription
      metadata := ⟨0, createInfo.componentType, 0, createInfo.initialFlags⟩
      processId := env.processId }
  let init (servers : List ProtocolServer) : MessageChannel ρ :=
    { channel with
      clientInfoResponse := info
      sessionManager :=
        initSessionManager channel.clientId env.sessionId servers channel.sessionManager }
  match env.transferServer, env.uriServer with
  | none, _ => (.error, init [])
  | some transferServer, none => (.error, init [transferServer])
  | some transferServer, some uriServer =>
    let channel := { init [transferServer, uriServer] with hasURIServer := true }
    if createInfo.createUpdateThread then
      (env.startThread, { channel with threadRunning := env.startThread = .success })
    else (.success, channel)

/-- `MessageChannel::Register` over a `SocketMsgTransport`.
messageChannel.inl:677-801 -/
def register (createInfo : MessageChannelCreateInfo) (env : RegisterEnv)
    (channel : MessageChannel ρ) : Option (Result × MessageChannel ρ) :=
  (registerClient env channel).map fun r =>
    if r.1 = .success then initChannel createInfo env r.2 else r

/-- `MessageChannel::Unregister` over a transport with registration.  The updates that a graceful
shutdown of the sessions waits for are steps of their own before it; the sessions that are left
then are shut down.
messageChannel.inl:803-841 -/
def unregister (env : ChannelEnv) (c : ChannelCtx ρ) : ChannelCtx ρ :=
  let c : ChannelCtx ρ :=
    { c with channel := { c.channel with threadRunning := false, hasURIServer := false } }
  let c := c.ofManager (handleTransportDisconnect env.manager c.managerCtx)
  let c : ChannelCtx ρ :=
    { c with channel :=
        { c.channel with sessionManager :=
            { c.channel.sessionManager with protocolServers := fun _ => none } } }
  let c : ChannelCtx ρ :=
    if c.channel.clientId ≠ kBroadcastClientId then
      { c with fx := (c.fx.forward
          { outOfBandMessage ManagementMessage.disconnectNotification 0 [] with
            header :=
              { (outOfBandMessage ManagementMessage.disconnectNotification 0 []).header with
                srcClientId := c.channel.clientId
                sequence := 0 } }).1 }
    else c
  c.disconnect env

end Channel

end DevDriver.Model
