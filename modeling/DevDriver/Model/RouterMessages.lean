import DevDriver.Model.RouterCore

/-!
# The messages of the router

What the client thread of a router does with the messages in its queue and at its intervals, what a
receive thread does with a message through its `RoutingCache`, and how transports come and go.
-/

namespace DevDriver.Model

open Library

/-- `ManagementMessage`, the messages that only a router sends or answers. -/
def ManagementMessage.disconnectResponse : MessageCode := 4
def ManagementMessage.setClientFlags : MessageCode := 5
def ManagementMessage.setClientFlagsResponse : MessageCode := 6
def ManagementMessage.queryStatus : MessageCode := 7
def ManagementMessage.queryStatusResponse : MessageCode := 8

def SystemMessage.clientConnected : MessageCode := 1

/-- `sizeof(ConnectRequestPayload)`. -/
def kConnectRequestPayloadSize : ℕ := 8

/-- The bytes of a `ConnectResponsePayload`, its padding zero. -/
def ConnectResponsePayload.encode (p : ConnectResponsePayload) : List UInt8 :=
  leBytes 4 p.result.toCode ++ leBytes 2 p.clientId.toNat ++ [0, 0]

/-- The bytes of a `QueryStatusResponsePayload`: `Success` and `DeveloperModeEnabled`.
routerCore.cpp:541-546 -/
def queryStatusResponse : List UInt8 := leBytes 4 Result.success.toCode ++ leBytes 2 1 ++ [0, 0]

/-- `Platform::Strncpy` from byte `offset` of a payload array: what the destination then holds as
a string.
ddcPosixPlatform.cpp:777-806 -/
def strncpy (dstSize : ℕ) (p : Payload) (offset : ℕ) : List UInt8 :=
  ((List.range (dstSize - 1)).map fun k => p (Fin.ofNat _ (offset + k))).takeWhile (· ≠ 0)

/-- What a ClientInfo message says goes into the record of its sender.
routerCore.cpp:239-253 -/
def ClientContext.identify (client : ClientContext) (p : Payload) : ClientContext :=
  { client with
    clientInfo := { client.clientInfo with
      clientName := strncpy kMaxStringLength p 0
      clientDescription := strncpy kMaxStringLength p kMaxStringLength
      clientPid := UInt32.ofNat (payloadField p 392 4)
      hasBeenIdentified := true }
    pingRetryCount := 0
    receivedPong := true }

namespace RouterCtx

/-- The `QueryClientInfo` for a client.
routerCore.cpp:265-271 -/
def queryClientInfoMessage (c : RouterCtx) (clientId : ClientId) : MessageBuffer :=
  { MessageBuffer.zero with
    header := { MessageBuffer.zero.header with
      srcClientId := c.core.clientId
      dstClientId := clientId
      protocolId := Protocol.system
      messageId := SystemMessage.queryClientInfo.toCode } }

/-- The switch over the kinds of system messages: `client` is the record that was found before an
unknown sender was added, and the result says whether the sender is asked for its info.
routerCore.cpp:200-259 -/
def processSystemMessage (env : RouterEnv) (m : MessageContext) (client : Option ClientContext)
    (queryClientInfo : Bool) (c : RouterCtx) : Option (Bool × RouterCtx) :=
  let srcClientId := m.header.srcClientId
  let unidentified := client.any fun client => !client.clientInfo.hasBeenIdentified
  if m.header.messageId = SystemMessage.clientConnected then
    some (queryClientInfo || unidentified, c)
  else
    match SystemMessage.ofCode m.header.messageId with
    | .clientDisconnected =>
      (if client.isSome then removeClient env srcClientId c else some c).map (queryClientInfo, ·)
    | .pong =>
      match client with
      | some client =>
        some (queryClientInfo || unidentified,
          c.setClient srcClientId { client with receivedPong := true })
      | none => some (queryClientInfo, c)
    | .clientInfo =>
      let c := c.assert (client.isSome = true) .clientInfoSender
      match client with
      | some client => some (false, c.setClient srcClientId (client.identify m.message.payload))
      | none => some (queryClientInfo, c)
    | _ => some (queryClientInfo, c)

/-- routerCore.cpp:168-279 -/
def processRouterMessage (env : RouterEnv) (m : MessageContext) (c : RouterCtx) :
    Option RouterCtx :=
  match c.transportForTransportHandle m.connectionInfo.handle with
  | none => some c
  | some pTransport =>
    if m.header.protocolId = Protocol.system then
      let c := c.assert
        (m.header.dstClientId = c.core.clientId ∨ m.header.dstClientId = kBroadcastClientId)
        .routerDestination
      let srcClientId := m.header.srcClientId
      let client := c.findClientById srcClientId
      let isNew : Bool := client.isNone &&
        SystemMessage.ofCode m.header.messageId ≠ .clientDisconnected
      let c := if isNew then c.addClient srcClientId m.connectionInfo false else c
      (c.processSystemMessage env m client isNew).bind fun (queryClientInfo, c) =>
        if queryClientInfo then
          let sent := c.transmitMessage env pTransport m.connectionInfo
            (c.queryClientInfoMessage srcClientId)
          if sent.1 = .error then removeClient env srcClientId sent.2 else some sent.2
        else some c
    else some c

/-- A client's record when the time between two pings has passed.
routerCore.cpp:295-303 -/
def countPing (client : ClientContext) : ClientContext :=
  if client.receivedPong then { client with pingRetryCount := 0, receivedPong := false }
  else { client with pingRetryCount := client.pingRetryCount + 1 }

/-- The loop of `UpdateClients` at one client; a client that a failed broadcast has removed is
passed over, and one that has timed out is removed as `RemoveClient` does it.
routerCore.cpp:291-338 -/
def updateClient (env : RouterEnv) (clientId : ClientId) (c : RouterCtx) : Option RouterCtx :=
  match c.core.clientMap.lookup clientId with
  | none => some c
  | some client =>
    let c := c.setClient clientId (countPing client)
    if (countPing client).pingRetryCount > c.core.clientTimeoutCount then
      removeClient env clientId c
    else some c

def updateClients (env : RouterEnv) (currentTimeInMs : ℕ) (c : RouterCtx) : Option RouterCtx :=
  if c.core.lastClientPingTimeInMs ≤ sub64 currentTimeInMs kClientDiscoveryIntervalInMs then
    (c.core.clientMap.keys.foldlM (fun c clientId => updateClient env clientId c) c).bind fun c =>
      sendBroadcastMessage env env.depth none
        (systemBroadcast SystemMessage.ping.toCode c.core.clientId)
        { c with core := { c.core with lastClientPingTimeInMs := currentTimeInMs } }
  else some c

/-- The answer to a ConnectRequest, with the protocol of the request.
routerCore.cpp:380-393, 452-465 -/
def connectResponse (m : MessageContext) (result : Result) (clientId : ClientId) :
    MessageBuffer :=
  let message := outOfBandMessage ManagementMessage.connectResponse 0
    (ConnectResponsePayload.encode ⟨result, clientId⟩)
  { message with header := { message.header with protocolId := m.header.protocolId } }

/-- The registration that a ConnectRequest asks for, with its result and the client's id.
routerCore.cpp:417-450 -/
def connectClient (env : RouterEnv) (m : MessageContext) (c : RouterCtx) :
    Option (Result × ClientId × RouterCtx) :=
  if m.header.payloadSize = kConnectRequestPayloadSize then
    match c.findExternalClientByConnection m.connectionInfo with
    | some client =>
      some (.success, client.clientInfo.clientId,
        c.assert (client.clientInfo.clientId ≠ kBroadcastClientId) .externalClientId)
    | none =>
      (c.core.pClientManager.bind fun manager => manager.registerClient env.draws).bind
        fun (result, externalClientId, manager) =>
          if result = .success then
            let c := { c with core := { c.core with pClientManager := some manager } }
              |>.assert (externalClientId ≠ kBroadcastClientId) .externalClientId
              |>.addClient externalClientId m.connectionInfo true
            (sendBroadcastMessage env env.depth none
              (systemBroadcast SystemMessage.clientConnected externalClientId) c).map
                (result, externalClientId, ·)
          else some (result, externalClientId, c)
  else some (.versionMismatch, kBroadcastClientId, c)

/-- An answer of the router to a client that it manages.
routerCore.cpp:482-487, 505-516 -/
def clientResponse (m : MessageContext) (message : MessageCode) (payload : List UInt8)
    (c : RouterCtx) : MessageBuffer where
  header := { MessageBuffer.zero.header with
    srcClientId := c.core.clientId
    dstClientId := m.header.srcClientId
    protocolId := m.header.protocolId
    messageId := message
    payloadSize := payload.length }
  payload := writeBytes payload MessageBuffer.zero.payload

/-- The client that a connection belongs to is the sender of the message.
routerCore.cpp:475-478, 498-501 -/
def IsFromManagedClient (m : MessageContext) (c : RouterCtx) : Prop :=
  (c.findExternalClientByConnection m.connectionInfo).map (·.clientInfo.clientId) =
    some m.header.srcClientId

instance (m : MessageContext) (c : RouterCtx) : Decidable (IsFromManagedClient m c) :=
  inferInstanceAs (Decidable (_ = _))

def removeOnError (env : RouterEnv) (clientId : ClientId) (sent : Result × RouterCtx) :
    Option RouterCtx :=
  if sent.1 = .error then removeClient env clientId sent.2 else some sent.2

/-- routerCore.cpp:362-564 -/
def processClientManagementMessage (env : RouterEnv) (m : MessageContext) (c : RouterCtx) :
    Option RouterCtx :=
  match c.core.transportMap.lookup m.connectionInfo.handle with
  | none => some c
  | some context =>
    let pTransport := context.pTransport
    let srcClientId := m.header.srcClientId
    if m.message.IsOutOfBand ∧ ¬ m.message.IsValidOutOfBand then
      (c.transmitUntilReady env pTransport m.connectionInfo
        (connectResponse m .versionMismatch kBroadcastClientId) env.depth).map (·.2)
    else if m.message.IsOutOfBand ∧ m.message.IsValidOutOfBand ∧
        m.header.messageId = ManagementMessage.keepAlive then
      (c.transmitUntilReady env pTransport m.connectionInfo
        (outOfBandMessage ManagementMessage.keepAlive m.header.sessionId []) env.depth).map (·.2)
    else if m.header.messageId = ManagementMessage.connectRequest then
      (c.connectClient env m).bind fun (result, externalClientId, c) =>
        let sent := c.transmitMessage env pTransport m.connectionInfo
          (connectResponse m result externalClientId)
        if sent.1 = .error ∧ externalClientId ≠ kBroadcastClientId then
          removeClient env externalClientId sent.2
        else some sent.2
    else if m.header.messageId = ManagementMessage.disconnectNotification then
      if IsFromManagedClient m c then
        removeClient env srcClientId (c.transmitMessage env pTransport m.connectionInfo
          (clientResponse m ManagementMessage.disconnectResponse [] c)).2
      else some c
    else if m.header.messageId = ManagementMessage.setClientFlags then
      if IsFromManagedClient m c then
        (c.transmitUntilReady env pTransport m.connectionInfo
          (clientResponse m ManagementMessage.setClientFlagsResponse
            (leBytes 4 Result.error.toCode) c) env.depth).bind (removeOnError env srcClientId)
      else some c
    else if m.header.messageId = ManagementMessage.queryStatus then
      let message := outOfBandMessage ManagementMessage.queryStatusResponse 0 queryStatusResponse
      (c.transmitUntilReady env pTransport m.connectionInfo
        { message with header := { message.header with protocolId := m.header.protocolId } }
        env.depth).bind (removeOnError env srcClientId)
    else some c

/-! ## Routing -/

def routeInternalMessage (m : MessageContext) (c : RouterCtx) : RouterCtx :=
  { c with core := { c.core with queue := c.core.queue ++ [m] } }

/-- routerCore.cpp:566-590 -/
def isRoutableMessage (m : MessageContext) (c : RouterCtx) : Bool × RouterCtx :=
  if m.IsClientManagement then (false, c.routeInternalMessage m)
  else if m.header.srcClientId ≠ kBroadcastClientId then
    if m.header.protocolId = Protocol.system ∧
        (m.header.dstClientId = kBroadcastClientId ∨ m.header.dstClientId = c.core.clientId) then
      (true, c.routeInternalMessage m)
    else (true, c)
  else (false, c)

def routeBroadcastMessage (env : RouterEnv) (m : MessageContext) (c : RouterCtx) :
    Option RouterCtx :=
  sendBroadcastMessage env env.depth
    ((c.core.transportMap.lookup m.connectionInfo.handle).map (·.pTransport)) m.message c

end RouterCtx

structure CacheClientContext where
  connectionInfo : ConnectionInfo
  pTransport : Option ListenerTransport
  deriving DecidableEq

/-- `RoutingCache`; the current client's context is a copy of its entry in the cache. -/
structure RoutingCache where
  routingCache : Table ClientId CacheClientContext
  currentClientId : ClientId
  currentClientContext : Option CacheClientContext

def RoutingCache.new : RoutingCache := ⟨∅, kBroadcastClientId, none⟩

namespace RoutingCache

open RouterCtx

/-- The cache after the lookup of a destination.
routerCore.cpp:888-924 -/
def select (cache : RoutingCache) (dstClientId : ClientId) (c : RouterCtx) :
    RoutingCache × RouterCtx :=
  if cache.currentClientId ≠ dstClientId then
    match cache.routingCache.lookup dstClientId with
    | some context =>
      ({ cache with currentClientId := dstClientId, currentClientContext := some context }, c)
    | none =>
      match c.findClientById dstClientId with
      | some client =>
        let c := c.assert (client.connectionInfo.handle ≠ 0) .connectionHandle
        let context : CacheClientContext :=
          { connectionInfo := client.connectionInfo
            pTransport := c.transportForTransportHandle client.connectionInfo.handle }
        ({ routingCache := cache.routingCache.insert dstClientId context
           currentClientId := dstClientId
           currentClientContext := some context },
          c.assert (context.pTransport.isSome = true) .cachedTransport)
      | none => ({ cache with currentClientId := dstClientId, currentClientContext := none }, c)
  else (cache, c)

/-- `RouteMessage`; a cached context without a transport is a null pointer that is used.
routerCore.cpp:866-948 -/
def routeMessage (env : RouterEnv) (m : MessageContext) (cache : RoutingCache) (c : RouterCtx) :
    Option (RoutingCache × RouterCtx) :=
  let dstClientId := m.header.dstClientId
  let routable := (c.assert (m.connectionInfo.handle ≠ 0) .connectionHandle).isRoutableMessage m
  if routable.1 then
    if dstClientId = kBroadcastClientId then
      (routable.2.routeBroadcastMessage env m).map (cache, ·)
    else
      let (cache, c) := cache.select dstClientId routable.2
      match cache.currentClientContext with
      | none => some (cache, c)
      | some context =>
        context.pTransport.bind fun pTransport =>
          let sent := c.transmitMessage env pTransport context.connectionInfo m.message
          if sent.1 = .error then
            (removeClient env dstClientId sent.2).map
              ({ routingCache := cache.routingCache.erase dstClientId
                 currentClientId := kBroadcastClientId
                 currentClientContext := none }, ·)
          else some (cache, sent.2)
  else some (cache, routable.2)

end RoutingCache

namespace RouterCtx

/-- `RegisterTransport` once the transport has been enabled with the handle.
routerCore.cpp:770-789 -/
def registerTransport (pTransport : ListenerTransport) (c : RouterCtx) : RouterCtx :=
  let handle := c.core.lastTransportId + 1
  { c with
    core := { c.core with
      lastTransportId := handle
      transportMap := c.core.transportMap.insert handle ⟨pTransport, ∅⟩ } }

/-- `RemoveTransport`, before the transport is disabled.
routerCore.cpp:791-822 -/
def removeTransport (env : RouterEnv) (handle : TransportHandle) (c : RouterCtx) :
    Option RouterCtx :=
  match c.core.transportMap.lookup handle with
  | none => some c
  | some context =>
    (context.clientMap.keys.foldlM (fun c clientId => removeClient env clientId c) c).map fun c =>
      { c with core := { c.core with transportMap := c.core.transportMap.erase handle } }

end RouterCtx

end DevDriver.Model
