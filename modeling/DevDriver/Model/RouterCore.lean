import DevDriver.Library.Table
import DevDriver.Model.MessageChannel

/-!
# The router core

`RouterCore` of the listener, its `ListenerClientManager` and the `RoutingCache` of a receive
thread.
-/

namespace DevDriver.Model

open Library

abbrev TransportHandle := ℕ

structure ConnectionInfo where
  data : List UInt8
  handle : TransportHandle
  deriving DecidableEq

/-- An `IListenerTransport`: which object it is, and the answer of `ForwardingConnection`. -/
structure ListenerTransport where
  object : ℕ
  forwardingConnection : Bool
  deriving DecidableEq

structure MessageContext where
  message : MessageBuffer
  connectionInfo : ConnectionInfo

namespace MessageContext

abbrev header (m : MessageContext) : MessageHeader := m.message.header

/-- The messages that the client thread hands to `ProcessClientManagementMessage`.
routerCore.cpp:572-573, 664-665 -/
def IsClientManagement (m : MessageContext) : Prop :=
  m.header.protocolId = Protocol.clientManagement ∨ m.message.IsOutOfBand

instance (m : MessageContext) : Decidable m.IsClientManagement :=
  inferInstanceAs (Decidable (_ ∨ _))

end MessageContext

structure ListenerClientManager where
  routerPrefix : ClientId
  routerPrefixMask : ClientId
  hostClientId : ClientId
  clientInfo : List ClientId
  deriving DecidableEq

def kClientIdMask : ClientId := 0x1FFF

namespace ListenerClientManager

/-- `GenerateClientId`, with what the random generator draws; nothing, when each of the draws was
refused.
listenerClientManager.cpp:100-124 -/
def generateClientId (manager : ListenerClientManager) (draws : List UInt32) : Option ClientId :=
  let clientMask := ~~~manager.routerPrefixMask
  if manager.clientInfo.length < (kClientIdMask - 1).toNat then
    (draws.map fun draw => (draw + 1).toUInt16 &&& clientMask ||| manager.routerPrefix).find?
      fun clientId => clientId &&& clientMask ≠ kBroadcastClientId ∧ clientId ∉ manager.clientInfo
  else some kBroadcastClientId

/-- `RegisterHost` of a manager that is not initialized.
listenerClientManager.cpp:26-41 -/
def registerHost (manager : ListenerClientManager) (draws : List UInt32) :
    Option ListenerClientManager :=
  (manager.generateClientId draws).map fun clientId =>
    { manager with
      hostClientId := clientId
      clientInfo := manager.clientInfo.insert clientId }

def registerClient (manager : ListenerClientManager) (draws : List UInt32) :
    Option (Result × ClientId × ListenerClientManager) :=
  (manager.generateClientId draws).map fun clientId =>
    if clientId ≠ kBroadcastClientId then
      (.success, clientId, { manager with clientInfo := manager.clientInfo.insert clientId })
    else (.error, kBroadcastClientId, manager)

def unregisterClient (manager : ListenerClientManager) (clientId : ClientId) :
    ListenerClientManager :=
  if clientId ≠ manager.hostClientId then
    { manager with clientInfo := manager.clientInfo.erase clientId }
  else manager

end ListenerClientManager

/-- routerCore.h. -/
structure ClientInfo where
  clientName : List UInt8
  clientDescription : List UInt8
  clientPid : UInt32
  clientId : ClientId
  hasBeenIdentified : Bool
  deriving DecidableEq

structure ClientContext where
  clientInfo : ClientInfo
  connectionInfo : ConnectionInfo
  pingRetryCount : UInt32
  receivedPong : Bool
  registeredClient : Bool
  deriving DecidableEq

structure TransportContext where
  pTransport : ListenerTransport
  clientMap : Table ClientId ConnectionInfo
  deriving DecidableEq

/-- Its name and its description are "Unknown".
routerCore.cpp:9-16 -/
def kUnknownClient : ClientInfo where
  clientName := [85, 110, 107, 110, 111, 119, 110]
  clientDescription := [85, 110, 107, 110, 111, 119, 110]
  clientPid := 0
  clientId := 0
  hasBeenIdentified := false

/-- `kNewClientContext`, with what `AddClient` fills in.
routerCore.cpp:18-24, 75-80 -/
def newClientContext (clientId : ClientId) (connectionInfo : ConnectionInfo)
    (registeredClient : Bool) : ClientContext where
  clientInfo := { kUnknownClient with clientId := clientId }
  connectionInfo := connectionInfo
  pingRetryCount := 0
  receivedPong := true
  registeredClient := registeredClient

structure RouterCore where
  clientMap : Table ClientId ClientContext
  transportMap : Table TransportHandle TransportContext
  pClientManager : Option ListenerClientManager
  lastTransportId : TransportHandle
  clientId : ClientId
  lastClientPingTimeInMs : ℕ
  clientTimeoutCount : UInt32
  queue : List MessageContext

def kClientDiscoveryIntervalInMs : ℕ := 3000

/-! ## What a call sees and does -/

/-- The assertions of the router core. -/
inductive RouterAssert where
  /-- `clientId != kBroadcastClientId`, routerCore.cpp:67 -/
  | addClient
  /-- `dstClientId == m_clientId || dstClientId == kBroadcastClientId`, routerCore.cpp:184 -/
  | routerDestination
  /-- `pSrcClientInfo != nullptr`, routerCore.cpp:235 -/
  | clientInfoSender
  /-- `externalClientId != kBroadcastClientId`, routerCore.cpp:431, 446 -/
  | externalClientId
  /-- `connectionInfo.handle != 0`, routerCore.cpp:870, 911 -/
  | connectionHandle
  /-- `pTransport != nullptr`, routerCore.cpp:915 -/
  | cachedTransport
  deriving DecidableEq

/-- What a router does to the outside. -/
inductive RouterEvent where
  | transmit (pTransport : ListenerTransport) (connectionInfo : ConnectionInfo)
      (message : MessageBuffer) (result : Result)
  | transmitBroadcast (pTransport : ListenerTransport) (message : MessageBuffer)
  | unregisterClient (clientId : ClientId)
  | assertFailed (assertion : RouterAssert)

/-- What the world does during a call: the results of the transmissions, by their number among the
events of the call, the stack that the call has, and the draws of the random generator. -/
structure RouterEnv where
  transmit : ℕ → ListenerTransport → ConnectionInfo → MessageBuffer → Result
  depth : ℕ
  draws : List UInt32

structure RouterCtx where
  core : RouterCore
  events : List RouterEvent

namespace RouterCtx

def emit (c : RouterCtx) (e : RouterEvent) : RouterCtx := { c with events := c.events ++ [e] }

/-- `DD_ASSERT`. -/
def assert (c : RouterCtx) (p : Prop) [Decidable p] (assertion : RouterAssert) : RouterCtx :=
  if p then c else c.emit (.assertFailed assertion)

def transmitMessage (env : RouterEnv) (pTransport : ListenerTransport)
    (connectionInfo : ConnectionInfo) (message : MessageBuffer) (c : RouterCtx) :
    Result × RouterCtx :=
  let result := env.transmit c.events.length pTransport connectionInfo message
  (result, c.emit (.transmit pTransport connectionInfo message result))

/-- `TransmitMessage` until its result is not `NotReady`, `n` times at most. -/
def transmitUntilReady (env : RouterEnv) (pTransport : ListenerTransport)
    (connectionInfo : ConnectionInfo) (message : MessageBuffer) :
    ℕ → RouterCtx → Option (Result × RouterCtx)
  | 0, _ => none
  | n + 1, c =>
    let sent := c.transmitMessage env pTransport connectionInfo message
    if sent.1 = .notReady then
      transmitUntilReady env pTransport connectionInfo message n sent.2
    else some sent

def findClientById (c : RouterCtx) (clientId : ClientId) : Option ClientContext :=
  c.core.clientMap.lookup clientId

def findExternalClientByConnection (c : RouterCtx) (connectionInfo : ConnectionInfo) :
    Option ClientContext :=
  (c.core.transportMap.lookup connectionInfo.handle).bind fun context =>
    if context.pTransport.forwardingConnection then none
    else
      (context.clientMap.entries.find? fun e => e.2.data = connectionInfo.data).bind fun e =>
        c.core.clientMap.lookup e.1

def transportForTransportHandle (c : RouterCtx) (handle : TransportHandle) :
    Option ListenerTransport :=
  if handle ≠ 0 then (c.core.transportMap.lookup handle).map (·.pTransport) else none

def setClient (c : RouterCtx) (clientId : ClientId) (client : ClientContext) : RouterCtx :=
  { c with core := { c.core with clientMap := c.core.clientMap.replace clientId client } }

/-- A record put into the client map, unless the client has one. -/
def emplaceClient (c : RouterCtx) (clientId : ClientId) (client : ClientContext) : RouterCtx :=
  { c with core := { c.core with clientMap := emplace clientId client c.core.clientMap } }

def eraseClient (c : RouterCtx) (clientId : ClientId) : RouterCtx :=
  { c with core := { c.core with clientMap := c.core.clientMap.erase clientId } }

def setTransportClients (c : RouterCtx) (handle : TransportHandle)
    (change : Table ClientId ConnectionInfo → Table ClientId ConnectionInfo) : RouterCtx :=
  match c.core.transportMap.lookup handle with
  | some context =>
    { c with
      core := { c.core with
        transportMap := c.core.transportMap.replace handle
          { context with clientMap := change context.clientMap } } }
  | none => c

def addClient (clientId : ClientId) (connectionInfo : ConnectionInfo) (registeredClient : Bool)
    (c : RouterCtx) : RouterCtx :=
  let c := c.assert (clientId ≠ kBroadcastClientId) .addClient
  if clientId ≠ kBroadcastClientId ∧ connectionInfo.handle ∈ c.core.transportMap then
    (c.emplaceClient clientId (newClientContext clientId connectionInfo registeredClient)
      ).setTransportClients connectionInfo.handle (emplace clientId connectionInfo)
  else c

def systemBroadcast (message : MessageCode) (srcClientId : ClientId) : MessageBuffer :=
  { MessageBuffer.zero with
    header := { MessageBuffer.zero.header with
      dstClientId := kBroadcastClientId
      srcClientId := srcClientId
      protocolId := Protocol.system
      messageId := message } }

/-- A message to the clients of one transport, with the last of them that it could not be
transmitted to.
routerCore.cpp:146-154 -/
def transmitToClients (env : RouterEnv) (message : MessageBuffer)
    (pTransport : ListenerTransport) :
    List (Σ _ : ClientId, ConnectionInfo) → ClientId × RouterCtx → ClientId × RouterCtx
  | [], r => r
  | e :: clients, (lastFailedClient, c) =>
    if e.1 ≠ message.header.srcClientId then
      let sent := c.transmitMessage env pTransport e.2 message
      transmitToClients env message pTransport clients
        (if sent.1 = .error then e.1 else lastFailedClient, sent.2)
    else transmitToClients env message pTransport clients (lastFailedClient, c)

/-- A message to the transports, with the last client that it could not be transmitted to.
routerCore.cpp:130-157 -/
def transmitToTransports (env : RouterEnv) (message : MessageBuffer)
    (pSourceTransport : Option ListenerTransport) :
    List (Σ _ : TransportHandle, TransportContext) → ClientId × RouterCtx →
      ClientId × RouterCtx
  | [], r => r
  | e :: transports, (lastFailedClient, c) =>
    transmitToTransports env message pSourceTransport transports
      (if e.2.pTransport.forwardingConnection then
        (lastFailedClient,
          if some e.2.pTransport ≠ pSourceTransport then
            c.emit (.transmitBroadcast e.2.pTransport message)
          else c)
      else
        transmitToClients env message e.2.pTransport e.2.clientMap.entries (lastFailedClient, c))

/-- `RemoveClient`, with the `SendBroadcastMessage` that it calls.
routerCore.cpp:93-124 -/
def removeClientWith (sendBroadcastMessage : MessageBuffer → RouterCtx → Option RouterCtx)
    (clientId : ClientId) (c : RouterCtx) : Option RouterCtx :=
  match c.core.clientMap.lookup clientId with
  | none => some c
  | some client =>
    let c := c.setTransportClients client.connectionInfo.handle (·.erase clientId)
    let announced :=
      if client.registeredClient then
        c.core.pClientManager.bind fun manager =>
          sendBroadcastMessage
            (systemBroadcast SystemMessage.clientDisconnected.toCode clientId)
            ({ c with core := { c.core with
                pClientManager := some (manager.unregisterClient clientId) } }.emit
              (.unregisterClient clientId))
      else some c
    announced.bind fun c =>
      -- the iterator is still valid unless the client was removed by the broadcast
      if clientId ∈ c.core.clientMap then some (c.eraseClient clientId) else none

/-- `SendBroadcastMessage`, on a stack of the given depth.
routerCore.cpp:126-166 -/
def sendBroadcastMessage (env : RouterEnv) :
    ℕ → Option ListenerTransport → MessageBuffer → RouterCtx → Option RouterCtx
  | 0, _, _, _ => none
  | depth + 1, pSourceTransport, message, c =>
    let sent := transmitToTransports env message pSourceTransport c.core.transportMap.entries
      (kBroadcastClientId, c)
    if sent.1 ≠ kBroadcastClientId then
      removeClientWith (sendBroadcastMessage env depth none) sent.1 sent.2
    else some sent.2

def removeClient (env : RouterEnv) (clientId : ClientId) (c : RouterCtx) : Option RouterCtx :=
  removeClientWith (sendBroadcastMessage env env.depth none) clientId c

end RouterCtx

end DevDriver.Model
