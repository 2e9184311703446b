import DevDriver.Model.RouterCore

/-!
# The client manager of the listener

`ListenerClientManager` with the generator that it draws client ids from, `Random` of the platform,
whose constructor seeds it with the time.
-/

namespace DevDriver.Model

/-- `Random`, `m_prevState`. -/
structure Random where
  prevState : UInt64
  deriving DecidableEq

namespace Random

def kModulus : UInt64 := (1 : UInt64) <<< 48
def kMultiplier : UInt64 := 0x5DEECE66D
def kIncrement : UInt64 := 0xB

def generate (rand : Random) : UInt32 × Random :=
  let prevState := (rand.prevState * kMultiplier + kIncrement) % kModulus
  let part1 := ((prevState >>> 16) &&& 0xffff).toUInt32
  let part2 := ((prevState >>> 32) &&& 0xffff).toUInt32
  ((part2 <<< 15) ||| (part1 >>> 1), ⟨prevState⟩)

end Random

def kRouterPrefixMask : ClientId := ~~~kClientIdMask

def kMaxNumberOfClients : ℕ := (kClientIdMask - 1).toNat

/-- `ListenerClientManager` with `m_initialized` and `m_rand`. -/
structure SeededClientManager extends ListenerClientManager where
  initialized : Bool
  rand : Random
  deriving DecidableEq

namespace SeededClientManager

/-- The loop of `GenerateClientId`, `n` rounds of it at most.
listenerClientManager.cpp:113-119 -/
def searchClientId (manager : ListenerClientManager) : ℕ → Random → Option (ClientId × Random)
  | 0, _ => none
  | n + 1, rand =>
    let clientMask := ~~~manager.routerPrefixMask
    let (draw, rand) := rand.generate
    let randVal := draw + 1
    let tempClientId := (randVal &&& clientMask.toUInt32).toUInt16 ||| manager.routerPrefix
    if tempClientId &&& clientMask = kBroadcastClientId ∨ tempClientId ∈ manager.clientInfo then
      searchClientId manager n rand
    else some (tempClientId, rand)

def generateClientId (rounds : ℕ) (manager : SeededClientManager) :
    Option (ClientId × SeededClientManager) :=
  if manager.clientInfo.length < kMaxNumberOfClients then
    (searchClientId manager.toListenerClientManager rounds manager.rand).map
      fun (clientId, rand) => (clientId, { manager with rand := rand })
  else some (kBroadcastClientId, manager)

/-- `m_clientInfo.Insert`, whose result nobody looks at; without memory it changes nothing.
hashSet.h, hashBase.h:633-684 -/
def insertClient (hasMemory : Bool) (clientId : ClientId) (clientInfo : List ClientId) :
    List ClientId :=
  if hasMemory then clientInfo.insert clientId else clientInfo

/-- listenerClientManager.cpp:26-41 -/
def registerHost (rounds : ℕ) (hasMemory : Bool) (manager : SeededClientManager) :
    Option ((Result × Option ClientId) × SeededClientManager) :=
  if ¬ manager.initialized then
    (manager.generateClientId rounds).map fun (clientId, manager) =>
      ((.success, some clientId),
        { manager with
          hostClientId := clientId
          initialized := true
          clientInfo := insertClient hasMemory clientId manager.clientInfo })
  else some ((.error, none), manager)

/-- listenerClientManager.cpp:43-55 -/
def unregisterHost (manager : SeededClientManager) : Result × SeededClientManager :=
  if manager.initialized then
    (.success,
      { manager with
        clientInfo := []
        hostClientId := kBroadcastClientId
        initialized := false })
  else (.error, manager)

/-- listenerClientManager.cpp:57-81 -/
def registerClient (rounds : ℕ) (hasMemory : Bool) (manager : SeededClientManager) :
    Option ((Result × Option ClientId) × SeededClientManager) :=
  if manager.initialized then
    (manager.generateClientId rounds).map fun (tempClientId, manager) =>
      if tempClientId ≠ kBroadcastClientId then
        ((.success, some tempClientId),
          { manager with clientInfo := insertClient hasMemory tempClientId manager.clientInfo })
      else ((.error, none), manager)
  else some ((.error, none), manager)

def unregisterClient (clientId : ClientId) (manager : SeededClientManager) :
    Result × SeededClientManager :=
  if manager.initialized ∧ clientId ≠ manager.hostClientId then
    if clientId ∈ manager.clientInfo then
      (.success, { manager with clientInfo := manager.clientInfo.erase clientId })
    else (.error, manager)
  else (.error, manager)

end SeededClientManager

end DevDriver.Model
