import DevDriver.Library.LittleEndian
import Mathlib.Data.Fintype.Pi
import Mathlib.Data.Fintype.Basic

/-!
# Messages of the message bus

The message header and buffer of gpuopen.h and the session protocol's message codes and payload
structs of systemProtocols.h.  Identifiers keep the source's widths.
-/

namespace DevDriver.Model

open Library

abbrev ClientId := UInt16
abbrev SessionId := UInt32
abbrev MessageCode := UInt8
abbrev Protocol := UInt8
abbrev Version := UInt16
abbrev SessionVersion := UInt8

def kBroadcastClientId : ClientId := 0

def kInvalidSessionId : SessionId := 0

abbrev kMaxMessageSizeInBytes : ℕ := 1408

/-- `sizeof(MessageHeader)`. -/
abbrev kMessageHeaderSize : ℕ := 24

abbrev kMaxPayloadSizeInBytes : ℕ := kMaxMessageSizeInBytes - kMessageHeaderSize

instance : NeZero kMaxPayloadSizeInBytes := ⟨by decide⟩

def Protocol.session : Protocol := 253

/-- The difference of two 64-bit unsigned values, which wraps when it is negative. -/
def sub64 (a b : ℕ) : ℕ := if b ≤ a then a - b else 2 ^ 64 - (b - a)

theorem sub64_of_le {a b : ℕ} (h : b ≤ a) : sub64 a b = a - b := if_pos h

/-- The generic result codes of ddcDefs.h; every other 32-bit value is `code`. -/
inductive Result where
  | success
  | error
  | notReady
  | versionMismatch
  | unavailable
  | rejected
  | endOfStream
  | insufficientMemory
  | entryExists
  | code (value : ℕ)
  deriving DecidableEq, Repr

theorem Result.notReady_ne_success : Result.notReady ≠ .success := nofun

/-- `static_cast<Result>` of a value that is cut to 32 bits.
session.cpp:671, ddcDefs.h:189-211 -/
def Result.ofCode (value : ℕ) : Result :=
  match value % 2 ^ 32 with
  | 0 => .success
  | 1 => .error
  | 2 => .notReady
  | 3 => .versionMismatch
  | 4 => .unavailable
  | 5 => .rejected
  | 6 => .endOfStream
  | 8 => .insufficientMemory
  | 15 => .entryExists
  | n => .code n

def Result.toCode : Result → ℕ
  | .success => 0
  | .error => 1
  | .notReady => 2
  | .versionMismatch => 3
  | .unavailable => 4
  | .rejected => 5
  | .endOfStream => 6
  | .insufficientMemory => 8
  | .entryExists => 15
  | .code value => value

/-- `Result::Aborted` and `Result::InvalidParameter`, ddcDefs.h. -/
def Result.aborted : Result := .code 7
def Result.invalidParameter : Result := .code 9

/-- gpuopen.h. -/
structure MessageHeader where
  srcClientId : ClientId
  dstClientId : ClientId
  protocolId : Protocol
  messageId : MessageCode
  windowSize : ℕ
  payloadSize : ℕ
  sessionId : SessionId
  sequence : ℕ
  deriving DecidableEq

abbrev Payload := Fin kMaxPayloadSizeInBytes → UInt8

/-- gpuopen.h. -/
structure MessageBuffer where
  header : MessageHeader
  payload : Payload

/-- `MessageBuffer messageBuffer = {}`: every byte is zero. -/
def MessageBuffer.zero : MessageBuffer where
  header := ⟨0, 0, 0, 0, 0, 0, 0, 0⟩
  payload := fun _ => 0

def writeBytes (data : List UInt8) (dst : Payload) : Payload :=
  fun i => if h : i.val < data.length then data[i.val] else dst i

/-- The payload array after the first `count` bytes of `src` are copied over it. -/
def memcpyPayload (count : ℕ) (src dst : Payload) : Payload :=
  fun i => if i.val < count then src i else dst i

def readBytes (count : ℕ) (src : Payload) : List UInt8 :=
  List.ofFn fun i : Fin (min count kMaxPayloadSizeInBytes) =>
    src (i.castLE (min_le_right _ _))

def MessageBuffer.bytes (m : MessageBuffer) : List UInt8 :=
  readBytes m.header.payloadSize m.payload

theorem readBytes_writeBytes {data : List UInt8} (h : data.length ≤ kMaxPayloadSizeInBytes)
    (dst : Payload) : readBytes data.length (writeBytes data dst) = data := by
  apply List.ext_getElem
  · simp [readBytes, Nat.min_eq_left h]
  · intro i h₁ h₂
    simp [readBytes, writeBytes, h₂]

theorem readBytes_memcpyPayload (count : ℕ) (src dst : Payload) :
    readBytes count (memcpyPayload count src dst) = readBytes count src := by
  unfold readBytes memcpyPayload
  congr 1
  funext i
  have : i.val < count := lt_of_lt_of_le i.isLt (min_le_left _ _)
  simp [this]

/-! ## The session protocol -/

/-- systemProtocols.h. -/
inductive SessionMessage where
  | unknown
  | syn
  | synAck
  | fin
  | data
  | ack
  | rst
  deriving DecidableEq, Repr

/-- `static_cast<MessageCode>`. -/
def SessionMessage.toCode : SessionMessage → MessageCode
  | .unknown => 0
  | .syn => 1
  | .synAck => 2
  | .fin => 3
  | .data => 4
  | .ack => 5
  | .rst => 6

/-- `static_cast<SessionMessage>`; the codes the enumeration does not name take the default
branch of every switch, as `Unknown` does. -/
def SessionMessage.ofCode (code : MessageCode) : SessionMessage :=
  if code = 1 then .syn
  else if code = 2 then .synAck
  else if code = 3 then .fin
  else if code = 4 then .data
  else if code = 5 then .ack
  else if code = 6 then .rst
  else .unknown

@[simp] theorem SessionMessage.ofCode_toCode (k : SessionMessage) : ofCode k.toCode = k := by
  cases k <;> rfl

def MessageBuffer.kind (m : MessageBuffer) : SessionMessage :=
  SessionMessage.ofCode m.header.messageId

/-- The message `SessionManager::SendCommand` builds.
sessionManager.h:66-84 -/
def commandMessage (clientId remoteClientId : ClientId) (command : SessionMessage)
    (sessionId : SessionId) (sequenceNumber windowSize : ℕ) : MessageBuffer where
  header :=
    { dstClientId := remoteClientId
      srcClientId := clientId
      protocolId := Protocol.session
      messageId := command.toCode
      sessionId := sessionId
      sequence := sequenceNumber
      payloadSize := 0
      windowSize := windowSize }
  payload := MessageBuffer.zero.payload

/-- The message `SessionManager::SendReset` sends.
sessionManager.cpp:18-33 -/
def resetMessage (clientId remoteClientId : ClientId) (remoteSessionId : SessionId)
    (reason : Result) (version : Version) : MessageBuffer :=
  commandMessage clientId remoteClientId .rst remoteSessionId reason.toCode version.toNat

def payloadField (p : Payload) (offset width : ℕ) : ℕ :=
  leNat ((List.range width).map fun k => p (Fin.ofNat _ (offset + k)))

theorem payloadBytes_writeBytes {data : List UInt8} (pre field post : List UInt8) (dst : Payload)
    (hdata : data = pre ++ (field ++ post))
    (h : pre.length + field.length ≤ kMaxPayloadSizeInBytes) :
    (List.range field.length).map
      (fun k => writeBytes data dst (Fin.ofNat _ (pre.length + k))) = field := by
  subst hdata
  apply List.ext_getElem
  · simp
  · intro i h₁ h₂
    have hi : pre.length + i < kMaxPayloadSizeInBytes := by omega
    have hlength : pre.length + i < (pre ++ (field ++ post)).length := by
      simp only [List.length_append]
      omega
    simp only [List.getElem_map, List.getElem_range, writeBytes, Fin.val_ofNat,
      Nat.mod_eq_of_lt hi, hlength, dite_true]
    rw [List.getElem_append_right (Nat.le_add_right _ _)]
    simp only [Nat.add_sub_cancel_left]
    exact List.getElem_append_left h₂

theorem payloadField_writeBytes {data : List UInt8} (pre field post : List UInt8) (dst : Payload)
    (hdata : data = pre ++ (field ++ post))
    (h : pre.length + field.length ≤ kMaxPayloadSizeInBytes) :
    payloadField (writeBytes data dst) pre.length field.length = leNat field :=
  congrArg leNat (payloadBytes_writeBytes pre field post dst hdata h)

/-- `sizeof(SynPayload)`. -/
abbrev kSynPayloadSize : ℕ := 8

/-- `sizeof(SynAckPayload)`. -/
abbrev kSynAckPayloadSize : ℕ := 16

/-- systemProtocols.h: 8 bytes. -/
structure SynPayload where
  minVersion : Version
  protocol : Protocol
  sessionVersion : SessionVersion
  maxVersion : Version
  deriving DecidableEq

/-- The bytes of a `SynPayload`, its two reserved bytes zero. -/
def SynPayload.encode (p : SynPayload) : List UInt8 :=
  leBytes 2 p.minVersion.toNat ++ [p.protocol, p.sessionVersion] ++
    leBytes 2 p.maxVersion.toNat ++ [0, 0]

/-- `reinterpret_cast<const SynPayload*>` of a payload array. -/
def SynPayload.decode (p : Payload) : SynPayload where
  minVersion := UInt16.ofNat (payloadField p 0 2)
  protocol := UInt8.ofNat (payloadField p 2 1)
  sessionVersion := UInt8.ofNat (payloadField p 3 1)
  maxVersion := UInt16.ofNat (payloadField p 4 2)

/-- systemProtocols.h: 16 bytes. -/
structure SynAckPayload where
  sequence : ℕ
  initialSessionId : SessionId
  version : Version
  sessionVersion : SessionVersion
  deriving DecidableEq

/-- The bytes of a `SynAckPayload`, its reserved byte zero. -/
def SynAckPayload.encode (p : SynAckPayload) : List UInt8 :=
  leBytes 8 p.sequence ++ leBytes 4 p.initialSessionId.toNat ++
    leBytes 2 p.version.toNat ++ [p.sessionVersion, 0]

/-- `reinterpret_cast<const SynAckPayload*>` of a payload array. -/
def SynAckPayload.decode (p : Payload) : SynAckPayload where
  sequence := payloadField p 0 8
  initialSessionId := UInt32.ofNat (payloadField p 8 4)
  version := UInt16.ofNat (payloadField p 12 2)
  sessionVersion := UInt8.ofNat (payloadField p 14 1)

@[simp] theorem SynPayload.length_encode (p : SynPayload) : p.encode.length = 8 := by
  simp [SynPayload.encode]

@[simp] theorem SynAckPayload.length_encode (p : SynAckPayload) : p.encode.length = 16 := by
  simp [SynAckPayload.encode]

end DevDriver.Model
