import DevDriver.Model.TransferProtocol

/-!
# Messages of the URI protocol

The payload structs of ddURIProtocol.h.  A client and a server build them in containers and read
them from the payloads that they receive, byte by byte, whatever the size of the payload.
-/

namespace DevDriver.Model

open Library

def uriResponseFormatsVersion : Version := 2

def uriPostProtocolVersion : Version := 3

abbrev kURIStringSize : ℕ := 256

abbrev kLegacyMaxSize : ℕ := 260

/-- `sizeof(URIRequestPayload)`. -/
abbrev kURIRequestPayloadSize : ℕ := 272

abbrev kMaxInlineDataSize : ℕ := kMaxPayloadSizeInBytes - kURIRequestPayloadSize

/-- The result codes of the URI protocol, ddcDefs.h. -/
def Result.uriStringParseError : Result := .code 1001
def Result.uriInvalidParameters : Result := .code 1002
def Result.uriInvalidPostDataBlock : Result := .code 1003
def Result.uriInvalidPostDataSize : Result := .code 1004
def Result.uriFailedToAcquirePostBlock : Result := .code 1005
def Result.uriFailedToOpenResponseBlock : Result := .code 1006
def Result.uriPendingRequestError : Result := .code 1008

/-- `URIMessage`; every other value is `unknown`. -/
inductive URIMessage where
  | unknown
  | uriRequest
  | uriResponse
  | uriPostRequest
  | uriPostResponse
  deriving DecidableEq, Repr

def URIMessage.toCode : URIMessage → UInt8
  | .unknown => 0
  | .uriRequest => 1
  | .uriResponse => 2
  | .uriPostRequest => 3
  | .uriPostResponse => 4

def URIMessage.ofCode (code : UInt8) : URIMessage :=
  if code = 1 then .uriRequest
  else if code = 2 then .uriResponse
  else if code = 3 then .uriPostRequest
  else if code = 4 then .uriPostResponse
  else .unknown

@[simp] theorem URIMessage.ofCode_toCode (m : URIMessage) : ofCode m.toCode = m := by
  cases m <;> rfl

/-- `TransferDataFormat` and `URIDataFormat`, which have the same values: any 32-bit value. -/
abbrev URIDataFormat := UInt32

def URIDataFormat.unknown : URIDataFormat := 0
def URIDataFormat.text : URIDataFormat := 1
def URIDataFormat.binary : URIDataFormat := 2

def uriHeader (command : URIMessage) : List UInt8 := [command.toCode, 0, 0, 0]

/-- The field that `Platform::Strncpy` copies a request string to: it is cut to make room for the
terminator. -/
def uriStringField (request : List UInt8) : List UInt8 :=
  (request.take (kURIStringSize - 1) ++ List.replicate kURIStringSize 0).take kURIStringSize

def uriRequestPayload (request : List UInt8) (blockId : BlockId) (dataFormat : URIDataFormat)
    (size : ℕ) : List UInt8 :=
  uriHeader .uriRequest ++ uriStringField request ++ leBytes 4 blockId.toNat ++
    leBytes 4 dataFormat.toNat ++ leBytes 4 size

def uriResponsePayload (status : Result) (blockId : BlockId) (format : URIDataFormat)
    (size : ℕ) : List UInt8 :=
  uriHeader .uriResponse ++ leBytes 4 status.toCode ++ leBytes 4 blockId.toNat ++
    leBytes 4 format.toNat ++ leBytes 4 size

def uriPostRequestPayload (request : List UInt8) (size : ℕ) : List UInt8 :=
  uriHeader .uriPostRequest ++ uriStringField request ++ leBytes 4 size

def uriPostResponsePayload (status : Result) (blockId : BlockId) : List UInt8 :=
  uriHeader .uriPostResponse ++ leBytes 4 status.toCode ++ leBytes 4 blockId.toNat

namespace SizedPayloadContainer

/-- The bytes a URI container sends: those of its payload, or the legacy size to a session of a
version before `URI_POST_PROTOCOL_VERSION`.
ddURIClient.cpp:445-459, ddURIServer.cpp:117-126 -/
def uriSentBytes (version : Version) (c : SizedPayloadContainer) : List UInt8 :=
  readBytes (if uriPostProtocolVersion ≤ version then c.payloadSize else kLegacyMaxSize) c.payload

/-! Fields of `GetPayload<T>()`. -/

/-- `URIHeader::command`. -/
def uriCommand (c : SizedPayloadContainer) : URIMessage :=
  .ofCode (UInt8.ofNat (payloadField c.payload 0 1))

/-- The string at `uriString` of a request.  It ends at the first zero byte, which a payload can
have behind the field. -/
def uriString (c : SizedPayloadContainer) : List UInt8 :=
  ((readBytes kMaxPayloadSizeInBytes c.payload).drop 4).takeWhile (· ≠ 0)

/-- `URIRequestPayload::blockId`. -/
def uriRequestBlockId (c : SizedPayloadContainer) : BlockId :=
  UInt32.ofNat (payloadField c.payload 260 4)

/-- `URIRequestPayload::dataFormat`. -/
def uriRequestDataFormat (c : SizedPayloadContainer) : URIDataFormat :=
  UInt32.ofNat (payloadField c.payload 264 4)

/-- `URIRequestPayload::dataSize`. -/
def uriRequestDataSize (c : SizedPayloadContainer) : ℕ := payloadField c.payload 268 4

/-- `URIPostRequestPayload::dataSize`. -/
def uriPostDataSize (c : SizedPayloadContainer) : ℕ := payloadField c.payload 260 4

def uriInlineData (size : ℕ) (c : SizedPayloadContainer) : List UInt8 :=
  ((readBytes kMaxPayloadSizeInBytes c.payload).drop kURIRequestPayloadSize).take size

/-- `result` of a response. -/
def uriResult (c : SizedPayloadContainer) : Result := .ofCode (payloadField c.payload 4 4)

/-- `blockId` of a response. -/
def uriResponseBlockId (c : SizedPayloadContainer) : BlockId :=
  UInt32.ofNat (payloadField c.payload 8 4)

/-- `URIResponsePayload::format`. -/
def uriResponseFormat (c : SizedPayloadContainer) : URIDataFormat :=
  UInt32.ofNat (payloadField c.payload 12 4)

end SizedPayloadContainer

end DevDriver.Model
