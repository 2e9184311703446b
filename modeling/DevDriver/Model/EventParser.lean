import DevDriver.Library.Buffer
import DevDriver.Model.Message

/-!
# Event tokens and the event parser

An event stream is a sequence of tokens: a header byte with the kind of the token and a small time
delta, the fields of the token, and for two kinds a payload.
-/

namespace DevDriver.Model

open Library

def kEventTimeUnit : UInt64 := 32

inductive EventTokenType where
  | provider
  | data
  | timestamp
  | timeDelta
  deriving DecidableEq, Repr

namespace EventTokenType

def toCode : EventTokenType → ℕ
  | .provider => 0
  | .data => 1
  | .timestamp => 2
  | .timeDelta => 3

def size : EventTokenType → ℕ
  | .provider => 24
  | .data => 16
  | .timestamp => 16
  | .timeDelta => 1

/-- `EventTokenHeader::bits::id`, the low four bits; the other values are no token. -/
def ofHeader (header : UInt8) : Option EventTokenType :=
  if header.toNat % 16 = 0 then some .provider
  else if header.toNat % 16 = 1 then some .data
  else if header.toNat % 16 = 2 then some .timestamp
  else if header.toNat % 16 = 3 then some .timeDelta
  else none

end EventTokenType

/-- `EventTokenHeader::bits::delta`, the high four bits. -/
def headerDelta (header : UInt8) : UInt64 := UInt64.ofNat (header.toNat / 16)

def eventTokenHeader (type : EventTokenType) (delta : ℕ) : UInt8 :=
  UInt8.ofNat (type.toCode + 16 * (delta % 16))

def kMaxEventTokenSize : ℕ := 25

/-- What the parser knows of the stream: the provider, and the time of its last token. -/
structure EventStreamInfo where
  providerId : UInt32
  timestampFrequency : UInt64
  timestamp : UInt64
  deriving DecidableEq, Repr

/-- `EventProviderToken`. -/
def EventStreamInfo.ofProviderToken (token : List UInt8) : EventStreamInfo where
  providerId := UInt32.ofNat (leNat (slice token 0 4))
  timestampFrequency := UInt64.ofNat (leNat (slice token 8 8))
  timestamp := UInt64.ofNat (leNat (slice token 16 8))

namespace EventStreamInfo

/-- `EventTimestampToken`. -/
def withTimestampToken (token : List UInt8) (info : EventStreamInfo) : EventStreamInfo where
  providerId := info.providerId
  timestampFrequency := UInt64.ofNat (leNat (slice token 0 8))
  timestamp := UInt64.ofNat (leNat (slice token 8 8))

/-- A time delta of these bytes, of which the parsers take six at most. -/
def advance (bytes : List UInt8) (info : EventStreamInfo) : EventStreamInfo :=
  { info with timestamp := info.timestamp + UInt64.ofNat (leNat (bytes.take 6)) }

end EventStreamInfo

/-- `DDEventParserEventInfo`. -/
structure EventInfo where
  providerId : UInt32
  eventId : UInt32
  eventIndex : UInt32
  totalPayloadSize : UInt64
  timestampFrequency : UInt64
  timestamp : UInt64
  deriving DecidableEq, Repr

/-- `EventDataToken`: the event it announces, at this time. -/
def EventInfo.ofDataToken (token : List UInt8) (info : EventStreamInfo) (timestamp : UInt64) :
    EventInfo where
  providerId := info.providerId
  eventId := UInt32.ofNat (leNat (slice token 0 4))
  eventIndex := UInt32.ofNat (leNat (slice token 4 4))
  totalPayloadSize := UInt64.ofNat (leNat (slice token 8 8))
  timestampFrequency := info.timestampFrequency
  timestamp := timestamp

/-! ## The parser -/

/-- `DD_EVENT_PARSER_STATE`. -/
inductive EventParserState where
  | unknown
  | eventReceived
  | payloadReceived
  | needMoreData
  deriving DecidableEq, Repr

inductive ParserInternalState where
  | parsingHeader
  | parsingToken
  | parsingPayload
  deriving DecidableEq, Repr

structure EventParser where
  buffer : List UInt8
  tokenBuffer : List UInt8
  tokenItemStart : ℕ
  parsingState : ParserInternalState
  stream : EventStreamInfo
  currDataPayload : List UInt8
  dataPayloadReadInBytes : ℕ

namespace EventParser

def new : EventParser := ⟨[], [], 0, .parsingHeader, ⟨0, 0, 0⟩, [], 0⟩

def setParsingBuffer (buffer : List UInt8) (p : EventParser) : EventParser :=
  { p with buffer := buffer }

/-- `CopyToTokenBuffer`, with whether more data is needed.
eventParser.cpp:123-168 -/
def copyToTokenBuffer (tokenItemSize : ℕ) (p : EventParser) : Bool × EventParser :=
  let tokenItemPartialSize := p.tokenBuffer.length - p.tokenItemStart
  let remainingTokenItemSize := tokenItemSize - tokenItemPartialSize
  if remainingTokenItemSize ≤ p.buffer.length then
    let tokenBuffer := p.tokenBuffer ++ p.buffer.take remainingTokenItemSize
    (false, { p with
      tokenBuffer := tokenBuffer
      tokenItemStart := tokenBuffer.length
      buffer := p.buffer.drop remainingTokenItemSize })
  else (true, { p with tokenBuffer := p.tokenBuffer ++ p.buffer, buffer := [] })

/-- `ResetTokenBuffer`, before the header of the next token is parsed.
eventParser.cpp:171-175 -/
def nextToken (p : EventParser) : EventParser :=
  { p with tokenBuffer := [], tokenItemStart := 0, parsingState := .parsingHeader }

def header (p : EventParser) : UInt8 := p.tokenBuffer.headD 0

def token (p : EventParser) : List UInt8 := p.tokenBuffer.drop 1

def getEventInfo (p : EventParser) : EventInfo :=
  .ofDataToken p.token p.stream (p.stream.timestamp + headerDelta p.header * kEventTimeUnit)

/-- The loop of `Parse` with a complete token: the state it returns to its caller, if it does.
eventParser.cpp:221-329 -/
def tokenParsed (type : EventTokenType) (p : EventParser) : Option EventParserState × EventParser :=
  match type with
  | .provider => (none, { p with stream := .ofProviderToken p.token }.nextToken)
  | .timestamp => (none, { p with stream := p.stream.withTimestampToken p.token }.nextToken)
  | .timeDelta => (none, { p with parsingState := .parsingPayload })
  | .data => (some .eventReceived, { p with parsingState := .parsingPayload })

/-- The payload of a data token.
eventParser.cpp:337-396 -/
def parseDataPayload (p : EventParser) : Option EventParserState × EventParser :=
  let totalPayloadSize := leNat (slice p.token 8 8)
  if p.dataPayloadReadInBytes < totalPayloadSize then
    if 0 < p.buffer.length then
      let size := min (totalPayloadSize - p.dataPayloadReadInBytes) p.buffer.length
      (some .payloadReceived, { p with
        currDataPayload := p.buffer.take size
        buffer := p.buffer.drop size
        dataPayloadReadInBytes := p.dataPayloadReadInBytes + size })
    else (some .needMoreData, p)
  else (none, { p with dataPayloadReadInBytes := 0 }.nextToken)

/-- The payload of a time delta token.
eventParser.cpp:398-432 -/
def parseTimeDelta (p : EventParser) : Option EventParserState × EventParser :=
  let deltaBytes := min (p.token.headD 0).toNat 6
  match p.copyToTokenBuffer deltaBytes with
  | (true, p) => (some .needMoreData, p)
  | (false, p) =>
    (none, { p with stream := p.stream.advance (slice p.tokenBuffer 2 deltaBytes) }.nextToken)

/-- One round of the loop of `Parse`: the state it returns to its caller, if it does.  A payload
state without a token that has a payload goes round for ever.
eventParser.cpp:186-438 -/
def parseRound (p : EventParser) : Option EventParserState × EventParser :=
  match p.parsingState with
  | .parsingHeader =>
    match p.copyToTokenBuffer 1 with
    | (true, p) => (some .needMoreData, p)
    | (false, p) => (none, { p with parsingState := .parsingToken })
  | .parsingToken =>
    match EventTokenType.ofHeader p.header with
    | none => (some .unknown, p)
    | some type =>
      match p.copyToTokenBuffer type.size with
      | (true, p) => (some .needMoreData, p)
      | (false, p) => p.tokenParsed type
  | .parsingPayload =>
    match EventTokenType.ofHeader p.header with
    | some .data => p.parseDataPayload
    | some .timeDelta => p.parseTimeDelta
    | _ => (none, p)

/-- The loop of `Parse` in some rounds at most. -/
def parseRounds : ℕ → EventParser → Option (EventParserState × EventParser)
  | 0, _ => none
  | rounds + 1, p =>
    match p.parseRound with
    | (some state, p) => some (state, p)
    | (none, p) => parseRounds rounds p

/-- `Parse`, with no answer when it takes more rounds than the bytes of the buffer can account
for.
eventParser.cpp:178-438 -/
def parse (p : EventParser) : Option (EventParserState × EventParser) :=
  parseRounds (3 * p.buffer.length + 2) p

end EventParser

inductive ParserReport where
  | event (info : EventInfo)
  | payload (data : List UInt8)
  deriving DecidableEq, Repr

namespace EventParser

/-- `Parse` is called until more data is needed, some times at most.  There is no result when a
call does not return or returns an unknown state. -/
def parseCalls : ℕ → EventParser → Option (List ParserReport × EventParser)
  | 0, _ => none
  | calls + 1, p =>
    match p.parse with
    | some (.needMoreData, p) => some ([], p)
    | some (.eventReceived, p) =>
      (parseCalls calls p).map fun r => (.event p.getEventInfo :: r.1, r.2)
    | some (.payloadReceived, p) =>
      (parseCalls calls p).map fun r => (.payload p.currDataPayload :: r.1, r.2)
    | some (.unknown, _) => none
    | none => none

/-- A buffer is parsed: `SetParsingBuffer`, and `Parse` until more data is needed. -/
def parseBuffer (buffer : List UInt8) (p : EventParser) :
    Option (List ParserReport × EventParser) :=
  (p.setParsingBuffer buffer).parseCalls (buffer.length + 1)

def parseBuffers : List (List UInt8) → EventParser → Option (List ParserReport × EventParser)
  | [], p => some ([], p)
  | buffer :: buffers, p =>
    match p.parseBuffer buffer with
    | none => none
    | some (reports, p) => (parseBuffers buffers p).map fun r => (reports ++ r.1, r.2)

end EventParser

end DevDriver.Model
