import DevDriver.Model.EventParser

/-!
# The legacy event parser

`EventParser` of legacyEventParser.cpp takes the buffers of an event stream in calls of `Parse` and
tells a caller what it finds through two callbacks.
-/

namespace DevDriver.Model

open Library

inductive EventDataState where
  | waitingForHeader
  | waitingForToken
  | waitingForPayload
  deriving DecidableEq, Repr

/-- `EventParser` of legacyEventParser.h, with the part of the token buffer that is in use. -/
structure LegacyEventParser where
  tokenBuffer : List UInt8
  eventPayloadBytesRead : ℕ
  eventDataState : EventDataState
  skipPayloadData : Bool
  stream : EventStreamInfo
  deriving DecidableEq

namespace LegacyEventParser

def new : LegacyEventParser := ⟨[], 0, .waitingForHeader, false, ⟨0, 0, 0⟩⟩

def token (p : LegacyEventParser) : List UInt8 := p.tokenBuffer.drop 1

def resetEventDataBufferState (p : LegacyEventParser) : LegacyEventParser :=
  { p with tokenBuffer := [], eventPayloadBytesRead := 0, eventDataState := .waitingForHeader }

/-- `GetTokenSize`, which is 0 for a header that is none of a token.
legacyEventParser.cpp:29-47 -/
def getTokenSize (header : UInt8) : ℕ := ((EventTokenType.ofHeader header).map (·.size)).getD 0

/-- legacyEventParser.cpp:262-327 -/
def processToken (p : LegacyEventParser) : LegacyEventParser :=
  match EventTokenType.ofHeader (p.tokenBuffer.headD 0) with
  | some .provider => { p with stream := .ofProviderToken p.token }.resetEventDataBufferState
  | some .timestamp =>
    { p with stream := p.stream.withTimestampToken p.token }.resetEventDataBufferState
  | some .timeDelta =>
    { p with
      stream := p.stream.advance
        (slice p.tokenBuffer 2 (p.token.headD 0).toNat) }.resetEventDataBufferState
  | _ => p.resetEventDataBufferState

end LegacyEventParser

structure LegacyParse where
  parser : LegacyEventParser
  reader : List UInt8
  answers : List Result
  reports : List ParserReport
  deriving DecidableEq

/-- How a round of the loop of `Parse` ends: the loop goes on, or the call returns, or the token
buffer has no room for what is written to it. -/
inductive LegacyRound where
  | next (c : LegacyParse)
  | stop (result : Result) (c : LegacyParse)
  | overrun
  deriving DecidableEq

/-- How a call of `Parse` ends; it is unfinished when it has not ended in the rounds it is given. -/
inductive LegacyOutcome where
  | returned (result : Result) (c : LegacyParse)
  | overrun
  | unfinished
  deriving DecidableEq

def sizeSub (m n : ℕ) : ℕ := (m + 2 ^ 64 - n) % 2 ^ 64

namespace LegacyParse

def getBytes (dataSize : ℕ) (c : LegacyParse) : Except Result (List UInt8 × LegacyParse) :=
  if 0 < dataSize then
    if dataSize ≤ c.reader.length then
      .ok (c.reader.take dataSize, { c with reader := c.reader.drop dataSize })
    else .error .error
  else .error .invalidParameter

def writeIntoTokenBuffer (bytes : List UInt8) (c : LegacyParse) : Option LegacyParse :=
  if c.parser.tokenBuffer.length + bytes.length ≤ kMaxEventTokenSize then
    some { c with parser := { c.parser with tokenBuffer := c.parser.tokenBuffer ++ bytes } }
  else none

def callback (report : ParserReport) (c : LegacyParse) : Result × LegacyParse :=
  (c.answers.headD .success,
    { c with answers := c.answers.tail, reports := c.reports ++ [report] })

def emitEventReceived (c : LegacyParse) : Result × LegacyParse :=
  let (result, c) := c.callback
    (.event (.ofDataToken c.parser.token c.parser.stream c.parser.stream.timestamp))
  if result = .rejected then
    (.success, { c with parser := { c.parser with skipPayloadData := true } })
  else (result, { c with parser := { c.parser with skipPayloadData := false } })

def emitPayloadData (data : List UInt8) (c : LegacyParse) : Result × LegacyParse :=
  let (result, c) := if c.parser.skipPayloadData then (.success, c) else c.callback (.payload data)
  if result = .success then
    (.success, { c with parser := { c.parser with
      eventPayloadBytesRead := c.parser.eventPayloadBytesRead + data.length } })
  else (result, c)

/-- A token is complete.
legacyEventParser.cpp:98-137 -/
def tokenDone (c : LegacyParse) : LegacyRound :=
  match EventTokenType.ofHeader (c.parser.tokenBuffer.headD 0) with
  | some .data =>
    match c.emitEventReceived with
    | (.success, c) =>
      if leNat (slice c.parser.token 8 8) ≠ 0 then
        .next { c with parser := { c.parser with eventDataState := .waitingForPayload } }
      else .next { c with parser := c.parser.resetEventDataBufferState }
    | (result, c) => .stop result c
  | some .timeDelta =>
    if 0 < (c.parser.token.headD 0).toNat then
      .next { c with parser := { c.parser with eventDataState := .waitingForPayload } }
    else .stop .error c
  | _ => .next { c with parser := c.parser.processToken }

/-- The round in front of a header.
legacyEventParser.cpp:59-73 -/
def headerRound (c : LegacyParse) : LegacyRound :=
  match c.getBytes 1 with
  | .error result => .stop result c
  | .ok (bytes, c) =>
    match c.writeIntoTokenBuffer bytes with
    | none => .overrun
    | some c => .next { c with parser := { c.parser with eventDataState := .waitingForToken } }

/-- The round inside a token.
legacyEventParser.cpp:74-141 -/
def tokenRound (c : LegacyParse) : LegacyRound :=
  match c.parser.tokenBuffer with
  | [] => .stop .error c
  | header :: got =>
    let tokenSize := LegacyEventParser.getTokenSize header
    match c.getBytes (min c.reader.length (sizeSub tokenSize got.length)) with
    | .error result => .stop result c
    | .ok (bytes, c) =>
      match c.writeIntoTokenBuffer bytes with
      | none => .overrun
      | some c => if c.parser.tokenBuffer.length = tokenSize + 1 then c.tokenDone else .next c

/-- The round inside a time delta.
legacyEventParser.cpp:151-174 -/
def deltaRound (c : LegacyParse) : LegacyRound :=
  match c.parser.token with
  | [] => .stop .error c
  | numBytes :: got =>
    match c.getBytes (min c.reader.length (sizeSub numBytes.toNat got.length)) with
    | .error result => .stop result c
    | .ok (bytes, c) =>
      match c.writeIntoTokenBuffer bytes with
      | none => .overrun
      | some c =>
        if c.parser.tokenBuffer.length = 2 + numBytes.toNat then
          .next { c with parser := c.parser.processToken }
        else .next c

/-- The round inside a payload.
legacyEventParser.cpp:175-214 -/
def payloadRound (c : LegacyParse) : LegacyRound :=
  if c.parser.token.length < EventTokenType.data.size then .stop .error c
  else
    let payloadSize := leNat (slice c.parser.token 8 8)
    match c.getBytes
        (min c.reader.length (sizeSub payloadSize c.parser.eventPayloadBytesRead)) with
    | .error result => .stop result c
    | .ok (bytes, c) =>
      match c.emitPayloadData bytes with
      | (.success, c) =>
        if c.parser.eventPayloadBytesRead = payloadSize then
          .next { c with parser := c.parser.resetEventDataBufferState }
        else .next c
      | (result, c) => .stop result c

/-- A round of the loop of `Parse`.
legacyEventParser.cpp:50-238 -/
def round (c : LegacyParse) : LegacyRound :=
  match c.parser.eventDataState with
  | .waitingForHeader => c.headerRound
  | .waitingForToken => c.tokenRound
  | .waitingForPayload =>
    match c.parser.tokenBuffer with
    | [] => .stop .error c
    | header :: _ =>
      match EventTokenType.ofHeader header with
      | some .timeDelta => c.deltaRound
      | some .data => c.payloadRound
      | _ => .stop .aborted c

/-- The loop of `Parse` in some rounds at most, with what each of them started from. -/
def rounds : ℕ → LegacyParse → List LegacyParse × LegacyOutcome
  | 0, _ => ([], .unfinished)
  | n + 1, c =>
    if c.reader = [] then ([], .returned .success c)
    else
      match c.round with
      | .next c' => (c :: (rounds n c').1, (rounds n c').2)
      | .stop result c' => ([c], .returned result c')
      | .overrun => ([c], .overrun)

end LegacyParse

/-- The arguments of a call of `Parse`, and the answers of the callbacks during it. -/
structure LegacyCall where
  buffer : List UInt8
  answers : List Result

namespace LegacyEventParser

/-- `Parse`, with no more rounds than bytes.
legacyEventParser.cpp:50-238 -/
def parse (call : LegacyCall) (p : LegacyEventParser) : List LegacyParse × LegacyOutcome :=
  LegacyParse.rounds (call.buffer.length + 1) ⟨p, call.buffer, call.answers, []⟩

/-- One call after the other as long as they return: what the rounds started from, and how the calls
ended. -/
def parseCalls : List LegacyCall → LegacyEventParser → List LegacyParse × List LegacyOutcome
  | [], _ => ([], [])
  | call :: calls, p =>
    match p.parse call with
    | (rounds, .returned result c) =>
      (rounds ++ (parseCalls calls c.parser).1,
        .returned result c :: (parseCalls calls c.parser).2)
    | (rounds, outcome) => (rounds, [outcome])

/-- One buffer after the other, with callbacks that accept everything.  There is no result when a
call fails. -/
def parseBuffers : List (List UInt8) → LegacyEventParser →
    Option (List ParserReport × LegacyEventParser)
  | [], p => some ([], p)
  | buffer :: buffers, p =>
    match (p.parse ⟨buffer, []⟩).2 with
    | .returned .success c =>
      (parseBuffers buffers c.parser).map fun r => (c.reports ++ r.1, r.2)
    | _ => none

end LegacyEventParser

end DevDriver.Model
