import DevDriver.Analysis.EventReading

/-!
# The calls of the event parser

A round of the loop of `Parse` takes some bytes off its buffer and leaves the parser where the
reader of tokens is behind these bytes.
-/

namespace DevDriver.Analysis

open Library Model EventParser

/-- The rules of `EventParser`: no more than six bytes of a time delta are taken, and the delta of
a header counts in units. -/
def parserRules : TokenRules where
  deltaBytes announced := some (min announced.toNat 6)
  eventTime stream header := stream.timestamp + headerDelta header * kEventTimeUnit

/-- In front of a header. -/
structure AtHeader (p : EventParser) : Prop where
  state : p.parsingState = .parsingHeader
  tokenBuffer : p.tokenBuffer = []
  tokenItemStart : p.tokenItemStart = 0
  readInBytes : p.dataPayloadReadInBytes = 0

/-- Behind the last byte of a payload, and the next header has not been looked for. -/
structure PayloadDone (p : EventParser) : Prop where
  state : p.parsingState = .parsingPayload
  type : EventTokenType.ofHeader p.header = some .data
  size : leNat (slice p.token 8 8) = p.dataPayloadReadInBytes

/-- Behind a time delta token that announces no bytes. -/
structure EmptyDelta (p : EventParser) : Prop where
  state : p.parsingState = .parsingPayload
  type : EventTokenType.ofHeader p.header = some .timeDelta
  tokenItemStart : p.tokenItemStart = p.tokenBuffer.length
  announced : min (p.token.headD 0).toNat 6 = 0
  readInBytes : p.dataPayloadReadInBytes = 0

/-- Inside a token. -/
structure InToken (header : UInt8) (got : List UInt8) (p : EventParser) : Prop where
  state : p.parsingState = .parsingToken
  tokenBuffer : p.tokenBuffer = header :: got
  tokenItemStart : p.tokenItemStart = 1
  part : ∃ type, EventTokenType.ofHeader header = some type ∧ got.length < type.size
  readInBytes : p.dataPayloadReadInBytes = 0

/-- Inside a time delta. -/
structure InDelta (count : ℕ) (got : List UInt8) (p : EventParser) : Prop where
  state : p.parsingState = .parsingPayload
  tokenBuffer : ∃ header announced, p.tokenBuffer = header :: announced :: got ∧
    EventTokenType.ofHeader header = some .timeDelta ∧ min announced.toNat 6 = count
  tokenItemStart : p.tokenItemStart = 2
  part : got.length < count
  readInBytes : p.dataPayloadReadInBytes = 0

/-- Inside a payload. -/
structure InPayload (remaining : ℕ) (p : EventParser) : Prop where
  state : p.parsingState = .parsingPayload
  type : EventTokenType.ofHeader p.header = some .data
  size : leNat (slice p.token 8 8) = p.dataPayloadReadInBytes + remaining
  part : 0 < remaining

def Placed (p : EventParser) : TokenPlace → Prop
  | .header => AtHeader p ∨ PayloadDone p ∨ EmptyDelta p
  | .token header got => InToken header got p
  | .delta count got => InDelta count got p
  | .payload remaining => InPayload remaining p
  | .lost => False

/-- The parser is where the reader is, and knows the same of the stream. -/
structure ParserReadsAs (p : EventParser) (s : TokenState) : Prop where
  stream : p.stream = s.stream
  placed : Placed p s.place

def roundsLeft (p : EventParser) : ℕ :=
  3 * p.buffer.length + if p.parsingState = .parsingHeader then 0 else 1

structure RoundDone (s : TokenState) (p : EventParser) (taken : List UInt8)
    (state : Option EventParserState) (p' : EventParser) (s' : TokenState) : Prop where
  buffer : p.buffer = taken ++ p'.buffer
  reads : ParserReadsAs p' s'
  done : match state with
    | none => (tokenReader parserRules).read s taken = (s', []) ∧ roundsLeft p' < roundsLeft p
    | some .needMoreData =>
      (tokenReader parserRules).read s taken = (s', []) ∧ p'.buffer = []
    | some .eventReceived => taken ≠ [] ∧
      (tokenReader parserRules).read s taken = (s', [.event p'.getEventInfo])
    | some .payloadReceived => taken ≠ [] ∧
      (tokenReader parserRules).read s taken = (s', p'.currDataPayload.map .byte)
    | some .unknown => False

variable {p : EventParser} {s : TokenState} {stream : EventStreamInfo}

/-! ## Rounds -/

theorem copyToTokenBuffer_of_le {size rest : ℕ} (hsize : size =
    p.tokenBuffer.length - p.tokenItemStart + rest) (hle : rest ≤ p.buffer.length) :
    p.copyToTokenBuffer size = (false, { p with
      tokenBuffer := p.tokenBuffer ++ p.buffer.take rest
      tokenItemStart := (p.tokenBuffer ++ p.buffer.take rest).length
      buffer := p.buffer.drop rest }) := by
  have hrest : size - (p.tokenBuffer.length - p.tokenItemStart) = rest := by omega
  unfold copyToTokenBuffer
  simp only [hrest]
  rw [if_pos hle]

theorem copyToTokenBuffer_of_lt {size rest : ℕ} (hsize : size =
    p.tokenBuffer.length - p.tokenItemStart + rest) (hlt : p.buffer.length < rest) :
    p.copyToTokenBuffer size = (true, { p with
      tokenBuffer := p.tokenBuffer ++ p.buffer
      buffer := [] }) := by
  have hrest : size - (p.tokenBuffer.length - p.tokenItemStart) = rest := by omega
  unfold copyToTokenBuffer
  simp only [hrest]
  rw [if_neg (by omega)]

theorem atHeader_nextToken (h : p.dataPayloadReadInBytes = 0) : AtHeader p.nextToken :=
  ⟨rfl, rfl, rfl, h⟩

theorem round_header (h : AtHeader p)
    (hread : ((tokenReader parserRules).read ⟨p.stream, .header⟩ p.buffer).1.place ≠ .lost) :
    ∃ taken s', RoundDone ⟨p.stream, .header⟩ p taken p.parseRound.1 p.parseRound.2 s' := by
  have hsize : 1 = p.tokenBuffer.length - p.tokenItemStart + 1 := by
    rw [h.tokenBuffer, h.tokenItemStart]
    rfl
  cases hbuffer : p.buffer with
  | nil =>
    have hround : p.parseRound = (some .needMoreData, { p with
        tokenBuffer := p.tokenBuffer ++ p.buffer
        buffer := [] }) := by
      unfold parseRound
      simp only [h.state, copyToTokenBuffer_of_lt hsize (by rw [hbuffer]; exact Nat.one_pos)]
    rw [hround]
    refine ⟨[], ⟨p.stream, .header⟩, hbuffer, ⟨rfl, .inl ⟨h.state, ?_, h.tokenItemStart,
      h.readInBytes⟩⟩, rfl, rfl⟩
    show p.tokenBuffer ++ p.buffer = []
    rw [h.tokenBuffer, hbuffer]
    rfl
  | cons b rest =>
    have hround : p.parseRound = (none, { p with
        tokenBuffer := p.tokenBuffer ++ p.buffer.take 1
        tokenItemStart := (p.tokenBuffer ++ p.buffer.take 1).length
        buffer := p.buffer.drop 1
        parsingState := .parsingToken }) := by
      unfold parseRound
      simp only [h.state, copyToTokenBuffer_of_le hsize (by rw [hbuffer]; simp)]
    rw [hround]
    cases htype : EventTokenType.ofHeader b with
    | none =>
      exfalso
      apply hread
      have hstep : (tokenReader parserRules).step ⟨p.stream, .header⟩ b =
          (⟨p.stream, .lost⟩, []) := by
        simp only [tokenReader, tokenStep, htype]
      rw [hbuffer, Reader.read_cons, hstep, read_lost]
    | some type =>
      have hstep : (tokenReader parserRules).step ⟨p.stream, .header⟩ b =
          (⟨p.stream, .token b []⟩, []) := by
        simp only [tokenReader, tokenStep, htype]
      refine ⟨[b], ⟨p.stream, .token b []⟩, ?_, ⟨rfl, rfl, ?_, ?_, ⟨type, htype, ?_⟩,
        h.readInBytes⟩, ?_, ?_⟩
      · rw [hbuffer]
        rfl
      · show p.tokenBuffer ++ p.buffer.take 1 = [b]
        rw [h.tokenBuffer, hbuffer]
        rfl
      · show (p.tokenBuffer ++ p.buffer.take 1).length = 1
        rw [h.tokenBuffer, hbuffer]
        rfl
      · cases type <;> decide
      · rw [Reader.read_singleton, hstep]
      · have hheader := h.state
        unfold roundsLeft
        simp only [hbuffer, hheader, List.drop_succ_cons, List.drop_zero, List.length_cons,
          if_true, reduceCtorEq, if_false]
        omega

theorem round_finished (h : PayloadDone p ∨ EmptyDelta p) :
    RoundDone ⟨p.stream, .header⟩ p [] p.parseRound.1 p.parseRound.2 ⟨p.stream, .header⟩ := by
  have hleft : ∀ p' : EventParser, p.parsingState = .parsingPayload →
      p'.parsingState = .parsingHeader → p'.buffer = p.buffer → roundsLeft p' < roundsLeft p := by
    intro p' hstate hstate' hbuffer
    unfold roundsLeft
    rw [hstate, hstate', hbuffer]
    simp
  rcases h with h | h
  · have hround : p.parseRound = (none, { p with dataPayloadReadInBytes := 0 }.nextToken) := by
      unfold parseRound
      simp only [h.state, h.type]
      unfold parseDataPayload
      simp only [h.size, lt_irrefl, if_false, nextToken]
    rw [hround]
    exact ⟨rfl, ⟨rfl, .inl (atHeader_nextToken rfl)⟩, rfl, hleft _ h.state rfl rfl⟩
  · have hcopy := copyToTokenBuffer_of_le
      (show 0 = p.tokenBuffer.length - p.tokenItemStart + 0 by rw [h.tokenItemStart]; simp)
      (Nat.zero_le _)
    simp only [List.take_zero, List.append_nil, List.drop_zero] at hcopy
    have hround : p.parseRound = (none, { p with
        stream := p.stream.advance []
        tokenItemStart := p.tokenBuffer.length }.nextToken) := by
      unfold parseRound
      simp only [h.state, h.type]
      unfold parseTimeDelta
      simp only [h.announced, hcopy, slice_zero, nextToken]
    have hadvance : p.stream.advance [] = p.stream := by
      simp [EventStreamInfo.advance, leNat]
    rw [hround, hadvance]
    exact ⟨rfl, ⟨rfl, .inl (atHeader_nextToken h.readInBytes)⟩, rfl, hleft _ h.state rfl rfl⟩

theorem roundDone_tokenParsed {header : UInt8} {got taken : List UInt8} {type : EventTokenType}
    {p' : EventParser} (htype : EventTokenType.ofHeader header = some type)
    (hbuffer : p.buffer = taken ++ p'.buffer) (htaken : taken ≠ [])
    (hstate : p.parsingState = .parsingToken) (hstream : p'.stream = p.stream)
    (htoken : p'.tokenBuffer = header :: (got ++ taken))
    (hstart : p'.tokenItemStart = p'.tokenBuffer.length)
    (hread : p'.dataPayloadReadInBytes = 0)
    (hlength : got.length + taken.length = type.size) :
    ∃ s', RoundDone ⟨p.stream, .token header got⟩ p taken (p'.tokenParsed type).1
      (p'.tokenParsed type).2 s' := by
  have hwhole : (tokenReader parserRules).read ⟨p.stream, .token header got⟩ taken =
      tokenRead parserRules p.stream header (got ++ taken) type :=
    read_token htype htaken hlength
  have hheader : p'.header = header := by
    rw [EventParser.header, htoken]
    rfl
  have htoken' : p'.token = got ++ taken := by
    rw [token, htoken]
    rfl
  have hleft : ∀ q : EventParser, q.buffer = p'.buffer → roundsLeft q < roundsLeft p := by
    intro q hq
    have hpos : 0 < taken.length := List.length_pos_iff.mpr htaken
    unfold roundsLeft
    rw [hstate, hq, hbuffer, List.length_append]
    split <;> simp only [reduceCtorEq, if_false] <;> omega
  cases type with
  | provider =>
    refine ⟨⟨.ofProviderToken (got ++ taken), .header⟩, hbuffer, ⟨?_, .inl ?_⟩, hwhole, ?_⟩
    · show EventStreamInfo.ofProviderToken p'.token = _
      rw [htoken']
    · exact atHeader_nextToken hread
    · exact hleft _ rfl
  | timestamp =>
    refine ⟨⟨p.stream.withTimestampToken (got ++ taken), .header⟩, hbuffer, ⟨?_, .inl ?_⟩, hwhole,
      ?_⟩
    · show p'.stream.withTimestampToken p'.token = _
      rw [htoken', hstream]
    · exact atHeader_nextToken hread
    · exact hleft _ rfl
  | timeDelta =>
    obtain ⟨announced, hannounced⟩ : ∃ announced, got ++ taken = [announced] :=
      List.length_eq_one_iff.mp (by rw [List.length_append]; exact hlength)
    refine ⟨⟨p.stream, deltaPlace (min announced.toNat 6)⟩, hbuffer, ⟨hstream, ?_⟩, ?_, hleft _ rfl⟩
    · show Placed { p' with parsingState := .parsingPayload } (deltaPlace (min announced.toNat 6))
      rw [hannounced] at htoken htoken'
      cases hcount : min announced.toNat 6 with
      | zero =>
        refine .inr (.inr ⟨rfl, ?_, hstart, ?_, hread⟩)
        · show EventTokenType.ofHeader p'.header = _
          rw [hheader]
          exact htype
        · show min (p'.token.headD 0).toNat 6 = 0
          rw [htoken']
          exact hcount
      | succ count =>
        refine ⟨rfl, ⟨header, announced, htoken, htype, hcount⟩, ?_, Nat.succ_pos _, hread⟩
        show p'.tokenItemStart = 2
        rw [hstart, htoken]
        rfl
    · rw [hwhole, hannounced]
      rfl
  | data =>
    have hinfo : getEventInfo { p' with parsingState := .parsingPayload } =
        .ofDataToken (got ++ taken) p.stream (parserRules.eventTime p.stream header) := by
      show EventInfo.ofDataToken p'.token p'.stream
        (p'.stream.timestamp + headerDelta p'.header * kEventTimeUnit) = _
      rw [htoken', hstream, hheader]
      rfl
    refine ⟨⟨p.stream, payloadPlace (leNat (slice (got ++ taken) 8 8))⟩, hbuffer, ⟨hstream, ?_⟩,
      htaken, ?_⟩
    · have hdata : EventTokenType.ofHeader p'.header = some .data := by
        rw [hheader]
        exact htype
      show Placed { p' with parsingState := .parsingPayload }
        (payloadPlace (leNat (slice (got ++ taken) 8 8)))
      cases hsize : leNat (slice (got ++ taken) 8 8) with
      | zero =>
        refine .inr (.inl ⟨rfl, hdata, ?_⟩)
        show leNat (slice p'.token 8 8) = p'.dataPayloadReadInBytes
        rw [htoken', hsize, hread]
      | succ size =>
        refine ⟨rfl, hdata, ?_, Nat.succ_pos _⟩
        show leNat (slice p'.token 8 8) = p'.dataPayloadReadInBytes + (size + 1)
        rw [htoken', hsize, hread, Nat.zero_add]
    · show _ = (_, [ReadReport.event
        (getEventInfo { p' with parsingState := .parsingPayload })])
      rw [hwhole, hinfo]
      rfl

theorem round_token {header : UInt8} {got : List UInt8} (h : InToken header got p) :
    ∃ taken s', RoundDone ⟨p.stream, .token header got⟩ p taken p.parseRound.1 p.parseRound.2
      s' := by
  obtain ⟨type, htype, hlt⟩ := h.part
  have hheader : p.header = header := by
    rw [EventParser.header, h.tokenBuffer]
    rfl
  have hsize : type.size = p.tokenBuffer.length - p.tokenItemStart + (type.size - got.length) := by
    rw [h.tokenBuffer, h.tokenItemStart, List.length_cons]
    omega
  by_cases hle : type.size - got.length ≤ p.buffer.length
  · have hround : p.parseRound = tokenParsed type { p with
        tokenBuffer := p.tokenBuffer ++ p.buffer.take (type.size - got.length)
        tokenItemStart := (p.tokenBuffer ++ p.buffer.take (type.size - got.length)).length
        buffer := p.buffer.drop (type.size - got.length) } := by
      unfold parseRound
      simp only [h.state, hheader, htype, copyToTokenBuffer_of_le hsize hle]
    have htakenLength : (p.buffer.take (type.size - got.length)).length =
        type.size - got.length := List.length_take_of_le hle
    rw [hround]
    refine ⟨p.buffer.take (type.size - got.length), roundDone_tokenParsed htype ?_ ?_ h.state rfl
      ?_ rfl h.readInBytes ?_⟩
    · exact (List.take_append_drop _ _).symm
    · apply List.ne_nil_of_length_pos
      omega
    · show p.tokenBuffer ++ _ = _
      rw [h.tokenBuffer]
      rfl
    · omega
  · have hround : p.parseRound = (some .needMoreData, { p with
        tokenBuffer := p.tokenBuffer ++ p.buffer
        buffer := [] }) := by
      unfold parseRound
      simp only [h.state, hheader, htype, copyToTokenBuffer_of_lt hsize (by omega)]
    rw [hround]
    refine ⟨p.buffer, ⟨p.stream, .token header (got ++ p.buffer)⟩, (List.append_nil _).symm,
      ⟨rfl, h.state, ?_, h.tokenItemStart, ⟨type, htype, ?_⟩, h.readInBytes⟩, ?_, rfl⟩
    · show p.tokenBuffer ++ p.buffer = _
      rw [h.tokenBuffer]
      rfl
    · rw [List.length_append]
      omega
    · exact read_token_part htype (by omega)

theorem round_delta {count : ℕ} {got : List UInt8} (h : InDelta count got p) :
    ∃ taken s', RoundDone ⟨p.stream, .delta count got⟩ p taken p.parseRound.1 p.parseRound.2
      s' := by
  obtain ⟨header, announced, htokenBuffer, htype, hcount⟩ := h.tokenBuffer
  have hlt := h.part
  have hheader : EventTokenType.ofHeader p.header = some .timeDelta := by
    rw [EventParser.header, htokenBuffer]
    exact htype
  have hannounced : min (p.token.headD 0).toNat 6 = count := by
    rw [token, htokenBuffer]
    exact hcount
  have hsize : count = p.tokenBuffer.length - p.tokenItemStart + (count - got.length) := by
    rw [htokenBuffer, h.tokenItemStart, List.length_cons, List.length_cons]
    omega
  by_cases hle : count - got.length ≤ p.buffer.length
  · have htakenLength : (p.buffer.take (count - got.length)).length = count - got.length :=
      List.length_take_of_le hle
    have hslice : slice (p.tokenBuffer ++ p.buffer.take (count - got.length)) 2 count =
        got ++ p.buffer.take (count - got.length) := by
      rw [htokenBuffer]
      show List.take count (got ++ p.buffer.take (count - got.length)) = _
      apply List.take_of_length_le
      rw [List.length_append]
      omega
    have hround : p.parseRound = (none, { p with
        tokenBuffer := p.tokenBuffer ++ p.buffer.take (count - got.length)
        tokenItemStart := (p.tokenBuffer ++ p.buffer.take (count - got.length)).length
        buffer := p.buffer.drop (count - got.length)
        stream := p.stream.advance (got ++ p.buffer.take (count - got.length)) }.nextToken) := by
      unfold parseRound
      simp only [h.state, hheader]
      unfold parseTimeDelta
      simp only [hannounced, copyToTokenBuffer_of_le hsize hle, hslice, nextToken]
    rw [hround]
    refine ⟨p.buffer.take (count - got.length),
      ⟨p.stream.advance (got ++ p.buffer.take (count - got.length)), .header⟩,
      (List.take_append_drop _ _).symm, ⟨rfl, .inl (atHeader_nextToken h.readInBytes)⟩, ?_, ?_⟩
    · apply read_delta
      · apply List.ne_nil_of_length_pos
        omega
      · omega
    · unfold roundsLeft
      rw [h.state]
      show 3 * (p.buffer.drop (count - got.length)).length + 0 < _
      rw [List.length_drop]
      simp only [reduceCtorEq, if_false]
      omega
  · have hround : p.parseRound = (some .needMoreData, { p with
        tokenBuffer := p.tokenBuffer ++ p.buffer
        buffer := [] }) := by
      unfold parseRound
      simp only [h.state, hheader]
      unfold parseTimeDelta
      simp only [hannounced, copyToTokenBuffer_of_lt hsize (by omega), h.state]
    rw [hround]
    refine ⟨p.buffer, ⟨p.stream, .delta count (got ++ p.buffer)⟩, (List.append_nil _).symm,
      ⟨rfl, h.state, ⟨header, announced, ?_, htype, hcount⟩, h.tokenItemStart, ?_,
        h.readInBytes⟩, ?_, rfl⟩
    · show p.tokenBuffer ++ p.buffer = _
      rw [htokenBuffer]
      rfl
    · rw [List.length_append]
      omega
    · exact read_delta_part (by omega)

theorem round_payload {remaining : ℕ} (h : InPayload remaining p) :
    ∃ taken s', RoundDone ⟨p.stream, .payload remaining⟩ p taken p.parseRound.1 p.parseRound.2
      s' := by
  have hpart := h.part
  obtain ⟨rest, rfl⟩ : ∃ rest, remaining = rest + 1 := ⟨remaining - 1, by omega⟩
  have hread : p.dataPayloadReadInBytes < leNat (slice p.token 8 8) := by
    rw [h.size]
    omega
  by_cases hpos : 0 < p.buffer.length
  · have hsub : leNat (slice p.token 8 8) - p.dataPayloadReadInBytes = rest + 1 := by
      rw [h.size]
      omega
    have hround : p.parseRound = (some .payloadReceived, { p with
        currDataPayload := p.buffer.take (min (rest + 1) p.buffer.length)
        buffer := p.buffer.drop (min (rest + 1) p.buffer.length)
        dataPayloadReadInBytes :=
          p.dataPayloadReadInBytes + min (rest + 1) p.buffer.length }) := by
      unfold parseRound
      simp only [h.state, h.type]
      unfold parseDataPayload
      simp only [if_pos hread, if_pos hpos, hsub, h.state]
    have hlength : (p.buffer.take (min (rest + 1) p.buffer.length)).length =
        min (rest + 1) p.buffer.length := List.length_take_of_le (min_le_right _ _)
    rw [hround]
    refine ⟨p.buffer.take (min (rest + 1) p.buffer.length),
      ⟨p.stream, payloadPlace (rest + 1 - min (rest + 1) p.buffer.length)⟩,
      (List.take_append_drop _ _).symm, ⟨rfl, ?_⟩, ?_, ?_⟩
    · show Placed _ (payloadPlace (rest + 1 - min (rest + 1) p.buffer.length))
      cases hleft : rest + 1 - min (rest + 1) p.buffer.length with
      | zero =>
        refine .inr (.inl ⟨h.state, h.type, ?_⟩)
        show leNat (slice p.token 8 8) = p.dataPayloadReadInBytes + min (rest + 1) p.buffer.length
        rw [h.size]
        omega
      | succ left =>
        refine ⟨h.state, h.type, ?_, Nat.succ_pos _⟩
        show leNat (slice p.token 8 8) =
          p.dataPayloadReadInBytes + min (rest + 1) p.buffer.length + (left + 1)
        rw [h.size]
        omega
    · apply List.ne_nil_of_length_pos
      omega
    · show (tokenReader parserRules).read ⟨p.stream, payloadPlace (rest + 1)⟩ _ = _
      rw [read_payload (by omega), hlength]
  · have hbuffer : p.buffer = [] := List.eq_nil_of_length_eq_zero (by omega)
    have hround : p.parseRound = (some .needMoreData, p) := by
      unfold parseRound
      simp only [h.state, h.type]
      unfold parseDataPayload
      simp only [if_pos hread, if_neg hpos]
    rw [hround]
    exact ⟨[], ⟨p.stream, .payload (rest + 1)⟩, rfl, ⟨rfl, h⟩, rfl, hbuffer⟩

theorem round_reads (h : ParserReadsAs p s)
    (hread : ((tokenReader parserRules).read s p.buffer).1.place ≠ .lost) :
    ∃ taken s', RoundDone s p taken p.parseRound.1 p.parseRound.2 s' := by
  obtain ⟨stream, place⟩ := s
  obtain rfl : p.stream = stream := h.stream
  cases place with
  | header =>
    rcases h.placed with hheader | hfinished
    · exact round_header hheader hread
    · exact ⟨[], _, round_finished hfinished⟩
  | token header got => exact round_token h.placed
  | delta count got => exact round_delta h.placed
  | payload remaining => exact round_payload h.placed
  | lost => exact absurd h.placed id

structure CallDone (s : TokenState) (p : EventParser) (taken : List UInt8)
    (state : EventParserState) (p' : EventParser) (s' : TokenState) : Prop where
  buffer : p.buffer = taken ++ p'.buffer
  reads : ParserReadsAs p' s'
  done : match state with
    | .needMoreData => (tokenReader parserRules).read s taken = (s', []) ∧ p'.buffer = []
    | .eventReceived => taken ≠ [] ∧
      (tokenReader parserRules).read s taken = (s', [.event p'.getEventInfo])
    | .payloadReceived => taken ≠ [] ∧
      (tokenReader parserRules).read s taken = (s', p'.currDataPayload.map .byte)
    | .unknown => False

theorem parseRounds_reads (rounds : ℕ) (h : ParserReadsAs p s)
    (hread : ((tokenReader parserRules).read s p.buffer).1.place ≠ .lost)
    (hrounds : roundsLeft p < rounds) :
    ∃ state p' taken s', p.parseRounds rounds = some (state, p') ∧
      CallDone s p taken state p' s' := by
  induction rounds generalizing p s with
  | zero => exact absurd hrounds (Nat.not_lt_zero _)
  | succ rounds ih =>
    obtain ⟨taken, s', hround⟩ := round_reads h hread
    unfold parseRounds
    rcases hresult : p.parseRound with ⟨_ | state, p'⟩
    · rw [hresult] at hround
      obtain ⟨htaken, hless⟩ := hround.done
      rw [hround.buffer] at hread
      obtain ⟨state, p'', taken', s'', hrest, hdone⟩ :=
        ih hround.reads (not_lost_split hread htaken) (by omega)
      refine ⟨state, p'', taken ++ taken', s'', hrest, ?_, hdone.reads, ?_⟩
      · rw [hround.buffer, hdone.buffer, List.append_assoc]
      · have happend : ∀ {out : List ReadReport},
            (tokenReader parserRules).read s' taken' = (s'', out) →
              (tokenReader parserRules).read s (taken ++ taken') = (s'', out) := by
          intro out hout
          rw [Reader.read_append_of htaken, hout]
          rfl
        have hne : taken' ≠ [] → taken ++ taken' ≠ [] :=
          fun hne => List.append_ne_nil_of_right_ne_nil _ hne
        have hcall := hdone.done
        cases state with
        | unknown => exact hcall
        | eventReceived => exact ⟨hne hcall.1, happend hcall.2⟩
        | payloadReceived => exact ⟨hne hcall.1, happend hcall.2⟩
        | needMoreData => exact ⟨happend hcall.1, hcall.2⟩
    · rw [hresult] at hround
      have hdone := hround.done
      refine ⟨state, p', taken, s', rfl, hround.buffer, hround.reads, ?_⟩
      cases state with
      | unknown => exact hdone
      | eventReceived => exact hdone
      | payloadReceived => exact hdone
      | needMoreData => exact hdone

/-- Every call returns, and follows the reader. -/
theorem parse_reads (h : ParserReadsAs p s)
    (hread : ((tokenReader parserRules).read s p.buffer).1.place ≠ .lost) :
    ∃ state p' taken s', p.parse = some (state, p') ∧ CallDone s p taken state p' s' := by
  apply parseRounds_reads _ h hread
  unfold roundsLeft
  split <;> omega

/-! ## Buffers -/

def ParserReport.bytes : ParserReport → List ReadReport
  | .event info => [.event info]
  | .payload data => data.map .byte

theorem parseCalls_reads (calls : ℕ) (h : ParserReadsAs p s)
    (hread : ((tokenReader parserRules).read s p.buffer).1.place ≠ .lost)
    (hcalls : p.buffer.length < calls) :
    ∃ reports p' s', p.parseCalls calls = some (reports, p') ∧ ParserReadsAs p' s' ∧
      (tokenReader parserRules).read s p.buffer =
        (s', reports.flatMap ParserReport.bytes) := by
  induction calls generalizing p s with
  | zero => exact absurd hcalls (Nat.not_lt_zero _)
  | succ calls ih =>
    obtain ⟨state, p', taken, s', hparse, hdone⟩ := parse_reads h hread
    have hcall := hdone.done
    unfold parseCalls
    rw [hparse]
    have hlength : taken ≠ [] → p'.buffer.length < calls := by
      intro hne
      have hpos : 0 < taken.length := List.length_pos_iff.mpr hne
      have htotal := congrArg List.length hdone.buffer
      rw [List.length_append] at htotal
      omega
    -- the calls that follow a report, which took some bytes
    have hgo : ∀ report : ParserReport, taken ≠ [] →
        (tokenReader parserRules).read s taken = (s', ParserReport.bytes report) →
        ∃ reports p'' s'', (p'.parseCalls calls).map (fun r => (report :: r.1, r.2)) =
            some (reports, p'') ∧ ParserReadsAs p'' s'' ∧
          (tokenReader parserRules).read s p.buffer =
            (s'', reports.flatMap ParserReport.bytes) := by
      intro report hne htaken
      have hread' := hread
      rw [hdone.buffer] at hread'
      obtain ⟨reports, p'', s'', hcalls', hreads, hrest⟩ :=
        ih hdone.reads (not_lost_split hread' htaken) (hlength hne)
      refine ⟨report :: reports, p'', s'', ?_, hreads, ?_⟩
      · rw [hcalls']
        rfl
      · rw [hdone.buffer, Reader.read_append_of htaken, hrest, List.flatMap_cons]
    cases state with
    | unknown => exact absurd hcall id
    | eventReceived => exact hgo (.event p'.getEventInfo) hcall.1 hcall.2
    | payloadReceived => exact hgo (.payload p'.currDataPayload) hcall.1 hcall.2
    | needMoreData =>
      refine ⟨[], p', s', rfl, hdone.reads, ?_⟩
      have hall : p.buffer = taken := by
        rw [hdone.buffer, hcall.2, List.append_nil]
      rw [hall]
      exact hcall.1

theorem parseBuffer_reads (h : ParserReadsAs p s) {buffer : List UInt8}
    (hread : ((tokenReader parserRules).read s buffer).1.place ≠ .lost) :
    ∃ reports p' s', p.parseBuffer buffer = some (reports, p') ∧ ParserReadsAs p' s' ∧
      (tokenReader parserRules).read s buffer = (s', reports.flatMap ParserReport.bytes) := by
  have hset : ParserReadsAs (p.setParsingBuffer buffer) s := by
    refine ⟨h.stream, ?_⟩
    have hplaced := h.placed
    cases hplace : s.place with
    | header =>
      rw [hplace] at hplaced
      rcases hplaced with hat | hdone | hempty
      · exact .inl ⟨hat.state, hat.tokenBuffer, hat.tokenItemStart, hat.readInBytes⟩
      · exact .inr (.inl ⟨hdone.state, hdone.type, hdone.size⟩)
      · exact .inr (.inr ⟨hempty.state, hempty.type, hempty.tokenItemStart, hempty.announced,
          hempty.readInBytes⟩)
    | token header got =>
      rw [hplace] at hplaced
      exact ⟨hplaced.state, hplaced.tokenBuffer, hplaced.tokenItemStart, hplaced.part,
        hplaced.readInBytes⟩
    | delta count got =>
      rw [hplace] at hplaced
      exact ⟨hplaced.state, hplaced.tokenBuffer, hplaced.tokenItemStart, hplaced.part,
        hplaced.readInBytes⟩
    | payload remaining =>
      rw [hplace] at hplaced
      exact ⟨hplaced.state, hplaced.type, hplaced.size, hplaced.part⟩
    | lost =>
      rw [hplace] at hplaced
      exact hplaced
  exact parseCalls_reads _ hset hread (Nat.lt_succ_self _)

theorem parseBuffers_reads (buffers : List (List UInt8)) (h : ParserReadsAs p s)
    (hread : ((tokenReader parserRules).read s buffers.flatten).1.place ≠ .lost) :
    ∃ reports p' s', p.parseBuffers buffers = some (reports, p') ∧ ParserReadsAs p' s' ∧
      (tokenReader parserRules).read s buffers.flatten =
        (s', reports.flatMap ParserReport.bytes) := by
  induction buffers generalizing p s with
  | nil => exact ⟨[], p, s, rfl, h, rfl⟩
  | cons buffer buffers ih =>
    rw [List.flatten_cons] at hread ⊢
    obtain ⟨reports, p', s', hbuffer, hreads, hread'⟩ := parseBuffer_reads h (not_lost_taken hread)
    obtain ⟨reports', p'', s'', hbuffers, hreads', hread''⟩ :=
      ih hreads (not_lost_split hread hread')
    refine ⟨reports ++ reports', p'', s'', ?_, hreads', ?_⟩
    · unfold parseBuffers
      rw [hbuffer]
      show (p'.parseBuffers buffers).map _ = _
      rw [hbuffers]
      rfl
    · rw [Reader.read_append_of hread', hread'', List.flatMap_append]

end DevDriver.Analysis
