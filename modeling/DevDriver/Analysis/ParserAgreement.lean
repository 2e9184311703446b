import DevDriver.Analysis.EventTimes
import DevDriver.Analysis.LegacyParser

/-!
# The two event parsers agree

The legacy parser follows the reader of tokens too, with rules of its own: it refuses a time delta
of no bytes, and it gives an event the time of the last token whatever the header of the event says.
-/

namespace DevDriver.Analysis

open Library Model LegacyParse LegacyEventParser EventTokenType

def legacyRules : TokenRules where
  deltaBytes announced :=
    if 0 < announced.toNat ∧ announced.toNat ≤ 23 then some announced.toNat else none
  eventTime stream _ := stream.timestamp

def LegacyAt (p : LegacyEventParser) : TokenPlace → Prop
  | .header => p.eventDataState = .waitingForHeader ∧ p.tokenBuffer = [] ∧
    p.eventPayloadBytesRead = 0
  | .token header got => p.eventDataState = .waitingForToken ∧ p.tokenBuffer = header :: got ∧
    (∃ type, ofHeader header = some type ∧ got.length < type.size) ∧
    p.eventPayloadBytesRead = 0
  | .delta count got => p.eventDataState = .waitingForPayload ∧
    (∃ header announced, p.tokenBuffer = header :: announced :: got ∧
      ofHeader header = some .timeDelta ∧ announced.toNat = count) ∧
    got.length < count ∧ count ≤ 23 ∧ p.eventPayloadBytesRead = 0
  | .payload remaining => p.eventDataState = .waitingForPayload ∧
    (∃ header token, p.tokenBuffer = header :: token ∧
      ofHeader header = some .data ∧ token.length = 16 ∧
      leNat (slice token 8 8) = p.eventPayloadBytesRead + remaining) ∧ 0 < remaining
  | .lost => False

/-- The legacy parser is where the reader is, knows the same of the stream, and skips nothing. -/
structure LegacyReadsAs (p : LegacyEventParser) (s : TokenState) : Prop where
  stream : p.stream = s.stream
  skips : p.skipPayloadData = false
  placed : LegacyAt p s.place

structure LegacyTakes (s : TokenState) (c c' : LegacyParse) (taken : List UInt8)
    (reports : List ParserReport) (s' : TokenState) : Prop where
  round : c.round = .next c'
  reader : c.reader = taken ++ c'.reader
  some : taken ≠ []
  answers : c'.answers = []
  reads : LegacyReadsAs c'.parser s'
  told : c'.reports = c.reports ++ reports
  read : (tokenReader legacyRules).read s taken = (s', reports.flatMap ParserReport.bytes)

variable {c : LegacyParse} {s : TokenState}

/-! ## Rounds -/

theorem legacyAt_reset (p : LegacyEventParser) :
    LegacyAt p.resetEventDataBufferState .header := ⟨rfl, rfl, rfl⟩

theorem take_split {l : List UInt8} {n : ℕ} (hpos : 0 < n) (hle : n ≤ l.length) :
    (l.take n).length = n ∧ l = l.take n ++ l.drop n ∧ l.take n ≠ [] := by
  have hlength := List.length_take_of_le hle
  exact ⟨hlength, (List.take_append_drop n l).symm,
    List.ne_nil_of_length_pos (hpos.trans_eq hlength.symm)⟩

theorem legacy_header (h : LegacyReadsAs c.parser ⟨c.parser.stream, .header⟩)
    (hanswers : c.answers = []) (hreader : c.reader ≠ [])
    (hread : ((tokenReader legacyRules).read ⟨c.parser.stream, .header⟩ c.reader).1.place ≠
      .lost) :
    ∃ c' taken reports s', LegacyTakes ⟨c.parser.stream, .header⟩ c c' taken reports s' := by
  obtain ⟨hstate, hbuffer, hbytes⟩ := h.placed
  obtain ⟨b, rest, hcons⟩ := List.exists_cons_of_ne_nil hreader
  have hround : c.round = .next { c with
      reader := rest
      parser := { c.parser with
        tokenBuffer := [b]
        eventDataState := .waitingForToken } } := by
    unfold LegacyParse.round headerRound
    rw [hstate]
    simp only []
    rw [getBytes_of_le Nat.one_pos (by rw [hcons]; simp)]
    simp only [hcons, List.take_succ_cons, List.take_zero, List.drop_succ_cons, List.drop_zero]
    rw [writeIntoTokenBuffer_of_le (by simp [hbuffer, kMaxEventTokenSize])]
    simp only [hbuffer, List.nil_append]
  cases htype : ofHeader b with
  | none =>
    exfalso
    apply hread
    have hstep : (tokenReader legacyRules).step ⟨c.parser.stream, .header⟩ b =
        (⟨c.parser.stream, .lost⟩, []) := by
      simp only [tokenReader, tokenStep, htype]
    rw [hcons, Reader.read_cons, hstep, read_lost]
  | some type =>
    have hstep : (tokenReader legacyRules).step ⟨c.parser.stream, .header⟩ b =
        (⟨c.parser.stream, .token b []⟩, []) := by
      simp only [tokenReader, tokenStep, htype]
    refine ⟨_, [b], [], ⟨c.parser.stream, .token b []⟩, hround, hcons, List.cons_ne_nil _ _,
      hanswers, ⟨rfl, h.skips, rfl, rfl, ⟨type, htype, ?_⟩, hbytes⟩, (List.append_nil _).symm, ?_⟩
    · cases type <;> simp [EventTokenType.size]
    · rw [Reader.read_singleton, hstep]
      rfl

theorem legacy_tokenDone {header : UInt8} {token : List UInt8} {type : EventTokenType}
    (hskips : c.parser.skipPayloadData = false)
    (hbuffer : c.parser.tokenBuffer = header :: token)
    (htype : ofHeader header = some type) (hsize : token.length = type.size)
    (hbytes : c.parser.eventPayloadBytesRead = 0) (hanswers : c.answers = [])
    (hread : (tokenRead legacyRules c.parser.stream header token type).1.place ≠ .lost) :
    ∃ c' reports s', c.tokenDone = .next c' ∧ c'.reader = c.reader ∧ c'.answers = [] ∧
      LegacyReadsAs c'.parser s' ∧ c'.reports = c.reports ++ reports ∧
      tokenRead legacyRules c.parser.stream header token type =
        (s', reports.flatMap ParserReport.bytes) := by
  have htoken : c.parser.token = token := token_of_buffer hbuffer
  have hhead : c.parser.tokenBuffer.headD 0 = header := by
    rw [hbuffer]
    rfl
  unfold tokenDone
  rw [hhead, htype]
  cases type with
  | provider =>
    have hprocess : c.parser.processToken =
        { c.parser with stream := .ofProviderToken token }.resetEventDataBufferState := by
      unfold processToken
      rw [hhead, htype, htoken]
    refine ⟨{ c with parser := c.parser.processToken }, [], ⟨.ofProviderToken token, .header⟩, rfl,
      rfl, hanswers, ?_, (List.append_nil _).symm, rfl⟩
    rw [hprocess]
    exact ⟨rfl, hskips, legacyAt_reset _⟩
  | timestamp =>
    have hprocess : c.parser.processToken =
        { c.parser with
          stream := c.parser.stream.withTimestampToken token }.resetEventDataBufferState := by
      unfold processToken
      rw [hhead, htype, htoken]
    refine ⟨{ c with parser := c.parser.processToken }, [],
      ⟨c.parser.stream.withTimestampToken token, .header⟩, rfl, rfl, hanswers, ?_,
      (List.append_nil _).symm, rfl⟩
    rw [hprocess]
    exact ⟨rfl, hskips, legacyAt_reset _⟩
  | timeDelta =>
    obtain ⟨announced, rfl⟩ := List.length_eq_one_iff.mp hsize
    have hrule : 0 < announced.toNat ∧ announced.toNat ≤ 23 := by
      by_contra hbad
      apply hread
      have hnone : legacyRules.deltaBytes announced = none := if_neg hbad
      simp only [tokenRead, List.headD_cons, hnone]
    have hsome : legacyRules.deltaBytes announced = some announced.toNat := if_pos hrule
    have hplace : deltaPlace announced.toNat = .delta announced.toNat [] := by
      obtain ⟨n, hn⟩ : ∃ n, announced.toNat = n + 1 := ⟨announced.toNat - 1, by omega⟩
      rw [hn]
      rfl
    simp only [htoken, List.headD_cons, if_pos hrule.1]
    refine ⟨{ c with parser := { c.parser with eventDataState := .waitingForPayload } }, [],
      ⟨c.parser.stream, .delta announced.toNat []⟩, rfl, rfl, hanswers,
      ⟨rfl, hskips, rfl, ⟨header, announced, hbuffer, htype, rfl⟩, hrule.1, hrule.2, hbytes⟩,
      (List.append_nil _).symm, ?_⟩
    simp only [tokenRead, List.headD_cons, hsome, hplace]
    rfl
  | data =>
    have hemit : c.emitEventReceived = (.success, { c with
        parser := { c.parser with skipPayloadData := false }
        answers := []
        reports := c.reports ++
          [.event (.ofDataToken token c.parser.stream c.parser.stream.timestamp)] }) := by
      unfold emitEventReceived callback
      rw [hanswers, htoken]
      rfl
    have hpayload : (LegacyEventParser.token { c.parser with skipPayloadData := false }) =
        token := htoken
    rw [hemit]
    simp only [hpayload]
    cases hcount : leNat (slice token 8 8) with
    | zero =>
      rw [if_neg (by simp)]
      refine ⟨_, _, ⟨c.parser.stream, .header⟩, rfl, rfl, rfl, ⟨rfl, rfl, legacyAt_reset _⟩, rfl,
        ?_⟩
      simp only [tokenRead, hcount]
      rfl
    | succ count =>
      rw [if_pos (by simp)]
      refine ⟨_, _, ⟨c.parser.stream, .payload (count + 1)⟩, rfl, rfl, rfl,
        ⟨rfl, rfl, rfl, ⟨header, token, hbuffer, htype, hsize, ?_⟩, Nat.succ_pos _⟩, rfl, ?_⟩
      · show leNat (slice token 8 8) = c.parser.eventPayloadBytesRead + (count + 1)
        rw [hbytes, hcount, Nat.zero_add]
      · simp only [tokenRead, hcount]
        rfl

theorem legacy_token {header : UInt8} {got : List UInt8}
    (h : LegacyReadsAs c.parser ⟨c.parser.stream, .token header got⟩)
    (hanswers : c.answers = []) (hreader : c.reader ≠ [])
    (hread : ((tokenReader legacyRules).read ⟨c.parser.stream, .token header got⟩
      c.reader).1.place ≠ .lost) :
    ∃ c' taken reports s',
      LegacyTakes ⟨c.parser.stream, .token header got⟩ c c' taken reports s' := by
  obtain ⟨hstate, hbuffer, ⟨type, htype, hpart⟩, hbytes⟩ := h.placed
  have hpos : 0 < c.reader.length := List.length_pos_iff.mpr hreader
  have hsize := getTokenSize_le header
  have htokenSize := getTokenSize_of htype
  have hsub : sizeSub (getTokenSize header) got.length =
      type.size - got.length := by
    rw [htokenSize]
    exact sizeSub_of_le hpart.le (by omega)
  generalize hcount : min c.reader.length (type.size - got.length) = count
  obtain ⟨hlength, hsplit, hsome⟩ := take_split (l := c.reader) (n := count) (by omega) (by omega)
  have hround : c.round = if got.length + count = type.size then
      tokenDone { c with
        reader := c.reader.drop count
        parser := { c.parser with tokenBuffer := header :: (got ++ c.reader.take count) } }
      else .next { c with
        reader := c.reader.drop count
        parser := { c.parser with tokenBuffer := header :: (got ++ c.reader.take count) } } := by
    unfold LegacyParse.round tokenRound
    rw [hstate]
    simp only [hbuffer, hsub, hcount]
    rw [getBytes_of_le (by omega) (by omega)]
    simp only []
    rw [writeIntoTokenBuffer_of_le (by
      rw [hlength, hbuffer, List.length_cons]
      unfold kMaxEventTokenSize
      omega)]
    simp only [hbuffer, htokenSize, List.cons_append, List.length_cons, List.length_append, hlength,
      Nat.add_right_cancel_iff]
  by_cases hdone : got.length + count = type.size
  · have htoken : (got ++ c.reader.take count).length = type.size := by
      rw [List.length_append, hlength]
      exact hdone
    have hall : (tokenReader legacyRules).read ⟨c.parser.stream, .token header got⟩
        (c.reader.take count) =
          tokenRead legacyRules c.parser.stream header (got ++ c.reader.take count) type :=
      read_token htype hsome (by rw [hlength]; exact hdone)
    have hplace : (tokenRead legacyRules c.parser.stream header (got ++ c.reader.take count)
        type).1.place ≠ .lost := by
      rw [← hall]
      exact not_lost_taken (hsplit ▸ hread)
    rw [if_pos hdone] at hround
    obtain ⟨c', reports, s', hnext, hrest, hanswers', hreads, htold, hout⟩ :=
      legacy_tokenDone (c := { c with
        reader := c.reader.drop count
        parser := { c.parser with tokenBuffer := header :: (got ++ c.reader.take count) } })
        h.skips rfl htype htoken hbytes hanswers hplace
    refine ⟨c', c.reader.take count, reports, s', hround.trans hnext, ?_, hsome, hanswers', hreads,
      htold, hall.trans hout⟩
    rw [hrest]
    exact hsplit
  · rw [if_neg hdone] at hround
    have hpart' : got.length + (c.reader.take count).length < type.size := by
      rw [hlength]
      omega
    refine ⟨_, c.reader.take count, [], ⟨c.parser.stream, .token header (got ++ c.reader.take
      count)⟩, hround, hsplit, hsome, hanswers, ⟨rfl, h.skips, hstate, rfl, ⟨type, htype, ?_⟩,
      hbytes⟩, (List.append_nil _).symm, ?_⟩
    · rw [List.length_append]
      exact hpart'
    · exact read_token_part htype hpart'

theorem legacy_delta {count : ℕ} {got : List UInt8}
    (h : LegacyReadsAs c.parser ⟨c.parser.stream, .delta count got⟩)
    (hanswers : c.answers = []) (hreader : c.reader ≠ []) :
    ∃ c' taken reports s',
      LegacyTakes ⟨c.parser.stream, .delta count got⟩ c c' taken reports s' := by
  obtain ⟨hstate, ⟨header, announced, hbuffer, htype, rfl⟩, hpart, hfits, hbytes⟩ := h.placed
  have hpos : 0 < c.reader.length := List.length_pos_iff.mpr hreader
  have hsub : sizeSub announced.toNat got.length = announced.toNat - got.length :=
    sizeSub_of_le hpart.le (by omega)
  have htoken : c.parser.token = announced :: got := token_of_buffer hbuffer
  generalize hcount : min c.reader.length (announced.toNat - got.length) = count
  obtain ⟨hlength, hsplit, hsome⟩ := take_split (l := c.reader) (n := count) (by omega) (by omega)
  have hround : c.round = if got.length + count = announced.toNat then
      .next { c with
        reader := c.reader.drop count
        parser := (processToken { c.parser with
          tokenBuffer := header :: announced :: (got ++ c.reader.take count) }) }
      else .next { c with
        reader := c.reader.drop count
        parser := { c.parser with
          tokenBuffer := header :: announced :: (got ++ c.reader.take count) } } := by
    unfold LegacyParse.round deltaRound
    rw [hstate, hbuffer]
    simp only [htype, htoken, hsub, hcount]
    rw [getBytes_of_le (by omega) (by omega)]
    simp only []
    rw [writeIntoTokenBuffer_of_le (by
      rw [hlength, hbuffer, List.length_cons, List.length_cons]
      unfold kMaxEventTokenSize
      omega)]
    have hiff : got.length + count + 1 + 1 = 2 + announced.toNat ↔
        got.length + count = announced.toNat := by omega
    simp only [hbuffer, List.cons_append, List.length_cons, List.length_append, hlength, hiff]
  by_cases hdone : got.length + count = announced.toNat
  · rw [if_pos hdone] at hround
    have hprocess : processToken { c.parser with
          tokenBuffer := header :: announced :: (got ++ c.reader.take count) } =
        { c.parser with
          stream := c.parser.stream.advance (got ++ c.reader.take count)
          tokenBuffer := []
          eventPayloadBytesRead := 0
          eventDataState := .waitingForHeader } := by
      have hall : slice (header :: announced :: (got ++ c.reader.take count)) 2 announced.toNat =
          got ++ c.reader.take count := by
        unfold slice
        rw [List.drop_succ_cons, List.drop_succ_cons, List.drop_zero]
        exact List.take_of_length_le (by rw [List.length_append, hlength]; omega)
      unfold processToken
      simp only [List.headD_cons, htype, LegacyEventParser.token, List.drop_succ_cons,
        List.drop_zero, hall]
      rfl
    rw [hprocess] at hround
    refine ⟨_, c.reader.take count, [], ⟨c.parser.stream.advance (got ++ c.reader.take count),
      .header⟩, hround, hsplit, hsome, hanswers, ⟨rfl, h.skips, rfl, rfl, rfl⟩,
      (List.append_nil _).symm, ?_⟩
    exact read_delta hsome (by rw [hlength]; exact hdone)
  · rw [if_neg hdone] at hround
    have hpart' : got.length + (c.reader.take count).length < announced.toNat := by
      rw [hlength]
      omega
    refine ⟨_, c.reader.take count, [], ⟨c.parser.stream, .delta announced.toNat (got ++
      c.reader.take count)⟩, hround, hsplit, hsome, hanswers, ⟨rfl, h.skips, hstate,
      ⟨header, announced, rfl, htype, rfl⟩, ?_, hfits, hbytes⟩, (List.append_nil _).symm, ?_⟩
    · rw [List.length_append]
      exact hpart'
    · exact read_delta_part hpart'

theorem legacy_payload {remaining : ℕ}
    (h : LegacyReadsAs c.parser ⟨c.parser.stream, .payload remaining⟩)
    (hanswers : c.answers = []) (hreader : c.reader ≠ []) :
    ∃ c' taken reports s',
      LegacyTakes ⟨c.parser.stream, .payload remaining⟩ c c' taken reports s' := by
  obtain ⟨hstate, ⟨header, token, hbuffer, htype, hsize, hpayload⟩, hremaining⟩ := h.placed
  have hpos : 0 < c.reader.length := List.length_pos_iff.mpr hreader
  have htoken : c.parser.token = token := token_of_buffer hbuffer
  have hsub : sizeSub (leNat (slice token 8 8)) c.parser.eventPayloadBytesRead = remaining := by
    have hbound := payloadSize_lt hsize
    rw [sizeSub_of_le (by omega) hbound]
    omega
  have hplace : TokenPlace.payload remaining = payloadPlace remaining := by
    obtain ⟨rest, rfl⟩ : ∃ rest, remaining = rest + 1 := ⟨remaining - 1, by omega⟩
    rfl
  generalize hcount : min c.reader.length remaining = count
  obtain ⟨hlength, hsplit, hsome⟩ := take_split (l := c.reader) (n := count) (by omega) (by omega)
  have hemit : emitPayloadData (c.reader.take count)
      { c with reader := c.reader.drop count } = (.success, { c with
        reader := c.reader.drop count
        parser := { c.parser with
          eventPayloadBytesRead := c.parser.eventPayloadBytesRead + count }
        answers := []
        reports := c.reports ++ [.payload (c.reader.take count)] }) := by
    unfold emitPayloadData callback
    simp only [h.skips, hanswers, hlength, Bool.false_eq_true, if_false, List.headD_nil, if_true,
      List.tail_nil]
  have hround : c.round = if count = remaining then
      .next { c with
        reader := c.reader.drop count
        parser := (resetEventDataBufferState { c.parser with
          eventPayloadBytesRead := c.parser.eventPayloadBytesRead + count })
        answers := []
        reports := c.reports ++ [.payload (c.reader.take count)] }
      else .next { c with
        reader := c.reader.drop count
        parser := { c.parser with
          eventPayloadBytesRead := c.parser.eventPayloadBytesRead + count }
        answers := []
        reports := c.reports ++ [.payload (c.reader.take count)] } := by
    have hiff : c.parser.eventPayloadBytesRead + count = leNat (slice token 8 8) ↔
        count = remaining := by omega
    unfold LegacyParse.round payloadRound
    rw [hstate, hbuffer]
    simp only [htype]
    rw [htoken, if_neg (by rw [hsize]; decide)]
    simp only [hsub, hcount]
    rw [getBytes_of_le (by omega) (by omega)]
    simp only [hemit, hiff]
  have hread : (tokenReader legacyRules).read ⟨c.parser.stream, .payload remaining⟩
      (c.reader.take count) =
        (⟨c.parser.stream, payloadPlace (remaining - count)⟩, (c.reader.take count).map .byte) := by
    rw [hplace, read_payload (by omega), hlength]
  by_cases hdone : count = remaining
  · rw [if_pos hdone] at hround
    rw [← hdone, Nat.sub_self] at hread
    refine ⟨_, c.reader.take count, [.payload (c.reader.take count)], ⟨c.parser.stream, .header⟩,
      hround, hsplit, hsome, rfl, ⟨rfl, h.skips, legacyAt_reset _⟩, rfl, ?_⟩
    rw [← hdone, hread]
    simp [ParserReport.bytes, payloadPlace]
  · rw [if_neg hdone] at hround
    obtain ⟨rest, hrest⟩ : ∃ rest, remaining - count = rest + 1 :=
      ⟨remaining - count - 1, by omega⟩
    rw [hrest] at hread
    refine ⟨_, c.reader.take count, [.payload (c.reader.take count)],
      ⟨c.parser.stream, .payload (rest + 1)⟩, hround, hsplit, hsome, rfl,
      ⟨rfl, h.skips, hstate, ⟨header, token, hbuffer, htype, hsize, ?_⟩, Nat.succ_pos _⟩, rfl, ?_⟩
    · show leNat (slice token 8 8) = c.parser.eventPayloadBytesRead + count + (rest + 1)
      omega
    · rw [hread]
      simp [ParserReport.bytes, payloadPlace]

theorem legacy_round (h : LegacyReadsAs c.parser s) (hanswers : c.answers = [])
    (hreader : c.reader ≠ [])
    (hread : ((tokenReader legacyRules).read s c.reader).1.place ≠ .lost) :
    ∃ c' taken reports s', LegacyTakes s c c' taken reports s' := by
  obtain ⟨stream, place⟩ := s
  obtain rfl : c.parser.stream = stream := h.stream
  cases place with
  | header => exact legacy_header h hanswers hreader hread
  | token header got => exact legacy_token h hanswers hreader hread
  | delta count got => exact legacy_delta h hanswers hreader
  | payload remaining => exact legacy_payload h hanswers hreader
  | lost => exact absurd h.placed id

theorem legacy_rounds (n : ℕ) (h : LegacyReadsAs c.parser s) (hanswers : c.answers = [])
    (hread : ((tokenReader legacyRules).read s c.reader).1.place ≠ .lost)
    (hn : c.reader.length < n) :
    ∃ c' reports s', (c.rounds n).2 = .returned .success c' ∧ LegacyReadsAs c'.parser s' ∧
      c'.reports = c.reports ++ reports ∧
      (tokenReader legacyRules).read s c.reader = (s', reports.flatMap ParserReport.bytes) := by
  induction n generalizing c s with
  | zero => exact absurd hn (Nat.not_lt_zero _)
  | succ n ih =>
    unfold rounds
    by_cases hreader : c.reader = []
    · rw [if_pos hreader, hreader]
      exact ⟨c, [], s, rfl, h, (List.append_nil _).symm, rfl⟩
    · rw [if_neg hreader]
      obtain ⟨c', taken, reports, s', htakes⟩ := legacy_round h hanswers hreader hread
      have hpos : 0 < taken.length := List.length_pos_iff.mpr htakes.some
      have hlength := congrArg List.length htakes.reader
      rw [List.length_append] at hlength
      rw [htakes.reader] at hread
      obtain ⟨c'', reports', s'', hreturned, hreads, htold, hread'⟩ :=
        ih htakes.reads htakes.answers (not_lost_split hread htakes.read) (by omega)
      rw [htakes.round]
      refine ⟨c'', reports ++ reports', s'', hreturned, hreads, ?_, ?_⟩
      · rw [htold, htakes.told, List.append_assoc]
      · rw [htakes.reader, Reader.read_append_of htakes.read, hread', List.flatMap_append]

theorem legacy_buffers (buffers : List (List UInt8)) {p : LegacyEventParser}
    (h : LegacyReadsAs p s)
    (hread : ((tokenReader legacyRules).read s buffers.flatten).1.place ≠ .lost) :
    ∃ reports p' s', p.parseBuffers buffers = some (reports, p') ∧ LegacyReadsAs p' s' ∧
      (tokenReader legacyRules).read s buffers.flatten =
        (s', reports.flatMap ParserReport.bytes) := by
  induction buffers generalizing p s with
  | nil => exact ⟨[], p, s, rfl, h, rfl⟩
  | cons buffer buffers ih =>
    rw [List.flatten_cons] at hread ⊢
    obtain ⟨c', reports, s', hreturned, hreads, htold, hread'⟩ :=
      legacy_rounds (c := ⟨p, buffer, [], []⟩) (buffer.length + 1) h rfl (not_lost_taken hread)
        (Nat.lt_succ_self _)
    obtain ⟨reports', p'', s'', hbuffers, hreads', hread''⟩ :=
      ih hreads (not_lost_split hread hread')
    refine ⟨reports ++ reports', p'', s'', ?_, hreads', ?_⟩
    · have htold' : c'.reports = reports := htold
      unfold parseBuffers parse
      simp only [hreturned, hbuffers, htold', Option.map_some]
    · rw [Reader.read_append_of hread', hread'', List.flatMap_append]

/-! ## What a provider writes -/

/-- The tokens that a provider writes: a provider token, the token of a timestamp that its timer
creates, and an event with such a timestamp. -/
inductive WrittenByProvider : EventToken → Prop where
  | provider (id : UInt32) (frequency timestamp : UInt64) :
      WrittenByProvider (.provider 0 id 0 frequency timestamp)
  | timestamp (timer : EventTimer) (reading : UInt64) {t : EventToken}
      (h : t ∈ timestampTokens (timer.createTimestamp reading).1) : WrittenByProvider t
  | data (timer : EventTimer) (reading : UInt64) (id index : UInt32) (payload : List UInt8)
      (h : payload.length < 2 ^ 64) :
      WrittenByProvider
        (.data (timestampDelta (timer.createTimestamp reading).1) id index payload)

theorem WrittenByProvider.wellFormed {t : EventToken} (h : WrittenByProvider t) :
    t.WellFormed := by
  cases h with
  | provider id frequency timestamp => trivial
  | timestamp timer reading h => exact wellFormed_timestampTokens timer reading t h
  | data timer reading id index payload h => exact h

theorem WrittenByProvider.acceptsDelta {t : EventToken} (h : WrittenByProvider t) :
    AcceptsDelta legacyRules t := by
  cases h with
  | provider id frequency timestamp => trivial
  | data timer reading id index payload h => trivial
  | timestamp timer reading h =>
    rcases createTimestamp_cases timer reading with
      ⟨hcreate, -⟩ | ⟨n, hcreate, hn, -⟩ | ⟨hcreate, -⟩
    · rw [hcreate] at h
      rw [List.mem_singleton.mp h]
      trivial
    · rw [hcreate] at h
      rw [List.mem_singleton.mp h]
      have hcount : (UInt8.ofNat n).toNat = n := by
        rw [UInt8.toNat_ofNat']
        omega
      show legacyRules.deltaBytes (UInt8.ofNat (leBytes n _).length) = some (leBytes n _).length
      rw [length_leBytes]
      unfold legacyRules
      simp only [hcount]
      rw [if_pos ⟨by omega, by omega⟩]
    · rw [hcreate] at h
      cases h

theorem tokenEvents_written {tokens : List EventToken} (h : ∀ t ∈ tokens, WrittenByProvider t)
    (stream : EventStreamInfo) :
    tokenEvents legacyRules stream tokens = tokenEvents parserRules stream tokens := by
  induction tokens generalizing stream with
  | nil => rfl
  | cons t tokens ih =>
    have hevent : t.event legacyRules stream = t.event parserRules stream := by
      cases h t List.mem_cons_self with
      | provider id frequency timestamp => rfl
      | timestamp timer reading h =>
        rcases createTimestamp_cases timer reading with
          ⟨hcreate, -⟩ | ⟨n, hcreate, -⟩ | ⟨hcreate, -⟩
        · rw [hcreate] at h
          rw [List.mem_singleton.mp h]
          rfl
        · rw [hcreate] at h
          rw [List.mem_singleton.mp h]
          rfl
        · rw [hcreate] at h
          cases h
      | data timer reading id index payload h =>
        have htime : legacyRules.eventTime stream
            (eventTokenHeader .data (timestampDelta (timer.createTimestamp reading).1)) =
          parserRules.eventTime stream
            (eventTokenHeader .data (timestampDelta (timer.createTimestamp reading).1)) := by
          rw [timestampDelta_createTimestamp]
          show stream.timestamp =
            stream.timestamp + headerDelta (eventTokenHeader .data 0) * kEventTimeUnit
          rw [headerDelta_eventTokenHeader _ (by omega)]
          exact (UInt64.add_zero _).symm
        simp only [EventToken.event, htime]
    rw [tokenEvents, tokenEvents, hevent,
      ih (fun t' ht' => h t' (List.mem_cons_of_mem _ ht'))]

/-- On any stream of tokens that a provider writes the two parsers report the same events with the
same bytes, whatever the buffers in which each of them gets it. -/
theorem parsers_agree (tokens : List EventToken) (h : ∀ t ∈ tokens, WrittenByProvider t)
    (buffers legacyBuffers : List (List UInt8)) (hbuffers : buffers.flatten = encodeTokens tokens)
    (hlegacy : legacyBuffers.flatten = encodeTokens tokens) :
    ∃ reports p legacyReports q, EventParser.new.parseBuffers buffers = some (reports, p) ∧
      LegacyEventParser.new.parseBuffers legacyBuffers = some (legacyReports, q) ∧
      gatherReports legacyReports = gatherReports reports := by
  have htokens := read_encodeTokens legacyRules ⟨0, 0, 0⟩ (fun t ht => (h t ht).wellFormed)
    fun t ht => (h t ht).acceptsDelta
  have hlost : ((tokenReader legacyRules).read ⟨⟨0, 0, 0⟩, .header⟩
      legacyBuffers.flatten).1.place ≠ .lost := by
    rw [hlegacy, htokens]
    exact TokenPlace.noConfusion
  have hnew : LegacyReadsAs LegacyEventParser.new ⟨⟨0, 0, 0⟩, .header⟩ :=
    ⟨rfl, rfl, rfl, rfl, rfl⟩
  obtain ⟨reports, p, hrun, hreports, -⟩ :=
    parseBuffers_encodeTokens (fun t ht => (h t ht).wellFormed) buffers hbuffers
  obtain ⟨legacyReports, q, s, hlegacyRun, -, hread⟩ := legacy_buffers legacyBuffers hnew hlost
  rw [hlegacy, htokens, Prod.mk.injEq, tokenEvents_written h] at hread
  refine ⟨reports, p, legacyReports, q, hrun, hlegacyRun, ?_⟩
  rw [hreports, gatherReports_eq, ← hread.2, gatherRead_events]

theorem parsers_agree_on_event :
    ∃ reports p legacyReports q,
      EventParser.new.parseBuffers [[0x01, 5, 0, 0, 0, 6, 0], [0, 0, 1, 0, 0, 0, 0, 0, 0, 0, 9]] =
        some (reports, p) ∧
      LegacyEventParser.new.parseBuffers [encodeTokens [.data 0 5 6 [9]]] =
        some (legacyReports, q) ∧
      gatherReports legacyReports = gatherReports reports := by
  apply parsers_agree [.data 0 5 6 [9]]
  · intro t ht
    rw [List.mem_singleton.mp ht]
    have hdata := WrittenByProvider.data ⟨1, 0⟩ 0 5 6 [9] (by decide)
    rwa [timestampDelta_createTimestamp] at hdata
  · decide
  · exact List.append_nil _

end DevDriver.Analysis
