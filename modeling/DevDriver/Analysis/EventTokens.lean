import DevDriver.Analysis.EventParserCalls

/-!
# Streams of tokens

A token says who writes, what time it is, how much time has passed, or that an event follows.
-/

namespace DevDriver.Analysis

open Library Model EventStreamInfo

/-- A token, with the delta of its header and its payload. -/
inductive EventToken where
  | provider (delta : ℕ) (id : UInt32) (padding : UInt32) (frequency timestamp : UInt64)
  | timestamp (delta : ℕ) (frequency timestamp : UInt64)
  | timeDelta (delta : ℕ) (bytes : List UInt8)
  | data (delta : ℕ) (id index : UInt32) (payload : List UInt8)

namespace EventToken

/-- A time delta has no more bytes than the format allows, and the size of an event fits. -/
def WellFormed : EventToken → Prop
  | .provider _ _ _ _ _ => True
  | .timestamp _ _ _ => True
  | .timeDelta _ bytes => bytes.length ≤ 6
  | .data _ _ _ payload => payload.length < 2 ^ 64

def type : EventToken → EventTokenType
  | .provider _ _ _ _ _ => .provider
  | .timestamp _ _ _ => .timestamp
  | .timeDelta _ _ => .timeDelta
  | .data _ _ _ _ => .data

def delta : EventToken → ℕ
  | .provider d _ _ _ _ => d
  | .timestamp d _ _ => d
  | .timeDelta d _ => d
  | .data d _ _ _ => d

def fields : EventToken → List UInt8
  | .provider _ id padding frequency time =>
    leBytes 4 id.toNat ++ (leBytes 4 padding.toNat ++ (leBytes 8 frequency.toNat ++
      leBytes 8 time.toNat))
  | .timestamp _ frequency time => leBytes 8 frequency.toNat ++ leBytes 8 time.toNat
  | .timeDelta _ bytes => [UInt8.ofNat bytes.length]
  | .data _ id index bytes =>
    leBytes 4 id.toNat ++ (leBytes 4 index.toNat ++ leBytes 8 bytes.length)

def payload : EventToken → List UInt8
  | .provider _ _ _ _ _ => []
  | .timestamp _ _ _ => []
  | .timeDelta _ bytes => bytes
  | .data _ _ _ bytes => bytes

def encode (t : EventToken) : List UInt8 :=
  eventTokenHeader t.type t.delta :: (t.fields ++ t.payload)

def streamAfter (stream : EventStreamInfo) : EventToken → EventStreamInfo
  | .provider _ id _ frequency time => ⟨id, frequency, time⟩
  | .timestamp _ frequency time => ⟨stream.providerId, frequency, time⟩
  | .timeDelta _ bytes => stream.advance bytes
  | .data _ _ _ _ => stream

def event (rules : TokenRules) (stream : EventStreamInfo) :
    EventToken → Option (EventInfo × List UInt8)
  | .data delta id index bytes =>
    some (⟨stream.providerId, id, index, UInt64.ofNat bytes.length, stream.timestampFrequency,
      rules.eventTime stream (eventTokenHeader .data delta)⟩, bytes)
  | _ => none

end EventToken

def encodeTokens (tokens : List EventToken) : List UInt8 := tokens.flatMap EventToken.encode

def tokenEvents (rules : TokenRules) (stream : EventStreamInfo) :
    List EventToken → List (EventInfo × List UInt8)
  | [] => []
  | t :: tokens => (t.event rules stream).toList ++ tokenEvents rules (t.streamAfter stream) tokens

def streamAfterAll (stream : EventStreamInfo) (tokens : List EventToken) : EventStreamInfo :=
  tokens.foldl EventToken.streamAfter stream

def eventReports (event : EventInfo × List UInt8) : List ReadReport :=
  .event event.1 :: event.2.map .byte

/-! ## Fields -/

theorem ofHeader_eventTokenHeader (type : EventTokenType) (delta : ℕ) :
    EventTokenType.ofHeader (eventTokenHeader type delta) = some type := by
  have hlt : delta % 16 < 16 := Nat.mod_lt _ (by decide)
  have hcode : (eventTokenHeader type delta).toNat = type.toCode + 16 * (delta % 16) := by
    unfold eventTokenHeader
    cases type <;> simp only [EventTokenType.toCode, UInt8.toNat_ofNat'] <;> omega
  unfold EventTokenType.ofHeader
  rw [hcode]
  cases type <;> simp [EventTokenType.toCode]

theorem headerDelta_eventTokenHeader (type : EventTokenType) {delta : ℕ} (h : delta < 16) :
    headerDelta (eventTokenHeader type delta) = UInt64.ofNat delta := by
  have hcode : (eventTokenHeader type delta).toNat = type.toCode + 16 * delta := by
    unfold eventTokenHeader
    cases type <;> simp only [EventTokenType.toCode, UInt8.toNat_ofNat'] <;> omega
  unfold headerDelta
  rw [hcode]
  congr 1
  cases type <;> simp only [EventTokenType.toCode] <;> omega

theorem length_fields (t : EventToken) : t.fields.length = t.type.size := by
  cases t <;> simp [EventToken.fields, EventToken.type, EventTokenType.size]

theorem slice_first {field : List UInt8} {count : ℕ} (hcount : field.length = count)
    (after : List UInt8) : slice (field ++ after) 0 count = field := by
  subst hcount
  unfold slice
  rw [List.drop_zero, List.take_left]

theorem slice_next {before : List UInt8} {skipped : ℕ} (hskipped : before.length = skipped)
    (after : List UInt8) (offset count : ℕ) :
    slice (before ++ after) (skipped + offset) count = slice after offset count := by
  subst hskipped
  unfold slice
  rw [List.drop_length_add_append]

theorem slice_only {field : List UInt8} {count : ℕ} (hcount : field.length = count) :
    slice field 0 count = field := by
  subst hcount
  unfold slice
  rw [List.drop_zero, List.take_length]

theorem ofProviderToken_fields (delta : ℕ) (id padding : UInt32) (frequency time : UInt64) :
    ofProviderToken
      (EventToken.provider delta id padding frequency time).fields = ⟨id, frequency, time⟩ := by
  have hid : slice (EventToken.provider delta id padding frequency time).fields 0 4 =
      leBytes 4 id.toNat := slice_first (length_leBytes _ _) _
  have hfrequency : slice (EventToken.provider delta id padding frequency time).fields 8 8 =
      leBytes 8 frequency.toNat := by
    apply (slice_next (length_leBytes 4 _) _ 4 8).trans
    apply (slice_next (length_leBytes 4 _) _ 0 8).trans
    exact slice_first (length_leBytes _ _) _
  have htime : slice (EventToken.provider delta id padding frequency time).fields 16 8 =
      leBytes 8 time.toNat := by
    apply (slice_next (length_leBytes 4 _) _ 12 8).trans
    apply (slice_next (length_leBytes 4 _) _ 8 8).trans
    apply (slice_next (length_leBytes 8 _) _ 0 8).trans
    exact slice_only (length_leBytes _ _)
  unfold ofProviderToken
  rw [hid, hfrequency, htime, leNat_leBytes_uint32, leNat_leBytes_uint64, leNat_leBytes_uint64]
  simp

theorem withTimestampToken_fields (stream : EventStreamInfo) (delta : ℕ)
    (frequency time : UInt64) :
    stream.withTimestampToken (EventToken.timestamp delta frequency time).fields =
      ⟨stream.providerId, frequency, time⟩ := by
  have hfrequency : slice (EventToken.timestamp delta frequency time).fields 0 8 =
      leBytes 8 frequency.toNat := slice_first (length_leBytes _ _) _
  have htime : slice (EventToken.timestamp delta frequency time).fields 8 8 =
      leBytes 8 time.toNat := by
    apply (slice_next (length_leBytes 8 _) _ 0 8).trans
    exact slice_only (length_leBytes _ _)
  unfold withTimestampToken
  rw [hfrequency, htime, leNat_leBytes_uint64, leNat_leBytes_uint64]
  simp

theorem size_fields {delta : ℕ} {id index : UInt32} {payload : List UInt8}
    (h : payload.length < 2 ^ 64) :
    leNat (slice (EventToken.data delta id index payload).fields 8 8) = payload.length := by
  have hsize : slice (EventToken.data delta id index payload).fields 8 8 =
      leBytes 8 payload.length := by
    apply (slice_next (length_leBytes 4 _) _ 4 8).trans
    apply (slice_next (length_leBytes 4 _) _ 0 8).trans
    exact slice_only (length_leBytes _ _)
  rw [hsize]
  exact leNat_leBytes_of_lt h

theorem ofDataToken_fields {stream : EventStreamInfo} {delta : ℕ} {id index : UInt32}
    {payload : List UInt8} (h : payload.length < 2 ^ 64) (time : UInt64) :
    EventInfo.ofDataToken (EventToken.data delta id index payload).fields stream time =
      ⟨stream.providerId, id, index, UInt64.ofNat payload.length, stream.timestampFrequency,
        time⟩ := by
  have hid : slice (EventToken.data delta id index payload).fields 0 4 = leBytes 4 id.toNat :=
    slice_first (length_leBytes _ _) _
  have hindex : slice (EventToken.data delta id index payload).fields 4 4 =
      leBytes 4 index.toNat := by
    apply (slice_next (length_leBytes 4 _) _ 0 4).trans
    exact slice_first (length_leBytes _ _) _
  unfold EventInfo.ofDataToken
  rw [hid, hindex, size_fields h, leNat_leBytes_uint32, leNat_leBytes_uint32]
  simp

/-! ## Reading a token -/

def AcceptsDelta (rules : TokenRules) : EventToken → Prop
  | .timeDelta _ bytes => rules.deltaBytes (UInt8.ofNat bytes.length) = some bytes.length
  | _ => True

variable (rules : TokenRules) (stream : EventStreamInfo)

theorem read_header_token (t : EventToken) (rest : List UInt8) :
    (tokenReader rules).read ⟨stream, .header⟩ (t.encode ++ rest) =
      (tokenReader rules).read ⟨stream, .token (eventTokenHeader t.type t.delta) []⟩
        (t.fields ++ (t.payload ++ rest)) := by
  have hstep : (tokenReader rules).step ⟨stream, .header⟩ (eventTokenHeader t.type t.delta) =
      (⟨stream, .token (eventTokenHeader t.type t.delta) []⟩, []) := by
    simp only [tokenReader, tokenStep, ofHeader_eventTokenHeader]
  unfold EventToken.encode
  rw [List.cons_append, Reader.read_cons, hstep, List.append_assoc]
  rfl

theorem read_fields (t : EventToken) :
    (tokenReader rules).read ⟨stream, .token (eventTokenHeader t.type t.delta) []⟩ t.fields =
      tokenRead rules stream (eventTokenHeader t.type t.delta) t.fields t.type := by
  have hlength := length_fields t
  apply read_token (ofHeader_eventTokenHeader _ _)
  · apply List.ne_nil_of_length_pos
    rw [hlength]
    cases t <;> simp [EventToken.type, EventTokenType.size]
  · rw [List.length_nil, Nat.zero_add, hlength]

theorem read_encode {t : EventToken} (h : t.WellFormed) (hrules : AcceptsDelta rules t) :
    (tokenReader rules).read ⟨stream, .header⟩ t.encode =
      (⟨t.streamAfter stream, .header⟩, (t.event rules stream).toList.flatMap eventReports) := by
  have hheader := read_header_token rules stream t []
  have hfields := read_fields rules stream t
  rw [List.append_nil, List.append_nil] at hheader
  rw [hheader]
  cases t with
  | provider delta id padding frequency time =>
    rw [show (EventToken.provider delta id padding frequency time).payload = [] from rfl,
      List.append_nil, hfields]
    show ((⟨ofProviderToken _, _⟩ : TokenState), ([] : List ReadReport)) = _
    rw [ofProviderToken_fields]
    rfl
  | timestamp delta frequency time =>
    rw [show (EventToken.timestamp delta frequency time).payload = [] from rfl,
      List.append_nil, hfields]
    show ((⟨withTimestampToken _ _, _⟩ : TokenState), ([] : List ReadReport)) = _
    rw [withTimestampToken_fields]
    rfl
  | timeDelta delta bytes =>
    have hcount : tokenRead rules stream (eventTokenHeader .timeDelta delta)
        (EventToken.timeDelta delta bytes).fields .timeDelta =
          (⟨stream, deltaPlace bytes.length⟩, []) := by
      have hrule : rules.deltaBytes (UInt8.ofNat bytes.length) = some bytes.length := hrules
      simp only [tokenRead, EventToken.fields, List.headD_cons, hrule]
    rw [Reader.read_append_of (hfields.trans hcount)]
    show (((tokenReader rules).read ⟨stream, deltaPlace bytes.length⟩ bytes).1, _) = _
    cases bytes with
    | nil =>
      show ((⟨stream, .header⟩ : TokenState), ([] : List ReadReport)) = (⟨stream.advance [], _⟩, [])
      simp [advance, leNat]
    | cons b bytes =>
      have hread : (tokenReader rules).read ⟨stream, .delta (bytes.length + 1) []⟩ (b :: bytes) =
          (⟨stream.advance ([] ++ (b :: bytes)), .header⟩, []) :=
        read_delta (List.cons_ne_nil _ _) (by simp)
      show (((tokenReader rules).read ⟨stream, .delta (bytes.length + 1) []⟩ (b :: bytes)).1,
        [] ++ ((tokenReader rules).read ⟨stream, .delta (bytes.length + 1) []⟩
          (b :: bytes)).2) = _
      rw [hread]
      rfl
  | data delta id index payload =>
    have hlength : payload.length < 2 ^ 64 := h
    have htoken : tokenRead rules stream (eventTokenHeader .data delta)
        (EventToken.data delta id index payload).fields .data =
          (⟨stream, payloadPlace payload.length⟩, [.event ⟨stream.providerId, id, index,
            UInt64.ofNat payload.length, stream.timestampFrequency,
            rules.eventTime stream (eventTokenHeader .data delta)⟩]) := by
      unfold tokenRead
      simp only [size_fields hlength, ofDataToken_fields hlength]
    have hpayload : (tokenReader rules).read ⟨stream, payloadPlace payload.length⟩ payload =
        (⟨stream, .header⟩, payload.map .byte) := by
      rw [read_payload (le_refl _), Nat.sub_self]
      rfl
    rw [Reader.read_append_of (hfields.trans htoken)]
    show (((tokenReader rules).read ⟨stream, payloadPlace payload.length⟩ payload).1,
      _ :: [] ++ ((tokenReader rules).read ⟨stream, payloadPlace payload.length⟩ payload).2) = _
    rw [hpayload]
    simp [EventToken.event, EventToken.streamAfter, eventReports]

theorem read_encodeTokens {tokens : List EventToken} (h : ∀ t ∈ tokens, t.WellFormed)
    (hrules : ∀ t ∈ tokens, AcceptsDelta rules t) :
    (tokenReader rules).read ⟨stream, .header⟩ (encodeTokens tokens) =
      (⟨streamAfterAll stream tokens, .header⟩,
        (tokenEvents rules stream tokens).flatMap eventReports) := by
  induction tokens generalizing stream with
  | nil => rfl
  | cons t tokens ih =>
    have hfirst := read_encode rules stream (h t List.mem_cons_self) (hrules t List.mem_cons_self)
    have hrest := ih (t.streamAfter stream)
      (fun t' ht' => h t' (List.mem_cons_of_mem _ ht'))
      (fun t' ht' => hrules t' (List.mem_cons_of_mem _ ht'))
    unfold encodeTokens at hrest ⊢
    rw [List.flatMap_cons, Reader.read_append_of hfirst, hrest, tokenEvents, List.flatMap_append]
    rfl

/-- A report with what has been gathered behind it: the bytes in front of the first event, and the
events with the bytes behind them. -/
def gatherReport (gathered : List UInt8 × List (EventInfo × List UInt8)) :
    ParserReport → List UInt8 × List (EventInfo × List UInt8)
  | .event info => ([], (info, gathered.1) :: gathered.2)
  | .payload data => (data ++ gathered.1, gathered.2)

def gatherReports (reports : List ParserReport) : List UInt8 × List (EventInfo × List UInt8) :=
  reports.foldr (fun report gathered => gatherReport gathered report) ([], [])

def gatherRead : List ReadReport → List UInt8 × List (EventInfo × List UInt8)
  | [] => ([], [])
  | .event info :: reports => ([], (info, (gatherRead reports).1) :: (gatherRead reports).2)
  | .byte b :: reports => (b :: (gatherRead reports).1, (gatherRead reports).2)

theorem gatherRead_bytes (data : List UInt8) (reports : List ReadReport) :
    gatherRead (data.map .byte ++ reports) =
      (data ++ (gatherRead reports).1, (gatherRead reports).2) := by
  induction data with
  | nil => rfl
  | cons b data ih => simp only [List.map_cons, List.cons_append, gatherRead, ih]

theorem gatherReports_eq (reports : List ParserReport) :
    gatherReports reports = gatherRead (reports.flatMap ParserReport.bytes) := by
  induction reports with
  | nil => rfl
  | cons report reports ih =>
    rw [List.flatMap_cons]
    unfold gatherReports at ih ⊢
    rw [List.foldr_cons, ih]
    cases report with
    | event info => rfl
    | payload data =>
      apply Eq.symm
      apply gatherRead_bytes

theorem gatherRead_events (events : List (EventInfo × List UInt8)) :
    gatherRead (events.flatMap eventReports) = ([], events) := by
  induction events with
  | nil => rfl
  | cons event events ih =>
    rw [List.flatMap_cons]
    unfold eventReports at ih ⊢
    rw [List.cons_append, gatherRead, gatherRead_bytes, ih, List.append_nil]

theorem acceptsDelta_parserRules {t : EventToken} (h : t.WellFormed) :
    AcceptsDelta parserRules t := by
  cases t with
  | timeDelta delta bytes =>
    have hlength : bytes.length ≤ 6 := h
    have hcount : (UInt8.ofNat bytes.length).toNat = bytes.length := by
      rw [UInt8.toNat_ofNat']
      omega
    show some (min (UInt8.ofNat bytes.length).toNat 6) = some bytes.length
    rw [hcount, min_eq_left hlength]
  | _ => trivial

theorem parserReadsAs_new : ParserReadsAs EventParser.new ⟨⟨0, 0, 0⟩, .header⟩ :=
  ⟨rfl, .inl ⟨rfl, rfl, rfl, rfl⟩⟩

theorem parseBuffers_encodeTokens {tokens : List EventToken} (h : ∀ t ∈ tokens, t.WellFormed)
    (buffers : List (List UInt8)) (hbuffers : buffers.flatten = encodeTokens tokens) :
    ∃ reports p, EventParser.new.parseBuffers buffers = some (reports, p) ∧
      gatherReports reports = ([], tokenEvents parserRules ⟨0, 0, 0⟩ tokens) ∧
      ParserReadsAs p ⟨streamAfterAll ⟨0, 0, 0⟩ tokens, .header⟩ := by
  have htokens := read_encodeTokens parserRules ⟨0, 0, 0⟩ h
    fun t ht => acceptsDelta_parserRules (h t ht)
  have hlost : ((tokenReader parserRules).read ⟨⟨0, 0, 0⟩, .header⟩ buffers.flatten).1.place ≠
      .lost := by
    rw [hbuffers, htokens]
    exact TokenPlace.noConfusion
  obtain ⟨reports, p, s, hrun, hreads, hread⟩ := parseBuffers_reads buffers parserReadsAs_new hlost
  rw [hbuffers, htokens, Prod.mk.injEq] at hread
  refine ⟨reports, p, hrun, ?_, ?_⟩
  · rw [gatherReports_eq, ← hread.2, gatherRead_events]
  · rw [hread.1]
    exact hreads

theorem parseBuffer_encodeTokens {tokens : List EventToken} (h : ∀ t ∈ tokens, t.WellFormed) :
    ∃ reports p, EventParser.new.parseBuffer (encodeTokens tokens) = some (reports, p) ∧
      gatherReports reports = ([], tokenEvents parserRules ⟨0, 0, 0⟩ tokens) := by
  obtain ⟨reports, p, hwhole, hevents, -⟩ :=
    parseBuffers_encodeTokens h [encodeTokens tokens] (List.append_nil _)
  refine ⟨reports, p, ?_, hevents⟩
  unfold EventParser.parseBuffers at hwhole
  cases hbuffer : EventParser.new.parseBuffer (encodeTokens tokens) with
  | none => simp [hbuffer] at hwhole
  | some result => simpa [hbuffer, EventParser.parseBuffers] using hwhole

/-- However a stream of well-formed tokens is cut into buffers, every call returns, and the caller
gathers the same events with the same bytes as from the stream in one buffer. -/
theorem parse_independent_of_cuts (tokens : List EventToken) (h : ∀ t ∈ tokens, t.WellFormed)
    (buffers : List (List UInt8)) (hbuffers : buffers.flatten = encodeTokens tokens) :
    ∃ reports p whole q, EventParser.new.parseBuffers buffers = some (reports, p) ∧
      EventParser.new.parseBuffer (encodeTokens tokens) = some (whole, q) ∧
      gatherReports reports = gatherReports whole ∧
      gatherReports whole = ([], tokenEvents parserRules ⟨0, 0, 0⟩ tokens) := by
  obtain ⟨reports, p, hrun, hreports, -⟩ := parseBuffers_encodeTokens h buffers hbuffers
  obtain ⟨whole, q, hwhole, hevents⟩ := parseBuffer_encodeTokens h
  exact ⟨reports, p, whole, q, hrun, hwhole, hreports.trans hevents.symm, hevents⟩

theorem parse_independent_of_cuts_inside :
    ∃ reports p whole q,
      EventParser.new.parseBuffers [[0x01, 5, 0, 0, 0], [], [6, 0, 0, 0, 2, 0, 0, 0, 0, 0, 0, 0, 7],
        [8]] = some (reports, p) ∧
      EventParser.new.parseBuffer (encodeTokens [.data 0 5 6 [7, 8]]) = some (whole, q) ∧
      gatherReports reports = gatherReports whole ∧
      gatherReports whole = ([], tokenEvents parserRules ⟨0, 0, 0⟩ [.data 0 5 6 [7, 8]]) :=
  parse_independent_of_cuts [.data 0 5 6 [7, 8]] (by simp [EventToken.WellFormed])
    [[0x01, 5, 0, 0, 0], [], [6, 0, 0, 0, 2, 0, 0, 0, 0, 0, 0, 0, 7], [8]] (by decide)

end DevDriver.Analysis
