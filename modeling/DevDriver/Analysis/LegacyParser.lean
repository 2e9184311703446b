import DevDriver.Analysis.EventTokens
import DevDriver.Model.LegacyEventParser

/-!
# The legacy event parser and its token buffer

Between two rounds the legacy parser is in front of a header, inside a token, inside a time delta or
inside a payload, and what it has collected is never more than what it is inside of.  A token fits
into the token buffer.
-/

namespace DevDriver.Analysis

open Library Model LegacyParse EventTokenType LegacyEventParser

/-! ## Places -/

inductive LegacyPlaced (p : LegacyEventParser) : Prop where
  | header (state : p.eventDataState = .waitingForHeader) (tokenBuffer : p.tokenBuffer = [])
      (bytesRead : p.eventPayloadBytesRead = 0)
  | token (header : UInt8) (got : List UInt8) (state : p.eventDataState = .waitingForToken)
      (tokenBuffer : p.tokenBuffer = header :: got)
      (part : got.length ≤ getTokenSize header)
      (bytesRead : p.eventPayloadBytesRead = 0)
  | delta (header numBytes : UInt8) (got : List UInt8)
      (state : p.eventDataState = .waitingForPayload)
      (tokenBuffer : p.tokenBuffer = header :: numBytes :: got)
      (type : ofHeader header = some .timeDelta)
      (part : got.length < numBytes.toNat) (fits : got.length ≤ 23)
      (bytesRead : p.eventPayloadBytesRead = 0)
  | payload (header : UInt8) (token : List UInt8) (state : p.eventDataState = .waitingForPayload)
      (tokenBuffer : p.tokenBuffer = header :: token)
      (type : ofHeader header = some .data) (size : token.length = 16)
      (part : p.eventPayloadBytesRead < leNat (slice token 8 8))

/-- Of the time delta that the parser is inside of, no more than 23 bytes are there. -/
def DeltaFits (c : LegacyParse) : Prop :=
  c.parser.eventDataState = .waitingForPayload → ∀ header numBytes got,
    c.parser.tokenBuffer = header :: numBytes :: got →
      ofHeader header = some .timeDelta →
        min (got.length + c.reader.length) numBytes.toNat ≤ 23

theorem getTokenSize_le (header : UInt8) : getTokenSize header ≤ 24 := by
  unfold getTokenSize
  cases ofHeader header with
  | none => exact Nat.zero_le _
  | some type => cases type <;> simp [EventTokenType.size]

variable {header : UInt8}

theorem getTokenSize_of {type : EventTokenType}
    (htype : ofHeader header = some type) :
    getTokenSize header = type.size := by
  unfold getTokenSize
  rw [htype]
  rfl

theorem LegacyPlaced.size_le {p : LegacyEventParser} (h : LegacyPlaced p) :
    p.tokenBuffer.length ≤ kMaxEventTokenSize := by
  unfold kMaxEventTokenSize
  cases h with
  | header _ tokenBuffer _ =>
    rw [tokenBuffer]
    exact Nat.zero_le _
  | token header got _ tokenBuffer part _ =>
    have hsize := getTokenSize_le header
    rw [tokenBuffer, List.length_cons]
    omega
  | delta header numBytes got _ tokenBuffer _ _ fits _ =>
    rw [tokenBuffer, List.length_cons, List.length_cons]
    omega
  | payload header token _ tokenBuffer _ size _ =>
    rw [tokenBuffer, List.length_cons]
    omega

theorem legacyPlaced_reset (p : LegacyEventParser) : LegacyPlaced p.resetEventDataBufferState :=
  .header rfl rfl rfl

theorem legacyPlaced_processToken (p : LegacyEventParser) : LegacyPlaced p.processToken := by
  unfold processToken
  split
  · exact legacyPlaced_reset _
  · exact legacyPlaced_reset _
  · exact legacyPlaced_reset _
  · exact legacyPlaced_reset _

variable {c : LegacyParse}

variable {token : List UInt8} {n : ℕ}

theorem sizeSub_of_le {m : ℕ} (h : n ≤ m) (hm : m < 2 ^ 64) : sizeSub m n = m - n := by
  unfold sizeSub
  omega

theorem getBytes_zero : c.getBytes 0 = .error .invalidParameter := rfl

theorem getBytes_of_le (hpos : 0 < n) (hle : n ≤ c.reader.length) :
    c.getBytes n = .ok (c.reader.take n, { c with reader := c.reader.drop n }) := by
  unfold getBytes
  rw [if_pos hpos, if_pos hle]

theorem writeIntoTokenBuffer_of_le {bytes : List UInt8}
    (h : c.parser.tokenBuffer.length + bytes.length ≤ kMaxEventTokenSize) :
    c.writeIntoTokenBuffer bytes =
      some { c with parser := { c.parser with tokenBuffer := c.parser.tokenBuffer ++ bytes } } := by
  unfold writeIntoTokenBuffer
  rw [if_pos h]

theorem token_of_buffer (hbuffer : c.parser.tokenBuffer = header :: token) :
    c.parser.token = token := by
  unfold LegacyEventParser.token
  rw [hbuffer]
  rfl

theorem length_drop_lt {α : Type} {l : List α} (hpos : 0 < n) (hle : n ≤ l.length) :
    (l.drop n).length < l.length := by
  rw [List.length_drop]
  omega

theorem payloadSize_lt (hsize : token.length = 16) : leNat (slice token 8 8) < 2 ^ 64 := by
  have hfield : (slice token 8 8).length = 8 := by
    unfold slice
    rw [List.length_take, List.length_drop, hsize]
    rfl
  have hbound := leNat_lt (slice token 8 8)
  rw [hfield] at hbound
  norm_num at hbound ⊢
  exact hbound

/-! ## Rounds -/

def LegacyAdvances (c : LegacyParse) : LegacyRound → Prop
  | .next c' => LegacyPlaced c'.parser ∧ c'.reader.length < c.reader.length
  | .stop _ c' => LegacyPlaced c'.parser
  | .overrun => False

theorem emitEventReceived_spec (c : LegacyParse) :
    ∃ result skip answers reports, c.emitEventReceived = (result, { c with
      parser := { c.parser with skipPayloadData := skip }
      answers := answers
      reports := reports }) := by
  unfold emitEventReceived callback
  by_cases hrejected : c.answers.headD .success = .rejected
  · simp only [if_pos hrejected]
    exact ⟨_, _, _, _, rfl⟩
  · simp only [if_neg hrejected]
    exact ⟨_, _, _, _, rfl⟩

theorem emitPayloadData_spec (c : LegacyParse) (data : List UInt8) :
    ∃ answers reports, c.emitPayloadData data = (.success, { c with
        parser := { c.parser with
          eventPayloadBytesRead := c.parser.eventPayloadBytesRead + data.length }
        answers := answers
        reports := reports }) ∨
      ∃ result, result ≠ .success ∧ c.emitPayloadData data = (result, { c with
        answers := answers
        reports := reports }) := by
  unfold emitPayloadData callback
  cases hskip : c.parser.skipPayloadData with
  | true =>
    refine ⟨c.answers, c.reports, .inl ?_⟩
    simp [hskip]
  | false =>
    refine ⟨c.answers.tail, c.reports ++ [.payload data], ?_⟩
    by_cases hresult : c.answers.headD .success = .success
    · left
      simp only [Bool.false_eq_true, if_false, if_pos hresult, hskip]
    · right
      refine ⟨c.answers.headD .success, hresult, ?_⟩
      simp only [Bool.false_eq_true, if_false, if_neg hresult]

theorem tokenDone_advances {c₀ : LegacyParse} (hstate : c.parser.eventDataState = .waitingForToken)
    (hbuffer : c.parser.tokenBuffer = header :: token)
    (hsize : token.length = getTokenSize header)
    (hread : c.parser.eventPayloadBytesRead = 0) (hless : c.reader.length < c₀.reader.length) :
    LegacyAdvances c₀ c.tokenDone := by
  have htoken : c.parser.token = token := token_of_buffer hbuffer
  have hhead : c.parser.tokenBuffer.headD 0 = header := by
    rw [hbuffer]
    rfl
  have hplaced : LegacyPlaced c.parser := .token header token hstate hbuffer hsize.le hread
  unfold tokenDone
  rw [hhead, htoken]
  cases htype : ofHeader header with
  | none => exact ⟨legacyPlaced_processToken _, hless⟩
  | some type =>
    cases type with
    | provider => exact ⟨legacyPlaced_processToken _, hless⟩
    | timestamp => exact ⟨legacyPlaced_processToken _, hless⟩
    | timeDelta =>
      rw [getTokenSize_of htype] at hsize
      obtain ⟨numBytes, rfl⟩ := List.length_eq_one_iff.mp hsize
      show LegacyAdvances c₀ (if 0 < numBytes.toNat then _ else _)
      by_cases hpos : 0 < numBytes.toNat
      · rw [if_pos hpos]
        exact ⟨.delta header numBytes [] rfl hbuffer htype hpos (by simp) hread, hless⟩
      · rw [if_neg hpos]
        exact hplaced
    | data =>
      have hdata : token.length = 16 := by
        rw [hsize, getTokenSize_of htype]
        rfl
      obtain ⟨result, skip, answers, reports, hemit⟩ := emitEventReceived_spec c
      rw [hemit]
      by_cases hresult : result = .success
      · subst hresult
        have hpayload : (LegacyEventParser.token { c.parser with skipPayloadData := skip }) =
            token := htoken
        by_cases hzero : leNat (slice token 8 8) = 0
        · simp only [hpayload, hzero, ne_eq, not_true_eq_false, if_false]
          exact ⟨legacyPlaced_reset _, hless⟩
        · simp only [hpayload, hzero, ne_eq, not_false_eq_true, if_true]
          refine ⟨.payload header token rfl hbuffer htype hdata ?_, hless⟩
          show c.parser.eventPayloadBytesRead < _
          omega
      · have hstop : LegacyAdvances c₀ (.stop result { c with
            parser := { c.parser with skipPayloadData := skip }
            answers := answers
            reports := reports }) := .token header token hstate hbuffer hsize.le hread
        cases result <;> first | exact absurd rfl hresult | exact hstop

theorem headerRound_advances (hreader : c.reader ≠ [])
    (hbuffer : c.parser.tokenBuffer = []) (hread : c.parser.eventPayloadBytesRead = 0) :
    LegacyAdvances c c.headerRound := by
  have hpos : 1 ≤ c.reader.length := List.length_pos_iff.mpr hreader
  obtain ⟨b, rest, hcons⟩ := List.exists_cons_of_ne_nil hreader
  unfold headerRound
  rw [getBytes_of_le Nat.one_pos hpos]
  simp only [hcons, List.take_succ_cons, List.take_zero]
  rw [writeIntoTokenBuffer_of_le (by simp [hbuffer, kMaxEventTokenSize])]
  refine ⟨.token b [] rfl ?_ (Nat.zero_le _) hread, ?_⟩
  · show c.parser.tokenBuffer ++ [b] = [b]
    rw [hbuffer]
    rfl
  · show (rest.drop 0).length < c.reader.length
    rw [hcons]
    simp

theorem tokenRound_advances {got : List UInt8} (hreader : c.reader ≠ [])
    (hstate : c.parser.eventDataState = .waitingForToken)
    (hbuffer : c.parser.tokenBuffer = header :: got)
    (hpart : got.length ≤ getTokenSize header)
    (hread : c.parser.eventPayloadBytesRead = 0) : LegacyAdvances c c.tokenRound := by
  have hpos : 1 ≤ c.reader.length := List.length_pos_iff.mpr hreader
  have hsize := getTokenSize_le header
  have hsub : sizeSub (getTokenSize header) got.length =
      getTokenSize header - got.length := sizeSub_of_le hpart (by omega)
  unfold tokenRound
  simp only [hbuffer, hsub]
  by_cases hfull : got.length = getTokenSize header
  · rw [hfull, Nat.sub_self, Nat.min_zero, getBytes_zero]
    exact .token header got hstate hbuffer hpart hread
  · generalize hcount : min c.reader.length (getTokenSize header - got.length) =
      count
    have hlength : (c.reader.take count).length = count :=
      List.length_take_of_le (by omega)
    rw [getBytes_of_le (by omega) (by omega)]
    simp only []
    rw [writeIntoTokenBuffer_of_le (by
      rw [hlength, hbuffer, List.length_cons]
      unfold kMaxEventTokenSize
      omega)]
    simp only [hbuffer, List.cons_append, List.length_cons, List.length_append, hlength]
    have hless := length_drop_lt (l := c.reader) (n := count) (by omega) (by omega)
    by_cases hdone : got.length + count + 1 = getTokenSize header + 1
    · rw [if_pos hdone]
      have hsize' : (got ++ c.reader.take count).length =
          getTokenSize header := by
        rw [List.length_append, hlength]
        omega
      refine tokenDone_advances ?_ rfl hsize' ?_ hless
      · exact hstate
      · exact hread
    · rw [if_neg hdone]
      refine ⟨.token header (got ++ c.reader.take count) hstate rfl ?_ hread, hless⟩
      rw [List.length_append, hlength]
      omega

theorem deltaRound_advances {numBytes : UInt8} {got : List UInt8} (hreader : c.reader ≠ [])
    (hstate : c.parser.eventDataState = .waitingForPayload)
    (hbuffer : c.parser.tokenBuffer = header :: numBytes :: got)
    (htype : ofHeader header = some .timeDelta) (hpart : got.length < numBytes.toNat)
    (hread : c.parser.eventPayloadBytesRead = 0) :
    (min (got.length + c.reader.length) numBytes.toNat ≤ 23 → LegacyAdvances c c.deltaRound) ∧
      (23 < min (got.length + c.reader.length) numBytes.toNat → c.deltaRound = .overrun) := by
  have hpos : 1 ≤ c.reader.length := List.length_pos_iff.mpr hreader
  have hbyte := numBytes.toNat_lt
  have hsub : sizeSub numBytes.toNat got.length = numBytes.toNat - got.length :=
    sizeSub_of_le hpart.le (by omega)
  have htoken : c.parser.token = numBytes :: got := token_of_buffer hbuffer
  unfold deltaRound
  simp only [htoken, hsub]
  generalize hcount : min c.reader.length (numBytes.toNat - got.length) = count
  have hlength : (c.reader.take count).length = count := List.length_take_of_le (by omega)
  have hless := length_drop_lt (l := c.reader) (n := count) (by omega) (by omega)
  rw [getBytes_of_le (by omega) (by omega)]
  simp only []
  constructor
  · intro hfits
    rw [writeIntoTokenBuffer_of_le (by
      rw [hlength, hbuffer, List.length_cons, List.length_cons]
      unfold kMaxEventTokenSize
      omega)]
    simp only [hbuffer, List.cons_append, List.length_cons, List.length_append, hlength]
    by_cases hdone : got.length + count + 1 + 1 = 2 + numBytes.toNat
    · rw [if_pos hdone]
      exact ⟨legacyPlaced_processToken _, hless⟩
    · rw [if_neg hdone]
      refine ⟨.delta header numBytes (got ++ c.reader.take count) hstate rfl htype ?_ ?_ hread,
        hless⟩
      · rw [List.length_append, hlength]
        omega
      · rw [List.length_append, hlength]
        omega
  · intro hmore
    have hnone : writeIntoTokenBuffer (c.reader.take count)
        { c with reader := c.reader.drop count } = none := by
      unfold writeIntoTokenBuffer
      rw [if_neg]
      simp only [hlength, hbuffer, List.length_cons, kMaxEventTokenSize]
      omega
    rw [hnone]

theorem payloadRound_advances (hreader : c.reader ≠ [])
    (hstate : c.parser.eventDataState = .waitingForPayload)
    (hbuffer : c.parser.tokenBuffer = header :: token)
    (htype : ofHeader header = some .data) (hsize : token.length = 16)
    (hpart : c.parser.eventPayloadBytesRead < leNat (slice token 8 8)) :
    LegacyAdvances c c.payloadRound := by
  have hpos : 1 ≤ c.reader.length := List.length_pos_iff.mpr hreader
  have htoken : c.parser.token = token := token_of_buffer hbuffer
  have hsub : sizeSub (leNat (slice token 8 8)) c.parser.eventPayloadBytesRead =
      leNat (slice token 8 8) - c.parser.eventPayloadBytesRead :=
    sizeSub_of_le hpart.le (payloadSize_lt hsize)
  unfold payloadRound
  rw [htoken, if_neg (by rw [hsize]; decide)]
  simp only [hsub]
  generalize hcount : min c.reader.length
    (leNat (slice token 8 8) - c.parser.eventPayloadBytesRead) = count
  have hlength : (c.reader.take count).length = count := List.length_take_of_le (by omega)
  have hless := length_drop_lt (l := c.reader) (n := count) (by omega) (by omega)
  rw [getBytes_of_le (by omega) (by omega)]
  simp only []
  obtain ⟨answers, reports, hemit | ⟨result, hresult, hemit⟩⟩ :=
    emitPayloadData_spec { c with reader := c.reader.drop count } (c.reader.take count)
  · rw [hemit]
    simp only [hlength]
    by_cases hdone : c.parser.eventPayloadBytesRead + count = leNat (slice token 8 8)
    · rw [if_pos hdone]
      exact ⟨legacyPlaced_reset _, hless⟩
    · rw [if_neg hdone]
      refine ⟨.payload header token hstate hbuffer htype hsize ?_, hless⟩
      show c.parser.eventPayloadBytesRead + count < _
      omega
  · have hstop : LegacyAdvances c (.stop result { c with
        reader := c.reader.drop count
        answers := answers
        reports := reports }) := .payload header token hstate hbuffer htype hsize hpart
    rw [hemit]
    cases result <;> first | exact absurd rfl hresult | exact hstop

/-- A round goes on with fewer bytes, or the call returns, unless the parser is inside of a time
delta of which too many bytes are there. -/
theorem round_advances (h : LegacyPlaced c.parser) (hreader : c.reader ≠ []) :
    (DeltaFits c → LegacyAdvances c c.round) ∧ (¬ DeltaFits c → c.round = .overrun) := by
  unfold LegacyParse.round
  cases h with
  | header state tokenBuffer bytesRead =>
    have hfits : DeltaFits c := by
      intro hstate
      rw [state] at hstate
      cases hstate
    rw [state]
    exact ⟨fun _ => headerRound_advances hreader tokenBuffer bytesRead, absurd hfits⟩
  | token header got state tokenBuffer part bytesRead =>
    have hfits : DeltaFits c := by
      intro hstate
      rw [state] at hstate
      cases hstate
    rw [state]
    exact ⟨fun _ => tokenRound_advances hreader state tokenBuffer part bytesRead, absurd hfits⟩
  | delta header numBytes got state tokenBuffer type part _ bytesRead =>
    have hround := deltaRound_advances hreader state tokenBuffer type part bytesRead
    have hfits : DeltaFits c ↔ min (got.length + c.reader.length) numBytes.toNat ≤ 23 := by
      constructor
      · intro hdelta
        exact hdelta state header numBytes got tokenBuffer type
      · intro hle hstate header' numBytes' got' htokenBuffer htype
        rw [tokenBuffer] at htokenBuffer
        injection htokenBuffer with hheader hrest
        injection hrest with hnumBytes hgot
        rw [← hgot, ← hnumBytes]
        exact hle
    rw [state, tokenBuffer]
    simp only [type]
    rw [hfits, not_le]
    exact hround
  | payload header token state tokenBuffer type size part =>
    have hfits : DeltaFits c := by
      intro hstate header' numBytes got htokenBuffer htype
      rw [tokenBuffer] at htokenBuffer
      injection htokenBuffer with hheader hrest
      rw [← hheader, type] at htype
      cases htype
    rw [state, tokenBuffer]
    simp only [type]
    exact ⟨fun _ => payloadRound_advances hreader state tokenBuffer type size part, absurd hfits⟩

/-! ## Calls -/

/-- What is asked of the parser in a round: the token buffer is not overrun, and a token is one of
the four or refused. -/
structure LegacyContained (c : LegacyParse) : Prop where
  size : c.parser.tokenBuffer.length ≤ kMaxEventTokenSize
  inside : c.round ≠ .overrun
  recognised : c.parser.eventDataState = .waitingForToken →
    (∃! type : EventTokenType, (c.parser.tokenBuffer.headD 0).toNat % 16 = type.toCode) ∨
      c.round = .stop .invalidParameter c

/-- The call returns with a token that fits the buffer. -/
def ReturnsContained (outcome : LegacyOutcome) : Prop :=
  ∃ result c, outcome = .returned result c ∧
    c.parser.tokenBuffer.length ≤ kMaxEventTokenSize

theorem toCode_eq_iff (header : UInt8) (type : EventTokenType) :
    header.toNat % 16 = type.toCode ↔ ofHeader header = some type := by
  unfold ofHeader
  constructor
  · intro hcode
    cases type <;> simp [hcode, toCode]
  · intro htype
    split_ifs at htype with hprovider hdata htimestamp hdelta
    · cases htype
      exact hprovider
    · cases htype
      exact hdata
    · cases htype
      exact htimestamp
    · cases htype
      exact hdelta

theorem contained_of_placed (h : LegacyPlaced c.parser) (hreader : c.reader ≠ [])
    (hfits : DeltaFits c) : LegacyContained c := by
  have hround := (round_advances h hreader).1 hfits
  refine ⟨h.size_le, ?_, ?_⟩
  · intro hoverrun
    rw [hoverrun] at hround
    exact hround
  · intro hstate
    cases h with
    | header state _ _ => cases hstate.symm.trans state
    | delta _ _ _ state _ _ _ _ _ => cases hstate.symm.trans state
    | payload _ _ state _ _ _ _ => cases hstate.symm.trans state
    | token header got state tokenBuffer part _ =>
      rw [tokenBuffer, List.headD_cons]
      cases htype : ofHeader header with
      | some type =>
        left
        refine ⟨type, (toCode_eq_iff header type).mpr htype, ?_⟩
        intro type' htype'
        have hsame := (toCode_eq_iff header type').mp htype'
        rw [htype] at hsame
        exact (Option.some_inj.mp hsame).symm
      | none =>
        right
        have hsize : getTokenSize header = 0 := by
          unfold getTokenSize
          rw [htype]
          rfl
        rw [hsize, Nat.le_zero, List.length_eq_zero_iff] at part
        unfold LegacyParse.round tokenRound
        rw [state]
        simp only [tokenBuffer, part, hsize]
        rw [show sizeSub 0 ([] : List UInt8).length = 0 from rfl, Nat.min_zero, getBytes_zero]

theorem rounds_spec (n : ℕ) (h : LegacyPlaced c.parser) (hn : c.reader.length < n) :
    ((∀ c' ∈ (c.rounds n).1, LegacyContained c' ∧ DeltaFits c') ∧
      ∃ result c', (c.rounds n).2 = .returned result c' ∧ LegacyPlaced c'.parser) ∨
    ((c.rounds n).2 = .overrun ∧
      ∃ c' ∈ (c.rounds n).1, ¬ DeltaFits c' ∧ c'.round = .overrun) := by
  induction n generalizing c with
  | zero => exact absurd hn (Nat.not_lt_zero _)
  | succ n ih =>
    unfold rounds
    by_cases hreader : c.reader = []
    · rw [if_pos hreader]
      exact .inl ⟨by simp, .success, c, rfl, h⟩
    · rw [if_neg hreader]
      have hround := round_advances h hreader
      by_cases hfits : DeltaFits c
      · have hcontained := contained_of_placed h hreader hfits
        have hadvances := hround.1 hfits
        cases hresult : c.round with
        | next c' =>
          rw [hresult] at hadvances
          obtain ⟨hplaced, hless⟩ := hadvances
          rcases ih hplaced (by omega) with ⟨hall, hreturned⟩ | ⟨hoverrun, c'', hmem, hbad⟩
          · left
            refine ⟨?_, hreturned⟩
            intro c'' hmem
            rcases List.mem_cons.mp hmem with rfl | hmem
            · exact ⟨hcontained, hfits⟩
            · exact hall c'' hmem
          · exact .inr ⟨hoverrun, c'', List.mem_cons_of_mem _ hmem, hbad⟩
        | stop result c' =>
          rw [hresult] at hadvances
          left
          refine ⟨?_, result, c', rfl, hadvances⟩
          intro c'' hmem
          rw [List.mem_singleton.mp hmem]
          exact ⟨hcontained, hfits⟩
        | overrun => exact absurd hresult hcontained.inside
      · have hoverrun := hround.2 hfits
        rw [hoverrun]
        exact .inr ⟨rfl, c, List.mem_singleton_self c, hfits, hoverrun⟩

theorem parseCalls_spec (calls : List LegacyCall) {p : LegacyEventParser} (h : LegacyPlaced p) :
    ((∀ c ∈ (p.parseCalls calls).1, LegacyContained c ∧ DeltaFits c) ∧
      ∀ o ∈ (p.parseCalls calls).2, ReturnsContained o) ∨
    ∃ c ∈ (p.parseCalls calls).1, ¬ DeltaFits c ∧ c.round = .overrun := by
  induction calls generalizing p with
  | nil =>
    left
    simp [parseCalls]
  | cons call calls ih =>
    have hspec := rounds_spec (c := ⟨p, call.buffer, call.answers, []⟩) (call.buffer.length + 1) h
      (Nat.lt_succ_self _)
    unfold parseCalls parse
    rcases hrounds : rounds (call.buffer.length + 1)
      ⟨p, call.buffer, call.answers, []⟩ with ⟨rounds, outcome⟩
    rw [hrounds] at hspec
    rcases hspec with ⟨hall, result, c', hreturned, hplaced⟩ | ⟨hoverrun, c', hmem, hbad⟩
    · obtain rfl : outcome = .returned result c' := hreturned
      rcases ih hplaced with ⟨hall', hreturn⟩ | ⟨c'', hmem, hbad⟩
      · left
        constructor
        · intro c'' hmem
          rcases List.mem_append.mp hmem with hmem | hmem
          · exact hall c'' hmem
          · exact hall' c'' hmem
        · intro o ho
          rcases List.mem_cons.mp ho with rfl | ho
          · exact ⟨result, c', rfl, hplaced.size_le⟩
          · exact hreturn o ho
      · exact .inr ⟨c'', List.mem_append_right _ hmem, hbad⟩
    · obtain rfl : outcome = .overrun := hoverrun
      exact .inr ⟨c', hmem, hbad⟩

/-- Whatever bytes the parser is given, and in whatever calls, it stays inside its token buffer,
recognises or refuses each token and returns, if and only if it is never given more than 23 bytes
of a time delta. -/
theorem legacy_parse_contained_iff (calls : List LegacyCall) :
    ((∀ c ∈ (LegacyEventParser.new.parseCalls calls).1, LegacyContained c) ∧
        ∀ o ∈ (LegacyEventParser.new.parseCalls calls).2, ReturnsContained o) ↔
      ∀ c ∈ (LegacyEventParser.new.parseCalls calls).1, DeltaFits c := by
  have hnew : LegacyPlaced LegacyEventParser.new := .header rfl rfl rfl
  rcases parseCalls_spec calls hnew with ⟨hall, hreturn⟩ | ⟨c, hmem, hfits, hoverrun⟩
  · exact iff_of_true ⟨fun c hc => (hall c hc).1, hreturn⟩ fun c hc => (hall c hc).2
  · exact iff_of_false (fun h => (h.1 c hmem).inside hoverrun) fun h => hfits (h c hmem)

/-- A time delta that announces 24 bytes, all of them in one call. -/
theorem legacy_parse_overrun :
    ¬ ((∀ c ∈ (LegacyEventParser.new.parseCalls [⟨[3, 24] ++ List.replicate 24 0, []⟩]).1,
        LegacyContained c) ∧
      ∀ o ∈ (LegacyEventParser.new.parseCalls [⟨[3, 24] ++ List.replicate 24 0, []⟩]).2,
        ReturnsContained o) := by
  intro h
  obtain ⟨result, c, hreturned, -⟩ := h.2 .overrun (by decide +kernel)
  cases hreturned

end DevDriver.Analysis
