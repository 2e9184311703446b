import DevDriver.Analysis.ParserAgreement

/-!
# The stream that a provider writes

A write to a view goes on in the next chunk where one is full, so that the chunks of a view hold
what they held and what was written behind it, as long as the view has room.
-/

namespace DevDriver.Analysis

open Library Model BaseEventProvider EventChunkBufferView

/-! ## Views -/

def chunkBytes (chunks : List EventChunk) : List UInt8 := chunks.flatMap (·.data)

@[simp] theorem chunkBytes_append (chunks chunks' : List EventChunk) :
    chunkBytes (chunks ++ chunks') = chunkBytes chunks ++ chunkBytes chunks' :=
  List.flatMap_append

def viewRoom (view : EventChunkBufferView) : ℕ :=
  view.current.bytesRemaining + kEventChunkMaxDataSize * view.after.length

def FreshAfter (view : EventChunkBufferView) : Prop := ∀ chunk ∈ view.after, chunk.data = []

structure Written (bytes : List UInt8) (view view' : EventChunkBufferView) : Prop where
  fresh : FreshAfter view'
  behind : chunkBytes view'.chunks = chunkBytes view.chunks ++ bytes
  room : viewRoom view' + bytes.length = viewRoom view

variable {view view' view'' : EventChunkBufferView} {bytes bytes' : List UInt8}

theorem Written.nil (h : FreshAfter view) : Written [] view view := ⟨h, by simp, by simp⟩

theorem Written.trans (h : Written bytes view view') (h' : Written bytes' view' view'') :
    Written (bytes ++ bytes') view view'' := by
  refine ⟨h'.fresh, ?_, ?_⟩
  · rw [h'.behind, h.behind, List.append_assoc]
  · rw [List.length_append]
    have hroom := h.room
    have hroom' := h'.room
    omega

theorem chunkBytes_fresh {chunks : List EventChunk} (h : ∀ chunk ∈ chunks, chunk.data = []) :
    chunkBytes chunks = [] :=
  List.flatMap_eq_nil_iff.mpr h

theorem chunkBytes_chunks (h : FreshAfter view) :
    chunkBytes view.chunks = chunkBytes view.before ++ view.current.data := by
  unfold chunks
  rw [chunkBytes_append]
  congr 1
  show view.current.data ++ chunkBytes view.after = _
  rw [chunkBytes_fresh h, List.append_nil]

theorem isFull_iff (chunk : EventChunk) : chunk.isFull = true ↔ chunk.bytesRemaining = 0 := by
  have hfits := chunk.fits
  unfold EventChunk.isFull EventChunk.bytesRemaining
  rw [beq_iff_eq]
  omega

theorem advance_of_room (h : FreshAfter view) (hroom : 0 < viewRoom view) :
    ∃ view', view.advance = some view' ∧ Written [] view view' ∧
      0 < view'.current.bytesRemaining ∧ view'.after.length ≤ view.after.length ∧
      (view.current.bytesRemaining = 0 → view'.after.length < view.after.length) := by
  unfold advance
  by_cases hfull : view.current.isFull = true
  · have hnone := (isFull_iff _).mp hfull
    rw [if_pos hfull]
    cases hafter : view.after with
    | nil =>
      unfold viewRoom at hroom
      rw [hnone, hafter] at hroom
      exact absurd hroom (Nat.lt_irrefl _)
    | cons next after =>
      have hnext : next.data = [] := h next (by rw [hafter]; exact List.mem_cons_self)
      have hremaining : next.bytesRemaining = kEventChunkMaxDataSize := by
        unfold EventChunk.bytesRemaining
        rw [hnext]
        rfl
      refine ⟨⟨view.before ++ [view.current], next, after⟩, rfl, ⟨?_, ?_, ?_⟩, ?_, ?_, ?_⟩
      · intro chunk hchunk
        exact h chunk (by rw [hafter]; exact List.mem_cons_of_mem _ hchunk)
      · simp [chunks, hafter, chunkBytes]
      · unfold viewRoom
        rw [hremaining, hnone, hafter, List.length_cons, List.length_nil]
        ring
      · rw [hremaining]
        decide
      · simp
      · simp
  · have hsome : view.current.bytesRemaining ≠ 0 := fun hzero => hfull ((isFull_iff _).mpr hzero)
    rw [if_neg hfull]
    exact ⟨view, rfl, .nil h, Nat.pos_of_ne_zero hsome, le_refl _, fun hzero => absurd hzero hsome⟩

theorem writeRound_of_room (bytes : List UInt8) (h : FreshAfter view) (hroom : 0 < viewRoom view) :
    ∃ view' count, view.writeRound bytes = some (bytes.drop count, view') ∧
      Written (bytes.take count) view view' ∧
      view'.after.length ≤ view.after.length ∧
      (view.current.bytesRemaining = 0 → view'.after.length < view.after.length) ∧
      (count < bytes.length → view'.current.bytesRemaining = 0) := by
  obtain ⟨view₁, hadvance, hwritten, hpos, hafter, hless⟩ := advance_of_room h hroom
  have hroom₁ := hwritten.room
  rw [List.length_nil, Nat.add_zero] at hroom₁
  have hdata : (view₁.current.write bytes).data.length =
      view₁.current.data.length + min view₁.current.bytesRemaining bytes.length := by
    show (view₁.current.data ++ bytes.take view₁.current.bytesRemaining).length = _
    rw [List.length_append, List.length_take]
  have hremaining : (view₁.current.write bytes).bytesRemaining =
      view₁.current.bytesRemaining - min view₁.current.bytesRemaining bytes.length := by
    unfold EventChunk.bytesRemaining at hdata ⊢
    omega
  refine ⟨{ view₁ with current := view₁.current.write bytes }, view₁.current.bytesRemaining, ?_,
    ⟨hwritten.fresh, ?_, ?_⟩, hafter, hless, ?_⟩
  · unfold writeRound
    rw [hadvance]
    rfl
  · have hbefore := hwritten.behind
    rw [List.append_nil, chunkBytes_chunks hwritten.fresh] at hbefore
    have hfresh : FreshAfter { view₁ with current := view₁.current.write bytes } :=
      hwritten.fresh
    rw [chunkBytes_chunks hfresh, ← hbefore, List.append_assoc]
    rfl
  · show (view₁.current.write bytes).bytesRemaining + kEventChunkMaxDataSize * view₁.after.length +
      (bytes.take view₁.current.bytesRemaining).length = viewRoom view
    rw [hremaining, ← hroom₁, List.length_take]
    unfold viewRoom
    omega
  · intro hlt
    show (view₁.current.write bytes).bytesRemaining = 0
    rw [hremaining]
    omega

theorem writeRounds_of_room (rounds : ℕ) (h : FreshAfter view) (hroom : 0 < viewRoom view)
    (hfits : bytes.length ≤ viewRoom view)
    (hrounds : view.after.length + (if view.current.bytesRemaining = 0 then 0 else 1) ≤ rounds) :
    ∃ view', view.writeRounds rounds bytes = (true, view') ∧ Written bytes view view' := by
  induction rounds generalizing view bytes with
  | zero =>
    unfold viewRoom at hroom
    split at hrounds
    · rename_i hzero
      have hnone : view.after.length = 0 := by omega
      rw [hzero, hnone] at hroom
      exact absurd hroom (Nat.lt_irrefl _)
    · omega
  | succ rounds ih =>
    obtain ⟨view', count, hround, hwritten, hafter, hless, hfull⟩ :=
      writeRound_of_room bytes h hroom
    unfold writeRounds
    rw [hround]
    cases hrest : bytes.drop count with
    | nil =>
      have hall : bytes.take count = bytes := by
        have hsplit := List.take_append_drop count bytes
        rwa [hrest, List.append_nil] at hsplit
      rw [hall] at hwritten
      exact ⟨view', rfl, hwritten⟩
    | cons b rest =>
      have hlength := congrArg List.length hrest
      rw [List.length_drop, List.length_cons] at hlength
      have hroom' := hwritten.room
      rw [List.length_take] at hroom'
      have hzero := hfull (by omega)
      have hleft : view'.after.length ≤ rounds := by
        split at hrounds
        · rename_i hnone
          have hlt := hless hnone
          omega
        · omega
      have hfits' : (b :: rest).length ≤ viewRoom view' := by
        rw [List.length_cons]
        omega
      obtain ⟨view'', hwrite, hwritten'⟩ := ih hwritten.fresh (by omega) hfits'
        (by rw [if_pos hzero]; omega)
      refine ⟨view'', hwrite, ?_⟩
      have hboth := hwritten.trans hwritten'
      rwa [← hrest, List.take_append_drop] at hboth

theorem write_spec (bytes : List UInt8) (h : FreshAfter view)
    (hfits : bytes.length ≤ viewRoom view) :
    ∃ view', view.write bytes = (decide (bytes ≠ [] ∨ 0 < viewRoom view), view') ∧
      Written bytes view view' := by
  by_cases hroom : 0 < viewRoom view
  · rw [decide_eq_true (.inr hroom)]
    refine writeRounds_of_room _ h hroom hfits ?_
    split <;> omega
  · obtain rfl : bytes = [] := List.eq_nil_of_length_eq_zero (by omega)
    have hzero : viewRoom view = 0 := by omega
    unfold viewRoom at hzero
    have hcurrent : view.current.isFull = true := (isFull_iff _).mpr (by omega)
    have hafter : view.after = [] := by
      apply List.eq_nil_of_length_eq_zero
      unfold kEventChunkMaxDataSize at hzero
      omega
    refine ⟨view, ?_, .nil h⟩
    rw [decide_eq_false (by simp [hroom])]
    unfold write writeRounds
      writeRound advance
    rw [if_pos hcurrent, hafter]
    rfl

theorem writeAll_spec (pieces : List (List UInt8)) (hpieces : ∀ piece ∈ pieces, piece ≠ [])
    (h : FreshAfter view) (hfits : pieces.flatten.length ≤ viewRoom view) :
    ∃ view', view.writeAll pieces = (true, view') ∧ Written pieces.flatten view view' := by
  induction pieces generalizing view with
  | nil => exact ⟨view, rfl, .nil h⟩
  | cons piece pieces ih =>
    rw [List.flatten_cons, List.length_append] at hfits
    obtain ⟨view', hwrite, hwritten⟩ := write_spec piece h (by omega)
    rw [decide_eq_true (.inl (hpieces piece List.mem_cons_self))] at hwrite
    have hroom := hwritten.room
    obtain ⟨view'', hrest, hwritten'⟩ :=
      ih (fun p hp => hpieces p (List.mem_cons_of_mem _ hp)) hwritten.fresh (by omega)
    refine ⟨view'', ?_, hwritten.trans hwritten'⟩
    unfold writeAll
    rw [hwrite]
    exact hrest

/-! ## Events -/

def eventTokens (w : EventWrite) (timestamp : EventTimestamp) (index : UInt32) : List EventToken :=
  timestampTokens timestamp ++ [.data (timestampDelta timestamp) w.eventId index w.bytes]

theorem encodeTokens_append (tokens tokens' : List EventToken) :
    encodeTokens (tokens ++ tokens') = encodeTokens tokens ++ encodeTokens tokens' :=
  List.flatMap_append

theorem encodeTokens_singleton (t : EventToken) : encodeTokens [t] = t.encode :=
  List.append_nil _

theorem length_encode (t : EventToken) :
    t.encode.length = 1 + t.type.size + t.payload.length := by
  unfold EventToken.encode
  rw [List.length_cons, List.length_append, length_fields]
  omega

variable (w : EventWrite) (timer : EventTimer)

theorem length_timestampTokens (reading : UInt64) :
    (encodeTokens (timestampTokens (timer.createTimestamp reading).1)).length ≤ 17 ∧
      ((encodeTokens (timestampTokens (timer.createTimestamp reading).1)).length = 17 ↔
        (timer.lastTimestamp = 0 ∨
          2 ^ 48 - 1 < ((reading - timer.lastTimestamp) / kEventTimeUnit).toNat)) := by
  rcases createTimestamp_cases timer reading with
    ⟨hcreate, hfull⟩ | ⟨n, hcreate, hn, hne, -, hbound⟩ | ⟨hcreate, hne, hsmall⟩
  · rw [hcreate]
    simp only [timestampTokens, encodeTokens_singleton, length_encode]
    exact ⟨le_refl _, iff_of_true rfl hfull⟩
  · rw [hcreate]
    have hlength : (EventToken.timeDelta 0 (leBytes n
        ((reading - timer.lastTimestamp) / kEventTimeUnit).toNat)).encode.length = 2 + n := by
      rw [length_encode]
      show 1 + 1 + (leBytes n _).length = _
      rw [length_leBytes]
    simp only [timestampTokens, encodeTokens_singleton, hlength]
    refine ⟨by omega, iff_of_false (by omega) ?_⟩
    rw [not_or]
    exact ⟨hne, by omega⟩
  · rw [hcreate]
    refine ⟨Nat.zero_le _, iff_of_false (show ¬ ([] : List UInt8).length = 17 by decide) ?_⟩
    rw [not_or]
    exact ⟨hne, by omega⟩

theorem length_bytes : w.bytes.length = w.totalEventSize := by
  unfold EventWrite.bytes EventWrite.totalEventSize
  rw [List.length_append]

theorem length_eventTokens (reading : UInt64) (index : UInt32) :
    (encodeTokens (eventTokens w (timer.createTimestamp reading).1 index)).length ≤
        calculateWorstCaseSize w.totalEventSize ∧
      ((encodeTokens (eventTokens w (timer.createTimestamp reading).1 index)).length =
          calculateWorstCaseSize w.totalEventSize ↔
        (timer.lastTimestamp = 0 ∨
          2 ^ 48 - 1 < ((reading - timer.lastTimestamp) / kEventTimeUnit).toNat)) := by
  obtain ⟨hle, heq⟩ := length_timestampTokens timer reading
  have hdata : (EventToken.data (timestampDelta (timer.createTimestamp reading).1) w.eventId index
      w.bytes).encode.length = 17 + w.totalEventSize := by
    rw [length_encode, ← length_bytes]
    rfl
  have hsize : calculateWorstCaseSize w.totalEventSize = 17 + (17 + w.totalEventSize) := by
    simp only [calculateWorstCaseSize, EventTokenType.size]
    omega
  unfold eventTokens
  rw [encodeTokens_append, encodeTokens_singleton, List.length_append, hdata, hsize, ← heq]
  omega

/-- The tokens of a timestamp and the timer they leave. -/
theorem generateEventTimestamp_spec (reading : UInt64) (h : FreshAfter view)
    (hfits : (encodeTokens (timestampTokens (timer.createTimestamp reading).1)).length ≤
      viewRoom view) :
    ∃ view' delta,
      generateEventTimestamp (timer.createTimestamp reading).1 view =
        ((true, view'), delta) ∧
      delta.toNat = timestampDelta (timer.createTimestamp reading).1 ∧
      Written (encodeTokens (timestampTokens (timer.createTimestamp reading).1)) view view' := by
  rcases createTimestamp_cases timer reading with
    ⟨hcreate, -⟩ | ⟨n, hcreate, hn, -⟩ | ⟨hcreate, -⟩
  · rw [hcreate] at hfits ⊢
    have hpieces : ([[eventTokenHeader .timestamp 0],
        leBytes 8 timer.timestampFrequency.toNat ++
          leBytes 8 (reading / kEventTimeUnit).toNat] : List (List UInt8)).flatten =
        encodeTokens [.timestamp 0 timer.timestampFrequency (reading / kEventTimeUnit)] := by
      simp [encodeTokens_singleton, EventToken.encode, EventToken.type, EventToken.delta,
        EventToken.fields, EventToken.payload]
    obtain ⟨view', hwrite, hwritten⟩ := writeAll_spec [[eventTokenHeader .timestamp 0],
      leBytes 8 timer.timestampFrequency.toNat ++ leBytes 8 (reading / kEventTimeUnit).toNat]
      (by simp [leBytes]) h (by rw [hpieces]; exact hfits)
    rw [hpieces] at hwritten
    refine ⟨view', 0, ?_, rfl, hwritten⟩
    unfold generateEventTimestamp writeEventTimestampToken
    rw [← hwrite]
  · rw [hcreate] at hfits ⊢
    generalize hdelta : (reading - timer.lastTimestamp) / kEventTimeUnit = delta at hfits ⊢
    have hpieces : ([[eventTokenHeader .timeDelta 0], [UInt8.ofNat n],
        leBytes n delta.toNat] : List (List UInt8)).flatten =
        encodeTokens [.timeDelta 0 (leBytes n delta.toNat)] := by
      simp [encodeTokens_singleton, EventToken.encode, EventToken.type, EventToken.delta,
        EventToken.fields, EventToken.payload]
    have hbytes : leBytes n delta.toNat ≠ [] := by
      apply List.ne_nil_of_length_pos
      rw [length_leBytes]
      omega
    obtain ⟨view', hwrite, hwritten⟩ := writeAll_spec [[eventTokenHeader .timeDelta 0],
      [UInt8.ofNat n], leBytes n delta.toNat] (by simp [hbytes]) h (by rw [hpieces]; exact hfits)
    rw [hpieces] at hwritten
    refine ⟨view', 0, ?_, rfl, hwritten⟩
    unfold generateEventTimestamp writeEventTimeDeltaToken
    rw [← hwrite]
  · rw [hcreate]
    exact ⟨view, 0, rfl, rfl, .nil h⟩

theorem writeEventDataToken_spec (delta : UInt8) (index : UInt32) (h : FreshAfter view)
    (hfits : 17 ≤ viewRoom view) :
    ∃ view' fields, view.writeEventDataToken delta w.eventId index w.totalEventSize =
        (true, view') ∧
      Written fields view view' ∧ fields.length = 17 ∧
      encodeTokens [.data delta.toNat w.eventId index w.bytes] = fields ++ w.bytes := by
  have hlength : (([[eventTokenHeader .data delta.toNat],
      leBytes 4 w.eventId.toNat ++ (leBytes 4 index.toNat ++ leBytes 8 w.totalEventSize)] :
        List (List UInt8)).flatten).length = 17 := by simp
  obtain ⟨view', hwrite, hwritten⟩ := writeAll_spec [[eventTokenHeader .data delta.toNat],
    leBytes 4 w.eventId.toNat ++ (leBytes 4 index.toNat ++ leBytes 8 w.totalEventSize)]
    (by simp [leBytes]) h (by rw [hlength]; exact hfits)
  refine ⟨view', _, hwrite, hwritten, hlength, ?_⟩
  simp [encodeTokens_singleton, EventToken.encode, EventToken.type, EventToken.delta,
    EventToken.fields, EventToken.payload, length_bytes]

/-- The tokens of an event that fits are written behind what the chunks hold. -/
theorem writeEvent_spec (reading : UInt64) (index : UInt32) (h : FreshAfter view)
    (hfits : (encodeTokens (eventTokens w (timer.createTimestamp reading).1 index)).length ≤
      viewRoom view) :
    ∃ view', writeEvent w (timer.createTimestamp reading).1 index view =
        (decide (w.eventData ≠ [] ∨ (encodeTokens (eventTokens w
          (timer.createTimestamp reading).1 index)).length < viewRoom view), view') ∧
      Written (encodeTokens (eventTokens w (timer.createTimestamp reading).1 index)) view
        view' := by
  generalize htotal : encodeTokens (eventTokens w (timer.createTimestamp reading).1 index) = total
    at hfits ⊢
  unfold eventTokens at htotal
  rw [encodeTokens_append] at htotal
  have hlength := congrArg List.length htotal
  rw [List.length_append, encodeTokens_singleton, length_encode] at hlength
  have hpayload : (EventToken.data (timestampDelta (timer.createTimestamp reading).1) w.eventId
      index w.bytes).payload = w.bytes := rfl
  have htype : (EventToken.data (timestampDelta (timer.createTimestamp reading).1) w.eventId
      index w.bytes).type.size = 16 := rfl
  rw [hpayload, htype] at hlength
  obtain ⟨view₁, delta, htime, hdelta, hwritten₁⟩ :=
    generateEventTimestamp_spec timer reading h (by omega)
  have hroom₁ := hwritten₁.room
  obtain ⟨view₂, fields, hdata, hwritten₂, hfields, hencode⟩ :=
    writeEventDataToken_spec w delta index hwritten₁.fresh (by omega)
  have hroom₂ := hwritten₂.room
  rw [← hdelta, hencode, ← List.append_assoc] at htotal
  have hboth := hwritten₁.trans hwritten₂
  unfold writeEvent
  simp only [htime, hdata]
  unfold EventWrite.bytes at hlength htotal
  rw [List.length_append] at hlength
  cases hheader : w.header with
  | none =>
    rw [hheader] at hlength htotal
    simp only [Option.getD_none, List.nil_append, List.length_nil, Nat.zero_add] at hlength htotal
    obtain ⟨view₃, hwrite, hwritten₃⟩ := write_spec w.eventData hwritten₂.fresh (by omega)
    have hsucceeds : (w.eventData ≠ [] ∨ 0 < viewRoom view₂) ↔
        (w.eventData ≠ [] ∨ total.length < viewRoom view) := by
      apply or_congr_right'
      intro hempty
      rw [not_not] at hempty
      rw [hempty, List.length_nil] at hlength
      omega
    refine ⟨view₃, ?_, ?_⟩
    · simp only [hwrite, hsucceeds]
    · rw [← htotal]
      exact hboth.trans hwritten₃
  | some header =>
    rw [hheader] at hlength htotal
    simp only [Option.getD_some] at hlength htotal
    obtain ⟨view₃, hwrite, hwritten₃⟩ := write_spec header hwritten₂.fresh (by omega)
    have hroom₃ := hwritten₃.room
    simp only [hwrite]
    by_cases hsome : header ≠ [] ∨ 0 < viewRoom view₂
    · rw [decide_eq_true hsome]
      obtain ⟨view₄, hwrite', hwritten₄⟩ := write_spec w.eventData hwritten₃.fresh (by omega)
      have hsucceeds : (w.eventData ≠ [] ∨ 0 < viewRoom view₃) ↔
          (w.eventData ≠ [] ∨ total.length < viewRoom view) := by
        apply or_congr_right'
        intro hempty
        rw [not_not] at hempty
        rw [hempty, List.length_nil] at hlength
        omega
      refine ⟨view₄, ?_, ?_⟩
      · simp only [hwrite', hsucceeds]
      · rw [← htotal, ← List.append_assoc]
        exact (hboth.trans hwritten₃).trans hwritten₄
    · rw [not_or, not_not] at hsome
      obtain ⟨hheaderNil, hnoRoom⟩ := hsome
      rw [hheaderNil, List.length_nil] at hlength
      have hdataNil : w.eventData = [] := List.eq_nil_of_length_eq_zero (by omega)
      rw [decide_eq_false (by rw [not_or, not_not]; exact ⟨hheaderNil, hnoRoom⟩)]
      refine ⟨view₃, ?_, ?_⟩
      · rw [decide_eq_false]
        rw [not_or, not_not]
        rw [hdataNil, List.length_nil] at hlength
        exact ⟨hdataNil, by omega⟩
      · rw [← htotal, hdataNil, List.append_nil]
        exact hboth.trans hwritten₃

/-! ## Chunks of a provider -/

def chunkRoom (p : BaseEventProvider) : ℕ :=
  match p.eventChunks.getLast? with
  | some chunk => chunk.bytesRemaining
  | none => kEventChunkMaxDataSize - 25

def beginTokens (reading : UInt64) (p : BaseEventProvider) : List EventToken :=
  if p.eventChunks = [] then
    [.provider 0 p.id 0 p.eventTimer.timestampFrequency (reading / kEventTimeUnit)]
  else []

def beginTimer (reading : UInt64) (p : BaseEventProvider) : EventTimer :=
  if p.eventChunks = [] then { p.eventTimer with lastTimestamp := reading } else p.eventTimer

def allocationsToBegin (p : BaseEventProvider) : ℕ := if p.eventChunks = [] then 2 else 1

variable {p p' : BaseEventProvider} {reading : UInt64} {allocations : List Bool}

variable {required added : ℕ}

theorem allocateChunks_some {got : ℕ}
    (h : allocateChunks required allocations got = some added) :
    required ≤ got + kEventChunkMaxDataSize * added ∧
      (∀ n < added, got + kEventChunkMaxDataSize * n < required) ∧
      List.replicate (2 * added) true <+: allocations := by
  induction added generalizing allocations got with
  | zero =>
    unfold allocateChunks at h
    split at h
    · split at h
      · simp at h
      · cases h
    · exact ⟨by omega, fun n hn => absurd hn (Nat.not_lt_zero n), List.nil_prefix⟩
  | succ added ih =>
    unfold allocateChunks at h
    split at h
    · split at h
      · rename_i rest
        obtain ⟨added', hrest, hadded⟩ := Option.map_eq_some_iff.mp h
        obtain rfl : added' = added := by omega
        obtain ⟨hrequired, hleast, hprefix⟩ := ih hrest
        refine ⟨by rw [Nat.mul_succ]; omega, ?_, ?_⟩
        · intro n hn
          cases n with
          | zero => omega
          | succ n =>
            have hless := hleast n (by omega)
            rw [Nat.mul_succ]
            omega
        rw [show 2 * (added' + 1) = 2 * added' + 1 + 1 by ring, List.replicate_succ,
          List.replicate_succ]
        exact List.cons_prefix_cons.mpr ⟨rfl, List.cons_prefix_cons.mpr ⟨rfl, hprefix⟩⟩
      · cases h
    · cases h

theorem allocateChunks_exact {got : ℕ} (h : List.replicate (2 * added) true <+: allocations) :
    allocateChunks (got + kEventChunkMaxDataSize * added) allocations got =
      some added := by
  induction added generalizing allocations got with
  | zero =>
    unfold allocateChunks
    rw [if_neg (by omega)]
  | succ added ih =>
    rw [show 2 * (added + 1) = 2 * added + 1 + 1 by ring, List.replicate_succ,
      List.replicate_succ] at h
    obtain ⟨rest, hrest⟩ := h
    rw [List.cons_append, List.cons_append] at hrest
    subst hrest
    unfold allocateChunks
    have hpos : 0 < kEventChunkMaxDataSize := by decide
    rw [if_pos (by rw [Nat.mul_succ]; omega)]
    have hgot : got + kEventChunkMaxDataSize * (added + 1) =
        got + kEventChunkMaxDataSize + kEventChunkMaxDataSize * added := by ring
    rw [hgot]
    simp only [ih (List.prefix_append _ _)]
    rfl

theorem write_within (bytes : List UInt8) (view : EventChunkBufferView)
    (h : bytes.length ≤ view.current.bytesRemaining) (hroom : 0 < view.current.bytesRemaining) :
    view.write bytes = (true, { view with current := view.current.write bytes }) := by
  have hfull : ¬ view.current.isFull = true := fun hfull => by
    have hzero := (isFull_iff _).mp hfull
    omega
  unfold write writeRounds
    writeRound advance
  rw [if_neg hfull]
  simp only [Option.map_some, List.drop_eq_nil_of_le h]

theorem beginEventStream_spec (p : BaseEventProvider) (reading : UInt64) (rest : List Bool) :
    ∃ chunk, p.beginEventStream reading (true :: rest) =
        (some (chunk, rest), { p with
          eventTimer := { p.eventTimer with lastTimestamp := reading }
          eventChunks := [chunk] }) ∧
      chunk.data = (EventToken.provider 0 p.id 0 p.eventTimer.timestampFrequency
        (reading / kEventTimeUnit)).encode ∧
      chunk.bytesRemaining = kEventChunkMaxDataSize - 25 := by
  generalize hfields : leBytes 4 p.id.toNat ++ (leBytes 4 0 ++
    (leBytes 8 p.eventTimer.timestampFrequency.toNat ++
      leBytes 8 (reading / kEventTimeUnit).toNat)) = fields
  have hlength : fields.length = 24 := by
    rw [← hfields]
    simp
  have hheader := write_within [eventTokenHeader .provider 0] ⟨[], .empty, []⟩ (by decide)
    (by decide)
  generalize hchunk : EventChunk.write [eventTokenHeader .provider 0] .empty = chunk at hheader
  have hdata : chunk.data = [eventTokenHeader .provider 0] := by
    rw [← hchunk]
    rfl
  have hremaining : chunk.bytesRemaining = kEventChunkMaxDataSize - 1 := by
    unfold EventChunk.bytesRemaining
    rw [hdata]
    rfl
  have htoken := write_within fields ⟨[], chunk, []⟩
    (by rw [hlength, hremaining]; decide) (by rw [hremaining]; decide)
  have hwrite : writeEventProviderToken p.id
      p.eventTimer.timestampFrequency (reading / kEventTimeUnit) ⟨[], .empty, []⟩ =
        (true, ⟨[], chunk.write fields, []⟩) := by
    unfold writeEventProviderToken writeAll
    rw [hheader]
    unfold writeAll
    rw [hfields]
    simp only [htoken]
    rfl
  have hwritten : (chunk.write fields).data = (EventToken.provider 0 p.id 0
      p.eventTimer.timestampFrequency (reading / kEventTimeUnit)).encode := by
    show chunk.data ++ fields.take chunk.bytesRemaining = _
    rw [hdata, List.take_of_length_le (by rw [hlength, hremaining]; decide), ← hfields]
    simp [EventToken.encode, EventToken.type, EventToken.delta, EventToken.fields,
      EventToken.payload]
  refine ⟨chunk.write fields, ?_, hwritten, ?_⟩
  · unfold beginEventStream
    rw [createTimestamp_reset]
    simp only [fullTimestamp, hwrite]
  · unfold EventChunk.bytesRemaining
    rw [hwritten, length_encode]
    rfl

theorem acquireEventChunks_some
    (h : p.acquireEventChunks required reading allocations = (some view, p')) :
    ∃ added chunks, required ≤ viewRoom view ∧
      viewRoom view = chunkRoom p + kEventChunkMaxDataSize * added ∧
      (∀ n < added, chunkRoom p + kEventChunkMaxDataSize * n < required) ∧
      List.replicate (allocationsToBegin p + 2 * added) true <+: allocations ∧ FreshAfter view ∧
      chunkBytes view.chunks =
        chunkBytes p.eventChunks ++ encodeTokens (beginTokens reading p) ∧
      p' = { p with eventTimer := beginTimer reading p, eventChunks := chunks } := by
  have hfresh : ∀ (before : List EventChunk) (chunk : EventChunk) (added : ℕ),
      FreshAfter ⟨before, chunk, List.replicate added .empty⟩ := by
    intro before chunk added c hc
    rw [List.eq_of_mem_replicate hc]
    rfl
  have hroom : ∀ (before : List EventChunk) (chunk : EventChunk) (added : ℕ),
      viewRoom ⟨before, chunk, List.replicate added .empty⟩ =
        chunk.bytesRemaining + kEventChunkMaxDataSize * added := by
    intro before chunk added
    unfold viewRoom
    rw [List.length_replicate]
  unfold acquireEventChunks acquireCurrentChunk at h
  cases hlast : p.eventChunks.getLast? with
  | some chunk =>
    have hne : p.eventChunks ≠ [] := List.ne_nil_of_mem (List.mem_of_getLast? hlast)
    have hbegin : allocationsToBegin p = 1 := if_neg hne
    simp only [hlast] at h
    split at h
    · cases h
    · rename_i heq
      obtain ⟨hfirst, rfl⟩ := Prod.mk.inj heq
      obtain ⟨rfl, rfl⟩ := Prod.mk.inj (Option.some_inj.mp hfirst)
      split at h
      · rename_i added hadded
        obtain ⟨hview, rfl⟩ := Prod.mk.inj h
        obtain rfl := Option.some_inj.mp hview
        obtain ⟨hrequired, hleast, hprefix⟩ := allocateChunks_some hadded
        have hcurrent : chunkRoom p = chunk.bytesRemaining := by
          unfold chunkRoom
          rw [hlast]
        refine ⟨added, p.eventChunks, by rw [hroom]; exact hrequired, ?_, ?_, ?_, hfresh _ _ _, ?_,
          ?_⟩
        · rw [hroom, hcurrent]
        · rw [hcurrent]
          exact hleast
        · rw [hbegin, Nat.add_comm, List.replicate_succ]
          exact List.cons_prefix_cons.mpr ⟨rfl, hprefix⟩
        · rw [chunkBytes_chunks (hfresh _ _ _)]
          show chunkBytes p.eventChunks.dropLast ++ chunk.data = _
          unfold beginTokens
          rw [if_neg hne]
          show _ = chunkBytes p.eventChunks ++ []
          rw [List.append_nil]
          conv_rhs => rw [← List.dropLast_append_getLast? chunk hlast]
          rw [chunkBytes_append]
          simp [chunkBytes]
        · unfold beginTimer
          rw [if_neg hne]
      · cases h
    · cases h
  | none =>
    have hnil : p.eventChunks = [] := List.getLast?_eq_none_iff.mp hlast
    have hbegin : allocationsToBegin p = 2 := if_pos hnil
    simp only [hlast] at h
    rcases allocations with _ | ⟨_ | _, rest⟩
    · simp [beginEventStream] at h
    · simp [beginEventStream] at h
    · obtain ⟨chunk, hstream, hdata, hremaining⟩ := beginEventStream_spec p reading rest
      rw [hstream] at h
      rcases rest with _ | ⟨_ | _, rest⟩
      · simp at h
      · simp at h
      · simp only at h
        split at h
        · rename_i added hadded
          obtain ⟨hview, rfl⟩ := Prod.mk.inj h
          obtain rfl := Option.some_inj.mp hview
          obtain ⟨hrequired, hleast, hprefix⟩ := allocateChunks_some hadded
          have hcurrent : chunkRoom p = chunk.bytesRemaining := by
            unfold chunkRoom
            rw [hlast, hremaining]
          refine ⟨added, [chunk], by rw [hroom]; exact hrequired, ?_, ?_, ?_, hfresh _ _ _, ?_, ?_⟩
          · rw [hroom, hcurrent]
          · rw [hcurrent]
            exact hleast
          · rw [hbegin, Nat.add_comm, List.replicate_succ, List.replicate_succ]
            exact List.cons_prefix_cons.mpr ⟨rfl, List.cons_prefix_cons.mpr ⟨rfl, hprefix⟩⟩
          · rw [chunkBytes_chunks (hfresh _ _ _)]
            show chunkBytes [] ++ chunk.data = _
            unfold beginTokens
            rw [if_pos hnil, hnil, encodeTokens_singleton, hdata]
          · unfold beginTimer
            rw [if_pos hnil]
        · simp at h

theorem acquireEventChunks_none
    (h : p.acquireEventChunks required reading allocations = (none, p')) :
    ∃ timer chunks, p' = { p with eventTimer := timer, eventChunks := chunks } ∧
      (chunks = p.eventChunks ∨
        p.eventChunks = [] ∧ chunkBytes chunks = encodeTokens (beginTokens reading p)) := by
  unfold acquireEventChunks acquireCurrentChunk at h
  cases hlast : p.eventChunks.getLast? with
  | some chunk =>
    have hne : p.eventChunks ≠ [] := List.ne_nil_of_mem (List.mem_of_getLast? hlast)
    have hdata : (!p.eventChunks.isEmpty) = true := by simp [hne]
    refine ⟨p.eventTimer, p.eventChunks, ?_, .inl rfl⟩
    simp only [hlast, hdata, if_true] at h
    split at h
    · rename_i heq
      cases heq
    · rename_i heq
      obtain ⟨-, rfl⟩ := Prod.mk.inj heq
      split at h
      · cases h
      · exact (Prod.mk.inj h).2.symm
    · rename_i heq
      obtain ⟨-, rfl⟩ := Prod.mk.inj heq
      exact (Prod.mk.inj h).2.symm
  | none =>
    have hnil : p.eventChunks = [] := List.getLast?_eq_none_iff.mp hlast
    have hdata : (!p.eventChunks.isEmpty) = false := by simp [hnil]
    simp only [hlast] at h
    rcases allocations with _ | ⟨_ | _, rest⟩
    · refine ⟨p.eventTimer, p.eventChunks, ?_, .inl rfl⟩
      exact (Prod.mk.inj h).2.symm
    · refine ⟨p.eventTimer, p.eventChunks, ?_, .inl rfl⟩
      exact (Prod.mk.inj h).2.symm
    · obtain ⟨chunk, hstream, hchunk, -⟩ := beginEventStream_spec p reading rest
      have hbegun : chunkBytes [chunk] = encodeTokens (beginTokens reading p) := by
        unfold beginTokens
        rw [if_pos hnil, encodeTokens_singleton, ← hchunk]
        exact List.append_nil _
      rw [hstream] at h
      rcases rest with _ | ⟨_ | _, rest⟩
      · exact ⟨_, [chunk], (Prod.mk.inj h).2.symm, .inr ⟨hnil, hbegun⟩⟩
      · exact ⟨_, [chunk], (Prod.mk.inj h).2.symm, .inr ⟨hnil, hbegun⟩⟩
      · simp only [hdata] at h
        split at h
        · cases h
        · exact ⟨_, [], (Prod.mk.inj h).2.symm, .inl hnil.symm⟩

theorem acquireEventChunks_exact (reading : UInt64)
    (h : List.replicate (allocationsToBegin p + 2 * added) true <+: allocations) :
    ∃ view p', p.acquireEventChunks (chunkRoom p + kEventChunkMaxDataSize * added) reading
      allocations = (some view, p') := by
  unfold acquireEventChunks acquireCurrentChunk chunkRoom
  cases hlast : p.eventChunks.getLast? with
  | some chunk =>
    have hne : p.eventChunks ≠ [] := List.ne_nil_of_mem (List.mem_of_getLast? hlast)
    have hbegin : allocationsToBegin p = 1 := if_neg hne
    rw [hbegin, Nat.add_comm, List.replicate_succ] at h
    obtain ⟨rest, rfl⟩ := h
    simp only [List.cons_append, allocateChunks_exact (List.prefix_append _ _)]
    exact ⟨_, _, rfl⟩
  | none =>
    have hnil : p.eventChunks = [] := List.getLast?_eq_none_iff.mp hlast
    have hbegin : allocationsToBegin p = 2 := if_pos hnil
    rw [hbegin, Nat.add_comm, List.replicate_succ, List.replicate_succ] at h
    obtain ⟨rest, rfl⟩ := h
    obtain ⟨chunk, hstream, -, hremaining⟩ := beginEventStream_spec p reading
      (true :: (List.replicate (2 * added) true ++ rest))
    simp only [List.cons_append, hstream, hremaining,
      allocateChunks_exact (List.prefix_append _ _)]
    exact ⟨_, _, rfl⟩

/-! ## Calls -/

/-- A write without event data whose full timestamp, data token and header end where the acquired
chunks end. -/
def FillsExactly (w : EventWrite) (p : BaseEventProvider) : Prop :=
  w.eventData = [] ∧
    ((beginTimer w.streamReading p).lastTimestamp = 0 ∨
      2 ^ 48 - 1 < ((w.reading - (beginTimer w.streamReading p).lastTimestamp) /
        kEventTimeUnit).toNat) ∧
    ∃ added, calculateWorstCaseSize w.totalEventSize =
        chunkRoom p + kEventChunkMaxDataSize * added ∧
      List.replicate (allocationsToBegin p + 2 * added) true <+: w.allocations

def completedWrite (w : EventWrite) (p : BaseEventProvider) : Option WrittenEvent :=
  if (p.acquireEventChunks (calculateWorstCaseSize w.totalEventSize) w.streamReading
      w.allocations).1.isSome then some ⟨w.eventId, p.eventDataIndex, w.bytes⟩ else none

def writtenTokens (w : EventWrite) (p : BaseEventProvider) : List EventToken :=
  beginTokens w.streamReading p ++
    eventTokens w ((beginTimer w.streamReading p).createTimestamp w.reading).1 p.eventDataIndex

def providerBytes (p : BaseEventProvider) : List UInt8 := chunkBytes (p.queue ++ p.eventChunks)

theorem providerBytes_flush (p : BaseEventProvider) : providerBytes p.flush = providerBytes p := by
  have hfilter : ∀ chunks : List EventChunk,
      chunkBytes (chunks.filter fun chunk => !chunk.isEmpty) = chunkBytes chunks := by
    intro chunks
    induction chunks with
    | nil => rfl
    | cons chunk chunks ih =>
      rw [List.filter_cons]
      cases hempty : chunk.isEmpty with
      | true =>
        have hdata : chunk.data = [] := List.isEmpty_iff.mp hempty
        show chunkBytes _ = chunk.data ++ chunkBytes chunks
        rw [hdata]
        exact ih
      | false =>
        show chunk.data ++ chunkBytes _ = chunk.data ++ chunkBytes chunks
        rw [ih]
  unfold providerBytes flush
  simp only [List.append_nil, chunkBytes_append, hfilter]

theorem updateFlushTimer_cases (currentTime : UInt64) (p : BaseEventProvider) :
    (p.updateFlushTimer currentTime).id = p.id ∧
      providerBytes (p.updateFlushTimer currentTime) = providerBytes p ∧
      ((p.updateFlushTimer currentTime).eventChunks ≠ [] → p.eventChunks ≠ []) := by
  unfold updateFlushTimer
  split
  · exact ⟨rfl, providerBytes_flush _, fun hne => absurd rfl hne⟩
  · exact ⟨rfl, rfl, id⟩

theorem writeEventWithHeader_acquired {w : EventWrite}
    (h : p.acquireEventChunks (calculateWorstCaseSize w.totalEventSize) w.streamReading
      w.allocations = (some view, p')) :
    ((p.writeEventWithHeader w).1 = true ↔ ¬ FillsExactly w p) ∧
      (p.writeEventWithHeader w).2.id = p.id ∧
      providerBytes (p.writeEventWithHeader w).2 =
        providerBytes p ++ encodeTokens (writtenTokens w p) := by
  obtain ⟨added, chunks, hrequired, hroom, hleast, hprefix, hfresh, hbytes, rfl⟩ :=
    acquireEventChunks_some h
  have hsize := length_eventTokens w (beginTimer w.streamReading p) w.reading p.eventDataIndex
  obtain ⟨view', hwrite, hwritten⟩ := writeEvent_spec w (beginTimer w.streamReading p) w.reading
    p.eventDataIndex hfresh (hsize.1.trans hrequired)
  have hfst : (p.writeEventWithHeader w).1 = decide (w.eventData ≠ [] ∨
      (encodeTokens (eventTokens w ((beginTimer w.streamReading p).createTimestamp w.reading).1
        p.eventDataIndex)).length < viewRoom view) := by
    unfold writeEventWithHeader
    simp only [h, hwrite]
  have hresult : (p.writeEventWithHeader w).1 = true ↔ ¬ FillsExactly w p := by
    rw [hfst, decide_eq_true_iff]
    constructor
    · rintro (hdata | hless) ⟨hempty, hfull, added', hexact, -⟩
      · exact hdata hempty
      · -- as many chunks were acquired as fit exactly
        have hmax : kEventChunkMaxDataSize = 65532 := rfl
        rw [hsize.2.mpr hfull] at hless
        rw [hmax] at hroom hexact
        have hlast := hleast (added - 1)
        rw [hmax] at hlast
        omega
    · intro hfills
      by_contra hfails
      rw [not_or, not_not, not_lt] at hfails
      have hexact := le_antisymm (hsize.1.trans hrequired) hfails.2
      have hfull := hsize.2.mp (le_antisymm hsize.1 (hrequired.trans hfails.2))
      refine hfills ⟨hfails.1, hfull, added, ?_, hprefix⟩
      rw [← hroom, ← hexact]
      exact (hsize.2.mpr hfull).symm
  have hbehind : ∀ timer,
      providerBytes { p with eventTimer := timer, eventChunks := view'.chunks } =
        providerBytes p ++ encodeTokens (writtenTokens w p) := by
    intro timer
    show chunkBytes (p.queue ++ view'.chunks) = chunkBytes (p.queue ++ p.eventChunks) ++ _
    rw [chunkBytes_append, hwritten.behind, hbytes, chunkBytes_append, writtenTokens,
      encodeTokens_append]
    simp only [List.append_assoc]
  refine ⟨hresult, ?_⟩
  unfold writeEventWithHeader
  simp only [h, hwrite]
  split
  · obtain ⟨hid, hsame, -⟩ := updateFlushTimer_cases w.currentTime { p with
      eventTimer := ((beginTimer w.streamReading p).createTimestamp w.reading).2
      eventChunks := view'.chunks }
    exact ⟨hid, hsame.trans (hbehind _)⟩
  · exact ⟨rfl, hbehind ((beginTimer w.streamReading p).createTimestamp w.reading).2⟩

theorem eventDataIndex_updateFlushTimer (currentTime : UInt64) (p : BaseEventProvider) :
    (p.updateFlushTimer currentTime).eventDataIndex = p.eventDataIndex := by
  unfold updateFlushTimer
  split <;> rfl

/-- A registered and enabled provider writes an event whole with the chunks that are acquired first,
even where the last write tells a failure.  Without them nothing is written but the beginning of a
stream, which the next event needs as well. -/
theorem event_write_whole (w : EventWrite) (p : BaseEventProvider) :
    (p.writeEventWithHeader w).2.eventDataIndex = p.eventDataIndex + 1 ∧
      if (p.acquireEventChunks (calculateWorstCaseSize w.totalEventSize) w.streamReading
          w.allocations).1.isSome then
        ((p.writeEventWithHeader w).1 = true ↔ ¬ FillsExactly w p) ∧
          providerBytes (p.writeEventWithHeader w).2 =
            providerBytes p ++ encodeTokens (writtenTokens w p)
      else (p.writeEventWithHeader w).1 = false ∧
        (p.writeEventWithHeader w).2.queue = p.queue ∧
        ((p.writeEventWithHeader w).2.eventChunks = p.eventChunks ∨ p.eventChunks = [] ∧
          chunkBytes (p.writeEventWithHeader w).2.eventChunks =
            encodeTokens (beginTokens w.streamReading p)) := by
  rcases hacquire : p.acquireEventChunks (calculateWorstCaseSize w.totalEventSize)
    w.streamReading w.allocations with ⟨_ | view, p'⟩
  · obtain ⟨timer, chunks, rfl, hchunks⟩ := acquireEventChunks_none hacquire
    have hwrite : p.writeEventWithHeader w = (false, { p with
        eventTimer := timer
        eventChunks := chunks
        eventDataIndex := p.eventDataIndex + 1 }) := by
      unfold writeEventWithHeader
      simp only [hacquire]
    rw [hwrite]
    exact ⟨rfl, rfl, rfl, hchunks⟩
  · obtain ⟨hresult, -, hbytes⟩ := writeEventWithHeader_acquired hacquire
    refine ⟨?_, hresult, hbytes⟩
    obtain ⟨_, _, -, -, -, -, -, -, hp'⟩ := acquireEventChunks_some hacquire
    have hindex : p'.eventDataIndex = p.eventDataIndex := by rw [hp']
    unfold writeEventWithHeader
    simp only [hacquire]
    rw [← hindex]
    split
    · rw [eventDataIndex_updateFlushTimer]
    · rfl

/-! ## Runs -/

def eventKey (event : EventInfo × List UInt8) :
    UInt32 × UInt32 × UInt32 × UInt64 × List UInt8 :=
  (event.1.providerId, event.1.eventId, event.1.eventIndex, event.1.totalPayloadSize, event.2)

def writtenKey (providerId : UInt32) (event : WrittenEvent) :
    UInt32 × UInt32 × UInt32 × UInt64 × List UInt8 :=
  (providerId, event.eventId, event.eventIndex, UInt64.ofNat event.bytes.length, event.bytes)

structure StreamOf (p : BaseEventProvider) (tokens : List EventToken)
    (events : List WrittenEvent) : Prop where
  bytes : providerBytes p = encodeTokens tokens
  written : ∀ t ∈ tokens, WrittenByProvider t
  events : (tokenEvents parserRules ⟨0, 0, 0⟩ tokens).map eventKey = events.map (writtenKey p.id)
  provider : p.eventChunks ≠ [] → (streamAfterAll ⟨0, 0, 0⟩ tokens).providerId = p.id

variable {tokens : List EventToken} {events : List WrittenEvent}

theorem streamAfterAll_append (stream : EventStreamInfo) (tokens tokens' : List EventToken) :
    streamAfterAll stream (tokens ++ tokens') =
      streamAfterAll (streamAfterAll stream tokens) tokens' :=
  List.foldl_append

theorem StreamOf.same (h : StreamOf p tokens events) (hid : p'.id = p.id)
    (hbytes : providerBytes p' = providerBytes p)
    (hchunks : p'.eventChunks ≠ [] → p.eventChunks ≠ []) : StreamOf p' tokens events := by
  refine ⟨hbytes.trans h.bytes, h.written, ?_, ?_⟩
  · rw [hid]
    exact h.events
  · intro hne
    rw [hid]
    exact h.provider (hchunks hne)

theorem written_beginTokens (reading : UInt64) (p : BaseEventProvider) :
    ∀ t ∈ beginTokens reading p, WrittenByProvider t := by
  unfold beginTokens
  split
  · intro t ht
    rw [List.mem_singleton.mp ht]
    exact .provider _ _ _
  · intro t ht
    cases ht

theorem written_eventTokens (reading : UInt64) (index : UInt32) :
    ∀ t ∈ eventTokens w (timer.createTimestamp reading).1 index, WrittenByProvider t := by
  intro t ht
  rcases List.mem_append.mp ht with htime | hdata
  · exact .timestamp timer reading htime
  · rw [List.mem_singleton.mp hdata]
    apply WrittenByProvider.data
    have hfits := w.fits
    rw [length_bytes]
    unfold EventWrite.totalEventSize
    omega

theorem StreamOf.begin (h : StreamOf p tokens events) (reading : UInt64) :
    (tokenEvents parserRules ⟨0, 0, 0⟩ (tokens ++ beginTokens reading p)).map eventKey =
        events.map (writtenKey p.id) ∧
      (streamAfterAll ⟨0, 0, 0⟩ (tokens ++ beginTokens reading p)).providerId = p.id := by
  unfold beginTokens
  split
  · rw [tokenEvents_append, streamAfterAll_append]
    refine ⟨?_, rfl⟩
    show List.map eventKey (_ ++ []) = _
    rw [List.append_nil]
    exact h.events
  · rename_i hne
    rw [List.append_nil]
    exact ⟨h.events, h.provider hne⟩

theorem providerId_timestampTokens (stream : EventStreamInfo) (timestamp : EventTimestamp) :
    (streamAfterAll stream (timestampTokens timestamp)).providerId = stream.providerId := by
  cases timestamp <;> rfl

theorem tokenEvents_eventTokens (timestamp : EventTimestamp) (index : UInt32)
    (stream : EventStreamInfo) :
    (tokenEvents parserRules stream (eventTokens w timestamp index)).map eventKey =
        [writtenKey stream.providerId ⟨w.eventId, index, w.bytes⟩] ∧
      (streamAfterAll stream (eventTokens w timestamp index)).providerId = stream.providerId := by
  have hprovider := providerId_timestampTokens stream timestamp
  unfold eventTokens
  rw [tokenEvents_append, streamAfterAll_append, tokenEvents_timestampTokens]
  refine ⟨?_, hprovider⟩
  simp only [List.nil_append, tokenEvents, EventToken.event, Option.toList_some, List.append_nil,
    List.map_cons, List.map_nil, eventKey, writtenKey, hprovider]

theorem StreamOf.write (h : StreamOf p tokens events) (w : EventWrite) :
    ∃ tokens', StreamOf (p.writeEventWithHeader w).2 tokens'
      (events ++ (completedWrite w p).toList) := by
  obtain ⟨hbegun, hprovider⟩ := h.begin w.streamReading
  unfold completedWrite
  rcases hacquire : p.acquireEventChunks (calculateWorstCaseSize w.totalEventSize) w.streamReading
    w.allocations with ⟨_ | view, p'⟩
  · obtain ⟨timer, chunks, rfl, hchunks⟩ := acquireEventChunks_none hacquire
    have hresult : (p.writeEventWithHeader w).2 = { p with
        eventTimer := timer
        eventChunks := chunks
        eventDataIndex := p.eventDataIndex + 1 } := by
      unfold writeEventWithHeader
      simp only [hacquire]
    rw [hresult]
    simp only [Option.isSome_none, Bool.false_eq_true, if_false, Option.toList_none,
      List.append_nil]
    rcases hchunks with rfl | ⟨hnil, hbytes⟩
    · exact ⟨tokens, h.same rfl rfl id⟩
    · refine ⟨tokens ++ beginTokens w.streamReading p, ?_, ?_, hbegun, fun _ => hprovider⟩
      · have hqueue := h.bytes
        unfold providerBytes at hqueue ⊢
        rw [hnil, List.append_nil] at hqueue
        rw [chunkBytes_append, encodeTokens_append, hbytes, hqueue]
      · intro t ht
        rcases List.mem_append.mp ht with ht | ht
        · exact h.written t ht
        · exact written_beginTokens _ _ t ht
  · obtain ⟨-, hid, hbytes⟩ := writeEventWithHeader_acquired hacquire
    obtain ⟨hevent, hafter⟩ := tokenEvents_eventTokens w
      ((beginTimer w.streamReading p).createTimestamp w.reading).1 p.eventDataIndex
      (streamAfterAll ⟨0, 0, 0⟩ (tokens ++ beginTokens w.streamReading p))
    simp only [Option.isSome_some, if_true, Option.toList_some]
    refine ⟨tokens ++ writtenTokens w p, ?_, ?_, ?_, ?_⟩
    · rw [hbytes, h.bytes, encodeTokens_append]
    · intro t ht
      rcases List.mem_append.mp ht with ht | ht
      · exact h.written t ht
      · rcases List.mem_append.mp ht with ht | ht
        · exact written_beginTokens _ _ t ht
        · exact written_eventTokens _ _ _ _ t ht
    · rw [hid, writtenTokens, ← List.append_assoc, tokenEvents_append, List.map_append, hbegun,
        hevent, hprovider, List.map_append]
      rfl
    · intro _
      rw [hid, writtenTokens, ← List.append_assoc, streamAfterAll_append, hafter, hprovider]

def completed : List ProviderCall → BaseEventProvider → List WrittenEvent
  | [], _ => []
  | .write w :: calls, p =>
    (completedWrite w p).toList ++ completed calls (p.writeEventWithHeader w).2
  | call :: calls, p => completed calls (p.call call).2

def writesOf : List ProviderCall → BaseEventProvider → List (EventWrite × BaseEventProvider)
  | [], _ => []
  | .write w :: calls, p => (w, p) :: writesOf calls (p.writeEventWithHeader w).2
  | call :: calls, p => writesOf calls (p.call call).2

theorem StreamOf.calls (h : StreamOf p tokens events) (cs : List ProviderCall) :
    ∃ tokens', StreamOf (p.calls cs).2 tokens' (events ++ completed cs p) := by
  induction cs generalizing p tokens events with
  | nil =>
    rw [completed, List.append_nil]
    exact ⟨tokens, h⟩
  | cons c cs ih =>
    cases c with
    | write w =>
      obtain ⟨tokens', hwrite⟩ := h.write w
      rw [completed, ← List.append_assoc]
      exact ih hwrite
    | update currentTime =>
      obtain ⟨hid, hbytes, hchunks⟩ := updateFlushTimer_cases currentTime p
      exact ih (h.same hid hbytes hchunks)
    | flush => exact ih (h.same rfl (providerBytes_flush p) fun hne => absurd rfl hne)

theorem calls_id (cs : List ProviderCall) (p : BaseEventProvider) : (p.calls cs).2.id = p.id := by
  induction cs generalizing p with
  | nil => rfl
  | cons c cs ih =>
    refine (ih _).trans ?_
    cases c with
    | update currentTime => exact (updateFlushTimer_cases currentTime p).1
    | flush => rfl
    | write w =>
      show (p.writeEventWithHeader w).2.id = p.id
      rcases hacquire : p.acquireEventChunks (calculateWorstCaseSize w.totalEventSize)
        w.streamReading w.allocations with ⟨_ | view, p'⟩
      · obtain ⟨timer, chunks, rfl, -⟩ := acquireEventChunks_none hacquire
        unfold writeEventWithHeader
        simp only [hacquire]
      · exact (writeEventWithHeader_acquired hacquire).2.1

theorem written_eq (p : BaseEventProvider) :
    (p.call (.write w)).1 =
      if (p.writeEventWithHeader w).1 then completedWrite w p else none := by
  unfold call completedWrite
  rcases hacquire : p.acquireEventChunks (calculateWorstCaseSize w.totalEventSize) w.streamReading
    w.allocations with ⟨_ | view, p'⟩
  · have hfails : (p.writeEventWithHeader w).1 = false := by
      unfold writeEventWithHeader
      simp only [hacquire]
    simp [hfails]
  · simp

theorem calls_eq_completed_iff (cs : List ProviderCall) (p : BaseEventProvider) :
    (p.calls cs).1.Sublist (completed cs p) ∧
      ((p.calls cs).1 = completed cs p ↔ ∀ x ∈ writesOf cs p, ¬ FillsExactly x.1 x.2) := by
  induction cs generalizing p with
  | nil => exact ⟨.refl _, iff_of_true rfl (by simp [writesOf])⟩
  | cons c cs ih =>
    cases c with
    | update currentTime => exact ih _
    | flush => exact ih _
    | write w =>
      obtain ⟨hsublist, hiff⟩ := ih (p.writeEventWithHeader w).2
      have hcalls : (p.calls (.write w :: cs)).1 = (p.call (.write w)).1.toList ++
          ((p.writeEventWithHeader w).2.calls cs).1 := rfl
      rw [hcalls, written_eq, completed, writesOf, List.forall_mem_cons]
      rcases hacquire : p.acquireEventChunks (calculateWorstCaseSize w.totalEventSize)
        w.streamReading w.allocations with ⟨_ | view, p'⟩
      · have hcompleted : completedWrite w p = none := by
          unfold completedWrite
          rw [hacquire]
          rfl
        have hfills : ¬ FillsExactly w p := by
          rintro ⟨-, -, added, hexact, hprefix⟩
          obtain ⟨view, p'', hsome⟩ :=
            acquireEventChunks_exact (p := p) w.streamReading hprefix
          rw [← hexact, hacquire] at hsome
          cases hsome
        rw [hcompleted, ite_self]
        exact ⟨hsublist, hiff.trans (and_iff_right hfills).symm⟩
      · obtain ⟨hresult, -, -⟩ := writeEventWithHeader_acquired hacquire
        have hcompleted : completedWrite w p =
            some ⟨w.eventId, p.eventDataIndex, w.bytes⟩ := by
          unfold completedWrite
          rw [hacquire]
          rfl
        rw [hcompleted]
        by_cases hsucceeds : (p.writeEventWithHeader w).1 = true
        · rw [if_pos hsucceeds]
          refine ⟨hsublist.append_left _, ?_⟩
          rw [List.append_right_inj, hiff]
          exact (and_iff_right (hresult.mp hsucceeds)).symm
        · have hfills : FillsExactly w p := by
            by_contra hnot
            exact hsucceeds (hresult.mpr hnot)
          rw [if_neg hsucceeds]
          refine ⟨hsublist.cons _, iff_of_false ?_ fun hall => hall.1 hfills⟩
          intro hsame
          have hlength := congrArg List.length hsame
          have hle := hsublist.length_le
          simp only [Option.toList_none, Option.toList_some, List.nil_append,
            List.length_append, List.length_singleton] at hlength
          omega

/-! ## What is read of the stream -/

/-- What is read of some buffers are these events of a provider, and nothing of an event is left
open at the end. -/
def ReadsWritten (providerId : UInt32) (buffers : List (List UInt8)) (events : List WrittenEvent) :
    Prop :=
  ∃ reports q stream read, EventParser.new.parseBuffers buffers = some (reports, q) ∧
    gatherReports reports = ([], read) ∧
    read.map eventKey = events.map (writtenKey providerId) ∧ ParserReadsAs q ⟨stream, .header⟩

theorem readsWritten_iff (id : UInt32) (flushFrequencyInMs timestampFrequency : UInt64)
    (cs : List ProviderCall) (buffers : List (List UInt8))
    (hbuffers : buffers.flatten = chunkBytes
      ((BaseEventProvider.new id flushFrequencyInMs timestampFrequency).calls cs).2.flush.queue)
    (events : List WrittenEvent) :
    ReadsWritten id buffers events ↔ events.map (writtenKey id) =
      (completed cs (.new id flushFrequencyInMs timestampFrequency)).map (writtenKey id) := by
  have hnew : StreamOf (.new id flushFrequencyInMs timestampFrequency) [] [] :=
    ⟨rfl, by simp, rfl, fun hne => absurd rfl hne⟩
  obtain ⟨tokens, hstream⟩ := hnew.calls cs
  have hid : (((BaseEventProvider.new id flushFrequencyInMs timestampFrequency).calls cs).2).id =
      id := calls_id cs _
  have hqueue : buffers.flatten = encodeTokens tokens := by
    rw [hbuffers, ← hstream.bytes, ← providerBytes_flush]
    unfold providerBytes
    rw [show (flush _).eventChunks = [] from rfl, List.append_nil]
  have hevents := hstream.events
  rw [hid, List.nil_append] at hevents
  obtain ⟨reports, q, hrun, hgather, hreads⟩ :=
    parseBuffers_encodeTokens (fun t ht => (hstream.written t ht).wellFormed) buffers hqueue
  constructor
  · rintro ⟨reports', q', stream, read, hrun', hgather', hread, -⟩
    obtain ⟨rfl, rfl⟩ := Prod.mk.inj (Option.some_inj.mp (hrun.symm.trans hrun'))
    rw [← hread, ← hevents, ← (Prod.mk.inj (hgather.symm.trans hgather')).2]
  · intro hsame
    exact ⟨reports, q, _, _, hrun, hgather, hevents.trans hsame.symm, hreads⟩

/-- What is read of a flushed stream, in whatever buffers, are exactly the events that were written
successfully, if and only if no write without event data ends with a full timestamp exactly where
its chunks end. -/
theorem provider_stream_iff (id : UInt32) (flushFrequencyInMs timestampFrequency : UInt64)
    (cs : List ProviderCall) (buffers : List (List UInt8))
    (hbuffers : buffers.flatten = chunkBytes
      ((BaseEventProvider.new id flushFrequencyInMs timestampFrequency).calls cs).2.flush.queue) :
    ReadsWritten id buffers
        ((BaseEventProvider.new id flushFrequencyInMs timestampFrequency).calls cs).1 ↔
      ∀ x ∈ writesOf cs (.new id flushFrequencyInMs timestampFrequency),
        ¬ FillsExactly x.1 x.2 := by
  obtain ⟨hsublist, hiff⟩ :=
    calls_eq_completed_iff cs (.new id flushFrequencyInMs timestampFrequency)
  rw [readsWritten_iff id flushFrequencyInMs timestampFrequency cs buffers hbuffers, ← hiff]
  constructor
  · intro hsame
    have hlength := congrArg List.length hsame
    rw [List.length_map, List.length_map] at hlength
    exact hsublist.eq_of_length hlength
  · intro hsame
    rw [hsame]

theorem provider_stream_iff_two :
    ReadsWritten 7 (((BaseEventProvider.new 7 0 1).calls [.write ⟨1, none, [5], 32, 64,
        [true, true], 0, by decide⟩, .write ⟨2, some [6], [], 0, 9999, [true], 0,
          by decide⟩]).2.flush.queue.map (·.data))
        ((BaseEventProvider.new 7 0 1).calls [.write ⟨1, none, [5], 32, 64, [true, true],
          0, by decide⟩, .write ⟨2, some [6], [], 0, 9999, [true], 0, by decide⟩]).1 ↔
      ∀ x ∈ writesOf [.write ⟨1, none, [5], 32, 64, [true, true], 0, by decide⟩,
        .write ⟨2, some [6], [], 0, 9999, [true], 0, by decide⟩] (.new 7 0 1),
        ¬ FillsExactly x.1 x.2 :=
  provider_stream_iff 7 0 1 _ _ List.flatMap_def.symm

/-- An event of 65473 bytes, all in its header, a long time after its stream was begun: it ends
where the first chunk ends. -/
def fillingWrite (header : List UInt8) (h : header.length = 65473) : EventWrite where
  eventId := 1
  header := some header
  eventData := []
  streamReading := 1
  reading := 18014398509481984
  allocations := [true, true]
  currentTime := 0
  fits := by
    rw [Option.getD_some, h]
    decide

theorem fillsExactly_fillingWrite {header : List UInt8} (h : header.length = 65473) :
    FillsExactly (fillingWrite header h) (.new 7 0 1) := by
  have hfull : 2 ^ 48 - 1 < (((18014398509481984 : UInt64) - 1) / kEventTimeUnit).toNat := by
    decide +kernel
  refine ⟨rfl, .inr hfull, 0, ?_, List.prefix_rfl⟩
  have hsize : (fillingWrite header h).totalEventSize = 65473 := h
  rw [hsize]
  simp [calculateWorstCaseSize, EventTokenType.size, chunkRoom, BaseEventProvider.new,
    kEventChunkMaxDataSize]

theorem not_readsWritten_fillingWrite {header : List UInt8} (h : header.length = 65473) :
    ¬ ReadsWritten 7
      (((BaseEventProvider.new 7 0 1).calls [.write (fillingWrite header h)]).2.flush.queue.map
        (·.data))
      ((BaseEventProvider.new 7 0 1).calls [.write (fillingWrite header h)]).1 := by
  obtain ⟨hsublist, hiff⟩ := calls_eq_completed_iff [.write (fillingWrite header h)] (.new 7 0 1)
  rw [readsWritten_iff 7 0 1 [.write (fillingWrite header h)] _ List.flatMap_def.symm]
  intro hsame
  have hlength := congrArg List.length hsame
  rw [List.length_map, List.length_map] at hlength
  exact hiff.mp (hsublist.eq_of_length hlength) (fillingWrite header h, .new 7 0 1)
    List.mem_cons_self (fillsExactly_fillingWrite h)

theorem provider_stream_filled :
    ¬ ReadsWritten 7
      (((BaseEventProvider.new 7 0 1).calls [.write (fillingWrite (List.replicate 65473 0)
        List.length_replicate)]).2.flush.queue.map (·.data))
      ((BaseEventProvider.new 7 0 1).calls [.write (fillingWrite (List.replicate 65473 0)
        List.length_replicate)]).1 :=
  not_readsWritten_fillingWrite List.length_replicate

end DevDriver.Analysis
