import DevDriver.Model.DdMemory

/-!
# The memory of a dynamic buffer

`Reserve` and `Copy` overwrite the pointer with the answer of the allocator before they look at it.
-/

namespace DevDriver.Analysis

namespace DynamicBuffers

open Library Model

/-- The pending copy of `srcSize` bytes gets enough room, without a wrap of the new capacity. -/
structure Grows (b : DynamicBuffer) (srcSize : UInt64) : Prop where
  exact : (b.newCapacity srcSize).toNat =
    if b.capacity < srcSize then b.capacity.toNat + srcSize.toNat else 2 * b.capacity.toNat
  larger : b.capacity < b.newCapacity srcSize
  room : b.size.toNat + srcSize.toNat ≤ (b.newCapacity srcSize).toNat

/-- The pointer, the size and the capacity describe the same memory, which begins with the bytes
copied, no block is lost, and a failed reallocation shows as the error. -/
structure Consistent (s : DynamicBufferRun) : Prop where
  size_le : s.buffer.size ≤ s.buffer.capacity
  memory : (s.buffer.pBuf.getD []).length = s.buffer.capacity.toNat
  null : s.buffer.pBuf = none ↔ s.buffer.capacity = 0
  copied : (s.buffer.pBuf.getD []).take s.buffer.size.toNat = s.copied
  error : s.buffer.error = if s.failed then .commonOutOfHeapMemory else .success
  lost : s.lost = 0
  capacity_lt : s.buffer.capacity.toNat < 2 ^ 63
  grows : ∀ srcSize : UInt64, srcSize.toNat < 2 ^ 63 →
    s.buffer.capacity - s.buffer.size < srcSize → Grows s.buffer srcSize

variable {s t : DynamicBufferRun} {b b' : DynamicBuffer} {answer : ReallocAnswer}

/-! ## Growing -/

theorem grows_of_le (hsize : b.size ≤ b.capacity) (hcapacity : b.capacity.toNat < 2 ^ 63)
    (srcSize : UInt64) (hsrc : srcSize.toNat < 2 ^ 63) (hmore : b.capacity - b.size < srcSize) :
    Grows b srcSize := by
  have hsizeNat := UInt64.le_iff_toNat_le.mp hsize
  rw [UInt64.lt_iff_toNat_lt, UInt64.toNat_sub_of_le _ _ hsize] at hmore
  have hexact : (b.newCapacity srcSize).toNat =
      if b.capacity < srcSize then b.capacity.toNat + srcSize.toNat else 2 * b.capacity.toNat := by
    unfold DynamicBuffer.newCapacity
    by_cases hlarge : b.capacity < srcSize
    · rw [if_pos hlarge, if_pos hlarge, UInt64.toNat_add]
      omega
    · rw [if_neg hlarge, if_neg hlarge, UInt64.toNat_mul]
      show b.capacity.toNat * 2 % _ = _
      omega
  refine ⟨hexact, ?_, ?_⟩
  · rw [UInt64.lt_iff_toNat_lt, hexact]
    by_cases hlarge : b.capacity < srcSize
    · rw [if_pos hlarge]
      omega
    · rw [if_neg hlarge]
      rw [UInt64.lt_iff_toNat_lt] at hlarge
      omega
  · rw [hexact]
    by_cases hlarge : b.capacity < srcSize
    · rw [if_pos hlarge]
      omega
    · rw [if_neg hlarge]
      rw [UInt64.lt_iff_toNat_lt] at hlarge
      omega

theorem consistent_empty {lost : ℕ} (hlost : lost = 0) :
    Consistent ⟨⟨none, 0, 0, .success⟩, [], false, lost⟩ :=
  have hlt : (0 : UInt64).toNat < 2 ^ 63 := by decide
  ⟨UInt64.le_refl _, rfl, iff_of_true rfl rfl, rfl, rfl, hlost, hlt,
    grows_of_le (UInt64.le_refl _) hlt⟩

theorem reallocTo_cases {newCapacity : UInt64} (h : b.reallocTo newCapacity answer = some b') :
    (answer = none ∧ b' = { b with pBuf := none, error := .commonOutOfHeapMemory }) ∨
    ∃ tail, answer = some tail ∧ newCapacity.toNat < 2 ^ 63 ∧
      (b.pBuf.getD []).length + tail.length = newCapacity.toNat ∧
      b' = { b with pBuf := some (b.pBuf.getD [] ++ tail), capacity := newCapacity } := by
  obtain ⟨r, hr, rfl⟩ := Option.map_eq_some_iff.mp h
  cases answer with
  | none =>
    cases hr
    exact .inl ⟨rfl, rfl⟩
  | some tail =>
    obtain ⟨hfits, ⟨⟩⟩ := Option.ite_none_right_eq_some.mp hr
    exact .inr ⟨tail, rfl, hfits.1, hfits.2, rfl⟩

theorem Consistent.grown (h : Consistent s) {newCapacity : UInt64} {tail : List UInt8}
    (hlarger : s.buffer.capacity < newCapacity) (hlt : newCapacity.toNat < 2 ^ 63)
    (hlength : (s.buffer.pBuf.getD []).length + tail.length = newCapacity.toNat) :
    Consistent { s with buffer :=
      { s.buffer with
        pBuf := some (s.buffer.pBuf.getD [] ++ tail), capacity := newCapacity } } := by
  have hsize : s.buffer.size ≤ newCapacity :=
    UInt64.le_of_lt (UInt64.lt_of_le_of_lt h.size_le hlarger)
  refine ⟨hsize, ?_, ?_, ?_, h.error, h.lost, hlt, grows_of_le hsize hlt⟩
  · show (s.buffer.pBuf.getD [] ++ tail).length = _
    rw [List.length_append]
    exact hlength
  · have hpos : newCapacity ≠ 0 := by
      rintro rfl
      exact absurd hlarger UInt64.not_lt_zero
    exact iff_of_false nofun hpos
  · have hwithin : s.buffer.size.toNat ≤ (s.buffer.pBuf.getD []).length := by
      rw [h.memory]
      exact UInt64.le_iff_toNat_le.mp h.size_le
    show (s.buffer.pBuf.getD [] ++ tail).take _ = _
    rw [List.take_append_of_le_length hwithin]
    exact h.copied

theorem Consistent.refused (h : Consistent s) (hempty : s.buffer.capacity = 0) :
    Consistent { s with
      buffer := { s.buffer with pBuf := none, error := .commonOutOfHeapMemory }
      failed := true } := by
  have hsize : s.buffer.size = 0 := by
    have hle := h.size_le
    rw [hempty] at hle
    exact UInt64.le_zero_iff.mp hle
  refine ⟨h.size_le, ?_, iff_of_true rfl hempty, ?_, rfl, h.lost, h.capacity_lt,
    grows_of_le h.size_le h.capacity_lt⟩
  · rw [hempty]
    rfl
  · have hcopied := h.copied
    rw [hsize] at hcopied
    rw [← hcopied]
    exact List.take_nil

theorem append_eq_some {srcBuf : List UInt8} (h : b.append srcBuf = some b') :
    ∃ memory, b.pBuf = some memory ∧ b.size.toNat + srcBuf.length ≤ memory.length ∧
      b' = { b with
        pBuf := some (overwrite memory b.size.toNat srcBuf)
        size := b.size + UInt64.ofNat srcBuf.length } := by
  obtain ⟨memory, hmemory, h⟩ := Option.bind_eq_some_iff.mp h
  split at h
  · rename_i hroom
    cases h
    exact ⟨memory, hmemory, hroom, rfl⟩
  · cases h

theorem Consistent.appended (h : Consistent s) {srcBuf : List UInt8}
    (happend : s.buffer.append srcBuf = some b') :
    Consistent { s with buffer := b', copied := s.copied ++ srcBuf } := by
  obtain ⟨memory, hmemory, hroom, rfl⟩ := append_eq_some happend
  have hlength : memory.length = s.buffer.capacity.toNat := by
    have hbuffer := h.memory
    rw [hmemory] at hbuffer
    exact hbuffer
  have hlt := h.capacity_lt
  have hsum : (s.buffer.size + UInt64.ofNat srcBuf.length).toNat =
      s.buffer.size.toNat + srcBuf.length := by
    rw [UInt64.toNat_add, UInt64.toNat_ofNat']
    omega
  have hsize : s.buffer.size + UInt64.ofNat srcBuf.length ≤ s.buffer.capacity := by
    rw [UInt64.le_iff_toNat_le, hsum]
    omega
  refine ⟨hsize, ?_, ?_, ?_, h.error, h.lost, hlt, grows_of_le hsize hlt⟩
  · show (overwrite memory _ srcBuf).length = _
    rw [length_overwrite hroom, hlength]
  · have hnull := h.null
    rw [hmemory] at hnull
    exact iff_of_false nofun fun hzero => nomatch hnull.mpr hzero
  · have hcopied := h.copied
    rw [hmemory] at hcopied
    show (overwrite memory _ srcBuf).take (s.buffer.size + _).toNat = _
    rw [hsum, take_overwrite (by omega), ← hcopied]
    rfl

/-! ## Steps -/

theorem reserve_cases {reserveSize : UInt64} {r : DDResult × DynamicBuffer}
    (h : b.reserve reserveSize answer = some r) :
    (b.reserveRequest reserveSize = none ∧ r.2 = b) ∨
    (b.reserveRequest reserveSize = some reserveSize ∧ b.capacity < reserveSize ∧
      b.reallocTo reserveSize answer = some r.2) := by
  unfold DynamicBuffer.reserve at h
  by_cases hcond : (b.size = 0 ∧ reserveSize > 0) ∧ reserveSize > b.capacity
  · have hrequest : b.reserveRequest reserveSize = some reserveSize := if_pos hcond
    rw [if_pos hcond.1, hrequest] at h
    obtain ⟨b', hrealloc, rfl⟩ := Option.map_eq_some_iff.mp h
    exact .inr ⟨hrequest, hcond.2, hrealloc⟩
  · have hrequest : b.reserveRequest reserveSize = none := if_neg hcond
    rw [hrequest] at h
    refine .inl ⟨hrequest, ?_⟩
    split at h <;> cases h <;> rfl

theorem copy_cases {srcBuf : List UInt8} (h : b.copy srcBuf answer = some b') :
    (b.copyRequest (.ofNat srcBuf.length) = none ∧
      ((b.error = .success → UInt64.ofNat srcBuf.length = 0) ∧ b' = b ∨
        b.error = .success ∧ b.append srcBuf = some b')) ∨
    ∃ b₁, b.copyRequest (.ofNat srcBuf.length) = some (b.newCapacity (.ofNat srcBuf.length)) ∧
      b.error = .success ∧ b.capacity - b.size < .ofNat srcBuf.length ∧
      b.reallocTo (b.newCapacity (.ofNat srcBuf.length)) answer = some b₁ ∧
      (b₁.error = .success → b₁.append srcBuf = some b') ∧ (b₁.error ≠ .success → b' = b₁) := by
  unfold DynamicBuffer.copy at h
  by_cases hactive : b.error = .success ∧ UInt64.ofNat srcBuf.length > 0
  · rw [if_pos hactive] at h
    by_cases hmore : b.capacity - b.size < .ofNat srcBuf.length
    · have hrequest : b.copyRequest (.ofNat srcBuf.length) =
          some (b.newCapacity (.ofNat srcBuf.length)) := if_pos ⟨hactive, hmore⟩
      rw [hrequest] at h
      obtain ⟨b₁, hrealloc, h⟩ := Option.bind_eq_some_iff.mp h
      refine .inr ⟨b₁, hrequest, hactive.1, hmore, hrealloc, ?_, ?_⟩
      · intro hsuccess
        rwa [if_pos hsuccess] at h
      · intro hfailed
        rw [if_neg hfailed] at h
        exact (Option.some.inj h).symm
    · have hrequest : b.copyRequest (.ofNat srcBuf.length) = none :=
        if_neg fun hcond => hmore hcond.2
      rw [hrequest] at h
      exact .inl ⟨hrequest, .inr ⟨hactive.1, h⟩⟩
  · rw [if_neg hactive] at h
    cases h
    refine .inl ⟨if_neg fun hcond => hactive hcond.1, .inl ⟨?_, rfl⟩⟩
    intro hsuccess
    by_contra hne
    exact hactive ⟨hsuccess, UInt64.pos_iff_ne_zero.mpr hne⟩

theorem refused_reserve (b : DynamicBuffer) (reserveSize : UInt64) (answer : ReallocAnswer) :
    b.refused (.reserve reserveSize answer) =
      (answer.isNone && (b.reserveRequest reserveSize).isSome) := by
  cases answer <;> rfl

theorem refused_copy (b : DynamicBuffer) (srcBuf : List UInt8) (answer : ReallocAnswer) :
    b.refused (.copy srcBuf answer) =
      (answer.isNone && (b.copyRequest (.ofNat srcBuf.length)).isSome) := by
  cases answer <;> rfl

/-- No reallocation is refused while the buffer holds memory. -/
def KeepsMemory (s : DynamicBufferRun) (a : DynamicBufferAction) : Prop :=
  s.buffer.refused a = true → s.buffer.capacity = 0

/-- Where the pointer is overwritten with null although there was memory, the capacity stays. -/
theorem consistent_refused_iff (h : Consistent s) {lost : ℕ}
    (hlost : s.buffer.pBuf = none → lost = s.lost) :
    Consistent ⟨{ s.buffer with pBuf := none, error := .commonOutOfHeapMemory }, s.copied, true,
      lost⟩ ↔ (true = true → s.buffer.capacity = 0) := by
  constructor
  · intro hafter _
    exact hafter.null.mp rfl
  · intro hempty
    rw [hlost (h.null.mpr (hempty rfl))]
    exact h.refused (hempty rfl)

theorem Consistent.failed_eq (h : Consistent s) (hsuccess : s.buffer.error = .success) :
    s.failed = false := by
  have herror := h.error
  rw [hsuccess] at herror
  split at herror
  · cases herror
  · rename_i hgood
    exact eq_false_of_ne_true hgood

theorem lostAfter_of_some {memory : List UInt8} (hsome : b.pBuf = some memory) :
    s.lostAfter b = s.lost := by
  apply if_neg
  rintro ⟨-, hnone⟩
  rw [hsome] at hnone
  cases hnone

theorem lostAfter_of_null (hnull : s.buffer.pBuf = none) : s.lostAfter b = s.lost := by
  apply if_neg
  rintro ⟨hsome, -⟩
  rw [hnull] at hsome
  cases hsome

theorem lostAfter_self : s.lostAfter s.buffer = s.lost := by
  cases hpBuf : s.buffer.pBuf with
  | none => exact lostAfter_of_null hpBuf
  | some memory => exact lostAfter_of_some hpBuf

/-- A call keeps the buffer consistent exactly if it is not refused memory it needs. -/
theorem consistent_step_iff (s t : DynamicBufferRun) (a : DynamicBufferAction) (o : Unit)
    (h : Consistent s) (hstep : dynamicBufferMachine.step s a = some (t, o)) :
    Consistent t ↔ KeepsMemory s a := by
  unfold KeepsMemory
  cases a with
  | reserve reserveSize answer =>
    obtain ⟨r, hr, ht⟩ := Option.map_eq_some_iff.mp hstep
    cases ht
    rw [refused_reserve]
    rcases reserve_cases hr with ⟨hrequest, hsame⟩ | ⟨hrequest, hlarger, hrealloc⟩
    · rw [hrequest, hsame, lostAfter_self, Option.isSome_none, Bool.and_false, Bool.or_false]
      exact iff_of_true h nofun
    · rw [hrequest, Option.isSome_some, Bool.and_true]
      rcases reallocTo_cases hrealloc with ⟨rfl, hb⟩ | ⟨tail, rfl, hlt, hlength, hb⟩
      · rw [hb, Option.isNone_none, Bool.or_true]
        exact consistent_refused_iff h lostAfter_of_null
      · rw [lostAfter_of_some (congrArg _ hb), hb, Option.isNone_some, Bool.or_false]
        exact iff_of_true (h.grown hlarger hlt hlength) nofun
  | copy srcBuf answer =>
    obtain ⟨hobject, hstep⟩ := Option.ite_none_right_eq_some.mp hstep
    obtain ⟨b', hb', ht⟩ := Option.map_eq_some_iff.mp hstep
    cases ht
    have hlength : (UInt64.ofNat srcBuf.length).toNat = srcBuf.length := by
      rw [UInt64.toNat_ofNat']
      omega
    rw [refused_copy]
    rcases copy_cases hb' with ⟨hrequest, hunchanged⟩ |
      ⟨b₁, hrequest, hsuccess, hmore, hrealloc, happend, hstops⟩
    · rw [hrequest, Option.isSome_none, Bool.and_false, Bool.or_false]
      refine iff_of_true ?_ nofun
      rcases hunchanged with ⟨hempty, rfl⟩ | ⟨hsuccess, happend⟩
      · have hnothing : (if s.failed = true then s.copied else s.copied ++ srcBuf) = s.copied := by
          split
          · rfl
          · rename_i hgood
            have hzero := hempty (h.error.trans (if_neg hgood))
            rw [hzero] at hlength
            rw [List.eq_nil_of_length_eq_zero hlength.symm, List.append_nil]
        rw [hnothing, lostAfter_self]
        exact h
      · obtain ⟨memory, -, -, rfl⟩ := append_eq_some happend
        have happended := h.appended happend
        rw [lostAfter_of_some rfl]
        rw [h.failed_eq hsuccess] at happended ⊢
        exact happended
    · have hgood := h.failed_eq hsuccess
      rw [hrequest, Option.isSome_some, Bool.and_true]
      rcases reallocTo_cases hrealloc with ⟨rfl, rfl⟩ | ⟨tail, rfl, hlt, hfits, rfl⟩
      · have herror : DDResult.commonOutOfHeapMemory ≠ .success := by decide
        rw [hstops herror, Option.isNone_none, Bool.or_true, if_pos rfl]
        exact consistent_refused_iff h lostAfter_of_null
      · have hgrown := h.grown (h.grows _ (by omega) hmore).larger hlt hfits
        have happended := hgrown.appended (happend hsuccess)
        obtain ⟨memory, -, -, rfl⟩ := append_eq_some (happend hsuccess)
        rw [lostAfter_of_some rfl, Option.isNone_some, Bool.or_false, hgood]
        rw [hgood] at happended
        exact iff_of_true happended nofun
  | clear =>
    cases hstep
    refine iff_of_true ⟨UInt64.zero_le, h.memory, h.null, rfl, ?_, h.lost, h.capacity_lt,
      grows_of_le UInt64.zero_le h.capacity_lt⟩ nofun
    show s.buffer.error = if (s.failed || false) then _ else _
    rw [Bool.or_false]
    exact h.error
  | transfer =>
    cases hstep
    exact iff_of_true (consistent_empty h.lost) nofun

/-- In every run the buffer holds what was copied to it exactly if memory is refused only while it
has none. -/
theorem consistent_iff_keepsMemory
    {tr : List (DynamicBufferRun × DynamicBufferAction × Unit)} {s t : DynamicBufferRun}
    (hs : dynamicBufferMachine.init s) (h : dynamicBufferMachine.Trace s tr t) :
    (Consistent t ∧ ∀ x ∈ tr, Consistent x.1) ↔ ∀ x ∈ tr, KeepsMemory x.1 x.2.1 := by
  have hinit : Consistent s := by
    cases hs
    exact consistent_empty rfl
  exact h.forall_iff hinit consistent_step_iff

theorem consistent_iff_keepsMemory_grown :
    Consistent ⟨⟨some [1, 2], 2, 2, .success⟩, [1, 2], false, 0⟩ := by
  have hrun : dynamicBufferMachine.run ⟨⟨none, 0, 0, .success⟩, [], false, 0⟩
      [.reserve 4 none, .transfer, .copy [1] (some [0]), .copy [2] (some [0])] =
      some ⟨⟨some [1, 2], 2, 2, .success⟩, [1, 2], false, 0⟩ := rfl
  refine ((consistent_iff_keepsMemory rfl (.of_run hrun)).mpr ?_).1
  unfold KeepsMemory
  decide

/-- The second of two copies is refused its memory. -/
theorem not_all_consistent : ¬ ∀ (s t : DynamicBufferRun)
    (tr : List (DynamicBufferRun × DynamicBufferAction × Unit)), dynamicBufferMachine.init s →
    dynamicBufferMachine.Trace s tr t → Consistent t := by
  intro hall
  have hrun : dynamicBufferMachine.run ⟨⟨none, 0, 0, .success⟩, [], false, 0⟩
      [.copy [1] (some [0]), .copy [2] none] =
      some ⟨⟨none, 1, 1, .commonOutOfHeapMemory⟩, [1], true, 1⟩ := rfl
  have hlost := (hall _ _ _ rfl (.of_run hrun)).lost
  exact absurd hlost (by decide)

end DynamicBuffers

end DevDriver.Analysis
