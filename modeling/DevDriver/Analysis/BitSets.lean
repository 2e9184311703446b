import DevDriver.Model.BitSet

/-!
# The bits beyond the size of a bit set

The bounds are checked for whole dwords, and a dword may reach beyond the size of the set.
-/

namespace DevDriver.Analysis

open Library Machine Model BitSet

variable {s t : BitSet} {a : BitSetAction} {o : BitSetAnswer}

/-! ## What each call does to the bits -/

def storageBit (s : BitSet) (i : ℕ) : Bool := bitAt s.dwords i

theorem getLsbD_bitMask {b k : ℕ} (hk : k < 8 * 4) :
    (bitMask b).getLsbD k = decide (k = b) := by
  have hone : (1 : BitDword).getLsbD (k - b) = decide (k - b = 0) := by
    exact BitVec.getLsbD_one.trans (Bool.true_and _)
  rw [bitMask, BitVec.getLsbD_shiftLeft, hone, decide_eq_true hk, Bool.true_and]
  by_cases h : k < b
  · simp [h, Nat.ne_of_lt h]
  · simp [h]
    omega

theorem calculateIndex_eq (s : BitSet) (i : ℕ) :
    s.calculateIndex i =
      if i / (8 * 4) < s.dwords.length then some (i / (8 * 4), i % (8 * 4)) else none := by
  have hdword : i >>> 5 = i / (8 * 4) := Nat.shiftRight_eq_div_pow i 5
  have hplace : i &&& 31 = i % (8 * 4) := Nat.and_two_pow_sub_one_eq_mod i 5
  rw [calculateIndex, hdword, hplace]

theorem storageBit_of_le {i : ℕ} (h : s.dwords.length ≤ i / (8 * 4)) :
    storageBit s i = false := by
  apply bitAt_of_le (by decide)
  omega

theorem and_bitMask_ne_zero_iff {dword : BitDword} {b : ℕ} (hb : b < 8 * 4) :
    dword &&& bitMask b ≠ 0 ↔ dword.getLsbD b = true := by
  constructor
  · intro h
    by_contra hclear
    apply h
    apply BitVec.eq_of_getLsbD_eq
    intro k hk
    rw [BitVec.getLsbD_and, getLsbD_bitMask hk]
    by_cases hkb : k = b
    · simpa [hkb] using hclear
    · simp [hkb]
  · intro h hzero
    have hbit : (dword &&& bitMask b).getLsbD b = false := by
      rw [hzero]
      exact BitVec.getLsbD_zero
    rw [BitVec.getLsbD_and, getLsbD_bitMask hb, h] at hbit
    simp at hbit

theorem queryBit_eq (s : BitSet) (i : ℕ) : s.queryBit i = storageBit s i := by
  rw [queryBit, calculateIndex_eq]
  by_cases h : i / (8 * 4) < s.dwords.length
  · rw [if_pos h]
    apply Bool.eq_iff_iff.mpr
    exact decide_eq_true_iff.trans (and_bitMask_ne_zero_iff (Nat.mod_lt i (by decide)))
  · rw [if_neg h, storageBit_of_le (Nat.le_of_not_lt h)]

theorem place_eq_iff {i k : ℕ} (h : k / (8 * 4) = i / (8 * 4)) :
    k % (8 * 4) = i % (8 * 4) ↔ k = i := by omega

theorem storageBit_setBit (s : BitSet) (i k : ℕ) :
    storageBit (s.setBit i) k =
      (storageBit s k || decide (k = i ∧ i / (8 * 4) < s.dwords.length)) := by
  rw [setBit, calculateIndex_eq]
  by_cases h : i / (8 * 4) < s.dwords.length
  · rw [if_pos h]
    rw [storageBit, bitAt_set h, BitVec.getLsbD_or, getLsbD_bitMask (Nat.mod_lt k (by decide))]
    split
    · rename_i hdword
      simp [storageBit, bitAt, hdword, h, place_eq_iff hdword]
    · rename_i hdword
      have hother : k ≠ i := fun heq => hdword (heq ▸ rfl)
      simp [storageBit, hother]
  · rw [if_neg h]
    simp [h]

theorem storageBit_resetBit (s : BitSet) (i k : ℕ) :
    storageBit (s.resetBit i) k = (storageBit s k && decide (k ≠ i)) := by
  rw [resetBit, calculateIndex_eq]
  by_cases h : i / (8 * 4) < s.dwords.length
  · have hplace : k % (8 * 4) < 8 * 4 := Nat.mod_lt k (by decide)
    rw [if_pos h]
    rw [storageBit, bitAt_set h, BitVec.getLsbD_and, BitVec.getLsbD_not, getLsbD_bitMask hplace]
    split
    · rename_i hdword
      simp [storageBit, bitAt, hdword, hplace, place_eq_iff hdword]
    · rename_i hdword
      have hother : k ≠ i := fun heq => hdword (heq ▸ rfl)
      simp [storageBit, hother]
  · rw [if_neg h]
    by_cases hki : k = i
    · rw [hki, storageBit_of_le (Nat.le_of_not_lt h), Bool.false_and]
    · simp [hki]

theorem storageBit_updateBitData (s : BitSet) (data : List (BitVec 8)) (k : ℕ) :
    storageBit (s.updateBitData data) k =
      if k < 8 * min s.sizeInBytes data.length then bitAt data k else storageBit s k := by
  have hcopy : (data.take (min s.sizeInBytes data.length)).length =
      min s.sizeInBytes data.length := by
    rw [List.length_take]
    omega
  have hroom : 0 + (data.take (min s.sizeInBytes data.length)).length ≤ 4 * s.dwords.length := by
    rw [hcopy, sizeInBytes]
    omega
  rw [storageBit, updateBitData, bitAt_setBytesAt hroom, hcopy]
  simp only [Nat.mul_zero, Nat.zero_le, true_and, Nat.zero_add, Nat.sub_zero]
  split
  · rename_i hk
    exact bitAt_take _ hk
  · rfl

theorem storageBit_resetAllBits (s : BitSet) (k : ℕ) : storageBit s.resetAllBits k = false :=
  bitAt_replicate_zero _ _ (by decide)

theorem bitAt_take_append_zeros (dwords : List BitDword) (n m k : ℕ) :
    bitAt (dwords.take n ++ .replicate m 0) k =
      (bitAt dwords k && decide (k < 8 * 4 * n)) := by
  rw [bitAt_append _ _ (by decide), bitAt_replicate_zero _ _ (by decide), List.length_take]
  split
  · rename_i hk
    have hkept : k < 8 * 4 * n := by omega
    rw [bitAt_take _ hkept, decide_eq_true hkept, Bool.and_true]
  · rename_i hk
    by_cases hkept : k < 8 * 4 * n
    · have hbeyond : bitAt dwords k = false := bitAt_of_le (by decide) (by omega)
      rw [hbeyond, Bool.false_and]
    · rw [decide_eq_false hkept, Bool.and_false]

theorem storageBit_resize (s : BitSet) (n k : ℕ) :
    storageBit (s.resize n).2 k =
      (storageBit s k &&
        decide (s.storage = .dynamicBitStorage → k < 8 * 4 * numDwordsFor n)) := by
  unfold resize
  split
  · rename_i hstorage
    simp [hstorage]
  · rename_i hstorage
    rw [storageBit, bitAt_take_append_zeros]
    simp [hstorage, storageBit]

theorem getLsbD_lastByte :
    ∀ bits < 8, ∀ j < 8, ((1 : BitVec 8) <<< bits - 1).getLsbD j = decide (j < bits) := by
  decide

theorem storageBit_setAllBits (h : s.setAllBits = some t) (k : ℕ) :
    storageBit t k =
      if k < 8 * ((s.numBits + 7) / 8) then decide (k < s.numBits) else storageBit s k := by
  obtain ⟨hroom, ht⟩ := Option.ite_none_right_eq_some.mp h
  cases ht
  have hbytes : s.numBits / 8 ≤ 4 * s.dwords.length := by
    unfold sizeInBytes at hroom
    omega
  have hfilled (i : ℕ) :
      bitAt (setBytesAt s.dwords 0 (.replicate (s.numBits / 8) 0xFF)) i =
        if i < 8 * (s.numBits / 8) then true else bitAt s.dwords i := by
    have hone : (0xFF : BitVec 8).getLsbD (i % 8) = true :=
      BitVec.getLsbD_allOnes.trans (decide_eq_true (Nat.mod_lt i (by decide)))
    rw [bitAt_setBytesAt (by simpa using hbytes), List.length_replicate]
    simp only [Nat.mul_zero, Nat.zero_le, true_and, Nat.zero_add, Nat.sub_zero]
    split
    · rename_i hi
      rw [bitAt_replicate _ _ _ (by decide), hone, decide_eq_true hi]
      rfl
    · rfl
  unfold storageBit
  split
  · rename_i hbits
    have hlast : s.numBits / 8 < 4 * s.dwords.length := by
      rw [if_pos hbits] at hroom
      unfold sizeInBytes at hroom
      omega
    rw [bitAt_setByteAt (by rwa [length_setBytesAt]), hfilled]
    by_cases hbyte : k / 8 = s.numBits / 8
    · rw [if_pos hbyte, if_pos (by omega),
        getLsbD_lastByte _ (Nat.mod_lt _ (by decide)) _ (Nat.mod_lt _ (by decide))]
      apply decide_eq_decide.mpr
      omega
    · rw [if_neg hbyte]
      by_cases hk : k < 8 * (s.numBits / 8)
      · rw [if_pos hk, if_pos (by omega), decide_eq_true (by omega)]
      · rw [if_neg hk, if_neg (by omega)]
  · rename_i hbits
    rw [hfilled]
    by_cases hk : k < 8 * (s.numBits / 8)
    · rw [if_pos hk, if_pos (by omega), decide_eq_true (by omega)]
    · rw [if_neg hk, if_neg (by omega)]

/-! ## TailClean sets -/

def TailClean (s : BitSet) : Prop := ∀ i, s.numBits ≤ i → storageBit s i = false

/-- The call puts no bit beyond the size: `SetBit` is for a bit in the set or outside the storage,
`UpdateBitData` has no such bit, and no bit is left between the new size of a dynamic set and the
end of its last dword. -/
def StaysClean (s : BitSet) : BitSetAction → Prop
  | .setBit bitIndex => s.numBits ≤ bitIndex → 8 * s.sizeInBytes ≤ bitIndex
  | .updateBitData data =>
    ∀ i < 8 * min s.sizeInBytes data.length, s.numBits ≤ i → bitAt data i = false
  | .resize numBits =>
    s.storage = .dynamicBitStorage →
      ∀ i < 8 * 4 * numDwordsFor numBits, numBits ≤ i → storageBit s i = false
  | _ => True

instance (s : BitSet) (a : BitSetAction) : Decidable (StaysClean s a) :=
  match a with
  | .setBit bitIndex => inferInstanceAs (Decidable (s.numBits ≤ bitIndex → _))
  | .updateBitData data =>
    inferInstanceAs (Decidable (∀ i < 8 * min s.sizeInBytes data.length, s.numBits ≤ i → _))
  | .resize numBits =>
    inferInstanceAs (Decidable (s.storage = .dynamicBitStorage →
      ∀ i < 8 * 4 * numDwordsFor numBits, numBits ≤ i → _))
  | .queryBit _ | .resetBit _ | .setAllBits | .resetAllBits => .isTrue trivial

theorem tailClean_create (storage : BitSetStorage) (numStorageBits : ℕ) :
    TailClean (.create storage numStorageBits) := fun _ _ =>
  bitAt_replicate_zero _ _ (by decide)

/-- A call keeps the bits beyond the size zero unless it sets one. -/
theorem tailClean_step_iff (hs : TailClean s) (h : s.step a = some (t, o)) :
    TailClean t ↔ StaysClean s a := by
  cases a with
  | resize n =>
    obtain ⟨rfl, -⟩ := Prod.mk.inj (Option.some.inj h)
    cases hstorage : s.storage with
    | fixedBitStorage =>
      have hsame : (s.resize n).2 = s := by rw [resize, hstorage]
      simp [hsame, hs, StaysClean, hstorage]
    | dynamicBitStorage =>
      have hsize : (s.resize n).2.numBits = n := by rw [resize, hstorage]
      constructor
      · intro ht _ i hi hle
        have hbit := ht i (by rwa [hsize])
        rw [storageBit_resize, decide_eq_true fun _ => hi, Bool.and_true] at hbit
        exact hbit
      · intro hstays i hle
        rw [storageBit_resize]
        by_cases hi : i < 8 * 4 * numDwordsFor n
        · rw [hstays hstorage i hi (by rwa [hsize] at hle), Bool.false_and]
        · simp [hi, hstorage]
  | updateBitData data =>
    obtain ⟨rfl, -⟩ := Prod.mk.inj (Option.some.inj h)
    constructor
    · intro ht i hi hle
      have hbit := ht i hle
      rwa [storageBit_updateBitData, if_pos hi] at hbit
    · intro hstays i hle
      rw [storageBit_updateBitData]
      split
      · rename_i hi
        exact hstays i hi hle
      · exact hs i hle
  | queryBit i =>
    obtain ⟨rfl, -⟩ := Prod.mk.inj (Option.some.inj h)
    exact ⟨fun _ => trivial, fun _ => hs⟩
  | setBit i =>
    obtain ⟨rfl, -⟩ := Prod.mk.inj (Option.some.inj h)
    have hsize : (s.setBit i).numBits = s.numBits := by
      unfold setBit
      split <;> rfl
    have houtside : 8 * s.sizeInBytes ≤ i ↔ ¬i / (8 * 4) < s.dwords.length := by
      unfold sizeInBytes
      omega
    constructor
    · intro ht hle
      have hbit := ht i (by rwa [hsize])
      rw [storageBit_setBit, Bool.or_eq_false_iff, decide_eq_false_iff_not] at hbit
      exact houtside.mpr fun hin => hbit.2 ⟨rfl, hin⟩
    · intro hstays k hk
      rw [hsize] at hk
      rw [storageBit_setBit, hs k hk, Bool.false_or, decide_eq_false_iff_not]
      rintro ⟨rfl, hin⟩
      exact houtside.mp (hstays hk) hin
  | resetBit i =>
    obtain ⟨rfl, -⟩ := Prod.mk.inj (Option.some.inj h)
    have hsize : (s.resetBit i).numBits = s.numBits := by
      unfold resetBit
      split <;> rfl
    refine ⟨fun _ => trivial, fun _ k hk => ?_⟩
    rw [hsize] at hk
    rw [storageBit_resetBit, hs k hk, Bool.false_and]
  | setAllBits =>
    obtain ⟨t', ht', heq⟩ := Option.map_eq_some_iff.mp h
    obtain ⟨rfl, -⟩ := Prod.mk.inj heq
    have hsize : t'.numBits = s.numBits := by
      obtain ⟨-, heq'⟩ := Option.ite_none_right_eq_some.mp ht'
      rw [← Option.some.inj heq']
    refine ⟨fun _ => trivial, fun _ k hk => ?_⟩
    rw [hsize] at hk
    rw [storageBit_setAllBits ht']
    split
    · exact decide_eq_false (by omega)
    · exact hs k hk
  | resetAllBits =>
    obtain ⟨rfl, -⟩ := Prod.mk.inj (Option.some.inj h)
    exact ⟨fun _ => trivial, fun _ k _ => storageBit_resetAllBits s k⟩

/-- In every state of a run the bits beyond the size are zero; `SetBit` outside the size does
nothing, `QueryBit` there is false, and so is every bit that `Resize` brings in. -/
structure ZeroBeyondSize (tr : List (BitSet × BitSetAction × BitSetAnswer)) (t : BitSet) :
    Prop where
  clean : TailClean t ∧ ∀ x ∈ tr, TailClean x.1
  setBit : ∀ x ∈ tr, ∀ i, x.2.1 = .setBit i → x.1.numBits ≤ i → x.1.setBit i = x.1
  queryBit : ∀ x ∈ tr, ∀ i, x.2.1 = .queryBit i → x.1.numBits ≤ i → x.2.2 = .bit false
  resize : ∀ x ∈ tr, ∀ n, x.2.1 = .resize n →
    ∀ i, x.1.numBits ≤ i → (x.1.resize n).2.queryBit i = false

/-- In every run the bits beyond the size stay zero, and reads there answer zero, exactly if no step
sets one of them. -/
theorem zero_beyond_size_iff {storage : BitSetStorage} {numStorageBits : ℕ}
    {tr : List (BitSet × BitSetAction × BitSetAnswer)}
    (h : (bitSetMachine storage numStorageBits).Trace (.create storage numStorageBits) tr t) :
    ZeroBeyondSize tr t ↔ ∀ x ∈ tr, StaysClean x.1 x.2.1 := by
  have hstates := h.forall_iff (tailClean_create storage numStorageBits)
    fun _ _ _ _ hs hstep => tailClean_step_iff hs hstep
  constructor
  · intro hzero
    exact hstates.mp hzero.clean
  · intro hstays
    obtain ⟨hlast, hclean⟩ := hstates.mpr hstays
    refine ⟨⟨hlast, hclean⟩, ?_, ?_, ?_⟩
    · rintro ⟨s, a, o⟩ hx i rfl hle
      have houtside : 8 * s.sizeInBytes ≤ i := hstays _ hx hle
      have hindex : ¬i / (8 * 4) < s.dwords.length := by
        unfold sizeInBytes at houtside
        omega
      rw [setBit, calculateIndex_eq, if_neg hindex]
    · rintro ⟨s, a, o⟩ hx i rfl hle
      obtain ⟨-, u, hstep⟩ := h.reachable_of_mem (.init rfl) hx
      obtain ⟨-, rfl⟩ := Prod.mk.inj (Option.some.inj hstep)
      rw [queryBit_eq, hclean _ hx i hle]
    · rintro ⟨s, a, o⟩ hx n rfl i hle
      rw [queryBit_eq, storageBit_resize, hclean _ hx i hle, Bool.false_and]

theorem zero_beyond_size_iff_grow :
    ZeroBeyondSize
      ((bitSetMachine .dynamicBitStorage 40).transitions (.create .dynamicBitStorage 40)
        [.setAllBits, .setBit 100, .resize 70, .queryBit 50, .resetAllBits, .resize 3])
      ⟨.dynamicBitStorage, [0], 3⟩ :=
  (zero_beyond_size_iff (Trace.of_run (by decide +kernel))).mpr (by decide +kernel)

/-- A bit that a set lost when it shrank is back when it grows. -/
theorem zero_beyond_size_not :
    ¬∀ (storage : BitSetStorage) (numStorageBits : ℕ)
      (tr : List (BitSet × BitSetAction × BitSetAnswer)) (t : BitSet),
      (bitSetMachine storage numStorageBits).Trace (.create storage numStorageBits) tr t →
        ZeroBeyondSize tr t := by
  intro hall
  have hrun : (bitSetMachine .dynamicBitStorage 8).run (.create .dynamicBitStorage 8)
      [.setBit 7, .resize 4, .resize 8] = some ⟨.dynamicBitStorage, [0x80], 8⟩ := by
    decide +kernel
  have hzero := hall _ _ _ _ (Trace.of_run hrun)
  have hgrown := hzero.resize (⟨.dynamicBitStorage, [0x80], 4⟩, .resize 8, .result .success)
    (by decide +kernel) 8
  have hbit := hgrown rfl 7 (by decide)
  revert hbit
  decide +kernel

end DevDriver.Analysis
