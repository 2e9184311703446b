import DevDriver.Library.BitString
import DevDriver.Model.Utilities

/-!
# The bit fields of events

A buffer is read as the bits that `bitAt` names.  An iteration of the loops works on the bits from
`fieldStart` of its number to `fieldStart` of the next; together they touch the bits up to
`touchedEnd`, which lies behind the documented end of the range.
-/

namespace DevDriver.Analysis

namespace EventBits

open Library Model

def touchedEnd (startBit endBit : ℕ) : ℕ :=
  if startBit / 8 = endBit / 8 then 8 * (startBit / 8) + 8 else endBit + 1

def fieldStart (startBit endBit i : ℕ) : ℕ :=
  if i = 0 then startBit
  else if i = numFieldBytes startBit endBit then touchedEnd startBit endBit
  else 8 * (startBit / 8 + i)

variable {startBit endBit i : ℕ}

theorem fieldStart_zero : fieldStart startBit endBit 0 = startBit := rfl

theorem fieldStart_numFieldBytes :
    fieldStart startBit endBit (numFieldBytes startBit endBit) = touchedEnd startBit endBit := by
  rw [fieldStart, if_neg (by unfold numFieldBytes; omega), if_pos rfl]

theorem byteField_spec (h : startBit ≤ endBit) (hi : i < numFieldBytes startBit endBit) :
    (∀ k, (byteField startBit endBit i).srcMask.getLsbD k =
      decide (k < (byteField startBit endBit i).bits)) ∧
    fieldStart startBit endBit i = 8 * (startBit / 8 + i) + (byteField startBit endBit i).srcShift ∧
    fieldStart startBit endBit (i + 1) =
      fieldStart startBit endBit i + (byteField startBit endBit i).bits ∧
    (byteField startBit endBit i).srcShift + (byteField startBit endBit i).bits ≤ 8 := by
  have hmask : ∀ {n : ℕ}, n ≤ 8 → ∀ k, (BitVec.ofNat 64 (2 ^ n - 1)).getLsbD k =
      decide (k < n) := by
    intro n hn k
    rw [BitVec.getLsbD_ofNat, Nat.testBit_two_pow_sub_one]
    by_cases hk : k < n
    · simp [hk, show k < 64 by omega]
    · simp [hk]
  have hpage : startBit / 8 ≤ endBit / 8 := Nat.div_le_div_right h
  unfold numFieldBytes at hi
  unfold byteField fieldStart touchedEnd numFieldBytes
  by_cases hzero : i = 0
  · subst hzero
    simp only [if_true]
    refine ⟨hmask (by omega), by omega, ?_, by omega⟩
    split
    · omega
    · split
      · split <;> omega
      · omega
  · by_cases hlast : i = endBit / 8 - startBit / 8 + 1 - 1
    · rw [if_neg hzero, if_pos hlast, if_neg hzero, if_neg (by omega), if_neg (by omega),
        if_pos (by omega), if_neg (by omega)]
      dsimp only
      refine ⟨hmask (by omega), by omega, ?_, by omega⟩
      show endBit + 1 = _ + (endBit % 8 + 1)
      omega
    · rw [if_neg hzero, if_neg hlast, if_neg hzero, if_neg (by omega), if_neg (by omega),
        if_neg (by omega)]
      dsimp only
      exact ⟨hmask (le_refl 8), rfl, by omega, by omega⟩

theorem foldlM_range_succ {σ : Type} (f : σ → ℕ → Option σ) (s : σ) (n : ℕ) :
    (List.range (n + 1)).foldlM f s = ((List.range n).foldlM f s).bind fun s => f s n := by
  rw [List.range_succ, List.foldlM_append]
  simp

/-! ## Setting -/

variable {pBuffer : List (BitVec 8)} {srcValue : BitVec 64}

def CanAccess (pBuffer : List (BitVec 8)) (startBit endBit i : ℕ) : Prop :=
  ∀ j < i, fieldStart startBit endBit j - startBit < 64 ∧ startBit / 8 + j < pBuffer.length

theorem bitAt_setByte {byte : BitVec 8} {total shift bits index : ℕ} {mask : BitVec 64}
    (hmask : ∀ k, mask.getLsbD k = decide (k < bits)) (hshift : shift + bits ≤ 8)
    (hindex : index < pBuffer.length) (hbyte : byte = pBuffer.getD index 0) (n : ℕ) :
    bitAt (pBuffer.set index ((byte &&& (~~~(mask <<< shift)).setWidth 8) |||
      (((srcValue >>> total) &&& mask).setWidth 8 <<< shift))) n =
      if 8 * index + shift ≤ n ∧ n < 8 * index + shift + bits then
        srcValue.getLsbD (total + (n - (8 * index + shift)))
      else bitAt pBuffer n := by
  rw [bitAt_set hindex]
  have hmod := Nat.mod_lt n (show 0 < 8 by decide)
  by_cases hn : n / 8 = index
  · rw [if_pos hn]
    have hold : bitAt pBuffer n = byte.getLsbD (n % 8) := by rw [bitAt, hn, hbyte]
    rw [hold, BitVec.getLsbD_or, BitVec.getLsbD_and, BitVec.getLsbD_setWidth, BitVec.getLsbD_not,
      BitVec.getLsbD_shiftLeft, BitVec.getLsbD_shiftLeft, BitVec.getLsbD_setWidth,
      BitVec.getLsbD_and, BitVec.getLsbD_ushiftRight, hmask]
    by_cases hin : shift ≤ n % 8 ∧ n % 8 < shift + bits
    · rw [if_pos (by omega)]
      have hbit : n - (8 * index + shift) = n % 8 - shift := by omega
      simp [hbit, hmod, show n % 8 < 64 by omega, show ¬ n % 8 < shift by omega,
        show n % 8 - shift < bits by omega, show n % 8 - shift < 8 by omega]
    · rw [if_neg (by omega)]
      by_cases hlow : n % 8 < shift
      · simp [hlow, hmod, show n % 8 < 64 by omega]
      · simp [hmod, show n % 8 < 64 by omega, show ¬ n % 8 - shift < bits by omega]
  · rw [if_neg hn, if_neg (by omega)]

theorem setLoop (h : startBit ≤ endBit) (hi : i ≤ numFieldBytes startBit endBit)
    {s : List (BitVec 8) × ℕ}
    (hs : (List.range i).foldlM (setByteField startBit endBit srcValue) (pBuffer, 0) = some s) :
    s.2 = fieldStart startBit endBit i - startBit ∧ startBit ≤ fieldStart startBit endBit i ∧
      s.1.length = pBuffer.length ∧ CanAccess pBuffer startBit endBit i ∧
      ∀ n, bitAt s.1 n = if startBit ≤ n ∧ n < fieldStart startBit endBit i then
        srcValue.getLsbD (n - startBit) else bitAt pBuffer n := by
  induction i generalizing s with
  | zero =>
    cases hs
    refine ⟨(Nat.sub_self _).symm, le_refl _, rfl, fun j hj => absurd hj (Nat.not_lt_zero j), ?_⟩
    intro n
    rw [fieldStart_zero, if_neg (by omega)]
  | succ i ih =>
    rw [foldlM_range_succ] at hs
    obtain ⟨s', hs', hstep⟩ := Option.bind_eq_some_iff.mp hs
    obtain ⟨htotal, hle, hlength, haccess, hbits⟩ := ih (by omega) hs'
    obtain ⟨hmask, hstart, hnext, hshift⟩ := byteField_spec h hi
    obtain ⟨hcan, ⟨⟩⟩ := Option.ite_none_right_eq_some.mp hstep
    refine ⟨?_, by omega, ?_, ?_, ?_⟩
    · rw [hnext]
      show s'.2 + _ = _
      omega
    · exact (List.length_set).trans hlength
    · intro j hj
      rcases Nat.lt_succ_iff_lt_or_eq.mp hj with hj | rfl
      · exact haccess j hj
      · rw [← htotal, ← hlength]
        exact hcan
    · intro n
      show bitAt (s'.1.set _ _) n = _
      rw [bitAt_setByte hmask hshift hcan.2 rfl, hbits, hnext]
      by_cases hin : 8 * (startBit / 8 + i) + (byteField startBit endBit i).srcShift ≤ n ∧
          n < 8 * (startBit / 8 + i) + (byteField startBit endBit i).srcShift +
            (byteField startBit endBit i).bits
      · rw [if_pos hin, if_pos (by omega)]
        congr 1
        omega
      · rw [if_neg hin]
        by_cases hbefore : startBit ≤ n ∧ n < fieldStart startBit endBit i
        · rw [if_pos hbefore, if_pos (by omega)]
        · rw [if_neg hbefore, if_neg (by omega)]

theorem setLoop_some (srcValue : BitVec 64) (h : startBit ≤ endBit)
    (hi : i ≤ numFieldBytes startBit endBit)
    (haccess : CanAccess pBuffer startBit endBit i) :
    ∃ s, (List.range i).foldlM (setByteField startBit endBit srcValue) (pBuffer, 0) = some s := by
  induction i with
  | zero => exact ⟨_, rfl⟩
  | succ i ih =>
    obtain ⟨s, hs⟩ := ih (by omega) fun j hj => haccess j (by omega)
    obtain ⟨htotal, -, hlength, -⟩ := setLoop h (by omega) hs
    have hcan : s.2 < 64 ∧ startBit / 8 + i < s.1.length := by
      rw [htotal, hlength]
      exact haccess i (by omega)
    rw [foldlM_range_succ, hs]
    exact ⟨_, if_pos hcan⟩

theorem getLoop (h : startBit ≤ endBit) (hi : i ≤ numFieldBytes startBit endBit)
    {s : BitVec 64 × ℕ}
    (hs : (List.range i).foldlM (getByteField pBuffer startBit endBit) (0, 0) = some s) :
    s.2 = fieldStart startBit endBit i - startBit ∧ startBit ≤ fieldStart startBit endBit i ∧
      ∀ k, s.1.getLsbD k = (decide (k < 64 ∧ k < fieldStart startBit endBit i - startBit) &&
        bitAt pBuffer (startBit + k)) := by
  induction i generalizing s with
  | zero =>
    cases hs
    refine ⟨(Nat.sub_self _).symm, le_refl _, ?_⟩
    intro k
    rw [fieldStart_zero, Nat.sub_self]
    simp
  | succ i ih =>
    rw [foldlM_range_succ] at hs
    obtain ⟨s', hs', hstep⟩ := Option.bind_eq_some_iff.mp hs
    obtain ⟨htotal, hle, hbits⟩ := ih (by omega) hs'
    obtain ⟨hmask, hstart, hnext, hshift⟩ := byteField_spec h hi
    obtain ⟨-, ⟨⟩⟩ := Option.ite_none_right_eq_some.mp hstep
    refine ⟨?_, by omega, ?_⟩
    · rw [hnext]
      show s'.2 + _ = _
      omega
    · intro k
      show (s'.1 ||| _).getLsbD k = _
      rw [BitVec.getLsbD_or, BitVec.getLsbD_shiftLeft, BitVec.getLsbD_and,
        BitVec.getLsbD_ushiftRight, BitVec.getLsbD_setWidth, hmask, hbits, hnext]
      by_cases hk : k < s'.2
      · simp [hk, show k < fieldStart startBit endBit i - startBit by omega,
          show k < fieldStart startBit endBit i + (byteField startBit endBit i).bits - startBit by
            omega]
      · by_cases hin : k - s'.2 < (byteField startBit endBit i).bits
        · have hbit : bitAt pBuffer (startBit + k) = (pBuffer.getD (startBit / 8 + i) 0).getLsbD
              ((byteField startBit endBit i).srcShift + (k - s'.2)) := by
            have hdiv : (startBit + k) / 8 = startBit / 8 + i := by omega
            have hmod : (startBit + k) % 8 =
                (byteField startBit endBit i).srcShift + (k - s'.2) := by omega
            rw [bitAt, hdiv, hmod]
          simp [hk, hin, hbit, show ¬ k < fieldStart startBit endBit i - startBit by omega,
            show k < fieldStart startBit endBit i + (byteField startBit endBit i).bits - startBit
              by omega, show (byteField startBit endBit i).srcShift + (k - s'.2) < 64 by omega]
        · simp [hin, show ¬ k < fieldStart startBit endBit i - startBit by omega,
            show ¬ k < fieldStart startBit endBit i + (byteField startBit endBit i).bits - startBit
              by omega]

theorem getLoop_some (h : startBit ≤ endBit) (hi : i ≤ numFieldBytes startBit endBit)
    (haccess : CanAccess pBuffer startBit endBit i) :
    ∃ s, (List.range i).foldlM (getByteField pBuffer startBit endBit) (0, 0) = some s := by
  induction i with
  | zero => exact ⟨_, rfl⟩
  | succ i ih =>
    obtain ⟨s, hs⟩ := ih (by omega) fun j hj => haccess j (by omega)
    have hcan : s.2 < 64 ∧ startBit / 8 + i < pBuffer.length := by
      rw [(getLoop h (by omega) hs).1]
      exact haccess i (by omega)
    rw [foldlM_range_succ, hs]
    exact ⟨_, if_pos hcan⟩

/-! ## Exactness -/

theorem ddEventSetBits_spec (h : startBit ≤ endBit) {pBuffer' : List (BitVec 8)}
    (hset : ddEventSetBits pBuffer startBit endBit srcValue = some pBuffer') :
    CanAccess pBuffer startBit endBit (numFieldBytes startBit endBit) ∧
      pBuffer'.length = pBuffer.length ∧
      ∀ n, bitAt pBuffer' n = if startBit ≤ n ∧ n < touchedEnd startBit endBit then
        srcValue.getLsbD (n - startBit) else bitAt pBuffer n := by
  obtain ⟨s, hs, rfl⟩ := Option.map_eq_some_iff.mp hset
  obtain ⟨-, -, hlength, haccess, hbits⟩ := setLoop h (le_refl _) hs
  rw [fieldStart_numFieldBytes] at hbits
  exact ⟨haccess, hlength, hbits⟩

theorem ddEventGetBits_spec (h : startBit ≤ endBit)
    (haccess : CanAccess pBuffer startBit endBit (numFieldBytes startBit endBit)) :
    ∃ value, ddEventGetBits pBuffer startBit endBit = some value ∧
      ∀ k, value.getLsbD k = (decide (k < 64 ∧ k < touchedEnd startBit endBit - startBit) &&
        bitAt pBuffer (startBit + k)) := by
  obtain ⟨s, hs⟩ := getLoop_some h (le_refl _) haccess
  obtain ⟨-, -, hbits⟩ := getLoop h (le_refl _) hs
  rw [fieldStart_numFieldBytes] at hbits
  exact ⟨s.1, Option.map_eq_some_iff.mpr ⟨s, hs, rfl⟩, hbits⟩

/-- Setting a half-open range changes its bits to those of the value and no other, getting reads its
bits and no other, and what was set is what is got. -/
structure Exact (pBuffer : List (BitVec 8)) (startBit endBit : ℕ) (value : BitVec 64) : Prop where
  set : ∃ pBuffer', ddEventSetBits pBuffer startBit endBit value = some pBuffer' ∧
    pBuffer'.length = pBuffer.length ∧ ddEventGetBits pBuffer' startBit endBit = some value ∧
    ∀ n, bitAt pBuffer' n =
      if startBit ≤ n ∧ n < endBit then value.getLsbD (n - startBit) else bitAt pBuffer n
  get : ∃ value', ddEventGetBits pBuffer startBit endBit = some value' ∧
    ∀ k, value'.getLsbD k = (decide (k < endBit - startBit) && bitAt pBuffer (startBit + k))

/-- The functions take the end for a bit of the range, and a range that begins and ends in one byte
for one that goes on to the end of the byte.  The bits that they touch behind the range are in the
buffer and zero, and 64 bits do not begin with a byte. -/
structure ZeroBehind (pBuffer : List (BitVec 8)) (startBit endBit : ℕ) : Prop where
  inside : endBit / 8 < pBuffer.length
  shift : 8 * (endBit / 8) < startBit + 64
  zero : ∀ n, endBit ≤ n → n < touchedEnd startBit endBit → bitAt pBuffer n = false

theorem canAccess_iff (h : startBit < endBit) (hsize : endBit ≤ startBit + 64) :
    CanAccess pBuffer startBit endBit (numFieldBytes startBit endBit) ↔
      endBit / 8 < pBuffer.length ∧ 8 * (endBit / 8) < startBit + 64 := by
  have hpage : startBit / 8 ≤ endBit / 8 := Nat.div_le_div_right h.le
  constructor
  · intro haccess
    obtain ⟨hshift, hindex⟩ := haccess (endBit / 8 - startBit / 8) (Nat.lt_succ_self _)
    refine ⟨by omega, ?_⟩
    unfold fieldStart numFieldBytes at hshift
    split at hshift
    · omega
    · rw [if_neg (by omega)] at hshift
      omega
  · rintro ⟨hindex, hshift⟩ j hj
    unfold numFieldBytes at hj
    refine ⟨?_, by omega⟩
    unfold fieldStart numFieldBytes
    split
    · omega
    · rw [if_neg (by omega)]
      omega

/-- The functions are exact on the ranges behind which they touch only zeros. -/
theorem exact_iff_zeroBehind {value : BitVec 64} (h : startBit < endBit)
    (hsize : endBit ≤ startBit + 64) (hvalue : value.toNat < 2 ^ (endBit - startBit)) :
    Exact pBuffer startBit endBit value ↔ ZeroBehind pBuffer startBit endBit := by
  have hfits : ∀ k, endBit - startBit ≤ k → value.getLsbD k = false := by
    intro k hk
    exact Nat.testBit_lt_two_pow (hvalue.trans_le (Nat.pow_le_pow_right (by decide) hk))
  have hend : endBit ≤ touchedEnd startBit endBit := by
    unfold touchedEnd
    split <;> omega
  constructor
  · rintro ⟨⟨pBuffer', hset, -, -, hexact⟩, -⟩
    obtain ⟨haccess, -, hbits⟩ := ddEventSetBits_spec h.le hset
    obtain ⟨hinside, hshift⟩ := (canAccess_iff h hsize).mp haccess
    refine ⟨hinside, hshift, ?_⟩
    intro n hn htouched
    have hsame := (hexact n).symm.trans (hbits n)
    rw [if_neg (by omega), if_pos (by omega), hfits _ (by omega)] at hsame
    exact hsame
  · rintro ⟨hinside, hshift, hzero⟩
    have haccess := (canAccess_iff h hsize).mpr ⟨hinside, hshift⟩
    obtain ⟨s, hs⟩ := setLoop_some value h.le (le_refl _) haccess
    have hset : ddEventSetBits pBuffer startBit endBit value = some s.1 :=
      Option.map_eq_some_iff.mpr ⟨s, hs, rfl⟩
    obtain ⟨-, hlength, hbits⟩ := ddEventSetBits_spec h.le hset
    refine ⟨⟨s.1, hset, hlength, ?_, ?_⟩, ?_⟩
    · have haccess' : CanAccess s.1 startBit endBit (numFieldBytes startBit endBit) := by
        unfold CanAccess
        rw [hlength]
        exact haccess
      obtain ⟨value', hget, hgot⟩ := ddEventGetBits_spec h.le haccess'
      rw [hget, Option.some.injEq]
      apply BitVec.eq_of_getLsbD_eq
      intro k hk
      rw [hgot, hbits]
      by_cases htouched : k < touchedEnd startBit endBit - startBit
      · rw [if_pos (by omega), Nat.add_sub_cancel_left]
        simp [hk, htouched]
      · rw [hfits k (by omega)]
        simp [htouched]
    · intro n
      rw [hbits]
      by_cases hin : startBit ≤ n ∧ n < endBit
      · rw [if_pos hin, if_pos (by omega)]
      · rw [if_neg hin]
        split
        · rw [hfits _ (by omega), hzero n (by omega) (by omega)]
        · rfl
    · obtain ⟨value', hget, hgot⟩ := ddEventGetBits_spec h.le haccess
      refine ⟨value', hget, ?_⟩
      intro k
      rw [hgot]
      by_cases hin : k < endBit - startBit
      · simp [hin, show k < 64 by omega, show k < touchedEnd startBit endBit - startBit by omega]
      · by_cases htouched : k < touchedEnd startBit endBit - startBit
        · rw [hzero (startBit + k) (by omega) (by omega), Bool.and_false, Bool.and_false]
        · simp [hin, htouched]

theorem exact_iff_zeroBehind_three : Exact [0, 0] 3 7 5 :=
  (exact_iff_zeroBehind (by decide) (by decide) (by decide)).mpr
    ⟨by decide, by decide, fun n hn htouched => by
      have hseven : n = 7 := Nat.le_antisymm (Nat.le_of_lt_succ htouched) hn
      rw [hseven]
      decide⟩

theorem not_exact : ¬ ∀ (pBuffer : List (BitVec 8)) (startBit endBit : ℕ) (value : BitVec 64),
    startBit < endBit → endBit ≤ startBit + 64 → endBit ≤ 8 * pBuffer.length →
    value.toNat < 2 ^ (endBit - startBit) → Exact pBuffer startBit endBit value := by
  intro hall
  obtain ⟨⟨pBuffer', hset, -, -, hbits⟩, -⟩ :=
    hall [0xFF] 0 1 0 (by decide) (by decide) (by decide) (by decide)
  have hresult : ddEventSetBits [0xFF] 0 1 0 = some [0] := by decide
  rw [hresult] at hset
  cases hset
  exact absurd (hbits 1) (by decide)

end EventBits

end DevDriver.Analysis
