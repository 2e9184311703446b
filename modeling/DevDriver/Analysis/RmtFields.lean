import DevDriver.Model.RmtCommon

/-!
# What `SetBits` writes and `GetBits` reads

The first byte of a field takes all of its bits from the field's first one on.  That is one bit too
many or more where the field ends in its first byte, before the byte does: `SetBits` clears the
bits between the field and the end of the byte, and `GetBits` takes them for a part of the value.
-/

namespace DevDriver.Analysis

open Library Model RmtTokenData

variable {srcVal : BitVec 64} {endBit startBit i j n totalBitsCopied : ℕ} {d : RmtTokenData}
  {bytes : List (BitVec 8)}

theorem getLsbD_mask (b i : ℕ) (hi : i < 64) :
    (BitVec.ofNat 64 (2 ^ b - 1)).getLsbD i = decide (i < b) := by
  rw [BitVec.getLsbD_ofNat, Nat.testBit_two_pow_sub_one, decide_eq_true hi, Bool.true_and]

theorem getLsbD_setByte {bits shift : ℕ} (hfits : shift + bits ≤ 8) (dstByte : BitVec 8)
    (hj : j < 8) :
    (setByte srcVal totalBitsCopied ⟨.ofNat 64 (2 ^ bits - 1), shift, bits⟩ dstByte).getLsbD j =
      if shift ≤ j ∧ j < shift + bits then srcVal.getLsbD (totalBitsCopied + (j - shift))
      else dstByte.getLsbD j := by
  have hmask := getLsbD_mask bits (j - shift) (by omega)
  simp only [setByte, BitVec.getLsbD_or, BitVec.getLsbD_and, BitVec.getLsbD_not,
    BitVec.getLsbD_setWidth, BitVec.getLsbD_shiftLeft, BitVec.getLsbD_ushiftRight, hmask]
  by_cases hlow : shift ≤ j
  · by_cases hhigh : j < shift + bits
    · simp [hlow, hhigh, hj, show j < 64 by omega, show j - shift < 8 by omega,
        show j - shift < bits by omega, show ¬ j < shift by omega]
    · simp [hlow, hhigh, hj, show j < 64 by omega, show ¬ j - shift < bits by omega]
  · simp [hlow, hj, show j < 64 by omega, show j < shift by omega]

theorem getLsbD_getByte {bits shift : ℕ} (hfits : shift + bits ≤ 8) (srcByte : BitVec 8)
    (j : ℕ) :
    (getByte ⟨.ofNat 64 (2 ^ bits - 1), shift, bits⟩ srcByte).getLsbD j =
      (decide (j < bits) && srcByte.getLsbD (shift + j)) := by
  simp only [getByte, BitVec.getLsbD_setWidth, BitVec.getLsbD_and, BitVec.getLsbD_ushiftRight]
  by_cases hj : j < bits
  · simp [getLsbD_mask bits j (by omega), hj, show j < 64 by omega, show j < 32 by omega,
      show shift + j < 32 by omega]
  · by_cases hsmall : j < 64
    · simp [getLsbD_mask bits j hsmall, hj]
    · simp [hj, hsmall]

/-- The last bit that is written or read: that of the field, or of its byte if it has only one. -/
def reach (endBit startBit : ℕ) : ℕ :=
  if startBit / 8 = endBit / 8 then startBit / 8 * 8 + 7 else endBit

def firstBit (startBit i : ℕ) : ℕ := max startBit (8 * (startBit / 8 + i))

theorem firstBit_succ (startBit i : ℕ) :
    firstBit startBit (i + 1) = 8 * (startBit / 8 + i + 1) := by
  unfold firstBit
  omega

theorem byteField_eq (hi : i < numBytes endBit startBit) :
    ∃ bits shift, byteField endBit startBit i = ⟨.ofNat 64 (2 ^ bits - 1), shift, bits⟩ ∧
      shift + bits ≤ 8 ∧ firstBit startBit i = 8 * (startBit / 8 + i) + shift ∧
      (∀ j < 8, shift ≤ j ∧ j < shift + bits ↔
        firstBit startBit i ≤ 8 * (startBit / 8 + i) + j ∧
          8 * (startBit / 8 + i) + j ≤ reach endBit startBit) ∧
      (i + 1 < numBytes endBit startBit →
        firstBit startBit (i + 1) = firstBit startBit i + bits) := by
  unfold numBytes at hi
  unfold byteField
  split
  · rename_i hzero
    subst hzero
    refine ⟨8 - startBit % 8, 8 - (8 - startBit % 8), rfl, ?_⟩
    unfold firstBit reach numBytes
    refine ⟨by omega, by omega, ?_, by omega⟩
    intro j hj
    split <;> omega
  rename_i hfirst
  split
  · rename_i hlast
    refine ⟨endBit % 8 + 1, 0, rfl, ?_⟩
    unfold numBytes at hlast
    unfold firstBit reach numBytes
    refine ⟨by omega, by omega, ?_, by omega⟩
    intro j hj
    rw [if_neg (by omega)]
    omega
  · rename_i hlast
    refine ⟨8, 0, rfl, ?_⟩
    unfold numBytes at hlast
    unfold firstBit reach numBytes
    refine ⟨by omega, by omega, ?_, by omega⟩
    intro j hj
    rw [if_neg (by omega)]
    omega

/-! ## The loops -/

theorem bitAt_setBitsLoop (hn : i + n = numBytes endBit startBit)
    (htotal : 0 < n → totalBitsCopied = firstBit startBit i - startBit)
    (hlength : startBit / 8 + numBytes endBit startBit ≤ bytes.length) (k : ℕ) :
    bitAt (setBitsLoop srcVal endBit startBit n i totalBitsCopied bytes) k =
      if firstBit startBit i ≤ k ∧ k ≤ reach endBit startBit then srcVal.getLsbD (k - startBit)
      else bitAt bytes k := by
  induction n generalizing i totalBitsCopied bytes with
  | zero =>
    have hend : ¬ (firstBit startBit i ≤ k ∧ k ≤ reach endBit startBit) := by
      unfold numBytes at hn
      unfold firstBit reach
      split <;> omega
    rw [setBitsLoop, if_neg hend]
  | succ n ih =>
    have hi : i < numBytes endBit startBit := by omega
    have hindex : startBit / 8 + i < bytes.length := by omega
    obtain ⟨bits, shift, hfield, hfits, hfirst, hmem, hnext⟩ := byteField_eq hi
    rw [setBitsLoop, ih (by omega) _ (by rwa [List.length_set])]
    · rw [hfield, bitAt_set hindex, firstBit_succ]
      by_cases hk : k / 8 = startBit / 8 + i
      · have hplace : 8 * (startBit / 8 + i) + k % 8 = k := by omega
        have hbit := hmem (k % 8) (by omega)
        rw [hplace] at hbit
        rw [if_neg (by omega), if_pos hk, getLsbD_setByte hfits _ (by omega),
          htotal (Nat.succ_pos n)]
        by_cases hin : firstBit startBit i ≤ k ∧ k ≤ reach endBit startBit
        · have hstart : startBit ≤ firstBit startBit i := le_max_left _ _
          rw [if_pos hin, if_pos (hbit.mpr hin)]
          congr 1
          omega
        · rw [if_neg hin, if_neg (hin ∘ hbit.mp), ← hk]
          rfl
      · rw [if_neg hk]
        have hsame : 8 * (startBit / 8 + i + 1) ≤ k ↔ firstBit startBit i ≤ k := by
          omega
        simp only [hsame]
    · intro hpos
      rw [htotal (Nat.succ_pos n), hnext (by omega), hfield]
      have hstart : startBit ≤ firstBit startBit i := le_max_left _ _
      dsimp only
      omega

def readBit (endBit startBit : ℕ) (bytes : List (BitVec 8)) (j : ℕ) : Bool :=
  decide (startBit + j ≤ reach endBit startBit) && bitAt bytes (startBit + j)

theorem getLsbD_getBitsLoop {dstVal : BitVec 64} (hn : i + n = numBytes endBit startBit)
    (htotal : 0 < n → totalBitsCopied = firstBit startBit i - startBit)
    (hdone : ∀ j < 64, dstVal.getLsbD j =
      (decide (startBit + j < firstBit startBit i) && readBit endBit startBit bytes j))
    (hj : j < 64) :
    (getBitsLoop endBit startBit bytes n i totalBitsCopied dstVal).getLsbD j =
      readBit endBit startBit bytes j := by
  induction n generalizing i totalBitsCopied dstVal with
  | zero =>
    rw [getBitsLoop, hdone j hj]
    by_cases hread : startBit + j ≤ reach endBit startBit
    · have hbefore : startBit + j < firstBit startBit i := by
        unfold numBytes at hn
        unfold reach at hread
        unfold firstBit
        split at hread <;> omega
      rw [decide_eq_true hbefore, Bool.true_and]
    · rw [readBit, decide_eq_false hread, Bool.false_and, Bool.and_false]
  | succ n ih =>
    have hi : i < numBytes endBit startBit := by omega
    obtain ⟨bits, shift, hfield, hfits, hfirst, hmem, hnext⟩ := byteField_eq hi
    have hstart : startBit ≤ firstBit startBit i := le_max_left _ _
    rw [getBitsLoop]
    apply ih (by omega)
    · intro hpos
      rw [htotal (Nat.succ_pos n), hnext (by omega), hfield]
      dsimp only
      omega
    · intro j hj
      rw [hfield, BitVec.getLsbD_or, hdone j hj, BitVec.getLsbD_shiftLeft, getLsbD_getByte hfits,
        htotal (Nat.succ_pos n), firstBit_succ, decide_eq_true hj, Bool.true_and]
      by_cases hdone : startBit + j < firstBit startBit i
      · have hbefore : j < firstBit startBit i - startBit := by omega
        have hbelow : startBit + j < 8 * (startBit / 8 + i + 1) := by omega
        rw [decide_eq_true hdone, decide_eq_true hbefore, decide_eq_true hbelow, Bool.true_and,
          Bool.not_true, Bool.false_and, Bool.or_false]
      · have hbefore : ¬ j < firstBit startBit i - startBit := by omega
        rw [decide_eq_false hdone, decide_eq_false hbefore, Bool.false_and, Bool.false_or,
          Bool.not_false, Bool.true_and]
        by_cases hbelow : startBit + j < 8 * (startBit / 8 + i + 1)
        · have hindex : (startBit + j) / 8 = startBit / 8 + i := by omega
          have hplace : shift + (j - (firstBit startBit i - startBit)) = (startBit + j) % 8 := by
            omega
          have hin : j - (firstBit startBit i - startBit) < bits ↔
              startBit + j ≤ reach endBit startBit := by
            have hbit := hmem ((startBit + j) % 8) (by omega)
            rw [show 8 * (startBit / 8 + i) + (startBit + j) % 8 = startBit + j by omega] at hbit
            omega
          rw [decide_eq_true hbelow, Bool.true_and, readBit, bitAt, hindex, hplace]
          simp only [hin]
        · have hout : ¬ j - (firstBit startBit i - startBit) < bits := by omega
          rw [decide_eq_false hout, decide_eq_false hbelow, Bool.false_and, Bool.false_and]

/-! ## The accessors -/

/-- The field lies in the token and has at most 64 bits. -/
structure FieldOf (endBit startBit : ℕ) (d : RmtTokenData) : Prop where
  start_le : startBit ≤ endBit
  width : endBit - startBit < 64
  inside : endBit < 8 * d.sizeInBytes

theorem bitAt_setBits (srcVal : BitVec 64)
    (hinside : startBit / 8 + numBytes endBit startBit ≤ d.sizeInBytes) (k : ℕ) :
    bitAt (d.setBits srcVal endBit startBit).pByteData k =
      if startBit ≤ k ∧ k ≤ reach endBit startBit then srcVal.getLsbD (k - startBit)
      else bitAt d.pByteData k := by
  have hfirst : firstBit startBit 0 = startBit := by
    unfold firstBit
    omega
  rw [setBits, if_pos hinside]
  rw [bitAt_setBitsLoop (Nat.zero_add _) _ (hinside.trans d.size_le), hfirst]
  intro _
  omega

theorem getBits_eq (hinside : startBit / 8 + numBytes endBit startBit ≤ d.sizeInBytes) :
    ∃ dstVal, d.getBits endBit startBit = some dstVal ∧
      ∀ j < 64, dstVal.getLsbD j = readBit endBit startBit d.pByteData j := by
  have hfirst : firstBit startBit 0 = startBit := by
    unfold firstBit
    omega
  rw [getBits, if_pos hinside]
  refine ⟨_, rfl, fun j hj => getLsbD_getBitsLoop (Nat.zero_add _) (by omega) ?_ hj⟩
  intro j _
  rw [hfirst, decide_eq_false (by omega), Bool.false_and]
  exact BitVec.getLsbD_zero

theorem FieldOf.inside_bytes (h : FieldOf endBit startBit d) :
    startBit / 8 + numBytes endBit startBit ≤ d.sizeInBytes := by
  have hstart := h.start_le
  have hinside := h.inside
  unfold numBytes
  omega

theorem FieldOf.le_reach (h : FieldOf endBit startBit d) : endBit ≤ reach endBit startBit := by
  have hstart := h.start_le
  unfold reach
  split <;> omega

/-- The value has no bit outside the field. -/
def FitsField (srcVal : BitVec 64) (endBit startBit : ℕ) : Prop :=
  srcVal.toNat < 2 ^ (endBit + 1 - startBit)

instance (srcVal : BitVec 64) (endBit startBit : ℕ) :
    Decidable (FitsField srcVal endBit startBit) :=
  inferInstanceAs (Decidable (_ < _))

theorem FitsField.getLsbD (h : FitsField srcVal endBit startBit) (hj : endBit < startBit + j) :
    srcVal.getLsbD j = false := by
  apply Nat.testBit_lt_two_pow
  exact Nat.lt_of_lt_of_le h (Nat.pow_le_pow_right (by omega) (by omega))

/-- `SetBits` changes the bits of the field and no others, so that no other field is disturbed, and
`GetBits` reads these. -/
structure ExactAccess (srcVal : BitVec 64) (endBit startBit : ℕ) (d : RmtTokenData) : Prop where
  sets : ∀ k, bitAt (d.setBits srcVal endBit startBit).pByteData k =
    if startBit ≤ k ∧ k ≤ endBit then srcVal.getLsbD (k - startBit) else bitAt d.pByteData k
  others : ∀ start len, start + len ≤ startBit ∨ endBit < start →
    bitsOf (d.setBits srcVal endBit startBit).pByteData start len = bitsOf d.pByteData start len
  gets : d.getBits endBit startBit =
    some (.ofNat 64 (bitsOf d.pByteData startBit (endBit + 1 - startBit)))
  getsBack : (d.setBits srcVal endBit startBit).getBits endBit startBit = some srcVal

/-- No bit is set between the field and the end of its byte, if it has only one. -/
def ClearAbove (endBit startBit : ℕ) (d : RmtTokenData) : Prop :=
  ∀ k ≤ reach endBit startBit, endBit < k → bitAt d.pByteData k = false

theorem sets_iff (h : FieldOf endBit startBit d) (hfits : FitsField srcVal endBit startBit) :
    (∀ k, bitAt (d.setBits srcVal endBit startBit).pByteData k =
      if startBit ≤ k ∧ k ≤ endBit then srcVal.getLsbD (k - startBit)
      else bitAt d.pByteData k) ↔ ClearAbove endBit startBit d := by
  have hstart := h.start_le
  have hreach := h.le_reach
  constructor
  · intro hsets k hk hend
    have hbit := bitAt_setBits srcVal h.inside_bytes k
    rw [hsets k, if_neg (by omega), if_pos ⟨by omega, hk⟩, hfits.getLsbD (by omega)] at hbit
    exact hbit
  · intro hclear k
    rw [bitAt_setBits _ h.inside_bytes]
    by_cases hin : startBit ≤ k ∧ k ≤ endBit
    · rw [if_pos hin, if_pos ⟨hin.1, hin.2.trans hreach⟩]
    · rw [if_neg hin]
      split
      · rename_i hwritten
        rw [hclear k hwritten.2 (by omega), hfits.getLsbD (by omega)]
      · rfl

theorem gets_iff (h : FieldOf endBit startBit d) :
    d.getBits endBit startBit =
      some (.ofNat 64 (bitsOf d.pByteData startBit (endBit + 1 - startBit))) ↔
    ClearAbove endBit startBit d := by
  have hstart := h.start_le
  have hreach := h.le_reach
  obtain ⟨dstVal, hget, hbits⟩ := getBits_eq h.inside_bytes
  have hspec : ∀ j < 64, (BitVec.ofNat 64 (bitsOf d.pByteData startBit
      (endBit + 1 - startBit))).getLsbD j =
        (decide (startBit + j ≤ endBit) && bitAt d.pByteData (startBit + j)) := by
    intro j hj
    rw [BitVec.getLsbD_ofNat, decide_eq_true hj, Bool.true_and, testBit_bitsOf]
    congr 2
    simp only [eq_iff_iff]
    omega
  rw [hget]
  constructor
  · intro heq k hk hend
    have hj : k - startBit < 64 := by
      unfold reach at hk
      split at hk <;> omega
    have hbit := hbits (k - startBit) hj
    rw [Option.some.inj heq, hspec _ hj, readBit] at hbit
    rw [show startBit + (k - startBit) = k by omega, decide_eq_true hk,
      decide_eq_false (by omega), Bool.false_and, Bool.true_and] at hbit
    exact hbit.symm
  · intro hclear
    congr 1
    apply BitVec.eq_of_getLsbD_eq
    intro j hj
    rw [hbits j hj, hspec j hj, readBit]
    by_cases hend : startBit + j ≤ endBit
    · rw [decide_eq_true hend, decide_eq_true (hend.trans hreach)]
    · rw [decide_eq_false hend, Bool.false_and]
      by_cases hread : startBit + j ≤ reach endBit startBit
      · rw [hclear _ hread (by omega), Bool.and_false]
      · rw [decide_eq_false hread, Bool.false_and]

theorem getBits_setBits (h : FieldOf endBit startBit d) (hfits : FitsField srcVal endBit startBit) :
    (d.setBits srcVal endBit startBit).getBits endBit startBit = some srcVal := by
  have hsize : (d.setBits srcVal endBit startBit).sizeInBytes = d.sizeInBytes := by
    unfold setBits
    split <;> rfl
  obtain ⟨dstVal, hget, hbits⟩ := getBits_eq (d := d.setBits srcVal endBit startBit)
    (h.inside_bytes.trans_eq hsize.symm)
  rw [hget]
  congr 1
  apply BitVec.eq_of_getLsbD_eq
  intro j hj
  rw [hbits j hj, readBit, bitAt_setBits _ h.inside_bytes]
  by_cases hread : startBit + j ≤ reach endBit startBit
  · rw [decide_eq_true hread, Bool.true_and, if_pos ⟨by omega, hread⟩, Nat.add_sub_cancel_left]
  · have hreach := h.le_reach
    rw [decide_eq_false hread, Bool.false_and, hfits.getLsbD (by omega)]

/-- A field is written and read exactly, if and only if no bit is set between it and the end of the
byte that it lies in, where it lies in one. -/
theorem bit_access_exact_iff (srcVal : BitVec 64) (endBit startBit : ℕ) (d : RmtTokenData)
    (hfield : FieldOf endBit startBit d) (hfits : FitsField srcVal endBit startBit) :
    ExactAccess srcVal endBit startBit d ↔ ClearAbove endBit startBit d := by
  constructor
  · intro h
    exact (gets_iff hfield).mp h.gets
  · intro hclear
    have hsets := (sets_iff hfield hfits).mpr hclear
    refine ⟨hsets, ?_, (gets_iff hfield).mpr hclear, getBits_setBits hfield hfits⟩
    intro start len hdisjoint
    unfold bitsOf
    congr 1
    funext j
    rw [hsets, if_neg (by omega)]

def fullToken : RmtTokenData where
  pByteData := [0xFF, 0xFF, 0xFF, 0xFF]
  sizeInBytes := 4
  size_le := (by decide : 4 ≤ 3 + 1)
  size_lt := (by decide : 4 < 4294967296)

theorem bit_access_exact_iff_bytes :
    ExactAccess 0x1A5 20 6 fullToken ↔ ClearAbove 20 6 fullToken :=
  bit_access_exact_iff 0x1A5 20 6 fullToken ⟨by decide, by decide, by decide⟩ (by decide)

/-- The bits 4, …, 7 are cleared with the bits 0, …, 3. -/
theorem bit_access_exact_not : ¬ ∀ (srcVal : BitVec 64) (endBit startBit : ℕ) (d : RmtTokenData),
    FieldOf endBit startBit d → FitsField srcVal endBit startBit →
      ExactAccess srcVal endBit startBit d := by
  intro hall
  have hexact := hall 5 3 0 fullToken ⟨by decide, by decide, by decide⟩ (by decide)
  exact absurd (hexact.sets 4) (by decide)

end DevDriver.Analysis
