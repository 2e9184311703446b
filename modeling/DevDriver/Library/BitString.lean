import Mathlib.Data.Nat.Bitwise
import DevDriver.Library.Buffer
import Mathlib.Data.List.GetD

/-!
# The bits of a string of words

A string of words of the same width is read as a string of bits, the lowest bit of the first word
first.
-/

namespace DevDriver.Library

variable {w : ℕ}

/-- The bit of the given number. -/
def bitAt (words : List (BitVec w)) (i : ℕ) : Bool := (words.getD (i / w) 0).getLsbD (i % w)

variable {words : List (BitVec w)}

theorem bitAt_of_le {i : ℕ} (hw : 0 < w) (h : w * words.length ≤ i) : bitAt words i = false := by
  have hindex : words.length ≤ i / w := (Nat.le_div_iff_mul_le hw).mpr (by rwa [Nat.mul_comm] at h)
  rw [bitAt, List.getD_eq_default _ _ hindex]
  exact BitVec.getLsbD_zero

theorem bitAt_set {index : ℕ} (h : index < words.length) (word : BitVec w) (i : ℕ) :
    bitAt (words.set index word) i =
      if i / w = index then word.getLsbD (i % w) else bitAt words i := by
  unfold bitAt
  split
  · rename_i heq
    rw [heq, List.getD_eq_getElem _ _ (by simpa using h), List.getElem_set_self]
  · rename_i hne
    rw [List.getD_eq_getElem?_getD, List.getElem?_set_ne (Ne.symm hne),
      ← List.getD_eq_getElem?_getD]

theorem getElem?_overwrite {α : Type} {buffer data : List α} {offset : ℕ}
    (h : offset + data.length ≤ buffer.length) (k : ℕ) :
    (overwrite buffer offset data)[k]? =
      if offset ≤ k ∧ k < offset + data.length then data[k - offset]? else buffer[k]? := by
  have htake : (buffer.take offset).length = offset := by
    rw [List.length_take]
    omega
  rw [overwrite, List.getElem?_append, List.getElem?_append, List.length_append, htake]
  by_cases hbefore : k < offset
  · rw [if_pos (by omega), if_pos hbefore, if_neg (by omega), List.getElem?_take_of_lt hbefore]
  · by_cases hin : k < offset + data.length
    · rw [if_pos hin, if_neg hbefore, if_pos ⟨by omega, hin⟩]
    · rw [if_neg hin, if_neg (by omega), List.getElem?_drop]
      congr 1
      omega

theorem bitAt_take (words : List (BitVec w)) {n i : ℕ} (hi : i < w * n) :
    bitAt (words.take n) i = bitAt words i := by
  rw [bitAt, bitAt, List.getD_eq_getElem?_getD,
    List.getElem?_take_of_lt (Nat.div_lt_of_lt_mul hi), ← List.getD_eq_getElem?_getD]

theorem bitAt_append (words words' : List (BitVec w)) (hw : 0 < w) (i : ℕ) :
    bitAt (words ++ words') i =
      if i < w * words.length then bitAt words i else bitAt words' (i - w * words.length) := by
  unfold bitAt
  split
  · rename_i hi
    rw [List.getD_append _ _ _ _ (Nat.div_lt_of_lt_mul hi)]
  · rename_i hi
    have hindex : words.length ≤ i / w := by
      rw [Nat.le_div_iff_mul_le hw, Nat.mul_comm]
      omega
    rw [List.getD_append_right _ _ _ _ hindex, Nat.sub_mul_div, Nat.sub_mul_mod (by omega)]

theorem bitAt_replicate (n : ℕ) (word : BitVec w) (i : ℕ) (hw : 0 < w) :
    bitAt (.replicate n word) i = (decide (i < w * n) && word.getLsbD (i % w)) := by
  have hindex : i / w < n ↔ i < w * n := by rw [Nat.div_lt_iff_lt_mul hw, Nat.mul_comm]
  rw [bitAt, List.getD_eq_getElem?_getD, List.getElem?_replicate]
  by_cases hi : i < w * n
  · rw [if_pos (hindex.mpr hi), decide_eq_true hi, Bool.true_and]
    rfl
  · rw [if_neg (mt hindex.mp hi), decide_eq_false hi, Bool.false_and]
    exact BitVec.getLsbD_zero

theorem bitAt_replicate_zero (n i : ℕ) (hw : 0 < w) :
    bitAt (.replicate n (0 : BitVec w)) i = false := by
  have hzero : (0 : BitVec w).getLsbD (i % w) = false := BitVec.getLsbD_zero
  rw [bitAt_replicate n 0 i hw, hzero, Bool.and_false]

theorem bitAt_overwrite {data : List (BitVec w)} {offset : ℕ} (hw : 0 < w)
    (h : offset + data.length ≤ words.length) (i : ℕ) :
    bitAt (overwrite words offset data) i =
      if w * offset ≤ i ∧ i < w * (offset + data.length) then bitAt data (i - w * offset)
      else bitAt words i := by
  have hlow : offset ≤ i / w ↔ w * offset ≤ i := by
    rw [Nat.le_div_iff_mul_le hw, Nat.mul_comm]
  have hhigh : i / w < offset + data.length ↔ i < w * (offset + data.length) := by
    rw [Nat.div_lt_iff_lt_mul hw, Nat.mul_comm]
  unfold bitAt
  rw [List.getD_eq_getElem?_getD, getElem?_overwrite h]
  simp only [hlow, hhigh]
  split
  · rename_i hin
    rw [Nat.sub_mul_div, Nat.sub_mul_mod hin.1, List.getD_eq_getElem?_getD]
  · rw [List.getD_eq_getElem?_getD]

theorem eq_of_bitAt {words' : List (BitVec w)} (hlength : words.length = words'.length)
    (h : ∀ i < w * words.length, bitAt words i = bitAt words' i) : words = words' := by
  apply List.ext_getElem hlength
  intro index hindex hindex'
  apply BitVec.eq_of_getLsbD_eq
  intro j hj
  have hlt : w * index + j < w * words.length := by
    calc w * index + j < w * (index + 1) := by rw [Nat.mul_succ]; omega
      _ ≤ w * words.length := Nat.mul_le_mul_left w hindex
  have hbit := h _ hlt
  have hdiv : (w * index + j) / w = index := by
    rw [Nat.mul_add_div (by omega), Nat.div_eq_of_lt hj, Nat.add_zero]
  have hmod : (w * index + j) % w = j := by
    rw [Nat.mul_add_mod, Nat.mod_eq_of_lt hj]
  rw [bitAt, bitAt, hdiv, hmod, List.getD_eq_getElem _ _ hindex,
    List.getD_eq_getElem _ _ hindex'] at hbit
  exact hbit

/-- The number that `len` bits from `start` on make up. -/
def bitsOf (words : List (BitVec w)) (start len : ℕ) : ℕ :=
  Nat.ofBits fun j : Fin len => bitAt words (start + j)

theorem testBit_bitsOf (words : List (BitVec w)) (start len j : ℕ) :
    (bitsOf words start len).testBit j = (decide (j < len) && bitAt words (start + j)) := by
  rw [bitsOf, Nat.testBit_ofBits]
  split
  · rename_i hj
    rw [decide_eq_true hj, Bool.true_and]
  · rename_i hj
    rw [decide_eq_false hj, Bool.false_and]

theorem bitsOf_lt (words : List (BitVec w)) (start len : ℕ) : bitsOf words start len < 2 ^ len :=
  Nat.ofBits_lt_two_pow _

theorem bitsOf_eq_iff {start len v : ℕ} (hv : v < 2 ^ len) :
    bitsOf words start len = v ↔ ∀ j < len, bitAt words (start + j) = v.testBit j := by
  constructor
  · rintro rfl j hj
    rw [testBit_bitsOf, decide_eq_true hj, Bool.true_and]
  · intro h
    apply Nat.eq_of_testBit_eq
    intro j
    rw [testBit_bitsOf]
    by_cases hj : j < len
    · rw [decide_eq_true hj, Bool.true_and, h j hj]
    · have hlarge : v < 2 ^ j := Nat.lt_of_lt_of_le hv (Nat.pow_le_pow_right (by omega) (by omega))
      rw [decide_eq_false hj, Bool.false_and, Nat.testBit_lt_two_pow hlarge]

section Bytes

variable {m : ℕ}

/-- A byte of the memory that the words are in is written. -/
def setByteAt (words : List (BitVec (8 * m))) (k : ℕ) (byte : BitVec 8) :
    List (BitVec (8 * m)) :=
  let mask := (BitVec.allOnes 8).setWidth (8 * m) <<< (8 * (k % m))
  words.set (k / m)
    ((words.getD (k / m) 0 &&& ~~~mask) ||| byte.setWidth (8 * m) <<< (8 * (k % m)))

/-- Bytes are written one after the other. -/
def setBytesAt : List (BitVec (8 * m)) → ℕ → List (BitVec 8) → List (BitVec (8 * m))
  | words, _, [] => words
  | words, k, byte :: bytes => setBytesAt (setByteAt words k byte) (k + 1) bytes

@[simp] theorem length_setByteAt (words : List (BitVec (8 * m))) (k : ℕ) (byte : BitVec 8) :
    (setByteAt words k byte).length = words.length := List.length_set

@[simp] theorem length_setBytesAt (words : List (BitVec (8 * m))) (k : ℕ)
    (bytes : List (BitVec 8)) : (setBytesAt words k bytes).length = words.length := by
  induction bytes generalizing words k with
  | nil => rfl
  | cons byte bytes ih => rw [setBytesAt, ih, length_setByteAt]

theorem bitAt_setByteAt {words : List (BitVec (8 * m))} {k : ℕ} (hk : k < m * words.length)
    (byte : BitVec 8) (i : ℕ) :
    bitAt (setByteAt words k byte) i =
      if i / 8 = k then byte.getLsbD (i % 8) else bitAt words i := by
  have hm : 0 < m := Nat.pos_of_mul_pos_right (Nat.lt_of_le_of_lt (Nat.zero_le k) hk)
  rw [setByteAt, bitAt_set (Nat.div_lt_of_lt_mul hk)]
  have hindex : i / (8 * m) = i / 8 / m := (Nat.div_div_eq_div_mul i 8 m).symm
  have hplace : i % (8 * m) = 8 * (i / 8 % m) + i % 8 := by
    rw [Nat.mod_mul]
    omega
  by_cases hword : i / (8 * m) = k / m
  · have hlt : i % (8 * m) < 8 * m := Nat.mod_lt _ (by omega)
    rw [if_pos hword, bitAt, hword]
    simp only [BitVec.getLsbD_or, BitVec.getLsbD_and, BitVec.getLsbD_not, BitVec.getLsbD_shiftLeft,
      BitVec.getLsbD_setWidth, BitVec.getLsbD_allOnes, decide_eq_true hlt, Bool.true_and]
    by_cases hbyte : i / 8 = k
    · have hsub : i % (8 * m) - 8 * (k % m) = i % 8 := by
        rw [hplace, hbyte, Nat.add_sub_cancel_left]
      have hbehind : ¬i % (8 * m) < 8 * (k % m) := by
        rw [hplace, hbyte]
        omega
      have hmod : i % 8 < 8 := Nat.mod_lt _ (by decide)
      rw [if_pos hbyte, hsub]
      simp [hbehind, hmod, Nat.lt_of_lt_of_le hmod (Nat.le_mul_of_pos_right 8 hm)]
    · have hother : i / 8 % m ≠ k % m := by
        intro heq
        apply hbyte
        rw [← Nat.div_add_mod (i / 8) m, ← Nat.div_add_mod k m, ← hindex, hword, heq]
      have houtside : i % (8 * m) < 8 * (k % m) ∨ ¬i % (8 * m) - 8 * (k % m) < 8 := by omega
      rw [if_neg hbyte]
      obtain hin | hin := houtside
      · simp [hin]
      · have hclear : byte.getLsbD (i % (8 * m) - 8 * (k % m)) = false :=
          BitVec.getLsbD_of_ge _ _ (by omega)
        simp [hin, hclear]
  · have hbyte : i / 8 ≠ k := by
      rintro rfl
      exact hword hindex
    rw [if_neg hword, if_neg hbyte]

theorem bitAt_setBytesAt {words : List (BitVec (8 * m))} {k : ℕ} {bytes : List (BitVec 8)}
    (hk : k + bytes.length ≤ m * words.length) (i : ℕ) :
    bitAt (setBytesAt words k bytes) i =
      if 8 * k ≤ i ∧ i < 8 * (k + bytes.length) then bitAt bytes (i - 8 * k)
      else bitAt words i := by
  induction bytes generalizing words k with
  | nil => rw [setBytesAt, if_neg (by simp)]
  | cons byte bytes ih =>
    rw [List.length_cons] at hk
    rw [setBytesAt, ih (by rw [length_setByteAt]; omega), bitAt_setByteAt (by omega),
      List.length_cons]
    by_cases hfirst : i / 8 = k
    · have hplace : i - 8 * k = i % 8 := by omega
      rw [if_neg (by omega), if_pos hfirst, if_pos (by omega), hplace, bitAt,
        Nat.div_eq_of_lt (Nat.mod_lt i (by decide)), Nat.mod_mod]
      rfl
    · rw [if_neg hfirst]
      by_cases hin : 8 * (k + 1) ≤ i ∧ i < 8 * (k + 1 + bytes.length)
      · have hdiv : (i - 8 * k) / 8 = (i - 8 * (k + 1)) / 8 + 1 := by omega
        have hmod : (i - 8 * k) % 8 = (i - 8 * (k + 1)) % 8 := by omega
        rw [if_pos hin, if_pos (by omega), bitAt, bitAt, hdiv, hmod, List.getD_cons_succ]
      · rw [if_neg hin, if_neg (by omega)]

end Bytes

/-! ## Fields of a word

A field of a word is the number that a range of its bits makes up.  Masks and shifts take a field
out of a word, and a word that was put together from its fields gives each of them back. -/

/-- The field of `len` bits from the bit `start` on. -/
def bitField (n start len : ℕ) : ℕ := n / 2 ^ start % 2 ^ len

/-- A mask over the field, shifted down. -/
theorem and_shiftRight_eq_bitField (n start len mask : ℕ)
    (hmask : mask >>> start = 2 ^ len - 1) : (n &&& mask) >>> start = bitField n start len := by
  rw [Nat.shiftRight_and_distrib, hmask, Nat.and_two_pow_sub_one_eq_mod, Nat.shiftRight_eq_div_pow]
  rfl

theorem bitField_low (len : ℕ) {a : ℕ} (ha : a < 2 ^ len) (rest : ℕ) :
    bitField (a + 2 ^ len * rest) 0 len = a := by
  unfold bitField
  rw [pow_zero, Nat.div_one, Nat.add_mul_mod_self_left, Nat.mod_eq_of_lt ha]

theorem bitField_high (len : ℕ) {a : ℕ} (ha : a < 2 ^ len) (rest start width : ℕ) :
    bitField (a + 2 ^ len * rest) (len + start) width = bitField rest start width := by
  unfold bitField
  rw [pow_add, ← Nat.div_div_eq_div_mul, Nat.add_mul_div_left _ _ (Nat.two_pow_pos len),
    Nat.div_eq_of_lt ha, Nat.zero_add]

theorem and_two_pow_sub_two_pow {n w k : ℕ} (h : n < 2 ^ w) (hk : k ≤ w) :
    n &&& (2 ^ w - 2 ^ k) = n / 2 ^ k * 2 ^ k := by
  have hmask : 2 ^ w - 2 ^ k = (2 ^ (w - k) - 1) <<< k := by
    rw [Nat.shiftLeft_eq, Nat.sub_mul, ← pow_add, Nat.sub_add_cancel hk, Nat.one_mul]
  apply Nat.eq_of_testBit_eq
  intro i
  rw [← Nat.shiftRight_eq_div_pow, ← Nat.shiftLeft_eq, hmask, Nat.testBit_and,
    Nat.testBit_shiftLeft, Nat.testBit_shiftLeft, Nat.testBit_two_pow_sub_one,
    Nat.testBit_shiftRight]
  by_cases hlow : k ≤ i
  · rw [Nat.add_sub_cancel' hlow]
    by_cases hhigh : i < w
    · simp [hlow, show i - k < w - k by omega]
    · have hzero : n.testBit i = false :=
        Nat.testBit_lt_two_pow (h.trans_le (Nat.pow_le_pow_right (by decide) (by omega)))
      simp [hzero]
  · simp [hlow]

end DevDriver.Library
