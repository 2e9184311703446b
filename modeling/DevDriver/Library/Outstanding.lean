import Mathlib.Data.List.Basic
import Mathlib.Algebra.Group.Nat.Defs

/-!
# Outstanding sequence numbers

Requests that carry the next number of a 32-bit counter each, and answers that repeat one of them.
The requests behind the newest answered one are a row of successive numbers; an answer takes the
row's beginning away, up to the number that it repeats.
-/

namespace DevDriver.Library

/-- The `n` numbers after `a`. -/
def successors (a : UInt32) : ℕ → List UInt32
  | 0 => []
  | n + 1 => (a + 1) :: successors (a + 1) n

/-- What stands behind the last occurrence of a number, the whole list when it does not occur. -/
def dropThrough (a : UInt32) : List UInt32 → List UInt32
  | [] => []
  | x :: xs => if a ∈ xs then dropThrough a xs else if x = a then xs else x :: xs

@[simp] theorem length_successors (a : UInt32) (n : ℕ) : (successors a n).length = n := by
  induction n generalizing a with
  | zero => rfl
  | succ n ih => rw [successors, List.length_cons, ih]

variable {a : UInt32}

theorem dropThrough_of_notMem {xs : List UInt32} (h : a ∉ xs) : dropThrough a xs = xs := by
  cases xs with
  | nil => rfl
  | cons x xs =>
    rw [List.mem_cons, not_or] at h
    rw [dropThrough, if_neg h.2, if_neg (Ne.symm h.1)]

variable {x : UInt32}

theorem toNat_sub_succ (h : (x - a).toNat ≠ 0) : (x - (a + 1)).toNat + 1 = (x - a).toNat := by
  have ha := a.toNat_lt
  rw [UInt32.toNat_sub] at h ⊢
  rw [UInt32.toNat_sub, UInt32.toNat_add]
  simp only [UInt32.toNat_one]
  omega

theorem eq_of_toNat_sub (h : (x - a).toNat = 0) : x = a := by
  have ha := a.toNat_lt
  have hx := x.toNat_lt
  rw [UInt32.toNat_sub] at h
  apply UInt32.toNat_inj.mp
  omega

variable {n : ℕ}

theorem mem_successors (hn : n < 2 ^ 32) :
    x ∈ successors a n ↔ (x - a).toNat ≠ 0 ∧ (x - a).toNat ≤ n := by
  induction n generalizing a with
  | zero =>
    rw [successors]
    simp
  | succ n ih =>
    rw [successors, List.mem_cons, ih (by omega)]
    have hlt := (x - a).toNat_lt
    constructor
    · rintro (rfl | ⟨hne, hle⟩)
      · have hone : (a + 1 - a).toNat = 1 := by
          have ha := a.toNat_lt
          rw [UInt32.toNat_sub, UInt32.toNat_add]
          simp only [UInt32.toNat_one]
          omega
        omega
      · have hne' : (x - a).toNat ≠ 0 := by
          intro hzero
          obtain rfl := eq_of_toNat_sub hzero
          rw [UInt32.toNat_sub, UInt32.toNat_add] at hle
          simp only [UInt32.toNat_one] at hle
          omega
        have := toNat_sub_succ hne'
        omega
    · rintro ⟨hne, hle⟩
      have hsucc := toNat_sub_succ hne
      by_cases hone : (x - (a + 1)).toNat = 0
      · exact .inl (eq_of_toNat_sub hone)
      · exact .inr ⟨hone, by omega⟩

theorem successors_snoc (h : (x - a).toNat = n) :
    successors a (n + 1) = successors a n ++ [x + 1] := by
  induction n generalizing a with
  | zero =>
    obtain rfl := eq_of_toNat_sub h
    rfl
  | succ n ih =>
    have hsucc := toNat_sub_succ (a := a) (x := x) (by omega)
    rw [successors, ih (a := a + 1) (by omega), successors, List.cons_append]

theorem dropThrough_successors (hn : n < 2 ^ 32) (h : (x - a).toNat ≤ n) :
    dropThrough x (successors a n) = successors x (n - (x - a).toNat) := by
  induction n generalizing a with
  | zero =>
    obtain rfl := eq_of_toNat_sub (Nat.le_zero.mp h)
    rw [Nat.zero_sub, successors, dropThrough]
  | succ n ih =>
    by_cases hzero : (x - a).toNat = 0
    · obtain rfl := eq_of_toNat_sub hzero
      rw [dropThrough_of_notMem (fun hmem => ((mem_successors hn).mp hmem).1 hzero), hzero,
        Nat.sub_zero]
    · have hsucc := toNat_sub_succ hzero
      rw [successors, dropThrough]
      by_cases hone : (x - (a + 1)).toNat = 0
      · obtain rfl := eq_of_toNat_sub hone
        rw [if_neg (fun hmem => ((mem_successors (by omega)).mp hmem).1 hone), if_pos rfl]
        congr 1
        omega
      · rw [if_pos ((mem_successors (by omega)).mpr ⟨hone, by omega⟩), ih (by omega) (by omega)]
        congr 1
        omega

end DevDriver.Library
