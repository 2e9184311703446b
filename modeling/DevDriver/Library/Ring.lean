import Mathlib.Data.Nat.ModEq
import Mathlib.Data.Fin.Basic

/-!
# Rings of slots indexed by a growing counter

A ring of `n` slots files the item numbered `s` under `s % n`.  Items whose numbers are
less than `n` apart never share a slot, and every slot holds exactly one number of any
interval of `n` consecutive ones.
-/

namespace DevDriver.Library

variable {n : ℕ} [NeZero n]

/-- The slot of item `s` in a ring of `n` slots. -/
def slot (n : ℕ) [NeZero n] (s : ℕ) : Fin n := Fin.ofNat n s

@[simp] theorem slot_val (s : ℕ) : (slot n s).val = s % n := rfl

/-- Two items less than `n` apart share a slot only if they are the same item. -/
theorem slot_inj {s t : ℕ} (h : slot n s = slot n t) (hst : s < t + n) (hts : t < s + n) :
    s = t := by
  have hmod : s % n = t % n := congrArg Fin.val h
  rcases Nat.le_total s t with hle | hle
  · have hdvd : n ∣ t - s := (Nat.modEq_iff_dvd' hle).mp hmod
    have := Nat.eq_zero_of_dvd_of_lt hdvd (by omega)
    omega
  · have hdvd : n ∣ s - t := (Nat.modEq_iff_dvd' hle).mp hmod.symm
    have := Nat.eq_zero_of_dvd_of_lt hdvd (by omega)
    omega

theorem slot_ne {s t : ℕ} (h : s ≠ t) (hst : s < t + n) (hts : t < s + n) :
    slot n s ≠ slot n t := fun he => h (slot_inj he hst hts)

@[simp] theorem slot_add_size (s : ℕ) : slot n (s + n) = slot n s := by
  apply Fin.ext
  simp

variable {α : Type}

/-- The memory of a ring of `n` cells after some items are put in from number `s` on. -/
def putRing (n : ℕ) (memory : ℕ → α) : ℕ → List α → ℕ → α
  | _, [] => memory
  | s, x :: xs => putRing n (Function.update memory (s % n) x) (s + 1) xs

/-- The `count` items from number `s` on. -/
def getRing (n : ℕ) (memory : ℕ → α) (s count : ℕ) : List α :=
  (List.range count).map fun i => memory ((s + i) % n)

omit [NeZero n]

theorem length_getRing (memory : ℕ → α) (s count : ℕ) :
    (getRing n memory s count).length = count := by
  rw [getRing, List.length_map, List.length_range]

theorem getRing_mod (memory : ℕ → α) (s count : ℕ) :
    getRing n memory (s % n) count = getRing n memory s count := by
  simp only [getRing, Nat.mod_add_mod]

theorem getRing_add (memory : ℕ → α) (s a b : ℕ) :
    getRing n memory s (a + b) = getRing n memory s a ++ getRing n memory (s + a) b := by
  simp only [getRing, List.range_add, List.map_append, List.map_map, Function.comp_def,
    Nat.add_assoc]

theorem putRing_mod (memory : ℕ → α) (s : ℕ) (xs : List α) :
    putRing n memory (s % n) xs = putRing n memory s xs := by
  have hcongr : ∀ {s t : ℕ}, s % n = t % n → ∀ memory : ℕ → α,
      putRing n memory s xs = putRing n memory t xs := by
    induction xs with
    | nil => intro s t h memory; rfl
    | cons x xs ih =>
      intro s t h memory
      rw [putRing, putRing, h]
      apply ih
      rw [Nat.add_mod, h, ← Nat.add_mod]
  exact hcongr (Nat.mod_mod s n) memory

theorem putRing_of_ne {memory : ℕ → α} {s j : ℕ} {xs : List α}
    (h : ∀ i < xs.length, j ≠ (s + i) % n) : putRing n memory s xs j = memory j := by
  induction xs generalizing memory s with
  | nil => rfl
  | cons x xs ih =>
    rw [putRing, ih, Function.update_of_ne]
    · exact h 0 (Nat.succ_pos _)
    · intro i hi
      have hnext := h (i + 1) (Nat.succ_lt_succ hi)
      rwa [show s + (i + 1) = s + 1 + i by omega] at hnext

theorem add_mod_ne {s i j : ℕ} (hij : i < j) (hj : j < i + n) : (s + i) % n ≠ (s + j) % n := by
  intro h
  have hdvd : n ∣ s + j - (s + i) := (Nat.modEq_iff_dvd' (by omega)).mp h
  have hzero := Nat.eq_zero_of_dvd_of_lt hdvd (by omega)
  omega

theorem getRing_putRing (memory : ℕ → α) (s : ℕ) {xs : List α} (h : xs.length ≤ n) :
    getRing n (putRing n memory s xs) s xs.length = xs := by
  induction xs generalizing memory s with
  | nil => rfl
  | cons x xs ih =>
    rw [List.length_cons] at h
    have hfirst : putRing n (Function.update memory (s % n) x) (s + 1) xs (s % n) = x := by
      rw [putRing_of_ne, Function.update_self]
      intro i hi
      have hne := add_mod_ne (n := n) (s := s) (show 0 < i + 1 by omega) (by omega)
      rwa [show s + (i + 1) = s + 1 + i by omega, Nat.add_zero] at hne
    rw [List.length_cons, Nat.add_comm, getRing_add, putRing, ih _ _ (by omega)]
    simp only [getRing, List.range_one, List.map_cons, List.map_nil, Nat.add_zero, hfirst,
      List.singleton_append]

theorem getRing_putRing_behind {memory : ℕ → α} {s count : ℕ} {xs : List α}
    (h : count + xs.length ≤ n) :
    getRing n (putRing n memory (s + count) xs) s count = getRing n memory s count := by
  apply List.map_congr_left
  intro i hi
  have hlt : i < count := List.mem_range.mp hi
  apply putRing_of_ne
  intro j hj
  rw [Nat.add_assoc]
  exact add_mod_ne (by omega) (by omega)

end DevDriver.Library
