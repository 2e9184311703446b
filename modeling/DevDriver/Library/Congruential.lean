import Mathlib.Data.Nat.ModEq
import Mathlib.Logic.Function.Iterate
import Mathlib.Tactic.Ring

/-!
# Linear congruential generators modulo powers of two

A generator with an odd increment, and a multiplier that is one more than a multiple of four,
reaches every residue modulo `2 ^ k` within `2 ^ k` steps.
-/

namespace DevDriver.Library

/-- One step of a generator, before the reduction. -/
def congruential (a c x : ℕ) : ℕ := a * x + c

variable {a c : ℕ}

theorem congruential_modEq {m x y : ℕ} (h : x ≡ y [MOD m]) :
    congruential a c x ≡ congruential a c y [MOD m] := (h.mul_left a).add_right c

theorem iterate_congruential_modEq {m x y : ℕ} (h : x ≡ y [MOD m]) (n : ℕ) :
    (congruential a c)^[n] x ≡ (congruential a c)^[n] y [MOD m] := by
  induction n generalizing x y with
  | zero => exact h
  | succ n ih =>
    rw [Function.iterate_succ_apply, Function.iterate_succ_apply]
    exact ih (congruential_modEq h)

/-- `2 ^ k` steps are one step of another generator, whose increment has exactly `k` factors two
and whose multiplier is one more than a multiple of `2 ^ (k + 2)`. -/
theorem iterate_two_pow_congruential (ha : a % 4 = 1) (hc : c % 2 = 1) (k : ℕ) :
    ∃ t s, (congruential a c)^[2 ^ k] =
      congruential (1 + 2 ^ (k + 2) * t) (2 ^ k * (1 + 2 * s)) := by
  induction k with
  | zero =>
    have ha' : 1 + 2 ^ (0 + 2) * (a / 4) = a := by omega
    have hc' : 2 ^ 0 * (1 + 2 * (c / 2)) = c := by omega
    refine ⟨a / 4, c / 2, ?_⟩
    rw [ha', hc']
    rfl
  | succ k ih =>
    obtain ⟨t, s, hhalf⟩ := ih
    refine ⟨t + 2 ^ (k + 1) * t * t, s + 2 ^ k * t * (1 + 2 * s), ?_⟩
    rw [pow_succ, mul_two, Function.iterate_add, hhalf]
    funext x
    simp only [Function.comp_apply, congruential]
    ring

/-- `2 ^ k` steps change the bit `k` of the state, and no bit below. -/
theorem iterate_two_pow_modEq (ha : a % 4 = 1) (hc : c % 2 = 1) (k x : ℕ) :
    (congruential a c)^[2 ^ k] x ≡ x + 2 ^ k [MOD 2 ^ (k + 1)] := by
  obtain ⟨t, s, hsteps⟩ := iterate_two_pow_congruential ha hc k
  rw [hsteps]
  have hsum : congruential (1 + 2 ^ (k + 2) * t) (2 ^ k * (1 + 2 * s)) x =
      x + 2 ^ k + (2 * t * x + s) * 2 ^ (k + 1) := by
    unfold congruential
    ring
  rw [hsum]
  exact Nat.add_mul_modulus_modEq_iff.mpr rfl

theorem modEq_two_mul {m x y : ℕ} (h : x ≡ y [MOD m]) :
    x ≡ y [MOD 2 * m] ∨ x + m ≡ y [MOD 2 * m] := by
  obtain ⟨d, hd⟩ := (Nat.modEq_iff_dvd.mp h : (m : ℤ) ∣ y - x)
  rcases Int.even_or_odd' d with ⟨e, he | he⟩
  · apply Or.inl
    apply Nat.modEq_iff_dvd.mpr
    refine ⟨e, ?_⟩
    rw [hd, he]
    push_cast
    ring
  · apply Or.inr
    apply Nat.modEq_iff_dvd.mpr
    refine ⟨e, ?_⟩
    push_cast
    rw [← sub_sub, hd, he]
    ring

/-- Every residue is reached, from every state. -/
theorem exists_iterate_congruential (ha : a % 4 = 1) (hc : c % 2 = 1) (k x y : ℕ) :
    ∃ n < 2 ^ k, (congruential a c)^[n] x ≡ y [MOD 2 ^ k] := by
  induction k with
  | zero => exact ⟨0, Nat.one_pos, Nat.modEq_one⟩
  | succ k ih =>
    obtain ⟨n, hn, hlow⟩ := ih
    have hpow : 2 ^ (k + 1) = 2 ^ k + 2 ^ k := by rw [pow_succ, mul_two]
    -- the state agrees with `y` up to the bit `k`, which another `2 ^ k` steps change
    have hbit : (congruential a c)^[n] x ≡ y [MOD 2 ^ (k + 1)] ∨
        (congruential a c)^[n] x + 2 ^ k ≡ y [MOD 2 ^ (k + 1)] := by
      rw [hpow, ← two_mul]
      exact modEq_two_mul hlow
    rcases hbit with hsame | hother
    · exact ⟨n, by omega, hsame⟩
    · refine ⟨2 ^ k + n, by omega, ?_⟩
      rw [Function.iterate_add_apply]
      exact (iterate_two_pow_modEq ha hc k _).trans hother

end DevDriver.Library
