import Mathlib.Algebra.Order.BigOperators.Group.List
import Mathlib.Logic.Function.Basic
import Mathlib.Algebra.Order.Group.Nat
import Mathlib.Data.Prod.Lex
import Mathlib.Order.WellFounded
import Mathlib.Algebra.GroupWithZero.Nat

/-!
# Descent

A `Weight` is three counters of which the earlier ones count for more.  It goes down when one
counter goes down and none before it goes up.  Weights add up, and a part that goes down takes
the whole with it; no weight goes down forever.
-/

namespace DevDriver.Library

/-- Three counters. -/
@[ext] structure Weight where
  first : ℕ
  second : ℕ
  third : ℕ

namespace Weight

instance : Add Weight := ⟨fun a b => ⟨a.first + b.first, a.second + b.second, a.third + b.third⟩⟩

@[simp] theorem first_add (a b : Weight) : (a + b).first = a.first + b.first := rfl

@[simp] theorem second_add (a b : Weight) : (a + b).second = a.second + b.second := rfl

@[simp] theorem third_add (a b : Weight) : (a + b).third = a.third + b.third := rfl

/-- `a` lies below `b`: a counter is smaller and none before it is larger. -/
structure Below (a b : Weight) : Prop where
  first_le : a.first ≤ b.first
  lt : a.first < b.first ∨ (a.second < b.second ∨ a.second = b.second ∧ a.third < b.third)

/-- Lying below is well founded. -/
theorem wellFounded_below : WellFounded Below := by
  have hlex : WellFounded (Prod.Lex (· < · : ℕ → ℕ → Prop) (Prod.Lex (· < · : ℕ → ℕ → Prop)
      (· < · : ℕ → ℕ → Prop))) :=
    Nat.lt_wfRel.wf.prod_lex (Nat.lt_wfRel.wf.prod_lex Nat.lt_wfRel.wf)
  refine Subrelation.wf ?_ (InvImage.wf (fun w : Weight => (w.first, w.second, w.third)) hlex)
  intro a b h
  rcases Nat.eq_or_lt_of_le h.first_le with heq | hlt
  · have hrest := h.lt.resolve_left (by omega)
    simp only [InvImage, Prod.lex_def]
    exact .inr ⟨heq, hrest⟩
  · simp only [InvImage, Prod.lex_def]
    exact .inl hlt

end Weight

theorem sum_map_update_le {ι : Type} [DecidableEq ι] (l : List ι) {f : ι → ℕ} {i : ι} {v : ℕ}
    (hv : v ≤ f i) : (l.map (Function.update f i v)).sum ≤ (l.map f).sum := by
  refine List.sum_le_sum fun j _ => ?_
  rcases eq_or_ne j i with rfl | hne
  · simpa using hv
  · simp [hne]

theorem sum_map_update_add_le {ι : Type} [DecidableEq ι] {l : List ι} {f : ι → ℕ} {i : ι} {v : ℕ}
    (hi : i ∈ l) (hv : v ≤ f i) : (l.map (Function.update f i v)).sum + (f i - v) ≤
      (l.map f).sum := by
  induction l with
  | nil => cases hi
  | cons j l ih =>
    have htail := sum_map_update_le l hv
    rcases List.mem_cons.mp hi with rfl | hmem
    · simp only [List.map_cons, List.sum_cons, Function.update_self]
      omega
    · have hmem := ih hmem
      have hhead := sum_map_update_le [j] hv
      simp only [List.map_cons, List.map_nil, List.sum_cons, List.sum_nil] at hhead ⊢
      omega

/-- A relation along which a weight goes down has no infinite chain. -/
theorem no_infinite_chain {σ : Type} {R : σ → σ → Prop} (μ : σ → Weight)
    (hdown : ∀ s t, R s t → (μ t).Below (μ s)) : ¬ ∃ f : ℕ → σ, ∀ n, R (f n) (f (n + 1)) := by
  rintro ⟨f, hf⟩
  have : IsWellFounded Weight Weight.Below := ⟨Weight.wellFounded_below⟩
  obtain ⟨n, hn⟩ := WellFounded.not_rel_apply_succ (r := Weight.Below) fun n => μ (f n)
  exact hn (hdown _ _ (hf n))

end DevDriver.Library
