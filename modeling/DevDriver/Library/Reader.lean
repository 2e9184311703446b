import Mathlib.Data.List.Basic

/-!
# Readers

A reader takes one symbol after the other, goes to a next state and puts something out each time.
-/

namespace DevDriver.Library

/-- A reader of symbols `α` with states `σ` and outputs `ω`. -/
structure Reader (α σ ω : Type) where
  step : σ → α → σ × List ω

namespace Reader

variable {α σ ω : Type} (R : Reader α σ ω)

/-- What is read of a word: the state behind it, and all that is put out. -/
def read : σ → List α → σ × List ω
  | s, [] => (s, [])
  | s, a :: as => ((read (R.step s a).1 as).1, (R.step s a).2 ++ (read (R.step s a).1 as).2)

@[simp] theorem read_nil (s : σ) : R.read s [] = (s, []) := rfl

@[simp] theorem read_singleton (s : σ) (a : α) : R.read s [a] = R.step s a := by
  simp [read]

theorem read_cons (s : σ) (a : α) (as : List α) :
    R.read s (a :: as) =
      ((R.read (R.step s a).1 as).1, (R.step s a).2 ++ (R.read (R.step s a).1 as).2) := rfl

theorem read_append (s : σ) (as bs : List α) :
    R.read s (as ++ bs) =
      ((R.read (R.read s as).1 bs).1, (R.read s as).2 ++ (R.read (R.read s as).1 bs).2) := by
  induction as generalizing s with
  | nil => simp
  | cons a as ih => simp only [List.cons_append, read_cons, ih, List.append_assoc]

variable {R}

theorem read_append_of {s t : σ} {out : List ω} {as : List α} (h : R.read s as = (t, out))
    (bs : List α) : R.read s (as ++ bs) = ((R.read t bs).1, out ++ (R.read t bs).2) := by
  rw [read_append, h]

theorem read_of_absorbing {s : σ} (h : ∀ a, R.step s a = (s, [])) (as : List α) :
    R.read s as = (s, []) := by
  induction as with
  | nil => rfl
  | cons a as ih => rw [read_cons, h a, ih]; rfl

/-- From `place` on symbols are gathered until there are `n`, which `done` works off. -/
def Gathers (R : Reader α σ ω) (place : List α → σ) (n : ℕ) (done : List α → σ × List ω) : Prop :=
  ∀ got a, R.step (place got) a =
    if got.length + 1 < n then (place (got ++ [a]), []) else done (got ++ [a])

variable {place : List α → σ} {n : ℕ} {done : List α → σ × List ω} {got as : List α}

theorem Gathers.read_part (h : R.Gathers place n done) (hlength : got.length + as.length < n) :
    R.read (place got) as = (place (got ++ as), []) := by
  induction as generalizing got with
  | nil => simp
  | cons a as ih =>
    rw [List.length_cons] at hlength
    have hlength' : (got ++ [a]).length + as.length < n := by
      rw [List.length_append, List.length_singleton]
      omega
    rw [read_cons, h, if_pos (by omega), ih hlength', List.append_assoc]
    rfl

theorem Gathers.read_all (h : R.Gathers place n done) (has : as ≠ [])
    (hlength : got.length + as.length = n) : R.read (place got) as = done (got ++ as) := by
  obtain ⟨init, a, rfl⟩ := (List.eq_nil_or_concat' as).resolve_left has
  rw [List.length_append, List.length_singleton] at hlength
  have hinit : R.read (place got) init = (place (got ++ init), []) := h.read_part (by omega)
  rw [read_append_of hinit, read_singleton, h, if_neg (by rw [List.length_append]; omega),
    ← List.append_assoc]
  rfl

end Reader

end DevDriver.Library
