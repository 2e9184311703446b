import Mathlib.Data.List.Basic

/-!
# Maximal runs of a range

A range of numbers falls into maximal runs whose members each follow the one before.  Runs are told
by their first member and their length.  `MaximalRuns` says what they are, `runsFrom` computes them
from the back of the range, and `runLength` counts the first one from the front.
-/

namespace DevDriver.Library

/-- The runs that a range falls into, up to `stop`; `follows i` says that `i + 1` follows `i`. -/
inductive MaximalRuns (follows : ℕ → Bool) (stop : ℕ) : ℕ → List (ℕ × ℕ) → Prop where
  | nil : MaximalRuns follows stop stop []
  | cons {start count : ℕ} {rest : List (ℕ × ℕ)} (hpos : 0 < count)
      (hinside : ∀ i, start ≤ i → i + 1 < start + count → follows i = true)
      (hend : start + count < stop → follows (start + count - 1) = false)
      (h : MaximalRuns follows stop (start + count) rest) :
      MaximalRuns follows stop start ((start, count) :: rest)

/-- The runs of `n` numbers from one on. -/
def runsFrom (follows : ℕ → Bool) : ℕ → ℕ → List (ℕ × ℕ)
  | 0, _ => []
  | n + 1, start =>
    match runsFrom follows n (start + 1) with
    | [] => [(start, 1)]
    | (next, count) :: rest =>
      if follows start then (start, count + 1) :: rest
      else (start, 1) :: (next, count) :: rest

/-- The length of the run that a number starts, when `n` numbers are behind it. -/
def runLength (follows : ℕ → Bool) : ℕ → ℕ → ℕ
  | 0, _ => 1
  | n + 1, start => if follows start then runLength follows n (start + 1) + 1 else 1

variable {follows follows' : ℕ → Bool} {start stop n : ℕ} {runs : List (ℕ × ℕ)}

theorem one_le_runLength (n start : ℕ) : 1 ≤ runLength follows n start := by
  cases n with
  | zero => exact Nat.le_refl 1
  | succ n =>
    rw [runLength]
    split
    · exact Nat.succ_pos _
    · exact Nat.le_refl 1

theorem runLength_le (n start : ℕ) : runLength follows n start ≤ n + 1 := by
  induction n generalizing start with
  | zero => exact Nat.le_refl 1
  | succ n ih =>
    rw [runLength]
    split
    · exact Nat.succ_le_succ (ih (start + 1))
    · exact Nat.succ_pos _

theorem runsFrom_succ (n start : ℕ) :
    runsFrom follows (n + 1) start =
      (start, runLength follows n start) ::
        runsFrom follows (n + 1 - runLength follows n start)
          (start + runLength follows n start) := by
  induction n generalizing start with
  | zero => rfl
  | succ n ih =>
    rw [runsFrom, ih, runLength]
    dsimp only
    split
    · have hsub : n + 1 + 1 - (runLength follows n (start + 1) + 1) =
          n + 1 - runLength follows n (start + 1) := by omega
      have hadd : start + (runLength follows n (start + 1) + 1) =
          start + 1 + runLength follows n (start + 1) := by omega
      rw [hsub, hadd]
    · rw [← ih]
      rfl

theorem runsFrom_congr (h : ∀ i, start ≤ i → i + 1 < start + n → follows i = follows' i) :
    runsFrom follows n start = runsFrom follows' n start := by
  induction n generalizing start with
  | zero => rfl
  | succ n ih =>
    have hrest : runsFrom follows n (start + 1) = runsFrom follows' n (start + 1) :=
      ih fun i hlow hhigh => h i (by omega) (by omega)
    rw [runsFrom, runsFrom, hrest]
    cases n with
    | zero => rfl
    | succ n => rw [h start (Nat.le_refl _) (by omega)]

theorem maximalRuns_runsFrom (hstop : start + n = stop) :
    MaximalRuns follows stop start (runsFrom follows n start) := by
  induction n generalizing start with
  | zero =>
    subst hstop
    exact .nil
  | succ n ih =>
    have hrest : MaximalRuns follows stop (start + 1) (runsFrom follows n (start + 1)) :=
      ih (by omega)
    rw [runsFrom]
    generalize runsFrom follows n (start + 1) = rest at hrest
    cases hrest with
    | nil =>
      refine .cons Nat.one_pos ?_ ?_ .nil
      · intro i hlow hhigh
        omega
      · intro hend
        omega
    | cons hpos hinside hend h =>
      rename_i count rest
      dsimp only
      split
      · rename_i hfollows
        rw [Nat.add_assoc, Nat.add_comm 1 count] at h
        refine .cons (Nat.succ_pos count) ?_ ?_ h
        · intro i hlow hhigh
          by_cases hfirst : i = start
          · rw [hfirst]
            exact hfollows
          · exact hinside i (by omega) (by omega)
        · intro hlast
          have hsame : start + (count + 1) - 1 = start + 1 + count - 1 := by omega
          rw [hsame]
          exact hend (by omega)
      · rename_i hnot
        refine .cons Nat.one_pos ?_ ?_ (.cons hpos hinside hend h)
        · intro i hlow hhigh
          omega
        · intro _
          exact Bool.eq_false_iff.mpr hnot

/-- A number of the range is in one of its runs. -/
theorem MaximalRuns.exists_run (h : MaximalRuns follows stop start runs) {i : ℕ}
    (hlow : start ≤ i) (hhigh : i < stop) :
    ∃ run ∈ runs, run.1 ≤ i ∧ i < run.1 + run.2 ∧
      ∀ k, run.1 ≤ k → k + 1 < run.1 + run.2 → follows k = true := by
  induction h with
  | nil => omega
  | @cons start count rest hpos hinside hend h ih =>
    by_cases hfirst : i < start + count
    · exact ⟨(start, count), List.mem_cons_self, hlow, hfirst, hinside⟩
    · obtain ⟨run, hmem, hrun⟩ := ih (by omega)
      exact ⟨run, List.mem_cons_of_mem _ hmem, hrun⟩

end DevDriver.Library
