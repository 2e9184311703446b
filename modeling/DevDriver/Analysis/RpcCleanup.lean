import DevDriver.Model.Vectors
import Mathlib.Tactic.Tauto

/-!
# What a cleanup of the RPC server destroys

Removing a client from the vector moves the last client into its place, and the loop steps over that
place at once.
-/

namespace DevDriver.Analysis

open Model VectorIterator

variable {α : Type} {isActive : α → Bool}

section Iterator

variable {passed rest : List α} {x last : α}

theorem get?_passed :
    get? (passed ++ x :: rest) ⟨true, passed.length⟩ = some x := by
  simp [get?]

theorem next_passed (passed rest : List α) (x : α) :
    next (passed ++ x :: rest) ⟨true, passed.length⟩ =
      create (passed ++ x :: rest) (passed.length + 1) := by
  simp only [next, create, List.length_append, List.length_cons]
  by_cases hrest : rest.length = 0
  · rw [if_pos trivial, if_pos (by omega), if_neg (by omega)]
  · rw [if_pos trivial, if_neg (by omega), if_pos (by omega)]

theorem vectorRemove_moves :
    vectorRemove passed.length (passed ++ x :: (rest ++ [last])) = passed ++ last :: rest := by
  have hsplit : passed ++ x :: (rest ++ [last]) = (passed ++ x :: rest) ++ [last] := by
    rw [List.append_assoc, List.cons_append]
  have hindex : passed.length < (passed ++ x :: rest).length := by simp
  rw [hsplit, vectorRemove_append, List.set_append_left _ _ hindex, List.dropLast_concat,
    List.set_append_right _ _ (Nat.le_refl _), Nat.sub_self, List.set_cons_zero]

theorem vectorRemove_last : vectorRemove passed.length (passed ++ [x]) = passed := by
  rw [vectorRemove_append, List.set_append_right _ _ (Nat.le_refl _), Nat.sub_self,
    List.set_cons_zero, List.dropLast_concat]

end Iterator

/-! ## A pass -/

/-- The clients that the pass would move without looking at them are active: as many at the end as
there are inactive clients, less one. -/
def TailActive (isActive : α → Bool) (clients : List α) : Prop :=
  ∀ client ∈ clients.reverse.take (clients.countP (fun c => !isActive c) - 1),
    isActive client = true

section Tail

variable {rest : List α} {x last : α}

theorem tailActive_nil : TailActive isActive [] := nofun

theorem tailActive_active (hx : isActive x = true) :
    TailActive isActive (x :: rest) ↔ TailActive isActive rest := by
  have hcount : rest.countP (fun c => !isActive c) - 1 ≤ rest.reverse.length := by
    have := rest.countP_le_length (p := fun c => !isActive c)
    rw [List.length_reverse]
    omega
  unfold TailActive
  rw [List.countP_cons_of_neg (by simp [hx]), List.reverse_cons,
    List.take_append_of_le_length hcount]

theorem tailActive_single : TailActive isActive [x] := by
  intro client hmem
  have hcount := List.countP_le_length (p := fun c => !isActive c) (l := [x])
  rw [List.length_singleton] at hcount
  rw [show List.countP _ [x] - 1 = 0 by omega, List.take_zero] at hmem
  cases hmem

theorem tailActive_inactive (hx : isActive x = false) :
    TailActive isActive (x :: (rest ++ [last])) ↔
      isActive last = true ∧ TailActive isActive rest := by
  have hreverse : (x :: (rest ++ [last])).reverse = last :: (rest.reverse ++ [x]) := by simp
  have hcount : (x :: (rest ++ [last])).countP (fun c => !isActive c) - 1 =
      rest.countP (fun c => !isActive c) + if isActive last then 0 else 1 := by
    rw [List.countP_cons_of_pos (by simp [hx]), List.countP_append, List.countP_singleton]
    cases isActive last <;> simp
  unfold TailActive
  rw [hcount, hreverse]
  cases hlast : isActive last with
  | false => simp [hlast]
  | true =>
    have hlength := rest.countP_le_length (p := fun c => !isActive c)
    cases hrest : rest.countP (fun c => !isActive c) with
    | zero => simp
    | succ n =>
      have hn : n ≤ rest.reverse.length := by
        rw [List.length_reverse]
        omega
      rw [if_pos rfl, Nat.add_zero, List.take_succ_cons, List.take_append_of_le_length hn,
        List.forall_mem_cons, hlast, Nat.add_sub_cancel]

end Tail

structure Cleans (isActive : α → Bool) (rest remaining deleted : List α) : Prop where
  perm : (deleted ++ remaining).Perm rest
  inactive : ∀ client ∈ deleted, isActive client = false
  active : (∀ client ∈ remaining, isActive client = true) ↔ TailActive isActive rest

theorem cleanupLoop_atEnd {n : ℕ} {clients deleted : List α} :
    cleanupLoop isActive (n + 1) .atEnd clients deleted = some (clients, deleted) := by
  rw [cleanupLoop, if_neg (not_not.mpr rfl)]

section Cleans

variable {rest remaining gone : List α} {x last : α}

theorem Cleans.cons_active (h : Cleans isActive rest remaining gone) (hx : isActive x = true) :
    Cleans isActive (x :: rest) (x :: remaining) gone where
  perm := List.perm_middle.trans (h.perm.cons x)
  inactive := h.inactive
  active := by
    rw [List.forall_mem_cons, h.active, tailActive_active hx]
    exact and_iff_right hx

theorem Cleans.single (hx : isActive x = false) : Cleans isActive [x] [] [x] where
  perm := .refl _
  inactive := List.forall_mem_singleton.mpr hx
  active := iff_of_true nofun tailActive_single

theorem Cleans.moved (h : Cleans isActive rest remaining gone) (hx : isActive x = false) :
    Cleans isActive (x :: (rest ++ [last])) (last :: remaining) (x :: gone) where
  perm := by
    apply List.Perm.cons
    calc (gone ++ last :: remaining).Perm (last :: (gone ++ remaining)) := List.perm_middle
      _ |>.Perm (last :: rest) := h.perm.cons last
      _ |>.Perm (rest ++ [last]) := (List.perm_append_singleton last rest).symm
  inactive := List.forall_mem_cons.mpr ⟨hx, h.inactive⟩
  active := by rw [List.forall_mem_cons, h.active, tailActive_inactive hx]

end Cleans

theorem cleanupLoop_cons (n : ℕ) (passed rest : List α) (x : α) (deleted : List α) :
    cleanupLoop isActive (n + 1) (.create (passed ++ x :: rest) passed.length)
        (passed ++ x :: rest) deleted =
      if isActive x = false then
        let removed := vectorRemoveIterator (passed ++ x :: rest) ⟨true, passed.length⟩
        cleanupLoop isActive n (removed.2.next removed.1) removed.1 (deleted ++ [x])
      else
        cleanupLoop isActive n (.create (passed ++ [x] ++ rest) (passed ++ [x]).length)
          (passed ++ [x] ++ rest) deleted := by
  have hcreate : create (passed ++ x :: rest) passed.length =
      ⟨true, passed.length⟩ := by
    simp [create]
  have hnext := next_passed passed rest x
  rw [hcreate, cleanupLoop, if_pos nofun, get?_passed, Option.bind_some, hnext,
    List.append_assoc, List.singleton_append, List.length_append, List.length_singleton]

theorem cleanupLoop_passed (n : ℕ) :
    ∀ passed rest deleted : List α, rest.length < n →
      ∃ remaining gone,
        cleanupLoop isActive n (.create (passed ++ rest) passed.length) (passed ++ rest) deleted =
          some (passed ++ remaining, deleted ++ gone) ∧
        Cleans isActive rest remaining gone := by
  induction n with
  | zero => exact fun _ _ _ h => absurd h (Nat.not_lt_zero _)
  | succ n ih =>
    intro passed rest deleted hn
    cases rest with
    | nil =>
      refine ⟨[], [], ?_, ⟨.refl _, nofun, iff_of_true nofun tailActive_nil⟩⟩
      rw [create, if_neg (by simp), cleanupLoop_atEnd, List.append_nil,
        List.append_nil]
    | cons x rest =>
      rw [List.length_cons] at hn
      rw [cleanupLoop_cons]
      split
      case isFalse hx =>
        obtain ⟨remaining, gone, hloop, hcleans⟩ :=
          ih (passed ++ [x]) rest deleted (Nat.lt_of_succ_lt_succ hn)
        refine ⟨x :: remaining, gone, ?_, hcleans.cons_active (Bool.of_not_eq_false hx)⟩
        rw [hloop, List.append_assoc, List.singleton_append]
      case isTrue hx =>
        rcases rest.eq_nil_or_concat' with rfl | ⟨rest', last, rfl⟩
        · -- the removed client was the last one, and the iterator is at the end
          refine ⟨[], [x], ?_, .single hx⟩
          obtain ⟨n, rfl⟩ : ∃ m, n = m + 1 := ⟨n - 1, by simp at hn; omega⟩
          rw [vectorRemoveIterator, vectorRemove_last]
          rw [if_neg (Nat.lt_irrefl _)]
          exact cleanupLoop_atEnd.trans (by rw [List.append_nil])
        · have hlength : rest'.length < n := by
            rw [List.length_append, List.length_singleton] at hn
            omega
          obtain ⟨remaining, gone, hloop, hcleans⟩ :=
            ih (passed ++ [last]) rest' (deleted ++ [x]) hlength
          refine ⟨last :: remaining, x :: gone, ?_, hcleans.moved hx⟩
          have hnext := next_passed passed rest' last
          rw [vectorRemoveIterator, vectorRemove_moves]
          dsimp only
          rw [if_pos (by simp), hnext]
          rw [List.length_append, List.length_singleton, List.append_assoc,
            List.singleton_append] at hloop
          rw [hloop, List.append_assoc, List.append_assoc, List.singleton_append,
            List.singleton_append]

/-- A pass ends, within as many rounds as there are clients and one more, and never reads past the
end of the vector.  It deletes every inactive client once and leaves the active ones if and only if
the clients at the end, as many as there are inactive ones less one, are active. -/
theorem cleanup_destroys_inactive_iff (isActive : α → Bool) (clients : List α) :
    ∃ remaining deleted,
      cleanupClients isActive (clients.length + 1) clients = some (remaining, deleted) ∧
      (deleted ++ remaining).Perm clients ∧ (∀ client ∈ deleted, isActive client = false) ∧
      (deleted.Perm (clients.filter fun client => !isActive client) ∧
          remaining.Perm (clients.filter isActive) ↔
        TailActive isActive clients) := by
  obtain ⟨remaining, deleted, hloop, hcleans⟩ :=
    @cleanupLoop_passed α isActive (clients.length + 1) [] clients [] (Nat.lt_succ_self _)
  refine ⟨remaining, deleted, hloop, hcleans.perm, hcleans.inactive, ?_⟩
  rw [← hcleans.active]
  constructor
  · intro ⟨_, hremaining⟩ client hmem
    exact (List.mem_filter.mp (hremaining.mem_iff.mp hmem)).2
  · intro hactive
    have hnone : deleted.filter isActive = [] := by
      apply List.filter_eq_nil_iff.mpr
      intro client hmem
      simp [hcleans.inactive client hmem]
    have hall : deleted.filter (fun client => !isActive client) = deleted := by
      apply List.filter_eq_self.mpr
      intro client hmem
      simp [hcleans.inactive client hmem]
    have hkept : remaining.filter isActive = remaining := List.filter_eq_self.mpr hactive
    have hgone : remaining.filter (fun client => !isActive client) = [] := by
      apply List.filter_eq_nil_iff.mpr
      intro client hmem
      simp [hactive client hmem]
    constructor
    · have hperm := hcleans.perm.filter fun client => !isActive client
      rwa [List.filter_append, hall, hgone, List.append_nil] at hperm
    · have hperm := hcleans.perm.filter isActive
      rwa [List.filter_append, hnone, hkept, List.nil_append] at hperm

/-- Of two inactive clients the second is left. -/
theorem cleanup_destroys_inactive_not : ¬ ∀ (isActive : Bool → Bool) (clients remaining deleted),
    cleanupClients isActive (clients.length + 1) clients = some (remaining, deleted) →
      remaining.Perm (clients.filter isActive) := by
  intro hall
  have hperm := hall (fun _ => false) [false, true] [true] [false] (by decide)
  exact absurd hperm.length_eq (by decide)

end DevDriver.Analysis
