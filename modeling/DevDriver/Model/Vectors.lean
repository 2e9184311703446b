import Mathlib.Data.List.Basic
import Mathlib.Data.List.Perm.Basic

/-!
# Vectors

What `Vector` does to the list of its elements, and its iterators.
-/

namespace DevDriver.Model

/-- `Vector::Remove`: the last element takes the place of the removed one.
vector.h:176-194 -/
def vectorRemove {α : Type} (index : ℕ) (l : List α) : List α :=
  match l.getLast? with
  | none => []
  | some last => (l.set index last).dropLast

theorem vectorRemove_append {α : Type} (init : List α) (last : α) (index : ℕ) :
    vectorRemove index (init ++ [last]) = ((init ++ [last]).set index last).dropLast := by
  simp [vectorRemove]

theorem vectorRemove_perm {α : Type} {l : List α} {index : ℕ} {a : α}
    (h : l[index]? = some a) : l.Perm (a :: vectorRemove index l) := by
  rcases List.eq_nil_or_concat' l with rfl | ⟨init, last, rfl⟩
  · cases h
  · rw [vectorRemove_append]
    by_cases hinit : index < init.length
    · rw [List.getElem?_append_left hinit, List.getElem?_eq_getElem hinit] at h
      cases h
      rw [List.set_append_left _ _ hinit, List.dropLast_concat]
      have hset : (init.set index last).Perm (last :: init.eraseIdx index) :=
        List.set_perm_cons_eraseIdx hinit last
      have hinitial : init.Perm (init[index] :: init.eraseIdx index) :=
        (List.getElem_cons_eraseIdx_perm hinit).symm
      apply (List.perm_append_singleton last init).trans
      apply (hinitial.cons last).trans
      apply (List.Perm.swap _ _ _).trans
      exact hset.symm.cons _
    · obtain ⟨hindex, -⟩ := List.getElem?_eq_some_iff.mp h
      obtain rfl : index = init.length := by
        rw [List.length_append, List.length_singleton] at hindex
        omega
      rw [List.getElem?_concat_length] at h
      obtain rfl := Option.some.inj h
      rw [List.set_append_right _ _ (Nat.le_refl _), Nat.sub_self, List.set_cons_zero,
        List.dropLast_concat]
      exact List.perm_append_singleton last init

/-- A `Vector::Iterator` of a vector that is known from the context: whether it has a container,
and its index. -/
structure VectorIterator where
  hasContainer : Bool
  index : ℕ
  deriving DecidableEq

namespace VectorIterator

variable {α : Type}

/-- `End`. -/
def atEnd : VectorIterator := ⟨false, 0⟩

/-- `CreateIterator`.
vector.h:419-424 -/
def create (vector : List α) (index : ℕ) : VectorIterator :=
  if index < vector.length then ⟨true, index⟩ else atEnd

/-- `operator++`.
vector.h:496-508 -/
def next (vector : List α) (it : VectorIterator) : VectorIterator :=
  if it.hasContainer then
    if it.index + 1 ≥ vector.length then atEnd else ⟨true, it.index + 1⟩
  else it

/-- `operator*`; nothing where there is no element. -/
def get? (vector : List α) (it : VectorIterator) : Option α :=
  if it.hasContainer then vector[it.index]? else none

end VectorIterator

/-- `Vector::Remove` of an iterator.
vector.h:440-450 -/
def vectorRemoveIterator {α : Type} (vector : List α) (it : VectorIterator) :
    List α × VectorIterator :=
  let removed := vectorRemove it.index vector
  (removed, if it.index < removed.length then it else .atEnd)

/-! ## The cleanup of the RPC server

The accept thread of an `RpcServer` keeps its clients in a `Vector`, and walks over them with an
iterator.  The loop is given a number of rounds; it has no result if it needs more, or reads
through an iterator where there is no client. -/

/-- The loop that destroys the inactive clients, `n` rounds of it at most: the clients that are left
and those that were deleted, in the order of their deletion.
rpcServer.cpp:358-369 -/
def cleanupLoop {α : Type} (isActive : α → Bool) :
    ℕ → VectorIterator → List α → List α → Option (List α × List α)
  | 0, _, _, _ => none
  | n + 1, clientIter, clients, deleted =>
    if clientIter ≠ .atEnd then
      (clientIter.get? clients).bind fun pClient =>
        if isActive pClient = false then
          let removed := vectorRemoveIterator clients clientIter
          cleanupLoop isActive n (removed.2.next removed.1) removed.1 (deleted ++ [pClient])
        else cleanupLoop isActive n (clientIter.next clients) clients deleted
    else some (clients, deleted)

def cleanupClients {α : Type} (isActive : α → Bool) (n : ℕ) (clients : List α) :
    Option (List α × List α) :=
  cleanupLoop isActive n (.create clients 0) clients []

end DevDriver.Model
