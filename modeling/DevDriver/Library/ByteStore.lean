import Mathlib.Data.List.GetD
import DevDriver.Library.Buffer

/-!
# Byte stores

Memory as the byte at each address.  What is written to a range of addresses is read back from it,
also in parts, and a range that does not meet it reads the same as before.
-/

namespace DevDriver.Library

variable {α : Type}

/-- The `count` bytes from an address on. -/
def readAt (memory : ℕ → α) (address count : ℕ) : List α :=
  List.ofFn fun i : Fin count => memory (address + i)

/-- The memory after `data` is copied to an address. -/
def writeAt (memory : ℕ → α) (address : ℕ) (data : List α) : ℕ → α :=
  fun a => if a < address then memory a else data.getD (a - address) (memory a)

@[simp] theorem length_readAt (memory : ℕ → α) (address count : ℕ) :
    (readAt memory address count).length = count := List.length_ofFn

theorem readAt_writeAt (memory : ℕ → α) (address : ℕ) (data : List α) :
    readAt (writeAt memory address data) address data.length = data := by
  apply List.ext_getElem
  · exact length_readAt ..
  · intro i hi hdata
    simp only [readAt, List.getElem_ofFn, writeAt]
    rw [if_neg (by omega), Nat.add_sub_cancel_left, List.getD_eq_getElem _ _ hdata]

theorem writeAt_of_disjoint {memory : ℕ → α} {a address : ℕ} {data : List α}
    (h : a < address ∨ address + data.length ≤ a) : writeAt memory address data a = memory a := by
  rw [writeAt]
  split
  · rfl
  · rw [List.getD_eq_default _ _ (by omega)]

theorem readAt_congr {memory memory' : ℕ → α} {address address' count : ℕ}
    (h : ∀ i < count, memory (address + i) = memory' (address' + i)) :
    readAt memory address count = readAt memory' address' count := by
  apply List.ext_getElem
  · rw [length_readAt, length_readAt]
  · intro i hi hi'
    rw [length_readAt] at hi
    simp only [readAt, List.getElem_ofFn]
    exact h i hi

theorem readAt_writeAt_of_disjoint {memory : ℕ → α} {address count target : ℕ} {data : List α}
    (h : address + count ≤ target ∨ target + data.length ≤ address) :
    readAt (writeAt memory target data) address count = readAt memory address count := by
  apply readAt_congr
  intro i hi
  exact writeAt_of_disjoint (by omega)

theorem readAt_add {memory : ℕ → α} {address offset count : ℕ} {data : List α}
    (h : readAt memory address data.length = data) (hcount : offset + count ≤ data.length) :
    readAt memory (address + offset) count = slice data offset count := by
  have hslice := length_slice hcount
  apply List.ext_getElem
  · rw [length_readAt, hslice]
  · intro i hi hi'
    rw [length_readAt] at hi
    have hbyte := List.getElem_of_eq h (i := offset + i) (by rw [length_readAt]; omega)
    simp only [readAt, List.getElem_ofFn] at hbyte ⊢
    simp only [slice, List.getElem_take, List.getElem_drop]
    rw [← hbyte, Nat.add_assoc]

end DevDriver.Library
