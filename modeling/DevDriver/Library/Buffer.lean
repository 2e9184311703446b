import Mathlib.Data.List.Basic

/-!
# Byte buffers

A buffer is a list of bytes whose length never changes.  `overwrite` is the copy of some bytes
to an offset of a buffer, `slice` the read of some bytes at an offset, `chunksOf` the pieces that
data is sent in, and `walkChunks` the chunks of a file.
-/

namespace DevDriver.Library

variable {α : Type}

/-- The buffer after `data` is copied to `offset`. -/
def overwrite (buffer : List α) (offset : ℕ) (data : List α) : List α :=
  buffer.take offset ++ data ++ buffer.drop (offset + data.length)

/-- The `count` bytes of a buffer from `offset` on. -/
def slice (buffer : List α) (offset count : ℕ) : List α := (buffer.drop offset).take count

variable {buffer : List α} {size : ℕ} {data : List α} {offset : ℕ}

theorem length_overwrite (h : offset + data.length ≤ buffer.length) :
    (overwrite buffer offset data).length = buffer.length := by
  simp only [overwrite, List.length_append, List.length_take, List.length_drop]
  omega

theorem take_overwrite (h : offset ≤ buffer.length) (data : List α) :
    (overwrite buffer offset data).take (offset + data.length) =
      buffer.take offset ++ data := by
  have hlength : (buffer.take offset ++ data).length = offset + data.length := by
    rw [List.length_append, List.length_take, Nat.min_eq_left h]
  rw [overwrite, ← hlength]
  exact List.take_left

theorem overwrite_nil (buffer : List α) (offset : ℕ) : overwrite buffer offset [] = buffer := by
  rw [overwrite, List.append_nil, List.length_nil, Nat.add_zero, List.take_append_drop]

theorem overwrite_overwrite (h : offset ≤ buffer.length) (first second : List α) :
    overwrite (overwrite buffer offset first) (offset + first.length) second =
      overwrite buffer offset (first ++ second) := by
  have hlength : (buffer.take offset ++ first).length = offset + first.length := by
    rw [List.length_append, List.length_take, Nat.min_eq_left h]
  have hdrop : (overwrite buffer offset first).drop (offset + first.length + second.length) =
      buffer.drop (offset + (first ++ second).length) := by
    rw [overwrite, ← hlength, List.drop_length_add_append, List.drop_drop, hlength,
      List.length_append, Nat.add_assoc]
  rw [overwrite, take_overwrite h, hdrop, overwrite, List.append_assoc (buffer.take offset)]

variable {count : ℕ}

theorem length_slice (h : offset + count ≤ buffer.length) :
    (slice buffer offset count).length = count := by
  rw [slice, List.length_take, List.length_drop]
  omega

theorem take_append_add {l₁ l₂ : List α} {n : ℕ} (h : l₁.length = n) (m : ℕ) :
    (l₁ ++ l₂).take (n + m) = l₁ ++ l₂.take m := by
  subst h
  exact List.take_length_add_append ..

theorem slice_add (buffer : List α) (offset m n : ℕ) :
    slice buffer offset (m + n) = slice buffer offset m ++ slice buffer (offset + m) n := by
  rw [slice, slice, slice, List.take_add, List.drop_drop]

theorem slice_take {n : ℕ} (h : offset + count ≤ n) :
    slice (buffer.take n) offset count = slice buffer offset count := by
  rw [slice, slice, List.drop_take, List.take_take, Nat.min_eq_left (by omega)]

theorem slice_append_left {l₁ l₂ : List α} (h : offset + count ≤ l₁.length) :
    slice (l₁ ++ l₂) offset count = slice l₁ offset count := by
  rw [slice, slice, List.drop_append_of_le_length (by omega), List.take_append_of_le_length]
  rw [List.length_drop]
  omega

@[simp]
theorem slice_zero (buffer : List α) (offset : ℕ) : slice buffer offset 0 = [] := rfl

/-- The pieces of at most `size` bytes that data is cut into from its front. -/
def chunksOf (size : ℕ) (data : List α) : List (List α) :=
  if _h : data = [] ∨ size = 0 then [] else data.take size :: chunksOf size (data.drop size)
termination_by data.length
decreasing_by
  obtain ⟨hdata, hsize⟩ := not_or.mp ‹_›
  have hlength := List.length_pos_of_ne_nil hdata
  rw [List.length_drop]
  omega

@[simp]
theorem chunksOf_nil (size : ℕ) : chunksOf size ([] : List α) = [] := by
  rw [chunksOf, dif_pos (.inl rfl)]

theorem chunksOf_ne_nil (hsize : 0 < size) (hdata : data ≠ []) :
    chunksOf size data = data.take size :: chunksOf size (data.drop size) := by
  rw [chunksOf, dif_neg]
  rintro (rfl | rfl)
  · exact hdata rfl
  · exact absurd hsize (Nat.lt_irrefl 0)

theorem flatten_chunksOf (hsize : 0 < size) (data : List α) :
    (chunksOf size data).flatten = data := by
  fun_induction chunksOf size data with
  | case1 data h =>
    rcases h with rfl | rfl
    · rfl
    · exact absurd hsize (Nat.lt_irrefl 0)
  | case2 data h ih => rw [List.flatten_cons, ih, List.take_append_drop]

theorem length_le_of_mem_chunksOf {chunk : List α} (h : chunk ∈ chunksOf size data) :
    chunk.length ≤ size := by
  fun_induction chunksOf size data with
  | case1 => cases h
  | case2 data hdata ih =>
    rcases List.mem_cons.mp h with rfl | h
    · exact List.length_take_le _ _
    · exact ih h

theorem ne_nil_of_mem_chunksOf {chunk : List α} (h : chunk ∈ chunksOf size data) : chunk ≠ [] := by
  fun_induction chunksOf size data with
  | case1 => cases h
  | case2 data hdata ih =>
    rcases List.mem_cons.mp h with rfl | h
    · rw [ne_eq, List.take_eq_nil_iff]
      exact fun hnil => hdata hnil.symm
    · exact ih h

/-- The chunks up to the end of some data, in some rounds at most.  Each tells its size, which is
that of its header at least; there is nothing when one does not end in the data. -/
def walkChunks (headerSize : ℕ) (sizeOf : List α → ℕ) : ℕ → List α → Option (List (List α))
  | 0, _ => none
  | rounds + 1, rest =>
    if rest.isEmpty then some []
    else if headerSize ≤ sizeOf rest ∧ sizeOf rest ≤ rest.length then
      (walkChunks headerSize sizeOf rounds (rest.drop (sizeOf rest))).map
        (rest.take (sizeOf rest) :: ·)
    else none

theorem walkChunks_flatten {headerSize : ℕ} {sizeOf : List α → ℕ} (hheader : 0 < headerSize)
    {blocks : List (List α)}
    (h : ∀ block ∈ blocks, headerSize ≤ block.length ∧
      ∀ rest, sizeOf (block ++ rest) = block.length) {rounds : ℕ}
    (hrounds : blocks.flatten.length < rounds) :
    walkChunks headerSize sizeOf rounds blocks.flatten = some blocks := by
  induction blocks generalizing rounds with
  | nil =>
    cases rounds with
    | zero => exact absurd hrounds (Nat.not_lt_zero _)
    | succ rounds => rfl
  | cons block blocks ih =>
    rw [List.forall_mem_cons] at h
    obtain ⟨⟨hle, hsize⟩, hrest⟩ := h
    rw [List.flatten_cons, List.length_append] at hrounds
    cases rounds with
    | zero => exact absurd hrounds (Nat.not_lt_zero _)
    | succ rounds =>
      have hne : ¬ (block ++ blocks.flatten).isEmpty = true := by
        rw [List.isEmpty_iff_length_eq_zero, List.length_append]
        omega
      rw [List.flatten_cons, walkChunks, if_neg hne, hsize, if_pos, List.drop_left, List.take_left,
        ih hrest (by omega), Option.map_some]
      exact ⟨hle, by rw [List.length_append]; omega⟩

end DevDriver.Library
