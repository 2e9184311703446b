import Mathlib.Data.List.Range
import Mathlib.Tactic.Ring

/-!
# Values as words

A codec tells a value by a fixed number of words and reads it back from them.  A list of values is
told by the words of its members behind one another, and a reader that knows where they start and
how many they are gets it back.
-/

namespace DevDriver.Library

variable {α W : Type}

/-- The words that are read are those of the list. -/
def ReadsWords (words : List W) (read : ℕ → W) : Prop :=
  ∀ i < words.length, words[i]? = some (read i)

theorem ReadsWords.get {words : List W} {read : ℕ → W} (h : ReadsWords words read) {i : ℕ} {w : W}
    (hw : words[i]? = some w) : read i = w := by
  obtain ⟨hi, -⟩ := List.getElem?_eq_some_iff.mp hw
  rw [h i hi] at hw
  exact Option.some.inj hw

theorem ReadsWords.append {words words' : List W} {read : ℕ → W}
    (h : ReadsWords (words ++ words') read) :
    ReadsWords words' fun i => read (words.length + i) := by
  intro i hi
  rw [← h (words.length + i) (by rw [List.length_append]; omega),
    List.getElem?_append_right (Nat.le_add_right _ _), Nat.add_sub_cancel_left]

/-- The words of a value. -/
structure WordCodec (α W : Type) where
  size : ℕ
  words : α → List W
  ofWords : (ℕ → W) → α
  length_words : ∀ a, (words a).length = size
  ofWords_eq : ∀ a read, ReadsWords (words a) read → ofWords read = a

namespace WordCodec

variable (codec : WordCodec α W)

/-- The words of some values. -/
def allWords (values : List α) : List W := values.flatMap codec.words

/-- So many values, read from a word on. -/
def readAll (read : ℕ → W) (count : ℕ) : List α :=
  (List.range count).map fun i => codec.ofWords fun j => read (codec.size * i + j)

theorem length_allWords (values : List α) :
    (codec.allWords values).length = codec.size * values.length := by
  induction values with
  | nil => rfl
  | cons a values ih =>
    rw [allWords, List.flatMap_cons, List.length_append, codec.length_words, ← allWords, ih,
      List.length_cons]
    ring

/-- Values are read back from their words. -/
theorem readAll_allWords {values : List α} {read : ℕ → W}
    (h : ReadsWords (codec.allWords values) read) :
    codec.readAll read values.length = values := by
  induction values generalizing read with
  | nil => rfl
  | cons a values ih =>
    rw [allWords, List.flatMap_cons] at h
    have hlength := codec.length_words a
    have hfirst : ReadsWords (codec.words a) read := by
      intro i hi
      rw [← h i (by rw [List.length_append]; omega), List.getElem?_append_left hi]
    have hrest := ih h.append
    rw [hlength] at hrest
    rw [readAll, List.length_cons, List.range_succ_eq_map, List.map_cons, List.map_map]
    refine congrArg₂ List.cons ?_ ?_
    · exact codec.ofWords_eq a _ (by simpa using hfirst)
    · rw [readAll] at hrest
      refine Eq.trans ?_ hrest
      apply List.map_congr_left
      intro i _
      rw [Function.comp_apply]
      congr 1
      funext j
      congr 1
      rw [Nat.succ_eq_add_one]
      ring

end WordCodec

end DevDriver.Library
