import Mathlib.Data.List.Basic
import Mathlib.Data.List.Nodup
import Mathlib.Logic.Function.Basic
import Mathlib.Order.Basic
import Mathlib.Data.Nat.Basic

/-!
# Who owns an allocation

The allocations of a program are numbered.  Each of them is owned by one of the places that the
program keeps, until it is freed; it is accounted for when it is owned by exactly one place or has
been freed once.
-/

namespace DevDriver.Library

variable {σ : Type}

/-- What each place owns, how many allocations there were, and those that were freed. -/
structure Ownership (σ : Type) where
  owned : σ → Option ℕ
  allocated : ℕ
  freed : List ℕ

namespace Ownership

/-- Every allocation is owned by one place, or was freed once. -/
structure Accounted (o : Ownership σ) : Prop where
  unique : ∀ a b m, o.owned a = some m → o.owned b = some m → a = b
  live : ∀ a m, o.owned a = some m → m < o.allocated ∧ m ∉ o.freed
  nodup : o.freed.Nodup
  lt : ∀ m ∈ o.freed, m < o.allocated
  covered : ∀ m < o.allocated, m ∈ o.freed ∨ ∃ a, o.owned a = some m

variable {o : Ownership σ}

theorem accounted_nothing : Accounted (⟨fun _ => none, 0, []⟩ : Ownership σ) := by
  constructor
  · nofun
  · nofun
  · exact .nil
  · nofun
  · intro m hm
    exact absurd hm (Nat.not_lt_zero m)

/-- An empty place gets an allocation. -/
def allocate [DecidableEq σ] (o : Ownership σ) (a : σ) : Ownership σ where
  owned := Function.update o.owned a (some o.allocated)
  allocated := o.allocated + 1
  freed := o.freed

theorem Accounted.allocate [DecidableEq σ] (h : o.Accounted) {a : σ} (hempty : o.owned a = none) :
    (o.allocate a).Accounted := by
  have howned : ∀ b m, (o.allocate a).owned b = some m →
      (b = a ∧ m = o.allocated) ∨ (b ≠ a ∧ o.owned b = some m) := by
    intro b m hb
    unfold Ownership.allocate at hb
    dsimp only at hb
    rcases eq_or_ne b a with rfl | hne
    · rw [Function.update_self] at hb
      exact .inl ⟨rfl, (Option.some.inj hb).symm⟩
    · rw [Function.update_of_ne hne] at hb
      exact .inr ⟨hne, hb⟩
  have hnew : ∀ b, o.owned b ≠ some o.allocated := fun b hb =>
    absurd (h.live b _ hb).1 (Nat.lt_irrefl _)
  constructor
  · intro b c m hb hc
    rcases howned b m hb with ⟨rfl, rfl⟩ | ⟨-, hb'⟩
    · rcases howned c _ hc with ⟨rfl, -⟩ | ⟨-, hc'⟩
      · rfl
      · exact absurd hc' (hnew c)
    · rcases howned c m hc with ⟨rfl, rfl⟩ | ⟨-, hc'⟩
      · exact absurd hb' (hnew b)
      · exact h.unique b c m hb' hc'
  · intro b m hb
    rcases howned b m hb with ⟨rfl, rfl⟩ | ⟨-, hb⟩
    · exact ⟨Nat.lt_succ_self _, fun hmem => absurd (h.lt _ hmem) (Nat.lt_irrefl _)⟩
    · exact ⟨Nat.lt_succ_of_lt (h.live b m hb).1, (h.live b m hb).2⟩
  · exact h.nodup
  · intro m hm
    exact Nat.lt_succ_of_lt (h.lt m hm)
  · intro m hm
    rcases Nat.lt_succ_iff_lt_or_eq.mp hm with hlt | rfl
    · rcases h.covered m hlt with hfreed | ⟨b, hb⟩
      · exact .inl hfreed
      · have hne : b ≠ a := by
          rintro rfl
          rw [hempty] at hb
          cases hb
        exact .inr ⟨b, (Function.update_of_ne hne _ _).trans hb⟩
    · exact .inr ⟨a, Function.update_self _ _ _⟩

/-- The places are exchanged among each other. -/
def exchange (o : Ownership σ) (f : σ → σ) : Ownership σ := { o with owned := o.owned ∘ f }

theorem Accounted.exchange (h : o.Accounted) {f : σ → σ} (hf : Function.Involutive f) :
    (o.exchange f).Accounted := by
  constructor
  · intro a b m ha hb
    exact hf.injective (h.unique _ _ m ha hb)
  · intro a m ha
    exact h.live (f a) m ha
  · exact h.nodup
  · exact h.lt
  · intro m hm
    rcases h.covered m hm with hfreed | ⟨a, ha⟩
    · exact .inl hfreed
    · exact .inr ⟨f a, (congrArg o.owned (hf a)).trans ha⟩

/-- What some places own is freed. -/
def free [DecidableEq σ] (o : Ownership σ) (places : List σ) : Ownership σ where
  owned a := if a ∈ places then none else o.owned a
  allocated := o.allocated
  freed := o.freed ++ places.filterMap o.owned

theorem Accounted.free [DecidableEq σ] (h : o.Accounted) {places : List σ}
    (hplaces : places.Nodup) : (o.free places).Accounted := by
  have howned : ∀ a m, (o.free places).owned a = some m → a ∉ places ∧ o.owned a = some m := by
    intro a m ha
    unfold Ownership.free at ha
    dsimp only at ha
    split at ha
    · cases ha
    · rename_i hout
      exact ⟨hout, ha⟩
  constructor
  · intro a b m ha hb
    exact h.unique a b m (howned a m ha).2 (howned b m hb).2
  · intro a m ha
    obtain ⟨hout, ha⟩ := howned a m ha
    obtain ⟨hlt, hnot⟩ := h.live a m ha
    refine ⟨hlt, fun hmem => ?_⟩
    rcases List.mem_append.mp hmem with hfreed | hfreed
    · exact hnot hfreed
    · obtain ⟨b, hb, hown⟩ := List.mem_filterMap.mp hfreed
      exact hout (h.unique a b m ha hown ▸ hb)
  · refine List.nodup_append.mpr ⟨h.nodup, ?_, ?_⟩
    · exact hplaces.filterMap fun a b m ha hb => h.unique a b m ha hb
    · rintro m hm _ hm' rfl
      obtain ⟨a, -, ha⟩ := List.mem_filterMap.mp hm'
      exact (h.live a m ha).2 hm
  · intro m hm
    rcases List.mem_append.mp hm with hm | hm
    · exact h.lt m hm
    · obtain ⟨a, -, ha⟩ := List.mem_filterMap.mp hm
      exact (h.live a m ha).1
  · intro m hm
    rcases h.covered m hm with hfreed | ⟨a, ha⟩
    · exact .inl (List.mem_append_left _ hfreed)
    · by_cases hin : a ∈ places
      · exact .inl (List.mem_append_right _ (List.mem_filterMap.mpr ⟨a, hin, ha⟩))
      · exact .inr ⟨a, (if_neg hin).trans ha⟩

end Ownership

end DevDriver.Library
