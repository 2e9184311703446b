import Mathlib.Data.List.Basic
import Mathlib.Data.List.Infix
import Mathlib.Data.List.Perm.Basic

/-!
# Sequences in groups

A sequence is kept in a chain of groups, each of which has room for a number of elements.
-/

namespace DevDriver.Library

variable {α : Type} {capacity : ℕ} {a b : α} {g : List α}
  {chain chain' front back back' : List (List α)}

/-- Every group in front of one that is not empty is full. -/
structure Packed (capacity : ℕ) (chain : List (List α)) : Prop where
  length_le : ∀ g ∈ chain, g.length ≤ capacity
  full : chain.Pairwise fun g h => h ≠ [] → g.length = capacity

theorem packed_nil : Packed capacity ([] : List (List α)) := ⟨by simp, .nil⟩

theorem packed_append : Packed capacity (front ++ back) ↔
    Packed capacity front ∧ Packed capacity back ∧
      ∀ g ∈ front, ∀ h ∈ back, h ≠ [] → g.length = capacity := by
  constructor
  · rintro ⟨hlength, hfull⟩
    rw [List.forall_mem_append] at hlength
    obtain ⟨hfront, hback, hacross⟩ := List.pairwise_append.mp hfull
    exact ⟨⟨hlength.1, hfront⟩, ⟨hlength.2, hback⟩, hacross⟩
  · rintro ⟨hfront, hback, hacross⟩
    refine ⟨List.forall_mem_append.mpr ⟨hfront.length_le, hback.length_le⟩, ?_⟩
    exact List.pairwise_append.mpr ⟨hfront.full, hback.full, hacross⟩

theorem packed_cons : Packed capacity (g :: chain) ↔
    g.length ≤ capacity ∧ Packed capacity chain ∧
      (chain.flatten ≠ [] → g.length = capacity) := by
  rw [← List.singleton_append, packed_append]
  have hsingle : Packed capacity [g] ↔ g.length ≤ capacity := by
    constructor
    · intro h
      exact h.length_le g (List.mem_singleton_self g)
    · intro h
      exact ⟨by simpa using h, List.pairwise_singleton _ _⟩
  rw [hsingle]
  simp only [List.forall_mem_singleton, ne_eq, List.flatten_eq_nil_iff, not_forall]
  constructor
  · rintro ⟨hlength, hchain, hfull⟩
    exact ⟨hlength, hchain, fun ⟨h, hmem, hne⟩ => hfull h hmem hne⟩
  · rintro ⟨hlength, hchain, hfull⟩
    exact ⟨hlength, hchain, fun h hmem hne => hfull ⟨h, hmem, hne⟩⟩

theorem Packed.replace (h : Packed capacity (front ++ back)) (hback : Packed capacity back')
    (hempty : back.flatten = [] → back'.flatten = []) : Packed capacity (front ++ back') := by
  obtain ⟨hfront, -, hacross⟩ := packed_append.mp h
  refine packed_append.mpr ⟨hfront, hback, fun g hg x hx hne => ?_⟩
  by_contra hroom
  have hnone : back.flatten = [] := by
    rw [List.flatten_eq_nil_iff]
    intro y hy
    by_contra hy'
    exact hroom (hacross g hg y hy hy')
  exact hne (List.flatten_eq_nil_iff.mp (hempty hnone) x hx)

/-- The last element in front of the first empty group, and the chain without it. -/
def takeLast : List (List α) → Option (α × List (List α))
  | [] => none
  | g :: rest =>
    match g.getLast? with
    | none => none
    | some a =>
      match takeLast rest with
      | some (b, rest) => some (b, g :: rest)
      | none => some (a, g.dropLast :: rest)

theorem flatten_of_takeLast_eq_none (hcapacity : 0 < capacity) (h : Packed capacity chain)
    (hnone : takeLast chain = none) : chain.flatten = [] := by
  cases chain with
  | nil => rfl
  | cons g rest =>
    obtain ⟨-, -, hfull⟩ := packed_cons.mp h
    have hg : g = [] := by
      by_contra hne
      rw [takeLast, List.getLast?_eq_getLast_of_ne_nil hne] at hnone
      dsimp only at hnone
      split at hnone <;> cases hnone
    subst hg
    rw [List.flatten_cons, List.nil_append]
    by_contra hne
    exact hcapacity.ne (hfull hne)

theorem takeLast_spec (hcapacity : 0 < capacity) (h : Packed capacity chain)
    (htake : takeLast chain = some (b, chain')) :
    chain.flatten = chain'.flatten ++ [b] ∧ Packed capacity chain' := by
  induction chain generalizing chain' with
  | nil => cases htake
  | cons g rest ih =>
    obtain ⟨hlength, hrest, hfull⟩ := packed_cons.mp h
    rw [takeLast] at htake
    split at htake
    · cases htake
    · rename_i a hlast
      split at htake
      · rename_i rest' htake'
        cases htake
        obtain ⟨hflatten, hpacked⟩ := ih hrest htake'
        have hne : rest.flatten ≠ [] := by
          rw [hflatten]
          simp
        refine ⟨?_, packed_cons.mpr ⟨hlength, hpacked, fun _ => hfull hne⟩⟩
        rw [List.flatten_cons, List.flatten_cons, hflatten, List.append_assoc]
      · rename_i hnone
        cases htake
        have hempty := flatten_of_takeLast_eq_none hcapacity hrest hnone
        constructor
        · rw [List.flatten_cons, List.flatten_cons, hempty, List.append_nil, List.append_nil]
          exact (List.dropLast_append_getLast? b hlast).symm
        · refine packed_cons.mpr ⟨?_, hrest, fun hne => absurd hempty hne⟩
          rw [List.length_dropLast]
          omega

/-- The element `a` is at the place `i` of the group `k`. -/
def AtPlace (chain : List (List α)) (k i : ℕ) (a : α) : Prop :=
  ∃ front pre post back, chain = front ++ (pre ++ a :: post) :: back ∧ front.length = k ∧
    pre.length = i

variable {k i : ℕ}

theorem AtPlace.mem (h : AtPlace chain k i a) : a ∈ chain.flatten := by
  obtain ⟨front, pre, post, back, rfl, -, -⟩ := h
  simp

theorem atPlace_of_getElem? (hgroup : chain[k]? = some g) (helem : g[i]? = some a) :
    AtPlace chain k i a := by
  obtain ⟨hk, rfl⟩ := List.getElem?_eq_some_iff.mp hgroup
  obtain ⟨hi, rfl⟩ := List.getElem?_eq_some_iff.mp helem
  refine ⟨chain.take k, chain[k].take i, chain[k].drop (i + 1), chain.drop (k + 1), ?_, ?_, ?_⟩
  · rw [← List.drop_eq_getElem_cons hi, List.take_append_drop, ← List.drop_eq_getElem_cons hk,
      List.take_append_drop]
  · exact List.length_take_of_le hk.le
  · exact List.length_take_of_le hi.le

theorem AtPlace.getElem? (h : AtPlace chain k i a) : (chain[k]?.bind fun g => g[i]?) = some a := by
  obtain ⟨front, pre, post, back, rfl, rfl, rfl⟩ := h
  simp

/-- Another element is put into a place. -/
def putAt (k i : ℕ) (b : α) (chain : List (List α)) : List (List α) := chain.modify k (·.set i b)

theorem AtPlace.putAt_eq (h : AtPlace chain k i a) (b : α) : ∃ front pre post back,
    chain = front ++ (pre ++ a :: post) :: back ∧
      putAt k i b chain = front ++ (pre ++ b :: post) :: back := by
  obtain ⟨front, pre, post, back, rfl, rfl, rfl⟩ := h
  refine ⟨front, pre, post, back, rfl, ?_⟩
  rw [putAt, List.modify_eq_take_cons_drop (by simp)]
  simp

theorem AtPlace.packed_putAt (h : AtPlace chain k i a) (hpacked : Packed capacity chain) (b : α) :
    Packed capacity (putAt k i b chain) := by
  obtain ⟨front, pre, post, back, hchain, hput⟩ := h.putAt_eq b
  rw [hput]
  rw [hchain] at hpacked
  obtain ⟨-, hback, -⟩ := packed_append.mp hpacked
  obtain ⟨hlength, hrest, hfull⟩ := packed_cons.mp hback
  have hsame : (pre ++ b :: post).length = (pre ++ a :: post).length := by simp
  apply hpacked.replace
  · rw [packed_cons, hsame]
    exact ⟨hlength, hrest, hfull⟩
  · simp

/-- The last element is put over the element `i` of the first group, unless it is that one: then
it is not there any more. -/
def swapOut (i : ℕ) (chain : List (List α)) : List (List α) :=
  match takeLast chain with
  | some (b, rest) => rest.modifyHead (·.set i b)
  | none => chain

/-- The element `i` of the first group is the last one. -/
def isLastPlace (i : ℕ) (chain : List (List α)) : Bool :=
  match takeLast chain with
  | some (_, rest) => rest.head?.all fun g => g.length ≤ i
  | none => false

/-- What is in front of the element stays, and behind it everything else stays in some order. -/
theorem swapOut_spec {pre post : List α} (hcapacity : 0 < capacity)
    (h : Packed capacity ((pre ++ a :: post) :: back)) : ∃ post' back',
    swapOut pre.length ((pre ++ a :: post) :: back) = (pre ++ post') :: back' ∧
      (post' ++ back'.flatten).Perm (post ++ back.flatten) ∧
      Packed capacity ((pre ++ post') :: back') ∧
      (isLastPlace pre.length ((pre ++ a :: post) :: back) = true ↔ post' = []) ∧
      (post' = [] → post ++ back.flatten = []) := by
  obtain ⟨hlength, hback, hfull⟩ := packed_cons.mp h
  obtain ⟨c, hlast⟩ : ∃ c, (pre ++ a :: post).getLast? = some c :=
    ⟨_, List.getLast?_eq_getLast_of_ne_nil (by simp)⟩
  cases htake : takeLast back with
  | some x =>
    obtain ⟨b, back'⟩ := x
    obtain ⟨hflatten, hpacked⟩ := takeLast_spec hcapacity hback htake
    have htake' :
        takeLast ((pre ++ a :: post) :: back) = some (b, (pre ++ a :: post) :: back') := by
      rw [takeLast, hlast]
      rw [htake]
    refine ⟨b :: post, back', ?_, ?_, ?_, ?_, by nofun⟩
    · rw [swapOut, htake']
      simp
    · rw [hflatten, ← List.append_assoc]
      exact (List.perm_append_singleton b _).symm
    · rw [packed_cons]
      refine ⟨by simpa using hlength, hpacked, fun _ => ?_⟩
      have hne : back.flatten ≠ [] := by
        rw [hflatten]
        simp
      simpa using hfull hne
    · rw [isLastPlace, htake']
      simp
  | none =>
    have hempty := flatten_of_takeLast_eq_none hcapacity hback htake
    have htake' : takeLast ((pre ++ a :: post) :: back) =
        some (c, (pre ++ a :: post).dropLast :: back) := by
      rw [takeLast, hlast]
      rw [htake]
    rw [swapOut, isLastPlace, htake', hempty, List.append_nil]
    rcases List.eq_nil_or_concat' post with rfl | ⟨post, d, rfl⟩
    · refine ⟨[], back, ?_, by simp [hempty], ?_, by simp, by simp⟩
      · simp [List.set_eq_of_length_le]
      · rw [packed_cons]
        refine ⟨?_, hback, fun hne => absurd hempty hne⟩
        simp at hlength ⊢
        omega
    · have hdrop : (pre ++ a :: (post ++ [d])).dropLast = pre ++ a :: post := by
        rw [← List.cons_append, ← List.append_assoc, List.dropLast_concat]
      have hc : c = d := by
        rw [← List.cons_append, ← List.append_assoc, List.getLast?_concat] at hlast
        exact (Option.some.inj hlast).symm
      subst hc
      rw [hdrop]
      refine ⟨c :: post, back, by simp, ?_, ?_, by simp, by nofun⟩
      · rw [hempty, List.append_nil]
        exact (List.perm_append_singleton c post).symm
      · rw [packed_cons]
        refine ⟨?_, hback, fun hne => absurd hempty hne⟩
        simp at hlength ⊢
        omega

/-! ## Searching -/

section Searching

variable {p : α → Bool}

/-- The place of the first element with a property. -/
def findPlace (p : α → Bool) : List (List α) → Option (ℕ × ℕ)
  | [] => none
  | g :: rest =>
    match g.findIdx? p with
    | some i => some (0, i)
    | none => (findPlace p rest).map fun place => (place.1 + 1, place.2)

/-- The same search, with the first empty group as the end. -/
def findPlaceBeforeEmpty (p : α → Bool) : List (List α) → Option (ℕ × ℕ)
  | [] => none
  | g :: rest =>
    if g = [] then none
    else
      match g.findIdx? p with
      | some i => some (0, i)
      | none => (findPlaceBeforeEmpty p rest).map fun place => (place.1 + 1, place.2)

theorem findPlace_eq_some {place : ℕ × ℕ} (h : findPlace p chain = some place) :
    ∃ a, AtPlace chain place.1 place.2 a ∧ p a = true := by
  induction chain generalizing place with
  | nil => cases h
  | cons g rest ih =>
    rw [findPlace] at h
    split at h
    · rename_i i hfind
      cases h
      obtain ⟨hi, hp, -⟩ := List.findIdx?_eq_some_iff_getElem.mp hfind
      exact ⟨g[i], atPlace_of_getElem? rfl (List.getElem?_eq_getElem hi), hp⟩
    · obtain ⟨place', hfind, rfl⟩ := Option.map_eq_some_iff.mp h
      obtain ⟨a, ⟨front, pre, post, back, rfl, hfront, hpre⟩, hp⟩ := ih hfind
      exact ⟨a, ⟨g :: front, pre, post, back, rfl, congrArg Nat.succ hfront, hpre⟩, hp⟩

theorem findPlace_eq_none : findPlace p chain = none ↔ ∀ a ∈ chain.flatten, p a = false := by
  induction chain with
  | nil => simp [findPlace]
  | cons g rest ih =>
    rw [findPlace, List.flatten_cons, List.forall_mem_append, ← ih]
    split
    · rename_i i hfind
      obtain ⟨hi, hp, -⟩ := List.findIdx?_eq_some_iff_getElem.mp hfind
      constructor
      · nofun
      · rintro ⟨hnone, -⟩
        rw [hnone _ (List.getElem_mem hi)] at hp
        cases hp
    · rename_i hfind
      rw [List.findIdx?_eq_none_iff] at hfind
      rw [Option.map_eq_none_iff]
      exact ⟨fun hnone => ⟨hfind, hnone⟩, And.right⟩

theorem findPlaceBeforeEmpty_eq (hcapacity : 0 < capacity) (h : Packed capacity chain) :
    findPlaceBeforeEmpty p chain = findPlace p chain := by
  induction chain with
  | nil => rfl
  | cons g rest ih =>
    obtain ⟨-, hrest, hfull⟩ := packed_cons.mp h
    rw [findPlaceBeforeEmpty, ih hrest]
    split
    · rename_i hg
      subst hg
      have hempty : rest.flatten = [] := by
        by_contra hne
        exact hcapacity.ne (hfull hne)
      symm
      rw [findPlace_eq_none, List.flatten_cons, hempty]
      simp
    · rfl

/-- Where an element is, or else where it can be put. -/
inductive Slot where
  | found (k i : ℕ)
  | room (k : ℕ)
  | newGroup
  deriving DecidableEq

/-- The slot seen from one group before. -/
def Slot.succ : Slot → Slot
  | .found k i => .found (k + 1) i
  | .room k => .room (k + 1)
  | .newGroup => .newGroup

/-- The place of the first element with a property, or the first group with room in front of it. -/
def findSlot (capacity : ℕ) (p : α → Bool) : List (List α) → Slot
  | [] => .newGroup
  | g :: rest =>
    match g.findIdx? p with
    | some i => .found 0 i
    | none => if g.length < capacity then .room 0 else (findSlot capacity p rest).succ

theorem findPlace_of_found (h : findSlot capacity p chain = .found k i) :
    findPlace p chain = some (k, i) := by
  induction chain generalizing k with
  | nil => cases h
  | cons g rest ih =>
    rw [findSlot] at h
    rw [findPlace]
    split at h
    · cases h
      rfl
    · split at h
      · cases h
      · cases hslot : findSlot capacity p rest with
        | found k' i' =>
          rw [hslot] at h
          cases h
          rw [ih hslot]
          rfl
        | _ =>
          rw [hslot] at h
          cases h

/-- Another element is put behind those of a group. -/
def addAt (k : ℕ) (a : α) (chain : List (List α)) : List (List α) := chain.modify k (· ++ [a])

/-- A group has room only at the end of a packed chain. -/
theorem findSlot_room (h : Packed capacity chain) (hroom : findSlot capacity p chain = .room k)
    (a : α) : findPlace p chain = none ∧ Packed capacity (addAt k a chain) ∧
      (addAt k a chain).flatten = chain.flatten ++ [a] := by
  induction chain generalizing k with
  | nil => cases hroom
  | cons g rest ih =>
    obtain ⟨hlength, hrest, hfull⟩ := packed_cons.mp h
    rw [findSlot] at hroom
    split at hroom
    · cases hroom
    · rename_i hfind
      split at hroom
      · rename_i hlt
        cases hroom
        have hempty : rest.flatten = [] := by
          by_contra hne
          exact hlt.ne (hfull hne)
        refine ⟨?_, ?_, ?_⟩
        · rw [List.findIdx?_eq_none_iff] at hfind
          rw [findPlace_eq_none, List.flatten_cons, hempty, List.append_nil]
          exact hfind
        · rw [addAt, List.modify_zero_cons, packed_cons]
          refine ⟨?_, hrest, fun hne => absurd hempty hne⟩
          rw [List.length_append]
          exact hlt
        · simp [addAt, hempty]
      · rename_i hge
        cases hslot : findSlot capacity p rest with
        | room k' =>
          rw [hslot] at hroom
          cases hroom
          obtain ⟨hnone, hpacked, hflatten⟩ := ih hrest hslot
          refine ⟨?_, ?_, ?_⟩
          · rw [findPlace, hfind, hnone]
            rfl
          · rw [addAt, List.modify_succ_cons, packed_cons]
            exact ⟨hlength, hpacked, fun _ => by omega⟩
          · rw [addAt, List.modify_succ_cons, List.flatten_cons, List.flatten_cons,
              List.append_assoc, ← hflatten]
            rfl
        | _ =>
          rw [hslot] at hroom
          cases hroom

theorem findSlot_newGroup (hcapacity : 0 < capacity) (h : Packed capacity chain)
    (hslot : findSlot capacity p chain = .newGroup) (a : α) :
    findPlace p chain = none ∧ Packed capacity (chain ++ [[a]]) ∧
      (chain ++ [[a]]).flatten = chain.flatten ++ [a] := by
  induction chain with
  | nil =>
    refine ⟨rfl, ?_, rfl⟩
    rw [List.nil_append, packed_cons]
    exact ⟨hcapacity, packed_nil, fun hne => absurd rfl hne⟩
  | cons g rest ih =>
    obtain ⟨hlength, hrest, hfull⟩ := packed_cons.mp h
    rw [findSlot] at hslot
    split at hslot
    · cases hslot
    · rename_i hfind
      split at hslot
      · cases hslot
      · rename_i hge
        cases hnext : findSlot capacity p rest with
        | newGroup =>
          obtain ⟨hnone, hpacked, hflatten⟩ := ih hrest hnext
          refine ⟨?_, ?_, ?_⟩
          · rw [findPlace, hfind, hnone]
            rfl
          · rw [List.cons_append, packed_cons]
            exact ⟨hlength, hpacked, fun _ => by omega⟩
          · rw [List.cons_append, List.flatten_cons, hflatten, List.flatten_cons,
              List.append_assoc]
        | _ =>
          rw [hnext] at hslot
          cases hslot

end Searching

end DevDriver.Library
