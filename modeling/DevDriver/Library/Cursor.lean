import Mathlib.Data.List.Forall2
import Mathlib.Algebra.GroupWithZero.Nat

/-!
# Cursors

A cursor is a step function that moves from an element to the next one and says when there is no
next one.  `Yields next a bs` says that from `a` on it hands out the elements `bs` and then ends; a
cursor that goes on for ever yields no list.
-/

namespace DevDriver.Library

variable {α β : Type} {next : α → Option α} {a b : α} {bs : List α}

/-- From `a` on, `next` hands out `bs` and then ends. -/
inductive Yields (next : α → Option α) : α → List α → Prop where
  | nil {a : α} (h : next a = none) : Yields next a []
  | cons {a b : α} {bs : List α} (h : next a = some b) (hrest : Yields next b bs) :
      Yields next a (b :: bs)

namespace Yields

theorem unique {cs : List α} (h : Yields next a bs) (h' : Yields next a cs) : bs = cs := by
  induction h generalizing cs with
  | nil hnone =>
    cases h' with
    | nil _ => rfl
    | cons hsome _ => rw [hnone] at hsome; cases hsome
  | cons hsome _ ih =>
    cases h' with
    | nil hnone => rw [hsome] at hnone; cases hnone
    | cons hsome' hrest =>
      obtain rfl := Option.some.inj (hsome.symm.trans hsome')
      rw [ih hrest]

theorem exists_step (h : Yields next a bs) (hb : b ∈ bs) : ∃ a, next a = some b := by
  induction h with
  | nil _ => cases hb
  | @cons a _ _ hsome _ ih =>
    rcases List.mem_cons.mp hb with rfl | hb
    · exact ⟨a, hsome⟩
    · exact ih hb

/-- A cursor whose steps come closer to a bound ends. -/
theorem exists_of_bound {P : α → Prop} (position : α → ℕ) (bound : ℕ) (ha : P a)
    (hstep : ∀ a b, P a → next a = some b → P b ∧ position a < position b ∧ position b < bound) :
    ∃ bs, Yields next a bs := by
  induction hmeasure : bound - position a using Nat.strongRecOn generalizing a with
  | ind n ih =>
    cases hnext : next a with
    | none => exact ⟨[], .nil hnext⟩
    | some b =>
      obtain ⟨hb, hlt, hbound⟩ := hstep a b ha hnext
      obtain ⟨bs, hbs⟩ := ih (bound - position b) (by omega) hb rfl
      exact ⟨b :: bs, .cons hnext hbs⟩

theorem map {next' : β → Option β} {f : β → α} {y : β} {ys : List β} (h : Yields next' y ys)
    (hmap : ∀ y, next (f y) = (next' y).map f) : Yields next (f y) (ys.map f) := by
  induction h with
  | nil hnone => exact .nil (by rw [hmap, hnone]; rfl)
  | cons hsome _ ih => exact .cons (by rw [hmap, hsome]; rfl) ih

theorem of_map {next' : β → Option β} {f : β → α} (hmap : ∀ y, next (f y) = (next' y).map f)
    {y : β} (h : Yields next (f y) bs) : ∃ ys, bs = ys.map f ∧ Yields next' y ys := by
  generalize hfy : f y = x at h
  induction h generalizing y with
  | nil hnone =>
    subst hfy
    rw [hmap] at hnone
    exact ⟨[], rfl, .nil (Option.map_eq_none_iff.mp hnone)⟩
  | cons hsome _ ih =>
    subst hfy
    rw [hmap] at hsome
    obtain ⟨z, hz, hfz⟩ := Option.map_eq_some_iff.mp hsome
    obtain ⟨ys, rfl, hys⟩ := ih hfz
    exact ⟨z :: ys, by rw [List.map_cons, hfz], .cons hz hys⟩

end Yields

/-- What a cursor hands out from an element on, in some rounds at most. -/
def collect (next : α → Option α) : ℕ → α → Option (List α)
  | 0, _ => none
  | rounds + 1, a =>
    match next a with
    | none => some []
    | some b => (collect next rounds b).map (b :: ·)

/-- Enough rounds are more than there are elements. -/
theorem collect_eq_some_iff {rounds : ℕ} :
    collect next rounds a = some bs ↔ Yields next a bs ∧ bs.length < rounds := by
  induction rounds generalizing a bs with
  | zero => simp [collect]
  | succ rounds ih =>
    rw [collect]
    cases hnext : next a with
    | none =>
      constructor
      · intro h
        cases h
        exact ⟨.nil hnext, Nat.succ_pos _⟩
      · rintro ⟨h, -⟩
        rw [h.unique (.nil hnext)]
    | some b =>
      show (collect next rounds b).map _ = _ ↔ _
      rw [Option.map_eq_some_iff]
      constructor
      · rintro ⟨cs, hcs, rfl⟩
        obtain ⟨hyields, hlength⟩ := ih.mp hcs
        exact ⟨.cons hnext hyields, Nat.succ_lt_succ hlength⟩
      · rintro ⟨h, hlength⟩
        cases h with
        | nil hnone =>
          rw [hnext] at hnone
          cases hnone
        | cons hsome hrest =>
          obtain rfl := Option.some.inj (hnext.symm.trans hsome)
          exact ⟨_, ih.mpr ⟨hrest, Nat.lt_of_succ_lt_succ hlength⟩, rfl⟩

/-! ## Records one behind the other -/

/-- From the record at a position to the next one, when it starts in front of `bound`.  No record
starts at `0`, from where the first one is found. -/
def nextPosition (first : ℕ) (size : ℕ → ℕ) (bound position : ℕ) : Option ℕ :=
  let next := if position = 0 then first else position + size position
  if next < bound then some next else none

/-- From a position on, records that meet `inside` follow each other until one ends at `bound` or
behind it. -/
inductive RecordsFit (size : ℕ → ℕ) (bound : ℕ) (inside : ℕ → Prop) : ℕ → Prop where
  | done {position : ℕ} (h : bound ≤ position) : RecordsFit size bound inside position
  | record {position : ℕ} (h : position < bound) (hinside : inside position)
      (hrest : RecordsFit size bound inside (position + size position)) :
      RecordsFit size bound inside position

/-- From a position on, the records that follow each other until one ends at `bound` or behind
it. -/
inductive RecordsAt (size : ℕ → ℕ) (bound : ℕ) : ℕ → List ℕ → Prop where
  | done {position : ℕ} (h : bound ≤ position) : RecordsAt size bound position []
  | record {position : ℕ} {ps : List ℕ} (h : position < bound)
      (hrest : RecordsAt size bound (position + size position) ps) :
      RecordsAt size bound position (position :: ps)

section Records

variable {first : ℕ} {size : ℕ → ℕ} {bound position : ℕ} {inside : ℕ → Prop}

theorem nextPosition_of_pos (h : 0 < position) : nextPosition first size bound position =
    if position + size position < bound then some (position + size position) else none := by
  rw [nextPosition, if_neg (Nat.ne_of_gt h)]

theorem RecordsFit.size_pos (h : RecordsFit size bound inside position) (hlt : position < bound) :
    0 < size position := by
  induction h with
  | done hge => exact absurd hlt (Nat.not_lt.mpr hge)
  | @record position _ _ _ ih =>
    by_contra hzero
    have hsame : position + size position = position := by omega
    rw [hsame] at ih
    exact hzero (ih hlt)

theorem RecordsFit.mono {inside' : ℕ → Prop} (h : RecordsFit size bound inside position)
    (himp : ∀ p, p < bound → inside p → inside' p) : RecordsFit size bound inside' position := by
  induction h with
  | done hge => exact .done hge
  | record hlt hinside _ ih => exact .record hlt (himp _ hlt hinside) ih

theorem RecordsFit.of_pos (h : RecordsFit size bound inside position) (hpos : 0 < position) :
    RecordsFit size bound (fun p => 0 < p ∧ inside p) position := by
  induction h with
  | done hge => exact .done hge
  | record hlt hinside _ ih => exact .record hlt ⟨hpos, hinside⟩ (ih (by omega))

/-- Records fit when there is a list of them and all are inside. -/
theorem recordsFit_iff :
    RecordsFit size bound inside position ↔
      ∃ ps, RecordsAt size bound position ps ∧ ∀ p ∈ ps, inside p := by
  constructor
  · intro h
    induction h with
    | done hge => exact ⟨[], .done hge, fun p hp => absurd hp List.not_mem_nil⟩
    | @record position hlt hinside _ ih =>
      obtain ⟨ps, hps, hall⟩ := ih
      exact ⟨position :: ps, .record hlt hps, List.forall_mem_cons.mpr ⟨hinside, hall⟩⟩
  · rintro ⟨ps, hps, hall⟩
    induction hps with
    | done hge => exact .done hge
    | record hlt _ ih =>
      obtain ⟨hinside, hall⟩ := List.forall_mem_cons.mp hall
      exact .record hlt hinside (ih hall)

theorem yields_nextPosition_iff (hpos : 0 < position) {ps : List ℕ} :
    Yields (nextPosition first size bound) position ps ↔
      RecordsAt size bound (position + size position) ps := by
  constructor
  · intro h
    induction h with
    | @nil position hnone =>
      rw [nextPosition_of_pos hpos] at hnone
      split at hnone
      · cases hnone
      · rename_i hge
        exact .done (Nat.le_of_not_lt hge)
    | @cons position next ps hsome _ ih =>
      rw [nextPosition_of_pos hpos] at hsome
      split at hsome
      · rename_i hlt
        cases hsome
        exact .record hlt (ih (by omega))
      · cases hsome
  · intro h
    generalize hnext : position + size position = next at h
    induction h generalizing position with
    | done hge =>
      subst hnext
      exact .nil (by rw [nextPosition_of_pos hpos, if_neg (Nat.not_lt.mpr hge)])
    | record hlt _ ih =>
      subst hnext
      exact .cons (by rw [nextPosition_of_pos hpos, if_pos hlt]) (ih (by omega) rfl)

theorem yields_iff_recordsAt (hfirst : 0 < first) {ps : List ℕ} :
    Yields (nextPosition first size bound) 0 ps ↔ RecordsAt size bound first ps := by
  have hzero : nextPosition first size bound 0 = if first < bound then some first else none := rfl
  constructor
  · intro h
    cases h with
    | nil hnone =>
      rw [hzero] at hnone
      split at hnone
      · cases hnone
      · rename_i hge
        exact .done (Nat.le_of_not_lt hge)
    | cons hsome hrest =>
      rw [hzero] at hsome
      split at hsome
      · rename_i hlt
        cases hsome
        exact .record hlt ((yields_nextPosition_iff hfirst).mp hrest)
      · cases hsome
  · intro h
    cases h with
    | done hge => exact .nil (by rw [hzero, if_neg (Nat.not_lt.mpr hge)])
    | record hlt hrest =>
      exact .cons (by rw [hzero, if_pos hlt]) ((yields_nextPosition_iff hfirst).mpr hrest)

/-- The cursor over records ends and hands out only what is `inside` exactly when the records fit
from the first one on. -/
theorem yields_iff_recordsFit (hfirst : 0 < first) :
    (∃ ps, Yields (nextPosition first size bound) 0 ps ∧ ∀ p ∈ ps, inside p) ↔
      RecordsFit size bound inside first := by
  rw [recordsFit_iff]
  simp only [yields_iff_recordsAt hfirst]

theorem RecordsAt.forall_le {ps : List ℕ} (h : RecordsAt size bound position ps) :
    ∀ p ∈ ps, position ≤ p := by
  induction h with
  | done _ => exact fun p hp => absurd hp List.not_mem_nil
  | record _ _ ih =>
    intro p hp
    rcases List.mem_cons.mp hp with rfl | hp
    · exact Nat.le_refl _
    · exact Nat.le_trans (Nat.le_add_right _ _) (ih p hp)

theorem RecordsAt.bound_le {ps : List ℕ} (h : RecordsAt size bound position ps) :
    bound ≤ position + (ps.map size).sum := by
  induction h with
  | done hge => exact hge
  | record _ _ ih =>
    rw [List.map_cons, List.sum_cons]
    omega

theorem RecordsAt.of_layout {β ε : Type} (bytes : List β) (encode : ε → List β)
    (size : ℕ → ℕ) (bound base position : ℕ) (entries : List ε) (pre post : List β)
    (hbytes : bytes = pre ++ (entries.flatMap encode ++ post))
    (hpre : pre.length = base + position)
    (hbound : bound = position + (entries.flatMap encode).length)
    (hsize : ∀ e ∈ entries, 0 < (encode e).length ∧ ∀ p pre post,
      bytes = pre ++ (encode e ++ post) → pre.length = base + p → size p = (encode e).length) :
    ∃ ps, RecordsAt size bound position ps ∧ List.Forall₂ (fun p e =>
      ∃ pre post, bytes = pre ++ (encode e ++ post) ∧ pre.length = base + p) ps entries := by
  induction entries generalizing pre position with
  | nil =>
    rw [List.flatMap_nil, List.length_nil] at hbound
    exact ⟨[], .done (Nat.le_of_eq hbound), .nil⟩
  | cons e entries ih =>
    obtain ⟨⟨hpos, hlength⟩, hsize⟩ := List.forall_mem_cons.mp hsize
    rw [List.flatMap_cons, List.append_assoc] at hbytes
    rw [List.flatMap_cons, List.length_append] at hbound
    have hrecord := hlength position pre _ hbytes hpre
    obtain ⟨ps, hps, hall⟩ := ih (position + size position) (pre ++ encode e)
      (by rw [hbytes, List.append_assoc]) (by rw [List.length_append, hpre, hrecord]; omega)
      (by omega) hsize
    exact ⟨position :: ps, .record (by omega) hps, .cons ⟨pre, _, hbytes, hpre⟩ hall⟩

theorem forall₂_imp_of_mem {β γ : Type} {R S : β → γ → Prop} {bs : List β} {cs : List γ}
    (h : List.Forall₂ R bs cs) (himp : ∀ b ∈ bs, ∀ c ∈ cs, R b c → S b c) :
    List.Forall₂ S bs cs := by
  induction h with
  | nil => exact .nil
  | cons hR _ ih =>
    refine .cons (himp _ List.mem_cons_self _ List.mem_cons_self hR) (ih ?_)
    intro b hb c hc
    exact himp b (List.mem_cons_of_mem _ hb) c (List.mem_cons_of_mem _ hc)

theorem map_nextPosition {β : Type} {f g : ℕ → β} (hfirst : 0 < first) (size : ℕ → ℕ)
    (bound position : ℕ) (hfg : ∀ p, 0 < p → f p = g p) :
    (nextPosition first size bound position).map f =
      (let next := if position = 0 then first else position + size position
       if next < bound then some (g next) else none) := by
  have hpos : 0 < if position = 0 then first else position + size position := by
    split <;> omega
  rw [nextPosition]
  generalize (if position = 0 then first else position + size position) = next at hpos
  show (if next < bound then some next else none).map f =
    if next < bound then some (g next) else none
  split
  · rw [Option.map_some, hfg next hpos]
  · rfl

theorem yields_map_iff_recordsFit {β : Type} {next : β → Option β} {f : ℕ → β} {P : β → Prop}
    (hfirst : 0 < first) (hmap : ∀ y, next (f y) = (nextPosition first size bound y).map f) :
    (∃ bs, Yields next (f 0) bs ∧ ∀ b ∈ bs, P b) ↔
      RecordsFit size bound (fun p => P (f p)) first := by
  rw [← yields_iff_recordsFit hfirst]
  constructor
  · rintro ⟨bs, hbs, hall⟩
    obtain ⟨ps, rfl, hps⟩ := hbs.of_map hmap
    exact ⟨ps, hps, fun p hp => hall (f p) (List.mem_map_of_mem hp)⟩
  · rintro ⟨ps, hps, hall⟩
    refine ⟨ps.map f, hps.map hmap, ?_⟩
    intro b hb
    obtain ⟨p, hp, rfl⟩ := List.mem_map.mp hb
    exact hall p hp

end Records

end DevDriver.Library
