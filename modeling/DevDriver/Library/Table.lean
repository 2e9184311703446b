import Mathlib.Data.List.AList
import Mathlib.Algebra.BigOperators.Group.List.Basic

/-!
# Tables

The values of a finite table of entries, and what inserting, erasing and moving an entry does
to them.
-/

namespace DevDriver.Library

/-- A finite table from `κ` to `β`. -/
abbrev Table (κ β : Type) := AList fun _ : κ => β

section Table

variable {κ β : Type} [DecidableEq κ] {t : Table κ β} {a a' : κ} {b : β}

/-- The values of a table, in the order of its entries. -/
def values (t : Table κ β) : List β := t.entries.map (·.2)

theorem mem_values : b ∈ values t ↔ ∃ a, t.lookup a = some b := by
  constructor
  · intro h
    obtain ⟨⟨a, b⟩, he, rfl⟩ := List.mem_map.mp h
    exact ⟨a, AList.mem_lookup_iff.mpr he⟩
  · rintro ⟨a, h⟩
    exact List.mem_map.mpr ⟨⟨a, b⟩, AList.mem_lookup_iff.mp h, rfl⟩

theorem values_insert (h : a ∉ t) : values (t.insert a b) = b :: values t := by
  rw [values, AList.entries_insert_of_notMem h]
  rfl

theorem values_perm_erase (h : t.lookup a = some b) :
    (values t).Perm (b :: values (t.erase a)) := by
  have hmem : a ∈ t.entries.keys := AList.lookup_isSome.mp (by rw [h]; rfl)
  obtain ⟨b', l₁, l₂, -, hsplit, herase⟩ := List.exists_of_kerase hmem
  have hb : ⟨a, b'⟩ ∈ t.entries := by
    rw [hsplit]
    exact List.mem_append_right _ List.mem_cons_self
  obtain rfl : b = b' := by
    rw [← AList.mem_lookup_iff] at hb
    exact Option.some.inj (h.symm.trans hb)
  have hvalues : values (t.erase a) = (l₁ ++ l₂).map (·.2) := by
    rw [← herase]
    rfl
  rw [hvalues, values, hsplit, List.map_append, List.map_append, List.map_cons]
  exact List.perm_middle

/-- The table with the entry of `a` moved to `a'`. -/
def rekey (a a' : κ) (b : β) (t : Table κ β) : Table κ β := (t.erase a).insert a' b

theorem notMem_erase (h : t.lookup a' = none) : a' ∉ t.erase a := fun hmem =>
  AList.lookup_eq_none.mp h (AList.mem_erase.mp hmem).2

/-- Moving an entry keeps the values. -/
theorem values_rekey_perm (h : t.lookup a = some b) (h' : t.lookup a' = none) :
    (values (rekey a a' b t)).Perm (values t) := by
  rw [rekey, values_insert (notMem_erase h')]
  exact (values_perm_erase h).symm

theorem lookup_rekey (b : β) : (rekey a a' b t).lookup a' = some b := AList.lookup_insert _

theorem lookup_rekey_of_ne {x : κ} (b : β) (h : x ≠ a) (h' : x ≠ a') :
    (rekey a a' b t).lookup x = t.lookup x := by
  rw [rekey, AList.lookup_insert_ne h', AList.lookup_erase_ne h]

theorem lookup_rekey_self (b : β) (h : a ≠ a') : (rekey a a' b t).lookup a = none := by
  rw [rekey, AList.lookup_insert_ne h, AList.lookup_erase]

theorem lookup_of_erase {x : κ} (h : (t.erase a).lookup x = some b) : t.lookup x = some b := by
  rcases eq_or_ne x a with rfl | hne
  · rw [AList.lookup_erase] at h
    cases h
  · rwa [AList.lookup_erase_ne hne] at h

theorem kreplace_cons_eq {e : Σ _ : κ, β} (ha : a = e.1) (b : β) (l : List (Σ _ : κ, β)) :
    (e :: l).kreplace a b = ⟨a, b⟩ :: l :=
  List.lookmap_cons_some _ _ (if_pos ha)

theorem kreplace_cons_ne {e : Σ _ : κ, β} (ha : a ≠ e.1) (b : β) (l : List (Σ _ : κ, β)) :
    (e :: l).kreplace a b = e :: l.kreplace a b :=
  List.lookmap_cons_none _ _ (if_neg ha)

theorem dlookup_kreplace {l : List (Σ _ : κ, β)} (h : a ∈ l.keys) (b : β) :
    (l.kreplace a b).dlookup a = some b := by
  induction l with
  | nil => cases h
  | cons e l ih =>
    by_cases ha : a = e.1
    · rw [kreplace_cons_eq ha, List.dlookup_cons_eq]
    · rw [kreplace_cons_ne ha, List.dlookup_cons_ne _ _ ha]
      exact ih ((List.mem_cons.mp h).resolve_left ha)

theorem lookup_replace (h : a ∈ t) (b : β) : (t.replace a b).lookup a = some b :=
  dlookup_kreplace h b

theorem dlookup_kreplace_ne {x : κ} (h : x ≠ a) (b : β) (l : List (Σ _ : κ, β)) :
    (l.kreplace a b).dlookup x = l.dlookup x := by
  induction l with
  | nil => rfl
  | cons e l ih =>
    by_cases ha : a = e.1
    · rw [kreplace_cons_eq ha, List.dlookup_cons_ne _ _ h, List.dlookup_cons_ne _ _ (ha ▸ h)]
    · rw [kreplace_cons_ne ha]
      by_cases hx : x = e.1
      · obtain ⟨y, b'⟩ := e
        cases hx
        rw [List.dlookup_cons_eq, List.dlookup_cons_eq]
      · rw [List.dlookup_cons_ne _ _ hx, List.dlookup_cons_ne _ _ hx, ih]

theorem lookup_replace_ne {x : κ} (h : x ≠ a) (b : β) (t : Table κ β) :
    (t.replace a b).lookup x = t.lookup x :=
  dlookup_kreplace_ne h b t.entries

theorem perm_kreplace {l : List (Σ _ : κ, β)} (hnodup : l.NodupKeys) (h : a ∈ l.keys) (b : β) :
    (l.kreplace a b).Perm (⟨a, b⟩ :: l.kerase a) := by
  induction l with
  | nil => cases h
  | cons e l ih =>
    by_cases ha : a = e.1
    · rw [kreplace_cons_eq ha, List.kerase_cons_eq ha]
    · have hmem : a ∈ l.keys := (List.mem_cons.mp h).resolve_left ha
      rw [kreplace_cons_ne ha, List.kerase_cons_ne ha]
      apply ((ih (List.nodupKeys_cons.mp hnodup).2 hmem).cons e).trans
      exact .swap _ _ _

theorem values_perm_replace (h : a ∈ t) (b : β) :
    (values (t.replace a b)).Perm (b :: values (t.erase a)) :=
  (perm_kreplace t.nodupKeys h b).map fun e : (_ : κ) × β => e.2

/-- `emplace` of a hash map, which keeps the entry that is there. -/
def emplace (a : κ) (b : β) (t : Table κ β) : Table κ β := if a ∈ t then t else t.insert a b

/-- What a table holds after an `emplace` it held before, unless it is the new entry. -/
theorem lookup_emplace {x : κ} {b' : β} (h : (emplace a b t).lookup x = some b') :
    t.lookup x = some b' ∨ a ∉ t ∧ x = a ∧ b' = b := by
  unfold emplace at h
  split at h
  · exact .inl h
  · rename_i hmem
    rcases eq_or_ne x a with rfl | hne
    · rw [AList.lookup_insert] at h
      exact .inr ⟨hmem, rfl, (Option.some.inj h).symm⟩
    · rw [AList.lookup_insert_ne hne] at h
      exact .inl h

end Table

end DevDriver.Library
