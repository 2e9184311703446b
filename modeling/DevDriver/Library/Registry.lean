import Mathlib.Data.List.Basic
import Mathlib.Data.List.Nodup
import Mathlib.Data.List.Perm.Subperm
import Mathlib.Logic.Function.Basic

/-!
# Registries and the handles to their resources

A registry keeps resources under ids.  Whoever registers a resource gets a handle to it, and must
keep the handle for as long as the resource is registered, since only the id of the handle gets it
out of the registry again.
-/

namespace DevDriver.Library

/-- A resource and the id it was opened under. -/
structure Handle (ι ρ : Type) where
  id : ι
  resource : ρ
  deriving DecidableEq

section Registry

variable {ι ρ : Type} {registry : ι → Option ρ} {opened : List (Handle ι ρ)}
  {held held' : Handle ι ρ → Prop}

/-- The resource of a handle is registered. -/
def IsRegistered (registry : ι → Option ρ) (h : Handle ι ρ) : Prop :=
  registry h.id = some h.resource

instance [DecidableEq ρ] (registry : ι → Option ρ) (h : Handle ι ρ) :
    Decidable (IsRegistered registry h) :=
  inferInstanceAs (Decidable (registry h.id = some h.resource))

/-- Every resource of a history that is registered is held. -/
def AllHeld (registry : ι → Option ρ) (opened : List (Handle ι ρ))
    (held : Handle ι ρ → Prop) : Prop :=
  ∀ h ∈ opened, IsRegistered registry h → held h

theorem AllHeld.mono (h : AllHeld registry opened held)
    (hheld : ∀ x, held x → held' x) : AllHeld registry opened held' :=
  fun x hx hregistered => hheld x (h x hx hregistered)

theorem AllHeld.length_le [DecidableEq ρ] {handles : List (Handle ι ρ)}
    (h : AllHeld registry opened (· ∈ handles)) (hnodup : opened.Nodup) :
    (opened.filter fun x => IsRegistered registry x).length ≤ handles.length := by
  have hsubset : (opened.filter fun x => IsRegistered registry x) ⊆ handles := by
    intro x hx
    rw [List.mem_filter, decide_eq_true_eq] at hx
    exact h x hx.1 hx.2
  exact ((hnodup.filter _).subperm hsubset).length_le

variable [DecidableEq ι]

/-- The registry after a resource is opened: an id in use keeps the resource it has. -/
def registerHandle (registry : ι → Option ρ) (h : Handle ι ρ) : ι → Option ρ :=
  if (registry h.id).isSome then registry else Function.update registry h.id (some h.resource)

theorem isRegistered_registerHandle {x h : Handle ι ρ}
    (hx : IsRegistered (registerHandle registry h) x) : IsRegistered registry x ∨ x = h := by
  unfold registerHandle at hx
  split at hx
  · exact .inl hx
  · by_cases hid : x.id = h.id
    · right
      have hresource : some h.resource = some x.resource := by
        simpa [IsRegistered, hid] using hx
      cases x
      cases h
      cases hid
      cases hresource
      rfl
    · left
      simpa [IsRegistered, hid] using hx

/-- A new resource has to be held, and every other one as before. -/
theorem AllHeld.register (h : AllHeld registry opened held) {x : Handle ι ρ}
    (hheld : ∀ y, held y → held' y) (hx : held' x) :
    AllHeld (registerHandle registry x) (opened ++ [x]) held' := by
  intro y hy hregistered
  rcases isRegistered_registerHandle hregistered with hregistered | rfl
  · rcases List.mem_append.mp hy with hy | hy
    · exact hheld y (h y hy hregistered)
    · obtain rfl := List.mem_singleton.mp hy
      exact hx
  · exact hx

theorem AllHeld.register_other (h : AllHeld registry opened held) {x : Handle ι ρ}
    (hfresh : x ∉ opened) : AllHeld (registerHandle registry x) opened held := by
  intro y hy hregistered
  rcases isRegistered_registerHandle hregistered with hregistered | rfl
  · exact h y hy hregistered
  · exact absurd hy hfresh

/-- Nothing is registered under an id that was unregistered, so its handles can be given up. -/
theorem AllHeld.unregister (h : AllHeld registry opened held) (id : ι)
    (hheld : ∀ x, held x → x.id ≠ id → held' x) :
    AllHeld (Function.update registry id none) opened held' := by
  intro x hx hregistered
  by_cases hid : x.id = id
  · simp [IsRegistered, hid] at hregistered
  · apply hheld x _ hid
    apply h x hx
    simpa [IsRegistered, hid] using hregistered

end Registry

end DevDriver.Library
