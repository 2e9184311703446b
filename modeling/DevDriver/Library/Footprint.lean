import Mathlib.Data.List.Basic

/-!
# What a stateful program changes

A program over `StateM` may work on a part of its state only, and may put that part in order before
it ends.
-/

namespace DevDriver.Library

variable {σ α β γ δ : Type}

/-- The program keeps what `f` shows of the state. -/
def Frames (f : σ → γ) (m : StateM σ α) : Prop := ∀ s, f (m.run s).2 = f s

/-- Every run of the program ends in a state with the property. -/
def EndsIn (P : σ → Prop) (m : StateM σ α) : Prop := ∀ s, P (m.run s).2

/-- A run of the program from a state with the property comes back to that state. -/
def LeavesAlone (P : σ → Prop) (m : StateM σ α) : Prop := ∀ s, P s → (m.run s).2 = s

section Frames

variable {f : σ → γ} {m : StateM σ α} {k : α → StateM σ β}

theorem Frames.pure (a : α) : Frames f (pure a : StateM σ α) := fun _ => rfl

theorem Frames.get : Frames f (get : StateM σ σ) := fun _ => rfl

theorem Frames.modify {g : σ → σ} (h : ∀ s, f (g s) = f s) :
    Frames f (modify g : StateM σ PUnit) := h

theorem Frames.bind (hm : Frames f m) (hk : ∀ a, Frames f (k a)) : Frames f (m >>= k) :=
  fun s => (hk (m.run s).1 (m.run s).2).trans (hm s)

theorem Frames.ite {c : Prop} [Decidable c] {m' : StateM σ α} (h : Frames f m)
    (h' : Frames f m') : Frames f (if c then m else m') := by
  split
  · exact h
  · exact h'

end Frames

section EndsIn

variable {P : σ → Prop} {m : StateM σ α} {k : α → StateM σ β}

theorem EndsIn.modify {g : σ → σ} (h : ∀ s, P (g s)) : EndsIn P (modify g : StateM σ PUnit) := h

theorem EndsIn.bind (hk : ∀ a, EndsIn P (k a)) : EndsIn P (m >>= k) :=
  fun s => hk (m.run s).1 (m.run s).2

theorem EndsIn.map (h : EndsIn P m) (g : α → β) : EndsIn P (m >>= fun a => Pure.pure (g a)) := h

theorem EndsIn.ite {c : Prop} [Decidable c] {m' : StateM σ α} (h : EndsIn P m)
    (h' : EndsIn P m') : EndsIn P (if c then m else m') := by
  split
  · exact h
  · exact h'

end EndsIn

section LeavesAlone

variable {P : σ → Prop} {m : StateM σ α} {k : α → StateM σ β}

theorem LeavesAlone.pure (a : α) : LeavesAlone P (pure a : StateM σ α) := fun _ _ => rfl

theorem LeavesAlone.get : LeavesAlone P (get : StateM σ σ) := fun _ _ => rfl

theorem LeavesAlone.run_bind (hm : LeavesAlone P m) {s : σ} (hs : P s) :
    (m >>= k).run s = (k (m.run s).1).run s :=
  congrArg (fun t => (k (m.run s).1).run t) (hm s hs)

theorem LeavesAlone.bind (hm : LeavesAlone P m) (hk : ∀ a, LeavesAlone P (k a)) :
    LeavesAlone P (m >>= k) := by
  intro s hs
  rw [hm.run_bind hs]
  exact hk _ s hs

theorem LeavesAlone.ite {c : Prop} [Decidable c] {m' : StateM σ α} (h : LeavesAlone P m)
    (h' : LeavesAlone P m') : LeavesAlone P (if c then m else m') := by
  split
  · exact h
  · exact h'

/-- A program that keeps one part of the state and puts the other in order. -/
theorem LeavesAlone.of_frames {f : σ → γ} {e : σ → δ} {d : δ} (hf : Frames f m)
    (he : EndsIn (fun s => e s = d) m) (hparts : ∀ s t, f s = f t → e s = e t → s = t) :
    LeavesAlone (fun s => e s = d) m :=
  fun s hs => hparts _ _ (hf s) ((he s).trans hs.symm)

end LeavesAlone

end DevDriver.Library
