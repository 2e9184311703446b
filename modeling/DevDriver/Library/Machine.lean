import Mathlib.Data.List.Basic
import Mathlib.Data.List.Induction
import Mathlib.Logic.Relation

/-!
# Machines: steps, runs, invariants and refinement

A `Machine` is a partial step function: from a state and an action it gives the next state and what
the step puts out, or nothing when the action is not enabled.
-/

namespace DevDriver.Library

/-- A machine with states `σ`, actions `α` and outputs `ω`. -/
structure Machine (σ α ω : Type) where
  init : σ → Prop
  step : σ → α → Option (σ × ω)

namespace Machine

variable {σ α ω : Type} (M : Machine σ α ω)

/-- The states some run from an initial state ends in. -/
inductive Reachable : σ → Prop where
  | init {s : σ} (h : M.init s) : Reachable s
  | step {s t : σ} {a : α} {o : ω} (hs : Reachable s) (h : M.step s a = some (t, o)) :
      Reachable t

/-- `Trace s tr t`: the transitions `tr`, each with the state it starts in, its action and
its output, lead from `s` to `t`. -/
inductive Trace (s : σ) : List (σ × α × ω) → σ → Prop where
  | nil : Trace s [] s
  | snoc {t u : σ} {tr : List (σ × α × ω)} {a : α} {o : ω} (h : Trace s tr t)
      (hstep : M.step t a = some (u, o)) : Trace s (tr ++ [(t, a, o)]) u

variable {M}

variable {P : σ → Prop}

variable {s : σ}

/-- The induction rule: an invariant holds initially and each step from a reachable state
keeps it. -/
theorem Reachable.invariant (hinit : ∀ s, M.init s → P s)
    (hstep : ∀ s t a o, M.Reachable s → P s → M.step s a = some (t, o) → P t) (h : M.Reachable s) :
    P s := by
  induction h with
  | init h => exact hinit _ h
  | step hs h ih => exact hstep _ _ _ _ hs ih h

variable {tr : List (σ × α × ω)}

variable {t : σ}

theorem Trace.reachable (h : M.Trace s tr t) (hs : M.Reachable s) : M.Reachable t := by
  induction h with
  | nil => exact hs
  | snoc _ hstep ih => exact .step ih hstep

theorem Trace.reachable_of_mem (h : M.Trace s tr t) (hs : M.Reachable s) {u : σ} {a : α} {o : ω}
    (hmem : (u, a, o) ∈ tr) : M.Reachable u ∧ ∃ v, M.step u a = some (v, o) := by
  induction h with
  | nil => cases hmem
  | snoc h hstep ih =>
    rcases List.mem_append.mp hmem with hmem | hmem
    · exact ih hmem
    · obtain ⟨rfl, rfl, rfl⟩ : _ ∧ _ ∧ _ := by simpa using hmem
      exact ⟨h.reachable hs, _, hstep⟩

variable {C : σ → α → Prop}

/-- The run rule for an invariant that also speaks about something gathered from the transitions
of the run. -/
theorem Trace.foldl_invariant {γ : Type} {f : γ → σ × α × ω → γ} {P : γ → σ → Prop} {g : γ}
    (h : M.Trace s tr t) (hs : P g s) (hcond : ∀ x ∈ tr, C x.1 x.2.1)
    (hstep : ∀ g s t a o, P g s → C s a → M.step s a = some (t, o) → P (f g (s, a, o)) t) :
    P (tr.foldl f g) t := by
  induction h with
  | nil => exact hs
  | @snoc t u tr a o _ hone ih =>
    have hbefore : P (tr.foldl f g) t := ih fun x hx => hcond x (List.mem_append_left _ hx)
    have hlast : C t a := hcond (t, a, o) (List.mem_append_right _ (List.mem_singleton_self _))
    rw [List.foldl_append]
    exact hstep _ _ _ _ _ hbefore hlast hone

/-- The run rule for an invariant that needs each step of the run to meet a condition. -/
theorem Trace.invariant (h : M.Trace s tr t) (hs : P s) (hcond : ∀ x ∈ tr, C x.1 x.2.1)
    (hstep : ∀ s t a o, P s → C s a → M.step s a = some (t, o) → P t) : P t :=
  h.foldl_invariant (f := fun _ _ => ()) (g := ()) (P := fun _ => P) hs hcond fun _ => hstep

variable {as : List α} {x : σ × α × ω}

theorem Trace.invariant_of_mem (h : M.Trace s tr t) (hs : P s) (hcond : ∀ x ∈ tr, C x.1 x.2.1)
    (hstep : ∀ s t a o, P s → C s a → M.step s a = some (t, o) → P t) (hx : x ∈ tr) :
    P x.1 ∧ C x.1 x.2.1 ∧ ∃ v, M.step x.1 x.2.1 = some (v, x.2.2) := by
  induction h with
  | nil => cases hx
  | @snoc t u tr a o hbefore hone ih =>
    have hinit : ∀ x ∈ tr, C x.1 x.2.1 := fun y hy => hcond y (List.mem_append_left _ hy)
    rcases List.mem_append.mp hx with hx | hx
    · exact ih hinit hx
    · obtain rfl := List.mem_singleton.mp hx
      exact ⟨hbefore.invariant hs hinit hstep,
        hcond _ (List.mem_append_right _ (List.mem_singleton_self _)), u, hone⟩

/-- The run rule for a property that a step keeps just where it meets a condition. -/
theorem Trace.forall_iff (h : M.Trace s tr t) (hs : P s)
    (hstep : ∀ s t a o, P s → M.step s a = some (t, o) → (P t ↔ C s a)) :
    (P t ∧ ∀ x ∈ tr, P x.1) ↔ ∀ x ∈ tr, C x.1 x.2.1 := by
  induction h with
  | nil => simp [hs]
  | @snoc t u tr a o _ hone ih =>
    rw [List.forall_mem_append, List.forall_mem_append, List.forall_mem_singleton,
      List.forall_mem_singleton, ← ih]
    constructor
    · rintro ⟨hafter, hbefore, hlast⟩
      exact ⟨⟨hlast, hbefore⟩, (hstep t u a o hlast hone).mp hafter⟩
    · rintro ⟨⟨hlast, hbefore⟩, hcond⟩
      exact ⟨(hstep t u a o hlast hone).mpr hcond, hbefore, hlast⟩

/-- The run rule for a property of the single transitions, which an invariant turns into a
condition on their actions. -/
theorem Trace.each_iff {G : σ → α → ω → Prop} (h : M.Trace s tr t) (hs : P s)
    (hstep : ∀ s t a o, P s → M.step s a = some (t, o) → (G s a o ↔ C s a) ∧ (C s a → P t)) :
    (∀ x ∈ tr, G x.1 x.2.1 x.2.2) ↔ ∀ x ∈ tr, C x.1 x.2.1 := by
  have hboth : ((∀ x ∈ tr, G x.1 x.2.1 x.2.2) ↔ ∀ x ∈ tr, C x.1 x.2.1) ∧
      ((∀ x ∈ tr, C x.1 x.2.1) → P t) := by
    induction h with
    | nil => simp [hs]
    | @snoc t u tr a o _ hone ih =>
      simp only [List.forall_mem_append, List.forall_mem_singleton]
      rw [ih.1]
      constructor
      · exact and_congr_right fun hbefore => (hstep t u a o (ih.2 hbefore) hone).1
      · rintro ⟨hbefore, hlast⟩
        exact (hstep t u a o (ih.2 hbefore) hone).2 hlast
  exact hboth.1

theorem Trace.split {before after : List (σ × α × ω)} (h : M.Trace s (before ++ x :: after) t) :
    M.Trace s before x.1 ∧ ∃ u, M.step x.1 x.2.1 = some (u, x.2.2) ∧ M.Trace u after t := by
  induction after using List.reverseRecOn generalizing t with
  | nil =>
    generalize htr : before ++ [x] = tr at h
    cases h with
    | nil => simp at htr
    | snoc hbefore hstep =>
      obtain ⟨rfl, hx⟩ := List.append_inj' htr rfl
      obtain rfl := List.singleton_inj.mp hx
      exact ⟨hbefore, t, hstep, .nil⟩
  | append_singleton after y ih =>
    rw [← List.cons_append, ← List.append_assoc] at h
    generalize htr : (before ++ x :: after) ++ [y] = tr at h
    cases h with
    | nil => simp at htr
    | snoc hbefore hstep =>
      obtain ⟨rfl, hy⟩ := List.append_inj' htr rfl
      obtain rfl := List.singleton_inj.mp hy
      obtain ⟨hfirst, u, hone, hafter⟩ := ih hbefore
      exact ⟨hfirst, u, hone, .snoc hafter hstep⟩

/-- The state a list of actions leads to, when each of them is enabled in turn. -/
def run (M : Machine σ α ω) : σ → List α → Option σ
  | s, [] => some s
  | s, a :: as =>
    match M.step s a with
    | some (t, _) => M.run t as
    | none => none

theorem Reachable.run (hs : M.Reachable s) (h : M.run s as = some t) : M.Reachable t := by
  induction as generalizing s with
  | nil =>
    obtain rfl : s = t := by simpa [Machine.run] using h
    exact hs
  | cons a as ih =>
    rw [Machine.run] at h
    split at h
    · rename_i hstep
      exact ih (.step hs hstep) h
    · cases h

/-- A test that a list of actions leads to finds a reachable state that passes it. -/
theorem Reachable.exists_of_run (hs : M.Reachable s) (as : List α) (p : σ → Bool)
    (h : (M.run s as).any p = true) : ∃ t, M.Reachable t ∧ p t = true := by
  cases hrun : M.run s as with
  | none => simp [hrun] at h
  | some t => exact ⟨t, hs.run hrun, by simpa [hrun] using h⟩

/-- A list of actions that leads to a state with a property. -/
theorem exists_of_run (s : σ) (as : List α) (P : σ → Prop) [DecidablePred P]
    (h : (M.run s as).any (fun t => decide (P t)) = true) : ∃ t, M.run s as = some t ∧ P t := by
  obtain ⟨t, hrun, ht⟩ := (Option.any_eq_true _ _).mp h
  exact ⟨t, hrun, of_decide_eq_true ht⟩

/-- The transitions of a list of actions, up to the first one that is not enabled. -/
def transitions (M : Machine σ α ω) : σ → List α → List (σ × α × ω)
  | _, [] => []
  | s, a :: as =>
    match M.step s a with
    | some (t, o) => (s, a, o) :: M.transitions t as
    | none => []

theorem mem_of_mem_transitions (hx : x ∈ M.transitions s as) : x.2.1 ∈ as := by
  induction as generalizing s with
  | nil => cases hx
  | cons a as ih =>
    rw [transitions] at hx
    split at hx
    · rcases List.mem_cons.mp hx with rfl | hx
      · exact List.mem_cons_self ..
      · exact List.mem_cons_of_mem _ (ih hx)
    · cases hx

theorem Trace.cons {u : σ} {a : α} {o : ω} (hstep : M.step s a = some (t, o)) (h : M.Trace t tr u) :
    M.Trace s ((s, a, o) :: tr) u := by
  induction h with
  | nil => exact .snoc .nil hstep
  | snoc _ hlast ih => exact .snoc ih hlast

theorem Trace.of_run (h : M.run s as = some t) : M.Trace s (M.transitions s as) t := by
  induction as generalizing s with
  | nil =>
    obtain rfl : s = t := by simpa [Machine.run] using h
    exact .nil
  | cons a as ih =>
    rw [Machine.run] at h
    rw [transitions]
    split at h
    · rename_i hstep
      exact .cons hstep (ih h)
    · cases h

variable {τ β π : Type}

/-- One step of `N`, whatever its action and output. -/
def Next (N : Machine τ β π) (x y : τ) : Prop := ∃ b p, N.step x b = some (y, p)

/-- `abs` maps `M` into `N`: initial states to initial states, and each step from a
reachable state to a (possibly empty) sequence of steps. -/
structure Refines (M : Machine σ α ω) (N : Machine τ β π) (abs : σ → τ) : Prop where
  init : ∀ s, M.init s → N.init (abs s)
  step : ∀ s t a o, M.Reachable s → M.step s a = some (t, o) →
    Relation.ReflTransGen N.Next (abs s) (abs t)

theorem Reachable.trans {N : Machine τ β π} {x y : τ} (hx : N.Reachable x)
    (h : Relation.ReflTransGen N.Next x y) : N.Reachable y := by
  induction h with
  | refl => exact hx
  | tail _ h ih =>
    obtain ⟨b, p, h⟩ := h
    exact .step ih h

/-- The image of a reachable state is reachable in the abstract machine. -/
theorem Refines.reachable {N : Machine τ β π} {abs : σ → τ} (h : Refines M N abs)
    (hs : M.Reachable s) : N.Reachable (abs s) :=
  hs.invariant (P := fun s => N.Reachable (abs s)) (fun s hs => .init (h.init s hs))
    fun s t a o hr ih hstep => ih.trans (h.step s t a o hr hstep)

end Machine

/-- What each step of a loop that may fail relates is related by the whole loop. -/
theorem foldlM_related {σ α : Type} {R : σ → σ → Prop} (hrefl : ∀ s, R s s)
    (htrans : ∀ {s t u}, R s t → R t u → R s u) {f : σ → α → Option σ}
    (hf : ∀ s x t, f s x = some t → R s t) {xs : List α} {s t : σ} (h : xs.foldlM f s = some t) :
    R s t := by
  induction xs generalizing s with
  | nil =>
    obtain rfl := Option.some.inj h
    exact hrefl s
  | cons x xs ih =>
    obtain ⟨u, hfirst, hrest⟩ := Option.bind_eq_some_iff.mp h
    exact htrans (hf s x u hfirst) (ih hrest)

/-! ## Paths of labelled steps

What a component is still going to say is a state of its own: each message is a step to what comes
after it. -/

/-- `Path step f ms g`: the labels `ms`, in this order, lead from `f` to `g`. -/
inductive Path {F M : Type} (step : F → M → F → Prop) : F → List M → F → Prop where
  | nil (f : F) : Path step f [] f
  | cons {f g k : F} {m : M} {ms : List M} (h : step f m g) (hrest : Path step g ms k) :
      Path step f (m :: ms) k

namespace Path

variable {F M : Type} {step : F → M → F → Prop} {f g k : F} {m : M} {ms ms' : List M}

theorem single (h : step f m g) : Path step f [m] g := .cons h (.nil g)

theorem append (h : Path step f ms g) (h' : Path step g ms' k) : Path step f (ms ++ ms') k := by
  induction h with
  | nil => exact h'
  | cons hstep _ ih => exact .cons hstep (ih h')

theorem uncons (h : Path step f (m :: ms) k) : ∃ g, step f m g ∧ Path step g ms k := by
  cases h with
  | cons hstep hrest => exact ⟨_, hstep, hrest⟩

theorem eq_of_nil (h : Path step f [] g) : f = g := by
  cases h
  rfl

end Path

end DevDriver.Library
