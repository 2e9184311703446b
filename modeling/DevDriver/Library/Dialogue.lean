/-!
# Dialogues: programs that talk to a partner

A `Dialogue` sends messages and waits for what its partner says to each of them, receives messages,
and in the end returns a value.
-/

namespace DevDriver.Library

/-- A program that sends `S`s, which are answered by `A`s, and receives `R`s. -/
inductive Dialogue (S A R α : Type) where
  | done (a : α)
  | send (m : S) (next : A → Dialogue S A R α)
  | receive (next : R → Dialogue S A R α)
  | pending

namespace Dialogue

variable {S A R α β : Type}

/-- One dialogue after the other. -/
def bind : Dialogue S A R α → (α → Dialogue S A R β) → Dialogue S A R β
  | .done a, f => f a
  | .send m next, f => .send m fun r => (next r).bind f
  | .receive next, f => .receive fun r => (next r).bind f
  | .pending, _ => .pending

instance : Monad (Dialogue S A R) where
  pure := .done
  bind := bind

@[simp]
theorem pure_eq (a : α) : (pure a : Dialogue S A R α) = .done a := rfl

@[simp]
theorem done_bind (a : α) (f : α → Dialogue S A R β) : (Dialogue.done a >>= f) = f a := rfl

@[simp]
theorem send_bind (m : S) (next : A → Dialogue S A R α) (f : α → Dialogue S A R β) :
    (Dialogue.send m next >>= f) = .send m fun r => next r >>= f := rfl

theorem bind_assoc {γ : Type} (d : Dialogue S A R α) (f : α → Dialogue S A R β)
    (g : β → Dialogue S A R γ) : (d >>= f) >>= g = d >>= fun a => f a >>= g := by
  induction d with
  | done a => rfl
  | send m next ih => exact congrArg (Dialogue.send m) (funext ih)
  | receive next ih => exact congrArg Dialogue.receive (funext ih)
  | pending => rfl

/-- What answers a dialogue: a state that takes messages and hands messages out. -/
structure Partner (S A R σ : Type) where
  send : S → σ → A × σ
  receive : σ → R × σ

variable {σ : Type} (p : Partner S A R σ)

/-- A dialogue with a partner: what it returns and the partner's state then. -/
def run : Dialogue S A R α → σ → Option (α × σ)
  | .done a, s => some (a, s)
  | .send m next, s => (next (p.send m s).1).run (p.send m s).2
  | .receive next, s => (next (p.receive s).1).run (p.receive s).2
  | .pending, _ => none

@[simp]
theorem run_done (a : α) (s : σ) :
    (Dialogue.done a : Dialogue S A R α).run p s = some (a, s) := rfl

@[simp]
theorem run_send (m : S) (next : A → Dialogue S A R α) (s : σ) :
    (Dialogue.send m next).run p s = (next (p.send m s).1).run p (p.send m s).2 := rfl

@[simp]
theorem run_receive (next : R → Dialogue S A R α) (s : σ) :
    (Dialogue.receive next).run p s = (next (p.receive s).1).run p (p.receive s).2 := rfl

/-- The run of one dialogue after the other. -/
theorem run_bind (d : Dialogue S A R α) (f : α → Dialogue S A R β) (s : σ) :
    (d >>= f).run p s = (d.run p s).bind fun x => (f x.1).run p x.2 := by
  induction d generalizing s with
  | done a => rfl
  | send m next ih => exact ih _ _
  | receive next ih => exact ih _ _
  | pending => rfl

variable {d : Dialogue S A R α}

theorem run_bind_of_run {a : α} {s t : σ} (h : d.run p s = some (a, t))
    (f : α → Dialogue S A R β) : (d >>= f).run p s = (f a).run p t := by
  rw [run_bind, h]
  rfl

/-! ## Following a conversation -/

/-- What a dialogue returns when it is told just these things, and the messages it sends. -/
def follow : Dialogue S A R α → List (A ⊕ R) → Option (List S × α)
  | .done a, [] => some ([], a)
  | .send m next, .inl r :: rest => ((next r).follow rest).map fun x => (m :: x.1, x.2)
  | .receive next, .inr r :: rest => (next r).follow rest
  | _, _ => none

variable {as : List (A ⊕ R)}

theorem follow_done {a : α} {x : List S × α}
    (h : (Dialogue.done a).follow as = some x) : as = [] ∧ a = x.2 := by
  cases as with
  | nil => exact ⟨rfl, congrArg Prod.snd (Option.some.inj h)⟩
  | cons _ _ => cases h

theorem follow_send {m : S} {next : A → Dialogue S A R α} {x : List S × α}
    (h : (Dialogue.send m next).follow as = some x) :
    ∃ r rest ms, as = .inl r :: rest ∧ (next r).follow rest = some (ms, x.2) ∧ x.1 = m :: ms := by
  match as, h with
  | .inl r :: rest, h =>
    obtain ⟨⟨ms, a⟩, hnext, rfl⟩ := Option.map_eq_some_iff.mp h
    exact ⟨r, rest, ms, rfl, hnext, rfl⟩

theorem follow_receive {next : R → Dialogue S A R α} {x : List S × α}
    (h : (Dialogue.receive next).follow as = some x) :
    ∃ r rest, as = .inr r :: rest ∧ (next r).follow rest = some x := by
  match as, h with
  | .inr r :: rest, h => exact ⟨r, rest, rfl, h⟩

theorem follow_pending {x : List S × α}
    (h : (Dialogue.pending : Dialogue S A R α).follow as = some x) : False := by
  cases as <;> cases h

theorem follow_bind {f : α → Dialogue S A R β} {x : List S × β} (h : (d >>= f).follow as = some x) :
    ∃ as₁ as₂ ms₁ ms₂ a, as = as₁ ++ as₂ ∧ x.1 = ms₁ ++ ms₂ ∧ d.follow as₁ = some (ms₁, a) ∧
      (f a).follow as₂ = some (ms₂, x.2) := by
  induction d generalizing as x with
  | done a => exact ⟨[], as, [], x.1, a, rfl, rfl, rfl, h⟩
  | send m next ih =>
    obtain ⟨r, rest, ms, rfl, hnext, hms⟩ := follow_send h
    obtain ⟨as₁, as₂, ms₁, ms₂, a, rfl, rfl, hd, hf⟩ := ih r hnext
    exact ⟨.inl r :: as₁, as₂, m :: ms₁, ms₂, a, rfl, hms, by rw [follow, hd]; rfl, hf⟩
  | receive next ih =>
    obtain ⟨r, rest, rfl, hnext⟩ := follow_receive h
    obtain ⟨as₁, as₂, ms₁, ms₂, a, rfl, hms, hd, hf⟩ := ih r hnext
    exact ⟨.inr r :: as₁, as₂, ms₁, ms₂, a, rfl, hms, hd, hf⟩
  | pending => exact absurd h fun h => follow_pending h

theorem follow_append {f : α → Dialogue S A R β} {as₁ as₂ : List (A ⊕ R)} {ms₁ ms₂ : List S} {a : α}
    {b : β} (h : d.follow as₁ = some (ms₁, a)) (hnext : (f a).follow as₂ = some (ms₂, b)) :
    (d >>= f).follow (as₁ ++ as₂) = some (ms₁ ++ ms₂, b) := by
  induction d generalizing as₁ ms₁ with
  | done c =>
    obtain ⟨rfl, rfl⟩ := follow_done h
    cases h
    exact hnext
  | send m next ih =>
    obtain ⟨r, rest, ms, rfl, hrest, rfl⟩ := follow_send h
    rw [send_bind, List.cons_append, follow, ih r hrest]
    rfl
  | receive next ih =>
    obtain ⟨r, rest, rfl, hrest⟩ := follow_receive h
    exact ih r hrest
  | pending => exact absurd h fun h => follow_pending h

/-- What may happen in a phase `Q` of a conversation: a message is sent and answered, or one is
received. -/
structure Protocol (Q S A R : Type) where
  sends : Q → S → A → Q → Prop
  receives : Q → R → Q → Prop

variable {Q : Type} (P : Protocol Q S A R)

/-- Whatever happens within the protocol, the dialogue ends in a value and a phase that meet
`post`, if it ends. -/
def Ensures : Dialogue S A R α → (α → Q → Prop) → Q → Prop
  | .done a, post, q => post a q
  | .send m next, post, q => ∀ r q', P.sends q m r q' → (next r).Ensures post q'
  | .receive next, post, q => ∀ r q', P.receives q r q' → (next r).Ensures post q'
  | .pending, _, _ => True

variable {P}

theorem Ensures.mono {post post' : α → Q → Prop} {q : Q} (h : d.Ensures P post q)
    (himp : ∀ a q, post a q → post' a q) : d.Ensures P post' q := by
  induction d generalizing q with
  | done a => exact himp a q h
  | send m next ih => exact fun r q' hstep => ih r (h r q' hstep)
  | receive next ih => exact fun r q' hstep => ih r (h r q' hstep)
  | pending => trivial

/-- One dialogue after the other ensures what the second one ensures from the first one's end. -/
theorem Ensures.bind {f : α → Dialogue S A R β} {mid : α → Q → Prop} {post : β → Q → Prop} {q : Q}
    (h : d.Ensures P mid q)
    (hnext : ∀ a q, mid a q → (f a).Ensures P post q) : (d >>= f).Ensures P post q := by
  induction d generalizing q with
  | done a => exact hnext a q h
  | send m next ih => exact fun r q' hstep => ih r (h r q' hstep)
  | receive next ih => exact fun r q' hstep => ih r (h r q' hstep)
  | pending => trivial

end Dialogue

end DevDriver.Library
