import DevDriver.Library.Machine

/-!
# First-in first-out channels

What reliable in-order delivery means: a channel accepts items and delivers them one at a time in
the order in which it accepted them.
-/

namespace DevDriver.Library

variable {α : Type}

/-- The history of a channel: what it accepted and what it delivered, the oldest first. -/
structure Channel (α : Type) where
  accepted : List α
  delivered : List α

/-- What happens to a channel. -/
inductive ChannelAction (α : Type) where
  | accept (x : α)
  | deliver

/-- The next item a channel has to deliver. -/
def Channel.next (c : Channel α) : Option α := c.accepted[c.delivered.length]?

/-- The channel that starts empty; its output is the item it delivers. -/
def channel (α : Type) : Machine (Channel α) (ChannelAction α) (Option α) where
  init c := c.accepted = [] ∧ c.delivered = []
  step c
    | .accept x => some ({ c with accepted := c.accepted ++ [x] }, none)
    | .deliver => c.next.map fun x => ({ c with delivered := c.delivered ++ [x] }, some x)

/-- A channel delivers in order, without loss or duplication. -/
theorem Channel.delivered_prefix {c : Channel α} (h : (channel α).Reachable c) :
    c.delivered <+: c.accepted := by
  refine h.invariant (P := fun c => c.delivered <+: c.accepted) ?_ ?_
  · rintro c ⟨-, hdelivered⟩
    rw [hdelivered]
    exact List.nil_prefix
  · intro c c' a o _ hprefix hstep
    cases a with
    | accept x =>
      cases hstep
      exact hprefix.trans (List.prefix_append _ _)
    | deliver =>
      obtain ⟨x, hx, hc'⟩ := Option.map_eq_some_iff.mp hstep
      cases hc'
      -- the delivered items are the first ones accepted, and `x` is the one behind them
      have htake : c.delivered = c.accepted.take c.delivered.length :=
        List.prefix_iff_eq_take.mp hprefix
      have hsucc : c.accepted.take (c.delivered.length + 1) = c.delivered ++ [x] := by
        rw [List.take_add_one, ← htake, show c.accepted[c.delivered.length]? = some x from hx,
          Option.toList_some]
      exact hsucc ▸ List.take_prefix _ _

theorem Channel.accepts (c : Channel α) (x : Option α) :
    Relation.ReflTransGen (channel α).Next c { c with accepted := c.accepted ++ x.toList } := by
  cases x with
  | none =>
    rw [Option.toList_none, List.append_nil]
  | some x => exact .single ⟨.accept x, none, rfl⟩

theorem Channel.delivers (c : Channel α) {x : Option α} (h : ∀ y ∈ x, c.next = some y) :
    Relation.ReflTransGen (channel α).Next c
      { c with delivered := c.delivered ++ x.toList } := by
  cases x with
  | none =>
    rw [Option.toList_none, List.append_nil]
  | some x => exact .single ⟨.deliver, some x, by simp [channel, h x rfl]⟩

end DevDriver.Library
