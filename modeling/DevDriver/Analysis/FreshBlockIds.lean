import DevDriver.Model.UriServer

/-!
# Fresh block ids

The loop that draws an id for a block was meant to go on while the id is invalid or in use, and goes
on only while it is both.
-/

namespace DevDriver.Analysis

open Library Model TransferManager

/-! ## One block -/

/-- The condition on a call: the first id that is drawn for a block is valid and not in use, and no
block is closed twice. -/
def DrawsFresh (s : OpenedBlocks) : BlockIdAction → Prop
  | .openServerBlock draws allocated => allocated = true → ∀ newBlockId ∈ draws.head?,
      newBlockId ≠ kInvalidBlockId ∧ s.manager.getServerBlock newBlockId = none
  | .closeServerBlock pBlock => pBlock ∉ s.closed

/-- The id of each block that is still open names that block. -/
def NamesOpened (s : OpenedBlocks) : Prop :=
  ∀ pBlock ∈ s.opened, pBlock ∉ s.closed →
    s.manager.getServerBlock pBlock.id = some pBlock.resource

theorem drawBlockId_of_fresh {m : TransferManager} {draws : List BlockId} {newBlockId : BlockId}
    (hdraw : m.drawBlockId draws = some newBlockId)
    (hfresh : ∀ id ∈ draws.head?, id ≠ kInvalidBlockId ∧ m.getServerBlock id = none) :
    newBlockId ≠ kInvalidBlockId ∧ m.getServerBlock newBlockId = none := by
  cases draws with
  | nil => cases hdraw
  | cons id draws =>
    have hid := hfresh id rfl
    rw [drawBlockId, if_neg fun h => hid.1 h.1] at hdraw
    cases hdraw
    exact hid

theorem getServerBlock_openServerBlock {m : TransferManager} {newBlockId : BlockId}
    (hfresh : m.getServerBlock newBlockId = none) (id : BlockId) :
    (m.openServerBlock newBlockId).getServerBlock id =
      if id = newBlockId then some m.nextBlock else m.getServerBlock id := by
  have hnone : ¬ (m.registeredServerBlocks newBlockId).isSome = true := by
    rw [show m.registeredServerBlocks newBlockId = none from hfresh]
    simp
  simp only [getServerBlock, openServerBlock, if_neg hnone,
    Function.update_apply]

theorem namesOpened_openServerBlock {s : OpenedBlocks} (h : NamesOpened s) {newBlockId : BlockId}
    (hfresh : s.manager.getServerBlock newBlockId = none) :
    NamesOpened { s with
      manager := s.manager.openServerBlock newBlockId
      opened := s.opened ++ [⟨newBlockId, s.manager.nextBlock⟩] } := by
  intro pBlock hopened hclosed
  rw [getServerBlock_openServerBlock hfresh]
  rcases List.mem_append.mp hopened with hopened | hopened
  · have hold := h pBlock hopened hclosed
    have hne : pBlock.id ≠ newBlockId := by
      intro heq
      rw [heq, hfresh] at hold
      cases hold
    rw [if_neg hne]
    exact hold
  · obtain rfl := List.mem_singleton.mp hopened
    rw [if_pos rfl]

theorem namesOpened_closeServerBlock {s : OpenedBlocks} (h : NamesOpened s)
    {pBlock : SharedServerBlock} (hopened : pBlock ∈ s.opened) (hclosed : pBlock ∉ s.closed) :
    NamesOpened { s with
      manager := s.manager.closeServerBlock pBlock.id
      closed := s.closed ++ [pBlock] } := by
  intro other hother hnot
  rw [List.mem_append, List.mem_singleton, not_or] at hnot
  have hold := h other hother hnot.1
  have hne : other.id ≠ pBlock.id := by
    intro heq
    apply hnot.2
    have hown := h pBlock hopened hclosed
    rw [← heq, hold] at hown
    cases other
    cases pBlock
    cases heq
    cases hown
    rfl
  simp only [getServerBlock, closeServerBlock,
    Function.update_apply, if_neg hne]
  exact hold

/-- The block that a call returns has a valid id, and no block had it. -/
def OpensFresh (x : OpenedBlocks × BlockIdAction × Option SharedServerBlock) : Prop :=
  ∀ pBlock ∈ x.2.2, pBlock.id ≠ kInvalidBlockId ∧ x.1.manager.getServerBlock pBlock.id = none

theorem blockId_step {s t : OpenedBlocks} {a : BlockIdAction} {o : Option SharedServerBlock}
    (h : NamesOpened s) (hcond : DrawsFresh s a)
    (hstep : blockIdMachine.step s a = some (t, o)) : OpensFresh (s, a, o) ∧ NamesOpened t := by
  cases a with
  | openServerBlock draws allocated =>
    obtain ⟨newBlockId, hdraw, hstep⟩ := Option.map_eq_some_iff.mp hstep
    split at hstep
    · rename_i hallocated
      cases hstep
      have hfresh := drawBlockId_of_fresh hdraw (hcond hallocated)
      constructor
      · intro pBlock hreturned
        cases hreturned
        exact hfresh
      · exact namesOpened_openServerBlock h hfresh.2
    · cases hstep
      constructor
      · intro pBlock hreturned
        cases hreturned
      · exact h
  | closeServerBlock pBlock =>
    obtain ⟨hopened, ⟨⟩⟩ := Option.ite_none_right_eq_some.mp hstep
    constructor
    · intro pBlock hreturned
      cases hreturned
    · exact namesOpened_closeServerBlock h hopened hcond

/-- In every run in which the generator draws a valid id that is not in use for each block, and no
block is closed twice, every block that is opened gets a fresh id, and its id names it until it is
closed, whatever other blocks are opened and closed. -/
theorem block_ids_fresh_of_run {s t : OpenedBlocks}
    {tr : List (OpenedBlocks × BlockIdAction × Option SharedServerBlock)}
    (hinit : blockIdMachine.init s) (htrace : blockIdMachine.Trace s tr t)
    (hcond : ∀ x ∈ tr, DrawsFresh x.1 x.2.1) :
    (∀ x ∈ tr, OpensFresh x) ∧ NamesOpened t := by
  have hnone : NamesOpened s := by
    obtain rfl := hinit
    intro pBlock hopened
    cases hopened
  have hkept : ∀ s t a o, NamesOpened s → DrawsFresh s a →
      blockIdMachine.step s a = some (t, o) → NamesOpened t :=
    fun _ _ _ _ h hone hstep => (blockId_step h hone hstep).2
  constructor
  · intro x hx
    obtain ⟨hnames, hone, u, hstep⟩ := htrace.invariant_of_mem hnone hcond hkept hx
    exact (blockId_step hnames hone hstep).1
  · exact htrace.invariant hnone hcond hkept

instance (s : OpenedBlocks) : (a : BlockIdAction) → Decidable (DrawsFresh s a)
  | .openServerBlock draws allocated =>
    @instDecidableForall (allocated = true) _ inferInstance
      (Option.decidableForallMem draws.head?)
  | .closeServerBlock pBlock => inferInstanceAs (Decidable (pBlock ∉ s.closed))

def twoBlocks : List BlockIdAction :=
  [.openServerBlock [7] true, .openServerBlock [56923] true, .closeServerBlock ⟨7, 0⟩]

theorem block_ids_fresh_of_run_two : ∃ t,
    blockIdMachine.run ⟨.new, [], []⟩ twoBlocks = some t ∧ NamesOpened t := by
  have hrun : (blockIdMachine.run ⟨.new, [], []⟩ twoBlocks).isSome = true := by decide
  have hcond : ∀ x ∈ blockIdMachine.transitions ⟨.new, [], []⟩ twoBlocks, DrawsFresh x.1 x.2.1 := by
    decide
  obtain ⟨t, ht⟩ := Option.isSome_iff_exists.mp hrun
  refine ⟨t, ht, ?_⟩
  exact (block_ids_fresh_of_run rfl (.of_run ht) hcond).2

/-- A generator that draws the same id twice gives two blocks one id: behind 30545 it can draw 30545
again. -/
theorem block_ids_fresh_not : ¬ ∀ (s t : OpenedBlocks)
    (tr : List (OpenedBlocks × BlockIdAction × Option SharedServerBlock)),
    blockIdMachine.init s → blockIdMachine.Trace s tr t →
    (∀ x ∈ tr, OpensFresh x) ∧ NamesOpened t := by
  intro hall
  obtain ⟨t, hrun, hopened, hclosed, hother⟩ :=
    blockIdMachine.exists_of_run ⟨.new, [], []⟩
      [.openServerBlock [30545] true, .openServerBlock [30545] true]
      (fun t => (⟨30545, 1⟩ : SharedServerBlock) ∈ t.opened ∧
        ⟨30545, 1⟩ ∉ t.closed ∧ t.manager.getServerBlock 30545 ≠ some 1) (by decide)
  exact hother ((hall _ t _ rfl (.of_run hrun)).2 ⟨30545, 1⟩ hopened hclosed)

end DevDriver.Analysis
