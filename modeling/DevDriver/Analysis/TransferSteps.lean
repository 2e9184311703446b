import DevDriver.Model.TransferServer

/-!
# What the calls of a transfer session change

The parts of a session's step that touch no block, and the step's shape: `Send` and `Receive` change
nothing but the answers that are left, what was sent and the scratch container.
-/

namespace DevDriver.Analysis

open Library Model TransferCtx

/-! ## Sending and receiving -/

structure KeepsBlocks (c c' : TransferCtx) : Prop where
  pBlock : c'.session.pBlock = c.session.pBlock
  manager : c'.manager = c.manager
  events : c'.events = c.events

variable (data : List UInt8) (c : TransferCtx)

theorem KeepsBlocks.refl : KeepsBlocks c c := ⟨rfl, rfl, rfl⟩

theorem KeepsBlocks.trans {c c₁ c₂ : TransferCtx} (h : KeepsBlocks c c₁)
    (h' : KeepsBlocks c₁ c₂) : KeepsBlocks c c₂ :=
  ⟨h'.pBlock.trans h.pBlock, h'.manager.trans h.manager, h'.events.trans h.events⟩

theorem keepsBlocks_createPayload :
    KeepsBlocks c (c.createPayload data) := ⟨rfl, rfl, rfl⟩

theorem keepsBlocks_setState (state : TransferSessionState) (c : TransferCtx) :
    KeepsBlocks c (c.setState state) := ⟨rfl, rfl, rfl⟩

theorem sendPayload_session : c.sendPayload.2.session = c.session := by
  unfold sendPayload
  split <;> rfl

theorem keepsBlocks_sendPayload : KeepsBlocks c c.sendPayload.2 := by
  unfold sendPayload
  split <;> exact ⟨rfl, rfl, rfl⟩

theorem receivePayload_session : ∃ scratchPayload,
    c.receivePayload.2.session = { c.session with scratchPayload := scratchPayload } := by
  unfold receivePayload
  split
  · exact ⟨_, rfl⟩
  · exact ⟨_, rfl⟩
  · exact ⟨_, rfl⟩

theorem keepsBlocks_receivePayload : KeepsBlocks c c.receivePayload.2 := by
  unfold receivePayload
  split <;> exact ⟨rfl, rfl, rfl⟩

theorem receivePayload_state : c.receivePayload.2.session.state = c.session.state := by
  obtain ⟨scratchPayload, h⟩ := receivePayload_session c
  rw [h]

theorem keepsBlocks_advance (bytes : ℕ) (c : TransferCtx) : KeepsBlocks c (c.advance bytes) :=
  ⟨rfl, rfl, rfl⟩

theorem keepsBlocks_sendScratch : KeepsBlocks c c.sendScratchPayloadAndMoveToIdle := by
  have h := keepsBlocks_sendPayload c
  unfold sendScratchPayloadAndMoveToIdle
  simp only
  split
  · exact h.trans (keepsBlocks_setState _ _)
  · exact h

theorem onHeldBlock_session (operation : BlockOperation) (c : TransferCtx) :
    (c.onHeldBlock operation).session = c.session := by
  unfold onHeldBlock
  split <;> rfl

theorem onHeldBlock_of_pBlock {c : TransferCtx} {b : BlockRef} (h : c.session.pBlock = some b)
    (operation : BlockOperation) : c.onHeldBlock operation = c.onBlock b operation := by
  unfold onHeldBlock
  rw [h]

theorem sendScratch_state {c : TransferCtx} (h : c.session.state = .sendPayload) :
    c.sendScratchPayloadAndMoveToIdle.session.state = .idle ∨
      c.sendScratchPayloadAndMoveToIdle.session.state = .sendPayload := by
  unfold sendScratchPayloadAndMoveToIdle
  simp only
  split
  · exact .inl rfl
  · rw [sendPayload_session]
    exact .inr h

theorem keepsBlocks_reply : KeepsBlocks c (c.reply data) :=
  ((keepsBlocks_createPayload data c).trans (keepsBlocks_setState _ _)).trans
    (keepsBlocks_sendScratch _)

theorem reply_state :
    (c.reply data).session.state = .idle ∨ (c.reply data).session.state = .sendPayload :=
  sendScratch_state rfl

theorem keepsBlocks_sendChunks (rounds : ℕ) (c : TransferCtx) :
    KeepsBlocks c (c.sendChunks rounds) := by
  induction rounds generalizing c with
  | zero => exact .refl c
  | succ rounds ih =>
    unfold sendChunks
    simp only
    split
    · have h := fun data => (keepsBlocks_createPayload data c).trans
        (keepsBlocks_sendPayload (c.createPayload data))
      split
      · exact ((h _).trans (keepsBlocks_advance _ _)).trans (ih _)
      · exact h _
    · exact .refl c

theorem sendChunks_state (rounds : ℕ) (c : TransferCtx) :
    (c.sendChunks rounds).session.state = c.session.state := by
  induction rounds generalizing c with
  | zero => rfl
  | succ rounds ih =>
    unfold sendChunks
    simp only
    split
    · have h : ∀ data, (c.createPayload data).sendPayload.2.session.state = c.session.state := by
        intro data
        rw [sendPayload_session]
        rfl
      split
      · exact (ih _).trans (h _)
      · exact h _
    · rfl

end DevDriver.Analysis
