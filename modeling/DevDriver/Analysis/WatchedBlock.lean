import DevDriver.Analysis.PushServer
import DevDriver.Analysis.PushedBlocks

/-!
# One block through the steps of one transfer session

A block is watched while a session takes its steps.
-/

namespace DevDriver.Analysis

open Library Model TransferCtx

/-- What is known of the block and one session: the bytes of the session's current push, those of
the push that was completed last, and the allocation that waits for a push, by the block it named
and the size it asked for. -/
structure PushView where
  taken : List UInt8
  pushed : List UInt8
  awaited : Option (BlockId × ℕ)

def PushView.see (b : BlockRef) (v : PushView) (e : BlockEvent) : PushView :=
  if e.pBlock = b then
    match e.operation with
    | .beginTransfer => { v with taken := [], awaited := none }
    | .write src => { v with taken := v.taken ++ src }
    | .close => { v with pushed := v.taken }
    | .reset => v
    | .endTransfer => v
  else v

def PushView.after (b : BlockRef) (v : PushView) (events : List BlockEvent) : PushView :=
  events.foldl (PushView.see b) v

def BlockEvent.Counts (e : BlockEvent) : Prop :=
  e.operation = .beginTransfer ∨ e.operation = .endTransfer

structure Forgets (v v' : PushView) : Prop where
  pushed : v'.pushed = v.pushed
  awaited : v'.awaited = none ∨ v'.awaited = v.awaited

variable {b : BlockRef} {v v' : PushView} {events : List BlockEvent}

theorem Forgets.refl (v : PushView) : Forgets v v := ⟨rfl, .inr rfl⟩

theorem Forgets.trans {v'' : PushView} (h : Forgets v v') (h' : Forgets v' v'') :
    Forgets v v'' := by
  refine ⟨h'.pushed.trans h.pushed, ?_⟩
  rcases h'.awaited with hnone | hsame
  · exact .inl hnone
  · rw [hsame]
    exact h.awaited

theorem after_append (events' : List BlockEvent) :
    v.after b (events ++ events') = (v.after b events).after b events' :=
  List.foldl_append

theorem forgets_see {e : BlockEvent} (h : e.pBlock = b → BlockEvent.Counts e) :
    Forgets v (v.see b e) := by
  unfold PushView.see
  split
  · rename_i hb
    rcases h hb with hop | hop
    · rw [hop]
      exact ⟨rfl, .inl rfl⟩
    · rw [hop]
      exact .refl v
  · exact .refl v

theorem forgets_after (h : ∀ e ∈ events, e.pBlock = b → BlockEvent.Counts e) :
    Forgets v (v.after b events) := by
  induction events generalizing v with
  | nil => exact .refl v
  | cons e events ih =>
    have hfirst : Forgets v (v.see b e) := forgets_see (h e List.mem_cons_self)
    exact hfirst.trans (ih fun e' he' => h e' (List.mem_cons_of_mem _ he'))

/-! ## Steps that leave the bytes of the block alone -/

structure SameTable (m m' : TransferManager) : Prop where
  registered : m'.registeredServerBlocks = m.registeredServerBlocks
  nextBlock : m'.nextBlock = m.nextBlock

/-- The table and the content of `b` are the same, and no operation on `b` does more than count. -/
structure Leaves (b : BlockRef) (c c' : TransferCtx) : Prop where
  table : SameTable c.manager c'.manager
  content : SameContent (c.manager.blocks b) (c'.manager.blocks b)
  events : ∃ events, c'.events = c.events ++ events ∧
    ∀ e ∈ events, e.pBlock = b → BlockEvent.Counts e

variable {c c' c₁ c₂ : TransferCtx}

theorem Leaves.refl (b : BlockRef) (c : TransferCtx) : Leaves b c c :=
  ⟨⟨rfl, rfl⟩, .refl _, [], (List.append_nil _).symm, nofun⟩

theorem Leaves.trans (h : Leaves b c c₁) (h' : Leaves b c₁ c₂) : Leaves b c c₂ := by
  obtain ⟨events, heq, hcounts⟩ := h.events
  obtain ⟨events', heq', hcounts'⟩ := h'.events
  have htable : SameTable c.manager c₂.manager :=
    ⟨h'.table.registered.trans h.table.registered, h'.table.nextBlock.trans h.table.nextBlock⟩
  refine ⟨htable, h.content.trans h'.content, events ++ events', ?_, ?_⟩
  · rw [heq', heq, List.append_assoc]
  · intro e he
    rcases List.mem_append.mp he with he | he
    · exact hcounts e he
    · exact hcounts' e he

theorem Leaves.congr (h : Leaves b c c₁) (hmanager : c₂.manager = c₁.manager)
    (hevents : c₂.events = c₁.events) : Leaves b c c₂ := by
  refine ⟨?_, ?_, ?_⟩
  · rw [hmanager]
    exact h.table
  · rw [hmanager]
    exact h.content
  · rw [hevents]
    exact h.events

theorem KeepsBlocks.leaves (h : KeepsBlocks c c') (b : BlockRef) : Leaves b c c' :=
  (Leaves.refl b c).congr h.manager h.events

theorem Leaves.forgets (h : Leaves b c c') (v : PushView) :
    Forgets (v.after b c.events) (v.after b c'.events) := by
  obtain ⟨events, heq, hcounts⟩ := h.events
  rw [heq, after_append]
  exact forgets_after hcounts

theorem leaves_onBlock {operation : BlockOperation}
    (hcount : operation = .beginTransfer ∨ operation = .endTransfer) (pBlock b : BlockRef)
    (c : TransferCtx) : Leaves b c (c.onBlock pBlock operation) := by
  refine ⟨⟨rfl, rfl⟩, sameContent_onBlock hcount pBlock b c, [⟨pBlock, operation, _⟩], rfl, ?_⟩
  intro e he _
  obtain rfl := List.mem_singleton.mp he
  exact hcount

theorem leaves_onHeldBlock (hother : c.session.pBlock ≠ some b) (operation : BlockOperation) :
    Leaves b c (c.onHeldBlock operation) := by
  unfold onHeldBlock
  split
  · exact .refl b c
  · rename_i pBlock hheld
    have hne : pBlock ≠ b := fun heq => hother (heq ▸ hheld)
    refine ⟨⟨rfl, rfl⟩, ?_, [⟨pBlock, operation, _⟩], rfl, ?_⟩
    · show SameContent _ (Function.update c.manager.blocks pBlock _ b)
      rw [Function.update_of_ne hne.symm]
      exact .refl _
    · intro e he heq
      obtain rfl := List.mem_singleton.mp he
      exact absurd heq hne

theorem leaves_releaseBlock (b : BlockRef) (c : TransferCtx) : Leaves b c c.releaseBlock := by
  unfold releaseBlock onHeldBlock
  split
  · exact (Leaves.refl b c).congr rfl rfl
  · rename_i pBlock _
    exact (leaves_onBlock (.inr rfl) pBlock b c).congr rfl rfl

theorem leaves_takeBlock (pBlock : BlockRef) (totalBytes : ℕ) (crc : UInt32) (b : BlockRef)
    (c : TransferCtx) : Leaves b c (c.takeBlock pBlock totalBytes crc) :=
  (leaves_onBlock (.inl rfl) pBlock b c).congr rfl rfl

theorem leaves_reply (data : List UInt8) (b : BlockRef) (c : TransferCtx) :
    Leaves b c (c.reply data) :=
  (keepsBlocks_reply data c).leaves b

theorem leaves_sendSentinel (status : Result) (crc : UInt32) (b : BlockRef) (c : TransferCtx) :
    Leaves b c (c.sendSentinel status crc) :=
  (leaves_releaseBlock b c).trans (leaves_reply _ b _)

theorem leaves_processPullSession (b : BlockRef) (c : TransferCtx) :
    Leaves b c c.processPullSession := by
  have hreceived := (keepsBlocks_receivePayload c).leaves b
  unfold processPullSession
  simp only
  split
  · have hchunks := hreceived.trans ((keepsBlocks_sendChunks
      (c.receivePayload.2.session.totalBytes - c.receivePayload.2.session.bytesTransferred)
      c.receivePayload.2).leaves b)
    split
    · exact hchunks.trans (leaves_sendSentinel _ _ b _)
    · exact hchunks
  · split
    · split
      · exact hreceived.trans (leaves_sendSentinel _ _ b _)
      · exact hreceived.trans (leaves_sendSentinel _ _ b _)
    · exact hreceived

theorem leaves_sendPullTransferHeader (b : BlockRef) (c : TransferCtx) :
    Leaves b c c.sendPullTransferHeader := by
  have hsent := (keepsBlocks_sendPayload c).leaves b
  unfold sendPullTransferHeader
  simp only
  split
  · apply hsent.trans
    apply ((keepsBlocks_setState .processPullTransfer _).leaves b).trans
    exact leaves_processPullSession b _
  · exact hsent

theorem leaves_processPullRequest (blockId : BlockId) (b : BlockRef) (c : TransferCtx) :
    Leaves b c (c.processPullRequest blockId) := by
  unfold processPullRequest
  split
  · exact leaves_reply _ b c
  · simp only
    split
    · apply (leaves_takeBlock _ _ _ b c).trans
      apply ((keepsBlocks_setState .startPullTransfer _).leaves b).trans
      apply ((keepsBlocks_createPayload _ _).leaves b).trans
      exact leaves_sendPullTransferHeader b _
    · exact leaves_reply _ b c

theorem leaves_startPushTransferSession (b : BlockRef) (c : TransferCtx) :
    Leaves b c c.startPushTransferSession := by
  have hsent := (keepsBlocks_sendPayload c).leaves b
  unfold startPushTransferSession
  simp only
  split
  · exact hsent.trans ((keepsBlocks_setState .receivePushTransferData _).leaves b)
  · exact hsent

theorem startPushTransferSession_events (c : TransferCtx) :
    c.startPushTransferSession.events = c.events := by
  have hsent := (keepsBlocks_sendPayload c).events
  unfold startPushTransferSession
  simp only
  split
  · exact hsent
  · exact hsent

theorem leaves_processPushRequest (blockId : BlockId) (sizeInBytes : ℕ) (b : BlockRef)
    (c : TransferCtx) : Leaves b c (c.processPushRequest blockId sizeInBytes) := by
  unfold processPushRequest
  split
  · exact leaves_reply _ b c
  · simp only
    split
    · split
      · apply (leaves_takeBlock _ _ _ b c).trans
        apply ((keepsBlocks_setState .startPushTransfer _).leaves b).trans
        apply ((keepsBlocks_createPayload _ _).leaves b).trans
        exact leaves_startPushTransferSession b _
      · exact (leaves_takeBlock _ _ _ b c).trans (leaves_reply _ b _)
    · exact leaves_reply _ b c

theorem leaves_processPayload (b : BlockRef) (c : TransferCtx) :
    Leaves b c c.processPayload := by
  unfold processPayload
  split
  · split
    · exact leaves_processPullRequest _ b c
    · exact leaves_processPushRequest _ _ b c
    · exact leaves_reply _ b c
  · exact leaves_sendSentinel _ _ b c
  · exact .refl b c

theorem begun_processPushRequest {blockId : BlockId} {sizeInBytes : ℕ}
    (hpush : PushesTo (c.processPushRequest blockId sizeInBytes).session b)
    (v : PushView) :
    (v.after b (c.processPushRequest blockId sizeInBytes).events).taken = [] ∧
      (v.after b (c.processPushRequest blockId sizeInBytes).events).awaited = none := by
  revert hpush
  unfold processPushRequest
  split
  · exact fun hpush => absurd hpush ((aside_reply _ c).not_pushesTo b)
  · rename_i pBlock _
    simp only
    split
    · split
      · intro hpush
        obtain ⟨-, hpBlock, -⟩ := calm_startPushTransferSession
          (((c.takeBlock pBlock sizeInBytes 0).setState .startPushTransfer).createPayload
            (transferStatus .success)) rfl
        obtain rfl : pBlock = b := Option.some.inj (hpBlock.symm.trans hpush.1)
        rw [startPushTransferSession_events]
        have hafter : v.after pBlock (c.takeBlock pBlock sizeInBytes 0).events =
            { v.after pBlock c.events with taken := [], awaited := none } := by
          show v.after pBlock (c.events ++ [⟨pBlock, .beginTransfer, _⟩]) = _
          rw [after_append]
          show PushView.see pBlock _ _ = _
          unfold PushView.see
          rw [if_pos rfl]
        show (v.after pBlock (c.takeBlock pBlock sizeInBytes 0).events).taken = [] ∧
          (v.after pBlock (c.takeBlock pBlock sizeInBytes 0).events).awaited = none
        rw [hafter]
        exact ⟨rfl, rfl⟩
      · exact fun hpush => absurd hpush ((aside_reply _ _).not_pushesTo b)
    · exact fun hpush => absurd hpush ((aside_reply _ _).not_pushesTo b)

/-! ## A push in progress -/

/-- A push to the open block `b` whose chunks are being received: the block contains what the push
has written. -/
structure Tracked (b : BlockRef) (v : PushView) (c : TransferCtx) : Prop where
  state : c.session.state = .receivePushTransferData
  pBlock : c.session.pBlock = some b
  isOpen : (c.manager.blocks b).isClosed = false
  sized : ServerBlock.Sized (c.manager.blocks b)
  data : (c.manager.blocks b).data = (v.after b c.events).taken
  pushed : (v.after b c.events).pushed = []

structure Over (b : BlockRef) (v : PushView) (c : TransferCtx) : Prop where
  aside : Aside c.session
  sized : ServerBlock.Sized (c.manager.blocks b)
  data : (c.manager.blocks b).data = (v.after b c.events).pushed
  empty : (c.manager.blocks b).isClosed = false → (v.after b c.events).pushed = []

def Tracks (b : BlockRef) (v : PushView) (c : TransferCtx) : Prop := Tracked b v c ∨ Over b v c

theorem sized_write {block : ServerBlock} (h : ServerBlock.Sized block) (src : List UInt8) :
    ServerBlock.Sized (block.write src) := by
  have hle := le_length_grown h src.length
  unfold ServerBlock.write
  split
  · show block.blockDataSize + src.length ≤ (overwrite _ _ _).length
    rw [length_overwrite hle]
    exact hle
  · exact h

theorem SameContent.data {block block' : ServerBlock} (h : SameContent block block') :
    block'.data = block.data := by
  unfold ServerBlock.data
  rw [h.chunks, h.blockDataSize]

theorem SameContent.sized {block block' : ServerBlock} (h : SameContent block block')
    (hsized : ServerBlock.Sized block) : ServerBlock.Sized block' := by
  unfold ServerBlock.Sized
  rw [h.chunks, h.blockDataSize]
  exact hsized

theorem onHeldBlock_events (h : c.session.pBlock = some b) (operation : BlockOperation) :
    (c.onHeldBlock operation).events =
      c.events ++ [⟨b, operation, c.manager.blocks b⟩] := by
  rw [onHeldBlock_of_pBlock h]
  rfl

theorem after_onHeldBlock (h : c.session.pBlock = some b) (operation : BlockOperation)
    (v : PushView) : v.after b (c.onHeldBlock operation).events =
      (v.after b c.events).see b ⟨b, operation, c.manager.blocks b⟩ := by
  rw [onHeldBlock_events h, after_append]
  rfl

theorem Tracked.write (h : Tracked b v c) (src : List UInt8) (bytes : ℕ) :
    Tracked b v ((c.onHeldBlock (.write src)).advance bytes) := by
  have hblock : (c.onHeldBlock (.write src)).manager.blocks b =
      (c.manager.blocks b).write src := onHeldBlock_blocks h.pBlock _
  have hsession := onHeldBlock_session (.write src) c
  have hafter := after_onHeldBlock h.pBlock (.write src) v
  unfold PushView.see at hafter
  rw [if_pos rfl] at hafter
  refine ⟨?_, ?_, ?_, ?_, ?_, ?_⟩
  · show (c.onHeldBlock (.write src)).session.state = _
    rw [hsession]
    exact h.state
  · show (c.onHeldBlock (.write src)).session.pBlock = _
    rw [hsession]
    exact h.pBlock
  · show ((c.onHeldBlock (.write src)).manager.blocks b).isClosed = false
    rw [hblock, write_isClosed]
    exact h.isOpen
  · show ServerBlock.Sized ((c.onHeldBlock (.write src)).manager.blocks b)
    rw [hblock]
    exact sized_write h.sized src
  · show ((c.onHeldBlock (.write src)).manager.blocks b).data =
      (v.after b (c.onHeldBlock (.write src)).events).taken
    rw [hblock, hafter, write_data h.sized, h.data]
  · show (v.after b (c.onHeldBlock (.write src)).events).pushed = []
    rw [hafter]
    exact h.pushed

theorem over_releaseBlock_reply (hsized : ServerBlock.Sized (c.manager.blocks b))
    (hdata : (c.manager.blocks b).data = (v.after b c.events).pushed)
    (hempty : (c.manager.blocks b).isClosed = false → (v.after b c.events).pushed = [])
    (data : List UInt8) : Over b v (c.releaseBlock.reply data) := by
  have hleaves := (leaves_releaseBlock b c).trans (leaves_reply data b _)
  have hpushed := (hleaves.forgets v).pushed
  refine ⟨aside_reply data _, hleaves.content.sized hsized, ?_, ?_⟩
  · rw [hleaves.content.data, hpushed]
    exact hdata
  · rw [hleaves.content.isClosed, hpushed]
    exact hempty

theorem Tracked.cancelTransfer (h : Tracked b v c) (reason : Result) :
    Over b v (c.cancelTransfer reason) := by
  have hblock : (c.onHeldBlock .reset).manager.blocks b = (c.manager.blocks b).reset :=
    onHeldBlock_blocks h.pBlock _
  have hafter := after_onHeldBlock h.pBlock .reset v
  unfold PushView.see at hafter
  rw [if_pos rfl] at hafter
  have hpushed : (v.after b (c.onHeldBlock .reset).events).pushed = [] := by
    rw [hafter]
    exact h.pushed
  apply over_releaseBlock_reply
  · rw [hblock]
    exact Nat.zero_le _
  · rw [hblock, hpushed]
    exact List.take_zero
  · intro _
    exact hpushed

theorem Tracked.receiveChunk (h : Tracked b v c) : Tracks b v c.receiveChunk := by
  unfold TransferCtx.receiveChunk
  split
  · exact .inl (h.write _ _)
  · exact .inr (h.cancelTransfer _)

theorem Tracked.receiveSentinel (h : Tracked b v c) : Tracks b v c.receiveSentinel := by
  have hblock : (c.onHeldBlock .close).manager.blocks b = (c.manager.blocks b).close :=
    onHeldBlock_blocks h.pBlock _
  have hafter := after_onHeldBlock h.pBlock .close v
  unfold PushView.see at hafter
  rw [if_pos rfl] at hafter
  unfold TransferCtx.receiveSentinel
  simp only
  split
  · right
    apply over_releaseBlock_reply
    · rw [hblock]
      exact h.sized
    · rw [hblock, hafter]
      exact h.data
    · rw [hblock]
      intro hopen
      exact absurd hopen (by simp [ServerBlock.close])
  · exact .inr (h.cancelTransfer _)

theorem Tracked.receivePushMessage (h : Tracked b v c) : Tracks b v c.receivePushMessage := by
  unfold TransferCtx.receivePushMessage
  split
  · exact h.receiveChunk
  · exact h.receiveSentinel
  · exact .inr (h.cancelTransfer _)

theorem Tracked.receivePayload (h : Tracked b v c) : Tracked b v c.receivePayload.2 := by
  have hkeeps := keepsBlocks_receivePayload c
  refine ⟨(receivePayload_state c).trans h.state, hkeeps.pBlock.trans h.pBlock, ?_, ?_, ?_, ?_⟩
  · rw [hkeeps.manager]
    exact h.isOpen
  · rw [hkeeps.manager]
    exact h.sized
  · rw [hkeeps.manager, hkeeps.events]
    exact h.data
  · rw [hkeeps.events]
    exact h.pushed

theorem Tracked.receivePushLoop (rounds : ℕ) (h : Tracked b v c) :
    Tracks b v (c.receivePushLoop rounds) := by
  induction rounds generalizing c with
  | zero => exact .inl h
  | succ rounds ih =>
    have hmessage := h.receivePayload.receivePushMessage
    unfold TransferCtx.receivePushLoop
    simp only
    split
    · split
      · rename_i hstate
        exact ih (hmessage.resolve_right fun hover => hover.aside.2 hstate)
      · exact hmessage
    · exact .inl h.receivePayload

structure LeavesOther (b : BlockRef) (c c' : TransferCtx) : Prop where
  leaves : Leaves b c c'
  other : c'.session.pBlock ≠ some b

theorem reply_pBlock (data : List UInt8) (c : TransferCtx) :
    (c.reply data).session.pBlock = c.session.pBlock :=
  (keepsBlocks_reply data c).pBlock

theorem leavesOther_cancelTransfer (hother : c.session.pBlock ≠ some b) (reason : Result) :
    LeavesOther b c (c.cancelTransfer reason) := by
  refine ⟨?_, ?_⟩
  · apply (leaves_onHeldBlock hother .reset).trans
    apply (leaves_releaseBlock b _).trans
    exact leaves_reply _ b _
  · unfold cancelTransfer
    rw [reply_pBlock]
    exact Option.some_ne_none b |>.symm

theorem leavesOther_receiveChunk (hother : c.session.pBlock ≠ some b) :
    LeavesOther b c c.receiveChunk := by
  unfold receiveChunk
  split
  · refine ⟨(leaves_onHeldBlock hother _).trans ((keepsBlocks_advance _ _).leaves b), ?_⟩
    rw [(keepsBlocks_advance _ _).pBlock, onHeldBlock_session]
    exact hother
  · exact leavesOther_cancelTransfer hother _

theorem leavesOther_receiveSentinel (hother : c.session.pBlock ≠ some b) :
    LeavesOther b c c.receiveSentinel := by
  unfold receiveSentinel
  simp only
  split
  · refine ⟨?_, ?_⟩
    · apply (leaves_onHeldBlock hother .close).trans
      apply (leaves_releaseBlock b _).trans
      exact leaves_reply _ b _
    · rw [reply_pBlock]
      exact Option.some_ne_none b |>.symm
  · exact leavesOther_cancelTransfer hother _

theorem leavesOther_receivePushMessage (hother : c.session.pBlock ≠ some b) :
    LeavesOther b c c.receivePushMessage := by
  unfold receivePushMessage
  split
  · exact leavesOther_receiveChunk hother
  · exact leavesOther_receiveSentinel hother
  · exact leavesOther_cancelTransfer hother _

theorem leavesOther_receivePushLoop (rounds : ℕ) (hother : c.session.pBlock ≠ some b) :
    LeavesOther b c (c.receivePushLoop rounds) := by
  induction rounds generalizing c with
  | zero => exact ⟨.refl b c, hother⟩
  | succ rounds ih =>
    have hkeeps := keepsBlocks_receivePayload c
    have hreceived : c.receivePayload.2.session.pBlock ≠ some b := by
      rw [hkeeps.pBlock]
      exact hother
    have hmessage := leavesOther_receivePushMessage hreceived
    have hleaves := (hkeeps.leaves b).trans hmessage.leaves
    unfold receivePushLoop
    simp only
    split
    · split
      · have hrest := ih hmessage.other
        exact ⟨hleaves.trans hrest.leaves, hrest.other⟩
      · exact ⟨hleaves, hmessage.other⟩
    · exact ⟨hkeeps.leaves b, hreceived⟩

/-! ## One step -/

/-- A step of a session that does not push to `b`: it leaves the bytes of `b` alone, and a push to
`b` that it has after the step was accepted just now. -/
structure Bystands (b : BlockRef) (v : PushView) (c c' : TransferCtx) : Prop where
  leaves : Leaves b c c'
  accepted : PushesTo c'.session b → AcceptsPush b c ∧ (v.after b c'.events).taken = [] ∧
    (v.after b c'.events).awaited = none

theorem Leaves.bystands (h : Leaves b c c') (v : PushView) (hnot : ¬ PushesTo c'.session b) :
    Bystands b v c c' :=
  ⟨h, fun hpush => absurd hpush hnot⟩

theorem bystands_processPayload (hidle : c.session.state = .idle)
    (hsuccess : c.receivePayload.1 = .success) (v : PushView) :
    Bystands b v c c.receivePayload.2.processPayload := by
  have hleaves := ((keepsBlocks_receivePayload c).leaves b).trans
    (leaves_processPayload b c.receivePayload.2)
  refine ⟨hleaves, fun hpush => ⟨?_, ?_⟩⟩
  · have hnot : ¬ PushesTo c.session b :=
      (aside_of_state hidle ⟨nofun, nofun⟩).not_pushesTo b
    exact ((stepSpec_processPayload hidle hsuccess).origin b hpush).resolve_right hnot
  · revert hpush
    unfold processPayload
    split
    · split
      · exact fun hpush => absurd hpush ((idles_processPullRequest _ _).aside.not_pushesTo b)
      · exact fun hpush => begun_processPushRequest hpush v
      · exact fun hpush => absurd hpush ((aside_reply _ _).not_pushesTo b)
    · exact fun hpush => absurd hpush ((idles_sendSentinel _ _ _).aside.not_pushesTo b)
    · intro hpush
      have hstate := (receivePayload_state c).trans hidle
      exact absurd hpush ((aside_of_state hstate ⟨nofun, nofun⟩).not_pushesTo b)

theorem bystands_updateSession (hnot : ¬ PushesTo c.session b) (v : PushView) :
    Bystands b v c c.updateSession := by
  unfold TransferCtx.updateSession
  split
  · rename_i hidle
    simp only
    split
    · rename_i hsuccess
      exact bystands_processPayload hidle hsuccess v
    · have haside : Aside c.receivePayload.2.session :=
        aside_of_state ((receivePayload_state c).trans hidle) ⟨nofun, nofun⟩
      exact ((keepsBlocks_receivePayload c).leaves b).bystands v (haside.not_pushesTo b)
  · rename_i hstate
    have haside := (idles_processPullSession (aside_of_state hstate ⟨nofun, nofun⟩)).aside
    exact (leaves_processPullSession b c).bystands v (haside.not_pushesTo b)
  · rename_i hstate
    have haside := (idles_sendPullTransferHeader (aside_of_state hstate ⟨nofun, nofun⟩)).aside
    exact (leaves_sendPullTransferHeader b c).bystands v (haside.not_pushesTo b)
  · rename_i hstate
    obtain ⟨-, hpBlock, -⟩ := calm_startPushTransferSession c hstate
    apply (leaves_startPushTransferSession b c).bystands v
    intro hpush
    exact hnot ⟨hpBlock.symm.trans hpush.1, .inl hstate⟩
  · rename_i hstate
    have hother : c.session.pBlock ≠ some b := fun hheld => hnot ⟨hheld, .inr hstate⟩
    have hloop := leavesOther_receivePushLoop (c.receives.length + 1) hother
    exact hloop.leaves.bystands v fun hpush => hloop.other hpush.1
  · rename_i hstate
    apply ((keepsBlocks_sendScratch c).leaves b).bystands v
    rcases sendScratch_state hstate with h | h
    · exact (aside_of_state h ⟨nofun, nofun⟩).not_pushesTo b
    · exact (aside_of_state h ⟨nofun, nofun⟩).not_pushesTo b

theorem exists_not_pushesTo (session : TransferSession) : ∃ b, ¬ PushesTo session b := by
  cases hheld : session.pBlock with
  | none =>
    refine ⟨0, fun hpush => ?_⟩
    rw [PushesTo, hheld] at hpush
    exact absurd hpush.1 (by simp)
  | some held =>
    refine ⟨held + 1, fun hpush => ?_⟩
    rw [PushesTo, hheld] at hpush
    exact Nat.succ_ne_self held (Option.some.inj hpush.1).symm

theorem sameTable_updateSession (c : TransferCtx) :
    SameTable c.manager c.updateSession.manager := by
  obtain ⟨b, hnot⟩ := exists_not_pushesTo c.session
  exact (bystands_updateSession hnot ⟨[], [], none⟩).leaves.table

theorem origin_updateSession (hpush : PushesTo c.updateSession.session b) :
    AcceptsPush b c ∨ PushesTo c.session b := by
  by_cases hbefore : PushesTo c.session b
  · exact .inr hbefore
  · exact .inl ((bystands_updateSession hbefore ⟨[], [], none⟩).accepted hpush).1

structure Fills (b : BlockRef) (v : PushView) (c : TransferCtx) : Prop where
  pushes : PushesTo c.session b
  isOpen : (c.manager.blocks b).isClosed = false
  sized : ServerBlock.Sized (c.manager.blocks b)
  data : (c.manager.blocks b).data = (v.after b c.events).taken
  pushed : (v.after b c.events).pushed = []

theorem Tracked.fills (h : Tracked b v c) : Fills b v c :=
  ⟨⟨h.pBlock, .inr h.state⟩, h.isOpen, h.sized, h.data, h.pushed⟩

theorem Fills.updateSession (h : Fills b v c) :
    Fills b v c.updateSession ∨ Over b v c.updateSession := by
  unfold TransferCtx.updateSession
  rcases h.pushes.2 with hstate | hstate
  · rw [hstate]
    left
    obtain ⟨-, hpBlock, hafter⟩ := calm_startPushTransferSession c hstate
    have hcontent := (leaves_startPushTransferSession b c).content
    have hevents := startPushTransferSession_events c
    refine ⟨⟨hpBlock.trans h.pushes.1, hafter⟩, hcontent.isClosed.trans h.isOpen,
      hcontent.sized h.sized, ?_, ?_⟩
    · show (c.startPushTransferSession.manager.blocks b).data =
        (v.after b c.startPushTransferSession.events).taken
      rw [hcontent.data, hevents]
      exact h.data
    · show (v.after b c.startPushTransferSession.events).pushed = []
      rw [hevents]
      exact h.pushed
  · rw [hstate]
    have htracked : Tracked b v c :=
      ⟨hstate, h.pushes.1, h.isOpen, h.sized, h.data, h.pushed⟩
    exact (htracked.receivePushLoop (c.receives.length + 1)).imp_left Tracked.fills

theorem leaves_destroy (b : BlockRef) (c : TransferCtx) : Leaves b c c.destroy := by
  unfold destroy onHeldBlock
  split
  · exact .refl b c
  · rename_i pBlock _
    exact leaves_onBlock (.inr rfl) pBlock b c

theorem awaited_after (v : PushView) (events : List BlockEvent) :
    (v.after b events).awaited = none ∨ (v.after b events).awaited = v.awaited := by
  induction events generalizing v with
  | nil => exact .inr rfl
  | cons e events ih =>
    have hfirst : (v.see b e).awaited = none ∨ (v.see b e).awaited = v.awaited := by
      unfold PushView.see
      split
      · cases e.operation with
        | beginTransfer => exact .inl rfl
        | write src => exact .inr rfl
        | close => exact .inr rfl
        | reset => exact .inr rfl
        | endTransfer => exact .inr rfl
      · exact .inr rfl
    rcases ih (v.see b e) with hnone | hsame
    · exact .inl hnone
    · exact hfirst.imp hsame.trans hsame.trans

end DevDriver.Analysis
