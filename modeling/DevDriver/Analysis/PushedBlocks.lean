import DevDriver.Analysis.PendingTransfers

/-!
# Pushed blocks stay as they are

A block that a push has closed must not change again.
-/

namespace DevDriver.Analysis

open Library Model TransferCtx

/-- Two states of a block with the same bytes, size, checksum and closed flag. -/
structure SameContent (b b' : ServerBlock) : Prop where
  isClosed : b'.isClosed = b.isClosed
  chunks : b'.chunks = b.chunks
  blockDataSize : b'.blockDataSize = b.blockDataSize
  crc32 : b'.crc32 = b.crc32

theorem SameContent.refl (b : ServerBlock) : SameContent b b := ⟨rfl, rfl, rfl, rfl⟩

theorem SameContent.trans {b b₁ b₂ : ServerBlock} (h : SameContent b b₁)
    (h' : SameContent b₁ b₂) : SameContent b b₂ :=
  ⟨h'.isClosed.trans h.isClosed, h'.chunks.trans h.chunks,
    h'.blockDataSize.trans h.blockDataSize, h'.crc32.trans h.crc32⟩

/-- A write or a close of a closed block, which the source asserts never happens. -/
def Violates (e : BlockEvent) : Prop :=
  e.before.isClosed = true ∧ match e.operation with
    | .write _ | .close => True
    | _ => False

/-- Nothing is written to a closed block and no block is closed twice. -/
def RespectsClosed (events : List BlockEvent) : Prop := ∀ e ∈ events, ¬ Violates e

def StaysClosed (c : TransferCtx) : Prop :=
  ∀ e ∈ c.events, e.operation = .close → (c.manager.blocks e.pBlock).isClosed = true

structure RecordOk (c : TransferCtx) : Prop where
  respects : RespectsClosed c.events
  staysClosed : StaysClosed c

structure Calm (c c' : TransferCtx) : Prop where
  content : ∀ b, SameContent (c.manager.blocks b) (c'.manager.blocks b)
  record : RecordOk c → RecordOk c'

theorem Calm.refl (c : TransferCtx) : Calm c c := ⟨fun _ => .refl _, id⟩

variable {c : TransferCtx}

variable {c₁ c₂ : TransferCtx}

theorem Calm.trans (h : Calm c c₁) (h' : Calm c₁ c₂) : Calm c c₂ :=
  ⟨fun b => (h.content b).trans (h'.content b), fun hrecord => h'.record (h.record hrecord)⟩

theorem Calm.congr (h : Calm c c₁) (hmanager : c₂.manager = c₁.manager)
    (hevents : c₂.events = c₁.events) : Calm c c₂ := by
  refine ⟨fun b => ?_, fun hrecord => ⟨?_, ?_⟩⟩
  · rw [hmanager]
    exact h.content b
  · rw [hevents]
    exact (h.record hrecord).respects
  · unfold StaysClosed
    rw [hevents, hmanager]
    exact (h.record hrecord).staysClosed

variable {c' : TransferCtx}

theorem KeepsBlocks.calm (h : KeepsBlocks c c') : Calm c c' :=
  (Calm.refl c).congr h.manager h.events

theorem sameContent_onBlock {operation : BlockOperation}
    (hcount : operation = .beginTransfer ∨ operation = .endTransfer) (pBlock b : BlockRef)
    (c : TransferCtx) :
    SameContent (c.manager.blocks b) ((c.onBlock pBlock operation).manager.blocks b) := by
  show SameContent _ (Function.update c.manager.blocks pBlock _ b)
  by_cases hb : b = pBlock
  · subst hb
    rw [Function.update_self]
    rcases hcount with rfl | rfl <;> exact ⟨rfl, rfl, rfl, rfl⟩
  · rw [Function.update_of_ne hb]
    exact .refl _

theorem calm_onBlock {operation : BlockOperation}
    (hcount : operation = .beginTransfer ∨ operation = .endTransfer) (pBlock : BlockRef)
    (c : TransferCtx) : Calm c (c.onBlock pBlock operation) := by
  have hcontent := fun b => sameContent_onBlock hcount pBlock b c
  refine ⟨hcontent, fun hrecord => ⟨fun e hmem => ?_, fun e hmem hclose => ?_⟩⟩
  · rcases List.mem_append.mp hmem with hmem | hmem
    · exact hrecord.respects e hmem
    · obtain rfl := List.mem_singleton.mp hmem
      rintro ⟨-, hviolates⟩
      rcases hcount with rfl | rfl <;> exact hviolates
  · rcases List.mem_append.mp hmem with hmem | hmem
    · exact (hcontent e.pBlock).isClosed.trans (hrecord.staysClosed e hmem hclose)
    · obtain rfl := List.mem_singleton.mp hmem
      rcases hcount with rfl | rfl <;> cases hclose

theorem calm_releaseBlock (c : TransferCtx) : Calm c c.releaseBlock := by
  unfold releaseBlock onHeldBlock
  split
  · exact (Calm.refl c).congr rfl rfl
  · rename_i pBlock _
    have h := calm_onBlock (.inr rfl) pBlock c
    exact h.congr rfl rfl

theorem calm_takeBlock (pBlock : BlockRef) (totalBytes : ℕ) (crc : UInt32) (c : TransferCtx) :
    Calm c (c.takeBlock pBlock totalBytes crc) :=
  (calm_onBlock (.inl rfl) pBlock c).congr rfl rfl

/-! ## Pushes in progress -/

def PushesTo (session : TransferSession) (b : BlockRef) : Prop :=
  session.pBlock = some b ∧
    (session.state = .startPushTransfer ∨ session.state = .receivePushTransferData)

def Aside (session : TransferSession) : Prop :=
  session.state ≠ .startPushTransfer ∧ session.state ≠ .receivePushTransferData

variable {session : TransferSession}

theorem Aside.not_pushesTo (h : Aside session) (b : BlockRef) :
    ¬ PushesTo session b := by
  rintro ⟨-, hstate | hstate⟩
  · exact h.1 hstate
  · exact h.2 hstate

theorem aside_of_state {state : TransferSessionState} (hstate : session.state = state)
    (h : state ≠ .startPushTransfer ∧ state ≠ .receivePushTransferData) : Aside session := by
  subst hstate
  exact h

theorem aside_reply (data : List UInt8) (c : TransferCtx) : Aside (c.reply data).session := by
  rcases reply_state data c with h | h
  · exact aside_of_state h ⟨nofun, nofun⟩
  · exact aside_of_state h ⟨nofun, nofun⟩

structure Idles (c c' : TransferCtx) : Prop where
  calm : Calm c c'
  aside : Aside c'.session

theorem Idles.after (h : Idles c₁ c₂) (h' : Calm c c₁) : Idles c c₂ :=
  ⟨h'.trans h.calm, h.aside⟩

theorem idles_reply (data : List UInt8) (c : TransferCtx) : Idles c (c.reply data) :=
  ⟨(keepsBlocks_reply data c).calm, aside_reply data c⟩

theorem idles_sendSentinel (status : Result) (crc : UInt32) (c : TransferCtx) :
    Idles c (c.sendSentinel status crc) :=
  (idles_reply _ _).after (calm_releaseBlock c)

theorem idles_processPullSession (h : Aside c.session) :
    Idles c c.processPullSession := by
  have hreceived := (keepsBlocks_receivePayload c).calm
  have haside : Aside c.receivePayload.2.session := by
    unfold Aside
    rw [receivePayload_state]
    exact h
  unfold processPullSession
  simp only
  split
  · have hchunks := hreceived.trans (keepsBlocks_sendChunks
      (c.receivePayload.2.session.totalBytes - c.receivePayload.2.session.bytesTransferred)
      c.receivePayload.2).calm
    split
    · exact (idles_sendSentinel _ _ _).after hchunks
    · refine ⟨hchunks, ?_⟩
      unfold Aside
      rw [sendChunks_state]
      exact haside
  · split
    · split
      · exact (idles_sendSentinel _ _ _).after hreceived
      · exact (idles_sendSentinel _ _ _).after hreceived
    · exact ⟨hreceived, haside⟩

theorem idles_sendPullTransferHeader (h : Aside c.session) :
    Idles c c.sendPullTransferHeader := by
  have hsent := keepsBlocks_sendPayload c
  unfold sendPullTransferHeader
  simp only
  split
  · have haside : Aside (c.sendPayload.2.setState .processPullTransfer).session :=
      ⟨nofun, nofun⟩
    exact (idles_processPullSession haside).after (hsent.trans (keepsBlocks_setState _ _)).calm
  · refine ⟨hsent.calm, ?_⟩
    rw [sendPayload_session]
    exact h

theorem idles_processPullRequest (blockId : BlockId) (c : TransferCtx) :
    Idles c (c.processPullRequest blockId) := by
  unfold processPullRequest
  split
  · exact idles_reply _ _
  · simp only
    split
    · rename_i pBlock _ _
      have haside : ∀ data, Aside (((c.takeBlock pBlock (c.manager.blocks pBlock).blockDataSize
          (c.manager.blocks pBlock).crc32).setState .startPullTransfer).createPayload
            data).session := fun _ => ⟨nofun, nofun⟩
      exact (idles_sendPullTransferHeader (haside _)).after
        (((calm_takeBlock _ _ _ _).trans (keepsBlocks_setState _ _).calm).trans
          (keepsBlocks_createPayload _ _).calm)
    · exact idles_reply _ _

theorem calm_startPushTransferSession (c : TransferCtx)
    (hstate : c.session.state = .startPushTransfer) : Calm c c.startPushTransferSession ∧
      c.startPushTransferSession.session.pBlock = c.session.pBlock ∧
      (c.startPushTransferSession.session.state = .startPushTransfer ∨
        c.startPushTransferSession.session.state = .receivePushTransferData) := by
  have hsent := keepsBlocks_sendPayload c
  unfold startPushTransferSession
  simp only
  split
  · have h := hsent.trans (keepsBlocks_setState .receivePushTransferData c.sendPayload.2)
    exact ⟨h.calm, h.pBlock, .inr rfl⟩
  · refine ⟨hsent.calm, hsent.pBlock, .inl ?_⟩
    rw [sendPayload_session]
    exact hstate

theorem processPushRequest_spec (blockId : BlockId) (sizeInBytes : ℕ) (c : TransferCtx) :
    Calm c (c.processPushRequest blockId sizeInBytes) ∧
      (Aside (c.processPushRequest blockId sizeInBytes).session ∨
        ∃ b, PushesTo (c.processPushRequest blockId sizeInBytes).session b ∧
          c.manager.getServerBlock blockId = some b ∧ (c.manager.blocks b).isClosed = false ∧
          0 < sizeInBytes) := by
  unfold processPushRequest
  split
  · exact ⟨(idles_reply _ c).calm, .inl (aside_reply _ c)⟩
  · rename_i pBlock hblock
    simp only
    split
    · rename_i havailable
      split
      · rename_i hsize
        obtain ⟨hcalm, hpBlock, hafter⟩ := calm_startPushTransferSession
          (((c.takeBlock pBlock sizeInBytes 0).setState .startPushTransfer).createPayload
            (transferStatus .success)) rfl
        have htake := (calm_takeBlock pBlock sizeInBytes 0 c).trans
          ((keepsBlocks_setState .startPushTransfer _).trans
            (keepsBlocks_createPayload (transferStatus .success) _)).calm
        exact ⟨htake.trans hcalm, .inr ⟨pBlock, ⟨hpBlock, hafter⟩, hblock, havailable.1, hsize⟩⟩
      · exact ⟨((idles_reply _ _).after (calm_takeBlock _ _ _ c)).calm, .inl (aside_reply _ _)⟩
    · exact ⟨(idles_reply _ c).calm, .inl (aside_reply _ c)⟩

/-! ## A push in progress -/

structure Touches (b : BlockRef) (c c' : TransferCtx) : Prop where
  others : ∀ b', b' ≠ b → SameContent (c.manager.blocks b') (c'.manager.blocks b')
  record : RecordOk c → RecordOk c'

theorem Calm.touches (h : Calm c c') (b : BlockRef) : Touches b c c' :=
  ⟨fun b' _ => h.content b', h.record⟩

theorem Touches.trans {b : BlockRef} (h : Touches b c c₁) (h' : Touches b c₁ c₂) : Touches b c c₂ :=
  ⟨fun b' hb => (h.others b' hb).trans (h'.others b' hb),
    fun hrecord => h'.record (h.record hrecord)⟩

structure Receiving (b : BlockRef) (c : TransferCtx) : Prop where
  state : c.session.state = .receivePushTransferData
  pBlock : c.session.pBlock = some b
  isOpen : (c.manager.blocks b).isClosed = false

variable {b : BlockRef} {c : TransferCtx}

theorem Receiving.touches_onHeldBlock (h : Receiving b c) (operation : BlockOperation) :
    Touches b c (c.onHeldBlock operation) := by
  rw [onHeldBlock_of_pBlock h.pBlock]
  have hblocks : (c.onBlock b operation).manager.blocks =
      Function.update c.manager.blocks b (operation.apply (c.manager.blocks b)) := rfl
  refine ⟨fun b' hb => ?_, fun hrecord => ⟨fun e hmem => ?_, fun e hmem hclose => ?_⟩⟩
  · rw [hblocks, Function.update_of_ne hb]
    exact .refl _
  · rcases List.mem_append.mp hmem with hmem | hmem
    · exact hrecord.respects e hmem
    · obtain rfl := List.mem_singleton.mp hmem
      rintro ⟨hclosed, -⟩
      exact Bool.false_ne_true (h.isOpen.symm.trans hclosed)
  · rw [hblocks]
    rcases List.mem_append.mp hmem with hmem | hmem
    · -- a block closed before is not the open one
      have hclosed := hrecord.staysClosed e hmem hclose
      have hne : e.pBlock ≠ b := by
        intro heq
        rw [heq, h.isOpen] at hclosed
        exact Bool.false_ne_true hclosed
      rw [Function.update_of_ne hne]
      exact hclosed
    · obtain rfl := List.mem_singleton.mp hmem
      obtain rfl : operation = .close := hclose
      rw [Function.update_self]
      rfl

theorem write_isClosed (src : List UInt8) (block : ServerBlock) :
    (block.write src).isClosed = block.isClosed := by
  unfold ServerBlock.write
  split <;> rfl

def Continues (b : BlockRef) (c c' : TransferCtx) : Prop :=
  Touches b c c' ∧ (Aside c'.session ∨ Receiving b c')

theorem continues_cancelTransfer (h : Receiving b c) (reason : Result) :
    Continues b c (c.cancelTransfer reason) := by
  have hreset := h.touches_onHeldBlock .reset
  have hreply := (idles_reply (transferStatus reason) _).after
    (calm_releaseBlock (c.onHeldBlock .reset))
  exact ⟨hreset.trans (hreply.calm.touches b), .inl hreply.aside⟩

theorem continues_receiveChunk (h : Receiving b c) : Continues b c c.receiveChunk := by
  unfold receiveChunk
  simp only
  split
  · refine ⟨(h.touches_onHeldBlock _).trans ((keepsBlocks_advance _ _).calm.touches b), .inr ?_⟩
    rw [onHeldBlock_of_pBlock h.pBlock]
    refine ⟨h.state, h.pBlock, ?_⟩
    show (Function.update c.manager.blocks b _ b).isClosed = false
    rw [Function.update_self]
    exact (write_isClosed _ _).trans h.isOpen
  · exact continues_cancelTransfer h _

theorem continues_receiveSentinel (h : Receiving b c) : Continues b c c.receiveSentinel := by
  unfold receiveSentinel
  simp only
  split
  · have hclose := h.touches_onHeldBlock .close
    have hreply := (idles_reply (transferStatus .success) _).after
      (calm_releaseBlock (c.onHeldBlock .close))
    exact ⟨hclose.trans (hreply.calm.touches b), .inl hreply.aside⟩
  · exact continues_cancelTransfer h _

theorem continues_receivePushMessage (h : Receiving b c) :
    Continues b c c.receivePushMessage := by
  unfold receivePushMessage
  split
  · exact continues_receiveChunk h
  · exact continues_receiveSentinel h
  · exact continues_cancelTransfer h _

theorem Receiving.receivePayload (h : Receiving b c) : Receiving b c.receivePayload.2 := by
  have hkeeps := keepsBlocks_receivePayload c
  refine ⟨(receivePayload_state c).trans h.state, hkeeps.pBlock.trans h.pBlock, ?_⟩
  rw [hkeeps.manager]
  exact h.isOpen

theorem continues_receivePushLoop (rounds : ℕ) (h : Receiving b c) :
    Continues b c (c.receivePushLoop rounds) := by
  induction rounds generalizing c with
  | zero => exact ⟨(Calm.refl c).touches b, .inr h⟩
  | succ rounds ih =>
    have hreceived := (keepsBlocks_receivePayload c).calm.touches b
    have hmessage := continues_receivePushMessage h.receivePayload
    unfold receivePushLoop
    simp only
    split
    · split
      · rename_i hstate
        have hreceiving := hmessage.2.resolve_left fun haside => haside.2 hstate
        have hrest := ih hreceiving
        exact ⟨(hreceived.trans hmessage.1).trans hrest.1, hrest.2⟩
      · exact ⟨hreceived.trans hmessage.1, hmessage.2⟩
    · exact ⟨hreceived, .inr h.receivePayload⟩

/-! ## One step -/

/-- An idle session receives a push request, of more than no bytes, for the open block `b`. -/
def AcceptsPush (b : BlockRef) (c : TransferCtx) : Prop :=
  let received := c.receivePayload
  c.session.state = .idle ∧ received.1 = .success ∧
    received.2.session.scratchPayload.command = .transferRequest ∧
    received.2.session.scratchPayload.requestType = .push ∧
    0 < received.2.session.scratchPayload.requestSizeInBytes ∧
    c.manager.getServerBlock received.2.session.scratchPayload.requestBlockId = some b ∧
    (c.manager.blocks b).isClosed = false

def PushesOpen (session : TransferSession) (m : TransferManager) : Prop :=
  Aside session ∨ ∃ b, PushesTo session b ∧ (m.blocks b).isClosed = false

/-- What a session's step does: blocks that it does not push to keep their content, the record
stays sound, and a push in progress after it holds an open block and was either
accepted just now or goes on. -/
structure StepSpec (c c' : TransferCtx) : Prop where
  content : ∀ b, ¬ PushesTo c.session b → SameContent (c.manager.blocks b) (c'.manager.blocks b)
  record : RecordOk c → RecordOk c'
  pushesOpen : PushesOpen c'.session c'.manager
  origin : ∀ b, PushesTo c'.session b → AcceptsPush b c ∨ PushesTo c.session b

theorem Idles.stepSpec (h : Idles c c') : StepSpec c c' :=
  ⟨fun b _ => h.calm.content b, h.calm.record, .inl h.aside,
    fun b hpush => absurd hpush (h.aside.not_pushesTo b)⟩

theorem stepSpec_processPayload (hidle : c.session.state = .idle)
    (hsuccess : c.receivePayload.1 = .success) :
    StepSpec c c.receivePayload.2.processPayload := by
  have hkeeps := keepsBlocks_receivePayload c
  have haside : Aside c.receivePayload.2.session :=
    aside_of_state ((receivePayload_state c).trans hidle) ⟨nofun, nofun⟩
  unfold processPayload
  split
  · rename_i hcommand
    split
    · exact ((idles_processPullRequest _ _).after hkeeps.calm).stepSpec
    · rename_i htype
      obtain ⟨hcalm, hpush⟩ := processPushRequest_spec
        c.receivePayload.2.session.scratchPayload.requestBlockId
        c.receivePayload.2.session.scratchPayload.requestSizeInBytes c.receivePayload.2
      have h := hkeeps.calm.trans hcalm
      refine ⟨fun b _ => h.content b, h.record, ?_, fun b hpushes => .inl ?_⟩
      · refine hpush.imp_right fun ⟨b, hpushes, _, hopen, _⟩ => ⟨b, hpushes, ?_⟩
        exact (hcalm.content b).isClosed.trans hopen
      · obtain ⟨b', hpushes', hblock, hopen, hsize⟩ :=
          hpush.resolve_left fun haside => haside.not_pushesTo b hpushes
        obtain rfl : b' = b := Option.some.inj (hpushes'.1.symm.trans hpushes.1)
        rw [hkeeps.manager] at hblock hopen
        exact ⟨hidle, hsuccess, hcommand, htype, hsize, hblock, hopen⟩
    · exact ((idles_reply _ _).after hkeeps.calm).stepSpec
  · exact ((idles_sendSentinel _ _ _).after hkeeps.calm).stepSpec
  · exact (Idles.mk hkeeps.calm haside).stepSpec

theorem stepSpec_startPush (hstate : c.session.state = .startPushTransfer)
    (hopen : PushesOpen c.session c.manager) : StepSpec c c.startPushTransferSession := by
  obtain ⟨hcalm, hpBlock, hafter⟩ := calm_startPushTransferSession c hstate
  obtain ⟨b, hpush, hopen⟩ := hopen.resolve_left fun haside => haside.1 hstate
  refine ⟨fun b _ => hcalm.content b, hcalm.record, .inr ⟨b, ?_, ?_⟩, fun b' hpush' => .inr ?_⟩
  · exact ⟨hpBlock.trans hpush.1, hafter⟩
  · exact (hcalm.content b).isClosed.trans hopen
  · exact ⟨hpBlock.symm.trans hpush'.1, hpush.2⟩

theorem stepSpec_receivePush (hstate : c.session.state = .receivePushTransferData)
    (hopen : PushesOpen c.session c.manager) : StepSpec c c.receivePushTransferData := by
  obtain ⟨b, hpush, hopen⟩ := hopen.resolve_left fun haside => haside.2 hstate
  obtain ⟨htouches, hafter⟩ := continues_receivePushLoop (c.receives.length + 1)
    (Receiving.mk hstate hpush.1 hopen)
  refine ⟨fun b' hb' => htouches.others b' ?_, htouches.record, ?_, fun b' hpush' => .inr ?_⟩
  · intro heq
    exact hb' (heq ▸ hpush)
  · exact hafter.imp_right fun h => ⟨b, ⟨h.pBlock, .inr h.state⟩, h.isOpen⟩
  · have h := hafter.resolve_left fun haside => haside.not_pushesTo b' hpush'
    obtain rfl : b = b' := Option.some.inj (h.pBlock.symm.trans hpush'.1)
    exact hpush

theorem stepSpec_updateSession (hopen : PushesOpen c.session c.manager) :
    StepSpec c c.updateSession := by
  unfold TransferCtx.updateSession
  split
  · rename_i hidle
    simp only
    split
    · rename_i hsuccess
      exact stepSpec_processPayload hidle hsuccess
    · have haside : Aside c.receivePayload.2.session :=
        aside_of_state ((receivePayload_state c).trans hidle) ⟨nofun, nofun⟩
      exact (Idles.mk (keepsBlocks_receivePayload c).calm haside).stepSpec
  · rename_i hstate
    exact (idles_processPullSession (aside_of_state hstate ⟨nofun, nofun⟩)).stepSpec
  · rename_i hstate
    exact (idles_sendPullTransferHeader (aside_of_state hstate ⟨nofun, nofun⟩)).stepSpec
  · rename_i hstate
    exact stepSpec_startPush hstate hopen
  · rename_i hstate
    exact stepSpec_receivePush hstate hopen
  · rename_i hstate
    refine (Idles.mk (keepsBlocks_sendScratch c).calm ?_).stepSpec
    rcases sendScratch_state hstate with h | h
    · exact aside_of_state h ⟨nofun, nofun⟩
    · exact aside_of_state h ⟨nofun, nofun⟩

/-! ## Runs -/

structure Exclusive (s : TransferState) : Prop where
  pushesOpen : ∀ session ∈ s.sessions, PushesOpen session s.manager
  alone : ∀ (i j : ℕ) (session other : TransferSession) (b : BlockRef),
    s.sessions[i]? = some session → s.sessions[j]? = some other → PushesTo session b →
      PushesTo other b → i = j

/-- A push request is accepted for a block that a push in progress holds, or the owner closes
such a block. -/
def Overlaps (s : TransferState) : TransferAction → Prop
  | .updateSession index receives sends => ∃ session ∈ s.sessions[index]?,
      ∃ other ∈ s.sessions, ∃ b ∈ other.pBlock,
        PushesTo other b ∧ AcceptsPush b (s.context session receives sends)
  | .ownerOperation pBlock .close => ∃ session ∈ s.sessions, PushesTo session pBlock
  | _ => False

/-- The steps that belong to a session. -/
def BySession : TransferAction → Prop
  | .updateSession _ _ _ | .sessionTerminated _ => True
  | _ => False

variable {s : TransferState}

theorem Exclusive.withManager (h : Exclusive s) (m : TransferManager)
    (hopen : ∀ session ∈ s.sessions, ∀ b, PushesTo session b →
      (s.manager.blocks b).isClosed = false → (m.blocks b).isClosed = false) :
    Exclusive { s with manager := m } := by
  refine ⟨fun session hmem => ?_, h.alone⟩
  refine (h.pushesOpen session hmem).imp_right fun ⟨b, hpush, hisOpen⟩ => ⟨b, hpush, ?_⟩
  exact hopen session hmem b hpush hisOpen

theorem Exclusive.openServerBlock (h : Exclusive s) (newBlockId : BlockId) :
    Exclusive { s with manager := s.manager.openServerBlock newBlockId } := by
  refine h.withManager _ fun session _ b _ hisOpen => ?_
  show (Function.update s.manager.blocks s.manager.nextBlock .new b).isClosed = false
  by_cases hb : b = s.manager.nextBlock
  · subst hb
    rw [Function.update_self]
    rfl
  · rw [Function.update_of_ne hb]
    exact hisOpen

theorem Exclusive.ownerOperation (h : Exclusive s) {pBlock : BlockRef} {operation : OwnerOperation}
    (ha : ¬ Overlaps s (.ownerOperation pBlock operation)) :
    Exclusive { s with manager := s.manager.onBlock pBlock operation.toBlockOperation } := by
  refine h.withManager _ fun session hmem b hpush hisOpen => ?_
  show (Function.update s.manager.blocks pBlock _ b).isClosed = false
  by_cases hb : b = pBlock
  · subst hb
    rw [Function.update_self]
    cases operation with
    | write src => exact (write_isClosed src _).trans hisOpen
    | close => exact absurd ⟨session, hmem, hpush⟩ ha
    | reset => rfl
  · rw [Function.update_of_ne hb]
    exact hisOpen

theorem Exclusive.sessionEstablished (h : Exclusive s) (version : Version) :
    Exclusive { s with sessions := s.sessions ++ [.new version] } := by
  have hnew : Aside (.new version) := ⟨nofun, nofun⟩
  have hold : ∀ {i : ℕ} {session : TransferSession} {b : BlockRef},
      (s.sessions ++ [.new version])[i]? = some session → PushesTo session b →
        s.sessions[i]? = some session := by
    intro i session b hsession hpush
    rcases lt_or_ge i s.sessions.length with hlt | hge
    · rwa [List.getElem?_append_left hlt] at hsession
    · rw [List.getElem?_append_right hge] at hsession
      obtain rfl := List.mem_singleton.mp (List.mem_of_getElem? hsession)
      exact absurd hpush (hnew.not_pushesTo b)
  refine ⟨fun session hmem => ?_, fun i j session other b hi hj hpush hpush' => ?_⟩
  · rcases List.mem_append.mp hmem with hmem | hmem
    · exact h.pushesOpen session hmem
    · obtain rfl := List.mem_singleton.mp hmem
      exact .inl hnew
  · exact h.alone i j session other b (hold hi hpush) (hold hj hpush') hpush hpush'

theorem Exclusive.erase (h : Exclusive s) {index : ℕ} :
    Exclusive ⟨(s.context session [] []).destroy.manager, s.sessions.eraseIdx index⟩ := by
  have hcalm := calm_releaseBlock (s.context session [] [])
  have hkept : Exclusive { s with manager := (s.context session [] []).destroy.manager } :=
    h.withManager _ fun _ _ b _ hisOpen => (hcalm.content b).isClosed.trans hisOpen
  refine ⟨fun other hmem => hkept.pushesOpen other (List.mem_of_mem_eraseIdx hmem), ?_⟩
  intro i j one other b hi hj hone hother
  rw [List.getElem?_eraseIdx] at hi hj
  split at hi
  · split at hj
    · exact h.alone i j one other b hi hj hone hother
    · have := h.alone i (j + 1) one other b hi hj hone hother
      omega
  · split at hj
    · have := h.alone (i + 1) j one other b hi hj hone hother
      omega
    · have := h.alone (i + 1) (j + 1) one other b hi hj hone hother
      omega

theorem Exclusive.set (h : Exclusive s) {index : ℕ} (hsession : s.sessions[index]? = some session)
    {receives : List ReceiveAnswer} {sends : List Result}
    (ha : ¬ Overlaps s (.updateSession index receives sends))
    (hspec : StepSpec (s.context session receives sends) c) :
    Exclusive ⟨c.manager, s.sessions.set index c.session⟩ := by
  have hmem := List.mem_of_getElem? hsession
  have hlt := (List.getElem?_eq_some_iff.mp hsession).1
  -- another session that pushes to a block keeps it to itself
  have hother : ∀ {j : ℕ} {other : TransferSession} {b : BlockRef}, j ≠ index →
      s.sessions[j]? = some other → PushesTo other b →
        ¬ PushesTo session b ∧ ¬ PushesTo c.session b := by
    intro j other b hne hj hpush
    have hnot : ¬ PushesTo session b := fun hpush' =>
      hne (h.alone j index other session b hj hsession hpush hpush')
    refine ⟨hnot, fun hafter => ?_⟩
    rcases hspec.origin b hafter with haccepts | hbefore
    · exact ha ⟨session, hsession, other, List.mem_of_getElem? hj, b, hpush.1, hpush, haccepts⟩
    · exact hnot hbefore
  refine ⟨fun other hmem' => ?_, fun i j one other b hi hj hone hother' => ?_⟩
  · obtain ⟨j, hj⟩ := List.mem_iff_getElem?.mp hmem'
    rw [List.getElem?_set] at hj
    split at hj
    · obtain rfl : c.session = other := by simpa [hlt] using hj
      exact hspec.pushesOpen
    · rename_i hne
      have hbefore := h.pushesOpen other (List.mem_of_getElem? hj)
      refine hbefore.imp_right fun ⟨b, hpush, hisOpen⟩ => ⟨b, hpush, ?_⟩
      have hcontent := hspec.content b (hother (Ne.symm hne) hj hpush).1
      exact hcontent.isClosed.trans hisOpen
  · rw [List.getElem?_set] at hi hj
    split at hi
    · rename_i hi'
      split at hj
      · rename_i hj'
        exact hi'.symm.trans hj'
      · rename_i hne
        obtain rfl : c.session = one := by simpa [hlt] using hi
        exact absurd hone (hother (Ne.symm hne) hj hother').2
    · rename_i hne
      split at hj
      · obtain rfl : c.session = other := by simpa [hlt] using hj
        exact absurd hother' (hother (Ne.symm hne) hi hone).2
      · exact h.alone i j one other b hi hj hone hother'

theorem exclusive_step {t : TransferState} {a : TransferAction} {events : List BlockEvent}
    (h : Exclusive s) (ha : ¬ Overlaps s a)
    (hstep : transferMachine.step s a = some (t, events)) : Exclusive t := by
  cases a with
  | openServerBlock newBlockId =>
    cases hstep
    exact h.openServerBlock newBlockId
  | closeServerBlock serverBlockId =>
    cases hstep
    exact h.withManager _ fun _ _ _ _ hisOpen => hisOpen
  | ownerOperation pBlock operation =>
    obtain ⟨-, ⟨⟩⟩ := Option.ite_none_right_eq_some.mp hstep
    exact h.ownerOperation ha
  | sessionEstablished version =>
    cases hstep
    exact h.sessionEstablished version
  | updateSession index receives sends =>
    obtain ⟨session, hsession, heq⟩ := Option.map_eq_some_iff.mp hstep
    cases heq
    have hopen := h.pushesOpen session (List.mem_of_getElem? hsession)
    exact h.set hsession ha (stepSpec_updateSession hopen)
  | sessionTerminated index =>
    obtain ⟨session, hsession, heq⟩ := Option.map_eq_some_iff.mp hstep
    cases heq
    exact h.erase

theorem Exclusive.closed_intact {t : TransferState} {a : TransferAction} {events : List BlockEvent}
    (h : Exclusive s) (hby : BySession a) (hstep : transferMachine.step s a = some (t, events)) :
    (∀ b, (s.manager.blocks b).isClosed = true →
      SameContent (s.manager.blocks b) (t.manager.blocks b)) ∧
      RespectsClosed events ∧ ∀ e ∈ events, e.operation = .close →
        (t.manager.blocks e.pBlock).isClosed = true := by
  cases a with
  | openServerBlock newBlockId => cases hby
  | closeServerBlock serverBlockId => cases hby
  | ownerOperation pBlock operation => cases hby
  | sessionEstablished version => cases hby
  | updateSession index receives sends =>
    obtain ⟨session, hsession, heq⟩ := Option.map_eq_some_iff.mp hstep
    cases heq
    have hopen := h.pushesOpen session (List.mem_of_getElem? hsession)
    have hspec := stepSpec_updateSession (c := s.context session receives sends) hopen
    have hrecord := hspec.record ⟨nofun, nofun⟩
    refine ⟨fun b hclosed => hspec.content b fun hpush => ?_, hrecord.respects,
      hrecord.staysClosed⟩
    -- the block a push in progress holds is open
    obtain ⟨b', hpush', hisOpen⟩ := hopen.resolve_left fun haside => haside.not_pushesTo b hpush
    obtain rfl : b' = b := Option.some.inj (hpush'.1.symm.trans hpush.1)
    exact Bool.false_ne_true (hisOpen.symm.trans hclosed)
  | sessionTerminated index =>
    obtain ⟨session, hsession, heq⟩ := Option.map_eq_some_iff.mp hstep
    cases heq
    have hcalm := calm_releaseBlock (s.context session [] [])
    have hrecord := hcalm.record ⟨nofun, nofun⟩
    exact ⟨fun b _ => hcalm.content b, hrecord.respects, hrecord.staysClosed⟩

/-- In a run in which no push request is accepted for a block that a push in progress holds and
no owner closes such a block, no session's step changes the bytes, the size, the checksum or the
closed flag of a closed block, writes to one or closes one again; and a block that a push has
closed is closed when the step is over. -/
theorem pushed_blocks_intact {s t : TransferState}
    {tr : List (TransferState × TransferAction × List BlockEvent)}
    (hs : transferMachine.init s) (h : transferMachine.Trace s tr t)
    (hoverlap : ∀ x ∈ tr, ¬ Overlaps x.1 x.2.1) :
    ∀ x ∈ tr, BySession x.2.1 → ∃ u, transferMachine.step x.1 x.2.1 = some (u, x.2.2) ∧
      (∀ b, (x.1.manager.blocks b).isClosed = true →
        SameContent (x.1.manager.blocks b) (u.manager.blocks b)) ∧
      RespectsClosed x.2.2 ∧ ∀ e ∈ x.2.2, e.operation = .close →
        (u.manager.blocks e.pBlock).isClosed = true := by
  intro x hx hby
  have hinit : Exclusive s := by
    obtain rfl : s = ⟨.new, []⟩ := hs
    exact ⟨nofun, nofun⟩
  obtain ⟨hexclusive, -, u, hone⟩ := h.invariant_of_mem (P := Exclusive)
    (C := fun u a => ¬ Overlaps u a) hinit hoverlap
    (fun _ _ _ _ hu ha hstep => exclusive_step hu ha hstep) hx
  exact ⟨u, hone, hexclusive.closed_intact hby hone⟩

instance (session : TransferSession) (b : BlockRef) : Decidable (PushesTo session b) :=
  inferInstanceAs (Decidable (_ ∧ (_ ∨ _)))

instance (b : BlockRef) (c : TransferCtx) : Decidable (AcceptsPush b c) :=
  inferInstanceAs (Decidable (_ ∧ _ ∧ _ ∧ _ ∧ _ ∧ _ ∧ _))

instance (s : TransferState) : (a : TransferAction) → Decidable (Overlaps s a)
  | .updateSession _ _ _ => inferInstanceAs (Decidable (∃ session, session ∈ _ ∧ _))
  | .ownerOperation _ .close => inferInstanceAs (Decidable (∃ session ∈ s.sessions, _))
  | .ownerOperation _ (.write _) | .ownerOperation _ .reset | .openServerBlock _
  | .closeServerBlock _ | .sessionEstablished _ | .sessionTerminated _ => .isFalse id

def pushedTwice : List TransferAction :=
  oneSession ++
    [.sessionEstablished 2,
      .updateSession 0 [arrived (transferRequest 7 .push 1)] [.success],
      .updateSession 0 [arrived (transferDataChunk [1]),
        arrived (transferDataSentinel .success (CRC32 [1] 0))] [.success],
      .updateSession 1 [arrived (transferRequest 7 .push 1)] [.success]]

def pushedTogether : List TransferAction :=
  oneSession ++
    [.sessionEstablished 2,
      .updateSession 0 [arrived (transferRequest 7 .push 1)] [.success],
      .updateSession 1 [arrived (transferRequest 7 .push 1)] [.success],
      .updateSession 0 [arrived (transferDataChunk [1]),
        arrived (transferDataSentinel .success (CRC32 [1] 0))] [.success]]

def writesAgain : TransferAction := .updateSession 1 [arrived (transferDataChunk [2])] []

theorem pushed_blocks_intact_refused : ∃ t,
    transferMachine.run ⟨.new, []⟩ pushedTwice = some t ∧
      (t.manager.blocks 0).isClosed = true ∧ (t.manager.blocks 0).data = [1] ∧
      ∀ x ∈ transferMachine.transitions ⟨.new, []⟩ pushedTwice, BySession x.2.1 →
        RespectsClosed x.2.2 := by
  obtain ⟨t, ht, hclosed, hdata⟩ := transferMachine.exists_of_run ⟨.new, []⟩ pushedTwice
    (fun t => (t.manager.blocks 0).isClosed = true ∧ (t.manager.blocks 0).data = [1])
    (by decide +kernel)
  have htest : ∀ x ∈ transferMachine.transitions ⟨.new, []⟩ pushedTwice, ¬ Overlaps x.1 x.2.1 := by
    decide +kernel
  refine ⟨t, ht, hclosed, hdata, fun x hx hby => ?_⟩
  obtain ⟨u, -, -, hrespects, -⟩ := pushed_blocks_intact rfl (.of_run ht)
    htest x hx hby
  exact hrespects

/-- Of two pushes to one block at the same time, the second writes to the block that the first
one has closed. -/
theorem pushed_block_overwritten : ¬ ∀ (s t : TransferState)
    (tr : List (TransferState × TransferAction × List BlockEvent)), transferMachine.init s →
    transferMachine.Trace s tr t → ∀ x ∈ tr, BySession x.2.1 →
      ∃ u, transferMachine.step x.1 x.2.1 = some (u, x.2.2) ∧
        (∀ b, (x.1.manager.blocks b).isClosed = true →
          SameContent (x.1.manager.blocks b) (u.manager.blocks b)) ∧
        RespectsClosed x.2.2 ∧ ∀ e ∈ x.2.2, e.operation = .close →
          (u.manager.blocks e.pBlock).isClosed = true := by
  intro hall
  obtain ⟨t, ht, hclosed, hone, hwritten⟩ := transferMachine.exists_of_run ⟨.new, []⟩ pushedTogether
    (fun t => (t.manager.blocks 0).isClosed = true ∧
      (t.manager.blocks 0).blockDataSize = 1 ∧
      (transferMachine.step t writesAgain).any fun u => (u.1.manager.blocks 0).blockDataSize = 2)
    (by decide +kernel)
  obtain ⟨⟨u, events⟩, hstep, htwo⟩ := (Option.any_eq_true _ _).mp hwritten
  have htrace := (Machine.Trace.of_run ht).snoc hstep
  obtain ⟨v, hv, hcontent, -⟩ := hall _ u _ rfl htrace (t, writesAgain, events)
    (List.mem_append_right _ (List.mem_singleton_self _)) trivial
  obtain rfl : v = u := congrArg Prod.fst (Option.some.inj (hv.symm.trans hstep))
  have hsize : (v.manager.blocks 0).blockDataSize = (t.manager.blocks 0).blockDataSize :=
    (hcontent 0 hclosed).blockDataSize
  have hafter : (v.manager.blocks 0).blockDataSize = 2 := of_decide_eq_true htwo
  omega

end DevDriver.Analysis
