import DevDriver.Analysis.TransferSteps

/-!
# The number of pending transfers of a block

A session that takes a block counts itself in with `BeginTransfer` and out with `EndTransfer`.
-/

namespace DevDriver.Analysis

open Library Model TransferCtx

/-! ## One session's account -/

def TransferSession.holds (session : TransferSession) (b : BlockRef) : ℕ :=
  if session.pBlock = some b then 1 else 0

/-- Only pending transfers are ended. -/
def EndsPending (events : List BlockEvent) : Prop :=
  ∀ e ∈ events, e.operation = .endTransfer → 0 < e.before.numPendingTransfers

def Registers (m : TransferManager) : Prop :=
  ∀ blockId pBlock, m.registeredServerBlocks blockId = some pBlock → pBlock < m.nextBlock

/-- The pending transfers of each block are those of the sessions that hold it. -/
structure Owed (others : BlockRef → ℕ) (nextBlock : BlockRef) (c : TransferCtx) : Prop where
  pending : ∀ b, (c.manager.blocks b).numPendingTransfers =
    others b + TransferSession.holds c.session b
  ends : EndsPending c.events
  registers : Registers c.manager
  sameNext : c.manager.nextBlock = nextBlock
  exists_held : ∀ b, c.session.pBlock = some b → b < nextBlock

def Settled (session : TransferSession) : Prop :=
  match session.state with
  | .idle | .sendPayload => session.pBlock = none
  | _ => session.pBlock.isSome = true

variable {others : BlockRef → ℕ} {nextBlock : BlockRef} {c c' : TransferCtx}

theorem Owed.keeps (h : Owed others nextBlock c) (hkeeps : KeepsBlocks c c') :
    Owed others nextBlock c' := by
  refine ⟨fun b => ?_, ?_, ?_, ?_, ?_⟩
  · rw [hkeeps.manager, TransferSession.holds, hkeeps.pBlock]
    exact h.pending b
  · rw [hkeeps.events]
    exact h.ends
  · rw [hkeeps.manager]
    exact h.registers
  · rw [hkeeps.manager]
    exact h.sameNext
  · rw [hkeeps.pBlock]
    exact h.exists_held

theorem Owed.onHeldBlock (h : Owed others nextBlock c) (operation : BlockOperation)
    (hcount : ∀ b, (operation.apply b).numPendingTransfers = b.numPendingTransfers)
    (hends : operation ≠ .endTransfer) : Owed others nextBlock (c.onHeldBlock operation) := by
  unfold TransferCtx.onHeldBlock
  split
  · exact h
  · rename_i pBlock _
    refine ⟨fun b => ?_, ?_, h.registers, h.sameNext, h.exists_held⟩
    · refine Eq.trans ?_ (h.pending b)
      show (Function.update c.manager.blocks pBlock _ b).numPendingTransfers = _
      by_cases hb : b = pBlock
      · subst hb
        rw [Function.update_self, hcount]
      · rw [Function.update_of_ne hb]
    · intro e he
      rcases List.mem_append.mp he with he | he
      · exact h.ends e he
      · obtain rfl := List.mem_singleton.mp he
        intro hop
        exact absurd hop hends

theorem write_numPendingTransfers (src : List UInt8) (b : ServerBlock) :
    (b.write src).numPendingTransfers = b.numPendingTransfers := by
  unfold ServerBlock.write
  split <;> rfl

theorem Owed.releaseBlock (h : Owed others nextBlock c) : Owed others nextBlock c.releaseBlock := by
  unfold TransferCtx.releaseBlock TransferCtx.onHeldBlock
  split
  · rename_i hnone
    refine ⟨fun b => ?_, h.ends, h.registers, h.sameNext, nofun⟩
    have hb := h.pending b
    rw [TransferSession.holds, hnone] at hb
    exact hb
  · rename_i pBlock hheld
    refine ⟨fun b => ?_, ?_, h.registers, h.sameNext, nofun⟩
    · have hb := h.pending b
      rw [TransferSession.holds, hheld] at hb
      show (Function.update c.manager.blocks pBlock _ b).numPendingTransfers = others b + 0
      by_cases heq : b = pBlock
      · subst heq
        rw [if_pos rfl] at hb
        rw [Function.update_self]
        show (c.manager.blocks b).numPendingTransfers - 1 = _
        omega
      · rw [if_neg fun hsome => heq (Option.some.inj hsome).symm] at hb
        rw [Function.update_of_ne heq]
        exact hb
    · intro e he
      rcases List.mem_append.mp he with he | he
      · exact h.ends e he
      · obtain rfl := List.mem_singleton.mp he
        intro _
        have hb := h.pending pBlock
        rw [TransferSession.holds, if_pos hheld] at hb
        show 0 < (c.manager.blocks pBlock).numPendingTransfers
        omega

theorem Owed.takeBlock (h : Owed others nextBlock c) (hnone : c.session.pBlock = none)
    {blockId : BlockId}
    {pBlock : BlockRef} (hblock : c.manager.getServerBlock blockId = some pBlock)
    (totalBytes : ℕ) (crc : UInt32) :
    Owed others nextBlock (c.takeBlock pBlock totalBytes crc) := by
  refine ⟨fun b => ?_, ?_, h.registers, h.sameNext, ?_⟩
  · have hb := h.pending b
    rw [TransferSession.holds, hnone, if_neg nofun, Nat.add_zero] at hb
    show (Function.update c.manager.blocks pBlock _ b).numPendingTransfers =
      others b + if some pBlock = some b then 1 else 0
    by_cases heq : b = pBlock
    · subst heq
      rw [Function.update_self, if_pos rfl, ← hb]
      rfl
    · rw [Function.update_of_ne heq, if_neg fun hsome => heq (Option.some.inj hsome).symm, hb]
      rfl
  · intro e he
    rcases List.mem_append.mp he with he | he
    · exact h.ends e he
    · obtain rfl := List.mem_singleton.mp he
      exact nofun
  · intro b hb
    obtain rfl : pBlock = b := Option.some.inj hb
    exact h.sameNext ▸ h.registers _ _ hblock

/-! ## The account through a step -/

structure Good (others : BlockRef → ℕ) (nextBlock : BlockRef) (c : TransferCtx) : Prop where
  owed : Owed others nextBlock c
  settled : Settled c.session

variable {session : TransferSession}

theorem settled_of_done (hnone : session.pBlock = none)
    (hstate : session.state = .idle ∨ session.state = .sendPayload) : Settled session := by
  unfold Settled
  rcases hstate with h | h <;> rw [h] <;> exact hnone

theorem releaseBlock_pBlock (c : TransferCtx) : c.releaseBlock.session.pBlock = none := rfl

theorem good_reply (h : Owed others nextBlock c) (hnone : c.session.pBlock = none)
    (data : List UInt8) :
    Good others nextBlock (c.reply data) := by
  have hkeeps := keepsBlocks_reply data c
  exact ⟨h.keeps hkeeps, settled_of_done (hkeeps.pBlock.trans hnone) (reply_state data c)⟩

theorem good_sendSentinel (h : Owed others nextBlock c) (status : Result) (crc : UInt32) :
    Good others nextBlock (c.sendSentinel status crc) :=
  good_reply h.releaseBlock (releaseBlock_pBlock c) _

theorem good_cancelTransfer (h : Owed others nextBlock c) (reason : Result) :
    Good others nextBlock (c.cancelTransfer reason) := by
  have hreset : Owed others nextBlock (c.onHeldBlock .reset) := h.onHeldBlock _ (fun _ => rfl) nofun
  exact good_reply hreset.releaseBlock (releaseBlock_pBlock _) _

theorem settled_of_held (hheld : session.pBlock.isSome = true)
    (hstate : session.state ≠ .idle ∧ session.state ≠ .sendPayload) : Settled session := by
  unfold Settled
  split
  · rename_i h
    exact absurd h hstate.1
  · rename_i h
    exact absurd h hstate.2
  · exact hheld

theorem good_processPullSession (h : Owed others nextBlock c)
    (hheld : c.session.pBlock.isSome = true)
    (hstate : c.session.state = .processPullTransfer) :
    Good others nextBlock c.processPullSession := by
  have hreceived := keepsBlocks_receivePayload c
  have hstate₁ := (receivePayload_state c).trans hstate
  unfold processPullSession
  simp only
  split
  · have hchunks := keepsBlocks_sendChunks (c.receivePayload.2.session.totalBytes -
      c.receivePayload.2.session.bytesTransferred) c.receivePayload.2
    split
    · exact good_sendSentinel (h.keeps (hreceived.trans hchunks)) _ _
    · refine ⟨h.keeps (hreceived.trans hchunks), settled_of_held ?_ ?_⟩
      · rw [hchunks.pBlock, hreceived.pBlock]
        exact hheld
      · rw [sendChunks_state, hstate₁]
        exact ⟨nofun, nofun⟩
  · split
    · split
      · exact good_sendSentinel (h.keeps hreceived) _ _
      · exact good_sendSentinel (h.keeps hreceived) _ _
    · refine ⟨h.keeps hreceived, settled_of_held (hreceived.pBlock ▸ hheld) ?_⟩
      rw [hstate₁]
      exact ⟨nofun, nofun⟩

theorem good_sendPullTransferHeader (h : Owed others nextBlock c)
    (hheld : c.session.pBlock.isSome = true)
    (hstate : c.session.state = .startPullTransfer) :
    Good others nextBlock c.sendPullTransferHeader := by
  have hsent := keepsBlocks_sendPayload c
  unfold sendPullTransferHeader
  simp only
  split
  · exact good_processPullSession (h.keeps (hsent.trans (keepsBlocks_setState _ _)))
      (hsent.pBlock ▸ hheld) rfl
  · refine ⟨h.keeps hsent, settled_of_held (hsent.pBlock ▸ hheld) ?_⟩
    rw [sendPayload_session, hstate]
    exact ⟨nofun, nofun⟩

theorem good_startPushTransferSession (h : Owed others nextBlock c)
    (hheld : c.session.pBlock.isSome = true) (hstate : c.session.state = .startPushTransfer) :
    Good others nextBlock c.startPushTransferSession := by
  have hsent := keepsBlocks_sendPayload c
  unfold startPushTransferSession
  simp only
  split
  · exact ⟨h.keeps (hsent.trans (keepsBlocks_setState _ _)),
      settled_of_held (hsent.pBlock ▸ hheld) ⟨nofun, nofun⟩⟩
  · refine ⟨h.keeps hsent, settled_of_held (hsent.pBlock ▸ hheld) ?_⟩
    rw [sendPayload_session, hstate]
    exact ⟨nofun, nofun⟩

theorem good_receivePushMessage (h : Owed others nextBlock c)
    (hheld : c.session.pBlock.isSome = true)
    (hstate : c.session.state = .receivePushTransferData) :
    Good others nextBlock c.receivePushMessage := by
  unfold receivePushMessage
  split
  · unfold receiveChunk
    split
    · have hwritten := fun src =>
        h.onHeldBlock (.write src) (write_numPendingTransfers src) nofun
      refine ⟨(hwritten _).keeps (keepsBlocks_advance _ _), settled_of_held ?_ ?_⟩
      · show (c.onHeldBlock _).session.pBlock.isSome = true
        rw [onHeldBlock_session]
        exact hheld
      · show (c.onHeldBlock _).session.state ≠ _ ∧ (c.onHeldBlock _).session.state ≠ _
        rw [onHeldBlock_session, hstate]
        exact ⟨nofun, nofun⟩
    · exact good_cancelTransfer h _
  · unfold receiveSentinel
    simp only
    split
    · have hclosed : Owed others nextBlock (c.onHeldBlock .close) := h.onHeldBlock _
        (fun _ => rfl) nofun
      exact good_reply hclosed.releaseBlock (releaseBlock_pBlock _) _
    · exact good_cancelTransfer h _
  · exact good_cancelTransfer h _

theorem good_receivePushLoop (rounds : ℕ) (h : Owed others nextBlock c)
    (hheld : c.session.pBlock.isSome = true)
    (hstate : c.session.state = .receivePushTransferData) :
    Good others nextBlock (c.receivePushLoop rounds) := by
  induction rounds generalizing c with
  | zero =>
    refine ⟨h, settled_of_held hheld ?_⟩
    show c.session.state ≠ _ ∧ c.session.state ≠ _
    rw [hstate]
    exact ⟨nofun, nofun⟩
  | succ rounds ih =>
    have hreceived := keepsBlocks_receivePayload c
    have hstate₁ := (receivePayload_state c).trans hstate
    have hheld₁ : c.receivePayload.2.session.pBlock.isSome = true := hreceived.pBlock ▸ hheld
    unfold receivePushLoop
    simp only
    split
    · have hgood := good_receivePushMessage (h.keeps hreceived) hheld₁ hstate₁
      split
      · rename_i hagain
        refine ih hgood.owed ?_ hagain
        have hsettled := hgood.settled
        unfold Settled at hsettled
        rw [hagain] at hsettled
        exact hsettled
      · exact hgood
    · refine ⟨h.keeps hreceived, settled_of_held hheld₁ ?_⟩
      rw [hstate₁]
      exact ⟨nofun, nofun⟩

theorem good_processPullRequest (h : Owed others nextBlock c) (hnone : c.session.pBlock = none)
    (blockId : BlockId) : Good others nextBlock (c.processPullRequest blockId) := by
  unfold processPullRequest
  split
  · exact good_reply h hnone _
  · rename_i pBlock hblock
    simp only
    split
    · exact good_sendPullTransferHeader ((h.takeBlock hnone hblock _ _).keeps
        ((keepsBlocks_setState _ _).trans (keepsBlocks_createPayload _ _))) rfl rfl
    · exact good_reply h hnone _

theorem good_processPushRequest (h : Owed others nextBlock c) (hnone : c.session.pBlock = none)
    (blockId : BlockId) {sizeInBytes : ℕ}
    (hsize : ∀ pBlock ∈ c.manager.getServerBlock blockId,
      (c.manager.blocks pBlock).isClosed = false → 0 < sizeInBytes) :
    Good others nextBlock (c.processPushRequest blockId sizeInBytes) := by
  unfold processPushRequest
  split
  · exact good_reply h hnone _
  · rename_i pBlock hblock
    simp only
    split
    · rename_i havailable
      rw [if_pos (hsize pBlock hblock havailable.1)]
      exact good_startPushTransferSession ((h.takeBlock hnone hblock _ _).keeps
        ((keepsBlocks_setState _ _).trans (keepsBlocks_createPayload _ _))) rfl rfl
    · exact good_reply h hnone _

/-- The payload in the scratch container asks for a push of no bytes to an open block. -/
def EmptyPush (c : TransferCtx) : Prop :=
  c.session.scratchPayload.command = .transferRequest ∧
    c.session.scratchPayload.requestType = .push ∧
    c.session.scratchPayload.requestSizeInBytes = 0 ∧
    ∃ pBlock ∈ c.manager.getServerBlock c.session.scratchPayload.requestBlockId,
      (c.manager.blocks pBlock).isClosed = false

theorem good_processPayload (h : Owed others nextBlock c) (hnone : c.session.pBlock = none)
    (hidle : c.session.state = .idle) (hpush : ¬ EmptyPush c) :
    Good others nextBlock c.processPayload := by
  unfold processPayload
  split
  · rename_i hrequest
    split
    · exact good_processPullRequest h hnone _
    · rename_i htype
      refine good_processPushRequest h hnone _ fun pBlock hblock hopen => ?_
      by_contra hsize
      exact hpush ⟨hrequest, htype, by omega, pBlock, hblock, hopen⟩
    · exact good_reply h hnone _
  · exact good_sendSentinel h _ _
  · exact ⟨h, settled_of_done hnone (.inl hidle)⟩

def ReceivesEmptyPush (c : TransferCtx) : Prop :=
  c.session.state = .idle ∧ c.receivePayload.1 = .success ∧ EmptyPush c.receivePayload.2

theorem good_updateSession (h : Good others nextBlock c) (hpush : ¬ ReceivesEmptyPush c) :
    Good others nextBlock c.updateSession := by
  have hsettled := h.settled
  unfold Settled at hsettled
  unfold TransferCtx.updateSession
  split
  · -- idle: the next message is processed
    rename_i hidle
    rw [hidle] at hsettled
    have hreceived := keepsBlocks_receivePayload c
    have hstate₁ := (receivePayload_state c).trans hidle
    have hnone := hreceived.pBlock.trans hsettled
    simp only
    split
    · rename_i hsuccess
      exact good_processPayload (h.owed.keeps hreceived) hnone hstate₁
        fun hempty => hpush ⟨hidle, hsuccess, hempty⟩
    · exact ⟨h.owed.keeps hreceived, settled_of_done hnone (.inl hstate₁)⟩
  · rename_i hstate
    rw [hstate] at hsettled
    exact good_processPullSession h.owed hsettled hstate
  · rename_i hstate
    rw [hstate] at hsettled
    exact good_sendPullTransferHeader h.owed hsettled hstate
  · rename_i hstate
    rw [hstate] at hsettled
    exact good_startPushTransferSession h.owed hsettled hstate
  · rename_i hstate
    rw [hstate] at hsettled
    exact good_receivePushLoop _ h.owed hsettled hstate
  · rename_i hstate
    rw [hstate] at hsettled
    have hkeeps := keepsBlocks_sendScratch c
    exact ⟨h.owed.keeps hkeeps, settled_of_done (hkeeps.pBlock.trans hsettled)
      (sendScratch_state hstate)⟩

/-! ## Runs -/

def holders (sessions : List TransferSession) (b : BlockRef) : ℕ :=
  sessions.countP fun session => session.pBlock = some b

/-- The pending transfers of each block are the sessions that hold it, and a session holds a
block just as long as its transfer is on. -/
structure Accounted (s : TransferState) : Prop where
  pending : ∀ b, (s.manager.blocks b).numPendingTransfers = holders s.sessions b
  settled : ∀ session ∈ s.sessions, Settled session
  registers : Registers s.manager
  exists_held : ∀ session ∈ s.sessions, ∀ b, session.pBlock = some b → b < s.manager.nextBlock

def TakesEmptyPush (s : TransferState) : TransferAction → Prop
  | .updateSession index receives sends => ∃ session ∈ s.sessions[index]?,
      ReceivesEmptyPush (s.context session receives sends)
  | _ => False

theorem holders_cons (session : TransferSession) (sessions : List TransferSession)
    (b : BlockRef) :
    holders (session :: sessions) b = holders sessions b + TransferSession.holds session b := by
  simp only [holders, List.countP_cons, TransferSession.holds, decide_eq_true_eq]

theorem holders_append (l l' : List TransferSession) (b : BlockRef) :
    holders (l ++ l') b = holders l b + holders l' b := List.countP_append

theorem holders_of_getElem? {sessions : List TransferSession} {index : ℕ}
    (h : sessions[index]? = some session) (b : BlockRef) :
    holders sessions b =
      holders (sessions.eraseIdx index) b + TransferSession.holds session b := by
  obtain ⟨hlt, rfl⟩ := List.getElem?_eq_some_iff.mp h
  conv_lhs => rw [← List.take_append_drop index sessions, List.drop_eq_getElem_cons hlt]
  rw [List.eraseIdx_eq_take_drop_succ, holders_append, holders_append, holders_cons]
  omega

theorem holders_set {sessions : List TransferSession} {index : ℕ} (hlt : index < sessions.length)
    (b : BlockRef) :
    holders (sessions.set index session) b =
      holders (sessions.eraseIdx index) b + TransferSession.holds session b := by
  rw [List.set_eq_take_append_cons_drop, if_pos hlt, List.eraseIdx_eq_take_drop_succ,
    holders_append, holders_append, holders_cons]
  omega

variable {s : TransferState}

theorem Accounted.good (h : Accounted s) {index : ℕ} (hsession : s.sessions[index]? = some session)
    (receives : List ReceiveAnswer) (sends : List Result) :
    Good (holders (s.sessions.eraseIdx index)) s.manager.nextBlock
      (s.context session receives sends) := by
  have hmem := List.mem_of_getElem? hsession
  refine ⟨⟨fun b => ?_, nofun, h.registers, rfl, h.exists_held session hmem⟩,
    h.settled session hmem⟩
  exact (h.pending b).trans (holders_of_getElem? hsession b)

theorem Accounted.set (h : Accounted s) {index : ℕ} {c : TransferCtx}
    (hlt : index < s.sessions.length)
    (hgood : Good (holders (s.sessions.eraseIdx index)) s.manager.nextBlock c) :
    Accounted ⟨c.manager, s.sessions.set index c.session⟩ := by
  have hnext := hgood.owed.sameNext
  refine ⟨fun b => ?_, ?_, hgood.owed.registers, ?_⟩
  · rw [holders_set hlt]
    exact hgood.owed.pending b
  · intro session hmem
    rcases List.mem_or_eq_of_mem_set hmem with hold | rfl
    · exact h.settled session hold
    · exact hgood.settled
  · intro session hmem b hb
    show b < c.manager.nextBlock
    rw [hnext]
    rcases List.mem_or_eq_of_mem_set hmem with hold | rfl
    · exact h.exists_held session hold b hb
    · exact hgood.owed.exists_held b hb

theorem Accounted.erase (h : Accounted s) {index : ℕ}
    (hsession : s.sessions[index]? = some session) :
    Accounted ⟨(s.context session [] []).destroy.manager, s.sessions.eraseIdx index⟩ ∧
      EndsPending (s.context session [] []).destroy.events := by
  -- a destroyed session leaves the account the way a released block does
  have howed := (h.good hsession [] []).owed.releaseBlock
  refine ⟨⟨fun b => howed.pending b, ?_, howed.registers, ?_⟩, howed.ends⟩
  · intro other hmem
    exact h.settled other (List.mem_of_mem_eraseIdx hmem)
  · intro other hmem b hb
    exact howed.sameNext ▸ h.exists_held other (List.mem_of_mem_eraseIdx hmem) b hb

theorem Accounted.onBlock (h : Accounted s) (pBlock : BlockRef) (operation : OwnerOperation) :
    Accounted { s with manager := s.manager.onBlock pBlock operation.toBlockOperation } := by
  refine ⟨fun b => ?_, h.settled, h.registers, h.exists_held⟩
  refine Eq.trans ?_ (h.pending b)
  show (Function.update s.manager.blocks pBlock _ b).numPendingTransfers = _
  by_cases hb : b = pBlock
  · subst hb
    rw [Function.update_self]
    cases operation with
    | write src => exact write_numPendingTransfers src _
    | close => rfl
    | reset => rfl
  · rw [Function.update_of_ne hb]

theorem registers_openServerBlock {m : TransferManager} (h : Registers m) (newBlockId : BlockId) :
    Registers (m.openServerBlock newBlockId) := by
  intro blockId pBlock hblock
  show pBlock < m.nextBlock + 1
  simp only [TransferManager.openServerBlock] at hblock
  split at hblock
  · exact Nat.lt_succ_of_lt (h _ _ hblock)
  · by_cases hid : blockId = newBlockId
    · subst hid
      rw [Function.update_self] at hblock
      cases hblock
      exact Nat.lt_succ_self _
    · rw [Function.update_of_ne hid] at hblock
      exact Nat.lt_succ_of_lt (h _ _ hblock)

theorem Accounted.openServerBlock (h : Accounted s) (newBlockId : BlockId) :
    Accounted { s with manager := s.manager.openServerBlock newBlockId } := by
  refine ⟨fun b => ?_, h.settled, registers_openServerBlock h.registers newBlockId, ?_⟩
  · show (Function.update s.manager.blocks s.manager.nextBlock .new b).numPendingTransfers = _
    by_cases hb : b = s.manager.nextBlock
    · subst hb
      rw [Function.update_self]
      symm
      refine List.countP_eq_zero.mpr fun session hmem hheld => ?_
      exact absurd (h.exists_held session hmem _ (of_decide_eq_true hheld)) (lt_irrefl _)
    · rw [Function.update_of_ne hb]
      exact h.pending b
  · intro session hmem b hb
    exact Nat.lt_succ_of_lt (h.exists_held session hmem b hb)

theorem Accounted.closeServerBlock (h : Accounted s) (serverBlockId : BlockId) :
    Accounted { s with manager := s.manager.closeServerBlock serverBlockId } := by
  refine ⟨h.pending, h.settled, ?_, h.exists_held⟩
  intro blockId pBlock hblock
  simp only [TransferManager.closeServerBlock] at hblock
  by_cases hid : blockId = serverBlockId
  · subst hid
    rw [Function.update_self] at hblock
    cases hblock
  · rw [Function.update_of_ne hid] at hblock
    exact h.registers _ _ hblock

theorem Accounted.sessionEstablished (h : Accounted s) (version : Version) :
    Accounted { s with sessions := s.sessions ++ [.new version] } := by
  refine ⟨fun b => ?_, ?_, h.registers, ?_⟩
  · show _ = holders (s.sessions ++ [.new version]) b
    rw [holders_append, h.pending]
    rfl
  · intro session hmem
    rcases List.mem_append.mp hmem with hmem | hmem
    · exact h.settled session hmem
    · obtain rfl := List.mem_singleton.mp hmem
      rfl
  · intro session hmem
    rcases List.mem_append.mp hmem with hmem | hmem
    · exact h.exists_held session hmem
    · obtain rfl := List.mem_singleton.mp hmem
      exact nofun

theorem accounted_step {t : TransferState} {a : TransferAction} {events : List BlockEvent}
    (h : Accounted s) (hpush : ¬ TakesEmptyPush s a)
    (hstep : transferMachine.step s a = some (t, events)) :
    Accounted t ∧ EndsPending events := by
  cases a with
  | openServerBlock newBlockId =>
    cases hstep
    exact ⟨h.openServerBlock newBlockId, nofun⟩
  | closeServerBlock serverBlockId =>
    cases hstep
    exact ⟨h.closeServerBlock serverBlockId, nofun⟩
  | ownerOperation pBlock operation =>
    obtain ⟨-, ⟨⟩⟩ := Option.ite_none_right_eq_some.mp hstep
    exact ⟨h.onBlock pBlock operation, nofun⟩
  | sessionEstablished version =>
    cases hstep
    exact ⟨h.sessionEstablished version, nofun⟩
  | updateSession index receives sends =>
    obtain ⟨session, hsession, heq⟩ := Option.map_eq_some_iff.mp hstep
    cases heq
    have hgood := good_updateSession (h.good hsession receives sends)
      fun hempty => hpush ⟨session, hsession, hempty⟩
    exact ⟨h.set (List.getElem?_eq_some_iff.mp hsession).1 hgood, hgood.owed.ends⟩
  | sessionTerminated index =>
    obtain ⟨session, hsession, heq⟩ := Option.map_eq_some_iff.mp hstep
    cases heq
    exact h.erase hsession

theorem accounted_init (h : transferMachine.init s) : Accounted s := by
  obtain rfl : s = ⟨.new, []⟩ := h
  exact ⟨fun _ => rfl, nofun, nofun, nofun⟩

/-- As long as no idle session receives a push request of size zero for an open block, the
pending transfers of every block are the sessions that hold it, an idle session holds no block,
and `EndTransfer` is only called on a block with pending transfers. -/
theorem pending_transfers_accounted {s t : TransferState}
    {tr : List (TransferState × TransferAction × List BlockEvent)}
    (hs : transferMachine.init s) (h : transferMachine.Trace s tr t)
    (hpush : ∀ x ∈ tr, ¬ TakesEmptyPush x.1 x.2.1) :
    (∀ b, (t.manager.blocks b).numPendingTransfers = holders t.sessions b) ∧
      (∀ session ∈ t.sessions, session.state = .idle → session.pBlock = none) ∧
      ∀ x ∈ tr, EndsPending x.2.2 := by
  have hstep : ∀ u v a events, Accounted u → ¬ TakesEmptyPush u a →
      transferMachine.step u a = some (v, events) → Accounted v :=
    fun _ _ _ _ hu ha hone => (accounted_step hu ha hone).1
  have hinit := accounted_init hs
  have ht : Accounted t := h.invariant (P := Accounted)
    (C := fun u a => ¬ TakesEmptyPush u a) hinit hpush hstep
  refine ⟨ht.pending, fun session hmem hidle => ?_, fun x hx => ?_⟩
  · have hsettled := ht.settled session hmem
    unfold Settled at hsettled
    rw [hidle] at hsettled
    exact hsettled
  · obtain ⟨haccounted, hcond, v, hone⟩ := h.invariant_of_mem (P := Accounted)
      (C := fun u a => ¬ TakesEmptyPush u a) hinit hpush hstep hx
    exact (accounted_step haccounted hcond hone).2

instance (c : TransferCtx) : Decidable (EmptyPush c) :=
  inferInstanceAs (Decidable (_ ∧ _ ∧ _ ∧ ∃ pBlock, pBlock ∈ _ ∧ _))

instance (c : TransferCtx) : Decidable (ReceivesEmptyPush c) :=
  inferInstanceAs (Decidable (_ ∧ _ ∧ _))

instance (s : TransferState) : (a : TransferAction) → Decidable (TakesEmptyPush s a)
  | .updateSession _ _ _ => inferInstanceAs (Decidable (∃ session, session ∈ _ ∧ _))
  | .openServerBlock _ | .closeServerBlock _ | .ownerOperation _ _
  | .sessionEstablished _ | .sessionTerminated _ => .isFalse id

def arrived (bytes : List UInt8) (h : bytes.length ≤ kMaxPayloadSizeInBytes := by decide) :
    ReceiveAnswer := .payload ⟨bytes, h⟩

def oneSession : List TransferAction := [.openServerBlock 7, .sessionEstablished 2]

def pushedThenPulled : List TransferAction :=
  oneSession ++
    [.updateSession 0 [arrived (transferRequest 7 .push 2)] [.success],
      .updateSession 0 [arrived (transferDataChunk [1, 2]),
        arrived (transferDataSentinel .success (CRC32 [1, 2] 0))] [.success],
      .updateSession 0 [arrived (transferRequest 7 .pull 0)] []]

def pushedEmpty : List TransferAction :=
  oneSession ++
    [.updateSession 0 [arrived (transferRequest 7 .push 0)] [.success],
      .updateSession 0 [arrived (transferRequest 7 .push 0)] [.success]]

theorem pending_transfers_accounted_pulling : ∃ t,
    transferMachine.run ⟨.new, []⟩ pushedThenPulled = some t ∧
      (t.manager.blocks 0).numPendingTransfers = 1 ∧
      ∀ b, (t.manager.blocks b).numPendingTransfers = holders t.sessions b := by
  obtain ⟨t, ht, hcount⟩ := transferMachine.exists_of_run ⟨.new, []⟩ pushedThenPulled
    (fun t => (t.manager.blocks 0).numPendingTransfers = 1) (by decide +kernel)
  have htest : ∀ x ∈ transferMachine.transitions ⟨.new, []⟩ pushedThenPulled,
      ¬ TakesEmptyPush x.1 x.2.1 := by
    decide +kernel
  exact ⟨t, ht, hcount,
    (pending_transfers_accounted rfl (.of_run ht) htest).1⟩

/-- Two empty pushes by one session leave two pending transfers behind. -/
theorem empty_push_miscounted : ¬ ∀ (s t : TransferState)
    (tr : List (TransferState × TransferAction × List BlockEvent)), transferMachine.init s →
    transferMachine.Trace s tr t →
    (∀ b, (t.manager.blocks b).numPendingTransfers = holders t.sessions b) ∧
      (∀ session ∈ t.sessions, session.state = .idle → session.pBlock = none) ∧
      ∀ x ∈ tr, EndsPending x.2.2 := by
  intro hall
  obtain ⟨t, ht, htwo, hone⟩ := transferMachine.exists_of_run ⟨.new, []⟩ pushedEmpty
    (fun t => (t.manager.blocks 0).numPendingTransfers = 2 ∧ holders t.sessions 0 = 1)
    (by decide +kernel)
  have hequal := (hall _ t _ rfl (.of_run ht)).1 0
  omega

end DevDriver.Analysis
