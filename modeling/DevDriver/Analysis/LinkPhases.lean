import DevDriver.Analysis.PullTransfer
import DevDriver.Analysis.PushTransfer
import DevDriver.Analysis.PushedBlocks

/-!
# Phases of a link

What a client has to know of the other end of its link: that nothing is under way, that its request
is, that the rest of a pull is still to come, that an abort is waiting, or that a push goes on.
-/

namespace DevDriver.Analysis

open Library Model TransferCtx

/-! ## Blocks -/

def ConsistentBlocks (m : TransferManager) : Prop := ∀ b, ServerBlock.Consistent (m.blocks b)

theorem ServerBlock.Consistent.apply {b : ServerBlock} (h : ServerBlock.Consistent b)
    (operation : BlockOperation) : ServerBlock.Consistent (operation.apply b) := by
  cases operation with
  | write src => exact h.write src
  | close => exact ⟨h.sized, h.crc32⟩
  | reset => exact .reset b
  | beginTransfer => exact ⟨h.sized, h.crc32⟩
  | endTransfer => exact ⟨h.sized, h.crc32⟩

theorem SameContent.consistent {b b' : ServerBlock} (h : SameContent b b')
    (hb : ServerBlock.Consistent b) : ServerBlock.Consistent b' := by
  have hdata : b'.data = b.data := by
    unfold ServerBlock.data
    rw [h.chunks, h.blockDataSize]
  refine ⟨?_, ?_⟩
  · show b'.blockDataSize ≤ b'.chunks.length
    rw [h.blockDataSize, h.chunks]
    exact hb.sized
  · rw [h.crc32, hdata]
    exact hb.crc32

def KeepsConsistent (c c' : TransferCtx) : Prop :=
  ConsistentBlocks c.manager → ConsistentBlocks c'.manager

variable {c : TransferCtx}

variable {c' : TransferCtx}

theorem KeepsConsistent.trans {c₁ : TransferCtx} (h : KeepsConsistent c c₁)
    (h' : KeepsConsistent c₁ c') : KeepsConsistent c c' := fun hc => h' (h hc)

theorem Calm.keepsConsistent (h : Calm c c') : KeepsConsistent c c' :=
  fun hc b => (h.content b).consistent (hc b)

theorem KeepsBlocks.keepsConsistent (h : KeepsBlocks c c') :
    KeepsConsistent c c' := h.calm.keepsConsistent

theorem keepsConsistent_onHeldBlock (operation : BlockOperation) (c : TransferCtx) :
    KeepsConsistent c (c.onHeldBlock operation) := by
  intro hc b
  unfold onHeldBlock
  split
  · exact hc b
  · rename_i pBlock _
    show ServerBlock.Consistent (Function.update c.manager.blocks pBlock _ b)
    by_cases hb : b = pBlock
    · subst hb
      rw [Function.update_self]
      exact (hc b).apply operation
    · rw [Function.update_of_ne hb]
      exact hc b

theorem keepsConsistent_cancelTransfer (reason : Result) (c : TransferCtx) :
    KeepsConsistent c (c.cancelTransfer reason) :=
  (keepsConsistent_onHeldBlock .reset c).trans
    ((idles_reply _ _).after (calm_releaseBlock _)).calm.keepsConsistent

theorem keepsConsistent_receivePushMessage (c : TransferCtx) :
    KeepsConsistent c c.receivePushMessage := by
  unfold receivePushMessage
  split
  · unfold receiveChunk
    split
    · exact (keepsConsistent_onHeldBlock _ c).trans (keepsBlocks_advance _ _).keepsConsistent
    · exact keepsConsistent_cancelTransfer _ c
  · unfold receiveSentinel
    simp only
    split
    · exact (keepsConsistent_onHeldBlock .close c).trans
        ((idles_reply _ _).after (calm_releaseBlock _)).calm.keepsConsistent
    · exact keepsConsistent_cancelTransfer _ c
  · exact keepsConsistent_cancelTransfer _ c

theorem keepsConsistent_receivePushLoop (rounds : ℕ) (c : TransferCtx) :
    KeepsConsistent c (c.receivePushLoop rounds) := by
  induction rounds generalizing c with
  | zero => exact id
  | succ rounds ih =>
    have hreceived := (keepsBlocks_receivePayload c).keepsConsistent
    unfold receivePushLoop
    simp only
    split
    · have hmessage := hreceived.trans (keepsConsistent_receivePushMessage c.receivePayload.2)
      split
      · exact hmessage.trans (ih _)
      · exact hmessage
    · exact hreceived

theorem keepsConsistent_processPayload (c : TransferCtx) :
    KeepsConsistent c c.processPayload := by
  unfold processPayload
  split
  · split
    · exact (idles_processPullRequest _ c).calm.keepsConsistent
    · exact (processPushRequest_spec _ _ c).1.keepsConsistent
    · exact (idles_reply _ c).calm.keepsConsistent
  · exact (idles_sendSentinel _ _ c).calm.keepsConsistent
  · exact id

theorem keepsConsistent_updateSession (c : TransferCtx) :
    KeepsConsistent c c.updateSession := by
  have hreceived := (keepsBlocks_receivePayload c).keepsConsistent
  unfold TransferCtx.updateSession
  split
  · simp only
    split
    · exact hreceived.trans (keepsConsistent_processPayload _)
    · exact hreceived
  · rename_i hstate
    exact (idles_processPullSession (aside_of_state hstate ⟨nofun, nofun⟩)).calm.keepsConsistent
  · rename_i hstate
    exact (idles_sendPullTransferHeader
      (aside_of_state hstate ⟨nofun, nofun⟩)).calm.keepsConsistent
  · rename_i hstate
    exact (calm_startPushTransferSession c hstate).1.keepsConsistent
  · exact keepsConsistent_receivePushLoop _ c
  · exact (keepsBlocks_sendScratch c).keepsConsistent

variable {v : Version} {l : TransferLink}

theorem consistentBlocks_serverTurn (h : ConsistentBlocks l.manager) (turn : ServerTurn) :
    ConsistentBlocks (l.serverTurn turn).manager :=
  keepsConsistent_updateSession (l.serverCtx turn) h

variable {data : List UInt8} {crc : UInt32}

variable {discard : Bool} {f : Future}

theorem path_stream {ms : List (List UInt8)} (h : Path (Says v) (.stream data crc) ms f) :
    (∀ m ∈ ms, ∀ c : SizedPayloadContainer, (c.fill m).command ≠ .transferStatus) ∧
      ((∃ data', f = .stream data' crc ∧
          ∀ m ∈ ms, ∀ c : SizedPayloadContainer, (c.fill m).command = .transferDataChunk) ∨
        (f = .nothing ∧ ms ≠ [])) := by
  generalize hg : Future.stream data crc = g at h
  induction h generalizing data with
  | nil => exact ⟨nofun, .inl ⟨data, hg.symm, nofun⟩⟩
  | @cons f g k m ms hsay hrest ih =>
    subst hg
    cases hsay with
    | chunk hdata hm =>
      obtain ⟨hms, hend⟩ := ih rfl
      refine ⟨fun m' hmem c => ?_, hend.imp (fun ⟨data', hk, hchunks⟩ => ⟨data', hk, ?_⟩)
        fun hnothing => ⟨hnothing.1, nofun⟩⟩
      · rcases List.mem_cons.mp hmem with rfl | hmem
        · rw [hm.chunk_command]
          exact nofun
        · exact hms m' hmem c
      · intro m' hmem c
        rcases List.mem_cons.mp hmem with rfl | hmem
        · exact hm.chunk_command c
        · exact hchunks m' hmem c
    | sentinel hm =>
      cases hrest with
      | nil =>
        refine ⟨fun m hmem c => ?_, .inr ⟨rfl, nofun⟩⟩
        obtain rfl := List.mem_singleton.mp hmem
        rw [hm.sentinel_command]
        exact nofun
      | cons hsay => cases hsay

structure AtRest (v : Version) (l : TransferLink) : Prop where
  version : l.server.version = v
  idle : l.server.state = .idle
  toServer : l.toServer = []
  toClient : l.toClient = []

theorem AtRest.serverTurn (h : AtRest v l) (turn : ServerTurn) : AtRest v (l.serverTurn turn) := by
  rw [serverTurn_idle h.idle (by rw [h.toServer, List.take_nil])]
  exact h

theorem Expects.atRest (h : Expects v .nothing l) (hto : l.toServer = []) : AtRest v l := by
  obtain ⟨hversion, f, hpath, hserves⟩ := h
  generalize hms : l.toClient.map Subtype.val = ms at hpath
  cases hpath with
  | nil =>
    cases hserves with
    | nothing hstate => exact ⟨hversion, hstate, hto, List.map_eq_nil_iff.mp hms⟩
  | cons hsay => cases hsay

/-! ## A pull -/

inductive PullAsked (v : Version) (l : TransferLink) : Prop where
  | waiting {blockId : BlockId} {p : SessionPayload} (hversion : l.server.version = v)
      (hidle : l.server.state = .idle) (hclient : l.toClient = []) (hserver : l.toServer = [p])
      (hp : IsSent v (transferRequest blockId .pull 0) p.1)
  | served {data : List UInt8} {crc : UInt32} (hexpects : Expects v (.header data crc) l)
      (hserver : l.toServer = [])
  | refused (hexpects : Expects v (.answer (transferStatus .error)) l)
      (hserver : l.toServer = [])

theorem processPullRequest_answers (blockId : BlockId) (hreceives : c.receives = [])
    (hidle : c.session.state = .idle) (hblocks : ConsistentBlocks c.manager) :
    Proceeds (.answer (transferStatus .error)) c (c.processPullRequest blockId) ∨
      ∃ data crc, Proceeds (.header data crc) c (c.processPullRequest blockId) := by
  have hlength : (transferStatus .error).length ≤ kMaxPayloadSizeInBytes := by
    rw [length_transferStatus]
    decide
  have hrefuse := proceeds_reply (c := c) hlength (fun _ hm => Says.answer hlength hm) .answer
  cases hblock : c.manager.getServerBlock blockId with
  | none =>
    unfold processPullRequest
    rw [hblock]
    exact .inl hrefuse
  | some b =>
    by_cases hclosed : (c.manager.blocks b).isClosed = true
    · exact .inr ⟨_, _, proceeds_processPullRequest hreceives hidle hblock hclosed
        (hblocks b).sized⟩
    · unfold processPullRequest
      rw [hblock]
      simp only
      rw [if_neg fun h => hclosed h.1]
      exact .inl hrefuse

theorem PullAsked.serverTurn (h : PullAsked v l) (hblocks : ConsistentBlocks l.manager)
    (turn : ServerTurn) : PullAsked v (l.serverTurn turn) := by
  cases h with
  | @waiting blockId p hversion hidle hclient hserver hp =>
    rcases Nat.eq_zero_or_pos turn.arrived with hzero | hpos
    · rw [serverTurn_idle hidle (by rw [hzero, List.take_zero])]
      exact .waiting hversion hidle hclient hserver hp
    · obtain ⟨hreceives, htaken⟩ := serverTurn_arrived hserver hpos
      have hupdate := updateSession_pullRequest (c := l.serverCtx turn) hidle hreceives hp
      have hempty : ∀ f, Path (Says v) f (l.toClient.map Subtype.val) f := by
        intro f
        rw [hclient]
        exact .nil f
      have hanswers := processPullRequest_answers blockId
        (c := { l.serverCtx turn with receives := [] }.createPayload p.1) rfl hidle hblocks
      rw [← hupdate] at hanswers
      rcases hanswers with hrefused | ⟨data, crc, hserved⟩
      · exact .refused (Expects.proceed hversion (hempty _) rfl rfl hrefused)
          (htaken hrefused.receives)
      · exact .served (Expects.proceed hversion (hempty _) rfl rfl hserved)
          (htaken hserved.receives)
  | served hexpects hserver =>
    have harrived : l.toServer.take turn.arrived = [] := by rw [hserver, List.take_nil]
    obtain ⟨hexpects', hserver'⟩ := hexpects.serverTurn harrived
    exact .served hexpects' (hserver'.trans hserver)
  | refused hexpects hserver =>
    have harrived : l.toServer.take turn.arrived = [] := by rw [hserver, List.take_nil]
    obtain ⟨hexpects', hserver'⟩ := hexpects.serverTurn harrived
    exact .refused hexpects' (hserver'.trans hserver)

structure Pulling (v : Version) (data : List UInt8) (crc : UInt32) (l : TransferLink) :
    Prop where
  expects : Expects v (.stream data crc) l
  toServer : l.toServer = []

theorem Pulling.serverTurn (h : Pulling v data crc l)
    (turn : ServerTurn) : Pulling v data crc (l.serverTurn turn) := by
  have harrived : l.toServer.take turn.arrived = [] := by rw [h.toServer, List.take_nil]
  obtain ⟨hexpects, hserver⟩ := h.expects.serverTurn harrived
  exact ⟨hexpects, hserver.trans h.toServer⟩

variable {p : SessionPayload} {ps : List SessionPayload}

theorem PullAsked.receive (h : PullAsked v l) (hto : l.toClient = p :: ps) :
    (∃ data crc, IsSent v (pullHeader v data.length) p.1 ∧
      Pulling v data crc { l with toClient := ps }) ∨
    (IsSent v (transferStatus .error) p.1 ∧ AtRest v { l with toClient := ps }) := by
  cases h with
  | waiting _ _ hclient =>
    rw [hclient] at hto
    cases hto
  | served hexpects hserver =>
    obtain ⟨g, hsay, hexpects'⟩ := hexpects.receive hto
    cases hsay with
    | header hp => exact .inl ⟨_, _, hp, hexpects', hserver⟩
  | refused hexpects hserver =>
    obtain ⟨g, hsay, hexpects'⟩ := hexpects.receive hto
    cases hsay with
    | answer _ hp => exact .inr ⟨hp, hexpects'.atRest hserver⟩

theorem Pulling.receive (h : Pulling v data crc l) (hto : l.toClient = p :: ps) :
    (data ≠ [] ∧ IsSent v (transferDataChunk (data.take kMaxTransferDataChunkSize)) p.1 ∧
      Pulling v (data.drop kMaxTransferDataChunkSize) crc { l with toClient := ps }) ∨
    (data = [] ∧ IsSent v (transferDataSentinel .success crc) p.1 ∧
      AtRest v { l with toClient := ps }) := by
  obtain ⟨g, hsay, hexpects⟩ := h.expects.receive hto
  cases hsay with
  | chunk hdata hp => exact .inl ⟨hdata, hp, hexpects, h.toServer⟩
  | sentinel hp => exact .inr ⟨rfl, hp, hexpects.atRest h.toServer⟩

/-! ## An abort -/

/-- A status is under way to the server, which is how a client aborts a pull. -/
def AbortWaiting (l : TransferLink) : Prop :=
  ∃ p ∈ l.toServer, (SizedPayloadContainer.zero.fill p.1).command = .transferStatus

def chunksLeft (session : TransferSession) : ℕ :=
  (session.totalBytes - session.bytesTransferred + kMaxTransferDataChunkSize - 1) /
    kMaxTransferDataChunkSize

/-- An update that does not see an abort that is waiting, and whose `Send` takes all chunks that
are left. -/
def MissesAbort (turn : ServerTurn) (l : TransferLink) : Prop :=
  l.server.state = .processPullTransfer ∧ AbortWaiting l ∧ turn.arrived = 0 ∧
    turn.sends.take (chunksLeft l.server) = List.replicate (chunksLeft l.server) .success

theorem sendPayload_taken (h : c.sendPayload.1 = .success) :
    ∃ sends, c.sends = .success :: sends ∧ c.sendPayload.2.sends = sends := by
  unfold sendPayload at h ⊢
  split at h
  · cases h
  · rename_i r sends hsends
    obtain rfl : r = .success := h
    exact ⟨sends, hsends, rfl⟩

theorem sends_of_finished (rounds : ℕ)
    (h : (c.sendChunks rounds).session.bytesTransferred = (c.sendChunks rounds).session.totalBytes)
    (hle : c.session.bytesTransferred ≤ c.session.totalBytes) :
    c.sends.take (chunksLeft c.session) = List.replicate (chunksLeft c.session) .success := by
  have hmax : kMaxTransferDataChunkSize = 1380 := rfl
  induction rounds generalizing c with
  | zero =>
    have hnone : chunksLeft c.session = 0 := by
      have hend : c.session.bytesTransferred = c.session.totalBytes := h
      unfold chunksLeft
      rw [hmax]
      omega
    rw [hnone]
    rfl
  | succ rounds ih =>
    unfold sendChunks at h
    by_cases hmore : c.session.bytesTransferred < c.session.totalBytes
    · rw [if_pos hmore] at h
      simp only at h
      generalize hcreated : c.createPayload (transferDataChunk (slice c.blockData
        c.session.bytesTransferred (min kMaxTransferDataChunkSize
          (c.session.totalBytes - c.session.bytesTransferred)))) = created at h
      have hsession := sendPayload_session created
      have htotal : created.session.totalBytes = c.session.totalBytes := by
        rw [← hcreated]
        rfl
      have hbytes : created.session.bytesTransferred = c.session.bytesTransferred := by
        rw [← hcreated]
        rfl
      split at h
      · rename_i hsuccess
        obtain ⟨sends, hsends, hrest⟩ := sendPayload_taken hsuccess
        have hsends' : c.sends = .success :: sends := by
          rw [← hsends, ← hcreated]
          rfl
        -- one chunk less is left
        have hleft : chunksLeft c.session = chunksLeft (created.sendPayload.2.advance
            (min kMaxTransferDataChunkSize
              (c.session.totalBytes - c.session.bytesTransferred))).session + 1 := by
          unfold chunksLeft advance
          simp only [hsession, htotal, hbytes, hmax]
          omega
        have hafter := ih h (by
          unfold advance
          simp only [hsession, htotal, hbytes]
          omega)
        rw [hleft, hsends', List.take_succ_cons, List.replicate_succ]
        congr 1
        exact (congrArg _ hrest.symm).trans hafter
      · rw [hsession, hbytes, htotal] at h
        omega
    · have hnone : chunksLeft c.session = 0 := by
        unfold chunksLeft
        rw [hmax]
        omega
      rw [hnone]
      rfl

theorem processPullSession_state (hreceives : c.receives = [])
    (hstate : c.session.state = .processPullTransfer)
    (hle : c.session.bytesTransferred ≤ c.session.totalBytes)
    (hsends : c.sends.take (chunksLeft c.session) ≠
      List.replicate (chunksLeft c.session) .success) :
    c.processPullSession.session.state = .processPullTransfer := by
  unfold processPullSession
  simp only [receivePayload_nil hreceives, if_true]
  rw [if_neg fun h => hsends (sends_of_finished _ h hle)]
  exact (sendChunks_state _ c).trans hstate

theorem processPullSession_heard (hreceives : c.receives = [.payload p]) : c.processPullSession =
      ({ c with receives := [] }.createPayload p.1).sendSentinel
        (if (c.session.scratchPayload.fill p.1).command = TransferMessage.transferStatus
          then .aborted else .error) 0 := by
  unfold processPullSession
  simp only [receivePayload_cons hreceives, createPayload_scratchPayload]
  rw [if_neg nofun, if_pos trivial]
  split
  · rfl
  · rfl

theorem proceeds_sentinel_answer (status : Result) (crc : UInt32) (c : TransferCtx) :
    Proceeds (.answer (transferDataSentinel status crc)) c (c.sendSentinel status crc) := by
  have hlength : (transferDataSentinel status crc).length ≤ kMaxPayloadSizeInBytes := by
    rw [length_transferDataSentinel]
    decide
  have hreply := proceeds_reply (c := c.releaseBlock) hlength
    (fun _ hm => Says.answer hlength hm) .answer
  exact hreply.after (releaseBlock_version c) (releaseBlock_receives c) (releaseBlock_sent c)

structure Discarding (v : Version) (l : TransferLink) : Prop where
  toServer : l.toServer = []
  toClient : ∃ skipped rest, l.toClient = skipped ++ rest ∧
    (∀ p ∈ skipped, ∀ c : SizedPayloadContainer,
      (c.fill p.1).command ≠ .transferDataSentinel) ∧
    Expects v (.answer (transferDataSentinel .aborted 0)) { l with toClient := rest }

/-- An abort is under way to a pull that goes on, or to a server that is at rest, or its answer
is. -/
inductive Aborting (v : Version) (l : TransferLink) : Prop where
  | waiting {data : List UInt8} {crc : UInt32} {p : SessionPayload}
      (hexpects : Expects v (.stream data crc) l)
      (hstate : l.server.state = .processPullTransfer) (hserver : l.toServer = [p])
      (hp : IsSent v (transferStatus .aborted) p.1)
  | late {p : SessionPayload} (hversion : l.server.version = v)
      (hidle : l.server.state = .idle) (hclient : l.toClient = []) (hserver : l.toServer = [p])
      (hp : IsSent v (transferStatus .aborted) p.1)
  | answered (h : Discarding v l)

theorem Discarding.serverTurn (h : Discarding v l) (turn : ServerTurn) :
    Discarding v (l.serverTurn turn) := by
  obtain ⟨skipped, rest, hclient, hskipped, hexpects⟩ := h.toClient
  have harrived : l.toServer.take turn.arrived = [] := by rw [h.toServer, List.take_nil]
  obtain ⟨hexpects', hserver⟩ := hexpects.serverTurn (l := { l with toClient := rest }) harrived
  refine ⟨hserver.trans h.toServer, skipped, _, ?_, hskipped, hexpects'⟩
  show l.toClient ++ (l.serverCtx turn).updateSession.sent.map toSessionPayload =
    skipped ++ (rest ++ (l.serverCtx turn).updateSession.sent.map toSessionPayload)
  rw [hclient, List.append_assoc]

variable {turn : ServerTurn}

theorem Discarding.of_heard (hversion : l.server.version = v)
    (hserver : l.toServer = [p]) (hpos : 0 < turn.arrived)
    (hupdate : (l.serverCtx turn).updateSession =
      ({ l.serverCtx turn with receives := [] }.createPayload p.1).sendSentinel .aborted 0)
    (hskipped : ∀ p ∈ l.toClient, ∀ c : SizedPayloadContainer,
      (c.fill p.1).command ≠ .transferDataSentinel) : Discarding v (l.serverTurn turn) := by
  have hproceeds := proceeds_sentinel_answer .aborted 0
    ({ l.serverCtx turn with receives := [] }.createPayload p.1)
  rw [← hupdate] at hproceeds
  obtain ⟨-, htaken⟩ := serverTurn_arrived hserver hpos
  have hexpects : Expects v (.answer (transferDataSentinel .aborted 0))
      ({ l with toClient := [] }.serverTurn turn) :=
    Expects.proceed (l := { l with toClient := [] }) hversion (.nil _) rfl rfl hproceeds
  exact ⟨htaken hproceeds.receives, l.toClient, _, rfl, hskipped, hexpects⟩

theorem updateSession_abort (hidle : c.session.state = .idle)
    (hreceives : c.receives = [.payload p])
    (hp : IsSent v (transferStatus .aborted) p.1) : c.updateSession =
      ({ c with receives := [] }.createPayload p.1).sendSentinel .aborted 0 := by
  rw [updateSession_received hidle hreceives, processPayload, createPayload_scratchPayload,
    hp.status_command]

theorem ReadsBlock.bytes_le {session : TransferSession} {m : TransferManager} {offset : ℕ}
    (h : ReadsBlock session m data crc offset) :
    session.bytesTransferred ≤ session.totalBytes := by
  rw [h.bytesTransferred, h.totalBytes]
  exact h.offset_le

theorem Expects.sending (h : Expects v (.stream data crc) l)
    (hstate : l.server.state = .processPullTransfer) :
    (∃ data' offset, ReadsBlock l.server l.manager data' crc offset) ∧
      ∀ p ∈ l.toClient, ∀ c : SizedPayloadContainer,
        (c.fill p.1).command = .transferDataChunk := by
  obtain ⟨-, f, hpath, hserves⟩ := h
  obtain ⟨-, ⟨data', rfl, hchunks⟩ | ⟨rfl, -⟩⟩ := path_stream hpath
  · refine ⟨?_, fun p hp c => hchunks p.1 (List.mem_map_of_mem hp) c⟩
    cases hserves with
    | stream _ hblock => exact ⟨_, _, hblock⟩
    | sentinel hstate' => exact absurd (hstate'.symm.trans hstate) nofun
  · cases hserves with
    | nothing hstate' => exact absurd (hstate'.symm.trans hstate) nofun

theorem Aborting.serverTurn (h : Aborting v l)
    (hnot : ¬ MissesAbort turn l) : Aborting v (l.serverTurn turn) := by
  cases h with
  | @waiting data crc p hexpects hstate hserver hp =>
    obtain ⟨⟨data', offset, hblock⟩, hchunks⟩ := hexpects.sending hstate
    rcases Nat.eq_zero_or_pos turn.arrived with hzero | hpos
    · have harrived : l.toServer.take turn.arrived = [] := by rw [hzero, List.take_zero]
      have hreceives : (l.serverCtx turn).receives = [] := by
        show (l.toServer.take turn.arrived).map ReceiveAnswer.payload = []
        rw [harrived]
        rfl
      have hwaiting : AbortWaiting l :=
        ⟨p, by rw [hserver]; exact List.mem_singleton_self _, hp.status_command _⟩
      have hstate' := processPullSession_state (c := l.serverCtx turn) hreceives hstate
        hblock.bytes_le fun hsends => hnot ⟨hstate, hwaiting, hzero, hsends⟩
      obtain ⟨hexpects', hserver'⟩ := hexpects.serverTurn harrived
      refine .waiting hexpects' ?_ (hserver'.trans hserver) hp
      show (l.serverCtx turn).updateSession.session.state = _
      unfold TransferCtx.updateSession
      rw [show (l.serverCtx turn).session.state = _ from hstate]
      exact hstate'
    · obtain ⟨hreceives, -⟩ := serverTurn_arrived hserver hpos
      refine .answered (.of_heard hexpects.1 hserver hpos ?_ fun p hp c => ?_)
      · unfold TransferCtx.updateSession
        rw [show (l.serverCtx turn).session.state = _ from hstate]
        rw [processPullSession_heard hreceives, if_pos (hp.status_command _)]
      · rw [hchunks p hp c]
        exact nofun
  | @late p hversion hidle hclient hserver hp =>
    rcases Nat.eq_zero_or_pos turn.arrived with hzero | hpos
    · rw [serverTurn_idle hidle (by rw [hzero, List.take_zero])]
      exact .late hversion hidle hclient hserver hp
    · obtain ⟨hreceives, -⟩ := serverTurn_arrived hserver hpos
      refine .answered (.of_heard hversion hserver hpos ?_ (by rw [hclient]; exact nofun))
      exact updateSession_abort hidle hreceives hp
  | answered h => exact .answered (h.serverTurn turn)

theorem Aborting.receive (h : Aborting v l) (hto : l.toClient = p :: ps) :
    ((∀ c : SizedPayloadContainer, (c.fill p.1).command ≠ .transferDataSentinel) ∧
      Aborting v { l with toClient := ps }) ∨
    ((∀ c : SizedPayloadContainer, (c.fill p.1).command = .transferDataSentinel) ∧
      AtRest v { l with toClient := ps }) := by
  cases h with
  | waiting hexpects hstate hserver hp =>
    obtain ⟨-, hchunks⟩ := hexpects.sending hstate
    have hp' := hchunks p (by rw [hto]; exact List.mem_cons_self)
    obtain ⟨g, hsay, hexpects'⟩ := hexpects.receive hto
    cases hsay with
    | chunk =>
      refine .inl ⟨fun c => ?_, .waiting hexpects' hstate hserver hp⟩
      rw [hp' c]
      exact nofun
    | sentinel hm => exact absurd ((hm.sentinel_command .zero).symm.trans (hp' .zero)) nofun
  | late _ _ hclient =>
    rw [hclient] at hto
    cases hto
  | answered h =>
    obtain ⟨skipped, rest, hclient, hskipped, hexpects⟩ := h.toClient
    cases skipped with
    | nil =>
      obtain rfl : rest = p :: ps := hclient.symm.trans hto
      obtain ⟨g, hsay, hexpects'⟩ := hexpects.receive rfl
      cases hsay with
      | answer _ hp => exact .inr ⟨hp.sentinel_command, hexpects'.atRest h.toServer⟩
    | cons q skipped =>
      obtain ⟨rfl, hps⟩ := List.cons.inj (hclient.symm.trans hto)
      refine .inl ⟨hskipped q List.mem_cons_self, .answered ⟨h.toServer, skipped, rest, hps.symm,
        fun p hp => hskipped p (List.mem_cons_of_mem _ hp), hexpects⟩⟩

/-- The sentinel of a pull was sent or is about to be, and the client has not received it. -/
def SentinelUnread (l : TransferLink) : Prop :=
  l.server.state = .sendPayload ∨ (l.server.state = .idle ∧ l.toClient ≠ [])

section Send

variable {p : SessionPayload}

theorem AtRest.askPull (h : AtRest v l) {blockId : BlockId}
    (hp : IsSent v (transferRequest blockId .pull 0) p.1) :
    PullAsked v { l with toServer := l.toServer ++ [p] } := by
  rw [h.toServer]
  exact .waiting h.version h.idle h.toClient rfl hp

theorem AtRest.abort (h : AtRest v l) (hp : IsSent v (transferStatus .aborted) p.1) :
    Aborting v { l with toServer := l.toServer ++ [p] } := by
  rw [h.toServer]
  exact .late h.version h.idle h.toClient rfl hp

theorem Pulling.abort {data : List UInt8} {crc : UInt32} (h : Pulling v data crc l)
    (hunread : ¬ SentinelUnread l) (hp : IsSent v (transferStatus .aborted) p.1) :
    Aborting v { l with toServer := l.toServer ++ [p] } := by
  obtain ⟨hversion, f, hpath, hserves⟩ := h.expects
  have hstate : l.server.state = .processPullTransfer := by
    obtain ⟨-, ⟨data', rfl, -⟩ | ⟨rfl, hne⟩⟩ := path_stream hpath
    · cases hserves with
      | stream hstate _ => exact hstate
      | sentinel hstate _ => exact absurd (.inl hstate) hunread
    · cases hserves with
      | nothing hstate =>
        refine absurd (.inr ⟨hstate, fun hnil => hne ?_⟩) hunread
        rw [hnil]
        rfl
  rw [h.toServer]
  exact .waiting ⟨hversion, f, hpath, hserves⟩ hstate rfl hp

end Send

/-! ## A push -/

inductive PushWanted (v : Version) (l : TransferLink) : Prop where
  | requested {b : BlockRef} {held : List UInt8} {size : ℕ} (hsize : size < 2 ^ 32)
      (h : PushRequested v b held size l)
  | unregistered {blockId : BlockId} {size : ℕ} {p : SessionPayload} (hsize : size < 2 ^ 32)
      (hversion : l.server.version = v) (hidle : l.server.state = .idle)
      (hclient : l.toClient = []) (hserver : l.toServer = [p])
      (hp : IsSent v (transferRequest blockId .push size) p.1)
      (hnone : l.manager.getServerBlock blockId = none)

def PushGoesOn (v : Version) (l : TransferLink) : Prop :=
  ∃ b held size, ∃ chunks : List (List UInt8),
    InPush v b held size (chunks.map PushMessage.chunk) l

def PushCloses (v : Version) (l : TransferLink) : Prop :=
  ∃ b held size, ∃ (chunks : List (List UInt8)) (discard : Bool) (crc : UInt32),
    InPush v b held size (chunks.map PushMessage.chunk ++ [.sentinel discard crc]) l

theorem processPushRequest_unregistered {blockId : BlockId} (size : ℕ)
    (hnone : c.manager.getServerBlock blockId = none) :
    Proceeds (.answer (transferStatus .error)) c (c.processPushRequest blockId size) := by
  have hlength : (transferStatus .error).length ≤ kMaxPayloadSizeInBytes := by
    rw [length_transferStatus]
    decide
  unfold processPushRequest
  rw [hnone]
  exact proceeds_reply hlength (fun _ hm => .answer hlength hm) .answer

theorem PushWanted.serverTurn (h : PushWanted v l) (turn : ServerTurn) :
    PushWanted v (l.serverTurn turn) := by
  cases h with
  | requested hsize h => exact .requested hsize (h.serverTurns hsize [turn])
  | @unregistered blockId size p hsize hversion hidle hclient hserver hp hnone =>
    rcases Nat.eq_zero_or_pos turn.arrived with hzero | hpos
    · rw [serverTurn_idle hidle (by rw [hzero, List.take_zero])]
      exact .unregistered hsize hversion hidle hclient hserver hp hnone
    · obtain ⟨hreceives, htaken⟩ := serverTurn_arrived hserver hpos
      have hupdate := updateSession_pushRequest (c := l.serverCtx turn) hidle hreceives hp
      have hrefuse := processPushRequest_unregistered (size % 2 ^ 32)
        (c := { l.serverCtx turn with receives := [] }.createPayload p.1) hnone
      rw [← hupdate] at hrefuse
      have hexpects : Expects v (.answer (transferStatus .error)) (l.serverTurn turn) := by
        refine Expects.proceed hversion ?_ rfl rfl hrefuse
        rw [hclient]
        exact .nil _
      have hrefused : PushRequested v 0 [] size (l.serverTurn turn) :=
        .inr (.inl ⟨hexpects, htaken hrefuse.receives⟩)
      exact .requested hsize hrefused

theorem AtRest.askPush (h : AtRest v l) (hblocks : ConsistentBlocks l.manager) {blockId : BlockId}
    {size : ℕ} (hsize : size < 2 ^ 32) (hp : IsSent v (transferRequest blockId .push size) p.1) :
    PushWanted v { l with toServer := l.toServer ++ [p] } := by
  rw [h.toServer]
  cases hblock : l.manager.getServerBlock blockId with
  | none => exact .unregistered hsize h.version h.idle h.toClient rfl hp hblock
  | some b =>
    exact .requested hsize (.inl ⟨h.version, h.idle, h.toClient, ⟨blockId, p, rfl, hp, hblock⟩,
      rfl, hblocks b⟩)

theorem PushWanted.receive (h : PushWanted v l) (hv : transferRefactorVersion ≤ v)
    (hto : l.toClient = p :: ps) :
    (IsSent v (transferStatus .error) p.1 ∧ AtRest v { l with toClient := ps }) ∨
    (IsSent v (transferStatus .success) p.1 ∧ PushGoesOn v { l with toClient := ps }) := by
  cases h with
  | @requested b held size hsize h =>
    rcases h with hasked | ⟨hrefused, hserver⟩ | hgranted
    · rw [hasked.toClient] at hto
      cases hto
    · obtain ⟨g, hsay, hexpects⟩ := hrefused.receive hto
      cases hsay with
      | answer _ hp => exact .inl ⟨hp, hexpects.atRest hserver⟩
    · obtain ⟨hp, hin⟩ := hgranted.receive hv hto
      exact .inr ⟨hp, b, held, size, [], hin⟩
  | unregistered _ _ _ hclient =>
    rw [hclient] at hto
    cases hto

theorem PushGoesOn.serverTurn (h : PushGoesOn v l) (turn : ServerTurn) :
    PushGoesOn v (l.serverTurn turn) := by
  obtain ⟨b, held, size, chunks, hin⟩ := h
  exact ⟨b, held, size, chunks, hin.serverTurn turn⟩

theorem PushCloses.serverTurn (h : PushCloses v l) (turn : ServerTurn) :
    PushCloses v (l.serverTurn turn) := by
  obtain ⟨b, held, size, chunks, discard, crc, hin⟩ := h
  exact ⟨b, held, size, chunks, discard, crc, hin.serverTurn turn⟩

theorem PushGoesOn.chunk (h : PushGoesOn v l) (hp : IsSent v (transferDataChunk data) p.1) :
    PushGoesOn v { l with toServer := l.toServer ++ [p] } := by
  obtain ⟨b, held, size, chunks, hin⟩ := h
  refine ⟨b, held, size, chunks ++ [data], ?_⟩
  rw [List.map_append]
  exact hin.send (.chunk data) hp

theorem PushGoesOn.sentinel (h : PushGoesOn v l)
    (hp : IsSent v (transferDataSentinel (if discard then .aborted else .success) crc) p.1) :
    PushCloses v { l with toServer := l.toServer ++ [p] } := by
  obtain ⟨b, held, size, chunks, hin⟩ := h
  exact ⟨b, held, size, chunks, discard, crc, hin.send (.sentinel discard crc) hp⟩

theorem InPush.status {b : BlockRef} {held : List UInt8} {size : ℕ} {messages : List PushMessage}
    (h : InPush v b held size messages l) (hto : l.toClient = p :: ps) :
    ps = [] ∧ l.server.state = .idle ∧ ∃ result data done waiting, messages = done ++ waiting ∧
      UnderWay v waiting l.toServer ∧ IsSent v (transferStatus result) p.1 ∧
      done.foldl (PushPhase.receive held size) (.receiving []) = .answered result data := by
  obtain ⟨done, waiting, hsplit, hunderWay, hat⟩ := h.progress
  rw [hto, List.map_cons] at hat
  generalize hphase : done.foldl (PushPhase.receive held size) (.receiving []) = phase at hat
  generalize hout : p.1 :: ps.map Subtype.val = out at hat
  cases hat with
  | receiving => cases hout
  | answering => cases hout
  | @answered result data answer hstate hanswer =>
    obtain ⟨hp, hps⟩ := List.cons.inj hout
    rw [h.version, ← hp] at hanswer
    exact ⟨List.map_eq_nil_iff.mp hps, hstate, result, data, done, waiting, hsplit, hunderWay,
      hanswer, hphase⟩

theorem PushGoesOn.receive (h : PushGoesOn v l) (hto : l.toClient = p :: ps)
    (c : SizedPayloadContainer) :
    (c.fill p.1).command = .transferStatus := by
  obtain ⟨b, held, size, chunks, hin⟩ := h
  obtain ⟨-, -, result, data, done, waiting, -, -, hp, -⟩ := hin.status hto
  exact hp.status_command c

theorem PushCloses.receive (h : PushCloses v l)
    (hto : l.toClient = p :: ps) : ∃ result, Result.Coded result ∧
      IsSent v (transferStatus result) p.1 ∧
      (result = .success ∨ result = .aborted → AtRest v { l with toClient := ps }) := by
  obtain ⟨b, held, size, chunks, discard, crc, hin⟩ := h
  obtain ⟨rfl, hidle, result, data, done, waiting, hsplit, hunderWay, hp, hphase⟩ :=
    hin.status hto
  have hcoded : Result.Coded result := by
    have hall : (done.foldl (PushPhase.receive held size) (.receiving [])).Coded :=
      coded_foldl done trivial
    rw [hphase] at hall
    exact hall
  refine ⟨result, hcoded, hp, fun hover => ⟨hin.version, hidle, ?_, rfl⟩⟩
  -- an answer before the sentinel was received says that there were too many bytes
  rcases List.eq_nil_or_concat' waiting with rfl | ⟨waiting', message, rfl⟩
  · exact List.forall₂_nil_left_iff.mp hunderWay
  · rw [← List.append_assoc] at hsplit
    obtain ⟨hchunks, -⟩ := List.append_inj' hsplit rfl
    obtain ⟨chunks', -, -, rfl, -⟩ := List.map_eq_append_iff.mp hchunks
    have hresult := foldl_chunks_answered chunks' hphase
    rcases hover with hover | hover
    · exact absurd (hresult.symm.trans hover) nofun
    · exact absurd (hresult.symm.trans hover) nofun

/-! ## A sentinel that went astray -/

inductive SaysNoStatus (session : TransferSession) (m : TransferManager) : Prop where
  | idle (hstate : session.state = .idle)
  | sentinel {result : Result} {crc : UInt32} (hstate : session.state = .sendPayload)
      (hscratch : HoldsPayload session (transferDataSentinel result crc))
  | stream {data : List UInt8} {crc : UInt32} {offset : ℕ}
      (hstate : session.state = .processPullTransfer)
      (hblock : ReadsBlock session m data crc offset)

structure Strayed (v : Version) (l : TransferLink) : Prop where
  version : l.server.version = v
  toServer : l.toServer = [] ∨ ∃ p discard crc, l.toServer = [p] ∧
    IsSent v (PushMessage.sentinel discard crc).payload p.1
  toClient : ∀ p ∈ l.toClient, ∀ c : SizedPayloadContainer, (c.fill p.1).command ≠ .transferStatus
  server : SaysNoStatus l.server l.manager

theorem Says.of_sentinel {result : Result} {ms : List (List UInt8)}
    (h : Path (Says v) (.answer (transferDataSentinel result crc)) ms f) :
    (∀ m ∈ ms, ∀ c : SizedPayloadContainer, (c.fill m).command ≠ .transferStatus) ∧
      (f = .answer (transferDataSentinel result crc) ∨ f = .nothing) := by
  cases h with
  | nil => exact ⟨nofun, .inl rfl⟩
  | cons hsay hrest =>
    cases hsay with
    | answer _ hm =>
      cases hrest with
      | nil =>
        refine ⟨fun m hmem c => ?_, .inr rfl⟩
        obtain rfl := List.mem_singleton.mp hmem
        rw [hm.sentinel_command]
        exact nofun
      | cons hsay => cases hsay

def NoStatus (v : Version) (f : Future) : Prop :=
  ∀ ms f', Path (Says v) f ms f' →
    (∀ m ∈ ms, ∀ c : SizedPayloadContainer, (c.fill m).command ≠ .transferStatus) ∧
      ∀ session m, Serves session m f' → SaysNoStatus session m

theorem noStatus_stream (data : List UInt8) (crc : UInt32) : NoStatus v (.stream data crc) := by
  intro ms f' hpath
  obtain ⟨hms, hend⟩ := path_stream hpath
  refine ⟨hms, fun session m hserves => ?_⟩
  rcases hend with ⟨data', rfl, -⟩ | ⟨rfl, -⟩
  · cases hserves with
    | stream hstate hblock => exact .stream hstate hblock
    | sentinel hstate hscratch => exact .sentinel hstate hscratch
  · cases hserves with
    | nothing hstate => exact .idle hstate

theorem noStatus_sentinel (result : Result) (crc : UInt32) :
    NoStatus v (.answer (transferDataSentinel result crc)) := by
  intro ms f' hpath
  obtain ⟨hms, hend⟩ := Says.of_sentinel hpath
  refine ⟨hms, fun session m hserves => ?_⟩
  rcases hend with rfl | rfl
  · cases hserves with
    | answer hstate hscratch => exact .sentinel hstate hscratch
  · cases hserves with
    | nothing hstate => exact .idle hstate

theorem Strayed.of_proceeds (h : Strayed v l) (hversion : c.session.version = l.server.version)
    (hsent : c.sent = []) (hproceeds : Proceeds f c (l.serverCtx turn).updateSession)
    (hno : NoStatus v f)
    (hserver : (l.serverTurn turn).toServer = [] ∨ (l.serverTurn turn).toServer = l.toServer) :
    Strayed v (l.serverTurn turn) := by
  obtain ⟨ms, f', hms, hpath, hserves⟩ := hproceeds.sent
  rw [hsent, List.nil_append] at hms
  rw [hversion, h.version] at hpath
  obtain ⟨hspoken, hsession⟩ := hno ms f' hpath
  refine ⟨(hproceeds.version.trans hversion).trans h.version, ?_, fun p hp c => ?_,
    hsession _ _ hserves⟩
  · rcases hserver with hserver | hserver
    · exact .inl hserver
    · rw [hserver]
      exact h.toServer
  · rcases List.mem_append.mp hp with hp | hp
    · exact h.toClient p hp c
    · rw [hms] at hp
      refine hspoken p.1 ?_ c
      rw [← map_toSessionPayload hpath]
      exact List.mem_map_of_mem hp

theorem serverTurn_nothing (harrived : l.toServer.take turn.arrived = []) :
    (l.serverCtx turn).receives = [] ∧ (l.serverTurn turn).toServer = l.toServer := by
  refine ⟨?_, ?_⟩
  · show (l.toServer.take turn.arrived).map ReceiveAnswer.payload = []
    rw [harrived]
    rfl
  · show l.toServer.drop ((l.toServer.take turn.arrived).length - _) = l.toServer
    rw [harrived, List.length_nil, Nat.zero_sub, List.drop_zero]

theorem Strayed.serverTurn_silent (h : Strayed v l)
    (harrived : l.toServer.take turn.arrived = []) : Strayed v (l.serverTurn turn) := by
  obtain ⟨hreceives, hserver⟩ := serverTurn_nothing harrived
  cases h.server with
  | idle hstate =>
    rw [serverTurn_idle hstate harrived]
    exact h
  | sentinel hstate hscratch =>
    have hproceeds := proceeds_updateSession hreceives (.answer hstate hscratch)
    exact h.of_proceeds (c := l.serverCtx turn) rfl rfl hproceeds (noStatus_sentinel _ _)
      (.inr hserver)
  | stream hstate hblock =>
    have hproceeds := proceeds_updateSession hreceives (.stream hstate hblock)
    exact h.of_proceeds (c := l.serverCtx turn) rfl rfl hproceeds (noStatus_stream _ _)
      (.inr hserver)

theorem Strayed.serverTurn (h : Strayed v l) (turn : ServerTurn) :
    Strayed v (l.serverTurn turn) := by
  rcases h.toServer with hnone | ⟨p, discard, crc, hserver, hp⟩
  · exact h.serverTurn_silent (by rw [hnone, List.take_nil])
  · rcases Nat.eq_zero_or_pos turn.arrived with hzero | hpos
    · exact h.serverTurn_silent (by rw [hzero, List.take_zero])
    · obtain ⟨hreceives, htaken⟩ := serverTurn_arrived hserver hpos
      cases h.server with
      | idle hstate =>
        have hupdate := updateSession_idle (c := l.serverCtx turn) hstate hreceives
          (by rw [show (l.serverCtx turn).session.version = v from h.version]; exact hp)
        have hserver' : (l.serverTurn turn).server = (l.serverCtx turn).updateSession.session := rfl
        rw [hupdate] at hserver'
        refine ⟨?_, .inl (htaken (by rw [hupdate]; rfl)), fun q hq => h.toClient q ?_, .idle ?_⟩
        · rw [hserver']
          exact h.version
        · have hclient : (l.serverTurn turn).toClient =
              l.toClient ++ (l.serverCtx turn).updateSession.sent.map toSessionPayload := rfl
          rw [hupdate] at hclient
          rw [hclient] at hq
          exact (List.append_nil l.toClient) ▸ hq
        · rw [hserver']
          exact hstate
      | @sentinel result crc' hstate hscratch =>
        have hproceeds : Proceeds (.answer (transferDataSentinel result crc'))
            (l.serverCtx turn) (l.serverCtx turn).updateSession := by
          unfold TransferCtx.updateSession
          rw [show (l.serverCtx turn).session.state = _ from hstate]
          exact proceeds_sendScratch hscratch (fun _ hm => .answer hscratch.1 hm)
            (.answer hstate hscratch)
        refine h.of_proceeds rfl rfl hproceeds (noStatus_sentinel _ _) (.inr ?_)
        show l.toServer.drop ((l.toServer.take turn.arrived).length -
          (l.serverCtx turn).updateSession.receives.length) = l.toServer
        rw [hproceeds.receives]
        show l.toServer.drop ((l.toServer.take turn.arrived).length -
          ((l.toServer.take turn.arrived).map ReceiveAnswer.payload).length) = l.toServer
        rw [List.length_map, Nat.sub_self, List.drop_zero]
      | stream hstate hblock =>
        have hproceeds := proceeds_sentinel_answer
          (if ((l.serverCtx turn).session.scratchPayload.fill p.1).command =
            TransferMessage.transferStatus then .aborted else .error) 0
          ({ l.serverCtx turn with receives := [] }.createPayload p.1)
        rw [← processPullSession_heard hreceives] at hproceeds
        have hupdate : (l.serverCtx turn).updateSession =
            (l.serverCtx turn).processPullSession := by
          unfold TransferCtx.updateSession
          rw [show (l.serverCtx turn).session.state = _ from hstate]
        rw [← hupdate] at hproceeds
        exact h.of_proceeds rfl rfl hproceeds (noStatus_sentinel _ _)
          (.inl (htaken hproceeds.receives))

theorem Strayed.receive (h : Strayed v l) (hto : l.toClient = p :: ps) (c : SizedPayloadContainer) :
    (c.fill p.1).command ≠ .transferStatus :=
  h.toClient p (by rw [hto]; exact List.mem_cons_self) c

theorem AtRest.stray (h : AtRest v l)
    (hp : IsSent v (transferDataSentinel (if discard then .aborted else .success) crc) p.1) :
    Strayed v { l with toServer := l.toServer ++ [p] } := by
  refine ⟨h.version, .inr ⟨p, discard, crc, ?_, hp⟩, ?_, .idle h.idle⟩
  · show l.toServer ++ [p] = [p]
    rw [h.toServer]
    rfl
  · show ∀ q ∈ l.toClient, _
    rw [h.toClient]
    exact nofun

theorem Pulling.stray (h : Pulling v data crc l) {crc' : UInt32}
    (hp : IsSent v (transferDataSentinel (if discard then .aborted else .success) crc') p.1) :
    Strayed v { l with toServer := l.toServer ++ [p] } := by
  obtain ⟨hversion, f, hpath, hserves⟩ := h.expects
  obtain ⟨hspoken, hsession⟩ := noStatus_stream data crc _ f hpath
  refine ⟨hversion, .inr ⟨p, discard, crc', ?_, hp⟩, fun q hq => hspoken q.1 ?_,
    hsession _ _ hserves⟩
  · show l.toServer ++ [p] = [p]
    rw [h.toServer]
    rfl
  · exact List.mem_map_of_mem hq

/-- The server has a push of the client: it is receiving, or its answer is to be sent or under
way. -/
def PushUnderWay (l : TransferLink) : Prop :=
  l.server.state = .receivePushTransferData ∨
    (l.server.state = .sendPayload ∧ l.server.scratchPayload.command = .transferStatus) ∨
    (l.server.state = .idle ∧
      ∃ p ∈ l.toClient, (SizedPayloadContainer.zero.fill p.1).command = .transferStatus)

theorem HoldsPayload.sentinel_command {session : TransferSession} {result : Result}
    (h : HoldsPayload session (transferDataSentinel result crc)) :
    session.scratchPayload.command = .transferDataSentinel := by
  obtain ⟨-, c, hscratch⟩ := h
  rw [hscratch, transferDataSentinel, List.append_assoc]
  exact command_fill c .transferDataSentinel _

theorem Pulling.not_pushUnderWay (h : Pulling v data crc l) :
    ¬ PushUnderWay l := by
  obtain ⟨-, f, hpath, hserves⟩ := h.expects
  obtain ⟨hspoken, hsession⟩ := noStatus_stream data crc _ f hpath
  rintro (hstate | ⟨hstate, hcommand⟩ | ⟨-, p, hp, hcommand⟩)
  · cases hsession _ _ hserves with
    | idle hstate' => exact absurd (hstate.symm.trans hstate') nofun
    | sentinel hstate' => exact absurd (hstate.symm.trans hstate') nofun
    | stream hstate' => exact absurd (hstate.symm.trans hstate') nofun
  · cases hsession _ _ hserves with
    | idle hstate' => exact absurd (hstate.symm.trans hstate') nofun
    | sentinel _ hscratch =>
      rw [hscratch.sentinel_command] at hcommand
      cases hcommand
    | stream hstate' => exact absurd (hstate.symm.trans hstate') nofun
  · exact hspoken p.1 (List.mem_map_of_mem hp) _ hcommand

end DevDriver.Analysis
