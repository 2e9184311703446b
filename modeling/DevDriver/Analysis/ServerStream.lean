import DevDriver.Model.TransferLink
import DevDriver.Analysis.TransferMessages
import DevDriver.Analysis.TransferSteps

/-!
# What a server session is still going to send

The state of a server session says what it will send if it hears nothing from the client: the
header, the data and the sentinel of a pull, or one answer.
-/

namespace DevDriver.Analysis

open Library Model TransferCtx

/-! ## Futures -/

def pullHeader (v : Version) (size : ℕ) : List UInt8 :=
  if transferRefactorVersion ≤ v then transferDataHeaderV2 size
  else transferDataHeader .success size

theorem length_transferDataSentinel (r : Result) (crc : UInt32) :
    (transferDataSentinel r crc).length = 12 := by
  simp only [transferDataSentinel, List.length_append, length_leBytes]

theorem length_transferStatus (r : Result) : (transferStatus r).length = 8 := by
  simp only [transferStatus, List.length_append, length_leBytes]

variable {data : List UInt8}

theorem length_transferDataChunk_le (h : data.length ≤ kMaxTransferDataChunkSize) :
    (transferDataChunk data).length ≤ kMaxPayloadSizeInBytes := by
  have hmax : kMaxTransferDataChunkSize = kMaxPayloadSizeInBytes - 4 := rfl
  have hfour : 4 ≤ kMaxPayloadSizeInBytes := by decide
  rw [transferDataChunk, List.length_append, length_leBytes]
  omega

theorem length_pullHeader_le (v : Version) (size : ℕ) :
    (pullHeader v size).length ≤ kMaxPayloadSizeInBytes := by
  have h : (pullHeader v size).length ≤ 12 := by
    unfold pullHeader
    split <;> simp [transferDataHeaderV2, transferDataHeader]
  exact h.trans (by decide)

/-- What a session is still going to send: nothing, the header and the data of a pull, the rest
of its data and the sentinel, one answer, or the answer to a push that then goes on. -/
inductive Future where
  | nothing
  | header (data : List UInt8) (crc : UInt32)
  | stream (data : List UInt8) (crc : UInt32)
  | answer (data : List UInt8)
  | accept
  | receiving

/-- The messages that lead from one future to the next. -/
inductive Says (v : Version) : Future → List UInt8 → Future → Prop where
  | header {data m : List UInt8} {crc : UInt32} (h : IsSent v (pullHeader v data.length) m) :
      Says v (.header data crc) m (.stream data crc)
  | chunk {data m : List UInt8} {crc : UInt32} (hdata : data ≠ [])
      (h : IsSent v (transferDataChunk (data.take kMaxTransferDataChunkSize)) m) :
      Says v (.stream data crc) m (.stream (data.drop kMaxTransferDataChunkSize) crc)
  | sentinel {m : List UInt8} {crc : UInt32}
      (h : IsSent v (transferDataSentinel .success crc) m) : Says v (.stream [] crc) m .nothing
  | answer {data m : List UInt8} (hdata : data.length ≤ kMaxPayloadSizeInBytes)
      (h : IsSent v data m) : Says v (.answer data) m .nothing
  | accept {m : List UInt8} (h : IsSent v (transferStatus .success) m) :
      Says v .accept m .receiving

theorem Says.length_le {v : Version} {f f' : Future} {m : List UInt8} (h : Says v f m f') :
    m.length ≤ kMaxPayloadSizeInBytes := by
  cases h with
  | header h => exact h.length_le (length_pullHeader_le _ _)
  | chunk _ h => exact h.length_le (length_transferDataChunk_le (List.length_take_le _ _))
  | sentinel h => exact h.length_le (by rw [length_transferDataSentinel]; decide)
  | answer hdata h => exact h.length_le hdata
  | accept h => exact h.length_le (by rw [length_transferStatus]; decide)

structure ReadsBlock (session : TransferSession) (m : TransferManager) (data : List UInt8)
    (crc : UInt32) (offset : ℕ) : Prop where
  held : ∃ b, session.pBlock = some b ∧ (m.blocks b).getBlockData.take data.length = data
  totalBytes : session.totalBytes = data.length
  bytesTransferred : session.bytesTransferred = offset
  offset_le : offset ≤ data.length
  crc32 : session.crc32 = crc

def HoldsPayload (session : TransferSession) (data : List UInt8) : Prop :=
  data.length ≤ kMaxPayloadSizeInBytes ∧
    ∃ c : SizedPayloadContainer, session.scratchPayload = c.fill data

/-- What a server session is still to say, by its state. -/
inductive Serves (session : TransferSession) (m : TransferManager) : Future → Prop where
  | nothing (hstate : session.state = .idle) : Serves session m .nothing
  | header {data : List UInt8} {crc : UInt32} (hstate : session.state = .startPullTransfer)
      (hblock : ReadsBlock session m data crc 0)
      (hscratch : HoldsPayload session (pullHeader session.version data.length)) :
      Serves session m (.header data crc)
  | stream {data : List UInt8} {crc : UInt32} {offset : ℕ}
      (hstate : session.state = .processPullTransfer)
      (hblock : ReadsBlock session m data crc offset) :
      Serves session m (.stream (data.drop offset) crc)
  | sentinel {crc : UInt32} (hstate : session.state = .sendPayload)
      (hscratch : HoldsPayload session (transferDataSentinel .success crc)) :
      Serves session m (.stream [] crc)
  | answer {data : List UInt8} (hstate : session.state = .sendPayload)
      (hscratch : HoldsPayload session data) : Serves session m (.answer data)
  | accept (hstate : session.state = .startPushTransfer)
      (hscratch : HoldsPayload session (transferStatus .success)) : Serves session m .accept
  | receiving (hstate : session.state = .receivePushTransferData) : Serves session m .receiving

structure Proceeds (f : Future) (c c' : TransferCtx) : Prop where
  version : c'.session.version = c.session.version
  receives : c'.receives = c.receives
  sent : ∃ ms f', c'.sent = c.sent ++ ms ∧ Path (Says c.session.version) f ms f' ∧
    Serves c'.session c'.manager f'

variable {c : TransferCtx}

theorem Proceeds.refl {f : Future} (h : Serves c.session c.manager f) :
    Proceeds f c c := ⟨rfl, rfl, [], f, (List.append_nil _).symm, .nil f, h⟩

theorem Proceeds.after {f : Future} {c₁ c' : TransferCtx} (h : Proceeds f c₁ c')
    (hversion : c₁.session.version = c.session.version) (hreceives : c₁.receives = c.receives)
    (hsent : c₁.sent = c.sent) : Proceeds f c c' := by
  obtain ⟨ms, f', hms, hpath, hserves⟩ := h.sent
  refine ⟨h.version.trans hversion, h.receives.trans hreceives, ms, f', ?_, ?_, hserves⟩
  · rw [hms, hsent]
  · rw [← hversion]
    exact hpath

theorem sendPayload_sent (c : TransferCtx) : c.sendPayload.2.sent =
    if c.sendPayload.1 = .success then
      c.sent ++ [c.session.scratchPayload.sentBytes c.session.version]
    else c.sent := by
  unfold sendPayload
  split <;> rfl

theorem sendPayload_receives (c : TransferCtx) : c.sendPayload.2.receives = c.receives := by
  unfold sendPayload
  split <;> rfl

theorem HoldsPayload.isSent {session : TransferSession} (h : HoldsPayload session data) :
    IsSent session.version data (session.scratchPayload.sentBytes session.version) := by
  obtain ⟨hdata, c, hscratch⟩ := h
  rw [hscratch]
  exact isSent_sentBytes hdata _ _

theorem path_sendPayload {f g : Future} (hholds : HoldsPayload c.session data)
    (hsay : ∀ m, IsSent c.session.version data m → Says c.session.version f m g)
    (hsuccess : c.sendPayload.1 = .success) : ∃ ms, c.sendPayload.2.sent = c.sent ++ ms ∧
      Path (Says c.session.version) f ms g := by
  refine ⟨_, ?_, .single (hsay _ hholds.isSent)⟩
  rw [sendPayload_sent, if_pos hsuccess]

theorem proceeds_sendScratch {f : Future} (hholds : HoldsPayload c.session data)
    (hsay : ∀ m, IsSent c.session.version data m → Says c.session.version f m .nothing)
    (hserves : Serves c.session c.manager f) :
    Proceeds f c c.sendScratchPayloadAndMoveToIdle := by
  have hkeeps := keepsBlocks_sendPayload c
  have hsession := sendPayload_session c
  have hversion : c.sendPayload.2.session.version = c.session.version := by rw [hsession]
  unfold sendScratchPayloadAndMoveToIdle
  simp only
  split
  · rename_i hsuccess
    obtain ⟨ms, hsent, hpath⟩ := path_sendPayload hholds hsay hsuccess
    exact ⟨hversion, sendPayload_receives c, ms, .nothing, hsent, hpath, .nothing rfl⟩
  · rename_i hfail
    refine ⟨hversion, sendPayload_receives c, [], f, ?_, .nil f, ?_⟩
    · rw [sendPayload_sent, if_neg hfail, List.append_nil]
    · rw [hsession, hkeeps.manager]
      exact hserves

theorem proceeds_reply {f : Future}
    (hdata : data.length ≤ kMaxPayloadSizeInBytes)
    (hsay : ∀ m, IsSent c.session.version data m → Says c.session.version f m .nothing)
    (hserves : ∀ {session : TransferSession} {m : TransferManager},
      session.state = .sendPayload → HoldsPayload session data → Serves session m f) :
    Proceeds f c (c.reply data) := by
  have hholds : HoldsPayload ((c.createPayload data).setState .sendPayload).session data :=
    ⟨hdata, _, rfl⟩
  have hproceeds := proceeds_sendScratch hholds hsay (hserves rfl hholds)
  exact hproceeds.after rfl rfl rfl

theorem releaseBlock_sent (c : TransferCtx) : c.releaseBlock.sent = c.sent := by
  unfold releaseBlock onHeldBlock
  split <;> rfl

theorem releaseBlock_receives (c : TransferCtx) : c.releaseBlock.receives = c.receives := by
  unfold releaseBlock onHeldBlock
  split <;> rfl

theorem releaseBlock_version (c : TransferCtx) :
    c.releaseBlock.session.version = c.session.version := by
  have h := onHeldBlock_session .endTransfer c
  show (c.onHeldBlock .endTransfer).session.version = _
  rw [h]

theorem proceeds_sendSentinel (c : TransferCtx) (crc : UInt32) :
    Proceeds (.stream [] crc) c (c.sendSentinel .success crc) := by
  have hlength : (transferDataSentinel .success crc).length ≤ kMaxPayloadSizeInBytes := by
    rw [length_transferDataSentinel]
    decide
  have hreply := proceeds_reply (c := c.releaseBlock) (f := .stream [] crc) hlength
    (fun _ h => .sentinel h) .sentinel
  exact hreply.after (releaseBlock_version c) (releaseBlock_receives c) (releaseBlock_sent c)

/-! ## The data of a pull -/

variable {crc : UInt32} {turn : ServerTurn} {offset : ℕ}

theorem ReadsBlock.slice_blockData (h : ReadsBlock c.session c.manager data crc offset) :
    slice c.blockData c.session.bytesTransferred (min kMaxTransferDataChunkSize
      (c.session.totalBytes - c.session.bytesTransferred)) =
        (data.drop offset).take kMaxTransferDataChunkSize := by
  obtain ⟨b, hblock, hdata⟩ := h.held
  unfold blockData slice
  rw [hblock, h.totalBytes, h.bytesTransferred]
  conv_rhs => rw [← hdata, List.drop_take, List.take_take]

theorem sendChunk_stream (h : ReadsBlock c.session c.manager data crc offset)
    (hlt : offset < data.length) {chunk : List UInt8}
    (hchunk : (data.drop offset).take kMaxTransferDataChunkSize = chunk)
    (hsuccess : (c.createPayload (transferDataChunk chunk)).sendPayload.1 = .success) :
    let c' := (c.createPayload (transferDataChunk chunk)).sendPayload.2.advance
      (min kMaxTransferDataChunkSize (data.length - offset))
    ∃ ms, c'.sent = c.sent ++ ms ∧ c'.session.version = c.session.version ∧
      c'.session.state = c.session.state ∧
      Path (Says c.session.version) (.stream (data.drop offset) crc) ms (.stream
        (data.drop (offset + min kMaxTransferDataChunkSize (data.length - offset))) crc) ∧
      ReadsBlock c'.session c'.manager data crc
        (offset + min kMaxTransferDataChunkSize (data.length - offset)) := by
  intro c'
  have hsession := sendPayload_session (c.createPayload (transferDataChunk chunk))
  have hmanager := (keepsBlocks_sendPayload (c.createPayload (transferDataChunk chunk))).manager
  have hholds : HoldsPayload (c.createPayload (transferDataChunk chunk)).session
      (transferDataChunk chunk) := by
    refine ⟨length_transferDataChunk_le ?_, _, rfl⟩
    rw [← hchunk]
    exact List.length_take_le _ _
  have hnext : data.drop offset ≠ [] := by
    rw [ne_eq, List.drop_eq_nil_iff]
    omega
  obtain ⟨ms, hsent, hpath⟩ := path_sendPayload
    (f := .stream (data.drop offset) crc)
    (g := .stream ((data.drop offset).drop kMaxTransferDataChunkSize) crc) hholds
    (fun m hm => .chunk hnext (hchunk ▸ hm)) hsuccess
  -- what remains is the data after the chunk
  have hrest : (data.drop offset).drop kMaxTransferDataChunkSize =
      data.drop (offset + min kMaxTransferDataChunkSize (data.length - offset)) := by
    rw [List.drop_drop]
    rcases Nat.le_total kMaxTransferDataChunkSize (data.length - offset) with hle | hle
    · rw [Nat.min_eq_left hle]
    · rw [Nat.min_eq_right hle, List.drop_eq_nil_of_le, List.drop_eq_nil_of_le]
      · omega
      · omega
  rw [hrest] at hpath
  have hc' : c'.session =
      { (c.createPayload (transferDataChunk chunk)).sendPayload.2.session with
        bytesTransferred :=
          (c.createPayload (transferDataChunk chunk)).sendPayload.2.session.bytesTransferred +
            min kMaxTransferDataChunkSize (data.length - offset) } := rfl
  rw [hsession] at hc'
  refine ⟨ms, hsent, ?_, ?_, hpath, ?_⟩
  · rw [hc']
    rfl
  · rw [hc']
    rfl
  · rw [hc', show c'.manager = c.manager from hmanager]
    exact ⟨h.held, h.totalBytes, congrArg (· + _) h.bytesTransferred, by omega, h.crc32⟩

theorem sendChunks_stream (rounds : ℕ) (h : ReadsBlock c.session c.manager data crc offset) :
    ∃ ms offset', (c.sendChunks rounds).sent = c.sent ++ ms ∧
      (c.sendChunks rounds).session.version = c.session.version ∧
      Path (Says c.session.version) (.stream (data.drop offset) crc) ms
        (.stream (data.drop offset') crc) ∧
      ReadsBlock (c.sendChunks rounds).session (c.sendChunks rounds).manager data crc offset' := by
  induction rounds generalizing c offset with
  | zero => exact ⟨[], offset, (List.append_nil _).symm, rfl, .nil _, h⟩
  | succ rounds ih =>
    unfold sendChunks
    simp only
    by_cases hmore : c.session.bytesTransferred < c.session.totalBytes
    · rw [if_pos hmore, h.slice_blockData]
      have hlt : offset < data.length := by
        rw [← h.bytesTransferred, ← h.totalBytes]
        exact hmore
      have hbytes : min kMaxTransferDataChunkSize
          (c.session.totalBytes - c.session.bytesTransferred) =
            min kMaxTransferDataChunkSize (data.length - offset) := by
        rw [h.totalBytes, h.bytesTransferred]
      rw [hbytes]
      generalize hchunk : (data.drop offset).take kMaxTransferDataChunkSize = chunk
      split
      · rename_i hsuccess
        obtain ⟨ms, hsent, hversion, -, hpath, hreads⟩ := sendChunk_stream h hlt hchunk hsuccess
        obtain ⟨ms', offset', hsent', hversion', hpath', hreads'⟩ := ih hreads
        rw [hversion] at hpath' hversion'
        refine ⟨ms ++ ms', offset', ?_, hversion', hpath.append hpath', hreads'⟩
        rw [hsent', hsent, List.append_assoc]
      · rename_i hfail
        have hsession := sendPayload_session (c.createPayload (transferDataChunk chunk))
        have hmanager :=
          (keepsBlocks_sendPayload (c.createPayload (transferDataChunk chunk))).manager
        refine ⟨[], offset, ?_, ?_, .nil _, ?_⟩
        · rw [sendPayload_sent, if_neg hfail, List.append_nil]
          rfl
        · rw [hsession]
          rfl
        · rw [hsession, hmanager]
          exact ⟨h.held, h.totalBytes, h.bytesTransferred, h.offset_le, h.crc32⟩
    · rw [if_neg hmore]
      exact ⟨[], offset, (List.append_nil _).symm, rfl, .nil _, h⟩

theorem sendChunks_receives (rounds : ℕ) (c : TransferCtx) :
    (c.sendChunks rounds).receives = c.receives := by
  induction rounds generalizing c with
  | zero => rfl
  | succ rounds ih =>
    unfold sendChunks
    simp only
    split
    · split
      · exact (ih _).trans (sendPayload_receives _)
      · exact sendPayload_receives _
    · rfl

/-! ## An update that hears nothing -/

theorem receivePayload_nil (h : c.receives = []) :
    c.receivePayload = (.notReady, c) := by
  unfold receivePayload
  rw [h]

theorem receivePayload_cons {p : SessionPayload} {receives : List ReceiveAnswer}
    (h : c.receives = .payload p :: receives) :
    c.receivePayload = (.success, { c with receives := receives }.createPayload p.1) := by
  unfold receivePayload
  rw [h]

theorem createPayload_scratchPayload (bytes : List UInt8) (c : TransferCtx) :
    (c.createPayload bytes).session.scratchPayload = c.session.scratchPayload.fill bytes := rfl

theorem updateSession_received {p : SessionPayload} {receives : List ReceiveAnswer}
    (hidle : c.session.state = .idle) (h : c.receives = .payload p :: receives) :
    c.updateSession = ({ c with receives := receives }.createPayload p.1).processPayload := by
  unfold TransferCtx.updateSession
  rw [hidle]
  simp only [receivePayload_cons h, if_true]

theorem proceeds_processPullSession (hreceived : c.receivePayload = (.notReady, c))
    (hstate : c.session.state = .processPullTransfer)
    (h : ReadsBlock c.session c.manager data crc offset) :
    Proceeds (.stream (data.drop offset) crc) c c.processPullSession := by
  unfold processPullSession
  rw [hreceived]
  simp only [if_true]
  obtain ⟨ms, offset', hsent, hversion, hpath, hreads⟩ := sendChunks_stream
    (c.session.totalBytes - c.session.bytesTransferred) h
  have hstate' := (sendChunks_state
    (c.session.totalBytes - c.session.bytesTransferred) c).trans hstate
  split
  · rename_i hend
    have hoffset : offset' = data.length := by
      rw [← hreads.bytesTransferred, ← hreads.totalBytes]
      exact hend
    rw [hreads.crc32]
    have hsentinel := proceeds_sendSentinel
      (c.sendChunks (c.session.totalBytes - c.session.bytesTransferred)) crc
    obtain ⟨ms', f', hsent', hpath', hserves⟩ := hsentinel.sent
    rw [hversion] at hpath'
    rw [hoffset, List.drop_length] at hpath
    refine ⟨hsentinel.version.trans hversion,
      hsentinel.receives.trans (sendChunks_receives _ _), ms ++ ms', f', ?_,
      hpath.append hpath', hserves⟩
    rw [hsent', hsent, List.append_assoc]
  · exact ⟨hversion, sendChunks_receives _ _, ms, _, hsent, hpath, .stream hstate' hreads⟩

theorem proceeds_sendPullTransferHeader (hreceives : c.receives = [])
    (hstate : c.session.state = .startPullTransfer) (h : ReadsBlock c.session c.manager data crc 0)
    (hscratch : HoldsPayload c.session (pullHeader c.session.version data.length)) :
    Proceeds (.header data crc) c c.sendPullTransferHeader := by
  have hsession := sendPayload_session c
  have hmanager := (keepsBlocks_sendPayload c).manager
  unfold sendPullTransferHeader
  simp only
  split
  · rename_i hsuccess
    obtain ⟨ms, hsent, hpath⟩ := path_sendPayload (f := .header data crc)
      (g := .stream data crc) hscratch (fun m hm => .header hm) hsuccess
    have hreads : ReadsBlock (c.sendPayload.2.setState .processPullTransfer).session
        (c.sendPayload.2.setState .processPullTransfer).manager data crc 0 := by
      unfold setState
      rw [hsession, hmanager]
      exact ⟨h.held, h.totalBytes, h.bytesTransferred, h.offset_le, h.crc32⟩
    have hnothing : (c.sendPayload.2.setState .processPullTransfer).receives = [] :=
      (sendPayload_receives c).trans hreceives
    have hrest := proceeds_processPullSession (receivePayload_nil hnothing) rfl hreads
    obtain ⟨ms', f', hsent', hpath', hserves⟩ := hrest.sent
    have hversion : (c.sendPayload.2.setState .processPullTransfer).session.version =
        c.session.version := by
      show c.sendPayload.2.session.version = _
      rw [hsession]
    rw [hversion, List.drop_zero] at hpath'
    refine ⟨hrest.version.trans hversion, hrest.receives.trans (sendPayload_receives c),
      ms ++ ms', f', ?_, hpath.append hpath', hserves⟩
    rw [hsent']
    show c.sendPayload.2.sent ++ ms' = _
    rw [hsent, List.append_assoc]
  · rename_i hfail
    refine ⟨?_, sendPayload_receives c, [], .header data crc, ?_, .nil _, ?_⟩
    · rw [hsession]
    · rw [sendPayload_sent, if_neg hfail, List.append_nil]
    · rw [hsession, hmanager]
      exact .header hstate h hscratch

theorem proceeds_startPushTransferSession (hstate : c.session.state = .startPushTransfer)
    (hscratch : HoldsPayload c.session (transferStatus .success)) :
    Proceeds .accept c c.startPushTransferSession := by
  have hsession := sendPayload_session c
  have hversion : c.sendPayload.2.session.version = c.session.version := by rw [hsession]
  unfold startPushTransferSession
  simp only
  split
  · rename_i hsuccess
    obtain ⟨ms, hsent, hpath⟩ := path_sendPayload (f := .accept) (g := .receiving) hscratch
      (fun m hm => .accept hm) hsuccess
    exact ⟨hversion, sendPayload_receives c, ms, .receiving, hsent, hpath, .receiving rfl⟩
  · rename_i hfail
    refine ⟨hversion, sendPayload_receives c, [], .accept, ?_, .nil _, ?_⟩
    · rw [sendPayload_sent, if_neg hfail, List.append_nil]
    · rw [hsession]
      exact .accept hstate hscratch

theorem proceeds_updateSession {f : Future} (hreceives : c.receives = [])
    (h : Serves c.session c.manager f) : Proceeds f c c.updateSession := by
  have hreceived := receivePayload_nil hreceives
  unfold TransferCtx.updateSession
  cases h with
  | nothing hstate =>
    rw [hstate]
    simp only [hreceived]
    exact .refl (.nothing hstate)
  | header hstate hblock hscratch =>
    rw [hstate]
    exact proceeds_sendPullTransferHeader hreceives hstate hblock hscratch
  | stream hstate hblock =>
    rw [hstate]
    exact proceeds_processPullSession hreceived hstate hblock
  | sentinel hstate hscratch =>
    rw [hstate]
    exact proceeds_sendScratch hscratch (fun _ hm => .sentinel hm) (.sentinel hstate hscratch)
  | answer hstate hscratch =>
    rw [hstate]
    exact proceeds_sendScratch hscratch (fun _ hm => .answer hscratch.1 hm)
      (.answer hstate hscratch)
  | accept hstate hscratch =>
    rw [hstate]
    exact proceeds_startPushTransferSession hstate hscratch
  | receiving hstate =>
    rw [hstate]
    simp only [receivePushTransferData, receivePushLoop, hreceived]
    exact .refl (.receiving hstate)

def ServerBlock.Sized (b : ServerBlock) : Prop := b.blockDataSize ≤ b.chunks.length

theorem proceeds_processPullRequest {blockId : BlockId} {b : BlockRef} (hreceives : c.receives = [])
    (hidle : c.session.state = .idle) (hblock : c.manager.getServerBlock blockId = some b)
    (hclosed : (c.manager.blocks b).isClosed = true)
    (hsized : ServerBlock.Sized (c.manager.blocks b)) :
    Proceeds (.header (c.manager.blocks b).data (c.manager.blocks b).crc32) c
      (c.processPullRequest blockId) := by
  have hlength : (c.manager.blocks b).data.length = (c.manager.blocks b).blockDataSize := by
    rw [ServerBlock.data, List.length_take, Nat.min_eq_left hsized]
  unfold processPullRequest
  rw [hblock]
  simp only [hclosed, hidle, and_self, if_true]
  -- the session as it was when the header was created
  generalize hc : ((c.takeBlock b (c.manager.blocks b).blockDataSize
    (c.manager.blocks b).crc32).setState .startPullTransfer).createPayload
      (pullHeader c.session.version (c.manager.blocks b).blockDataSize) = c₁
  show Proceeds _ c (((c.takeBlock b (c.manager.blocks b).blockDataSize
    (c.manager.blocks b).crc32).setState .startPullTransfer).createPayload
      (pullHeader c.session.version (c.manager.blocks b).blockDataSize)).sendPullTransferHeader
  rw [hc]
  have hversion : c₁.session.version = c.session.version := by
    rw [← hc]
    rfl
  have hreads : ReadsBlock c₁.session c₁.manager (c.manager.blocks b).data
      (c.manager.blocks b).crc32 0 := by
    rw [← hc]
    refine ⟨⟨b, rfl, ?_⟩, hlength.symm, rfl, Nat.zero_le _, rfl⟩
    show (Function.update c.manager.blocks b _ b).getBlockData.take _ = _
    rw [Function.update_self, hlength]
    show ((c.manager.blocks b).getBlockData).take _ = _
    unfold ServerBlock.getBlockData ServerBlock.data
    split
    · rfl
    · rename_i hzero
      rw [Nat.eq_zero_of_not_pos hzero]
      rfl
  have hholds : HoldsPayload c₁.session
      (pullHeader c₁.session.version (c.manager.blocks b).data.length) := by
    refine ⟨length_pullHeader_le _ _, (c.takeBlock b (c.manager.blocks b).blockDataSize
      (c.manager.blocks b).crc32).session.scratchPayload, ?_⟩
    rw [hversion, hlength, ← hc]
    rfl
  have hstate : c₁.session.state = .startPullTransfer := by
    rw [← hc]
    rfl
  have hnothing : c₁.receives = [] := by
    rw [← hc]
    exact hreceives
  have hproceeds := proceeds_sendPullTransferHeader hnothing hstate hreads hholds
  refine hproceeds.after hversion ?_ ?_
  · rw [← hc]
    rfl
  · rw [← hc]
    rfl

/-- What a client can expect of a link: the payloads under way to it and then what the server is
still going to send. -/
def Expects (v : Version) (g : Future) (l : TransferLink) : Prop :=
  l.server.version = v ∧ ∃ f, Path (Says v) g (l.toClient.map Subtype.val) f ∧
    Serves l.server l.manager f

variable {v : Version} {f g : Future} {l : TransferLink}

theorem map_toSessionPayload {ms : List (List UInt8)} (h : Path (Says v) f ms g) :
    (ms.map toSessionPayload).map Subtype.val = ms := by
  induction h with
  | nil => rfl
  | cons hstep _ ih =>
    rw [List.map_cons, List.map_cons, ih]
    exact congrArg (· :: _) (List.take_of_length_le hstep.length_le)

theorem Expects.proceed (h : l.server.version = v)
    (hpath : Path (Says v) g (l.toClient.map Subtype.val) f)
    (hversion : c.session.version = l.server.version) (hsent : c.sent = [])
    (hproceeds : Proceeds f c (l.serverCtx turn).updateSession) :
    Expects v g (l.serverTurn turn) := by
  obtain ⟨ms, f', hms, hsay, hserves⟩ := hproceeds.sent
  rw [hsent, List.nil_append] at hms
  rw [hversion, h] at hsay
  refine ⟨(hproceeds.version.trans hversion).trans h, f', ?_, hserves⟩
  show Path (Says v) g ((l.toClient ++
    (l.serverCtx turn).updateSession.sent.map toSessionPayload).map Subtype.val) f'
  rw [hms, List.map_append, map_toSessionPayload hsay]
  exact hpath.append hsay

theorem Expects.serverTurn (h : Expects v g l) (harrived : l.toServer.take turn.arrived = []) :
    Expects v g (l.serverTurn turn) ∧ (l.serverTurn turn).toServer = l.toServer := by
  obtain ⟨hversion, f, hpath, hserves⟩ := h
  have hreceives : (l.serverCtx turn).receives = [] := by
    show (l.toServer.take turn.arrived).map ReceiveAnswer.payload = []
    rw [harrived]
    rfl
  refine ⟨Expects.proceed hversion hpath (c := l.serverCtx turn) rfl rfl
    (proceeds_updateSession hreceives hserves), ?_⟩
  show l.toServer.drop ((l.toServer.take turn.arrived).length - _) = l.toServer
  rw [harrived, List.length_nil, Nat.zero_sub, List.drop_zero]

theorem Expects.serverTurns (h : Expects v g l) (hto : l.toServer = [])
    (turns : List ServerTurn) :
    Expects v g (l.serverTurns turns) ∧ (l.serverTurns turns).toServer = [] := by
  induction turns generalizing l with
  | nil => exact ⟨h, hto⟩
  | cons turn turns ih =>
    have harrived : l.toServer.take turn.arrived = [] := by rw [hto, List.take_nil]
    obtain ⟨hexpects, hto'⟩ := h.serverTurn harrived
    exact ih hexpects (hto'.trans hto)

theorem serverTurn_idle (hidle : l.server.state = .idle)
    (harrived : l.toServer.take turn.arrived = []) : l.serverTurn turn = l := by
  have hreceives : (l.serverCtx turn).receives = [] := by
    show (l.toServer.take turn.arrived).map ReceiveAnswer.payload = []
    rw [harrived]
    rfl
  have hupdate : (l.serverCtx turn).updateSession = l.serverCtx turn := by
    unfold TransferCtx.updateSession
    rw [show (l.serverCtx turn).session.state = .idle from hidle]
    simp only [receivePayload_nil hreceives]
    exact if_neg nofun
  unfold TransferLink.serverTurn
  simp only [hupdate, harrived, List.length_nil, Nat.zero_sub, List.drop_zero]
  show (⟨l.server, l.manager, l.toServer, l.toClient ++ []⟩ : TransferLink) = l
  rw [List.append_nil]

theorem serverTurn_arrived {p : SessionPayload} (hto : l.toServer = [p]) (hpos : 0 < turn.arrived) :
    (l.serverCtx turn).receives = [.payload p] ∧
      ((l.serverCtx turn).updateSession.receives = [] → (l.serverTurn turn).toServer = []) := by
  have harrived : l.toServer.take turn.arrived = [p] := by
    rw [hto]
    exact List.take_of_length_le hpos
  refine ⟨?_, fun hnone => ?_⟩
  · show (l.toServer.take turn.arrived).map ReceiveAnswer.payload = _
    rw [harrived]
    rfl
  · show l.toServer.drop ((l.toServer.take turn.arrived).length -
      (l.serverCtx turn).updateSession.receives.length) = []
    rw [harrived, hnone, hto]
    rfl

theorem Expects.receive (h : Expects v g l) {p : SessionPayload} {rest : List SessionPayload}
    (hto : l.toClient = p :: rest) :
    ∃ g', Says v g p.1 g' ∧ Expects v g' { l with toClient := rest } := by
  obtain ⟨hversion, f, hpath, hserves⟩ := h
  rw [hto] at hpath
  obtain ⟨g', hsay, hrest⟩ := hpath.uncons
  exact ⟨g', hsay, hversion, f, hrest, hserves⟩

end DevDriver.Analysis
