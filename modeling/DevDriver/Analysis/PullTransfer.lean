import DevDriver.Analysis.ServerStream

/-!
# Pull transfers

A pull of a closed block brings the client the block's bytes and then the sentinel that it checks.
-/

namespace DevDriver.Analysis

open Library Model TransferClient

/-- A request to pull the block `b` is under way to a server that is idle. -/
structure PullRequested (v : Version) (b : BlockRef) (l : TransferLink) : Prop where
  version : l.server.version = v
  idle : l.server.state = .idle
  toClient : l.toClient = []
  asked : ∃ blockId p, l.toServer = [p] ∧ IsSent v (transferRequest blockId .pull 0) p.1 ∧
    l.manager.getServerBlock blockId = some b
  isClosed : (l.manager.blocks b).isClosed = true
  sized : ServerBlock.Sized (l.manager.blocks b)

variable {v : Version} {b : BlockRef} {l : TransferLink}

variable {p : SessionPayload}

theorem updateSession_pullRequest {c : TransferCtx} {blockId : BlockId}
    (hidle : c.session.state = .idle) (hreceives : c.receives = [.payload p])
    (hp : IsSent v (transferRequest blockId .pull 0) p.1) :
    c.updateSession = TransferCtx.processPullRequest blockId
      ({ c with receives := [] }.createPayload p.1) := by
  rw [updateSession_received hidle hreceives, TransferCtx.processPayload,
    createPayload_scratchPayload, hp.request_command, hp.request_type (.inl rfl),
    hp.request_blockId]

theorem PullRequested.serverTurn (h : PullRequested v b l) (turn : ServerTurn) :
    l.serverTurn turn = l ∨
      (Expects v (.header (l.manager.blocks b).data (l.manager.blocks b).crc32)
        (l.serverTurn turn) ∧ (l.serverTurn turn).toServer = []) := by
  obtain ⟨blockId, p, hto, hp, hblock⟩ := h.asked
  rcases Nat.eq_zero_or_pos turn.arrived with hzero | hpos
  · left
    exact serverTurn_idle h.idle (by rw [hzero, List.take_zero])
  · right
    obtain ⟨hreceives, htaken⟩ := serverTurn_arrived hto hpos
    have hupdate := updateSession_pullRequest (c := l.serverCtx turn) h.idle hreceives hp
    have hproceeds := proceeds_processPullRequest
      (c := { l.serverCtx turn with receives := [] }.createPayload p.1) rfl h.idle hblock
      h.isClosed h.sized
    rw [← hupdate] at hproceeds
    have hpath : Path (Says v) (.header (l.manager.blocks b).data (l.manager.blocks b).crc32)
        (l.toClient.map Subtype.val)
        (.header (l.manager.blocks b).data (l.manager.blocks b).crc32) := by
      rw [h.toClient]
      exact .nil _
    exact ⟨Expects.proceed h.version hpath rfl rfl hproceeds, htaken hproceeds.receives⟩

theorem PullRequested.serverTurns (h : PullRequested v b l) (turns : List ServerTurn) :
    PullRequested v b (l.serverTurns turns) ∨
      (Expects v (.header (l.manager.blocks b).data (l.manager.blocks b).crc32)
        (l.serverTurns turns) ∧ (l.serverTurns turns).toServer = []) := by
  induction turns with
  | nil => exact .inl h
  | cons turn turns ih =>
    rcases h.serverTurn turn with heq | ⟨hexpects, hto⟩
    · rw [show l.serverTurns (turn :: turns) = (l.serverTurn turn).serverTurns turns from rfl, heq]
      exact ih
    · exact .inr (hexpects.serverTurns hto turns)

/-! ## A client that receives a chunk -/

def GoodSentinel (v : Version) (crc : UInt32) (p : SessionPayload) : Prop :=
  let sentinel := SizedPayloadContainer.zero.fill p.1
  sentinel.command = .transferDataSentinel ∧ sentinel.result = .success ∧
    (transferRefactorVersion ≤ v → sentinel.sentinelCrc32 = crc)

/-- How the payloads of a pull end: nothing more arrives, with the sentinel the client waits
for, or with something else in its place or in that of a chunk. -/
inductive PullArrival where
  | cutShort
  | complete
  | broken
  deriving DecidableEq

structure Breaks (v : Version) (crc : UInt32) (data : List UInt8) (p : SessionPayload) : Prop where
  sentinel : data = [] → ¬ GoodSentinel v crc p
  chunk : data ≠ [] → ∀ c : SizedPayloadContainer, (c.fill p.1).command ≠ .transferDataChunk

inductive Brings (v : Version) (crc : UInt32) : PullArrival → List UInt8 →
    List SessionPayload → Prop where
  | missing (data : List UInt8) : Brings v crc .cutShort data []
  | chunk {arrival : PullArrival} {data : List UInt8} {p : SessionPayload}
      {ps : List SessionPayload} (hdata : data ≠ [])
      (h : IsSent v (transferDataChunk (data.take kMaxTransferDataChunkSize)) p.1)
      (hrest : Brings v crc arrival (data.drop kMaxTransferDataChunkSize) ps) :
      Brings v crc arrival data (p :: ps)
  | sentinel {p : SessionPayload} (h : GoodSentinel v crc p) (ps : List SessionPayload) :
      Brings v crc .complete [] (p :: ps)
  | broken {data : List UInt8} {p : SessionPayload} (h : Breaks v crc data p)
      (ps : List SessionPayload) : Brings v crc .broken data (p :: ps)

variable {last : ReceiveFailure}

theorem run_receiveRounds_nil (container : SizedPayloadContainer) (rounds : ℕ) :
    (receiveRounds container (rounds + 1)).run (inbox last) [] =
      some ((last.1, container), []) := by
  induction rounds with
  | zero =>
    change Dialogue.run _ (ite _ _ _) _ = _
    split
    · rename_i hwaits
      rw [hwaits]
      rfl
    · rfl
  | succ rounds ih =>
    change Dialogue.run _ (ite _ _ _) _ = _
    split
    · exact ih
    · rfl

variable (client : TransferClient)

theorem run_receiveTransferPayload_nil (container : SizedPayloadContainer) (timeoutInMs : ℕ) :
    (client.receiveTransferPayload container timeoutInMs).run (inbox last) [] =
      some ((last.1, container), []) :=
  run_receiveRounds_nil _ _

theorem run_receiveTransferPayload_cons (container : SizedPayloadContainer) (timeoutInMs : ℕ)
    (p : SessionPayload) (ps : List SessionPayload) :
    (client.receiveTransferPayload container timeoutInMs).run (inbox last) (p :: ps) =
      some ((.success, container.fill p.1), ps) := rfl

theorem takeChunk_eq {v : Version} {data : List UInt8}
    (h : IsSent v (transferDataChunk (data.take kMaxTransferDataChunkSize)) p.1)
    (context : ClientTransferContext) {c : SizedPayloadContainer}
    (hscratch : context.scratchPayload = c.fill p.1) (htotal : context.totalBytes = data.length) :
    context.takeChunk = { context with
      dataChunkSizeInBytes := (data.take kMaxTransferDataChunkSize).length
      dataChunkBytesTransfered := 0
      totalBytes := (data.drop kMaxTransferDataChunkSize).length
      crc32 := CRC32 (data.take kMaxTransferDataChunkSize) context.crc32 } := by
  obtain ⟨rest, hdata⟩ := h.chunk_data p.2 c
  have hsize := h.size
  have hmax : kMaxPayloadSizeInBytes = kMaxTransferDataChunkSize + 4 := rfl
  rw [transferDataChunk, List.length_append, length_leBytes] at hsize
  have hadjusted : min (min (sub64 (c.fill p.1).payloadSize 4) kMaxTransferDataChunkSize)
      data.length = (data.take kMaxTransferDataChunkSize).length := by
    rw [List.length_take] at hsize ⊢
    have hpayload : (c.fill p.1).payloadSize = p.1.length := rfl
    rw [hpayload, sub64_of_le (by split at hsize <;> omega)]
    split at hsize <;> omega
  have htake : (c.fill p.1).chunkData.take (data.take kMaxTransferDataChunkSize).length =
      data.take kMaxTransferDataChunkSize := by
    rw [hdata]
    exact List.take_left
  have hdrop : data.length - (data.take kMaxTransferDataChunkSize).length =
      (data.drop kMaxTransferDataChunkSize).length := by
    rw [List.length_take, List.length_drop]
    omega
  unfold ClientTransferContext.takeChunk
  simp only [hscratch, htotal, hadjusted, htake, hdrop]

structure TookChunk (data : List UInt8) (context context' : ClientTransferContext) : Prop where
  state : context'.state = context.state
  size : context'.dataChunkSizeInBytes = (data.take kMaxTransferDataChunkSize).length
  transfered : context'.dataChunkBytesTransfered = 0
  totalBytes : context'.totalBytes = (data.drop kMaxTransferDataChunkSize).length
  crc32 : context'.crc32 = CRC32 (data.take kMaxTransferDataChunkSize) context.crc32
  chunkData : ∃ rest,
    context'.scratchPayload.chunkData = data.take kMaxTransferDataChunkSize ++ rest

section Chunk

variable {v : Version} {crc : UInt32} {arrival : PullArrival} {client}

theorem run_receivePullSentinel {ps : List SessionPayload} {context : ClientTransferContext}
    (hv : client.version = v) (hbrings : Brings v crc arrival [] ps)
    (hcrc : context.crc32 = crc) :
    (arrival = .cutShort ∧ (client.receivePullSentinel context).run (inbox last) ps =
        some ((last.1, { context with state := .error }), [])) ∨
      (arrival = .broken ∧ ∃ ps', (client.receivePullSentinel context).run (inbox last) ps =
        some ((.success, { context with state := .error }), ps') ∧ ps' <:+ ps) ∨
      (arrival = .complete ∧ ∃ q ps', ps = q :: ps' ∧ GoodSentinel v crc q ∧
        (client.receivePullSentinel context).run (inbox last) ps =
          some ((.success, context), ps')) := by
  unfold receivePullSentinel
  cases hbrings with
  | missing =>
    refine .inl ⟨rfl, ?_⟩
    rw [Dialogue.run_bind_of_run _ (run_receiveTransferPayload_nil client _ _)]
    dsimp only
    rw [if_pos (.inl last.2)]
    rfl
  | chunk hdata => exact absurd rfl hdata
  | @sentinel q hgood ps' =>
    refine .inr (.inr ⟨rfl, q, ps', rfl, hgood, ?_⟩)
    obtain ⟨hcommand, hresult, hsentinel⟩ := hgood
    rw [Dialogue.run_bind_of_run _ (run_receiveTransferPayload_cons client _ _ _ _)]
    simp only [hcommand, hresult, ne_eq, not_true_eq_false, or_self, if_false]
    rw [if_neg]
    · rfl
    · rintro ⟨hnew, hne⟩
      exact hne ((hsentinel (hv ▸ hnew)).trans hcrc.symm)
  | @broken _ q hbreaks ps' =>
    refine .inr (.inl ⟨rfl, ps', ?_, ⟨[q], rfl⟩⟩)
    have hbad := hbreaks.sentinel rfl
    rw [Dialogue.run_bind_of_run _ (run_receiveTransferPayload_cons client _ _ _ _)]
    simp only [ne_eq, not_true_eq_false, false_or]
    split
    · rfl
    · rename_i hfine
      rw [not_or, not_not, not_not] at hfine
      split
      · rfl
      · rename_i hmatch
        refine absurd ⟨hfine.1, hfine.2, fun hnew => ?_⟩ hbad
        by_contra hne
        exact hmatch ⟨hv.symm ▸ hnew, fun heq => hne (heq.trans hcrc)⟩

theorem run_receivePullChunk {data : List UInt8} {ps : List SessionPayload}
    {context : ClientTransferContext} (hv : client.version = v)
    (hbrings : Brings v crc arrival data ps) (hdata : data ≠ [])
    (htotal : context.totalBytes = data.length) (hcrc : CRC32 data context.crc32 = crc) :
    (∃ result context' ps', (client.receivePullChunk context).run (inbox last) ps =
        some ((result, context'), ps') ∧ context'.state = .error ∧ ps' <:+ ps ∧
        ((arrival = .cutShort ∧ result = last.1) ∨
          (arrival = .broken ∧ result = .success))) ∨
      ∃ context' ps', (client.receivePullChunk context).run (inbox last) ps =
          some ((.success, context'), ps') ∧ TookChunk data context context' ∧
        ((data.drop kMaxTransferDataChunkSize ≠ [] ∧ (∃ p, ps = p :: ps') ∧
            Brings v crc arrival (data.drop kMaxTransferDataChunkSize) ps') ∨
          (data.drop kMaxTransferDataChunkSize = [] ∧ arrival = .complete ∧
            ∃ p q, ps = p :: q :: ps' ∧ GoodSentinel v crc q)) := by
  unfold receivePullChunk
  cases hbrings with
  | missing =>
    refine .inl ⟨last.1, { context with state := .error }, [], ?_, rfl, ⟨[], rfl⟩,
      .inl ⟨rfl, rfl⟩⟩
    rw [Dialogue.run_bind_of_run _ (run_receiveTransferPayload_nil client _ _)]
    dsimp only
    rw [if_neg fun hmore => last.2 hmore.1]
    rfl
  | sentinel => exact absurd rfl hdata
  | @broken _ q hbreaks ps =>
    refine .inl ⟨.success, { context with
      scratchPayload := context.scratchPayload.fill q.1, state := .error }, ps, ?_, rfl,
      ⟨[q], rfl⟩, .inr ⟨rfl, rfl⟩⟩
    rw [Dialogue.run_bind_of_run _ (run_receiveTransferPayload_cons client _ _ _ _)]
    simp only [hbreaks.chunk hdata, and_false, if_false]
    rfl
  | @chunk _ _ p ps _ hp hrest =>
    rw [Dialogue.run_bind_of_run _ (run_receiveTransferPayload_cons client _ _ _ _)]
    have hcommand := hp.chunk_command context.scratchPayload
    simp only [hcommand, and_self, if_true]
    have htake := takeChunk_eq hp
      { context with scratchPayload := context.scratchPayload.fill p.1 } rfl htotal
    generalize ClientTransferContext.takeChunk
      { context with scratchPayload := context.scratchPayload.fill p.1 } = context' at htake ⊢
    have htook : TookChunk data context context' := by
      rw [htake]
      exact ⟨rfl, rfl, rfl, rfl, rfl, hp.chunk_data p.2 _⟩
    by_cases hlast : data.drop kMaxTransferDataChunkSize = []
    · rw [if_pos (by rw [htook.totalBytes, hlast]; rfl)]
      have hcrc' : context'.crc32 = crc := by
        rw [htook.crc32, ← hcrc, List.take_of_length_le (List.drop_eq_nil_iff.mp hlast)]
      rw [hlast] at hrest
      rcases run_receivePullSentinel hv hrest hcrc' with ⟨hcut, hrun⟩ | ⟨hbroken, ps', hrun, hps⟩ |
        ⟨hcomplete, q, ps', rfl, hgood, hrun⟩
      · exact .inl ⟨_, _, _, hrun, rfl, List.nil_suffix, .inl ⟨hcut, rfl⟩⟩
      · exact .inl ⟨_, _, _, hrun, rfl, hps.trans ⟨[p], rfl⟩, .inr ⟨hbroken, rfl⟩⟩
      · exact .inr ⟨context', ps', hrun, htook, .inr ⟨hlast, hcomplete, p, q, rfl, hgood⟩⟩
    · rw [if_neg (by rw [htook.totalBytes]; exact fun h => hlast (List.eq_nil_of_length_eq_zero h))]
      exact .inr ⟨context', ps, rfl, htook, .inl ⟨hlast, ⟨p, rfl⟩, hrest⟩⟩

end Chunk

/-! ## A client that reads -/

/-- A good sentinel is the last of the payloads that were received when `ps` are left. -/
def SentinelReceived (v : Version) (crc : UInt32) (payloads ps : List SessionPayload) : Prop :=
  ∃ before p, payloads = before ++ p :: ps ∧ GoodSentinel v crc p

def chunkRest (context : ClientTransferContext) : List UInt8 :=
  slice context.scratchPayload.chunkData context.dataChunkBytesTransfered
    (context.dataChunkSizeInBytes - context.dataChunkBytesTransfered)

/-- A client in the middle of its reading: `copied` was copied out, and the rest of the chunk at
hand and then `rest` are still to come. -/
structure Reading (v : Version) (crc : UInt32) (arrival : PullArrival) (data : List UInt8)
    (payloads : List SessionPayload) (copied rest : List UInt8) (context : ClientTransferContext)
    (ps : List SessionPayload) : Prop where
  state : context.state = .transferInProgress
  transfered_le : context.dataChunkBytesTransfered ≤ context.dataChunkSizeInBytes
  length_chunkRest : (chunkRest context).length =
    context.dataChunkSizeInBytes - context.dataChunkBytesTransfered
  data : copied ++ (chunkRest context ++ rest) = data
  totalBytes : context.totalBytes = rest.length
  crc32 : CRC32 rest context.crc32 = crc
  suffix : ps <:+ payloads
  brings : rest ≠ [] → Brings v crc arrival rest ps
  sentinel : rest = [] → chunkRest context ≠ [] ∧ arrival = .complete ∧
    SentinelReceived v crc payloads ps

/-- How a call that reads a pull ends. -/
inductive ReadEnd (last : ReceiveFailure) (v : Version) (crc : UInt32) (arrival : PullArrival)
    (data : List UInt8)
    (payloads : List SessionPayload) (copied : List UInt8) :
    Result → ClientTransferContext → List SessionPayload → Prop where
  | more {context : ClientTransferContext} {ps : List SessionPayload} (rest : List UInt8)
      (h : Reading v crc arrival data payloads copied rest context ps) :
      ReadEnd last v crc arrival data payloads copied .success context ps
  | complete {context : ClientTransferContext} {ps : List SessionPayload}
      (hstate : context.state = .idle) (hcopied : copied = data) (harrival : arrival = .complete)
      (hsentinel : SentinelReceived v crc payloads ps) :
      ReadEnd last v crc arrival data payloads copied .endOfStream context ps
  | failed {result : Result} {context : ClientTransferContext} {ps : List SessionPayload}
      (hstate : context.state = .error) (rest : List UInt8) (hrest : rest ≠ [])
      (hcopied : copied ++ rest = data)
      (hresult : (arrival = .cutShort ∧ result = last.1) ∨
        (arrival = .broken ∧ result = .success)) :
      ReadEnd last v crc arrival data payloads copied result context ps

section Read

variable {client} {v : Version} {crc : UInt32} {arrival : PullArrival} {data : List UInt8}
  {payloads : List SessionPayload}

variable {context : ClientTransferContext} {ps : List SessionPayload}

variable {rounds : ℕ}

theorem run_readLoop_of_state {remaining : ℕ} {result : Result} {out : List UInt8}
    (hstate : context.state ≠ .transferInProgress) :
    (client.readLoop (rounds + 1) remaining result context out).run (inbox last) ps =
      some ((result, context, out), ps) := by
  unfold readLoop
  rw [if_neg fun h => hstate h.2]
  rfl

variable {copied rest : List UInt8} {bytes : ℕ}

section

variable (h : Reading v crc arrival data payloads copied rest context ps)

include h

theorem Reading.copyChunk
    (hbytes : bytes ≤ context.dataChunkSizeInBytes - context.dataChunkBytesTransfered) :
    (context.copyChunk bytes).1.length = bytes ∧
      chunkRest context = (context.copyChunk bytes).1 ++ chunkRest (context.copyChunk bytes).2 ∧
      (chunkRest (context.copyChunk bytes).2).length =
        context.dataChunkSizeInBytes - (context.dataChunkBytesTransfered + bytes) := by
  have hsplit : chunkRest context =
      (context.copyChunk bytes).1 ++ chunkRest (context.copyChunk bytes).2 := by
    unfold chunkRest ClientTransferContext.copyChunk
    simp only
    rw [← slice_add]
    congr 1
    omega
  have hlength := h.length_chunkRest
  rw [hsplit, List.length_append] at hlength
  have hfirst : (context.copyChunk bytes).1.length ≤ bytes := List.length_take_le _ _
  have hsecond : (chunkRest (context.copyChunk bytes).2).length ≤
      context.dataChunkSizeInBytes - (context.dataChunkBytesTransfered + bytes) :=
    List.length_take_le _ _
  exact ⟨by omega, hsplit, by omega⟩

theorem Reading.afterCopy
    (hbytes : bytes ≤ context.dataChunkSizeInBytes - context.dataChunkBytesTransfered)
    (hmore : ¬ ((context.copyChunk bytes).2.dataChunkBytesTransfered =
      (context.copyChunk bytes).2.dataChunkSizeInBytes ∧
        (context.copyChunk bytes).2.totalBytes = 0)) :
    Reading v crc arrival data payloads (copied ++ (context.copyChunk bytes).1) rest
      (context.copyChunk bytes).2 ps := by
  obtain ⟨-, hsplit, hlength⟩ := h.copyChunk hbytes
  have hle := h.transfered_le
  refine ⟨h.state, ?_, hlength, ?_, h.totalBytes, h.crc32, h.suffix, h.brings, ?_⟩
  · show context.dataChunkBytesTransfered + bytes ≤ context.dataChunkSizeInBytes
    omega
  · rw [← h.data, hsplit, List.append_assoc, List.append_assoc]
  · intro hrest
    refine ⟨fun hnil => hmore ⟨?_, ?_⟩, (h.sentinel hrest).2⟩
    · rw [hnil, List.length_nil] at hlength
      show context.dataChunkBytesTransfered + bytes = context.dataChunkSizeInBytes
      omega
    · show context.totalBytes = 0
      rw [h.totalBytes, hrest, List.length_nil]

theorem Reading.copied_all
    (hbytes : bytes ≤ context.dataChunkSizeInBytes - context.dataChunkBytesTransfered)
    (hend : (context.copyChunk bytes).2.dataChunkBytesTransfered =
      (context.copyChunk bytes).2.dataChunkSizeInBytes ∧
        (context.copyChunk bytes).2.totalBytes = 0) :
    copied ++ (context.copyChunk bytes).1 = data ∧ rest = [] := by
  obtain ⟨-, hsplit, hlength⟩ := h.copyChunk hbytes
  obtain ⟨htransfered, htotal⟩ := hend
  have hrest : rest = [] := List.eq_nil_of_length_eq_zero (h.totalBytes.symm.trans htotal)
  have hsize : context.dataChunkBytesTransfered + bytes = context.dataChunkSizeInBytes :=
    htransfered
  have hnil : chunkRest (context.copyChunk bytes).2 = [] :=
    List.eq_nil_of_length_eq_zero (by omega)
  refine ⟨?_, hrest⟩
  rw [← h.data, hsplit, hnil, hrest, List.append_nil, List.append_nil]

theorem Reading.afterChunk {context' : ClientTransferContext} {ps' : List SessionPayload}
    (hempty : chunkRest context = []) (hrest : rest ≠ []) (htook : TookChunk rest context context')
    (hnext : (rest.drop kMaxTransferDataChunkSize ≠ [] ∧ (∃ p, ps = p :: ps') ∧
        Brings v crc arrival (rest.drop kMaxTransferDataChunkSize) ps') ∨
      (rest.drop kMaxTransferDataChunkSize = [] ∧ arrival = .complete ∧
        ∃ p q, ps = p :: q :: ps' ∧ GoodSentinel v crc q)) :
    Reading v crc arrival data payloads copied (rest.drop kMaxTransferDataChunkSize) context' ps' ∧
      ps'.length < ps.length := by
  have hchunk : chunkRest context' = rest.take kMaxTransferDataChunkSize := by
    obtain ⟨padding, hdata⟩ := htook.chunkData
    unfold chunkRest slice
    rw [htook.transfered, htook.size, hdata, List.drop_zero, Nat.sub_zero]
    exact List.take_left
  have htake : rest.take kMaxTransferDataChunkSize ≠ [] := by
    rw [ne_eq, List.take_eq_nil_iff]
    rintro (hzero | hnil)
    · exact absurd hzero (by decide)
    · exact hrest hnil
  obtain ⟨before, hbefore⟩ := h.suffix
  have hreading : ps' <:+ payloads →
      (rest.drop kMaxTransferDataChunkSize ≠ [] →
        Brings v crc arrival (rest.drop kMaxTransferDataChunkSize) ps') →
      (rest.drop kMaxTransferDataChunkSize = [] → arrival = .complete ∧
        SentinelReceived v crc payloads ps') →
      Reading v crc arrival data payloads copied (rest.drop kMaxTransferDataChunkSize)
        context' ps' := by
    intro hsuffix hbrings hsentinel
    refine ⟨htook.state.trans h.state, ?_, ?_, ?_, htook.totalBytes, ?_, hsuffix, hbrings,
      fun hnil => ⟨hchunk ▸ htake, hsentinel hnil⟩⟩
    · rw [htook.transfered]
      exact Nat.zero_le _
    · rw [hchunk, htook.size, htook.transfered, Nat.sub_zero]
    · rw [hchunk, List.take_append_drop, ← h.data, hempty, List.nil_append]
    · rw [htook.crc32, ← CRC32_append, List.take_append_drop]
      exact h.crc32
  rcases hnext with ⟨hne, ⟨p, rfl⟩, hbrings⟩ | ⟨hnil, hcomplete, p, q, rfl, hgood⟩
  · refine ⟨hreading ⟨before ++ [p], ?_⟩ (fun _ => hbrings) fun hnil => absurd hnil hne,
      Nat.lt_succ_self _⟩
    rw [← hbefore, List.append_assoc]
    rfl
  · have hpayloads : payloads = (before ++ [p]) ++ q :: ps' := by
      rw [← hbefore, List.append_assoc]
      rfl
    refine ⟨hreading ⟨before ++ [p, q], ?_⟩ (fun hne => absurd hnil hne)
      fun _ => ⟨hcomplete, before ++ [p], q, hpayloads, hgood⟩, ?_⟩
    · rw [hpayloads]
      simp only [List.append_assoc, List.cons_append, List.nil_append]
    · simp only [List.length_cons]
      omega

end

theorem run_readLoop {remaining : ℕ} (out : List UInt8) (hv : client.version = v)
    (h : Reading v crc arrival data payloads copied rest context ps)
    (hrounds : remaining + ps.length + 2 ≤ rounds) :
    ∃ result context' bytes ps',
      (client.readLoop rounds remaining .success context out).run (inbox last) ps =
        some ((result, context', out ++ bytes), ps') ∧
      ps'.length ≤ ps.length ∧ (context'.state = .transferInProgress → bytes.length = remaining) ∧
      ReadEnd last v crc arrival data payloads (copied ++ bytes) result context' ps' := by
  induction rounds generalizing remaining copied rest out context ps with
  | zero => omega
  | succ rounds ih =>
    obtain ⟨rounds', hrounds'⟩ : ∃ rounds', rounds = rounds' + 1 := ⟨rounds - 1, by omega⟩
    unfold readLoop
    by_cases hpos : 0 < remaining
    · rw [if_pos ⟨hpos, h.state⟩]
      simp only
      by_cases havailable :
          0 < context.dataChunkSizeInBytes - context.dataChunkBytesTransfered
      · rw [if_pos havailable]
        have hbytes := Nat.min_le_right remaining
          (context.dataChunkSizeInBytes - context.dataChunkBytesTransfered)
        obtain ⟨hlength, -, -⟩ := h.copyChunk hbytes
        generalize hn : min remaining
          (context.dataChunkSizeInBytes - context.dataChunkBytesTransfered) = bytes at *
        split
        · rename_i hend
          obtain ⟨hcopied, hrest⟩ := h.copied_all hbytes hend
          have hidle : ({ (context.copyChunk bytes).2 with state := .idle } :
              ClientTransferContext).state ≠ .transferInProgress := nofun
          rw [hrounds', run_readLoop_of_state hidle]
          obtain ⟨-, harrival, hsentinel⟩ := h.sentinel hrest
          exact ⟨_, _, (context.copyChunk bytes).1, _, rfl, le_refl _, nofun,
            .complete rfl hcopied harrival hsentinel⟩
        · rename_i hmore
          have hrounds'' : remaining - bytes + ps.length + 2 ≤ rounds := by omega
          obtain ⟨result, context', copied', ps', hrun, hps, hfull, hend⟩ :=
            ih _ (h.afterCopy hbytes hmore) hrounds''
          refine ⟨result, context', (context.copyChunk bytes).1 ++ copied', ps', ?_, hps, ?_, ?_⟩
          · rw [hrun, List.append_assoc]
          · intro hsuccess
            rw [List.length_append, hfull hsuccess]
            omega
          · rw [← List.append_assoc]
            exact hend
      · rw [if_neg havailable]
        have hempty : chunkRest context = [] := by
          apply List.eq_nil_of_length_eq_zero
          rw [h.length_chunkRest]
          omega
        have hrest : rest ≠ [] := fun hnil => (h.sentinel hnil).1 hempty
        rw [if_pos (by rw [h.totalBytes]; exact List.length_pos_of_ne_nil hrest)]
        rcases run_receivePullChunk hv (h.brings hrest) hrest h.totalBytes h.crc32 with
          ⟨result, context', ps', hrun, herror, hps, hresult⟩ | ⟨context', ps', hrun, htook, hnext⟩
        · have hstate : context'.state ≠ .transferInProgress := by
            rw [herror]
            nofun
          rw [Dialogue.run_bind_of_run _ hrun, hrounds', run_readLoop_of_state hstate]
          refine ⟨result, context', [], ps', by rw [List.append_nil], hps.length_le,
            fun hprogress => absurd hprogress hstate, ?_⟩
          refine .failed herror rest hrest ?_ hresult
          rw [List.append_nil, ← h.data, hempty, List.nil_append]
        · rw [Dialogue.run_bind_of_run _ hrun]
          obtain ⟨hreading, hlt⟩ := h.afterChunk hempty hrest htook hnext
          have hrounds'' : remaining + ps'.length + 2 ≤ rounds := by omega
          obtain ⟨result, context'', copied', ps'', hrun', hps, hfull, hend⟩ :=
            ih out hreading hrounds''
          exact ⟨result, context'', copied', ps'', hrun', hps.trans hlt.le, hfull, hend⟩
    · rw [if_neg fun hmore => hpos hmore.1]
      refine ⟨.success, context, [], ps, by rw [List.append_nil]; rfl, le_refl _, ?_, ?_⟩
      · intro _
        exact (Nat.eq_zero_of_not_pos hpos).symm
      · rw [List.append_nil]
        exact .more rest h

theorem Reading.copied_ne (h : Reading v crc arrival data payloads copied rest context ps) :
    copied ≠ data := by
  intro hcopied
  have hdata := h.data
  rw [← hcopied] at hdata
  obtain ⟨hchunk, hrest⟩ := List.append_eq_nil_iff.mp (List.append_right_eq_self.mp hdata)
  exact (h.sentinel hrest).1 hchunk

theorem run_readPullTransferData {bufferSize : ℕ} (hv : client.version = v)
    (h : Reading v crc arrival data payloads copied rest context ps)
    (hrounds : bufferSize + ps.length + 2 ≤ rounds) :
    ∃ result context' bytes ps',
      (client.readPullTransferData rounds bufferSize context).run (inbox last) ps =
        some ((result, context', bytes), ps') ∧
      ps'.length ≤ ps.length ∧
      (context'.state = .transferInProgress → bytes.length = bufferSize) ∧
      ReadEnd last v crc arrival data payloads (copied ++ bytes) result context' ps' := by
  unfold readPullTransferData
  have hmore : ¬ (context.totalBytes = 0 ∧
      context.dataChunkSizeInBytes = context.dataChunkBytesTransfered) := by
    rintro ⟨htotal, hsize⟩
    refine (h.sentinel (List.eq_nil_of_length_eq_zero (h.totalBytes.symm.trans htotal))).1 ?_
    apply List.eq_nil_of_length_eq_zero
    rw [h.length_chunkRest, hsize, Nat.sub_self]
  rw [if_pos h.state, if_neg hmore]
  by_cases hpos : 0 < bufferSize
  · rw [if_pos hpos]
    obtain ⟨result, context', bytes, ps', hrun, hps, hfull, hend⟩ :=
      run_readLoop [] hv h hrounds
    exact ⟨result, context', bytes, ps', hrun, hps, hfull, hend⟩
  · rw [if_neg hpos]
    refine ⟨.success, context, [], ps, rfl, le_refl _, ?_, ?_⟩
    · intro _
      exact (Nat.eq_zero_of_not_pos hpos).symm
    · rw [List.append_nil]
      exact .more rest h

theorem run_readPullTransferData_of_state {bufferSize : ℕ}
    (hstate : context.state ≠ .transferInProgress) :
    (client.readPullTransferData rounds bufferSize context).run (inbox last) ps =
      some ((.error, context, []), ps) := by
  unfold readPullTransferData
  rw [if_neg hstate]
  rfl

end Read

def pulling (client : TransferClient) (size : ℕ) (context : ClientTransferContext) :
    ClientTransferContext :=
  if transferRefactorVersion ≤ client.version then context.start size
  else { context.start size with type := .pull }

theorem coded_success : Result.Coded .success := ⟨rfl, by decide⟩

theorem run_requestPullTransfer {v : Version} {size : ℕ} (hv : client.version = v)
    (hp : IsSent v (pullHeader v size) p.1) (hsize : size < 2 ^ 32)
    {context : ClientTransferContext} (hidle : context.state = .idle) (blockId : BlockId)
    (ps : List SessionPayload) :
    (client.requestPullTransfer blockId context).run (inbox last) (p :: ps) =
      some ((.success, pulling client size context, some size), ps) := by
  have htransact : ∀ container,
      (client.transactTransferPayload container).run (inbox last) (p :: ps) =
      some ((.success, container.fill p.1), ps) := fun _ => rfl
  unfold requestPullTransfer pulling
  rw [if_pos hidle, Dialogue.run_bind_of_run _ (htransact _)]
  unfold pullHeader at hp
  by_cases hnew : transferRefactorVersion ≤ v
  · rw [if_pos hnew] at hp
    simp only [hp.headerV2_command, hv ▸ hnew, hp.headerV2_size, Nat.mod_eq_of_lt hsize,
      and_self, if_true]
    rfl
  · rw [if_neg hnew] at hp
    have hold : ¬ transferRefactorVersion ≤ client.version := fun h => hnew (hv ▸ h)
    simp only [hp.header_command, hold, hp.header_result coded_success, hp.header_size,
      Nat.mod_eq_of_lt hsize, and_self, if_true, if_false]
    rfl

/-! ## What is delivered -/

/-- How what a session delivers of a pull ends: nothing more arrives, with the server's sentinel,
or with the sentinel of a transfer that ended otherwise, when `rest` was not sent yet. -/
inductive PullEnding where
  | cutShort
  | served
  | sentinel (rest : List UInt8) (r : Result) (crc : UInt32)

/-- The payloads of a pull of `data` that a session delivers in order, with their ending. -/
def DeliversPull (v : Version) (data : List UInt8) (payloads : List SessionPayload) :
    PullEnding → Prop
  | .cutShort => ∃ rest, Path (Says v) (.header data (CRC32 data 0))
      (payloads.map Subtype.val) (.stream rest (CRC32 data 0))
  | .served => Path (Says v) (.header data (CRC32 data 0)) (payloads.map Subtype.val) .nothing
  | .sentinel rest r crc => ∃ ps p, payloads = ps ++ [p] ∧
      Path (Says v) (.header data (CRC32 data 0)) (ps.map Subtype.val)
        (.stream rest (CRC32 data 0)) ∧
      IsSent v (transferDataSentinel r crc) p.1 ∧ Result.Coded r

/-- A sentinel that arrived, if one did, is that of a transfer of `data` that was completed. -/
def PullEnding.Good (v : Version) (data : List UInt8) : PullEnding → Prop
  | .cutShort | .served => True
  | .sentinel rest r crc => rest = [] ∧ r = .success ∧
      (transferRefactorVersion ≤ v → crc = CRC32 data 0)

def PullEnding.arrival : PullEnding → PullArrival
  | .cutShort => .cutShort
  | _ => .complete

section Delivered

variable {v : Version} {crc : UInt32} {data : List UInt8}

theorem IsSent.goodSentinel {p : SessionPayload} {c : UInt32}
    (h : IsSent v (transferDataSentinel .success c) p.1)
    (hcrc : transferRefactorVersion ≤ v → c = crc) : GoodSentinel v crc p :=
  ⟨h.sentinel_command _, h.sentinel_result coded_success _,
    fun hnew => (h.sentinel_crc _).trans (hcrc hnew)⟩

variable {f : Future}

theorem Path.eq_nil_of_nothing {ms : List (List UInt8)} (h : Path (Says v) .nothing ms f) :
    ms = [] ∧ f = .nothing := by
  cases h with
  | nil => exact ⟨rfl, rfl⟩
  | cons hsay => cases hsay

theorem brings_of_path (arrival : PullArrival) {ps : List SessionPayload}
    (tail : List SessionPayload) (h : Path (Says v) (.stream data crc) (ps.map Subtype.val) f)
    (hf : (f = .nothing ∧ arrival = .complete) ∨
      ∃ rest, f = .stream rest crc ∧ Brings v crc arrival rest tail) :
    Brings v crc arrival data (ps ++ tail) := by
  induction ps generalizing data with
  | nil =>
    obtain rfl := h.eq_of_nil
    obtain ⟨hnothing, -⟩ | ⟨rest, hrest, hbrings⟩ := hf
    · cases hnothing
    · cases hrest
      exact hbrings
  | cons p ps ih =>
    obtain ⟨g, hsay, hpath⟩ := h.uncons
    cases hsay with
    | chunk hdata hp => exact .chunk hdata hp (ih hpath)
    | sentinel hp =>
      obtain ⟨hps, rfl⟩ := Path.eq_nil_of_nothing hpath
      obtain ⟨-, rfl⟩ | ⟨rest, hrest, -⟩ := hf
      · exact .sentinel (hp.goodSentinel fun _ => rfl) _
      · cases hrest

variable {payloads : List SessionPayload}

theorem Path.header (h : Path (Says v) (.header data crc) (payloads.map Subtype.val) f)
    (hf : f ≠ .header data crc) : ∃ p ps, payloads = p :: ps ∧
      IsSent v (pullHeader v data.length) p.1 ∧
      Path (Says v) (.stream data crc) (ps.map Subtype.val) f := by
  cases payloads with
  | nil => exact absurd h.eq_of_nil.symm hf
  | cons p ps =>
    obtain ⟨g, hsay, hpath⟩ := h.uncons
    cases hsay with
    | header hp => exact ⟨p, ps, rfl, hp, hpath⟩

theorem IsSent.breaks {p : SessionPayload} {rest : List UInt8} {r : Result} {c : UInt32}
    (h : IsSent v (transferDataSentinel r c) p.1) (hr : Result.Coded r)
    (hbad : ¬ PullEnding.Good v data (.sentinel rest r c)) : Breaks v (CRC32 data 0) rest p := by
  refine ⟨fun hrest hgood => hbad ⟨hrest, ?_, fun hnew => ?_⟩, fun _ container => ?_⟩
  · exact (h.sentinel_result hr _).symm.trans hgood.2.1
  · exact (h.sentinel_crc _).symm.trans (hgood.2.2 hnew)
  · rw [h.sentinel_command container]
    nofun

theorem DeliversPull.brings {ending : PullEnding} (h : DeliversPull v data payloads ending) :
    ∃ p ps, payloads = p :: ps ∧
      IsSent v (pullHeader v data.length) p.1 ∧
      (ending.Good v data → Brings v (CRC32 data 0) ending.arrival data ps) ∧
      (¬ ending.Good v data → Brings v (CRC32 data 0) .broken data ps) := by
  cases ending with
  | cutShort =>
    obtain ⟨rest, hpath⟩ := h
    obtain ⟨p, ps, hpayloads, hp, hrest⟩ := Path.header hpath nofun
    have hbrings := brings_of_path .cutShort [] hrest
      (.inr ⟨rest, rfl, .missing rest⟩)
    rw [List.append_nil] at hbrings
    exact ⟨p, ps, hpayloads, hp, fun _ => hbrings, fun hbad => absurd trivial hbad⟩
  | served =>
    obtain ⟨p, ps, hpayloads, hp, hrest⟩ := Path.header h nofun
    have hbrings := brings_of_path .complete [] hrest (.inl ⟨rfl, rfl⟩)
    rw [List.append_nil] at hbrings
    exact ⟨p, ps, hpayloads, hp, fun _ => hbrings, fun hbad => absurd trivial hbad⟩
  | sentinel rest r c =>
    obtain ⟨sent, q, hsent, hpath, hq, hr⟩ := h
    obtain ⟨p, ps, rfl, hp, hrest⟩ := Path.header hpath nofun
    refine ⟨p, ps ++ [q], hsent, hp, fun hgood => ?_, fun hbad => ?_⟩
    · obtain ⟨rfl, rfl, hc⟩ := hgood
      exact brings_of_path _ _ hrest (.inr ⟨[], rfl, .sentinel (hq.goodSentinel hc) []⟩)
    · exact brings_of_path _ _ hrest (.inr ⟨rest, rfl, .broken (hq.breaks hr hbad) []⟩)

theorem stream_of_path {ms : List (List UInt8)} (h : Path (Says v) (.stream data crc) ms f) :
    f = .nothing ∨ ∃ rest, f = .stream rest crc := by
  induction ms generalizing data with
  | nil => exact .inr ⟨data, h.eq_of_nil.symm⟩
  | cons m ms ih =>
    obtain ⟨g, hsay, hpath⟩ := h.uncons
    cases hsay with
    | chunk => exact ih hpath
    | sentinel => exact .inl (Path.eq_nil_of_nothing hpath).2

theorem deliversPull_of_path
    (h : Path (Says v) (.header data (CRC32 data 0)) (payloads.map Subtype.val) f)
    (hne : payloads ≠ []) : ∃ ending, PullEnding.Good v data ending ∧
      DeliversPull v data payloads ending := by
  cases payloads with
  | nil => exact absurd rfl hne
  | cons p ps =>
    obtain ⟨g, hsay, hpath⟩ := h.uncons
    cases hsay
    rcases stream_of_path hpath with rfl | ⟨rest, rfl⟩
    · exact ⟨.served, trivial, h⟩
    · exact ⟨.cutShort, trivial, rest, h⟩

end Delivered

/-! ## The transfer -/

/-- What reads have to do once `copied` was copied out.  Only when all data is copied out and the
sentinel was received they return `EndOfStream`, and then they do; a call that returns `Success`
fills the buffer; a call that fails the transfer does not return `Success`, and none does that
when all payloads of the transfer have arrived. -/
def FaithfulReads (v : Version) (data : List UInt8) (complete : Prop)
    (payloads : List SessionPayload) : List UInt8 → List ReadOutcome → Prop
  | _, [] => True
  | copied, o :: outcomes =>
    (o.result = .endOfStream → copied ++ o.copied = data ∧
      SentinelReceived v (CRC32 data 0) payloads o.payloads) ∧
    (copied ++ o.copied = data → copied ≠ data → o.result = .endOfStream) ∧
    (o.result = .success → o.copied.length = o.bufferSize) ∧
    (o.context.state = .error → o.result ≠ .success ∧ ¬ complete) ∧
    copied ++ o.copied <+: data ∧
    FaithfulReads v data complete payloads (copied ++ o.copied) outcomes

section Transfer

variable {client} {v : Version} {data : List UInt8} {arrival : PullArrival}
  {payloads : List SessionPayload}

variable {ps : List SessionPayload}

variable {p : SessionPayload} {rounds : ℕ}

theorem readCalls_cons {bufferSize : ℕ} {sizes : List ℕ} {context context' : ClientTransferContext}
    {ps' : List SessionPayload} {result : Result} {bytes : List UInt8} {outcomes : List ReadOutcome}
    (hrun : (client.readPullTransferData rounds bufferSize context).run (inbox last) ps =
      some ((result, context', bytes), ps'))
    (hrest : client.readCalls last rounds sizes context' ps' = some outcomes) :
    client.readCalls last rounds (bufferSize :: sizes) context ps =
      some (⟨bufferSize, result, bytes, context', ps'⟩ :: outcomes) := by
  rw [readCalls, hrun]
  simp only [Option.bind_eq_bind, Option.bind_some, hrest]
  rfl

variable {complete : Prop}

theorem faithful_of_state (sizes : List ℕ) {copied : List UInt8} {context : ClientTransferContext}
    (hstate : context.state ≠ .transferInProgress) (hcopied : copied <+: data)
    (herror : context.state = .error → ¬ complete) :
    ∃ outcomes, client.readCalls last rounds sizes context ps = some outcomes ∧
      FaithfulReads v data complete payloads copied outcomes := by
  induction sizes with
  | nil => exact ⟨[], rfl, trivial⟩
  | cons bufferSize sizes ih =>
    obtain ⟨outcomes, hcalls, hfaithful⟩ := ih
    refine ⟨_, readCalls_cons (run_readPullTransferData_of_state hstate) hcalls, nofun, ?_, nofun,
      fun h => ⟨nofun, herror h⟩, ?_, ?_⟩
    · intro hall hne
      rw [List.append_nil] at hall
      exact absurd hall hne
    · rw [List.append_nil]
      exact hcopied
    · rw [List.append_nil]
      exact hfaithful

theorem faithful_of_reading (sizes : List ℕ) {copied rest : List UInt8}
    {context : ClientTransferContext} (hv : client.version = v)
    (h : Reading v (CRC32 data 0) arrival data payloads copied rest context ps)
    (hbroken : arrival ≠ .broken) (hcomplete : complete → arrival = .complete)
    (hlast : arrival = .cutShort → last.1 ≠ .endOfStream)
    (hrounds : ∀ size ∈ sizes, size + ps.length + 2 ≤ rounds) :
    ∃ outcomes, client.readCalls last rounds sizes context ps = some outcomes ∧
      FaithfulReads v data complete payloads copied outcomes := by
  induction sizes generalizing copied rest context ps with
  | nil => exact ⟨[], rfl, trivial⟩
  | cons bufferSize sizes ih =>
    obtain ⟨result, context', bytes, ps', hrun, hps, hfull, hend⟩ :=
      run_readPullTransferData hv h (hrounds bufferSize (List.mem_cons_self ..))
    cases hend with
    | more rest' hreading =>
      obtain ⟨outcomes, hcalls, hfaithful⟩ := ih hreading fun size hsize =>
        le_trans (by omega) (hrounds size (List.mem_cons_of_mem _ hsize))
      refine ⟨_, readCalls_cons hrun hcalls, nofun, ?_, fun _ => hfull hreading.state, ?_, ?_,
        hfaithful⟩
      · intro hall _
        exact absurd hall (hreading.copied_ne)
      · intro herror
        rw [hreading.state] at herror
        cases herror
      · exact ⟨_, hreading.data⟩
    | complete hstate hcopied harrival hsentinel =>
      have hafter : ∃ outcomes, client.readCalls last rounds sizes context' ps' = some outcomes ∧
          FaithfulReads v data complete payloads (copied ++ bytes) outcomes :=
        faithful_of_state sizes (by rw [hstate]; nofun) (by rw [hcopied]) (by rw [hstate]; nofun)
      obtain ⟨outcomes, hcalls, hfaithful⟩ := hafter
      refine ⟨_, readCalls_cons hrun hcalls, fun _ => ⟨hcopied, hsentinel⟩, fun _ _ => rfl, nofun,
        ?_, ?_, hfaithful⟩
      · intro herror
        rw [hstate] at herror
        cases herror
      · rw [hcopied]
    | failed hstate rest' hrest hcopied hresult =>
      obtain ⟨hcut, rfl⟩ := hresult.resolve_right fun h => hbroken h.1
      have hmissing : ¬ complete := by
        intro hall
        have harrival := hcomplete hall
        rw [hcut] at harrival
        cases harrival
      have hafter : ∃ outcomes, client.readCalls last rounds sizes context' ps' = some outcomes ∧
          FaithfulReads v data complete payloads (copied ++ bytes) outcomes :=
        faithful_of_state sizes (by rw [hstate]; nofun) ⟨rest', hcopied⟩ fun _ => hmissing
      obtain ⟨outcomes, hcalls, hfaithful⟩ := hafter
      refine ⟨_, readCalls_cons hrun hcalls, fun h => absurd h (hlast hcut), ?_,
        fun h => absurd h last.2, fun _ => ⟨last.2, hmissing⟩, ⟨rest', hcopied⟩, hfaithful⟩
      intro hall _
      rw [← hcopied] at hall
      exact absurd (List.append_right_eq_self.mp hall.symm) hrest

theorem pulling_fields (client : TransferClient) (size : ℕ) (context : ClientTransferContext) :
    (pulling client size context).state = .transferInProgress ∧
      (pulling client size context).totalBytes = size ∧
      (pulling client size context).crc32 = 0 ∧
      (pulling client size context).dataChunkSizeInBytes = 0 ∧
      (pulling client size context).dataChunkBytesTransfered = 0 := by
  unfold pulling
  split <;> exact ⟨rfl, rfl, rfl, rfl, rfl⟩

theorem reading_pulling (context : ClientTransferContext) (hdata : data ≠ [])
    (h : Brings v (CRC32 data 0) arrival data ps) :
    Reading v (CRC32 data 0) arrival data (p :: ps) [] data
      (pulling client data.length context) ps := by
  obtain ⟨hstate, htotal, hcrc, hchunk, htransfered⟩ := pulling_fields client data.length context
  have hrest : chunkRest (pulling client data.length context) = [] := by
    unfold chunkRest
    rw [hchunk, htransfered]
    exact slice_zero _ _
  refine ⟨hstate, ?_, ?_, ?_, htotal, ?_, ⟨[p], rfl⟩, fun _ => h, fun hnil => absurd hnil hdata⟩
  · rw [hchunk, htransfered]
  · rw [hrest, hchunk, htransfered]
    rfl
  · rw [hrest]
    rfl
  · rw [hcrc]

theorem not_faithful_of_empty (hp : IsSent v (pullHeader v 0) p.1) (rounds : ℕ)
    (context : ClientTransferContext) :
    ∃ outcomes, client.readCalls last rounds [0] (pulling client 0 context) ps = some outcomes ∧
      ¬ FaithfulReads v [] complete (p :: ps) [] outcomes := by
  obtain ⟨hstate, htotal, -, hchunk, htransfered⟩ := pulling_fields client 0 context
  have hrun :
      (client.readPullTransferData rounds 0 (pulling client 0 context)).run (inbox last) ps =
      some ((.endOfStream, { pulling client 0 context with state := .idle }, []), ps) := by
    unfold readPullTransferData
    rw [if_pos hstate, if_pos ⟨htotal, hchunk.trans htransfered.symm⟩]
    rfl
  refine ⟨_, readCalls_cons hrun rfl, fun hfaithful => ?_⟩
  obtain ⟨-, before, q, hpayloads, hgood⟩ := hfaithful.1 rfl
  have hbefore : before = [] := by
    apply List.eq_nil_of_length_eq_zero
    have hlength := congrArg List.length hpayloads
    simp only [List.length_append, List.length_cons] at hlength
    omega
  rw [hbefore, List.nil_append] at hpayloads
  obtain rfl : p = q := (List.cons.inj hpayloads).1
  have hcommand : (SizedPayloadContainer.zero.fill p.1).command = .transferDataHeader := by
    unfold pullHeader at hp
    split at hp
    · exact hp.headerV2_command _
    · exact hp.header_command _
  have hsentinel := hgood.1
  rw [hcommand] at hsentinel
  cases hsentinel

theorem not_faithful_of_bad (context : ClientTransferContext) (hv : client.version = v)
    (hdata : data ≠ []) (h : Brings v (CRC32 data 0) arrival data ps)
    (hbad : arrival = .broken ∨ (arrival = .cutShort ∧ last.1 = .endOfStream)) :
    ∃ outcomes, client.readCalls last (data.length + (p :: ps).length + 2) [data.length]
        (pulling client data.length context) ps = some outcomes ∧
      ¬ FaithfulReads v data complete (p :: ps) [] outcomes := by
  have hreading : Reading v (CRC32 data 0) arrival data (p :: ps) [] data
      (pulling client data.length context) ps := reading_pulling context hdata h
  have hrounds : data.length + ps.length + 2 ≤ data.length + (p :: ps).length + 2 := by
    rw [List.length_cons]
    omega
  obtain ⟨result, context', bytes, ps', hrun, -, hfull, hend⟩ :=
    run_readPullTransferData hv hreading hrounds
  refine ⟨_, readCalls_cons hrun rfl, fun hfaithful => ?_⟩
  cases hend with
  | more rest hmore =>
    have hlength := congrArg List.length hmore.data
    rw [List.length_append, List.nil_append, hfull hmore.state] at hlength
    have hnil := List.eq_nil_of_length_eq_zero
      (l := chunkRest context' ++ rest) (by omega)
    refine hmore.copied_ne ?_
    have hall := hmore.data
    rw [hnil, List.append_nil] at hall
    exact hall
  | complete _ _ harrival _ =>
    rw [harrival] at hbad
    rcases hbad with hbroken | ⟨hcut, -⟩
    · cases hbroken
    · cases hcut
  | failed hstate rest hrest hcopied hresult =>
    rcases hresult with ⟨hcut, rfl⟩ | ⟨-, rfl⟩
    · have hend : last.1 = .endOfStream := (hbad.resolve_left fun hb => by
        rw [hcut] at hb
        cases hb).2
      -- the end of the session is taken for the end of the stream
      have hall := (hfaithful.1 hend).1
      rw [← hcopied] at hall
      exact hrest (List.append_right_eq_self.mp hall.symm)
    · exact (hfaithful.2.2.2.1 hstate).1 rfl

/-- Whatever the server's `Send` and `Receive` answer, what has arrived of a pull of `data` is a
first part of the header, the data and the good sentinel.  And on such payloads, or when another
sentinel arrives, the reads of the client are faithful, with buffers of any sizes, just when the
block is not empty, no sentinel arrives but the good one in its place, and the session is not
closed without one. -/
theorem pull_transfer_integrity (client : TransferClient) (data : List UInt8)
    (hsize : data.length < 2 ^ 32) (context : ClientTransferContext)
    (hidle : context.state = .idle) (blockId : BlockId) :
    (∀ (b : BlockRef) (l : TransferLink) (turns : List ServerTurn),
      PullRequested client.version b l → (l.manager.blocks b).data = data →
      (l.manager.blocks b).crc32 = CRC32 data 0 → (l.serverTurns turns).toClient ≠ [] →
      ∃ ending, PullEnding.Good client.version data ending ∧
        DeliversPull client.version data (l.serverTurns turns).toClient ending) ∧
    ∀ (payloads : List SessionPayload) (ending : PullEnding) (last : ReceiveFailure),
      DeliversPull client.version data payloads ending → ∃ context' ps,
        (client.requestPullTransfer blockId context).run (inbox last) payloads =
          some ((.success, context', some data.length), ps) ∧
        ((∀ (rounds : ℕ) (sizes : List ℕ),
          (∀ size ∈ sizes, size + payloads.length + 2 ≤ rounds) →
            ∃ outcomes, client.readCalls last rounds sizes context' ps = some outcomes ∧
              FaithfulReads client.version data (ending ≠ .cutShort) payloads [] outcomes) ↔
          data ≠ [] ∧ PullEnding.Good client.version data ending ∧
            (ending = .cutShort → last.1 ≠ .endOfStream)) := by
  refine ⟨fun b l turns hrequested hdata hcrc hne => ?_, fun payloads ending last hdelivers => ?_⟩
  · rcases hrequested.serverTurns turns with hnothing | ⟨⟨-, f, hpath, -⟩, -⟩
    · exact absurd hnothing.toClient hne
    · rw [hdata, hcrc] at hpath
      exact deliversPull_of_path hpath hne
  · obtain ⟨p, ps, rfl, hp, hgood, hbroken⟩ := hdelivers.brings
    refine ⟨_, ps, run_requestPullTransfer client rfl hp hsize hidle blockId ps, ?_, ?_⟩
    · intro hall
      have hdata : data ≠ [] := by
        rintro rfl
        obtain ⟨outcomes', hcalls', hfaithful⟩ := hall ((p :: ps).length + 2) [0] (by simp)
        obtain ⟨outcomes, hcalls, hnot⟩ :=
          not_faithful_of_empty hp ((p :: ps).length + 2) context
        obtain rfl := Option.some.inj (hcalls.symm.trans hcalls')
        exact hnot hfaithful
      have hfine : ∀ arrival, Brings client.version (CRC32 data 0) arrival data ps →
          ¬ (arrival = .broken ∨ (arrival = .cutShort ∧ last.1 = .endOfStream)) := by
        intro arrival hbrings hbad
        obtain ⟨outcomes, hcalls, hnot⟩ :=
          not_faithful_of_bad (p := p) context rfl hdata hbrings hbad
        obtain ⟨outcomes', hcalls', hfaithful⟩ :=
          hall (data.length + (p :: ps).length + 2) [data.length] (by simp)
        obtain rfl := Option.some.inj (hcalls.symm.trans hcalls')
        exact hnot hfaithful
      have hending : PullEnding.Good client.version data ending := by
        by_contra hending
        exact hfine _ (hbroken hending) (.inl rfl)
      refine ⟨hdata, hending, ?_⟩
      rintro rfl hlast
      exact hfine _ (hgood hending) (.inr ⟨rfl, hlast⟩)
    · rintro ⟨hdata, hending, hlast⟩ rounds sizes hrounds
      refine faithful_of_reading sizes rfl (reading_pulling context hdata (hgood hending)) ?_ ?_ ?_
        fun size hsize => le_trans (by rw [List.length_cons]; omega) (hrounds size hsize)
      · cases ending <;> nofun
      · intro hcomplete
        cases ending with
        | cutShort => exact absurd rfl hcomplete
        | served | sentinel => rfl
      · intro hcut
        cases ending with
        | cutShort => exact hlast rfl
        | served | sentinel => cases hcut

end Transfer

def closedBlock (data : List UInt8) : ServerBlock := ⟨true, data, data.length, 0, CRC32 data 0⟩

def requestedLink (data : List UInt8) : TransferLink where
  server := .new 2
  manager := ⟨fun blockId => if blockId = 7 then some 0 else none, fun _ => closedBlock data, 1⟩
  toServer := [toSessionPayload (transferRequest 7 .pull 0)]
  toClient := []

theorem isSent_self {v : Version} (hv : transferRefactorVersion ≤ v) (data : List UInt8) :
    IsSent v data data := ⟨⟨[], (List.append_nil _).symm⟩, (if_pos hv).symm⟩

theorem pullRequested_requestedLink (data : List UInt8) :
    PullRequested 2 0 (requestedLink data) :=
  ⟨rfl, rfl, rfl, ⟨7, _, rfl, isSent_self (by decide) _, rfl⟩, rfl, le_refl _⟩

theorem data_closedBlock (data : List UInt8) : (closedBlock data).data = data := List.take_length

theorem pull_transfer_integrity_served : ∃ context' ps,
    ((requestedLink [1, 2]).serverTurns [⟨1, [.success, .success, .success]⟩]).toClient.length = 3 ∧
    ((defaultClient 2).requestPullTransfer 7 .zero).run (inbox ⟨.notReady, nofun⟩)
      ((requestedLink [1, 2]).serverTurns [⟨1, [.success, .success, .success]⟩]).toClient =
        some ((.success, context', some 2), ps) ∧
    ∃ outcomes, (defaultClient 2).readCalls ⟨.notReady, nofun⟩ 10 [1, 5] context' ps =
      some outcomes ∧
      ∃ complete, FaithfulReads 2 [1, 2] complete
        ((requestedLink [1, 2]).serverTurns [⟨1, [.success, .success, .success]⟩]).toClient []
        outcomes := by
  have hlength : ((requestedLink [1, 2]).serverTurns
      [⟨1, [.success, .success, .success]⟩]).toClient.length = 3 := by
    decide +kernel
  have hne : ((requestedLink [1, 2]).serverTurns
      [⟨1, [.success, .success, .success]⟩]).toClient ≠ [] := by
    intro hnil
    rw [hnil] at hlength
    cases hlength
  obtain ⟨hserver, hclient⟩ := pull_transfer_integrity (defaultClient 2) [1, 2] (by decide)
    .zero rfl 7
  obtain ⟨ending, hgood, hdelivers⟩ := hserver 0 (requestedLink [1, 2]) _
    (pullRequested_requestedLink [1, 2]) rfl rfl hne
  obtain ⟨context', ps, hrun, hiff⟩ := hclient _ ending ⟨.notReady, nofun⟩ hdelivers
  obtain ⟨outcomes, hcalls, hfaithful⟩ := hiff.mpr ⟨nofun, hgood, nofun⟩ 10 [1, 5] (by
    rw [hlength]
    decide)
  exact ⟨context', ps, hlength, hrun, outcomes, hcalls, _, hfaithful⟩

/-- A pull of an empty block ends before its sentinel was received. -/
theorem empty_pull_unchecked : ¬ ∀ (client : TransferClient) (data : List UInt8)
    (payloads : List SessionPayload) (ending : PullEnding)
    (context context' : ClientTransferContext)
    (blockId : BlockId) (ps : List SessionPayload) (last : ReceiveFailure) (rounds : ℕ)
    (sizes : List ℕ), data.length < 2 ^ 32 → context.state = .idle →
    DeliversPull client.version data payloads ending →
    (client.requestPullTransfer blockId context).run (inbox last) payloads =
      some ((.success, context', some data.length), ps) →
    (∀ size ∈ sizes, size + payloads.length + 2 ≤ rounds) →
    ∃ outcomes, client.readCalls last rounds sizes context' ps = some outcomes ∧
      FaithfulReads client.version data (ending ≠ .cutShort) payloads [] outcomes := by
  intro hall
  have hheader : IsSent 2 (pullHeader 2 0) (toSessionPayload (pullHeader 2 0)).1 :=
    isSent_self (by decide) _
  have hsentinel : IsSent 2 (transferDataSentinel .success 0)
      (toSessionPayload (transferDataSentinel .success 0)).1 := isSent_self (by decide) _
  have hdelivers : DeliversPull 2 [] [toSessionPayload (pullHeader 2 0),
      toSessionPayload (transferDataSentinel .success 0)] .served :=
    .cons (.header hheader) (.cons (.sentinel hsentinel) (.nil _))
  obtain ⟨outcomes', hcalls', hfaithful⟩ := hall (defaultClient 2) [] _ .served .zero _ 7 _
    ⟨.notReady, nofun⟩ 4 [0] (by decide) rfl hdelivers
    (run_requestPullTransfer (defaultClient 2) rfl hheader (by decide) rfl 7 _) (by decide)
  obtain ⟨outcomes, hcalls, hnot⟩ :
      ∃ outcomes, (defaultClient 2).readCalls ⟨.notReady, nofun⟩ 4 [0]
          (pulling (defaultClient 2) 0 .zero)
          [toSessionPayload (transferDataSentinel .success 0)] = some outcomes ∧
        ¬ FaithfulReads 2 [] _ _ [] outcomes :=
    not_faithful_of_empty hheader 4 .zero
  obtain rfl := Option.some.inj (hcalls.symm.trans hcalls')
  exact hnot hfaithful

end DevDriver.Analysis
