import DevDriver.Analysis.LinkPhases

/-!
# Client and server in step

The calls of a client go through the phases of its link.
-/

namespace DevDriver.Analysis

open Library Model TransferClient

/-! ## What a call meets -/

def ServerUpdates : TransferLink → TransferLink → Prop :=
  Relation.ReflTransGen fun l l' => ∃ turn, ¬ MissesAbort turn l ∧ l' = l.serverTurn turn

def KeptByUpdates (I : TransferLink → Prop) : Prop :=
  ∀ l turn, I l → ¬ MissesAbort turn l → I (l.serverTurn turn)

def Consistently (I : TransferLink → Prop) (l : TransferLink) : Prop :=
  ConsistentBlocks l.manager ∧ I l

variable {l : TransferLink}

theorem KeptByUpdates.updates {I : TransferLink → Prop} (hI : KeptByUpdates I) {l' : TransferLink}
    (h : ServerUpdates l l') (hl : I l) : I l' := by
  induction h with
  | refl => exact hl
  | tail _ hstep ih =>
    obtain ⟨turn, hnot, rfl⟩ := hstep
    exact hI _ turn ih hnot

theorem keptByUpdates_consistently {I : TransferLink → Prop}
    (h : ∀ l turn, ConsistentBlocks l.manager → I l → ¬ MissesAbort turn l →
      I (l.serverTurn turn)) : KeptByUpdates (Consistently I) :=
  fun l turn hl hnot => ⟨consistentBlocks_serverTurn hl.1 turn, h l turn hl.1 hl.2 hnot⟩

/-- The link that a call of the client goes on with, and whether its last `Receive` got nothing. -/
structure CallPhase where
  link : TransferLink
  missed : Bool

def linkProtocol (c : ClientCall) :
    Dialogue.Protocol CallPhase (List UInt8) Result ReceiveAnswer where
  sends q m r q' := ∃ l, ServerUpdates q.link l ∧
    ((r = .notReady ∧ q' = ⟨l, false⟩) ∨
      (r = .success ∧ (c = .abortPullTransfer → ¬ SentinelUnread l) ∧
        q' = ⟨{ l with toServer := l.toServer ++ [toSessionPayload m] }, false⟩))
  receives q r q' := ∃ l, ServerUpdates q.link l ∧
    ((r = .notReady ∧ q' = ⟨l, true⟩) ∨
      ∃ p ps, l.toClient = p :: ps ∧ r = .payload p ∧ q' = ⟨{ l with toClient := ps }, false⟩)

theorem ensures_updates {α : Type} {c : ClientCall} {d : TransferDialogue α}
    {post : α → CallPhase → Prop} {q : CallPhase} (h : d.Ensures (linkProtocol c) post q)
    (hd : ∀ a, d ≠ .done a) (hl : ServerUpdates q.link l) :
    d.Ensures (linkProtocol c) post ⟨l, q.missed⟩ := by
  cases d with
  | done a => exact absurd rfl (hd a)
  | send m next =>
    rintro r q' ⟨l', hl', hstep⟩
    exact h r q' ⟨l', hl.trans hl', hstep⟩
  | receive next =>
    rintro r q' ⟨l', hl', hstep⟩
    exact h r q' ⟨l', hl.trans hl', hstep⟩
  | pending => trivial

section Rules

variable {c : ClientCall} {I J : TransferLink → Prop} {K : SessionPayload → TransferLink → Prop}
  {q : CallPhase}

theorem ensures_sendRounds (hI : KeptByUpdates I) {m : List UInt8}
    (hsend : ∀ l, I l → (c = .abortPullTransfer → ¬ SentinelUnread l) →
      J { l with toServer := l.toServer ++ [toSessionPayload m] })
    (rounds : ℕ) (hq : I q.link) : (sendRounds m rounds).Ensures (linkProtocol c)
      (fun r q => (r = .success ∧ J q.link) ∨ (r = .notReady ∧ I q.link)) q := by
  induction rounds generalizing q with
  | zero => exact .inr ⟨rfl, hq⟩
  | succ rounds ih =>
    rintro r q' ⟨l, hupdates, ⟨rfl, rfl⟩ | ⟨rfl, hunread, rfl⟩⟩
    · exact ih (hI.updates hupdates hq)
    · exact .inl ⟨rfl, hsend l (hI.updates hupdates hq) hunread⟩

variable (client : TransferClient)

theorem ensures_sendTransferPayload (hI : KeptByUpdates I) (payload : List UInt8)
    (hlength : payload.length ≤ kMaxPayloadSizeInBytes)
    (hsend : ∀ l, I l → (c = .abortPullTransfer → ¬ SentinelUnread l) → ∀ p : SessionPayload,
      IsSent client.version payload p.1 → J { l with toServer := l.toServer ++ [p] })
    (container : SizedPayloadContainer) (hq : I q.link) :
    (client.sendTransferPayload (container.fill payload)).Ensures (linkProtocol c)
      (fun r q => (r = .success ∧ J q.link) ∨ (r = .notReady ∧ I q.link)) q := by
  refine ensures_sendRounds hI (fun l hl hunread => hsend l hl hunread _ ?_) _ hq
  have hsent : IsSent client.version payload ((container.fill payload).sentBytes client.version) :=
    isSent_sentBytes hlength _ _
  show IsSent _ _ (((container.fill payload).sentBytes client.version).take _)
  rw [List.take_of_length_le (hsent.length_le hlength)]
  exact hsent

theorem ensures_receiveRounds (hI : KeptByUpdates I)
    (hreceive : ∀ l p ps, I l → l.toClient = p :: ps → K p { l with toClient := ps })
    (container : SizedPayloadContainer) (rounds : ℕ) (hq : I q.link)
    (hmissed : rounds = 0 → q.missed = true) :
    (receiveRounds container rounds).Ensures (linkProtocol c)
      (fun x q => (∃ p, x = (.success, container.fill p.1) ∧ K p q.link) ∨
        (x = (.notReady, container) ∧ I q.link ∧ q.missed = true)) q := by
  induction rounds generalizing q with
  | zero => exact .inr ⟨rfl, hq, hmissed rfl⟩
  | succ rounds ih =>
    rintro r q' ⟨l, hupdates, ⟨rfl, rfl⟩ | ⟨p, ps, hto, rfl, rfl⟩⟩
    · exact ih (hI.updates hupdates hq) fun _ => rfl
    · exact .inl ⟨p, rfl, hreceive l p ps (hI.updates hupdates hq) hto⟩

theorem ensures_receiveTransferPayload (hI : KeptByUpdates I)
    (hreceive : ∀ l p ps, I l → l.toClient = p :: ps → K p { l with toClient := ps })
    (container : SizedPayloadContainer) (timeoutInMs : ℕ) (hq : I q.link) :
    (client.receiveTransferPayload container timeoutInMs).Ensures (linkProtocol c)
      (fun x q => (∃ p, x = (.success, container.fill p.1) ∧ K p q.link) ∨
        (x = (.notReady, container) ∧ I q.link ∧ q.missed = true)) q :=
  ensures_receiveRounds hI hreceive container _ hq fun h => absurd h (Nat.succ_ne_zero _)

theorem ensures_transactTransferPayload (hI : KeptByUpdates I) (hJ : KeptByUpdates J)
    (payload : List UInt8) (hlength : payload.length ≤ kMaxPayloadSizeInBytes)
    (hsend : ∀ l, I l → ∀ p : SessionPayload,
      IsSent client.version payload p.1 → J { l with toServer := l.toServer ++ [p] })
    (hreceive : ∀ l p ps, J l → l.toClient = p :: ps → K p { l with toClient := ps })
    (container : SizedPayloadContainer) (hq : I q.link) :
    (client.transactTransferPayload (container.fill payload)).Ensures (linkProtocol c)
      (fun x q => (∃ p, x = (.success, (container.fill payload).fill p.1) ∧ K p q.link) ∨
        (x.1 = .notReady ∧ (I q.link ∨ q.missed = true))) q := by
  have hsent := ensures_sendTransferPayload (c := c) client hI payload hlength
    (fun l hl _ => hsend l hl) container hq
  refine hsent.bind ?_
  rintro r q' (⟨rfl, hq'⟩ | ⟨rfl, hq'⟩)
  · rw [if_pos rfl]
    refine (ensures_receiveTransferPayload client hJ hreceive _ _ hq').mono ?_
    rintro x q'' (hanswer | ⟨rfl, -, hmissed⟩)
    · exact .inl hanswer
    · exact .inr ⟨rfl, .inr hmissed⟩
  · rw [if_neg (by simp)]
    exact .inr ⟨rfl, .inl hq'⟩

end Rules

/-- A transfer in progress: the client has still to receive a part of the pull, or it has received
all and has only to copy it, or it pushes. -/
inductive InTransfer (v : Version) (context : ClientTransferContext) (l : TransferLink) :
    Prop where
  | pulling {data : List UInt8} {crc : UInt32} (h : Pulling v data crc l)
      (hbytes : context.totalBytes ≤ data.length)
      (hmore : 0 < context.totalBytes ∨
        context.dataChunkSizeInBytes = context.dataChunkBytesTransfered)
  | pulled (h : AtRest v l) (hbytes : context.totalBytes = 0)
      (hcopied : context.dataChunkBytesTransfered < context.dataChunkSizeInBytes)
  | pushing (h : PushGoesOn v l) (htype : context.type = .push)
      (hchunk : context.dataChunkSizeInBytes ≤ context.dataChunkBytesTransfered)

/-- Between two calls the context of the client and the link agree, or the client has seen an
error and makes no further transfer. -/
def Agrees (v : Version) (context : ClientTransferContext) (l : TransferLink) : Prop :=
  context.state = .error ∨ (ConsistentBlocks l.manager ∧
    ((context.state = .idle ∧ AtRest v l) ∨
      (context.state = .transferInProgress ∧ InTransfer v context l)))

/-- The end of the data, as `ReadPullTransferData` looks for it before anything else. -/
def AtEnd (context : ClientTransferContext) : Prop :=
  context.totalBytes = 0 ∧ context.dataChunkSizeInBytes = context.dataChunkBytesTransfered

theorem agrees_of_error {v : Version} {context : ClientTransferContext}
    (h : context.state = .error) :
    Agrees v context l := .inl h

section Between

variable {v : Version} {context : ClientTransferContext} {l : TransferLink}

theorem Agrees.idle (h : Agrees v context l) (hstate : context.state = .idle) :
    Consistently (AtRest v) l := by
  rcases h with herror | ⟨hblocks, ⟨-, hrest⟩ | ⟨hprogress, -⟩⟩
  · exact absurd (hstate.symm.trans herror) nofun
  · exact ⟨hblocks, hrest⟩
  · exact absurd (hstate.symm.trans hprogress) nofun

theorem Agrees.inProgress (h : Agrees v context l) (hstate : context.state = .transferInProgress) :
    Consistently (InTransfer v context) l := by
  rcases h with herror | ⟨hblocks, ⟨hidle, -⟩ | ⟨-, hin⟩⟩
  · exact absurd (hstate.symm.trans herror) nofun
  · exact absurd (hstate.symm.trans hidle) nofun
  · exact ⟨hblocks, hin⟩

theorem keptByUpdates_atRest : KeptByUpdates (Consistently (AtRest v)) :=
  keptByUpdates_consistently fun _ turn _ h _ => h.serverTurn turn

theorem keptByUpdates_pulling {data : List UInt8} {crc : UInt32} :
    KeptByUpdates (Consistently (Pulling v data crc)) :=
  keptByUpdates_consistently fun _ turn _ h _ => h.serverTurn turn

end Between

/-! ## Pull transfers -/

section Pull

variable {client : TransferClient} {context : ClientTransferContext} {c : ClientCall}
  {q : CallPhase}

variable {v : Version} {l : TransferLink}

variable {data : List UInt8} {crc : UInt32}

theorem agrees_of_start (hblocks : ConsistentBlocks l.manager) (hpulling : Pulling v data crc l)
    (type : TransferType) : Agrees v
      { context.start (data.length % 2 ^ 32) with type := type } l :=
  .inr ⟨hblocks, .inr ⟨rfl, .pulling hpulling (Nat.mod_le _ _) (.inr rfl)⟩⟩

theorem ensures_requestPullTransfer (h : Agrees client.version context q.link)
    (blockId : BlockId) : (client.requestPullTransfer blockId context).Ensures (linkProtocol c)
      (fun x q => Agrees client.version x.2.1 q.link) q := by
  unfold requestPullTransfer
  by_cases hidle : context.state = .idle
  · rw [if_pos hidle]
    have hasked := ensures_transactTransferPayload (c := c) client
      (I := Consistently (AtRest client.version)) (J := Consistently (PullAsked client.version))
      (K := fun p l => Consistently (fun l => (∃ data crc,
        IsSent client.version (pullHeader client.version data.length) p.1 ∧
          Pulling client.version data crc l) ∨
        (IsSent client.version (transferStatus .error) p.1 ∧ AtRest client.version l)) l)
      keptByUpdates_atRest
      (keptByUpdates_consistently fun _ turn hblocks h _ => h.serverTurn hblocks turn)
      (transferRequest blockId .pull 0) (by simp [transferRequest]; decide)
      (fun l hl p hp => ⟨hl.1, hl.2.askPull hp⟩)
      (fun l p ps hl hto => ⟨hl.1, hl.2.receive hto⟩) .zero (h.idle hidle)
    refine hasked.bind ?_
    rintro ⟨result, container⟩ q' (⟨p, hx, hblocks, ⟨data, crc, hp, hpulling⟩ | ⟨hp, -⟩⟩ | ⟨hx, -⟩)
    · rw [hx]
      dsimp only
      unfold pullHeader at hp
      by_cases hnew : transferRefactorVersion ≤ client.version
      · rw [if_pos hnew] at hp
        rw [if_pos ⟨rfl, hp.headerV2_command _⟩, if_pos hnew, hp.headerV2_size]
        exact agrees_of_start hblocks hpulling context.type
      · rw [if_neg hnew] at hp
        rw [if_pos ⟨rfl, hp.header_command _⟩, if_neg hnew,
          if_pos (hp.header_result coded_success _), hp.header_size]
        exact agrees_of_start hblocks hpulling .pull
    · rw [hx]
      simp only [hp.status_command, reduceCtorEq, and_false, if_false]
      exact agrees_of_error rfl
    · simp only [show result = .notReady from hx, reduceCtorEq, false_and, if_false]
      exact agrees_of_error rfl
  · rw [if_neg hidle]
    exact h

def Reads (v : Version) (context : ClientTransferContext) (l : TransferLink) : Prop :=
  Agrees v context l ∧ (context.state = .transferInProgress → ¬ AtEnd context)

theorem reads_of_error (h : context.state = .error) :
    Reads v context l :=
  ⟨.inl h, fun hstate => absurd (h.symm.trans hstate) nofun⟩

theorem ensures_receivePullSentinel (hstate : context.state = .transferInProgress)
    (hbytes : context.totalBytes = 0)
    (hcopied : context.dataChunkBytesTransfered < context.dataChunkSizeInBytes)
    (h : Consistently (Pulling client.version data crc) q.link) :
    (client.receivePullSentinel context).Ensures (linkProtocol c)
      (fun x q => Reads client.version x.2 q.link) q := by
  have hreceived := ensures_receiveTransferPayload (c := c) client keptByUpdates_pulling
    (K := fun p l => Consistently (fun l => (∀ c : SizedPayloadContainer,
      (c.fill p.1).command = .transferDataChunk) ∨ AtRest client.version l) l)
    (fun l p ps hl hto => ⟨hl.1, by
      rcases hl.2.receive hto with ⟨-, hp, -⟩ | ⟨-, -, hrest⟩
      · exact .inl hp.chunk_command
      · exact .inr hrest⟩) .zero kTransferChunkTimeoutInMs h
  refine hreceived.bind ?_
  rintro ⟨result, sentinel⟩ q' (⟨p, hx, hblocks, hchunk | hrest⟩ | ⟨hx, -⟩)
  · rw [hx]
    simp only [hchunk, ne_eq, reduceCtorEq, not_false_eq_true, true_or, or_true, if_true]
    exact reads_of_error rfl
  · dsimp only
    split
    · exact reads_of_error rfl
    · split
      · exact reads_of_error rfl
      · exact ⟨.inr ⟨hblocks, .inr ⟨hstate, .pulled hrest hbytes hcopied⟩⟩,
          fun _ hend => absurd hend.2 (Nat.ne_of_gt hcopied)⟩
  · rw [hx]
    exact reads_of_error rfl

variable {p : SessionPayload}

theorem takeChunk_bounds (context : ClientTransferContext)
    (hp : IsSent v (transferDataChunk (data.take kMaxTransferDataChunkSize)) p.1)
    {c : SizedPayloadContainer} (hscratch : context.scratchPayload = c.fill p.1)
    (hpos : 0 < context.totalBytes) (hbytes : context.totalBytes ≤ data.length) :
    context.takeChunk.totalBytes ≤ (data.drop kMaxTransferDataChunkSize).length ∧
      0 < context.takeChunk.dataChunkSizeInBytes := by
  have hsize := hp.size
  have hmax : kMaxPayloadSizeInBytes = kMaxTransferDataChunkSize + 4 := rfl
  have hchunk : 0 < kMaxTransferDataChunkSize := by decide
  rw [transferDataChunk, List.length_append, length_leBytes, List.length_take] at hsize
  have hreceived : min data.length kMaxTransferDataChunkSize ≤
      min (sub64 context.scratchPayload.payloadSize 4) kMaxTransferDataChunkSize := by
    have hpayload : context.scratchPayload.payloadSize = p.1.length := by rw [hscratch]; rfl
    rw [hpayload, sub64_of_le (by split at hsize <;> omega)]
    split at hsize <;> omega
  rw [List.length_drop]
  refine ⟨?_, ?_⟩
  · show context.totalBytes - min (min (sub64 context.scratchPayload.payloadSize 4)
      kMaxTransferDataChunkSize) context.totalBytes ≤ _
    omega
  · show 0 < min (min (sub64 context.scratchPayload.payloadSize 4) kMaxTransferDataChunkSize)
      context.totalBytes
    omega

theorem InTransfer.receive (h : InTransfer v context l) (hpos : 0 < context.totalBytes)
    {ps : List SessionPayload} (hto : l.toClient = p :: ps) :
    (∀ c : SizedPayloadContainer, (c.fill p.1).command ≠ .transferDataChunk) ∨
      ∃ (data : List UInt8) (crc : UInt32), IsSent v (transferDataChunk
        (data.take kMaxTransferDataChunkSize)) p.1 ∧ context.totalBytes ≤ data.length ∧
        Pulling v (data.drop kMaxTransferDataChunkSize) crc { l with toClient := ps } := by
  cases h with
  | @pulling data crc hpulling hbytes =>
    rcases hpulling.receive hto with ⟨-, hp, hnext⟩ | ⟨-, hp, -⟩
    · exact .inr ⟨data, crc, hp, hbytes, hnext⟩
    · refine .inl fun c => ?_
      rw [hp.sentinel_command]
      exact nofun
  | pulled _ hbytes => exact absurd hbytes (Nat.ne_of_gt hpos)
  | pushing hpush =>
    refine .inl fun c => ?_
    rw [hpush.receive hto c]
    exact nofun

theorem keptByUpdates_inTransfer :
    KeptByUpdates (Consistently (InTransfer v context)) :=
  keptByUpdates_consistently fun l turn _ h _ => by
    cases h with
    | pulling hpulling hbytes hmore => exact .pulling (hpulling.serverTurn turn) hbytes hmore
    | pulled hrest hbytes hcopied => exact .pulled (hrest.serverTurn turn) hbytes hcopied
    | pushing hpush htype hchunk => exact .pushing (hpush.serverTurn turn) htype hchunk

theorem ensures_receivePullChunk (hstate : context.state = .transferInProgress)
    (hpos : 0 < context.totalBytes) (h : Consistently (InTransfer client.version context) q.link) :
    (client.receivePullChunk context).Ensures (linkProtocol c)
      (fun x q => Reads client.version x.2 q.link) q := by
  have hreceived := ensures_receiveTransferPayload (c := c) client keptByUpdates_inTransfer
    (K := fun p l => Consistently (fun l =>
      (∀ c : SizedPayloadContainer, (c.fill p.1).command ≠ .transferDataChunk) ∨
      ∃ (data : List UInt8) (crc : UInt32),
        IsSent client.version (transferDataChunk (data.take kMaxTransferDataChunkSize)) p.1 ∧
        context.totalBytes ≤ data.length ∧
        Pulling client.version (data.drop kMaxTransferDataChunkSize) crc l) l)
    (fun l p ps hl hto => ⟨hl.1, hl.2.receive hpos hto⟩) context.scratchPayload
    kTransferChunkTimeoutInMs h
  refine hreceived.bind ?_
  rintro ⟨result, scratchPayload⟩ q'
    (⟨p, hx, hblocks, hother | ⟨data, crc, hp, hbytes, hpulling⟩⟩ | ⟨hx, -⟩)
  · rw [hx]
    simp only [hother, and_false, if_false]
    exact reads_of_error rfl
  · cases hx
    have hbounds := takeChunk_bounds { context with
      scratchPayload := context.scratchPayload.fill p.1 } hp rfl hpos hbytes
    simp only [hp.chunk_command, and_self, if_true]
    split
    · rename_i hzero
      exact ensures_receivePullSentinel hstate hzero hbounds.2 ⟨hblocks, hpulling⟩
    · rename_i hmore
      exact ⟨.inr ⟨hblocks, .inr ⟨hstate,
        .pulling hpulling hbounds.1 (.inl (Nat.pos_of_ne_zero hmore))⟩⟩, fun _ hend => hmore hend.1⟩
  · rw [hx]
    simp only [reduceCtorEq, false_and, if_false]
    exact reads_of_error rfl

theorem InTransfer.copyChunk (h : InTransfer v context l) {bytes : ℕ}
    (hbytes : bytes ≤ context.dataChunkSizeInBytes - context.dataChunkBytesTransfered)
    (hpos : 0 < context.dataChunkSizeInBytes - context.dataChunkBytesTransfered) :
    (AtEnd (context.copyChunk bytes).2 ∧ AtRest v l) ∨
      (¬ AtEnd (context.copyChunk bytes).2 ∧ InTransfer v (context.copyChunk bytes).2 l) := by
  cases h with
  | pulling hpulling hlength hmore =>
    have hleft : 0 < context.totalBytes := by
      rcases hmore with hmore | hmore
      · exact hmore
      · omega
    exact .inr ⟨fun h => Nat.ne_of_gt hleft h.1, .pulling hpulling hlength (.inl hleft)⟩
  | pulled hrest hzero _ =>
    by_cases hall : context.dataChunkBytesTransfered + bytes = context.dataChunkSizeInBytes
    · exact .inl ⟨⟨hzero, hall.symm⟩, hrest⟩
    · refine .inr ⟨fun h => hall h.2.symm, .pulled hrest hzero ?_⟩
      show context.dataChunkBytesTransfered + bytes < context.dataChunkSizeInBytes
      omega
  | pushing _ _ hchunk => omega

theorem ensures_readLoop (rounds remaining : ℕ) (result : Result)
    (h : Reads client.version context q.link) (copied : List UInt8) :
    (client.readLoop rounds remaining result context copied).Ensures (linkProtocol c)
      (fun x q => Agrees client.version x.2.1 q.link) q := by
  induction rounds generalizing remaining result context copied q with
  | zero => trivial
  | succ rounds ih =>
    unfold readLoop
    by_cases hgo : 0 < remaining ∧ context.state = .transferInProgress
    · rw [if_pos hgo]
      obtain ⟨hblocks, hin⟩ := h.1.inProgress hgo.2
      by_cases havailable : 0 < context.dataChunkSizeInBytes - context.dataChunkBytesTransfered
      · rw [if_pos havailable]
        rcases hin.copyChunk (Nat.min_le_right remaining _) havailable with
          ⟨hend, hrest⟩ | ⟨hend, hin'⟩
        · rw [if_pos ⟨hend.2.symm, hend.1⟩]
          refine ih _ _ ?_ _
          exact ⟨.inr ⟨hblocks, .inl ⟨rfl, hrest⟩⟩, fun h => by cases h⟩
        · rw [if_neg fun h => hend ⟨h.2, h.1.symm⟩]
          refine ih _ _ ?_ _
          exact ⟨.inr ⟨hblocks, .inr ⟨hgo.2, hin'⟩⟩, fun _ => hend⟩
      · rw [if_neg havailable]
        by_cases hmore : 0 < context.totalBytes
        · rw [if_pos hmore]
          refine (ensures_receivePullChunk hgo.2 hmore ⟨hblocks, hin⟩).bind ?_
          exact fun x q' hreads => ih _ _ hreads _
        · rw [if_neg hmore]
          exact ih _ _ h _
    · rw [if_neg hgo]
      exact h.1

theorem ensures_readPullTransferData (h : Agrees client.version context q.link)
    (hend : context.state = .transferInProgress → ¬ AtEnd context) (rounds bufferSize : ℕ) :
    (client.readPullTransferData rounds bufferSize context).Ensures (linkProtocol c)
      (fun x q => Agrees client.version x.2.1 q.link) q := by
  unfold readPullTransferData
  by_cases hstate : context.state = .transferInProgress
  · have hmore : ¬ (context.totalBytes = 0 ∧
        context.dataChunkSizeInBytes = context.dataChunkBytesTransfered) := hend hstate
    rw [if_pos hstate, if_neg hmore]
    split
    · exact ensures_readLoop _ _ _ ⟨h, hend⟩ _
    · exact h
  · rw [if_neg hstate]
    exact h

theorem ensures_abortLoop (rounds : ℕ) {container : SizedPayloadContainer}
    (hcommand : container.command ≠ .transferDataSentinel)
    (h : Consistently (Aborting client.version) q.link) :
    (client.abortLoop rounds .success container).Ensures (linkProtocol c)
      (fun x q => x.1 = .success → x.2.command = .transferDataSentinel →
        Consistently (AtRest client.version) q.link) q := by
  induction rounds generalizing container q with
  | zero => trivial
  | succ rounds ih =>
    unfold abortLoop
    rw [if_pos ⟨rfl, hcommand⟩]
    have hreceived := ensures_receiveTransferPayload (c := c) client
      (I := Consistently (Aborting client.version))
      (keptByUpdates_consistently fun _ turn _ h hnot => h.serverTurn hnot)
      (K := fun p l => Consistently (fun l => ((∀ c : SizedPayloadContainer,
          (c.fill p.1).command ≠ .transferDataSentinel) ∧ Aborting client.version l) ∨
        ((∀ c : SizedPayloadContainer, (c.fill p.1).command = .transferDataSentinel) ∧
          AtRest client.version l)) l)
      (fun l p ps hl hto => ⟨hl.1, hl.2.receive hto⟩) container
      client.timeouts.communicationTimeoutInMs h
    refine hreceived.bind ?_
    rintro ⟨result, answer⟩ q'
      (⟨p, hx, hblocks, ⟨hother, habort⟩ | ⟨hsentinel, hrest⟩⟩ | ⟨hx, -⟩)
    · cases hx
      exact ih (hother container) ⟨hblocks, habort⟩
    · cases hx
      cases rounds with
      | zero => trivial
      | succ rounds =>
        dsimp only
        unfold abortLoop
        rw [if_neg fun h => h.2 (hsentinel container)]
        exact fun _ _ => ⟨hblocks, hrest⟩
    · cases hx
      cases rounds with
      | zero => trivial
      | succ rounds =>
        dsimp only
        unfold abortLoop
        rw [if_neg fun h => absurd h.1 (by simp)]
        exact fun h => absurd h (by simp)

theorem InTransfer.abort (h : InTransfer v context l) (htype : context.type = .pull)
    (hunread : ¬ SentinelUnread l) (hp : IsSent v (transferStatus .aborted) p.1) :
    Aborting v { l with toServer := l.toServer ++ [p] } := by
  cases h with
  | pulling hpulling => exact hpulling.abort hunread hp
  | pulled hrest => exact hrest.abort hp
  | pushing _ hpush => exact absurd (htype.symm.trans hpush) nofun

theorem ensures_abortPullTransfer (h : Agrees client.version context q.link) (rounds : ℕ) :
    (client.abortPullTransfer rounds context).Ensures (linkProtocol .abortPullTransfer)
      (fun x q => Agrees client.version x.2 q.link) q := by
  unfold abortPullTransfer
  by_cases hpull : context.state = .transferInProgress ∧ context.type = .pull
  · rw [if_pos hpull]
    have hsent := ensures_sendTransferPayload (c := .abortPullTransfer) client
      (I := Consistently (InTransfer client.version context))
      (J := Consistently (Aborting client.version)) keptByUpdates_inTransfer
      (transferStatus .aborted) (by rw [length_transferStatus]; decide)
      (fun l hl hunread p hp => ⟨hl.1, hl.2.abort hpull.2 (hunread rfl) hp⟩) .zero
      (h.inProgress hpull.1)
    refine hsent.bind ?_
    rintro result q' (⟨rfl, haborting⟩ | ⟨rfl, -⟩)
    · rw [if_pos rfl]
      have hstatus : (SizedPayloadContainer.zero.fill (transferStatus .aborted)).command =
          .transferStatus := command_fill _ .transferStatus _
      have hloop := ensures_abortLoop (c := .abortPullTransfer) rounds
        (by rw [hstatus]; exact nofun) haborting
      refine hloop.bind ?_
      rintro ⟨result, container⟩ q'' hend
      dsimp only
      split
      · rename_i hgood
        obtain ⟨hblocks, hrest⟩ := hend hgood.1 hgood.2
        exact .inr ⟨hblocks, .inl ⟨rfl, hrest⟩⟩
      · exact agrees_of_error rfl
    · exact agrees_of_error rfl
  · rw [if_neg hpull]
    exact agrees_of_error rfl

/-! ## Push transfers -/

theorem ensures_requestPushTransfer (h : Agrees client.version context q.link)
    (blockId : BlockId) (transferSizeInBytes : ℕ) :
    (client.requestPushTransfer blockId transferSizeInBytes context).Ensures (linkProtocol c)
      (fun x q => Agrees client.version x.2 q.link ∨ q.missed = true) q := by
  unfold requestPushTransfer
  by_cases hasks : context.state = .idle ∧ transferRefactorVersion ≤ client.version ∧
      blockId ≠ kInvalidBlockId ∧ transferSizeInBytes ≠ 0
  · rw [if_pos hasks]
    obtain ⟨hidle, hv, -, -⟩ := hasks
    have hsize : transferSizeInBytes % 2 ^ 32 < 2 ^ 32 := Nat.mod_lt _ (by decide)
    have hasked := ensures_transactTransferPayload (c := c) client
      (I := Consistently (AtRest client.version)) (J := Consistently (PushWanted client.version))
      (K := fun p l => Consistently (fun l =>
        (IsSent client.version (transferStatus .error) p.1 ∧ AtRest client.version l) ∨
        (IsSent client.version (transferStatus .success) p.1 ∧ PushGoesOn client.version l)) l)
      keptByUpdates_atRest (keptByUpdates_consistently fun _ turn _ h _ => h.serverTurn turn)
      (transferRequest blockId .push (transferSizeInBytes % 2 ^ 32))
      (by simp [transferRequest]; decide)
      (fun l hl p hp => ⟨hl.1, hl.2.askPush hl.1 hsize hp⟩)
      (fun l p ps hl hto => ⟨hl.1, hl.2.receive hv hto⟩) .zero (h.idle hidle)
    refine hasked.bind ?_
    rintro ⟨result, container⟩ q' (⟨p, hx, hblocks, ⟨hp, hrest⟩ | ⟨hp, hpush⟩⟩ | ⟨hx, hleft⟩)
    · have herror : Result.Coded .error := ⟨rfl, by decide⟩
      rw [hx]
      simp only [hp.status_result herror, reduceCtorEq, and_false, if_false]
      exact .inl (.inr ⟨hblocks, .inl ⟨hidle, hrest⟩⟩)
    · rw [hx]
      simp only [hp.status_command, hp.status_result coded_success, and_self, if_true]
      exact .inl (.inr ⟨hblocks, .inr ⟨rfl, .pushing hpush rfl le_rfl⟩⟩)
    · simp only [show result = .notReady from hx, reduceCtorEq, false_and, if_false]
      rcases hleft with ⟨hblocks, hrest⟩ | hmissed
      · exact .inl (.inr ⟨hblocks, .inl ⟨hidle, hrest⟩⟩)
      · exact .inr hmissed
  · rw [if_neg hasks]
    exact .inl h

theorem ensures_writeLoop (hstate : context.state = .transferInProgress)
    (htype : context.type = .push)
    (hchunk : context.dataChunkSizeInBytes ≤ context.dataChunkBytesTransfered)
    (h : Consistently (PushGoesOn client.version) q.link) (rounds : ℕ) (result : Result)
    (srcBuffer : List UInt8) :
    (client.writeLoop rounds result srcBuffer context).Ensures (linkProtocol c)
      (fun x q => Agrees client.version x.2.2 q.link) q := by
  induction rounds generalizing result srcBuffer context q with
  | zero => trivial
  | succ rounds ih =>
    unfold writeLoop
    by_cases hgo : 0 < context.totalBytes ∧ 0 < srcBuffer.length
    · rw [if_pos hgo]
      dsimp only
      generalize hdata : srcBuffer.take (min (min kMaxTransferDataChunkSize context.totalBytes)
        srcBuffer.length) = data
      have hlength : data.length ≤ kMaxTransferDataChunkSize := by
        rw [← hdata, List.length_take]
        omega
      have hsent := ensures_sendTransferPayload (c := c) client
        (I := Consistently (PushGoesOn client.version))
        (J := Consistently (PushGoesOn client.version))
        (keptByUpdates_consistently fun _ turn _ h _ => h.serverTurn turn)
        _ (length_transferDataChunk_le hlength)
        (fun l hl _ p hp => ⟨hl.1, hl.2.chunk hp⟩) context.scratchPayload h
      refine hsent.bind ?_
      rintro r q' (⟨rfl, hpush⟩ | ⟨rfl, hpush⟩)
      · rw [if_pos rfl]
        refine ih ?_ ?_ ?_ hpush _ _
        exacts [hstate, htype, hchunk]
      · rw [if_neg (by intro h; cases h), if_pos rfl]
        refine ih ?_ ?_ ?_ hpush _ _
        exacts [hstate, htype, hchunk]
    · rw [if_neg hgo]
      exact .inr ⟨h.1, .inr ⟨hstate, .pushing h.2 htype hchunk⟩⟩

theorem writeLoop_nothing {srcBuffer : List UInt8}
    (h : ¬ (0 < context.totalBytes ∧ 0 < srcBuffer.length)) (rounds : ℕ) (result : Result) :
    client.writeLoop rounds result srcBuffer context = .pending ∨
      client.writeLoop rounds result srcBuffer context = .done (result, srcBuffer, context) := by
  cases rounds with
  | zero => exact .inl rfl
  | succ rounds =>
    unfold writeLoop
    rw [if_neg h]
    exact .inr rfl

theorem ensures_writePushTransferData (h : Agrees client.version context q.link)
    {srcBuffer : List UInt8}
    (hpush : context.state = .transferInProgress → context.type = .push →
      0 < context.totalBytes → srcBuffer ≠ [] → PushUnderWay q.link) (rounds : ℕ) :
    (client.writePushTransferData rounds srcBuffer context).Ensures (linkProtocol c)
      (fun x q => Agrees client.version x.2 q.link) q := by
  unfold writePushTransferData
  by_cases hwrites : context.state = .transferInProgress ∧ context.type = .push
  · rw [if_pos hwrites]
    obtain ⟨hblocks, hin⟩ := h.inProgress hwrites.1
    have hloop : (client.writeLoop rounds .error srcBuffer context).Ensures (linkProtocol c)
        (fun x q => Agrees client.version x.2.2 q.link) q := by
      have hidle : ¬ (0 < context.totalBytes ∧ 0 < srcBuffer.length) →
          (client.writeLoop rounds .error srcBuffer context).Ensures (linkProtocol c)
            (fun x q => Agrees client.version x.2.2 q.link) q := by
        intro hnothing
        rcases writeLoop_nothing hnothing rounds .error with hdone | hdone
        · rw [hdone]
          trivial
        · rw [hdone]
          exact h
      cases hin with
      | pulling hpulling =>
        exact hidle fun hgo => hpulling.not_pushUnderWay
          (hpush hwrites.1 hwrites.2 hgo.1 (List.ne_nil_of_length_pos hgo.2))
      | pulled _ hzero => exact hidle fun hgo => Nat.ne_of_gt hgo.1 hzero
      | pushing hgoes _ hchunk =>
        exact ensures_writeLoop hwrites.1 hwrites.2 hchunk ⟨hblocks, hgoes⟩ _ _ _
    refine hloop.bind ?_
    rintro ⟨result, srcBuffer', context'⟩ q' hagrees
    dsimp only
    split
    · exact hagrees
    · exact hagrees
  · rw [if_neg hwrites]
    exact h

def Closing (v : Version) (l : TransferLink) : Prop := PushCloses v l ∨ Strayed v l

theorem InTransfer.close (h : InTransfer v context l) {discard : Bool}
    (hp : IsSent v (transferDataSentinel (if discard then .aborted else .success) crc) p.1) :
    Closing v { l with toServer := l.toServer ++ [p] } := by
  cases h with
  | pulling hpulling => exact .inr (hpulling.stray hp)
  | pulled hrest => exact .inr (hrest.stray hp)
  | pushing hgoes => exact .inl (hgoes.sentinel hp)

theorem Closing.receive (h : Closing v l) {ps : List SessionPayload} (hto : l.toClient = p :: ps)
    (c : SizedPayloadContainer) (hstatus : (c.fill p.1).command = .transferStatus)
    (hover : (c.fill p.1).result = .success ∨ (c.fill p.1).result = .aborted) :
    AtRest v { l with toClient := ps } := by
  rcases h with hcloses | hstray
  · obtain ⟨result, hcoded, hp, hrest⟩ := hcloses.receive hto
    rw [hp.status_result hcoded] at hover
    exact hrest hover
  · exact absurd hstatus (hstray.receive hto c)

theorem closedState_cases (result : Result) :
    closedState result .idle = .error ∨
      (closedState result .idle = .idle ∧
        (result = .success ∨ result = .aborted)) := by
  unfold closedState
  split
  · exact .inl rfl
  · rename_i hfine
    exact .inr ⟨rfl, or_iff_not_and_not.mpr hfine⟩

theorem ensures_closePushTransfer (h : Agrees client.version context q.link) (discard : Bool) :
    (client.closePushTransfer discard context).Ensures (linkProtocol c)
      (fun x q => Agrees client.version x.2 q.link) q := by
  unfold closePushTransfer
  by_cases hcloses : context.state = .transferInProgress ∧ context.type = .push
  · rw [if_pos hcloses]
    have hclosed := ensures_transactTransferPayload (c := c) client
      (I := Consistently (InTransfer client.version context))
      (J := Consistently (Closing client.version))
      (K := fun p l => Consistently (fun l => ∀ c : SizedPayloadContainer,
        (c.fill p.1).command = .transferStatus →
        (c.fill p.1).result = .success ∨ (c.fill p.1).result = .aborted →
          AtRest client.version l) l)
      keptByUpdates_inTransfer
      (keptByUpdates_consistently fun _ turn _ h _ =>
        h.imp (fun h => h.serverTurn turn) fun h => h.serverTurn turn)
      (transferDataSentinel (if discard then .aborted else .success) context.crc32)
      (by rw [length_transferDataSentinel]; decide)
      (fun l hl p hp => ⟨hl.1, hl.2.close hp⟩)
      (fun l p ps hl hto => ⟨hl.1, hl.2.receive hto⟩) .zero (h.inProgress hcloses.1)
    refine hclosed.bind ?_
    rintro ⟨result, container⟩ q' (⟨p, hx, hblocks, hover⟩ | ⟨hx, -⟩)
    · obtain ⟨rfl, hcontainer⟩ := Prod.mk.inj hx
      replace hover := hover (SizedPayloadContainer.zero.fill (transferDataSentinel
        (if discard then .aborted else .success) context.crc32))
      rw [← hcontainer] at hover
      dsimp only
      split
      · rename_i hstatus
        rcases closedState_cases container.result with herror | ⟨hidle, hresult⟩
        · exact agrees_of_error herror
        · exact .inr ⟨hblocks, .inl ⟨hidle, hover hstatus.2 hresult⟩⟩
      · exact agrees_of_error rfl
    · simp only [show result = .notReady from hx, reduceCtorEq, false_and, if_false]
      exact agrees_of_error rfl
  · rw [if_neg hcloses]
    exact agrees_of_error rfl

end Pull

/-! ## Conversations -/

/-- What keeps a client in step: it does not read at the end of its data, it does not abort a pull
whose sentinel it has not received, a push request is answered in time, and there is nothing to
be written unless the server has a push. -/
def InCare (s : ConversationState) : ConversationAction → Prop
  | .call (.readPullTransferData _) _ =>
    s.context.state = .transferInProgress → ¬ AtEnd s.context
  | .call (.writePushTransferData srcBuffer) _ =>
    s.context.state = .transferInProgress → s.context.type = .push → 0 < s.context.totalBytes →
      srcBuffer ≠ [] → PushUnderWay s.link
  | .call _ _ => True
  | .clientSend accepted =>
    accepted = true → ∀ d, s.calling = some (.abortPullTransfer, d) → ¬ SentinelUnread s.link
  | .clientReceive arrived =>
    arrived = false → ∀ blockId transferSizeInBytes next,
      s.calling = some (.requestPushTransfer blockId transferSizeInBytes, .receive next) →
        ∀ x, next .notReady ≠ .done x
  | .serverTurn turn => ¬ MissesAbort turn s.link

/-- Whenever both sides are idle between two calls nothing is under way, and the server sends
nothing before the client does. -/
def InStep (s : ConversationState) : Prop :=
  s.calling = none → s.context.state = .idle → s.link.server.state = .idle →
    s.link.toServer = [] ∧ s.link.toClient = [] ∧
      ∀ turns, (s.link.serverTurns turns).toClient = []

def EndsCall (v : Version) (c : ClientCall) (x : Result × ClientTransferContext) (q : CallPhase) :
    Prop :=
  Agrees v x.2 q.link ∨
    ((∃ blockId transferSizeInBytes, c = .requestPushTransfer blockId transferSizeInBytes) ∧
      q.missed = true)

def Conversing (v : Version) (s : ConversationState) : Prop :=
  match s.calling with
  | none => Agrees v s.context s.link
  | some (c, d) => (∀ x, d ≠ .done x) ∧
      ∃ missed, d.Ensures (linkProtocol c) (EndsCall v c) ⟨s.link, missed⟩

section Conversation

variable {client : TransferClient} {s t : ConversationState}

variable {v : Version}

theorem AtRest.serverTurns {l : TransferLink} (h : AtRest v l) (turns : List ServerTurn) :
    AtRest v (l.serverTurns turns) := by
  induction turns generalizing l with
  | nil => exact h
  | cons turn turns ih => exact ih (h.serverTurn turn)

theorem Conversing.inStep (h : Conversing v s) : InStep s := by
  intro hcalling hidle _
  unfold Conversing at h
  rw [hcalling] at h
  obtain ⟨-, hrest⟩ := Agrees.idle h hidle
  exact ⟨hrest.toServer, hrest.toClient, fun turns => (hrest.serverTurns turns).toClient⟩

theorem ensures_call (h : Agrees client.version s.context s.link) (c : ClientCall) (rounds : ℕ)
    (hcare : InCare s (.call c rounds)) :
    (client.call rounds s.context c).Ensures (linkProtocol c) (EndsCall client.version c)
      ⟨s.link, false⟩ := by
  cases c with
  | requestPullTransfer blockId =>
    exact (ensures_requestPullTransfer (q := ⟨s.link, false⟩) h blockId).bind
      fun x q hagrees => .inl hagrees
  | readPullTransferData bufferSize =>
    exact (ensures_readPullTransferData (q := ⟨s.link, false⟩) h hcare rounds bufferSize).bind
      fun x q hagrees => .inl hagrees
  | abortPullTransfer =>
    exact (ensures_abortPullTransfer (q := ⟨s.link, false⟩) h rounds).mono
      fun x q hagrees => .inl hagrees
  | requestPushTransfer blockId transferSizeInBytes =>
    exact (ensures_requestPushTransfer (q := ⟨s.link, false⟩) h blockId transferSizeInBytes).mono
      fun x q hends => hends.imp id fun hmissed => ⟨⟨_, _, rfl⟩, hmissed⟩
  | writePushTransferData srcBuffer =>
    exact (ensures_writePushTransferData (q := ⟨s.link, false⟩) h hcare rounds).mono
      fun x q hagrees => .inl hagrees
  | closePushTransfer discard =>
    exact (ensures_closePushTransfer (q := ⟨s.link, false⟩) h discard).mono
      fun x q hagrees => .inl hagrees

theorem Conversing.resume {c : ClientCall} {d : CallDialogue} {missed : Bool}
    (h : d.Ensures (linkProtocol c) (EndsCall v c) ⟨s.link, missed⟩)
    (hanswered : missed = true → ∀ blockId transferSizeInBytes,
      c = .requestPushTransfer blockId transferSizeInBytes → ∀ x, d ≠ .done x) :
    Conversing v (s.resume c d) := by
  cases d with
  | done x =>
    rcases h with hagrees | ⟨⟨blockId, size, rfl⟩, hmissed⟩
    · exact hagrees
    · exact absurd rfl (hanswered hmissed blockId size rfl x)
  | send m next => exact ⟨nofun, missed, h⟩
  | receive next => exact ⟨nofun, missed, h⟩
  | pending => exact ⟨nofun, missed, h⟩

theorem Agrees.serverTurn {context : ClientTransferContext} {l : TransferLink}
    (h : Agrees v context l) {turn : ServerTurn} (hnot : ¬ MissesAbort turn l) :
    Agrees v context (l.serverTurn turn) := by
  rcases h with herror | ⟨hblocks, ⟨hidle, hrest⟩ | ⟨hstate, hin⟩⟩
  · exact .inl herror
  · exact .inr ⟨consistentBlocks_serverTurn hblocks turn, .inl ⟨hidle, hrest.serverTurn turn⟩⟩
  · obtain ⟨hblocks', hin'⟩ := keptByUpdates_inTransfer l turn ⟨hblocks, hin⟩ hnot
    exact .inr ⟨hblocks', .inr ⟨hstate, hin'⟩⟩

/-- The client and the server agree on the transfer after each step. -/
theorem Conversing.step (h : Conversing client.version s) {a : ConversationAction}
    (hcare : InCare s a) (hstep : s.step client a = some t) : Conversing client.version t := by
  unfold Conversing at h
  cases a with
  | call c rounds =>
    simp only [ConversationState.step] at hstep
    split at hstep
    · rename_i hcalling
      rw [hcalling] at h
      cases hstep
      exact .resume (ensures_call h c rounds hcare) nofun
    · cases hstep
  | clientSend accepted =>
    simp only [ConversationState.step] at hstep
    split at hstep
    · rename_i c m next hcalling
      rw [hcalling] at h
      obtain ⟨-, missed, hensures⟩ := h
      cases accepted with
      | true =>
        cases hstep
        have hunread : c = .abortPullTransfer → ¬ SentinelUnread s.link := by
          rintro rfl
          exact hcare rfl _ hcalling
        exact .resume (hensures .success _ ⟨s.link, .refl, .inr ⟨rfl, hunread, rfl⟩⟩) nofun
      | false =>
        cases hstep
        exact .resume (hensures .notReady _ ⟨s.link, .refl, .inl ⟨rfl, rfl⟩⟩) nofun
    · cases hstep
  | clientReceive arrived =>
    -- a `Receive` that gets nothing is the same whether anything is under way or not
    have hnothing : ∀ c next, arrived = false → s.calling = some (c, .receive next) →
        Conversing client.version (s.resume c (next .notReady)) := by
      intro c next harrived hcalling
      rw [hcalling] at h
      obtain ⟨-, missed, hensures⟩ := h
      refine .resume (hensures .notReady _ ⟨s.link, .refl, .inl ⟨rfl, rfl⟩⟩) ?_
      rintro - blockId size rfl x
      exact hcare harrived blockId size next hcalling x
    simp only [ConversationState.step] at hstep
    split at hstep
    · rename_i c next p toClient hcalling hto
      cases arrived with
      | true =>
        cases hstep
        rw [hcalling] at h
        obtain ⟨-, missed, hensures⟩ := h
        exact .resume (hensures (.payload p) _
          ⟨s.link, .refl, .inr ⟨p, toClient, hto, rfl, rfl⟩⟩) nofun
      | false =>
        cases hstep
        exact hnothing c next rfl hcalling
    · rename_i c next hcalling _
      cases arrived with
      | true => cases hstep
      | false =>
        cases hstep
        exact hnothing c next rfl hcalling
    · cases hstep
  | serverTurn turn =>
    cases hstep
    cases hcalling : s.calling with
    | none =>
      rw [hcalling] at h
      exact Agrees.serverTurn h hcare
    | some call =>
      rw [hcalling] at h
      obtain ⟨hd, missed, hensures⟩ := h
      exact ⟨hd, missed, ensures_updates hensures hd (.single ⟨turn, hcare, rfl⟩)⟩

/-- In a conversation whose steps are all taken with care, nothing is left undelivered when both
sides are idle. -/
theorem transfers_in_step {manager : TransferManager} (hblocks : ConsistentBlocks manager)
    {tr : List (ConversationState × ConversationAction × Unit)}
    (hinit : (conversationMachine client manager).init s)
    (htrace : (conversationMachine client manager).Trace s tr t)
    (hcare : ∀ x ∈ tr, InCare x.1 x.2.1) : InStep t := by
  have hstart : Conversing client.version s := by
    obtain rfl : s = _ := hinit
    exact .inr ⟨hblocks, .inl ⟨rfl, rfl, rfl, rfl, rfl⟩⟩
  refine (htrace.invariant (P := Conversing client.version) hstart hcare ?_).inStep
  intro s t a o hs hcare hstep
  obtain ⟨t', hstep', hpair⟩ := Option.map_eq_some_iff.mp hstep
  obtain ⟨rfl, -⟩ := Prod.mk.inj hpair
  exact hs.step hcare hstep'

end Conversation

theorem consistentBlocks_requestedLink (data : List UInt8) :
    ConsistentBlocks (requestedLink data).manager :=
  fun _ => ⟨le_refl _, congrArg (CRC32 · 0) (data_closedBlock data).symm⟩

def connectedState (version : Version) (data : List UInt8) : ConversationState :=
  ⟨⟨.new version, (requestedLink data).manager, [], []⟩, .zero, none⟩

def asksPush : ConversationState × ConversationAction × Unit → Bool
  | (_, .call (.requestPushTransfer _ _) _, _) => true
  | (s, .clientSend _, _) =>
    match s.calling with
    | some (.requestPushTransfer _ _, _) => true
    | _ => false
  | (_, .clientReceive arrived, _) => arrived
  | (_, .serverTurn turn, _) => turn.arrived != 0
  | _ => false

theorem inCare_of_asksPush {x : ConversationState × ConversationAction × Unit}
    (h : asksPush x = true) : InCare x.1 x.2.1 := by
  obtain ⟨s, a, o⟩ := x
  cases a with
  | call c rounds => cases c <;> trivial
  | clientSend accepted =>
    rintro - d (hcalling : s.calling = _)
    simp only [asksPush, hcalling] at h
    cases h
  | clientReceive arrived =>
    rintro rfl
    cases h
  | serverTurn turn =>
    rintro ⟨-, -, hzero, -⟩
    simp only [asksPush, hzero] at h
    cases h

theorem transfers_in_step_refused : ∃ t, t.calling = none ∧ t.context.state = .idle ∧
    t.link.server.state = .idle ∧ InStep t := by
  let M := conversationMachine (defaultClient 2) (requestedLink []).manager
  let as : List ConversationAction :=
    [.call (.requestPushTransfer 8 1) 1, .clientSend true, .serverTurn ⟨1, [.success]⟩,
      .clientReceive true]
  obtain ⟨t, hrun, ht⟩ := M.exists_of_run (connectedState 2 []) as
    (fun t => (t.calling.isNone && decide (t.context.state = .idle) &&
      decide (t.link.server.state = .idle)) = true) (by decide +kernel)
  have hasks : (M.transitions (connectedState 2 []) as).all asksPush = true := by
    decide +kernel
  simp only [Bool.and_eq_true, Option.isNone_iff_eq_none, decide_eq_true_eq] at ht
  exact ⟨t, ht.1.1, ht.1.2, ht.2, transfers_in_step (consistentBlocks_requestedLink [])
    rfl (.of_run hrun)
    fun x hx => inCare_of_asksPush (List.all_eq_true.mp hasks x hx)⟩

/-- A client that reads at the end of an empty block returns to Idle with the sentinel of the pull
undelivered. -/
theorem empty_pull_out_of_step : ¬ ∀ (client : TransferClient) (manager : TransferManager)
    (s t : ConversationState) (tr : List (ConversationState × ConversationAction × Unit)),
    ConsistentBlocks manager → (conversationMachine client manager).init s →
    (conversationMachine client manager).Trace s tr t → InStep t := by
  intro hall
  let M := conversationMachine (defaultClient 2) (requestedLink []).manager
  let as : List ConversationAction :=
    [.call (.requestPullTransfer 7) 1, .clientSend true, .serverTurn ⟨1, [.success]⟩,
      .serverTurn ⟨0, [.success]⟩, .clientReceive true, .call (.readPullTransferData 1) 1]
  obtain ⟨t, hrun, ht⟩ := M.exists_of_run (connectedState 2 []) as
    (fun t => (t.calling.isNone && decide (t.context.state = .idle) &&
      decide (t.link.server.state = .idle) && !t.link.toClient.isEmpty) = true) (by decide +kernel)
  simp only [Bool.and_eq_true, Option.isNone_iff_eq_none, decide_eq_true_eq,
    Bool.not_eq_true', List.isEmpty_eq_false_iff] at ht
  obtain ⟨-, hclient, -⟩ := hall (defaultClient 2) _ (connectedState 2 []) t _
    (consistentBlocks_requestedLink []) rfl (.of_run hrun) ht.1.1.1 ht.1.1.2 ht.1.2
  exact ht.2 hclient

end DevDriver.Analysis
