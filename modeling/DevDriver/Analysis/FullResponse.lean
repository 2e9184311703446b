import DevDriver.Analysis.TransferMessages
import DevDriver.Model.UriClient

/-!
# Reading a full response

`ReadFullResponse` reads until a read reports the end of the stream.
-/

namespace DevDriver.Analysis

open Library Model UriClient TransferClient

variable {client : TransferClient} {mayClose : Bool} {log q : List ReceiveAnswer}

/-- The answers that a session gives; it reports the end of the stream only when it is closed. -/
def Permits (mayClose : Bool) : ReceiveAnswer → Prop
  | .failure .endOfStream _ => mayClose = true
  | _ => True

def logProtocol (mayClose : Bool) :
    Dialogue.Protocol (List ReceiveAnswer) (List UInt8) Result ReceiveAnswer where
  sends q _ _ q' := q' = q
  receives q r q' := Permits mayClose r ∧ q' = q ++ [r]

def Returns {α : Type} (mayClose : Bool) (d : TransferDialogue α) (log : List ReceiveAnswer)
    (a : α) : Prop :=
  (∀ r ∈ log, Permits mayClose r) ∧
    ∃ as ms, d.follow as = some (ms, a) ∧ as.filterMap Sum.getRight? = log

theorem ensures_of_returns {α : Type} {d : TransferDialogue α}
    {post : α → List ReceiveAnswer → Prop} {a : α}
    (h : d.Ensures (logProtocol mayClose) post q) (hreturns : Returns mayClose d log a) :
    post a (q ++ log) := by
  obtain ⟨hpermits, as, ms, hfollow, rfl⟩ := hreturns
  induction d generalizing q ms as with
  | done b =>
    obtain ⟨rfl, rfl⟩ := Dialogue.follow_done hfollow
    rw [List.filterMap_nil, List.append_nil]
    exact h
  | send m next ih =>
    obtain ⟨r, rest, ms', rfl, hnext, -⟩ := Dialogue.follow_send hfollow
    exact ih r (h r q rfl) rest _ hnext hpermits
  | receive next ih =>
    obtain ⟨r, rest, rfl, hnext⟩ := Dialogue.follow_receive hfollow
    have hrest := List.forall_mem_cons.mp hpermits
    have hpost := ih r (h r (q ++ [r]) ⟨hrest.1, rfl⟩) rest _ hnext hrest.2
    rw [List.append_assoc] at hpost
    exact hpost
  | pending => exact absurd hfollow fun hfollow => Dialogue.follow_pending hfollow

/-- The scratch container of a pull, the size of the data that is missing and the data that has
been received. -/
structure PullProgress where
  scratch : SizedPayloadContainer
  missing : ℕ
  data : List UInt8

namespace PullProgress

def chunkSize (x : PullProgress) : ℕ :=
  min (min (sub64 x.scratch.payloadSize 4) kMaxTransferDataChunkSize) x.missing

def takeChunk (x : PullProgress) : PullProgress where
  scratch := x.scratch
  missing := x.missing - x.chunkSize
  data := x.data ++ x.scratch.chunkData.take x.chunkSize

def receive (x : PullProgress) : ReceiveAnswer → PullProgress
  | .payload p =>
    if 0 < x.missing then { x with scratch := x.scratch.fill p.1 }.takeChunk else x
  | .failure _ _ => x

def after (x : PullProgress) (log : List ReceiveAnswer) : PullProgress := log.foldl receive x

def start (responseSize : ℕ) (transfer : ClientTransferContext) : PullProgress where
  scratch := transfer.scratchPayload
  missing := responseSize
  data := []

@[simp] theorem after_snoc (x : PullProgress) (log : List ReceiveAnswer) (r : ReceiveAnswer) :
    x.after (log ++ [r]) = (x.after log).receive r := by
  simp [after]

end PullProgress

/-! ## Receiving -/

section Receiving

variable {x : PullProgress} {context : ClientTransferContext} {copied : List UInt8}

/-- A payload that is received is counted; a failure is the end of the stream only if the session
may be closed. -/
def ReceivesInto (mayClose : Bool) (x : PullProgress) (container : SizedPayloadContainer)
    (q : List ReceiveAnswer) (y : Result × SizedPayloadContainer) (q' : List ReceiveAnswer) :
    Prop :=
  (y.1 = .success ∧ ∃ p, y.2 = container.fill p.1 ∧
      x.after q' = (x.after q).receive (.payload p)) ∨
    (y.1 ≠ .success ∧ (y.1 = .endOfStream → mayClose = true))

theorem counts_receiveRounds (x : PullProgress) (container : SizedPayloadContainer)
    (rounds : ℕ) (q : List ReceiveAnswer) :
    (receiveRounds container rounds).Ensures (logProtocol mayClose)
      (ReceivesInto mayClose x container q) q := by
  induction rounds generalizing q with
  | zero => exact .inr ⟨nofun, nofun⟩
  | succ rounds ih =>
    rintro r q' ⟨hpermits, rfl⟩
    cases r with
    | payload p => exact .inl ⟨rfl, p, rfl, x.after_snoc _ _⟩
    | failure r hfailure =>
      have hsame : x.after (q ++ [.failure r hfailure]) = x.after q := x.after_snoc _ _
      dsimp only
      split
      · have hrest := ih (q ++ [.failure r hfailure])
        unfold ReceivesInto at hrest ⊢
        rwa [hsame] at hrest
      · right
        refine ⟨hfailure, ?_⟩
        rintro rfl
        exact hpermits

theorem counts_receiveTransferPayload (x : PullProgress) (container : SizedPayloadContainer)
    (timeoutInMs : ℕ) (q : List ReceiveAnswer) :
    (client.receiveTransferPayload container timeoutInMs).Ensures (logProtocol mayClose)
      (ReceivesInto mayClose x container q) q :=
  counts_receiveRounds _ _ _ _

/-- What the client is at with a response: it has counted what was received, and what it has not
copied is in the scratch container. -/
structure InResponse (x : PullProgress) (context : ClientTransferContext) (copied : List UInt8)
    (q : List ReceiveAnswer) : Prop where
  scratch : context.scratchPayload = (x.after q).scratch
  missing : context.totalBytes = (x.after q).missing
  le : context.dataChunkBytesTransfered ≤ context.dataChunkSizeInBytes
  size_le : context.dataChunkSizeInBytes ≤ kMaxTransferDataChunkSize
  data : copied ++ slice context.scratchPayload.chunkData context.dataChunkBytesTransfered
    (context.dataChunkSizeInBytes - context.dataChunkBytesTransfered) = (x.after q).data

def bytesLeft (context : ClientTransferContext) : ℕ :=
  context.totalBytes + (context.dataChunkSizeInBytes - context.dataChunkBytesTransfered)

def PullGoesOn (mayClose : Bool) (x : PullProgress) (copied : List UInt8)
    (y : Result × ClientTransferContext) (q : List ReceiveAnswer) : Prop :=
  (y.1 = .success ∧ y.2.state = .transferInProgress ∧ InResponse x y.2 copied q ∧
      0 < bytesLeft y.2) ∨
    (y.2.state = .error ∧ (y.1 = .endOfStream → mayClose = true))

theorem length_chunkData (c : SizedPayloadContainer) :
    c.chunkData.length = kMaxTransferDataChunkSize := by
  rw [SizedPayloadContainer.chunkData, List.length_drop, length_readBytes]
  rfl

theorem ensures_failed {result : Result} (hclosed : result = .endOfStream → mayClose = true)
    (context : ClientTransferContext) :
    (pure (result, { context with state := .error }) :
      TransferDialogue (Result × ClientTransferContext)).Ensures (logProtocol mayClose)
      (PullGoesOn mayClose x copied) q :=
  .inr ⟨rfl, hclosed⟩

theorem receive_of_missing (h : x.missing = 0) (r : ReceiveAnswer) : x.receive r = x := by
  cases r with
  | payload p => exact if_neg (by omega)
  | failure r hfailure => rfl

section

variable (h : InResponse x context copied q)

include h

theorem counts_receivePullSentinel
    (hstate : context.state = .transferInProgress) (hzero : context.totalBytes = 0)
    (hleft : 0 < bytesLeft context) :
    (client.receivePullSentinel context).Ensures (logProtocol mayClose)
      (PullGoesOn mayClose x copied) q := by
  apply (counts_receiveTransferPayload x .zero _ q).bind
  rintro ⟨result, sentinel⟩ q' (⟨rfl, p, rfl, hafter⟩ | ⟨hne, hclosed⟩)
  · have hsame : x.after q' = x.after q := by
      rw [hafter, receive_of_missing (h.missing ▸ hzero)]
    dsimp only
    split
    · exact ensures_failed (by nofun) _
    · split
      · exact ensures_failed (by nofun) _
      · refine .inl ⟨rfl, hstate, ?_, hleft⟩
        constructor
        · rw [hsame, h.scratch]
        · rw [hsame, h.missing]
        · exact h.le
        · exact h.size_le
        · rw [hsame, h.data]
  · dsimp only
    rw [if_pos (.inl hne)]
    exact ensures_failed hclosed _

theorem InResponse.takeChunk
    (hnone : context.dataChunkSizeInBytes = context.dataChunkBytesTransfered)
    (hmore : 0 < context.totalBytes) {p : SessionPayload} {q' : List ReceiveAnswer}
    (hafter : x.after q' = (x.after q).receive (.payload p)) :
    InResponse x
      { context with scratchPayload := context.scratchPayload.fill p.1 }.takeChunk copied q' ∧
      0 < bytesLeft
        { context with scratchPayload := context.scratchPayload.fill p.1 }.takeChunk := by
  have hmissing : 0 < (x.after q).missing := h.missing ▸ hmore
  have hcopied : copied = (x.after q).data := by
    have hdata := h.data
    rwa [hnone, Nat.sub_self, slice_zero, List.append_nil] at hdata
  rw [PullProgress.receive, if_pos hmissing] at hafter
  have hsize : { context with
      scratchPayload := context.scratchPayload.fill p.1 }.takeChunk.dataChunkSizeInBytes =
      { x.after q with scratch := (x.after q).scratch.fill p.1 }.chunkSize := by
    simp only [ClientTransferContext.takeChunk, PullProgress.chunkSize, h.scratch, h.missing]
  constructor
  · constructor
    · rw [hafter]
      exact congrArg (SizedPayloadContainer.fill p.1) h.scratch
    · rw [hafter]
      exact congrArg₂ (· - ·) h.missing hsize
    · exact Nat.zero_le _
    · exact (Nat.min_le_left _ _).trans (Nat.min_le_right _ _)
    · rw [hafter, hcopied, hsize]
      have hchunk : context.scratchPayload.fill p.1 = (x.after q).scratch.fill p.1 :=
        congrArg _ h.scratch
      simp [slice, ClientTransferContext.takeChunk, PullProgress.takeChunk, hchunk]
  · unfold bytesLeft ClientTransferContext.takeChunk
    dsimp only
    omega

theorem counts_receivePullChunk (hstate : context.state = .transferInProgress)
    (hnone : context.dataChunkSizeInBytes = context.dataChunkBytesTransfered)
    (hmore : 0 < context.totalBytes) :
    (client.receivePullChunk context).Ensures (logProtocol mayClose)
      (PullGoesOn mayClose x copied) q := by
  apply (counts_receiveTransferPayload x _ _ q).bind
  rintro ⟨result, scratchPayload⟩ q' (⟨rfl, p, rfl, hafter⟩ | ⟨hne, hclosed⟩)
  · obtain ⟨htaken, hleft⟩ := h.takeChunk hnone hmore hafter
    dsimp only
    split
    · split
      · rename_i hzero
        exact counts_receivePullSentinel htaken hstate hzero hleft
      · exact .inl ⟨rfl, hstate, htaken, hleft⟩
    · exact ensures_failed (by nofun)
        { context with scratchPayload := context.scratchPayload.fill p.1 }
  · dsimp only
    rw [if_neg fun hsuccess => hne hsuccess.1]
    exact ensures_failed hclosed { context with scratchPayload := scratchPayload }

/-! ## Copying -/

theorem InResponse.copyChunk {bytes : ℕ}
    (hbytes : bytes ≤ context.dataChunkSizeInBytes - context.dataChunkBytesTransfered) :
    InResponse x (context.copyChunk bytes).2 (copied ++ (context.copyChunk bytes).1) q := by
  have hle := h.le
  constructor
  · exact h.scratch
  · exact h.missing
  · dsimp only [ClientTransferContext.copyChunk]
    omega
  · exact h.size_le
  · rw [← h.data, List.append_assoc]
    have hsplit : context.dataChunkSizeInBytes - context.dataChunkBytesTransfered =
        bytes + (context.dataChunkSizeInBytes - (context.dataChunkBytesTransfered + bytes)) := by
      omega
    rw [hsplit, slice_add]
    rfl

theorem InResponse.length_copyChunk {bytes : ℕ}
    (hbytes : bytes ≤ context.dataChunkSizeInBytes - context.dataChunkBytesTransfered) :
    (context.copyChunk bytes).1.length = bytes := by
  have hle := h.le
  have hsize := h.size_le
  apply length_slice
  rw [length_chunkData]
  omega

end

/-- What a read leaves: it fills the buffer and the transfer goes on, or it ends with the response,
or the transfer fails. -/
inductive ReadEnds (mayClose : Bool) (x : PullProgress) (copied : List UInt8) (bufferSize : ℕ) :
    Result × ClientTransferContext × List UInt8 → List ReceiveAnswer → Prop where
  | filled {context : ClientTransferContext} {bytes : List UInt8} {q : List ReceiveAnswer}
      (hstate : context.state = .transferInProgress) (hlength : bytes.length = bufferSize)
      (h : InResponse x context (copied ++ bytes) q) (hleft : 0 < bytesLeft context) :
      ReadEnds mayClose x copied bufferSize (.success, context, bytes) q
  | ended {context : ClientTransferContext} {bytes : List UInt8} {q : List ReceiveAnswer}
      (hstate : context.state = .idle) (hlength : bytes.length ≤ bufferSize)
      (hdata : copied ++ bytes = (x.after q).data) (hmissing : (x.after q).missing = 0) :
      ReadEnds mayClose x copied bufferSize (.endOfStream, context, bytes) q
  | failed {result : Result} {context : ClientTransferContext} {bytes : List UInt8}
      {q : List ReceiveAnswer} (hstate : context.state = .error)
      (hlength : bytes.length ≤ bufferSize) (hclosed : result = .endOfStream → mayClose = true) :
      ReadEnds mayClose x copied bufferSize (result, context, bytes) q

theorem counts_readLoop_stopped {rounds remaining : ℕ} {result : Result} {bytes : List UInt8}
    {post : Result × ClientTransferContext × List UInt8 → List ReceiveAnswer → Prop}
    (hstate : context.state ≠ .transferInProgress) (hpost : post (result, context, bytes) q) :
    (client.readLoop rounds remaining result context bytes).Ensures (logProtocol mayClose)
      post q := by
  cases rounds with
  | zero => trivial
  | succ rounds =>
    unfold readLoop
    rw [if_neg fun hgo => hstate hgo.2]
    exact hpost

theorem counts_readLoop {rounds remaining bufferSize : ℕ} {bytes : List UInt8}
    (hroom : bytes.length + remaining = bufferSize)
    (hstate : context.state = .transferInProgress) (h : InResponse x context (copied ++ bytes) q)
    (hleft : 0 < bytesLeft context) :
    (client.readLoop rounds remaining .success context bytes).Ensures (logProtocol mayClose)
      (ReadEnds mayClose x copied bufferSize) q := by
  induction rounds generalizing remaining context bytes q with
  | zero => trivial
  | succ rounds ih =>
    unfold readLoop
    by_cases hgo : 0 < remaining
    · rw [if_pos ⟨hgo, hstate⟩]
      dsimp only
      by_cases havailable : 0 < context.dataChunkSizeInBytes - context.dataChunkBytesTransfered
      · rw [if_pos havailable]
        have hcopied := h.copyChunk (Nat.min_le_right remaining _)
        have hlength := h.length_copyChunk (Nat.min_le_right remaining _)
        rw [List.append_assoc] at hcopied
        have hmin := Nat.min_le_left remaining
          (context.dataChunkSizeInBytes - context.dataChunkBytesTransfered)
        generalize min remaining
          (context.dataChunkSizeInBytes - context.dataChunkBytesTransfered) = bytesToRead at *
        split
        · rename_i hend
          apply counts_readLoop_stopped (by nofun)
          apply ReadEnds.ended rfl
          · rw [List.length_append, hlength]
            omega
          · have hdata := hcopied.data
            rwa [hend.1, Nat.sub_self, slice_zero, List.append_nil] at hdata
          · rw [← hcopied.missing, hend.2]
        · rename_i hmore
          have hstate' : (context.copyChunk bytesToRead).2.state = .transferInProgress := hstate
          refine ih ?_ hstate' hcopied ?_
          · rw [List.length_append, hlength]
            omega
          · have hle := hcopied.le
            unfold bytesLeft
            omega
      · have hnone : context.dataChunkSizeInBytes = context.dataChunkBytesTransfered := by
          have hle := h.le
          omega
        have hmore : 0 < context.totalBytes := by
          unfold bytesLeft at hleft
          omega
        rw [if_neg havailable, if_pos hmore]
        apply (counts_receivePullChunk h hstate hnone hmore).bind
        rintro ⟨result, next⟩ q' (⟨rfl, hnext, hin, hleft'⟩ | ⟨herror, hclosed⟩)
        · exact ih hroom hnext hin hleft'
        · apply counts_readLoop_stopped
          · rw [herror]
            nofun
          · exact .failed herror (by omega) hclosed
    · rw [if_neg fun hgo' => hgo hgo'.1]
      exact .filled hstate (by omega) h hleft

theorem counts_readPullTransferData {rounds bufferSize : ℕ}
    (hstate : context.state = .transferInProgress) (h : InResponse x context copied q) :
    (client.readPullTransferData rounds bufferSize context).Ensures (logProtocol mayClose)
      (ReadEnds mayClose x copied bufferSize) q := by
  have hle := h.le
  unfold readPullTransferData
  rw [if_pos hstate]
  split
  · rename_i hend
    have hdata := h.data
    rw [hend.2, Nat.sub_self, slice_zero] at hdata
    exact .ended rfl (Nat.zero_le _) hdata (h.missing ▸ hend.1)
  · rename_i hmore
    have hleft : 0 < bytesLeft context := by
      unfold bytesLeft
      omega
    split
    · exact counts_readLoop (Nat.zero_add _) hstate (by rwa [List.append_nil]) hleft
    · exact .filled hstate (by simp; omega) (by rwa [List.append_nil]) hleft

theorem counts_readPullTransferData_of_state {rounds bufferSize : ℕ}
    (hstate : context.state ≠ .transferInProgress) :
    (client.readPullTransferData rounds bufferSize context).Ensures (logProtocol mayClose)
      (fun y _ => y = (.error, context, [])) q := by
  unfold readPullTransferData
  rw [if_neg hstate]
  rfl

theorem ReadEnds.append {bufferSize : ℕ} {y : Result × ClientTransferContext × List UInt8}
    (hroom : copied.length ≤ bufferSize)
    (h : ReadEnds mayClose x copied (bufferSize - copied.length) y q) :
    ReadEnds mayClose x [] bufferSize (y.1, y.2.1, copied ++ y.2.2) q := by
  cases h with
  | filled hstate hlength h hleft =>
    refine .filled hstate ?_ h hleft
    dsimp only
    rw [List.length_append]
    omega
  | ended hstate hlength hdata hmissing =>
    refine .ended hstate ?_ hdata hmissing
    dsimp only
    rw [List.length_append]
    omega
  | failed hstate hlength hclosed =>
    refine .failed hstate ?_ hclosed
    dsimp only
    rw [List.length_append]
    omega

end Receiving

/-! ## The rounds of the loop -/

section Rounds

variable {x : PullProgress} {bufferSize rounds : ℕ} {s t : FullRead}

theorem onPullBlock_bind {α β : Type} (transfer : ClientTransferContext) (d : UriDialogue α)
    (f : α → UriDialogue β) :
    onPullBlock client rounds transfer (d >>= f) =
      onPullBlock client rounds transfer d >>= fun y => onPullBlock client rounds y.2 (f y.1) := by
  induction d generalizing transfer with
  | done a => rfl
  | send m next ih =>
    cases m with
    | read bufferSize =>
      simp only [Dialogue.send_bind, onPullBlock, Dialogue.bind_assoc]
      congr 1
      funext y
      exact ih _ _
    | closePullBlock => exact ih _ _
    | _ => rfl
  | receive next ih => rfl
  | pending => rfl

theorem onPullBlock_readResponse (transfer : ClientTransferContext) (blockId : Option BlockId) :
    onPullBlock client rounds transfer
        (readResponse bufferSize ⟨.readResponse, blockId⟩) =
      client.readPullTransferData rounds bufferSize transfer >>= fun y =>
        pure ((y.1, if y.1 = .endOfStream ∨ y.1 = .error then ⟨.idle, none⟩
          else ⟨.readResponse, blockId⟩, y.2.2), y.2.1) := by
  unfold readResponse
  rw [if_pos rfl]
  simp only [UriDialogue.read, Dialogue.send_bind, onPullBlock]
  congr 1
  funext ⟨result, next, bytes⟩
  dsimp only [Dialogue.done_bind]
  by_cases hlast : result = .endOfStream ∨ result = .error
  · rw [if_pos hlast, if_pos hlast]
    rfl
  · rw [if_neg hlast, if_neg hlast]
    rfl

def IsReading (s : FullRead) : Prop :=
  ∃ blockId, s.context = ⟨.readResponse, blockId⟩

def RoundEnds (mayClose : Bool) (x : PullProgress) (bufferSize : ℕ) (y : Result × FullRead)
    (q : List ReceiveAnswer) : Prop :=
  ReadEnds mayClose x [] bufferSize (y.1, y.2.transfer, y.2.data) q ∧
    (y.1 = .success → IsReading y.2)

theorem ensures_iteration (hreading : IsReading s)
    (hstate : s.transfer.state = .transferInProgress) (h : InResponse x s.transfer s.data q)
    (hroom : s.data.length ≤ bufferSize) :
    (s.iteration client rounds bufferSize).Ensures (logProtocol mayClose)
      (RoundEnds mayClose x bufferSize) q := by
  obtain ⟨blockId, hcontext⟩ := hreading
  unfold FullRead.iteration
  rw [hcontext, onPullBlock_readResponse, Dialogue.bind_assoc]
  apply (counts_readPullTransferData hstate h).bind
  intro y q' hends
  refine ⟨hends.append hroom, ?_⟩
  intro (hsuccess : y.1 = .success)
  refine ⟨blockId, if_neg ?_⟩
  rw [hsuccess]
  nofun

theorem ensures_iteration_of_state (hreading : IsReading s)
    (hstate : s.transfer.state ≠ .transferInProgress) :
    (s.iteration client rounds bufferSize).Ensures (logProtocol mayClose)
      (fun y _ => y.1 = .error ∧ y.2.data = s.data) q := by
  obtain ⟨blockId, hcontext⟩ := hreading
  unfold FullRead.iteration
  rw [hcontext, onPullBlock_readResponse, Dialogue.bind_assoc]
  apply (counts_readPullTransferData_of_state hstate).bind
  rintro _ q' rfl
  exact ⟨rfl, List.append_nil _⟩

theorem readFullLoop_succ (loopRounds : ℕ) (s : FullRead) :
    onPullBlock client rounds s.transfer
        (readFullLoop (loopRounds + 1) bufferSize s.context s.data) =
      s.iteration client rounds bufferSize >>= fun y =>
        if y.1 = .success then
          onPullBlock client rounds y.2.transfer
            (readFullLoop loopRounds bufferSize y.2.context y.2.data)
        else pure ((y.1, y.2.context, y.2.data), y.2.transfer) := by
  rw [readFullLoop, onPullBlock_bind, FullRead.iteration, Dialogue.bind_assoc]
  congr 1
  funext ⟨⟨result, context, bytes⟩, transfer⟩
  dsimp only
  by_cases hsuccess : result = .success
  · rw [if_pos hsuccess]
    simp [hsuccess]
  · rw [if_neg hsuccess]
    simp [hsuccess, onPullBlock]

theorem ensures_readFullLoop (loopRounds : ℕ) (hreading : IsReading s)
    (hs : s.transfer.state = .transferInProgress →
      InResponse x s.transfer s.data q ∧ s.data.length ≤ bufferSize) :
    (onPullBlock client rounds s.transfer
      (readFullLoop loopRounds bufferSize s.context s.data)).Ensures
      (logProtocol false) (fun y q => y.1.1 ≠ .success ∧
        (y.1.1 = .endOfStream → y.1.2.2 = (x.after q).data ∧ (x.after q).missing = 0)) q := by
  induction loopRounds generalizing s q with
  | zero => trivial
  | succ loopRounds ih =>
    rw [readFullLoop_succ]
    by_cases hstate : s.transfer.state = .transferInProgress
    · obtain ⟨h, hroom⟩ := hs hstate
      apply (ensures_iteration hreading hstate h hroom).bind
      rintro ⟨result, t⟩ q' ⟨hends, hreading'⟩
      cases hends with
      | filled hstate' hlength h' hleft => exact ih (hreading' rfl) fun _ => ⟨h', hlength.le⟩
      | ended hstate' hlength hdata hmissing =>
        rw [if_neg (by nofun)]
        exact ⟨by nofun, fun _ => ⟨hdata, hmissing⟩⟩
      | failed hstate' hlength hclosed =>
        split
        · rename_i hsuccess
          apply ih (hreading' hsuccess)
          intro hgo
          rw [hstate'] at hgo
          cases hgo
        · rename_i hne
          exact ⟨hne, fun hend => nomatch hclosed hend⟩
    · apply (ensures_iteration_of_state hreading hstate).bind
      rintro ⟨result, t⟩ q' ⟨rfl, hdata⟩
      exact ⟨by nofun, by nofun⟩

end Rounds

/-! ## Conversations that do not end -/

section Endless

theorem Returns.done {α : Type} (a : α) : Returns mayClose (.done a) [] a :=
  ⟨by nofun, [], [], rfl, rfl⟩

theorem Returns.receive {α : Type} {next : ReceiveAnswer → TransferDialogue α} {a : α}
    {r : ReceiveAnswer} (hpermits : Permits mayClose r) (h : Returns mayClose (next r) log a) :
    Returns mayClose (.receive next) (r :: log) a := by
  obtain ⟨hlog, as, ms, hfollow, rfl⟩ := h
  exact ⟨List.forall_mem_cons.mpr ⟨hpermits, hlog⟩, .inr r :: as, ms, hfollow, rfl⟩

theorem Returns.bind {α β : Type} {d : TransferDialogue α} {f : α → TransferDialogue β} {a : α}
    {b : β} {log' : List ReceiveAnswer} (h : Returns mayClose d log a)
    (hnext : Returns mayClose (f a) log' b) : Returns mayClose (d >>= f) (log ++ log') b := by
  obtain ⟨hlog, as, ms, hfollow, rfl⟩ := h
  obtain ⟨hlog', as', ms', hfollow', rfl⟩ := hnext
  refine ⟨?_, as ++ as', ms ++ ms', Dialogue.follow_append hfollow hfollow', ?_⟩
  · intro r hr
    exact (List.mem_append.mp hr).elim (hlog r) (hlog' r)
  · exact List.filterMap_append

def byteChunk : SessionPayload := ⟨transferDataChunk [0], by decide⟩

variable {context : ClientTransferContext}

theorem returns_receivePullChunk (hmore : 1 < context.totalBytes) :
    Returns mayClose (client.receivePullChunk context) [.payload byteChunk]
      (.success,
        { context with scratchPayload := context.scratchPayload.fill byteChunk.1 }.takeChunk) := by
  have hsize : { context with
      scratchPayload := context.scratchPayload.fill byteChunk.1 }.takeChunk.totalBytes ≠ 0 := by
    have hone : sub64 5 4 = 1 := by decide
    have hlength : (context.scratchPayload.fill byteChunk.1).payloadSize = 5 := rfl
    simp only [ClientTransferContext.takeChunk, hlength, hone]
    omega
  have hcommand : (context.scratchPayload.fill byteChunk.1).command = .transferDataChunk :=
    command_fill _ _ _
  have hreceived : Returns mayClose (client.receiveTransferPayload context.scratchPayload
      kTransferChunkTimeoutInMs) [.payload byteChunk]
      (.success, context.scratchPayload.fill byteChunk.1) :=
    Returns.receive trivial (Returns.done _)
  refine hreceived.bind ?_
  dsimp only
  rw [if_pos ⟨rfl, hcommand⟩, if_neg hsize]
  exact Returns.done _

theorem returns_readLoop (remaining : ℕ) (copied : List UInt8)
    (hstate : context.state = .transferInProgress)
    (hnone : context.dataChunkSizeInBytes = context.dataChunkBytesTransfered)
    (hmore : remaining < context.totalBytes) :
    ∃ context' bytes, Returns mayClose
      (client.readLoop (2 * remaining + 1) remaining .success context copied)
      (List.replicate remaining (.payload byteChunk)) (.success, context', copied ++ bytes) ∧
      bytes.length = remaining ∧ context'.state = .transferInProgress ∧
      0 < context'.totalBytes := by
  induction remaining generalizing context copied with
  | zero =>
    refine ⟨context, [], ?_, rfl, hstate, hmore⟩
    rw [List.append_nil]
    exact Returns.done _
  | succ remaining ih =>
    let filled : ClientTransferContext :=
      { context with scratchPayload := context.scratchPayload.fill byteChunk.1 }
    have hone : filled.takeChunk.dataChunkSizeInBytes = 1 := by
      have hsub : min (sub64 5 4) kMaxTransferDataChunkSize = 1 := by decide
      have hlength : (context.scratchPayload.fill byteChunk.1).payloadSize = 5 := rfl
      simp only [ClientTransferContext.takeChunk, filled, hlength, hsub]
      omega
    have htotal : filled.takeChunk.totalBytes = context.totalBytes - 1 :=
      congrArg (context.totalBytes - ·) hone
    obtain ⟨context', bytes, hrest, hlength, hstate', hmore'⟩ :=
      @ih (filled.takeChunk.copyChunk 1).2 (copied ++ (filled.takeChunk.copyChunk 1).1) hstate
        hone (by
          change remaining < filled.takeChunk.totalBytes
          omega)
    refine ⟨context', (filled.takeChunk.copyChunk 1).1 ++ bytes, ?_, ?_, hstate', hmore'⟩
    · rw [List.replicate_succ, show 2 * (remaining + 1) + 1 = 2 * remaining + 1 + 1 + 1 by omega]
      unfold readLoop
      rw [if_pos ⟨Nat.succ_pos _, hstate⟩]
      dsimp only
      rw [if_neg (by omega), if_pos (by omega)]
      apply (returns_receivePullChunk (by omega)).bind
      unfold readLoop
      rw [if_pos ⟨Nat.succ_pos _, hstate⟩]
      have htransfered : filled.takeChunk.dataChunkBytesTransfered = 0 := rfl
      have hone' : min (remaining + 1) 1 = 1 := by omega
      rw [hone, htransfered, if_pos Nat.one_pos, Nat.sub_zero, hone', if_neg]
      · rw [List.append_assoc] at hrest
        exact hrest
      · rintro ⟨-, hzero⟩
        change filled.takeChunk.totalBytes = 0 at hzero
        omega
    · rw [List.length_append, hlength]
      have hchunk : (filled.takeChunk.copyChunk 1).1.length = 1 := by
        apply length_slice
        rw [length_chunkData]
        exact (Nat.zero_add 1).le.trans (by decide)
      omega

theorem returns_readPullTransferData (mayClose : Bool) (client : TransferClient)
    (bufferSize : ℕ) (hstate : context.state = .transferInProgress)
    (hnone : context.dataChunkSizeInBytes = context.dataChunkBytesTransfered)
    (hmore : bufferSize < context.totalBytes) :
    ∃ context' bytes, Returns mayClose
      (client.readPullTransferData (2 * bufferSize + 1) bufferSize context)
      (List.replicate bufferSize (.payload byteChunk)) (.success, context', bytes) ∧
      bytes.length = bufferSize ∧ context'.state = .transferInProgress ∧
      0 < context'.totalBytes := by
  unfold readPullTransferData
  rw [if_pos hstate, if_neg (by omega)]
  by_cases hroom : 0 < bufferSize
  · rw [if_pos hroom]
    exact returns_readLoop bufferSize [] hstate hnone hmore
  · obtain rfl : bufferSize = 0 := by omega
    exact ⟨context, [], Returns.done _, rfl, hstate, hmore⟩

theorem returns_readPullTransferData_zero (hstate : context.state = .transferInProgress)
    (hmore : 0 < context.totalBytes) :
    Returns mayClose (client.readPullTransferData 1 0 context) [] (.success, context, []) := by
  unfold readPullTransferData
  rw [if_pos hstate, if_neg (by omega)]
  exact Returns.done _

theorem returns_iteration {s : FullRead} {bufferSize rounds : ℕ} {bytes : List UInt8}
    (hreading : IsReading s)
    (h : Returns mayClose
      (client.readPullTransferData rounds (bufferSize - s.data.length) s.transfer) log
      (.success, context, bytes)) :
    Returns mayClose (s.iteration client rounds bufferSize) log
      (.success, ⟨s.context, context, s.data ++ bytes⟩) := by
  obtain ⟨blockId, hcontext⟩ := hreading
  unfold FullRead.iteration
  rw [hcontext, onPullBlock_readResponse, Dialogue.bind_assoc, ← List.append_nil log]
  exact h.bind (Returns.done _)

end Endless

def Iterates (mayClose : Bool) (client : TransferClient) (bufferSize : ℕ) (s t : FullRead) :
    Prop :=
  ∃ rounds log, Returns mayClose (s.iteration client rounds bufferSize) log (.success, t)

def Reaches (mayClose : Bool) (client : TransferClient) (bufferSize : ℕ) :
    FullRead → FullRead → Prop :=
  Relation.ReflTransGen (Iterates mayClose client bufferSize)

/-- The call for a response that has just been opened: there is no endless sequence of rounds,
every round reads something or is the end of the transfer, unless it ends the loop, all of it is
inside the buffer, and success means that the response that was sent is there as a whole. -/
structure ReadsFull (mayClose : Bool) (client : TransferClient) (bufferSize responseSize : ℕ)
    (blockId : BlockId) (transfer : ClientTransferContext) : Prop where
  terminates : ∀ s : ℕ → FullRead, s 0 = .start responseSize blockId transfer →
    ¬ ∀ n, Iterates mayClose client bufferSize (s n) (s (n + 1))
  progress : ∀ s t, Reaches mayClose client bufferSize (.start responseSize blockId transfer) s →
    Iterates mayClose client bufferSize s t → s.data.length < t.data.length ∨
      (s.transfer.state = .transferInProgress ∧ t.transfer.state ≠ .transferInProgress)
  inside : ∀ s, Reaches mayClose client bufferSize (.start responseSize blockId transfer) s →
    ∀ rounds log result t, Returns mayClose (s.iteration client rounds bufferSize) log
      (result, t) → t.data.length ≤ bufferSize
  whole : ∀ rounds loopRounds log context data transfer', Returns mayClose
      (onPullBlock client rounds (transfer.start responseSize)
        (readFullResponse loopRounds true bufferSize ⟨.readResponse, some blockId⟩)) log
      ((.success, context, data), transfer') →
    data = ((PullProgress.start responseSize transfer).after log).data ∧
      data.length = responseSize

/-! ## What is received and what is missing -/

theorem PullProgress.length_takeChunk (x : PullProgress) :
    x.takeChunk.data.length + x.takeChunk.missing = x.data.length + x.missing := by
  have hmissing : x.chunkSize ≤ x.missing := Nat.min_le_right _ _
  have hchunk : x.chunkSize ≤ kMaxTransferDataChunkSize :=
    (Nat.min_le_left _ _).trans (Nat.min_le_right _ _)
  simp only [PullProgress.takeChunk, List.length_append, List.length_take, length_chunkData]
  omega

theorem PullProgress.length_after (x : PullProgress) (log : List ReceiveAnswer) :
    (x.after log).data.length + (x.after log).missing = x.data.length + x.missing := by
  induction log using List.reverseRecOn with
  | nil => rfl
  | append_singleton log r ih =>
    rw [PullProgress.after_snoc, ← ih]
    cases r with
    | payload p =>
      dsimp only [PullProgress.receive]
      by_cases hmissing : 0 < (x.after log).missing
      · rw [if_pos hmissing]
        exact PullProgress.length_takeChunk _
      · rw [if_neg hmissing]
    | failure r hfailure => rfl

theorem InResponse.length_add_bytesLeft {x : PullProgress} {context : ClientTransferContext}
    {copied : List UInt8} (h : InResponse x context copied q) :
    copied.length + bytesLeft context = x.data.length + x.missing := by
  have hslice := h.length_copyChunk (le_refl _)
  dsimp only [ClientTransferContext.copyChunk] at hslice
  have htotal := x.length_after q
  rw [← h.data, List.length_append, hslice, ← h.missing] at htotal
  unfold bytesLeft
  omega

theorem ReadEnds.length_le {x : PullProgress} {bufferSize : ℕ} {copied : List UInt8}
    {y : Result × ClientTransferContext × List UInt8}
    (h : ReadEnds mayClose x copied bufferSize y q) : y.2.2.length ≤ bufferSize := by
  cases h with
  | filled hstate hlength => exact hlength.le
  | ended hstate hlength => exact hlength
  | failed hstate hlength => exact hlength

section Full

variable {bufferSize responseSize : ℕ} {blockId : BlockId} {transfer : ClientTransferContext}
  {s t : FullRead}

theorem inResponse_start (responseSize : ℕ) (transfer : ClientTransferContext) :
    InResponse (.start responseSize transfer) (transfer.start responseSize) [] [] := by
  constructor
  · rfl
  · rfl
  · exact le_refl _
  · exact Nat.zero_le _
  · exact slice_zero transfer.scratchPayload.chunkData 0

theorem isReading_start : IsReading (.start responseSize blockId transfer) := ⟨some blockId, rfl⟩

theorem ensures_iteration_start (rounds : ℕ) :
    ((FullRead.start responseSize blockId transfer).iteration client rounds bufferSize).Ensures
      (logProtocol mayClose) (RoundEnds mayClose (.start responseSize transfer) bufferSize) [] :=
  ensures_iteration isReading_start rfl (inResponse_start _ _) (Nat.zero_le _)

theorem iterates_start (hfits : responseSize ≤ bufferSize)
    (h : Iterates mayClose client bufferSize (.start responseSize blockId transfer) t) :
    IsReading t ∧ t.transfer.state = .error ∧ t.data.length ≤ bufferSize := by
  obtain ⟨rounds, log, hreturns⟩ := h
  obtain ⟨hends, hreading⟩ := ensures_of_returns (ensures_iteration_start rounds) hreturns
  refine ⟨hreading rfl, ?_, hends.length_le⟩
  generalize ht : ((Result.success, t.transfer, t.data) :
    Result × ClientTransferContext × List UInt8) = y at hends
  cases hends with
  | filled hstate hlength hin hleft =>
    have htotal := hin.length_add_bytesLeft
    simp only [List.nil_append, PullProgress.start, List.length_nil] at htotal
    omega
  | ended => cases ht
  | failed hstate =>
    cases ht
    exact hstate

theorem not_iterates (hreading : IsReading s) (hstate : s.transfer.state = .error) :
    ¬ Iterates mayClose client bufferSize s t := by
  rintro ⟨rounds, log, hreturns⟩
  have hstate' : s.transfer.state ≠ .transferInProgress := by
    rw [hstate]
    nofun
  have hend := ensures_of_returns (q := []) (ensures_iteration_of_state hreading hstate') hreturns
  cases hend.1

theorem reaches_start (hfits : responseSize ≤ bufferSize)
    (h : Reaches mayClose client bufferSize (.start responseSize blockId transfer) s) :
    s = .start responseSize blockId transfer ∨
      (IsReading s ∧ s.transfer.state = .error ∧ s.data.length ≤ bufferSize) := by
  induction h with
  | refl => exact .inl rfl
  | tail hreach hstep ih =>
    rcases ih with rfl | ⟨hreading, hstate, -⟩
    · exact .inr (iterates_start hfits hstep)
    · exact absurd hstep (not_iterates hreading hstate)

theorem ensures_readFullResponse (rounds loopRounds : ℕ) :
    (onPullBlock client rounds (transfer.start responseSize)
      (readFullResponse loopRounds true bufferSize ⟨.readResponse, some blockId⟩)).Ensures
      (logProtocol false) (fun y q => y.1.1 = .success →
        y.1.2.2 = ((PullProgress.start responseSize transfer).after q).data ∧
          ((PullProgress.start responseSize transfer).after q).missing = 0) [] := by
  rw [readFullResponse, if_pos rfl, onPullBlock_bind]
  apply (ensures_readFullLoop (x := .start responseSize transfer)
    (s := .start responseSize blockId transfer) loopRounds isReading_start
    fun _ => ⟨inResponse_start _ _, Nat.zero_le _⟩).bind
  rintro ⟨⟨result, context, data⟩, transfer'⟩ q ⟨hne, hend⟩ hsuccess
  by_cases hlast : result = .endOfStream
  · exact hend hlast
  · exact absurd ((if_neg hlast).symm.trans hsuccess) hne

theorem returns_readFullResponse_empty {rounds loopRounds : ℕ} {result : Result}
    {context : UriContext} {data : List UInt8} {transfer' : ClientTransferContext}
    (h : Returns mayClose (onPullBlock client rounds (transfer.start 0)
      (readFullResponse loopRounds true bufferSize ⟨.readResponse, some blockId⟩)) log
      ((result, context, data), transfer')) : log = [] ∧ data = [] := by
  obtain ⟨hlog, as, ms, hfollow, rfl⟩ := h
  cases loopRounds with
  | zero => exact absurd hfollow fun hfollow => Dialogue.follow_pending hfollow
  | succ loopRounds =>
    obtain ⟨rfl, hresult⟩ := Dialogue.follow_done hfollow
    exact ⟨rfl, congrArg (fun y => y.1.2.2) hresult.symm⟩

theorem whole_of_returns (hopen : mayClose = true → responseSize = 0) {rounds loopRounds : ℕ}
    {context : UriContext} {data : List UInt8} {transfer' : ClientTransferContext}
    (h : Returns mayClose (onPullBlock client rounds (transfer.start responseSize)
      (readFullResponse loopRounds true bufferSize ⟨.readResponse, some blockId⟩)) log
      ((.success, context, data), transfer')) :
    data = ((PullProgress.start responseSize transfer).after log).data ∧
      data.length = responseSize := by
  cases mayClose with
  | true =>
    obtain rfl := hopen rfl
    obtain ⟨rfl, rfl⟩ := returns_readFullResponse_empty h
    exact ⟨rfl, rfl⟩
  | false =>
    obtain ⟨rfl, hmissing⟩ := ensures_of_returns (ensures_readFullResponse rounds loopRounds) h rfl
    refine ⟨rfl, ?_⟩
    have htotal := (PullProgress.start responseSize transfer).length_after ([] ++ log)
    rw [hmissing] at htotal
    exact htotal.trans (Nat.zero_add responseSize)

theorem readsFull_of_fits (hfits : responseSize ≤ bufferSize)
    (hopen : mayClose = true → responseSize = 0) :
    ReadsFull mayClose client bufferSize responseSize blockId transfer := by
  constructor
  · intro s hstart hsteps
    obtain ⟨hreading, hstate, -⟩ := iterates_start hfits (hstart ▸ hsteps 0)
    exact not_iterates hreading hstate (hsteps 1)
  · intro s t hreach hstep
    rcases reaches_start hfits hreach with rfl | ⟨hreading, hstate, -⟩
    · right
      refine ⟨rfl, ?_⟩
      rw [(iterates_start hfits hstep).2.1]
      nofun
    · exact absurd hstep (not_iterates hreading hstate)
  · intro s hreach rounds log result t hreturns
    rcases reaches_start hfits hreach with rfl | ⟨hreading, hstate, hlength⟩
    · exact (ensures_of_returns (ensures_iteration_start rounds) hreturns).1.length_le
    · have hstate' : s.transfer.state ≠ .transferInProgress := by
        rw [hstate]
        nofun
      have hsame := ensures_of_returns (q := []) (ensures_iteration_of_state hreading hstate')
        hreturns
      exact (congrArg List.length hsame.2).trans_le hlength
  · intro rounds loopRounds log context data transfer' hreturns
    exact whole_of_returns hopen hreturns

theorem fits_of_readsFull (h : ReadsFull mayClose client bufferSize responseSize blockId transfer) :
    responseSize ≤ bufferSize := by
  by_contra hlonger
  obtain ⟨context, bytes, hread, hlength, hstate, hmore⟩ :=
    @returns_readPullTransferData (transfer.start responseSize) mayClose client bufferSize rfl rfl
      (Nat.lt_of_not_le hlonger)
  let full : FullRead := ⟨⟨.readResponse, some blockId⟩, context, bytes⟩
  have hfirst : Iterates mayClose client bufferSize (.start responseSize blockId transfer) full :=
    ⟨_, _, returns_iteration isReading_start hread⟩
  have hagain : Iterates mayClose client bufferSize full full := by
    refine ⟨1, [], ?_⟩
    have hroom : bufferSize - full.data.length = 0 := by
      change bufferSize - bytes.length = 0
      omega
    have hread' : Returns mayClose (client.readPullTransferData 1
        (bufferSize - full.data.length) full.transfer) [] (.success, context, []) := by
      rw [hroom]
      exact returns_readPullTransferData_zero hstate hmore
    have hnothing := returns_iteration ⟨some blockId, rfl⟩ hread'
    rwa [List.append_nil] at hnothing
  refine h.terminates (Nat.rec (.start responseSize blockId transfer) fun _ _ => full) rfl ?_
  intro n
  cases n with
  | zero => exact hfirst
  | succ n => exact hagain

theorem returns_readFullResponse_closed (hfits : responseSize ≤ bufferSize)
    (hsize : responseSize ≠ 0) : ∃ context transfer',
    Returns true (onPullBlock client 2 (transfer.start responseSize)
      (readFullResponse 1 true bufferSize ⟨.readResponse, some blockId⟩))
      [.failure .endOfStream (by decide)] ((.success, context, []), transfer') := by
  obtain ⟨responseSize, rfl⟩ := Nat.exists_eq_succ_of_ne_zero hsize
  obtain ⟨bufferSize, rfl⟩ := Nat.exists_eq_succ_of_ne_zero (show bufferSize ≠ 0 by omega)
  refine ⟨_, _, ?_, [.inr (.failure .endOfStream (by decide))], _, rfl, rfl⟩
  intro r hr
  obtain rfl := List.mem_singleton.mp hr
  rfl

/-- `ReadFullResponse` meets its purpose exactly for responses that fit into the buffer, over
sessions that are not closed while there is something to read. -/
theorem readsFull_iff (mayClose : Bool) (client : TransferClient) (bufferSize responseSize : ℕ)
    (blockId : BlockId) (transfer : ClientTransferContext) :
    ReadsFull mayClose client bufferSize responseSize blockId transfer ↔
      responseSize ≤ bufferSize ∧ (mayClose = true → responseSize = 0) := by
  constructor
  · intro h
    have hfits := fits_of_readsFull h
    refine ⟨hfits, ?_⟩
    rintro rfl
    by_contra hsize
    obtain ⟨context, transfer', hreturns⟩ :=
      @returns_readFullResponse_closed client bufferSize responseSize blockId transfer hfits hsize
    exact hsize (h.whole _ _ _ _ _ _ hreturns).2.symm
  · rintro ⟨hfits, hopen⟩
    exact readsFull_of_fits hfits hopen

/-- A response of one byte and no room for it. -/
theorem readsFull_not :
    ¬ ReadsFull false (defaultClient transferRefactorVersion) 0 1 0 .zero := fun h =>
  absurd (fits_of_readsFull h) (by decide)

end Full

end DevDriver.Analysis
