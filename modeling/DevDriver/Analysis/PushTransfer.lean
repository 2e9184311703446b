import DevDriver.Analysis.PushServer

/-!
# Push transfers under back-pressure

A client writes to a push and closes it while its `Send` answers `NotReady` now and then, and the
server is updated in between.  The data arrives whatever these do.
-/

namespace DevDriver.Analysis

open Library Model PushPhase TransferClient TransferCtx

def refusals (sends : List Bool) : ℕ := (sends.takeWhile (! ·)).length

def afterPayload (sends : List Bool) : List Bool := sends.drop (refusals sends + 1)

def afterChunks (chunks : List (List UInt8)) (sends : List Bool) : List Bool :=
  chunks.foldl (fun sends _ => afterPayload sends) sends

/-- What the checksum of a push counts: every chunk once, and once more each time it was refused
`attempts` times. -/
def countedBytes (attempts : ℕ) : List (List UInt8) → List Bool → List UInt8
  | [], _ => []
  | chunk :: chunks, sends =>
    (List.replicate (refusals sends / attempts + 1) chunk).flatten ++
      countedBytes attempts chunks (afterPayload sends)

variable (sends : List Bool)

theorem refusals_le_length : refusals sends ≤ sends.length :=
  (List.takeWhile_prefix _).length_le

theorem refusals_cons_false :
    refusals (false :: sends) = refusals sends + 1 := rfl

theorem refusals_drop {n : ℕ} {sends : List Bool} (h : n ≤ refusals sends) :
    refusals (sends.drop n) = refusals sends - n := by
  induction n generalizing sends with
  | zero => rfl
  | succ n ih =>
    cases sends with
    | nil => exact absurd h (Nat.not_succ_le_zero n)
    | cons answer sends =>
      cases answer with
      | true => exact absurd h (Nat.not_succ_le_zero n)
      | false =>
        rw [refusals_cons_false] at h ⊢
        rw [List.drop_succ_cons, ih (Nat.le_of_succ_le_succ h), Nat.add_sub_add_right]

theorem afterPayload_drop {n : ℕ} {sends : List Bool} (h : n ≤ refusals sends) :
    afterPayload (sends.drop n) = afterPayload sends := by
  unfold afterPayload
  rw [refusals_drop h, List.drop_drop]
  congr 1
  omega

theorem length_afterPayload_le : (afterPayload sends).length ≤ sends.length := by
  rw [afterPayload, List.length_drop]
  exact Nat.sub_le _ _

theorem countedBytes_drop {attempts : ℕ} (hpos : 0 < attempts) {sends : List Bool}
    (h : attempts ≤ refusals sends) (chunk : List UInt8) (chunks : List (List UInt8)) :
    countedBytes attempts (chunk :: chunks) sends =
      chunk ++ countedBytes attempts (chunk :: chunks) (sends.drop attempts) := by
  have htimes : refusals sends / attempts = (refusals sends - attempts) / attempts + 1 :=
    Nat.div_eq_sub_div hpos h
  rw [countedBytes, countedBytes, refusals_drop h, afterPayload_drop h, htimes,
    List.replicate_succ, List.flatten_cons, List.append_assoc]

theorem countedBytes_taken {attempts : ℕ} {sends : List Bool} (h : refusals sends < attempts)
    (chunk : List UInt8) (chunks : List (List UInt8)) :
    countedBytes attempts (chunk :: chunks) sends =
      chunk ++ countedBytes attempts chunks (afterPayload sends) := by
  rw [countedBytes, Nat.div_eq_of_lt h, List.replicate_one, List.flatten_singleton]

theorem countedBytes_append (attempts : ℕ) (chunks chunks' : List (List UInt8))
    (sends : List Bool) : countedBytes attempts (chunks ++ chunks') sends =
      countedBytes attempts chunks sends ++
        countedBytes attempts chunks' (afterChunks chunks sends) := by
  induction chunks generalizing sends with
  | nil => rfl
  | cons chunk chunks ih =>
    rw [List.cons_append, countedBytes, countedBytes, ih, List.append_assoc]
    rfl

theorem length_afterChunks_le (chunks : List (List UInt8)) (sends : List Bool) :
    (afterChunks chunks sends).length ≤ sends.length := by
  induction chunks generalizing sends with
  | nil => exact le_refl _
  | cons chunk chunks ih => exact (ih _).trans (length_afterPayload_le sends)

/-! ## The session of the client -/

section Session

variable (l : TransferLink)

theorem serverTurns_append (turns turns' : List ServerTurn) :
    l.serverTurns (turns ++ turns') = (l.serverTurns turns).serverTurns turns' :=
  List.foldl_append

end Session

/-- What the rounds of a `SendSizedPayload` come to: the payload is taken in one of them, or is
refused in all. -/
inductive SendEnds (payload : List UInt8) (rounds : ℕ) (s s' : PressuredLink) : Result → Prop where
  | taken (turns : List ServerTurn) (h : refusals s.sends < rounds)
      (hsends : s'.sends = afterPayload s.sends)
      (hlink : s'.link = { s.link.serverTurns turns with
        toServer := (s.link.serverTurns turns).toServer ++ [toSessionPayload payload] }) :
      SendEnds payload rounds s s' .success
  | refused (turns : List ServerTurn) (h : rounds ≤ refusals s.sends)
      (hsends : s'.sends = s.sends.drop rounds) (hlink : s'.link = s.link.serverTurns turns) :
      SendEnds payload rounds s s' .notReady

theorem run_sendRounds (payload : List UInt8) (rounds : ℕ) (s : PressuredLink) :
    ∃ r s', (sendRounds payload rounds).run pressured s = some (r, s') ∧
      SendEnds payload rounds s s' r := by
  induction rounds generalizing s with
  | zero => exact ⟨_, s, rfl, .refused [] (Nat.zero_le _) rfl rfl⟩
  | succ rounds ih =>
    unfold sendRounds
    rw [Dialogue.run_send]
    by_cases hrefused : ∃ sends, s.sends = false :: sends
    · obtain ⟨sends, hsends⟩ := hrefused
      have hanswer : pressured.send payload s =
          (.notReady, { s.advance with sends := sends }) := by
        show s.advance.sendPayload payload = _
        unfold PressuredLink.sendPayload
        rw [show s.advance.sends = false :: sends from hsends]
      rw [hanswer]
      obtain ⟨r, s', hrun, hends⟩ := ih { s.advance with sends := sends }
      refine ⟨r, s', hrun, ?_⟩
      cases hends with
      | taken turns h hsends' hlink =>
        refine .taken (s.turns.headD [] ++ turns) ?_ ?_ ?_
        · rw [hsends, refusals_cons_false]
          exact Nat.succ_lt_succ h
        · rw [hsends', hsends]
          rfl
        · rw [hlink, serverTurns_append]
          rfl
      | refused turns h hsends' hlink =>
        refine .refused (s.turns.headD [] ++ turns) ?_ ?_ ?_
        · rw [hsends, refusals_cons_false]
          exact Nat.succ_le_succ h
        · rw [hsends', hsends]
          rfl
        · rw [hlink, serverTurns_append]
          rfl
    · have hanswer : pressured.send payload s = (.success, { s.advance with
          link := { s.advance.link with
            toServer := s.advance.link.toServer ++ [toSessionPayload payload] }
          sends := s.sends.tail }) := by
        show s.advance.sendPayload payload = _
        unfold PressuredLink.sendPayload
        split
        · rename_i sends hsends
          exact absurd ⟨sends, hsends⟩ hrefused
        · rfl
      rw [hanswer]
      have hnone : refusals s.sends = 0 := by
        rcases hs : s.sends with _ | ⟨_ | _, sends⟩
        · rfl
        · exact absurd ⟨sends, hs⟩ hrefused
        · rfl
      refine ⟨.success, _, rfl, .taken (s.turns.headD []) ?_ ?_ rfl⟩
      · rw [hnone]
        exact Nat.succ_pos _
      · rw [afterPayload, hnone]
        exact (List.drop_one (l := s.sends)).symm

theorem run_receiveRounds {c : SizedPayloadContainer} {s : PressuredLink}
    {p : SessionPayload} {ps : List SessionPayload}
    (h : s.advance.awaitAnswer.link.toClient = p :: ps) (rounds : ℕ) : ∃ s',
      (receiveRounds c (rounds + 1)).run pressured s =
        some ((.success, c.fill p.1), s') ∧
      s'.link = { s.advance.awaitAnswer.link with toClient := ps } := by
  have hanswer : pressured.receive s = (.payload p, { s.advance.awaitAnswer with
      link := { s.advance.awaitAnswer.link with toClient := ps } }) := by
    show s.advance.awaitAnswer.receivePayload = _
    unfold PressuredLink.receivePayload
    rw [h]
  refine ⟨{ s.advance.awaitAnswer with
    link := { s.advance.awaitAnswer.link with toClient := ps } }, ?_, rfl⟩
  unfold receiveRounds
  rw [Dialogue.run_receive, hanswer]
  rfl

variable {chunks : List (List UInt8)}

theorem foldl_chunks {size : ℕ} (held : List UInt8) (hne : ∀ chunk ∈ chunks, chunk ≠ [])
    (hsize : chunks.flatten.length ≤ size) :
    (chunks.map PushMessage.chunk).foldl (receive held size) (.receiving []) =
      .receiving chunks.flatten := by
  induction chunks using List.reverseRecOn with
  | nil => rfl
  | append_singleton chunks chunk ih =>
    rw [List.flatten_concat, List.length_append] at hsize
    have hpos := List.length_pos_of_ne_nil
      (hne chunk (List.mem_append_right _ (List.mem_singleton_self _)))
    rw [List.map_append, List.foldl_append,
      ih (fun c hc => hne c (List.mem_append_left _ hc)) (by omega), List.flatten_concat]
    show receive held size (.receiving chunks.flatten) (.chunk chunk) = _
    rw [receive_chunk, if_pos (by omega), List.take_of_length_le (by omega)]

variable {data : List UInt8}

theorem receiving_chunks {size most : ℕ} {held : List UInt8}
    (hmost : ∀ chunk ∈ chunks, chunk.length ≤ most)
    (h : (chunks.map PushMessage.chunk).foldl (receive held size) (.receiving []) =
      .receiving data) :
    data = chunks.flatten.take size ∧ chunks.flatten.length ≤ size + most := by
  induction chunks using List.reverseRecOn generalizing data with
  | nil =>
    obtain rfl := receiving.inj h
    exact ⟨List.take_nil.symm, Nat.zero_le _⟩
  | append_singleton chunks chunk ih =>
    rw [List.map_append, List.foldl_append] at h
    have hmost' := fun c hc => hmost c (List.mem_append_left _ hc)
    have hchunk := hmost chunk (List.mem_append_right _ (List.mem_singleton_self _))
    rw [List.flatten_concat, List.length_append]
    cases hphase : (chunks.map PushMessage.chunk).foldl (receive held size)
        (.receiving []) with
    | answered result left =>
      rw [hphase] at h
      cases h
    | receiving before =>
      rw [hphase] at h
      obtain ⟨hbefore, -⟩ := ih hmost' hphase
      change receive held size (.receiving before) (.chunk chunk) = _ at h
      rw [receive_chunk] at h
      by_cases hlt : before.length < size
      · rw [if_pos hlt] at h
        have hlength := congrArg List.length hbefore
        rw [List.length_take] at hlength
        have hall : before = chunks.flatten := by
          rw [hbefore]
          exact List.take_of_length_le (by omega)
        have hdata := (receiving.inj h).symm
        rw [hall] at hdata hlt
        refine ⟨?_, by omega⟩
        rw [hdata, List.take_append, List.take_of_length_le (Nat.le_of_lt hlt)]
      · rw [if_neg hlt] at h
        cases h

/-! ## Writing -/

/-- How often `SendSizedPayload` tries to send a payload of a transfer. -/
def sendAttempts (client : TransferClient) : ℕ :=
  client.timeouts.communicationTimeoutInMs / client.timeouts.retryTimeoutInMs + 1

def chunkSize (size : ℕ) : ℕ := min kMaxTransferDataChunkSize size

theorem chunkSize_pos {size : ℕ} (h : 0 < size) : 0 < chunkSize size :=
  lt_min (by decide) h

section Writing

variable (client : TransferClient) (b : BlockRef) (held : List UInt8) (size : ℕ)

structure SendsChunks (messages : List PushMessage) (chunks : List (List UInt8))
    (context context' : ClientTransferContext) (s s' : PressuredLink) : Prop where
  context : ∃ scratch, context' = { context with
    crc32 := CRC32 (countedBytes (sendAttempts client) chunks s.sends) context.crc32
    scratchPayload := scratch }
  sends : s'.sends = afterChunks chunks s.sends
  inPush : InPush client.version b held size (messages ++ chunks.map .chunk) s'.link

end Writing

variable {client : TransferClient} {b : BlockRef} {held : List UInt8} {size : ℕ}
  {messages : List PushMessage} {context context' context'' : ClientTransferContext}
  {s s' s'' : PressuredLink}

theorem SendsChunks.refl (h : InPush client.version b held size messages s.link)
    (context : ClientTransferContext) :
    SendsChunks client b held size messages [] context context s s := by
  refine ⟨⟨context.scratchPayload, ?_⟩, rfl, ?_⟩
  · rw [countedBytes, CRC32_nil]
  · rw [List.map_nil, List.append_nil]
    exact h

theorem SendsChunks.trans {chunks' : List (List UInt8)}
    (h : SendsChunks client b held size messages chunks context context' s s')
    (h' : SendsChunks client b held size (messages ++ chunks.map .chunk) chunks' context' context''
      s' s'') :
    SendsChunks client b held size messages (chunks ++ chunks') context context'' s s'' := by
  obtain ⟨scratch, hcontext⟩ := h.context
  obtain ⟨scratch', hcontext'⟩ := h'.context
  refine ⟨⟨scratch', ?_⟩, ?_, ?_⟩
  · rw [hcontext', hcontext, h.sends, countedBytes_append, CRC32_append]
  · rw [h'.sends, h.sends]
    exact List.foldl_append.symm
  · rw [List.map_append, ← List.append_assoc]
    exact h'.inPush

variable {chunk : List UInt8}

theorem SendsChunks.taken (hlt : refusals s.sends < sendAttempts client)
    (hsends : s'.sends = afterPayload s.sends)
    (h : InPush client.version b held size (messages ++ [.chunk chunk]) s'.link) :
    SendsChunks client b held size messages [chunk] context (context.offerChunk chunk) s s' := by
  refine ⟨⟨context.scratchPayload.fill (transferDataChunk chunk), ?_⟩, hsends, h⟩
  rw [countedBytes_taken hlt, countedBytes, List.append_nil]
  rfl

theorem SendsChunks.refused (hle : sendAttempts client ≤ refusals s.sends)
    (hsends : s'.sends = s.sends.drop (sendAttempts client))
    (h : SendsChunks client b held size messages (chunk :: chunks) (context.offerChunk chunk)
      context'' s' s'') :
    SendsChunks client b held size messages (chunk :: chunks) context context'' s s'' := by
  obtain ⟨scratch, hcontext⟩ := h.context
  refine ⟨⟨scratch, ?_⟩, ?_, h.inPush⟩
  · have hpos : 0 < sendAttempts client := Nat.succ_pos _
    rw [countedBytes_drop hpos hle, CRC32_append, ← hsends, hcontext]
    rfl
  · rw [h.sends, hsends]
    show afterChunks chunks (afterPayload _) = afterChunks chunks (afterPayload _)
    rw [afterPayload_drop hle]

theorem run_sendTransferPayload (h : InPush client.version b held size messages s.link)
    (message : PushMessage) (hlength : message.payload.length ≤ kMaxPayloadSizeInBytes)
    (container : SizedPayloadContainer) : ∃ r s',
      (client.sendTransferPayload (container.fill message.payload)).run pressured s =
        some (r, s') ∧
      ((r = .success ∧ refusals s.sends < sendAttempts client ∧
          s'.sends = afterPayload s.sends ∧
          InPush client.version b held size (messages ++ [message]) s'.link) ∨
        (r = .notReady ∧ sendAttempts client ≤ refusals s.sends ∧
          s'.sends = s.sends.drop (sendAttempts client) ∧
          InPush client.version b held size messages s'.link)) := by
  obtain ⟨r, s', hrun, hends⟩ := run_sendRounds
    ((container.fill message.payload).sentBytes client.version) (sendAttempts client) s
  refine ⟨r, s', hrun, ?_⟩
  cases hends with
  | taken turns hlt hsends hlink =>
    refine .inl ⟨rfl, hlt, hsends, ?_⟩
    have hsent : IsSent client.version message.payload
        ((container.fill message.payload).sentBytes client.version) :=
      isSent_sentBytes hlength _ _
    have hpayload : (toSessionPayload
        ((container.fill message.payload).sentBytes client.version)).1 =
          (container.fill message.payload).sentBytes client.version :=
      List.take_of_length_le (hsent.length_le hlength)
    rw [hlink]
    exact (h.serverTurns turns).send message (by rw [hpayload]; exact hsent)
  | refused turns hle hsends hlink =>
    refine .inr ⟨rfl, hle, hsends, ?_⟩
    rw [hlink]
    exact h.serverTurns turns

theorem length_chunk_le {size : ℕ} :
    (PushMessage.chunk (data.take (chunkSize size))).payload.length ≤ kMaxPayloadSizeInBytes :=
  length_transferDataChunk_le ((List.length_take_le _ _).trans (Nat.min_le_left _ _))

theorem run_writeLoop (hsize : 0 < size) (rounds : ℕ) (result : Result) {srcBuffer : List UInt8}
    (hrounds : s.sends.length + srcBuffer.length < rounds) (htotal : context.totalBytes = size)
    (h : InPush client.version b held size messages s.link) : ∃ context' s',
      (client.writeLoop rounds result srcBuffer context).run pressured s =
        some ((if srcBuffer = [] then result else .success, [], context'), s') ∧
      SendsChunks client b held size messages (chunksOf (chunkSize size) srcBuffer) context context'
        s s' := by
  induction rounds generalizing result srcBuffer context s messages with
  | zero => exact absurd hrounds (Nat.not_lt_zero _)
  | succ rounds ih =>
    unfold writeLoop
    by_cases hsrc : srcBuffer = []
    · refine ⟨context, s, ?_, ?_⟩
      · rw [hsrc, if_neg (fun h => absurd h.2 (lt_irrefl 0))]
        rfl
      · rw [hsrc, chunksOf_nil]
        exact .refl h context
    · have hlength := List.length_pos_of_ne_nil hsrc
      have hbytes : min (min kMaxTransferDataChunkSize context.totalBytes) srcBuffer.length =
          min (chunkSize size) srcBuffer.length := by rw [htotal, chunkSize]
      have htake : srcBuffer.take (min (chunkSize size) srcBuffer.length) =
          srcBuffer.take (chunkSize size) := by
        rw [← List.take_take, List.take_length]
      have hdrop : srcBuffer.drop (min (chunkSize size) srcBuffer.length) =
          srcBuffer.drop (chunkSize size) := by
        rcases Nat.le_total (chunkSize size) srcBuffer.length with hle | hle
        · rw [Nat.min_eq_left hle]
        · rw [Nat.min_eq_right hle, List.drop_length, List.drop_of_length_le hle]
      obtain ⟨r, s₁, hrun, hends⟩ := run_sendTransferPayload h
        (.chunk (srcBuffer.take (chunkSize size))) length_chunk_le context.scratchPayload
      change (client.sendTransferPayload (context.offerChunk
        (srcBuffer.take (chunkSize size))).scratchPayload).run pressured s = _ at hrun
      rw [if_pos ⟨by rw [htotal]; exact hsize, hlength⟩, if_neg hsrc]
      simp only [hbytes, htake, hdrop]
      rw [Dialogue.run_bind_of_run pressured hrun, chunksOf_ne_nil (chunkSize_pos hsize) hsrc]
      have htotal' : (context.offerChunk (srcBuffer.take (chunkSize size))).totalBytes = size :=
        htotal
      rcases hends with ⟨rfl, hlt, hsends, hin⟩ | ⟨rfl, hle, hsends, hin⟩
      · -- the rest of the buffer
        have htaken : SendsChunks client b held size messages [srcBuffer.take (chunkSize size)]
            context (context.offerChunk (srcBuffer.take (chunkSize size))) s s₁ := .taken hlt hsends hin
        have hlen : s₁.sends.length ≤ s.sends.length := by
          rw [hsends]
          exact length_afterPayload_le _
        have hrest : (srcBuffer.drop (chunkSize size)).length < srcBuffer.length := by
          have hpos := chunkSize_pos hsize
          rw [List.length_drop]
          omega
        have hrounds' : s₁.sends.length + (srcBuffer.drop (chunkSize size)).length < rounds := by
          omega
        obtain ⟨context', s', hrun', hsent⟩ := ih .success hrounds' htotal' hin
        refine ⟨context', s', ?_, htaken.trans hsent⟩
        rw [if_pos rfl, hrun', ite_self]
      · -- the same chunk again
        have hlen : s₁.sends.length < s.sends.length := by
          have hpos : 0 < sendAttempts client := Nat.succ_pos _
          have hall := refusals_le_length s.sends
          rw [hsends, List.length_drop]
          omega
        have hrounds' : s₁.sends.length + srcBuffer.length < rounds := by omega
        obtain ⟨context', s', hrun', hsent⟩ := ih .notReady hrounds' htotal' hin
        rw [chunksOf_ne_nil (chunkSize_pos hsize) hsrc] at hsent
        refine ⟨context', s', ?_, hsent.refused hle hsends⟩
        rw [if_neg (by simp), if_pos rfl, hrun', if_neg hsrc]

def chunksOfAll (size : ℕ) (srcBuffers : List (List UInt8)) : List (List UInt8) :=
  srcBuffers.flatMap (chunksOf (chunkSize size))

structure Pushing (size : ℕ) (context : ClientTransferContext) : Prop where
  state : context.state = .transferInProgress
  type : context.type = .push
  totalBytes : context.totalBytes = size

theorem SendsChunks.pushing (h : Pushing size context)
    (hsends : SendsChunks client b held size messages chunks context context' s s') :
    Pushing size context' := by
  obtain ⟨scratch, rfl⟩ := hsends.context
  exact ⟨h.state, h.type, h.totalBytes⟩

def writeResults (srcBuffers : List (List UInt8)) : List (List UInt8 × Result) :=
  srcBuffers.map fun srcBuffer => (srcBuffer, if srcBuffer = [] then .error else .success)

variable {srcBuffers : List (List UInt8)}

theorem run_writeCalls (hsize : 0 < size) {rounds : ℕ}
    (hrounds : ∀ srcBuffer ∈ srcBuffers, s.sends.length + srcBuffer.length < rounds)
    (hpushing : Pushing size context)
    (h : InPush client.version b held size messages s.link) : ∃ context' s',
      (client.writeCalls rounds srcBuffers context).run pressured s =
        some ((writeResults srcBuffers, context'), s') ∧
      SendsChunks client b held size messages (chunksOfAll size srcBuffers) context context'
        s s' := by
  induction srcBuffers generalizing context s messages with
  | nil => exact ⟨context, s, rfl, .refl h context⟩
  | cons srcBuffer srcBuffers ih =>
    obtain ⟨context₁, s₁, hrun, hsends⟩ := run_writeLoop hsize rounds .error
      (hrounds srcBuffer List.mem_cons_self) hpushing.totalBytes h
    have hpushing₁ := hsends.pushing hpushing
    have hlength : s₁.sends.length ≤ s.sends.length := by
      rw [hsends.sends]
      exact length_afterChunks_le _ _
    have hwrite : (client.writePushTransferData rounds srcBuffer context).run pressured s =
        some ((if srcBuffer = [] then .error else .success, context₁), s₁) := by
      unfold writePushTransferData
      rw [if_pos ⟨hpushing.state, hpushing.type⟩, Dialogue.run_bind_of_run pressured hrun]
      simp only [List.length_nil, lt_irrefl, and_false, if_false]
      rfl
    obtain ⟨context', s', hrun', hsends'⟩ := ih
      (fun srcBuffer' hmem => lt_of_le_of_lt (Nat.add_le_add_right hlength _)
        (hrounds srcBuffer' (List.mem_cons_of_mem _ hmem))) hpushing₁ hsends.inPush
    refine ⟨context', s', ?_, ?_⟩
    · unfold writeCalls
      rw [Dialogue.run_bind_of_run pressured hwrite]
      rw [Dialogue.run_bind_of_run pressured hrun']
      rfl
    · exact hsends.trans hsends'

/-! ## Closing -/

structure Closed (client : TransferClient) (b : BlockRef) (phase : PushPhase) (result : Result)
    (s s' : PressuredLink) : Prop where
  taken : result = .success → refusals s.sends < sendAttempts client
  answered : refusals s.sends < sendAttempts client → ∃ data, phase = .answered result data ∧
    (s'.link.manager.blocks b).data = data ∧
    ServerBlock.Consistent (s'.link.manager.blocks b)

variable {result : Result}

theorem Answered.of_inPush_awaitAnswer {v : Version} (h : InPush v b held size messages s.link)
    (hend : messages.foldl (receive held size) (.receiving []) = .answered result data) :
    Answered v b result data s.awaitAnswer.link := by
  unfold PressuredLink.awaitAnswer
  split
  · exact h.answered hend
  · rename_i hne
    exact h.answered_of_ne_nil hend hne

theorem coded_foldl (messages : List PushMessage) {phase : PushPhase} (h : phase.Coded) :
    (messages.foldl (receive held size) phase).Coded := by
  induction messages generalizing phase with
  | nil => exact h
  | cons message messages ih => exact ih (coded_receive h held size message)

theorem answered_sentinel (phase : PushPhase) (discard : Bool) (crc : UInt32) :
    ∃ result data,
      receive held size phase (.sentinel discard crc) = .answered result data := by
  unfold PushPhase.receive
  split
  · rename_i hchunk
    cases hchunk
  · split
    · exact ⟨_, _, rfl⟩
    · exact ⟨_, _, rfl⟩
  · exact ⟨_, _, rfl⟩

theorem run_closePushTransfer (hpushing : Pushing size context)
    (h : InPush client.version b held size messages s.link) : ∃ result context' s',
      (client.closePushTransfer false context).run pressured s =
        some ((result, context'), s') ∧
      Closed client b ((messages ++ [PushMessage.sentinel false context.crc32]).foldl
        (receive held size) (.receiving [])) result s s' := by
  have hlength : (PushMessage.sentinel false context.crc32).payload.length ≤
      kMaxPayloadSizeInBytes := by
    show (transferDataSentinel _ _).length ≤ _
    rw [length_transferDataSentinel]
    decide
  obtain ⟨r, s₁, hrun, hends⟩ := run_sendTransferPayload h _ hlength .zero
  generalize hcontainer : SizedPayloadContainer.zero.fill
    (PushMessage.sentinel false context.crc32).payload = container at hrun
  have hclose : client.closePushTransfer false context =
      client.transactTransferPayload container >>= fun x =>
        if x.1 = .success ∧ x.2.command = .transferStatus then
          pure (x.2.result, { context with state := closedState x.2.result .idle })
        else pure (.error, { context with state := .error }) := by
    rw [← hcontainer]
    unfold closePushTransfer
    rw [if_pos ⟨hpushing.state, hpushing.type⟩]
    rfl
  rw [hclose]
  rcases hends with ⟨rfl, hlt, -, hin⟩ | ⟨rfl, hle, -, -⟩
  · obtain ⟨result, data, hphase⟩ : ∃ result data, receive held size
        (messages.foldl (receive held size) (.receiving []))
        (.sentinel false context.crc32) = .answered result data := answered_sentinel _ _ _
    have hend : (messages ++ [PushMessage.sentinel false context.crc32]).foldl
        (receive held size) (.receiving []) = .answered result data := by
      rw [List.foldl_append]
      exact hphase
    have hcoded : Result.Coded result := by
      have hall : ((messages ++ [PushMessage.sentinel false context.crc32]).foldl
          (receive held size) (.receiving [])).Coded := coded_foldl _ trivial
      rw [hend] at hall
      exact hall
    have hanswered := Answered.of_inPush_awaitAnswer (s := s₁.advance)
      (hin.serverTurns (s₁.turns.headD [])) hend
    obtain ⟨p, hp, hanswer⟩ := hanswered.answer
    obtain ⟨s₂, hreceive, hlink⟩ := run_receiveRounds (c := container) hp
      (client.timeouts.communicationTimeoutInMs / client.timeouts.retryTimeoutInMs)
    have htransact : (client.transactTransferPayload container).run pressured s =
        some ((.success, container.fill p.1), s₂) := by
      unfold transactTransferPayload
      rw [Dialogue.run_bind_of_run pressured hrun, if_pos rfl]
      exact hreceive
    refine ⟨result, { context with state := closedState result .idle }, s₂, ?_,
      ⟨fun _ => hlt, fun _ => ⟨data, hend, ?_, ?_⟩⟩⟩
    · rw [Dialogue.run_bind_of_run pressured htransact]
      simp only [hanswer.status_command, hanswer.status_result hcoded, and_self, if_true]
      rfl
    · rw [hlink]
      exact hanswered.data
    · rw [hlink]
      exact hanswered.consistent
  · have htransact : (client.transactTransferPayload container).run pressured s =
        some ((.notReady, container), s₁) := by
      unfold transactTransferPayload
      rw [Dialogue.run_bind_of_run pressured hrun, if_neg (by simp)]
      rfl
    refine ⟨.error, { context with state := .error }, s₁, ?_,
      fun h => absurd h (by simp), fun hlt => absurd hlt (Nat.not_lt.mpr hle)⟩
    rw [Dialogue.run_bind_of_run pressured htransact, if_neg fun h => absurd h.1 (by simp)]
    rfl

/-! ## The request -/

/-- A server that can be asked for a push to the block `b`: its session is idle and nothing is
under way. -/
structure PushReady (v : Version) (blockId : BlockId) (b : BlockRef) (l : TransferLink) :
    Prop where
  version : l.server.version = v
  idle : l.server.state = .idle
  toServer : l.toServer = []
  toClient : l.toClient = []
  registered : l.manager.getServerBlock blockId = some b
  consistent : ServerBlock.Consistent (l.manager.blocks b)

structure PushAsked (v : Version) (b : BlockRef) (held : List UInt8) (size : ℕ)
    (l : TransferLink) : Prop where
  version : l.server.version = v
  idle : l.server.state = .idle
  toClient : l.toClient = []
  asked : ∃ blockId p, l.toServer = [p] ∧ IsSent v (transferRequest blockId .push size) p.1 ∧
    l.manager.getServerBlock blockId = some b
  data : (l.manager.blocks b).data = held
  consistent : ServerBlock.Consistent (l.manager.blocks b)

structure TakesBlock (b : BlockRef) (held : List UInt8) (size : ℕ) (session : TransferSession)
    (m : TransferManager) : Prop where
  pBlock : session.pBlock = some b
  totalBytes : session.totalBytes = size
  bytesTransferred : session.bytesTransferred = 0
  data : (m.blocks b).data = held
  consistent : ServerBlock.Consistent (m.blocks b)

structure PushGranted (v : Version) (b : BlockRef) (held : List UInt8) (size : ℕ)
    (l : TransferLink) : Prop where
  toServer : l.toServer = []
  expects : Expects v .accept l
  takes : TakesBlock b held size l.server l.manager
  size_pos : 0 < size

def PushRequested (v : Version) (b : BlockRef) (held : List UInt8) (size : ℕ)
    (l : TransferLink) : Prop :=
  PushAsked v b held size l ∨
    (Expects v (.answer (transferStatus .error)) l ∧ l.toServer = []) ∨
    PushGranted v b held size l

section Request

variable {v : Version} {l : TransferLink} {c : TransferCtx}

theorem startPushTransferSession_takes (h : TakesBlock b held size c.session c.manager) :
    TakesBlock b held size c.startPushTransferSession.session
      c.startPushTransferSession.manager := by
  have hsession := sendPayload_session c
  have hmanager := (keepsBlocks_sendPayload c).manager
  unfold startPushTransferSession
  simp only
  split
  · unfold setState
    rw [hsession, hmanager]
    exact ⟨h.pBlock, h.totalBytes, h.bytesTransferred, h.data, h.consistent⟩
  · rw [hsession, hmanager]
    exact h

theorem updateSession_pushRequest {p : SessionPayload} {blockId : BlockId}
    (hidle : c.session.state = .idle) (hreceives : c.receives = [.payload p])
    (hp : IsSent v (transferRequest blockId .push size) p.1) :
    c.updateSession = processPushRequest blockId (size % 2 ^ 32)
      ({ c with receives := [] }.createPayload p.1) := by
  rw [updateSession_received hidle hreceives, processPayload, createPayload_scratchPayload,
    hp.request_command, hp.request_type (.inr rfl), hp.request_blockId, hp.request_size]

theorem processPushRequest_answers (size : ℕ) {blockId : BlockId}
    (hblock : c.manager.getServerBlock blockId = some b)
    (hdata : (c.manager.blocks b).data = held)
    (hconsistent : ServerBlock.Consistent (c.manager.blocks b)) :
    Proceeds (.answer (transferStatus .error)) c (c.processPushRequest blockId size) ∨
      (0 < size ∧ Proceeds .accept c (c.processPushRequest blockId size) ∧
        TakesBlock b held size (c.processPushRequest blockId size).session
          (c.processPushRequest blockId size).manager) := by
  have hlength : (transferStatus .error).length ≤ kMaxPayloadSizeInBytes := by
    rw [length_transferStatus]
    decide
  have hrefuse := fun c : TransferCtx => proceeds_reply (c := c) hlength
    (fun _ hm => Says.answer hlength hm) .answer
  have htakes : TakesBlock b held size (c.takeBlock b size 0).session
      (c.takeBlock b size 0).manager := by
    have hblocks : (c.takeBlock b size 0).manager.blocks b =
        (c.manager.blocks b).beginTransfer := Function.update_self ..
    refine ⟨rfl, rfl, rfl, ?_, ?_⟩
    · rw [hblocks]
      exact hdata
    · rw [hblocks]
      exact ⟨hconsistent.sized, hconsistent.crc32⟩
  unfold processPushRequest
  rw [hblock]
  simp only
  split
  · split
    · rename_i hsize
      have hholds : HoldsPayload (((c.takeBlock b size 0).setState .startPushTransfer).createPayload
          (transferStatus .success)).session (transferStatus .success) :=
        ⟨by rw [length_transferStatus]; decide, _, rfl⟩
      refine .inr ⟨hsize, (proceeds_startPushTransferSession rfl hholds).after rfl rfl rfl,
        startPushTransferSession_takes ?_⟩
      exact ⟨htakes.pBlock, htakes.totalBytes, htakes.bytesTransferred, htakes.data,
        htakes.consistent⟩
    · exact .inl ((hrefuse _).after rfl rfl rfl)
  · exact .inl (hrefuse _)

theorem PushAsked.serverTurn (h : PushAsked v b held size l) (hsize : size < 2 ^ 32)
    (turn : ServerTurn) : PushRequested v b held size (l.serverTurn turn) := by
  obtain ⟨blockId, p, hto, hp, hblock⟩ := h.asked
  rcases Nat.eq_zero_or_pos turn.arrived with hzero | hpos
  · rw [serverTurn_idle h.idle (by rw [hzero, List.take_zero])]
    exact .inl h
  · obtain ⟨hreceives, htaken⟩ := serverTurn_arrived hto hpos
    have hupdate := updateSession_pushRequest (c := l.serverCtx turn) h.idle hreceives hp
    rw [Nat.mod_eq_of_lt hsize] at hupdate
    have hempty : ∀ f, Path (Says v) f (l.toClient.map Subtype.val) f := by
      intro f
      rw [h.toClient]
      exact .nil f
    have hanswers := processPushRequest_answers size
      (c := { l.serverCtx turn with receives := [] }.createPayload p.1) hblock h.data h.consistent
    rw [← hupdate] at hanswers
    rcases hanswers with hrefused | ⟨hpos', hgranted, htakes⟩
    · exact .inr (.inl ⟨Expects.proceed h.version (hempty _) rfl rfl hrefused,
        htaken hrefused.receives⟩)
    · exact .inr (.inr ⟨htaken hgranted.receives,
        Expects.proceed h.version (hempty _) rfl rfl hgranted, htakes, hpos'⟩)

theorem Expects.accept_state (h : Expects v .accept l) :
    l.server.state = .startPushTransfer ∨ l.server.state = .receivePushTransferData := by
  obtain ⟨-, f, hpath, hserves⟩ := h
  generalize l.toClient.map Subtype.val = ms at hpath
  cases hpath with
  | nil =>
    cases hserves with
    | accept hstate => exact .inl hstate
  | cons hsay hrest =>
    cases hsay
    cases hrest with
    | nil =>
      cases hserves with
      | receiving hstate => exact .inr hstate
    | cons hsay => cases hsay

theorem PushGranted.serverTurn (h : PushGranted v b held size l) (turn : ServerTurn) :
    PushGranted v b held size (l.serverTurn turn) := by
  have harrived : l.toServer.take turn.arrived = [] := by rw [h.toServer, List.take_nil]
  obtain ⟨hexpects, hto⟩ := h.expects.serverTurn harrived
  refine ⟨hto.trans h.toServer, hexpects, ?_, h.size_pos⟩
  show TakesBlock b held size (l.serverCtx turn).updateSession.session
    (l.serverCtx turn).updateSession.manager
  have htakes : TakesBlock b held size (l.serverCtx turn).session (l.serverCtx turn).manager :=
      h.takes
  unfold TransferCtx.updateSession
  rcases h.expects.accept_state with hstate | hstate
  · rw [show (l.serverCtx turn).session.state = _ from hstate]
    exact startPushTransferSession_takes htakes
  · have hreceives : (l.serverCtx turn).receives = [] := by
      show (l.toServer.take turn.arrived).map ReceiveAnswer.payload = []
      rw [harrived]
      rfl
    rw [show (l.serverCtx turn).session.state = _ from hstate]
    simp only [receivePushTransferData, receivePushLoop,
      receivePayload_nil hreceives]
    exact htakes

theorem PushRequested.serverTurns (h : PushRequested v b held size l) (hsize : size < 2 ^ 32)
    (turns : List ServerTurn) : PushRequested v b held size (l.serverTurns turns) := by
  induction turns generalizing l with
  | nil => exact h
  | cons turn turns ih =>
    refine ih (l := l.serverTurn turn) ?_
    rcases h with hasked | ⟨hrefused, hto⟩ | hgranted
    · exact hasked.serverTurn hsize turn
    · have harrived : l.toServer.take turn.arrived = [] := by rw [hto, List.take_nil]
      obtain ⟨hrefused', hto'⟩ := hrefused.serverTurn harrived
      exact .inr (.inl ⟨hrefused', hto'.trans hto⟩)
    · exact .inr (.inr (hgranted.serverTurn turn))

theorem PushGranted.receive (h : PushGranted v b held size l)
    (hv : transferRefactorVersion ≤ v) {p : SessionPayload} {ps : List SessionPayload}
    (hto : l.toClient = p :: ps) : IsSent v (transferStatus .success) p.1 ∧
      InPush v b held size [] { l with toClient := ps } := by
  obtain ⟨g', hsay, hversion, f, hpath, hserves⟩ := h.expects.receive hto
  cases hsay with
  | accept hp =>
    refine ⟨hp, hv, hversion, [], [], rfl, ?_, ?_⟩
    · show UnderWay v [] l.toServer
      rw [h.toServer]
      exact .nil
    · show PushAt b held size l.server l.manager (.receiving []) (ps.map Subtype.val)
      change Path (Says v) .receiving (ps.map Subtype.val) f at hpath
      generalize ps.map Subtype.val = ms at hpath
      cases hpath with
      | nil =>
        cases hserves with
        | receiving hstate =>
          refine .receiving hstate h.takes.pBlock h.takes.totalBytes h.takes.bytesTransferred ?_
            h.takes.consistent
          rw [h.takes.data, List.append_nil]
      | cons hsay' => cases hsay'

theorem PushRequested.awaitAnswer (h : PushRequested v b held size s.link)
    (hsize : size < 2 ^ 32) : PushRequested v b held size s.awaitAnswer.link := by
  unfold PressuredLink.awaitAnswer
  split
  · exact h.serverTurns hsize [⟨s.link.toServer.length, [.success]⟩]
  · exact h

theorem run_receiveRounds_request (hv : transferRefactorVersion ≤ v) (hsize : size < 2 ^ 32)
    (rounds : ℕ) (h : PushRequested v b held size s.link) {c c' : SizedPayloadContainer}
    (hrun : (receiveRounds c rounds).run pressured s = some ((.success, c'), s')) :
    ∃ p : SessionPayload, c' = c.fill p.1 ∧ (IsSent v (transferStatus .error) p.1 ∨
      (IsSent v (transferStatus .success) p.1 ∧ 0 < size ∧
        InPush v b held size [] s'.link)) := by
  induction rounds generalizing s with
  | zero => cases hrun
  | succ rounds ih =>
    have hawait : PushRequested v b held size s.advance.awaitAnswer.link :=
      (h.serverTurns hsize (s.turns.headD [])).awaitAnswer (s := s.advance) hsize
    cases hto : s.advance.awaitAnswer.link.toClient with
    | nil =>
      have hanswer : pressured.receive s = (.notReady, s.advance.awaitAnswer) := by
        show s.advance.awaitAnswer.receivePayload = _
        unfold PressuredLink.receivePayload
        rw [hto]
      unfold receiveRounds at hrun
      rw [Dialogue.run_receive, hanswer] at hrun
      exact ih hawait hrun
    | cons p ps =>
      obtain ⟨s₁, hrun₁, hlink⟩ := run_receiveRounds (c := c) hto rounds
      rw [hrun₁] at hrun
      obtain ⟨rfl, rfl⟩ : c.fill p.1 = c' ∧ s₁ = s' := by
        simpa only [Option.some.injEq, Prod.mk.injEq, true_and] using hrun
      refine ⟨p, rfl, ?_⟩
      rcases hawait with hasked | ⟨hrefused, -⟩ | hgranted
      · rw [hasked.toClient] at hto
        cases hto
      · obtain ⟨g', hsay, -⟩ := hrefused.receive hto
        cases hsay with
        | answer _ hp => exact .inl hp
      · obtain ⟨hp, hin⟩ := hgranted.receive hv hto
        rw [hlink]
        exact .inr ⟨hp, hgranted.size_pos, hin⟩

end Request

theorem serverTurns_idle {l : TransferLink} (hidle : l.server.state = .idle)
    (hto : l.toServer = []) (turns : List ServerTurn) : l.serverTurns turns = l := by
  induction turns with
  | nil => rfl
  | cons turn turns ih =>
    show (l.serverTurn turn).serverTurns turns = l
    rw [serverTurn_idle hidle (by rw [hto, List.take_nil])]
    exact ih

theorem run_transact_request {blockId : BlockId} {transferSizeInBytes : ℕ}
    {c' : SizedPayloadContainer} (hready : PushReady client.version blockId b s.link)
    (hv : transferRefactorVersion ≤ client.version)
    (hmod : transferSizeInBytes % 2 ^ 32 = size) (hsize : size < 2 ^ 32)
    (hrun : (client.transactTransferPayload (SizedPayloadContainer.zero.fill
      (transferRequest blockId .push (transferSizeInBytes % 2 ^ 32)))).run pressured s =
        some ((.success, c'), s')) :
    ∃ p : SessionPayload, c' = (SizedPayloadContainer.zero.fill
        (transferRequest blockId .push (transferSizeInBytes % 2 ^ 32))).fill p.1 ∧
      (IsSent client.version (transferStatus .error) p.1 ∨
        (IsSent client.version (transferStatus .success) p.1 ∧ 0 < size ∧
          InPush client.version b (s.link.manager.blocks b).data size [] s'.link)) := by
  have hlength : (transferRequest blockId .push size).length ≤ kMaxPayloadSizeInBytes := by
    simp only [transferRequest, List.length_append, length_leBytes]
    decide
  rw [hmod] at hrun ⊢
  have hsent : IsSent client.version (transferRequest blockId .push size)
      ((SizedPayloadContainer.zero.fill (transferRequest blockId .push size)).sentBytes
        client.version) := isSent_sentBytes hlength _ _
  obtain ⟨r, s₁, hsend, hends⟩ := run_sendRounds
    ((SizedPayloadContainer.zero.fill (transferRequest blockId .push size)).sentBytes
      client.version) (sendAttempts client) s
  unfold transactTransferPayload at hrun
  change (client.sendTransferPayload (SizedPayloadContainer.zero.fill
    (transferRequest blockId .push size))).run pressured s = _ at hsend
  rw [Dialogue.run_bind_of_run pressured hsend] at hrun
  cases hends with
  | taken turns _ _ hlink =>
    have hpayload : (toSessionPayload ((SizedPayloadContainer.zero.fill
        (transferRequest blockId .push size)).sentBytes client.version)).1 =
          (SizedPayloadContainer.zero.fill (transferRequest blockId .push size)).sentBytes
            client.version := List.take_of_length_le (hsent.length_le hlength)
    rw [serverTurns_idle hready.idle hready.toServer, hready.toServer, List.nil_append] at hlink
    have hasked : PushAsked client.version b (s.link.manager.blocks b).data size s₁.link := by
      rw [hlink]
      exact ⟨hready.version, hready.idle, hready.toClient,
        ⟨blockId, _, rfl, by rw [hpayload]; exact hsent, hready.registered⟩, rfl,
        hready.consistent⟩
    rw [if_pos rfl] at hrun
    exact run_receiveRounds_request hv hsize _ (.inl hasked) hrun
  | refused =>
    rw [if_neg (by simp)] at hrun
    cases hrun

theorem run_requestPushTransfer {blockId : BlockId} {transferSizeInBytes : ℕ}
    (hready : PushReady client.version blockId b s.link)
    (hrun : (client.requestPushTransfer blockId transferSizeInBytes context).run pressured s =
      some ((.success, context'), s')) :
    0 < transferSizeInBytes % 2 ^ 32 ∧
      InPush client.version b (s.link.manager.blocks b).data (transferSizeInBytes % 2 ^ 32) []
        s'.link ∧
      Pushing (transferSizeInBytes % 2 ^ 32) context' ∧ context'.crc32 = 0 := by
  generalize hmod : transferSizeInBytes % 2 ^ 32 = size
  have hsize : size < 2 ^ 32 := hmod ▸ Nat.mod_lt _ (by decide)
  unfold requestPushTransfer at hrun
  split at hrun
  · rename_i hallowed
    rw [Dialogue.run_bind, Option.bind_eq_some_iff] at hrun
    obtain ⟨⟨⟨transactResult, container⟩, s₂⟩, htransact, hrun⟩ := hrun
    simp only at hrun
    split at hrun
    · rename_i hgranted
      obtain ⟨rfl, -, hresult⟩ := hgranted
      obtain ⟨rfl, rfl⟩ : { context.start (transferSizeInBytes % 2 ^ 32) with type := .push } =
          context' ∧ s₂ = s' := by
        simpa only [Dialogue.pure_eq, Dialogue.run_done, Option.some.injEq, Prod.mk.injEq,
          true_and] using hrun
      obtain ⟨p, hcontainer, hanswer⟩ :=
        run_transact_request hready hallowed.2.1 hmod hsize htransact
      rcases hanswer with herror | ⟨-, hpos, hin⟩
      · -- a refusal is no success
        rw [hcontainer, herror.status_result ⟨rfl, by decide⟩] at hresult
        cases hresult
      · exact ⟨hpos, hin, ⟨rfl, rfl, hmod⟩, rfl⟩
    · cases hrun
  · cases hrun

/-! ## Whole pushes -/

/-- What a client accepts of a push of `size` bytes: a write that succeeds, and what fits of one
that meets the end. -/
def acceptedBytes (size : ℕ) (written : List (List UInt8 × Result)) : List UInt8 :=
  written.foldl (fun accepted write =>
    match write.2 with
    | .success => accepted ++ write.1
    | .endOfStream => accepted ++ write.1.take (size - accepted.length)
    | _ => accepted) []

/-- A push as it should be: no more than `size` bytes are accepted, a write past the end returns
`EndOfStream`, and when all bytes were written, the block has them, both checksums agree and the
push succeeds. -/
structure IntactPush (size : ℕ) (outcome : PushOutcome) (block : ServerBlock) : Prop where
  bounded : (acceptedBytes size outcome.written).length ≤ size
  endOfStream : ∀ before srcBuffer result after,
    outcome.written = before ++ (srcBuffer, result) :: after →
      size < (acceptedBytes size before).length + srcBuffer.length → result = .endOfStream
  whole : (acceptedBytes size outcome.written).length = size →
    block.data = acceptedBytes size outcome.written ∧ outcome.crc32 = block.crc32 ∧
      outcome.closed = .success

/-- No more than `size` bytes are written; and if it is all of them, their number has 32 bits, the
block was empty, the chunks that are counted again leave the checksum as it is, and the sentinel
is not given up. -/
def FitsPush (client : TransferClient) (size : ℕ) (held : List UInt8)
    (srcBuffers : List (List UInt8)) (sends : List Bool) : Prop :=
  srcBuffers.flatten.length ≤ size ∧
    (srcBuffers.flatten.length = size → size < 2 ^ 32 ∧ held = [] ∧
      CRC32 (countedBytes (sendAttempts client) (chunksOfAll (size % 2 ^ 32) srcBuffers) sends) 0 =
        CRC32 srcBuffers.flatten 0 ∧
      refusals (afterChunks (chunksOfAll (size % 2 ^ 32) srcBuffers) sends) < sendAttempts client)

theorem acceptedBytes_writeResults (size : ℕ) (srcBuffers : List (List UInt8)) :
    acceptedBytes size (writeResults srcBuffers) = srcBuffers.flatten := by
  induction srcBuffers using List.reverseRecOn with
  | nil => rfl
  | append_singleton srcBuffers srcBuffer ih =>
    unfold writeResults acceptedBytes at ih ⊢
    rw [List.map_append, List.foldl_append, ih, List.flatten_concat]
    by_cases hsrc : srcBuffer = []
    · rw [hsrc, List.append_nil]
      rfl
    · show (match (if srcBuffer = [] then Result.error else .success) with
        | .success => srcBuffers.flatten ++ srcBuffer
        | .endOfStream => _
        | _ => _) = _
      rw [if_neg hsrc]

theorem flatten_chunksOfAll (hsize : 0 < size) (srcBuffers : List (List UInt8)) :
    (chunksOfAll size srcBuffers).flatten = srcBuffers.flatten := by
  induction srcBuffers with
  | nil => rfl
  | cons srcBuffer srcBuffers ih =>
    rw [chunksOfAll, List.flatMap_cons, List.flatten_append,
      flatten_chunksOf (chunkSize_pos hsize), List.flatten_cons]
    exact congrArg _ ih

theorem length_le_of_mem_chunksOfAll (h : chunk ∈ chunksOfAll size srcBuffers) :
    chunk.length ≤ kMaxTransferDataChunkSize := by
  obtain ⟨srcBuffer, -, hchunk⟩ := List.mem_flatMap.mp h
  exact (length_le_of_mem_chunksOf hchunk).trans (Nat.min_le_left _ _)

theorem ne_nil_of_mem_chunksOfAll (h : chunk ∈ chunksOfAll size srcBuffers) : chunk ≠ [] := by
  obtain ⟨srcBuffer, -, hchunk⟩ := List.mem_flatMap.mp h
  exact ne_nil_of_mem_chunksOf hchunk

structure PushEnds (client : TransferClient) (b : BlockRef) (held : List UInt8) (size : ℕ)
    (srcBuffers : List (List UInt8)) (sends : List Bool) (outcome : PushOutcome)
    (s₁ s' : PressuredLink) : Prop where
  written : outcome.written = writeResults srcBuffers
  crc32 : outcome.crc32 =
    CRC32 (countedBytes (sendAttempts client) (chunksOfAll size srcBuffers) sends) 0
  sends : s₁.sends = afterChunks (chunksOfAll size srcBuffers) sends
  closed : Closed client b (receive held size
    (((chunksOfAll size srcBuffers).map PushMessage.chunk).foldl
      (receive held size) (.receiving [])) (.sentinel false outcome.crc32))
    outcome.closed s₁ s'

theorem run_pushCalls (hsize : 0 < size) {rounds : ℕ}
    (hrounds : ∀ srcBuffer ∈ srcBuffers, s.sends.length + srcBuffer.length < rounds)
    (hpushing : Pushing size context) (hcrc : context.crc32 = 0)
    (h : InPush client.version b held size [] s.link) : ∃ outcome s₁ s',
      (client.pushCalls rounds srcBuffers context).run pressured s = some (outcome, s') ∧
      PushEnds client b held size srcBuffers s.sends outcome s₁ s' := by
  obtain ⟨context', s₁, hrun, hsends⟩ := run_writeCalls hsize hrounds hpushing h
  obtain ⟨closed, context'', s', hrun', hclosed⟩ :=
    run_closePushTransfer (hsends.pushing hpushing) hsends.inPush
  obtain ⟨scratch, hcontext⟩ := hsends.context
  refine ⟨⟨writeResults srcBuffers, context'.crc32, closed⟩, s₁, s', ?_, rfl, ?_, hsends.sends, ?_⟩
  · unfold pushCalls
    rw [Dialogue.run_bind_of_run pressured hrun]
    rw [Dialogue.run_bind_of_run pressured hrun']
    rfl
  · rw [hcontext]
    show CRC32 _ context.crc32 = _
    rw [hcrc]
  · rw [List.nil_append, List.foldl_append] at hclosed
    exact hclosed

theorem not_past_end (hfits : srcBuffers.flatten.length ≤ size)
    {before after : List (List UInt8 × Result)} {srcBuffer : List UInt8}
    (h : writeResults srcBuffers = before ++ (srcBuffer, result) :: after) :
    (acceptedBytes size before).length + srcBuffer.length ≤ size := by
  obtain ⟨srcs, rest, rfl, rfl, hrest⟩ := List.map_eq_append_iff.mp h
  obtain ⟨src, srcs', rfl, hsrc, -⟩ := List.map_eq_cons_iff.mp hrest
  obtain rfl : src = srcBuffer := congrArg Prod.fst hsrc
  have haccepted : acceptedBytes size (writeResults srcs) = srcs.flatten :=
    acceptedBytes_writeResults size srcs
  unfold writeResults at haccepted
  rw [haccepted]
  rw [List.flatten_append, List.flatten_cons, List.length_append, List.length_append] at hfits
  omega

theorem receive_sentinel_success {phase : PushPhase} {crc : UInt32}
    (hnot : ∀ data', phase ≠ .answered .success data')
    (h : receive held size phase (.sentinel false crc) = .answered .success data) :
    ∃ received, phase = .receiving received ∧ data = held ++ received ∧
      CRC32 (held ++ received) 0 = crc := by
  cases phase with
  | receiving received =>
    rw [receive_sentinel] at h
    split at h
    · rename_i hcrc
      exact ⟨received, rfl, (answered.inj h).2.symm, hcrc⟩
    · exact absurd (answered.inj h).1 nofun
  | answered result left =>
    obtain ⟨rfl, -⟩ := answered.inj h
    exact absurd rfl (hnot left)

theorem foldl_chunks_answered (chunks : List (List UInt8))
    (h : (chunks.map PushMessage.chunk).foldl (receive held size) (.receiving []) =
      .answered result data) : result = .insufficientMemory := by
  induction chunks using List.reverseRecOn generalizing result data with
  | nil => cases h
  | append_singleton chunks chunk ih =>
    rw [List.map_append, List.foldl_append] at h
    change receive held size _ (.chunk chunk) = _ at h
    cases hphase : (chunks.map PushMessage.chunk).foldl (receive held size)
        (.receiving []) with
    | receiving received =>
      rw [hphase, receive_chunk] at h
      split at h
      · cases h
      · exact (answered.inj h).1.symm
    | answered result' left =>
      rw [hphase] at h
      exact ih (hphase.trans h)

section Ends

variable {srcBuffers : List (List UInt8)} {sends : List Bool} {outcome : PushOutcome}
  {transferSizeInBytes : ℕ}

theorem PushEnds.fits (h : PushEnds client b held (transferSizeInBytes % 2 ^ 32) srcBuffers sends
      outcome s s') (hpos : 0 < transferSizeInBytes % 2 ^ 32)
    (hintact : IntactPush transferSizeInBytes outcome (s'.link.manager.blocks b)) :
    FitsPush client transferSizeInBytes held srcBuffers sends := by
  have hbounded := hintact.bounded
  have hwhole := hintact.whole
  rw [h.written, acceptedBytes_writeResults] at hbounded hwhole
  refine ⟨hbounded, fun hall => ?_⟩
  obtain ⟨hdata, -, hsuccess⟩ := hwhole hall
  have hlt := h.closed.taken hsuccess
  obtain ⟨data, hphase, hblock, -⟩ := h.closed.answered hlt
  rw [hsuccess] at hphase
  obtain ⟨received, hreceiving, rfl, hcrc⟩ :=
    receive_sentinel_success (fun _ h => nomatch foldl_chunks_answered _ h) hphase
  obtain ⟨hreceived, hlength⟩ :=
    receiving_chunks (fun _ => length_le_of_mem_chunksOfAll) hreceiving
  rw [flatten_chunksOfAll hpos] at hreceived hlength
  -- more than a chunk beyond the 32 bits would have cancelled the push
  have hmax : kMaxTransferDataChunkSize < 2 ^ 32 := by decide
  have hsize : transferSizeInBytes < 2 ^ 32 := by omega
  have hmod := Nat.mod_eq_of_lt hsize
  rw [List.take_of_length_le (by omega)] at hreceived
  have hheld : held = [] := by
    rw [hdata, hreceived] at hblock
    exact List.self_eq_append_left.mp hblock
  rw [hheld, hreceived, List.nil_append, h.crc32] at hcrc
  rw [h.sends] at hlt
  exact ⟨hsize, hheld, hcrc.symm, hlt⟩

theorem PushEnds.intact (h : PushEnds client b held (transferSizeInBytes % 2 ^ 32) srcBuffers
      sends outcome s s') (hpos : 0 < transferSizeInBytes % 2 ^ 32)
    (hfits : FitsPush client transferSizeInBytes held srcBuffers sends) :
    IntactPush transferSizeInBytes outcome (s'.link.manager.blocks b) := by
  obtain ⟨hbounded, hwhole⟩ := hfits
  refine ⟨?_, fun before srcBuffer result after hwritten hpast => ?_, ?_⟩
  · rw [h.written, acceptedBytes_writeResults]
    exact hbounded
  · rw [h.written] at hwritten
    exact absurd hpast (Nat.not_lt.mpr (not_past_end hbounded hwritten))
  · rw [h.written, acceptedBytes_writeResults]
    intro hall
    obtain ⟨hsize, rfl, hcounted, hlt⟩ := hwhole hall
    have hmod := Nat.mod_eq_of_lt hsize
    rw [← h.sends] at hlt
    obtain ⟨data, hphase, hblock, hconsistent⟩ := h.closed.answered hlt
    have hflatten := flatten_chunksOfAll hpos srcBuffers
    rw [foldl_chunks [] (fun _ => ne_nil_of_mem_chunksOfAll) (by rw [hflatten]; omega), hflatten,
      receive_sentinel, List.nil_append, h.crc32, hcounted, if_pos rfl] at hphase
    obtain ⟨hsuccess, rfl⟩ := answered.inj hphase
    refine ⟨hblock, ?_, hsuccess.symm⟩
    rw [h.crc32, hcounted, hconsistent.crc32, hblock]

end Ends

/-- A client that was granted a push writes and closes it, whatever `Send` answers and whenever
the server is updated.  The push is as it should be just when no more than the size is written and,
if it is written in full, the size has 32 bits, the block was empty, the sentinel is not given up,
and the chunks that are counted again after a timeout leave the checksum as it is. -/
theorem push_transfer_integrity (client : TransferClient) {blockId : BlockId} {b : BlockRef}
    {transferSizeInBytes : ℕ} {context context' : ClientTransferContext}
    {s s' : PressuredLink} (hready : PushReady client.version blockId b s.link)
    (hrequest : (client.requestPushTransfer blockId transferSizeInBytes context).run pressured s =
      some ((.success, context'), s')) (srcBuffers : List (List UInt8)) (rounds : ℕ)
    (hrounds : ∀ srcBuffer ∈ srcBuffers, s'.sends.length + srcBuffer.length < rounds) :
    ∃ outcome s'', (client.pushCalls rounds srcBuffers context').run pressured s' =
        some (outcome, s'') ∧
      (IntactPush transferSizeInBytes outcome (s''.link.manager.blocks b) ↔
        FitsPush client transferSizeInBytes (s.link.manager.blocks b).data srcBuffers
          s'.sends) := by
  obtain ⟨hpos, hin, hpushing, hcrc⟩ := run_requestPushTransfer hready hrequest
  obtain ⟨outcome, s₁, s'', hrun, hends⟩ := run_pushCalls hpos hrounds hpushing hcrc hin
  exact ⟨outcome, s'', hrun, hends.fits hpos, hends.intact hpos⟩

def idleLink (sends : List Bool) : PressuredLink where
  link := ⟨.new 2, ⟨fun blockId => if blockId = 7 then some 0 else none, fun _ => .new, 1⟩, [], []⟩
  sends := sends
  turns := []

theorem pushReady_idleLink : PushReady 2 7 0 (idleLink sends).link :=
  ⟨rfl, rfl, rfl, rfl, rfl, ⟨le_refl 0, (CRC32_nil 0).symm⟩⟩

theorem granted_of_any (left : List Bool) (size : ℕ)
    (h : (((defaultClient 2).requestPushTransfer 7 size .zero).run pressured
      (idleLink sends)).any (fun x => decide (x.1.1 = .success ∧ x.2.sends = left)) = true) :
    ∃ context' s', ((defaultClient 2).requestPushTransfer 7 size .zero).run pressured
      (idleLink sends) = some ((.success, context'), s') ∧ s'.sends = left := by
  obtain ⟨⟨⟨result, context'⟩, s'⟩, hrun, hp⟩ := (Option.any_eq_true _ _).mp h
  obtain ⟨rfl, hleft⟩ := of_decide_eq_true hp
  exact ⟨context', s', hrun, hleft⟩

theorem push_transfer_integrity_granted : ∃ context' s' outcome s'',
    ((defaultClient 2).requestPushTransfer 7 3 .zero).run pressured
      (idleLink [false, true, false, true]) = some ((.success, context'), s') ∧
    ((defaultClient 2).pushCalls 10 [[1, 2], [3]] context').run pressured s' =
      some (outcome, s'') ∧
    (IntactPush 3 outcome (s''.link.manager.blocks 0) ↔
      FitsPush (defaultClient 2) 3 [] [[1, 2], [3]] s'.sends) := by
  obtain ⟨context', s', hrequest, hsends⟩ :=
    granted_of_any [false, true, false, true] [false, true] 3 (by decide +kernel)
  obtain ⟨outcome, s'', hrun, hiff⟩ := push_transfer_integrity (defaultClient 2)
    (pushReady_idleLink _) hrequest [[1, 2], [3]] 10 (by rw [hsends]; decide)
  exact ⟨context', s', outcome, s'', hrequest, hrun, hiff⟩

/-- Two bytes are accepted of a push of one. -/
theorem push_past_end_accepted : ¬ ∀ (client : TransferClient) (blockId : BlockId) (b : BlockRef)
    (transferSizeInBytes : ℕ) (context context' : ClientTransferContext) (s s' : PressuredLink),
    PushReady client.version blockId b s.link → (s.link.manager.blocks b).data = [] →
    (client.requestPushTransfer blockId transferSizeInBytes context).run pressured s =
      some ((.success, context'), s') →
    ∀ (srcBuffers : List (List UInt8)) (rounds : ℕ),
      (∀ srcBuffer ∈ srcBuffers, s'.sends.length + srcBuffer.length < rounds) →
      ∃ outcome s'', (client.pushCalls rounds srcBuffers context').run pressured s' =
          some (outcome, s'') ∧
        IntactPush transferSizeInBytes outcome (s''.link.manager.blocks b) := by
  intro hall
  obtain ⟨context', s', hrequest, hsends⟩ :=
    granted_of_any [] [] 1 (by decide +kernel)
  obtain ⟨hpos, hin, hpushing, hcrc⟩ := run_requestPushTransfer (pushReady_idleLink []) hrequest
  have hrounds : ∀ srcBuffer ∈ ([[7], [8]] : List (List UInt8)),
      s'.sends.length + srcBuffer.length < 2 := by
    rw [hsends]
    decide
  obtain ⟨outcome, s₁, s'', hrun, hends⟩ := run_pushCalls hpos hrounds hpushing hcrc hin
  obtain ⟨outcome', t, hrun', hintact⟩ := hall (defaultClient 2) 7 0 1 .zero context' _ s'
    (pushReady_idleLink []) rfl hrequest [[7], [8]] 2 hrounds
  obtain ⟨rfl, rfl⟩ : outcome = outcome' ∧ s'' = t := by
    simpa only [Option.some.injEq, Prod.mk.injEq] using hrun.symm.trans hrun'
  have hfits : FitsPush (defaultClient 2) 1 [] [[7], [8]] s'.sends := hends.fits hpos hintact
  exact absurd hfits.1 (by decide)

end DevDriver.Analysis
