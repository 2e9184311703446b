import Mathlib.Data.List.Forall2
import DevDriver.Analysis.ServerStream

/-!
# The server side of a push

What a push has come to is a function of the messages that the server has received: the bytes it has
written, or the answer it gives.
-/

namespace DevDriver.Analysis

open Library Model TransferCtx

/-- A block whose data is in its memory and has the checksum of the block. -/
structure ServerBlock.Consistent (b : ServerBlock) : Prop where
  sized : ServerBlock.Sized b
  crc32 : b.crc32 = CRC32 b.data 0

theorem le_length_grown {b : ServerBlock} (h : ServerBlock.Sized b) (numBytes : ℕ) :
    b.blockDataSize + numBytes ≤ (b.grown numBytes).length := by
  have hsized : b.blockDataSize ≤ b.chunks.length := h
  unfold ServerBlock.grown
  simp only
  split
  · rw [List.length_append, List.length_replicate]
    unfold ServerBlock.chunksRequired kTransferChunkSizeInBytes
    omega
  · omega

theorem write_data {b : ServerBlock} (h : ServerBlock.Sized b) (src : List UInt8) :
    (b.write src).data = b.data ++ src := by
  unfold ServerBlock.write
  by_cases hsrc : 0 < src.length
  · rw [if_pos hsrc]
    have hle := le_length_grown h src.length
    have htake : (b.grown src.length).take b.blockDataSize = b.chunks.take b.blockDataSize := by
      have hsized : b.blockDataSize ≤ b.chunks.length := h
      unfold ServerBlock.grown
      simp only
      split
      · exact List.take_append_of_le_length hsized
      · rfl
    show (overwrite (b.grown src.length) b.blockDataSize src).take
      (b.blockDataSize + src.length) = b.data ++ src
    rw [take_overwrite (by omega), htake]
    rfl
  · rw [if_neg hsrc, List.eq_nil_of_length_eq_zero (Nat.eq_zero_of_not_pos hsrc),
      List.append_nil]

theorem ServerBlock.Consistent.write {b : ServerBlock} (h : ServerBlock.Consistent b)
    (src : List UInt8) : ServerBlock.Consistent (b.write src) := by
  have hdata := write_data h.sized src
  refine ⟨?_, ?_⟩
  · have hle := le_length_grown h.sized src.length
    unfold ServerBlock.write
    split
    · show b.blockDataSize + src.length ≤ (overwrite _ _ _).length
      rw [length_overwrite hle]
      exact hle
    · exact h.sized
  · rw [hdata, CRC32_append, ← h.crc32]
    unfold ServerBlock.write
    split
    · rfl
    · rename_i hsrc
      rw [List.eq_nil_of_length_eq_zero (Nat.eq_zero_of_not_pos hsrc), CRC32_nil]

theorem ServerBlock.Consistent.reset (b : ServerBlock) : ServerBlock.Consistent b.reset :=
  ⟨Nat.zero_le _, (CRC32_nil 0).symm⟩

inductive PushMessage where
  | chunk (data : List UInt8)
  | sentinel (discard : Bool) (crc : UInt32)

def PushMessage.payload : PushMessage → List UInt8
  | .chunk data => transferDataChunk data
  | .sentinel discard crc => transferDataSentinel (if discard then .aborted else .success) crc

/-- What a push has come to: bytes are being received, or it is answered and the block holds what
it was left with. -/
inductive PushPhase where
  | receiving (data : List UInt8)
  | answered (result : Result) (data : List UInt8)

def PushPhase.receive (held : List UInt8) (size : ℕ) : PushPhase → PushMessage → PushPhase
  | .receiving data, .chunk chunk =>
    if data.length < size then .receiving (data ++ chunk.take (size - data.length))
    else .answered .insufficientMemory []
  | .receiving data, .sentinel discard crc =>
    if discard = false ∧ CRC32 (held ++ data) 0 = crc then .answered .success (held ++ data)
    else .answered (if discard then .aborted else .error) []
  | .answered result data, _ => .answered result data

theorem receive_chunk (held : List UInt8) (size : ℕ) (data chunk : List UInt8) :
    PushPhase.receive held size (.receiving data) (.chunk chunk) =
      if data.length < size then .receiving (data ++ chunk.take (size - data.length))
      else .answered .insufficientMemory [] := rfl

theorem receive_sentinel (held : List UInt8) (size : ℕ) (data : List UInt8) (crc : UInt32) :
    PushPhase.receive held size (.receiving data) (.sentinel false crc) =
      if CRC32 (held ++ data) 0 = crc then .answered .success (held ++ data)
      else .answered .error [] := by
  show (if false = false ∧ CRC32 (held ++ data) 0 = crc then _ else _) = _
  simp only [true_and]
  rfl

def PushPhase.Coded : PushPhase → Prop
  | .receiving _ => True
  | .answered result _ => Result.Coded result

variable (operation : BlockOperation) {phase : PushPhase}

theorem PushPhase.coded_receive (h : phase.Coded) (held : List UInt8) (size : ℕ)
    (message : PushMessage) : (phase.receive held size message).Coded := by
  unfold PushPhase.receive
  split
  · split
    · trivial
    · exact ⟨rfl, by decide⟩
  · split
    · exact ⟨rfl, by decide⟩
    · split
      · exact ⟨rfl, by decide⟩
      · exact ⟨rfl, by decide⟩
  · exact h

/-! ## The session -/

section Session

variable (b : BlockRef) (held : List UInt8) (size : ℕ)

/-- A session that has brought a push to the block `b` to a phase, and what it has answered. -/
inductive PushAt (session : TransferSession) (m : TransferManager) :
    PushPhase → List (List UInt8) → Prop where
  | receiving {data : List UInt8} (hstate : session.state = .receivePushTransferData)
      (hblock : session.pBlock = some b) (htotal : session.totalBytes = size)
      (htransferred : session.bytesTransferred = data.length)
      (hdata : (m.blocks b).data = held ++ data)
      (hconsistent : ServerBlock.Consistent (m.blocks b)) :
      PushAt session m (.receiving data) []
  | answering {result : Result} {data : List UInt8} (hstate : session.state = .sendPayload)
      (hscratch : HoldsPayload session (transferStatus result))
      (hdata : (m.blocks b).data = data) (hconsistent : ServerBlock.Consistent (m.blocks b)) :
      PushAt session m (.answered result data) []
  | answered {result : Result} {data : List UInt8} {answer : List UInt8}
      (hstate : session.state = .idle)
      (hanswer : IsSent session.version (transferStatus result) answer)
      (hdata : (m.blocks b).data = data) (hconsistent : ServerBlock.Consistent (m.blocks b)) :
      PushAt session m (.answered result data) [answer]

structure Prompt (c c' : TransferCtx) : Prop where
  state : c.sends = [.success] → c'.session.state ≠ .sendPayload
  sends : c'.session.state = .receivePushTransferData → c'.sends = c.sends

structure PushStep (sent : List (List UInt8)) (phase : PushPhase) (c c' : TransferCtx) :
    Prop where
  version : c'.session.version = c.session.version
  receives : c'.receives = c.receives
  prompt : Prompt c c'
  pushAt : PushAt b held size c'.session c'.manager phase (sent ++ c'.sent)

end Session

variable {b : BlockRef} {held : List UInt8} {size : ℕ} {sent : List (List UInt8)}
  {c : TransferCtx}

theorem onHeldBlock_blocks (h : c.session.pBlock = some b) (operation : BlockOperation) :
    (c.onHeldBlock operation).manager.blocks b = operation.apply (c.manager.blocks b) := by
  rw [onHeldBlock_of_pBlock h]
  exact Function.update_self ..

theorem onHeldBlock_sent (c : TransferCtx) : (c.onHeldBlock operation).sent = c.sent := by
  unfold onHeldBlock
  split <;> rfl

theorem onHeldBlock_receives (c : TransferCtx) :
    (c.onHeldBlock operation).receives = c.receives := by
  unfold onHeldBlock
  split <;> rfl

theorem onHeldBlock_sends (c : TransferCtx) : (c.onHeldBlock operation).sends = c.sends := by
  unfold onHeldBlock
  split <;> rfl

theorem sendPayload_success {c : TransferCtx} (h : c.sends = [.success]) :
    c.sendPayload.1 = .success := by
  unfold sendPayload
  rw [h]

variable {data : List UInt8}

variable {result : Result}

theorem pushStep_sendScratch (hsent : sent ++ c.sent = []) (hstate : c.session.state = .sendPayload)
    (hscratch : HoldsPayload c.session (transferStatus result))
    (hdata : (c.manager.blocks b).data = data)
    (hconsistent : ServerBlock.Consistent (c.manager.blocks b)) :
    PushStep b held size sent (.answered result data) c c.sendScratchPayloadAndMoveToIdle := by
  have hsession := sendPayload_session c
  have hmanager := (keepsBlocks_sendPayload c).manager
  have hversion : c.sendPayload.2.session.version = c.session.version := by rw [hsession]
  unfold sendScratchPayloadAndMoveToIdle
  simp only
  split
  · rename_i hsuccess
    refine ⟨hversion, sendPayload_receives c, ⟨nofun, nofun⟩, ?_⟩
    have hout : sent ++ c.sendPayload.2.sent =
        [c.session.scratchPayload.sentBytes c.session.version] := by
      rw [sendPayload_sent, if_pos hsuccess, ← List.append_assoc, hsent]
      rfl
    show PushAt b held size (c.sendPayload.2.setState .idle).session c.sendPayload.2.manager _
      (sent ++ c.sendPayload.2.sent)
    rw [hout, hmanager]
    refine .answered rfl ?_ hdata hconsistent
    show IsSent c.sendPayload.2.session.version _ _
    rw [hversion]
    exact hscratch.isSent
  · rename_i hfail
    refine ⟨hversion, sendPayload_receives c, ?_, ?_⟩
    · refine ⟨fun h => absurd (sendPayload_success h) hfail, fun h => ?_⟩
      rw [hsession, hstate] at h
      cases h
    · rw [sendPayload_sent, if_neg hfail, hsent, hsession, hmanager]
      exact .answering hstate hscratch hdata hconsistent

theorem pushStep_settle (hsent : sent ++ c.sent = []) (hblock : c.session.pBlock = some b)
    (operation : BlockOperation) (result : Result)
    (hdata : (operation.apply (c.manager.blocks b)).data = data)
    (hconsistent : ServerBlock.Consistent (operation.apply (c.manager.blocks b))) :
    PushStep b held size sent (.answered result data) c
      ((c.onHeldBlock operation).releaseBlock.reply (transferStatus result)) := by
  have hblock' : (c.onHeldBlock operation).session.pBlock = some b := by
    rw [onHeldBlock_session]
    exact hblock
  have hmanager : (c.onHeldBlock operation).releaseBlock.manager.blocks b =
      (operation.apply (c.manager.blocks b)).endTransfer := by
    rw [← onHeldBlock_blocks hblock]
    exact onHeldBlock_blocks hblock' .endTransfer
  generalize hreleased : (c.onHeldBlock operation).releaseBlock = released at hmanager ⊢
  have hversion : released.session.version = c.session.version := by
    rw [← hreleased, releaseBlock_version, onHeldBlock_session]
  have hreceives : released.receives = c.receives := by
    rw [← hreleased, releaseBlock_receives, onHeldBlock_receives]
  have hsent' : sent ++ released.sent = [] := by
    rw [← hreleased, releaseBlock_sent, onHeldBlock_sent]
    exact hsent
  have hsends : released.sends = c.sends := by
    rw [← hreleased]
    exact (onHeldBlock_sends .endTransfer _).trans (onHeldBlock_sends operation c)
  have hholds : HoldsPayload
      ((released.createPayload (transferStatus result)).setState .sendPayload).session
      (transferStatus result) :=
    ⟨by rw [length_transferStatus]; decide, _, rfl⟩
  have hdata' : (released.manager.blocks b).data = data := by
    rw [hmanager]
    exact hdata
  have hconsistent' : ServerBlock.Consistent (released.manager.blocks b) := by
    rw [hmanager]
    exact ⟨hconsistent.sized, hconsistent.crc32⟩
  have hstep : PushStep b held size sent (.answered result data)
      ((released.createPayload (transferStatus result)).setState .sendPayload)
      (released.reply (transferStatus result)) :=
    pushStep_sendScratch hsent' rfl hholds hdata' hconsistent'
  exact ⟨hstep.version.trans hversion, hstep.receives.trans hreceives,
    ⟨fun h => hstep.prompt.state (hsends.trans h), fun h => (hstep.prompt.sends h).trans hsends⟩,
    hstep.pushAt⟩

/-! ## Messages -/

variable {message : PushMessage}

theorem PushMessage.command {v : Version} {m : List UInt8} (h : IsSent v message.payload m)
    (scratch : SizedPayloadContainer) :
    (scratch.fill m).command =
      match message with
      | .chunk _ => .transferDataChunk
      | .sentinel _ _ => .transferDataSentinel := by
  cases message with
  | chunk data => exact h.chunk_command scratch
  | sentinel discard crc => exact h.sentinel_command scratch

structure Received (message : PushMessage) (c : TransferCtx) : Prop where
  refactored : transferRefactorVersion ≤ c.session.version
  scratch : ∃ (scratch : SizedPayloadContainer) (p : SessionPayload),
    c.session.scratchPayload = scratch.fill p.1 ∧ IsSent c.session.version message.payload p.1

theorem pushStep_write (hsent : sent ++ c.sent = [])
    (hat : PushAt b held size c.session c.manager (.receiving data) []) (piece : List UInt8) :
    PushStep b held size sent (.receiving (data ++ piece)) c
      ((c.onHeldBlock (.write piece)).advance piece.length) := by
  cases hat with
  | receiving hstate hblock htotal htransferred hdata hconsistent =>
    have hsession := onHeldBlock_session (.write piece) c
    have hmanager := onHeldBlock_blocks hblock (.write piece)
    have hout : sent ++ ((c.onHeldBlock (.write piece)).advance piece.length).sent = [] := by
      show sent ++ (c.onHeldBlock (.write piece)).sent = []
      rw [onHeldBlock_sent]
      exact hsent
    refine ⟨?_, onHeldBlock_receives _ c, ⟨fun _ => ?_, fun _ => onHeldBlock_sends _ c⟩, ?_⟩
    · show (c.onHeldBlock (.write piece)).session.version = _
      rw [hsession]
    · show (c.onHeldBlock (.write piece)).session.state ≠ _
      rw [hsession, hstate]
      exact nofun
    · rw [hout]
      unfold advance
      simp only [hsession]
      refine .receiving hstate hblock htotal ?_ ?_ ?_
      · show c.session.bytesTransferred + piece.length = _
        rw [htransferred, List.length_append]
      · rw [hmanager, ← List.append_assoc, ← hdata]
        exact write_data hconsistent.sized piece
      · rw [hmanager]
        exact hconsistent.write piece

theorem pushStep_receiveChunk {chunk : List UInt8} (h : Received (.chunk chunk) c)
    (hsent : sent ++ c.sent = [])
    (hat : PushAt b held size c.session c.manager (.receiving data) []) :
    PushStep b held size sent (PushPhase.receive held size (.receiving data) (.chunk chunk)) c
      c.receiveChunk := by
  obtain ⟨scratch, p, hscratch, hp⟩ := h.scratch
  have hpayload : (scratch.fill p.1).payloadSize = chunk.length + 4 := by
    show p.1.length = _
    rw [hp.size, if_pos h.refactored]
    show (transferDataChunk chunk).length = _
    rw [transferDataChunk, List.length_append, length_leBytes, Nat.add_comm]
  have hsent' : IsSent c.session.version (transferDataChunk chunk) p.1 := hp
  obtain ⟨rest, hchunk⟩ := hsent'.chunk_data p.2 scratch
  have hwrite := pushStep_write hsent hat (chunk.take (size - data.length))
  cases hat with
  | receiving hstate hblock htotal htransferred hdata hconsistent =>
    unfold receiveChunk PushPhase.receive
    rw [htotal, htransferred, hscratch, hpayload, sub64_of_le (Nat.le_add_left _ _),
      Nat.add_sub_cancel]
    simp only
    split
    · -- what fits of the chunk is written
      have htake : (scratch.fill p.1).chunkData.take (min chunk.length (size - data.length)) =
          chunk.take (size - data.length) := by
        rw [hchunk, List.take_append_of_le_length (Nat.min_le_left _ _), Nat.min_comm,
          ← List.take_take, List.take_length]
      rw [htake, Nat.min_comm, ← List.length_take]
      exact hwrite
    · exact pushStep_settle hsent hblock .reset .insufficientMemory rfl (.reset _)

theorem pushStep_receiveSentinel {discard : Bool} {crc : UInt32}
    (h : Received (.sentinel discard crc) c) (hsent : sent ++ c.sent = [])
    (hat : PushAt b held size c.session c.manager (.receiving data) []) :
    PushStep b held size sent
      (PushPhase.receive held size (.receiving data) (.sentinel discard crc)) c
      c.receiveSentinel := by
  obtain ⟨scratch, p, hscratch, hp⟩ := h.scratch
  have hresult : (scratch.fill p.1).result = if discard then .aborted else .success :=
    IsSent.sentinel_result hp (by cases discard <;> exact ⟨rfl, by decide⟩) scratch
  have hcrc : (scratch.fill p.1).sentinelCrc32 = crc := IsSent.sentinel_crc hp scratch
  cases hat with
  | receiving hstate hblock htotal htransferred hdata hconsistent =>
    have hblockCrc : c.blockCrc32 = CRC32 (held ++ data) 0 := by
      unfold blockCrc32
      rw [hblock, ← hdata]
      exact hconsistent.crc32
    unfold receiveSentinel PushPhase.receive
    rw [hscratch, hresult, hcrc, hblockCrc]
    cases discard with
    | true =>
      exact pushStep_settle hsent hblock .reset .aborted rfl (.reset _)
    | false =>
      simp only [Bool.false_eq_true, if_false, true_and]
      split
      · exact pushStep_settle hsent hblock .close .success hdata
          ⟨hconsistent.sized, hconsistent.crc32⟩
      · exact pushStep_settle hsent hblock .reset .error rfl (.reset _)

theorem pushStep_receivePushMessage (h : Received message c) (hsent : sent ++ c.sent = [])
    (hat : PushAt b held size c.session c.manager (.receiving data) []) :
    PushStep b held size sent (PushPhase.receive held size (.receiving data) message) c
      c.receivePushMessage := by
  obtain ⟨scratch, p, hscratch, hp⟩ := h.scratch
  have hcommand := PushMessage.command hp scratch
  unfold receivePushMessage
  rw [hscratch, hcommand]
  cases message with
  | chunk chunk => exact pushStep_receiveChunk h hsent hat
  | sentinel discard crc => exact pushStep_receiveSentinel h hsent hat

/-! ## Updates -/

abbrev UnderWay (v : Version) (messages : List PushMessage) (ps : List SessionPayload) : Prop :=
  List.Forall₂ (fun message p => IsSent v message.payload p.1) messages ps

structure PushUpdate (b : BlockRef) (held : List UInt8) (size : ℕ) (sent : List (List UInt8))
    (phase : PushPhase) (messages : List PushMessage) (ps : List SessionPayload)
    (c c' : TransferCtx) : Prop where
  version : c'.session.version = c.session.version
  prompt : c.sends = [.success] → c'.session.state ≠ .sendPayload
  received : ∃ done rest, messages = done ++ rest ∧
    c'.receives = (ps.drop done.length).map .payload ∧
    (c'.session.state = .receivePushTransferData → rest = []) ∧
    PushAt b held size c'.session c'.manager
      (done.foldl (PushPhase.receive held size) phase) (sent ++ c'.sent)

theorem PushAt.phase_of_receiving {session : TransferSession} {m : TransferManager}
    {out : List (List UInt8)} (h : PushAt b held size session m phase out)
    (hstate : session.state = .receivePushTransferData) :
    out = [] ∧ ∃ data, phase = .receiving data := by
  cases h with
  | receiving => exact ⟨rfl, _, rfl⟩
  | answering hstate' => exact absurd (hstate'.symm.trans hstate) nofun
  | answered hstate' => exact absurd (hstate'.symm.trans hstate) nofun

theorem pushUpdate_receivePushLoop (rounds : ℕ) {messages : List PushMessage}
    {ps : List SessionPayload} (hv : transferRefactorVersion ≤ c.session.version)
    (hreceives : c.receives = ps.map .payload) (hrounds : ps.length < rounds)
    (hps : UnderWay c.session.version messages ps) (hsent : sent ++ c.sent = [])
    (hat : PushAt b held size c.session c.manager (.receiving data) []) :
    PushUpdate b held size sent (.receiving data) messages ps c (c.receivePushLoop rounds) := by
  induction rounds generalizing c data messages ps with
  | zero => exact absurd hrounds (Nat.not_lt_zero _)
  | succ rounds ih =>
    unfold receivePushLoop
    cases hps with
    | nil =>
      rw [receivePayload_nil hreceives]
      cases hat with
      | receiving hstate hblock htotal htransferred hdata hconsistent =>
        have hnot : c.session.state ≠ .sendPayload := by
          rw [hstate]
          intro h
          cases h
        refine ⟨rfl, fun _ => hnot, [], [], rfl, hreceives, fun _ => rfl, ?_⟩
        show PushAt b held size c.session c.manager (.receiving data) (sent ++ c.sent)
        rw [hsent]
        exact .receiving hstate hblock htotal htransferred hdata hconsistent
    | @cons message p messages ps hp hps =>
      rw [receivePayload_cons hreceives]
      simp only [if_true]
      generalize hc : { c with receives := ps.map ReceiveAnswer.payload }.createPayload p.1 = c₁
      have hversion : c₁.session.version = c.session.version := by
        rw [← hc]
        rfl
      have hhas : Received message c₁ := by
        rw [← hc]
        exact ⟨hv, _, p, rfl, hp⟩
      have hsent₁ : sent ++ c₁.sent = [] := by
        rw [← hc]
        exact hsent
      have hat₁ : PushAt b held size c₁.session c₁.manager (.receiving data) [] := by
        rw [← hc]
        cases hat with
        | receiving hstate hblock htotal htransferred hdata hconsistent =>
          exact .receiving hstate hblock htotal htransferred hdata hconsistent
      have hreceives₁ : c₁.receives = ps.map .payload := by
        rw [← hc]
        rfl
      have hsends₁ : c₁.sends = c.sends := by
        rw [← hc]
        rfl
      have hstep := pushStep_receivePushMessage hhas hsent₁ hat₁
      have hversion' := hstep.version.trans hversion
      have hreceives' := hstep.receives.trans hreceives₁
      split
      · rename_i hstate
        obtain ⟨hout, data', hphase⟩ := hstep.pushAt.phase_of_receiving hstate
        have hat' := hstep.pushAt
        rw [hphase, hout] at hat'
        obtain ⟨hversion'', hprompt, done, rest, rfl, hrest, hall, hend⟩ :=
          ih (by rw [hversion']; exact hv) hreceives' (Nat.lt_of_succ_lt_succ hrounds)
            (by rw [hversion']; exact hps) hout hat'
        refine ⟨hversion''.trans hversion', fun h => hprompt ?_, message :: done, rest, rfl,
          hrest, hall, ?_⟩
        · rw [hstep.prompt.sends hstate, hsends₁]
          exact h
        · rw [List.foldl_cons, hphase]
          exact hend
      · rename_i hstate
        exact ⟨hversion', fun h => hstep.prompt.state (hsends₁.trans h), [message], messages, rfl,
          hreceives', fun h => absurd h hstate, hstep.pushAt⟩

theorem foldl_answered (result : Result) (data : List UInt8) (messages : List PushMessage) :
    messages.foldl (PushPhase.receive held size) (.answered result data) =
      .answered result data := by
  induction messages with
  | nil => rfl
  | cons message messages ih => exact ih

theorem updateSession_idle {p : SessionPayload} {receives : List ReceiveAnswer}
    (hidle : c.session.state = .idle) (hreceives : c.receives = .payload p :: receives)
    (hp : IsSent c.session.version message.payload p.1) :
    c.updateSession = { c with receives := receives }.createPayload p.1 := by
  rw [updateSession_received hidle hreceives, processPayload, createPayload_scratchPayload,
    PushMessage.command hp]
  cases message with
  | chunk => rfl
  | sentinel => rfl

theorem pushUpdate_updateSession {messages : List PushMessage} {ps : List SessionPayload}
    (hv : transferRefactorVersion ≤ c.session.version) (hreceives : c.receives = ps.map .payload)
    (hps : UnderWay c.session.version messages ps) (hsent : c.sent = [])
    (hat : PushAt b held size c.session c.manager phase sent) :
    PushUpdate b held size sent phase messages ps c c.updateSession := by
  have hout : sent ++ c.sent = sent := by rw [hsent, List.append_nil]
  cases hat with
  | receiving hstate hblock htotal htransferred hdata hconsistent =>
    have hloop := pushUpdate_receivePushLoop (c.receives.length + 1) hv hreceives
      (by rw [hreceives, List.length_map]; exact Nat.lt_succ_self _) hps hout
      (.receiving hstate hblock htotal htransferred hdata hconsistent)
    unfold TransferCtx.updateSession
    rw [hstate]
    exact hloop
  | answering hstate hscratch hdata hconsistent =>
    have hstep : PushStep b held size [] _ c c.sendScratchPayloadAndMoveToIdle :=
      pushStep_sendScratch hout hstate hscratch hdata hconsistent
    unfold TransferCtx.updateSession
    rw [hstate]
    refine ⟨hstep.version, hstep.prompt.state, [], messages, rfl,
      hstep.receives.trans hreceives, fun h => ?_, hstep.pushAt⟩
    rcases sendScratch_state hstate with hstate' | hstate'
    · exact absurd (hstate'.symm.trans h) (by simp)
    · exact absurd (hstate'.symm.trans h) (by simp)
  | answered hstate hanswer hdata hconsistent =>
    cases hps with
    | nil =>
      have hupdate : c.updateSession = c := by
        unfold TransferCtx.updateSession
        rw [hstate]
        simp only [receivePayload_nil hreceives]
        exact if_neg (by simp)
      rw [hupdate]
      refine ⟨rfl, fun _ h => absurd (hstate.symm.trans h) (by simp), [], [], rfl, hreceives,
        fun _ => rfl, ?_⟩
      rw [hout]
      exact .answered hstate hanswer hdata hconsistent
    | @cons message p messages ps hp hps =>
      rw [updateSession_idle hstate hreceives hp]
      refine ⟨rfl, fun _ h => absurd (hstate.symm.trans h) (by simp), [message], messages, rfl, rfl,
        fun h => absurd (hstate.symm.trans h) (by simp), ?_⟩
      show PushAt b held size _ c.manager _ (_ ++ c.sent)
      rw [hout, foldl_answered]
      exact .answered hstate hanswer hdata hconsistent

/-! ## Links -/

/-- A link over which the client has sent the messages of a push: the server has received a first
part of them and is in the phase that they lead to. -/
structure InPush (v : Version) (b : BlockRef) (held : List UInt8) (size : ℕ)
    (messages : List PushMessage) (l : TransferLink) : Prop where
  refactored : transferRefactorVersion ≤ v
  version : l.server.version = v
  progress : ∃ done waiting, messages = done ++ waiting ∧ UnderWay v waiting l.toServer ∧
    PushAt b held size l.server l.manager
      (done.foldl (PushPhase.receive held size) (.receiving [])) (l.toClient.map Subtype.val)

variable {v : Version} {messages : List PushMessage} {l : TransferLink}

theorem PushAt.map_toSessionPayload {session : TransferSession} {m : TransferManager}
    {out : List (List UInt8)} (h : PushAt b held size session m phase (sent ++ out)) :
    (out.map toSessionPayload).map Subtype.val = out := by
  have hlength : ∀ m ∈ sent ++ out, m.length ≤ kMaxPayloadSizeInBytes := by
    generalize sent ++ out = all at h
    intro m hm
    cases h with
    | receiving => cases hm
    | answering => cases hm
    | answered _ hanswer =>
      obtain rfl := List.mem_singleton.mp hm
      exact hanswer.length_le (by rw [length_transferStatus]; decide)
  rw [List.map_map]
  conv_rhs => rw [← List.map_id out]
  apply List.map_congr_left
  intro m hm
  exact List.take_of_length_le (hlength m (List.mem_append_right _ hm))

theorem InPush.update (h : InPush v b held size messages l) (turn : ServerTurn) :
    (l.serverTurn turn).server.version = v ∧ ∃ done waiting, messages = done ++ waiting ∧
      UnderWay v waiting (l.serverTurn turn).toServer ∧
      PushAt b held size (l.serverTurn turn).server (l.serverTurn turn).manager
        (done.foldl (PushPhase.receive held size) (.receiving []))
        ((l.serverTurn turn).toClient.map Subtype.val) ∧
      (turn.sends = [.success] → (l.serverTurn turn).server.state ≠ .sendPayload) ∧
      (l.toServer.length ≤ turn.arrived →
        (l.serverTurn turn).server.state = .receivePushTransferData → waiting = []) := by
  obtain ⟨done, waiting, rfl, hunderWay, hat⟩ := h.progress
  have hv : transferRefactorVersion ≤ (l.serverCtx turn).session.version := by
    show _ ≤ l.server.version
    rw [h.version]
    exact h.refactored
  have harrived : UnderWay (l.serverCtx turn).session.version (waiting.take turn.arrived)
      (l.toServer.take turn.arrived) := by
    show UnderWay l.server.version _ _
    rw [h.version]
    exact List.forall₂_take _ hunderWay
  obtain ⟨hversion, hprompt, done', rest, hsplit, hreceives, hall, hat'⟩ :=
    pushUpdate_updateSession hv rfl harrived rfl hat
  have hlength : done'.length ≤ (l.toServer.take turn.arrived).length := by
    rw [← harrived.length_eq, hsplit, List.length_append]
    exact Nat.le_add_right _ _
  have htake : waiting.take done'.length = done' := by
    have hle : done'.length ≤ turn.arrived :=
      hlength.trans (List.length_take_le _ _)
    rw [← Nat.min_eq_left hle, ← List.take_take, hsplit]
    exact List.take_left
  refine ⟨hversion.trans h.version, done ++ done', waiting.drop done'.length, ?_, ?_, ?_, hprompt,
    fun harrive hstate => ?_⟩
  · conv_lhs => rw [← List.take_append_drop done'.length waiting, htake]
    rw [List.append_assoc]
  · show UnderWay v _ (l.toServer.drop ((l.toServer.take turn.arrived).length -
      (l.serverCtx turn).updateSession.receives.length))
    rw [hreceives, List.length_map, List.length_drop, Nat.sub_sub_self hlength]
    exact List.forall₂_drop _ hunderWay
  · rw [List.foldl_append]
    show PushAt b held size _ _ _ ((l.toClient ++
      (l.serverCtx turn).updateSession.sent.map toSessionPayload).map Subtype.val)
    rw [List.map_append, hat'.map_toSessionPayload]
    exact hat'
  · have hwaiting : waiting.take turn.arrived = waiting :=
      List.take_of_length_le (hunderWay.length_eq.trans_le harrive)
    rw [hwaiting, hall hstate, List.append_nil] at hsplit
    rw [hsplit, List.drop_length]

theorem InPush.serverTurn (h : InPush v b held size messages l) (turn : ServerTurn) :
    InPush v b held size messages (l.serverTurn turn) := by
  obtain ⟨hversion, done, waiting, hsplit, hunderWay, hat, -, -⟩ := h.update turn
  exact ⟨h.refactored, hversion, done, waiting, hsplit, hunderWay, hat⟩

theorem InPush.serverTurns (h : InPush v b held size messages l) (turns : List ServerTurn) :
    InPush v b held size messages (l.serverTurns turns) := by
  induction turns generalizing l with
  | nil => exact h
  | cons turn turns ih => exact ih (h.serverTurn turn)

structure Answered (v : Version) (b : BlockRef) (result : Result) (data : List UInt8)
    (l : TransferLink) : Prop where
  answer : ∃ p, l.toClient = [p] ∧ IsSent v (transferStatus result) p.1
  data : (l.manager.blocks b).data = data
  consistent : ServerBlock.Consistent (l.manager.blocks b)

theorem answered_of_progress {done waiting : List PushMessage} (hversion : l.server.version = v)
    (hat : PushAt b held size l.server l.manager
      (done.foldl (PushPhase.receive held size) (.receiving [])) (l.toClient.map Subtype.val))
    (hend : (done ++ waiting).foldl (PushPhase.receive held size) (.receiving []) =
      .answered result data)
    (hstate : l.server.state ≠ .sendPayload)
    (hall : l.server.state = .receivePushTransferData → waiting = []) :
    Answered v b result data l := by
  rw [List.foldl_append] at hend
  generalize hout : l.toClient.map Subtype.val = out at hat
  generalize done.foldl (PushPhase.receive held size) (.receiving []) = phase at hat hend
  cases hat with
  | receiving hstate' =>
    rw [hall hstate'] at hend
    cases hend
  | answering hstate' => exact absurd hstate' hstate
  | @answered result' data' answer _ hanswer hdata hconsistent =>
    rw [foldl_answered] at hend
    obtain ⟨rfl, rfl⟩ := PushPhase.answered.inj hend
    obtain ⟨p, hp, rfl⟩ := List.map_eq_singleton_iff.mp hout
    rw [hversion] at hanswer
    exact ⟨⟨p, hp, hanswer⟩, hdata, hconsistent⟩

theorem InPush.answered (h : InPush v b held size messages l)
    (hend : messages.foldl (PushPhase.receive held size) (.receiving []) = .answered result data) :
    Answered v b result data (l.serverTurn ⟨l.toServer.length, [.success]⟩) := by
  obtain ⟨hversion, done, waiting, rfl, -, hat, hprompt, hall⟩ :=
    h.update ⟨l.toServer.length, [.success]⟩
  exact answered_of_progress hversion hat hend (hprompt rfl) (hall (le_refl _))

theorem InPush.answered_of_ne_nil (h : InPush v b held size messages l)
    (hend : messages.foldl (PushPhase.receive held size) (.receiving []) = .answered result data)
    (hne : l.toClient ≠ []) : Answered v b result data l := by
  obtain ⟨done, waiting, rfl, -, hat⟩ := h.progress
  have hstate : l.server.state = .idle := by
    generalize hout : l.toClient.map Subtype.val = out at hat
    generalize done.foldl (PushPhase.receive held size) (.receiving []) = phase at hat
    cases hat with
    | receiving => exact absurd (List.map_eq_nil_iff.mp hout) hne
    | answering => exact absurd (List.map_eq_nil_iff.mp hout) hne
    | answered hstate => exact hstate
  exact answered_of_progress h.version hat hend (by rw [hstate]; exact nofun)
    fun h => absurd (hstate.symm.trans h) (by simp)

theorem InPush.send (h : InPush v b held size messages l) (message : PushMessage)
    {p : SessionPayload} (hp : IsSent v message.payload p.1) :
    InPush v b held size (messages ++ [message]) { l with toServer := l.toServer ++ [p] } := by
  obtain ⟨done, waiting, rfl, hunderWay, hat⟩ := h.progress
  refine ⟨h.refactored, h.version, done, waiting ++ [message], (List.append_assoc _ _ _), ?_, hat⟩
  exact List.rel_append hunderWay (.cons hp .nil)

end DevDriver.Analysis
