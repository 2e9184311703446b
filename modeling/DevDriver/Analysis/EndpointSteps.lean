import DevDriver.Analysis.ReceiveRepresentation
import DevDriver.Model.Connection

/-!
# What one step of an endpoint does to messages

A step files at most one message in the send window and otherwise leaves its messages alone; it
emits nothing but Acks and what the send window holds.
-/

namespace DevDriver.Analysis

open Library Model Endpoint

variable {ρ : Type}

/-! ## Sending -/

structure FiledAs (s : ℕ) (x : SessionMessage × List UInt8) (m : MessageBuffer) : Prop where
  sequence : m.header.sequence = s
  kind : m.kind = x.1
  bytes : m.bytes = x.2
  size : m.header.payloadSize ≤ kMaxPayloadSizeInBytes

structure SameMessages (w w' : TransmitWindow kDefaultWindowSize ρ) : Prop where
  nextSequence : w'.nextSequence = w.nextSequence
  messages : ∀ i, unstamped (w'.messages i) = unstamped (w.messages i)

theorem SameMessages.of_eq {w w' : TransmitWindow kDefaultWindowSize ρ} (h : w' = w) :
    SameMessages w w' := h ▸ ⟨rfl, fun _ => rfl⟩

variable (message : SessionMessage) {e e' : Endpoint ρ} {op : Operation} {payloadSizeInBytes : ℕ}
    {pPayload : Option (List UInt8)} {env : Surroundings} {o : Outcome} {m : MessageBuffer}
    {c : Ctx ρ}

theorem Marks.sameMessages {n : ℕ} {c' : Ctx ρ} (h : Marks n c c') :
    SameMessages c.session.sendWindow c'.session.sendWindow := ⟨h.nextSequence, h.messages⟩

inductive Sends (w w' : TransmitWindow kDefaultWindowSize ρ) :
    Option (SessionMessage × List UInt8) → Prop where
  | nothing (h : SameMessages w w') : Sends w w' none
  | message {x : SessionMessage × List UInt8} (hnext : w'.nextSequence = w.nextSequence + 1)
      (hmessages : ∀ i, unstamped (w'.messages i) = unstamped (w.messages i) ∨
        FiledAs w.nextSequence x (w'.messages i)) : Sends w w' (some x)

structure GoodCall (call : SendCall) : Prop where
  readable : call.Readable
  size : call.payloadSizeInBytes ≤ kMaxPayloadSizeInBytes

theorem bytes_sendMessage (h : GoodCall ⟨payloadSizeInBytes, pPayload⟩) (s : Session ρ) (seq : ℕ) :
    (sendMessage message payloadSizeInBytes pPayload s seq).bytes =
      (SendCall.mk payloadSizeInBytes pPayload).bytes := by
  have hlength : (SendCall.mk payloadSizeInBytes pPayload).bytes.length = payloadSizeInBytes :=
    h.readable
  have hsize : payloadSizeInBytes ≤ kMaxPayloadSizeInBytes := h.size
  cases pPayload with
  | none =>
    have hzero : payloadSizeInBytes = 0 := by simpa [SendCall.bytes] using hlength.symm
    subst hzero
    simp [MessageBuffer.bytes, sendMessage, readBytes, SendCall.bytes]
  | some data =>
    have hdata : (data.take payloadSizeInBytes).length = payloadSizeInBytes := hlength
    have hread := readBytes_writeBytes (hdata.le.trans hsize)
      (s.sendWindow.messages (slot _ seq)).payload
    rw [hdata] at hread
    simpa [MessageBuffer.bytes, sendMessage, copyPayload, SendCall.bytes] using hread

theorem sends_writeLocked (h : GoodCall ⟨payloadSizeInBytes, pPayload⟩) (c : Ctx ρ) :
    Sends c.session.sendWindow
      (writeLocked message payloadSizeInBytes pPayload c).session.sendWindow
      (some (message, (SendCall.mk payloadSizeInBytes pPayload).bytes)) := by
  refine .message rfl fun i => ?_
  rcases eq_or_ne i (slot _ c.session.sendWindow.nextSequence) with rfl | hne
  · right
    simp only [writeLocked, Ctx.setSend, TransmitWindow.write, Function.update_self]
    exact ⟨rfl, by simp [MessageBuffer.kind, sendMessage], bytes_sendMessage message h _ _, h.size⟩
  · left
    simp [writeLocked, Ctx.setSend, TransmitWindow.write, hne]

theorem sends_writeMessageIntoSendWindow (h : GoodCall ⟨payloadSizeInBytes, pPayload⟩) (c : Ctx ρ) :
    Sends c.session.sendWindow
      (writeMessageIntoSendWindow message payloadSizeInBytes pPayload c).1.session.sendWindow
      (if (writeMessageIntoSendWindow message payloadSizeInBytes pPayload c).2 = .success then
        some (message, (SendCall.mk payloadSizeInBytes pPayload).bytes) else none) := by
  dsimp only [writeMessageIntoSendWindow]
  split
  · split
    · split
      · have hwrite := sends_writeLocked message h (c.setSend c.session.sendWindow.wait)
        rw [if_pos rfl]
        cases hwrite with
        | message hnext hmessages => exact .message hnext hmessages
      · exact .nothing (.of_eq rfl)
    · exact .nothing (.of_eq rfl)
  · exact .nothing (.of_eq rfl)

theorem sameMessages_handleMessage [RoundTripTime ρ] {writers : ℕ} (pSession : SessionRef)
    (hkind : m.kind ≠ .syn) (h : SendInv writers c.session.sendWindow) :
    SameMessages c.session.sendWindow (handleMessage pSession m c).session.sendWindow := by
  have hmark : ∀ (n : ℕ) (c' : Ctx ρ), c'.session.sendWindow = c.session.sendWindow →
      SameMessages c.session.sendWindow (markMessagesAsAcknowledged n c').session.sendWindow := by
    intro n c' hc'
    have := (marks_markMessagesAsAcknowledged n c' (hc' ▸ h)).sameMessages
    rwa [hc'] at this
  have hsize : ∀ {w : TransmitWindow kDefaultWindowSize ρ} {size : ℕ},
      SameMessages c.session.sendWindow w →
      SameMessages c.session.sendWindow { w with lastAvailableSize := size } :=
    fun hw => ⟨hw.nextSequence, hw.messages⟩
  have hdispatch : SameMessages c.session.sendWindow
      (dispatchMessage m c).session.sendWindow := by
    unfold dispatchMessage
    split
    · rename_i hsyn
      exact absurd hsyn hkind
    · refine hsize ?_
      split
      · exact hmark _ _ rfl
      · exact hmark _ _ rfl
      · exact hmark _ _ rfl
      · exact hmark _ _ rfl
      · dsimp only
        rw [(sendAckMessage_frame _).1]
        exact hmark _ _ rfl
      · exact .of_eq rfl
    · refine hsize ?_
      repeat' split
      all_goals exact .of_eq (by simp [Ctx.closeGracefully])
    · refine hsize ?_
      split <;> exact .of_eq (by simp)
    · refine hsize ?_
      split
      · exact hmark _ (c.setState .established) rfl
      · exact hmark _ c rfl
      · exact hmark _ c rfl
      · exact hmark _ c rfl
      · exact hmark _ c rfl
      · exact .of_eq rfl
    · exact hsize (.of_eq (by simp))
    · exact .of_eq rfl
  rw [(handleMessage_windows pSession m c).1]
  exact hdispatch

theorem sends_runFinWait1 (e : Endpoint ρ) (fx : Effects) :
    Sends e.session.sendWindow (e.runFinWait1 fx).1.session.sendWindow
      (e.runFinWait1 fx).2.written := by
  have hfin : GoodCall ⟨0, none⟩ := ⟨by decide, by decide⟩
  have hwrite := sends_writeMessageIntoSendWindow .fin hfin ⟨e.session, fx⟩
  have hfiled : ∀ (c : Ctx ρ) (x : Option (SessionMessage × List UInt8)),
      Sends e.session.sendWindow c.session.sendWindow x → (∀ y ∈ x, y = (.fin, [])) →
      Sends e.session.sendWindow c.session.sendWindow
        (if e.session.sendWindow.nextSequence < c.session.sendWindow.nextSequence then
          some (.fin, []) else none) := by
    intro c x hx hfin
    cases hx with
    | nothing h =>
      rw [if_neg (by rw [h.nextSequence]; exact lt_irrefl _)]
      exact .nothing h
    | message hnext hmessages =>
      obtain rfl := hfin _ rfl
      rw [if_pos (by rw [hnext]; exact Nat.lt_succ_self _)]
      exact .message hnext hmessages
  dsimp only [runFinWait1, updateFinWait1]
  split
  · split
    · rename_i hsuccess
      rw [if_pos hsuccess] at hwrite
      exact hfiled (Ctx.setState .finWait2 _) _ hwrite (by simp [SendCall.bytes])
    · rename_i hfailure
      rw [if_neg hfailure] at hwrite
      exact hfiled _ _ hwrite nofun
  · exact hfiled ⟨e.session, fx⟩ none (.nothing (.of_eq rfl)) nofun

theorem sends_perform [RoundTripTime ρ] (hgood : ∀ call ∈ e.writers, GoodCall call)
    (hinv : SendInv e.writers.length e.session.sendWindow)
    (h : e.perform op env.start = some (e', o)) :
    Sends e.session.sendWindow e'.session.sendWindow o.written := by
  cases op with
  | sendWrite k =>
    simp only [perform] at h
    split at h
    · cases h
    · rename_i call hk
      cases h
      exact sends_writeLocked .data (hgood call (List.mem_of_getElem? hk)) ⟨e.session, env.start⟩
  | sendWait k =>
    simp only [perform] at h
    split at h
    · cases h
    · split at h <;> cases h
      exact .nothing ⟨rfl, fun _ => rfl⟩
  | handleMessage m =>
    obtain ⟨hm, ⟨⟩⟩ := Option.ite_none_right_eq_some.mp h
    have hkind : m.kind ≠ .syn := by
      intro hk
      simp [mayHandle, hk] at hm
    exact .nothing (sameMessages_handleMessage 0 (c := ⟨e.session, env.start⟩) hkind hinv)
  | updateSendWindow =>
    cases h
    have hslots := (transmits_updateSendWindow (⟨e.session, env.start⟩ : Ctx ρ) hinv).slots
    exact .nothing ⟨hslots.nextSequence, hslots.messages⟩
  | updateFinWait1 => cases h; exact sends_runFinWait1 e env.start
  | receiveRead size =>
    obtain ⟨-, ⟨⟩⟩ := Option.ite_none_right_eq_some.mp h
    exact .nothing (.of_eq (receiveLocked_sendWindow size ⟨e.session, env.start⟩))
  | updateReceiveWindow => cases h; exact .nothing (.of_eq (updateReceiveWindow_sendWindow _))
  | updateFinWait2 => cases h; exact .nothing (.of_eq (updateFinWait2_windows _).1)
  | updateClosing => cases h; exact .nothing (.of_eq (updateClosing_windows _).1)
  | updateCallbacks lastReference =>
    cases h
    exact .nothing (.of_eq (updateCallbacks_nil_windows 0 lastReference _).1)
  | shutdown reason => cases h; exact .nothing (.of_eq (Ctx.shutdown_frame reason _).1)
  | unregisterProtocolServer pServer =>
    cases h
    exact .nothing (.of_eq (handleUnregisterProtocolServer_windows 0 pServer _ _).1)
  | send call | sendTimeout k | receive | receiveTimeout | receiveWait =>
    obtain ⟨-, ⟨⟩⟩ := Option.ite_none_right_eq_some.mp h
    exact .nothing (.of_eq rfl)
  | receiveCheck =>
    obtain ⟨-, h⟩ := Option.ite_none_right_eq_some.mp h
    split at h <;> cases h <;> exact .nothing (.of_eq rfl)

theorem goodCalls_perform [RoundTripTime ρ] {fx : Effects}
    (hop : ∀ call, op = .send call → call.Readable)
    (hgood : ∀ call ∈ e.senders ++ e.writers, GoodCall call) (h : e.perform op fx = some (e', o)) :
    ∀ call ∈ e'.senders ++ e'.writers, GoodCall call := by
  cases op with
  | send call =>
    obtain ⟨hmay, ⟨⟩⟩ := Option.ite_none_right_eq_some.mp h
    have hcall : GoodCall call := by
      refine ⟨hop call rfl, ?_⟩
      simpa [mayWrite] using (Bool.and_eq_true_iff.mp hmay.2).2
    intro call' hmem
    rcases List.mem_cons.mp hmem with rfl | hmem
    · exact hcall
    · exact hgood call' hmem
  | sendTimeout k =>
    obtain ⟨-, ⟨⟩⟩ := Option.ite_none_right_eq_some.mp h
    intro call hmem
    refine hgood call (List.mem_append.mpr ?_)
    exact (List.mem_append.mp hmem).imp_left List.mem_of_mem_eraseIdx
  | sendWait k =>
    simp only [perform] at h
    split at h
    · cases h
    · rename_i call hk
      split at h
      · cases h
        intro call' hmem
        refine hgood call' (List.mem_append.mpr ?_)
        rcases List.mem_append.mp hmem with hmem | hmem
        · exact .inl (List.mem_of_mem_eraseIdx hmem)
        · rcases List.mem_cons.mp hmem with rfl | hmem
          · exact .inl (List.mem_of_getElem? hk)
          · exact .inr hmem
      · cases h
  | sendWrite k =>
    simp only [perform] at h
    split at h
    · cases h
    · cases h
      intro call hmem
      refine hgood call (List.mem_append.mpr ?_)
      exact (List.mem_append.mp hmem).imp_right List.mem_of_mem_eraseIdx
  | receive | receiveTimeout | receiveWait | receiveRead | handleMessage =>
    obtain ⟨-, ⟨⟩⟩ := Option.ite_none_right_eq_some.mp h
    exact hgood
  | receiveCheck =>
    obtain ⟨-, h⟩ := Option.ite_none_right_eq_some.mp h
    split at h <;> cases h <;> exact hgood
  | updateReceiveWindow | updateSendWindow | updateFinWait1 | updateFinWait2 | updateClosing
  | updateCallbacks | shutdown | unregisterProtocolServer =>
    cases h
    exact hgood

theorem kind_written_perform [RoundTripTime ρ] {fx : Effects} (h : e.perform op fx = some (e', o)) :
    ∀ x ∈ o.written, x.1 = .data ∨ x.1 = .fin := by
  intro x hx
  cases op with
  | sendWrite k =>
    simp only [perform] at h
    split at h
    · cases h
    · cases h
      obtain rfl : x = _ := Option.mem_some.mp hx |>.symm
      exact .inl rfl
  | updateFinWait1 =>
    cases h
    obtain ⟨-, hx⟩ := Option.ite_none_right_eq_some.mp hx
    obtain rfl : x = _ := Option.mem_some.mp hx |>.symm
    exact .inr rfl
  | updateReceiveWindow | updateSendWindow | updateFinWait2 | updateClosing
  | updateCallbacks | shutdown | unregisterProtocolServer =>
    cases h
    cases hx
  | send | sendTimeout | receive | receiveTimeout | receiveWait | receiveRead
  | handleMessage =>
    simp only [perform] at h
    split at h <;> cases h
    cases hx
  | sendWait k =>
    simp only [perform] at h
    split at h
    · cases h
    · split at h <;> cases h
      cases hx
  | receiveCheck =>
    obtain ⟨-, h⟩ := Option.ite_none_right_eq_some.mp h
    split at h <;> cases h <;> cases hx

theorem emits_perform [RoundTripTime ρ] (hinv : SendInv e.writers.length e.session.sendWindow)
    (h : e.perform op env.start = some (e', o)) :
    ∀ p ∈ o.fx.forwarded, p.1.kind = .ack ∨
      ∃ i, unstamped p.1 = unstamped (e.session.sendWindow.messages i) := by
  cases op with
  | handleMessage m =>
    obtain ⟨-, ⟨⟩⟩ := Option.ite_none_right_eq_some.mp h
    intro p hp
    have hemits := emits_handleMessage (m := m) (c := ⟨e.session, env.start⟩) 0 hinv
    rcases hemits.forall rfl p hp with hack | ⟨n, -, -, -, hm⟩
    · exact .inl hack
    · exact .inr ⟨_, hm⟩
  | _ =>
    intro p hp
    by_cases hack : p.1.kind = .ack
    · exact .inl hack
    · have hlive := (emitsLive_of_ne_handleMessage (by simp) hinv h p hp hack).1
      exact .inr ⟨_, hlive.message⟩

/-! ## Receiving -/

/-- What a step does to the messages in the receive window: `w'` is `w` afterwards, and the
last argument the payload a call of `Receive` returned. -/
inductive Takes (op : Operation) (w w' : ReceiveWindow kDefaultWindowSize) :
    Option (List UInt8) → Prop where
  | nothing (hunread : w'.nextUnreadSequence = w.nextUnreadSequence)
      (hvalid : w'.valid = w.valid) (hmessages : w'.messages = w.messages) : Takes op w w' none
  | files {m : MessageBuffer} (hop : op = .handleMessage m) (hfiles : Files m w w') :
      Takes op w w' none
  /-- the handshake message of a session that has received nothing yet -/
  | restarts {m : MessageBuffer} (hop : op = .handleMessage m)
      (hkind : m.kind = .syn ∨ m.kind = .synAck)
      (hfirst : w.nextUnreadSequence = 1)
      (hunread : w'.nextUnreadSequence = m.header.sequence + 1)
      (hvalid : ∀ i, w'.valid i = false) : Takes op w w' none
  | reads (hfilled : w.valid w.unreadSlot = true)
      (hsequence : (w.messages w.unreadSlot).header.sequence = w.nextUnreadSequence)
      (hunread : w'.nextUnreadSequence = w.nextUnreadSequence + 1)
      (hvalid : ∀ i, w'.valid i = true → w.valid i = true) (hmessages : w'.messages = w.messages) :
      Takes op w w' (if (w.messages w.unreadSlot).kind = .data then
        some (w.messages w.unreadSlot).bytes else none)

theorem Takes.of_eq {w w' : ReceiveWindow kDefaultWindowSize} (h : w' = w) :
    Takes op w w' none := h ▸ .nothing rfl rfl rfl

theorem takes_receiveLocked {taken : ℕ} (op : Operation) (size : ℕ)
    (h : RecvInv (taken + 1) c.session.receiveWindow) :
    Takes op c.session.receiveWindow
      (receiveLocked size c).1.session.receiveWindow (receiveLocked size c).2.2 := by
  obtain ⟨-, hfilled, hlabel⟩ := h.readable
  have hvalid : ∀ i, c.session.receiveWindow.consume.valid i = true →
      c.session.receiveWindow.valid i = true := by
    intro i hi
    simp only [ReceiveWindow.consume, Function.update_apply] at hi
    split at hi
    · cases hi
    · exact hi
  have hreads : Takes op c.session.receiveWindow c.session.receiveWindow.consume _ :=
    .reads hfilled hlabel.header rfl hvalid rfl
  dsimp only [receiveLocked]
  split
  · split
    · rename_i hdata
      rwa [if_pos hdata] at hreads
    · rename_i hdata
      rwa [if_neg hdata] at hreads
  · exact .nothing rfl rfl rfl

theorem takes_handleMessage [RoundTripTime ρ] {writers readers : ℕ} (pSession : SessionRef)
    (hkind : m.kind ≠ .syn) (hsend : SendInv writers c.session.sendWindow)
    (hrecv : Receives readers c.session) :
    Takes (.handleMessage m) c.session.receiveWindow
      (handleMessage pSession m c).session.receiveWindow none := by
  obtain ⟨lost, -, hw⟩ := hrecv.window
  have hsame : ∀ {w'}, w' = c.session.receiveWindow →
      Takes (.handleMessage m) c.session.receiveWindow w' none := fun h => .of_eq h
  have hmark : ∀ n (c' : Ctx ρ), c'.session.sendWindow = c.session.sendWindow →
      (markMessagesAsAcknowledged n c').session.receiveWindow = c'.session.receiveWindow :=
    fun n c' hc' => (marks_markMessagesAsAcknowledged n c' (hc' ▸ hsend)).receiveWindow
  have hfile : m.kind = .data ∨ m.kind = .fin → Files m c.session.receiveWindow
      (writeMessageIntoReceiveWindow m c).session.receiveWindow :=
    fun hk => (writeMessageIntoReceiveWindow_spec hw hk).2.1
  have hdispatch : Takes (.handleMessage m) c.session.receiveWindow
      (dispatchMessage m c).session.receiveWindow none := by
    unfold dispatchMessage
    split
    · rename_i hsyn
      exact absurd hsyn hkind
    · rename_i hk
      dsimp only [handleSynAckMessage, updateSendWindowSize, Ctx.setSend]
      split
      · exact hsame (hmark _ _ rfl)
      · exact hsame (hmark _ _ rfl)
      · exact hsame (hmark _ _ rfl)
      · exact hsame (hmark _ _ rfl)
      · rename_i hs
        obtain ⟨hfirst, -, hnone⟩ := hrecv.synSent hs
        refine .restarts rfl (.inr hk) hfirst ?_ fun i => ?_
        · rw [(sendAckMessage_frame _).2.1]
          rfl
        · rw [(sendAckMessage_frame _).2.1]
          have hwindow := hmark (SynAckPayload.decode m.payload).sequence
            (c.check .synAckClient (c.session.sessionType = .client)) rfl
          exact (congrArg (·.valid i) hwindow).trans (hnone i)
      · exact hsame rfl
    · rename_i hk
      have hfiles := hfile (.inr hk)
      dsimp only [handleFinMessage, updateSendWindowSize, Ctx.setSend]
      split
      · exact .files rfl hfiles
      · split
        · refine .files rfl ?_
          simp only [Ctx.closeGracefully]
          rw [(sendAckMessage_frame _).2.1]
          exact ⟨hfiles.unread, hfiles.messages⟩
        · exact hsame rfl
    · rename_i hk
      dsimp only [handleDataMessage, updateSendWindowSize, Ctx.setSend]
      split
      · exact .files rfl (hfile (.inl hk))
      · exact .files rfl (hfile (.inl hk))
      · exact .files rfl (hfile (.inl hk))
      · exact hsame rfl
    · dsimp only [handleAckMessage, updateSendWindowSize, Ctx.setSend]
      split
      · exact hsame (hmark _ (c.setState .established) rfl)
      · exact hsame (hmark _ c rfl)
      · exact hsame (hmark _ c rfl)
      · exact hsame (hmark _ c rfl)
      · exact hsame (hmark _ c rfl)
      · exact hsame rfl
    · exact hsame (Ctx.shutdown_frame _ _).2.1
    · exact hsame rfl
  rw [(handleMessage_windows pSession m c).2]
  exact hdispatch

theorem takes_perform [RoundTripTime ρ] (hsend : SendInv e.writers.length e.session.sendWindow)
    (hrecv : Receives (e.readers + e.openReaders) e.session)
    (h : e.perform op env.start = some (e', o)) :
    Takes op e.session.receiveWindow e'.session.receiveWindow o.received := by
  cases op with
  | handleMessage m =>
    obtain ⟨hm, ⟨⟩⟩ := Option.ite_none_right_eq_some.mp h
    have hkind : m.kind ≠ .syn := by
      intro hk
      simp [mayHandle, hk] at hm
    exact takes_handleMessage 0 (c := ⟨e.session, env.start⟩) hkind hsend hrecv
  | receiveRead size =>
    obtain ⟨hreader, ⟨⟩⟩ := Option.ite_none_right_eq_some.mp h
    obtain ⟨lost, -, hw⟩ := hrecv.window
    rw [show e.readers + e.openReaders + lost =
      e.readers + (e.openReaders - 1) + lost + 1 by omega] at hw
    exact takes_receiveLocked _ size (c := ⟨e.session, env.start⟩) hw
  | receiveWait =>
    obtain ⟨-, ⟨⟩⟩ := Option.ite_none_right_eq_some.mp h
    exact .nothing rfl rfl rfl
  | updateReceiveWindow =>
    cases h
    dsimp only [Endpoint.run, updateReceiveWindow]
    split
    · refine .nothing ?_ ?_ ?_ <;> rw [(sendAckMessage_frame _).2.1] <;> rfl
    · exact .nothing rfl rfl rfl
  | updateSendWindow =>
    cases h
    exact .of_eq (transmits_updateSendWindow (⟨e.session, env.start⟩ : Ctx ρ) hsend).receiveWindow
  | updateFinWait1 =>
    cases h
    refine .of_eq ?_
    dsimp only [runFinWait1, updateFinWait1, writeMessageIntoSendWindow]
    repeat' split
    all_goals rfl
  | updateFinWait2 => cases h; exact .of_eq (updateFinWait2_windows _).2
  | updateClosing => cases h; exact .of_eq (updateClosing_windows _).2
  | updateCallbacks lastReference =>
    cases h
    exact .of_eq (updateCallbacks_nil_windows 0 lastReference _).2
  | shutdown reason => cases h; exact .of_eq (Ctx.shutdown_frame reason _).2.1
  | unregisterProtocolServer pServer =>
    cases h
    exact .of_eq (handleUnregisterProtocolServer_windows 0 pServer _ _).2
  | sendWait k | sendWrite k =>
    simp only [perform] at h
    split at h
    · cases h
    · try split at h
      all_goals cases h
      all_goals exact .of_eq rfl
  | send call | sendTimeout k | receive | receiveTimeout =>
    obtain ⟨-, ⟨⟩⟩ := Option.ite_none_right_eq_some.mp h
    exact .of_eq rfl
  | receiveCheck =>
    obtain ⟨-, h⟩ := Option.ite_none_right_eq_some.mp h
    split at h <;> cases h <;> exact .of_eq rfl

/-! ## Opening a session -/

theorem sends_first [RoundTripTime ρ] (payload : List UInt8)
    (hwindow : c.session.sendWindow = .new _ ρ)
    (hstate : c.session.sessionState.toNat < SessionState.finWait2.toNat)
    (hsize : payload.length ≤ kMaxPayloadSizeInBytes) :
    (writeMessageIntoSendWindow message payload.length (some payload) c).2 = .success ∧
      Sends (.new _ ρ)
        (writeMessageIntoSendWindow message payload.length (some payload) c).1.session.sendWindow
        (some (message, payload)) := by
  have hslot : 0 < c.session.sendWindow.semaphore := by
    rw [hwindow]
    exact Nat.pos_of_neZero kDefaultWindowSize
  have hsuccess :
      (writeMessageIntoSendWindow message payload.length (some payload) c).2 = .success := by
    rw [writeMessageIntoSendWindow, if_pos hstate, if_pos hsize, if_pos hslot]
  have hgood : GoodCall ⟨payload.length, some payload⟩ :=
    ⟨by simp [SendCall.Readable, SendCall.bytes], hsize⟩
  have hbytes : (SendCall.mk payload.length (some payload)).bytes = payload := by
    simp [SendCall.bytes]
  have hsends := sends_writeMessageIntoSendWindow message hgood c
  rw [if_pos hsuccess, hwindow, hbytes] at hsends
  exact ⟨hsuccess, hsends⟩

theorem openClient_spec [RoundTripTime ρ] (clientId remoteClientId : ClientId)
    (protocol : Protocol) (sessionId : SessionId) (minVersion maxVersion : Version)
    (hremote : remoteClientId ≠ kBroadcastClientId) (hid : sessionId ≠ kInvalidSessionId) :
    Sends (.new _ ρ) (openClient ρ clientId remoteClientId protocol sessionId minVersion
        maxVersion).sendWindow
      (some (.syn, (SynPayload.mk minVersion protocol kSessionProtocolVersion
        maxVersion).encode)) ∧
    (openClient ρ clientId remoteClientId protocol sessionId minVersion
      maxVersion).receiveWindow = .new _ := by
  set payload := (SynPayload.mk minVersion protocol kSessionProtocolVersion maxVersion).encode
    with hpayload
  set c : Ctx ρ :=
    { session :=
        { Session.new ρ clientId .client protocol with
          remoteClientId := remoteClientId
          sessionId := sessionId
          minClientProtocolVersion := minVersion }
      fx := .start [] [] fun _ => none } with hc
  have hlength : payload.length = kSynPayloadSize := SynPayload.length_encode _
  obtain ⟨hsuccess, hsends⟩ := sends_first .syn payload (c := c) rfl
    (show SessionState.closed.toNat < SessionState.finWait2.toNat by decide)
    (by rw [hlength]; decide)
  rw [hlength] at hsuccess hsends
  have hopen : openClient ρ clientId remoteClientId protocol sessionId minVersion maxVersion =
      ((writeMessageIntoSendWindow .syn kSynPayloadSize (some payload) c).1.setState
        .synSent).session := by
    dsimp only [openClient, connect]
    rw [if_pos ⟨rfl, hremote, hid, rfl⟩]
    exact congrArg (fun r : Ctx ρ × Result => r.1.session) (if_pos hsuccess)
  rw [hopen]
  exact ⟨hsends, writeMessageIntoSendWindow_receiveWindow _ _ _ _⟩

theorem acceptServer_spec [RoundTripTime ρ] (clientId : ClientId) (protocol : Protocol)
    (version : Version) (sessionId : SessionId) (env : Surroundings) (hkind : m.kind = .syn)
    (hremote : m.header.srcClientId ≠ kBroadcastClientId) (hid : sessionId ≠ kInvalidSessionId) :
    let c := acceptServer ρ clientId protocol version sessionId m env.start
    Sends (.new _ ρ) c.session.sendWindow
        (some (.synAck, (synAckPayload m (openServer ρ clientId protocol version sessionId
          m)).encode)) ∧
      c.session.receiveWindow = (ReceiveWindow.new _).reset m.header.sequence ∧
      c.session.sessionState = .synReceived ∧ c.fx.forwarded = [] := by
  intro c
  set s := openServer ρ clientId protocol version sessionId m with hs
  have hopen : s.sendWindow = .new _ ρ ∧ s.receiveWindow = .new _ ∧ s.sessionState =
      .listening := by
    rw [hs, openServer, bindToServer, if_pos ⟨hremote, hid, rfl⟩]
    exact ⟨rfl, rfl, rfl⟩
  set c₀ : Ctx ρ := (Ctx.mk s env.start).check .synServer (s.sessionType = .server) with hc₀
  have hlength := SynAckPayload.length_encode (synAckPayload m s)
  obtain ⟨hsuccess, hsends⟩ := sends_first .synAck (synAckPayload m s).encode
    (c := c₀) hopen.1 (by rw [hc₀, Ctx.check_session, hopen.2.2]; decide)
    (by rw [hlength]; decide)
  rw [hlength] at hsuccess hsends
  set r := writeMessageIntoSendWindow .synAck kSynAckPayloadSize
    (some (synAckPayload m s).encode) c₀ with hr
  have hdispatch : dispatchMessage m ⟨s, env.start⟩ =
      (r.1.setState .synReceived).setReceive (r.1.session.receiveWindow.reset
        m.header.sequence) := by
    simp only [dispatchMessage, hkind]
    dsimp only [handleSynMessage]
    exact if_pos hsuccess
  have hc : c = (r.1.setState .synReceived).setReceive (r.1.session.receiveWindow.reset
      m.header.sequence) := by
    have : c = handleMessage 0 m ⟨s, env.start⟩ := rfl
    rw [this]
    dsimp only [handleMessage]
    rw [hdispatch]
    exact if_neg fun h => by cases h.2
  have hreceive : r.1.session.receiveWindow = .new _ := by
    rw [hr, writeMessageIntoSendWindow_receiveWindow]
    exact hopen.2.1
  have hforwarded : r.1.fx.forwarded = [] := by
    simp [hr, hc₀, Ctx.check]
  rw [hc]
  exact ⟨hsends, by rw [hreceive]; rfl, rfl, hforwarded⟩

end DevDriver.Analysis
