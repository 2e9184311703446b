import DevDriver.Analysis.Frames

/-!
# Identity and state of a session

What the methods of a session do to its identity, its state and its calls on the protocol server, in
any state of the windows. Most are quiet.
-/

namespace DevDriver.Analysis

open Library Model

variable {ρ : Type}

/-! ## The send window -/

variable (pSession : SessionRef) {c' : Ctx ρ} (lastReference : Bool) (c : Ctx ρ)

theorem quiet_fx {fx : Effects} (hcallbacks : fx.callbacks = c.fx.callbacks)
    (hserver : fx.protocolServer = c.fx.protocolServer) : Quiet c { c with fx := fx } :=
  ⟨rfl, rfl, rfl, rfl, rfl, rfl, .inl rfl, hcallbacks, hserver⟩

theorem quiet_stampAndSend (index : Fin kDefaultWindowSize) (windowSize : ℕ) (c : Ctx ρ) :
    Quiet c (sendOrClose ((c.session.sendWindow.stamp index windowSize).messages index)
      (c.setSend (c.session.sendWindow.stamp index windowSize))).1 :=
  (quiet_setSend _ c).trans (quiet_sendOrClose _ _)

theorem quiet_duplicateAck : Quiet c (duplicateAck c) := by
  have hretransmit : ∀ c' : Ctx ρ, Quiet c' (fastRetransmit c') := by
    intro c'
    have hsend := quiet_stampAndSend (slot kDefaultWindowSize c'.session.sendWindow.retransSeq)
      c'.session.receiveWindow.currentAvailableSize c'
    dsimp only [fastRetransmit]
    split
    · exact hsend.trans (quiet_setSend _ _)
    · exact hsend
  dsimp only [duplicateAck]
  split
  · exact (quiet_setSend _ c).trans (hretransmit _)
  · exact quiet_setSend _ c

theorem quiet_markMessagesAsAcknowledged [RoundTripTime ρ] (n : ℕ) (c : Ctx ρ) :
    Quiet c (markMessagesAsAcknowledged n c) := by
  have hscan : ∀ (w : TransmitWindow kDefaultWindowSize ρ) (l : List Assertion),
      Quiet c ⟨{ c.session with sendWindow := w }, { c.fx.tick with failedAsserts := l }⟩ :=
    fun w l => (quiet_setSend w c).trans (quiet_fx _ rfl rfl)
  dsimp only [markMessagesAsAcknowledged]
  split
  · exact (hscan _ _).trans (quiet_setSend _ _)
  · split
    · exact (hscan _ _).trans (quiet_duplicateAck _)
    · exact hscan _ _

theorem quiet_retransmitLoop (currentTime currentTimeout fuel seq count : ℕ) (c : Ctx ρ) :
    Quiet c (retransmitLoop currentTime currentTimeout fuel seq count c).1 := by
  induction fuel generalizing seq count c with
  | zero => exact .refl c
  | succ fuel ih =>
    dsimp only [retransmitLoop]
    split
    · split
      · exact .refl c
      · have hchecked := (quiet_check c .retransmitValid
          (c.session.sendWindow.valid (slot _ seq))).trans (quiet_check _ .retransmitSequence
            (c.session.sendWindow.sequence (slot _ seq) = seq))
        have hsend := hchecked.trans (quiet_stampAndSend (slot _ seq)
          c.session.receiveWindow.currentAvailableSize _)
        split
        · exact hsend.trans (ih _ _ _)
        · exact hsend
    · exact .refl c

theorem quiet_retransmitTimedOut [RoundTripTime ρ] : Quiet c (retransmitTimedOut c) := by
  dsimp only [retransmitTimedOut]
  split
  · split
    · have hloop := (quiet_fx c rfl rfl : Quiet c { c with fx := c.fx.tick }).trans
        (quiet_retransmitLoop c.fx.currentTime
          (RoundTripTime.timeout c.session.sendWindow.roundTripTime
            c.session.sendWindow.retransmitCount)
          (c.session.sendWindow.lastSentSequence + 1 -
            c.session.sendWindow.nextUnacknowledgedSequence)
          c.session.sendWindow.nextUnacknowledgedSequence 0 { c with fx := c.fx.tick })
      split
      · exact hloop.trans (quiet_setSend _ _)
      · exact hloop
    · exact quiet_shutdown (by decide) c
  · exact .refl c

theorem quiet_transmitLoop (fuel seq : ℕ) (c : Ctx ρ) :
    Quiet c (transmitLoop fuel seq c).1 := by
  induction fuel generalizing seq c with
  | zero => exact .refl c
  | succ fuel ih =>
    dsimp only [transmitLoop]
    split
    · split
      · set c₁ := c.setSend (c.session.sendWindow.stamp (slot _ seq)
          c.session.receiveWindow.currentAvailableSize)
        have hforward : Quiet c { c₁ with fx := (Effects.forward
            (c₁.session.sendWindow.messages (slot _ seq)) c₁.fx).1 } :=
          (quiet_setSend _ c).trans (quiet_fx _ rfl rfl)
        split
        · have hread : Quiet c { c₁ with fx := (Effects.forward
              (c₁.session.sendWindow.messages (slot _ seq)) c₁.fx).1.tick } :=
            (quiet_setSend _ c).trans (quiet_fx _ rfl rfl)
          exact (hread.trans (quiet_setSend _ _)).trans (ih _ _)
        · split
          · exact hforward.trans (quiet_shutdown (by decide) _)
          · exact hforward
      · exact (quiet_check c _ _).trans (ih _ _)
    · exact .refl c

theorem quiet_updateSendWindow [RoundTripTime ρ] : Quiet c (updateSendWindow c) := by
  have hloop := (quiet_retransmitTimedOut c).trans (quiet_transmitLoop
    (retransmitTimedOut c).session.sendWindow.transmitBound
    ((retransmitTimedOut c).session.sendWindow.lastSentSequence + 1) (retransmitTimedOut c))
  dsimp only [updateSendWindow]
  split
  · exact hloop
  · exact hloop.trans (quiet_fx _ rfl rfl)

theorem quiet_updateReceiveWindow : Quiet c (updateReceiveWindow c) := by
  unfold updateReceiveWindow
  split
  · exact quiet_sendAckMessage c
  · exact .refl c

theorem quiet_updateSendWindowSize (m : MessageBuffer) (c : Ctx ρ) :
    Quiet c (updateSendWindowSize m c) := quiet_setSend _ c

theorem quiet_writeMessageIntoSendWindow (message : SessionMessage) (payloadSizeInBytes : ℕ)
    (pPayload : Option (List UInt8)) (c : Ctx ρ) :
    Quiet c (writeMessageIntoSendWindow message payloadSizeInBytes pPayload c).1 := by
  have hlocked : ∀ c' : Ctx ρ, Quiet c' (writeLocked message payloadSizeInBytes pPayload c') :=
    fun c' => (((quiet_check c' _ _).trans (quiet_check _ _ _)).trans
      (quiet_check _ _ _)).trans (quiet_setSend _ _)
  dsimp only [writeMessageIntoSendWindow]
  repeat' split
  · exact (quiet_setSend _ c).trans (hlocked _)
  all_goals exact .refl c

theorem quiet_close : Quiet c (c.setState .closed) :=
  ⟨rfl, rfl, rfl, rfl, rfl, rfl, .inr rfl, rfl, rfl⟩

theorem quiet_receiveLocked (payloadBufferSizeInBytes : ℕ) (c : Ctx ρ) :
    Quiet c (receiveLocked payloadBufferSizeInBytes c).1 := by
  have hcheck : ∀ a b, Quiet c (c.check a b) := quiet_check c
  dsimp only [receiveLocked]
  split
  · split
    · exact (((hcheck _ _).trans (quiet_check _ _ _)).trans (quiet_setReceive _ _)).trans
        (quiet_check _ _ _)
    · exact ((((hcheck _ _).trans (quiet_check _ _ _)).trans (quiet_close _)).trans
        (quiet_setReceive _ _)).trans (quiet_check _ _ _)
  · exact (hcheck _ _).trans (quiet_setReceive _ _)

theorem quiet_userCall (call : UserCall) (c : Ctx ρ) : Quiet c (userCall call c) := by
  cases call with
  | send size p =>
    dsimp only [userCall, send]
    split
    · exact quiet_writeMessageIntoSendWindow _ _ _ c
    · exact .refl c
  | receive size =>
    dsimp only [userCall, receive]
    repeat' split
    · exact (quiet_setReceive _ c).trans (quiet_receiveLocked size _)
    all_goals exact .refl c

theorem quiet_userCalls (calls : List UserCall) (c : Ctx ρ) :
    Quiet c (calls.foldl (fun c call => userCall call c) c) := by
  induction calls generalizing c with
  | nil => exact .refl c
  | cons call calls ih => exact (quiet_userCall call c).trans (ih _)

/-! ## Handling a message -/

inductive Transition (m : MessageBuffer) : SessionState → SessionState → Prop where
  | stay (state : SessionState) : Transition m state state
  | close (state : SessionState) : Transition m state .closed
  | closing (state : SessionState) : Transition m state .closing
  | synReceived (state : SessionState) (hkind : m.kind = .syn) : Transition m state .synReceived
  | accepted (hkind : m.kind = .ack) : Transition m .synReceived .established
  | connected (hkind : m.kind = .synAck) : Transition m .synSent .established
  | reset (reason : Result) (state : SessionState) :
      Transition m state (shutdownState reason state)

structure Silent (c c' : Ctx ρ) : Prop where
  protocol : c'.session.protocol = c.session.protocol
  clientId : c'.session.clientId = c.session.clientId
  remoteClientId : c'.session.remoteClientId = c.session.remoteClientId
  sessionType : c'.session.sessionType = c.session.sessionType
  callbackState : c'.session.callbackState = c.session.callbackState
  callbacks : c'.fx.callbacks = c.fx.callbacks
  protocolServer : c'.fx.protocolServer = c.fx.protocolServer

theorem Quiet.silent {c : Ctx ρ} (h : Quiet c c') : Silent c c' :=
  ⟨h.protocol, h.clientId, h.remoteClientId, h.sessionType, h.callbackState, h.callbacks,
    h.protocolServer⟩

theorem Silent.trans {a b c : Ctx ρ} (hab : Silent a b) (hbc : Silent b c) : Silent a c where
  protocol := hbc.protocol.trans hab.protocol
  clientId := hbc.clientId.trans hab.clientId
  remoteClientId := hbc.remoteClientId.trans hab.remoteClientId
  sessionType := hbc.sessionType.trans hab.sessionType
  callbackState := hbc.callbackState.trans hab.callbackState
  callbacks := hbc.callbacks.trans hab.callbacks
  protocolServer := hbc.protocolServer.trans hab.protocolServer

def adoptedSessionId (m : MessageBuffer) (s : Session ρ) : SessionId :=
  if m.kind = .synAck ∧ s.sessionState = .synSent then m.header.sessionId else s.sessionId

structure Dispatched (m : MessageBuffer) (c c' : Ctx ρ) : Prop where
  silent : Silent c c'
  sessionId : c'.session.sessionId = adoptedSessionId m c.session
  state : Transition m c.session.sessionState c'.session.sessionState

variable {m : MessageBuffer}

theorem Quiet.dispatched {c : Ctx ρ} (h : Quiet c c')
    (hid : adoptedSessionId m c.session = c.session.sessionId) : Dispatched m c c' := by
  refine ⟨h.silent, h.sessionId.trans hid.symm, ?_⟩
  rcases h.state with hstate | hstate
  · rw [hstate]
    exact .stay _
  · rw [hstate]
    exact .close _

theorem Quiet.dispatched_setState {c : Ctx ρ} {newState : SessionState}
    (h : Quiet (c.setState newState) c') (hid : adoptedSessionId m c.session = c.session.sessionId)
    (hstate : Transition m c.session.sessionState newState) : Dispatched m c c' := by
  refine ⟨⟨h.protocol, h.clientId, h.remoteClientId, h.sessionType, h.callbackState,
    h.callbacks, h.protocolServer⟩, h.sessionId.trans hid.symm, ?_⟩
  rcases h.state with hsame | hclosed
  · rw [hsame]
    exact hstate
  · rw [hclosed]
    exact .close _

theorem Dispatched.updateSendWindowSize {c : Ctx ρ} (h : Dispatched m c c') :
    Dispatched m c (updateSendWindowSize m c') :=
  ⟨h.silent.trans (quiet_updateSendWindowSize m c').silent, h.sessionId, h.state⟩

theorem adoptedSessionId_of_kind (hkind : m.kind ≠ .synAck)
    (s : Session ρ) : adoptedSessionId m s = s.sessionId := if_neg fun h => hkind h.1

theorem adoptedSessionId_of_state (m : MessageBuffer) {s : Session ρ}
    (hstate : s.sessionState ≠ .synSent) : adoptedSessionId m s = s.sessionId :=
  if_neg fun h => hstate h.2

theorem dispatched_handleSynMessage (hkind : m.kind = .syn) (c : Ctx ρ) :
    Dispatched m c (handleSynMessage m c) := by
  have hid := adoptedSessionId_of_kind (m := m) (by rw [hkind]; decide) c.session
  have hwrite := (quiet_check c .synServer (c.session.sessionType = .server)).trans
    (quiet_writeMessageIntoSendWindow .synAck kSynAckPayloadSize
      (some (synAckPayload m c.session).encode) _)
  dsimp only [handleSynMessage]
  split
  · refine ⟨hwrite.silent.trans ⟨rfl, rfl, rfl, rfl, rfl, rfl, rfl⟩, ?_, .synReceived _ hkind⟩
    exact hwrite.sessionId.trans hid.symm
  · exact (hwrite.trans (quiet_shutdown (by decide) _)).dispatched hid

theorem dispatched_handleSynAckMessage [RoundTripTime ρ] (hkind : m.kind = .synAck)
    (c : Ctx ρ) : Dispatched m c (handleSynAckMessage m c) := by
  have hchecked := quiet_check c .synAckClient (c.session.sessionType = .client)
  have hmarked := fun n => hchecked.trans (quiet_markMessagesAsAcknowledged n _)
  dsimp only [handleSynAckMessage]
  apply Dispatched.updateSendWindowSize
  by_cases hstate : c.session.sessionState = .synSent
  · -- the SynAck that opens the session
    have hmark := hmarked (SynAckPayload.decode m.payload).sequence
    rw [Ctx.check_session, hstate]
    set c₁ := markMessagesAsAcknowledged (SynAckPayload.decode m.payload).sequence
      (c.check .synAckClient (c.session.sessionType = .client))
    have hack := quiet_sendAckMessage ({ c₁ with session := adoptSynAck m c₁.session } : Ctx ρ)
    have hadopt : Silent c₁ { c₁ with session := adoptSynAck m c₁.session } :=
      ⟨rfl, rfl, rfl, rfl, rfl, rfl, rfl⟩
    refine ⟨(hmark.silent.trans hadopt).trans hack.silent, ?_, ?_⟩
    · rw [hack.sessionId, adoptedSessionId, if_pos ⟨hkind, hstate⟩]
      rfl
    · rw [hstate]
      rcases hack.state with h | h
      · rw [h]
        exact .connected hkind
      · rw [h]
        exact .close _
  · have hid := adoptedSessionId_of_state m hstate
    rw [Ctx.check_session]
    split
    · exact (hmarked _).dispatched hid
    · exact (hmarked _).dispatched hid
    · exact (hmarked _).dispatched hid
    · exact (hmarked _).dispatched hid
    · contradiction
    · exact hchecked.dispatched hid

theorem dispatched_handleFinMessage (hkind : m.kind = .fin) (c : Ctx ρ) :
    Dispatched m c (handleFinMessage m c) := by
  have hid := adoptedSessionId_of_kind (m := m) (by rw [hkind]; decide) c.session
  have hwrite := quiet_writeMessageIntoReceiveWindow m c
  have hclose : ∀ {c' : Ctx ρ} {newState : SessionState}, Quiet c c' →
      Transition m c.session.sessionState newState →
      Dispatched m c (c'.closeGracefully newState) := fun h hstate =>
    ⟨h.silent.trans ⟨rfl, rfl, rfl, rfl, rfl, rfl, rfl⟩, h.sessionId.trans hid.symm, hstate⟩
  dsimp only [handleFinMessage]
  apply Dispatched.updateSendWindowSize
  split
  · exact hclose hwrite (.closing _)
  · split
    · exact hclose (hwrite.trans (quiet_sendAckMessage _)) (.close _)
    · exact (Quiet.refl c).dispatched hid

theorem dispatched_handleDataMessage (hkind : m.kind = .data) (c : Ctx ρ) :
    Dispatched m c (handleDataMessage m c) := by
  have hid := adoptedSessionId_of_kind (m := m) (by rw [hkind]; decide) c.session
  have hwrite := (quiet_writeMessageIntoReceiveWindow m c).dispatched hid
  dsimp only [handleDataMessage]
  apply Dispatched.updateSendWindowSize
  split
  · exact hwrite
  · exact hwrite
  · exact hwrite
  · exact (Quiet.refl c).dispatched hid

theorem dispatched_handleAckMessage [RoundTripTime ρ] (hkind : m.kind = .ack)
    (c : Ctx ρ) : Dispatched m c (handleAckMessage m c) := by
  have hid := adoptedSessionId_of_kind (m := m) (by rw [hkind]; decide) c.session
  have hmark := (quiet_markMessagesAsAcknowledged m.header.sequence c).dispatched hid
  dsimp only [handleAckMessage]
  apply Dispatched.updateSendWindowSize
  split
  · rename_i hstate
    have haccept := quiet_markMessagesAsAcknowledged m.header.sequence (c.setState .established)
    refine haccept.dispatched_setState hid ?_
    rw [hstate]
    exact .accepted hkind
  · exact hmark
  · exact hmark
  · exact hmark
  · exact hmark
  · exact (Quiet.refl c).dispatched hid

theorem dispatched_handleRstMessage (hkind : m.kind = .rst) (c : Ctx ρ) :
    Dispatched m c (handleRstMessage m c) := by
  have hid := adoptedSessionId_of_kind (m := m) (by rw [hkind]; decide) c.session
  have hframe := Ctx.shutdown_frame (Result.ofCode m.header.sequence) c
  obtain ⟨-, -, hprotocol, hclient, hremote, hsession, htype, hcallback, hstate⟩ := hframe
  apply Dispatched.updateSendWindowSize
  refine ⟨⟨hprotocol, hclient, hremote, htype, hcallback, rfl, rfl⟩, hsession.trans hid.symm, ?_⟩
  rw [hstate]
  exact .reset _ _

theorem dispatched_dispatchMessage [RoundTripTime ρ] (m : MessageBuffer) (c : Ctx ρ) :
    Dispatched m c (dispatchMessage m c) := by
  unfold dispatchMessage
  cases hkind : m.kind with
  | syn => exact dispatched_handleSynMessage hkind c
  | synAck => exact dispatched_handleSynAckMessage hkind c
  | fin => exact dispatched_handleFinMessage hkind c
  | data => exact dispatched_handleDataMessage hkind c
  | ack => exact dispatched_handleAckMessage hkind c
  | rst => exact dispatched_handleRstMessage hkind c
  | unknown =>
    exact (quiet_check c .messageKind false).dispatched
      (adoptedSessionId_of_kind (by rw [hkind]; decide) c.session)

theorem handleSynMessage_spec (m : MessageBuffer) (c : Ctx ρ) :
    (handleSynMessage m c).fx.forwarded = c.fx.forwarded ∧
      ((handleSynMessage m c).session.sessionState = .synReceived ∨
        (handleSynMessage m c).session.sessionState = .closed) := by
  dsimp only [handleSynMessage]
  split
  · refine ⟨?_, .inl rfl⟩
    simp [Ctx.setReceive, Ctx.setState, Ctx.check]
  · rw [(Ctx.shutdown_frame _ _).2.2.2.2.2.2.2.2, shutdownState_of_ne (by decide)]
    refine ⟨?_, .inr rfl⟩
    simp [Ctx.check]

theorem handleMessage_syn [RoundTripTime ρ] (hkind : m.kind = .syn) (c : Ctx ρ) :
    handleMessage pSession m c = handleSynMessage m c := by
  have hdispatch : dispatchMessage m c = handleSynMessage m c := by
    unfold dispatchMessage
    rw [hkind]
  have hstate : (handleSynMessage m c).session.sessionState ≠ .established := by
    rcases (handleSynMessage_spec m c).2 with h | h <;> rw [h] <;> decide
  dsimp only [handleMessage]
  rw [hdispatch, if_neg fun h => hstate h.2]

@[simp] theorem enterEstablished_frame :
    (enterEstablished pSession c).session.sessionId = c.session.sessionId ∧
      (enterEstablished pSession c).session.sessionState = c.session.sessionState ∧
      (enterEstablished pSession c).session.remoteClientId = c.session.remoteClientId := by
  unfold enterEstablished
  repeat' split
  all_goals exact ⟨rfl, rfl, rfl⟩

theorem sessionId_handleMessage [RoundTripTime ρ] (m : MessageBuffer) (c : Ctx ρ) :
    (handleMessage pSession m c).session.sessionId = adoptedSessionId m c.session := by
  have hdispatch := (dispatched_dispatchMessage m c).sessionId
  dsimp only [handleMessage]
  split
  · rw [(enterEstablished_frame pSession _).1]
    exact hdispatch
  · exact hdispatch

/-! ## Winding down -/

def Winding : SessionState → Prop
  | .closed | .finWait1 | .closing | .finWait2 => True
  | _ => False

/-- A method that is silent, keeps the session id, and winds the session down if it changes its
state at all. -/
structure Winds (c c' : Ctx ρ) : Prop where
  silent : Silent c c'
  sessionId : c'.session.sessionId = c.session.sessionId
  state : c'.session.sessionState = c.session.sessionState ∨ Winding c'.session.sessionState

theorem Quiet.winds {c : Ctx ρ} (h : Quiet c c') : Winds c c' := by
  refine ⟨h.silent, h.sessionId, h.state.imp_right fun hclosed => ?_⟩
  rw [hclosed]
  trivial

theorem Winds.refl : Winds c c := (Quiet.refl c).winds

theorem Winds.trans {a b c : Ctx ρ} (hab : Winds a b) (hbc : Winds b c) : Winds a c := by
  refine ⟨hab.silent.trans hbc.silent, hbc.sessionId.trans hab.sessionId, ?_⟩
  rcases hbc.state with h | h
  · rw [h]
    exact hab.state
  · exact .inr h

theorem winding_shutdownState (reason : Result) (state : SessionState) :
    Winding (shutdownState reason state) := by
  by_cases hreason : reason = .success
  · cases state <;> simp [shutdownState, hreason, Winding]
  · rw [shutdownState_of_ne hreason]
    trivial

theorem winds_shutdown (reason : Result) (c : Ctx ρ) : Winds c (c.shutdown reason) := by
  obtain ⟨-, -, hprotocol, hclient, hremote, hid, htype, hcallback, hstate⟩ :=
    Ctx.shutdown_frame reason c
  refine ⟨⟨hprotocol, hclient, hremote, htype, hcallback, rfl, rfl⟩, hid, .inr ?_⟩
  rw [hstate]
  exact winding_shutdownState reason _

theorem winds_setState (newState : SessionState) (h : Winding newState) (c : Ctx ρ) :
    Winds c (c.setState newState) := ⟨⟨rfl, rfl, rfl, rfl, rfl, rfl, rfl⟩, rfl, .inr h⟩

theorem winds_updateTimeout : Winds c (updateTimeout c) := by
  have hfirst : ∀ c' : Ctx ρ, Winds c' (updateFinWait1 c') := by
    intro c'
    have hwrite := (quiet_writeMessageIntoSendWindow .fin 0 none c').winds
    dsimp only [updateFinWait1]
    split
    · split
      · exact hwrite.trans (winds_setState .finWait2 trivial _)
      · exact hwrite
    · exact .refl c'
  have hsecond : ∀ c' : Ctx ρ, Winds c' (updateFinWait2 c') := by
    intro c'
    unfold updateFinWait2
    split
    · exact winds_setState .closed trivial c'
    · exact .refl c'
  have hthird : ∀ c' : Ctx ρ, Winds c' (updateClosing c') := by
    intro c'
    dsimp only [updateClosing]
    split
    · split
      · exact winds_setState .closed trivial c'
      · exact .refl c'
    · exact .refl c'
  exact ((hfirst c).trans (hsecond _)).trans (hthird _)

theorem winds_closeUnreferenced : Winds c (closeUnreferenced lastReference c) := by
  unfold closeUnreferenced
  split
  · exact winds_shutdown .success c
  · exact .refl c

theorem winds_signalDisconnection : Winds c (signalDisconnection c) := by
  unfold signalDisconnection
  split
  · exact ⟨⟨rfl, rfl, rfl, rfl, rfl, rfl, rfl⟩, rfl, .inl rfl⟩
  · exact .refl c

theorem winds_updateWindows [RoundTripTime ρ] :
    Winds c (closeUnreferenced lastReference
      (updateTimeout (updateSendWindow (updateReceiveWindow c)))) :=
  (((quiet_updateReceiveWindow c).trans (quiet_updateSendWindow _)).winds.trans
    (winds_updateTimeout _)).trans (winds_closeUnreferenced _ _)

theorem sessionId_update [RoundTripTime ρ] (calls : List UserCall) (c : Ctx ρ) :
    (update pSession lastReference calls c).session.sessionId = c.session.sessionId := by
  have hestablished : ∀ c' : Ctx ρ,
      (updateEstablished pSession calls c').session.sessionId = c'.session.sessionId := by
    intro c'
    unfold updateEstablished
    split
    · dsimp only
      split
      · rfl
      · exact (quiet_userCalls calls _).sessionId
    · rfl
  have hterminated : ∀ c' : Ctx ρ,
      (updateTerminated pSession c').session.sessionId = c'.session.sessionId := by
    intro c'
    unfold updateTerminated
    repeat' split
    all_goals rfl
  rw [update, updateCallbacks, (winds_signalDisconnection _).sessionId, hterminated,
    hestablished]
  exact (winds_updateWindows lastReference c).sessionId

theorem sessionId_handleUnregisterProtocolServer (pServer : ServerRef) (protocol : Protocol)
    (c : Ctx ρ) :
    (handleUnregisterProtocolServer pSession pServer protocol c).session.sessionId =
      c.session.sessionId := by
  dsimp only [handleUnregisterProtocolServer]
  rw [(winds_shutdown .success _).sessionId]
  split <;> rfl

end DevDriver.Analysis
