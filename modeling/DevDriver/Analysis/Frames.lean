import DevDriver.Model.Handlers

/-!
# What the session methods leave alone

Three relations between the context before and after a method carry the frame conditions through
sequences of calls and loops.
-/

namespace DevDriver.Analysis

open Library Model Effects

variable {ρ : Type}

/-! ## The three relations -/

/-- The session keeps its identity, its state stays or becomes Closed, and no protocol server
is called. -/
structure Quiet (c c' : Ctx ρ) : Prop where
  protocol : c'.session.protocol = c.session.protocol
  clientId : c'.session.clientId = c.session.clientId
  remoteClientId : c'.session.remoteClientId = c.session.remoteClientId
  sessionId : c'.session.sessionId = c.session.sessionId
  sessionType : c'.session.sessionType = c.session.sessionType
  callbackState : c'.session.callbackState = c.session.callbackState
  state : c'.session.sessionState = c.session.sessionState ∨
    c'.session.sessionState = .closed
  callbacks : c'.fx.callbacks = c.fx.callbacks
  protocolServer : c'.fx.protocolServer = c.fx.protocolServer

variable (pSession : SessionRef) (m : MessageBuffer) (lastReference : Bool) {fx : Effects}
    (message : SessionMessage) (payloadSizeInBytes : ℕ) (pPayload : Option (List UInt8))
    (calls : List UserCall) {fx' : Effects} (reason : Result) (c : Ctx ρ)

theorem Quiet.refl : Quiet c c :=
  ⟨rfl, rfl, rfl, rfl, rfl, rfl, .inl rfl, rfl, rfl⟩

theorem Quiet.trans {a b c : Ctx ρ} (hab : Quiet a b) (hbc : Quiet b c) : Quiet a c where
  protocol := hbc.protocol.trans hab.protocol
  clientId := hbc.clientId.trans hab.clientId
  remoteClientId := hbc.remoteClientId.trans hab.remoteClientId
  sessionId := hbc.sessionId.trans hab.sessionId
  sessionType := hbc.sessionType.trans hab.sessionType
  callbackState := hbc.callbackState.trans hab.callbackState
  state := by
    rcases hbc.state with h | h
    · rw [h]
      exact hab.state
    · exact .inr h
  callbacks := hbc.callbacks.trans hab.callbacks
  protocolServer := hbc.protocolServer.trans hab.protocolServer

def Emits (P : MessageBuffer → Prop) (fx fx' : Effects) : Prop :=
  ∃ l, fx'.forwarded = fx.forwarded ++ l ∧ ∀ p ∈ l, P p.1

variable {P : MessageBuffer → Prop}

theorem Emits.of_eq (h : fx'.forwarded = fx.forwarded) : Emits P fx fx' :=
  ⟨[], by simp [h], by simp⟩

theorem Emits.refl (fx : Effects) : Emits P fx fx := .of_eq rfl

theorem Emits.trans {a b c : Effects} (hab : Emits P a b) (hbc : Emits P b c) : Emits P a c := by
  obtain ⟨l, hl, hP⟩ := hab
  obtain ⟨l', hl', hP'⟩ := hbc
  refine ⟨l ++ l', by rw [hl', hl, List.append_assoc], ?_⟩
  intro p hp
  rcases List.mem_append.mp hp with hp | hp
  · exact hP p hp
  · exact hP' p hp

theorem Emits.mono {Q : MessageBuffer → Prop} (h : Emits P fx fx') (hPQ : ∀ m, P m → Q m) :
    Emits Q fx fx' := by
  obtain ⟨l, hl, hP⟩ := h
  exact ⟨l, hl, fun p hp => hPQ _ (hP p hp)⟩

theorem Emits.forall (h : Emits P fx fx') (hstart : fx.forwarded = []) :
    ∀ p ∈ fx'.forwarded, P p.1 := by
  obtain ⟨l, hl, hP⟩ := h
  rw [hl, hstart, List.nil_append]
  exact hP

def Clean (A : Assertion → Prop) (fx : Effects) : Prop := ∀ a ∈ fx.failedAsserts, ¬ A a

variable {A : Assertion → Prop}

theorem Clean.of_eq (h : Clean A fx) (he : fx'.failedAsserts = fx.failedAsserts) : Clean A fx' := by
  unfold Clean
  rw [he]
  exact h

theorem Clean.check (h : Clean A fx) {a : Assertion} {condition : Bool}
    (hc : condition = true ∨ ¬ A a) : Clean A (fx.check a condition) := by
  unfold Effects.check
  split
  · exact h
  · intro b hb
    rcases List.mem_append.mp hb with hb | hb
    · exact h b hb
    · obtain rfl := List.mem_singleton.mp hb
      rcases hc with hc | hc
      · contradiction
      · exact hc
@[simp] theorem Effects.check_true (fx : Effects) (a : Assertion) : fx.check a true = fx := rfl

@[simp] theorem Effects.check_frame (fx : Effects) (a : Assertion) (b : Bool) :
    (fx.check a b).forwarded = fx.forwarded ∧ (fx.check a b).callbacks = fx.callbacks ∧
      (fx.check a b).protocolServer = fx.protocolServer ∧
      (fx.check a b).spinning = fx.spinning ∧ (fx.check a b).clock = fx.clock ∧
      (fx.check a b).answers = fx.answers := by
  unfold check
  split <;> simp

@[simp] theorem Ctx.check_session (a : Assertion) (b : Bool) :
    (c.check a b).session = c.session := rfl

theorem quiet_check (a : Assertion) (b : Bool) : Quiet c (c.check a b) := by
  constructor <;> simp [Ctx.check]

def shutdownState (reason : Result) (state : SessionState) : SessionState :=
  match state with
  | .closed | .finWait1 | .finWait2 | .closing => if reason ≠ .success then .closed else state
  | .established => if reason = .success then .finWait1 else .closed
  | _ => .closed

theorem shutdown_eq (s : Session ρ) :
    s.shutdown reason = { s with
      sessionTerminationReason := reason
      sessionState := shutdownState reason s.sessionState } := by
  unfold Session.shutdown shutdownState
  cases s.sessionState <;> simp only [Session.setState] <;> split <;> simp_all

@[simp] theorem Ctx.shutdown_fx : (c.shutdown reason).fx = c.fx :=
  rfl

@[simp] theorem Ctx.shutdown_frame :
    (c.shutdown reason).session.sendWindow = c.session.sendWindow ∧
      (c.shutdown reason).session.receiveWindow = c.session.receiveWindow ∧
      (c.shutdown reason).session.protocol = c.session.protocol ∧
      (c.shutdown reason).session.clientId = c.session.clientId ∧
      (c.shutdown reason).session.remoteClientId = c.session.remoteClientId ∧
      (c.shutdown reason).session.sessionId = c.session.sessionId ∧
      (c.shutdown reason).session.sessionType = c.session.sessionType ∧
      (c.shutdown reason).session.callbackState = c.session.callbackState ∧
      (c.shutdown reason).session.sessionState =
        shutdownState reason c.session.sessionState := by
  simp [Ctx.shutdown, shutdown_eq]

theorem shutdownState_of_ne {reason : Result} (h : reason ≠ .success) (state : SessionState) :
    shutdownState reason state = .closed := by
  cases state <;> simp [shutdownState, h]

theorem quiet_shutdown {reason : Result} (h : reason ≠ .success) (c : Ctx ρ) :
    Quiet c (c.shutdown reason) := by
  constructor <;> simp [shutdownState_of_ne h]

theorem emits_forwardRetry (answers : List Result) (fx : Effects) :
    Emits (· = m) fx (forwardRetry m answers fx).1 := by
  have hone : ∀ fx : Effects, Emits (· = m) fx (forward m fx).1 := fun fx =>
    ⟨[(m, fx.answers.headD .success)], rfl, by simp⟩
  fun_induction forwardRetry m answers fx with
  | case1 answers fx ih => exact (hone fx).trans ih
  | case2 => exact hone _

@[simp] theorem forwardRetry_frame (answers : List Result) (fx : Effects) :
    (forwardRetry m answers fx).1.failedAsserts = fx.failedAsserts ∧
      (forwardRetry m answers fx).1.callbacks = fx.callbacks ∧
      (forwardRetry m answers fx).1.protocolServer = fx.protocolServer ∧
      (forwardRetry m answers fx).1.spinning = fx.spinning ∧
      (forwardRetry m answers fx).1.clock = fx.clock := by
  fun_induction forwardRetry m answers fx with
  | case1 answers fx ih => simpa [forward] using ih
  | case2 => simp [forward]

@[simp] theorem sendOrClose_frame :
    (sendOrClose m c).1.session.sendWindow = c.session.sendWindow ∧
      (sendOrClose m c).1.session.receiveWindow = c.session.receiveWindow ∧
      (sendOrClose m c).1.fx.failedAsserts = c.fx.failedAsserts ∧
      (sendOrClose m c).1.fx.spinning = c.fx.spinning ∧
      (sendOrClose m c).1.fx.clock = c.fx.clock := by
  dsimp only [sendOrClose]
  split <;> simp

theorem quiet_sendOrClose : Quiet c (sendOrClose m c).1 := by
  dsimp only [sendOrClose]
  split <;> constructor <;> simp [shutdownState_of_ne]

theorem emits_sendOrClose : Emits (· = m) c.fx (sendOrClose m c).1.fx := by
  dsimp only [sendOrClose]
  split <;> exact emits_forwardRetry m c.fx.answers c.fx

@[simp] theorem sendAckMessage_frame :
    (sendAckMessage c).1.session.sendWindow = c.session.sendWindow ∧
      (sendAckMessage c).1.session.receiveWindow = c.session.receiveWindow.acknowledged ∧
      (sendAckMessage c).1.fx.spinning = c.fx.spinning := by
  simp [sendAckMessage, sendControlMessage, Ctx.setReceive, checkWindowSize, Ctx.check]

theorem quiet_setReceive (w : ReceiveWindow kDefaultWindowSize) (c : Ctx ρ) :
    Quiet c (c.setReceive w) := ⟨rfl, rfl, rfl, rfl, rfl, rfl, .inl rfl, rfl, rfl⟩

theorem quiet_setSend (w : TransmitWindow kDefaultWindowSize ρ) (c : Ctx ρ) :
    Quiet c (c.setSend w) := ⟨rfl, rfl, rfl, rfl, rfl, rfl, .inl rfl, rfl, rfl⟩

theorem quiet_sendAckMessage : Quiet c (sendAckMessage c).1 :=
  ((quiet_check c _ _).trans (quiet_setReceive _ _)).trans (quiet_sendOrClose _ _)

theorem emits_sendAckMessage : Emits (·.kind = .ack) c.fx (sendAckMessage c).1.fx := by
  have hcheck : Emits (·.kind = .ack) c.fx (checkWindowSize c).fx :=
    .of_eq (by simp [checkWindowSize, Ctx.check])
  have hsend := emits_sendOrClose
    (controlMessage .ack (sub64 c.session.receiveWindow.nextExpectedSequence 1)
      ((checkWindowSize c).setReceive c.session.receiveWindow.acknowledged).session)
    ((checkWindowSize c).setReceive c.session.receiveWindow.acknowledged)
  refine hcheck.trans (hsend.mono ?_)
  rintro m rfl
  simp [controlMessage, MessageBuffer.kind]

theorem clean_sendAckMessage {c : Ctx ρ} (h : Clean A c.fx)
    (hwindow : c.session.receiveWindow.nextUnreadSequence ≤
      c.session.receiveWindow.nextExpectedSequence ∨ ¬ A .windowSize) :
    Clean A (sendAckMessage c).1.fx := by
  refine (h.check (a := .windowSize) ?_).of_eq (sendOrClose_frame _ _).2.2.1
  exact hwindow.imp decide_eq_true id

@[simp] theorem writeMessageIntoReceiveWindow_frame :
    (writeMessageIntoReceiveWindow m c).session.sendWindow = c.session.sendWindow ∧
      (writeMessageIntoReceiveWindow m c).fx.spinning = c.fx.spinning := by
  dsimp only [writeMessageIntoReceiveWindow]
  repeat' split
  all_goals simp [Ctx.setReceive, Ctx.check]

theorem quiet_writeMessageIntoReceiveWindow : Quiet c (writeMessageIntoReceiveWindow m c) := by
  have hstored : ∀ w b, Quiet c ((c.check .receiveScan b).setReceive w) := fun w b =>
    (quiet_check c _ b).trans (quiet_setReceive w _)
  dsimp only [writeMessageIntoReceiveWindow]
  repeat' split
  · exact (hstored _ _).trans (quiet_sendAckMessage _)
  · exact hstored _ _
  · exact .refl c
  · exact quiet_sendAckMessage c
  · exact .refl c

theorem clean_writeMessageIntoReceiveWindow {m : MessageBuffer} {c : Ctx ρ} (h : Clean A c.fx)
    (hscan : ¬ A .receiveScan) (hwindow : ¬ A .windowSize) :
    Clean A (writeMessageIntoReceiveWindow m c).fx := by
  dsimp only [writeMessageIntoReceiveWindow]
  repeat' split
  · exact clean_sendAckMessage (h.check (.inr hscan)) (.inr hwindow)
  · exact h.check (.inr hscan)
  · exact h
  · exact clean_sendAckMessage h (.inr hwindow)
  · exact h

theorem emits_writeMessageIntoReceiveWindow :
    Emits (·.kind = .ack) c.fx (writeMessageIntoReceiveWindow m c).fx := by
  have hstored : ∀ w b,
      Emits (·.kind = .ack) c.fx ((c.check .receiveScan b).setReceive w).fx := fun w b =>
    .of_eq (Effects.check_frame c.fx .receiveScan b).1
  dsimp only [writeMessageIntoReceiveWindow]
  repeat' split
  · exact (hstored _ _).trans (emits_sendAckMessage _)
  · exact hstored _ _
  · exact .refl _
  · exact emits_sendAckMessage c
  · exact .refl _

/-! ## Methods that forward nothing -/

@[simp] theorem writeLocked_forwarded :
    (writeLocked message payloadSizeInBytes pPayload c).fx.forwarded = c.fx.forwarded := by
  simp [writeLocked, Ctx.setSend, Ctx.check]

@[simp] theorem writeMessageIntoSendWindow_forwarded :
    (writeMessageIntoSendWindow message payloadSizeInBytes pPayload c).1.fx.forwarded =
      c.fx.forwarded := by
  dsimp only [writeMessageIntoSendWindow]
  split
  · split
    · split
      · simp [Ctx.setSend]
      · rfl
    · rfl
  · rfl

@[simp] theorem receiveLocked_forwarded (payloadBufferSizeInBytes : ℕ) (c : Ctx ρ) :
    (receiveLocked payloadBufferSizeInBytes c).1.fx.forwarded = c.fx.forwarded := by
  dsimp only [receiveLocked]
  repeat' split
  all_goals simp [checkWindowSize, Ctx.setReceive, Ctx.setState, Ctx.check]

@[simp] theorem userCall_forwarded (call : UserCall) (c : Ctx ρ) :
    (userCall call c).fx.forwarded = c.fx.forwarded := by
  cases call with
  | send size p =>
    dsimp only [userCall, send]
    split <;> simp
  | receive size =>
    dsimp only [userCall, receive]
    repeat' split
    all_goals simp [Ctx.setReceive]

theorem userCalls_forwarded :
    (calls.foldl (fun c call => userCall call c) c).fx.forwarded = c.fx.forwarded := by
  induction calls generalizing c with
  | nil => rfl
  | cons call calls ih => simp [ih]

@[simp] theorem updateSendWindowSize_fx :
    (updateSendWindowSize m c).fx = c.fx := rfl

@[simp] theorem enterEstablished_forwarded :
    (enterEstablished pSession c).fx.forwarded = c.fx.forwarded := by
  unfold enterEstablished
  split
  · rfl
  · split <;> simp [Ctx.callback, Ctx.check]

@[simp] theorem closeUnreferenced_fx : (closeUnreferenced lastReference c).fx = c.fx := by
  unfold closeUnreferenced
  split <;> rfl

@[simp] theorem signalDisconnection_fx : (signalDisconnection c).fx = c.fx := by
  unfold signalDisconnection
  split <;> rfl

@[simp] theorem updateTerminated_forwarded :
    (updateTerminated pSession c).fx.forwarded = c.fx.forwarded := by
  unfold updateTerminated
  repeat' split
  all_goals simp [Ctx.callback, Ctx.check]

@[simp] theorem updateEstablished_forwarded :
    (updateEstablished pSession calls c).fx.forwarded = c.fx.forwarded := by
  unfold updateEstablished
  split
  · dsimp only
    split
    · simp [Ctx.check]
    · rw [userCalls_forwarded]
      simp [Ctx.callback, Ctx.check]
  · rfl

@[simp] theorem updateCallbacks_forwarded :
    (updateCallbacks pSession lastReference calls c).fx.forwarded = c.fx.forwarded := by
  simp [updateCallbacks]

@[simp] theorem updateFinWait1_forwarded : (updateFinWait1 c).fx.forwarded = c.fx.forwarded := by
  dsimp only [updateFinWait1]
  repeat' split
  all_goals simp [Ctx.setState]

@[simp] theorem updateFinWait2_fx : (updateFinWait2 c).fx = c.fx := by
  unfold updateFinWait2
  split <;> rfl

@[simp] theorem updateClosing_fx : (updateClosing c).fx = c.fx := by
  dsimp only [updateClosing]
  repeat' split
  all_goals rfl

@[simp] theorem handleUnregisterProtocolServer_forwarded (pServer : ServerRef) (protocol : Protocol)
    (c : Ctx ρ) :
    (handleUnregisterProtocolServer pSession pServer protocol c).fx.forwarded =
      c.fx.forwarded := by
  dsimp only [handleUnregisterProtocolServer]
  split <;> simp [Ctx.callback, Ctx.check]

@[simp] theorem enterEstablished_windows :
    (enterEstablished pSession c).session.sendWindow = c.session.sendWindow ∧
      (enterEstablished pSession c).session.receiveWindow = c.session.receiveWindow := by
  unfold enterEstablished
  repeat' split
  all_goals exact ⟨rfl, rfl⟩

@[simp] theorem handleMessage_windows [RoundTripTime ρ] :
    (handleMessage pSession m c).session.sendWindow = (dispatchMessage m c).session.sendWindow ∧
      (handleMessage pSession m c).session.receiveWindow =
        (dispatchMessage m c).session.receiveWindow := by
  dsimp only [handleMessage]
  split
  · exact enterEstablished_windows pSession _
  · exact ⟨rfl, rfl⟩

@[simp] theorem writeMessageIntoSendWindow_receiveWindow :
    (writeMessageIntoSendWindow message payloadSizeInBytes pPayload c).1.session.receiveWindow =
      c.session.receiveWindow := by
  dsimp only [writeMessageIntoSendWindow]
  repeat' split
  all_goals rfl

@[simp] theorem receiveLocked_sendWindow (payloadBufferSizeInBytes : ℕ) (c : Ctx ρ) :
    (receiveLocked payloadBufferSizeInBytes c).1.session.sendWindow = c.session.sendWindow := by
  dsimp only [receiveLocked]
  repeat' split
  all_goals rfl

@[simp] theorem updateReceiveWindow_sendWindow :
    (updateReceiveWindow c).session.sendWindow = c.session.sendWindow := by
  unfold updateReceiveWindow
  split <;> simp

@[simp] theorem updateFinWait2_windows :
    (updateFinWait2 c).session.sendWindow = c.session.sendWindow ∧
      (updateFinWait2 c).session.receiveWindow = c.session.receiveWindow := by
  unfold updateFinWait2
  split <;> exact ⟨rfl, rfl⟩

@[simp] theorem updateClosing_windows :
    (updateClosing c).session.sendWindow = c.session.sendWindow ∧
      (updateClosing c).session.receiveWindow = c.session.receiveWindow := by
  dsimp only [updateClosing]
  repeat' split
  all_goals exact ⟨rfl, rfl⟩

@[simp] theorem closeUnreferenced_windows :
    (closeUnreferenced lastReference c).session.sendWindow = c.session.sendWindow ∧
      (closeUnreferenced lastReference c).session.receiveWindow = c.session.receiveWindow := by
  unfold closeUnreferenced
  split <;> simp

@[simp] theorem updateTerminated_windows :
    (updateTerminated pSession c).session.sendWindow = c.session.sendWindow ∧
      (updateTerminated pSession c).session.receiveWindow = c.session.receiveWindow := by
  unfold updateTerminated
  repeat' split
  all_goals exact ⟨rfl, rfl⟩

@[simp] theorem signalDisconnection_windows :
    (signalDisconnection c).session.sendWindow = c.session.sendWindow ∧
      (signalDisconnection c).session.receiveWindow = c.session.receiveWindow := by
  unfold signalDisconnection
  split <;> exact ⟨rfl, rfl⟩

@[simp] theorem updateEstablished_nil_windows :
    (updateEstablished pSession [] c).session.sendWindow = c.session.sendWindow ∧
      (updateEstablished pSession [] c).session.receiveWindow = c.session.receiveWindow := by
  unfold updateEstablished
  split
  · dsimp only
    split <;> exact ⟨rfl, rfl⟩
  · exact ⟨rfl, rfl⟩

@[simp] theorem updateCallbacks_nil_windows :
    (updateCallbacks pSession lastReference [] c).session.sendWindow = c.session.sendWindow ∧
      (updateCallbacks pSession lastReference [] c).session.receiveWindow =
        c.session.receiveWindow := by
  simp [updateCallbacks]

@[simp] theorem handleUnregisterProtocolServer_windows (pServer : ServerRef) (protocol : Protocol)
    (c : Ctx ρ) :
    (handleUnregisterProtocolServer pSession pServer protocol c).session.sendWindow =
        c.session.sendWindow ∧
      (handleUnregisterProtocolServer pSession pServer protocol c).session.receiveWindow =
        c.session.receiveWindow := by
  dsimp only [handleUnregisterProtocolServer]
  split <;> simp [Ctx.callback]

end DevDriver.Analysis
