import DevDriver.Analysis.Transmission

/-!
# Every session method keeps the send window's invariant

`SendSafe` collects what a method owes the send window: it keeps the invariant, fails no
assertion of the send window's methods and leaves no loop spinning.  It composes, so each
handler is a chain of the methods it calls, and a run of an endpoint is a chain of steps.
-/

namespace DevDriver.Analysis

open Library Model Endpoint

variable {ρ : Type}

/-- The assertions of `MarkMessagesAsAcknowledged`, `WriteMessageIntoSendWindow` and
`UpdateSendWindow`. -/
def SendAssertion : Assertion → Prop
  | .markSlot | .markDistance | .writeDistance | .writeSlot | .writePayload
  | .retransmitValid | .retransmitSequence | .transmitCorruption => True
  | _ => False

/-- A method that starts with the invariant of the send window keeps it, fails none of the
window's assertions and leaves no loop spinning. -/
structure SendSafe (writers : ℕ) (c c' : Ctx ρ) : Prop where
  inv : SendInv writers c.session.sendWindow → SendInv writers c'.session.sendWindow
  clean : SendInv writers c.session.sendWindow → Clean SendAssertion c.fx →
    Clean SendAssertion c'.fx
  spinning : SendInv writers c.session.sendWindow → c'.fx.spinning = c.fx.spinning

variable (writers : ℕ) (pSession : SessionRef) (m : MessageBuffer) {e : Endpoint ρ}
    {message : SessionMessage} (c : Ctx ρ)

theorem SendSafe.refl : SendSafe writers c c :=
  ⟨id, fun _ => id, fun _ => rfl⟩

theorem SendSafe.trans {writers : ℕ} {a b c : Ctx ρ} (hab : SendSafe writers a b)
    (hbc : SendSafe writers b c) : SendSafe writers a c where
  inv h := hbc.inv (hab.inv h)
  clean h hclean := hbc.clean (hab.inv h) (hab.clean h hclean)
  spinning h := (hbc.spinning (hab.inv h)).trans (hab.spinning h)

theorem SendSafe.of_frame {writers : ℕ} {c c' : Ctx ρ}
    (hwindow : c'.session.sendWindow = c.session.sendWindow)
    (hclean : Clean SendAssertion c.fx → Clean SendAssertion c'.fx)
    (hspinning : c'.fx.spinning = c.fx.spinning) : SendSafe writers c c' :=
  ⟨fun h => hwindow ▸ h, fun _ => hclean, fun _ => hspinning⟩

/-! ## The methods of the windows -/

theorem safe_check {a : Assertion} (b : Bool) (ha : ¬ SendAssertion a) :
    SendSafe writers c (c.check a b) :=
  .of_frame rfl (fun h => h.check (.inr ha)) (Effects.check_frame c.fx a b).2.2.2.1

theorem safe_setState (newState : SessionState) (c : Ctx ρ) :
    SendSafe writers c (c.setState newState) := .of_frame rfl id rfl

theorem safe_shutdown (reason : Result) (c : Ctx ρ) : SendSafe writers c (c.shutdown reason) :=
  .of_frame (Ctx.shutdown_frame reason c).1 id rfl

theorem safe_setReceive (w : ReceiveWindow kDefaultWindowSize) (c : Ctx ρ) :
    SendSafe writers c (c.setReceive w) := .of_frame rfl id rfl

theorem safe_updateSendWindowSize : SendSafe writers c (updateSendWindowSize m c) :=
  ⟨fun h => ⟨h.unacknowledged_le, h.sent_lt, h.next_le, h.filled, h.outstanding, h.slots,
    h.kinds⟩, fun _ => id, fun _ => rfl⟩

theorem safe_sendAckMessage : SendSafe writers c (sendAckMessage c).1 :=
  .of_frame (by simp) (fun h => clean_sendAckMessage h (.inr id)) (by simp)

theorem safe_writeMessageIntoReceiveWindow :
    SendSafe writers c (writeMessageIntoReceiveWindow m c) :=
  .of_frame (by simp) (fun h => clean_writeMessageIntoReceiveWindow h id id) (by simp)

theorem safe_receiveLocked (size : ℕ) (c : Ctx ρ) :
    SendSafe writers c (receiveLocked size c).1 := by
  have hcheck : ∀ (c : Ctx ρ) (a : Assertion) (b : Bool), ¬ SendAssertion a →
      SendSafe writers c (c.check a b) := fun c _ b ha => safe_check writers c b ha
  dsimp only [receiveLocked]
  split
  · split
    · exact (((hcheck c .receiveAvailable _ id).trans (hcheck _ .receiveSlot _ id)).trans
        (safe_setReceive _ _ _)).trans (hcheck _ .windowSize _ id)
    · exact ((((hcheck c .receiveAvailable _ id).trans (hcheck _ .receiveFin _ id)).trans
        (safe_setState _ _ _)).trans (safe_setReceive _ _ _)).trans (hcheck _ .windowSize _ id)
  · exact (hcheck c .receiveAvailable _ id).trans (safe_setReceive _ _ _)

theorem safe_markMessagesAsAcknowledged [RoundTripTime ρ] (n : ℕ) (c : Ctx ρ) :
    SendSafe writers c (markMessagesAsAcknowledged n c) where
  inv h := (marks_markMessagesAsAcknowledged n c h).inv writers h
  clean h hclean := hclean.of_eq (marks_markMessagesAsAcknowledged n c h).failedAsserts
  spinning h := (marks_markMessagesAsAcknowledged n c h).spinning

theorem safe_updateSendWindow [RoundTripTime ρ] :
    SendSafe writers c (updateSendWindow c) where
  inv h := (transmits_updateSendWindow c h).inv h
  clean h hclean := hclean.of_eq (transmits_updateSendWindow c h).failedAsserts
  spinning h := (transmits_updateSendWindow c h).spinning

theorem writeLocked_fx {writers : ℕ} (message : SessionMessage) (payloadSizeInBytes : ℕ)
    (pPayload : Option (List UInt8)) (c : Ctx ρ)
    (h : SendInv (writers + 1) c.session.sendWindow) :
    (writeLocked message payloadSizeInBytes pPayload c).fx =
      c.fx.check .writePayload (payloadMatches payloadSizeInBytes pPayload) := by
  have hfree := h.next_free
  have hslots := h.slots
  have hle := h.unacknowledged_le
  have hsent := h.sent_lt
  have hdistance : sub64 c.session.sendWindow.nextSequence
      c.session.sendWindow.nextUnacknowledgedSequence < kDefaultWindowSize := by
    rw [sub64_of_le (by omega)]
    omega
  simp [writeLocked, Ctx.setSend, Ctx.check, hfree, hdistance]

theorem inv_writeLocked {writers : ℕ} (payloadSizeInBytes : ℕ) (pPayload : Option (List UInt8))
    (c : Ctx ρ) (hkind : Filed message) (h : SendInv (writers + 1) c.session.sendWindow) :
    SendInv writers (writeLocked message payloadSizeInBytes pPayload c).session.sendWindow :=
  h.write rfl (by simpa [MessageBuffer.kind, sendMessage] using hkind)

theorem inv_writeMessageIntoSendWindow {writers : ℕ} (payloadSizeInBytes : ℕ)
    (pPayload : Option (List UInt8)) (c : Ctx ρ) (hkind : Filed message)
    (h : SendInv writers c.session.sendWindow) :
    SendInv writers
      (writeMessageIntoSendWindow message payloadSizeInBytes pPayload c).1.session.sendWindow := by
  dsimp only [writeMessageIntoSendWindow]
  split
  · split
    · split
      · rename_i hfree
        exact inv_writeLocked _ _ _ hkind (h.wait hfree)
      · exact h
    · exact h
  · exact h

theorem safe_writeMessageIntoSendWindow {payloadSizeInBytes : ℕ} {pPayload : Option (List UInt8)}
    (hkind : Filed message) (hp : payloadMatches payloadSizeInBytes pPayload = true) :
    SendSafe writers c
      (writeMessageIntoSendWindow message payloadSizeInBytes pPayload c).1 := by
  refine ⟨inv_writeMessageIntoSendWindow _ _ c hkind, fun h hclean => ?_, fun h => ?_⟩ <;>
  · dsimp only [writeMessageIntoSendWindow]
    split
    · split
      · split
        · rename_i hfree
          rw [writeLocked_fx _ _ _ _ (h.wait hfree), hp]
          first | exact hclean | rfl
        · first | exact hclean | rfl
      · first | exact hclean | rfl
    · first | exact hclean | rfl

/-! ## The message handlers -/

theorem safe_handleSynMessage : SendSafe writers c (handleSynMessage m c) := by
  have hcheck : ∀ b, SendSafe writers c (c.check .synServer b) := fun b =>
    safe_check writers c b id
  dsimp only [handleSynMessage]
  split
  · exact (((hcheck _).trans (safe_writeMessageIntoSendWindow _ _ (by decide) rfl)).trans
      (safe_setState _ _ _)).trans (safe_setReceive _ _ _)
  · exact ((hcheck _).trans (safe_writeMessageIntoSendWindow _ _ (by decide) rfl)).trans
      (safe_shutdown _ _ _)

theorem safe_handleSynAckMessage [RoundTripTime ρ] :
    SendSafe writers c (handleSynAckMessage m c) := by
  refine SendSafe.trans ?_ (safe_updateSendWindowSize writers m _)
  have hcheck : SendSafe writers c
      (c.check .synAckClient (c.session.sessionType = .client)) := safe_check writers c _ id
  refine hcheck.trans ?_
  split
  · exact safe_markMessagesAsAcknowledged writers _ _
  · exact safe_markMessagesAsAcknowledged writers _ _
  · exact safe_markMessagesAsAcknowledged writers _ _
  · exact safe_markMessagesAsAcknowledged writers _ _
  · have hadopt : ∀ c : Ctx ρ, SendSafe writers c
        { c with session := adoptSynAck m c.session } := fun _ => .of_frame rfl id rfl
    exact ((safe_markMessagesAsAcknowledged writers (SynAckPayload.decode m.payload).sequence
      _).trans (hadopt _)).trans (safe_sendAckMessage writers _)
  · exact .refl _ _

theorem safe_handleFinMessage : SendSafe writers c (handleFinMessage m c) := by
  have hclose : ∀ (newState : SessionState) (c : Ctx ρ),
      SendSafe writers c (c.closeGracefully newState) := fun _ _ => .of_frame rfl id rfl
  refine SendSafe.trans ?_ (safe_updateSendWindowSize writers m _)
  split
  · exact (safe_writeMessageIntoReceiveWindow writers m c).trans (hclose _ _)
  · split
    · exact ((safe_writeMessageIntoReceiveWindow writers m c).trans
        (safe_sendAckMessage writers _)).trans (hclose _ _)
    · exact .refl _ _

theorem safe_handleDataMessage : SendSafe writers c (handleDataMessage m c) := by
  refine SendSafe.trans ?_ (safe_updateSendWindowSize writers m _)
  split
  · exact safe_writeMessageIntoReceiveWindow writers m c
  · exact safe_writeMessageIntoReceiveWindow writers m c
  · exact safe_writeMessageIntoReceiveWindow writers m c
  · exact .refl _ _

theorem safe_handleAckMessage [RoundTripTime ρ] : SendSafe writers c (handleAckMessage m c) := by
  refine SendSafe.trans ?_ (safe_updateSendWindowSize writers m _)
  split
  · exact (safe_setState writers _ c).trans (safe_markMessagesAsAcknowledged writers _ _)
  · exact safe_markMessagesAsAcknowledged writers _ _
  · exact safe_markMessagesAsAcknowledged writers _ _
  · exact safe_markMessagesAsAcknowledged writers _ _
  · exact safe_markMessagesAsAcknowledged writers _ _
  · exact .refl _ _

theorem safe_handleRstMessage : SendSafe writers c (handleRstMessage m c) :=
  (safe_shutdown writers _ c).trans (safe_updateSendWindowSize writers m _)

theorem safe_dispatchMessage [RoundTripTime ρ] : SendSafe writers c (dispatchMessage m c) := by
  unfold dispatchMessage
  split
  · exact safe_handleSynMessage writers m c
  · exact safe_handleSynAckMessage writers m c
  · exact safe_handleFinMessage writers m c
  · exact safe_handleDataMessage writers m c
  · exact safe_handleAckMessage writers m c
  · exact safe_handleRstMessage writers m c
  · exact safe_check writers c _ id

theorem safe_callback (cb : Callback) (newState : SessionCallbackState) (c : Ctx ρ) :
    SendSafe writers c (c.callback cb newState) := .of_frame rfl id rfl

theorem safe_enterEstablished : SendSafe writers c (enterEstablished pSession c) := by
  unfold enterEstablished
  split
  · exact .of_frame rfl id rfl
  · split
    · exact safe_check writers c _ id
    · have hcheck : SendSafe writers c
          (c.check .establishedCallback (c.session.callbackState = .none)) :=
        safe_check writers c _ id
      exact hcheck.trans (safe_callback writers _ _ _)

theorem safe_handleMessage [RoundTripTime ρ] : SendSafe writers c (handleMessage pSession m c) := by
  dsimp only [handleMessage]
  split
  · exact (safe_dispatchMessage writers m c).trans (safe_enterEstablished writers pSession _)
  · exact safe_dispatchMessage writers m c

theorem safe_updateReceiveWindow : SendSafe writers c (updateReceiveWindow c) := by
  unfold updateReceiveWindow
  split
  · exact safe_sendAckMessage writers c
  · exact .refl _ _

theorem safe_updateFinWait1 : SendSafe writers c (updateFinWait1 c) := by
  dsimp only [updateFinWait1]
  split
  · split
    · exact (safe_writeMessageIntoSendWindow writers c (by decide) rfl).trans (safe_setState _ _ _)
    · exact safe_writeMessageIntoSendWindow writers c (by decide) rfl
  · exact .refl _ _

theorem safe_updateFinWait2 : SendSafe writers c (updateFinWait2 c) := by
  unfold updateFinWait2
  split
  · exact safe_setState writers _ c
  · exact .refl _ _

theorem safe_updateClosing : SendSafe writers c (updateClosing c) := by
  dsimp only [updateClosing]
  split
  · split
    · exact safe_setState writers _ c
    · exact .refl _ _
  · exact .refl _ _

theorem safe_closeUnreferenced (lastReference : Bool) (c : Ctx ρ) :
    SendSafe writers c (closeUnreferenced lastReference c) := by
  unfold closeUnreferenced
  split
  · exact safe_shutdown writers _ c
  · exact .refl _ _

theorem safe_updateTerminated : SendSafe writers c (updateTerminated pSession c) := by
  unfold updateTerminated
  split
  · split
    · exact safe_check writers c _ id
    · exact safe_callback writers _ _ c
  · exact .refl _ _

theorem safe_signalDisconnection : SendSafe writers c (signalDisconnection c) := by
  unfold signalDisconnection
  split
  · exact .of_frame rfl id rfl
  · exact .refl _ _

theorem safe_updateEstablished_nil : SendSafe writers c (updateEstablished pSession [] c) := by
  unfold updateEstablished
  split
  · have hcheck : SendSafe writers c
        (c.check .updateCallback (c.session.callbackState = .establishedCalled)) :=
      safe_check writers c _ id
    refine hcheck.trans ?_
    dsimp only
    split
    · exact safe_check writers _ _ id
    · exact safe_callback writers _ _ _
  · exact .refl _ _

theorem safe_updateCallbacks_nil (lastReference : Bool) (c : Ctx ρ) :
    SendSafe writers c (updateCallbacks pSession lastReference [] c) :=
  (((safe_closeUnreferenced writers lastReference c).trans
    (safe_updateEstablished_nil writers pSession _)).trans
    (safe_updateTerminated writers pSession _)).trans (safe_signalDisconnection writers _)

theorem safe_handleUnregisterProtocolServer (pServer : ServerRef) (protocol : Protocol)
    (c : Ctx ρ) :
    SendSafe writers c (handleUnregisterProtocolServer pSession pServer protocol c) := by
  refine SendSafe.trans ?_ (safe_shutdown writers _ _)
  have htype : SendSafe writers c
      (c.check .unregisterType (c.session.sessionType = .server)) := safe_check writers c _ id
  have hprotocol : ∀ c : Ctx ρ, SendSafe writers c
      (c.check .unregisterProtocol (protocol = c.session.protocol)) := fun c =>
    safe_check writers c _ id
  refine htype.trans ((hprotocol _).trans ?_)
  split
  · exact safe_callback writers _ _ _
  · exact .refl _ _

/-! ## Runs of an endpoint -/

/-- The step is the locked section of a `Send` whose pointer does not match its size. -/
def MismatchedSend (e : Endpoint ρ) (op : Operation) : Prop :=
  ∃ k call, op = .sendWrite k ∧ e.writers[k]? = some call ∧
    payloadMatches call.payloadSizeInBytes call.pPayload = false

structure SendStep (e : Endpoint ρ) (op : Operation) (e' : Endpoint ρ) (o : Outcome) :
    Prop where
  inv : SendInv e'.writers.length e'.session.sendWindow
  failed : ∀ a ∈ o.fx.failedAsserts, SendAssertion a → a = .writePayload
  writePayload : .writePayload ∈ o.fx.failedAsserts ↔ MismatchedSend e op
  ends : o.fx.spinning = false

variable {op : Operation}

theorem SendStep.of_clean {e' : Endpoint ρ} {o : Outcome}
    (hinv : SendInv e'.writers.length e'.session.sendWindow) (hclean : Clean SendAssertion o.fx)
    (hends : o.fx.spinning = false) (hop : ∀ k, op ≠ .sendWrite k) : SendStep e op e' o where
  inv := hinv
  failed a ha hsend := absurd hsend (hclean a ha)
  writePayload := by
    constructor
    · exact fun ha => absurd trivial (hclean _ ha)
    · rintro ⟨k, call, rfl, -⟩
      exact absurd rfl (hop k)
  ends := hends

theorem clean_start (A : Assertion → Prop) (env : Surroundings) : Clean A env.start := by
  intro a ha
  cases ha

variable {env : Surroundings}

theorem sendStep_run {f : Ctx ρ → Ctx ρ} (hinv : SendInv e.writers.length e.session.sendWindow)
    (hsafe : ∀ c, SendSafe e.writers.length c (f c)) (hop : ∀ k, op ≠ .sendWrite k) :
    SendStep e op (e.run f env.start).1 (e.run f env.start).2 :=
  .of_clean ((hsafe ⟨e.session, env.start⟩).inv hinv)
    ((hsafe ⟨e.session, env.start⟩).clean hinv (clean_start _ env))
    ((hsafe ⟨e.session, env.start⟩).spinning hinv) hop

theorem sendStep_write {k : ℕ} {call : SendCall}
    (hinv : SendInv e.writers.length e.session.sendWindow) (hk : e.writers[k]? = some call) :
    SendStep e (.sendWrite k) (e.write k call env.start).1 (e.write k call env.start).2 := by
  obtain ⟨hlt, -⟩ := List.getElem?_eq_some_iff.mp hk
  have hlength : e.writers.length = (e.writers.eraseIdx k).length + 1 := by
    rw [List.length_eraseIdx_of_lt hlt]
    omega
  rw [hlength] at hinv
  have hfx := writeLocked_fx .data call.payloadSizeInBytes call.pPayload
    ⟨e.session, env.start⟩ hinv
  have hmismatched : MismatchedSend e (.sendWrite k) ↔
      payloadMatches call.payloadSizeInBytes call.pPayload = false := by
    constructor
    · rintro ⟨k', call', hop, hk', hp⟩
      obtain rfl : k = k' := by injection hop
      obtain rfl : call = call' := by simpa [hk] using hk'
      exact hp
    · exact fun hp => ⟨k, call, rfl, hk, hp⟩
  constructor
  · exact inv_writeLocked _ _ _ (by decide) hinv
  · intro a ha _
    simp only [write, hfx, Effects.check] at ha
    split at ha
    · cases ha
    · exact List.mem_singleton.mp ha
  · rw [hmismatched]
    simp only [write, hfx, Effects.check]
    cases payloadMatches call.payloadSizeInBytes call.pPayload <;>
      simp [Surroundings.start, Effects.start]
  · simp only [write, hfx]
    exact (Effects.check_frame _ _ _).2.2.2.1

theorem sendStep_perform [RoundTripTime ρ] {e' : Endpoint ρ} {o : Outcome}
    (hinv : SendInv e.writers.length e.session.sendWindow)
    (h : e.perform op env.start = some (e', o)) : SendStep e op e' o := by
  have hclean := clean_start SendAssertion env
  cases op with
  | sendWrite k =>
    simp only [perform] at h
    split at h
    · cases h
    · rename_i call hk
      cases h
      exact sendStep_write hinv hk
  | sendWait k =>
    simp only [perform] at h
    split at h
    · cases h
    · obtain ⟨hfree, ⟨⟩⟩ := Option.ite_none_right_eq_some.mp h
      exact .of_clean (hinv.wait hfree) hclean rfl (by simp)
  | handleMessage m =>
    obtain ⟨-, ⟨⟩⟩ := Option.ite_none_right_eq_some.mp h
    exact sendStep_run hinv (fun c => safe_handleMessage _ 0 m c) (by simp)
  | receiveRead size =>
    obtain ⟨-, ⟨⟩⟩ := Option.ite_none_right_eq_some.mp h
    have hsafe := safe_receiveLocked e.writers.length size ⟨e.session, env.start⟩
    exact .of_clean (hsafe.inv hinv) (hsafe.clean hinv hclean) (hsafe.spinning hinv) (by simp)
  | updateReceiveWindow => cases h; exact sendStep_run hinv (safe_updateReceiveWindow _) (by simp)
  | updateSendWindow =>
    cases h
    exact sendStep_run hinv (fun c => safe_updateSendWindow _ c) (by simp)
  | updateFinWait1 =>
    cases h
    have hsafe := safe_updateFinWait1 e.writers.length ⟨e.session, env.start⟩
    exact .of_clean (hsafe.inv hinv) (hsafe.clean hinv hclean) (hsafe.spinning hinv) (by simp)
  | updateFinWait2 => cases h; exact sendStep_run hinv (safe_updateFinWait2 _) (by simp)
  | updateClosing => cases h; exact sendStep_run hinv (safe_updateClosing _) (by simp)
  | updateCallbacks lastReference =>
    cases h
    exact sendStep_run hinv (safe_updateCallbacks_nil _ 0 lastReference) (by simp)
  | shutdown reason => cases h; exact sendStep_run hinv (safe_shutdown _ reason) (by simp)
  | unregisterProtocolServer pServer =>
    cases h
    exact sendStep_run hinv (safe_handleUnregisterProtocolServer _ 0 pServer _) (by simp)
  | send call | sendTimeout k | receive | receiveTimeout | receiveWait =>
    obtain ⟨-, ⟨⟩⟩ := Option.ite_none_right_eq_some.mp h
    exact .of_clean hinv hclean rfl (by simp)
  | receiveCheck =>
    obtain ⟨-, h⟩ := Option.ite_none_right_eq_some.mp h
    split at h <;> cases h <;> exact .of_clean hinv hclean rfl (by simp)

theorem inv_opened [RoundTripTime ρ] {s : Session ρ} (h : Opened ρ s) :
    SendInv 0 s.sendWindow := by
  cases h with
  | client clientId remoteClientId protocol sessionId minVersion maxVersion _ _ =>
    have hwrite := fun (c : Ctx ρ) (h : SendInv 0 c.session.sendWindow) =>
      inv_writeMessageIntoSendWindow kSynPayloadSize
        (some (SynPayload.encode ⟨minVersion, protocol, kSessionProtocolVersion, maxVersion⟩)) c
        (show Filed .syn by decide) h
    dsimp only [openClient, connect]
    split
    · split
      · exact hwrite _ sendInv_new
      · exact hwrite _ sendInv_new
    · exact sendInv_new
  | server clientId protocol version sessionId m env _ _ _ =>
    refine (safe_handleMessage 0 0 m _).inv ?_
    dsimp only [openServer, bindToServer]
    split <;> exact sendInv_new

theorem inv_reachable [RoundTripTime ρ] (he : (sessionMachine ρ).Reachable e) :
    SendInv e.writers.length e.session.sendWindow := by
  refine he.invariant (P := fun e => SendInv e.writers.length e.session.sendWindow) ?_ ?_
  · rintro _ ⟨s, hs, rfl⟩
    exact inv_opened hs
  · intro e e' a o _ hinv h
    exact (sendStep_perform hinv h).inv

/-- In every reachable state the send window has its shape, and no step from it breaks an
assertion of the window's methods, except that a `Send` whose payload pointer does not match
its size breaks the one about the arguments.  No transmit loop runs forever. -/
theorem send_window_representation [RoundTripTime ρ] {e : Endpoint ρ}
    (he : (sessionMachine ρ).Reachable e) :
    SendInv e.writers.length e.session.sendWindow ∧
      ∀ (op : Operation) (env : Surroundings) (e' : Endpoint ρ) (o : Outcome),
        e.perform op env.start = some (e', o) →
        (∀ a ∈ o.fx.failedAsserts, SendAssertion a → a = .writePayload) ∧
        (.writePayload ∈ o.fx.failedAsserts ↔ MismatchedSend e op) ∧
        o.fx.spinning = false := by
  refine ⟨inv_reachable he, fun op env e' o h => ?_⟩
  have hstep := sendStep_perform (inv_reachable he) h
  exact ⟨hstep.failed, hstep.writePayload, hstep.ends⟩

def calm : Surroundings := ⟨[], [], fun _ => none⟩

def connectedClient : Endpoint ℚ := .idle (openClient ℚ 1 2 5 1 0 0)

theorem reachable_connectedClient : (sessionMachine ℚ).Reachable connectedClient :=
  .init ⟨_, .client 1 2 5 1 0 0 (by decide) (by decide), rfl⟩

def sendSteps (call : SendCall) : List (Operation × Surroundings) :=
  [(.send call, calm), (.sendWait 0, calm)]

theorem send_window_representation_sent : ∃ e : Endpoint ℚ,
    e.session.sendWindow.nextSequence = 3 ∧ e.session.sendWindow.lastSentSequence = 1 ∧
      SendInv e.writers.length e.session.sendWindow := by
  obtain ⟨e, he, hp⟩ := reachable_connectedClient.exists_of_run
    (sendSteps ⟨1, some [7]⟩ ++ [(.sendWrite 0, calm), (.updateSendWindow, calm)])
    (fun e => e.session.sendWindow.nextSequence = 3 ∧
      e.session.sendWindow.lastSentSequence = 1) (by decide +kernel)
  obtain ⟨hnext, hsent⟩ := of_decide_eq_true hp
  exact ⟨e, hnext, hsent, (send_window_representation he).1⟩

/-- A `Send` of no bytes from a pointer that is not null breaks an assertion of
`WriteMessageIntoSendWindow`. -/
theorem send_window_assertion_fails : ∃ (e e' : Endpoint ℚ) (o : Outcome),
    (sessionMachine ℚ).Reachable e ∧
      e.perform (.sendWrite 0) calm.start = some (e', o) ∧
      .writePayload ∈ o.fx.failedAsserts := by
  obtain ⟨e, he, hp⟩ := reachable_connectedClient.exists_of_run
    (sendSteps ⟨0, some []⟩)
    (fun e => (e.perform (.sendWrite 0) calm.start).any
      fun r => r.2.fx.failedAsserts = [.writePayload]) (by decide +kernel)
  obtain ⟨⟨e', o⟩, hstep, ho⟩ := (Option.any_eq_true _ _).mp hp
  have ho : o.fx.failedAsserts = [.writePayload] := of_decide_eq_true ho
  exact ⟨e, e', o, he, hstep, by simp [ho]⟩

end DevDriver.Analysis
