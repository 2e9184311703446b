import DevDriver.Analysis.ReceiveWindow
import DevDriver.Analysis.SendInvariant

/-!
# Every session method keeps the receive window's invariant

Over the invariant of the window, `Receives` says how the window goes with the session state: a
session that has only sent its Syn has received nothing, a Fin is only filed by a session that
closes, and in a session that is not Closed no message was claimed by a reader that left without it.
-/

namespace DevDriver.Analysis

open Library Model ReceiveWindow

variable {ρ : Type}

/-! ## The invariant of the session -/

structure Receives (readers : ℕ) (s : Session ρ) : Prop where
  /-- `lost` counts the messages whose reader found the session closed -/
  window : ∃ lost, (s.sessionState ≠ .closed → lost = 0) ∧
    RecvInv (readers + lost) s.receiveWindow
  synSent : s.sessionState = .synSent → s.receiveWindow.nextUnreadSequence = 1 ∧
    s.receiveWindow.nextExpectedSequence = 1 ∧ ∀ i, s.receiveWindow.valid i = false
  fin : ∀ i, s.receiveWindow.valid i = true → (s.receiveWindow.messages i).kind = .fin →
    s.sessionState = .closing ∨ s.sessionState = .closed

/-- The assertions of `WriteMessageIntoReceiveWindow`, `CalculateCurrentWindowSize` and
`Receive`. -/
def ReceiveAssertion : Assertion → Prop
  | .receiveScan | .windowSize | .receiveAvailable | .receiveSlot | .receiveFin => True
  | _ => False

structure RecvSafe (readers : ℕ) (c c' : Ctx ρ) : Prop where
  inv : Receives readers c.session → Receives readers c'.session
  clean : Receives readers c.session → Clean ReceiveAssertion c.fx →
    Clean ReceiveAssertion c'.fx

variable {writers : ℕ} (readers : ℕ)

theorem RecvSafe.refl (c : Ctx ρ) : RecvSafe readers c c := ⟨id, fun _ => id⟩

variable {c : Ctx ρ}

theorem RecvSafe.trans {readers : ℕ} {a b : Ctx ρ} (hab : RecvSafe readers a b)
    (hbc : RecvSafe readers b c) : RecvSafe readers a c where
  inv h := hbc.inv (hab.inv h)
  clean h hclean := hbc.clean (hab.inv h) (hab.clean h hclean)

/-- A change of state that keeps closed sessions closed and closing ones closing, and leads
to SynSent from nowhere. -/
structure Advances (state state' : SessionState) : Prop where
  closed : state' ≠ .closed → state ≠ .closed
  synSent : state' = .synSent → state = .synSent
  closing : state = .closing ∨ state = .closed → state' = .closing ∨ state' = .closed

theorem Advances.refl (state : SessionState) : Advances state state := ⟨id, id, id⟩

theorem Advances.closes (state : SessionState) : Advances state .closed :=
  ⟨fun h => absurd rfl h, nofun, fun _ => .inr rfl⟩

theorem Quiet.advances {c' : Ctx ρ} (h : Quiet c c') :
    Advances c.session.sessionState c'.session.sessionState := by
  rcases h.state with h | h
  · rw [h]
    exact .refl _
  · rw [h]
    exact .closes _

theorem advances_shutdownState (reason : Result) (state : SessionState) :
    Advances state (shutdownState reason state) := by
  by_cases h : reason = .success
  · subst h
    cases state <;> exact ⟨by simp [shutdownState], by simp [shutdownState], by
      simp [shutdownState]⟩
  · rw [shutdownState_of_ne h]
    exact .closes _

theorem Receives.advance {readers : ℕ} {s s' : Session ρ} (h : Receives readers s)
    (hwindow : s'.receiveWindow = s.receiveWindow)
    (hstate : Advances s.sessionState s'.sessionState) : Receives readers s' where
  window := by
    obtain ⟨lost, hlost, hinv⟩ := h.window
    rw [hwindow]
    exact ⟨lost, fun hne => hlost (hstate.closed hne), hinv⟩
  synSent hs := by
    rw [hwindow]
    exact h.synSent (hstate.synSent hs)
  fin i hi hkind := by
    rw [hwindow] at hi hkind
    exact hstate.closing (h.fin i hi hkind)

theorem RecvSafe.of_frame {readers : ℕ} {c' : Ctx ρ}
    (hwindow : c'.session.receiveWindow = c.session.receiveWindow)
    (hstate : Advances c.session.sessionState c'.session.sessionState)
    (hclean : Clean ReceiveAssertion c.fx → Clean ReceiveAssertion c'.fx) :
    RecvSafe readers c c' :=
  ⟨fun h => h.advance hwindow hstate, fun _ => hclean⟩

theorem recvSafe_check (c : Ctx ρ) {a : Assertion} (b : Bool) (ha : ¬ ReceiveAssertion a) :
    RecvSafe readers c (c.check a b) :=
  .of_frame rfl (.refl _) fun h => h.check (.inr ha)

theorem recvSafe_setState {newState : SessionState} (h : Advances c.session.sessionState newState) :
    RecvSafe readers c (c.setState newState) := .of_frame rfl h id

theorem recvSafe_shutdown (reason : Result) (c : Ctx ρ) : RecvSafe readers c (c.shutdown reason) :=
  .of_frame (by simp) (by simpa using advances_shutdownState reason c.session.sessionState) id

theorem recvSafe_updateSendWindowSize (m : MessageBuffer) (c : Ctx ρ) :
    RecvSafe readers c (updateSendWindowSize m c) := .of_frame rfl (.refl _) id

theorem recvSafe_callback (cb : Callback) (newState : SessionCallbackState) (c : Ctx ρ) :
    RecvSafe readers c (c.callback cb newState) := .of_frame rfl (.refl _) id

theorem recvSafe_markMessagesAsAcknowledged [RoundTripTime ρ] (n : ℕ) (c : Ctx ρ)
    (h : SendInv writers c.session.sendWindow) :
    RecvSafe readers c (markMessagesAsAcknowledged n c) :=
  have hm := marks_markMessagesAsAcknowledged n c h
  .of_frame hm.receiveWindow hm.quiet.advances fun hclean => hclean.of_eq hm.failedAsserts

theorem recvSafe_updateSendWindow [RoundTripTime ρ] (c : Ctx ρ)
    (h : SendInv writers c.session.sendWindow) : RecvSafe readers c (updateSendWindow c) :=
  have ht := transmits_updateSendWindow c h
  .of_frame ht.receiveWindow ht.quiet.advances fun hclean => hclean.of_eq ht.failedAsserts

variable (pSession : SessionRef) (message : SessionMessage) (payloadSizeInBytes : ℕ)
    (pPayload : Option (List UInt8))

theorem recvSafe_writeLocked (c : Ctx ρ) :
    RecvSafe readers c (writeLocked message payloadSizeInBytes pPayload c) :=
  .of_frame rfl (.refl _) fun h =>
    ((h.check (.inr id)).check (.inr id)).check (.inr id)

theorem recvSafe_writeMessageIntoSendWindow (c : Ctx ρ) :
    RecvSafe readers c
      (writeMessageIntoSendWindow message payloadSizeInBytes pPayload c).1 := by
  have hwait : RecvSafe readers c (c.setSend c.session.sendWindow.wait) :=
    .of_frame rfl (.refl _) id
  dsimp only [writeMessageIntoSendWindow]
  split
  · split
    · split
      · exact hwait.trans (recvSafe_writeLocked readers _ _ _ _)
      · exact .refl _ _
    · exact .refl _ _
  · exact .refl _ _

theorem recvSafe_sendAckMessage (c : Ctx ρ) :
    RecvSafe readers c (sendAckMessage c).1 where
  inv h := by
    have hwindow := (sendAckMessage_frame c).2.1
    have hstate := (quiet_sendAckMessage c).advances
    obtain ⟨lost, hlost, hinv⟩ := h.window
    refine ⟨⟨lost, fun hne => hlost (hstate.closed hne), ?_⟩, fun hs => ?_, fun i hi hkind => ?_⟩
    · rw [hwindow]
      exact hinv.acknowledged
    · rw [hwindow]
      exact h.synSent (hstate.synSent hs)
    · rw [hwindow] at hi hkind
      exact hstate.closing (h.fin i hi hkind)
  clean h hclean := by
    obtain ⟨lost, -, hinv⟩ := h.window
    exact clean_sendAckMessage hclean (.inl hinv.unread_le)

structure Files (m : MessageBuffer) (w w' : ReceiveWindow kDefaultWindowSize) : Prop where
  unread : w'.nextUnreadSequence = w.nextUnreadSequence
  messages : ∀ i, w'.valid i = true → (w.valid i = true ∧ w'.messages i = w.messages i) ∨
    ((m.kind = .data ∨ m.kind = .fin) ∧ (w'.messages i).header = m.header ∧
      (w'.messages i).bytes = m.bytes)

variable {m : MessageBuffer}

theorem Files.of_eq {w w' : ReceiveWindow kDefaultWindowSize}
    (hunread : w'.nextUnreadSequence = w.nextUnreadSequence) (hvalid : w'.valid = w.valid)
    (hmessages : w'.messages = w.messages) : Files m w w' :=
  ⟨hunread, fun i hi => .inl ⟨hvalid ▸ hi, congrFun hmessages i⟩⟩

theorem files_accept (hkind : m.kind = .data ∨ m.kind = .fin)
    (w : ReceiveWindow kDefaultWindowSize) : Files m w (w.accept m) where
  unread := rfl
  messages i hi := by
    rcases eq_or_ne i (slot _ m.header.sequence) with rfl | hne
    · refine .inr ⟨hkind, ?_⟩
      simp [accept, advance, store,
        MessageBuffer.bytes, readBytes_memcpyPayload]
    · refine .inl ?_
      simpa [accept, advance, store, hne] using hi

theorem writeMessageIntoReceiveWindow_spec {taken : ℕ} (h : RecvInv taken c.session.receiveWindow)
    (hkind : m.kind = .data ∨ m.kind = .fin) :
    RecvInv taken (writeMessageIntoReceiveWindow m c).session.receiveWindow ∧
      Files m c.session.receiveWindow
        (writeMessageIntoReceiveWindow m c).session.receiveWindow ∧
      (Clean ReceiveAssertion c.fx →
        Clean ReceiveAssertion (writeMessageIntoReceiveWindow m c).fx) := by
  have hsame : Files m c.session.receiveWindow c.session.receiveWindow := .of_eq rfl rfl rfl
  have hunread := h.unread_le
  have hscan : c.session.receiveWindow.scanAssertion (c.session.receiveWindow.accept m) =
      true := by
    simp only [scanAssertion, decide_eq_true_eq]
    omega
  dsimp only [writeMessageIntoReceiveWindow]
  rw [hscan]
  split
  · split
    · rename_i hle
      rw [sub64_of_le (by omega)]
      split
      · rename_i hwindow
        obtain ⟨hinv, -⟩ := h.accept hkind hle (by omega)
        have hfiles := files_accept hkind c.session.receiveWindow
        split
        · rw [(sendAckMessage_frame _).2.1]
          exact ⟨hinv.acknowledged, ⟨hfiles.unread, hfiles.messages⟩,
            fun hclean => clean_sendAckMessage hclean (.inl hinv.unread_le)⟩
        · exact ⟨hinv, hfiles, id⟩
      · exact ⟨h, hsame, id⟩
    · rw [(sendAckMessage_frame _).2.1]
      exact ⟨h.acknowledged, ⟨rfl, hsame.messages⟩,
        fun hclean => clean_sendAckMessage hclean (.inl h.unread_le)⟩
  · exact ⟨h, hsame, id⟩

theorem Files.fin {w w' : ReceiveWindow kDefaultWindowSize} (h : Files m w w')
    {i : Fin kDefaultWindowSize} (hi : w'.valid i = true) (hkind : (w'.messages i).kind = .fin) :
    (w.valid i = true ∧ (w.messages i).kind = .fin) ∨ m.kind = .fin := by
  rcases h.messages i hi with ⟨hvalid, he⟩ | ⟨-, he, -⟩
  · exact .inl ⟨hvalid, he ▸ hkind⟩
  · right
    rw [← hkind]
    simp [MessageBuffer.kind, he]

/-! ## The message handlers -/

theorem recvSafe_handleDataMessage (hkind : m.kind = .data) :
    RecvSafe readers c (handleDataMessage m c) := by
  refine RecvSafe.trans ?_ (recvSafe_updateSendWindowSize readers m _)
  have hfile : c.session.sessionState ≠ .synSent → c.session.sessionState ≠ .closed →
      RecvSafe readers c (writeMessageIntoReceiveWindow m c) := by
    intro hsynSent hclosed
    have hstate := (quiet_writeMessageIntoReceiveWindow m c).advances
    refine ⟨fun h => ?_, fun h hclean => ?_⟩
    · obtain ⟨lost, hlost, hinv⟩ := h.window
      obtain ⟨hinv', hfiles, -⟩ := writeMessageIntoReceiveWindow_spec hinv (.inl hkind)
      refine ⟨⟨lost, fun _ => hlost hclosed, hinv'⟩, fun hs => ?_, fun i hi hfin => ?_⟩
      · exact absurd (hstate.synSent hs) hsynSent
      · rcases hfiles.fin hi hfin with ⟨hvalid, hfin⟩ | hfin
        · exact hstate.closing (h.fin i hvalid hfin)
        · rw [hkind] at hfin
          cases hfin
    · obtain ⟨lost, -, hinv⟩ := h.window
      exact (writeMessageIntoReceiveWindow_spec hinv (.inl hkind)).2.2 hclean
  split
  · rename_i hs
    exact hfile (by simp [hs]) (by simp [hs])
  · rename_i hs
    exact hfile (by simp [hs]) (by simp [hs])
  · rename_i hs
    exact hfile (by simp [hs]) (by simp [hs])
  · exact .refl _ _

theorem recvSafe_handleFinMessage (hkind : m.kind = .fin)
    (hopen : c.session.sessionState ≠ .closed) : RecvSafe readers c (handleFinMessage m c) := by
  refine RecvSafe.trans ?_ (recvSafe_updateSendWindowSize readers m _)
  -- the session ends up closing or closed, so only the window and the count are at stake
  have hclose : ∀ (newState : SessionState) (w : ReceiveWindow kDefaultWindowSize) (c' : Ctx ρ),
      c'.session.receiveWindow = w → newState = .closing ∨ newState = .closed →
      (∀ taken, RecvInv taken c.session.receiveWindow → RecvInv taken w) →
      Receives readers c.session → Receives readers (c'.closeGracefully newState).session := by
    rintro newState w c' rfl hnew hinv h
    obtain ⟨lost, hlost, hw⟩ := h.window
    refine ⟨⟨lost, fun _ => hlost hopen, hinv _ hw⟩, fun hs => ?_, fun _ _ _ => hnew⟩
    have hs : newState = .synSent := hs
    rcases hnew with rfl | rfl <;> cases hs
  have hfile : ∀ taken, RecvInv taken c.session.receiveWindow →
      RecvInv taken (writeMessageIntoReceiveWindow m c).session.receiveWindow :=
    fun _ hw => (writeMessageIntoReceiveWindow_spec hw (.inr hkind)).1
  have hclean : Receives readers c.session → Clean ReceiveAssertion c.fx →
      Clean ReceiveAssertion (writeMessageIntoReceiveWindow m c).fx := by
    intro h hclean
    obtain ⟨lost, -, hw⟩ := h.window
    exact (writeMessageIntoReceiveWindow_spec hw (.inr hkind)).2.2 hclean
  split
  · exact ⟨hclose .closing _ _ rfl (.inl rfl) hfile, hclean⟩
  · split
    · refine ⟨hclose .closed _ _ rfl (.inr rfl) ?_, fun h hc => ?_⟩
      · rw [(sendAckMessage_frame _).2.1]
        exact fun taken hw => (hfile taken hw).acknowledged
      · obtain ⟨lost, -, hw⟩ := h.window
        exact clean_sendAckMessage (hclean h hc) (.inl (hfile _ hw).unread_le)
    · exact .refl _ _

theorem recvSafe_handleAckMessage [RoundTripTime ρ] (m : MessageBuffer)
    (h : SendInv writers c.session.sendWindow) : RecvSafe readers c (handleAckMessage m c) := by
  refine RecvSafe.trans ?_ (recvSafe_updateSendWindowSize readers m _)
  have hmark : ∀ c' : Ctx ρ, c'.session.sendWindow = c.session.sendWindow →
      RecvSafe readers c' (markMessagesAsAcknowledged m.header.sequence c') := fun c' hc' =>
    recvSafe_markMessagesAsAcknowledged readers _ c' (hc' ▸ h)
  split
  · rename_i hs
    have hstate : Advances c.session.sessionState .established := by
      rw [hs]
      exact ⟨by simp, by simp, by simp⟩
    exact (recvSafe_setState readers hstate).trans (hmark _ rfl)
  · exact hmark c rfl
  · exact hmark c rfl
  · exact hmark c rfl
  · exact hmark c rfl
  · exact .refl _ _

theorem Receives.adoptSynAck {readers : ℕ} {s s' : Session ρ} (h : Receives readers s)
    (hs : s.sessionState = .synSent) (hwindow : s'.receiveWindow = s.receiveWindow)
    (m : MessageBuffer) : Receives readers (adoptSynAck m s') where
  window := by
    obtain ⟨lost, hlost, hinv⟩ := h.window
    obtain ⟨hunread, hexpected, hvalid⟩ := h.synSent hs
    refine ⟨lost, fun _ => hlost (by simp [hs]), ?_⟩
    simp only [Model.adoptSynAck, hwindow]
    exact hinv.reset (by rw [hunread, hexpected]) hvalid _
  synSent hs' := by cases hs'
  fin i hi := by
    obtain ⟨-, -, hvalid⟩ := h.synSent hs
    have hi : s.receiveWindow.valid i = true := by
      simpa [Model.adoptSynAck, hwindow, reset] using hi
    rw [hvalid i] at hi
    cases hi

theorem recvSafe_handleSynAckMessage [RoundTripTime ρ] (m : MessageBuffer)
    (h : SendInv writers c.session.sendWindow) : RecvSafe readers c (handleSynAckMessage m c) := by
  refine RecvSafe.trans ?_ (recvSafe_updateSendWindowSize readers m _)
  have hcheck : RecvSafe readers c
      (c.check .synAckClient (c.session.sessionType = .client)) := recvSafe_check readers c _ id
  refine hcheck.trans ?_
  set c₀ := c.check .synAckClient (c.session.sessionType = .client)
  have hmark : ∀ n, RecvSafe readers c₀ (markMessagesAsAcknowledged n c₀) := fun n =>
    recvSafe_markMessagesAsAcknowledged readers n c₀ h
  split
  · exact hmark _
  · exact hmark _
  · exact hmark _
  · exact hmark _
  · rename_i hs
    set n := (SynAckPayload.decode m.payload).sequence
    have hmarks := marks_markMessagesAsAcknowledged n c₀ h
    have hadopt : RecvSafe readers c₀
        { markMessagesAsAcknowledged n c₀ with
          session := adoptSynAck m (markMessagesAsAcknowledged n c₀).session } :=
      ⟨fun hr => hr.adoptSynAck hs hmarks.receiveWindow m, fun hr => (hmark n).clean hr⟩
    exact hadopt.trans (recvSafe_sendAckMessage readers _)
  · exact .refl _ _

theorem recvSafe_handleRstMessage (m : MessageBuffer) (c : Ctx ρ) :
    RecvSafe readers c (handleRstMessage m c) :=
  (recvSafe_shutdown readers _ c).trans (recvSafe_updateSendWindowSize readers m _)

theorem recvSafe_enterEstablished (c : Ctx ρ) :
    RecvSafe readers c (enterEstablished pSession c) := by
  unfold enterEstablished
  split
  · exact .of_frame rfl (.refl _) id
  · split
    · exact recvSafe_check readers c _ id
    · have hcheck : RecvSafe readers c
          (c.check .establishedCallback (c.session.callbackState = .none)) :=
        recvSafe_check readers c _ id
      exact hcheck.trans (recvSafe_callback readers _ _ _)

theorem recvSafe_handleMessage [RoundTripTime ρ] (hm : mayHandle m c.session.sessionState = true)
    (h : SendInv writers c.session.sendWindow) :
    RecvSafe readers c (handleMessage pSession m c) := by
  have hdispatch : RecvSafe readers c (dispatchMessage m c) := by
    unfold dispatchMessage
    split
    · rename_i hkind
      simp [mayHandle, hkind] at hm
    · exact recvSafe_handleSynAckMessage readers m h
    · rename_i hkind
      exact recvSafe_handleFinMessage readers hkind (by simpa [mayHandle, hkind] using hm)
    · rename_i hkind
      exact recvSafe_handleDataMessage readers hkind
    · exact recvSafe_handleAckMessage readers m h
    · exact recvSafe_handleRstMessage readers m c
    · exact recvSafe_check readers c _ id
  dsimp only [handleMessage]
  split
  · exact hdispatch.trans (recvSafe_enterEstablished readers pSession _)
  · exact hdispatch

/-! ## The periodic update -/

@[simp] theorem writeMessageIntoSendWindow_state (c : Ctx ρ) :
    (writeMessageIntoSendWindow message payloadSizeInBytes pPayload c).1.session.sessionState =
      c.session.sessionState := by
  dsimp only [writeMessageIntoSendWindow]
  repeat' split
  all_goals rfl

theorem recvSafe_updateReceiveWindow (c : Ctx ρ) : RecvSafe readers c (updateReceiveWindow c) := by
  unfold updateReceiveWindow
  split
  · exact recvSafe_sendAckMessage readers c
  · exact .refl _ _

theorem recvSafe_updateFinWait1 (c : Ctx ρ) : RecvSafe readers c (updateFinWait1 c) := by
  dsimp only [updateFinWait1]
  have hwrite := recvSafe_writeMessageIntoSendWindow readers .fin 0 none c
  split
  · rename_i hs
    split
    · refine hwrite.trans (recvSafe_setState readers ?_)
      rw [writeMessageIntoSendWindow_state, hs]
      exact ⟨by simp, by simp, by simp⟩
    · exact hwrite
  · exact .refl _ _

theorem recvSafe_updateFinWait2 (c : Ctx ρ) : RecvSafe readers c (updateFinWait2 c) := by
  unfold updateFinWait2
  split
  · exact recvSafe_setState readers (.closes _)
  · exact .refl _ _

theorem recvSafe_updateClosing (c : Ctx ρ) : RecvSafe readers c (updateClosing c) := by
  dsimp only [updateClosing]
  split
  · split
    · exact recvSafe_setState readers (.closes _)
    · exact .refl _ _
  · exact .refl _ _

theorem recvSafe_updateCallbacks_nil (lastReference : Bool) (c : Ctx ρ) :
    RecvSafe readers c (updateCallbacks pSession lastReference [] c) := by
  have hclose : RecvSafe readers c (closeUnreferenced lastReference c) := by
    unfold closeUnreferenced
    split
    · exact recvSafe_shutdown readers _ c
    · exact .refl _ _
  have hestablished : ∀ c : Ctx ρ, RecvSafe readers c (updateEstablished pSession [] c) := by
    intro c
    unfold updateEstablished
    split
    · have hcheck : RecvSafe readers c
          (c.check .updateCallback (c.session.callbackState = .establishedCalled)) :=
        recvSafe_check readers c _ id
      refine hcheck.trans ?_
      dsimp only
      split
      · exact recvSafe_check readers _ _ id
      · exact recvSafe_callback readers _ _ _
    · exact .refl _ _
  have hterminated : ∀ c : Ctx ρ, RecvSafe readers c (updateTerminated pSession c) := by
    intro c
    unfold updateTerminated
    split
    · split
      · exact recvSafe_check readers c _ id
      · exact recvSafe_callback readers _ _ c
    · exact .refl _ _
  have hsignal : ∀ c : Ctx ρ, RecvSafe readers c (signalDisconnection c) := by
    intro c
    unfold signalDisconnection
    split
    · exact .of_frame rfl (.refl _) id
    · exact .refl _ _
  exact ((hclose.trans (hestablished _)).trans (hterminated _)).trans (hsignal _)

theorem recvSafe_handleUnregisterProtocolServer (pServer : ServerRef) (protocol : Protocol)
    (c : Ctx ρ) :
    RecvSafe readers c (handleUnregisterProtocolServer pSession pServer protocol c) := by
  refine RecvSafe.trans ?_ (recvSafe_shutdown readers _ _)
  have htype : RecvSafe readers c
      (c.check .unregisterType (c.session.sessionType = .server)) :=
    recvSafe_check readers c _ id
  have hprotocol : ∀ c : Ctx ρ, RecvSafe readers c
      (c.check .unregisterProtocol (protocol = c.session.protocol)) := fun c =>
    recvSafe_check readers c _ id
  refine htype.trans ((hprotocol _).trans ?_)
  split
  · exact recvSafe_callback readers _ _ _
  · exact .refl _ _

/-- A reader past its checks reads the next message or puts its token back. -/
theorem recvInv_receiveLocked {taken : ℕ} (payloadBufferSizeInBytes : ℕ)
    (h : RecvInv (taken + 1) c.session.receiveWindow) (hclean : Clean ReceiveAssertion c.fx) :
    RecvInv taken (receiveLocked payloadBufferSizeInBytes c).1.session.receiveWindow ∧
      Clean ReceiveAssertion (receiveLocked payloadBufferSizeInBytes c).1.fx := by
  obtain ⟨hlt, hvalid, hlabel⟩ := h.readable
  have hkinds := h.kinds _ hvalid
  have hconsume := h.consume
  have havailable : Clean ReceiveAssertion (c.check .receiveAvailable
      (c.session.receiveWindow.nextUnreadSequence <
        c.session.receiveWindow.nextExpectedSequence)).fx :=
    hclean.check (.inl (decide_eq_true hlt))
  dsimp only [receiveLocked]
  split
  · split
    · refine ⟨hconsume, (havailable.check (.inl ?_)).check
        (.inl (decide_eq_true hconsume.unread_le))⟩
      exact decide_eq_true ⟨hvalid, hlabel.sequence⟩
    · rename_i hdata
      refine ⟨hconsume, (havailable.check (.inl ?_)).check
        (.inl (decide_eq_true hconsume.unread_le))⟩
      exact decide_eq_true (hkinds.resolve_left hdata)
  · exact ⟨h.signal, havailable⟩

theorem receives_receiveLocked {readers : ℕ} (payloadBufferSizeInBytes : ℕ)
    (h : Receives (readers + 1) c.session) (hclean : Clean ReceiveAssertion c.fx) :
    Receives readers (receiveLocked payloadBufferSizeInBytes c).1.session ∧
      Clean ReceiveAssertion (receiveLocked payloadBufferSizeInBytes c).1.fx := by
  obtain ⟨lost, hlost, hinv⟩ := h.window
  have hinv : RecvInv (readers + lost + 1) c.session.receiveWindow := by
    rwa [Nat.add_right_comm]
  obtain ⟨hinv', hclean'⟩ := recvInv_receiveLocked payloadBufferSizeInBytes hinv hclean
  refine ⟨?_, hclean'⟩
  have hvalid : ∀ i, c.session.receiveWindow.consume.valid i = true →
      c.session.receiveWindow.valid i = true := by
    intro i hi
    simp only [consume, Function.update_apply] at hi
    split at hi
    · cases hi
    · exact hi
  have hsynSent : c.session.sessionState ≠ .synSent := by
    intro hs
    obtain ⟨-, -, hnone⟩ := h.synSent hs
    have hfilled := hinv.readable.2.1
    rw [hnone] at hfilled
    cases hfilled
  dsimp only [receiveLocked] at hinv' ⊢
  split at hinv'
  · rename_i hfits
    rw [if_pos hfits]
    split at hinv'
    · rename_i hdata
      rw [if_pos hdata]
      exact ⟨⟨lost, hlost, hinv'⟩, fun hs => absurd hs hsynSent,
        fun i hi hkind => h.fin i (hvalid i hi) hkind⟩
    · rename_i hdata
      rw [if_neg hdata]
      exact ⟨⟨lost, fun hne => absurd rfl hne, hinv'⟩,
        fun hs => absurd (show SessionState.closed = .synSent from hs) (by simp),
        fun _ _ _ => .inr rfl⟩
  · rename_i hfits
    rw [if_neg hfits]
    exact ⟨⟨lost, hlost, hinv'⟩, fun hs => absurd hs hsynSent, h.fin⟩

end DevDriver.Analysis
