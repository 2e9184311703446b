import DevDriver.Analysis.FastRetransmission
import DevDriver.Analysis.ReceiveInvariant

/-!
# The receive window in every reachable state

The invariant of the receive window holds of the sessions the manager opens and is kept by every
step of an endpoint, and by the parts of the handling of a Fin as long as no token is dropped.
-/

namespace DevDriver.Analysis

open Library Model Endpoint

variable {ρ : Type} [RoundTripTime ρ]

variable {h h' : FinEndpoint ρ} {e : Endpoint ρ} {op : Operation} {env : Surroundings} {o : Outcome}
    {taken : ℕ} {s : Session ρ}

omit [RoundTripTime ρ] in
theorem receives_new (hwindow : s.receiveWindow = .new _) : Receives 0 s where
  window := ⟨0, fun _ => rfl, hwindow ▸ recvInv_new⟩
  synSent _ := by
    rw [hwindow]
    exact ⟨rfl, rfl, fun _ => rfl⟩
  fin i hi := by
    rw [hwindow] at hi
    cases hi

omit [RoundTripTime ρ] in
theorem receives_handleSynMessage (m : MessageBuffer) {c : Ctx ρ}
    (hwindow : c.session.receiveWindow = .new _) :
    Receives 0 (handleSynMessage m c).session := by
  have hwrite := recvSafe_writeMessageIntoSendWindow 0 .synAck kSynAckPayloadSize
    (some (synAckPayload m c.session).encode)
    (c.check .synServer (c.session.sessionType = .server))
  have hframe : ∀ size p (c : Ctx ρ), (writeMessageIntoSendWindow .synAck size p
      c).1.session.receiveWindow = c.session.receiveWindow := by
    intro size p c
    dsimp only [writeMessageIntoSendWindow]
    repeat' split
    all_goals rfl
  dsimp only [handleSynMessage]
  split
  · refine ⟨⟨0, fun _ => rfl, ?_⟩, fun hs => (nomatch hs), fun i hi => ?_⟩
    · simp only [Ctx.setReceive, Ctx.setState, Session.setState, hframe, Ctx.check_session, hwindow]
      exact recvInv_new.reset rfl (fun _ => rfl) _
    · simp only [Ctx.setReceive, Ctx.setState, Session.setState, hframe, Ctx.check_session,
        hwindow] at hi
      cases hi
  · exact (recvSafe_shutdown 0 _ _).inv (hwrite.inv (receives_new hwindow))

theorem receives_opened (h : Opened ρ s) : Receives 0 s := by
  cases h with
  | client clientId remoteClientId protocol sessionId minVersion maxVersion _ _ =>
    refine receives_new ?_
    dsimp only [openClient, connect]
    split
    · split <;>
      · dsimp only [writeMessageIntoSendWindow]
        repeat' split
        all_goals rfl
    · rfl
  | server clientId protocol version sessionId m env hkind _ _ =>
    have hwindow : (openServer ρ clientId protocol version sessionId m).receiveWindow = .new _ := by
      dsimp only [openServer, bindToServer]
      split <;> rfl
    have hsyn := receives_handleSynMessage m
      (c := ⟨openServer ρ clientId protocol version sessionId m, env.start⟩) hwindow
    have hdispatch : dispatchMessage m
        ⟨openServer ρ clientId protocol version sessionId m, env.start⟩ =
        handleSynMessage m ⟨openServer ρ clientId protocol version sessionId m, env.start⟩ := by
      simp only [dispatchMessage, hkind]
    dsimp only [acceptServer, handleMessage]
    rw [hdispatch]
    split
    · exact (recvSafe_enterEstablished 0 0 _).inv hsyn
    · exact hsyn

/-! ## Steps -/

omit [RoundTripTime ρ] in
theorem receives_run {f : Ctx ρ → Ctx ρ} (hinv : Receives taken e.session)
    (hsafe : RecvSafe taken ⟨e.session, env.start⟩ (f ⟨e.session, env.start⟩)) :
    Receives taken (e.run f env.start).1.session ∧
      Clean ReceiveAssertion (e.run f env.start).2.fx :=
  ⟨hsafe.inv hinv, hsafe.clean hinv (clean_start _ env)⟩

variable {dropped : ℕ}

theorem receives_perform {e' : Endpoint ρ} (hsend : SendInv e.writers.length e.session.sendWindow)
    (hinv : Receives (e.readers + e.openReaders + dropped) e.session)
    (h : e.perform op env.start = some (e', o)) :
    Receives (e'.readers + e'.openReaders + dropped) e'.session ∧
      Clean ReceiveAssertion o.fx := by
  have hclean := clean_start ReceiveAssertion env
  cases op with
  | receiveWait =>
    obtain ⟨hready, ⟨⟩⟩ := Option.ite_none_right_eq_some.mp h
    obtain ⟨lost, hlost, hw⟩ := hinv.window
    refine ⟨⟨⟨lost, hlost, ?_⟩, hinv.synSent, hinv.fin⟩, hclean⟩
    have := hw.wait hready.2
    rwa [show e.readers + e.openReaders + dropped + lost + 1 =
      e.readers + 1 + e.openReaders + dropped + lost by omega] at this
  | receiveCheck =>
    obtain ⟨hreaders, h⟩ := Option.ite_none_right_eq_some.mp h
    split at h
    · -- the reader leaves and its message stays claimed
      rename_i hclosed
      cases h
      obtain ⟨lost, -, hw⟩ := hinv.window
      refine ⟨⟨⟨lost + 1, fun hne => absurd hclosed hne, ?_⟩, hinv.synSent, hinv.fin⟩, hclean⟩
      rwa [show e.readers + e.openReaders + dropped + lost =
        e.readers - 1 + e.openReaders + dropped + (lost + 1) by omega] at hw
    · cases h
      refine ⟨?_, hclean⟩
      rwa [show e.readers + e.openReaders + dropped =
        e.readers - 1 + (e.openReaders + 1) + dropped by omega] at hinv
  | receiveRead size =>
    obtain ⟨hreaders, ⟨⟩⟩ := Option.ite_none_right_eq_some.mp h
    rw [show e.readers + e.openReaders + dropped =
      e.readers + (e.openReaders - 1) + dropped + 1 by omega] at hinv
    exact receives_receiveLocked size (c := ⟨e.session, env.start⟩) hinv hclean
  | handleMessage m =>
    obtain ⟨hm, ⟨⟩⟩ := Option.ite_none_right_eq_some.mp h
    exact receives_run hinv (recvSafe_handleMessage _ 0 hm hsend)
  | sendWrite k =>
    simp only [perform] at h
    split at h
    · cases h
    · rename_i call hk
      cases h
      have hsafe := recvSafe_writeLocked (e.readers + e.openReaders + dropped) .data
        call.payloadSizeInBytes call.pPayload ⟨e.session, env.start⟩
      exact ⟨hsafe.inv hinv, hsafe.clean hinv hclean⟩
  | sendWait k =>
    simp only [perform] at h
    split at h
    · cases h
    · split at h <;> cases h
      exact ⟨⟨hinv.window, hinv.synSent, hinv.fin⟩, hclean⟩
  | updateReceiveWindow => cases h; exact receives_run hinv (recvSafe_updateReceiveWindow _ _)
  | updateSendWindow => cases h; exact receives_run hinv (recvSafe_updateSendWindow _ _ hsend)
  | updateFinWait1 =>
    cases h
    have hsafe := recvSafe_updateFinWait1 (e.readers + e.openReaders + dropped)
      ⟨e.session, env.start⟩
    exact ⟨hsafe.inv hinv, hsafe.clean hinv hclean⟩
  | updateFinWait2 => cases h; exact receives_run hinv (recvSafe_updateFinWait2 _ _)
  | updateClosing => cases h; exact receives_run hinv (recvSafe_updateClosing _ _)
  | updateCallbacks lastReference =>
    cases h
    exact receives_run hinv (recvSafe_updateCallbacks_nil _ 0 lastReference _)
  | shutdown reason => cases h; exact receives_run hinv (recvSafe_shutdown _ reason _)
  | unregisterProtocolServer pServer =>
    cases h
    exact receives_run hinv (recvSafe_handleUnregisterProtocolServer _ 0 pServer _ _)
  | send call | sendTimeout k | receive | receiveTimeout =>
    obtain ⟨-, ⟨⟩⟩ := Option.ite_none_right_eq_some.mp h
    exact ⟨hinv, hclean⟩

/-- The receive window as its users may rely on it, with `readers` calls of `Receive` past the
semaphore. -/
structure ReceiveShape (readers : ℕ) (w : ReceiveWindow kDefaultWindowSize) : Prop where
  unread_le : w.nextUnreadSequence ≤ w.nextExpectedSequence
  expected_le : w.nextExpectedSequence ≤ w.nextUnreadSequence + kDefaultWindowSize
  acknowledged_le : w.lastUnacknowledgedSequence ≤ w.nextExpectedSequence
  in_order : ∀ s, w.nextUnreadSequence ≤ s → s < w.nextExpectedSequence →
    w.valid (slot _ s) = true ∧ w.sequence (slot _ s) = s ∧
      (w.messages (slot _ s)).header.sequence = s
  ahead : ∀ i, w.valid i = true →
    (∀ s, w.nextUnreadSequence ≤ s → s < w.nextExpectedSequence → slot _ s ≠ i) →
    ∃ s, w.nextExpectedSequence < s ∧ s < w.nextUnreadSequence + kDefaultWindowSize ∧
      slot _ s = i ∧ w.sequence i = s ∧ (w.messages i).header.sequence = s
  count : w.semaphore + readers = w.nextExpectedSequence - w.nextUnreadSequence

theorem RecvInv.shape {w : ReceiveWindow kDefaultWindowSize} (h : RecvInv taken w) :
    ReceiveShape taken w where
  unread_le := h.unread_le
  expected_le := h.expected_le
  acknowledged_le := h.acknowledged_le
  in_order s hle hlt := by
    have hvalid := h.filled s hle hlt
    have hlabel := h.label hle (hlt.trans_le h.expected_le) hvalid
    exact ⟨hvalid, hlabel.sequence, hlabel.header⟩
  ahead i hi hout := by
    obtain ⟨s, hs, hne⟩ := h.ahead hi
    refine ⟨s, ?_, hs.lt_window, hs.slot_eq, hs.sequence, hs.header⟩
    by_contra hlt
    exact hout s hs.unread_le (by omega) hs.slot_eq
  count := h.count

/-! ## A Fin that is handled in parts -/

omit [RoundTripTime ρ] in
theorem finishFin_storeFin (m : MessageBuffer) (c : Ctx ρ) :
    finishFin m (storeFin m c).2 (storeFin m c).1 = handleFinMessage m c := by
  unfold storeFin handleFinMessage
  split
  · rfl
  · split <;> rfl

omit [RoundTripTime ρ] in
theorem state_receiveLocked (payloadBufferSizeInBytes : ℕ) (c : Ctx ρ) :
    (receiveLocked payloadBufferSizeInBytes c).1.session.sessionState = c.session.sessionState ∨
      (receiveLocked payloadBufferSizeInBytes c).1.session.sessionState = .closed := by
  dsimp only [receiveLocked]
  split
  · split
    · exact .inl rfl
    · exact .inr rfl
  · exact .inl rfl

/-- A reader finds the session closed and leaves, its token with it. -/
def DropsToken (e : Endpoint ρ) (op : Operation) : Prop :=
  op = .receiveCheck ∧ e.session.sessionState = .closed

/-- A part of `Send` or `Receive` keeps the invariant of the window, apart from a token that is
dropped. -/
theorem recvInv_call {e' : Endpoint ρ} (hcall : op.isCall = true)
    (hinv : RecvInv (e.readers + e.openReaders + taken) e.session.receiveWindow)
    (h : e.perform op env.start = some (e', o)) :
    Clean ReceiveAssertion o.fx ∧
      (e'.session.sessionState = e.session.sessionState ∨ e'.session.sessionState = .closed) ∧
      ((¬ DropsToken e op ∧
          RecvInv (e'.readers + e'.openReaders + taken) e'.session.receiveWindow) ∨
        (DropsToken e op ∧
          RecvInv (e'.readers + e'.openReaders + (taken + 1)) e'.session.receiveWindow)) := by
  have hclean := clean_start ReceiveAssertion env
  have hkeeps : op ≠ .receiveCheck → ¬ DropsToken e op := mt And.left
  cases op with
  | receiveWait =>
    obtain ⟨hready, ⟨⟩⟩ := Option.ite_none_right_eq_some.mp h
    have hwait := hinv.wait hready.2
    rw [show e.readers + e.openReaders + taken + 1 =
      e.readers + 1 + e.openReaders + taken by omega] at hwait
    exact ⟨hclean, .inl rfl, .inl ⟨hkeeps (by simp), hwait⟩⟩
  | receiveCheck =>
    obtain ⟨hreaders, h⟩ := Option.ite_none_right_eq_some.mp h
    split at h
    · rename_i hclosed
      cases h
      refine ⟨hclean, .inl rfl, .inr ⟨⟨rfl, hclosed⟩, ?_⟩⟩
      rwa [show e.readers + e.openReaders + taken =
        e.readers - 1 + e.openReaders + (taken + 1) by omega] at hinv
    · rename_i hopen
      cases h
      refine ⟨hclean, .inl rfl, .inl ⟨fun h => hopen h.2, ?_⟩⟩
      rwa [show e.readers + e.openReaders + taken =
        e.readers - 1 + (e.openReaders + 1) + taken by omega] at hinv
  | receiveRead size =>
    obtain ⟨hreaders, ⟨⟩⟩ := Option.ite_none_right_eq_some.mp h
    rw [show e.readers + e.openReaders + taken =
      e.readers + (e.openReaders - 1) + taken + 1 by omega] at hinv
    obtain ⟨hread, hclean'⟩ :=
      recvInv_receiveLocked size (c := ⟨e.session, env.start⟩) hinv hclean
    exact ⟨hclean', state_receiveLocked size _, .inl ⟨hkeeps (by simp), hread⟩⟩
  | sendWrite k =>
    simp only [perform] at h
    split at h
    · cases h
    · cases h
      exact ⟨((hclean.check (.inr id)).check (.inr id)).check (.inr id), .inl rfl,
        .inl ⟨hkeeps (by simp), hinv⟩⟩
  | sendWait k =>
    simp only [perform] at h
    split at h
    · cases h
    · split at h <;> cases h
      exact ⟨hclean, .inl rfl, .inl ⟨hkeeps (by simp), hinv⟩⟩
  | send call | sendTimeout k | receive | receiveTimeout =>
    obtain ⟨-, ⟨⟩⟩ := Option.ite_none_right_eq_some.mp h
    exact ⟨hclean, .inl rfl, .inl ⟨hkeeps (by simp), hinv⟩⟩
  | _ => cases hcall

/-- What holds of a session in each part of the handling of a Fin, `taken` messages being claimed
from its receive window.  Where the state is about to be set to Closing no token may be lost. -/
def HandlesFin (taken : ℕ) (s : Session ρ) : Option (MessageBuffer × Option FinRest) → Prop
  | none => Receives taken s
  | some (m, none) => m.kind = .fin ∧ Receives taken s ∧ RecvInv taken s.receiveWindow
  | some (_, some .close) => RecvInv taken s.receiveWindow
  | some (_, some .acknowledge) =>
    ∃ lost, (s.sessionState ≠ .closed → lost = 0) ∧ RecvInv (taken + lost) s.receiveWindow
  | some (_, some .ignore) => Receives taken s

omit [RoundTripTime ρ] in
theorem HandlesFin.window {handling : Option (MessageBuffer × Option FinRest)}
    (h : HandlesFin taken s handling) :
    ∃ lost, (s.sessionState ≠ .closed → lost = 0) ∧ RecvInv (taken + lost) s.receiveWindow := by
  match handling, h with
  | none, h => exact Receives.window h
  | some (_, none), h => exact h.2.1.window
  | some (_, some .close), h => exact ⟨0, fun _ => rfl, h⟩
  | some (_, some .acknowledge), h => exact h
  | some (_, some .ignore), h => exact Receives.window h

/-- The state is about to be set to Closing, as far as can be told from the state now. -/
def SetsClosing (h : FinEndpoint ρ) : Prop :=
  ∃ m rest, h.handling = some (m, rest) ∧ (rest = none ∨ rest = some .close)

/-- The condition on a step: no token is dropped while the state is about to be set to Closing. -/
def KeepsToken (h : FinEndpoint ρ) (a : FinOperation × Surroundings) : Prop :=
  ∀ op, a.1 = .operation op → DropsToken h.endpoint op → ¬ SetsClosing h

omit [RoundTripTime ρ] in
theorem storeFin_spec {m : MessageBuffer} {c : Ctx ρ} (hkind : m.kind = .fin)
    (hreceives : Receives taken c.session) (hinv : RecvInv taken c.session.receiveWindow)
    (hclean : Clean ReceiveAssertion c.fx) :
    HandlesFin taken (storeFin m c).1.session (some (m, some (storeFin m c).2)) ∧
      Clean ReceiveAssertion (storeFin m c).1.fx := by
  obtain ⟨hfiled, -, hfine⟩ := writeMessageIntoReceiveWindow_spec hinv (.inr hkind)
  unfold storeFin
  split
  · exact ⟨hfiled, hfine hclean⟩
  · split
    · exact ⟨⟨0, fun _ => rfl, hfiled⟩, hfine hclean⟩
    · exact ⟨hreceives, hclean⟩

omit [RoundTripTime ρ] in
theorem finishFin_spec {m : MessageBuffer} {rest : FinRest} {c : Ctx ρ}
    (h : HandlesFin taken c.session (some (m, some rest))) (hclean : Clean ReceiveAssertion c.fx) :
    Receives taken (finishFin m rest c).session ∧
      Clean ReceiveAssertion (finishFin m rest c).fx := by
  cases rest with
  | close => exact ⟨⟨⟨0, fun _ => rfl, h⟩, nofun, fun _ _ _ => .inl rfl⟩, hclean⟩
  | acknowledge =>
    obtain ⟨lost, -, hinv⟩ := h
    have hacknowledged : RecvInv (taken + lost) (sendAckMessage c).1.session.receiveWindow := by
      rw [(sendAckMessage_frame c).2.1]
      exact hinv.acknowledged
    exact ⟨⟨⟨lost, fun hne => absurd rfl hne, hacknowledged⟩, nofun, fun _ _ _ => .inr rfl⟩,
      clean_sendAckMessage hclean (.inl hinv.unread_le)⟩
  | ignore => exact ⟨h.advance rfl (.refl _), hclean⟩

omit [RoundTripTime ρ] in
theorem sendSafe_storeFin (writers : ℕ) (m : MessageBuffer) (c : Ctx ρ) :
    SendSafe writers c (storeFin m c).1 := by
  unfold storeFin
  split
  · exact safe_writeMessageIntoReceiveWindow writers m c
  · split
    · exact safe_writeMessageIntoReceiveWindow writers m c
    · exact .refl _ _

omit [RoundTripTime ρ] in
theorem sendSafe_finishFin (writers : ℕ) (m : MessageBuffer) (rest : FinRest) (c : Ctx ρ) :
    SendSafe writers c (finishFin m rest c) := by
  refine SendSafe.trans ?_ (safe_updateSendWindowSize writers m _)
  cases rest with
  | close => exact .of_frame rfl id rfl
  | acknowledge => exact (safe_sendAckMessage writers c).trans (.of_frame rfl id rfl)
  | ignore => exact .refl _ _

/-- What holds of a session whose Fins are handled in parts, with the tokens that were dropped
before the state was set to Closing. -/
structure FinInvariant (dropped : ℕ) (h : FinEndpoint ρ) : Prop where
  send : SendInv h.endpoint.writers.length h.endpoint.session.sendWindow
  receive : HandlesFin (h.endpoint.readers + h.endpoint.openReaders + dropped) h.endpoint.session
    h.handling

theorem finInvariant_call (hinv : FinInvariant dropped h)
    (hcall : op.isCall = true ∨ (h.handling = none ∧ ¬ op.isFin = true))
    (hstep : (h.endpoint.perform op env.start).map (fun r => (⟨r.1, h.handling⟩, r.2)) =
      some (h', o)) :
    Clean ReceiveAssertion o.fx ∧ ((KeepsToken h (.operation op, env) ∧ FinInvariant dropped h') ∨
      (¬ KeepsToken h (.operation op, env) ∧ FinInvariant (dropped + 1) h')) := by
  obtain ⟨⟨e', o'⟩, hperform, hsame⟩ := Option.map_eq_some_iff.mp hstep
  cases hsame
  obtain ⟨hsend, hreceive⟩ := hinv
  have hsend' := (sendStep_perform hsend hperform).inv
  obtain ⟨e, handling⟩ := h
  have hkeeps : (¬ SetsClosing ⟨e, handling⟩ ∨ ¬ DropsToken e op) →
      KeepsToken ⟨e, handling⟩ (.operation op, env) := by
    rintro h _ ⟨⟩ hdrops hcloses
    exact h.elim (fun h => h hcloses) fun h => h hdrops
  -- outside the handling of a Fin the invariant of the session is kept by every operation
  have hsettled : Receives (e.readers + e.openReaders + dropped) e.session →
      Clean ReceiveAssertion o'.fx ∧
        Receives (e'.readers + e'.openReaders + dropped) e'.session := fun hreceives =>
    (receives_perform hsend hreceives hperform).symm
  match handling, hreceive with
  | none, hreceive =>
    obtain ⟨hclean, hafter⟩ := hsettled hreceive
    exact ⟨hclean, .inl ⟨hkeeps (.inl nofun), hsend', hafter⟩⟩
  | some (m, some .ignore), hreceive =>
    obtain ⟨hclean, hafter⟩ := hsettled hreceive
    exact ⟨hclean, .inl ⟨hkeeps (.inl nofun), hsend', hafter⟩⟩
  | some (m, none), hreceive =>
    obtain ⟨hkind, hreceives, hwindow⟩ := hreceive
    have hafter := (hsettled hreceives).2
    obtain ⟨hclean, -, ⟨hkept, hwindow'⟩ | ⟨hdrops, hlost⟩⟩ :=
      recvInv_call (hcall.resolve_right fun hnone => nomatch hnone.1) hwindow hperform
    · exact ⟨hclean, .inl ⟨hkeeps (.inr hkept), hsend', hkind, hafter, hwindow'⟩⟩
    · have hreceives' : Receives (e'.readers + e'.openReaders + (dropped + 1)) e'.session :=
        ⟨⟨0, fun _ => rfl, hlost⟩, hafter.synSent, hafter.fin⟩
      exact ⟨hclean, .inr ⟨fun hkeep => hkeep op rfl hdrops ⟨m, none, rfl, .inl rfl⟩, hsend', hkind,
        hreceives', hlost⟩⟩
  | some (m, some .close), hreceive =>
    obtain ⟨hclean, -, ⟨hkept, hwindow'⟩ | ⟨hdrops, hlost⟩⟩ :=
      recvInv_call (hcall.resolve_right fun hnone => nomatch hnone.1) hreceive hperform
    · exact ⟨hclean, .inl ⟨hkeeps (.inr hkept), hsend', hwindow'⟩⟩
    · exact ⟨hclean, .inr ⟨fun hkeep => hkeep op rfl hdrops ⟨m, _, rfl, .inr rfl⟩, hsend', hlost⟩⟩
  | some (m, some .acknowledge), hreceive =>
    obtain ⟨lost, hopen, hwindow⟩ := hreceive
    rw [Nat.add_assoc] at hwindow
    obtain ⟨hclean, hstate, hafter⟩ :=
      recvInv_call (hcall.resolve_right fun hnone => nomatch hnone.1) hwindow hperform
    refine ⟨hclean, .inl ⟨hkeeps (.inl nofun), hsend', ?_⟩⟩
    have hopen' : e'.session.sessionState ≠ .closed → e.session.sessionState ≠ .closed := by
      rintro hne hclosed
      rw [hclosed, or_self] at hstate
      exact hne hstate
    rcases hafter with ⟨-, hkept⟩ | ⟨hdrops, hlost⟩
    · exact ⟨lost, fun hne => hopen (hopen' hne), by rwa [Nat.add_assoc]⟩
    · refine ⟨lost + 1, fun hne => absurd hdrops.2 (hopen' hne), ?_⟩
      rwa [Nat.add_assoc, ← Nat.add_assoc dropped]

theorem finInvariant_perform {a : FinOperation × Surroundings} (hinv : FinInvariant dropped h)
    (hstep : h.perform a.1 a.2.start = some (h', o)) :
    Clean ReceiveAssertion o.fx ∧ ((KeepsToken h a ∧ FinInvariant dropped h') ∨
      (¬ KeepsToken h a ∧ FinInvariant (dropped + 1) h')) := by
  obtain ⟨op, env⟩ := a
  obtain ⟨e, handling⟩ := h
  have hclean := clean_start ReceiveAssertion env
  have hkeeps : (∀ call, op ≠ .operation call) → KeepsToken ⟨e, handling⟩ (op, env) :=
    fun hne call hop => absurd hop (hne call)
  match op, handling with
  | .operation op, handling =>
    obtain ⟨hcall, hstep⟩ := Option.ite_none_right_eq_some.mp hstep
    exact finInvariant_call hinv hcall hstep
  | .receiveFin m, none =>
    obtain ⟨hm, ⟨⟩⟩ := Option.ite_none_right_eq_some.mp hstep
    obtain ⟨hsend, hreceives⟩ := hinv
    have hopen : e.session.sessionState ≠ .closed := by
      simpa [mayHandle, hm.1] using hm.2
    obtain ⟨lost, hlost, hwindow⟩ := hreceives.window
    rw [hlost hopen] at hwindow
    exact ⟨hclean, .inl ⟨hkeeps (by simp), hsend, hm.1, hreceives, hwindow⟩⟩
  | .storeFin, some (m, none) =>
    cases hstep
    obtain ⟨hsend, hkind, hreceives, hwindow⟩ := hinv
    obtain ⟨hafter, hclean'⟩ :=
      storeFin_spec (c := ⟨e.session, env.start⟩) hkind hreceives hwindow hclean
    exact ⟨hclean', .inl ⟨hkeeps (by simp), (sendSafe_storeFin _ m _).inv hsend, hafter⟩⟩
  | .finishFin, some (m, some rest) =>
    cases hstep
    obtain ⟨hsend, hreceives⟩ := hinv
    obtain ⟨hafter, hclean'⟩ := finishFin_spec (c := ⟨e.session, env.start⟩) hreceives hclean
    exact ⟨hclean', .inl ⟨hkeeps (by simp), (sendSafe_finishFin _ m rest _).inv hsend, hafter⟩⟩

/-- Along a run a token was dropped exactly when a step did not keep it. -/
theorem finInvariant_trace {tr : List (FinEndpoint ρ × (FinOperation × Surroundings) × Outcome)}
    (hinit : (finMachine ρ).init h) (htrace : (finMachine ρ).Trace h tr h') :
    ∃ dropped, FinInvariant dropped h' ∧ (dropped = 0 ↔ ∀ x ∈ tr, KeepsToken x.1 x.2.1) := by
  induction htrace with
  | nil =>
    obtain ⟨e, handling⟩ := h
    obtain ⟨rfl, s, hs, rfl⟩ := hinit
    exact ⟨0, ⟨inv_opened hs, receives_opened hs⟩, iff_of_true rfl (List.forall_mem_nil _)⟩
  | @snoc t u tr a o _ hstep ih =>
    obtain ⟨dropped, hinv, hkeeps⟩ := ih
    simp only [List.forall_mem_append, List.forall_mem_singleton]
    rcases (finInvariant_perform hinv hstep).2 with ⟨hkeep, hafter⟩ | ⟨hdrop, hafter⟩
    · exact ⟨dropped, hafter, hkeeps.trans (and_iff_left hkeep).symm⟩
    · exact ⟨dropped + 1, hafter, iff_of_false (Nat.succ_ne_zero _) fun hall => hdrop hall.2⟩

/-- Whenever the session is not Closed, the receive window has its shape just where no step of the
run dropped a token while the state was about to be set to Closing.  In every run a reader past its
checks finds the next unread message in its slot, the advertised size lies between 1 and 64, and no
step breaks an assertion of the methods. -/
theorem receive_window_representation {h h' : FinEndpoint ρ}
    {tr : List (FinEndpoint ρ × (FinOperation × Surroundings) × Outcome)}
    (hinit : (finMachine ρ).init h) (htrace : (finMachine ρ).Trace h tr h') :
    let e := h'.endpoint
    (e.session.sessionState ≠ .closed →
        (ReceiveShape (e.readers + e.openReaders) e.session.receiveWindow ↔
          ∀ x ∈ tr, KeepsToken x.1 x.2.1)) ∧
      (0 < e.openReaders →
        e.session.receiveWindow.valid e.session.receiveWindow.unreadSlot = true ∧
        e.session.receiveWindow.sequence e.session.receiveWindow.unreadSlot =
          e.session.receiveWindow.nextUnreadSequence) ∧
      (1 ≤ calculateCurrentWindowSize e.session.receiveWindow ∧
        calculateCurrentWindowSize e.session.receiveWindow ≤ 64) ∧
      (1 ≤ e.session.receiveWindow.currentAvailableSize ∧
        e.session.receiveWindow.currentAvailableSize ≤ 64) ∧
      ∀ (a : FinOperation × Surroundings) (u : FinEndpoint ρ) (o : Outcome),
        (finMachine ρ).step h' a = some (u, o) →
        ∀ a ∈ o.fx.failedAsserts, ¬ ReceiveAssertion a := by
  intro e
  obtain ⟨dropped, hinv, hkeeps⟩ := finInvariant_trace hinit htrace
  obtain ⟨lost, hlost, hw⟩ := hinv.receive.window
  refine ⟨fun hopen => ?_, fun hreader => ?_, calculateCurrentWindowSize_mem hw.unread_le
    hw.expected_le, hw.available, fun a u o hstep => (finInvariant_perform hinv hstep).1⟩
  · rw [hlost hopen] at hw
    rw [← hkeeps]
    constructor
    · intro hshape
      have hcount := hw.count
      have hfull := hshape.count
      have hreaders : e.readers + e.openReaders =
          h'.endpoint.readers + h'.endpoint.openReaders := rfl
      have hwindow : e.session.receiveWindow = h'.endpoint.session.receiveWindow := rfl
      rw [hreaders, hwindow] at hfull
      omega
    · rintro rfl
      exact hw.shape
  · have hw : RecvInv (e.readers + (e.openReaders - 1) + dropped + lost + 1)
        e.session.receiveWindow := by
      rwa [show e.readers + (e.openReaders - 1) + dropped + lost + 1 =
        e.readers + e.openReaders + dropped + lost by omega]
    exact ⟨hw.readable.2.1, hw.readable.2.2.sequence⟩

def dataMessage (sequence : ℕ) (byte : UInt8) : MessageBuffer where
  header := ⟨2, 1, Protocol.session, SessionMessage.data.toCode, 64, 1, 0x10001, sequence⟩
  payload := writeBytes [byte] MessageBuffer.zero.payload

def finMessage (sequence : ℕ) : MessageBuffer where
  header := ⟨2, 1, Protocol.session, SessionMessage.fin.toCode, 64, 0, 0x10001, sequence⟩
  payload := MessageBuffer.zero.payload

def connectedFinClient : FinEndpoint ℚ := ⟨connectedClient, none⟩

theorem init_connectedFinClient : (finMachine ℚ).init connectedFinClient :=
  ⟨rfl, _, .client 1 2 5 1 0 0 (by decide) (by decide), rfl⟩

def operations (ops : List Operation) : List (FinOperation × Surroundings) :=
  ops.map fun op => (.operation op, calm)

/-- The Fin is the fourth message of the peer and arrives before a reader has read the others. -/
def finBehindData : List (FinOperation × Surroundings) :=
  operations [.updateSendWindow, .handleMessage synAckMessage, .handleMessage (dataMessage 3 8),
    .handleMessage (dataMessage 6 9), .handleMessage (dataMessage 2 7)] ++
  [(.receiveFin (finMessage 4), calm), (.storeFin, calm)] ++
  operations [.receive, .receiveWait] ++ [(.finishFin, calm)]

theorem receive_window_representation_gap : ∃ h : FinEndpoint ℚ,
    (finMachine ℚ).run connectedFinClient finBehindData = some h ∧
      h.endpoint.session.sessionState = .closing ∧
      h.endpoint.session.receiveWindow.nextUnreadSequence = 2 ∧
      h.endpoint.session.receiveWindow.nextExpectedSequence = 5 ∧
      h.endpoint.session.receiveWindow.valid 6 = true ∧ h.endpoint.readers = 1 ∧
      ReceiveShape 1 h.endpoint.session.receiveWindow := by
  obtain ⟨h, hrun, hstate, hunread, hexpected, hvalid, hreaders, hopen⟩ :=
    (finMachine ℚ).exists_of_run connectedFinClient finBehindData
      (fun h => h.endpoint.session.sessionState = .closing ∧
        h.endpoint.session.receiveWindow.nextUnreadSequence = 2 ∧
        h.endpoint.session.receiveWindow.nextExpectedSequence = 5 ∧
        h.endpoint.session.receiveWindow.valid 6 = true ∧
        h.endpoint.readers = 1 ∧ h.endpoint.openReaders = 0) (by decide +kernel)
  have hkeeps : ∀ x ∈ (finMachine ℚ).transitions connectedFinClient finBehindData,
      KeepsToken x.1 x.2.1 := by
    intro x hx op hop hdrops
    have hmem := Machine.mem_of_mem_transitions hx
    rw [show x.2.1 = (.operation .receiveCheck, x.2.1.2) from Prod.ext (hdrops.1 ▸ hop) rfl] at hmem
    simp [finBehindData, operations] at hmem
  have hshape := ((receive_window_representation init_connectedFinClient (.of_run hrun)).1
    (by rw [hstate]; nofun)).mpr hkeeps
  rw [hreaders, hopen] at hshape
  exact ⟨h, hrun, hstate, hunread, hexpected, hvalid, hreaders, hshape⟩

/-- One reader takes the Fin before the state is set to Closing, the other finds the session closed
and leaves: the message behind the Fin has lost its token. -/
def finTakenAtOnce : List (FinOperation × Surroundings) :=
  operations [.updateSendWindow, .handleMessage synAckMessage, .handleMessage (dataMessage 3 8)] ++
  [(.receiveFin (finMessage 2), calm), (.storeFin, calm)] ++
  operations [.receive, .receive, .receiveWait, .receiveWait, .receiveCheck, .receiveRead 4096,
    .receiveCheck] ++ [(.finishFin, calm)]

theorem receive_window_loses_token : ¬ ∀ (h h' : FinEndpoint ℚ)
    (tr : List (FinEndpoint ℚ × (FinOperation × Surroundings) × Outcome)),
    (finMachine ℚ).init h → (finMachine ℚ).Trace h tr h' →
    h'.endpoint.session.sessionState ≠ .closed →
    ReceiveShape (h'.endpoint.readers + h'.endpoint.openReaders)
      h'.endpoint.session.receiveWindow := by
  intro hall
  obtain ⟨h, hrun, hstate, hunread, hexpected, hsemaphore, hreaders, hopen⟩ :=
    (finMachine ℚ).exists_of_run connectedFinClient finTakenAtOnce
      (fun h => h.endpoint.session.sessionState = .closing ∧
        h.endpoint.session.receiveWindow.nextUnreadSequence = 3 ∧
        h.endpoint.session.receiveWindow.nextExpectedSequence = 4 ∧
        h.endpoint.session.receiveWindow.semaphore = 0 ∧
        h.endpoint.readers = 0 ∧ h.endpoint.openReaders = 0) (by decide +kernel)
  have hcount := (hall _ h _ init_connectedFinClient (.of_run hrun) (by rw [hstate]; nofun)).count
  rw [hunread, hexpected, hsemaphore, hreaders, hopen] at hcount
  cases hcount

end DevDriver.Analysis
