import DevDriver.Analysis.Delivery

/-!
# Data that arrives around a graceful close

A Data message that has not been stored yet is stored on arrival when the receiving session is
Established or closes from its own side, and the message lies in the receive window.
-/

namespace DevDriver.Analysis

open Library Model

variable {ρ : Type} [RoundTripTime ρ]

/-- The receive window holds the message `m` in the slot of its sequence number. -/
structure Holds (w : ReceiveWindow kDefaultWindowSize) (m : MessageBuffer) : Prop where
  valid : w.valid (slot _ m.header.sequence) = true
  sequence : w.sequence (slot _ m.header.sequence) = m.header.sequence
  kind : (w.messages (slot _ m.header.sequence)).kind = m.kind
  bytes : (w.messages (slot _ m.header.sequence)).bytes = m.bytes

/-- The session may still store `m`: it has not been read and is not in the window. -/
structure Unstored (w : ReceiveWindow kDefaultWindowSize) (m : MessageBuffer) : Prop where
  unread : w.nextUnreadSequence ≤ m.header.sequence
  not_held : ¬ Holds w m

def StoresData (state : SessionState) : Prop :=
  state = .established ∨ state = .finWait1 ∨ state = .finWait2

omit [RoundTripTime ρ] in
theorem Unstored.expected_le {src dst : Side ρ} {wire : List MessageBuffer} {m : MessageBuffer}
    {taken : ℕ} (h : Flow src wire dst)
    (hw : RecvInv taken dst.endpoint.session.receiveWindow) (hm : Genuine src.written m)
    (hnew : Unstored dst.endpoint.session.receiveWindow m) :
    dst.endpoint.session.receiveWindow.nextExpectedSequence ≤ m.header.sequence := by
  by_contra hlt
  have hvalid := hw.filled _ hnew.unread (by omega)
  have hend := hw.expected_le
  have hlabel := hw.label hnew.unread (by omega) hvalid
  have hfiled := (h.filed _ hvalid).logged
  rw [hlabel.header, hm.logged] at hfiled
  obtain ⟨hkind, hbytes⟩ := Prod.mk.inj (Option.some.inj hfiled)
  exact hnew.not_held ⟨hvalid, hlabel.sequence, hkind.symm, hbytes.symm⟩

theorem holds_accept (w : ReceiveWindow kDefaultWindowSize) (m : MessageBuffer) :
    Holds (w.accept m) m := by
  refine ⟨?_, ?_, ?_, ?_⟩ <;>
    simp [ReceiveWindow.accept, ReceiveWindow.advance, ReceiveWindow.store, MessageBuffer.kind,
      MessageBuffer.bytes, readBytes_memcpyPayload]

omit [RoundTripTime ρ] in
theorem holds_writeMessageIntoReceiveWindow_iff {m : MessageBuffer} {c : Ctx ρ}
    (hsize : m.header.payloadSize ≤ kMaxPayloadSizeInBytes)
    (hexpected : c.session.receiveWindow.nextExpectedSequence ≤ m.header.sequence)
    (hnew : Unstored c.session.receiveWindow m) :
    Holds (writeMessageIntoReceiveWindow m c).session.receiveWindow m ↔
      m.header.sequence < c.session.receiveWindow.nextUnreadSequence + kDefaultWindowSize := by
  have hunread := hnew.unread
  have hdistance : sub64 m.header.sequence c.session.receiveWindow.nextUnreadSequence <
      kDefaultWindowSize ↔
      m.header.sequence < c.session.receiveWindow.nextUnreadSequence + kDefaultWindowSize := by
    rw [sub64_of_le hunread]
    omega
  have haccept := holds_accept c.session.receiveWindow m
  dsimp only [writeMessageIntoReceiveWindow]
  rw [if_pos hsize, if_pos hexpected]
  split
  · rename_i hlt
    refine iff_of_true ?_ (hdistance.mp hlt)
    split
    · rw [(sendAckMessage_frame _).2.1]
      exact ⟨haccept.valid, haccept.sequence, haccept.kind, haccept.bytes⟩
    · exact haccept
  · rename_i hge
    exact iff_of_false hnew.not_held (mt hdistance.mpr hge)

theorem holds_handleMessage_iff (pSession : SessionRef) {m : MessageBuffer} {c : Ctx ρ}
    (hkind : m.kind = .data) (hsize : m.header.payloadSize ≤ kMaxPayloadSizeInBytes)
    (hexpected : c.session.receiveWindow.nextExpectedSequence ≤ m.header.sequence)
    (hnew : Unstored c.session.receiveWindow m) :
    Holds (handleMessage pSession m c).session.receiveWindow m ↔
      StoresData c.session.sessionState ∧
      m.header.sequence < c.session.receiveWindow.nextUnreadSequence + kDefaultWindowSize := by
  have hwindow : (handleMessage pSession m c).session.receiveWindow =
      (handleDataMessage m c).session.receiveWindow := by
    rw [(handleMessage_windows pSession m c).2]
    simp only [dispatchMessage, hkind]
  have hwrite := holds_writeMessageIntoReceiveWindow_iff hsize hexpected hnew
  rw [hwindow]
  simp only [handleDataMessage, updateSendWindowSize, Ctx.setSend]
  split
  · rename_i hs
    rw [hwrite]
    exact (and_iff_right (.inr (.inl hs))).symm
  · rename_i hs
    rw [hwrite]
    exact (and_iff_right (.inr (.inr hs))).symm
  · rename_i hs
    rw [hwrite]
    exact (and_iff_right (.inl hs)).symm
  · rename_i h₁ h₂ h₃
    refine iff_of_false hnew.not_held fun h => ?_
    rcases h.1 with hs | hs | hs
    · exact h₃ hs
    · exact h₁ hs
    · exact h₂ hs

/-! ## Runs -/

/-- The action delivers a Data message that was filed before the sender's Fin and has not been
stored yet. -/
structure DeliversPending (c : Connection ρ) (a : ConnectionAction) (e : End)
    (m : MessageBuffer) : Prop where
  delivers : Delivers c a e m
  kind : m.kind = .data
  before_fin : ∀ x ∈ (c.side e.other).written.take m.header.sequence, x.1 ≠ .fin
  unstored : Unstored (c.side e).endpoint.session.receiveWindow m

/-- Data delivered in this step is still in the receive window behind it. -/
def KeepsData (p : Parties) (c : Connection ρ) (a : ConnectionAction) : Prop :=
  ∀ e m, DeliversPending c a e m → ∀ c' fx, Connection.step p c a = some (c', fx) →
    Holds (c'.side e).endpoint.session.receiveWindow m

/-- Pending Data that the action delivers finds the session in one of the three states, and
lies in its receive window. -/
def FindsRoom (c : Connection ρ) (a : ConnectionAction) : Prop :=
  ∀ e m, DeliversPending c a e m → StoresData (c.side e).endpoint.session.sessionState ∧
    m.header.sequence <
      (c.side e).endpoint.session.receiveWindow.nextUnreadSequence + kDefaultWindowSize

/-- In every run, every delivery of pending Data stores it if and only if each of these
deliveries finds the session in one of the three states and the message in its window. -/
theorem pending_data_kept_iff {p : Parties} {c c' : Connection ρ}
    {tr : List (Connection ρ × ConnectionAction × Effects)}
    (hc : (Connection.machine ρ p).Reachable c) (h : (Connection.machine ρ p).Trace c tr c') :
    (∀ x ∈ tr, KeepsData p x.1 x.2.1) ↔ ∀ x ∈ tr, FindsRoom x.1 x.2.1 := by
  refine forall₂_congr ?_
  rintro ⟨u, a, fx⟩ hx
  obtain ⟨hu, -⟩ := h.reachable_of_mem hc hx
  have hjoint := joint_reachable hu
  refine forall₃_congr fun e m hpending => ?_
  have hkind := hpending.kind
  obtain ⟨wire, env, hstep⟩ := hpending.delivers.step (p := p) (by simp [hkind])
  have hflow := hjoint.flow e.other
  rw [End.other_other] at hflow
  have hgenuine : Genuine (u.side e.other).written m := by
    obtain ⟨k, stale, env, m', -, hk, rfl⟩ := hpending.delivers.action
    have hcarried := (hflow.wire m' (List.mem_of_getElem? hk)).arriving stale
    exact hcarried.genuine (by simp [hkind])
  obtain ⟨lost, -, hw⟩ := (hjoint.sound e).receive.window
  have hexpected := hpending.unstored.expected_le hflow hw hgenuine
  have hiff := holds_handleMessage_iff 0 (c := ⟨(u.side e).endpoint.session, env.start⟩) hkind
    hgenuine.size hexpected hpending.unstored
  rw [← hiff]
  constructor
  · intro hkeeps
    simpa [Side.record, Endpoint.run] using hkeeps _ _ hstep
  · intro hholds v fx hv
    rw [hstep] at hv
    cases hv
    simpa [Side.record, Endpoint.run] using hholds

/-- The client's first Data message, about to be delivered to a server that has not stored it. -/
structure FirstDataArrives (c : Connection ρ) (m : MessageBuffer) : Prop where
  created : c.created .server = true
  inFlight : (c.toward .server)[0]? = some m
  kind : m.kind = .data
  sequence : m.header.sequence = 2
  routed : Model.routed (m.arriving blank) (c.side .server).endpoint.session = true
  unread : (c.side .server).endpoint.session.receiveWindow.nextUnreadSequence = 2
  free : (c.side .server).endpoint.session.receiveWindow.valid 2 = false
  log : ((c.side .client).written.map (·.1)).take 2 = [.syn, .data]

omit [RoundTripTime ρ] in
theorem FirstDataArrives.deliversPending {c : Connection ρ} {m : MessageBuffer}
    (h : FirstDataArrives c m) :
    DeliversPending c (.deliver .server 0 blank served) .server (m.arriving blank) where
  delivers := ⟨h.created, ⟨0, blank, served, m, rfl, h.inFlight, rfl⟩, h.routed⟩
  kind := h.kind
  before_fin x hx := by
    have hsequence : (m.arriving blank).header.sequence = 2 := h.sequence
    have hmem := List.mem_map_of_mem (f := (·.1)) hx
    rw [hsequence, List.map_take, show End.server.other = .client from rfl, h.log] at hmem
    intro hfin
    simp [hfin] at hmem
  unstored := by
    refine ⟨h.unread.trans_le h.sequence.ge, fun hholds => ?_⟩
    have hvalid := hholds.valid
    rw [show (m.arriving blank).header.sequence = 2 from h.sequence,
      show slot kDefaultWindowSize 2 = 2 from rfl, h.free] at hvalid
    cases hvalid

theorem exists_firstDataArrives (as : List ConnectionAction) (q : Connection ℚ → Bool)
    (h : ((Connection.machine ℚ parties).run (.start ℚ parties) as).any (fun c =>
      (c.created .server = true ∧
        (c.side .server).endpoint.session.receiveWindow.nextUnreadSequence = 2 ∧
        (c.side .server).endpoint.session.receiveWindow.valid 2 = false ∧
        ((c.side .client).written.map (·.1)).take 2 = [.syn, .data] ∧
        (c.toward .server)[0]?.any fun m => m.kind = .data ∧ m.header.sequence = 2 ∧
          routed (m.arriving blank) (c.side .server).endpoint.session) ∧ q c) = true) :
    ∃ c m, (Connection.machine ℚ parties).Reachable c ∧ FirstDataArrives c m ∧ q c = true := by
  obtain ⟨c, hc, hp⟩ := (reachable_start (ρ := ℚ) parties).exists_of_run as _ h
  obtain ⟨⟨hcreated, hunread, hfree, hlog, hm⟩, hq⟩ := of_decide_eq_true hp
  obtain ⟨m, hmem, hm⟩ := (Option.any_eq_true _ _).mp hm
  obtain ⟨hkind, hsequence, hrouted⟩ := of_decide_eq_true hm
  exact ⟨c, m, hc, ⟨hcreated, hmem, hkind, hsequence, hrouted, hunread, hfree, hlog⟩, hq⟩

theorem pending_data_kept_established : ∃ (c : Connection ℚ) (m : MessageBuffer),
    DeliversPending c (.deliver .server 0 blank served) .server m ∧
      KeepsData parties c (.deliver .server 0 blank served) := by
  obtain ⟨c, m, hc, hfirst, hq⟩ := exists_firstDataArrives
    (handshake ++ sends .client [7])
    (fun c => (Connection.step parties c (.deliver .server 0 blank served)).isSome ∧
      (c.side .server).endpoint.session.sessionState = .established) (by decide +kernel)
  obtain ⟨hstep, hstate⟩ := of_decide_eq_true hq
  obtain ⟨⟨c', fx⟩, hstep⟩ := Option.isSome_iff_exists.mp hstep
  have htrace : (Connection.machine ℚ parties).Trace c
      [(c, .deliver .server 0 blank served, fx)] c' := .snoc .nil hstep
  refine ⟨c, _, hfirst.deliversPending,
    (pending_data_kept_iff hc htrace).mpr ?_ _ (List.mem_singleton_self _)⟩
  intro x hx
  obtain rfl := List.mem_singleton.mp hx
  rintro e m' hpending
  obtain ⟨k, stale, env, m'', ha, hm'', rfl⟩ := hpending.delivers.action
  cases ha
  obtain rfl : m'' = m := Option.some.inj (hm''.symm.trans hfirst.inFlight)
  have hunread := hfirst.unread
  have hlt : m''.header.sequence <
      (c.side .server).endpoint.session.receiveWindow.nextUnreadSequence + 128 := by
    rw [hfirst.sequence]
    omega
  exact ⟨.inl hstate, hlt⟩

/-- A Fin that overtakes the Data before it makes the server drop that Data. -/
theorem pending_data_dropped : ∃ (c : Connection ℚ) (m : MessageBuffer),
    (Connection.machine ℚ parties).Reachable c ∧
      (c.side .server).endpoint.session.sessionState = .closing ∧
      DeliversPending c (.deliver .server 0 blank served) .server m ∧
      ¬ KeepsData parties c (.deliver .server 0 blank served) := by
  obtain ⟨c, m, hc, hfirst, hq⟩ := exists_firstDataArrives
    (handshake ++ sends .client [7] ++
      [.act .client (.shutdown .success) calm, .act .client .updateFinWait1 calm,
        .act .client .updateSendWindow calm, .deliver .server 1 blank served])
    (fun c => (c.side .server).endpoint.session.sessionState = .closing ∧
      (Connection.step parties c (.deliver .server 0 blank served)).any fun r =>
        (r.1.side .server).endpoint.session.receiveWindow.valid 2 = false) (by decide +kernel)
  obtain ⟨hstate, hstep⟩ := of_decide_eq_true hq
  obtain ⟨⟨c', fx⟩, hstep, hfree⟩ := (Option.any_eq_true _ _).mp hstep
  refine ⟨c, _, hc, hstate, hfirst.deliversPending, fun hkeeps => ?_⟩
  have hvalid := (hkeeps _ _ hfirst.deliversPending c' fx hstep).valid
  rw [show (m.arriving blank).header.sequence = 2 from hfirst.sequence,
    show slot kDefaultWindowSize 2 = 2 from rfl] at hvalid
  simp [hvalid] at hfree

end DevDriver.Analysis
