import DevDriver.Analysis.EndpointSteps

/-!
# One direction of a connection

The messages filed in a send window form a log, and everything that stands for a payload anywhere,
in a slot of either window or in flight, is the entry of the log its sequence number names.
-/

namespace DevDriver.Analysis

open Library Model

variable {ρ : Type}

abbrev Log := List (SessionMessage × List UInt8)

/-- The message `m` is the entry of the log its sequence number names; the first number is 1. -/
structure Genuine (log : Log) (m : MessageBuffer) : Prop where
  positive : 1 ≤ m.header.sequence
  logged : log[m.header.sequence - 1]? = some (m.kind, m.bytes)
  size : m.header.payloadSize ≤ kMaxPayloadSizeInBytes

/-- What may be in flight: control messages, what a retransmission took from an empty slot, and
entries of the log. -/
def Carried (log : Log) (m : MessageBuffer) : Prop :=
  m.kind = .ack ∨ m.kind = .rst ∨ m.kind = .unknown ∨ Genuine log m

variable {log : Log} {m : MessageBuffer}

theorem Genuine.append (h : Genuine log m) (log' : Log) :
    Genuine (log ++ log') m where
  positive := h.positive
  logged := by
    obtain ⟨hlt, -⟩ := List.getElem?_eq_some_iff.mp h.logged
    rw [List.getElem?_append_left hlt]
    exact h.logged
  size := h.size

theorem Carried.append (h : Carried log m) (log' : Log) :
    Carried (log ++ log') m :=
  h.imp_right fun h => h.imp_right fun h => h.imp_right fun h => h.append log'

theorem Genuine.of_unstamped {m' : MessageBuffer} (h : Genuine log m')
    (he : unstamped m = unstamped m') : Genuine log m := by
  have hsequence := sequence_eq_of_unstamped he
  have hsize : m.header.payloadSize = m'.header.payloadSize :=
    congrArg (fun m => m.header.payloadSize) he
  have hbytes : (unstamped m).bytes = (unstamped m').bytes := by rw [he]
  refine ⟨hsequence ▸ h.positive, ?_, hsize ▸ h.size⟩
  rw [hsequence, kind_eq_of_unstamped he, show m.bytes = m'.bytes from hbytes]
  exact h.logged

theorem Genuine.arriving (h : Genuine log m) (stale : Payload) :
    Genuine log (m.arriving stale) where
  positive := h.positive
  logged := by
    have hbytes : (m.arriving stale).bytes = m.bytes := readBytes_memcpyPayload _ _ _
    rw [hbytes]
    exact h.logged
  size := h.size

theorem Carried.arriving (h : Carried log m) (stale : Payload) :
    Carried log (m.arriving stale) :=
  h.imp_right fun h => h.imp_right fun h => h.imp_right fun h => h.arriving stale

theorem Carried.genuine (h : Carried log m)
    (hkind : m.kind ≠ .ack ∧ m.kind ≠ .rst ∧ m.kind ≠ .unknown) : Genuine log m :=
  ((h.resolve_left hkind.1).resolve_left hkind.2.1).resolve_left hkind.2.2

theorem FiledAs.genuine {s : ℕ} {x : SessionMessage × List UInt8} (h : FiledAs s x m)
    (hs : log.length + 1 = s) :
    Genuine (log ++ [x]) m where
  positive := by
    rw [h.sequence]
    omega
  logged := by
    rw [h.sequence, h.kind, h.bytes, ← hs]
    simp
  size := h.size

/-! ## One direction -/

/-- What one end has written, what is under way, and what the other end has read. -/
structure Flow (src : Side ρ) (wire : List MessageBuffer) (dst : Side ρ) : Prop where
  length : src.written.length + 1 = src.endpoint.session.sendWindow.nextSequence
  /-- the handshake message is the first one -/
  handshake : ∀ j x, src.written[j]? = some x → x.1 = .syn ∨ x.1 = .synAck → j = 0
  slots : ∀ i, (src.endpoint.session.sendWindow.messages i).kind = .unknown ∨
    Genuine src.written (src.endpoint.session.sendWindow.messages i)
  wire : ∀ m ∈ wire, Carried src.written m
  filed : ∀ i, dst.endpoint.session.receiveWindow.valid i = true →
    Genuine src.written (dst.endpoint.session.receiveWindow.messages i)
  unread_pos : 1 ≤ dst.endpoint.session.receiveWindow.nextUnreadSequence
  unread_le : dst.endpoint.session.receiveWindow.nextUnreadSequence ≤ src.written.length + 1
  received : dst.received =
    payloads (src.written.take (dst.endpoint.session.receiveWindow.nextUnreadSequence - 1))

theorem payloads_append (log log' : Log) : payloads (log ++ log') = payloads log ++ payloads log' :=
  List.filterMap_append

theorem Flow.send {src dst : Side ρ} {wire : List MessageBuffer} {r : Endpoint ρ × Outcome}
    (h : Flow src wire dst) (wire' : List MessageBuffer)
    (hsends : Sends src.endpoint.session.sendWindow r.1.session.sendWindow r.2.written)
    (hkind : ∀ x ∈ r.2.written, x.1 = .data ∨ x.1 = .fin ∨ src.written = [])
    (hemits : ∀ p ∈ r.2.fx.forwarded, p.1.kind = .ack ∨
      ∃ i, unstamped p.1 = unstamped (src.endpoint.session.sendWindow.messages i))
    (hwire : ∀ m ∈ wire', m ∈ wire ∨ m ∈ r.2.fx.inFlight) : Flow (src.record r) wire' dst where
  length := by
    rw [show (src.record r).endpoint = r.1 from rfl]
    rw [show (src.record r).written = src.written ++ r.2.written.toList from rfl]
    generalize r.2.written = written at hsends ⊢
    cases hsends with
    | nothing hsame => simpa [hsame.nextSequence] using h.length
    | message hnext _ =>
      rw [hnext, ← h.length]
      simp
  handshake j x hj hx := by
    rcases Nat.lt_or_ge j src.written.length with hlt | hge
    · rw [Side.record, List.getElem?_append_left hlt] at hj
      exact h.handshake j x hj hx
    · rw [Side.record, List.getElem?_append_right hge] at hj
      have hmem : x ∈ r.2.written := Option.mem_toList.mp (List.mem_of_getElem? hj)
      rcases hkind x hmem with hk | hk | hempty
      · simp [hk] at hx
      · simp [hk] at hx
      · have hlength : j < (src.written ++ r.2.written.toList).length := by
          rw [List.length_append]
          have := (List.getElem?_eq_some_iff.mp hj).1
          omega
        have hone : r.2.written.toList.length ≤ 1 := Option.length_toList_le
        rw [hempty, List.nil_append] at hlength
        omega
  slots i := by
    have hlog : (src.record r).written = src.written ++ r.2.written.toList := rfl
    rw [show (src.record r).endpoint = r.1 from rfl, hlog]
    have hold : unstamped (r.1.session.sendWindow.messages i) =
        unstamped (src.endpoint.session.sendWindow.messages i) →
        (r.1.session.sendWindow.messages i).kind = .unknown ∨
          Genuine (src.written ++ r.2.written.toList) (r.1.session.sendWindow.messages i) := by
      intro he
      rw [kind_eq_of_unstamped he]
      exact (h.slots i).imp_right fun hg => (hg.append _).of_unstamped he
    generalize hw : r.2.written = written at hsends hold ⊢
    cases hsends with
    | nothing hsame => exact hold (hsame.messages i)
    | message _ hmessages =>
      rcases hmessages i with he | hnew
      · exact hold he
      · exact .inr (hnew.genuine h.length)
  wire m hm := by
    rcases hwire m hm with hold | hnew
    · exact (h.wire m hold).append _
    · obtain ⟨p, hp, hpm⟩ := List.mem_filterMap.mp hnew
      split at hpm
      · obtain rfl : p.1 = m := by simpa using hpm
        rcases hemits p hp with hack | ⟨i, he⟩
        · exact .inl hack
        · refine .inr (.inr ?_)
          rw [kind_eq_of_unstamped he]
          exact (h.slots i).imp_right fun hg => (hg.append _).of_unstamped he
      · cases hpm
  filed i hi := (h.filed i hi).append _
  unread_pos := h.unread_pos
  unread_le := by
    have := h.unread_le
    simp only [Side.record, List.length_append]
    omega
  received := by
    have := h.unread_le
    rw [show (src.record r).written = src.written ++ r.2.written.toList from rfl,
      List.take_append_of_le_length (by omega)]
    exact h.received

theorem Flow.receive {src dst : Side ρ} {wire : List MessageBuffer} {op : Operation}
    {r : Endpoint ρ × Outcome} (h : Flow src wire dst) (wire' : List MessageBuffer)
    (htakes : Takes op dst.endpoint.session.receiveWindow r.1.session.receiveWindow r.2.received)
    (hop : ∀ m, op = .handleMessage m → Carried src.written m)
    (hwire : ∀ m ∈ wire', m ∈ wire) : Flow src wire' (dst.record r) := by
  have hcarried : ∀ m ∈ wire', Carried src.written m := fun m hm => h.wire m (hwire m hm)
  set w := dst.endpoint.session.receiveWindow with hw
  set w' := r.1.session.receiveWindow with hw'
  -- the cursor, the filed messages and the returned payload are all that is left to see
  suffices hmove : (∀ i, w'.valid i = true → Genuine src.written (w'.messages i)) ∧
      1 ≤ w'.nextUnreadSequence ∧ w'.nextUnreadSequence ≤ src.written.length + 1 ∧
      dst.received ++ r.2.received.toList =
        payloads (src.written.take (w'.nextUnreadSequence - 1)) from
    ⟨h.length, h.handshake, h.slots, hcarried, hmove.1, hmove.2.1, hmove.2.2.1, hmove.2.2.2⟩
  have hpos : 1 ≤ w.nextUnreadSequence := h.unread_pos
  generalize r.2.received = received at htakes
  cases htakes with
  | nothing hunread hvalid hmessages =>
    rw [hunread, hvalid, hmessages, Option.toList_none, List.append_nil]
    exact ⟨h.filed, h.unread_pos, h.unread_le, h.received⟩
  | @files m hm hfiles =>
    rw [hfiles.unread, Option.toList_none, List.append_nil]
    refine ⟨fun i hi => ?_, h.unread_pos, h.unread_le, h.received⟩
    rcases hfiles.messages i hi with ⟨hvalid, he⟩ | ⟨hkind, hheader, hbytes⟩
    · rw [he]
      exact h.filed i hvalid
    · have hgenuine := (hop m hm).genuine (by rcases hkind with hk | hk <;> simp [hk])
      have hkind' : (w'.messages i).kind = m.kind := by simp [MessageBuffer.kind, hheader]
      refine ⟨hheader ▸ hgenuine.positive, ?_, hheader ▸ hgenuine.size⟩
      rw [hheader, hkind', hbytes]
      exact hgenuine.logged
  | @restarts m hm hkind hfirst hunread hvalid =>
    have hgenuine := (hop m hm).genuine (by rcases hkind with hk | hk <;> simp [hk])
    have hzero := h.handshake _ _ hgenuine.logged hkind
    have hone : m.header.sequence = 1 := by
      have := hgenuine.positive
      omega
    have hlogged := hgenuine.logged
    rw [hzero] at hlogged
    obtain ⟨hlt, -⟩ := List.getElem?_eq_some_iff.mp hlogged
    have hreceived : dst.received = [] := by
      rw [h.received, ← hw, hfirst]
      rfl
    rw [hunread, hone]
    refine ⟨fun i hi => ?_, by omega, by omega, ?_⟩
    · rw [hvalid i] at hi
      cases hi
    · -- the one entry before the cursor is the handshake message, which carries no data
      rw [hreceived, show 1 + 1 - 1 = 0 + 1 from rfl, List.take_add_one, hlogged]
      rcases hkind with hk | hk <;> simp [payloads, hk]
  | reads hfilled hsequence hunread hvalid hmessages =>
    have hgenuine := h.filed _ hfilled
    have hlogged := hgenuine.logged
    rw [hsequence] at hlogged
    obtain ⟨hlt, -⟩ := List.getElem?_eq_some_iff.mp hlogged
    rw [hunread]
    refine ⟨fun i hi => ?_, by omega, by omega, ?_⟩
    · rw [hmessages]
      exact h.filed i (hvalid i hi)
    · rw [show w.nextUnreadSequence + 1 - 1 = w.nextUnreadSequence - 1 + 1 by omega,
        List.take_add_one, hlogged, payloads_append, ← h.received]
      rfl

end DevDriver.Analysis
