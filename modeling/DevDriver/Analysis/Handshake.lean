import DevDriver.Analysis.Delivery

/-!
# The handshake when the client's Ack is lost

The server retransmits its SynAck until it is acknowledged.  The manager passes such a copy on
to the established client, to answer for the lost Ack, but the handler of an established
session only marks messages as acknowledged: it emits retransmissions at most, never an Ack.
-/

namespace DevDriver.Analysis

open Library Model

variable {ρ : Type} [RoundTripTime ρ]

theorem emits_handleMessage_synAck {writers : ℕ} (pSession : SessionRef) {m : MessageBuffer}
    {c : Ctx ρ} (h : SendInv writers c.session.sendWindow) (hkind : m.kind = .synAck)
    (hstate : c.session.sessionState = .established) :
    Emits (fun m' => m'.kind ≠ .ack) c.fx (handleMessage pSession m c).fx := by
  set c₀ := c.check .synAckClient (c.session.sessionType = .client) with hc₀
  have hforwarded : (handleMessage pSession m c).fx.forwarded =
      (markMessagesAsAcknowledged m.header.sequence c₀).fx.forwarded := by
    have hdispatch : (dispatchMessage m c).fx.forwarded =
        (markMessagesAsAcknowledged m.header.sequence c₀).fx.forwarded := by
      simp [dispatchMessage, hkind, handleSynAckMessage, hstate, hc₀]
    dsimp only [handleMessage]
    split
    · rw [enterEstablished_forwarded, hdispatch]
    · exact hdispatch
  have hmark := (marks_markMessagesAsAcknowledged m.header.sequence c₀ h).emits
  have hfiled : Emits (fun m' => m'.kind ≠ .ack) c₀.fx
      (markMessagesAsAcknowledged m.header.sequence c₀).fx := by
    refine hmark.mono fun m' hm' => ?_
    rw [kind_eq_of_unstamped hm'.2.2]
    exact (h.kinds _).1
  have hcheck : c₀.fx.forwarded = c.fx.forwarded := by simp [hc₀, Ctx.check]
  exact ((Emits.of_eq hcheck).trans hfiled).trans (.of_eq hforwarded)

/-- The step is answered with an Ack. -/
def AnswersWithAck (p : Parties) (c : Connection ρ) (a : ConnectionAction) : Prop :=
  ∃ c' fx, Connection.step p c a = some (c', fx) ∧ ∃ m ∈ fx.inFlight, m.kind = .ack

/-- Whatever state the server is in, the delivery of a SynAck to an established client puts no
Ack in flight. -/
theorem synAck_not_answered {p : Parties} {c : Connection ρ}
    (hc : (Connection.machine ρ p).Reachable c)
    (hclient : (c.side .client).endpoint.session.sessionState = .established)
    {a : ConnectionAction} {m : MessageBuffer} (hdelivers : Delivers c a .client m)
    (hkind : m.kind = .synAck) : ¬ AnswersWithAck p c a := by
  rintro ⟨c', fx, hstep, m', hm', hack⟩
  obtain ⟨wire, env, hdeliver⟩ := hdelivers.step (p := p) (by simp [hkind])
  rw [hdeliver] at hstep
  cases hstep
  have hemits := emits_handleMessage_synAck 0
    (c := ⟨(c.side .client).endpoint.session, env.start⟩)
    ((joint_reachable hc).sound .client).send hkind hclient
  obtain ⟨q, hq, hqm⟩ := List.mem_filterMap.mp hm'
  split at hqm
  · obtain rfl : q.1 = m' := by simpa using hqm
    exact hemits.forall rfl q hq hack
  · cases hqm

def ackLost : List ConnectionAction :=
  synAckInFlight ++ [.deliver .client 0 blank calm, .drop .server 0,
    .act .server .updateSendWindow ⟨[], [1000], fun _ => some 0⟩]

/-- A client that is Established while its server is SynReceived, about to handle the
retransmitted SynAck. -/
structure SynAckArrives (c : Connection ρ) (m : MessageBuffer) : Prop where
  reachable : (Connection.machine ρ parties).Reachable c
  client : (c.side .client).endpoint.session.sessionState = .established
  server : (c.side .server).endpoint.session.sessionState = .synReceived
  delivers : Delivers c (.deliver .client 0 blank calm) .client m
  kind : m.kind = .synAck

theorem exists_synAckArrives : ∃ (c : Connection ℚ) (m : MessageBuffer), SynAckArrives c m ∧
    ∃ c' fx, Connection.step parties c (.deliver .client 0 blank calm) = some (c', fx) ∧
      fx.forwarded = [] := by
  obtain ⟨c, hc, hp⟩ := (reachable_start (ρ := ℚ) parties).exists_of_run ackLost
    (fun c => (c.side .client).endpoint.session.sessionState = .established ∧
      (c.side .server).endpoint.session.sessionState = .synReceived ∧
      c.created .client = true ∧
      ((c.toward .client)[0]?.any fun m => m.kind = .synAck ∧
        routed (m.arriving blank) (c.side .client).endpoint.session) ∧
      (Connection.step parties c (.deliver .client 0 blank calm)).any fun r =>
        r.2.forwarded.length = 0) (by decide +kernel)
  obtain ⟨hclient, hserver, hcreated, hm, hstep⟩ := of_decide_eq_true hp
  obtain ⟨m, hmem, hm⟩ := (Option.any_eq_true _ _).mp hm
  obtain ⟨hkind, hrouted⟩ := of_decide_eq_true hm
  obtain ⟨⟨c', fx⟩, hstep, hforwarded⟩ := (Option.any_eq_true _ _).mp hstep
  exact ⟨c, m.arriving blank, ⟨hc, hclient, hserver,
    ⟨hcreated, ⟨0, blank, calm, m, rfl, hmem, rfl⟩, hrouted⟩, hkind⟩, c', fx, hstep,
    List.length_eq_zero_iff.mp (of_decide_eq_true hforwarded)⟩

theorem synAck_not_answered_ackLost : ∃ c : Connection ℚ,
    (c.side .server).endpoint.session.sessionState = .synReceived ∧
      ¬ AnswersWithAck parties c (.deliver .client 0 blank calm) := by
  obtain ⟨c, m, h, -⟩ := exists_synAckArrives
  exact ⟨c, h.server, synAck_not_answered h.reachable h.client h.delivers h.kind⟩

/-- A lost Ack is not made up for. -/
theorem handshake_does_not_recover : ¬ ∀ (c : Connection ℚ) (a : ConnectionAction)
    (m : MessageBuffer), (Connection.machine ℚ parties).Reachable c →
      (c.side .client).endpoint.session.sessionState = .established →
      (c.side .server).endpoint.session.sessionState = .synReceived →
      Delivers c a .client m → m.kind = .synAck → AnswersWithAck parties c a := by
  intro hall
  obtain ⟨c, m, h, c', fx, hstep, hforwarded⟩ := exists_synAckArrives
  obtain ⟨v, fx', hv, m', hm', -⟩ :=
    hall c _ m h.reachable h.client h.server h.delivers h.kind
  rw [hstep] at hv
  cases hv
  simp [Effects.inFlight, hforwarded] at hm'

end DevDriver.Analysis
