import DevDriver.Analysis.SendInvariant

/-!
# What a session puts on the wire from its send window

`UpdateSendWindow` transmits live messages only.  `MarkMessagesAsAcknowledged` retransmits, for the
third duplicate ack and every one after it, the message one slot further, without looking where the
outstanding messages end.
-/

namespace DevDriver.Analysis

open Library Model

variable {ρ : Type}

theorem Emits.mem {P : MessageBuffer → Prop} {fx fx' : Effects} (h : Emits P fx fx')
    {p : MessageBuffer × Result} (hp : p ∈ fx.forwarded) : p ∈ fx'.forwarded := by
  obtain ⟨l, hl, -⟩ := h
  rw [hl]
  exact List.mem_append_left _ hp

theorem mem_forwardRetry (m : MessageBuffer) (answers : List Result) (fx : Effects) :
    ∃ r, (m, r) ∈ (Effects.forwardRetry m answers fx).1.forwarded := by
  fun_induction Effects.forwardRetry m answers fx with
  | case1 answers fx ih => exact ih
  | case2 => exact ⟨_, List.mem_append_right _ (List.mem_singleton_self _)⟩

theorem mem_sendOrClose (m : MessageBuffer) (c : Ctx ρ) :
    ∃ r, (m, r) ∈ (sendOrClose m c).1.fx.forwarded := by
  dsimp only [sendOrClose]
  split <;> exact mem_forwardRetry m c.fx.answers c.fx

theorem mem_fastRetransmit (c : Ctx ρ) : ∃ p ∈ (fastRetransmit c).fx.forwarded,
    unstamped p.1 = unstamped
      (c.session.sendWindow.messages (slot _ c.session.sendWindow.retransSeq)) := by
  set index := slot kDefaultWindowSize c.session.sendWindow.retransSeq with hindex
  set w := c.session.sendWindow.stamp index c.session.receiveWindow.currentAvailableSize with hw
  obtain ⟨r, hr⟩ := mem_sendOrClose (w.messages index) (c.setSend w)
  have hmem : (w.messages index, r) ∈ (fastRetransmit c).fx.forwarded := by
    dsimp only [fastRetransmit]
    split <;> exact hr
  exact ⟨_, hmem, unstamped_stamp _ _ _⟩

variable {m : MessageBuffer} {c : Ctx ρ}

theorem mem_duplicateAck (hcount : kFastRetransmitThreshold ≤ duplicateCount c.session.sendWindow) :
    ∃ p ∈ (duplicateAck c).fx.forwarded, unstamped p.1 =
      unstamped (c.session.sendWindow.messages
        (slot _ (duplicateSeq c.session.sendWindow))) := by
  have hdef : duplicateAck c = fastRetransmit (c.setSend
      { c.session.sendWindow with lastAckCount := duplicateCount c.session.sendWindow }) :=
    if_pos hcount
  rw [hdef]
  exact mem_fastRetransmit _

theorem mem_markMessagesAsAcknowledged [RoundTripTime ρ] {writers n : ℕ}
    (h : SendInv writers c.session.sendWindow) (hn : ¬ Acknowledges n c.session.sendWindow)
    (hcount : kFastRetransmitThreshold ≤ duplicateCount c.session.sendWindow) :
    ∃ p ∈ (markMessagesAsAcknowledged n c).fx.forwarded,
      FastRetransmits n c.session.sendWindow p.1 := by
  rw [mark_of_duplicate h hn]
  obtain ⟨p, hp, hm⟩ := mem_duplicateAck (c := { c with fx := c.fx.tick }) hcount
  exact ⟨p, hp, hn, hcount, hm⟩

/-- The sequence number up to which the handler of `m` marks messages as acknowledged, for a
session in the given state. -/
def acknowledgedSequence (m : MessageBuffer) (state : SessionState) : Option ℕ :=
  match m.kind, state with
  | .ack, .synReceived | .ack, .established | .ack, .finWait1 | .ack, .finWait2
  | .ack, .closing => some m.header.sequence
  | .synAck, .finWait1 | .synAck, .finWait2 | .synAck, .closing | .synAck, .established =>
    some m.header.sequence
  | .synAck, .synSent => some (SynAckPayload.decode m.payload).sequence
  | _, _ => none

theorem emits_dispatchMessage_none [RoundTripTime ρ]
    (h : acknowledgedSequence m c.session.sessionState = none) :
    Emits (·.kind = .ack) c.fx (dispatchMessage m c).fx := by
  cases hkind : m.kind with
  | syn =>
    simp only [dispatchMessage, hkind]
    dsimp only [handleSynMessage]
    split <;> exact .of_eq (by simp [Ctx.setState, Ctx.setReceive, Ctx.check])
  | synAck =>
    have hstate : c.session.sessionState = .closed ∨ c.session.sessionState = .listening ∨
        c.session.sessionState = .synReceived := by
      cases hs : c.session.sessionState <;> simp [acknowledgedSequence, hkind, hs] at h ⊢
    rcases hstate with hs | hs | hs <;>
      exact .of_eq (by simp [dispatchMessage, hkind, handleSynAckMessage, hs, Ctx.check])
  | fin =>
    simp only [dispatchMessage, hkind]
    dsimp only [handleFinMessage]
    split
    · exact emits_writeMessageIntoReceiveWindow m c
    · split
      · exact (emits_writeMessageIntoReceiveWindow m c).trans (emits_sendAckMessage _)
      · exact .refl _
  | data =>
    simp only [dispatchMessage, hkind]
    dsimp only [handleDataMessage]
    split
    · exact emits_writeMessageIntoReceiveWindow m c
    · exact emits_writeMessageIntoReceiveWindow m c
    · exact emits_writeMessageIntoReceiveWindow m c
    · exact .refl _
  | ack =>
    have hstate : c.session.sessionState = .closed ∨ c.session.sessionState = .listening ∨
        c.session.sessionState = .synSent := by
      cases hs : c.session.sessionState <;> simp [acknowledgedSequence, hkind, hs] at h ⊢
    rcases hstate with hs | hs | hs <;>
      exact .of_eq (by simp [dispatchMessage, hkind, handleAckMessage, hs])
  | rst => exact .of_eq (by simp [dispatchMessage, hkind, handleRstMessage])
  | unknown => exact .of_eq (by simp [dispatchMessage, hkind, Ctx.check])

theorem emits_dispatchMessage_some [RoundTripTime ρ] {n : ℕ}
    (h : acknowledgedSequence m c.session.sessionState = some n) :
    ∃ c₀ : Ctx ρ, c₀.session.sendWindow = c.session.sendWindow ∧
      c₀.fx.forwarded = c.fx.forwarded ∧
      Emits (·.kind = .ack) (markMessagesAsAcknowledged n c₀).fx (dispatchMessage m c).fx := by
  cases hkind : m.kind with
  | ack =>
    cases hs : c.session.sessionState with
    | synReceived =>
      obtain rfl : m.header.sequence = n := by simpa [acknowledgedSequence, hkind, hs] using h
      exact ⟨c.setState .established, rfl, rfl,
        .of_eq (by simp [dispatchMessage, hkind, handleAckMessage, hs])⟩
    | established | finWait1 | finWait2 | closing =>
      obtain rfl : m.header.sequence = n := by simpa [acknowledgedSequence, hkind, hs] using h
      exact ⟨c, rfl, rfl, .of_eq (by simp [dispatchMessage, hkind, handleAckMessage, hs])⟩
    | closed | listening | synSent => simp [acknowledgedSequence, hkind, hs] at h
  | synAck =>
    set c₀ := c.check .synAckClient (c.session.sessionType = .client) with hc₀
    have hforwarded : c₀.fx.forwarded = c.fx.forwarded := by simp [hc₀, Ctx.check]
    cases hs : c.session.sessionState with
    | established | finWait1 | finWait2 | closing =>
      obtain rfl : m.header.sequence = n := by simpa [acknowledgedSequence, hkind, hs] using h
      exact ⟨c₀, rfl, hforwarded,
        .of_eq (by simp [dispatchMessage, hkind, handleSynAckMessage, hs, hc₀])⟩
    | synSent =>
      obtain rfl : (SynAckPayload.decode m.payload).sequence = n := by
        simpa [acknowledgedSequence, hkind, hs] using h
      refine ⟨c₀, rfl, hforwarded, ?_⟩
      have hack := emits_sendAckMessage (c :=
        { markMessagesAsAcknowledged (SynAckPayload.decode m.payload).sequence c₀ with
          session := adoptSynAck m (markMessagesAsAcknowledged
            (SynAckPayload.decode m.payload).sequence c₀).session })
      simpa [dispatchMessage, hkind, handleSynAckMessage, hs, hc₀] using hack
    | closed | listening | synReceived => simp [acknowledgedSequence, hkind, hs] at h
  | syn | fin | data | rst | unknown => simp [acknowledgedSequence, hkind] at h

/-! ## Steps -/

@[simp] theorem start_forwarded (env : Surroundings) : env.start.forwarded = [] := rfl

/-- The fast retransmission of a step, if it makes one, stays inside the outstanding messages:
when the handled message is a duplicate ack that reaches the threshold, the sequence number
computed for it lies before `nextSequence`. -/
def RetransmitsInRange (e : Endpoint ρ) : Operation → Prop
  | .handleMessage m => ∀ n, acknowledgedSequence m e.session.sessionState = some n →
      ¬ Acknowledges n e.session.sendWindow →
      kFastRetransmitThreshold ≤ duplicateCount e.session.sendWindow →
      duplicateSeq e.session.sendWindow < e.session.sendWindow.nextSequence
  | _ => True

/-- Whatever a step hands to `Forward` from the send window is live, and a retransmission of
a message handler has the sequence number computed for its slot.  (The messages that do not
come from the send window are Acks.) -/
def EmitsLive (e : Endpoint ρ) (op : Operation) (o : Outcome) : Prop :=
  ∀ p ∈ o.fx.forwarded, p.1.kind ≠ .ack → Live e.session.sendWindow p.1 ∧
    ∀ m, op = .handleMessage m → p.1.header.sequence = duplicateSeq e.session.sendWindow

theorem emits_handleMessage [RoundTripTime ρ] {writers : ℕ} (pSession : SessionRef)
    (h : SendInv writers c.session.sendWindow) :
    Emits (fun m' => m'.kind = .ack ∨
      ∃ n, acknowledgedSequence m c.session.sessionState = some n ∧
        FastRetransmits n c.session.sendWindow m') c.fx (handleMessage pSession m c).fx := by
  have hfx : (handleMessage pSession m c).fx.forwarded = (dispatchMessage m c).fx.forwarded := by
    dsimp only [handleMessage]
    split <;> simp
  refine Emits.trans ?_ (.of_eq hfx)
  cases hn : acknowledgedSequence m c.session.sessionState with
  | none => exact (emits_dispatchMessage_none hn).mono fun _ => .inl
  | some n =>
    obtain ⟨c₀, hwindow, hforwarded, hrest⟩ := emits_dispatchMessage_some hn
    have hinv : SendInv writers c₀.session.sendWindow := hwindow ▸ h
    have hmark := (marks_markMessagesAsAcknowledged n c₀ hinv).emits
    rw [hwindow] at hmark
    exact ((Emits.of_eq hforwarded).trans (hmark.mono fun _ hm => .inr ⟨n, rfl, hm⟩)).trans
      (hrest.mono fun _ => .inl)

theorem emitsLive_handleMessage_iff [RoundTripTime ρ] {e : Endpoint ρ} {env : Surroundings}
    (h : SendInv e.writers.length e.session.sendWindow) :
    EmitsLive e (.handleMessage m) (e.run (handleMessage 0 m) env.start).2 ↔
      RetransmitsInRange e (.handleMessage m) := by
  have hemits := (emits_handleMessage (m := m) (c := ⟨e.session, env.start⟩) 0 h).forall rfl
  constructor
  · intro hlive n hn hnew hcount
    obtain ⟨c₀, hwindow, -, hrest⟩ := emits_dispatchMessage_some
      (c := (⟨e.session, env.start⟩ : Ctx ρ)) hn
    have hinv : SendInv e.writers.length c₀.session.sendWindow := hwindow ▸ h
    obtain ⟨p, hp, hm⟩ := mem_markMessagesAsAcknowledged hinv (hwindow ▸ hnew) (hwindow ▸ hcount)
    rw [hwindow] at hm
    have hmem : p ∈ (e.run (handleMessage 0 m) env.start).2.fx.forwarded := by
      have := hrest.mem hp
      dsimp only [Endpoint.run, handleMessage]
      split <;> simpa using this
    have hfiled : p.1.kind ≠ .ack := by
      rw [kind_eq_of_unstamped hm.2.2]
      exact (h.kinds _).1
    obtain ⟨hp, hseq⟩ := hlive p hmem hfiled
    rw [← hseq m rfl]
    exact hp.lt_next
  · intro hrange p hp hfiled
    rcases hemits p hp with hack | ⟨n, hn, hnew, hcount, hm⟩
    · exact absurd hack hfiled
    · have hlt := hrange n hn hnew hcount
      obtain ⟨hseq, hlive⟩ := h.live (Nat.le_add_right _ _) hlt hm
      exact ⟨hlive, fun _ _ => hseq⟩

theorem emitsLive_of_ne_handleMessage [RoundTripTime ρ] {e e' : Endpoint ρ} {op : Operation}
    {env : Surroundings} {o : Outcome} (hop : ∀ m, op ≠ .handleMessage m)
    (hinv : SendInv e.writers.length e.session.sendWindow)
    (h : e.perform op env.start = some (e', o)) : EmitsLive e op o := by
  have hquiet : ∀ o : Outcome, o.fx.forwarded = [] → EmitsLive e op o := by
    intro o ho p hp
    rw [ho] at hp
    cases hp
  cases op with
  | handleMessage m => exact absurd rfl (hop m)
  | updateSendWindow =>
    cases h
    have hemits := (transmits_updateSendWindow (⟨e.session, env.start⟩ : Ctx ρ) hinv).emits
    exact fun p hp _ => ⟨hemits.forall rfl p hp, fun _ h => by cases h⟩
  | updateReceiveWindow =>
    cases h
    have hemits : Emits (·.kind = .ack) env.start
        (updateReceiveWindow (⟨e.session, env.start⟩ : Ctx ρ)).fx := by
      unfold updateReceiveWindow
      split
      · exact emits_sendAckMessage _
      · exact .refl _
    exact fun p hp hfiled => absurd (hemits.forall rfl p hp) hfiled
  | sendWrite k =>
    simp only [Endpoint.perform] at h
    split at h
    · cases h
    · cases h
      exact hquiet _ (by simp)
  | receiveRead size =>
    obtain ⟨-, ⟨⟩⟩ := Option.ite_none_right_eq_some.mp h
    exact hquiet _ (by simp)
  | updateFinWait1 =>
    cases h
    exact hquiet _ (by simp)
  | updateFinWait2 =>
    cases h
    exact hquiet _ (by simp)
  | updateClosing =>
    cases h
    exact hquiet _ (by simp)
  | updateCallbacks lastReference =>
    cases h
    exact hquiet _ (by simp)
  | shutdown reason => cases h; exact hquiet _ rfl
  | unregisterProtocolServer pServer =>
    cases h
    exact hquiet _ (by simp)
  | send call | sendTimeout k | receive | receiveTimeout | receiveWait =>
    obtain ⟨-, ⟨⟩⟩ := Option.ite_none_right_eq_some.mp h
    exact hquiet _ rfl
  | sendWait k =>
    simp only [Endpoint.perform] at h
    split at h
    · cases h
    · split at h <;> cases h
      exact hquiet _ rfl
  | receiveCheck =>
    obtain ⟨-, h⟩ := Option.ite_none_right_eq_some.mp h
    split at h <;> cases h <;> exact hquiet _ rfl

/-- In every run, all that is put on the wire from the send window is live if and only if each
fast retransmission stays in range. -/
theorem session_emissions_live_iff [RoundTripTime ρ] {e e' : Endpoint ρ}
    {tr : List (Endpoint ρ × (Operation × Surroundings) × Outcome)}
    (he : (sessionMachine ρ).Reachable e) (h : (sessionMachine ρ).Trace e tr e') :
    (∀ x ∈ tr, EmitsLive x.1 x.2.1.1 x.2.2) ↔ ∀ x ∈ tr, RetransmitsInRange x.1 x.2.1.1 := by
  refine forall₂_congr ?_
  rintro ⟨u, ⟨op, env⟩, o⟩ hx
  obtain ⟨hu, v, hstep⟩ := h.reachable_of_mem he hx
  have hstep : u.perform op env.start = some (v, o) := hstep
  have hinv := inv_reachable hu
  cases op with
  | handleMessage m =>
    obtain ⟨-, ⟨⟩⟩ := Option.ite_none_right_eq_some.mp hstep
    exact emitsLive_handleMessage_iff hinv
  | _ => exact iff_of_true (emitsLive_of_ne_handleMessage (by simp) hinv hstep) trivial

theorem session_emissions_live_syn : ∃ e : Endpoint ℚ,
    (sessionMachine ℚ).run connectedClient [(.updateSendWindow, calm)] = some e ∧
      ∀ x ∈ (sessionMachine ℚ).transitions connectedClient [(.updateSendWindow, calm)],
        EmitsLive x.1 x.2.1.1 x.2.2 := by
  refine ⟨_, rfl, (session_emissions_live_iff reachable_connectedClient (.of_run rfl)).mpr ?_⟩
  intro x hx
  obtain rfl := List.mem_singleton.mp hx
  trivial

def synAckMessage : MessageBuffer where
  header := ⟨2, 1, Protocol.session, SessionMessage.synAck.toCode, 64, kSynAckPayloadSize,
    0x10001, 1⟩
  payload := writeBytes (SynAckPayload.encode ⟨1, 1, 0, 2⟩) MessageBuffer.zero.payload

def ackMessage : MessageBuffer where
  header := ⟨2, 1, Protocol.session, SessionMessage.ack.toCode, 64, 0, 0x10001, 1⟩
  payload := MessageBuffer.zero.payload

/-- The third duplicate ack, with nothing outstanding, makes the client retransmit an empty
slot. -/
theorem session_emits_empty_slot : ∃ (e e' : Endpoint ℚ) (o : Outcome),
    (sessionMachine ℚ).Reachable e ∧
      e.perform (.handleMessage ackMessage) calm.start = some (e', o) ∧
      ¬ EmitsLive e (.handleMessage ackMessage) o := by
  obtain ⟨e, he, hp⟩ := reachable_connectedClient.exists_of_run
    [(.updateSendWindow, calm), (.handleMessage synAckMessage, calm),
      (.handleMessage ackMessage, calm), (.handleMessage ackMessage, calm)]
    (fun e => (e.perform (.handleMessage ackMessage) calm.start).any fun r =>
      (r.2.fx.forwarded.map fun p => (p.1.kind, p.1.header.sequence)) = [(.unknown, 0)] ∧
        e.session.sendWindow.nextUnacknowledgedSequence = 2) (by decide +kernel)
  obtain ⟨⟨e', o⟩, hstep, ho⟩ := (Option.any_eq_true _ _).mp hp
  obtain ⟨hforwarded, hnext⟩ := of_decide_eq_true ho
  obtain ⟨p, hp⟩ : ∃ p, o.fx.forwarded = [p] :=
    List.length_eq_one_iff.mp (by simpa using congrArg List.length hforwarded)
  simp only [hp, List.map_cons, List.map_nil, List.cons.injEq, Prod.mk.injEq] at hforwarded
  refine ⟨e, e', o, he, hstep, fun hlive => ?_⟩
  have := (hlive p (by simp [hp]) (by simp [hforwarded.1])).1.unacknowledged_le
  omega

end DevDriver.Analysis
