import DevDriver.Analysis.SendWindow

/-!
# Transmission

Transmission and retransmission change none of what the invariant of the send window speaks about
but the cursor `lastSentSequence`.
-/

namespace DevDriver.Analysis

open Library Model

variable {ρ : Type}

/-! ## Steps that only transmit -/

/-- What a method changes that only transmits: it hands messages that satisfy `P` to `Forward`
and leaves the slots as they are. -/
structure Transmits (P : MessageBuffer → Prop) (c c' : Ctx ρ) : Prop where
  quiet : Quiet c c'
  receiveWindow : c'.session.receiveWindow = c.session.receiveWindow
  slots : SameSlots c.session.sendWindow c'.session.sendWindow
  sent_le : c.session.sendWindow.lastSentSequence ≤ c'.session.sendWindow.lastSentSequence
  sent_lt : c'.session.sendWindow.lastSentSequence < c.session.sendWindow.nextSequence ∨
    c'.session.sendWindow.lastSentSequence = c.session.sendWindow.lastSentSequence
  failedAsserts : c'.fx.failedAsserts = c.fx.failedAsserts
  spinning : c'.fx.spinning = c.fx.spinning
  emits : Emits P c.fx c'.fx

theorem Transmits.refl (P : MessageBuffer → Prop) (c : Ctx ρ) : Transmits P c c :=
  ⟨.refl _, rfl, .refl _, le_rfl, .inr rfl, rfl, rfl, .refl _⟩

variable {P : MessageBuffer → Prop}

theorem Transmits.trans {a b c : Ctx ρ} (hab : Transmits P a b)
    (hbc : Transmits P b c) : Transmits P a c where
  quiet := hab.quiet.trans hbc.quiet
  receiveWindow := hbc.receiveWindow.trans hab.receiveWindow
  slots := hab.slots.trans hbc.slots
  sent_le := hab.sent_le.trans hbc.sent_le
  sent_lt := by
    have hnext := hab.slots.nextSequence
    rcases hbc.sent_lt with h | h
    · exact .inl (by omega)
    · rw [h]
      exact hab.sent_lt
  failedAsserts := hbc.failedAsserts.trans hab.failedAsserts
  spinning := hbc.spinning.trans hab.spinning
  emits := hab.emits.trans hbc.emits

theorem Transmits.mono {Q : MessageBuffer → Prop} {c c' : Ctx ρ} (h : Transmits P c c')
    (hPQ : ∀ m, P m → Q m) : Transmits Q c c' :=
  { h with emits := h.emits.mono hPQ }

variable {writers : ℕ}

theorem Transmits.inv {c c' : Ctx ρ} (h : Transmits P c c')
    (hinv : SendInv writers c.session.sendWindow) :
    SendInv writers c'.session.sendWindow := by
  refine hinv.same h.slots h.sent_le ?_
  have := hinv.sent_lt
  rcases h.sent_lt with h | h <;> omega

theorem transmits_setSend (P : MessageBuffer → Prop) {c : Ctx ρ}
    {w : TransmitWindow kDefaultWindowSize ρ} (hs : SameSlots c.session.sendWindow w)
    (hsent : w.lastSentSequence = c.session.sendWindow.lastSentSequence) :
    Transmits P c (c.setSend w) :=
  ⟨quiet_setSend w c, rfl, hs, hsent.ge, .inr hsent, rfl, rfl, .refl _⟩

theorem transmits_sendOrClose {m : MessageBuffer} (hm : P m)
    (c : Ctx ρ) : Transmits P c (sendOrClose m c).1 where
  quiet := quiet_sendOrClose m c
  receiveWindow := by simp
  slots := by
    rw [(sendOrClose_frame m c).1]
    exact .refl _
  sent_le := by simp
  sent_lt := by simp
  failedAsserts := by simp
  spinning := by simp
  emits := (emits_sendOrClose m c).mono (by rintro _ rfl; exact hm)

theorem transmits_fx (P : MessageBuffer → Prop) (c : Ctx ρ) {fx : Effects}
    (hcallbacks : fx.callbacks = c.fx.callbacks)
    (hserver : fx.protocolServer = c.fx.protocolServer)
    (hasserts : fx.failedAsserts = c.fx.failedAsserts) (hspinning : fx.spinning = c.fx.spinning)
    (hemits : Emits P c.fx fx) : Transmits P c { c with fx := fx } :=
  ⟨⟨rfl, rfl, rfl, rfl, rfl, rfl, .inl rfl, hcallbacks, hserver⟩, rfl, .refl _, le_rfl,
    .inr rfl, hasserts, hspinning, hemits⟩

theorem transmits_tick (P : MessageBuffer → Prop) (c : Ctx ρ) :
    Transmits P c { c with fx := c.fx.tick } :=
  transmits_fx P c rfl rfl rfl rfl (.of_eq rfl)

theorem transmits_shutdown (P : MessageBuffer → Prop) {reason : Result}
    (hreason : reason ≠ .success) (c : Ctx ρ) : Transmits P c (c.shutdown reason) where
  quiet := quiet_shutdown hreason c
  receiveWindow := by simp
  slots := by
    rw [(Ctx.shutdown_frame reason c).1]
    exact .refl _
  sent_le := by simp
  sent_lt := by simp
  failedAsserts := rfl
  spinning := rfl
  emits := .refl _

theorem transmits_stamp (index : Fin kDefaultWindowSize) (c : Ctx ρ)
    (hP : ∀ m, unstamped m = unstamped (c.session.sendWindow.messages index) → P m) :
    let c' := c.setSend
      (c.session.sendWindow.stamp index c.session.receiveWindow.currentAvailableSize)
    Transmits P c (sendOrClose (c'.session.sendWindow.messages index) c').1 := by
  intro c'
  have hstamp : Transmits P c c' := transmits_setSend P (same_stamp _ _ _) rfl
  exact hstamp.trans (transmits_sendOrClose (hP _ (unstamped_stamp _ _ _)) c')

theorem transmits_fastRetransmit (c : Ctx ρ) :
    Transmits (fun m => unstamped m = unstamped
      (c.session.sendWindow.messages (slot _ c.session.sendWindow.retransSeq))) c
      (fastRetransmit c) := by
  have hsend := transmits_stamp (slot _ c.session.sendWindow.retransSeq) c fun m hm => hm
  dsimp only [fastRetransmit] at hsend ⊢
  split
  · exact hsend.trans (transmits_setSend _ ⟨fun _ => rfl, rfl, rfl, rfl, rfl, rfl⟩ rfl)
  · exact hsend

def duplicateCount (w : TransmitWindow kDefaultWindowSize ρ) : ℕ := (w.lastAckCount + 1) % 2 ^ 32

/-- The sequence number that one more duplicate ack computes for the fast retransmission. -/
def duplicateSeq (w : TransmitWindow kDefaultWindowSize ρ) : ℕ :=
  w.nextUnacknowledgedSequence + (duplicateCount w - kFastRetransmitThreshold)

theorem transmits_duplicateAck (c : Ctx ρ) :
    Transmits (fun m => kFastRetransmitThreshold ≤ duplicateCount c.session.sendWindow ∧
      unstamped m = unstamped (c.session.sendWindow.messages
        (slot _ (duplicateSeq c.session.sendWindow)))) c (duplicateAck c) := by
  let c' := c.setSend
    { c.session.sendWindow with lastAckCount := duplicateCount c.session.sendWindow }
  have hcount : ∀ P, Transmits P c c' := fun P =>
    transmits_setSend P ⟨fun _ => rfl, rfl, rfl, rfl, rfl, rfl⟩ rfl
  have hdef : duplicateAck c =
      if kFastRetransmitThreshold ≤ duplicateCount c.session.sendWindow then fastRetransmit c'
      else c' := rfl
  rw [hdef]
  split
  · rename_i hthreshold
    exact (hcount _).trans ((transmits_fastRetransmit c').mono fun m hm => ⟨hthreshold, hm⟩)
  · exact hcount _

theorem Ctx.check_of_true {c : Ctx ρ} {a : Assertion} {condition : Bool}
    (h : condition = true) : c.check a condition = c := by
  subst h
  rfl

theorem transmits_retransmitLoop (currentTime currentTimeout fuel seq count : ℕ) (c : Ctx ρ)
    (h : SendInv writers c.session.sendWindow)
    (hseq : c.session.sendWindow.nextUnacknowledgedSequence ≤ seq) :
    Transmits (Live c.session.sendWindow) c
      (retransmitLoop currentTime currentTimeout fuel seq count c).1 := by
  induction fuel generalizing seq count c with
  | zero => exact .refl _ _
  | succ fuel ih =>
    dsimp only [retransmitLoop]
    split
    · rename_i hsent
      split
      · exact .refl _ _
      · have hlt : seq < c.session.sendWindow.nextSequence := by
          have := h.sent_lt
          omega
        obtain ⟨hvalid, hsequence, -⟩ := h.filled seq hseq hlt
        rw [Ctx.check_of_true (c := c) hvalid,
          Ctx.check_of_true (c := c) (decide_eq_true hsequence)]
        have hsend := transmits_stamp (slot _ seq) c fun m hm => (h.live hseq hlt hm).2
        split
        · refine hsend.trans ((ih (seq + 1) _ _ (hsend.inv h) ?_).mono fun m hm =>
            hm.same hsend.slots)
          rw [hsend.slots.nextUnacknowledged]
          omega
        · exact hsend
    · exact .refl _ _

theorem transmits_retransmitTimedOut [RoundTripTime ρ] (c : Ctx ρ)
    (h : SendInv writers c.session.sendWindow) :
    Transmits (Live c.session.sendWindow) c (retransmitTimedOut c) := by
  dsimp only [retransmitTimedOut]
  split
  · split
    · have hloop := (transmits_tick (Live c.session.sendWindow) c).trans
        (transmits_retransmitLoop c.fx.currentTime
          (RoundTripTime.timeout c.session.sendWindow.roundTripTime
            c.session.sendWindow.retransmitCount)
          (c.session.sendWindow.lastSentSequence + 1 -
            c.session.sendWindow.nextUnacknowledgedSequence)
          c.session.sendWindow.nextUnacknowledgedSequence 0 { c with fx := c.fx.tick } h le_rfl)
      split
      · exact hloop.trans (transmits_setSend _ ⟨fun _ => rfl, rfl, rfl, rfl, rfl, rfl⟩ rfl)
      · exact hloop
    · exact transmits_shutdown _ (by decide) c
  · exact .refl _ _

/-! ## First transmission -/

theorem transmits_transmitLoop (fuel : ℕ) (c : Ctx ρ) (h : SendInv writers c.session.sendWindow)
    (hfuel : c.session.sendWindow.nextSequence ≤ c.session.sendWindow.lastSentSequence + fuel) :
    Transmits (Live c.session.sendWindow) c
        (transmitLoop fuel (c.session.sendWindow.lastSentSequence + 1) c).1 ∧
      (transmitLoop fuel (c.session.sendWindow.lastSentSequence + 1) c).2 = true := by
  induction fuel generalizing c with
  | zero =>
    have := h.sent_lt
    omega
  | succ fuel ih =>
    have hle := h.unacknowledged_le
    rw [transmitLoop]
    dsimp only
    split
    · rename_i hcond
      obtain ⟨hvalid, hsequence, -⟩ := h.filled _ hle hcond.1
      rw [if_pos ⟨hvalid, hsequence.symm⟩]
      set index := slot kDefaultWindowSize (c.session.sendWindow.lastSentSequence + 1)
      set c₁ := c.setSend
        (c.session.sendWindow.stamp index c.session.receiveWindow.currentAvailableSize) with hc₁
      have hlive := h.live hle hcond.1 (m := c₁.session.sendWindow.messages index)
        (unstamped_stamp _ _ _)
      have hstamp : Transmits (Live c.session.sendWindow) c c₁ :=
        transmits_setSend _ (same_stamp _ _ _) rfl
      have hforward : Transmits (Live c.session.sendWindow) c₁
          { c₁ with fx := (Effects.forward (c₁.session.sendWindow.messages index) c₁.fx).1 } :=
        transmits_fx _ c₁ rfl rfl rfl rfl
          ⟨[(_, c₁.fx.answers.headD .success)], rfl, by simpa using hlive.2⟩
      have hsent := hstamp.trans hforward
      split
      · -- transmitted: the cursor moves to the message just sent
        set c₂ : Ctx ρ :=
          { c₁ with
            fx := (Effects.forward (c₁.session.sendWindow.messages index) c₁.fx).1.tick } with hc₂
        set w := c₂.session.sendWindow.transmitted index
          (Effects.forward (c₁.session.sendWindow.messages index) c₁.fx).1.currentTime with hw
        have hcursor : w.lastSentSequence = c.session.sendWindow.lastSentSequence + 1 := hlive.1
        have hmoved : Transmits (Live c.session.sendWindow) c (c₂.setSend w) := by
          refine ⟨hsent.quiet.trans ⟨rfl, rfl, rfl, rfl, rfl, rfl, .inl rfl, rfl, rfl⟩, rfl,
            hsent.slots.trans ⟨fun _ => rfl, rfl, rfl, rfl, rfl, rfl⟩, ?_, .inl ?_, rfl, rfl,
            hsent.emits⟩
          · simp only [Ctx.setSend]
            omega
          · simp only [Ctx.setSend]
            omega
        have hrest := ih (c₂.setSend w) (hmoved.inv h) (by
          have hnext := hmoved.slots.nextSequence
          simp only [Ctx.setSend] at hnext ⊢
          omega)
        have hseq : (c₂.setSend w).session.sendWindow.lastSentSequence =
            c.session.sendWindow.lastSentSequence + 1 := hcursor
        rw [hseq] at hrest
        exact ⟨hmoved.trans (hrest.1.mono fun m hm => hm.same hmoved.slots), hrest.2⟩
      · split
        · exact ⟨hsent.trans (transmits_shutdown _ (by decide) _), rfl⟩
        · exact ⟨hsent, rfl⟩
    · exact ⟨.refl _ _, rfl⟩

theorem transmits_updateSendWindow [RoundTripTime ρ] (c : Ctx ρ)
    (h : SendInv writers c.session.sendWindow) :
    Transmits (Live c.session.sendWindow) c (updateSendWindow c) := by
  have hfirst := transmits_retransmitTimedOut c h
  have hloop := transmits_transmitLoop
    (retransmitTimedOut c).session.sendWindow.transmitBound (retransmitTimedOut c)
    (hfirst.inv h) (by simp only [TransmitWindow.transmitBound]; omega)
  dsimp only [updateSendWindow]
  rw [if_pos hloop.2]
  exact hfirst.trans (hloop.1.mono fun m hm => hm.same hfirst.slots)

def FastRetransmits (n : ℕ) (w : TransmitWindow kDefaultWindowSize ρ) (m : MessageBuffer) :
    Prop :=
  ¬ Acknowledges n w ∧ kFastRetransmitThreshold ≤ duplicateCount w ∧
    unstamped m = unstamped (w.messages (slot _ (duplicateSeq w)))

structure Marks (n : ℕ) (c c' : Ctx ρ) : Prop where
  quiet : Quiet c c'
  receiveWindow : c'.session.receiveWindow = c.session.receiveWindow
  messages : ∀ i, unstamped (c'.session.sendWindow.messages i) =
    unstamped (c.session.sendWindow.messages i)
  nextSequence : c'.session.sendWindow.nextSequence = c.session.sendWindow.nextSequence
  inv : ∀ writers, SendInv writers c.session.sendWindow → SendInv writers c'.session.sendWindow
  failedAsserts : c'.fx.failedAsserts = c.fx.failedAsserts
  spinning : c'.fx.spinning = c.fx.spinning
  emits : Emits (FastRetransmits n c.session.sendWindow) c.fx c'.fx

theorem marks_markMessagesAsAcknowledged [RoundTripTime ρ] (n : ℕ) (c : Ctx ρ)
    (h : SendInv writers c.session.sendWindow) : Marks n c (markMessagesAsAcknowledged n c) := by
  by_cases hn : Acknowledges n c.session.sendWindow
  · have hr := scanned_ctx n c h
    rw [mark_of_acknowledges h hn]
    refine ⟨⟨rfl, rfl, rfl, rfl, rfl, rfl, .inl rfl, rfl, rfl⟩, rfl, ?_, hr.nextSequence,
      fun _ hk => hk.advance, rfl, rfl, .of_eq rfl⟩
    intro i
    exact congrArg unstamped (congrFun hr.messages i)
  · rw [mark_of_duplicate h hn]
    have hd := (transmits_tick _ c).trans (transmits_duplicateAck { c with fx := c.fx.tick })
    exact ⟨hd.quiet, hd.receiveWindow, hd.slots.messages, hd.slots.nextSequence,
      fun _ hk => hd.inv hk, hd.failedAsserts, hd.spinning,
      hd.emits.mono fun m hm => ⟨hn, hm⟩⟩

end DevDriver.Analysis
