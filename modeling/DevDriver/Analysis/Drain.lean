import DevDriver.Analysis.Identity
import DevDriver.Library.Descent

/-!
# Handling a message uses something up

The weight of a message and of a session is chosen so that a session that handles a message leaves
less behind than there was.
-/

namespace DevDriver.Analysis

open Library Model Effects

variable {ρ : Type}

def Puts (P : MessageBuffer → Prop) (k : ℕ) (fx fx' : Effects) : Prop :=
  ∃ l, fx'.inFlight = fx.inFlight ++ l ∧ l.length ≤ k ∧ ∀ m ∈ l, P m

variable {P : MessageBuffer → Prop}

theorem Puts.of_eq {fx fx' : Effects} (h : fx'.forwarded = fx.forwarded) : Puts P 0 fx fx' :=
  ⟨[], by simp [inFlight, h], le_rfl, nofun⟩

theorem Puts.trans {j k : ℕ} {a b c : Effects} (hab : Puts P j a b)
    (hbc : Puts P k b c) : Puts P (j + k) a c := by
  obtain ⟨l, hl, hlength, hP⟩ := hab
  obtain ⟨l', hl', hlength', hP'⟩ := hbc
  refine ⟨l ++ l', by rw [hl', hl, List.append_assoc], ?_, ?_⟩
  · rw [List.length_append]
    omega
  · intro m hm
    rcases List.mem_append.mp hm with hm | hm
    · exact hP m hm
    · exact hP' m hm

theorem Puts.mono {Q : MessageBuffer → Prop} {j k : ℕ} {fx fx' : Effects} (h : Puts P j fx fx')
    (hPQ : ∀ m, P m → Q m) (hjk : j ≤ k) : Puts Q k fx fx' := by
  obtain ⟨l, hl, hlength, hP⟩ := h
  exact ⟨l, hl, hlength.trans hjk, fun m hm => hPQ m (hP m hm)⟩

theorem puts_forwardRetry (m : MessageBuffer) (answers : List Result) (fx : Effects)
    (h : fx.answers = answers) : Puts (· = m) 1 fx (forwardRetry m answers fx).1 := by
  fun_induction forwardRetry m answers fx with
  | case1 answers fx ih =>
    have hhead : (forward m fx).1.inFlight = fx.inFlight := by
      simp [forward, inFlight, h]
    obtain ⟨l, hl, hrest⟩ := ih (by simp [forward, h])
    exact ⟨l, by rw [hl, hhead], hrest⟩
  | case2 answers fx =>
    rw [forward]
    generalize fx.answers.headD .success = answer
    by_cases hsuccess : answer = .success
    · exact ⟨[m], by simp [inFlight, List.filterMap_append, hsuccess], le_rfl, by simp⟩
    · exact ⟨[], by simp [inFlight, List.filterMap_append, hsuccess], Nat.zero_le _,
        List.forall_mem_nil _⟩

theorem puts_sendOrClose (m : MessageBuffer) (c : Ctx ρ) :
    Puts (· = m) 1 c.fx (sendOrClose m c).1.fx := by
  have hretry := puts_forwardRetry m c.fx.answers c.fx rfl
  dsimp only [sendOrClose]
  split
  · simpa using hretry
  · exact hretry

theorem puts_sendAckMessage (c : Ctx ρ) :
    Puts (·.kind = .ack) 1 c.fx (sendAckMessage c).1.fx := by
  have hcheck : Puts (·.kind = .ack) 0 c.fx (checkWindowSize c).fx :=
    .of_eq (by simp [checkWindowSize, Ctx.check])
  set c₀ := (checkWindowSize c).setReceive c.session.receiveWindow.acknowledged with hc₀
  have hsend := puts_sendOrClose (controlMessage .ack
    (sub64 c.session.receiveWindow.nextExpectedSequence 1) c₀.session) c₀
  refine (hcheck.trans (hsend.mono ?_ le_rfl)).mono (fun _ => id) le_rfl
  rintro m rfl
  simp [controlMessage, MessageBuffer.kind]

theorem puts_writeMessageIntoReceiveWindow (m : MessageBuffer) (c : Ctx ρ) :
    Puts (·.kind = .ack) 1 c.fx (writeMessageIntoReceiveWindow m c).fx := by
  have hnothing : ∀ c' : Ctx ρ, c'.fx.forwarded = c.fx.forwarded →
      Puts (·.kind = .ack) 1 c.fx c'.fx := fun c' h =>
    (Puts.of_eq h).mono (fun _ => id) (Nat.zero_le _)
  have hack : ∀ c' : Ctx ρ, c'.fx.forwarded = c.fx.forwarded →
      Puts (·.kind = .ack) 1 c.fx (sendAckMessage c').1.fx := fun c' h =>
    ((Puts.of_eq h).trans (puts_sendAckMessage c')).mono (fun _ => id) le_rfl
  dsimp only [writeMessageIntoReceiveWindow]
  split
  · split
    · split
      · split
        · exact hack _ (by simp [Ctx.setReceive, Ctx.check])
        · exact hnothing _ (by simp [Ctx.setReceive, Ctx.check])
      · exact hnothing _ rfl
    · exact hack _ rfl
  · exact hnothing _ rfl

def remainingDuplicates (s : Session ρ) : ℕ := 2 ^ 32 - 1 - s.sendWindow.lastAckCount % 2 ^ 32

theorem lastAckCount_ackScan [RoundTripTime ρ] (currentTime n fuel : ℕ) (a : AckScan ρ) :
    (ackScan currentTime n fuel a).window.lastAckCount = a.window.lastAckCount := by
  induction fuel generalizing a with
  | zero => rfl
  | succ fuel ih =>
    rw [ackScan]
    split
    · split
      · rw [ih]
        rfl
      · rfl
    · rfl

/-- What an acknowledgement puts in flight: nothing, or one message at the price of one
duplicate. -/
def Retransmits (c c' : Ctx ρ) : Prop :=
  Puts (fun _ => True) 0 c.fx c'.fx ∨ Puts (fun _ => True) 1 c.fx c'.fx ∧
    remainingDuplicates c'.session < remainingDuplicates c.session

theorem puts_fastRetransmit (c : Ctx ρ) : Puts (fun _ => True) 1 c.fx (fastRetransmit c).fx := by
  dsimp only [fastRetransmit]
  set c₀ := c.setSend (c.session.sendWindow.stamp
    (slot kDefaultWindowSize c.session.sendWindow.retransSeq)
    c.session.receiveWindow.currentAvailableSize)
  have hputs := puts_sendOrClose (c₀.session.sendWindow.messages
    (slot kDefaultWindowSize c.session.sendWindow.retransSeq)) c₀
  split
  · exact hputs.mono (fun _ _ => trivial) le_rfl
  · exact hputs.mono (fun _ _ => trivial) le_rfl

theorem lastAckCount_fastRetransmit (c : Ctx ρ) :
    (fastRetransmit c).session.sendWindow.lastAckCount = c.session.sendWindow.lastAckCount := by
  dsimp only [fastRetransmit]
  split <;> simp [Ctx.setSend, TransmitWindow.stamp]

theorem retransmits_duplicateAck (c : Ctx ρ) : Retransmits c (duplicateAck c) := by
  dsimp only [duplicateAck]
  split
  · rename_i hthreshold
    refine .inr ⟨puts_fastRetransmit (c.setSend { c.session.sendWindow with
      lastAckCount := (c.session.sendWindow.lastAckCount + 1) % 2 ^ 32 }), ?_⟩
    -- past the threshold the count has not wrapped
    rw [remainingDuplicates, remainingDuplicates, lastAckCount_fastRetransmit]
    simp only [Ctx.setSend, kFastRetransmitThreshold] at hthreshold ⊢
    omega
  · exact .inl (.of_eq rfl)

theorem retransmits_markMessagesAsAcknowledged [RoundTripTime ρ] (n : ℕ) (c : Ctx ρ) :
    Retransmits c (markMessagesAsAcknowledged n c) := by
  have hcount : (c.ackScan n).window.lastAckCount = c.session.sendWindow.lastAckCount :=
    lastAckCount_ackScan _ _ _ _
  dsimp only [markMessagesAsAcknowledged]
  split
  · exact .inl (.of_eq rfl)
  · split
    · set c₀ : Ctx ρ :=
        { session := { c.session with sendWindow := (c.ackScan n).window }
          fx := { c.fx.tick with failedAsserts := c.fx.tick.failedAsserts ++
            (c.ackScan n).failed } } with hc₀
      have h := retransmits_duplicateAck c₀
      have hremaining : remainingDuplicates c₀.session = remainingDuplicates c.session := by
        simp only [remainingDuplicates, hc₀, hcount]
      rw [Retransmits, hremaining] at h
      exact h
    · exact .inl (.of_eq rfl)

/-! ## Weights -/

def messageWeight (m : MessageBuffer) : Weight where
  first := if m.kind = .rst then 0 else 1
  second := 0
  third := if m.kind = .ack then 0 else 1

def wireWeight (l : List MessageBuffer) : Weight where
  first := (l.map fun m => (messageWeight m).first).sum
  second := 0
  third := (l.map fun m => (messageWeight m).third).sum

def extraAnswers : SessionState → ℕ
  | .synSent | .finWait2 => 1
  | _ => 0

def sessionWeight (s : Session ρ) : Weight where
  first := extraAnswers s.sessionState
  second := remainingDuplicates s
  third := 0

@[simp] theorem wireWeight_nil : wireWeight [] = ⟨0, 0, 0⟩ := rfl

theorem wireWeight_append (l l' : List MessageBuffer) :
    wireWeight (l ++ l') = wireWeight l + wireWeight l' := by
  ext <;> simp [wireWeight]

theorem wireWeight_first_le (l : List MessageBuffer) : (wireWeight l).first ≤ l.length := by
  induction l with
  | nil => exact le_rfl
  | cons m l ih =>
    have hone : (messageWeight m).first ≤ 1 := by
      dsimp only [messageWeight]
      split <;> omega
    simp only [wireWeight, List.map_cons, List.sum_cons, List.length_cons] at ih ⊢
    omega

theorem wireWeight_third_acks {l : List MessageBuffer} (h : ∀ m ∈ l, m.kind = .ack) :
    (wireWeight l).third = 0 := by
  refine List.sum_eq_zero fun n hn => ?_
  obtain ⟨m, hm, rfl⟩ := List.mem_map.mp hn
  exact if_pos (h m hm)

variable {m : MessageBuffer}

theorem extraAnswers_transition {a b : SessionState}
    (h : Transition m a b) : extraAnswers b ≤ extraAnswers a := by
  cases h with
  | stay => exact le_rfl
  | reset reason =>
    by_cases hreason : reason = .success
    · cases a <;> simp [shutdownState, extraAnswers, hreason]
    · rw [shutdownState_of_ne hreason]
      exact Nat.zero_le _
  | _ => exact Nat.zero_le _

structure Spends (m : MessageBuffer) (c c' : Ctx ρ) : Prop where
  extra_le : extraAnswers c'.session.sessionState ≤ extraAnswers c.session.sessionState
  below : ∃ l, c'.fx.inFlight = c.fx.inFlight ++ l ∧
    (wireWeight l + sessionWeight c'.session).Below (messageWeight m + sessionWeight c.session)

theorem Spends.of_lt {c c' : Ctx ρ} {k : ℕ}
    (hextra : extraAnswers c'.session.sessionState ≤ extraAnswers c.session.sessionState)
    (hputs : Puts P k c.fx c'.fx) (hlt : k + extraAnswers c'.session.sessionState <
      (messageWeight m).first + extraAnswers c.session.sessionState) : Spends m c c' := by
  obtain ⟨l, hl, hlength, -⟩ := hputs
  have hfirst := wireWeight_first_le l
  refine ⟨hextra, l, hl, ?_, .inl ?_⟩ <;>
    simp only [Weight.first_add, sessionWeight] <;> omega

theorem Spends.of_duplicate {c c' : Ctx ρ} {k : ℕ}
    (hextra : extraAnswers c'.session.sessionState ≤ extraAnswers c.session.sessionState)
    (hputs : Puts P k c.fx c'.fx) (hle : k + extraAnswers c'.session.sessionState ≤
      (messageWeight m).first + extraAnswers c.session.sessionState)
    (hdown : remainingDuplicates c'.session < remainingDuplicates c.session) :
    Spends m c c' := by
  obtain ⟨l, hl, hlength, -⟩ := hputs
  have hfirst := wireWeight_first_le l
  refine ⟨hextra, l, hl, ?_, .inr (.inl ?_)⟩
  · simp only [Weight.first_add, sessionWeight]
    omega
  · simpa [Weight.second_add, sessionWeight, wireWeight, messageWeight] using hdown

theorem Spends.of_acks {c c' : Ctx ρ} {k : ℕ}
    (hextra : extraAnswers c'.session.sessionState ≤ extraAnswers c.session.sessionState)
    (hputs : Puts (·.kind = .ack) k c.fx c'.fx) (hle : k + extraAnswers c'.session.sessionState ≤
      (messageWeight m).first + extraAnswers c.session.sessionState) (hkind : m.kind ≠ .ack)
    (hsame : c'.session.sendWindow.lastAckCount = c.session.sendWindow.lastAckCount) :
    Spends m c c' := by
  obtain ⟨l, hl, hlength, hacks⟩ := hputs
  have hfirst := wireWeight_first_le l
  refine ⟨hextra, l, hl, ?_, .inr (.inr ⟨?_, ?_⟩)⟩
  · simp only [Weight.first_add, sessionWeight]
    omega
  · simp only [Weight.second_add, sessionWeight, wireWeight, messageWeight, remainingDuplicates,
      hsame]
  · simp only [Weight.third_add, wireWeight_third_acks hacks, sessionWeight, messageWeight,
      if_neg hkind]
    omega

theorem Spends.of_retransmits {c c' : Ctx ρ} (hkind : m.kind ≠ .rst)
    (hextra : extraAnswers c'.session.sessionState ≤ extraAnswers c.session.sessionState)
    (h : Retransmits c c') : Spends m c c' := by
  have hcost : (messageWeight m).first = 1 := if_neg hkind
  rcases h with hputs | ⟨hputs, hdown⟩
  · exact .of_lt hextra hputs (by omega)
  · exact .of_duplicate hextra hputs (by omega) hdown

/-! ## Handling a message -/

theorem spends_synSent [RoundTripTime ρ] (hkind : m.kind = .synAck) {c : Ctx ρ}
    (hstate : c.session.sessionState = .synSent) (n : ℕ) :
    let c₁ := markMessagesAsAcknowledged n c
    Spends m c (sendAckMessage { c₁ with session := adoptSynAck m c₁.session }).1 := by
  intro c₁
  set c₂ : Ctx ρ := { c₁ with session := adoptSynAck m c₁.session }
  have hack := puts_sendAckMessage c₂
  have hopen : extraAnswers (sendAckMessage c₂).1.session.sessionState = 0 := by
    rcases (quiet_sendAckMessage c₂).state with h | h
    · rw [h]
      rfl
    · rw [h]
      rfl
  have hcost : (messageWeight m).first = 1 := if_neg (by rw [hkind]; decide)
  have hpaid : extraAnswers c.session.sessionState = 1 := by
    rw [hstate]
    rfl
  have hextra : extraAnswers (sendAckMessage c₂).1.session.sessionState ≤
      extraAnswers c.session.sessionState := by omega
  rcases retransmits_markMessagesAsAcknowledged n c with hputs | ⟨hputs, hdown⟩
  · exact .of_lt hextra (hputs.trans (hack.mono (fun _ _ => trivial) le_rfl)) (by omega)
  · refine .of_duplicate hextra (hputs.trans (hack.mono (fun _ _ => trivial) le_rfl))
      (by omega) ?_
    rw [remainingDuplicates, (sendAckMessage_frame c₂).1]
    exact hdown

theorem Spends.updateSendWindowSize {c c' : Ctx ρ} (h : Spends m c c') :
    Spends m c (updateSendWindowSize m c') := ⟨h.extra_le, h.below⟩

theorem Spends.of_check {c c' : Ctx ρ} {a : Assertion} {b : Bool}
    (h : Spends m (c.check a b) c') : Spends m c c' := by
  obtain ⟨hextra, l, hl, hbelow⟩ := h
  refine ⟨hextra, l, ?_, hbelow⟩
  rw [hl, inFlight, Ctx.check, (check_frame c.fx a b).1]
  rfl

theorem spends_handleSynAckMessage [RoundTripTime ρ] (hkind : m.kind = .synAck)
    (c : Ctx ρ) : Spends m c (handleSynAckMessage m c) := by
  have hrst : m.kind ≠ .rst := by
    rw [hkind]
    decide
  have hmark : ∀ n, Spends m (c.check .synAckClient (c.session.sessionType = .client))
      (markMessagesAsAcknowledged n
        (c.check .synAckClient (c.session.sessionType = .client))) := by
    intro n
    have hquiet := quiet_markMessagesAsAcknowledged n
      (c.check .synAckClient (c.session.sessionType = .client))
    refine .of_retransmits hrst ?_ (retransmits_markMessagesAsAcknowledged n _)
    rcases hquiet.state with h | h
    · rw [h]
    · rw [h]
      exact Nat.zero_le _
  dsimp only [handleSynAckMessage]
  apply Spends.updateSendWindowSize
  apply Spends.of_check (a := .synAckClient)
  rw [Ctx.check_session]
  split
  · exact hmark _
  · exact hmark _
  · exact hmark _
  · exact hmark _
  · rename_i hstate
    exact spends_synSent (c := c.check .synAckClient (c.session.sessionType = .client)) hkind
      hstate _
  · refine .of_retransmits hrst le_rfl (.inl (.of_eq rfl))

theorem spends_handleFinMessage (hkind : m.kind = .fin) (c : Ctx ρ) :
    Spends m c (handleFinMessage m c) := by
  have hcost : (messageWeight m).first = 1 := if_neg (by rw [hkind]; decide)
  have hack : m.kind ≠ .ack := by
    rw [hkind]
    decide
  have hwrite := puts_writeMessageIntoReceiveWindow m c
  have hwindow := (writeMessageIntoReceiveWindow_frame m c).1
  dsimp only [handleFinMessage]
  apply Spends.updateSendWindowSize
  split
  · generalize writeMessageIntoReceiveWindow m c = c₁ at hwrite hwindow
    refine .of_acks (Nat.zero_le _) hwrite ?_ hack ?_
    · rw [hcost]
      exact Nat.le_add_right _ _
    · simp only [Ctx.closeGracefully, hwindow]
  · split
    · rename_i hstate
      have hboth := hwrite.trans (puts_sendAckMessage (writeMessageIntoReceiveWindow m c))
      have hwindow := (sendAckMessage_frame (writeMessageIntoReceiveWindow m c)).1.trans hwindow
      generalize (sendAckMessage (writeMessageIntoReceiveWindow m c)).1 = c₁ at hboth hwindow
      refine .of_acks (Nat.zero_le _) hboth ?_ hack ?_
      · rw [hcost, hstate]
        rfl
      · simp only [Ctx.closeGracefully, hwindow]
    · exact .of_lt (P := (·.kind = .ack)) le_rfl (.of_eq rfl) (by omega)

theorem spends_handleDataMessage (hkind : m.kind = .data) (c : Ctx ρ) :
    Spends m c (handleDataMessage m c) := by
  have hextra := extraAnswers_transition (dispatched_handleDataMessage hkind c).state
  have hcost : (messageWeight m).first = 1 := if_neg (by rw [hkind]; decide)
  have hack : m.kind ≠ .ack := by
    rw [hkind]
    decide
  have hwrite := puts_writeMessageIntoReceiveWindow m c
  have hwindow := congrArg (·.lastAckCount) (writeMessageIntoReceiveWindow_frame m c).1
  dsimp only [handleDataMessage] at hextra ⊢
  split at hextra
  · exact .of_acks hextra hwrite (by omega) hack hwindow
  · exact .of_acks hextra hwrite (by omega) hack hwindow
  · exact .of_acks hextra hwrite (by omega) hack hwindow
  · exact .of_lt (P := (·.kind = .ack)) hextra (.of_eq rfl) (by omega)

theorem spends_handleAckMessage [RoundTripTime ρ] (hkind : m.kind = .ack)
    (c : Ctx ρ) : Spends m c (handleAckMessage m c) := by
  have hextra := extraAnswers_transition (dispatched_handleAckMessage hkind c).state
  have hrst : m.kind ≠ .rst := by
    rw [hkind]
    decide
  refine .of_retransmits hrst hextra ?_
  have hmark := retransmits_markMessagesAsAcknowledged m.header.sequence c
  dsimp only [handleAckMessage]
  split
  · exact retransmits_markMessagesAsAcknowledged m.header.sequence (c.setState .established)
  · exact hmark
  · exact hmark
  · exact hmark
  · exact hmark
  · exact .inl (.of_eq rfl)

theorem extraAnswers_handleSynMessage (m : MessageBuffer) (c : Ctx ρ) :
    extraAnswers (handleSynMessage m c).session.sessionState = 0 := by
  rcases (handleSynMessage_spec m c).2 with h | h
  · rw [h]
    rfl
  · rw [h]
    rfl

theorem spends_handleSynMessage (hkind : m.kind = .syn) (c : Ctx ρ) :
    Spends m c (handleSynMessage m c) := by
  have hcost : (messageWeight m).first = 1 := if_neg (by rw [hkind]; decide)
  have hopen := extraAnswers_handleSynMessage m c
  exact .of_lt (P := (·.kind = .ack)) (by omega) (.of_eq (handleSynMessage_spec m c).1)
    (by omega)

theorem spends_dispatchMessage [RoundTripTime ρ] (m : MessageBuffer) (c : Ctx ρ) :
    Spends m c (dispatchMessage m c) := by
  unfold dispatchMessage
  cases hkind : m.kind with
  | syn => exact spends_handleSynMessage hkind c
  | synAck => exact spends_handleSynAckMessage hkind c
  | fin => exact spends_handleFinMessage hkind c
  | data => exact spends_handleDataMessage hkind c
  | ack => exact spends_handleAckMessage hkind c
  | rst =>
    have hextra := extraAnswers_transition (dispatched_handleRstMessage hkind c).state
    have hack : m.kind ≠ .ack := by
      rw [hkind]
      decide
    change Spends m c (handleRstMessage m c)
    exact .of_acks hextra (.of_eq rfl) (by omega) hack
      (congrArg (·.lastAckCount) (Ctx.shutdown_frame _ c).1)
  | unknown =>
    have hcost : (messageWeight m).first = 1 := if_neg (by rw [hkind]; decide)
    have hforwarded : (c.check .messageKind false).fx.forwarded = c.fx.forwarded := by
      simp [Ctx.check]
    refine .of_lt (P := (·.kind = .ack)) le_rfl (.of_eq hforwarded) ?_
    rw [hcost, Ctx.check_session]
    omega

theorem spends_handleMessage [RoundTripTime ρ] (pSession : SessionRef) (m : MessageBuffer)
    (c : Ctx ρ) : Spends m c (handleMessage pSession m c) := by
  obtain ⟨hextra, l, hl, hbelow⟩ := spends_dispatchMessage m c
  dsimp only [handleMessage]
  split
  · -- the transition to Established calls the protocol server and changes nothing that counts
    set c₁ := dispatchMessage m c
    have hstate := (enterEstablished_frame pSession c₁).2.1
    have hweight : sessionWeight (enterEstablished pSession c₁).session =
        sessionWeight c₁.session := by
      simp only [sessionWeight, remainingDuplicates, hstate,
        (enterEstablished_windows pSession c₁).1]
    refine ⟨by rw [hstate]; exact hextra, l, ?_, ?_⟩
    · rw [inFlight, enterEstablished_forwarded]
      exact hl
    · rw [hweight]
      exact hbelow
  · exact ⟨hextra, l, hl, hbelow⟩

end DevDriver.Analysis
