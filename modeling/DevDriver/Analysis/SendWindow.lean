import DevDriver.Analysis.Frames
import DevDriver.Model.Endpoint

/-!
# The send window keeps its shape

`SendInv` is the representation invariant of the send window: the three cursors are in order and at
most a window apart, the valid slots are exactly those of the outstanding messages, and free slots,
writers in progress and outstanding messages add up to the window.
-/

namespace DevDriver.Analysis

open Library Model

variable {ρ : Type}

/-! ## The invariant -/

def unstamped (m : MessageBuffer) : MessageBuffer :=
  { m with header := { m.header with windowSize := 0 } }

/-- The kinds of the messages that go through the send window.  The others, Ack and Rst, are
control messages and are never filed. -/
def Filed (kind : SessionMessage) : Prop := kind ≠ .ack ∧ kind ≠ .rst

instance (kind : SessionMessage) : Decidable (Filed kind) := inferInstanceAs (Decidable (_ ∧ _))

/-- The representation invariant of the send window, with `writers` calls between the
semaphore and the lock. -/
structure SendInv (writers : ℕ) (w : TransmitWindow kDefaultWindowSize ρ) : Prop where
  unacknowledged_le : w.nextUnacknowledgedSequence ≤ w.lastSentSequence + 1
  sent_lt : w.lastSentSequence + 1 ≤ w.nextSequence
  next_le : w.nextSequence ≤ w.nextUnacknowledgedSequence + kDefaultWindowSize
  filled : ∀ s, w.nextUnacknowledgedSequence ≤ s → s < w.nextSequence →
    w.valid (slot _ s) = true ∧ w.sequence (slot _ s) = s ∧
      (w.messages (slot _ s)).header.sequence = s
  outstanding : ∀ i, w.valid i = true →
    ∃ s, w.nextUnacknowledgedSequence ≤ s ∧ s < w.nextSequence ∧ slot _ s = i
  slots : w.semaphore + writers + (w.nextSequence - w.nextUnacknowledgedSequence) =
    kDefaultWindowSize
  kinds : ∀ i, Filed (w.messages i).kind

/-- A message of the send window that was written and is not yet acknowledged, filed under
its own sequence number. -/
structure Live (w : TransmitWindow kDefaultWindowSize ρ) (m : MessageBuffer) : Prop where
  unacknowledged_le : w.nextUnacknowledgedSequence ≤ m.header.sequence
  lt_next : m.header.sequence < w.nextSequence
  valid : w.valid (slot _ m.header.sequence) = true
  sequence : w.sequence (slot _ m.header.sequence) = m.header.sequence
  message : unstamped m = unstamped (w.messages (slot _ m.header.sequence))

/-- Two send windows with the same slots, up to stamped window sizes, and the same cursors
up to `lastSentSequence`. -/
structure SameSlots (w w' : TransmitWindow kDefaultWindowSize ρ) : Prop where
  messages : ∀ i, unstamped (w'.messages i) = unstamped (w.messages i)
  sequence : w'.sequence = w.sequence
  valid : w'.valid = w.valid
  semaphore : w'.semaphore = w.semaphore
  nextSequence : w'.nextSequence = w.nextSequence
  nextUnacknowledged : w'.nextUnacknowledgedSequence = w.nextUnacknowledgedSequence

theorem SameSlots.refl (w : TransmitWindow kDefaultWindowSize ρ) : SameSlots w w :=
  ⟨fun _ => rfl, rfl, rfl, rfl, rfl, rfl⟩

variable {w : TransmitWindow kDefaultWindowSize ρ}

theorem SameSlots.trans {u v : TransmitWindow kDefaultWindowSize ρ} (huv : SameSlots u v)
    (hvw : SameSlots v w) : SameSlots u w where
  messages i := (hvw.messages i).trans (huv.messages i)
  sequence := hvw.sequence.trans huv.sequence
  valid := hvw.valid.trans huv.valid
  semaphore := hvw.semaphore.trans huv.semaphore
  nextSequence := hvw.nextSequence.trans huv.nextSequence
  nextUnacknowledged := hvw.nextUnacknowledged.trans huv.nextUnacknowledged

variable {writers : ℕ} {m : MessageBuffer}

theorem sequence_eq_of_unstamped {m' : MessageBuffer} (h : unstamped m = unstamped m') :
    m.header.sequence = m'.header.sequence :=
  congrArg (fun m => m.header.sequence) h

theorem kind_eq_of_unstamped {m' : MessageBuffer} (h : unstamped m = unstamped m') :
    m.kind = m'.kind := by
  have hkind : (unstamped m).kind = (unstamped m').kind := by rw [h]
  exact hkind

theorem same_stamp (index : Fin kDefaultWindowSize) (windowSize : ℕ)
    (w : TransmitWindow kDefaultWindowSize ρ) : SameSlots w (w.stamp index windowSize) where
  messages i := by
    rcases eq_or_ne i index with rfl | hi
    · simp [TransmitWindow.stamp, unstamped]
    · simp [TransmitWindow.stamp, hi]
  sequence := rfl
  valid := rfl
  semaphore := rfl
  nextSequence := rfl
  nextUnacknowledged := rfl

theorem unstamped_stamp (index : Fin kDefaultWindowSize) (windowSize : ℕ)
    (w : TransmitWindow kDefaultWindowSize ρ) :
    unstamped ((w.stamp index windowSize).messages index) = unstamped (w.messages index) :=
  (same_stamp index windowSize w).messages index

theorem SendInv.same {w' : TransmitWindow kDefaultWindowSize ρ} (h : SendInv writers w)
    (hs : SameSlots w w') (hge : w.lastSentSequence ≤ w'.lastSentSequence)
    (hlt : w'.lastSentSequence < w.nextSequence) : SendInv writers w' where
  unacknowledged_le := by
    have := h.unacknowledged_le
    rw [hs.nextUnacknowledged]
    omega
  sent_lt := by
    rw [hs.nextSequence]
    omega
  next_le := by
    rw [hs.nextSequence, hs.nextUnacknowledged]
    exact h.next_le
  filled s hle hlt := by
    rw [hs.nextUnacknowledged] at hle
    rw [hs.nextSequence] at hlt
    rw [hs.valid, hs.sequence, sequence_eq_of_unstamped (hs.messages _)]
    exact h.filled s hle hlt
  outstanding i hi := by
    rw [hs.valid] at hi
    rw [hs.nextUnacknowledged, hs.nextSequence]
    exact h.outstanding i hi
  slots := by
    rw [hs.semaphore, hs.nextSequence, hs.nextUnacknowledged]
    exact h.slots
  kinds i := by
    rw [kind_eq_of_unstamped (hs.messages i)]
    exact h.kinds i

theorem Live.same {w' : TransmitWindow kDefaultWindowSize ρ} (hs : SameSlots w w') (h : Live w' m) :
    Live w m where
  unacknowledged_le := hs.nextUnacknowledged ▸ h.unacknowledged_le
  lt_next := hs.nextSequence ▸ h.lt_next
  valid := hs.valid ▸ h.valid
  sequence := hs.sequence ▸ h.sequence
  message := h.message.trans (hs.messages _)

theorem SendInv.live (h : SendInv writers w) {s : ℕ} (hle : w.nextUnacknowledgedSequence ≤ s)
    (hlt : s < w.nextSequence) (hm : unstamped m = unstamped (w.messages (slot _ s))) :
    m.header.sequence = s ∧ Live w m := by
  obtain ⟨hvalid, hsequence, hheader⟩ := h.filled s hle hlt
  obtain rfl : m.header.sequence = s := (sequence_eq_of_unstamped hm).trans hheader
  exact ⟨rfl, hle, hlt, hvalid, hsequence, hm⟩

theorem SendInv.next_free (h : SendInv (writers + 1) w) :
    w.valid (slot _ w.nextSequence) = false := by
  by_contra hne
  obtain ⟨s, hle, hlt, hslot⟩ := h.outstanding _ (by simpa using hne)
  have hslots := h.slots
  have := slot_inj hslot (by omega) (by omega)
  omega

theorem sendInv_new [RoundTripTime ρ] : SendInv 0 (TransmitWindow.new kDefaultWindowSize ρ) where
  unacknowledged_le := le_rfl
  sent_lt := le_rfl
  next_le := Nat.le_add_right _ _
  filled s hle hlt := absurd hlt (not_lt.mpr hle)
  outstanding i hi := by cases hi
  slots := rfl
  kinds _ := show Filed MessageBuffer.zero.kind by decide

theorem SendInv.wait (h : SendInv writers w) (hfree : 0 < w.semaphore) :
    SendInv (writers + 1) w.wait where
  unacknowledged_le := h.unacknowledged_le
  sent_lt := h.sent_lt
  next_le := h.next_le
  filled := h.filled
  outstanding := h.outstanding
  slots := by
    have := h.slots
    simp only [TransmitWindow.wait]
    omega
  kinds := h.kinds

theorem SendInv.write (h : SendInv (writers + 1) w) (hm : m.header.sequence = w.nextSequence)
    (hkind : Filed m.kind) : SendInv writers (w.write m) := by
  have hslots := h.slots
  have hsent := h.sent_lt
  have hle := h.unacknowledged_le
  constructor
  · exact hle
  · simp only [TransmitWindow.write]
    omega
  · simp only [TransmitWindow.write]
    omega
  · intro s hs hlt
    simp only [TransmitWindow.write] at hs hlt ⊢
    rcases eq_or_ne s w.nextSequence with rfl | hne
    · simp [hm]
    · have hslot : slot kDefaultWindowSize s ≠ slot _ w.nextSequence :=
        slot_ne hne (by omega) (by omega)
      simpa [hslot] using h.filled s hs (by omega)
  · intro i hi
    simp only [TransmitWindow.write] at hi ⊢
    rcases eq_or_ne i (slot _ w.nextSequence) with rfl | hne
    · exact ⟨w.nextSequence, by omega, by omega, rfl⟩
    · obtain ⟨s, hs, hlt, hslot⟩ := h.outstanding i (by simpa [hne] using hi)
      exact ⟨s, hs, by omega, hslot⟩
  · simp only [TransmitWindow.write]
    omega
  · intro i
    simp only [TransmitWindow.write]
    rcases eq_or_ne i (slot _ w.nextSequence) with rfl | hne
    · simpa using hkind
    · simpa [hne] using h.kinds i
/-! ## Acknowledging -/

section Acknowledging

variable [RoundTripTime ρ]

def movedTo (s : ℕ) (w : TransmitWindow kDefaultWindowSize ρ) :
    TransmitWindow kDefaultWindowSize ρ :=
  { w with nextUnacknowledgedSequence := s }

variable {writers : ℕ}

theorem SendInv.acknowledge {a : AckScan ρ} (currentTime : ℕ)
    (h : SendInv writers (movedTo a.seq a.window)) (hseq : a.seq ≤ a.window.lastSentSequence) :
    SendInv writers (movedTo (a.seq + 1) (a.acknowledge currentTime).window) := by
  have hslots := h.slots
  have hsent := h.sent_lt
  have hnext := h.next_le
  simp only [movedTo] at hslots hsent hnext
  constructor
  · simpa [movedTo, AckScan.acknowledge] using hseq
  · simpa [movedTo, AckScan.acknowledge] using hsent
  · simp only [movedTo, AckScan.acknowledge]
    omega
  · intro s hs hlt
    simp only [movedTo, AckScan.acknowledge] at hs hlt ⊢
    have hslot : slot kDefaultWindowSize s ≠ slot _ a.seq :=
      slot_ne (by omega) (by omega) (by omega)
    simpa [movedTo, hslot] using h.filled s (by simp only [movedTo]; omega) hlt
  · intro i hi
    simp only [movedTo, AckScan.acknowledge] at hi ⊢
    have hne : i ≠ slot _ a.seq := by
      rintro rfl
      simp at hi
    obtain ⟨s, hs, hlt, rfl⟩ := h.outstanding i (by simpa [movedTo, hne] using hi)
    simp only [movedTo] at hs hlt
    refine ⟨s, ?_, hlt, rfl⟩
    have : s ≠ a.seq := fun he => hne (by rw [he])
    omega
  · simp only [movedTo, AckScan.acknowledge]
    omega
  · exact h.kinds

structure Scanned (writers n : ℕ) (a r : AckScan ρ) : Prop where
  inv : SendInv writers (movedTo r.seq r.window)
  seq : r.seq = max a.seq (min n a.window.lastSentSequence + 1)
  failed : r.failed = a.failed
  messages : r.window.messages = a.window.messages
  nextSequence : r.window.nextSequence = a.window.nextSequence
  nextUnacknowledged :
    r.window.nextUnacknowledgedSequence = a.window.nextUnacknowledgedSequence
  /-- without progress the scan changes nothing -/
  idle : r.seq = a.seq → r = a

theorem scanned_ackScan (currentTime n : ℕ) (fuel : ℕ) (a : AckScan ρ)
    (h : SendInv writers (movedTo a.seq a.window))
    (hfuel : a.window.lastSentSequence + 1 ≤ a.seq + fuel) :
    Scanned writers n a (ackScan currentTime n fuel a) := by
  induction fuel generalizing a with
  | zero => exact ⟨h, by simp only [ackScan]; omega, rfl, rfl, rfl, rfl, fun _ => rfl⟩
  | succ fuel ih =>
    rw [ackScan]
    by_cases hle : a.seq ≤ min n a.window.lastSentSequence
    · have hsent := h.sent_lt
      have hslots := h.slots
      simp only [movedTo] at hsent hslots
      obtain ⟨hvalid, hsequence, -⟩ := h.filled a.seq le_rfl (by simp only [movedTo]; omega)
      have hvalid : a.window.valid (slot _ a.seq) = true := hvalid
      have hsequence : a.window.sequence (slot _ a.seq) = a.seq := hsequence
      have hdistance : sub64 a.window.nextSequence a.seq ≤ kDefaultWindowSize := by
        rw [sub64_of_le (by omega)]
        omega
      have hr := ih (a.acknowledge currentTime) (h.acknowledge currentTime (by omega))
        (by simp only [AckScan.acknowledge]; omega)
      have hseq : (ackScan currentTime n fuel (a.acknowledge currentTime)).seq =
          max (a.seq + 1) (min n a.window.lastSentSequence + 1) := hr.seq
      rw [if_pos hle, if_pos ⟨hvalid, hsequence⟩]
      refine ⟨hr.inv, by omega, ?_, hr.messages, hr.nextSequence, hr.nextUnacknowledged, ?_⟩
      · rw [hr.failed]
        simp [AckScan.acknowledge, hdistance]
      · intro he
        omega
    · rw [if_neg hle]
      exact ⟨h, by omega, rfl, rfl, rfl, rfl, fun _ => rfl⟩

theorem scanned_ctx (n : ℕ) (c : Ctx ρ)
    (h : SendInv writers c.session.sendWindow) : Scanned writers n
      ⟨c.session.sendWindow, c.session.sendWindow.nextUnacknowledgedSequence,
        c.session.sendWindow.roundTripTime, []⟩ (c.ackScan n) :=
  scanned_ackScan _ n _ _ h (by simp only; omega)

def Acknowledges (n : ℕ) (w : TransmitWindow kDefaultWindowSize ρ) : Prop :=
  w.nextUnacknowledgedSequence ≤ min n w.lastSentSequence

instance (n : ℕ) (w : TransmitWindow kDefaultWindowSize ρ) : Decidable (Acknowledges n w) :=
  inferInstanceAs (Decidable (_ ≤ _))

variable {n : ℕ} {c : Ctx ρ}

theorem mark_of_acknowledges (h : SendInv writers c.session.sendWindow)
    (hn : Acknowledges n c.session.sendWindow) :
    markMessagesAsAcknowledged n c =
      { session := { c.session with sendWindow := (c.ackScan n).advance }, fx := c.fx.tick } := by
  have hr := scanned_ctx n c h
  have hseq := hr.seq
  have hnext := hr.nextUnacknowledged
  simp only [Acknowledges] at hn
  simp only at hseq hnext
  have hlt : (c.ackScan n).window.nextUnacknowledgedSequence < (c.ackScan n).seq := by omega
  simp [markMessagesAsAcknowledged, hlt, Ctx.setSend, hr.failed]

theorem mark_of_duplicate (h : SendInv writers c.session.sendWindow)
    (hn : ¬ Acknowledges n c.session.sendWindow) :
    markMessagesAsAcknowledged n c = duplicateAck { c with fx := c.fx.tick } := by
  have hr := scanned_ctx n c h
  have hseq := hr.seq
  simp only [Acknowledges] at hn
  simp only at hseq
  have heq : (c.ackScan n).seq = c.session.sendWindow.nextUnacknowledgedSequence := by omega
  simp [markMessagesAsAcknowledged, hr.idle heq]

theorem SendInv.advance (h : SendInv writers c.session.sendWindow) :
    SendInv writers (c.ackScan n).advance := by
  have hr := (scanned_ctx n c h).inv
  exact ⟨hr.unacknowledged_le, hr.sent_lt, hr.next_le, hr.filled, hr.outstanding, hr.slots,
    hr.kinds⟩

end Acknowledging

end DevDriver.Analysis
