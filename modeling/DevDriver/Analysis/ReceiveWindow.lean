import DevDriver.Analysis.Frames
import DevDriver.Model.Endpoint

/-!
# The receive window keeps its shape

`RecvInv` is the representation invariant of the receive window.
-/

namespace DevDriver.Analysis

open Library Model ReceiveWindow

/-! ## The invariant -/

structure Labelled (w : ReceiveWindow kDefaultWindowSize) (i : Fin kDefaultWindowSize)
    (s : ℕ) : Prop where
  unread_le : w.nextUnreadSequence ≤ s
  lt_window : s < w.nextUnreadSequence + kDefaultWindowSize
  slot_eq : slot _ s = i
  sequence : w.sequence i = s
  header : (w.messages i).header.sequence = s

/-- The representation of the receive window. -/
structure RecvInv (taken : ℕ) (w : ReceiveWindow kDefaultWindowSize) : Prop where
  unread_le : w.nextUnreadSequence ≤ w.nextExpectedSequence
  expected_le : w.nextExpectedSequence ≤ w.nextUnreadSequence + kDefaultWindowSize
  acknowledged_le : w.lastUnacknowledgedSequence ≤ w.nextExpectedSequence
  filled : ∀ s, w.nextUnreadSequence ≤ s → s < w.nextExpectedSequence →
    w.valid (slot _ s) = true
  labelled : ∀ i, w.valid i = true → ∃ s, Labelled w i s
  gap : w.nextExpectedSequence < w.nextUnreadSequence + kDefaultWindowSize →
    w.valid (slot _ w.nextExpectedSequence) = false
  count : w.semaphore + taken = w.nextExpectedSequence - w.nextUnreadSequence
  kinds : ∀ i, w.valid i = true → (w.messages i).kind = .data ∨ (w.messages i).kind = .fin
  available : 1 ≤ w.currentAvailableSize ∧
    w.currentAvailableSize ≤ maxAdvertizedSize kDefaultWindowSize

variable {taken : ℕ} {w : ReceiveWindow kDefaultWindowSize}

theorem RecvInv.label (h : RecvInv taken w) {s : ℕ} (hle : w.nextUnreadSequence ≤ s)
    (hlt : s < w.nextUnreadSequence + kDefaultWindowSize)
    (hvalid : w.valid (slot _ s) = true) : Labelled w (slot _ s) s := by
  obtain ⟨t, ht⟩ := h.labelled _ hvalid
  have hunread := ht.unread_le
  have hwindow := ht.lt_window
  obtain rfl : t = s := slot_inj ht.slot_eq (by omega) (by omega)
  exact ht

theorem RecvInv.ahead (h : RecvInv taken w) {i : Fin kDefaultWindowSize}
    (hvalid : w.valid i = true) :
    ∃ s, Labelled w i s ∧ s ≠ w.nextExpectedSequence := by
  obtain ⟨s, hs⟩ := h.labelled i hvalid
  refine ⟨s, hs, ?_⟩
  rintro rfl
  have hgap := h.gap hs.lt_window
  rw [hs.slot_eq, hvalid] at hgap
  cases hgap

theorem recvInv_new : RecvInv 0 (ReceiveWindow.new kDefaultWindowSize) where
  unread_le := le_rfl
  expected_le := Nat.le_add_right _ _
  acknowledged_le := le_rfl
  filled s hle hlt := absurd hlt (not_lt.mpr hle)
  labelled i hi := by cases hi
  gap _ := rfl
  count := rfl
  kinds i hi := by cases hi
  available := ⟨by decide, le_rfl⟩

theorem RecvInv.reset (h : RecvInv taken w) (hempty : w.nextExpectedSequence = w.nextUnreadSequence)
    (hvalid : ∀ i, w.valid i = false) (sequence : ℕ) : RecvInv taken (w.reset sequence) where
  unread_le := le_rfl
  expected_le := Nat.le_add_right _ _
  acknowledged_le := le_rfl
  filled s hle hlt := absurd hlt (not_lt.mpr hle)
  labelled i hi := by
    simp_all [ReceiveWindow.reset]
  gap _ := hvalid _
  count := by
    have := h.count
    simp only [ReceiveWindow.reset]
    omega
  kinds i hi := by
    have := hvalid i
    simp_all [ReceiveWindow.reset]
  available := ⟨show 1 ≤ maxAdvertizedSize kDefaultWindowSize by decide, le_rfl⟩

theorem toInt32_of_lt {n : ℕ} (h : n < 2 ^ 31) : toInt32 n = n := by
  apply Int.bmod_eq_of_le
  · norm_num
  · norm_num
    omega

theorem calculateCurrentWindowSize_mem (hle : w.nextUnreadSequence ≤ w.nextExpectedSequence)
    (hwindow : w.nextExpectedSequence ≤ w.nextUnreadSequence + kDefaultWindowSize) :
    1 ≤ calculateCurrentWindowSize w ∧
      calculateCurrentWindowSize w ≤ maxAdvertizedSize kDefaultWindowSize := by
  have hsize : maxAdvertizedSize kDefaultWindowSize = 64 := by decide
  have hcast : toInt32 64 = 64 := toInt32_of_lt (by omega)
  simp only [kDefaultWindowSize] at hwindow
  have hdistance : toInt32 (sub64 w.nextExpectedSequence w.nextUnreadSequence) =
      (w.nextExpectedSequence - w.nextUnreadSequence : ℕ) := by
    rw [sub64_of_le hle, toInt32_of_lt (by omega)]
  rw [calculateCurrentWindowSize, hdistance, hsize, hcast]
  omega

theorem RecvInv.acknowledged (h : RecvInv taken w) : RecvInv taken w.acknowledged where
  unread_le := h.unread_le
  expected_le := h.expected_le
  acknowledged_le := le_rfl
  filled := h.filled
  labelled i hi := by
    obtain ⟨s, hs⟩ := h.labelled i hi
    exact ⟨s, hs.unread_le, hs.lt_window, hs.slot_eq, hs.sequence, hs.header⟩
  gap := h.gap
  count := h.count
  kinds := h.kinds
  available := calculateCurrentWindowSize_mem h.unread_le h.expected_le

theorem receiveScan_spec (w : ReceiveWindow kDefaultWindowSize) (fuel s : ℕ)
    (hle : w.nextUnreadSequence ≤ s)
    (hwindow : s ≤ w.nextUnreadSequence + kDefaultWindowSize)
    (hfuel : w.nextUnreadSequence + kDefaultWindowSize ≤ s + fuel) :
    s ≤ receiveScan w fuel s ∧
      receiveScan w fuel s ≤ w.nextUnreadSequence + kDefaultWindowSize ∧
      (∀ t, s ≤ t → t < receiveScan w fuel s → w.valid (slot _ t) = true) ∧
      (receiveScan w fuel s < w.nextUnreadSequence + kDefaultWindowSize →
        w.valid (slot _ (receiveScan w fuel s)) = false) := by
  induction fuel generalizing s with
  | zero =>
    refine ⟨le_rfl, hwindow, fun t ht hlt => absurd hlt (not_lt.mpr ht), fun hlt => ?_⟩
    simp only [receiveScan] at hlt
    omega
  | succ fuel ih =>
    rw [receiveScan]
    rw [sub64_of_le hle]
    split
    · rename_i hcond
      obtain ⟨h₁, h₂, h₃, h₄⟩ := ih (s + 1) (by omega) (by omega) (by omega)
      refine ⟨by omega, h₂, fun t ht hlt => ?_, h₄⟩
      rcases Nat.eq_or_lt_of_le ht with rfl | ht
      · exact hcond.2
      · exact h₃ t ht hlt
    · rename_i hcond
      refine ⟨le_rfl, hwindow, fun t ht hlt => absurd hlt (not_lt.mpr ht), fun hlt => ?_⟩
      by_contra hne
      exact hcond ⟨by omega, by simpa using hne⟩

theorem labelled_store (h : RecvInv taken w) {m : MessageBuffer}
    (hle : w.nextExpectedSequence ≤ m.header.sequence)
    (hwindow : m.header.sequence < w.nextUnreadSequence + kDefaultWindowSize)
    {i : Fin kDefaultWindowSize} (hi : (w.store m).valid i = true) :
    ∃ s, Labelled (w.store m) i s := by
  have hunread := h.unread_le
  rcases eq_or_ne i (slot _ m.header.sequence) with rfl | hne
  · exact ⟨m.header.sequence, by simp only [store]; omega, hwindow, rfl,
      by simp [store], by simp [store]⟩
  · obtain ⟨s, hs⟩ := h.labelled i (by simpa [store, hne] using hi)
    exact ⟨s, hs.unread_le, hs.lt_window, hs.slot_eq,
      by simpa [store, hne] using hs.sequence,
      by simpa [store, hne] using hs.header⟩

theorem kind_store (w : ReceiveWindow kDefaultWindowSize) (m : MessageBuffer)
    (i : Fin kDefaultWindowSize) : ((w.store m).messages i).kind =
      if i = slot _ m.header.sequence then m.kind else (w.messages i).kind := by
  rcases eq_or_ne i (slot _ m.header.sequence) with rfl | hne
  · simp [store, MessageBuffer.kind]
  · simp [store, hne]

theorem RecvInv.accept (h : RecvInv taken w) {m : MessageBuffer}
    (hkind : m.kind = .data ∨ m.kind = .fin) (hle : w.nextExpectedSequence ≤ m.header.sequence)
    (hwindow : m.header.sequence < w.nextUnreadSequence + kDefaultWindowSize) :
    RecvInv taken (w.accept m) ∧
      w.nextExpectedSequence ≤ (w.accept m).nextExpectedSequence := by
  have hunread := h.unread_le
  obtain ⟨hge, hend, hpassed, hgap⟩ := receiveScan_spec (w.store m) kDefaultWindowSize
    w.nextExpectedSequence h.unread_le h.expected_le
    (by simp only [store]; omega)
  refine ⟨⟨hunread.trans hge, hend, h.acknowledged_le.trans hge, ?_, ?_, hgap, ?_, ?_,
    h.available⟩, hge⟩
  · intro s hs hlt
    rcases lt_or_ge s w.nextExpectedSequence with hbefore | hafter
    · have hslot : slot kDefaultWindowSize s ≠ slot _ m.header.sequence := by
        have hs : w.nextUnreadSequence ≤ s := hs
        exact slot_ne (by omega) (by omega) (by omega)
      simpa [ReceiveWindow.accept, advance, store, hslot]
        using h.filled s hs hbefore
    · exact hpassed s hafter hlt
  · intro i hi
    obtain ⟨s, hs⟩ := labelled_store h hle hwindow hi
    exact ⟨s, hs.unread_le, hs.lt_window, hs.slot_eq, hs.sequence, hs.header⟩
  · have hcount := h.count
    simp only [ReceiveWindow.accept, advance, store] at hge ⊢
    omega
  · intro i hi
    have hkindstore := kind_store w m i
    rcases eq_or_ne i (slot _ m.header.sequence) with rfl | hne
    · rw [if_pos rfl] at hkindstore
      exact hkindstore ▸ hkind
    · rw [if_neg hne] at hkindstore
      exact hkindstore ▸ h.kinds i (by
        simpa [ReceiveWindow.accept, advance, store, hne] using hi)

theorem RecvInv.wait (h : RecvInv taken w)
    (hready : 0 < w.semaphore) : RecvInv (taken + 1) w.wait where
  unread_le := h.unread_le
  expected_le := h.expected_le
  acknowledged_le := h.acknowledged_le
  filled := h.filled
  labelled i hi := by
    obtain ⟨s, hs⟩ := h.labelled i hi
    exact ⟨s, hs.unread_le, hs.lt_window, hs.slot_eq, hs.sequence, hs.header⟩
  gap := h.gap
  count := by
    have := h.count
    simp only [ReceiveWindow.wait]
    omega
  kinds := h.kinds
  available := h.available

theorem RecvInv.signal
    (h : RecvInv (taken + 1) w) : RecvInv taken { w with semaphore := w.semaphore + 1 } where
  unread_le := h.unread_le
  expected_le := h.expected_le
  acknowledged_le := h.acknowledged_le
  filled := h.filled
  labelled i hi := by
    obtain ⟨s, hs⟩ := h.labelled i hi
    exact ⟨s, hs.unread_le, hs.lt_window, hs.slot_eq, hs.sequence, hs.header⟩
  gap := h.gap
  count := by
    have := h.count
    simp only
    omega
  kinds := h.kinds
  available := h.available

theorem RecvInv.readable
    (h : RecvInv (taken + 1) w) : w.nextUnreadSequence < w.nextExpectedSequence ∧
      w.valid w.unreadSlot = true ∧ Labelled w w.unreadSlot w.nextUnreadSequence := by
  have hcount := h.count
  have hlt : w.nextUnreadSequence < w.nextExpectedSequence := by omega
  have hvalid := h.filled _ le_rfl hlt
  exact ⟨hlt, hvalid, h.label le_rfl (Nat.lt_add_of_pos_right (by decide)) hvalid⟩

theorem RecvInv.consume (h : RecvInv (taken + 1) w) : RecvInv taken w.consume := by
  have hlt := h.readable.1
  have hend := h.expected_le
  have hcount := h.count
  constructor
  · exact hlt
  · simp only [ReceiveWindow.consume]
    omega
  · exact h.acknowledged_le
  · intro s hs hbefore
    have hs : w.nextUnreadSequence + 1 ≤ s := hs
    have hbefore : s < w.nextExpectedSequence := hbefore
    have hslot : slot kDefaultWindowSize s ≠ slot _ w.nextUnreadSequence :=
      slot_ne (by omega) (by omega) (by omega)
    simpa [ReceiveWindow.consume, unreadSlot, hslot] using
      h.filled s (by omega) hbefore
  · intro i hi
    have hne : i ≠ w.unreadSlot := by
      rintro rfl
      simp [ReceiveWindow.consume] at hi
    obtain ⟨s, hs⟩ := h.labelled i (by simpa [ReceiveWindow.consume, hne] using hi)
    have hunread : s ≠ w.nextUnreadSequence := by
      rintro rfl
      exact hne hs.slot_eq.symm
    have hle := hs.unread_le
    have hwindow := hs.lt_window
    exact ⟨s, by simp only [ReceiveWindow.consume]; omega,
      by simp only [ReceiveWindow.consume]; omega, hs.slot_eq, hs.sequence, hs.header⟩
  · intro _
    rcases Nat.lt_or_ge w.nextExpectedSequence (w.nextUnreadSequence + kDefaultWindowSize)
      with hgap | hfull
    · have := h.gap hgap
      simp only [ReceiveWindow.consume, Function.update_apply]
      split
      · rfl
      · exact this
    · -- the window was full, so the slot of the next expected message is the one just freed
      have hslot : slot kDefaultWindowSize w.nextExpectedSequence = w.unreadSlot := by
        have : w.nextExpectedSequence = w.nextUnreadSequence + kDefaultWindowSize := by omega
        rw [this, slot_add_size, unreadSlot]
      simp [ReceiveWindow.consume, hslot]
  · simp only [ReceiveWindow.consume]
    omega
  · intro i hi
    have hne : i ≠ w.unreadSlot := by
      rintro rfl
      simp [ReceiveWindow.consume] at hi
    exact h.kinds i (by simpa [ReceiveWindow.consume, hne] using hi)
  · exact calculateCurrentWindowSize_mem (by simp only; omega) (by simp only; omega)

end DevDriver.Analysis
