import DevDriver.Library.Ring
import DevDriver.Model.SharedQueue

/-!
# Order and counts of the shared queue

Between its two indices the ring of slots holds the messages that were pushed and not popped yet, in
order.
-/

namespace DevDriver.Analysis

open Library Model QueueMessage

theorem countP_set_add {α : Type} {p : α → Bool} {l : List α} {i : ℕ} {c : α}
    (h : l[i]? = some c) (c' : α) :
    (l.set i c').countP p + (p c).toNat = l.countP p + (p c').toNat := by
  obtain ⟨hi, hc⟩ := List.getElem?_eq_some_iff.mp h
  rw [List.countP_set hi, hc]
  have hpos : p c = true → 0 < l.countP p := fun hp =>
    List.countP_pos_iff.mpr ⟨c, List.mem_of_getElem? h, hp⟩
  cases hp : p c with
  | true =>
    have := hpos hp
    cases hp' : p c' with
    | true => simp; omega
    | false => simp; omega
  | false =>
    cases hp' : p c' with
    | true => simp
    | false => simp

def isPushLocks : QueueCall → Bool
  | .pushLocks _ => true
  | _ => false

def isPushSignals : QueueCall → Bool
  | .pushSignals _ => true
  | _ => false

def isPopLocks : QueueCall → Bool
  | .popLocks _ => true
  | _ => false

def isPopSignals : QueueCall → Bool
  | .popSignals _ _ => true
  | _ => false

def isReturned : QueueCall → Bool
  | .pushed _ | .popped _ _ => true
  | _ => false

theorem counts_set {calls : List QueueCall} {call : ℕ} {c : QueueCall}
    (hcall : calls[call]? = some c) (c' : QueueCall) :
    ((calls.set call c').countP isPushLocks + (isPushLocks c).toNat =
        calls.countP isPushLocks + (isPushLocks c').toNat) ∧
      ((calls.set call c').countP isPushSignals + (isPushSignals c).toNat =
        calls.countP isPushSignals + (isPushSignals c').toNat) ∧
      ((calls.set call c').countP isPopLocks + (isPopLocks c).toNat =
        calls.countP isPopLocks + (isPopLocks c').toNat) ∧
      ((calls.set call c').countP isPopSignals + (isPopSignals c).toNat =
        calls.countP isPopSignals + (isPopSignals c').toNat) :=
  ⟨countP_set_add hcall c', countP_set_add hcall c', countP_set_add hcall c',
    countP_set_add hcall c'⟩

def Fits (q : QueueInfo) (m : QueueMessage) : Prop :=
  m.payloadSize ≤ kMaxPayloadSizeInBytes ∧ m.size ≤ q.queueMessageSize

theorem length_encoded {m : QueueMessage} (h : m.payloadSize ≤ kMaxPayloadSizeInBytes) :
    m.encoded.length = m.size := by
  rw [QueueMessage.encoded, List.length_take, m.2, QueueMessage.size, Nat.min_eq_left]
  have hmax : kMaxPayloadSizeInBytes + kMessageHeaderSize = kMaxMessageSizeInBytes := rfl
  omega

theorem baseOffset_eq (q : QueueInfo) {index : ℕ} (h : index < q.queueLength) :
    q.baseOffset index = q.messageOffset + q.queueMessageSize * index := by
  have hsize := q.slots_le
  have hlt := q.bufferSize.toNat_lt
  rcases Nat.eq_zero_or_pos q.queueMessageSize with hzero | hpos
  · rw [QueueInfo.baseOffset, hzero, Nat.zero_mul, Nat.add_zero]
    exact Nat.mod_eq_of_lt (by rw [hzero] at hsize; omega)
  · have hstrict : q.queueMessageSize * index < q.queueMessageSize * q.queueLength :=
      Nat.mul_lt_mul_of_pos_left h hpos
    exact Nat.mod_eq_of_lt (by omega)

theorem slots_disjoint (q : QueueInfo) {i j : ℕ} (hi : i < q.queueLength) (hj : j < q.queueLength)
    (hne : i ≠ j) {m n : ℕ} (hm : m ≤ q.queueMessageSize) (hn : n ≤ q.queueMessageSize) :
    q.baseOffset i + m ≤ q.baseOffset j ∨ q.baseOffset j + n ≤ q.baseOffset i := by
  rw [baseOffset_eq q hi, baseOffset_eq q hj]
  rcases Nat.lt_or_gt_of_ne hne with hlt | hgt
  · have : q.queueMessageSize * (i + 1) ≤ q.queueMessageSize * j := Nat.mul_le_mul_left _ hlt
    rw [Nat.mul_add, Nat.mul_one] at this
    exact .inl (by omega)
  · have : q.queueMessageSize * (j + 1) ≤ q.queueMessageSize * i := Nat.mul_le_mul_left _ hgt
    rw [Nat.mul_add, Nat.mul_one] at this
    exact .inr (by omega)

/-! ## The invariant -/

structure IsEncoded (q : QueueInfo) (bytes : List UInt8) : Prop where
  size : bytes.length =
    kMessageHeaderSize + leNat (slice bytes payloadSizeOffset 4)
  payload : leNat (slice bytes payloadSizeOffset 4) ≤ kMaxPayloadSizeInBytes
  slot : bytes.length ≤ q.queueMessageSize

/-- The messages that were pushed and not popped lie in the slots between the indices, and the
semaphores count the slots together with the calls in progress. -/
structure QueueConsistent (q : QueueInfo) (popped : ℕ) (filled : List (List UInt8))
    (s : SharedQueue) : Prop where
  readIndex : s.readIndex = popped % q.queueLength
  writeIndex : s.writeIndex = (popped + filled.length) % q.queueLength
  slots : ∀ k (h : k < filled.length),
    readAt s.memory (q.baseOffset ((popped + k) % q.queueLength)) filled[k].length = filled[k]
  encoded : ∀ bytes ∈ filled, IsEncoded q bytes
  free : s.semWrite + s.calls.countP isPushLocks + filled.length + s.calls.countP isPopSignals =
    q.queueLength
  filledSlots : s.semRead + s.calls.countP isPushSignals + s.calls.countP isPopLocks =
    filled.length
  fits : ∀ m, .pushWaits m ∈ s.calls ∨ .pushLocks m ∈ s.calls → Fits q m

theorem isEncoded_encoded {q : QueueInfo} {m : QueueMessage} (h : Fits q m) :
    IsEncoded q m.encoded := by
  have hlength := length_encoded h.1
  have hfield : slice m.encoded payloadSizeOffset 4 =
      slice m.1 payloadSizeOffset 4 := by
    refine slice_take ?_
    rw [QueueMessage.size]
    have hheader : payloadSizeOffset + 4 ≤ kMessageHeaderSize := by decide
    omega
  constructor
  · rw [hlength, hfield]
    rfl
  · rw [hfield]
    exact h.1
  · rw [hlength]
    exact h.2

theorem fits_set {q : QueueInfo} {calls : List QueueCall}
    (h : ∀ m, .pushWaits m ∈ calls ∨ .pushLocks m ∈ calls → Fits q m) (call : ℕ) {c : QueueCall}
    (hc : ∀ m, c = .pushWaits m ∨ c = .pushLocks m → Fits q m) :
    ∀ m, .pushWaits m ∈ calls.set call c ∨ .pushLocks m ∈ calls.set call c → Fits q m := by
  rintro m (hm | hm)
  · rcases List.mem_or_eq_of_mem_set hm with hm | rfl
    · exact h m (.inl hm)
    · exact hc m (.inl rfl)
  · rcases List.mem_or_eq_of_mem_set hm with hm | rfl
    · exact h m (.inr hm)
    · exact hc m (.inr rfl)

namespace QueueConsistent

variable {q : QueueInfo} {popped : ℕ} {filled : List (List UInt8)} {s : SharedQueue} {call : ℕ}

theorem of_slots {t : SharedQueue} (h : QueueConsistent q popped filled s)
    (hread : t.readIndex = s.readIndex) (hwrite : t.writeIndex = s.writeIndex)
    (hmemory : t.memory = s.memory)
    (hfree : t.semWrite + t.calls.countP isPushLocks + t.calls.countP isPopSignals =
      s.semWrite + s.calls.countP isPushLocks + s.calls.countP isPopSignals)
    (hfilled : t.semRead + t.calls.countP isPushSignals + t.calls.countP isPopLocks =
      s.semRead + s.calls.countP isPushSignals + s.calls.countP isPopLocks)
    (hfits : ∀ m, .pushWaits m ∈ t.calls ∨ .pushLocks m ∈ t.calls → Fits q m) :
    QueueConsistent q popped filled t where
  readIndex := hread.trans h.readIndex
  writeIndex := hwrite.trans h.writeIndex
  slots k hk := by
    rw [hmemory]
    exact h.slots k hk
  encoded := h.encoded
  free := by
    have := h.free
    omega
  filledSlots := hfilled.trans h.filledSlots
  fits := hfits

theorem newCall (h : QueueConsistent q popped filled s) {c : QueueCall}
    (hc : ∀ m, c = .pushLocks m ∨ c = .pushWaits m → Fits q m)
    (hlocks : isPushLocks c = false) (hsignals : isPushSignals c = false)
    (hpops : isPopLocks c = false) (hpopped : isPopSignals c = false) :
    QueueConsistent q popped filled { s with calls := s.calls ++ [c] } := by
  refine h.of_slots rfl rfl rfl ?_ ?_ ?_
  · simp [hlocks, hpopped]
  · simp [hsignals, hpops]
  · rintro m (hm | hm)
    · rcases List.mem_append.mp hm with hm | hm
      · exact h.fits m (.inl hm)
      · exact hc m (.inr (List.mem_singleton.mp hm).symm)
    · rcases List.mem_append.mp hm with hm | hm
      · exact h.fits m (.inr hm)
      · exact hc m (.inl (List.mem_singleton.mp hm).symm)

theorem moveOn (h : QueueConsistent q popped filled s) {c : QueueCall} (c' : QueueCall)
    {semWrite semRead : ℕ} (failCount : UInt32) (hcall : s.calls[call]? = some c)
    (hfree : semWrite + (isPushLocks c').toNat + (isPopSignals c').toNat =
      s.semWrite + (isPushLocks c).toNat + (isPopSignals c).toNat)
    (hfilled : semRead + (isPushSignals c').toNat + (isPopLocks c').toNat =
      s.semRead + (isPushSignals c).toNat + (isPopLocks c).toNat)
    (hfits : ∀ m, c' = .pushWaits m ∨ c' = .pushLocks m → Fits q m) :
    QueueConsistent q popped filled (SharedQueue.setCall { s with
      semWrite := semWrite
      semRead := semRead
      failCount := failCount } call c') := by
  obtain ⟨hlocks, hsignals, hpops, hpopped⟩ := counts_set hcall c'
  refine h.of_slots rfl rfl rfl ?_ ?_ (fits_set h.fits call hfits)
  · dsimp only [SharedQueue.setCall]
    omega
  · dsimp only [SharedQueue.setCall]
    omega

theorem pushSection (h : QueueConsistent q popped filled s) {m : QueueMessage}
    (hcall : s.calls[call]? = some (.pushLocks m)) :
    (s.pushSection q m).2 = .success ∧ QueueConsistent q popped (filled ++ [m.encoded])
      ((s.pushSection q m).1.setCall call (.pushSignals .success)) := by
  obtain ⟨hlocks, hsignals, hpops, hpopped⟩ := counts_set hcall (.pushSignals .success)
  have hfits := h.fits m (.inr (List.mem_of_getElem? hcall))
  have hmine : 0 < s.calls.countP isPushLocks :=
    List.countP_pos_iff.mpr ⟨_, List.mem_of_getElem? hcall, rfl⟩
  have hfree := h.free
  have hlength : 0 < q.queueLength := by omega
  have hencoded := isEncoded_encoded hfits
  unfold SharedQueue.pushSection
  rw [if_pos hfits.2]
  refine ⟨rfl, ?_⟩
  simp only [isPushLocks, isPushSignals, isPopLocks, isPopSignals, Bool.toNat_true,
    Bool.toNat_false, Nat.add_zero] at hlocks hsignals hpops hpopped
  constructor
  · exact h.readIndex
  · show (s.writeIndex + 1) % q.queueLength = _
    rw [h.writeIndex, Nat.mod_add_mod, List.length_append, List.length_singleton, Nat.add_assoc]
  · intro k hk
    rw [List.length_append, List.length_singleton] at hk
    show readAt (writeAt s.memory (q.baseOffset s.writeIndex) m.encoded) _ _ = _
    rw [h.writeIndex]
    by_cases hlast : k = filled.length
    · subst hlast
      rw [List.getElem_append_right (Nat.le_refl _)]
      simp only [Nat.sub_self, List.getElem_cons_zero]
      exact readAt_writeAt _ _ _
    · have hk' : k < filled.length := by omega
      rw [List.getElem_append_left hk', readAt_writeAt_of_disjoint]
      · exact h.slots k hk'
      · exact slots_disjoint q (Nat.mod_lt _ hlength) (Nat.mod_lt _ hlength)
          (add_mod_ne hk' (by omega)) (h.encoded _ (List.getElem_mem hk')).slot hencoded.slot
  · intro bytes hbytes
    rcases List.mem_append.mp hbytes with hbytes | hbytes
    · exact h.encoded bytes hbytes
    · rw [List.mem_singleton.mp hbytes]
      exact hencoded
  · rw [List.length_append, List.length_singleton]
    dsimp only [SharedQueue.setCall]
    omega
  · rw [List.length_append, List.length_singleton]
    have := h.filledSlots
    dsimp only [SharedQueue.setCall]
    omega
  · exact fits_set h.fits call nofun

theorem popSection_slot {bytes : List UInt8} (hencoded : IsEncoded q bytes)
    (hslot : readAt s.memory (q.baseOffset s.readIndex) bytes.length = bytes)
    (message : QueueMessage) :
    ∃ returned : QueueMessage, returned.encoded = bytes ∧ s.popSection q message =
      ({ s with
          readIndex := (s.readIndex + 1) % q.queueLength
          popCount := s.popCount + 1 }, .success, returned) := by
  have hheader : payloadSizeOffset + 4 ≤ bytes.length := by
    have := hencoded.size
    have hoffset : payloadSizeOffset + 4 ≤ kMessageHeaderSize := by decide
    omega
  have hfield := readAt_add hslot hheader
  have hmax : bytes.length ≤ kMaxMessageSizeInBytes := by
    have := hencoded.size
    have := hencoded.payload
    have : kMaxPayloadSizeInBytes + kMessageHeaderSize = kMaxMessageSizeInBytes := rfl
    omega
  refine ⟨⟨bytes ++ message.1.drop bytes.length, ?_⟩, ?_, ?_⟩
  · rw [List.length_append, List.length_drop, message.2]
    exact Nat.add_sub_of_le hmax
  · rw [QueueMessage.encoded, QueueMessage.size, QueueMessage.payloadSize]
    rw [slice_append_left hheader, ← hencoded.size]
    exact List.take_left
  · unfold SharedQueue.popSection
    simp only [hfield, ← hencoded.size, hslot]
    rw [if_pos hencoded.payload, dif_pos ⟨hencoded.slot, hmax⟩]

theorem popSection (h : QueueConsistent q popped filled s) {message : QueueMessage}
    (hcall : s.calls[call]? = some (.popLocks message)) :
    (s.popSection q message).2.1 = .success ∧ ∃ rest,
      filled = (s.popSection q message).2.2.encoded :: rest ∧ QueueConsistent q (popped + 1) rest
        ((s.popSection q message).1.setCall call
          (.popSignals .success (s.popSection q message).2.2)) := by
  obtain ⟨hlocks, hsignals, hpops, hpopped⟩ := counts_set hcall
    (.popSignals .success (s.popSection q message).2.2)
  have hmine : 0 < s.calls.countP isPopLocks :=
    List.countP_pos_iff.mpr ⟨_, List.mem_of_getElem? hcall, rfl⟩
  have hfilledSlots := h.filledSlots
  have hfree := h.free
  cases filled with
  | nil =>
    rw [List.length_nil] at hfilledSlots
    omega
  | cons bytes rest =>
    have hencoded := h.encoded bytes (List.mem_cons_self ..)
    have hslot := h.slots 0 (Nat.zero_lt_succ _)
    rw [List.getElem_cons_zero, Nat.add_zero, ← h.readIndex] at hslot
    obtain ⟨returned, hbytes, hsection⟩ := popSection_slot hencoded hslot message
    rw [hsection] at hlocks hsignals hpops hpopped ⊢
    simp only [isPushLocks, isPushSignals, isPopLocks, isPopSignals, Bool.toNat_true,
      Bool.toNat_false, Nat.add_zero] at hlocks hsignals hpops hpopped
    rw [List.length_cons] at hfilledSlots hfree
    refine ⟨rfl, rest, by rw [hbytes], ?_⟩
    constructor
    · show (s.readIndex + 1) % q.queueLength = _
      rw [h.readIndex, Nat.mod_add_mod]
    · show s.writeIndex = _
      rw [h.writeIndex, List.length_cons]
      congr 1
      omega
    · intro k hk
      have := h.slots (k + 1) (Nat.succ_lt_succ hk)
      rw [List.getElem_cons_succ, ← Nat.add_assoc, Nat.add_right_comm] at this
      exact this
    · exact fun bytes' hmem => h.encoded bytes' (List.mem_cons_of_mem _ hmem)
    · dsimp only [SharedQueue.setCall]
      omega
    · dsimp only [SharedQueue.setCall]
      omega
    · exact fits_set h.fits call nofun

end QueueConsistent

/-! ## Steps -/

def pushedBy : Option QueueEvent → List (List UInt8)
  | some (.pushed m) => [m.encoded]
  | _ => []

def poppedBy : Option QueueEvent → List (List UInt8)
  | some (.popped m) => [m.encoded]
  | _ => []

/-- A push whose message fits the slot, unless its payload is refused before. -/
def FitsSlot (q : QueueInfo) (a : QueueAction) : Prop :=
  ∀ m, a = .push m → m.payloadSize ≤ kMaxPayloadSizeInBytes → m.size ≤ q.queueMessageSize

/-- One case for each access of a thread. -/
theorem QueueConsistent.step {q : QueueInfo} {popped : ℕ} {filled : List (List UInt8)}
    {s t : SharedQueue} {a : QueueAction} {o : Option QueueEvent}
    (h : QueueConsistent q popped filled s) (hfits : FitsSlot q a)
    (hstep : SharedQueue.step q s a = some (t, o)) :
    (∃ filled', filled ++ pushedBy o = poppedBy o ++ filled' ∧
      QueueConsistent q (popped + (poppedBy o).length) filled' t) ∧
    ∀ call, a = .lock call → o ≠ none := by
  have hsilent : ∀ t', QueueConsistent q popped filled t' → some (t', none) = some (t, o) →
      (∃ filled', filled ++ pushedBy o = poppedBy o ++ filled' ∧
        QueueConsistent q (popped + (poppedBy o).length) filled' t) := by
    intro t' ht' heq
    cases heq
    exact ⟨filled, List.append_nil _, ht'⟩
  cases a with
  | push m =>
    refine ⟨hsilent _ ?_ hstep, nofun⟩
    unfold SharedQueue.push
    split
    · rename_i hpayload
      refine h.newCall ?_ rfl rfl rfl rfl
      rintro m' (hm | hm)
      · cases hm
      · cases hm
        exact ⟨hpayload, hfits m rfl hpayload⟩
    · exact h.newCall (by simp) rfl rfl rfl rfl
  | pop message => exact ⟨hsilent _ (h.newCall (by simp) rfl rfl rfl rfl) hstep, nofun⟩
  | wait call =>
    refine ⟨?_, nofun⟩
    unfold SharedQueue.step at hstep
    dsimp only at hstep
    split at hstep
    · rename_i m hcall
      obtain ⟨hpos, hstep⟩ := Option.ite_none_right_eq_some.mp hstep
      have hwaits := h.fits m (.inl (List.mem_of_getElem? hcall))
      refine hsilent _ (h.moveOn (.pushLocks m) s.failCount hcall ?_ ?_ ?_) hstep
      · simp only [isPushLocks, isPopSignals, Bool.toNat_true, Bool.toNat_false]
        omega
      · rfl
      · rintro m' (hm | hm)
        · cases hm
        · cases hm
          exact hwaits
    · rename_i message hcall
      split at hstep
      · rename_i hpos
        refine hsilent _ (h.moveOn (.popLocks message) s.failCount hcall ?_ ?_ (by simp)) hstep
        · rfl
        · simp only [isPushSignals, isPopLocks, Bool.toNat_true, Bool.toNat_false]
          omega
      · cases hstep
    · cases hstep
  | waitFails call result =>
    refine ⟨?_, nofun⟩
    unfold SharedQueue.step at hstep
    dsimp only at hstep
    split at hstep
    · rename_i m hcall
      exact hsilent _ (h.moveOn (.pushed result.1) (s.failCount + 1) hcall rfl rfl
        (by simp)) hstep
    · rename_i message hcall
      exact hsilent _ (h.moveOn (.popped result.1 message) s.failCount hcall rfl rfl
        (by simp)) hstep
    · cases hstep
  | lock call =>
    unfold SharedQueue.step at hstep
    dsimp only at hstep
    split at hstep
    · rename_i m hcall
      obtain ⟨hsuccess, hpushed⟩ := h.pushSection hcall
      rw [hsuccess] at hstep
      cases hstep
      exact ⟨⟨_, rfl, hpushed⟩, nofun⟩
    · rename_i message hcall
      obtain ⟨hsuccess, rest, hfilled, hpopped⟩ := h.popSection hcall
      rw [hsuccess] at hstep
      cases hstep
      refine ⟨⟨rest, ?_, hpopped⟩, nofun⟩
      rw [hfilled]
      exact List.append_nil _
    · cases hstep
  | signal call =>
    refine ⟨?_, nofun⟩
    unfold SharedQueue.step at hstep
    dsimp only at hstep
    have hfree := h.free
    have hfilled := h.filledSlots
    split at hstep
    · rename_i result hcall
      -- the permit that is given back is one of those in use, so the semaphore is not full
      have hmine : 0 < s.calls.countP isPushSignals :=
        List.countP_pos_iff.mpr ⟨_, List.mem_of_getElem? hcall, rfl⟩
      have hroom : s.semRead < q.queueLength := by omega
      rw [SharedQueue.release, if_pos hroom] at hstep
      refine hsilent _ (h.moveOn (.pushed result) s.failCount hcall rfl ?_ (by simp)) hstep
      simp only [isPushSignals, isPopLocks, Bool.toNat_true, Bool.toNat_false]
    · rename_i result message hcall
      have hmine : 0 < s.calls.countP isPopSignals :=
        List.countP_pos_iff.mpr ⟨_, List.mem_of_getElem? hcall, rfl⟩
      have hroom : s.semWrite < q.queueLength := by omega
      rw [SharedQueue.release, if_pos hroom] at hstep
      refine hsilent _ (h.moveOn (.popped result message) s.failCount hcall ?_ rfl (by simp)) hstep
      simp only [isPushLocks, isPopSignals, Bool.toNat_true, Bool.toNat_false]
    · cases hstep

/-! ## Runs -/

def pushedOf (tr : List (SharedQueue × QueueAction × Option QueueEvent)) : List (List UInt8) :=
  tr.flatMap fun x => pushedBy x.2.2

def poppedOf (tr : List (SharedQueue × QueueAction × Option QueueEvent)) : List (List UInt8) :=
  tr.flatMap fun x => poppedBy x.2.2

def AtRestQueue (s : SharedQueue) : Prop := ∀ c ∈ s.calls, isReturned c = true

/-- A lossless queue in the state that a run leads to: the popped messages are the first pushed
ones, at rest the semaphores count the slots of the others and the free slots, the indices stand
behind the popped and the pushed messages, and no section of the run has failed. -/
structure IsLossless (q : QueueInfo)
    (tr : List (SharedQueue × QueueAction × Option QueueEvent)) (t : SharedQueue) : Prop where
  order : poppedOf tr <+: pushedOf tr
  semRead : AtRestQueue t → t.semRead = (pushedOf tr).length - (poppedOf tr).length
  semWrite : AtRestQueue t → t.semWrite + t.semRead = q.queueLength
  readIndex : t.readIndex = (poppedOf tr).length % q.queueLength
  writeIndex : t.writeIndex = (pushedOf tr).length % q.queueLength
  sections : ∀ x ∈ tr, ∀ call, x.2.1 = .lock call → x.2.2 ≠ none

theorem consistent_trace {q : QueueInfo} {s t : SharedQueue}
    {tr : List (SharedQueue × QueueAction × Option QueueEvent)} (hinit : SharedQueue.IsCreated q s)
    (htrace : (queueMachine q).Trace s tr t) (hfits : ∀ x ∈ tr, FitsSlot q x.2.1) :
    (∃ filled, pushedOf tr = poppedOf tr ++ filled ∧
      QueueConsistent q (poppedOf tr).length filled t) ∧
      ∀ x ∈ tr, ∀ call, x.2.1 = .lock call → x.2.2 ≠ none := by
  induction htrace with
  | nil =>
    refine ⟨⟨[], rfl, ?_⟩, by simp⟩
    constructor
    · rw [hinit.readIndex]
      exact (Nat.zero_mod _).symm
    · rw [hinit.writeIndex]
      exact (Nat.zero_mod _).symm
    · intro k hk
      cases hk
    · intro bytes hbytes
      cases hbytes
    · rw [hinit.semWrite, hinit.calls]
      rfl
    · rw [hinit.semRead, hinit.calls]
      rfl
    · intro m hm
      rw [hinit.calls] at hm
      rcases hm with hm | hm <;> cases hm
  | @snoc t u tr a o htrace hstep ih =>
    obtain ⟨⟨filled, horder, hconsistent⟩, hsections⟩ :=
      ih fun x hx => hfits x (List.mem_append_left _ hx)
    obtain ⟨⟨filled', horder', hconsistent'⟩, hsection⟩ := hconsistent.step
      (hfits _ (List.mem_append_right _ (List.mem_singleton_self _))) hstep
    have hpushed : pushedOf (tr ++ [(t, a, o)]) = pushedOf tr ++ pushedBy o := by
      simp [pushedOf]
    have hpopped : poppedOf (tr ++ [(t, a, o)]) = poppedOf tr ++ poppedBy o := by
      simp [poppedOf]
    refine ⟨⟨filled', ?_, ?_⟩, ?_⟩
    · rw [hpushed, hpopped, horder, List.append_assoc, horder', List.append_assoc]
    · rw [hpopped, List.length_append]
      exact hconsistent'
    · intro x hx
      rcases List.mem_append.mp hx with hx | hx
      · exact hsections x hx
      · rw [List.mem_singleton.mp hx]
        exact hsection

theorem countP_eq_zero_of_atRest {s : SharedQueue} (h : AtRestQueue s) {p : QueueCall → Bool}
    (hp : ∀ c, isReturned c = true → p c = false) : s.calls.countP p = 0 := by
  rw [List.countP_eq_zero]
  intro c hc
  rw [hp c (h c hc)]
  exact Bool.false_ne_true

/-- In every run whose pushed messages fit their slots the queue is a lossless FIFO, and at rest
its semaphores count its slots. -/
theorem shared_queue_lossless {q : QueueInfo} {s t : SharedQueue}
    {tr : List (SharedQueue × QueueAction × Option QueueEvent)} (hinit : (queueMachine q).init s)
    (htrace : (queueMachine q).Trace s tr t) (hfits : ∀ x ∈ tr, FitsSlot q x.2.1) :
    IsLossless q tr t := by
  obtain ⟨⟨filled, horder, h⟩, hsections⟩ := consistent_trace hinit htrace hfits
  have hlength : (pushedOf tr).length = (poppedOf tr).length + filled.length := by
    rw [horder, List.length_append]
  have hrest : AtRestQueue t → t.semRead = filled.length ∧
      t.semWrite + filled.length = q.queueLength := by
    intro hrest
    have hlocks := countP_eq_zero_of_atRest hrest (p := isPushLocks)
      (by rintro (_ | _) <;> simp [isReturned, isPushLocks])
    have hsignals := countP_eq_zero_of_atRest hrest (p := isPushSignals)
      (by rintro (_ | _) <;> simp [isReturned, isPushSignals])
    have hpops := countP_eq_zero_of_atRest hrest (p := isPopLocks)
      (by rintro (_ | _) <;> simp [isReturned, isPopLocks])
    have hpopped := countP_eq_zero_of_atRest hrest (p := isPopSignals)
      (by rintro (_ | _) <;> simp [isReturned, isPopSignals])
    have hfree := h.free
    have hfilled := h.filledSlots
    omega
  constructor
  · exact ⟨filled, horder.symm⟩
  · intro hr
    have := hrest hr
    omega
  · intro hr
    have := hrest hr
    omega
  · exact h.readIndex
  · rw [hlength]
    exact h.writeIndex
  · exact hsections

def smallQueue : QueueInfo where
  bufferSize := 100
  messageOffset := 28
  queueLength := 2
  queueMessageSize := 32
  header_le := by decide
  slots_le := by decide

def createdQueue (q : QueueInfo) : SharedQueue := ⟨q.queueLength, 0, 0, 0, 0, 0, 0, fun _ => 0, []⟩

theorem isCreated_createdQueue (q : QueueInfo) : SharedQueue.IsCreated q (createdQueue q) :=
  ⟨rfl, rfl, rfl, rfl, rfl⟩

def sizedMessage (payloadSize : ℕ) : QueueMessage :=
  ⟨List.replicate 8 0 ++ (leBytes 4 payloadSize ++ List.replicate 1396 7), by
    rw [List.length_append, List.length_append, length_leBytes, List.length_replicate,
      List.length_replicate]⟩

def pushThenPop (payloadSize : ℕ) : List QueueAction :=
  [.push (sizedMessage payloadSize), .wait 0, .lock 0, .signal 0,
    .pop (sizedMessage 0), .wait 1, .lock 1, .signal 1]

def isSmallPush : QueueAction → Bool
  | .push m => decide (m.size ≤ smallQueue.queueMessageSize)
  | _ => true

theorem fitsSlot_of_isSmallPush {a : QueueAction} (h : isSmallPush a = true) :
    FitsSlot smallQueue a := by
  rintro m rfl -
  exact of_decide_eq_true h

theorem shared_queue_lossless_small : ∃ t,
    (queueMachine smallQueue).run (createdQueue smallQueue) (pushThenPop 4) = some t ∧
      t.semRead = 0 ∧ IsLossless smallQueue
        ((queueMachine smallQueue).transitions (createdQueue smallQueue) (pushThenPop 4)) t := by
  obtain ⟨t, hrun, ht⟩ :=
    (queueMachine smallQueue).exists_of_run (createdQueue smallQueue) (pushThenPop 4)
      (fun t => t.semRead = 0) (by decide +kernel)
  have hsmall : ((queueMachine smallQueue).transitions (createdQueue smallQueue)
      (pushThenPop 4)).all (fun x => isSmallPush x.2.1) = true := by decide +kernel
  exact ⟨t, hrun, ht,
    shared_queue_lossless (isCreated_createdQueue _) (.of_run hrun)
      fun x hx => fitsSlot_of_isSmallPush (List.all_eq_true.mp hsmall x hx)⟩

/-- A push that does not fit leaves a read permit without a message. -/
theorem large_push_counts : ¬ ∀ (q : QueueInfo) (s t : SharedQueue)
    (tr : List (SharedQueue × QueueAction × Option QueueEvent)), (queueMachine q).init s →
    (queueMachine q).Trace s tr t → IsLossless q tr t := by
  intro hall
  obtain ⟨t, hrun, ht⟩ :=
    (queueMachine smallQueue).exists_of_run (createdQueue smallQueue) ((pushThenPop 100).take 4)
      (fun t => (decide (t.semRead = 1) && t.calls.all isReturned) = true) (by decide +kernel)
  have hpushed : pushedOf ((queueMachine smallQueue).transitions (createdQueue smallQueue)
      ((pushThenPop 100).take 4)) = [] := by decide +kernel
  rw [Bool.and_eq_true, decide_eq_true_eq] at ht
  have hlossless := hall smallQueue _ t _ (isCreated_createdQueue _) (.of_run hrun)
  have hcount := hlossless.semRead (List.all_eq_true.mp ht.2)
  rw [hpushed, ht.1, List.length_nil, Nat.zero_sub] at hcount
  cases hcount

end DevDriver.Analysis
