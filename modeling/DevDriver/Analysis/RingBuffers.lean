import Mathlib.Data.Nat.Log
import DevDriver.Model.DdMemory

/-!
# The ring buffer as a queue

The unread bytes are the part of the mirrored memory that begins at the number of bytes read so far.
-/

namespace DevDriver.Analysis

namespace RingBuffers

open Library Model

/-! ## The queue -/

/-- The bytes that a run has written and the bytes that it has read. -/
abbrev History : Type := List UInt8 × List UInt8

def history (g : History) (x : MirroredRing × RingAction × RingReply) : History :=
  match x.2.1 with
  | .write _ _ => (g.1 ++ x.2.2.bytes, g.2)
  | .read _ | .readAll => (g.1, g.2 ++ x.2.2.bytes)

/-- The ring stands for the bytes written and not yet read. -/
structure Queue (k : ℕ) (g : History) (s : MirroredRing) : Prop where
  size : s.ring.bufSize.toNat = 2 ^ k
  mask : s.ring.bufSizeMask.toNat = 2 ^ k - 1
  write : s.ring.write.toNat = g.1.length % 2 ^ 64
  read : s.ring.read.toNat = g.2.length % 2 ^ 64
  bounded : g.1.length ≤ g.2.length + 2 ^ k
  unread : g.2 ++ getRing (2 ^ k) s.memory g.2.length (g.1.length - g.2.length) = g.1

variable {k : ℕ} {g : History} {s : MirroredRing}

theorem Queue.le (h : Queue k g s) : g.2.length ≤ g.1.length := by
  have hlength := congrArg List.length h.unread
  rw [List.length_append] at hlength
  omega

theorem Queue.lt (h : Queue k g s) : k < 32 := by
  have hsize := s.ring.bufSize.toNat_lt
  rw [h.size] at hsize
  exact (Nat.pow_lt_pow_iff_right (by decide)).mp hsize

theorem Queue.two_pow_le (h : Queue k g s) : 2 ^ k ≤ 2 ^ 31 :=
  Nat.pow_le_pow_right (by decide) (Nat.le_of_lt_succ h.lt)

/-- The difference of the cursors is the number of unread bytes, even where they have wrapped. -/
theorem Queue.toNat_writtenDataSize (h : Queue k g s) :
    s.ring.writtenDataSize.toNat = g.1.length - g.2.length := by
  have hle := h.le
  have hbounded := h.bounded
  have hsmall := h.two_pow_le
  have hread := Nat.mod_lt g.2.length (show 0 < 2 ^ 64 by decide)
  rw [RingBuffer.writtenDataSize, UInt64.toNat_sub, h.write, h.read]
  omega

theorem Queue.toNat_masked (h : Queue k g s) {cursor : UInt64} {total : ℕ}
    (hcursor : cursor.toNat = total % 2 ^ 64) :
    (cursor &&& s.ring.bufSizeMask.toUInt64).toUInt32.toNat = total % 2 ^ k := by
  have hdvd : 2 ^ k ∣ 2 ^ 64 := pow_dvd_pow 2 (by have := h.lt; omega)
  have hlt := Nat.mod_lt total (Nat.two_pow_pos k)
  have hsmall := h.two_pow_le
  rw [UInt64.toNat_toUInt32, UInt64.toNat_and, UInt32.toNat_toUInt64, h.mask, hcursor,
    Nat.and_two_pow_sub_one_eq_mod, Nat.mod_mod_of_dvd _ hdvd]
  exact Nat.mod_eq_of_lt (by omega)

theorem toNat_add_mod {cursor : UInt64} {total : ℕ} (hcursor : cursor.toNat = total % 2 ^ 64)
    (size : UInt32) : (cursor + size.toUInt64).toNat = (total + size.toNat) % 2 ^ 64 := by
  rw [UInt64.toNat_add, UInt32.toNat_toUInt64, hcursor, Nat.mod_add_mod]

theorem Queue.asserts (h : Queue k g s) (hlt : g.1.length < 2 ^ 64) : s.ring.asserts = true := by
  have hle := h.le
  apply decide_eq_true
  constructor
  · rw [ge_iff_le, UInt64.le_iff_toNat_le, h.write, h.read, Nat.mod_eq_of_lt hlt,
      Nat.mod_eq_of_lt (by omega)]
    exact hle
  · have hbounded := h.bounded
    rw [UInt64.le_iff_toNat_le, h.toNat_writtenDataSize, UInt32.toNat_toUInt64, h.size]
    omega

theorem Queue.acquireForWrite (h : Queue k g s) (size : UInt32) :
    (size.toNat ≤ g.2.length + 2 ^ k - g.1.length ∧ 0 < size.toNat ∧
      (s.ring.acquireForWrite size).1.offset.toNat = g.1.length % 2 ^ k ∧
      (s.ring.acquireForWrite size).1.size = size ∧
      (s.ring.acquireForWrite size).2.2 =
        { s.ring with write := s.ring.write + size.toUInt64 }) ∨
    ((g.2.length + 2 ^ k - g.1.length < size.toNat ∨ size = 0) ∧
      (s.ring.acquireForWrite size).1 = ⟨0, 0⟩ ∧ (s.ring.acquireForWrite size).2.2 = s.ring) := by
  have hle := h.le
  have hbounded := h.bounded
  have hfree : (s.ring.bufSize.toUInt64 - s.ring.writtenDataSize).toNat =
      g.2.length + 2 ^ k - g.1.length := by
    rw [UInt64.toNat_sub_of_le, h.toNat_writtenDataSize, UInt32.toNat_toUInt64, h.size]
    · omega
    · rw [UInt64.le_iff_toNat_le, h.toNat_writtenDataSize, UInt32.toNat_toUInt64, h.size]
      omega
  unfold RingBuffer.acquireForWrite
  by_cases hpos : size > 0
  · rw [if_pos hpos]
    by_cases hroom : s.ring.bufSize.toUInt64 - s.ring.writtenDataSize ≥ size.toUInt64
    · rw [if_pos hroom]
      rw [ge_iff_le, UInt64.le_iff_toNat_le, hfree, UInt32.toNat_toUInt64] at hroom
      exact .inl ⟨hroom, hpos, h.toNat_masked h.write, rfl, rfl⟩
    · rw [if_neg hroom]
      rw [ge_iff_le, UInt64.le_iff_toNat_le, hfree, UInt32.toNat_toUInt64] at hroom
      exact .inr ⟨.inl (Nat.lt_of_not_le hroom), rfl, rfl⟩
  · rw [if_neg hpos]
    have hzero : size = 0 := UInt32.toNat_inj.mp (Nat.eq_zero_of_not_pos hpos)
    exact .inr ⟨.inr hzero, rfl, rfl⟩

theorem Queue.put (h : Queue k g s) {size : UInt32} {data : List UInt8}
    (hdata : data.length = size.toNat) (hfits : size.toNat ≤ g.2.length + 2 ^ k - g.1.length) :
    Queue k (g.1 ++ data, g.2) ⟨{ s.ring with write := s.ring.write + size.toUInt64 },
      putRing (2 ^ k) s.memory g.1.length data⟩ := by
  have hle := h.le
  have hbounded := h.bounded
  obtain ⟨count, hcount⟩ := Nat.exists_eq_add_of_le hle
  refine ⟨h.size, h.mask, ?_, h.read, ?_, ?_⟩
  · rw [List.length_append, hdata]
    exact toNat_add_mod h.write size
  · show (g.1 ++ data).length ≤ g.2.length + 2 ^ k
    rw [List.length_append]
    omega
  · have hbytes : (g.1 ++ data).length - g.2.length = count + data.length := by
      rw [List.length_append]
      omega
    have hunread := h.unread
    rw [hcount, Nat.add_sub_cancel_left] at hunread
    show g.2 ++ getRing (2 ^ k) _ g.2.length ((g.1 ++ data).length - g.2.length) = g.1 ++ data
    rw [hbytes, getRing_add, hcount, getRing_putRing_behind (by omega),
      getRing_putRing _ _ (by omega), ← List.append_assoc, hunread]

theorem Queue.get (h : Queue k g s) {acquiredSize : UInt64} {count : ℕ}
    (hcount : acquiredSize.toNat = count) (hle : count ≤ g.1.length - g.2.length) :
    (s.ring.acquire acquiredSize).1.size.toNat = count ∧
      Queue k (g.1, g.2 ++ getRing s.ring.bufSize.toNat s.memory
        (s.ring.acquire acquiredSize).1.offset.toNat count)
        ⟨(s.ring.acquire acquiredSize).2.2, s.memory⟩ := by
  have hbounded := h.bounded
  have hsmall := h.two_pow_le
  have hsize : acquiredSize.toUInt32.toNat = count := by
    rw [UInt64.toNat_toUInt32, hcount]
    exact Nat.mod_eq_of_lt (by omega)
  have hoffset : (s.ring.acquire acquiredSize).1.offset.toNat = g.2.length % 2 ^ k :=
    h.toNat_masked h.read
  obtain ⟨rest, hrest⟩ := Nat.exists_eq_add_of_le hle
  refine ⟨hsize, ?_⟩
  rw [hoffset, h.size, getRing_mod]
  refine ⟨h.size, h.mask, h.write, ?_, ?_, ?_⟩
  · rw [List.length_append, length_getRing, ← hsize]
    exact toNat_add_mod h.read _
  · rw [List.length_append]
    exact hbounded.trans (by omega)
  · have hunread := h.unread
    rw [hrest, getRing_add] at hunread
    have hleft : g.1.length - (g.2.length + count) = rest := by omega
    rw [List.length_append, length_getRing, hleft, List.append_assoc]
    exact hunread

theorem Queue.acquireForRead (h : Queue k g s) (maxSize : UInt32) :
    ∃ acquiredSize, s.ring.acquireForRead maxSize = s.ring.acquire acquiredSize ∧
      acquiredSize.toNat = min maxSize.toNat (g.1.length - g.2.length) := by
  refine ⟨_, rfl, ?_⟩
  have hwritten := h.toNat_writtenDataSize
  split
  · rename_i hmore
    rw [gt_iff_lt, UInt64.lt_iff_toNat_lt, hwritten, UInt32.toNat_toUInt64] at hmore
    rw [UInt32.toNat_toUInt64, Nat.min_eq_left (Nat.le_of_lt hmore)]
  · rename_i hless
    rw [gt_iff_lt, UInt64.lt_iff_toNat_lt, hwritten, UInt32.toNat_toUInt64, Nat.not_lt] at hless
    rw [hwritten, Nat.min_eq_right hless]

/-! ## Runs -/

/-- What a step does, besides keeping the queue. -/
structure StepKept (size : ℕ) (g : History) (s : MirroredRing) (a : RingAction) (o : RingReply)
    (t : MirroredRing) : Prop where
  granted : ∀ n data, a = .write n data →
    o.work.size = if n.toNat ≤ g.2.length + size - g.1.length then n else 0
  refused : ∀ n data, a = .write n data → g.2.length + size - g.1.length < n.toNat →
    t = s
  apart : ∀ n data, a = .write n data → ∀ i < o.work.size.toNat,
    ∀ j < g.1.length - g.2.length,
      (o.work.offset.toNat + i) % size ≠ (s.ring.read.toNat + j) % size
  asserts : g.1.length < 2 ^ 64 → o.asserts = true

variable {bufferSize : UInt32}

/-- A call behaves like one of a queue of bytes. -/
theorem queue_step {t : MirroredRing} {a : RingAction} {o : RingReply} (h : Queue k g s)
    (hstep : (ringMachine bufferSize).step s a = some (t, o)) :
    StepKept (2 ^ k) g s a o t ∧ Queue k (history g (s, a, o)) t := by
  have hle := h.le
  have hbounded := h.bounded
  have hread : ∀ {r : Work × Bool × RingBuffer} {acquiredSize : UInt64},
      r = s.ring.acquire acquiredSize → acquiredSize.toNat ≤ g.1.length - g.2.length →
      (g.1.length < 2 ^ 64 → r.2.1 = true) ∧ Queue k (g.1, g.2 ++
        getRing s.ring.bufSize.toNat s.memory r.1.offset.toNat r.1.size.toNat)
        ⟨r.2.2, s.memory⟩ := by
    rintro r acquiredSize rfl hfits
    obtain ⟨hsize, hqueue⟩ := h.get rfl hfits
    rw [hsize]
    exact ⟨fun hlt => h.asserts hlt, hqueue⟩
  cases a with
  | write size data =>
    obtain ⟨hdata, hstep⟩ := Option.ite_none_right_eq_some.mp hstep
    have hasserts : g.1.length < 2 ^ 64 → (s.ring.acquireForWrite size).2.1 = true := by
      intro hlt
      unfold RingBuffer.acquireForWrite
      split
      · split <;> exact h.asserts hlt
      · rfl
    cases hstep
    rcases h.acquireForWrite size with ⟨hfits, hpos, hoffset, hsize, hring⟩ |
      ⟨hunfit, hwork, hring⟩
    · constructor
      · refine ⟨?_, ?_, ?_, hasserts⟩
        · rintro _ _ ⟨⟩
          rw [if_pos hfits]
          exact hsize
        · rintro _ _ ⟨⟩ hover
          omega
        · rintro _ _ ⟨⟩ i hi j hj
          rw [hsize] at hi
          have hdvd : 2 ^ k ∣ 2 ^ 64 := pow_dvd_pow 2 (by have := h.lt; omega)
          rw [hoffset, h.read, Nat.mod_add_mod, ← Nat.mod_add_mod (g.2.length % 2 ^ 64),
            Nat.mod_mod_of_dvd _ hdvd, Nat.mod_add_mod]
          have hne := add_mod_ne (n := 2 ^ k) (s := g.2.length) (i := j)
            (j := g.1.length - g.2.length + i) (by omega) (by omega)
          rw [show g.2.length + (g.1.length - g.2.length + i) = g.1.length + i by omega] at hne
          exact hne.symm
      · show Queue k (g.1 ++ data.take _, g.2) _
        rw [hring, hoffset, hsize, h.size, putRing_mod, List.take_of_length_le hdata.le]
        exact h.put hdata hfits
    · have hsame : (⟨(s.ring.acquireForWrite size).2.2, putRing s.ring.bufSize.toNat s.memory
          (s.ring.acquireForWrite size).1.offset.toNat
          (data.take (s.ring.acquireForWrite size).1.size.toNat)⟩ : MirroredRing) = s := by
        rw [hring, hwork]
        rfl
      have hnothing : data.take (s.ring.acquireForWrite size).1.size.toNat = [] := by
        rw [hwork]
        rfl
      constructor
      · refine ⟨?_, ?_, ?_, hasserts⟩
        · rintro _ _ ⟨⟩
          show (s.ring.acquireForWrite size).1.size = _
          rw [hwork]
          rcases hunfit with hover | rfl
          · rw [if_neg (by omega)]
          · rw [ite_self]
        · rintro _ _ ⟨⟩ -
          exact hsame
        · rintro _ _ ⟨⟩ i hi
          have hzero : (s.ring.acquireForWrite size).1.size.toNat = 0 := by rw [hwork]; rfl
          exact absurd (hzero ▸ hi) (Nat.not_lt_zero i)
      · show Queue k (g.1 ++ data.take _, g.2) _
        rw [hsame, hnothing, List.append_nil]
        exact h
  | read maxSize =>
    cases hstep
    obtain ⟨acquiredSize, hacquire, hsize⟩ := h.acquireForRead maxSize
    obtain ⟨hasserts, hqueue⟩ := hread hacquire (by omega)
    exact ⟨⟨nofun, nofun, nofun, hasserts⟩, hqueue⟩
  | readAll =>
    cases hstep
    obtain ⟨hasserts, hqueue⟩ := hread (rfl : s.ring.acquireForReadAll = _)
      (Nat.le_of_eq h.toNat_writtenDataSize)
    exact ⟨⟨nofun, nofun, nofun, hasserts⟩, hqueue⟩

theorem toNat_mask (hsize : bufferSize.toNat = 2 ^ k) : (bufferSize - 1).toNat = 2 ^ k - 1 := by
  rw [UInt32.toNat_sub_of_le, hsize]
  · rfl
  · rw [UInt32.le_iff_toNat_le, hsize]
    exact Nat.two_pow_pos k

theorem queue_init (hsize : bufferSize.toNat = 2 ^ k) (hs : (ringMachine bufferSize).init s) :
    Queue k ([], []) s := by
  obtain ⟨ring, memory⟩ := s
  cases (hs : ring = .setBuffer bufferSize)
  exact ⟨hsize, toNat_mask hsize, rfl, rfl, Nat.zero_le _, rfl⟩

/-- A lossless bounded queue: what has been read is a prefix of what has been written, and the next
step does what it should. -/
structure Lossless (bufferSize : UInt32) (g : History) (t : MirroredRing) : Prop where
  sizeAssert : bufferSize &&& (bufferSize - 1) = 0
  isPrefix : g.2 <+: g.1
  fill : t.ring.writtenDataSize.toNat = g.1.length - g.2.length
  fill_le : g.1.length - g.2.length ≤ bufferSize.toNat
  step : ∀ a u o, (ringMachine bufferSize).step t a = some (u, o) →
    StepKept bufferSize.toNat g t a o u

/-- In every run a read returns the oldest unread bytes, and a write that does not fit changes
nothing. -/
theorem lossless_of_trace (hsize : bufferSize.toNat = 2 ^ k) {s t : MirroredRing}
    {tr : List (MirroredRing × RingAction × RingReply)} (hs : (ringMachine bufferSize).init s)
    (h : (ringMachine bufferSize).Trace s tr t) :
    Lossless bufferSize (tr.foldl history ([], [])) t := by
  have hqueue : Queue k (tr.foldl history ([], [])) t :=
    h.foldl_invariant (P := Queue k) (C := fun _ _ => True) (queue_init hsize hs)
      (fun _ _ => trivial) fun g s t a o hqueue _ hstep => (queue_step hqueue hstep).2
  refine ⟨?_, ⟨_, hqueue.unread⟩, hqueue.toNat_writtenDataSize, ?_, fun a u o hstep => ?_⟩
  · apply UInt32.toNat_inj.mp
    rw [UInt32.toNat_and, toNat_mask hsize, hsize, Nat.and_two_pow_sub_one_eq_mod, Nat.mod_self]
    rfl
  · have hbounded := hqueue.bounded
    rw [hsize]
    omega
  · rw [hsize]
    exact (queue_step hqueue hstep).1

/-- A write that does not fit, and one that wraps around the end of the memory. -/
theorem lossless_of_trace_wrapped :
    Lossless 4 ([1, 2, 3, 4, 5], [1, 2]) ⟨⟨4, 3, 5, 2⟩,
      putRing 4 (putRing 4 (fun _ => 0) 0 [1, 2, 3]) 3 [4, 5]⟩ := by
  have hinit : (ringMachine 4).init ⟨⟨4, 3, 0, 0⟩, fun _ => 0⟩ := rfl
  have hrun : (ringMachine 4).run ⟨⟨4, 3, 0, 0⟩, fun _ => 0⟩
      [.write 3 [1, 2, 3], .write 2 [9, 9], .read 2, .write 2 [4, 5]] =
      some ⟨⟨4, 3, 5, 2⟩, putRing 4 (putRing 4 (fun _ => 0) 0 [1, 2, 3]) 3 [4, 5]⟩ := rfl
  exact lossless_of_trace (k := 2) rfl hinit (.of_run hrun)

def emptyRing (cursor : UInt64) : RingBuffer := ⟨4096, 4095, cursor, cursor⟩

def fullRing (cursor : UInt64) : RingBuffer := ⟨4096, 4095, cursor + 4096, cursor⟩

theorem writePage (cursor : UInt64) :
    ((emptyRing cursor).acquireForWrite 4096).2.2 = fullRing cursor := by
  rw [RingBuffer.acquireForWrite, if_pos (by decide), if_pos]
  · rfl
  · show (4096 : UInt64) - (cursor - cursor) ≥ 4096
    rw [UInt64.sub_self]
    decide

theorem readPage (cursor : UInt64) :
    (fullRing cursor).acquireForReadAll.2.2 = emptyRing (cursor + 4096) := by
  have hsize : (fullRing cursor).writtenDataSize = 4096 := by
    show cursor + 4096 - cursor = 4096
    rw [UInt64.add_comm, UInt64.add_sub_cancel]
  rw [RingBuffer.acquireForReadAll, hsize]
  rfl

theorem step_writePage {t : MirroredRing} {cursor : UInt64} (h : t.ring = emptyRing cursor) :
    ∃ a u o, (ringMachine 4096).step t a = some (u, o) ∧ u.ring = fullRing cursor := by
  obtain ⟨page, hpage⟩ : ∃ page : List UInt8, page.length = (4096 : UInt32).toNat :=
    ⟨List.replicate _ 0, List.length_replicate⟩
  refine ⟨.write 4096 page, _, _, if_pos hpage, ?_⟩
  show (t.ring.acquireForWrite 4096).2.2 = _
  rw [h, writePage]

theorem step_readPage (u : MirroredRing) : ∃ t o, (ringMachine 4096).step u .readAll = some (t, o) ∧
    t.ring = u.ring.acquireForReadAll.2.2 ∧ o.asserts = u.ring.asserts := ⟨_, _, rfl, rfl, rfl⟩

/-- A page is written and read any number of times. -/
theorem exists_trace_pages (n : ℕ) : ∃ tr t,
    (ringMachine 4096).Trace ⟨.setBuffer 4096, fun _ => 0⟩ tr t ∧
      t.ring = emptyRing (UInt64.ofNat (4096 * n)) := by
  induction n with
  | zero => exact ⟨[], _, .nil, rfl⟩
  | succ n ih =>
    obtain ⟨tr, t, htrace, hring⟩ := ih
    obtain ⟨a, u, o, hwrite, hfull⟩ := step_writePage hring
    obtain ⟨t', o', hread, hring', -⟩ := step_readPage u
    refine ⟨_, t', (htrace.snoc hwrite).snoc hread, ?_⟩
    rw [hring', hfull, readPage, Nat.mul_succ, UInt64.ofNat_add]
    rfl

theorem not_all_asserts : ¬ ∀ (k : ℕ) (bufferSize : UInt32) (s t : MirroredRing)
    (tr : List (MirroredRing × RingAction × RingReply)), bufferSize.toNat = 2 ^ k →
    (ringMachine bufferSize).init s → (ringMachine bufferSize).Trace s tr t →
    ∀ x ∈ tr, x.2.2.asserts = true := by
  intro hall
  obtain ⟨tr, t, htrace, hring⟩ := exists_trace_pages (2 ^ 52 - 1)
  obtain ⟨a, u, o, hwrite, hfull⟩ := step_writePage hring
  obtain ⟨t', o', hread, -, hasserts⟩ := step_readPage u
  have hinit : (ringMachine 4096).init ⟨.setBuffer 4096, fun _ => 0⟩ := rfl
  have hholds : o'.asserts = true := hall 12 4096 _ _ _ rfl hinit ((htrace.snoc hwrite).snoc hread)
    (u, .readAll, o') (List.mem_append_right _ (List.mem_singleton_self _))
  have hfails : u.ring.asserts = false := by
    rw [hfull]
    decide
  exact Bool.false_ne_true (hfails.symm.trans (hasserts.symm.trans hholds))

end RingBuffers

end DevDriver.Analysis
