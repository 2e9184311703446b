import DevDriver.Library.BitString
import DevDriver.Model.DdMemory

/-!
# The blocks of a scratch buffer

The committed and the total size are multiples of the page size, so that rounding up what is missing
stays within the reserved memory.
-/

namespace DevDriver.Analysis

namespace ScratchBuffers

open Library Model

variable {k : ℕ} {pageSize : UInt32}

theorem toNat_alignU32 (hpage : pageSize.toNat = 2 ^ k) (x : UInt32) :
    (alignU32 x pageSize).toNat = (x.toNat + (2 ^ k - 1)) % 2 ^ 32 / 2 ^ k * 2 ^ k := by
  have hpos : 0 < 2 ^ k := Nat.two_pow_pos k
  have hlt : 2 ^ k < 2 ^ 32 := hpage ▸ pageSize.toNat_lt
  have hk : k ≤ 32 := Nat.le_of_lt ((Nat.pow_lt_pow_iff_right (by decide)).mp hlt)
  have hone : (pageSize - 1).toNat = 2 ^ k - 1 := by
    rw [UInt32.toNat_sub_of_le, hpage]
    · rfl
    · rw [UInt32.le_iff_toNat_le, hpage]
      exact hpos
  have hmask : (~~~(pageSize - 1)).toNat = 2 ^ 32 - 2 ^ k := by
    rw [UInt32.toNat_not, hone]
    show 2 ^ 32 - 1 - _ = _
    omega
  rw [alignU32, UInt32.toNat_and, UInt32.toNat_add, hone, hmask]
  exact and_two_pow_sub_two_pow (Nat.mod_lt _ (by decide)) hk

theorem alignU32_le (hpage : pageSize.toNat = 2 ^ k) {x : UInt32} {limit : ℕ}
    (hx : x.toNat ≤ limit) (hlimit : limit < 2 ^ 32) (hdvd : 2 ^ k ∣ limit) :
    x.toNat + (2 ^ k - 1) < 2 ^ 32 ∧ x.toNat ≤ (alignU32 x pageSize).toNat ∧
      (alignU32 x pageSize).toNat ≤ limit ∧ 2 ^ k ∣ (alignU32 x pageSize).toNat := by
  have hpos : 0 < 2 ^ k := Nat.two_pow_pos k
  have hlt : 2 ^ k < 2 ^ 32 := hpage ▸ pageSize.toNat_lt
  have hpages : 2 ^ k ∣ 2 ^ 32 :=
    pow_dvd_pow 2 (Nat.le_of_lt ((Nat.pow_lt_pow_iff_right (by decide)).mp hlt))
  have hroom : limit + 2 ^ k ≤ 2 ^ 32 := by
    have hrest := Nat.le_of_dvd (by omega) (Nat.dvd_sub hpages hdvd)
    omega
  have hwrap : x.toNat + (2 ^ k - 1) < 2 ^ 32 := by omega
  have hround : (x.toNat + (2 ^ k - 1)) / 2 ^ k * 2 ^ k + (x.toNat + (2 ^ k - 1)) % 2 ^ k =
      x.toNat + (2 ^ k - 1) := by
    rw [Nat.mul_comm]
    exact Nat.div_add_mod _ _
  rw [toNat_alignU32 hpage, Nat.mod_eq_of_lt hwrap]
  refine ⟨hwrap, by omega, ?_, Nat.dvd_mul_left _ _⟩
  obtain ⟨pages, rfl⟩ := hdvd
  have hdiv : (x.toNat + (2 ^ k - 1)) / 2 ^ k < pages + 1 := by
    rw [Nat.div_lt_iff_lt_mul hpos, Nat.mul_comm, Nat.mul_succ]
    omega
  calc (x.toNat + (2 ^ k - 1)) / 2 ^ k * 2 ^ k ≤ pages * 2 ^ k :=
        Nat.mul_le_mul_right _ (Nat.le_of_lt_succ hdiv)
    _ = 2 ^ k * pages := Nat.mul_comm _ _

/-! ## The sizes -/

structure Sizes (k requested : ℕ) (s : ScratchBuffer) : Prop where
  page : s.pageSize.toNat = 2 ^ k
  top_le : s.top.toNat ≤ s.committedSize.toNat
  committed_le : s.committedSize.toNat ≤ s.totalSize.toNat
  requested_le : requested ≤ s.totalSize.toNat
  committed_dvd : 2 ^ k ∣ s.committedSize.toNat
  total_dvd : 2 ^ k ∣ s.totalSize.toNat

variable {requested : ℕ} {s : ScratchBuffer}

theorem initializeWith_some {reserveMemory : UInt32 → Bool} {totalSize initialCommitSize : UInt32}
    {commit : Bool} (hpage : pageSize.toNat = 2 ^ k) (hreserve : reserveMemory 0 = false)
    (h : ScratchBuffer.initializeWith reserveMemory pageSize totalSize initialCommitSize commit =
      some s) :
    Sizes k totalSize.toNat s ∧ s.top = 0 ∧ totalSize.toNat + (2 ^ k - 1) < 2 ^ 32 ∧
      initialCommitSize.toNat + (2 ^ k - 1) < 2 ^ 32 := by
  have hpos : 0 < 2 ^ k := Nat.two_pow_pos k
  obtain ⟨hvalid, h⟩ := Option.ite_none_left_eq_some.mp h
  rw [not_or, UInt32.lt_iff_toNat_lt, Nat.not_lt] at hvalid
  obtain ⟨haccepted, ⟨⟩⟩ := Option.ite_none_right_eq_some.mp h
  have htotal := toNat_alignU32 hpage totalSize
  -- a size whose rounding wraps is rounded to zero, for which no memory is reserved
  have hwrap : totalSize.toNat + (2 ^ k - 1) < 2 ^ 32 := by
    by_contra hover
    have hzero : alignU32 totalSize pageSize = 0 := by
      apply UInt32.toNat_inj.mp
      have hlt := totalSize.toNat_lt
      rw [htotal, Nat.div_eq_of_lt, Nat.zero_mul]
      · rfl
      · omega
    rw [hzero, hreserve] at haccepted
    exact absurd haccepted.1 Bool.false_ne_true
  have hdvd : 2 ^ k ∣ (alignU32 totalSize pageSize).toNat := by
    rw [htotal]
    exact Nat.dvd_mul_left _ _
  have hle : totalSize.toNat ≤ (alignU32 totalSize pageSize).toNat := by
    rw [htotal, Nat.mod_eq_of_lt hwrap]
    have hround := Nat.div_add_mod (totalSize.toNat + (2 ^ k - 1)) (2 ^ k)
    rw [Nat.mul_comm] at hround
    omega
  obtain ⟨hinitial, -, hcommit, hcommitDvd⟩ := alignU32_le hpage (hvalid.2.trans hle)
    (UInt32.toNat_lt _) hdvd
  exact ⟨⟨hpage, Nat.zero_le _, hcommit, hle, hcommitDvd, hdvd⟩, rfl, hwrap, hinitial⟩

/-- No rounding and no addition of a push that fits wraps. -/
structure NoWrap (k : ℕ) (s : ScratchBuffer) (size : UInt32) : Prop where
  rounding : (size - (s.committedSize - s.top)).toNat + (2 ^ k - 1) < 2 ^ 32 ∨
    size ≤ s.committedSize - s.top
  committed : s.committedSize.toNat + (s.alignedSizeToCommit size).toNat < 2 ^ 32
  top : s.top.toNat + size.toNat < 2 ^ 32

theorem push_sizes (h : Sizes k requested s) {size : UInt32} (hfits : size ≤ s.totalSize - s.top) :
    NoWrap k s size ∧ Sizes k requested { s with
      committedSize := s.committedSize + s.alignedSizeToCommit size, top := s.top + size } := by
  have htotal := s.totalSize.toNat_lt
  have hfree : (s.totalSize - s.top).toNat = s.totalSize.toNat - s.top.toNat :=
    UInt32.toNat_sub_of_le _ _ (UInt32.le_iff_toNat_le.mpr (h.top_le.trans h.committed_le))
  have hspare : (s.committedSize - s.top).toNat = s.committedSize.toNat - s.top.toNat :=
    UInt32.toNat_sub_of_le _ _ (UInt32.le_iff_toNat_le.mpr h.top_le)
  have htop := h.top_le
  have hcommitted := h.committed_le
  rw [UInt32.le_iff_toNat_le, hfree] at hfits
  -- what is added to the committed size covers the block and stays within the total size
  obtain ⟨hrounding, hcovers, hwithin, hdvd⟩ :
      ((size - (s.committedSize - s.top)).toNat + (2 ^ k - 1) < 2 ^ 32 ∨
        size ≤ s.committedSize - s.top) ∧
      s.top.toNat + size.toNat ≤ s.committedSize.toNat + (s.alignedSizeToCommit size).toNat ∧
      s.committedSize.toNat + (s.alignedSizeToCommit size).toNat ≤ s.totalSize.toNat ∧
      2 ^ k ∣ (s.alignedSizeToCommit size).toNat := by
    unfold ScratchBuffer.alignedSizeToCommit
    split
    · rename_i hmore
      have hextra : (size - (s.committedSize - s.top)).toNat =
          size.toNat - (s.committedSize.toNat - s.top.toNat) := by
        rw [UInt32.toNat_sub_of_le _ _ (UInt32.le_of_lt hmore), hspare]
      obtain ⟨hwrap, hge, hle, hdvd⟩ := alignU32_le h.page
        (show (size - (s.committedSize - s.top)).toNat ≤
          s.totalSize.toNat - s.committedSize.toNat by omega)
        (by omega) (Nat.dvd_sub h.total_dvd h.committed_dvd)
      exact ⟨.inl hwrap, by omega, by omega, hdvd⟩
    · rename_i henough
      have hle := UInt32.not_lt.mp henough
      have hleNat := UInt32.le_iff_toNat_le.mp hle
      rw [hspare] at hleNat
      exact ⟨.inr hle, by show _ ≤ _ + 0; omega, hcommitted, Nat.dvd_zero _⟩
  have hsum : (s.committedSize + s.alignedSizeToCommit size).toNat =
      s.committedSize.toNat + (s.alignedSizeToCommit size).toNat := by
    rw [UInt32.toNat_add, Nat.mod_eq_of_lt (by omega)]
  have htopSum : (s.top + size).toNat = s.top.toNat + size.toNat := by
    rw [UInt32.toNat_add, Nat.mod_eq_of_lt (by omega)]
  refine ⟨⟨hrounding, by omega, by omega⟩, h.page, ?_, ?_, h.requested_le, ?_, h.total_dvd⟩
  · rw [hsum, htopSum]
    exact hcovers
  · rw [hsum]
    exact hwithin
  · rw [hsum]
    exact Nat.dvd_add h.committed_dvd hdvd

/-- The blocks, each with its offset and size, that a run has pushed and not popped, the newest
first. -/
def liveBlocks (blocks : List (ℕ × ℕ))
    (x : ScratchBuffer × ScratchAction × Option UInt32) : List (ℕ × ℕ) :=
  match x.2.1, x.2.2 with
  | .push size _, some offset => (offset.toNat, size.toNat) :: blocks
  | .push _ _, none => blocks
  | .pop size, _ => blocks.filter fun b => b.1 + b.2 ≤ (x.1.top - size).toNat
  | .clear, _ => []

structure BlocksKept (k requested : ℕ) (blocks : List (ℕ × ℕ)) (s : ScratchBuffer) : Prop where
  sizes : Sizes k requested s
  inside : ∀ b ∈ blocks, b.1 + b.2 ≤ s.top.toNat
  stacked : blocks.Pairwise fun b b' => b'.1 + b'.2 ≤ b.1

variable {reserveMemory : UInt32 → Bool} {totalSize initialCommitSize : UInt32}

/-- A push adds a block on top, and a pop takes blocks off the top. -/
theorem blocksKept_step (blocks : List (ℕ × ℕ)) (s t : ScratchBuffer) (a : ScratchAction)
    (o : Option UInt32) (h : BlocksKept k requested blocks s)
    (hstep : (scratchMachine reserveMemory pageSize totalSize initialCommitSize).step s a =
      some (t, o)) : BlocksKept k requested (liveBlocks blocks (s, a, o)) t := by
  cases a with
  | push size commit =>
    cases hstep
    unfold ScratchBuffer.push
    by_cases hfits : size > s.totalSize - s.top
    · rw [if_pos hfits]
      exact h
    · rw [if_neg hfits]
      by_cases hrefused : size > s.committedSize - s.top ∧ commit = false
      · rw [if_pos hrefused]
        exact h
      · rw [if_neg hrefused]
        obtain ⟨hnowrap, hsizes⟩ := push_sizes h.sizes (UInt32.not_lt.mp hfits)
        have htop : (s.top + size).toNat = s.top.toNat + size.toNat := by
          rw [UInt32.toNat_add, Nat.mod_eq_of_lt hnowrap.top]
        refine ⟨hsizes, ?_, ?_⟩
        · intro b hb
          rw [htop]
          rcases List.mem_cons.mp hb with rfl | hb
          · exact Nat.le_refl _
          · exact Nat.le_add_right_of_le (h.inside b hb)
        · exact List.pairwise_cons.mpr ⟨h.inside, h.stacked⟩
  | pop size =>
    obtain ⟨hle, ⟨⟩⟩ := Option.ite_none_right_eq_some.mp hstep
    have htop : (s.top - size).toNat ≤ s.top.toNat := by
      rw [UInt32.toNat_sub_of_le _ _ hle]
      exact Nat.sub_le _ _
    refine ⟨{ h.sizes with top_le := htop.trans h.sizes.top_le }, ?_, h.stacked.filter _⟩
    intro b hb
    exact of_decide_eq_true (List.mem_filter.mp hb).2
  | clear =>
    cases hstep
    exact ⟨{ h.sizes with top_le := Nat.zero_le _ }, fun _ hb => absurd hb List.not_mem_nil, .nil⟩

/-- What is asked of a scratch buffer and of the blocks that are live in it. -/
structure WellKept (k requested : ℕ) (blocks : List (ℕ × ℕ)) (s : ScratchBuffer) : Prop where
  top_le : s.top ≤ s.committedSize
  committed_le : s.committedSize ≤ s.totalSize
  requested_le : requested ≤ s.totalSize.toNat
  inside : ∀ b ∈ blocks, b.1 + b.2 ≤ s.committedSize.toNat
  disjoint : blocks.Pairwise fun b b' => b.1 + b.2 ≤ b'.1 ∨ b'.1 + b'.2 ≤ b.1
  noWrap : ∀ size ≤ s.totalSize - s.top, NoWrap k s size
  null : ∀ size commit, (s.push size commit).1 = none → (s.push size commit).2 = s

/-- In every run the live blocks are aligned, disjoint and inside the committed memory. -/
theorem wellKept_of_trace (hpage : pageSize.toNat = 2 ^ k) (hreserve : reserveMemory 0 = false)
    {s t : ScratchBuffer} {tr : List (ScratchBuffer × ScratchAction × Option UInt32)}
    (hs : (scratchMachine reserveMemory pageSize totalSize initialCommitSize).init s)
    (h : (scratchMachine reserveMemory pageSize totalSize initialCommitSize).Trace s tr t) :
    WellKept k totalSize.toNat (tr.foldl liveBlocks []) t ∧
      totalSize.toNat + (2 ^ k - 1) < 2 ^ 32 ∧ initialCommitSize.toNat + (2 ^ k - 1) < 2 ^ 32 := by
  obtain ⟨commit, hs⟩ := hs
  obtain ⟨hsizes, htop, htotal, hinitial⟩ := initializeWith_some hpage hreserve hs
  have hkept : BlocksKept k totalSize.toNat (tr.foldl liveBlocks []) t :=
    h.foldl_invariant (P := BlocksKept k totalSize.toNat) (C := fun _ _ => True)
      ⟨hsizes, fun _ hb => absurd hb List.not_mem_nil, .nil⟩ (fun _ _ => trivial)
      fun blocks s t a o hkept _ hstep => blocksKept_step blocks s t a o hkept hstep
  refine ⟨⟨UInt32.le_iff_toNat_le.mpr hkept.sizes.top_le,
    UInt32.le_iff_toNat_le.mpr hkept.sizes.committed_le, hkept.sizes.requested_le, ?_, ?_, ?_, ?_⟩,
    htotal, hinitial⟩
  · intro b hb
    exact (hkept.inside b hb).trans hkept.sizes.top_le
  · exact hkept.stacked.imp fun hbelow => .inr hbelow
  · intro size hfits
    exact (push_sizes hkept.sizes hfits).1
  · intro size commit hnull
    unfold ScratchBuffer.push at hnull ⊢
    split
    · rfl
    · rename_i hfits
      rw [if_neg hfits] at hnull
      split
      · rfl
      · rename_i hrefused
        rw [if_neg hrefused] at hnull
        cases hnull

/-- A block whose push commits a second page; another one is popped, and a third does not get its
memory committed. -/
theorem wellKept_of_trace_pages :
    WellKept 12 (10000 : UInt32).toNat [(0, 5000)] ⟨12288, 8192, 4096, 5000⟩ ∧
      (10000 : UInt32).toNat + (2 ^ 12 - 1) < 2 ^ 32 ∧
      (1 : UInt32).toNat + (2 ^ 12 - 1) < 2 ^ 32 := by
  have hinit : (scratchMachine (fun size => decide (0 < size)) 4096 10000 1).init
      ⟨12288, 4096, 4096, 0⟩ := ⟨true, rfl⟩
  have hrun : (scratchMachine (fun size => decide (0 < size)) 4096 10000 1).run
      ⟨12288, 4096, 4096, 0⟩ [.push 5000 true, .push 10 true, .push 4000 false, .pop 10] =
      some ⟨12288, 8192, 4096, 5000⟩ := rfl
  exact wellKept_of_trace rfl (by decide) hinit (.of_run hrun)

end ScratchBuffers

end DevDriver.Analysis
