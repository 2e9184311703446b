import DevDriver.Analysis.RmtLayouts
import DevDriver.Model.RmtResourceDescriptions

/-!
# The descriptions of RMT resources are told

Each write puts the low bits of its value down in its range and leaves the finished token with them,
whatever the other values are.
-/

namespace DevDriver.Analysis

open Library Model RmtTokenData RmtResource

/-! ## Documented fields -/

/-- A documented range, the number that it should hold, and where it should hold it. -/
structure ResourceField where
  doc : DocField
  domain : Prop

/-- A field that is documented for all values that its range has room for. -/
def fits (endBit startBit : ℕ) (value : ℤ) : ResourceField :=
  ⟨⟨endBit, startBit, value⟩, DocField.Holds ⟨endBit, startBit, value⟩⟩

def IsPowerOfTwo (x : BitVec 64) : Prop := ∃ k < 64, x.toNat = 2 ^ k

/-- An alignment is a power of two, or zero if there is none. -/
def IsAlignment (x : BitVec 64) : Prop := x = 0 ∨ IsPowerOfTwo x

/-- How an alignment is stored: the exponent of a power of two, and zero for zero.
rmtResourceDescriptions.h:649-651 -/
def alignmentCode (x : BitVec 64) : ℕ := Nat.log2 x.toNat

/-- A count that is a power of two, stored as its exponent. -/
def countField (endBit startBit : ℕ) (count : BitVec 8) : ResourceField :=
  ⟨⟨endBit, startBit, Nat.log2 count.toNat⟩,
    IsPowerOfTwo (count.setWidth 64) ∧
      DocField.Holds ⟨endBit, startBit, Nat.log2 count.toNat⟩⟩

def alignmentField (endBit startBit : ℕ) (alignment : BitVec 64) : ResourceField :=
  ⟨⟨endBit, startBit, alignmentCode alignment⟩, IsAlignment alignment⟩

/-- An `RMT_IMAGE_FORMAT`: four swizzles, a number format, and reserved bits.
rmtResourceDescriptions.h:174-183, 185-354, 356-372 -/
def IsImageFormat (format : BitVec 32) : Prop :=
  (∀ i < 4, format.toNat / 8 ^ i % 8 ≤ 5) ∧ format.toNat / 2 ^ 12 ≤ 165

/-- The documented ranges of a description.
rmtResourceDescriptions.h:599-1134 -/
def resourceFields : RmtResource → List ResourceField
  | .image createInfo =>
    [fits 19 0 createInfo.createFlags.toNat, fits 34 20 createInfo.usageFlags.toNat,
      fits 36 35 createInfo.imageType.ctorIdx, fits 50 37 (createInfo.dimensionX.toNat - 1),
      fits 64 51 (createInfo.dimensionY.toNat - 1), fits 78 65 (createInfo.dimensionZ.toNat - 1),
      ⟨⟨98, 79, createInfo.format.toNat⟩, IsImageFormat createInfo.format⟩,
      fits 102 99 createInfo.mips.toNat, fits 113 103 (createInfo.slices.toNat - 1),
      countField 116 114 createInfo.samples, countField 118 117 createInfo.fragments,
      fits 120 119 createInfo.tilingType.ctorIdx, fits 122 121 createInfo.tilingOptMode.ctorIdx,
      fits 124 123 createInfo.metadataMode.ctorIdx,
      ⟨⟨129, 125, alignmentCode createInfo.maxBaseAlignment⟩,
        IsAlignment createInfo.maxBaseAlignment ∧
          createInfo.maxBaseAlignment.toNat ≤ 2 * 1024 * 1024⟩,
      fits 130 130 createInfo.isPresentable.toNat, fits 162 131 createInfo.imageSize.toNat,
      fits 194 163 createInfo.metadataOffset.toNat, fits 226 195 createInfo.metadataSize.toNat,
      fits 258 227 createInfo.metadataHeaderOffset.toNat,
      fits 290 259 createInfo.metadataHeaderSize.toNat,
      alignmentField 295 291 createInfo.imageAlignment,
      alignmentField 300 296 createInfo.metadataAlignment,
      alignmentField 305 301 createInfo.metadataHeaderAlignment,
      fits 306 306 createInfo.isFullscreen.toNat, fits 311 307 0]
  | .buffer createFlags usageFlags size =>
    [fits 7 0 createFlags.toNat, fits 23 8 usageFlags.toNat, fits 87 24 size.toNat]
  | .gpuEvent isGpuOnly => [fits 7 0 isGpuOnly.toNat]
  | .borderColorPalette numEntries => [fits 7 0 numEntries.toNat]
  | .perfExperiment spmSize sqttSize counterSize =>
    [fits 31 0 spmSize.toNat, fits 63 32 sqttSize.toNat, fits 95 64 counterSize.toNat]
  | .queryHeap type enableCpuAccess =>
    [fits 1 0 type.ctorIdx, fits 2 2 enableCpuAccess.toNat, fits 7 3 0]
  | .videoDecoder engineType decoderType width height =>
    [fits 3 0 engineType.ctorIdx, fits 7 4 decoderType.ctorIdx, fits 19 8 (width.toNat - 1),
      fits 31 20 (height.toNat - 1)]
  | .videoEncoder engineType encoderType width height format =>
    [fits 3 0 engineType.ctorIdx, fits 4 4 encoderType.ctorIdx, fits 16 5 (width.toNat - 1),
      fits 28 17 (height.toNat - 1), ⟨⟨47, 29, format.toNat⟩, IsImageFormat format⟩]
  | .heap flags size alignment segmentIndex =>
    -- Two of the eight flags are reserved.
    [⟨⟨4, 0, flags.toNat⟩, flags.toNat < 2 ^ 6⟩, fits 68 5 size.toNat,
      alignmentField 73 69 alignment, fits 77 74 segmentIndex.toNat, fits 79 78 0]
  | .pipeline flags hashUpper hashLower stages isNgg =>
    [fits 7 0 flags.toNat, fits 71 8 hashUpper.toNat, fits 135 72 hashLower.toNat,
      fits 136 136 stages.psStage.toNat, fits 137 137 stages.hsStage.toNat,
      fits 138 138 stages.dsStage.toNat, fits 139 139 stages.vsStage.toNat,
      fits 140 140 stages.gsStage.toNat, fits 141 141 stages.csStage.toNat,
      fits 142 142 stages.tsStage.toNat, fits 143 143 stages.msStage.toNat,
      fits 144 144 isNgg.toNat, fits 151 145 0]
  | .workgraph flags hashUpper hashLower =>
    [fits 7 0 flags.toNat, fits 71 8 hashUpper.toNat, fits 135 72 hashLower.toNat]
  | .descriptorHeap type isShaderVisible gpuMask numDescriptors =>
    [fits 3 0 type.ctorIdx, fits 4 4 isShaderVisible.toNat, fits 12 5 gpuMask.toNat,
      fits 28 13 numDescriptors.toNat, fits 31 29 0]
  | .poolSize maxSets poolSizeCount => [fits 15 0 maxSets.toNat, fits 23 16 poolSizeCount.toNat]
  | .poolSizeDesc type numDescriptors => [fits 15 0 type.ctorIdx, fits 31 16 numDescriptors.toNat]
  | .cmdAllocator flags cmdDataPreferredHeap cmdDataAllocSize cmdDataSuballocSize
      embeddedDataPreferredHeap embeddedDataAllocSize embeddedDataSuballocSize
      gpuScratchMemPreferredHeap gpuScratchMemAllocSize gpuScratchMemSuballocSize =>
    [fits 3 0 flags.toNat, fits 7 4 cmdDataPreferredHeap.ctorIdx,
      fits 63 8 cmdDataAllocSize.toNat, fits 119 64 cmdDataSuballocSize.toNat,
      fits 123 120 embeddedDataPreferredHeap.ctorIdx,
      fits 179 124 embeddedDataAllocSize.toNat, fits 235 180 embeddedDataSuballocSize.toNat,
      fits 239 236 gpuScratchMemPreferredHeap.ctorIdx,
      fits 295 240 gpuScratchMemAllocSize.toNat, fits 351 296 gpuScratchMemSuballocSize.toNat]
  | .miscInternal type => [fits 7 0 type.ctorIdx]

/-- Each field whose value is in its domain holds that value. -/
def Described (memory : ℕ → BitVec 8) (r : RmtResource) : Prop :=
  ∀ f ∈ resourceFields r, f.domain →
    (bitsOf (r.build memory).pByteData f.doc.startBit f.doc.width : ℤ) = f.doc.value

def writtenField (w : RmtWrite) : DocField :=
  ⟨w.endBit, w.startBit, (w.srcVal.toNat % 2 ^ (w.endBit + 1 - w.startBit) : ℕ)⟩

section Writes

variable {d : RmtTokenData} {writes : List RmtWrite} {start stop : ℕ}

theorem shows_writtenFields (htiles : Tiles start (writes.map writtenField) stop)
    (hstop : stop ≤ 8 * d.sizeInBytes) :
    Shows (d.writeFields writes) (writes.map writtenField) ∧
      ∀ k < start, bitAt (d.writeFields writes).pByteData k = bitAt d.pByteData k := by
  induction writes generalizing d start with
  | nil => exact ⟨nofun, fun _ _ => rfl⟩
  | cons w writes ih =>
    obtain ⟨hfirst, hle, hrest⟩ := htiles
    change w.startBit = start at hfirst
    change start ≤ w.endBit + 1 at hle
    have hafter : w.endBit + 1 ≤ stop := hrest.le
    have hinside : w.startBit / 8 + numBytes w.endBit w.startBit ≤ d.sizeInBytes := by
      unfold numBytes
      omega
    have hsize := sizeInBytes_setBits w.srcVal w.endBit w.startBit d
    obtain ⟨hshows, hkept⟩ := ih (d := d.setBits w.srcVal w.endBit w.startBit) hrest
      (by rwa [hsize])
    constructor
    · rw [List.map_cons]
      apply List.forall_mem_cons.mpr ⟨_, hshows⟩
      apply congrArg (Nat.cast : ℕ → ℤ)
      apply (bitsOf_eq_iff (Nat.mod_lt _ (Nat.two_pow_pos _))).mpr
      intro j hj
      change j < w.endBit + 1 - w.startBit at hj
      have hreach : w.startBit + j ≤ reach w.endBit w.startBit := by
        unfold reach
        split <;> omega
      have hbit := bitAt_setBits w.srcVal hinside (w.startBit + j)
      rw [if_pos ⟨by omega, hreach⟩, Nat.add_sub_cancel_left] at hbit
      refine (hkept _ (by change w.startBit + j < w.endBit + 1; omega)).trans (hbit.trans ?_)
      have hwidth : decide (j < (writtenField w).width) = true := decide_eq_true hj
      rw [Nat.testBit_mod_two_pow, hwidth, Bool.true_and]
      rfl
    · intro k hk
      refine (hkept k (by change k < w.endBit + 1; omega)).trans ?_
      rw [bitAt_setBits _ hinside, if_neg (by omega)]

end Writes

/-! ## Values -/

section Values

variable {endBit startBit : ℕ} {srcVal : BitVec 64} {value : ℤ}

structure Tells (w : RmtWrite) (f : ResourceField) : Prop where
  endBit : w.endBit = f.doc.endBit
  startBit : w.startBit = f.doc.startBit
  value : f.domain → (writtenField w).value = f.doc.value

theorem value_writtenField (hvalue : (srcVal.toNat : ℤ) = value)
    (hholds : DocField.Holds ⟨endBit, startBit, value⟩) :
    (writtenField ⟨srcVal, endBit, startBit⟩).value = value := by
  have hlt : srcVal.toNat < 2 ^ (endBit + 1 - startBit) := by
    have hhigh := hholds.2
    dsimp only [DocField.width] at hhigh
    rw [← hvalue] at hhigh
    exact_mod_cast hhigh
  rw [writtenField, Nat.mod_eq_of_lt hlt, hvalue]

theorem tells_fits (hvalue : DocField.Holds ⟨endBit, startBit, value⟩ →
      (srcVal.toNat : ℤ) = value) : Tells ⟨srcVal, endBit, startBit⟩ (fits endBit startBit value) :=
  ⟨rfl, rfl, fun hholds => value_writtenField (hvalue hholds) hholds⟩

theorem tells_setWidth {w : ℕ} (hw : w ≤ 64) (x : BitVec w) :
    Tells ⟨x.setWidth 64, endBit, startBit⟩ (fits endBit startBit x.toNat) :=
  tells_fits fun _ => value_setWidth hw x

theorem tells_boolVal (b : Bool) :
    Tells ⟨boolVal b, endBit, startBit⟩ (fits endBit startBit b.toNat) :=
  tells_fits fun _ => value_boolVal b

theorem tells_ofNat {n : ℕ} (h : n < 2 ^ 64) :
    Tells ⟨.ofNat 64 n, endBit, startBit⟩ (fits endBit startBit n) :=
  tells_fits fun _ => value_ofNat h

theorem tells_pred (x : BitVec 16) :
    Tells ⟨x.setWidth 64 - 1, endBit, startBit⟩ (fits endBit startBit (x.toNat - 1)) := by
  apply tells_fits
  intro hholds
  have hpos := hholds.1
  have hwidth : (x.setWidth 64).toNat = x.toNat := BitVec.toNat_setWidth_of_le (by decide)
  have hone : (1 : BitVec 64).toNat = 1 := rfl
  dsimp only at hpos
  rw [BitVec.toNat_sub, hwidth, hone]
  omega

theorem tells_pred32 (x : BitVec 32) :
    Tells ⟨(x - 1).setWidth 64, endBit, startBit⟩ (fits endBit startBit (x.toNat - 1)) := by
  apply tells_fits
  intro hholds
  have hpos := hholds.1
  have hone : (1 : BitVec 32).toNat = 1 := rfl
  dsimp only at hpos
  rw [BitVec.toNat_setWidth_of_le (by decide), BitVec.toNat_sub, hone]
  omega

theorem log2Loop_twoPow (n k : ℕ) (hk : k ≤ n) (hn : n ≤ 63) :
    log2Loop n (BitVec.twoPow 64 (k + (63 - n))) = k := by
  induction n with
  | zero => exact (Nat.le_zero.mp hk).symm
  | succ n ih =>
    have hsome : BitVec.twoPow 64 (k + (63 - (n + 1))) ≠ 0 := by
      intro hzero
      have hbit := congrArg (BitVec.getLsbD · (k + (63 - (n + 1)))) hzero
      simp [BitVec.getLsbD_twoPow] at hbit
      omega
    rw [log2Loop, if_pos hsome]
    by_cases hlast : k = n + 1
    · subst hlast
      have hsum : n + 1 + (63 - (n + 1)) = 63 := by omega
      rw [hsum, if_pos (by decide)]
    · have hbelow : k + (63 - (n + 1)) < 63 := by omega
      have hmask : BitVec.twoPow 64 (k + (63 - (n + 1))) &&& 0x8000000000000000 = 0 := by
        apply BitVec.eq_of_getLsbD_eq
        intro i hi
        have hhigh : (0x8000000000000000 : BitVec 64) = BitVec.twoPow 64 63 := rfl
        rw [hhigh, BitVec.getLsbD_and, BitVec.getLsbD_twoPow, BitVec.getLsbD_twoPow]
        have hzero : (0 : BitVec 64).getLsbD i = false := BitVec.getLsbD_zero
        rw [hzero]
        simp
        omega
      have hshift : BitVec.twoPow 64 (k + (63 - (n + 1))) <<< 1 =
          BitVec.twoPow 64 (k + (63 - n)) := by
        have hsum : k + (63 - n) = k + (63 - (n + 1)) + 1 := by omega
        rw [hsum, BitVec.twoPow_eq, BitVec.twoPow_eq, ← BitVec.shiftLeft_add]
      rw [if_neg (by simpa using hmask), hshift]
      exact ih (by omega) (by omega)

theorem rmtLog2_of_isPowerOfTwo {x : BitVec 64} (h : IsPowerOfTwo x) :
    (rmtLog2 x).toNat = Nat.log2 x.toNat := by
  obtain ⟨k, hk, hx⟩ := h
  have hpow : x = BitVec.twoPow 64 (k + (63 - 63)) := by
    apply BitVec.eq_of_toNat_eq
    rw [hx, BitVec.toNat_twoPow, Nat.sub_self, Nat.add_zero,
      Nat.mod_eq_of_lt (Nat.pow_lt_pow_right (by decide) hk)]
  rw [hx, Nat.log2_two_pow, rmtLog2, hpow, log2Loop_twoPow 63 k (by omega) (Nat.le_refl _)]
  rw [BitVec.toNat_ofNat]
  exact Nat.mod_eq_of_lt (by omega)

theorem tells_count (count : BitVec 8) :
    Tells ⟨rmtLog2 (count.setWidth 64), endBit, startBit⟩ (countField endBit startBit count) := by
  refine ⟨rfl, rfl, ?_⟩
  rintro ⟨hpow, hholds⟩
  apply value_writtenField _ hholds
  rw [rmtLog2_of_isPowerOfTwo hpow, BitVec.toNat_setWidth_of_le (by decide)]

def AlignmentTold (alignment : BitVec 64) : Prop :=
  IsAlignment alignment → alignment ≠ 0 ∧ alignment.toNat < 2 ^ 32

theorem tells_alignment_iff (hwidth : endBit + 1 - startBit = 5) (alignment : BitVec 64) :
    Tells ⟨rmtLog2 alignment, endBit, startBit⟩ (alignmentField endBit startBit alignment) ↔
      AlignmentTold alignment := by
  have hvalue : (writtenField ⟨rmtLog2 alignment, endBit, startBit⟩).value =
      ((rmtLog2 alignment).toNat % 2 ^ 5 : ℕ) := by
    rw [writtenField, hwidth]
  have htells : Tells ⟨rmtLog2 alignment, endBit, startBit⟩
      (alignmentField endBit startBit alignment) ↔
        (IsAlignment alignment → (rmtLog2 alignment).toNat % 2 ^ 5 = alignmentCode alignment) := by
    refine ⟨fun h hlegal => ?_, fun h => ⟨rfl, rfl, fun hlegal => ?_⟩⟩
    · exact Int.ofNat.inj (hvalue.symm.trans (h.value hlegal))
    · rw [hvalue, h hlegal]
      rfl
  rw [htells, AlignmentTold]
  refine forall_congr' fun hlegal => ?_
  by_cases hzero : alignment = 0
  · subst hzero
    refine iff_of_false ?_ fun h => h.1 rfl
    decide
  · have hpow : IsPowerOfTwo alignment := hlegal.resolve_left hzero
    rw [rmtLog2_of_isPowerOfTwo hpow, alignmentCode]
    obtain ⟨k, hk, hpow⟩ := hpow
    rw [hpow, Nat.log2_two_pow, Nat.pow_lt_pow_iff_right (by decide)]
    constructor
    · intro hsame
      exact ⟨hzero, by omega⟩
    · rintro ⟨-, hsmall⟩
      omega

end Values

/-! ## The descriptions -/

/-- What a description needs beyond its documented domains to be told in full: the flags of a heap
without the last one, a video format among the first half of the formats, and alignments that are
not zero and have at most 32 bits. -/
def ToldInFull : RmtResource → Prop
  | .image createInfo =>
    AlignmentTold createInfo.imageAlignment ∧ AlignmentTold createInfo.metadataAlignment ∧
      AlignmentTold createInfo.metadataHeaderAlignment
  | .videoEncoder _ _ _ _ format => IsImageFormat format → format.toNat < 2 ^ 19
  | .heap flags _ alignment _ =>
    (flags.toNat < 2 ^ 6 → flags.toNat < 2 ^ 5) ∧ AlignmentTold alignment
  | _ => True

section Resources

variable {memory : ℕ → BitVec 8} {r : RmtResource}

theorem tiles_writes (r : RmtResource) :
    Tiles 0 (r.writes.map writtenField) (8 * r.bytesSize) := by
  cases r <;> simp [writes, bytesSize, writtenField, Tiles]

theorem shows_build (memory : ℕ → BitVec 8) (r : RmtResource) :
    Shows (r.build memory) (r.writes.map writtenField) :=
  (shows_writtenFields (tiles_writes r) (Nat.le_refl _)).1

theorem described_iff_tells {d : RmtTokenData} {writes : List RmtWrite}
    {fields : List ResourceField} (hshows : Shows d (writes.map writtenField))
    (hranges : List.Forall₂
      (fun w f => w.endBit = f.doc.endBit ∧ w.startBit = f.doc.startBit) writes fields) :
    (∀ f ∈ fields, f.domain →
      (bitsOf d.pByteData f.doc.startBit f.doc.width : ℤ) = f.doc.value) ↔
        List.Forall₂ Tells writes fields := by
  induction hranges with
  | nil => exact ⟨fun _ => .nil, fun _ => nofun⟩
  | @cons w f writes fields hrange hranges ih =>
    rw [List.map_cons, Shows, List.forall_mem_cons] at hshows
    rw [List.forall_mem_cons, List.forall₂_cons, ih hshows.2]
    refine and_congr_left fun _ => ?_
    have hwidth : f.doc.width = (writtenField w).width := by
      rw [DocField.width, ← hrange.1, ← hrange.2]
      rfl
    have hshown : (bitsOf d.pByteData w.startBit (writtenField w).width : ℤ) =
        (writtenField w).value := hshows.1
    rw [← hrange.2, hwidth, hshown]
    exact ⟨fun h => ⟨hrange.1, hrange.2, h⟩, fun h => h.value⟩

theorem same_ranges (r : RmtResource) :
    List.Forall₂ (fun w f => w.endBit = f.doc.endBit ∧ w.startBit = f.doc.startBit)
      r.writes (resourceFields r) := by
  cases r <;>
    simp [writes, resourceFields, fits, countField, alignmentField]

theorem tells_format_iff {endBit startBit : ℕ} (format : BitVec 32) :
    Tells ⟨format.setWidth 64, endBit, startBit⟩
        ⟨⟨endBit, startBit, format.toNat⟩, IsImageFormat format⟩ ↔
      (IsImageFormat format → format.toNat < 2 ^ (endBit + 1 - startBit)) := by
  have hvalue : (writtenField ⟨format.setWidth 64, endBit, startBit⟩).value =
      (format.toNat % 2 ^ (endBit + 1 - startBit) : ℕ) := by
    rw [writtenField, BitVec.toNat_setWidth_of_le (by decide)]
  constructor
  · intro h hlegal
    have hsame := hvalue.symm.trans (h.value hlegal)
    rw [← Int.ofNat.inj hsame]
    exact Nat.mod_lt _ (Nat.two_pow_pos _)
  · intro h
    refine ⟨rfl, rfl, fun hlegal => ?_⟩
    rw [hvalue, Nat.mod_eq_of_lt (h hlegal)]

theorem tells_heapFlags_iff (flags : BitVec 8) :
    Tells ⟨flags.setWidth 64, 4, 0⟩ ⟨⟨4, 0, flags.toNat⟩, flags.toNat < 2 ^ 6⟩ ↔
      (flags.toNat < 2 ^ 6 → flags.toNat < 2 ^ 5) := by
  have hvalue : (writtenField ⟨flags.setWidth 64, 4, 0⟩).value = (flags.toNat % 2 ^ 5 : ℕ) := by
    rw [writtenField, BitVec.toNat_setWidth_of_le (by decide)]
    rfl
  constructor
  · intro h hlegal
    have hsame := Int.ofNat.inj (hvalue.symm.trans (h.value hlegal))
    omega
  · intro h
    refine ⟨rfl, rfl, fun hlegal => ?_⟩
    rw [hvalue, Nat.mod_eq_of_lt (h hlegal)]

theorem tells_maxBaseAlignment (alignment : BitVec 64) :
    Tells ⟨if alignment = 0 then 0 else rmtLog2 alignment, 129, 125⟩
      ⟨⟨129, 125, alignmentCode alignment⟩,
        IsAlignment alignment ∧ alignment.toNat ≤ 2 * 1024 * 1024⟩ := by
  refine ⟨rfl, rfl, ?_⟩
  rintro ⟨hlegal, hsmall⟩
  by_cases hzero : alignment = 0
  · subst hzero
    rfl
  · have hlarge : alignment.toNat < 2 ^ 32 := by omega
    rw [if_neg hzero]
    exact ((tells_alignment_iff rfl alignment).mpr fun _ => ⟨hzero, hlarge⟩).value hlegal

theorem tells_image_iff (createInfo : RmtImageDescCreateInfo) :
    List.Forall₂ Tells (image createInfo).writes
        (resourceFields (.image createInfo)) ↔
      ToldInFull (.image createInfo) := by
  have hformat : Tells ⟨createInfo.format.setWidth 64, 98, 79⟩
      ⟨⟨98, 79, createInfo.format.toNat⟩, IsImageFormat createInfo.format⟩ := by
    rw [tells_format_iff]
    rintro ⟨-, hnumber⟩
    omega
  constructor
  · intro h
    simp only [writes, resourceFields, List.forall₂_cons] at h
    obtain ⟨-, -, -, -, -, -, -, -, -, -, -, -, -, -, -, -, -, -, -, -, -, himage, hmetadata,
      hheader, -⟩ := h
    exact ⟨(tells_alignment_iff rfl _).mp himage, (tells_alignment_iff rfl _).mp hmetadata,
      (tells_alignment_iff rfl _).mp hheader⟩
  · rintro ⟨himage, hmetadata, hheader⟩
    refine .cons (tells_setWidth (by decide) _) <| .cons (tells_setWidth (by decide) _) <|
      .cons (tells_ofNat ?_) <| .cons (tells_pred _) <| .cons (tells_pred _) <|
      .cons (tells_pred _) <| .cons hformat <| .cons (tells_setWidth (by decide) _) <|
      .cons (tells_pred _) <| .cons (tells_count _) <| .cons (tells_count _) <|
      .cons (tells_ofNat ?_) <| .cons (tells_ofNat ?_) <| .cons (tells_ofNat ?_) <|
      .cons (tells_maxBaseAlignment _) <| .cons (tells_boolVal _) <|
      .cons (tells_setWidth (by decide) _) <| .cons (tells_setWidth (by decide) _) <|
      .cons (tells_setWidth (by decide) _) <| .cons (tells_setWidth (by decide) _) <|
      .cons (tells_setWidth (by decide) _) <|
      .cons ((tells_alignment_iff rfl _).mpr himage) <|
      .cons ((tells_alignment_iff rfl _).mpr hmetadata) <|
      .cons ((tells_alignment_iff rfl _).mpr hheader) <| .cons (tells_boolVal _) <|
      .cons (tells_fits fun _ => rfl) .nil
    · cases createInfo.imageType <;> decide
    · cases createInfo.tilingType <;> decide
    · cases createInfo.tilingOptMode <;> decide
    · cases createInfo.metadataMode <;> decide

theorem tells_videoEncoder_iff (engineType : RmtEngineType) (encoderType : RmtVideoEncoderType)
    (width height : BitVec 16) (format : BitVec 32) :
    List.Forall₂ Tells
        (videoEncoder engineType encoderType width height format).writes
        (resourceFields (.videoEncoder engineType encoderType width height format)) ↔
      ToldInFull (.videoEncoder engineType encoderType width height format) := by
  constructor
  · intro h
    simp only [writes, resourceFields, List.forall₂_cons] at h
    obtain ⟨-, -, -, -, hformat, -⟩ := h
    exact (tells_format_iff format).mp hformat
  · intro h
    refine .cons (tells_ofNat ?_) <| .cons (tells_ofNat ?_) <| .cons (tells_pred _) <|
      .cons (tells_pred _) <| .cons ((tells_format_iff format).mpr h) .nil
    · cases engineType <;> decide
    · cases encoderType <;> decide

theorem tells_heap_iff (flags : BitVec 8) (size alignment : BitVec 64)
    (segmentIndex : BitVec 8) :
    List.Forall₂ Tells (heap flags size alignment segmentIndex).writes
        (resourceFields (.heap flags size alignment segmentIndex)) ↔
      ToldInFull (.heap flags size alignment segmentIndex) := by
  constructor
  · intro h
    simp only [writes, resourceFields, List.forall₂_cons] at h
    obtain ⟨hflags, -, halignment, -⟩ := h
    exact ⟨(tells_heapFlags_iff flags).mp hflags,
      (tells_alignment_iff rfl alignment).mp halignment⟩
  · rintro ⟨hflags, halignment⟩
    exact .cons ((tells_heapFlags_iff flags).mpr hflags) <| .cons (tells_fits fun _ => rfl) <|
      .cons ((tells_alignment_iff rfl alignment).mpr halignment) <|
      .cons (tells_setWidth (by decide) _) <| .cons (tells_fits fun _ => rfl) .nil

/-- One case for each type of resource. -/
theorem tells_iff (r : RmtResource) :
    List.Forall₂ Tells r.writes (resourceFields r) ↔ ToldInFull r := by
  have hzero : ∀ {endBit startBit : ℕ}, Tells ⟨0, endBit, startBit⟩ (fits endBit startBit 0) :=
    tells_fits fun _ => rfl
  have hword : ∀ {endBit startBit : ℕ} (x : BitVec 64),
      Tells ⟨x, endBit, startBit⟩ (fits endBit startBit x.toNat) := fun _ => tells_fits fun _ => rfl
  cases r with
  | image createInfo => exact tells_image_iff createInfo
  | videoEncoder engineType encoderType width height format =>
    exact tells_videoEncoder_iff engineType encoderType width height format
  | heap flags size alignment segmentIndex =>
    exact tells_heap_iff flags size alignment segmentIndex
  | buffer createFlags usageFlags size =>
    exact iff_of_true (.cons (tells_setWidth (by decide) _) <|
      .cons (tells_setWidth (by decide) _) <| .cons (hword _) .nil) trivial
  | gpuEvent isGpuOnly => exact iff_of_true (.cons (tells_boolVal _) .nil) trivial
  | borderColorPalette numEntries =>
    exact iff_of_true (.cons (tells_setWidth (by decide) _) .nil) trivial
  | perfExperiment spmSize sqttSize counterSize =>
    exact iff_of_true (.cons (tells_setWidth (by decide) _) <|
      .cons (tells_setWidth (by decide) _) <| .cons (tells_setWidth (by decide) _) .nil) trivial
  | queryHeap type enableCpuAccess =>
    refine iff_of_true (.cons (tells_ofNat ?_) <| .cons (tells_boolVal _) <|
      .cons hzero .nil) trivial
    cases type <;> decide
  | videoDecoder engineType decoderType width height =>
    refine iff_of_true (.cons (tells_ofNat ?_) <| .cons (tells_ofNat ?_) <|
      .cons (tells_pred32 _) <| .cons (tells_pred32 _) .nil) trivial
    · cases engineType <;> decide
    · cases decoderType <;> decide
  | pipeline flags hashUpper hashLower stages isNgg =>
    exact iff_of_true (.cons (tells_setWidth (by decide) _) <| .cons (hword _) <|
      .cons (hword _) <| .cons (tells_boolVal _) <| .cons (tells_boolVal _) <|
      .cons (tells_boolVal _) <| .cons (tells_boolVal _) <| .cons (tells_boolVal _) <|
      .cons (tells_boolVal _) <| .cons (tells_boolVal _) <| .cons (tells_boolVal _) <|
      .cons (tells_boolVal _) <| .cons hzero .nil) trivial
  | workgraph flags hashUpper hashLower =>
    exact iff_of_true (.cons (tells_setWidth (by decide) _) <| .cons (hword _) <|
      .cons (hword _) .nil) trivial
  | descriptorHeap type isShaderVisible gpuMask numDescriptors =>
    refine iff_of_true (.cons (tells_ofNat ?_) <| .cons (tells_boolVal _) <|
      .cons (tells_setWidth (by decide) _) <| .cons (tells_setWidth (by decide) _) <|
      .cons hzero .nil) trivial
    cases type <;> decide
  | poolSize maxSets poolSizeCount =>
    exact iff_of_true (.cons (tells_setWidth (by decide) _) <|
      .cons (tells_setWidth (by decide) _) .nil) trivial
  | poolSizeDesc type numDescriptors =>
    refine iff_of_true (.cons (tells_ofNat ?_) <|
      .cons (tells_setWidth (by decide) _) .nil) trivial
    cases type <;> decide
  | cmdAllocator flags cmdHeap cmdAlloc cmdSuballoc dataHeap dataAlloc dataSuballoc scratchHeap
      scratchAlloc scratchSuballoc =>
    have hheap : ∀ heap : RmtHeapType, heap.ctorIdx < 2 ^ 64 := by
      intro heap
      cases heap <;> decide
    exact iff_of_true (.cons (tells_setWidth (by decide) _) <| .cons (tells_ofNat (hheap _)) <|
      .cons (hword _) <| .cons (hword _) <| .cons (tells_ofNat (hheap _)) <| .cons (hword _) <|
      .cons (hword _) <| .cons (tells_ofNat (hheap _)) <| .cons (hword _) <|
      .cons (hword _) .nil) trivial
  | miscInternal type =>
    refine iff_of_true (.cons (tells_ofNat ?_) .nil) trivial
    cases type <;> decide

/-- The finished token of a description has in each range the low bits of the value that was
written there, whatever the others are; each documented field is told if and only if the description
can be told in full. -/
theorem resource_described_iff (memory : ℕ → BitVec 8) (r : RmtResource) :
    Shows (r.build memory) (r.writes.map writtenField) ∧ (Described memory r ↔ ToldInFull r) :=
  ⟨shows_build memory r,
    (described_iff_tells (shows_build memory r) (same_ranges r)).trans (tells_iff r)⟩

/-- A heap whose promotion to the local one is denied: its token has no room for that flag. -/
theorem resource_described_not : ¬ Described (fun _ => 0) (.heap 0x20 4096 4096 0) := by
  rw [Described, described_iff_tells (shows_build _ _) (same_ranges _), tells_iff]
  rintro ⟨hflags, -⟩
  exact absurd (hflags (by decide)) (by decide)

end Resources

end DevDriver.Analysis
