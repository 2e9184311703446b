import Mathlib.Data.Nat.ModEq
import Mathlib.Tactic.NormNum
import DevDriver.Library.WordCodec
import DevDriver.Model.CrashEvents

/-!
# Crash events round trip

A record with an array is written and read back with its size just where that size fits `size_t`
and the array has a fitting number of entries.  Records of fixed fields always round trip.
-/

namespace DevDriver.Analysis

open Library Model

def wordAt (memory : ℕ → UInt8) (i : ℕ) : BitVec 32 := uint32At memory (4 * i)

/-- What a record with an array consists of: words of its fixed part, and of each entry. -/
structure CountedFormat (R : Type) where
  layout : CountedLayout
  headerWords : ℕ
  entryWords : ℕ
  entryCount : R → ℕ
  words : R → List (BitVec 32)
  ofWords : (ℕ → BitVec 32) → R
  structSize_eq : layout.structSize = 4 * headerWords + 4 * entryWords
  entrySize_eq : layout.entrySize = 4 * entryWords
  entry_pos : 0 < entryWords
  small : 4 * headerWords + 4 * entryWords < 2 ^ 16
  length_words : ∀ r, (words r).length = headerWords + entryWords * entryCount r
  entryCount_lt : ∀ r, entryCount r < 2 ^ 33
  ofWords_eq : ∀ r read, ReadsWords (words r) read → ofWords read = r
  countIn_eq : ∀ r memory, ReadsWords (words r) (wordAt memory) →
    (layout.countIn memory).toNat = entryCount r % 2 ^ 32

namespace CountedFormat

variable {R : Type} (F : CountedFormat R)

def HeldIn (memory : ℕ → UInt8) (r : R) : Prop := ReadsWords (F.words r) (wordAt memory)

def size (r : R) : ℕ := 4 * F.headerWords + 4 * F.entryWords * F.entryCount r

/-- A record is written with the bytes that it has, and those are read back. -/
structure RoundTrips (word : WordSize) (r : R) : Prop where
  size_eq : ∀ memory, F.HeldIn memory r →
    F.layout.calculateBufferSize word (F.layout.countIn memory) = F.size r
  written : ∀ this buffer, F.HeldIn this r →
    (F.layout.toBuffer word this buffer).1 = F.size r ∧
      (∀ a < F.size r, (F.layout.toBuffer word this buffer).2 a = this a) ∧
        ∀ a, F.size r ≤ a → (F.layout.toBuffer word this buffer).2 a = buffer a
  restored : ∀ this buffer, F.HeldIn buffer r →
    (F.layout.fromBuffer word this buffer).1 = F.size r ∧
      F.HeldIn (F.layout.fromBuffer word this buffer).2 r ∧
        F.ofWords (wordAt (F.layout.fromBuffer word this buffer).2) = r ∧
          ∀ a, F.layout.calculateStructureSize word (F.layout.countIn buffer) ≤ a →
            (F.layout.fromBuffer word this buffer).2 a = this a

def Fits (word : WordSize) (r : R) : Prop :=
  match word with
  | .bits32 => F.size r < 2 ^ 32
  | .bits64 => 0 < F.entryCount r ∧ F.entryCount r < 2 ^ 32

end CountedFormat

section Memory

variable {dst src memory memory' : ℕ → UInt8} {dstPos dstSize srcPos srcSize a i : ℕ}

theorem memcpyS_inside (hsize : srcSize ≤ dstSize) (hi : i < srcSize) :
    memcpyS dst dstPos dstSize src srcPos srcSize (dstPos + i) = src (srcPos + i) := by
  rw [memcpyS, if_neg (by omega), if_neg (by omega), writeAt, if_neg (by omega),
    Nat.add_sub_cancel_left, List.getD_eq_getElem _ _ (by rw [length_readAt]; exact hi)]
  simp [readAt]

theorem memcpyS_outside (h : a < dstPos ∨ dstPos + srcSize ≤ a) (hsize : srcSize ≤ dstSize) :
    memcpyS dst dstPos dstSize src srcPos srcSize a = dst a := by
  rw [memcpyS]
  split
  · rfl
  · rw [if_neg (by omega), writeAt_of_disjoint (by rw [length_readAt]; exact h)]

theorem wordAt_congr (h : ∀ a < 4 * (i + 1), memory' a = memory a) :
    wordAt memory' i = wordAt memory i := by
  have hbytes : readAt memory' (4 * i) 4 = readAt memory (4 * i) 4 := by
    apply readAt_congr
    intro j hj
    exact h (4 * i + j) (by omega)
  rw [wordAt, wordAt, uint32At, uint32At, hbytes]

def memoryOf (words : List (BitVec 32)) : ℕ → UInt8 := fun a =>
  UInt8.ofNat ((words.getD (a / 4) 0).toNat / 256 ^ (a % 4))

theorem readsWords_memoryOf (words : List (BitVec 32)) :
    ReadsWords words (wordAt (memoryOf words)) := by
  intro i hi
  have hbyte : ∀ j < 4, memoryOf words (4 * i + j) = UInt8.ofNat (words[i].toNat / 256 ^ j) := by
    intro j hj
    have hdiv : (4 * i + j) / 4 = i := by omega
    have hmod : (4 * i + j) % 4 = j := by omega
    rw [memoryOf, hdiv, hmod, List.getD_eq_getElem _ _ hi]
  have hread : readAt (memoryOf words) (4 * i) 4 = leBytes 4 words[i].toNat := by
    have hlist : readAt (memoryOf words) (4 * i) 4 =
        [memoryOf words (4 * i + 0), memoryOf words (4 * i + 1), memoryOf words (4 * i + 2),
          memoryOf words (4 * i + 3)] := rfl
    rw [hlist, hbyte 0 (by decide), hbyte 1 (by decide), hbyte 2 (by decide),
      hbyte 3 (by decide)]
    simp only [leBytes, Nat.div_div_eq_div_mul]
    norm_num
  rw [List.getElem?_eq_getElem hi, wordAt, uint32At, hread,
    leNat_leBytes_of_lt words[i].isLt, BitVec.ofNat_toNat, BitVec.setWidth_eq]

end Memory

/-! ## Sizes -/

namespace CountedFormat

section Sizes

variable {R : Type} {F : CountedFormat R} {r : R} {memory : ℕ → UInt8} {word : WordSize}

theorem bufferSize_eq (count : BitVec 32) :
    F.layout.calculateBufferSize word count =
      (4 * F.headerWords +
        4 * F.entryWords * (if count.toNat = 0 then 2 ^ 32 else count.toNat)) % word.modulus := by
  have hlt := count.isLt
  have hless : (count - 1).toNat + 1 = if count.toNat = 0 then 2 ^ 32 else count.toNat := by
    rw [BitVec.toNat_sub]
    have hone : (1 : BitVec 32).toNat = 1 := rfl
    split <;> omega
  rw [CountedLayout.calculateBufferSize, F.structSize_eq, F.entrySize_eq, ← hless]
  congr 1
  ring

theorem structureSize_eq (count : BitVec 32) :
    F.layout.calculateStructureSize word count =
      (4 * F.headerWords +
        4 * F.entryWords * (if count.toNat = 0 then 1 else count.toNat)) % word.modulus := by
  have hmax : F.layout.calculateStructureSize word count =
      F.layout.calculateBufferSize word (if 1 > count then 1 else count) := rfl
  rw [hmax, bufferSize_eq]
  have hzero : (1 : BitVec 32) > count ↔ count.toNat = 0 := by
    rw [gt_iff_lt, BitVec.lt_def]
    have hone : (1 : BitVec 32).toNat = 1 := rfl
    omega
  by_cases hcount : count.toNat = 0
  · rw [if_pos (hzero.mpr hcount), if_pos hcount]
    rfl
  · rw [if_neg (hzero.not.mpr hcount), if_neg hcount, if_neg hcount]

theorem bufferSize_bits32 (hheld : F.HeldIn memory r) :
    F.layout.calculateBufferSize .bits32 (F.layout.countIn memory) = F.size r % 2 ^ 32 := by
  have hcount := F.countIn_eq r memory hheld
  rw [bufferSize_eq, hcount, size]
  have hmod : Nat.ModEq (2 ^ 32)
      (4 * F.entryWords *
        (if F.entryCount r % 2 ^ 32 = 0 then 2 ^ 32 else F.entryCount r % 2 ^ 32))
      (4 * F.entryWords * F.entryCount r) := by
    apply Nat.ModEq.mul_left
    split
    · rename_i hzero
      rw [Nat.ModEq, hzero]
      rfl
    · exact Nat.mod_modEq _ _
  exact hmod.add_left _

theorem bufferSize_bits64 (hheld : F.HeldIn memory r) :
    F.layout.calculateBufferSize .bits64 (F.layout.countIn memory) =
      4 * F.headerWords + 4 * F.entryWords *
        (if F.entryCount r % 2 ^ 32 = 0 then 2 ^ 32 else F.entryCount r % 2 ^ 32) := by
  rw [bufferSize_eq, F.countIn_eq r memory hheld]
  apply Nat.mod_eq_of_lt
  have hsmall := F.small
  have hle : 4 * F.entryWords *
      (if F.entryCount r % 2 ^ 32 = 0 then 2 ^ 32 else F.entryCount r % 2 ^ 32) ≤
        2 ^ 16 * 2 ^ 32 := by
    apply Nat.mul_le_mul
    · omega
    · split <;> omega
  change _ < 2 ^ 64
  omega

theorem sizes_of_fits (hheld : F.HeldIn memory r) (hfits : F.Fits word r) :
    F.layout.calculateBufferSize word (F.layout.countIn memory) = F.size r ∧
      F.size r ≤ F.layout.calculateStructureSize word (F.layout.countIn memory) := by
  have hcount := F.countIn_eq r memory hheld
  have hsmall := F.small
  have hpos := F.entry_pos
  rw [structureSize_eq, hcount]
  cases word with
  | bits32 =>
    have hsize : F.size r < 2 ^ 32 := hfits
    rw [bufferSize_bits32 hheld]
    refine ⟨Nat.mod_eq_of_lt hsize, ?_⟩
    rw [size] at hsize ⊢
    have hle : F.entryCount r ≤ 4 * F.entryWords * F.entryCount r :=
      Nat.le_mul_of_pos_left _ (by omega)
    rw [Nat.mod_eq_of_lt (by omega : F.entryCount r < 2 ^ 32)]
    split
    · rename_i hzero
      rw [hzero, Nat.mul_zero, Nat.mul_one, Nat.mod_eq_of_lt (hsmall.trans (by decide))]
      exact Nat.le_add_right _ _
    · exact Nat.le_of_eq (Nat.mod_eq_of_lt hsize).symm
  | bits64 =>
    obtain ⟨hsome, hlt⟩ := hfits
    rw [bufferSize_bits64 hheld, Nat.mod_eq_of_lt hlt, if_neg hsome.ne', if_neg hsome.ne', size]
    refine ⟨rfl, ?_⟩
    have hle : 4 * F.entryWords * F.entryCount r ≤ 2 ^ 16 * 2 ^ 32 :=
      Nat.mul_le_mul (by omega) hlt.le
    have hlarge : 4 * F.headerWords + 4 * F.entryWords * F.entryCount r < 2 ^ 64 := by omega
    exact Nat.le_of_eq (Nat.mod_eq_of_lt hlarge).symm

end Sizes

/-! ## Round trips -/

section RoundTrips

variable {R : Type} {F : CountedFormat R} {r : R} {memory memory' : ℕ → UInt8} {word : WordSize}

theorem size_eq_words (F : CountedFormat R) (r : R) : F.size r = 4 * (F.words r).length := by
  rw [size, F.length_words]
  ring

theorem HeldIn.copy (h : F.HeldIn memory r) (hcopy : ∀ a < F.size r, memory' a = memory a) :
    F.HeldIn memory' r := by
  rw [size_eq_words] at hcopy
  intro i hi
  rw [h i hi, wordAt_congr fun a ha => hcopy a (by omega)]

theorem roundTrips_of_fits (hfits : F.Fits word r) : F.RoundTrips word r := by
  constructor
  · intro memory hheld
    exact (sizes_of_fits hheld hfits).1
  · intro this buffer hheld
    obtain ⟨hsize, -⟩ := sizes_of_fits hheld hfits
    rw [CountedLayout.toBuffer, hsize]
    refine ⟨rfl, ?_, ?_⟩
    · intro a ha
      have hcopy := @memcpyS_inside buffer this 0 (F.size r) 0 (F.size r) a (Nat.le_refl _) ha
      rwa [Nat.zero_add] at hcopy
    · intro a ha
      exact memcpyS_outside (by omega) (Nat.le_refl _)
  · intro this buffer hheld
    obtain ⟨hsize, hroom⟩ := sizes_of_fits hheld hfits
    rw [CountedLayout.fromBuffer, hsize]
    have hheld' : F.HeldIn (memcpyS this 0
        (F.layout.calculateStructureSize word (F.layout.countIn buffer)) buffer 0
        (F.size r)) r := by
      apply hheld.copy
      intro a ha
      have hcopy := @memcpyS_inside this buffer 0 _ 0 (F.size r) a hroom ha
      rwa [Nat.zero_add] at hcopy
    refine ⟨rfl, hheld', F.ofWords_eq r _ hheld', ?_⟩
    intro a ha
    exact memcpyS_outside (by omega) hroom

theorem RoundTrips.size_le (h : F.RoundTrips word r) (hheld : F.HeldIn memory r)
    (haligned : 4 ∣ F.layout.calculateStructureSize word (F.layout.countIn memory)) :
    F.size r ≤ F.layout.calculateStructureSize word (F.layout.countIn memory) := by
  by_contra hshort
  obtain ⟨i, hi⟩ := haligned
  have hbehind : i < (F.words r).length := by
    rw [size_eq_words] at hshort
    omega
  -- What stands behind the storage stays there, whatever it is.
  have hsame : ∀ this, some (wordAt this i) = (F.words r)[i]? := by
    intro this
    obtain ⟨-, hrestored, -, houtside⟩ := h.restored this memory hheld
    rw [hrestored i hbehind, wordAt, wordAt, uint32At, uint32At]
    congr 3
    apply readAt_congr
    intro j _
    exact (houtside (4 * i + j) (by omega)).symm
  have hread : ∀ b : UInt8, wordAt (fun _ => b) i = wordAt (fun _ => b) 0 := by
    intro b
    rw [wordAt, wordAt, uint32At, uint32At]
    congr 2
  have htwo := (hsame fun _ => 0).trans (hsame fun _ => 1).symm
  rw [hread, hread] at htwo
  exact absurd htwo (by decide)

theorem roundTrips_iff : F.RoundTrips word r ↔ F.Fits word r := by
  refine ⟨fun h => ?_, roundTrips_of_fits⟩
  have hheld : F.HeldIn (memoryOf (F.words r)) r := readsWords_memoryOf _
  have hsize := h.size_eq _ hheld
  have hlt := F.entryCount_lt r
  have hpos := F.entry_pos
  cases word with
  | bits32 =>
    rw [bufferSize_bits32 hheld] at hsize
    exact hsize.symm.trans_lt (Nat.mod_lt _ (by decide))
  | bits64 =>
    rw [bufferSize_bits64 hheld, size, Nat.add_left_cancel_iff] at hsize
    have hcount := Nat.eq_of_mul_eq_mul_left (by omega) hsize
    rw [Fits]
    by_cases hzero : F.entryCount r % 2 ^ 32 = 0
    · rw [if_pos hzero] at hcount
      have hstorage : F.layout.calculateStructureSize .bits64
          (F.layout.countIn (memoryOf (F.words r))) = 4 * (F.headerWords + F.entryWords) := by
        have hsmall := F.small
        rw [structureSize_eq, F.countIn_eq r _ hheld, if_pos hzero, Nat.mul_one, Nat.mul_add]
        exact Nat.mod_eq_of_lt (hsmall.trans (by decide))
      have hle := h.size_le hheld (Dvd.intro _ hstorage.symm)
      rw [hstorage, size, ← hcount] at hle
      omega
    · rw [if_neg hzero] at hcount
      omega

end RoundTrips

end CountedFormat

/-! ## The records with an array -/

section Formats

def registerInfoCodec : WordCodec RegisterInfo (BitVec 32) where
  size := 2
  words info := [info.offset, info.data]
  ofWords read := ⟨read 0, read 1⟩
  length_words _ := rfl
  ofWords_eq info read h := by
    rw [@ReadsWords.get _ _ _ h 0 _ rfl, @ReadsWords.get _ _ _ h 1 _ rfl]

def waveInfoCodec : WordCodec WaveInfo (BitVec 32) where
  size := 2
  words info := [info.version, info.shaderId]
  ofWords read := ⟨read 0, read 1⟩
  length_words _ := rfl
  ofWords_eq info read h := by
    rw [@ReadsWords.get _ _ _ h 0 _ rfl, @ReadsWords.get _ _ _ h 1 _ rfl]

def seRegsInfoCodec : WordCodec SeRegsInfo (BitVec 32) where
  size := 4
  words info := [info.version, info.spiDebugBusy, info.sqDebugStsGlobal, info.sqDebugStsGlobal2]
  ofWords read := ⟨read 0, read 1, read 2, read 3⟩
  length_words _ := rfl
  ofWords_eq info read h := by
    rw [@ReadsWords.get _ _ _ h 0 _ rfl, @ReadsWords.get _ _ _ h 1 _ rfl,
      @ReadsWords.get _ _ _ h 2 _ rfl, @ReadsWords.get _ _ _ h 3 _ rfl]

variable {E : Type} {codec : WordCodec E (BitVec 32)} {header : List (BitVec 32)}
  {entries : List E} {read : ℕ → BitVec 32}

theorem readAll_of_header {count : BitVec 32}
    (h : ReadsWords (header ++ codec.allWords entries) read)
    (hcount : entries.length = count.toNat) :
    codec.readAll (fun i => read (header.length + i)) count.toNat = entries := by
  rw [← hcount]
  exact codec.readAll_allWords h.append

theorem length_readAll (codec : WordCodec E (BitVec 32)) (read : ℕ → BitVec 32) (count : ℕ) :
    (codec.readAll read count).length = count := by
  rw [WordCodec.readAll, List.length_map, List.length_range]

theorem toNat_eq_length_mod {count : BitVec 32} (hcount : entries.length = count.toNat) :
    count.toNat = entries.length % 2 ^ 32 := by
  rw [hcount, Nat.mod_eq_of_lt count.isLt]

def mmrRegistersDataFormat : CountedFormat MmrRegistersData where
  layout := .mmrRegistersData
  headerWords := 3
  entryWords := 2
  entryCount r := r.registerInfos.length
  words r := [r.version, r.gpuId, r.numRegisters] ++ registerInfoCodec.allWords r.registerInfos
  ofWords read := ⟨read 0, read 1, read 2,
    registerInfoCodec.readAll (fun i => read (3 + i)) (read 2).toNat, length_readAll _ _ _⟩
  structSize_eq := rfl
  entrySize_eq := rfl
  entry_pos := by decide
  small := by decide
  length_words r := by
    rw [List.length_append, registerInfoCodec.length_allWords]
    rfl
  entryCount_lt r := by
    rw [r.length_eq]
    omega
  ofWords_eq r read h := by
    have hcount : read 2 = r.numRegisters := h.get rfl
    have hentries := readAll_of_header h r.length_eq
    rw [← hcount] at hentries
    obtain ⟨version, gpuId, numRegisters, registerInfos, hlength⟩ := r
    rw [MmrRegistersData.mk.injEq]
    exact ⟨h.get rfl, h.get rfl, hcount, hentries⟩
  countIn_eq r memory h := by
    have hcount : wordAt memory 2 = r.numRegisters := h.get rfl
    exact (congrArg BitVec.toNat hcount).trans (toNat_eq_length_mod r.length_eq)

def seInfoFormat : CountedFormat SeInfo where
  layout := .seInfo
  headerWords := 3
  entryWords := 4
  entryCount r := r.seRegsInfos.length
  words r := [r.version, r.gpuId, r.numSe] ++ seRegsInfoCodec.allWords r.seRegsInfos
  ofWords read := ⟨read 0, read 1, read 2,
    seRegsInfoCodec.readAll (fun i => read (3 + i)) (read 2).toNat, length_readAll _ _ _⟩
  structSize_eq := rfl
  entrySize_eq := rfl
  entry_pos := by decide
  small := by decide
  length_words r := by
    rw [List.length_append, seRegsInfoCodec.length_allWords]
    rfl
  entryCount_lt r := by
    rw [r.length_eq]
    omega
  ofWords_eq r read h := by
    have hcount : read 2 = r.numSe := h.get rfl
    have hentries := readAll_of_header h r.length_eq
    rw [← hcount] at hentries
    obtain ⟨version, gpuId, numSe, seRegsInfos, hlength⟩ := r
    rw [SeInfo.mk.injEq]
    exact ⟨h.get rfl, h.get rfl, hcount, hentries⟩
  countIn_eq r memory h := by
    have hcount : wordAt memory 2 = r.numSe := h.get rfl
    exact (congrArg BitVec.toNat hcount).trans (toNat_eq_length_mod r.length_eq)

def waveRegistersDataFormat : CountedFormat WaveRegistersData where
  layout := .waveRegistersData
  headerWords := 3
  entryWords := 2
  entryCount r := r.registerInfos.length
  words r := [r.version, r.shaderId, r.numRegisters] ++ registerInfoCodec.allWords r.registerInfos
  ofWords read := ⟨read 0, read 1, read 2,
    registerInfoCodec.readAll (fun i => read (3 + i)) (read 2).toNat, length_readAll _ _ _⟩
  structSize_eq := rfl
  entrySize_eq := rfl
  entry_pos := by decide
  small := by decide
  length_words r := by
    rw [List.length_append, registerInfoCodec.length_allWords]
    rfl
  entryCount_lt r := by
    rw [r.length_eq]
    omega
  ofWords_eq r read h := by
    have hcount : read 2 = r.numRegisters := h.get rfl
    have hentries := readAll_of_header h r.length_eq
    rw [← hcount] at hentries
    obtain ⟨version, shaderId, numRegisters, registerInfos, hlength⟩ := r
    rw [WaveRegistersData.mk.injEq]
    exact ⟨h.get rfl, h.get rfl, hcount, hentries⟩
  countIn_eq r memory h := by
    have hcount : wordAt memory 2 = r.numRegisters := h.get rfl
    exact (congrArg BitVec.toNat hcount).trans (toNat_eq_length_mod r.length_eq)

def shaderWavesFormat : CountedFormat ShaderWaves where
  layout := .shaderWaves
  headerWords := 12
  entryWords := 2
  entryCount r := r.waveInfos.length
  words r :=
    [r.version, r.gpuId, r.typeOfHang, r.grbmStatusSeRegs.version,
      r.grbmStatusSeRegs.grbmStatusSe0, r.grbmStatusSeRegs.grbmStatusSe1,
      r.grbmStatusSeRegs.grbmStatusSe2, r.grbmStatusSeRegs.grbmStatusSe3,
      r.grbmStatusSeRegs.grbmStatusSe4, r.grbmStatusSeRegs.grbmStatusSe5,
      r.numberOfHungWaves, r.numberOfActiveWaves] ++ waveInfoCodec.allWords r.waveInfos
  ofWords read := ⟨read 0, read 1, read 2,
    ⟨read 3, read 4, read 5, read 6, read 7, read 8, read 9⟩, read 10, read 11,
    waveInfoCodec.readAll (fun i => read (12 + i)) ((read 10).toNat + (read 11).toNat),
    length_readAll _ _ _⟩
  structSize_eq := rfl
  entrySize_eq := rfl
  entry_pos := by decide
  small := by decide
  length_words r := by
    rw [List.length_append, waveInfoCodec.length_allWords]
    rfl
  entryCount_lt r := by
    rw [r.length_eq]
    omega
  ofWords_eq r read h := by
    have hhung : read 10 = r.numberOfHungWaves := h.get rfl
    have hactive : read 11 = r.numberOfActiveWaves := h.get rfl
    have hentries := waveInfoCodec.readAll_allWords h.append
    rw [r.length_eq, ← hhung, ← hactive] at hentries
    obtain ⟨version, gpuId, typeOfHang, grbm, hung, active, waveInfos, hlength⟩ := r
    rw [ShaderWaves.mk.injEq, GrbmStatusSeRegs.mk.injEq]
    exact ⟨h.get rfl, h.get rfl, h.get rfl, ⟨h.get rfl, h.get rfl, h.get rfl, h.get rfl,
      h.get rfl, h.get rfl, h.get rfl⟩, hhung, hactive, hentries⟩
  countIn_eq r memory h := by
    have hhung : wordAt memory 10 = r.numberOfHungWaves := h.get rfl
    have hactive : wordAt memory 11 = r.numberOfActiveWaves := h.get rfl
    have hsum : CountedLayout.shaderWaves.countIn memory =
        r.numberOfHungWaves + r.numberOfActiveWaves := congrArg₂ (· + ·) hhung hactive
    rw [hsum, BitVec.toNat_add, r.length_eq]

end Formats

/-! ## The records of fixed fields -/

section Fixed

variable {memory memory' : ℕ → UInt8}

theorem copyFields_spec (dst src : ℕ → UInt8) (sizes : List ℕ) (copySize : ℕ) :
    (copyFields dst src sizes copySize).1 = copySize + sizes.sum ∧
      ∀ a, (copyFields dst src sizes copySize).2 a =
        if copySize ≤ a ∧ a < copySize + sizes.sum then src a else dst a := by
  induction sizes generalizing dst copySize with
  | nil =>
    refine ⟨rfl, fun a => ?_⟩
    rw [copyFields, List.sum_nil, if_neg (by omega)]
  | cons size sizes ih =>
    obtain ⟨hsize, hbytes⟩ := ih (memcpyS dst copySize size src copySize size) (copySize + size)
    rw [copyFields, List.sum_cons, ← Nat.add_assoc]
    refine ⟨hsize, fun a => ?_⟩
    rw [hbytes]
    by_cases hfirst : copySize ≤ a ∧ a < copySize + size
    · obtain ⟨i, rfl⟩ := Nat.exists_eq_add_of_le hfirst.1
      rw [if_neg (by omega), if_pos (by omega), memcpyS_inside (Nat.le_refl _) (by omega)]
    · rw [memcpyS_outside (by omega) (Nat.le_refl _)]
      split <;> split <;> first | rfl | omega

theorem uint32At_congr {pos : ℕ} (h : ∀ i < 4, memory' (pos + i) = memory (pos + i)) :
    uint32At memory' pos = uint32At memory pos :=
  congrArg (fun bytes => BitVec.ofNat 32 (leNat bytes)) (readAt_congr h)

namespace PageFault

/-- Some memory holds a page fault. -/
structure HeldIn (memory : ℕ → UInt8) (r : PageFault) : Prop where
  vmId : uint32At memory 0 = r.vmId
  processId : uint32At memory 4 = r.processId
  pageFaultAddress : BitVec.ofNat 64 (leNat (readAt memory 8 8)) = r.pageFaultAddress
  processNameLength : Model.PageFault.nameLengthAt memory = r.processName.length
  processName : readAt memory 18 r.processName.length = r.processName

theorem HeldIn.copy {r : PageFault} (h : HeldIn memory r)
    (hcopy : ∀ a < 18 + r.processName.length, memory' a = memory a) : HeldIn memory' r where
  vmId := (uint32At_congr fun i hi => hcopy _ (by omega)).trans h.vmId
  processId := (uint32At_congr fun i hi => hcopy _ (by omega)).trans h.processId
  pageFaultAddress := by
    rw [← h.pageFaultAddress, readAt_congr fun i hi => hcopy (8 + i) (by omega)]
  processNameLength := by
    rw [← h.processNameLength, Model.PageFault.nameLengthAt, Model.PageFault.nameLengthAt,
      readAt_congr fun i hi => hcopy (16 + i) (by omega)]
  processName := (readAt_congr fun i hi => hcopy _ (by omega)).trans h.processName

/-- A page fault is written with the bytes that it has, and those are read back. -/
structure RoundTrips (r : PageFault) : Prop where
  written : ∀ this buffer, HeldIn this r →
    (Model.PageFault.toBuffer this buffer).1 = 18 + r.processName.length ∧
      (∀ a < 18 + r.processName.length, (Model.PageFault.toBuffer this buffer).2 a = this a) ∧
        ∀ a, 18 + r.processName.length ≤ a →
          (Model.PageFault.toBuffer this buffer).2 a = buffer a
  restored : ∀ this buffer, HeldIn buffer r →
    HeldIn (Model.PageFault.fromBuffer this buffer) r ∧
      ∀ a, 18 + r.processName.length ≤ a → Model.PageFault.fromBuffer this buffer a = this a

theorem roundTrips (r : PageFault) : RoundTrips r := by
  constructor
  · intro this buffer hheld
    obtain ⟨hsize, hbytes⟩ :=
      copyFields_spec buffer this [4, 4, 8, 2, Model.PageFault.nameLengthAt this] 0
    have hsum : 0 + [4, 4, 8, 2, Model.PageFault.nameLengthAt this].sum =
        18 + r.processName.length := by
      simp [hheld.processNameLength]
      omega
    rw [hsum] at hsize hbytes
    refine ⟨hsize, fun a ha => ?_, fun a ha => ?_⟩
    · rw [Model.PageFault.toBuffer, hbytes, if_pos (by omega)]
    · rw [Model.PageFault.toBuffer, hbytes, if_neg (by omega)]
  · intro this buffer hheld
    obtain ⟨-, hbytes⟩ := copyFields_spec this buffer [4, 4, 8, 2] 0
    have hfixed : ∀ a, (copyFields this buffer [4, 4, 8, 2] 0).2 a =
        if a < 18 then buffer a else this a := by
      intro a
      rw [hbytes]
      simp
    have hlength : Model.PageFault.nameLengthAt (copyFields this buffer [4, 4, 8, 2] 0).2 =
        r.processName.length := by
      rw [← hheld.processNameLength, Model.PageFault.nameLengthAt, Model.PageFault.nameLengthAt,
        readAt_congr fun i hi => (hfixed (16 + i)).trans (if_pos (by omega))]
    have hroom := r.length_le
    have hfrom : Model.PageFault.fromBuffer this buffer =
        memcpyS (copyFields this buffer [4, 4, 8, 2] 0).2 18 64 buffer 18
          (Model.PageFault.nameLengthAt (copyFields this buffer [4, 4, 8, 2] 0).2) := rfl
    rw [hfrom, hlength]
    constructor
    · apply hheld.copy
      intro a ha
      by_cases hname : 18 ≤ a
      · obtain ⟨i, rfl⟩ := Nat.exists_eq_add_of_le hname
        exact memcpyS_inside hroom (by omega)
      · rw [memcpyS_outside (by omega) hroom, hfixed, if_pos (by omega)]
    · intro a ha
      rw [memcpyS_outside (by omega) hroom, hfixed, if_neg (by omega)]

end PageFault

namespace GprRegistersData

/-- Some memory holds general-purpose registers. -/
structure HeldIn (memory : ℕ → UInt8) (r : GprRegistersData) : Prop where
  version : uint32At memory 0 = r.version
  shaderId : uint32At memory 4 = r.shaderId
  workItem : uint32At memory 8 = r.workItem
  isVgpr : memory 12 = r.isVgpr.toUInt8
  regToRead : uint32At memory 13 = r.regToRead
  reg : ∀ i : Fin 256, uint32At memory (17 + 4 * i) = r.reg i

theorem HeldIn.copy {r : GprRegistersData} (h : HeldIn memory r)
    (hcopy : ∀ a < 1041, memory' a = memory a) : HeldIn memory' r where
  version := (uint32At_congr fun i hi => hcopy _ (by omega)).trans h.version
  shaderId := (uint32At_congr fun i hi => hcopy _ (by omega)).trans h.shaderId
  workItem := (uint32At_congr fun i hi => hcopy _ (by omega)).trans h.workItem
  isVgpr := (hcopy 12 (by decide)).trans h.isVgpr
  regToRead := (uint32At_congr fun i hi => hcopy _ (by omega)).trans h.regToRead
  reg k := (uint32At_congr fun i hi => hcopy _ (by omega)).trans (h.reg k)

/-- Registers are written with the bytes that they have, and those are read back. -/
structure RoundTrips (r : GprRegistersData) : Prop where
  written : ∀ this buffer, HeldIn this r →
    (Model.GprRegistersData.toBuffer this buffer).1 = 1041 ∧
      (∀ a < 1041, (Model.GprRegistersData.toBuffer this buffer).2 a = this a) ∧
        ∀ a, 1041 ≤ a → (Model.GprRegistersData.toBuffer this buffer).2 a = buffer a
  restored : ∀ this buffer, HeldIn buffer r →
    HeldIn (Model.GprRegistersData.fromBuffer this buffer) r ∧
      ∀ a, 1041 ≤ a → Model.GprRegistersData.fromBuffer this buffer a = this a

theorem copied (dst src : ℕ → UInt8) (a : ℕ) :
    (copyFields dst src [4, 4, 4, 1, 4, 1024] 0).2 a = if a < 1041 then src a else dst a := by
  rw [(copyFields_spec dst src [4, 4, 4, 1, 4, 1024] 0).2]
  simp

theorem roundTrips (r : GprRegistersData) : RoundTrips r := by
  constructor
  · intro this buffer _
    refine ⟨(copyFields_spec buffer this [4, 4, 4, 1, 4, 1024] 0).1, fun a ha => ?_,
      fun a ha => ?_⟩
    · rw [Model.GprRegistersData.toBuffer, copied, if_pos ha]
    · rw [Model.GprRegistersData.toBuffer, copied, if_neg (by omega)]
  · intro this buffer hheld
    refine ⟨hheld.copy fun a ha => ?_, fun a ha => ?_⟩
    · rw [Model.GprRegistersData.fromBuffer, copied, if_pos ha]
    · rw [Model.GprRegistersData.fromBuffer, copied, if_neg (by omega)]

end GprRegistersData

end Fixed

/-- Page faults and general-purpose registers round trip; records with an array do if and only if
their size can be told. -/
theorem crashEvents_roundTrip_iff (word : WordSize) :
    (∀ r, PageFault.RoundTrips r) ∧ (∀ r, GprRegistersData.RoundTrips r) ∧
      (∀ r, mmrRegistersDataFormat.RoundTrips word r ↔ mmrRegistersDataFormat.Fits word r) ∧
        (∀ r, shaderWavesFormat.RoundTrips word r ↔ shaderWavesFormat.Fits word r) ∧
          (∀ r, seInfoFormat.RoundTrips word r ↔ seInfoFormat.Fits word r) ∧
            ∀ r, waveRegistersDataFormat.RoundTrips word r ↔
              waveRegistersDataFormat.Fits word r :=
  ⟨PageFault.roundTrips, GprRegistersData.roundTrips, fun _ => CountedFormat.roundTrips_iff,
    fun _ => CountedFormat.roundTrips_iff, fun _ => CountedFormat.roundTrips_iff,
    fun _ => CountedFormat.roundTrips_iff⟩

/-- No registers, where `size_t` has 64 bits: the size is that of 2 ^ 32 registers. -/
theorem crashEvents_roundTrip_not :
    ¬ mmrRegistersDataFormat.RoundTrips .bits64 ⟨1, 0, 0, [], rfl⟩ := by
  rw [CountedFormat.roundTrips_iff]
  intro hfits
  exact Nat.lt_irrefl 0 hfits.1

end DevDriver.Analysis
