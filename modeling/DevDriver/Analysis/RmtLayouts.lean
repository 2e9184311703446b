import DevDriver.Analysis.RmtFields
import DevDriver.Model.RmtTokens

/-!
# The layouts of the RMT tokens

`tokenLayout` says what rmtTokens.h documents for each token: its bit ranges in their order, with
what each of them holds, zero for the reserved ones.
-/

namespace DevDriver.Analysis

open Library Model RmtTokenData

/-! ## Documented layouts -/

/-- A documented bit range and the number that it holds. -/
structure DocField where
  endBit : ℕ
  startBit : ℕ
  value : ℤ

namespace DocField

def width (f : DocField) : ℕ := f.endBit + 1 - f.startBit

/-- The value fits the width of the field. -/
def Holds (f : DocField) : Prop := 0 ≤ f.value ∧ f.value < 2 ^ f.width

instance (f : DocField) : Decidable f.Holds := inferInstanceAs (Decidable (_ ∧ _))

end DocField

/-- The ranges lie one behind the other, from `start` to `stop`. -/
def Tiles : ℕ → List DocField → ℕ → Prop
  | start, [], stop => start = stop
  | start, f :: layout, stop =>
    f.startBit = start ∧ start ≤ f.endBit + 1 ∧ Tiles (f.endBit + 1) layout stop

def headerFields (type : RmtTokenType) (delta : BitVec 8) : List DocField :=
  [⟨3, 0, type.ctorIdx⟩, ⟨7, 4, delta.toNat⟩]

def userdataFields (delta : BitVec 8) (type : RmtUserdataEventType) (payloadSize : ℕ) :
    List DocField :=
  headerFields .userdata delta ++ [⟨11, 8, type.ctorIdx⟩, ⟨31, 12, payloadSize⟩]

def stringFields (offset : ℕ) : List (BitVec 8) → List DocField
  | [] => []
  | c :: s => ⟨8 * offset + 7, 8 * offset, c.toNat⟩ :: stringFields (offset + 1) s

/-- The documented ranges of a token.
rmtTokens.h:173-1015 -/
def tokenLayout : RmtToken → List DocField
  | .timestamp time frequency =>
    [⟨3, 0, RmtTokenType.timestamp.ctorIdx⟩, ⟨63, 4, time.toNat⟩, ⟨95, 64, frequency.toNat⟩]
  | .timeDelta delta numDeltaBytes _ =>
    [⟨3, 0, RmtTokenType.timeDelta.ctorIdx⟩, ⟨6, 4, numDeltaBytes.toNat⟩, ⟨7, 7, 0⟩,
      ⟨numDeltaBytes.toNat * 8 + 7, 8, delta.toNat⟩]
  | .userdata delta type payloadSize => userdataFields delta type payloadSize.toNat
  | .userdataEmbeddedString delta type pString =>
    userdataFields delta type (storedString pString).length ++
      stringFields 4 (storedString pString)
  | .userdataDebugName delta pDebugName resourceId =>
    let name := storedString (pDebugName.getD [])
    let stop := 8 * (4 + name.length)
    userdataFields delta .name (name.length + 5) ++ stringFields 4 name ++
      [⟨stop + 7, stop, 0⟩, ⟨stop + 39, stop + 8, resourceId.toNat⟩]
  | .userdataDebugNameV2 delta pDebugName resourceId lagTime =>
    let name := storedString pDebugName
    let stop := 8 * (4 + name.length)
    userdataFields delta .nameV2 (name.length + 13) ++ stringFields 4 name ++
      [⟨stop + 7, stop, 0⟩, ⟨stop + 39, stop + 8, resourceId.toNat⟩,
        ⟨stop + 103, stop + 40, lagTime.toNat⟩]
  | .userdataMarkImplicitResource delta resourceId =>
    userdataFields delta .markImplicitResource 4 ++ [⟨63, 32, resourceId.toNat⟩]
  | .userdataMarkImplicitResourceV2 delta resourceId lagTime heapType =>
    userdataFields delta .markImplicitResourceV2 13 ++
      [⟨63, 32, resourceId.toNat⟩, ⟨127, 64, lagTime.toNat⟩, ⟨135, 128, heapType.toNat⟩]
  | .userdataRsrcCorrelation delta handle dxHandle =>
    userdataFields delta .rsrcCorrelation 8 ++
      [⟨63, 32, handle.toNat⟩, ⟨95, 64, dxHandle.toNat⟩]
  | .misc delta type =>
    headerFields .misc delta ++ [⟨11, 8, type.ctorIdx⟩, ⟨15, 12, 0⟩]
  | .pageTableUpdate delta virtualAddress physicalAddress size pageSize isUnmap processId type
      isHbccMode =>
    headerFields .pageTableUpdate delta ++
      [⟨43, 8, virtualAddress.toNat / 2 ^ 12⟩, ⟨79, 44, physicalAddress.toNat / 2 ^ 12⟩,
        ⟨99, 80, size.toNat⟩, ⟨102, 100, pageSize.ctorIdx⟩, ⟨103, 103, isUnmap.toNat⟩,
        ⟨135, 104, processId.toNat⟩, ⟨137, 136, type.ctorIdx⟩, ⟨138, 138, isHbccMode.toNat⟩,
        ⟨143, 139, 0⟩]
  | .processEvent delta processId type =>
    headerFields .processEvent delta ++ [⟨39, 8, processId.toNat⟩, ⟨47, 40, type.ctorIdx⟩]
  | .pageReference delta pageSize isCompressed pageRefData =>
    headerFields .pageReference delta ++
      [⟨10, 8, pageSize.ctorIdx⟩, ⟨11, 11, isCompressed.toNat⟩, ⟨15, 12, 0⟩] ++
      if isCompressed then [⟨75, 16, pageRefData.toNat⟩, ⟨79, 76, 0⟩]
      else [⟨79, 16, pageRefData.toNat⟩]
  | .resourceReference delta isRemove virtualAddress queueId =>
    headerFields .resourceReference delta ++
      [⟨8, 8, isRemove.toNat⟩, ⟨56, 9, virtualAddress.toNat⟩, ⟨63, 57, queueId.toNat⟩]
  | .resourceBind delta virtualAddress size resourceId isSystemMemory =>
    headerFields .resourceBind delta ++
      [⟨55, 8, virtualAddress.toNat⟩, ⟨99, 56, size.toNat⟩, ⟨100, 100, isSystemMemory.toNat⟩,
        ⟨103, 101, 0⟩, ⟨135, 104, resourceId.toNat⟩]
  | .cpuMap delta virtualAddress isUnmap =>
    headerFields .cpuMap delta ++
      [⟨55, 8, virtualAddress.toNat⟩, ⟨56, 56, isUnmap.toNat⟩, ⟨63, 57, 0⟩]
  | .freeVirtual delta virtualAddress =>
    headerFields .freeVirtual delta ++ [⟨55, 8, virtualAddress.toNat⟩]
  | .virtualAllocate delta size owner virtualAddress heapImportance0 heapImportance1
      heapImportance2 heapImportance3 heapImportanceCount isExternal =>
    headerFields .virtualAllocate delta ++
      [⟨31, 8, (size.toNat / RMT_4KB : ℕ) - 1⟩, ⟨33, 32, owner.ctorIdx⟩,
        ⟨81, 34, virtualAddress.toNat⟩, ⟨83, 82, heapImportance0.ctorIdx⟩,
        ⟨85, 84, heapImportance1.ctorIdx⟩, ⟨87, 86, heapImportance2.ctorIdx⟩,
        ⟨89, 88, heapImportance3.ctorIdx⟩, ⟨92, 90, heapImportanceCount.toNat⟩,
        ⟨93, 93, isExternal.toNat⟩, ⟨95, 94, 0⟩]
  | .resourceCreate delta resourceId owner ownerCategory commitType resourceType =>
    headerFields .resourceCreate delta ++
      [⟨39, 8, resourceId.toNat⟩, ⟨41, 40, owner.ctorIdx⟩, ⟨45, 42, ownerCategory.toNat⟩,
        ⟨47, 46, commitType.ctorIdx⟩, ⟨53, 48, resourceType.ctorIdx⟩, ⟨55, 54, 0⟩]
  | .resourceUpdate delta resourceId subResourceId resourceType beforeUsageFlags
      afterUsageFlags =>
    headerFields .resourceUpdate delta ++
      [⟨39, 8, resourceId.toNat⟩, ⟨71, 40, subResourceId.toNat⟩, ⟨77, 72, resourceType.ctorIdx⟩,
        ⟨92, 78, beforeUsageFlags.toNat⟩, ⟨107, 93, afterUsageFlags.toNat⟩, ⟨111, 108, 0⟩]
  | .resourceDestroy delta resourceId =>
    headerFields .resourceDestroy delta ++ [⟨39, 8, resourceId.toNat⟩]

/-! ## Fields that are written in their order -/

/-- Each documented field of the token has its value. -/
def Shows (d : RmtTokenData) (layout : List DocField) : Prop :=
  ∀ f ∈ layout, (bitsOf d.pByteData f.startBit f.width : ℤ) = f.value

inductive PutsDown : List RmtWrite → List DocField → Prop where
  | nil : PutsDown [] []
  | field {w : RmtWrite} {f : DocField} {writes : List RmtWrite} {layout : List DocField}
      (hend : w.endBit = f.endBit) (hstart : w.startBit = f.startBit)
      (hvalue : f.Holds → (w.srcVal.toNat : ℤ) = f.value) (h : PutsDown writes layout) :
      PutsDown (w :: writes) (f :: layout)
  | header {type : RmtTokenType} {delta : BitVec 8} {writes : List RmtWrite}
      {layout : List DocField} (h : PutsDown writes layout) :
      PutsDown (headerWrite type delta :: writes) (headerFields type delta ++ layout)

section Writes

variable {d : RmtTokenData} {layout : List DocField} {writes : List RmtWrite} {start stop : ℕ}

theorem sizeInBytes_setBits (srcVal : BitVec 64) (endBit startBit : ℕ) (d : RmtTokenData) :
    (d.setBits srcVal endBit startBit).sizeInBytes = d.sizeInBytes := by
  unfold setBits
  split <;> rfl

theorem sizeInBytes_writeFields (writes : List RmtWrite) (d : RmtTokenData) :
    (d.writeFields writes).sizeInBytes = d.sizeInBytes := by
  induction writes generalizing d with
  | nil => rfl
  | cons w writes ih => exact (ih _).trans (sizeInBytes_setBits _ _ _ _)

theorem Tiles.le (h : Tiles start layout stop) : start ≤ stop := by
  induction layout generalizing start with
  | nil => exact Nat.le_of_eq h
  | cons f layout ih => exact h.2.1.trans (ih h.2.2)

theorem bitsOf_of_bits {bytes : List (BitVec 8)} {f : DocField} {v : ℕ} (hholds : f.Holds)
    (hvalue : (v : ℤ) = f.value)
    (hbits : ∀ j < f.width, bitAt bytes (f.startBit + j) = v.testBit j) :
    (bitsOf bytes f.startBit f.width : ℤ) = f.value := by
  have hlt : v < 2 ^ f.width := by
    have hhigh := hholds.2
    rw [← hvalue] at hhigh
    exact_mod_cast hhigh
  rw [(bitsOf_eq_iff hlt).mpr hbits, hvalue]

theorem testBit_header {type : RmtTokenType} {delta : BitVec 8} {j : ℕ} (hdelta : delta.toNat < 16)
    (hj : j < 8) : (headerWrite type delta).srcVal.getLsbD j =
      if j < 4 then type.ctorIdx.testBit j else delta.toNat.testBit (j - 4) := by
  have htype : type.ctorIdx < 16 := by cases type <;> decide
  have hvalue : type.ctorIdx % 16 + delta.toNat % 16 * 16 = 2 ^ 4 * delta.toNat + type.ctorIdx := by
    omega
  rw [headerWrite, BitVec.getLsbD_setWidth, rmtTokenHeader, hvalue, BitVec.getLsbD_ofNat,
    Nat.testBit_two_pow_mul_add _ htype]
  simp [hj, show j < 64 by omega]

theorem shows_writeFields (h : PutsDown writes layout) (htiles : Tiles start layout stop)
    (hstop : stop ≤ 8 * d.sizeInBytes) (hholds : ∀ f ∈ layout, f.Holds) :
    Shows (d.writeFields writes) layout ∧
      ∀ k < start, bitAt (d.writeFields writes).pByteData k = bitAt d.pByteData k := by
  induction h generalizing d start with
  | nil => exact ⟨nofun, fun _ _ => rfl⟩
  | @field w f writes layout hend hstart hvalue h ih =>
    obtain ⟨hfirst, hle, hrest⟩ := htiles
    have hinside : w.startBit / 8 + numBytes w.endBit w.startBit ≤ d.sizeInBytes := by
      have hafter := hrest.le
      unfold numBytes
      omega
    have hsize := sizeInBytes_setBits w.srcVal w.endBit w.startBit d
    obtain ⟨hshows, hkept⟩ := ih (d := d.setBits w.srcVal w.endBit w.startBit) hrest
      (by rwa [hsize]) fun g hg => hholds g (List.mem_cons_of_mem _ hg)
    constructor
    · apply List.forall_mem_cons.mpr ⟨_, hshows⟩
      have hf := hholds f List.mem_cons_self
      apply bitsOf_of_bits hf (hvalue hf)
      intro j hj
      unfold DocField.width at hj
      have hreach : f.startBit + j ≤ reach w.endBit w.startBit := by
        unfold reach
        split <;> omega
      have hbit := bitAt_setBits w.srcVal hinside (f.startBit + j)
      rw [if_pos ⟨by omega, hreach⟩] at hbit
      refine (hkept _ (by omega)).trans (hbit.trans ?_)
      rw [hstart, Nat.add_sub_cancel_left]
      rfl
    · intro k hk
      refine (hkept k (by omega)).trans ?_
      rw [bitAt_setBits _ hinside, if_neg (by omega)]
  | @header type delta writes layout h ih =>
    obtain ⟨hfirst, -, -, -, hrest⟩ := htiles
    dsimp only at hfirst hrest
    have hinside : 0 / 8 + numBytes 7 0 ≤ d.sizeInBytes := by
      have hafter := hrest.le
      unfold numBytes
      omega
    have hsize := sizeInBytes_setBits (headerWrite type delta).srcVal 7 0 d
    obtain ⟨hshows, hkept⟩ := ih (d := d.setBits (headerWrite type delta).srcVal 7 0) hrest
      (by rwa [hsize]) fun g hg => hholds g (List.mem_append_right _ hg)
    have hbits : ∀ j < 8, bitAt ((d.setBits (headerWrite type delta).srcVal 7 0).writeFields
        writes).pByteData j = (headerWrite type delta).srcVal.getLsbD j := by
      intro j hj
      refine (hkept j (by omega)).trans ?_
      rw [bitAt_setBits _ hinside, if_pos ⟨Nat.zero_le _, Nat.le_of_lt_succ hj⟩, Nat.sub_zero]
    have htype := hholds ⟨3, 0, type.ctorIdx⟩ (by simp [headerFields])
    have hdelta := hholds ⟨7, 4, delta.toNat⟩ (by simp [headerFields])
    have hsmall : delta.toNat < 16 := by
      have hhigh := hdelta.2
      simp only [DocField.width] at hhigh
      omega
    constructor
    · apply List.forall_mem_cons.mpr ⟨_, List.forall_mem_cons.mpr ⟨_, hshows⟩⟩
      · apply bitsOf_of_bits htype rfl
        intro j hj
        simp only [DocField.width] at hj
        refine (hbits (0 + j) (by omega)).trans ?_
        rw [testBit_header hsmall (by omega), if_pos (by omega), Nat.zero_add]
      · apply bitsOf_of_bits hdelta rfl
        intro j hj
        simp only [DocField.width] at hj
        refine (hbits (4 + j) (by omega)).trans ?_
        rw [testBit_header hsmall (by omega), if_neg (by omega), Nat.add_sub_cancel_left]
    · intro k hk
      omega

end Writes

/-! ## Payloads -/

section Payload

variable {d : RmtTokenData} {layout new : List DocField} {offset stop : ℕ}
  {data : List (BitVec 8)}

theorem Tiles.endBit_lt {start : ℕ} (h : Tiles start layout stop) :
    ∀ f ∈ layout, f.endBit < stop := by
  induction layout generalizing start with
  | nil => exact nofun
  | cons f layout ih =>
    intro g hg
    rcases List.mem_cons.mp hg with rfl | hg
    · exact h.2.2.le
    · exact ih h.2.2 g hg

theorem Tiles.append {start middle : ℕ} (h : Tiles start layout middle)
    (h' : Tiles middle new stop) : Tiles start (layout ++ new) stop := by
  induction layout generalizing start with
  | nil => exact (show start = middle from h) ▸ h'
  | cons f layout ih => exact ⟨h.1, h.2.1, ih h.2.2⟩

theorem tiles_stringFields (s : List (BitVec 8)) (offset : ℕ) :
    Tiles (8 * offset) (stringFields offset s) (8 * (offset + s.length)) := by
  induction s generalizing offset with
  | nil => rfl
  | cons c s ih =>
    have hrest := ih (offset + 1)
    refine ⟨rfl, by simp only; omega, ?_⟩
    rw [List.length_cons, show offset + (s.length + 1) = offset + 1 + s.length by omega]
    exact hrest

theorem Tiles.le_startBit {start : ℕ} (h : Tiles start layout stop) :
    ∀ f ∈ layout, start ≤ f.startBit := by
  induction layout generalizing start with
  | nil => exact nofun
  | cons f layout ih =>
    intro g hg
    rcases List.mem_cons.mp hg with rfl | hg
    · exact Nat.le_of_eq h.1.symm
    · exact h.2.1.trans (ih h.2.2 g hg)

structure Filled (d : RmtTokenData) (layout : List DocField) (bytes length size : ℕ) : Prop where
  shows : Shows d layout
  tiles : Tiles 0 layout (8 * bytes)
  length_eq : d.pByteData.length = length
  size_eq : d.sizeInBytes = size

section Copies

variable {bytes length size : ℕ}

theorem Filled.copyBytes (h : Filled d layout bytes length size)
    (hroom : bytes + data.length ≤ length)
    (htiles : Tiles (8 * bytes) new (8 * (bytes + data.length)))
    (hvalues : ∀ f ∈ new, (bitsOf data (f.startBit - 8 * bytes) f.width : ℤ) = f.value) :
    Filled (d.copyBytes bytes data) (layout ++ new) (bytes + data.length) length size := by
  have hfits : bytes + data.length ≤ d.pByteData.length := hroom.trans_eq h.length_eq.symm
  have hbits := bitAt_overwrite (w := 8) (by decide) hfits
  rw [RmtTokenData.copyBytes, dif_pos hfits]
  refine ⟨?_, h.tiles.append htiles, (length_overwrite hfits).trans h.length_eq, h.size_eq⟩
  intro f hf
  rcases List.mem_append.mp hf with hf | hf
  · rw [← h.shows f hf]
    unfold bitsOf
    congr 2
    funext j
    have hlt := h.tiles.endBit_lt f hf
    have hj := j.isLt
    unfold DocField.width at hj
    rw [hbits, if_neg (by omega)]
  · have hlow := htiles.le_startBit f hf
    have hhigh := htiles.endBit_lt f hf
    rw [← hvalues f hf]
    unfold bitsOf
    congr 2
    funext j
    have hj := j.isLt
    unfold DocField.width at hj
    rw [hbits, if_pos (by omega)]
    congr 1
    omega

theorem bitsOf_memoryBytes (n : ℕ) (x : BitVec (8 * n)) :
    bitsOf (memoryBytes n x) 0 (8 * n) = x.toNat := by
  apply (bitsOf_eq_iff x.isLt).mpr
  intro j hj
  have hindex : j / 8 < n := by omega
  rw [Nat.zero_add, bitAt, memoryBytes, List.getD_eq_getElem _ _ (by simpa using hindex),
    List.getElem_map, List.getElem_range, BitVec.getLsbD_extractLsb', decide_eq_true (by omega),
    Bool.true_and, Nat.div_add_mod]
  rfl

theorem Filled.copyInteger {n : ℕ} (h : Filled d layout bytes length size) (endBit : ℕ)
    (x : BitVec (8 * n)) (hend : endBit + 1 = 8 * (bytes + n)) (hroom : bytes + n ≤ length) :
    Filled (d.copyBytes bytes (memoryBytes n x)) (layout ++ [⟨endBit, 8 * bytes, x.toNat⟩])
      (bytes + n) length size := by
  have hlength : (memoryBytes n x).length = n := by simp [memoryBytes]
  have hcopied : Filled (d.copyBytes bytes (memoryBytes n x))
      (layout ++ [⟨endBit, 8 * bytes, x.toNat⟩]) (bytes + (memoryBytes n x).length) length
      size := by
    apply h.copyBytes (by rwa [hlength])
    · exact ⟨rfl, by dsimp only; omega, by rw [hlength]; exact hend⟩
    · intro f hf
      obtain rfl := List.mem_singleton.mp hf
      have hwidth : endBit + 1 - 8 * bytes = 8 * n := by omega
      rw [DocField.width, hwidth, Nat.sub_self, bitsOf_memoryBytes]
  rwa [hlength] at hcopied

theorem bitsOf_stringFields_append (front s : List (BitVec 8)) :
    ∀ f ∈ stringFields (bytes + front.length) s,
      (bitsOf (front ++ s) (f.startBit - 8 * bytes) f.width : ℤ) = f.value := by
  induction s generalizing front with
  | nil => exact nofun
  | cons c s ih =>
    rw [stringFields, List.forall_mem_cons]
    constructor
    · have hwidth : 8 * (bytes + front.length) + 7 + 1 - 8 * (bytes + front.length) = 8 := by omega
      simp only [DocField.width, hwidth]
      apply congrArg (Nat.cast : ℕ → ℤ)
      apply (bitsOf_eq_iff c.isLt).mpr
      intro j hj
      have hindex : (8 * (bytes + front.length) - 8 * bytes + j) / 8 = front.length := by omega
      have hplace : (8 * (bytes + front.length) - 8 * bytes + j) % 8 = j := by omega
      rw [bitAt, hindex, hplace, List.getD_append_right _ _ _ _ (Nat.le_refl _), Nat.sub_self]
      rfl
    · have hrest := ih (front ++ [c])
      rw [List.length_append, List.length_singleton, ← Nat.add_assoc, List.append_assoc] at hrest
      exact hrest

theorem bitsOf_stringFields (s : List (BitVec 8)) :
    ∀ f ∈ stringFields bytes s, (bitsOf s (f.startBit - 8 * bytes) f.width : ℤ) = f.value :=
  bitsOf_stringFields_append [] s

theorem Filled.copyString (h : Filled d layout bytes length size) (s : List (BitVec 8))
    (hroom : bytes + s.length ≤ length) :
    Filled (d.copyBytes bytes s) (layout ++ stringFields bytes s) (bytes + s.length) length size :=
  h.copyBytes hroom (tiles_stringFields s bytes) (bitsOf_stringFields s)

theorem Filled.copyNul (h : Filled d layout bytes length size) (hroom : bytes + 1 ≤ length) :
    Filled (d.copyBytes bytes [0]) (layout ++ [⟨8 * bytes + 7, 8 * bytes, 0⟩]) (bytes + 1) length
      size := h.copyString [0] hroom

theorem Filled.cast {layout' : List DocField} {bytes' : ℕ} (h : Filled d layout bytes length size)
    (hlayout : layout = layout') (hbytes : bytes = bytes') : Filled d layout' bytes' length size :=
  hlayout ▸ hbytes ▸ h

end Copies

end Payload

/-- Each value of the token fits its field. -/
def Representable (t : RmtToken) : Prop := ∀ f ∈ tokenLayout t, f.Holds

instance (t : RmtToken) : Decidable (Representable t) := List.decidableBAll _ _

def ShowsLayout (memory : ℕ → BitVec 8) (t : RmtToken) : Prop :=
  Shows (t.build memory) (tokenLayout t) ∧
    Tiles 0 (tokenLayout t) (8 * (t.build memory).sizeInBytes)

section Tokens

variable {memory : ℕ → BitVec 8} {layout : List DocField} {writes : List RmtWrite}
  {bytes arraySize size : ℕ} {t : RmtToken}

theorem length_setBits (srcVal : BitVec 64) (endBit startBit : ℕ) (d : RmtTokenData) :
    (d.setBits srcVal endBit startBit).pByteData.length = d.pByteData.length := by
  unfold setBits
  split
  · exact length_setBitsLoop _ _ _ _ _ _ _
  · rfl

theorem length_writeFields (writes : List RmtWrite) (d : RmtTokenData) :
    (d.writeFields writes).pByteData.length = d.pByteData.length := by
  induction writes generalizing d with
  | nil => rfl
  | cons w writes ih => exact (ih _).trans (length_setBits _ _ _ _)

theorem filled_writeFields (h : size ≤ arraySize) (h' : arraySize < 2 ^ 32) (hbytes : bytes ≤ size)
    (hputs : PutsDown writes layout) (htiles : Tiles 0 layout (8 * bytes))
    (hholds : ∀ f ∈ layout, f.Holds) :
    Filled ((create memory arraySize size h h').writeFields writes) layout bytes arraySize
      size where
  shows := (shows_writeFields hputs htiles (Nat.mul_le_mul_left 8 hbytes) hholds).1
  tiles := htiles
  length_eq := by
    rw [length_writeFields]
    simp [create]
  size_eq := sizeInBytes_writeFields _ _

theorem Filled.showsLayout (arraySize size : ℕ)
    (h : Filled (t.build memory) (tokenLayout t) size arraySize size) : ShowsLayout memory t :=
    ⟨h.shows, h.size_eq.symm ▸ h.tiles⟩

theorem value_ofNat {n : ℕ} (h : n < 2 ^ 64) : ((BitVec.ofNat 64 n).toNat : ℤ) = n := by
  rw [BitVec.toNat_ofNat, Nat.mod_eq_of_lt h]

theorem value_setWidth {w : ℕ} (hw : w ≤ 64) (x : BitVec w) :
    ((x.setWidth 64).toNat : ℤ) = x.toNat := by
  rw [BitVec.toNat_setWidth_of_le hw]

theorem value_boolVal (b : Bool) : ((boolVal b).toNat : ℤ) = b.toNat := by cases b <;> rfl

theorem value_shifted (x : BitVec 64) :
    ((x >>> 12).toNat : ℤ) = (x.toNat : ℤ) / 2 ^ 12 := by
  rw [BitVec.toNat_ushiftRight, Nat.shiftRight_eq_div_pow]
  norm_cast

theorem value_rmtSize {size : BitVec 64}
    (h : (⟨31, 8, (size.toNat / RMT_4KB : ℕ) - 1⟩ : DocField).Holds) :
    ((((size / .ofNat 64 RMT_4KB).setWidth 32 - 1 : BitVec 32).setWidth 64).toNat : ℤ) =
      (size.toNat / RMT_4KB : ℕ) - 1 := by
  obtain ⟨hlow, hhigh⟩ := h
  dsimp only [DocField.width] at hlow hhigh
  have hdiv : (size / BitVec.ofNat 64 RMT_4KB).toNat = size.toNat / RMT_4KB := by
    rw [BitVec.toNat_udiv]
    rfl
  have hwidth : ((size / BitVec.ofNat 64 RMT_4KB).setWidth 32).toNat = size.toNat / RMT_4KB := by
    rw [BitVec.toNat_setWidth, hdiv, Nat.mod_eq_of_lt (by omega)]
  rw [BitVec.toNat_setWidth_of_le (by decide), BitVec.toNat_sub, hwidth]
  have hone : (1 : BitVec 32).toNat = 1 := rfl
  rw [hone]
  omega

/-! ### The constructors, one by one -/

variable {delta : BitVec 8} {type : RmtUserdataEventType}

theorem putsDown_userdata {payloadSize : ℕ} (h : payloadSize < 2 ^ 64) :
    PutsDown (userdataWrites delta type payloadSize) (userdataFields delta type payloadSize) := by
  apply PutsDown.header
  apply PutsDown.field rfl rfl fun _ => value_ofNat (by cases type <;> decide)
  exact .field rfl rfl (fun _ => value_ofNat h) .nil

theorem tiles_userdataFields {payloadSize : ℕ} :
    Tiles 0 (userdataFields delta type payloadSize) (8 * 4) := by
  simp [userdataFields, headerFields, Tiles]

theorem filled_userdata (memory : ℕ → BitVec 8) (arraySize size : ℕ) {payloadSize : ℕ}
    {new : List DocField} (h : size ≤ arraySize) (h' : arraySize < 2 ^ 32) (hsize : 4 ≤ size)
    (hpayload : payloadSize < 2 ^ 64)
    (hholds : ∀ f ∈ userdataFields delta type payloadSize ++ new, f.Holds) :
    Filled ((create memory arraySize size h h').writeFields (userdataWrites delta type payloadSize))
      (userdataFields delta type payloadSize) 4 arraySize size :=
  filled_writeFields h h' hsize (putsDown_userdata hpayload) tiles_userdataFields
    fun f hf => hholds f (List.mem_append_left _ hf)

theorem showsLayout_timestamp {time frequency : BitVec 64}
    (h : Representable (.timestamp time frequency)) :
    ShowsLayout memory (.timestamp time frequency) := by
  apply Filled.showsLayout 12 12
  apply filled_writeFields _ _ (Nat.le_refl _) _ _ h
  · apply PutsDown.field rfl rfl fun _ => rfl
    apply PutsDown.field rfl rfl fun _ => rfl
    exact .field rfl rfl (fun _ => rfl) .nil
  · simp [tokenLayout, Tiles]

theorem showsLayout_timeDelta {delta : BitVec 64} {numDeltaBytes : BitVec 8}
    {hmax : numDeltaBytes.toNat ≤ 6}
    (h : Representable (.timeDelta delta numDeltaBytes hmax)) :
    ShowsLayout memory (.timeDelta delta numDeltaBytes hmax) := by
  apply Filled.showsLayout 7 (numDeltaBytes.toNat + 1)
  apply filled_writeFields _ _ (Nat.le_refl _) _ _ h
  · apply PutsDown.field rfl rfl fun _ => rfl
    apply PutsDown.field rfl rfl fun _ => value_setWidth (by decide) numDeltaBytes
    apply PutsDown.field rfl rfl fun _ => rfl
    exact .field rfl rfl (fun _ => rfl) .nil
  · simp [tokenLayout, Tiles]
    omega

theorem showsLayout_userdata {payloadSize : BitVec 32}
    (h : Representable (.userdata delta type payloadSize)) :
    ShowsLayout memory (.userdata delta type payloadSize) := by
  apply Filled.showsLayout 4 4
  apply filled_writeFields _ _ (Nat.le_refl _) _ tiles_userdataFields h
  exact putsDown_userdata (payloadSize.isLt.trans (by decide))

theorem showsLayout_userdataEmbeddedString {pString : List (BitVec 8)}
    (h : Representable (.userdataEmbeddedString delta type pString)) :
    ShowsLayout memory (.userdataEmbeddedString delta type pString) := by
  have hlength := length_storedString pString
  unfold RMT_MAX_USERDATA_STRING_SIZE at hlength
  apply Filled.showsLayout (4 + 1024) (4 + (storedString pString).length)
  apply Filled.copyString _ _ (by omega)
  exact filled_userdata _ _ _ _ _ (by omega) (by omega) h

variable {resourceId : BitVec 32}

theorem showsLayout_userdataDebugName {pDebugName : Option (List (BitVec 8))}
    (h : Representable (.userdataDebugName delta pDebugName resourceId)) :
    ShowsLayout memory (.userdataDebugName delta pDebugName resourceId) := by
  have hlength := length_storedString (pDebugName.getD [])
  unfold RMT_MAX_USERDATA_STRING_SIZE at hlength
  rw [Representable, tokenLayout, List.append_assoc] at h
  apply Filled.showsLayout (4 + 1024 + 1 + 5)
    (4 + ((storedString (pDebugName.getD [])).length + 5))
  have hfields := filled_userdata memory (4 + 1024 + 1 + 5)
    (4 + ((storedString (pDebugName.getD [])).length + 5)) (by omega) (by decide) (by omega)
    (by omega) h
  have hname := hfields.copyString (storedString (pDebugName.getD [])) (by omega)
  have hid := (hname.copyNul (by omega)).copyInteger (n := 4) _ resourceId
    (Nat.succ_pred_eq_of_pos (by omega)) (by omega)
  apply hid.cast
  · simp only [tokenLayout, List.append_assoc, List.singleton_append]
    rfl
  · omega

theorem showsLayout_userdataDebugNameV2 {pDebugName : List (BitVec 8)} {lagTime : BitVec 64}
    (h : Representable (.userdataDebugNameV2 delta pDebugName resourceId lagTime)) :
    ShowsLayout memory (.userdataDebugNameV2 delta pDebugName resourceId lagTime) := by
  have hlength := length_storedString pDebugName
  unfold RMT_MAX_USERDATA_STRING_SIZE at hlength
  rw [Representable, tokenLayout, List.append_assoc] at h
  apply Filled.showsLayout (4 + 1024 + 5 + 8)
    (4 + ((storedString pDebugName).length + 13))
  have hfields := filled_userdata memory (4 + 1024 + 5 + 8)
    (4 + ((storedString pDebugName).length + 13)) (by omega) (by decide) (by omega)
    (by omega) h
  have hname := hfields.copyString (storedString pDebugName) (by omega)
  have hid := (hname.copyNul (by omega)).copyInteger (n := 4) _ resourceId
    (Nat.succ_pred_eq_of_pos (by omega)) (by omega)
  have htime := hid.copyInteger (n := 8) _ lagTime (Nat.succ_pred_eq_of_pos (by omega)) (by omega)
  apply htime.cast
  · simp only [tokenLayout, List.append_assoc, List.singleton_append]
    rfl
  · omega

theorem showsLayout_userdataMarkImplicitResource
    (h : Representable (.userdataMarkImplicitResource delta resourceId)) :
    ShowsLayout memory (.userdataMarkImplicitResource delta resourceId) := by
  apply Filled.showsLayout 8 8
  apply Filled.copyInteger (n := 4) _ _ resourceId rfl (by decide)
  exact filled_userdata _ _ _ _ _ (by decide) (by decide) h

theorem showsLayout_userdataMarkImplicitResourceV2 {lagTime : BitVec 64} {heapType : BitVec 8}
    (h : Representable (.userdataMarkImplicitResourceV2 delta resourceId lagTime heapType)) :
    ShowsLayout memory (.userdataMarkImplicitResourceV2 delta resourceId lagTime heapType) := by
  apply Filled.showsLayout 17 17
  have hfields := filled_userdata (fun _ => 0) 17 17
    (by decide) (by decide) (by decide) (by decide) h
  have hid := hfields.copyInteger (n := 4) 63 resourceId rfl (by decide)
  have htime := hid.copyInteger (n := 8) 127 lagTime rfl (by decide)
  exact htime.copyString [heapType] (Nat.le_refl _)

theorem showsLayout_userdataRsrcCorrelation {handle dxHandle : BitVec 32}
    (h : Representable (.userdataRsrcCorrelation delta handle dxHandle)) :
    ShowsLayout memory (.userdataRsrcCorrelation delta handle dxHandle) := by
  apply Filled.showsLayout 12 12
  have hfields := filled_userdata memory 12 12
    (by decide) (by decide) (by decide) (by decide) h
  have hhandle := hfields.copyInteger (n := 4) 63 handle rfl (by decide)
  exact hhandle.copyInteger (n := 4) 95 dxHandle rfl (by decide)

theorem showsLayout_misc {type : RmtMiscEventType}
    (h : Representable (.misc delta type)) : ShowsLayout memory (.misc delta type) := by
  apply Filled.showsLayout 2 2
  apply filled_writeFields _ _ (Nat.le_refl _) _ _ h
  · apply PutsDown.header
    apply PutsDown.field rfl rfl fun _ => value_ofNat (by cases type <;> decide)
    exact .field rfl rfl (fun _ => rfl) .nil
  · simp [tokenLayout, headerFields, Tiles]

variable {virtualAddress : BitVec 64}

theorem showsLayout_pageTableUpdate
    {physicalAddress : BitVec 64} {size : BitVec 32} {pageSize : RmtPageSize}
    {isUnmap : Bool} {processId : BitVec 32} {type : RmtPageTableUpdateType} {isHbccMode : Bool}
    (h : Representable (.pageTableUpdate delta virtualAddress physicalAddress size pageSize
      isUnmap processId type isHbccMode)) :
    ShowsLayout memory (.pageTableUpdate delta virtualAddress physicalAddress size pageSize
      isUnmap processId type isHbccMode) := by
  apply Filled.showsLayout 18 18
  apply filled_writeFields _ _ (Nat.le_refl _) _ _ h
  · apply PutsDown.header
    apply PutsDown.field rfl rfl fun _ => value_shifted virtualAddress
    apply PutsDown.field rfl rfl fun _ => value_shifted physicalAddress
    apply PutsDown.field rfl rfl fun _ => value_setWidth (by decide) size
    apply PutsDown.field rfl rfl fun _ => value_ofNat (by cases pageSize <;> decide)
    apply PutsDown.field rfl rfl fun _ => value_boolVal isUnmap
    apply PutsDown.field rfl rfl fun _ => value_setWidth (by decide) processId
    apply PutsDown.field rfl rfl fun _ => value_ofNat (by cases type <;> decide)
    apply PutsDown.field rfl rfl fun _ => value_boolVal isHbccMode
    exact .field rfl rfl (fun _ => rfl) .nil
  · simp [tokenLayout, headerFields, Tiles]

theorem showsLayout_processEvent {processId : BitVec 32} {type : RmtProcessEventType}
    (h : Representable (.processEvent delta processId type)) :
    ShowsLayout memory (.processEvent delta processId type) := by
  apply Filled.showsLayout 6 6
  apply filled_writeFields _ _ (Nat.le_refl _) _ _ h
  · apply PutsDown.header
    apply PutsDown.field rfl rfl fun _ => value_setWidth (by decide) processId
    exact .field rfl rfl (fun _ => value_ofNat (by cases type <;> decide)) .nil
  · simp [tokenLayout, headerFields, Tiles]

theorem showsLayout_pageReference {pageSize : RmtPageSize} {isCompressed : Bool}
    {pageRefData : BitVec 64}
    (h : Representable (.pageReference delta pageSize isCompressed pageRefData)) :
    ShowsLayout memory (.pageReference delta pageSize isCompressed pageRefData) := by
  apply Filled.showsLayout 10 10
  apply filled_writeFields _ _ (Nat.le_refl _) _ _ h
  · apply PutsDown.header
    apply PutsDown.field rfl rfl fun _ => value_ofNat (by cases pageSize <;> decide)
    apply PutsDown.field rfl rfl fun _ => value_boolVal isCompressed
    apply PutsDown.field rfl rfl fun _ => rfl
    cases isCompressed with
    | false => exact .field rfl rfl (fun _ => rfl) .nil
    | true => exact .field rfl rfl (fun _ => rfl) (.field rfl rfl (fun _ => rfl) .nil)
  · cases isCompressed <;> simp [tokenLayout, headerFields, Tiles]

theorem showsLayout_resourceReference {isRemove : Bool} {queueId : BitVec 8}
    (h : Representable (.resourceReference delta isRemove virtualAddress queueId)) :
    ShowsLayout memory (.resourceReference delta isRemove virtualAddress queueId) := by
  apply Filled.showsLayout 8 8
  apply filled_writeFields _ _ (Nat.le_refl _) _ _ h
  · apply PutsDown.header
    apply PutsDown.field rfl rfl fun _ => value_boolVal isRemove
    apply PutsDown.field rfl rfl fun _ => rfl
    exact .field rfl rfl (fun _ => value_setWidth (by decide) queueId) .nil
  · simp [tokenLayout, headerFields, Tiles]

theorem showsLayout_resourceBind {size : BitVec 64} {isSystemMemory : Bool}
    (h : Representable (.resourceBind delta virtualAddress size resourceId isSystemMemory)) :
    ShowsLayout memory (.resourceBind delta virtualAddress size resourceId isSystemMemory) := by
  apply Filled.showsLayout 17 17
  apply filled_writeFields _ _ (Nat.le_refl _) _ _ h
  · apply PutsDown.header
    apply PutsDown.field rfl rfl fun _ => rfl
    apply PutsDown.field rfl rfl fun _ => rfl
    apply PutsDown.field rfl rfl fun _ => value_boolVal isSystemMemory
    apply PutsDown.field rfl rfl fun _ => rfl
    exact .field rfl rfl (fun _ => value_setWidth (by decide) resourceId) .nil
  · simp [tokenLayout, headerFields, Tiles]

theorem showsLayout_cpuMap {isUnmap : Bool}
    (h : Representable (.cpuMap delta virtualAddress isUnmap)) :
    ShowsLayout memory (.cpuMap delta virtualAddress isUnmap) := by
  apply Filled.showsLayout 8 8
  apply filled_writeFields _ _ (Nat.le_refl _) _ _ h
  · apply PutsDown.header
    apply PutsDown.field rfl rfl fun _ => rfl
    apply PutsDown.field rfl rfl fun _ => value_boolVal isUnmap
    exact .field rfl rfl (fun _ => rfl) .nil
  · simp [tokenLayout, headerFields, Tiles]

theorem showsLayout_freeVirtual (h : Representable (.freeVirtual delta virtualAddress)) :
    ShowsLayout memory (.freeVirtual delta virtualAddress) := by
  apply Filled.showsLayout 7 7
  apply filled_writeFields _ _ (Nat.le_refl _) _ _ h
  · apply PutsDown.header
    exact .field rfl rfl (fun _ => rfl) .nil
  · simp [tokenLayout, headerFields, Tiles]

theorem showsLayout_virtualAllocate {size : BitVec 64} {owner : RmtOwner}
    {heapImportance0 heapImportance1 heapImportance2 heapImportance3 : RmtHeapType}
    {heapImportanceCount : BitVec 8} {isExternal : Bool}
    (h : Representable (.virtualAllocate delta size owner virtualAddress heapImportance0
      heapImportance1 heapImportance2 heapImportance3 heapImportanceCount isExternal)) :
    ShowsLayout memory (.virtualAllocate delta size owner virtualAddress heapImportance0
      heapImportance1 heapImportance2 heapImportance3 heapImportanceCount isExternal) := by
  apply Filled.showsLayout 12 12
  apply filled_writeFields _ _ (Nat.le_refl _) _ _ h
  · apply PutsDown.header
    apply PutsDown.field rfl rfl fun hsize => value_rmtSize hsize
    apply PutsDown.field rfl rfl fun _ => value_ofNat (by cases owner <;> decide)
    apply PutsDown.field rfl rfl fun _ => rfl
    apply PutsDown.field rfl rfl fun _ => value_ofNat (by cases heapImportance0 <;> decide)
    apply PutsDown.field rfl rfl fun _ => value_ofNat (by cases heapImportance1 <;> decide)
    apply PutsDown.field rfl rfl fun _ => value_ofNat (by cases heapImportance2 <;> decide)
    apply PutsDown.field rfl rfl fun _ => value_ofNat (by cases heapImportance3 <;> decide)
    apply PutsDown.field rfl rfl fun _ => value_setWidth (by decide) heapImportanceCount
    apply PutsDown.field rfl rfl fun _ => value_boolVal isExternal
    exact .field rfl rfl (fun _ => rfl) .nil
  · simp [tokenLayout, headerFields, Tiles]

theorem showsLayout_resourceCreate {owner : RmtOwner}
    {ownerCategory : BitVec 8} {commitType : RmtCommitType} {resourceType : RmtResourceType}
    (h : Representable (.resourceCreate delta resourceId owner ownerCategory commitType
      resourceType)) :
    ShowsLayout memory (.resourceCreate delta resourceId owner ownerCategory commitType
      resourceType) := by
  apply Filled.showsLayout 7 7
  apply filled_writeFields _ _ (Nat.le_refl _) _ _ h
  · apply PutsDown.header
    apply PutsDown.field rfl rfl fun _ => value_setWidth (by decide) resourceId
    apply PutsDown.field rfl rfl fun _ => value_ofNat (by cases owner <;> decide)
    apply PutsDown.field rfl rfl fun _ => value_setWidth (by decide) ownerCategory
    apply PutsDown.field rfl rfl fun _ => value_ofNat (by cases commitType <;> decide)
    apply PutsDown.field rfl rfl fun _ => value_ofNat (by cases resourceType <;> decide)
    exact .field rfl rfl (fun _ => rfl) .nil
  · simp [tokenLayout, headerFields, Tiles]

theorem showsLayout_resourceUpdate {subResourceId : BitVec 32}
    {resourceType : RmtResourceType} {beforeUsageFlags afterUsageFlags : BitVec 16}
    (h : Representable (.resourceUpdate delta resourceId subResourceId resourceType
      beforeUsageFlags afterUsageFlags)) :
    ShowsLayout memory (.resourceUpdate delta resourceId subResourceId resourceType
      beforeUsageFlags afterUsageFlags) := by
  apply Filled.showsLayout 14 14
  apply filled_writeFields _ _ (Nat.le_refl _) _ _ h
  · apply PutsDown.header
    apply PutsDown.field rfl rfl fun _ => value_setWidth (by decide) resourceId
    apply PutsDown.field rfl rfl fun _ => value_setWidth (by decide) subResourceId
    apply PutsDown.field rfl rfl fun _ => value_ofNat (by cases resourceType <;> decide)
    apply PutsDown.field rfl rfl fun _ => value_setWidth (by decide) beforeUsageFlags
    apply PutsDown.field rfl rfl fun _ => value_setWidth (by decide) afterUsageFlags
    exact .field rfl rfl (fun _ => rfl) .nil
  · simp [tokenLayout, headerFields, Tiles]

theorem showsLayout_resourceDestroy (h : Representable (.resourceDestroy delta resourceId)) :
    ShowsLayout memory (.resourceDestroy delta resourceId) := by
  apply Filled.showsLayout 5 5
  apply filled_writeFields _ _ (Nat.le_refl _) _ _ h
  · apply PutsDown.header
    exact .field rfl rfl (fun _ => value_setWidth (by decide) resourceId) .nil
  · simp [tokenLayout, headerFields, Tiles]

theorem showsLayout_of_representable (memory : ℕ → BitVec 8) (t : RmtToken)
    (h : Representable t) : ShowsLayout memory t := by
  cases t with
  | timestamp => exact showsLayout_timestamp h
  | timeDelta => exact showsLayout_timeDelta h
  | userdata => exact showsLayout_userdata h
  | userdataEmbeddedString => exact showsLayout_userdataEmbeddedString h
  | userdataDebugName => exact showsLayout_userdataDebugName h
  | userdataDebugNameV2 => exact showsLayout_userdataDebugNameV2 h
  | userdataMarkImplicitResource => exact showsLayout_userdataMarkImplicitResource h
  | userdataMarkImplicitResourceV2 => exact showsLayout_userdataMarkImplicitResourceV2 h
  | userdataRsrcCorrelation => exact showsLayout_userdataRsrcCorrelation h
  | misc => exact showsLayout_misc h
  | pageTableUpdate => exact showsLayout_pageTableUpdate h
  | processEvent => exact showsLayout_processEvent h
  | pageReference => exact showsLayout_pageReference h
  | resourceReference => exact showsLayout_resourceReference h
  | resourceBind => exact showsLayout_resourceBind h
  | cpuMap => exact showsLayout_cpuMap h
  | freeVirtual => exact showsLayout_freeVirtual h
  | virtualAllocate => exact showsLayout_virtualAllocate h
  | resourceCreate => exact showsLayout_resourceCreate h
  | resourceUpdate => exact showsLayout_resourceUpdate h
  | resourceDestroy => exact showsLayout_resourceDestroy h

end Tokens

section Determined

variable {layout : List DocField} {start stop stop' i : ℕ}

theorem Tiles.stop_eq (h : Tiles start layout stop) (h' : Tiles start layout stop') :
    stop = stop' := by
  induction layout generalizing start with
  | nil => exact (show start = stop from h) ▸ h'
  | cons f layout ih => exact ih h.2.2 h'.2.2

theorem Tiles.exists_mem (h : Tiles start layout stop) (hstart : start ≤ i) (hstop : i < stop) :
    ∃ f ∈ layout, f.startBit ≤ i ∧ i ≤ f.endBit := by
  induction layout generalizing start with
  | nil => exact absurd (show start = stop from h) (by omega)
  | cons f layout ih =>
    by_cases hin : i ≤ f.endBit
    · exact ⟨f, List.mem_cons_self, h.1.trans_le hstart, hin⟩
    · obtain ⟨g, hg, hbits⟩ := ih h.2.2 (by omega)
      exact ⟨g, List.mem_cons_of_mem _ hg, hbits⟩

theorem data_eq_of_shows {d d' : RmtTokenData} (h : Shows d layout) (h' : Shows d' layout)
    (htiles : Tiles 0 layout (8 * d.sizeInBytes)) (htiles' : Tiles 0 layout (8 * d'.sizeInBytes)) :
    d.pByteData.take d.sizeInBytes = d'.pByteData.take d'.sizeInBytes := by
  have hsize : d.sizeInBytes = d'.sizeInBytes := by
    have hstop := htiles.stop_eq htiles'
    omega
  have hlength : (d.pByteData.take d.sizeInBytes).length = d.sizeInBytes :=
    List.length_take_of_le d.size_le
  have hlength' : (d'.pByteData.take d'.sizeInBytes).length = d'.sizeInBytes :=
    List.length_take_of_le d'.size_le
  apply eq_of_bitAt (by rw [hlength, hlength', hsize])
  intro i hi
  rw [hlength] at hi
  rw [bitAt_take _ hi, bitAt_take _ (hsize ▸ hi)]
  obtain ⟨f, hf, hlow, hhigh⟩ := htiles.exists_mem (Nat.zero_le i) hi
  have hsame : bitsOf d.pByteData f.startBit f.width = bitsOf d'.pByteData f.startBit f.width := by
    have hvalue := (h f hf).trans (h' f hf).symm
    exact_mod_cast hvalue
  have hbit := congrArg (fun n => n.testBit (i - f.startBit)) hsame
  simp only [testBit_bitsOf] at hbit
  have hwidth : i - f.startBit < f.width := by
    unfold DocField.width
    omega
  rwa [decide_eq_true hwidth, Bool.true_and, Bool.true_and, Nat.add_sub_cancel' hlow] at hbit

end Determined

/-- Each documented range of a finished token holds its argument, the reserved ones hold zero, and
the ranges take up the whole token, so that its bytes do not depend on what the memory held. -/
theorem token_has_layout (memory : ℕ → BitVec 8) (t : RmtToken) (h : Representable t) :
    (∀ f ∈ tokenLayout t,
      (bitsOf (t.build memory).pByteData f.startBit (f.endBit + 1 - f.startBit) : ℤ) = f.value) ∧
    Tiles 0 (tokenLayout t) (8 * (t.build memory).sizeInBytes) ∧
    ∀ memory', (t.build memory).pByteData.take (t.build memory).sizeInBytes =
      (t.build memory').pByteData.take (t.build memory').sizeInBytes := by
  obtain ⟨hshows, htiles⟩ := showsLayout_of_representable memory t h
  refine ⟨hshows, htiles, fun memory' => ?_⟩
  obtain ⟨hshows', htiles'⟩ := showsLayout_of_representable memory' t h
  exact data_eq_of_shows hshows hshows' htiles htiles'

theorem token_has_layout_allocate :
    let t : RmtToken := .virtualAllocate 3 0x10000 .clientDriver 0x7FFF12345000 .local .invisible
      .system .local 3 true
    Representable t ∧
    (∀ f ∈ tokenLayout t,
      (bitsOf (t.build fun _ => 0xFF).pByteData f.startBit (f.endBit + 1 - f.startBit) : ℤ) =
        f.value) ∧
    Tiles 0 (tokenLayout t) (8 * (t.build fun _ => 0xFF).sizeInBytes) ∧
    ∀ memory', (t.build fun _ => 0xFF).pByteData.take (t.build fun _ => 0xFF).sizeInBytes =
      (t.build memory').pByteData.take (t.build memory').sizeInBytes :=
  ⟨by decide, token_has_layout _ _ (by decide)⟩

end DevDriver.Analysis
