import DevDriver.Model.StructuredValue

/-!
# Reading strings

The accessors of strings look at the last byte of a string to see whether it is terminated.  An
empty string has no last byte, and the byte in front of it is taken for one.
-/

namespace DevDriver.Analysis

open Library Model StructuredValue

variable {tree : MpackTree} {offset : ℕ} {len : UInt32} {raw pBuffer : List UInt8}
  {pStringSize : Bool}

def withoutFinalNul (raw : List UInt8) : List UInt8 :=
  if raw.getLast? = some 0 then raw.dropLast else raw

/-- A string node of a document: its bytes are in the document, are valid UTF-8 and have no NUL but
one at their end. -/
structure StringNode (tree : MpackTree) (offset : ℕ) (len : UInt32) (raw : List UInt8) : Prop where
  ok : tree.error = .ok
  bytes : slice tree.data offset len.toNat = raw
  length : raw.length = len.toNat
  utf8 : mpackUtf8Check raw = true
  noNul : 0 ∉ withoutFinalNul raw

def ReadsString (offset : ℕ) (len : UInt32) (reads : List ℕ) : Prop :=
  ∀ address ∈ reads, offset ≤ address ∧ address < offset + len.toNat

/-! ## Runs of the functions of `mpack` -/

theorem run_read {α : Type} {failed value : α} {read : MpackNode → Option α} {node : MpackNode}
    (h : tree.error = .ok) (hread : read node = some value) :
    (mpackNodeRead failed read node).run tree = pure (value, tree) := by
  simp [mpackNodeRead, mpackNodeError, h, hread]

theorem run_str (h : tree.error = .ok) :
    (mpackNodeStr (.str offset len)).run tree = pure (some offset, tree) := run_read h rfl

theorem run_strlen (h : tree.error = .ok) :
    (mpackNodeStrlen (.str offset len)).run tree = pure (len.toNat, tree) := run_read h rfl

theorem run_error (h : tree.error = .ok) : mpackNodeError.run tree = pure (.ok, tree) := by
  simp [mpackNodeError, h]

theorem run_reset (tree : MpackTree) :
    resetInternalErrorState.run tree =
      pure (decide (tree.error = .ok), { tree with error := .ok }) := by
  simp [resetInternalErrorState, mpackNodeError]

theorem run_flag (h : tree.error = .ok) (error : MpackError) :
    (mpackNodeFlagError error).run tree = pure (⟨⟩, { tree with error := error }) := by
  simp [mpackNodeFlagError, h]

theorem StringNode.slice_length (h : StringNode tree offset len raw) :
    slice tree.data offset raw.length = raw := h.length ▸ h.bytes

theorem StringNode.withOk (h : StringNode tree offset len raw) :
    (⟨tree.data, tree.root, .ok⟩ : MpackTree) = tree := by rw [← h.ok]

theorem StringNode.run_copyCstr (h : StringNode tree offset len raw) (hraw : 0 ∉ raw)
    (pBuffer : List UInt8) :
    (mpackNodeCopyCstr (.str offset len) pBuffer).run tree =
      pure (if raw.length > pBuffer.length - 1 then
          (⟨pBuffer.set 0 0, []⟩, { tree with error := .tooBig })
        else (⟨(overwrite pBuffer 0 raw).set raw.length 0, List.range' offset raw.length⟩,
          tree)) := by
  by_cases hroom : raw.length > pBuffer.length - 1
  · simp [mpackNodeCopyCstr, run_error h.ok, ← h.length, hroom, run_flag h.ok]
  · simp [mpackNodeCopyCstr, run_error h.ok, ← h.length, hroom, h.slice_length, hraw]

theorem StringNode.run_copyUtf8 (h : StringNode tree offset len raw) :
    (mpackNodeCopyUtf8 (.str offset len) pBuffer).run tree =
      pure (if raw.length > pBuffer.length then (⟨pBuffer, []⟩, { tree with error := .tooBig })
        else (⟨overwrite pBuffer 0 raw, List.range' offset raw.length⟩, tree)) := by
  by_cases hroom : raw.length > pBuffer.length
  · simp [mpackNodeCopyUtf8, run_error h.ok, ← h.length, hroom, run_flag h.ok]
  · simp [mpackNodeCopyUtf8, run_error h.ok, ← h.length, hroom, h.slice_length, h.utf8]

def SeemsTerminated (tree : MpackTree) (offset : ℕ) (len : UInt32) : Prop :=
  tree.data.getD (lastByteAddress offset len.toNat) 0 = 0

instance (tree : MpackTree) (offset : ℕ) (len : UInt32) :
    Decidable (SeemsTerminated tree offset len) :=
  inferInstanceAs (Decidable (_ = _))

def terminatedCopy (offset : ℕ) (raw pBuffer : List UInt8) (pStringSize : Bool) : StringCopy where
  success := decide (pBuffer.length = 0 ∨ raw.length ≤ pBuffer.length)
  stringSize := if pStringSize then some ((raw.length + (2 ^ 64 - 1)) % 2 ^ 64) else none
  buffer :=
    if pBuffer.length = 0 ∨ pBuffer.length < raw.length then pBuffer else overwrite pBuffer 0 raw
  reads := lastByteAddress offset raw.length ::
    if pBuffer.length = 0 ∨ pBuffer.length < raw.length then []
    else List.range' offset raw.length

def unterminatedCopy (offset : ℕ) (raw pBuffer : List UInt8) (pStringSize : Bool) :
    StringCopy where
  success := decide (pBuffer.length = 0 ∨ raw.length < pBuffer.length)
  stringSize := if pStringSize then some raw.length else none
  buffer :=
    if pBuffer.length ≤ raw.length then pBuffer.set 0 0
    else (overwrite pBuffer 0 raw).set raw.length 0
  reads := lastByteAddress offset raw.length ::
    if pBuffer.length ≤ raw.length then [] else List.range' offset raw.length

theorem StringNode.lastByte_iff (h : StringNode tree offset len raw) :
    SeemsTerminated tree offset len ↔
      tree.data[lastByteAddress offset raw.length]?.getD 0 = 0 := by
  rw [SeemsTerminated, h.length, List.getD_eq_getElem?_getD]

theorem StringNode.run_getStringCopy (h : StringNode tree offset len raw)
    (hraw : ¬SeemsTerminated tree offset len → 0 ∉ raw) :
    (StructuredValue.getStringCopy pBuffer pStringSize (.str offset len)).run tree =
      pure (if SeemsTerminated tree offset len then terminatedCopy offset raw pBuffer pStringSize
        else unterminatedCopy offset raw pBuffer pStringSize, tree) := by
  have hsame := h.withOk
  have hlast := h.lastByte_iff
  by_cases hterminated : SeemsTerminated tree offset len
  · have hzero := hlast.mp hterminated
    rw [if_pos hterminated]
    cases pBuffer with
    | nil =>
      simp [StructuredValue.getStringCopy, run_str h.ok, run_strlen h.ok, run_error h.ok, run_reset,
        terminatedCopy, ← h.length, h.ok, hzero, hsame]
    | cons c pBuffer =>
      by_cases hroom : pBuffer.length + 1 < raw.length
      · have hlong : ¬raw.length ≤ pBuffer.length + 1 := Nat.not_le_of_lt hroom
        simp [StructuredValue.getStringCopy, run_str h.ok, run_strlen h.ok, run_error h.ok,
          run_reset, terminatedCopy, ← h.length, copyString, h.run_copyUtf8, hzero, hsame, hroom,
          hlong]
      · have hfits : raw.length ≤ pBuffer.length + 1 := Nat.le_of_not_lt hroom
        simp [StructuredValue.getStringCopy, run_str h.ok, run_strlen h.ok, run_error h.ok,
          run_reset, terminatedCopy, ← h.length, copyString, h.run_copyUtf8, hzero, hsame, hroom,
          h.ok, hfits]
  · have hzero := mt hlast.mpr hterminated
    have hcopy := h.run_copyCstr (hraw hterminated)
    rw [if_neg hterminated]
    cases pBuffer with
    | nil =>
      simp [StructuredValue.getStringCopy, run_str h.ok, run_strlen h.ok, run_error h.ok, run_reset,
        unterminatedCopy, ← h.length, h.ok, hzero, hsame]
    | cons c pBuffer =>
      by_cases hroom : pBuffer.length < raw.length
      · have hlong : pBuffer.length + 1 ≤ raw.length := hroom
        simp [StructuredValue.getStringCopy, run_str h.ok, run_strlen h.ok, run_error h.ok,
          run_reset, unterminatedCopy, ← h.length, copyString, hcopy, hzero, hsame, hroom, hlong,
          Nat.not_lt_of_le hlong]
      · have hfits : raw.length < pBuffer.length + 1 := Nat.lt_succ_of_le (Nat.le_of_not_lt hroom)
        simp [StructuredValue.getStringCopy, run_str h.ok, run_strlen h.ok, run_error h.ok,
          run_reset, unterminatedCopy, ← h.length, copyString, hcopy, hzero, hsame, hroom, hfits,
          Nat.not_le_of_lt hfits, h.ok]

theorem StringNode.run_getStringPtr (h : StringNode tree offset len raw) :
    (getStringPtr (.str offset len)).run tree =
      pure (⟨if SeemsTerminated tree offset len then some offset else none,
        [lastByteAddress offset raw.length]⟩, tree) := by
  have hsame := h.withOk
  have hlast := h.lastByte_iff
  simp [getStringPtr, run_str h.ok, run_strlen h.ok, run_error h.ok, run_reset, ← h.length, h.ok,
    hsame, hlast]

theorem StringNode.seemsTerminated_iff (h : StringNode tree offset len raw) (hne : raw ≠ []) :
    SeemsTerminated tree offset len ↔ raw.getLast? = some 0 := by
  have hpos := List.length_pos_iff.mpr hne
  have hslice : raw.getLast? = tree.data[offset + raw.length - 1]? := by
    rw [List.getLast?_eq_getElem?]
    nth_rewrite 1 [← h.slice_length]
    rw [slice, List.getElem?_take_of_lt (by omega), List.getElem?_drop]
    congr 1
    omega
  have hsome : raw.getLast? ≠ none := by simpa using hne
  rw [SeemsTerminated, lastByteAddress, ← h.length, List.getD_eq_getElem?_getD, ← hslice]
  cases hlast : raw.getLast? with
  | none => exact absurd hlast hsome
  | some c => simp

/-! ## Exactness -/

/-- The accessors read only the bytes of the string, and take it for the string that it is. -/
structure StringExact (tree : MpackTree) (offset : ℕ) (len : UInt32) (raw : List UInt8) : Prop where
  copy_reads : ∀ pBuffer pStringSize,
    ReadsString offset len
      ((StructuredValue.getStringCopy pBuffer pStringSize (.str offset len)).run tree).1.reads
  ptr_reads : ReadsString offset len ((getStringPtr (.str offset len)).run tree).1.reads
  size : ∀ pBuffer,
    ((StructuredValue.getStringCopy pBuffer true (.str offset len)).run tree).1.stringSize =
      some (withoutFinalNul raw).length
  copy_iff : ∀ pBuffer pStringSize, 0 < pBuffer.length →
    (((StructuredValue.getStringCopy pBuffer pStringSize (.str offset len)).run tree).1.success =
      true ↔ (withoutFinalNul raw).length + 1 ≤ pBuffer.length)
  copied : ∀ pBuffer pStringSize, (withoutFinalNul raw).length + 1 ≤ pBuffer.length →
    ((StructuredValue.getStringCopy pBuffer pStringSize (.str offset len)).run tree).1.buffer =
      overwrite pBuffer 0 (withoutFinalNul raw ++ [0])
  inside : ∀ pBuffer pStringSize,
    ((StructuredValue.getStringCopy pBuffer pStringSize (.str offset len)).run
      tree).1.buffer.length = pBuffer.length
  ptr : ((getStringPtr (.str offset len)).run tree).1.pointer =
    if raw.getLast? = some 0 then some offset else none

theorem StringNode.copy_eq (h : StringNode tree offset len raw) (hne : raw ≠ [])
    (pBuffer : List UInt8) (pStringSize : Bool) :
    ((StructuredValue.getStringCopy pBuffer pStringSize (.str offset len)).run tree).1 =
      if raw.getLast? = some 0 then terminatedCopy offset raw pBuffer pStringSize
      else unterminatedCopy offset raw pBuffer pStringSize := by
  have hraw : ¬SeemsTerminated tree offset len → 0 ∉ raw := by
    intro hnot
    have hsame : withoutFinalNul raw = raw := if_neg (mt (h.seemsTerminated_iff hne).mpr hnot)
    exact hsame ▸ h.noNul
  refine (congrArg Prod.fst (h.run_getStringCopy hraw)).trans ?_
  exact if_congr (h.seemsTerminated_iff hne) rfl rfl

theorem readsString_cons {reads : List ℕ} (hlength : raw.length = len.toNat) (hne : raw ≠ [])
    (hreads : ∀ address ∈ reads, address ∈ List.range' offset raw.length) :
    ReadsString offset len (lastByteAddress offset raw.length :: reads) := by
  have hpos := List.length_pos_iff.mpr hne
  intro address haddress
  rcases List.mem_cons.mp haddress with rfl | haddress
  · unfold lastByteAddress
    omega
  · have hrange := List.mem_range'_1.mp (hreads address haddress)
    omega

theorem set_overwrite (hroom : raw.length + 1 ≤ pBuffer.length) :
    (overwrite pBuffer 0 raw).set raw.length 0 = overwrite pBuffer 0 (raw ++ [0]) := by
  have hrest : (pBuffer.drop raw.length).set 0 0 = 0 :: pBuffer.drop (raw.length + 1) := by
    rw [List.drop_eq_getElem_cons (by omega), List.set_cons_zero]
  have hset := List.set_append_right raw.length (0 : UInt8) (t := pBuffer.drop raw.length)
    (Nat.le_refl raw.length)
  rw [Nat.sub_self, hrest] at hset
  simpa [overwrite] using hset

theorem StringNode.exact (h : StringNode tree offset len raw) (hne : raw ≠ []) :
    StringExact tree offset len raw := by
  have hbound : raw.length < 2 ^ 32 := h.length ▸ len.toNat_lt
  have hpos := List.length_pos_iff.mpr hne
  have hcopy := h.copy_eq hne
  have hptr : ((getStringPtr (.str offset len)).run tree).1 =
      ⟨if SeemsTerminated tree offset len then some offset else none,
        [lastByteAddress offset raw.length]⟩ := congrArg Prod.fst h.run_getStringPtr
  by_cases hlast : raw.getLast? = some 0
  · have hstring : withoutFinalNul raw ++ [0] = raw := by
      rw [withoutFinalNul, if_pos hlast]
      exact List.dropLast_append_getLast? 0 hlast
    have hlength : (withoutFinalNul raw).length + 1 = raw.length := by
      nth_rewrite 2 [← hstring]
      simp
    simp only [if_pos hlast] at hcopy
    constructor
    · intro pBuffer pStringSize
      rw [hcopy]
      apply readsString_cons h.length hne
      intro address haddress
      split at haddress
      · cases haddress
      · exact haddress
    · rw [hptr]
      exact readsString_cons h.length hne nofun
    · intro pBuffer
      have hsize : (raw.length + (2 ^ 64 - 1)) % 2 ^ 64 = (withoutFinalNul raw).length := by omega
      rw [hcopy, terminatedCopy, if_pos rfl, hsize]
    · intro pBuffer pStringSize hbuffer
      rw [hcopy, hlength, terminatedCopy, decide_eq_true_iff]
      exact or_iff_right (Nat.ne_of_gt hbuffer)
    · intro pBuffer pStringSize hroom
      rw [hcopy, hstring, terminatedCopy]
      exact if_neg (by omega)
    · intro pBuffer pStringSize
      rw [hcopy, terminatedCopy]
      dsimp only
      split
      · rfl
      · exact length_overwrite (by omega)
    · rw [hptr]
      exact if_congr (h.seemsTerminated_iff hne) rfl rfl
  · have hstring : withoutFinalNul raw = raw := if_neg hlast
    simp only [if_neg hlast] at hcopy
    constructor
    · intro pBuffer pStringSize
      rw [hcopy]
      apply readsString_cons h.length hne
      intro address haddress
      split at haddress
      · cases haddress
      · exact haddress
    · rw [hptr]
      exact readsString_cons h.length hne nofun
    · intro pBuffer
      rw [hcopy, unterminatedCopy, if_pos rfl, hstring]
    · intro pBuffer pStringSize hbuffer
      rw [hcopy, hstring, unterminatedCopy, decide_eq_true_iff]
      exact or_iff_right (Nat.ne_of_gt hbuffer)
    · intro pBuffer pStringSize hroom
      rw [hstring] at hroom
      rw [hcopy, hstring, unterminatedCopy, set_overwrite hroom]
      exact if_neg (by omega)
    · intro pBuffer pStringSize
      rw [hcopy, unterminatedCopy]
      dsimp only
      split
      · exact List.length_set
      · exact List.length_set.trans (length_overwrite (by omega))
    · rw [hptr]
      exact if_congr (h.seemsTerminated_iff hne) rfl rfl

/-- The accesses to a string are exact exactly if it is not empty. -/
theorem string_exact_iff (h : StringNode tree offset len raw) :
    StringExact tree offset len raw ↔ len ≠ 0 := by
  constructor
  · rintro hexact rfl
    have hreads : ((getStringPtr (.str offset 0)).run tree).1.reads =
        [lastByteAddress offset raw.length] := congrArg (fun p => p.1.reads) h.run_getStringPtr
    have hinside := hexact.ptr_reads (lastByteAddress offset raw.length) (by simp [hreads])
    exact absurd (hinside.1.trans_lt hinside.2) (Nat.lt_irrefl offset)
  · intro hlen
    apply h.exact
    rintro rfl
    apply hlen
    exact UInt32.toNat.inj h.length.symm

theorem string_exact_iff_two :
    StringExact ⟨[0xa2, 0x68, 0x69], .str 1 2, .ok⟩ 1 2 [0x68, 0x69] ↔ (2 : UInt32) ≠ 0 :=
  string_exact_iff ⟨rfl, by decide, rfl, by decide, by decide⟩

/-- An empty string whose length is in a byte of its own seems to end with a NUL. -/
theorem string_exact_not :
    ¬∀ (tree : MpackTree) (offset : ℕ) (len : UInt32) (raw : List UInt8),
      StringNode tree offset len raw → StringExact tree offset len raw := by
  intro hall
  have hexact := hall ⟨[0xd9, 0], .str 2 0, .ok⟩ 2 0 [] ⟨rfl, rfl, rfl, rfl, by decide⟩
  have hsize := hexact.size []
  revert hsize
  decide +kernel

end DevDriver.Analysis
