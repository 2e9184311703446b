import DevDriver.Analysis.SettingsWalk

/-!
# Records that were encoded

What the settings iterator reads where a record was encoded, and where it goes from there.
-/

namespace DevDriver.Analysis

open Library Model

namespace SettingsRecords

open SettingsWalk

variable {buf : SettingsBuffer} {offset : ℕ}

theorem read_of_bytes (pre field post : List UInt8) {count : ℕ}
    (h : buf.bytes = pre ++ (field ++ post)) (hpre : pre.length = offset)
    (hcount : field.length = count) : buf.read offset count = field := by
  subst hpre hcount
  apply List.ext_getElem
  · simp [SettingsBuffer.read]
  · intro i h₁ h₂
    have hi : pre.length + i - pre.length = i := Nat.add_sub_cancel_left _ _
    simp only [SettingsBuffer.read, List.getElem_map, List.getElem_range, SettingsBuffer.byte, h]
    rw [List.getD_eq_getElem?_getD, List.getElem?_append_right (Nat.le_add_right _ _), hi,
      List.getElem?_append_left h₂, List.getElem?_eq_getElem h₂]
    rfl

theorem field_of_bytes (pre post : List UInt8) {w n : ℕ}
    (h : buf.bytes = pre ++ (leBytes w n ++ post)) (hpre : pre.length = offset)
    (hn : n < 256 ^ w) : buf.field offset w = n := by
  rw [SettingsBuffer.field, read_of_bytes pre _ post h hpre (length_leBytes w n),
    leNat_leBytes_of_lt hn]

theorem takeWhile_append_of_mem {p : UInt8 → Bool} {l l' : List UInt8} {x : UInt8} (hx : x ∈ l)
    (hp : p x = false) : (l ++ l').takeWhile p = l.takeWhile p := by
  induction l with
  | nil => cases hx
  | cons y l ih =>
    rw [List.cons_append, List.takeWhile_cons, List.takeWhile_cons]
    split
    · rename_i hy
      rcases List.mem_cons.mp hx with rfl | hx
      · rw [hp] at hy
        cases hy
      · rw [ih hx]
    · rfl

theorem ofBytes_append {s : List UInt8} (hs : 0 ∈ s) (rest : List UInt8) :
    CString.ofBytes (s ++ rest) = CString.ofBytes s :=
  Subtype.ext (takeWhile_append_of_mem hs (by decide))

theorem ofBytes_terminated (s : CString) (rest : List UInt8) :
    CString.ofBytes (s.val ++ 0 :: rest) = s := by
  apply Subtype.ext
  show (s.val ++ 0 :: rest).takeWhile (· ≠ 0) = s.val
  rw [List.takeWhile_append_of_pos, List.takeWhile_cons_of_neg (by decide), List.append_nil]
  intro b hb
  rw [decide_eq_true_eq]
  rintro rfl
  exact s.property hb

/-! ## Components -/

structure ComponentRecord where
  nameField : List UInt8
  length_nameField : nameField.length = kMaxComponentNameSize
  terminated : 0 ∈ nameField
  blobHash : ℕ
  blobHash_lt : blobHash < 2 ^ 64
  numValues : ℕ
  numValues_lt : numValues < 2 ^ 16
  size : ℕ
  size_lt : size < 2 ^ 32
  body : List UInt8

namespace ComponentRecord

def encode (record : ComponentRecord) : List UInt8 :=
  encodeComponentHeader record.nameField record.blobHash record.numValues record.size ++ record.body

theorem length_header (record : ComponentRecord) :
    (encodeComponentHeader record.nameField record.blobHash record.numValues
      record.size).length = kComponentHeaderSize := by
  simp only [encodeComponentHeader, List.length_append, length_leBytes, record.length_nameField]

theorem length_encode (record : ComponentRecord) :
    record.encode.length = kComponentHeaderSize + record.body.length := by
  rw [encode, List.length_append, length_header]

end ComponentRecord

/-- What is read of a component at an offset is what the record says, and the body of the record
stands behind the header. -/
structure ReadsAs (buf : SettingsBuffer) (offset : ℕ) (record : ComponentRecord) : Prop where
  pName_eq : ∀ component : SettingsComponent, component.offset = offset →
    buf.pName component = CString.ofBytes record.nameField
  blobHash_eq : buf.blobHash offset = record.blobHash
  numValues_eq : buf.numValues offset = record.numValues
  componentSize_eq : buf.componentSize offset = record.size
  body_eq : ∃ pre post, buf.bytes = pre ++ (record.body ++ post) ∧
    pre.length = offset + kComponentHeaderSize

variable {pre post : List UInt8}

theorem ReadsAs.of_bytes {record : ComponentRecord} (h : buf.bytes = pre ++ (record.encode ++ post))
    (hpre : pre.length = offset) : ReadsAs buf offset record := by
  have hname := record.length_nameField
  have hbytes : buf.bytes = pre ++ (record.nameField ++ (leBytes 8 record.blobHash ++
      (leBytes 2 record.numValues ++ (leBytes 4 record.size ++ (record.body ++ post))))) := by
    rw [h, ComponentRecord.encode, encodeComponentHeader]
    simp only [List.append_assoc]
  refine ⟨?_, ?_, ?_, ?_, ?_⟩
  · rintro component rfl
    have hsize : ∀ rest : List UInt8, buf.bytes = pre ++ rest →
        rest.length = buf.size - component.offset := by
      intro rest hrest
      rw [SettingsBuffer.size, hrest, List.length_append, hpre, Nat.add_sub_cancel_left]
    rw [SettingsBuffer.pName, read_of_bytes pre _ [] (by rw [List.append_nil]; exact hbytes) hpre
      (hsize _ hbytes), ofBytes_append record.terminated]
  · exact field_of_bytes (pre ++ record.nameField) _
      (by simpa only [List.append_assoc] using hbytes)
      (by rw [List.length_append, hpre, hname]) record.blobHash_lt
  · exact field_of_bytes (pre ++ record.nameField ++ leBytes 8 record.blobHash) _
      (by simpa only [List.append_assoc] using hbytes)
      (by simp only [List.length_append, length_leBytes, hpre, hname]) record.numValues_lt
  · exact field_of_bytes
      (pre ++ record.nameField ++ leBytes 8 record.blobHash ++ leBytes 2 record.numValues) _
      (by simpa only [List.append_assoc] using hbytes)
      (by simp only [List.length_append, length_leBytes, hpre, hname]) record.size_lt
  · refine ⟨pre ++ encodeComponentHeader record.nameField record.blobHash record.numValues
      record.size, post, ?_, ?_⟩
    · rw [h, ComponentRecord.encode]
      simp only [List.append_assoc]
    · rw [List.length_append, record.length_header, hpre]

theorem recordsAt_components {header : List UInt8} (records : List ComponentRecord)
    (hsizes : ∀ record ∈ records, record.size = record.encode.length)
    (h : buf.bytes = header ++ records.flatMap (·.encode))
    (hheader : header.length = kAllComponentsHeaderSize) :
    ∃ ps, RecordsAt buf.componentSize buf.size kAllComponentsHeaderSize ps ∧
      List.Forall₂ (ReadsAs buf) ps records := by
  obtain ⟨ps, hps, hall⟩ := RecordsAt.of_layout buf.bytes ComponentRecord.encode buf.componentSize
    buf.size 0 kAllComponentsHeaderSize records header [] (by rw [h, List.append_nil])
    (by rw [hheader, Nat.zero_add]) (by rw [SettingsBuffer.size, h, List.length_append, hheader])
    (by
      intro record hrecord
      refine ⟨by rw [record.length_encode]; exact Nat.add_pos_left (by decide) _, ?_⟩
      intro p pre post hbytes hpre
      rw [(ReadsAs.of_bytes hbytes (by rw [hpre, Nat.zero_add])).componentSize_eq,
        hsizes record hrecord])
  refine ⟨ps, hps, hall.imp ?_⟩
  rintro p record ⟨pre, post, hbytes, hpre⟩
  exact .of_bytes hbytes (by rw [hpre, Nat.zero_add])

theorem yields_components {header : List UInt8} (records : List ComponentRecord)
    (herror : buf.error = .success)
    (hsizes : ∀ record ∈ records, record.size = record.encode.length)
    (h : buf.bytes = header ++ records.flatMap (·.encode))
    (hheader : header.length = kAllComponentsHeaderSize) :
    ∃ components, Yields buf.nextComponent .zero components ∧
      List.Forall₂ (fun component record => component = buf.component component.offset ∧
        ReadsAs buf component.offset record) components records := by
  obtain ⟨ps, hps, hall⟩ := recordsAt_components records hsizes h hheader
  have hyields := ((yields_iff_recordsAt (by decide)).mpr hps).map
    (nextComponent_componentAt herror)
  refine ⟨_, hyields, ?_⟩
  rw [List.forall₂_map_left_iff]
  refine forall₂_imp_of_mem hall ?_
  intro p hp record _ hreads
  have hpos : p ≠ 0 := Nat.ne_of_gt (Nat.lt_of_lt_of_le (by decide) (hps.forall_le p hp))
  have hat : componentAt buf p = buf.component p := if_neg hpos
  rw [hat]
  exact ⟨rfl, hreads⟩

theorem error_of_header {numComponents : ℕ} (rest : List UInt8)
    (h : buf.bytes = encodeAllComponentsHeader numComponents ++ rest)
    (hpos : 0 < numComponents) (hlt : numComponents < 2 ^ 16) : buf.error = .success := by
  have hversion : buf.field 0 2 = 1 :=
    field_of_bytes [] (leBytes 2 numComponents ++ rest)
      (by rw [h, encodeAllComponentsHeader, List.append_assoc, List.nil_append]) rfl (by decide)
  have hcount : buf.field 2 2 = numComponents :=
    field_of_bytes (leBytes 2 1) rest
      (by rw [h, encodeAllComponentsHeader, List.append_assoc]) rfl hlt
  have hsize : ¬ buf.size < kAllComponentsHeaderSize := by
    rw [SettingsBuffer.size, h, List.length_append]
    exact Nat.not_lt.mpr (Nat.le_add_right 4 _)
  rw [SettingsBuffer.error, if_neg hsize, hcount, if_neg (Nat.ne_of_gt hpos), hversion,
    if_neg (Nat.lt_irrefl 1)]

/-! ## Values -/

def encodeRef (ref : SettingsValueRef) : List UInt8 := encodeValue ref.hash ref.type ref.value

theorem length_encodeRef (ref : SettingsValueRef) :
    (encodeRef ref).length = kValueHeaderSize + ref.value.length := by
  have hheader : kValueHeaderSize = 7 := rfl
  simp only [encodeRef, encodeValue, List.length_append, List.length_cons, length_leBytes]
  omega

theorem valueRef_of_bytes {ref : SettingsValueRef} (h : buf.bytes = pre ++ (encodeRef ref ++ post))
    (hpre : pre.length = offset) : buf.valueRef offset = ref := by
  have hbytes : buf.bytes = pre ++ (leBytes 4 ref.hash.toNat ++ ([ref.type] ++
      (leBytes 2 ref.value.length ++ (ref.value ++ post)))) := by
    rw [h, encodeRef, encodeValue]
    simp only [List.append_assoc, List.cons_append, List.nil_append]
  have hhash : buf.valueHash offset = ref.hash.toNat :=
    field_of_bytes pre _ hbytes hpre ref.hash.toNat_lt
  have htype : buf.valueType offset = ref.type.toNat := by
    have hread : buf.read (offset + 4) 1 = [ref.type] := read_of_bytes
      (pre ++ leBytes 4 ref.hash.toNat) [ref.type] _
      (by simpa only [List.append_assoc] using hbytes)
      (by rw [List.length_append, length_leBytes, hpre]) rfl
    rw [SettingsBuffer.valueType, SettingsBuffer.field, hread]
    show ref.type.toNat + 256 * 0 = _
    omega
  have hsize : buf.valueSize offset = ref.value.length :=
    field_of_bytes (pre ++ leBytes 4 ref.hash.toNat ++ [ref.type]) _
      (by simpa only [List.append_assoc] using hbytes)
      (by simp only [List.length_append, length_leBytes, hpre, List.length_singleton])
      ref.length_lt
  have hvalue : buf.read (offset + kValueHeaderSize) ref.value.length = ref.value :=
    read_of_bytes
      (pre ++ leBytes 4 ref.hash.toNat ++ [ref.type] ++ leBytes 2 ref.value.length) _ _
      (by simpa only [List.append_assoc] using hbytes)
      (by simp only [List.length_append, length_leBytes, hpre, List.length_singleton]; rfl) rfl
  cases ref
  simp only [SettingsBuffer.valueRef, SettingsValueRef.mk.injEq]
  refine ⟨?_, ?_, ?_⟩
  · rw [hhash, UInt32.ofNat_toNat]
  · rw [htype, UInt8.ofNat_toNat]
  · rw [hsize, hvalue]

theorem yields_values (component : SettingsComponent) (refs : List SettingsValueRef)
    (herror : buf.error = .success) (h : buf.bytes = pre ++ (refs.flatMap encodeRef ++ post))
    (hpre : pre.length = component.offset + kComponentHeaderSize)
    (hsize : buf.componentSize component.offset =
      kComponentHeaderSize + (refs.flatMap encodeRef).length) :
    ∃ values, Yields (buf.nextValue component) .zero values ∧
      values.map (·.valueRef) = refs := by
  obtain ⟨ps, hps, hall⟩ := RecordsAt.of_layout buf.bytes encodeRef
    (valueRecordSize buf component.offset) (buf.componentSize component.offset)
    component.offset kComponentHeaderSize refs pre post h hpre hsize (by
      intro ref _
      refine ⟨by rw [length_encodeRef]; exact Nat.add_pos_left (by decide) _, ?_⟩
      intro p pre post hbytes hpre
      have hread := valueRef_of_bytes hbytes hpre
      rw [length_encodeRef, ← hread, length_valueRef]
      rfl)
  have hyields := ((yields_iff_recordsAt (by decide)).mpr hps).map
    ((followsRecords_values herror).next_recordAt component)
  refine ⟨_, hyields, ?_⟩
  rw [List.map_map, ← List.forall₂_eq_eq_eq, List.forall₂_map_left_iff]
  refine forall₂_imp_of_mem hall ?_
  rintro p hp ref - ⟨pre, post, hbytes, hpre⟩
  have hpos : p ≠ 0 := Nat.ne_of_gt (Nat.lt_of_lt_of_le (by decide) (hps.forall_le p hp))
  rw [Function.comp_apply, valueAt, if_neg hpos]
  exact valueRef_of_bytes hbytes hpre

def encodeHash (hash : UInt32) : List UInt8 := leBytes kNameHashSize hash.toNat

theorem yields_experiments (component : SettingsComponent) (hashes : List UInt32)
    (herror : buf.error = .success) (h : buf.bytes = pre ++ (hashes.flatMap encodeHash ++ post))
    (hpre : pre.length = component.offset + kComponentHeaderSize)
    (hsize : buf.componentSize component.offset =
      kComponentHeaderSize + (hashes.flatMap encodeHash).length) :
    ∃ experiments, Yields (buf.nextUnsupportedExperiment component) .zero experiments ∧
      experiments.map (·.hash) = hashes := by
  obtain ⟨ps, hps, hall⟩ := RecordsAt.of_layout buf.bytes encodeHash
    (experimentRecordSize component.offset) (buf.componentSize component.offset)
    component.offset kComponentHeaderSize hashes pre post h hpre hsize (by
      intro hash _
      have hlength : (encodeHash hash).length = kNameHashSize := length_leBytes _ _
      rw [hlength]
      exact ⟨by decide, fun _ _ _ _ _ => rfl⟩)
  have hyields := ((yields_iff_recordsAt (by decide)).mpr hps).map
    ((followsRecords_experiments herror).next_recordAt component)
  refine ⟨_, hyields, ?_⟩
  rw [List.map_map, ← List.forall₂_eq_eq_eq, List.forall₂_map_left_iff]
  refine forall₂_imp_of_mem hall ?_
  rintro p hp hash - ⟨pre, post, hbytes, hpre⟩
  have hpos : p ≠ 0 := Nat.ne_of_gt (Nat.lt_of_lt_of_le (by decide) (hps.forall_le p hp))
  have hfield : buf.field (component.offset + p) kNameHashSize = hash.toNat :=
    field_of_bytes pre post hbytes hpre hash.toNat_lt
  rw [Function.comp_apply, experimentAt, if_neg hpos]
  show UInt32.ofNat (buf.field (component.offset + p) kNameHashSize) = hash
  rw [hfield, UInt32.ofNat_toNat]

end SettingsRecords

end DevDriver.Analysis
