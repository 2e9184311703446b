import DevDriver.Model.PipelineRecords

/-!
# What pipeline records are read back as

`Reads` says which records an iterator produces of some bytes, the result that it ends with and what
it leaves.
-/

namespace DevDriver.Analysis

namespace PipelineRecords

open Library Model PipelineRecordsIterator PipelineRecordHeader

theorem leBytes_leNat (bytes : List UInt8) : leBytes bytes.length (leNat bytes) = bytes := by
  induction bytes with
  | nil => rfl
  | cons b bs ih =>
    have hb := b.toNat_lt
    have hdiv : (b.toNat + 256 * leNat bs) / 256 = leNat bs := by omega
    have hlow : UInt8.ofNat (b.toNat + 256 * leNat bs) = b := by
      apply UInt8.toNat_inj.mp
      rw [UInt8.toNat_ofNat']
      omega
    rw [List.length_cons, leNat, leBytes, hdiv, ih, hlow]

theorem length_bytes (header : PipelineRecordHeader) : header.bytes.length = 24 := by
  simp [PipelineRecordHeader.bytes]

theorem ofBytes_bytes (header : PipelineRecordHeader) : .ofBytes header.bytes = header := by
  have hqword : ∀ q : UInt64, UInt64.ofNat (leNat (leBytes 8 q.toNat)) = q := by
    intro q
    rw [leNat_leBytes_of_lt q.toNat_lt, UInt64.ofNat_toNat]
  have hparts : ∀ a b c : List UInt8, a.length = 8 → b.length = 8 → c.length = 8 →
      slice (a ++ b ++ c) 0 8 = a ∧ slice (a ++ b ++ c) 8 8 = b ∧ slice (a ++ b ++ c) 16 8 = c := by
    intro a b c ha hb hc
    simp [slice, List.drop_append, ha, hb, hc, List.take_of_length_le,
      List.drop_eq_nil_of_le]
  obtain ⟨h0, h1, h2⟩ := hparts _ _ _ (length_leBytes 8 header.hash.qword0.toNat)
    (length_leBytes 8 header.hash.qword1.toNat) (length_leBytes 8 header.size.toNat)
  rw [ofBytes, PipelineRecordHeader.bytes, h0, h1, h2, hqword, hqword, hqword]

theorem bytes_ofBytes {bytes : List UInt8} (h : bytes.length = 24) :
    (ofBytes bytes).bytes = bytes := by
  have hqword : ∀ offset, offset + 8 ≤ 24 →
      leBytes 8 (UInt64.ofNat (leNat (slice bytes offset 8))).toNat = slice bytes offset 8 := by
    intro offset hoffset
    have hlength : (slice bytes offset 8).length = 8 := length_slice (by omega)
    have hlt := leNat_lt (slice bytes offset 8)
    rw [hlength] at hlt
    rw [UInt64.toNat_ofNat_of_lt' hlt]
    have hback := leBytes_leNat (slice bytes offset 8)
    rwa [hlength] at hback
  have hall : slice bytes 0 8 ++ slice bytes 8 8 ++ slice bytes 16 8 = bytes := by
    rw [← slice_add bytes 0, ← slice_add bytes 0]
    show (bytes.drop 0).take 24 = bytes
    rw [List.drop_zero, List.take_of_length_le (by omega)]
  rw [PipelineRecordHeader.bytes]
  show leBytes 8 (UInt64.ofNat _).toNat ++ leBytes 8 (UInt64.ofNat _).toNat ++
    leBytes 8 (UInt64.ofNat _).toNat = _
  rw [hqword 0 (by omega), hqword 8 (by omega), hqword 16 (by omega), hall]

/-! ## Reading a record -/

def recordBytes (record : PipelineRecord) : List UInt8 :=
  record.header.bytes ++ record.pBinary.getD []

def WellFormed (record : PipelineRecord) : Prop :=
  ∃ binary, record.pBinary = some binary ∧ binary.length = record.header.size.toNat

def readRecord (bytes : List UInt8) : Except Result (PipelineRecord × List UInt8) :=
  let header := ofBytes (bytes.take 24)
  let size := header.size.toNat
  if bytes.length = 0 then .error .endOfStream
  else if bytes.length < 24 then .error .error
  else if size = 0 then .error .invalidParameter
  else if 24 + size ≤ bytes.length then
    .ok (⟨header, some ((bytes.drop 24).take size)⟩, (bytes.drop 24).drop size)
  else .error .error

theorem next_eq (record : PipelineRecord) (bytes : List UInt8) :
    match readRecord bytes with
    | .ok (r, rest) => next ⟨record, bytes, .success⟩ = ⟨r, rest, .success⟩
    | .error e => (next ⟨record, bytes, .success⟩).lastResult = e ∧ e ≠ .success := by
  unfold readRecord next
  by_cases hempty : bytes.length = 0
  · simp [hempty]
  by_cases hshort : bytes.length < 24
  · have hread : byteReaderGetBytes bytes 24 = (.error, [], bytes) := by
      rw [byteReaderGetBytes, if_pos (by decide), if_neg (by omega)]
    simp [hempty, hshort, hread]
  have hread : byteReaderGetBytes bytes 24 = (.success, bytes.take 24, bytes.drop 24) := by
    rw [byteReaderGetBytes, if_pos (by decide), if_pos (by omega)]
  simp only [hempty, hshort, hread, ne_eq, not_false_eq_true, if_true, if_false]
  generalize ofBytes (bytes.take 24) = header
  by_cases hzero : header.size.toNat = 0
  · simp [hzero, byteReaderGetBytes, Result.invalidParameter]
  · have hdrop : (bytes.drop 24).length = bytes.length - 24 := List.length_drop
    by_cases hfits : 24 + header.size.toNat ≤ bytes.length
    · have hbinary : byteReaderGetBytes (bytes.drop 24) header.size.toNat = (.success,
          (bytes.drop 24).take header.size.toNat, (bytes.drop 24).drop header.size.toNat) := by
        rw [byteReaderGetBytes, if_pos (Nat.pos_of_ne_zero hzero), if_pos (by omega)]
      simp [hbinary, hzero, hfits]
    · have hbinary : byteReaderGetBytes (bytes.drop 24) header.size.toNat =
          (.error, [], bytes.drop 24) := by
        rw [byteReaderGetBytes, if_pos (Nat.pos_of_ne_zero hzero), if_neg (by omega)]
      simp [hbinary, hzero, hfits]

theorem readRecord_ok {bytes rest : List UInt8} {r : PipelineRecord}
    (h : readRecord bytes = .ok (r, rest)) :
    WellFormed r ∧ 0 < r.header.size.toNat ∧ bytes = recordBytes r ++ rest := by
  unfold readRecord at h
  dsimp only at h
  split at h
  · cases h
  split at h
  · cases h
  rename_i hlong
  split at h
  · cases h
  rename_i hpos
  split at h
  · rename_i hfits
    cases h
    have hheader : (bytes.take 24).length = 24 := List.length_take_of_le (by omega)
    refine ⟨⟨_, rfl, ?_⟩, Nat.pos_of_ne_zero hpos, ?_⟩
    · rw [List.length_take_of_le]
      rw [List.length_drop]
      omega
    · rw [recordBytes, bytes_ofBytes hheader, Option.getD_some, List.append_assoc,
        List.take_append_drop, List.take_append_drop]
  · cases h

theorem readRecord_recordBytes {r : PipelineRecord} (h : WellFormed r) (rest : List UInt8) :
    readRecord (recordBytes r ++ rest) =
      if r.header.size.toNat = 0 then .error .invalidParameter else .ok (r, rest) := by
  obtain ⟨⟨header, pBinary⟩, binary, rfl, hlength⟩ := r, h
  have hbytes : recordBytes ⟨header, some binary⟩ ++ rest = header.bytes ++ (binary ++ rest) :=
    List.append_assoc ..
  have htake : (header.bytes ++ (binary ++ rest)).take 24 = header.bytes :=
    List.take_left' (length_bytes header)
  have hdrop : (header.bytes ++ (binary ++ rest)).drop 24 = binary ++ rest :=
    List.drop_left' (length_bytes header)
  have hsize : (header.bytes ++ (binary ++ rest)).length =
      24 + (header.size.toNat + rest.length) := by
    rw [List.length_append, List.length_append, length_bytes, hlength]
  unfold readRecord
  rw [hbytes, htake, hdrop, ofBytes_bytes, hsize, if_neg (by omega), if_neg (by omega)]
  split
  · rfl
  · rw [if_pos (by omega), List.take_left' hlength, List.drop_left' hlength]

theorem readRecord_endOfStream {bytes : List UInt8} :
    readRecord bytes = .error .endOfStream ↔ bytes = [] := by
  constructor
  · intro h
    unfold readRecord at h
    dsimp only at h
    split at h
    · exact List.eq_nil_of_length_eq_zero ‹_›
    · split_ifs at h <;> cases h
  · rintro rfl
    rfl

inductive Reads : List UInt8 → List PipelineRecord → Result → List UInt8 → Prop where
  | done {bytes : List UInt8} {e : Result} (h : readRecord bytes = .error e) :
    Reads bytes [] e bytes
  | more {bytes rest left : List UInt8} {r : PipelineRecord} {rs : List PipelineRecord} {e : Result}
      (h : readRecord bytes = .ok (r, rest)) (hrest : Reads rest rs e left) :
      Reads bytes (r :: rs) e left

theorem exists_reads (bytes : List UInt8) : ∃ rs e left, Reads bytes rs e left := by
  induction hn : bytes.length using Nat.strong_induction_on generalizing bytes with
  | _ n ih =>
    cases hread : readRecord bytes with
    | error e => exact ⟨[], e, bytes, .done hread⟩
    | ok p =>
      obtain ⟨r, rest⟩ := p
      obtain ⟨-, -, hbytes⟩ := readRecord_ok hread
      have hlength := congrArg List.length hbytes
      rw [List.length_append, recordBytes, List.length_append, length_bytes] at hlength
      obtain ⟨rs, e, left, hreads⟩ := ih rest.length (by omega) rest rfl
      exact ⟨r :: rs, e, left, .more hread hreads⟩

variable {bytes left : List UInt8} {rs : List PipelineRecord} {e : Result}

theorem iterate_of_failed {it : PipelineRecordsIterator} (h : it.lastResult ≠ .success) (k : ℕ) :
    next^[k] it = it := by
  apply Function.iterate_fixed
  simp [next, h]

/-- What an iterator produces that has the bytes still before it. -/
theorem Reads.iterate (h : Reads bytes rs e left) (record : PipelineRecord) (k : ℕ) :
    get (next^[k] (next ⟨record, bytes, .success⟩)) = rs[k]? ∧
      (rs.length ≤ k → (next^[k] (next ⟨record, bytes, .success⟩)).lastResult = e) := by
  induction h generalizing record k with
  | @done bytes e hread =>
    have hnext := next_eq record bytes
    rw [hread] at hnext
    have hfailed : (next ⟨record, bytes, .success⟩).lastResult ≠ .success := by
      rw [hnext.1]
      exact hnext.2
    rw [iterate_of_failed hfailed]
    exact ⟨if_neg hfailed, fun _ => hnext.1⟩
  | @more bytes rest left r rs e hread _ ih =>
    have hnext := next_eq record bytes
    rw [hread] at hnext
    rw [hnext]
    cases k with
    | zero => exact ⟨rfl, fun hlength => absurd hlength (Nat.not_succ_le_zero _)⟩
    | succ k =>
      rw [Function.iterate_succ_apply]
      exact ⟨(ih r k).1, fun hlength => (ih r k).2 (Nat.le_of_succ_le_succ hlength)⟩

theorem Reads.spec (h : Reads bytes rs e left) :
    bytes = rs.flatMap recordBytes ++ left ∧
      (∀ r ∈ rs, WellFormed r ∧ 0 < r.header.size.toNat) ∧ (e = .endOfStream ↔ left = []) := by
  induction h with
  | @done bytes e hread =>
    refine ⟨rfl, nofun, ?_⟩
    rw [← readRecord_endOfStream, hread, Except.error.injEq]
  | @more bytes rest left r rs e hread _ ih =>
    obtain ⟨hrest, hrecords, hend⟩ := ih
    obtain ⟨hformed, hpos, hbytes⟩ := readRecord_ok hread
    refine ⟨?_, List.forall_mem_cons.mpr ⟨⟨hformed, hpos⟩, hrecords⟩, hend⟩
    rw [List.flatMap_cons, List.append_assoc, ← hrest]
    exact hbytes

/-- Records that were written one after another are read up to the first empty one. -/
theorem reads_flatMap (h : ∀ r ∈ rs, WellFormed r) :
    (∀ r ∈ rs, 0 < r.header.size.toNat) ∧ Reads (rs.flatMap recordBytes) rs .endOfStream [] ∨
    (∃ r ∈ rs, r.header.size.toNat = 0) ∧
      ∃ rs' left, Reads (rs.flatMap recordBytes) rs' .invalidParameter left := by
  induction rs with
  | nil => exact .inl ⟨nofun, .done rfl⟩
  | cons r rs ih =>
    rw [List.forall_mem_cons] at h
    have hread := readRecord_recordBytes h.1 (rs.flatMap recordBytes)
    rw [List.flatMap_cons]
    by_cases hzero : r.header.size.toNat = 0
    · rw [if_pos hzero] at hread
      exact .inr ⟨⟨r, List.mem_cons_self, hzero⟩, [], _, .done hread⟩
    · rw [if_neg hzero] at hread
      rcases ih h.2 with ⟨hpos, hreads⟩ | ⟨⟨r', hmem, hempty⟩, rs', left, hreads⟩
      · exact .inl ⟨List.forall_mem_cons.mpr ⟨Nat.pos_of_ne_zero hzero, hpos⟩, .more hread hreads⟩
      · exact .inr ⟨⟨r', List.mem_cons_of_mem _ hmem, hempty⟩, _, _, .more hread hreads⟩

def iterator (blob : List UInt8) (k : ℕ) : PipelineRecordsIterator := next^[k] (.new blob)

/-- The records that were added are read back, and nothing else. -/
structure RoundTrips (rs : List PipelineRecord) : Prop where
  records : ∀ k, (iterator (rs.flatMap addPipeline) k).get = rs[k]?
  ends : (iterator (rs.flatMap addPipeline) rs.length).lastResult = .endOfStream

/-- A record that is written as it is given, and read. -/
structure Writable (r : PipelineRecord) : Prop where
  size_pos : 0 < r.header.size.toNat
  binary : r.pBinary ≠ none
  size_lt : r.header.size.toNat < 2 ^ 32

theorem addPipeline_of_pos {r : PipelineRecord} (hformed : WellFormed r)
    (hpos : 0 < r.header.size.toNat) :
    addPipeline r =
      r.header.bytes ++ (r.pBinary.getD []).take (r.header.size.toNat % 2 ^ 32) := by
  obtain ⟨binary, hbinary, -⟩ := hformed
  have hwritten : r.header.size > 0 ∧ r.pBinary ≠ none := by
    rw [hbinary]
    exact ⟨UInt64.lt_iff_toNat_lt.mpr hpos, nofun⟩
  rw [addPipeline, if_pos hwritten, UInt64.toNat_toUInt32]

theorem length_flatMap_le {α β : Type} {f g : α → List β} {l : List α}
    (hle : ∀ x ∈ l, (f x).length ≤ (g x).length) :
    (l.flatMap f).length ≤ (l.flatMap g).length := by
  induction l with
  | nil => exact Nat.le_refl _
  | cons x l ih =>
    rw [List.forall_mem_cons] at hle
    rw [List.flatMap_cons, List.flatMap_cons, List.length_append, List.length_append]
    exact Nat.add_le_add hle.1 (ih hle.2)

theorem length_eq_of_flatMap {α β : Type} {f g : α → List β} {l : List α}
    (hle : ∀ x ∈ l, (f x).length ≤ (g x).length)
    (h : (l.flatMap g).length ≤ (l.flatMap f).length) :
    ∀ x ∈ l, (f x).length = (g x).length := by
  induction l with
  | nil => exact nofun
  | cons x l ih =>
    rw [List.forall_mem_cons] at hle ⊢
    have hrest := length_flatMap_le hle.2
    rw [List.flatMap_cons, List.flatMap_cons, List.length_append, List.length_append] at h
    exact ⟨by omega, ih hle.2 (by omega)⟩

theorem roundTrips_iff
    (hrs : ∀ r ∈ rs, ∀ binary, r.pBinary = some binary → binary.length = r.header.size.toNat) :
    RoundTrips rs ↔ ∀ r ∈ rs, Writable r := by
  constructor
  · intro h
    obtain ⟨rs', e, left, hreads⟩ := exists_reads (rs.flatMap addPipeline)
    have hsame : rs' = rs := List.ext_getElem? fun k =>
      (hreads.iterate _ k).1.symm.trans (h.records k)
    obtain ⟨hbytes, hformed, -⟩ := hreads.spec
    rw [hsame] at hbytes hformed
    have hlength : ∀ r ∈ rs, (addPipeline r).length =
        24 + min (r.header.size.toNat % 2 ^ 32) r.header.size.toNat ∧
          (recordBytes r).length = 24 + r.header.size.toNat := by
      intro r hmem
      obtain ⟨⟨binary, hbinary, hsize⟩, hpos⟩ := hformed r hmem
      rw [addPipeline_of_pos ⟨binary, hbinary, hsize⟩ hpos, recordBytes, hbinary, Option.getD_some,
        List.length_append, List.length_append, length_bytes, List.length_take, hsize]
      exact ⟨rfl, rfl⟩
    have hequal := length_eq_of_flatMap (f := addPipeline) (g := recordBytes) (l := rs)
      (fun r hmem => by have := hlength r hmem; omega)
      (by rw [hbytes, List.length_append]; exact Nat.le_add_right _ _)
    intro r hmem
    obtain ⟨⟨binary, hbinary, -⟩, hpos⟩ := hformed r hmem
    refine ⟨hpos, by rw [hbinary]; nofun, ?_⟩
    have hone := hequal r hmem
    rw [(hlength r hmem).1, (hlength r hmem).2] at hone
    have hmod := Nat.mod_lt r.header.size.toNat (show 0 < 2 ^ 32 by decide)
    omega
  · intro h
    have hformed : ∀ r ∈ rs, WellFormed r := by
      intro r hmem
      obtain ⟨binary, hbinary⟩ := Option.ne_none_iff_exists'.mp (h r hmem).binary
      exact ⟨binary, hbinary, hrs r hmem binary hbinary⟩
    have hwritten : rs.flatMap addPipeline = rs.flatMap recordBytes := by
      apply List.flatMap_congr
      intro r hmem
      obtain ⟨binary, hbinary, hsize⟩ := hformed r hmem
      rw [addPipeline_of_pos ⟨binary, hbinary, hsize⟩ (h r hmem).size_pos, recordBytes, hbinary,
        Option.getD_some, Nat.mod_eq_of_lt (h r hmem).size_lt, List.take_of_length_le hsize.le]
    rcases reads_flatMap hformed with ⟨-, hreads⟩ | ⟨⟨r, hmem, hzero⟩, -⟩
    · rw [← hwritten] at hreads
      exact ⟨fun k => (hreads.iterate _ k).1, (hreads.iterate _ _).2 (Nat.le_refl _)⟩
    · exact absurd hzero (Nat.ne_of_gt (h r hmem).size_pos)

/-! ## Arbitrary blobs -/

/-- An exact concatenation of records. -/
def IsConcatenation (blob : List UInt8) (rs : List PipelineRecord) : Prop :=
  (∀ r ∈ rs, WellFormed r) ∧ blob = rs.flatMap recordBytes

/-- What is asked of an iterator over any blob. -/
structure Harmless (blob : List UInt8) : Prop where
  inside : ∀ k r, (iterator blob k).get = some r →
    WellFormed r ∧ ∃ before after, blob = before ++ recordBytes r ++ after
  finite : ∃ k, (iterator blob k).get = none
  exhausted : ∀ k, (iterator blob k).get = none → ∀ m, k ≤ m → (iterator blob m).get = none
  endOfStream : ∀ k, (iterator blob k).get = none →
    ((iterator blob k).lastResult = .endOfStream ↔ ∃ rs, IsConcatenation blob rs)

theorem harmless_iff (blob : List UInt8) :
    Harmless blob ↔ ¬ ∃ rs, IsConcatenation blob rs ∧ ∃ r ∈ rs, r.header.size.toNat = 0 := by
  obtain ⟨rs, e, left, hreads⟩ := exists_reads blob
  obtain ⟨hbytes, hformed, hend⟩ := hreads.spec
  have hget : ∀ k, (iterator blob k).get = rs[k]? := fun k => (hreads.iterate _ k).1
  have hlast : ∀ k, rs.length ≤ k → (iterator blob k).lastResult = e :=
    fun k => (hreads.iterate _ k).2
  have hresult : ∀ {rs' e' left'}, Reads blob rs' e' left' → e = e' := by
    intro rs' e' left' hreads'
    have hlater := (hreads'.iterate ⟨⟨⟨0, 0⟩, 0⟩, none⟩ (rs.length + rs'.length)).2
      (Nat.le_add_left _ _)
    exact (hlast _ (Nat.le_add_right _ _)).symm.trans hlater
  constructor
  · rintro hharmless ⟨rs', hconcat, hempty⟩
    have hnone : (iterator blob rs.length).get = none := by
      rw [hget, List.getElem?_eq_none (Nat.le_refl _)]
    have heos := (hharmless.endOfStream _ hnone).mpr ⟨rs', hconcat⟩
    rw [hlast _ (Nat.le_refl _)] at heos
    rcases reads_flatMap hconcat.1 with ⟨hpos, -⟩ | ⟨-, rs'', left', hinvalid⟩
    · obtain ⟨r, hmem, hzero⟩ := hempty
      exact Nat.ne_of_gt (hpos r hmem) hzero
    · rw [← hconcat.2] at hinvalid
      exact absurd (heos.symm.trans (hresult hinvalid)) nofun
  · intro hnonempty
    refine ⟨?_, ⟨rs.length, ?_⟩, ?_, ?_⟩
    · intro k r hk
      rw [hget] at hk
      obtain ⟨before, after, hsplit⟩ := List.append_of_mem (List.mem_of_getElem? hk)
      refine ⟨(hformed r (List.mem_of_getElem? hk)).1, before.flatMap recordBytes,
        after.flatMap recordBytes ++ left, ?_⟩
      rw [hbytes, hsplit, List.flatMap_append, List.flatMap_cons]
      simp
    · rw [hget, List.getElem?_eq_none (Nat.le_refl _)]
    · intro k hk m hm
      rw [hget, List.getElem?_eq_none_iff] at hk ⊢
      exact hk.trans hm
    · intro k hk
      rw [hget, List.getElem?_eq_none_iff] at hk
      rw [hlast k hk, hend]
      constructor
      · rintro rfl
        exact ⟨rs, fun r hmem => (hformed r hmem).1, by rw [hbytes, List.append_nil]⟩
      · rintro ⟨rs', hconcat⟩
        rcases reads_flatMap hconcat.1 with ⟨-, hreads'⟩ | ⟨hempty, -⟩
        · rw [← hconcat.2] at hreads'
          exact hend.mp (hresult hreads')
        · exact absurd ⟨rs', hconcat, hempty⟩ hnonempty

/-- Records round trip where the writer keeps them and the reader takes them, and a blob is read as
it should unless it is a concatenation with an empty record. -/
theorem pipelineRecords_iff
    (hrs : ∀ r ∈ rs, ∀ binary, r.pBinary = some binary → binary.length = r.header.size.toNat)
    (blob : List UInt8) :
    (RoundTrips rs ↔ ∀ r ∈ rs, Writable r) ∧
    (Harmless blob ↔ ¬ ∃ rs, IsConcatenation blob rs ∧ ∃ r ∈ rs, r.header.size.toNat = 0) :=
  ⟨roundTrips_iff hrs, harmless_iff blob⟩

theorem pipelineRecords_iff_two :
    RoundTrips [⟨⟨⟨1, 2⟩, 1⟩, some [7]⟩, ⟨⟨⟨3, 4⟩, 2⟩, some [8, 9]⟩] ∧ Harmless [1, 2, 3] := by
  have hboth := @pipelineRecords_iff [⟨⟨⟨1, 2⟩, 1⟩, some [7]⟩, ⟨⟨⟨3, 4⟩, 2⟩, some [8, 9]⟩]
    (by simp) [1, 2, 3]
  refine ⟨hboth.1.mpr (List.forall_mem_cons.mpr ⟨⟨by decide, nofun, by decide⟩,
    List.forall_mem_singleton.mpr ⟨by decide, nofun, by decide⟩⟩), hboth.2.mpr ?_⟩
  rintro ⟨rs, ⟨-, hblob⟩, r, hmem, -⟩
  have hle : 24 ≤ (rs.flatMap recordBytes).length := by
    obtain ⟨before, after, rfl⟩ := List.append_of_mem hmem
    simp [recordBytes, length_bytes]
    omega
  rw [← hblob] at hle
  exact absurd hle (by decide)

/-- A null binary: the record behind it is read as its binary. -/
theorem not_roundTrips : ¬ ∀ rs : List PipelineRecord,
    (∀ r ∈ rs, ∀ binary, r.pBinary = some binary → binary.length = r.header.size.toNat) →
    RoundTrips rs := by
  intro hall
  have h := hall [⟨⟨⟨1, 2⟩, 25⟩, none⟩, ⟨⟨⟨3, 4⟩, 1⟩, some [7]⟩] (by decide)
  have hfirst := h.records 0
  exact absurd hfirst (by decide +kernel)

end PipelineRecords

end DevDriver.Analysis
