import DevDriver.Analysis.RpcCleanup
import DevDriver.Model.DataStreams

/-!
# What becomes of recorded streams

A transfer hands on a prefix of the file and ends with all of it or with an error; the position that
it goes back to is the old one cut to 32 bits.
-/

namespace DevDriver.Analysis

namespace DataStreams

open Library Model

/-! ## Transfers -/

/-- The transfer of the first `totalDataSize` bytes of a file. -/
structure Transferred (file : StreamFile) (totalDataSize : ℕ) (t : Transfer) : Prop where
  isPrefix : t.written <+: file.bytes.take totalDataSize
  complete : t.result = .success →
    t.written = file.bytes.take totalDataSize ∧ t.written.length = totalDataSize
  /-- the bytes of the file and its position are those from before the transfer -/
  restored : t.file = file

theorem transferFileData_cases (transferSize : ℕ) (file : StreamFile) (answer : TransferAnswer) :
    (transferFileData transferSize file answer).file.bytes = file.bytes ∧
    ((transferFileData transferSize file answer).result ≠ .success ∧
        (transferFileData transferSize file answer).written = [] ∨
      (transferFileData transferSize file answer).result = .success ∧
        (transferFileData transferSize file answer).written =
          slice file.bytes file.position transferSize ∧
        (slice file.bytes file.position transferSize).length = transferSize ∧
        (transferFileData transferSize file answer).file.position =
          file.position + transferSize) := by
  unfold transferFileData
  dsimp only
  split
  · rename_i hall
    refine ⟨rfl, ?_⟩
    have hcount : min transferSize answer.limit = transferSize := by
      have hle := (List.length_take_le ..).trans' (Nat.le_of_eq hall.symm)
      omega
    simp only [StreamFile.fread, hcount] at hall ⊢
    by_cases hwrite : rdfResultToDDResult answer.write = .success
    · exact .inr ⟨hwrite, if_pos hwrite, hall, by rw [hall]⟩
    · exact .inl ⟨hwrite, if_neg hwrite⟩
  · exact ⟨rfl, .inl ⟨nofun, rfl⟩⟩

theorem transferLoop_spec (scratchBufferSize : { n : ℕ // 1 < n }) (answers : ℕ → TransferAnswer)
    (bytesRemaining : ℕ) (file : StreamFile) (i : ℕ) :
    let t := transferLoop scratchBufferSize answers bytesRemaining file i
    t.written <+: slice file.bytes file.position bytesRemaining ∧
      (t.result = .success → t.written = slice file.bytes file.position bytesRemaining ∧
        t.written.length = bytesRemaining) ∧
      t.file.bytes = file.bytes := by
  fun_induction transferLoop scratchBufferSize answers bytesRemaining file i with
  | case1 bytesRemaining file i hremaining transferSize t hsuccess rest ih =>
    obtain ⟨hbytes, hcases⟩ := transferFileData_cases transferSize file (answers i)
    rcases hcases with ⟨hfailed, -⟩ | ⟨-, hwritten, hlength, hposition⟩
    · exact absurd hsuccess hfailed
    · obtain ⟨hfront, hcomplete, hrest⟩ := ih
      have hsplit : slice file.bytes file.position bytesRemaining =
          t.written ++ slice t.file.bytes t.file.position (bytesRemaining - transferSize) := by
        rw [hwritten, hbytes, hposition, ← slice_add]
        congr 1
        omega
      refine ⟨?_, ?_, hrest.trans hbytes⟩
      · rw [hsplit]
        exact (List.prefix_append_right_inj _).mpr hfront
      · intro hall
        obtain ⟨hdata, hsize⟩ := hcomplete hall
        refine ⟨?_, ?_⟩
        · rw [hsplit, ← hdata]
        · show (t.written ++ rest.written).length = _
          rw [List.length_append, hsize, hwritten, hlength]
          omega
  | case2 bytesRemaining file i hremaining transferSize t hfailed =>
    obtain ⟨hbytes, hcases⟩ := transferFileData_cases transferSize file (answers i)
    rcases hcases with ⟨-, hwritten⟩ | ⟨hsuccess, -⟩
    · refine ⟨?_, fun hsuccess => absurd hsuccess hfailed, hbytes⟩
      rw [hwritten]
      exact List.nil_prefix
    · exact absurd hsuccess hfailed
  | case3 bytesRemaining file i hdone =>
    obtain rfl := Nat.eq_zero_of_not_pos hdone
    exact ⟨List.nil_prefix, fun _ => ⟨rfl, rfl⟩, rfl⟩

/-- A transfer that only goes wrong where the position does. -/
theorem transferred_iff_position {file : StreamFile} {totalDataSize : ℕ} {t : Transfer}
    (hfront : t.written <+: file.bytes.take totalDataSize)
    (hcomplete : t.result = .success →
      t.written = file.bytes.take totalDataSize ∧ t.written.length = totalDataSize)
    (hbytes : t.file.bytes = file.bytes) (hposition : t.file.position = file.currPosition) :
    Transferred file totalDataSize t ↔ file.position < 2 ^ 32 := by
  have hsame : t.file = file ↔ file.position < 2 ^ 32 := by
    constructor
    · intro h
      rw [← h, hposition]
      exact Nat.mod_lt _ (by decide)
    · intro h
      obtain ⟨result, ⟨bytes, position⟩, written⟩ := t
      cases hbytes
      cases hposition
      show StreamFile.mk _ (file.position % 2 ^ 32) = file
      rw [Nat.mod_eq_of_lt h]
  exact ⟨fun h => hsame.mp h.restored, fun h => ⟨hfront, hcomplete, hsame.mpr h⟩⟩

theorem transferred_rmt_iff (scratchBufferSize : { n : ℕ // 1 < n })
    (answers : ℕ → TransferAnswer) (file : StreamFile) (totalDataSize : ℕ) :
    Transferred file totalDataSize
      (RmtEventTracer.transferDataStream scratchBufferSize answers file totalDataSize) ↔
      file.position < 2 ^ 32 := by
  obtain ⟨hfront, hcomplete, hbytes⟩ :=
    transferLoop_spec scratchBufferSize answers totalDataSize { file with position := 0 } 0
  exact transferred_iff_position hfront hcomplete hbytes rfl

theorem transferred_rdf_iff (malloc : Bool) (beginChunk endChunk : RdfResult)
    (answers : ℕ → TransferAnswer) (file : StreamFile) (totalDataSize : ℤ) :
    Transferred file totalDataSize.toNat (RdfEventStreamer.transferDataStream malloc beginChunk
      endChunk answers file totalDataSize) ↔
      (malloc = true → 0 < totalDataSize → file.position < 2 ^ 32) := by
  unfold RdfEventStreamer.transferDataStream
  by_cases hmalloc : malloc = true
  · rw [if_pos hmalloc]
    by_cases hpos : 0 < totalDataSize
    · rw [if_pos hpos]
      obtain ⟨hfront, hcomplete, hbytes⟩ := transferLoop_spec kTransferBufferSize answers
        totalDataSize.toNat { file with position := 0 } 0
      have hsame : file.position < 2 ^ 32 ↔
          (malloc = true → 0 < totalDataSize → file.position < 2 ^ 32) :=
        ⟨fun h _ _ => h, fun h => h hmalloc hpos⟩
      refine Iff.trans ?_ hsame
      dsimp only
      by_cases hbegin : rdfResultToDDResult beginChunk = .success
      · rw [if_pos hbegin]
        refine transferred_iff_position hfront ?_ hbytes rfl
        intro hall
        split at hall
        · rename_i hsuccess
          exact hcomplete hsuccess
        · rename_i hfailed
          exact absurd hall hfailed
      · rw [if_neg hbegin]
        refine transferred_iff_position List.nil_prefix ?_ rfl rfl
        rw [if_neg hbegin]
        exact fun hall => absurd hall hbegin
    · rw [if_neg hpos]
      have hzero : totalDataSize.toNat = 0 := by omega
      rw [hzero]
      exact iff_of_true ⟨List.nil_prefix, fun _ => ⟨rfl, rfl⟩, rfl⟩
        fun _ h => absurd h hpos
  · rw [if_neg hmalloc]
    exact iff_of_true ⟨List.nil_prefix, nofun, rfl⟩ fun h => absurd h hmalloc

variable {files : FileStates} {tracer : RmtEventTracer}

def finished (files : FileStates) (stream : TraceDataStream) : TraceDataStream :=
  { stream with totalDataSize := files.ftell stream.pFileHandle }

/-- The end of a trace does not fail on the end iterator, keeps the streams without errors, with
their sizes, closes the files of the others, and keeps the places of the streams it leaves. -/
def Processed (files : FileStates) (tracer : RmtEventTracer)
    (r : Option (DDResult × RmtEventTracer × List ℕ)) : Prop :=
  ∃ (result : DDResult) (tracer' : RmtEventTracer) (closed : List ℕ),
    r = some (result, tracer', closed) ∧
    tracer'.dataStreams.Perm ((tracer.dataStreams.filter fun stream =>
      files.ferror stream.pFileHandle = false).map (finished files)) ∧
    (∀ stream ∈ tracer.dataStreams, files.ferror stream.pFileHandle = true →
      stream.pFileHandle ∈ closed) ∧
    ∀ (i : ℕ) (stream' : TraceDataStream), tracer'.dataStreams[i]? = some stream' →
      ∃ stream, tracer.dataStreams[i]? = some stream ∧ stream' = finished files stream

/-- The loop over streams without errors, of which it has gone over those that are finished. -/
theorem endTraceLoop_eq (n : ℕ) (result : DDResult) : ∀ passed rest : List TraceDataStream,
    rest.length < n → (∀ stream ∈ rest, files.ferror stream.pFileHandle = false) →
    endTraceLoop files n (.create (passed ++ rest) passed.length) (passed ++ rest) result =
      some (passed ++ rest.map (finished files), result) := by
  induction n with
  | zero => exact fun _ _ h => absurd h (Nat.not_lt_zero _)
  | succ n ih =>
    intro passed rest hn hgood
    cases rest with
    | nil => rw [VectorIterator.create, if_neg (by simp), endTraceLoop, if_neg (not_not.mpr rfl),
        List.map_nil]
    | cons stream rest =>
      rw [List.forall_mem_cons] at hgood
      have hcreate : VectorIterator.create (passed ++ stream :: rest) passed.length =
          ⟨true, passed.length⟩ := by
        simp [VectorIterator.create]
      have hset : (passed ++ stream :: rest).set passed.length (finished files stream) =
          passed ++ finished files stream :: rest := by
        rw [List.set_append_right _ _ (Nat.le_refl _), Nat.sub_self, List.set_cons_zero]
      have hnext := next_passed passed rest (finished files stream)
      have hlength : passed.length + 1 = (passed ++ [finished files stream]).length := by simp
      rw [hcreate, endTraceLoop, if_pos (by intro h; cases h), get?_passed, Option.bind_some,
        if_pos hgood.1]
      show endTraceLoop files n (VectorIterator.next ((passed ++ stream :: rest).set passed.length
        (finished files stream)) ⟨true, passed.length⟩) ((passed ++ stream :: rest).set
        passed.length (finished files stream)) result = _
      rw [hset, hnext, List.append_cons, hlength,
        ih (passed ++ [finished files stream]) rest (Nat.lt_of_succ_lt_succ hn) hgood.2,
        List.map_cons, List.append_assoc]
      rfl

/-- The end of a trace does what it should when no stream is in an error state. -/
theorem processed_iff (hrunning : tracer.traceState = .running) (reason : EndTraceReason) :
    Processed files tracer (endTraceInternal files reason true tracer) ↔
      ∀ stream ∈ tracer.dataStreams, files.ferror stream.pFileHandle = false := by
  unfold endTraceInternal
  rw [hrunning]
  constructor
  · rintro ⟨result, tracer', closed, hr, -, hclosed, -⟩ stream hmem
    obtain ⟨r, -, hr⟩ := Option.map_eq_some_iff.mp hr
    cases hr
    by_contra herror
    exact absurd (hclosed stream hmem (Bool.of_not_eq_false herror)) List.not_mem_nil
  · intro hgood
    have hloop : endTraceLoop files (tracer.dataStreams.length + 1)
        (.create tracer.dataStreams 0) tracer.dataStreams .success =
        some (tracer.dataStreams.map (finished files), .success) :=
      endTraceLoop_eq _ .success [] tracer.dataStreams (Nat.lt_succ_self _) hgood
    refine ⟨_, _, _, congrArg (Option.map _) hloop, ?_, ?_, ?_⟩
    · have hall : (tracer.dataStreams.filter fun stream =>
          files.ferror stream.pFileHandle = false) = tracer.dataStreams :=
        List.filter_eq_self.mpr fun stream hmem => decide_eq_true (hgood stream hmem)
      rw [hall]
      simp
    · intro stream hmem herror
      rw [hgood stream hmem] at herror
      cases herror
    · intro i stream' hstream
      simp only [RmtEventTracer.dataStreams_finish, RmtEventTracer.dataStreams_updateTraceResult,
        List.getElem?_map, Option.map_eq_some_iff] at hstream
      obtain ⟨stream, hplace, rfl⟩ := hstream
      exact ⟨stream, hplace, rfl⟩

theorem processed_iff_two :
    Processed ⟨fun _ => false, fun _ => 64⟩
      ⟨.running, .success, .unknown, [⟨5, 7, 1, 0, 0, 1⟩, ⟨6, 7, 2, 0, 0, 1⟩], 128⟩
      (endTraceInternal ⟨fun _ => false, fun _ => 64⟩ .userRequested true
        ⟨.running, .success, .unknown, [⟨5, 7, 1, 0, 0, 1⟩, ⟨6, 7, 2, 0, 0, 1⟩], 128⟩) :=
  (processed_iff rfl .userRequested).mpr fun _ _ => rfl

/-- A single stream, in an error state: the end iterator is dereferenced. -/
theorem not_processed : ¬ ∀ (files : FileStates) (tracer : RmtEventTracer)
    (reason : EndTraceReason),
    tracer.traceState = .running →
    Processed files tracer (endTraceInternal files reason true tracer) := by
  intro hall
  obtain ⟨result, tracer', closed, hr, -⟩ := hall ⟨fun _ => true, fun _ => 0⟩
    ⟨.running, .success, .unknown, [⟨5, 7, 1, 0, 0, 1⟩], 0⟩ .userRequested rfl
  cases hr

end DataStreams

end DevDriver.Analysis
