import DevDriver.Model.RmtWriter

/-!
# The files of the RMT writer

A file is walked from its `chunkOffset` by the sizes of its chunks.  What is found are the chunks
that were written, in order, as long as no snapshot is written into an open data chunk: it would
count as a part of that chunk.
-/

namespace DevDriver.Analysis

namespace RmtFiles

open Library Model RmtFileChunkHeader

def readHeader (bytes : List UInt8) : RmtFileChunkHeader where
  chunkType := .ofNat (leNat (slice bytes 0 1))
  chunkIndex := .ofNat (leNat (slice bytes 1 1))
  reserved := .ofNat (leNat (slice bytes 2 2))
  versionMinor := .ofNat (leNat (slice bytes 4 2))
  versionMajor := .ofNat (leNat (slice bytes 6 2))
  sizeInBytes := .ofNat (leNat (slice bytes 8 4))
  padding := .ofNat (leNat (slice bytes 12 4))

/-- The size that the header tells, which is a signed number. -/
def sizeOfChunk (rest : List UInt8) : ℕ :=
  (readHeader rest).sizeInBytes.toBitVec.toInt.toNat

/-- What a reader finds in a chunk.  Of the infos the fields are left as they are. -/
inductive RmtChunk where
  | info (chunkType : UInt8) (fields : List UInt8)
  | snapshot (snapshotPoint : ℕ) (name : List UInt8)
  | data (processId threadId chunkIndex : ℕ) (versionMinor versionMajor : UInt16)
      (contents : List UInt8)
  deriving DecidableEq

/-- The chunk with a header and the bytes behind it.
rmtFileFormat.h:93-187 -/
def readFields (header : RmtFileChunkHeader) (fields : List UInt8) : RmtChunk :=
  match header.chunkType with
  | 3 => .data (leNat (slice fields 0 8)) (leNat (slice fields 8 8)) header.chunkIndex.toNat
    header.versionMinor header.versionMajor (fields.drop 16)
  | 6 => .snapshot (leNat (slice fields 0 8)) (slice fields 16 (leNat (slice fields 8 4)))
  | chunkType => .info chunkType fields

def readBlock (block : List UInt8) : RmtChunk := readFields (readHeader block) (block.drop 16)

/-- The chunks from the `chunkOffset` of the file header on. -/
def readFile (file : List UInt8) : Option (List RmtChunk) :=
  (walkChunks 16 sizeOfChunk (file.length + 1) (file.drop (leNat (slice file 16 4)))).map
    (List.map readBlock)

/-- The chunks that were written, and the data chunk that is open. -/
structure RmtContents where
  chunks : List RmtChunk
  current : Option (UInt64 × UInt64 × List UInt8)

namespace RmtContents

def addChunk (g : RmtContents) (chunk : RmtChunk) : RmtContents :=
  { g with chunks := g.chunks ++ [chunk] }

def addTokens (g : RmtContents) (tokens : List UInt8) : RmtContents :=
  { g with current := g.current.map fun d => (d.1, d.2.1, d.2.2 ++ tokens) }

/-- What is written with a call.  A token for the time comes in front of the token that the delta is
calculated for. -/
def after (g : RmtContents) : RmtWriter × RmtCall × Unit → RmtContents
  | (_, .writeSystemInfo systemInfo, _) => g.addChunk (.info 2 systemInfo.fields)
  | (_, .writeSegmentInfo segmentInfo, _) => g.addChunk (.info 4 segmentInfo.fields)
  | (_, .writeAdapterInfo adapterInfo, _) => g.addChunk (.info 7 adapterInfo.fields)
  | (_, .writeSnapshot pSnapshotName snapshotTimestamp timestamp, _) =>
    g.addChunk (.snapshot
      (if snapshotTimestamp = 0 then timestamp else snapshotTimestamp).toNat pSnapshotName)
  | (_, .beginDataChunk processId threadId, _) =>
    { g with current := some (processId, threadId, []) }
  | (_, .writeTokenData tokenData, _) => g.addTokens tokenData.data
  | (w, .calculateDelta memory timestamp, _) =>
    g.addTokens (timeToken memory (w.eventTimer.createTimestamp timestamp).1)
  | (_, .endDataChunk, _) =>
    { chunks := g.chunks ++
        (g.current.map fun d => .data d.1.toNat d.2.1.toNat 0 1 9 d.2.2).toList
      current := none }
  | (_, .writeDataChunk processId threadId chunkIndex rmtMajorVersion rmtMinorVersion pData, _) =>
    g.addChunk (.data processId.toNat threadId.toNat chunkIndex.toNat rmtMajorVersion
      rmtMinorVersion pData)
  | (_, .finalize, _) => g

end RmtContents

def contentsOf (tr : List (RmtWriter × RmtCall × Unit)) : RmtContents :=
  tr.foldl RmtContents.after ⟨[], none⟩

/-- The condition on a call: a chunk is below 2^31 bytes, no snapshot is written while a data chunk
is open, and the index of a chunk fits its field. -/
def KeepsLayout (w : RmtWriter) : RmtCall → Prop
  | .writeSnapshot pSnapshotName _ _ =>
    w.state ≠ .writingDataChunk ∧ 32 + pSnapshotName.length < 2 ^ 31
  | .endDataChunk => w.rmtFileData.length - w.dataChunkHeaderOffset < 2 ^ 31
  | .writeDataChunk _ _ chunkIndex _ _ pData =>
    chunkIndex.toNat < 2 ^ 7 ∧ 32 + pData.length < 2 ^ 31
  | _ => True

instance (w : RmtWriter) : ∀ a, Decidable (KeepsLayout w a)
  | .writeSnapshot .. => inferInstanceAs (Decidable (_ ∧ _))
  | .endDataChunk => inferInstanceAs (Decidable (_ < _))
  | .writeDataChunk .. => inferInstanceAs (Decidable (_ ∧ _))
  | .writeSystemInfo _ | .writeSegmentInfo _ | .writeAdapterInfo _ | .beginDataChunk ..
  | .writeTokenData _ | .calculateDelta .. | .finalize => inferInstanceAs (Decidable True)

theorem length_bytes (header : RmtFileChunkHeader) : header.bytes.length = 16 := by
  simp only [bytes, List.length_append, length_leBytes]

theorem readHeader_bytes (header : RmtFileChunkHeader) (rest : List UInt8) :
    readHeader (header.bytes ++ rest) = header := by
  simp [readHeader, bytes, slice, List.drop_append, List.drop_eq_nil_of_le,
    leNat_leBytes]

/-- The bytes are those of a chunk, which tells how many they are. -/
structure IsChunk (block : List UInt8) (chunk : RmtChunk) : Prop where
  header_le : 16 ≤ block.length
  size : ∀ rest, sizeOfChunk (block ++ rest) = block.length
  read : readBlock block = chunk

theorem isChunk_of_header {header : RmtFileChunkHeader} {fields : List UInt8} {chunk : RmtChunk}
    (hsize : header.sizeInBytes = .ofNat (16 + fields.length)) (hlt : 16 + fields.length < 2 ^ 31)
    (hread : readFields header fields = chunk) : IsChunk (header.bytes ++ fields) chunk where
  header_le := by
    rw [List.length_append, length_bytes]
    exact Nat.le_add_right _ _
  size rest := by
    have htold : header.sizeInBytes.toNat = 16 + fields.length := by
      rw [hsize]
      exact UInt32.toNat_ofNat_of_lt (hlt.trans (by decide))
    rw [sizeOfChunk, List.append_assoc, readHeader_bytes, BitVec.toInt_eq_toNat_of_lt,
      Int.toNat_natCast, UInt32.toNat_toBitVec, htold, List.length_append, length_bytes]
    rw [UInt32.toNat_toBitVec, htold]
    omega
  read := by
    rw [readBlock, readHeader_bytes, ← length_bytes header, List.drop_left]
    exact hread

theorem isChunk_info {size : ℕ} {info : ChunkStruct size} {chunkType : UInt8}
    (htype : chunkType = 2 ∨ chunkType = 4 ∨ chunkType = 7) (hlt : size < 2 ^ 31) :
    IsChunk (bytes ⟨chunkType, 0, info.header.reserved, 1, 0, .ofNat size, 0⟩ ++
      info.fields) (.info chunkType info.fields) := by
  have hlength := info.length_fields
  refine isChunk_of_header (by rw [hlength]) (by omega) ?_
  rcases htype with rfl | rfl | rfl <;> rfl

theorem isChunk_snapshot {snapshotPoint : UInt64} {name : List UInt8}
    (hlt : 32 + name.length < 2 ^ 31) :
    IsChunk (bytes ⟨6, 0, 0, 1, 0, .ofNat (32 + name.length), 0⟩ ++
        (leBytes 8 snapshotPoint.toNat ++ leBytes 4 name.length ++ leBytes 4 0 ++ name))
      (.snapshot snapshotPoint.toNat name) := by
  have hname : leNat (leBytes 4 name.length) = name.length :=
    leNat_leBytes_of_lt (by norm_num; omega)
  have hlength : 16 + (leBytes 8 snapshotPoint.toNat ++ leBytes 4 name.length ++ leBytes 4 0 ++
      name).length = 32 + name.length := by
    simp only [List.length_append, length_leBytes]
    omega
  refine isChunk_of_header (by rw [hlength]) (by omega) ?_
  simp [readFields, slice, List.drop_append, List.drop_eq_nil_of_le, List.take_of_length_le,
    leNat_leBytes, hname]

/-- The bytes of a data chunk whose header tells the given size. -/
def dataChunk (processId threadId : UInt64) (chunkIndex : UInt32)
    (rmtMajorVersion rmtMinorVersion : UInt16) (size : ℕ) (contents : List UInt8) : List UInt8 :=
  bytes
    ⟨3, chunkIndex.toUInt8, 0, rmtMajorVersion, rmtMinorVersion, .ofNat size, 0⟩ ++
    (leBytes 8 processId.toNat ++ leBytes 8 threadId.toNat ++ contents)

section DataChunk

variable {processId threadId : UInt64} {chunkIndex : UInt32}
  {rmtMajorVersion rmtMinorVersion : UInt16} {contents : List UInt8}

theorem length_dataChunk (size : ℕ) :
    (dataChunk processId threadId chunkIndex rmtMajorVersion rmtMinorVersion size
      contents).length = 32 + contents.length := by
  simp only [dataChunk, List.length_append, length_bytes, length_leBytes]
  omega

theorem overwrite_size (size size' : ℕ) :
    overwrite (dataChunk processId threadId chunkIndex rmtMajorVersion rmtMinorVersion size
      contents) 8 (leBytes 4 (UInt32.ofNat size').toNat) =
      dataChunk processId threadId chunkIndex rmtMajorVersion rmtMinorVersion size' contents := by
  simp [overwrite, dataChunk, bytes, List.take_append, List.drop_append,
    List.take_of_length_le, List.drop_eq_nil_of_le]

theorem isChunk_data (hindex : chunkIndex.toNat < 2 ^ 7) (hlt : 32 + contents.length < 2 ^ 31) :
    IsChunk (dataChunk processId threadId chunkIndex rmtMajorVersion rmtMinorVersion
        (32 + contents.length) contents)
      (.data processId.toNat threadId.toNat chunkIndex.toNat rmtMajorVersion rmtMinorVersion
        contents) := by
  have hlength : 16 + (leBytes 8 processId.toNat ++ leBytes 8 threadId.toNat ++ contents).length =
      32 + contents.length := by
    simp only [List.length_append, length_leBytes]
    omega
  refine isChunk_of_header (by rw [hlength]) (by omega) ?_
  have hcut : chunkIndex.toUInt8.toNat = chunkIndex.toNat := by
    rw [UInt32.toNat_toUInt8]
    omega
  simp [readFields, slice, List.drop_append, List.drop_eq_nil_of_le, leNat_leBytes, hcut]

end DataChunk

/-! ## The file while it is written -/

/-- The bytes of the data chunk that is open, whose size is not known yet. -/
def openBytes : Option (UInt64 × UInt64 × List UInt8) → List UInt8
  | none => []
  | some (processId, threadId, contents) => dataChunk processId threadId 0 1 9 32 contents

/-- The file is a header, the chunks that are finished, and the one that is open. -/
structure FileOf (g : RmtContents) (w : RmtWriter) (header : List UInt8)
    (blocks : List (List UInt8)) : Prop where
  header_length : header.length = 56
  chunkOffset : leNat (slice header 16 4) = 56
  formed : ∀ block ∈ blocks, IsChunk block (readBlock block)
  chunks : blocks.map readBlock = g.chunks
  data : w.rmtFileData = header ++ blocks.flatten ++ openBytes g.current
  open_iff : w.state = .writingDataChunk ↔ g.current.isSome
  offset : g.current.isSome → w.dataChunkHeaderOffset = (header ++ blocks.flatten).length

def IsFileOf (g : RmtContents) (w : RmtWriter) : Prop := ∃ header blocks, FileOf g w header blocks

variable {g : RmtContents} {w w' : RmtWriter} {header : List UInt8} {blocks : List (List UInt8)}

theorem FileOf.readFile (h : FileOf g w header blocks) (hclosed : w.state ≠ .writingDataChunk) :
    readFile w.rmtFileData = some g.chunks := by
  have hnone : g.current = none := Option.not_isSome_iff_eq_none.mp (mt h.open_iff.mpr hclosed)
  have hdrop : (header ++ blocks.flatten).drop 56 = blocks.flatten := by
    rw [← h.header_length, List.drop_left]
  rw [RmtFiles.readFile, h.data, hnone, openBytes, List.append_nil,
    slice_append_left (by rw [h.header_length]; decide), h.chunkOffset, hdrop, walkChunks_flatten
      (by decide) (fun block hmem => ⟨(h.formed block hmem).header_le, (h.formed block hmem).size⟩)
      (by rw [List.length_append]; omega), Option.map_some, h.chunks]

theorem writeBytes_eq {pData : List UInt8} (h : w.writeBytes pData = some w') :
    w' = { w with rmtFileData := w.rmtFileData ++ pData } := by
  obtain ⟨-, h⟩ := Option.ite_none_right_eq_some.mp h
  exact (Option.some.inj h).symm

theorem IsFileOf.addChunk (h : IsFileOf g w) (hclosed : w.state ≠ .writingDataChunk)
    {block : List UInt8} {chunk : RmtChunk} (hchunk : IsChunk block chunk) :
    IsFileOf (g.addChunk chunk) { w with rmtFileData := w.rmtFileData ++ block } := by
  obtain ⟨header, blocks, h⟩ := h
  have hnone : g.current = none := Option.not_isSome_iff_eq_none.mp (mt h.open_iff.mpr hclosed)
  obtain rfl := hchunk.read
  refine ⟨header, blocks ++ [block], h.header_length, h.chunkOffset, ?_, ?_, ?_, h.open_iff, ?_⟩
  · exact List.forall_mem_append.mpr ⟨h.formed, List.forall_mem_singleton.mpr hchunk⟩
  · rw [List.map_append, h.chunks]
    rfl
  · show w.rmtFileData ++ block = _ ++ openBytes g.current
    rw [h.data, hnone, List.flatten_append]
    simp [openBytes]
  · intro hsome
    rw [RmtContents.addChunk, hnone] at hsome
    cases hsome

theorem IsFileOf.addTokens (h : IsFileOf g w) (hopen : w.state = .writingDataChunk)
    (eventTimer : EventTimer) (tokens : List UInt8) :
    IsFileOf (g.addTokens tokens) { w with
      eventTimer := eventTimer
      rmtFileData := w.rmtFileData ++ tokens } := by
  obtain ⟨header, blocks, h⟩ := h
  obtain ⟨d, hd⟩ := Option.isSome_iff_exists.mp (h.open_iff.mp hopen)
  refine ⟨header, blocks, h.header_length, h.chunkOffset, h.formed, h.chunks, ?_, ?_, ?_⟩
  · show w.rmtFileData ++ _ = _
    rw [h.data, RmtContents.addTokens, hd]
    simp only [openBytes, Option.map_some, dataChunk, List.append_assoc]
  · rw [RmtContents.addTokens, Option.isSome_map]
    exact h.open_iff
  · exact fun _ => h.offset (h.open_iff.mp hopen)

theorem IsFileOf.writeInfo (h : IsFileOf g w) {size : ℕ} {chunkType : UInt8}
    {info : ChunkStruct size} (htype : chunkType = 2 ∨ chunkType = 4 ∨ chunkType = 7)
    (hlt : size < 2 ^ 31) (hwrite : w.writeInfo chunkType info = some w') :
    IsFileOf (g.addChunk (.info chunkType info.fields)) w' := by
  obtain ⟨hstate, hwrite⟩ := Option.ite_none_right_eq_some.mp hwrite
  rw [writeBytes_eq hwrite]
  exact h.addChunk (by rw [hstate]; decide) (isChunk_info htype hlt)

theorem writeDataChunkHeader_eq {processId threadId : UInt64} {dataSize : ℕ} {chunkIndex : UInt32}
    {rmtMajorVersion rmtMinorVersion : UInt16} (hwrite : w.writeDataChunkHeader processId threadId
      dataSize chunkIndex rmtMajorVersion rmtMinorVersion = some w') :
    w.state = .initialized ∧ w' = { w with
      rmtFileData := w.rmtFileData ++ dataChunk processId threadId chunkIndex rmtMajorVersion
        rmtMinorVersion (dataSize + 32) [] } := by
  obtain ⟨hstate, hwrite⟩ := Option.ite_none_right_eq_some.mp hwrite
  rw [writeBytes_eq hwrite, dataChunk, List.append_nil]
  exact ⟨hstate, rfl⟩

theorem IsFileOf.beginDataChunk (h : IsFileOf g w) {processId threadId : UInt64}
    (hbegin : w.beginDataChunk processId threadId = some w') :
    IsFileOf { g with current := some (processId, threadId, []) } w' := by
  obtain ⟨header, blocks, h⟩ := h
  obtain ⟨w₁, hwrite, rfl⟩ := Option.map_eq_some_iff.mp hbegin
  obtain ⟨hstate, rfl⟩ := writeDataChunkHeader_eq hwrite
  have hnone : g.current = none := by
    apply Option.not_isSome_iff_eq_none.mp
    rw [← h.open_iff, hstate]
    decide
  have hdata : w.rmtFileData = header ++ blocks.flatten := by
    rw [h.data, hnone, openBytes, List.append_nil]
  refine ⟨header, blocks, h.header_length, h.chunkOffset, h.formed, h.chunks, ?_, by simp, ?_⟩
  · exact congrArg (· ++ _) hdata
  · exact fun _ => congrArg List.length hdata

theorem IsFileOf.endDataChunk (h : IsFileOf g w)
    (hlt : w.rmtFileData.length - w.dataChunkHeaderOffset < 2 ^ 31)
    (hend : w.endDataChunk = some w') : IsFileOf (g.after (w, .endDataChunk, ())) w' := by
  obtain ⟨header, blocks, h⟩ := h
  obtain ⟨hstate, hend⟩ := Option.ite_none_right_eq_some.mp hend
  obtain ⟨⟨processId, threadId, contents⟩, hd⟩ :=
    Option.isSome_iff_exists.mp (h.open_iff.mp hstate)
  have hdata := h.data
  rw [hd, openBytes] at hdata
  have hoffset := h.offset (h.open_iff.mp hstate)
  have hlength : w.rmtFileData.length - w.dataChunkHeaderOffset = 32 + contents.length := by
    rw [hdata, hoffset, List.length_append, length_dataChunk]
    omega
  rw [hlength] at hlt hend
  cases hend
  have hchunk := @isChunk_data processId threadId 0 1 9 contents (by decide) hlt
  -- the size is put into the open chunk, which begins behind the finished ones
  have hoverwrite : ∀ (before chunk bytes : List UInt8) (o : ℕ),
      overwrite (before ++ chunk) (before.length + o) bytes =
        before ++ overwrite chunk o bytes := by
    intro before chunk bytes o
    simp only [overwrite, List.take_length_add_append, Nat.add_assoc,
      List.drop_length_add_append, List.append_assoc]
  refine ⟨header, blocks ++ [dataChunk processId threadId 0 1 9 (32 + contents.length)
    contents], h.header_length, h.chunkOffset, ?_, ?_, ?_, ?_, ?_⟩
  · rw [← hchunk.read] at hchunk
    exact List.forall_mem_append.mpr ⟨h.formed, List.forall_mem_singleton.mpr hchunk⟩
  · rw [List.map_append, h.chunks, RmtContents.after, hd, List.map_singleton, hchunk.read]
    rfl
  · show overwrite w.rmtFileData (w.dataChunkHeaderOffset + 8) _ = _
    rw [hdata, hoffset, hoverwrite, overwrite_size, List.flatten_append]
    simp [openBytes, RmtContents.after]
  · simp [RmtContents.after]
  · simp [RmtContents.after]

/-! ## Runs -/

/-- A step of the writer writes what the call asks for. -/
theorem isFileOf_step {a : RmtCall} (h : IsFileOf g w) (hkeeps : KeepsLayout w a)
    (hrun : a.run w = some w') : IsFileOf (g.after (w, a, ())) w' := by
  cases a with
  | writeSystemInfo systemInfo => exact h.writeInfo (.inl rfl) (by decide) hrun
  | writeSegmentInfo segmentInfo => exact h.writeInfo (.inr (.inl rfl)) (by decide) hrun
  | writeAdapterInfo adapterInfo => exact h.writeInfo (.inr (.inr rfl)) (by decide) hrun
  | writeSnapshot pSnapshotName snapshotTimestamp timestamp =>
    obtain ⟨_, hfirst, hsecond⟩ := Option.bind_eq_some_iff.mp hrun
    rw [writeBytes_eq hsecond, writeBytes_eq hfirst]
    have hfile := h.addChunk hkeeps.1 (@isChunk_snapshot
      (if snapshotTimestamp = 0 then timestamp else snapshotTimestamp) pSnapshotName hkeeps.2)
    simp only [List.append_assoc] at hfile ⊢
    exact hfile
  | beginDataChunk processId threadId => exact h.beginDataChunk hrun
  | writeTokenData tokenData =>
    change w.writeTokenData tokenData = some w' at hrun
    obtain ⟨hopen, hrun⟩ := Option.ite_none_right_eq_some.mp hrun
    rw [writeBytes_eq hrun]
    exact h.addTokens hopen w.eventTimer tokenData.data
  | calculateDelta memory timestamp =>
    obtain ⟨_, hdelta, rfl⟩ := Option.map_eq_some_iff.mp hrun
    obtain ⟨hopen, hdelta⟩ := Option.ite_none_right_eq_some.mp hdelta
    obtain ⟨_, hwrite, rfl⟩ := Option.map_eq_some_iff.mp hdelta
    rw [writeBytes_eq hwrite]
    exact h.addTokens hopen _ _
  | endDataChunk => exact h.endDataChunk hkeeps hrun
  | writeDataChunk processId threadId chunkIndex rmtMajorVersion rmtMinorVersion pData =>
    obtain ⟨w₁, hheader, hdata⟩ := Option.bind_eq_some_iff.mp hrun
    obtain ⟨hstate, rfl⟩ := writeDataChunkHeader_eq hheader
    rw [writeBytes_eq hdata]
    have hfile := h.addChunk (by rw [hstate]; decide)
      (@isChunk_data processId threadId chunkIndex rmtMajorVersion rmtMinorVersion pData
        hkeeps.1 hkeeps.2)
    simp only [dataChunk, List.append_assoc, List.append_nil, Nat.add_comm 32] at hfile ⊢
    exact hfile
  | finalize =>
    change w.finalize = some w' at hrun
    obtain ⟨hstate, ⟨⟩⟩ := Option.ite_none_right_eq_some.mp hrun
    obtain ⟨header, blocks, h⟩ := h
    have hclosed : ¬ g.current.isSome := by
      rw [← h.open_iff, hstate]
      decide
    exact ⟨header, blocks, h.header_length, h.chunkOffset, h.formed, h.chunks, h.data,
      iff_of_false nofun hclosed, h.offset⟩

theorem isFileOf_init (hinit : rmtWriterMachine.init w) : IsFileOf ⟨[], none⟩ w := by
  obtain ⟨w₀, fields, hfields, hinit⟩ := hinit
  obtain ⟨w₁, hfirst, hheader⟩ := Option.bind_eq_some_iff.mp hinit
  obtain ⟨-, ⟨⟩⟩ := Option.ite_none_right_eq_some.mp hfirst
  rw [RmtWriter.writeFileHeader, if_pos rfl] at hheader
  rw [writeBytes_eq hheader]
  refine ⟨rmtFileHeader fields, [], ?_, rfl, nofun, rfl, by simp [openBytes], ?_, nofun⟩
  · simp [rmtFileHeader, List.length_flatMap, hfields]
  · exact iff_of_false nofun nofun

/-- In every run in which no snapshot is written while a data chunk is open, the walk over the file
finds what was written whenever no data chunk is open. -/
theorem rmt_file_walk {w₀ : RmtWriter} {tr : List (RmtWriter × RmtCall × Unit)}
    (hinit : rmtWriterMachine.init w₀) (h : rmtWriterMachine.Trace w₀ tr w)
    (hcond : ∀ x ∈ tr, KeepsLayout x.1 x.2.1) (hclosed : w.state ≠ .writingDataChunk) :
    readFile w.rmtFileData = some (contentsOf tr).chunks := by
  obtain ⟨header, blocks, hfile⟩ := h.foldl_invariant (P := IsFileOf) (f := RmtContents.after)
    (isFileOf_init hinit) hcond fun g s t a x hg hkeeps hstep => by
      obtain ⟨t', hrun, hpair⟩ := Option.map_eq_some_iff.mp hstep
      cases hpair
      exact isFileOf_step hg hkeeps hrun
  exact hfile.readFile hclosed

def newFile : RmtWriter := ⟨.initialized, 0, ⟨10000000, 0⟩, rmtFileHeader (.replicate 9 0)⟩

def dataChunkRun : List RmtCall :=
  [.beginDataChunk 4711 42, .calculateDelta (fun _ => 0) 64,
    .writeTokenData (rmtMsgProcessEvent (fun _ => 0) 0 4711 .start), .endDataChunk,
    .writeSnapshot [65] 99 0]

def dataChunkFile : RmtWriter := (rmtWriterMachine.run newFile dataChunkRun).getD newFile

theorem rmt_file_walk_dataChunk :
    readFile dataChunkFile.rmtFileData = some
      [.data 4711 42 0 1 9 ((rmtMsgTimestamp (fun _ => 0) 2 10000000).data ++
        (rmtMsgProcessEvent (fun _ => 0) 0 4711 .start).data), .snapshot 99 [65]] :=
  @rmt_file_walk dataChunkFile newFile (rmtWriterMachine.transitions newFile dataChunkRun)
    ⟨⟨.uninitialized, 0, ⟨10000000, 0⟩, []⟩, .replicate 9 0, rfl, rfl⟩ (.of_run rfl)
    (by decide +kernel) (by decide)

end RmtFiles

end DevDriver.Analysis
