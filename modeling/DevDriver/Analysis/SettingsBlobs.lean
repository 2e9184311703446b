import Mathlib.Algebra.BigOperators.Group.List.Basic
import DevDriver.Library.BitString
import DevDriver.Model.SettingsBlobs

/-!
# Settings blobs round trip

The blobs of all nodes are packed as the size that is told first allows, and read back by a walk,
just where the sizes add up to less than 2 ^ 32.
-/

namespace DevDriver.Analysis

open Library Model BlobPacking

/-- A blob with what is told about it. -/
structure StoredBlob where
  blob : List UInt8
  isEncoded : Bool
  magicOffset : ℕ
  blobHash : ℕ

/-- The record at an address, by the layout of `SettingsBlob`.
dd_settings_blob_core.h:8-26 -/
def storedBlobAt (memory : ℕ → UInt8) (pos : ℕ) : StoredBlob where
  blob := readAt memory (pos + 24) (blobSizeAt memory pos)
  isEncoded := memory (pos + 8) ≠ 0
  magicOffset := leNat (readAt memory (pos + 12) 4)
  blobHash := leNat (readAt memory (pos + 16) 8)

def recordPositions (memory : ℕ → UInt8) : ℕ → ℕ → List ℕ
  | 0, _ => []
  | n + 1, pos => pos :: recordPositions memory n (pos + sizeAt memory pos)

/-- The records of a buffer, by its header.
dd_settings_blob_core.h:28-37 -/
def storedBlobs (memory : ℕ → UInt8) : List StoredBlob :=
  (recordPositions memory (nblobsAt memory 0) 8).map (storedBlobAt memory)

def blobsOf (nodes : List SettingsBlobNode) : List StoredBlob :=
  (nodes.filter fun node => 0 < node.blob.length).map fun node =>
    ⟨node.blob, node.isEncoded, node.magicOffset.toNat, node.blobHash.toNat⟩

def recordSize (node : SettingsBlobNode) : ℕ := (node.blob.length + 31) / 8 * 8

def requiredSize (nodes : List SettingsBlobNode) : ℕ :=
  8 + ((nodes.filter fun node => 0 < node.blob.length).map recordSize).sum

/-! ## Packing -/

section Pack

variable {node : SettingsBlobNode} {memory memory' : ℕ → UInt8} {pos : ℕ}

theorem toNat_blobSize : node.blobSize.toNat = node.blob.length := by
  rw [SettingsBlobNode.blobSize]
  exact Nat.mod_eq_of_lt node.length_lt

theorem toNat_calcSettingsBlobSizeAligned (blobSize : UInt32) :
    (calcSettingsBlobSizeAligned blobSize).toNat = (blobSize.toNat + 31) % 2 ^ 32 / 8 * 8 := by
  have hlt := blobSize.toNat_lt
  have hmask : (~~~((8 : UInt32) - 1)).toUInt64.toNat = 2 ^ 32 - 8 := by decide
  have hsum : (24 + blobSize.toUInt64 + (8 : UInt32).toUInt64 - 1).toNat =
      blobSize.toNat + 31 := by
    have h24 : (24 + blobSize.toUInt64).toNat = blobSize.toNat + 24 := by
      rw [UInt64.toNat_add, UInt32.toNat_toUInt64]
      have : (24 : UInt64).toNat = 24 := rfl
      omega
    have h32 : (24 + blobSize.toUInt64 + (8 : UInt32).toUInt64).toNat =
        blobSize.toNat + 32 := by
      rw [UInt64.toNat_add, h24]
      have : (8 : UInt32).toUInt64.toNat = 8 := rfl
      omega
    have hone : 1 ≤ 24 + blobSize.toUInt64 + (8 : UInt32).toUInt64 := by
      rw [UInt64.le_iff_toNat_le, h32]
      exact Nat.le_add_left 1 _
    rw [UInt64.toNat_sub_of_le _ _ hone, h32]
    rfl
  rw [calcSettingsBlobSizeAligned, UInt64.toNat_toUInt32, UInt64.toNat_and, hsum, hmask,
    Nat.and_mod_two_pow]
  exact and_two_pow_sub_two_pow (Nat.mod_lt _ (by decide)) (show 3 ≤ 32 by decide)

theorem toNat_aligned (h : node.blob.length + 31 < 2 ^ 32) :
    (calcSettingsBlobSizeAligned node.blobSize).toNat = recordSize node := by
  rw [toNat_calcSettingsBlobSizeAligned, toNat_blobSize, Nat.mod_eq_of_lt h, recordSize]

theorem writeSettingsBlob_of_outside {aligned : UInt32} {a : ℕ}
    (h : a < pos ∨ pos + 24 + node.blob.length ≤ a) :
    writeSettingsBlob memory pos aligned node a = memory a := by
  rw [writeSettingsBlob, writeAt_of_disjoint, writeAt_of_disjoint]
  · simp only [List.length_append, length_leBytes, List.length_singleton]
    omega
  · simp only [List.length_append, length_leBytes]
    omega

theorem readAt_head (aligned : UInt32) {offset count : ℕ} (h : offset + count ≤ 9) :
    readAt (writeSettingsBlob memory pos aligned node) (pos + offset) count =
      slice (leBytes 4 aligned.toNat ++ leBytes 4 node.blobSize.toNat ++
        [node.isEncoded.toUInt8]) offset count := by
  rw [writeSettingsBlob, readAt_writeAt_of_disjoint (Or.inl (by omega))]
  exact readAt_add (readAt_writeAt _ _ _) (by simpa using h)

theorem readAt_tail (aligned : UInt32) {offset count : ℕ}
    (h : offset + count ≤ 12 + node.blob.length) :
    readAt (writeSettingsBlob memory pos aligned node) (pos + 12 + offset) count =
      slice (leBytes 4 node.magicOffset.toNat ++ leBytes 8 node.blobHash.toNat ++ node.blob)
        offset count := by
  rw [writeSettingsBlob]
  refine readAt_add (readAt_writeAt _ _ _) ?_
  simp only [List.length_append, length_leBytes]
  omega

theorem sizeAt_write (aligned : UInt32) :
    sizeAt (writeSettingsBlob memory pos aligned node) pos = aligned.toNat := by
  have hread : readAt (writeSettingsBlob memory pos aligned node) pos 4 = _ :=
    @readAt_head node memory pos aligned 0 4 (by omega)
  have hslice : slice (leBytes 4 aligned.toNat ++ leBytes 4 node.blobSize.toNat ++
      [node.isEncoded.toUInt8]) 0 4 = leBytes 4 aligned.toNat := rfl
  rw [sizeAt, hread, hslice]
  exact leNat_leBytes_of_lt aligned.toNat_lt

theorem blobSizeAt_write (aligned : UInt32) :
    blobSizeAt (writeSettingsBlob memory pos aligned node) pos = node.blob.length := by
  have hslice : slice (leBytes 4 aligned.toNat ++ leBytes 4 node.blobSize.toNat ++
      [node.isEncoded.toUInt8]) 4 4 = leBytes 4 node.blobSize.toNat := rfl
  rw [blobSizeAt, readAt_head aligned (by omega), hslice, ← toNat_blobSize]
  exact leNat_leBytes_of_lt node.blobSize.toNat_lt

theorem storedBlobAt_write (aligned : UInt32) :
    storedBlobAt (writeSettingsBlob memory pos aligned node) pos =
      ⟨node.blob, node.isEncoded, node.magicOffset.toNat, node.blobHash.toNat⟩ := by
  rw [storedBlobAt, StoredBlob.mk.injEq]
  refine ⟨?_, ?_, ?_, ?_⟩
  · have hslice : slice (leBytes 4 node.magicOffset.toNat ++ leBytes 8 node.blobHash.toNat ++
        node.blob) 12 node.blob.length = node.blob := List.take_length
    rw [blobSizeAt_write]
    exact (@readAt_tail node memory pos aligned 12 _ (Nat.le_refl _)).trans hslice
  · have hread : [writeSettingsBlob memory pos aligned node (pos + 8)] =
        [node.isEncoded.toUInt8] := @readAt_head node memory pos aligned 8 1 (Nat.le_refl 9)
    rw [List.singleton_inj.mp hread]
    cases node.isEncoded <;> rfl
  · have hread : readAt (writeSettingsBlob memory pos aligned node) (pos + 12) 4 =
        leBytes 4 node.magicOffset.toNat := @readAt_tail node memory pos aligned 0 4 (by omega)
    rw [hread]
    exact leNat_leBytes_of_lt node.magicOffset.toNat_lt
  · have hread : readAt (writeSettingsBlob memory pos aligned node) (pos + 16) 8 =
        leBytes 8 node.blobHash.toNat := @readAt_tail node memory pos aligned 4 8 (by omega)
    rw [hread]
    exact leNat_leBytes_of_lt node.blobHash.toNat_lt

end Pack

/-! ## Walking -/

/-- The records lie in a buffer of some size, and all but the last one have a blob and a size. -/
structure RecordsInside (memory : ℕ → UInt8) (size n pos : ℕ) : Prop where
  inside : ∀ q ∈ recordPositions memory n pos, q + 8 ≤ size ∧
    (blobSizeAt memory q ≠ 0 → q + 24 + blobSizeAt memory q ≤ size)
  advance : ∀ q ∈ (recordPositions memory n pos).dropLast,
    blobSizeAt memory q ≠ 0 ∧ sizeAt memory q ≠ 0

section Walk

variable {C : Type} {component : List UInt8 → C} {memory : ℕ → UInt8} {size n pos : ℕ}

theorem recordPositions_ne_nil (h : 0 < n) : recordPositions memory n pos ≠ [] := by
  cases n with
  | zero => exact absurd h (Nat.lt_irrefl 0)
  | succ n => exact List.cons_ne_nil _ _

theorem le_of_mem_recordPositions {q : ℕ} (h : q ∈ recordPositions memory n pos) : pos ≤ q := by
  induction n generalizing pos with
  | zero => cases h
  | succ n ih =>
    cases h with
    | head => exact Nat.le_refl _
    | tail _ h => exact (Nat.le_add_right _ _).trans (ih h)

theorem recordsInside_succ :
    RecordsInside memory size (n + 1) pos ↔
      (pos + 8 ≤ size ∧ (blobSizeAt memory pos ≠ 0 → pos + 24 + blobSizeAt memory pos ≤ size)) ∧
        (0 < n → blobSizeAt memory pos ≠ 0 ∧ sizeAt memory pos ≠ 0) ∧
          RecordsInside memory size n (pos + sizeAt memory pos) := by
  have hlast : ∀ P : ℕ → Prop, (∀ q ∈ (recordPositions memory (n + 1) pos).dropLast, P q) ↔
      (0 < n → P pos) ∧
        ∀ q ∈ (recordPositions memory n (pos + sizeAt memory pos)).dropLast, P q := by
    intro P
    rw [recordPositions]
    cases n with
    | zero => simp [recordPositions]
    | succ n =>
      rw [List.dropLast_cons_of_ne_nil (recordPositions_ne_nil (Nat.succ_pos n)),
        List.forall_mem_cons]
      simp
  constructor
  · rintro ⟨hinside, hadvance⟩
    rw [recordPositions, List.forall_mem_cons] at hinside
    rw [hlast] at hadvance
    exact ⟨hinside.1, hadvance.1, hinside.2, hadvance.2⟩
  · rintro ⟨hfirst, hgoes, hinside, hadvance⟩
    refine ⟨?_, (hlast _).mpr ⟨hgoes, hadvance⟩⟩
    rw [recordPositions, List.forall_mem_cons]
    exact ⟨hfirst, hinside⟩

/-- By induction on the count: the walk is harmless exactly if the records lie inside. -/
theorem parseBlobs_iff :
    ((∀ r ∈ (parseBlobs component memory n pos).reads, r.1 + r.2 ≤ size) ∧
      (parseBlobs component memory n pos).visited = recordPositions memory n pos ∧
        (recordPositions memory n pos).Nodup) ↔ RecordsInside memory size n pos := by
  induction n generalizing pos with
  | zero =>
    refine ⟨fun _ => ⟨nofun, nofun⟩, fun _ => ⟨nofun, rfl, List.nodup_nil⟩⟩
  | succ n ih =>
    rw [recordsInside_succ, parseBlobs, recordPositions]
    by_cases hempty : blobSizeAt memory pos = 0
    · rw [if_pos hempty]
      cases n with
      | zero =>
        have hnone : RecordsInside memory size 0 (pos + sizeAt memory pos) := ⟨nofun, nofun⟩
        simp [parseBlobs, recordPositions, hempty, hnone, Nat.add_assoc]
      | succ n =>
        constructor
        · rintro ⟨-, hvisited, hnodup⟩
          have hnext : (parseBlobs component memory (n + 1) pos).visited =
              recordPositions memory (n + 1) (pos + sizeAt memory pos) :=
            List.tail_eq_of_cons_eq hvisited
          have hfirst : ∃ rest, (parseBlobs component memory (n + 1) pos).visited =
              pos :: rest := by
            rw [parseBlobs]
            split <;> exact ⟨_, rfl⟩
          obtain ⟨rest, hrest⟩ := hfirst
          rw [← hnext, hrest] at hnodup
          exact absurd List.mem_cons_self (List.nodup_cons.mp hnodup).1
        · rintro ⟨-, hgoes, -⟩
          exact absurd hempty (hgoes (Nat.succ_pos n)).1
    · rw [if_neg hempty]
      simp only [List.forall_mem_cons, List.cons.injEq, true_and, List.nodup_cons]
      rw [← ih]
      constructor
      · rintro ⟨⟨hsize, hblob, -, hreads⟩, hvisited, hnew, hnodup⟩
        refine ⟨⟨by omega, fun _ => hblob⟩, fun hmore => ⟨hempty, fun hzero => hnew ?_⟩,
          hreads, hvisited, hnodup⟩
        obtain ⟨n, rfl⟩ := Nat.exists_eq_succ_of_ne_zero hmore.ne'
        rw [hzero]
        exact List.mem_cons_self
      · rintro ⟨⟨hsize, hblob⟩, hgoes, hreads, hvisited, hnodup⟩
        refine ⟨⟨by omega, hblob hempty, by omega, hreads⟩, hvisited, fun hmem => ?_, hnodup⟩
        have hmore : 0 < n := by
          cases n with
          | zero => cases hmem
          | succ n => exact Nat.succ_pos n
        have hle := le_of_mem_recordPositions hmem
        have hpos := (hgoes hmore).2
        omega

theorem output_parseBlobs (h : ∀ q ∈ recordPositions memory n pos, blobSizeAt memory q ≠ 0) :
    (parseBlobs component memory n pos).output =
      (recordPositions memory n pos).map fun q => component (storedBlobAt memory q).blob := by
  induction n generalizing pos with
  | zero => rfl
  | succ n ih =>
    rw [recordPositions, List.forall_mem_cons] at h
    rw [parseBlobs, if_neg h.1, recordPositions, List.map_cons]
    exact congrArg (component _ :: ·) (ih h.2)

/-- Memory that holds the bytes of a buffer, from one of them on, behind some header. -/
def Carries (memory memory' : ℕ → UInt8) (start bufferSize header : ℕ) : Prop :=
  ∀ i, start ≤ i → i < bufferSize → memory' (header + i) = memory i

section Carries

variable {memory' : ℕ → UInt8} {header start : ℕ}

section

variable (h : Carries memory memory' start size header)

include h

theorem Carries.readAt {count : ℕ}
    (hstart : start ≤ pos) (hinside : pos + count ≤ size) :
    readAt memory' (header + pos) count = readAt memory pos count := by
  apply readAt_congr
  intro i hi
  rw [Nat.add_assoc]
  exact h (pos + i) (by omega) (by omega)

theorem Carries.sizeAt (hstart : start ≤ pos)
    (hinside : pos + 8 ≤ size) : sizeAt memory' (header + pos) = sizeAt memory pos :=
  congrArg leNat (h.readAt hstart (by omega))

theorem Carries.blobSizeAt (hstart : start ≤ pos)
    (hinside : pos + 8 ≤ size) : blobSizeAt memory' (header + pos) = blobSizeAt memory pos :=
  congrArg leNat (h.readAt (by omega) (by omega : pos + 4 + 4 ≤ size))

theorem Carries.storedBlobAt (hstart : start ≤ pos) (hinside : pos + 8 ≤ size)
    (hblob : pos + 24 + DevDriver.Model.blobSizeAt memory pos ≤ size) :
    storedBlobAt memory' (header + pos) = storedBlobAt memory pos := by
  rw [Analysis.storedBlobAt, Analysis.storedBlobAt, StoredBlob.mk.injEq,
    h.blobSizeAt hstart hinside]
  refine ⟨h.readAt (by omega) hblob, ?_, ?_, ?_⟩
  · rw [Nat.add_assoc, h (pos + 8) (by omega) (by omega)]
  · exact congrArg leNat (h.readAt (by omega) (by omega : pos + 12 + 4 ≤ size))
  · exact congrArg leNat (h.readAt (by omega) (by omega : pos + 16 + 8 ≤ size))

end

theorem RecordsInside.carried (hrecords : RecordsInside memory size n pos)
    (h : Carries memory memory' start size header) (hstart : start ≤ pos) :
    recordPositions memory' n (header + pos) =
      (recordPositions memory n pos).map (header + ·) := by
  induction n generalizing pos with
  | zero => rfl
  | succ n ih =>
    obtain ⟨⟨hsize, -⟩, -, hrest⟩ := recordsInside_succ.mp hrecords
    rw [recordPositions, recordPositions, List.map_cons, h.sizeAt hstart hsize, Nat.add_assoc,
      ih hrest (by omega)]

theorem RecordsInside.inside_of_carries {size' : ℕ}
    (hrecords : RecordsInside memory size n pos) (h : Carries memory memory' start size header)
    (hstart : start ≤ pos) (hsize : header + size ≤ size') :
    RecordsInside memory' size' n (header + pos) := by
  constructor
  · intro q hq
    rw [hrecords.carried h hstart] at hq
    obtain ⟨q, hmem, rfl⟩ := List.mem_map.mp hq
    obtain ⟨hlow, hblob⟩ := hrecords.inside q hmem
    rw [h.blobSizeAt (hstart.trans (le_of_mem_recordPositions hmem)) hlow]
    refine ⟨by omega, fun hsome => ?_⟩
    have := hblob hsome
    omega
  · intro q hq
    rw [hrecords.carried h hstart, ← List.map_dropLast] at hq
    obtain ⟨q, hmem, rfl⟩ := List.mem_map.mp hq
    have hmem' := (List.dropLast_subset _) hmem
    have hq := hstart.trans (le_of_mem_recordPositions hmem')
    obtain ⟨hlow, -⟩ := hrecords.inside q hmem'
    rw [h.blobSizeAt hq hlow, h.sizeAt hq hlow]
    exact hrecords.advance q hmem

theorem RecordsInside.stored_of_carries (hrecords : RecordsInside memory size n pos)
    (h : Carries memory memory' start size header) (hstart : start ≤ pos)
    (hsome : ∀ q ∈ recordPositions memory n pos, blobSizeAt memory q ≠ 0) :
    (∀ q ∈ recordPositions memory' n (header + pos), blobSizeAt memory' q ≠ 0) ∧
      (recordPositions memory' n (header + pos)).map (storedBlobAt memory') =
        (recordPositions memory n pos).map (storedBlobAt memory) := by
  rw [hrecords.carried h hstart]
  constructor
  · intro q hq
    obtain ⟨q, hmem, rfl⟩ := List.mem_map.mp hq
    rw [h.blobSizeAt (hstart.trans (le_of_mem_recordPositions hmem)) (hrecords.inside q hmem).1]
    exact hsome q hmem
  · rw [List.map_map]
    apply List.map_congr_left
    intro q hmem
    obtain ⟨hlow, hblob⟩ := hrecords.inside q hmem
    exact h.storedBlobAt (hstart.trans (le_of_mem_recordPositions hmem)) hlow
      (hblob (hsome q hmem))

end Carries

end Walk

/-! ## All nodes -/

section Nodes

variable {bufferSize : UInt32} {node : SettingsBlobNode} {ns : List SettingsBlobNode}
  {memory : ℕ → UInt8}

def storedBlobOf (node : SettingsBlobNode) : StoredBlob :=
  ⟨node.blob, node.isEncoded, node.magicOffset.toNat, node.blobHash.toNat⟩

theorem foldl_pack_filter (ns : List SettingsBlobNode) (s : BlobPacking) :
    ns.foldl (pack bufferSize) s =
      (ns.filter fun node => 0 < node.blob.length).foldl (pack bufferSize) s := by
  rw [List.foldl_filter]
  congr 1
  funext s node
  split
  · rfl
  · rename_i hempty
    rw [pack, if_neg]
    intro hsome
    rw [gt_iff_lt, UInt32.lt_iff_toNat_lt, toNat_blobSize] at hsome
    exact hempty (decide_eq_true hsome)

theorem blobSize_pos (h : 0 < node.blob.length) : node.blobSize > 0 := by
  rw [gt_iff_lt, UInt32.lt_iff_toNat_lt, toNat_blobSize]
  exact h

theorem total_foldl_pack (hns : ∀ node ∈ ns, 0 < node.blob.length) (s : BlobPacking)
    (hsum : s.totalSizeRequired.toNat + (ns.map recordSize).sum < 2 ^ 32) :
    (ns.foldl (pack bufferSize) s).totalSizeRequired.toNat =
      s.totalSizeRequired.toNat + (ns.map recordSize).sum := by
  induction ns generalizing s with
  | nil => rfl
  | cons node ns ih =>
    rw [List.forall_mem_cons] at hns
    rw [List.map_cons, List.sum_cons] at hsum ⊢
    have hfits : node.blob.length + 31 < 2 ^ 32 := by
      rw [recordSize] at hsum
      omega
    have htotal : (s.pack bufferSize node).totalSizeRequired =
        s.totalSizeRequired + calcSettingsBlobSizeAligned node.blobSize := by
      rw [pack, if_pos (blobSize_pos hns.1)]
      dsimp only
      split
      · rfl
      · split <;> rfl
    have hstep : (s.pack bufferSize node).totalSizeRequired.toNat =
        s.totalSizeRequired.toNat + recordSize node := by
      rw [htotal, UInt32.toNat_add, toNat_aligned hfits, Nat.mod_eq_of_lt (by omega)]
    rw [List.foldl_cons, ih hns.2 _ (by omega), hstep, Nat.add_assoc]

theorem pack_some (h : 0 < node.blob.length) (hfits : node.blob.length + 31 < 2 ^ 32)
    (total count : UInt32) (pos : ℕ) :
    pack bufferSize ⟨total, some memory, pos, count⟩ node =
      if pos + recordSize node ≤ bufferSize.toNat then
        ⟨total + calcSettingsBlobSizeAligned node.blobSize,
          some (writeSettingsBlob memory pos (calcSettingsBlobSizeAligned node.blobSize) node),
          pos + recordSize node, count + 1⟩
      else
        ⟨total + calcSettingsBlobSizeAligned node.blobSize, some memory,
          pos + recordSize node, count⟩ := by
  rw [pack, if_pos (blobSize_pos h)]
  dsimp only
  rw [toNat_aligned hfits]

theorem foldl_pack_past (hns : ∀ node ∈ ns, 0 < node.blob.length) {pos : ℕ}
    (hsum : pos + (ns.map recordSize).sum < 2 ^ 32) (hpast : bufferSize.toNat < pos)
    (total count : UInt32) :
    (ns.foldl (pack bufferSize) ⟨total, some memory, pos, count⟩).buffer =
        some memory ∧
      (ns.foldl (pack bufferSize) ⟨total, some memory, pos, count⟩).blobCount =
        count := by
  induction ns generalizing pos total with
  | nil => exact ⟨rfl, rfl⟩
  | cons node ns ih =>
    rw [List.forall_mem_cons] at hns
    rw [List.map_cons, List.sum_cons] at hsum
    have hfits : node.blob.length + 31 < 2 ^ 32 := by
      rw [recordSize] at hsum
      omega
    rw [List.foldl_cons, pack_some hns.1 hfits, if_neg (by omega)]
    exact ih hns.2 (by omega) (by omega) _

structure Stored (bufferSize : ℕ) (ns : List SettingsBlobNode) (memory memory' : ℕ → UInt8)
    (pos count : ℕ) : Prop where
  count_le : count ≤ ns.length
  all_iff : count = ns.length ↔ pos + (ns.map recordSize).sum ≤ bufferSize
  outside : ∀ a, a < pos ∨ bufferSize ≤ a → memory' a = memory a
  records : RecordsInside memory' bufferSize count pos
  some_blob : ∀ q ∈ recordPositions memory' count pos, blobSizeAt memory' q ≠ 0
  blobs : (recordPositions memory' count pos).map (storedBlobAt memory') =
    (ns.take count).map storedBlobOf

theorem Stored.cons {memory' : ℕ → UInt8} {pos count size : ℕ}
    (h : Stored size ns
      (writeSettingsBlob memory pos (calcSettingsBlobSizeAligned node.blobSize) node) memory'
      (pos + recordSize node) count)
    (hnode : 0 < node.blob.length) (hfits : node.blob.length + 31 < 2 ^ 32)
    (hinside : pos + recordSize node ≤ size) :
    Stored size (node :: ns) memory memory' pos (count + 1) := by
  have hsize : node.blob.length + 24 ≤ recordSize node := by
    rw [recordSize]
    omega
  generalize hmemory : writeSettingsBlob memory pos (calcSettingsBlobSizeAligned node.blobSize)
    node = memory₁ at h
  have hsize₁ : sizeAt memory₁ pos = recordSize node := by
    rw [← hmemory, sizeAt_write, toNat_aligned hfits]
  have hblobSize₁ : blobSizeAt memory₁ pos = node.blob.length := by
    rw [← hmemory, blobSizeAt_write]
  have hstored₁ : storedBlobAt memory₁ pos = storedBlobOf node := by
    rw [← hmemory, storedBlobAt_write, storedBlobOf]
  have hsame : Carries memory₁ memory' 0 (pos + recordSize node) 0 := by
    intro i _ hi
    rw [Nat.zero_add]
    exact h.outside i (Or.inl hi)
  have hsize' : sizeAt memory' pos = recordSize node := by
    rw [← hsize₁, ← hsame.sizeAt (Nat.zero_le _) (by omega), Nat.zero_add]
  have hblobSize' : blobSizeAt memory' pos = node.blob.length := by
    rw [← hblobSize₁, ← hsame.blobSizeAt (Nat.zero_le _) (by omega), Nat.zero_add]
  have hstored' : storedBlobAt memory' pos = storedBlobOf node := by
    rw [← hstored₁, ← hsame.storedBlobAt (Nat.zero_le _) (by omega) (by rw [hblobSize₁]; omega),
      Nat.zero_add]
  refine ⟨?_, ?_, ?_, ?_, ?_, ?_⟩
  · rw [List.length_cons]
    exact Nat.succ_le_succ h.count_le
  · rw [List.length_cons, Nat.add_right_cancel_iff, h.all_iff, List.map_cons, List.sum_cons,
      Nat.add_assoc]
  · intro a ha
    rw [h.outside a (by omega), ← hmemory]
    exact writeSettingsBlob_of_outside (by omega)
  · rw [recordsInside_succ, hsize', hblobSize']
    exact ⟨⟨by omega, fun _ => by omega⟩, fun _ => ⟨by omega, by omega⟩, h.records⟩
  · rw [recordPositions, List.forall_mem_cons, hsize', hblobSize']
    exact ⟨hnode.ne', h.some_blob⟩
  · rw [recordPositions, List.map_cons, hsize', hstored', h.blobs, List.take_succ_cons,
      List.map_cons]

theorem stored_foldl_pack (hns : ∀ node ∈ ns, 0 < node.blob.length) {pos : ℕ}
    (hsum : pos + (ns.map recordSize).sum < 2 ^ 32) (hpos : pos ≤ bufferSize.toNat)
    (memory : ℕ → UInt8) (total count : UInt32) :
    ∃ memory' k,
      (ns.foldl (pack bufferSize) ⟨total, some memory, pos, count⟩).buffer =
        some memory' ∧
      (ns.foldl (pack bufferSize) ⟨total, some memory, pos, count⟩).blobCount =
        count + UInt32.ofNat k ∧
      Stored bufferSize.toNat ns memory memory' pos k := by
  induction ns generalizing pos memory total count with
  | nil =>
    refine ⟨memory, 0, rfl, (UInt32.add_zero count).symm, Nat.le_refl 0, ?_, fun _ _ => rfl,
      ⟨nofun, nofun⟩, nofun, rfl⟩
    exact iff_of_true rfl hpos
  | cons node ns ih =>
    rw [List.forall_mem_cons] at hns
    rw [List.map_cons, List.sum_cons] at hsum
    have hfits : node.blob.length + 31 < 2 ^ 32 := by
      rw [recordSize] at hsum
      omega
    rw [List.foldl_cons, pack_some hns.1 hfits]
    by_cases hroom : pos + recordSize node ≤ bufferSize.toNat
    · rw [if_pos hroom]
      obtain ⟨memory', k, hbuffer, hcount, hstored⟩ := ih hns.2 (by omega) hroom
        (writeSettingsBlob memory pos (calcSettingsBlobSizeAligned node.blobSize) node)
        (total + calcSettingsBlobSizeAligned node.blobSize) (count + 1)
      refine ⟨memory', k + 1, hbuffer, ?_, hstored.cons hns.1 hfits hroom⟩
      rw [hcount, UInt32.add_assoc, UInt32.add_comm 1]
      congr 1
      exact (UInt32.ofNat_add k 1).symm
    · rw [if_neg hroom]
      obtain ⟨hbuffer, hcount⟩ := @foldl_pack_past bufferSize ns memory hns.2
        (pos + recordSize node) (by omega) (by omega)
        (total + calcSettingsBlobSizeAligned node.blobSize) count
      refine ⟨memory, 0, hbuffer, hcount.trans (UInt32.add_zero count).symm, Nat.zero_le _, ?_,
        fun _ _ => rfl, ⟨nofun, nofun⟩, nofun, rfl⟩
      rw [List.map_cons, List.sum_cons]
      refine iff_of_false (Nat.succ_ne_zero _).symm ?_
      omega

end Nodes

/-! ## Buffers -/

section Buffers

variable {C : Type}

/-- A walk stays in the buffer, and examines each record that the header counts once. -/
structure Walks (component : List UInt8 → C) (memory : ℕ → UInt8) (size : ℕ)
    (connectionId : UInt16) : Prop where
  inside : ∀ r ∈ (parseSettingsBlobs component (some memory) size connectionId).2.reads,
    r.1 + r.2 ≤ size
  visited : (parseSettingsBlobs component (some memory) size connectionId).2.visited =
    if 0 < size then
      recordPositions memory (nblobsAt memory (blobsHeader memory connectionId))
        (blobsHeader memory connectionId + 8)
    else []
  nodup : (parseSettingsBlobs component (some memory) size connectionId).2.visited.Nodup

/-- The header and the records lie in the buffer, unless it is empty. -/
def BlobsInside (memory : ℕ → UInt8) (size : ℕ) (connectionId : UInt16) : Prop :=
  0 < size → blobsHeader memory connectionId + 8 ≤ size ∧
    RecordsInside memory size (nblobsAt memory (blobsHeader memory connectionId))
      (blobsHeader memory connectionId + 8)

/-- What becomes of memory in which all blobs were asked for. -/
structure BlobsStored (component : List UInt8 → C) (nodes : List SettingsBlobNode)
    (memory memory' : ℕ → UInt8) (bufferSize : ℕ) : Prop where
  outside : ∀ a, bufferSize ≤ a → memory' a = memory a
  no_header : bufferSize < 8 → memory' = memory
  version : 8 ≤ bufferSize → leNat (readAt memory' 0 4) = 1
  stored : 8 ≤ bufferSize → storedBlobs memory' <+: blobsOf nodes
  all_stored : 8 ≤ bufferSize →
    (storedBlobs memory' = blobsOf nodes ↔ requiredSize nodes ≤ bufferSize)
  walked : 8 ≤ bufferSize → ∀ (sent : ℕ → UInt8) (size : ℕ) (connectionId : UInt16),
    Carries memory' sent 0 bufferSize (blobsHeader sent connectionId) →
    blobsHeader sent connectionId + bufferSize ≤ size →
      Walks component sent size connectionId ∧
        (parseSettingsBlobs component (some sent) size connectionId).2.output =
          (storedBlobs memory').map fun stored => component stored.blob

/-- The size that is told is that of a buffer for all blobs, and a buffer of any size gets as many
as it has room for. -/
structure Packs (component : List UInt8 → C) (nodes : List SettingsBlobNode) : Prop where
  size_told : ∀ bufferSize,
    (getAllSettingsBlobs nodes none bufferSize).1.toNat = requiredSize nodes
  size_again : ∀ memory bufferSize,
    (getAllSettingsBlobs nodes (some memory) bufferSize).1.toNat = requiredSize nodes
  blobs_stored : ∀ memory bufferSize, ∃ memory',
    (getAllSettingsBlobs nodes (some memory) bufferSize).2 = some memory' ∧
      BlobsStored component nodes memory memory' bufferSize.toNat

variable {component : List UInt8 → C} {nodes : List SettingsBlobNode} {memory : ℕ → UInt8}
  {size : ℕ} {connectionId : UInt16}

theorem walks_iff :
    Walks component memory size connectionId ↔ BlobsInside memory size connectionId := by
  rcases Nat.eq_zero_or_pos size with rfl | hsize
  · refine ⟨fun _ h => absurd h (Nat.lt_irrefl 0), fun _ => ⟨nofun, rfl, List.nodup_nil⟩⟩
  · have hwalk : parseSettingsBlobs component (some memory) size connectionId = _ := if_pos hsize
    have hloop := @parseBlobs_iff C component memory size
      (nblobsAt memory (blobsHeader memory connectionId))
      (blobsHeader memory connectionId + 8)
    have hpath : ∀ r ∈ (if connectionId ≠ driverTypeKmd then [((0, 2) : ℕ × ℕ)] else []),
        r.1 + r.2 ≤ blobsHeader memory connectionId := by
      intro r hr
      rw [blobsHeader]
      split at hr
      · rename_i hpath
        rw [List.mem_singleton.mp hr, if_pos hpath]
        exact Nat.le_add_left 2 _
      · cases hr
    rw [BlobsInside, ← hloop]
    constructor
    · rintro ⟨hinside, hvisited, hnodup⟩ -
      rw [if_pos hsize] at hvisited
      rw [hvisited] at hnodup
      rw [hwalk] at hinside hvisited
      rw [List.forall_mem_append, List.forall_mem_cons] at hinside
      obtain ⟨-, hheader, hreads⟩ := hinside
      exact ⟨by omega, hreads, hvisited, hnodup⟩
    · intro h
      obtain ⟨hheader, hreads, hvisited, hnodup⟩ := h hsize
      have hsame : (parseSettingsBlobs component (some memory) size connectionId).2.visited =
          recordPositions memory (nblobsAt memory (blobsHeader memory connectionId))
            (blobsHeader memory connectionId + 8) := by
        rw [hwalk]
        exact hvisited
      refine ⟨?_, ?_, ?_⟩
      · rw [hwalk]
        rw [List.forall_mem_append, List.forall_mem_cons]
        refine ⟨fun r hr => ?_, by omega, hreads⟩
        have := hpath r hr
        omega
      · rw [if_pos hsize]
        exact hsame
      · rw [hsame]
        exact hnodup

theorem walked_of_records {count header bufferSize : ℕ} {sent : ℕ → UInt8}
    (hcount : nblobsAt memory 0 = count) (hrecords : RecordsInside memory bufferSize count 8)
    (hsome : ∀ q ∈ recordPositions memory count 8, blobSizeAt memory q ≠ 0)
    (hheader : 8 ≤ bufferSize) (hsent : header = blobsHeader sent connectionId)
    (hcarries : Carries memory sent 0 bufferSize header) (hsize : header + bufferSize ≤ size) :
    Walks component sent size connectionId ∧
      (parseSettingsBlobs component (some sent) size connectionId).2.output =
        (storedBlobs memory).map fun stored => component stored.blob := by
  have hnblobs : nblobsAt sent header = count := by
    rw [← hcount]
    exact congrArg leNat (hcarries.readAt (Nat.zero_le _) (by omega : 4 + 4 ≤ bufferSize))
  obtain ⟨hsome', hstored⟩ := hrecords.stored_of_carries hcarries (Nat.zero_le _) hsome
  constructor
  · rw [walks_iff]
    intro _
    rw [← hsent, hnblobs]
    exact ⟨by omega, hrecords.inside_of_carries hcarries (Nat.zero_le _) hsize⟩
  · have hwalk : parseSettingsBlobs component (some sent) size connectionId = _ :=
      if_pos (by omega)
    rw [hwalk]
    rw [← hsent, hnblobs, output_parseBlobs hsome', storedBlobs, hcount, ← hstored, List.map_map]
    rfl

theorem blobsStored_of_lt (component : List UInt8 → C) (h : requiredSize nodes < 2 ^ 32)
    (memory : ℕ → UInt8) (bufferSize : UInt32) :
    ∃ memory', (getAllSettingsBlobs nodes (some memory) bufferSize).2 = some memory' ∧
      BlobsStored component nodes memory memory' bufferSize.toNat := by
  have hge : bufferSize ≥ 8 ↔ 8 ≤ bufferSize.toNat := UInt32.le_iff_toNat_le
  rw [getAllSettingsBlobs, foldl_pack_filter]
  rw [requiredSize] at h
  generalize hns : nodes.filter (fun node => 0 < node.blob.length) = ns at h
  have hsome : ∀ node ∈ ns, 0 < node.blob.length := by
    intro node hnode
    rw [← hns] at hnode
    exact of_decide_eq_true (List.mem_filter.mp hnode).2
  by_cases hheader : 8 ≤ bufferSize.toNat
  · obtain ⟨memory₁, k, hbuffer, hcount, hstored⟩ := stored_foldl_pack hsome h hheader memory 8 0
    have hlength : ns.length ≤ (ns.map recordSize).sum := by
      have hsame : (ns.map recordSize).length = ns.length := List.length_map _
      rw [← hsame]
      apply List.length_le_sum_of_one_le
      intro size hsize
      obtain ⟨node, -, rfl⟩ := List.mem_map.mp hsize
      rw [recordSize]
      omega
    have hk := hstored.count_le
    have hcountNat : (0 + UInt32.ofNat k).toNat = k := by
      rw [UInt32.zero_add]
      exact Nat.mod_eq_of_lt (by omega)
    rw [hbuffer, hcount, hcountNat, Option.map_some, if_pos (hge.mpr hheader)]
    generalize hmemory : writeAt memory₁ 0 (leBytes 4 1 ++ leBytes 4 k) = memory'
    have hcarries : Carries memory₁ memory' 8 bufferSize.toNat 0 := by
      intro i hlow _
      rw [Nat.zero_add, ← hmemory]
      exact writeAt_of_disjoint (Or.inr (by simpa using hlow))
    have hread : readAt memory' 0 8 = leBytes 4 1 ++ leBytes 4 k := by
      rw [← hmemory]
      exact readAt_writeAt _ _ _
    have hversion : leNat (readAt memory' 0 4) = 1 := by
      have hpart : readAt memory' 0 4 = slice (leBytes 4 1 ++ leBytes 4 k) 0 4 :=
        @readAt_add _ memory' 0 0 4 _ hread (by simp)
      rw [hpart]
      rfl
    have hnblobs : nblobsAt memory' 0 = k := by
      have hpart : readAt memory' 4 4 = slice (leBytes 4 1 ++ leBytes 4 k) 4 4 :=
        @readAt_add _ memory' 0 4 4 _ hread (by simp)
      have hslice : slice (leBytes 4 1 ++ leBytes 4 k) 4 4 = leBytes 4 k := rfl
      rw [nblobsAt, Nat.zero_add, hpart, hslice]
      exact leNat_leBytes_of_lt (by norm_num; omega)
    have hrecords := hstored.records.inside_of_carries hcarries (Nat.le_refl _)
      (Nat.le_of_eq (Nat.zero_add _))
    obtain ⟨hblobs, hsame⟩ :=
      hstored.records.stored_of_carries hcarries (Nat.le_refl _) hstored.some_blob
    rw [Nat.zero_add] at hrecords hblobs hsame
    have hall : storedBlobs memory' = (ns.take k).map storedBlobOf := by
      rw [storedBlobs, hnblobs, hsame, hstored.blobs]
    have hdue : blobsOf nodes = ns.map storedBlobOf := by
      rw [blobsOf, hns]
      rfl
    refine ⟨memory', rfl, ⟨?_, fun hshort => absurd hheader (by omega), fun _ => hversion, ?_, ?_,
      ?_⟩⟩
    · intro a ha
      rw [← hmemory, writeAt_of_disjoint, hstored.outside a (Or.inr ha)]
      simp only [List.length_append, length_leBytes]
      omega
    · intro _
      rw [hall, hdue]
      exact (List.take_prefix k ns).map _
    · intro _
      rw [hall, hdue, requiredSize, hns, ← hstored.all_iff]
      constructor
      · intro heq
        have := congrArg List.length heq
        simp only [List.length_map, List.length_take] at this
        omega
      · intro hfull
        rw [hfull, List.take_length]
    · intro _ sent size connectionId hcarries hsize
      exact walked_of_records hnblobs hrecords hblobs hheader rfl hcarries hsize
  · obtain ⟨hbuffer, hcount⟩ := @foldl_pack_past bufferSize ns memory hsome 8 h (by omega) 8 0
    refine ⟨memory, ?_, ⟨fun _ _ => rfl, fun _ => rfl, ?_, ?_, ?_, ?_⟩⟩
    · dsimp only
      rw [hbuffer, Option.map_some, if_neg (hge.not.mpr hheader)]
    all_goals exact fun hroom => absurd hroom hheader

theorem total_of_lt (h : requiredSize nodes < 2 ^ 32) (buffer : Option (ℕ → UInt8))
    (bufferSize : UInt32) :
    (getAllSettingsBlobs nodes buffer bufferSize).1.toNat = requiredSize nodes := by
  rw [getAllSettingsBlobs, foldl_pack_filter]
  exact total_foldl_pack
    (fun node hnode => of_decide_eq_true (List.mem_filter.mp hnode).2) ⟨8, buffer, 8, 0⟩ h

end Buffers

end DevDriver.Analysis
