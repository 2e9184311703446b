import DevDriver.Analysis.HashEntries
import Mathlib.Data.Finmap

/-!
# The operations of a hash container

What a container holds is a finite map, and each of its operations is one of that map: a failed one
changes nothing, and when an operation of the container is done, what holds of the container between
the operations holds again.
-/

namespace DevDriver.Analysis

open Library Model

variable {Key Value : Type} {shape : HashShape Key} {t t' : HashBase Key Value}
  {e : HashMapEntry Key Value} {key : Key}

/-! ## The finite map -/

abbrev FiniteMap (Key Value : Type) := Finmap fun _ : Key => Value

def contentOf [DecidableEq Key] (t : HashBase Key Value) : FiniteMap Key Value :=
  (t.entries.map fun e => (⟨e.key, e.value⟩ : Σ _ : Key, Value)).toFinmap

theorem HashValid.nodupKeys (h : HashValid shape t) :
    (t.entries.map fun e => (⟨e.key, e.value⟩ : Σ _ : Key, Value)).NodupKeys := by
  have hnodup := h.nodup
  unfold List.NodupKeys List.keys
  rwa [List.map_map]

variable [DecidableEq Key]

section

variable (h : HashValid shape t)

include h

theorem HashValid.lookup_eq_some {value : Value} :
    (contentOf t).lookup key = some value ↔ ⟨key, value⟩ ∈ t.entries := by
  rw [contentOf, Finmap.dlookup_list_toFinmap, ← Option.mem_def,
    List.mem_dlookup_iff h.nodupKeys, List.mem_map]
  constructor
  · rintro ⟨e, he, hsame⟩
    cases hsame
    exact he
  · intro he
    exact ⟨_, he, rfl⟩

theorem HashValid.contentOf_eq {m : FiniteMap Key Value}
    (hentries : ∀ key value, ⟨key, value⟩ ∈ t.entries ↔ m.lookup key = some value) :
    contentOf t = m := by
  apply Finmap.ext_lookup
  intro key
  apply Option.ext
  intro value
  rw [h.lookup_eq_some, hentries]

theorem HashValid.notMem_iff :
    key ∉ contentOf t ↔ ∀ a ∈ t.entries, a.key ≠ key := by
  rw [Finmap.mem_iff, not_exists]
  constructor
  · rintro hnone a ha rfl
    exact hnone a.value (h.lookup_eq_some.mpr ha)
  · intro hne value hlookup
    exact hne _ (h.lookup_eq_some.mp hlookup) rfl

theorem HashValid.mem_of_mem_entries (he : e ∈ t.entries) :
    e.key ∈ contentOf t :=
  Finmap.mem_iff.mpr ⟨e.value, h.lookup_eq_some.mpr he⟩

/-- A value put where the other entries, `rest`, do not have its key. -/
theorem contentOf_put (h' : HashValid shape t') (rest : List (HashMapEntry Key Value))
    (hrest : ∀ a ∈ rest, a.key ≠ e.key)
    (hbefore : ∀ a, a.key ≠ e.key → (a ∈ t.entries ↔ a ∈ rest))
    (hafter : t'.entries.Perm (e :: rest)) :
    contentOf t' = (contentOf t).insert e.key e.value := by
  apply h'.contentOf_eq
  intro key value
  rw [hafter.mem_iff, List.mem_cons]
  by_cases hkey : key = e.key
  · subst hkey
    rw [Finmap.lookup_insert, Option.some.injEq]
    constructor
    · rintro (hsame | hmem)
      · exact congrArg (·.value) hsame.symm
      · exact absurd rfl (hrest ⟨e.key, value⟩ hmem)
    · rintro rfl
      exact .inl rfl
  · rw [Finmap.lookup_insert_of_ne _ hkey, h.lookup_eq_some, hbefore ⟨key, value⟩ hkey]
    constructor
    · rintro (rfl | hmem)
      · exact absurd rfl hkey
      · exact hmem
    · exact .inr

theorem contentOf_added (h' : HashValid shape t')
    (hnew : ∀ a ∈ t.entries, a.key ≠ e.key) (hperm : t'.entries.Perm (e :: t.entries)) :
    contentOf t' = (contentOf t).insert e.key e.value :=
  contentOf_put h h' _ hnew (fun _ _ => .rfl) hperm

theorem contentOf_replaced (h' : HashValid shape t')
    {before after : List (HashMapEntry Key Value)} {a : HashMapEntry Key Value}
    (hkey : a.key = e.key) (hbefore : t.entries = before ++ a :: after)
    (hafter : t'.entries = before ++ e :: after) :
    contentOf t' = (contentOf t).insert e.key e.value := by
  have hnodup := h.nodup
  rw [hbefore, List.map_append, List.map_cons, List.nodup_middle, List.nodup_cons, hkey,
    ← List.map_append] at hnodup
  refine contentOf_put h h' (before ++ after) (fun x hx hsame =>
    hnodup.1 (List.mem_map.mpr ⟨x, hx, hsame⟩)) (fun x hx => ?_) (hafter ▸ List.perm_middle)
  rw [hbefore, List.perm_middle.mem_iff, List.mem_cons, or_iff_right]
  rintro rfl
  exact hx hkey

theorem contentOf_removed (h' : HashValid shape t')
    (hperm : t.entries.Perm (e :: t'.entries)) : contentOf t' = (contentOf t).erase e.key := by
  have hnodup := (hperm.map (·.key)).nodup_iff.mp h.nodup
  rw [List.map_cons, List.nodup_cons] at hnodup
  apply h'.contentOf_eq
  intro key value
  by_cases hkey : key = e.key
  · subst hkey
    rw [Finmap.lookup_erase]
    constructor
    · intro hmem
      exact absurd (List.mem_map.mpr ⟨_, hmem, rfl⟩) hnodup.1
    · nofun
  · rw [Finmap.lookup_erase_ne hkey, h.lookup_eq_some, hperm.mem_iff, List.mem_cons]
    constructor
    · exact .inr
    · rintro (rfl | hmem)
      · exact absurd rfl hkey
      · exact hmem

end

theorem contentOf_eq_empty (hentries : t.entries = []) : contentOf t = ∅ := by
  rw [contentOf, hentries]
  rfl

/-! ## Each operation -/

/-- What holds of a container between the operations: memory is in use when there are groups, and
is there when it is in use. -/
structure HashInvariant (shape : HashShape Key) (t : HashBase Key Value) : Prop where
  valid : HashValid shape t
  unused : t.curBlock = none → ∀ bucket, t.chain bucket = []
  current : CurrentHasMemory t

theorem findOrAllocate_unused (shape : HashShape Key) (e : HashMapEntry Key Value)
    (canAllocate : Bool) (heap : BlockHeap)
    (h : t.curBlock = none → ∀ bucket, t.chain bucket = []) :
    (t.findOrAllocate shape canAllocate e heap).2.1.curBlock = none →
      ∀ bucket, (t.findOrAllocate shape canAllocate e heap).2.1.chain bucket = [] := by
  unfold HashBase.findOrAllocate
  dsimp only
  split
  · exact h
  · rename_i group hslot
    intro hnone
    have hempty := h hnone (shape.bucket e.key)
    rw [hempty] at hslot
    cases hslot
  · cases htaken : (t.allocateBucket canAllocate heap).1 with
    | false =>
      obtain ⟨hsame, -⟩ := allocateBucket_failed htaken
      rw [if_neg (by simp), hsame]
      exact h
    | true =>
      rw [if_pos rfl]
      intro hnone
      exact absurd hnone (allocateBucket_curBlock htaken)

/-- What `Create` does to the map: it fails for a key that is there, and where memory is missing. -/
inductive CreateResult (canAllocate : Bool) (m : FiniteMap Key Value)
    (e : HashMapEntry Key Value) : Result → FiniteMap Key Value → Prop where
  | success (hnew : e.key ∉ m) : CreateResult canAllocate m e .success (m.insert e.key e.value)
  | entryExists (hold : e.key ∈ m) : CreateResult canAllocate m e .entryExists m
  | insufficientMemory (hnew : e.key ∉ m) (hmemory : canAllocate = false) :
      CreateResult canAllocate m e .insufficientMemory m

theorem create_spec (h : HashInvariant shape t) (canAllocate : Bool)
    (e : HashMapEntry Key Value) (heap : BlockHeap) :
    HashInvariant shape (t.create shape canAllocate e heap).2.1 ∧
      CreateResult canAllocate (contentOf t) e (t.create shape canAllocate e heap).1
        (contentOf (t.create shape canAllocate e heap).2.1) := by
  have hfind := findOrAllocate_spec h.valid canAllocate e heap
  have hunused := findOrAllocate_unused shape e canAllocate heap h.unused
  have hcurrent := h.current.findOrAllocate shape canAllocate e heap
  unfold HashBase.create
  generalize t.findOrAllocate shape canAllocate e heap = found at *
  cases hfind with
  | existed hat hkey =>
    refine ⟨h, .entryExists ?_⟩
    rw [← hkey]
    exact h.valid.mem_of_mem_entries (mem_entries.mpr ⟨_, hat.mem⟩)
  | added hvalid hnew hperm =>
    refine ⟨⟨hvalid, hunused, hcurrent.1⟩, ?_⟩
    rw [contentOf_added h.valid hvalid hnew hperm]
    exact .success (h.valid.notMem_iff.mpr hnew)
  | failed hnew =>
    exact ⟨h, .insufficientMemory (h.valid.notMem_iff.mpr hnew) (hcurrent.2 rfl)⟩

/-- What `Insert` does to the map: it fails only for a new key, where memory is missing. -/
inductive InsertResult (canAllocate : Bool) (m : FiniteMap Key Value)
    (e : HashMapEntry Key Value) : Result → FiniteMap Key Value → Prop where
  | success : InsertResult canAllocate m e .success (m.insert e.key e.value)
  | insufficientMemory (hnew : e.key ∉ m) (hmemory : canAllocate = false) :
      InsertResult canAllocate m e .insufficientMemory m

theorem insert_spec (h : HashInvariant shape t) (canAllocate : Bool)
    (e : HashMapEntry Key Value) (heap : BlockHeap) :
    HashInvariant shape (t.insert shape canAllocate e heap).2.1 ∧
      InsertResult canAllocate (contentOf t) e (t.insert shape canAllocate e heap).1
        (contentOf (t.insert shape canAllocate e heap).2.1) := by
  have hfind := findOrAllocate_spec h.valid canAllocate e heap
  have hunused := findOrAllocate_unused shape e canAllocate heap h.unused
  have hcurrent := h.current.findOrAllocate shape canAllocate e heap
  unfold HashBase.insert
  generalize t.findOrAllocate shape canAllocate e heap = found at *
  cases hfind with
  | existed hat hkey =>
    obtain ⟨hvalid, before, after, hbefore, hafter⟩ := h.valid.putAt hat hkey
    refine ⟨⟨hvalid, ?_, h.current⟩, ?_⟩
    · intro hnone
      have hmem := hat.mem
      rw [h.unused hnone] at hmem
      cases hmem
    · dsimp only
      rw [contentOf_replaced h.valid hvalid hkey hbefore hafter]
      exact .success
  | added hvalid hnew hperm =>
    refine ⟨⟨hvalid, hunused, hcurrent.1⟩, ?_⟩
    rw [contentOf_added h.valid hvalid hnew hperm]
    exact .success
  | failed hnew =>
    exact ⟨h, .insufficientMemory (h.valid.notMem_iff.mpr hnew) (hcurrent.2 rfl)⟩

theorem HashInvariant.removeAt (h : HashInvariant shape t) {bucket group index : ℕ}
    (hat : AtPlace (t.chain bucket) group index e) :
    HashInvariant shape (t.removeAt bucket (group, index)) ∧
      contentOf (t.removeAt bucket (group, index)) = (contentOf t).erase e.key := by
  have hbucket : bucket < t.buckets.length := by
    by_contra hout
    have hmem := hat.mem
    rw [chain_of_le (not_lt.mp hout)] at hmem
    cases hmem
  obtain ⟨front, pre, post, back, hchain, rfl, rfl⟩ := hat
  obtain ⟨post', back', -, -, -, -, hvalid, hperm⟩ := h.valid.removeAt hbucket hchain
  refine ⟨⟨hvalid, ?_, h.current⟩, contentOf_removed h.valid hvalid hperm⟩
  intro hnone
  have hempty := h.unused hnone bucket
  rw [hchain] at hempty
  simp at hempty

inductive EraseResult (m : FiniteMap Key Value) (key : Key) :
    Result → FiniteMap Key Value → Prop where
  | success (hold : key ∈ m) : EraseResult m key .success (m.erase key)
  | error (hnone : key ∉ m) : EraseResult m key .error m

theorem erase_spec (h : HashInvariant shape t) (key : Key) :
    HashInvariant shape (t.erase shape key).2 ∧
      EraseResult (contentOf t) key (t.erase shape key).1 (contentOf (t.erase shape key).2) := by
  unfold HashBase.erase
  rw [findPlaceBeforeEmpty_eq shape.one_le (h.valid.packed _)]
  cases hfind : findPlace (fun e : HashMapEntry Key Value => e.key = key)
      (t.chain (shape.bucket key)) with
  | none => exact ⟨h, .error (h.valid.notMem_iff.mpr ((findEntry_eq_none h.valid).mp hfind))⟩
  | some place =>
    obtain ⟨a, hat, rfl⟩ := findEntry_eq_some hfind
    obtain ⟨hinvariant, hcontent⟩ := h.removeAt hat
    refine ⟨hinvariant, ?_⟩
    rw [hcontent]
    exact .success (h.valid.mem_of_mem_entries (mem_entries.mpr ⟨_, hat.mem⟩))

theorem hashInvariant_new : HashInvariant shape (.new shape : HashBase Key Value) ∧
    contentOf (.new shape : HashBase Key Value) = ∅ := by
  have hchain : ∀ bucket, (HashBase.new shape : HashBase Key Value).chain bucket = [] := by
    intro bucket
    unfold HashBase.chain HashBase.new
    rw [List.getD_eq_getElem?_getD, List.getElem?_replicate]
    split <;> rfl
  have hentries : (HashBase.new shape : HashBase Key Value).entries = [] := by
    simp [HashBase.entries, HashBase.new]
  refine ⟨⟨⟨?_, ?_, ?_, ?_, ?_⟩, fun _ => hchain, fun block h => absurd h (by simp [HashBase.new])⟩,
    contentOf_eq_empty hentries⟩
  · exact List.length_replicate
  · intro bucket
    rw [hchain]
    exact packed_nil
  · intro bucket e he
    rw [hchain] at he
    cases he
  · rw [hentries]
    exact .nil
  · rw [hentries]
    rfl

theorem hashInvariant_emptied (h : HashInvariant shape t) (hsize : t'.numEntries = 0)
    (hcur : t'.curBlock = none) (hbuckets : t'.buckets = t.buckets.map fun _ => []) :
    HashInvariant shape t' ∧ contentOf t' = ∅ := by
  have hnew : t'.buckets = (HashBase.new shape : HashBase Key Value).buckets := by
    rw [hbuckets, List.map_const', h.valid.length]
    rfl
  obtain ⟨hinvariant, hcontent⟩ := @hashInvariant_new Key Value shape _
  have hvalid := hinvariant.valid.congr hnew hsize
  refine ⟨⟨hvalid, fun _ bucket => ?_, fun block hblock => nomatch hcur.symm.trans hblock⟩, ?_⟩
  · unfold HashBase.chain
    rw [hnew]
    exact hinvariant.unused rfl bucket
  · rw [← hcontent, contentOf, contentOf, HashBase.entries, hnew]
    rfl

theorem HashInvariant.contentOf_unused (h : HashInvariant shape t) (hnone : t.curBlock = none) :
    contentOf t = ∅ := by
  apply contentOf_eq_empty
  rw [List.eq_nil_iff_forall_not_mem]
  intro e he
  obtain ⟨bucket, hmem⟩ := mem_entries.mp he
  rw [h.unused hnone] at hmem
  cases hmem

theorem reset_spec (h : HashInvariant shape t) :
    HashInvariant shape t.reset ∧ contentOf t.reset = ∅ := by
  unfold HashBase.reset
  split
  · exact hashInvariant_emptied h rfl rfl rfl
  · rename_i hnone
    exact ⟨h, h.contentOf_unused hnone⟩

theorem clear_spec (h : HashInvariant shape t) (heap : BlockHeap) :
    HashInvariant shape (t.clear heap).1 ∧ contentOf (t.clear heap).1 = ∅ := by
  unfold HashBase.clear
  split
  · exact hashInvariant_emptied h rfl rfl rfl
  · rename_i hnone
    exact ⟨h, h.contentOf_unused hnone⟩

theorem HashInvariant.congr (h : HashInvariant shape t) (hbuckets : t'.buckets = t.buckets)
    (hsize : t'.numEntries = t.numEntries) (hcur : t'.curBlock = t.curBlock)
    (hblocks : ∀ block ∈ t.curBlock, t'.blocks block = t.blocks block) :
    HashInvariant shape t' ∧ contentOf t' = contentOf t := by
  refine ⟨⟨h.valid.congr hbuckets hsize, ?_, ?_⟩, ?_⟩
  · unfold HashBase.chain
    rw [hbuckets, hcur]
    exact h.unused
  · intro block hblock
    rw [hcur] at hblock
    rw [hblocks block hblock]
    exact h.current block hblock
  · unfold contentOf HashBase.entries
    rw [hbuckets]

omit [DecidableEq Key] in
theorem lt_usedBlocks {block : ℕ} (h : block ∈ t.curBlock) : block < t.usedBlocks := by
  rw [HashBase.usedBlocks, Option.mem_def.mp h]
  exact Nat.lt_succ_self block

theorem swap_fst_spec (t : HashBase Key Value) {other : HashBase Key Value}
    (h : HashInvariant shape other) : HashInvariant shape (t.swap other).1 ∧
      contentOf (t.swap other).1 = contentOf other :=
  h.congr rfl rfl rfl fun _ hblock => if_pos ((lt_usedBlocks hblock).trans_le (le_max_right _ _))

theorem swap_snd_spec (other : HashBase Key Value) (h : HashInvariant shape t) :
    HashInvariant shape (t.swap other).2 ∧ contentOf (t.swap other).2 = contentOf t :=
  h.congr rfl rfl rfl fun _ hblock => if_pos ((lt_usedBlocks hblock).trans_le (le_max_left _ _))

theorem removeIterator_spec (h : HashInvariant shape t) {it : HashIterator} {group : ℕ}
    (hgroup : it.group = some group) (hget : t.get it = some e)
    (hstart : it.startBucket < shape.kPaddedNumBuckets) : ∃ it' t',
      t.removeIterator shape it group = some (it', t') ∧ HashInvariant shape t' ∧
        contentOf t' = (contentOf t).erase e.key := by
  have hat : AtPlace (t.chain it.currentBucket) group it.indexInBucket e := by
    rw [HashBase.get, hgroup, Option.bind_some, HashBase.entryAt] at hget
    obtain ⟨g, hg, he⟩ := Option.bind_eq_some_iff.mp hget
    exact atPlace_of_getElem? hg he
  obtain ⟨hinvariant, hcontent⟩ := h.removeAt hat
  unfold HashBase.removeIterator
  dsimp only
  split
  · obtain ⟨it', hnext⟩ := Option.isSome_iff_exists.mp (next_isSome
      (t := t.removeAt it.currentBucket (group, it.indexInBucket)) hstart)
    refine ⟨it', _, ?_, hinvariant, hcontent⟩
    rw [hnext]
    rfl
  · exact ⟨it, _, rfl, hinvariant, hcontent⟩

end DevDriver.Analysis
