import DevDriver.Model.HashBase
import Mathlib.Data.List.GetD

/-!
# The entries of a hash container

In every bucket the groups are packed, the entries are those whose keys belong there, and no key is
there twice.
-/

namespace DevDriver.Analysis

open Library Model HashBase

variable {Key Value : Type} {shape : HashShape Key} {t t' : HashBase Key Value}
  {e : HashMapEntry Key Value} {bucket : ℕ} {key : Key}

theorem bucket_lt (shape : HashShape Key) (key : Key) :
    shape.bucket key < shape.kPaddedNumBuckets := by
  unfold HashShape.bucket HashShape.kPaddedNumBuckets
  rw [Nat.and_two_pow_sub_one_eq_mod]
  exact Nat.mod_lt _ (Nat.two_pow_pos _)

/-! ## Buckets -/

theorem chain_of_le (h : t.buckets.length ≤ bucket) : t.chain bucket = [] :=
  List.getD_eq_default _ _ h

theorem entries_onChain (hbucket : bucket < t.buckets.length) : ∃ before after,
    t.entries = before ++ ((t.chain bucket).flatten ++ after) ∧
      ∀ f, (t.onChain bucket f).entries = before ++ ((f (t.chain bucket)).flatten ++ after) := by
  have hchain : t.chain bucket = t.buckets[bucket] := List.getD_eq_getElem _ _ hbucket
  refine ⟨(t.buckets.take bucket).flatten.flatten, (t.buckets.drop (bucket + 1)).flatten.flatten,
    ?_, ?_⟩
  · have hsplit : t.buckets = t.buckets.take bucket ++
        t.buckets[bucket] :: t.buckets.drop (bucket + 1) := by
      rw [← List.drop_eq_getElem_cons hbucket, List.take_append_drop]
    rw [entries, hchain]
    conv_lhs => rw [hsplit]
    simp only [List.flatten_append, List.flatten_cons]
  · intro f
    rw [entries, onChain, List.modify_eq_take_cons_drop hbucket, hchain]
    simp only [List.flatten_append, List.flatten_cons]

theorem chain_onChain
    (f : List (List (HashMapEntry Key Value)) → List (List (HashMapEntry Key Value)))
    (other : ℕ) (hbucket : bucket < t.buckets.length) :
    (t.onChain bucket f).chain other =
      if other = bucket then f (t.chain bucket) else t.chain other := by
  unfold chain onChain
  rw [List.getD_eq_getElem?_getD, List.getElem?_modify]
  split
  · rename_i h
    subst h
    rw [if_pos rfl, List.getElem?_eq_getElem hbucket, List.getD_eq_getElem _ _ hbucket]
    rfl
  · rename_i h
    rw [if_neg fun hsame => h hsame.symm, List.getD_eq_getElem?_getD]
    simp

theorem mem_entries : e ∈ t.entries ↔ ∃ bucket, e ∈ (t.chain bucket).flatten := by
  constructor
  · intro h
    rw [entries, List.mem_flatten] at h
    obtain ⟨group, hgroup, he⟩ := h
    obtain ⟨chain, hchain, hgroup⟩ := List.mem_flatten.mp hgroup
    obtain ⟨bucket, hbucket, rfl⟩ := List.getElem_of_mem hchain
    refine ⟨bucket, List.mem_flatten.mpr ⟨group, ?_, he⟩⟩
    rwa [chain, List.getD_eq_getElem _ _ hbucket]
  · rintro ⟨bucket, he⟩
    obtain ⟨group, hgroup, he⟩ := List.mem_flatten.mp he
    rcases lt_or_ge bucket t.buckets.length with hbucket | hbucket
    · rw [chain, List.getD_eq_getElem _ _ hbucket] at hgroup
      exact List.mem_flatten.mpr
        ⟨group, List.mem_flatten.mpr ⟨_, List.getElem_mem hbucket, hgroup⟩, he⟩
    · rw [chain_of_le hbucket] at hgroup
      cases hgroup

/-- Every entry is in the bucket of its key, and no key is there twice. -/
structure HashValid (shape : HashShape Key) (t : HashBase Key Value) : Prop where
  length : t.buckets.length = shape.kPaddedNumBuckets
  packed : ∀ bucket, Packed shape.kEntriesInBucket (t.chain bucket)
  home : ∀ bucket, ∀ e ∈ (t.chain bucket).flatten, shape.bucket e.key = bucket
  nodup : (t.entries.map (·.key)).Nodup
  size : t.numEntries = t.entries.length

theorem HashValid.mem_chain (h : HashValid shape t) (he : e ∈ t.entries) :
    e ∈ (t.chain (shape.bucket e.key)).flatten := by
  obtain ⟨bucket, hmem⟩ := mem_entries.mp he
  rwa [h.home bucket e hmem]

theorem HashValid.nodup_entries (h : HashValid shape t) : t.entries.Nodup := .of_map _ h.nodup

theorem HashValid.bucket_lt_length (h : HashValid shape t) (key : Key) :
    shape.bucket key < t.buckets.length := h.length ▸ bucket_lt shape key

theorem HashValid.onChain (h : HashValid shape t) (hbucket : bucket < t.buckets.length)
    {f : List (List (HashMapEntry Key Value)) → List (List (HashMapEntry Key Value))}
    {numEntries : ℕ} (hpacked : Packed shape.kEntriesInBucket (f (t.chain bucket)))
    (hhome : ∀ e ∈ (f (t.chain bucket)).flatten, shape.bucket e.key = bucket)
    (hnodup : ((t.onChain bucket f).entries.map (·.key)).Nodup)
    (hsize : numEntries = (t.onChain bucket f).entries.length) :
    HashValid shape { t.onChain bucket f with numEntries := numEntries } := by
  constructor
  · exact (List.length_modify _ _ _).trans h.length
  · intro other
    have hchain : chain { t.onChain bucket f with numEntries := numEntries } other =
      (t.onChain bucket f).chain other := rfl
    rw [hchain, chain_onChain f other hbucket]
    split
    · exact hpacked
    · exact h.packed other
  · intro other
    have hchain : chain { t.onChain bucket f with numEntries := numEntries } other =
      (t.onChain bucket f).chain other := rfl
    rw [hchain, chain_onChain f other hbucket]
    split
    · rename_i hsame
      exact hsame ▸ hhome
    · exact h.home other
  · exact hnodup
  · exact hsize

theorem HashValid.congr (h : HashValid shape t) (hbuckets : t'.buckets = t.buckets)
    (hsize : t'.numEntries = t.numEntries) : HashValid shape t' := by
  have hchain : t'.chain = t.chain := by
    unfold chain
    rw [hbuckets]
  have hentries : t'.entries = t.entries := by
    unfold entries
    rw [hbuckets]
  constructor
  · rw [hbuckets, h.length]
  · rw [hchain]
    exact h.packed
  · rw [hchain]
    exact h.home
  · rw [hentries]
    exact h.nodup
  · rw [hentries, hsize, h.size]

section Finding

variable [DecidableEq Key]

theorem findEntry_eq_some {place : ℕ × ℕ} (h : t.findEntry shape key = some place) :
    ∃ a, AtPlace (t.chain (shape.bucket key)) place.1 place.2 a ∧ a.key = key := by
  obtain ⟨a, hat, hkey⟩ := findPlace_eq_some h
  exact ⟨a, hat, of_decide_eq_true hkey⟩

theorem findEntry_eq_none (hvalid : HashValid shape t) :
    t.findEntry shape key = none ↔ ∀ a ∈ t.entries, a.key ≠ key := by
  rw [findEntry, findPlace_eq_none]
  constructor
  · rintro h a ha rfl
    exact of_decide_eq_false (h a (hvalid.mem_chain ha)) rfl
  · intro h a ha
    exact decide_eq_false (h a (mem_entries.mpr ⟨_, ha⟩))

theorem findValue_eq_some (hvalid : HashValid shape t) {value : Value} :
    t.findValue shape key = some value ↔ ⟨key, value⟩ ∈ t.entries := by
  unfold findValue
  cases hfind : t.findEntry shape key with
  | none =>
    constructor
    · nofun
    · intro hmem
      exact absurd rfl ((findEntry_eq_none hvalid).mp hfind _ hmem)
  | some place =>
    obtain ⟨a, hat, hkey⟩ := findEntry_eq_some hfind
    have hentry : t.entryAt (shape.bucket key) place = some a := hat.getElem?
    rw [Option.bind_some, hentry, Option.map_some, Option.some.injEq]
    have hmem : a ∈ t.entries := mem_entries.mpr ⟨_, hat.mem⟩
    constructor
    · rintro rfl
      rw [← hkey]
      exact hmem
    · intro hmem'
      have hsame := List.inj_on_of_nodup_map hvalid.nodup hmem hmem' hkey
      rw [hsame]

theorem contains_iff (hvalid : HashValid shape t) :
    t.contains shape key = true ↔ ∃ value, ⟨key, value⟩ ∈ t.entries := by
  unfold contains
  rw [← Option.ne_none_iff_isSome, ne_eq, findEntry_eq_none hvalid]
  constructor
  · intro h
    push Not at h
    obtain ⟨a, ha, rfl⟩ := h
    exact ⟨a.value, ha⟩
  · rintro ⟨value, hmem⟩ hnone
    exact hnone _ hmem rfl

end Finding

/-! ## Adding an entry -/

section Adding

theorem HashValid.add (h : HashValid shape t) (hnew : ∀ a ∈ t.entries, a.key ≠ e.key)
    {f : List (List (HashMapEntry Key Value)) → List (List (HashMapEntry Key Value))}
    (hpacked : Packed shape.kEntriesInBucket (f (t.chain (shape.bucket e.key))))
    (hflatten : (f (t.chain (shape.bucket e.key))).flatten =
      (t.chain (shape.bucket e.key)).flatten ++ [e]) :
    HashValid shape { t.onChain (shape.bucket e.key) f with numEntries := t.numEntries + 1 } ∧
      (t.onChain (shape.bucket e.key) f).entries.Perm (e :: t.entries) := by
  have hbucket := h.bucket_lt_length e.key
  obtain ⟨before, after, hentries, hchanged⟩ := entries_onChain hbucket
  have hperm : (t.onChain (shape.bucket e.key) f).entries.Perm (e :: t.entries) := by
    rw [hchanged, hentries, hflatten, List.append_assoc, ← List.append_assoc before,
      ← List.append_assoc before]
    exact List.perm_middle
  refine ⟨h.onChain hbucket hpacked ?_ ?_ ?_, hperm⟩
  · rw [hflatten, List.forall_mem_append]
    exact ⟨h.home _, by simp⟩
  · rw [(hperm.map _).nodup_iff, List.map_cons, List.nodup_cons]
    refine ⟨?_, h.nodup⟩
    intro hmem
    obtain ⟨a, ha, hkey⟩ := List.mem_map.mp hmem
    exact hnew a ha hkey
  · rw [hperm.length_eq, List.length_cons, h.size]

theorem takeGroup_buckets (block : ℕ) :
    (t.takeGroup block).2.buckets = t.buckets ∧
      (t.takeGroup block).2.numEntries = t.numEntries := by
  unfold takeGroup
  split <;> exact ⟨rfl, rfl⟩

theorem pMemory_takeGroup (block k : ℕ) :
    ((t.takeGroup block).2.blocks k).pMemory = (t.blocks k).pMemory := by
  unfold takeGroup setBlock
  split
  · rfl
  · dsimp only
    rcases eq_or_ne k block with rfl | hne
    · rw [Function.update_self]
    · rw [Function.update_of_ne hne]

theorem takeGroup_failed {block : ℕ} (h : (t.takeGroup block).1 = false) :
    (t.takeGroup block).2 = t ∧ (t.blocks block).pMemory = none := by
  unfold takeGroup at h ⊢
  split
  · rename_i hnone
    exact ⟨rfl, hnone⟩
  · rename_i hne
    rw [if_neg hne] at h
    cases h

variable {canAllocate : Bool} {heap : BlockHeap}

theorem allocateBucket_buckets (t : HashBase Key Value) (canAllocate : Bool) (heap : BlockHeap) :
    (t.allocateBucket canAllocate heap).2.1.buckets = t.buckets ∧
      (t.allocateBucket canAllocate heap).2.1.numEntries = t.numEntries := by
  unfold HashBase.allocateBucket
  split
  · exact takeGroup_buckets _
  · dsimp only
    obtain ⟨hbuckets, hsize⟩ := takeGroup_buckets
      (t := if ((t.callocBlock canAllocate t.nextBlock heap).1.blocks t.nextBlock).pMemory = none
        then (t.callocBlock canAllocate t.nextBlock heap).1
        else { (t.callocBlock canAllocate t.nextBlock heap).1 with
          curBlock := some t.nextBlock }) t.nextBlock
    rw [hbuckets, hsize]
    unfold callocBlock
    split <;> split <;> exact ⟨rfl, rfl⟩

theorem allocateBucket_failed (h : (t.allocateBucket canAllocate heap).1 = false) :
    (t.allocateBucket canAllocate heap).2.1 = t ∧
      (t.allocateBucket canAllocate heap).2.2 = heap := by
  unfold HashBase.allocateBucket at h ⊢
  split at h
  · rename_i hgroup
    rw [if_pos hgroup]
    exact ⟨(takeGroup_failed h).1, rfl⟩
  · rename_i hgroup
    rw [if_neg hgroup]
    dsimp only at h ⊢
    obtain ⟨hsame, hnone⟩ := takeGroup_failed h
    rw [hsame]
    unfold callocBlock at hnone ⊢
    by_cases hcalloc : (t.blocks t.nextBlock).pMemory = none ∧ canAllocate = true
    · simp [hcalloc, setBlock] at hnone
    · simp only [hcalloc, if_false] at hnone ⊢
      split
      · exact ⟨rfl, trivial⟩
      · rename_i hne
        rw [if_neg hne] at hnone
        exact absurd hnone hne

theorem takeGroup_curBlock (block : ℕ) : (t.takeGroup block).2.curBlock = t.curBlock := by
  unfold takeGroup
  split <;> rfl

theorem allocateBucket_curBlock (h : (t.allocateBucket canAllocate heap).1 = true) :
    (t.allocateBucket canAllocate heap).2.1.curBlock ≠ none := by
  unfold HashBase.allocateBucket at h ⊢
  split
  · rename_i hgroup
    obtain ⟨block, hblock, -⟩ := hgroup
    rw [takeGroup_curBlock, hblock]
    nofun
  · rename_i hgroup
    rw [if_neg hgroup] at h
    dsimp only at h ⊢
    rw [takeGroup_curBlock]
    generalize t.callocBlock canAllocate t.nextBlock heap = u at *
    by_cases hnone : (u.1.blocks t.nextBlock).pMemory = none
    · rw [if_pos hnone, takeGroup, if_pos hnone] at h
      cases h
    · rw [if_neg hnone]
      nofun

/-- The current block has memory. -/
def CurrentHasMemory (t : HashBase Key Value) : Prop :=
  ∀ block, t.curBlock = some block → (t.blocks block).pMemory ≠ none

theorem CurrentHasMemory.allocateBucket (h : CurrentHasMemory t) (canAllocate : Bool)
    (heap : BlockHeap) : CurrentHasMemory (t.allocateBucket canAllocate heap).2.1 := by
  intro block hblock
  unfold HashBase.allocateBucket at hblock ⊢
  split
  · rename_i hgroup
    rw [if_pos hgroup] at hblock
    rw [takeGroup_curBlock] at hblock
    rw [pMemory_takeGroup]
    exact h block hblock
  · rename_i hgroup
    rw [if_neg hgroup] at hblock
    rw [takeGroup_curBlock] at hblock
    rw [pMemory_takeGroup]
    by_cases hnone :
        ((t.callocBlock canAllocate t.nextBlock heap).1.blocks t.nextBlock).pMemory = none
    · rw [if_pos hnone] at hblock ⊢
      unfold callocBlock at hnone hblock ⊢
      split at hnone
      · simp [setBlock] at hnone
      · rename_i hcalloc
        rw [if_neg hcalloc] at hblock ⊢
        exact h block hblock
    · rw [if_neg hnone] at hblock ⊢
      cases hblock
      exact hnone

/-- Without a group to take there was no memory for one. -/
theorem CurrentHasMemory.eq_false_of_failed (h : CurrentHasMemory t)
    (hfailed : (t.allocateBucket canAllocate heap).1 = false) : canAllocate = false := by
  unfold HashBase.allocateBucket at hfailed
  split at hfailed
  · rename_i hgroup
    obtain ⟨block, hblock, -⟩ := hgroup
    have hnone := (takeGroup_failed hfailed).2
    rw [hblock] at hnone
    exact absurd hnone (h block hblock)
  · have hnone := (takeGroup_failed hfailed).2
    by_contra hmemory
    rw [Bool.not_eq_false] at hmemory
    unfold callocBlock setBlock at hnone
    by_cases hempty : (t.blocks t.nextBlock).pMemory = none
    · simp [hempty, hmemory] at hnone
    · simp [hempty] at hnone

variable [DecidableEq Key]

theorem CurrentHasMemory.findOrAllocate (h : CurrentHasMemory t) (shape : HashShape Key)
    (canAllocate : Bool) (e : HashMapEntry Key Value) (heap : BlockHeap) :
    CurrentHasMemory (t.findOrAllocate shape canAllocate e heap).2.1 ∧
      ((t.findOrAllocate shape canAllocate e heap).1 = .failed → canAllocate = false) := by
  unfold HashBase.findOrAllocate
  dsimp only
  split
  · exact ⟨h, nofun⟩
  · exact ⟨h, nofun⟩
  · have hallocate := h.allocateBucket canAllocate heap
    split
    · exact ⟨hallocate, nofun⟩
    · rename_i hfailed
      exact ⟨hallocate, fun _ => h.eq_false_of_failed (Bool.not_eq_true _ ▸ hfailed)⟩

/-- What `FindOrAllocate` does: it finds the entry of the key, adds one, or changes nothing. -/
inductive FindsOrAllocates (shape : HashShape Key) (t : HashBase Key Value) (heap : BlockHeap)
    (e : HashMapEntry Key Value) :
    HashBase.FoundEntry × HashBase Key Value × BlockHeap → Prop where
  | existed {place : ℕ × ℕ} {a : HashMapEntry Key Value}
      (hat : AtPlace (t.chain (shape.bucket e.key)) place.1 place.2 a) (hkey : a.key = e.key) :
      FindsOrAllocates shape t heap e (.existed place, t, heap)
  | added {t' : HashBase Key Value} {heap' : BlockHeap} (hvalid : HashValid shape t')
      (hnew : ∀ a ∈ t.entries, a.key ≠ e.key) (hperm : t'.entries.Perm (e :: t.entries)) :
      FindsOrAllocates shape t heap e (.added, t', heap')
  | failed (hnew : ∀ a ∈ t.entries, a.key ≠ e.key) :
      FindsOrAllocates shape t heap e (.failed, t, heap)

theorem findOrAllocate_spec (h : HashValid shape t) (canAllocate : Bool)
    (e : HashMapEntry Key Value) (heap : BlockHeap) :
    FindsOrAllocates shape t heap e (t.findOrAllocate shape canAllocate e heap) := by
  have hpacked := h.packed (shape.bucket e.key)
  have hnone : t.findEntry shape e.key = none → ∀ a ∈ t.entries, a.key ≠ e.key :=
    (findEntry_eq_none h).mp
  unfold findOrAllocate
  dsimp only
  split
  · rename_i group index hslot
    obtain ⟨a, hat, hkey⟩ := findEntry_eq_some (findPlace_of_found hslot)
    exact .existed hat hkey
  · rename_i group hslot
    obtain ⟨hfind, hpacked', hflatten⟩ := findSlot_room hpacked hslot e
    obtain ⟨hvalid, hperm⟩ := h.add (hnone hfind) hpacked' hflatten
    exact .added hvalid (hnone hfind) hperm
  · rename_i hslot
    obtain ⟨hfind, hpacked', hflatten⟩ := findSlot_newGroup shape.one_le hpacked hslot e
    cases htaken : (t.allocateBucket canAllocate heap).1 with
    | false =>
      obtain ⟨hsame, hheap⟩ := allocateBucket_failed htaken
      rw [if_neg (by simp), hsame, hheap]
      exact .failed (hnone hfind)
    | true =>
      obtain ⟨hvalid, hperm⟩ := h.add (hnone hfind) (f := (· ++ [[e]])) hpacked' hflatten
      obtain ⟨hbuckets, hsize⟩ := allocateBucket_buckets t canAllocate heap
      rw [if_pos rfl]
      refine .added (hvalid.congr ?_ ?_) (hnone hfind) ?_
      · simp only [onChain, hbuckets]
      · simp only [hsize]
      · unfold entries at hperm ⊢
        simp only [onChain, hbuckets] at hperm ⊢
        exact hperm

end Adding

/-! ## Replacing and removing an entry -/

section Removing

theorem HashValid.putAt (h : HashValid shape t) {place : ℕ × ℕ} {a : HashMapEntry Key Value}
    (hat : AtPlace (t.chain (shape.bucket e.key)) place.1 place.2 a) (hkey : a.key = e.key) :
    HashValid shape (t.onChain (shape.bucket e.key) (putAt place.1 place.2 e)) ∧
      ∃ before after, t.entries = before ++ a :: after ∧
        (t.onChain (shape.bucket e.key) (putAt place.1 place.2 e)).entries =
          before ++ e :: after := by
  have hbucket := h.bucket_lt_length e.key
  obtain ⟨front, pre, post, back, hchain, hput⟩ := hat.putAt_eq e
  obtain ⟨before, after, hentries, hchanged⟩ := entries_onChain hbucket
  have hbefore : t.entries =
      (before ++ front.flatten ++ pre) ++ a :: (post ++ back.flatten ++ after) := by
    rw [hentries, hchain]
    simp
  have hafter : (t.onChain (shape.bucket e.key) (Library.putAt place.1 place.2 e)).entries =
      (before ++ front.flatten ++ pre) ++ e :: (post ++ back.flatten ++ after) := by
    rw [hchanged, hput]
    simp
  have hhome : ∀ x ∈ (Library.putAt place.1 place.2 e (t.chain (shape.bucket e.key))).flatten,
      shape.bucket x.key = shape.bucket e.key := by
    intro x hx
    have hmem : x = e ∨ x ∈ (t.chain (shape.bucket e.key)).flatten := by
      rw [hput] at hx
      rw [hchain]
      simp only [List.flatten_append, List.flatten_cons, List.mem_append, List.mem_cons] at hx ⊢
      rcases hx with hx | (hx | rfl | hx) | hx
      · exact .inr (.inl hx)
      · exact .inr (.inr (.inl (.inl hx)))
      · exact .inl rfl
      · exact .inr (.inr (.inl (.inr (.inr hx))))
      · exact .inr (.inr (.inr hx))
    rcases hmem with rfl | hmem
    · rfl
    · exact h.home _ x hmem
  have hnodup : ((t.onChain (shape.bucket e.key)
      (Library.putAt place.1 place.2 e)).entries.map (·.key)).Nodup := by
    have hnodup := h.nodup
    rw [hbefore, List.map_append, List.map_cons, hkey] at hnodup
    rwa [hafter, List.map_append, List.map_cons]
  have hsize : t.numEntries = (t.onChain (shape.bucket e.key)
      (Library.putAt place.1 place.2 e)).entries.length := by
    rw [h.size, hbefore, hafter]
    simp
  have hvalid := h.onChain hbucket (hat.packed_putAt (h.packed _) e) hhome hnodup hsize
  exact ⟨hvalid, _, _, hbefore, hafter⟩

theorem HashValid.removeAt (h : HashValid shape t) (hbucket : bucket < t.buckets.length)
    {front back : List (List (HashMapEntry Key Value))} {pre post : List (HashMapEntry Key Value)}
    (hchain : t.chain bucket = front ++ (pre ++ e :: post) :: back) : ∃ post' back',
    (∀ other, (t.removeAt bucket (front.length, pre.length)).chain other =
      if other = bucket then front ++ (pre ++ post') :: back' else t.chain other) ∧
      (post' ++ back'.flatten).Perm (post ++ back.flatten) ∧
      (isLastPlace pre.length ((t.chain bucket).drop front.length) = true ↔ post' = []) ∧
      (post' = [] → post ++ back.flatten = []) ∧
      HashValid shape (t.removeAt bucket (front.length, pre.length)) ∧
      t.entries.Perm (e :: (t.removeAt bucket (front.length, pre.length)).entries) := by
  have hpacked := h.packed bucket
  rw [hchain] at hpacked
  obtain ⟨-, hrest, -⟩ := packed_append.mp hpacked
  obtain ⟨post', back', hswap, hperm, hpacked', hlast, hend⟩ := swapOut_spec shape.one_le hrest
  have hremoved : (t.chain bucket).take front.length ++
      swapOut pre.length ((t.chain bucket).drop front.length) =
      front ++ (pre ++ post') :: back' := by
    rw [hchain, List.take_left' rfl, List.drop_left' rfl, hswap]
  obtain ⟨before, after, hentries, hchanged⟩ := entries_onChain hbucket
  have hentries' : (t.removeAt bucket (front.length, pre.length)).entries =
      before ++ ((front ++ (pre ++ post') :: back').flatten ++ after) := by
    rw [← hremoved]
    exact hchanged _
  have hsame : t.entries.Perm (e :: (t.removeAt bucket (front.length, pre.length)).entries) := by
    rw [hentries', hentries, hchain]
    have hbehind : (e :: (post ++ back.flatten ++ after)).Perm
        (e :: (post' ++ back'.flatten ++ after)) := (hperm.symm.append_right after).cons e
    have hmiddle := (hbehind.append_left (before ++ front.flatten ++ pre)).trans List.perm_middle
    simpa using hmiddle
  have hshorter : (t.removeAt bucket (front.length, pre.length)).numEntries =
      (t.removeAt bucket (front.length, pre.length)).entries.length := by
    have hlength := hsame.length_eq
    rw [← h.size, List.length_cons] at hlength
    change t.numEntries - 1 = _
    omega
  refine ⟨post', back', ?_, hperm, ?_, hend, ?_, hsame⟩
  · intro other
    rw [← hremoved]
    exact chain_onChain _ other hbucket
  · rw [hchain, List.drop_left' rfl]
    exact hlast
  · apply h.onChain hbucket
    · rw [hremoved]
      exact hpacked.replace hpacked' (by simp)
    · intro x hx
      rw [hremoved] at hx
      apply h.home bucket
      have hmem : x ∈ e :: (front ++ (pre ++ post') :: back').flatten := List.mem_cons_of_mem e hx
      have hbehind : ((front ++ (pre ++ e :: post) :: back).flatten).Perm
          (e :: (front ++ (pre ++ post') :: back').flatten) := by
        have hmiddle := ((hperm.symm.cons e).append_left (front.flatten ++ pre)).trans
          List.perm_middle
        simpa using hmiddle
      rw [hchain]
      exact hbehind.mem_iff.mpr hmem
    · have hnodup := (hsame.map (·.key)).nodup_iff.mp h.nodup
      exact (List.nodup_cons.mp hnodup).2
    · exact hshorter

end Removing

def seekDistance (buckets start bucket : ℕ) : ℕ :=
  if bucket ≤ start then start - bucket else start + buckets - bucket

theorem seekBucket_isSome {start rounds current : ℕ} (hstart : start < shape.kPaddedNumBuckets)
    (hrounds : seekDistance shape.kPaddedNumBuckets start
      ((current + 1) % shape.kPaddedNumBuckets) < rounds) :
    (t.seekBucket shape start rounds current).isSome := by
  induction rounds generalizing current with
  | zero => omega
  | succ rounds ih =>
    rw [seekBucket]
    have hlt := Nat.mod_lt (current + 1) (Nat.two_pow_pos shape.log2Buckets)
    change (current + 1) % shape.kPaddedNumBuckets < shape.kPaddedNumBuckets at hlt
    generalize (current + 1) % shape.kPaddedNumBuckets = next at *
    by_cases hstop : t.IsOccupied next ∨ next = start
    · rw [if_pos hstop]
      rfl
    · rw [if_neg hstop]
      apply ih
      have hne : next ≠ start := fun hsame => hstop (.inr hsame)
      unfold seekDistance at hrounds ⊢
      rcases Nat.lt_or_ge (next + 1) shape.kPaddedNumBuckets with hinside | hwrap
      · rw [Nat.mod_eq_of_lt hinside]
        split at hrounds <;> split <;> omega
      · have hsame : next + 1 = shape.kPaddedNumBuckets := by omega
        rw [hsame, Nat.mod_self]
        split at hrounds <;> split <;> omega

theorem next_isSome {it : HashIterator} (hstart : it.startBucket < shape.kPaddedNumBuckets) :
    (t.next shape it).isSome := by
  unfold next
  split
  · rfl
  · dsimp only
    split
    · rfl
    · split
      · rfl
      · unfold nextBucket
        rw [Option.isSome_map]
        apply seekBucket_isSome hstart
        have hlt := Nat.mod_lt (it.currentBucket + 1) (Nat.two_pow_pos shape.log2Buckets)
        change (it.currentBucket + 1) % shape.kPaddedNumBuckets < shape.kPaddedNumBuckets at hlt
        unfold seekDistance
        split <;> omega

end DevDriver.Analysis
