import DevDriver.Analysis.HashMaps
import DevDriver.Library.Ownership

/-!
# The memory of a hash container

A block of memory is owned by one block of one container until it is freed, and is freed once.
`Clear` frees the blocks up to the current one only.
-/

namespace DevDriver.Analysis

open Library Model HashBase

variable {ι Key Value : Type} {shape : HashShape Key} {t t' : HashBase Key Value}
  {heap heap' : BlockHeap}

/-! ## Blocks of a container -/

inductive BlockChange (t : HashBase Key Value) (heap : BlockHeap) :
    HashBase Key Value → BlockHeap → Prop where
  | same {t' : HashBase Key Value}
      (hsame : ∀ k, (t'.blocks k).pMemory = (t.blocks k).pMemory) : BlockChange t heap t' heap
  | allocated {t' : HashBase Key Value} (block : ℕ) (hnone : (t.blocks block).pMemory = none)
      (hnew : ∀ k, (t'.blocks k).pMemory =
        if k = block then some heap.allocated else (t.blocks k).pMemory) :
      BlockChange t heap t' { heap with allocated := heap.allocated + 1 }

theorem callocBlock_change (canAllocate : Bool) (block : ℕ) :
    BlockChange t heap (t.callocBlock canAllocate block heap).1
      (t.callocBlock canAllocate block heap).2 := by
  unfold callocBlock setBlock
  split
  · rename_i hcalloc
    refine .allocated block hcalloc.1 fun k => ?_
    dsimp only
    rcases eq_or_ne k block with rfl | hne
    · rw [Function.update_self, if_pos rfl]
    · rw [Function.update_of_ne hne, if_neg hne]
  · exact .same fun _ => rfl

theorem BlockChange.congr {u : HashBase Key Value} (h : BlockChange t heap t' heap')
    (hsame : ∀ k, (u.blocks k).pMemory = (t'.blocks k).pMemory) : BlockChange t heap u heap' := by
  cases h with
  | same hblocks => exact .same fun k => (hsame k).trans (hblocks k)
  | allocated block hnone hnew => exact .allocated block hnone fun k => (hsame k).trans (hnew k)

theorem allocateBucket_change (t : HashBase Key Value) (canAllocate : Bool) (heap : BlockHeap) :
    BlockChange t heap (t.allocateBucket canAllocate heap).2.1
      (t.allocateBucket canAllocate heap).2.2 := by
  unfold allocateBucket
  split
  · exact .same fun k => pMemory_takeGroup _ k
  · apply (callocBlock_change canAllocate t.nextBlock).congr
    intro k
    rw [pMemory_takeGroup]
    split <;> rfl

theorem pMemory_clear (t : HashBase Key Value) (heap : BlockHeap) (k : ℕ) :
    ((t.clear heap).1.blocks k).pMemory =
      if k < t.usedBlocks then none else (t.blocks k).pMemory := by
  unfold clear
  cases hcur : t.curBlock with
  | none => simp [usedBlocks, hcur]
  | some block =>
    have hused : t.usedBlocks = block + 1 := by rw [usedBlocks, hcur, Option.elim_some]
    dsimp only
    rw [hused]
    by_cases hle : k ≤ block
    · rw [if_pos (Nat.lt_succ_of_le hle)]
      by_cases hnone : (t.blocks k).pMemory = none
      · rw [if_neg fun h => h.2 hnone, hnone]
      · rw [if_pos ⟨hle, hnone⟩]
        rfl
    · have hout : ¬ (k ≤ block ∧ (t.blocks k).pMemory ≠ none) := fun h => hle h.1
      rw [if_neg hout, if_neg (show ¬ k < block + 1 by omega)]

theorem clear_heap (t : HashBase Key Value) (heap : BlockHeap) :
    (t.clear heap).2 = { heap with freed := heap.freed ++ t.usedMemory } := by
  unfold clear
  cases hcur : t.curBlock with
  | none => simp [usedMemory, usedBlocks, hcur]
  | some block => rfl

theorem pMemory_reset (t : HashBase Key Value) (k : ℕ) :
    (t.reset.blocks k).pMemory = (t.blocks k).pMemory := by
  unfold reset
  split
  · dsimp only
    split <;> rfl
  · rfl

section Operations

variable [DecidableEq Key]

theorem findOrAllocate_change (shape : HashShape Key) (t : HashBase Key Value) (canAllocate : Bool)
    (e : HashMapEntry Key Value) (heap : BlockHeap) :
    BlockChange t heap (t.findOrAllocate shape canAllocate e heap).2.1
      (t.findOrAllocate shape canAllocate e heap).2.2 := by
  unfold findOrAllocate
  dsimp only
  split
  · exact .same fun _ => rfl
  · exact .same fun _ => rfl
  · have hchange := allocateBucket_change t canAllocate heap
    split
    · exact hchange.congr fun _ => rfl
    · exact hchange

theorem create_change (shape : HashShape Key) (t : HashBase Key Value) (canAllocate : Bool)
    (e : HashMapEntry Key Value) (heap : BlockHeap) :
    BlockChange t heap (t.create shape canAllocate e heap).2.1
      (t.create shape canAllocate e heap).2.2 := by
  have hchange := findOrAllocate_change shape t canAllocate e heap
  unfold create
  split <;> rename_i hfound <;> rw [hfound] at hchange <;> exact hchange

theorem insert_change (shape : HashShape Key) (t : HashBase Key Value) (canAllocate : Bool)
    (e : HashMapEntry Key Value) (heap : BlockHeap) :
    BlockChange t heap (t.insert shape canAllocate e heap).2.1
      (t.insert shape canAllocate e heap).2.2 := by
  have hchange := findOrAllocate_change shape t canAllocate e heap
  unfold HashBase.insert
  split <;> rename_i hfound <;> rw [hfound] at hchange
  · exact hchange.congr fun _ => rfl
  · exact hchange
  · exact hchange

end Operations

/-! ## All containers -/

section World

variable {w w' : HashWorld ι Key Value} {i j : ι}

def ownershipOf (w : HashWorld ι Key Value) : Ownership (ι × ℕ) where
  owned a := (w.maps a.1).bind fun t => (t.blocks a.2).pMemory
  allocated := w.heap.allocated
  freed := w.heap.freed

theorem owned_of_maps (ht : w.maps i = some t) (k : ℕ) :
    (ownershipOf w).owned (i, k) = (t.blocks k).pMemory := by
  unfold ownershipOf
  dsimp only
  rw [ht]
  rfl

variable [DecidableEq ι]

theorem ownershipOf_set (w : HashWorld ι Key Value) (i : ι) (t : HashBase Key Value)
    (heap : BlockHeap) : ownershipOf (w.set i t heap) =
      ⟨fun a => if a.1 = i then (t.blocks a.2).pMemory else (ownershipOf w).owned a,
        heap.allocated, heap.freed⟩ := by
  unfold ownershipOf HashWorld.set
  congr 1
  funext a
  dsimp only
  split
  · rename_i hsame
    rw [hsame, Function.update_self]
    rfl
  · rename_i hne
    rw [Function.update_of_ne hne]

theorem ownershipOf_same (ht : w.maps i = some t)
    (hsame : ∀ k, (t'.blocks k).pMemory = (t.blocks k).pMemory) :
    ownershipOf (w.set i t' w.heap) = ownershipOf w := by
  rw [ownershipOf_set]
  congr 1
  funext ⟨j, k⟩
  split
  · rename_i heq
    rw [heq, ht, hsame]
    rfl
  · rfl

theorem BlockChange.accounted (h : BlockChange t w.heap t' heap') (ht : w.maps i = some t)
    (hw : (ownershipOf w).Accounted) : (ownershipOf (w.set i t' heap')).Accounted := by
  cases h with
  | same hsame =>
    rw [ownershipOf_same ht hsame]
    exact hw
  | allocated block hnone hnew =>
    have hchange : ownershipOf (w.set i t' { w.heap with allocated := w.heap.allocated + 1 }) =
        (ownershipOf w).allocate (i, block) := by
      rw [ownershipOf_set]
      congr 1
      funext ⟨j, k⟩
      by_cases hj : j = i
      · subst hj
        rw [if_pos rfl, hnew]
        by_cases hk : k = block
        · subst hk
          rw [if_pos rfl, Function.update_self]
          rfl
        · rw [if_neg hk, Function.update_of_ne (fun h => hk (congrArg Prod.snd h)),
            owned_of_maps ht]
      · rw [if_neg hj, Function.update_of_ne (fun h => hj (congrArg Prod.fst h))]
    rw [hchange]
    exact hw.allocate ((owned_of_maps ht block).trans hnone)

def exchangeBlocks (i j : ι) (inside : ℕ → Prop) [DecidablePred inside] (a : ι × ℕ) : ι × ℕ :=
  if inside a.2 then (Equiv.swap i j a.1, a.2) else a

theorem exchangeBlocks_involutive (i j : ι) (inside : ℕ → Prop) [DecidablePred inside] :
    Function.Involutive (exchangeBlocks i j inside) := by
  rintro ⟨a, k⟩
  unfold exchangeBlocks
  by_cases hin : inside k
  · rw [if_pos hin, if_pos hin, Equiv.swap_apply_self]
  · rw [if_neg hin, if_neg hin]

theorem ownershipOf_swap {other : HashBase Key Value} (ht : w.maps i = some t)
    (hother : w.maps j = some other) :
    ownershipOf ((w.set i (t.swap other).1 w.heap).set j (t.swap other).2 w.heap) =
      (ownershipOf w).exchange
        (exchangeBlocks i j fun k => k < max t.usedBlocks other.usedBlocks) := by
  rw [ownershipOf_set, ownershipOf_set]
  congr 1
  funext ⟨a, k⟩
  dsimp only [swap, Function.comp_apply, exchangeBlocks]
  by_cases haj : a = j
  · subst haj
    rw [if_pos rfl]
    by_cases hin : k < max t.usedBlocks other.usedBlocks
    · rw [if_pos hin, if_pos hin, Equiv.swap_apply_right, owned_of_maps ht]
    · rw [if_neg hin, if_neg hin, owned_of_maps hother]
  · rw [if_neg haj]
    by_cases hai : a = i
    · subst hai
      rw [if_pos rfl]
      by_cases hin : k < max t.usedBlocks other.usedBlocks
      · rw [if_pos hin, if_pos hin, Equiv.swap_apply_left, owned_of_maps hother]
      · rw [if_neg hin, if_neg hin, owned_of_maps ht]
    · rw [if_neg hai]
      by_cases hin : k < max t.usedBlocks other.usedBlocks
      · rw [if_pos hin, Equiv.swap_apply_of_ne_of_ne hai haj]
      · rw [if_neg hin]

theorem ownershipOf_moveConstruct (ht : w.maps j = some t) (hnone : w.maps i = none) :
    ownershipOf
        ((w.set i (t.moveConstruct shape).1 w.heap).set j (t.moveConstruct shape).2 w.heap) =
      (ownershipOf w).exchange (exchangeBlocks i j fun _ => True) := by
  have hempty : ∀ k, (ownershipOf w).owned (i, k) = none := by
    intro k
    unfold ownershipOf
    dsimp only
    rw [hnone]
    rfl
  rw [ownershipOf_set, ownershipOf_set]
  congr 1
  funext ⟨a, k⟩
  dsimp only [moveConstruct, Function.comp_apply, exchangeBlocks]
  rw [if_pos trivial]
  by_cases haj : a = j
  · subst haj
    rw [if_pos rfl, Equiv.swap_apply_right, hempty]
    rfl
  · rw [if_neg haj]
    by_cases hai : a = i
    · subst hai
      rw [if_pos rfl, Equiv.swap_apply_left, owned_of_maps ht]
    · rw [if_neg hai, Equiv.swap_apply_of_ne_of_ne hai haj]

theorem ownershipOf_clear (ht : w.maps i = some t) :
    ownershipOf (w.set i (t.clear w.heap).1 (t.clear w.heap).2) =
      (ownershipOf w).free ((List.range t.usedBlocks).map fun k => (i, k)) := by
  rw [ownershipOf_set, clear_heap]
  congr 1
  · funext ⟨a, k⟩
    by_cases ha : a = i
    · subst ha
      rw [if_pos rfl, pMemory_clear, owned_of_maps ht]
      by_cases hk : k < t.usedBlocks
      · rw [if_pos hk, if_pos (by simpa using hk)]
      · rw [if_neg hk, if_neg (by simpa using hk)]
    · rw [if_neg ha, if_neg]
      intro hmem
      obtain ⟨k', -, hk'⟩ := List.mem_map.mp hmem
      exact ha (congrArg Prod.fst hk').symm
  · have howned : (ownershipOf w).owned ∘ (fun k => (i, k)) = fun k => (t.blocks k).pMemory :=
      funext (owned_of_maps ht)
    rw [List.filterMap_map, howned]
    rfl

variable [DecidableEq Key]

/-- Every block belongs to one container, before and after a call. -/
theorem memory_accounted_step {op : HashOp ι Key Value} {o : HashOutput}
    (hw : (ownershipOf w).Accounted) (hstep : w.step shape op = some (w', o)) :
    (ownershipOf w').Accounted := by
  cases op with
  | construct i =>
    obtain ⟨hnone, ⟨⟩⟩ := Option.ite_none_right_eq_some.mp hstep
    have hsame : ownershipOf (w.set i (.new shape) w.heap) = ownershipOf w := by
      rw [ownershipOf_set]
      congr 1
      funext a
      obtain ⟨j, k⟩ := a
      split
      · rename_i heq
        rw [heq, Option.isNone_iff_eq_none.mp hnone]
        rfl
      · rfl
    rw [hsame]
    exact hw
  | moveConstruct i j =>
    obtain ⟨t, ht, hrest⟩ := Option.bind_eq_some_iff.mp hstep
    obtain ⟨hnone, ⟨⟩⟩ := Option.ite_none_right_eq_some.mp hrest
    rw [ownershipOf_moveConstruct ht (Option.isNone_iff_eq_none.mp hnone)]
    exact hw.exchange (exchangeBlocks_involutive i j _)
  | create i e canAllocate =>
    obtain ⟨t, ht, hrest⟩ := Option.bind_eq_some_iff.mp hstep
    have hchange := create_change shape t canAllocate e w.heap
    generalize t.create shape canAllocate e w.heap = found at hrest hchange
    obtain ⟨r, t', heap⟩ := found
    cases hrest
    exact hchange.accounted ht hw
  | insert i e canAllocate =>
    obtain ⟨t, ht, hrest⟩ := Option.bind_eq_some_iff.mp hstep
    have hchange := insert_change shape t canAllocate e w.heap
    generalize t.insert shape canAllocate e w.heap = found at hrest hchange
    obtain ⟨r, t', heap⟩ := found
    cases hrest
    exact hchange.accounted ht hw
  | erase i key =>
    obtain ⟨t, ht, hrest⟩ := Option.bind_eq_some_iff.mp hstep
    have hsame : ∀ k, ((t.erase shape key).2.blocks k).pMemory = (t.blocks k).pMemory := by
      unfold erase
      split <;> exact fun _ => rfl
    generalize t.erase shape key = erased at hrest hsame
    obtain ⟨r, t'⟩ := erased
    cases hrest
    rw [ownershipOf_same ht hsame]
    exact hw
  | remove i it =>
    obtain ⟨t, ht, hrest⟩ := Option.bind_eq_some_iff.mp hstep
    obtain ⟨group, hgroup, hrest⟩ := Option.bind_eq_some_iff.mp hrest
    split at hrest
    · obtain ⟨⟨it', t'⟩, hremove, hrest⟩ := Option.bind_eq_some_iff.mp hrest
      cases hrest
      have hremoved : t' = t.removeAt it.currentBucket (group, it.indexInBucket) := by
        unfold removeIterator at hremove
        split at hremove
        · obtain ⟨_, -, hsame⟩ := Option.map_eq_some_iff.mp hremove
          exact (congrArg Prod.snd hsame).symm
        · exact (congrArg Prod.snd (Option.some.inj hremove)).symm
      rw [ownershipOf_same ht fun k => congrArg (fun u => (u.blocks k).pMemory) hremoved]
      exact hw
    · cases hrest
  | reset i =>
    obtain ⟨t, ht, hrest⟩ := Option.bind_eq_some_iff.mp hstep
    cases hrest
    rw [ownershipOf_same ht (pMemory_reset t)]
    exact hw
  | clear i =>
    obtain ⟨t, ht, hrest⟩ := Option.bind_eq_some_iff.mp hstep
    cases hrest
    rw [ownershipOf_clear ht]
    exact hw.free (List.nodup_range.map fun k l hkl => congrArg Prod.snd hkl)
  | swap i j =>
    obtain ⟨t, ht, hrest⟩ := Option.bind_eq_some_iff.mp hstep
    obtain ⟨other, hother, hrest⟩ := Option.bind_eq_some_iff.mp hrest
    cases hrest
    rw [ownershipOf_swap ht hother]
    exact hw.exchange (exchangeBlocks_involutive i j _)

theorem accounted_of_reachable (h : (hashMachine shape).Reachable w) :
    (ownershipOf w).Accounted := by
  apply h.invariant
  · rintro _ rfl
    exact Ownership.accounted_nothing
  · intro w w' op o _ hw hstep
    exact memory_accounted_step hw hstep

/-! ## Clear -/

/-- A container has let go of its memory: none of its blocks has any, and every allocation was freed
once or belongs to another container. -/
def Released (w : HashWorld ι Key Value) (i : ι) : Prop :=
  (∀ k, (ownershipOf w).owned (i, k) = none) ∧
    ∀ m < w.heap.allocated, w.heap.freed.count m = 1 ∨
      (m ∉ w.heap.freed ∧ ∃ j ≠ i, ∃ k, (ownershipOf w).owned (j, k) = some m)

/-- Whenever a container is cleared it lets go of its memory. -/
def ClearsRelease (shape : HashShape Key)
    (tr : List (HashWorld ι Key Value × HashOp ι Key Value × HashOutput)) : Prop :=
  ∀ x ∈ tr, ∀ i w', x.2.1 = .clear i → x.1.step shape (.clear i) = some (w', x.2.2) →
    Released w' i

/-- Whenever a container is cleared, only the blocks up to the current one have memory. -/
def ClearsAllInUse
    (tr : List (HashWorld ι Key Value × HashOp ι Key Value × HashOutput)) : Prop :=
  ∀ x ∈ tr, ∀ i t, x.2.1 = .clear i → x.1.maps i = some t →
    ∀ k ≥ t.usedBlocks, (t.blocks k).pMemory = none

omit [DecidableEq Key] in
theorem released_clear_iff (hw : (ownershipOf w).Accounted) (ht : w.maps i = some t) :
    Released (w.set i (t.clear w.heap).1 (t.clear w.heap).2) i ↔
      ∀ k ≥ t.usedBlocks, (t.blocks k).pMemory = none := by
  have howned : ∀ k, (ownershipOf (w.set i (t.clear w.heap).1 (t.clear w.heap).2)).owned (i, k) =
      if k < t.usedBlocks then none else (t.blocks k).pMemory := by
    intro k
    rw [ownershipOf_set]
    dsimp only
    rw [if_pos rfl, pMemory_clear]
  constructor
  · rintro ⟨hnone, -⟩ k hk
    have h := hnone k
    rwa [howned, if_neg (not_lt.mpr hk)] at h
  · intro hleft
    have hnone : ∀ k,
        (ownershipOf (w.set i (t.clear w.heap).1 (t.clear w.heap).2)).owned (i, k) = none := by
      intro k
      rw [howned]
      split
      · rfl
      · rename_i hk
        exact hleft k (not_lt.mp hk)
    have hafter : (ownershipOf (w.set i (t.clear w.heap).1 (t.clear w.heap).2)).Accounted := by
      rw [ownershipOf_clear ht]
      exact hw.free (List.nodup_range.map fun k l hkl => congrArg Prod.snd hkl)
    refine ⟨hnone, ?_⟩
    intro m hm
    by_cases hmem : m ∈ (w.set i (t.clear w.heap).1 (t.clear w.heap).2).heap.freed
    · exact .inl (List.count_eq_one_of_mem hafter.nodup hmem)
    · right
      refine ⟨hmem, ?_⟩
      obtain ⟨⟨j, k⟩, hj⟩ := (hafter.covered m hm).resolve_left hmem
      refine ⟨j, ?_, k, hj⟩
      rintro rfl
      rw [hnone k] at hj
      cases hj

/-- `Clear` lets go of all memory just where none is left above the current block. -/
theorem clears_release_iff (shape : HashShape Key)
    {tr : List (HashWorld ι Key Value × HashOp ι Key Value × HashOutput)}
    {start w : HashWorld ι Key Value} (hinit : (hashMachine shape).init start)
    (h : (hashMachine shape).Trace start tr w) :
    ClearsRelease shape tr ↔ ClearsAllInUse tr := by
  constructor
  · intro hrelease x hx i t hop ht
    have hw := accounted_of_reachable (h.reachable_of_mem (.init hinit) hx).1
    obtain ⟨w', hstep⟩ := (h.reachable_of_mem (.init hinit) hx).2
    rw [hop] at hstep
    have hcleared : x.1.step shape (.clear i) =
        some (x.1.set i (t.clear x.1.heap).1 (t.clear x.1.heap).2, .nothing) := by
      rw [HashWorld.step, ht]
      rfl
    have hsame := Option.some.inj (hstep.symm.trans hcleared)
    apply (released_clear_iff hw ht).mp
    apply hrelease x hx i _ hop
    rw [hcleared, congrArg Prod.snd hsame]
  · intro hinUse x hx i w' hop hstep
    have hw := accounted_of_reachable (h.reachable_of_mem (.init hinit) hx).1
    obtain ⟨t, ht, hrest⟩ := Option.bind_eq_some_iff.mp hstep
    obtain rfl := congrArg Prod.fst (Option.some.inj hrest)
    exact (released_clear_iff hw ht).mpr (hinUse x hx i t hop ht)

end World

def createAndClear : List (HashOp Unit ℕ ℕ) :=
  [.construct (), .create () ⟨1, 10⟩ true, .clear ()]

theorem clears_release_iff_createAndClear : ∃ w,
    (hashMachine oneBucket).run ⟨fun _ => none, ⟨0, []⟩⟩ createAndClear = some w ∧
      (ClearsRelease oneBucket
        ((hashMachine oneBucket).transitions ⟨fun _ => none, ⟨0, []⟩⟩ createAndClear) ↔
      ClearsAllInUse
        ((hashMachine oneBucket).transitions ⟨fun _ => none, ⟨0, []⟩⟩ createAndClear)) := by
  have hsome : ((hashMachine oneBucket).run ⟨fun _ => none, ⟨0, []⟩⟩ createAndClear).isSome := by
    rfl
  obtain ⟨w, hw⟩ := Option.isSome_iff_exists.mp hsome
  exact ⟨w, hw, clears_release_iff oneBucket rfl (.of_run hw)⟩

/-- A container that is reset before it is cleared keeps its block. -/
theorem clears_release_not : ¬ ∀ (tr : List (HashWorld Unit ℕ ℕ × HashOp Unit ℕ ℕ × HashOutput)) w,
    (hashMachine oneBucket).Trace ⟨fun _ => none, ⟨0, []⟩⟩ tr w → ClearsRelease oneBucket tr := by
  intro hall
  have hrun : (((hashMachine oneBucket).run ⟨fun _ => none, ⟨0, []⟩⟩
      ([.construct (), .create () ⟨1, 10⟩ true, .reset ()] : List (HashOp Unit ℕ ℕ))).bind
        fun w => w.maps ()).map (fun t => ((t.blocks 0).pMemory, t.usedBlocks)) =
      some (some 0, 0) := by rfl
  obtain ⟨t, ht, hblock⟩ := Option.map_eq_some_iff.mp hrun
  obtain ⟨w, hw, ht⟩ := Option.bind_eq_some_iff.mp ht
  have hcleared : (hashMachine oneBucket).step w (.clear ()) =
      some (w.set () (t.clear w.heap).1 (t.clear w.heap).2, .nothing) := by
    change w.step oneBucket (.clear ()) = _
    rw [HashWorld.step, ht]
    rfl
  have hreleased := hall _ _ (.snoc (.of_run hw) hcleared) _
    (List.mem_append_right _ (List.mem_singleton_self _)) () _ rfl hcleared
  have hnone := hreleased.1 0
  rw [ownershipOf_set] at hnone
  dsimp only at hnone
  obtain ⟨hmemory, hused⟩ := Prod.mk.inj hblock
  rw [if_pos rfl, pMemory_clear, hused, if_neg (Nat.lt_irrefl 0), hmemory] at hnone
  cases hnone

end DevDriver.Analysis
