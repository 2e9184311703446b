import DevDriver.Analysis.HashIteration
import DevDriver.Analysis.HashOperations

/-!
# Hash containers are finite maps

A program with hash containers does what a program with finite maps does, whatever memory there is.
-/

namespace DevDriver.Analysis

open Library Model

section FiniteMaps

variable {ι Key Value : Type}

/-- What is done to finite maps, with the result where memory or a key may be missing, and whether
there is memory where some may be needed. -/
inductive MapOp (ι Key Value : Type) where
  | construct (i : ι)
  | moveConstruct (i j : ι)
  | create (i : ι) (entry : HashMapEntry Key Value) (canAllocate : Bool) (r : Result)
  | insert (i : ι) (entry : HashMapEntry Key Value) (canAllocate : Bool) (r : Result)
  | erase (i : ι) (key : Key) (r : Result)
  | remove (i : ι) (key : Key)
  | empty (i : ι)
  | swap (i j : ι)

variable [DecidableEq ι] [DecidableEq Key]

/-- One operation on finite maps.  One that fails changes nothing, and does not fail for want of
memory when there is some. -/
def MapOp.step (m : ι → Option (FiniteMap Key Value)) :
    MapOp ι Key Value → Option ((ι → Option (FiniteMap Key Value)) × Unit)
  | .construct i => if (m i).isNone then some (Function.update m i (some ∅), ()) else none
  | .moveConstruct i j => do
    let x ← m j
    if (m i).isNone then
      some (Function.update (Function.update m i (some x)) j (some ∅), ())
    else none
  | .create i entry canAllocate r => do
    let x ← m i
    match r with
    | .success =>
      if entry.key ∈ x then none
      else some (Function.update m i (some (x.insert entry.key entry.value)), ())
    | .entryExists => if entry.key ∈ x then some (m, ()) else none
    | .insufficientMemory => if entry.key ∈ x ∨ canAllocate then none else some (m, ())
    | _ => none
  | .insert i entry canAllocate r => do
    let x ← m i
    match r with
    | .success => some (Function.update m i (some (x.insert entry.key entry.value)), ())
    | .insufficientMemory => if entry.key ∈ x ∨ canAllocate then none else some (m, ())
    | _ => none
  | .erase i key r => do
    let x ← m i
    match r with
    | .success =>
      if key ∈ x then some (Function.update m i (some (x.erase key)), ()) else none
    | .error => if key ∈ x then none else some (m, ())
    | _ => none
  | .remove i key => do
    let x ← m i
    some (Function.update m i (some (x.erase key)), ())
  | .empty i => do
    let _ ← m i
    some (Function.update m i (some ∅), ())
  | .swap i j => do
    let x ← m i
    let y ← m j
    some (Function.update (Function.update m i (some y)) j (some x), ())

def mapMachine : Machine (ι → Option (FiniteMap Key Value)) (MapOp ι Key Value) Unit where
  init m := m = fun _ => none
  step := MapOp.step

end FiniteMaps

/-! ## Refinement -/

section Refinement

variable {ι Key Value : Type}

/-- What a step of the containers is for the finite maps. -/
inductive Means :
    HashWorld ι Key Value × HashOp ι Key Value × HashOutput → MapOp ι Key Value → Prop where
  | construct {w : HashWorld ι Key Value} {i : ι} :
      Means (w, .construct i, .nothing) (.construct i)
  | moveConstruct {w : HashWorld ι Key Value} {i j : ι} :
      Means (w, .moveConstruct i j, .nothing) (.moveConstruct i j)
  | create {w : HashWorld ι Key Value} {i : ι} {e : HashMapEntry Key Value} {canAllocate : Bool}
      {r : Result} : Means (w, .create i e canAllocate, .result r) (.create i e canAllocate r)
  | insert {w : HashWorld ι Key Value} {i : ι} {e : HashMapEntry Key Value} {canAllocate : Bool}
      {r : Result} : Means (w, .insert i e canAllocate, .result r) (.insert i e canAllocate r)
  | erase {w : HashWorld ι Key Value} {i : ι} {key : Key} {r : Result} :
      Means (w, .erase i key, .result r) (.erase i key r)
  | remove {w : HashWorld ι Key Value} {i : ι} {it it' : HashIterator} {t : HashBase Key Value}
      {e : HashMapEntry Key Value} (ht : w.maps i = some t) (he : t.get it = some e) :
      Means (w, .remove i it, .iterator it') (.remove i e.key)
  | reset {w : HashWorld ι Key Value} {i : ι} : Means (w, .reset i, .nothing) (.empty i)
  | clear {w : HashWorld ι Key Value} {i : ι} : Means (w, .clear i, .nothing) (.empty i)
  | swap {w : HashWorld ι Key Value} {i j : ι} : Means (w, .swap i j, .nothing) (.swap i j)

variable {shape : HashShape Key} {w w' : HashWorld ι Key Value} {t : HashBase Key Value} {i : ι}

def contentsOf [DecidableEq Key] (w : HashWorld ι Key Value) (i : ι) :
    Option (FiniteMap Key Value) :=
  (w.maps i).map contentOf

theorem contentsOf_eq [DecidableEq Key] (ht : w.maps i = some t) :
    contentsOf w i = some (contentOf t) := by
  rw [contentsOf, ht]
  rfl

def AllInvariant (shape : HashShape Key) (w : HashWorld ι Key Value) : Prop :=
  ∀ i t, w.maps i = some t → HashInvariant shape t

theorem AllInvariant.set [DecidableEq ι] (h : AllInvariant shape w) (ht : HashInvariant shape t)
    (heap : BlockHeap) : AllInvariant shape (w.set i t heap) := by
  intro j u hj
  unfold HashWorld.set at hj
  dsimp only at hj
  rcases eq_or_ne j i with rfl | hne
  · rw [Function.update_self] at hj
    cases hj
    exact ht
  · rw [Function.update_of_ne hne] at hj
    exact h j u hj

variable [DecidableEq ι] [DecidableEq Key]

theorem contentsOf_set (w : HashWorld ι Key Value) (i : ι) (t : HashBase Key Value)
    (heap : BlockHeap) :
    contentsOf (w.set i t heap) = Function.update (contentsOf w) i (some (contentOf t)) := by
  funext j
  unfold contentsOf HashWorld.set
  dsimp only
  rcases eq_or_ne j i with rfl | hne
  · rw [Function.update_self, Function.update_self]
    rfl
  · rw [Function.update_of_ne hne, Function.update_of_ne hne]

structure StepRefined (shape : HashShape Key) (w : HashWorld ι Key Value)
    (op : HashOp ι Key Value) (o : HashOutput) (w' : HashWorld ι Key Value) : Prop where
  invariant : AllInvariant shape w'
  refined : ∃ meaning, Means (w, op, o) meaning ∧
    meaning.step (contentsOf w) = some (contentsOf w', ())

theorem update_contentsOf (ht : w.maps i = some t) :
    Function.update (contentsOf w) i (some (contentOf t)) = contentsOf w := by
  rw [← contentsOf_eq ht, Function.update_eq_self]

theorem step_refined (h : AllInvariant shape w) {op : HashOp ι Key Value} {o : HashOutput}
    (hstep : w.step shape op = some (w', o)) : StepRefined shape w op o w' := by
  cases op with
  | construct i =>
    obtain ⟨hnone, ⟨⟩⟩ := Option.ite_none_right_eq_some.mp hstep
    obtain ⟨hinvariant, hcontent⟩ := @hashInvariant_new Key Value shape _
    refine ⟨h.set hinvariant _, _, .construct, ?_⟩
    have hnone' : (contentsOf w i).isNone := by
      rw [contentsOf, Option.isNone_map]
      exact hnone
    rw [MapOp.step, if_pos hnone', contentsOf_set, hcontent]
  | moveConstruct i j =>
    obtain ⟨t, ht, hrest⟩ := Option.bind_eq_some_iff.mp hstep
    obtain ⟨hnone, ⟨⟩⟩ := Option.ite_none_right_eq_some.mp hrest
    obtain ⟨hinvariant, hcontent⟩ := @hashInvariant_new Key Value shape _
    refine ⟨(h.set (h j t ht) _).set hinvariant _, _, .moveConstruct, ?_⟩
    have hnone' : (contentsOf w i).isNone := by
      rw [contentsOf, Option.isNone_map]
      exact hnone
    rw [MapOp.step, contentsOf_eq ht]
    simp only [Option.bind_eq_bind, Option.bind_some]
    rw [if_pos hnone', contentsOf_set, contentsOf_set]
    simp only [HashBase.moveConstruct, hcontent]
  | create i e canAllocate =>
    obtain ⟨t, ht, hrest⟩ := Option.bind_eq_some_iff.mp hstep
    obtain ⟨hinvariant, hresult⟩ := create_spec (h i t ht) canAllocate e w.heap
    generalize t.create shape canAllocate e w.heap = found at hrest hinvariant hresult
    obtain ⟨r, t', heap⟩ := found
    cases hrest
    refine ⟨h.set hinvariant _, _, .create, ?_⟩
    rw [MapOp.step, contentsOf_eq ht, contentsOf_set]
    simp only [Option.bind_eq_bind, Option.bind_some]
    generalize contentOf t' = m at *
    cases hresult with
    | success hnew => exact if_neg hnew
    | entryExists hold =>
      rw [update_contentsOf ht]
      exact if_pos hold
    | insufficientMemory hnew hmemory =>
      rw [update_contentsOf ht]
      exact if_neg fun h => h.elim hnew (ne_true_of_eq_false hmemory)
  | insert i e canAllocate =>
    obtain ⟨t, ht, hrest⟩ := Option.bind_eq_some_iff.mp hstep
    obtain ⟨hinvariant, hresult⟩ := insert_spec (h i t ht) canAllocate e w.heap
    generalize t.insert shape canAllocate e w.heap = found at hrest hinvariant hresult
    obtain ⟨r, t', heap⟩ := found
    cases hrest
    refine ⟨h.set hinvariant _, _, .insert, ?_⟩
    rw [MapOp.step, contentsOf_eq ht, contentsOf_set]
    simp only [Option.bind_eq_bind, Option.bind_some]
    generalize contentOf t' = m at *
    cases hresult with
    | success => rfl
    | insufficientMemory hnew hmemory =>
      rw [update_contentsOf ht]
      exact if_neg fun h => h.elim hnew (ne_true_of_eq_false hmemory)
  | erase i key =>
    obtain ⟨t, ht, hrest⟩ := Option.bind_eq_some_iff.mp hstep
    obtain ⟨hinvariant, hresult⟩ := erase_spec (h i t ht) key
    generalize t.erase shape key = erased at hrest hinvariant hresult
    obtain ⟨r, t'⟩ := erased
    cases hrest
    refine ⟨h.set hinvariant _, _, .erase, ?_⟩
    rw [MapOp.step, contentsOf_eq ht, contentsOf_set]
    simp only [Option.bind_eq_bind, Option.bind_some]
    generalize contentOf t' = m at *
    cases hresult with
    | success hold => exact if_pos hold
    | error hnone =>
      rw [update_contentsOf ht]
      exact if_neg hnone
  | remove i it =>
    obtain ⟨t, ht, hrest⟩ := Option.bind_eq_some_iff.mp hstep
    obtain ⟨group, hgroup, hrest⟩ := Option.bind_eq_some_iff.mp hrest
    obtain ⟨hpoints, hrest⟩ := Option.ite_none_right_eq_some.mp hrest
    obtain ⟨e, he⟩ := Option.isSome_iff_exists.mp hpoints.1
    obtain ⟨it', t', hremove, hinvariant, hcontent⟩ :=
      removeIterator_spec (h i t ht) hgroup he hpoints.2
    rw [hremove] at hrest
    cases hrest
    refine ⟨h.set hinvariant _, _, .remove ht he, ?_⟩
    rw [MapOp.step, contentsOf_eq ht, contentsOf_set, hcontent]
    rfl
  | reset i =>
    obtain ⟨t, ht, hrest⟩ := Option.bind_eq_some_iff.mp hstep
    cases hrest
    obtain ⟨hinvariant, hcontent⟩ := reset_spec (h i t ht)
    refine ⟨h.set hinvariant _, _, .reset, ?_⟩
    rw [MapOp.step, contentsOf_eq ht, contentsOf_set, hcontent]
    rfl
  | clear i =>
    obtain ⟨t, ht, hrest⟩ := Option.bind_eq_some_iff.mp hstep
    cases hrest
    obtain ⟨hinvariant, hcontent⟩ := clear_spec (h i t ht) w.heap
    refine ⟨h.set hinvariant _, _, .clear, ?_⟩
    rw [MapOp.step, contentsOf_eq ht, contentsOf_set, hcontent]
    rfl
  | swap i j =>
    obtain ⟨t, ht, hrest⟩ := Option.bind_eq_some_iff.mp hstep
    obtain ⟨other, hother, hrest⟩ := Option.bind_eq_some_iff.mp hrest
    cases hrest
    obtain ⟨hfirst, hcontent⟩ := swap_fst_spec t (h j other hother)
    obtain ⟨hsecond, hcontent'⟩ := swap_snd_spec other (h i t ht)
    refine ⟨(h.set hfirst _).set hsecond _, _, .swap, ?_⟩
    rw [MapOp.step, contentsOf_eq ht, contentsOf_eq hother, contentsOf_set, contentsOf_set,
      hcontent, hcontent']
    rfl

theorem allInvariant_of_reachable (h : (hashMachine shape).Reachable w) :
    AllInvariant shape w := by
  apply h.invariant
  · rintro _ rfl i t hnone
    cases hnone
  · intro w w' op o _ hall hstep
    exact (step_refined hall hstep).invariant

theorem runs_refined {tr : List (HashWorld ι Key Value × HashOp ι Key Value × HashOutput)}
    {start : HashWorld ι Key Value} (hinit : (hashMachine shape).init start)
    (h : (hashMachine shape).Trace start tr w) :
    ∃ maps, mapMachine.Trace (fun _ => none) maps (contentsOf w) ∧
      List.Forall₂ (fun x y => Means x y.2.1) tr maps := by
  induction h with
  | nil =>
    obtain rfl := hinit
    exact ⟨[], .nil, .nil⟩
  | @snoc w w' tr op o htrace hstep ih =>
    obtain ⟨maps, hmaps, hmeans⟩ := ih
    have hall := allInvariant_of_reachable (htrace.reachable (.init hinit))
    obtain ⟨-, meaning, hmeaning, hmap⟩ := step_refined hall hstep
    refine ⟨maps ++ [(contentsOf w, meaning, ())], .snoc hmaps hmap, ?_⟩
    exact List.rel_append hmeans (.cons hmeaning .nil)

/-! ## What a container shows -/

variable {e : HashMapEntry Key Value}

/-- What is asked of a container is answered as a finite map would, its chains are packed, and an
entry that an iterator points to can be removed. -/
structure ShowsMap (shape : HashShape Key) (t : HashBase Key Value) (m : FiniteMap Key Value) :
    Prop where
  findValue : ∀ key, t.findValue shape key = m.lookup key
  contains : ∀ key, t.contains shape key = true ↔ key ∈ m
  find : ∀ key, t.get (t.find shape key) = (m.lookup key).map fun value => ⟨key, value⟩
  size : t.numEntries = m.keys.card
  iterated : ∃ seen, (∀ rounds > t.numEntries, HashBase.removeWhere shape (fun _ => false) rounds t
      (t.beginIterator shape) [] = some (seen, t)) ∧ seen.Nodup ∧
    ∀ e, e ∈ seen ↔ m.lookup e.key = some e.value
  once : (t.entries.map (·.key)).Nodup
  packed : ∀ bucket, Packed shape.kEntriesInBucket (t.chain bucket)
  removes : ∀ it group e, it.group = some group → t.get it = some e →
    it.startBucket < shape.kPaddedNumBuckets → (t.removeIterator shape it group).isSome

theorem HashValid.findValue_eq (h : HashValid shape t) (key : Key) :
    t.findValue shape key = (contentOf t).lookup key := by
  apply Option.ext
  intro value
  rw [h.lookup_eq_some]
  exact findValue_eq_some h

theorem HashValid.contains_eq (h : HashValid shape t) (key : Key) :
    t.contains shape key = true ↔ key ∈ contentOf t := by
  rw [contains_iff h, Finmap.mem_iff]
  simp only [h.lookup_eq_some]

theorem HashValid.get_find (h : HashValid shape t) (key : Key) :
    t.get (t.find shape key) = ((contentOf t).lookup key).map fun value => ⟨key, value⟩ := by
  unfold HashBase.find
  cases hfind : t.findEntry shape key with
  | none =>
    have hnone := h.notMem_iff.mpr ((findEntry_eq_none h).mp hfind)
    rw [Finmap.lookup_eq_none.mpr hnone]
    rfl
  | some place =>
    obtain ⟨a, hat, rfl⟩ := findEntry_eq_some hfind
    have hmem : a ∈ t.entries := mem_entries.mpr ⟨_, hat.mem⟩
    rw [h.lookup_eq_some.mpr hmem]
    exact hat.getElem?

theorem HashValid.card_keys (h : HashValid shape t) : t.numEntries = (contentOf t).keys.card := by
  have hkeys : (contentOf t).keys = (t.entries.map (·.key)).toFinset := by
    ext key
    rw [Finmap.mem_keys, List.mem_toFinset, Finmap.mem_iff, List.mem_map]
    constructor
    · rintro ⟨value, hlookup⟩
      exact ⟨_, h.lookup_eq_some.mp hlookup, rfl⟩
    · rintro ⟨e, he, rfl⟩
      exact ⟨e.value, h.lookup_eq_some.mpr he⟩
  rw [hkeys, List.toFinset_card_of_nodup h.nodup, List.length_map, h.size]

omit [DecidableEq ι] [DecidableEq Key] in
theorem removeWhere_none {rounds : ℕ} {it : HashIterator}
    {seen seen' : List (HashMapEntry Key Value)} {t' : HashBase Key Value}
    (h : HashBase.removeWhere shape (fun _ => false) rounds t it seen = some (seen', t')) :
    t' = t := by
  induction rounds generalizing it seen with
  | zero => cases h
  | succ rounds ih =>
    rw [HashBase.removeWhere] at h
    split at h
    · cases h
      rfl
    · obtain ⟨group, -, h⟩ := Option.bind_eq_some_iff.mp h
      obtain ⟨e, -, h⟩ := Option.bind_eq_some_iff.mp h
      obtain ⟨it', -, h⟩ := Option.bind_eq_some_iff.mp h
      exact ih h

theorem HashInvariant.showsMap (h : HashInvariant shape t) : ShowsMap shape t (contentOf t) := by
  constructor
  · exact h.valid.findValue_eq
  · exact h.valid.contains_eq
  · exact h.valid.get_find
  · exact h.valid.card_keys
  · obtain ⟨seen, t', hloop, hperm, -, -⟩ :=
      removeWhere_spec (fun _ => false) [] h.valid (iteratorAt_begin h.valid)
    have hsame : t' = t := removeWhere_none (hloop _ (Nat.lt_succ_self _))
    subst hsame
    refine ⟨seen, ?_, hperm.nodup_iff.mpr h.valid.nodup_entries, ?_⟩
    · rw [h.valid.size]
      exact hloop
    · intro e
      rw [hperm.mem_iff, h.valid.lookup_eq_some]
  · exact h.valid.nodup
  · exact h.valid.packed
  · intro it group e hgroup hget hstart
    obtain ⟨it', t', hremove, -, -⟩ := removeIterator_spec h hgroup hget hstart
    rw [hremove]
    rfl

/-- Whatever is done to hash containers, and whatever memory there is, finite maps do the same, and
each container shows its map. -/
theorem containers_refine_maps (shape : HashShape Key)
    {tr : List (HashWorld ι Key Value × HashOp ι Key Value × HashOutput)}
    {start w : HashWorld ι Key Value} (hinit : (hashMachine shape).init start)
    (h : (hashMachine shape).Trace start tr w) :
    (∃ maps, mapMachine.Trace (fun _ => none) maps (contentsOf w) ∧
      List.Forall₂ (fun x y => Means x y.2.1) tr maps) ∧
    ∀ i t, w.maps i = some t → ShowsMap shape t (contentOf t) := by
  refine ⟨runs_refined hinit h, ?_⟩
  intro i t ht
  exact (allInvariant_of_reachable (h.reachable (.init hinit)) i t ht).showsMap

def oneBucket : HashShape ℕ := ⟨fun _ => 0, 0, 1, le_refl 1⟩

def createTwo : List (HashOp Unit ℕ ℕ) :=
  [.construct (), .create () ⟨1, 10⟩ true, .create () ⟨2, 20⟩ true]

theorem exists_createTwo : ∃ w t,
    (hashMachine oneBucket).run ⟨fun _ => none, ⟨0, []⟩⟩ createTwo = some w ∧
      w.maps () = some t ∧ t.entries = [⟨1, 10⟩, ⟨2, 20⟩] := by
  have hentries : (((hashMachine oneBucket).run ⟨fun _ => none, ⟨0, []⟩⟩ createTwo).bind
    fun w => w.maps ()).map HashBase.entries = some [⟨1, 10⟩, ⟨2, 20⟩] := by rfl
  obtain ⟨t, ht, hentries⟩ := Option.map_eq_some_iff.mp hentries
  obtain ⟨w, hw, ht⟩ := Option.bind_eq_some_iff.mp ht
  exact ⟨w, t, hw, ht, hentries⟩

theorem containers_refine_maps_createTwo : ∃ w t,
    (hashMachine oneBucket).run ⟨fun _ => none, ⟨0, []⟩⟩ createTwo = some w ∧
      w.maps () = some t ∧ t.entries = [⟨1, 10⟩, ⟨2, 20⟩] ∧
      (∃ maps, mapMachine.Trace (fun _ => none) maps (contentsOf w) ∧
        List.Forall₂ (fun x y => Means x y.2.1)
          ((hashMachine oneBucket).transitions ⟨fun _ => none, ⟨0, []⟩⟩ createTwo) maps) ∧
      ShowsMap oneBucket t (contentOf t) := by
  obtain ⟨w, t, hw, ht, hentries⟩ := exists_createTwo
  obtain ⟨hmaps, hshows⟩ := containers_refine_maps oneBucket rfl (.of_run hw)
  exact ⟨w, t, hw, ht, hentries, hmaps, hshows () t ht⟩

/-- A loop that removes the entries that meet a predicate ends, and has looked at every entry once;
the entries that do not meet it are left. -/
theorem removeWhere_visits_once (shape : HashShape Key) {w : HashWorld ι Key Value}
    (hreachable : (hashMachine shape).Reachable w) {i : ι} {t : HashBase Key Value}
    (ht : w.maps i = some t) (p : HashMapEntry Key Value → Bool) : ∃ seen t',
      (∀ rounds > t.numEntries,
        HashBase.removeWhere shape p rounds t (t.beginIterator shape) [] = some (seen, t')) ∧
      seen.Perm t.entries ∧ seen.Nodup ∧ t'.entries.Perm (t.entries.filter fun e => !p e) ∧
      t'.numEntries = t'.entries.length := by
  have h := (allInvariant_of_reachable hreachable i t ht).valid
  obtain ⟨seen, t', hloop, hperm, hvalid, hentries⟩ := removeWhere_spec p [] h (iteratorAt_begin h)
  refine ⟨seen, t', ?_, hperm, hperm.nodup_iff.mpr h.nodup_entries, ?_, hvalid.size⟩
  · rw [h.size]
    exact hloop
  · rw [hentries]
    exact hperm.filter _

theorem removeWhere_visits_once_createTwo : ∃ t : HashBase ℕ ℕ,
    t.entries = [⟨1, 10⟩, ⟨2, 20⟩] ∧ ∃ seen t',
      (∀ rounds > t.numEntries, HashBase.removeWhere oneBucket (fun e => e.value < 15) rounds t
        (t.beginIterator oneBucket) [] = some (seen, t')) ∧
      seen.Perm t.entries ∧ seen.Nodup ∧
      t'.entries.Perm (t.entries.filter fun e => !(e.value < 15)) ∧
      t'.numEntries = t'.entries.length := by
  obtain ⟨w, t, hw, ht, hentries⟩ := exists_createTwo
  exact ⟨t, hentries, removeWhere_visits_once oneBucket (Machine.Reachable.run (.init rfl) hw) ht
    fun e => e.value < 15⟩

end Refinement

end DevDriver.Analysis
