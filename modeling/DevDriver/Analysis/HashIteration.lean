import DevDriver.Analysis.HashEntries

/-!
# Iterating over a hash container

An iterator that begins at the first bucket with entries has some of the entries behind it and the
others in front of it.
-/

namespace DevDriver.Analysis

open Library Model HashBase

variable {Key Value : Type} {shape : HashShape Key} {t t' : HashBase Key Value}
  {e : HashMapEntry Key Value} {bucket start : ℕ} {done ahead : List (HashMapEntry Key Value)}
  {it : HashIterator}

def entriesBefore (t : HashBase Key Value) (bucket : ℕ) : List (HashMapEntry Key Value) :=
  (List.range bucket).flatMap fun other => (t.chain other).flatten

def entriesFrom (t : HashBase Key Value) (bucket count : ℕ) : List (HashMapEntry Key Value) :=
  (List.range' bucket count).flatMap fun other => (t.chain other).flatten

theorem entriesBefore_succ (t : HashBase Key Value) (bucket : ℕ) :
    entriesBefore t (bucket + 1) = entriesBefore t bucket ++ (t.chain bucket).flatten := by
  simp [entriesBefore, List.range_succ]

theorem entriesFrom_succ (t : HashBase Key Value) (bucket count : ℕ) :
    entriesFrom t bucket (count + 1) =
      (t.chain bucket).flatten ++ entriesFrom t (bucket + 1) count := by
  simp [entriesFrom, List.range'_succ]

theorem HashValid.entries_eq (h : HashValid shape t) :
    t.entries = entriesBefore t shape.kPaddedNumBuckets := by
  have hbuckets : t.buckets = (List.range shape.kPaddedNumBuckets).map t.chain := by
    apply List.ext_getElem
    · rw [h.length, List.length_map, List.length_range]
    · intro i hi hi'
      rw [List.getElem_map, List.getElem_range]
      exact (List.getD_eq_getElem _ _ hi).symm
  rw [entries, entriesBefore, hbuckets, List.flatten_flatten, List.map_map,
    ← List.flatMap_def]
  rfl

theorem HashValid.entries_split (h : HashValid shape t) {count : ℕ}
    (hcount : bucket + count = shape.kPaddedNumBuckets) :
    t.entries = entriesBefore t bucket ++ entriesFrom t bucket count := by
  rw [h.entries_eq, ← hcount, entriesBefore, List.range_add, List.flatMap_append, entriesFrom,
    List.range'_eq_map_range]
  rfl

theorem entriesBefore_congr (h : ∀ other < bucket, t'.chain other = t.chain other) :
    entriesBefore t' bucket = entriesBefore t bucket := by
  apply List.flatMap_congr
  intro other hother
  rw [h other (List.mem_range.mp hother)]

theorem entriesFrom_congr {count : ℕ} (h : ∀ other ≥ bucket, t'.chain other = t.chain other) :
    entriesFrom t' bucket count = entriesFrom t bucket count := by
  apply List.flatMap_congr
  intro other hother
  rw [h other (List.left_le_of_mem_range' hother)]

theorem HashValid.isOccupied_iff (h : HashValid shape t) :
    t.IsOccupied bucket ↔ (t.chain bucket).flatten ≠ [] := by
  have hpacked := h.packed bucket
  unfold HashBase.IsOccupied
  cases hchain : t.chain bucket with
  | nil => simp
  | cons group rest =>
    rw [hchain] at hpacked
    obtain ⟨-, -, hfull⟩ := packed_cons.mp hpacked
    constructor
    · rintro ⟨g, hg, hne⟩ hempty
      cases hg
      exact hne (List.append_eq_nil_iff.mp hempty).1
    · intro hne
      refine ⟨group, rfl, ?_⟩
      rintro rfl
      have hcapacity := shape.one_le
      have hzero := hfull hne
      simp at hzero
      omega

/-! ## Iterators -/

/-- An iterator with the entries behind it and those in front of it; the buckets in front of the one
it began at are empty. -/
inductive IteratorAt (shape : HashShape Key) (t : HashBase Key Value) : HashIterator →
    List (HashMapEntry Key Value) → List (HashMapEntry Key Value) → Prop where
  | entry {start bucket count : ℕ} {front back : List (List (HashMapEntry Key Value))}
      {pre post : List (HashMapEntry Key Value)} {e : HashMapEntry Key Value}
      (hstart : ∀ other < start, (t.chain other).flatten = []) (hle : start ≤ bucket)
      (hcount : bucket + 1 + count = shape.kPaddedNumBuckets)
      (hchain : t.chain bucket = front ++ (pre ++ e :: post) :: back) :
      IteratorAt shape t ⟨start, bucket, some front.length, pre.length⟩
        (entriesBefore t bucket ++ front.flatten ++ pre)
        (e :: (post ++ back.flatten ++ entriesFrom t (bucket + 1) count))
  | atEnd (start : ℕ) :
      IteratorAt shape t ⟨start, shape.kPaddedNumBuckets, none, 0⟩
        (entriesBefore t shape.kPaddedNumBuckets) []

theorem IteratorAt.entries_eq (h : IteratorAt shape t it done ahead) (hvalid : HashValid shape t) :
    t.entries = done ++ ahead := by
  cases h with
  | @entry start bucket count front back pre post e hstart hle hcount hchain =>
    have hcount' : bucket + (count + 1) = shape.kPaddedNumBuckets := by omega
    rw [hvalid.entries_split hcount', entriesFrom_succ, hchain]
    simp
  | atEnd => rw [hvalid.entries_eq, List.append_nil]

theorem seekBucket_wraps (hvalid : HashValid shape t)
    (hstart : ∀ other < start, (t.chain other).flatten = []) {rounds current : ℕ}
    (hle : (current + 1) % shape.kPaddedNumBuckets ≤ start)
    (hlt : start < shape.kPaddedNumBuckets)
    (hrounds : start - (current + 1) % shape.kPaddedNumBuckets < rounds) :
    t.seekBucket shape start rounds current = some start := by
  induction rounds generalizing current with
  | zero => omega
  | succ rounds ih =>
    rw [seekBucket]
    rcases hle.eq_or_lt with hsame | hless
    · rw [if_pos (.inr hsame), hsame]
    · have hnot : ¬ (t.IsOccupied ((current + 1) % shape.kPaddedNumBuckets) ∨
          (current + 1) % shape.kPaddedNumBuckets = start) := by
        rw [hvalid.isOccupied_iff, hstart _ hless]
        rintro (hne | hsame)
        · exact hne rfl
        · exact hless.ne hsame
      have hnext : ((current + 1) % shape.kPaddedNumBuckets + 1) % shape.kPaddedNumBuckets =
          (current + 1) % shape.kPaddedNumBuckets + 1 := Nat.mod_eq_of_lt (by omega)
      rw [if_neg hnot]
      apply ih
      · rw [hnext]
        omega
      · rw [hnext]
        omega

theorem seekBucket_spec (hvalid : HashValid shape t)
    (hstart : ∀ other < start, (t.chain other).flatten = []) {rounds current count : ℕ}
    (hle : start ≤ current) (hcount : current + 1 + count = shape.kPaddedNumBuckets)
    (hrounds : count + start < rounds) : ∃ found,
      t.seekBucket shape start rounds current = some found ∧
        IteratorAt shape t
          (if found ≠ start then ⟨start, found, some 0, 0⟩
            else ⟨start, shape.kPaddedNumBuckets, none, 0⟩)
          (entriesBefore t (current + 1)) (entriesFrom t (current + 1) count) := by
  induction count generalizing current rounds with
  | zero =>
    have hwrap : (current + 1) % shape.kPaddedNumBuckets = 0 := by
      rw [← hcount]
      exact Nat.mod_self _
    refine ⟨start, ?_, ?_⟩
    · apply seekBucket_wraps hvalid hstart
      · omega
      · omega
      · omega
    · rw [if_neg (by simp)]
      have hend : entriesBefore t (current + 1) = entriesBefore t shape.kPaddedNumBuckets :=
        congrArg _ hcount
      rw [hend]
      exact .atEnd start
  | succ count ih =>
    obtain ⟨rounds, rfl⟩ : ∃ r, rounds = r + 1 := ⟨rounds - 1, by omega⟩
    have hnext : (current + 1) % shape.kPaddedNumBuckets = current + 1 :=
      Nat.mod_eq_of_lt (by omega)
    have hne : current + 1 ≠ start := by omega
    rw [seekBucket]
    rw [hnext]
    by_cases hoccupied : t.IsOccupied (current + 1)
    · rw [if_pos (.inl hoccupied)]
      refine ⟨current + 1, rfl, ?_⟩
      rw [if_pos hne, entriesFrom_succ]
      obtain ⟨group, hhead, hgroup⟩ := hoccupied
      obtain ⟨e, post, rfl⟩ := List.exists_cons_of_ne_nil hgroup
      obtain ⟨back, hchain⟩ : ∃ back, t.chain (current + 1) = (e :: post) :: back :=
        ⟨_, (List.cons_head?_tail hhead).symm⟩
      have hcount' : current + 1 + 1 + count = shape.kPaddedNumBuckets := by omega
      have hat : IteratorAt shape t ⟨start, current + 1, some 0, 0⟩ _ _ :=
        @IteratorAt.entry _ _ _ _ _ _ _ [] back [] post e hstart (by omega) hcount' hchain
      simpa [hchain] using hat
    · have hempty : (t.chain (current + 1)).flatten = [] := by
        by_contra hne
        exact hoccupied (hvalid.isOccupied_iff.mpr hne)
      rw [if_neg (by tauto), entriesFrom_succ, hempty, List.nil_append]
      obtain ⟨found, hseek, hat⟩ := @ih rounds (current + 1) (by omega) (by omega) (by omega)
      refine ⟨found, hseek, ?_⟩
      rwa [entriesBefore_succ, hempty, List.append_nil] at hat

theorem nextBucket_spec (hvalid : HashValid shape t)
    (hstart : ∀ other < start, (t.chain other).flatten = []) {count : ℕ} (hle : start ≤ bucket)
    (hcount : bucket + 1 + count = shape.kPaddedNumBuckets) (group : Option ℕ) (index : ℕ) :
    ∃ it, t.nextBucket shape ⟨start, bucket, group, index⟩ = some it ∧
      IteratorAt shape t it (entriesBefore t (bucket + 1)) (entriesFrom t (bucket + 1) count) := by
  obtain ⟨found, hseek, hat⟩ := seekBucket_spec hvalid hstart hle hcount
    (show count + start < shape.kPaddedNumBuckets by omega)
  refine ⟨_, ?_, hat⟩
  unfold nextBucket
  rw [hseek]
  rfl

theorem IteratorAt.next (h : IteratorAt shape t it done (e :: ahead)) (hvalid : HashValid shape t) :
    ∃ it', t.next shape it = some it' ∧ IteratorAt shape t it' (done ++ [e]) ahead := by
  cases h with
  | @entry start bucket count front back pre post e hstart hle hcount hchain =>
    have hpacked := hvalid.packed bucket
    rw [hchain] at hpacked
    obtain ⟨hlength, -, hfull⟩ := packed_cons.mp (packed_append.mp hpacked).2.1
    have hgroup : (t.chain bucket).getD front.length [] = pre ++ e :: post := by
      rw [hchain]
      simp
    have hnextGroup : (t.chain bucket).getD (front.length + 1) [] = back.headD [] := by
      rw [hchain, List.getD_eq_getElem?_getD, List.getElem?_append_right (by omega),
        Nat.add_sub_cancel_left, List.getElem?_cons_succ, ← List.head?_eq_getElem?,
        List.headD_eq_head?_getD]
    unfold HashBase.next
    dsimp only
    rw [hgroup, hnextGroup]
    simp only [List.length_append, List.length_cons] at hlength ⊢
    rcases post with _ | ⟨x, post⟩
    · rw [if_neg (by simp)]
      by_cases hback : back.headD [] = []
      · have hempty : back.flatten = [] := by
          cases back with
          | nil => rfl
          | cons g back =>
            obtain rfl : g = [] := hback
            have hcapacity := shape.one_le
            have hrest := (packed_cons.mp (packed_append.mp hpacked).2.1).2.1
            by_contra hne
            have hzero := (packed_cons.mp hrest).2.2 hne
            simp at hzero
            omega
        rw [if_neg fun hmore => hmore.2 hback]
        obtain ⟨it', hnext, hat⟩ := nextBucket_spec hvalid hstart hle hcount _ pre.length
        refine ⟨it', hnext, ?_⟩
        rw [entriesBefore_succ, hchain] at hat
        simpa [hempty] using hat
      · rw [if_pos ⟨by simp, hback⟩]
        obtain ⟨x, g, rest, rfl⟩ : ∃ x g rest, back = (x :: g) :: rest := by
          cases back with
          | nil => exact absurd rfl hback
          | cons g rest =>
            obtain ⟨x, g, rfl⟩ := List.exists_cons_of_ne_nil hback
            exact ⟨x, g, rest, rfl⟩
        refine ⟨_, rfl, ?_⟩
        have hchain' : t.chain bucket = (front ++ [pre ++ [e]]) ++ ([] ++ x :: g) :: rest := by
          rw [hchain]
          simp
        have hat := IteratorAt.entry hstart hle hcount hchain'
        simpa using hat
    · rw [if_pos (by simp at hlength ⊢; omega)]
      refine ⟨_, rfl, ?_⟩
      have hchain' : t.chain bucket = front ++ ((pre ++ [e]) ++ x :: post) :: back := by
        rw [hchain]
        simp
      have hat := IteratorAt.entry hstart hle hcount hchain'
      simpa using hat

theorem IteratorAt.get (h : IteratorAt shape t it done (e :: ahead)) :
    t.get it = some e ∧ it.group.isSome ∧ it.currentBucket < shape.kPaddedNumBuckets := by
  cases h with
  | @entry start bucket count front back pre post e hstart hle hcount hchain =>
    refine ⟨?_, rfl, by dsimp only; omega⟩
    unfold HashBase.get entryAt
    simp [hchain]

theorem IteratorAt.remove (h : IteratorAt shape t it done (e :: ahead))
    (hvalid : HashValid shape t) : ∃ group it' t' ahead', it.group = some group ∧
      t.removeIterator shape it group = some (it', t') ∧ HashValid shape t' ∧
      IteratorAt shape t' it' done ahead' ∧ ahead'.Perm ahead := by
  cases h with
  | @entry start bucket count front back pre post e hstart hle hcount hchain =>
    have hbucket : bucket < t.buckets.length := by
      rw [hvalid.length]
      omega
    obtain ⟨post', back', hchains, hperm, hlast, hend, hvalid', -⟩ :=
      hvalid.removeAt hbucket hchain
    have hchain' := hchains bucket
    rw [if_pos rfl] at hchain'
    have hother : ∀ other ≠ bucket,
        (t.removeAt bucket (front.length, pre.length)).chain other = t.chain other := by
      intro other hne
      rw [hchains, if_neg hne]
    have hbefore : entriesBefore (t.removeAt bucket (front.length, pre.length)) bucket =
        entriesBefore t bucket := entriesBefore_congr fun other hlt => hother other hlt.ne
    have hfrom : entriesFrom (t.removeAt bucket (front.length, pre.length)) (bucket + 1) count =
        entriesFrom t (bucket + 1) count :=
      entriesFrom_congr fun other hge => hother other (by omega)
    have hstart' : ∀ other < start,
        ((t.removeAt bucket (front.length, pre.length)).chain other).flatten = [] := by
      intro other hlt
      rw [hother other (by omega)]
      exact hstart other hlt
    unfold removeIterator
    by_cases hpost : post' = []
    · obtain ⟨it', hnext, hat⟩ := nextBucket_spec hvalid' hstart' hle hcount
        (some front.length) pre.length
      have hempty : post ++ back.flatten = [] := hend hpost
      rw [hpost, hempty, List.nil_append] at hperm
      have hnext' : (t.removeAt bucket (front.length, pre.length)).next shape
          ⟨start, bucket, some front.length, pre.length⟩ = some it' := by
        unfold HashBase.next
        dsimp only
        have hgroup : (front ++ (pre ++ post') :: back').getD front.length [] = pre := by
          simp [hpost]
        rw [hchain', hgroup, if_neg (by omega), if_neg (by omega)]
        exact hnext
      refine ⟨front.length, it', _, entriesFrom t (bucket + 1) count, rfl, ?_, hvalid', ?_, ?_⟩
      · rw [if_pos (hlast.mpr hpost), hnext']
        rfl
      · rw [hfrom, entriesBefore_succ, hbefore, hchain'] at hat
        rw [hpost] at hat
        simpa [hperm.eq_nil] using hat
      · rw [hempty, List.nil_append]
    · obtain ⟨x, post'', rfl⟩ := List.exists_cons_of_ne_nil hpost
      have hat := IteratorAt.entry hstart' hle hcount hchain'
      rw [hbefore, hfrom] at hat
      exact ⟨front.length, _, _, _, rfl, if_neg fun h => hpost (hlast.mp h), hvalid', hat,
        hperm.append_right _⟩

theorem iteratorAt_begin (hvalid : HashValid shape t) :
    IteratorAt shape t (t.beginIterator shape) [] t.entries := by
  unfold beginIterator getFirstBucket
  by_cases hsize : t.numEntries = 0
  · rw [if_neg (not_not_intro hsize)]
    have hentries : t.entries = [] := List.length_eq_zero_iff.mp (hvalid.size ▸ hsize)
    have hchain : t.chain shape.kPaddedNumBuckets = [] := chain_of_le hvalid.length.le
    rw [hchain, if_pos rfl, hentries]
    have hat := @IteratorAt.atEnd _ _ shape t shape.kPaddedNumBuckets
    rwa [← hvalid.entries_eq, hentries] at hat
  · rw [if_pos hsize]
    cases hfind : (List.range shape.kPaddedNumBuckets).find? fun bucket => t.IsOccupied bucket with
    | none =>
      rw [List.find?_eq_none] at hfind
      exfalso
      apply hsize
      rw [hvalid.size, hvalid.entries_eq, List.length_eq_zero_iff, entriesBefore,
        List.flatMap_eq_nil_iff]
      intro bucket hbucket
      by_contra hne
      exact hfind bucket hbucket (decide_eq_true (hvalid.isOccupied_iff.mpr hne))
    | some bucket =>
      rw [Option.getD_some]
      have hbefore := List.find?_range_eq_some.mp hfind
      obtain ⟨hoccupied, hmem, hempty⟩ := hbefore
      have hlt : bucket < shape.kPaddedNumBuckets := List.mem_range.mp hmem
      have hstart : ∀ other < bucket, (t.chain other).flatten = [] := by
        intro other hother
        by_contra hne
        have hnot := hempty other hother
        rw [decide_eq_true (hvalid.isOccupied_iff.mpr hne)] at hnot
        cases hnot
      obtain ⟨group, hhead, hgroup⟩ := of_decide_eq_true hoccupied
      obtain ⟨e, post, rfl⟩ := List.exists_cons_of_ne_nil hgroup
      obtain ⟨back, hchain⟩ : ∃ back, t.chain bucket = (e :: post) :: back :=
        ⟨_, (List.cons_head?_tail hhead).symm⟩
      obtain ⟨count, hcount⟩ : ∃ count, bucket + 1 + count = shape.kPaddedNumBuckets :=
        ⟨shape.kPaddedNumBuckets - (bucket + 1), by omega⟩
      have hat : IteratorAt shape t ⟨bucket, bucket, some 0, 0⟩ _ _ :=
        @IteratorAt.entry _ _ _ _ _ _ _ [] back [] post e hstart (le_refl bucket) hcount hchain
      have hnone : entriesBefore t bucket = [] := by
        rw [entriesBefore, List.flatMap_eq_nil_iff]
        exact fun other hother => hstart other (List.mem_range.mp hother)
      rw [hnone] at hat
      have hentries := hat.entries_eq hvalid
      rw [hchain, if_neg (by nofun), hentries]
      exact hat

/-- By induction on the entries still to be visited. -/
theorem removeWhere_spec (p : HashMapEntry Key Value → Bool) (seen : List (HashMapEntry Key Value))
    (hvalid : HashValid shape t) (h : IteratorAt shape t it done ahead) : ∃ seen' t',
      (∀ rounds > ahead.length,
        removeWhere shape p rounds t it seen = some (seen ++ seen', t')) ∧
      seen'.Perm ahead ∧ HashValid shape t' ∧ t'.entries = done ++ seen'.filter fun e => !p e := by
  induction hlength : ahead.length generalizing t it done ahead seen with
  | zero =>
    obtain rfl := List.length_eq_zero_iff.mp hlength
    cases h with
    | atEnd start =>
      refine ⟨[], t, ?_, .refl _, hvalid, ?_⟩
      · rintro (_ | rounds) hrounds
        · omega
        · rw [removeWhere, if_pos ⟨rfl, rfl⟩, List.append_nil]
      · rw [List.filter_nil, List.append_nil]
        exact hvalid.entries_eq
  | succ length ih =>
    obtain ⟨e, ahead, rfl⟩ := List.exists_cons_of_length_eq_add_one hlength
    obtain ⟨hget, hgroup, hbucket⟩ := h.get
    have hend : ¬ it.Equals (.atEnd shape) := fun hsame => hbucket.ne hsame.1
    obtain ⟨group, hgroup⟩ := Option.isSome_iff_exists.mp hgroup
    have hlength' : ahead.length = length := Nat.succ.inj hlength
    by_cases hp : p e = true
    · obtain ⟨group', it', t', ahead', hgroup', hremove, hvalid', hat, hperm⟩ := h.remove hvalid
      obtain rfl : group = group' := Option.some.inj (hgroup.symm.trans hgroup')
      obtain ⟨seen', u, hloop, hseen, hvalid'', hentries⟩ :=
        ih (seen ++ [e]) hvalid' hat (hperm.length_eq.trans hlength')
      refine ⟨e :: seen', u, ?_, (hseen.trans hperm).cons e, hvalid'', ?_⟩
      · rintro (_ | rounds) hrounds
        · omega
        · rw [removeWhere, if_neg hend, hgroup, hget]
          simp only [Option.bind_eq_bind, Option.bind_some, hp, if_true, hremove]
          rw [hloop rounds (by omega), List.append_assoc]
          rfl
      · rw [hentries, List.filter_cons_of_neg (by simp [hp])]
    · obtain ⟨it', hnext, hat⟩ := h.next hvalid
      obtain ⟨seen', u, hloop, hseen, hvalid', hentries⟩ := ih (seen ++ [e]) hvalid hat hlength'
      refine ⟨e :: seen', u, ?_, hseen.cons e, hvalid', ?_⟩
      · rintro (_ | rounds) hrounds
        · omega
        · rw [removeWhere, if_neg hend, hgroup, hget]
          simp only [Option.bind_eq_bind, Option.bind_some, hp, hnext]
          rw [if_neg (by simp), hloop rounds (by omega), List.append_assoc]
          rfl
      · rw [hentries, List.filter_cons_of_pos (by simp [hp]), List.append_assoc]
        rfl

end DevDriver.Analysis
