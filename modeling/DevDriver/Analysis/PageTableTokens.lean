import DevDriver.Analysis.RmtLayouts
import DevDriver.Library.Runs
import DevDriver.Model.PageTableTrace

/-!
# Tokens for page-table updates

A trace has a token for each update of system memory and for each maximal run of pages whose
physical addresses advance by the size of a page.
-/

namespace DevDriver.Analysis

open Library Model Emission

/-- Some pages that are mapped, or no longer mapped, together; pages have a size unless it is one
that no token can tell. -/
structure PageUpdate where
  virtualAddress : ℕ
  physicalAddress : ℕ
  numPages : ℕ
  pageSize : Option ℕ
  isUnmap : Bool
  deriving DecidableEq

/-- The size that an `RMT_PAGE_SIZE` stands for.
rmtCommon.h:148-158 -/
def pageSizeOfCode : ℕ → Option ℕ
  | 1 => some (4 * 1024)
  | 2 => some (64 * 1024)
  | 3 => some (256 * 1024)
  | 4 => some (1024 * 1024)
  | 5 => some (2 * 1024 * 1024)
  | _ => none

/-- A token by its documented ranges.
rmtTokens.h:590-625 -/
def decodeUpdate (d : RmtTokenData) : PageUpdate where
  virtualAddress := bitsOf d.pByteData 8 36 * 2 ^ 12
  physicalAddress := bitsOf d.pByteData 44 36 * 2 ^ 12
  numPages := bitsOf d.pByteData 80 20
  pageSize := pageSizeOfCode (bitsOf d.pByteData 100 3)
  isUnmap := bitsOf d.pByteData 103 1 = 1

/-- The update fits the ranges of a token. -/
structure FitsToken (u : PageUpdate) : Prop where
  virtualAddress : u.virtualAddress < 2 ^ 48 ∧ 4096 ∣ u.virtualAddress
  physicalAddress : u.physicalAddress < 2 ^ 48 ∧ 4096 ∣ u.physicalAddress
  numPages : u.numPages < 2 ^ 20
  pageSize : u.pageSize ∈ [4 * 1024, 64 * 1024, 256 * 1024, 1024 * 1024, 2 * 1024 * 1024].map some

section Kernel

def IsMapping (k : KernelUpdate) : Prop := k.flags &&& 0x2 ≠ 0x2 ∧ k.flags &&& 0x1 ≠ 0

instance (k : KernelUpdate) : Decidable (IsMapping k) := inferInstanceAs (Decidable (_ ∧ _))

def advances (k : KernelUpdate) (i : ℕ) : Bool :=
  (k.dst.read (i + 1)).toNat = (k.dst.read i).toNat + k.incr.toNat

/-- The maximal runs of pages whose physical addresses advance by the size of a page. -/
def pageRuns (k : KernelUpdate) : List (ℕ × ℕ) := runsFrom (advances k) k.nptes.toNat 0

def updatesOf (k : KernelUpdate) : List PageUpdate :=
  if IsMapping k then
    (pageRuns k).map fun run =>
      { virtualAddress := k.start.toNat * 4096 + run.1 * k.incr.toNat
        physicalAddress := (k.dst.read run.1).toNat
        numPages := run.2
        pageSize := some k.incr.toNat
        isUnmap := false }
  else
    [{ virtualAddress := k.start.toNat * 4096
       physicalAddress := 0
       numPages := k.nptes.toNat
       pageSize := some k.incr.toNat
       isUnmap := k.flags &&& 0x1 = 0 }]

end Kernel

/-! ## Tokens -/

def describeArgs (args : UpdateArgs) : PageUpdate where
  virtualAddress := args.virtualAddress.toNat
  physicalAddress := args.physicalAddress.toNat
  numPages := args.numPages.toNat
  pageSize := pageSizeOfCode args.pageSize.ctorIdx
  isUnmap := args.isUnmap

section Tokens

variable {d : RmtTokenData} {args : UpdateArgs}

theorem fitsToken_decodeUpdate (h : (decodeUpdate d).pageSize.isSome) :
    FitsToken (decodeUpdate d) := by
  have hva : bitsOf d.pByteData 8 36 < 2 ^ 36 := bitsOf_lt _ _ _
  have hpa : bitsOf d.pByteData 44 36 < 2 ^ 36 := bitsOf_lt _ _ _
  have hsize : ∀ code, (pageSizeOfCode code).isSome → pageSizeOfCode code ∈
      [4 * 1024, 64 * 1024, 256 * 1024, 1024 * 1024, 2 * 1024 * 1024].map some := by
    intro code hcode
    unfold pageSizeOfCode at hcode ⊢
    split at hcode
    all_goals first
      | simp; done
      | cases hcode
  refine ⟨⟨?_, Nat.dvd_mul_left _ _⟩, ⟨?_, Nat.dvd_mul_left _ _⟩, bitsOf_lt _ _ _, hsize _ h⟩
  · change bitsOf d.pByteData 8 36 * 2 ^ 12 < 2 ^ 48
    omega
  · change bitsOf d.pByteData 44 36 * 2 ^ 12 < 2 ^ 48
    omega

theorem build_token_mod (memory : ℕ → BitVec 8) (delta : BitVec 8) (args : UpdateArgs) :
    (args.token delta).build memory = (args.token (delta % 16)).build memory := by
  have hheader : headerWrite .pageTableUpdate delta =
      headerWrite .pageTableUpdate (delta % 16) := by
    rw [headerWrite, headerWrite, rmtTokenHeader, rmtTokenHeader]
    have hmod : (delta % 16).toNat % 16 = delta.toNat % 16 := by
      rw [BitVec.toNat_umod]
      exact Nat.mod_mod _ _
    rw [hmod]
  change rmtMsgPageTableUpdate memory delta _ _ _ _ _ _ _ _ =
    rmtMsgPageTableUpdate memory (delta % 16) _ _ _ _ _ _ _ _
  rw [rmtMsgPageTableUpdate, hheader]
  rfl

theorem layout_token (delta : BitVec 8) (args : UpdateArgs) :
    tokenLayout (args.token delta) =
      [⟨3, 0, 3⟩, ⟨7, 4, delta.toNat⟩, ⟨43, 8, (args.virtualAddress.toNat / 2 ^ 12 : ℕ)⟩,
        ⟨79, 44, (args.physicalAddress.toNat / 2 ^ 12 : ℕ)⟩, ⟨99, 80, args.numPages.toNat⟩,
        ⟨102, 100, args.pageSize.ctorIdx⟩, ⟨103, 103, args.isUnmap.toNat⟩,
        ⟨135, 104, args.processId.toNat⟩, ⟨137, 136, 1⟩, ⟨138, 138, 0⟩, ⟨143, 139, 0⟩] := rfl

theorem representable_token (h : FitsToken (describeArgs args)) {delta : BitVec 8}
    (hdelta : delta.toNat < 16) : Representable (args.token delta) := by
  obtain ⟨⟨hva, -⟩, ⟨hpa, -⟩, hpages, -⟩ := h
  dsimp only [describeArgs] at hva hpa hpages
  have hcode : args.pageSize.ctorIdx < 8 := by
    cases args.pageSize <;> decide
  have hflag : args.isUnmap.toNat < 2 := Bool.toNat_lt args.isUnmap
  have hprocess : args.processId.toNat < 2 ^ 32 := args.processId.isLt
  intro f hf
  rw [layout_token] at hf
  simp only [List.mem_cons, List.not_mem_nil, or_false] at hf
  rcases hf with rfl | rfl | rfl | rfl | rfl | rfl | rfl | rfl | rfl | rfl | rfl
  all_goals
    simp only [DocField.Holds, DocField.width]
    omega

theorem decodeUpdate_of_shows {delta : BitVec 8} (hshows : Shows d (tokenLayout (args.token delta)))
    (hva : 4096 ∣ args.virtualAddress.toNat) (hpa : 4096 ∣ args.physicalAddress.toNat) :
    decodeUpdate d = describeArgs args := by
  rw [layout_token, Shows] at hshows
  simp only [List.forall_mem_cons] at hshows
  obtain ⟨-, -, hva', hpa', hpages', hcode', hflag', -⟩ := hshows
  have hread : ∀ {start len v : ℕ}, (bitsOf d.pByteData start len : ℤ) = (v : ℤ) →
      bitsOf d.pByteData start len = v := fun h => Int.ofNat.inj h
  have hunmap : bitsOf d.pByteData 103 1 = args.isUnmap.toNat := hread hflag'
  rw [decodeUpdate, describeArgs, PageUpdate.mk.injEq]
  refine ⟨?_, ?_, hread hpages', congrArg pageSizeOfCode (hread hcode'), ?_⟩
  · exact (congrArg (· * 2 ^ 12) (hread hva')).trans (Nat.div_mul_cancel hva)
  · exact (congrArg (· * 2 ^ 12) (hread hpa')).trans (Nat.div_mul_cancel hpa)
  · rw [hunmap]
    cases args.isUnmap <;> rfl

theorem decodeUpdate_token (h : FitsToken (describeArgs args)) (memory : ℕ → BitVec 8)
    (delta : BitVec 8) :
    decodeUpdate ((args.token delta).build memory) = describeArgs args := by
  have hdelta : (delta % 16).toNat < 16 := by
    rw [BitVec.toNat_umod]
    exact Nat.mod_lt _ (by decide)
  rw [build_token_mod]
  exact decodeUpdate_of_shows (showsLayout_pageTableUpdate (representable_token h hdelta)).1
    h.virtualAddress.2 h.physicalAddress.2

end Tokens

section Iterator

variable {event : PageTableUpdateEvent} {n i count : ℕ} {reads : List ℕ}

def strides (event : PageTableUpdateEvent) (i : ℕ) : Bool :=
  event.dst.read (i + 1) - event.dst.read i = event.incr

theorem coalescePages_count :
    (coalescePages event n i count reads).1 + 1 = count + runLength (strides event) n i := by
  induction n generalizing i count reads with
  | zero => rfl
  | succ n ih =>
    rw [coalescePages, runLength, strides]
    by_cases hstride : event.dst.read (i + 1) - event.dst.read i = event.incr
    · rw [if_pos hstride, if_pos (decide_eq_true hstride), ih]
      omega
    · rw [if_neg hstride, if_neg (by simpa using hstride)]

theorem coalescePages_reads (n i count : ℕ) (reads : List ℕ) :
    ∃ more, (coalescePages event n i count reads).2 = reads ++ more ∧
      (∀ k ∈ more, k ≤ i + n) ∧
      ∀ k, i < k → k < i + runLength (strides event) n i → k ∈ more := by
  induction n generalizing i count reads with
  | zero =>
    refine ⟨[], (List.append_nil _).symm, nofun, ?_⟩
    intro k hlow hhigh
    rw [runLength] at hhigh
    omega
  | succ n ih =>
    rw [coalescePages, runLength, strides]
    by_cases hstride : event.dst.read (i + 1) - event.dst.read i = event.incr
    · rw [if_pos hstride, if_pos (decide_eq_true hstride)]
      obtain ⟨more, hmore, hbound, hall⟩ := ih (i + 1) (count + 1) (reads ++ [i + 1, i])
      refine ⟨[i + 1, i] ++ more, ?_, ?_, ?_⟩
      · rw [hmore, List.append_assoc]
      · intro k hk
        rcases List.mem_append.mp hk with hk | hk
        · simp only [List.mem_cons, List.not_mem_nil, or_false] at hk
          omega
        · have := hbound k hk
          omega
      · intro k hlow hhigh
        by_cases hnext : k = i + 1
        · subst hnext
          simp
        · exact List.mem_append_right _ (hall k (by omega) (by omega))
    · rw [if_neg hstride, if_neg (by simpa using hstride)]
      refine ⟨[i + 1, i], rfl, ?_, ?_⟩
      · intro k hk
        simp only [List.mem_cons, List.not_mem_nil, or_false] at hk
        omega
      · intro k hlow hhigh
        omega

end Iterator

/-! ## Emission -/

def runArgs (event : PageTableUpdateEvent) (run : ℕ × ℕ) : UpdateArgs :=
  ⟨event.start + BitVec.ofNat 64 run.1 * event.incr, event.dst.read run.1,
    BitVec.ofNat 32 run.2, getRmtPageSize event.incr, event.isUnmap, event.pid⟩

def callsOf (event : PageTableUpdateEvent) : List UpdateArgs :=
  if event.isSingle then
    [⟨event.start, 0, event.nptes, getRmtPageSize event.incr, event.isUnmap, event.pid⟩]
  else (runsFrom (strides event) event.nptes.toNat 0).map (runArgs event)

inductive EmitsTokens (env : EmitterEnv) : List UpdateArgs → Emission → Emission → Prop where
  | done {e e' : Emission} (htokens : e'.tokens = e.tokens) (hsuccess : e'.success = true) :
      EmitsTokens env [] e e'
  | failed {args : UpdateArgs} {rest : List UpdateArgs} {e e' : Emission}
      (haccepts : env.accepts e.tokens.length = false) (htokens : e'.tokens = e.tokens)
      (hsuccess : e'.success = false) : EmitsTokens env (args :: rest) e e'
  | emitted {args : UpdateArgs} {rest : List UpdateArgs} {e e₁ e' : Emission}
      (haccepts : env.accepts e.tokens.length = true)
      (htokens : e₁.tokens = e.tokens ++
        [(args.token (env.timeDelta.getD 0)).build (env.memory e.tokens.length)])
      (h : EmitsTokens env rest e₁ e') : EmitsTokens env (args :: rest) e e'

def InBounds (e : Emission) : Prop := ∀ r ∈ e.reads, r.1 < r.2

section Emission

variable {env : EmitterEnv} {due due' : List UpdateArgs} {e e' e'' : Emission}
  {event : PageTableUpdateEvent}

theorem EmitsTokens.of_tokens (h : EmitsTokens env due e e'') (htokens : e.tokens = e'.tokens) :
    EmitsTokens env due e' e'' := by
  cases h with
  | done hsame hdone => exact .done (hsame.trans htokens) hdone
  | failed haccepts hsame hfailed =>
    rw [htokens] at haccepts hsame
    exact .failed haccepts hsame hfailed
  | emitted haccepts hone h =>
    rw [htokens] at haccepts hone
    exact .emitted haccepts hone h

theorem EmitsTokens.append (h : EmitsTokens env due e e') (hsuccess : e'.success = true)
    (h' : EmitsTokens env due' e' e'') : EmitsTokens env (due ++ due') e e'' := by
  induction h with
  | done htokens hdone => exact h'.of_tokens htokens
  | failed haccepts htokens hfailed => exact absurd (hfailed.symm.trans hsuccess) (by decide)
  | emitted haccepts htokens h ih => exact .emitted haccepts htokens (ih hsuccess h')

theorem EmitsTokens.append_failed (h : EmitsTokens env due e e') (hsuccess : e'.success = false)
    (due' : List UpdateArgs) : EmitsTokens env (due ++ due') e e' := by
  induction h with
  | done htokens hdone => exact absurd (hdone.symm.trans hsuccess) (by decide)
  | failed haccepts htokens hfailed => exact .failed haccepts htokens hfailed
  | emitted haccepts htokens h ih => exact .emitted haccepts htokens (ih hsuccess)

theorem EmitsTokens.success (h : EmitsTokens env due e e') (hsuccess : e'.success = true) :
    e'.tokens.length = e.tokens.length + due.length ∧
      (∀ k < due.length, env.accepts (e.tokens.length + k) = true) ∧
      ((∀ args ∈ due, FitsToken (describeArgs args)) →
        e'.tokens.map decodeUpdate = e.tokens.map decodeUpdate ++ due.map describeArgs) := by
  induction h with
  | done htokens hdone => simp [htokens]
  | failed haccepts htokens hfailed => exact absurd (hfailed.symm.trans hsuccess) (by decide)
  | @emitted args rest e e₁ e' haccepts htokens h ih =>
    obtain ⟨hlength, htaken, hdecode⟩ := ih hsuccess
    have hone : e₁.tokens.length = e.tokens.length + 1 := by
      rw [htokens, List.length_append, List.length_singleton]
    refine ⟨?_, ?_, ?_⟩
    · rw [hlength, hone, List.length_cons]
      omega
    · intro k hk
      cases k with
      | zero => exact haccepts
      | succ k =>
        rw [List.length_cons] at hk
        have hnext := htaken k (by omega)
        rwa [hone, Nat.add_right_comm] at hnext
    · intro hfits
      rw [hdecode fun args hmem => hfits args (List.mem_cons_of_mem _ hmem), htokens,
        List.map_append, List.map_singleton, decodeUpdate_token (hfits args List.mem_cons_self),
        List.append_assoc]
      rfl

theorem EmitsTokens.failure (h : EmitsTokens env due e e') (hsuccess : e'.success = false) :
    e'.tokens.length < e.tokens.length + due.length ∧
      ∃ k < due.length, env.accepts (e.tokens.length + k) = false := by
  induction h with
  | done htokens hdone => exact absurd (hdone.symm.trans hsuccess) (by decide)
  | failed haccepts htokens hfailed =>
    rw [htokens, List.length_cons]
    exact ⟨by omega, 0, by omega, haccepts⟩
  | @emitted args rest e e₁ e' haccepts htokens h ih =>
    obtain ⟨hlength, k, hk, hrejects⟩ := ih hsuccess
    have hone : e₁.tokens.length = e.tokens.length + 1 := by
      rw [htokens, List.length_append, List.length_singleton]
    rw [hone] at hlength hrejects
    rw [List.length_cons]
    refine ⟨by omega, k + 1, by omega, ?_⟩
    rwa [Nat.add_right_comm] at hrejects

theorem emitsTokens_emit (hsuccess : e.success = true) (args : UpdateArgs) :
    EmitsTokens env [args] e (e.emit env args) := by
  rw [emit]
  split
  · rename_i haccepts
    exact .emitted haccepts rfl (.done rfl hsuccess)
  · rename_i haccepts
    exact .failed (Bool.eq_false_iff.mpr haccepts) rfl rfl

theorem reads_emit (args : UpdateArgs) (e : Emission) : (e.emit env args).reads = e.reads := by
  rw [emit]
  split <;> rfl

theorem nextAddressPair_run {n index : ℕ} (h : index + (n + 1) = event.nptes.toNat) :
    ∃ pair reads,
      nextAddressPair event index =
        some (pair, index + runLength (strides event) n index, reads) ∧
      (⟨pair.virtualAddress, pair.physicalAddress, pair.numPages, getRmtPageSize event.incr,
        event.isUnmap, event.pid⟩ : UpdateArgs) =
          runArgs event (index, runLength (strides event) n index) ∧
      (∀ k ∈ reads, k < event.nptes.toNat) ∧
      ∀ k, index ≤ k → k < index + runLength (strides event) n index → k ∈ reads := by
  have hbehind : event.nptes.toNat - 1 - index = n := by omega
  have hcount : (coalescePages event n index 1 [index]).1 + 1 =
      1 + runLength (strides event) n index := coalescePages_count
  have hlength : (coalescePages event n index 1 [index]).1 =
      runLength (strides event) n index := by omega
  have hcoalesced : ∃ more, (coalescePages event n index 1 [index]).2 = [index] ++ more ∧
      (∀ k ∈ more, k ≤ index + n) ∧ ∀ k, index < k →
        k < index + runLength (strides event) n index → k ∈ more := coalescePages_reads n index 1 _
  obtain ⟨more, hmore, hbound, hall⟩ := hcoalesced
  rw [nextAddressPair, if_pos (by omega), hbehind]
  dsimp only
  rw [hlength, hmore]
  refine ⟨_, _, rfl, rfl, ?_, ?_⟩
  · intro k hk
    rcases List.mem_append.mp hk with hk | hk
    · rw [List.mem_singleton] at hk
      omega
    · have hle := hbound k hk
      omega
  · intro k hlow hhigh
    by_cases hfirst : k = index
    · rw [hfirst]
      exact List.mem_append_left _ (List.mem_singleton_self _)
    · exact List.mem_append_right _ (hall k (by omega) hhigh)

/-- By induction on the pages that are left: the runs cover them in order. -/
theorem emitRuns_spec (event : PageTableUpdateEvent) (rounds : ℕ) :
    ∀ (n index : ℕ) (e : Emission), e.success = true → n ≤ rounds →
      index + n = event.nptes.toNat →
      EmitsTokens env ((runsFrom (strides event) n index).map (runArgs event)) e
          (e.emitRuns env event rounds index) ∧
        ((e.emitRuns env event rounds index).success = true →
          (InBounds (e.emitRuns env event rounds index) ↔
            InBounds e ∧ (0 < n → event.nptes.toNat ≤ event.dst.present.length))) := by
  induction rounds with
  | zero =>
    intro n index e hsuccess hn hindex
    obtain rfl := Nat.le_zero.mp hn
    refine ⟨.done rfl hsuccess, fun _ => ?_⟩
    rw [emitRuns]
    simp
  | succ rounds ih =>
    intro n index e hsuccess hn hindex
    cases n with
    | zero =>
      have hnone : nextAddressPair event index = none := if_neg (by omega)
      rw [emitRuns, hnone]
      refine ⟨.done rfl hsuccess, fun _ => ?_⟩
      simp
    | succ n =>
      obtain ⟨pair, reads, hnext, hargs, hbound, hall⟩ := nextAddressPair_run hindex
      have hpos : 1 ≤ runLength (strides event) n index := one_le_runLength n index
      have hle : runLength (strides event) n index ≤ n + 1 := runLength_le n index
      rw [emitRuns, hnext]
      dsimp only
      rw [hargs, runsFrom_succ, List.map_cons]
      generalize hread : ({ e with
        reads := e.reads ++ reads.map fun i => (i, event.dst.present.length) } : Emission) = e₁
      have htokens : e₁.tokens = e.tokens := by
        rw [← hread]
      have hgoes : e₁.success = true := by
        rw [← hread]
        exact hsuccess
      have hone : EmitsTokens env [runArgs event (index, runLength (strides event) n index)] e
          (e₁.emit env (runArgs event (index, runLength (strides event) n index))) :=
        (emitsTokens_emit hgoes _).of_tokens htokens
      split
      · rename_i htaken
        obtain ⟨hrest, hinside⟩ := ih (n + 1 - runLength (strides event) n index)
          (index + runLength (strides event) n index) _ htaken (by omega) (by omega)
        refine ⟨hone.append htaken hrest, fun hdone => (hinside hdone).trans ?_⟩
        have hreads : InBounds (e₁.emit env
            (runArgs event (index, runLength (strides event) n index))) ↔
            InBounds e ∧ ∀ k ∈ reads, k < event.dst.present.length := by
          rw [InBounds, reads_emit, ← hread]
          simp [InBounds, or_imp, forall_and]
        rw [hreads, and_assoc]
        refine and_congr_right fun _ => ?_
        constructor
        · rintro ⟨hreadable, hlater⟩ -
          by_cases hlast : 0 < n + 1 - runLength (strides event) n index
          · exact hlater hlast
          · have hfinal := hreadable (event.nptes.toNat - 1) (hall _ (by omega) (by omega))
            omega
        · intro hpresent
          refine ⟨fun k hk => (hbound k hk).trans_le (hpresent (by omega)), fun _ => ?_⟩
          exact hpresent (by omega)
      · rename_i hfailed
        refine ⟨?_, fun hdone => absurd hdone hfailed⟩
        exact hone.append_failed (Bool.eq_false_iff.mpr hfailed) _

def ArrayPresent (event : PageTableUpdateEvent) : Prop :=
  event.isSingle = false → event.nptes.toNat ≤ event.dst.present.length

theorem processEvent_spec (hsuccess : e.success = true) (event : Option PageTableUpdateEvent) :
    EmitsTokens env (event.elim [] callsOf) e (e.processEvent env event) ∧
      ((e.processEvent env event).success = true →
        (InBounds (e.processEvent env event) ↔
          InBounds e ∧ ∀ event' ∈ event, ArrayPresent event')) := by
  cases event with
  | none =>
    refine ⟨.done rfl hsuccess, fun _ => ?_⟩
    simp [processEvent]
  | some event =>
    have hall : (∀ event' ∈ some event, ArrayPresent event') ↔ ArrayPresent event := by simp
    rw [hall, processEvent, if_pos hsuccess, Option.elim_some, callsOf]
    by_cases hsingle : event.isSingle = true
    · rw [if_pos hsingle, if_pos hsingle]
      refine ⟨emitsTokens_emit hsuccess _, fun _ => ?_⟩
      have hpresent : ArrayPresent event := fun hmapping =>
        absurd (hmapping.symm.trans hsingle) (by decide)
      rw [InBounds, reads_emit]
      exact (and_iff_left hpresent).symm
    · rw [if_neg hsingle, if_neg hsingle]
      obtain ⟨hemits, hinside⟩ := emitRuns_spec event event.nptes.toNat event.nptes.toNat 0 e
        hsuccess (Nat.le_refl _) (Nat.zero_add _)
      refine ⟨hemits, fun hdone => (hinside hdone).trans (and_congr_right fun _ => ?_)⟩
      rw [ArrayPresent]
      constructor
      · intro hpresent _
        by_cases hpages : 0 < event.nptes.toNat
        · exact hpresent hpages
        · omega
      · intro hpresent _
        exact hpresent (Bool.eq_false_iff.mpr hsingle)

def dueCalls (events : List (Option PageTableUpdateEvent)) : List UpdateArgs :=
  events.flatMap fun event => event.elim [] callsOf

theorem processEvents_failed (hsuccess : e.success = false)
    (events : List (Option PageTableUpdateEvent)) :
    events.foldl (processEvent env) e = e := by
  induction events with
  | nil => rfl
  | cons event events ih =>
    have hsame : e.processEvent env event = e := by
      cases event with
      | none => rfl
      | some event =>
        rw [processEvent, if_neg (by rw [hsuccess]; decide)]
    rw [List.foldl_cons, hsame]
    exact ih

theorem processEvents_spec (events : List (Option PageTableUpdateEvent)) :
    ∀ e : Emission, e.success = true →
      EmitsTokens env (dueCalls events) e (events.foldl (processEvent env) e) ∧
        ((events.foldl (processEvent env) e).success = true →
          (InBounds (events.foldl (processEvent env) e) ↔
            InBounds e ∧ ∀ event, some event ∈ events → ArrayPresent event)) := by
  induction events with
  | nil =>
    intro e hsuccess
    exact ⟨.done rfl hsuccess, fun _ => by simp⟩
  | cons event events ih =>
    intro e hsuccess
    have hevent := @processEvent_spec env e hsuccess event
    obtain ⟨hone, hinside⟩ := hevent
    rw [List.foldl_cons, dueCalls, List.flatMap_cons]
    by_cases hgoes : (e.processEvent env event).success = true
    · obtain ⟨hrest, hlater⟩ := ih _ hgoes
      refine ⟨hone.append hgoes hrest, fun hdone => ?_⟩
      rw [hlater hdone, hinside hgoes, and_assoc]
      refine and_congr_right fun _ => ?_
      constructor
      · rintro ⟨hfirst, hothers⟩ event' hmem
        rcases List.mem_cons.mp hmem with rfl | hmem
        · exact hfirst event' rfl
        · exact hothers event' hmem
      · intro hall
        refine ⟨fun event' hmem => hall event' ?_, fun event' hmem =>
          hall event' (List.mem_cons_of_mem _ hmem)⟩
        rw [Option.mem_def.mp hmem]
        exact List.mem_cons_self
    · have hfailed : (e.processEvent env event).success = false := Bool.eq_false_iff.mpr hgoes
      rw [processEvents_failed hfailed]
      exact ⟨hone.append_failed hfailed _, fun hdone => absurd hdone hgoes⟩

end Emission

/-! ## What the kernel has updated -/

section Kernel

variable {k : KernelUpdate}

theorem isSingle_iff : k.toEvent.isSingle = true ↔ ¬ IsMapping k := by
  change ((decide (k.flags &&& 0x2 = 0x2) || decide (k.flags &&& 0x1 = 0)) = true) ↔ _
  rw [IsMapping, Bool.or_eq_true, decide_eq_true_iff, decide_eq_true_iff]
  tauto

theorem pageSize_told (h : some k.incr.toNat ∈
      [4 * 1024, 64 * 1024, 256 * 1024, 1024 * 1024, 2 * 1024 * 1024].map some) :
    k.toEvent.incr = k.incr ∧
      pageSizeOfCode (getRmtPageSize k.toEvent.incr).ctorIdx = some k.incr.toNat ∧
      0 < k.incr.toNat ∧ k.incr.toNat ≤ 2 ^ 21 := by
  have hincr : ∀ n : ℕ, n < 2 ^ 64 → k.incr.toNat = n → k.incr = BitVec.ofNat 64 n := by
    intro n hn hsame
    apply BitVec.eq_of_toNat_eq
    rw [hsame, BitVec.toNat_ofNat, Nat.mod_eq_of_lt hn]
  change (k.incr.setWidth 32).setWidth 64 = k.incr ∧
    pageSizeOfCode (getRmtPageSize ((k.incr.setWidth 32).setWidth 64)).ctorIdx = _ ∧ _
  simp only [List.map_cons, List.map_nil, List.mem_cons, Option.some.injEq, List.not_mem_nil,
    or_false] at h
  rcases h with h | h | h | h | h
  all_goals
    rw [hincr _ (by decide) h]
    decide

theorem read_lt {n : ℕ} (hincr : k.incr.toNat ≤ 2 ^ 21)
    (hfits : ∀ run ∈ pageRuns k, (k.dst.read run.1).toNat < 2 ^ 48 ∧ run.2 < 2 ^ 20)
    (hn : n < k.nptes.toNat) : (k.dst.read n).toNat < 2 ^ 49 := by
  have hruns : MaximalRuns (advances k) k.nptes.toNat 0 (pageRuns k) :=
    maximalRuns_runsFrom (Nat.zero_add _)
  obtain ⟨run, hmem, hlow, hhigh, hinside⟩ := hruns.exists_run (Nat.zero_le n) hn
  obtain ⟨haddress, hcount⟩ := hfits run hmem
  have hstep : ∀ j, run.1 + j < run.1 + run.2 →
      (k.dst.read (run.1 + j)).toNat = (k.dst.read run.1).toNat + j * k.incr.toNat := by
    intro j
    induction j with
    | zero => simp
    | succ j ih =>
      intro hj
      have hadvance : (k.dst.read (run.1 + j + 1)).toNat =
          (k.dst.read (run.1 + j)).toNat + k.incr.toNat :=
        of_decide_eq_true (hinside (run.1 + j) (by omega) (by omega))
      rw [← Nat.add_assoc, hadvance, ih (by omega), Nat.succ_mul]
      omega
  obtain ⟨j, rfl⟩ := Nat.exists_eq_add_of_le hlow
  rw [hstep j hhigh]
  have hprod : j * k.incr.toNat ≤ 2 ^ 20 * 2 ^ 21 := Nat.mul_le_mul (by omega) hincr
  omega

theorem runs_eq (hincr : k.toEvent.incr = k.incr) (hsmall : k.incr.toNat ≤ 2 ^ 21)
    (hfits : ∀ run ∈ pageRuns k, (k.dst.read run.1).toNat < 2 ^ 48 ∧ run.2 < 2 ^ 20) :
    runsFrom (strides k.toEvent) k.nptes.toNat 0 = pageRuns k := by
  apply runsFrom_congr
  intro i _ hi
  have hbound := read_lt hsmall hfits (n := i) (by omega)
  change decide (k.dst.read (i + 1) - k.dst.read i = k.toEvent.incr) =
    decide ((k.dst.read (i + 1)).toNat = (k.dst.read i).toNat + k.incr.toNat)
  rw [hincr, decide_eq_decide]
  constructor
  · intro hstride
    have hnext : k.dst.read (i + 1) = k.incr + k.dst.read i := by
      rw [← hstride, BitVec.sub_add_cancel]
    rw [hnext, BitVec.toNat_add_of_lt (by omega), Nat.add_comm]
  · intro hnext
    apply BitVec.eq_of_toNat_eq
    rw [BitVec.toNat_sub_of_le (by rw [BitVec.le_def]; omega), hnext, Nat.add_sub_cancel_left]

theorem describe_callsOf (h : ∀ u ∈ updatesOf k, FitsToken u) :
    (callsOf k.toEvent).map describeArgs = updatesOf k := by
  have hstart : k.start.toNat * 4096 < 2 ^ 48 →
      k.toEvent.start.toNat = k.start.toNat * 4096 := by
    intro hlt
    have hevent : k.toEvent.start = k.start * BitVec.ofNat 64 RMT_4KB := rfl
    rw [hevent, BitVec.toNat_mul, BitVec.toNat_ofNat]
    have hpage : RMT_4KB % 2 ^ 64 = 4096 := rfl
    rw [hpage]
    exact Nat.mod_eq_of_lt (by omega)
  rw [callsOf]
  by_cases hmapping : IsMapping k
  · rw [updatesOf, if_pos hmapping] at h ⊢
    rw [if_neg fun hsingle => isSingle_iff.mp hsingle hmapping]
    by_cases hpages : k.nptes.toNat = 0
    · have hnone : k.toEvent.nptes.toNat = 0 := hpages
      rw [hnone, pageRuns, hpages]
      rfl
    have hfits : ∀ run ∈ pageRuns k, FitsToken
        { virtualAddress := k.start.toNat * 4096 + run.1 * k.incr.toNat
          physicalAddress := (k.dst.read run.1).toNat
          numPages := run.2
          pageSize := some k.incr.toNat
          isUnmap := false } := fun run hrun => h _ (List.mem_map_of_mem hrun)
    obtain ⟨run₀, hrun₀⟩ : ∃ run, run ∈ pageRuns k := by
      have hruns : MaximalRuns (advances k) k.nptes.toNat 0 (pageRuns k) :=
        maximalRuns_runsFrom (Nat.zero_add _)
      obtain ⟨run, hrun, -⟩ := hruns.exists_run (Nat.zero_le 0) (by omega)
      exact ⟨run, hrun⟩
    obtain ⟨hincr, htold, hpos, hsmall⟩ := pageSize_told (hfits run₀ hrun₀).pageSize
    have hruns := runs_eq hincr hsmall fun run hrun =>
      ⟨(hfits run hrun).physicalAddress.1, (hfits run hrun).numPages⟩
    change List.map describeArgs (List.map (runArgs k.toEvent)
      (runsFrom (strides k.toEvent) k.nptes.toNat 0)) = _
    rw [hruns, List.map_map]
    apply List.map_congr_left
    intro run hrun
    obtain ⟨⟨hva, -⟩, -, hcount, -⟩ := hfits run hrun
    dsimp only at hva hcount
    have hbegin := hstart ((Nat.le_add_right _ _).trans_lt hva)
    have hfirst : run.1 ≤ run.1 * k.incr.toNat := Nat.le_mul_of_pos_right _ hpos
    have hmul : (BitVec.ofNat 64 run.1 * k.incr).toNat = run.1 * k.incr.toNat := by
      rw [BitVec.toNat_mul, BitVec.toNat_ofNat, Nat.mod_eq_of_lt (by omega : run.1 < 2 ^ 64)]
      exact Nat.mod_eq_of_lt (by omega)
    rw [Function.comp_apply, describeArgs, runArgs, PageUpdate.mk.injEq]
    refine ⟨?_, rfl, ?_, htold, decide_eq_false hmapping.2⟩
    · have hbelow : k.toEvent.start.toNat + (BitVec.ofNat 64 run.1 * k.incr).toNat < 2 ^ 64 := by
        rw [hmul, hbegin]
        omega
      rw [hincr, BitVec.toNat_add_of_lt hbelow, hmul, hbegin]
    · rw [BitVec.toNat_ofNat, Nat.mod_eq_of_lt (by omega)]
  · rw [updatesOf, if_neg hmapping] at h ⊢
    rw [if_pos (isSingle_iff.mpr hmapping)]
    obtain ⟨⟨hva, -⟩, -, -, hsize⟩ := h _ (List.mem_singleton_self _)
    obtain ⟨-, htold, -⟩ := pageSize_told hsize
    rw [List.map_singleton, describeArgs]
    rw [htold]
    congr 2
    exact hstart hva

end Kernel

/-! ## Traces -/

section Trace

abbrev TraceRecords := List (TepRecord × Option (ℕ → BitVec 64))

variable (env : EmitterEnv) (records : TraceRecords)

/-- The page updates that the records stand for. -/
def dueUpdates (records : TraceRecords) : List PageUpdate :=
  records.flatMap fun record => (readRecord record.1 record.2).elim [] updatesOf

def emissionOf : Emission :=
  .processAndEmit env <| records.map fun record =>
    parsePageTableUpdateEventRecord record.1 record.2

/-- The decoded tokens are the updates, and only addresses of their arrays are read. -/
def DescribesUpdates : Prop :=
  (emissionOf env records).tokens.map decodeUpdate = dueUpdates records ∧
    InBounds (emissionOf env records)

/-- Each mapping has its page table entries in the record. -/
def ArraysPresent (records : TraceRecords) : Prop :=
  ∀ record ∈ records, ∀ k ∈ readRecord record.1 record.2, IsMapping k →
    k.nptes.toNat ≤ k.dst.present.length

variable {env records}

theorem DescribesUpdates.fitsToken (h : DescribesUpdates env records) :
    ∀ u ∈ dueUpdates records, FitsToken u := by
  intro u hu
  have hsize : u.pageSize.isSome := by
    obtain ⟨record, -, hmem⟩ := List.mem_flatMap.mp hu
    cases hread : readRecord record.1 record.2 with
    | none =>
      rw [hread] at hmem
      simp at hmem
    | some k =>
      rw [hread, Option.elim_some, updatesOf] at hmem
      split at hmem
      · obtain ⟨run, -, rfl⟩ := List.mem_map.mp hmem
        rfl
      · rw [List.mem_singleton.mp hmem]
        rfl
  rw [← h.1] at hu
  obtain ⟨d, -, rfl⟩ := List.mem_map.mp hu
  exact fitsToken_decodeUpdate hsize

theorem describe_dueCalls (h : ∀ u ∈ dueUpdates records, FitsToken u) :
    (dueCalls (records.map fun record =>
      parsePageTableUpdateEventRecord record.1 record.2)).map describeArgs =
        dueUpdates records := by
  induction records with
  | nil => rfl
  | cons record records ih =>
    rw [dueUpdates, List.flatMap_cons] at h ⊢
    rw [List.map_cons, dueCalls, List.flatMap_cons, List.map_append]
    refine congrArg₂ (· ++ ·) ?_ (ih fun u hu => h u (List.mem_append_right _ hu))
    have hfirst : ∀ u ∈ (readRecord record.1 record.2).elim [] updatesOf, FitsToken u :=
      fun u hu => h u (List.mem_append_left _ hu)
    rw [parsePageTableUpdateEventRecord]
    cases hread : readRecord record.1 record.2 with
    | none => rfl
    | some k =>
      rw [hread] at hfirst
      exact describe_callsOf hfirst

theorem nptes_of_updatesOf_nil {k : KernelUpdate} (hmapping : IsMapping k)
    (h : updatesOf k = []) : k.nptes.toNat = 0 := by
  rw [updatesOf, if_pos hmapping, List.map_eq_nil_iff, pageRuns] at h
  cases hpages : k.nptes.toNat with
  | zero => rfl
  | succ n =>
    rw [hpages, runsFrom_succ] at h
    exact absurd h (List.cons_ne_nil _ _)

theorem arraysPresent_iff :
    (∀ event, some event ∈ records.map (fun record =>
      parsePageTableUpdateEventRecord record.1 record.2) → ArrayPresent event) ↔
        ArraysPresent records := by
  constructor
  · intro h record hmem k hk hmapping
    refine h k.toEvent (List.mem_map.mpr ⟨record, hmem, ?_⟩) ?_
    · rw [parsePageTableUpdateEventRecord, Option.mem_def.mp hk]
      rfl
    · exact Bool.eq_false_iff.mpr fun hsingle => isSingle_iff.mp hsingle hmapping
  · intro h event hmem hmapping
    obtain ⟨record, hrecord, hevent⟩ := List.mem_map.mp hmem
    obtain ⟨k, hk, rfl⟩ := Option.map_eq_some_iff.mp hevent
    apply h record hrecord k hk
    by_contra hsingle
    exact absurd (hmapping.symm.trans (isSingle_iff.mpr hsingle)) (by decide)

theorem emissionOf_spec (hdelta : env.timeDelta.isSome = true) :
    EmitsTokens env (dueCalls (records.map fun record =>
        parsePageTableUpdateEventRecord record.1 record.2)) ⟨[], [], true⟩
          (emissionOf env records) ∧
      ((emissionOf env records).success = true →
        (InBounds (emissionOf env records) ↔ ArraysPresent records)) := by
  rw [emissionOf, processAndEmit, hdelta, ← arraysPresent_iff]
  obtain ⟨hemits, hinside⟩ := @processEvents_spec env
    (records.map fun record => parsePageTableUpdateEventRecord record.1 record.2)
    ⟨[], [], true⟩ rfl
  refine ⟨hemits, fun hdone => (hinside hdone).trans (and_iff_right ?_)⟩
  exact nofun

theorem emissionOf_of_none (hdelta : env.timeDelta.isSome = false) :
    emissionOf env records = ⟨[], [], false⟩ := by
  rw [emissionOf, processAndEmit, hdelta]
  exact processEvents_failed rfl _

theorem DescribesUpdates.taken (h : DescribesUpdates env records) :
    (∀ k < (dueUpdates records).length, env.accepts k = true) ∧
      (dueUpdates records ≠ [] → env.timeDelta.isSome = true) ∧ ArraysPresent records := by
  have htold := describe_dueCalls h.fitsToken
  have hlength := congrArg List.length htold
  rw [List.length_map] at hlength
  obtain ⟨htokens, hinside⟩ := h
  by_cases hdelta : env.timeDelta.isSome = true
  · obtain ⟨hemits, hpresent⟩ := @emissionOf_spec env records hdelta
    have hsame := congrArg List.length htokens
    rw [List.length_map] at hsame
    by_cases hsuccess : (emissionOf env records).success = true
    · obtain ⟨-, htaken, -⟩ := hemits.success hsuccess
      refine ⟨?_, fun _ => hdelta, (hpresent hsuccess).mp hinside⟩
      intro k hk
      have hone := htaken k (by omega)
      rwa [List.length_nil, Nat.zero_add] at hone
    · obtain ⟨hshort, -⟩ := hemits.failure (Bool.eq_false_iff.mpr hsuccess)
      rw [List.length_nil] at hshort
      omega
  · rw [emissionOf_of_none (Bool.eq_false_iff.mpr hdelta)] at htokens
    rw [← htokens]
    refine ⟨nofun, fun hsome => absurd rfl hsome, ?_⟩
    intro record hmem k hk hmapping
    have hnone : (readRecord record.1 record.2).elim [] updatesOf = [] :=
      List.flatMap_eq_nil_iff.mp htokens.symm record hmem
    rw [Option.mem_def.mp hk] at hnone
    rw [nptes_of_updatesOf_nil hmapping hnone]
    exact Nat.zero_le _

/-- The pages of an array fall into maximal runs; the tokens tell just the updates if and only if
each update, with one for each run, fits a token, the arrays have all addresses, and the event
server takes all tokens. -/
theorem describesUpdates_iff (env : EmitterEnv) (records : TraceRecords) :
    (∀ k : KernelUpdate, MaximalRuns (advances k) k.nptes.toNat 0 (pageRuns k)) ∧
      (DescribesUpdates env records ↔
        (∀ u ∈ dueUpdates records, FitsToken u) ∧
          (∀ k < (dueUpdates records).length, env.accepts k = true) ∧
          (dueUpdates records ≠ [] → env.timeDelta.isSome = true) ∧ ArraysPresent records) := by
  refine ⟨fun k => maximalRuns_runsFrom (Nat.zero_add _), fun h => ⟨h.fitsToken, h.taken⟩, ?_⟩
  rintro ⟨hfits, haccepts, hdelta, hpresent⟩
  have htold := describe_dueCalls hfits
  have hlength := congrArg List.length htold
  rw [List.length_map] at hlength
  by_cases hsome : env.timeDelta.isSome = true
  · obtain ⟨hemits, hinside⟩ := @emissionOf_spec env records hsome
    have hsuccess : (emissionOf env records).success = true := by
      by_contra hfailed
      obtain ⟨-, k, hk, hrejects⟩ := hemits.failure (Bool.eq_false_iff.mpr hfailed)
      rw [List.length_nil, Nat.zero_add, haccepts k (by omega)] at hrejects
      exact absurd hrejects (by decide)
    refine ⟨?_, (hinside hsuccess).mpr hpresent⟩
    obtain ⟨-, -, hdecode⟩ := hemits.success hsuccess
    rw [hdecode, htold, List.map_nil, List.nil_append]
    intro args hargs
    apply hfits
    rw [← htold]
    exact List.mem_map_of_mem hargs
  · have hnone : dueUpdates records = [] := by
      by_contra hdue
      exact hsome (hdelta hdue)
    rw [DescribesUpdates, emissionOf_of_none (Bool.eq_false_iff.mpr hsome), hnone]
    exact ⟨rfl, nofun⟩

/-- An update of 4 GiB of system memory in pages of 4 KiB has one page more than tokens can tell. -/
theorem describesUpdates_not :
    ¬ DescribesUpdates ⟨fun _ _ => 0, fun _ => true, some 0⟩
        [(⟨some 0x100000, some 0x200000, some 0x3, some 0x100000, some 0x1000, some 1, [],
          ⟨0, 0, false⟩⟩, some fun _ => 0)] := by
  intro h
  have hfits := h.fitsToken ⟨0x100000000, 0, 0x100000, some 0x1000, false⟩ (by decide)
  exact absurd hfits.numPages (by decide)

end Trace

end DevDriver.Analysis
