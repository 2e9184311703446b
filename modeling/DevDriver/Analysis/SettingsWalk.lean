import DevDriver.Model.SettingsService

/-!
# Walks over a settings buffer

What a settings iterator makes of the bytes that it is given.  A walk goes from component to
component and, in each, from record to record, and the only sizes that it checks are the starts of
the records.
-/

namespace DevDriver.Analysis

open Library Model SettingsBuffer

namespace SettingsWalk

variable {ρ : Type} {buf : SettingsBuffer}

/-- The header of a component lies in the buffer, the component that it announces too, and no
offset wraps. -/
def ComponentIsInside (buf : SettingsBuffer) (offset : ℕ) : Prop :=
  offset + kComponentHeaderSize ≤ buf.size ∧
    kComponentHeaderSize ≤ buf.componentSize offset ∧
    offset + buf.componentSize offset ≤ buf.size ∧ offset + buf.componentSize offset < 2 ^ 64

/-- A record of a component lies in the buffer and in its component, and no offset wraps. -/
def RecordIsInside (buf : SettingsBuffer) (offset recordOffset length : ℕ) : Prop :=
  offset + recordOffset + length ≤ buf.size ∧
    recordOffset + length ≤ buf.componentSize offset ∧ offset + recordOffset + length < 2 ^ 64

/-- A walk over the components and over the records of each of them ends and hands out only what
lies inside. -/
def WalkIsHarmless (buf : SettingsBuffer) (next : SettingsComponent → ρ → Option ρ) (zero : ρ)
    (offset length : ρ → ℕ) : Prop :=
  ∃ components, Yields buf.nextComponent .zero components ∧ ∀ component ∈ components,
    ComponentIsInside buf component.offset ∧
    ∃ records, Yields (next component) zero records ∧ ∀ record ∈ records,
      RecordIsInside buf component.offset (offset record) (length record)

/-- The walk over the values ends and reads nothing outside the buffer. -/
def ValueWalkIsHarmless (buf : SettingsBuffer) : Prop :=
  WalkIsHarmless buf buf.nextValue .zero (·.offset)
    fun value => kValueHeaderSize + value.valueRef.value.length

/-- The walk over the experiments does so too. -/
def ExperimentWalkIsHarmless (buf : SettingsBuffer) : Prop :=
  WalkIsHarmless buf buf.nextUnsupportedExperiment .zero (·.offset) fun _ => kNameHashSize

/-- The records of a component follow each other and end in the component. -/
def RecordsAgree (buf : SettingsBuffer) (recordSize : ℕ → ℕ → ℕ) (offset : ℕ) : Prop :=
  RecordsFit (recordSize offset) (buf.componentSize offset)
    (fun recordOffset => recordOffset + recordSize offset recordOffset ≤ buf.componentSize offset)
    kComponentHeaderSize

/-- The components of a buffer follow each other and end in the buffer, each with room for its
header and for the records that start in it. -/
def SizesAgree (buf : SettingsBuffer) (recordSize : ℕ → ℕ → ℕ) : Prop :=
  RecordsFit buf.componentSize buf.size
    (fun offset => kComponentHeaderSize ≤ buf.componentSize offset ∧
      offset + buf.componentSize offset ≤ buf.size ∧ RecordsAgree buf recordSize offset)
    kAllComponentsHeaderSize

def valueRecordSize (buf : SettingsBuffer) (offset recordOffset : ℕ) : ℕ :=
  kValueHeaderSize + buf.valueSize (offset + recordOffset)

def experimentRecordSize (_offset _recordOffset : ℕ) : ℕ := kNameHashSize

def componentAt (buf : SettingsBuffer) (offset : ℕ) : SettingsComponent :=
  if offset = 0 then .zero else buf.component offset

@[simp] theorem componentAt_offset (offset : ℕ) : (componentAt buf offset).offset = offset := by
  rw [componentAt]
  split
  · rename_i h
    exact h.symm
  · rfl

theorem nextComponent_componentAt (herror : buf.error = .success) (offset : ℕ) :
    buf.nextComponent (componentAt buf offset) =
      (nextPosition kAllComponentsHeaderSize buf.componentSize buf.size offset).map
        (componentAt buf) := by
  rw [nextComponent, if_pos herror, componentAt_offset]
  exact (map_nextPosition (f := componentAt buf) (g := buf.component) (by decide)
    buf.componentSize buf.size offset fun p hp => if_neg (Nat.ne_of_gt hp)).symm

structure FollowsRecords (buf : SettingsBuffer) (next : SettingsComponent → ρ → Option ρ)
    (zero : ρ) (offset length : ρ → ℕ) (recordSize : ℕ → ℕ → ℕ)
    (recordAt : SettingsComponent → ℕ → ρ) : Prop where
  recordAt_zero : ∀ component, recordAt component 0 = zero
  next_recordAt : ∀ component recordOffset, next component (recordAt component recordOffset) =
    (nextPosition kComponentHeaderSize (recordSize component.offset)
      (buf.componentSize component.offset) recordOffset).map (recordAt component)
  offset_recordAt : ∀ component recordOffset, offset (recordAt component recordOffset) =
    recordOffset
  length_recordAt : ∀ component recordOffset, 0 < recordOffset →
    length (recordAt component recordOffset) = recordSize component.offset recordOffset

theorem lt_of_le_size {offset : ℕ} (h : offset ≤ buf.size) : offset < 2 ^ 64 := by
  have := buf.length_le
  rw [SettingsBuffer.size] at h
  omega

variable {next : SettingsComponent → ρ → Option ρ} {recordSize : ℕ → ℕ → ℕ}

variable {zero : ρ} {offset length : ρ → ℕ}

theorem recordsInside_iff {recordAt : SettingsComponent → ℕ → ρ}
    (h : FollowsRecords buf next zero offset length recordSize recordAt)
    (component : SettingsComponent)
    (hinside : component.offset + buf.componentSize component.offset ≤ buf.size) :
    (∃ records, Yields (next component) zero records ∧ ∀ record ∈ records,
      RecordIsInside buf component.offset (offset record) (length record)) ↔
      RecordsAgree buf recordSize component.offset := by
  rw [← h.recordAt_zero component,
    yields_map_iff_recordsFit (by decide) (h.next_recordAt component)]
  constructor
  · intro hfit
    refine (hfit.of_pos (by decide)).mono ?_
    rintro q - ⟨hq, -, hcomponent, -⟩
    rwa [h.offset_recordAt, h.length_recordAt _ _ hq] at hcomponent
  · intro hfit
    refine (hfit.of_pos (by decide)).mono ?_
    rintro q - ⟨hq, hcomponent⟩
    rw [h.offset_recordAt, h.length_recordAt _ _ hq]
    have hbuffer : component.offset + q + recordSize component.offset q ≤ buf.size := by omega
    exact ⟨hbuffer, hcomponent, lt_of_le_size hbuffer⟩

theorem walkIsHarmless_iff {recordAt : SettingsComponent → ℕ → ρ}
    (h : FollowsRecords buf next zero offset length recordSize recordAt)
    (herror : buf.error = .success) :
    WalkIsHarmless buf next zero offset length ↔ SizesAgree buf recordSize := by
  have hwalk := yields_map_iff_recordsFit (f := componentAt buf)
    (P := fun component => ComponentIsInside buf component.offset ∧
      ∃ records, Yields (next component) zero records ∧ ∀ record ∈ records,
        RecordIsInside buf component.offset (offset record) (length record))
    (by decide) (nextComponent_componentAt herror)
  refine Iff.trans hwalk ?_
  constructor
  · intro hfit
    refine hfit.mono ?_
    rintro o - ⟨⟨-, hheader, hcomponent, -⟩, hrecords⟩
    rw [componentAt_offset] at hheader hcomponent
    rw [recordsInside_iff h _ (by rwa [componentAt_offset]), componentAt_offset] at hrecords
    exact ⟨hheader, hcomponent, hrecords⟩
  · intro hfit
    refine hfit.mono ?_
    rintro o - ⟨hheader, hcomponent, hrecords⟩
    rw [recordsInside_iff h _ (by rwa [componentAt_offset]), componentAt_offset]
    refine ⟨⟨by omega, hheader, hcomponent, lt_of_le_size hcomponent⟩, hrecords⟩

theorem walkIsHarmless_of_error (herror : buf.error ≠ .success) :
    WalkIsHarmless buf next zero offset length :=
  ⟨[], .nil (if_neg herror), fun _ h => absurd h List.not_mem_nil⟩

def valueAt (buf : SettingsBuffer) (component : SettingsComponent) (recordOffset : ℕ) :
    SettingsValue :=
  if recordOffset = 0 then .zero
  else ⟨buf.valueRef (component.offset + recordOffset), recordOffset⟩

def experimentAt (buf : SettingsBuffer) (component : SettingsComponent) (recordOffset : ℕ) :
    UnsupportedExperiment :=
  if recordOffset = 0 then .zero
  else ⟨UInt32.ofNat (buf.field (component.offset + recordOffset) kNameHashSize), recordOffset⟩

@[simp] theorem valueAt_offset (component : SettingsComponent) (recordOffset : ℕ) :
    (valueAt buf component recordOffset).offset = recordOffset := by
  rw [valueAt]
  split
  · rename_i h
    exact h.symm
  · rfl

@[simp] theorem experimentAt_offset (component : SettingsComponent) (recordOffset : ℕ) :
    (experimentAt buf component recordOffset).offset = recordOffset := by
  rw [experimentAt]
  split
  · rename_i h
    exact h.symm
  · rfl

@[simp] theorem length_valueRef (offset : ℕ) :
    (buf.valueRef offset).value.length = buf.valueSize offset := by
  simp [SettingsBuffer.valueRef, SettingsBuffer.read]

theorem followsRecords_values (herror : buf.error = .success) :
    FollowsRecords buf buf.nextValue .zero (·.offset)
      (fun value => kValueHeaderSize + value.valueRef.value.length) (valueRecordSize buf)
      (valueAt buf) where
  recordAt_zero := fun _ => rfl
  next_recordAt := by
    intro component recordOffset
    have hfirst : 0 < kComponentHeaderSize := by decide
    rw [nextValue, if_pos herror, valueAt_offset]
    exact (map_nextPosition (f := valueAt buf component)
      (g := fun p => ⟨buf.valueRef (component.offset + p), p⟩) hfirst
      (valueRecordSize buf component.offset) _ recordOffset
      fun p hp => if_neg (Nat.ne_of_gt hp)).symm
  offset_recordAt := valueAt_offset
  length_recordAt := by
    intro component recordOffset hpos
    rw [valueAt, if_neg (Nat.ne_of_gt hpos), length_valueRef]
    rfl

theorem followsRecords_experiments (herror : buf.error = .success) :
    FollowsRecords buf buf.nextUnsupportedExperiment .zero (·.offset) (fun _ => kNameHashSize)
      experimentRecordSize (experimentAt buf) where
  recordAt_zero := fun _ => rfl
  next_recordAt := by
    intro component recordOffset
    have hfirst : 0 < kComponentHeaderSize := by decide
    rw [nextUnsupportedExperiment, if_pos herror, experimentAt_offset]
    exact (map_nextPosition (f := experimentAt buf component)
      (g := fun p =>
        ⟨UInt32.ofNat (buf.field (component.offset + p) kNameHashSize), p⟩) hfirst
      (experimentRecordSize component.offset) _ recordOffset
      fun p hp => if_neg (Nat.ne_of_gt hp)).symm
  offset_recordAt := experimentAt_offset
  length_recordAt := fun _ _ _ => rfl

/-! ## The overrides that are taken out of a walk -/

variable {component : SettingsComponent}

theorem nextComponent_eq_some {next : SettingsComponent}
    (h : buf.nextComponent component = some next) :
    next = buf.component next.offset ∧ component.offset ≤ next.offset ∧ 0 < next.offset ∧
      next.offset < buf.size := by
  rw [nextComponent] at h
  by_cases herror : buf.error = .success
  · have hheader : kAllComponentsHeaderSize = 4 := rfl
    have hle : component.offset ≤ if component.offset = 0 then kAllComponentsHeaderSize
        else component.offset + buf.componentSize component.offset := by split <;> omega
    have hpos : 0 < if component.offset = 0 then kAllComponentsHeaderSize
        else component.offset + buf.componentSize component.offset := by split <;> omega
    rw [if_pos herror] at h
    simp only at h
    generalize (if component.offset = 0 then kAllComponentsHeaderSize
      else component.offset + buf.componentSize component.offset) = offset at h hle hpos
    split at h
    · rename_i hlt
      cases h
      exact ⟨rfl, hle, hpos, hlt⟩
    · cases h
  · rw [if_neg herror] at h
    cases h

theorem nextValue_eq_some {value next : SettingsValue}
    (h : buf.nextValue component value = some next) :
    next.valueRef = buf.valueRef (component.offset + next.offset) ∧
      value.offset < next.offset ∧ next.offset < buf.componentSize component.offset := by
  rw [nextValue] at h
  by_cases herror : buf.error = .success
  · have hheader : kComponentHeaderSize = 55 := rfl
    have hvalue : kValueHeaderSize = 7 := rfl
    have hadvances : value.offset < if value.offset = 0 then kComponentHeaderSize
        else value.offset + (kValueHeaderSize +
          buf.valueSize (component.offset + value.offset)) := by split <;> omega
    rw [if_pos herror] at h
    simp only at h
    generalize (if value.offset = 0 then kComponentHeaderSize
      else value.offset + (kValueHeaderSize +
        buf.valueSize (component.offset + value.offset))) = offset at h hadvances
    split at h
    · rename_i hlt
      cases h
      exact ⟨rfl, hadvances, hlt⟩
    · cases h
  · rw [if_neg herror] at h
    cases h

theorem exists_yields_nextValue (buf : SettingsBuffer) (component : SettingsComponent) :
    ∃ values, Yields (buf.nextValue component) .zero values := by
  refine Yields.exists_of_bound (P := fun _ => True) (·.offset)
    (buf.componentSize component.offset) trivial ?_
  intro value next _ h
  exact ⟨trivial, (nextValue_eq_some h).2⟩

theorem createOverrides_mono {rounds rounds' : ℕ}
    {overrides : Table CString (List SettingsValueRef)} {r}
    (h : createOverrides buf rounds component overrides = some r) (hle : rounds ≤ rounds') :
    createOverrides buf rounds' component overrides = some r := by
  induction rounds generalizing rounds' component overrides with
  | zero => cases h
  | succ rounds ih =>
    obtain ⟨rounds', rfl⟩ := Nat.exists_eq_succ_of_ne_zero (n := rounds') (by omega)
    rw [createOverrides] at h ⊢
    cases hnext : buf.nextComponent component with
    | none => rwa [hnext] at h
    | some next =>
      simp only [hnext] at h ⊢
      cases hvalues : collect (buf.nextValue next) rounds .zero with
      | none =>
        rw [hvalues] at h
        cases h
      | some values =>
        obtain ⟨hyields, hlength⟩ := collect_eq_some_iff.mp hvalues
        rw [collect_eq_some_iff.mpr ⟨hyields, show values.length < rounds' by omega⟩]
        simp only [hvalues] at h ⊢
        split at h
        · rename_i hmem
          rwa [if_pos hmem]
        · rename_i hmem
          rw [if_neg hmem]
          exact ih h (by omega)

theorem createOverrides_ends (buf : SettingsBuffer) (component : SettingsComponent)
    (overrides : Table CString (List SettingsValueRef))
    (h : component.offset = 0 ∨ buf.pName component ∈ overrides) :
    ∃ rounds r, createOverrides buf rounds component overrides = some r := by
  induction hmeasure : buf.size - component.offset using Nat.strongRecOn
    generalizing component overrides with
  | ind n ih =>
    cases hnext : buf.nextComponent component with
    | none => exact ⟨1, _, by rw [createOverrides, hnext]⟩
    | some next =>
      obtain ⟨-, hle, hpos, hlt⟩ := nextComponent_eq_some hnext
      obtain ⟨values, hvalues⟩ := exists_yields_nextValue buf next
      by_cases hmem : buf.pName next ∈ overrides
      · refine ⟨values.length + 2, (.genericEntryExists, overrides), ?_⟩
        rw [createOverrides, hnext]
        simp only
        rw [collect_eq_some_iff.mpr ⟨hvalues, Nat.lt_succ_self _⟩]
        exact if_pos hmem
      · -- the same component again would have its name there
        have hne : component.offset ≠ next.offset := by
          intro heq
          rcases h with hzero | hname
          · omega
          · rw [pName, heq] at hname
            exact hmem hname
        obtain ⟨rounds, r, hr⟩ := ih (buf.size - next.offset) (by omega) next
          (overrides.insert (buf.pName next) (values.map (·.valueRef)))
          (Or.inr ((AList.mem_insert _).mpr (Or.inl rfl))) rfl
        refine ⟨max rounds (values.length + 1) + 1, r, ?_⟩
        rw [createOverrides, hnext]
        simp only
        rw [collect_eq_some_iff.mpr ⟨hvalues, by omega⟩]
        show (if _ then _ else _) = _
        rw [if_neg hmem]
        exact createOverrides_mono hr (by omega)

theorem createOverrides_lookup {rounds : ℕ}
    {overrides overrides' : Table CString (List SettingsValueRef)} {result : DDResult}
    (h : createOverrides buf rounds component overrides = some (result, overrides'))
    {components : List SettingsComponent} (hwalk : Yields buf.nextComponent component components)
    {name : CString} {refs : List SettingsValueRef} (hrefs : overrides'.lookup name = some refs) :
    overrides.lookup name = some refs ∨
      ∃ component ∈ components, ∃ values, Yields (buf.nextValue component) .zero values ∧
        refs = values.map (·.valueRef) := by
  induction rounds generalizing component overrides components with
  | zero => cases h
  | succ rounds ih =>
    rw [createOverrides] at h
    cases hwalk with
    | nil hnone =>
      rw [hnone] at h
      obtain ⟨-, rfl⟩ := Prod.mk.inj (Option.some.inj h)
      exact .inl hrefs
    | @cons _ next components hsome hrest =>
      simp only [hsome] at h
      cases hvalues : collect (buf.nextValue next) rounds .zero with
      | none =>
        rw [hvalues] at h
        cases h
      | some values =>
        simp only [hvalues] at h
        split at h
        · obtain ⟨-, rfl⟩ := Prod.mk.inj (Option.some.inj h)
          exact .inl hrefs
        · rcases ih h hrest with hthere | ⟨c, hc, hvs⟩
          · by_cases hname : name = buf.pName next
            · subst hname
              rw [AList.lookup_insert] at hthere
              exact .inr ⟨next, List.mem_cons_self, values, (collect_eq_some_iff.mp hvalues).1,
                (Option.some.inj hthere).symm⟩
            · rw [AList.lookup_insert_ne hname] at hthere
              exact .inl hthere
          · exact .inr ⟨c, List.mem_cons_of_mem _ hc, hvs⟩

/-! ## Malformed buffers -/

/-- `SendAllUserOverrides` ends on a buffer, and the overrides that it keeps lie in it. -/
def SendIsHarmless (buf : SettingsBuffer) : Prop :=
  ∀ service : SettingsRpcService, ∃ rounds result service',
    service.sendAllUserOverrides rounds buf = some (result, service') ∧
      ∀ name refs, service'.allUserOverrides.lookup name = some refs →
        service.allUserOverrides.lookup name = some refs ∨
          ∀ ref ∈ refs, ∃ offset, ref = buf.valueRef offset ∧
            offset + kValueHeaderSize + ref.value.length ≤ buf.size

theorem sendIsHarmless_of_walk (hwalk : ValueWalkIsHarmless buf) : SendIsHarmless buf := by
  intro service
  obtain ⟨rounds, ⟨result, overrides⟩, hr⟩ :=
    createOverrides_ends buf .zero service.allUserOverrides (Or.inl rfl)
  refine ⟨rounds, result, { service with allUserOverrides := overrides }, ?_, ?_⟩
  · rw [SettingsRpcService.sendAllUserOverrides, hr]
    rfl
  · intro name refs hrefs
    obtain ⟨components, hcomponents, hinside⟩ := hwalk
    rcases createOverrides_lookup hr hcomponents hrefs with
      hthere | ⟨component, hc, values, hv, hvs⟩
    · exact .inl hthere
    · right
      obtain ⟨-, records, hrecords, hrecordsInside⟩ := hinside component hc
      obtain rfl := hv.unique hrecords
      intro ref href
      rw [hvs] at href
      obtain ⟨value, hvalue, rfl⟩ := List.mem_map.mp href
      obtain ⟨_, hnext⟩ := hv.exists_step hvalue
      have hbuffer : component.offset + value.offset +
          (kValueHeaderSize + value.valueRef.value.length) ≤ buf.size :=
        (hrecordsInside value hvalue).1
      exact ⟨component.offset + value.offset, (nextValue_eq_some hnext).1, by omega⟩

theorem SizesAgree.le_size (h : SizesAgree buf recordSize)
    (hlt : kAllComponentsHeaderSize < buf.size) :
    kAllComponentsHeaderSize + kComponentHeaderSize ≤ buf.size := by
  cases h with
  | done hge => exact absurd hlt (Nat.not_lt.mpr hge)
  | record _ hinside _ =>
    obtain ⟨hheader, hcomponent, -⟩ := hinside
    omega

def zerosBehindHeader (count : ℕ) (h : count < 2 ^ 32) : SettingsBuffer where
  bytes := encodeAllComponentsHeader 1 ++ List.replicate count 0
  beyond := fun _ => 0
  length_le := by
    rw [List.length_append, List.length_replicate]
    show 4 + count ≤ _
    omega

/-- Malformed settings buffers are harmless exactly when the iterator refuses them or their sizes
agree, both as buffers of values and as buffers of experiments. -/
theorem settings_buffer_harmless_iff (buf : SettingsBuffer) :
    ((SendIsHarmless buf ∧ ValueWalkIsHarmless buf) ↔
      buf.error ≠ .success ∨ SizesAgree buf (valueRecordSize buf)) ∧
    (ExperimentWalkIsHarmless buf ↔
      buf.error ≠ .success ∨ SizesAgree buf experimentRecordSize) := by
  by_cases herror : buf.error = .success
  · have hvalues := walkIsHarmless_iff (followsRecords_values herror) herror
    have hexperiments := walkIsHarmless_iff (followsRecords_experiments herror) herror
    constructor
    · constructor
      · rintro ⟨-, hwalk⟩
        exact .inr (hvalues.mp hwalk)
      · rintro (hne | hagree)
        · exact absurd herror hne
        · have hwalk : ValueWalkIsHarmless buf := hvalues.mpr hagree
          exact ⟨sendIsHarmless_of_walk hwalk, hwalk⟩
    · constructor
      · intro hwalk
        exact .inr (hexperiments.mp hwalk)
      · rintro (hne | hagree)
        · exact absurd herror hne
        · exact hexperiments.mpr hagree
  · have hwalk : ValueWalkIsHarmless buf := walkIsHarmless_of_error herror
    refine ⟨iff_of_true ⟨sendIsHarmless_of_walk hwalk, hwalk⟩ (.inl herror),
      iff_of_true (walkIsHarmless_of_error herror) (.inl herror)⟩

/-- The walk over a component of size `0` never ends, and of a component that is cut off by the end
of the buffer a header is handed out that does not lie in it. -/
theorem settings_buffer_harmless_fails :
    ¬ ValueWalkIsHarmless (zerosBehindHeader 55 (by decide)) ∧
      ¬ ValueWalkIsHarmless (zerosBehindHeader 1 (by decide)) := by
  constructor
  · intro hwalk
    have hagree := (walkIsHarmless_iff (followsRecords_values (by decide)) (by decide)).mp hwalk
    have hpos : 0 < (zerosBehindHeader 55 (by decide)).componentSize kAllComponentsHeaderSize :=
      RecordsFit.size_pos hagree (by decide)
    exact absurd hpos (by decide)
  · intro hwalk
    have hagree := (walkIsHarmless_iff (followsRecords_values (by decide)) (by decide)).mp hwalk
    exact absurd (hagree.le_size (by decide)) (by decide)

end SettingsWalk

end DevDriver.Analysis
