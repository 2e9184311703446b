import DevDriver.Analysis.SettingsRecords

/-!
# Overrides on their way to the driver

The overrides in force over a run are a map from names to values that each successful call changes.
-/

namespace DevDriver.Analysis

open Library Model SettingsRpcService

namespace SettingsOverrides

open SettingsWalk SettingsRecords

variable {buf : SettingsBuffer}

def sentRecord (component : DDSettingsComponentValueRefs) : ComponentRecord where
  nameField := component.componentName.set (kMaxComponentNameSize - 1) 0
  length_nameField := by rw [List.length_set, component.length_name]
  terminated := by
    refine List.mem_iff_getElem.mpr ⟨kMaxComponentNameSize - 1, ?_, List.getElem_set_self _⟩
    rw [List.length_set, component.length_name]
    decide
  blobHash := 0
  blobHash_lt := by decide
  numValues := component.values.length % 2 ^ 16
  numValues_lt := Nat.mod_lt _ (by decide)
  size := (kComponentHeaderSize + component.encodedValues.length) % 2 ^ 32
  size_lt := Nat.mod_lt _ (by decide)
  body := component.values.flatMap encodeRef

theorem takeWhile_set_last {l : List UInt8} {n : ℕ} (h : 0 ∈ l) (hn : l.length ≤ n + 1) :
    (l.set n 0).takeWhile (· ≠ 0) = l.takeWhile (· ≠ 0) := by
  induction l generalizing n with
  | nil => cases h
  | cons b l ih =>
    by_cases hb : b = 0
    · subst hb
      cases n <;> rfl
    · have hl : 0 ∈ l := (List.mem_cons.mp h).resolve_left (Ne.symm hb)
      rw [List.length_cons] at hn
      cases n with
      | zero =>
        have := List.length_pos_of_mem hl
        omega
      | succ n =>
        have hkeep : decide (b ≠ 0) = true := decide_eq_true hb
        rw [List.set_cons_succ, List.takeWhile_cons, List.takeWhile_cons, hkeep, if_pos rfl,
          if_pos rfl, ih hl (by omega)]

theorem name_sentRecord (component : DDSettingsComponentValueRefs) :
    CString.ofBytes (sentRecord component).nameField = component.name :=
  Subtype.ext (takeWhile_set_last component.terminated (Nat.le_of_eq component.length_name))

/-! ## What the service makes of it -/

def createAll : List DDSettingsComponentValueRefs → Table CString (List SettingsValueRef) →
    DDResult × Table CString (List SettingsValueRef)
  | [], overrides => (.success, overrides)
  | component :: components, overrides =>
    if component.name ∈ overrides then (.genericEntryExists, overrides)
    else createAll components (overrides.insert component.name component.values)

variable {overrides : Table CString (List SettingsValueRef)}

theorem createOverrides_unique {rounds rounds' : ℕ} {component : SettingsComponent} {r r'}
    (h : createOverrides buf rounds component overrides = some r)
    (h' : createOverrides buf rounds' component overrides = some r') : r = r' :=
  Option.some.inj ((createOverrides_mono h (Nat.le_max_left _ _)).symm.trans
    (createOverrides_mono h' (Nat.le_max_right _ _)))

variable {sent : List DDSettingsComponentValueRefs}

theorem createOverrides_of_walk {component : SettingsComponent}
    {components : List SettingsComponent}
    (h : Yields buf.nextComponent component components)
    (hall : List.Forall₂ (fun component sent => buf.pName component = sent.name ∧
      ∃ values, Yields (buf.nextValue component) .zero values ∧
        values.map (·.valueRef) = sent.values) components sent)
    (overrides : Table CString (List SettingsValueRef)) :
    ∃ rounds, createOverrides buf rounds component overrides = some (createAll sent overrides) := by
  induction h generalizing sent overrides with
  | nil hnone =>
    cases hall
    exact ⟨1, by rw [createOverrides, hnone]; rfl⟩
  | @cons component next components hsome _ ih =>
    cases hall with
    | @cons _ first _ sent hfirst hall =>
      obtain ⟨hname, values, hvalues, hrefs⟩ := hfirst
      obtain ⟨rounds, hrounds⟩ := ih hall (overrides.insert first.name first.values)
      refine ⟨max rounds (values.length + 1) + 1, ?_⟩
      rw [createOverrides, hsome]
      simp only
      rw [collect_eq_some_iff.mpr ⟨hvalues, by omega⟩, createAll]
      simp only [hname, hrefs]
      split
      · rfl
      · exact createOverrides_mono hrounds (Nat.le_max_left _ _)

theorem createOverrides_of_there {component next : SettingsComponent}
    (overrides : Table CString (List SettingsValueRef))
    (hnext : buf.nextComponent component = some next) (hthere : buf.pName next ∈ overrides) :
    ∃ rounds, createOverrides buf rounds component overrides =
      some (.genericEntryExists, overrides) := by
  obtain ⟨values, hvalues⟩ := exists_yields_nextValue buf next
  refine ⟨values.length + 2, ?_⟩
  rw [createOverrides, hnext]
  simp only
  rw [collect_eq_some_iff.mpr ⟨hvalues, Nat.lt_succ_self _⟩]
  exact if_pos hthere

/-- The components of a call are new and distinct, and their sizes have room in the headers. -/
structure NamesNewComponents (overrides : Table CString (List SettingsValueRef))
    (components : List DDSettingsComponentValueRefs) : Prop where
  nodup : (components.map (·.name)).Nodup
  fresh : ∀ component ∈ components, component.name ∉ overrides
  size_lt : ∀ component ∈ components,
    kComponentHeaderSize + component.encodedValues.length < 2 ^ 32

/-- A call says how many components it has, which are new, or the first of which is there. -/
def CallIsClear (overrides : Table CString (List SettingsValueRef))
    (components : List DDSettingsComponentValueRefs) : Prop :=
  (components = [] ∨ components.length % 2 ^ 16 ≠ 0) ∧
    (NamesNewComponents overrides components ∨
      ∃ first ∈ components.head?, first.name ∈ overrides)

theorem error_encodeAllOverrides (h : buf.bytes = encodeAllOverrides sent)
    (hne : sent.length % 2 ^ 16 ≠ 0) :
    buf.error = .success :=
  error_of_header _ h (Nat.pos_of_ne_zero hne) (Nat.mod_lt _ (by decide))

theorem error_encodeAllOverrides_nil (h : buf.bytes = encodeAllOverrides []) :
    buf.error ≠ .success := by
  have hfield : buf.field 2 2 = 0 :=
    field_of_bytes (leBytes 2 1) [] (by rw [h]; rfl) rfl (by decide)
  rw [SettingsBuffer.error, hfield, if_pos rfl, ite_self]
  decide

theorem createOverrides_eq (h : buf.bytes = encodeAllOverrides sent)
    (hclear : CallIsClear overrides sent) :
    ∃ rounds, createOverrides buf rounds .zero overrides = some (createAll sent overrides) := by
  obtain ⟨rfl | hcount, hnames⟩ := hclear
  · have hnone : buf.nextComponent .zero = none := if_neg (error_encodeAllOverrides_nil h)
    exact createOverrides_of_walk (.nil hnone) .nil overrides
  · have herror := error_encodeAllOverrides h hcount
    have hbytes : buf.bytes = encodeAllComponentsHeader (sent.length % 2 ^ 16) ++
        (sent.map sentRecord).flatMap (·.encode) := by
      rw [h, encodeAllOverrides, List.flatMap_map]
      rfl
    rcases hnames with hnew | ⟨first, hfirst, hthere⟩
    · obtain ⟨components, hcomponents, hall⟩ := yields_components (sent.map sentRecord) herror
        (by
          intro r hr
          obtain ⟨component, hcomponent, rfl⟩ := List.mem_map.mp hr
          rw [ComponentRecord.length_encode]
          exact Nat.mod_eq_of_lt (hnew.size_lt component hcomponent)) hbytes rfl
      rw [List.forall₂_map_right_iff] at hall
      refine createOverrides_of_walk hcomponents (forall₂_imp_of_mem hall ?_) overrides
      rintro component - sent hsent ⟨-, hreads⟩
      refine ⟨(hreads.pName_eq _ rfl).trans (name_sentRecord sent), ?_⟩
      obtain ⟨pre, post, hbody, hpre⟩ := hreads.body_eq
      exact yields_values component sent.values herror hbody hpre
        (hreads.componentSize_eq.trans (Nat.mod_eq_of_lt (hnew.size_lt sent hsent)))
    · obtain ⟨sent, rfl⟩ : ∃ rest, sent = first :: rest := by
        cases sent with
        | nil => cases hfirst
        | cons c cs => exact ⟨cs, by rw [Option.some.inj hfirst]⟩
      rw [List.map_cons, List.flatMap_cons] at hbytes
      have hreads := ReadsAs.of_bytes hbytes rfl
      have hnext : buf.nextComponent .zero = some (buf.component kAllComponentsHeaderSize) := by
        rw [SettingsBuffer.nextComponent, if_pos herror]
        refine if_pos ?_
        rw [SettingsBuffer.size, hbytes, List.length_append, List.length_append,
          ComponentRecord.length_encode]
        exact Nat.lt_add_of_pos_right (Nat.add_pos_left (Nat.add_pos_left (by decide) _) _)
      obtain ⟨rounds, hrounds⟩ := createOverrides_of_there overrides hnext
        (by rw [hreads.pName_eq _ rfl, name_sentRecord]; exact hthere)
      exact ⟨rounds, hrounds.trans (congrArg some (if_pos hthere).symm)⟩

theorem createAll_new (hnew : NamesNewComponents overrides sent) :
    (createAll sent overrides).1 = .success ∧
      ∀ name, (createAll sent overrides).2.lookup name =
        ((sent.find? fun component => component.name = name).map (·.values)).or
          (overrides.lookup name) := by
  induction sent generalizing overrides with
  | nil => exact ⟨rfl, fun _ => rfl⟩
  | cons component sent ih =>
    obtain ⟨hfresh, hrest⟩ := List.forall_mem_cons.mp hnew.fresh
    obtain ⟨hnotin, hnodup⟩ := List.nodup_cons.mp hnew.nodup
    have hnew' : NamesNewComponents (overrides.insert component.name component.values) sent := by
      refine ⟨hnodup, ?_, fun other hother => hnew.size_lt other (List.mem_cons_of_mem _ hother)⟩
      intro other hother hmem
      rcases (AList.mem_insert _).mp hmem with hsame | hmem
      · exact hnotin (List.mem_map.mpr ⟨other, hother, hsame⟩)
      · exact hrest other hother hmem
    obtain ⟨hresult, hlookup⟩ := ih hnew'
    rw [createAll, if_neg hfresh]
    refine ⟨hresult, ?_⟩
    intro name
    rw [hlookup]
    by_cases hname : component.name = name
    · subst hname
      have hnone : sent.find? (fun other => other.name = component.name) = none := by
        rw [List.find?_eq_none]
        intro other hother
        rw [decide_eq_true_eq]
        exact fun hsame => hnotin (List.mem_map.mpr ⟨other, hother, hsame⟩)
      rw [hnone, List.find?_cons_of_pos (by simp), AList.lookup_insert]
      rfl
    · rw [List.find?_cons_of_neg (by simpa using hname), AList.lookup_insert_ne (Ne.symm hname)]

/-! ## Components that register -/

def lastOverride (overrides : List SettingsValueRef) (hash : UInt32) : Option SettingsValueRef :=
  overrides.reverse.find? fun ref => ref.hash = hash

/-- A setting with its value replaced: a number by its bytes, a string by a string. -/
inductive Replaced : Setting → List UInt8 → Setting → Prop where
  | plain {type : ScalarType} (old new : type.Value) :
      Replaced (.plain type old) new.val (.plain type new)
  | optional {type : ScalarType} (old : Option type.Value) (new : type.Value) :
      Replaced (.optional type old) new.val (.optional type (some new))
  | string {old new : CharArray} {value : List UInt8} {behind : UInt8}
      (hlength : new.val.length = old.val.length)
      (hstring : CString.ofBytes new.val = CString.ofBytes value) :
      Replaced (.string old behind) value (.string new behind)

/-- An override is of the type and of the size of a setting; a string has its terminator. -/
def Matches (setting : Setting) (ref : SettingsValueRef) : Prop :=
  setting.type = ref.type ∧
    match setting with
    | .string array _ => ref.value.length ≤ array.val.length ∧ 0 ∈ ref.value
    | setting => ref.value.length = setting.size

/-- What becomes of a setting: it has the value of the override that counts, if there is one. -/
def OverriddenBy : Option SettingsValueRef → Option Setting → Option Setting → Prop
  | some ref, some setting, after => ∃ setting', after = some setting' ∧
      Replaced setting ref.value setting'
  | _, before, after => after = before

/-- A component with exactly the values of its overridden settings replaced. -/
structure OverridesApplied (overrides : List SettingsValueRef) (base base' : SettingsBase) :
    Prop where
  name_eq : base'.name = base.name
  settingsBlobHash_eq : base'.settingsBlobHash = base.settingsBlobHash
  unsupportedExperiments_eq : base'.unsupportedExperiments = base.unsupportedExperiments
  settings : ∀ hash, OverriddenBy (lastOverride overrides hash) (base.settingsMap.lookup hash)
    (base'.settingsMap.lookup hash)

inductive SameKind : Setting → Setting → Prop where
  | plain {type : ScalarType} (old new : type.Value) : SameKind (.plain type old) (.plain type new)
  | optional {type : ScalarType} (old new : Option type.Value) :
      SameKind (.optional type old) (.optional type new)
  | string {old new : CharArray} {behind : UInt8} (hlength : new.val.length = old.val.length) :
      SameKind (.string old behind) (.string new behind)

theorem SameKind.refl (setting : Setting) : SameKind setting setting := by
  cases setting with
  | plain type value => exact .plain value value
  | optional type value => exact .optional value value
  | string array behind => exact .string rfl

theorem SameKind.trans {a b c : Setting} (h : SameKind a b) (h' : SameKind b c) : SameKind a c := by
  cases h with
  | plain old _ =>
    cases h' with
    | plain _ new => exact .plain old new
  | optional old _ =>
    cases h' with
    | optional _ new => exact .optional old new
  | string hlength =>
    cases h' with
    | string hlength' => exact .string (hlength'.trans hlength)

theorem SameKind.setValueHelper (setting : Setting) (src : List UInt8) (beyond : ℕ → UInt8) :
    SameKind setting (setting.setValueHelper src beyond) := by
  cases setting with
  | plain type value => exact .plain value _
  | optional type value => exact .optional value _
  | string array behind =>
    refine .string ?_
    show (src.take array.val.length ++ array.val.drop src.length).length = array.val.length
    rw [List.length_append, List.length_take, List.length_drop]
    omega

theorem SameKind.matches {a b : Setting} (h : SameKind a b) {ref : SettingsValueRef}
    (hmatches : Matches a ref) : Matches b ref := by
  cases h with
  | plain => exact hmatches
  | optional => exact hmatches
  | string hlength => exact ⟨hmatches.1, by rw [hlength]; exact hmatches.2.1, hmatches.2.2⟩

theorem SameKind.replaced {a b c : Setting} (h : SameKind a b) {value : List UInt8}
    (hreplaced : Replaced b value c) : Replaced a value c := by
  cases h with
  | plain old _ =>
    cases hreplaced with
    | plain _ new => exact .plain old new
  | optional old _ =>
    cases hreplaced with
    | optional _ new => exact .optional old new
  | string hlength =>
    cases hreplaced with
    | string hlength' hstring => exact .string (hlength'.trans hlength) hstring

theorem scalar_eq {type : ScalarType} {src : List UInt8} (h : src.length = type.size)
    (beyond : ℕ → UInt8) : (Setting.scalar type src beyond).val = src := by
  apply List.ext_getElem
  · rw [(Setting.scalar type src beyond).property, h]
  · intro i h₁ h₂
    simp only [Setting.scalar, List.getElem_map, List.getElem_range]
    rw [List.getD_eq_getElem?_getD, List.getElem?_eq_getElem h₂]
    rfl

theorem replaced_setValueHelper {setting : Setting} {ref : SettingsValueRef}
    (h : Matches setting ref) (beyond : ℕ → UInt8) :
    Replaced setting ref.value (setting.setValueHelper ref.value beyond) := by
  cases setting with
  | plain type value =>
    have hreplaced := Replaced.plain value (Setting.scalar type ref.value beyond)
    rwa [scalar_eq h.2] at hreplaced
  | optional type value =>
    have hreplaced := Replaced.optional value (Setting.scalar type ref.value beyond)
    rwa [scalar_eq h.2] at hreplaced
  | string array behind =>
    refine .string ?_ ?_
    · show (ref.value.take array.val.length ++ array.val.drop ref.value.length).length = _
      rw [List.length_append, List.length_take, List.length_drop]
      omega
    · show CString.ofBytes (ref.value.take array.val.length ++ _) = _
      rw [List.take_of_length_le h.2.1, ofBytes_append h.2.2]

section SetValue

variable (base : SettingsBase) (src : SettingsValueRef) (beyond : ℕ → UInt8)

theorem setValue_lookup_ne {hash : UInt32} (h : hash ≠ src.hash) :
    (base.setValue src beyond).2.settingsMap.lookup hash = base.settingsMap.lookup hash := by
  rw [SettingsBase.setValue]
  split
  · rfl
  · split
    · split
      · exact lookup_replace_ne h _ _
      · rfl
    · rfl

theorem setValue_lookup_self {setting : Setting}
    (hsetting : base.settingsMap.lookup src.hash = some setting) (h : Matches setting src) :
    (base.setValue src beyond).2.settingsMap.lookup src.hash =
      some (setting.setValueHelper src.value beyond) := by
  have hsize : src.value.length ≤ setting.size := by
    cases setting with
    | plain => exact Nat.le_of_eq h.2
    | optional => exact Nat.le_of_eq h.2
    | string => exact h.2.1
  have hmem : src.hash ∈ base.settingsMap :=
    AList.lookup_isSome.mp (by rw [hsetting]; rfl)
  rw [SettingsBase.setValue, hsetting]
  simp only [h.1, hsize, if_true]
  exact lookup_replace hmem _

theorem setValue_sameKind (hash : UInt32) {setting : Setting}
    (h : base.settingsMap.lookup hash = some setting) :
    ∃ setting', (base.setValue src beyond).2.settingsMap.lookup hash = some setting' ∧
      SameKind setting setting' := by
  by_cases hhash : hash = src.hash
  · subst hhash
    have hmem : src.hash ∈ base.settingsMap := AList.lookup_isSome.mp (by rw [h]; rfl)
    rw [SettingsBase.setValue, h]
    simp only
    split
    · split
      · exact ⟨_, lookup_replace hmem _, .setValueHelper _ _ _⟩
      · exact ⟨setting, h, .refl setting⟩
    · exact ⟨setting, h, .refl setting⟩
  · exact ⟨setting, (setValue_lookup_ne base src beyond hhash).trans h, .refl setting⟩

theorem setValue_lookup_none {hash : UInt32} (h : base.settingsMap.lookup hash = none) :
    (base.setValue src beyond).2.settingsMap.lookup hash = none := by
  by_cases hhash : hash = src.hash
  · subst hhash
    rw [SettingsBase.setValue, h]
    exact h
  · exact (setValue_lookup_ne base src beyond hhash).trans h

theorem setValue_unchanged : (base.setValue src beyond).2.name = base.name ∧
    (base.setValue src beyond).2.settingsBlobHash = base.settingsBlobHash ∧
    (base.setValue src beyond).2.unsupportedExperiments = base.unsupportedExperiments := by
  rw [SettingsBase.setValue]
  split
  · exact ⟨rfl, rfl, rfl⟩
  · split
    · split <;> exact ⟨rfl, rfl, rfl⟩
    · exact ⟨rfl, rfl, rfl⟩

end SetValue

section Apply

variable (overrides : List SettingsValueRef) (base : SettingsBase) (beyond : ℕ → ℕ → UInt8)

theorem apply_append (ref : SettingsValueRef) :
    applyComponentUserOverrides beyond (overrides ++ [ref]) base =
      ((applyComponentUserOverrides beyond overrides base).setValue ref
        (beyond overrides.length)).2 := by
  rw [applyComponentUserOverrides, List.zipIdx_append, List.foldl_append]
  simp only [List.zipIdx_cons, List.zipIdx_nil, List.foldl_cons, List.foldl_nil, Nat.zero_add]
  rfl

theorem apply_unchanged :
    (applyComponentUserOverrides beyond overrides base).name = base.name ∧
    (applyComponentUserOverrides beyond overrides base).settingsBlobHash =
      base.settingsBlobHash ∧
    (applyComponentUserOverrides beyond overrides base).unsupportedExperiments =
      base.unsupportedExperiments := by
  induction overrides using List.reverseRecOn with
  | nil => exact ⟨rfl, rfl, rfl⟩
  | append_singleton overrides ref ih =>
    rw [apply_append]
    obtain ⟨hname, hhash, hexperiments⟩ := setValue_unchanged
      (applyComponentUserOverrides beyond overrides base) ref
      (beyond overrides.length)
    exact ⟨hname.trans ih.1, hhash.trans ih.2.1, hexperiments.trans ih.2.2⟩

theorem apply_lookup_none {hash : UInt32} (h : base.settingsMap.lookup hash = none) :
    (applyComponentUserOverrides beyond overrides base).settingsMap.lookup
      hash = none := by
  induction overrides using List.reverseRecOn with
  | nil => exact h
  | append_singleton overrides ref ih =>
    rw [apply_append]
    exact setValue_lookup_none _ ref _ ih

theorem apply_sameKind {hash : UInt32} {setting : Setting}
    (h : base.settingsMap.lookup hash = some setting) :
    ∃ setting', (applyComponentUserOverrides beyond overrides
      base).settingsMap.lookup hash = some setting' ∧ SameKind setting setting' := by
  induction overrides using List.reverseRecOn with
  | nil => exact ⟨setting, h, .refl setting⟩
  | append_singleton overrides ref ih =>
    obtain ⟨mid, hmid, hkind⟩ := ih
    rw [apply_append]
    obtain ⟨setting', hsetting', hkind'⟩ := setValue_sameKind _ ref (beyond overrides.length) hash
      hmid
    exact ⟨setting', hsetting', hkind.trans hkind'⟩

theorem apply_overriddenBy (hash : UInt32)
    (hmatches : ∀ ref setting, lastOverride overrides hash = some ref →
      base.settingsMap.lookup hash = some setting → Matches setting ref) :
    OverriddenBy (lastOverride overrides hash) (base.settingsMap.lookup hash)
      ((applyComponentUserOverrides beyond overrides base).settingsMap.lookup
        hash) := by
  cases hsetting : base.settingsMap.lookup hash with
  | none =>
    rw [apply_lookup_none overrides base beyond hsetting]
    cases lastOverride overrides hash <;> rfl
  | some setting =>
    induction overrides using List.reverseRecOn with
    | nil => exact hsetting
    | append_singleton overrides ref ih =>
      rw [apply_append]
      have hlast : lastOverride (overrides ++ [ref]) hash =
          if ref.hash = hash then some ref else lastOverride overrides hash := by
        rw [lastOverride, List.reverse_append, List.reverse_singleton, List.singleton_append,
          List.find?_cons]
        by_cases h : ref.hash = hash
        · simp [h]
        · simp [h, lastOverride]
      by_cases h : ref.hash = hash
      · subst h
        rw [hlast, if_pos rfl] at hmatches ⊢
        obtain ⟨mid, hmid, hkind⟩ := apply_sameKind overrides base beyond hsetting
        have hmatch := hkind.matches (hmatches ref setting rfl hsetting)
        exact ⟨_, setValue_lookup_self _ ref _ hmid hmatch,
          hkind.replaced (replaced_setValueHelper hmatch _)⟩
      · rw [hlast, if_neg h] at hmatches ⊢
        rw [setValue_lookup_ne _ ref _ (Ne.symm h)]
        exact ih hmatches

theorem overridesApplied (hmatches : ∀ hash ref setting, lastOverride overrides hash = some ref →
    base.settingsMap.lookup hash = some setting → Matches setting ref) :
    OverridesApplied overrides base
      (applyComponentUserOverrides beyond overrides base) where
  name_eq := (apply_unchanged overrides base beyond).1
  settingsBlobHash_eq := (apply_unchanged overrides base beyond).2.1
  unsupportedExperiments_eq := (apply_unchanged overrides base beyond).2.2
  settings := fun hash => apply_overriddenBy overrides base beyond hash (hmatches hash)

end Apply

/-! ## Runs -/

/-- The overrides in force after a call, under the names of their components. -/
def afterCall (sent : List DDSettingsComponentValueRefs) (result : DDResult)
    (overrides : CString → Option (List SettingsValueRef)) :
    CString → Option (List SettingsValueRef) :=
  if result = .success then
    fun name => ((sent.find? fun component => component.name = name).map (·.values)).or
      (overrides name)
  else overrides

def afterStep (overrides : CString → Option (List SettingsValueRef)) :
    SettingsRpcService × SettingsAction × SettingsOutput → CString → Option (List SettingsValueRef)
  | (_, .sendAllUserOverrides sent _ _, .sent result) => afterCall sent result overrides
  | _ => overrides

/-- The overrides in force after a run: every successful call replaces those of the components that
it names. -/
def inForce (tr : List (SettingsRpcService × SettingsAction × SettingsOutput)) :
    CString → Option (List SettingsValueRef) :=
  tr.foldl afterStep fun _ => none

/-- A call is clear, and a component that registers has settings that match the overrides for
them. -/
def StepIsClear (service : SettingsRpcService) : SettingsAction → Prop
  | .sendAllUserOverrides sent _ _ => CallIsClear service.allUserOverrides sent
  | .registerSettingsComponent base _ => ∀ hash ref setting,
    lastOverride (service.overridesFor base.name) hash = some ref →
      base.settingsMap.lookup hash = some setting → Matches setting ref
  | _ => True

/-- The service holds exactly these overrides. -/
def Holds (overrides : CString → Option (List SettingsValueRef)) (service : SettingsRpcService) :
    Prop :=
  ∀ name, service.allUserOverrides.lookup name = overrides name

theorem createAll_holds (hclear : CallIsClear overrides sent) (name : CString) :
    (createAll sent overrides).2.lookup name =
      afterCall sent (createAll sent overrides).1 (fun name => overrides.lookup name) name := by
  rcases hclear.2 with hnew | ⟨first, hfirst, hthere⟩
  · obtain ⟨hresult, hlookup⟩ := createAll_new hnew
    rw [afterCall, if_pos hresult, hlookup]
  · cases sent with
    | nil => cases hfirst
    | cons component sent =>
      cases hfirst
      have hfails : DDResult.genericEntryExists ≠ .success := by decide
      rw [createAll, if_pos hthere, afterCall, if_neg hfails]

theorem Holds.step {overrides : CString → Option (List SettingsValueRef)}
    {service service' : SettingsRpcService} {action : SettingsAction} {output : SettingsOutput}
    (h : Holds overrides service) (hclear : StepIsClear service action)
    (hstep : settingsMachine.step service action = some (service', output)) :
    Holds (afterStep overrides (service, action, output)) service' := by
  obtain rfl : (fun name => service.allUserOverrides.lookup name) = overrides := funext h
  cases action with
  | sendAllUserOverrides sent paramBuf rounds =>
    obtain ⟨hbytes, hstep⟩ := Option.ite_none_right_eq_some.mp hstep
    obtain ⟨⟨result, next⟩, hsend, hnext⟩ := Option.map_eq_some_iff.mp hstep
    cases hnext
    obtain ⟨⟨result', overrides'⟩, hcreate, hservice⟩ := Option.map_eq_some_iff.mp hsend
    cases hservice
    obtain ⟨rounds', hrounds'⟩ := createOverrides_eq hbytes hclear
    have heq := createOverrides_unique hcreate hrounds'
    intro name
    have hholds := createAll_holds hclear name
    rw [← heq] at hholds
    exact hholds
  | connectFails sent result =>
    obtain ⟨-, ⟨⟩⟩ := Option.ite_none_left_eq_some.mp hstep
    exact fun _ => rfl
  | registerSettingsComponent base beyond =>
    cases hstep
    exact fun _ => rfl
  | unRegisterSettingsComponent name =>
    cases hstep
    exact fun _ => rfl

def newService : SettingsRpcService := ⟨[], .nil, ∅⟩

def sentComponent (initial value : UInt8) : DDSettingsComponentValueRefs where
  componentName := initial :: List.replicate 40 0
  values := [⟨1, ScalarType.uint8.toCode, [value], (by decide : 1 < 2 ^ 16)⟩]
  length_name := rfl
  terminated := List.mem_cons_of_mem _ (List.mem_replicate.mpr ⟨by decide, rfl⟩)

def sentBuffer (sent : List DDSettingsComponentValueRefs)
    (h : (encodeAllOverrides sent).length ≤ 2 ^ 63) : SettingsBuffer :=
  ⟨encodeAllOverrides sent, fun _ => 0, h⟩

def refusedHalfWay : List SettingsAction :=
  [.sendAllUserOverrides [sentComponent 65 1]
      (sentBuffer [sentComponent 65 1] (by decide +kernel)) 4,
    .sendAllUserOverrides [sentComponent 66 2, sentComponent 65 3]
      (sentBuffer [sentComponent 66 2, sentComponent 65 3] (by decide +kernel)) 4]

def registeringComponent : SettingsBase where
  name := ⟨[65], by decide⟩
  settingsBlobHash := 0
  settingsMap := AList.singleton 1 (.plain .uint8 ⟨[0], rfl⟩)
  unsupportedExperiments := []

def firstCall : SettingsAction :=
  .sendAllUserOverrides [sentComponent 65 7] (sentBuffer [sentComponent 65 7] (by decide +kernel))
    4

def serviceAfterCall : SettingsRpcService :=
  ⟨[], .nil, AList.singleton (sentComponent 65 7).name (sentComponent 65 7).values⟩

end SettingsOverrides

end DevDriver.Analysis
