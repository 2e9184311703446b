import DevDriver.Analysis.SettingsRecords
import Mathlib.Algebra.Order.BigOperators.Group.List

/-!
# Settings queries

What a tool that iterates the answer to `QueryAllCurrentValues` or to `GetUnsupportedExperiments`
learns.
-/

namespace DevDriver.Analysis

open Library Model CString SettingsBase

namespace SettingsQuery

open SettingsWalk SettingsRecords

variable {buf : SettingsBuffer}

/-! ## Current values -/

def IsTerminated : Setting → Prop
  | .string array _ => 0 ∈ array.val
  | _ => True

def StringsAreTerminated (base : SettingsBase) : Prop :=
  ∀ entry ∈ base.settingsMap.entries, IsTerminated entry.2

theorem ScalarType.size_lt (type : ScalarType) : type.size < 2 ^ 16 := by
  cases type <;> decide

theorem ScalarType.length_value_lt (type : ScalarType) (value : type.Value) :
    value.val.length < 2 ^ 16 := by
  rw [value.property]
  exact ScalarType.size_lt type

theorem length_take_string_lt (array : CharArray) (chars : CString) :
    (array.val.take (chars.val.length + 1)).length < 2 ^ 16 := by
  rw [List.length_take]
  omega

/-- The value that a setting has: a plain one always, an optional one when it is set, a string when
it is not empty, with its terminator. -/
def currentValue (hash : UInt32) : Setting → Option SettingsValueRef
  | .plain type value =>
    some ⟨hash, type.toCode, value.val, ScalarType.length_value_lt type value⟩
  | .optional type value => value.map fun value =>
    ⟨hash, type.toCode, value.val, ScalarType.length_value_lt type value⟩
  | .string array _ =>
    let chars := ofBytes array.val
    if chars.val = [] then none
    else some ⟨hash, kSettingsTypeString, array.val.take (chars.val.length + 1),
      length_take_string_lt array chars⟩

def currentValues (base : SettingsBase) : List SettingsValueRef :=
  base.settingsMap.entries.filterMap fun entry => currentValue entry.1 entry.2

def valuesBytes (base : SettingsBase) : List UInt8 := (currentValues base).flatMap encodeRef

theorem length_ofBytes_lt {chars : List UInt8} (h : 0 ∈ chars) :
    (ofBytes chars).val.length < chars.length := by
  rcases Nat.lt_or_ge (ofBytes chars).val.length chars.length with hlt | hge
  · exact hlt
  · -- the string would be all of the array, with its terminator
    have hprefix : (ofBytes chars).val <+: chars := List.takeWhile_prefix _
    have heq := hprefix.eq_of_length_le hge
    have hmem : 0 ∈ (ofBytes chars).val := by
      rw [heq]
      exact h
    exact absurd hmem (ofBytes chars).property

theorem currentValue_string (hash : UInt32) (s : CString) (hne : s.val ≠ []) {array : CharArray}
    (harray : array.val = s.val ++ 0 :: []) (behind : UInt8) :
    ∃ ref, currentValue hash (.string array behind) = some ref ∧ ref.value = array.val := by
  have hstring : ofBytes array.val = s := by
    rw [harray]
    exact ofBytes_terminated s []
  have htake : array.val.take ((ofBytes array.val).val.length + 1) = array.val := by
    rw [hstring, harray]
    exact List.take_of_length_le (Nat.le_of_eq (List.length_append ..))
  refine ⟨_, if_neg (t := none) ?_, htake⟩
  rwa [hstring]

theorem encodeSetting_eq {hash : UInt32} {setting : Setting} (h : IsTerminated setting) :
    encodeSetting hash setting = (currentValue hash setting).map encodeRef := by
  cases setting with
  | plain type value => rfl
  | optional type value => cases value <;> rfl
  | string array behind =>
    have hlt := length_ofBytes_lt h
    have hempty : array.val.head? = some 0 ↔ (ofBytes array.val).val = [] := by
      have hpos := array.property.1
      show _ ↔ array.val.takeWhile (· ≠ 0) = []
      cases harray : array.val with
      | nil =>
        rw [harray] at hpos
        cases hpos
      | cons c cs =>
        rw [List.takeWhile_cons, List.head?_cons, Option.some.injEq]
        by_cases hc : c = 0 <;> simp [hc]
    have hlength : ((ofBytes array.val).val.length + 1) % 2 ^ 16 =
        (ofBytes array.val).val.length + 1 := Nat.mod_eq_of_lt (by omega)
    rw [encodeSetting, Setting.currentBytes, currentValue]
    by_cases hzero : array.val.head? = some 0
    · rw [if_pos hzero]
      simp only [hempty.mp hzero, if_true]
      rfl
    · rw [if_neg hzero]
      simp only [mt hempty.mpr hzero, if_false]
      show some (encodeValue _ _ ((array.val ++ [behind]).take
        (((ofBytes array.val).val.length + 1) % 2 ^ 16))) = _
      rw [hlength, List.take_append_of_le_length (by omega)]
      rfl

theorem getAllValues_eq {base : SettingsBase} (h : StringsAreTerminated base) :
    base.getAllValues = ⟨(currentValues base).length, valuesBytes base⟩ := by
  have hrecords : (base.settingsMap.entries.filterMap fun entry =>
      encodeSetting entry.1 entry.2) = (currentValues base).map encodeRef := by
    rw [currentValues, List.map_filterMap]
    apply List.filterMap_congr
    intro entry hentry
    rw [encodeSetting_eq (h entry hentry)]
  rw [getAllValues, hrecords, List.length_map]
  rfl

/-! ## What the service writes -/

def writtenRecord (base : SettingsBase) (contents : ComponentContents) : ComponentRecord where
  nameField := base.name.val.take (kMaxComponentNameSize - 1) ++
    List.replicate
      (kMaxComponentNameSize - (base.name.val.take (kMaxComponentNameSize - 1)).length) 0
  length_nameField := by
    rw [List.length_append, List.length_replicate, List.length_take]
    omega
  terminated := by
    refine List.mem_append_right _ (List.mem_replicate.mpr ⟨?_, rfl⟩)
    rw [List.length_take, kMaxComponentNameSize]
    omega
  blobHash := base.settingsBlobHash.toNat
  blobHash_lt := base.settingsBlobHash.toNat_lt
  numValues := contents.numValues % 2 ^ 16
  numValues_lt := Nat.mod_lt _ (by decide)
  size := (contents.bytes.length + kComponentHeaderSize) % 2 ^ 16
  size_lt := (Nat.mod_lt _ (by decide)).trans (by decide)
  body := contents.bytes

variable (base : SettingsBase)

theorem encode_writtenRecord (contents : ComponentContents) :
    (writtenRecord base contents).encode = base.componentHeader contents ++ contents.bytes := rfl

theorem name_writtenRecord {base : SettingsBase} (h : base.name.val.length < kMaxComponentNameSize)
    (contents : ComponentContents) :
    ofBytes (writtenRecord base contents).nameField = base.name := by
  have htake : base.name.val.take (kMaxComponentNameSize - 1) = base.name.val :=
    List.take_of_length_le (Nat.le_sub_one_of_lt h)
  obtain ⟨n, hn⟩ := Nat.exists_eq_succ_of_ne_zero
    (Nat.ne_of_gt (Nat.sub_pos_of_lt h))
  have hfield : (writtenRecord base contents).nameField =
      base.name.val ++ 0 :: List.replicate n 0 := by
    show _ ++ _ = _
    rw [htake, hn, List.replicate_succ]
  rw [hfield, ofBytes_terminated]

section Writers

variable {contentsOf : SettingsBase → Except DDResult (Option ComponentContents)}

def recordOf (contentsOf : SettingsBase → Except DDResult (Option ComponentContents))
    (base : SettingsBase) : Option ComponentRecord :=
  match contentsOf base with
  | .ok (some contents) => some (writtenRecord base contents)
  | _ => none

theorem writeComponents_accepting
    (contentsOf : SettingsBase → Except DDResult (Option ComponentContents))
    (bases : List SettingsBase)
    (h : ∀ base ∈ bases, ∃ contents, contentsOf base = .ok contents) (w : WrittenBytes) :
    (SettingsRpcService.writeComponents .accepting contentsOf bases w).1 = .success ∧
      (SettingsRpcService.writeComponents .accepting contentsOf bases w).2.bytes =
        w.bytes ++ (bases.filterMap (recordOf contentsOf)).flatMap (·.encode) := by
  induction bases generalizing w with
  | nil =>
    rw [List.filterMap_nil, List.flatMap_nil, List.append_nil]
    exact ⟨rfl, rfl⟩
  | cons base bases ih =>
    obtain ⟨⟨contents, hcontents⟩, hrest⟩ := List.forall_mem_cons.mp h
    rw [SettingsRpcService.writeComponents]
    cases contents with
    | none =>
      have hrecord : recordOf contentsOf base = none := by rw [recordOf, hcontents]
      rw [hcontents, List.filterMap_cons_none hrecord]
      exact ih hrest w
    | some contents =>
      have hrecord : recordOf contentsOf base = some (writtenRecord base contents) := by
        rw [recordOf, hcontents]
      rw [hcontents, List.filterMap_cons_some hrecord, List.flatMap_cons, encode_writtenRecord]
      have hok : ByteWriter.accepting w.calls = .success := rfl
      have hok' : ByteWriter.accepting (w.calls + 1) = .success := rfl
      simp only [WrittenBytes.writeBytes, hok, hok', if_true]
      split
      · rename_i hempty
        obtain ⟨hresult, hbytes⟩ := ih hrest ⟨w.calls + 1, w.bytes ++ base.componentHeader contents⟩
        refine ⟨hresult, ?_⟩
        rw [hbytes, hempty, List.append_nil, List.append_assoc]
      · obtain ⟨hresult, hbytes⟩ := ih hrest
          ⟨w.calls + 1 + 1, w.bytes ++ base.componentHeader contents ++ contents.bytes⟩
        refine ⟨hresult, ?_⟩
        rw [hbytes]
        simp only [List.append_assoc]

theorem writeComponents_error {bases : List SettingsBase}
    (hfails : ∃ base ∈ bases, ∃ result, contentsOf base = .error result)
    (herrors : ∀ base result, contentsOf base = .error result → result ≠ .success)
    (writer : ByteWriter) (w : WrittenBytes) :
    (SettingsRpcService.writeComponents writer contentsOf bases w).1 ≠ .success := by
  induction bases generalizing w with
  | nil =>
    obtain ⟨_, hbase, -⟩ := hfails
    cases hbase
  | cons base bases ih =>
    rw [SettingsRpcService.writeComponents]
    have hrest : (∀ result, contentsOf base ≠ .error result) →
        ∃ base ∈ bases, ∃ result, contentsOf base = .error result := by
      intro hne
      obtain ⟨failing, hfailing, result, hresult⟩ := hfails
      rcases List.mem_cons.mp hfailing with rfl | hmem
      · exact absurd hresult (hne result)
      · exact ⟨failing, hmem, result, hresult⟩
    cases hcontents : contentsOf base with
    | error result => exact herrors base result hcontents
    | ok contents =>
      have ih := ih (hrest fun result h => by rw [hcontents] at h; cases h)
      cases contents with
      | none => exact ih w
      | some contents =>
        simp only [WrittenBytes.writeBytes]
        split
        · split
          · exact ih _
          · split
            · exact ih _
            · assumption
        · assumption

end Writers

/-- The components that are handed out are those of `bases`, each once, with their names and
hashes, and something is handed out for each. -/
def ReadsComponents (buf : SettingsBuffer) (bases : List SettingsBase)
    (HandsOut : SettingsComponent → SettingsBase → Prop) : Prop :=
  ∃ components bases', Yields buf.nextComponent .zero components ∧ bases'.Perm bases ∧
    List.Forall₂ (fun component base => buf.pName component = base.name ∧
      component.blobHash = base.settingsBlobHash.toNat ∧ HandsOut component base)
      components bases'

def ReadsValues (buf : SettingsBuffer) (bases : List SettingsBase) : Prop :=
  ReadsComponents buf bases fun component base =>
    component.numValues = (currentValues base).length ∧
    ∃ values, Yields (buf.nextValue component) .zero values ∧
      (values.map (·.valueRef)).Perm (currentValues base)

/-- Each component is handed out with the experiments that it does not support, each once. -/
def ReadsExperiments (buf : SettingsBuffer) (bases : List SettingsBase) : Prop :=
  ReadsComponents buf bases fun component base =>
    component.numValues = base.unsupportedExperiments.length ∧
    ∃ experiments, Yields (buf.nextUnsupportedExperiment component) .zero experiments ∧
      (experiments.map (·.hash)).Perm base.unsupportedExperiments

variable {service : SettingsRpcService} {bases : List SettingsBase}
    {HandsOut : SettingsComponent → SettingsBase → Prop}

theorem readsComponents_nil (herror : buf.error ≠ .success) : ReadsComponents buf [] HandsOut :=
  ⟨[], [], .nil (if_neg herror), .nil, .nil⟩

theorem readsComponents_of_records {record : SettingsBase → ComponentRecord} {header : List UInt8}
    (herror : buf.error = .success)
    (h : buf.bytes = header ++ (bases.map record).flatMap (·.encode))
    (hheader : header.length = kAllComponentsHeaderSize)
    (hsizes : ∀ base ∈ bases, (record base).size = (record base).encode.length)
    (hnames : ∀ base ∈ bases, ofBytes (record base).nameField = base.name ∧
      (record base).blobHash = base.settingsBlobHash.toNat)
    (hhands : ∀ base ∈ bases, ∀ offset, ReadsAs buf offset (record base) →
      HandsOut (buf.component offset) base) : ReadsComponents buf bases HandsOut := by
  obtain ⟨components, hcomponents, hall⟩ := yields_components (bases.map record) herror
    (by
      intro r hr
      obtain ⟨base, hbase, rfl⟩ := List.mem_map.mp hr
      exact hsizes base hbase) h hheader
  refine ⟨components, bases, hcomponents, .refl _, ?_⟩
  rw [List.forall₂_map_right_iff] at hall
  refine forall₂_imp_of_mem hall ?_
  rintro component - base hbase ⟨hcomponent, hreads⟩
  refine ⟨?_, ?_, ?_⟩
  · rw [hreads.pName_eq _ rfl, (hnames base hbase).1]
  · rw [hcomponent]
    exact hreads.blobHash_eq.trans (hnames base hbase).2
  · rw [hcomponent]
    exact hhands base hbase component.offset hreads

theorem componentSize_le {component : SettingsComponent} {values : List SettingsValue}
    (herror : buf.error = .success) (h : Yields (buf.nextValue component) .zero values) :
    buf.componentSize component.offset ≤ kComponentHeaderSize +
      ((values.map (·.valueRef)).flatMap encodeRef).length := by
  obtain ⟨ps, rfl, hps⟩ := Yields.of_map (f := valueAt buf component) (y := 0)
    ((followsRecords_values herror).next_recordAt component) h
  have hrecords := (yields_iff_recordsAt (by decide)).mp hps
  have hsum : (((ps.map (valueAt buf component)).map (·.valueRef)).flatMap encodeRef).length =
      (ps.map (valueRecordSize buf component.offset)).sum := by
    rw [List.length_flatMap, List.map_map, List.map_map]
    congr 1
    apply List.map_congr_left
    intro p hp
    have hpos : 0 < p :=
      Nat.lt_of_lt_of_le (Nat.succ_pos 54) (hrecords.forall_le p hp)
    rw [Function.comp_apply, Function.comp_apply, length_encodeRef]
    exact (followsRecords_values herror).length_recordAt component p hpos
  rw [hsum]
  exact hrecords.bound_le

theorem sizes_of_walk (record : SettingsBase → ComponentRecord) (pre : List UInt8) {offset : ℕ}
    {ps : List ℕ} {bases' : List SettingsBase}
    (h : buf.bytes = pre ++ (bases.map record).flatMap (·.encode)) (hpre : pre.length = offset)
    (hnodup : (bases.map (·.name)).Nodup)
    (hnames : ∀ base ∈ bases, ofBytes (record base).nameField = base.name)
    (hps : RecordsAt buf.componentSize buf.size offset ps) (hperm : bases'.Perm bases)
    (hall : List.Forall₂ (fun p base => buf.pName (buf.component p) = base.name ∧
      buf.componentSize p ≤ (record base).encode.length) ps bases') :
    ∀ base ∈ bases, (record base).size = (record base).encode.length := by
  induction bases generalizing pre offset ps bases' with
  | nil => exact fun base hbase => absurd hbase List.not_mem_nil
  | cons base bases ih =>
    rw [List.map_cons, List.flatMap_cons] at h
    have hsize : buf.size = offset + ((record base).encode.length +
        ((bases.map record).flatMap (·.encode)).length) := by
      rw [SettingsBuffer.size, h, List.length_append, List.length_append, hpre]
    have hpos : 0 < (record base).encode.length := by
      rw [ComponentRecord.length_encode]
      exact Nat.add_pos_left (by decide) _
    have hreads := ReadsAs.of_bytes h hpre
    cases hps with
    | done hge => omega
    | @record _ ps hlt hrest =>
      cases hall with
      | @cons _ base' _ bases' hfirst hall =>
        -- the names of the components are distinct, so the first is found first
        have hsame : base' = base := by
          have hname : base'.name = base.name := by
            rw [← hfirst.1, hreads.pName_eq _ rfl, hnames base List.mem_cons_self]
          exact List.inj_on_of_nodup_map hnodup (hperm.mem_iff.mp List.mem_cons_self)
            List.mem_cons_self hname
        subst hsame
        have hperm := List.Perm.cons_inv hperm
        have hbound := hrest.bound_le
        have hsum : (ps.map buf.componentSize).sum ≤
            ((bases.map record).flatMap (·.encode)).length := by
          have hlengths : List.Forall₂ (· ≤ ·) (ps.map buf.componentSize)
              (bases'.map fun base => (record base).encode.length) := by
            rw [List.forall₂_map_left_iff, List.forall₂_map_right_iff]
            exact hall.imp fun _ _ hle => hle.2
          have hperm := (hperm.map fun base => (record base).encode.length).sum_eq
          rw [List.length_flatMap, List.map_map]
          exact hlengths.sum_le_sum.trans (Nat.le_of_eq hperm)
        have hcomponent : buf.componentSize offset = (record base').encode.length := by
          omega
        have hrecord : (record base').size = (record base').encode.length :=
          hreads.componentSize_eq.symm.trans hcomponent
        have hrecords := ih (pre ++ (record base').encode)
          (by rw [h, List.append_assoc]) (by rw [List.length_append, hpre, ← hcomponent])
          (List.nodup_cons.mp hnodup).2 (fun b hb => hnames b (List.mem_cons_of_mem _ hb))
          hrest hperm hall
        exact List.forall_mem_cons.mpr ⟨hrecord, hrecords⟩

def valuesRecord (base : SettingsBase) : ComponentRecord := writtenRecord base base.getAllValues

def experimentsBytes (base : SettingsBase) : List UInt8 :=
  base.unsupportedExperiments.flatMap encodeHash

def experimentsRecord (base : SettingsBase) : ComponentRecord :=
  writtenRecord base ⟨base.unsupportedExperiments.length, experimentsBytes base⟩

def withExperiments (bases : List SettingsBase) : List SettingsBase :=
  bases.filter fun base => base.unsupportedExperiments ≠ []

theorem length_experimentsBytes :
    (experimentsBytes base).length = 4 * base.unsupportedExperiments.length := by
  have hhash : ∀ hash : UInt32, (encodeHash hash).length = 4 := fun _ => length_leBytes _ _
  simp only [experimentsBytes, List.length_flatMap, hhash, List.map_const', List.sum_replicate_nat,
    Nat.mul_comm]

theorem queryAllCurrentValues_eq (service : SettingsRpcService) :
    (service.queryAllCurrentValues .accepting).1 = .success ∧
      (service.queryAllCurrentValues .accepting).2.bytes =
        encodeAllComponentsHeader (service.settingsComponents.length % 2 ^ 16) ++
          (service.settingsComponents.map valuesRecord).flatMap (·.encode) := by
  have h := writeComponents_accepting (fun base => .ok (some base.getAllValues))
    service.settingsComponents (fun base _ => ⟨_, rfl⟩)
    (WrittenBytes.writeBytes .accepting
      (encodeAllComponentsHeader (service.settingsComponents.length % 2 ^ 16)) ⟨0, []⟩).2
  have hrecords : service.settingsComponents.filterMap
      (recordOf fun base => .ok (some base.getAllValues)) =
        service.settingsComponents.map valuesRecord :=
    congrFun (List.filterMap_eq_map (f := valuesRecord)) service.settingsComponents
  rw [hrecords] at h
  exact h

theorem getUnsupportedExperiments_eq
    (hfew : ∀ base ∈ service.settingsComponents, base.unsupportedExperiments.length ≤ 1024) :
    (service.getUnsupportedExperiments .accepting).1 = .success ∧
      (service.getUnsupportedExperiments .accepting).2.bytes =
        encodeAllComponentsHeader (service.settingsComponents.length % 2 ^ 16) ++
          ((withExperiments service.settingsComponents).map experimentsRecord).flatMap
            (·.encode) := by
  have hcontents : ∀ base ∈ service.settingsComponents,
      (do let contents ← base.getUnsupportedExperiments
          return if 0 < contents.numValues then some contents else none :
        Except DDResult (Option ComponentContents)) =
      .ok (if 0 < base.unsupportedExperiments.length then
        some ⟨base.unsupportedExperiments.length, experimentsBytes base⟩ else none) := by
    intro base hbase
    have hcapacity : kNameHashSize * base.unsupportedExperiments.length ≤
        kValuesBufCapacity := Nat.mul_le_mul_left 4 (hfew base hbase)
    rw [getUnsupportedExperiments, if_pos hcapacity]
    rfl
  have h := writeComponents_accepting _ service.settingsComponents
    (fun base hbase => ⟨_, hcontents base hbase⟩)
    (WrittenBytes.writeBytes .accepting
      (encodeAllComponentsHeader (service.settingsComponents.length % 2 ^ 16)) ⟨0, []⟩).2
  have hrecords : service.settingsComponents.filterMap (recordOf fun base => do
      let contents ← base.getUnsupportedExperiments
      return if 0 < contents.numValues then some contents else none) =
        (withExperiments service.settingsComponents).map experimentsRecord := by
    rw [withExperiments, ← List.filterMap_eq_filter, List.map_filterMap]
    apply List.filterMap_congr
    intro base hbase
    rw [recordOf, hcontents base hbase]
    cases hexperiments : base.unsupportedExperiments with
    | nil => simp [Option.guard, hexperiments]
    | cons hash hashes =>
      simp [Option.guard, hexperiments, experimentsRecord]
  rw [hrecords] at h
  exact h

theorem getUnsupportedExperiments_fails {base : SettingsBase}
    (hbase : base ∈ service.settingsComponents) (hmany : 1024 < base.unsupportedExperiments.length)
    (writer : ByteWriter) : (service.getUnsupportedExperiments writer).1 ≠ .success := by
  have hfails : ∀ base : SettingsBase, 1024 < base.unsupportedExperiments.length →
      base.getUnsupportedExperiments = .error .commonInvalidParameter := by
    intro base hmany
    have hcapacity : ¬ kNameHashSize * base.unsupportedExperiments.length ≤
        kValuesBufCapacity := by
      show ¬ 4 * _ ≤ 4 * 1024
      omega
    rw [getUnsupportedExperiments, if_neg hcapacity]
  refine writeComponents_error ⟨base, hbase, .commonInvalidParameter, ?_⟩ ?_ writer _
  · rw [hfails base hmany]
    rfl
  · intro other result hresult
    rw [getUnsupportedExperiments] at hresult
    split at hresult
    · cases hresult
    · cases hresult
      decide

/-! ## Round trips -/

/-- A component fits its encoding: the name, the number of its records and its length have room in
the header. -/
def ComponentFits (base : SettingsBase) (numValues length : ℕ) : Prop :=
  base.name.val.length < kMaxComponentNameSize ∧ numValues < 2 ^ 16 ∧
    kComponentHeaderSize + length < 2 ^ 32

def ValuesFit (service : SettingsRpcService) : Prop :=
  service.settingsComponents.length < 2 ^ 16 ∧ ∀ base ∈ service.settingsComponents,
    ComponentFits base (currentValues base).length (valuesBytes base).length

/-- The counts and sizes of the answer fit the fields of its headers. -/
def ExperimentsFit (service : SettingsRpcService) : Prop :=
  service.settingsComponents.length < 2 ^ 16 ∧
    ∀ base ∈ withExperiments service.settingsComponents,
      ComponentFits base base.unsupportedExperiments.length (experimentsBytes base).length

/-- What fits is read back from the answer, and what does not is refused. -/
def QueryIsExact (fits : Prop) (reads : SettingsBuffer → Prop) (answer : DDResult × WrittenBytes) :
    Prop :=
  (fits → answer.1 = .success ∧ ∀ buf : SettingsBuffer, buf.bytes = answer.2.bytes → reads buf) ∧
    (¬ fits → answer.1 ≠ .success)

/-- The answer with the values holds exactly the values. -/
def ValueQueryIsExact (service : SettingsRpcService) : Prop :=
  QueryIsExact (ValuesFit service) (ReadsValues · service.settingsComponents)
    (service.queryAllCurrentValues .accepting)

/-- The answer with the unsupported experiments holds exactly these. -/
def ExperimentQueryIsExact (service : SettingsRpcService) : Prop :=
  QueryIsExact (ExperimentsFit service)
    (ReadsExperiments · (withExperiments service.settingsComponents))
    (service.getUnsupportedExperiments .accepting)

theorem size_writtenRecord_iff (contents : ComponentContents) :
    (writtenRecord base contents).size = (writtenRecord base contents).encode.length ↔
      kComponentHeaderSize + contents.bytes.length < 2 ^ 16 := by
  have hsize : (writtenRecord base contents).size =
      (contents.bytes.length + kComponentHeaderSize) % 2 ^ 16 := rfl
  have hlength : (writtenRecord base contents).encode.length =
      kComponentHeaderSize + contents.bytes.length := ComponentRecord.length_encode _
  rw [hsize, hlength]
  omega

theorem reads_of_answer (contents : SettingsBase → ComponentContents) {count : ℕ}
    (h : buf.bytes = encodeAllComponentsHeader (count % 2 ^ 16) ++
      (bases.map fun base => writtenRecord base (contents base)).flatMap (·.encode))
    (hcount : count < 2 ^ 16) (hzero : count = 0 → bases = [])
    (hnames : ∀ base ∈ bases, base.name.val.length < kMaxComponentNameSize)
    (hsizes : ∀ base ∈ bases, kComponentHeaderSize + (contents base).bytes.length < 2 ^ 16)
    (hhands : ∀ base ∈ bases, ∀ offset, buf.error = .success →
      ReadsAs buf offset (writtenRecord base (contents base)) →
        HandsOut (buf.component offset) base) : ReadsComponents buf bases HandsOut := by
  rw [Nat.mod_eq_of_lt hcount] at h
  rcases Nat.eq_zero_or_pos count with hcount0 | hpos
  · obtain rfl := hzero hcount0
    subst hcount0
    refine readsComponents_nil ?_
    have hfield : buf.field 2 2 = 0 :=
      field_of_bytes (leBytes 2 1) [] (by rw [h]; rfl) rfl (by decide)
    rw [SettingsBuffer.error, hfield, if_pos rfl, ite_self]
    decide
  · have herror := error_of_header _ h hpos hcount
    exact readsComponents_of_records herror h rfl
      (fun base hbase => (size_writtenRecord_iff _ _).mpr (hsizes base hbase))
      (fun base hbase => ⟨name_writtenRecord (hnames base hbase) _, rfl⟩)
      (fun base hbase offset hreads => hhands base hbase offset herror hreads)

theorem length_currentValues_le : (currentValues base).length ≤ (valuesBytes base).length := by
  have hrecords : ∀ n ∈ (currentValues base).map fun ref => (encodeRef ref).length, 1 ≤ n := by
    intro n hn
    obtain ⟨ref, -, rfl⟩ := List.mem_map.mp hn
    rw [length_encodeRef]
    exact Nat.le_add_right_of_le (by decide)
  have hlength := List.length_le_sum_of_one_le _ hrecords
  rwa [List.length_map, ← List.length_flatMap] at hlength

theorem length_records_le {records : List ComponentRecord} (hcount : records.length < 2 ^ 16)
    (hlengths : ∀ record ∈ records, record.encode.length < 2 ^ 32) :
    4 + (records.flatMap (·.encode)).length ≤ 2 ^ 63 := by
  have hsum : (records.map (·.encode.length)).sum ≤ records.length • 2 ^ 32 := by
    have h := List.sum_le_card_nsmul (records.map (·.encode.length)) (2 ^ 32) (by
      intro n hn
      obtain ⟨record, hrecord, rfl⟩ := List.mem_map.mp hn
      exact Nat.le_of_lt (hlengths record hrecord))
    rwa [List.length_map] at h
  rw [List.length_flatMap]
  have hproduct : records.length • 2 ^ 32 ≤ 2 ^ 16 * 2 ^ 32 :=
    Nat.mul_le_mul_right _ (Nat.le_of_lt hcount)
  omega

/-- The values are told exactly when counts and sizes fit their fields. -/
theorem valueQueryIsExact_iff
    (hterminated : ∀ base ∈ service.settingsComponents, StringsAreTerminated base) :
    ValueQueryIsExact service ↔ service.settingsComponents.length < 2 ^ 16 ∧
      ∀ base ∈ service.settingsComponents, base.name.val.length < kMaxComponentNameSize ∧
        kComponentHeaderSize + (valuesBytes base).length < 2 ^ 16 := by
  obtain ⟨hsuccess, hbytes⟩ := queryAllCurrentValues_eq service
  have hrecord : ∀ base ∈ service.settingsComponents, valuesRecord base =
      writtenRecord base ⟨(currentValues base).length, valuesBytes base⟩ := by
    intro base hbase
    rw [valuesRecord, getAllValues_eq (hterminated base hbase)]
  rw [List.map_congr_left hrecord] at hbytes
  constructor
  · intro hexact
    have hfits : ValuesFit service := by
      by_contra hfits
      exact hexact.2 hfits hsuccess
    refine ⟨hfits.1, fun base hbase => ⟨(hfits.2 base hbase).1, ?_⟩⟩
    generalize hrecords : (service.settingsComponents.map fun base =>
      writtenRecord base ⟨(currentValues base).length, valuesBytes base⟩) = records at hbytes
    have hlength : (encodeAllComponentsHeader (service.settingsComponents.length % 2 ^ 16) ++
        records.flatMap (·.encode)).length ≤ 2 ^ 63 := by
      rw [List.length_append]
      refine length_records_le (by rw [← hrecords, List.length_map]; exact hfits.1) ?_
      intro record hrecord
      obtain ⟨base, hbase, rfl⟩ := List.mem_map.mp (hrecords ▸ hrecord)
      rw [ComponentRecord.length_encode]
      exact (hfits.2 base hbase).2.2
    let buf : SettingsBuffer := ⟨_, fun _ => 0, hlength⟩
    obtain ⟨components, bases, hyields, hperm, hall⟩ := (hexact.1 hfits).2 buf hbytes.symm
    have herror : buf.error = .success := by
      refine error_of_header (records.flatMap (·.encode)) rfl ?_ (Nat.mod_lt _ (by decide))
      rw [Nat.mod_eq_of_lt hfits.1]
      exact List.length_pos_of_mem hbase
    obtain ⟨ps, rfl, hps⟩ := Yields.of_map (f := componentAt buf) (y := 0)
      (nextComponent_componentAt herror) hyields
    have hpositions := (yields_iff_recordsAt (by decide)).mp hps
    rw [List.forall₂_map_left_iff] at hall
    refine (size_writtenRecord_iff base _).mp (sizes_of_walk
      (fun base => writtenRecord base ⟨(currentValues base).length, valuesBytes base⟩)
      (encodeAllComponentsHeader (service.settingsComponents.length % 2 ^ 16))
      (by rw [hrecords]) rfl service.names_nodup
      (fun base hbase => name_writtenRecord (hfits.2 base hbase).1 _) hpositions hperm
      (forall₂_imp_of_mem hall ?_) base hbase)
    rintro p hp base - ⟨hname, -, -, values, hvalues, hrefs⟩
    have hat : componentAt buf p = buf.component p :=
      if_neg (Nat.ne_of_gt (Nat.lt_of_lt_of_le (by decide) (hpositions.forall_le p hp)))
    rw [hat] at hname hvalues
    refine ⟨hname, (componentSize_le herror hvalues).trans (Nat.le_of_eq ?_)⟩
    rw [ComponentRecord.length_encode, (hrefs.flatMap_right encodeRef).length_eq]
    rfl
  · rintro ⟨hcount, hall⟩
    refine ⟨fun _ => ⟨hsuccess, ?_⟩, fun hfits => absurd ?_ hfits⟩
    · intro buf h
      refine reads_of_answer _ (h.trans hbytes) hcount List.length_eq_zero_iff.mp
        (fun base hbase => (hall base hbase).1) (fun base hbase => (hall base hbase).2) ?_
      intro base hbase offset herror hreads
      obtain ⟨pre, post, hbody, hpre⟩ := hreads.body_eq
      have hsize := hreads.componentSize_eq.trans
        ((size_writtenRecord_iff base _).mpr (hall base hbase).2)
      obtain ⟨values, hvalues, hrefs⟩ := yields_values (buf.component offset)
        (currentValues base) herror hbody hpre (hsize.trans (ComponentRecord.length_encode _))
      refine ⟨hreads.numValues_eq.trans (Nat.mod_eq_of_lt ?_), values, hvalues, ?_⟩
      · have := length_currentValues_le base
        have := (hall base hbase).2
        show (currentValues base).length < _
        omega
      · rw [hrefs]
    · refine ⟨hcount, fun base hbase => ⟨(hall base hbase).1, ?_, ?_⟩⟩
      · have := length_currentValues_le base
        have := (hall base hbase).2
        omega
      · exact (hall base hbase).2.trans (by decide)

theorem experimentQueryIsExact_iff (service : SettingsRpcService) :
    ExperimentQueryIsExact service ↔ (ExperimentsFit service ↔
      ∀ base ∈ service.settingsComponents, base.unsupportedExperiments.length ≤ 1024) := by
  by_cases hfew : ∀ base ∈ service.settingsComponents, base.unsupportedExperiments.length ≤ 1024
  · obtain ⟨hsuccess, hbytes⟩ := getUnsupportedExperiments_eq hfew
    constructor
    · intro hexact
      refine iff_of_true ?_ hfew
      by_contra hfits
      exact hexact.2 hfits hsuccess
    · intro hiff
      have hfits := hiff.mpr hfew
      refine ⟨fun _ => ⟨hsuccess, ?_⟩, fun hnot => absurd hfits hnot⟩
      intro buf h
      have hsize : ∀ base ∈ withExperiments service.settingsComponents,
          kComponentHeaderSize + (experimentsBytes base).length < 2 ^ 16 := by
        intro base hbase
        have := hfew base (List.mem_of_mem_filter hbase)
        rw [length_experimentsBytes, kComponentHeaderSize, kMaxComponentNameSize]
        omega
      refine reads_of_answer (fun base =>
          ⟨base.unsupportedExperiments.length, experimentsBytes base⟩) (h.trans hbytes) hfits.1 ?_
        (fun base hbase => (hfits.2 base hbase).1) hsize ?_
      · intro hzero
        rw [List.length_eq_zero_iff.mp hzero]
        rfl
      · intro base hbase offset herror hreads
        obtain ⟨pre, post, hbody, hpre⟩ := hreads.body_eq
        have hannounced := hreads.componentSize_eq.trans
          ((size_writtenRecord_iff base _).mpr (hsize base hbase))
        obtain ⟨experiments, hexperiments, hhashes⟩ := yields_experiments
          (buf.component offset) base.unsupportedExperiments herror hbody hpre
          (hannounced.trans (ComponentRecord.length_encode _))
        refine ⟨hreads.numValues_eq.trans (Nat.mod_eq_of_lt (hfits.2 base hbase).2.1),
          experiments, hexperiments, ?_⟩
        rw [hhashes]
  · have hfails : (service.getUnsupportedExperiments .accepting).1 ≠ .success := by
      obtain ⟨base, hbase, hmany⟩ := not_forall₂.mp hfew
      exact getUnsupportedExperiments_fails hbase (Nat.lt_of_not_le hmany) .accepting
    constructor
    · intro hexact
      refine iff_of_false ?_ hfew
      intro hfits
      exact hfails (hexact.1 hfits).1
    · intro hiff
      have hnot : ¬ ExperimentsFit service := mt hiff.mp hfew
      exact ⟨fun hfits => absurd hfits hnot, fun _ => hfails⟩

/-- Settings queries are exact exactly when no component is as long as 64 KiB, the names and the
number of components have room in the headers, and no component has more than 1024 experiments
unless these do not fit the encoding. -/
theorem settings_query_round_trip_iff (service : SettingsRpcService)
    (hterminated : ∀ base ∈ service.settingsComponents, StringsAreTerminated base) :
    ValueQueryIsExact service ∧ ExperimentQueryIsExact service ↔
      (service.settingsComponents.length < 2 ^ 16 ∧
        ∀ base ∈ service.settingsComponents, base.name.val.length < kMaxComponentNameSize ∧
          kComponentHeaderSize + (valuesBytes base).length < 2 ^ 16) ∧
      (ExperimentsFit service ↔
        ∀ base ∈ service.settingsComponents, base.unsupportedExperiments.length ≤ 1024) :=
  and_congr (valueQueryIsExact_iff hterminated) (experimentQueryIsExact_iff service)

def shortComponent : SettingsBase where
  name := ⟨[67], by decide⟩
  settingsBlobHash := 7
  settingsMap := ((AList.singleton 1 (.plain .uint16 ⟨[5, 0], rfl⟩)).insert 2
    (.optional .bool none)).insert 3 (.string ⟨[97, 98, 0, 0], by decide⟩ 0)
  unsupportedExperiments := [9]

def shortService : SettingsRpcService where
  settingsComponents := [shortComponent]
  names_nodup := List.nodup_singleton _
  allUserOverrides := ∅

theorem settings_query_round_trip_shortService :
    ValueQueryIsExact shortService ∧ ExperimentQueryIsExact shortService := by
  have hterminated : ∀ base ∈ shortService.settingsComponents, StringsAreTerminated base := by
    intro base hbase
    obtain rfl := List.mem_singleton.mp hbase
    simp [StringsAreTerminated, shortComponent, IsTerminated]
  have hlengths : shortComponent.name.val.length < kMaxComponentNameSize ∧
      kComponentHeaderSize + (valuesBytes shortComponent).length < 2 ^ 16 := by decide
  have hexperiments : ComponentFits shortComponent shortComponent.unsupportedExperiments.length
      (experimentsBytes shortComponent).length := by
    refine ⟨?_, ?_, ?_⟩ <;> decide
  refine (settings_query_round_trip_iff shortService hterminated).mpr ⟨⟨by decide, ?_⟩, ?_⟩
  · exact List.forall_mem_singleton.mpr hlengths
  · refine iff_of_true ⟨by decide, ?_⟩ (List.forall_mem_singleton.mpr (by decide))
    exact List.forall_mem_singleton.mpr hexperiments

def longString : Setting :=
  .string ⟨List.replicate 65534 1 ++ 0 :: [], by
    rw [List.length_append, List.length_replicate]
    decide⟩ 0

def longComponent : SettingsBase where
  name := ⟨[], List.not_mem_nil⟩
  settingsBlobHash := 0
  settingsMap := AList.singleton 0 longString
  unsupportedExperiments := []

def longService : SettingsRpcService where
  settingsComponents := [longComponent]
  names_nodup := List.nodup_singleton _
  allUserOverrides := ∅

theorem longService_terminated :
    ∀ base ∈ longService.settingsComponents, StringsAreTerminated base := by
  intro base hbase
  obtain rfl := List.mem_singleton.mp hbase
  intro entry hentry
  obtain rfl := List.mem_singleton.mp hentry
  exact List.mem_append_right _ List.mem_cons_self

theorem length_valuesBytes_longComponent : (valuesBytes longComponent).length = 65542 := by
  have hchars : 0 ∉ List.replicate 65534 (1 : UInt8) := by
    rw [List.mem_replicate]
    decide
  obtain ⟨ref, href, hvalue⟩ : ∃ ref, currentValue 0 longString = some ref ∧
      ref.value = List.replicate 65534 1 ++ 0 :: [] :=
    currentValue_string 0 ⟨List.replicate 65534 1, hchars⟩
      (List.ne_nil_of_length_pos (by rw [List.length_replicate]; decide)) rfl 0
  have hvalues : currentValues longComponent = [ref] := by
    show (match currentValue 0 longString with
      | none => []
      | some value => value :: []) = _
    rw [href]
  rw [valuesBytes, hvalues, List.flatMap_cons, List.flatMap_nil, List.append_nil, length_encodeRef,
    hvalue, List.length_append, List.length_replicate]
  rfl

/-- The values of a component of 65597 bytes are not read back. -/
theorem settings_query_round_trip_fails :
    ¬ (ValueQueryIsExact longService ∧ ExperimentQueryIsExact longService) := by
  rintro ⟨hexact, -⟩
  have hsize := ((valueQueryIsExact_iff longService_terminated).mp hexact).2 longComponent
    List.mem_cons_self
  rw [length_valuesBytes_longComponent] at hsize
  exact absurd hsize.2 (by decide)

end SettingsQuery

end DevDriver.Analysis
