import DevDriver.Analysis.SettingsOverrides
import DevDriver.Analysis.SettingsQuery

/-!
# Setting one value

`SetValue` compares the type of a value and checks that the setting is no smaller than the value.
-/

namespace DevDriver.Analysis

open Library Model SettingsBase CString

namespace SettingsValues

open SettingsWalk SettingsRecords SettingsQuery SettingsOverrides

def emittedBytes (entries : List (Σ _ : UInt32, Setting)) : List UInt8 :=
  (entries.filterMap fun entry => encodeSetting entry.1 entry.2).flatten

def recordedBytes (src : SettingsValueRef) : List UInt8 :=
  if src.type = kSettingsTypeString then (ofBytes src.value).val ++ [0] else src.value

/-- A setting is equal to a value; a string is when its array holds it with a terminator. -/
def HasValue (value : List UInt8) : Setting → Prop
  | .plain _ current => current.val = value
  | .optional _ current => current.map (·.val) = some value
  | .string array _ => 0 ∈ array.val ∧ ofBytes array.val = ofBytes value

/-- A component with exactly the named setting changed, to the value, which is then its record. -/
structure ValueSet (src : SettingsValueRef) (base base' : SettingsBase)
    (front back : List (Σ _ : UInt32, Setting)) (old new : Setting) : Prop where
  name_eq : base'.name = base.name
  settingsBlobHash_eq : base'.settingsBlobHash = base.settingsBlobHash
  unsupportedExperiments_eq : base'.unsupportedExperiments = base.unsupportedExperiments
  before : base.settingsMap.entries = front ++ ⟨src.hash, old⟩ :: back
  after : base'.settingsMap.entries = front ++ ⟨src.hash, new⟩ :: back
  value : HasValue src.value new
  emitted : base'.getAllValues.bytes =
    emittedBytes front ++ encodeValue src.hash src.type (recordedBytes src) ++ emittedBytes back

/-- `SetValue` does all or nothing, whatever lies behind the value. -/
structure SetsCompletely (base : SettingsBase) (src : SettingsValueRef) : Prop where
  reads : ∀ beyond beyond', base.setValue src beyond = base.setValue src beyond'
  failed : ∀ beyond, (base.setValue src beyond).1 ≠ .success → (base.setValue src beyond).2 = base
  succeeded : ∀ beyond, (base.setValue src beyond).1 = .success →
    ∃ front back old new, ValueSet src base (base.setValue src beyond).2 front back old new

/-- A number has the size of its type.  A string is not empty, and has a terminator or ends where
the array has one. -/
def Fits (value : List UInt8) : Setting → Prop
  | .plain type _ | .optional type _ => value.length = type.size
  | .string array _ => (ofBytes value).val ≠ [] ∧
      (0 ∈ value ∨ array.val[value.length]? = some 0)

/-- The checks of `SetValue` let the value through to a setting. -/
structure Accepts (base : SettingsBase) (src : SettingsValueRef) (setting : Setting) : Prop where
  found : base.settingsMap.lookup src.hash = some setting
  type_eq : setting.type = src.type
  size_le : src.value.length ≤ setting.size

/-- A value that is accepted fits the setting it is for. -/
def AcceptedFits (base : SettingsBase) (src : SettingsValueRef) : Prop :=
  ∀ setting, Accepts base src setting → Fits src.value setting

variable {base : SettingsBase} {src : SettingsValueRef} {setting : Setting}

theorem setValue_of_accepts (h : Accepts base src setting) (beyond : ℕ → UInt8) :
    base.setValue src beyond = (.success, { base with
      settingsMap :=
        base.settingsMap.replace src.hash (setting.setValueHelper src.value beyond) }) := by
  rw [setValue, h.found]
  simp only [h.type_eq, h.size_le, if_true]

theorem setValue_of_rejects (h : ∀ setting, ¬Accepts base src setting) :
    ∃ result, result ≠ .success ∧ ∀ beyond, base.setValue src beyond = (result, base) := by
  unfold setValue
  cases hfound : base.settingsMap.lookup src.hash with
  | none => exact ⟨_, (by decide), fun _ => rfl⟩
  | some setting =>
    by_cases htype : setting.type = src.type
    · have hsize : ¬src.value.length ≤ setting.size := fun hsize => h setting ⟨hfound, htype, hsize⟩
      simp only [htype, hsize, if_true, if_false]
      exact ⟨_, (by decide), fun _ => rfl⟩
    · simp only [htype, if_false]
      exact ⟨_, (by decide), fun _ => rfl⟩

theorem ofBytes_val (bytes : List UInt8) :
    (ofBytes bytes).val = bytes.takeWhile (· ≠ 0) := rfl

theorem string_append_iff (value rest : List UInt8) :
    (0 ∈ value ++ rest ∧ ofBytes (value ++ rest) = ofBytes value) ↔
      0 ∈ value ∨ rest.head? = some 0 := by
  rw [← Subtype.val_inj, ofBytes_val, ofBytes_val]
  induction value with
  | nil =>
    cases rest with
    | nil => simp
    | cons c rest => by_cases hc : c = 0 <;> simp [hc]
  | cons c value ih =>
    by_cases hc : c = 0
    · simp [hc]
    · have hc' : ¬0 = c := fun h => hc h.symm
      simpa [hc, hc'] using ih

theorem take_terminated {chars : List UInt8} (h : 0 ∈ chars) :
    chars.take ((ofBytes chars).val.length + 1) = (ofBytes chars).val ++ [0] := by
  rw [ofBytes_val]
  induction chars with
  | nil => cases h
  | cons c chars ih =>
    by_cases hc : c = 0
    · simp [hc]
    · have hmem : 0 ∈ chars := (List.mem_cons.mp h).resolve_left (Ne.symm hc)
      simpa [hc] using ih hmem

theorem hasValue_memcpy_iff (array : CharArray) {value : List UInt8}
    (h : value.length ≤ array.val.length) (behind : UInt8) :
    HasValue value (.string (Setting.memcpy array value) behind) ↔
      0 ∈ value ∨ array.val[value.length]? = some 0 := by
  have hval : (Setting.memcpy array value).val = value ++ array.val.drop value.length :=
    congrArg (· ++ _) (List.take_of_length_le h)
  rw [HasValue, hval, string_append_iff, List.head?_drop]

theorem emittedBytes_append (front back : List (Σ _ : UInt32, Setting)) :
    emittedBytes (front ++ back) = emittedBytes front ++ emittedBytes back := by
  simp [emittedBytes]

theorem emittedBytes_cons (entry : Σ _ : UInt32, Setting) (back : List (Σ _ : UInt32, Setting)) :
    emittedBytes (entry :: back) =
      (encodeSetting entry.1 entry.2).getD [] ++ emittedBytes back := by
  rw [emittedBytes, List.filterMap_cons]
  cases encodeSetting entry.1 entry.2 <;> rfl

theorem encodeSetting_of_hasValue (h : HasValue src.value setting)
    (htype : setting.type = src.type) :
    encodeSetting src.hash setting =
      if src.type = kSettingsTypeString ∧ (ofBytes src.value).val = [] then none
      else some (encodeValue src.hash src.type (recordedBytes src)) := by
  have hscalar : ∀ type : ScalarType, type.toCode ≠ kSettingsTypeString := by
    intro type
    cases type <;> decide
  unfold recordedBytes
  cases setting with
  | plain type current =>
    have hne : src.type ≠ kSettingsTypeString := htype ▸ hscalar type
    rw [if_neg fun h => hne h.1, if_neg hne, ← htype, ← h]
    rfl
  | optional type current =>
    have hne : src.type ≠ kSettingsTypeString := htype ▸ hscalar type
    rw [if_neg fun h => hne h.1, if_neg hne, ← htype, encodeSetting,
      Setting.currentBytes, h]
    rfl
  | string array behind =>
    have htype' : src.type = kSettingsTypeString := htype.symm
    have hterminated : IsTerminated (.string array behind) := h.1
    rw [encodeSetting_eq hterminated, currentValue, ← h.2, htype']
    split
    · rename_i hempty
      rw [if_pos ⟨rfl, hempty⟩]
      rfl
    · rename_i hempty
      rw [if_neg fun h => hempty h.2, if_pos rfl, ← take_terminated h.1]
      rfl

theorem encodeValue_ne_nil (hash : UInt32) (type : UInt8) (value : List UInt8) :
    encodeValue hash type value ≠ [] := by
  unfold encodeValue
  simp

/-! ## A value that is let through -/

theorem type_setValueHelper (setting : Setting) (value : List UInt8) (beyond : ℕ → UInt8) :
    (setting.setValueHelper value beyond).type = setting.type := by
  cases setting <;> rfl

theorem setValueHelper_congr (h : Fits src.value setting) (beyond beyond' : ℕ → UInt8) :
    setting.setValueHelper src.value beyond = setting.setValueHelper src.value beyond' := by
  cases setting with
  | plain type current =>
    apply congrArg (Setting.plain type)
    exact Subtype.ext ((scalar_eq h beyond).trans (scalar_eq h beyond').symm)
  | optional type current =>
    apply congrArg fun value => Setting.optional type (some value)
    exact Subtype.ext ((scalar_eq h beyond).trans (scalar_eq h beyond').symm)
  | string array behind => rfl

theorem hasValue_setValueHelper_iff (hsize : src.value.length ≤ setting.size)
    (beyond : ℕ → UInt8) :
    Fits src.value setting ↔ HasValue src.value (setting.setValueHelper src.value beyond) ∧
      ¬(setting.type = kSettingsTypeString ∧ (ofBytes src.value).val = []) := by
  have hscalar : ∀ type : ScalarType, type.toCode ≠ kSettingsTypeString := by
    intro type
    cases type <;> decide
  have hlength : ∀ type : ScalarType, src.value.length = type.size ↔
      (Setting.scalar type src.value beyond).val = src.value := by
    intro type
    constructor
    · intro h
      exact scalar_eq h beyond
    · intro h
      rw [← (Setting.scalar type src.value beyond).property, h]
  cases setting with
  | plain type current =>
    apply (hlength type).trans
    simp [HasValue, Setting.setValueHelper, Setting.type, hscalar type]
  | optional type current =>
    apply (hlength type).trans
    simp [HasValue, Setting.setValueHelper, Setting.type, hscalar type]
  | string array behind =>
    have h := hasValue_memcpy_iff array hsize behind
    rw [Setting.setValueHelper, h, Fits, and_comm]
    simp [Setting.type]

theorem entries_replace {t : Table UInt32 Setting} {hash : UInt32} {old : Setting}
    (h : t.lookup hash = some old) (new : Setting) :
    ∃ front back, t.entries = front ++ ⟨hash, old⟩ :: back ∧
      (t.replace hash new).entries = front ++ ⟨hash, new⟩ :: back := by
  show ∃ front back, t.entries = _ ∧ t.entries.kreplace hash new = _
  have h' : t.entries.dlookup hash = some old := h
  generalize t.entries = entries at h'
  induction entries with
  | nil => cases h'
  | cons entry entries ih =>
    by_cases hhash : hash = entry.1
    · obtain ⟨hash', setting⟩ := entry
      cases hhash
      rw [List.dlookup_cons_eq] at h'
      obtain rfl := Option.some.inj h'
      exact ⟨[], entries, rfl, List.lookmap_cons_some _ _ (if_pos rfl)⟩
    · rw [List.dlookup_cons_ne _ _ hhash] at h'
      obtain ⟨front, back, hbefore, hafter⟩ := ih h'
      refine ⟨entry :: front, back, congrArg _ hbefore, ?_⟩
      rw [List.cons_append, ← hafter]
      exact List.lookmap_cons_none _ _ (if_neg hhash)

theorem ValueSet.new_eq {front back : List (Σ _ : UInt32, Setting)} {old new : Setting}
    {beyond : ℕ → UInt8} (h : Accepts base src setting)
    (hset : ValueSet src base (base.setValue src beyond).2 front back old new) :
    new = setting.setValueHelper src.value beyond := by
  have hmem : src.hash ∈ base.settingsMap := AList.lookup_isSome.mp (by rw [h.found]; rfl)
  have hlookup := lookup_replace hmem (setting.setValueHelper src.value beyond)
  have hnew : new ∈ (base.setValue src beyond).2.settingsMap.lookup src.hash := by
    rw [AList.mem_lookup_iff, hset.after]
    exact List.mem_append_right _ List.mem_cons_self
  rw [setValue_of_accepts h] at hnew
  exact Option.some.inj (hnew.symm.trans hlookup)

theorem setsCompletely_of_accepts (h : Accepts base src setting) :
    SetsCompletely base src ↔ Fits src.value setting := by
  have hne : ∀ beyond, ¬(base.setValue src beyond).1 ≠ .success := by
    intro beyond hne
    rw [setValue_of_accepts h] at hne
    exact hne rfl
  have htype : ∀ beyond, (setting.setValueHelper src.value beyond).type = src.type := by
    intro beyond
    rw [type_setValueHelper, h.type_eq]
  constructor
  · intro hsets
    have hsuccess : (base.setValue src fun _ => 0).1 = .success := not_not.mp (hne _)
    obtain ⟨front, back, old, new, hset⟩ := hsets.succeeded _ hsuccess
    have hnew := hset.new_eq h
    have hvalue := hset.value
    have hemitted := hset.emitted
    show Fits _ _
    rw [hnew] at hvalue
    refine (hasValue_setValueHelper_iff h.size_le _).mpr ⟨hvalue, ?_⟩
    rintro hempty
    -- the setting has no record, where its value has one
    have hnone := encodeSetting_of_hasValue hvalue (htype _)
    rw [← h.type_eq, if_pos hempty] at hnone
    have hbytes : (base.setValue src fun _ => 0).2.getAllValues.bytes =
        emittedBytes (front ++ ⟨src.hash, new⟩ :: back) := by
      rw [← hset.after]
      rfl
    rw [hbytes, emittedBytes_append, emittedBytes_cons, hnew, hnone, List.append_assoc] at hemitted
    have hnil := List.append_cancel_right (List.append_cancel_left hemitted)
    exact encodeValue_ne_nil _ _ _ hnil.symm
  · intro hfits
    refine ⟨?_, fun beyond hfail => absurd hfail (hne beyond), ?_⟩
    · intro beyond beyond'
      rw [setValue_of_accepts h, setValue_of_accepts h, setValueHelper_congr hfits beyond beyond']
    · intro beyond _
      obtain ⟨hvalue, hempty⟩ := (hasValue_setValueHelper_iff h.size_le beyond).mp hfits
      have hrecord := encodeSetting_of_hasValue hvalue (htype beyond)
      rw [← h.type_eq, if_neg hempty, h.type_eq] at hrecord
      obtain ⟨front, back, hbefore, hafter⟩ :=
        entries_replace h.found (setting.setValueHelper src.value beyond)
      rw [setValue_of_accepts h]
      refine ⟨front, back, setting, _, rfl, rfl, rfl, hbefore, hafter, hvalue, ?_⟩
      show emittedBytes (base.settingsMap.replace _ _).entries = _
      rw [hafter, emittedBytes_append, emittedBytes_cons, hrecord, List.append_assoc]
      rfl

def helloComponent : SettingsBase where
  name := ⟨[65], fun h => absurd h (by decide)⟩
  settingsBlobHash := 0
  settingsMap := AList.singleton 1 (.string ⟨[104, 101, 108, 108, 111, 0], by decide⟩ 0)
  unsupportedExperiments := []

def unterminatedValue : SettingsValueRef := ⟨1, kSettingsTypeString, [97, 98], by decide⟩

end SettingsValues

end DevDriver.Analysis
