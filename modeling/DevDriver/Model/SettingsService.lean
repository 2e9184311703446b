import DevDriver.Library.Table
import DevDriver.Model.Settings
import Mathlib.Data.List.TakeWhile

/-!
# The settings service

The two ends of the settings buffers.
-/

namespace DevDriver.Model

open Library

/-- A C string, without the terminator. -/
abbrev CString : Type := { s : List UInt8 // 0 ∉ s }

def CString.ofBytes (bytes : List UInt8) : CString :=
  ⟨bytes.takeWhile (· ≠ 0), fun h => by simpa using List.mem_takeWhile_imp h⟩

/-- `DD_SETTINGS_TYPE` but for the strings. -/
inductive ScalarType where
  | bool
  | int8
  | uint8
  | int16
  | uint16
  | int32
  | uint32
  | int64
  | uint64
  | float
  deriving DecidableEq, Repr

namespace ScalarType

def toCode : ScalarType → UInt8
  | .bool => 0
  | .int8 => 1
  | .uint8 => 2
  | .int16 => 3
  | .uint16 => 4
  | .int32 => 5
  | .uint32 => 6
  | .int64 => 7
  | .uint64 => 8
  | .float => 9

/-- `sizeof(T)`. -/
def size : ScalarType → ℕ
  | .bool | .int8 | .uint8 => 1
  | .int16 | .uint16 => 2
  | .int32 | .uint32 | .float => 4
  | .int64 | .uint64 => 8

abbrev Value (type : ScalarType) : Type := { bytes : List UInt8 // bytes.length = type.size }

end ScalarType

/-- `DD_SETTINGS_TYPE_STRING`. -/
def kSettingsTypeString : UInt8 := 10

abbrev CharArray : Type := { chars : List UInt8 // 0 < chars.length ∧ chars.length < 2 ^ 16 }

/-- What an entry of `m_settingsMap` refers to.  Behind the array of a string there is a byte, which
is read when the array has no terminator.  Optional strings are handled as strings. -/
inductive Setting where
  | plain (type : ScalarType) (value : type.Value)
  | optional (type : ScalarType) (value : Option type.Value)
  | string (array : CharArray) (behind : UInt8)
  deriving DecidableEq

namespace Setting

/-- `type` of the value reference. -/
def type : Setting → UInt8
  | .plain type _ | .optional type _ => type.toCode
  | .string _ _ => kSettingsTypeString

/-- `size` of the value reference. -/
def size : Setting → ℕ
  | .plain type _ | .optional type _ => type.size
  | .string array _ => array.val.length

/-- `sizeof(T)` bytes from the start of a source value on, however many bytes it has. -/
def scalar (type : ScalarType) (src : List UInt8) (beyond : ℕ → UInt8) : type.Value :=
  ⟨(List.range type.size).map fun i => src.getD i (beyond i), by simp⟩

/-- `Memcpy_s` into an array. -/
def memcpy (array : CharArray) (src : List UInt8) : CharArray :=
  ⟨src.take array.val.length ++ array.val.drop src.length, by
    have := array.property
    rw [List.length_append, List.length_take, List.length_drop]
    omega⟩

/-- `SetValueHelper`, with what lies behind the source value.
dd_settings_base.cpp:28-69 -/
def setValueHelper (src : List UInt8) (beyond : ℕ → UInt8) : Setting → Setting
  | .plain type _ => .plain type (scalar type src beyond)
  | .optional type _ => .optional type (some (scalar type src beyond))
  | .string array behind => .string (memcpy array src) behind

/-- The bytes that `GetAllValues` writes for a setting, when it has a value.
dd_settings_base.cpp:190-231 -/
def currentBytes : Setting → Option (List UInt8)
  | .plain _ value => some value.val
  | .optional _ value => value.map (·.val)
  | .string array behind =>
    if array.val.head? = some 0 then none
    else
      some ((array.val ++ [behind]).take (((array.val.takeWhile (· ≠ 0)).length + 1) % 2 ^ 16))

end Setting

/-- A settings component. -/
structure SettingsBase where
  name : CString
  settingsBlobHash : UInt64
  settingsMap : Table UInt32 Setting
  unsupportedExperiments : List UInt32

structure ComponentContents where
  numValues : ℕ
  bytes : List UInt8

def encodeValue (hash : UInt32) (type : UInt8) (value : List UInt8) : List UInt8 :=
  leBytes 4 hash.toNat ++ type :: (leBytes 2 value.length ++ value)

def encodeComponentHeader (name : List UInt8) (blobHash numValues size : ℕ) : List UInt8 :=
  name ++ leBytes 8 blobHash ++ leBytes 2 numValues ++ leBytes 4 size

/-- A `DDSettingsAllComponentsHeader` of version 1. -/
def encodeAllComponentsHeader (numComponents : ℕ) : List UInt8 :=
  leBytes 2 1 ++ leBytes 2 numComponents

namespace SettingsBase

/-- dd_settings_base.cpp:94-129 -/
def setValue (src : SettingsValueRef) (beyond : ℕ → UInt8) (base : SettingsBase) :
    DDResult × SettingsBase :=
  match base.settingsMap.lookup src.hash with
  | none => (.settingsNotFound, base)
  | some dest =>
    if dest.type = src.type then
      if src.value.length ≤ dest.size then
        (.success, { base with
          settingsMap := base.settingsMap.replace src.hash (dest.setValueHelper src.value beyond) })
      else (.commonBufferTooSmall, base)
    else (.settingsTypeMismatch, base)

def encodeSetting (hash : UInt32) (setting : Setting) : Option (List UInt8) :=
  setting.currentBytes.map (encodeValue hash setting.type)

def getAllValues (base : SettingsBase) : ComponentContents :=
  let records := base.settingsMap.entries.filterMap fun entry => encodeSetting entry.1 entry.2
  ⟨records.length, records.flatten⟩

def kValuesBufCapacity : ℕ := 4 * 1024

def getUnsupportedExperiments (base : SettingsBase) : Except DDResult ComponentContents :=
  if kNameHashSize * base.unsupportedExperiments.length ≤ kValuesBufCapacity then
    .ok ⟨base.unsupportedExperiments.length,
      base.unsupportedExperiments.flatMap fun hash => leBytes 4 hash.toNat⟩
  else .error .commonInvalidParameter

/-- The header that the service writes for a component.
dd_settings_service.cpp:189-207 -/
def componentHeader (base : SettingsBase) (contents : ComponentContents) : List UInt8 :=
  let name := base.name.val.take (kMaxComponentNameSize - 1)
  encodeComponentHeader (name ++ List.replicate (kMaxComponentNameSize - name.length) 0)
    base.settingsBlobHash.toNat (contents.numValues % 2 ^ 16)
    ((contents.bytes.length + kComponentHeaderSize) % 2 ^ 16)

end SettingsBase

/-- `DDByteWriter`: its answer to the calls of `pfnWriteBytes`, in turn. -/
abbrev ByteWriter : Type := ℕ → DDResult

def ByteWriter.accepting : ByteWriter := fun _ => .success

structure WrittenBytes where
  calls : ℕ
  bytes : List UInt8

/-- `pfnWriteBytes`. -/
def WrittenBytes.writeBytes (writer : ByteWriter) (data : List UInt8) (w : WrittenBytes) :
    DDResult × WrittenBytes :=
  (writer w.calls,
    ⟨w.calls + 1, if writer w.calls = .success then w.bytes ++ data else w.bytes⟩)

/-! ## The service -/

/-- The components under their names, and the overrides of the user under the
names of the components that they are for. -/
structure SettingsRpcService where
  settingsComponents : List SettingsBase
  names_nodup : (settingsComponents.map (·.name)).Nodup
  allUserOverrides : Table CString (List SettingsValueRef)

namespace SettingsRpcService

/-- The loop of `QueryAllCurrentValues` and of `GetUnsupportedExperiments` over the components: a
component has its contents, has none, or refuses. -/
def writeComponents (writer : ByteWriter)
    (contentsOf : SettingsBase → Except DDResult (Option ComponentContents)) :
    List SettingsBase → WrittenBytes → DDResult × WrittenBytes
  | [], w => (.success, w)
  | base :: bases, w =>
    match contentsOf base with
    | .error result => (result, w)
    | .ok none => writeComponents writer contentsOf bases w
    | .ok (some contents) =>
      let header := w.writeBytes writer (base.componentHeader contents)
      if header.1 = .success then
        if contents.bytes = [] then writeComponents writer contentsOf bases header.2
        else
          let values := header.2.writeBytes writer contents.bytes
          if values.1 = .success then writeComponents writer contentsOf bases values.2
          else values
      else header

/-- The components behind the header of the buffer, the writing of which is not checked. -/
def writeAll (writer : ByteWriter)
    (contentsOf : SettingsBase → Except DDResult (Option ComponentContents))
    (service : SettingsRpcService) : DDResult × WrittenBytes :=
  let header := encodeAllComponentsHeader (service.settingsComponents.length % 2 ^ 16)
  writeComponents writer contentsOf service.settingsComponents
    (WrittenBytes.writeBytes writer header ⟨0, []⟩).2

def queryAllCurrentValues (writer : ByteWriter) (service : SettingsRpcService) :
    DDResult × WrittenBytes :=
  service.writeAll writer fun base => .ok (some base.getAllValues)

/-- A component without any is left out.
dd_settings_service.cpp:224-283 -/
def getUnsupportedExperiments (writer : ByteWriter) (service : SettingsRpcService) :
    DDResult × WrittenBytes :=
  service.writeAll writer fun base => do
    let contents ← base.getUnsupportedExperiments
    return if 0 < contents.numValues then some contents else none

/-- `ApplyComponentUserOverrides`, with what lies behind each override in its buffer: the result of
`SetValue` is dropped.
dd_settings_service.cpp:54-73 -/
def applyComponentUserOverrides (beyond : ℕ → ℕ → UInt8) (overrides : List SettingsValueRef)
    (base : SettingsBase) : SettingsBase :=
  overrides.zipIdx.foldl (fun base entry => (base.setValue entry.1 (beyond entry.2)).2) base

def overridesFor (service : SettingsRpcService) (name : CString) : List SettingsValueRef :=
  (service.allUserOverrides.lookup name).getD []

/-- `m_settingsComponents.Insert`: a component takes the place of the one of its name. -/
def insertComponent (base : SettingsBase) (bases : List SettingsBase) : List SettingsBase :=
  if base.name ∈ bases.map (·.name) then
    bases.map fun other => if other.name = base.name then base else other
  else bases ++ [base]

theorem insertComponent_nodup {base : SettingsBase} {bases : List SettingsBase}
    (h : (bases.map (·.name)).Nodup) : ((insertComponent base bases).map (·.name)).Nodup := by
  rw [insertComponent]
  split
  · rename_i hmem
    have hnames : (bases.map fun other => if other.name = base.name then base else other).map
        (·.name) = bases.map (·.name) := by
      rw [List.map_map]
      apply List.map_congr_left
      intro other _
      show (if other.name = base.name then base else other).name = other.name
      split
      · rename_i heq
        exact heq.symm
      · rfl
    rwa [hnames]
  · rename_i hmem
    rw [List.map_append, List.nodup_append]
    refine ⟨h, List.nodup_singleton _, ?_⟩
    intro a ha b hb heq
    obtain rfl := List.mem_singleton.mp hb
    rw [heq] at ha
    exact hmem ha

def registerSettingsComponent (beyond : ℕ → ℕ → UInt8) (base : SettingsBase)
    (service : SettingsRpcService) : SettingsRpcService :=
  { service with
    settingsComponents := insertComponent
      (applyComponentUserOverrides beyond (service.overridesFor base.name) base)
      service.settingsComponents
    names_nodup := insertComponent_nodup service.names_nodup }

def unRegisterSettingsComponent (name : CString) (service : SettingsRpcService) :
    SettingsRpcService :=
  { service with
    settingsComponents := service.settingsComponents.filter fun base => base.name ≠ name
    names_nodup := service.names_nodup.sublist (List.filter_sublist.map _) }

end SettingsRpcService

/-- `pName` of a component: the string from the name on, which may go on behind it. -/
def SettingsBuffer.pName (buf : SettingsBuffer) (component : SettingsComponent) : CString :=
  .ofBytes (buf.read component.offset (buf.size - component.offset))

/-- The loop of `SendAllUserOverrides` over the components of a buffer, in some rounds at most.
`Create` refuses a name that is there and leaves the loop.
dd_settings_service.cpp:123-149 -/
def createOverrides (buf : SettingsBuffer) :
    ℕ → SettingsComponent → Table CString (List SettingsValueRef) →
      Option (DDResult × Table CString (List SettingsValueRef))
  | 0, _, _ => none
  | rounds + 1, component, allUserOverrides =>
    match buf.nextComponent component with
    | none => some (.success, allUserOverrides)
    | some component =>
      match collect (buf.nextValue component) rounds .zero with
      | none => none
      | some overrides =>
        if buf.pName component ∈ allUserOverrides then
          some (.genericEntryExists, allUserOverrides)
        else
          createOverrides buf rounds component
            (allUserOverrides.insert (buf.pName component) (overrides.map (·.valueRef)))

def SettingsRpcService.sendAllUserOverrides (rounds : ℕ) (buf : SettingsBuffer)
    (service : SettingsRpcService) : Option (DDResult × SettingsRpcService) :=
  (createOverrides buf rounds .zero service.allUserOverrides).map fun (result, overrides) =>
    (result, { service with allUserOverrides := overrides })

structure DDSettingsComponentValueRefs where
  componentName : List UInt8
  values : List SettingsValueRef
  length_name : componentName.length = kMaxComponentNameSize
  terminated : 0 ∈ componentName

namespace DDSettingsComponentValueRefs

def name (component : DDSettingsComponentValueRefs) : CString := .ofBytes component.componentName

def encodedValues (component : DDSettingsComponentValueRefs) : List UInt8 :=
  component.values.flatMap fun value => encodeValue value.hash value.type value.value

/-- A component as the tool copies it into its buffer.
dd_settings.cpp:420-462 -/
def encode (component : DDSettingsComponentValueRefs) : List UInt8 :=
  encodeComponentHeader (component.componentName.set (kMaxComponentNameSize - 1) 0) 0
    (component.values.length % 2 ^ 16)
    ((kComponentHeaderSize + component.encodedValues.length) % 2 ^ 32) ++ component.encodedValues

end DDSettingsComponentValueRefs

/-- The buffer that the tool sends.
dd_settings.cpp:407-464 -/
def encodeAllOverrides (components : List DDSettingsComponentValueRefs) : List UInt8 :=
  encodeAllComponentsHeader (components.length % 2 ^ 16) ++ components.flatMap (·.encode)

/-! ## A tool and a driver that share settings

The tool sends overrides to the service of the driver, and the driver registers and removes its
components.  A call that cannot connect does nothing but return an error. -/

inductive SettingsAction where
  | sendAllUserOverrides (components : List DDSettingsComponentValueRefs)
      (paramBuf : SettingsBuffer) (rounds : ℕ)
  | connectFails (components : List DDSettingsComponentValueRefs) (result : DDResult)
  | registerSettingsComponent (base : SettingsBase) (beyond : ℕ → ℕ → UInt8)
  | unRegisterSettingsComponent (name : CString)

/-- What comes of it: the result of a call, or what a component is after its registration. -/
inductive SettingsOutput where
  | sent (result : DDResult)
  | registered (base : SettingsBase)
  | unregistered

def settingsStep (service : SettingsRpcService) :
    SettingsAction → Option (SettingsRpcService × SettingsOutput)
  | .sendAllUserOverrides components paramBuf rounds =>
    if paramBuf.bytes = encodeAllOverrides components then
      (service.sendAllUserOverrides rounds paramBuf).map fun (result, service) =>
        (service, .sent result)
    else none
  | .connectFails _ result => if result = .success then none else some (service, .sent result)
  | .registerSettingsComponent base beyond =>
    some (service.registerSettingsComponent beyond base, .registered
      (SettingsRpcService.applyComponentUserOverrides beyond (service.overridesFor base.name) base))
  | .unRegisterSettingsComponent name =>
    some (service.unRegisterSettingsComponent name, .unregistered)

/-- A settings service before any component is registered, and its calls. -/
def settingsMachine : Machine SettingsRpcService SettingsAction SettingsOutput where
  init service := service.settingsComponents = [] ∧ service.allUserOverrides = ∅
  step := settingsStep

end DevDriver.Model
