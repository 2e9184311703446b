import DevDriver.Library.Cursor
import DevDriver.Model.Socket

/-!
# Settings buffers

The buffers that settings travel in: a header, and one record for each component, which is a header
of its own and the values of the component, or the experiments that it does not support.  Every
record says how long it is.
-/

namespace DevDriver.Model

open Library

namespace DDResult

def commonDoesNotExist : DDResult := ⟨18⟩
def settingsNotFound : DDResult := ⟨10601⟩
def settingsTypeMismatch : DDResult := ⟨10602⟩

end DDResult

/-- A buffer of settings, and the memory behind it. -/
structure SettingsBuffer where
  bytes : List UInt8
  beyond : ℕ → UInt8
  length_le : bytes.length ≤ 2 ^ 63

namespace SettingsBuffer

/-- `m_bufSize`. -/
def size (buf : SettingsBuffer) : ℕ := buf.bytes.length

def byte (buf : SettingsBuffer) (offset : ℕ) : UInt8 :=
  buf.bytes.getD offset (buf.beyond offset)

def read (buf : SettingsBuffer) (offset count : ℕ) : List UInt8 :=
  (List.range count).map fun i => buf.byte (offset + i)

def field (buf : SettingsBuffer) (offset width : ℕ) : ℕ := leNat (buf.read offset width)

end SettingsBuffer

/-- `DD_SETTINGS_MAX_COMPONENT_NAME_SIZE`. -/
abbrev kMaxComponentNameSize : ℕ := 41

/-- `sizeof(DDSettingsAllComponentsHeader)`. -/
abbrev kAllComponentsHeaderSize : ℕ := 4

/-- `sizeof(DDSettingsComponentHeader)`. -/
abbrev kComponentHeaderSize : ℕ := kMaxComponentNameSize + 14

/-- `sizeof(DDSettingsValueHeader)`. -/
abbrev kValueHeaderSize : ℕ := 7

/-- `sizeof(DD_SETTINGS_NAME_HASH)`. -/
abbrev kNameHashSize : ℕ := 4

namespace SettingsBuffer

variable (buf : SettingsBuffer)

/-! `DDSettingsComponentHeader` at an offset. -/

def componentName (offset : ℕ) : List UInt8 := buf.read offset kMaxComponentNameSize
def blobHash (offset : ℕ) : ℕ := buf.field (offset + 41) 8
def numValues (offset : ℕ) : ℕ := buf.field (offset + 49) 2
def componentSize (offset : ℕ) : ℕ := buf.field (offset + 51) 4

/-! `DDSettingsValueHeader` at an offset. -/

def valueHash (offset : ℕ) : ℕ := buf.field offset 4
def valueType (offset : ℕ) : ℕ := buf.field (offset + 4) 1
def valueSize (offset : ℕ) : ℕ := buf.field (offset + 5) 2

end SettingsBuffer

/-- `DDSettingsValueRef` with the bytes that it points to, as many as its size says. -/
structure SettingsValueRef where
  hash : UInt32
  type : UInt8
  value : List UInt8
  length_lt : value.length < 2 ^ 16
  deriving DecidableEq

theorem SettingsBuffer.field_lt (buf : SettingsBuffer) (offset width : ℕ) :
    buf.field offset width < 256 ^ width := by
  have h := leNat_lt (buf.read offset width)
  rwa [read, List.length_map, List.length_range] at h

def SettingsBuffer.valueRef (buf : SettingsBuffer) (offset : ℕ) : SettingsValueRef where
  hash := UInt32.ofNat (buf.valueHash offset)
  type := UInt8.ofNat (buf.valueType offset)
  value := buf.read (offset + kValueHeaderSize) (buf.valueSize offset)
  length_lt := by
    rw [read, List.length_map, List.length_range]
    exact buf.field_lt _ 2

/-- `SettingsIterator::Component`. -/
structure SettingsComponent where
  name : List UInt8
  blobHash : ℕ
  numValues : ℕ
  offset : ℕ
  deriving DecidableEq

def SettingsComponent.zero : SettingsComponent := ⟨[], 0, 0, 0⟩

/-- `SettingsIterator::Value`. -/
structure SettingsValue where
  valueRef : SettingsValueRef
  offset : ℕ
  deriving DecidableEq

def SettingsValue.zero : SettingsValue := ⟨⟨0, 0, [], by decide⟩, 0⟩

structure UnsupportedExperiment where
  hash : UInt32
  offset : ℕ
  deriving DecidableEq

def UnsupportedExperiment.zero : UnsupportedExperiment := ⟨0, 0⟩

namespace SettingsBuffer

variable (buf : SettingsBuffer)

/-- `m_error` of an iterator: the last check that fails decides.
dd_settings_iterator.cpp:12-36 -/
def error : DDResult :=
  if buf.size < kAllComponentsHeaderSize then .commonDoesNotExist
  else if buf.field 2 2 = 0 then .commonDoesNotExist
  else if 1 < buf.field 0 2 then .commonVersionMismatch
  else .success

def component (offset : ℕ) : SettingsComponent where
  name := buf.componentName offset
  blobHash := buf.blobHash offset
  numValues := buf.numValues offset
  offset := offset

def nextComponent (component : SettingsComponent) : Option SettingsComponent :=
  if buf.error = .success then
    let nextComponentOffset :=
      if component.offset = 0 then kAllComponentsHeaderSize
      else component.offset + buf.componentSize component.offset
    if nextComponentOffset < buf.size then some (buf.component nextComponentOffset) else none
  else none

/-- dd_settings_iterator.cpp:82-129 -/
def nextValue (component : SettingsComponent) (value : SettingsValue) : Option SettingsValue :=
  if buf.error = .success then
    let nextValueOffset :=
      if value.offset = 0 then kComponentHeaderSize
      else value.offset + (kValueHeaderSize + buf.valueSize (component.offset + value.offset))
    if nextValueOffset < buf.componentSize component.offset then
      some ⟨buf.valueRef (component.offset + nextValueOffset), nextValueOffset⟩
    else none
  else none

/-- dd_settings_iterator.cpp:131-177 -/
def nextUnsupportedExperiment (component : SettingsComponent) (exp : UnsupportedExperiment) :
    Option UnsupportedExperiment :=
  if buf.error = .success then
    let nextValueOffset :=
      if exp.offset = 0 then kComponentHeaderSize else exp.offset + kNameHashSize
    if nextValueOffset < buf.componentSize component.offset then
      some ⟨UInt32.ofNat (buf.field (component.offset + nextValueOffset) kNameHashSize),
        nextValueOffset⟩
    else none
  else none

end SettingsBuffer

end DevDriver.Model
