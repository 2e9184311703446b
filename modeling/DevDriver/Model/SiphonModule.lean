import DevDriver.Model.SettingsService

/-!
# Settings blobs of drivers

The siphon module loads a driver library to ask it for its settings blobs.
-/

namespace DevDriver.Model

open Library

namespace DDResult

def commonInterfaceNotFound : DDResult := ⟨16⟩
def genericInvalidParameter : DDResult := ⟨10109⟩

end DDResult

/-- `DD_SETTINGS_DRIVER_TYPE`. -/
inductive SettingsDriverType where
  | dx12
  | dx10
  | dx9
  | vulkan
  | opengl
  | kmd
  | unknown
  deriving DecidableEq, Repr

def SettingsDriverType.toCode : SettingsDriverType → ℕ
  | .dx12 => 0
  | .dx10 => 1
  | .dx9 => 2
  | .vulkan => 3
  | .opengl => 4
  | .kmd => 5
  | .unknown => 6

/-- The types below `DD_SETTINGS_DRIVER_TYPE_COUNT`, which are compared as unsigned numbers. -/
def SettingsDriverType.ofCode : ℕ → Option SettingsDriverType
  | 0 => some .dx12
  | 1 => some .dx10
  | 2 => some .dx9
  | 3 => some .vulkan
  | 4 => some .opengl
  | 5 => some .kmd
  | 6 => some .unknown
  | _ => none

/-- The path of a library; with a terminator its length is a `uint16_t`. -/
abbrev DllPath : Type := { path : List UInt8 // path.length + 1 < 2 ^ 16 }

/-- What a library does: it is not loaded, has no `GetSettingsBlobsAll`, or gives its blobs. -/
inductive LibraryAnswer where
  | loadFailed (result : { r : DDResult // r ≠ .success })
  | noEntryPoint
  | blobs (bytes : List UInt8)

/-- A library without blobs leaves the bytes that are there.
SiphonModuleConnectionContext.cpp:1157-1205 -/
def loadSettingsBlobs (library : LibraryAnswer) (blob : List UInt8) : DDResult × List UInt8 :=
  match library with
  | .loadFailed result => (result.val, blob)
  | .noEntryPoint => (.commonInterfaceNotFound, blob)
  | .blobs bytes => (.success, if 0 < bytes.length then bytes else blob)

/-- `SettingsBlob` of a driver type. -/
structure DriverSettingsBlob where
  defaultDllPath : DllPath
  currentDllPath : DllPath
  blob : List UInt8

/-- `LoadSettingsBlobFromDefaultPath`, with the default path of the driver type.
SiphonModuleConnectionContext.cpp:1042-1079 -/
def DriverSettingsBlob.loadFromDefaultPath (path : DllPath) (library : LibraryAnswer) :
    DriverSettingsBlob :=
  if path.val = [] then ⟨path, path, []⟩
  else
    let loaded := loadSettingsBlobs library []
    ⟨path, if loaded.1 = .success then path else ⟨[], by decide⟩, loaded.2⟩

structure SiphonReply where
  driverPath : DllPath
  settingsBlobs : List UInt8

/-- The blobs of a reply; without any it is a `SettingsBlobsAll` of version 1 with no blobs. -/
def SiphonReply.blobBytes (settingsBlobs : List UInt8) : List UInt8 :=
  if 0 < settingsBlobs.length then settingsBlobs else leBytes 4 1 ++ leBytes 4 0

structure ReplyWriter where
  begins : DDResult
  writer : ByteWriter

/-- `WriteQuerySettingsBlobsAllResult`.
SiphonModuleConnectionContext.cpp:1208-1258 -/
def SiphonReply.write (w : ReplyWriter) (reply : SiphonReply) : DDResult × WrittenBytes :=
  if w.begins = .success then
    let size := WrittenBytes.writeBytes w.writer (leBytes 2 (reply.driverPath.val.length + 1))
      ⟨0, []⟩
    if size.1 = .success then
      let path := size.2.writeBytes w.writer (reply.driverPath.val ++ [0])
      if path.1 = .success then
        path.2.writeBytes w.writer (SiphonReply.blobBytes reply.settingsBlobs)
      else path
    else size
  else (w.begins, ⟨0, []⟩)

/-- What becomes of a call for a driver type: where a library was loaded from, if one was, and the
answer. -/
structure DriverAnswer where
  result : DDResult
  loadedFrom : Option DllPath
  reply : Option SiphonReply
  written : List UInt8
  settingsBlob : DriverSettingsBlob

namespace DriverSettingsBlob

def answer (w : ReplyWriter) (loadedFrom : Option DllPath) (b : DriverSettingsBlob) :
    DriverAnswer :=
  let reply : SiphonReply := ⟨b.currentDllPath, b.blob⟩
  ⟨(reply.write w).1, loadedFrom, some reply, (reply.write w).2.bytes, b⟩

/-- `WriteQuerySettingsBlobsAllResultWithReload`.
SiphonModuleConnectionContext.cpp:1261-1302 -/
def writeResultWithReload (w : ReplyWriter) (library : LibraryAnswer)
    (driverPathOverride : Option DllPath) (reload : Bool) (b : DriverSettingsBlob) : DriverAnswer :=
  let pathToLoadFrom := driverPathOverride.getD b.defaultDllPath
  if reload ∨ b.currentDllPath ≠ pathToLoadFrom then
    let loaded := loadSettingsBlobs library b.blob
    if loaded.1 = .success then
      answer w (some pathToLoadFrom) ⟨b.defaultDllPath, pathToLoadFrom, loaded.2⟩
    else ⟨loaded.1, some pathToLoadFrom, none, [], { b with blob := loaded.2 }⟩
  else answer w none b

end DriverSettingsBlob

structure SiphonCall where
  params : SettingsBuffer
  library : LibraryAnswer
  replyWriter : ReplyWriter

namespace SiphonCall

/-! `DDSettingsSiphonQuerySettingsBlobsAllParams`, seven bytes. -/

def driverType (call : SiphonCall) : ℕ := call.params.field 0 4
def reload (call : SiphonCall) : Bool := call.params.byte 4 ≠ 0
def driverPathOverrideSize (call : SiphonCall) : ℕ := call.params.field 5 2

/-- `pDriverPathOverride`: the path behind the parameters, without the terminator. -/
def driverPathOverride (call : SiphonCall) : Option DllPath :=
  if 0 < call.driverPathOverrideSize then
    some ⟨call.params.read 7 (call.driverPathOverrideSize - 1), by
      have hlt : call.driverPathOverrideSize < 2 ^ 16 := call.params.field_lt 5 2
      rw [SettingsBuffer.read, List.length_map, List.length_range]
      omega⟩
  else none

end SiphonCall

/-- What becomes of a call: how far it read into the parameter buffer, and the answer of a driver
type. -/
structure SiphonOutput where
  result : DDResult
  readEnd : ℕ
  answer : Option (SettingsDriverType × DriverAnswer)

/-- `m_settingsBlobs`. -/
abbrev SiphonContext : Type := SettingsDriverType → DriverSettingsBlob

/-- SiphonModuleConnectionContext.cpp:108-149 -/
def SiphonContext.querySettingsBlobsAll (call : SiphonCall) (context : SiphonContext) :
    SiphonOutput × SiphonContext :=
  if call.params.size < 7 then (⟨.genericInvalidParameter, 0, none⟩, context)
  else
    match SettingsDriverType.ofCode call.driverType with
    | none => (⟨.genericInvalidParameter, 7, none⟩, context)
    | some type =>
      let answer := (context type).writeResultWithReload call.replyWriter call.library
        call.driverPathOverride call.reload
      (⟨answer.result, 7 + (call.driverPathOverrideSize - 1), some (type, answer)⟩,
        Function.update context type answer.settingsBlob)

/-- The parameters that `Settings::QuerySettingsBlobsAll` sends, unless the path is too long: it
counts a terminator for the path, but puts none behind it.
dd_settings.cpp:322-378 -/
def encodeQueryParams (type : SettingsDriverType) (reload : Bool) (path : List UInt8) :
    Option (List UInt8) :=
  if path.length ≤ 4 * 1024 then
    some (leBytes 4 type.toCode ++ leBytes 1 reload.toNat ++
      leBytes 2 (if path.length = 0 then 0 else path.length + 1) ++ path)
  else none

/-- The module, and what the libraries returned when they were last loaded for a driver type. -/
structure SiphonModule where
  context : SiphonContext
  returned : SettingsDriverType → CString → List UInt8

/-- A library is known by its path up to the first terminator. -/
def DllPath.library (path : DllPath) : CString := .ofBytes path.val

def noteLoad (library : LibraryAnswer) (loadedFrom : Option DllPath)
    (returned : CString → List UInt8) : CString → List UInt8 :=
  match loadedFrom, library with
  | some path, .blobs bytes => Function.update returned path.library bytes
  | _, _ => returned

/-- `Initialize`: the libraries at the default paths are loaded. -/
def SiphonModule.initialized (defaults : SettingsDriverType → DllPath × LibraryAnswer) :
    SiphonModule where
  context type := .loadFromDefaultPath (defaults type).1 (defaults type).2
  returned type := noteLoad (defaults type).2
    (if (defaults type).1.val = [] then none else some (defaults type).1) fun _ => []

/-- The module with what each library has returned. -/
def siphonMachine : Machine SiphonModule SiphonCall SiphonOutput where
  init s := ∃ defaults, s = .initialized defaults
  step s call :=
    let (output, context) := s.context.querySettingsBlobsAll call
    let returned := match output.answer with
      | none => s.returned
      | some (type, answer) => Function.update s.returned type
          (noteLoad call.library answer.loadedFrom (s.returned type))
    some (⟨context, returned⟩, output)

end DevDriver.Model
