import DevDriver.Analysis.SettingsRecords
import DevDriver.Model.SiphonModule

/-!
# Whose blobs a tool gets

The path and the bytes of a driver type belong together as long as every load that succeeds replaces
both.
-/

namespace DevDriver.Analysis

open Library Model DriverSettingsBlob

namespace SiphonAnswers

open SettingsRecords

/-- A reply has the blobs of the library that it names, and as much is sent as the writer takes. -/
structure OwnBlobs (returned : CString → List UInt8) (answer : DriverAnswer) (reply : SiphonReply) :
    Prop where
  blobs : reply.settingsBlobs = returned reply.driverPath.library
  sent : answer.written <+: leBytes 2 (reply.driverPath.val.length + 1) ++
    (reply.driverPath.val ++ [0]) ++ SiphonReply.blobBytes (returned reply.driverPath.library)

/-- A call reads inside its buffer, and its reply belongs to the library that it names. -/
structure AnswersRight (s : SiphonModule) (call : SiphonCall) (output : SiphonOutput) : Prop where
  inside : output.readEnd ≤ call.params.size
  own : ∀ type answer reply, output.answer = some (type, answer) → answer.reply = some reply →
    OwnBlobs (noteLoad call.library answer.loadedFrom (s.returned type)) answer reply

/-- The path of an override lies in the buffer of a call that is not refused. -/
def PathInside (call : SiphonCall) : Prop :=
  7 ≤ call.params.size → (SettingsDriverType.ofCode call.driverType).isSome →
    7 + (call.driverPathOverrideSize - 1) ≤ call.params.size

/-- A library is loaded for a driver type: a reload is asked for, or the path is another one. -/
def Loads (call : SiphonCall) (b : DriverSettingsBlob) : Prop :=
  call.reload ∨ b.currentDllPath ≠ call.driverPathOverride.getD b.defaultDllPath

/-- No bytes are kept when a library is loaded that returns none. -/
def ReplacesBlob (call : SiphonCall) (b : DriverSettingsBlob) : Prop :=
  Loads call b → call.library = .blobs [] → b.blob = []

/-- The path lies inside the parameters, and a library without a blob replaces none. -/
structure CallIsClear (s : SiphonModule) (call : SiphonCall) : Prop where
  inside : PathInside call
  replaces : ∀ type, 7 ≤ call.params.size →
    SettingsDriverType.ofCode call.driverType = some type → ReplacesBlob call (s.context type)

/-- Each blob is what the library loaded last returned. -/
def Coherent (s : SiphonModule) : Prop :=
  ∀ type, (s.context type).blob = s.returned type (s.context type).currentDllPath.library

/-! ## One driver type -/

section DriverType

variable {b : DriverSettingsBlob} {returned : CString → List UInt8}

theorem written_prefix (w : ReplyWriter) (reply : SiphonReply) :
    (reply.write w).2.bytes <+: leBytes 2 (reply.driverPath.val.length + 1) ++
      (reply.driverPath.val ++ [0]) ++ SiphonReply.blobBytes reply.settingsBlobs := by
  unfold SiphonReply.write
  split
  · simp only [WrittenBytes.writeBytes]
    split
    · split
      · split
        · simp
        · simp
      · simp [List.append_assoc]
    · exact List.nil_prefix
  · exact List.nil_prefix

theorem ownBlobs_answer_iff (w : ReplyWriter) (loadedFrom : Option DllPath) :
    OwnBlobs returned (b.answer w loadedFrom) ⟨b.currentDllPath, b.blob⟩ ↔
      b.blob = returned b.currentDllPath.library := by
  constructor
  · intro h
    exact h.blobs
  · intro h
    have hsent := written_prefix w ⟨b.currentDllPath, b.blob⟩
    refine ⟨h, ?_⟩
    rwa [← h]

theorem writeResultWithReload_cases (call : SiphonCall) (b : DriverSettingsBlob) :
    let a := b.writeResultWithReload call.replyWriter call.library call.driverPathOverride
      call.reload
    (¬Loads call b ∧ a = b.answer call.replyWriter none) ∨
      (Loads call b ∧ ∃ path bytes, call.library = .blobs bytes ∧
        a = answer call.replyWriter (some path)
          ⟨b.defaultDllPath, path, if 0 < bytes.length then bytes else b.blob⟩) ∨
      ((∀ bytes, call.library ≠ .blobs bytes) ∧ a.reply = none ∧ a.settingsBlob = b) := by
  unfold writeResultWithReload
  by_cases hloads : Loads call b
  · have hloads' : call.reload = true ∨
      b.currentDllPath ≠ call.driverPathOverride.getD b.defaultDllPath := hloads
    simp only [hloads', if_true]
    cases hlibrary : call.library with
    | loadFailed result =>
      simp only [loadSettingsBlobs, result.property, if_false]
      exact .inr (.inr ⟨(by nofun), trivial, trivial⟩)
    | noEntryPoint => exact .inr (.inr ⟨(by nofun), rfl, rfl⟩)
    | blobs bytes => exact .inr (.inl ⟨hloads, _, bytes, rfl, rfl⟩)
  · have hloads' : ¬(call.reload = true ∨
      b.currentDllPath ≠ call.driverPathOverride.getD b.defaultDllPath) := hloads
    simp only [hloads', if_false]
    exact .inl ⟨hloads, trivial⟩

theorem writeResultWithReload_own (call : SiphonCall)
    (h : b.blob = returned b.currentDllPath.library) :
    let a := b.writeResultWithReload call.replyWriter call.library call.driverPathOverride
      call.reload
    let returned' := noteLoad call.library a.loadedFrom returned
    ((∀ reply, a.reply = some reply → OwnBlobs returned' a reply) ↔ ReplacesBlob call b) ∧
      (ReplacesBlob call b →
        a.settingsBlob.blob = returned' a.settingsBlob.currentDllPath.library) := by
  intro a returned'
  have hreply : ∀ (b' : DriverSettingsBlob) loadedFrom, a = b'.answer call.replyWriter loadedFrom →
      ((∀ reply, a.reply = some reply → OwnBlobs returned' a reply) ↔
        b'.blob = returned' b'.currentDllPath.library) := by
    intro b' loadedFrom ha
    rw [← ownBlobs_answer_iff (b := b') call.replyWriter loadedFrom, ha]
    constructor
    · intro hown
      exact hown _ rfl
    · intro hown reply hreply
      cases hreply
      exact hown
  rcases writeResultWithReload_cases call b with
    ⟨hloads, ha⟩ | ⟨hloads, path, bytes, hlibrary, ha⟩ | ⟨hfails, hnone, hkept⟩
  · have hreturned : returned' = returned := by
      show noteLoad _ a.loadedFrom _ = _
      rw [show a = _ from ha]
      rfl
    rw [hreply b none ha, hreturned, show a = _ from ha]
    exact ⟨iff_of_true h fun h => absurd h hloads, fun _ => h⟩
  · have hreturned : returned' path.library = bytes := by
      show noteLoad _ a.loadedFrom _ _ = _
      rw [show a = _ from ha, hlibrary]
      exact Function.update_self ..
    have hreplaces : ReplacesBlob call b ↔
        (if 0 < bytes.length then bytes else b.blob) = bytes := by
      rw [ReplacesBlob, hlibrary]
      cases bytes with
      | nil => simp [hloads]
      | cons c bytes => simp
    rw [hreply _ _ ha, show a = _ from ha, hreplaces]
    show ((_ : List UInt8) = returned' path.library ↔ _) ∧ (_ → _ = returned' path.library)
    rw [hreturned]
    exact ⟨Iff.rfl, id⟩
  · have hreturned : returned' = returned := by
      show noteLoad call.library a.loadedFrom returned = returned
      unfold noteLoad
      split
      · rename_i hlibrary
        exact absurd hlibrary (hfails _)
      · rfl
    have hreplaces : ReplacesBlob call b := fun _ hlibrary => absurd hlibrary (hfails _)
    have hnone' : a.reply = none := hnone
    rw [hreturned, show a.settingsBlob = b from hkept]
    refine ⟨iff_of_true ?_ hreplaces, fun _ => h⟩
    intro reply hsome
    rw [hnone'] at hsome
    cases hsome

end DriverType

theorem pathInside_of_tool {call : SiphonCall} {type : SettingsDriverType} {reload : Bool}
    {path : List UInt8} (h : encodeQueryParams type reload path = some call.params.bytes) :
    PathInside call := by
  intro _ _
  obtain ⟨hpath, h⟩ := Option.ite_none_right_eq_some.mp h
  have hbytes := (Option.some.inj h).symm
  have hsize : call.params.size = 7 + path.length := by
    rw [SettingsBuffer.size, hbytes]
    simp only [List.length_append, length_leBytes]
  have hoverride : call.driverPathOverrideSize =
      if path.length = 0 then 0 else path.length + 1 := by
    apply field_of_bytes (leBytes 4 type.toCode ++ leBytes 1 reload.toNat) path
    · rw [hbytes]
      simp only [List.append_assoc]
    · simp only [List.length_append, length_leBytes]
    · split <;> omega
  rw [hsize, hoverride]
  split <;> omega

/-! ## Runs -/

theorem loadFromDefaultPath_own (path : DllPath) (library : LibraryAnswer) :
    (loadFromDefaultPath path library).blob =
      noteLoad library (if path.val = [] then none else some path) (fun _ => [])
        (loadFromDefaultPath path library).currentDllPath.library := by
  unfold loadFromDefaultPath
  by_cases hempty : path.val = []
  · simp only [hempty, if_true]
    rfl
  · simp only [hempty, if_false]
    cases library with
    | loadFailed result => rfl
    | noEntryPoint => rfl
    | blobs bytes =>
      have hself : Function.update (fun _ => [] : CString → List UInt8) path.library bytes
          path.library = bytes := Function.update_self ..
      apply Eq.trans _ hself.symm
      cases bytes <;> rfl

theorem coherent_initialized (defaults : SettingsDriverType → DllPath × LibraryAnswer) :
    Coherent (.initialized defaults) :=
  fun type => loadFromDefaultPath_own (defaults type).1 (defaults type).2

theorem answersRight_iff {s t : SiphonModule} {call : SiphonCall} {output : SiphonOutput}
    (h : Coherent s) (hstep : siphonMachine.step s call = some (t, output)) :
    (AnswersRight s call output ↔ CallIsClear s call) ∧ (CallIsClear s call → Coherent t) := by
  simp only [siphonMachine, SiphonContext.querySettingsBlobsAll] at hstep
  by_cases hsize : call.params.size < 7
  · rw [if_pos hsize] at hstep
    cases hstep
    refine ⟨iff_of_true ⟨Nat.zero_le _, (by nofun)⟩ ⟨?_, ?_⟩, fun _ => h⟩
    · intro hle
      omega
    · intro type hle
      omega
  · rw [if_neg hsize] at hstep
    have hsize' : 7 ≤ call.params.size := Nat.le_of_not_lt hsize
    cases htype : SettingsDriverType.ofCode call.driverType with
    | none =>
      rw [htype] at hstep
      cases hstep
      refine ⟨iff_of_true ⟨hsize', (by nofun)⟩ ⟨?_, ?_⟩, fun _ => h⟩
      · intro _ hsome
        rw [htype] at hsome
        cases hsome
      · intro type _ hsome
        rw [htype] at hsome
        cases hsome
    | some type =>
      rw [htype] at hstep
      cases hstep
      obtain ⟨hown, hkept⟩ := writeResultWithReload_own call (h type)
      have hclear : CallIsClear s call ↔
          7 + (call.driverPathOverrideSize - 1) ≤ call.params.size ∧
            ReplacesBlob call (s.context type) := by
        constructor
        · intro hclear
          exact ⟨hclear.inside hsize' (by rw [htype]; rfl), hclear.replaces type hsize' htype⟩
        · rintro ⟨hinside, hreplaces⟩
          refine ⟨fun _ _ => hinside, ?_⟩
          intro type' _ htype'
          obtain rfl := Option.some.inj (htype.symm.trans htype')
          exact hreplaces
      rw [hclear, ← hown]
      constructor
      · constructor
        · intro hright
          exact ⟨hright.inside, fun reply hreply => hright.own type _ reply rfl hreply⟩
        · rintro ⟨hinside, hreplies⟩
          refine ⟨hinside, ?_⟩
          intro type' answer reply hanswer
          cases hanswer
          exact hreplies reply
      · rintro ⟨-, hreplies⟩ type'
        by_cases heq : type' = type
        · subst heq
          simp only [Function.update_self]
          exact hkept (hown.mp hreplies)
        · simp only [Function.update_of_ne heq]
          exact h type'

def vulkanModule : SiphonModule := .initialized fun
  | .vulkan => (⟨[97], by decide⟩, .blobs [1])
  | _ => (⟨[], (by decide : 0 + 1 < 2 ^ 16)⟩, .noEntryPoint)

def overrideCall (library : LibraryAnswer) : SiphonCall :=
  ⟨⟨[3, 0, 0, 0, 0, 2, 0, 98, 0], fun _ => 0, by decide⟩, library, ⟨.success, .accepting⟩⟩

theorem inside_overrideCall (library : LibraryAnswer) : PathInside (overrideCall library) := by
  intro _ _
  show 7 + (2 - 1) ≤ 9
  decide

end SiphonAnswers

end DevDriver.Analysis
