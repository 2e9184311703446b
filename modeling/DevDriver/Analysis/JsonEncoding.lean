import DevDriver.Model.StructuredReader

/-!
# The encoding of a document

What the handler writes for a document is a function of the document alone, `jsonBytes`, as long as
the writer has room for it.
-/

namespace DevDriver.Analysis

open Library Library.MessagePack
open Model

def numberBytes : JsonNumber → List UInt8
  | .int value => MpackWriter.encodeI64 value.toInt
  | .uint value => MpackWriter.encodeU64 value.toNat
  | .int64 value => MpackWriter.encodeI64 value.toInt
  | .uint64 value => MpackWriter.encodeU64 value.toNat
  | .double bits => MpackWriter.encodeDouble bits

def keyBytes (key : List UInt8) : List UInt8 := MpackWriter.encodeStr key.length ++ key

def stringBytes (bytes : List UInt8) : List UInt8 :=
  MpackWriter.encodeStr ((bytes.length + 1) % 2 ^ 32) ++ bytes ++ [0]

mutual

def jsonBytes : Json → List UInt8
  | .null => [0xc0]
  | .bool value => [if value then 0xc3 else 0xc2]
  | .number value => numberBytes value
  | .string bytes => stringBytes bytes
  | .array elements => 0xdd :: (beBytes 4 elements.length ++ elementBytes elements)
  | .object members => 0xde :: (beBytes 2 members.length ++ memberBytes members)

def elementBytes : List Json → List UInt8
  | [] => []
  | d :: ds => jsonBytes d ++ elementBytes ds

def memberBytes : List (List UInt8 × Json) → List UInt8
  | [] => []
  | (key, d) :: ds => keyBytes key ++ (jsonBytes d ++ memberBytes ds)

end

section Every

variable (key : List UInt8 → Prop) (value : Json → Prop)

mutual

def Every : Json → Prop
  | .array elements => EveryElement elements ∧ value (.array elements)
  | .object members => EveryMember members ∧ value (.object members)
  | .null => value .null
  | .bool b => value (.bool b)
  | .number n => value (.number n)
  | .string bytes => value (.string bytes)

def EveryElement : List Json → Prop
  | [] => True
  | d :: ds => Every d ∧ EveryElement ds

def EveryMember : List (List UInt8 × Json) → Prop
  | [] => True
  | (k, d) :: ds => key k ∧ Every d ∧ EveryMember ds

end

end Every

section Every

variable {key₁ key₂ key : List UInt8 → Prop} {value₁ value₂ value : Json → Prop}

mutual

theorem every_and_iff (hkey : ∀ k, key k ↔ key₁ k ∧ key₂ k)
    (hvalue : ∀ d, value d ↔ value₁ d ∧ value₂ d) :
    ∀ d, Every key value d ↔ Every key₁ value₁ d ∧ Every key₂ value₂ d
  | .array elements => by
    simp only [Every, hvalue, everyElement_and_iff hkey hvalue elements, and_and_and_comm]
  | .object members => by
    simp only [Every, hvalue, everyMember_and_iff hkey hvalue members, and_and_and_comm]
  | .null | .bool _ | .number _ | .string _ => by simp only [Every, hvalue]

theorem everyElement_and_iff (hkey : ∀ k, key k ↔ key₁ k ∧ key₂ k)
    (hvalue : ∀ d, value d ↔ value₁ d ∧ value₂ d) :
    ∀ ds, EveryElement key value ds ↔ EveryElement key₁ value₁ ds ∧ EveryElement key₂ value₂ ds
  | [] => by simp only [EveryElement, and_self]
  | d :: ds => by
    simp only [EveryElement, every_and_iff hkey hvalue d, everyElement_and_iff hkey hvalue ds,
      and_and_and_comm]

theorem everyMember_and_iff (hkey : ∀ k, key k ↔ key₁ k ∧ key₂ k)
    (hvalue : ∀ d, value d ↔ value₁ d ∧ value₂ d) :
    ∀ ds, EveryMember key value ds ↔ EveryMember key₁ value₁ ds ∧ EveryMember key₂ value₂ ds
  | [] => by simp only [EveryMember, and_self]
  | (k, d) :: ds => by
    simp only [EveryMember, hkey, every_and_iff hkey hvalue d, everyMember_and_iff hkey hvalue ds,
      and_and_and_comm]

end

end Every

def AcceptedKey (key : List UInt8) : Prop := key.length ≤ kUint32Max

def AcceptedValue : Json → Prop
  | .string bytes => bytes.length ≤ kUint32Max
  | .array elements => elements.length < kUint32Max
  | .object members => members.length < kUint16Max
  | _ => True

abbrev DocumentAccepted (d : Json) : Prop := Every AcceptedKey AcceptedValue d

structure WriterSound (w : MpackWriter) : Prop where
  error : w.error = false
  buffer_le : w.buffer.length ≤ w.size

def put (w : MpackWriter) (bytes : List UInt8) : MpackWriter :=
  { w with buffer := w.buffer ++ bytes }

def HasRoom (w : MpackWriter) (bytes : List UInt8) : Prop := w.buffer.length + bytes.length ≤ w.size

structure Wrote (w : MpackWriter) (bytes : List UInt8) (w' : MpackWriter) : Prop where
  done : HasRoom w bytes → w' = put w bytes
  failed : ¬ HasRoom w bytes → w'.error = true

variable {w w' : MpackWriter} {bytes more : List UInt8}

theorem put_put : put (put w bytes) more = put w (bytes ++ more) := by
  rw [put, put, put, List.append_assoc]

theorem put_nil : put w [] = w := by rw [put, List.append_nil]

theorem WriterSound.put (h : WriterSound w) (hfits : HasRoom w bytes) : WriterSound (put w bytes) :=
  ⟨h.error, by rw [Analysis.put, List.length_append]; exact hfits⟩

theorem hasRoom_append :
    HasRoom w (bytes ++ more) ↔ HasRoom w bytes ∧ HasRoom (put w bytes) more := by
  simp only [HasRoom, put, List.length_append]
  omega

theorem error_writeNative (h : w.error = true) : (w.writeNative bytes).error = true := by
  rw [MpackWriter.writeNative]
  split
  · rfl
  · exact h

theorem error_writeStr (h : w.error = true) : (w.writeStr bytes).error = true := by
  rw [MpackWriter.writeStr]
  split
  · exact error_writeNative h
  · split
    · split
      · exact h
      · exact error_writeNative (error_writeNative h)
    · exact error_writeNative (error_writeNative h)

theorem wrote_writeNative (h : WriterSound w) (bytes : List UInt8) :
    Wrote w bytes (w.writeNative bytes) := by
  have hle := h.buffer_le
  refine ⟨fun hfits => ?_, fun hfull => ?_⟩ <;>
    rw [HasRoom] at * <;> rw [MpackWriter.writeNative, MpackWriter.bufferLeft]
  · rw [if_neg (by omega)]; rfl
  · rw [if_pos (by omega)]

theorem Wrote.writeNative (hw : WriterSound w) (h : Wrote w bytes w') (more : List UInt8) :
    Wrote w (bytes ++ more) (w'.writeNative more) := by
  by_cases hfits : HasRoom w bytes
  · rw [h.done hfits]
    have hnext := wrote_writeNative (hw.put hfits) more
    refine ⟨fun hboth => ?_, fun hfull => hnext.failed fun hmore =>
      hfull (hasRoom_append.mpr ⟨hfits, hmore⟩)⟩
    rw [hnext.done (hasRoom_append.mp hboth).2, put_put]
  · exact ⟨fun hboth => absurd (hasRoom_append.mp hboth).1 hfits,
      fun _ => error_writeNative (h.failed hfits)⟩

theorem length_encodeStr_of_short {count : ℕ} (hlow : 31 < count) (hhigh : count ≤ 255) :
    (MpackWriter.encodeStr count).length = 2 := by
  rw [MpackWriter.encodeStr, if_neg (by omega), if_pos hhigh, List.length_cons, length_beBytes]

theorem wrote_writeStr (h : WriterSound w) : Wrote w (keyBytes bytes) (w.writeStr bytes) := by
  have htwice := (wrote_writeNative h (MpackWriter.encodeStr bytes.length)).writeNative h bytes
  rw [MpackWriter.writeStr, keyBytes]
  split
  · exact wrote_writeNative h _
  · split
    case isTrue hlong hshort =>
      have hlength := length_encodeStr_of_short (by omega) hshort
      split
      case isTrue hroom =>
        have hle := h.buffer_le
        refine ⟨fun _ => rfl, fun hfull => absurd ?_ hfull⟩
        rw [MpackWriter.bufferLeft] at hroom
        rw [HasRoom, List.length_append, hlength]
        omega
      case isFalse hroom => exact htwice
    case isFalse => exact htwice

theorem wrote_writeNumber (h : WriterSound w) (value : JsonNumber) :
    Wrote w (numberBytes value) (RjReaderHandler.writeNumber w value) := by
  cases value <;> exact wrote_writeNative h _

/-! ## The handler -/

def Failed (parsed : RjReaderHandler × Bool) : Prop :=
  parsed.2 = true → parsed.1.writer.error = true

variable {h : RjReaderHandler}

theorem error_handle (herror : h.writer.error = true) (event : SaxEvent) :
    Failed (h.handle event) := by
  cases event with
  | null => exact fun _ => error_writeNative herror
  | bool value => exact fun _ => error_writeNative herror
  | number value => exact fun _ => by cases value <;> exact error_writeNative herror
  | string bytes =>
    rw [RjReaderHandler.handle, RjReaderHandler.string]
    split
    · exact fun _ => error_writeNative (error_writeNative (error_writeNative herror))
    · exact fun _ => herror
  | startObject => simp [RjReaderHandler.handle, RjReaderHandler.startObject, RjReaderHandler.start,
      Failed, herror]
  | key bytes =>
    rw [RjReaderHandler.handle, RjReaderHandler.key]
    split
    · exact fun _ => error_writeStr herror
    · exact fun _ => herror
  | endObject memberCount =>
    rw [RjReaderHandler.handle, RjReaderHandler.endObject, RjReaderHandler.finish, if_pos herror]
    split <;> exact fun _ => herror
  | startArray => simp [RjReaderHandler.handle, RjReaderHandler.startArray, RjReaderHandler.start,
      Failed, herror]
  | endArray memberCount =>
    rw [RjReaderHandler.handle, RjReaderHandler.endArray, RjReaderHandler.finish, if_pos herror]
    split <;> exact fun _ => herror

theorem parse_cons_of_handle {h' : RjReaderHandler} {event : SaxEvent}
    (hhandle : h.handle event = (h', true)) (events : List SaxEvent) :
    h.parse (event :: events) = h'.parse events := by
  rw [RjReaderHandler.parse, hhandle]

theorem failed_of_error (herror : h.writer.error = true) (events : List SaxEvent) :
    Failed (h.parse events) := by
  induction events generalizing h with
  | nil => exact fun _ => herror
  | cons event events ih =>
    have hfailed := error_handle herror event
    rw [RjReaderHandler.parse]
    split
    case h_1 h' hhandle =>
      rw [hhandle] at hfailed
      exact ih (hfailed rfl)
    case h_2 h' hhandle => exact fun hfalse => absurd hfalse (by simp)

theorem failed_cons {event : SaxEvent} (hfailed : Failed (h.handle event))
    (events : List SaxEvent) : Failed (h.parse (event :: events)) := by
  rw [RjReaderHandler.parse]
  split
  case h_1 h' hhandle =>
    rw [hhandle] at hfailed
    exact failed_of_error (hfailed rfl) events
  case h_2 h' hhandle => exact fun hfalse => absurd hfalse (by simp)

/-- The events write the bytes when they are accepted and there is room, and fail otherwise. -/
structure Writes (h : RjReaderHandler) (accepted : Prop) (bytes : List UInt8)
    (events : List SaxEvent) : Prop where
  done : accepted → HasRoom h.writer bytes → ∀ rest,
    h.parse (events ++ rest) = RjReaderHandler.parse { h with writer := put h.writer bytes } rest
  failed : ¬ (accepted ∧ HasRoom h.writer bytes) → ∀ rest, Failed (h.parse (events ++ rest))

theorem writes_nil (hsound : WriterSound h.writer) : Writes h True [] [] :=
  ⟨fun _ _ rest => by rw [put_nil, List.nil_append],
    fun hnot => absurd ⟨trivial, hsound.buffer_le⟩ hnot⟩

theorem Writes.append {accepted accepted' : Prop} {events events' : List SaxEvent}
    (hfirst : Writes h accepted bytes events)
    (hnext : HasRoom h.writer bytes →
      Writes { h with writer := put h.writer bytes } accepted' more events') :
    Writes h (accepted ∧ accepted') (bytes ++ more) (events ++ events') := by
  refine ⟨fun hboth hfits rest => ?_, fun hnot rest => ?_⟩
  · obtain ⟨hbytes, hmore⟩ := hasRoom_append.mp hfits
    rw [List.append_assoc, hfirst.done hboth.1 hbytes, (hnext hbytes).done hboth.2 hmore, put_put]
  · rw [List.append_assoc]
    by_cases hbytes : accepted ∧ HasRoom h.writer bytes
    · rw [hfirst.done hbytes.1 hbytes.2]
      refine (hnext hbytes.2).failed (fun hmore => hnot ?_) rest
      exact ⟨⟨hbytes.1, hmore.1⟩, hasRoom_append.mpr ⟨hbytes.2, hmore.2⟩⟩
    · exact hfirst.failed hbytes _

theorem writes_of_wrote {event : SaxEvent} (hwrote : Wrote h.writer bytes w')
    (hhandle : h.handle event = ({ h with writer := w' }, true)) : Writes h True bytes [event] := by
  refine ⟨fun _ hfits rest => ?_, fun hnot rest => ?_⟩
  · rw [List.singleton_append, parse_cons_of_handle hhandle, hwrote.done hfits]
  · rw [List.singleton_append, parse_cons_of_handle hhandle]
    exact failed_of_error (hwrote.failed fun hfits => hnot ⟨trivial, hfits⟩) rest

theorem writes_of_bounded {event : SaxEvent} {accepted : Prop} (hwrote : Wrote h.writer bytes w')
    (haccepted : accepted → h.handle event = ({ h with writer := w' }, true))
    (hrefused : ¬ accepted → (h.handle event).2 = false) : Writes h accepted bytes [event] := by
  by_cases hacc : accepted
  · have hwrites := writes_of_wrote hwrote (haccepted hacc)
    exact ⟨fun _ => hwrites.done trivial, fun hnot => hwrites.failed fun hboth =>
      hnot ⟨hacc, hboth.2⟩⟩
  · refine ⟨fun hacc' => absurd hacc' hacc, fun _ rest => failed_cons (fun htrue => ?_) rest⟩
    rw [hrefused hacc] at htrue
    exact absurd htrue (by simp)

theorem writes_string (hsound : WriterSound h.writer) (bytes : List UInt8) :
    Writes h (bytes.length ≤ kUint32Max) (stringBytes bytes) [.string bytes] := by
  have hhead := wrote_writeNative hsound (MpackWriter.encodeStr ((bytes.length + 1) % 2 ^ 32))
  have hwrote := (hhead.writeNative hsound bytes).writeNative hsound [0]
  refine writes_of_bounded hwrote (fun hle => ?_) (fun hlong => ?_)
  · rw [RjReaderHandler.handle, RjReaderHandler.string, if_pos hle]
  · rw [RjReaderHandler.handle, RjReaderHandler.string, if_neg hlong]

theorem writes_key (hsound : WriterSound h.writer) (bytes : List UInt8) :
    Writes h (bytes.length ≤ kUint32Max) (keyBytes bytes) [.key bytes] := by
  refine writes_of_bounded (wrote_writeStr hsound) (fun hle => ?_) (fun hlong => ?_)
  · rw [RjReaderHandler.handle, RjReaderHandler.key, if_pos hle]
  · rw [RjReaderHandler.handle, RjReaderHandler.key, if_neg hlong]

section Containers

variable {type : PatchType} {tag : UInt8} {width max count : ℕ}

theorem overwrite_head (before content : List UInt8) :
    overwrite (before ++ (tag :: beBytes width max ++ content)) (before.length + 1)
      (beBytes width count) = before ++ tag :: (beBytes width count ++ content) := by
  have htake : (before ++ (tag :: beBytes width max ++ content)).take (before.length + 1) =
      before ++ [tag] := by
    rw [List.cons_append, List.append_cons, List.take_left' (by simp)]
  have hdrop : (before ++ (tag :: beBytes width max ++ content)).drop
      (before.length + 1 + width) = content := by
    rw [← List.append_assoc, List.drop_left' (by simp; omega)]
  rw [overwrite, htake, length_beBytes, hdrop]
  simp

theorem start_of_hasRoom (type : PatchType) (hsound : WriterSound h.writer) {head : List UInt8}
    (hfits : HasRoom h.writer head) : h.start type head = (⟨put h.writer head,
      ⟨type, h.writer.buffer.length, head.length⟩ :: h.openPatches⟩, true) := by
  have hwrote := (wrote_writeNative hsound head).done hfits
  have herror := (hsound.put hfits).error
  have hsize : (put h.writer head).buffer.length - h.writer.buffer.length = head.length := by
    rw [put, List.length_append, Nat.add_sub_cancel_left]
  simp only [RjReaderHandler.start, hsound.error, hwrote, herror, MpackWriter.bufferUsed, hsize]
  rfl

theorem failed_start (hsound : WriterSound h.writer) {head : List UInt8}
    (hfull : ¬ HasRoom h.writer head) : Failed (h.start type head) := by
  have herror := (wrote_writeNative hsound head).failed hfull
  rw [RjReaderHandler.start, if_neg (by simp [hsound.error])]
  exact fun _ => herror

theorem finish_of_patch {before : List UInt8} (content : List UInt8) {patches : List PatchInfo}
    {w : MpackWriter} (hsound : WriterSound w)
    (hbuffer : w.buffer = before ++ (tag :: beBytes width max ++ content)) (hcount : count < max) :
    RjReaderHandler.finish ⟨w, ⟨type, before.length, width + 1⟩ :: patches⟩ type width max count =
      (⟨{ w with buffer := before ++ tag :: (beBytes width count ++ content) }, patches⟩,
        true) := by
  have hused : before.length + (width + 1) ≤ w.buffer.length := by
    rw [hbuffer]
    simp
  simp only [RjReaderHandler.finish, List.headD_cons, List.tail_cons, MpackWriter.bufferUsed]
  rw [if_pos hcount, if_neg (by simp [hsound.error]), if_pos ⟨trivial, trivial, hused⟩, hbuffer,
    overwrite_head]

theorem writes_container {accepted : Prop} {content : List UInt8} {events : List SaxEvent}
    {first last : SaxEvent} (hsound : WriterSound h.writer)
    (hstart : ∀ h, RjReaderHandler.handle h first = h.start type (tag :: beBytes width max))
    (hfinish : ∀ h, RjReaderHandler.handle h last = h.finish type width max count)
    (hinside : ∀ h', WriterSound h'.writer → Writes h' accepted content events) :
    Writes h (accepted ∧ count < max) (tag :: (beBytes width count ++ content))
      (first :: (events ++ [last])) := by
  have hfits : ∀ w : MpackWriter, HasRoom w (tag :: (beBytes width count ++ content)) ↔
      HasRoom w (tag :: beBytes width max) ∧
        HasRoom (put w (tag :: beBytes width max)) content := by
    intro w
    simp only [HasRoom, put, List.length_cons, List.length_append, length_beBytes]
    omega
  have hlength : (tag :: beBytes width max).length = width + 1 := by simp
  by_cases hhead : HasRoom h.writer (tag :: beBytes width max)
  case neg =>
    refine ⟨fun _ hall => absurd ((hfits _).mp hall).1 hhead, fun _ rest => ?_⟩
    rw [List.cons_append]
    exact failed_cons (by rw [hstart]; exact failed_start hsound hhead) _
  have hopen := start_of_hasRoom type hsound hhead
  rw [← hstart] at hopen
  have hput := hsound.put hhead
  have hwrites := hinside ⟨put h.writer (tag :: beBytes width max),
    ⟨type, h.writer.buffer.length, (tag :: beBytes width max).length⟩ :: h.openPatches⟩ hput
  have hevents : ∀ rest, (first :: (events ++ [last])) ++ rest =
      first :: (events ++ last :: rest) := by simp
  refine ⟨fun hacc hall rest => ?_, fun hnot rest => ?_⟩
  · have hcontent := ((hfits _).mp hall).2
    rw [hevents, parse_cons_of_handle hopen, hwrites.done hacc.1 hcontent, hlength]
    refine parse_cons_of_handle ?_ rest
    rw [hfinish, put_put, finish_of_patch content ?_ rfl hacc.2]
    · rfl
    · rw [← put_put]
      exact hput.put hcontent
  · rw [hevents, parse_cons_of_handle hopen]
    by_cases hdone : accepted ∧ HasRoom (put h.writer (tag :: beBytes width max)) content
    · rw [hwrites.done hdone.1 hdone.2]
      refine failed_cons ?_ rest
      have hcount : ¬ count < max := fun hlt =>
        hnot ⟨⟨hdone.1, hlt⟩, (hfits _).mpr ⟨hhead, hdone.2⟩⟩
      rw [hfinish, RjReaderHandler.finish, if_neg hcount]
      exact fun hfalse => absurd hfalse (by simp)
    · exact hwrites.failed hdone _

end Containers

mutual

theorem writes_events : ∀ (d : Json) {h : RjReaderHandler}, WriterSound h.writer →
    Writes h (DocumentAccepted d) (jsonBytes d) d.events
  | .null, _, hsound => by
    rw [DocumentAccepted, Every, jsonBytes, Json.events]
    exact writes_of_wrote (wrote_writeNative hsound _) rfl
  | .bool value, _, hsound => by
    rw [DocumentAccepted, Every, jsonBytes, Json.events]
    exact writes_of_wrote (wrote_writeNative hsound _) rfl
  | .number value, _, hsound => by
    rw [DocumentAccepted, Every, jsonBytes, Json.events]
    exact writes_of_wrote (wrote_writeNumber hsound value) rfl
  | .string bytes, _, hsound => by
    rw [DocumentAccepted, Every, jsonBytes, Json.events]
    exact writes_string hsound bytes
  | .array elements, _, hsound => by
    rw [DocumentAccepted, Every, jsonBytes, Json.events]
    exact writes_container hsound (fun _ => rfl) (fun _ => rfl)
      fun _ hsound' => writes_elementEvents elements hsound'
  | .object members, _, hsound => by
    rw [DocumentAccepted, Every, jsonBytes, Json.events]
    exact writes_container hsound (fun _ => rfl) (fun _ => rfl)
      fun _ hsound' => writes_memberEvents members hsound'

theorem writes_elementEvents : ∀ (ds : List Json) {h : RjReaderHandler}, WriterSound h.writer →
    Writes h (EveryElement AcceptedKey AcceptedValue ds) (elementBytes ds) (Json.elementEvents ds)
  | [], _, hsound => by
    rw [EveryElement, elementBytes, Json.elementEvents]
    exact writes_nil hsound
  | d :: ds, _, hsound => by
    rw [EveryElement, elementBytes, Json.elementEvents]
    exact (writes_events d hsound).append fun hfits => writes_elementEvents ds (hsound.put hfits)

theorem writes_memberEvents : ∀ (ds : List (List UInt8 × Json)) {h : RjReaderHandler},
    WriterSound h.writer →
      Writes h (EveryMember AcceptedKey AcceptedValue ds) (memberBytes ds) (Json.memberEvents ds)
  | [], _, hsound => by
    rw [EveryMember, memberBytes, Json.memberEvents]
    exact writes_nil hsound
  | (key, d) :: ds, _, hsound => by
    rw [EveryMember, memberBytes, Json.memberEvents]
    exact (writes_key hsound key).append fun hkey =>
      (writes_events d (hsound.put hkey)).append fun hfits =>
        writes_memberEvents ds ((hsound.put hkey).put hfits)

end

theorem parse_init (d : Json) (sizeEstimate : ℕ) :
    (DocumentAccepted d ∧ (jsonBytes d).length ≤ max 16 sizeEstimate →
      (RjReaderHandler.init sizeEstimate).parse d.events =
        (⟨put (.init (max 16 sizeEstimate)) (jsonBytes d), []⟩, true)) ∧
    (¬ (DocumentAccepted d ∧ (jsonBytes d).length ≤ max 16 sizeEstimate) →
      Failed ((RjReaderHandler.init sizeEstimate).parse d.events)) := by
  have hsound : WriterSound (RjReaderHandler.init sizeEstimate).writer := ⟨rfl, Nat.zero_le _⟩
  have hwrites := writes_events d hsound
  have hfits : HasRoom (RjReaderHandler.init sizeEstimate).writer (jsonBytes d) ↔
      (jsonBytes d).length ≤ max 16 sizeEstimate := by
    rw [HasRoom, RjReaderHandler.init, MpackWriter.init, List.length_nil, Nat.zero_add]
  refine ⟨fun hboth => ?_, fun hnot => ?_⟩
  · have hdone := hwrites.done hboth.1 (hfits.mpr hboth.2) []
    rwa [List.append_nil] at hdone
  · have hfailed := hwrites.failed (by rwa [hfits]) []
    rwa [List.append_nil] at hfailed

end DevDriver.Analysis
