import DevDriver.Analysis.WatchedBlock
import DevDriver.Model.UriResponse
import Mathlib.Data.List.TakeWhile

/-!
# What the response writers tell a service

Every write of a request appends to the block of its response, through whichever writer it goes.
-/

namespace DevDriver.Analysis

namespace UriResponses

open Library Model UriRequestContext TextWriter TextCall

structure Appended (s s' : ResponseSink) (bytes : List UInt8) : Prop where
  contextState : s'.contextState = s.contextState
  sized : ServerBlock.Sized s'.pResponseBlock
  data : s'.pResponseBlock.data = s.pResponseBlock.data ++ bytes

variable {s s' s'' : ResponseSink}

theorem Appended.refl (h : ServerBlock.Sized s.pResponseBlock) : Appended s s [] where
  contextState := rfl
  sized := h
  data := (List.append_nil _).symm

theorem Appended.trans {first second : List UInt8} (h : Appended s s' first)
    (h' : Appended s' s'' second) : Appended s s'' (first ++ second) where
  contextState := h'.contextState.trans h.contextState
  sized := h'.sized
  data := by rw [h'.data, h.data, List.append_assoc]

theorem appended_writeBytes (h : ServerBlock.Sized s.pResponseBlock) (bytes : List UInt8) :
    Appended s (s.writeBytes (some bytes)).2 bytes where
  contextState := rfl
  sized := sized_write h bytes
  data := write_data h bytes

theorem byteWrites_of_failed {w : SinkWriter} (h : w.lastResult ≠ .success)
    (calls : List (Option (List UInt8))) : calls.foldl ByteWriter.writeBytes w = w := by
  induction calls with
  | nil => rfl
  | cons call calls ih =>
    have hcall : ByteWriter.writeBytes w call = w := if_neg h
    rw [List.foldl_cons, hcall]
    exact ih

theorem byteWrites {w : SinkWriter} (h : w.lastResult = .success)
    (hsized : ServerBlock.Sized w.sink.pResponseBlock) (calls : List (Option (List UInt8))) :
    ∃ bytes, Appended w.sink (calls.foldl ByteWriter.writeBytes w).sink bytes ∧
      ((calls.foldl ByteWriter.writeBytes w).lastResult = .success →
        bytes = calls.flatMap (·.getD [])) ∧
      ((∀ call ∈ calls, call ≠ none) →
        (calls.foldl ByteWriter.writeBytes w).lastResult = .success) := by
  induction calls generalizing w with
  | nil => exact ⟨[], .refl hsized, fun _ => rfl, fun _ => h⟩
  | cons call calls ih =>
    rw [List.foldl_cons]
    cases call with
    | none =>
      have hcall : ByteWriter.writeBytes w none = { w with lastResult := .error } := if_pos h
      have hfailed : ({ w with lastResult := Result.error } : SinkWriter).lastResult ≠ .success :=
        nofun
      rw [hcall, byteWrites_of_failed hfailed]
      refine ⟨[], .refl hsized, nofun, ?_⟩
      intro hsome
      exact absurd rfl (hsome none List.mem_cons_self)
    | some bytes =>
      have hcall : ByteWriter.writeBytes w (some bytes) = w.callback (some bytes) := if_pos h
      have hone := appended_writeBytes hsized bytes
      obtain ⟨rest, happended, hwritten, hgood⟩ := ih (w := w.callback (some bytes)) rfl hone.sized
      rw [hcall]
      refine ⟨bytes ++ rest, hone.trans happended, ?_, ?_⟩
      · intro hsuccess
        rw [hwritten hsuccess, List.flatMap_cons, Option.getD_some]
      · intro hsome
        exact hgood fun call hcall => hsome call (List.mem_cons_of_mem _ hcall)

def Fits (text : List UInt8) : Prop := text.length < bufferSize ∧ 0 ∉ text

def cut (text : List UInt8) : List UInt8 :=
  cString (vsnprintf bufferSize text) bufferSize

theorem cut_eq (text : List UInt8) : cut text = (text.take 1023).takeWhile (· ≠ 0) := by
  have hlength : (text.take 1023 ++ [0]).length ≤ bufferSize := by
    rw [List.length_append, List.length_take]
    exact Nat.add_le_add_right (Nat.min_le_left 1023 text.length) 1
  show ((text.take 1023 ++ [0]).take bufferSize).takeWhile (· ≠ 0) = _
  rw [List.take_of_length_le hlength, List.takeWhile_append]
  split
  · rw [List.takeWhile_cons_of_neg (by simp), List.append_nil]
    rename_i hall
    exact (List.takeWhile_prefix _).eq_of_length hall |>.symm
  · rfl

theorem cut_of_fits {text : List UInt8} (h : Fits text) : cut text = text := by
  rw [cut_eq, List.take_of_length_le (Nat.le_of_lt_succ h.1), List.takeWhile_eq_self_iff]
  intro byte hbyte
  exact decide_eq_true fun hzero => h.2 (hzero ▸ hbyte)

theorem length_cut_le (text : List UInt8) : (cut text).length ≤ 1023 := by
  rw [cut_eq]
  exact ((List.takeWhile_prefix _).length_le).trans (List.length_take_le 1023 text)

theorem textWrites {w : SinkWriter} (h : w.lastResult = .success)
    (hsized : ServerBlock.Sized w.sink.pResponseBlock) (calls : List TextCall) :
    (calls.foldl write w).lastResult = .success ∧
      Appended w.sink (calls.foldl write w).sink
        (calls.flatMap fun call => cut call.formatted) := by
  induction calls generalizing w with
  | nil => exact ⟨h, .refl hsized⟩
  | cons call calls ih =>
    have hcall : write w call = w.callback (some (cut call.formatted)) := by
      rw [write, if_pos h, writeText, if_pos h]
      rfl
    have hone := appended_writeBytes hsized (cut call.formatted)
    rw [List.foldl_cons, hcall, List.flatMap_cons]
    obtain ⟨hresult, happended⟩ := ih (w := w.callback (some (cut call.formatted))) rfl hone.sized
    exact ⟨hresult, hone.trans happended⟩

theorem flatMap_cut {calls : List TextCall} (h : ∀ call ∈ calls, Fits call.formatted) :
    (calls.flatMap fun call => cut call.formatted) = calls.flatMap formatted := by
  apply List.flatMap_congr
  intro call hcall
  exact cut_of_fits (h call hcall)

theorem textEnd (hselected : s.contextState = .textWriterSelected ∨
    s.contextState = .jsonWriterSelected) :
    endWriter ⟨.success, s⟩ =
      (.success, ⟨.success, ⟨.writingCompleted, s.pResponseBlock.write [0]⟩⟩) := by
  rcases hselected with hselected | hselected
  · simp [endWriter, SinkWriter.callback, SinkWriter.reset, ResponseSink.writeBytes,
      hselected]
  · simp [endWriter, SinkWriter.callback, SinkWriter.reset, ResponseSink.writeBytes,
      hselected]

/-! ## JSON writers -/

section Json

variable {σ : Type} {json : RapidJson σ}

def jsonText (json : RapidJson σ) : σ → List JsonEvent → List UInt8
  | _, [] => []
  | state, event :: events =>
    (json.call event state).2.1 ++ jsonText json (json.call event state).2.2 events

def written : JsonCall → JsonEvent
  | .stringOf pValue => .string (some pValue)
  | .int16 value => if 0 ≤ value.toInt then .uint value.toInt32.toUInt32 else .int value.toInt32
  | .int8 value => if 0 ≤ value.toInt then .uint value.toInt32.toUInt32 else .int value.toInt32
  | call => call.event

/-- A value that keeps its meaning when it is passed to `rapidjson::Writer`. -/
def Plain : JsonCall → Prop
  | .stringOf pValue => pValue.length < 2 ^ 32
  | .int16 value => 0 ≤ value.toInt
  | .int8 value => 0 ≤ value.toInt
  | _ => True

theorem written_of_plain {call : JsonCall} (h : Plain call) : written call = call.event := by
  cases call with
  | stringOf pValue =>
    have hlength : pValue.length % 2 ^ 32 = pValue.length := Nat.mod_eq_of_lt h
    rw [JsonCall.event, hlength, List.take_length]
    rfl
  | int16 value => exact if_pos h
  | int8 value => exact if_pos h
  | _ => rfl

theorem jsonWrites_of_failed {w : JsonWriter σ × ResponseSink} (h : w.1.lastResult ≠ .success)
    (calls : List JsonCall) : calls.foldl (JsonWriter.write json) w = w := by
  induction calls with
  | nil => rfl
  | cons call calls ih =>
    rw [List.foldl_cons, JsonWriter.write, if_neg h]
    exact ih

theorem cut_char {chars : List UInt8} (h : 0 ∉ chars) :
    ((chars.map char).flatMap fun call => cut call.formatted) = chars := by
  rw [flatMap_cut]
  · rw [List.flatMap_map]
    exact List.flatMap_singleton' chars
  · intro call hcall
    obtain ⟨byte, hbyte, rfl⟩ := List.mem_map.mp hcall
    refine ⟨by rw [formatted, List.length_singleton]; decide, ?_⟩
    intro hzero
    exact h (List.mem_singleton.mp hzero ▸ hbyte)

theorem jsonWrites (hnul : ∀ event state, 0 ∉ (json.call event state).2.1)
    {w : JsonWriter σ × ResponseSink} (h : w.1.textStream = .success)
    (hsized : ServerBlock.Sized w.2.pResponseBlock) (calls : List JsonCall) :
    (calls.foldl (JsonWriter.write json) w).1.textStream = .success ∧
      ∃ bytes, Appended w.2 (calls.foldl (JsonWriter.write json) w).2 bytes ∧
        ((calls.foldl (JsonWriter.write json) w).1.lastResult = .success →
          bytes = jsonText json w.1.rjWriter (calls.map JsonCall.event)) := by
  induction calls generalizing w with
  | nil => exact ⟨h, [], .refl hsized, fun _ => rfl⟩
  | cons call calls ih =>
    by_cases hlast : w.1.lastResult = .success
    · have hone := textWrites (w := ⟨w.1.textStream, w.2⟩) h hsized
        ((json.call call.event w.1.rjWriter).2.1.map char)
      rw [cut_char (hnul _ _)] at hone
      have hcall : JsonWriter.write json w call = (⟨(((json.call call.event w.1.rjWriter).2.1.map
          char).foldl write ⟨w.1.textStream, w.2⟩).lastResult,
          (json.call call.event w.1.rjWriter).2.2,
          JsonWriter.bool2Result (json.call call.event w.1.rjWriter).1⟩,
          (((json.call call.event w.1.rjWriter).2.1.map char).foldl write
            ⟨w.1.textStream, w.2⟩).sink) := by
        rw [JsonWriter.write, if_pos hlast]
      have hcalled : Appended w.2 (JsonWriter.write json w call).2
          (json.call call.event w.1.rjWriter).2.1 := by
        rw [hcall]
        exact hone.2
      obtain ⟨hstream, bytes, happended, hwritten⟩ :=
        ih (w := JsonWriter.write json w call) (hcall ▸ hone.1) hcalled.sized
      rw [List.foldl_cons]
      refine ⟨hstream, _, hcalled.trans happended, ?_⟩
      intro hsuccess
      rw [hwritten hsuccess, hcall, List.map_cons]
      rfl
    · rw [jsonWrites_of_failed hlast]
      exact ⟨h, [], .refl hsized, fun hsuccess => absurd hsuccess hlast⟩

end Json

section Contexts

variable {σ : Type} {json : RapidJson σ} {c : UriRequestContext σ}

/-- No writer has anything left from the calls to it. -/
structure Settled (json : RapidJson σ) (c : UriRequestContext σ) : Prop where
  byteWriter : c.byteWriter = .success
  textWriter : c.textWriter = .success
  jsonWriter : c.jsonWriter = .new json

/-- A context that waits for a request, any of its writers as it was constructed. -/
structure Ready (json : RapidJson σ) (c : UriRequestContext σ) : Prop extends Settled json c where
  contextState : c.sink.contextState = .writerSelection

structure Serving (json : RapidJson σ) (c : UriRequestContext σ) : Prop where
  byteWriter : c.sink.contextState ≠ .byteWriterSelected → c.byteWriter = .success
  textWriter : c.sink.contextState ≠ .textWriterSelected → c.textWriter = .success
  jsonWriter : c.sink.contextState ≠ .jsonWriterSelected → c.jsonWriter = .new json

theorem Settled.serving (h : Settled json c) : Serving json c :=
  ⟨fun _ => h.byteWriter, fun _ => h.textWriter, fun _ => h.jsonWriter⟩

theorem Serving.settled_endSelected (h : Serving json c) :
    Settled json (c.endSelected json).2 := by
  unfold endSelected
  split <;> rename_i hstate
  · exact ⟨rfl, h.textWriter (by rw [hstate]; nofun), h.jsonWriter (by rw [hstate]; nofun)⟩
  · exact ⟨h.byteWriter (by rw [hstate]; nofun), rfl, h.jsonWriter (by rw [hstate]; nofun)⟩
  · exact ⟨h.byteWriter (by rw [hstate]; nofun), h.textWriter (by rw [hstate]; nofun), rfl⟩
  all_goals exact ⟨h.byteWriter (by rw [hstate]; nofun), h.textWriter (by rw [hstate]; nofun),
    h.jsonWriter (by rw [hstate]; nofun)⟩

theorem Serving.ready_endRequest (h : Serving json c) {serviceResult : Result}
    (hsettled : serviceResult = .success → Settled json c) :
    Ready json (c.endRequest json serviceResult) := by
  unfold endRequest
  by_cases hresult : serviceResult = .success
  · rw [if_pos hresult]
    exact ⟨⟨(hsettled hresult).byteWriter, (hsettled hresult).textWriter,
      (hsettled hresult).jsonWriter⟩, rfl⟩
  · rw [if_neg hresult]
    exact ⟨⟨h.settled_endSelected.byteWriter, h.settled_endSelected.textWriter,
      h.settled_endSelected.jsonWriter⟩, rfl⟩

theorem block_endRequest (h : c.sink.contextState = .writingCompleted) (serviceResult : Result) :
    (c.endRequest json serviceResult).sink.pResponseBlock = c.sink.pResponseBlock := by
  unfold endRequest endSelected
  rw [h]
  split <;> rfl

theorem ready_new : Ready json (.new json) := ⟨⟨rfl, rfl, rfl⟩, rfl⟩

theorem serve_of_ready (h : Ready json c) (request : ContextRequest) :
    c.serve json request = (UriRequestContext.new json).serve json request := by
  have hbegin : c.beginRequest request.format request.block.val =
      (UriRequestContext.new json).beginRequest request.format request.block.val := by
    unfold beginRequest
    rw [h.byteWriter, h.textWriter, h.jsonWriter]
    rfl
  unfold serve
  rw [hbegin]

def everythingWritten (json : RapidJson σ) : ResponseCalls → List UInt8
  | .none | .nullPointer => []
  | .bytes calls => calls.flatMap (·.getD [])
  | .text calls => calls.flatMap formatted ++ [0]
  | .json calls => jsonText json json.fresh (calls.map written) ++ [0]

def beginResult : ResponseCalls → Option Result
  | .none => none
  | .nullPointer => some .uriInvalidParameters
  | .bytes _ | .text _ | .json _ => some .success

/-- A request whose values reach the block as they are, and which does not succeed with a writer
that it left with an error or with a part of a JSON text. -/
def Clean (request : ContextRequest) : Prop :=
  match request.calls with
  | .none | .nullPointer => True
  | .bytes calls => request.endsWriter = false → request.serviceResult = .success →
      ∀ call ∈ calls, call ≠ none
  | .text calls => request.endsWriter = true → ∀ call ∈ calls, Fits call.formatted
  | .json calls => (request.endsWriter = true → ∀ call ∈ calls, Plain call) ∧
      (request.endsWriter = false → request.serviceResult = .success → calls = [])

/-- A request that finds the context ready, sees nothing of the requests before it, and is told the
truth about what is in its block. -/
structure Truthful (json : RapidJson σ)
    (x : UriRequestContext σ × ContextRequest × ContextOutcome) : Prop where
  ready : Ready json x.1
  begun : x.2.2.beginResult = beginResult x.2.1.calls
  independent : x.2.2 = ((UriRequestContext.new json).serve json x.2.1).2
  written : x.2.2.endResult = some .success →
    x.2.2.block.data = x.2.1.block.val.data ++ everythingWritten json x.2.1.calls

def writtenContext (json : RapidJson σ) (request : ContextRequest) : UriRequestContext σ :=
  (((UriRequestContext.new json).beginRequest request.format request.block.val).beginCalls
    request.calls).2.writes json request.calls

theorem served_of_written {request : ContextRequest}
    (hbegun : beginResult request.calls = some .success)
    (hserving : Serving json (writtenContext json request))
    (hsettled : request.endsWriter = false → request.serviceResult = .success →
      Settled json (writtenContext json request))
    (hended : ((writtenContext json request).endSelected json).1 = some .success →
      ((writtenContext json request).endSelected json).2.sink.contextState = .writingCompleted) :
    Ready json ((UriRequestContext.new json).serve json request).1 ∧
      (((UriRequestContext.new json).serve json request).2.endResult = some .success →
        request.endsWriter = true ∧
        ((writtenContext json request).endSelected json).1 = some .success ∧
        ((UriRequestContext.new json).serve json request).2.block =
          ((writtenContext json request).endSelected json).2.sink.pResponseBlock) := by
  have hrespond : ((UriRequestContext.new json).beginRequest request.format
      request.block.val).respond json request.calls request.endsWriter =
      if request.endsWriter then
        ((some .success, ((writtenContext json request).endSelected json).1),
          ((writtenContext json request).endSelected json).2)
      else ((some .success, none), writtenContext json request) := by
    unfold writtenContext
    cases hcalls : request.calls with
    | none => rw [hcalls] at hbegun; cases hbegun
    | nullPointer => rw [hcalls] at hbegun; cases hbegun
    | bytes calls => rfl
    | text calls => rfl
    | json calls => rfl
  unfold serve
  rw [hrespond]
  cases hends : request.endsWriter with
  | false => exact ⟨hserving.ready_endRequest (hsettled hends), nofun⟩
  | true =>
    refine ⟨hserving.settled_endSelected.serving.ready_endRequest
      fun _ => hserving.settled_endSelected, ?_⟩
    intro hsuccess
    exact ⟨rfl, hsuccess, block_endRequest (hended hsuccess) request.serviceResult⟩

end Contexts

/-! ## The three writers -/

section Writers

variable {σ : Type} {json : RapidJson σ} {request : ContextRequest}

theorem byteEnd {s : ResponseSink} (hselected : s.contextState = .byteWriterSelected) :
    ByteWriter.endWriter ⟨.success, s⟩ =
      (.success, ⟨.success, ⟨.writingCompleted, s.pResponseBlock⟩⟩) := by
  simp [ByteWriter.endWriter, SinkWriter.callback, SinkWriter.reset, ResponseSink.writeBytes,
    hselected]

theorem byteEnd_of_failed {w : SinkWriter} (h : w.lastResult ≠ .success) :
    (ByteWriter.endWriter w).1 ≠ .success := by
  rw [ByteWriter.endWriter, if_neg h]
  exact h

/-- A new context serves the request, is ready for the next one, and a success is the truth about
its block. -/
def ServedOnNew (json : RapidJson σ) (request : ContextRequest) : Prop :=
  Ready json ((UriRequestContext.new json).serve json request).1 ∧
    (((UriRequestContext.new json).serve json request).2.endResult = some .success →
      ((UriRequestContext.new json).serve json request).2.block.data =
        request.block.val.data ++ everythingWritten json request.calls)

theorem served_bytes {calls : List (Option (List UInt8))} (hcalls : request.calls = .bytes calls)
    (hclean : request.endsWriter = false → request.serviceResult = .success →
      ∀ call ∈ calls, call ≠ none) :
    ServedOnNew json request := by
  obtain ⟨bytes, happended, hwritten, hgood⟩ := byteWrites
    (w := ⟨.success, ⟨.byteWriterSelected, request.block.val⟩⟩) rfl request.block.property calls
  generalize hw : calls.foldl ByteWriter.writeBytes
    ⟨.success, ⟨.byteWriterSelected, request.block.val⟩⟩ = w at happended hwritten hgood
  have hstate : w.sink.contextState = .byteWriterSelected := happended.contextState
  have hcontext : writtenContext json request =
      ⟨w.sink, URIDataFormat.binary, w.lastResult, .success, .new json⟩ := by
    rw [writtenContext, hcalls, ← hw]
    rfl
  have hend : (writtenContext json request).endSelected json =
      (some (ByteWriter.endWriter w).1,
        (writtenContext json request).setBytes (ByteWriter.endWriter w).2) := by
    rw [hcontext]
    simp only [endSelected, hstate]
    rfl
  have hresult : ((writtenContext json request).endSelected json).1 = some .success →
      w.lastResult = .success := by
    intro hsuccess
    by_contra hfailed
    rw [hend] at hsuccess
    exact byteEnd_of_failed hfailed (Option.some.inj hsuccess)
  have hended : w.lastResult = .success →
      ((writtenContext json request).endSelected json).2.sink =
        ⟨.writingCompleted, w.sink.pResponseBlock⟩ := by
    intro hsuccess
    have hself : w = ⟨.success, w.sink⟩ := by rw [← hsuccess]
    rw [hend, hself, byteEnd hstate]
    rfl
  obtain ⟨hready, hserved⟩ := @served_of_written _ json request
    (by rw [hcalls]; rfl)
    (by
      rw [hcontext]
      exact ⟨fun hother => absurd hstate hother, fun _ => rfl, fun _ => rfl⟩)
    (by
      intro hends hsuccess
      rw [hcontext]
      exact ⟨hgood (hclean hends hsuccess), rfl, rfl⟩)
    (fun hsuccess => by rw [hended (hresult hsuccess)])
  refine ⟨hready, ?_⟩
  intro hsuccess
  obtain ⟨-, hend, hblock⟩ := hserved hsuccess
  rw [hblock, hended (hresult hend), hcalls]
  show w.sink.pResponseBlock.data = _
  rw [happended.data, hwritten (hresult hend)]
  rfl

theorem served_text {calls : List TextCall} (hcalls : request.calls = .text calls) :
    Ready json ((UriRequestContext.new json).serve json request).1 ∧
      (((UriRequestContext.new json).serve json request).2.endResult = some .success →
        request.endsWriter = true ∧ ((UriRequestContext.new json).serve json request).2.block.data =
          request.block.val.data ++ ((calls.flatMap fun call => cut call.formatted) ++ [0])) := by
  obtain ⟨hresult, happended⟩ := textWrites
    (w := ⟨.success, ⟨.textWriterSelected, request.block.val⟩⟩) rfl request.block.property calls
  generalize hw : calls.foldl write
    ⟨.success, ⟨.textWriterSelected, request.block.val⟩⟩ = w at hresult happended
  have hstate : w.sink.contextState = .textWriterSelected := happended.contextState
  have hcontext : writtenContext json request =
      ⟨w.sink, URIDataFormat.text, .success, w.lastResult, .new json⟩ := by
    rw [writtenContext, hcalls, ← hw]
    rfl
  have hended : ((writtenContext json request).endSelected json).2.sink =
      ⟨.writingCompleted, w.sink.pResponseBlock.write [0]⟩ := by
    rw [hcontext, hresult]
    simp only [endSelected, hstate, text,
      textEnd (Or.inl hstate), setText]
  obtain ⟨hready, hserved⟩ := @served_of_written _ json request
    (by rw [hcalls]; rfl)
    (by
      rw [hcontext]
      exact ⟨fun _ => rfl, fun hother => absurd hstate hother, fun _ => rfl⟩)
    (fun _ _ => by
      rw [hcontext]
      exact ⟨rfl, hresult, rfl⟩)
    (fun _ => by rw [hended])
  refine ⟨hready, ?_⟩
  intro hsuccess
  obtain ⟨hends, -, hblock⟩ := hserved hsuccess
  refine ⟨hends, ?_⟩
  rw [hblock, hended]
  show (w.sink.pResponseBlock.write [0]).data = _
  rw [write_data happended.sized, happended.data, List.append_assoc]

theorem served_json {calls : List JsonCall} (hcalls : request.calls = .json calls)
    (hnul : ∀ event state, 0 ∉ (json.call event state).2.1)
    (hplain : request.endsWriter = true → ∀ call ∈ calls, Plain call)
    (hclean : request.endsWriter = false → request.serviceResult = .success → calls = []) :
    ServedOnNew json request := by
  obtain ⟨hstream, bytes, happended, hwritten⟩ := jsonWrites hnul
    (w := (.new json, ⟨.jsonWriterSelected, request.block.val⟩)) rfl request.block.property calls
  generalize hw : calls.foldl (JsonWriter.write json)
    (.new json, ⟨.jsonWriterSelected, request.block.val⟩) = w at hstream happended hwritten
  have hstate : w.2.contextState = .jsonWriterSelected := happended.contextState
  have hcontext : writtenContext json request =
      ⟨w.2, URIDataFormat.text, .success, .success, w.1⟩ := by
    rw [writtenContext, hcalls, ← hw]
    rfl
  have hend : (writtenContext json request).endSelected json =
      (some (if w.1.lastResult = .success then JsonWriter.bool2Result (json.isComplete w.1.rjWriter)
        else w.1.lastResult),
        (writtenContext json request).setJson
          (.new json, ⟨.writingCompleted, w.2.pResponseBlock.write [0]⟩)) := by
    rw [hcontext]
    simp only [endSelected, hstate, JsonWriter.endWriter, hstream,
      textEnd (Or.inr hstate), ne_eq, not_true_eq_false, if_false]
    rfl
  obtain ⟨hready, hserved⟩ := @served_of_written _ json request
    (by rw [hcalls]; rfl)
    (by
      rw [hcontext]
      exact ⟨fun _ => rfl, fun _ => rfl, fun hother => absurd hstate hother⟩)
    (by
      intro hends hsuccess
      rw [hcontext, ← hw, hclean hends hsuccess]
      exact ⟨rfl, rfl, rfl⟩)
    (fun _ => by rw [hend]; rfl)
  refine ⟨hready, ?_⟩
  intro hsuccess
  obtain ⟨hends, hresult, hblock⟩ := hserved hsuccess
  have hlast : w.1.lastResult = .success := by
    by_contra hfailed
    rw [hend, if_neg hfailed] at hresult
    exact hfailed (Option.some.inj hresult)
  have hevents : calls.map written = calls.map JsonCall.event :=
    List.map_congr_left fun call hcall => written_of_plain (hplain hends call hcall)
  rw [hblock, hend, hcalls]
  show (w.2.pResponseBlock.write [0]).data = _
  rw [write_data happended.sized, happended.data, hwritten hlast, List.append_assoc,
    everythingWritten, hevents]
  rfl

theorem served_of_clean (hnul : ∀ event state, 0 ∉ (json.call event state).2.1)
    (hclean : Clean request) :
    ServedOnNew json request := by
  unfold Clean at hclean
  cases hcalls : request.calls with
  | none =>
    unfold ServedOnNew serve
    rw [hcalls]
    exact ⟨(show Settled json _ from ⟨rfl, rfl, rfl⟩).serving.ready_endRequest
      fun _ => ⟨rfl, rfl, rfl⟩, nofun⟩
  | nullPointer =>
    unfold ServedOnNew serve
    rw [hcalls]
    exact ⟨(show Settled json _ from ⟨rfl, rfl, rfl⟩).serving.ready_endRequest
      fun _ => ⟨rfl, rfl, rfl⟩, nofun⟩
  | bytes calls =>
    rw [hcalls] at hclean
    exact served_bytes hcalls hclean
  | text calls =>
    rw [hcalls] at hclean
    refine ⟨(served_text hcalls).1, ?_⟩
    intro hsuccess
    obtain ⟨hends, hdata⟩ := (served_text hcalls).2 hsuccess
    rw [hdata, flatMap_cut (hclean hends), hcalls]
    rfl
  | json calls =>
    rw [hcalls] at hclean
    exact served_json hcalls hnul hclean.1 hclean.2

theorem begun_of_ready {c : UriRequestContext σ} (h : Ready json c) :
    (c.serve json request).2.beginResult = beginResult request.calls := by
  rw [serve_of_ready h]
  unfold serve respond
  cases hcalls : request.calls with
  | none => rfl
  | nullPointer => rfl
  | bytes calls => cases request.endsWriter <;> rfl
  | text calls => cases request.endsWriter <;> rfl
  | json calls => cases request.endsWriter <;> rfl

end Writers

/-- A `rapidjson::Writer` for texts that are one truth value, with whether it has been written. -/
def rootBool : RapidJson Bool where
  fresh := false
  call event hasRoot :=
    match event with
    | .bool value => (true, formatted (.bool value), true)
    | _ => (false, [], hasRoot)
  isComplete := id

theorem rootBool_call (event : JsonEvent) (hasRoot : Bool) :
    0 ∉ (rootBool.call event hasRoot).2.1 := by
  cases event with
  | bool value =>
    show 0 ∉ formatted (.bool value)
    cases value <;> decide
  | _ => exact List.not_mem_nil

def newRequest (calls : ResponseCalls) (serviceResult : Result) : ContextRequest :=
  ⟨URIDataFormat.text, ⟨.new, le_refl _⟩, calls, true, serviceResult⟩

end UriResponses

end DevDriver.Analysis
