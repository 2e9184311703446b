import DevDriver.Model.TransferServer
import DevDriver.Model.UriProtocol

/-!
# Response writers of a request context

`URIRequestContext` lends a service one of three writers for the block of its response.  The writers
belong to the context and are used again for every request, so what a request leaves in them is
there for the next one.
-/

namespace DevDriver.Model

open Library

inductive ContextState where
  | writerSelection
  | byteWriterSelected
  | textWriterSelected
  | jsonWriterSelected
  | writingCompleted
  deriving DecidableEq

structure ResponseSink where
  contextState : ContextState
  pResponseBlock : ServerBlock

/-- `URIRequestContext::WriteBytes`, where `none` is the end-of-writer call.
ddURIRequestContext.cpp:13-45 -/
def ResponseSink.writeBytes (pBytes : Option (List UInt8)) (s : ResponseSink) :
    Result × ResponseSink :=
  match pBytes with
  | some bytes => (.success, { s with pResponseBlock := s.pResponseBlock.write bytes })
  | none =>
    match s.contextState with
    | .byteWriterSelected | .textWriterSelected | .jsonWriterSelected =>
      (.success, { s with contextState := .writingCompleted })
    | .writerSelection | .writingCompleted => (.error, s)

/-! ## Byte and text writers -/

/-- A `ByteWriter` or a `TextWriter`, together with what its callback writes to. -/
structure SinkWriter where
  lastResult : Result
  sink : ResponseSink

namespace SinkWriter

/-- `m_lastResult = m_pfnWriter(m_pUserData, pBytes, numBytes)`. -/
def callback (pBytes : Option (List UInt8)) (w : SinkWriter) : SinkWriter :=
  ⟨(w.sink.writeBytes pBytes).1, (w.sink.writeBytes pBytes).2⟩

def reset (w : SinkWriter) : SinkWriter := { w with lastResult := .success }

end SinkWriter

namespace ByteWriter

/-- `WriteBytes`, where `none` is a null pointer.
ddByteWriter.h:54-67 -/
def writeBytes (w : SinkWriter) (pBytes : Option (List UInt8)) : SinkWriter :=
  if w.lastResult = .success then
    match pBytes with
    | some bytes => w.callback (some bytes)
    | none => { w with lastResult := .error }
  else w

/-- `End`.
ddByteWriter.h:38-51 -/
def endWriter (w : SinkWriter) : Result × SinkWriter :=
  let w := if w.lastResult = .success then w.callback none else w
  (w.lastResult, w.reset)

end ByteWriter

/-- A call of a `Write` of a `TextWriter`.  A formatted text is given as the text that its format
and its arguments ask for, and so are the texts of `"%f"`. -/
inductive TextCall where
  | format (text : List UInt8)
  | uint64 (value : UInt64)
  | uint32 (value : UInt32)
  | uint16 (value : UInt16)
  | uint8 (value : UInt8)
  | int64 (value : Int64)
  | int32 (value : Int32)
  | int16 (value : Int16)
  | bool (value : Bool)
  | char (value : UInt8)
  deriving DecidableEq

namespace TextCall

def decimal (value : ℤ) : List UInt8 := (toString value).toUTF8.data.toList

/-- The text that the format of a call and its arguments ask for.
ddTextWriter.cpp:175-248 -/
def formatted : TextCall → List UInt8
  | .format text => text
  | .uint64 value => decimal value.toNat
  | .uint32 value => decimal value.toNat
  | .uint16 value => decimal value.toNat
  | .uint8 value => decimal value.toNat
  | .int64 value => decimal value.toInt
  | .int32 value => decimal value.toInt
  | .int16 value => decimal value.toInt
  | .bool true => "true".toUTF8.data.toList
  | .bool false => "false".toUTF8.data.toList
  | .char value => [value]

end TextCall

namespace TextWriter

abbrev bufferSize : ℕ := 1024

/-- `Platform::Vsnprintf` into a buffer of `dstSize` bytes: the text as far as there is room for
it, and a zero behind it.
ddcPlatform.cpp:175-192 -/
def vsnprintf (dstSize : ℕ) (text : List UInt8) : List UInt8 := text.take (dstSize - 1) ++ [0]

/-- `strnlen` many bytes of a string. -/
def cString (pString : List UInt8) (length : ℕ) : List UInt8 :=
  (pString.take length).takeWhile (· ≠ 0)

/-- `WriteText`, where `none` is a null pointer.
ddTextWriter.cpp:91-129 -/
def writeText (pString : Option (List UInt8)) (length : ℕ) (w : SinkWriter) : SinkWriter :=
  if w.lastResult = .success then
    match pString with
    | some s =>
      if 0 < length then w.callback (some (cString s length))
      else { w with lastResult := .uriInvalidParameters }
    | none => { w with lastResult := .uriInvalidParameters }
  else w

/-- `Write`.  That the text is too long is only printed.
ddTextWriter.cpp:132-172 -/
def write (w : SinkWriter) (call : TextCall) : SinkWriter :=
  if w.lastResult = .success then
    writeText (some (vsnprintf bufferSize call.formatted)) bufferSize w
  else w

/-- `End`.
ddTextWriter.cpp:69-88 -/
def endWriter (w : SinkWriter) : Result × SinkWriter :=
  let w := if w.lastResult = .success then w.callback (some [0]) else w
  let w := if w.lastResult = .success then w.callback none else w
  (w.lastResult, w.reset)

end TextWriter

/-! ## JSON writers -/

/-- The calls of a `rapidjson::Writer`; a `double` is given by its bits. -/
inductive JsonEvent where
  | startArray
  | endArray
  | startObject
  | endObject
  | key (s : Option (List UInt8))
  | string (s : Option (List UInt8))
  | uint64 (value : UInt64)
  | uint (value : UInt32)
  | int64 (value : Int64)
  | int (value : Int32)
  | double (value : UInt64)
  | bool (value : Bool)
  | null
  deriving DecidableEq

/-- `rapidjson::Writer` with states in `σ`: a call says whether it succeeded and which characters
it puts to the stream.  `Reset` leads back to the state of a new writer. -/
structure RapidJson (σ : Type) where
  fresh : σ
  call : JsonEvent → σ → Bool × List UInt8 × σ
  isComplete : σ → Bool

inductive JsonCall where
  | beginList
  | endList
  | beginMap
  | endMap
  | key (pKey : Option (List UInt8))
  | string (pValue : Option (List UInt8))
  | stringOf (pValue : List UInt8)
  | uint64 (value : UInt64)
  | uint32 (value : UInt32)
  | uint16 (value : UInt16)
  | uint8 (value : UInt8)
  | int64 (value : Int64)
  | int32 (value : Int32)
  | int16 (value : Int16)
  | int8 (value : Int8)
  | double (value : UInt64)
  | char (value : UInt8)
  | bool (value : Bool)
  | null
  deriving DecidableEq

/-- The call of the `rapidjson::Writer` in a call of a `JsonWriter`.  The signed types of less than
32 bits are passed to `Uint`, and `stringOf` casts its length to 32 bits.
ddJsonWriter.cpp:51-231 -/
def JsonCall.event : JsonCall → JsonEvent
  | .beginList => .startArray
  | .endList => .endArray
  | .beginMap => .startObject
  | .endMap => .endObject
  | .key pKey => .key pKey
  | .string pValue => .string pValue
  | .stringOf pValue => .string (some (pValue.take (pValue.length % 2 ^ 32)))
  | .uint64 value => .uint64 value
  | .uint32 value => .uint value
  | .uint16 value => .uint value.toUInt32
  | .uint8 value => .uint value.toUInt32
  | .int64 value => .int64 value
  | .int32 value => .int value
  | .int16 value => .uint value.toInt32.toUInt32
  | .int8 value => .uint value.toInt32.toUInt32
  | .double value => .double value
  | .char value => .string (some [value])
  | .bool value => .bool value
  | .null => .null

/-- `JsonWriter`, with the last result of its text stream. -/
structure JsonWriter (σ : Type) where
  textStream : Result
  rjWriter : σ
  lastResult : Result

namespace JsonWriter

variable {σ : Type} (json : RapidJson σ)

def new : JsonWriter σ := ⟨.success, json.fresh, .success⟩

def bool2Result (predicate : Bool) : Result := if predicate then .success else .error

/-- Any of the calls: what `rapidjson::Writer` puts goes to the text stream one by one.
ddJsonWriter.cpp:51-231, ddJsonWriter.h:117 -/
def write (w : JsonWriter σ × ResponseSink) (call : JsonCall) : JsonWriter σ × ResponseSink :=
  if w.1.lastResult = .success then
    let written := json.call call.event w.1.rjWriter
    let stream := (written.2.1.map TextCall.char).foldl TextWriter.write ⟨w.1.textStream, w.2⟩
    (⟨stream.lastResult, written.2.2, bool2Result written.1⟩, stream.sink)
  else w

/-- `End`.
ddJsonWriter.cpp:16-46 -/
def endWriter (w : JsonWriter σ × ResponseSink) : Result × JsonWriter σ × ResponseSink :=
  let jsonResult :=
    if w.1.lastResult = .success then bool2Result (json.isComplete w.1.rjWriter)
    else w.1.lastResult
  let text := TextWriter.endWriter ⟨w.1.textStream, w.2⟩
  (if text.1 ≠ .success then text.1 else jsonResult,
    ⟨text.2.lastResult, json.fresh, .success⟩, text.2.sink)

end JsonWriter

/-! ## Contexts -/

structure UriRequestContext (σ : Type) where
  sink : ResponseSink
  responseDataFormat : URIDataFormat
  byteWriter : Result
  textWriter : Result
  jsonWriter : JsonWriter σ

/-- The calls of a service to the writer it chose, if any.  A writer that is asked for with a null
pointer is not given. -/
inductive ResponseCalls where
  | none
  | nullPointer
  | bytes (calls : List (Option (List UInt8)))
  | text (calls : List TextCall)
  | json (calls : List JsonCall)

/-- What happens between a `Begin` and an `End`: the block of the response, whose chunks have room
for its bytes, the calls of the service, whether it ends its writer, and what it returns. -/
structure ContextRequest where
  format : URIDataFormat
  block : { b : ServerBlock // b.blockDataSize ≤ b.chunks.length }
  calls : ResponseCalls
  endsWriter : Bool
  serviceResult : Result

/-- What the caller and the service see of a request: the results of `Begin…Response` and of the
writer's `End`, the format and the block. -/
structure ContextOutcome where
  beginResult : Option Result
  endResult : Option Result
  format : URIDataFormat
  block : ServerBlock

namespace UriRequestContext

variable {σ : Type} (json : RapidJson σ) (c : UriRequestContext σ)

/-- A new context.
ddURIRequestContext.cpp:48-60 -/
def new : UriRequestContext σ :=
  ⟨⟨.writerSelection, .new⟩, URIDataFormat.unknown, .success, .success, .new json⟩

/-- `Begin`.
ddURIRequestContext.cpp:63-74 -/
def beginRequest (format : URIDataFormat) (block : ServerBlock) : UriRequestContext σ :=
  { c with sink := ⟨.writerSelection, block⟩, responseDataFormat := format }

/-- `BeginByteResponse`, `BeginTextResponse` and `BeginJsonResponse`, by the state that they lead
to and the format that they set.
ddURIRequestContext.cpp:141-215 -/
def beginResponse (ppWriter : Bool) (selected : ContextState) (format : URIDataFormat) :
    Result × UriRequestContext σ :=
  if ppWriter then
    if c.sink.contextState = .writerSelection then
      (.success, { c with
        sink := { c.sink with contextState := selected }, responseDataFormat := format })
    else (.rejected, c)
  else (.uriInvalidParameters, c)

def beginByteResponse (ppWriter : Bool) : Result × UriRequestContext σ :=
  c.beginResponse ppWriter .byteWriterSelected URIDataFormat.binary

def beginTextResponse (ppWriter : Bool) : Result × UriRequestContext σ :=
  c.beginResponse ppWriter .textWriterSelected URIDataFormat.text

def beginJsonResponse (ppWriter : Bool) : Result × UriRequestContext σ :=
  c.beginResponse ppWriter .jsonWriterSelected URIDataFormat.text

/-! The writers of a context, and a context with what their calls left. -/

def bytes : SinkWriter := ⟨c.byteWriter, c.sink⟩
def setBytes (w : SinkWriter) : UriRequestContext σ :=
  { c with byteWriter := w.lastResult, sink := w.sink }
def text : SinkWriter := ⟨c.textWriter, c.sink⟩
def setText (w : SinkWriter) : UriRequestContext σ :=
  { c with textWriter := w.lastResult, sink := w.sink }
def setJson (w : JsonWriter σ × ResponseSink) : UriRequestContext σ :=
  { c with jsonWriter := w.1, sink := w.2 }

/-- The `End` of the writer that the state names.
ddURIRequestContext.cpp:96-118 -/
def endSelected : Option Result × UriRequestContext σ :=
  match c.sink.contextState with
  | .byteWriterSelected =>
    (some (ByteWriter.endWriter c.bytes).1, c.setBytes (ByteWriter.endWriter c.bytes).2)
  | .textWriterSelected =>
    (some (TextWriter.endWriter c.text).1, c.setText (TextWriter.endWriter c.text).2)
  | .jsonWriterSelected =>
    (some (JsonWriter.endWriter json (c.jsonWriter, c.sink)).1,
      c.setJson (JsonWriter.endWriter json (c.jsonWriter, c.sink)).2)
  | .writerSelection | .writingCompleted => (none, c)

/-- `End`.
ddURIRequestContext.cpp:77-123 -/
def endRequest (serviceResult : Result) : UriRequestContext σ :=
  let c := if serviceResult = .success then c else (c.endSelected json).2
  { c with sink := { c.sink with contextState := .writerSelection } }

def writes : ResponseCalls → UriRequestContext σ
  | .none | .nullPointer => c
  | .bytes calls => c.setBytes (calls.foldl ByteWriter.writeBytes c.bytes)
  | .text calls => c.setText (calls.foldl TextWriter.write c.text)
  | .json calls => c.setJson (calls.foldl (JsonWriter.write json) (c.jsonWriter, c.sink))

def beginCalls : ResponseCalls → Option Result × UriRequestContext σ
  | .none => (none, c)
  | .nullPointer => (some (c.beginByteResponse false).1, (c.beginByteResponse false).2)
  | .bytes _ => (some (c.beginByteResponse true).1, (c.beginByteResponse true).2)
  | .text _ => (some (c.beginTextResponse true).1, (c.beginTextResponse true).2)
  | .json _ => (some (c.beginJsonResponse true).1, (c.beginJsonResponse true).2)

def respond (calls : ResponseCalls) (endsWriter : Bool) :
    (Option Result × Option Result) × UriRequestContext σ :=
  let begun := c.beginCalls calls
  if begun.1 = some .success then
    let written := begun.2.writes json calls
    if endsWriter then
      ((begun.1, (written.endSelected json).1), (written.endSelected json).2)
    else ((begun.1, none), written)
  else ((begun.1, none), begun.2)

def serve (request : ContextRequest) : UriRequestContext σ × ContextOutcome :=
  let served := (c.beginRequest request.format request.block.val).respond json request.calls
    request.endsWriter
  let ended := served.2.endRequest json request.serviceResult
  (ended, ⟨served.1.1, served.1.2, ended.responseDataFormat, ended.sink.pResponseBlock⟩)

end UriRequestContext

/-- A request context and the writers it hands out. -/
def uriContextMachine {σ : Type} (json : RapidJson σ) :
    Machine (UriRequestContext σ) ContextRequest ContextOutcome where
  init c := c = .new json
  step c request := some (c.serve json request)

end DevDriver.Model
