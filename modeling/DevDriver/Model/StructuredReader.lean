import DevDriver.Library.Buffer
import DevDriver.Library.MessagePack
import DevDriver.Model.Message

/-!
# Structured values from JSON

`IStructuredReader::CreateFromJson` of ddStructuredReader.cpp.
-/

namespace DevDriver.Model

open Library Library.MessagePack

/-- `UINT16_MAX`. -/
abbrev kUint16Max : ℕ := 65535

/-- `UINT32_MAX`. -/
abbrev kUint32Max : ℕ := 4294967295

inductive JsonNumber where
  | int (value : Int32)
  | uint (value : UInt32)
  | int64 (value : Int64)
  | uint64 (value : UInt64)
  | double (bits : UInt64)
  deriving DecidableEq

inductive Json where
  | null
  | bool (value : Bool)
  | number (value : JsonNumber)
  | string (bytes : List UInt8)
  | array (elements : List Json)
  | object (members : List (List UInt8 × Json))

inductive SaxEvent where
  | null
  | bool (value : Bool)
  | number (value : JsonNumber)
  | string (bytes : List UInt8)
  | startObject
  | key (bytes : List UInt8)
  | endObject (memberCount : ℕ)
  | startArray
  | endArray (memberCount : ℕ)
  deriving DecidableEq

mutual

/-- The events of a document.
reader.h:586-700 -/
def Json.events : Json → List SaxEvent
  | .null => [.null]
  | .bool value => [.bool value]
  | .number value => [.number value]
  | .string bytes => [.string bytes]
  | .array elements => .startArray :: (Json.elementEvents elements ++ [.endArray elements.length])
  | .object members => .startObject :: (Json.memberEvents members ++ [.endObject members.length])

def Json.elementEvents : List Json → List SaxEvent
  | [] => []
  | d :: ds => d.events ++ Json.elementEvents ds

def Json.memberEvents : List (List UInt8 × Json) → List SaxEvent
  | [] => []
  | (key, d) :: ds => .key key :: (d.events ++ Json.memberEvents ds)

end

/-- The parser: the document of a well-formed text.  A text without a byte is not well-formed. -/
structure JsonParser where
  document : List UInt8 → Option Json
  documentEmpty : document [] = none

/-- `mpack_writer_t` over a buffer that is not flushed. -/
structure MpackWriter where
  size : ℕ
  buffer : List UInt8
  error : Bool
  deriving DecidableEq

namespace MpackWriter

/-- `mpack_writer_init`. -/
def init (size : ℕ) : MpackWriter := ⟨size, [], false⟩

/-- `mpack_writer_buffer_used`. -/
def bufferUsed (w : MpackWriter) : ℕ := w.buffer.length

/-- `mpack_writer_buffer_left`. -/
def bufferLeft (w : MpackWriter) : ℕ := w.size - w.buffer.length

/-- `mpack_write_native` and `MPACK_WRITE_ENCODED`: the bytes when there is room for them, also
behind an error.
mpack.cpp:1232-1314, 1617-1625 -/
def writeNative (w : MpackWriter) (bytes : List UInt8) : MpackWriter :=
  if w.bufferLeft < bytes.length then { w with error := true }
  else { w with buffer := w.buffer ++ bytes }

def writeNil (w : MpackWriter) : MpackWriter := w.writeNative [0xc0]

def writeBool (w : MpackWriter) (value : Bool) : MpackWriter :=
  w.writeNative [if value then 0xc3 else 0xc2]

/-- The bytes of `mpack_write_u64`.
mpack.cpp:1672-1686 -/
def encodeU64 (value : ℕ) : List UInt8 :=
  if value ≤ 127 then [UInt8.ofNat value]
  else if value ≤ 255 then 0xcc :: beBytes 1 value
  else if value ≤ kUint16Max then 0xcd :: beBytes 2 value
  else if value ≤ kUint32Max then 0xce :: beBytes 4 value
  else 0xcf :: beBytes 8 value

/-- The bytes of `mpack_write_i64`.
mpack.cpp:1750-1785 -/
def encodeI64 (value : ℤ) : List UInt8 :=
  if -32 ≤ value then
    if value ≤ 127 then [UInt8.ofNat (twosComplement 1 value)]
    else if value ≤ 255 then 0xcc :: beBytes 1 value.toNat
    else if value ≤ kUint16Max then 0xcd :: beBytes 2 value.toNat
    else if value ≤ kUint32Max then 0xce :: beBytes 4 value.toNat
    else 0xcf :: beBytes 8 value.toNat
  else if -128 ≤ value then 0xd0 :: beBytes 1 (twosComplement 1 value)
  else if -32768 ≤ value then 0xd1 :: beBytes 2 (twosComplement 2 value)
  else if -2147483648 ≤ value then 0xd2 :: beBytes 4 (twosComplement 4 value)
  else 0xd3 :: beBytes 8 (twosComplement 8 value)

def encodeDouble (bits : UInt64) : List UInt8 := 0xcb :: beBytes 8 bits.toNat

/-- The head of a string.
mpack.cpp:1853-1870 -/
def encodeStr (count : ℕ) : List UInt8 :=
  if count ≤ 31 then [UInt8.ofNat (0xa0 + count)]
  else if count ≤ 255 then 0xd9 :: beBytes 1 count
  else if count ≤ kUint16Max then 0xda :: beBytes 2 count
  else 0xdb :: beBytes 4 count

/-- The head of an array.
mpack.cpp:1825-1837 -/
def encodeArray (count : ℕ) : List UInt8 :=
  if count ≤ 15 then [UInt8.ofNat (0x90 + count)]
  else if count ≤ kUint16Max then 0xdc :: beBytes 2 count
  else 0xdd :: beBytes 4 count

/-- The head of a map.
mpack.cpp:1839-1851 -/
def encodeMap (count : ℕ) : List UInt8 :=
  if count ≤ 15 then [UInt8.ofNat (0x80 + count)]
  else if count ≤ kUint16Max then 0xde :: beBytes 2 count
  else 0xdf :: beBytes 4 count

/-- `mpack_write_str`, which writes a head and a short string together when there is room for both.
mpack.cpp:1944-1997 -/
def writeStr (w : MpackWriter) (data : List UInt8) : MpackWriter :=
  if data.length ≤ 31 then w.writeNative (encodeStr data.length ++ data)
  else if data.length ≤ 255 then
    if data.length + 2 ≤ w.bufferLeft then
      { w with buffer := w.buffer ++ (encodeStr data.length ++ data) }
    else (w.writeNative (encodeStr data.length)).writeNative data
  else (w.writeNative (encodeStr data.length)).writeNative data

end MpackWriter

/-! ## Handling events -/

/-- `PatchInfo::Type`. -/
inductive PatchType where
  | other
  | array
  | object
  deriving DecidableEq

structure PatchInfo where
  type : PatchType := .other
  offset : ℕ := 0
  size : ℕ := 0
  deriving DecidableEq

/-- `RjReaderHandler`, without the statistics.  The patch of the innermost array or object comes
first. -/
structure RjReaderHandler where
  writer : MpackWriter
  openPatches : List PatchInfo
  deriving DecidableEq

namespace RjReaderHandler

def init (sizeEstimate : ℕ) : RjReaderHandler := ⟨.init (max 16 sizeEstimate), []⟩

def writeNumber (w : MpackWriter) : JsonNumber → MpackWriter
  | .int value => w.writeNative (MpackWriter.encodeI64 value.toInt)
  | .uint value => w.writeNative (MpackWriter.encodeU64 value.toNat)
  | .int64 value => w.writeNative (MpackWriter.encodeI64 value.toInt)
  | .uint64 value => w.writeNative (MpackWriter.encodeU64 value.toNat)
  | .double bits => w.writeNative (MpackWriter.encodeDouble bits)

/-- The string and a null byte, whose length is computed in 32 bits.
ddStructuredReader.cpp:197-217 -/
def string (h : RjReaderHandler) (bytes : List UInt8) : RjReaderHandler × Bool :=
  if bytes.length ≤ kUint32Max then
    let count := (bytes.length + 1) % 2 ^ 32
    let writer := ((h.writer.writeNative (MpackWriter.encodeStr count)).writeNative bytes)
    ({ h with writer := writer.writeNative [0] }, true)
  else (h, false)

def key (h : RjReaderHandler) (bytes : List UInt8) : RjReaderHandler × Bool :=
  if bytes.length ≤ kUint32Max then ({ h with writer := h.writer.writeStr bytes }, true)
  else (h, false)

/-- `StartObject` and `StartArray`: a head that is patched later.
ddStructuredReader.cpp:219-240, 299-320 -/
def start (h : RjReaderHandler) (type : PatchType) (head : List UInt8) : RjReaderHandler × Bool :=
  if h.writer.error then (h, false)
  else
    let writer := h.writer.writeNative head
    let info : PatchInfo := ⟨type, h.writer.bufferUsed, writer.bufferUsed - h.writer.bufferUsed⟩
    (⟨writer, info :: h.openPatches⟩, !writer.error)

def startObject (h : RjReaderHandler) : RjReaderHandler × Bool :=
  h.start .object (MpackWriter.encodeMap kUint16Max)

def startArray (h : RjReaderHandler) : RjReaderHandler × Bool :=
  h.start .array (MpackWriter.encodeArray kUint32Max)

/-- The end of an array or an object: the count, in `width` bytes, is stored behind the first byte
of the head.
ddStructuredReader.cpp:255-297, 322-362 -/
def finish (h : RjReaderHandler) (type : PatchType) (width max memberCount : ℕ) :
    RjReaderHandler × Bool :=
  if memberCount < max then
    if h.writer.error then (h, false)
    else
      let info := h.openPatches.headD {}
      let patches := h.openPatches.tail
      if info.size = width + 1 ∧ info.type = type ∧
          info.offset + info.size ≤ h.writer.bufferUsed then
        let buffer := overwrite h.writer.buffer (info.offset + 1) (beBytes width memberCount)
        (⟨{ h.writer with buffer := buffer }, patches⟩, true)
      else ({ h with openPatches := patches }, false)
  else (h, false)

def endObject (h : RjReaderHandler) (memberCount : ℕ) : RjReaderHandler × Bool :=
  h.finish .object 2 kUint16Max memberCount

def endArray (h : RjReaderHandler) (memberCount : ℕ) : RjReaderHandler × Bool :=
  h.finish .array 4 kUint32Max memberCount

def handle (h : RjReaderHandler) : SaxEvent → RjReaderHandler × Bool
  | .null => ({ h with writer := h.writer.writeNil }, true)
  | .bool value => ({ h with writer := h.writer.writeBool value }, true)
  | .number value => ({ h with writer := writeNumber h.writer value }, true)
  | .string bytes => h.string bytes
  | .startObject => h.startObject
  | .key bytes => h.key bytes
  | .endObject memberCount => h.endObject memberCount
  | .startArray => h.startArray
  | .endArray memberCount => h.endArray memberCount

def parse (h : RjReaderHandler) : List SaxEvent → RjReaderHandler × Bool
  | [] => (h, true)
  | event :: events =>
    match h.handle event with
    | (h', true) => h'.parse events
    | (h', false) => (h', false)

/-- `RjReaderHandler::Finish`, with the buffer that is left.
ddStructuredReader.cpp:94-107 -/
def finishBuffer (h : RjReaderHandler) : Result × List UInt8 :=
  (if h.writer.error then .error else .success, h.writer.buffer)

end RjReaderHandler

/-- `MessagePackReader::Init` and `GetRoot`.  An item cannot nest deeper than it has bytes.
ddStructuredReader.cpp:532-592 -/
def MessagePackReader.init (buffer : List UInt8) : Result × Option Item :=
  match readItem buffer.length buffer with
  | some (root, _) => (.success, some root)
  | none => (.invalidParameter, none)

/-- `IStructuredReader::CreateFromJson`, with the root of the value.
ddStructuredReader.cpp:770-887 -/
def createFromJson (parser : JsonParser) (text : List UInt8) : Result × Option Item :=
  match text, parser.document text with
  | [], _ | _, none => (.invalidParameter, none)
  | _, some document =>
    let messagepackSizeEstimate := (2 * text.length) % 2 ^ 64
    match (RjReaderHandler.init messagepackSizeEstimate).parse document.events with
    | (_, false) => (.invalidParameter, none)
    | (handler, true) =>
      match handler.finishBuffer with
      | (.success, buffer) => MessagePackReader.init buffer
      | (result, _) => (result, none)

/-- A string without the null byte at its end.
ddStructuredReader.cpp:1175-1224 -/
def getStringCopy (raw : List UInt8) : List UInt8 :=
  if raw.getLast? = some 0 then raw.dropLast else raw

mutual

/-- What `StructuredValue` shows of an item.  The keys of a map are compared as they are. -/
def structuredValue : Item → Item
  | .str raw => .str (getStringCopy raw)
  | .array elements => .array (structuredElements elements)
  | .map members => .map (structuredMembers members)
  | item => item

def structuredElements : List Item → List Item
  | [] => []
  | item :: items => structuredValue item :: structuredElements items

def structuredMembers : List (Item × Item) → List (Item × Item)
  | [] => []
  | (key, item) :: items => (key, structuredValue item) :: structuredMembers items

end

end DevDriver.Model
