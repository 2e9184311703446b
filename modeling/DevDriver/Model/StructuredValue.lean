import DevDriver.Library.Buffer
import DevDriver.Model.Message

/-!
# Values of a structured document

A `StructuredValue` is a node of the tree that `mpack` parses a document into.  All nodes of a
document share the tree, and the tree has an error state: once it is set, every function of `mpack`
gives up.  The accessors set it back.
-/

namespace DevDriver.Model

open Library

/-- `mpack_error_t`.
mpack.h:1368-1379 -/
inductive MpackError where
  | ok
  | io
  | invalid
  | unsupported
  | type
  | tooBig
  | memory
  | bug
  | data
  | eof
  deriving DecidableEq

/-- `mpack_type_t`, without extensions.
mpack.h:1394-1415 -/
inductive MpackType where
  | missing
  | nil
  | bool
  | int
  | uint
  | float
  | double
  | str
  | bin
  | array
  | map
  deriving DecidableEq

/-- `mpack_node_data_t`.  A float or a double is given by its bits. -/
inductive MpackNode where
  | missing
  | nil
  | bool (b : Bool)
  | int (i : Int64)
  | uint (u : UInt64)
  | float (bits : UInt32)
  | double (bits : UInt64)
  | str (offset : ℕ) (len : UInt32)
  | bin (offset : ℕ) (len : UInt32)
  | array (children : List MpackNode)
  | map (children : List (MpackNode × MpackNode))

def MpackNode.type : MpackNode → MpackType
  | .missing => .missing
  | .nil => .nil
  | .bool _ => .bool
  | .int _ => .int
  | .uint _ => .uint
  | .float _ => .float
  | .double _ => .double
  | .str _ _ => .str
  | .bin _ _ => .bin
  | .array _ => .array
  | .map _ => .map

/-- `mpack_tree_t`. -/
structure MpackTree where
  data : List UInt8
  root : MpackNode
  error : MpackError

abbrev MpackM := StateM MpackTree

/-! ## The functions of `mpack` -/

def mpackNodeError : MpackM MpackError := return (← get).error

/-- The first error stays.
mpack.cpp:5317-5335 -/
def mpackNodeFlagError (error : MpackError) : MpackM Unit :=
  modify fun tree => if tree.error = .ok then { tree with error := error } else tree

def mpackTreeRoot : MpackM MpackNode := do
  if (← mpackNodeError) ≠ .ok then return .nil
  else return (← get).root

def mpackNodeType (node : MpackNode) : MpackM MpackType := do
  if (← mpackNodeError) ≠ .ok then return .nil
  else return node.type

def mpackNodeIsNil (node : MpackNode) : MpackM Bool := do
  if (← mpackNodeError) ≠ .ok then return true
  else return decide (node.type = .nil)

def mpackNodeIsMissing (node : MpackNode) : MpackM Bool := do
  if (← mpackNodeError) ≠ .ok then return false
  else return decide (node.type = .missing)

def mpackNodeRead {α : Type} (failed : α) (read : MpackNode → Option α) (node : MpackNode) :
    MpackM α := do
  if (← mpackNodeError) ≠ .ok then return failed
  else
    match read node with
    | some value => return value
    | none =>
      mpackNodeFlagError .type
      return failed

def mpackNodeBool : MpackNode → MpackM Bool :=
  mpackNodeRead false fun
    | .bool b => some b
    | _ => none

/-- A number of either type, if it is within the bounds of the type that is read. -/
def numberWithin (min max : ℤ) : MpackNode → Option ℤ
  | .uint u => if (u.toNat : ℤ) ≤ max then some u.toNat else none
  | .int i => if min ≤ i.toInt ∧ i.toInt ≤ max then some i.toInt else none
  | _ => none

def mpackNodeU8 : MpackNode → MpackM ℤ := mpackNodeRead 0 (numberWithin 0 (2 ^ 8 - 1))

def mpackNodeI8 : MpackNode → MpackM ℤ := mpackNodeRead 0 (numberWithin (-2 ^ 7) (2 ^ 7 - 1))

def mpackNodeU16 : MpackNode → MpackM ℤ := mpackNodeRead 0 (numberWithin 0 (2 ^ 16 - 1))

def mpackNodeI16 : MpackNode → MpackM ℤ :=
  mpackNodeRead 0 (numberWithin (-2 ^ 15) (2 ^ 15 - 1))

def mpackNodeU32 : MpackNode → MpackM ℤ := mpackNodeRead 0 (numberWithin 0 (2 ^ 32 - 1))

def mpackNodeI32 : MpackNode → MpackM ℤ :=
  mpackNodeRead 0 (numberWithin (-2 ^ 31) (2 ^ 31 - 1))

def mpackNodeU64 : MpackNode → MpackM ℤ := mpackNodeRead 0 (numberWithin 0 (2 ^ 64 - 1))

def mpackNodeI64 : MpackNode → MpackM ℤ :=
  mpackNodeRead 0 (numberWithin (-2 ^ 63) (2 ^ 63 - 1))

def mpackNodeFloatStrict : MpackNode → MpackM UInt32 :=
  mpackNodeRead 0 fun
    | .float bits => some bits
    | _ => none

inductive MpackDouble where
  | ofFloat (bits : UInt32)
  | ofBits (bits : UInt64)
  deriving DecidableEq

def mpackNodeDoubleStrict : MpackNode → MpackM MpackDouble :=
  mpackNodeRead (.ofBits 0) fun
    | .float bits => some (.ofFloat bits)
    | .double bits => some (.ofBits bits)
    | _ => none

def mpackNodeStrlen : MpackNode → MpackM ℕ :=
  mpackNodeRead 0 fun
    | .str _ len => some len.toNat
    | _ => none

/-- The pointer to the characters.
mpack.cpp:6323-6333 -/
def mpackNodeStr : MpackNode → MpackM (Option ℕ) :=
  mpackNodeRead none fun
    | .str offset _ => some (some offset)
    | _ => none

def mpackNodeArrayLength : MpackNode → MpackM ℕ :=
  mpackNodeRead 0 fun
    | .array children => some children.length
    | _ => none

/-- mpack.cpp:6385-6400 -/
def mpackNodeArrayAt (node : MpackNode) (index : ℕ) : MpackM MpackNode := do
  if (← mpackNodeError) ≠ .ok then return .nil
  else
    match node with
    | .array children =>
      match children[index]? with
      | some child => return child
      | none =>
        mpackNodeFlagError .data
        return .nil
    | _ =>
      mpackNodeFlagError .type
      return .nil

def isKey (data str : List UInt8) : MpackNode → Bool
  | .str offset len => decide (len.toNat = str.length ∧ slice data offset len.toNat = str)
  | _ => false

/-- The value that the loop of `mpack_node_map_str_impl` finds, or nothing where it finds two. -/
def mapStrLoop (data str : List UInt8) :
    Option MpackNode → List (MpackNode × MpackNode) → Option (Option MpackNode)
  | found, [] => some found
  | found, (key, value) :: children =>
    if isKey data str key then
      if found.isSome then none else mapStrLoop data str (some value) children
    else mapStrLoop data str found children

/-- mpack.cpp:5878-5909 -/
def mpackNodeMapStrImpl (node : MpackNode) (str : List UInt8) : MpackM (Option MpackNode) := do
  if (← mpackNodeError) ≠ .ok then return none
  else
    match node with
    | .map children =>
      match mapStrLoop (← get).data str none children with
      | some found => return found
      | none =>
        mpackNodeFlagError .data
        return none
    | _ =>
      mpackNodeFlagError .type
      return none

def mpackNodeMapCstrOptional (node : MpackNode) (cstr : List UInt8) : MpackM MpackNode := do
  match ← mpackNodeMapStrImpl node cstr with
  | some found => return found
  | none => return if (← mpackNodeError) = .ok then .missing else .nil

/-- mpack.cpp:748-844 -/
def mpackUtf8Check : List UInt8 → Bool
  | [] => true
  | lead :: str =>
    if lead ≤ 0x7F then mpackUtf8Check str
    else if lead &&& 0xE0 = 0xC0 then
      match str with
      | cont :: str =>
        let z := (lead &&& ~~~0xE0).toNat * 2 ^ 6 + (cont &&& ~~~0xC0).toNat
        decide (cont &&& 0xC0 = 0x80 ∧ 0x80 ≤ z) && mpackUtf8Check str
      | [] => false
    else if lead &&& 0xF0 = 0xE0 then
      match str with
      | cont1 :: cont2 :: str =>
        let z := (lead &&& ~~~0xF0).toNat * 2 ^ 12 + (cont1 &&& ~~~0xC0).toNat * 2 ^ 6 +
          (cont2 &&& ~~~0xC0).toNat
        decide (cont1 &&& 0xC0 = 0x80 ∧ cont2 &&& 0xC0 = 0x80 ∧ 0x800 ≤ z ∧
          ¬(0xD800 ≤ z ∧ z ≤ 0xDFFF)) && mpackUtf8Check str
      | _ => false
    else if lead &&& 0xF8 = 0xF0 then
      match str with
      | cont1 :: cont2 :: cont3 :: str =>
        let z := (lead &&& ~~~0xF8).toNat * 2 ^ 18 + (cont1 &&& ~~~0xC0).toNat * 2 ^ 12 +
          (cont2 &&& ~~~0xC0).toNat * 2 ^ 6 + (cont3 &&& ~~~0xC0).toNat
        decide (cont1 &&& 0xC0 = 0x80 ∧ cont2 &&& 0xC0 = 0x80 ∧ cont3 &&& 0xC0 = 0x80 ∧
          0x10000 ≤ z ∧ z ≤ 0x10FFFF) && mpackUtf8Check str
      | _ => false
    else false

/-- What a copy leaves in the buffer, and the bytes of the document that it reads. -/
structure MpackCopy where
  buffer : List UInt8
  reads : List ℕ
  deriving DecidableEq

/-- mpack.cpp:5611-5635 -/
def mpackNodeCopyUtf8 (node : MpackNode) (buffer : List UInt8) : MpackM MpackCopy := do
  if (← mpackNodeError) ≠ .ok then return ⟨buffer, []⟩
  else
    match node with
    | .str offset len =>
      if len.toNat > buffer.length then
        mpackNodeFlagError .tooBig
        return ⟨buffer, []⟩
      else
        let str := slice (← get).data offset len.toNat
        let reads := List.range' offset len.toNat
        if mpackUtf8Check str then return ⟨overwrite buffer 0 str, reads⟩
        else
          mpackNodeFlagError .type
          return ⟨buffer, reads⟩
    | _ =>
      mpackNodeFlagError .type
      return ⟨buffer, []⟩

/-- mpack.cpp:5637-5669 -/
def mpackNodeCopyCstr (node : MpackNode) (buffer : List UInt8) : MpackM MpackCopy := do
  if (← mpackNodeError) ≠ .ok then return ⟨buffer.set 0 0, []⟩
  else
    match node with
    | .str offset len =>
      if len.toNat > buffer.length - 1 then
        mpackNodeFlagError .tooBig
        return ⟨buffer.set 0 0, []⟩
      else
        let str := slice (← get).data offset len.toNat
        let reads := List.range' offset len.toNat
        if 0 ∈ str then
          mpackNodeFlagError .type
          return ⟨buffer.set 0 0, reads⟩
        else return ⟨(overwrite buffer 0 str).set len.toNat 0, reads⟩
    | _ =>
      mpackNodeFlagError .type
      return ⟨buffer.set 0 0, []⟩

/-! ## The accessors -/

namespace StructuredValue

def packNode (node : MpackNode) : MpackM MpackNode := do
  modify fun tree => if tree.error ≠ .ok then { tree with error := .ok } else tree
  return node

def resetInternalErrorState : MpackM Bool := do
  let error ← mpackNodeError
  modify fun tree => { tree with error := .ok }
  return decide (error = .ok)

/-- `StructuredValue::Type`.
ddStructuredReader.h:40-51 -/
inductive ValueType where
  | null
  | array
  | map
  | str
  | bool
  | int
  | uint
  | double
  | float
  deriving DecidableEq

/-- ddStructuredReader.cpp:986-1014 -/
def getType (node : MpackNode) : MpackM ValueType := do
  match ← mpackNodeType node with
  | .bool => return .bool
  | .int => return .int
  | .uint => return .uint
  | .float => return .float
  | .double => return .double
  | .str => return .str
  | .array => return .array
  | .map => return .map
  | .bin | .missing | .nil => return .null

def makeNull : MpackM MpackNode := packNode .nil

def isNull (node : MpackNode) : MpackM Bool := do
  if ← mpackNodeIsNil node then return true
  else mpackNodeIsMissing node

/-- The accessors that read a scalar: whether they succeed, and what they write through the
pointer, if there is one.
ddStructuredReader.cpp:1036-1173 -/
def getScalar {α : Type} (read : MpackNode → MpackM α) (pValue : Bool) (node : MpackNode) :
    MpackM (Bool × Option α) := do
  let value ← read node
  let error ← mpackNodeError
  let written := if pValue ∧ error = .ok then some value else none
  return (← resetInternalErrorState, written)

def getBool : Bool → MpackNode → MpackM (Bool × Option Bool) := getScalar mpackNodeBool

def getUint64 : Bool → MpackNode → MpackM (Bool × Option ℤ) := getScalar mpackNodeU64

def getUint32 : Bool → MpackNode → MpackM (Bool × Option ℤ) := getScalar mpackNodeU32

def getUint16 : Bool → MpackNode → MpackM (Bool × Option ℤ) := getScalar mpackNodeU16

def getUint8 : Bool → MpackNode → MpackM (Bool × Option ℤ) := getScalar mpackNodeU8

def getInt64 : Bool → MpackNode → MpackM (Bool × Option ℤ) := getScalar mpackNodeI64

def getInt32 : Bool → MpackNode → MpackM (Bool × Option ℤ) := getScalar mpackNodeI32

def getInt16 : Bool → MpackNode → MpackM (Bool × Option ℤ) := getScalar mpackNodeI16

def getInt8 : Bool → MpackNode → MpackM (Bool × Option ℤ) := getScalar mpackNodeI8

def getFloat : Bool → MpackNode → MpackM (Bool × Option UInt32) := getScalar mpackNodeFloatStrict

def getDouble : Bool → MpackNode → MpackM (Bool × Option MpackDouble) :=
  getScalar mpackNodeDoubleStrict

/-- The byte that `pUtf8[len - 1]` reads, which is in front of an empty string. -/
def lastByteAddress (pUtf8 len : ℕ) : ℕ := pUtf8 + len - 1

structure StringCopy where
  success : Bool
  stringSize : Option ℕ
  buffer : List UInt8
  reads : List ℕ
  deriving DecidableEq

/-- The copy with a terminator behind it, or as it is.
ddStructuredReader.cpp:1207-1220 -/
def copyString (needsNull : Bool) (pBuffer : List UInt8) (node : MpackNode) : MpackM MpackCopy :=
  if needsNull then mpackNodeCopyCstr node pBuffer else mpackNodeCopyUtf8 node pBuffer

/-- ddStructuredReader.cpp:1175-1224 -/
def getStringCopy (pBuffer : List UInt8) (pStringSize : Bool) (node : MpackNode) :
    MpackM StringCopy := do
  let pUtf8 ← mpackNodeStr node
  let len ← mpackNodeStrlen node
  if (← mpackNodeError) = .ok then
    let data := (← get).data
    let lastRead := (pUtf8.map (lastByteAddress · len)).toList
    let needsNull := !(lastRead.any fun address => data.getD address 0 = 0)
    let stringSize := if needsNull then len else (len + (2 ^ 64 - 1)) % 2 ^ 64
    let written := if pStringSize then some stringSize else none
    if 0 < pBuffer.length then
      let copy ← copyString needsNull pBuffer node
      return ⟨← resetInternalErrorState, written, copy.buffer, lastRead ++ copy.reads⟩
    else return ⟨← resetInternalErrorState, written, pBuffer, lastRead⟩
  else return ⟨← resetInternalErrorState, none, pBuffer, []⟩

/-- What `GetStringPtr` returns, and the bytes of the document that it reads. -/
structure StringPtr where
  pointer : Option ℕ
  reads : List ℕ
  deriving DecidableEq

/-- ddStructuredReader.cpp:1226-1249 -/
def getStringPtr (node : MpackNode) : MpackM StringPtr := do
  let len ← mpackNodeStrlen node
  let pUtf8 ← mpackNodeStr node
  let error ← mpackNodeError
  let data := (← get).data
  let lastRead := if error = .ok then (pUtf8.map (lastByteAddress · len)).toList else []
  let valid := lastRead.any fun address => data.getD address 0 = 0
  let ok ← resetInternalErrorState
  return ⟨if valid && ok then pUtf8 else none, lastRead⟩

/-- `GetValueByKey` and `GetValueByIndex`: the node that is found is packed, which clears the error
state before it is looked at. -/
def getValue (lookup : MpackNode → MpackM MpackNode) (pValue : Bool) (node : MpackNode) :
    MpackM (Bool × Option MpackNode) := do
  if pValue then
    let value ← packNode (← lookup node)
    if ← resetInternalErrorState then
      return (decide ((← getType value) ≠ .null), some value)
    else return (false, some value)
  else return (false, none)

def getValueByKey (pKey : List UInt8) : Bool → MpackNode → MpackM (Bool × Option MpackNode) :=
  getValue (mpackNodeMapCstrOptional · pKey)

def getValueByIndex (index : ℕ) : Bool → MpackNode → MpackM (Bool × Option MpackNode) :=
  getValue (mpackNodeArrayAt · index)

def isMap (node : MpackNode) : MpackM Bool := return decide ((← mpackNodeType node) = .map)

def isArray (node : MpackNode) : MpackM Bool := return decide ((← mpackNodeType node) = .array)

def getArrayLength (node : MpackNode) : MpackM ℕ := do
  let length ← mpackNodeArrayLength node
  let _ ← resetInternalErrorState
  return length

end StructuredValue

/-- `MessagePackReader::Init` behind the parsing.
ddStructuredReader.cpp:564-568 -/
def MessagePackReader.initResult (tree : MpackTree) : Result :=
  if tree.error = .ok then .success else .invalidParameter

def MessagePackReader.getRoot : MpackM MpackNode := do
  StructuredValue.packNode (← mpackTreeRoot)

/-- A call of an accessor, without the node that it is made on.  A pointer to write through is given
by whether it is there. -/
inductive ValueCall where
  | getRoot
  | getType
  | makeNull
  | isNull
  | getBool (pValue : Bool)
  | getUint64 (pNum : Bool)
  | getUint32 (pNum : Bool)
  | getUint16 (pNum : Bool)
  | getUint8 (pNum : Bool)
  | getInt64 (pNum : Bool)
  | getInt32 (pNum : Bool)
  | getInt16 (pNum : Bool)
  | getInt8 (pNum : Bool)
  | getFloat (pNum : Bool)
  | getDouble (pNum : Bool)
  | getStringCopy (pBuffer : List UInt8) (pStringSize : Bool)
  | getStringPtr
  | getValueByKey (pKey : List UInt8) (pValue : Bool)
  | getValueByIndex (index : ℕ) (pValue : Bool)
  | isMap
  | isArray
  | getArrayLength

inductive ValueAnswer where
  | node (node : MpackNode)
  | type (type : StructuredValue.ValueType)
  | flag (value : Bool)
  | bool (answer : Bool × Option Bool)
  | number (answer : Bool × Option ℤ)
  | float (answer : Bool × Option UInt32)
  | double (answer : Bool × Option MpackDouble)
  | copy (answer : StructuredValue.StringCopy)
  | pointer (answer : StructuredValue.StringPtr)
  | value (answer : Bool × Option MpackNode)
  | length (length : ℕ)

/-- ddStructuredReader.cpp:589-592, 986-1303 -/
def ValueCall.run (node : MpackNode) : ValueCall → MpackM ValueAnswer
  | .getRoot => return .node (← MessagePackReader.getRoot)
  | .getType => return .type (← StructuredValue.getType node)
  | .makeNull => return .node (← StructuredValue.makeNull)
  | .isNull => return .flag (← StructuredValue.isNull node)
  | .getBool pValue => return .bool (← StructuredValue.getBool pValue node)
  | .getUint64 pNum => return .number (← StructuredValue.getUint64 pNum node)
  | .getUint32 pNum => return .number (← StructuredValue.getUint32 pNum node)
  | .getUint16 pNum => return .number (← StructuredValue.getUint16 pNum node)
  | .getUint8 pNum => return .number (← StructuredValue.getUint8 pNum node)
  | .getInt64 pNum => return .number (← StructuredValue.getInt64 pNum node)
  | .getInt32 pNum => return .number (← StructuredValue.getInt32 pNum node)
  | .getInt16 pNum => return .number (← StructuredValue.getInt16 pNum node)
  | .getInt8 pNum => return .number (← StructuredValue.getInt8 pNum node)
  | .getFloat pNum => return .float (← StructuredValue.getFloat pNum node)
  | .getDouble pNum => return .double (← StructuredValue.getDouble pNum node)
  | .getStringCopy pBuffer pStringSize =>
    return .copy (← StructuredValue.getStringCopy pBuffer pStringSize node)
  | .getStringPtr => return .pointer (← StructuredValue.getStringPtr node)
  | .getValueByKey pKey pValue => return .value (← StructuredValue.getValueByKey pKey pValue node)
  | .getValueByIndex index pValue =>
    return .value (← StructuredValue.getValueByIndex index pValue node)
  | .isMap => return .flag (← StructuredValue.isMap node)
  | .isArray => return .flag (← StructuredValue.isArray node)
  | .getArrayLength => return .length (← StructuredValue.getArrayLength node)

def runCalls : List (MpackNode × ValueCall) → MpackM Unit
  | [] => return
  | (node, call) :: calls => do
    let _ ← call.run node
    runCalls calls

end DevDriver.Model
