import DevDriver.Library.Buffer
import Mathlib.Algebra.Group.Nat.Defs

/-!
# Hex strings and bit fields

`EncodeToHexString` and `DecodeFromHexString`, and the functions that set and get the bit fields of
events.  They work on buffers of the caller.  A null pointer is a buffer without bytes, and an
access outside a buffer is `none`.
-/

namespace DevDriver.Model

open Library

/-! ## Hex strings -/

inductive HexStringFmt where
  | lowercase
  | uppercase
  deriving DecidableEq

/-- `kHexStringLookupLower` and `kHexStringLookupUpper`. -/
def HexStringFmt.lookup : HexStringFmt → List UInt8
  | .lowercase => [48, 49, 50, 51, 52, 53, 54, 55, 56, 57, 97, 98, 99, 100, 101, 102]
  | .uppercase => [48, 49, 50, 51, 52, 53, 54, 55, 56, 57, 65, 66, 67, 68, 69, 70]

def HexStringFmt.digit (fmt : HexStringFmt) (nibble : UInt8) : UInt8 :=
  fmt.lookup.getD nibble.toNat 0

/-- `pBuffer[index] = value`. -/
def store (pBuffer : List UInt8) (index : ℕ) (value : UInt8) : Option (List UInt8) :=
  if index < pBuffer.length then some (overwrite pBuffer index [value]) else none

/-- The loop of `EncodeToHexString`, over the bytes from the current one on.
string.h:117-147 -/
def encodeLoop (fmt : HexStringFmt) :
    List UInt8 → ℕ → List UInt8 → Option (ℕ × List UInt8)
  | [], strIdx, pStrBuff => some (strIdx, pStrBuff)
  | byte :: bytes, strIdx, pStrBuff =>
    if strIdx + 2 < pStrBuff.length then do
      let pStrBuff ← store pStrBuff strIdx (fmt.digit (byte >>> 4))
      let pStrBuff ← store pStrBuff (strIdx + 1) (fmt.digit (byte &&& 0xf))
      encodeLoop fmt bytes (strIdx + 2) pStrBuff
    else some (strIdx, pStrBuff)

/-- The number of characters written and the buffer.
string.h:100-155 -/
def encodeToHexString (fmt : HexStringFmt) (pBytes pStrBuff : List UInt8) :
    Option (ℕ × List UInt8) :=
  if pBytes.length ≠ 0 ∧ pStrBuff.length ≠ 0 then do
    let (strIdx, pStrBuff) ← encodeLoop fmt pBytes 0 pStrBuff
    let pStrBuff ← store pStrBuff strIdx 0
    some (strIdx + 1, pStrBuff)
  else some (0, pStrBuff)

/-- string.h:161-188 -/
def hexDigitToValue (c : UInt8) : UInt8 :=
  if 48 ≤ c ∧ c ≤ 57 then c - 48
  else match c with
    | 97 | 65 => 0xa
    | 98 | 66 => 0xb
    | 99 | 67 => 0xc
    | 100 | 68 => 0xd
    | 101 | 69 => 0xe
    | 102 | 70 => 0xf
    | _ => 0xff

/-- The loop of `DecodeFromHexString`, over the characters from the current pair on.  The number of
bytes processed is the index of the next byte.
string.cpp:19-45 -/
def decodeLoop : List UInt8 → ℕ → List UInt8 → Option (ℕ × List UInt8)
  | c₁ :: c₂ :: text, byteIdx, pBytes =>
    if byteIdx < pBytes.length then
      let hi := hexDigitToValue c₁
      let lo := hexDigitToValue c₂
      if lo ≠ 0xff ∧ hi ≠ 0xff then do
        let pBytes ← store pBytes byteIdx (hi <<< 4 ||| lo)
        decodeLoop text (byteIdx + 1) pBytes
      else some (byteIdx, pBytes)
    else some (byteIdx, pBytes)
  | _, byteIdx, pBytes => some (byteIdx, pBytes)

/-- The number of bytes written and the buffer.
string.cpp:9-49 -/
def decodeFromHexString (pStrBuff pBytes : List UInt8) : Option (ℕ × List UInt8) :=
  if pStrBuff.length % 2 = 0 ∧ pBytes.length ≠ 0 ∧ pStrBuff.length ≠ 0 then
    decodeLoop pStrBuff 0 pBytes
  else some (0, pBytes)

/-- The bits of a byte of the buffer that an iteration of the loops of `DDEventSetBits` and
`DDEventGetBits` is about. -/
structure ByteField where
  srcMask : BitVec 64
  srcShift : ℕ
  bits : ℕ

/-- `numBytes`. -/
def numFieldBytes (startBit endBit : ℕ) : ℕ := endBit / 8 - startBit / 8 + 1

def byteField (startBit endBit i : ℕ) : ByteField :=
  let startByteBits := 8 - startBit % 8
  let endByteBits := endBit % 8 + 1
  if i = 0 then ⟨BitVec.ofNat 64 (2 ^ startByteBits - 1), 8 - startByteBits, startByteBits⟩
  else if i = numFieldBytes startBit endBit - 1 then
    ⟨BitVec.ofNat 64 (2 ^ endByteBits - 1), 0, endByteBits⟩
  else ⟨0xFF, 0, 8⟩

/-- An iteration of `DDEventSetBits`, with the buffer and `totalBitsCopied`.  There is no result for
a shift by 64 or a byte outside the buffer.
utils.h:47-78 -/
def setByteField (startBit endBit : ℕ) (srcValue : BitVec 64) (s : List (BitVec 8) × ℕ) (i : ℕ) :
    Option (List (BitVec 8) × ℕ) :=
  let field := byteField startBit endBit i
  let dstIdx := startBit / 8 + i
  if s.2 < 64 ∧ dstIdx < s.1.length then
    let srcByte := ((srcValue >>> s.2) &&& field.srcMask).setWidth 8 <<< field.srcShift
    let dstMask := (~~~(field.srcMask <<< field.srcShift)).setWidth 8
    some (s.1.set dstIdx ((s.1.getD dstIdx 0 &&& dstMask) ||| srcByte), s.2 + field.bits)
  else none

def ddEventSetBits (pBuffer : List (BitVec 8)) (startBit endBit : ℕ) (srcValue : BitVec 64) :
    Option (List (BitVec 8)) :=
  ((List.range (numFieldBytes startBit endBit)).foldlM (setByteField startBit endBit srcValue)
    (pBuffer, 0)).map Prod.fst

/-- An iteration of `DDEventGetBits`, with `dstVal` and `totalBitsCopied`.
utils.h:107-136 -/
def getByteField (pBuffer : List (BitVec 8)) (startBit endBit : ℕ) (s : BitVec 64 × ℕ) (i : ℕ) :
    Option (BitVec 64 × ℕ) :=
  let field := byteField startBit endBit i
  let srcIdx := startBit / 8 + i
  if s.2 < 64 ∧ srcIdx < pBuffer.length then
    let srcByte := ((pBuffer.getD srcIdx 0).setWidth 64 >>> field.srcShift) &&& field.srcMask
    some (s.1 ||| srcByte <<< s.2, s.2 + field.bits)
  else none

def ddEventGetBits (pBuffer : List (BitVec 8)) (startBit endBit : ℕ) : Option (BitVec 64) :=
  ((List.range (numFieldBytes startBit endBit)).foldlM (getByteField pBuffer startBit endBit)
    (0, 0)).map Prod.fst

end DevDriver.Model
