import DevDriver.Library.BitString

/-!
# The bit fields of an RMT token

`RMT_TOKEN_DATA` writes and reads a field of up to 64 bits a byte at a time.  A byte takes its mask
from its place in the field: the first one, the last one, or one between them.
-/

namespace DevDriver.Model

open Library

/-- The memory behind `pByteData`, of which the token takes the first bytes.  The
largest of the tokens has 1042 bytes. -/
structure RmtTokenData where
  pByteData : List (BitVec 8)
  sizeInBytes : ℕ
  size_le : sizeInBytes ≤ pByteData.length
  size_lt : sizeInBytes < 2 ^ 32

namespace RmtTokenData

structure ByteField where
  srcMask : BitVec 64
  srcShift : ℕ
  bits : ℕ

def numBytes (endBit startBit : ℕ) : ℕ := endBit / 8 + 1 - startBit / 8

/-- The byte with number `i` of a field.
rmtCommon.h:27-35, 49-62, 91-97, 112-125 -/
def byteField (endBit startBit i : ℕ) : ByteField :=
  let startByteBits := 8 - startBit % 8
  let endByteBits := endBit % 8 + 1
  if i = 0 then ⟨.ofNat 64 (2 ^ startByteBits - 1), 8 - startByteBits, startByteBits⟩
  else if i = numBytes endBit startBit - 1 then ⟨.ofNat 64 (2 ^ endByteBits - 1), 0, endByteBits⟩
  else ⟨0xFF, 0, 8⟩

/-- A byte of the destination with the bits of the source put in.
rmtCommon.h:64-73 -/
def setByte (srcVal : BitVec 64) (totalBitsCopied : ℕ) (f : ByteField) (dstByte : BitVec 8) :
    BitVec 8 :=
  let srcByte := ((srcVal >>> totalBitsCopied) &&& f.srcMask).setWidth 8 <<< f.srcShift
  let dstMask := ~~~(f.srcMask <<< f.srcShift)
  (dstByte.setWidth 64 &&& dstMask).setWidth 8 ||| srcByte

/-- The loop of `SetBits`, from the byte with number `i` on.
rmtCommon.h:46-76 -/
def setBitsLoop (srcVal : BitVec 64) (endBit startBit : ℕ) :
    ℕ → ℕ → ℕ → List (BitVec 8) → List (BitVec 8)
  | 0, _, _, bytes => bytes
  | n + 1, i, totalBitsCopied, bytes =>
    let dstIdx := startBit / 8 + i
    let f := byteField endBit startBit i
    setBitsLoop srcVal endBit startBit n (i + 1) (totalBitsCopied + f.bits)
      (bytes.set dstIdx (setByte srcVal totalBitsCopied f (bytes.getD dstIdx 0)))

theorem length_setBitsLoop (srcVal : BitVec 64) (endBit startBit n i totalBitsCopied : ℕ)
    (bytes : List (BitVec 8)) :
    (setBitsLoop srcVal endBit startBit n i totalBitsCopied bytes).length = bytes.length := by
  induction n generalizing i totalBitsCopied bytes with
  | zero => rfl
  | succ n ih => rw [setBitsLoop, ih, List.length_set]

/-- `SetBits`.  A field that does not fit into the token is not written.
rmtCommon.h:22-82 -/
def setBits (srcVal : BitVec 64) (endBit startBit : ℕ) (d : RmtTokenData) : RmtTokenData :=
  if startBit / 8 + numBytes endBit startBit ≤ d.sizeInBytes then
    { d with
      pByteData := setBitsLoop srcVal endBit startBit (numBytes endBit startBit) 0 0 d.pByteData
      size_le := by
        rw [length_setBitsLoop]
        exact d.size_le }
  else d

/-- The bits of a byte of the source that are in the field.
rmtCommon.h:127-132 -/
def getByte (f : ByteField) (srcByte : BitVec 8) : BitVec 64 :=
  (((srcByte.setWidth 32 >>> f.srcShift).setWidth 64 &&& f.srcMask).setWidth 32).setWidth 64

/-- The loop of `GetBits`, from the byte with number `i` on.
rmtCommon.h:108-137 -/
def getBitsLoop (endBit startBit : ℕ) (bytes : List (BitVec 8)) :
    ℕ → ℕ → ℕ → BitVec 64 → BitVec 64
  | 0, _, _, dstVal => dstVal
  | n + 1, i, totalBitsCopied, dstVal =>
    let f := byteField endBit startBit i
    let srcByte := getByte f (bytes.getD (startBit / 8 + i) 0)
    getBitsLoop endBit startBit bytes n (i + 1) (totalBitsCopied + f.bits)
      (dstVal ||| srcByte <<< totalBitsCopied)

/-- `GetBits`; nothing, where it leaves the caller's value as it is.
rmtCommon.h:84-145 -/
def getBits (endBit startBit : ℕ) (d : RmtTokenData) : Option (BitVec 64) :=
  if startBit / 8 + numBytes endBit startBit ≤ d.sizeInBytes then
    some (getBitsLoop endBit startBit d.pByteData (numBytes endBit startBit) 0 0 0)
  else none

end RmtTokenData

end DevDriver.Model
