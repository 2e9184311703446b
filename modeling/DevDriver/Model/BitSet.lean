import DevDriver.Library.BitString
import DevDriver.Library.Machine
import DevDriver.Model.Message

/-!
# Bit sets

A `BitSet` keeps its bits in dwords. `FixedBitSet` has an array of them that its type decides, and
`DynamicBitSet` a vector that follows the size.
-/

namespace DevDriver.Model

open Library (Machine setByteAt setBytesAt)

abbrev BitDword := BitVec (8 * 4)

inductive BitSetStorage where
  | fixedBitStorage
  | dynamicBitStorage
  deriving DecidableEq

/-- A set of bits.
ddBitSet.h:14-161 -/
structure BitSet where
  storage : BitSetStorage
  dwords : List BitDword
  numBits : ℕ
  deriving DecidableEq

namespace BitSet

/-- `Pow2Align<size_t>(numBits, 32) / 32`.
ddcTemplate.h:104-107, ddBitSet.h:201, 251 -/
def numDwordsFor (numBits : ℕ) : ℕ := (numBits + 31) % 2 ^ 64 / 32

/-- The constructor, which zeroes the storage.
ddBitSet.h:18-22, 174-178, 219-226 -/
def create (storage : BitSetStorage) (numStorageBits : ℕ) : BitSet where
  storage := storage
  dwords := .replicate (numDwordsFor numStorageBits) 0
  numBits := numStorageBits

def sizeInBytes (s : BitSet) : ℕ := s.dwords.length * 4

/-- `Resize` of the two storages.
ddBitSet.h:190-198, 249-259, vector.h:390-404 -/
def resize (numBits : ℕ) (s : BitSet) : Result × BitSet :=
  match s.storage with
  | .fixedBitStorage => (.unavailable, s)
  | .dynamicBitStorage =>
    let numDwords := numDwordsFor numBits
    (.success, { s with
      dwords := s.dwords.take numDwords ++ .replicate (numDwords - s.dwords.length) 0
      numBits := numBits })

def updateBitData (data : List (BitVec 8)) (s : BitSet) : BitSet :=
  let copySize := min s.sizeInBytes data.length
  { s with dwords := setBytesAt s.dwords 0 (data.take copySize) }

/-- The dword and the place in it of a bit, unless it is outside the storage.
ddBitSet.h:136-154 -/
def calculateIndex (bitIndex : ℕ) (s : BitSet) : Option (ℕ × ℕ) :=
  let dwordIndex := bitIndex >>> 5
  let localBitIndex := bitIndex &&& 31
  if dwordIndex < s.dwords.length then some (dwordIndex, localBitIndex) else none

/-- `1 << localBitIndex`. -/
def bitMask (localBitIndex : ℕ) : BitDword := (1 : BitDword) <<< localBitIndex

def queryBit (bitIndex : ℕ) (s : BitSet) : Bool :=
  match s.calculateIndex bitIndex with
  | some (dwordIndex, localBitIndex) =>
    decide (s.dwords.getD dwordIndex 0 &&& bitMask localBitIndex ≠ 0)
  | none => false

def setBit (bitIndex : ℕ) (s : BitSet) : BitSet :=
  match s.calculateIndex bitIndex with
  | some (dwordIndex, localBitIndex) =>
    let dword := s.dwords.getD dwordIndex 0
    { s with dwords := s.dwords.set dwordIndex (dword ||| bitMask localBitIndex) }
  | none => s

def resetBit (bitIndex : ℕ) (s : BitSet) : BitSet :=
  match s.calculateIndex bitIndex with
  | some (dwordIndex, localBitIndex) =>
    let dword := s.dwords.getD dwordIndex 0
    { s with dwords := s.dwords.set dwordIndex (dword &&& ~~~bitMask localBitIndex) }
  | none => s

/-- `SetAllBits`, unless it writes outside the storage.
ddBitSet.h:109-126 -/
def setAllBits (s : BitSet) : Option BitSet :=
  let fullBytes := s.numBits / 8
  let bits := s.numBits % 8
  if fullBytes + (if 0 < bits then 1 else 0) ≤ s.sizeInBytes then
    let filled := setBytesAt s.dwords 0 (.replicate fullBytes 0xFF)
    let lastByte := (1 : BitVec 8) <<< bits - 1
    some { s with dwords := if 0 < bits then setByteAt filled fullBytes lastByte else filled }
  else none

def resetAllBits (s : BitSet) : BitSet :=
  { s with dwords := .replicate s.dwords.length 0 }

end BitSet

/-- The calls of a bit set. -/
inductive BitSetAction where
  | resize (numBits : ℕ)
  | updateBitData (data : List (BitVec 8))
  | queryBit (bitIndex : ℕ)
  | setBit (bitIndex : ℕ)
  | resetBit (bitIndex : ℕ)
  | setAllBits
  | resetAllBits
  deriving DecidableEq

inductive BitSetAnswer where
  | nothing
  | result (result : Result)
  | bit (bitValue : Bool)
  deriving DecidableEq

/-- ddBitSet.h:40-133 -/
def BitSet.step (s : BitSet) : BitSetAction → Option (BitSet × BitSetAnswer)
  | .resize numBits => some ((s.resize numBits).2, .result (s.resize numBits).1)
  | .updateBitData data => some (s.updateBitData data, .nothing)
  | .queryBit bitIndex => some (s, .bit (s.queryBit bitIndex))
  | .setBit bitIndex => some (s.setBit bitIndex, .nothing)
  | .resetBit bitIndex => some (s.resetBit bitIndex, .nothing)
  | .setAllBits => s.setAllBits.map fun t => (t, .nothing)
  | .resetAllBits => some (s.resetAllBits, .nothing)

/-- A bit set with its calls, from its creation on. -/
def bitSetMachine (storage : BitSetStorage) (numStorageBits : ℕ) :
    Machine BitSet BitSetAction BitSetAnswer where
  init s := s = .create storage numStorageBits
  step := BitSet.step

end DevDriver.Model
