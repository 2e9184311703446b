import DevDriver.Library.ByteStore
import DevDriver.Library.LittleEndian

/-!
# Events of the kernel crash analysis

The records of kernel_crash_analysis.h with their `ToBuffer` and `FromBuffer`. All structs are
packed.
-/

namespace DevDriver.Model

open Library

inductive WordSize where
  | bits32
  | bits64
  deriving DecidableEq

/-- `size_t` has so many values. -/
def WordSize.modulus : WordSize → ℕ
  | .bits32 => 2 ^ 32
  | .bits64 => 2 ^ 64

/-- `Platform::Memcpy_s` from one memory to another, at some addresses.
ddcPosixPlatform.cpp:820-847 -/
def memcpyS (dst : ℕ → UInt8) (dstPos dstSize : ℕ) (src : ℕ → UInt8) (srcPos srcSize : ℕ) :
    ℕ → UInt8 :=
  if srcSize = 0 then dst
  else if dstSize < srcSize then writeAt dst dstPos (List.replicate dstSize 0)
  else writeAt dst dstPos (readAt src srcPos srcSize)

def uint32At (memory : ℕ → UInt8) (pos : ℕ) : BitVec 32 :=
  BitVec.ofNat 32 (leNat (readAt memory pos 4))

/-! ## Records with an array -/

/-- `MmrRegisterInfo`, and `WaveRegisterInfo` with the same fields. -/
structure RegisterInfo where
  offset : BitVec 32
  data : BitVec 32

structure MmrRegistersData where
  version : BitVec 32
  gpuId : BitVec 32
  numRegisters : BitVec 32
  registerInfos : List RegisterInfo
  length_eq : registerInfos.length = numRegisters.toNat

structure GrbmStatusSeRegs where
  version : BitVec 32
  grbmStatusSe0 : BitVec 32
  grbmStatusSe1 : BitVec 32
  grbmStatusSe2 : BitVec 32
  grbmStatusSe3 : BitVec 32
  grbmStatusSe4 : BitVec 32
  grbmStatusSe5 : BitVec 32

/-- `WaveInfo`; the ids are bits of `shaderId`. -/
structure WaveInfo where
  version : BitVec 32
  shaderId : BitVec 32

/-- `ShaderWaves`.  `HangType` is an enumeration over `uint32_t`. -/
structure ShaderWaves where
  version : BitVec 32
  gpuId : BitVec 32
  typeOfHang : BitVec 32
  grbmStatusSeRegs : GrbmStatusSeRegs
  numberOfHungWaves : BitVec 32
  numberOfActiveWaves : BitVec 32
  waveInfos : List WaveInfo
  length_eq : waveInfos.length = numberOfHungWaves.toNat + numberOfActiveWaves.toNat

structure SeRegsInfo where
  version : BitVec 32
  spiDebugBusy : BitVec 32
  sqDebugStsGlobal : BitVec 32
  sqDebugStsGlobal2 : BitVec 32

structure SeInfo where
  version : BitVec 32
  gpuId : BitVec 32
  numSe : BitVec 32
  seRegsInfos : List SeRegsInfo
  length_eq : seRegsInfos.length = numSe.toNat

structure WaveRegistersData where
  version : BitVec 32
  shaderId : BitVec 32
  numRegisters : BitVec 32
  registerInfos : List RegisterInfo
  length_eq : registerInfos.length = numRegisters.toNat

/-- What the functions of a record with an array depend on: `sizeof` of the struct, which has one
entry, that of an entry, and the number of entries by the counts that stand in a record. -/
structure CountedLayout where
  structSize : ℕ
  entrySize : ℕ
  countIn : (ℕ → UInt8) → BitVec 32

def getNumMmrRegistersFromBuffer (buffer : ℕ → UInt8) : BitVec 32 := uint32At buffer 8

def getTotalNumWavesFromBuffer (buffer : ℕ → UInt8) : BitVec 32 :=
  uint32At buffer 40 + uint32At buffer 44

def getTotalSeRegsInfosFromBuffer (buffer : ℕ → UInt8) : BitVec 32 := uint32At buffer 8

def getNumWaveRegistersFromBuffer (buffer : ℕ → UInt8) : BitVec 32 := uint32At buffer 8

namespace CountedLayout

def mmrRegistersData : CountedLayout := ⟨20, 8, getNumMmrRegistersFromBuffer⟩

def shaderWaves : CountedLayout := ⟨56, 8, getTotalNumWavesFromBuffer⟩

def seInfo : CountedLayout := ⟨28, 16, getTotalSeRegsInfosFromBuffer⟩

def waveRegistersData : CountedLayout := ⟨20, 8, getNumWaveRegistersFromBuffer⟩

variable (layout : CountedLayout) (word : WordSize)

/-- The count less one has 32 bits, the size those of `size_t`.
kernel_crash_analysis.h:124-128, 223-227, 286-290, 342-346 -/
def calculateBufferSize (count : BitVec 32) : ℕ :=
  (layout.structSize + layout.entrySize * (count - 1).toNat) % word.modulus

def calculateStructureSize (count : BitVec 32) : ℕ :=
  let count := if 1 > count then 1 else count
  (layout.structSize + layout.entrySize * (count - 1).toNat) % word.modulus

/-- `FromBuffer` into memory at `this`: the size, and the memory.
kernel_crash_analysis.h:136-142, 243-249, 298-304, 354-360 -/
def fromBuffer (this buffer : ℕ → UInt8) : ℕ × (ℕ → UInt8) :=
  let count := layout.countIn buffer
  let copySize := layout.calculateBufferSize word count
  (copySize, memcpyS this 0 (layout.calculateStructureSize word count) buffer 0 copySize)

/-- The size, and the memory at the buffer.
kernel_crash_analysis.h:144-149, 251-256, 306-311, 362-367 -/
def toBuffer (this buffer : ℕ → UInt8) : ℕ × (ℕ → UInt8) :=
  let copySize := layout.calculateBufferSize word (layout.countIn this)
  (copySize, memcpyS buffer 0 copySize this 0 copySize)

end CountedLayout

def copyFields (dst src : ℕ → UInt8) : List ℕ → ℕ → ℕ × (ℕ → UInt8)
  | [], copySize => (copySize, dst)
  | size :: sizes, copySize =>
    copyFields (memcpyS dst copySize size src copySize size) src sizes (copySize + size)

/-- `PageFault`, with as much of `processName` as is used. -/
structure PageFault where
  vmId : BitVec 32
  processId : BitVec 32
  pageFaultAddress : BitVec 64
  processName : List UInt8
  length_le : processName.length ≤ 64

namespace PageFault

/-- `processNameLength`. -/
def nameLengthAt (memory : ℕ → UInt8) : ℕ := leNat (readAt memory 16 2)

/-- `PageFault::FromBuffer` into memory at `this`.
kernel_crash_analysis.h:51-66 -/
def fromBuffer (this buffer : ℕ → UInt8) : ℕ → UInt8 :=
  let (_, this) := copyFields this buffer [4, 4, 8, 2] 0
  memcpyS this 18 64 buffer 18 (nameLengthAt this)

/-- The size, and the memory at the buffer.
kernel_crash_analysis.h:68-92 -/
def toBuffer (this buffer : ℕ → UInt8) : ℕ × (ℕ → UInt8) :=
  copyFields buffer this [4, 4, 8, 2, nameLengthAt this] 0

end PageFault

structure GprRegistersData where
  version : BitVec 32
  shaderId : BitVec 32
  workItem : BitVec 32
  isVgpr : Bool
  regToRead : BitVec 32
  reg : Fin 256 → BitVec 32

namespace GprRegistersData

/-- `GprRegistersData::FromBuffer` into memory at `this`.
kernel_crash_analysis.h:383-402 -/
def fromBuffer (this buffer : ℕ → UInt8) : ℕ → UInt8 :=
  (copyFields this buffer [4, 4, 4, 1, 4, 1024] 0).2

/-- The size, and the memory at the buffer.
kernel_crash_analysis.h:404-430 -/
def toBuffer (this buffer : ℕ → UInt8) : ℕ × (ℕ → UInt8) :=
  copyFields buffer this [4, 4, 4, 1, 4, 1024] 0

end GprRegistersData

end DevDriver.Model
