import DevDriver.Model.RmtCommon

/-!
# The RMT tokens

Each constructor of rmtTokens.h works on a byte array of its own, which it does not initialize, and
fills it by calls of `SetBits`, a token with a payload by copies behind them. `RmtToken` is a call
of a constructor.
-/

namespace DevDriver.Model

open Library

/-! ## Enumerations

The values of each are numbered from 0 on. -/

inductive RmtTokenType where
  | timestamp
  | resourceUpdate
  | reserved1
  | pageTableUpdate
  | userdata
  | misc
  | resourceReference
  | resourceBind
  | processEvent
  | pageReference
  | cpuMap
  | freeVirtual
  | virtualAllocate
  | resourceCreate
  | timeDelta
  | resourceDestroy

inductive RmtProcessEventType where
  | start
  | ended

inductive RmtUserdataEventType where
  | name
  | snapshot
  | binary
  | callStack
  | rsrcCorrelation
  | markImplicitResource
  | nameV2
  | markImplicitResourceV2

inductive RmtMiscEventType where
  | submitGfx
  | submitCompute
  | submitCopy
  | present
  | invalidateRanges
  | flushMappedMemoryRanged
  | trimMemory
  | profileStart
  | profileEnd

inductive RmtOwner where
  | app
  | pal
  | clientDriver
  | kmd

inductive RmtCommitType where
  | committed
  | placed
  | virtual

inductive RmtResourceType where
  | image
  | buffer
  | gpuEvent
  | borderColorPalette
  | indirectCmdGenerator
  | motionEstimator
  | perfExperiment
  | queryHeap
  | videoDecoder
  | videoEncoder
  | timestamp
  | heap
  | pipeline
  | descriptorHeap
  | descriptorPool
  | cmdAllocator
  | miscInternal
  | workgraph

inductive RmtPageTableUpdateType where
  | discard
  | update
  | transfer

/-- rmtCommon.h. -/
inductive RmtPageSize where
  | unmapped
  | size4KB
  | size64KB
  | size256KB
  | size1MB
  | size2MB

/-- rmtCommon.h, without its deprecated names. -/
inductive RmtHeapType where
  | local
  | invisible
  | system

def RMT_4KB : ℕ := 4 * 1024

def RMT_MAX_USERDATA_STRING_SIZE : ℕ := 1024

/-- `sizeof(uint32) + 1`. -/
def RMT_ENCODED_RESOURCE_ID_SIZE : ℕ := 5

/-- `sizeof(uint64)`. -/
def RMT_ENCODED_NAME_EVENT_TIME_DELAY_SIZE : ℕ := 8

/-- The byte of an `RMT_TOKEN_HEADER`.
rmtTokens.h:141-160 -/
def rmtTokenHeader (type : RmtTokenType) (delta : BitVec 8) : BitVec 8 :=
  BitVec.ofNat 8 (type.ctorIdx % 16 + delta.toNat % 16 * 16)

structure RmtWrite where
  srcVal : BitVec 64
  endBit : ℕ
  startBit : ℕ

namespace RmtTokenData

def writeFields (writes : List RmtWrite) (d : RmtTokenData) : RmtTokenData :=
  writes.foldl (fun d w => d.setBits w.srcVal w.endBit w.startBit) d

def copyBytes (offset : ℕ) (data : List (BitVec 8)) (d : RmtTokenData) : RmtTokenData :=
  if h : offset + data.length ≤ d.pByteData.length then
    { d with
      pByteData := overwrite d.pByteData offset data
      size_le := by
        rw [length_overwrite h]
        exact d.size_le }
  else d

def create (memory : ℕ → BitVec 8) (arraySize sizeInBytes : ℕ) (h : sizeInBytes ≤ arraySize)
    (h' : arraySize < 2 ^ 32) : RmtTokenData where
  pByteData := (List.range arraySize).map memory
  sizeInBytes := sizeInBytes
  size_le := by simpa using h
  size_lt := Nat.lt_of_le_of_lt h h'

end RmtTokenData

def headerWrite (type : RmtTokenType) (delta : BitVec 8) : RmtWrite :=
  ⟨(rmtTokenHeader type delta).setWidth 64, 7, 0⟩

def boolVal (b : Bool) : BitVec 64 := if b then 1 else 0

def memoryBytes (n : ℕ) (x : BitVec (8 * n)) : List (BitVec 8) :=
  (List.range n).map fun i => x.extractLsb' (8 * i) 8

/-! ## The constructors -/

section Constructors

variable (memory : ℕ → BitVec 8)

open RmtTokenData

def rmtMsgTimestamp (timestamp frequency : BitVec 64) : RmtTokenData :=
  (create memory 12 12 (by decide) (by decide)).writeFields
    [⟨.ofNat 64 RmtTokenType.timestamp.ctorIdx, 3, 0⟩,
      ⟨timestamp, 63, 4⟩,
      ⟨frequency, 95, 64⟩]

def rmtMsgTimeDelta (delta : BitVec 64) (numDeltaBytes : BitVec 8)
    (h : numDeltaBytes.toNat ≤ 6) : RmtTokenData :=
  (create memory 7 (numDeltaBytes.toNat + 1) (by omega) (by decide)).writeFields
    [⟨.ofNat 64 RmtTokenType.timeDelta.ctorIdx, 3, 0⟩,
      ⟨numDeltaBytes.setWidth 64, 6, 4⟩,
      ⟨0, 7, 7⟩,
      ⟨delta, numDeltaBytes.toNat * 8 + 7, 8⟩]

def userdataWrites (delta : BitVec 8) (type : RmtUserdataEventType) (payloadSize : ℕ) :
    List RmtWrite :=
  [headerWrite .userdata delta,
    ⟨.ofNat 64 type.ctorIdx, 11, 8⟩,
    ⟨.ofNat 64 payloadSize, 31, 12⟩]

def rmtMsgUserdata (delta : BitVec 8) (type : RmtUserdataEventType) (payloadSize : BitVec 32) :
    RmtTokenData :=
  (create memory 4 4 (by decide) (by decide)).writeFields
    (userdataWrites delta type payloadSize.toNat)

def storedString (pString : List (BitVec 8)) : List (BitVec 8) :=
  pString.take RMT_MAX_USERDATA_STRING_SIZE

theorem length_storedString (pString : List (BitVec 8)) :
    (storedString pString).length ≤ RMT_MAX_USERDATA_STRING_SIZE := List.length_take_le _ _

def rmtMsgUserdataEmbeddedString (delta : BitVec 8) (type : RmtUserdataEventType)
    (pString : List (BitVec 8)) : RmtTokenData :=
  ((create memory (4 + 1024) (4 + (storedString pString).length)
      (Nat.add_le_add_left (length_storedString pString) 4) (by decide)).writeFields
    (userdataWrites delta type (storedString pString).length)).copyBytes 4 (storedString pString)

/-- rmtTokens.h:292-353 -/
def rmtMsgUserdataDebugName (delta : BitVec 8) (pDebugName : Option (List (BitVec 8)))
    (resourceId : BitVec 32) : RmtTokenData :=
  let name := storedString (pDebugName.getD [])
  let stringSize := name.length
  let d := (create memory (4 + 1024 + 1 + RMT_ENCODED_RESOURCE_ID_SIZE)
      (4 + (stringSize + RMT_ENCODED_RESOURCE_ID_SIZE)) (by
        have hname : name.length ≤ 1024 := length_storedString _
        omega) (by decide)).writeFields
    (userdataWrites delta .name (stringSize + RMT_ENCODED_RESOURCE_ID_SIZE))
  ((d.copyBytes 4 name).copyBytes (4 + stringSize) [0]).copyBytes (4 + stringSize + 1)
    (memoryBytes 4 resourceId)

/-- rmtTokens.h:355-419 -/
def rmtMsgUserdataDebugNameV2 (delta : BitVec 8) (pDebugName : List (BitVec 8))
    (resourceId : BitVec 32) (lagTime : BitVec 64) : RmtTokenData :=
  let name := storedString pDebugName
  let stringSize := name.length
  let d := (create memory (4 + 1024 + RMT_ENCODED_RESOURCE_ID_SIZE +
      RMT_ENCODED_NAME_EVENT_TIME_DELAY_SIZE) (4 + (stringSize + (RMT_ENCODED_RESOURCE_ID_SIZE +
        RMT_ENCODED_NAME_EVENT_TIME_DELAY_SIZE))) (by
        have hname : name.length ≤ 1024 := length_storedString _
        omega) (by decide)).writeFields
    (userdataWrites delta .nameV2 (stringSize + (RMT_ENCODED_RESOURCE_ID_SIZE +
        RMT_ENCODED_NAME_EVENT_TIME_DELAY_SIZE)))
  (((d.copyBytes 4 name).copyBytes (4 + stringSize) [0]).copyBytes (4 + stringSize + 1)
    (memoryBytes 4 resourceId)).copyBytes (4 + stringSize + RMT_ENCODED_RESOURCE_ID_SIZE)
      (memoryBytes 8 lagTime)

/-- The byte array is initialized here and in the next constructor.
rmtTokens.h:421-452 -/
def rmtMsgUserdataMarkImplicitResource (delta : BitVec 8) (resourceId : BitVec 32) :
    RmtTokenData :=
  ((create (fun _ => 0) (4 + 4) (4 + 4) (by decide) (by decide)).writeFields
    (userdataWrites delta .markImplicitResource 4)).copyBytes 4 (memoryBytes 4 resourceId)

def rmtMsgUserdataMarkImplicitResourceV2 (delta : BitVec 8) (resourceId : BitVec 32)
    (lagTime : BitVec 64) (heapType : BitVec 8) : RmtTokenData :=
  let d := (create (fun _ => 0) (4 + 13) (4 + 13) (by decide) (by decide)).writeFields
    (userdataWrites delta .markImplicitResourceV2 13)
  ((d.copyBytes 4 (memoryBytes 4 resourceId)).copyBytes (4 + 4) (memoryBytes 8 lagTime)).copyBytes
    (4 + 4 + 8) [heapType]

def rmtMsgUserdataRsrcCorrelation (delta : BitVec 8) (handle dxHandle : BitVec 32) :
    RmtTokenData :=
  let d := (create memory (4 + 8) (4 + 8) (by decide) (by decide)).writeFields
    (userdataWrites delta .rsrcCorrelation 8)
  (d.copyBytes 4 (memoryBytes 4 handle)).copyBytes (4 + 4) (memoryBytes 4 dxHandle)

def rmtMsgMisc (delta : BitVec 8) (type : RmtMiscEventType) : RmtTokenData :=
  (create memory 2 2 (by decide) (by decide)).writeFields
    [headerWrite .misc delta,
      ⟨.ofNat 64 type.ctorIdx, 11, 8⟩,
      ⟨0, 15, 12⟩]

/-- rmtTokens.h:569-627 -/
def rmtMsgPageTableUpdate (delta : BitVec 8) (virtualAddress physicalAddress : BitVec 64)
    (size : BitVec 32) (pageSize : RmtPageSize) (isUnmap : Bool) (processId : BitVec 32)
    (type : RmtPageTableUpdateType) (isHbccMode : Bool) : RmtTokenData :=
  (create memory 18 18 (by decide) (by decide)).writeFields
    [headerWrite .pageTableUpdate delta,
      ⟨virtualAddress >>> 12, 43, 8⟩,
      ⟨physicalAddress >>> 12, 79, 44⟩,
      ⟨size.setWidth 64, 99, 80⟩,
      ⟨.ofNat 64 pageSize.ctorIdx, 102, 100⟩,
      ⟨boolVal isUnmap, 103, 103⟩,
      ⟨processId.setWidth 64, 135, 104⟩,
      ⟨.ofNat 64 type.ctorIdx, 137, 136⟩,
      ⟨boolVal isHbccMode, 138, 138⟩,
      ⟨0, 143, 139⟩]

def rmtMsgProcessEvent (delta : BitVec 8) (processId : BitVec 32) (type : RmtProcessEventType) :
    RmtTokenData :=
  (create memory 6 6 (by decide) (by decide)).writeFields
    [headerWrite .processEvent delta,
      ⟨processId.setWidth 64, 39, 8⟩,
      ⟨.ofNat 64 type.ctorIdx, 47, 40⟩]

/-- rmtTokens.h:660-709 -/
def rmtMsgPageReference (delta : BitVec 8) (pageSize : RmtPageSize) (isCompressed : Bool)
    (pageRefData : BitVec 64) : RmtTokenData :=
  let writes := [headerWrite .pageReference delta,
    ⟨.ofNat 64 pageSize.ctorIdx, 10, 8⟩,
    ⟨boolVal isCompressed, 11, 11⟩,
    ⟨0, 15, 12⟩]
  (create memory 10 10 (by decide) (by decide)).writeFields
    (writes ++ if isCompressed then [⟨pageRefData, 75, 16⟩, ⟨0, 79, 76⟩]
      else [⟨pageRefData, 79, 16⟩])

def rmtMsgResourceReference (delta : BitVec 8) (isRemove : Bool) (virtualAddress : BitVec 64)
    (queueId : BitVec 8) : RmtTokenData :=
  (create memory 8 8 (by decide) (by decide)).writeFields
    [headerWrite .resourceReference delta,
      ⟨boolVal isRemove, 8, 8⟩,
      ⟨virtualAddress, 56, 9⟩,
      ⟨queueId.setWidth 64, 63, 57⟩]

/-- rmtTokens.h:747-782 -/
def rmtMsgResourceBind (delta : BitVec 8) (virtualAddress size : BitVec 64)
    (resourceId : BitVec 32) (isSystemMemory : Bool) : RmtTokenData :=
  (create memory 17 17 (by decide) (by decide)).writeFields
    [headerWrite .resourceBind delta,
      ⟨virtualAddress, 55, 8⟩,
      ⟨size, 99, 56⟩,
      ⟨boolVal isSystemMemory, 100, 100⟩,
      ⟨0, 103, 101⟩,
      ⟨resourceId.setWidth 64, 135, 104⟩]

def rmtMsgCpuMap (delta : BitVec 8) (virtualAddress : BitVec 64) (isUnmap : Bool) :
    RmtTokenData :=
  (create memory 8 8 (by decide) (by decide)).writeFields
    [headerWrite .cpuMap delta,
      ⟨virtualAddress, 55, 8⟩,
      ⟨boolVal isUnmap, 56, 56⟩,
      ⟨0, 63, 57⟩]

def rmtMsgFreeVirtual (delta : BitVec 8) (virtualAddress : BitVec 64) : RmtTokenData :=
  (create memory 7 7 (by decide) (by decide)).writeFields
    [headerWrite .freeVirtual delta,
      ⟨virtualAddress, 55, 8⟩]

/-- rmtTokens.h:838-897 -/
def rmtMsgVirtualAllocate (delta : BitVec 8) (size : BitVec 64) (owner : RmtOwner)
    (virtualAddress : BitVec 64)
    (heapImportance0 heapImportance1 heapImportance2 heapImportance3 : RmtHeapType)
    (heapImportanceCount : BitVec 8) (isExternal : Bool) : RmtTokenData :=
  let rmtSize : BitVec 32 := (size / .ofNat 64 RMT_4KB).setWidth 32 - 1
  (create memory 12 12 (by decide) (by decide)).writeFields
    [headerWrite .virtualAllocate delta,
      ⟨rmtSize.setWidth 64, 31, 8⟩,
      ⟨.ofNat 64 owner.ctorIdx, 33, 32⟩,
      ⟨virtualAddress, 81, 34⟩,
      ⟨.ofNat 64 heapImportance0.ctorIdx, 83, 82⟩,
      ⟨.ofNat 64 heapImportance1.ctorIdx, 85, 84⟩,
      ⟨.ofNat 64 heapImportance2.ctorIdx, 87, 86⟩,
      ⟨.ofNat 64 heapImportance3.ctorIdx, 89, 88⟩,
      ⟨heapImportanceCount.setWidth 64, 92, 90⟩,
      ⟨boolVal isExternal, 93, 93⟩,
      ⟨0, 95, 94⟩]

/-- rmtTokens.h:899-945 -/
def rmtMsgResourceCreate (delta : BitVec 8) (resourceId : BitVec 32) (owner : RmtOwner)
    (ownerCategory : BitVec 8) (commitType : RmtCommitType) (resourceType : RmtResourceType) :
    RmtTokenData :=
  (create memory 7 7 (by decide) (by decide)).writeFields
    [headerWrite .resourceCreate delta,
      ⟨resourceId.setWidth 64, 39, 8⟩,
      ⟨.ofNat 64 owner.ctorIdx, 41, 40⟩,
      ⟨ownerCategory.setWidth 64, 45, 42⟩,
      ⟨.ofNat 64 commitType.ctorIdx, 47, 46⟩,
      ⟨.ofNat 64 resourceType.ctorIdx, 53, 48⟩,
      ⟨0, 55, 54⟩]

/-- rmtTokens.h:947-992 -/
def rmtMsgResourceUpdate (delta : BitVec 8) (resourceId subResourceId : BitVec 32)
    (resourceType : RmtResourceType) (beforeUsageFlags afterUsageFlags : BitVec 16) :
    RmtTokenData :=
  (create memory 14 14 (by decide) (by decide)).writeFields
    [headerWrite .resourceUpdate delta,
      ⟨resourceId.setWidth 64, 39, 8⟩,
      ⟨subResourceId.setWidth 64, 71, 40⟩,
      ⟨.ofNat 64 resourceType.ctorIdx, 77, 72⟩,
      ⟨beforeUsageFlags.setWidth 64, 92, 78⟩,
      ⟨afterUsageFlags.setWidth 64, 107, 93⟩,
      ⟨0, 111, 108⟩]

def rmtMsgResourceDestroy (delta : BitVec 8) (resourceId : BitVec 32) : RmtTokenData :=
  (create memory 5 5 (by decide) (by decide)).writeFields
    [headerWrite .resourceDestroy delta,
      ⟨resourceId.setWidth 64, 39, 8⟩]

end Constructors

/-- A call of a constructor with its arguments.  The delta of a time delta has at most 6 bytes. -/
inductive RmtToken where
  | timestamp (timestamp frequency : BitVec 64)
  | timeDelta (delta : BitVec 64) (numDeltaBytes : BitVec 8) (h : numDeltaBytes.toNat ≤ 6)
  | userdata (delta : BitVec 8) (type : RmtUserdataEventType) (payloadSize : BitVec 32)
  | userdataEmbeddedString (delta : BitVec 8) (type : RmtUserdataEventType)
      (pString : List (BitVec 8))
  | userdataDebugName (delta : BitVec 8) (pDebugName : Option (List (BitVec 8)))
      (resourceId : BitVec 32)
  | userdataDebugNameV2 (delta : BitVec 8) (pDebugName : List (BitVec 8))
      (resourceId : BitVec 32) (lagTime : BitVec 64)
  | userdataMarkImplicitResource (delta : BitVec 8) (resourceId : BitVec 32)
  | userdataMarkImplicitResourceV2 (delta : BitVec 8) (resourceId : BitVec 32)
      (lagTime : BitVec 64) (heapType : BitVec 8)
  | userdataRsrcCorrelation (delta : BitVec 8) (handle dxHandle : BitVec 32)
  | misc (delta : BitVec 8) (type : RmtMiscEventType)
  | pageTableUpdate (delta : BitVec 8) (virtualAddress physicalAddress : BitVec 64)
      (size : BitVec 32) (pageSize : RmtPageSize) (isUnmap : Bool) (processId : BitVec 32)
      (type : RmtPageTableUpdateType) (isHbccMode : Bool)
  | processEvent (delta : BitVec 8) (processId : BitVec 32) (type : RmtProcessEventType)
  | pageReference (delta : BitVec 8) (pageSize : RmtPageSize) (isCompressed : Bool)
      (pageRefData : BitVec 64)
  | resourceReference (delta : BitVec 8) (isRemove : Bool) (virtualAddress : BitVec 64)
      (queueId : BitVec 8)
  | resourceBind (delta : BitVec 8) (virtualAddress size : BitVec 64) (resourceId : BitVec 32)
      (isSystemMemory : Bool)
  | cpuMap (delta : BitVec 8) (virtualAddress : BitVec 64) (isUnmap : Bool)
  | freeVirtual (delta : BitVec 8) (virtualAddress : BitVec 64)
  | virtualAllocate (delta : BitVec 8) (size : BitVec 64) (owner : RmtOwner)
      (virtualAddress : BitVec 64)
      (heapImportance0 heapImportance1 heapImportance2 heapImportance3 : RmtHeapType)
      (heapImportanceCount : BitVec 8) (isExternal : Bool)
  | resourceCreate (delta : BitVec 8) (resourceId : BitVec 32) (owner : RmtOwner)
      (ownerCategory : BitVec 8) (commitType : RmtCommitType) (resourceType : RmtResourceType)
  | resourceUpdate (delta : BitVec 8) (resourceId subResourceId : BitVec 32)
      (resourceType : RmtResourceType) (beforeUsageFlags afterUsageFlags : BitVec 16)
  | resourceDestroy (delta : BitVec 8) (resourceId : BitVec 32)

def RmtToken.build (memory : ℕ → BitVec 8) : RmtToken → RmtTokenData
  | .timestamp time frequency => rmtMsgTimestamp memory time frequency
  | .timeDelta delta numDeltaBytes h => rmtMsgTimeDelta memory delta numDeltaBytes h
  | .userdata delta type payloadSize => rmtMsgUserdata memory delta type payloadSize
  | .userdataEmbeddedString delta type pString =>
    rmtMsgUserdataEmbeddedString memory delta type pString
  | .userdataDebugName delta pDebugName resourceId =>
    rmtMsgUserdataDebugName memory delta pDebugName resourceId
  | .userdataDebugNameV2 delta pDebugName resourceId lagTime =>
    rmtMsgUserdataDebugNameV2 memory delta pDebugName resourceId lagTime
  | .userdataMarkImplicitResource delta resourceId =>
    rmtMsgUserdataMarkImplicitResource delta resourceId
  | .userdataMarkImplicitResourceV2 delta resourceId lagTime heapType =>
    rmtMsgUserdataMarkImplicitResourceV2 delta resourceId lagTime heapType
  | .userdataRsrcCorrelation delta handle dxHandle =>
    rmtMsgUserdataRsrcCorrelation memory delta handle dxHandle
  | .misc delta type => rmtMsgMisc memory delta type
  | .pageTableUpdate delta virtualAddress physicalAddress size pageSize isUnmap processId type
      isHbccMode =>
    rmtMsgPageTableUpdate memory delta virtualAddress physicalAddress size pageSize isUnmap
      processId type isHbccMode
  | .processEvent delta processId type => rmtMsgProcessEvent memory delta processId type
  | .pageReference delta pageSize isCompressed pageRefData =>
    rmtMsgPageReference memory delta pageSize isCompressed pageRefData
  | .resourceReference delta isRemove virtualAddress queueId =>
    rmtMsgResourceReference memory delta isRemove virtualAddress queueId
  | .resourceBind delta virtualAddress size resourceId isSystemMemory =>
    rmtMsgResourceBind memory delta virtualAddress size resourceId isSystemMemory
  | .cpuMap delta virtualAddress isUnmap => rmtMsgCpuMap memory delta virtualAddress isUnmap
  | .freeVirtual delta virtualAddress => rmtMsgFreeVirtual memory delta virtualAddress
  | .virtualAllocate delta size owner virtualAddress heapImportance0 heapImportance1
      heapImportance2 heapImportance3 heapImportanceCount isExternal =>
    rmtMsgVirtualAllocate memory delta size owner virtualAddress heapImportance0 heapImportance1
      heapImportance2 heapImportance3 heapImportanceCount isExternal
  | .resourceCreate delta resourceId owner ownerCategory commitType resourceType =>
    rmtMsgResourceCreate memory delta resourceId owner ownerCategory commitType resourceType
  | .resourceUpdate delta resourceId subResourceId resourceType beforeUsageFlags
      afterUsageFlags =>
    rmtMsgResourceUpdate memory delta resourceId subResourceId resourceType beforeUsageFlags
      afterUsageFlags
  | .resourceDestroy delta resourceId => rmtMsgResourceDestroy memory delta resourceId

end DevDriver.Model
