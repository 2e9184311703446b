import DevDriver.Library.LittleEndian
import DevDriver.Model.RmtTokens

/-!
# Page-table updates of the kernel trace

The events of `amdgpu_vm_update_ptes` as rmt_ftrace.cpp reads them from a record, the iterator over
the runs of their physical addresses, and `PageTableUpdateTokenEmitter::ProcessAndEmit`.
-/

namespace DevDriver.Model

open Library

/-! ## Records -/

structure TepFormatField where
  offset : ℕ
  size : ℕ
  isDynamic : Bool

/-- A record: the numbers that `ReadNumberField` finds in it, with the widths that the format of the
event gives them, its bytes, and the format of `dst`. -/
structure TepRecord where
  start : Option (BitVec 64)
  stop : Option (BitVec 64)
  flags : Option (BitVec 64)
  nptes : Option (BitVec 32)
  incr : Option (BitVec 64)
  pid : Option (BitVec 32)
  data : List UInt8
  dst : TepFormatField

structure AddressArray where
  present : List (BitVec 64)
  behind : ℕ → BitVec 64

def AddressArray.read (a : AddressArray) (i : ℕ) : BitVec 64 := a.present.getD i (a.behind i)

structure KernelUpdate where
  start : BitVec 64
  flags : BitVec 64
  nptes : BitVec 32
  incr : BitVec 64
  pid : BitVec 32
  dst : AddressArray

/-- `PageTableUpdateEvent` without the fields that nothing reads. -/
structure PageTableUpdateEvent where
  start : BitVec 64
  flags : BitVec 64
  nptes : BitVec 32
  incr : BitVec 64
  pid : BitVec 32
  dst : AddressArray

def readNumber (data : List UInt8) (offset size : ℕ) : ℕ := leNat ((data.drop offset).take size)

/-- Where a field starts, and its size in bytes.
rmt_ftrace.cpp:42-70 -/
def getFieldRaw (field : TepFormatField) (data : List UInt8) : ℕ × ℕ :=
  if field.isDynamic then
    let offset := readNumber data field.offset field.size
    (offset % 2 ^ 16, offset / 2 ^ 16)
  else (field.offset, field.size)

def addressesOf (bytes : List UInt8) : List (BitVec 64) :=
  (List.range (bytes.length / 8)).map fun i => BitVec.ofNat 64 (readNumber bytes (8 * i) 8)

/-- `GetPhysicalAddressArray` into memory that was allocated, if there is any.
rmt_ftrace.cpp:81-108 -/
def getPhysicalAddressArray (record : TepRecord) (memory : Option (ℕ → BitVec 64)) :
    Option AddressArray :=
  let place := getFieldRaw record.dst record.data
  memory.map fun behind => ⟨addressesOf ((record.data.drop place.1).take place.2), behind⟩

/-- The fields of a record; nothing if one was not found or there was no memory.
rmt_ftrace.cpp:131-210 -/
def readRecord (record : TepRecord) (memory : Option (ℕ → BitVec 64)) : Option KernelUpdate := do
  let start ← record.start
  let _ ← record.stop
  let flags ← record.flags
  let nptes ← record.nptes
  let incr ← record.incr
  let pid ← record.pid
  let dst ← getPhysicalAddressArray record memory
  some ⟨start, flags, nptes, incr, pid, dst⟩

/-- What becomes of an update in an event: its address is that of a byte again, and the size of its
pages is cut to 32 bits.
rmt_ftrace.cpp:175-176, 211-216 -/
def KernelUpdate.toEvent (update : KernelUpdate) : PageTableUpdateEvent where
  start := update.start * BitVec.ofNat 64 RMT_4KB
  flags := update.flags
  nptes := update.nptes
  incr := (update.incr.setWidth 32).setWidth 64
  pid := update.pid
  dst := update.dst

/-- `ParsePageTableUpdateEventRecord`; nothing for an event that is not valid.
rmt_ftrace.cpp:116-217 -/
def parsePageTableUpdateEventRecord (record : TepRecord) (memory : Option (ℕ → BitVec 64)) :
    Option PageTableUpdateEvent :=
  (readRecord record memory).map KernelUpdate.toEvent

structure VirPhyAddressPair where
  virtualAddress : BitVec 64
  physicalAddress : BitVec 64
  numPages : BitVec 32

/-- The loop of `Next` from a page on, when so many pages are behind it, with the numbers of the
addresses that it reads.
rmt_ftrace.cpp:315-330 -/
def coalescePages (event : PageTableUpdateEvent) : ℕ → ℕ → ℕ → List ℕ → ℕ × List ℕ
  | 0, _, numCoalescedPages, reads => (numCoalescedPages, reads)
  | n + 1, i, numCoalescedPages, reads =>
    let stride := event.dst.read (i + 1) - event.dst.read i
    if stride = event.incr then
      coalescePages event n (i + 1) (numCoalescedPages + 1) (reads ++ [i + 1, i])
    else (numCoalescedPages, reads ++ [i + 1, i])

/-- `Next`: the pair, the page to go on from, and the addresses that were read.
rmt_ftrace.cpp:301-339 -/
def nextAddressPair (event : PageTableUpdateEvent) (pageMappingIndex : ℕ) :
    Option (VirPhyAddressPair × ℕ × List ℕ) :=
  if pageMappingIndex < event.nptes.toNat then
    let coalesced := coalescePages event (event.nptes.toNat - 1 - pageMappingIndex)
      pageMappingIndex 1 [pageMappingIndex]
    some
      ({ virtualAddress := event.start + BitVec.ofNat 64 pageMappingIndex * event.incr
         physicalAddress := event.dst.read pageMappingIndex
         numPages := BitVec.ofNat 32 coalesced.1 },
        pageMappingIndex + coalesced.1, coalesced.2)
  else none

def getRmtPageSize (pageSize : BitVec 64) : RmtPageSize :=
  if pageSize = 4 * 1024 then .size4KB
  else if pageSize = 64 * 1024 then .size64KB
  else if pageSize = 256 * 1024 then .size256KB
  else if pageSize = 1024 * 1024 then .size1MB
  else if pageSize = 2 * 1024 * 1024 then .size2MB
  else .unmapped

/-- What an emission depends on: the memory that each token is built in, whether the event server
takes it, and the time delta, if it was calculated. -/
structure EmitterEnv where
  memory : ℕ → ℕ → BitVec 8
  accepts : ℕ → Bool
  timeDelta : Option (BitVec 8)

/-- The tokens that the event server has taken, the addresses that were read, each with the size of
its array, and whether all went well. -/
structure Emission where
  tokens : List RmtTokenData
  reads : List (ℕ × ℕ)
  success : Bool

structure UpdateArgs where
  virtualAddress : BitVec 64
  physicalAddress : BitVec 64
  numPages : BitVec 32
  pageSize : RmtPageSize
  isUnmap : Bool
  processId : BitVec 32

def UpdateArgs.token (delta : BitVec 8) (args : UpdateArgs) : RmtToken :=
  .pageTableUpdate delta args.virtualAddress args.physicalAddress args.numPages args.pageSize
    args.isUnmap args.processId .update false

namespace PageTableUpdateEvent

/-- `FLAGS_VALID_MAPPING_MASK` is not set. -/
def isUnmap (event : PageTableUpdateEvent) : Bool := event.flags &&& 0x1 = 0

/-- The event is emitted as one token: its pages are mapped to system memory or not at all. -/
def isSingle (event : PageTableUpdateEvent) : Bool :=
  event.flags &&& 0x2 = 0x2 || event.isUnmap

end PageTableUpdateEvent

namespace Emission

variable (env : EmitterEnv)

def emit (args : UpdateArgs) (e : Emission) : Emission :=
  if env.accepts e.tokens.length then
    { e with tokens := e.tokens ++
      [(args.token (env.timeDelta.getD 0)).build (env.memory e.tokens.length)] }
  else { e with success := false }

/-- The loop over the runs of physical addresses.
page_table_update_token_emitter.cpp:128-151 -/
def emitRuns (event : PageTableUpdateEvent) : ℕ → ℕ → Emission → Emission
  | 0, _, e => e
  | rounds + 1, pageMappingIndex, e =>
    match nextAddressPair event pageMappingIndex with
    | none => e
    | some (pair, pageMappingIndex, reads) =>
      let e := { e with
        reads := e.reads ++ reads.map fun i => (i, event.dst.present.length) }
      let e := e.emit env ⟨pair.virtualAddress, pair.physicalAddress, pair.numPages,
        getRmtPageSize event.incr, event.isUnmap, event.pid⟩
      if e.success then emitRuns event rounds pageMappingIndex e else e

/-- One event, if nothing has failed yet.
page_table_update_token_emitter.cpp:86-154 -/
def processEvent (e : Emission) : Option PageTableUpdateEvent → Emission
  | none => e
  | some event =>
    if e.success then
      if event.isSingle then
        e.emit env ⟨event.start, 0, event.nptes, getRmtPageSize event.incr, event.isUnmap,
          event.pid⟩
      else e.emitRuns env event event.nptes.toNat 0
    else e

def processAndEmit (events : List (Option PageTableUpdateEvent)) : Emission :=
  events.foldl (processEvent env) ⟨[], [], env.timeDelta.isSome⟩

end Emission

end DevDriver.Model
