import DevDriver.Library.Groups
import DevDriver.Library.Machine
import DevDriver.Model.Message

/-!
# Hash containers

`HashBase` of util/hashBase.h, with the operations of `HashMap`.  The entries of a bucket are kept
in a chain of groups with room for `kEntriesInBucket` entries each, which are taken in turn from
blocks of memory of growing size.
-/

namespace DevDriver.Model

open Library

/-- The parameters of the container: the hash functor, the number of buckets as a power of two, and
how many entries a group has room for. -/
structure HashShape (Key : Type) where
  hashFunc : Key → UInt32
  log2Buckets : ℕ
  kEntriesInBucket : ℕ
  one_le : 1 ≤ kEntriesInBucket

variable {Key Value : Type}

namespace HashShape

def kPaddedNumBuckets (shape : HashShape Key) : ℕ := 2 ^ shape.log2Buckets

/-- The bucket of a key.
hashBase.h:630-631 -/
def bucket (shape : HashShape Key) (key : Key) : ℕ :=
  (shape.hashFunc key).toNat &&& (shape.kPaddedNumBuckets - 1)

end HashShape

structure HashMapEntry (Key Value : Type) where
  key : Key
  value : Value
  deriving DecidableEq

/-- Its memory, by the number of the allocation, and the group to be taken next. -/
structure MemBlock where
  pMemory : Option ℕ
  curBucket : ℕ
  deriving DecidableEq

/-- A block without memory. -/
def MemBlock.zero : MemBlock := ⟨none, 0⟩

/-- `HashBase`; `m_curBlock` is none for `-1`. -/
structure HashBase (Key Value : Type) where
  numEntries : ℕ
  blocks : ℕ → MemBlock
  curBlock : Option ℕ
  buckets : List (List (List (HashMapEntry Key Value)))

/-- The allocator: how many allocations it has made, and those that were freed. -/
structure BlockHeap where
  allocated : ℕ
  freed : List ℕ
  deriving DecidableEq

namespace HashBase

/-- A new container.
hashBase.h:264-271 -/
def new (shape : HashShape Key) : HashBase Key Value where
  numEntries := 0
  blocks := fun _ => .zero
  curBlock := none
  buckets := List.replicate shape.kPaddedNumBuckets []

variable (t : HashBase Key Value)

def chain (bucket : ℕ) : List (List (HashMapEntry Key Value)) := t.buckets.getD bucket []

def entries : List (HashMapEntry Key Value) := t.buckets.flatten.flatten

def onChain (bucket : ℕ)
    (f : List (List (HashMapEntry Key Value)) → List (List (HashMapEntry Key Value))) :
    HashBase Key Value :=
  { t with buckets := t.buckets.modify bucket f }

def usedBlocks : ℕ := t.curBlock.elim 0 (· + 1)

def setBlock (block : ℕ) (b : MemBlock) : HashBase Key Value :=
  { t with blocks := Function.update t.blocks block b }

/-- A block without memory is given some, if there is any.
hashBase.h:663-669 -/
def callocBlock (canAllocate : Bool) (block : ℕ) (heap : BlockHeap) :
    HashBase Key Value × BlockHeap :=
  if (t.blocks block).pMemory = none ∧ canAllocate then
    (t.setBlock block { t.blocks block with pMemory := some heap.allocated },
      { heap with allocated := heap.allocated + 1 })
  else (t, heap)

/-- A group is taken from a block that has memory.
hashBase.h:678-681 -/
def takeGroup (block : ℕ) : Bool × HashBase Key Value :=
  if (t.blocks block).pMemory = none then (false, t)
  else (true, t.setBlock block { t.blocks block with curBucket := (t.blocks block).curBucket + 1 })

/-- The block behind the current one, if that has memory.
hashBase.h:649-655 -/
def nextBlock : ℕ :=
  match t.curBlock with
  | some block => if (t.blocks block).pMemory = none then block else block + 1
  | none => 0

def HasGroup : Prop := ∃ block ∈ t.curBlock, (t.blocks block).curBucket < 2 ^ block

instance : Decidable t.HasGroup :=
  match h : t.curBlock with
  | some block => decidable_of_iff ((t.blocks block).curBucket < 2 ^ block) (by simp [HasGroup, h])
  | none => isFalse (by simp [HasGroup, h])

/-- `AllocateBucket`, with whether there is a group.
hashBase.h:640-684 -/
def allocateBucket (canAllocate : Bool) (heap : BlockHeap) :
    Bool × HashBase Key Value × BlockHeap :=
  if t.HasGroup then
    let (taken, t) := t.takeGroup (t.curBlock.getD 0)
    (taken, t, heap)
  else
    let block := t.nextBlock
    let (t, heap) := t.callocBlock canAllocate block heap
    let t := if (t.blocks block).pMemory = none then t else { t with curBlock := some block }
    let (taken, t) := t.takeGroup block
    (taken, t, heap)

/-- hashBase.h:52-91 -/
def reset : HashBase Key Value :=
  match t.curBlock with
  | some block =>
    { numEntries := 0
      blocks := fun i => if i ≤ block then { t.blocks i with curBucket := 0 } else t.blocks i
      curBlock := none
      buckets := t.buckets.map fun _ => [] }
  | none => t

def usedMemory : List ℕ := (List.range t.usedBlocks).filterMap fun i => (t.blocks i).pMemory

/-- hashBase.h:94-134 -/
def clear (heap : BlockHeap) : HashBase Key Value × BlockHeap :=
  match t.curBlock with
  | some block =>
    ({ numEntries := 0
       blocks := fun i =>
        if i ≤ block ∧ (t.blocks i).pMemory ≠ none then .zero else t.blocks i
       curBlock := none
       buckets := t.buckets.map fun _ => [] },
      { heap with freed := heap.freed ++ t.usedMemory })
  | none => (t, heap)

/-- `Swap`, with what the other container is then.
hashBase.h:484-506 -/
def swap (other : HashBase Key Value) : HashBase Key Value × HashBase Key Value :=
  let numBlocks := max t.usedBlocks other.usedBlocks
  ({ other with blocks := fun i => if i < numBlocks then other.blocks i else t.blocks i },
    { t with blocks := fun i => if i < numBlocks then t.blocks i else other.blocks i })

/-- The move constructor, with what the container that is moved from is then.
hashBase.h:281-299 -/
def moveConstruct (shape : HashShape Key) : HashBase Key Value × HashBase Key Value :=
  (t, new shape)

/-- The entry of a key, if there is one; `Contains` and `FindIterator` look for it in the same way.
hashBase.h:322-356 -/
def findEntry [DecidableEq Key] (shape : HashShape Key) (key : Key) : Option (ℕ × ℕ) :=
  findPlace (fun e => e.key = key) (t.chain (shape.bucket key))

def contains [DecidableEq Key] (shape : HashShape Key) (key : Key) : Bool :=
  (t.findEntry shape key).isSome

def entryAt (bucket : ℕ) (place : ℕ × ℕ) : Option (HashMapEntry Key Value) :=
  (t.chain bucket)[place.1]?.bind fun group => group[place.2]?

def findValue [DecidableEq Key] (shape : HashShape Key) (key : Key) : Option Value :=
  ((t.findEntry shape key).bind fun place => t.entryAt (shape.bucket key) place).map (·.value)

def removeAt (bucket : ℕ) (place : ℕ × ℕ) : HashBase Key Value :=
  { t.onChain bucket fun chain =>
      chain.take place.1 ++ swapOut place.2 (chain.drop place.1) with
    numEntries := t.numEntries - 1 }

def erase [DecidableEq Key] (shape : HashShape Key) (key : Key) : Result × HashBase Key Value :=
  match findPlaceBeforeEmpty (fun e => e.key = key) (t.chain (shape.bucket key)) with
  | some place => (.success, t.removeAt (shape.bucket key) place)
  | none => (.error, t)

inductive FoundEntry where
  | existed (place : ℕ × ℕ)
  | added
  | failed
  deriving DecidableEq

/-- `FindOrAllocate`, with the value that a new entry is given by the caller.
hashBase.h:392-454 -/
def findOrAllocate [DecidableEq Key] (shape : HashShape Key) (canAllocate : Bool)
    (entry : HashMapEntry Key Value) (heap : BlockHeap) :
    FoundEntry × HashBase Key Value × BlockHeap :=
  let bucket := shape.bucket entry.key
  match findSlot shape.kEntriesInBucket (fun e => e.key = entry.key) (t.chain bucket) with
  | .found group index => (.existed (group, index), t, heap)
  | .room group =>
    (.added, { t.onChain bucket (addAt group entry) with numEntries := t.numEntries + 1 }, heap)
  | .newGroup =>
    let (taken, t, heap) := t.allocateBucket canAllocate heap
    if taken then
      (.added, { t.onChain bucket (· ++ [[entry]]) with numEntries := t.numEntries + 1 }, heap)
    else (.failed, t, heap)

/-- hashMap.h:143-158 -/
def insert [DecidableEq Key] (shape : HashShape Key) (canAllocate : Bool)
    (entry : HashMapEntry Key Value) (heap : BlockHeap) :
    Result × HashBase Key Value × BlockHeap :=
  match t.findOrAllocate shape canAllocate entry heap with
  | (.existed place, t, heap) =>
    (.success, t.onChain (shape.bucket entry.key) (putAt place.1 place.2 entry), heap)
  | (.added, t, heap) => (.success, t, heap)
  | (.failed, t, heap) => (.insufficientMemory, t, heap)

def create [DecidableEq Key] (shape : HashShape Key) (canAllocate : Bool)
    (entry : HashMapEntry Key Value) (heap : BlockHeap) :
    Result × HashBase Key Value × BlockHeap :=
  match t.findOrAllocate shape canAllocate entry heap with
  | (.existed _, t, heap) => (.entryExists, t, heap)
  | (.added, t, heap) => (.success, t, heap)
  | (.failed, t, heap) => (.insufficientMemory, t, heap)

end HashBase

/-! ## Iterators -/

/-- `BaseIterator` of the container at hand; `m_pCurrentBucket` is the group of the current bucket
that it points to, if any. -/
structure HashIterator where
  startBucket : ℕ
  currentBucket : ℕ
  group : Option ℕ
  indexInBucket : ℕ
  deriving DecidableEq

namespace HashIterator

/-- `End`. -/
def atEnd (shape : HashShape Key) : HashIterator :=
  ⟨shape.kPaddedNumBuckets, shape.kPaddedNumBuckets, none, 0⟩

def Equals (it rhs : HashIterator) : Prop :=
  it.currentBucket = rhs.currentBucket ∧ it.indexInBucket = rhs.indexInBucket

instance (it rhs : HashIterator) : Decidable (it.Equals rhs) :=
  inferInstanceAs (Decidable (_ ∧ _))

end HashIterator

namespace HashBase

variable (t : HashBase Key Value)

def IsOccupied (bucket : ℕ) : Prop := ∃ group ∈ (t.chain bucket).head?, group ≠ []

instance (bucket : ℕ) : Decidable (t.IsOccupied bucket) :=
  match h : (t.chain bucket).head? with
  | some group => decidable_of_iff (group.isEmpty = false) (by simp [IsOccupied, h])
  | none => isFalse (by simp [IsOccupied, h])

def getFirstBucket (shape : HashShape Key) : ℕ :=
  if t.numEntries ≠ 0 then
    ((List.range shape.kPaddedNumBuckets).find? fun bucket => t.IsOccupied bucket).getD
      shape.kPaddedNumBuckets
  else shape.kPaddedNumBuckets

/-- `Begin`.
hashMap.h:245-248, hashBase.h:774-787 -/
def beginIterator (shape : HashShape Key) : HashIterator where
  startBucket := t.getFirstBucket shape
  currentBucket := t.getFirstBucket shape
  group := if t.chain (t.getFirstBucket shape) = [] then none else some 0
  indexInBucket := 0

def find [DecidableEq Key] (shape : HashShape Key) (key : Key) : HashIterator :=
  match t.findEntry shape key with
  | some place => ⟨shape.bucket key, shape.bucket key, some place.1, place.2⟩
  | none => .atEnd shape

def get (it : HashIterator) : Option (HashMapEntry Key Value) :=
  it.group.bind fun group => t.entryAt it.currentBucket (group, it.indexInBucket)

/-- The loop of `Next` over the buckets behind a bucket, with the one that it stops at.
hashBase.h:744-755 -/
def seekBucket (shape : HashShape Key) (startBucket : ℕ) : ℕ → ℕ → Option ℕ
  | 0, _ => none
  | rounds + 1, currentBucket =>
    let currentBucket := (currentBucket + 1) % shape.kPaddedNumBuckets
    if t.IsOccupied currentBucket ∨ currentBucket = startBucket then some currentBucket
    else seekBucket shape startBucket rounds currentBucket

/-- The current bucket is done.
hashBase.h:742-768 -/
def nextBucket (shape : HashShape Key) (it : HashIterator) : Option HashIterator :=
  (t.seekBucket shape it.startBucket shape.kPaddedNumBuckets it.currentBucket).map fun bucket =>
    if bucket ≠ it.startBucket then ⟨it.startBucket, bucket, some 0, 0⟩
    else ⟨it.startBucket, shape.kPaddedNumBuckets, none, 0⟩

/-- `Next`, if it ends.
hashBase.h:720-771 -/
def next (shape : HashShape Key) (it : HashIterator) : Option HashIterator :=
  match it.group with
  | none => some it
  | some group =>
    let chain := t.chain it.currentBucket
    let numEntries := (chain.getD group []).length
    if it.indexInBucket < shape.kEntriesInBucket ∧ it.indexInBucket + 1 < numEntries then
      some { it with indexInBucket := it.indexInBucket + 1 }
    -- `numEntries - 1` wraps when the group has become empty
    else if it.indexInBucket + 1 = numEntries ∧ chain.getD (group + 1) [] ≠ [] then
      some { it with group := some (group + 1), indexInBucket := 0 }
    else t.nextBucket shape it

/-- `RemoveIterator` for an iterator that points to an entry; the entry that is moved to its place
is the next one, unless it was the last one of its bucket.
hashBase.h:513-568 -/
def removeIterator (shape : HashShape Key) (it : HashIterator) (group : ℕ) :
    Option (HashIterator × HashBase Key Value) :=
  let place := (group, it.indexInBucket)
  let removed := t.removeAt it.currentBucket place
  if isLastPlace it.indexInBucket ((t.chain it.currentBucket).drop group) then
    (removed.next shape it).map fun it => (it, removed)
  else some (it, removed)

/-- A loop that looks at every entry and removes some of them, with the entries it has seen.
sessionManager.cpp:480-495 -/
def removeWhere (shape : HashShape Key) (p : HashMapEntry Key Value → Bool) :
    ℕ → HashBase Key Value → HashIterator → List (HashMapEntry Key Value) →
      Option (List (HashMapEntry Key Value) × HashBase Key Value)
  | 0, _, _, _ => none
  | rounds + 1, t, it, seen =>
    if it.Equals (.atEnd shape) then some (seen, t)
    else do
      let group ← it.group
      let entry ← t.get it
      if p entry then
        let (it, t) ← t.removeIterator shape it group
        removeWhere shape p rounds t it (seen ++ [entry])
      else
        let it ← t.next shape it
        removeWhere shape p rounds t it (seen ++ [entry])

end HashBase

/-- What is done to the containers of a program; a move assignment is a swap.  A step that looks for
memory is told whether there is some. -/
inductive HashOp (ι Key Value : Type) where
  | construct (i : ι)
  | moveConstruct (i j : ι)
  | create (i : ι) (entry : HashMapEntry Key Value) (canAllocate : Bool)
  | insert (i : ι) (entry : HashMapEntry Key Value) (canAllocate : Bool)
  | erase (i : ι) (key : Key)
  | remove (i : ι) (it : HashIterator)
  | reset (i : ι)
  | clear (i : ι)
  | swap (i j : ι)

inductive HashOutput where
  | nothing
  | result (r : Result)
  | iterator (it : HashIterator)
  deriving DecidableEq

/-- Hash containers by name, and the heap that their blocks come from. -/
structure HashWorld (ι Key Value : Type) where
  maps : ι → Option (HashBase Key Value)
  heap : BlockHeap

namespace HashWorld

variable {ι : Type} [DecidableEq ι]

def set (w : HashWorld ι Key Value) (i : ι) (t : HashBase Key Value) (heap : BlockHeap) :
    HashWorld ι Key Value :=
  ⟨Function.update w.maps i (some t), heap⟩

/-- One operation.  Only the iterators of a container that point to an entry are given to `Remove`;
they start at a bucket of it. -/
def step [DecidableEq Key] (shape : HashShape Key) (w : HashWorld ι Key Value) :
    HashOp ι Key Value → Option (HashWorld ι Key Value × HashOutput)
  | .construct i =>
    if (w.maps i).isNone then some (w.set i (.new shape) w.heap, .nothing) else none
  | .moveConstruct i j => do
    let t ← w.maps j
    if (w.maps i).isNone then
      some ((w.set i (t.moveConstruct shape).1 w.heap).set j (t.moveConstruct shape).2 w.heap,
        .nothing)
    else none
  | .create i entry canAllocate => do
    let t ← w.maps i
    let (result, t, heap) := t.create shape canAllocate entry w.heap
    some (w.set i t heap, .result result)
  | .insert i entry canAllocate => do
    let t ← w.maps i
    let (result, t, heap) := t.insert shape canAllocate entry w.heap
    some (w.set i t heap, .result result)
  | .erase i key => do
    let t ← w.maps i
    let (result, t) := t.erase shape key
    some (w.set i t w.heap, .result result)
  | .remove i it => do
    let t ← w.maps i
    let group ← it.group
    if (t.get it).isSome ∧ it.startBucket < shape.kPaddedNumBuckets then
      let (it, t) ← t.removeIterator shape it group
      some (w.set i t w.heap, .iterator it)
    else none
  | .reset i => do
    let t ← w.maps i
    some (w.set i t.reset w.heap, .nothing)
  | .clear i => do
    let t ← w.maps i
    some (w.set i (t.clear w.heap).1 (t.clear w.heap).2, .nothing)
  | .swap i j => do
    let t ← w.maps i
    let other ← w.maps j
    some ((w.set i (t.swap other).1 w.heap).set j (t.swap other).2 w.heap, .nothing)

end HashWorld

/-- Any number of hash containers over one heap. -/
def hashMachine {ι : Type} [DecidableEq ι] [DecidableEq Key] (shape : HashShape Key) :
    Machine (HashWorld ι Key Value) (HashOp ι Key Value) HashOutput where
  init w := w = ⟨fun _ => none, ⟨0, []⟩⟩
  step := HashWorld.step shape

end DevDriver.Model
