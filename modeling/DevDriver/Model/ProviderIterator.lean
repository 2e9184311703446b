import DevDriver.Model.BitSet
import DevDriver.Model.EventServer
import DevDriver.Model.Settings

/-!
# The provider directory of a client

A client that asks an event server for its providers pulls the block of the answer into memory and
goes through it with an `EventProviderIterator` of legacyEventClient.h, which computes where every
part of a record is from the numbers in its header.
-/

namespace DevDriver.Model

open Library

/-- A provider as it is constructed: the state of its events has a bit for each, all zero.
ddEventProvider.cpp:140-153 -/
def EventProvider.constructed (numEvents : UInt32) (eventDescriptionData : List UInt8) :
    EventProvider where
  numEvents := numEvents.toNat
  eventData := .replicate
    ((BitSet.create .dynamicBitStorage 0).resize numEvents.toNat).2.sizeInBytes 0
  eventDescriptionData := eventDescriptionData
  isEnabled := false
  pSession := none

/-- The memory of a client that has pulled a block completely, in one `Read` that ended the stream,
with what lies behind it.  The size of the block was announced as a `uint32`.
legacyEventClient.cpp:66-91 -/
structure PulledBlock extends SettingsBuffer where
  length_lt : bytes.length < 2 ^ 32

/-- `EventProviderIterator`, with the offset that `m_pProviderData` points to. -/
structure EventProviderIterator where
  providerIndex : ℕ
  numProviders : ℕ
  providerData : ℕ

namespace EventProviderIterator

variable (buf : SettingsBuffer) (it : EventProviderIterator)

def IsValid : Prop := it.providerIndex < it.numProviders

/-! `ProviderDescriptionHeader` where the iterator points to. -/

def getId : UInt32 := UInt32.ofNat (buf.field it.providerData 4)
def getNumEvents : ℕ := buf.field (it.providerData + 4) 4
def getEventDescriptionDataSize : ℕ := buf.field (it.providerData + 8) 4
def isEnabled : Bool := buf.byte (it.providerData + 12) ≠ 0
def getVersion : UInt8 := buf.byte (it.providerData + 13)

def eventDataSize : ℕ := BitSet.numDwordsFor (it.getNumEvents buf) * 4

def eventDescriptionOffset : ℕ := 16 + it.eventDataSize buf

def nextProviderDescriptionOffset : ℕ :=
  it.eventDescriptionOffset buf + it.getEventDescriptionDataSize buf

/-- `GetEventData`, with `GetEventDataSize`.
legacyEventClient.h:65-73 -/
def getEventData : List UInt8 :=
  buf.read (it.providerData + 16) (it.eventDataSize buf % 2 ^ 32)

/-- `GetEventDescriptionData`, with `GetEventDescriptionDataSize`.
legacyEventClient.h:75-83 -/
def getEventDescriptionData : List UInt8 :=
  buf.read (it.providerData + it.eventDescriptionOffset buf) (it.getEventDescriptionDataSize buf)

/-- `Next`; behind the last provider it is an iterator that points to nothing.
legacyEventClient.h:85-101 -/
def next : EventProviderIterator :=
  if it.providerIndex + 1 < it.numProviders then
    ⟨it.providerIndex + 1, it.numProviders,
      it.providerData + it.nextProviderDescriptionOffset buf⟩
  else ⟨0, 0, 0⟩

/-- `GetFirstProvider`.
legacyEventClient.h:141-147 -/
def firstProvider (buf : SettingsBuffer) : EventProviderIterator := ⟨0, buf.field 0 4, 4⟩

end EventProviderIterator

/-- The iterators that a loop goes through from an iterator on, as long as they are valid. -/
inductive VisitsProviders (buf : SettingsBuffer) :
    EventProviderIterator → List EventProviderIterator → Prop
  | ends {it : EventProviderIterator} (h : ¬it.IsValid) : VisitsProviders buf it []
  | visits {it : EventProviderIterator} {its : List EventProviderIterator} (h : it.IsValid)
      (rest : VisitsProviders buf (it.next buf) its) : VisitsProviders buf it (it :: its)

end DevDriver.Model
