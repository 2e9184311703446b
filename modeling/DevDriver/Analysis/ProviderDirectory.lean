import DevDriver.Analysis.PushServer
import DevDriver.Analysis.SettingsRecords
import DevDriver.Model.ProviderIterator
import Mathlib.Algebra.Order.BigOperators.Group.List

/-!
# The directory round trip

The server sizes the event data of a provider by its bit set and the client by the number of events
in the header.
-/

namespace DevDriver.Analysis

open Library Model

namespace ProviderDirectory

open SettingsRecords EventProviderIterator

/-- What a client learns about a provider. -/
structure ProviderDescription where
  id : EventProviderId
  numEvents : ℕ
  version : UInt8
  isEnabled : Bool
  eventData : List UInt8
  eventDescriptionData : List UInt8

def shown (buf : SettingsBuffer) (it : EventProviderIterator) : ProviderDescription where
  id := it.getId buf
  numEvents := it.getNumEvents buf
  version := it.getVersion buf
  isEnabled := it.isEnabled buf
  eventData := it.getEventData buf
  eventDescriptionData := it.getEventDescriptionData buf

def described (entry : Σ _ : EventProviderId, EventProvider) : ProviderDescription where
  id := entry.1
  numEvents := entry.2.numEvents
  version := 1
  isEnabled := entry.2.isEnabled
  eventData := entry.2.eventData
  eventDescriptionData := entry.2.eventDescriptionData

/-- The number of events is a `uint32`, and there is a bit for each in whole dwords. -/
structure WellFormedProvider (provider : EventProvider) : Prop where
  numEvents_lt : provider.numEvents < 2 ^ 32
  eventData : provider.eventData.length = BitSet.numDwordsFor provider.numEvents * 4

theorem wellFormed_constructed (numEvents : UInt32) (eventDescriptionData : List UInt8) :
    WellFormedProvider (.constructed numEvents eventDescriptionData) := by
  refine ⟨numEvents.toNat_lt, ?_⟩
  simp [EventProvider.constructed, BitSet.resize, BitSet.create, BitSet.sizeInBytes,
    BitSet.numDwordsFor]

def endOffset (buf : SettingsBuffer) (its : List EventProviderIterator) : ℕ :=
  match its.getLast? with
  | none => 4
  | some it => it.providerData + it.nextProviderDescriptionOffset buf

/-- Every provider is visited, once and with what there is to show, and nothing else; behind the
last one the block ends. -/
structure Visits (s : EventServer) (buf : SettingsBuffer) (its : List EventProviderIterator) :
    Prop where
  iterates : VisitsProviders buf (firstProvider buf) its
  shown_eq : its.map (shown buf) = s.eventProviders.entries.map described
  nodup : (its.map (·.getId buf)).Nodup
  ends : endOffset buf its = buf.size

def encodeProvider (entry : Σ _ : EventProviderId, EventProvider) : List UInt8 :=
  entry.2.header entry.1 ++ entry.2.eventData ++ entry.2.eventDescriptionData

theorem length_encodeProvider (entry : Σ _ : EventProviderId, EventProvider) :
    (encodeProvider entry).length =
      16 + entry.2.eventData.length + entry.2.eventDescriptionData.length := by
  simp only [encodeProvider, EventProvider.header, List.length_append, length_leBytes,
    List.length_cons, List.length_nil]

section Record

variable {buf : SettingsBuffer} {entry : Σ _ : EventProviderId, EventProvider}
  {it : EventProviderIterator} {pre post : List UInt8}

theorem byte_of_bytes (pre : List UInt8) (b : UInt8) (post : List UInt8) {offset : ℕ}
    (h : buf.bytes = pre ++ b :: post) (hpre : pre.length = offset) : buf.byte offset = b := by
  subst hpre
  rw [SettingsBuffer.byte, h, List.getD_eq_getElem?_getD,
    List.getElem?_append_right (Nat.le_refl _), Nat.sub_self]
  rfl

theorem shown_record (h : WellFormedProvider entry.2)
    (hsize : entry.2.eventDescriptionData.length < 2 ^ 32)
    (hbuf : buf.bytes = pre ++ (encodeProvider entry ++ post))
    (hpre : pre.length = it.providerData) :
    shown buf it = described entry ∧
      it.nextProviderDescriptionOffset buf = (encodeProvider entry).length := by
  -- the parts of the record, one behind the other
  have h₀ : buf.bytes = pre ++ (leBytes 4 entry.1.toNat ++ (leBytes 4 entry.2.numEvents ++
      (leBytes 4 entry.2.eventDescriptionData.length ++
        ([if entry.2.isEnabled then 1 else 0, 1, 0, 0] ++
          (entry.2.eventData ++ (entry.2.eventDescriptionData ++ post)))))) := by
    rw [hbuf, encodeProvider, EventProvider.header]
    simp only [List.append_assoc]
  have h₁ := h₀.trans (List.append_assoc pre _ _).symm
  have h₂ := h₁.trans (List.append_assoc (pre ++ _) _ _).symm
  have h₃ := h₂.trans (List.append_assoc (pre ++ _ ++ _) _ _).symm
  have h₄ := h₃.trans (List.append_assoc (pre ++ _ ++ _ ++ _) _ _).symm
  have h₅ := h₄.trans (List.append_assoc (pre ++ _ ++ _ ++ _ ++ _) _ _).symm
  have hid : buf.field it.providerData 4 = entry.1.toNat :=
    field_of_bytes _ _ h₀ hpre entry.1.toNat_lt
  have hnum : it.getNumEvents buf = entry.2.numEvents :=
    field_of_bytes _ _ h₁ (by simp [hpre]) h.numEvents_lt
  have hdescription : it.getEventDescriptionDataSize buf =
      entry.2.eventDescriptionData.length := field_of_bytes _ _ h₂ (by simp [hpre]) hsize
  have henabled : buf.byte (it.providerData + 12) = if entry.2.isEnabled then 1 else 0 :=
    byte_of_bytes _ _ _ h₃ (by simp [hpre])
  have hversion : it.getVersion buf = 1 := by
    have h' := h₃.trans (List.append_assoc (pre ++ _ ++ _ ++ _) [_] ([1, 0, 0] ++ _)).symm
    exact byte_of_bytes _ _ _ h' (by simp [hpre])
  have hdata : it.eventDataSize buf = entry.2.eventData.length := by
    rw [EventProviderIterator.eventDataSize, hnum, h.eventData]
  have hsmall : entry.2.eventData.length < 2 ^ 32 := by
    have hlt := h.numEvents_lt
    rw [h.eventData, BitSet.numDwordsFor]
    omega
  have heventData : it.getEventData buf = entry.2.eventData := by
    rw [EventProviderIterator.getEventData, hdata, Nat.mod_eq_of_lt hsmall]
    exact read_of_bytes _ _ _ h₄ (by simp [hpre]) rfl
  have hoffset : it.eventDescriptionOffset buf = 16 + entry.2.eventData.length := by
    rw [EventProviderIterator.eventDescriptionOffset, hdata]
  have hdescriptionData : it.getEventDescriptionData buf = entry.2.eventDescriptionData := by
    rw [EventProviderIterator.getEventDescriptionData, hoffset, hdescription]
    apply read_of_bytes _ _ _ h₅ _ rfl
    simp only [List.length_append, length_leBytes, hpre, List.length_cons, List.length_nil]
    omega
  constructor
  · rw [shown, described, hnum, hversion, heventData, hdescriptionData,
      EventProviderIterator.getId, hid, EventProviderIterator.isEnabled, henabled]
    cases entry.2.isEnabled <;> simp
  · rw [EventProviderIterator.nextProviderDescriptionOffset, hoffset, hdescription,
      length_encodeProvider]

end Record

/-! ## All records -/

theorem iterates_records {buf : SettingsBuffer} {it : EventProviderIterator} {pre : List UInt8}
    (entries : List (Σ _ : EventProviderId, EventProvider))
    (htyped : ∀ entry ∈ entries, WellFormedProvider entry.2)
    (hsize : ∀ entry ∈ entries, entry.2.eventDescriptionData.length < 2 ^ 32)
    (hbuf : buf.bytes = pre ++ entries.flatMap encodeProvider)
    (hpre : pre.length = it.providerData)
    (hnum : it.numProviders = it.providerIndex + entries.length) :
    ∃ its, VisitsProviders buf it its ∧ its.map (shown buf) = entries.map described ∧
      (its.getLast?.elim it.providerData fun last =>
        last.providerData + last.nextProviderDescriptionOffset buf) = buf.size := by
  induction entries generalizing it pre with
  | nil =>
    refine ⟨[], .ends ?_, rfl, ?_⟩
    · rw [IsValid, hnum]
      exact Nat.lt_irrefl _
    · rw [SettingsBuffer.size, hbuf, List.flatMap_nil, List.append_nil]
      exact hpre.symm
  | cons entry entries ih =>
    obtain ⟨hentry, htyped⟩ := List.forall_mem_cons.mp htyped
    obtain ⟨hlength, hsize⟩ := List.forall_mem_cons.mp hsize
    rw [List.flatMap_cons] at hbuf
    rw [List.length_cons] at hnum
    obtain ⟨hshown, hnext⟩ := shown_record hentry hlength hbuf hpre
    have hvalid : it.IsValid := by
      rw [IsValid, hnum]
      omega
    have hend : it.providerData + it.nextProviderDescriptionOffset buf =
        (pre ++ encodeProvider entry).length := by
      rw [hnext, List.length_append, hpre]
    rw [← List.append_assoc] at hbuf
    cases hentries : entries with
    | nil =>
      subst hentries
      have hlast : ¬it.providerIndex + 1 < it.numProviders := by
        rw [hnum]
        exact Nat.lt_irrefl _
      refine ⟨[it], .visits hvalid (.ends ?_), congrArg (· :: []) hshown, ?_⟩
      · rw [EventProviderIterator.next, if_neg hlast]
        exact Nat.lt_irrefl _
      · rw [SettingsBuffer.size, hbuf, List.flatMap_nil, List.append_nil]
        exact hend
    | cons entry' entries' =>
      rw [← hentries]
      have hmore : it.providerIndex + 1 < it.numProviders := by
        rw [hnum, hentries, List.length_cons]
        omega
      have hit : it.next buf = ⟨it.providerIndex + 1, it.numProviders,
          it.providerData + it.nextProviderDescriptionOffset buf⟩ := if_pos hmore
      have hnum' : (it.next buf).numProviders = (it.next buf).providerIndex + entries.length := by
        rw [hit]
        show it.numProviders = it.providerIndex + 1 + entries.length
        omega
      have hpre' : (pre ++ encodeProvider entry).length = (it.next buf).providerData := by
        rw [hit, hend]
      obtain ⟨its, hits, hmap, hends⟩ := ih htyped hsize hbuf hpre' hnum'
      refine ⟨it :: its, .visits hvalid hits, ?_, ?_⟩
      · rw [List.map_cons, List.map_cons, hshown, hmap]
      · cases its with
        | nil =>
          -- a provider is left, so the iterator has not ended
          rw [hentries] at hmap
          cases hmap
        | cons it' its =>
          rw [List.getLast?_cons_cons]
          exact hends

/-- The server answers with the id of a new block that holds the directory and is closed. -/
theorem data_buildQueryProvidersResponse {c c' : EventCtx} {blockId : BlockId}
    (h : c.buildQueryProvidersResponse = (.success, blockId, c')) :
    ∃ block, c'.blocks.opened = c.blocks.opened ++ [block] ∧ block.id = blockId ∧
      (c'.blocks.manager.blocks block.resource).data = c.server.providerDescriptions ∧
      (c'.blocks.manager.blocks block.resource).isClosed = true := by
  unfold EventCtx.buildQueryProvidersResponse BlockCtx.openServerBlock at h
  cases hdraws : c.blocks.draws with
  | nil => rw [hdraws] at h; cases h
  | cons draw draws =>
    rw [hdraws] at h
    cases draw with
    | none => cases h
    | some newBlockId =>
      cases h
      have hblock : (((c.blocks.manager.openServerBlock newBlockId).onBlock
          c.blocks.manager.nextBlock (.write c.server.providerDescriptions)).onBlock
            c.blocks.manager.nextBlock .close).blocks c.blocks.manager.nextBlock =
          (ServerBlock.new.write c.server.providerDescriptions).close := by
        simp [TransferManager.onBlock, TransferManager.openServerBlock, BlockOperation.apply]
      refine ⟨⟨newBlockId, c.blocks.manager.nextBlock⟩, rfl, rfl, ?_⟩
      dsimp only [BlockCtx.onBlock]
      rw [hblock]
      have hsized : ServerBlock.Sized .new := Nat.le_refl 0
      exact ⟨write_data hsized _, rfl⟩

/-- A client that has pulled the directory of a server visits every registered provider once, and
its iteration ends where the block does. -/
theorem directory_visited {s : EventServer} {block : PulledBlock}
    (htyped : ∀ entry ∈ s.eventProviders.entries, WellFormedProvider entry.2)
    (hpulled : block.bytes = s.providerDescriptions) :
    ∃ its, Visits s block.toSettingsBuffer its := by
  have hbytes : block.bytes = leBytes 4 s.eventProviders.entries.length ++
      s.eventProviders.entries.flatMap encodeProvider := hpulled
  have hlength : block.bytes.length =
      4 + (s.eventProviders.entries.map fun entry => (encodeProvider entry).length).sum := by
    rw [hbytes, List.length_append, length_leBytes, List.length_flatMap]
  have hcount : s.eventProviders.entries.length < 2 ^ 32 := by
    have hle := List.length_le_sum_of_one_le
      (s.eventProviders.entries.map fun entry => (encodeProvider entry).length) (by
        intro n hn
        obtain ⟨entry, -, rfl⟩ := List.mem_map.mp hn
        rw [length_encodeProvider]
        omega)
    rw [List.length_map] at hle
    have hlt := block.length_lt
    omega
  have hsize : ∀ entry ∈ s.eventProviders.entries,
      entry.2.eventDescriptionData.length < 2 ^ 32 := by
    intro entry hentry
    have hmem : (encodeProvider entry).length ∈
        s.eventProviders.entries.map fun entry => (encodeProvider entry).length :=
      List.mem_map_of_mem hentry
    have hle := List.single_le_sum (fun _ _ => Nat.zero_le _) _ hmem
    rw [length_encodeProvider] at hle
    have hlt := block.length_lt
    omega
  have hfirst : block.toSettingsBuffer.field 0 4 = s.eventProviders.entries.length :=
    field_of_bytes [] _ hbytes rfl hcount
  have hnum : (firstProvider block.toSettingsBuffer).numProviders =
      (firstProvider block.toSettingsBuffer).providerIndex + s.eventProviders.entries.length :=
    hfirst.trans (Nat.zero_add _).symm
  obtain ⟨its, hits, hmap, hends⟩ :=
    iterates_records s.eventProviders.entries htyped hsize hbytes (length_leBytes 4 _) hnum
  refine ⟨its, hits, hmap, ?_, ?_⟩
  · have hids : its.map (·.getId block.toSettingsBuffer) = s.eventProviders.entries.keys := by
      have hid := congrArg (List.map ProviderDescription.id) hmap
      rwa [List.map_map, List.map_map] at hid
    rw [hids]
    exact s.eventProviders.nodupKeys
  · rw [endOffset, ← hends]
    cases its.getLast? <;> rfl

def twoProviders : EventServer := { EventServer.new with
  eventProviders := (AList.singleton 7 (.constructed 33 [1, 2, 3])).insert 5
    { EventProvider.constructed 0 [] with isEnabled := true } }

theorem directory_visited_two : ∃ (block : PulledBlock) (its : List EventProviderIterator),
    block.bytes = twoProviders.providerDescriptions ∧
      Visits twoProviders block.toSettingsBuffer its := by
  have htyped : ∀ entry ∈ twoProviders.eventProviders.entries, WellFormedProvider entry.2 := by
    intro entry hentry
    rcases List.mem_cons.mp hentry with rfl | hentry
    · exact ⟨by decide, by decide⟩
    · obtain rfl := List.mem_singleton.mp hentry
      exact wellFormed_constructed 33 [1, 2, 3]
  have hvisited := @directory_visited twoProviders
    ⟨⟨twoProviders.providerDescriptions, fun _ => 0, by decide⟩, by decide⟩ htyped rfl
  obtain ⟨its, hits⟩ := hvisited
  exact ⟨_, its, rfl, hits⟩

end ProviderDirectory

end DevDriver.Analysis
