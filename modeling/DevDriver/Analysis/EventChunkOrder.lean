import DevDriver.Analysis.EventStream
import DevDriver.Analysis.TransferMessages
import DevDriver.Model.EventChunks

/-!
# Queued chunks are sent once and in order

A chunk of an event session is held by a provider, waits in the queue, is the current chunk or lies
in the pool, and it is in one of these places only.
-/

namespace DevDriver.Analysis

open Library Model EventChunkCtx EventCtx

theorem eventDataOf_eventDataUpdate {data : List UInt8} (hdata : data.length ≤ kMaxEventDataSize)
    (rest : List UInt8) : eventDataOf (eventDataUpdate data ++ rest) = data := by
  have hsize : leNat (leBytes 2 data.length) = data.length := by
    apply leNat_leBytes_of_lt
    have hmax : kMaxEventDataSize < 256 ^ 2 := by decide
    omega
  have hcommand : EventMessage.ofCode ((eventDataUpdate data ++ rest).headD 0) =
      .eventDataUpdate := EventMessage.ofCode_toCode .eventDataUpdate
  have hfield : slice (eventDataUpdate data ++ rest) 2 2 = leBytes 2 data.length := by
    simp [slice, eventDataUpdate, leBytes]
  have hdrop : (eventDataUpdate data ++ rest).drop 4 = data ++ rest := by
    simp [eventDataUpdate, leBytes]
  rw [eventDataOf, if_pos hcommand, hfield, hsize, slice, hdrop]
  apply List.take_left

theorem eventDataOf_createEventDataUpdate {data : List UInt8}
    (hdata : data.length ≤ kMaxEventDataSize) (c : SizedPayloadContainer) :
    eventDataOf (c.createEventDataUpdate data).bytes = data := by
  have hlength : (eventDataUpdate data).length ≤ kMaxPayloadSizeInBytes := by
    have hmax : kMaxEventDataSize + 4 = kMaxPayloadSizeInBytes := by decide
    simp only [eventDataUpdate, List.length_append, List.length_cons, List.length_nil,
      length_leBytes]
    omega
  obtain ⟨rest, hrest⟩ := readBytes_fill hlength c
  have hbytes : (c.createEventDataUpdate data).bytes = eventDataUpdate data ++ rest := by
    rw [SizedPayloadContainer.bytes, SizedPayloadContainer.createEventDataUpdate,
      List.take_of_length_le hdata]
    exact hrest
  rw [hbytes]
  exact eventDataOf_eventDataUpdate hdata rest

theorem eventDataOf_eventHeader {command : EventMessage} (h : command ≠ .eventDataUpdate)
    (rest : List UInt8) : eventDataOf (eventHeader command ++ rest) = [] := by
  apply if_neg
  change EventMessage.ofCode command.toCode ≠ .eventDataUpdate
  rw [EventMessage.ofCode_toCode]
  exact h

/-- The references `refs` and those in the pool are to different chunks, which are allocated, and
nothing was freed that was free. -/
structure Owns (refs : List EventChunkRef) (c : EventChunkCtx) : Prop where
  nodup : (refs ++ c.eventChunkPool).Nodup
  live : ∀ pChunk ∈ refs ++ c.eventChunkPool, c.chunks pChunk ≠ none
  misfreed : c.misfreed = []

namespace Owns

variable {refs refs' : List EventChunkRef} {pChunk : EventChunkRef} {c c' : EventChunkCtx}

theorem perm (h : Owns refs c) (hrefs : refs.Perm refs') : Owns refs' c where
  nodup := ((hrefs.append_right c.eventChunkPool).nodup_iff).mp h.nodup
  live p hp := h.live p (((hrefs.append_right c.eventChunkPool).mem_iff).mpr hp)
  misfreed := h.misfreed

theorem sublist (h : Owns refs c) (hrefs : refs'.Sublist refs) : Owns refs' c where
  nodup := h.nodup.sublist (hrefs.append_right c.eventChunkPool)
  live p hp := h.live p ((hrefs.append_right c.eventChunkPool).subset hp)
  misfreed := h.misfreed

theorem congr (h : Owns refs c) (hchunks : c'.chunks = c.chunks)
    (hpool : c'.eventChunkPool = c.eventChunkPool) (hmisfreed : c'.misfreed = c.misfreed) :
    Owns refs c' where
  nodup := by rw [hpool]; exact h.nodup
  live := by rw [hpool, hchunks]; exact h.live
  misfreed := hmisfreed.trans h.misfreed

section

variable (h : Owns (pChunk :: refs) c)

include h

theorem notMem_pool : pChunk ∉ c.eventChunkPool := by
  have hnodup : (pChunk :: (refs ++ c.eventChunkPool)).Nodup := h.nodup
  intro hp
  exact (List.nodup_cons.mp hnodup).1 (List.mem_append_right refs hp)

theorem notMem : pChunk ∉ refs := by
  have hnodup : (pChunk :: (refs ++ c.eventChunkPool)).Nodup := h.nodup
  intro hp
  exact (List.nodup_cons.mp hnodup).1 (List.mem_append_left c.eventChunkPool hp)

theorem chunks_ne_none : c.chunks pChunk ≠ none :=
  h.live pChunk List.mem_cons_self

theorem noteFree_eq : c.noteFree pChunk = c := by
  apply if_neg
  rw [not_or]
  exact ⟨h.chunks_ne_none, h.notMem_pool⟩

theorem ddFree : Owns refs (c.ddFree pChunk) := by
  have hnote : c.noteFree pChunk = c := h.noteFree_eq
  have hrest : Owns refs c := h.sublist (List.sublist_cons_self pChunk refs)
  rw [EventChunkCtx.ddFree, hnote]
  refine ⟨hrest.nodup, ?_, hrest.misfreed⟩
  intro p hp
  have hne : p ≠ pChunk := by
    rintro rfl
    exact (List.nodup_cons.mp h.nodup).1 hp
  change Function.update c.chunks pChunk none p ≠ none
  rw [Function.update_of_ne hne]
  exact hrest.live p hp

theorem toPool :
    Owns refs { c with eventChunkPool := c.eventChunkPool ++ [pChunk] } := by
  have hperm : (pChunk :: (refs ++ c.eventChunkPool)).Perm
      (refs ++ (c.eventChunkPool ++ [pChunk])) := by
    rw [← List.append_assoc]
    exact (List.perm_append_singleton pChunk (refs ++ c.eventChunkPool)).symm
  exact ⟨hperm.nodup_iff.mp h.nodup, fun p hp => h.live p (hperm.mem_iff.mpr hp), h.misfreed⟩

end

theorem fromPool (h : Owns refs c) {init : List EventChunkRef}
    (hpool : c.eventChunkPool = init ++ [pChunk]) :
    Owns (pChunk :: refs) { c with eventChunkPool := init } := by
  have hperm : (refs ++ c.eventChunkPool).Perm (pChunk :: (refs ++ init)) := by
    rw [hpool, ← List.append_assoc]
    exact List.perm_append_singleton pChunk (refs ++ init)
  exact ⟨hperm.nodup_iff.mp h.nodup, fun p hp => h.live p (hperm.mem_iff.mpr hp), h.misfreed⟩

end Owns

def waitingRefs (c : EventChunkCtx) : List EventChunkRef := c.pChunk.toList ++ c.eventChunkQueue

def currentSent (c : EventChunkCtx) : List UInt8 :=
  match c.pChunk with
  | none => []
  | some pChunk => (c.dataAt pChunk).take c.bytesSent

/-- The chunks that were put into the queue are those that are done, which were released after
their last byte was in a payload, and those that are waiting, which are as they were. -/
structure ChunksInOrder (done waiting : List (EventChunkRef × EventChunk)) (c : EventChunkCtx) :
    Prop where
  enqueued : c.enqueued = done ++ waiting
  refs : waiting.map (·.1) = waitingRefs c
  contents : ∀ entry ∈ waiting, c.chunks entry.1 = some entry.2
  handedOver : c.handedOver = chunkData done ++ currentSent c
  released : c.released.map (·.pChunk) = done.map (·.1)
  releasedAfter : ∀ n r, c.released[n]? = some r → chunkData (done.take (n + 1)) <+: r.handedOver

structure SameOrder (c c' : EventChunkCtx) : Prop where
  accepted : c'.acceptedEventBytes = c.acceptedEventBytes
  container : c'.eventPayloadContainer = c.eventPayloadContainer
  pending : c'.eventPayloadPending = c.eventPayloadPending
  pChunk : c'.pChunk = c.pChunk
  bytesSent : c'.bytesSent = c.bytesSent
  queue : c'.eventChunkQueue = c.eventChunkQueue
  enqueued : c'.enqueued = c.enqueued
  released : c'.released = c.released
  contents : ∀ pChunk ∈ waitingRefs c, c'.chunks pChunk = c.chunks pChunk

section Order

variable {refs pChunks : List EventChunkRef} {pChunk : EventChunkRef} {c c' : EventChunkCtx}
  {done waiting : List (EventChunkRef × EventChunk)}

theorem SameOrder.waitingRefs (h : SameOrder c c') : waitingRefs c' = waitingRefs c := by
  unfold Analysis.waitingRefs
  rw [h.pChunk, h.queue]

theorem SameOrder.handedOver (h : SameOrder c c') : c'.handedOver = c.handedOver := by
  unfold EventChunkCtx.handedOver pendingEventBytes
  rw [h.accepted, h.pending, h.container]

theorem mem_waitingRefs (h : c.pChunk = some pChunk) : pChunk ∈ waitingRefs c := by
  unfold waitingRefs
  rw [h]
  exact List.mem_cons_self

theorem SameOrder.currentSent (h : SameOrder c c') : currentSent c' = currentSent c := by
  unfold Analysis.currentSent
  rw [h.pChunk, h.bytesSent]
  cases hcurrent : c.pChunk with
  | none => rfl
  | some pChunk =>
    simp only [dataAt, h.contents pChunk (mem_waitingRefs hcurrent)]

theorem ChunksInOrder.sameOrder (h : ChunksInOrder done waiting c) (hsame : SameOrder c c') :
    ChunksInOrder done waiting c' where
  enqueued := hsame.enqueued.trans h.enqueued
  refs := h.refs.trans hsame.waitingRefs.symm
  contents := by
    intro entry hentry
    have hwaiting : entry.1 ∈ waitingRefs c := by
      rw [← h.refs]
      exact List.mem_map_of_mem hentry
    rw [hsame.contents entry.1 hwaiting]
    exact h.contents entry hentry
  handedOver := by
    rw [hsame.handedOver, hsame.currentSent]
    exact h.handedOver
  released := by
    rw [hsame.released]
    exact h.released
  releasedAfter := by
    rw [hsame.released]
    exact h.releasedAfter

/-- The chunks of the session and of its providers, and the chunks `refs` beside them, are owned,
and the chunks that were put into the queue are in order. -/
structure ChunksConsistent (refs : List EventChunkRef) (c : EventChunkCtx) : Prop where
  owns : Owns (refs ++ (c.held ++ waitingRefs c)) c
  order : ∃ done waiting, ChunksInOrder done waiting c

theorem ChunksConsistent.sameOrder (h : ChunksConsistent refs c) (hsame : SameOrder c c')
    {refs' : List EventChunkRef} (howns : Owns (refs' ++ (c'.held ++ waitingRefs c)) c') :
    ChunksConsistent refs' c' := by
  obtain ⟨done, waiting, horder⟩ := h.order
  refine ⟨?_, done, waiting, horder.sameOrder hsame⟩
  rw [hsame.waitingRefs]
  exact howns

theorem ChunksConsistent.lose (h : ChunksConsistent refs c) : ChunksConsistent [] c :=
  ⟨h.owns.sublist (List.sublist_append_right refs _), h.order⟩

/-! ## Memory -/

theorem pushBack_eq (c : EventChunkCtx) :
    ∃ succeeds allocations, c.pushBack = (succeeds, { c with allocations := allocations }) := by
  unfold pushBack
  split
  · exact ⟨true, c.allocations, rfl⟩
  · rename_i succeeds allocations _
    exact ⟨succeeds, allocations, rfl⟩

theorem freeEventChunk_eq (h : Owns (pChunk :: refs) c) : ∃ chunks pool allocations,
    c.freeEventChunk pChunk =
      { c with chunks := chunks, eventChunkPool := pool, allocations := allocations } ∧
    (∀ p, p ≠ pChunk → chunks p = c.chunks p) ∧ Owns refs (c.freeEventChunk pChunk) := by
  have hnote : c.noteFree pChunk = c := h.noteFree_eq
  unfold freeEventChunk
  by_cases hexceeded : c.isTargetMemoryUsageExceeded = true
  · rw [if_pos hexceeded]
    refine ⟨Function.update c.chunks pChunk none, c.eventChunkPool, c.allocations, ?_, ?_,
      h.ddFree⟩
    · rw [ddFree, hnote]
    · intro p hp
      exact Function.update_of_ne hp none c.chunks
  · rw [if_neg hexceeded, hnote]
    obtain ⟨succeeds, allocations, hpush⟩ := pushBack_eq c
    rw [hpush]
    cases succeeds with
    | true =>
      refine ⟨c.chunks, c.eventChunkPool ++ [pChunk], allocations, rfl, fun _ _ => rfl, ?_⟩
      exact h.toPool.congr rfl rfl rfl
    | false =>
      refine ⟨c.chunks, c.eventChunkPool, allocations, rfl, fun _ _ => rfl, ?_⟩
      exact (h.sublist (List.sublist_cons_self pChunk refs)).congr rfl rfl rfl

theorem ChunksConsistent.freeEventChunk (h : ChunksConsistent (pChunk :: refs) c) :
    ChunksConsistent refs (c.freeEventChunk pChunk) := by
  obtain ⟨chunks, pool, allocations, heq, hchunks, howns⟩ := freeEventChunk_eq h.owns
  have hwaiting : pChunk ∉ waitingRefs c := by
    intro hmem
    apply h.owns.notMem
    exact List.mem_append_right refs (List.mem_append_right c.held hmem)
  apply h.sameOrder
  · rw [heq]
    refine ⟨rfl, rfl, rfl, rfl, rfl, rfl, rfl, rfl, ?_⟩
    intro p hp
    apply hchunks
    rintro rfl
    exact hwaiting hp
  · have hheld : (c.freeEventChunk pChunk).held = c.held := by rw [heq]
    rw [hheld]
    exact howns

theorem ChunksConsistent.handOut (h : ChunksConsistent [] c)
    (hnew : pChunk ∉ c.held ++ waitingRefs c ++ c.eventChunkPool) :
    ChunksConsistent [] (c.handOut pChunk) := by
  have hchunks : ∀ p, p ≠ pChunk → (c.handOut pChunk).chunks p = c.chunks p := fun p hp =>
    Function.update_of_ne hp _ c.chunks
  have hperm : (pChunk :: (c.held ++ waitingRefs c ++ c.eventChunkPool)).Perm
      (c.held ++ [pChunk] ++ waitingRefs c ++ c.eventChunkPool) := by
    simp only [List.append_assoc]
    exact List.perm_middle.symm
  have hne : ∀ p ∈ c.held ++ waitingRefs c ++ c.eventChunkPool, p ≠ pChunk := by
    rintro p hp rfl
    exact hnew hp
  apply h.sameOrder
  · refine ⟨rfl, rfl, rfl, rfl, rfl, rfl, rfl, rfl, ?_⟩
    intro p hp
    apply hchunks p (hne p _)
    exact List.mem_append_left _ (List.mem_append_right c.held hp)
  · refine ⟨hperm.nodup_iff.mp (List.nodup_cons.mpr ⟨hnew, h.owns.nodup⟩), ?_, h.owns.misfreed⟩
    intro p hp
    rcases List.mem_cons.mp (hperm.mem_iff.mpr hp) with rfl | hp
    · change Function.update c.chunks p (some EventChunk.empty) p ≠ none
      rw [Function.update_self]
      exact Option.some_ne_none _
    · rw [hchunks p (hne p hp)]
      exact h.owns.live p hp

theorem ChunksConsistent.allocateEventChunk (h : ChunksConsistent [] c)
    {answer : Option EventChunkRef} (hanswer : ∀ p, answer = some p → c.chunks p = none) :
    ChunksConsistent [] (c.allocateEventChunk answer) := by
  unfold EventChunkCtx.allocateEventChunk
  cases hlast : c.eventChunkPool.getLast? with
  | some pChunk =>
    obtain ⟨init, hpool⟩ := List.getLast?_eq_some_iff.mp hlast
    have htaken := h.owns.fromPool hpool
    have hinit : c.eventChunkPool.dropLast = init := by rw [hpool, List.dropLast_concat]
    rw [hinit]
    apply ChunksConsistent.handOut
    · apply h.sameOrder
      · exact ⟨rfl, rfl, rfl, rfl, rfl, rfl, rfl, rfl, fun _ _ => rfl⟩
      · exact htaken.sublist (List.sublist_cons_self pChunk _)
    · intro hmem
      exact (List.nodup_cons.mp htaken.nodup).1 hmem
  | none =>
    cases hp : answer with
    | none => exact h
    | some pChunk =>
      apply h.handOut
      intro hmem
      exact h.owns.live pChunk hmem (hanswer pChunk hp)

theorem ChunksConsistent.write (h : ChunksConsistent [] c) (hheld : pChunk ∈ c.held)
    (chunk : EventChunk) :
    ChunksConsistent [] { c with chunks := Function.update c.chunks pChunk (some chunk) } := by
  have hwaiting : pChunk ∉ waitingRefs c := by
    have hnodup : (c.held ++ waitingRefs c).Nodup :=
      h.owns.nodup.sublist (List.sublist_append_left _ _)
    exact fun hmem => (List.nodup_append.mp hnodup).2.2 pChunk hheld pChunk hmem rfl
  apply h.sameOrder
  · refine ⟨rfl, rfl, rfl, rfl, rfl, rfl, rfl, rfl, ?_⟩
    intro p hp
    apply Function.update_of_ne
    rintro rfl
    exact hwaiting hp
  · refine ⟨h.owns.nodup, ?_, h.owns.misfreed⟩
    intro p hp
    change Function.update c.chunks pChunk (some chunk) p ≠ none
    by_cases heq : p = pChunk
    · rw [heq, Function.update_self]
      exact Option.some_ne_none _
    · rw [Function.update_of_ne heq]
      exact h.owns.live p hp

theorem ChunksConsistent.trimRounds (rounds : ℕ) (h : ChunksConsistent [] c) :
    ChunksConsistent [] (EventChunkCtx.trimRounds rounds c) := by
  induction rounds generalizing c with
  | zero => exact h
  | succ rounds ih =>
    unfold EventChunkCtx.trimRounds
    split
    · split
      · rename_i pChunk hlast
        obtain ⟨init, hpool⟩ := List.getLast?_eq_some_iff.mp hlast
        have hinit : c.eventChunkPool.dropLast = init := by rw [hpool, List.dropLast_concat]
        have htaken := h.owns.fromPool hpool
        rw [hinit]
        apply ih
        have hfree := htaken.ddFree
        have hnote := htaken.noteFree_eq
        apply h.sameOrder
        · unfold ddFree
          rw [hnote]
          refine ⟨rfl, rfl, rfl, rfl, rfl, rfl, rfl, rfl, ?_⟩
          intro p hp
          apply Function.update_of_ne
          rintro rfl
          exact htaken.notMem (List.mem_append_right c.held hp)
        · have hheld : (ddFree pChunk { c with eventChunkPool := init }).held =
              c.held := by
            unfold ddFree
            rw [hnote]
          rw [hheld]
          exact hfree
      · exact h
    · exact h

theorem ChunksConsistent.trim (h : ChunksConsistent [] c) (currentTime : UInt64) (locked : Bool) :
    ChunksConsistent [] (c.trim currentTime locked) := by
  unfold EventChunkCtx.trim trimEventChunkMemory
  split
  · have hlater : ChunksConsistent []
        { c with nextTrimTime := currentTime + kTrimFrequencyInMs } := by
      apply h.sameOrder
      · exact ⟨rfl, rfl, rfl, rfl, rfl, rfl, rfl, rfl, fun _ _ => rfl⟩
      · exact h.owns.congr rfl rfl rfl
    cases locked with
    | true => exact hlater
    | false => exact hlater.trimRounds kMaxChunksPerTrim
  · exact h

theorem ChunksConsistent.toQueue (h : ChunksConsistent (pChunk :: refs) c) {chunk : EventChunk}
    (hchunk : c.chunks pChunk = some chunk) :
    ChunksConsistent refs
      { c with
        eventChunkQueue := c.eventChunkQueue ++ [pChunk]
        enqueued := c.enqueued ++ [(pChunk, chunk)] } := by
  obtain ⟨done, waiting, horder⟩ := h.order
  have hrefs : waitingRefs
      { c with
        eventChunkQueue := c.eventChunkQueue ++ [pChunk]
        enqueued := c.enqueued ++ [(pChunk, chunk)] } = waitingRefs c ++ [pChunk] := by
    unfold waitingRefs
    rw [List.append_assoc]
  refine ⟨?_, done, waiting ++ [(pChunk, chunk)], ?_⟩
  · rw [hrefs]
    have hperm : (pChunk :: refs ++ (c.held ++ waitingRefs c)).Perm
        (refs ++ (c.held ++ (waitingRefs c ++ [pChunk]))) := by
      rw [← List.append_assoc c.held, ← List.append_assoc refs]
      exact (List.perm_append_singleton pChunk _).symm
    exact (h.owns.perm hperm).congr rfl rfl rfl
  · refine ⟨?_, ?_, ?_, horder.handedOver, horder.released, horder.releasedAfter⟩
    · change c.enqueued ++ [(pChunk, chunk)] = done ++ (waiting ++ [(pChunk, chunk)])
      rw [horder.enqueued, List.append_assoc]
    · rw [hrefs, List.map_append, horder.refs]
      rfl
    · intro entry hentry
      rcases List.mem_append.mp hentry with hentry | hentry
      · exact horder.contents entry hentry
      · obtain rfl := List.mem_singleton.mp hentry
        exact hchunk

theorem ChunksConsistent.enqueueEventChunks (h : ChunksConsistent pChunks c) :
    ChunksConsistent [] (EventChunkCtx.enqueueEventChunks pChunks c) := by
  induction pChunks generalizing c with
  | nil => exact h
  | cons pChunk rest ih =>
    unfold EventChunkCtx.enqueueEventChunks
    split
    · exact h.lose
    · rename_i chunk hchunk
      split
      · exact ih h.freeEventChunk
      · obtain ⟨succeeds, allocations, hpush⟩ := pushBack_eq c
        rw [hpush]
        have hpushed : ChunksConsistent (pChunk :: rest) { c with allocations := allocations } := by
          apply h.sameOrder
          · exact ⟨rfl, rfl, rfl, rfl, rfl, rfl, rfl, rfl, fun _ _ => rfl⟩
          · exact h.owns.congr rfl rfl rfl
        cases succeeds with
        | true => exact ih (hpushed.toQueue hchunk)
        | false => exact hpushed.lose

/-! ## Sending -/

structure SameChunks (c c' : EventChunkCtx) : Prop where
  server : c'.server = c.server
  chunks : c'.chunks = c.chunks
  pChunk : c'.pChunk = c.pChunk
  pool : c'.eventChunkPool = c.eventChunkPool
  queue : c'.eventChunkQueue = c.eventChunkQueue
  held : c'.held = c.held
  enqueued : c'.enqueued = c.enqueued
  released : c'.released = c.released
  misfreed : c'.misfreed = c.misfreed

theorem ChunksConsistent.handsOver (h : ChunksConsistent [] c) (hsame : SameChunks c c')
    {bytes : List UInt8} (hhanded : c'.handedOver = c.handedOver ++ bytes)
    (hsent : currentSent c' = currentSent c ++ bytes) : ChunksConsistent [] c' := by
  obtain ⟨done, waiting, horder⟩ := h.order
  have hrefs : waitingRefs c' = waitingRefs c := by
    unfold waitingRefs
    rw [hsame.pChunk, hsame.queue]
  refine ⟨?_, done, waiting, ?_, ?_, ?_, ?_, ?_, ?_⟩
  · rw [hsame.held, hrefs]
    exact h.owns.congr hsame.chunks hsame.pool hsame.misfreed
  · rw [hsame.enqueued]
    exact horder.enqueued
  · rw [hrefs]
    exact horder.refs
  · rw [hsame.chunks]
    exact horder.contents
  · rw [hhanded, hsent, horder.handedOver, List.append_assoc]
  · rw [hsame.released]
    exact horder.released
  · rw [hsame.released]
    exact horder.releasedAfter

theorem sendEventPayload_eq (c : EventChunkCtx) : ∃ result event,
    c.sendEventPayload = (result, { c with toEventCtx := event }) ∧ event.server = c.server ∧
      event.sent = if result = .success then c.sent ++ [c.eventPayloadContainer.bytes]
        else c.sent := by
  unfold sendEventPayload EventCtx.send
  cases c.sends with
  | nil => exact ⟨.notReady, c.toEventCtx, rfl, rfl, rfl⟩
  | cons result sends => exact ⟨result, _, rfl, rfl, rfl⟩

theorem handedOver_of_idle (h : c.eventPayloadPending = false) :
    c.handedOver = c.acceptedEventBytes := by
  unfold handedOver pendingEventBytes
  rw [h]
  exact List.append_nil _

theorem handedOver_of_pending (h : c.eventPayloadPending = true) :
    c.handedOver = c.acceptedEventBytes ++ eventDataOf c.eventPayloadContainer.bytes := by
  unfold handedOver pendingEventBytes
  rw [if_pos h]

theorem acceptedEventBytes_append (payload : List UInt8) (event : EventCtx)
    (h : event.sent = c.sent ++ [payload]) :
    acceptedEventBytes { c with toEventCtx := event } =
      c.acceptedEventBytes ++ eventDataOf payload := by
  unfold acceptedEventBytes
  rw [h, List.flatMap_append, List.flatMap_singleton]

theorem ChunksConsistent.sendPending (h : ChunksConsistent [] c) {result : Result}
    (hsend : c.sendPending = (result, c')) : ChunksConsistent [] c' ∧ c'.server = c.server := by
  unfold EventChunkCtx.sendPending at hsend
  split at hsend
  · rename_i hpending
    obtain ⟨answer, event, hpayload, hserver, hsent⟩ := sendEventPayload_eq c
    rw [hpayload] at hsend
    by_cases hanswer : answer = .success
    · subst hanswer
      cases hsend
      refine ⟨?_, hserver⟩
      have hhanded : handedOver
          { c with toEventCtx := event, eventPayloadPending := false } = c.handedOver ++ [] := by
        change acceptedEventBytes { c with toEventCtx := event } ++ [] = _
        rw [handedOver_of_pending hpending, acceptedEventBytes_append _ event hsent]
      refine ChunksConsistent.handsOver h ?_ hhanded (List.append_nil _).symm
      exact ⟨hserver, rfl, rfl, rfl, rfl, rfl, rfl, rfl, rfl⟩
    · rw [if_neg hanswer] at hsent
      have hkept : (answer, { c with toEventCtx := event }) = (result, c') := by
        rw [← hsend]
        split
        · rename_i heq
          exact absurd (Prod.mk.inj heq).1 hanswer
        · rename_i heq
          exact heq
      cases hkept
      refine ⟨?_, hserver⟩
      have hhanded : handedOver { c with toEventCtx := event } =
          c.handedOver ++ [] := by
        rw [List.append_nil]
        unfold handedOver acceptedEventBytes
        rw [hsent]
        rfl
      refine ChunksConsistent.handsOver h ?_ hhanded (List.append_nil _).symm
      exact ⟨hserver, rfl, rfl, rfl, rfl, rfl, rfl, rfl, rfl⟩
  · cases hsend
    exact ⟨h, rfl⟩

structure Sending (pChunk : EventChunkRef) (chunk : EventChunk) (c : EventChunkCtx) : Prop where
  consistent : ChunksConsistent [] c
  current : c.pChunk = some pChunk
  content : c.chunks pChunk = some chunk

variable {chunk : EventChunk}

theorem currentSent_eq (hcurrent : c.pChunk = some pChunk) (hchunk : c.chunks pChunk = some chunk) :
    currentSent c = chunk.data.take c.bytesSent := by
  unfold currentSent
  simp only [hcurrent, dataAt, hchunk]

def nextBytes (chunk : EventChunk) (c : EventChunkCtx) : List UInt8 :=
  slice chunk.data c.bytesSent (min (chunk.data.length - c.bytesSent) kMaxEventDataSize)

theorem eventDataOf_createEventPayload (chunk : EventChunk) (c : EventChunkCtx) :
    eventDataOf (c.createEventPayload chunk).eventPayloadContainer.bytes = nextBytes chunk c := by
  apply eventDataOf_createEventDataUpdate
  rw [slice, List.length_take]
  omega

theorem currentSent_createEventPayload (hcurrent : c.pChunk = some pChunk)
    (hchunk : c.chunks pChunk = some chunk) :
    currentSent (c.createEventPayload chunk) = currentSent c ++ nextBytes chunk c := by
  have hafter := currentSent_eq (c := c.createEventPayload chunk) hcurrent hchunk
  rw [hafter, currentSent_eq hcurrent hchunk]
  exact List.take_add

theorem Sending.round (h : Sending pChunk chunk c) (hpending : c.eventPayloadPending = false) :
    ∃ answer sent, (c.createEventPayload chunk).sendEventPayload = (answer, sent) ∧
      sent.server = c.server ∧
      (answer = .success → Sending pChunk chunk sent ∧ sent.eventPayloadPending = false) ∧
      (answer ≠ .success → Sending pChunk chunk { sent with eventPayloadPending := true }) := by
  obtain ⟨answer, event, hpayload, hserver, hsent⟩ :=
    sendEventPayload_eq (c.createEventPayload chunk)
  have hbytes := eventDataOf_createEventPayload chunk c
  have hmoved := currentSent_createEventPayload h.current h.content
  refine ⟨answer, _, hpayload, hserver, ?_, ?_⟩
  · intro hanswer
    rw [if_pos hanswer] at hsent
    have hhanded : handedOver
        { c.createEventPayload chunk with toEventCtx := event } =
        c.handedOver ++ nextBytes chunk c := by
      rw [handedOver_of_idle hpending, ← hbytes]
      apply Eq.trans (handedOver_of_idle _)
      · exact acceptedEventBytes_append _ event hsent
      · exact hpending
    refine ⟨⟨?_, h.current, h.content⟩, hpending⟩
    refine ChunksConsistent.handsOver h.consistent ?_ hhanded hmoved
    exact ⟨hserver, rfl, rfl, rfl, rfl, rfl, rfl, rfl, rfl⟩
  · intro hanswer
    rw [if_neg hanswer] at hsent
    have hhanded : handedOver
        { c.createEventPayload chunk with toEventCtx := event, eventPayloadPending := true } =
        c.handedOver ++ nextBytes chunk c := by
      have haccepted : acceptedEventBytes
          { c.createEventPayload chunk with toEventCtx := event, eventPayloadPending := true } =
          c.acceptedEventBytes := congrArg (List.flatMap eventDataOf) hsent
      rw [handedOver_of_idle hpending, ← hbytes, ← haccepted]
      exact handedOver_of_pending rfl
    refine ⟨?_, h.current, h.content⟩
    refine ChunksConsistent.handsOver h.consistent ?_ hhanded hmoved
    exact ⟨hserver, rfl, rfl, rfl, rfl, rfl, rfl, rfl, rfl⟩

theorem Sending.sendRounds (h : Sending pChunk chunk c) (hpending : c.eventPayloadPending = false)
    {rounds : ℕ} {result : Result} (hsend : c.sendRounds chunk rounds = (result, c')) :
    Sending pChunk chunk c' ∧ c'.server = c.server := by
  induction rounds generalizing c with
  | zero =>
    cases hsend
    exact ⟨h, rfl⟩
  | succ rounds ih =>
    unfold EventChunkCtx.sendRounds at hsend
    split at hsend
    · obtain ⟨answer, sent, hround, hserver, hsuccess, hfailure⟩ := h.round hpending
      rw [hround] at hsend
      by_cases hanswer : answer = .success
      · obtain ⟨hsending, hnone⟩ := hsuccess hanswer
        subst hanswer
        obtain ⟨hlater, hsame⟩ := ih hsending hnone hsend
        exact ⟨hlater, hsame.trans hserver⟩
      · have hkept : (answer, { sent with eventPayloadPending := true }) = (result, c') := by
          rw [← hsend]
          split
          · rename_i heq
            exact absurd (Prod.mk.inj heq).1 hanswer
          · rename_i heq
            cases heq
            rfl
        cases hkept
        exact ⟨hfailure hanswer, hserver⟩
    · cases hsend
      exact ⟨h, rfl⟩

theorem ChunksConsistent.dequeue (h : ChunksConsistent [] c) (hcurrent : c.pChunk = none) :
    ChunksConsistent [] c.dequeueEventChunk := by
  obtain ⟨done, waiting, horder⟩ := h.order
  have hrefs : waitingRefs c.dequeueEventChunk = waitingRefs c := by
    unfold waitingRefs dequeueEventChunk
    rw [hcurrent]
    cases c.eventChunkQueue <;> rfl
  have hbefore : currentSent c = [] := by
    unfold currentSent
    rw [hcurrent]
  have hafter : currentSent c.dequeueEventChunk = [] := by
    unfold currentSent dequeueEventChunk
    cases c.eventChunkQueue <;> rfl
  refine ⟨?_, done, waiting, horder.enqueued, ?_, horder.contents, ?_, horder.released,
    horder.releasedAfter⟩
  · rw [hrefs]
    exact h.owns.congr rfl rfl rfl
  · rw [hrefs]
    exact horder.refs
  · rw [hafter, ← hbefore]
    exact horder.handedOver

theorem Sending.release (h : Sending pChunk chunk c) (hsent : chunk.data.length ≤ c.bytesSent) :
    ChunksConsistent [pChunk]
      { c with released := c.released ++ [⟨pChunk, c.handedOver⟩], pChunk := none } := by
  obtain ⟨done, waiting, horder⟩ := h.consistent.order
  have hrefs : waitingRefs c = pChunk :: c.eventChunkQueue := by
    unfold waitingRefs
    rw [h.current]
    rfl
  have howns := h.consistent.owns
  rw [hrefs] at howns
  have hwaiting := horder.refs
  rw [hrefs] at hwaiting
  obtain ⟨entry, rest, rfl, hentry, hrest⟩ := List.map_eq_cons_iff.mp hwaiting
  have hcontent : entry.2 = chunk := by
    have hstored := horder.contents entry List.mem_cons_self
    rw [hentry, h.content] at hstored
    exact (Option.some.inj hstored).symm
  have hhanded : c.handedOver = chunkData (done ++ [entry]) := by
    rw [horder.handedOver, currentSent_eq h.current h.content, List.take_of_length_le hsent]
    simp [chunkData, hcontent]
  refine ⟨?_, done ++ [entry], rest, ?_, ?_, ?_, ?_, ?_, ?_⟩
  · exact (howns.perm List.perm_middle).congr rfl rfl rfl
  · rw [List.append_assoc]
    exact horder.enqueued
  · exact hrest
  · exact fun x hx => horder.contents x (List.mem_cons_of_mem entry hx)
  · exact hhanded.trans (List.append_nil _).symm
  · rw [List.map_append, List.map_append, horder.released, List.map_singleton,
      List.map_singleton, hentry]
  · intro n r hn
    have hlength : c.released.length = done.length := by
      simpa using congrArg List.length horder.released
    by_cases hlt : n < c.released.length
    · rw [List.getElem?_append_left hlt] at hn
      rw [List.take_append_of_le_length (by omega)]
      exact horder.releasedAfter n r hn
    · rw [List.getElem?_append_right (by omega)] at hn
      obtain ⟨-, rfl⟩ := List.getElem?_eq_some_iff.mp hn
      have hall : (done ++ [entry]).length ≤ n + 1 := by
        rw [List.length_append, List.length_singleton]
        omega
      rw [List.getElem_singleton, List.take_of_length_le hall, ← hhanded]

theorem noteFree_pChunk (pChunk : EventChunkRef) (c : EventChunkCtx)
    (current : Option EventChunkRef) :
    noteFree pChunk { c with pChunk := current } =
      { c.noteFree pChunk with pChunk := current } := by
  unfold noteFree
  split <;> rfl

theorem pushBack_pChunk (c : EventChunkCtx) (current : Option EventChunkRef) :
    pushBack { c with pChunk := current } =
      (c.pushBack.1, { c.pushBack.2 with pChunk := current }) := by
  unfold pushBack
  cases hallocations : c.allocations with
  | nil => simp only [hallocations]
  | cons succeeds allocations => rfl

theorem freeEventChunk_pChunk (pChunk : EventChunkRef) (c : EventChunkCtx)
    (current : Option EventChunkRef) :
    freeEventChunk pChunk { c with pChunk := current } =
      { c.freeEventChunk pChunk with pChunk := current } := by
  have hsame : isTargetMemoryUsageExceeded { c with pChunk := current } =
      c.isTargetMemoryUsageExceeded := rfl
  unfold freeEventChunk
  rw [noteFree_pChunk, pushBack_pChunk, hsame]
  by_cases hexceeded : c.isTargetMemoryUsageExceeded = true
  · rw [if_pos hexceeded, if_pos hexceeded, ddFree, ddFree,
      noteFree_pChunk]
  · rw [if_neg hexceeded, if_neg hexceeded]
    rcases (c.noteFree pChunk).pushBack with ⟨_ | _, pushed⟩ <;> rfl

theorem Sending.finishChunk (h : Sending pChunk chunk c)
    (hsent : chunk.data.length ≤ c.bytesSent) : ChunksConsistent [] (c.finishChunk pChunk) := by
  have hfreed := (h.release hsent).freeEventChunk
  have hidle : ChunksConsistent []
      { freeEventChunk pChunk
          { c with released := c.released ++ [⟨pChunk, c.handedOver⟩] } with pChunk := none } := by
    rw [← freeEventChunk_pChunk]
    exact hfreed
  have hnext := hidle.dequeue rfl
  exact hnext

theorem server_noteFree : (c.noteFree pChunk).server = c.server := by
  unfold noteFree
  split <;> rfl

theorem server_freeEventChunk : (c.freeEventChunk pChunk).server = c.server := by
  unfold freeEventChunk
  split
  · exact server_noteFree
  · obtain ⟨succeeds, allocations, hpush⟩ := pushBack_eq (c.noteFree pChunk)
    rw [hpush]
    cases succeeds <;> exact server_noteFree

theorem ChunksConsistent.sendChunks (rounds : ℕ) (h : ChunksConsistent [] c) :
    ChunksConsistent [] (c.sendChunks rounds) ∧ (c.sendChunks rounds).server = c.server := by
  induction rounds generalizing c with
  | zero => exact ⟨h, rfl⟩
  | succ rounds ih =>
    unfold EventChunkCtx.sendChunks
    split
    · exact ⟨h, rfl⟩
    · rename_i pChunk hcurrent
      split
      · exact ⟨h, rfl⟩
      · rename_i chunk hchunk
        split
        · exact ⟨h, rfl⟩
        · rename_i hpending
          have hidle : c.eventPayloadPending = false := by simpa using hpending
          rcases hsend : c.sendRounds chunk chunk.data.length with ⟨result, sent⟩
          dsimp only
          obtain ⟨hsending, hserver⟩ := Sending.sendRounds ⟨h, hcurrent, hchunk⟩ hidle hsend
          split
          · rename_i hall
            obtain ⟨hlater, hsame⟩ := ih (hsending.finishChunk hall.2)
            refine ⟨hlater, hsame.trans ?_⟩
            exact server_freeEventChunk.trans hserver
          · exact ⟨hsending.consistent, hserver⟩

theorem ChunksConsistent.sendEventData (h : ChunksConsistent [] c) :
    ChunksConsistent [] c.sendEventData ∧ c.sendEventData.server = c.server := by
  unfold EventChunkCtx.sendEventData
  split
  · rename_i sent hsend
    obtain ⟨hsent, hserver⟩ := h.sendPending hsend
    have hnext : ChunksConsistent [] (if sent.pChunk = none then sent.dequeueEventChunk else sent) ∧
        (if sent.pChunk = none then sent.dequeueEventChunk else sent).server = sent.server := by
      split
      · rename_i hcurrent
        exact ⟨hsent.dequeue hcurrent, rfl⟩
      · exact ⟨hsent, rfl⟩
    obtain ⟨hlater, hsame⟩ := hnext.1.sendChunks _
    exact ⟨hlater, hsame.trans (hnext.2.trans hserver)⟩
  · rename_i hsend
    exact h.sendPending hsend

end Order

/-! ## The other payloads -/

def AnswersOnly (pSession : EventSessionRef) (server : EventServer) : Prop :=
  ∀ session, server.sessions pSession = some session → session.state = .sendPayload →
    eventDataOf session.payloadContainer.bytes = []

section Answers

variable {pSession : EventSessionRef} {session : EventServerSession} {c : EventCtx}

theorem answersOnly_setSession {s : EventServer}
    (h : session.state = .sendPayload → eventDataOf session.payloadContainer.bytes = []) :
    AnswersOnly pSession (s.setSession pSession session) := by
  intro session' hsession hstate
  simp only [EventServer.setSession, Function.update_self, Option.some.injEq] at hsession
  subst hsession
  exact h hstate

theorem answersOnly_respond {data : List UInt8} (hlength : data.length ≤ kMaxPayloadSizeInBytes)
    (hdata : eventDataOf data = []) :
    AnswersOnly pSession (c.respond pSession session data).server := by
  apply answersOnly_setSession
  intro _
  have hbytes : (session.payloadContainer.fill data).bytes = data :=
    readBytes_writeBytes hlength session.payloadContainer.payload
  exact hbytes.symm ▸ hdata

theorem answersOnly_handleQueryProvidersRequest :
    AnswersOnly pSession (c.handleQueryProvidersRequest pSession session).server := by
  have hmax : 12 ≤ kMaxPayloadSizeInBytes := by decide
  apply answersOnly_respond
  · simpa [queryProvidersResponsePayload, eventHeader] using hmax
  · unfold queryProvidersResponsePayload
    rw [List.append_assoc]
    exact eventDataOf_eventHeader (by decide) _

theorem answersOnly_handleAllocateProviderUpdatesRequest :
    AnswersOnly pSession (c.handleAllocateProviderUpdatesRequest pSession session).server := by
  have hanswer : ∀ result block,
      eventDataOf (allocateProviderUpdatesResponse result block) = [] := by
    intro result block
    unfold allocateProviderUpdatesResponse
    rw [List.append_assoc]
    exact eventDataOf_eventHeader (by decide) _
  have hlength : ∀ result block, (allocateProviderUpdatesResponse result block).length ≤
      kMaxPayloadSizeInBytes := by
    intro result block
    have hmax : 12 ≤ kMaxPayloadSizeInBytes := by decide
    simpa [allocateProviderUpdatesResponse, eventHeader] using hmax
  unfold handleAllocateProviderUpdatesRequest
  split
  · exact answersOnly_respond (hlength _ _) (hanswer _ _)
  · split <;> exact answersOnly_respond (hlength _ _) (hanswer _ _)

theorem answersOnly_handleApplyProviderUpdatesRequest :
    AnswersOnly pSession (c.handleApplyProviderUpdatesRequest pSession session).server := by
  have hanswer : ∀ result, eventDataOf (applyProviderUpdatesResponse result) = [] := fun _ =>
    eventDataOf_eventHeader (by decide) _
  have hlength : ∀ result, (applyProviderUpdatesResponse result).length ≤
      kMaxPayloadSizeInBytes := by
    intro result
    have hmax : 8 ≤ kMaxPayloadSizeInBytes := by decide
    simpa [applyProviderUpdatesResponse, eventHeader] using hmax
  unfold handleApplyProviderUpdatesRequest
  split <;> exact answersOnly_respond (hlength _) (hanswer _)

theorem AnswersOnly.handleSubscribeToProviderRequest (h : AnswersOnly pSession c.server) :
    AnswersOnly pSession (c.handleSubscribeToProviderRequest pSession session).server := by
  unfold EventCtx.handleSubscribeToProviderRequest
  dsimp only
  split
  · exact h
  · apply answersOnly_respond
    · have hmax : 8 ≤ kMaxPayloadSizeInBytes := by decide
      simpa [subscribeToProviderResponse, eventHeader] using hmax
    · exact eventDataOf_eventHeader (by decide) _

theorem AnswersOnly.processPayload (h : AnswersOnly pSession c.server) :
    AnswersOnly pSession (c.processPayload pSession session).server := by
  unfold EventCtx.processPayload
  split
  · exact answersOnly_handleQueryProvidersRequest
  · exact answersOnly_handleAllocateProviderUpdatesRequest
  · exact answersOnly_handleApplyProviderUpdatesRequest
  · exact h.handleSubscribeToProviderRequest
  · apply answersOnly_setSession
    intro hstate
    cases hstate
  · exact h

theorem sent_buildQueryProvidersResponse : c.buildQueryProvidersResponse.2.2.sent = c.sent := by
  unfold buildQueryProvidersResponse
  split <;> rfl

theorem sent_processPayload : (c.processPayload pSession session).sent = c.sent := by
  unfold processPayload
  split
  · exact sent_buildQueryProvidersResponse
  · unfold handleAllocateProviderUpdatesRequest
    split
    · rfl
    · split <;> rfl
  · unfold handleApplyProviderUpdatesRequest
    split <;> rfl
  · unfold handleSubscribeToProviderRequest
    dsimp only
    split <;> rfl
  · rfl
  · rfl

theorem AnswersOnly.updateEventSession (h : AnswersOnly pSession c.server) :
    AnswersOnly pSession (c.updateEventSession pSession).server ∧
      (c.updateEventSession pSession).sent.flatMap eventDataOf = c.sent.flatMap eventDataOf := by
  unfold EventCtx.updateEventSession
  split
  · exact ⟨h, rfl⟩
  · rename_i session hsession
    split
    · unfold EventCtx.receive
      rcases c.receives with _ | ⟨_ | _, receives⟩
      · exact ⟨h, rfl⟩
      · refine ⟨answersOnly_setSession ?_, rfl⟩
        intro hstate
        cases hstate
      · exact ⟨h, rfl⟩
    · exact ⟨h.processPayload, congrArg _ sent_processPayload⟩
    · rename_i hstate
      have hanswer := h session hsession hstate
      have hafter : ∀ event : EventCtx, AnswersOnly pSession
          (event.setSession pSession { session with state := .receivePayload }).server := by
        intro event
        apply answersOnly_setSession
        intro hstate
        cases hstate
      unfold EventCtx.send
      cases c.sends with
      | nil => exact ⟨h, rfl⟩
      | cons result sends =>
        by_cases hresult : result = .success
        · simp only [if_pos hresult]
          refine ⟨hafter _, ?_⟩
          change (c.sent ++ [session.payloadContainer.bytes]).flatMap eventDataOf = _
          rw [List.flatMap_append, List.flatMap_singleton, hanswer, List.append_nil]
        · simp only [if_neg hresult]
          exact ⟨h, trivial⟩

end Answers

/-! ## Runs -/

structure SendsInOrder (pSession : EventSessionRef) (c : EventChunkCtx) : Prop where
  consistent : ChunksConsistent [] c
  answers : AnswersOnly pSession c.server

section Runs

variable {pSession : EventSessionRef} {c c' : EventChunkCtx}

theorem sendsInOrder_init (h : (eventChunkMachine pSession).init c) : SendsInOrder pSession c := by
  obtain ⟨event, chunks, container, nextTrimTime, id, rfl, hsent, hsession⟩ := h
  refine ⟨⟨⟨List.nodup_nil, nofun, rfl⟩, [], [], rfl, rfl, nofun, ?_, rfl, nofun⟩, ?_⟩
  · apply (handedOver_of_idle rfl).trans
    change event.sent.flatMap eventDataOf = []
    rw [hsent]
    rfl
  · intro session hstored hstate
    obtain rfl := Option.some.inj (hsession.symm.trans hstored)
    cases hstate

theorem trimRounds_server (rounds : ℕ) :
    (trimRounds rounds c).server = c.server := by
  induction rounds generalizing c with
  | zero => rfl
  | succ rounds ih =>
    unfold trimRounds
    split
    · split
      · exact ih.trans server_noteFree
      · rfl
    · rfl

theorem server_trim (currentTime : UInt64) (locked : Bool) :
    (c.trim currentTime locked).server = c.server := by
  unfold trim trimEventChunkMemory
  split
  · cases locked with
    | true => rfl
    | false => exact trimRounds_server _
  · rfl

theorem SendsInOrder.updateSession (h : SendsInOrder pSession c) (currentTime : UInt64)
    (locked : Bool) : SendsInOrder pSession (c.updateSession pSession currentTime locked) := by
  obtain ⟨hanswers, hsent⟩ := h.answers.updateEventSession
  have hupdated : ChunksConsistent []
      { c with toEventCtx := c.toEventCtx.updateEventSession pSession } := by
    apply h.consistent.sameOrder
    · exact ⟨hsent, rfl, rfl, rfl, rfl, rfl, rfl, rfl, fun _ _ => rfl⟩
    · exact h.consistent.owns.congr rfl rfl rfl
  unfold EventChunkCtx.updateSession
  split
  · obtain ⟨hafter, hserver⟩ := hupdated.sendEventData
    refine ⟨hafter.trim currentTime locked, ?_⟩
    rw [server_trim, hserver]
    exact hanswers
  · refine ⟨hupdated.trim currentTime locked, ?_⟩
    rw [server_trim]
    exact hanswers

theorem server_allocateEventChunk (answer : Option EventChunkRef) :
    (c.allocateEventChunk answer).server = c.server := by
  unfold allocateEventChunk
  split
  · rfl
  · split <;> rfl

theorem server_enqueueEventChunks (pChunks : List EventChunkRef) :
    (enqueueEventChunks pChunks c).server = c.server := by
  induction pChunks generalizing c with
  | nil => rfl
  | cons pChunk rest ih =>
    unfold enqueueEventChunks
    split
    · rfl
    · split
      · exact ih.trans server_freeEventChunk
      · obtain ⟨succeeds, allocations, hpush⟩ := pushBack_eq c
        rw [hpush]
        cases succeeds with
        | true => exact ih
        | false => rfl

theorem ChunksConsistent.giveBack (h : ChunksConsistent [] c) {pChunks kept : List EventChunkRef}
    (hperm : c.held.Perm (pChunks ++ kept)) (allocations : List Bool) :
    ChunksConsistent pChunks { c with allocations := allocations, held := kept } := by
  apply h.sameOrder
  · exact ⟨rfl, rfl, rfl, rfl, rfl, rfl, rfl, rfl, fun _ _ => rfl⟩
  · have howns := h.owns.perm (hperm.append_right (waitingRefs c))
    rw [List.append_assoc] at howns
    exact howns.congr rfl rfl rfl

/-- The bytes queued, under way and accepted stay in order. -/
theorem SendsInOrder.step (h : SendsInOrder pSession c) {a : EventChunkAction}
    (hstep : c.step pSession a = some c') : SendsInOrder pSession c' := by
  have hheld : c.held.Nodup := by
    have hnodup := h.consistent.owns.nodup
    exact (hnodup.sublist (List.sublist_append_left _ _)).sublist (List.sublist_append_left _ _)
  cases a with
  | allocate answer =>
    simp only [EventChunkCtx.step, Option.ite_none_right_eq_some, Option.some.injEq] at hstep
    obtain ⟨hanswer, rfl⟩ := hstep
    refine ⟨h.consistent.allocateEventChunk ?_, ?_⟩
    · rintro p rfl
      simpa using hanswer
    · rw [server_allocateEventChunk]
      exact h.answers
  | write pChunk chunk =>
    simp only [EventChunkCtx.step, Option.ite_none_right_eq_some, Option.some.injEq] at hstep
    obtain ⟨hmem, rfl⟩ := hstep
    exact ⟨h.consistent.write hmem chunk, h.answers⟩
  | free pChunk allocations =>
    simp only [EventChunkCtx.step, Option.ite_none_right_eq_some, Option.some.injEq] at hstep
    obtain ⟨hmem, rfl⟩ := hstep
    refine ⟨ChunksConsistent.freeEventChunk ?_, ?_⟩
    · exact h.consistent.giveBack (List.perm_cons_erase hmem) allocations
    · rw [server_freeEventChunk]
      exact h.answers
  | enqueue pChunks allocations =>
    simp only [EventChunkCtx.step, Option.ite_none_right_eq_some, Option.some.injEq] at hstep
    obtain ⟨⟨hnodup, hmem⟩, rfl⟩ := hstep
    refine ⟨ChunksConsistent.enqueueEventChunks ?_, ?_⟩
    · apply h.consistent.giveBack
      have hperm : (c.held.filter (· ∈ pChunks)).Perm pChunks := by
        apply (List.perm_ext_iff_of_nodup (hheld.filter _) hnodup).mpr
        intro p
        rw [List.mem_filter]
        simpa using hmem p
      apply (List.filter_append_perm (· ∈ pChunks) c.held).symm.trans
      simpa using hperm.append_right _
    · rw [server_enqueueEventChunks]
      exact h.answers
  | update receives sends allocations currentTime locked =>
    cases hstep
    apply SendsInOrder.updateSession
    refine ⟨?_, h.answers⟩
    apply h.consistent.sameOrder
    · exact ⟨rfl, rfl, rfl, rfl, rfl, rfl, rfl, rfl, fun _ _ => rfl⟩
    · exact h.consistent.owns.congr rfl rfl rfl
  | others server blocks =>
    cases hstep
    refine ⟨?_, ?_⟩
    · apply h.consistent.sameOrder
      · exact ⟨rfl, rfl, rfl, rfl, rfl, rfl, rfl, rfl, fun _ _ => rfl⟩
      · exact h.consistent.owns.congr rfl rfl rfl
    · intro session hsession hstate
      simp only [Function.update_self] at hsession
      exact h.answers session hsession hstate

/-- In every run, the event bytes that the client's session accepted, those of the pending payload
and those that the chunks still hold are the bytes of the chunks that were put into the queue.
Every chunk is in one place, the chunks are released in the order they were put into the queue in,
each when its last byte was handed over, and no chunk is freed while it is free. -/
theorem queued_chunks_sent_in_order (h : (eventChunkMachine pSession).Reachable c) :
    c.acceptedEventBytes ++ c.pendingEventBytes ++ c.currentRest ++ c.queuedBytes =
        chunkData c.enqueued ∧
      (∀ n r, c.released[n]? = some r → (∃ chunk, c.enqueued[n]? = some (r.pChunk, chunk)) ∧
        chunkData (c.enqueued.take (n + 1)) <+: r.handedOver) ∧
      (c.held ++ c.pChunk.toList ++ c.eventChunkQueue ++ c.eventChunkPool).Nodup ∧
      c.misfreed = [] := by
  have hinvariant : SendsInOrder pSession c := by
    apply h.invariant (fun _ hinit => sendsInOrder_init hinit)
    intro s t a _ _ hs hstep
    obtain ⟨c', hc', heq⟩ := Option.map_eq_some_iff.mp hstep
    obtain ⟨rfl, -⟩ := Prod.mk.inj heq
    exact hs.step hc'
  obtain ⟨howns, done, waiting, horder⟩ := hinvariant.consistent
  refine ⟨?_, ?_, ?_, howns.misfreed⟩
  · have hcurrent : currentSent c ++ c.currentRest = c.pChunk.toList.flatMap c.dataAt := by
      unfold currentSent currentRest
      cases c.pChunk with
      | none => rfl
      | some pChunk =>
        simp only [List.take_append_drop, Option.toList_some, List.flatMap_singleton]
    have hwaiting : chunkData waiting = (waitingRefs c).flatMap c.dataAt := by
      rw [← horder.refs, List.flatMap_map]
      apply List.flatMap_congr
      intro entry hentry
      simp only [dataAt, horder.contents entry hentry]
    calc
      c.acceptedEventBytes ++ c.pendingEventBytes ++ c.currentRest ++ c.queuedBytes
          = chunkData done ++ (currentSent c ++ c.currentRest) ++ c.queuedBytes := by
            rw [← List.append_assoc (chunkData done), ← horder.handedOver]
            rfl
      _ = chunkData done ++ (waitingRefs c).flatMap c.dataAt := by
            rw [hcurrent, List.append_assoc]
            unfold waitingRefs queuedBytes
            rw [List.flatMap_append]
      _ = chunkData c.enqueued := by
            rw [← hwaiting, horder.enqueued]
            exact List.flatMap_append.symm
  · intro n r hn
    have hlength : c.released.length = done.length := by
      simpa using congrArg List.length horder.released
    obtain ⟨hlt, -⟩ := List.getElem?_eq_some_iff.mp hn
    have hentry : (done.map (·.1))[n]? = some r.pChunk := by
      rw [← horder.released, List.getElem?_map, hn]
      rfl
    rw [List.getElem?_map, Option.map_eq_some_iff] at hentry
    obtain ⟨entry, hentry, hpChunk⟩ := hentry
    refine ⟨⟨entry.2, ?_⟩, ?_⟩
    · rw [horder.enqueued, List.getElem?_append_left (by omega), hentry, ← hpChunk]
    · rw [horder.enqueued, List.take_append_of_le_length (by omega)]
      exact horder.releasedAfter n r hn
  · have hnodup := howns.nodup
    unfold waitingRefs at hnodup
    simpa only [List.nil_append, List.append_assoc] using hnodup

def sentChunkRun : List EventChunkAction :=
  [.allocate (some 0), .write 0 ⟨[1, 2, 3], by decide⟩, .enqueue [0] [],
    .update [] [.notReady] [] 0 false, .update [] [.success] [] 0 false]

def newChunkSession : EventChunkCtx :=
  .new ⟨EventServer.new.sessionEstablished 1, ⟨.new, [], []⟩, [], [], []⟩ (fun _ => none) .zero 0

theorem queued_chunks_sent_in_order_run : ∃ c, (eventChunkMachine 0).Reachable c ∧
    c.acceptedEventBytes ++ c.pendingEventBytes ++ c.currentRest ++ c.queuedBytes =
      chunkData c.enqueued ∧ c.acceptedEventBytes = [1, 2, 3] ∧ c.released.length = 1 := by
  have hinit : (eventChunkMachine 0).Reachable newChunkSession :=
    .init ⟨_, _, _, _, 1, rfl, rfl, rfl⟩
  obtain ⟨c, hreachable, hc⟩ := hinit.exists_of_run sentChunkRun
    (fun c => c.acceptedEventBytes = [1, 2, 3] ∧ c.released.length = 1) (by decide +kernel)
  exact ⟨c, hreachable, (queued_chunks_sent_in_order hreachable).1, by simpa using hc⟩

end Runs

/-! ## What a client reads -/

/-- The events that a list of events begins with, of the last of which maybe not all bytes. -/
inductive IsStartOf : List (EventInfo × List UInt8) → List (EventInfo × List UInt8) → Prop
  | nil (events) : IsStartOf [] events
  | last {info bytes data} (events) (h : bytes <+: data) :
    IsStartOf [(info, bytes)] ((info, data) :: events)
  | cons {read events} (event) (h : IsStartOf read events) :
    IsStartOf (event :: read) (event :: events)

theorem gatherRead_of_prefix {events : List (EventInfo × List UInt8)} {reports : List ReadReport}
    (h : reports <+: events.flatMap eventReports) :
    (gatherRead reports).1 = [] ∧ IsStartOf (gatherRead reports).2 events := by
  induction events generalizing reports with
  | nil =>
    obtain rfl := List.prefix_nil.mp h
    exact ⟨rfl, .nil _⟩
  | cons event events ih =>
    rw [List.flatMap_cons, eventReports, List.cons_append, List.prefix_cons_iff] at h
    rcases h with rfl | ⟨rest, rfl, hrest⟩
    · exact ⟨rfl, .nil _⟩
    refine ⟨rfl, ?_⟩
    rw [gatherRead]
    rcases List.prefix_or_prefix_of_prefix hrest (List.prefix_append _ _) with hbytes | hbytes
    · obtain ⟨bytes, hfirst, rfl⟩ := List.prefix_map_iff.mp hbytes
      have hgather := gatherRead_bytes bytes []
      rw [List.append_nil] at hgather
      rw [hgather]
      simpa [gatherRead] using IsStartOf.last events hfirst
    · obtain ⟨rest, rfl⟩ := hbytes
      obtain ⟨hnone, hstart⟩ := ih ((List.prefix_append_right_inj _).mp hrest)
      rw [gatherRead_bytes, hnone, List.append_nil]
      exact .cons event hstart

theorem parseBuffers_of_prefix {tokens : List EventToken} (h : ∀ t ∈ tokens, t.WellFormed)
    {buffers : List (List UInt8)} (hfirst : buffers.flatten <+: encodeTokens tokens) :
    ∃ reports q, EventParser.new.parseBuffers buffers = some (reports, q) ∧
      (gatherReports reports).1 = [] ∧
      IsStartOf (gatherReports reports).2 (tokenEvents parserRules ⟨0, 0, 0⟩ tokens) := by
  obtain ⟨rest, hrest⟩ := hfirst
  have htokens := read_encodeTokens parserRules ⟨0, 0, 0⟩ h
    fun t ht => acceptsDelta_parserRules (h t ht)
  rw [← hrest, Reader.read_append] at htokens
  obtain ⟨hplace, hreports⟩ := Prod.mk.inj htokens
  have hlost : ((tokenReader parserRules).read ⟨⟨0, 0, 0⟩, .header⟩ buffers.flatten).1.place ≠
      .lost := by
    intro hlost
    rw [Reader.read_of_absorbing (lost_absorbs hlost)] at hplace
    rw [hplace] at hlost
    cases hlost
  obtain ⟨reports, q, s, hrun, -, hread⟩ := parseBuffers_reads buffers parserReadsAs_new hlost
  rw [hread] at hreports
  refine ⟨reports, q, hrun, ?_⟩
  rw [gatherReports_eq]
  exact gatherRead_of_prefix ⟨_, hreports⟩

section Sent

variable {pSession : EventSessionRef} {c : EventChunkCtx}
  {done waiting : List (EventChunkRef × EventChunk)}

theorem SendsInOrder.of_reachable (h : (eventChunkMachine pSession).Reachable c) :
    SendsInOrder pSession c := by
  apply h.invariant (fun _ hinit => sendsInOrder_init hinit)
  intro s t a _ _ hs hstep
  obtain ⟨c', hc', heq⟩ := Option.map_eq_some_iff.mp hstep
  obtain ⟨rfl, -⟩ := Prod.mk.inj heq
  exact hs.step hc'

theorem currentSent_none (h : c.pChunk = none) : currentSent c = [] := by
  unfold currentSent
  rw [h]

theorem ChunksInOrder.handedOver_prefix (h : ChunksInOrder done waiting c) :
    c.handedOver <+: chunkData c.enqueued := by
  have hcurrent : currentSent c <+: chunkData waiting := by
    cases hpChunk : c.pChunk with
    | none =>
      rw [currentSent_none hpChunk]
      exact List.nil_prefix
    | some pChunk =>
      have hrefs := h.refs
      unfold waitingRefs at hrefs
      rw [hpChunk] at hrefs
      obtain ⟨entry, rest, rfl, rfl, -⟩ := List.map_eq_cons_iff.mp hrefs
      rw [currentSent_eq hpChunk (h.contents entry List.mem_cons_self)]
      exact (List.take_prefix _ _).trans (List.prefix_append entry.2.data (chunkData rest))
  rw [h.handedOver, h.enqueued]
  unfold chunkData
  rw [List.flatMap_append]
  exact (List.prefix_append_right_inj _).mpr hcurrent

theorem ChunksInOrder.handedOver_of_empty (h : ChunksInOrder done waiting c)
    (hempty : waitingRefs c = []) : c.handedOver = chunkData c.enqueued := by
  have hpChunk : c.pChunk = none := by
    have hfirst := (List.append_eq_nil_iff.mp hempty).1
    rwa [Option.toList_eq_nil_iff] at hfirst
  have hwaiting := h.refs
  rw [hempty, List.map_eq_nil_iff] at hwaiting
  rw [h.handedOver, h.enqueued, currentSent_none hpChunk, hwaiting, List.append_nil,
    List.append_nil]

/-- Of the events that the writes to a provider completed, a client that parses the event data a
session sent reads the first ones, as they were written, of the last of them maybe not all bytes;
it reads all of them once nothing is held back. -/
theorem sent_events_read (h : (eventChunkMachine pSession).Reachable c) (id : UInt32)
    (flushFrequencyInMs timestampFrequency : UInt64) (cs : List ProviderCall)
    (henqueued : chunkData c.enqueued = chunkBytes
      ((BaseEventProvider.new id flushFrequencyInMs timestampFrequency).calls cs).2.queue) :
    ∃ reports q events, EventParser.new.parseBuffers (c.sent.map eventDataOf) = some (reports, q) ∧
      (gatherReports reports).1 = [] ∧ IsStartOf (gatherReports reports).2 events ∧
      events.map eventKey =
        (completed cs (.new id flushFrequencyInMs timestampFrequency)).map (writtenKey id) ∧
      (((BaseEventProvider.new id flushFrequencyInMs timestampFrequency).calls cs).2.eventChunks =
          [] → waitingRefs c = [] → c.eventPayloadPending = false →
        (gatherReports reports).2 = events) := by
  have hnew : StreamOf (.new id flushFrequencyInMs timestampFrequency) [] [] :=
    ⟨rfl, by simp, rfl, fun hne => absurd rfl hne⟩
  obtain ⟨tokens, hstream⟩ := hnew.calls cs
  have hwritten : ∀ t ∈ tokens, t.WellFormed := fun t ht => (hstream.written t ht).wellFormed
  have hevents := hstream.events
  rw [calls_id, List.nil_append] at hevents
  obtain ⟨-, done, waiting, horder⟩ := (SendsInOrder.of_reachable h).consistent
  have hbytes := hstream.bytes
  unfold providerBytes at hbytes
  rw [chunkBytes_append, ← henqueued] at hbytes
  have hsent : (c.sent.map eventDataOf).flatten <+: encodeTokens tokens := by
    have haccepted : c.acceptedEventBytes <+: c.handedOver := List.prefix_append _ _
    rw [← hbytes, ← List.flatMap_def]
    exact (haccepted.trans horder.handedOver_prefix).trans (List.prefix_append _ _)
  obtain ⟨reports, q, hrun, hnone, hstart⟩ := parseBuffers_of_prefix hwritten hsent
  refine ⟨reports, q, _, hrun, hnone, hstart, hevents, ?_⟩
  intro hflushed hwaiting hpending
  have hall : (c.sent.map eventDataOf).flatten = encodeTokens tokens := by
    rw [← hbytes, hflushed, ← horder.handedOver_of_empty hwaiting, handedOver_of_idle hpending,
      ← List.flatMap_def]
    exact (List.append_nil _).symm
  obtain ⟨reports', q', hrun', hgather, -⟩ := parseBuffers_encodeTokens hwritten _ hall
  obtain ⟨rfl, rfl⟩ := Prod.mk.inj (Option.some_inj.mp (hrun.symm.trans hrun'))
  rw [hgather]

def sentProviderCalls : List ProviderCall :=
  [.write ⟨1, none, [5], 32, 64, [true, true], 0, by decide⟩,
    .write ⟨2, none, [6, 7], 32, 64, [true, true], 3, by decide⟩, .flush]

def flushedChunk : EventChunk :=
  ((BaseEventProvider.new 7 0 1).calls sentProviderCalls).2.queue.headD .empty

def flushedChunkRun : List EventChunkAction :=
  [.allocate (some 0), .write 0 flushedChunk, .enqueue [0] [],
    .update [] [.notReady] [] 0 false, .update [] [.success] [] 0 false]

theorem sent_events_read_run : ∃ c, (eventChunkMachine 0).Reachable c ∧
    ∃ reports q, EventParser.new.parseBuffers (c.sent.map eventDataOf) = some (reports, q) ∧
      (gatherReports reports).2.map eventKey = [(7, 1, 0, 1, [5]), (7, 2, 1, 2, [6, 7])] := by
  have hinit : (eventChunkMachine 0).Reachable newChunkSession :=
    .init ⟨_, _, _, _, 1, rfl, rfl, rfl⟩
  obtain ⟨c, hreachable, hc⟩ := hinit.exists_of_run flushedChunkRun
    (fun c => chunkData c.enqueued = chunkBytes
      ((BaseEventProvider.new 7 0 1).calls sentProviderCalls).2.queue ∧ waitingRefs c = [] ∧
        c.eventPayloadPending = false) (by decide +kernel)
  obtain ⟨henqueued, hwaiting, hpending⟩ : _ ∧ _ ∧ _ := by simpa using hc
  obtain ⟨reports, q, events, hrun, -, -, hevents, hall⟩ :=
    sent_events_read hreachable 7 0 1 sentProviderCalls henqueued
  refine ⟨c, hreachable, reports, q, hrun, ?_⟩
  rw [hall (by decide +kernel) hwaiting hpending, hevents]
  decide +kernel

end Sent

end DevDriver.Analysis
