import Mathlib.Data.List.GetD
import DevDriver.Analysis.EventServerBlocks
import DevDriver.Analysis.WatchedBlock
import DevDriver.Model.ProviderUpdates

/-!
# The block for provider updates

An event session names the same block in every reply to an allocation, as it finds it: the block is
not reset, no room is made in it, and nobody looks whether it is open.
-/

namespace DevDriver.Analysis

open Library Model EventTransfers EventCtx

/-! ## What a run has come to -/

/-- `AllocateProviderUpdatesRequest::dataSize`, a field that no code of the server reads. -/
def SizedPayloadContainer.requestedSize (c : SizedPayloadContainer) : ℕ :=
  payloadField c.payload 4 4

/-- The block that a reply to an allocation names, when its result is `Success`. -/
def allocatedBlock (reply : List UInt8) : Option BlockId :=
  if reply.take 8 =
      eventHeader .allocateProviderUpdatesResponse ++ leBytes 4 Result.success.toCode then
    some (UInt32.ofNat (leNat (slice reply 8 4)))
  else none

/-- What a run has come to: the bytes that each transfer session has written in its current push,
the bytes of the push that was completed since the last allocation and not applied yet, and the
allocation for which no push has begun yet, with the size it asked for. -/
structure UpdateWatch where
  taken : List (List UInt8)
  pushed : List UInt8
  awaited : Option (BlockId × ℕ)

namespace UpdateWatch

def start : UpdateWatch := ⟨[], [], none⟩

def view (index : ℕ) (w : UpdateWatch) : PushView :=
  ⟨w.taken.getD index [], w.pushed, w.awaited⟩

def processed (request : SizedPayloadContainer) (replies : List (List UInt8)) (w : UpdateWatch) :
    UpdateWatch :=
  match request.eventCommand with
  | .applyProviderUpdatesRequest => { w with pushed := [], awaited := none }
  | .allocateProviderUpdatesRequest =>
    match replies.head?.bind allocatedBlock with
    | none => w
    | some id =>
      ⟨w.taken, [], some (id, SizedPayloadContainer.requestedSize request)⟩
  | _ => w

def moved (block : Option SharedServerBlock) (events : List BlockEvent) (w : UpdateWatch) :
    TransferAction → UpdateWatch
  | .sessionEstablished _ => { w with taken := w.taken ++ [[]] }
  | .sessionTerminated index => { w with taken := w.taken.eraseIdx index }
  | .updateSession index _ _ =>
    match block with
    | none => w
    | some own =>
      let v := (w.view index).after own.resource events
      ⟨w.taken.set index v.taken, v.pushed, v.awaited⟩
  | _ => w

def next (pSession : EventSessionRef) (w : UpdateWatch)
    (x : EventTransfers × EventTransferAction × EventTransferOutput) : UpdateWatch :=
  match x.2.1 with
  | .updateEventSession _ _ _ =>
    match x.1.request pSession with
    | none => w
    | some request => w.processed request x.2.2.replies
  | .transfer a => w.moved (x.1.updateBlock pSession) x.2.2.operations a

end UpdateWatch

def watchedRun (pSession : EventSessionRef)
    (tr : List (EventTransfers × EventTransferAction × EventTransferOutput)) : UpdateWatch :=
  tr.foldl (UpdateWatch.next pSession) .start

/-- Any idle session that asks to push `size` bytes to the block with this id gets the block and may
write that many. -/
def TakesPush (m : TransferManager) (id : BlockId) (size : ℕ) (b : BlockRef) : Prop :=
  ∀ (session : TransferSession) (sends : List Result), session.state = .idle →
    PushesTo ((TransferCtx.mk session m [] sends [] []).processPushRequest id size).session b ∧
      ((TransferCtx.mk session m [] sends [] []).processPushRequest id size).session.totalBytes =
        size

/-- A block that an allocation may name: it is open and empty, and a push to it is accepted. -/
def Usable (m : TransferManager) (id : BlockId) (size : ℕ) : Prop :=
  ∃ b, m.getServerBlock id = some b ∧ (m.blocks b).isClosed = false ∧ (m.blocks b).data = [] ∧
    TakesPush m id size b

/-- A step applies the updates of these bytes, whatever the block contains. -/
def AppliesJust (data : List UInt8)
    (x : EventTransfers × EventTransferAction × EventTransferOutput) (u : EventTransfers) : Prop :=
  u.server.eventProviders = (x.1.server.applyProviderUpdates data).2.eventProviders ∧
    x.2.2.replies = [applyProviderUpdatesResponse (x.1.server.applyProviderUpdates data).1]

def ProcessesRequest (pSession : EventSessionRef) (s : EventTransfers) (command : EventMessage) :
    EventTransferAction → Prop
  | .updateEventSession _ _ _ => ∃ request ∈ s.request pSession, request.eventCommand = command
  | .transfer _ => False

/-- While an allocation waits for its push, the block it has named is usable; and a request to apply
applies the updates of the push that was completed for it, and no others. -/
structure UpdatesExact (pSession : EventSessionRef)
    (tr : List (EventTransfers × EventTransferAction × EventTransferOutput))
    (t : EventTransfers) : Prop where
  usable : ∀ id size, (watchedRun pSession tr).awaited = some (id, size) →
    Usable t.transfers.manager id size
  applied : ∀ before x after, tr = before ++ x :: after →
    ProcessesRequest pSession x.1 .applyProviderUpdatesRequest x.2.1 →
    (x.1.updateBlock pSession).isSome → ∃ u,
      (eventTransferMachine pSession).step x.1 x.2.1 = some (u, x.2.2) ∧
        AppliesJust (watchedRun pSession before).pushed x u

def NoPush (b : BlockRef) (t : TransferState) : Prop :=
  ∀ session ∈ t.sessions, ¬ PushesTo session b

/-- An allocation asks for some bytes, and it finds no block yet and draws an id that is not in
use, or it finds no push under way and none completed that was not applied. -/
def AllocatesInOrder (draws : List (Option BlockId)) (request : SizedPayloadContainer)
    (t : TransferState) : Option SharedServerBlock → Prop
  | none => 0 < SizedPayloadContainer.requestedSize request ∧
      ∀ id ∈ draws.head?.join, t.manager.getServerBlock id = none
  | some own => 0 < SizedPayloadContainer.requestedSize request ∧
      (t.manager.blocks own.resource).isClosed = false ∧ NoPush own.resource t

/-- Every completed push is applied before the next allocation, no push is under way at an
allocation or when the block is applied, no push is dropped, and no two overlap. -/
def UpdatesInOrder (pSession : EventSessionRef) (s : EventTransfers) : EventTransferAction → Prop
  | .updateEventSession draws _ _ => ∀ request ∈ s.request pSession,
      (request.eventCommand = .allocateProviderUpdatesRequest →
        AllocatesInOrder draws request s.transfers (s.updateBlock pSession)) ∧
      (request.eventCommand = .applyProviderUpdatesRequest →
        ∀ own ∈ s.updateBlock pSession, NoPush own.resource s.transfers)
  | .transfer (.updateSession index receives sends) =>
    ∀ own ∈ s.updateBlock pSession, ∀ session ∈ s.transfers.sessions[index]?,
      AcceptsPush own.resource (s.transfers.context session receives sends) →
        NoPush own.resource s.transfers
  | .transfer (.sessionTerminated index) =>
    ∀ own ∈ s.updateBlock pSession, ∀ session ∈ s.transfers.sessions[index]?,
      ¬ PushesTo session own.resource
  | .transfer _ => True

/-! ## The invariant -/

/-- The update block of a session is its own, and holds what was pushed to it. -/
structure Kept (own : SharedServerBlock) (w : UpdateWatch) (t : TransferState) : Prop where
  registered : t.manager.registeredServerBlocks own.id = some own.resource
  sized : ServerBlock.Sized (t.manager.blocks own.resource)
  alone : ∀ (i j : ℕ) (session other : TransferSession), t.sessions[i]? = some session →
    t.sessions[j]? = some other → PushesTo session own.resource →
      PushesTo other own.resource → i = j
  filling : ∀ (i : ℕ) (session : TransferSession), t.sessions[i]? = some session →
    PushesTo session own.resource → (t.manager.blocks own.resource).isClosed = false ∧
      (t.manager.blocks own.resource).data = w.taken.getD i [] ∧ w.pushed = []
  resting : NoPush own.resource t → (t.manager.blocks own.resource).data = w.pushed ∧
    ((t.manager.blocks own.resource).isClosed = false → w.pushed = [])
  awaiting : ∀ id size, w.awaited = some (id, size) → id = own.id ∧ 0 < size ∧
    (t.manager.blocks own.resource).isClosed = false ∧ NoPush own.resource t

def KeptBlock (w : UpdateWatch) (t : TransferState) : Option SharedServerBlock → Prop
  | none => w.pushed = [] ∧ w.awaited = none
  | some own => Kept own w t

structure Watching (block : Option SharedServerBlock) (w : UpdateWatch) (t : TransferState) :
    Prop where
  registers : Registers t.manager
  pushed_lt : ∀ session ∈ t.sessions, ∀ b, PushesTo session b → b < t.manager.nextBlock
  length : w.taken.length = t.sessions.length
  kept : KeptBlock w t block

section Transfers

variable {block : Option SharedServerBlock} {own : SharedServerBlock} {w : UpdateWatch}
  {m m' : TransferManager} {t : TransferState} {index : ℕ} {session : TransferSession}

variable {b : BlockRef}

theorem takesPush_of_open {id : BlockId} {size : ℕ} (hid : m.getServerBlock id = some b)
    (hopen : (m.blocks b).isClosed = false) (hsize : 0 < size) : TakesPush m id size b := by
  intro session sends hidle
  unfold TransferCtx.processPushRequest
  simp only [hid]
  rw [if_pos ⟨hopen, hidle⟩, if_pos hsize]
  obtain ⟨-, hpBlock, hstate⟩ := calm_startPushTransferSession
    ((((TransferCtx.mk session m [] sends [] []).takeBlock b size 0).setState
      .startPushTransfer).createPayload (transferStatus .success)) rfl
  refine ⟨⟨hpBlock, hstate⟩, ?_⟩
  unfold TransferCtx.startPushTransferSession
  simp only
  split
  · show (TransferCtx.sendPayload _).2.session.totalBytes = size
    rw [sendPayload_session]
    rfl
  · rw [sendPayload_session]
    rfl

theorem Watching.usable (h : Watching block w t) {id : BlockId} {size : ℕ}
    (hawaited : w.awaited = some (id, size)) : Usable t.manager id size := by
  cases block with
  | none => exact absurd (h.kept.2.symm.trans hawaited) (by simp)
  | some own =>
    have hkept : Kept own w t := h.kept
    obtain ⟨rfl, hsize, hopen, hnone⟩ := hkept.awaiting id size hawaited
    obtain ⟨hdata, hempty⟩ := hkept.resting hnone
    refine ⟨own.resource, hkept.registered, hopen, hdata.trans (hempty hopen), ?_⟩
    exact takesPush_of_open hkept.registered hopen hsize

theorem Watching.frame {sessions : List TransferSession} (h : Watching block w ⟨m, sessions⟩)
    (hregisters : Registers m') (hnext : m.nextBlock ≤ m'.nextBlock)
    (hown : ∀ own ∈ block, own.resource < m.nextBlock →
      m.registeredServerBlocks own.id = some own.resource →
        m'.registeredServerBlocks own.id = some own.resource ∧
          m'.blocks own.resource = m.blocks own.resource) :
    Watching block w ⟨m', sessions⟩ := by
  refine ⟨hregisters, ?_, h.length, ?_⟩
  · intro session hmem b hpush
    exact lt_of_lt_of_le (h.pushed_lt session hmem b hpush) hnext
  · cases block with
    | none => exact h.kept
    | some own =>
      have hkept : Kept own w ⟨m, sessions⟩ := h.kept
      have hlt : own.resource < m.nextBlock := h.registers _ _ hkept.registered
      obtain ⟨hregistered, hsame⟩ := hown own rfl hlt hkept.registered
      refine ⟨hregistered, ?_, hkept.alone, ?_, ?_, ?_⟩
      · rw [hsame]
        exact hkept.sized
      · rw [hsame]
        exact hkept.filling
      · rw [hsame]
        exact hkept.resting
      · rw [hsame]
        exact hkept.awaiting

theorem Watching.openServerBlock {sessions : List TransferSession}
    (h : Watching block w ⟨m, sessions⟩) (newBlockId : BlockId) :
    Watching block w ⟨m.openServerBlock newBlockId, sessions⟩ := by
  apply h.frame
  · exact registers_openServerBlock h.registers newBlockId
  · exact Nat.le_succ _
  · intro own _ hlt hregistered
    refine ⟨?_, Function.update_of_ne hlt.ne _ _⟩
    show (if (m.registeredServerBlocks newBlockId).isSome then m.registeredServerBlocks
      else Function.update m.registeredServerBlocks newBlockId (some m.nextBlock)) own.id =
        some own.resource
    split
    · exact hregistered
    · rename_i hfree
      have hne : own.id ≠ newBlockId := by
        intro heq
        rw [← heq, hregistered] at hfree
        exact hfree rfl
      rw [Function.update_of_ne hne]
      exact hregistered

theorem Watching.elsewhere {a : TransferAction} {events : List BlockEvent} {t' : TransferState}
    (h : Watching block w t) (ha : EventTransfers.Elsewhere block a)
    (hother : match a with
      | .openServerBlock _ | .closeServerBlock _ | .ownerOperation _ _ => True
      | _ => False)
    (hstep : t.step a = some (t', events)) : Watching block w t' := by
  cases a with
  | openServerBlock newBlockId =>
    cases hstep
    exact h.openServerBlock newBlockId
  | closeServerBlock serverBlockId =>
    cases hstep
    apply h.frame
    · intro blockId pBlock hblock
      simp only [TransferManager.closeServerBlock, Function.update_apply] at hblock
      split at hblock
      · cases hblock
      · exact h.registers _ _ hblock
    · exact Nat.le_refl _
    · intro own hown _ hregistered
      refine ⟨?_, rfl⟩
      show Function.update t.manager.registeredServerBlocks serverBlockId none own.id = _
      rw [Function.update_of_ne (ha own hown)]
      exact hregistered
  | ownerOperation pBlock operation =>
    obtain ⟨-, ⟨⟩⟩ := Option.ite_none_right_eq_some.mp hstep
    apply h.frame
    · exact h.registers
    · exact Nat.le_refl _
    · intro own hown _ hregistered
      exact ⟨hregistered, Function.update_of_ne (ha own hown) _ _⟩
  | sessionEstablished version => exact absurd hother id
  | updateSession index receives sends => exact absurd hother id
  | sessionTerminated index => exact absurd hother id

/-! ### Transfer sessions -/

theorem aside_new (version : Version) : Aside (.new version) := ⟨nofun, nofun⟩

theorem noPush_append {version : Version} :
    NoPush b { t with sessions := t.sessions ++ [.new version] } ↔ NoPush b t := by
  refine ⟨fun hnone session hmem => hnone session (List.mem_append_left _ hmem), ?_⟩
  intro hnone session hmem
  rcases List.mem_append.mp hmem with hmem | hmem
  · exact hnone session hmem
  · obtain rfl := List.mem_singleton.mp hmem
    exact (aside_new version).not_pushesTo b

theorem Watching.sessionEstablished (h : Watching block w t) (version : Version) :
    Watching block { w with taken := w.taken ++ [[]] }
      { t with sessions := t.sessions ++ [.new version] } := by
  have hold : ∀ {i : ℕ} {other : TransferSession} {b : BlockRef},
      (t.sessions ++ [.new version])[i]? = some other → PushesTo other b →
        t.sessions[i]? = some other ∧ i < t.sessions.length := by
    intro i other b hi hpush
    rcases lt_or_ge i t.sessions.length with hlt | hge
    · rw [List.getElem?_append_left hlt] at hi
      exact ⟨hi, hlt⟩
    · rw [List.getElem?_append_right hge] at hi
      obtain rfl := List.mem_singleton.mp (List.mem_of_getElem? hi)
      exact absurd hpush ((aside_new version).not_pushesTo b)
  refine ⟨h.registers, ?_, ?_, ?_⟩
  · intro session hmem b hpush
    rcases List.mem_append.mp hmem with hmem | hmem
    · exact h.pushed_lt session hmem b hpush
    · obtain rfl := List.mem_singleton.mp hmem
      exact absurd hpush ((aside_new version).not_pushesTo b)
  · simp [h.length]
  · cases block with
    | none => exact h.kept
    | some own =>
      have hkept : Kept own w t := h.kept
      refine ⟨hkept.registered, hkept.sized, ?_, ?_, ?_, ?_⟩
      · intro i j session other hi hj hpush hpush'
        exact hkept.alone i j session other (hold hi hpush).1 (hold hj hpush').1 hpush hpush'
      · intro i session hi hpush
        obtain ⟨hi', hlt⟩ := hold hi hpush
        have hfilling := hkept.filling i session hi' hpush
        show _ ∧ _ = (w.taken ++ [[]]).getD i [] ∧ _
        rw [List.getD_append _ _ _ _ (by rw [h.length]; exact hlt)]
        exact hfilling
      · intro hnone
        exact hkept.resting (noPush_append.mp hnone)
      · intro id size hawaited
        obtain ⟨hid, hsize, hopen, hnone⟩ := hkept.awaiting id size hawaited
        exact ⟨hid, hsize, hopen, noPush_append.mpr hnone⟩

variable {α : Type}

theorem getD_eraseIdx (l : List α) (index i : ℕ) (d : α) :
    (l.eraseIdx index).getD i d = l.getD (if i < index then i else i + 1) d := by
  rw [List.getD_eq_getElem?_getD, List.getD_eq_getElem?_getD, List.getElem?_eraseIdx]
  split <;> rfl

theorem Watching.sessionTerminated (h : Watching block w t)
    (hsession : t.sessions[index]? = some session)
    (ha : ∀ own ∈ block, ¬ PushesTo session own.resource) :
    Watching block { w with taken := w.taken.eraseIdx index }
      ⟨(t.context session [] []).destroy.manager, t.sessions.eraseIdx index⟩ := by
  have hleaves := fun b => leaves_destroy b (t.context session [] [])
  have htable := (hleaves 0).table
  obtain ⟨hlt, -⟩ := List.getElem?_eq_some_iff.mp hsession
  refine ⟨?_, ?_, ?_, ?_⟩
  · intro blockId pBlock hblock
    rw [htable.registered] at hblock
    rw [htable.nextBlock]
    exact h.registers _ _ hblock
  · intro other hmem b hpush
    show b < (t.context session [] []).destroy.manager.nextBlock
    rw [htable.nextBlock]
    exact h.pushed_lt other (List.mem_of_mem_eraseIdx hmem) b hpush
  · show (w.taken.eraseIdx index).length = (t.sessions.eraseIdx index).length
    rw [List.length_eraseIdx, List.length_eraseIdx, h.length]
  · cases block with
    | none => exact h.kept
    | some own =>
      have hkept : Kept own w t := h.kept
      have hcontent := (hleaves own.resource).content
      have hnot : ¬ PushesTo session own.resource := ha own rfl
      -- only the session that goes could make a difference, and it does not push
      have hnoPush : NoPush own.resource
          ⟨(t.context session [] []).destroy.manager, t.sessions.eraseIdx index⟩ ↔
            NoPush own.resource t := by
        refine ⟨fun hnone other hmem hpush => ?_, fun hnone other hmem =>
          hnone other (List.mem_of_mem_eraseIdx hmem)⟩
        have hcases := (List.mem_iff_getElem?.mp hmem)
        obtain ⟨i, hi⟩ := hcases
        by_cases heq : i = index
        · subst heq
          obtain rfl := Option.some.inj (hsession.symm.trans hi)
          exact hnot hpush
        · exact hnone other (List.mem_eraseIdx_iff_getElem?.mpr ⟨i, heq, hi⟩) hpush
      have hold : ∀ {i : ℕ} {other : TransferSession},
          (t.sessions.eraseIdx index)[i]? = some other →
            t.sessions[if i < index then i else i + 1]? = some other := by
        intro i other hi
        rw [List.getElem?_eraseIdx] at hi
        split at hi
        · rename_i hlt'
          rw [if_pos hlt']
          exact hi
        · rename_i hge
          rw [if_neg hge]
          exact hi
      refine ⟨htable.registered ▸ hkept.registered, hcontent.sized hkept.sized, ?_, ?_, ?_, ?_⟩
      · intro i j one other hi hj hpush hpush'
        have hsame := hkept.alone _ _ one other (hold hi) (hold hj) hpush hpush'
        split at hsame <;> split at hsame <;> omega
      · intro i other hi hpush
        obtain ⟨hopen, hdata, hpushed⟩ := hkept.filling _ other (hold hi) hpush
        refine ⟨hcontent.isClosed.trans hopen, ?_, hpushed⟩
        show _ = (w.taken.eraseIdx index).getD i []
        rw [getD_eraseIdx]
        exact hcontent.data.trans hdata
      · intro hnone
        obtain ⟨hdata, hempty⟩ := hkept.resting (hnoPush.mp hnone)
        refine ⟨hcontent.data.trans hdata, fun hopen => hempty ?_⟩
        exact hcontent.isClosed.symm.trans hopen
      · intro id size hawaited
        obtain ⟨hid, hsize, hopen, hnone⟩ := hkept.awaiting id size hawaited
        exact ⟨hid, hsize, hcontent.isClosed.trans hopen, hnoPush.mpr hnone⟩

variable {l : List α}

theorem getElem?_set_cases {index i : ℕ} {a x : α} (h : (l.set index a)[i]? = some x) :
    (i = index ∧ x = a) ∨ (i ≠ index ∧ l[i]? = some x) := by
  rw [List.getElem?_set] at h
  split at h
  · rename_i heq
    split at h
    · exact .inl ⟨heq.symm, (Option.some.inj h).symm⟩
    · cases h
  · rename_i hne
    exact .inr ⟨fun heq => hne heq.symm, h⟩

theorem noPush_set {session' : TransferSession} (hlt : index < t.sessions.length) :
    NoPush b ⟨m', t.sessions.set index session'⟩ ↔ ¬ PushesTo session' b ∧
      ∀ (i : ℕ) (other : TransferSession), i ≠ index → t.sessions[i]? = some other →
        ¬ PushesTo other b := by
  constructor
  · intro hnone
    refine ⟨hnone session' (List.mem_set hlt _), fun i other hne hi => hnone other ?_⟩
    apply List.mem_of_getElem? (i := i)
    rw [List.getElem?_set_ne hne.symm]
    exact hi
  · rintro ⟨hnot, hothers⟩ other hmem
    obtain ⟨i, hi⟩ := List.mem_iff_getElem?.mp hmem
    rcases getElem?_set_cases hi with ⟨-, rfl⟩ | ⟨hne, hi'⟩
    · exact hnot
    · exact hothers i other hne hi'

theorem noPush_iff (hsession : t.sessions[index]? = some session) :
    NoPush b t ↔ ¬ PushesTo session b ∧
      ∀ (i : ℕ) (other : TransferSession), i ≠ index → t.sessions[i]? = some other →
        ¬ PushesTo other b := by
  constructor
  · intro hnone
    exact ⟨hnone session (List.mem_of_getElem? hsession),
      fun i other _ hi => hnone other (List.mem_of_getElem? hi)⟩
  · rintro ⟨hnot, hothers⟩ other hmem
    obtain ⟨i, hi⟩ := List.mem_iff_getElem?.mp hmem
    by_cases heq : i = index
    · subst heq
      obtain rfl := Option.some.inj (hsession.symm.trans hi)
      exact hnot
    · exact hothers i other heq hi

theorem getD_set_self (hlt : index < l.length) (a d : α) : (l.set index a).getD index d = a := by
  simp [hlt]

theorem getD_set_ne {i : ℕ} (hne : i ≠ index) (a d : α) :
    (l.set index a).getD i d = l.getD i d := by
  rw [List.getD_eq_getElem?_getD, List.getD_eq_getElem?_getD, List.getElem?_set_ne hne.symm]

theorem Kept.bystander (h : Kept own w t) (hlength : w.taken.length = t.sessions.length)
    (hsession : t.sessions[index]? = some session) {receives : List ReceiveAnswer}
    {sends : List Result} {c : TransferCtx}
    (ha : AcceptsPush own.resource (t.context session receives sends) → NoPush own.resource t)
    (hnot : ¬ PushesTo session own.resource)
    (hby : Bystands own.resource (w.view index) (t.context session receives sends) c) :
    Kept own
      ⟨w.taken.set index ((w.view index).after own.resource c.events).taken,
        ((w.view index).after own.resource c.events).pushed,
        ((w.view index).after own.resource c.events).awaited⟩
      ⟨c.manager, t.sessions.set index c.session⟩ := by
  have hlt : index < t.sessions.length := (List.getElem?_eq_some_iff.mp hsession).1
  have hcontent := hby.leaves.content
  have hpushed : ((w.view index).after own.resource c.events).pushed = w.pushed :=
    (hby.leaves.forgets (w.view index)).pushed
  have hawaited : ((w.view index).after own.resource c.events).awaited = none ∨
      ((w.view index).after own.resource c.events).awaited = w.awaited :=
    (hby.leaves.forgets (w.view index)).awaited
  -- a push that was accepted in this step is the only one
  have halone : PushesTo c.session own.resource →
      ∀ (i : ℕ) (other : TransferSession), t.sessions[i]? = some other →
        ¬ PushesTo other own.resource := by
    intro hpush i other hi
    exact ha (hby.accepted hpush).1 other (List.mem_of_getElem? hi)
  refine ⟨?_, hcontent.sized h.sized, ?_, ?_, ?_, ?_⟩
  · rw [hby.leaves.table.registered]
    exact h.registered
  · intro i j one other hi hj hpush hpush'
    rcases getElem?_set_cases hi with ⟨hi', rfl⟩ | ⟨-, hi'⟩
    · rcases getElem?_set_cases hj with ⟨hj', -⟩ | ⟨-, hj'⟩
      · exact hi'.trans hj'.symm
      · exact absurd hpush' (halone hpush j other hj')
    · rcases getElem?_set_cases hj with ⟨-, rfl⟩ | ⟨-, hj'⟩
      · exact absurd hpush (halone hpush' i one hi')
      · exact h.alone i j one other hi' hj' hpush hpush'
  · intro i other hi hpush
    rcases getElem?_set_cases hi with ⟨rfl, rfl⟩ | ⟨hne, hi'⟩
    · obtain ⟨haccepts, htaken, -⟩ := hby.accepted hpush
      have hopen : (t.manager.blocks own.resource).isClosed = false :=
        haccepts.2.2.2.2.2.2
      obtain ⟨hdata, hempty⟩ := h.resting (ha haccepts)
      refine ⟨hcontent.isClosed.trans hopen, ?_, hpushed.trans (hempty hopen)⟩
      rw [getD_set_self (by rw [hlength]; exact hlt), htaken]
      exact hcontent.data.trans (hdata.trans (hempty hopen))
    · obtain ⟨hopen, hdata, hnone⟩ := h.filling i other hi' hpush
      refine ⟨hcontent.isClosed.trans hopen, ?_, hpushed.trans hnone⟩
      rw [getD_set_ne hne]
      exact hcontent.data.trans hdata
  · intro hnone
    have hbefore : NoPush own.resource t :=
      (noPush_iff hsession).mpr ⟨hnot, ((noPush_set hlt).mp hnone).2⟩
    obtain ⟨hdata, hempty⟩ := h.resting hbefore
    refine ⟨hcontent.data.trans (hdata.trans hpushed.symm), fun hopen => ?_⟩
    exact hpushed.trans (hempty (hcontent.isClosed.symm.trans hopen))
  · intro id size hsome
    have hsome' : w.awaited = some (id, size) := by
      rcases hawaited with hnone | hsame
      · exact absurd (hnone.symm.trans hsome) (by simp)
      · exact hsame.symm.trans hsome
    obtain ⟨hid, hsize, hopen, hnone⟩ := h.awaiting id size hsome'
    refine ⟨hid, hsize, hcontent.isClosed.trans hopen, (noPush_set hlt).mpr ⟨fun hpush => ?_, ?_⟩⟩
    · exact absurd ((hby.accepted hpush).2.2.symm.trans hsome) (by simp)
    · exact ((noPush_iff hsession).mp hnone).2

theorem Kept.pusher (h : Kept own w t) (hlength : w.taken.length = t.sessions.length)
    (hsession : t.sessions[index]? = some session) (hpush : PushesTo session own.resource)
    {c c' : TransferCtx} (hc : c.manager = t.manager) (hc' : c.session = session)
    (hevents : c.events = []) (htable : SameTable c.manager c'.manager)
    (hstep : Fills own.resource (w.view index) c →
      Fills own.resource (w.view index) c' ∨ Over own.resource (w.view index) c') :
    Kept own
      ⟨w.taken.set index ((w.view index).after own.resource c'.events).taken,
        ((w.view index).after own.resource c'.events).pushed,
        ((w.view index).after own.resource c'.events).awaited⟩
      ⟨c'.manager, t.sessions.set index c'.session⟩ := by
  have hlt : index < t.sessions.length := (List.getElem?_eq_some_iff.mp hsession).1
  obtain ⟨hopen, hdata, hpushed⟩ := h.filling index session hsession hpush
  have hfills : Fills own.resource (w.view index) c := by
    refine ⟨?_, ?_, ?_, ?_, ?_⟩
    · rw [hc']
      exact hpush
    · rw [hc]
      exact hopen
    · rw [hc]
      exact h.sized
    · rw [hc, hevents]
      exact hdata
    · rw [hevents]
      exact hpushed
  have hothers : ∀ (i : ℕ) (other : TransferSession), i ≠ index →
      t.sessions[i]? = some other → ¬ PushesTo other own.resource := by
    intro i other hne hi hpush'
    exact hne (h.alone i index other session hi hsession hpush' hpush)
  -- nothing is awaited while a push is under way
  have hawaited : ((w.view index).after own.resource c'.events).awaited = none := by
    have hbefore : w.awaited = none := by
      cases hsome : w.awaited with
      | none => rfl
      | some allocation =>
        obtain ⟨id, size⟩ := allocation
        exact absurd hpush
          ((h.awaiting id size hsome).2.2.2 session (List.mem_of_getElem? hsession))
    rcases awaited_after (b := own.resource) (w.view index) c'.events with hnone | hsame
    · exact hnone
    · exact hsame.trans hbefore
  have hregistered : c'.manager.registeredServerBlocks own.id = some own.resource := by
    rw [htable.registered, hc]
    exact h.registered
  have hone : ∀ {i : ℕ} {other : TransferSession},
      (t.sessions.set index c'.session)[i]? = some other → PushesTo other own.resource →
        i = index ∧ other = c'.session := by
    intro i other hi hpush'
    rcases getElem?_set_cases hi with hhere | ⟨hne, hi'⟩
    · exact hhere
    · exact absurd hpush' (hothers i other hne hi')
  rcases hstep hfills with hfills' | hover
  · refine ⟨hregistered, hfills'.sized, ?_, ?_, ?_, ?_⟩
    · intro i j one other hi hj hpush' hpush''
      exact (hone hi hpush').1.trans (hone hj hpush'').1.symm
    · intro i other hi hpush'
      obtain ⟨rfl, -⟩ := hone hi hpush'
      refine ⟨hfills'.isOpen, ?_, hfills'.pushed⟩
      rw [getD_set_self (by rw [hlength]; exact hlt)]
      exact hfills'.data
    · intro hnone
      exact absurd hfills'.pushes ((noPush_set hlt).mp hnone).1
    · intro id size hsome
      exact absurd (hawaited.symm.trans hsome) (by simp)
  · refine ⟨hregistered, hover.sized, ?_, ?_, ?_, ?_⟩
    · intro i j one other hi hj hpush' hpush''
      exact (hone hi hpush').1.trans (hone hj hpush'').1.symm
    · intro i other hi hpush'
      obtain ⟨-, rfl⟩ := hone hi hpush'
      exact absurd hpush' (hover.aside.not_pushesTo own.resource)
    · intro _
      exact ⟨hover.data, hover.empty⟩
    · intro id size hsome
      exact absurd (hawaited.symm.trans hsome) (by simp)

theorem Watching.updateSession (h : Watching block w t)
    (hsession : t.sessions[index]? = some session) {receives : List ReceiveAnswer}
    {sends : List Result}
    (ha : ∀ own ∈ block, AcceptsPush own.resource (t.context session receives sends) →
      NoPush own.resource t) :
    Watching block
      (w.moved block (t.context session receives sends).updateSession.events
        (.updateSession index receives sends))
      ⟨(t.context session receives sends).updateSession.manager,
        t.sessions.set index (t.context session receives sends).updateSession.session⟩ := by
  have htable := sameTable_updateSession (t.context session receives sends)
  refine ⟨?_, ?_, ?_, ?_⟩
  · intro blockId pBlock hblock
    rw [htable.registered] at hblock
    rw [htable.nextBlock]
    exact h.registers _ _ hblock
  · intro other hmem b hpush
    show b < (t.context session receives sends).updateSession.manager.nextBlock
    rw [htable.nextBlock]
    rcases List.mem_or_eq_of_mem_set hmem with hmem | rfl
    · exact h.pushed_lt other hmem b hpush
    · rcases origin_updateSession hpush with haccepts | hbefore
      · exact h.registers _ _ haccepts.2.2.2.2.2.1
      · exact h.pushed_lt session (List.mem_of_getElem? hsession) b hbefore
  · cases block with
    | none => simp [UpdateWatch.moved, h.length]
    | some own => simp [UpdateWatch.moved, h.length]
  · cases block with
    | none => exact h.kept
    | some own =>
      have hkept : Kept own w t := h.kept
      by_cases hpush : PushesTo session own.resource
      · exact hkept.pusher h.length hsession hpush rfl rfl rfl htable Fills.updateSession
      · exact hkept.bystander h.length hsession (ha own rfl) hpush
          (bystands_updateSession hpush (w.view index))

end Transfers

/-! ### The event session -/

section EventSession

variable {r : EventSessionRef} {s : EventTransfers} {session : EventServerSession}
  {w : UpdateWatch} {c : EventCtx} {data : List UInt8}

theorem sessions_respond : (c.respond r session data).server.sessions r =
    some { session with
      payloadContainer := session.payloadContainer.fill data
      state := .sendPayload } := by
  simp [respond, setSession, EventServer.setSession]

theorem reply_respond (hlength : data.length ≤ kMaxPayloadSizeInBytes) :
    reply r (c.respond r session data).server = some data := by
  unfold reply
  rw [sessions_respond]
  simp only [Option.bind_some, if_true]
  exact congrArg some (readBytes_writeBytes hlength _)

theorem allocatedBlock_success (id : BlockId) :
    allocatedBlock (allocateProviderUpdatesResponse .success id) = some id := by
  have hslice : slice (allocateProviderUpdatesResponse .success id) 8 4 =
      leBytes 4 id.toNat := by rfl
  have htake : (allocateProviderUpdatesResponse .success id).take 8 =
      eventHeader .allocateProviderUpdatesResponse ++ leBytes 4 Result.success.toCode := by rfl
  unfold allocatedBlock
  rw [if_pos htake, hslice, leNat_leBytes_of_lt id.toNat_lt]
  simp

theorem allocatedBlock_error (id : BlockId) :
    allocatedBlock (allocateProviderUpdatesResponse .error id) = none := by
  unfold allocatedBlock
  rw [if_neg]
  show ¬ (eventHeader .allocateProviderUpdatesResponse ++ leBytes 4 Result.error.toCode =
    eventHeader .allocateProviderUpdatesResponse ++ leBytes 4 Result.success.toCode)
  decide

theorem updateBlock_assign (hsession : s.server.sessions r = some session)
    (providerId : EventProviderId) : ∃ session',
      (s.server.assignSessionToProvider r providerId).2.sessions r = some session' ∧
        session'.pUpdateBlock = session.pUpdateBlock := by
  unfold EventServer.assignSessionToProvider
  rw [hsession]
  split
  · rename_i heq
    cases heq
    split
    · exact ⟨_, Function.update_self .., rfl⟩
    · exact ⟨session, hsession, rfl⟩
  · exact ⟨session, hsession, rfl⟩

structure EventStep (r : EventSessionRef) (w : UpdateWatch) (sessions : List TransferSession)
    (block : Option SharedServerBlock) (c : EventCtx) : Prop where
  session : ∃ session, c.server.sessions r = some session ∧ session.pUpdateBlock = block
  watching : Watching block w ⟨c.blocks.manager, sessions⟩

variable {sessions : List TransferSession}

theorem EventStep.respond (h : Watching session.pUpdateBlock w ⟨c.blocks.manager, sessions⟩) :
    EventStep r w sessions session.pUpdateBlock (c.respond r session data) :=
  ⟨⟨_, sessions_respond, rfl⟩, h⟩

theorem EventStep.queryProviders
    (h : Watching session.pUpdateBlock w ⟨c.blocks.manager, sessions⟩) :
    EventStep r w sessions session.pUpdateBlock (c.handleQueryProvidersRequest r session) := by
  unfold handleQueryProvidersRequest
  simp only
  apply EventStep.respond
  unfold buildQueryProvidersResponse BlockCtx.openServerBlock
  rcases c.blocks.draws with _ | ⟨_ | newBlockId, draws⟩
  · exact h
  · exact h
  · have hopened := h.openServerBlock newBlockId
    apply hopened.frame
    · exact hopened.registers
    · exact Nat.le_refl _
    · intro own hown _ hregistered
      refine ⟨hregistered, ?_⟩
      have hlt : own.resource < c.blocks.manager.nextBlock := by
        have hkept := h.kept
        rw [Option.mem_def.mp hown] at hkept
        exact h.registers _ _ (Kept.registered hkept)
      show Function.update (Function.update _ c.blocks.manager.nextBlock _)
        c.blocks.manager.nextBlock _ own.resource = _
      rw [Function.update_of_ne hlt.ne, Function.update_of_ne hlt.ne]

theorem length_allocateResponse (result : Result) (id : BlockId) :
    (allocateProviderUpdatesResponse result id).length ≤ kMaxPayloadSizeInBytes := by
  have hlength : (allocateProviderUpdatesResponse result id).length = 12 := by
    simp [allocateProviderUpdatesResponse, eventHeader, length_leBytes]
  rw [hlength]
  decide

theorem processed_allocate {request : SizedPayloadContainer} {reply : List UInt8}
    (hcommand : request.eventCommand = .allocateProviderUpdatesRequest) :
    w.processed request (some reply).toList =
      match allocatedBlock reply with
      | none => w
      | some id => ⟨w.taken, [], some (id, SizedPayloadContainer.requestedSize request)⟩ := by
  unfold UpdateWatch.processed
  rw [hcommand]
  rfl

theorem Watching.allocated {own : SharedServerBlock} {t : TransferState} {size : ℕ}
    (h : Watching (some own) w t) (hsize : 0 < size)
    (hopen : (t.manager.blocks own.resource).isClosed = false) (hnone : NoPush own.resource t) :
    Watching (some own) ⟨w.taken, [], some (own.id, size)⟩ t := by
  have hkept : Kept own w t := h.kept
  obtain ⟨hdata, hempty⟩ := hkept.resting hnone
  refine ⟨h.registers, h.pushed_lt, h.length, hkept.registered, hkept.sized, hkept.alone, ?_,
    fun _ => ⟨hdata.trans (hempty hopen), fun _ => rfl⟩, ?_⟩
  · intro i other hi hpush
    exact absurd hpush (hnone other (List.mem_of_getElem? hi))
  · intro id size' hsome
    cases hsome
    exact ⟨rfl, hsize, hopen, hnone⟩

theorem Watching.allocatedNew {m : TransferManager} {size : ℕ} (h : Watching none w ⟨m, sessions⟩)
    (hsize : 0 < size) {newBlockId : BlockId} (hfree : m.registeredServerBlocks newBlockId = none) :
    Watching (some ⟨newBlockId, m.nextBlock⟩) ⟨w.taken, [], some (newBlockId, size)⟩
      ⟨m.openServerBlock newBlockId, sessions⟩ := by
  have hopened := h.openServerBlock newBlockId
  -- no session can push to it yet
  have hnone : NoPush m.nextBlock ⟨m.openServerBlock newBlockId, sessions⟩ := by
    intro other hmem hpush
    exact absurd (h.pushed_lt other hmem _ hpush) (lt_irrefl _)
  have hnew : (m.openServerBlock newBlockId).blocks m.nextBlock = .new :=
    Function.update_self ..
  refine ⟨hopened.registers, hopened.pushed_lt, hopened.length, ?_, ?_, ?_, ?_, ?_, ?_⟩
  · show (if (m.registeredServerBlocks newBlockId).isSome then m.registeredServerBlocks
      else _) newBlockId = _
    rw [hfree]
    exact Function.update_self ..
  · rw [hnew]
    exact Nat.zero_le _
  · intro i j one other hi _ hpush _
    exact absurd hpush (hnone one (List.mem_of_getElem? hi))
  · intro i other hi hpush
    exact absurd hpush (hnone other (List.mem_of_getElem? hi))
  · intro _
    rw [hnew]
    exact ⟨rfl, fun _ => rfl⟩
  · intro id size' hsome
    cases hsome
    refine ⟨rfl, hsize, ?_, hnone⟩
    rw [hnew]
    rfl

theorem EventStep.allocateProviderUpdates
    (h : Watching session.pUpdateBlock w ⟨c.blocks.manager, sessions⟩)
    (hcommand : session.payloadContainer.eventCommand = .allocateProviderUpdatesRequest)
    (ha : AllocatesInOrder c.blocks.draws session.payloadContainer ⟨c.blocks.manager, sessions⟩
      session.pUpdateBlock) :
    ∃ block, EventStep r
      (w.processed session.payloadContainer (reply r
        (c.handleAllocateProviderUpdatesRequest r session).server).toList)
      sessions block (c.handleAllocateProviderUpdatesRequest r session) := by
  unfold handleAllocateProviderUpdatesRequest
  cases hblock : session.pUpdateBlock with
  | some own =>
    rw [hblock] at h ha
    obtain ⟨hsize, hopen, hnone⟩ := ha
    refine ⟨some own, ⟨_, sessions_respond, hblock⟩, ?_⟩
    rw [reply_respond (length_allocateResponse _ _), processed_allocate hcommand,
      allocatedBlock_success]
    exact h.allocated hsize hopen hnone
  | none =>
    rw [hblock] at h ha
    obtain ⟨hsize, hfresh⟩ := ha
    have hfailed : ∀ blocks : BlockCtx, blocks.manager = c.blocks.manager →
        ∃ block, EventStep r
          (w.processed session.payloadContainer (reply r
            (({ c with blocks := blocks }).respond r session
              (allocateProviderUpdatesResponse .error kInvalidBlockId)).server).toList)
          sessions block (({ c with blocks := blocks }).respond r session
            (allocateProviderUpdatesResponse .error kInvalidBlockId)) := by
      intro blocks hblocks
      refine ⟨none, ⟨_, sessions_respond, hblock⟩, ?_⟩
      rw [reply_respond (length_allocateResponse _ _), processed_allocate hcommand,
        allocatedBlock_error]
      show Watching none w ⟨blocks.manager, sessions⟩
      rw [hblocks]
      exact h
    unfold BlockCtx.openServerBlock
    rcases hdraws : c.blocks.draws with _ | ⟨_ | newBlockId, draws⟩
    · exact hfailed _ rfl
    · exact hfailed _ rfl
    · refine ⟨some ⟨newBlockId, c.blocks.manager.nextBlock⟩, ⟨_, sessions_respond, rfl⟩, ?_⟩
      have hfree : c.blocks.manager.registeredServerBlocks newBlockId = none := by
        apply hfresh newBlockId
        rw [hdraws]
        rfl
      rw [reply_respond (length_allocateResponse _ _), processed_allocate hcommand,
        allocatedBlock_success]
      exact h.allocatedNew hsize hfree

theorem EventStep.applyProviderUpdates
    (h : Watching session.pUpdateBlock w ⟨c.blocks.manager, sessions⟩)
    (ha : ∀ own ∈ session.pUpdateBlock, NoPush own.resource ⟨c.blocks.manager, sessions⟩) :
    EventStep r { w with pushed := [], awaited := none } sessions session.pUpdateBlock
      (c.handleApplyProviderUpdatesRequest r session) := by
  unfold handleApplyProviderUpdatesRequest
  cases hblock : session.pUpdateBlock with
  | none =>
    rw [hblock] at h
    refine ⟨⟨_, sessions_respond, hblock⟩, ?_⟩
    exact ⟨h.registers, h.pushed_lt, h.length, rfl, rfl⟩
  | some own =>
    rw [hblock] at h ha
    have hkept : Kept own w ⟨c.blocks.manager, sessions⟩ := h.kept
    have hnone : NoPush own.resource ⟨c.blocks.manager, sessions⟩ := ha own rfl
    have hreset : (c.blocks.manager.onBlock own.resource .reset).blocks own.resource =
        (c.blocks.manager.blocks own.resource).reset := Function.update_self ..
    refine ⟨⟨_, sessions_respond, hblock⟩, ?_⟩
    refine ⟨h.registers, h.pushed_lt, h.length, hkept.registered, ?_, hkept.alone, ?_, ?_, nofun⟩
    · show ServerBlock.Sized ((c.blocks.manager.onBlock own.resource .reset).blocks own.resource)
      rw [hreset]
      exact Nat.zero_le _
    · intro i other hi hpush
      exact absurd hpush (hnone other (List.mem_of_getElem? hi))
    · intro _
      show ((c.blocks.manager.onBlock own.resource .reset).blocks own.resource).data = [] ∧ _
      rw [hreset]
      exact ⟨List.take_zero, fun _ => rfl⟩

theorem EventStep.processPayload {l : List TransferSession}
    (hsession : c.server.sessions r = some session)
    (h : Watching session.pUpdateBlock w ⟨c.blocks.manager, l⟩)
    (hallocate : session.payloadContainer.eventCommand = .allocateProviderUpdatesRequest →
      AllocatesInOrder c.blocks.draws session.payloadContainer ⟨c.blocks.manager, l⟩
        session.pUpdateBlock)
    (happly : session.payloadContainer.eventCommand = .applyProviderUpdatesRequest →
      ∀ own ∈ session.pUpdateBlock, NoPush own.resource ⟨c.blocks.manager, l⟩) :
    ∃ block, EventStep r
      (w.processed session.payloadContainer
        (reply r (c.processPayload r session).server).toList)
      l block (c.processPayload r session) := by
  unfold EventCtx.processPayload
  cases hcommand : session.payloadContainer.eventCommand with
  | allocateProviderUpdatesRequest =>
    exact EventStep.allocateProviderUpdates h hcommand (hallocate hcommand)
  | applyProviderUpdatesRequest =>
    refine ⟨session.pUpdateBlock, ?_⟩
    unfold UpdateWatch.processed
    rw [hcommand]
    exact EventStep.applyProviderUpdates h (happly hcommand)
  | queryProvidersRequest =>
    refine ⟨session.pUpdateBlock, ?_⟩
    unfold UpdateWatch.processed
    rw [hcommand]
    exact EventStep.queryProviders h
  | subscribeToProviderRequest =>
    unfold UpdateWatch.processed
    rw [hcommand]
    obtain ⟨session', hsession', hsame⟩ := updateBlock_assign (s := ⟨c.server, ⟨.new, []⟩⟩)
      hsession session.payloadContainer.subscribeProviderId
    refine ⟨session'.pUpdateBlock, ?_⟩
    rw [← hsame] at h
    simp only [handleSubscribeToProviderRequest, hsession']
    exact EventStep.respond h
  | unsubscribeFromProviderRequest =>
    refine ⟨session.pUpdateBlock, ?_⟩
    unfold UpdateWatch.processed
    rw [hcommand]
    exact ⟨⟨{ session with state := .receivePayload }, Function.update_self .., rfl⟩, h⟩
  | unknown | queryProvidersResponse | allocateProviderUpdatesResponse
  | applyProviderUpdatesResponse | eventDataUpdate | subscribeToProviderResponse =>
    refine ⟨session.pUpdateBlock, ?_⟩
    unfold UpdateWatch.processed
    rw [hcommand]
    exact ⟨⟨session, hsession, rfl⟩, h⟩

def updateReplies (r : EventSessionRef) (s : EventTransfers) (c : EventCtx) : List (List UInt8) :=
  if (s.request r).isSome then (reply r c.server).toList else []

theorem EventStep.updateEventSession (h : Watching (s.updateBlock r) w s.transfers)
    (hsession : s.server.sessions r = some session) {draws : List (Option BlockId)}
    {receives : List ReceiveAnswer} {sends : List Result}
    (ha : UpdatesInOrder r s (.updateEventSession draws receives sends)) :
    ∃ block, EventStep r
      (w.next r (s, .updateEventSession draws receives sends,
        ⟨updateReplies r s ((s.context draws receives sends).updateEventSession r), []⟩))
      s.transfers.sessions block ((s.context draws receives sends).updateEventSession r) := by
  have hblock : s.updateBlock r = session.pUpdateBlock := by
    simp [updateBlock, hsession]
  have hrequest : s.request r =
      if session.state = .processPayload then some session.payloadContainer else none := by
    simp [EventTransfers.request, hsession]
  have hcontext : (s.context draws receives sends).server.sessions r = some session := hsession
  rw [hblock] at h
  have hidle : session.state ≠ .processPayload → ∀ o : EventTransferOutput,
      w.next r (s, .updateEventSession draws receives sends, o) = w := by
    intro hstate o
    unfold UpdateWatch.next
    simp only [hrequest, if_neg hstate]
  unfold EventCtx.updateEventSession
  simp only [hcontext]
  cases hstate : session.state with
  | receivePayload =>
    refine ⟨session.pUpdateBlock, ?_⟩
    rw [hidle (by rw [hstate]; decide)]
    unfold EventCtx.receive
    rcases (s.context draws receives sends).receives with _ | ⟨payload | ⟨result, _⟩, receives⟩
    · exact ⟨⟨session, hsession, rfl⟩, h⟩
    · exact ⟨⟨_, Function.update_self .., rfl⟩, h⟩
    · exact ⟨⟨session, hsession, rfl⟩, h⟩
  | processPayload =>
    rw [if_pos hstate] at hrequest
    obtain ⟨hallocate, happly⟩ := ha _ hrequest
    rw [hblock] at hallocate happly
    obtain ⟨block, hstep⟩ := EventStep.processPayload (c := s.context draws receives sends)
      (w := w) (l := s.transfers.sessions) hcontext h hallocate happly
    refine ⟨block, ?_⟩
    unfold UpdateWatch.next updateReplies
    simp only [hrequest, Option.isSome_some, if_true]
    exact hstep
  | sendPayload =>
    refine ⟨session.pUpdateBlock, ?_⟩
    rw [hidle (by rw [hstate]; decide)]
    have hkeeps : ∀ payload, ((s.context draws receives sends).send payload).2.server = s.server ∧
        ((s.context draws receives sends).send payload).2.blocks.manager =
          s.transfers.manager := by
      intro payload
      unfold EventCtx.send
      split <;> exact ⟨rfl, rfl⟩
    obtain ⟨hserver, hmanager⟩ := hkeeps (readBytes session.payloadContainer.payloadSize
      session.payloadContainer.payload)
    simp only
    split
    · refine ⟨⟨_, Function.update_self .., rfl⟩, ?_⟩
      show Watching _ w ⟨(EventCtx.send _ _).2.blocks.manager, _⟩
      rw [hmanager]
      exact h
    · refine ⟨⟨session, ?_, rfl⟩, ?_⟩
      · rw [hserver]
        exact hsession
      · rw [hmanager]
        exact h

end EventSession

/-! ## Runs -/

variable {r : EventSessionRef} {s t : EventTransfers} {w : UpdateWatch}
  {a : EventTransferAction} {o : EventTransferOutput}

structure SessionServed (r : EventSessionRef) (w : UpdateWatch) (s : EventTransfers) : Prop where
  session : ∃ session, s.server.sessions r = some session
  watching : Watching (s.updateBlock r) w s.transfers

theorem served_step (h : SessionServed r w s) (ha : UpdatesInOrder r s a)
    (hstep : (eventTransferMachine r).step s a = some (t, o)) :
    SessionServed r (w.next r (s, a, o)) t := by
  obtain ⟨session, hsession⟩ := h.session
  cases a with
  | updateEventSession draws receives sends =>
    obtain ⟨block, ⟨session', hsession', rfl⟩, hwatching⟩ :=
      EventStep.updateEventSession h.watching hsession ha
    cases hstep
    refine ⟨⟨session', hsession'⟩, ?_⟩
    rw [updateBlock, hsession']
    exact hwatching
  | transfer a =>
    obtain ⟨helsewhere, hstep⟩ := Option.ite_none_right_eq_some.mp hstep
    obtain ⟨⟨transfers, events⟩, htransfer, heq⟩ := Option.map_eq_some_iff.mp hstep
    cases heq
    refine ⟨⟨session, hsession⟩, ?_⟩
    show Watching (s.updateBlock r) (w.moved (s.updateBlock r) events a) transfers
    cases a with
    | openServerBlock newBlockId => exact h.watching.elsewhere helsewhere trivial htransfer
    | closeServerBlock serverBlockId => exact h.watching.elsewhere helsewhere trivial htransfer
    | ownerOperation pBlock operation =>
      exact h.watching.elsewhere helsewhere trivial htransfer
    | sessionEstablished version =>
      cases htransfer
      exact h.watching.sessionEstablished version
    | updateSession index receives sends =>
      obtain ⟨other, hother, heq⟩ := Option.map_eq_some_iff.mp htransfer
      cases heq
      exact h.watching.updateSession hother fun own hown => ha own hown other hother
    | sessionTerminated index =>
      obtain ⟨other, hother, heq⟩ := Option.map_eq_some_iff.mp htransfer
      cases heq
      exact h.watching.sessionTerminated hother fun own hown => ha own hown other hother

theorem served_init (hs : (eventTransferMachine r).init s) : SessionServed r .start s := by
  obtain ⟨⟨id, hsession⟩, htransfers⟩ := hs
  refine ⟨⟨_, hsession⟩, ?_⟩
  rw [updateBlock, hsession, htransfers]
  exact ⟨nofun, nofun, rfl, rfl, rfl⟩

theorem appliesJust_of_served (h : SessionServed r w s)
    (hprocesses : ProcessesRequest r s .applyProviderUpdatesRequest a)
    (hblock : (s.updateBlock r).isSome) (ha : UpdatesInOrder r s a)
    (hstep : (eventTransferMachine r).step s a = some (t, o)) :
    AppliesJust w.pushed (s, a, o) t := by
  obtain ⟨session, hsession⟩ := h.session
  cases a with
  | transfer a => exact absurd hprocesses id
  | updateEventSession draws receives sends =>
    obtain ⟨request, hrequest, hcommand⟩ := hprocesses
    obtain ⟨own, hown⟩ := Option.isSome_iff_exists.mp hblock
    have hnone : NoPush own.resource s.transfers := (ha request hrequest).2 hcommand own hown
    have hwatching := h.watching
    rw [hown] at hwatching
    have hkept : Kept own w s.transfers := hwatching.kept
    have hdata := (hkept.resting hnone).1
    have hblock' : session.pUpdateBlock = some own := by
      simpa [updateBlock, hsession] using hown
    have hstate : session.state = .processPayload ∧ session.payloadContainer = request := by
      simpa [EventTransfers.request, hsession] using hrequest
    have hupdate : (s.context draws receives sends).updateEventSession r =
        ({ s.context draws receives sends with
            server := (s.server.applyProviderUpdates
              (s.transfers.manager.blocks own.resource).data).2
            blocks := (s.context draws receives sends).blocks.onBlock own .reset }).respond r
          session (applyProviderUpdatesResponse (s.server.applyProviderUpdates
            (s.transfers.manager.blocks own.resource).data).1) := by
      have hcontext : (s.context draws receives sends).server.sessions r = some session :=
        hsession
      unfold updateEventSession
      simp only [hcontext, hstate.1]
      unfold processPayload
      rw [hstate.2, hcommand]
      simp only [handleApplyProviderUpdatesRequest, hblock']
      rfl
    rw [← hdata]
    cases hstep
    refine ⟨?_, ?_⟩
    · show ((s.context draws receives sends).updateEventSession r).server.eventProviders = _
      rw [hupdate]
      rfl
    · show (if (s.request r).isSome then (reply r
        ((s.context draws receives sends).updateEventSession r).server).toList else []) = _
      rw [hupdate, Option.mem_def.mp hrequest, reply_respond]
      · rfl
      · have hlength : ∀ result, (applyProviderUpdatesResponse result).length = 8 := by
          intro result
          simp [applyProviderUpdatesResponse, eventHeader, length_leBytes]
        rw [hlength]
        decide

instance (b : BlockRef) (t : TransferState) : Decidable (NoPush b t) :=
  inferInstanceAs (Decidable (∀ session ∈ t.sessions, ¬ PushesTo session b))

instance (draws : List (Option BlockId)) (request : SizedPayloadContainer) (t : TransferState) :
    (block : Option SharedServerBlock) → Decidable (AllocatesInOrder draws request t block)
  | none => @instDecidableAnd _ _ inferInstance (Option.decidableForallMem draws.head?.join)
  | some _ => inferInstanceAs (Decidable (_ ∧ _ ∧ _))

instance (r : EventSessionRef) (s : EventTransfers) :
    (a : EventTransferAction) → Decidable (UpdatesInOrder r s a)
  | .updateEventSession _ _ _ =>
    inferInstanceAs (Decidable (∀ request ∈ s.request r, (_ → _) ∧ (_ → ∀ own ∈ _, _)))
  | .transfer (.updateSession index _ _) =>
    inferInstanceAs (Decidable (∀ own ∈ _, ∀ session ∈ s.transfers.sessions[index]?, _ → _))
  | .transfer (.sessionTerminated index) =>
    inferInstanceAs (Decidable (∀ own ∈ _, ∀ session ∈ s.transfers.sessions[index]?, ¬ _))
  | .transfer (.openServerBlock _) | .transfer (.closeServerBlock _)
  | .transfer (.ownerOperation _ _) | .transfer (.sessionEstablished _) => .isTrue trivial

def newEventSession : EventTransfers := ⟨EventServer.new.sessionEstablished 5, ⟨.new, []⟩⟩

theorem newEventSession_init : (eventTransferMachine 0).init newEventSession :=
  ⟨⟨5, rfl⟩, rfl⟩

def requested (payload : List UInt8) (h : payload.length ≤ kMaxPayloadSizeInBytes)
    (draws : List (Option BlockId)) : List EventTransferAction :=
  [.updateEventSession [] [arrived payload h] [], .updateEventSession draws [] [],
    .updateEventSession [] [] [.success]]

def allocateRequest : List UInt8 :=
  eventHeader .allocateProviderUpdatesRequest ++ leBytes 4 12

def allocateTwelve : List EventTransferAction := requested allocateRequest (by decide) [some 7]

def disableUpdate : List UInt8 := leBytes 4 1 ++ leBytes 4 0 ++ leBytes 4 0

def pushUpdate : List EventTransferAction :=
  [.transfer (.sessionEstablished 2),
    .transfer (.updateSession 0 [arrived (transferRequest 7 .push 12)] [.success]),
    .transfer (.updateSession 0 [arrived (transferDataChunk disableUpdate),
      arrived (transferDataSentinel .success (CRC32 disableUpdate 0))] [.success])]

def updateOnce : List EventTransferAction :=
  allocateTwelve ++ pushUpdate ++
    requested (eventHeader .applyProviderUpdatesRequest) (by decide) [] ++
    requested allocateRequest (by decide) []

def updateTwice : List EventTransferAction :=
  allocateTwelve ++ pushUpdate ++ requested allocateRequest (by decide) []

end DevDriver.Analysis
