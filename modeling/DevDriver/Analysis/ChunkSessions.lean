import DevDriver.Analysis.SessionOwners
import DevDriver.Model.ServedProviders

/-!
# Chunks need a session

A provider that is enabled writes its events into chunks of the session that it has acquired.
-/

namespace DevDriver.Analysis

open Library Model

/-- A provider that is enabled or has chunks has a session, and the program has not used a session
that is not there. -/
structure ChunksHaveSession (s : ServedProviders) : Prop where
  noFault : s.fault = false
  enabled : ∀ providerId provider, s.ctx.server.eventProviders.lookup providerId = some provider →
    provider.isEnabled = true → provider.pSession ≠ none
  chunks : ∀ providerId provider, s.ctx.server.eventProviders.lookup providerId = some provider →
    (s.streams providerId).eventChunks ≠ [] → provider.pSession ≠ none
  unregistered : ∀ providerId, s.ctx.server.eventProviders.lookup providerId = none →
    (s.unregistered providerId).isEnabled = false ∧ (s.streams providerId).eventChunks = []

/-- A step that neither enables a registered provider without a session by an update, nor
unregisters a provider that is enabled. -/
def keepsProviderSessions (s : ServedProviders) : ProviderAction → Bool
  | .providerUpdate update => !update.isEnabled ||
      (s.ctx.server.eventProviders.lookup update.providerId).all fun provider =>
        provider.pSession.isSome
  | .unregister providerId =>
    (s.ctx.server.eventProviders.lookup providerId).all fun provider => !provider.isEnabled
  | _ => true

def Backed (provider : EventProvider) (stream : BaseEventProvider) : Prop :=
  (provider.isEnabled = true → provider.pSession ≠ none) ∧
    (provider.isEnabled = false → stream.eventChunks = [])

/-- Every enabled provider has a session, and every other one no chunks. -/
structure AllBacked (s : ServedProviders) : Prop where
  noFault : s.fault = false
  registered : ∀ providerId provider,
    s.ctx.server.eventProviders.lookup providerId = some provider →
    Backed provider (s.streams providerId)
  unregistered : ∀ providerId, s.ctx.server.eventProviders.lookup providerId = none →
    (s.unregistered providerId).isEnabled = false ∧ (s.streams providerId).eventChunks = []

section Steps

variable {s s' : ServedProviders} {providerId : EventProviderId} {provider : EventProvider}
  {server : EventServer}

section

variable (h : AllBacked s)

include h

theorem AllBacked.chunksHaveSession : ChunksHaveSession s where
  noFault := h.noFault
  enabled providerId provider hlookup := (h.registered providerId provider hlookup).1
  chunks := by
    intro providerId provider hlookup hchunks
    obtain ⟨henabled, hdisabled⟩ := h.registered providerId provider hlookup
    apply henabled
    by_contra hnot
    exact hchunks (hdisabled (Bool.eq_false_iff.mpr hnot))
  unregistered := h.unregistered

theorem AllBacked.of_providers (hfault : s'.fault = s.fault)
    (hunregistered : s'.unregistered = s.unregistered) (hstreams : s'.streams = s.streams)
    (hproviders : ∀ providerId,
      s'.ctx.server.eventProviders.lookup providerId =
          s.ctx.server.eventProviders.lookup providerId ∨
        ∃ provider provider', s.ctx.server.eventProviders.lookup providerId = some provider ∧
          s'.ctx.server.eventProviders.lookup providerId = some provider' ∧
          Backed provider' (s.streams providerId)) : AllBacked s' := by
  refine ⟨hfault.trans h.noFault, ?_, ?_⟩
  · intro providerId provider hlookup
    rw [hstreams]
    rcases hproviders providerId with heq | ⟨-, provider', -, hlookup', hbacked⟩
    · exact h.registered providerId provider (heq.symm.trans hlookup)
    · obtain rfl := Option.some.inj (hlookup.symm.trans hlookup')
      exact hbacked
  · intro providerId hnone
    rw [hunregistered, hstreams]
    rcases hproviders providerId with heq | ⟨-, provider', -, hlookup', -⟩
    · exact h.unregistered providerId (heq.symm.trans hnone)
    · rw [hnone] at hlookup'
      cases hlookup'

theorem AllBacked.setProvider
    (hlookup : s.ctx.server.eventProviders.lookup providerId = some provider)
    {provider' : EventProvider} (hbacked : Backed provider' (s.streams providerId))
    (hproviders : server.eventProviders =
      s.ctx.server.eventProviders.replace providerId provider') :
    AllBacked (s.setServer server) := by
  refine AllBacked.of_providers h ?_ ?_ ?_ ?_
  · rfl
  · rfl
  · rfl
  intro providerId'
  change server.eventProviders.lookup providerId' = _ ∨ _
  rw [hproviders]
  by_cases heq : providerId' = providerId
  · subst heq
    have hmem : providerId' ∈ s.ctx.server.eventProviders :=
      AList.lookup_isSome.mp (by rw [hlookup]; rfl)
    exact Or.inr ⟨provider, provider', hlookup, (congrArg (AList.lookup providerId')
      hproviders).trans (lookup_replace hmem provider'), hbacked⟩
  · exact Or.inl (lookup_replace_ne heq provider' _)

theorem AllBacked.setStream
    (hlookup : s.ctx.server.eventProviders.lookup providerId = some provider)
    {stream : BaseEventProvider} (hbacked : Backed provider stream) :
    AllBacked (s.setStream providerId stream) := by
  refine ⟨h.noFault, ?_, ?_⟩
  · intro providerId' provider' hlookup'
    by_cases heq : providerId' = providerId
    · subst heq
      obtain rfl := Option.some.inj (hlookup.symm.trans hlookup')
      simpa [ServedProviders.setStream] using hbacked
    · have hbefore := h.registered providerId' provider' hlookup'
      simpa [ServedProviders.setStream, heq] using hbefore
  · intro providerId' hnone
    have hne : providerId' ≠ providerId := by
      rintro rfl
      rw [ServedProviders.setStream, hlookup] at hnone
      cases hnone
    have hbefore := h.unregistered providerId' hnone
    simpa [ServedProviders.setStream, hne] using hbefore

theorem AllBacked.flush (hlookup : s.ctx.server.eventProviders.lookup providerId = some provider) :
    AllBacked (s.flush providerId) ∧ (s.flush providerId).ctx = s.ctx ∧
      (s.flush providerId).unregistered = s.unregistered ∧
      ((s.flush providerId).streams providerId).eventChunks = [] := by
  unfold ServedProviders.flush
  split
  · rename_i hchunks
    exact ⟨h, rfl, rfl, hchunks⟩
  · rename_i hchunks
    have hsession := h.chunksHaveSession.chunks providerId provider hlookup hchunks
    rw [acquiredSession_eq hlookup]
    split
    · rename_i hnone
      exact absurd hnone hsession
    · refine ⟨h.setStream hlookup ⟨(h.registered providerId provider hlookup).1, fun _ => rfl⟩,
        rfl, rfl, ?_⟩
      simp [ServedProviders.setStream, BaseEventProvider.flush]

theorem AllBacked.flushIfEnabled (providerId : EventProviderId) :
    AllBacked (s.flushIfEnabled providerId) ∧ (s.flushIfEnabled providerId).ctx = s.ctx ∧
      (s.flushIfEnabled providerId).unregistered = s.unregistered ∧
      ((s.flushIfEnabled providerId).streams providerId).eventChunks = [] := by
  unfold ServedProviders.flushIfEnabled
  split
  · rename_i hnone
    exact ⟨h, rfl, rfl, (h.unregistered providerId hnone).2⟩
  · rename_i provider hlookup
    split
    · exact h.flush hlookup
    · rename_i hdisabled
      exact ⟨h, rfl, rfl,
        (h.registered providerId provider hlookup).2 (Bool.eq_false_iff.mpr hdisabled)⟩

theorem AllBacked.sameProviders {ctx : EventCtx}
    (hproviders : ctx.server.eventProviders = s.ctx.server.eventProviders) :
    AllBacked { s with ctx := ctx } := by
  refine AllBacked.of_providers h rfl rfl rfl ?_
  intro providerId
  exact Or.inl (congrArg (AList.lookup providerId) hproviders)

theorem AllBacked.setEnabled (update : ProviderUpdateHeader)
    (hbacked : ∀ provider, s.ctx.server.eventProviders.lookup update.providerId = some provider →
      Backed { provider with isEnabled := update.isEnabled } (s.streams update.providerId)) :
    AllBacked (s.setServer (s.ctx.server.applyProviderUpdate update).2) := by
  unfold EventServer.applyProviderUpdate
  cases hlookup : s.ctx.server.eventProviders.lookup update.providerId with
  | none => exact h.sameProviders rfl
  | some provider => exact h.setProvider hlookup (hbacked provider hlookup) rfl

theorem AllBacked.applyProviderUpdate {update : ProviderUpdateHeader}
    (hupdate : update.isEnabled = true → ∀ provider,
      s.ctx.server.eventProviders.lookup update.providerId = some provider →
      provider.pSession ≠ none) : AllBacked (s.applyProviderUpdate update) := by
  unfold ServedProviders.applyProviderUpdate
  by_cases henabled : update.isEnabled = true
  · rw [if_pos henabled]
    apply h.setEnabled
    intro provider hlookup
    refine ⟨fun _ => hupdate henabled provider hlookup, fun hdisabled => ?_⟩
    exact absurd henabled (Bool.eq_false_iff.mp hdisabled)
  · rw [if_neg henabled]
    obtain ⟨hflushed, -, -, hchunks⟩ := h.flushIfEnabled update.providerId
    apply hflushed.setEnabled
    exact fun provider _ => ⟨fun hnot => absurd hnot henabled, fun _ => hchunks⟩

theorem AllBacked.assignSessionToProvider (r : EventSessionRef)
    (providerId : EventProviderId) : AllBacked (s.assignSessionToProvider r providerId) := by
  unfold ServedProviders.assignSessionToProvider EventServer.assignSessionToProvider
  split
  · rename_i provider session hlookup hsession
    split
    · apply h.setProvider hlookup _ rfl
      exact ⟨fun _ => Option.some_ne_none r, nofun⟩
    · exact h.sameProviders rfl
  · exact h.sameProviders rfl

theorem AllBacked.unassign (providerId : EventProviderId) {server : EventServer}
    (hproviders : server.eventProviders =
      (s.ctx.server.unassignSessionFromProvider providerId).eventProviders) :
    AllBacked ((s.flushIfEnabled providerId).setServer server) := by
  obtain ⟨hflushed, hctx, -, hchunks⟩ := h.flushIfEnabled providerId
  unfold EventServer.unassignSessionFromProvider at hproviders
  rw [← hctx] at hproviders
  split at hproviders
  · exact hflushed.sameProviders hproviders
  · rename_i provider hlookup
    apply hflushed.setProvider hlookup _ hproviders
    exact ⟨nofun, fun _ => hchunks⟩

theorem AllBacked.unsubscribe (session : EventServerSession) :
    AllBacked (s.unsubscribe session) := by
  unfold ServedProviders.unsubscribe
  split
  · have hctx := (h.flushIfEnabled session.assignedProviderId).2.1
    apply h.unassign
    rw [hctx]
  · exact h

end

theorem eventProviders_unassign_deleteSession (c : EventCtx) (r : EventSessionRef)
    (providerId : EventProviderId) :
    ((c.deleteSession r).server.unassignSessionFromProvider providerId).eventProviders =
      (c.server.unassignSessionFromProvider providerId).eventProviders := by
  unfold EventServer.unassignSessionFromProvider
  rw [eventProviders_deleteSession]
  split
  · exact eventProviders_deleteSession
  · unfold EventServer.setProvider
    rw [eventProviders_deleteSession]

theorem AllBacked.sessionTerminated (h : AllBacked s) (id : SessionId) :
    AllBacked (s.sessionTerminated id) := by
  unfold ServedProviders.sessionTerminated
  cases hpending : s.ctx.server.findPendingSessionById id with
  | some index =>
    apply h.sameProviders
    unfold EventCtx.sessionTerminated
    rw [hpending]
    dsimp only
    split
    · rfl
    · exact eventProviders_deleteSession
  | none =>
    cases hfind : s.ctx.server.findProviderBySessionId id with
    | none =>
      apply h.sameProviders
      simp only [EventCtx.sessionTerminated, hpending, hfind]
    | some found =>
      obtain ⟨providerId, r⟩ := found
      have hctx := (h.flushIfEnabled providerId).2.1
      have hunassigned := h.unassign providerId
        (eventProviders_unassign_deleteSession s.ctx r providerId)
      apply hunassigned.sameProviders
      simp only [hctx, EventCtx.sessionTerminated, hpending, hfind, ServedProviders.setServer]

theorem AllBacked.registerProvider (h : AllBacked s) (providerId : EventProviderId) :
    AllBacked (s.registerProvider providerId) := by
  unfold ServedProviders.registerProvider EventServer.registerProvider
  split
  · exact h.sameProviders rfl
  · rename_i hnew
    have hnone : s.ctx.server.eventProviders.lookup providerId = none :=
      AList.lookup_eq_none.mpr hnew
    obtain ⟨hdisabled, hchunks⟩ := h.unregistered providerId hnone
    refine ⟨h.noFault, ?_, ?_⟩
    · intro providerId' provider hlookup
      by_cases heq : providerId' = providerId
      · subst heq
        simp only [ServedProviders.setServer, AList.lookup_insert, Option.some.injEq] at hlookup
        subst hlookup
        refine ⟨fun henabled => ?_, fun _ => hchunks⟩
        rw [hdisabled] at henabled
        cases henabled
      · simp only [ServedProviders.setServer, AList.lookup_insert_ne heq] at hlookup
        exact h.registered providerId' provider hlookup
    · intro providerId' hnone'
      have hne : providerId' ≠ providerId := by
        rintro rfl
        simp [ServedProviders.setServer] at hnone'
      simp only [ServedProviders.setServer, AList.lookup_insert_ne hne] at hnone'
      exact h.unregistered providerId' hnone'

theorem eventProviders_unregisterProvider {c : EventCtx}
    (h : c.server.eventProviders.lookup providerId = some provider) :
    (c.unregisterProvider providerId).2.server.eventProviders =
      c.server.eventProviders.erase providerId := by
  unfold EventCtx.unregisterProvider
  simp only [h]
  split
  · rfl
  · rw [eventProviders_deleteSession]

theorem AllBacked.unregisterProvider (h : AllBacked s)
    (hdisabled : ∀ provider, s.ctx.server.eventProviders.lookup providerId = some provider →
      provider.isEnabled = false) : AllBacked (s.unregisterProvider providerId) := by
  unfold ServedProviders.unregisterProvider
  split
  · exact h
  · rename_i provider hlookup
    obtain ⟨hflushed, hctx, hunregistered, hchunks⟩ := h.flush hlookup
    have hproviders := eventProviders_unregisterProvider hlookup
    rw [← hctx] at hproviders
    refine ⟨hflushed.noFault, ?_, ?_⟩
    · intro providerId' provider' hlookup'
      rw [hproviders] at hlookup'
      exact hflushed.registered providerId' provider' (lookup_of_erase hlookup')
    · intro providerId' hnone
      by_cases heq : providerId' = providerId
      · subst heq
        refine ⟨?_, hchunks⟩
        simp only [Function.update_self]
        exact hdisabled provider hlookup
      · rw [hproviders, AList.lookup_erase_ne heq] at hnone
        have hbefore := hflushed.unregistered providerId' hnone
        rw [hunregistered] at hbefore
        simp only [hunregistered, Function.update_of_ne heq]
        exact hbefore

theorem AllBacked.writeEvent (h : AllBacked s) (providerId : EventProviderId) (w : EventWrite) :
    AllBacked (s.writeEvent providerId w) := by
  unfold ServedProviders.writeEvent
  split
  · exact h
  · rename_i provider hlookup
    split
    · rename_i henabled
      have hsession := (h.registered providerId provider hlookup).1 henabled
      rw [if_neg fun hfault => hsession hfault.1]
      apply h.setStream hlookup
      refine ⟨fun _ => hsession, fun hdisabled => ?_⟩
      rw [henabled] at hdisabled
      cases hdisabled
    · exact h

theorem AllBacked.updateProvider (h : AllBacked s) (providerId : EventProviderId)
    (currentTime : UInt64) : AllBacked (s.updateProvider providerId currentTime) := by
  unfold ServedProviders.updateProvider
  split
  · exact h
  · rename_i r hacquired
    obtain ⟨provider, hlookup, hsession⟩ := Option.bind_eq_some_iff.mp hacquired
    apply h.setStream hlookup
    obtain ⟨henabled, hdisabled⟩ := h.registered providerId provider hlookup
    refine ⟨henabled, fun hnot => ?_⟩
    unfold BaseEventProvider.updateFlushTimer
    split
    · rfl
    · exact hdisabled hnot

theorem AllBacked.construct (h : AllBacked s)
    (hnew : providerId ∉ s.ctx.server.eventProviders) {stream : BaseEventProvider}
    (hstream : stream.eventChunks = []) {provider : EventProvider}
    (hprovider : provider.isEnabled = false) :
    AllBacked { s.setStream providerId stream with
      unregistered := Function.update s.unregistered providerId provider } := by
  have hnone : s.ctx.server.eventProviders.lookup providerId = none :=
    AList.lookup_eq_none.mpr hnew
  refine ⟨h.noFault, ?_, ?_⟩
  · intro providerId' provider' hlookup
    have hne : providerId' ≠ providerId := by
      rintro rfl
      rw [ServedProviders.setStream, hnone] at hlookup
      cases hlookup
    have hbefore := h.registered providerId' provider' hlookup
    simpa [ServedProviders.setStream, hne] using hbefore
  · intro providerId' hnone'
    by_cases heq : providerId' = providerId
    · subst heq
      simp [ServedProviders.setStream, hstream, hprovider]
    · have hbefore := h.unregistered providerId' hnone'
      simpa [ServedProviders.setStream, heq] using hbefore

/-- A provider that is enabled has a session for its chunks. -/
theorem AllBacked.step (h : AllBacked s) {a : ProviderAction}
    (hkeeps : keepsProviderSessions s a = true) (hstep : s.step a = some s') : AllBacked s' := by
  unfold ServedProviders.step at hstep
  rw [h.noFault] at hstep
  simp only [Bool.false_eq_true, if_false] at hstep
  cases a with
  | sessionEstablished id =>
    cases hstep
    exact h.sameProviders rfl
  | sessionTerminated id =>
    cases hstep
    exact h.sessionTerminated id
  | subscribe r providerId =>
    cases hstep
    exact h.assignSessionToProvider r providerId
  | unsubscribe r =>
    obtain ⟨session, -, rfl⟩ := Option.map_eq_some_iff.mp hstep
    exact h.unsubscribe session
  | providerUpdate update =>
    cases hstep
    apply h.applyProviderUpdate
    intro henabled provider hlookup hnone
    simp [keepsProviderSessions, henabled, hlookup, hnone] at hkeeps
  | register providerId =>
    cases hstep
    exact h.registerProvider providerId
  | unregister providerId =>
    cases hstep
    apply h.unregisterProvider
    intro provider hlookup
    simpa [keepsProviderSessions, hlookup] using hkeeps
  | write providerId w =>
    cases hstep
    exact h.writeEvent providerId w
  | update providerId currentTime =>
    cases hstep
    exact h.updateProvider providerId currentTime
  | construct providerId provider stream =>
    simp only [Option.ite_none_left_eq_some, Option.some.injEq] at hstep
    obtain ⟨hnew, rfl⟩ := hstep
    exact h.construct hnew rfl rfl

theorem allBacked_new (blocks : BlockCtx) (streams : EventProviderId → BaseEventProvider) :
    AllBacked (.new blocks streams) :=
  ⟨rfl, nofun, fun _ _ => ⟨rfl, rfl⟩⟩

/-- In a run in which no update enables a registered provider without a session, and no provider is
unregistered while it is enabled, a provider that is enabled or has chunks has a session, and no
null session is used. -/
theorem chunks_have_session_of_run {blocks : BlockCtx}
    {streams : EventProviderId → BaseEventProvider}
    {tr : List (ServedProviders × ProviderAction × Unit)}
    (h : servedProvidersMachine.Trace (.new blocks streams) tr s)
    (hkeeps : ∀ x ∈ tr, keepsProviderSessions x.1 x.2.1 = true) : ChunksHaveSession s := by
  have hbacked : AllBacked s := by
    apply Machine.Trace.invariant (C := fun s a => keepsProviderSessions s a = true) h
      (allBacked_new blocks streams) hkeeps
    intro s t a _ hs hcond hstep
    obtain ⟨s', hs', heq⟩ := Option.map_eq_some_iff.mp hstep
    obtain ⟨rfl, -⟩ := Prod.mk.inj heq
    exact hs.step hcond hs'
  exact hbacked.chunksHaveSession

def quietStreams (providerId : EventProviderId) : BaseEventProvider := .new providerId 0 1

def oneByteEvent : EventWrite where
  eventId := 3
  header := none
  eventData := [9]
  streamReading := 100
  reading := 200
  allocations := [true, true]
  currentTime := 0
  fits := by decide

def subscribedWrite : List ProviderAction :=
  [.register 1, .sessionEstablished 5, .subscribe 0 1, .write 1 oneByteEvent, .sessionTerminated 5]

theorem chunks_have_session_of_run_write : ∃ s tr,
    servedProvidersMachine.Trace (.new ⟨.new, [], []⟩ quietStreams) tr s ∧
      (∀ x ∈ tr, keepsProviderSessions x.1 x.2.1 = true) ∧ ChunksHaveSession s ∧
      (s.streams 1).queue.length = 1 := by
  have hrun : ((servedProvidersMachine.run (.new ⟨.new, [], []⟩ quietStreams)
      subscribedWrite).map fun s => (s.streams 1).queue.length) = some 1 := by decide +kernel
  obtain ⟨s, hs, hqueue⟩ := Option.map_eq_some_iff.mp hrun
  have hkeeps : ∀ x ∈ servedProvidersMachine.transitions (.new ⟨.new, [], []⟩ quietStreams)
      subscribedWrite, keepsProviderSessions x.1 x.2.1 = true := by decide +kernel
  exact ⟨s, _, .of_run hs, hkeeps, chunks_have_session_of_run (.of_run hs) hkeeps, hqueue⟩

def enabledWrite : List ProviderAction :=
  [.register 1, .providerUpdate ⟨1, 0, true⟩, .write 1 oneByteEvent]

/-- A provider is unregistered while a session is subscribed to it, registered again, and writes an
event. -/
def unregisteredWrite : List ProviderAction :=
  [.register 1, .sessionEstablished 5, .subscribe 0 1, .unregister 1, .register 1,
    .write 1 oneByteEvent]

theorem exists_fault {as : List ProviderAction}
    (h : (servedProvidersMachine.run (.new ⟨.new, [], []⟩ quietStreams) as).any (·.fault) = true) :
    ∃ s, servedProvidersMachine.run (.new ⟨.new, [], []⟩ quietStreams) as = some s ∧
      servedProvidersMachine.Reachable s ∧ s.fault = true ∧ ¬ ChunksHaveSession s := by
  have hinit : servedProvidersMachine.Reachable (.new ⟨.new, [], []⟩ quietStreams) :=
    .init ⟨_, _, rfl⟩
  cases hrun : servedProvidersMachine.run (.new ⟨.new, [], []⟩ quietStreams) as with
  | none =>
    rw [hrun] at h
    cases h
  | some s =>
    rw [hrun] at h
    have hfault : s.fault = true := h
    refine ⟨s, rfl, hinit.run hrun, hfault, fun hsession => ?_⟩
    rw [hsession.noFault] at hfault
    cases hfault

/-- Either way a null session is used. -/
theorem chunks_have_session_not :
    (∃ s, servedProvidersMachine.run (.new ⟨.new, [], []⟩ quietStreams) enabledWrite = some s ∧
      servedProvidersMachine.Reachable s ∧ s.fault = true ∧ ¬ ChunksHaveSession s) ∧
    (∃ s, servedProvidersMachine.run (.new ⟨.new, [], []⟩ quietStreams) unregisteredWrite = some s ∧
      servedProvidersMachine.Reachable s ∧ s.fault = true ∧ ¬ ChunksHaveSession s) :=
  ⟨exists_fault (by decide +kernel), exists_fault (by decide +kernel)⟩

end Steps

end DevDriver.Analysis
