import DevDriver.Analysis.EventServerBlocks

/-!
# Who owns an event session

An event session is pending until a provider acquires it, and is deleted with its protocol session
or with the provider.
-/

namespace DevDriver.Analysis

open Library Model EventServer EventCtx

/-! ## Owners -/

/-- A session is pending once and acquired by no provider, or it is not pending and acquired by one
provider, which it is assigned to. -/
def HasOneOwner (s : EventServer) (r : EventSessionRef) : Prop :=
  (s.pendingSessions.count r = 1 ∧ ∀ providerId, s.acquiredSession providerId ≠ some r) ∨
    (r ∉ s.pendingSessions ∧ ∃ providerId session, s.acquiredSession providerId = some r ∧
      s.sessions r = some session ∧ session.assignedProviderId = providerId ∧
      ∀ providerId', s.acquiredSession providerId' = some r → providerId' = providerId)

/-- Every event session of an established protocol session has one owner, and those of terminated
protocol sessions were deleted once. -/
structure SessionsOwned (s : EventServerRun) : Prop where
  owned : ∀ entry ∈ s.current, HasOneOwner s.ctx.server entry.2
  deletedOnce : ∀ r ∈ s.terminated, s.deleted.count r = 1

/-- A request of this session leaves it with one owner: it does not subscribe to a free provider
while it is not pending, and it does not unsubscribe from a provider. -/
def requestKeepsOwner (r : EventSessionRef) (session : EventServerSession) (s : EventServer) :
    Bool :=
  match session.payloadContainer.eventCommand with
  | .subscribeToProviderRequest =>
    (s.eventProviders.lookup session.payloadContainer.subscribeProviderId).all
      (fun provider => provider.pSession.isSome) || decide (r ∈ s.pendingSessions)
  | .unsubscribeFromProviderRequest => session.assignedProviderId = 0
  | _ => true

def keepsOwners (s : EventServerRun) : EventServerAction → Bool
  | .updateSession id _ _ =>
    match s.ctx.server.sessionOf id with
    | none => true
    | some r =>
      match s.ctx.server.sessions r with
      | none => true
      | some session =>
        session.state ≠ .processPayload || requestKeepsOwner r session s.ctx.server
  | _ => true

def AssignedProviders (s : EventServer) : Prop :=
  ∀ providerId r session, s.acquiredSession providerId = some r → s.sessions r = some session →
    session.assignedProviderId = providerId

section Server

variable {live : List SessionId} {s : EventServer} {r r' : EventSessionRef}
  {session session' : EventServerSession} {providerId providerId' : EventProviderId}
  {provider provider' : EventProvider}

theorem acquiredSession_eq (h : s.eventProviders.lookup providerId = some provider) :
    s.acquiredSession providerId = provider.pSession := by
  unfold acquiredSession
  rw [h]
  rfl

theorem acquiredSession_setProvider (h : s.eventProviders.lookup providerId = some provider)
    (provider' : EventProvider) (providerId' : EventProviderId) :
    (s.setProvider providerId provider').acquiredSession providerId' =
      if providerId' = providerId then provider'.pSession else s.acquiredSession providerId' := by
  unfold acquiredSession EventServer.setProvider
  by_cases heq : providerId' = providerId
  · subst heq
    rw [if_pos rfl, lookup_replace (AList.lookup_isSome.mp (by rw [h]; rfl))]
    rfl
  · rw [if_neg heq, lookup_replace_ne heq]

theorem mem_acquired_of_acquiredSession (h : s.acquiredSession providerId = some r) :
    r ∈ acquiredSessions s.eventProviders := by
  obtain ⟨provider, hlookup, hsession⟩ := Option.bind_eq_some_iff.mp h
  exact mem_acquiredSessions hlookup hsession

theorem exists_acquiredSession (h : r ∈ acquiredSessions s.eventProviders) :
    ∃ providerId, s.acquiredSession providerId = some r := by
  obtain ⟨provider, hprovider, hsession⟩ := List.mem_filterMap.mp h
  obtain ⟨providerId, hlookup⟩ := mem_values.mp hprovider
  exact ⟨providerId, (acquiredSession_eq hlookup).trans hsession⟩

theorem acquiredSession_unique (h : (sessionReferences s).Nodup)
    (hr : s.acquiredSession providerId = some r) (hr' : s.acquiredSession providerId' = some r) :
    providerId' = providerId := by
  by_contra hne
  obtain ⟨provider, hlookup, hsession⟩ := Option.bind_eq_some_iff.mp hr
  obtain ⟨provider', hlookup', hsession'⟩ := Option.bind_eq_some_iff.mp hr'
  have hnodup : (acquiredSessions s.eventProviders).Nodup := (List.nodup_append.mp h).2.1
  rw [(acquiredSessions_perm hlookup).nodup_iff, hsession] at hnodup
  apply (List.nodup_cons.mp hnodup).1
  apply List.mem_filterMap.mpr
  refine ⟨provider', mem_values.mpr ⟨providerId', ?_⟩, hsession'⟩
  rw [AList.lookup_erase_ne hne]
  exact hlookup'

theorem not_acquired_of_pending (h : (sessionReferences s).Nodup) (hr : r ∈ s.pendingSessions) :
    s.acquiredSession providerId ≠ some r := fun hacquired =>
  (List.nodup_append.mp h).2.2 r hr r (mem_acquired_of_acquiredSession hacquired) rfl

theorem hasOneOwner (h : WellFormed live s) (hassigned : AssignedProviders s)
    (hr : r ∈ sessionReferences s) : HasOneOwner s r := by
  by_cases hpending : r ∈ s.pendingSessions
  · apply Or.inl
    refine ⟨?_, fun providerId => not_acquired_of_pending h.nodup hpending⟩
    have hnodup : s.pendingSessions.Nodup := (List.nodup_append.mp h.nodup).1
    exact List.count_eq_one_of_mem hnodup hpending
  · apply Or.inr
    have hacquired := (List.mem_append.mp hr).resolve_left hpending
    obtain ⟨providerId, hprovider⟩ := exists_acquiredSession hacquired
    obtain ⟨id, -, hid⟩ := h.live r hr
    obtain ⟨session, hsession, -⟩ := Option.map_eq_some_iff.mp hid
    refine ⟨hpending, providerId, session, hprovider, hsession, ?_, ?_⟩
    · exact hassigned providerId r session hprovider hsession
    · exact fun providerId' hother => acquiredSession_unique h.nodup hprovider hother

theorem AssignedProviders.setSession (h : AssignedProviders s)
    (hsession : s.sessions r = some session)
    (hassigned : session'.assignedProviderId = session.assignedProviderId) :
    AssignedProviders (s.setSession r session') := by
  intro providerId r' stored hacquired hstored
  by_cases heq : r' = r
  · subst heq
    simp only [EventServer.setSession, Function.update_self, Option.some.injEq] at hstored
    subst hstored
    rw [hassigned]
    exact h providerId r' session hacquired hsession
  · apply h providerId r' stored hacquired
    simpa [EventServer.setSession, heq] using hstored

theorem AssignedProviders.setProvider (h : AssignedProviders s)
    (hlookup : s.eventProviders.lookup providerId = some provider)
    (hsession : ∀ r, provider'.pSession = some r → provider.pSession = some r) :
    AssignedProviders (s.setProvider providerId provider') := by
  intro providerId' r stored hacquired hstored
  apply h providerId' r stored _ hstored
  rw [acquiredSession_setProvider hlookup] at hacquired
  by_cases heq : providerId' = providerId
  · subst heq
    rw [if_pos rfl] at hacquired
    exact (acquiredSession_eq hlookup).trans (hsession r hacquired)
  · rw [if_neg heq] at hacquired
    exact hacquired

theorem AssignedProviders.applyProviderUpdate (h : AssignedProviders s)
    (update : ProviderUpdateHeader) : AssignedProviders (s.applyProviderUpdate update).2 := by
  unfold EventServer.applyProviderUpdate
  split
  · exact h
  · rename_i provider hlookup
    exact h.setProvider hlookup fun _ hr => hr

theorem AssignedProviders.applyProviderUpdates (h : AssignedProviders s) (data : List UInt8) :
    AssignedProviders (s.applyProviderUpdates data).2 := by
  fun_induction EventServer.applyProviderUpdates data s with
  | case1 => exact h
  | case2 => exact h
  | case3 _ _ _ _ _ _ _ _ ih => exact ih (h.applyProviderUpdate _)
  | case4 => exact h.applyProviderUpdate _
  | case5 => exact h

theorem AssignedProviders.assign (h : AssignedProviders s) (hs : WellFormed live s)
    (hpending : IsFree s providerId → r ∈ s.pendingSessions) :
    AssignedProviders (s.assignSessionToProvider r providerId).2 := by
  unfold assignSessionToProvider
  split
  · rename_i provider session hlookup hsession
    split
    · rename_i hfree
      have hr := hpending ⟨provider, hlookup, hfree⟩
      intro providerId' r' stored hacquired hstored
      have hprovider : (if providerId' = providerId then some r
          else s.acquiredSession providerId') = some r' :=
        (acquiredSession_setProvider hlookup _ providerId').symm.trans hacquired
      by_cases heq : providerId' = providerId
      · rw [if_pos heq] at hprovider
        cases hprovider
        simp only [EventServer.setSession, Function.update_self, Option.some.injEq] at hstored
        rw [← hstored, heq]
      · rw [if_neg heq] at hprovider
        have hne : r' ≠ r := by
          rintro rfl
          exact not_acquired_of_pending hs.nodup hr hprovider
        apply h providerId' r' stored hprovider
        simpa [EventServer.setSession, EventServer.setProvider, hne] using hstored
    · exact h
  · exact h

end Server

/-! ## Updates -/

structure KeepsAssigned (s s' : EventServer) : Prop where
  sessions : KeepsSessions s s'
  assigned : AssignedProviders s'

section Updates

variable {live : List SessionId} {s : EventServer} {c : EventCtx} {r : EventSessionRef}
  {id : SessionId} {session session' : EventServerSession}

section

variable (h : KeepsAssigned s c.server)

include h

theorem KeepsAssigned.setSession (hsession : c.server.sessions r = some session)
    (hid : session'.sessionId = session.sessionId)
    (hassigned : session'.assignedProviderId = session.assignedProviderId)
    (hblock : ∀ x, session.pUpdateBlock = some x → session'.pUpdateBlock = some x) :
    KeepsAssigned s (c.setSession r session').server :=
  ⟨h.sessions.trans (keepsSessions_setSession hsession hid hblock),
    h.assigned.setSession hsession hassigned⟩

theorem KeepsAssigned.respond (hsession : c.server.sessions r = some session) (data : List UInt8) :
    KeepsAssigned s (c.respond r session data).server :=
  h.setSession hsession rfl rfl fun _ hx => hx

theorem KeepsAssigned.handleQueryProvidersRequest (hsession : c.server.sessions r = some session) :
    KeepsAssigned s (c.handleQueryProvidersRequest r session).server := by
  have hserver : c.buildQueryProvidersResponse.2.2.server = c.server := by
    unfold buildQueryProvidersResponse
    split <;> rfl
  have hbuilt : KeepsAssigned s c.buildQueryProvidersResponse.2.2.server := hserver.symm ▸ h
  exact hbuilt.respond (hserver.symm ▸ hsession) _

theorem KeepsAssigned.handleAllocateProviderUpdatesRequest
    (hsession : c.server.sessions r = some session) :
    KeepsAssigned s (c.handleAllocateProviderUpdatesRequest r session).server := by
  unfold EventCtx.handleAllocateProviderUpdatesRequest
  split
  · exact h.respond hsession _
  · rename_i hnone
    split
    · exact h.respond hsession _
    · refine KeepsAssigned.setSession h hsession ?_ ?_ ?_
      · rfl
      · rfl
      · intro x hx
        rw [hnone] at hx
        cases hx

theorem KeepsAssigned.handleApplyProviderUpdatesRequest
    (hsession : c.server.sessions r = some session) :
    KeepsAssigned s (c.handleApplyProviderUpdatesRequest r session).server := by
  unfold EventCtx.handleApplyProviderUpdatesRequest
  split
  · exact h.respond hsession _
  · apply KeepsAssigned.respond
    · exact ⟨h.sessions.trans (keepsSessions_applyProviderUpdates _),
        h.assigned.applyProviderUpdates _⟩
    · exact (congrFun (sessions_applyProviderUpdates _) r).trans hsession

theorem KeepsAssigned.handleSubscribeToProviderRequest (hs : WellFormed live c.server)
    (hpending : IsFree c.server session.payloadContainer.subscribeProviderId →
      r ∈ c.server.pendingSessions) :
    KeepsAssigned s (c.handleSubscribeToProviderRequest r session).server := by
  unfold EventCtx.handleSubscribeToProviderRequest
  dsimp only
  split
  · exact h
  · apply KeepsAssigned.respond _ ‹_›
    exact ⟨h.sessions.trans (keepsSessions_assignSessionToProvider hs hpending),
      h.assigned.assign hs hpending⟩

theorem KeepsAssigned.handleUnsubscribeFromProviderRequest
    (hsession : c.server.sessions r = some session) (hnone : session.assignedProviderId = 0) :
    KeepsAssigned s (c.handleUnsubscribeFromProviderRequest r session).server := by
  unfold EventCtx.handleUnsubscribeFromProviderRequest
  have hzero : ¬ 0 < session.assignedProviderId := by
    rw [hnone]
    decide
  rw [if_neg hzero]
  exact h.setSession hsession rfl rfl fun _ hx => hx

end

theorem isFree_of_lookup {providerId : EventProviderId}
    (h : ((s.eventProviders.lookup providerId).all
      (fun provider => provider.pSession.isSome) || decide (r ∈ s.pendingSessions)) = true)
    (hfree : IsFree s providerId) : r ∈ s.pendingSessions := by
  obtain ⟨provider, hlookup, hnone⟩ := hfree
  simpa [hlookup, hnone] using h

theorem KeepsAssigned.processPayload (h : KeepsAssigned s c.server) (hs : WellFormed live c.server)
    (hsession : c.server.sessions r = some session)
    (hrequest : requestKeepsOwner r session c.server = true) :
    KeepsAssigned s (c.processPayload r session).server := by
  unfold requestKeepsOwner at hrequest
  unfold EventCtx.processPayload
  split
  · exact h.handleQueryProvidersRequest hsession
  · exact h.handleAllocateProviderUpdatesRequest hsession
  · exact h.handleApplyProviderUpdatesRequest hsession
  · rename_i hcommand
    rw [hcommand] at hrequest
    exact h.handleSubscribeToProviderRequest hs (isFree_of_lookup hrequest)
  · rename_i hcommand
    rw [hcommand] at hrequest
    exact h.handleUnsubscribeFromProviderRequest hsession (of_decide_eq_true hrequest)
  · exact h

theorem KeepsAssigned.updateEventSession (h : KeepsAssigned s c.server)
    (hs : WellFormed live c.server)
    (hrequest : ∀ session, c.server.sessions r = some session →
      session.state = .processPayload → requestKeepsOwner r session c.server = true) :
    KeepsAssigned s (c.updateEventSession r).server := by
  unfold EventCtx.updateEventSession
  split
  · exact h
  · rename_i session hsession
    split
    · unfold EventCtx.receive
      rcases c.receives with _ | ⟨_ | _, receives⟩
      · exact h
      · exact h.setSession hsession rfl rfl fun _ hx => hx
      · exact h
    · rename_i hstate
      exact h.processPayload hs hsession (hrequest session hsession hstate)
    · have hserver : ∀ payload, (c.send payload).2.server = c.server := by
        intro payload
        unfold EventCtx.send
        split <;> rfl
      dsimp only
      split
      · apply KeepsAssigned.setSession
        · rw [hserver]
          exact h
        · rw [hserver]
          exact hsession
        · rfl
        · rfl
        · exact fun _ hx => hx
      · rw [hserver]
        exact h

theorem KeepsAssigned.updateSession (h : KeepsAssigned s c.server)
    (hs : WellFormed live c.server)
    (hrequest : ∀ r session, c.server.sessionOf id = some r →
      c.server.sessions r = some session → session.state = .processPayload →
      requestKeepsOwner r session c.server = true) :
    KeepsAssigned s (c.updateSession id).server := by
  unfold EventCtx.updateSession
  split
  · rename_i r hr
    exact h.updateEventSession hs fun session => hrequest r session hr
  · unfold EventCtx.send
    split <;> exact h

end Updates

/-! ## Sessions and providers that come and go -/

section Ends

variable {live : List SessionId} {c : EventCtx} {id : SessionId} {providerId : EventProviderId}
  {r : EventSessionRef} {s s' : EventServer}

theorem AssignedProviders.drops (h : AssignedProviders s) (hdrops : DropsSession r s s')
    (hs : WellFormed live s)
    (hacquired : ∀ providerId r', s'.acquiredSession providerId = some r' →
      s.acquiredSession providerId = some r') : AssignedProviders s' := by
  intro providerId r' session hprovider hsession
  have hmem : r' ∈ sessionReferences s' :=
    List.mem_append_right _ (mem_acquired_of_acquiredSession hprovider)
  rw [hdrops.sessions r' (hdrops.ne hs hmem)] at hsession
  exact h providerId r' session (hacquired providerId r' hprovider) hsession

theorem sessions_deleteSession {r' : EventSessionRef} (hne : r' ≠ r) :
    (c.deleteSession r).server.sessions r' = c.server.sessions r' := by
  unfold deleteSession
  split
  · rfl
  · exact Function.update_of_ne hne _ _

theorem dropsSession_sessionTerminated (h : c.server.terminatedSession id = some r) :
    DropsSession r c.server (c.sessionTerminated id).server ∧
      c.server.sessionId r = some id ∧
      ∀ providerId r', (c.sessionTerminated id).server.acquiredSession providerId = some r' →
        c.server.acquiredSession providerId = some r' := by
  unfold terminatedSession at h
  split at h
  · rename_i index hfind
    obtain ⟨r', hindex, hid⟩ := findPendingSessionById_eq_some hfind
    obtain rfl := Option.some.inj (h.symm.trans hindex)
    unfold sessionTerminated
    simp only [hfind, hindex]
    refine ⟨⟨?_, fun r' hne => sessions_deleteSession hne, nextSession_deleteSession⟩, hid, ?_⟩
    · rw [sessionReferences, sessionReferences, pendingSessions_deleteSession,
        eventProviders_deleteSession]
      exact (vectorRemove_perm hindex).append_right _
    · intro providerId r' hacquired
      rw [eventProviders_deleteSession] at hacquired
      exact hacquired
  · rename_i hnone
    obtain ⟨⟨providerId, pSession⟩, hfind, rfl⟩ := Option.map_eq_some_iff.mp h
    obtain ⟨provider, hlookup, hprovider, hid⟩ := findProviderBySessionId_eq_some hfind
    have hafter := sessionReferences_unassign_perm
      (s := (c.deleteSession pSession).server) (eventProviders_deleteSession ▸ hlookup) hprovider
    unfold sessionTerminated
    simp only [hnone, hfind]
    refine ⟨⟨?_, ?_, ?_⟩, hid, ?_⟩
    · rw [sessionReferences, pendingSessions_deleteSession, eventProviders_deleteSession] at hafter
      exact hafter
    · intro r' hne
      exact (congrFun sessions_unassign r').trans (sessions_deleteSession hne)
    · exact nextSession_unassign.trans nextSession_deleteSession
    · intro providerId' r' hacquired
      have hstored : (c.deleteSession pSession).server.eventProviders.lookup providerId =
          some provider := by
        rw [eventProviders_deleteSession]
        exact hlookup
      simp only [unassignSessionFromProvider, hstored] at hacquired
      rw [acquiredSession_setProvider hstored] at hacquired
      split at hacquired
      · cases hacquired
      · unfold acquiredSession at hacquired ⊢
        rw [eventProviders_deleteSession] at hacquired
        exact hacquired

theorem sessionTerminated_none (h : c.server.terminatedSession id = none) :
    c.sessionTerminated id = c ∧ ∀ r ∈ sessionReferences c.server,
      c.server.sessionId r ≠ some id := by
  unfold terminatedSession at h
  split at h
  · rename_i index hfind
    obtain ⟨r, hindex, -⟩ := findPendingSessionById_eq_some hfind
    rw [h] at hindex
    cases hindex
  · rename_i hpending
    have hacquired := Option.map_eq_none_iff.mp h
    unfold sessionTerminated
    simp only [hpending, hacquired]
    refine ⟨trivial, ?_⟩
    intro r hr
    rcases List.mem_append.mp hr with hr | hr
    · exact findPendingSessionById_eq_none hpending r hr
    · exact findProviderBySessionId_eq_none hacquired r hr

theorem acquiredSession_erase {providerId' : EventProviderId}
    (h : ((s.eventProviders.erase providerId).lookup providerId').bind (·.pSession) = some r) :
    s.acquiredSession providerId' = some r := by
  obtain ⟨provider, hlookup, hsession⟩ := Option.bind_eq_some_iff.mp h
  exact (acquiredSession_eq (lookup_of_erase hlookup)).trans hsession

theorem dropsSession_unregisterProvider (h : c.server.acquiredSession providerId = some r) :
    DropsSession r c.server (c.unregisterProvider providerId).2.server ∧
      ∀ providerId' r', (c.unregisterProvider providerId).2.server.acquiredSession providerId' =
        some r' → c.server.acquiredSession providerId' = some r' := by
  obtain ⟨provider, hlookup, hprovider⟩ := Option.bind_eq_some_iff.mp h
  have hbefore := sessionReferences_perm hlookup
  rw [hprovider] at hbefore
  unfold unregisterProvider
  simp only [hlookup, hprovider]
  refine ⟨⟨?_, fun r' hne => sessions_deleteSession hne, nextSession_deleteSession⟩, ?_⟩
  · apply hbefore.trans
    rw [sessionReferences, pendingSessions_deleteSession, eventProviders_deleteSession]
    exact List.perm_middle
  · intro providerId' r' hacquired
    rw [eventProviders_deleteSession] at hacquired
    exact acquiredSession_erase hacquired

theorem keepsAssigned_unregisterProvider (h : c.server.acquiredSession providerId = none)
    (hassigned : AssignedProviders c.server) :
    KeepsAssigned c.server (c.unregisterProvider providerId).2.server := by
  unfold unregisterProvider
  split
  · exact ⟨.refl, hassigned⟩
  · rename_i provider hlookup
    have hprovider : provider.pSession = none := (acquiredSession_eq hlookup).symm.trans h
    have hbefore := sessionReferences_perm hlookup
    rw [hprovider] at hbefore
    simp only [hprovider]
    refine ⟨⟨hbefore.symm, rfl, fun _ session _ hr hx => ⟨session, hr, hx⟩, rfl⟩, ?_⟩
    intro providerId' r session hacquired hsession
    exact hassigned providerId' r session (acquiredSession_erase hacquired) hsession

theorem keepsAssigned_registerProvider (provider : EventProvider)
    (hassigned : AssignedProviders s) :
    KeepsAssigned s (s.registerProvider providerId provider).2 := by
  refine ⟨keepsSessions_registerProvider providerId provider, ?_⟩
  unfold registerProvider
  split
  · exact hassigned
  · intro providerId' r session hacquired hsession
    apply hassigned providerId' r session _ hsession
    by_cases heq : providerId' = providerId
    · subst heq
      simp [acquiredSession] at hacquired
    · unfold acquiredSession at hacquired
      rw [AList.lookup_insert_ne heq] at hacquired
      exact hacquired

end Ends

/-! ## Runs -/

/-- The invariant of a run.  The event sessions of the established protocol sessions are those that
the server points to, and none of these was deleted. -/
structure OwnersKept (s : EventServerRun) : Prop where
  wellFormed : WellFormed s.live s.ctx.server
  assigned : AssignedProviders s.ctx.server
  current : (sessionReferences s.ctx.server).Perm (s.current.map (·.2))
  ids : ∀ entry ∈ s.current, s.ctx.server.sessionId entry.2 = some entry.1
  deleted : ∀ r ∈ s.deleted, r ∉ sessionReferences s.ctx.server ∧ r < s.ctx.server.nextSession
  nodup : s.deleted.Nodup
  terminated : ∀ r ∈ s.terminated, r ∈ s.deleted

theorem perm_filter_of_drop {references references' : List EventSessionRef} {r : EventSessionRef}
    {current : List (SessionId × EventSessionRef)} (hnodup : references.Nodup)
    (hcurrent : references.Perm (current.map (·.2))) (hdrop : references.Perm (r :: references'))
    {p : SessionId × EventSessionRef → Bool}
    (hp : ∀ entry ∈ current, p entry = true ↔ entry.2 ≠ r) :
    references'.Perm ((current.filter p).map (·.2)) := by
  have hcons : (r :: references').Nodup := hdrop.nodup_iff.mp hnodup
  obtain ⟨hr, hnodup'⟩ := List.nodup_cons.mp hcons
  have hfilter : ((current.filter p).map (·.2)).Nodup := by
    have hall : (current.map (·.2)).Nodup := hcurrent.nodup_iff.mp hnodup
    exact hall.sublist (List.filter_sublist.map _)
  apply (List.perm_ext_iff_of_nodup hnodup' hfilter).mpr
  intro x
  constructor
  · intro hx
    have hmem := hcurrent.mem_iff.mp (hdrop.mem_iff.mpr (List.mem_cons_of_mem r hx))
    obtain ⟨entry, hentry, rfl⟩ := List.mem_map.mp hmem
    apply List.mem_map_of_mem
    apply List.mem_filter.mpr
    refine ⟨hentry, (hp entry hentry).mpr ?_⟩
    intro heq
    rw [heq] at hx
    exact hr hx
  · intro hx
    obtain ⟨entry, hentry, rfl⟩ := List.mem_map.mp hx
    obtain ⟨hentry, hpass⟩ := List.mem_filter.mp hentry
    have hmem := hdrop.mem_iff.mp (hcurrent.mem_iff.mpr (List.mem_map_of_mem hentry))
    exact (List.mem_cons.mp hmem).resolve_left ((hp entry hentry).mp hpass)

section Runs

variable {s s' : EventServerRun} {r : EventSessionRef}

theorem ownersKept_new (blocks : BlockCtx) : OwnersKept (.new blocks) :=
  ⟨⟨List.nodup_nil, nofun, nofun, nofun⟩, nofun, .nil, nofun, nofun, List.nodup_nil, nofun⟩

section

variable (h : OwnersKept s)

include h

theorem OwnersKept.keeps {ctx : EventCtx}
    (hkeeps : KeepsAssigned s.ctx.server ctx.server) : OwnersKept { s with ctx := ctx } where
  wellFormed := hkeeps.sessions.wellFormed h.wellFormed
  assigned := hkeeps.assigned
  current := hkeeps.sessions.references.trans h.current
  ids := by
    intro entry hentry
    rw [hkeeps.sessions.sessionId]
    exact h.ids entry hentry
  deleted := by
    intro r hr
    rw [hkeeps.sessions.references.mem_iff, hkeeps.sessions.nextSession]
    exact h.deleted r hr
  nodup := h.nodup
  terminated := h.terminated

theorem OwnersKept.drops {ctx : EventCtx} {live : List SessionId}
    {p : SessionId × EventSessionRef → Bool} {terminated : List EventSessionRef}
    (hdrops : DropsSession r s.ctx.server ctx.server)
    (hacquired : ∀ providerId r', ctx.server.acquiredSession providerId = some r' →
      s.ctx.server.acquiredSession providerId = some r')
    (hlive : ∀ id ∈ s.live, s.ctx.server.sessionId r ≠ some id → id ∈ live)
    (hp : ∀ entry ∈ s.current, p entry = true ↔ entry.2 ≠ r)
    (hterminated : ∀ r' ∈ terminated, r' ∈ s.terminated ∨ r' = r) :
    OwnersKept ⟨ctx, live, s.current.filter p, terminated, s.deleted ++ [r]⟩ := by
  have hcurrent := perm_filter_of_drop h.wellFormed.nodup h.current hdrops.references hp
  have hr : r ∈ sessionReferences s.ctx.server := hdrops.references.mem_iff.mpr List.mem_cons_self
  refine ⟨hdrops.wellFormed h.wellFormed hlive,
    h.assigned.drops hdrops h.wellFormed hacquired, hcurrent, ?_, ?_, ?_, ?_⟩
  · intro entry hentry
    have hmem : entry.2 ∈ sessionReferences ctx.server :=
      hcurrent.mem_iff.mpr (List.mem_map_of_mem hentry)
    rw [sessionId, hdrops.sessions entry.2 (hdrops.ne h.wellFormed hmem)]
    exact h.ids entry (List.mem_of_mem_filter hentry)
  · intro r' hr'
    rw [hdrops.nextSession]
    rcases List.mem_append.mp hr' with hr' | hr'
    · obtain ⟨hnot, hold⟩ := h.deleted r' hr'
      exact ⟨fun hmem => hnot (hdrops.mem hmem), hold⟩
    · obtain rfl := List.mem_singleton.mp hr'
      exact ⟨fun hmem => hdrops.ne h.wellFormed hmem rfl, h.wellFormed.old r' hr⟩
  · apply List.nodup_append.mpr
    refine ⟨h.nodup, List.nodup_singleton r, ?_⟩
    intro x hx y hy heq
    rw [List.mem_singleton] at hy
    rw [heq, hy] at hx
    exact (h.deleted r hx).1 hr
  · intro r' hr'
    rcases hterminated r' hr' with hr' | rfl
    · exact List.mem_append_left _ (h.terminated r' hr')
    · exact List.mem_append_right _ (List.mem_singleton_self r')

theorem OwnersKept.entry_eq_iff {id : SessionId}
    (hid : s.ctx.server.sessionId r = some id) (hr : r ∈ sessionReferences s.ctx.server)
    {entry : SessionId × EventSessionRef} (hentry : entry ∈ s.current) :
    entry.1 = id ↔ entry.2 = r := by
  have hstored := h.ids entry hentry
  have hmem : entry.2 ∈ sessionReferences s.ctx.server :=
    h.current.mem_iff.mpr (List.mem_map_of_mem hentry)
  constructor
  · intro heq
    apply h.wellFormed.injective entry.2 hmem r hr
    rw [hstored, hid, heq]
  · intro heq
    rw [heq, hid] at hstored
    exact (Option.some.inj hstored).symm

theorem OwnersKept.sessionEstablished {id : SessionId} (hid : id ∉ s.live) :
    OwnersKept { s with
      ctx := { s.ctx with server := s.ctx.server.sessionEstablished id }
      live := s.live ++ [id]
      current := s.current ++ [(id, s.ctx.server.nextSession)] } := by
  have hreferences := sessionReferences_sessionEstablished_perm id s.ctx.server
  have hacquired : ∀ providerId r,
      (s.ctx.server.sessionEstablished id).acquiredSession providerId = some r →
      r ∈ sessionReferences s.ctx.server := fun providerId r hr =>
    List.mem_append_right _ (mem_acquired_of_acquiredSession (s := s.ctx.server) hr)
  refine ⟨h.wellFormed.sessionEstablished hid, ?_, ?_, ?_, ?_, h.nodup, h.terminated⟩
  · intro providerId r session hr hsession
    have hsame := h.wellFormed.sessions_sessionEstablished (hacquired providerId r hr) id
    exact h.assigned providerId r session hr (hsame.symm.trans hsession)
  · rw [List.map_append]
    apply hreferences.trans
    apply (h.current.cons s.ctx.server.nextSession).trans
    exact (List.perm_append_singleton _ _).symm
  · intro entry hentry
    rcases List.mem_append.mp hentry with hentry | hentry
    · have hmem : entry.2 ∈ sessionReferences s.ctx.server :=
        h.current.mem_iff.mpr (List.mem_map_of_mem hentry)
      rw [sessionId, h.wellFormed.sessions_sessionEstablished hmem id]
      exact h.ids entry hentry
    · obtain rfl := List.mem_singleton.mp hentry
      exact sessionId_sessionEstablished
  · intro r hr
    obtain ⟨hnot, hold⟩ := h.deleted r hr
    refine ⟨?_, Nat.lt_succ_of_lt hold⟩
    intro hmem
    rcases List.mem_cons.mp (hreferences.mem_iff.mp hmem) with rfl | hmem
    · exact Nat.lt_irrefl _ hold
    · exact hnot hmem

theorem OwnersKept.sessionTerminated (id : SessionId) :
    OwnersKept {
      ctx := s.ctx.sessionTerminated id
      live := s.live.erase id
      current := s.current.filter fun entry => entry.1 ≠ id
      terminated := s.terminated ++ (s.current.filter fun entry => entry.1 = id).map (·.2)
      deleted := s.deleted ++ (s.ctx.server.terminatedSession id).toList } := by
  have hlive : ∀ id' ∈ s.live, id' ≠ id → id' ∈ s.live.erase id :=
    fun id' hid' hne => (List.mem_erase_of_ne hne).mpr hid'
  cases hfind : s.ctx.server.terminatedSession id with
  | some r =>
    obtain ⟨hdrops, hid, hacquired⟩ := dropsSession_sessionTerminated hfind
    have hr : r ∈ sessionReferences s.ctx.server :=
      hdrops.references.mem_iff.mpr List.mem_cons_self
    apply h.drops hdrops hacquired
    · intro id' hid' hne
      apply hlive id' hid'
      rintro rfl
      exact hne hid
    · intro entry hentry
      rw [decide_eq_true_eq]
      exact not_congr (h.entry_eq_iff hid hr hentry)
    · intro r' hr'
      apply (List.mem_append.mp hr').imp_right
      intro hmem
      obtain ⟨entry, hentry, rfl⟩ := List.mem_map.mp hmem
      obtain ⟨hentry, heq⟩ := List.mem_filter.mp hentry
      exact (h.entry_eq_iff hid hr hentry).mp (of_decide_eq_true heq)
  | none =>
    obtain ⟨hsame, hother⟩ := sessionTerminated_none hfind
    have hne : ∀ entry ∈ s.current, entry.1 ≠ id := by
      rintro entry hentry rfl
      exact hother entry.2 (h.current.mem_iff.mpr (List.mem_map_of_mem hentry))
        (h.ids entry hentry)
    have hcurrent : s.current.filter (fun entry => entry.1 ≠ id) = s.current :=
      List.filter_eq_self.mpr fun entry hentry => decide_eq_true (hne entry hentry)
    have hnone : s.current.filter (fun entry => entry.1 = id) = [] :=
      List.filter_eq_nil_iff.mpr fun entry hentry => by simpa using hne entry hentry
    rw [hsame, hcurrent, hnone]
    simp only [List.map_nil, List.append_nil, Option.toList_none]
    refine ⟨?_, h.assigned, h.current, h.ids, h.deleted, h.nodup, h.terminated⟩
    apply h.wellFormed.of_subperm (.refl _) (fun _ _ => rfl) rfl
    intro r hr id' hid' hsession
    apply hlive id' hid'
    rintro rfl
    exact hother r hr hsession

theorem OwnersKept.unregisterProvider (providerId : EventProviderId) :
    OwnersKept { s with
      ctx := (s.ctx.unregisterProvider providerId).2
      current := s.current.filter fun entry =>
        s.ctx.server.acquiredSession providerId ≠ some entry.2
      deleted := s.deleted ++ (s.ctx.server.acquiredSession providerId).toList } := by
  cases hfind : s.ctx.server.acquiredSession providerId with
  | some r =>
    obtain ⟨hdrops, hacquired⟩ := dropsSession_unregisterProvider hfind
    apply h.drops hdrops hacquired
    · exact fun _ hid _ => hid
    · intro entry _
      rw [decide_eq_true_eq, ne_eq, Option.some.injEq]
      exact not_congr eq_comm
    · exact fun r' hr' => Or.inl hr'
  | none =>
    have hkept := h.keeps (keepsAssigned_unregisterProvider hfind h.assigned)
    simpa using hkept

/-- Every session that is current has one owner. -/
theorem OwnersKept.step {a : EventServerAction}
    (hkeeps : keepsOwners s a = true) (hstep : s.step a = some s') : OwnersKept s' := by
  cases a with
  | sessionEstablished id =>
    simp only [EventServerRun.step, Option.ite_none_left_eq_some, Option.some.injEq] at hstep
    obtain ⟨hid, rfl⟩ := hstep
    exact h.sessionEstablished hid
  | updateSession id receives sends =>
    simp only [EventServerRun.step, Option.ite_none_right_eq_some, Option.some.injEq] at hstep
    obtain ⟨-, rfl⟩ := hstep
    apply h.keeps
    have hrefl : KeepsAssigned s.ctx.server
        { s.ctx with receives := receives, sends := sends : EventCtx }.server :=
      ⟨.refl, h.assigned⟩
    apply hrefl.updateSession h.wellFormed
    intro r session hr hsession hstate
    have hr' : s.ctx.server.sessionOf id = some r := hr
    have hsession' : s.ctx.server.sessions r = some session := hsession
    simpa [keepsOwners, hr', hsession', hstate] using hkeeps
  | sessionTerminated id =>
    simp only [EventServerRun.step, Option.ite_none_right_eq_some, Option.some.injEq] at hstep
    obtain ⟨-, rfl⟩ := hstep
    exact h.sessionTerminated id
  | registerProvider providerId provider =>
    cases hstep
    exact h.keeps (keepsAssigned_registerProvider provider h.assigned)
  | unregisterProvider providerId =>
    cases hstep
    exact h.unregisterProvider providerId

theorem OwnersKept.sessionsOwned : SessionsOwned s where
  owned := by
    intro entry hentry
    apply hasOneOwner h.wellFormed h.assigned
    exact h.current.mem_iff.mpr (List.mem_map_of_mem hentry)
  deletedOnce r hr := List.count_eq_one_of_mem h.nodup (h.terminated r hr)

end

/-- In a run whose calls process no second subscription of a session to a free provider, and no
request of a session to unsubscribe, every event session has one owner, and is deleted once. -/
theorem sessions_owned_of_run {blocks : BlockCtx}
    {tr : List (EventServerRun × EventServerAction × Unit)}
    (h : eventServerMachine.Trace (.new blocks) tr s)
    (hkeeps : ∀ x ∈ tr, keepsOwners x.1 x.2.1 = true) : SessionsOwned s := by
  have hkept : OwnersKept s := by
    apply Machine.Trace.invariant (C := fun s a => keepsOwners s a = true) h
      (ownersKept_new blocks) hkeeps
    intro s t a _ hs hcond hstep
    obtain ⟨s', hs', heq⟩ := Option.map_eq_some_iff.mp hstep
    obtain ⟨rfl, -⟩ := Prod.mk.inj heq
    exact hs.step hcond hs'
  exact hkept.sessionsOwned

def requestCalls (id : SessionId) (payload : SessionPayload) : List EventServerAction :=
  [.updateSession id [.payload payload] [], .updateSession id [] [],
    .updateSession id [] [.success]]

def subscribeRequest (providerId : UInt8) : SessionPayload :=
  ⟨[8, 0, 0, 0, providerId, 0, 0, 0], show 8 ≤ kMaxPayloadSizeInBytes by decide⟩

def unsubscribeRequest : SessionPayload := ⟨[10, 0, 0, 0], by decide⟩

def silentProvider : EventProvider := ⟨0, [], [], false, none⟩

def twoSessions : List EventServerAction :=
  [.registerProvider 1 silentProvider, .registerProvider 2 silentProvider,
    .sessionEstablished 5, .sessionEstablished 6]

def subscribedRun : List EventServerAction :=
  twoSessions ++ requestCalls 5 (subscribeRequest 1) ++ [.sessionTerminated 5]

theorem sessions_owned_of_run_subscribed : ∃ s tr,
    eventServerMachine.Trace (.new ⟨.new, [], []⟩) tr s ∧
      (∀ x ∈ tr, keepsOwners x.1 x.2.1 = true) ∧ SessionsOwned s ∧ s.terminated = [0] := by
  cases hrun : eventServerMachine.run (.new ⟨.new, [], []⟩) subscribedRun with
  | none =>
    have hsome : (eventServerMachine.run (.new ⟨.new, [], []⟩) subscribedRun).isSome = true := by
      decide +kernel
    rw [hrun] at hsome
    cases hsome
  | some s =>
    have hkeeps : ∀ x ∈ eventServerMachine.transitions (.new ⟨.new, [], []⟩) subscribedRun,
        keepsOwners x.1 x.2.1 = true := by decide +kernel
    have hterminated : (eventServerMachine.run (.new ⟨.new, [], []⟩) subscribedRun).map
        (·.terminated) = some [0] := by decide +kernel
    rw [hrun] at hterminated
    exact ⟨s, _, .of_run hrun, hkeeps, sessions_owned_of_run (.of_run hrun) hkeeps,
      Option.some.inj hterminated⟩

def unsubscribedRun : List EventServerAction :=
  twoSessions ++ requestCalls 5 (subscribeRequest 1) ++ requestCalls 5 unsubscribeRequest ++
    [.sessionTerminated 5]

def subscribedTwiceRun : List EventServerAction :=
  twoSessions ++ requestCalls 5 (subscribeRequest 1) ++ requestCalls 5 (subscribeRequest 2)

/-- A session that has unsubscribed is not deleted when it is terminated.  One that subscribes to a
second provider has two owners, and the session that was pending has none. -/
theorem sessions_owned_not :
    (∃ s, eventServerMachine.Reachable s ∧ s.terminated = [0] ∧ s.deleted = [] ∧
      ¬ SessionsOwned s) ∧
    (∃ s, eventServerMachine.Reachable s ∧ s.ctx.server.acquiredSession 1 = some 0 ∧
      s.ctx.server.acquiredSession 2 = some 0 ∧ s.ctx.server.pendingSessions = [] ∧
      s.current = [(5, 0), (6, 1)] ∧ ¬ SessionsOwned s) := by
  have hinit : eventServerMachine.Reachable (.new ⟨.new, [], []⟩) := .init ⟨_, rfl⟩
  constructor
  · obtain ⟨s, hs, htest⟩ := hinit.exists_of_run unsubscribedRun
      (fun s => s.terminated = [0] ∧ s.deleted = []) (by decide +kernel)
    obtain ⟨hterminated, hdeleted⟩ := of_decide_eq_true htest
    refine ⟨s, hs, hterminated, hdeleted, ?_⟩
    intro howned
    have hcount := howned.deletedOnce 0 (by rw [hterminated]; exact List.mem_singleton_self 0)
    rw [hdeleted] at hcount
    cases hcount
  · obtain ⟨s, hs, htest⟩ := hinit.exists_of_run subscribedTwiceRun
      (fun s => s.ctx.server.acquiredSession 1 = some 0 ∧
        s.ctx.server.acquiredSession 2 = some 0 ∧ s.ctx.server.pendingSessions = [] ∧
        s.current = [(5, 0), (6, 1)]) (by decide +kernel)
    obtain ⟨hfirst, hsecond, hpending, hcurrent⟩ := of_decide_eq_true htest
    refine ⟨s, hs, hfirst, hsecond, hpending, hcurrent, ?_⟩
    intro howned
    rcases howned.owned (5, 0) (by rw [hcurrent]; exact List.mem_cons_self) with hone | hone
    · exact hone.2 1 hfirst
    · obtain ⟨-, providerId, -, -, -, -, hunique⟩ := hone
      have heq : (1 : EventProviderId) = 2 := (hunique 1 hfirst).trans (hunique 2 hsecond).symm
      exact absurd heq (by decide)

end Runs

end DevDriver.Analysis
