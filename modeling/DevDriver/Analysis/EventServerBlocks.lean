import DevDriver.Analysis.UriServerBlocks
import DevDriver.Model.EventServer

/-!
# The blocks of event sessions

The event server deletes a session through its vector of pending sessions or through the provider
that acquired it, so the block of a session is released as long as one of the two points to the
session.
-/

namespace DevDriver.Analysis

open Library Model EventServer

def acquiredSessions (t : Table EventProviderId EventProvider) : List EventSessionRef :=
  (values t).filterMap (·.pSession)

def sessionReferences (s : EventServer) : List EventSessionRef :=
  s.pendingSessions ++ acquiredSessions s.eventProviders

section Acquired

variable {t : Table EventProviderId EventProvider} {providerId : EventProviderId}
  {provider : EventProvider}

theorem filterMap_pSession_cons (provider : EventProvider) (l : List EventProvider) :
    (provider :: l).filterMap (·.pSession) =
      provider.pSession.toList ++ l.filterMap (·.pSession) := by
  rw [List.filterMap_cons]
  cases provider.pSession with
  | none => rfl
  | some pSession => rfl

theorem acquiredSessions_perm (h : t.lookup providerId = some provider) :
    (acquiredSessions t).Perm
      (provider.pSession.toList ++ acquiredSessions (t.erase providerId)) := by
  rw [acquiredSessions, acquiredSessions, ← filterMap_pSession_cons]
  exact (values_perm_erase h).filterMap _

theorem acquiredSessions_replace_perm (h : t.lookup providerId = some provider)
    (provider' : EventProvider) :
    (acquiredSessions (t.replace providerId provider')).Perm
      (provider'.pSession.toList ++ acquiredSessions (t.erase providerId)) := by
  rw [acquiredSessions, acquiredSessions, ← filterMap_pSession_cons]
  apply List.Perm.filterMap
  apply values_perm_replace
  exact AList.lookup_isSome.mp (by rw [h]; rfl)

theorem acquiredSessions_insert (h : providerId ∉ t) (hnone : provider.pSession = none) :
    acquiredSessions (t.insert providerId provider) = acquiredSessions t := by
  rw [acquiredSessions, acquiredSessions, values_insert h, filterMap_pSession_cons, hnone]
  rfl

end Acquired

/-! ## The server -/

/-- The server points once to each of its sessions, and these have different ids of live protocol
sessions. -/
structure WellFormed (live : List SessionId) (s : EventServer) : Prop where
  nodup : (sessionReferences s).Nodup
  live : ∀ r ∈ sessionReferences s, ∃ id ∈ live, s.sessionId r = some id
  injective : ∀ r ∈ sessionReferences s, ∀ r' ∈ sessionReferences s,
    s.sessionId r = s.sessionId r' → r = r'
  old : ∀ r ∈ sessionReferences s, r < s.nextSession

def EventHolds (s : EventServer) (x : SharedServerBlock) : Prop :=
  ∃ r ∈ sessionReferences s, ∃ session, s.sessions r = some session ∧
    session.pUpdateBlock = some x

/-- The server points to the same sessions as before, and these are the same but for more update
blocks. -/
structure KeepsSessions (s s' : EventServer) : Prop where
  references : (sessionReferences s').Perm (sessionReferences s)
  sessionId : s'.sessionId = s.sessionId
  blocks : ∀ r session x, s.sessions r = some session → session.pUpdateBlock = some x →
    ∃ session', s'.sessions r = some session' ∧ session'.pUpdateBlock = some x
  nextSession : s'.nextSession = s.nextSession

structure DropsSession (r : EventSessionRef) (s s' : EventServer) : Prop where
  references : (sessionReferences s).Perm (r :: sessionReferences s')
  sessions : ∀ r' ≠ r, s'.sessions r' = s.sessions r'
  nextSession : s'.nextSession = s.nextSession

section Server

variable {live live' : List SessionId} {s s' s'' : EventServer} {r : EventSessionRef}
  {session session' : EventServerSession} {x : SharedServerBlock}

theorem WellFormed.length_le (h : WellFormed live s) :
    (sessionReferences s).length ≤ live.length := by
  have hnodup : ((sessionReferences s).map s.sessionId).Nodup :=
    h.nodup.map_on fun r hr r' hr' => h.injective r hr r' hr'
  have hsubset : ((sessionReferences s).map s.sessionId) ⊆ live.map some := by
    intro id hid
    obtain ⟨r, hr, rfl⟩ := List.mem_map.mp hid
    obtain ⟨id, hlive, heq⟩ := h.live r hr
    rw [heq]
    exact List.mem_map_of_mem hlive
  simpa using (hnodup.subperm hsubset).length_le

theorem WellFormed.of_subperm (h : WellFormed live s)
    (hreferences : (sessionReferences s').Subperm (sessionReferences s))
    (hid : ∀ r ∈ sessionReferences s', s'.sessionId r = s.sessionId r)
    (hnext : s'.nextSession = s.nextSession)
    (hlive : ∀ r ∈ sessionReferences s', ∀ id ∈ live, s.sessionId r = some id → id ∈ live') :
    WellFormed live' s' := by
  have hmem : ∀ r ∈ sessionReferences s', r ∈ sessionReferences s :=
    fun r hr => hreferences.subset hr
  have hnodup : (sessionReferences s').Nodup := by
    obtain ⟨l, hperm, hsublist⟩ := hreferences
    exact hperm.nodup_iff.mp (h.nodup.sublist hsublist)
  refine ⟨hnodup, ?_, ?_, ?_⟩
  · intro r hr
    obtain ⟨id, hin, heq⟩ := h.live r (hmem r hr)
    exact ⟨id, hlive r hr id hin heq, (hid r hr).trans heq⟩
  · intro r hr r' hr' heq
    rw [hid r hr, hid r' hr'] at heq
    exact h.injective r (hmem r hr) r' (hmem r' hr') heq
  · intro r hr
    rw [hnext]
    exact h.old r (hmem r hr)

theorem KeepsSessions.refl : KeepsSessions s s :=
  ⟨.refl _, rfl, fun _ session _ hr hx => ⟨session, hr, hx⟩, rfl⟩

theorem KeepsSessions.trans (h : KeepsSessions s s') (h' : KeepsSessions s' s'') :
    KeepsSessions s s'' := by
  refine ⟨h'.references.trans h.references, h'.sessionId.trans h.sessionId, ?_,
    h'.nextSession.trans h.nextSession⟩
  intro r session x hr hx
  obtain ⟨session', hr', hx'⟩ := h.blocks r session x hr hx
  exact h'.blocks r session' x hr' hx'

theorem KeepsSessions.wellFormed (h : KeepsSessions s s') (hs : WellFormed live s) :
    WellFormed live s' :=
  hs.of_subperm h.references.subperm (fun r _ => congrFun h.sessionId r) h.nextSession
    fun _ _ _ hin _ => hin

theorem KeepsSessions.holds (h : KeepsSessions s s') (hx : EventHolds s x) : EventHolds s' x := by
  obtain ⟨r, hr, session, hsession, hblock⟩ := hx
  obtain ⟨session', hsession', hblock'⟩ := h.blocks r session x hsession hblock
  exact ⟨r, h.references.mem_iff.mpr hr, session', hsession', hblock'⟩

theorem DropsSession.mem (h : DropsSession r s s') {r' : EventSessionRef}
    (hr' : r' ∈ sessionReferences s') : r' ∈ sessionReferences s :=
  h.references.mem_iff.mpr (List.mem_cons_of_mem _ hr')

theorem DropsSession.ne (h : DropsSession r s s') (hs : WellFormed live s) {r' : EventSessionRef}
    (hr' : r' ∈ sessionReferences s') : r' ≠ r := by
  rintro rfl
  exact (List.nodup_cons.mp (h.references.nodup_iff.mp hs.nodup)).1 hr'

theorem DropsSession.wellFormed (h : DropsSession r s s') (hs : WellFormed live s)
    (hlive : ∀ id ∈ live, s.sessionId r ≠ some id → id ∈ live') : WellFormed live' s' := by
  apply hs.of_subperm
  · exact ((List.sublist_cons_self r _).subperm).trans h.references.symm.subperm
  · intro r' hr'
    rw [sessionId, sessionId, h.sessions r' (h.ne hs hr')]
  · exact h.nextSession
  · intro r' hr' id hin hid
    apply hlive id hin
    intro heq
    have hmem : r ∈ sessionReferences s := h.references.mem_iff.mpr List.mem_cons_self
    exact h.ne hs hr' (hs.injective r' (h.mem hr') r hmem (hid.trans heq.symm))

theorem DropsSession.holds (h : DropsSession r s s') (hx : EventHolds s x)
    (hne : ∀ session, s.sessions r = some session → session.pUpdateBlock ≠ some x) :
    EventHolds s' x := by
  obtain ⟨r', hr', session, hsession, hblock⟩ := hx
  rcases List.mem_cons.mp (h.references.mem_iff.mp hr') with rfl | hr'
  · exact absurd hblock (hne session hsession)
  · by_cases heq : r' = r
    · subst heq
      exact absurd hblock (hne session hsession)
    · exact ⟨r', hr', session, (h.sessions r' heq).trans hsession, hblock⟩

end Server

section Calls

variable {live : List SessionId} {s : EventServer} {r : EventSessionRef} {id : SessionId}
  {session session' : EventServerSession} {providerId : EventProviderId}
  {provider provider' : EventProvider}

theorem keepsSessions_setSession (h : s.sessions r = some session)
    (hid : session'.sessionId = session.sessionId)
    (hblock : ∀ x, session.pUpdateBlock = some x → session'.pUpdateBlock = some x) :
    KeepsSessions s (s.setSession r session') := by
  refine ⟨.refl _, ?_, ?_, rfl⟩
  · funext r'
    by_cases heq : r' = r
    · subst heq
      simp [sessionId, setSession, h, hid]
    · simp [sessionId, setSession, heq]
  · intro r' before x hr' hx
    by_cases heq : r' = r
    · subst heq
      obtain rfl := Option.some.inj (h.symm.trans hr')
      exact ⟨session', by simp [setSession], hblock x hx⟩
    · exact ⟨before, by simpa [setSession, heq] using hr', hx⟩

theorem sessionReferences_perm (h : s.eventProviders.lookup providerId = some provider) :
    (sessionReferences s).Perm (s.pendingSessions ++
      (provider.pSession.toList ++ acquiredSessions (s.eventProviders.erase providerId))) :=
  (acquiredSessions_perm h).append_left _

theorem sessionReferences_setProvider_perm
    (h : s.eventProviders.lookup providerId = some provider) :
    (sessionReferences (s.setProvider providerId provider')).Perm (s.pendingSessions ++
      (provider'.pSession.toList ++ acquiredSessions (s.eventProviders.erase providerId))) :=
  (acquiredSessions_replace_perm h provider').append_left _

theorem keepsSessions_setProvider (h : s.eventProviders.lookup providerId = some provider)
    (hsession : provider'.pSession = provider.pSession) :
    KeepsSessions s (s.setProvider providerId provider') := by
  refine ⟨?_, rfl, fun _ session _ hr hx => ⟨session, hr, hx⟩, rfl⟩
  apply (sessionReferences_setProvider_perm h).trans
  rw [hsession]
  exact (sessionReferences_perm h).symm

theorem keepsSessions_applyProviderUpdate (update : ProviderUpdateHeader) :
    KeepsSessions s (s.applyProviderUpdate update).2 := by
  unfold applyProviderUpdate
  split
  · exact .refl
  · rename_i provider hlookup
    exact keepsSessions_setProvider hlookup (Eq.refl provider.pSession)

theorem sessions_applyProviderUpdate (update : ProviderUpdateHeader) :
    (s.applyProviderUpdate update).2.sessions = s.sessions := by
  unfold applyProviderUpdate
  split <;> rfl

theorem sessions_applyProviderUpdates (data : List UInt8) :
    (s.applyProviderUpdates data).2.sessions = s.sessions := by
  fun_induction applyProviderUpdates data s with
  | case1 => rfl
  | case2 => rfl
  | case3 _ _ _ _ _ _ _ _ ih => exact ih.trans (sessions_applyProviderUpdate _)
  | case4 => exact sessions_applyProviderUpdate _
  | case5 => rfl

theorem keepsSessions_applyProviderUpdates (data : List UInt8) :
    KeepsSessions s (s.applyProviderUpdates data).2 := by
  fun_induction applyProviderUpdates data s with
  | case1 => exact .refl
  | case2 => exact .refl
  | case3 _ _ _ _ _ _ _ _ ih => exact (keepsSessions_applyProviderUpdate _).trans ih
  | case4 => exact keepsSessions_applyProviderUpdate _
  | case5 => exact .refl

/-! ### Looking up sessions -/

theorem findPendingSessionById_eq_some {index : ℕ}
    (h : s.findPendingSessionById id = some index) :
    ∃ r, s.pendingSessions[index]? = some r ∧ s.sessionId r = some id := by
  obtain ⟨hindex, hid, -⟩ := List.findIdx?_eq_some_iff_getElem.mp h
  exact ⟨s.pendingSessions[index], List.getElem?_eq_getElem hindex, of_decide_eq_true hid⟩

theorem findPendingSessionById_eq_none (h : s.findPendingSessionById id = none) :
    ∀ r ∈ s.pendingSessions, s.sessionId r ≠ some id :=
  fun r hr => of_decide_eq_false (List.findIdx?_eq_none_iff.mp h r hr)

theorem findProviderBySessionId_eq_some
    (h : s.findProviderBySessionId id = some (providerId, r)) :
    ∃ provider, s.eventProviders.lookup providerId = some provider ∧
      provider.pSession = some r ∧ s.sessionId r = some id := by
  obtain ⟨⟨a, provider⟩, hentry, hfound⟩ := List.exists_of_findSome?_eq_some h
  split at hfound
  · cases hfound
  · rename_i pSession hsession
    split at hfound
    · cases hfound
      exact ⟨provider, AList.mem_lookup_iff.mpr hentry, hsession, ‹_›⟩
    · cases hfound

theorem findProviderBySessionId_eq_none (h : s.findProviderBySessionId id = none) :
    ∀ r ∈ acquiredSessions s.eventProviders, s.sessionId r ≠ some id := by
  intro r hr hid
  obtain ⟨provider, hprovider, hsession⟩ := List.mem_filterMap.mp hr
  obtain ⟨⟨a, provider⟩, hentry, rfl⟩ := List.mem_map.mp hprovider
  have hnone := List.findSome?_eq_none_iff.mp h ⟨a, provider⟩ hentry
  rw [hsession] at hnone
  simp [hid] at hnone

theorem mem_acquiredSessions (h : s.eventProviders.lookup providerId = some provider)
    (hsession : provider.pSession = some r) : r ∈ acquiredSessions s.eventProviders := by
  apply List.mem_filterMap.mpr
  exact ⟨provider, mem_values.mpr ⟨providerId, h⟩, hsession⟩

theorem mem_sessionReferences_of_sessionOf (h : s.sessionOf id = some r) :
    r ∈ sessionReferences s := by
  unfold sessionOf at h
  split at h
  · rename_i providerId pSession hfind
    cases h
    obtain ⟨provider, hlookup, hsession, -⟩ := findProviderBySessionId_eq_some hfind
    exact List.mem_append_right _ (mem_acquiredSessions hlookup hsession)
  · obtain ⟨index, -, hindex⟩ := Option.bind_eq_some_iff.mp h
    exact List.mem_append_left _ (List.mem_of_getElem? hindex)

theorem getElem?_findPendingSessionById (hs : WellFormed live s) (hr : r ∈ s.pendingSessions)
    (hsession : s.sessions r = some session) :
    s.pendingSessions[(s.findPendingSessionById session.sessionId).getD 0]? = some r := by
  have hid : s.sessionId r = some session.sessionId := by
    rw [sessionId, hsession]
    rfl
  cases hfind : s.findPendingSessionById session.sessionId with
  | none => exact absurd hid (findPendingSessionById_eq_none hfind r hr)
  | some index =>
    obtain ⟨r', hindex, hid'⟩ := findPendingSessionById_eq_some hfind
    have heq : r' = r := by
      apply hs.injective r' _ r (List.mem_append_left _ hr) (hid'.trans hid.symm)
      exact List.mem_append_left _ (List.mem_of_getElem? hindex)
    rw [Option.getD_some, hindex, heq]

theorem sessionReferences_sessionEstablished_perm (id : SessionId) (s : EventServer) :
    (sessionReferences (s.sessionEstablished id)).Perm
      (s.nextSession :: sessionReferences s) := by
  rw [sessionReferences, sessionEstablished, List.append_assoc]
  exact List.perm_middle

theorem WellFormed.sessions_sessionEstablished (h : WellFormed live s)
    (hr : r ∈ sessionReferences s) (id : SessionId) :
    (s.sessionEstablished id).sessions r = s.sessions r :=
  Function.update_of_ne (Nat.ne_of_lt (h.old r hr)) _ _

theorem sessionId_sessionEstablished :
    (s.sessionEstablished id).sessionId s.nextSession = some id := by
  simp [sessionId, sessionEstablished, EventServerSession.new]

theorem WellFormed.sessionEstablished (h : WellFormed live s) (hid : id ∉ live) :
    WellFormed (live ++ [id]) (s.sessionEstablished id) := by
  have hreferences := sessionReferences_sessionEstablished_perm id s
  have hnew : ∀ r ∈ sessionReferences s, r ≠ s.nextSession :=
    fun r hr => Nat.ne_of_lt (h.old r hr)
  have hsessionId : ∀ r ∈ sessionReferences s,
      (s.sessionEstablished id).sessionId r = s.sessionId r := by
    intro r hr
    rw [sessionId, sessionId, h.sessions_sessionEstablished hr id]
  have hlast : (s.sessionEstablished id).sessionId s.nextSession = some id :=
    sessionId_sessionEstablished
  have hother : ∀ r ∈ sessionReferences s, s.sessionId r ≠ some id := by
    intro r hr heq
    obtain ⟨id', hlive, hid'⟩ := h.live r hr
    obtain rfl := Option.some.inj (heq.symm.trans hid')
    exact hid hlive
  refine ⟨?_, ?_, ?_, ?_⟩
  · rw [hreferences.nodup_iff, List.nodup_cons]
    exact ⟨fun hmem => hnew _ hmem rfl, h.nodup⟩
  · intro r hr
    rcases List.mem_cons.mp (hreferences.mem_iff.mp hr) with rfl | hr
    · exact ⟨id, List.mem_append_right _ (List.mem_singleton_self id), hlast⟩
    · obtain ⟨id', hlive, hid'⟩ := h.live r hr
      exact ⟨id', List.mem_append_left _ hlive, (hsessionId r hr).trans hid'⟩
  · intro r hr r' hr' heq
    rcases List.mem_cons.mp (hreferences.mem_iff.mp hr) with rfl | hr
    · rcases List.mem_cons.mp (hreferences.mem_iff.mp hr') with rfl | hr'
      · rfl
      · exact absurd ((hsessionId r' hr').symm.trans (heq.symm.trans hlast)) (hother r' hr')
    · rcases List.mem_cons.mp (hreferences.mem_iff.mp hr') with rfl | hr'
      · exact absurd ((hsessionId r hr).symm.trans (heq.trans hlast)) (hother r hr)
      · apply h.injective r hr r' hr'
        rwa [hsessionId r hr, hsessionId r' hr'] at heq
  · intro r hr
    rcases List.mem_cons.mp (hreferences.mem_iff.mp hr) with rfl | hr
    · exact Nat.lt_succ_self _
    · exact Nat.lt_succ_of_lt (h.old r hr)

def IsFree (s : EventServer) (providerId : EventProviderId) : Prop :=
  ∃ provider, s.eventProviders.lookup providerId = some provider ∧ provider.pSession = none

theorem keepsSessions_assignSessionToProvider (hs : WellFormed live s)
    (hpending : IsFree s providerId → r ∈ s.pendingSessions) :
    KeepsSessions s (s.assignSessionToProvider r providerId).2 := by
  unfold assignSessionToProvider
  split
  · rename_i provider session hlookup hsession
    split
    · rename_i hfree
      have hindex := getElem?_findPendingSessionById hs (hpending ⟨provider, hlookup, hfree⟩)
        hsession
      have hassigned : KeepsSessions s
          (s.setSession r { session with assignedProviderId := providerId }) :=
        keepsSessions_setSession hsession rfl fun _ hx => hx
      have hid := hassigned.sessionId
      dsimp only
      refine ⟨?_, hid, hassigned.blocks, rfl⟩
      have hfind : findPendingSessionById session.sessionId
          ((s.setProvider providerId { provider with
            pSession := some r, isEnabled := true }).setSession r
            { session with assignedProviderId := providerId }) =
          s.findPendingSessionById session.sessionId := by
        unfold findPendingSessionById
        congr 1
        funext r'
        exact congrArg (fun o => decide (o = some session.sessionId)) (congrFun hid r')
      rw [hfind]
      have hproviders := acquiredSessions_replace_perm hlookup
        { provider with pSession := some r, isEnabled := true }
      have hbefore := sessionReferences_perm hlookup
      rw [hfree] at hbefore
      apply (hproviders.append_left _).trans
      apply List.Perm.trans _ hbefore.symm
      apply List.perm_middle.trans
      exact ((vectorRemove_perm hindex).append_right _).symm
    · exact .refl
  · exact .refl

theorem keepsSessions_unassign
    (hnone : ∀ provider, s.eventProviders.lookup providerId = some provider →
      provider.pSession = none) :
    KeepsSessions s (s.unassignSessionFromProvider providerId) := by
  unfold unassignSessionFromProvider
  split
  · exact .refl
  · rename_i provider hlookup
    exact keepsSessions_setProvider hlookup (hnone provider hlookup).symm

theorem sessions_unassign :
    (s.unassignSessionFromProvider providerId).sessions = s.sessions := by
  unfold unassignSessionFromProvider
  split <;> rfl

theorem nextSession_unassign :
    (s.unassignSessionFromProvider providerId).nextSession = s.nextSession := by
  unfold unassignSessionFromProvider
  split <;> rfl

theorem sessionReferences_unassign_perm
    (h : s.eventProviders.lookup providerId = some provider)
    (hsession : provider.pSession = some r) :
    (sessionReferences s).Perm
      (r :: sessionReferences (s.unassignSessionFromProvider providerId)) := by
  have hunassign : s.unassignSessionFromProvider providerId = s.setProvider providerId
      { provider with pSession := none, isEnabled := false } := by
    simp only [unassignSessionFromProvider, h]
  have hbefore := sessionReferences_perm h
  have hafter : (sessionReferences (s.setProvider providerId
      { provider with pSession := none, isEnabled := false })).Perm
      (s.pendingSessions ++ acquiredSessions (s.eventProviders.erase providerId)) :=
    sessionReferences_setProvider_perm h
  rw [hsession] at hbefore
  rw [hunassign]
  apply hbefore.trans
  apply List.perm_middle.trans
  exact hafter.symm.cons r

end Calls

/-! ## Calls -/

/-- The blocks are owned, those that others hold and those of the sessions that the server points
to. -/
structure EventOwned (prior : List SharedServerBlock) (others : SharedServerBlock → Prop)
    (live : List SessionId) (c : EventCtx) : Prop where
  blocks : Owned prior (fun x => others x ∨ EventHolds c.server x) c.blocks
  wellFormed : WellFormed live c.server

/-- The provider that a session unsubscribes from has a session with an update block. -/
def AbandonsBlock (s : EventServer) (session : EventServerSession) : Prop :=
  0 < session.assignedProviderId ∧ ∃ provider r acquired x,
    s.eventProviders.lookup session.assignedProviderId = some provider ∧
    provider.pSession = some r ∧ s.sessions r = some acquired ∧ acquired.pUpdateBlock = some x

/-- An update of an event session that opens no block for a query, that takes nobody else out of
the pending sessions, and that abandons no update block. -/
def KeepsEventBlocks (id : SessionId) (c : EventCtx) : Prop :=
  ∀ r session, c.server.sessionOf id = some r → c.server.sessions r = some session →
    session.state = .processPayload →
    match session.payloadContainer.eventCommand with
    | .queryProvidersRequest => c.blocks.openServerBlock.1 = none
    | .subscribeToProviderRequest =>
      IsFree c.server session.payloadContainer.subscribeProviderId → r ∈ c.server.pendingSessions
    | .unsubscribeFromProviderRequest => ¬ AbandonsBlock c.server session
    | _ => True

section Contexts

variable {prior : List SharedServerBlock} {others : SharedServerBlock → Prop}
  {live live' : List SessionId} {c c' : EventCtx} {r : EventSessionRef} {id : SessionId}
  {session : EventServerSession}

section

variable (h : EventOwned prior others live c)

include h

theorem EventOwned.keeps (hblocks : c'.blocks = c.blocks)
    (hkeeps : KeepsSessions c.server c'.server) : EventOwned prior others live c' := by
  refine ⟨?_, hkeeps.wellFormed h.wellFormed⟩
  rw [hblocks]
  apply h.blocks.mono
  rintro x (hx | hx)
  · exact .inl hx
  · exact .inr (hkeeps.holds hx)

theorem EventOwned.setSession
    (hsession : c.server.sessions r = some session) {session' : EventServerSession}
    (hid : session'.sessionId = session.sessionId)
    (hblock : session'.pUpdateBlock = session.pUpdateBlock) :
    EventOwned prior others live (c.setSession r session') :=
  h.keeps rfl (keepsSessions_setSession hsession hid fun _ hx => hblock.trans hx)

theorem EventOwned.respond (hsession : c.server.sessions r = some session) (data : List UInt8) :
    EventOwned prior others live (c.respond r session data) :=
  h.setSession hsession rfl rfl

theorem EventOwned.handleQueryProvidersRequest
    (hsession : c.server.sessions r = some session) (hnone : c.blocks.openServerBlock.1 = none) :
    EventOwned prior others live (c.handleQueryProvidersRequest r session) := by
  have hbuilt : EventOwned prior others live c.buildQueryProvidersResponse.2.2 ∧
      c.buildQueryProvidersResponse.2.2.server = c.server := by
    unfold EventCtx.buildQueryProvidersResponse
    split
    · rename_i blocks hopen
      exact ⟨⟨h.blocks.openServerBlock_none hopen, h.wellFormed⟩, rfl⟩
    · rename_i hopen
      rw [hopen] at hnone
      cases hnone
  apply hbuilt.1.respond
  rw [hbuilt.2]
  exact hsession

theorem EventOwned.handleAllocateProviderUpdatesRequest
    (hr : r ∈ sessionReferences c.server) (hsession : c.server.sessions r = some session) :
    EventOwned prior others live (c.handleAllocateProviderUpdatesRequest r session) := by
  unfold EventCtx.handleAllocateProviderUpdatesRequest
  split
  · exact h.respond hsession _
  · rename_i hblock
    split
    · rename_i blocks hopen
      have hopened : EventOwned prior others live { c with blocks := blocks } :=
        ⟨h.blocks.openServerBlock_none hopen, h.wellFormed⟩
      exact hopened.respond hsession _
    · rename_i block blocks hopen
      have hkeeps : KeepsSessions c.server (c.server.setSession r
          { session with
            pUpdateBlock := some block
            payloadContainer := session.payloadContainer.fill
              (allocateProviderUpdatesResponse .success block.id)
            state := .sendPayload }) := by
        refine keepsSessions_setSession hsession rfl fun x hx => ?_
        rw [hblock] at hx
        cases hx
      refine ⟨?_, hkeeps.wellFormed h.wellFormed⟩
      apply h.blocks.openServerBlock hopen
      · rintro x (hx | hx)
        · exact .inl hx
        · exact .inr (hkeeps.holds hx)
      · right
        exact ⟨r, hr, _, Function.update_self _ _ _, rfl⟩

theorem EventOwned.handleApplyProviderUpdatesRequest
    (hsession : c.server.sessions r = some session) :
    EventOwned prior others live (c.handleApplyProviderUpdatesRequest r session) := by
  unfold EventCtx.handleApplyProviderUpdatesRequest
  split
  · exact h.respond hsession _
  · rename_i block hblock
    apply EventOwned.respond
    · have hkeeps := keepsSessions_applyProviderUpdates (s := c.server)
        (c.blocks.manager.blocks block.resource).data
      refine ⟨?_, hkeeps.wellFormed h.wellFormed⟩
      apply Owned.onBlock
      apply h.blocks.mono
      rintro x (hx | hx)
      · exact .inl hx
      · exact .inr (hkeeps.holds hx)
    · exact (congrFun (sessions_applyProviderUpdates _) r).trans hsession

theorem EventOwned.handleSubscribeToProviderRequest
    (hpending : IsFree c.server session.payloadContainer.subscribeProviderId →
      r ∈ c.server.pendingSessions) :
    EventOwned prior others live (c.handleSubscribeToProviderRequest r session) := by
  unfold EventCtx.handleSubscribeToProviderRequest
  dsimp only
  split
  · exact h
  · apply EventOwned.respond _ ‹_›
    exact h.keeps rfl (keepsSessions_assignSessionToProvider h.wellFormed hpending)

theorem EventOwned.drops (hsession : c.server.sessions r = some session)
    (hblocks : c'.blocks = c.blocks.closeServerBlock session.pUpdateBlock)
    (hdrops : DropsSession r c.server c'.server)
    (hlive : ∀ id ∈ live, c.server.sessionId r ≠ some id → id ∈ live') :
    EventOwned prior others live' c' := by
  refine ⟨?_, hdrops.wellFormed h.wellFormed hlive⟩
  rw [hblocks]
  apply h.blocks.closeServerBlock
  rintro x (hx | hx) hne
  · exact .inl hx
  · right
    apply hdrops.holds hx
    intro session' hsession' hblock
    obtain rfl := Option.some.inj (hsession.symm.trans hsession')
    exact hne hblock.symm

theorem EventOwned.unassign
    (hassigned : 0 < session.assignedProviderId) (hkeeps : ¬ AbandonsBlock c.server session) :
    EventOwned prior others live { c with
      server := c.server.unassignSessionFromProvider session.assignedProviderId } := by
  by_cases hacquired : ∃ provider r,
      c.server.eventProviders.lookup session.assignedProviderId = some provider ∧
      provider.pSession = some r
  · obtain ⟨provider, r, hlookup, hprovider⟩ := hacquired
    have hr : r ∈ sessionReferences c.server :=
      List.mem_append_right _ (mem_acquiredSessions hlookup hprovider)
    obtain ⟨id, -, hid⟩ := h.wellFormed.live r hr
    obtain ⟨acquired, hsession, -⟩ := Option.map_eq_some_iff.mp hid
    have hnone : acquired.pUpdateBlock = none := by
      by_contra hblock
      obtain ⟨x, hx⟩ := Option.ne_none_iff_exists'.mp hblock
      exact hkeeps ⟨hassigned, provider, r, acquired, x, hlookup, hprovider, hsession, hx⟩
    apply h.drops hsession
    · rw [hnone]
      rfl
    · exact ⟨sessionReferences_unassign_perm hlookup hprovider,
        fun r' _ => congrFun sessions_unassign r', nextSession_unassign⟩
    · exact fun _ hlive _ => hlive
  · refine h.keeps rfl (keepsSessions_unassign ?_)
    intro provider hlookup
    by_contra hprovider
    obtain ⟨r, hr⟩ := Option.ne_none_iff_exists'.mp hprovider
    exact hacquired ⟨provider, r, hlookup, hr⟩

theorem EventOwned.handleUnsubscribeFromProviderRequest
    (hsession : c.server.sessions r = some session)
    (hkeeps : ¬ AbandonsBlock c.server session) :
    EventOwned prior others live (c.handleUnsubscribeFromProviderRequest r session) := by
  unfold EventCtx.handleUnsubscribeFromProviderRequest
  split
  · rename_i hassigned
    have hserver : EventOwned prior others live { c with
        server := c.server.unassignSessionFromProvider session.assignedProviderId } :=
      h.unassign hassigned hkeeps
    exact hserver.setSession ((congrFun sessions_unassign r).trans hsession) rfl rfl
  · exact h.setSession hsession rfl rfl

theorem EventOwned.processPayload
    (hr : c.server.sessionOf id = some r) (hsession : c.server.sessions r = some session)
    (hstate : session.state = .processPayload) (hkeeps : KeepsEventBlocks id c) :
    EventOwned prior others live (c.processPayload r session) := by
  have hcommand := hkeeps r session hr hsession hstate
  unfold EventCtx.processPayload
  split
  · rename_i hquery
    rw [hquery] at hcommand
    exact h.handleQueryProvidersRequest hsession hcommand
  · exact h.handleAllocateProviderUpdatesRequest (mem_sessionReferences_of_sessionOf hr) hsession
  · exact h.handleApplyProviderUpdatesRequest hsession
  · rename_i hsubscribe
    rw [hsubscribe] at hcommand
    exact h.handleSubscribeToProviderRequest hcommand
  · rename_i hunsubscribe
    rw [hunsubscribe] at hcommand
    exact h.handleUnsubscribeFromProviderRequest hsession hcommand
  · exact h

theorem EventOwned.updateEventSession
    (hr : c.server.sessionOf id = some r) (hkeeps : KeepsEventBlocks id c) :
    EventOwned prior others live (c.updateEventSession r) := by
  unfold EventCtx.updateEventSession
  split
  · exact h
  · rename_i session hsession
    split
    · have hreceive : c.receive.2.blocks = c.blocks ∧ c.receive.2.server = c.server := by
        unfold EventCtx.receive
        split <;> exact ⟨rfl, rfl⟩
      have hreceived : EventOwned prior others live c.receive.2 := by
        apply h.keeps hreceive.1
        rw [hreceive.2]
        exact .refl
      split
      · rename_i hanswer
        rw [hanswer] at hreceived
        exact hreceived
      · rename_i hanswer
        rw [hanswer] at hreceived hreceive
        rw [← hreceive.2] at hsession
        exact hreceived.setSession hsession rfl rfl
    · exact h.processPayload hr hsession ‹_› hkeeps
    · have hsend : ∀ payload, (c.send payload).2.blocks = c.blocks ∧
          (c.send payload).2.server = c.server := by
        intro payload
        unfold EventCtx.send
        split <;> exact ⟨rfl, rfl⟩
      dsimp only
      obtain ⟨hblocks, hserver⟩ := hsend
        (readBytes session.payloadContainer.payloadSize session.payloadContainer.payload)
      have hsent := h.keeps hblocks (by rw [hserver]; exact .refl)
      split
      · rw [← hserver] at hsession
        exact hsent.setSession hsession rfl rfl
      · exact hsent

theorem EventOwned.updateSession
    (hkeeps : KeepsEventBlocks id c) : EventOwned prior others live (c.updateSession id) := by
  unfold EventCtx.updateSession
  split
  · exact h.updateEventSession ‹_› hkeeps
  · unfold EventCtx.send
    split <;> exact h.keeps rfl .refl

/-! ### Sessions that come and go -/

theorem EventOwned.sessionEstablished (hid : id ∉ live) :
    EventOwned prior others (live ++ [id])
      { c with server := c.server.sessionEstablished id } := by
  refine ⟨h.blocks.mono ?_, h.wellFormed.sessionEstablished hid⟩
  rintro x (hx | ⟨r, hr, session, hsession, hblock⟩)
  · exact .inl hx
  · right
    have hmem := (sessionReferences_sessionEstablished_perm id c.server).mem_iff.mpr
      (List.mem_cons_of_mem c.server.nextSession hr)
    exact ⟨r, hmem, session, (h.wellFormed.sessions_sessionEstablished hr id).trans hsession,
      hblock⟩

theorem EventOwned.deleteSession (hr : r ∈ sessionReferences c.server)
    (hblocks : c'.blocks = (c.deleteSession r).blocks)
    (hreferences : (sessionReferences c.server).Perm (r :: sessionReferences c'.server))
    (hsessions : c'.server.sessions = (c.deleteSession r).server.sessions)
    (hnext : c'.server.nextSession = c.server.nextSession)
    (hlive : ∀ id ∈ live, c.server.sessionId r ≠ some id → id ∈ live') :
    EventOwned prior others live' c' := by
  obtain ⟨id, -, hid⟩ := h.wellFormed.live r hr
  obtain ⟨session, hsession, -⟩ := Option.map_eq_some_iff.mp hid
  simp only [EventCtx.deleteSession, hsession] at hblocks hsessions
  apply h.drops hsession hblocks _ hlive
  refine ⟨hreferences, fun r' hne => ?_, hnext⟩
  rw [hsessions]
  exact Function.update_of_ne hne _ _

end

theorem pendingSessions_deleteSession :
    (c.deleteSession r).server.pendingSessions = c.server.pendingSessions := by
  unfold EventCtx.deleteSession
  split <;> rfl

theorem eventProviders_deleteSession :
    (c.deleteSession r).server.eventProviders = c.server.eventProviders := by
  unfold EventCtx.deleteSession
  split <;> rfl

theorem nextSession_deleteSession :
    (c.deleteSession r).server.nextSession = c.server.nextSession := by
  unfold EventCtx.deleteSession
  split <;> rfl

theorem EventOwned.sessionTerminated (h : EventOwned prior others live c) :
    EventOwned prior others (live.erase id) (c.sessionTerminated id) := by
  have hothers : ∀ {r}, c.server.sessionId r = some id →
      ∀ id' ∈ live, c.server.sessionId r ≠ some id' → id' ∈ live.erase id := by
    intro r hr id' hid' hne
    refine (List.mem_erase_of_ne ?_).mpr hid'
    rintro rfl
    exact hne hr
  unfold EventCtx.sessionTerminated
  split
  · rename_i index hfind
    obtain ⟨r, hindex, hid⟩ := findPendingSessionById_eq_some hfind
    have hr : r ∈ sessionReferences c.server :=
      List.mem_append_left _ (List.mem_of_getElem? hindex)
    simp only [hindex]
    refine h.deleteSession hr rfl ?_ rfl nextSession_deleteSession (hothers hid)
    rw [sessionReferences, sessionReferences, pendingSessions_deleteSession,
      eventProviders_deleteSession]
    exact (vectorRemove_perm hindex).append_right _
  · rename_i hpending
    split
    · rename_i hacquired
      refine ⟨h.blocks, ?_⟩
      apply h.wellFormed.of_subperm (.refl _) (fun _ _ => rfl) rfl
      intro r hr id' hid' hsession
      refine (List.mem_erase_of_ne ?_).mpr hid'
      rintro rfl
      rcases List.mem_append.mp hr with hr | hr
      · exact findPendingSessionById_eq_none hpending r hr hsession
      · exact findProviderBySessionId_eq_none hacquired r hr hsession
    · rename_i providerId r hfind
      obtain ⟨provider, hlookup, hprovider, hid⟩ := findProviderBySessionId_eq_some hfind
      have hr : r ∈ sessionReferences c.server :=
        List.mem_append_right _ (mem_acquiredSessions hlookup hprovider)
      refine h.deleteSession hr rfl ?_ sessions_unassign
        (nextSession_unassign.trans nextSession_deleteSession) (hothers hid)
      have hafter := sessionReferences_unassign_perm
        (s := (c.deleteSession r).server) (eventProviders_deleteSession ▸ hlookup) hprovider
      rw [sessionReferences, pendingSessions_deleteSession, eventProviders_deleteSession] at hafter
      exact hafter

theorem EventOwned.unregisterProvider (h : EventOwned prior others live c)
    (providerId : EventProviderId) :
    EventOwned prior others live (c.unregisterProvider providerId).2 := by
  unfold EventCtx.unregisterProvider
  split
  · exact h
  · rename_i provider hlookup
    have hbefore := sessionReferences_perm hlookup
    dsimp only
    split
    · rename_i hprovider
      rw [hprovider] at hbefore
      refine h.keeps rfl ?_
      exact ⟨hbefore.symm, rfl, fun _ session _ hr hx => ⟨session, hr, hx⟩, rfl⟩
    · rename_i r hprovider
      rw [hprovider] at hbefore
      have hr : r ∈ sessionReferences c.server :=
        List.mem_append_right _ (mem_acquiredSessions hlookup hprovider)
      refine h.deleteSession hr rfl ?_ rfl nextSession_deleteSession fun _ hlive _ => hlive
      apply hbefore.trans
      rw [sessionReferences, pendingSessions_deleteSession, eventProviders_deleteSession]
      exact List.perm_middle

theorem keepsSessions_registerProvider {s : EventServer} (providerId : EventProviderId)
    (provider : EventProvider) :
    KeepsSessions s (s.registerProvider providerId provider).2 := by
  unfold registerProvider
  split
  · exact .refl
  · rename_i hnew
    refine ⟨?_, rfl, fun _ session _ hr hx => ⟨session, hr, hx⟩, rfl⟩
    rw [sessionReferences, acquiredSessions_insert hnew rfl]
    exact .refl _

end Contexts

end DevDriver.Analysis
