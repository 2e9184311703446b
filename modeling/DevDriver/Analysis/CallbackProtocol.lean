import DevDriver.Analysis.CallbackInvariant

/-!
# The callback protocol

Over every run of a manager, each session calls its protocol server in order.
-/

namespace DevDriver.Analysis

open Library Model

variable {ρ : Type}

structure LoopInv (history : List Callback) (s : SessionManager ρ) (l : List Entry)
    (c : ManagerCtx ρ) : Prop where
  progress : Progress history s c
  remaining : ∀ entry ∈ l, c.manager.sessions.lookup entry.1 = some entry.2
  nodup : (l.map (·.1)).Nodup

variable {history : List Callback} {s : SessionManager ρ} {c : ManagerCtx ρ}

theorem LoopInv.start (h : Progress history s c) : LoopInv history s c.manager.sessions.entries c :=
  ⟨h, fun _ he => AList.mem_lookup_iff.mpr he, c.manager.sessions.nodupKeys⟩

theorem LoopInv.step {entry : Entry} {l : List Entry} {c' : ManagerCtx ρ}
    (h : LoopInv history s (entry :: l) c) (hprogress : Progress history s c')
    (hsessions : c'.manager.sessions = c.manager.sessions) : LoopInv history s l c' := by
  refine ⟨hprogress, ?_, (List.nodup_cons.mp h.nodup).2⟩
  intro e he
  rw [hsessions]
  exact h.remaining e (List.mem_cons_of_mem _ he)

theorem LoopInv.mem_values {entry : Entry} {l : List Entry} (h : LoopInv history s (entry :: l) c) :
    entry.2 ∈ values c.manager.sessions :=
  Library.mem_values.mpr ⟨entry.1, h.remaining entry List.mem_cons_self⟩

section Steps

variable [RoundTripTime ρ]

variable {history : List Callback} {s : SessionManager ρ} {c : ManagerCtx ρ}

theorem loopInv_updateSession {entry : Entry} {l : List Entry} (env : ManagerEnv)
    (h : LoopInv history s (entry :: l) c) : LoopInv history s l (updateSession env entry c) := by
  have hmem := h.mem_values
  have hc := h.progress.inv.consistent entry.2
  have hserved := h.progress.served hmem
  have hupdate := h.progress.onSession
    (behaves_update entry.2 (env.lastReference entry.2) (env.calls entry.2) hc hserved)
    (.inl hmem)
  set c' := c.onSession entry.2
    (update entry.2 (env.lastReference entry.2) (env.calls entry.2)) with hc'
  have hstep : LoopInv history s l c' := h.step hupdate rfl
  dsimp only [updateSession]
  split
  · rename_i hclosed
    have hobject := objects_onSession entry.2
      (update entry.2 (env.lastReference entry.2) (env.calls entry.2)) c
    have hlast : (c'.manager.objects entry.2).callbackState ≠ .establishedCalled := by
      rw [← hc', hobject] at hclosed
      rw [hc', hobject]
      exact terminated_update hc hserved hclosed
    have hlookup : c'.manager.sessions.lookup entry.1 = some entry.2 :=
      h.remaining entry List.mem_cons_self
    refine ⟨hupdate.removeEntry hlookup hlast, ?_, hstep.nodup⟩
    intro e he
    have hne : e.1 ≠ entry.1 := by
      intro heq
      have hmem : e.1 ∈ l.map (·.1) := List.mem_map_of_mem he
      rw [heq] at hmem
      exact (List.nodup_cons.mp h.nodup).1 hmem
    exact (AList.lookup_erase_ne hne).trans (hstep.remaining e he)
  · exact hstep

theorem progress_updateSessions (env : ManagerEnv) (h : Progress history s c) :
    Progress history s (updateSessions env c) := by
  have hloop : ∀ (l : List Entry) (c : ManagerCtx ρ), LoopInv history s l c →
      Progress history s (l.foldl (fun c entry => updateSession env entry c) c) := by
    intro l
    induction l with
    | nil => exact fun c h => h.progress
    | cons entry l ih => exact fun c h => ih _ (loopInv_updateSession env h)
  exact hloop _ c (.start h)

omit [RoundTripTime ρ] in
theorem progress_handleClientDisconnection (dstClientId : ClientId) (h : Progress history s c) :
    Progress history s (handleClientDisconnection dstClientId c) := by
  rw [handleClientDisconnection_eq]
  generalize c.manager.sessions.entries = l
  induction l generalizing c with
  | nil => exact h
  | cons entry l ih =>
    refine ih ?_
    unfold disconnectEntry
    split
    · exact h.winds (winds_shutdown .notReady _)
    · exact h

/-! ## Unregistering a protocol server -/

def Unneeded (protocol : Protocol) (c : ManagerCtx ρ) (r : SessionRef) : Prop :=
  (c.manager.objects r).protocol = protocol → ¬ NeedsServer (c.manager.objects r)

omit [RoundTripTime ρ] in
theorem progress_unregisterEntry {server registered : ProtocolServer} (h : Progress history s c)
    {entry : Entry} (hmem : entry.2 ∈ values c.manager.sessions)
    (hregistered : s.protocolServers server.protocol = some registered)
    (hsame : registered.pServer = server.pServer) :
    Progress history s (unregisterEntry server c entry) ∧
      Unneeded server.protocol (unregisterEntry server c entry) entry.2 ∧
      ∀ r, Unneeded server.protocol c r →
        Unneeded server.protocol (unregisterEntry server c entry) r := by
  unfold unregisterEntry
  split
  · rename_i hentry
    obtain ⟨htype, hprotocol⟩ := hentry
    have hserver : c.fx.protocolServer (c.manager.objects entry.2).protocol =
        some server.pServer := by
      rw [h.protocolServer, hprotocol]
      exact Option.map_eq_some_iff.mpr ⟨registered, hregistered, hsame⟩
    obtain ⟨hcalls, hwinding, hlast⟩ := behaves_handleUnregisterProtocolServer
      entry.2 (c := ⟨c.manager.objects entry.2, c.fx⟩) server.protocol hserver
    have hunneeded : ¬ NeedsServer (handleUnregisterProtocolServer entry.2 server.pServer
        server.protocol ⟨c.manager.objects entry.2, c.fx⟩).session := by
      intro hneeds
      rcases hneeds.state with hstate | hcallback
      · rw [hstate] at hwinding
        exact hwinding
      · exact hlast hcallback
    have hbehaves : Behaves entry.2 ⟨c.manager.objects entry.2, c.fx⟩
        (handleUnregisterProtocolServer entry.2 server.pServer server.protocol
          ⟨c.manager.objects entry.2, c.fx⟩) :=
      ⟨hcalls, consistent_of_winding (hcalls.sessionType.trans htype) hwinding,
        fun hneeds => absurd hneeds hunneeded⟩
    have hself : Unneeded server.protocol (c.onSession entry.2 (handleUnregisterProtocolServer
        entry.2 server.pServer server.protocol)) entry.2 := by
      rw [Unneeded, objects_onSession]
      exact fun _ => hunneeded
    refine ⟨h.onSession hbehaves (.inl hmem), hself, fun r hr => ?_⟩
    rcases eq_or_ne r entry.2 with rfl | hne
    · exact hself
    · have hother : (c.onSession entry.2 (handleUnregisterProtocolServer entry.2 server.pServer
          server.protocol)).manager.objects r = c.manager.objects r := Function.update_of_ne hne _ _
      rw [Unneeded, hother]
      exact hr
  · rename_i hentry
    refine ⟨h, ?_, fun r hr => hr⟩
    intro hprotocol hneeds
    exact hentry ⟨hneeds.sessionType, hprotocol⟩

omit [RoundTripTime ρ] in
theorem progress_unregisterEntries {server registered : ProtocolServer}
    (hregistered : s.protocolServers server.protocol = some registered)
    (hsame : registered.pServer = server.pServer) (l : List Entry) (h : Progress history s c)
    (hmem : ∀ entry ∈ l, entry.2 ∈ values c.manager.sessions) :
    Progress history s (l.foldl (unregisterEntry server) c) ∧
      (l.foldl (unregisterEntry server) c).manager.sessions = c.manager.sessions ∧
      ∀ r, (∃ entry ∈ l, entry.2 = r) ∨ Unneeded server.protocol c r →
        Unneeded server.protocol (l.foldl (unregisterEntry server) c) r := by
  induction l generalizing c with
  | nil => exact ⟨h, rfl, fun r hr => hr.resolve_left (by simp)⟩
  | cons entry l ih =>
    obtain ⟨hone, hself, hothers⟩ := progress_unregisterEntry h
      (hmem entry List.mem_cons_self) hregistered hsame
    have hsessions : (unregisterEntry server c entry).manager.sessions = c.manager.sessions := by
      unfold unregisterEntry
      split <;> rfl
    obtain ⟨hall, htable, hunneeded⟩ := ih hone fun e he => by
      rw [hsessions]
      exact hmem e (List.mem_cons_of_mem _ he)
    refine ⟨hall, htable.trans hsessions, fun r hr => hunneeded r ?_⟩
    rcases hr with ⟨e, he, rfl⟩ | hr
    · rcases List.mem_cons.mp he with rfl | he
      · exact .inr hself
      · exact .inl ⟨e, he, rfl⟩
    · exact .inr (hothers r hr)

omit [RoundTripTime ρ] in
theorem callbackInv_unregister
    (h : CallbackInv history s) (env : ManagerEnv) (server : ProtocolServer)
    (hserver : ∀ registered, s.protocolServers server.protocol = some registered →
      registered.pServer = server.pServer) :
    CallbackInv (history ++ (unregisterProtocolServer server (env.start s)).fx.callbacks)
        (unregisterProtocolServer server (env.start s)).manager ∧
      ∀ cb ∈ (unregisterProtocolServer server (env.start s)).fx.callbacks, Registered s cb := by
  have hstart := h.progress env
  cases hregistered : s.protocolServers server.protocol with
  | none =>
    have hnothing : unregisterProtocolServer server (env.start s) = env.start s :=
      if_neg (by
        change ¬ (s.protocolServers server.protocol).isSome = true
        rw [hregistered]
        decide)
    rw [hnothing]
    exact ⟨hstart.inv, hstart.registered⟩
  | some registered =>
    have hloop : unregisterProtocolServer server (env.start s) = withoutServer server.protocol
        (s.sessions.entries.foldl (unregisterEntry server) (env.start s)) :=
      if_pos (by
        change (s.protocolServers server.protocol).isSome = true
        rw [hregistered]
        rfl)
    obtain ⟨hall, htable, hunneeded⟩ := progress_unregisterEntries hregistered
      (hserver registered hregistered) s.sessions.entries hstart
      fun e he => List.mem_map.mpr ⟨e, he, rfl⟩
    rw [hloop]
    generalize s.sessions.entries.foldl (unregisterEntry server) (env.start s) = c
      at hall htable hunneeded ⊢
    refine ⟨⟨hall.inv.phase, hall.inv.consistent, hall.inv.filed, ?_, hall.inv.fresh,
      hall.inv.created, ?_⟩, hall.registered⟩
    · intro r hr hneeds
      have hprocessed : Unneeded server.protocol c r := by
        refine hunneeded r (.inl ?_)
        have hr : r ∈ values s.sessions := htable ▸ hr
        exact List.mem_map.mp hr
      have hne : (c.manager.objects r).protocol ≠ server.protocol := fun hprotocol =>
        hprocessed hprotocol hneeds
      obtain ⟨other, hother⟩ := hall.inv.served r hr hneeds
      exact ⟨other, (Function.update_of_ne hne _ _).trans hother⟩
    · intro protocol other hother
      have hother : Function.update c.manager.protocolServers server.protocol none protocol =
          some other := hother
      rcases eq_or_ne protocol server.protocol with rfl | hne
      · rw [Function.update_self] at hother
        cases hother
      · rw [Function.update_of_ne hne] at hother
        exact hall.inv.protocols protocol other hother

omit [RoundTripTime ρ] in
theorem callbackInv_admitSession {m : SessionManager ρ} (h : CallbackInv history m) {s : Session ρ}
    (hs : Consistent s) (hcallback : s.callbackState = .none)
    (hserved : NeedsServer s → ∃ server, m.protocolServers s.protocol = some server)
    (lastSessionId : UInt32) {sessions : SessionTable} (hsessions : FiledOrNot s m sessions) :
    CallbackInv history (admitSession s lastSessionId sessions m) := by
  have hself : (admitSession s lastSessionId sessions m).objects m.nextSession = s :=
    Function.update_self _ _ _
  have hothers : ∀ r, r ≠ m.nextSession →
      (admitSession s lastSessionId sessions m).objects r = m.objects r :=
    fun r hne => Function.update_of_ne hne _ _
  refine ⟨?_, ?_, ?_, ?_, ?_, created_admitSession h.created _ hsessions, h.protocols⟩
  · intro r
    rcases eq_or_ne r m.nextSession with rfl | hne
    · rw [hself, hcallback, h.phase, h.fresh _ le_rfl]
    · rw [hothers r hne]
      exact h.phase r
  · intro r
    rcases eq_or_ne r m.nextSession with rfl | hne
    · rw [hself]
      exact hs
    · rw [hothers r hne]
      exact h.consistent r
  · intro r hr
    rcases eq_or_ne r m.nextSession with rfl | hne
    · rw [hself, hcallback] at hr
      cases hr
    · rw [hothers r hne] at hr
      obtain ⟨id, hid⟩ := mem_values.mp (h.filed r hr)
      exact mem_values.mpr ⟨id, hsessions.lookup_of_old hid⟩
  · intro r hr hneeds
    rcases eq_or_ne r m.nextSession with rfl | hne
    · rw [hself] at hneeds ⊢
      exact hserved hneeds
    · rw [hothers r hne] at hneeds ⊢
      obtain ⟨id, hid⟩ := mem_values.mp hr
      rcases hsessions.lookup hid with hold | ⟨-, heq⟩
      · exact h.served r (mem_values.mpr ⟨id, hold⟩) hneeds
      · exact absurd heq hne
  · intro r hr
    have hlt : m.nextSession < r := hr
    rw [hothers r hlt.ne']
    exact h.fresh r hlt.le

omit [RoundTripTime ρ] in
theorem ClientOnly.consistent {s : Session ρ} (hs : ClientOnly s) : Consistent s := by
  have hclient : s.sessionType ≠ .server := by
    rw [hs.sessionType]
    decide
  exact ⟨fun _ => hs.callbackState, fun h => absurd h hclient, fun _ => hs.callbackState,
    fun h => absurd h hclient⟩

omit [RoundTripTime ρ] in
theorem Unbound.consistent {s : Session ρ} (hs : Unbound s) : Consistent s :=
  consistent_of_winding hs.sessionType (by rw [hs.state]; trivial)

/-! ## Steps -/

/-- No SynAck takes an established server session out of the table without filing it again, and
`UnregisterProtocolServer` is given the protocol server that is registered. -/
structure EndsOrderly (s : SessionManager ρ) (a : ManagerAction × ManagerEnv) : Prop where
  notLost : ∀ m pSession, a.1 = .handleReceivedSessionMessage m → m.kind = .synAck →
    s.sessions.lookup m.header.sessionId = none →
    s.sessions.lookup (initialSessionId m) = some pSession → a.2.allocEntry = false →
    (s.objects pSession).callbackState ≠ .establishedCalled
  registered : ∀ server registered, a.1 = .unregisterProtocolServer server →
    s.protocolServers server.protocol = some registered → registered.pServer = server.pServer

def endsOrderly (s : SessionManager ρ) (a : ManagerAction × ManagerEnv) : Bool :=
  match a.1 with
  | .handleReceivedSessionMessage m =>
    (m.kind = .synAck ∧ s.sessions.lookup m.header.sessionId = none ∧ a.2.allocEntry = false) →
      (s.sessions.lookup (initialSessionId m)).all fun pSession =>
        (s.objects pSession).callbackState ≠ .establishedCalled
  | .unregisterProtocolServer server =>
    (s.protocolServers server.protocol).all fun registered => registered.pServer = server.pServer
  | _ => true

omit [RoundTripTime ρ] in
theorem endsOrderly_of_test {a : ManagerAction × ManagerEnv}
    (h : endsOrderly s a = true) : EndsOrderly s a := by
  unfold endsOrderly at h
  constructor
  · intro m pSession ha hkind hnone hlookup halloc
    rw [ha] at h
    have hall := of_decide_eq_true h ⟨hkind, hnone, halloc⟩
    rw [hlookup] at hall
    exact of_decide_eq_true hall
  · intro server registered ha hregistered
    rw [ha] at h
    simp only [hregistered] at h
    exact of_decide_eq_true h

def Done (history : List Callback) (s : SessionManager ρ) (c : ManagerCtx ρ) : Prop :=
  CallbackInv (history ++ c.fx.callbacks) c.manager ∧ ∀ cb ∈ c.fx.callbacks, Registered s cb

omit [RoundTripTime ρ] in
theorem Progress.done (h : Progress history s c) : Done history s c := ⟨h.inv, h.registered⟩

theorem done_handled {m : MessageBuffer} {env : ManagerEnv} (h : CallbackInv history s)
    (hhandled : Handled m env (env.start s) c)
    (hends : EndsOrderly s (.handleReceivedSessionMessage m, env)) : Done history s c := by
  have hstart := h.progress env
  cases hhandled with
  | answered hselected hfx =>
    have hsame := hstart.sameFx hfx
    exact ⟨hsame.inv, hsame.registered⟩
  | refused hkind hs hsessions =>
    refine ⟨?_, hstart.registered⟩
    refine callbackInv_admitSession hstart.inv hs.consistent hs.callbackState ?_ _ hsessions
    intro hneeds
    rcases hneeds.state with hstate | hcallback
    · exact nomatch hs.state.symm.trans hstate
    · exact nomatch hs.callbackState.symm.trans hcallback
  | @opened bound sessionId last server fx hkind hserver hs hfree hfx =>
    rw [onSession_admitSession, handleMessage_syn _ hkind]
    have hfiled := hs.filedOrNot hkind hfree s.nextSession fx
    rw [handleMessage_syn _ hkind] at hfiled
    obtain ⟨hsilent, hconsistent⟩ := silent_handleSynMessage hkind
      (c := ⟨bound, fx⟩) hs.sessionType hs.callbackState
    have hsame := hstart.sameFx hfx
    have hcallbacks : (handleSynMessage m ⟨bound, fx⟩).fx.callbacks = fx.callbacks :=
      hsilent.callbacks
    refine ⟨?_, by rw [hcallbacks]; exact hsame.registered⟩
    rw [hcallbacks]
    refine callbackInv_admitSession hsame.inv hconsistent
      (hsilent.callbackState.trans hs.callbackState) (fun _ => ⟨server, ?_⟩) last hfiled
    rw [hsilent.protocol, hs.protocol]
    have hprotocol := h.protocols _ _ hserver
    rw [← hprotocol] at hserver
    exact hserver
  | @delivered pSession fx hselected hlookup hfx =>
    have hsame := hstart.sameFx hfx
    have hmem := mem_values.mpr ⟨_, hlookup⟩
    have hsyn := (lookup_of_selectedSession hselected).2.1
    exact (hsame.onSession (behaves_handleMessage pSession hsyn (hsame.inv.consistent pSession)
      (hsame.served hmem)) (.inl hmem)).done
  | @moved pSession fx hkind hnone hlookup halloc hfx =>
    have hperm := values_rekey_perm hlookup hnone
    have hmoved := (hstart.sameFx hfx).withSessions (fun r hr => hperm.mem_iff.mp hr)
      fun r hr _ => hperm.mem_iff.mpr hr
    have hmem := hperm.mem_iff.mpr (mem_values.mpr ⟨_, hlookup⟩)
    exact (hmoved.onSession (behaves_handleMessage pSession (by rw [hkind]; decide)
      (hmoved.inv.consistent pSession) (hmoved.served hmem)) (.inl hmem)).done
  | @lost pSession hkind hnone hlookup halloc =>
    have hlast := hends.notLost m pSession rfl hkind hnone hlookup halloc
    have hremoved := hstart.removeEntry hlookup hlast
    have hclosed := hremoved.winds (r := pSession) (winds_shutdown .error _)
    exact ⟨hclosed.inv, hclosed.registered⟩

/-- One case for each call of the manager. -/
theorem callbackInv_step {t : SessionManager ρ} {a : ManagerAction × ManagerEnv} {fx : Effects}
    (h : CallbackInv history s) (hends : EndsOrderly s a)
    (hstep : (sessionManagerMachine ρ).step s a = some (t, fx)) :
    CallbackInv (history ++ fx.callbacks) t ∧ ∀ cb ∈ fx.callbacks, Registered s cb := by
  obtain ⟨c, hrun, hout⟩ := Option.map_eq_some_iff.mp hstep
  cases hout
  obtain ⟨action, env⟩ := a
  have hstart := h.progress env
  cases action with
  | establishSessionForClient info =>
    obtain ⟨hcallbacks, hsame | ⟨new, last, sessions, hnew, hclient, hfiled⟩⟩ :=
      establishSessionForClient_cases hrun
    · rw [hcallbacks, hsame]
      exact ⟨hstart.inv, hstart.registered⟩
    · rw [hcallbacks, hnew]
      refine ⟨callbackInv_admitSession hstart.inv hclient.consistent hclient.callbackState ?_
        last hfiled, hstart.registered⟩
      exact fun hneeds => nomatch hclient.sessionType.symm.trans hneeds.sessionType
  | handleReceivedSessionMessage m => exact done_handled h (handled_of_eq hrun) hends
  | updateSessions =>
    cases hrun
    exact (progress_updateSessions env hstart).done
  | handleClientDisconnection dstClientId =>
    cases hrun
    exact (progress_handleClientDisconnection dstClientId hstart).done
  | registerProtocolServer server =>
    cases hrun
    unfold registerProtocolServer
    split
    · exact hstart.done
    · refine ⟨⟨hstart.inv.phase, hstart.inv.consistent, hstart.inv.filed, ?_, hstart.inv.fresh,
        hstart.inv.created, ?_⟩, hstart.registered⟩
      · intro r hr hneeds
        obtain ⟨old, hold⟩ := hstart.inv.served r hr hneeds
        rcases eq_or_ne ((env.start s).manager.objects r).protocol server.protocol with heq | hne
        · exact ⟨server, by rw [heq]; exact Function.update_self _ _ _⟩
        · exact ⟨old, (Function.update_of_ne hne _ _).trans hold⟩
      · intro protocol other hother
        have hother : Function.update s.protocolServers server.protocol (some server) protocol =
            some other := hother
        rcases eq_or_ne protocol server.protocol with rfl | hne
        · rw [Function.update_self] at hother
          rw [Option.some.inj hother]
        · rw [Function.update_of_ne hne] at hother
          exact h.protocols protocol other hother
  | unregisterProtocolServer server =>
    cases hrun
    exact callbackInv_unregister h env server fun r hr => hends.registered server r rfl hr
  | shutdown sessionId reason =>
    obtain ⟨pSession, -, rfl⟩ := Option.map_eq_some_iff.mp hrun
    exact (hstart.winds (winds_shutdown reason _)).done
  | userCall pSession call =>
    obtain ⟨-, ⟨⟩⟩ := Option.ite_none_right_eq_some.mp hrun
    exact (hstart.winds (quiet_userCall call _).winds).done

/-! ## Runs -/

/-- A list of callbacks in order, up to the given callback state. -/
def InOrder (l : List Callback) : SessionCallbackState → Prop
  | .none => l = []
  | .establishedCalled => ∃ pServer pSession updates,
      l = .sessionEstablished pServer pSession :: updates ∧
        ∀ cb ∈ updates, ∃ pServer pSession, cb = .updateSession pServer pSession
  | .terminatedCalled => ∃ pServer pSession updates last,
      l = .sessionEstablished pServer pSession :: updates ++ [last] ∧
        (∀ cb ∈ updates, ∃ pServer pSession, cb = .updateSession pServer pSession) ∧
        ∃ pServer pSession reason, last = .sessionTerminated pServer pSession reason

omit [RoundTripTime ρ] in
theorem inOrder_of_phase {l : List Callback} {p : SessionCallbackState} (h : phase l = some p) :
    InOrder l p := by
  induction l using List.reverseRecOn generalizing p with
  | nil =>
    cases h
    rfl
  | append_singleton l cb ih =>
    rw [phase, List.foldlM_append] at h
    obtain ⟨a, ha, hcb⟩ := Option.bind_eq_some_iff.mp h
    have hstep : phaseStep a cb = some p := by simpa using hcb
    have hbefore := ih ha
    cases a with
    | none =>
      obtain rfl : l = [] := hbefore
      cases cb with
      | sessionEstablished pServer pSession =>
        cases hstep
        exact ⟨pServer, pSession, [], rfl, List.forall_mem_nil _⟩
      | _ => cases hstep
    | establishedCalled =>
      obtain ⟨pServer, pSession, updates, rfl, hupdates⟩ := hbefore
      cases cb with
      | sessionEstablished pServer pSession => cases hstep
      | updateSession pServer' pSession' =>
        cases hstep
        refine ⟨pServer, pSession, updates ++ [.updateSession pServer' pSession'], rfl, ?_⟩
        intro cb hcb
        rcases List.mem_append.mp hcb with hcb | hcb
        · exact hupdates cb hcb
        · exact ⟨pServer', pSession', List.mem_singleton.mp hcb⟩
      | sessionTerminated pServer' pSession' reason =>
        cases hstep
        exact ⟨pServer, pSession, updates, .sessionTerminated pServer' pSession' reason, rfl,
          hupdates, pServer', pSession', reason, rfl⟩
    | terminatedCalled => cases cb <;> cases hstep

def callbackHistory (tr : List (SessionManager ρ × (ManagerAction × ManagerEnv) × Effects)) :
    List Callback := tr.flatMap fun x => x.2.2.callbacks

theorem callbackInv_init (h : (sessionManagerMachine ρ).init s) :
    CallbackInv [] s := by
  have hcreated := (created_init h).1
  obtain ⟨clientId, lastSessionId, rfl⟩ := h
  have hnew : Consistent (Session.new ρ clientId .client 0) :=
    ClientOnly.consistent ⟨rfl, rfl⟩
  exact ⟨fun _ => rfl, fun _ => hnew, fun _ hcallback => (nomatch hcallback),
    fun _ hr => absurd hr List.not_mem_nil, fun _ _ => rfl, hcreated,
    fun _ _ hserver => (nomatch hserver)⟩

/-- In a run whose steps end sessions orderly, the callbacks of every session come in order, a
session that is not in the table has been terminated if it was established, and every callback
is made on the protocol server that is registered for the session. -/
theorem session_callback_protocol {s₀ s : SessionManager ρ}
    {tr : List (SessionManager ρ × (ManagerAction × ManagerEnv) × Effects)}
    (h : (sessionManagerMachine ρ).Trace s₀ tr s) (hinit : (sessionManagerMachine ρ).init s₀)
    (hends : ∀ x ∈ tr, EndsOrderly x.1 x.2.1) :
    (∀ r, ∃ p, InOrder (callbacksOf r (callbackHistory tr)) p ∧
      (r ∉ values s.sessions → p ≠ .establishedCalled)) ∧
    ∀ x ∈ tr, ∀ cb ∈ x.2.2.callbacks, Registered x.1 cb := by
  have hrun : CallbackInv (callbackHistory tr) s ∧
      ∀ x ∈ tr, ∀ cb ∈ x.2.2.callbacks, Registered x.1 cb := by
    induction h with
    | nil => exact ⟨callbackInv_init hinit, nofun⟩
    | @snoc t u tr a fx _ hstep ih =>
      obtain ⟨hinv, hregistered⟩ := ih fun x hx => hends x (List.mem_append_left _ hx)
      have hlast := hends (t, a, fx) (List.mem_append_right _ (List.mem_singleton_self _))
      obtain ⟨hnext, hcallbacks⟩ := callbackInv_step hinv hlast hstep
      have hhistory : callbackHistory (tr ++ [(t, a, fx)]) =
          callbackHistory tr ++ fx.callbacks := by
        simp [callbackHistory]
      refine ⟨hhistory ▸ hnext, fun x hx => ?_⟩
      rcases List.mem_append.mp hx with hx | hx
      · exact hregistered x hx
      · obtain rfl := List.mem_singleton.mp hx
        exact hcallbacks
  refine ⟨fun r => ⟨(s.objects r).callbackState, inOrder_of_phase (hrun.1.phase r), ?_⟩, hrun.2⟩
  exact fun hr hcallback => hr (hrun.1.filed r hcallback)

end Steps

def ackFromClient : MessageBuffer := commandMessage 1 2 .ack 65537 1 1

def serverEstablished : List (ManagerAction × ManagerEnv) :=
  synHandled ++ [(.handleReceivedSessionMessage ackFromClient, calmEnv)]

def serverUnregistered : List (ManagerAction × ManagerEnv) :=
  serverEstablished ++ [(.updateSessions, calmEnv),
    (.unregisterProtocolServer ⟨5, 16, 1, 1⟩, calmEnv)]

/-- The new id 10 is in another bucket than 65537, for which `Create` allocates. -/
def serverLost : List (ManagerAction × ManagerEnv) :=
  serverEstablished ++ [(.handleReceivedSessionMessage { synAckFor 65537 with
    header := ⟨1, 2, Protocol.session, SessionMessage.synAck.toCode, 1, 16, 10, 1⟩ },
    { calmEnv with allocEntry := false })]

theorem session_callback_protocol_unregistered : ∃ s : SessionManager ℚ,
    (sessionManagerMachine ℚ).run (.new ℚ 2 0) serverUnregistered = some s ∧
    callbackHistory ((sessionManagerMachine ℚ).transitions (.new ℚ 2 0) serverUnregistered) =
      [.sessionEstablished 5 0, .updateSession 5 0, .sessionTerminated 5 0 .endOfStream] ∧
    ∀ r, ∃ p, InOrder (callbacksOf r (callbackHistory
      ((sessionManagerMachine ℚ).transitions (.new ℚ 2 0) serverUnregistered))) p ∧
        (r ∉ values s.sessions → p ≠ .establishedCalled) := by
  have hrun : ((sessionManagerMachine ℚ).run (.new ℚ 2 0) serverUnregistered).isSome = true := by
    decide +kernel
  have htest : ((sessionManagerMachine ℚ).transitions (.new ℚ 2 0) serverUnregistered).all
      (fun x => endsOrderly x.1 x.2.1) = true := by
    decide +kernel
  obtain ⟨s, hs⟩ := Option.isSome_iff_exists.mp hrun
  refine ⟨s, hs, by decide +kernel, (session_callback_protocol (.of_run hs) ⟨2, 0, rfl⟩ ?_).1⟩
  exact fun x hx => endsOrderly_of_test (List.all_eq_true.mp htest x hx)

/-- A session that was established leaves the table without `SessionTerminated`. -/
theorem server_session_lost : ¬ ∀ (s : SessionManager ℚ)
    (tr : List (SessionManager ℚ × (ManagerAction × ManagerEnv) × Effects)),
    (sessionManagerMachine ℚ).Trace (.new ℚ 2 0) tr s → ∀ r, ∃ p,
      InOrder (callbacksOf r (callbackHistory tr)) p ∧
        (r ∉ values s.sessions → p ≠ .establishedCalled) := by
  intro hall
  obtain ⟨s, hs, hempty⟩ := (sessionManagerMachine ℚ).exists_of_run (.new ℚ 2 0) serverLost
    (fun s => values s.sessions = []) (by decide +kernel)
  have hhistory : callbacksOf 0 (callbackHistory
      ((sessionManagerMachine ℚ).transitions (.new ℚ 2 0) serverLost)) =
        [.sessionEstablished 5 0] := by
    decide +kernel
  obtain ⟨p, horder, hleft⟩ := hall s _ (.of_run hs) 0
  rw [hhistory] at horder
  have hgone : 0 ∉ values s.sessions := by
    rw [hempty]
    exact List.not_mem_nil
  cases p with
  | none => cases horder
  | establishedCalled => exact hleft hgone rfl
  | terminatedCalled =>
    obtain ⟨_, _, updates, last, hl, -⟩ := horder
    have hlength := congrArg List.length hl
    simp at hlength

end DevDriver.Analysis
