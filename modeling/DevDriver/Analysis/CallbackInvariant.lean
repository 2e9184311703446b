import DevDriver.Analysis.Callbacks
import DevDriver.Analysis.TableKeys

/-!
# The callbacks of all sessions of a manager

Every session remembers how far it has come with its callbacks; a session that still owes
`SessionTerminated` is in the table, and while it may call its protocol server this server is
registered.
-/

namespace DevDriver.Analysis

open Library Model

variable {ρ : Type}

def callbacksOf (pSession : SessionRef) (l : List Callback) : List Callback :=
  l.filter fun cb => callbackSession cb = pSession

/-- The callbacks of each session so far are those its callback state stands for. -/
structure CallbackInv (history : List Callback) (s : SessionManager ρ) : Prop where
  phase : ∀ r, phase (callbacksOf r history) = some (s.objects r).callbackState
  consistent : ∀ r, Consistent (s.objects r)
  filed : ∀ r, (s.objects r).callbackState = .establishedCalled → r ∈ values s.sessions
  served : ∀ r ∈ values s.sessions, NeedsServer (s.objects r) →
    ∃ server, s.protocolServers (s.objects r).protocol = some server
  fresh : ∀ r, s.nextSession ≤ r → (s.objects r).callbackState = .none
  created : Created s
  protocols : ∀ protocol server, s.protocolServers protocol = some server →
    server.protocol = protocol

/-- The callback is made on the protocol server that is registered for its session. -/
def Registered (s : SessionManager ρ) (cb : Callback) : Prop :=
  ∃ server, s.protocolServers (s.objects (callbackSession cb)).protocol = some server ∧
    server.pServer = callbackServer cb

structure Progress (history : List Callback) (s : SessionManager ρ) (c : ManagerCtx ρ) :
    Prop where
  inv : CallbackInv (history ++ c.fx.callbacks) c.manager
  protocolServers : c.manager.protocolServers = s.protocolServers
  protocolServer : c.fx.protocolServer =
    fun protocol => (s.protocolServers protocol).map (·.pServer)
  nextSession : c.manager.nextSession = s.nextSession
  protocol : ∀ r, (c.manager.objects r).protocol = (s.objects r).protocol
  registered : ∀ cb ∈ c.fx.callbacks, Registered s cb

variable {history : List Callback} {s : SessionManager ρ}

theorem CallbackInv.progress (h : CallbackInv history s)
    (env : ManagerEnv) : Progress history s (env.start s) := by
  refine ⟨?_, rfl, rfl, rfl, fun _ => rfl, nofun⟩
  have hnil : (env.start s).fx.callbacks = [] := rfl
  rw [hnil, List.append_nil]
  exact h

variable {c : ManagerCtx ρ}

theorem Progress.sameFx (h : Progress history s c) {fx : Effects} (hfx : SameFx c.fx fx) :
    Progress history s ⟨c.manager, fx⟩ := by
  refine ⟨?_, h.protocolServers, hfx.protocolServer.trans h.protocolServer, h.nextSession,
    h.protocol, ?_⟩
  · rw [hfx.callbacks]
    exact h.inv
  · rw [hfx.callbacks]
    exact h.registered

theorem phase_append {l l' : List Callback} {a : SessionCallbackState} (h : phase l = some a) :
    phase (l ++ l') = l'.foldlM phaseStep a := by
  rw [phase, List.foldlM_append]
  rw [phase] at h
  rw [h]
  rfl

theorem Progress.served (h : Progress history s c) {r : SessionRef}
    (hr : r ∈ values c.manager.sessions) :
    Served ⟨c.manager.objects r, c.fx⟩ := by
  intro hneeds
  obtain ⟨server, hserver⟩ := h.inv.served r hr hneeds
  rw [h.protocolServers] at hserver
  refine ⟨server.pServer, ?_⟩
  rw [h.protocolServer]
  exact Option.map_eq_some_iff.mpr ⟨server, hserver, rfl⟩

/-! ## Methods of a session -/

theorem Progress.onSession
    (h : Progress history s c) {r : SessionRef} {f : Ctx ρ → Ctx ρ}
    (hbehaves : Behaves r ⟨c.manager.objects r, c.fx⟩ (f ⟨c.manager.objects r, c.fx⟩))
    (hr : r ∈ values c.manager.sessions ∨
      Silent ⟨c.manager.objects r, c.fx⟩ (f ⟨c.manager.objects r, c.fx⟩)) :
    Progress history s (c.onSession r f) := by
  obtain ⟨l, hl, hmade, horder⟩ := hbehaves.calls.callbacks
  have hobject := objects_onSession r f c
  have hothers : ∀ r', r' ≠ r → (c.onSession r f).manager.objects r' = c.manager.objects r' :=
    fun r' hne => Function.update_of_ne hne _ _
  have hhistory : history ++ (c.onSession r f).fx.callbacks =
      (history ++ c.fx.callbacks) ++ l := by
    rw [List.append_assoc, ← hl]
    rfl
  have hfiled : (f ⟨c.manager.objects r, c.fx⟩).session.callbackState = .establishedCalled →
      r ∈ values c.manager.sessions := by
    intro hcallback
    rcases hr with hr | hsilent
    · exact hr
    · exact h.inv.filed r (hsilent.callbackState.symm.trans hcallback)
  refine ⟨⟨?_, ?_, ?_, ?_, ?_, h.inv.created, h.inv.protocols⟩, h.protocolServers,
    hbehaves.calls.protocolServer.trans h.protocolServer, h.nextSession, ?_, ?_⟩
  · intro r'
    rw [hhistory, callbacksOf, List.filter_append]
    rcases eq_or_ne r' r with rfl | hne
    · have hall : l.filter (fun cb => callbackSession cb = r') = l :=
        List.filter_eq_self.mpr fun cb hcb => decide_eq_true (hmade cb hcb).1
      rw [hall, hobject]
      exact (phase_append (h.inv.phase r')).trans horder
    · have hnone : l.filter (fun cb => callbackSession cb = r') = [] :=
        List.filter_eq_nil_iff.mpr fun cb hcb => by
          rw [(hmade cb hcb).1]
          simpa using hne.symm
      rw [hnone, List.append_nil, hothers r' hne]
      exact h.inv.phase r'
  · intro r'
    rcases eq_or_ne r' r with rfl | hne
    · rw [hobject]
      exact hbehaves.consistent
    · rw [hothers r' hne]
      exact h.inv.consistent r'
  · intro r' hcallback
    rcases eq_or_ne r' r with rfl | hne
    · rw [hobject] at hcallback
      exact hfiled hcallback
    · rw [hothers r' hne] at hcallback
      exact h.inv.filed r' hcallback
  · intro r' hr' hneeds
    rcases eq_or_ne r' r with rfl | hne
    · rw [hobject] at hneeds ⊢
      rw [hbehaves.calls.protocol]
      exact h.inv.served r' hr' (hbehaves.needsServer hneeds)
    · rw [hothers r' hne] at hneeds ⊢
      exact h.inv.served r' hr' hneeds
  · intro r' hfresh
    rcases eq_or_ne r' r with rfl | hne
    · rw [hobject]
      rcases hr with hr | hsilent
      · have hcreated := h.inv.created.of_values hr
        exact absurd hfresh (Nat.not_le_of_lt hcreated)
      · exact hsilent.callbackState.trans (h.inv.fresh r' hfresh)
    · rw [hothers r' hne]
      exact h.inv.fresh r' hfresh
  · intro r'
    rcases eq_or_ne r' r with rfl | hne
    · rw [hobject]
      exact hbehaves.calls.protocol.trans (h.protocol r')
    · rw [hothers r' hne]
      exact h.protocol r'
  · intro cb hcb
    have hcb : cb ∈ c.fx.callbacks ++ l := hl ▸ hcb
    rcases List.mem_append.mp hcb with hcb | hcb
    · exact h.registered cb hcb
    · obtain ⟨hsession, hserver⟩ := hmade cb hcb
      rw [h.protocolServer] at hserver
      obtain ⟨server, hserver, hpServer⟩ := Option.map_eq_some_iff.mp hserver
      refine ⟨server, ?_, hpServer⟩
      rw [hsession, ← h.protocol r]
      exact hserver

theorem Progress.winds (h : Progress history s c) {r : SessionRef} {f : Ctx ρ → Ctx ρ}
    (hwinds : Winds ⟨c.manager.objects r, c.fx⟩ (f ⟨c.manager.objects r, c.fx⟩)) :
    Progress history s (c.onSession r f) :=
  h.onSession (hwinds.behaves (h.inv.consistent r) r) (.inr hwinds.silent)

theorem Progress.withSessions (h : Progress history s c) {sessions : SessionTable}
    (hsub : ∀ r ∈ values sessions, r ∈ values c.manager.sessions)
    (hfiled : ∀ r ∈ values c.manager.sessions,
      (c.manager.objects r).callbackState = .establishedCalled → r ∈ values sessions) :
    Progress history s ⟨{ c.manager with sessions := sessions }, c.fx⟩ := by
  refine ⟨⟨h.inv.phase, h.inv.consistent, ?_, ?_, h.inv.fresh, ?_, h.inv.protocols⟩,
    h.protocolServers, h.protocolServer, h.nextSession, h.protocol, h.registered⟩
  · exact fun r hcallback => hfiled r (h.inv.filed r hcallback) hcallback
  · exact fun r hr hneeds => h.inv.served r (hsub r hr) hneeds
  · intro id r hr
    exact h.inv.created.of_values (hsub r (mem_values.mpr ⟨id, hr⟩))

theorem Progress.removeEntry (h : Progress history s c) {sessionId : SessionId} {r : SessionRef}
    (hlookup : c.manager.sessions.lookup sessionId = some r)
    (hlast : (c.manager.objects r).callbackState ≠ .establishedCalled) :
    Progress history s (c.removeEntry sessionId) := by
  have hperm := values_perm_erase hlookup
  refine h.withSessions ?_ ?_
  · exact fun r' hr' => hperm.mem_iff.mpr (List.mem_cons_of_mem _ hr')
  · intro r' hr' hcallback
    rcases List.mem_cons.mp (hperm.mem_iff.mp hr') with rfl | hr'
    · exact absurd hcallback hlast
    · exact hr'

end DevDriver.Analysis
