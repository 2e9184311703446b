import DevDriver.Analysis.Identity

/-!
# The callbacks of one session

The calls that a session makes on its protocol server, in the order it makes them, follow
`phaseStep`: `SessionEstablished` first, then any number of `UpdateSession`, and `SessionTerminated`
last.
-/

namespace DevDriver.Analysis

open Library Model

variable {ρ : Type}

def callbackSession : Callback → SessionRef
  | .sessionEstablished _ pSession => pSession
  | .updateSession _ pSession => pSession
  | .sessionTerminated _ pSession _ => pSession

def callbackServer : Callback → ServerRef
  | .sessionEstablished pServer _ => pServer
  | .updateSession pServer _ => pServer
  | .sessionTerminated pServer _ _ => pServer

def phaseStep : SessionCallbackState → Callback → Option SessionCallbackState
  | .none, .sessionEstablished _ _ => some .establishedCalled
  | .establishedCalled, .updateSession _ _ => some .establishedCalled
  | .establishedCalled, .sessionTerminated _ _ _ => some .terminatedCalled
  | _, _ => none

def phase (l : List Callback) : Option SessionCallbackState := l.foldlM phaseStep .none

/-- What a method adds to the callbacks of the session `pSession`: calls on the registered
protocol server, in order. -/
structure Calls (pSession : SessionRef) (c c' : Ctx ρ) : Prop where
  protocol : c'.session.protocol = c.session.protocol
  sessionType : c'.session.sessionType = c.session.sessionType
  protocolServer : c'.fx.protocolServer = c.fx.protocolServer
  callbacks : ∃ l, c'.fx.callbacks = c.fx.callbacks ++ l ∧
    (∀ cb ∈ l, callbackSession cb = pSession ∧
      c.fx.protocolServer c.session.protocol = some (callbackServer cb)) ∧
    l.foldlM phaseStep c.session.callbackState = some c'.session.callbackState

variable {c : Ctx ρ}

variable {c' : Ctx ρ}

theorem Silent.calls (h : Silent c c') (pSession : SessionRef) : Calls pSession c c' :=
  ⟨h.protocol, h.sessionType, h.protocolServer, [], by rw [h.callbacks, List.append_nil], nofun,
    congrArg some h.callbackState.symm⟩

variable {pSession : SessionRef}

theorem Calls.trans {a b : Ctx ρ} (hab : Calls pSession a b)
    (hbc : Calls pSession b c) : Calls pSession a c := by
  obtain ⟨l, hl, hmade, horder⟩ := hab.callbacks
  obtain ⟨l', hl', hmade', horder'⟩ := hbc.callbacks
  rw [hab.protocol, hab.protocolServer] at hmade'
  refine ⟨hbc.protocol.trans hab.protocol, hbc.sessionType.trans hab.sessionType,
    hbc.protocolServer.trans hab.protocolServer, l ++ l', ?_, ?_, ?_⟩
  · rw [hl', hl, List.append_assoc]
  · intro cb hcb
    rcases List.mem_append.mp hcb with hcb | hcb
    · exact hmade cb hcb
    · exact hmade' cb hcb
  · rw [List.foldlM_append, horder]
    exact horder'

theorem calls_callback (cb : Callback) {newState : SessionCallbackState}
    (hserver : c.fx.protocolServer c.session.protocol = some (callbackServer cb))
    (horder : phaseStep c.session.callbackState cb = some newState) :
    Calls (callbackSession cb) c (c.callback cb newState) := by
  refine ⟨rfl, rfl, rfl, [cb], rfl, ?_, ?_⟩
  · intro cb' hcb'
    obtain rfl := List.mem_singleton.mp hcb'
    exact ⟨rfl, hserver⟩
  · rw [List.foldlM_cons, horder]
    rfl

structure Consistent (s : Session ρ) : Prop where
  client : s.sessionType = .client → s.callbackState = .none
  synSent : s.sessionType = .server → s.sessionState ≠ .synSent
  synReceived : s.sessionState = .synReceived → s.callbackState = .none
  established : s.sessionType = .server → s.sessionState = .established →
    s.callbackState = .establishedCalled

structure NeedsServer (s : Session ρ) : Prop where
  sessionType : s.sessionType = .server
  state : s.sessionState = .synReceived ∨ s.callbackState = .establishedCalled

/-- What a method may do to a session whose protocol server is registered while it needs it. -/
structure Behaves (pSession : SessionRef) (c c' : Ctx ρ) : Prop where
  calls : Calls pSession c c'
  consistent : Consistent c'.session
  needsServer : NeedsServer c'.session → NeedsServer c.session

theorem Silent.behaves (h : Silent c c') (hc : Consistent c.session)
    (hstate : c'.session.sessionState = c.session.sessionState ∨ Winding c'.session.sessionState)
    (pSession : SessionRef) : Behaves pSession c c' := by
  have hcallback := h.callbackState
  have htype := h.sessionType
  refine ⟨h.calls pSession, ⟨?_, ?_, ?_, ?_⟩, ?_⟩
  · rw [htype, hcallback]
    exact hc.client
  · rcases hstate with hstate | hstate
    · rw [htype, hstate]
      exact hc.synSent
    · intro _ hs
      rw [hs] at hstate
      exact hstate
  · rcases hstate with hstate | hstate
    · rw [hcallback, hstate]
      exact hc.synReceived
    · intro hs
      rw [hs] at hstate
      exact hstate.elim
  · rcases hstate with hstate | hstate
    · rw [htype, hcallback, hstate]
      exact hc.established
    · intro _ hs
      rw [hs] at hstate
      exact hstate.elim
  · intro hneeds
    refine ⟨htype.symm.trans hneeds.sessionType, ?_⟩
    rcases hneeds.state with hs | hs
    · rcases hstate with hstate | hstate
      · exact .inl (hstate.symm.trans hs)
      · rw [hs] at hstate
        exact hstate.elim
    · exact .inr (hcallback.symm.trans hs)

theorem Winds.behaves (h : Winds c c') (hc : Consistent c.session) (pSession : SessionRef) :
    Behaves pSession c c' := h.silent.behaves hc h.state pSession

theorem Behaves.trans {a b : Ctx ρ} (hab : Behaves pSession a b)
    (hbc : Behaves pSession b c) : Behaves pSession a c :=
  ⟨hab.calls.trans hbc.calls, hbc.consistent, fun h => hab.needsServer (hbc.needsServer h)⟩

def Served (c : Ctx ρ) : Prop :=
  NeedsServer c.session → ∃ pServer, c.fx.protocolServer c.session.protocol = some pServer

theorem Behaves.served (h : Behaves pSession c c') (hc : Served c) : Served c' := by
  intro hneeds
  rw [h.calls.protocol, h.calls.protocolServer]
  exact hc (h.needsServer hneeds)

/-! ## Handling a message -/

theorem behaves_enterEstablished (pSession : SessionRef)
    (hcallback : c.session.callbackState = .none)
    (hstate : c.session.sessionState = .established)
    (hserver : c.session.sessionType = .server →
      ∃ pServer, c.fx.protocolServer c.session.protocol = some pServer) :
    Calls pSession c (enterEstablished pSession c) ∧
      Consistent (enterEstablished pSession c).session := by
  unfold enterEstablished
  cases htype : c.session.sessionType with
  | client =>
    constructor
    · refine Silent.calls ?_ pSession
      exact ⟨rfl, rfl, rfl, rfl, rfl, rfl, rfl⟩
    · exact ⟨fun _ => hcallback, fun h => absurd (htype.symm.trans h) nofun,
        fun h => absurd (hstate.symm.trans h) nofun, fun h => absurd (htype.symm.trans h) nofun⟩
  | server =>
    obtain ⟨pServer, hregistered⟩ := hserver htype
    simp only [hregistered]
    have hchecked : Calls pSession c (c.check .establishedCallback
        (c.session.callbackState = .none)) := (quiet_check c _ _).silent.calls pSession
    constructor
    · refine hchecked.trans (calls_callback (.sessionEstablished pServer pSession) ?_ ?_)
      · rw [hchecked.protocolServer]
        exact hregistered
      · rw [Ctx.check_session, hcallback]
        rfl
    · exact ⟨fun h => absurd (htype.symm.trans h) nofun,
        fun _ h => absurd (hstate.symm.trans h) nofun,
        fun h => absurd (hstate.symm.trans h) nofun, fun _ _ => rfl⟩

variable {m : MessageBuffer}

theorem transition_cases {a b : SessionState} (h : Transition m a b) (hsyn : m.kind ≠ .syn) :
    (b = a ∨ Winding b) ∨ b = .established ∧ (a = .synReceived ∨ a = .synSent) := by
  cases h with
  | stay => exact .inl (.inl rfl)
  | close => exact .inl (.inr trivial)
  | closing => exact .inl (.inr trivial)
  | synReceived _ hkind => exact absurd hkind hsyn
  | accepted => exact .inr ⟨rfl, .inl rfl⟩
  | connected => exact .inr ⟨rfl, .inr rfl⟩
  | reset reason => exact .inl (.inr (winding_shutdownState reason a))

theorem behaves_handleMessage [RoundTripTime ρ] (pSession : SessionRef) (hsyn : m.kind ≠ .syn)
    (hc : Consistent c.session) (hserved : Served c) :
    Behaves pSession c (handleMessage pSession m c) := by
  have hdispatch := dispatched_dispatchMessage m c
  have hsilent := hdispatch.silent
  dsimp only [handleMessage]
  set c₁ := dispatchMessage m c
  rcases transition_cases hdispatch.state hsyn with hstate | ⟨hstate, hopening⟩
  · have hstays : ¬ (c.session.sessionState ≠ c₁.session.sessionState ∧
        c₁.session.sessionState = .established) := by
      rintro ⟨hne, hopen⟩
      rcases hstate with hstate | hstate
      · exact hne hstate.symm
      · rw [hopen] at hstate
        exact hstate
    rw [if_neg hstays]
    exact hsilent.behaves hc hstate pSession
  · have hne : c.session.sessionState ≠ .established := by
      rcases hopening with h | h <;> rw [h] <;> decide
    rw [if_pos ⟨by rw [hstate]; exact hne, hstate⟩]
    -- only a session that waits for its handshake is opened
    have hneeds : c.session.sessionType = .server → NeedsServer c.session := fun htype =>
      ⟨htype, .inl (hopening.resolve_right (hc.synSent htype))⟩
    have hcallback : c₁.session.callbackState = .none := by
      rw [hsilent.callbackState]
      rcases hopening with h | h
      · exact hc.synReceived h
      · cases htype : c.session.sessionType with
        | client => exact hc.client htype
        | server => exact absurd h (hc.synSent htype)
    have henter := behaves_enterEstablished pSession hcallback hstate
      fun htype => by
        rw [hsilent.protocol, hsilent.protocolServer]
        exact hserved (hneeds (hsilent.sessionType.symm.trans htype))
    refine ⟨(hsilent.calls pSession).trans henter.1, henter.2, fun h => hneeds ?_⟩
    exact (hsilent.sessionType.symm.trans henter.1.sessionType.symm).trans h.sessionType

theorem consistent_of_winding {s : Session ρ} (htype : s.sessionType = .server)
    (h : Winding s.sessionState) : Consistent s := by
  refine ⟨fun hs => absurd (htype.symm.trans hs) nofun, ?_, ?_, ?_⟩
  · intro _ hs
    rw [hs] at h
    exact h
  · intro hs
    rw [hs] at h
    exact h.elim
  · intro _ hs
    rw [hs] at h
    exact h.elim

theorem silent_handleSynMessage (hkind : m.kind = .syn) (htype : c.session.sessionType = .server)
    (hcallback : c.session.callbackState = .none) :
    Silent c (handleSynMessage m c) ∧ Consistent (handleSynMessage m c).session := by
  have hsilent := (dispatched_handleSynMessage hkind c).silent
  have htype' := hsilent.sessionType.trans htype
  refine ⟨hsilent, ?_⟩
  rcases (handleSynMessage_spec m c).2 with hstate | hstate
  · exact ⟨fun _ => hsilent.callbackState.trans hcallback,
      fun _ h => absurd (hstate.symm.trans h) nofun,
      fun _ => hsilent.callbackState.trans hcallback,
      fun _ h => absurd (hstate.symm.trans h) nofun⟩
  · refine consistent_of_winding htype' ?_
    rw [hstate]
    trivial

/-! ## Updating -/

theorem behaves_updateEstablished (hc : Consistent c.session) (hserved : Served c)
    (calls : List UserCall) :
    Behaves pSession c (updateEstablished pSession calls c) := by
  unfold updateEstablished
  split
  · rename_i hopen
    have hcallback := hc.established hopen.1 hopen.2
    obtain ⟨pServer, hregistered⟩ := hserved ⟨hopen.1, .inr hcallback⟩
    have hchecked := (quiet_check c .updateCallback
      (c.session.callbackState = .establishedCalled)).winds.behaves hc pSession
    set c₁ := c.check .updateCallback (c.session.callbackState = .establishedCalled) with hc₁
    have hserver : c₁.fx.protocolServer c₁.session.protocol = some pServer := by
      rw [hchecked.calls.protocolServer, hchecked.calls.protocol]
      exact hregistered
    have hcalled : Behaves pSession c₁
        (c₁.callback (.updateSession pServer pSession) c₁.session.callbackState) := by
      refine ⟨calls_callback (.updateSession pServer pSession) hserver ?_, hchecked.consistent,
        fun h => ⟨h.sessionType, h.state⟩⟩
      rw [hc₁, Ctx.check_session, hcallback]
      rfl
    simp only [hserver]
    exact (hchecked.trans hcalled).trans
      ((quiet_userCalls calls _).winds.behaves hcalled.consistent pSession)
  · exact (Winds.refl c).behaves hc pSession

theorem behaves_updateTerminated (hc : Consistent c.session)
    (hserved : Served c) : Behaves pSession c (updateTerminated pSession c) := by
  unfold updateTerminated
  split
  · rename_i hclosed
    obtain ⟨htype, hstate, hcallback⟩ := hclosed
    obtain ⟨pServer, hregistered⟩ := hserved ⟨htype, .inr hcallback⟩
    simp only [hregistered]
    refine ⟨calls_callback (.sessionTerminated pServer pSession _) hregistered ?_,
      consistent_of_winding htype ?_, fun _ => ⟨htype, .inr hcallback⟩⟩
    · rw [hcallback]
      rfl
    · simp only [Ctx.callback, hstate]
      trivial
  · exact (Winds.refl c).behaves hc pSession

theorem behaves_update [RoundTripTime ρ] (pSession : SessionRef) (lastReference : Bool)
    (calls : List UserCall) (hc : Consistent c.session) (hserved : Served c) :
    Behaves pSession c (update pSession lastReference calls c) := by
  have hwindows := (winds_updateWindows lastReference c).behaves hc pSession
  have hestablished := hwindows.trans
    (behaves_updateEstablished hwindows.consistent (hwindows.served hserved) calls)
  have hterminated := hestablished.trans
    (behaves_updateTerminated hestablished.consistent (hestablished.served hserved))
  exact hterminated.trans
    ((winds_signalDisconnection _).behaves hterminated.consistent pSession)

theorem terminated_updateTerminated (hc : Consistent c.session) (hserved : Served c)
    (hclosed : (updateTerminated pSession c).session.sessionState = .closed) :
    (updateTerminated pSession c).session.callbackState ≠ .establishedCalled := by
  unfold updateTerminated at hclosed ⊢
  split at hclosed
  · rename_i hdue
    obtain ⟨pServer, hregistered⟩ := hserved ⟨hdue.1, .inr hdue.2.2⟩
    rw [if_pos hdue, hregistered]
    exact nofun
  · rename_i hdue
    rw [if_neg hdue]
    intro hcallback
    have htype : c.session.sessionType = .server := by
      cases htype : c.session.sessionType with
      | client => exact absurd ((hc.client htype).symm.trans hcallback) nofun
      | server => rfl
    exact hdue ⟨htype, hclosed, hcallback⟩

theorem terminated_update [RoundTripTime ρ] {lastReference : Bool} {calls : List UserCall}
    (hc : Consistent c.session) (hserved : Served c)
    (hclosed : (update pSession lastReference calls c).session.sessionState = .closed) :
    (update pSession lastReference calls c).session.callbackState ≠ .establishedCalled := by
  have hwindows := (winds_updateWindows lastReference c).behaves hc pSession
  have hestablished := hwindows.trans
    (behaves_updateEstablished hwindows.consistent (hwindows.served hserved) calls)
  have hsignal : ∀ c' : Ctx ρ,
      (signalDisconnection c').session.sessionState = c'.session.sessionState := by
    intro c'
    unfold signalDisconnection
    split <;> rfl
  rw [update, updateCallbacks, hsignal] at hclosed
  rw [update, updateCallbacks, (winds_signalDisconnection _).silent.callbackState]
  exact terminated_updateTerminated hestablished.consistent (hestablished.served hserved) hclosed

theorem behaves_handleUnregisterProtocolServer (pSession : SessionRef) {pServer : ServerRef}
    (protocol : Protocol) (hregistered : c.fx.protocolServer c.session.protocol = some pServer) :
    Calls pSession c (handleUnregisterProtocolServer pSession pServer protocol c) ∧
      Winding (handleUnregisterProtocolServer pSession pServer protocol
        c).session.sessionState ∧
      (handleUnregisterProtocolServer pSession pServer protocol c).session.callbackState ≠
        .establishedCalled := by
  obtain ⟨c₁, hc₁⟩ : ∃ c₁ : Ctx ρ, c₁ = (c.check .unregisterType
      (c.session.sessionType = .server)).check .unregisterProtocol
        (protocol = c.session.protocol) := ⟨_, rfl⟩
  have hchecked : Calls pSession c c₁ := by
    rw [hc₁]
    exact ((quiet_check c _ _).trans (quiet_check _ _ _)).silent.calls pSession
  have hdef : handleUnregisterProtocolServer pSession pServer protocol c =
      (if c₁.session.callbackState = .establishedCalled then
        c₁.callback (.sessionTerminated pServer pSession .endOfStream) .terminatedCalled
      else c₁).shutdown .success := by
    rw [hc₁]
    rfl
  rw [hdef]
  have hshutdown : ∀ c' : Ctx ρ, Calls pSession c' (c'.shutdown .success) ∧
      Winding (c'.shutdown .success).session.sessionState ∧
      (c'.shutdown .success).session.callbackState = c'.session.callbackState := by
    intro c'
    have hwinds := winds_shutdown .success c'
    refine ⟨hwinds.silent.calls pSession, ?_, hwinds.silent.callbackState⟩
    rw [(Ctx.shutdown_frame .success c').2.2.2.2.2.2.2.2]
    exact winding_shutdownState _ _
  split
  · rename_i hcallback
    have hserver : c₁.fx.protocolServer c₁.session.protocol = some pServer := by
      rw [hchecked.protocolServer, hchecked.protocol]
      exact hregistered
    have hlast : Calls pSession c₁ (c₁.callback
        (.sessionTerminated pServer pSession .endOfStream) .terminatedCalled) := by
      refine calls_callback (.sessionTerminated pServer pSession .endOfStream) hserver ?_
      rw [hcallback]
      rfl
    obtain ⟨hcalls, hstate, hkeeps⟩ := hshutdown (c₁.callback
      (.sessionTerminated pServer pSession .endOfStream) .terminatedCalled)
    refine ⟨(hchecked.trans hlast).trans hcalls, hstate, ?_⟩
    rw [hkeeps]
    exact nofun
  · rename_i hcallback
    obtain ⟨hcalls, hstate, hkeeps⟩ := hshutdown c₁
    refine ⟨hchecked.trans hcalls, hstate, ?_⟩
    rw [hkeeps]
    exact hcallback

end DevDriver.Analysis
