import DevDriver.Analysis.Identity
import DevDriver.Library.Table
import DevDriver.Model.SessionManager

/-!
# What the session manager does with a message

`HandleReceivedSessionMessage` does one of six things with a message, and `Handled` lists them
together with what is known in each case.
-/

namespace DevDriver.Analysis

open Library Model ManagerCtx

variable {ρ : Type}

structure SameFx (fx fx' : Effects) : Prop where
  answers : fx'.answers = fx.answers
  protocolServer : fx'.protocolServer = fx.protocolServer
  forwarded : fx'.forwarded = fx.forwarded
  callbacks : fx'.callbacks = fx.callbacks

theorem SameFx.refl (fx : Effects) : SameFx fx fx := ⟨rfl, rfl, rfl, rfl⟩

theorem SameFx.check {fx fx' : Effects} (h : SameFx fx fx') (a : Assertion) (b : Bool) :
    SameFx fx (fx'.check a b) := by
  obtain ⟨hforwarded, hcallbacks, hserver, -, -, hanswers⟩ := Effects.check_frame fx' a b
  exact ⟨hanswers.trans h.answers, hserver.trans h.protocolServer,
    hforwarded.trans h.forwarded, hcallbacks.trans h.callbacks⟩

theorem sameFx_checkOpenSession (sessionId : SessionId) (c : ManagerCtx ρ) :
    (checkOpenSession sessionId c).manager = c.manager ∧
      SameFx c.fx (checkOpenSession sessionId c).fx := by
  unfold checkOpenSession
  split
  · exact ⟨rfl, (SameFx.refl _).check _ _⟩
  · exact ⟨rfl, .refl _⟩

def calmEnv : ManagerEnv := ⟨[], [], true, true, true, fun _ => false, fun _ => []⟩

variable {env : ManagerEnv} {server : ProtocolServer} {sessionId : SessionId} {s : Session ρ}
    {sessions : SessionTable}

theorem newSessionIdLoop_spec {remoteInput lastSessionId : UInt32} {n : ℕ} {r : SessionId × UInt32}
    (h : newSessionIdLoop sessions remoteInput n lastSessionId = some r) :
    r.1 ≠ kInvalidSessionId ∧ r.1 ∉ sessions := by
  induction n generalizing lastSessionId with
  | zero => cases h
  | succ n ih =>
    dsimp only [newSessionIdLoop] at h
    split at h
    · exact ih h
    · rename_i hfree
      cases h
      exact not_or.mp hfree

theorem getNewSessionId_spec {remoteSessionId : SessionId} {m : SessionManager ρ}
    {r : SessionId × SessionManager ρ} (h : getNewSessionId remoteSessionId m = some r) :
    r.1 ∉ m.sessions ∧ ∃ lastSessionId, r.2 = { m with lastSessionId := lastSessionId } := by
  obtain ⟨id, hid, rfl⟩ := Option.map_eq_some_iff.mp h
  exact ⟨(newSessionIdLoop_spec hid).2, _, rfl⟩

/-! ## The session a message selects -/

variable {pSession : SessionRef}

theorem findOpenSession_eq_some {m : SessionManager ρ} :
    findOpenSession sessionId m = some pSession ↔
      m.sessions.lookup sessionId = some pSession ∧
        (m.objects pSession).sessionState ≠ .closed := by
  unfold findOpenSession
  cases m.sessions.lookup sessionId with
  | none => simp
  | some r =>
    by_cases hclosed : (m.objects r).sessionState = .closed
    · simp only [hclosed, ne_eq, not_true, if_false, Option.some.injEq]
      grind
    · simp only [hclosed, ne_eq, not_false_eq_true, if_true, Option.some.injEq]
      grind

/-- The known session that a message is for: a SynAck may name it by the initial session id. -/
def selectedSession (m : MessageBuffer) (s : SessionManager ρ) : Option SessionRef :=
  match m.kind with
  | .synAck => (s.sessions.lookup m.header.sessionId).or
      (s.sessions.lookup (SynAckPayload.decode m.payload).initialSessionId)
  | .fin | .data | .ack | .rst => findOpenSession m.header.sessionId s
  | .syn | .unknown => none

variable {m : MessageBuffer}

theorem lookup_of_selectedSession {s : SessionManager ρ} (h : selectedSession m s = some pSession) :
    (∃ id, s.sessions.lookup id = some pSession) ∧ m.kind ≠ .syn ∧ m.kind ≠ .unknown := by
  have hfound : findOpenSession m.header.sessionId s = some pSession →
      ∃ id, s.sessions.lookup id = some pSession := fun hopen =>
    ⟨_, (findOpenSession_eq_some.mp hopen).1⟩
  unfold selectedSession at h
  cases hkind : m.kind with
  | synAck =>
    rw [hkind] at h
    refine ⟨?_, nofun, nofun⟩
    rcases Option.or_eq_some_iff.mp h with h | ⟨-, h⟩
    · exact ⟨_, h⟩
    · exact ⟨_, h⟩
  | syn =>
    rw [hkind] at h
    cases h
  | unknown =>
    rw [hkind] at h
    cases h
  | _ =>
    rw [hkind] at h
    exact ⟨hfound h, nofun, nofun⟩

def admitSession (s : Session ρ) (lastSessionId : UInt32) (sessions : SessionTable)
    (m : SessionManager ρ) : SessionManager ρ :=
  { m with
    lastSessionId := lastSessionId
    sessions := sessions
    objects := Function.update m.objects m.nextSession s
    nextSession := m.nextSession + 1 }

def FiledOrNot (s : Session ρ) (m : SessionManager ρ) (sessions : SessionTable) : Prop :=
  sessions = m.sessions ∨
    s.sessionId ∉ m.sessions ∧ sessions = m.sessions.insert s.sessionId m.nextSession

theorem FiledOrNot.lookup {m : SessionManager ρ} (h : FiledOrNot s m sessions) {id : SessionId}
    (hr : sessions.lookup id = some pSession) :
    m.sessions.lookup id = some pSession ∨ id = s.sessionId ∧ pSession = m.nextSession := by
  rcases h with rfl | ⟨-, rfl⟩
  · exact .inl hr
  · rcases eq_or_ne id s.sessionId with heq | hne
    · rw [heq, AList.lookup_insert] at hr
      exact .inr ⟨heq, (Option.some.inj hr).symm⟩
    · rw [AList.lookup_insert_ne hne] at hr
      exact .inl hr

theorem FiledOrNot.lookup_of_old {m : SessionManager ρ} (h : FiledOrNot s m sessions)
    {id : SessionId} (hr : m.sessions.lookup id = some pSession) :
    sessions.lookup id = some pSession := by
  rcases h with rfl | ⟨hfree, rfl⟩
  · exact hr
  · have hne : id ≠ s.sessionId := by
      rintro rfl
      exact hfree (AList.lookup_isSome.mp (by rw [hr]; rfl))
    rw [AList.lookup_insert_ne hne]
    exact hr

theorem objects_onSession (pSession : SessionRef) (f : Ctx ρ → Ctx ρ) (c : ManagerCtx ρ) :
    (c.onSession pSession f).manager.objects pSession =
      (f ⟨c.manager.objects pSession, c.fx⟩).session := Function.update_self _ _ _

theorem onSession_admitSession (f : Ctx ρ → Ctx ρ) (s : Session ρ) (lastSessionId : UInt32)
    (sessions : SessionTable) (m : SessionManager ρ) (fx : Effects) :
    onSession m.nextSession f ⟨admitSession s lastSessionId sessions m, fx⟩ =
      ⟨admitSession (f ⟨s, fx⟩).session lastSessionId sessions m, (f ⟨s, fx⟩).fx⟩ := by
  simp only [onSession, admitSession, Function.update_self, Function.update_idem]

structure Bound (m : MessageBuffer) (server : ProtocolServer) (sessionId : SessionId)
    (s : Session ρ) : Prop where
  state : s.sessionState = .listening
  callbackState : s.callbackState = .none
  sessionType : s.sessionType = .server
  protocol : s.protocol = server.protocol
  remoteClientId : s.remoteClientId = m.header.srcClientId
  sessionId : s.sessionId = sessionId

structure Unbound (s : Session ρ) : Prop where
  state : s.sessionState = .closed
  callbackState : s.callbackState = .none
  sessionType : s.sessionType = .server

def initialSessionId (m : MessageBuffer) : SessionId :=
  (SynAckPayload.decode m.payload).initialSessionId

theorem selectedSession_of_initial {s : SessionManager ρ} (hkind : m.kind = .synAck)
    (hnone : s.sessions.lookup m.header.sessionId = none)
    (hlookup : s.sessions.lookup (initialSessionId m) = some pSession) :
    selectedSession m s = some pSession := by
  rw [selectedSession, hkind]
  simp only [hnone, Option.none_or]
  exact hlookup

/-- What the manager does with a message: one case for each way through. -/
inductive Handled [RoundTripTime ρ] (m : MessageBuffer) (env : ManagerEnv) (c : ManagerCtx ρ) :
    ManagerCtx ρ → Prop where
  | answered {fx : Effects} {reason : Result} {version : Version}
      (hselected : selectedSession m c.manager = none) (hfx : SameFx c.fx fx) :
      Handled m env c (sendReset m.header.srcClientId m.header.sessionId reason version
        ⟨c.manager, fx⟩)
  | refused {s : Session ρ} {lastSessionId : UInt32} {sessions : SessionTable}
      {version : Version} (hkind : m.kind = .syn) (hs : Unbound s)
      (hsessions : FiledOrNot s c.manager sessions) :
      Handled m env c (sendReset m.header.srcClientId m.header.sessionId .rejected version
        ⟨admitSession s lastSessionId sessions c.manager, c.fx⟩)
  | opened {s : Session ρ} {sessionId : SessionId} {lastSessionId : UInt32}
      {server : ProtocolServer} {fx : Effects} (hkind : m.kind = .syn)
      (hserver : c.manager.protocolServers (SynPayload.decode m.payload).protocol = some server)
      (hs : Bound m server sessionId s) (hid : sessionId ∉ c.manager.sessions)
      (hfx : SameFx c.fx fx) :
      Handled m env c (onSession c.manager.nextSession
        (handleMessage c.manager.nextSession m) ⟨admitSession s lastSessionId
          (c.manager.sessions.insert sessionId c.manager.nextSession) c.manager, fx⟩)
  | delivered {pSession : SessionRef} {fx : Effects}
      (hselected : selectedSession m c.manager = some pSession)
      (hlookup : c.manager.sessions.lookup m.header.sessionId = some pSession)
      (hfx : SameFx c.fx fx) :
      Handled m env c (onSession pSession (handleMessage pSession m)
        ⟨c.manager, fx⟩)
  | moved {pSession : SessionRef} {fx : Effects} (hkind : m.kind = .synAck)
      (hnone : c.manager.sessions.lookup m.header.sessionId = none)
      (hlookup : c.manager.sessions.lookup (initialSessionId m) = some pSession)
      (halloc : env.allocEntry = true) (hfx : SameFx c.fx fx) :
      Handled m env c (onSession pSession (handleMessage pSession m)
        ⟨{ c.manager with
            sessions := rekey (initialSessionId m) m.header.sessionId pSession
              c.manager.sessions }, fx⟩)
  | lost {pSession : SessionRef} (hkind : m.kind = .synAck)
      (hnone : c.manager.sessions.lookup m.header.sessionId = none)
      (hlookup : c.manager.sessions.lookup (initialSessionId m) = some pSession)
      (halloc : env.allocEntry = false) :
      Handled m env c (sendReset m.header.srcClientId m.header.sessionId .error 0
        (onSession pSession (Ctx.shutdown .error)
          ⟨{ c.manager with sessions := c.manager.sessions.erase (initialSessionId m) }, c.fx⟩))

/-! ## The six outcomes -/

theorem bindToServer_spec [RoundTripTime ρ] {clientId : ClientId} {sessionVersion : SessionVersion}
    {version : Version} {r : Session ρ × Result}
    (h : bindToServer m.header.srcClientId sessionVersion version sessionId
      (.new ρ clientId .server server.protocol) = r) :
    (r.2 = .success ∧ Bound m server sessionId r.1) ∨
      (r.2 = .error ∧ r.1 = .new ρ clientId .server server.protocol) := by
  unfold bindToServer at h
  split at h
  · obtain rfl := h
    exact .inl ⟨rfl, rfl, rfl, rfl, rfl, rfl, rfl⟩
  · obtain rfl := h
    exact .inr ⟨rfl, rfl⟩

theorem Bound.filedOrNot [RoundTripTime ρ] (hs : Bound m server sessionId s) (hkind : m.kind = .syn)
    {manager : SessionManager ρ} (hfree : sessionId ∉ manager.sessions) (pSession : SessionRef)
    (fx : Effects) :
    FiledOrNot (handleMessage pSession m ⟨s, fx⟩).session manager
      (manager.sessions.insert sessionId manager.nextSession) := by
  have hid : (handleMessage pSession m ⟨s, fx⟩).session.sessionId = sessionId := by
    rw [sessionId_handleMessage, adoptedSessionId_of_kind (by rw [hkind]; decide)]
    exact hs.sessionId
  rw [FiledOrNot, hid]
  exact .inr ⟨hfree, rfl⟩

theorem unbound_shutdown (hstate : s.callbackState = .none) (htype : s.sessionType = .server)
    {reason : Result} (h : reason ≠ .success) : Unbound (s.shutdown reason) := by
  rw [shutdown_eq]
  exact ⟨shutdownState_of_ne h _, hstate, htype⟩

theorem handled_acceptSyn [RoundTripTime ρ] {c : ManagerCtx ρ} {version : Version} {r : Routing ρ}
    (hkind : m.kind = .syn)
    (hserver : c.manager.protocolServers (SynPayload.decode m.payload).protocol = some server)
    (h : acceptSyn server version m env c = some r) : Handled m env c (dispatch m r) := by
  have hselected : selectedSession m c.manager = none := by
    rw [selectedSession, hkind]
  unfold acceptSyn at h
  split at h
  · obtain ⟨id, hid, rfl⟩ := Option.map_eq_some_iff.mp h
    obtain ⟨hfree, lastSessionId, hmanager⟩ := getNewSessionId_spec hid
    dsimp only [newSession, onSession] at hfree hmanager ⊢
    rw [hmanager]
    simp only [Function.update_self, Function.update_idem]
    generalize hbound : bindToServer _ _ _ _ _ = bound
    set c₁ : ManagerCtx ρ := ⟨admitSession bound.1 lastSessionId c.manager.sessions c.manager, c.fx⟩
    have hrefuse : ∀ sessions, FiledOrNot bound.1 c.manager sessions →
        bound.1.callbackState = .none → bound.1.sessionType = .server →
        Handled m env c (sendReset m.header.srcClientId m.header.sessionId .rejected version
          (onSession c.manager.nextSession (Ctx.shutdown .rejected)
            ⟨{ c₁.manager with sessions := sessions }, c.fx⟩)) := by
      intro sessions hsessions hcallback htype
      simp only [onSession, c₁, admitSession, Function.update_self,
        Function.update_idem]
      have hs := unbound_shutdown hcallback htype (by decide : Result.rejected ≠ .success)
      have hid : (bound.1.shutdown .rejected).sessionId = bound.1.sessionId := by
        rw [shutdown_eq]
      have hfiled : FiledOrNot (bound.1.shutdown .rejected) c.manager sessions := by
        rw [FiledOrNot, hid]
        exact hsessions
      exact .refused hkind hs hfiled
    rcases bindToServer_spec hbound with ⟨hsuccess, hs⟩ | ⟨herror, hs⟩
    · simp only [hsuccess, if_true, createEntry, if_neg hfree]
      by_cases halloc : env.allocEntry = true
      · simp only [halloc, if_true, true_and]
        have hinserted := hrefuse (c.manager.sessions.insert id.1 c.manager.nextSession)
          (by rw [FiledOrNot, hs.sessionId]; exact .inr ⟨hfree, rfl⟩) hs.callbackState
          hs.sessionType
        split
        · exact .opened hkind hserver hs hfree ((SameFx.refl _).check _ _)
        · exact hinserted
      · have hkept := hrefuse c.manager.sessions (.inl rfl) hs.callbackState hs.sessionType
        simp only [halloc, Bool.false_eq_true, if_false, false_and]
        exact hkept
    · have h := hrefuse c.manager.sessions (.inl rfl) (by rw [hs]; rfl) (by rw [hs]; rfl)
      rw [herror]
      exact h
  · cases h
    exact .answered hselected (.refl _)

theorem handled_routeSyn [RoundTripTime ρ] {c : ManagerCtx ρ} {r : Routing ρ}
    (hkind : m.kind = .syn) (h : routeSyn m env c = some r) : Handled m env c (dispatch m r) := by
  have hselected : selectedSession m c.manager = none := by
    rw [selectedSession, hkind]
  dsimp only [routeSyn] at h
  split at h
  · cases h
    exact .answered hselected (.refl _)
  · rename_i hserver
    generalize ProtocolServer.getSupportedVersion _ _ _ = supported at h
    split at h
    · exact handled_acceptSyn hkind hserver h
    · cases h
      exact .answered hselected (.refl _)

theorem handled_routeSynAck [RoundTripTime ρ] (env : ManagerEnv) (c : ManagerCtx ρ)
    (hkind : m.kind = .synAck) :
    Handled m env c (dispatch m (routeSynAck m env c)) := by
  dsimp only [routeSynAck]
  split
  · rename_i pSession hlookup
    refine .delivered ?_ hlookup ((SameFx.refl _).check _ _)
    rw [selectedSession, hkind]
    simp only [hlookup, Option.some_or]
  · rename_i hnone
    split
    · rename_i hinitial
      refine .answered ?_ (.refl _)
      rw [selectedSession, hkind]
      simp only [hnone, hinitial, Option.or_none]
    · rename_i pSession hinitial
      have hfree : m.header.sessionId ∉
          (c.removeEntry (SynAckPayload.decode m.payload).initialSessionId).manager.sessions :=
        fun h => AList.lookup_eq_none.mp hnone (AList.mem_erase.mp h).2
      rw [createEntry, if_neg hfree]
      cases halloc : env.allocEntry with
      | true => exact .moved hkind hnone hinitial halloc ((SameFx.refl _).check _ _)
      | false => exact .lost hkind hnone hinitial halloc

theorem handled_of_eq [RoundTripTime ρ] {c c' : ManagerCtx ρ}
    (h : handleReceivedSessionMessage m env c = some c') : Handled m env c c' := by
  obtain ⟨r, hr, rfl⟩ := Option.map_eq_some_iff.mp h
  have hfound : selectedSession m c.manager = findOpenSession m.header.sessionId c.manager →
      Handled m env c (dispatch m ⟨checkOpenSession m.header.sessionId c,
        findOpenSession m.header.sessionId c.manager, .unavailable, 0⟩) := by
    intro hselected
    obtain ⟨hmanager, hfx⟩ := sameFx_checkOpenSession m.header.sessionId c
    generalize checkOpenSession m.header.sessionId c = c₀ at hmanager hfx ⊢
    obtain ⟨manager, fx⟩ := c₀
    obtain rfl := hmanager
    cases hopen : findOpenSession m.header.sessionId c.manager with
    | none => exact .answered (hselected.trans hopen) hfx
    | some pSession =>
      exact .delivered (hselected.trans hopen) (findOpenSession_eq_some.mp hopen).1
        (hfx.check _ _)
  unfold route at hr
  cases hkind : m.kind with
  | syn =>
    rw [hkind] at hr
    exact handled_routeSyn hkind hr
  | synAck =>
    rw [hkind] at hr
    cases hr
    exact handled_routeSynAck env c hkind
  | unknown =>
    rw [hkind] at hr
    cases hr
    exact .answered (by rw [selectedSession, hkind]) (.refl _)
  | _ =>
    rw [hkind] at hr
    cases hr
    exact hfound (by rw [selectedSession, hkind])

abbrev Entry := Sigma fun _ : SessionId => SessionRef

def disconnectEntry (dstClientId : ClientId) (c : ManagerCtx ρ) (entry : Entry) :
    ManagerCtx ρ :=
  if (c.manager.objects entry.2).remoteClientId = dstClientId then
    c.onSession entry.2 (Ctx.shutdown .notReady)
  else c

theorem handleClientDisconnection_eq (dstClientId : ClientId) (c : ManagerCtx ρ) :
    handleClientDisconnection dstClientId c =
      c.manager.sessions.entries.foldl (disconnectEntry dstClientId) c := rfl

def unregisterEntry (server : ProtocolServer) (c : ManagerCtx ρ) (entry : Entry) :
    ManagerCtx ρ :=
  if (c.manager.objects entry.2).sessionType = .server ∧
      (c.manager.objects entry.2).protocol = server.protocol then
    c.onSession entry.2 (handleUnregisterProtocolServer entry.2 server.pServer server.protocol)
  else c

def withoutServer (protocol : Protocol) (c : ManagerCtx ρ) : ManagerCtx ρ :=
  { c with manager :=
      { c.manager with
        protocolServers := Function.update c.manager.protocolServers protocol none } }

theorem unregisterProtocolServer_cases (server : ProtocolServer) (c : ManagerCtx ρ) :
    unregisterProtocolServer server c = c ∨
      unregisterProtocolServer server c = withoutServer server.protocol
        (c.manager.sessions.entries.foldl (unregisterEntry server) c) := by
  unfold unregisterProtocolServer
  split
  · exact .inr rfl
  · exact .inl rfl

theorem connect_spec [RoundTripTime ρ] (remoteClientId : ClientId) (sessionId : SessionId)
    (minProtocolVersion maxProtocolVersion : Version) (c : Ctx ρ) :
    let r := connect remoteClientId sessionId minProtocolVersion maxProtocolVersion c
    r.1.session.sessionType = c.session.sessionType ∧
      r.1.session.callbackState = c.session.callbackState ∧
      r.1.fx.callbacks = c.fx.callbacks ∧
      (r.2 = .success → r.1.session.sessionId = sessionId) := by
  dsimp only [connect]
  split
  · set c₁ : Ctx ρ :=
      { c with session :=
          { c.session with
            remoteClientId := remoteClientId
            sessionId := sessionId
            minClientProtocolVersion := minProtocolVersion } }
    have hwrite := fun p => quiet_writeMessageIntoSendWindow .syn kSynPayloadSize p c₁
    split
    · exact ⟨(hwrite _).sessionType, (hwrite _).callbackState, (hwrite _).callbacks,
        fun _ => (hwrite _).sessionId⟩
    · exact ⟨(hwrite _).sessionType, (hwrite _).callbackState, (hwrite _).callbacks,
        fun _ => (hwrite _).sessionId⟩
  · exact ⟨rfl, rfl, rfl, nofun⟩

structure ClientOnly (s : Session ρ) : Prop where
  sessionType : s.sessionType = .client
  callbackState : s.callbackState = .none

theorem establishSessionForClient_cases [RoundTripTime ρ] {info : EstablishSessionInfo}
    {c c' : ManagerCtx ρ} (h : establishSessionForClient info env c = some c') :
    c'.fx.callbacks = c.fx.callbacks ∧ (c'.manager = c.manager ∨
      ∃ (s : Session ρ) (lastSessionId : UInt32) (sessions : SessionTable),
        c'.manager = admitSession s lastSessionId sessions c.manager ∧ ClientOnly s ∧
          FiledOrNot s c.manager sessions) := by
  unfold establishSessionForClient at h
  split at h
  · obtain ⟨id, hid, rfl⟩ := Option.map_eq_some_iff.mp h
    obtain ⟨hfree, lastSessionId, hmanager⟩ := getNewSessionId_spec hid
    dsimp only [newSession, onSession] at hfree hmanager ⊢
    rw [hmanager]
    simp only [Function.update_self, Function.update_idem]
    have hspec := connect_spec info.remoteClientId id.1 info.minProtocolVersion
      info.maxProtocolVersion ⟨.new ρ c.manager.clientId .client info.protocol, c.fx⟩
    generalize connect _ _ _ _ _ = connected at hspec ⊢
    obtain ⟨htype, hcallback, hcallbacks, hsuccess⟩ := hspec
    have hclient : ClientOnly connected.1.session := ⟨htype, hcallback⟩
    split
    · rename_i hconnected
      simp only [createEntry, if_neg hfree]
      cases env.allocEntry with
      | true =>
        refine ⟨hcallbacks, .inr ⟨connected.1.session, lastSessionId, _, rfl, hclient, ?_⟩⟩
        rw [FiledOrNot, hsuccess hconnected]
        exact .inr ⟨hfree, rfl⟩
      | false =>
        have hwinds := winds_shutdown .insufficientMemory
          (⟨connected.1.session, connected.1.fx⟩ : Ctx ρ)
        refine ⟨hcallbacks, .inr ⟨connected.1.session.shutdown .insufficientMemory,
          lastSessionId, _, ?_, ⟨?_, ?_⟩, .inl rfl⟩⟩
        · simp only [Bool.false_eq_true, if_false, Function.update_self, Function.update_idem]
          rfl
        · exact hwinds.silent.sessionType.trans htype
        · exact hwinds.silent.callbackState.trans hcallback
    · exact ⟨hcallbacks, .inr ⟨connected.1.session, lastSessionId, _, rfl, hclient, .inl rfl⟩⟩
  · cases h
    exact ⟨rfl, .inl rfl⟩

end DevDriver.Analysis
