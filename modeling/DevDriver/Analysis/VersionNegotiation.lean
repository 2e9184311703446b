import DevDriver.Analysis.ManagerSteps
import Mathlib.Order.Interval.Set.Basic
import Mathlib.Order.Bounds.Basic

/-!
# Version negotiation

Two ranges of versions have a highest common version when they intersect: the smaller one of their
upper bounds.
-/

namespace DevDriver.Analysis

open Library Model

def distanceTo (lo hi b : ℕ) : ℕ := (lo - b) + (b - hi)

/-- `v` is the bound of the range from `smin` to `smax` that is nearest to the one from `cmin` to
`cmax`. -/
def NearestBound (smin smax cmin cmax v : ℕ) : Prop :=
  (v = smin ∨ v = smax) ∧ distanceTo cmin cmax v ≤ distanceTo cmin cmax smin ∧
    distanceTo cmin cmax v ≤ distanceTo cmin cmax smax

section Ranges

variable {α : Type} [LinearOrder α] {a b c d : α}

theorem inter_nonempty (hab : a ≤ b) (hcd : c ≤ d) :
    (Set.Icc a b ∩ Set.Icc c d).Nonempty ↔ a ≤ d ∧ c ≤ b := by
  rw [Set.Icc_inter_Icc, Set.nonempty_Icc, sup_le_iff, le_inf_iff, le_inf_iff]
  tauto

theorem isGreatest_inter (h : (Set.Icc a b ∩ Set.Icc c d).Nonempty) :
    IsGreatest (Set.Icc a b ∩ Set.Icc c d) (min b d) := by
  rw [Set.Icc_inter_Icc] at h ⊢
  exact isGreatest_Icc (Set.nonempty_Icc.mp h)

end Ranges

inductive Supports (lo hi cmin cmax : ℕ) : Bool → ℕ → Prop where
  | within (hlo : lo ≤ cmax) (hhi : cmax ≤ hi) : Supports lo hi cmin cmax true cmax
  | upper (hhi : hi < cmax) (hmin : cmin ≤ hi) : Supports lo hi cmin cmax true hi
  | above (hhi : hi < cmin) : Supports lo hi cmin cmax false hi
  | below (hlo : cmax < lo) (hhi : cmax ≤ hi) : Supports lo hi cmin cmax false lo

theorem getSupportedVersion_supports (s : ProtocolServer) (minVersion maxVersion : Version) :
    Supports s.minVersion.toNat s.maxVersion.toNat minVersion.toNat maxVersion.toNat
      (s.getSupportedVersion minVersion maxVersion).1
      (s.getSupportedVersion minVersion maxVersion).2.toNat := by
  unfold ProtocolServer.getSupportedVersion
  simp only [UInt16.le_iff_toNat_le, ge_iff_le, not_le]
  split
  · rename_i hwithin
    exact .within hwithin.2 hwithin.1
  · rename_i hwithin
    split
    · rename_i hupper
      exact .upper hupper.1 hupper.2
    · rename_i hupper
      split
      · rename_i habove
        exact .above habove
      · rename_i habove
        exact .below (by omega) (by omega)

/-- A decision about two ranges: whether they have a common version, and the version that is
reported. -/
structure NegotiatesRanges (smin smax cmin cmax : ℕ) (accepted : Bool) (v : ℕ) : Prop where
  accepts : accepted = true ↔ (Set.Icc smin smax ∩ Set.Icc cmin cmax).Nonempty
  highest : accepted = true → v = min smax cmax
  nearest : accepted = false → NearestBound smin smax cmin cmax v

section Decisions

variable {smin smax cmin cmax v : ℕ} {accepted : Bool}

theorem Supports.negotiates (hs : smin ≤ smax) (hc : cmin ≤ cmax)
    (h : Supports smin smax cmin cmax accepted v) :
    NegotiatesRanges smin smax cmin cmax accepted v := by
  have hinter := inter_nonempty hs hc
  cases h with
  | within hlo hhi =>
    exact ⟨iff_of_true rfl (hinter.mpr ⟨hlo, hc.trans hhi⟩), fun _ => (Nat.min_eq_right hhi).symm,
      nofun⟩
  | upper hhi hmin =>
    exact ⟨iff_of_true rfl (hinter.mpr ⟨hs.trans hhi.le, hmin⟩),
      fun _ => (Nat.min_eq_left hhi.le).symm, nofun⟩
  | above hhi =>
    refine ⟨iff_of_false nofun fun hne => ?_, nofun, fun _ => ⟨.inr rfl, ?_, le_rfl⟩⟩
    · exact absurd (hinter.mp hne).2 (Nat.not_le.mpr hhi)
    · unfold distanceTo
      omega
  | below hlo hhi =>
    refine ⟨iff_of_false nofun fun hne => ?_, nofun, fun _ => ⟨.inl rfl, le_rfl, ?_⟩⟩
    · exact absurd (hinter.mp hne).1 (Nat.not_le.mpr hlo)
    · unfold distanceTo
      omega

/-- When a client does not notice that the bounds of the range were exchanged and cut to 16
bits. -/
def ExchangeUnnoticed (smin smax cmax : ℕ) : Prop :=
  (smin = smax ∧ smax < 2 ^ 16) ∨ (smin < 2 ^ 16 ∧ 2 ^ 16 ≤ smax ∧
    ((cmax = smin ∧ smax % 2 ^ 16 ≤ smin) ∨ (cmax < smin ∧ smax % 2 ^ 16 = smin)))

theorem Supports.negotiates_exchanged (hs : smin ≤ smax) (hc : cmin ≤ cmax) (hmax : cmax < 2 ^ 16)
    (h : Supports (smax % 2 ^ 16) (smin % 2 ^ 16) cmin cmax accepted v) :
    NegotiatesRanges smin smax cmin cmax accepted v ↔ ExchangeUnnoticed smin smax cmax := by
  have hinter := inter_nonempty hs hc
  unfold ExchangeUnnoticed
  constructor
  · rintro ⟨haccepts, hhighest, hnearest⟩
    rw [hinter] at haccepts
    unfold NearestBound distanceTo at hnearest
    cases h <;> simp at haccepts hhighest hnearest <;> omega
  · intro hun
    refine ⟨?_, ?_, ?_⟩
    · rw [hinter]
      cases h <;> simp <;> omega
    · cases h <;> simp <;> omega
    · unfold NearestBound distanceTo
      cases h <;> simp <;> omega

theorem NegotiatesRanges.isGreatest (h : NegotiatesRanges smin smax cmin cmax accepted v)
    (haccepted : accepted = true) : IsGreatest (Set.Icc smin smax ∩ Set.Icc cmin cmax) v := by
  rw [h.highest haccepted]
  exact isGreatest_inter (h.accepts.mp haccepted)

end Decisions

/-! ## The Syn -/

def requestedRange : ServerRequest → ℕ × ℕ
  | .construct _ minVersion maxVersion => (minVersion.toNat, maxVersion.toNat)
  | .ddSocketListen info => (info.versionRange.min.toNat, info.versionRange.max.toNat)

def clientUpper (request : SynPayload) : Version :=
  if request.sessionVersion ≥ kSessionProtocolRangeVersion then request.maxVersion
  else request.minVersion

section Syn

variable {ρ : Type} [RoundTripTime ρ]

/-- A Syn is decided as it should be for a server with the given range: the version goes to the
new session, and the version that does not match goes into the reset. -/
def NegotiatesSyn (range : ℕ × ℕ) (m : MessageBuffer) (env : ManagerEnv) (x : ManagerCtx ρ) :
    Prop :=
  let request := SynPayload.decode m.payload
  ∃ r, route m env x = some r ∧ handleReceivedSessionMessage m env x = some (dispatch m r) ∧
    NegotiatesRanges range.1 range.2 request.minVersion.toNat (clientUpper request).toNat
      (decide (r.reason ≠ .versionMismatch)) r.version.toNat ∧
    (r.reason ≠ .versionMismatch →
      IsGreatest (Set.Icc range.1 range.2 ∩
        Set.Icc request.minVersion.toNat (clientUpper request).toNat) r.version.toNat) ∧
    (∀ p, r.pSession = some p → (r.c.manager.objects p).protocolVersion = r.version) ∧
    (r.reason = .versionMismatch → dispatch m r =
      sendReset m.header.srcClientId m.header.sessionId .versionMismatch r.version x)

def enterSession (m : MessageBuffer) (version : Version) (env : ManagerEnv)
    (pSession : SessionRef) (sessionId : SessionId) (c : ManagerCtx ρ) : ManagerCtx ρ × Bool :=
  let bound := bindToServer m.header.srcClientId (SynPayload.decode m.payload).sessionVersion
    version sessionId (c.manager.objects pSession)
  let c := c.onSession pSession fun s => { s with session := bound.1 }
  if bound.2 = .success then c.createEntry env.allocEntry sessionId pSession else (c, false)

omit [RoundTripTime ρ] in
theorem bindToServer_protocolVersion {remoteClientId : ClientId} {sessionVersion : SessionVersion}
    {version : Version} {sessionId : SessionId} {s : Session ρ}
    (h : (bindToServer remoteClientId sessionVersion version sessionId s).2 = .success) :
    (bindToServer remoteClientId sessionVersion version sessionId s).1.protocolVersion =
      version := by
  unfold bindToServer at h ⊢
  split at h
  · rename_i hvalid
    rw [if_pos hvalid]
  · cases h

omit [RoundTripTime ρ] in
theorem objects_createEntry (allocEntry : Bool) (sessionId : SessionId) (pSession : SessionRef)
    (c : ManagerCtx ρ) :
    (c.createEntry allocEntry sessionId pSession).1.manager.objects = c.manager.objects := by
  unfold ManagerCtx.createEntry
  split
  · rfl
  · split <;> rfl

omit [RoundTripTime ρ] in
theorem enterSession_protocolVersion {m : MessageBuffer} {version : Version} {env : ManagerEnv}
    {pSession : SessionRef} {sessionId : SessionId} {c : ManagerCtx ρ}
    (h : (enterSession m version env pSession sessionId c).2 = true) :
    ((enterSession m version env pSession sessionId c).1.manager.objects pSession).protocolVersion =
      version := by
  unfold enterSession at h ⊢
  dsimp only at h ⊢
  split at h
  · rename_i hbound
    rw [if_pos hbound, objects_createEntry, objects_onSession]
    exact bindToServer_protocolVersion hbound
  · cases h

theorem acceptSyn_spec (server : ProtocolServer) (version : Version) {m : MessageBuffer}
    (env : ManagerEnv) {x : ManagerCtx ρ}
    (hid : (getNewSessionId m.header.sessionId x.manager).isSome = true) :
    ∃ r, acceptSyn server version m env x = some r ∧ r.reason = .rejected ∧
      r.version = version ∧
      ∀ p, r.pSession = some p → (r.c.manager.objects p).protocolVersion = version := by
  unfold acceptSyn
  by_cases halloc : env.allocSession = true
  · rw [if_pos halloc]
    have hid' : (getNewSessionId m.header.sessionId (x.newSession
        (.new ρ x.manager.clientId .server server.protocol)).1.manager).isSome = true := by
      unfold getNewSessionId at hid ⊢
      rw [Option.isSome_map] at hid ⊢
      exact hid
    obtain ⟨id, hsome⟩ := Option.isSome_iff_exists.mp hid'
    simp only [hsome, Option.map_some]
    by_cases hentry : (enterSession m version env (x.newSession (.new ρ x.manager.clientId .server
        server.protocol)).2 id.1 ⟨id.2, x.fx⟩).2 = true ∧ env.acceptSession = true
    · refine ⟨_, congrArg some (if_pos hentry), rfl, rfl, fun p hp => ?_⟩
      cases hp
      exact enterSession_protocolVersion hentry.1
    · exact ⟨_, congrArg some (if_neg hentry), rfl, rfl, nofun⟩
  · rw [if_neg halloc]
    exact ⟨_, rfl, rfl, rfl, nofun⟩

theorem clientUpper_eq {request : SynPayload} (hc : request.minVersion ≤ clientUpper request) :
    (if request.sessionVersion ≥ kSessionProtocolRangeVersion then
      max request.maxVersion request.minVersion else request.minVersion) = clientUpper request := by
  unfold clientUpper at hc ⊢
  split
  · rename_i hrange
    rw [if_pos hrange] at hc
    show (if request.maxVersion ≤ request.minVersion then request.minVersion
      else request.maxVersion) = request.maxVersion
    split
    · rename_i hle
      exact UInt16.le_antisymm hc hle
    · rfl
  · rfl

theorem negotiatesSyn_iff (range : ℕ × ℕ) {server : ProtocolServer} {m : MessageBuffer}
    (env : ManagerEnv) {x : ManagerCtx ρ} (hsyn : m.kind = .syn)
    (hserver : x.manager.protocolServers (SynPayload.decode m.payload).protocol = some server)
    (hclient : (SynPayload.decode m.payload).minVersion ≤ clientUpper (SynPayload.decode m.payload))
    (hid : (getNewSessionId m.header.sessionId x.manager).isSome = true) :
    NegotiatesSyn range m env x ↔
      NegotiatesRanges range.1 range.2 (SynPayload.decode m.payload).minVersion.toNat
        (clientUpper (SynPayload.decode m.payload)).toNat
        (server.getSupportedVersion (SynPayload.decode m.payload).minVersion
          (clientUpper (SynPayload.decode m.payload))).1
        (server.getSupportedVersion (SynPayload.decode m.payload).minVersion
          (clientUpper (SynPayload.decode m.payload))).2.toNat := by
  have hupper := clientUpper_eq hclient
  generalize hsupported : server.getSupportedVersion (SynPayload.decode m.payload).minVersion
    (clientUpper (SynPayload.decode m.payload)) = supported
  have hroute : route m env x = if supported.1 then acceptSyn server supported.2 m env x
      else some ⟨x, none, .versionMismatch, supported.2⟩ := by
    unfold route routeSyn
    simp only [hsyn, hserver, hupper, hsupported]
  unfold NegotiatesSyn handleReceivedSessionMessage
  cases haccepted : supported.1 with
  | true =>
    obtain ⟨r, hr, hreason, hversion, hsession⟩ := acceptSyn_spec server supported.2 env hid
    rw [hroute, haccepted, if_pos rfl, hr]
    constructor
    · rintro ⟨r', hr', -, hranges, -⟩
      obtain rfl := Option.some.inj hr'
      rw [hreason, hversion] at hranges
      exact hranges
    · intro hranges
      refine ⟨r, rfl, rfl, ?_, ?_, ?_, ?_⟩
      · rw [hreason, hversion]
        exact hranges
      · rw [hversion]
        exact fun _ => hranges.isGreatest rfl
      · rw [hversion]
        exact hsession
      · rw [hreason]
        exact nofun
  | false =>
    rw [hroute, haccepted, if_neg nofun]
    constructor
    · rintro ⟨r', hr', -, hranges, -⟩
      obtain rfl := Option.some.inj hr'
      exact hranges
    · intro hranges
      exact ⟨_, rfl, rfl, hranges, fun h => absurd rfl h, nofun, fun _ => rfl⟩

/-- The server negotiates with the range that its owner asked for, or the client with this upper
bound does not notice that it has another one. -/
def RangePassedOn (upper : ℕ) : ServerRequest → Prop
  | .construct _ _ _ => True
  | .ddSocketListen info =>
    ExchangeUnnoticed info.versionRange.min.toNat info.versionRange.max.toNat upper

/-- The highest common version is picked exactly for servers that were made by a constructor, and
for those that listen on a socket with a range of a single version, up to ranges that do not fit a
version. -/
theorem version_negotiation (request : ServerRequest) (pServer : ServerRef)
    (hrange : (requestedRange request).1 ≤ (requestedRange request).2) {m : MessageBuffer}
    (env : ManagerEnv) {x : ManagerCtx ρ} (hsyn : m.kind = .syn)
    (hserver : x.manager.protocolServers (SynPayload.decode m.payload).protocol =
      some (request.server pServer))
    (hclient : (SynPayload.decode m.payload).minVersion ≤ clientUpper (SynPayload.decode m.payload))
    (hid : (getNewSessionId m.header.sessionId x.manager).isSome = true) :
    NegotiatesSyn (requestedRange request) m env x ↔
      RangePassedOn (clientUpper (SynPayload.decode m.payload)).toNat request := by
  rw [negotiatesSyn_iff _ env hsyn hserver hclient hid]
  have hc : (SynPayload.decode m.payload).minVersion.toNat ≤
      (clientUpper (SynPayload.decode m.payload)).toNat := UInt16.le_iff_toNat_le.mp hclient
  have hsupports := getSupportedVersion_supports (request.server pServer)
    (SynPayload.decode m.payload).minVersion (clientUpper (SynPayload.decode m.payload))
  cases request with
  | construct protocol minVersion maxVersion =>
    exact iff_of_true (hsupports.negotiates hrange hc) trivial
  | ddSocketListen info =>
    exact hsupports.negotiates_exchanged hrange hc (UInt16.toNat_lt _)

end Syn

def synMessage (request : SynPayload) : MessageBuffer where
  header := ⟨2, 1, Protocol.session, SessionMessage.syn.toCode, 0, kSynPayloadSize, 5, 1⟩
  payload := writeBytes request.encode MessageBuffer.zero.payload

def servedBy (server : ProtocolServer) : ManagerCtx ℚ :=
  calmEnv.start { SessionManager.new ℚ 1 0 with protocolServers := fun _ => some server }

theorem version_negotiation_constructed : NegotiatesSyn (1, 3) (synMessage ⟨2, 20, 1, 5⟩) calmEnv
    (servedBy (BaseProtocolServer.create 0 20 1 3)) :=
  (version_negotiation (.construct 20 1 3) 0 (by decide) calmEnv rfl rfl (by decide)
    (by decide +kernel)).mpr trivial

/-- A server that listens with the versions 1 to 2 does not agree on 2 with a client for the same
versions. -/
theorem listening_server_negotiates_lower : ¬ ∀ (request : ServerRequest) (pServer : ServerRef)
    (m : MessageBuffer) (env : ManagerEnv) (x : ManagerCtx ℚ),
    (requestedRange request).1 ≤ (requestedRange request).2 → m.kind = .syn →
    x.manager.protocolServers (SynPayload.decode m.payload).protocol =
      some (request.server pServer) →
    (SynPayload.decode m.payload).minVersion ≤ clientUpper (SynPayload.decode m.payload) →
    (getNewSessionId m.header.sessionId x.manager).isSome = true →
    NegotiatesSyn (requestedRange request) m env x := by
  intro hall
  let request : ServerRequest := .ddSocketListen ⟨20, ⟨1, 2⟩⟩
  have hdecides := hall request 0 (synMessage ⟨1, 20, 1, 2⟩) calmEnv
    (servedBy (request.server 0)) (by decide) rfl rfl (by decide) (by decide +kernel)
  have hranges := (negotiatesSyn_iff _ calmEnv (x := servedBy (request.server 0)) rfl rfl
    (by decide) (by decide +kernel)).mp hdecides
  exact absurd (hranges.highest (by decide)) (by decide)

end DevDriver.Analysis
