import DevDriver.Analysis.EventServerBlocks
import DevDriver.Model.ServerSessions

/-!
# The blocks that sessions leave registered

The blocks that URI and event sessions opened and that still are registered, over whole runs of both
servers.
-/

namespace DevDriver.Analysis

open Library Model

def liveSessions (s : ServerSessions) : ℕ := s.uriSessions.length + s.eventSessions.length

def uriBlocks (session : URISession) : List SharedServerBlock :=
  session.pResponseBlock.toList ++ session.pPostDataBlock.toList

def eventBlock (s : EventServer) (r : EventSessionRef) : Option SharedServerBlock :=
  (s.sessions r).bind (·.pUpdateBlock)

def heldBlocks (s : ServerSessions) : List SharedServerBlock :=
  s.uriSessions.flatMap uriBlocks ++
    (sessionReferences s.eventServer).filterMap (eventBlock s.eventServer)

/-- A session of either server still refers to the block. -/
def SessionHolds (uriSessions : List URISession) (eventServer : EventServer)
    (x : SharedServerBlock) : Prop :=
  (∃ session ∈ uriSessions, UriHolds session x) ∨ EventHolds eventServer x

def openedBlocks (tr : List (ServerSessions × ServerSessionsAction × List SharedServerBlock)) :
    List SharedServerBlock :=
  tr.flatMap (·.2.2)

def registeredBlocks (tr : List (ServerSessions × ServerSessionsAction × List SharedServerBlock))
    (t : ServerSessions) : List SharedServerBlock :=
  (openedBlocks tr).filter fun x => IsRegistered t.manager.registeredServerBlocks x

theorem mem_uriBlocks {session : URISession} {x : SharedServerBlock} :
    x ∈ uriBlocks session ↔ UriHolds session x := by
  simp [uriBlocks, UriHolds]

variable {s : ServerSessions}

theorem mem_heldBlocks {x : SharedServerBlock} :
    x ∈ heldBlocks s ↔ SessionHolds s.uriSessions s.eventServer x := by
  simp only [heldBlocks, SessionHolds, EventHolds, eventBlock, List.mem_append, List.mem_flatMap,
    List.mem_filterMap, mem_uriBlocks, Option.bind_eq_some_iff]

theorem length_uriBlocks_le (session : URISession) : (uriBlocks session).length ≤ 2 := by
  have hle : ∀ o : Option SharedServerBlock, o.toList.length ≤ 1 := by
    intro o
    cases o <;> simp
  have hresponse := hle session.pResponseBlock
  have hpost := hle session.pPostDataBlock
  rw [uriBlocks, List.length_append]
  omega

theorem length_heldBlocks_le (h : WellFormed s.eventSessions s.eventServer) :
    (heldBlocks s).length ≤ 2 * liveSessions s := by
  have huri : ∀ l : List URISession, (l.flatMap uriBlocks).length ≤ 2 * l.length := by
    intro l
    induction l with
    | nil => exact Nat.zero_le _
    | cons session l ih =>
      have hsession := length_uriBlocks_le session
      simp only [List.flatMap_cons, List.length_append, List.length_cons]
      omega
  have hsessions := huri s.uriSessions
  have hevent := (List.length_filterMap_le (eventBlock s.eventServer)
    (sessionReferences s.eventServer)).trans h.length_le
  simp only [heldBlocks, liveSessions, List.length_append]
  omega

/-! ## Steps -/

/-- The blocks that were opened are owned by the sessions, each of which can still be deleted. -/
structure BlocksOwned (opened : List SharedServerBlock) (s : ServerSessions) : Prop where
  owned : Owned opened (SessionHolds s.uriSessions s.eventServer) ⟨s.manager, [], []⟩
  wellFormed : WellFormed s.eventSessions s.eventServer

/-- A step that overwrites no pointer to a block and abandons no session with a block. -/
def ReleasesBlocks (s : ServerSessions) : ServerSessionsAction → Prop
  | .updateUriSession index services draws receives sends =>
    ∀ session, s.uriSessions[index]? = some session →
      KeepsUriBlocks (s.uriContext session services draws receives sends)
  | .updateEventSession id draws receives sends =>
    KeepsEventBlocks id (s.eventContext draws receives sends)
  | _ => True

section Steps

variable {opened : List SharedServerBlock} {s t : ServerSessions}
  {held : SharedServerBlock → Prop}

theorem Owned.finish {b : BlockCtx} (h : Owned opened held b) :
    Owned (opened ++ b.opened) held ⟨b.manager, [], []⟩ := by
  refine ⟨?_, ?_, ?_⟩
  · rw [List.append_nil]
    exact h.accounted
  · rw [List.append_nil]
    exact h.old
  · rw [List.append_nil]
    exact h.nodup

theorem Owned.start {manager : TransferManager} (h : Owned opened held ⟨manager, [], []⟩)
    (draws : List (Option BlockId)) : Owned opened held ⟨manager, draws, []⟩ :=
  ⟨h.accounted, h.old, h.nodup⟩

theorem Owned.openServerBlock_other {manager : TransferManager}
    (h : Owned opened held ⟨manager, [], []⟩) (newBlockId : BlockId) :
    Owned opened held ⟨manager.openServerBlock newBlockId, [], []⟩ := by
  refine ⟨?_, fun x hx => Nat.lt_succ_of_lt (h.old x hx), h.nodup⟩
  apply h.accounted.register_other (x := ⟨newBlockId, manager.nextBlock⟩)
  intro hx
  exact Nat.lt_irrefl _ (h.old _ hx)

variable {index : ℕ} {session : URISession}

theorem sessionHolds_iff {sessions : List URISession} (hsession : sessions[index]? = some session)
    (eventServer : EventServer) (x : SharedServerBlock) :
    SessionHolds sessions eventServer x ↔
      (SessionHolds (sessions.eraseIdx index) eventServer x ∨ UriHolds session x) := by
  obtain ⟨hindex, rfl⟩ := List.getElem?_eq_some_iff.mp hsession
  have hmem : ∀ session', session' ∈ sessions ↔
      session' = sessions[index] ∨ session' ∈ sessions.eraseIdx index := by
    intro session'
    rw [← (List.getElem_cons_eraseIdx_perm hindex).mem_iff, List.mem_cons]
  simp only [SessionHolds, hmem, or_and_right, exists_or, exists_eq_left]
  rw [or_assoc, or_comm]

theorem BlocksOwned.context (h : BlocksOwned opened s)
    (hsession : s.uriSessions[index]? = some session) (services : UriServices)
    (draws : List (Option BlockId)) (receives : List ReceiveAnswer) (sends : List Result) :
    UriOwned opened (SessionHolds (s.uriSessions.eraseIdx index) s.eventServer)
      (s.uriContext session services draws receives sends) :=
  (h.owned.start draws).mono fun x hx => (sessionHolds_iff hsession s.eventServer x).mp hx

theorem BlocksOwned.updateUriSession (h : BlocksOwned opened s)
    (hsession : s.uriSessions[index]? = some session) {c : UriServerCtx}
    (howned : UriOwned opened (SessionHolds (s.uriSessions.eraseIdx index) s.eventServer) c) :
    BlocksOwned (opened ++ c.blocks.opened)
      { s with manager := c.blocks.manager, uriSessions := s.uriSessions.set index c.session } := by
  refine ⟨(Owned.finish howned).mono fun x hx => ?_, h.wellFormed⟩
  obtain ⟨hindex, -⟩ := List.getElem?_eq_some_iff.mp hsession
  have hset : (s.uriSessions.set index c.session)[index]? = some c.session :=
    List.getElem?_set_self hindex
  rw [sessionHolds_iff hset, List.eraseIdx_set_eq]
  exact hx

theorem BlocksOwned.uriSessionTerminated (h : BlocksOwned opened s)
    (hsession : s.uriSessions[index]? = some session) :
    BlocksOwned
      (opened ++ (s.uriContext session (fun _ => none) [] [] []).destroy.blocks.opened)
      { s with
        manager := (s.uriContext session (fun _ => none) [] [] []).destroy.blocks.manager
        uriSessions := s.uriSessions.eraseIdx index } :=
  ⟨Owned.finish (h.context hsession (fun _ => none) [] [] []).destroy, h.wellFormed⟩

theorem BlocksOwned.eventContext (h : BlocksOwned opened s) (draws : List (Option BlockId))
    (receives : List ReceiveAnswer) (sends : List Result) :
    EventOwned opened (fun x => ∃ session ∈ s.uriSessions, UriHolds session x) s.eventSessions
      (s.eventContext draws receives sends) :=
  ⟨h.owned.start draws, h.wellFormed⟩

theorem BlocksOwned.afterEvent {live : List SessionId} {c : EventCtx}
    (h : EventOwned opened (fun x => ∃ session ∈ s.uriSessions, UriHolds session x) live c) :
    BlocksOwned (opened ++ c.blocks.opened)
      { (s.afterEvent c).1 with eventSessions := live } :=
  ⟨h.blocks.finish, h.wellFormed⟩

/-- A block that is registered has an owner after each step. -/
theorem BlocksOwned.step (h : BlocksOwned opened s) {a : ServerSessionsAction}
    {o : List SharedServerBlock} (hreleases : ReleasesBlocks s a)
    (hstep : s.step a = some (t, o)) : BlocksOwned (opened ++ o) t := by
  cases a with
  | openServerBlock newBlockId =>
    cases hstep
    rw [List.append_nil]
    exact ⟨h.owned.openServerBlock_other newBlockId, h.wellFormed⟩
  | closeServerBlock serverBlockId =>
    cases hstep
    rw [List.append_nil]
    refine ⟨⟨?_, h.owned.old, h.owned.nodup⟩, h.wellFormed⟩
    exact h.owned.accounted.unregister serverBlockId fun x hx _ => hx
  | blockOperation pBlock operation =>
    cases hstep
    rw [List.append_nil]
    exact ⟨⟨h.owned.accounted, h.owned.old, h.owned.nodup⟩, h.wellFormed⟩
  | uriSessionEstablished version =>
    cases hstep
    rw [List.append_nil]
    refine ⟨h.owned.mono ?_, h.wellFormed⟩
    rintro x (⟨session, hsession, hx⟩ | hx)
    · exact .inl ⟨session, List.mem_append_left _ hsession, hx⟩
    · exact .inr hx
  | updateUriSession index services draws receives sends =>
    obtain ⟨session, hsession, heq⟩ := Option.map_eq_some_iff.mp hstep
    cases heq
    apply h.updateUriSession hsession
    exact (h.context hsession services draws receives sends).update (hreleases session hsession)
  | uriSessionTerminated index =>
    obtain ⟨session, hsession, heq⟩ := Option.map_eq_some_iff.mp hstep
    cases heq
    exact h.uriSessionTerminated hsession
  | registerProvider providerId provider =>
    cases hstep
    have hkeeps : KeepsSessions s.eventServer
        (s.eventServer.registerProvider providerId provider).2 :=
      keepsSessions_registerProvider providerId provider
    rw [List.append_nil]
    refine ⟨h.owned.mono ?_, hkeeps.wellFormed h.wellFormed⟩
    rintro x (hx | hx)
    · exact .inl hx
    · exact .inr (hkeeps.holds hx)
  | unregisterProvider providerId =>
    cases hstep
    exact BlocksOwned.afterEvent ((h.eventContext [] [] []).unregisterProvider providerId)
  | eventSessionEstablished id =>
    obtain ⟨hnew, ⟨⟩⟩ := Option.ite_none_left_eq_some.mp hstep
    exact BlocksOwned.afterEvent ((h.eventContext [] [] []).sessionEstablished hnew)
  | updateEventSession id draws receives sends =>
    obtain ⟨-, ⟨⟩⟩ := Option.ite_none_right_eq_some.mp hstep
    exact BlocksOwned.afterEvent
      ((h.eventContext draws receives sends).updateSession hreleases)
  | eventSessionTerminated id =>
    obtain ⟨-, ⟨⟩⟩ := Option.ite_none_right_eq_some.mp hstep
    exact BlocksOwned.afterEvent (h.eventContext [] [] []).sessionTerminated

end Steps

theorem blocksOwned_init (h : serverSessionsMachine.init s) : BlocksOwned [] s := by
  obtain rfl := h
  refine ⟨⟨nofun, nofun, List.nodup_nil⟩, ⟨List.nodup_nil, nofun, nofun, nofun⟩⟩

theorem BlocksOwned.trace {t : ServerSessions}
    {tr : List (ServerSessions × ServerSessionsAction × List SharedServerBlock)}
    (h : serverSessionsMachine.Trace s tr t) (hs : BlocksOwned [] s)
    (hreleases : ∀ x ∈ tr, ReleasesBlocks x.1 x.2.1) : BlocksOwned (openedBlocks tr) t := by
  induction h with
  | nil => exact hs
  | @snoc t u tr a o _ hstep ih =>
    have hbefore : BlocksOwned (openedBlocks tr) t :=
      ih fun x hx => hreleases x (List.mem_append_left _ hx)
    have hlast : ReleasesBlocks t a :=
      hreleases (t, a, o) (List.mem_append_right _ (List.mem_singleton_self _))
    have hopened : openedBlocks (tr ++ [(t, a, o)]) = openedBlocks tr ++ o := by
      simp [openedBlocks]
    rw [hopened]
    exact hbefore.step hlast hstep

/-- A block that a session opened is registered only while a session holds it, and there are at
most two of them for every session that is alive. -/
theorem server_blocks_released {s t : ServerSessions}
    {tr : List (ServerSessions × ServerSessionsAction × List SharedServerBlock)}
    (hinit : serverSessionsMachine.init s) (h : serverSessionsMachine.Trace s tr t)
    (hreleases : ∀ x ∈ tr, ReleasesBlocks x.1 x.2.1) :
    (∀ x ∈ openedBlocks tr, IsRegistered t.manager.registeredServerBlocks x →
      SessionHolds t.uriSessions t.eventServer x) ∧
    (registeredBlocks tr t).length ≤ 2 * liveSessions t := by
  have howned := (blocksOwned_init hinit).trace h hreleases
  have haccounted : AllHeld t.manager.registeredServerBlocks (openedBlocks tr)
      (SessionHolds t.uriSessions t.eventServer) := by
    simpa using howned.owned.accounted
  have hnodup : (openedBlocks tr).Nodup := by
    simpa using howned.owned.nodup
  refine ⟨haccounted, ?_⟩
  apply ((haccounted.mono fun x hx => mem_heldBlocks.mpr hx).length_le hnodup).trans
  exact length_heldBlocks_le howned.wellFormed

def noServerSessions : ServerSessions := ⟨.new, [], .new, []⟩

def newUriSession : ServerSessions := ⟨.new, [.new uriPostProtocolVersion], .new, []⟩

def plainRequest : SessionPayload :=
  ⟨uriRequestPayload [97, 58, 47, 47] kInvalidBlockId URIDataFormat.unknown 0, by decide +kernel⟩

def oneByteService : UriServices :=
  fun _ => some ⟨fun _ _ => ⟨.success, [1], URIDataFormat.binary⟩, fun _ => 0⟩

def serveRequest (newBlockId : BlockId) : ServerSessionsAction :=
  .updateUriSession 0 oneByteService [some newBlockId] [.payload plainRequest] [.success]

def firstRequest : List (ServerSessions × ServerSessionsAction × List SharedServerBlock) :=
  serverSessionsMachine.transitions noServerSessions
    [.uriSessionEstablished uriPostProtocolVersion, serveRequest 5]

theorem mem_firstRequest {x : ServerSessions × ServerSessionsAction × List SharedServerBlock}
    (h : x ∈ firstRequest) :
    x.2.1 = .uriSessionEstablished uriPostProtocolVersion ∨
      x.1 = newUriSession ∧ x.2.1 = serveRequest 5 := by
  have heq : firstRequest.map (fun x => (x.1, x.2.1)) =
      [(noServerSessions, .uriSessionEstablished uriPostProtocolVersion),
        (newUriSession, serveRequest 5)] := rfl
  have hmem := List.mem_map_of_mem (f := fun x => (x.1, x.2.1)) h
  rw [heq] at hmem
  rcases List.mem_cons.mp hmem with hfirst | hsecond
  · exact .inl (Prod.mk.inj hfirst).2
  · exact .inr (Prod.mk.inj (List.mem_singleton.mp hsecond))

theorem server_blocks_released_request :
    ∃ t, serverSessionsMachine.Trace noServerSessions firstRequest t ∧
      (openedBlocks firstRequest).length = 1 ∧
      (registeredBlocks firstRequest t).length ≤ 2 * liveSessions t := by
  obtain ⟨t, hrun, hopened⟩ :=
    serverSessionsMachine.exists_of_run noServerSessions
      [.uriSessionEstablished uriPostProtocolVersion, serveRequest 5]
      (fun _ => (openedBlocks firstRequest).length = 1) (by decide +kernel)
  have htrace : serverSessionsMachine.Trace noServerSessions firstRequest t := .of_run hrun
  have hreleases : ∀ x ∈ firstRequest, ReleasesBlocks x.1 x.2.1 := by
    rintro ⟨s, a, o⟩ hx
    rcases mem_firstRequest hx with rfl | ⟨rfl, rfl⟩
    · trivial
    · rintro session ⟨⟩ -
      exact ⟨fun _ => rfl, fun _ => rfl⟩
  exact ⟨t, htrace, hopened,
    (server_blocks_released rfl htrace hreleases).2⟩

/-- No number of blocks a session bounds those that are registered: a session that serves two
requests leaves a block behind when it is terminated. -/
theorem server_blocks_accumulate :
    ¬ ∃ bound, ∀ s tr t, serverSessionsMachine.init s → serverSessionsMachine.Trace s tr t →
      (registeredBlocks tr t).length ≤ bound * liveSessions t := by
  rintro ⟨bound, hbound⟩
  let as : List ServerSessionsAction := [.uriSessionEstablished uriPostProtocolVersion,
    serveRequest 5, serveRequest 6, .uriSessionTerminated 0]
  obtain ⟨t, hrun, hregistered, hlive⟩ := serverSessionsMachine.exists_of_run noServerSessions as
    (fun t => (registeredBlocks (serverSessionsMachine.transitions noServerSessions as) t).length =
      1 ∧ liveSessions t = 0) (by decide +kernel)
  have hle := hbound noServerSessions _ t rfl (.of_run hrun)
  rw [hregistered, hlive, Nat.mul_zero] at hle
  exact absurd hle (by decide)

end DevDriver.Analysis
