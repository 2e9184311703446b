import DevDriver.Analysis.ClientMetadata

/-!
# Registration of a channel

What `Register` of messageChannel.inl leaves behind over a `SocketMsgTransport`.
-/

namespace DevDriver.Analysis

open Library Model

/-- A reply that the registration loop takes for the answer of the router. -/
def IsConnectResponse (reply : MessageBuffer) : Prop :=
  reply.header.protocolId = Protocol.clientManagement ∧ reply.IsOutOfBand ∧
    reply.IsValidOutOfBand ∧ reply.header.messageId = ManagementMessage.connectResponse

def receiveBuffer (round : RegisterRound) (buffer : MessageBuffer) : MessageBuffer :=
  match round.read with
  | .inl m => m.receiveInto buffer
  | .inr _ => buffer

/-- A round that decides nothing: the request is not written yet, nothing is read in time, or what
is read is of another protocol or an answer that the router is not ready. -/
def Undecided (round : RegisterRound) (buffer : MessageBuffer) : Prop :=
  round.write = .notReady ∨ round.write = .success ∧
    match round.read with
    | .inr failed => failed.1 = .notReady
    | .inl m => (m.receiveInto buffer).header.protocolId ≠ Protocol.clientManagement ∨
        IsConnectResponse (m.receiveInto buffer) ∧
          (ConnectResponsePayload.decode (m.receiveInto buffer).payload).result = .notReady

/-- The rounds bring the router's consent with a client id before the time is over. -/
inductive Accepted (timeoutInMs : ℕ) : List RegisterRound → MessageBuffer → ClientId → Prop
  | consent {round : RegisterRound} {rounds : List RegisterRound} {buffer m : MessageBuffer}
      (hwrite : round.write = .success) (hread : round.read = .inl m)
      (hresponse : IsConnectResponse (m.receiveInto buffer))
      (hresult : (ConnectResponsePayload.decode (m.receiveInto buffer).payload).result = .success) :
      Accepted timeoutInMs (round :: rounds) buffer
        (ConnectResponsePayload.decode (m.receiveInto buffer).payload).clientId
  | wait {round : RegisterRound} {rounds : List RegisterRound} {buffer : MessageBuffer}
      {clientId : ClientId} (hundecided : Undecided round buffer)
      (htime : round.elapsedTime < timeoutInMs)
      (hrest : Accepted timeoutInMs rounds (receiveBuffer round buffer) clientId) :
      Accepted timeoutInMs (round :: rounds) buffer clientId

/-- The transport has a socket, which can be set up, bound and connected. -/
structure Connects (answers : ConnectAnswers) : Prop where
  socket : answers.socket = true
  nonBlocking : answers.nonBlocking = true
  bind : answers.bind = .success
  connect : answers.connect = .success

/-- The surroundings of a registration that works out: the transport connects, the router consents
in time, and the channel's parts can be set up. -/
structure WorksOut (createInfo : MessageChannelCreateInfo) (env : RegisterEnv) : Prop where
  connect : Connects env.connect
  accepted : ∃ clientId, Accepted env.timeoutInMs env.rounds .zero clientId
  transferServer : env.transferServer.isSome
  uriServer : env.uriServer.isSome
  startThread : createInfo.createUpdateThread = true → env.startThread = .success

/-! ## The registration loop -/

def roundResult (round : RegisterRound) (buffer : MessageBuffer) (clientId : ClientId) :
    Result × ClientId :=
  if round.write = .success then
    match round.read with
    | .inl _ => registerReply (receiveBuffer round buffer) clientId
    | .inr failed => (failed.1, clientId)
  else (round.write, clientId)

theorem registerLoop_cons (timeoutInMs : ℕ) (round : RegisterRound) (rounds : List RegisterRound)
    (buffer : MessageBuffer) (clientId : ClientId) :
    registerLoop timeoutInMs (round :: rounds) buffer clientId =
      if (roundResult round buffer clientId).1 = .notReady ∧ round.elapsedTime < timeoutInMs then
        registerLoop timeoutInMs rounds (receiveBuffer round buffer)
          (roundResult round buffer clientId).2
      else some (roundResult round buffer clientId) := rfl

theorem registerReply_result (reply : MessageBuffer) (clientId : ClientId) :
    (registerReply reply clientId).1 = .success ↔
      IsConnectResponse reply ∧ (ConnectResponsePayload.decode reply.payload).result =
        .success := by
  unfold registerReply IsConnectResponse
  split
  · split
    · simp_all
    · simp_all
  · simp_all

theorem registerReply_notReady (reply : MessageBuffer) (clientId : ClientId) :
    (registerReply reply clientId).1 = .notReady ↔
      reply.header.protocolId ≠ Protocol.clientManagement ∨ IsConnectResponse reply ∧
        (ConnectResponsePayload.decode reply.payload).result = .notReady := by
  unfold registerReply IsConnectResponse
  split
  · split
    · simp_all
    · simp_all
  · simp_all

theorem registerReply_clientId {reply : MessageBuffer} (h : IsConnectResponse reply)
    (clientId : ClientId) : (registerReply reply clientId).2 =
      (ConnectResponsePayload.decode reply.payload).clientId := by
  unfold registerReply
  rw [if_pos h.1, if_pos h.2]

theorem roundResult_notReady (round : RegisterRound) (buffer : MessageBuffer)
    (clientId : ClientId) :
    (roundResult round buffer clientId).1 = .notReady ↔ Undecided round buffer := by
  unfold roundResult Undecided receiveBuffer
  by_cases hwrite : round.write = .success
  · cases hread : round.read with
    | inl m => simp [hwrite, registerReply_notReady]
    | inr failed => simp [hwrite]
  · simp [hwrite]

theorem roundResult_success {round : RegisterRound} {buffer : MessageBuffer} {clientId : ClientId}
    (h : (roundResult round buffer clientId).1 = .success) :
    ∃ m, round.write = .success ∧ round.read = .inl m ∧ IsConnectResponse (m.receiveInto buffer) ∧
      (ConnectResponsePayload.decode (m.receiveInto buffer).payload).result = .success ∧
      (roundResult round buffer clientId).2 =
        (ConnectResponsePayload.decode (m.receiveInto buffer).payload).clientId := by
  by_cases hwrite : round.write = .success
  · cases hread : round.read with
    | inl m =>
      have hround : roundResult round buffer clientId =
          registerReply (m.receiveInto buffer) clientId := by
        simp only [roundResult, receiveBuffer, hwrite, hread, if_true]
      rw [hround] at h ⊢
      obtain ⟨hresponse, hresult⟩ := (registerReply_result _ _).mp h
      exact ⟨m, hwrite, rfl, hresponse, hresult, registerReply_clientId hresponse clientId⟩
    | inr failed =>
      simp only [roundResult, hwrite, hread, if_true] at h
      exact absurd h failed.2
  · rw [roundResult, if_neg hwrite] at h
    exact absurd h hwrite

theorem registerLoop_success (timeoutInMs : ℕ) (rounds : List RegisterRound)
    (buffer : MessageBuffer) (clientId id : ClientId) :
    registerLoop timeoutInMs rounds buffer clientId = some (.success, id) ↔
      Accepted timeoutInMs rounds buffer id := by
  constructor
  · intro h
    induction rounds generalizing buffer clientId with
    | nil => cases h
    | cons round rounds ih =>
      rw [registerLoop_cons] at h
      split at h
      · rename_i hagain
        exact .wait ((roundResult_notReady _ _ _).mp hagain.1) hagain.2 (ih _ _ h)
      · have hresult := Option.some.inj h
        obtain ⟨m, hwrite, hread, hresponse, hsuccess, hid⟩ :=
          roundResult_success (congrArg Prod.fst hresult)
        have hclient :
            id = (ConnectResponsePayload.decode (m.receiveInto buffer).payload).clientId :=
          (congrArg Prod.snd hresult).symm.trans hid
        rw [hclient]
        exact .consent hwrite hread hresponse hsuccess
  · intro h
    induction h generalizing clientId with
    | @consent round rounds buffer m hwrite hread hresponse hresult =>
      have hround : roundResult round buffer clientId = (.success,
          (ConnectResponsePayload.decode (m.receiveInto buffer).payload).clientId) := by
        unfold roundResult receiveBuffer
        simp only [hwrite, hread, if_true]
        exact Prod.ext ((registerReply_result _ _).mpr ⟨hresponse, hresult⟩)
          (registerReply_clientId hresponse clientId)
      rw [registerLoop_cons, hround, if_neg (fun h => nomatch h.1)]
    | @wait round rounds buffer id hundecided htime hrest ih =>
      rw [registerLoop_cons, if_pos ⟨(roundResult_notReady _ _ _).mpr hundecided, htime⟩]
      exact ih _

theorem registerLoop_returns {timeoutInMs : ℕ} {rounds : List RegisterRound}
    (h : ∃ round ∈ rounds, timeoutInMs ≤ round.elapsedTime) (buffer : MessageBuffer)
    (clientId : ClientId) : ∃ r, registerLoop timeoutInMs rounds buffer clientId = some r := by
  induction rounds generalizing buffer clientId with
  | nil =>
    obtain ⟨round, hmem, -⟩ := h
    cases hmem
  | cons round rounds ih =>
    rw [registerLoop_cons]
    split
    · rename_i hagain
      obtain ⟨last, hmem, hlast⟩ := h
      rcases List.mem_cons.mp hmem with rfl | hmem
      · exact absurd hagain.2 (Nat.not_lt.mpr hlast)
      · exact ih ⟨last, hmem, hlast⟩ _ _
    · exact ⟨_, rfl⟩

/-! ## Registrations -/

section Channel

variable {ρ : Type}

def IsConnected (channel : MessageChannel ρ) : Prop := channel.clientId ≠ kBroadcastClientId

/-- A channel without a client id whose transport is disconnected and has no open socket. -/
structure IsUnregistered (channel : MessageChannel ρ) : Prop where
  clientId : ¬ IsConnected channel
  transport : channel.transportConnected = false
  socket : channel.socketOpen = false

/-- What a registration has to leave: a failed one nothing that a later one stumbles over, a
successful one the client id of the router's consent. -/
structure LeavesNoTrace (createInfo : MessageChannelCreateInfo) (env : RegisterEnv)
    (result : Result) (channel' : MessageChannel ρ) : Prop where
  unregistered : result ≠ .success →
    ¬ IsConnected channel' ∧ channel'.transportConnected = false
  again : result ≠ .success → ∀ env' : RegisterEnv, WorksOut createInfo env' →
    ∃ channel'', register createInfo env' channel' = some (.success, channel'')
  clientId : result = .success → Accepted env.timeoutInMs env.rounds .zero channel'.clientId

variable (createInfo : MessageChannelCreateInfo) (env : RegisterEnv) {channel : MessageChannel ρ}

theorem connectTransport_connects {answers : ConnectAnswers} (h : IsUnregistered channel)
    (hconnects : Connects answers) :
    connectTransport answers channel =
      (.success, { channel with transportConnected := true, socketOpen := true }) := by
  unfold connectTransport
  simp [h.transport, h.socket, hconnects.socket, hconnects.nonBlocking, hconnects.bind,
    hconnects.connect]

theorem connectTransport_fails {answers : ConnectAnswers} (h : IsUnregistered channel)
    (hfails : ¬ Connects answers) :
    ∃ result, result ≠ .success ∧ connectTransport answers channel =
      (result, { channel with socketOpen := answers.socket }) := by
  have hsame : { channel with socketOpen := false } = channel := by rw [← h.socket]
  have hclosed : ∀ connected, connected = false →
      { channel with socketOpen := true, transportConnected := connected } =
        { channel with socketOpen := true } := by
    rintro _ rfl
    rw [← h.transport]
  unfold connectTransport
  cases hsocket : answers.socket with
  | false => exact ⟨.error, nofun, by simp [hsame]⟩
  | true =>
    rw [if_neg (by simp [h.transport, h.socket])]
    by_cases hready : answers.nonBlocking = true
    · rw [if_neg (not_not.mpr hready)]
      by_cases hbind : answers.bind = .success
      · rw [if_neg (not_not.mpr hbind)]
        have hconnect : answers.connect ≠ .success := fun hconnect =>
          hfails ⟨hsocket, hready, hbind, hconnect⟩
        exact ⟨answers.connect, hconnect, by rw [hclosed _ (decide_eq_false hconnect)]⟩
      · rw [if_pos hbind]
        exact ⟨answers.bind, hbind, rfl⟩
    · rw [if_pos hready]
      exact ⟨.error, nofun, rfl⟩

/-- The registration of an unregistered channel whose transport connects is its loop. -/
theorem register_connecting (h : IsUnregistered channel) (hconnects : Connects env.connect) :
    register createInfo env channel =
      (registerLoop env.timeoutInMs env.rounds .zero kBroadcastClientId).map fun r =>
        if r.1 = .success then
          initChannel createInfo env
            { channel with transportConnected := true, socketOpen := true, clientId := r.2 }
        else (r.1,
          { channel with transportConnected := true, socketOpen := true, clientId := r.2 }) := by
  have hid : channel.clientId = kBroadcastClientId := not_not.mp h.clientId
  unfold register registerClient
  simp only [if_pos hid, connectTransport_connects h hconnects]
  simp [hid, Function.comp_def]

theorem register_unconnected (h : IsUnregistered channel) (hfails : ¬ Connects env.connect) :
    ∃ result, result ≠ .success ∧ register createInfo env channel =
      some (result, { channel with socketOpen := env.connect.socket }) := by
  obtain ⟨result, hresult, hconnect⟩ := connectTransport_fails h hfails
  refine ⟨result, hresult, ?_⟩
  unfold register registerClient
  simp only [if_pos (not_not.mp h.clientId), hconnect]
  rw [if_neg fun h => hresult h.1, Option.map_some, if_neg hresult]

theorem register_refused (h : ¬ IsUnregistered channel) :
    register createInfo env channel = some (.error, channel) := by
  have hconnected : (if channel.clientId = kBroadcastClientId then
      connectTransport env.connect channel else (.error, channel)) = (.error, channel) := by
    split
    · rename_i hid
      apply if_pos
      by_contra hnot
      rw [not_or, not_or] at hnot
      exact h ⟨not_not.mpr hid, Bool.eq_false_iff.mpr hnot.1, Bool.eq_false_iff.mpr hnot.2.1⟩
    · rfl
  unfold register registerClient
  simp only [hconnected]
  rw [if_neg (fun h => nomatch h.1)]
  rfl

theorem initChannel_connection (channel : MessageChannel ρ) :
    (initChannel createInfo env channel).2.clientId = channel.clientId ∧
      (initChannel createInfo env channel).2.transportConnected = channel.transportConnected := by
  unfold initChannel
  cases env.transferServer with
  | none => exact ⟨rfl, rfl⟩
  | some transferServer =>
    cases env.uriServer with
    | none => exact ⟨rfl, rfl⟩
    | some uriServer =>
      dsimp only
      split
      · exact ⟨rfl, rfl⟩
      · exact ⟨rfl, rfl⟩

theorem initChannel_success (channel : MessageChannel ρ) :
    (initChannel createInfo env channel).1 = .success ↔
      env.transferServer.isSome ∧ env.uriServer.isSome ∧
        (createInfo.createUpdateThread = true → env.startThread = .success) := by
  unfold initChannel
  cases env.transferServer with
  | none => simp
  | some transferServer =>
    cases env.uriServer with
    | none => simp
    | some uriServer =>
      dsimp only
      split
      · rename_i hthread
        simp [hthread]
      · rename_i hthread
        simp [hthread]

theorem register_worksOut {createInfo : MessageChannelCreateInfo} {env : RegisterEnv}
    (h : IsUnregistered channel) (hworks : WorksOut createInfo env) :
    ∃ channel', register createInfo env channel = some (.success, channel') := by
  obtain ⟨clientId, haccepted⟩ := hworks.accepted
  rw [register_connecting createInfo env h hworks.connect,
    (registerLoop_success _ _ _ _ _).mpr haccepted]
  refine ⟨_, congrArg some (Prod.ext ?_ rfl)⟩
  exact (initChannel_success _ _ _).mpr
    ⟨hworks.transferServer, hworks.uriServer, hworks.startThread⟩

theorem register_connects {createInfo : MessageChannelCreateInfo} {env : RegisterEnv}
    (h : IsUnregistered channel) (hconnects : Connects env.connect) {result : Result}
    {channel' : MessageChannel ρ}
    (hregister : register createInfo env channel = some (result, channel')) :
    channel'.transportConnected = true ∧ (result = .success →
      WorksOut createInfo env ∧ Accepted env.timeoutInMs env.rounds .zero channel'.clientId) := by
  rw [register_connecting createInfo env h hconnects] at hregister
  obtain ⟨⟨r, clientId⟩, hloop, hr⟩ := Option.map_eq_some_iff.mp hregister
  split at hr
  · rename_i hsuccess
    subst hsuccess
    have haccepted := (registerLoop_success _ _ _ _ _).mp hloop
    obtain ⟨hid, hconnected⟩ := initChannel_connection createInfo env
      { channel with transportConnected := true, socketOpen := true, clientId := clientId }
    rw [hr] at hid hconnected
    refine ⟨hconnected, fun hresult => ?_⟩
    subst hresult
    obtain ⟨htransfer, huri, hthread⟩ := (initChannel_success createInfo env
      { channel with transportConnected := true, socketOpen := true, clientId := clientId }).mp
        (congrArg Prod.fst hr)
    refine ⟨⟨hconnects, ⟨clientId, haccepted⟩, htransfer, huri, hthread⟩, ?_⟩
    rw [hid]
    exact haccepted
  · rename_i hfails
    cases hr
    exact ⟨rfl, fun hresult => absurd hresult hfails⟩

theorem register_returns {env : RegisterEnv}
    (h : ∃ round ∈ env.rounds, env.timeoutInMs ≤ round.elapsedTime) (channel : MessageChannel ρ) :
    ∃ r, register createInfo env channel = some r := by
  by_cases hfresh : IsUnregistered channel
  · by_cases hconnects : Connects env.connect
    · obtain ⟨r, hr⟩ := registerLoop_returns h .zero kBroadcastClientId
      rw [register_connecting createInfo env hfresh hconnects, hr]
      exact ⟨_, rfl⟩
    · obtain ⟨result, -, hregister⟩ := register_unconnected createInfo env hfresh hconnects
      exact ⟨_, hregister⟩
  · exact ⟨_, register_refused createInfo env hfresh⟩

end Channel

def registerEnv (rounds : List RegisterRound) (transferServer uriServer : ProtocolServer) :
    RegisterEnv where
  connect := ⟨true, true, .success, .success⟩
  rounds := rounds
  timeoutInMs := 1000
  clientName := []
  processId := 7
  sessionId := 0
  transferServer := some transferServer
  uriServer := some uriServer
  startThread := .success

def lostReply (elapsedTime : ℕ) : RegisterRound :=
  ⟨.success, .inr ⟨.notReady, Result.notReady_ne_success⟩, elapsedTime⟩

def consentingReply : RegisterRound :=
  ⟨.success, .inl (outOfBandMessage ManagementMessage.connectResponse 0
    (leBytes 4 Result.success.toCode ++ leBytes 2 5)), 600⟩

def retriedRegistration : RegisterEnv :=
  registerEnv [lostReply 500, consentingReply] ⟨0, 1, 1, 2⟩ ⟨1, 2, 1, 2⟩

def unansweredRegistration : RegisterEnv :=
  registerEnv [lostReply 500, lostReply 1000] ⟨0, 1, 1, 2⟩ ⟨1, 2, 1, 2⟩

theorem worksOut_retried (createInfo : MessageChannelCreateInfo) :
    WorksOut createInfo retriedRegistration where
  connect := ⟨rfl, rfl, rfl, rfl⟩
  accepted := ⟨_, .wait (.inr ⟨rfl, rfl⟩) (by decide)
    (.consent rfl rfl ⟨rfl, rfl, ⟨rfl, rfl⟩, rfl⟩ (by decide))⟩
  transferServer := rfl
  uriServer := rfl
  startThread := fun _ => rfl

section Channel

variable {ρ : Type} {createInfo : MessageChannelCreateInfo} {env : RegisterEnv}
  {result : Result} {channel channel' : MessageChannel ρ}

/-- A channel that is not unregistered stays in the way of every later registration. -/
theorem LeavesNoTrace.isUnregistered (h : LeavesNoTrace createInfo env result channel')
    (hfails : result ≠ .success) : IsUnregistered channel' := by
  by_contra hnot
  obtain ⟨channel'', hagain⟩ := h.again hfails _ (worksOut_retried createInfo)
  rw [register_refused createInfo _ hnot] at hagain
  cases hagain

end Channel

def freshChannel : MessageChannel ℚ :=
  { discoveringChannel kBroadcastClientId .zero .zero with
    transportConnected := false
    socketOpen := false
    hasURIServer := false
    threadRunning := false }

theorem isUnregistered_freshChannel : IsUnregistered freshChannel := ⟨fun h => h rfl, rfl, rfl⟩

def driverInfo : MessageChannelCreateInfo := ⟨1, 3, true, []⟩

end DevDriver.Analysis
