import DevDriver.Library.BitString
import DevDriver.Model.MessageChannel
import DevDriver.Analysis.ManagerSteps

/-!
# Client metadata on the wire

The metadata of a client is copied into the sequence field of a message and taken out of it field by
field.
-/

namespace DevDriver.Analysis

open Library Model ClientMetadata

theorem leNat_append (a b : List UInt8) : leNat (a ++ b) = leNat a + 256 ^ a.length * leNat b := by
  induction a with
  | nil => simp [leNat]
  | cons x a ih =>
    rw [List.cons_append, leNat, ih, leNat, List.length_cons, pow_succ]
    ring

variable (m : ClientMetadata)

theorem toSequence_eq : m.toSequence = m.protocols.toNat +
    2 ^ 32 * (m.clientType.toNat + 2 ^ 8 * (m.reserved.toNat + 2 ^ 8 * m.status.toNat)) := by
  unfold toSequence ClientMetadata.encode
  rw [leNat_append, length_leBytes, leNat_leBytes_of_lt (m.protocols.toNat_lt.trans_eq (by decide)),
    leNat, leNat, leNat_leBytes_of_lt (m.status.toNat_lt.trans_eq (by decide))]
  ring

section Fields

variable (m : ClientMetadata)

theorem ofSequence_protocols :
    (ofSequence m.toSequence).protocols.toNat = m.protocols.toNat % 2 ^ 16 := by
  show (UInt32.ofNat (m.toSequence &&& (2 ^ 16 - 1))).toNat = _
  rw [Nat.and_two_pow_sub_one_eq_mod, toSequence_eq, UInt32.toNat_ofNat']
  omega

theorem ofSequence_clientType :
    (ofSequence m.toSequence).clientType = m.clientType := by
  have hfield := bitField_low 8 m.clientType.toNat_lt
    (m.reserved.toNat + 2 ^ 8 * m.status.toNat)
  show UInt8.ofNat ((m.toSequence &&& 0xFF00000000) >>> 32) = m.clientType
  rw [and_shiftRight_eq_bitField _ 32 8 _ (by decide), toSequence_eq,
    bitField_high 32 m.protocols.toNat_lt _ 0, hfield]
  exact UInt8.ofNat_toNat

theorem ofSequence_status : (ofSequence m.toSequence).status = m.status := by
  have hfield := bitField_low 16 m.status.toNat_lt 0
  show UInt16.ofNat ((m.toSequence &&& 0xFFFF000000000000) >>> 48) = m.status
  rw [and_shiftRight_eq_bitField _ 48 16 _ (by decide), toSequence_eq,
    bitField_high 32 m.protocols.toNat_lt _ 16,
    bitField_high 8 m.clientType.toNat_lt _ 8,
    bitField_high 8 m.reserved.toNat_lt _ 0]
  rw [Nat.mul_zero, Nat.add_zero] at hfield
  rw [hfield]
  exact UInt16.ofNat_toNat

end Fields

/-- What a receiver makes of metadata is what was sent, up to the reserved byte. -/
def Survives (m : ClientMetadata) : Prop :=
  (ofSequence m.toSequence).protocols = m.protocols ∧
    (ofSequence m.toSequence).clientType = m.clientType ∧
    (ofSequence m.toSequence).status = m.status

theorem survives_iff : Survives m ↔ m.protocols.toNat < 2 ^ 16 := by
  have hprotocols := ofSequence_protocols m
  constructor
  · rintro ⟨hsame, -⟩
    rw [hsame] at hprotocols
    omega
  · intro hlow
    refine ⟨UInt32.toNat_inj.mp ?_, ofSequence_clientType m, ofSequence_status m⟩
    rw [hprotocols, Nat.mod_eq_of_lt hlow]

def received (m : ClientMetadata) : ClientMetadata := .ofSequence m.toSequence

theorem received_protocols : (received m).protocols = m.protocols &&& 0xFFFF := by
  apply UInt32.toNat_inj.mp
  rw [received, ofSequence_protocols, UInt32.toNat_and]
  exact (Nat.and_two_pow_sub_one_eq_mod _ 16).symm

theorem matches_iff (filter right : ClientMetadata) : filter.Matches right ↔
    (filter.clientType ≠ .unknown → filter.clientType = right.clientType) ∧
    filter.protocols &&& right.protocols = filter.protocols ∧
    filter.status &&& right.status = filter.status := by
  constructor
  · intro h
    by_cases hdefault : filter.protocols = 0 ∧ filter.clientType = .unknown ∧ filter.status = 0
    · obtain ⟨hprotocols, htype, hstatus⟩ := hdefault
      rw [hprotocols, htype, hstatus]
      exact ⟨fun hne => absurd rfl hne, UInt32.zero_and, UInt16.zero_and⟩
    · obtain ⟨htype, hprotocols, hstatus⟩ := h hdefault
      refine ⟨htype, ?_, ?_⟩
      · by_cases hzero : filter.protocols = 0
        · rw [hzero]
          exact UInt32.zero_and
        · exact hprotocols hzero
      · by_cases hzero : filter.status = 0
        · rw [hzero]
          exact UInt16.zero_and
        · exact hstatus hzero
  · rintro ⟨htype, hprotocols, hstatus⟩ -
    exact ⟨htype, fun _ => hprotocols, fun _ => hstatus⟩

section Filters

variable {f c : ClientMetadata}

theorem matches_received_of_matches (h : f.Matches c) : (received f).Matches c := by
  rw [matches_iff] at h ⊢
  obtain ⟨htype, hprotocols, hstatus⟩ := h
  refine ⟨?_, ?_, ?_⟩
  · rw [show (received f).clientType = f.clientType from ofSequence_clientType f]
    exact htype
  · rw [received_protocols, UInt32.and_assoc, UInt32.and_comm 0xFFFF, ← UInt32.and_assoc,
      hprotocols]
  · rw [show (received f).status = f.status from ofSequence_status f]
    exact hstatus

theorem low_of_matches_received (h : f.Matches (received c)) : f.protocols.toNat < 2 ^ 16 := by
  rw [matches_iff, received_protocols] at h
  have hand := congrArg UInt32.toNat h.2.1
  rw [← UInt32.and_assoc, UInt32.toNat_and] at hand
  rw [← hand]
  exact lt_of_le_of_lt Nat.and_le_right (by decide)

theorem matches_received_iff (h : f.protocols.toNat < 2 ^ 16) :
    ((received f).Matches c ↔ f.Matches c) ∧ (f.Matches (received c) ↔ f.Matches c) := by
  have hlow : f.protocols &&& 0xFFFF = f.protocols := by
    rw [← received_protocols]
    exact ((survives_iff f).mpr h).1
  rw [matches_iff, matches_iff f, matches_iff f, received_protocols, received_protocols, hlow]
  refine ⟨?_, ?_⟩
  · rw [show (received f).clientType = f.clientType from ofSequence_clientType f,
      show (received f).status = f.status from ofSequence_status f]
  · rw [show (received c).clientType = c.clientType from ofSequence_clientType c,
      show (received c).status = c.status from ofSequence_status c, UInt32.and_comm c.protocols,
      ← UInt32.and_assoc, hlow]

theorem filters_alike_iff :
    (((received f).Matches c ↔ f.Matches c) ∧
      ((received f).Matches c ∧ f.Matches (received c) ↔ f.Matches c)) ↔
      f.protocols.toNat < 2 ^ 16 ∨ ¬ (received f).Matches c := by
  constructor
  · rintro ⟨hping, hpong⟩
    by_cases hanswers : (received f).Matches c
    · exact .inl (low_of_matches_received (hpong.mpr (hping.mp hanswers)).2)
    · exact .inr hanswers
  · rintro (hlow | hsilent)
    · obtain ⟨hping, hpong⟩ := matches_received_iff hlow
      exact ⟨hping, by rw [hping, hpong, and_self]⟩
    · have hnot : ¬ f.Matches c := fun h => hsilent (matches_received_of_matches h)
      exact ⟨iff_of_false hsilent hnot, iff_of_false (fun h => hsilent h.1) hnot⟩

end Filters

/-! ## A Ping and its Pong -/

section Discovery

variable {ρ : Type} [RoundTripTime ρ] {transport : MsgTransport} {env : ChannelEnv}

def pingOf (d : MessageChannel ρ) (env : ChannelEnv) : MessageBuffer :=
  (env.start d).sendBuffer kBroadcastClientId Protocol.system SystemMessage.ping.toCode
    d.discoveredClientsQueue.filter d.clientInfoResponse.encode

def pongOf (a : MessageChannel ρ) (env : ChannelEnv) (dstClientId : ClientId) : MessageBuffer :=
  (env.start a).sendBuffer dstClientId Protocol.system SystemMessage.pong.toCode
    a.clientInfoResponse.metadata a.clientInfoResponse.encode

def Answers (transport : MsgTransport) (env : ChannelEnv) (a : MessageChannel ρ)
    (ping pong : MessageBuffer) : Prop :=
  ∃ x, handleMessageReceived transport env ping (env.start a) = some x ∧
    ∃ r, (pong, r) ∈ x.fx.forwarded

def Accepts (transport : MsgTransport) (env : ChannelEnv) (d : MessageChannel ρ)
    (pong : MessageBuffer) : Prop :=
  ∃ x info, handleMessageReceived transport env pong (env.start d) = some x ∧
    info.id = pong.header.srcClientId ∧
    x.channel.discoveredClientsQueue.clients = d.discoveredClientsQueue.clients ++ [info]

omit [RoundTripTime ρ] in
@[simp] theorem noteActivity_channel (transport : MsgTransport) (c : ChannelCtx ρ) :
    (noteActivity transport c).channel.clientId = c.channel.clientId ∧
      (noteActivity transport c).channel.clientInfoResponse = c.channel.clientInfoResponse ∧
      (noteActivity transport c).channel.discoveredClientsQueue =
        c.channel.discoveredClientsQueue ∧
      (noteActivity transport c).channel.busEventCb = c.channel.busEventCb ∧
      (noteActivity transport c).fx.forwarded = c.fx.forwarded ∧
      (noteActivity transport c).fx.answers = c.fx.answers := by
  unfold noteActivity
  split <;> exact ⟨rfl, rfl, rfl, rfl, rfl, rfl⟩

theorem length_clientInfo (info : ClientInfoStruct) : info.encode.length = kClientInfoSize := by
  simp [ClientInfoStruct.encode, ClientMetadata.encode, stringField, kMaxStringLength,
    kClientInfoSize]

variable {c : ChannelCtx ρ}

theorem handleMessageReceived_system {m : MessageBuffer}
    (hprotocol : m.header.protocolId = Protocol.system)
    (hsource : m.header.dstClientId ||| m.header.srcClientId ≠ kBroadcastClientId) :
    handleMessageReceived transport env m c =
      some (if IsForThisHost m (noteActivity transport c).channel then
        handleSystemMessage env m (noteActivity transport c) else noteActivity transport c) := by
  unfold handleMessageReceived
  rw [hprotocol]
  simp only [show ¬ Protocol.system = Protocol.session by decide, if_false,
    show ¬ m.IsOutOfBand from hsource, true_and]
  split <;> rfl

theorem forward_written (m : MessageBuffer) (hconnected : c.channel.clientId ≠ kBroadcastClientId)
    (hwritten : ¬ ChannelCtx.Breaks (c.fx.answers.headD .success)) :
    c.forward env m = ({ c with fx := (c.fx.forward m).1 }, (c.fx.forward m).2) := by
  have hanswer : ¬ ChannelCtx.Breaks (c.fx.forward m).2 := hwritten
  unfold ChannelCtx.forward
  rw [if_pos hconnected]
  dsimp only
  rw [if_neg hanswer]

theorem sendClientInfo_forwarded (dstClientId : ClientId) (message : SystemMessage)
    (hconnected : c.channel.clientId ≠ kBroadcastClientId)
    (hwritten : ¬ ChannelCtx.Breaks (c.fx.answers.headD .success)) :
    (c.sendClientInfo env dstClientId message).fx.forwarded = c.fx.forwarded ++
      [(c.sendBuffer dstClientId Protocol.system message.toCode
        c.channel.clientInfoResponse.metadata c.channel.clientInfoResponse.encode,
        c.fx.answers.headD .success)] := by
  have hsize : c.channel.clientInfoResponse.encode.length ≤ kMaxPayloadSizeInBytes := by
    rw [length_clientInfo]
    decide
  unfold ChannelCtx.sendClientInfo ChannelCtx.send
  rw [if_pos hsize, forward_written _ hconnected hwritten]
  rfl

theorem answers_iff {a : MessageChannel ρ} (d : MessageChannel ρ) (env' : ChannelEnv)
    (ha : a.clientId ≠ kBroadcastClientId) (hd : d.clientId ≠ kBroadcastClientId)
    (hresponds : a.busEventCb = true → env.shouldRespond = true)
    (hwritten : ¬ ChannelCtx.Breaks (env.manager.answers.headD .success)) :
    Answers transport env a (pingOf d env') (pongOf a env d.clientId) ↔
      (received d.discoveredClientsQueue.filter).Matches a.clientInfoResponse.metadata := by
  obtain ⟨hid, hinfo, -, hcb, hforwarded, hanswers⟩ := noteActivity_channel transport (env.start a)
  have hhost : IsForThisHost (pingOf d env') (noteActivity transport (env.start a)).channel ↔
      (received d.discoveredClientsQueue.filter).Matches a.clientInfoResponse.metadata := by
    unfold IsForThisHost
    rw [hid, hinfo]
    constructor
    · rintro (hdirected | ⟨-, hmatches⟩)
      · exact absurd hdirected.symm ha
      · exact hmatches
    · exact fun hmatches => .inr ⟨rfl, hmatches⟩
  unfold Answers
  rw [handleMessageReceived_system rfl (fun h => hd (UInt16.zero_or.symm.trans h))]
  simp only [Option.some.injEq, exists_eq_left', hhost]
  split
  · rename_i hmatches
    refine iff_of_true ?_ hmatches
    have hpong : ∀ c : ChannelCtx ρ, c.channel = (noteActivity transport (env.start a)).channel →
        c.fx = (noteActivity transport (env.start a)).fx →
        ∃ r, (pongOf a env d.clientId, r) ∈
          (c.sendClientInfo env d.clientId .pong).fx.forwarded := by
      intro c hc hfx
      refine ⟨c.fx.answers.headD .success, ?_⟩
      rw [sendClientInfo_forwarded _ _ (by rw [hc, hid]; exact ha)
        (by rw [hfx, hanswers]; exact hwritten)]
      refine List.mem_append_right _ (List.mem_singleton.mpr (Prod.ext ?_ rfl))
      unfold pongOf ChannelCtx.sendBuffer
      rw [hc, hid, hinfo]
      rfl
    show ∃ r, (_, r) ∈ (handlePing env (pingOf d env')
      (noteActivity transport (env.start a))).fx.forwarded
    unfold handlePing
    rw [hcb]
    split
    · rename_i hcallback
      rw [if_pos (hresponds hcallback)]
      exact hpong _ rfl rfl
    · exact hpong _ rfl rfl
  · rename_i hmatches
    refine iff_of_false ?_ hmatches
    rintro ⟨r, hmem⟩
    rw [hforwarded] at hmem
    cases hmem

theorem accepts_iff (a : MessageChannel ρ) {d : MessageChannel ρ} (env' : ChannelEnv)
    (ha : a.clientId ≠ kBroadcastClientId) (hactive : d.discoveredClientsQueue.active = true)
    (hpush : env.pushBack = true) :
    Accepts transport env d (pongOf a env' d.clientId) ↔
      d.discoveredClientsQueue.filter.Matches (received a.clientInfoResponse.metadata) := by
  obtain ⟨hid, -, hqueue, -⟩ := noteActivity_channel transport (env.start d)
  have hsource : d.clientId ||| a.clientId ≠ kBroadcastClientId :=
    fun h => ha (UInt16.or_eq_zero_iff.mp h).2
  have hhandled : handleMessageReceived transport env (pongOf a env' d.clientId) (env.start d) =
      some (handlePong env (pongOf a env' d.clientId) (noteActivity transport (env.start d))) := by
    rw [handleMessageReceived_system rfl hsource, if_pos (.inl hid.symm)]
    rfl
  unfold Accepts
  rw [hhandled]
  unfold handlePong
  rw [hqueue]
  simp only [hpush, and_true]
  split
  · rename_i hmatches
    exact iff_of_true ⟨_, _, rfl, rfl, rfl⟩ hmatches.2
  · rename_i hmatches
    refine iff_of_false ?_ fun h => hmatches ⟨hactive, h⟩
    rintro ⟨x, info, hx, -, hclients⟩
    cases hx
    rw [hqueue] at hclients
    exact absurd (List.self_eq_append_right.mp hclients) (List.cons_ne_nil _ _)

/-- The client answers the Ping, and the discovering channel accepts its Pong, exactly when the
filter fits its metadata. -/
def FiltersAlike (transport : MsgTransport) (env env' : ChannelEnv) (a d : MessageChannel ρ) :
    Prop :=
  let fits := d.discoveredClientsQueue.filter.Matches a.clientInfoResponse.metadata
  (Answers transport env a (pingOf d env') (pongOf a env d.clientId) ↔ fits) ∧
    (Answers transport env a (pingOf d env') (pongOf a env d.clientId) ∧
      Accepts transport env' d (pongOf a env d.clientId) ↔ fits)

/-- Metadata comes back, and a filter is applied alike on both ends, exactly when the upper 16
protocol flags are not used, or the client does not answer at all. -/
theorem metadata_filtering (transport : MsgTransport) {env env' : ChannelEnv}
    {a d : MessageChannel ρ} (ha : a.clientId ≠ kBroadcastClientId)
    (hd : d.clientId ≠ kBroadcastClientId) (hactive : d.discoveredClientsQueue.active = true)
    (hresponds : a.busEventCb = true → env.shouldRespond = true)
    (hwritten : ¬ ChannelCtx.Breaks (env.manager.answers.headD .success))
    (hpush : env'.pushBack = true) :
    (∀ m, Survives m ↔ m.protocols.toNat < 2 ^ 16) ∧
      (FiltersAlike transport env env' a d ↔
        d.discoveredClientsQueue.filter.protocols.toNat < 2 ^ 16 ∨
          ¬ (ofSequence d.discoveredClientsQueue.filter.toSequence).Matches
            a.clientInfoResponse.metadata) := by
  refine ⟨survives_iff, ?_⟩
  unfold FiltersAlike
  rw [answers_iff d env' ha hd hresponds hwritten, accepts_iff a env ha hactive hpush]
  exact filters_alike_iff

end Discovery

def discoveringChannel (clientId : ClientId) (metadata filter : ClientMetadata) :
    MessageChannel ℚ where
  clientId := clientId
  transportConnected := true
  socketOpen := true
  clientInfoResponse := ⟨[], [], metadata, 7⟩
  discoveredClientsQueue := ⟨[], true, filter⟩
  busEventCb := false
  lastActivityTimeMs := 0
  lastKeepaliveTransmitted := 0
  lastKeepaliveReceived := 0
  sessionManager := .new ℚ clientId 0
  hasURIServer := true
  threadRunning := true

def calmChannelEnv : ChannelEnv := ⟨calmEnv, true, true⟩

theorem metadata_filtering_driver : FiltersAlike socketMsgTransport calmChannelEnv calmChannelEnv
    (discoveringChannel 2 ⟨0x44, 3, 0, 1⟩ .zero)
    (discoveringChannel 1 .zero ⟨0x40, 3, 0, 0⟩) :=
  (metadata_filtering socketMsgTransport (a := discoveringChannel 2 ⟨0x44, 3, 0, 1⟩ .zero)
    (d := discoveringChannel 1 .zero ⟨0x40, 3, 0, 0⟩) (by decide) (by decide) rfl (fun _ => rfl)
    (by decide) rfl).2.mpr (.inl (by decide))

/-- A protocol flag above the lower 16 does not come back. -/
theorem upper_flag_lost : ¬ ((∀ m, Survives m) ∧
    ∀ (transport : MsgTransport) (env env' : ChannelEnv) (a d : MessageChannel ℚ),
      a.clientId ≠ kBroadcastClientId → d.clientId ≠ kBroadcastClientId →
      d.discoveredClientsQueue.active = true →
      (a.busEventCb = true → env.shouldRespond = true) →
      ¬ ChannelCtx.Breaks (env.manager.answers.headD .success) → env'.pushBack = true →
      FiltersAlike transport env env' a d) := by
  rintro ⟨hsurvives, -⟩
  exact absurd (hsurvives ⟨0x10000, 3, 0, 1⟩).1 (by decide)

end DevDriver.Analysis
