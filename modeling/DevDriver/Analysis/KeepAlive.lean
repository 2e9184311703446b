import DevDriver.Library.Outstanding
import DevDriver.Analysis.Registration

/-!
# Keep-alive

A `SocketMsgTransport` needs heartbeats, and a channel that gets no answer to them disconnects.
-/

namespace DevDriver.Analysis

open Library Model

/-- What the program and its update thread do with a channel.  A registration comes with the time at
which its last reply is read. -/
inductive ChannelAction (ρ : Type) where
  | update (env : ChannelEnv) (reads : List MessageBuffer) (last : FailedRead)
  | register (env : RegisterEnv) (replyTimeInMs : ℕ)
  | unregister (env : ChannelEnv)
  | forward (env : ChannelEnv) (m : MessageBuffer)
  | sessions (env : ChannelEnv) (call : ManagerCtx ρ → ManagerCtx ρ)
  | configure (busEventCb : Bool) (status : StatusFlags) (queue : DiscoveredClientsQueue)

section Channel

variable {ρ : Type} [RoundTripTime ρ]

/-- The channel as its constructor leaves it.
messageChannel.inl:59-80 -/
structure IsConstructed (channel : MessageChannel ρ) : Prop where
  unregistered : IsUnregistered channel
  lastActivityTimeMs : channel.lastActivityTimeMs = 0
  lastKeepaliveTransmitted : channel.lastKeepaliveTransmitted = 0
  lastKeepaliveReceived : channel.lastKeepaliveReceived = 0

def registerStep (createInfo : MessageChannelCreateInfo) (env : RegisterEnv)
    (replyTimeInMs : ℕ) (channel : MessageChannel ρ) :
    Option (MessageChannel ρ × List ChannelEvent) :=
  (register createInfo env channel).map fun r =>
    (r.2, if channel.clientId = kBroadcastClientId ∧ r.2.clientId ≠ kBroadcastClientId then
      [.registered replyTimeInMs] else [])

/-- A channel over a `SocketMsgTransport`, with the events of its steps. -/
def channelMachine (ρ : Type) [RoundTripTime ρ] (createInfo : MessageChannelCreateInfo) :
    Machine (MessageChannel ρ) (ChannelAction ρ) (List ChannelEvent) where
  init := IsConstructed
  step
    | channel, .update env reads last =>
      ((env.start channel).update socketMsgTransport env reads last).map fun c =>
        (c.channel, c.events)
    | channel, .register env replyTimeInMs => registerStep createInfo env replyTimeInMs channel
    | channel, .unregister env =>
      let c := Model.unregister env (env.start channel)
      some (c.channel, c.events)
    | channel, .forward env m =>
      let c := ((env.start channel).forward env m).1
      some (c.channel, c.events)
    | channel, .sessions env call =>
      let c := (env.start channel).afterManager env (call (env.start channel).managerCtx)
      some (c.channel, c.events)
    | channel, .configure busEventCb status queue =>
      some ({ channel with
        busEventCb := busEventCb
        discoveredClientsQueue := queue
        clientInfoResponse := { channel.clientInfoResponse with
          metadata := { channel.clientInfoResponse.metadata with status := status } } }, [])

end Channel

/-- What the events of a channel say: the heartbeats that were sent on the current connection since
the newest one that was answered on it, each when no message had been received for the time of the
timeout, the time of the last activity, and the time of the reply that began the connection. -/
structure Monitor where
  unanswered : List SessionId
  lastActivityTimeMs : ℕ
  connectedTimeMs : ℕ

namespace Monitor

def new : Monitor := ⟨[], 0, 0⟩

/-- Neither the last activity nor the reply that began the connection are as recent as the timeout;
the last activity can be older than the connection. -/
def Idle (m : Monitor) (timeInMs : ℕ) : Prop :=
  sub64 timeInMs m.lastActivityTimeMs > kKeepAliveTimeout ∧
    sub64 timeInMs m.connectedTimeMs > kKeepAliveTimeout

instance (m : Monitor) (timeInMs : ℕ) : Decidable (m.Idle timeInMs) :=
  inferInstanceAs (Decidable (_ ∧ _))

def step (m : Monitor) : ChannelEvent → Monitor
  | .activity timeInMs => { m with lastActivityTimeMs := timeInMs }
  | .registered timeInMs => { m with unanswered := [], connectedTimeMs := timeInMs }
  | .keepAliveReceived sequence => { m with unanswered := dropThrough sequence m.unanswered }
  | .heartbeat sequence timeInMs written =>
    { m with
      unanswered :=
        if written = .success ∧ m.Idle timeInMs then m.unanswered ++ [sequence] else m.unanswered
      lastActivityTimeMs := timeInMs }
  | .pongRequest _ _ | .clientHalted _ _ | .keepAliveTimeout _ => m

def observe (m : Monitor) (events : List ChannelEvent) : Monitor := events.foldl step m

theorem observe_append (m : Monitor) (es es' : List ChannelEvent) :
    m.observe (es ++ es') = (m.observe es).observe es' := List.foldl_append

end Monitor

/-- Among these events, a connection is cut only when enough heartbeats on it were not answered. -/
def CutsOnlyDead (m : Monitor) (events : List ChannelEvent) : Prop :=
  ∀ before timeInMs after, events = before ++ .keepAliveTimeout timeInMs :: after →
    kKeepAliveThreshold ≤ (m.observe before).unanswered.length

def IsKeepAliveResponse (m : MessageBuffer) : Prop :=
  m.IsOutOfBand ∧ m.IsValidOutOfBand ∧ m.header.messageId = ManagementMessage.keepAlive

instance (m : MessageBuffer) : Decidable (IsKeepAliveResponse m) :=
  inferInstanceAs (Decidable (_ ∧ _ ∧ _))

/-- The keep-alive responses among some messages are in order: none repeats a heartbeat from before
the newest answered one, or one that was not sent yet. -/
def ResponsesInOrder (transmitted : SessionId) : SessionId → List MessageBuffer → Prop
  | _, [] => True
  | received, m :: ms =>
    if IsKeepAliveResponse m then
      (transmitted - m.header.sessionId).toNat ≤ (transmitted - received).toNat ∧
        ResponsesInOrder transmitted m.header.sessionId ms
    else ResponsesInOrder transmitted received ms

section Channel

variable {ρ : Type}

/-- The counters of the channel stand for the unanswered heartbeats. -/
structure Counts (m : Monitor) (channel : MessageChannel ρ) : Prop where
  unanswered : m.unanswered = successors channel.lastKeepaliveReceived
    (channel.lastKeepaliveTransmitted - channel.lastKeepaliveReceived).toNat
  allowance : (channel.lastKeepaliveTransmitted - channel.lastKeepaliveReceived).toNat ≤
    kKeepAliveThreshold

variable {m : Monitor}

theorem Counts.of_eq {channel channel' : MessageChannel ρ} (h : Counts m channel)
    (htransmitted : channel'.lastKeepaliveTransmitted = channel.lastKeepaliveTransmitted)
    (hreceived : channel'.lastKeepaliveReceived = channel.lastKeepaliveReceived) :
    Counts m channel' := by
  constructor
  · rw [htransmitted, hreceived]
    exact h.unanswered
  · rw [htransmitted, hreceived]
    exact h.allowance

/-! ## Steps that do not count -/

inductive IsBusEvent : ChannelEvent → Prop
  | pongRequest (clientId : ClientId) (info : Option (List UInt8)) :
    IsBusEvent (.pongRequest clientId info)
  | clientHalted (clientId : ClientId) (info : List UInt8) :
    IsBusEvent (.clientHalted clientId info)

/-- The keep-alive state is the same, only bus events are new, and at most a disconnection happened
to the client id. -/
structure Uncounted (c c' : ChannelCtx ρ) : Prop where
  transmitted : c'.channel.lastKeepaliveTransmitted = c.channel.lastKeepaliveTransmitted
  received : c'.channel.lastKeepaliveReceived = c.channel.lastKeepaliveReceived
  activity : c'.channel.lastActivityTimeMs = c.channel.lastActivityTimeMs
  clientId : c'.channel.clientId = c.channel.clientId ∨ c'.channel.clientId = kBroadcastClientId
  events : ∃ es, c'.events = c.events ++ es ∧ ∀ e ∈ es, IsBusEvent e

namespace Uncounted

theorem of_eq {c c' : ChannelCtx ρ} (htransmitted : c'.channel.lastKeepaliveTransmitted =
      c.channel.lastKeepaliveTransmitted)
    (hreceived : c'.channel.lastKeepaliveReceived = c.channel.lastKeepaliveReceived)
    (hactivity : c'.channel.lastActivityTimeMs = c.channel.lastActivityTimeMs)
    (hid : c'.channel.clientId = c.channel.clientId ∨ c'.channel.clientId = kBroadcastClientId)
    (hevents : c'.events = c.events) : Uncounted c c' :=
  ⟨htransmitted, hreceived, hactivity, hid, [], by simp [hevents], by simp⟩

variable (env : ChannelEnv) (c : ChannelCtx ρ)

theorem refl : Uncounted c c := of_eq rfl rfl rfl (.inl rfl) rfl

theorem trans {c c' c'' : ChannelCtx ρ} (h : Uncounted c c') (h' : Uncounted c' c'') :
    Uncounted c c'' := by
  obtain ⟨es, hes, hbus⟩ := h.events
  obtain ⟨es', hes', hbus'⟩ := h'.events
  refine ⟨h'.transmitted.trans h.transmitted, h'.received.trans h.received,
    h'.activity.trans h.activity, ?_, es ++ es', ?_, ?_⟩
  · rcases h'.clientId with hid | hid
    · rw [hid]
      exact h.clientId
    · exact .inr hid
  · rw [hes', hes, List.append_assoc]
  · intro e he
    rcases List.mem_append.mp he with he | he
    · exact hbus e he
    · exact hbus' e he

theorem event {e : ChannelEvent} (he : IsBusEvent e) (c : ChannelCtx ρ) :
    Uncounted c { c with events := c.events ++ [e] } :=
  ⟨rfl, rfl, rfl, .inl rfl, [e], rfl, fun e' he' => by
    rw [List.mem_singleton.mp he']
    exact he⟩

variable [RoundTripTime ρ]

theorem disconnect : Uncounted c (c.disconnect env) := by
  unfold ChannelCtx.disconnect
  split
  · exact of_eq rfl rfl rfl (.inr rfl) rfl
  · exact refl c

theorem forward (m : MessageBuffer) (c : ChannelCtx ρ) : Uncounted c (c.forward env m).1 := by
  unfold ChannelCtx.forward
  split
  · have hwritten : Uncounted c { c with fx := (c.fx.forward m).1 } :=
      of_eq rfl rfl rfl (.inl rfl) rfl
    dsimp only
    split
    · exact hwritten.trans (disconnect env _)
    · exact hwritten
  · exact refl c

theorem send (dstClientId : ClientId) (protocol : Protocol) (message : MessageCode)
    (metadata : ClientMetadata) (payload : List UInt8) (c : ChannelCtx ρ) :
    Uncounted c (c.send env dstClientId protocol message metadata payload).1 := by
  unfold ChannelCtx.send
  split
  · exact forward env _ c
  · exact refl c

theorem afterManager (x : ManagerCtx ρ) : Uncounted c (c.afterManager env x) := by
  have hworked : Uncounted c (c.ofManager x) := of_eq rfl rfl rfl (.inl rfl) rfl
  unfold ChannelCtx.afterManager
  split
  · exact hworked.trans (disconnect env _)
  · exact hworked

theorem handlePing (env : ChannelEnv) (m : MessageBuffer) (c : ChannelCtx ρ) :
    Uncounted c (handlePing env m c) := by
  unfold Model.handlePing
  split
  · have hasked := event (.pongRequest m.header.srcClientId (carriedClientInfo m)) c
    split
    · exact hasked.trans (send env _ _ _ _ _ _)
    · exact hasked
  · exact send env _ _ _ _ _ c

theorem handleSystemMessage (env : ChannelEnv) (m : MessageBuffer) (c : ChannelCtx ρ) :
    Uncounted c (handleSystemMessage env m c) := by
  unfold Model.handleSystemMessage
  split
  · exact handlePing env m c
  · unfold handlePong
    dsimp only
    split
    · exact of_eq rfl rfl rfl (.inl rfl) rfl
    · exact refl c
  · exact send env _ _ _ _ _ c
  · exact afterManager env c _
  · unfold handleHalted
    split
    · exact event (.clientHalted _ _) c
    · exact refl c
  · exact refl c
  · exact refl c

theorem unregister (env : ChannelEnv) (c : ChannelCtx ρ) : Uncounted c (unregister env c) := by
  refine Uncounted.trans ?_ (disconnect env _)
  split
  · exact of_eq rfl rfl rfl (.inl rfl) rfl
  · exact of_eq rfl rfl rfl (.inl rfl) rfl

end Uncounted

theorem observe_busEvents (m : Monitor) {es : List ChannelEvent} (h : ∀ e ∈ es, IsBusEvent e) :
    m.observe es = m := by
  induction es with
  | nil => rfl
  | cons e es ih =>
    have hstep : m.step e = m := by
      cases h e (List.mem_cons_self ..) with
      | pongRequest => rfl
      | clientHalted => rfl
    rw [Monitor.observe, List.foldl_cons, hstep]
    exact ih fun e' he' => h e' (List.mem_cons_of_mem _ he')

/-! ## Received messages -/

/-- Within a step that the monitor has followed so far, from a channel that was registered or not:
no connection was cut yet. -/
structure Followed (registered : Prop) (m : Monitor) (c : ChannelCtx ρ) : Prop where
  activity : (m.observe c.events).lastActivityTimeMs = c.channel.lastActivityTimeMs
  connected : (m.observe c.events).connectedTimeMs = m.connectedTimeMs
  counts : registered → Counts (m.observe c.events) c.channel
  clientId : ¬ registered → c.channel.clientId = kBroadcastClientId
  quiet : ∀ timeInMs, .keepAliveTimeout timeInMs ∉ c.events

namespace Followed

variable {registered : Prop} {m : Monitor} {c c' : ChannelCtx ρ}

theorem uncounted (h : Followed registered m c) (h' : Uncounted c c') :
    Followed registered m c' := by
  obtain ⟨es, hes, hbus⟩ := h'.events
  have hobserved : m.observe c'.events = m.observe c.events := by
    rw [hes, Monitor.observe_append, observe_busEvents _ hbus]
  constructor
  · rw [hobserved, h.activity, h'.activity]
  · rw [hobserved, h.connected]
  · intro hregistered
    rw [hobserved]
    exact (h.counts hregistered).of_eq h'.transmitted h'.received
  · intro hnot
    rcases h'.clientId with hid | hid
    · rw [hid, h.clientId hnot]
    · exact hid
  · intro timeInMs hmem
    rw [hes] at hmem
    rcases List.mem_append.mp hmem with hmem | hmem
    · exact h.quiet timeInMs hmem
    · cases hbus _ hmem

theorem snoc {e : ChannelEvent} (h : Followed registered m c)
    (hevents : c'.events = c.events ++ [e]) (he : ∀ timeInMs, e ≠ .keepAliveTimeout timeInMs)
    (hactivity : ((m.observe c.events).step e).lastActivityTimeMs = c'.channel.lastActivityTimeMs)
    (hconnected : ((m.observe c.events).step e).connectedTimeMs =
      (m.observe c.events).connectedTimeMs)
    (hcounts : Counts (m.observe c.events) c.channel →
      registered → Counts ((m.observe c.events).step e) c'.channel)
    (hid : c'.channel.clientId = c.channel.clientId ∨ c'.channel.clientId = kBroadcastClientId) :
    Followed registered m c' := by
  have hobserved : m.observe c'.events = (m.observe c.events).step e := by
    rw [hevents, Monitor.observe_append]
    rfl
  constructor
  · rw [hobserved]
    exact hactivity
  · rw [hobserved, hconnected, h.connected]
  · intro hregistered
    rw [hobserved]
    exact hcounts (h.counts hregistered) hregistered
  · intro hnot
    rcases hid with hid | hid
    · rw [hid, h.clientId hnot]
    · exact hid
  · intro timeInMs hmem
    rw [hevents] at hmem
    rcases List.mem_append.mp hmem with hmem | hmem
    · exact h.quiet timeInMs hmem
    · exact he timeInMs (List.mem_singleton.mp hmem).symm

end Followed

theorem toNat_sub_split {a b c : UInt32} (h : (c - b).toNat ≤ (c - a).toNat) :
    (b - a).toNat + (c - b).toNat = (c - a).toNat := by
  have hb := b.toNat_lt
  rw [UInt32.toNat_sub, UInt32.toNat_sub] at h
  rw [UInt32.toNat_sub, UInt32.toNat_sub, UInt32.toNat_sub]
  omega

theorem Counts.received {channel : MessageChannel ρ} (h : Counts m channel) {sequence : SessionId}
    (horder : (channel.lastKeepaliveTransmitted - sequence).toNat ≤
      (channel.lastKeepaliveTransmitted - channel.lastKeepaliveReceived).toNat) :
    Counts (m.step (.keepAliveReceived sequence))
      { channel with lastKeepaliveReceived := sequence } := by
  have hsplit := toNat_sub_split horder
  have hallowance := h.allowance
  have hthreshold : kKeepAliveThreshold = 5 := rfl
  constructor
  · show dropThrough sequence m.unanswered =
      successors sequence (channel.lastKeepaliveTransmitted - sequence).toNat
    rw [h.unanswered, dropThrough_successors (by omega) (by omega)]
    congr 1
    omega
  · exact horder.trans hallowance

variable [RoundTripTime ρ]

theorem Followed.received {registered : Prop} {c c' : ChannelCtx ρ} (h : Followed registered m c)
    {env : ChannelEnv} {message : MessageBuffer}
    (horder : registered → IsKeepAliveResponse message →
      (c.channel.lastKeepaliveTransmitted - message.header.sessionId).toNat ≤
        (c.channel.lastKeepaliveTransmitted - c.channel.lastKeepaliveReceived).toNat)
    (hreceived : handleMessageReceived socketMsgTransport env message c = some c') :
    Followed registered m c' ∧
      c'.channel.lastKeepaliveTransmitted = c.channel.lastKeepaliveTransmitted ∧
      c'.channel.lastKeepaliveReceived =
        if IsKeepAliveResponse message then message.header.sessionId
        else c.channel.lastKeepaliveReceived := by
  have hnoted : Followed registered m (noteActivity socketMsgTransport c) :=
    h.snoc (e := .activity c.fx.currentTime) rfl nofun rfl rfl
      (fun hcounts _ => ⟨hcounts.unanswered, hcounts.allowance⟩) (.inl rfl)
  -- every branch but that of a keep-alive response leaves the counters alone
  have hother : ∀ c', Uncounted (noteActivity socketMsgTransport c) c' →
      ¬ IsKeepAliveResponse message → Followed registered m c' ∧
        c'.channel.lastKeepaliveTransmitted = c.channel.lastKeepaliveTransmitted ∧
        c'.channel.lastKeepaliveReceived =
          if IsKeepAliveResponse message then message.header.sessionId
          else c.channel.lastKeepaliveReceived := by
    intro c' huncounted hresponse
    rw [if_neg hresponse]
    exact ⟨hnoted.uncounted huncounted, huncounted.transmitted, huncounted.received⟩
  unfold handleMessageReceived at hreceived
  dsimp only at hreceived
  split at hreceived
  · rename_i hsession
    obtain ⟨x, -, rfl⟩ := Option.map_eq_some_iff.mp hreceived
    refine hother _ (.afterManager env _ _) fun hresponse => ?_
    have hprotocol := hresponse.2.1.2
    rw [hsession] at hprotocol
    exact absurd hprotocol (by decide)
  · split at hreceived
    · rename_i houtOfBand
      split at hreceived
      · rename_i hvalid
        have hresponse : IsKeepAliveResponse message := ⟨houtOfBand, hvalid⟩
        cases hreceived
        rw [if_pos hresponse]
        exact ⟨hnoted.snoc (e := .keepAliveReceived message.header.sessionId) rfl nofun
          hnoted.activity rfl
            (fun hcounts hregistered => hcounts.received (horder hregistered hresponse))
          (.inl rfl), rfl, rfl⟩
      · rename_i hvalid
        cases hreceived
        exact hother _ (.refl _) fun hresponse => hvalid hresponse.2
    · rename_i houtOfBand
      split at hreceived
      · cases hreceived
        exact hother _ (.handleSystemMessage env message _) fun hresponse =>
          houtOfBand hresponse.1
      · cases hreceived
        exact hother _ (.refl _) fun hresponse => houtOfBand hresponse.1

theorem Followed.readMessages {registered : Prop} {c : ChannelCtx ρ} (h : Followed registered m c)
    {env : ChannelEnv} {last : FailedRead} {reads : List MessageBuffer} {buffer : MessageBuffer}
    (horder : registered → ResponsesInOrder c.channel.lastKeepaliveTransmitted
      c.channel.lastKeepaliveReceived reads)
    {x : ChannelCtx ρ × Result}
    (hread : readMessages socketMsgTransport env last reads buffer c = some x) :
    Followed registered m x.1 := by
  induction reads generalizing c buffer with
  | nil =>
    cases hread
    exact h
  | cons message reads ih =>
    rw [Model.readMessages] at hread
    split at hread
    · obtain ⟨c', hreceived, hrest⟩ := Option.bind_eq_some_iff.mp hread
      -- the header is that of the message, whatever the buffer held before
      have hheader : IsKeepAliveResponse (message.receiveInto buffer) ↔
          IsKeepAliveResponse message := Iff.rfl
      obtain ⟨hfollowed, htransmitted, hlast⟩ := h.received (fun hregistered hresponse => by
        have := horder hregistered
        rw [ResponsesInOrder, if_pos (hheader.mp hresponse)] at this
        exact this.1) hreceived
      refine ih hfollowed (fun hregistered => ?_) hrest
      have hrow := horder hregistered
      rw [ResponsesInOrder] at hrow
      rw [htransmitted, hlast]
      split at hrow
      · rename_i hresponse
        rw [if_pos (hheader.mpr hresponse)]
        exact hrow.2
      · rename_i hresponse
        rw [if_neg (fun h => hresponse (hheader.mp h))]
        exact hrow
    · cases hread
      exact h

end Channel

/-! ## Heartbeats and cuts -/

/-- Every heartbeat among some events is written or breaks the connection, and is sent after the
timeout since the reply that began the connection. -/
def HeartbeatsCount (m : Monitor) (events : List ChannelEvent) : Prop :=
  ∀ sequence timeInMs written, .heartbeat sequence timeInMs written ∈ events →
    written ≠ .notReady ∧ sub64 timeInMs m.connectedTimeMs > kKeepAliveTimeout

section Cuts

variable {ρ : Type}

structure AfterStep (registered : Prop) (m : Monitor) (c : ChannelCtx ρ) : Prop where
  activity : (m.observe c.events).lastActivityTimeMs = c.channel.lastActivityTimeMs
  counts : IsConnected c.channel → Counts (m.observe c.events) c.channel
  safe : registered → CutsOnlyDead m c.events

variable {m : Monitor}

variable {channel channel' : MessageChannel ρ} {events : List ChannelEvent}

theorem cutsOnlyDead_of_quiet (h : ∀ timeInMs, .keepAliveTimeout timeInMs ∉ events) :
    CutsOnlyDead m events := by
  intro before timeInMs after heq
  exact absurd (heq ▸ List.mem_append_right _ (List.mem_cons_self ..)) (h timeInMs)

theorem CutsOnlyDead.append {es es' : List ChannelEvent} (h : CutsOnlyDead m es)
    (h' : ∀ timeInMs, .keepAliveTimeout timeInMs ∉ es') : CutsOnlyDead m (es ++ es') := by
  intro before timeInMs after heq
  rcases List.append_eq_append_iff.mp heq with ⟨rest, rfl, hrest⟩ | ⟨rest, hes, hrest⟩
  · exact absurd (hrest ▸ List.mem_append_right _ (List.mem_cons_self ..)) (h' timeInMs)
  · cases rest with
    | nil =>
      rw [List.nil_append] at hrest
      exact absurd (hrest ▸ List.mem_cons_self ..) (h' timeInMs)
    | cons e rest =>
      obtain ⟨rfl, rfl⟩ := List.cons.inj hrest
      exact h before timeInMs rest hes

namespace AfterStep

variable {registered : Prop} {m : Monitor} {c c' : ChannelCtx ρ}

theorem of_followed (h : Followed registered m c) : AfterStep registered m c where
  activity := h.activity
  counts hconnected := by
    by_cases hregistered : registered
    · exact h.counts hregistered
    · exact absurd (h.clientId hregistered) hconnected
  safe _ := cutsOnlyDead_of_quiet h.quiet

theorem uncounted (h : AfterStep registered m c) (h' : Uncounted c c') :
    AfterStep registered m c' := by
  obtain ⟨es, hes, hbus⟩ := h'.events
  have hobserved : m.observe c'.events = m.observe c.events := by
    rw [hes, Monitor.observe_append, observe_busEvents _ hbus]
  constructor
  · rw [hobserved, h.activity, h'.activity]
  · intro hconnected
    rw [hobserved]
    rcases h'.clientId with hid | hid
    · exact (h.counts (fun hzero => hconnected (hid.trans hzero))).of_eq h'.transmitted h'.received
    · exact absurd hid hconnected
  · intro hregistered
    rw [hes]
    refine (h.safe hregistered).append fun timeInMs hmem => ?_
    cases hbus _ hmem

end AfterStep

theorem Counts.heartbeat (h : Counts m channel)
    (hbelow : (channel.lastKeepaliveTransmitted - channel.lastKeepaliveReceived).toNat <
      kKeepAliveThreshold)
    (timeInMs : ℕ) (hidle : m.Idle timeInMs) :
    Counts (m.step (.heartbeat (channel.lastKeepaliveTransmitted + 1) timeInMs .success))
      { channel with
        lastKeepaliveTransmitted := channel.lastKeepaliveTransmitted + 1
        lastActivityTimeMs := timeInMs } := by
  have hnext : (channel.lastKeepaliveTransmitted + 1 - channel.lastKeepaliveReceived).toNat =
      (channel.lastKeepaliveTransmitted - channel.lastKeepaliveReceived).toNat + 1 := by
    have hthreshold : kKeepAliveThreshold = 5 := rfl
    rw [UInt32.toNat_sub] at hbelow
    rw [UInt32.toNat_sub, UInt32.toNat_sub, UInt32.toNat_add]
    simp only [UInt32.toNat_one]
    omega
  constructor
  · show (if _ then _ else _) = successors channel.lastKeepaliveReceived
      (channel.lastKeepaliveTransmitted + 1 - channel.lastKeepaliveReceived).toNat
    rw [if_pos ⟨rfl, hidle⟩, hnext, successors_snoc rfl, h.unanswered]
  · show (channel.lastKeepaliveTransmitted + 1 - channel.lastKeepaliveReceived).toNat ≤ _
    rw [hnext]
    exact hbelow

variable [RoundTripTime ρ]

theorem forward_connected (env : ChannelEnv) (m : MessageBuffer) (c : ChannelCtx ρ)
    (h : IsConnected (c.forward env m).1.channel) :
    (c.forward env m).2 = .success ∨ (c.forward env m).2 = .notReady := by
  unfold ChannelCtx.forward at h ⊢
  split at h
  · rename_i hid
    dsimp only at h
    split at h
    · exfalso
      unfold ChannelCtx.disconnect at h
      rw [if_pos hid] at h
      exact h rfl
    · rename_i hbreaks
      rw [if_pos hid]
      by_contra hneither
      exact hbreaks (not_or.mp hneither)
  · rename_i hid
    exact absurd h hid

variable {registered : Prop} {c : ChannelCtx ρ}

theorem afterStep_sendHeartbeat
    (h : Followed registered m c) {env : ChannelEnv} {currentTime : ℕ}
    (hbelow : (c.channel.lastKeepaliveTransmitted - c.channel.lastKeepaliveReceived).toNat <
      kKeepAliveThreshold)
    (hidle : sub64 currentTime c.channel.lastActivityTimeMs > kKeepAliveTimeout)
    (hcare : registered → HeartbeatsCount m (sendHeartbeat env currentTime c).events) :
    AfterStep registered m (sendHeartbeat env currentTime c) := by
  have hforward := Uncounted.forward env (outOfBandMessage ManagementMessage.keepAlive
    (c.channel.lastKeepaliveTransmitted + 1) []) { c with channel :=
      { c.channel with lastKeepaliveTransmitted := c.channel.lastKeepaliveTransmitted + 1 } }
  have hwritten := forward_connected env (outOfBandMessage ManagementMessage.keepAlive
    (c.channel.lastKeepaliveTransmitted + 1) []) { c with channel :=
      { c.channel with lastKeepaliveTransmitted := c.channel.lastKeepaliveTransmitted + 1 } }
  unfold sendHeartbeat at hcare ⊢
  dsimp only at hcare ⊢
  generalize ChannelCtx.forward env (outOfBandMessage ManagementMessage.keepAlive
    (c.channel.lastKeepaliveTransmitted + 1) []) { c with channel :=
      { c.channel with lastKeepaliveTransmitted := c.channel.lastKeepaliveTransmitted + 1 } } =
      forwarded at hforward hwritten hcare ⊢
  obtain ⟨es, hes, hbus⟩ := hforward.events
  have hobserved : m.observe forwarded.1.events = m.observe c.events := by
    rw [hes, Monitor.observe_append, observe_busEvents _ hbus]
  constructor
  · rw [Monitor.observe_append]
    rfl
  · intro hconnected
    have hregistered : registered := by
      by_contra hnot
      rcases hforward.clientId with hid | hid
      · exact hconnected (hid.trans (h.clientId hnot))
      · exact hconnected hid
    obtain ⟨hready, hlater⟩ := hcare hregistered _ _ _
      (List.mem_append_right _ (List.mem_singleton_self _))
    have hsuccess : forwarded.2 = .success := (hwritten hconnected).resolve_right hready
    have hcounted := (h.counts hregistered).heartbeat hbelow currentTime
      ⟨by rw [h.activity]; exact hidle, by rw [h.connected]; exact hlater⟩
    rw [Monitor.observe_append, hobserved, hsuccess]
    exact hcounted.of_eq hforward.transmitted hforward.received
  · intro _
    refine cutsOnlyDead_of_quiet fun timeInMs hmem => ?_
    rw [hes] at hmem
    simp only [List.mem_append, List.mem_singleton, reduceCtorEq, or_false] at hmem
    rcases hmem with hmem | hmem
    · exact h.quiet timeInMs hmem
    · cases hbus _ hmem

theorem afterStep_cut
    (h : Followed registered m c) (env : ChannelEnv) {currentTime : ℕ}
    (habove : ¬ (c.channel.lastKeepaliveTransmitted - c.channel.lastKeepaliveReceived).toNat <
      kKeepAliveThreshold) :
    AfterStep registered m (ChannelCtx.disconnect env
      { c with events := c.events ++ [.keepAliveTimeout currentTime] }) := by
  refine AfterStep.uncounted ?_ (.disconnect env _)
  have hobserved : m.observe (c.events ++ [.keepAliveTimeout currentTime]) =
      m.observe c.events := by
    rw [Monitor.observe_append]
    rfl
  constructor
  · show (m.observe (c.events ++ _)).lastActivityTimeMs = _
    rw [hobserved]
    exact h.activity
  · intro hconnected
    show Counts (m.observe (c.events ++ _)) _
    rw [hobserved]
    exact (AfterStep.of_followed h).counts hconnected
  · intro hregistered before timeInMs after heq
    rcases List.append_eq_append_iff.mp heq with ⟨rest, rfl, hrest⟩ | ⟨rest, hes, hrest⟩
    · cases rest with
      | nil =>
        rw [List.append_nil, (h.counts hregistered).unanswered, length_successors]
        exact Nat.not_lt.mp habove
      | cons e rest => simp at hrest
    · cases rest with
      | nil =>
        rw [List.append_nil] at hes
        rw [← hes, (h.counts hregistered).unanswered, length_successors]
        exact Nat.not_lt.mp habove
      | cons e rest =>
        obtain ⟨rfl, -⟩ := List.cons.inj hrest
        exact absurd (hes ▸ List.mem_append_right _ (List.mem_cons_self ..)) (h.quiet timeInMs)

theorem afterStep_keepAlive
    (h : Followed registered m c) {env : ChannelEnv}
    (hcare : registered → HeartbeatsCount m (keepAlive env c).events) :
    AfterStep registered m (keepAlive env c) := by
  have hticked : Followed registered m { c with fx := c.fx.tick } :=
    h.uncounted (.of_eq rfl rfl rfl (.inl rfl) rfl)
  unfold keepAlive at hcare ⊢
  by_cases hidle : sub64 c.fx.currentTime c.channel.lastActivityTimeMs > kKeepAliveTimeout
  · rw [if_pos hidle] at hcare ⊢
    by_cases hbelow : (c.channel.lastKeepaliveTransmitted - c.channel.lastKeepaliveReceived).toNat <
        kKeepAliveThreshold
    · rw [if_pos hbelow] at hcare ⊢
      exact afterStep_sendHeartbeat hticked hbelow hidle hcare
    · rw [if_neg hbelow]
      exact afterStep_cut hticked env hbelow
  · rw [if_neg hidle]
    exact .of_followed hticked

/-! ## Runs -/

theorem afterStep_update
    (h : Followed registered m c) {env : ChannelEnv} {reads : List MessageBuffer}
    {last : FailedRead}
    (horder : registered → ResponsesInOrder c.channel.lastKeepaliveTransmitted
      c.channel.lastKeepaliveReceived reads) {c' : ChannelCtx ρ}
    (hupdate : c.update socketMsgTransport env reads last = some c')
    (hcare : registered → HeartbeatsCount m c'.events) :
    AfterStep registered m c' := by
  obtain ⟨⟨c₁, result⟩, hread, rfl⟩ := Option.map_eq_some_iff.mp hupdate
  have hfollowed : Followed registered m c₁ := h.readMessages horder hread
  unfold finishUpdate at hcare ⊢
  dsimp only at hcare ⊢
  -- the Ping of a discovery does not count
  have hpinged : Followed registered m (if result = .notReady ∧
      c₁.channel.discoveredClientsQueue.active = true then
      ((sendPing env c₁).1, if (sendPing env c₁).2 = .success then Result.notReady
        else (sendPing env c₁).2) else (c₁, result)).1 := by
    split
    · exact hfollowed.uncounted (.send env _ _ _ _ _ c₁)
    · exact hfollowed
  generalize (if result = .notReady ∧ c₁.channel.discoveredClientsQueue.active = true then
      ((sendPing env c₁).1, if (sendPing env c₁).2 = .success then Result.notReady
        else (sendPing env c₁).2) else (c₁, result)) = pinged at hpinged hcare ⊢
  refine AfterStep.uncounted ?_ (.afterManager env _ _)
  by_cases hgoesOn : pinged.2 ≠ .notReady
  · rw [if_pos hgoesOn]
    exact .of_followed (hpinged.uncounted (.disconnect env _))
  · rw [if_neg hgoesOn] at hcare ⊢
    have htransport : socketMsgTransport.requiresClientRegistration = true ∧
        socketMsgTransport.requiresKeepAlive = true := ⟨rfl, rfl⟩
    rw [if_pos htransport] at hcare ⊢
    refine afterStep_keepAlive hpinged fun hregistered sequence timeInMs written hmem =>
      hcare hregistered sequence timeInMs written ?_
    obtain ⟨es, hes, -⟩ := (Uncounted.afterManager env (keepAlive env pinged.1)
      (updateSessions env.manager (keepAlive env pinged.1).managerCtx)).events
    rw [hes]
    exact List.mem_append_left _ hmem

/-- Between two steps: the monitor knows the last activity, and agrees with the counters of a
channel that is registered. -/
structure Watched (m : Monitor) (channel : MessageChannel ρ) : Prop where
  activity : m.lastActivityTimeMs = channel.lastActivityTimeMs
  counts : IsConnected channel → Counts m channel

omit [RoundTripTime ρ] in
theorem Watched.start (h : Watched m channel) (env : ChannelEnv) :
    Followed (IsConnected channel) m (env.start channel) where
  activity := h.activity
  connected := rfl
  counts := h.counts
  clientId := not_not.mp
  quiet _ := List.not_mem_nil

omit [RoundTripTime ρ] in
theorem AfterStep.watched (h : AfterStep registered m c) : Watched (m.observe c.events) c.channel :=
  ⟨h.activity, h.counts⟩

variable {createInfo : MessageChannelCreateInfo}

omit [RoundTripTime ρ] in
theorem register_counters {env : RegisterEnv} {result : Result}
    (h : register createInfo env channel = some (result, channel')) :
    channel'.lastActivityTimeMs = channel.lastActivityTimeMs ∧
      channel'.lastKeepaliveTransmitted = channel.lastKeepaliveTransmitted ∧
      channel'.lastKeepaliveReceived = channel.lastKeepaliveReceived := by
  have hinit : ∀ x : MessageChannel ρ, (initChannel createInfo env x).2.lastActivityTimeMs =
        x.lastActivityTimeMs ∧
      (initChannel createInfo env x).2.lastKeepaliveTransmitted = x.lastKeepaliveTransmitted ∧
      (initChannel createInfo env x).2.lastKeepaliveReceived = x.lastKeepaliveReceived := by
    intro x
    unfold initChannel
    cases env.transferServer with
    | none => exact ⟨rfl, rfl, rfl⟩
    | some transferServer =>
      cases env.uriServer with
      | none => exact ⟨rfl, rfl, rfl⟩
      | some uriServer =>
        dsimp only
        split
        · exact ⟨rfl, rfl, rfl⟩
        · exact ⟨rfl, rfl, rfl⟩
  by_cases hfresh : IsUnregistered channel
  · by_cases hconnects : Connects env.connect
    · rw [register_connecting createInfo env hfresh hconnects] at h
      obtain ⟨r, -, hr⟩ := Option.map_eq_some_iff.mp h
      split at hr
      · have hparts := hinit { channel with
          transportConnected := true, socketOpen := true, clientId := r.2 }
        rw [hr] at hparts
        exact hparts
      · obtain ⟨-, rfl⟩ := Prod.mk.inj hr
        exact ⟨rfl, rfl, rfl⟩
    · obtain ⟨r, -, hregister⟩ := register_unconnected createInfo env hfresh hconnects
      rw [hregister] at h
      obtain ⟨-, rfl⟩ := Prod.mk.inj (Option.some.inj h)
      exact ⟨rfl, rfl, rfl⟩
  · rw [register_refused createInfo env hfresh] at h
    obtain ⟨-, rfl⟩ := Prod.mk.inj (Option.some.inj h)
    exact ⟨rfl, rfl, rfl⟩

/-- A step that keeps the counters meaningful: heartbeats are written or break the connection and
are not sent right behind the registration, responses come in order, and a connection begins with
equal counters. -/
def KeepsCount (m : Monitor) (x : MessageChannel ρ × ChannelAction ρ × List ChannelEvent) : Prop :=
  match x.2.1 with
  | .update _ reads _ => IsConnected x.1 → HeartbeatsCount m x.2.2 ∧
    ResponsesInOrder x.1.lastKeepaliveTransmitted x.1.lastKeepaliveReceived reads
  | .register env _ => IsUnregistered x.1 → Connects env.connect →
    x.1.lastKeepaliveTransmitted = x.1.lastKeepaliveReceived
  | _ => True

omit [RoundTripTime ρ] in
theorem watched_register {env : RegisterEnv} {replyTimeInMs : ℕ} (h : Watched m channel)
    (hcare : IsUnregistered channel → Connects env.connect →
      channel.lastKeepaliveTransmitted = channel.lastKeepaliveReceived)
    (hstep : registerStep createInfo env replyTimeInMs channel = some (channel', events)) :
    Watched (m.observe events) channel' ∧
      ∀ timeInMs, ChannelEvent.keepAliveTimeout timeInMs ∉ events := by
  obtain ⟨⟨result, registered⟩, hregister, hr⟩ := Option.map_eq_some_iff.mp hstep
  obtain ⟨rfl, hevents⟩ := Prod.mk.inj hr
  obtain ⟨hactivity, htransmitted, hreceived⟩ := register_counters hregister
  split at hevents
  · rename_i hconnects
    have hfresh : IsUnregistered channel := by
      by_contra hnot
      rw [register_refused createInfo env hnot] at hregister
      obtain ⟨-, rfl⟩ := Prod.mk.inj (Option.some.inj hregister)
      exact hconnects.2 hconnects.1
    have hconnect : Connects env.connect := by
      by_contra hfails
      obtain ⟨r, -, hunconnected⟩ := register_unconnected createInfo env hfresh hfails
      rw [hunconnected] at hregister
      obtain ⟨-, rfl⟩ := Prod.mk.inj (Option.some.inj hregister)
      exact hconnects.2 hconnects.1
    have hequal : registered.lastKeepaliveTransmitted = registered.lastKeepaliveReceived := by
      rw [htransmitted, hreceived]
      exact hcare hfresh hconnect
    subst hevents
    refine ⟨⟨h.activity.trans hactivity.symm, fun _ => ⟨?_, ?_⟩⟩, by simp⟩
    · show [] = _
      rw [hequal, UInt32.sub_self]
      rfl
    · rw [hequal, UInt32.sub_self]
      decide
  · rename_i hnot
    subst hevents
    refine ⟨⟨h.activity.trans hactivity.symm, fun hconnected => ?_⟩, by simp⟩
    have hbefore : IsConnected channel := fun hzero => hnot ⟨hzero, hconnected⟩
    exact (h.counts hbefore).of_eq htransmitted hreceived

theorem Watched.step {a : ChannelAction ρ} (h : Watched m channel)
    (hcare : KeepsCount m (channel, a, events))
    (hstep : (channelMachine ρ createInfo).step channel a = some (channel', events)) :
    Watched (m.observe events) channel' ∧ (IsConnected channel → CutsOnlyDead m events) := by
  have huncounted : ∀ (env : ChannelEnv) (c : ChannelCtx ρ), Uncounted (env.start channel) c →
      some (c.channel, c.events) = some (channel', events) →
      Watched (m.observe events) channel' ∧ (IsConnected channel → CutsOnlyDead m events) := by
    intro env c hc heq
    cases heq
    have hafter := AfterStep.of_followed ((h.start env).uncounted hc)
    exact ⟨hafter.watched, hafter.safe⟩
  cases a with
  | update env reads last =>
    obtain ⟨c, hupdate, heq⟩ := Option.map_eq_some_iff.mp hstep
    cases heq
    have hafter := afterStep_update (h.start env) (fun hregistered => (hcare hregistered).2)
      hupdate fun hregistered => (hcare hregistered).1
    exact ⟨hafter.watched, hafter.safe⟩
  | register env replyTimeInMs =>
    obtain ⟨hwatched, hquiet⟩ := watched_register h hcare hstep
    exact ⟨hwatched, fun _ => cutsOnlyDead_of_quiet hquiet⟩
  | unregister env => exact huncounted env _ (.unregister env _) hstep
  | forward env message => exact huncounted env _ (.forward env message _) hstep
  | sessions env call => exact huncounted env _ (.afterManager env _ _) hstep
  | configure busEventCb status queue =>
    cases hstep
    exact ⟨⟨h.activity, fun hconnected => (h.counts hconnected).of_eq rfl rfl⟩,
      fun _ => cutsOnlyDead_of_quiet (by simp)⟩

def eventsOf (tr : List (MessageChannel ρ × ChannelAction ρ × List ChannelEvent)) :
    List ChannelEvent := tr.flatMap fun x => x.2.2

/-- Every step of a run that cuts the connection of a registered channel for keep-alive finds
enough heartbeats that were sent on this connection since the newest answered one. -/
def KeepAliveCutsOnlyDead
    (tr : List (MessageChannel ρ × ChannelAction ρ × List ChannelEvent)) : Prop :=
  ∀ before x after, tr = before ++ x :: after → IsConnected x.1 →
    CutsOnlyDead (Monitor.new.observe (eventsOf before)) x.2.2

omit [RoundTripTime ρ] in
theorem eventsOf_snoc (tr : List (MessageChannel ρ × ChannelAction ρ × List ChannelEvent))
    (x : MessageChannel ρ × ChannelAction ρ × List ChannelEvent) :
    eventsOf (tr ++ [x]) = eventsOf tr ++ x.2.2 := by
  simp [eventsOf]

theorem watched_trace {tr : List (MessageChannel ρ × ChannelAction ρ × List ChannelEvent)}
    (hinit : IsConstructed channel)
    (htrace : (channelMachine ρ createInfo).Trace channel tr channel')
    (hcare : ∀ before x after, tr = before ++ x :: after →
      KeepsCount (Monitor.new.observe (eventsOf before)) x) :
    Watched (Monitor.new.observe (eventsOf tr)) channel' ∧ KeepAliveCutsOnlyDead tr := by
  induction htrace with
  | nil =>
    refine ⟨⟨hinit.lastActivityTimeMs.symm, fun hconnected => ?_⟩, fun before x after heq => ?_⟩
    · exact absurd hconnected hinit.unregistered.1
    · simp at heq
  | @snoc t u tr a events htrace hstep ih =>
    obtain ⟨hwatched, hcuts⟩ := ih fun before x after heq =>
      hcare before x (after ++ [(t, a, events)]) (by rw [heq]; simp)
    obtain ⟨hwatched', hcut⟩ := hwatched.step (hcare tr (t, a, events) [] rfl) hstep
    refine ⟨by rw [eventsOf_snoc, Monitor.observe_append]; exact hwatched', ?_⟩
    intro before x after heq hconnected
    rcases List.append_eq_append_iff.mp heq with ⟨rest, rfl, hrest⟩ | ⟨rest, rfl, hrest⟩
    · cases rest with
      | nil =>
        obtain ⟨rfl, -⟩ := List.cons.inj hrest
        rw [List.append_nil]
        exact hcut hconnected
      | cons y rest => simp at hrest
    · cases rest with
      | nil =>
        obtain ⟨rfl, -⟩ := List.cons.inj hrest
        rw [List.append_nil] at hcut
        exact hcut hconnected
      | cons y rest =>
        obtain ⟨rfl, -⟩ := List.cons.inj hrest
        exact hcuts before x rest rfl hconnected

/-- In every run whose keep-alive responses come in order, whose heartbeats are written or break
the connection and are not sent right behind the registration, and whose connections begin with
equal counters, keep-alive only cuts connections on which enough heartbeats in a row were not
answered, each after the time of the timeout without a message. -/
theorem keep_alive_cuts_only_dead {createInfo : MessageChannelCreateInfo}
    {channel channel' : MessageChannel ρ}
    {tr : List (MessageChannel ρ × ChannelAction ρ × List ChannelEvent)}
    (hinit : (channelMachine ρ createInfo).init channel)
    (htrace : (channelMachine ρ createInfo).Trace channel tr channel')
    (hcare : ∀ before x after, tr = before ++ x :: after →
      KeepsCount (Monitor.new.observe (eventsOf before)) x) : KeepAliveCutsOnlyDead tr :=
  (watched_trace hinit htrace hcare).2

end Cuts

def idleUpdate (timeInMs : ℕ) : ChannelAction ℚ :=
  .update { calmChannelEnv with manager := { calmEnv with clock := [timeInMs] } } []
    ⟨.notReady, Result.notReady_ne_success⟩

def silentRouter : List (ChannelAction ℚ) :=
  [.register retriedRegistration 600, idleUpdate 3000, idleUpdate 6000, idleUpdate 9000,
    idleUpdate 12000, idleUpdate 15000, idleUpdate 18000]

theorem isConstructed_freshChannel : IsConstructed freshChannel :=
  ⟨isUnregistered_freshChannel, rfl, rfl, rfl⟩

/-- An event that is no heartbeat, or a heartbeat that counts. -/
def isCounted (m : Monitor) : ChannelEvent → Bool
  | .heartbeat _ timeInMs written =>
    written ≠ .notReady ∧ sub64 timeInMs m.connectedTimeMs > kKeepAliveTimeout
  | _ => true

/-- Steps whose heartbeats count, and which receive nothing or register with equal counters. -/
def isSilent : Monitor → List (MessageChannel ℚ × ChannelAction ℚ × List ChannelEvent) → Bool
  | _, [] => true
  | m, x :: tr =>
    (x.2.2.all (isCounted m) &&
      match x.2.1 with
      | .update _ reads _ => reads.isEmpty
      | .register _ _ => decide (x.1.lastKeepaliveTransmitted = x.1.lastKeepaliveReceived)
      | _ => true) && isSilent (m.observe x.2.2) tr

theorem keepsCount_of_isSilent {m : Monitor}
    {tr : List (MessageChannel ℚ × ChannelAction ℚ × List ChannelEvent)}
    (h : isSilent m tr = true) (before : List (MessageChannel ℚ × ChannelAction ℚ ×
      List ChannelEvent)) (x : MessageChannel ℚ × ChannelAction ℚ × List ChannelEvent)
    (after : List (MessageChannel ℚ × ChannelAction ℚ × List ChannelEvent))
    (heq : tr = before ++ x :: after) : KeepsCount (m.observe (eventsOf before)) x := by
  induction before generalizing m tr with
  | nil =>
    subst heq
    obtain ⟨channel, a, events⟩ := x
    simp only [List.nil_append, isSilent, Bool.and_eq_true] at h
    obtain ⟨⟨hevents, haction⟩, -⟩ := h
    cases a with
    | update env reads last =>
      obtain rfl := List.isEmpty_iff.mp haction
      refine fun _ => ⟨fun sequence timeInMs written hmem => ?_, trivial⟩
      exact of_decide_eq_true (List.all_eq_true.mp hevents _ hmem)
    | register env replyTimeInMs => exact fun _ _ => of_decide_eq_true haction
    | unregister | forward | sessions | configure => trivial
  | cons y before ih =>
    subst heq
    simp only [List.cons_append, isSilent, Bool.and_eq_true] at h
    have hrest := ih h.2 rfl
    rwa [← Monitor.observe_append] at hrest

theorem keep_alive_cuts_silent_router : ∃ channel,
    (channelMachine ℚ driverInfo).run freshChannel silentRouter = some channel ∧
      channel.clientId = kBroadcastClientId ∧
      KeepAliveCutsOnlyDead
        ((channelMachine ℚ driverInfo).transitions freshChannel silentRouter) := by
  obtain ⟨channel, hrun, hid⟩ :=
    (channelMachine ℚ driverInfo).exists_of_run freshChannel silentRouter
      (fun t => t.clientId = kBroadcastClientId) (by decide +kernel)
  have hsilent : isSilent .new
      ((channelMachine ℚ driverInfo).transitions freshChannel silentRouter) = true := by
    decide +kernel
  exact ⟨channel, hrun, hid,
    keep_alive_cuts_only_dead isConstructed_freshChannel (.of_run hrun)
      (keepsCount_of_isSilent hsilent)⟩

def isTimeout : ChannelEvent → Bool
  | .keepAliveTimeout _ => true
  | _ => false

/-- A channel that was cut once and is registered again is cut at its first idle update. -/
theorem second_connection_cut_at_once : ¬ ∀ (createInfo : MessageChannelCreateInfo)
    (channel channel' : MessageChannel ℚ)
    (tr : List (MessageChannel ℚ × ChannelAction ℚ × List ChannelEvent)),
    (channelMachine ℚ createInfo).init channel →
    (channelMachine ℚ createInfo).Trace channel tr channel' → KeepAliveCutsOnlyDead tr := by
  intro hall
  let M := channelMachine ℚ driverInfo
  let as := silentRouter ++ [.register retriedRegistration 18600]
  obtain ⟨t, hrun, ht⟩ := M.exists_of_run freshChannel as
    (fun t => (decide (t.clientId ≠ kBroadcastClientId) &&
      (M.step t (idleUpdate 21000)).any fun x => (x.2.head?).any isTimeout) = true)
    (by decide +kernel)
  have hnew : (Monitor.new.observe (eventsOf (M.transitions freshChannel as))).unanswered = [] := by
    decide +kernel
  rw [Bool.and_eq_true] at ht
  obtain ⟨⟨u, events⟩, hstep, htimeout⟩ := (Option.any_eq_true _ _).mp ht.2
  obtain ⟨e, hhead, hcut⟩ := (Option.any_eq_true _ _).mp htimeout
  cases e with
  | keepAliveTimeout timeInMs =>
    obtain ⟨rest, rfl⟩ := List.head?_eq_some_iff.mp hhead
    have hregistered : t.clientId ≠ kBroadcastClientId := of_decide_eq_true ht.1
    have hcuts := hall driverInfo freshChannel u _ isConstructed_freshChannel
      (.snoc (.of_run hrun) hstep)
    have hdead := hcuts (M.transitions freshChannel as)
      (t, idleUpdate 21000, .keepAliveTimeout timeInMs :: rest) [] rfl hregistered [] timeInMs
      rest rfl
    rw [Monitor.observe, List.foldl_nil, hnew] at hdead
    exact absurd hdead (by decide)
  | _ => cases hcut

end DevDriver.Analysis
