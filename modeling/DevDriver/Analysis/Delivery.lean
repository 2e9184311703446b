import DevDriver.Analysis.Flow
import DevDriver.Library.Channel

/-!
# In-order, exactly-once delivery

A connection makes three kinds of steps: one side's threads or its handling of a message, the
opening of the server session, and changes of what is in flight.
-/

namespace DevDriver.Analysis

open Library Model Connection

variable {ρ : Type} [RoundTripTime ρ]

/-! ## Steps of a connection -/

/-- What a step does to the two ends and the network. -/
inductive Stepped (p : Parties) (c : Connection ρ) : Connection ρ → Effects → Prop where
  | acted (e : End) (op : Operation) (env : Surroundings) (wire : List MessageBuffer)
      (r : Endpoint ρ × Outcome) (hcreated : c.created e = true)
      (hop : isLocal op = true ∨ ∃ m ∈ c.toward e, ∃ stale,
        op = .handleMessage (m.arriving stale))
      (hstep : (c.side e).endpoint.perform op env.start = some r)
      (hwire : ∀ m ∈ wire, m ∈ c.toward e) : Stepped p c (c.update e wire r) r.2.fx
  | accepted (m : MessageBuffer) (version : Version) (sessionId : SessionId)
      (env : Surroundings) (wire : List MessageBuffer)
      (hm : ∃ m' ∈ c.toward .server, ∃ stale, m = m'.arriving stale) (hkind : m.kind = .syn)
      (hcreated : c.created .server = false) (hid : sessionId ≠ kInvalidSessionId)
      (hremote : m.header.srcClientId ≠ kBroadcastClientId)
      (hwire : ∀ m' ∈ wire, m' ∈ c.toward .server) :
      Stepped p c (c.update .server wire (opened ρ p version sessionId m env))
        (opened ρ p version sessionId m env).2.fx
  | wires (c' : Connection ρ) (fx : Effects) (hside : c'.side = c.side)
      (hcreated : c'.created = c.created)
      (hwire : ∀ e, ∀ m ∈ c'.toward e, m ∈ c.toward e ∨ m.kind = .rst)
      (hforwarded : fx.forwarded = []) : Stepped p c c' fx

omit [RoundTripTime ρ] in
@[simp] theorem kind_resetMessage (clientId remoteClientId : ClientId) (sessionId : SessionId)
    (reason : Result) (version : Version) :
    (resetMessage clientId remoteClientId sessionId reason version).kind = .rst := rfl

section Update

omit [RoundTripTime ρ]

variable (e : End) (wire : List MessageBuffer) (r : Endpoint ρ × Outcome) (c : Connection ρ)

@[simp] theorem Connection.update_side : (c.update e wire r).side e = (c.side e).record r := by
  simp [Connection.update]

@[simp] theorem Connection.update_side_other :
    (c.update e wire r).side e.other = c.side e.other := by
  simp [Connection.update]

@[simp] theorem Connection.update_toward : (c.update e wire r).toward e = wire := by
  simp [Connection.update, (End.other_ne e).symm]

@[simp] theorem Connection.update_toward_other :
    (c.update e wire r).toward e.other = c.toward e.other ++ r.2.fx.inFlight := by
  simp [Connection.update]

end Update

variable {p : Parties} {c : Connection ρ} {e : End} {wire : List MessageBuffer}

omit [RoundTripTime ρ] in
theorem mem_reset {sessionId : SessionId} {reason : Result} {version : Version}
    (hwire : ∀ m ∈ wire, m ∈ c.toward e) (e' : End) (m : MessageBuffer)
    (hm : m ∈ (c.reset p e wire sessionId reason version).toward e') :
    m ∈ c.toward e' ∨ m.kind = .rst := by
  rcases End.eq_or_eq_other e e' with rfl | rfl
  · left
    exact hwire m (by simpa [reset, (End.other_ne e').symm] using hm)
  · simp only [reset, Function.update_self, List.mem_append,
      List.mem_singleton] at hm
    rcases hm with hm | rfl
    · exact .inl hm
    · exact .inr (kind_resetMessage _ _ _ _ _)

theorem step_cases {c' : Connection ρ} {a : ConnectionAction} {fx : Effects}
    (h : Connection.step p c a = some (c', fx)) : Stepped p c c' fx := by
  have herase : ∀ e k, ∀ m ∈ (c.toward e).eraseIdx k, m ∈ c.toward e :=
    fun _ _ _ hm => List.mem_of_mem_eraseIdx hm
  cases a with
  | act e op env =>
    obtain ⟨hcond, h⟩ := Option.ite_none_right_eq_some.mp h
    split at h
    · rename_i r hr
      cases h
      exact .acted e op env _ r hcond.1 (.inl hcond.2) hr fun _ => id
    · cases h
  | deliver e k stale env =>
    simp only [Connection.step] at h
    split at h
    · cases h
    · rename_i m hm
      have hmem := List.mem_of_getElem? hm
      split at h
      · cases h
      · split at h
        · rename_i hcond
          split at h
          · rename_i r hr
            cases h
            exact .acted e _ env _ r hcond.1 (.inr ⟨m, hmem, stale, rfl⟩) hr (herase e k)
          · cases h
        · cases h
          exact .wires _ _ rfl rfl (mem_reset (herase e k)) rfl
  | accept k stale version sessionId env =>
    simp only [Connection.step] at h
    split at h
    · cases h
    · rename_i m hm
      obtain ⟨hcond, ⟨⟩⟩ := Option.ite_none_right_eq_some.mp h
      exact .accepted _ version sessionId env _ ⟨m, List.mem_of_getElem? hm, stale, rfl⟩ hcond.1
        hcond.2.1 hcond.2.2.1 hcond.2.2.2 (herase .server k)
  | refuse e k reason version =>
    simp only [Connection.step] at h
    split at h
    · cases h
    · split at h
      · cases h
        exact .wires _ _ rfl rfl (mem_reset (herase e k)) rfl
      · cases h
  | drop e k =>
    obtain ⟨-, ⟨⟩⟩ := Option.ite_none_right_eq_some.mp h
    refine .wires _ _ rfl rfl (fun e' m hm => .inl ?_) rfl
    rcases End.eq_or_eq_other e e' with rfl | rfl
    · exact herase e' k m (by simpa using hm)
    · simpa using hm
  | duplicate e k =>
    simp only [Connection.step] at h
    split at h
    · cases h
    · rename_i m hm
      cases h
      refine .wires _ _ rfl rfl (fun e' m' hm' => .inl ?_) rfl
      rcases End.eq_or_eq_other e e' with rfl | rfl
      · rcases (by simpa using hm' : m' ∈ c.toward e' ∨ m' = m) with hm' | rfl
        · exact hm'
        · exact List.mem_of_getElem? hm
      · simpa using hm'

/-- The message that an action delivers to a session of the connection: `m` reaches the session
of the side `e`. -/
structure Delivers (c : Connection ρ) (a : ConnectionAction) (e : End) (m : MessageBuffer) :
    Prop where
  created : c.created e = true
  action : ∃ k stale env m', a = .deliver e k stale env ∧ (c.toward e)[k]? = some m' ∧
    m = m'.arriving stale
  routed : routed m (c.side e).endpoint.session = true

theorem Delivers.step {a : ConnectionAction} {m : MessageBuffer} (h : Delivers c a e m)
    (hsyn : m.kind ≠ .syn) :
    ∃ wire env, Connection.step p c a =
      some (c.update e wire ((c.side e).endpoint.run (handleMessage 0 m)
        (Surroundings.start env)), (handleMessage 0 m
          ⟨(c.side e).endpoint.session, Surroundings.start env⟩).fx) := by
  obtain ⟨k, stale, env, m', rfl, hk, rfl⟩ := h.action
  have hmay : mayHandle (m'.arriving stale) (c.side e).endpoint.session.sessionState = true :=
    (Bool.and_eq_true_iff.mp h.routed).1
  have hsyn' : ¬ m'.kind = .syn := hsyn
  refine ⟨(c.toward e).eraseIdx k, env, ?_⟩
  simp only [Connection.step, hk]
  rw [if_neg hsyn', if_pos ⟨h.created, h.routed⟩]
  simp only [Endpoint.perform, hmay, if_true]
  rfl

/-! ## The invariant -/

structure Sound (e : Endpoint ρ) : Prop where
  send : SendInv e.writers.length e.session.sendWindow
  receive : Receives (e.readers + e.openReaders) e.session
  calls : ∀ call ∈ e.senders ++ e.writers, GoodCall call

omit [RoundTripTime ρ] in
theorem Sound.idle {s : Session ρ} (hsend : SendInv 0 s.sendWindow) (hreceive : Receives 0 s) :
    Sound (.idle s) := ⟨hsend, hreceive, nofun⟩

theorem Sound.perform {e e' : Endpoint ρ} {op : Operation} {env : Surroundings} {o : Outcome}
    (h : Sound e) (hop : ∀ call, op = .send call → call.Readable)
    (hstep : e.perform op env.start = some (e', o)) : Sound e' where
  send := (sendStep_perform h.send hstep).inv
  receive := (@receives_perform ρ _ e op env o 0 e' h.send h.receive hstep).1
  calls := goodCalls_perform hop h.calls hstep

structure Joint (p : Parties) (c : Connection ρ) : Prop where
  sound : ∀ e, Sound (c.side e).endpoint
  flow : ∀ e, Flow (c.side e) (c.toward e.other) (c.side e.other)
  uncreated : c.created .server = false → c.side .server = (start ρ p).side .server

theorem joint_start (p : Parties) : Joint p (start ρ p) := by
  obtain ⟨hsends, hreceive⟩ := openClient_spec (ρ := ρ) p.clientId p.serverId p.protocol
    p.initialSessionId p.minVersion p.maxVersion p.server_ne p.session_ne
  have hopened := Opened.client (ρ := ρ) p.clientId p.serverId p.protocol p.initialSessionId
    p.minVersion p.maxVersion p.server_ne p.session_ne
  -- both directions start from sides that have filed and received nothing
  have hempty : ∀ (s s' : Session ρ) (log : Log), s.sendWindow = .new _ ρ →
      s'.receiveWindow = .new _ → Flow ⟨.idle s, [], []⟩ [] ⟨.idle s', log, []⟩ := by
    intro s s' log hs hs'
    refine ⟨?_, fun _ _ h => (by cases h), fun i => .inl ?_, List.forall_mem_nil _, fun i hi => ?_,
      ?_,
      ?_, ?_⟩
    · simp [Endpoint.idle, hs, TransmitWindow.new]
    · simp [Endpoint.idle, hs, TransmitWindow.new, MessageBuffer.kind, MessageBuffer.zero,
        SessionMessage.ofCode]
    · simp [Endpoint.idle, hs', ReceiveWindow.new] at hi
    · simp [Endpoint.idle, hs', ReceiveWindow.new]
    · simp [Endpoint.idle, hs', ReceiveWindow.new]
    · simp [Endpoint.idle, hs', ReceiveWindow.new, payloads]
  refine ⟨fun e => ?_, fun e => ?_, fun _ => rfl⟩
  · cases e with
    | client => exact .idle (inv_opened hopened) (receives_opened hopened)
    | server => exact .idle sendInv_new (receives_new rfl)
  · cases e with
    | client =>
      have hfirst := (hempty (.new ρ p.clientId .client p.protocol)
        (.new ρ p.serverId .server p.protocol) [] rfl rfl).send []
        (r := (.idle (openClient ρ p.clientId p.serverId p.protocol p.initialSessionId
          p.minVersion p.maxVersion), ⟨.start [] [] fun _ => none, _, none⟩))
        hsends (fun _ _ => .inr (.inr rfl)) (List.forall_mem_nil _) (List.forall_mem_nil _)
      exact hfirst
    | server => exact hempty (.new ρ p.serverId .server p.protocol) _ _ rfl hreceive

/-- What a step does to one end leaves the flow in both directions sound. -/
theorem Joint.step {c' : Connection ρ} {fx : Effects} (h : Joint p c) (hstep : Stepped p c c' fx) :
    Joint p c' := by
  cases hstep with
  | acted e op env wire r hcreated hop hperform hwire =>
    have hsound := h.sound e
    have hreadable : ∀ call, op = .send call → call.Readable := by
      rintro call rfl
      rcases hop with hlocal | ⟨m, -, stale, hm⟩
      · exact of_decide_eq_true hlocal
      · cases hm
    have hcarried : ∀ m, op = .handleMessage m → Carried (c.side e.other).written m := by
      rintro m rfl
      rcases hop with hlocal | ⟨m', hm', stale, hm⟩
      · cases hlocal
      · cases hm
        have hflow := (h.flow e.other).wire m' (by rwa [End.other_other])
        exact hflow.arriving stale
    refine ⟨fun e' => ?_, fun e' => ?_, fun hfalse => ?_⟩
    · rcases End.eq_or_eq_other e e' with rfl | rfl
      · simpa [Side.record] using hsound.perform hreadable hperform
      · simpa using h.sound e.other
    · rcases End.eq_or_eq_other e e' with rfl | rfl
      · have hsent := (h.flow e').send ((c.update e' wire r).toward e'.other)
          (sends_perform (fun call hc => hsound.calls call (List.mem_append_right _ hc))
            hsound.send hperform)
          (fun x hx => (kind_written_perform hperform x hx).imp_right .inl)
          (emits_perform hsound.send hperform) (by simp)
        simpa using hsent
      · have htaken := (h.flow e.other).receive wire
          (by simpa using takes_perform hsound.send hsound.receive hperform) hcarried
          (by simpa using hwire)
        simpa using htaken
    · cases e with
      | client => exact h.uncreated (by simpa [Connection.update] using hfalse)
      | server => simp [Connection.update] at hfalse
  | accepted m version sessionId env wire hm hkind hcreated hid hremote hwire =>
    set r := opened ρ p version sessionId m env with hr
    have hserver := h.uncreated hcreated
    obtain ⟨hsends, hreceive, -, hforwarded⟩ := acceptServer_spec (ρ := ρ) p.serverId p.protocol
      version sessionId env hkind hremote hid
    have hopened := Opened.server (ρ := ρ) p.serverId p.protocol version sessionId m env hkind
      hremote hid
    have hcarried : Carried (c.side .client).written m := by
      obtain ⟨m', hm', stale, rfl⟩ := hm
      exact ((h.flow .client).wire m' hm').arriving stale
    refine ⟨fun e => ?_, fun e => ?_, fun hfalse => ?_⟩
    · rcases End.eq_or_eq_other .server e with rfl | rfl
      · have hidle : Sound r.1 := .idle (inv_opened hopened) (receives_opened hopened)
        simpa [Side.record] using hidle
      · simpa using h.sound (End.other .server)
    · rcases End.eq_or_eq_other .server e with rfl | rfl
      · have hsent := (h.flow .server).send (r := r)
          ((c.update .server wire r).toward (End.other .server))
          (by rw [hserver]; exact hsends) (fun _ _ => .inr (.inr (by rw [hserver]; rfl)))
          (by rw [hr, opened]; simp [hforwarded]) (by simp)
        simpa using hsent
      · have hfresh : (c.side .server).endpoint.session.receiveWindow = .new _ := by
          rw [hserver]
          rfl
        have htakes : Takes (.handleMessage m) (c.side .server).endpoint.session.receiveWindow
            r.1.session.receiveWindow none := by
          have hwindow : r.1.session.receiveWindow =
              (ReceiveWindow.new _).reset m.header.sequence := hreceive
          rw [hfresh, hwindow]
          exact .restarts rfl (.inl hkind) rfl rfl fun _ => rfl
        have htaken := (h.flow (End.other .server)).receive wire htakes
          (by rintro m' ⟨⟩; exact hcarried) hwire
        simpa using htaken
    · simp [Connection.update] at hfalse
  | wires c' fx hside hcreated hwire _ =>
    refine ⟨fun e => ?_, fun e => ?_, fun hfalse => ?_⟩
    · rw [hside]
      exact h.sound e
    · have hflow := h.flow e
      rw [hside]
      refine ⟨hflow.length, hflow.handshake, hflow.slots, fun m hm => ?_, hflow.filed,
        hflow.unread_pos, hflow.unread_le, hflow.received⟩
      rcases hwire e.other m hm with hold | hreset
      · exact hflow.wire m hold
      · exact .inr (.inl hreset)
    · rw [hside]
      exact h.uncreated (hcreated ▸ hfalse)

theorem joint_reachable (hc : (machine ρ p).Reachable c) : Joint p c := by
  refine hc.invariant (P := Joint p) ?_ ?_
  · rintro _ rfl
    exact joint_start p
  · intro c c' a fx _ h hstep
    exact h.step (step_cases hstep)

/-! ## Refinement -/

/-- The channel one direction of a connection stands for: what `Send` accepted on the side `e`
and what `Receive` returned on the other. -/
def channelOf (e : End) (c : Connection ρ) : Channel (List UInt8) where
  accepted := (c.side e).sent
  delivered := (c.side e.other).received

omit [RoundTripTime ρ] in
theorem Flow.prefix {src dst : Side ρ} (h : Flow src wire dst) : dst.received <+: src.sent := by
  rw [h.received]
  exact (List.take_prefix _ _).filterMap _

omit [RoundTripTime ρ] in
theorem channel_update {e' : End} {r : Endpoint ρ × Outcome}
    (hflow : Flow ((c.update e' wire r).side e) ((c.update e' wire r).toward e.other)
      ((c.update e' wire r).side e.other)) :
    Relation.ReflTransGen (channel _).Next (channelOf e c)
      (channelOf e (c.update e' wire r)) := by
  have hprefix := hflow.prefix
  rcases End.eq_or_eq_other e e' with rfl | rfl
  · -- the sender's step accepts the payload of the message it files
    have haccepts := (channelOf e' c).accepts (r.2.written.bind fun x =>
      if x.1 = .data then some x.2 else none)
    have hsent : (channelOf e' c).accepted ++ (r.2.written.bind fun x =>
        if x.1 = .data then some x.2 else none).toList =
        (channelOf e' (c.update e' wire r)).accepted := by
      simp only [channelOf, Connection.update_side, Side.sent, Side.record,
        payloads_append]
      cases r.2.written <;> rfl
    rw [hsent] at haccepts
    simpa [channelOf] using haccepts
  · -- the receiver's step delivers the payload its reader returned
    have hreceived : ((c.update e.other wire r).side e.other).received =
        (c.side e.other).received ++ r.2.received.toList := by
      simp [Side.record]
    have hsent : ((c.update e.other wire r).side e).sent = (c.side e).sent := by
      have hother := Connection.update_side_other e.other wire r c
      rw [End.other_other] at hother
      rw [hother]
    have hnext : ∀ y ∈ r.2.received, (channelOf e c).next = some y := by
      intro y hy
      rw [hreceived, hsent, Option.mem_def.mp hy] at hprefix
      obtain ⟨rest, hrest⟩ := hprefix
      simp only [Channel.next, channelOf, ← hrest]
      simp
    have hdelivers := (channelOf e c).delivers hnext
    simpa only [channelOf, hreceived, hsent] using hdelivers

theorem connection_refines_channel (p : Parties) (e : End) :
    Machine.Refines (machine ρ p) (channel (List UInt8)) (channelOf e) where
  init c hc := by
    obtain rfl := hc
    cases e <;> exact ⟨rfl, rfl⟩
  step c c' a fx hc hstep := by
    have hcases := step_cases hstep
    have hflow := ((joint_reachable hc).step hcases).flow e
    cases hcases with
    | acted e' op env wire r _ _ _ _ => exact channel_update hflow
    | accepted m version sessionId env wire _ _ _ _ _ _ => exact channel_update hflow
    | wires c' fx hside _ _ _ =>
      have hsame : channelOf e c' = channelOf e c := by
        simp only [channelOf, hside]
      rw [hsame]

/-- In every reachable state of a connection, and for each direction, the payloads that the
successful calls of `Receive` returned on one side are a prefix of the payloads that the
successful calls of `Send` accepted on the other. -/
theorem session_delivery_in_order {p : Parties} {c : Connection ρ}
    (hc : (machine ρ p).Reachable c) (e : End) :
    (c.side e.other).received <+: (c.side e).sent :=
  Channel.delivered_prefix ((connection_refines_channel p e).reachable hc)

def parties : Parties where
  clientId := 1
  serverId := 2
  protocol := 16
  initialSessionId := 1
  minVersion := 1
  maxVersion := 1
  client_ne := by decide
  server_ne := by decide
  session_ne := by decide

def blank : Payload := fun _ => 0

def served : Surroundings := ⟨[], [], fun _ => some 0⟩

def synAckInFlight : List ConnectionAction :=
  [.act .client .updateSendWindow calm, .accept 0 blank 1 0x10001 served,
    .act .server .updateSendWindow served]

def handshake : List ConnectionAction :=
  synAckInFlight ++ [.deliver .client 0 blank calm, .deliver .server 0 blank served]

def sends (e : End) (bytes : List UInt8) : List ConnectionAction :=
  [.act e (.send ⟨bytes.length, some bytes⟩) calm, .act e (.sendWait 0) calm,
    .act e (.sendWrite 0) calm, .act e .updateSendWindow calm]

theorem reachable_start (p : Parties) :
    (machine ρ p).Reachable (start ρ p) := .init rfl

theorem session_delivery_in_order_overtaken : ∃ c : Connection ℚ,
    (c.side .client).sent = [[7], [8]] ∧ (c.side .server).received = [[7]] ∧
      (c.side .server).received <+: (c.side .client).sent := by
  obtain ⟨c, hc, hp⟩ := (reachable_start (ρ := ℚ) parties).exists_of_run
    (handshake ++ sends .client [7] ++ sends .client [8] ++
      [.deliver .server 1 blank served, .duplicate .server 0, .deliver .server 0 blank served,
        .deliver .server 0 blank served, .act .server .receive served,
        .act .server .receiveWait served, .act .server .receiveCheck served,
        .act .server (.receiveRead 1) served])
    (fun c => (c.side .client).sent = [[7], [8]] ∧ (c.side .server).received = [[7]])
    (by decide +kernel)
  obtain ⟨hsent, hreceived⟩ := of_decide_eq_true hp
  exact ⟨c, hsent, hreceived, session_delivery_in_order hc .client⟩

end DevDriver.Analysis
