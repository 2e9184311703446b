import DevDriver.Model.SessionManager

/-!
# A connection

A client session and the server session it connects to, each with the threads that use it, and a
network between them that loses, duplicates and reorders messages.
-/

namespace DevDriver.Model

open Library

inductive End where
  | client
  | server
  deriving DecidableEq

def End.other : End → End
  | .client => .server
  | .server => .client

theorem End.eq_or_eq_other (e e' : End) : e' = e ∨ e' = e.other := by
  cases e <;> cases e' <;> simp [End.other]

@[simp] theorem End.other_ne (e : End) : e.other ≠ e := by
  cases e <;> simp [End.other]

@[simp] theorem End.other_other (e : End) : e.other.other = e := by
  cases e <;> rfl

def payloads (written : List (SessionMessage × List UInt8)) : List (List UInt8) :=
  written.filterMap fun x => if x.1 = .data then some x.2 else none

structure Side (ρ : Type) where
  endpoint : Endpoint ρ
  written : List (SessionMessage × List UInt8)
  received : List (List UInt8)

namespace Side

variable {ρ : Type}

def sent (s : Side ρ) : List (List UInt8) := payloads s.written

def record (r : Endpoint ρ × Outcome) (s : Side ρ) : Side ρ where
  endpoint := r.1
  written := s.written ++ r.2.written.toList
  received := s.received ++ r.2.received.toList

end Side

/-- Two sides, whether the session of each has been created, and the messages in flight toward
each of them. -/
structure Connection (ρ : Type) where
  side : End → Side ρ
  created : End → Bool
  toward : End → List MessageBuffer

/-- Who connects to whom, for which protocol, under which id. -/
structure Parties where
  clientId : ClientId
  serverId : ClientId
  protocol : Protocol
  initialSessionId : SessionId
  minVersion : Version
  maxVersion : Version
  client_ne : clientId ≠ kBroadcastClientId
  server_ne : serverId ≠ kBroadcastClientId
  session_ne : initialSessionId ≠ kInvalidSessionId

def Parties.id (p : Parties) : End → ClientId
  | .client => p.clientId
  | .server => p.serverId

def Parties.synPayload (p : Parties) : SynPayload where
  minVersion := p.minVersion
  protocol := p.protocol
  sessionVersion := kSessionProtocolVersion
  maxVersion := p.maxVersion

/-- The message as it arrives: behind its payload the receive buffer keeps stale bytes. -/
def MessageBuffer.arriving (stale : Payload) (m : MessageBuffer) : MessageBuffer :=
  { m with payload := memcpyPayload m.header.payloadSize m.payload stale }

/-- The manager finds the session for the message, by the session id of the header or, for a
SynAck, by the initial session id of its payload.
sessionManager.cpp:209-224, sessionManager.cpp:416-459 -/
def routed {ρ : Type} (m : MessageBuffer) (s : Session ρ) : Bool :=
  mayHandle m s.sessionState &&
    (m.header.sessionId = s.sessionId ||
      (m.kind = .synAck && (SynAckPayload.decode m.payload).initialSessionId = s.sessionId))

/-- What happens in a connection.  `k` is the place of a message in flight. -/
inductive ConnectionAction where
  | act (e : End) (op : Operation) (env : Surroundings)
  | deliver (e : End) (k : ℕ) (stale : Payload) (env : Surroundings)
  /-- a Syn arrives and the server's manager opens the session for it -/
  | accept (k : ℕ) (stale : Payload) (version : Version) (sessionId : SessionId)
      (env : Surroundings)
  /-- a Syn arrives and the manager resets it -/
  | refuse (e : End) (k : ℕ) (reason : Result) (version : Version)
  | drop (e : End) (k : ℕ)
  | duplicate (e : End) (k : ℕ)

namespace Connection

variable {ρ : Type}

/-- The connection after a step of the side `e` and with `wire` in flight toward it. -/
def update (e : End) (wire : List MessageBuffer) (r : Endpoint ρ × Outcome)
    (c : Connection ρ) : Connection ρ where
  side := Function.update c.side e ((c.side e).record r)
  created := Function.update c.created e true
  toward := Function.update (Function.update c.toward e wire) e.other
    (c.toward e.other ++ r.2.fx.inFlight)

/-- The connection with `wire` in flight toward `e` and one more message toward the other
side. -/
def reset (p : Parties) (e : End) (wire : List MessageBuffer) (sessionId : SessionId)
    (reason : Result) (version : Version) (c : Connection ρ) : Connection ρ :=
  { c with
    toward := Function.update (Function.update c.toward e wire) e.other
      (c.toward e.other ++
        [resetMessage (p.id e) (p.id e.other) sessionId reason version]) }

/-- The operations of a side's own threads: anything but the handling of a message, and a
`Send` must hand over as many bytes as it says. -/
def isLocal : Operation → Bool
  | .handleMessage _ => false
  | .send call => decide call.Readable
  | _ => true

variable [RoundTripTime ρ]

/-- The endpoint of the server session that the Syn `m` opens, after it has handled the Syn. -/
def opened (ρ : Type) [RoundTripTime ρ] (p : Parties) (version : Version)
    (sessionId : SessionId) (m : MessageBuffer) (env : Surroundings) : Endpoint ρ × Outcome :=
  let c := acceptServer ρ p.serverId p.protocol version sessionId m env.start
  (.idle c.session, ⟨c.fx, some (.synAck,
    (synAckPayload m (openServer ρ p.serverId p.protocol version sessionId m)).encode), none⟩)

def step (p : Parties) (c : Connection ρ) : ConnectionAction → Option (Connection ρ × Effects)
  | .act e op env =>
    if c.created e ∧ isLocal op then
      match (c.side e).endpoint.perform op env.start with
      | some r => some (c.update e (c.toward e) r, r.2.fx)
      | none => none
    else none
  | .deliver e k stale env =>
    match (c.toward e)[k]? with
    | none => none
    | some m =>
      if m.kind = .syn then none
      else
        let m := m.arriving stale
        let wire := (c.toward e).eraseIdx k
        if c.created e ∧ routed m (c.side e).endpoint.session then
          match (c.side e).endpoint.perform (.handleMessage m) env.start with
          | some r => some (c.update e wire r, r.2.fx)
          | none => none
        else some (c.reset p e wire m.header.sessionId .unavailable 0, env.start)
  | .accept k stale version sessionId env =>
    match (c.toward .server)[k]? with
    | none => none
    | some m =>
      if m.kind = .syn ∧ c.created .server = false ∧ sessionId ≠ kInvalidSessionId ∧
          m.header.srcClientId ≠ kBroadcastClientId then
        let r := opened ρ p version sessionId (m.arriving stale) env
        some (c.update .server ((c.toward .server).eraseIdx k) r, r.2.fx)
      else none
  | .refuse e k reason version =>
    match (c.toward e)[k]? with
    | none => none
    | some m =>
      if m.kind = .syn then
        some (c.reset p e ((c.toward e).eraseIdx k) m.header.sessionId reason version,
          .start [] [] fun _ => none)
      else none
  | .drop e k =>
    if k < (c.toward e).length then
      some ({ c with
          toward := Function.update c.toward e ((c.toward e).eraseIdx k) },
        .start [] [] fun _ => none)
    else none
  | .duplicate e k =>
    match (c.toward e)[k]? with
    | none => none
    | some m =>
      some ({ c with toward := Function.update c.toward e (c.toward e ++ [m]) },
        .start [] [] fun _ => none)

/-- A connection whose client has just called `Connect` and whose server session does not exist
yet. -/
def start (ρ : Type) [RoundTripTime ρ] (p : Parties) : Connection ρ where
  side
    | .client =>
      { endpoint := .idle (openClient ρ p.clientId p.serverId p.protocol p.initialSessionId
          p.minVersion p.maxVersion)
        written := [(.syn, p.synPayload.encode)]
        received := [] }
    | .server => ⟨.idle (.new ρ p.serverId .server p.protocol), [], []⟩
  created e := e = .client
  toward _ := []

/-- Two sessions and the network between them. -/
def machine (ρ : Type) [RoundTripTime ρ] (p : Parties) :
    Machine (Connection ρ) ConnectionAction Effects where
  init c := c = start ρ p
  step := step p

end Connection

/-! ## Two session managers that only handle messages

Two managers in any state and the messages in flight toward each of them.  The only step is
that one of them handles one of these messages; what it puts in flight goes to the other. -/

/-- The managers of both ends, and the messages under way to each. -/
structure Exchange (ρ : Type) where
  manager : End → SessionManager ρ
  toward : End → List MessageBuffer

/-- The manager `e` handles the `k`-th message in flight toward it. -/
structure Handling where
  e : End
  k : ℕ
  env : ManagerEnv

namespace Exchange

variable {ρ : Type} [RoundTripTime ρ]

def step (x : Exchange ρ) (a : Handling) : Option (Exchange ρ) :=
  match (x.toward a.e)[a.k]? with
  | none => none
  | some m =>
    (handleReceivedSessionMessage m a.env (a.env.start (x.manager a.e))).map fun c =>
      { manager := Function.update x.manager a.e c.manager
        toward :=
          Function.update (Function.update x.toward a.e ((x.toward a.e).eraseIdx a.k))
            a.e.other (x.toward a.e.other ++ c.fx.inFlight) }

end Exchange

end DevDriver.Model
