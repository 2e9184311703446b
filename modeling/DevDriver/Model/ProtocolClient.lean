import DevDriver.Model.Socket

/-!
# A protocol client and its server

The `Transact` functions of legacyProtocolClient.h, which send a request and wait for a reply, over
a session that keeps the payloads of both directions in order.
-/

namespace DevDriver.Model

open Library

variable {Q σ β : Type}

structure NumberedRequest (Q : Type) where
  number : ℕ
  query : Q
  deriving DecidableEq

/-- A payload of the server, with the request it took last and has sent nothing for yet. -/
structure ServerReply (Q : Type) where
  request : Option (NumberedRequest Q)
  bytes : List UInt8
  deriving DecidableEq

/-- A client of `LegacyProtocolClient`: which calls lead to a request, the payload that is sent, the
size of the buffer for the reply, the result of the call when a payload was received into it, and
the timeouts. -/
structure ProtocolClient (Q : Type) where
  issues : Q → Bool
  request : Q → SessionPayload
  bufferSize : Q → ℕ
  result : Q → List UInt8 → Result
  timeoutInMs : Q → UInt32
  retryInMs : Q → UInt32

/-- The server of a session: how it takes a payload, when it is waiting for one, and its other
steps, which may send one. -/
structure SessionServer (σ β : Type) where
  receive : SessionPayload → σ → Option σ
  step : β → σ → Option (σ × Option (List UInt8))

structure TransactCall (Q : Type) where
  request : NumberedRequest Q
  sent : Bool
  timeElapsed : UInt32

/-- A call that has returned, and the reply it took. -/
structure Returned (Q : Type) where
  request : NumberedRequest Q
  result : Result
  reply : Option (ServerReply Q)

/-- A client and the server of its session, with the payloads that are on their way. -/
structure ClientLink (Q σ : Type) where
  server : σ
  numCalls : ℕ
  call : Option (TransactCall Q)
  requests : List (NumberedRequest Q)
  serving : Option (NumberedRequest Q)
  replies : List (ServerReply Q)

/-- The steps: a call begins, its session answers a send or a receive, the server takes a request,
or it does something else. -/
inductive ClientLinkAction (Q β : Type) where
  | call (query : Q)
  | send (answer : Result)
  | receive
  | receiveFailure (answer : Result)
  | serverReceive
  | server (b : β)

namespace ClientLink

/-- A loop goes on when the session was not ready and there is time left, else the call returns.
legacyProtocolClient.h:68-79, 107-118 -/
def tryAgain (client : ProtocolClient Q) (c : TransactCall Q) (answer : Result)
    (l : ClientLink Q σ) : ClientLink Q σ × Option (Returned Q) :=
  let timeElapsed := c.timeElapsed + client.retryInMs c.request.query
  if answer = .notReady ∧ timeElapsed ≤ client.timeoutInMs c.request.query then
    ({ l with call := some { c with timeElapsed := timeElapsed } }, none)
  else ({ l with call := none }, some ⟨c.request, answer, none⟩)

def startCall (query : Q) (l : ClientLink Q σ) : ClientLink Q σ :=
  { l with numCalls := l.numCalls + 1, call := some ⟨⟨l.numCalls, query⟩, false, 0⟩ }

/-- `ISession::Send` of the request returns.
legacyProtocolClient.h:100-120 -/
def send (client : ProtocolClient Q) (c : TransactCall Q) (answer : Result)
    (l : ClientLink Q σ) : ClientLink Q σ × Option (Returned Q) :=
  if answer = .success then
    ({ l with
      call := some { c with sent := true, timeElapsed := 0 }
      requests := l.requests ++ [c.request] }, none)
  else l.tryAgain client c answer

/-- `ISession::Receive` finds a payload, which it hands over when the buffer is large enough.
legacyProtocolClient.h:59-97, session.cpp:1028-1056 -/
def receive (client : ProtocolClient Q) (c : TransactCall Q) (reply : ServerReply Q)
    (replies : List (ServerReply Q)) (l : ClientLink Q σ) : ClientLink Q σ × Option (Returned Q) :=
  if reply.bytes.length ≤ client.bufferSize c.request.query then
    ({ l with call := none, replies := replies },
      some ⟨c.request, client.result c.request.query reply.bytes, some reply⟩)
  else l.tryAgain client c .insufficientMemory

def serverReceive (server : SessionServer σ β) (client : ProtocolClient Q)
    (request : NumberedRequest Q) (requests : List (NumberedRequest Q)) (l : ClientLink Q σ) :
    Option (ClientLink Q σ) :=
  (server.receive (client.request request.query) l.server).map fun s =>
    { l with server := s, requests := requests, serving := some request }

def serverSends (reply : Option (List UInt8)) (l : ClientLink Q σ) : ClientLink Q σ :=
  match reply with
  | none => l
  | some bytes => { l with replies := l.replies ++ [⟨l.serving, bytes⟩], serving := none }

def step (server : SessionServer σ β) (client : ProtocolClient Q) (l : ClientLink Q σ) :
    ClientLinkAction Q β → Option (ClientLink Q σ × Option (Returned Q))
  | .call query =>
    if l.call.isNone ∧ client.issues query = true then some (l.startCall query, none) else none
  | .send answer =>
    match l.call with
    | some c => if c.sent then none else some (l.send client c answer)
    | none => none
  | .receive =>
    match l.call, l.replies with
    | some c, reply :: replies => if c.sent then some (l.receive client c reply replies) else none
    | _, _ => none
  | .receiveFailure answer =>
    match l.call with
    | some c =>
      if c.sent ∧ answer ≠ .success then some (l.tryAgain client c answer) else none
    | none => none
  | .serverReceive =>
    match l.requests with
    | request :: requests =>
      (l.serverReceive server client request requests).map fun l => (l, none)
    | [] => none
  | .server b =>
    (server.step b l.server).map fun x => ({ l with server := x.1 }.serverSends x.2, none)

end ClientLink

/-- A client that transacts with a session of a server. -/
def clientLinkMachine (server : SessionServer σ β) (client : ProtocolClient Q)
    (established : σ → Prop) :
    Machine (ClientLink Q σ) (ClientLinkAction Q β) (Option (Returned Q)) where
  init l := ∃ s, established s ∧ l = ⟨s, 0, none, [], none, []⟩
  step l a := l.step server client a

end DevDriver.Model
