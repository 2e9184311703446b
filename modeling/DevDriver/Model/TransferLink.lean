import DevDriver.Model.TransferClient
import DevDriver.Model.TransferServer

/-!
# A transfer client and its server session

Both ends of one protocol session that loses nothing and keeps the order: the server side's session
with its manager, and the payloads that are under way in either direction.
-/

namespace DevDriver.Model

open Library

/-- A payload of at most `kMaxPayloadSizeInBytes` bytes, which is all that a session sends. -/
def toSessionPayload (bytes : List UInt8) : SessionPayload :=
  ⟨bytes.take kMaxPayloadSizeInBytes, List.length_take_le _ _⟩

/-- A client's session with the server, and the payloads under way. -/
structure TransferLink where
  server : TransferSession
  manager : TransferManager
  toServer : List SessionPayload
  toClient : List SessionPayload

/-- What an update of the server meets: how many of the payloads under way have arrived, and what
`Send` answers. -/
structure ServerTurn where
  arrived : ℕ
  sends : List Result

namespace TransferLink

def serverCtx (turn : ServerTurn) (l : TransferLink) : TransferCtx where
  session := l.server
  manager := l.manager
  receives := (l.toServer.take turn.arrived).map .payload
  sends := turn.sends
  sent := []
  events := []

def serverTurn (turn : ServerTurn) (l : TransferLink) : TransferLink :=
  let c := (l.serverCtx turn).updateSession
  { server := c.session
    manager := c.manager
    toServer := l.toServer.drop ((l.toServer.take turn.arrived).length - c.receives.length)
    toClient := l.toClient ++ c.sent.map toSessionPayload }

def serverTurns (turns : List ServerTurn) (l : TransferLink) : TransferLink :=
  turns.foldl (fun l turn => l.serverTurn turn) l

end TransferLink

/-- What `Receive` answers when it hands out nothing: `NotReady` when nothing arrives in time, and
`EndOfStream` when the session is closed. -/
abbrev ReceiveFailure := { r : Result // r ≠ .success }

/-- A session that takes every payload and hands out those that have arrived; after them `Receive`
answers `last`. -/
def inbox (last : ReceiveFailure) :
    Dialogue.Partner (List UInt8) Result ReceiveAnswer (List SessionPayload) where
  send _ payloads := (.success, payloads)
  receive
    | [] => (.failure last.1 last.2, [])
    | p :: payloads => (.payload p, payloads)

/-- What a call of `ReadPullTransferData` did: the size of the buffer, its result, the bytes it
copied, the context it left and the payloads that are still to be received. -/
structure ReadOutcome where
  bufferSize : ℕ
  result : Result
  copied : List UInt8
  context : ClientTransferContext
  payloads : List SessionPayload

/-- Calls of `ReadPullTransferData` with buffers of the sizes given, one after the other. -/
def TransferClient.readCalls (client : TransferClient) (last : ReceiveFailure) (rounds : ℕ) :
    List ℕ → ClientTransferContext → List SessionPayload → Option (List ReadOutcome)
  | [], _, _ => some []
  | bufferSize :: sizes, context, payloads => do
    let read ← (client.readPullTransferData rounds bufferSize context).run (inbox last) payloads
    let outcomes ← client.readCalls last rounds sizes read.1.2.1 read.2
    pure (⟨bufferSize, read.1.1, read.1.2.2, read.1.2.1, read.2⟩ :: outcomes)

/-- A link, whether the client's `Send` takes its next payloads, and the updates of the server
that come before each of the client's next steps.  Where the lists end, `Send` takes every payload
and no further update comes before a step. -/
structure PressuredLink where
  link : TransferLink
  sends : List Bool
  turns : List (List ServerTurn)

namespace PressuredLink

def advance (s : PressuredLink) : PressuredLink :=
  { s with link := s.link.serverTurns (s.turns.headD []), turns := s.turns.tail }

def awaitAnswer (s : PressuredLink) : PressuredLink :=
  match s.link.toClient with
  | [] => { s with link := s.link.serverTurn ⟨s.link.toServer.length, [.success]⟩ }
  | _ => s

/-- `Send` answers `NotReady` or takes a payload. -/
def sendPayload (m : List UInt8) (s : PressuredLink) : Result × PressuredLink :=
  match s.sends with
  | false :: sends => (.notReady, { s with sends := sends })
  | _ => (.success, { s with
      link := { s.link with toServer := s.link.toServer ++ [toSessionPayload m] }
      sends := s.sends.tail })

/-- `Receive` hands out the oldest payload. -/
def receivePayload (s : PressuredLink) : ReceiveAnswer × PressuredLink :=
  match s.link.toClient with
  | [] => (.notReady, s)
  | p :: ps => (.payload p, { s with link := { s.link with toClient := ps } })

end PressuredLink

def pressured : Dialogue.Partner (List UInt8) Result ReceiveAnswer PressuredLink where
  send m s := s.advance.sendPayload m
  receive s := s.advance.awaitAnswer.receivePayload

def TransferClient.writeCalls (client : TransferClient) (rounds : ℕ) :
    List (List UInt8) → ClientTransferContext →
      TransferDialogue (List (List UInt8 × Result) × ClientTransferContext)
  | [], context => pure ([], context)
  | srcBuffer :: srcBuffers, context => do
    let (result, context) ← client.writePushTransferData rounds srcBuffer context
    let (written, context) ← client.writeCalls rounds srcBuffers context
    pure ((srcBuffer, result) :: written, context)

/-- What the calls after a push request did: the writes with their results, the checksum of the
sentinel, and the result of `ClosePushTransfer`. -/
structure PushOutcome where
  written : List (List UInt8 × Result)
  crc32 : UInt32
  closed : Result

def TransferClient.pushCalls (client : TransferClient) (rounds : ℕ)
    (srcBuffers : List (List UInt8)) (context : ClientTransferContext) :
    TransferDialogue PushOutcome := do
  let (written, context) ← client.writeCalls rounds srcBuffers context
  let (closed, _) ← client.closePushTransfer false context
  pure ⟨written, context.crc32, closed⟩

inductive ClientCall where
  | requestPullTransfer (blockId : BlockId)
  | readPullTransferData (bufferSize : ℕ)
  | abortPullTransfer
  | requestPushTransfer (blockId : BlockId) (transferSizeInBytes : ℕ)
  | writePushTransferData (srcBuffer : List UInt8)
  | closePushTransfer (discard : Bool)

abbrev CallDialogue := TransferDialogue (Result × ClientTransferContext)

def TransferClient.call (client : TransferClient) (rounds : ℕ) (context : ClientTransferContext) :
    ClientCall → CallDialogue
  | .requestPullTransfer blockId => do
    let (result, context, _) ← client.requestPullTransfer blockId context
    pure (result, context)
  | .readPullTransferData bufferSize => do
    let (result, context, _) ← client.readPullTransferData rounds bufferSize context
    pure (result, context)
  | .abortPullTransfer => client.abortPullTransfer rounds context
  | .requestPushTransfer blockId transferSizeInBytes =>
    client.requestPushTransfer blockId transferSizeInBytes context
  | .writePushTransferData srcBuffer => client.writePushTransferData rounds srcBuffer context
  | .closePushTransfer discard => client.closePushTransfer discard context

/-- A client and its server: the link, the context of the client as its last finished call left
it, and the call in progress with what is left of it. -/
structure ConversationState where
  link : TransferLink
  context : ClientTransferContext
  calling : Option (ClientCall × CallDialogue)

/-- What happens: the client makes a call, a `Send` or `Receive` of the call in progress returns,
or the server is updated. -/
inductive ConversationAction where
  | call (c : ClientCall) (rounds : ℕ)
  | clientSend (accepted : Bool)
  | clientReceive (arrived : Bool)
  | serverTurn (turn : ServerTurn)

namespace ConversationState

def resume (c : ClientCall) (s : ConversationState) : CallDialogue → ConversationState
  | .done (_, context) => { s with context := context, calling := none }
  | d => { s with calling := some (c, d) }

def step (client : TransferClient) (s : ConversationState) :
    ConversationAction → Option ConversationState
  | .call c rounds =>
    match s.calling with
    | none => some (s.resume c (client.call rounds s.context c))
    | some _ => none
  | .clientSend accepted =>
    match s.calling with
    | some (c, .send m next) =>
      if accepted then
        some ({ s with link :=
          { s.link with toServer := s.link.toServer ++ [toSessionPayload m] } }.resume c
            (next .success))
      else some (s.resume c (next .notReady))
    | _ => none
  | .clientReceive arrived =>
    match s.calling, s.link.toClient with
    | some (c, .receive next), p :: toClient =>
      if arrived then
        some ({ s with link := { s.link with toClient := toClient } }.resume c
          (next (.payload p)))
      else some (s.resume c (next .notReady))
    | some (c, .receive next), [] =>
      if arrived then none else some (s.resume c (next .notReady))
    | _, _ => none
  | .serverTurn turn => some { s with link := s.link.serverTurn turn }

end ConversationState

/-- A client and the server of its session, from its establishment on. -/
def conversationMachine (client : TransferClient) (manager : TransferManager) :
    Machine ConversationState ConversationAction Unit where
  init s := s = ⟨⟨.new client.version, manager, [], []⟩, .zero, none⟩
  step s a := (s.step client a).map fun t => (t, ())

end DevDriver.Model
