import DevDriver.Model.EventServer

/-!
# An event session and the transfer sessions that push to it

A client changes providers in three requests of two protocols: its event session allocates a block,
a transfer session pushes the updates to the block, and the event session applies what the block
contains.
-/

namespace DevDriver.Model

open Library

/-- An event server and the transfer manager that holds its blocks. -/
structure EventTransfers where
  server : EventServer
  transfers : TransferState

inductive EventTransferAction where
  | updateEventSession (draws : List (Option BlockId)) (receives : List ReceiveAnswer)
      (sends : List Result)
  | transfer (a : TransferAction)

/-- The replies that the event session has made in a step, and the operations on blocks that a
transfer session has. -/
structure EventTransferOutput where
  replies : List (List UInt8)
  operations : List BlockEvent

namespace EventTransfers

def context (s : EventTransfers) (draws : List (Option BlockId)) (receives : List ReceiveAnswer)
    (sends : List Result) : EventCtx :=
  ⟨s.server, ⟨s.transfers.manager, draws, []⟩, receives, sends, []⟩

def updateBlock (pSession : EventSessionRef) (s : EventTransfers) : Option SharedServerBlock :=
  (s.server.sessions pSession).bind (·.pUpdateBlock)

def request (pSession : EventSessionRef) (s : EventTransfers) : Option SizedPayloadContainer :=
  (s.server.sessions pSession).bind fun session =>
    if session.state = .processPayload then some session.payloadContainer else none

def reply (pSession : EventSessionRef) (s : EventServer) : Option (List UInt8) :=
  (s.sessions pSession).bind fun session =>
    if session.state = .sendPayload then
      some (readBytes session.payloadContainer.payloadSize session.payloadContainer.payload)
    else none

/-- The owner of another block does something with that block only. -/
def Elsewhere (block : Option SharedServerBlock) : TransferAction → Prop
  | .ownerOperation pBlock _ => ∀ own ∈ block, own.resource ≠ pBlock
  | .closeServerBlock serverBlockId => ∀ own ∈ block, own.id ≠ serverBlockId
  | _ => True

instance (block : Option SharedServerBlock) : (a : TransferAction) → Decidable (Elsewhere block a)
  | .ownerOperation pBlock _ => inferInstanceAs (Decidable (∀ own ∈ block, own.resource ≠ pBlock))
  | .closeServerBlock serverBlockId =>
    inferInstanceAs (Decidable (∀ own ∈ block, own.id ≠ serverBlockId))
  | .openServerBlock _ | .sessionEstablished _ | .updateSession _ _ _
  | .sessionTerminated _ => .isTrue trivial

def step (pSession : EventSessionRef) (s : EventTransfers) :
    EventTransferAction → Option (EventTransfers × EventTransferOutput)
  | .updateEventSession draws receives sends =>
    let c := (s.context draws receives sends).updateEventSession pSession
    some (⟨c.server, { s.transfers with manager := c.blocks.manager }⟩,
      ⟨if (s.request pSession).isSome then (reply pSession c.server).toList else [], []⟩)
  | .transfer a =>
    if Elsewhere (s.updateBlock pSession) a then
      (s.transfers.step a).map fun (transfers, events) => (⟨s.server, transfers⟩, ⟨[], events⟩)
    else none

end EventTransfers

/-- An event session and the transfers of the blocks it hands out. -/
def eventTransferMachine (pSession : EventSessionRef) :
    Machine EventTransfers EventTransferAction EventTransferOutput where
  init s := (∃ id, s.server.sessions pSession = some (.new id)) ∧ s.transfers = ⟨.new, []⟩
  step s a := s.step pSession a

end DevDriver.Model
