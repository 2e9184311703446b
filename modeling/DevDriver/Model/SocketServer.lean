import DevDriver.Library.Machine
import DevDriver.Model.Session
import DevDriver.Model.Vectors

/-!
# The listen queue of a socket server

A `SocketServer` keeps the sessions that are established and not yet returned in a vector, and an
event that the threads in `AcceptConnection` wait for.
-/

namespace DevDriver.Model

open Library (Machine)

structure ListenQueue where
  maxPendingConnections : UInt32
  pendingConnections : List SessionRef
  hasPendingConnections : Bool
  deriving DecidableEq

namespace ListenQueue

def create (maxPending : UInt32) : ListenQueue where
  maxPendingConnections := maxPending
  pendingConnections := []
  hasPendingConnections := false

def acceptSession (q : ListenQueue) : Bool :=
  q.pendingConnections.length % 2 ^ 32 < q.maxPendingConnections.toNat

def sessionEstablished (pSession : SessionRef) (q : ListenQueue) : ListenQueue :=
  { q with
    pendingConnections := q.pendingConnections ++ [pSession]
    hasPendingConnections := true }

/-- The vector after the loop that looks for the session and removes it where it finds it first. -/
def removePending (pSession : SessionRef) (pending : List SessionRef) : List SessionRef :=
  match pending.findIdx? (fun connection => connection = pSession) with
  | some index => vectorRemove index pending
  | none => pending

def sessionTerminated (pSession : SessionRef) (q : ListenQueue) : ListenQueue :=
  let pending := removePending pSession q.pendingConnections
  { q with
    pendingConnections := pending
    hasPendingConnections := if pending.isEmpty then false else q.hasPendingConnections }

/-- What `AcceptConnection` does under the lock: the session that it returns, or nothing where the
result is `NotReady`.
socketServer.cpp:78-95 -/
def popFront (q : ListenQueue) : Option SessionRef × ListenQueue :=
  match q.pendingConnections with
  | connection :: rest => (some connection, { q with pendingConnections := rest })
  | [] => (none, q)

end ListenQueue

inductive AcceptPhase where
  | waiting
  | woken
  deriving DecidableEq

/-- A server, the sessions that were offered to it, those of them whose handshake may still
complete, and its threads. -/
structure ListeningServer where
  queue : ListenQueue
  offered : List SessionRef
  handshaking : List SessionRef
  accepting : ℕ → Option AcceptPhase

/-- What happens to a listening server. -/
inductive ListenAction where
  | acceptSession (pSession : SessionRef)
  | sessionEstablished (pSession : SessionRef)
  | sessionTerminated (pSession : SessionRef)
  | beginWait (thread : ℕ)
  | wake (thread : ℕ)
  | timeOut (thread : ℕ)
  | finish (thread : ℕ)
  deriving DecidableEq

inductive ListenEvent where
  | quiet
  | established (pSession : SessionRef)
  | removed (pSession : SessionRef)
  | returned (thread : ℕ) (pSession : SessionRef)
  | timedOut (thread : ℕ)
  | notReady (thread : ℕ)
  deriving DecidableEq

namespace ListeningServer

def create (maxPending : UInt32) : ListeningServer where
  queue := .create maxPending
  offered := []
  handshaking := []
  accepting := fun _ => none

def setPhase (s : ListeningServer) (thread : ℕ) (phase : Option AcceptPhase) : ListeningServer :=
  { s with accepting := Function.update s.accepting thread phase }

section SetPhase

variable (s : ListeningServer) (thread : ℕ) (phase : Option AcceptPhase)

@[simp] theorem setPhase_queue : (s.setPhase thread phase).queue = s.queue := rfl

@[simp] theorem setPhase_offered : (s.setPhase thread phase).offered = s.offered := rfl

@[simp] theorem setPhase_handshaking :
    (s.setPhase thread phase).handshaking = s.handshaking := rfl

@[simp] theorem setPhase_accepting :
    (s.setPhase thread phase).accepting = Function.update s.accepting thread phase := rfl

end SetPhase

/-- socketServer.cpp:22-98, sessionManager.cpp:381-411, ddcPosixPlatform.cpp:497-558 -/
def step (s : ListeningServer) : ListenAction → Option (ListeningServer × ListenEvent)
  | .acceptSession pSession =>
    -- each request makes a session of its own
    if pSession ∈ s.offered then none
    else
      let offered := { s with offered := pSession :: s.offered }
      if s.queue.acceptSession then
        some ({ offered with handshaking := pSession :: s.handshaking }, .quiet)
      else some (offered, .quiet)
  | .sessionEstablished pSession =>
    if pSession ∈ s.handshaking then
      some ({ s with
        queue := s.queue.sessionEstablished pSession
        handshaking := s.handshaking.erase pSession }, .established pSession)
    else none
  | .sessionTerminated pSession =>
    some ({ s with queue := s.queue.sessionTerminated pSession },
      if pSession ∈ s.queue.pendingConnections then .removed pSession else .quiet)
  | .beginWait thread =>
    match s.accepting thread with
    | none =>
      -- the wait looks at the event before it looks at the time
      let phase := if s.queue.hasPendingConnections then AcceptPhase.woken else .waiting
      some (s.setPhase thread (some phase), .quiet)
    | some _ => none
  | .wake thread =>
    if s.accepting thread = some .waiting ∧ s.queue.hasPendingConnections then
      some (s.setPhase thread (some .woken), .quiet)
    else none
  | .timeOut thread =>
    if s.accepting thread = some .waiting then
      some (s.setPhase thread none, .timedOut thread)
    else none
  | .finish thread =>
    if s.accepting thread = some .woken then
      some ({ s with queue := s.queue.popFront.2 }.setPhase thread none,
        s.queue.popFront.1.elim (.notReady thread) (.returned thread))
    else none

end ListeningServer

/-- A listening server and the threads that wait to accept. -/
def listenMachine (maxPending : UInt32) : Machine ListeningServer ListenAction ListenEvent where
  init s := s = .create maxPending
  step := ListeningServer.step

end DevDriver.Model
