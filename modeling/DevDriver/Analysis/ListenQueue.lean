import DevDriver.Model.SocketServer

/-!
# The listen queue in step with its event

No session is lost or returned twice in any run.  The queue keeps to its bound as long as no
handshake completes while it is full, since the bound is checked when the request comes.
-/

namespace DevDriver.Analysis

open Library Machine Model ListeningServer

variable {maxPending : UInt32} {s t : ListeningServer} {a : ListenAction} {o : ListenEvent}
  {tr : List (ListeningServer × ListenAction × ListenEvent)}

def establishedBy : ListenEvent → Option SessionRef
  | .established pSession => some pSession
  | _ => none

def returnedBy : ListenEvent → Option SessionRef
  | .returned _ pSession => some pSession
  | _ => none

def removedBy : ListenEvent → Option SessionRef
  | .removed pSession => some pSession
  | _ => none

def sessionsEstablished (tr : List (ListeningServer × ListenAction × ListenEvent)) :
    List SessionRef :=
  tr.filterMap fun x => establishedBy x.2.2

def sessionsReturned (tr : List (ListeningServer × ListenAction × ListenEvent)) :
    List SessionRef :=
  tr.filterMap fun x => returnedBy x.2.2

def sessionsRemoved (tr : List (ListeningServer × ListenAction × ListenEvent)) :
    List SessionRef :=
  tr.filterMap fun x => removedBy x.2.2

/-- Another operation emptied the queue after `thread` last entered `AcceptConnection`. -/
inductive EmptiedWhileWaiting (thread : ℕ) :
    List (ListeningServer × ListenAction × ListenEvent) → Prop where
  | emptied {tr : List (ListeningServer × ListenAction × ListenEvent)} {s t : ListeningServer}
      {a : ListenAction} {o : ListenEvent} (ha : a ≠ .finish thread)
      (hbefore : s.queue.pendingConnections ≠ []) (hstep : s.step a = some (t, o))
      (hafter : t.queue.pendingConnections = []) : EmptiedWhileWaiting thread (tr ++ [(s, a, o)])
  | later {tr : List (ListeningServer × ListenAction × ListenEvent)}
      {x : ListeningServer × ListenAction × ListenEvent} (h : EmptiedWhileWaiting thread tr)
      (hx : x.2.1 ≠ .beginWait thread) : EmptiedWhileWaiting thread (tr ++ [x])

/-- The queue and its event are as they should be after a run. -/
structure ListenQueueConsistent (maxPending : UInt32)
    (tr : List (ListeningServer × ListenAction × ListenEvent)) (t : ListeningServer) : Prop where
  once : (sessionsEstablished tr).Nodup
  accounted : (sessionsEstablished tr).Perm
    (sessionsReturned tr ++ sessionsRemoved tr ++ t.queue.pendingConnections)
  bounded : t.queue.pendingConnections.length ≤ maxPending.toNat
  signalled : t.queue.hasPendingConnections = true ↔ t.queue.pendingConnections ≠ []
  notReady : ∀ before x after thread, tr = before ++ x :: after → x.2.2 = .notReady thread →
    EmptiedWhileWaiting thread before

section Queue

variable {q : ListenQueue} {pSession : SessionRef} {pending : List SessionRef}

theorem removePending_perm (h : pSession ∈ pending) :
    pending.Perm (pSession :: ListenQueue.removePending pSession pending) := by
  unfold ListenQueue.removePending
  cases hfind : pending.findIdx? (fun connection => decide (connection = pSession)) with
  | none =>
    have hno := List.findIdx?_eq_none_iff.mp hfind pSession h
    simp at hno
  | some index =>
    obtain ⟨hindex, heq, -⟩ := List.findIdx?_eq_some_iff_getElem.mp hfind
    apply vectorRemove_perm
    rw [List.getElem?_eq_getElem hindex, of_decide_eq_true heq]

theorem removePending_of_not_mem (h : pSession ∉ pending) :
    ListenQueue.removePending pSession pending = pending := by
  have hfind : pending.findIdx? (fun connection => decide (connection = pSession)) = none := by
    apply List.findIdx?_eq_none_iff.mpr
    intro connection hmem
    apply decide_eq_false
    rintro rfl
    exact h hmem
  unfold ListenQueue.removePending
  rw [hfind]

theorem removePending_length_le (pSession : SessionRef) (pending : List SessionRef) :
    (ListenQueue.removePending pSession pending).length ≤ pending.length := by
  by_cases hmem : pSession ∈ pending
  · rw [(removePending_perm hmem).length_eq]
    exact Nat.le_succ _
  · rw [removePending_of_not_mem hmem]

@[simp] theorem sessionTerminated_pending :
    (q.sessionTerminated pSession).pendingConnections =
      ListenQueue.removePending pSession q.pendingConnections := rfl

@[simp] theorem sessionEstablished_pending :
    (q.sessionEstablished pSession).pendingConnections = q.pendingConnections ++ [pSession] := rfl

end Queue

/-- What each step of a listening server does. -/
inductive Listens (s : ListeningServer) : ListenAction → ListenEvent → ListeningServer → Prop where
  | accepted {pSession : SessionRef} (hnew : pSession ∉ s.offered) :
      Listens s (.acceptSession pSession) .quiet
        { s with
          offered := pSession :: s.offered
          handshaking := pSession :: s.handshaking }
  | rejected {pSession : SessionRef} (hnew : pSession ∉ s.offered) :
      Listens s (.acceptSession pSession) .quiet { s with offered := pSession :: s.offered }
  | established {pSession : SessionRef} (hmem : pSession ∈ s.handshaking) :
      Listens s (.sessionEstablished pSession) (.established pSession)
        { s with
          queue := s.queue.sessionEstablished pSession
          handshaking := s.handshaking.erase pSession }
  | removed {pSession : SessionRef} (hmem : pSession ∈ s.queue.pendingConnections) :
      Listens s (.sessionTerminated pSession) (.removed pSession)
        { s with queue := s.queue.sessionTerminated pSession }
  | terminated {pSession : SessionRef} (hmem : pSession ∉ s.queue.pendingConnections) :
      Listens s (.sessionTerminated pSession) .quiet
        { s with queue := s.queue.sessionTerminated pSession }
  | begins {thread : ℕ} :
      Listens s (.beginWait thread) .quiet (s.setPhase thread
        (some (if s.queue.hasPendingConnections then .woken else .waiting)))
  | wakes {thread : ℕ} (hset : s.queue.hasPendingConnections = true) :
      Listens s (.wake thread) .quiet (s.setPhase thread (some .woken))
  | timesOut {thread : ℕ} :
      Listens s (.timeOut thread) (.timedOut thread) (s.setPhase thread none)
  | returns {thread : ℕ} {pSession : SessionRef} {rest : List SessionRef}
      (hpending : s.queue.pendingConnections = pSession :: rest) :
      Listens s (.finish thread) (.returned thread pSession)
        ({ s with queue := { s.queue with pendingConnections := rest } }.setPhase thread none)
  | notReady {thread : ℕ} (hwoken : s.accepting thread = some .woken)
      (hpending : s.queue.pendingConnections = []) :
      Listens s (.finish thread) (.notReady thread) (s.setPhase thread none)

theorem listens_of_step (h : s.step a = some (t, o)) : Listens s a o t := by
  cases a with
  | acceptSession pSession =>
    obtain ⟨hnew, h⟩ := Option.ite_none_left_eq_some.mp h
    split at h
    · cases h
      exact .accepted hnew
    · cases h
      exact .rejected hnew
  | sessionEstablished pSession =>
    obtain ⟨hmem, ⟨⟩⟩ := Option.ite_none_right_eq_some.mp h
    exact .established hmem
  | sessionTerminated pSession =>
    cases h
    split
    · rename_i hmem
      exact .removed hmem
    · rename_i hmem
      exact .terminated hmem
  | beginWait thread =>
    simp only [ListeningServer.step] at h
    split at h
    · cases h
      exact .begins
    · cases h
  | wake thread =>
    obtain ⟨hwaiting, ⟨⟩⟩ := Option.ite_none_right_eq_some.mp h
    exact .wakes hwaiting.2
  | timeOut thread =>
    obtain ⟨-, ⟨⟩⟩ := Option.ite_none_right_eq_some.mp h
    exact .timesOut
  | finish thread =>
    obtain ⟨hwoken, ⟨⟩⟩ := Option.ite_none_right_eq_some.mp h
    cases hpending : s.queue.pendingConnections with
    | nil =>
      simp only [ListenQueue.popFront, hpending, Option.elim_none]
      exact .notReady hwoken hpending
    | cons pSession rest =>
      simp only [ListenQueue.popFront, hpending, Option.elim_some]
      exact .returns hpending

/-! ## No session is lost -/

/-- Where each session that was established is now. -/
structure Accounts (tr : List (ListeningServer × ListenAction × ListenEvent))
    (t : ListeningServer) : Prop where
  offered : ∀ pSession ∈ sessionsEstablished tr ++ t.handshaking, pSession ∈ t.offered
  once : (sessionsEstablished tr ++ t.handshaking).Nodup
  accounted : (sessionsEstablished tr).Perm
    (sessionsReturned tr ++ sessionsRemoved tr ++ t.queue.pendingConnections)

@[simp] theorem sessionsEstablished_concat :
    sessionsEstablished (tr ++ [(s, a, o)]) =
      sessionsEstablished tr ++ (establishedBy o).toList := by
  cases h : establishedBy o <;> simp [sessionsEstablished, h]

@[simp] theorem sessionsReturned_concat :
    sessionsReturned (tr ++ [(s, a, o)]) = sessionsReturned tr ++ (returnedBy o).toList := by
  cases h : returnedBy o <;> simp [sessionsReturned, h]

@[simp] theorem sessionsRemoved_concat :
    sessionsRemoved (tr ++ [(s, a, o)]) = sessionsRemoved tr ++ (removedBy o).toList := by
  cases h : removedBy o <;> simp [sessionsRemoved, h]

theorem Accounts.quiet (h : Accounts tr s) (hoffered : t.offered = s.offered)
    (hhandshaking : t.handshaking = s.handshaking)
    (hpending : t.queue.pendingConnections = s.queue.pendingConnections)
    (hestablished : establishedBy o = none) (hreturned : returnedBy o = none)
    (hremoved : removedBy o = none) : Accounts (tr ++ [(s, a, o)]) t where
  offered := by
    rw [sessionsEstablished_concat, hestablished, hhandshaking, hoffered]
    simpa using h.offered
  once := by
    rw [sessionsEstablished_concat, hestablished, hhandshaking]
    simpa using h.once
  accounted := by
    rw [sessionsEstablished_concat, sessionsReturned_concat, sessionsRemoved_concat,
      hestablished, hreturned, hremoved, hpending]
    simpa using h.accounted

/-- Every session is queued, handed out or refused once. -/
theorem Accounts.step (h : Accounts tr s) (hstep : Listens s a o t) :
    Accounts (tr ++ [(s, a, o)]) t := by
  cases hstep with
  | @accepted pSession hnew =>
    have hfresh : pSession ∉ sessionsEstablished tr ++ s.handshaking :=
      fun hmem => hnew (h.offered pSession hmem)
    refine ⟨?_, ?_, by simpa [establishedBy, returnedBy, removedBy] using h.accounted⟩
    · intro other hmem
      have hcases : other = pSession ∨ other ∈ sessionsEstablished tr ++ s.handshaking := by
        simp [establishedBy] at hmem ⊢
        tauto
      exact List.mem_cons.mpr (hcases.imp_right (h.offered other))
    · simp only [sessionsEstablished_concat, establishedBy, Option.toList_none, List.append_nil]
      exact List.nodup_middle.mpr (List.nodup_cons.mpr ⟨hfresh, h.once⟩)
  | @rejected pSession hnew =>
    refine ⟨?_, by simpa [establishedBy] using h.once,
      by simpa [establishedBy, returnedBy, removedBy] using h.accounted⟩
    intro other hmem
    simp only [sessionsEstablished_concat, establishedBy, Option.toList_none,
      List.append_nil] at hmem
    exact List.mem_cons_of_mem _ (h.offered other hmem)
  | @established pSession hmem =>
    have hmoved : (sessionsEstablished tr ++ [pSession] ++ s.handshaking.erase pSession).Perm
        (sessionsEstablished tr ++ s.handshaking) := by
      rw [List.append_assoc, List.singleton_append]
      exact (List.perm_cons_erase hmem).symm.append_left _
    refine ⟨?_, ?_, ?_⟩
    · intro other hother
      simp only [sessionsEstablished_concat, establishedBy, Option.toList_some] at hother
      exact h.offered other (hmoved.mem_iff.mp hother)
    · simp only [sessionsEstablished_concat, establishedBy, Option.toList_some]
      exact hmoved.nodup_iff.mpr h.once
    · simp only [sessionsEstablished_concat, establishedBy, sessionsReturned_concat, returnedBy,
        sessionsRemoved_concat, removedBy, Option.toList_some, Option.toList_none,
        List.append_nil, sessionEstablished_pending]
      rw [← List.append_assoc]
      exact h.accounted.append_right _
  | @removed pSession hmem =>
    refine ⟨by simpa [establishedBy] using h.offered, by simpa [establishedBy] using h.once, ?_⟩
    simp only [sessionsEstablished_concat, establishedBy, sessionsReturned_concat, returnedBy,
      sessionsRemoved_concat, removedBy, Option.toList_some, Option.toList_none,
      List.append_nil, sessionTerminated_pending]
    apply h.accounted.trans
    simp only [List.append_assoc, List.singleton_append]
    exact ((removePending_perm hmem).append_left _).append_left _
  | terminated hmem =>
    exact h.quiet rfl rfl (removePending_of_not_mem hmem) rfl rfl rfl
  | begins => exact h.quiet rfl rfl rfl rfl rfl rfl
  | wakes => exact h.quiet rfl rfl rfl rfl rfl rfl
  | timesOut => exact h.quiet rfl rfl rfl rfl rfl rfl
  | @returns thread pSession rest hpending =>
    refine ⟨by simpa [establishedBy] using h.offered, by simpa [establishedBy] using h.once, ?_⟩
    have haccounted := h.accounted
    rw [hpending] at haccounted
    simp only [sessionsEstablished_concat, establishedBy, sessionsReturned_concat, returnedBy,
      sessionsRemoved_concat, removedBy, Option.toList_some, Option.toList_none,
      List.append_nil]
    apply haccounted.trans
    simp only [List.append_assoc, List.singleton_append]
    exact (List.perm_middle).append_left _
  | notReady => exact h.quiet rfl rfl rfl rfl rfl rfl

theorem accounts_of_run (hrun : (listenMachine maxPending).Trace (.create maxPending) tr t) :
    Accounts tr t := by
  induction hrun with
  | nil => exact ⟨nofun, .nil, .nil⟩
  | snoc _ hstep ih => exact ih.step (listens_of_step hstep)

/-! ## The event and the bound -/

/-- The step does not add to a full queue, and does not take the only session out of it. -/
def StaysInStep (maxPending : UInt32) (s : ListeningServer) : ListenAction → Prop
  | .sessionEstablished _ => s.queue.pendingConnections.length < maxPending.toNat
  | .finish _ => s.queue.pendingConnections.length ≠ 1
  | _ => True

instance (maxPending : UInt32) (s : ListeningServer) :
    (a : ListenAction) → Decidable (StaysInStep maxPending s a)
  | .sessionEstablished _ => inferInstanceAs (Decidable (_ < _))
  | .finish _ => inferInstanceAs (Decidable (_ ≠ _))
  | .acceptSession _ | .sessionTerminated _ | .beginWait _ | .wake _ | .timeOut _ =>
    inferInstanceAs (Decidable True)

structure QueueInStep (maxPending : UInt32) (q : ListenQueue) : Prop where
  bounded : q.pendingConnections.length ≤ maxPending.toNat
  signalled : q.hasPendingConnections = true ↔ q.pendingConnections ≠ []

theorem QueueInStep.sessionTerminated {q : ListenQueue} (h : QueueInStep maxPending q)
    (pSession : SessionRef) : QueueInStep maxPending (q.sessionTerminated pSession) where
  bounded := by
    have hlength := removePending_length_le pSession q.pendingConnections
    exact hlength.trans h.bounded
  signalled := by
    have hlength := removePending_length_le pSession q.pendingConnections
    have hsignalled := h.signalled
    simp only [ListenQueue.sessionTerminated]
    split
    case isTrue hempty => simpa using hempty
    case isFalse hempty =>
      have hleft : ListenQueue.removePending pSession q.pendingConnections ≠ [] := by
        simpa using hempty
      have hbefore : q.pendingConnections ≠ [] := by
        intro hnil
        rw [hnil] at hlength hleft
        exact hleft (List.length_eq_zero_iff.mp (Nat.le_zero.mp hlength))
      exact iff_of_true (hsignalled.mpr hbefore) hleft

theorem QueueInStep.step (h : QueueInStep maxPending s.queue) (hcond : StaysInStep maxPending s a)
    (hstep : Listens s a o t) : QueueInStep maxPending t.queue := by
  cases hstep with
  | established =>
    have hroom : s.queue.pendingConnections.length < maxPending.toNat := hcond
    constructor
    · simpa using Nat.succ_le_of_lt hroom
    · simp [ListenQueue.sessionEstablished]
  | removed => exact h.sessionTerminated _
  | terminated => exact h.sessionTerminated _
  | @returns thread pSession rest hpending =>
    have hmany : s.queue.pendingConnections.length ≠ 1 := hcond
    have hbounded := h.bounded
    have hset : s.queue.hasPendingConnections = true := h.signalled.mpr (by simp [hpending])
    rw [hpending, List.length_cons] at hmany hbounded
    have hrest : rest ≠ [] := by
      rintro rfl
      exact hmany rfl
    exact ⟨Nat.le_of_succ_le hbounded, iff_of_true hset hrest⟩
  | accepted => exact h
  | rejected => exact h
  | begins => exact h
  | wakes => exact h
  | timesOut => exact h
  | notReady => exact h

def WokenByQueue (tr : List (ListeningServer × ListenAction × ListenEvent))
    (t : ListeningServer) : Prop :=
  ∀ thread, t.accepting thread = some .woken → t.queue.pendingConnections = [] →
    EmptiedWhileWaiting thread tr

theorem EmptiedWhileWaiting.step {thread : ℕ} (hwoken : WokenByQueue tr s)
    (hbefore : s.accepting thread = some .woken) (hbegin : a ≠ .beginWait thread)
    (hfinish : a ≠ .finish thread) (hstep : s.step a = some (t, o))
    (hafter : t.queue.pendingConnections = []) :
    EmptiedWhileWaiting thread (tr ++ [(s, a, o)]) := by
  by_cases hempty : s.queue.pendingConnections = []
  · exact (hwoken thread hbefore hempty).later hbegin
  · exact .emptied hfinish hempty hstep hafter

theorem accepting_of_leaves {accepting : ℕ → Option AcceptPhase} {thread other : ℕ}
    {phase : AcceptPhase} (h : Function.update accepting other none thread = some phase) :
    thread ≠ other ∧ accepting thread = some phase := by
  have hother : thread ≠ other := by
    rintro rfl
    simp at h
  rw [Function.update_of_ne hother] at h
  exact ⟨hother, h⟩

theorem WokenByQueue.step (h : WokenByQueue tr s)
    (hsignalled : s.queue.hasPendingConnections = true ↔ s.queue.pendingConnections ≠ [])
    (hstep : s.step a = some (t, o)) : WokenByQueue (tr ++ [(s, a, o)]) t := by
  intro thread hthread hafter
  cases listens_of_step hstep with
  | accepted => exact .step h hthread nofun nofun hstep hafter
  | rejected => exact .step h hthread nofun nofun hstep hafter
  | established => exact .step h hthread nofun nofun hstep hafter
  | removed => exact .step h hthread nofun nofun hstep hafter
  | terminated => exact .step h hthread nofun nofun hstep hafter
  | @begins other =>
    by_cases hother : thread = other
    · subst hother
      have hset : s.queue.hasPendingConnections = true := by simpa using hthread
      exact absurd hafter (hsignalled.mp hset)
    · rw [setPhase_accepting, Function.update_of_ne hother] at hthread
      exact .step h hthread (by simpa using Ne.symm hother) nofun hstep hafter
  | @wakes other hset => exact absurd hafter (hsignalled.mp hset)
  | @timesOut other =>
    obtain ⟨hother, hbefore⟩ := accepting_of_leaves hthread
    exact .step h hbefore nofun nofun hstep hafter
  | @returns other pSession rest hpending =>
    obtain ⟨hother, hbefore⟩ := accepting_of_leaves hthread
    exact .step h hbefore nofun (by simpa using hother.symm) hstep hafter
  | @notReady other hwoken hpending =>
    obtain ⟨hother, hbefore⟩ := accepting_of_leaves hthread
    exact .step h hbefore nofun (by simpa using hother.symm) hstep hafter

theorem queueInStep_of_run (hrun : (listenMachine maxPending).Trace (.create maxPending) tr t)
    (hcond : ∀ x ∈ tr, StaysInStep maxPending x.1 x.2.1) :
    QueueInStep maxPending t.queue ∧ WokenByQueue tr t := by
  induction hrun with
  | nil => exact ⟨⟨Nat.zero_le _, iff_of_false nofun nofun⟩, nofun⟩
  | @snoc t u tr a o hbefore hstep ih =>
    obtain ⟨hqueue, hwoken⟩ := ih fun x hx => hcond x (List.mem_append_left _ hx)
    have hlast := hcond (t, a, o) (List.mem_append_right _ (List.mem_singleton_self _))
    exact ⟨hqueue.step hlast (listens_of_step hstep), hwoken.step hqueue.signalled hstep⟩

/-- In every run in which no handshake completes while the queue is full and no `AcceptConnection`
takes the only session in it, the queue and its event are as they should be after each step. -/
theorem listen_queue_of_run (maxPending : UInt32) (t : ListeningServer)
    (tr : List (ListeningServer × ListenAction × ListenEvent))
    (hrun : (listenMachine maxPending).Trace (.create maxPending) tr t)
    (hcond : ∀ x ∈ tr, StaysInStep maxPending x.1 x.2.1) :
    ListenQueueConsistent maxPending tr t := by
  obtain ⟨hqueue, -⟩ := queueInStep_of_run hrun hcond
  have haccounts := accounts_of_run hrun
  refine ⟨haccounts.once.of_append_left, haccounts.accounted, hqueue.bounded,
    hqueue.signalled, ?_⟩
  intro before x after thread htr hx
  subst htr
  obtain ⟨hbefore, u, hstep, -⟩ := hrun.split
  obtain ⟨-, hwoken⟩ := queueInStep_of_run hbefore fun y hy => hcond y (List.mem_append_left _ hy)
  obtain ⟨s, a, o⟩ := x
  subst hx
  cases listens_of_step hstep with
  | notReady hthread hpending => exact hwoken thread hthread hpending

theorem listen_queue_of_run_returned :
    ∃ (tr : List (ListeningServer × ListenAction × ListenEvent)) (t : ListeningServer),
      (t.queue.pendingConnections = [2] ∧ sessionsReturned tr = [1]) ∧
      ListenQueueConsistent 2 tr t := by
  obtain ⟨t, ht, hpending⟩ :=
    (listenMachine 2).exists_of_run (.create 2)
      [.acceptSession 1, .beginWait 0, .acceptSession 2, .sessionEstablished 1, .wake 0,
        .sessionEstablished 2, .finish 0]
      (fun t => t.queue.pendingConnections = [2]) (by decide +kernel)
  exact ⟨_, t, ⟨hpending, by decide +kernel⟩,
    listen_queue_of_run 2 t _ (.of_run ht) (by decide +kernel)⟩

/-- An `AcceptConnection` that takes the only session leaves the event set. -/
theorem listen_queue_of_run_not : ¬ ∀ (maxPending : UInt32) (t : ListeningServer)
    (tr : List (ListeningServer × ListenAction × ListenEvent)),
    (listenMachine maxPending).Trace (.create maxPending) tr t →
      ListenQueueConsistent maxPending tr t := by
  intro hall
  obtain ⟨t, ht, hqueue⟩ :=
    (listenMachine 1).exists_of_run (.create 1)
      [.acceptSession 1, .sessionEstablished 1, .beginWait 0, .finish 0]
      (fun t => t.queue = ⟨1, [], true⟩) (by decide +kernel)
  have hsignalled := (hall 1 t _ (.of_run ht)).signalled
  rw [hqueue] at hsignalled
  exact hsignalled.mp rfl rfl

/-- Two requests that come before the first handshake completes overfill a queue of one. -/
example : ((listenMachine 1).run (.create 1)
    [.acceptSession 1, .acceptSession 2, .sessionEstablished 1, .sessionEstablished 2]).map
      (·.queue.pendingConnections) = some [1, 2] := by
  decide +kernel

end DevDriver.Analysis
