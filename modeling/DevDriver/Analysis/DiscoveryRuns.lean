import DevDriver.Model.ClientDiscovery

/-!
# Runs of client discovery

The runs in which a call of `DiscoverClients` is only made while no other one runs.
-/

namespace DevDriver.Analysis

open Library
open Model

variable {ι : Type} [DecidableEq ι]

abbrev DiscoveryTransition (ι : Type) :=
  ClientDiscovery ι × DiscoveryAction ι × DiscoveryEvent ι

def BeganIn (tr : List (DiscoveryTransition ι)) (call : ι) (filter : ClientMetadata) : Prop :=
  ∃ x ∈ tr, x.2.1 = .begin call filter

/-- A Pong with a client arrived after a call with a filter that it matches was made. -/
def ArrivedDuring (tr : List (DiscoveryTransition ι)) (call : ι) (filter : ClientMetadata)
    (clientInfo : DiscoveredClientInfo) : Prop :=
  ∃ before x during, tr = before ++ x :: during ∧ x.2.1 = .begin call filter ∧
    ∃ y ∈ during, ∃ m pushBack, y.2.1 = .receive m pushBack ∧
      SystemMessage.ofCode m.header.messageId = .pong ∧ clientInfo = discoveredClient m ∧
      filter.Matches clientInfo.metadata

def EventExact (d : ClientDiscovery ι) : Prop := d.hasDataEvent = true ↔ d.queue.clients ≠ []

/-- What discovery promises about a run. -/
structure DiscoversExactly (tr : List (DiscoveryTransition ι)) (t : ClientDiscovery ι) :
    Prop where
  once : ∀ before x after, tr = before ++ x :: after → ∀ call clientInfo,
    x.2.2 = .callback call clientInfo → ∀ y ∈ before, ∀ earlier,
      y.2.2 = .callback call earlier → earlier.id ≠ clientInfo.id
  arrived : ∀ before x after, tr = before ++ x :: after → ∀ call clientInfo,
    x.2.2 = .callback call clientInfo → ∃ filter, ArrivedDuring before call filter clientInfo
  event : (∀ x ∈ tr, EventExact x.1) ∧ EventExact t
  asserted : ∀ x ∈ tr, ∀ call, x.2.2 ≠ .assertionFailed call
  fresh : ∀ x ∈ tr, ∀ call filter, x.2.1 = .begin call filter → x.1.queue.clients = []

def Running (c : DiscoverCall) : Prop := ∀ result, c.phase ≠ .returned result

/-- A call begins only where no other call is running. -/
def BeginsAlone (d : ClientDiscovery ι) (a : DiscoveryAction ι) : Prop :=
  ∀ call filter, a = .begin call filter → ∀ other c, d.calls other = some c → ¬ Running c

/-! ## The invariant -/

structure RunningInv (tr : List (DiscoveryTransition ι)) (queue : DiscoveredClientsQueue) (call : ι)
    (c : DiscoverCall) : Prop where
  active : queue.active = true
  filter : queue.filter = c.filter
  pending : ∀ clientInfo ∈ queue.clients, ArrivedDuring tr call c.filter clientInfo
  retrieved : ∀ clientInfo, c.phase = .retrieved clientInfo →
    ArrivedDuring tr call c.filter clientInfo
  signaled : c.phase = .signaled → queue.clients ≠ []

/-- What holds between the parts of the calls. -/
structure DiscoveryInv (tr : List (DiscoveryTransition ι)) (d : ClientDiscovery ι) : Prop where
  event : EventExact d
  idle : d.queue.active = false → d.queue.clients = []
  active : d.queue.active = true → ∃ call c, d.calls call = some c ∧ Running c
  single : ∀ i j c e, d.calls i = some c → Running c → d.calls j = some e → Running e → i = j
  began : ∀ i c, d.calls i = some c → BeganIn tr i c.filter
  running : ∀ i c, d.calls i = some c → Running c → RunningInv tr d.queue i c
  reported : ∀ x ∈ tr, ∀ i clientInfo, x.2.2 = .callback i clientInfo →
    ∃ c, d.calls i = some c ∧ clientInfo.id ∈ c.clientHashSet

section Invariant

variable {tr : List (DiscoveryTransition ι)} {d : ClientDiscovery ι} {x : DiscoveryTransition ι}
  {call : ι} {c : DiscoverCall}

variable {filter : ClientMetadata}

omit [DecidableEq ι] in
theorem BeganIn.snoc (h : BeganIn tr call filter) : BeganIn (tr ++ [x]) call filter :=
  let ⟨y, hy, hbegin⟩ := h
  ⟨y, List.mem_append_left _ hy, hbegin⟩

omit [DecidableEq ι] in
theorem ArrivedDuring.snoc {clientInfo : DiscoveredClientInfo}
    (h : ArrivedDuring tr call filter clientInfo) :
    ArrivedDuring (tr ++ [x]) call filter clientInfo := by
  obtain ⟨before, b, during, rfl, hbegin, y, hy, hrest⟩ := h
  exact ⟨before, b, during ++ [x], by simp, hbegin, y, List.mem_append_left _ hy, hrest⟩

omit [DecidableEq ι] in
theorem BeganIn.arrivedDuring {m : MessageBuffer} {pushBack : Bool} (h : BeganIn tr call filter)
    (hx : x.2.1 = .receive m pushBack) (hpong : SystemMessage.ofCode m.header.messageId = .pong)
    (hmatches : filter.Matches (.ofSequence m.header.sequence)) :
    ArrivedDuring (tr ++ [x]) call filter (discoveredClient m) := by
  obtain ⟨b, hb, hbegin⟩ := h
  obtain ⟨before, during, rfl⟩ := List.append_of_mem hb
  exact ⟨before, b, during ++ [x], by simp, hbegin, x, by simp, m, pushBack, hx, hpong, rfl,
    hmatches⟩

omit [DecidableEq ι] in
theorem RunningInv.snoc {queue : DiscoveredClientsQueue} (h : RunningInv tr queue call c) :
    RunningInv (tr ++ [x]) queue call c :=
  { active := h.active
    filter := h.filter
    pending := fun clientInfo hmem => (h.pending clientInfo hmem).snoc
    retrieved := fun clientInfo hphase => (h.retrieved clientInfo hphase).snoc
    signaled := h.signaled }

variable {c' : DiscoverCall}

theorem update_eq_some {f : ι → Option DiscoverCall} {e : DiscoverCall} {i : ι}
    (h : Function.update f call (some c') i = some e) :
    (i = call ∧ e = c') ∨ (i ≠ call ∧ f i = some e) := by
  by_cases hi : i = call
  · subst hi
    rw [Function.update_self] at h
    exact .inl ⟨rfl, (Option.some.inj h).symm⟩
  · rw [Function.update_of_ne hi] at h
    exact .inr ⟨hi, h⟩

theorem DiscoveryInv.setCall (h : DiscoveryInv tr d) (hcall : d.calls call = some c)
    (hrunning : Running c) {queue : DiscoveredClientsQueue} {hasDataEvent : Bool}
    (hfilter : c'.filter = c.filter) (hseen : ∀ id ∈ c.clientHashSet, id ∈ c'.clientHashSet)
    (hevent : hasDataEvent = true ↔ queue.clients ≠ [])
    (hidle : queue.active = false → queue.clients = []) (hactive : queue.active = true → Running c')
    (hnow : Running c' → RunningInv (tr ++ [x]) queue call c')
    (hreport : ∀ i clientInfo, x.2.2 = .callback i clientInfo →
      i = call ∧ clientInfo.id ∈ c'.clientHashSet) :
    DiscoveryInv (tr ++ [x])
      (ClientDiscovery.setCall ⟨queue, hasDataEvent, d.calls⟩ call c') := by
  have hothers : ∀ i e, i ≠ call → d.calls i = some e → ¬ Running e := fun i e hne he hrun =>
    hne (h.single i call e c he hrun hcall hrunning)
  refine
    { event := hevent
      idle := hidle
      active := fun hact => ⟨call, c', Function.update_self .., hactive hact⟩
      single := fun i j e e' hi hrun hj hrun' => ?_
      began := fun i e he => ?_
      running := fun i e he hrun => ?_
      reported := fun y hy i clientInfo hcb => ?_ }
  · rcases update_eq_some hi with ⟨rfl, -⟩ | ⟨hne, he⟩
    · rcases update_eq_some hj with ⟨rfl, -⟩ | ⟨hne, he⟩
      · rfl
      · exact absurd hrun' (hothers j e' hne he)
    · exact absurd hrun (hothers i e hne he)
  · rcases update_eq_some he with ⟨rfl, rfl⟩ | ⟨-, he⟩
    · rw [hfilter]
      exact (h.began i c hcall).snoc
    · exact (h.began i e he).snoc
  · rcases update_eq_some he with ⟨rfl, rfl⟩ | ⟨hne, he⟩
    · exact hnow hrun
    · exact absurd hrun (hothers i e hne he)
  · rcases List.mem_append.mp hy with hy | hy
    · obtain ⟨e, he, hmem⟩ := h.reported y hy i clientInfo hcb
      by_cases hi : i = call
      · subst hi
        obtain rfl := Option.some.inj (hcall.symm.trans he)
        exact ⟨c', Function.update_self .., hseen _ hmem⟩
      · exact ⟨e, by rw [← he]; exact Function.update_of_ne hi .., hmem⟩
    · obtain rfl := List.mem_singleton.mp hy
      obtain ⟨rfl, hmem⟩ := hreport i clientInfo hcb
      exact ⟨c', Function.update_self .., hmem⟩

omit [DecidableEq ι] in
theorem DiscoveryInv.snoc (h : DiscoveryInv tr d)
    (hquiet : ∀ i clientInfo, x.2.2 ≠ .callback i clientInfo) : DiscoveryInv (tr ++ [x]) d :=
  { event := h.event
    idle := h.idle
    active := h.active
    single := h.single
    began := fun i c hc => (h.began i c hc).snoc
    running := fun i c hc hrun => (h.running i c hc hrun).snoc
    reported := fun y hy i clientInfo hcb => by
      rcases List.mem_append.mp hy with hy | hy
      · exact h.reported y hy i clientInfo hcb
      · obtain rfl := List.mem_singleton.mp hy
        exact absurd hcb (hquiet i clientInfo) }

/-! ## Steps -/

omit [DecidableEq ι] in
theorem DiscoveryInv.receive (h : DiscoveryInv tr d) (m : MessageBuffer) (pushBack : Bool)
    (hx : x.2 = (.receive m pushBack, .nothing)) :
    DiscoveryInv (tr ++ [x]) (d.receive m pushBack) := by
  have hquiet : ∀ i clientInfo, x.2.2 ≠ .callback i clientInfo := by simp [hx]
  have hsnoc := h.snoc hquiet
  rw [ClientDiscovery.receive]
  split
  case isFalse => exact hsnoc
  case isTrue hpong =>
    split
    case isFalse => exact hsnoc
    case isTrue hpush =>
      obtain ⟨hactive, hmatches, -⟩ := hpush
      refine { hsnoc with event := ?_, idle := ?_, running := fun i c hc hrun => ?_ }
      · simp [EventExact]
      · intro hinactive
        exact absurd (hactive.symm.trans hinactive) (by simp)
      · have hold := hsnoc.running i c hc hrun
        refine
          { active := hold.active
            filter := hold.filter
            pending := fun clientInfo hmem => ?_
            retrieved := hold.retrieved
            signaled := fun _ => by simp }
        rcases List.mem_append.mp hmem with hmem | hmem
        · exact hold.pending clientInfo hmem
        · obtain rfl := List.mem_singleton.mp hmem
          rw [hold.filter] at hmatches
          exact (h.began i c hc).arrivedDuring (by rw [hx]) hpong hmatches

theorem DiscoveryInv.begin (h : DiscoveryInv tr d) (hnone : d.calls call = none)
    (halone : ∀ other c, d.calls other = some c → ¬ Running c)
    (hx : x.2 = (.begin call filter, .nothing)) :
    d.queue.clients = [] ∧ DiscoveryInv (tr ++ [x]) (d.begin call filter) := by
  have hinactive : d.queue.active = false := by
    by_contra hactive
    obtain ⟨i, c, hc, hrun⟩ := h.active (by simpa using hactive)
    exact halone i c hc hrun
  have hempty := h.idle hinactive
  have hcleared : d.hasDataEvent = false := by
    by_contra hset
    exact h.event.mp (by simpa using hset) hempty
  have hrunning : Running ⟨filter, [], .waiting⟩ := fun result hphase => by cases hphase
  refine ⟨hempty,
    { event := ?_
      idle := fun hfalse => absurd hfalse (by simp [ClientDiscovery.begin, ClientDiscovery.setCall])
      active := fun _ => ⟨call, ⟨filter, [], .waiting⟩, Function.update_self .., hrunning⟩
      single := fun i j c e hi hrun hj hrun' => ?_
      began := fun i c hc => ?_
      running := fun i c hc hrun => ?_
      reported := fun y hy i clientInfo hcb => ?_ }⟩
  · exact ⟨fun hset => absurd (hcleared.symm.trans hset) (by simp), fun hne => absurd hempty hne⟩
  · rcases update_eq_some hi with ⟨rfl, -⟩ | ⟨-, hc⟩
    · rcases update_eq_some hj with ⟨rfl, -⟩ | ⟨-, he⟩
      · rfl
      · exact absurd hrun' (halone j e he)
    · exact absurd hrun (halone i c hc)
  · rcases update_eq_some hc with ⟨rfl, rfl⟩ | ⟨-, hc⟩
    · exact ⟨x, by simp, by rw [hx]⟩
    · exact (h.began i c hc).snoc
  · rcases update_eq_some hc with ⟨rfl, rfl⟩ | ⟨-, hc⟩
    · exact
        { active := rfl
          filter := rfl
          pending := fun clientInfo hmem => by
            have hnil : clientInfo ∈ d.queue.clients := hmem
            rw [hempty] at hnil
            cases hnil
          retrieved := fun _ hphase => by cases hphase
          signaled := fun hphase => by cases hphase }
    · exact absurd hrun (halone i c hc)
  · rcases List.mem_append.mp hy with hy | hy
    · obtain ⟨e, he, hmem⟩ := h.reported y hy i clientInfo hcb
      have hne : i ≠ call := fun hi => by rw [hi, hnone] at he; cases he
      exact ⟨e, by rw [← he]; exact Function.update_of_ne hne .., hmem⟩
    · obtain rfl := List.mem_singleton.mp hy
      rw [hx] at hcb
      cases hcb

theorem DiscoveryInv.move (h : DiscoveryInv tr d) (hcall : d.calls call = some c)
    (hrunning : Running c) (hfilter : c'.filter = c.filter)
    (hseen : ∀ id ∈ c.clientHashSet, id ∈ c'.clientHashSet) (hrunning' : Running c')
    (hphase : ∀ clientInfo, c'.phase ≠ .retrieved clientInfo)
    (hsignaled : c'.phase = .signaled → d.queue.clients ≠ [])
    (hreport : ∀ i clientInfo, x.2.2 = .callback i clientInfo →
      i = call ∧ clientInfo.id ∈ c'.clientHashSet) :
    DiscoveryInv (tr ++ [x]) (d.setCall call c') := by
  have hold := (h.running call c hcall hrunning).snoc (x := x)
  refine h.setCall hcall hrunning hfilter hseen h.event h.idle (fun _ => hrunning') (fun _ => ?_)
    hreport
  exact
    { active := hold.active
      filter := hold.filter.trans hfilter.symm
      pending := fun clientInfo hmem => hfilter ▸ hold.pending clientInfo hmem
      retrieved := fun clientInfo hretrieved => absurd hretrieved (hphase clientInfo)
      signaled := hsignaled }

theorem DiscoveryInv.retrieve (h : DiscoveryInv tr d) (hcall : d.calls call = some c)
    (hphase : c.phase = .signaled)
    (hquiet : ∀ i clientInfo, x.2.2 ≠ .callback i clientInfo) :
    d.queue.clients ≠ [] ∧ DiscoveryInv (tr ++ [x]) (d.retrieve call c).1 := by
  have hrunning : Running c := fun result hreturned => by rw [hphase] at hreturned; cases hreturned
  have hold := h.running call c hcall hrunning
  have hne := hold.signaled hphase
  refine ⟨hne, ?_⟩
  have hset := h.event.mpr hne
  refine h.setCall hcall hrunning rfl (fun _ hid => hid) ?_ ?_
    (fun _ => fun result hreturned => by cases hreturned) (fun _ => ?_)
    (fun i clientInfo hcb => absurd hcb (hquiet i clientInfo))
  · split
    case isTrue hempty =>
      exact ⟨fun hfalse => absurd hfalse (by simp), fun hne => absurd hempty hne⟩
    case isFalse hmore => exact ⟨fun _ => hmore, fun _ => hset⟩
  · exact fun hinactive => absurd (hold.active.symm.trans hinactive) (by simp)
  · refine
      { active := hold.active
        filter := hold.filter
        pending := fun clientInfo hmem =>
          (hold.pending clientInfo (List.mem_of_mem_dropLast hmem)).snoc
        retrieved := fun clientInfo heq => ?_
        signaled := fun heq => by cases heq }
    obtain rfl := DiscoverPhase.retrieved.inj heq
    refine (hold.pending _ ?_).snoc
    rw [List.getLast?_eq_some_getLast hne]
    exact List.getLast_mem hne

structure ShowsExactly (tr : List (DiscoveryTransition ι)) (d : ClientDiscovery ι)
    (a : DiscoveryAction ι) (o : DiscoveryEvent ι) : Prop where
  asserted : ∀ call, o ≠ .assertionFailed call
  fresh : ∀ call filter, a = .begin call filter → d.queue.clients = []
  shown : ∀ call clientInfo, o = .callback call clientInfo → ∃ c, d.calls call = some c ∧
    clientInfo.id ∉ c.clientHashSet ∧ ArrivedDuring tr call c.filter clientInfo

omit [DecidableEq ι] in
theorem showsExactly_of_quiet {a : DiscoveryAction ι}
    (ha : ∀ call filter, a ≠ .begin call filter) : ShowsExactly tr d a .nothing :=
  { asserted := fun _ h => by cases h
    fresh := fun call filter h => absurd h (ha call filter)
    shown := fun _ _ h => by cases h }

theorem DiscoveryInv.report (h : DiscoveryInv tr d) {clientInfo : DiscoveredClientInfo}
    (hcall : d.calls call = some c) (hphase : c.phase = .retrieved clientInfo)
    (inserted continueDiscovery timeLeft : Bool) {o : DiscoveryEvent ι} {d' : ClientDiscovery ι}
    (hreport : d.report call c clientInfo inserted continueDiscovery timeLeft = (d', o))
    (hx : x.2.2 = o) :
    DiscoveryInv (tr ++ [x]) d' ∧
      ShowsExactly tr d (.report call inserted continueDiscovery timeLeft) o := by
  have hrunning : Running c := fun result hreturned => by rw [hphase] at hreturned; cases hreturned
  have harrived := (h.running call c hcall hrunning).retrieved clientInfo hphase
  have hround : ∀ next, next = ClientDiscovery.nextRound timeLeft ∨ next = .leaving .success ∨
      next = .leaving .insufficientMemory → (∀ result, next ≠ .returned result) ∧
      (∀ info, next ≠ .retrieved info) ∧ next ≠ .signaled := by
    rintro next (rfl | rfl | rfl)
    · rw [ClientDiscovery.nextRound]
      split <;> exact ⟨nofun, nofun, nofun⟩
    · exact ⟨nofun, nofun, nofun⟩
    · exact ⟨nofun, nofun, nofun⟩
  rw [ClientDiscovery.report] at hreport
  split at hreport
  case isTrue =>
    cases hreport
    obtain ⟨hreturned, hretrieved, hsignaled⟩ := hround _ (.inl rfl)
    exact ⟨h.move hcall hrunning rfl (fun _ hid => hid) hreturned hretrieved
      (fun heq => absurd heq hsignaled) (fun i info hcb => by rw [hx] at hcb; cases hcb),
      showsExactly_of_quiet nofun⟩
  case isFalse hnew =>
    split at hreport
    case isTrue =>
      cases hreport
      obtain ⟨hreturned, hretrieved, hsignaled⟩ := hround
        (if continueDiscovery then ClientDiscovery.nextRound timeLeft else .leaving .success)
        (by split <;> simp)
      refine ⟨h.move hcall hrunning rfl (fun _ hid => List.mem_cons_of_mem _ hid) hreturned
        hretrieved (fun heq => absurd heq hsignaled) (fun i info hcb => ?_),
        { asserted := fun _ hfailed => by cases hfailed
          fresh := fun _ _ hbegin => by cases hbegin
          shown := fun i info hcb => ?_ }⟩
      · rw [hx] at hcb
        obtain ⟨rfl, rfl⟩ := DiscoveryEvent.callback.inj hcb
        exact ⟨rfl, List.mem_cons_self⟩
      · obtain ⟨rfl, rfl⟩ := DiscoveryEvent.callback.inj hcb
        exact ⟨c, hcall, hnew, harrived⟩
    case isFalse =>
      cases hreport
      obtain ⟨hreturned, hretrieved, hsignaled⟩ := hround _ (.inr (.inr rfl))
      exact ⟨h.move hcall hrunning rfl (fun _ hid => hid) hreturned hretrieved
        (fun heq => absurd heq hsignaled) (fun i info hcb => by rw [hx] at hcb; cases hcb),
        showsExactly_of_quiet nofun⟩

theorem DiscoveryInv.finish (h : DiscoveryInv tr d) (hcall : d.calls call = some c)
    (hrunning : Running c) (result : Result)
    (hquiet : ∀ i clientInfo, x.2.2 ≠ .callback i clientInfo) :
    DiscoveryInv (tr ++ [x]) (d.finish call c result) :=
  h.setCall hcall hrunning rfl (fun _ hid => hid)
    ⟨fun hfalse => absurd hfalse (by simp), fun hne => absurd rfl hne⟩ (fun _ => rfl)
    (fun htrue => absurd htrue (by simp)) (fun hrun => absurd rfl (hrun result))
    (fun i clientInfo hcb => absurd hcb (hquiet i clientInfo))

/-- One case for each part of a call. -/
theorem DiscoveryInv.step (h : DiscoveryInv tr d) {a : DiscoveryAction ι} {o : DiscoveryEvent ι}
    {d' : ClientDiscovery ι} (halone : BeginsAlone d a)
    (hstep : (discoveryMachine ι).step d a = some (d', o)) :
    DiscoveryInv (tr ++ [(d, a, o)]) d' ∧ ShowsExactly tr d a o := by
  replace hstep : d.step a = some (d', o) := hstep
  cases a with
  | receive m pushBack =>
    cases hstep
    exact ⟨h.receive m pushBack rfl, showsExactly_of_quiet nofun⟩
  | begin call filter =>
    rw [ClientDiscovery.step] at hstep
    split at hstep
    case isFalse => cases hstep
    case isTrue hnone =>
      cases hstep
      obtain ⟨hempty, hinv⟩ := h.begin (x := (d, .begin call filter, .nothing))
        (Option.isNone_iff_eq_none.mp hnone) (halone call filter rfl) rfl
      exact ⟨hinv,
        { asserted := fun _ hfailed => by cases hfailed
          fresh := fun _ _ _ => hempty
          shown := fun _ _ hcb => by cases hcb }⟩
  | wake call =>
    rw [ClientDiscovery.step] at hstep
    split at hstep
    case h_2 => cases hstep
    case h_1 filter seen hcall =>
      split at hstep
      case isFalse => cases hstep
      case isTrue hset =>
        cases hstep
        exact ⟨h.move hcall nofun rfl (fun _ hid => hid) nofun nofun
          (fun _ => h.event.mp hset) nofun, showsExactly_of_quiet nofun⟩
  | timeOut call =>
    rw [ClientDiscovery.step] at hstep
    split at hstep
    case h_2 => cases hstep
    case h_1 filter seen hcall =>
      cases hstep
      exact ⟨h.move hcall nofun rfl (fun _ hid => hid) nofun nofun nofun nofun,
        showsExactly_of_quiet nofun⟩
  | retrieve call =>
    rw [ClientDiscovery.step] at hstep
    split at hstep
    case h_2 => cases hstep
    case h_1 filter seen hcall =>
      have hretrieve := Option.some.inj hstep
      have hne := (h.running call _ hcall nofun).signaled rfl
      have hevent : (d.retrieve call ⟨filter, seen, .signaled⟩).2 = .nothing := if_neg hne
      obtain rfl := (congrArg Prod.snd hretrieve).symm.trans hevent
      obtain rfl := congrArg Prod.fst hretrieve
      exact ⟨(h.retrieve hcall rfl (by nofun)).2, showsExactly_of_quiet nofun⟩
  | report call inserted continueDiscovery timeLeft =>
    rw [ClientDiscovery.step] at hstep
    split at hstep
    case h_2 => cases hstep
    case h_1 filter seen clientInfo hcall =>
      exact h.report hcall rfl inserted continueDiscovery timeLeft (Option.some.inj hstep) rfl
  | finish call =>
    rw [ClientDiscovery.step] at hstep
    split at hstep
    case h_2 => cases hstep
    case h_1 filter seen result hcall =>
      cases hstep
      have hinv := h.finish (x := (d, .finish call, .nothing)) hcall nofun result nofun
      exact ⟨hinv, showsExactly_of_quiet nofun⟩

theorem DiscoveryInv.initial (h : (discoveryMachine ι).init d) : DiscoveryInv [] d := by
  obtain ⟨hempty, hinactive, hcleared, hnone⟩ := h
  have hno : ∀ i c, d.calls i ≠ some c := fun i c hc => by rw [hnone] at hc; cases hc
  exact
    { event := ⟨fun hset => absurd (hcleared.symm.trans hset) (by simp),
        fun hne => absurd hempty hne⟩
      idle := fun _ => hempty
      active := fun hactive => absurd (hinactive.symm.trans hactive) (by simp)
      single := fun i _ c _ hc => absurd hc (hno i c)
      began := fun i c hc => absurd hc (hno i c)
      running := fun i c hc => absurd hc (hno i c)
      reported := nofun }

theorem discoveryInv_of_trace {s t : ClientDiscovery ι} (hinit : (discoveryMachine ι).init s)
    (h : (discoveryMachine ι).Trace s tr t) (halone : ∀ x ∈ tr, BeginsAlone x.1 x.2.1) :
    DiscoveryInv tr t := by
  induction h with
  | nil => exact .initial hinit
  | @snoc t u tr a o _ hstep ih =>
    have hinv := ih fun x hx => halone x (List.mem_append_left _ hx)
    have hlast := halone (t, a, o) (List.mem_append_right _ (List.mem_singleton_self _))
    exact (hinv.step hlast hstep).1

/-- **While no two calls run at the same time, discovery reports each match once**: in every run, a
call shows each client at most once, and only when its Pong arrived during the call and matches the
filter; the event is set exactly when the queue has entries, an entry is only taken when there is
one, and nothing is left over for the next call. -/
theorem discovery_exact (s t : ClientDiscovery ι) (tr : List (DiscoveryTransition ι))
    (hinit : (discoveryMachine ι).init s) (h : (discoveryMachine ι).Trace s tr t)
    (halone : ∀ x ∈ tr, BeginsAlone x.1 x.2.1) : DiscoversExactly tr t := by
  have hat : ∀ before x after, tr = before ++ x :: after →
      DiscoveryInv before x.1 ∧ ShowsExactly before x.1 x.2.1 x.2.2 := by
    rintro before ⟨d, a, o⟩ after rfl
    obtain ⟨hbefore, u, hstep, -⟩ := h.split
    have hinv := discoveryInv_of_trace hinit hbefore fun y hy => halone y (by simp [hy])
    exact ⟨hinv, (hinv.step (halone (d, a, o) (by simp)) hstep).2⟩
  have hmem : ∀ x ∈ tr, ∃ before after, tr = before ++ x :: after := fun x hx =>
    List.append_of_mem hx
  refine
    { once := fun before x after htr call clientInfo hcb y hy earlier hearlier heq => ?_
      arrived := fun before x after htr call clientInfo hcb => ?_
      event := ⟨fun x hx => ?_, (discoveryInv_of_trace hinit h halone).event⟩
      asserted := fun x hx => ?_
      fresh := fun x hx => ?_ }
  · obtain ⟨hinv, hshows⟩ := hat before x after htr
    obtain ⟨c, hc, hnew, -⟩ := hshows.shown call clientInfo hcb
    obtain ⟨e, he, hseen⟩ := hinv.reported y hy call earlier hearlier
    obtain rfl := Option.some.inj (hc.symm.trans he)
    exact hnew (heq ▸ hseen)
  · obtain ⟨c, -, -, harrived⟩ := (hat before x after htr).2.shown call clientInfo hcb
    exact ⟨c.filter, harrived⟩
  · obtain ⟨before, after, htr⟩ := hmem x hx
    exact (hat before x after htr).1.event
  · obtain ⟨before, after, htr⟩ := hmem x hx
    exact (hat before x after htr).2.asserted
  · obtain ⟨before, after, htr⟩ := hmem x hx
    exact (hat before x after htr).2.fresh

end Invariant

/-! ## The handler of the channel

What the receive thread does in a step of a discovery is what the channel does to its queue when it
handles a message. -/

section Handler

omit [DecidableEq ι]

variable {ρ : Type} [RoundTripTime ρ] {env : ChannelEnv} {m : MessageBuffer} {c c' : ChannelCtx ρ}
  {d : ClientDiscovery ι}

@[simp] theorem queue_disconnect : (c.disconnect env).channel.discoveredClientsQueue =
    c.channel.discoveredClientsQueue := by
  unfold ChannelCtx.disconnect
  split <;> rfl

@[simp] theorem queue_sendClientInfo (dstClientId : ClientId) (message : SystemMessage) :
    (c.sendClientInfo env dstClientId message).channel.discoveredClientsQueue =
      c.channel.discoveredClientsQueue := by
  unfold ChannelCtx.sendClientInfo ChannelCtx.send ChannelCtx.forward
  split
  · split
    · dsimp only
      split
      · exact queue_disconnect
      · rfl
    · rfl
  · rfl

@[simp] theorem queue_afterManager (x : ManagerCtx ρ) :
    (c.afterManager env x).channel.discoveredClientsQueue = c.channel.discoveredClientsQueue := by
  unfold ChannelCtx.afterManager
  split
  · exact queue_disconnect
  · rfl

theorem queue_handlePing :
    (handlePing env m c).channel.discoveredClientsQueue = c.channel.discoveredClientsQueue := by
  unfold handlePing
  split_ifs
  · exact queue_sendClientInfo (c := { c with events := _ }) _ _
  · rfl
  · exact queue_sendClientInfo _ _

theorem queue_handleSystemMessage (hqueue : d.queue = c.channel.discoveredClientsQueue) :
    (handleSystemMessage env m c).channel.discoveredClientsQueue =
      (d.receive m env.pushBack).queue := by
  simp only [handleSystemMessage, ClientDiscovery.receive]
  cases SystemMessage.ofCode m.header.messageId with
  | pong =>
    rw [if_pos rfl, hqueue]
    dsimp only [handlePong]
    split
    · rfl
    · exact hqueue.symm
  | ping => rw [if_neg nofun, hqueue]; exact queue_handlePing
  | halted =>
    rw [if_neg nofun, hqueue]
    dsimp only [handleHalted]
    split <;> rfl
  | queryClientInfo => rw [if_neg nofun, hqueue]; exact queue_sendClientInfo _ _
  | clientDisconnected => rw [if_neg nofun, hqueue]; exact queue_afterManager _
  | clientInfo | unhandled => rw [if_neg nofun, hqueue]

theorem queue_handleMessageReceived {transport : MsgTransport}
    (hqueue : d.queue = c.channel.discoveredClientsQueue)
    (h : handleMessageReceived transport env m c = some c') :
    c'.channel.discoveredClientsQueue = d.queue ∨
      (m.header.protocolId = Protocol.system ∧
        c'.channel.discoveredClientsQueue = (d.receive m env.pushBack).queue) := by
  have hnoted : d.queue = (noteActivity transport c).channel.discoveredClientsQueue := by
    unfold noteActivity
    split <;> exact hqueue
  unfold handleMessageReceived at h
  dsimp only at h
  split at h
  · obtain ⟨x, -, rfl⟩ := Option.map_eq_some_iff.mp h
    exact .inl ((queue_afterManager x).trans hnoted.symm)
  · split at h
    · split at h <;> cases h <;> exact .inl hnoted.symm
    · split at h
      · rename_i hsystem
        cases h
        exact .inr ⟨hsystem.1, queue_handleSystemMessage hnoted⟩
      · cases h
        exact .inl hnoted.symm

end Handler

def idleDiscovery (ι : Type) : ClientDiscovery ι := ⟨⟨[], false, .zero⟩, false, fun _ => none⟩

def pongOfClient : MessageBuffer :=
  { MessageBuffer.zero with
    header := { MessageBuffer.zero.header with srcClientId := 7, messageId := 4 } }

def oneCall : List (DiscoveryAction Unit) :=
  [.begin () .zero, .receive pongOfClient true, .wake (), .retrieve (), .report () true true true]

theorem discovery_exact_oneCall :
    ((discoveryMachine Unit).run (idleDiscovery Unit) oneCall).isSome = true ∧
    ∃ t, DiscoversExactly ((discoveryMachine Unit).transitions (idleDiscovery Unit) oneCall) t := by
  refine ⟨rfl, _, discovery_exact (idleDiscovery Unit) _ _ ⟨rfl, rfl, rfl, fun _ => rfl⟩
    (Machine.Trace.of_run rfl) fun x hx call filter hbegin other c hc hrun => ?_⟩
  have htransitions : (discoveryMachine Unit).transitions (idleDiscovery Unit) oneCall =
      [(_, .begin () .zero, _), (_, .receive pongOfClient true, _), (_, .wake (), _),
        (_, .retrieve (), _), (_, .report () true true true, _)] := rfl
  rw [htransitions] at hx
  simp only [List.mem_cons, List.not_mem_nil, or_false] at hx
  rcases hx with rfl | rfl | rfl | rfl | rfl
  · cases hc
  all_goals cases hbegin

def twoCalls : List (DiscoveryAction Bool) :=
  [.begin false .zero, .begin true .zero, .receive pongOfClient true, .wake false, .wake true,
    .retrieve false]

/-- Two calls at the same time: both wake for the one entry, and the second finds the queue empty,
where the assertion fails. -/
theorem discovery_exact_fails : ∃ (s t : ClientDiscovery Bool)
    (tr : List (DiscoveryTransition Bool)), (discoveryMachine Bool).init s ∧
      (discoveryMachine Bool).Trace s tr t ∧ ¬ DiscoversExactly tr t := by
  have hrun : (discoveryMachine Bool).Trace (idleDiscovery Bool) _ _ :=
    Machine.Trace.of_run (rfl : (discoveryMachine Bool).run (idleDiscovery Bool) twoCalls = some _)
  refine ⟨idleDiscovery Bool, _, _, ⟨rfl, rfl, rfl, fun _ => rfl⟩,
    .snoc (a := .retrieve true) (o := .assertionFailed true) hrun rfl, fun hexact => ?_⟩
  exact hexact.asserted _ (List.mem_append_right _ (List.mem_singleton_self _)) true rfl

end DevDriver.Analysis
