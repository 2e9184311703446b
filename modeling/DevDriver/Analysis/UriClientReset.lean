import DevDriver.Model.UriClient

/-!
# The URI client after a transaction

A `URIClient` takes a request only when it is idle.
-/

namespace DevDriver.Analysis

open Library Model Dialogue UriClient UriDialogue

abbrev UriAnswers := List (UriAnswer ⊕ ReceiveAnswer)

/-- A call of `TransactURIRequest` and the answers that it gets. -/
structure UriTransaction where
  request : List UInt8
  postData : List UInt8
  pResponseBuffer : Option ResponseBuffer
  rounds : ℕ
  answers : UriAnswers

/-- A connected client that transacts requests, with the result of each and what it asked for. -/
def uriClientMachine (client : UriClient) :
    Machine UriContext UriTransaction (Result × List UriCall) where
  init := (· = .zero)
  step context a :=
    ((client.transactURIRequest a.rounds a.request a.postData a.pResponseBuffer context).follow
      a.answers).map fun (calls, result, context, _) => (context, result, calls)

/-! ## What leaves a block open -/

/-- A response of this size can be read: there is a response buffer, and it gets the memory. -/
def CanRead (pResponseBuffer : Option ResponseBuffer) (size : ℕ) : Prop :=
  ∃ buffer, pResponseBuffer = some buffer ∧ buffer.canResize size = true

/-- The condition on the answers: a response block that holds data can be read, and its reading
goes on until the end of the stream or an error. -/
structure ClosesBlock (readable : ℕ → Prop) (answers : UriAnswers) : Prop where
  buffered : ∀ size, .inl (.openedPullBlock (some size)) ∈ answers → size = 0 ∨ readable size
  ended : ∀ r bytes, .inl (.read r bytes) ∈ answers →
    r = .success ∨ r = .endOfStream ∨ r = .error

variable {as : UriAnswers}

theorem closesBlock_append {p : ℕ → Prop} {as' : UriAnswers} :
    ClosesBlock p (as ++ as') ↔ ClosesBlock p as ∧ ClosesBlock p as' := by
  constructor
  · intro h
    exact ⟨⟨fun size hmem => h.buffered size (List.mem_append_left _ hmem),
        fun r bytes hmem => h.ended r bytes (List.mem_append_left _ hmem)⟩,
      ⟨fun size hmem => h.buffered size (List.mem_append_right _ hmem),
        fun r bytes hmem => h.ended r bytes (List.mem_append_right _ hmem)⟩⟩
  · rintro ⟨h, h'⟩
    refine ⟨fun size hmem => ?_, fun r bytes hmem => ?_⟩
    · rcases List.mem_append.mp hmem with hmem | hmem
      · exact h.buffered size hmem
      · exact h'.buffered size hmem
    · rcases List.mem_append.mp hmem with hmem | hmem
      · exact h.ended r bytes hmem
      · exact h'.ended r bytes hmem

def IsPlain : UriAnswer ⊕ ReceiveAnswer → Prop
  | .inl (.openedPullBlock _) => False
  | .inl (.read _ _) => False
  | _ => True

theorem closesBlock_of_plain (h : ∀ a ∈ as, IsPlain a) (p : ℕ → Prop) : ClosesBlock p as :=
  ⟨fun _ hmem => (h _ hmem).elim, fun _ _ hmem => (h _ hmem).elim⟩

theorem plain_onSession {α : Type} {d : TransferDialogue α} {x : List UriCall × α}
    (h : (onSession d).follow as = some x) : ∀ a ∈ as, IsPlain a := by
  induction d generalizing as x with
  | done a =>
    obtain ⟨rfl, -⟩ := follow_done h
    exact fun a hmem => nomatch hmem
  | send payload next ih =>
    rw [onSession] at h
    obtain ⟨r, rest, ms, rfl, hnext, -⟩ := follow_send h
    cases r with
    | result r =>
      intro a hmem
      rcases List.mem_cons.mp hmem with rfl | hmem
      · trivial
      · exact ih r hnext a hmem
    | _ => exact absurd hnext fun h => follow_pending h
  | receive next ih =>
    rw [onSession] at h
    obtain ⟨r, rest, rfl, hnext⟩ := follow_receive h
    intro a hmem
    rcases List.mem_cons.mp hmem with rfl | hmem
    · trivial
    · exact ih r hnext a hmem
  | pending => exact absurd h fun h => follow_pending h

section Client

variable {client : UriClient} {as : UriAnswers}

variable {rounds : ℕ} {request postData : List UInt8} {header : UriResponseHeader}
    {blockId : BlockId} {data : List UInt8} {α : Type}

theorem plain_bind {β : Type} {d : UriDialogue α} {f : α → UriDialogue β} {x : List UriCall × β}
    (h : (d >>= f).follow as = some x) (hd : ∀ as x, d.follow as = some x → ∀ a ∈ as, IsPlain a)
    (hf : ∀ a as x, (f a).follow as = some x → ∀ a ∈ as, IsPlain a) : ∀ a ∈ as, IsPlain a := by
  obtain ⟨as₁, as₂, ms₁, ms₂, a, rfl, -, h₁, h₂⟩ := follow_bind h
  intro y hmem
  rcases List.mem_append.mp hmem with hmem | hmem
  · exact hd _ _ h₁ y hmem
  · exact hf _ _ _ h₂ y hmem

theorem plain_pure {a : α} {x : List UriCall × α}
    (h : (pure a : UriDialogue α).follow as = some x) :
    ∀ a ∈ as, IsPlain a := by
  obtain ⟨rfl, -⟩ := follow_done h
  exact fun a hmem => nomatch hmem

variable {x : List UriCall × Result × SizedPayloadContainer}

theorem plain_transactURIPayload {container : SizedPayloadContainer}
    (h : (client.transactURIPayload container).follow as = some x) : ∀ a ∈ as, IsPlain a := by
  refine plain_bind h (fun _ _ h => plain_onSession h) fun r as x h => ?_
  split at h
  · exact plain_onSession h
  · exact plain_pure h

theorem plain_call {call : UriCall} {next : UriAnswer → UriDialogue α} {x : List UriCall × α}
    (h : (send call next).follow as = some x)
    (hnext : ∀ r rest x, (next r).follow rest = some x → IsPlain (.inl r) ∧ ∀ a ∈ rest, IsPlain a) :
    ∀ a ∈ as, IsPlain a := by
  obtain ⟨r, rest, ms, rfl, h, -⟩ := follow_send h
  intro a hmem
  rcases List.mem_cons.mp hmem with rfl | hmem
  · exact (hnext r rest _ h).1
  · exact (hnext r rest _ h).2 a hmem

theorem plain_write {x : List UriCall × Result} (h : (write data).follow as = some x) :
    ∀ a ∈ as, IsPlain a :=
  plain_call h fun r rest x h => by
    cases r with
    | result r => exact ⟨trivial, plain_pure h⟩
    | _ => exact absurd h fun h => follow_pending h

theorem plain_finalize {x : List UriCall × Result}
    (h : finalize.follow as = some x) : ∀ a ∈ as, IsPlain a :=
  plain_call h fun r rest x h => by
    cases r with
    | result r => exact ⟨trivial, plain_pure h⟩
    | _ => exact absurd h fun h => follow_pending h

theorem plain_openPushBlock {blockSize : ℕ} {x : List UriCall × Bool}
    (h : (openPushBlock blockId blockSize).follow as = some x) : ∀ a ∈ as, IsPlain a :=
  plain_call h fun r rest x h => by
    cases r with
    | openedPushBlock success => exact ⟨trivial, plain_pure h⟩
    | _ => exact absurd h fun h => follow_pending h

theorem plain_close {call : UriCall} {x : List UriCall × Unit}
    (h : (close call).follow as = some x) : ∀ a ∈ as, IsPlain a :=
  plain_call h fun r rest x h => by
    cases r with
    | closed => exact ⟨trivial, plain_pure h⟩
    | _ => exact absurd h fun h => follow_pending h

theorem plain_writePostData {x : List UriCall × Result}
    (h : (writePostData postData).follow as = some x) : ∀ a ∈ as, IsPlain a := by
  refine plain_bind h (fun _ _ h => plain_write h) fun result as x h => ?_
  split at h
  · exact plain_finalize h
  · exact plain_pure h

theorem plain_pushPostData {x : List UriCall × Result × BlockId}
    (h : (client.pushPostData request postData).follow as = some x) : ∀ a ∈ as, IsPlain a := by
  refine plain_bind h (fun _ _ h => plain_transactURIPayload h) fun r as x h => ?_
  dsimp only at h
  split at h
  · split at h
    · refine plain_bind h (fun _ _ h => plain_openPushBlock h) fun opened as x h => ?_
      split at h
      · refine plain_bind h (fun _ _ h => plain_writePostData h) fun result as x h => ?_
        exact plain_bind h (fun _ _ h => plain_close h) fun _ _ _ h => plain_pure h
      · exact plain_pure h
    · exact plain_pure h
  · exact plain_pure h

theorem plain_createRequest (h : (client.createRequest request postData).follow as = some x) :
    ∀ a ∈ as, IsPlain a := by
  unfold createRequest at h
  split at h
  · exact plain_pure h
  · split at h
    · exact plain_pure h
    · refine plain_bind h (fun _ _ h => plain_pushPostData h) fun r as x h => ?_
      dsimp only at h
      split at h <;> exact plain_pure h

/-! ## The parts of a transaction -/

/-- How a request of an idle client ends: nothing is left open, or a block that holds data is. -/
inductive RequestEnd (answers : UriAnswers) (result : Result) (context : UriContext)
    (header : UriResponseHeader) : Prop where
  | idle (hcontext : context = .zero) (hsize : header.responseDataSizeInBytes = 0)
      (hcloses : ∀ p, ClosesBlock p answers)
  | reading (blockId : BlockId) (hcontext : context = ⟨.readResponse, some blockId⟩)
      (hsize : 0 < header.responseDataSizeInBytes) (hresult : result = .success)
      (hopened : .inl (.openedPullBlock (some header.responseDataSizeInBytes)) ∈ answers)
      (hcloses : ∀ p, p header.responseDataSizeInBytes → ClosesBlock p answers)

variable {result : Result}

theorem RequestEnd.plain {as : UriAnswers} (h : ∀ a ∈ as, IsPlain a) :
    RequestEnd as result .zero .empty :=
  .idle rfl rfl (closesBlock_of_plain h)

variable {context : UriContext}

theorem RequestEnd.cons {as as' : UriAnswers} (hplain : ∀ a ∈ as, IsPlain a)
    (h : RequestEnd as' result context header) : RequestEnd (as ++ as') result context header := by
  cases h with
  | idle hcontext hsize hcloses =>
    exact .idle hcontext hsize fun p =>
      closesBlock_append.mpr ⟨closesBlock_of_plain hplain p, hcloses p⟩
  | reading blockId hcontext hsize hresult hopened hcloses =>
    exact .reading blockId hcontext hsize hresult (List.mem_append_right _ hopened)
      fun p hp => closesBlock_append.mpr ⟨closesBlock_of_plain hplain p, hcloses p hp⟩

variable {calls : List UriCall}

theorem requestEnd_openResponse {response : SizedPayloadContainer}
    (h : (client.openResponse response .zero).follow as = some (calls, result, context, header)) :
    RequestEnd as result context header := by
  unfold openResponse at h
  split at h
  · obtain ⟨r, rest, ms, rfl, hnext, -⟩ := follow_send h
    cases r with
    | openedPullBlock blockDataSize =>
      cases blockDataSize with
      | some blockSize =>
        change follow (ite _ _ _) rest = _ at hnext
        split at hnext
        · rename_i hpos
          obtain ⟨rfl, ⟨⟩⟩ := follow_done hnext
          refine .reading _ rfl hpos rfl (List.mem_singleton_self _)
            fun p hp => ⟨fun size hmem => ?_, fun r bytes hmem => ?_⟩
          · cases List.mem_singleton.mp hmem
            exact .inr hp
          · cases List.mem_singleton.mp hmem
        · rename_i hzero
          obtain ⟨as₁, as₂, ms₁, ms₂, a, rfl, -, hclose, hdone⟩ := follow_bind hnext
          obtain ⟨rfl, ⟨⟩⟩ := follow_done hdone
          have hsize : blockSize = 0 := Nat.eq_zero_of_not_pos hzero
          refine .idle rfl hsize fun p => ?_
          rw [List.append_nil, ← List.singleton_append]
          refine closesBlock_append.mpr
            ⟨⟨fun size hmem => ?_, fun r bytes hmem => ?_⟩,
              closesBlock_of_plain (plain_close hclose) p⟩
          · cases List.mem_singleton.mp hmem
            exact .inl hsize
          · cases List.mem_singleton.mp hmem
      | none =>
        obtain ⟨rfl, ⟨⟩⟩ := follow_done hnext
        refine .idle rfl rfl fun p => ⟨fun size hmem => ?_, fun r bytes hmem => ?_⟩ <;>
          cases List.mem_singleton.mp hmem
    | _ => exact absurd hnext fun h => follow_pending h
  · obtain ⟨rfl, ⟨⟩⟩ := follow_done h
    exact .plain fun a hmem => nomatch hmem

theorem requestEnd_requestURI
    (h : (client.requestURI request postData .zero).follow as =
      some (calls, result, context, header)) : RequestEnd as result context header := by
  rw [requestURI, if_pos (show UriContext.zero.state = .idle from rfl)] at h
  obtain ⟨as₁, as₂, ms₁, ms₂, ⟨created, container⟩, rfl, -, hcreate, h⟩ := follow_bind h
  refine .cons (plain_createRequest hcreate) ?_
  dsimp only at h
  split at h
  · obtain ⟨as₃, as₄, ms₃, ms₄, ⟨sent, response⟩, rfl, -, htransact, h⟩ := follow_bind h
    refine .cons (plain_transactURIPayload htransact) ?_
    split at h
    · split at h
      · exact requestEnd_openResponse h
      · obtain ⟨rfl, ⟨⟩⟩ := follow_done h
        exact .plain fun a hmem => nomatch hmem
    · obtain ⟨rfl, ⟨⟩⟩ := follow_done h
      exact .plain fun a hmem => nomatch hmem
  · obtain ⟨rfl, ⟨⟩⟩ := follow_done h
    exact .plain fun a hmem => nomatch hmem

variable {p : ℕ → Prop}

/-- The loop leaves the client idle exactly when every read succeeds, ends the stream or fails. -/
theorem readFullLoop_idle_iff {bufferSize : ℕ} {data' : List UInt8}
    (h : (readFullLoop rounds bufferSize ⟨.readResponse, some blockId⟩ data).follow as =
      some (calls, result, context, data')) : context = .zero ↔ ClosesBlock p as := by
  induction rounds generalizing as data calls with
  | zero => exact absurd h fun h => follow_pending h
  | succ rounds ih =>
    obtain ⟨as₁, as₂, ms₁, ms₂, ⟨read, context₁, bytes⟩, rfl, -, hread, hgo⟩ :=
      follow_bind h
    rw [readResponse, if_pos rfl] at hread
    obtain ⟨r, rest, ms, rfl, hnext, -⟩ := follow_send hread
    cases r with
    | read r₁ bytes₁ =>
      change follow (ite _ _ _) rest = _ at hnext
      split at hnext
      · -- the end of the stream or an error: the block is closed
        rename_i hended
        obtain ⟨as₃, as₄, ms₃, ms₄, u, rfl, -, hclose, hdone⟩ := follow_bind hnext
        obtain ⟨rfl, ⟨⟩⟩ := follow_done hdone
        have hnot : read ≠ .success := by rcases hended with rfl | rfl <;> nofun
        dsimp only at hgo
        rw [if_neg hnot] at hgo
        obtain ⟨rfl, ⟨⟩⟩ := follow_done hgo
        refine iff_of_true rfl ?_
        rw [List.append_nil, List.append_nil, ← List.singleton_append]
        refine closesBlock_append.mpr
          ⟨⟨fun size hmem => ?_, fun r bytes hmem => ?_⟩,
            closesBlock_of_plain (plain_close hclose) p⟩
        · cases List.mem_singleton.mp hmem
        · cases List.mem_singleton.mp hmem
          exact .inr hended
      · rename_i hended
        obtain ⟨rfl, ⟨⟩⟩ := follow_done hnext
        dsimp only at hgo
        split at hgo
        · -- more data: the loop goes on
          rename_i hsuccess
          rw [ih hgo, closesBlock_append]
          refine ⟨fun hrest => ⟨⟨fun size hmem => ?_, fun r bytes hmem => ?_⟩, hrest⟩,
            fun hall => hall.2⟩
          · cases List.mem_singleton.mp hmem
          · cases List.mem_singleton.mp hmem
            exact .inl hsuccess
        · -- any other result: the block stays open
          rename_i hsuccess
          obtain ⟨rfl, ⟨⟩⟩ := follow_done hgo
          refine iff_of_false nofun fun hcloses => ?_
          rcases hcloses.ended result bytes (List.mem_append_left _ (List.mem_singleton_self _))
            with hr | hr
          · exact hsuccess hr
          · exact hended hr
    | _ => exact absurd hnext fun h => follow_pending h

theorem readFullResponse_idle_iff {bufferSize : ℕ} {validBuffer : Bool}
    (h : (readFullResponse rounds validBuffer bufferSize
      ⟨.readResponse, some blockId⟩).follow as = some (calls, result, context, data)) :
    context = .zero ↔ validBuffer = true ∧ ClosesBlock p as := by
  cases validBuffer with
  | true =>
    rw [readFullResponse, if_pos rfl] at h
    obtain ⟨as₁, as₂, ms₁, ms₂, ⟨read, context₁, bytes⟩, rfl, -, hloop, h⟩ := follow_bind h
    obtain ⟨rfl, ⟨⟩⟩ := follow_done h
    rw [List.append_nil, readFullLoop_idle_iff hloop]
    exact (and_iff_right rfl).symm
  | false =>
    obtain ⟨rfl, ⟨⟩⟩ := follow_done h
    exact iff_of_false nofun nofun

/-- The client is idle again exactly if the block it opened is closed. -/
theorem transactURIRequest_idle_iff {pResponseBuffer : Option ResponseBuffer}
    (h : (client.transactURIRequest rounds request postData pResponseBuffer .zero).follow as =
      some (calls, result, context, data)) :
    context = .zero ↔ ClosesBlock (CanRead pResponseBuffer) as := by
  obtain ⟨as₁, as₂, ms₁, ms₂, ⟨requested, context₁, header⟩, rfl, -, hrequest, h⟩ :=
    follow_bind h
  rw [closesBlock_append]
  cases requestEnd_requestURI hrequest with
  | idle hcontext hsize hcloses =>
    subst hcontext
    -- without data in a block nothing more is asked for
    have hdone : (pure (requested, UriContext.zero, []) :
        UriDialogue (Result × UriContext × List UInt8)).follow as₂ =
          some (ms₂, result, context, data) := by
      cases pResponseBuffer with
      | none => exact h
      | some buffer =>
        dsimp only at h
        rwa [if_neg fun hread => hread.2 hsize] at h
    obtain ⟨rfl, ⟨⟩⟩ := follow_done hdone
    exact iff_of_true rfl ⟨hcloses _, closesBlock_of_plain (List.forall_mem_nil _) _⟩
  | reading blockId hcontext hsize hresult hopened hcloses =>
    subst hcontext
    cases pResponseBuffer with
    | none =>
      obtain ⟨rfl, ⟨⟩⟩ := follow_done h
      refine iff_of_false nofun fun hall => ?_
      rcases hall.1.buffered _ hopened with hzero | ⟨buffer, ⟨⟩, -⟩
      exact hsize.ne' hzero
    | some buffer =>
      dsimp only at h
      rw [if_pos ⟨hresult, hsize.ne'⟩] at h
      rw [readFullResponse_idle_iff h]
      refine and_congr_left fun _ =>
        ⟨fun hresizes => hcloses _ ⟨buffer, rfl, hresizes⟩, fun hall => ?_⟩
      rcases hall.buffered _ hopened with hzero | ⟨_, ⟨⟩, hresizes⟩
      · exact absurd hzero hsize.ne'
      · exact hresizes

/-- The first thing that a request of an idle client asks for is that a payload is sent. -/
def UriTransmits (calls : List UriCall) : Prop := ∃ payload rest, calls = .send payload :: rest

theorem UriTransmits.append (h : UriTransmits calls)
    (calls' : List UriCall) : UriTransmits (calls ++ calls') := by
  obtain ⟨payload, rest, rfl⟩ := h
  exact ⟨payload, rest ++ calls', rfl⟩

theorem transmits_transactURIPayload {container : SizedPayloadContainer}
    (h : (client.transactURIPayload container).follow as = some x) : UriTransmits x.1 := by
  obtain ⟨as₁, as₂, ms₁, ms₂, sent, rfl, hcalls, hsend, -⟩ := follow_bind h
  rw [sendURIPayload, sendSizedPayload, sendRounds, onSession] at hsend
  obtain ⟨r, rest, ms, rfl, -, hms⟩ := follow_send hsend
  rw [hcalls, show ms₁ = _ from hms]
  exact ⟨_, _, rfl⟩

theorem createRequest_cases (h : (client.createRequest request postData).follow as = some x) :
    x.1 = [] ∧ x.2.1 = .success ∨ UriTransmits x.1 := by
  unfold createRequest at h
  split at h
  · have hx := Option.some.inj ((follow_done h).1 ▸ h)
    exact .inl ⟨congrArg Prod.fst hx.symm, congrArg (·.2.1) hx.symm⟩
  · split at h
    · have hx := Option.some.inj ((follow_done h).1 ▸ h)
      exact .inl ⟨congrArg Prod.fst hx.symm, congrArg (·.2.1) hx.symm⟩
    · obtain ⟨as₁, as₂, ms₁, ms₂, r, rfl, hcalls, hpush, -⟩ := follow_bind h
      obtain ⟨as₃, as₄, ms₃, ms₄, r₁, rfl, hpushed, htransact, -⟩ := follow_bind hpush
      rw [hcalls, show ms₁ = _ from hpushed]
      exact .inr ((transmits_transactURIPayload htransact).append ms₄ |>.append ms₂)

theorem transmits_requestURI {x : List UriCall × Result × UriContext × UriResponseHeader}
    (h : (client.requestURI request postData .zero).follow as = some x) : UriTransmits x.1 := by
  rw [requestURI, if_pos (show UriContext.zero.state = .idle from rfl)] at h
  obtain ⟨as₁, as₂, ms₁, ms₂, ⟨created, container⟩, rfl, hcalls, hcreate, h⟩ :=
    follow_bind h
  rw [hcalls]
  rcases createRequest_cases hcreate with ⟨hnone, hcreated⟩ | htransmits
  · dsimp only at h hnone hcreated
    rw [if_pos hcreated] at h
    obtain ⟨as₃, as₄, ms₃, ms₄, r, rfl, hsent, htransact, -⟩ := follow_bind h
    rw [hnone, List.nil_append, show ms₂ = _ from hsent]
    exact (transmits_transactURIPayload htransact).append ms₄
  · exact htransmits.append ms₂

theorem transmits_transactURIRequest {pResponseBuffer : Option ResponseBuffer}
    {x : List UriCall × Result × UriContext × List UInt8}
    (h : (client.transactURIRequest rounds request postData pResponseBuffer .zero).follow as =
      some x) : UriTransmits x.1 := by
  obtain ⟨as₁, as₂, ms₁, ms₂, r, rfl, hcalls, hrequest, -⟩ := follow_bind h
  rw [hcalls]
  exact (transmits_requestURI hrequest).append ms₂

end Client

/-- After each call the client is idle without a block, and each request is transmitted. -/
def IsReusable (client : UriClient)
    (tr : List (UriContext × UriTransaction × Result × List UriCall)) : Prop :=
  ∀ x ∈ tr, UriTransmits x.2.2.2 ∧
    ∀ u, (uriClientMachine client).step x.1 x.2.1 = some (u, x.2.2) → u = .zero

theorem step_zero {client : UriClient} {a : UriTransaction} {o : Result × List UriCall}
    {t : UriContext} (h : (uriClientMachine client).step .zero a = some (t, o)) :
    UriTransmits o.2 ∧ (t = .zero ↔ ClosesBlock (CanRead a.pResponseBuffer) a.answers) := by
  obtain ⟨x, hfollow, hx⟩ := Option.map_eq_some_iff.mp h
  cases hx
  exact ⟨transmits_transactURIRequest hfollow, transactURIRequest_idle_iff hfollow⟩

/-- A run of calls leaves the client idle after each of them, and transmits each request, exactly
when the answers to each call let it close the block that they opened. -/
theorem uri_client_reusable {client : UriClient} {context context' : UriContext}
    {tr : List (UriContext × UriTransaction × Result × List UriCall)}
    (hinit : (uriClientMachine client).init context)
    (htrace : (uriClientMachine client).Trace context tr context') :
    IsReusable client tr ↔
      ∀ x ∈ tr, ClosesBlock (CanRead x.2.1.pResponseBuffer) x.2.1.answers := by
  obtain rfl : context = .zero := hinit
  suffices hrun : (IsReusable client tr → context' = .zero ∧
      ∀ x ∈ tr, ClosesBlock (CanRead x.2.1.pResponseBuffer) x.2.1.answers) ∧
      ((∀ x ∈ tr, ClosesBlock (CanRead x.2.1.pResponseBuffer) x.2.1.answers) →
        context' = .zero ∧ IsReusable client tr) from
    ⟨fun h => (hrun.1 h).2, fun h => (hrun.2 h).2⟩
  induction htrace with
  | nil => exact ⟨fun _ => ⟨rfl, nofun⟩, fun _ => ⟨rfl, nofun⟩⟩
  | @snoc t u tr a o _ hstep ih =>
    constructor
    · intro h
      obtain ⟨rfl, hbefore⟩ := ih.1 fun x hx => h x (List.mem_append_left _ hx)
      obtain rfl :=
        (h (.zero, a, o) (List.mem_append_right _ (List.mem_singleton_self _))).2 u hstep
      refine ⟨rfl, fun x hx => ?_⟩
      rcases List.mem_append.mp hx with hx | hx
      · exact hbefore x hx
      · obtain rfl := List.mem_singleton.mp hx
        exact (step_zero hstep).2.mp rfl
    · intro h
      obtain ⟨rfl, hbefore⟩ := ih.2 fun x hx => h x (List.mem_append_left _ hx)
      have hcloses : ClosesBlock (CanRead a.pResponseBuffer) a.answers :=
        h (.zero, a, o) (List.mem_append_right _ (List.mem_singleton_self _))
      refine ⟨(step_zero hstep).2.mpr hcloses, fun x hx => ?_⟩
      rcases List.mem_append.mp hx with hx | hx
      · exact hbefore x hx
      · obtain rfl := List.mem_singleton.mp hx
        exact ⟨(step_zero hstep).1, fun v hv => (step_zero hv).2.mpr hcloses⟩

def newestClient : UriClient := ⟨⟨50, 5000, Nat.succ_pos 49⟩, uriPostProtocolVersion⟩

def threeByteResponse : ReceiveAnswer :=
  .payload ⟨uriResponsePayload .success 7 URIDataFormat.text 0, by decide⟩

def readTransaction (r : Result) : UriTransaction where
  request := [97]
  postData := []
  pResponseBuffer := some ⟨fun size => size ≤ 4096⟩
  rounds := 2
  answers := [.inl (.result .success), .inr threeByteResponse, .inl (.openedPullBlock (some 3)),
    .inl (.read r [1, 2, 3])] ++ if r = .endOfStream then [.inl .closed] else []

theorem uri_client_reusable_read : ∃ u o,
    (uriClientMachine newestClient).step .zero (readTransaction .endOfStream) = some (u, o) ∧
      o.1 = .success ∧ IsReusable newestClient [(.zero, readTransaction .endOfStream, o)] := by
  have hany : ((uriClientMachine newestClient).step .zero (readTransaction .endOfStream)).any
      (fun x => decide (x.2.1 = .success)) = true := by decide +kernel
  obtain ⟨⟨u, o⟩, hstep, hresult⟩ := (Option.any_eq_true _ _).mp hany
  refine ⟨u, o, hstep, of_decide_eq_true hresult,
    (uri_client_reusable rfl (.snoc .nil hstep)).mpr fun x hx => ?_⟩
  obtain rfl := List.mem_singleton.mp hx
  refine ⟨fun size hmem => ?_, fun r bytes hmem => ?_⟩
  · have hsize : size = 3 := by simpa [readTransaction, threeByteResponse] using hmem
    exact .inr ⟨_, rfl, hsize ▸ rfl⟩
  have hread : r = .endOfStream ∧ bytes = [1, 2, 3] := by
    simpa [readTransaction, threeByteResponse] using hmem
  exact .inr (.inl hread.1)

/-- When the time runs out during the reading, the block stays open. -/
theorem uri_client_stuck : ¬ ∀ (client : UriClient) (context context' : UriContext)
    (tr : List (UriContext × UriTransaction × Result × List UriCall)),
    (uriClientMachine client).init context →
    (uriClientMachine client).Trace context tr context' → IsReusable client tr := by
  intro hall
  have hany : ((uriClientMachine newestClient).step .zero (readTransaction .notReady)).any
      (fun x => decide (x.1 ≠ .zero)) = true := by decide +kernel
  obtain ⟨⟨u, o⟩, hstep, hopen⟩ := (Option.any_eq_true _ _).mp hany
  have hreusable := hall newestClient .zero u _ rfl (.snoc .nil hstep)
  exact of_decide_eq_true hopen
    ((hreusable (.zero, readTransaction .notReady, o) (List.mem_singleton_self _)).2 u hstep)

end DevDriver.Analysis
