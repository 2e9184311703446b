import DevDriver.Model.ProtocolClient

/-!
# Replies and the requests they answer

A server that answers its requests in turn leaves the order of the requests in the order of the
replies, so that a call that waits receives the reply to the oldest request that is outstanding.
-/

namespace DevDriver.Analysis

open Library Model

variable {Q σ β : Type}

/-- The requests whose replies the client has not received, the oldest first. -/
def outstanding (l : ClientLink Q σ) : List (NumberedRequest Q) :=
  l.replies.filterMap ServerReply.request ++ l.serving.toList ++ l.requests

/-- A server takes a request that a client issues when the one before it is answered, and what it
sends answers the request that it has taken. -/
structure AnswersInTurn (server : SessionServer σ β) (client : ProtocolClient Q)
    (mayAnswer : Q → List UInt8 → Prop) (Serves : Option Q → σ → Prop) : Prop where
  receive : ∀ o q s s', Serves o s → client.issues q = true →
    server.receive (client.request q) s = some s' → o = none ∧ Serves (some q) s'
  quiet : ∀ o b s s', Serves o s → server.step b s = some (s', none) → Serves o s'
  reply : ∀ o b s s' bytes, Serves o s → server.step b s = some (s', some bytes) →
    ∃ q, o = some q ∧ mayAnswer q bytes ∧ Serves none s'

/-- A client does not take a reply to `asked` for one to `query`. -/
def TellsApart (client : ProtocolClient Q) (mayAnswer : Q → List UInt8 → Prop) (asked query : Q) :
    Prop :=
  ∀ bytes, mayAnswer asked bytes → client.result query bytes ≠ .success

/-- When a request is sent, the oldest one outstanding is told apart from it. -/
def SendsApart (apart : Q → Q → Prop) (l : ClientLink Q σ) : ClientLinkAction Q β → Prop
  | .send answer => answer = .success →
    ∀ c ∈ l.call, ∀ x ∈ (outstanding l).head?, apart x.query c.request.query
  | _ => True

instance (apart : Q → Q → Prop) [DecidableRel apart] (l : ClientLink Q σ) :
    (a : ClientLinkAction Q β) → Decidable (SendsApart apart l a)
  | .send answer => inferInstanceAs (Decidable (answer = .success → _))
  | .call _ | .receive | .receiveFailure _ | .serverReceive | .server _ => .isTrue trivial

theorem SendsApart.mono {apart apart' : Q → Q → Prop} {l : ClientLink Q σ}
    {a : ClientLinkAction Q β} (h : SendsApart apart l a)
    (himp : ∀ asked query, apart asked query → apart' asked query) : SendsApart apart' l a := by
  cases a with
  | send answer => exact fun hsuccess c hc x hx => himp _ _ (h hsuccess c hc x hx)
  | _ => trivial

/-- A call that succeeded took the reply to its own request. -/
def OwnReply (x : Returned Q) : Prop :=
  x.result = .success → ∃ reply, x.reply = some reply ∧ reply.request = some x.request

section Run

variable {server : SessionServer σ β} {client : ProtocolClient Q}
  {mayAnswer : Q → List UInt8 → Prop} {Serves : Option Q → σ → Prop}
  {l l' : ClientLink Q σ} {out : Option (Returned Q)}

/-- The requests are answered in turn, and the oldest is not taken for a later one. -/
structure Orderly (client : ProtocolClient Q) (mayAnswer : Q → List UInt8 → Prop)
    (Serves : Option Q → σ → Prop) (l : ClientLink Q σ) : Prop where
  calls : ∀ c, l.call = some c → client.issues c.request.query = true
  requests : ∀ x ∈ l.requests, client.issues x.query = true
  serves : Serves (l.serving.map NumberedRequest.query) l.server
  replies : ∀ reply ∈ l.replies, ∃ x, reply.request = some x ∧ mayAnswer x.query reply.bytes
  waiting : ∀ c, l.call = some c → c.sent = true → ∃ x, (outstanding l).head? = some x ∧
    (x = c.request ∨ TellsApart client mayAnswer x.query c.request.query)

theorem Orderly.setCall (h : Orderly client mayAnswer Serves l) {call : Option (TransactCall Q)}
    (hcall : ∀ c, call = some c → client.issues c.request.query = true ∧ c.sent = false) :
    Orderly client mayAnswer Serves { l with call := call } := by
  refine ⟨fun c hc => (hcall c hc).1, h.requests, h.serves, h.replies, fun c hc hsent => ?_⟩
  rw [(hcall c hc).2] at hsent
  cases hsent

theorem Orderly.tryAgain (h : Orderly client mayAnswer Serves l) {c : TransactCall Q}
    (hc : l.call = some c) {answer : Result} (hanswer : answer ≠ .success)
    (hstep : l.tryAgain client c answer = (l', out)) :
    Orderly client mayAnswer Serves l' ∧ ∀ x, out = some x → OwnReply x := by
  rw [ClientLink.tryAgain] at hstep
  split at hstep <;> cases hstep
  · refine ⟨⟨fun c' hc' => ?_, h.requests, h.serves, h.replies, fun c' hc' hsent => ?_⟩, nofun⟩
    · obtain rfl := Option.some.inj hc'
      exact h.calls c hc
    · obtain rfl := Option.some.inj hc'
      exact h.waiting c hc hsent
  · refine ⟨h.setCall nofun, fun x hx => ?_⟩
    cases hx
    exact fun hsuccess => absurd hsuccess hanswer

theorem outstanding_send (l : ClientLink Q σ) (call : Option (TransactCall Q))
    (x : NumberedRequest Q) :
    outstanding { l with call := call, requests := l.requests ++ [x] } = outstanding l ++ [x] :=
  (List.append_assoc _ _ _).symm

theorem Orderly.send (h : Orderly client mayAnswer Serves l) {c : TransactCall Q}
    (hc : l.call = some c) {answer : Result}
    (hapart : SendsApart (TellsApart client mayAnswer) l (.send answer : ClientLinkAction Q β))
    (hstep : l.send client c answer = (l', out)) :
    Orderly client mayAnswer Serves l' ∧ ∀ x, out = some x → OwnReply x := by
  rw [ClientLink.send] at hstep
  split at hstep
  · rename_i hsuccess
    cases hstep
    refine ⟨⟨fun c' hc' => ?_, fun x hx => ?_, h.serves, h.replies, fun c' hc' _ => ?_⟩, nofun⟩
    · obtain rfl := Option.some.inj hc'
      exact h.calls c hc
    · rcases List.mem_append.mp hx with hx | hx
      · exact h.requests x hx
      · obtain rfl := List.mem_singleton.mp hx
        exact h.calls c hc
    obtain rfl := Option.some.inj hc'
    rw [outstanding_send]
    cases hhead : (outstanding l).head? with
    | none =>
      rw [List.head?_eq_none_iff.mp hhead]
      exact ⟨c.request, rfl, .inl rfl⟩
    | some x =>
      refine ⟨x, ?_, .inr (hapart hsuccess c hc x hhead)⟩
      rw [List.head?_append, hhead]
      rfl
  · rename_i hfailure
    exact h.tryAgain hc hfailure hstep

theorem Orderly.receive (h : Orderly client mayAnswer Serves l) {c : TransactCall Q}
    (hc : l.call = some c) (hsent : c.sent = true) {reply : ServerReply Q}
    {replies : List (ServerReply Q)} (hreplies : l.replies = reply :: replies)
    (hstep : l.receive client c reply replies = (l', out)) :
    Orderly client mayAnswer Serves l' ∧ ∀ x, out = some x → OwnReply x := by
  rw [ClientLink.receive] at hstep
  split at hstep
  · cases hstep
    have hmem : ∀ x ∈ replies, x ∈ l.replies := by
      intro x hx
      rw [hreplies]
      exact List.mem_cons_of_mem _ hx
    refine ⟨⟨nofun, h.requests, h.serves, fun x hx => h.replies x (hmem x hx), nofun⟩,
      fun x hx => ?_⟩
    cases hx
    intro hsuccess
    obtain ⟨x, hx, hanswers⟩ := h.replies reply (by rw [hreplies]; exact List.mem_cons_self)
    obtain ⟨y, hhead, hy⟩ := h.waiting c hc hsent
    have hxy : (outstanding l).head? = some x := by
      rw [outstanding, hreplies, List.filterMap_cons, hx]
      rfl
    obtain rfl : x = y := Option.some.inj (hxy.symm.trans hhead)
    rcases hy with rfl | hapart
    · exact ⟨reply, rfl, hx⟩
    · exact absurd hsuccess (hapart reply.bytes hanswers)
  · have hfailure : Result.insufficientMemory ≠ .success := nofun
    exact h.tryAgain hc hfailure hstep

theorem Orderly.sameOutstanding (h : Orderly client mayAnswer Serves l) (l' : ClientLink Q σ)
    (hrequests : ∀ x ∈ l'.requests, x ∈ l.requests)
    (hserves : Serves (l'.serving.map NumberedRequest.query) l'.server)
    (hreplies : ∀ reply ∈ l'.replies, ∃ x, reply.request = some x ∧
      mayAnswer x.query reply.bytes)
    (hcall : l'.call = l.call) (hsame : outstanding l' = outstanding l) :
    Orderly client mayAnswer Serves l' := by
  refine ⟨fun c hc => ?_, fun x hx => h.requests x (hrequests x hx), hserves, hreplies,
    fun c hc hsent => ?_⟩
  · rw [hcall] at hc
    exact h.calls c hc
  · rw [hsame]
    rw [hcall] at hc
    exact h.waiting c hc hsent

theorem Orderly.serverReceive (hserver : AnswersInTurn server client mayAnswer Serves)
    (h : Orderly client mayAnswer Serves l) {request : NumberedRequest Q}
    {requests : List (NumberedRequest Q)} (hrequests : l.requests = request :: requests)
    (hstep : l.serverReceive server client request requests = some l') :
    Orderly client mayAnswer Serves l' := by
  obtain ⟨s, hs, rfl⟩ := Option.map_eq_some_iff.mp hstep
  have hissued : client.issues request.query = true := by
    apply h.requests
    rw [hrequests]
    exact List.mem_cons_self
  obtain ⟨hnone, hserves⟩ := hserver.receive _ _ _ _ h.serves hissued hs
  have hserving : l.serving = none := Option.map_eq_none_iff.mp hnone
  refine h.sameOutstanding _ ?_ ?_ ?_ ?_ ?_
  · intro x hx
    rw [hrequests]
    exact List.mem_cons_of_mem _ hx
  · exact hserves
  · exact h.replies
  · rfl
  · simp only [outstanding, hserving, hrequests]
    simp

theorem Orderly.serverStep (hserver : AnswersInTurn server client mayAnswer Serves)
    (h : Orderly client mayAnswer Serves l) {b : β} {s : σ} {reply : Option (List UInt8)}
    (hstep : server.step b l.server = some (s, reply)) :
    Orderly client mayAnswer Serves ({ l with server := s }.serverSends reply) := by
  cases reply with
  | none =>
    exact h.sameOutstanding _ (fun _ => id) (hserver.quiet _ _ _ _ h.serves hstep) h.replies rfl rfl
  | some bytes =>
    obtain ⟨q, hq, hanswers, hserves⟩ := hserver.reply _ _ _ _ _ h.serves hstep
    obtain ⟨x, hx, rfl⟩ := Option.map_eq_some_iff.mp hq
    refine h.sameOutstanding _ (fun _ => id) hserves (fun reply hreply => ?_) rfl ?_
    · rcases List.mem_append.mp hreply with hreply | hreply
      · exact h.replies reply hreply
      · obtain rfl := List.mem_singleton.mp hreply
        exact ⟨x, hx, hanswers⟩
    · simp only [outstanding, ClientLink.serverSends, hx]
      simp

/-- A client that waits gets the reply to its own request. -/
theorem Orderly.step (hserver : AnswersInTurn server client mayAnswer Serves)
    (h : Orderly client mayAnswer Serves l) {a : ClientLinkAction Q β}
    (hapart : SendsApart (TellsApart client mayAnswer) l a)
    (hstep : l.step server client a = some (l', out)) :
    Orderly client mayAnswer Serves l' ∧ ∀ x, out = some x → OwnReply x := by
  cases a with
  | call query =>
    obtain ⟨hissued, ⟨⟩⟩ := Option.ite_none_right_eq_some.mp hstep
    have hcall : ∀ c, (l.startCall query).call = some c →
        client.issues c.request.query = true ∧ c.sent = false := by
      rintro c ⟨⟩
      exact ⟨hissued.2, rfl⟩
    have hset := h.setCall hcall
    exact ⟨⟨hset.calls, hset.requests, hset.serves, hset.replies, hset.waiting⟩, nofun⟩
  | send answer =>
    simp only [ClientLink.step] at hstep
    split at hstep
    · rename_i c hc
      split at hstep
      · cases hstep
      · exact h.send hc hapart (Option.some.inj hstep)
    · cases hstep
  | receive =>
    simp only [ClientLink.step] at hstep
    split at hstep
    · rename_i c reply replies hc hreplies
      split at hstep
      · rename_i hsent
        exact h.receive hc hsent hreplies (Option.some.inj hstep)
      · cases hstep
    · cases hstep
  | receiveFailure answer =>
    simp only [ClientLink.step] at hstep
    split at hstep
    · rename_i c hc
      split at hstep
      · rename_i hanswer
        exact h.tryAgain hc hanswer.2 (Option.some.inj hstep)
      · cases hstep
    · cases hstep
  | serverReceive =>
    simp only [ClientLink.step] at hstep
    split at hstep
    · rename_i request requests hrequests
      obtain ⟨l'', hl'', heq⟩ := Option.map_eq_some_iff.mp hstep
      cases heq
      exact ⟨h.serverReceive hserver hrequests hl'', nofun⟩
    · cases hstep
  | server b =>
    obtain ⟨x, hx, heq⟩ := Option.map_eq_some_iff.mp hstep
    cases heq
    exact ⟨h.serverStep hserver hx, nofun⟩

theorem orderly_init {established : σ → Prop} (hstart : ∀ s, established s → Serves none s)
    (h : (clientLinkMachine server client established).init l) :
    Orderly client mayAnswer Serves l := by
  obtain ⟨s, hs, rfl⟩ := h
  exact ⟨nofun, nofun, hstart s hs, nofun, nofun⟩

theorem ownReply_of_trace (hserver : AnswersInTurn server client mayAnswer Serves)
    {established : σ → Prop} (hstart : ∀ s, established s → Serves none s)
    {tr : List (ClientLink Q σ × ClientLinkAction Q β × Option (Returned Q))}
    (hinit : (clientLinkMachine server client established).init l)
    (htrace : (clientLinkMachine server client established).Trace l tr l')
    (hapart : ∀ x ∈ tr, SendsApart (TellsApart client mayAnswer) x.1 x.2.1) :
    ∀ x ∈ tr, ∀ returned, x.2.2 = some returned → OwnReply returned := by
  intro x hx returned hreturned
  have hall := htrace.invariant_of_mem (P := Orderly client mayAnswer Serves)
    (C := SendsApart (TellsApart client mayAnswer)) (orderly_init hstart hinit) hapart
    (fun s t a o hs hc hstep => (hs.step hserver hc hstep).1) hx
  obtain ⟨horderly, hc, v, hstep⟩ := hall
  exact (horderly.step hserver hc hstep).2 returned hreturned

end Run

end DevDriver.Analysis
