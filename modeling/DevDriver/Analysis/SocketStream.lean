import DevDriver.Model.Socket

/-!
# A socket as a stream of bytes

The unread bytes of a socket are those in its cache and those of the payloads its session has still
to hand over.
-/

namespace DevDriver.Analysis

open Library Model

def unread (c : ClientSocketContext) (answers : List ReceiveAnswer) : List UInt8 :=
  c.cached ++ payloadBytes answers

structure CacheValid (c : ClientSocketContext) : Prop where
  length : c.payloadCache.length = kMaxPayloadSizeInBytes
  within : c.payloadCacheOffset + c.payloadCacheSize ≤ c.payloadCache.length

variable {c : ClientSocketContext}

theorem CacheValid.length_cached (h : CacheValid c) :
    c.cached.length = c.payloadCacheSize := length_slice h.within

theorem cached_of_size (h : c.payloadCacheSize = 0) : c.cached = [] := by
  rw [ClientSocketContext.cached, h, slice_zero]

theorem devDriverToDDResult_ne {r : Result} (h : r ≠ .success) :
    devDriverToDDResult r ≠ .success := by
  cases r with
  | success => exact absurd rfl h
  | code _ => exact (by decide : DDResult.unknown ≠ .success)
  | _ => decide

theorem devDriverToDDResult_notReady {r : Result} :
    devDriverToDDResult r = .genericNotReady ↔ r = .notReady := by
  cases r <;> simp [devDriverToDDResult] <;> decide

@[simp]
theorem payloadBytes_nil : payloadBytes [] = [] := rfl

@[simp]
theorem payloadBytes_payload (p : SessionPayload) (answers : List ReceiveAnswer) :
    payloadBytes (.payload p :: answers) = p.1 ++ payloadBytes answers := rfl

@[simp]
theorem payloadBytes_failure (r : Result) (h : r ≠ .success) (answers : List ReceiveAnswer) :
    payloadBytes (.failure r h :: answers) = payloadBytes answers := rfl

structure ServedCached (buffer : List UInt8) (c : ClientSocketContext)
    (r : ClientSocketContext × List UInt8 × ℕ) : Prop where
  valid : CacheValid r.1
  length : r.2.1.length = buffer.length
  bytesReceived : r.2.2 = min buffer.length c.payloadCacheSize
  size : r.1.payloadCacheSize = c.payloadCacheSize - r.2.2
  cached : c.cached = r.2.1.take r.2.2 ++ r.1.cached

theorem servedCached (hc : CacheValid c) (buffer : List UInt8) :
    ServedCached buffer c (receiveCached buffer c) := by
  unfold receiveCached
  split
  · rename_i h
    obtain ⟨n, hn⟩ : ∃ n, n = min buffer.length c.payloadCacheSize := ⟨_, rfl⟩
    have hwithin := hc.within
    have hlength : (slice c.payloadCache c.payloadCacheOffset n).length = n :=
      length_slice (by omega)
    have htake := take_overwrite (Nat.zero_le buffer.length)
      (slice c.payloadCache c.payloadCacheOffset n)
    rw [hlength, Nat.zero_add, List.take_zero, List.nil_append] at htake
    rw [← hn]
    refine ⟨⟨hc.length, ?_⟩, length_overwrite ?_, hn, rfl, ?_⟩
    · show c.payloadCacheOffset + n + (c.payloadCacheSize - n) ≤ c.payloadCache.length
      omega
    · rw [hlength]
      omega
    · rw [htake]
      show slice _ _ c.payloadCacheSize =
        _ ++ slice _ (c.payloadCacheOffset + n) (c.payloadCacheSize - n)
      rw [← slice_add, Nat.add_sub_cancel' (by omega)]
  · rename_i h
    refine ⟨hc, rfl, ?_, rfl, rfl⟩
    rw [not_and_or] at h
    show 0 = _
    omega

variable {buffer : List UInt8}

theorem receiveThroughCache_spec (p : SessionPayload) {bytesReceived : ℕ} (hc : CacheValid c)
    (hsize : c.payloadCacheSize = 0) (hroom : bytesReceived ≤ buffer.length) :
    CacheValid (receiveThroughCache p buffer bytesReceived c).1 ∧
      (receiveThroughCache p buffer bytesReceived c).2.1.length = buffer.length ∧
      (receiveThroughCache p buffer bytesReceived c).2.2 =
        bytesReceived + min (buffer.length - bytesReceived) p.1.length ∧
      (receiveThroughCache p buffer bytesReceived c).1.payloadCacheSize =
        p.1.length - (buffer.length - bytesReceived) ∧
      (receiveThroughCache p buffer bytesReceived c).2.1.take
          (receiveThroughCache p buffer bytesReceived c).2.2 ++
        (receiveThroughCache p buffer bytesReceived c).1.cached =
        buffer.take bytesReceived ++ p.1 := by
  obtain ⟨n, hn⟩ : ∃ n, n = min (buffer.length - bytesReceived) p.1.length := ⟨_, rfl⟩
  have hfit : 0 + p.1.length ≤ c.payloadCache.length := by
    rw [hc.length, Nat.zero_add]
    exact p.2
  have hcache : (overwrite c.payloadCache 0 p.1).length = c.payloadCache.length :=
    length_overwrite hfit
  -- the front of the cache is the payload
  have hfront : (overwrite c.payloadCache 0 p.1).take p.1.length = p.1 := by
    have h := take_overwrite (Nat.zero_le c.payloadCache.length) p.1
    rwa [Nat.zero_add, List.take_zero, List.nil_append] at h
  have hcopied : ((overwrite c.payloadCache 0 p.1).take n).length = n := by
    rw [List.length_take, hcache]
    omega
  have hrest : (overwrite c.payloadCache 0 p.1).take n ++
      slice (overwrite c.payloadCache 0 p.1) n (p.1.length - n) = p.1 := by
    have h := slice_add (overwrite c.payloadCache 0 p.1) 0 n (p.1.length - n)
    rw [Nat.zero_add, Nat.add_sub_cancel' (by omega)] at h
    exact h.symm.trans hfront
  simp only [receiveThroughCache, hsize, Nat.zero_add, ← hn]
  refine ⟨⟨hcache.trans hc.length, ?_⟩, ?_, trivial, ?_, ?_⟩
  · show n + (p.1.length - n) ≤ _
    rw [hcache]
    omega
  · apply length_overwrite
    rw [hcopied]
    omega
  · show p.1.length - n = _
    omega
  · have htake := take_overwrite hroom ((overwrite c.payloadCache 0 p.1).take n)
    rw [hcopied] at htake
    rw [htake, List.append_assoc]
    exact congrArg _ hrest

/-! ## A raw call -/

/-- What a raw receive did. -/
inductive RawOutcome (answers : List ReceiveAnswer) (buffer : List UInt8)
    (c : ClientSocketContext) (r : SocketReceive) : Prop where
  | success (hresult : r.result = .success) (hbytes : r.bytesReceived ≤ buffer.length)
      (hempty : r.bytesReceived < buffer.length → r.context.payloadCacheSize = 0)
      (hcached : c.payloadCacheSize < buffer.length → ∃ p, answers = .payload p :: r.answers ∧
        r.bytesReceived = min buffer.length (c.payloadCacheSize + p.1.length))
      (hfull : buffer.length ≤ c.payloadCacheSize →
        r.answers = answers ∧ r.bytesReceived = buffer.length)
      (hunread : unread c answers =
        r.buffer.take r.bytesReceived ++ unread r.context r.answers)
  | failure (f : Result) (hf : f ≠ .success) (hanswers : answers = .failure f hf :: r.answers)
      (hresult : r.result = devDriverToDDResult f)
      (hcached : c.payloadCacheSize < buffer.length)
      (hempty : r.context.payloadCacheSize = 0)

variable {answers : List ReceiveAnswer} {r : SocketReceive}

/-- The cached bytes come first; a call that fails keeps none of them. -/
theorem ddSocketReceiveRaw_outcome (hc : CacheValid c)
    (h : ddSocketReceiveRaw answers buffer c = some r) :
    CacheValid r.context ∧ r.buffer.length = buffer.length ∧
      RawOutcome answers buffer c r := by
  unfold ddSocketReceiveRaw at h
  obtain ⟨⟨c₁, buffer₁, bytesReceived⟩, hserved⟩ :
    ∃ x, x = receiveCached buffer c := ⟨_, rfl⟩
  have hspec := servedCached hc buffer
  rw [← hserved] at h hspec
  obtain ⟨hvalid, hlength, hbytes, hsize, hcached⟩ := hspec
  simp only at h hvalid hlength hbytes hsize hcached
  have hunread : unread c answers =
      buffer₁.take bytesReceived ++ (c₁.cached ++ payloadBytes answers) := by
    rw [unread, hcached, List.append_assoc]
  split at h
  · -- the rest of the buffer has room for any payload
    rename_i hroom
    have hless : c.payloadCacheSize < buffer.length := by
      have : 0 < kMaxPayloadSizeInBytes := by decide
      omega
    have hempty : c₁.payloadCacheSize = 0 := by omega
    have hnone := cached_of_size hempty
    cases answers with
    | nil => cases h
    | cons a answers =>
      cases a with
      | failure f hf =>
        cases h
        exact ⟨hvalid, hlength, .failure f hf rfl rfl hless hempty⟩
      | payload p =>
        cases h
        have hfit : bytesReceived + p.1.length ≤ buffer₁.length := by omega
        refine ⟨hvalid, (length_overwrite hfit).trans hlength, .success rfl ?_ ?_ ?_ ?_ ?_⟩
        · show bytesReceived + p.1.length ≤ buffer.length
          omega
        · intro _
          exact hempty
        · intro _
          refine ⟨p, rfl, ?_⟩
          show bytesReceived + p.1.length = _
          omega
        · intro hfull
          omega
        · show _ = (overwrite _ _ _).take (bytesReceived + p.1.length) ++ _
          rw [hunread, take_overwrite (by omega) p.1, unread, hnone, payloadBytes_payload,
            List.append_assoc]
          rfl
  · split at h
    · -- the payload goes through the cache
      rename_i hsmall hroom
      have hless : c.payloadCacheSize < buffer.length := by omega
      have hempty : c₁.payloadCacheSize = 0 := by omega
      have hnone := cached_of_size hempty
      cases answers with
      | nil => cases h
      | cons a answers =>
        cases a with
        | failure f hf =>
          cases h
          exact ⟨hvalid, hlength, .failure f hf rfl rfl hless hempty⟩
        | payload p =>
          have hthrough := receiveThroughCache_spec p hvalid hempty
            (show bytesReceived ≤ buffer₁.length by omega)
          obtain ⟨⟨c₂, buffer₂, received₂⟩, hx⟩ :
            ∃ x, x = receiveThroughCache p buffer₁ bytesReceived c₁ := ⟨_, rfl⟩
          rw [← hx] at hthrough
          simp only [← hx] at h
          cases h
          obtain ⟨hvalid₂, hlength₂, hreceived, hsize₂, hbytes₂⟩ := hthrough
          simp only at hvalid₂ hlength₂ hreceived hsize₂ hbytes₂
          refine ⟨hvalid₂, hlength₂.trans hlength, .success rfl ?_ ?_ ?_ ?_ ?_⟩
          · show received₂ ≤ _
            omega
          · show received₂ < _ → c₂.payloadCacheSize = 0
            omega
          · intro _
            refine ⟨p, rfl, ?_⟩
            show received₂ = _
            omega
          · intro hfull
            omega
          · show _ = buffer₂.take received₂ ++ (c₂.cached ++ payloadBytes answers)
            rw [hunread, hnone, payloadBytes_payload, List.nil_append, ← List.append_assoc,
              ← hbytes₂, List.append_assoc]
    · -- the cached bytes fill the buffer
      rename_i hroom
      cases h
      refine ⟨hvalid, hlength, .success rfl ?_ ?_ ?_ ?_ hunread⟩
      · show bytesReceived ≤ _
        omega
      · show bytesReceived < _ → _
        omega
      · intro hless
        omega
      · intro _
        refine ⟨rfl, ?_⟩
        show bytesReceived = _
        omega

/-! ## A call with a timeout -/

/-- The bytes that the session hands over before the failure at which a call with some retries
left gives up, when there is one: the first failure that is no timeout, or the timeout at which
no retry is left. -/
def bytesBeforeFailure : ℕ → List ReceiveAnswer → Option ℕ
  | _, [] => none
  | retries, .payload p :: answers => (bytesBeforeFailure retries answers).map (p.1.length + ·)
  | 0, .failure _ _ :: _ => some 0
  | retries + 1, .failure r _ :: answers =>
    if r = .notReady then bytesBeforeFailure retries answers else some 0

/-- What the loop has done when it started with an empty cache or a full buffer: all the bytes
it took are in the buffer, and it fails where the session's answers make it give up. -/
structure LoopOutcome (retryCount filled : ℕ) (answers : List ReceiveAnswer)
    (buffer : List UInt8) (c : ClientSocketContext) (r : SocketReceive) : Prop where
  valid : CacheValid r.context
  start : filled ≤ r.bytesReceived
  bound : r.bytesReceived ≤ buffer.length
  length : r.buffer.length = buffer.length
  bytes : buffer.take filled ++ unread c answers =
    r.buffer.take r.bytesReceived ++ unread r.context r.answers
  success : r.result = .success → r.bytesReceived = buffer.length ∧
    ∀ n ∈ bytesBeforeFailure (kMaxRetryCount - retryCount) answers, buffer.length ≤ filled + n
  failure : r.result ≠ .success → r.bytesReceived < buffer.length ∧
    bytesBeforeFailure (kMaxRetryCount - retryCount) answers = some (r.bytesReceived - filled)

variable {call : ReceiveCall} {retryCount : ℕ}

theorem bytesBeforeFailure_retry (h : retryCount < kMaxRetryCount) (hf : Result.notReady ≠ .success)
    (answers : List ReceiveAnswer) :
    bytesBeforeFailure (kMaxRetryCount - retryCount) (.failure .notReady hf :: answers) =
      bytesBeforeFailure (kMaxRetryCount - (retryCount + 1)) answers := by
  obtain ⟨n, hn⟩ : ∃ n, kMaxRetryCount - retryCount = n + 1 :=
    ⟨kMaxRetryCount - retryCount - 1, by omega⟩
  rw [hn, show kMaxRetryCount - (retryCount + 1) = n by omega, bytesBeforeFailure, if_pos rfl]

theorem bytesBeforeFailure_giveUp {f : Result} (hf : f ≠ .success)
    (h : ¬ (f = .notReady ∧ retryCount < kMaxRetryCount)) (answers : List ReceiveAnswer) :
    bytesBeforeFailure (kMaxRetryCount - retryCount) (.failure f hf :: answers) = some 0 := by
  cases hn : kMaxRetryCount - retryCount with
  | zero => rfl
  | succ n =>
    have hne : f ≠ .notReady := by
      intro hready
      exact h ⟨hready, by omega⟩
    rw [bytesBeforeFailure, if_neg hne]

/-- By induction on the rounds: the loop gathers the unread bytes in order. -/
theorem receiveLoop_outcome {rounds filled : ℕ} (hc : CacheValid c)
    (hfilled : filled ≤ buffer.length) (hempty : filled < buffer.length → c.payloadCacheSize = 0)
    (h : receiveLoop rounds retryCount filled answers buffer c = some r) :
    LoopOutcome retryCount filled answers buffer c r := by
  induction rounds generalizing retryCount filled answers buffer c with
  | zero => cases h
  | succ rounds ih =>
    rw [receiveLoop] at h
    split at h
    · -- the buffer is full
      rename_i hfull
      cases h
      refine ⟨hc, le_rfl, hfilled, rfl, rfl, ?_, ?_⟩
      · intro _
        refine ⟨Nat.le_antisymm hfilled hfull, ?_⟩
        intro n _
        omega
      · intro hne
        exact absurd rfl hne
    · rename_i hroom
      have hless : filled < buffer.length := by omega
      have hdrop : (buffer.drop filled).length = buffer.length - filled := List.length_drop
      have hnone := cached_of_size (hempty hless)
      split at h
      · cases h
      rename_i r₁ hraw
      obtain ⟨hvalid, hlength, houtcome⟩ := ddSocketReceiveRaw_outcome hc hraw
      have hbuffer : (buffer.take filled ++ r₁.buffer).length = buffer.length := by
        rw [List.length_append, List.length_take, hlength, hdrop]
        omega
      have htaken : (buffer.take filled).length = filled := by
        rw [List.length_take, Nat.min_eq_left hfilled]
      rcases houtcome with ⟨hresult, hbytes, hemptied, hcached, -, hunread⟩ |
        ⟨f, hf, hanswers, hresult, -, hemptied⟩
      · -- a payload: the bytes behind `filled` grow by what fits
        rw [if_pos hresult] at h
        rw [hdrop] at hbytes hemptied hcached
        obtain ⟨p, hanswers, hreceived⟩ := hcached (by rw [hempty hless]; omega)
        rw [hempty hless, Nat.zero_add] at hreceived
        clear hcached
        have hloop := ih hvalid (by omega) (fun hlt => hemptied (by omega)) h
        have htake : (buffer.take filled ++ r₁.buffer).take (filled + r₁.bytesReceived) =
            buffer.take filled ++ r₁.buffer.take r₁.bytesReceived := take_append_add htaken _
        refine ⟨hloop.valid, by have := hloop.start; omega, ?_, ?_, ?_, ?_, ?_⟩
        · exact hbuffer ▸ hloop.bound
        · exact hloop.length.trans hbuffer
        · rw [hunread, ← List.append_assoc, ← htake]
          exact hloop.bytes
        · intro hsuccess
          obtain ⟨hall, hmore⟩ := hloop.success hsuccess
          refine ⟨hall.trans hbuffer, fun n hn => ?_⟩
          rw [hanswers, bytesBeforeFailure] at hn
          obtain ⟨m, hm, rfl⟩ := Option.map_eq_some_iff.mp hn
          have := hmore m hm
          omega
        · intro hfailure
          obtain ⟨hshort, hgathered⟩ := hloop.failure hfailure
          have := hloop.start
          refine ⟨by omega, ?_⟩
          rw [hanswers, bytesBeforeFailure, hgathered, Option.map_some]
          congr 1
          omega
      · -- a failure: another try, or the end
        subst hanswers
        rw [hresult, if_neg (devDriverToDDResult_ne hf)] at h
        have hsame : unread c (.failure f hf :: r₁.answers) = unread r₁.context r₁.answers := by
          rw [unread, unread, hnone, cached_of_size hemptied, payloadBytes_failure]
        have htake : (buffer.take filled ++ r₁.buffer).take filled = buffer.take filled := by
          rw [List.take_append_of_le_length htaken.ge, List.take_of_length_le htaken.le]
        by_cases hretry : f = .notReady ∧ retryCount < kMaxRetryCount
        · obtain ⟨rfl, hcount⟩ := hretry
          rw [if_pos ⟨rfl, hcount⟩] at h
          have hloop := ih hvalid (hfilled.trans hbuffer.ge) (fun _ => hemptied) h
          have hanswers := bytesBeforeFailure_retry hcount hf r₁.answers
          refine ⟨hloop.valid, hloop.start, hbuffer ▸ hloop.bound, hloop.length.trans hbuffer,
            ?_, ?_, ?_⟩
          · rw [hsame, ← htake]
            exact hloop.bytes
          · intro hsuccess
            rw [hanswers, ← hbuffer]
            exact hloop.success hsuccess
          · intro hfailure
            rw [hanswers, ← hbuffer]
            exact hloop.failure hfailure
        · rw [if_neg (by rwa [devDriverToDDResult_notReady])] at h
          cases h
          refine ⟨hvalid, le_rfl, hfilled, hbuffer, ?_, ?_, ?_⟩
          · rw [hsame]
            exact congrArg (· ++ _) htake.symm
          · intro hsuccess
            exact absurd hsuccess (devDriverToDDResult_ne hf)
          · intro _
            refine ⟨hless, ?_⟩
            rw [bytesBeforeFailure_giveUp hf hretry, Nat.sub_self]

/-- The rounds the loop can take: one when the buffer is full, else two more than there are
answers. -/
def roundsNeeded (filled : ℕ) (answers : List ReceiveAnswer) (buffer : List UInt8) : ℕ :=
  if buffer.length ≤ filled then 1 else answers.length + 2

/-! ## When a call is faithful -/

def FailsNext : List ReceiveAnswer → Prop
  | .failure _ _ :: _ => True
  | _ => False

instance : (answers : List ReceiveAnswer) → Decidable (FailsNext answers)
  | [] => .isFalse id
  | .payload _ :: _ => .isFalse id
  | .failure _ _ :: _ => .isTrue trivial

/-- The call takes cached bytes and then finds the session without a payload for the rest of
the buffer. -/
def LosesCached (payloadCacheSize bufferSize : ℕ) (answers : List ReceiveAnswer) : Prop :=
  0 < payloadCacheSize ∧ payloadCacheSize < bufferSize ∧ FailsNext answers

/-- The call gives up with some bytes in the buffer and the buffer not full. -/
def LosesGathered (payloadCacheSize bufferSize : ℕ) (answers : List ReceiveAnswer) : Prop :=
  payloadCacheSize < bufferSize ∧ ∃ n ∈ bytesBeforeFailure kMaxRetryCount answers,
    0 < payloadCacheSize + n ∧ payloadCacheSize + n < bufferSize

/-- A call takes bytes from the stream that it does not report. -/
def LosesBytes (payloadCacheSize : ℕ) (answers : List ReceiveAnswer) : ReceiveCall → Prop
  | .raw buffer => LosesCached payloadCacheSize buffer.length answers
  | .withTimeout buffer => LosesCached payloadCacheSize buffer.length answers ∨
      LosesGathered payloadCacheSize buffer.length answers

instance (payloadCacheSize bufferSize : ℕ) (answers : List ReceiveAnswer) :
    Decidable (LosesCached payloadCacheSize bufferSize answers) :=
  inferInstanceAs (Decidable (_ ∧ _ ∧ _))

instance (payloadCacheSize bufferSize : ℕ) (answers : List ReceiveAnswer) :
    Decidable (LosesGathered payloadCacheSize bufferSize answers) :=
  inferInstanceAs (Decidable (_ ∧ ∃ n, n ∈ _ ∧ _))

instance (payloadCacheSize : ℕ) (answers : List ReceiveAnswer) :
    (call : ReceiveCall) → Decidable (LosesBytes payloadCacheSize answers call)
  | .raw _ => inferInstanceAs (Decidable (LosesCached _ _ _))
  | .withTimeout _ => inferInstanceAs (Decidable (LosesCached _ _ _ ∨ LosesGathered _ _ _))

theorem length_unread (hc : CacheValid c) (answers : List ReceiveAnswer) :
    (unread c answers).length = c.payloadCacheSize + (payloadBytes answers).length := by
  rw [unread, List.length_append, hc.length_cached]

theorem length_reported_le (r : SocketReceive) : r.reported.length ≤ r.bytesReceived := by
  unfold SocketReceive.reported
  split
  · exact List.length_take_le _ _
  · exact Nat.zero_le _

theorem raw_faithful_iff (hc : CacheValid c) (h : ddSocketReceiveRaw answers buffer c = some r) :
    r.reported ++ unread r.context r.answers = unread c answers ↔
      ¬ LosesCached c.payloadCacheSize buffer.length answers := by
  obtain ⟨hvalid, -, houtcome⟩ := ddSocketReceiveRaw_outcome hc h
  rcases houtcome with ⟨hresult, -, -, hcached, -, hunread⟩ | ⟨f, hf, rfl, hresult, hless, hempty⟩
  · rw [SocketReceive.reported, if_pos hresult, hunread]
    refine ⟨fun _ hloses => ?_, fun _ => rfl⟩
    obtain ⟨-, hless, hfails⟩ := hloses
    obtain ⟨p, hanswers, -⟩ := hcached hless
    rw [hanswers] at hfails
    exact hfails
  · have hfailed : r.result ≠ .success := hresult ▸ devDriverToDDResult_ne hf
    rw [SocketReceive.reported, if_neg hfailed, List.nil_append]
    have hafter := length_unread hvalid r.answers
    have hbefore := length_unread hc (.failure f hf :: r.answers)
    rw [payloadBytes_failure] at hbefore
    constructor
    · rintro heq ⟨hpos, -, -⟩
      rw [heq] at hafter
      omega
    · intro hkept
      have hzero : c.payloadCacheSize = 0 := by
        by_contra hne
        exact hkept ⟨Nat.pos_of_ne_zero hne, hless, trivial⟩
      rw [unread, unread, cached_of_size hempty, cached_of_size hzero, payloadBytes_failure]

/-- What a call with a timeout has done: it lost the cached bytes, or all it took is in the
buffer. -/
inductive TimeoutOutcome (answers : List ReceiveAnswer) (buffer : List UInt8)
    (c : ClientSocketContext) (r : SocketReceive) : Prop where
  | lost (hlost : LosesCached c.payloadCacheSize buffer.length answers)
      (hfewer : r.bytesReceived + (unread r.context r.answers).length <
        (unread c answers).length)
  | kept (hkept : ¬ LosesCached c.payloadCacheSize buffer.length answers)
      (hunread : unread c answers =
        r.buffer.take r.bytesReceived ++ unread r.context r.answers)
      (hlength : r.bytesReceived ≤ r.buffer.length)
      (hsuccess : r.result = .success → buffer.length ≤ c.payloadCacheSize ∨
        ∀ n ∈ bytesBeforeFailure kMaxRetryCount answers, buffer.length ≤ c.payloadCacheSize + n)
      (hfailure : r.result ≠ .success → c.payloadCacheSize < buffer.length ∧
        ∃ n ∈ bytesBeforeFailure kMaxRetryCount answers,
          r.bytesReceived = c.payloadCacheSize + n ∧ r.bytesReceived < buffer.length)

theorem LoopOutcome.timeoutOutcome (h : LoopOutcome 0 0 answers buffer c r)
    (hempty : 0 < buffer.length → c.payloadCacheSize = 0) :
    TimeoutOutcome answers buffer c r := by
  refine .kept ?_ h.bytes (h.bound.trans h.length.ge) ?_ ?_
  · rintro ⟨hpos, hless, -⟩
    have := hempty (by omega)
    omega
  · intro hsuccess
    refine .inr fun n hn => ?_
    have := (h.success hsuccess).2 n hn
    omega
  · intro hfailure
    obtain ⟨hshort, hgathered⟩ := h.failure hfailure
    have hzero := hempty (by omega)
    exact ⟨by omega, _, hgathered, by omega, hshort⟩

/-- What a call with a timeout hands out, and what it loses. -/
theorem ddSocketReceiveWithTimeout_outcome (hc : CacheValid c)
    (h : ddSocketReceiveWithTimeout answers buffer c = some r) :
    CacheValid r.context ∧ TimeoutOutcome answers buffer c r := by
  by_cases hempty : 0 < buffer.length → c.payloadCacheSize = 0
  · have hloop := receiveLoop_outcome hc (Nat.zero_le _) hempty h
    exact ⟨hloop.valid, hloop.timeoutOutcome hempty⟩
  · -- the first round starts with cached bytes
    obtain ⟨hroom, hcached⟩ : 0 < buffer.length ∧ 0 < c.payloadCacheSize := by omega
    rw [ddSocketReceiveWithTimeout, receiveLoop, if_neg (by omega)] at h
    split at h
    · cases h
    rename_i r₁ hraw
    rw [List.drop_zero] at hraw
    obtain ⟨hvalid, hlength, houtcome⟩ := ddSocketReceiveRaw_outcome hc hraw
    rw [List.take_zero, List.nil_append] at h
    rcases houtcome with ⟨hresult, hbytes, hemptied, htook, hfull, hunread⟩ |
      ⟨f, hf, rfl, hresult, hless, hemptied⟩
    · rw [if_pos hresult, Nat.zero_add] at h
      have hloop := receiveLoop_outcome hvalid (hbytes.trans hlength.ge)
        (fun hlt => hemptied (hlength ▸ hlt)) h
      have hstart := hloop.start
      have hbound := hloop.bound
      refine ⟨hloop.valid, .kept ?_ (hunread.trans hloop.bytes) ?_ ?_ ?_⟩
      · rintro ⟨-, hless, hfails⟩
        obtain ⟨p, hanswers, -⟩ := htook hless
        rw [hanswers] at hfails
        exact hfails
      · exact hbound.trans hloop.length.ge
      · intro hsuccess
        by_cases hless : c.payloadCacheSize < buffer.length
        · obtain ⟨p, hanswers, hreceived⟩ := htook hless
          refine .inr fun n hn => ?_
          rw [hanswers, bytesBeforeFailure] at hn
          obtain ⟨m, hm, rfl⟩ := Option.map_eq_some_iff.mp hn
          have := (hloop.success hsuccess).2 m hm
          rw [hlength] at this
          omega
        · exact .inl (Nat.le_of_not_lt hless)
      · intro hfailure
        obtain ⟨hshort, hgathered⟩ := hloop.failure hfailure
        rw [hlength] at hshort
        have hless : c.payloadCacheSize < buffer.length := by
          by_contra hge
          have := (hfull (Nat.le_of_not_lt hge)).2
          omega
        obtain ⟨p, hanswers, hreceived⟩ := htook hless
        have hp : r₁.bytesReceived = c.payloadCacheSize + p.1.length := by omega
        refine ⟨hless, p.1.length + (r.bytesReceived - r₁.bytesReceived), ?_, by omega, hshort⟩
        rw [hanswers, bytesBeforeFailure, show bytesBeforeFailure kMaxRetryCount r₁.answers = _
          from hgathered]
        rfl
    · have hlost : LosesCached c.payloadCacheSize buffer.length (.failure f hf :: r₁.answers) :=
        ⟨hcached, hless, trivial⟩
      have hbefore := length_unread hc (.failure f hf :: r₁.answers)
      have hafter := length_unread hvalid r₁.answers
      rw [payloadBytes_failure] at hbefore
      rw [hresult, if_neg (devDriverToDDResult_ne hf)] at h
      split at h
      · have hloop := receiveLoop_outcome hvalid (Nat.zero_le _) (fun _ => hemptied) h
        have hbytes := congrArg List.length hloop.bytes
        rw [List.take_zero, List.nil_append, List.length_append, List.length_take,
          Nat.min_eq_left (hloop.bound.trans hloop.length.ge)] at hbytes
        exact ⟨hloop.valid, .lost hlost (by omega)⟩
      · cases h
        refine ⟨hvalid, .lost hlost ?_⟩
        show 0 + (unread r₁.context r₁.answers).length < _
        omega

theorem timeout_faithful_iff (hc : CacheValid c)
    (h : ddSocketReceiveWithTimeout answers buffer c = some r) :
    r.reported ++ unread r.context r.answers = unread c answers ↔
      ¬ (LosesCached c.payloadCacheSize buffer.length answers ∨
        LosesGathered c.payloadCacheSize buffer.length answers) := by
  obtain ⟨-, houtcome⟩ := ddSocketReceiveWithTimeout_outcome hc h
  rcases houtcome with ⟨hlost, hfewer⟩ | ⟨hkept, hunread, hlength, hsuccess, hfailure⟩
  · refine ⟨fun heq => ?_, fun hloses => absurd (.inl hlost) hloses⟩
    have hreported := length_reported_le r
    rw [← heq, List.length_append] at hfewer
    omega
  · by_cases hresult : r.result = .success
    · rw [SocketReceive.reported, if_pos hresult, hunread]
      refine ⟨fun _ => ?_, fun _ => rfl⟩
      rintro (hlost | ⟨hless, n, hn, -, hshort⟩)
      · exact hkept hlost
      · rcases hsuccess hresult with hfull | hmore
        · omega
        · have := hmore n hn
          omega
    · obtain ⟨hless, n, hn, hreceived, hshort⟩ := hfailure hresult
      rw [SocketReceive.reported, if_neg hresult, List.nil_append, hunread]
      constructor
      · rintro heq (hlost | ⟨-, m, hm, hpos, -⟩)
        · exact hkept hlost
        · have hnone := congrArg List.length heq
          obtain rfl : n = m := Option.some.inj (hn.symm.trans hm)
          rw [List.length_append, List.length_take, Nat.min_eq_left hlength] at hnone
          omega
      · intro hfaithful
        have hzero : r.bytesReceived = 0 := by
          by_contra hne
          exact hfaithful (.inr ⟨hless, n, hn, by omega, by omega⟩)
        rw [hzero, List.take_zero, List.nil_append]

theorem perform_faithful_iff (hc : CacheValid c) (h : call.perform answers c = some r) :
    r.reported ++ unread r.context r.answers = unread c answers ↔
      ¬ LosesBytes c.payloadCacheSize answers call := by
  cases call with
  | raw buffer => exact raw_faithful_iff hc h
  | withTimeout buffer => exact timeout_faithful_iff hc h

theorem perform_valid (hc : CacheValid c) (h : call.perform answers c = some r) :
    CacheValid r.context := by
  cases call with
  | raw buffer => exact (ddSocketReceiveRaw_outcome hc h).1
  | withTimeout buffer => exact (ddSocketReceiveWithTimeout_outcome hc h).1

structure Faithful (stream : List UInt8) (s : SocketState) : Prop where
  valid : CacheValid s.context
  bytes : s.reported ++ unread s.context s.answers = stream

theorem faithful_init {s : SocketState} (h : socketMachine.init s) :
    Faithful (payloadBytes s.answers) s := by
  obtain ⟨hreported, payloadCache, hlength, hcontext⟩ := h
  refine ⟨?_, ?_⟩
  · rw [hcontext]
    exact ⟨hlength, Nat.zero_le _⟩
  · rw [hreported, hcontext]
    rfl

theorem faithful_step {stream : List UInt8} {s t : SocketState} {result : DDResult}
    (hs : Faithful stream s) (hfaithful : ¬ LosesBytes s.context.payloadCacheSize s.answers call)
    (h : socketMachine.step s call = some (t, result)) : Faithful stream t := by
  obtain ⟨r, hperform, heq⟩ := Option.map_eq_some_iff.mp h
  cases heq
  refine ⟨perform_valid hs.valid hperform, ?_⟩
  show s.reported ++ r.reported ++ unread r.context r.answers = stream
  rw [List.append_assoc, (perform_faithful_iff hs.valid hperform).mpr hfaithful]
  exact hs.bytes

/-- A socket is a faithful stream as long as no call takes bytes that it does not report: at
any time what was reported is a prefix of the bytes of the session's payloads and what is
unread is the rest, and the next call changes that if and only if it loses bytes. -/
theorem socket_faithful_stream {s t : SocketState}
    {tr : List (SocketState × ReceiveCall × DDResult)} (hs : socketMachine.init s)
    (h : socketMachine.Trace s tr t)
    (hfaithful : ∀ x ∈ tr, ¬ LosesBytes x.1.context.payloadCacheSize x.1.answers x.2.1) :
    t.reported <+: payloadBytes s.answers ∧
      t.reported ++ unread t.context t.answers = payloadBytes s.answers ∧
      ∀ call r, call.perform t.answers t.context = some r →
        (r.reported ++ unread r.context r.answers = unread t.context t.answers ↔
          ¬ LosesBytes t.context.payloadCacheSize t.answers call) := by
  have ht : Faithful (payloadBytes s.answers) t :=
    h.invariant (P := Faithful _)
      (C := fun u call => ¬ LosesBytes u.context.payloadCacheSize u.answers call)
      (faithful_init hs) hfaithful
      fun _ _ _ _ hu hcall hstep => faithful_step hu hcall hstep
  exact ⟨⟨_, ht.bytes⟩, ht.bytes, fun call r hcall => perform_faithful_iff ht.valid hcall⟩

def socketWith (answers : List ReceiveAnswer) : SocketState :=
  ⟨.new (List.replicate kMaxPayloadSizeInBytes 0), answers, []⟩

theorem init_socketWith (answers : List ReceiveAnswer) :
    socketMachine.init (socketWith answers) :=
  ⟨rfl, _, List.length_replicate, rfl⟩

def timeoutBetween : List ReceiveAnswer :=
  [.payload ⟨[1, 2], by decide⟩, .notReady, .payload ⟨[3], by decide⟩]

def timeoutHarmless : List ReceiveCall := [.raw [0], .raw [0], .raw [0], .withTimeout [0]]

def timeoutLosesByte : List ReceiveCall := [.raw [0], .raw [0, 0], .raw [0]]

theorem socket_faithful_stream_timeout :
    ∃ t, socketMachine.run (socketWith timeoutBetween) timeoutHarmless = some t ∧
      t.reported = [1, 2, 3] ∧ t.reported <+: payloadBytes timeoutBetween := by
  obtain ⟨t, ht, hreported⟩ :=
    socketMachine.exists_of_run (socketWith timeoutBetween) timeoutHarmless
      (fun t => t.reported = [1, 2, 3]) (by decide +kernel)
  have htest : ∀ x ∈ socketMachine.transitions (socketWith timeoutBetween) timeoutHarmless,
      ¬ LosesBytes x.1.context.payloadCacheSize x.1.answers x.2.1 := by
    decide +kernel
  exact ⟨t, ht, hreported,
    (socket_faithful_stream (init_socketWith _) (.of_run ht) htest).1⟩

/-- A timeout after cached bytes were taken loses them. -/
theorem socket_byte_lost : ¬ ∀ (s t : SocketState)
    (tr : List (SocketState × ReceiveCall × DDResult)), socketMachine.init s →
    socketMachine.Trace s tr t → t.reported <+: payloadBytes s.answers := by
  intro hall
  obtain ⟨t, ht, hreported⟩ :=
    socketMachine.exists_of_run (socketWith timeoutBetween) timeoutLosesByte
      (fun t => t.reported = [1, 3]) (by decide +kernel)
  have hprefix := hall _ t _ (init_socketWith timeoutBetween) (.of_run ht)
  rw [hreported] at hprefix
  exact absurd hprefix (by decide)

end DevDriver.Analysis
