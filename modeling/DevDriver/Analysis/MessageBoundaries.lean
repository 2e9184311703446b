import DevDriver.Analysis.SocketStream
import DevDriver.Model.SizePrefix

/-!
# Boundaries of size-prefixed messages

A receive call for a message reads the size and then the message, each with a receive of its own,
and nothing puts the size back when the second one cannot be made or fails.
-/

namespace DevDriver.Analysis

open Library Model

def IsClosing : ReceiveAnswer → Prop
  | .payload _ => False
  | .failure r _ => r ≠ .notReady

/-- The answers of a reliable session: payloads and timeouts, and once it is closed nothing but
failures. -/
def Reliable : List ReceiveAnswer → Prop
  | [] => True
  | .payload _ :: answers => Reliable answers
  | .failure r _ :: answers =>
    if r = .notReady then Reliable answers else ∀ a ∈ answers, IsClosing a

def TimesOutNext : List ReceiveAnswer → Prop
  | .failure r _ :: _ => r = .notReady
  | _ => False

/-- The bytes that the session hands over before the timeout at which a call with some retries left
gives up, when it does not end before. -/
def bytesBeforeTimeout : ℕ → List ReceiveAnswer → Option ℕ
  | _, [] => none
  | retries, .payload p :: answers => (bytesBeforeTimeout retries answers).map (p.1.length + ·)
  | 0, .failure r _ :: _ => if r = .notReady then some 0 else none
  | retries + 1, .failure r _ :: answers =>
    if r = .notReady then bytesBeforeTimeout retries answers else none

/-- A receive of `count` bytes with some bytes in the cache meets a timeout that costs bytes: one
right after the cached bytes were taken, or the last one with at least `least` bytes gathered. -/
def TimesOut (least payloadCacheSize count : ℕ) (answers : List ReceiveAnswer) : Prop :=
  payloadCacheSize < count ∧ (0 < payloadCacheSize ∧ TimesOutNext answers ∨
    ∃ n ∈ bytesBeforeTimeout kMaxRetryCount answers,
      least ≤ payloadCacheSize + n ∧ payloadCacheSize + n < count)

/-- Where the answers of a session stand when `count` more bytes were taken: the bytes that the last
payload leaves over, and the answers behind it. -/
def skipBytes : ℕ → List ReceiveAnswer → ℕ × List ReceiveAnswer
  | _, [] => (0, [])
  | count, .failure _ _ :: answers => skipBytes count answers
  | count, .payload p :: answers =>
    if count ≤ p.1.length then (p.1.length - count, answers)
    else skipBytes (count - p.1.length) answers

def skipFrom (count payloadCacheSize : ℕ) (answers : List ReceiveAnswer) :
    ℕ × List ReceiveAnswer :=
  if count ≤ payloadCacheSize then (payloadCacheSize - count, answers)
  else skipBytes (count - payloadCacheSize) answers

variable {answers : List ReceiveAnswer}

theorem reliable_of_closing (h : ∀ a ∈ answers, IsClosing a) :
    Reliable answers := by
  cases answers with
  | nil => trivial
  | cons a answers =>
    cases a with
    | payload p => exact absurd (h _ (List.mem_cons_self ..)) id
    | failure r hr =>
      have hclosing : r ≠ .notReady := h _ (List.mem_cons_self ..)
      rw [Reliable, if_neg hclosing]
      exact fun a ha => h a (List.mem_cons_of_mem _ ha)

theorem Reliable.tail {a : ReceiveAnswer} (h : Reliable (a :: answers)) : Reliable answers := by
  cases a with
  | payload p => exact h
  | failure r hr =>
    rw [Reliable] at h
    split at h
    · exact h
    · exact reliable_of_closing h

/-! ## The receive loop -/

structure LoopEnd (retryCount : ℕ) (answers : List ReceiveAnswer) (buffer : List UInt8)
    (r : SocketReceive) : Prop where
  length : r.buffer.length = buffer.length
  full : r.result = .success → buffer.length ≤ r.bytesReceived
  reliable : Reliable answers → Reliable r.answers
  failure : r.result ≠ .success → ∃ f, f ≠ .success ∧ r.result = devDriverToDDResult f ∧
    r.context.payloadCacheSize = 0 ∧
    (f = .notReady → bytesBeforeTimeout (kMaxRetryCount - retryCount) answers =
      bytesBeforeFailure (kMaxRetryCount - retryCount) answers) ∧
    (f ≠ .notReady → Reliable answers → ∀ a ∈ r.answers, IsClosing a)

variable {delivered : List (List UInt8)} {s t : PrefixState} {rounds retryCount : ℕ}

theorem bytesBeforeTimeout_retry (h : retryCount < kMaxRetryCount) (hf : Result.notReady ≠ .success)
    (answers : List ReceiveAnswer) :
    bytesBeforeTimeout (kMaxRetryCount - retryCount) (.failure .notReady hf :: answers) =
      bytesBeforeTimeout (kMaxRetryCount - (retryCount + 1)) answers := by
  obtain ⟨n, hn⟩ : ∃ n, kMaxRetryCount - retryCount = n + 1 :=
    ⟨kMaxRetryCount - retryCount - 1, by omega⟩
  rw [hn, show kMaxRetryCount - (retryCount + 1) = n by omega, bytesBeforeTimeout, if_pos rfl]

theorem bytesBeforeTimeout_giveUp (h : ¬ retryCount < kMaxRetryCount)
    (hf : Result.notReady ≠ .success) (answers : List ReceiveAnswer) :
    bytesBeforeTimeout (kMaxRetryCount - retryCount) (.failure .notReady hf :: answers) =
      some 0 := by
  rw [show kMaxRetryCount - retryCount = 0 by omega, bytesBeforeTimeout, if_pos rfl]

variable {buffer : List UInt8} {c : ClientSocketContext}

variable {count : ℕ} {data : List UInt8} {filled : ℕ} {r : SocketReceive}

theorem receiveLoop_end (hc : CacheValid c) (hfilled : filled ≤ buffer.length)
    (h : receiveLoop rounds retryCount filled answers buffer c = some r) :
    LoopEnd retryCount answers buffer r := by
  induction rounds generalizing retryCount filled answers buffer c with
  | zero => cases h
  | succ rounds ih =>
    rw [receiveLoop] at h
    split at h
    · rename_i hfull
      cases h
      exact ⟨rfl, fun _ => hfull, id, fun hne => absurd rfl hne⟩
    · rename_i hroom
      split at h
      · cases h
      rename_i r₁ hraw
      obtain ⟨hvalid, hlength, houtcome⟩ := ddSocketReceiveRaw_outcome hc hraw
      have hbuffer : (buffer.take filled ++ r₁.buffer).length = buffer.length := by
        rw [List.length_append, List.length_take, hlength, List.length_drop]
        omega
      rcases houtcome with ⟨hresult, hbytes, -, htook, hfull, -⟩ |
        ⟨f, hf, rfl, hresult, -, hemptied⟩
      · rw [if_pos hresult] at h
        have hroom' : filled + r₁.bytesReceived ≤ (buffer.take filled ++ r₁.buffer).length := by
          rw [List.length_drop] at hbytes
          clear htook hfull
          omega
        have hloop := ih hvalid hroom' h
        refine ⟨hloop.length.trans hbuffer, fun hs => ?_, fun hreliable => ?_, fun hfails => ?_⟩
        · rw [← hbuffer]
          exact hloop.full hs
        · by_cases hless : c.payloadCacheSize < (buffer.drop filled).length
          · obtain ⟨p, rfl, -⟩ := htook hless
            exact hloop.reliable hreliable
          · rw [← (hfull (Nat.le_of_not_lt hless)).1] at hreliable
            exact hloop.reliable hreliable
        · obtain ⟨f, hf, hr, hsize, htimeout, hclosed⟩ := hloop.failure hfails
          refine ⟨f, hf, hr, hsize, ?_, ?_⟩
          · intro hready
            have hsame := htimeout hready
            by_cases hless : c.payloadCacheSize < (buffer.drop filled).length
            · obtain ⟨p, rfl, -⟩ := htook hless
              rw [bytesBeforeTimeout, bytesBeforeFailure, hsame]
            · rw [← (hfull (Nat.le_of_not_lt hless)).1]
              exact hsame
          · intro hready hreliable
            by_cases hless : c.payloadCacheSize < (buffer.drop filled).length
            · obtain ⟨p, rfl, -⟩ := htook hless
              exact hclosed hready hreliable
            · rw [← (hfull (Nat.le_of_not_lt hless)).1] at hreliable
              exact hclosed hready hreliable
      · rw [hresult, if_neg (devDriverToDDResult_ne hf)] at h
        by_cases hretry : f = .notReady ∧ retryCount < kMaxRetryCount
        · obtain ⟨rfl, hcount⟩ := hretry
          rw [if_pos ⟨rfl, hcount⟩] at h
          have hloop := ih hvalid (by rw [hbuffer]; exact hfilled) h
          refine ⟨hloop.length.trans hbuffer, fun hs => ?_, fun hreliable => ?_, fun hfails => ?_⟩
          · rw [← hbuffer]
            exact hloop.full hs
          · exact hloop.reliable hreliable.tail
          · obtain ⟨f, hf', hr, hsize, htimeout, hclosed⟩ := hloop.failure hfails
            refine ⟨f, hf', hr, hsize, ?_, fun hready hreliable => hclosed hready hreliable.tail⟩
            intro hready
            rw [bytesBeforeTimeout_retry hcount, bytesBeforeFailure_retry hcount]
            exact htimeout hready
        · rw [if_neg (by rwa [devDriverToDDResult_notReady])] at h
          cases h
          refine ⟨hbuffer, fun hs => absurd hs (devDriverToDDResult_ne hf),
            fun hreliable => hreliable.tail, fun _ => ⟨f, hf, rfl, hemptied, ?_, ?_⟩⟩
          · rintro rfl
            have hcount : ¬ retryCount < kMaxRetryCount := fun hcount => hretry ⟨rfl, hcount⟩
            rw [bytesBeforeTimeout_giveUp hcount, bytesBeforeFailure_giveUp hf hretry]
          · intro hready hreliable
            rw [Reliable, if_neg hready] at hreliable
            exact hreliable

theorem cacheSize_of_unread {c' : ClientSocketContext} {bytes : List UInt8} {p : SessionPayload}
    (hc : CacheValid c) (hc' : CacheValid c')
    (h : unread c (.payload p :: answers) = bytes ++ unread c' answers) :
    c'.payloadCacheSize + bytes.length = c.payloadCacheSize + p.1.length := by
  have hlength := congrArg List.length h
  rw [List.length_append, length_unread hc, length_unread hc', payloadBytes_payload,
    List.length_append] at hlength
  omega

theorem receiveLoop_skip (hc : CacheValid c) (hfilled : filled ≤ buffer.length)
    (hkept : ¬ LosesCached c.payloadCacheSize (buffer.length - filled) answers)
    (h : receiveLoop rounds retryCount filled answers buffer c = some r)
    (hsuccess : r.result = .success) :
    (r.context.payloadCacheSize, r.answers) =
      skipFrom (buffer.length - filled) c.payloadCacheSize answers := by
  induction rounds generalizing retryCount filled answers buffer c with
  | zero => cases h
  | succ rounds ih =>
    rw [receiveLoop] at h
    split at h
    · rename_i hfull
      cases h
      rw [show buffer.length - filled = 0 by omega, skipFrom, if_pos (Nat.zero_le _)]
      rfl
    · rename_i hroom
      split at h
      · cases h
      rename_i r₁ hraw
      obtain ⟨hvalid, hlength, houtcome⟩ := ddSocketReceiveRaw_outcome hc hraw
      have hbuffer : (buffer.take filled ++ r₁.buffer).length = buffer.length := by
        rw [List.length_append, List.length_take, hlength, List.length_drop]
        omega
      rcases houtcome with ⟨hresult, hbytes, hemptied, htook, hfull, hunread⟩ |
        ⟨f, hf, rfl, hresult, hless, hemptied⟩
      · rw [if_pos hresult] at h
        rw [List.length_drop] at hbytes hemptied htook hfull
        have htaken : (r₁.buffer.take r₁.bytesReceived).length = r₁.bytesReceived := by
          rw [List.length_take, hlength, List.length_drop, Nat.min_eq_left hbytes]
        by_cases hless : c.payloadCacheSize < buffer.length - filled
        · obtain ⟨p, rfl, hreceived⟩ := htook hless
          clear htook hfull
          have hsize := cacheSize_of_unread hc hvalid hunread
          rw [htaken] at hsize
          have hloop := ih hvalid (by omega) (by rintro ⟨hpos, hless', -⟩; omega) h
          rw [hloop, hbuffer, skipFrom, skipFrom, if_neg (Nat.not_le.mpr hless), skipBytes]
          by_cases hlast : buffer.length - filled - c.payloadCacheSize ≤ p.1.length
          · rw [if_pos hlast, if_pos (by omega)]
            congr 1
            omega
          · rw [if_neg hlast, if_neg (by omega)]
            congr 1
            omega
        · obtain ⟨hsame, hall⟩ := hfull (Nat.le_of_not_lt hless)
          clear htook hfull
          have hsize := congrArg List.length hunread
          rw [List.length_append, length_unread hc, length_unread hvalid, hsame, htaken] at hsize
          have hloop := ih hvalid (by omega) (by rintro ⟨hpos, hless', -⟩; omega) h
          rw [hloop, hbuffer, hsame, skipFrom, skipFrom, if_pos (Nat.le_of_not_lt hless),
            if_pos (by omega)]
          congr 1
          omega
      · rw [List.length_drop] at hless
        have hnone : c.payloadCacheSize = 0 := by
          by_contra hne
          exact hkept ⟨Nat.pos_of_ne_zero hne, hless, trivial⟩
        rw [hresult, if_neg (devDriverToDDResult_ne hf)] at h
        split at h
        · have hloop := ih hvalid (by rw [hbuffer]; exact hfilled)
            (by rintro ⟨hpos, -, -⟩; omega) h
          rw [hloop, hbuffer, hemptied, hnone]
          unfold skipFrom
          rw [if_neg (by omega), if_neg (by omega), skipBytes]
        · cases h
          exact absurd hsuccess (devDriverToDDResult_ne hf)

theorem ddSocketReceiveRaw_waits (hc : CacheValid c)
    (h : ddSocketReceiveRaw answers buffer c = none) :
    answers = [] ∧ c.payloadCacheSize < buffer.length := by
  have hserved := servedCached hc buffer
  have hless : 0 < (receiveCached buffer c).2.1.length - (receiveCached buffer c).2.2 →
      c.payloadCacheSize < buffer.length := by
    rw [hserved.length, hserved.bytesReceived]
    omega
  unfold ddSocketReceiveRaw at h
  dsimp only at h
  split at h
  · rename_i hroom
    have hpos : 0 < kMaxPayloadSizeInBytes := by decide
    split at h
    · exact ⟨rfl, hless (hpos.trans_le hroom)⟩
    · cases h
    · cases h
  · split at h
    · rename_i hroom
      split at h
      · exact ⟨rfl, hless hroom⟩
      · cases h
      · cases h
    · cases h

theorem receiveLoop_returns (hc : CacheValid c)
    (hrounds : roundsNeeded filled answers buffer ≤ rounds)
    (hkept : ¬ LosesCached c.payloadCacheSize (buffer.length - filled) answers)
    (havailable : buffer.length - filled ≤ (unread c answers).length) :
    ∃ r, receiveLoop rounds retryCount filled answers buffer c = some r := by
  induction rounds generalizing retryCount filled answers buffer c with
  | zero =>
    unfold roundsNeeded at hrounds
    split at hrounds <;> omega
  | succ rounds ih =>
    rw [receiveLoop]
    split
    · exact ⟨_, rfl⟩
    · rename_i hroom
      unfold roundsNeeded at hrounds
      rw [if_neg hroom] at hrounds
      cases hraw : ddSocketReceiveRaw answers (buffer.drop filled) c with
      | none =>
        obtain ⟨rfl, hless⟩ := ddSocketReceiveRaw_waits hc hraw
        rw [length_unread hc, payloadBytes_nil, List.length_nil] at havailable
        rw [List.length_drop] at hless
        omega
      | some r₁ =>
        obtain ⟨hvalid, hlength, houtcome⟩ := ddSocketReceiveRaw_outcome hc hraw
        have hbuffer : (buffer.take filled ++ r₁.buffer).length = buffer.length := by
          rw [List.length_append, List.length_take, hlength, List.length_drop]
          omega
        rcases houtcome with ⟨hresult, hbytes, hemptied, htook, hfull, hunread⟩ |
          ⟨f, hf, rfl, hresult, hless, hemptied⟩
        · rw [List.length_drop] at hbytes hemptied htook hfull
          have hafter := congrArg List.length hunread
          rw [List.length_append, List.length_take, hlength, List.length_drop,
            Nat.min_eq_left hbytes] at hafter
          simp only [if_pos hresult]
          have hneeded : roundsNeeded (filled + r₁.bytesReceived) r₁.answers
              (buffer.take filled ++ r₁.buffer) ≤ rounds := by
            unfold roundsNeeded
            by_cases hless : c.payloadCacheSize < buffer.length - filled
            · obtain ⟨p, rfl, -⟩ := htook hless
              rw [List.length_cons] at hrounds
              split <;> omega
            · have hall := (hfull (Nat.le_of_not_lt hless)).2
              rw [if_pos (by omega)]
              omega
          clear htook hfull
          exact ih hvalid hneeded (by rintro ⟨hpos, hless', -⟩; omega) (by omega)
        · rw [List.length_drop] at hless
          have hnone : c.payloadCacheSize = 0 := by
            by_contra hne
            exact hkept ⟨Nat.pos_of_ne_zero hne, hless, trivial⟩
          rw [length_unread hc, payloadBytes_failure, hnone] at havailable
          simp only [hresult, if_neg (devDriverToDDResult_ne hf)]
          split
          · refine ih hvalid ?_ (by rintro ⟨hpos, -, -⟩; omega) ?_
            · unfold roundsNeeded
              rw [List.length_cons] at hrounds
              split <;> omega
            · rw [length_unread hvalid, hemptied, hbuffer]
              exact havailable
          · exact ⟨_, rfl⟩

inductive ReceiveEnd (answers : List ReceiveAnswer) (count : ℕ) (c : ClientSocketContext)
    (r : SocketReceive) : Prop where
  | received (hresult : r.result = .success)
      (hunread : unread c answers = r.buffer ++ unread r.context r.answers)
      (harrives : count ≤ c.payloadCacheSize ∨
        ∀ n ∈ bytesBeforeFailure kMaxRetryCount answers, count ≤ c.payloadCacheSize + n)
      (hskip : (r.context.payloadCacheSize, r.answers) =
        skipFrom count c.payloadCacheSize answers)
  | timedOut (hresult : r.result = .genericNotReady)
      (hunread : unread r.context r.answers = unread c answers) (hempty : c.payloadCacheSize = 0)
      (htimeout : 0 ∈ bytesBeforeTimeout kMaxRetryCount answers) (hcount : 0 < count)
  | closed (f : Result) (hf : f ≠ .success) (hready : f ≠ .notReady)
      (hresult : r.result = devDriverToDDResult f) (hempty : r.context.payloadCacheSize = 0)
      (hclosing : ∀ a ∈ r.answers, IsClosing a)
      (hshort : ∃ n ∈ bytesBeforeFailure 0 answers, c.payloadCacheSize + n < count)

variable {n : ℕ}

theorem bytesBeforeFailure_zero_le {retries : ℕ} (h : n ∈ bytesBeforeFailure retries answers) :
    ∃ m ∈ bytesBeforeFailure 0 answers, m ≤ n := by
  induction answers generalizing retries n with
  | nil => cases retries <;> cases h
  | cons a answers ih =>
    cases a with
    | payload p =>
      rw [bytesBeforeFailure] at h
      obtain ⟨n', hn', rfl⟩ := Option.map_eq_some_iff.mp h
      obtain ⟨m, hm, hle⟩ := ih hn'
      refine ⟨p.1.length + m, ?_, by omega⟩
      rw [bytesBeforeFailure]
      exact Option.map_eq_some_iff.mpr ⟨m, hm, rfl⟩
    | failure r hr => exact ⟨0, rfl, Nat.zero_le _⟩

theorem receive_closed {f : Result} {hf : f ≠ .success} (hc : CacheValid c)
    (hless : c.payloadCacheSize < buffer.length) (hready : f ≠ .notReady)
    (h : ddSocketReceiveWithTimeout (.failure f hf :: answers) buffer c = some r) :
    r.result = devDriverToDDResult f ∧ r.context.payloadCacheSize = 0 ∧ r.answers = answers := by
  rw [ddSocketReceiveWithTimeout, receiveLoop, if_neg (by omega)] at h
  split at h
  · cases h
  rename_i r₁ hraw
  rw [List.drop_zero] at hraw
  obtain ⟨-, -, houtcome⟩ := ddSocketReceiveRaw_outcome hc hraw
  rcases houtcome with ⟨-, -, -, htook, -, -⟩ | ⟨f', hf', heq, hresult, -, hemptied⟩
  · obtain ⟨p, hanswers, -⟩ := htook hless
    cases hanswers
  · cases heq
    rw [hresult, if_neg (devDriverToDDResult_ne hf'),
      if_neg (fun h => hready (devDriverToDDResult_notReady.mp h.1))] at h
    cases h
    exact ⟨rfl, hemptied, rfl⟩

theorem receive_end (hc : CacheValid c) (hreliable : Reliable answers)
    (hkept : ¬ TimesOut 1 c.payloadCacheSize buffer.length answers)
    (h : ddSocketReceiveWithTimeout answers buffer c = some r) :
    CacheValid r.context ∧ Reliable r.answers ∧ r.buffer.length = buffer.length ∧
      ReceiveEnd answers buffer.length c r := by
  obtain ⟨hvalid, houtcome⟩ := ddSocketReceiveWithTimeout_outcome hc h
  have hend := receiveLoop_end hc (Nat.zero_le _) h
  refine ⟨hvalid, hend.reliable hreliable, hend.length, ?_⟩
  rcases houtcome with ⟨hlost, -⟩ | ⟨hnotLost, hunread, hlength, hsuccess, hfailure⟩
  · obtain ⟨hpos, hless, hfails⟩ := hlost
    cases answers with
    | nil => cases hfails
    | cons a answers =>
      cases a with
      | payload p => cases hfails
      | failure f hf =>
        have hready : f ≠ .notReady := fun hready => hkept ⟨hless, .inl ⟨hpos, hready⟩⟩
        obtain ⟨hresult, hempty, hanswers⟩ := receive_closed hc hless hready h
        rw [Reliable, if_neg hready] at hreliable
        exact .closed f hf hready hresult hempty (hanswers ▸ hreliable) ⟨0, rfl, hless⟩
  · by_cases hresult : r.result = .success
    · have hfull : r.buffer.take r.bytesReceived = r.buffer :=
        List.take_of_length_le (hend.length.le.trans (hend.full hresult))
      rw [hfull] at hunread
      exact .received hresult hunread (hsuccess hresult)
        (receiveLoop_skip hc (Nat.zero_le _) hnotLost h hresult)
    · obtain ⟨f, hf, hr, hempty, htimeout, hclosing⟩ := hend.failure hresult
      obtain ⟨hless, n, hn, hreceived, hshort⟩ := hfailure hresult
      by_cases hready : f = .notReady
      · have hsame : bytesBeforeTimeout kMaxRetryCount answers =
            bytesBeforeFailure kMaxRetryCount answers := htimeout hready
        rw [← hsame] at hn
        have hnone : c.payloadCacheSize + n = 0 := by
          by_contra hne
          exact hkept ⟨hless, .inr ⟨n, hn, by omega, by omega⟩⟩
        rw [hreceived, hnone, List.take_zero, List.nil_append] at hunread
        obtain rfl : n = 0 := by omega
        exact .timedOut (by rw [hr, hready]; rfl) hunread.symm (by omega) hn (by omega)
      · obtain ⟨m, hm, hle⟩ := bytesBeforeFailure_zero_le hn
        exact .closed f hf hready hr hempty (hclosing hready hreliable) ⟨m, hm, by omega⟩

/-! ## Sending -/

def bytesOf (payloads : List SessionPayload) : List UInt8 := payloads.flatMap (·.1)

theorem bytesOf_append (ps qs : List SessionPayload) :
    bytesOf (ps ++ qs) = bytesOf ps ++ bytesOf qs := List.flatMap_append

def frame (m : List UInt8) : List UInt8 := leBytes kSizePrefixSize m.length ++ m

theorem length_frame (m : List UInt8) : (frame m).length = kSizePrefixSize + m.length := by
  rw [frame, List.length_append, length_leBytes]

theorem take_append_nextPayload (data : List UInt8) (bytesSent : ℕ) :
    data.take bytesSent ++ (nextPayload data bytesSent).1 =
      data.take (bytesSent + (nextPayload data bytesSent).1.length) := by
  have hlength : (nextPayload data bytesSent).1.length =
      min ((data.length - bytesSent) % 2 ^ 32) kMaxPayloadSizeInBytes := by
    rw [nextPayload, List.length_take, List.length_drop]
    omega
  rw [hlength, List.take_add]
  rfl

variable {payloads : List SessionPayload}

theorem sendRawLoop_bytes {bytesSent : ℕ} {answers : List SendAnswer} {r : SocketSend}
    (hsent : bytesOf payloads = data.take bytesSent)
    (h : sendRawLoop data bytesSent payloads answers = some r) :
    bytesOf r.payloads = data.take r.bytesSent := by
  induction answers generalizing bytesSent payloads with
  | nil =>
    obtain ⟨-, ⟨⟩⟩ := Option.ite_none_left_eq_some.mp h
    exact hsent
  | cons a answers ih =>
    rw [sendRawLoop] at h
    have hnext : bytesOf (payloads ++ [nextPayload data bytesSent]) =
        data.take (bytesSent + (nextPayload data bytesSent).1.length) := by
      rw [bytesOf_append, hsent, ← take_append_nextPayload]
      simp [bytesOf]
    split at h
    · split at h
      · dsimp only at h
        split at h
        · exact ih hnext h
        · cases h
          exact hnext
      · cases h
        exact hsent
    · cases h
      exact hsent

theorem ddSocketSendRaw_bytes {answers : List SendAnswer} {r : SocketSend}
    (h : ddSocketSendRaw answers data = some r) :
    bytesOf r.payloads = data.take r.bytesSent ∧
      (r.result = .genericNotReady → r.bytesSent = 0) := by
  obtain ⟨r₁, hloop, hr⟩ := Option.map_eq_some_iff.mp h
  have hbytes := sendRawLoop_bytes (by simp [bytesOf]) hloop
  split at hr
  · subst hr
    exact ⟨hbytes, nofun⟩
  · rename_i hnot
    subst hr
    exact ⟨hbytes, fun hready => by by_contra hne; exact hnot ⟨Nat.pos_of_ne_zero hne, hready⟩⟩

theorem sendLoop_bytes {answers : List SendAnswer} {r : SocketSend}
    (h : sendLoop rounds retryCount data payloads answers = some r)
    (hsuccess : r.result = .success) :
    bytesOf r.payloads = bytesOf payloads ++ data := by
  induction rounds generalizing retryCount data payloads answers with
  | zero => cases h
  | succ rounds ih =>
    rw [sendLoop] at h
    split at h
    · rename_i hempty
      cases h
      rw [hempty, List.append_nil]
    · split at h
      · cases h
      rename_i r₁ hraw
      obtain ⟨hbytes, hready⟩ := ddSocketSendRaw_bytes hraw
      split at h
      · rw [ih h, bytesOf_append, hbytes, List.append_assoc, List.take_append_drop]
      · split at h
        · rename_i hretry
          rw [ih h, bytesOf_append, hbytes, hready hretry.1, List.take_zero, List.append_nil]
        · rename_i hfails _
          cases h
          exact absurd hsuccess hfails

theorem ddSocketSendWithSizePrefix_bytes {answers : List SendAnswer} {m : List UInt8}
    {r : SocketSend} (h : ddSocketSendWithSizePrefix answers m = some r)
    (hsuccess : r.result = .success) : bytesOf r.payloads = frame m := by
  obtain ⟨r₁, hprefix, hr⟩ := Option.bind_eq_some_iff.mp h
  split at hr
  · rename_i hsent
    obtain ⟨r₂, hbody, rfl⟩ := Option.map_eq_some_iff.mp hr
    have hfirst := sendLoop_bytes hprefix hsent
    have hsecond := sendLoop_bytes hbody hsuccess
    rw [bytesOf_append, hfirst, hsecond]
    rfl
  · rename_i hfails
    cases hr
    exact absurd hsuccess hfails

/-- Messages sent one after the other, with the payloads that the session has taken. -/
inductive SendsAll : List (List UInt8) → List SessionPayload → Prop
  | nil : SendsAll [] []
  | cons {answers : List SendAnswer} {m : List UInt8} {r : SocketSend}
      {messages : List (List UInt8)} {payloads : List SessionPayload} (hsize : m.length ≤ kSizeMax)
      (hsend : ddSocketSendWithSizePrefix answers m = some r) (hsuccess : r.result = .success)
      (hrest : SendsAll messages payloads) : SendsAll (m :: messages) (r.payloads ++ payloads)

variable {messages : List (List UInt8)}

theorem SendsAll.bytes
    (h : SendsAll messages payloads) : bytesOf payloads = messages.flatMap frame := by
  induction h with
  | nil => rfl
  | cons hsize hsend hsuccess hrest ih =>
    rw [bytesOf_append, ddSocketSendWithSizePrefix_bytes hsend hsuccess, ih, List.flatMap_cons]

theorem SendsAll.size (h : SendsAll messages payloads) : ∀ m ∈ messages, m.length ≤ kSizeMax := by
  induction h with
  | nil => simp
  | cons hsize hsend hsuccess hrest ih =>
    intro m hm
    rcases List.mem_cons.mp hm with rfl | hm
    · exact hsize
    · exact ih m hm

/-! ## One message -/

def PrefixArrives (payloadCacheSize : ℕ) (answers : List ReceiveAnswer) : Prop :=
  kSizePrefixSize ≤ payloadCacheSize ∨
    ∀ n ∈ bytesBeforeFailure kMaxRetryCount answers, kSizePrefixSize ≤ payloadCacheSize + n

/-- A call for a message that meets no timeout in the middle of the message, and whose buffer has
room for it when its size arrives. -/
structure Undisturbed (s : PrefixState) (buffer : List UInt8) : Prop where
  sizePrefix : ¬ TimesOut 1 s.context.payloadCacheSize kSizePrefixSize s.answers
  body : PrefixArrives s.context.payloadCacheSize s.answers →
    leNat ((unread s.context s.answers).take kSizePrefixSize) ≤ buffer.length ∧
    ¬ TimesOut 0 (skipFrom kSizePrefixSize s.context.payloadCacheSize s.answers).1
      (leNat ((unread s.context s.answers).take kSizePrefixSize))
      (skipFrom kSizePrefixSize s.context.payloadCacheSize s.answers).2

/-- Where the socket stands after some messages were returned: at the beginning of the next one,
with `later` not arrived yet, or the connection is closed. -/
inductive Position (messages delivered : List (List UInt8)) (s : PrefixState) : Prop
  | opened (remaining : List (List UInt8)) (later : List UInt8) (hvalid : CacheValid s.context)
      (hreliable : Reliable s.answers) (hmessages : messages = delivered ++ remaining)
      (hunread : unread s.context s.answers ++ later = remaining.flatMap frame)
  | closed (hvalid : CacheValid s.context) (hdelivered : delivered <+: messages)
      (hempty : s.context.payloadCacheSize = 0) (hclosing : ∀ a ∈ s.answers, IsClosing a)

def IsRetryable (result : DDResult) : Prop :=
  result = .commonBufferTooSmall ∨ result = .genericNotReady

structure CallEnd (messages delivered : List (List UInt8)) (s t : PrefixState)
    (o : DDResult × Option (List UInt8)) : Prop where
  position : Position messages (delivered ++ o.2.toList) t
  success : o.1 = .success ↔ o.2.isSome
  retryable : IsRetryable o.1 → unread t.context t.answers = unread s.context s.answers

theorem devDriverToDDResult_ne_tooSmall (r : Result) :
    devDriverToDDResult r ≠ .commonBufferTooSmall := by
  cases r with
  | code _ => exact (by decide : DDResult.unknown ≠ .commonBufferTooSmall)
  | _ => decide

theorem not_isRetryable_closing {f : Result} (hready : f ≠ .notReady) :
    ¬ IsRetryable (devDriverToDDResult f) := by
  rintro (h | h)
  · exact devDriverToDDResult_ne_tooSmall f h
  · exact hready (devDriverToDDResult_notReady.mp h)

theorem TimesOut.mono {payloadCacheSize : ℕ} (h : TimesOut 1 payloadCacheSize count answers) :
    TimesOut 0 payloadCacheSize count answers := by
  obtain ⟨hless, hcached | ⟨n, hn, -, hshort⟩⟩ := h
  · exact ⟨hless, .inl hcached⟩
  · exact ⟨hless, .inr ⟨n, hn, Nat.zero_le _, hshort⟩⟩

theorem payloadBytes_closing (h : ∀ a ∈ answers, IsClosing a) :
    payloadBytes answers = [] := by
  induction answers with
  | nil => rfl
  | cons a answers ih =>
    cases a with
    | payload p => exact absurd (h _ (List.mem_cons_self ..)) id
    | failure r hr =>
      rw [payloadBytes_failure]
      exact ih fun a ha => h a (List.mem_cons_of_mem _ ha)

theorem callEnd_failed {result : DDResult} (hposition : Position messages delivered t)
    (hfails : result ≠ .success)
    (hretryable : IsRetryable result → unread t.context t.answers = unread s.context s.answers) :
    CallEnd messages delivered s t (result, none) := by
  refine ⟨?_, ⟨fun h => absurd h hfails, nofun⟩, hretryable⟩
  rw [show ((result, (none : Option (List UInt8))).2.toList) = [] from rfl, List.append_nil]
  exact hposition

variable {o : DDResult × Option (List UInt8)}

theorem callEnd_closed (hvalid : CacheValid s.context) (hdelivered : delivered <+: messages)
    (hempty : s.context.payloadCacheSize = 0) (hclosing : ∀ a ∈ s.answers, IsClosing a)
    (hcall : ¬ TimesOut 1 s.context.payloadCacheSize kSizePrefixSize s.answers)
    (hstep : prefixMachine.step s buffer = some (t, o)) : CallEnd messages delivered s t o := by
  obtain ⟨r, hr, heq⟩ := Option.map_eq_some_iff.mp hstep
  obtain ⟨r₁, hprefix, hrest⟩ := Option.bind_eq_some_iff.mp hr
  have hnothing : unread s.context s.answers = [] := by
    rw [unread, cached_of_size hempty, payloadBytes_closing hclosing, List.nil_append]
  have hbuffer : (List.replicate kSizePrefixSize (0 : UInt8)).length = kSizePrefixSize :=
    List.length_replicate
  obtain ⟨hvalid₁, -, hlength₁, hend⟩ := receive_end hvalid (reliable_of_closing hclosing)
    (by rw [hbuffer]; exact hcall) hprefix
  rcases hend with ⟨-, hunread, -, -⟩ | ⟨-, -, -, htimeout, -⟩ |
    ⟨f, hf, hready, hresult, hempty₁, hclosing₁, -⟩
  · rw [hnothing, eq_comm, List.append_eq_nil_iff] at hunread
    rw [hunread.1, hbuffer] at hlength₁
    cases hlength₁
  · exfalso
    cases hs : s.answers with
    | nil =>
      rw [hs] at htimeout
      cases htimeout
    | cons a answers =>
      rw [hs] at htimeout hclosing
      cases a with
      | payload p => exact hclosing _ (List.mem_cons_self ..)
      | failure f hf =>
        have hready : f ≠ .notReady := hclosing _ (List.mem_cons_self ..)
        rw [kMaxRetryCount, bytesBeforeTimeout, if_neg hready] at htimeout
        cases htimeout
  · rw [hresult, if_neg (devDriverToDDResult_ne hf)] at hrest
    cases hrest
    cases heq
    exact callEnd_failed (.closed hvalid₁ hdelivered hempty₁ hclosing₁) (devDriverToDDResult_ne hf)
      fun h => absurd h (not_isRetryable_closing hready)

theorem callEnd_opened {remaining : List (List UInt8)} {later : List UInt8}
    (hvalid : CacheValid s.context) (hreliable : Reliable s.answers)
    (hsize : ∀ m ∈ messages, m.length ≤ kSizeMax) (hmessages : messages = delivered ++ remaining)
    (hunread : unread s.context s.answers ++ later = remaining.flatMap frame)
    (hcall : Undisturbed s buffer) (hstep : prefixMachine.step s buffer = some (t, o)) :
    CallEnd messages delivered s t o := by
  obtain ⟨r, hr, heq⟩ := Option.map_eq_some_iff.mp hstep
  obtain ⟨r₁, hprefix, hrest⟩ := Option.bind_eq_some_iff.mp hr
  have hbuffer : (List.replicate kSizePrefixSize (0 : UInt8)).length = kSizePrefixSize :=
    List.length_replicate
  obtain ⟨hvalid₁, hreliable₁, hlength₁, hend⟩ := receive_end hvalid hreliable
    (by rw [hbuffer]; exact hcall.sizePrefix) hprefix
  rw [hbuffer] at hlength₁ hend
  have hdelivered : delivered <+: messages := ⟨remaining, hmessages.symm⟩
  rcases hend with ⟨hresult, hunread₁, harrives, hskip⟩ | ⟨hresult, hunread₁, -, -, -⟩ |
    ⟨f, hf, hready, hresult, hempty₁, hclosing₁, -⟩
  · -- the size has arrived
    have htake : (unread s.context s.answers).take kSizePrefixSize = r₁.buffer := by
      rw [hunread₁, ← hlength₁]
      exact List.take_left
    cases remaining with
    | nil =>
      rw [hunread₁, List.flatMap_nil, List.append_assoc, List.append_eq_nil_iff] at hunread
      rw [hunread.1] at hlength₁
      cases hlength₁
    | cons m remaining =>
      rw [hunread₁, List.flatMap_cons, frame, List.append_assoc, List.append_assoc] at hunread
      obtain ⟨hprefixBytes, hbody⟩ := List.append_inj hunread
        (hlength₁.trans (length_leBytes ..).symm)
      have hm : m.length ≤ kSizeMax := hsize m (hmessages ▸ by simp)
      have hsizePrefix : leNat r₁.buffer = m.length := by
        rw [hprefixBytes]
        have hmax : 256 ^ kSizePrefixSize = kSizeMax + 1 := by decide
        exact leNat_leBytes_of_lt (by omega)
      have hroom := hcall.body harrives
      rw [htake, hsizePrefix, ← hskip] at hroom
      rw [if_pos hresult, hsizePrefix, if_pos hm, if_pos hroom.1] at hrest
      obtain ⟨r₂, hsecond, rfl⟩ := Option.map_eq_some_iff.mp hrest
      have hcount : (buffer.take m.length).length = m.length := by
        rw [List.length_take, Nat.min_eq_left hroom.1]
      obtain ⟨hvalid₂, hreliable₂, hlength₂, hend₂⟩ := receive_end hvalid₁ hreliable₁
        (by rw [hcount]; exact fun h => hroom.2 h.mono) hsecond
      rw [hcount] at hlength₂ hend₂
      rcases hend₂ with ⟨hresult₂, hunread₂, -, -⟩ | ⟨-, -, hempty₂, htimeout₂, hpos⟩ |
        ⟨f, hf, hready, hresult₂, hempty₂, hclosing₂, -⟩
      · rw [hunread₂, List.append_assoc] at hbody
        obtain ⟨hdata, hafter⟩ := List.append_inj hbody hlength₂
        have hmessage : (r₂.buffer ++ buffer.drop m.length).take m.length = m := by
          rw [← hlength₂, List.take_left]
          exact hdata
        simp only [PrefixReceive.message, hresult₂, if_true, Option.map_some, hmessage] at heq
        cases heq
        refine ⟨.opened remaining later hvalid₂ hreliable₂ ?_ hafter, ⟨fun _ => rfl, fun _ => rfl⟩,
          by rintro (h | h) <;> cases h⟩
        rw [hmessages, List.append_assoc]
        rfl
      · exact absurd ⟨by omega, .inr ⟨0, htimeout₂, Nat.zero_le _, by omega⟩⟩ hroom.2
      · have hfails := devDriverToDDResult_ne hf
        rw [← hresult₂] at hfails
        simp only [PrefixReceive.message, if_neg hfails, Option.map_none] at heq
        cases heq
        refine callEnd_failed (.closed hvalid₂ hdelivered hempty₂ hclosing₂) hfails fun h => ?_
        rw [hresult₂] at h
        exact absurd h (not_isRetryable_closing hready)
  · rw [hresult, if_neg (by decide)] at hrest
    cases hrest
    cases heq
    refine callEnd_failed (.opened remaining later hvalid₁ hreliable₁ hmessages ?_)
      (by decide : DDResult.genericNotReady ≠ .success) fun _ => hunread₁
    rw [← hunread, ← hunread₁]
  · rw [hresult, if_neg (devDriverToDDResult_ne hf)] at hrest
    cases hrest
    cases heq
    exact callEnd_failed (.closed hvalid₁ hdelivered hempty₁ hclosing₁) (devDriverToDDResult_ne hf)
      fun h => absurd h (not_isRetryable_closing hready)

/-! ## Enough time -/

/-- The next `count` bytes are there and no failure comes before them. -/
structure EnoughTime (c : ClientSocketContext) (answers : List ReceiveAnswer) (count : ℕ) :
    Prop where
  available : count ≤ (unread c answers).length
  calm : ∀ n ∈ bytesBeforeFailure 0 answers, count ≤ c.payloadCacheSize + n

theorem bytesBeforeTimeout_zero_le {retries : ℕ} (h : n ∈ bytesBeforeTimeout retries answers) :
    ∃ m ∈ bytesBeforeFailure 0 answers, m ≤ n := by
  induction answers generalizing retries n with
  | nil => cases retries <;> cases h
  | cons a answers ih =>
    cases a with
    | payload p =>
      rw [bytesBeforeTimeout] at h
      obtain ⟨n', hn', rfl⟩ := Option.map_eq_some_iff.mp h
      obtain ⟨m, hm, hle⟩ := ih hn'
      refine ⟨p.1.length + m, ?_, by omega⟩
      rw [bytesBeforeFailure]
      exact Option.map_eq_some_iff.mpr ⟨m, hm, rfl⟩
    | failure r hr => exact ⟨0, rfl, Nat.zero_le _⟩

theorem EnoughTime.mono (h : EnoughTime c answers count) (hn : n ≤ count) :
    EnoughTime c answers n :=
  ⟨hn.trans h.available, fun m hm => hn.trans (h.calm m hm)⟩

theorem EnoughTime.not_losesCached (h : EnoughTime c answers count) :
    ¬ LosesCached c.payloadCacheSize count answers := by
  rintro ⟨-, hless, hfails⟩
  cases answers with
  | nil => cases hfails
  | cons a answers =>
    cases a with
    | payload p => cases hfails
    | failure r hr =>
      have := h.calm 0 rfl
      omega

theorem EnoughTime.not_timesOut {least : ℕ} (h : EnoughTime c answers count) :
    ¬ TimesOut least c.payloadCacheSize count answers := by
  rintro ⟨hless, ⟨-, hfails⟩ | ⟨n, hn, -, hshort⟩⟩
  · cases answers with
    | nil => cases hfails
    | cons a answers =>
      cases a with
      | payload p => cases hfails
      | failure r hr =>
        have := h.calm 0 rfl
        omega
  · obtain ⟨m, hm, hle⟩ := bytesBeforeTimeout_zero_le hn
    have := h.calm m hm
    omega

theorem skipBytes_calm (count total : ℕ) (hpos : 0 < count) (hcount : count ≤ total)
    (h : ∀ n ∈ bytesBeforeFailure 0 answers, total ≤ n) :
    ∀ n ∈ bytesBeforeFailure 0 (skipBytes count answers).2,
      total ≤ count + (skipBytes count answers).1 + n := by
  induction answers generalizing count total with
  | nil =>
    intro n hn
    cases hn
  | cons a answers ih =>
    cases a with
    | payload p =>
      have hmore : ∀ n ∈ bytesBeforeFailure 0 answers, total ≤ p.1.length + n := by
        intro n hn
        refine h _ ?_
        rw [bytesBeforeFailure]
        exact Option.map_eq_some_iff.mpr ⟨n, hn, rfl⟩
      rw [skipBytes]
      split
      · intro n hn
        have := hmore n hn
        omega
      · intro n hn
        have := ih (count - p.1.length) (total - p.1.length) (by omega) (by omega)
          (fun n hn => by have := hmore n hn; omega) n hn
        omega
    | failure r hr =>
      have := h 0 rfl
      omega

theorem receive_enough (rest : ℕ) (hc : CacheValid c) (hreliable : Reliable answers)
    (h : EnoughTime c answers (buffer.length + rest)) :
    ∃ r, ddSocketReceiveWithTimeout answers buffer c = some r ∧ r.result = .success ∧
      CacheValid r.context ∧ Reliable r.answers ∧ r.buffer.length = buffer.length ∧
      unread c answers = r.buffer ++ unread r.context r.answers ∧
      EnoughTime r.context r.answers rest := by
  have hnow := h.mono (Nat.le_add_right buffer.length rest)
  have hreturns : ∃ r, receiveLoop (answers.length + 2) 0 0 answers buffer c = some r := by
    refine receiveLoop_returns hc ?_ hnow.not_losesCached hnow.available
    unfold roundsNeeded
    split <;> omega
  obtain ⟨r, hr⟩ := hreturns
  obtain ⟨hvalid, hreliable', hlength, hend⟩ := receive_end hc hreliable hnow.not_timesOut hr
  refine ⟨r, hr, ?_⟩
  rcases hend with ⟨hresult, hunread, -, hskip⟩ | ⟨-, -, hempty, htimeout, hcount⟩ |
    ⟨f, -, -, -, -, -, m, hm, hshort⟩
  · refine ⟨hresult, hvalid, hreliable', hlength, hunread, ?_, ?_⟩
    · have := h.available
      rw [hunread, List.length_append, hlength] at this
      omega
    · have hanswers := congrArg Prod.snd hskip
      have hsize := congrArg Prod.fst hskip
      dsimp only at hanswers hsize
      rw [hanswers, hsize, skipFrom]
      split
      · intro n hn
        have := h.calm n hn
        omega
      · intro n hn
        have := skipBytes_calm (buffer.length - c.payloadCacheSize)
          (buffer.length + rest - c.payloadCacheSize) (by omega) (by omega)
          (fun n hn => by have := h.calm n hn; omega) n hn
        omega
  · obtain ⟨m, hm, hle⟩ := bytesBeforeTimeout_zero_le htimeout
    have := hnow.calm m hm
    omega
  · have := hnow.calm m hm
    omega

theorem next_message {m later bytes : List UInt8} (hvalid : CacheValid s.context)
    (hreliable : Reliable s.answers) (hm : m.length ≤ kSizeMax)
    (hunread : unread s.context s.answers ++ later = frame m ++ bytes)
    (hroom : m.length ≤ buffer.length) (htime : EnoughTime s.context s.answers (frame m).length) :
    ∃ t, prefixMachine.step s buffer = some (t, .success, some m) := by
  have hbuffer : (List.replicate kSizePrefixSize (0 : UInt8)).length = kSizePrefixSize :=
    List.length_replicate
  rw [length_frame, ← hbuffer] at htime
  obtain ⟨r₁, hprefix, hresult₁, hvalid₁, hreliable₁, hlength₁, hunread₁, htime₁⟩ :=
    receive_enough m.length hvalid hreliable htime
  rw [hbuffer] at hlength₁
  rw [hunread₁, frame, List.append_assoc, List.append_assoc] at hunread
  obtain ⟨hprefixBytes, hbody⟩ := List.append_inj hunread
    (hlength₁.trans (length_leBytes ..).symm)
  have hsizePrefix : leNat r₁.buffer = m.length := by
    rw [hprefixBytes]
    have hmax : 256 ^ kSizePrefixSize = kSizeMax + 1 := by decide
    exact leNat_leBytes_of_lt (by omega)
  have hcount : (buffer.take m.length).length = m.length := by
    rw [List.length_take, Nat.min_eq_left hroom]
  obtain ⟨r₂, hsecond, hresult₂, -, -, hlength₂, hunread₂, -⟩ :=
    receive_enough 0 hvalid₁ hreliable₁ (hcount.symm ▸ htime₁)
  rw [hcount] at hlength₂
  rw [hunread₂, List.append_assoc] at hbody
  have hmessage : (r₂.buffer ++ buffer.drop m.length).take m.length = m := by
    rw [← hlength₂, List.take_left]
    exact (List.append_inj hbody hlength₂).1
  have hcall : ddSocketReceiveWithSizePrefix s.answers buffer s.context =
      some ⟨r₂.context, r₂.answers, r₂.buffer ++ buffer.drop m.length, .success,
        some m.length⟩ := by
    rw [ddSocketReceiveWithSizePrefix, hprefix, Option.bind_some, if_pos hresult₁, hsizePrefix]
    rw [if_pos hm, if_pos hroom, hsecond, Option.map_some, hresult₂, if_pos rfl]
  refine ⟨⟨r₂.context, r₂.answers⟩, ?_⟩
  rw [prefixMachine]
  dsimp only
  rw [hcall, Option.map_some, PrefixReceive.message, Option.map_some, hmessage]

/-! ## Runs -/

def deliveredOf (tr : List (PrefixState × List UInt8 × DDResult × Option (List UInt8))) :
    List (List UInt8) := tr.flatMap fun x => x.2.2.2.toList

/-- The boundaries of the messages are kept along a run: the calls that succeed return the messages
in order, the others leave the stream where it was unless the connection is closed, and a call that
is made next with enough room and time returns the next message. -/
structure KeepsBoundaries (messages : List (List UInt8))
    (tr : List (PrefixState × List UInt8 × DDResult × Option (List UInt8))) (t : PrefixState) :
    Prop where
  order : deliveredOf tr <+: messages
  success : ∀ x ∈ tr, x.2.2.1 = .success ↔ x.2.2.2.isSome
  retryable : ∀ x ∈ tr, IsRetryable x.2.2.1 → ∀ u,
    prefixMachine.step x.1 x.2.1 = some (u, x.2.2) →
    unread u.context u.answers = unread x.1.context x.1.answers
  next : ∀ m more, messages = deliveredOf tr ++ m :: more → ∀ buffer : List UInt8,
    m.length ≤ buffer.length → EnoughTime t.context t.answers (frame m).length →
    ∃ u, prefixMachine.step t buffer = some (u, .success, some m)

def payloadsOf : List ReceiveAnswer → List SessionPayload
  | [] => []
  | .payload p :: answers => p :: payloadsOf answers
  | .failure _ _ :: answers => payloadsOf answers

theorem bytesOf_payloadsOf (answers : List ReceiveAnswer) :
    bytesOf (payloadsOf answers) = payloadBytes answers := by
  induction answers with
  | nil => rfl
  | cons a answers ih =>
    cases a with
    | payload p => exact congrArg (p.1 ++ ·) ih
    | failure r hr => exact ih

theorem CallEnd.of_position (hsize : ∀ m ∈ messages, m.length ≤ kSizeMax)
    (h : Position messages delivered s) (hcall : Undisturbed s buffer)
    (hstep : prefixMachine.step s buffer = some (t, o)) : CallEnd messages delivered s t o := by
  rcases h with ⟨remaining, later, hvalid, hreliable, hmessages, hunread⟩ |
    ⟨hvalid, hdelivered, hempty, hclosing⟩
  · exact callEnd_opened hvalid hreliable hsize hmessages hunread hcall hstep
  · exact callEnd_closed hvalid hdelivered hempty hclosing hcall.sizePrefix hstep

theorem position_trace {tr : List (PrefixState × List UInt8 × DDResult × Option (List UInt8))}
    (hsize : ∀ m ∈ messages, m.length ≤ kSizeMax) (hstart : Position messages [] s)
    (htrace : prefixMachine.Trace s tr t) (hcalls : ∀ x ∈ tr, Undisturbed x.1 x.2.1) :
    Position messages (deliveredOf tr) t ∧
      (∀ x ∈ tr, x.2.2.1 = .success ↔ x.2.2.2.isSome) ∧
      ∀ x ∈ tr, IsRetryable x.2.2.1 → ∀ u, prefixMachine.step x.1 x.2.1 = some (u, x.2.2) →
        unread u.context u.answers = unread x.1.context x.1.answers := by
  induction htrace with
  | nil => exact ⟨hstart, by simp, by simp⟩
  | @snoc t u tr buffer o htrace hstep ih =>
    obtain ⟨hposition, hsuccess, hretryable⟩ :=
      ih fun x hx => hcalls x (List.mem_append_left _ hx)
    have hcall := hcalls (t, buffer, o) (List.mem_append_right _ (List.mem_singleton_self _))
    have hend := CallEnd.of_position hsize hposition hcall hstep
    have hdelivered : deliveredOf (tr ++ [(t, buffer, o)]) = deliveredOf tr ++ o.2.toList := by
      simp [deliveredOf]
    refine ⟨hdelivered ▸ hend.position, fun x hx => ?_, fun x hx hretry v hv => ?_⟩
    · rcases List.mem_append.mp hx with hx | hx
      · exact hsuccess x hx
      · rw [List.mem_singleton.mp hx]
        exact hend.success
    · rcases List.mem_append.mp hx with hx | hx
      · exact hretryable x hx hretry v hv
      · obtain rfl := List.mem_singleton.mp hx
        obtain ⟨rfl, -⟩ := Prod.mk.inj (Option.some.inj (hv.symm.trans hstep))
        exact hend.retryable hretry

/-- Over a reliable stream the boundaries of the messages are kept in every run in which no call is
disturbed in the middle of a message. -/
theorem message_boundaries {messages : List (List UInt8)} {payloads later : List SessionPayload}
    (hsends : SendsAll messages payloads) {s t : PrefixState} (hinit : prefixMachine.init s)
    (hreliable : Reliable s.answers) (hstream : payloadsOf s.answers ++ later = payloads)
    {tr : List (PrefixState × List UInt8 × DDResult × Option (List UInt8))}
    (htrace : prefixMachine.Trace s tr t) (hcalls : ∀ x ∈ tr, Undisturbed x.1 x.2.1) :
    KeepsBoundaries messages tr t := by
  obtain ⟨payloadCache, hlength, hcontext⟩ := hinit
  have hvalid : CacheValid s.context := by
    rw [hcontext]
    exact ⟨hlength, Nat.zero_le _⟩
  have hunread : unread s.context s.answers ++ bytesOf later = messages.flatMap frame := by
    rw [← hsends.bytes, ← hstream, bytesOf_append, bytesOf_payloadsOf, unread, hcontext]
    rfl
  obtain ⟨hposition, hsuccess, hretryable⟩ := position_trace hsends.size
    (.opened messages (bytesOf later) hvalid hreliable rfl hunread) htrace hcalls
  refine ⟨?_, hsuccess, hretryable, fun m more hmessages buffer hroom htime => ?_⟩
  · rcases hposition with ⟨remaining, -, -, -, hmessages, -⟩ | ⟨-, hdelivered, -, -⟩
    · exact ⟨remaining, hmessages.symm⟩
    · exact hdelivered
  · have hm : m.length ≤ kSizeMax := hsends.size m (hmessages ▸ by simp)
    rcases hposition with ⟨remaining, later, hvalid, hreliable, hremaining, hunread⟩ |
      ⟨-, -, hempty, hclosing⟩
    · have hnext : remaining = m :: more :=
        List.append_cancel_left (hremaining.symm.trans hmessages)
      rw [hnext, List.flatMap_cons] at hunread
      exact next_message hvalid hreliable hm hunread hroom htime
    · have havailable := htime.available
      rw [unread, cached_of_size hempty, payloadBytes_closing hclosing, length_frame] at havailable
      simp at havailable

def threeBytes : List SessionPayload := [⟨leBytes 8 3, by decide⟩, ⟨[1, 2, 3], by decide⟩]

theorem sends_threeBytes : SendsAll [[1, 2, 3]] (threeBytes ++ []) := by
  have hsend : ddSocketSendWithSizePrefix [⟨.success, true⟩, ⟨.success, true⟩] [1, 2, 3] =
      some ⟨[], threeBytes, .success, 0⟩ := by rfl
  exact .cons (by decide) hsend rfl .nil

def receivingSocket : PrefixState :=
  ⟨.new (List.replicate kMaxPayloadSizeInBytes 0), threeBytes.map .payload⟩

theorem init_receivingSocket : prefixMachine.init receivingSocket :=
  ⟨_, List.length_replicate, rfl⟩

theorem undisturbed_receivingSocket : Undisturbed receivingSocket [0, 0, 0, 0] where
  sizePrefix := by
    rintro ⟨-, ⟨hpos, -⟩ | ⟨n, hn, -⟩⟩
    · cases hpos
    · cases hn
  body _ := by
    refine ⟨by decide, ?_⟩
    rintro ⟨-, ⟨hpos, -⟩ | ⟨n, hn, -⟩⟩
    · cases hpos
    · cases hn

theorem message_boundaries_three : ∃ t,
    prefixMachine.step receivingSocket [0, 0, 0, 0] = some (t, .success, some [1, 2, 3]) ∧
      KeepsBoundaries [[1, 2, 3]]
        [(receivingSocket, [0, 0, 0, 0], .success, some [1, 2, 3])] t := by
  have hany : (prefixMachine.step receivingSocket [0, 0, 0, 0]).any
      (fun x => decide (x.2 = (.success, some [1, 2, 3]))) = true := by decide +kernel
  obtain ⟨⟨t, o⟩, hstep, ho⟩ := (Option.any_eq_true _ _).mp hany
  obtain rfl : o = (.success, some [1, 2, 3]) := of_decide_eq_true ho
  refine ⟨t, hstep, message_boundaries sends_threeBytes init_receivingSocket trivial
    rfl (.snoc .nil hstep) ?_⟩
  intro x hx
  rw [List.mem_singleton.mp hx]
  exact undisturbed_receivingSocket

/-- A buffer that is too small costs the size of the message. -/
theorem size_prefix_lost : ¬ ∀ (messages : List (List UInt8))
    (payloads later : List SessionPayload) (s t : PrefixState)
    (tr : List (PrefixState × List UInt8 × DDResult × Option (List UInt8))),
    SendsAll messages payloads → prefixMachine.init s → Reliable s.answers →
    payloadsOf s.answers ++ later = payloads → prefixMachine.Trace s tr t →
    KeepsBoundaries messages tr t := by
  intro hall
  have hany : (prefixMachine.step receivingSocket [0]).any
      (fun x => decide (x.2 = (.commonBufferTooSmall, none)) &&
        decide (unread x.1.context x.1.answers = [1, 2, 3])) = true := by decide +kernel
  obtain ⟨⟨t, o⟩, hstep, ho⟩ := (Option.any_eq_true _ _).mp hany
  rw [Bool.and_eq_true, decide_eq_true_eq, decide_eq_true_eq] at ho
  obtain ⟨rfl, hunread⟩ := ho
  have hkept := hall [[1, 2, 3]] (threeBytes ++ []) [] receivingSocket t _ sends_threeBytes
    init_receivingSocket trivial rfl (.snoc .nil hstep)
  have hsame := hkept.retryable _ (List.mem_singleton_self _) (.inl rfl) t hstep
  rw [hunread] at hsame
  exact absurd hsame (by decide)

end DevDriver.Analysis
