import DevDriver.Analysis.SocketStream
import DevDriver.Model.SocketSend

/-!
# What a socket sends

A send call hands its session one slice after the other, each where the accepted ones end.
-/

namespace DevDriver.Analysis

open Model
open Model.TimedSocket (SessionSend TimedAnswer TimedSend finishSend)

def acceptedSize (s : SessionSend) : ℕ := if s.result = .success then s.size else 0

def bytesAccepted (sends : List SessionSend) : ℕ := (sends.map acceptedSize).sum

/-- The slices are not empty, and each starts where the accepted ones before it end. -/
def Consecutive : ℕ → List SessionSend → Prop
  | _, [] => True
  | offset, s :: sends =>
    s.offset = offset ∧ 0 < s.size ∧ Consecutive (offset + acceptedSize s) sends

@[simp] theorem bytesAccepted_nil : bytesAccepted [] = 0 := rfl

@[simp] theorem bytesAccepted_append (sends sends' : List SessionSend) :
    bytesAccepted (sends ++ sends') = bytesAccepted sends + bytesAccepted sends' := by
  simp [bytesAccepted]

@[simp] theorem bytesAccepted_singleton (s : SessionSend) :
    bytesAccepted [s] = acceptedSize s := by
  simp [bytesAccepted]

@[simp] theorem bytesAccepted_shift (offset : ℕ) (sends : List SessionSend) :
    bytesAccepted (sends.map (SessionSend.shift offset)) = bytesAccepted sends := by
  rw [bytesAccepted, List.map_map]
  rfl

theorem consecutive_nil (offset : ℕ) : Consecutive offset [] := trivial

variable {sends : List SessionSend}

theorem consecutive_append {offset : ℕ} {sends' : List SessionSend} :
    Consecutive offset (sends ++ sends') ↔
      Consecutive offset sends ∧ Consecutive (offset + bytesAccepted sends) sends' := by
  induction sends generalizing offset with
  | nil => simp [Consecutive]
  | cons s sends ih =>
    have hsum : bytesAccepted (s :: sends) = acceptedSize s + bytesAccepted sends := by
      simp [bytesAccepted]
    rw [List.cons_append, Consecutive, Consecutive, ih, hsum, Nat.add_assoc]
    tauto

theorem Consecutive.shift {offset : ℕ} (h : Consecutive offset sends) (start : ℕ) :
    Consecutive (start + offset) (sends.map (SessionSend.shift start)) := by
  induction sends generalizing offset with
  | nil => trivial
  | cons s sends ih =>
    obtain ⟨hoffset, hsize, hrest⟩ := h
    refine ⟨congrArg (start + ·) hoffset, hsize, ?_⟩
    rw [Nat.add_assoc]
    exact ih hrest

/-! ## One call -/

def OnlyWaits (answers : List TimedAnswer) : Prop :=
  ∀ answer ∈ answers, answer.result = .success ∨ answer.result = .notReady

/-- What `ddSocketSendRaw` should do with data of a size. -/
structure TransfersRaw (dataSize : ℕ) (r : TimedSend) : Prop where
  consecutive : Consecutive 0 r.sends
  within : ∀ s ∈ r.sends, s.offset + s.size ≤ dataSize
  reports : r.result = .success ∧ r.bytesSent = bytesAccepted r.sends ∨
    r.result = .genericNotReady ∧ bytesAccepted r.sends = 0

section Raw

variable {dataSize bytesSent : ℕ} {answers : List TimedAnswer} {timeoutRemaining : UInt32}
  {sends : List SessionSend} {r : TimedSend}

theorem timed_sendRawLoop_done (h : dataSize ≤ bytesSent) :
    TimedSocket.sendRawLoop dataSize answers bytesSent timeoutRemaining sends =
      some (finishSend .success bytesSent sends answers) := by
  unfold TimedSocket.sendRawLoop
  rw [if_neg (by omega)]

theorem timed_sendRawLoop_end (hend : answers = [] ∨ ¬ bytesSent < dataSize)
    (h : TimedSocket.sendRawLoop dataSize answers bytesSent timeoutRemaining sends = some r) :
    r = finishSend .success bytesSent sends answers := by
  unfold TimedSocket.sendRawLoop at h
  dsimp only at h
  split at h
  · rcases hend with rfl | hdone
    · cases h
    · omega
  · exact (Option.some.inj h).symm

def sliceAt (dataSize bytesSent : ℕ) (result : Result) : SessionSend :=
  ⟨bytesSent, min ((dataSize - bytesSent) % 2 ^ 32) kMaxPayloadSizeInBytes, result⟩

theorem timed_sendRawLoop_cons {answer : TimedAnswer} (h : bytesSent < dataSize) :
    TimedSocket.sendRawLoop dataSize (answer :: answers) bytesSent timeoutRemaining sends =
      let slice := sliceAt dataSize bytesSent answer.result
      if answer.result = .success then
        if answer.elapsedTime < timeoutRemaining.toNat then
          TimedSocket.sendRawLoop dataSize answers (bytesSent + slice.size)
            (timeoutRemaining - UInt32.ofNat answer.elapsedTime) (sends ++ [slice])
        else if 0 < dataSize - (bytesSent + slice.size) then
          some (finishSend .genericNotReady (bytesSent + slice.size) (sends ++ [slice]) answers)
        else some (finishSend .success (bytesSent + slice.size) (sends ++ [slice]) answers)
      else
        some (finishSend (devDriverToDDResult answer.result) bytesSent (sends ++ [slice])
          answers) := by
  rw [TimedSocket.sendRawLoop, if_pos (by omega)]
  rfl

structure SentSoFar (dataSize bytesSent : ℕ) (sends : List SessionSend) : Prop where
  consecutive : Consecutive 0 sends
  within : ∀ s ∈ sends, s.offset + s.size ≤ dataSize
  accepted : bytesAccepted sends = bytesSent

theorem SentSoFar.add (h : SentSoFar dataSize bytesSent sends) (hsize : dataSize < 2 ^ 32)
    (hrest : bytesSent < dataSize) (result : Result) :
    SentSoFar dataSize (bytesSent + acceptedSize (sliceAt dataSize bytesSent result))
      (sends ++ [sliceAt dataSize bytesSent result]) where
  consecutive := by
    rw [consecutive_append, h.accepted, Nat.zero_add]
    refine ⟨h.consecutive, rfl, ?_, trivial⟩
    have hmax : 0 < kMaxPayloadSizeInBytes := by decide
    unfold sliceAt
    dsimp only
    omega
  within s hs := by
    rcases List.mem_append.mp hs with hs | hs
    · exact h.within s hs
    · obtain rfl := List.mem_singleton.mp hs
      unfold sliceAt
      dsimp only
      omega
  accepted := by rw [bytesAccepted_append, bytesAccepted_singleton, h.accepted]

theorem SentSoFar.finish (h : SentSoFar dataSize bytesSent sends) {result : DDResult}
    (hresult : result = .success ∨ result = .genericNotReady) :
    TransfersRaw dataSize (finishSend result bytesSent sends answers) where
  consecutive := h.consecutive
  within := h.within
  reports := by
    have hne : DDResult.genericNotReady ≠ .success := by decide
    have haccepted := h.accepted
    rcases hresult with rfl | rfl
    · exact .inl ⟨by simp [finishSend, hne.symm], haccepted.symm⟩
    · by_cases hsent : 0 < bytesSent
      · exact .inl ⟨by simp [finishSend, hsent], haccepted.symm⟩
      · exact .inr ⟨by simp [finishSend, hsent], by rw [finishSend, haccepted]; omega⟩

theorem OnlyWaits.result {answer : TimedAnswer} (h : OnlyWaits (answer :: answers))
    (hfailed : answer.result ≠ .success) : devDriverToDDResult answer.result = .genericNotReady :=
  devDriverToDDResult_notReady.mpr ((h answer List.mem_cons_self).resolve_left hfailed)

theorem transfersRaw_loop (hsize : dataSize < 2 ^ 32) (hwaits : OnlyWaits answers)
    (hsent : SentSoFar dataSize bytesSent sends)
    (h : TimedSocket.sendRawLoop dataSize answers bytesSent timeoutRemaining sends = some r) :
    TransfersRaw dataSize r := by
  induction answers generalizing bytesSent timeoutRemaining sends with
  | nil =>
    obtain rfl := timed_sendRawLoop_end (.inl rfl) h
    exact hsent.finish (.inl rfl)
  | cons answer answers ih =>
    by_cases hrest : bytesSent < dataSize
    · have hadd := hsent.add hsize hrest answer.result
      rw [timed_sendRawLoop_cons hrest] at h
      dsimp only at h
      split at h
      · rename_i haccepted
        rw [acceptedSize, show (sliceAt dataSize bytesSent answer.result).result = _ from haccepted,
          if_pos rfl] at hadd
        split at h
        · exact ih (fun a ha => hwaits a (List.mem_cons_of_mem answer ha)) hadd h
        · split at h
          · cases h
            exact hadd.finish (.inr rfl)
          · cases h
            exact hadd.finish (.inl rfl)
      · rename_i hfailed
        rw [acceptedSize, if_neg (show (sliceAt dataSize bytesSent answer.result).result ≠ _ from
          hfailed), Nat.add_zero] at hadd
        cases h
        exact hadd.finish (.inr (hwaits.result hfailed))
    · obtain rfl := timed_sendRawLoop_end (.inr hrest) h
      exact hsent.finish (.inl rfl)

theorem timed_sendRawLoop_le (hsent : bytesSent ≤ dataSize % 2 ^ 32)
    (h : TimedSocket.sendRawLoop dataSize answers bytesSent timeoutRemaining sends = some r) :
    r.bytesSent ≤ dataSize % 2 ^ 32 := by
  induction answers generalizing bytesSent timeoutRemaining sends with
  | nil =>
    obtain rfl := timed_sendRawLoop_end (.inl rfl) h
    exact hsent
  | cons answer answers ih =>
    by_cases hrest : bytesSent < dataSize
    · have hslice : bytesSent + (sliceAt dataSize bytesSent answer.result).size ≤
          dataSize % 2 ^ 32 := by
        unfold sliceAt
        dsimp only
        omega
      rw [timed_sendRawLoop_cons hrest] at h
      dsimp only at h
      split at h
      · split at h
        · exact ih hslice h
        · split at h
          · cases h
            exact hslice
          · cases h
            exact hslice
      · cases h
        exact hsent
    · obtain rfl := timed_sendRawLoop_end (.inr hrest) h
      exact hsent

theorem timed_sendRawLoop_suffix
    (h : TimedSocket.sendRawLoop dataSize answers bytesSent timeoutRemaining sends = some r) :
    r.answers <:+ answers := by
  induction answers generalizing bytesSent timeoutRemaining sends with
  | nil =>
    obtain rfl := timed_sendRawLoop_end (.inl rfl) h
    exact List.suffix_refl []
  | cons answer answers ih =>
    have hleft := List.suffix_cons answer answers
    by_cases hrest : bytesSent < dataSize
    · rw [timed_sendRawLoop_cons hrest] at h
      dsimp only at h
      split at h
      · split at h
        · exact (ih h).trans hleft
        · split at h
          · cases h
            exact hleft
          · cases h
            exact hleft
      · cases h
        exact hleft
    · obtain rfl := timed_sendRawLoop_end (.inr hrest) h
      exact List.suffix_refl _

theorem timed_sendRawLoop_takes (hrest : bytesSent < dataSize)
    (h : TimedSocket.sendRawLoop dataSize answers bytesSent timeoutRemaining sends = some r) :
    r.answers.length < answers.length := by
  cases answers with
  | nil =>
    unfold TimedSocket.sendRawLoop at h
    rw [if_pos (by omega)] at h
    cases h
  | cons answer answers =>
    rw [timed_sendRawLoop_cons hrest] at h
    dsimp only at h
    split at h
    · split at h
      · exact Nat.lt_succ_of_le (timed_sendRawLoop_suffix h).length_le
      · split at h
        · cases h
          exact Nat.lt_succ_self _
        · cases h
          exact Nat.lt_succ_self _
    · cases h
      exact Nat.lt_succ_self _

theorem isSome_timed_sendRawLoop (hsize : dataSize < 2 ^ 32)
    (hanswers : dataSize ≤ bytesSent + answers.length) :
    (TimedSocket.sendRawLoop dataSize answers bytesSent timeoutRemaining sends).isSome := by
  induction answers generalizing bytesSent timeoutRemaining sends with
  | nil =>
    rw [timed_sendRawLoop_done (by simpa using hanswers)]
    rfl
  | cons answer answers ih =>
    rw [List.length_cons] at hanswers
    by_cases hrest : bytesSent < dataSize
    · have hslice : 0 < (sliceAt dataSize bytesSent answer.result).size := by
        have hmax : 0 < kMaxPayloadSizeInBytes := by decide
        unfold sliceAt
        dsimp only
        omega
      rw [timed_sendRawLoop_cons hrest]
      dsimp only
      split
      · split
        · exact ih (by omega)
        · split <;> rfl
      · rfl
    · rw [timed_sendRawLoop_done (by omega)]
      rfl

def AlwaysAccepts (answers : List TimedAnswer) : Prop :=
  ∀ answer ∈ answers, answer.result = .success

theorem timed_sendRawLoop_accepts (hsize : dataSize < 2 ^ 32) (haccepts : AlwaysAccepts answers)
    (hsent : 0 < bytesSent ∨ bytesSent < dataSize ∧ answers ≠ [])
    (h : TimedSocket.sendRawLoop dataSize answers bytesSent timeoutRemaining sends = some r) :
    r.result = .success ∧ 0 < r.bytesSent ∧
      bytesSent + answers.length ≤ r.bytesSent + r.answers.length := by
  induction answers generalizing bytesSent timeoutRemaining sends with
  | nil =>
    have hpos : 0 < bytesSent := hsent.resolve_right fun hnil => hnil.2 rfl
    obtain rfl := timed_sendRawLoop_end (.inl rfl) h
    refine ⟨?_, hpos, le_rfl⟩
    simp [finishSend]
  | cons answer answers ih =>
    by_cases hrest : bytesSent < dataSize
    · have hslice : 0 < (sliceAt dataSize bytesSent answer.result).size := by
        have hmax : 0 < kMaxPayloadSizeInBytes := by decide
        unfold sliceAt
        dsimp only
        omega
      rw [timed_sendRawLoop_cons hrest] at h
      rw [if_pos (haccepts answer List.mem_cons_self)] at h
      rw [List.length_cons]
      split at h
      · obtain ⟨hresult, hpos, hleft⟩ :=
          ih (fun a ha => haccepts a (List.mem_cons_of_mem answer ha)) (.inl (by omega)) h
        exact ⟨hresult, hpos, by omega⟩
      · split at h
        · cases h
          refine ⟨?_, ?_, ?_⟩ <;> simp [finishSend] <;> omega
        · cases h
          refine ⟨?_, ?_, ?_⟩ <;> simp [finishSend] <;> omega
    · obtain rfl := timed_sendRawLoop_end (.inr hrest) h
      have hpos : 0 < bytesSent := hsent.resolve_right fun hlt => hrest hlt.1
      refine ⟨?_, hpos, le_rfl⟩
      simp [finishSend]

end Raw

/-! ## Calls with a timeout -/

section WithTimeout

variable {dataSize : ℕ} {timeoutMillis : UInt32} {answers : List TimedAnswer}

theorem transfersRaw_of_call {r : TimedSend} (hsize : dataSize < 2 ^ 32)
    (hwaits : OnlyWaits answers)
    (h : TimedSocket.ddSocketSendRaw answers dataSize timeoutMillis = some r) :
    TransfersRaw dataSize r := by
  apply transfersRaw_loop hsize hwaits _ h
  exact ⟨consecutive_nil 0, fun _ hs => (List.not_mem_nil hs).elim, rfl⟩

theorem OnlyWaits.suffix {answers' : List TimedAnswer} (h : OnlyWaits answers)
    (hsuffix : answers' <:+ answers) : OnlyWaits answers' :=
  fun answer hanswer => h answer (hsuffix.subset hanswer)

variable {rounds retryCount offset bytesLeft : ℕ} {sends : List SessionSend}

theorem sendLoop_success {sends' : List SessionSend} (hsize : bytesLeft < 2 ^ 32)
    (hwaits : OnlyWaits answers) (hsends : Consecutive 0 sends)
    (haccepted : bytesAccepted sends = offset)
    (h : TimedSocket.sendLoop timeoutMillis rounds retryCount offset bytesLeft answers sends =
      some (.success, sends')) :
    Consecutive 0 sends' ∧ bytesAccepted sends' = offset + bytesLeft := by
  induction rounds generalizing retryCount offset bytesLeft answers sends with
  | zero => cases h
  | succ rounds ih =>
    rw [TimedSocket.sendLoop] at h
    split at h
    · obtain ⟨r, hraw, h⟩ := Option.bind_eq_some_iff.mp h
      have htransfers := transfersRaw_of_call hsize hwaits hraw
      have hsuffix := timed_sendRawLoop_suffix hraw
      have hadded : Consecutive 0 (sends ++ r.sends.map (SessionSend.shift offset)) := by
        rw [consecutive_append, haccepted, Nat.zero_add]
        exact ⟨hsends, htransfers.consecutive.shift offset⟩
      have hsum : bytesAccepted (sends ++ r.sends.map (SessionSend.shift offset)) =
          offset + bytesAccepted r.sends := by
        rw [bytesAccepted_append, bytesAccepted_shift, haccepted]
      have hle := timed_sendRawLoop_le (Nat.zero_le _) hraw
      rcases htransfers.reports with ⟨hresult, hbytes⟩ | ⟨hresult, hnone⟩
      · dsimp only at h
        rw [if_pos hresult] at h
        rw [← hbytes] at hsum
        obtain ⟨hconsecutive, htotal⟩ :=
          ih (by omega) (hwaits.suffix hsuffix) hadded hsum h
        rw [Nat.mod_eq_of_lt hsize] at hle
        exact ⟨hconsecutive, by omega⟩
      · have hne : DDResult.genericNotReady ≠ .success := by decide
        rw [hresult, if_neg hne] at h
        rw [hnone, Nat.add_zero] at hsum
        split at h
        · exact ih hsize (hwaits.suffix hsuffix) hadded hsum h
        · exact absurd (congrArg Prod.fst (Option.some.inj h)) hne
    · obtain ⟨-, rfl⟩ := Prod.mk.injEq .. ▸ Option.some.inj h
      exact ⟨hsends, by omega⟩

theorem sendLoop_large {r : DDResult × List SessionSend} (hsize : 2 ^ 32 ≤ bytesLeft)
    (h : TimedSocket.sendLoop timeoutMillis rounds retryCount offset bytesLeft answers sends =
      some r) : r.1 ≠ .success := by
  induction rounds generalizing retryCount offset bytesLeft answers sends with
  | zero => cases h
  | succ rounds ih =>
    rw [TimedSocket.sendLoop, if_pos (by omega)] at h
    obtain ⟨r', hraw, h⟩ := Option.bind_eq_some_iff.mp h
    have hle := timed_sendRawLoop_le (Nat.zero_le _) hraw
    split at h
    · exact ih (by omega) h
    · rename_i hfailed
      split at h
      · exact ih hsize h
      · cases h
        exact hfailed

theorem sendLoop_accepts (hsize : bytesLeft < 2 ^ 32) (haccepts : AlwaysAccepts answers)
    (hanswers : bytesLeft ≤ answers.length) (hrounds : answers.length < rounds) :
    ∃ sends', TimedSocket.sendLoop timeoutMillis rounds retryCount offset bytesLeft answers sends =
      some (.success, sends') := by
  induction rounds generalizing retryCount offset bytesLeft answers sends with
  | zero => exact absurd hrounds (Nat.not_lt_zero _)
  | succ rounds ih =>
    rw [TimedSocket.sendLoop]
    split
    · rename_i hleft
      have hreturns : (TimedSocket.ddSocketSendRaw answers bytesLeft timeoutMillis).isSome :=
        isSome_timed_sendRawLoop hsize (by omega)
      obtain ⟨r, hraw⟩ := Option.isSome_iff_exists.mp hreturns
      have hnil : answers ≠ [] := by
        rintro rfl
        rw [List.length_nil] at hanswers
        omega
      obtain ⟨hresult, hpos, hcount⟩ := timed_sendRawLoop_accepts hsize haccepts
        (.inr ⟨hleft, hnil⟩) hraw
      have htakes := timed_sendRawLoop_takes hleft hraw
      have hrest : AlwaysAccepts r.answers := fun answer hanswer =>
        haccepts answer ((timed_sendRawLoop_suffix hraw).subset hanswer)
      rw [hraw, Option.bind_some]
      rw [if_pos hresult]
      exact ih (by omega) hrest (by omega) (by omega)
    · exact ⟨sends, rfl⟩

end WithTimeout

/-- What is expected of the send calls with data of a size, for every timeout and every session that
accepts slices or is not ready for them. -/
structure SendTransfers (dataSize : ℕ) : Prop where
  raw : ∀ answers timeoutInMs r, OnlyWaits answers →
    TimedSocket.ddSocketSendRaw answers dataSize timeoutInMs = some r → TransfersRaw dataSize r
  rawReturns : ∀ answers timeoutInMs, dataSize ≤ answers.length →
    (TimedSocket.ddSocketSendRaw answers dataSize timeoutInMs).isSome
  complete : ∀ answers timeoutMillis sends, OnlyWaits answers →
    TimedSocket.ddSocketSendWithTimeout answers dataSize timeoutMillis = some (.success, sends) →
      Consecutive 0 sends ∧ bytesAccepted sends = dataSize
  succeeds : ∀ answers timeoutMillis, AlwaysAccepts answers → dataSize ≤ answers.length →
    ∃ sends, TimedSocket.ddSocketSendWithTimeout answers dataSize timeoutMillis =
      some (.success, sends)

def acceptsAll (n : ℕ) : List TimedAnswer := List.replicate n ⟨.success, 0⟩

theorem alwaysAccepts_acceptsAll (n : ℕ) : AlwaysAccepts (acceptsAll n) := by
  intro answer hanswer
  rw [List.eq_of_mem_replicate hanswer]

theorem withTimeout_large {dataSize : ℕ} {answers : List TimedAnswer} {timeoutMillis : UInt32}
    (hsize : 2 ^ 32 ≤ dataSize) :
    TimedSocket.ddSocketSendWithTimeout answers dataSize timeoutMillis ≠
      some (.success, sends) :=
  fun h => sendLoop_large hsize h rfl

/-- The send calls transfer everything, in slices that are not empty, if and only if there is less
than `2 ^ 32` bytes to send. -/
theorem send_transfers_iff (dataSize : ℕ) : SendTransfers dataSize ↔ dataSize < 2 ^ 32 := by
  constructor
  · intro h
    by_contra hlarge
    obtain ⟨sends, hsends⟩ := h.succeeds (acceptsAll dataSize) 0 (alwaysAccepts_acceptsAll dataSize)
      (by rw [acceptsAll, List.length_replicate])
    exact withTimeout_large (not_lt.mp hlarge) hsends
  · intro hsize
    constructor
    · intro answers timeoutInMs r hwaits hraw
      exact transfersRaw_of_call hsize hwaits hraw
    · intro answers timeoutInMs hanswers
      exact isSome_timed_sendRawLoop hsize (by omega)
    · intro answers timeoutMillis sends hwaits hcall
      obtain ⟨hconsecutive, htotal⟩ := sendLoop_success hsize hwaits (consecutive_nil 0) rfl hcall
      exact ⟨hconsecutive, htotal.trans (Nat.zero_add _)⟩
    · intro answers timeoutMillis haccepts hanswers
      exact sendLoop_accepts hsize haccepts hanswers (Nat.lt_succ_self _)

/-- The first slice of `2 ^ 32` bytes is empty, and so are all that follow. -/
theorem send_transfers_not : ¬ ∀ dataSize < 2 ^ 64, SendTransfers dataSize := by
  intro hall
  obtain ⟨sends, hsends⟩ := (hall (2 ^ 32) (by decide)).succeeds (acceptsAll (2 ^ 32)) 0
    (alwaysAccepts_acceptsAll _) (by rw [acceptsAll, List.length_replicate])
  exact withTimeout_large le_rfl hsends

end DevDriver.Analysis
