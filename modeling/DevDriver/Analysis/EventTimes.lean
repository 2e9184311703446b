import DevDriver.Analysis.EventTokens
import DevDriver.Model.EventProvider

/-!
# The time of an event

The timer of a provider tells the time of an event in units of 32 clocks.  A full timestamp is
rounded down once.
-/

namespace DevDriver.Analysis

open Library Model EventTimer

def runningTime (running : UInt64) : EventTimestamp → UInt64
  | .full timestamp _ => timestamp
  | .largeDelta delta _ => running + delta
  | .smallDelta _ => running

def decodedTime (running : UInt64) : EventTimestamp → UInt64
  | .smallDelta delta => running + delta.toUInt64
  | timestamp => runningTime running timestamp

def decodeTimestamps : UInt64 → List EventTimestamp → List UInt64
  | _, [] => []
  | running, timestamp :: timestamps =>
    decodedTime running timestamp :: decodeTimestamps (runningTime running timestamp) timestamps

def createTimestamps : List UInt64 → EventTimer → List EventTimestamp
  | [], _ => []
  | reading :: readings, timer =>
    (timer.createTimestamp reading).1 ::
      createTimestamps readings (timer.createTimestamp reading).2

/-- The whole units between the last reading that a token was written at and this one. -/
def unitsSince (last reading : UInt64) : ℕ := (reading.toNat - last.toNat) / 32

/-- A reading that gets a large delta is at least as far into its unit as the reading that the token
before it was written at, and one that gets a small delta is in the same unit as that. -/
def KeepsUnits : UInt64 → List UInt64 → Prop
  | _, [] => True
  | last, reading :: readings =>
    if last = 0 ∨ 2 ^ 48 - 1 < unitsSince last reading then KeepsUnits reading readings
    else if 15 < unitsSince last reading then
      last.toNat % 32 ≤ reading.toNat % 32 ∧ KeepsUnits reading readings
    else reading.toNat / 32 = last.toNat / 32 ∧ KeepsUnits last readings

theorem countBytes_spec {delta : UInt64} (hdelta : delta.toNat < 2 ^ 48) (rounds n : ℕ)
    (hn : n ≤ 6) (hrounds : 7 ≤ rounds + n) :
    n ≤ countBytes delta rounds n ∧ countBytes delta rounds n ≤ 6 ∧
      delta.toNat < 256 ^ countBytes delta rounds n := by
  induction rounds generalizing n with
  | zero => omega
  | succ rounds ih =>
    unfold countBytes
    by_cases hmore : 2 ^ (n * 8) - 1 < delta.toNat
    · have hlt : n ≠ 6 := by
        rintro rfl
        norm_num at hmore hdelta
        omega
      rw [if_pos hmore]
      have hrest := ih (n + 1) (by omega) (by omega)
      exact ⟨by omega, hrest.2⟩
    · have hpow : (256 : ℕ) ^ n = 2 ^ (n * 8) := by
        rw [Nat.mul_comm, pow_mul]
        norm_num
      have hpos : 0 < 2 ^ (n * 8) := Nat.two_pow_pos _
      rw [if_neg hmore, hpow]
      exact ⟨le_refl _, hn, by omega⟩

variable (timer : EventTimer) (reading : UInt64)

theorem createTimestamp_cases :
    (timer.createTimestamp reading =
        (.full (reading / kEventTimeUnit) timer.timestampFrequency,
          { timer with lastTimestamp := reading }) ∧
      (timer.lastTimestamp = 0 ∨
        2 ^ 48 - 1 < ((reading - timer.lastTimestamp) / kEventTimeUnit).toNat)) ∨
    (∃ n, timer.createTimestamp reading =
        (.largeDelta ((reading - timer.lastTimestamp) / kEventTimeUnit) n,
          { timer with lastTimestamp := reading }) ∧
      (1 ≤ n ∧ n ≤ 6 ∧ ((reading - timer.lastTimestamp) / kEventTimeUnit).toNat < 256 ^ n) ∧
      timer.lastTimestamp ≠ 0 ∧
      15 < ((reading - timer.lastTimestamp) / kEventTimeUnit).toNat ∧
      ((reading - timer.lastTimestamp) / kEventTimeUnit).toNat ≤ 2 ^ 48 - 1) ∨
    (timer.createTimestamp reading = (.smallDelta 0, timer) ∧ timer.lastTimestamp ≠ 0 ∧
      ((reading - timer.lastTimestamp) / kEventTimeUnit).toNat ≤ 15) := by
  unfold createTimestamp
  generalize hdelta : (reading - timer.lastTimestamp) / kEventTimeUnit = delta
  have hfull : delta > kEventTimestampThreshold ↔ 2 ^ 48 - 1 < delta.toNat := by
    rw [gt_iff_lt, UInt64.lt_iff_toNat_lt]
    rfl
  have hlarge : delta > kEventTimeDeltaThreshold ↔ 15 < delta.toNat := by
    rw [gt_iff_lt, UInt64.lt_iff_toNat_lt]
    rfl
  by_cases hneeds : delta > kEventTimestampThreshold ∨ timer.lastTimestamp = 0
  · left
    simp only [if_pos hneeds]
    exact ⟨trivial, hneeds.symm.imp_right hfull.mp⟩
  · rw [not_or, hfull] at hneeds
    by_cases hdelta' : delta > kEventTimeDeltaThreshold
    · right
      left
      have hbound : delta.toNat < 2 ^ 48 := by omega
      have hbytes := countBytes_spec hbound 7 1 (by omega) (by omega)
      refine ⟨countBytes delta 7 1, ?_, hbytes, hneeds.2, hlarge.mp hdelta', by omega⟩
      rw [if_neg (by rw [not_or, hfull]; exact hneeds), if_pos hdelta']
    · right
      right
      have hsmall : delta.toNat ≤ 15 := by
        rw [hlarge] at hdelta'
        omega
      have hzero : (delta / kEventTimeUnit).toUInt8 = 0 := by
        apply UInt8.toNat_inj.mp
        have hunit : kEventTimeUnit.toNat = 32 := rfl
        rw [UInt64.toNat_toUInt8, UInt64.toNat_div, hunit, Nat.div_eq_of_lt (by omega)]
        rfl
      refine ⟨?_, hneeds.2, hsmall⟩
      rw [if_neg (by rw [not_or, hfull]; exact hneeds), if_neg hdelta', hzero]

theorem createTimestamp_reset :
    timer.reset.createTimestamp reading =
      (.full (reading / kEventTimeUnit) timer.timestampFrequency,
        { timer with lastTimestamp := reading }) := by
  unfold createTimestamp
  rw [if_pos (.inr rfl)]
  rfl

theorem toNat_div_unit (n : UInt64) : (n / kEventTimeUnit).toNat = n.toNat / 32 := by
  rw [UInt64.toNat_div]
  rfl

theorem toNat_delta {last reading : UInt64} (h : last ≤ reading) :
    ((reading - last) / kEventTimeUnit).toNat = unitsSince last reading := by
  rw [toNat_div_unit, UInt64.toNat_sub_of_le _ _ h]
  rfl

theorem div_unit_eq_iff (m n : UInt64) :
    m / kEventTimeUnit = n / kEventTimeUnit ↔ m.toNat / 32 = n.toNat / 32 := by
  rw [← UInt64.toNat_inj, toNat_div_unit, toNat_div_unit]

theorem add_delta_eq_iff {last reading : UInt64} (h : last ≤ reading) :
    last / kEventTimeUnit + (reading - last) / kEventTimeUnit = reading / kEventTimeUnit ↔
      last.toNat % 32 ≤ reading.toNat % 32 := by
  have hle : last.toNat ≤ reading.toNat := UInt64.le_iff_toNat_le.mp h
  have hlt := reading.toNat_lt
  rw [← UInt64.toNat_inj, UInt64.toNat_add, toNat_delta h, toNat_div_unit, toNat_div_unit]
  unfold unitsSince
  omega

/-- By induction on the readings, each with the timer that the ones before it left. -/
theorem decode_eq_iff (readings : List UInt64)
    (hsorted : (timer.lastTimestamp :: readings).Pairwise (· ≤ ·)) :
    decodeTimestamps (timer.lastTimestamp / kEventTimeUnit) (createTimestamps readings timer) =
        readings.map (· / kEventTimeUnit) ↔
      KeepsUnits timer.lastTimestamp readings := by
  induction readings generalizing timer with
  | nil => exact iff_of_true rfl trivial
  | cons reading readings ih =>
    obtain ⟨hlast, hreadings⟩ := List.pairwise_cons.mp hsorted
    have hle : timer.lastTimestamp ≤ reading := hlast reading List.mem_cons_self
    have hskip : (timer.lastTimestamp :: readings).Pairwise (· ≤ ·) :=
      List.pairwise_cons.mpr ⟨fun r hr => hlast r (List.mem_cons_of_mem _ hr),
        (List.pairwise_cons.mp hreadings).2⟩
    have hnext := ih { timer with lastTimestamp := reading } hreadings
    have hsame := ih timer hskip
    unfold createTimestamps KeepsUnits
    rw [List.map_cons, decodeTimestamps, List.cons_eq_cons]
    rcases createTimestamp_cases timer reading with
      ⟨hcreate, hfull⟩ | ⟨n, hcreate, -, hne, hlarge, hbound⟩ | ⟨hcreate, hne, hsmall⟩
    · rw [toNat_delta hle] at hfull
      rw [hcreate, if_pos hfull]
      exact (and_iff_right rfl).trans hnext
    · rw [toNat_delta hle] at hlarge hbound
      rw [hcreate, if_neg (by rw [not_or]; exact ⟨hne, by omega⟩), if_pos hlarge]
      -- what the decoder knows behind the delta is right, or it is wrong already
      show timer.lastTimestamp / kEventTimeUnit + _ = _ ∧ decodeTimestamps
        (timer.lastTimestamp / kEventTimeUnit +
          (reading - timer.lastTimestamp) / kEventTimeUnit) _ = _ ↔ _
      rw [add_delta_eq_iff hle]
      apply and_congr_right
      intro hunit
      rw [(add_delta_eq_iff hle).mpr hunit]
      exact hnext
    · rw [toNat_delta hle] at hsmall
      rw [hcreate, if_neg (by rw [not_or]; exact ⟨hne, by omega⟩), if_neg (by omega)]
      show timer.lastTimestamp / kEventTimeUnit + (0 : UInt8).toUInt64 = _ ∧
        decodeTimestamps (timer.lastTimestamp / kEventTimeUnit) _ = _ ↔ _
      have hzero : timer.lastTimestamp / kEventTimeUnit + (0 : UInt8).toUInt64 =
          timer.lastTimestamp / kEventTimeUnit := UInt64.add_zero _
      rw [hzero, div_unit_eq_iff, eq_comm]
      exact and_congr_right fun _ => hsame

/-! ## The parser -/

def timestampTokens : EventTimestamp → List EventToken
  | .full timestamp frequency => [.timestamp 0 frequency timestamp]
  | .largeDelta delta numBytes => [.timeDelta 0 (leBytes numBytes delta.toNat)]
  | .smallDelta _ => []

def timestampDelta : EventTimestamp → ℕ
  | .smallDelta delta => delta.toNat
  | _ => 0

/-- An event, and the reading of the clock for it. -/
structure StampedEvent where
  reading : UInt64
  eventId : UInt32
  index : UInt32
  payload : List UInt8

def stampedTokens : List StampedEvent → EventTimer → List EventToken
  | [], _ => []
  | e :: es, timer =>
    timestampTokens (timer.createTimestamp e.reading).1 ++
      .data (timestampDelta (timer.createTimestamp e.reading).1) e.eventId e.index e.payload ::
        stampedTokens es (timer.createTimestamp e.reading).2

def stampedStream (providerId : UInt32) (start : UInt64) (events : List StampedEvent)
    (timer : EventTimer) : List EventToken :=
  .provider 0 providerId 0
      (BaseEventProvider.fullTimestamp (timer.reset.createTimestamp start).1).2
      (BaseEventProvider.fullTimestamp (timer.reset.createTimestamp start).1).1 ::
    stampedTokens events (timer.reset.createTimestamp start).2

theorem tokenEvents_append (rules : TokenRules) (stream : EventStreamInfo)
    (tokens tokens' : List EventToken) :
    tokenEvents rules stream (tokens ++ tokens') =
      tokenEvents rules stream tokens ++
        tokenEvents rules (streamAfterAll stream tokens) tokens' := by
  induction tokens generalizing stream with
  | nil => rfl
  | cons t tokens ih =>
    rw [List.cons_append, tokenEvents, tokenEvents, ih, List.append_assoc]
    rfl

theorem wellFormed_timestampTokens :
    ∀ t ∈ timestampTokens (timer.createTimestamp reading).1, t.WellFormed := by
  rcases createTimestamp_cases timer reading with ⟨hcreate, -⟩ | ⟨n, hcreate, hn, -⟩ | ⟨hcreate, -⟩
  · simp [hcreate, timestampTokens, EventToken.WellFormed]
  · simp [hcreate, timestampTokens, EventToken.WellFormed, hn.2.1]
  · simp [hcreate, timestampTokens]

theorem advance_leBytes {stream : EventStreamInfo} {delta : UInt64} {n : ℕ} (hn : n ≤ 6)
    (hdelta : delta.toNat < 256 ^ n) :
    stream.advance (leBytes n delta.toNat) =
      { stream with timestamp := stream.timestamp + delta } := by
  unfold EventStreamInfo.advance
  rw [List.take_of_length_le (by rw [length_leBytes]; exact hn), leNat_leBytes_of_lt hdelta,
    UInt64.ofNat_toNat]

theorem streamAfterAll_timestampTokens (stream : EventStreamInfo) (timer : EventTimer)
    (reading : UInt64) :
    (streamAfterAll stream (timestampTokens (timer.createTimestamp reading).1)).timestamp =
      runningTime stream.timestamp (timer.createTimestamp reading).1 := by
  rcases createTimestamp_cases timer reading with ⟨hcreate, -⟩ | ⟨n, hcreate, hn, -⟩ | ⟨hcreate, -⟩
  · rw [hcreate]
    rfl
  · rw [hcreate]
    show (stream.advance (leBytes n _)).timestamp = _
    rw [advance_leBytes hn.2.1 hn.2.2]
    rfl
  · rw [hcreate]
    rfl

theorem timestampDelta_createTimestamp : timestampDelta (timer.createTimestamp reading).1 = 0 := by
  rcases createTimestamp_cases timer reading with ⟨hcreate, -⟩ | ⟨n, hcreate, -⟩ | ⟨hcreate, -⟩
  · rw [hcreate]
    rfl
  · rw [hcreate]
    rfl
  · rw [hcreate]
    rfl

theorem eventTime_createTimestamp (stream : EventStreamInfo) (timer : EventTimer)
    (reading : UInt64) :
    parserRules.eventTime
        (streamAfterAll stream (timestampTokens (timer.createTimestamp reading).1))
        (eventTokenHeader .data (timestampDelta (timer.createTimestamp reading).1)) =
      decodedTime stream.timestamp (timer.createTimestamp reading).1 := by
  have hrunning : decodedTime stream.timestamp (timer.createTimestamp reading).1 =
      runningTime stream.timestamp (timer.createTimestamp reading).1 := by
    rcases createTimestamp_cases timer reading with ⟨hcreate, -⟩ | ⟨n, hcreate, -⟩ | ⟨hcreate, -⟩
    · rw [hcreate]
      rfl
    · rw [hcreate]
      rfl
    · rw [hcreate]
      exact UInt64.add_zero _
  rw [timestampDelta_createTimestamp, hrunning, ← streamAfterAll_timestampTokens]
  show _ + headerDelta (eventTokenHeader .data 0) * kEventTimeUnit = _
  rw [headerDelta_eventTokenHeader _ (by omega)]
  exact UInt64.add_zero _

theorem tokenEvents_timestampTokens (rules : TokenRules) (stream : EventStreamInfo)
    (timestamp : EventTimestamp) : tokenEvents rules stream (timestampTokens timestamp) = [] := by
  cases timestamp <;> rfl

theorem times_stampedTokens (events : List StampedEvent) (stream : EventStreamInfo)
    (timer : EventTimer) :
    (tokenEvents parserRules stream (stampedTokens events timer)).map (·.1.timestamp) =
      decodeTimestamps stream.timestamp (createTimestamps (events.map (·.reading)) timer) := by
  induction events generalizing stream timer with
  | nil => rfl
  | cons e events ih =>
    unfold stampedTokens
    rw [tokenEvents_append, tokenEvents_timestampTokens, List.nil_append, tokenEvents]
    simp only [EventToken.event, EventToken.streamAfter, Option.toList_some, List.singleton_append,
      List.map_cons, createTimestamps, decodeTimestamps, ih, eventTime_createTimestamp,
      streamAfterAll_timestampTokens]

theorem wellFormed_stampedTokens (events : List StampedEvent)
    (hpayload : ∀ e ∈ events, e.payload.length < 2 ^ 64) (timer : EventTimer) :
    ∀ t ∈ stampedTokens events timer, t.WellFormed := by
  induction events generalizing timer with
  | nil => simp [stampedTokens]
  | cons e events ih =>
    intro t ht
    rcases List.mem_append.mp ht with htime | hrest
    · exact wellFormed_timestampTokens timer e.reading t htime
    · rcases List.mem_cons.mp hrest with rfl | hrest
      · exact hpayload e List.mem_cons_self
      · exact ih (fun e' he' => hpayload e' (List.mem_cons_of_mem _ he')) _ t hrest

/-- What a parser and a decoder get is right for every event of a stream if and only if the readings
of the clock keep their units. -/
theorem timestamps_survive_iff (providerId : UInt32) (timer : EventTimer) (start : UInt64)
    (events : List StampedEvent) (hpayload : ∀ e ∈ events, e.payload.length < 2 ^ 64)
    (hsorted : (start :: events.map (·.reading)).Pairwise (· ≤ ·)) :
    (decodeTimestamps 0 (createTimestamps (start :: events.map (·.reading)) timer.reset) =
        (start :: events.map (·.reading)).map (· / kEventTimeUnit) ∧
      ∃ reports p, EventParser.new.parseBuffer
          (encodeTokens (stampedStream providerId start events timer)) = some (reports, p) ∧
        (gatherReports reports).2.map (·.1.timestamp) =
          events.map (·.reading / kEventTimeUnit)) ↔
      KeepsUnits start (events.map (·.reading)) := by
  have hstart := createTimestamp_reset timer start
  have hdecode : decodeTimestamps 0
      (createTimestamps (start :: events.map (·.reading)) timer.reset) =
        (start :: events.map (·.reading)).map (· / kEventTimeUnit) ↔
      KeepsUnits start (events.map (·.reading)) := by
    unfold createTimestamps
    rw [hstart, decodeTimestamps, List.map_cons, List.cons_eq_cons]
    exact (and_iff_right rfl).trans
      (decode_eq_iff { timer with lastTimestamp := start } _ hsorted)
  rw [hdecode]
  apply and_iff_left_of_imp
  intro hkeeps
  have hwell : ∀ t ∈ stampedStream providerId start events timer, t.WellFormed := by
    intro t ht
    rcases List.mem_cons.mp ht with rfl | hrest
    · trivial
    · exact wellFormed_stampedTokens events hpayload _ t hrest
  obtain ⟨reports, p, hwhole, hevents⟩ := parseBuffer_encodeTokens hwell
  refine ⟨reports, p, hwhole, ?_⟩
  rw [hevents]
  show (tokenEvents parserRules _ (stampedTokens events _)).map (·.1.timestamp) = _
  rw [times_stampedTokens, hstart]
  have hrest := (decode_eq_iff { timer with lastTimestamp := start } _ hsorted).mpr hkeeps
  rw [List.map_map] at hrest
  exact hrest

/-- The second reading is in the next unit, and its event is given the unit of the first. -/
theorem timestamps_survive_not :
    ¬ decodeTimestamps 0 (createTimestamps [32, 64] (EventTimer.mk 1 0).reset) =
      [32, 64].map (· / kEventTimeUnit) := by
  decide +kernel

theorem timestamps_survive_iff_kept :
    (decodeTimestamps 0 (createTimestamps [33, 1058, 1070] (EventTimer.mk 1 0).reset) =
        [33, 1058, 1070].map (· / kEventTimeUnit) ∧
      ∃ reports p, EventParser.new.parseBuffer (encodeTokens (stampedStream 7 33
          [⟨1058, 1, 0, [5]⟩, ⟨1070, 2, 1, []⟩] ⟨1, 0⟩)) = some (reports, p) ∧
        (gatherReports reports).2.map (·.1.timestamp) =
          [⟨1058, 1, 0, [5]⟩, ⟨1070, 2, 1, []⟩].map (StampedEvent.reading · / kEventTimeUnit)) ↔
      KeepsUnits 33 [1058, 1070] :=
  timestamps_survive_iff 7 ⟨1, 0⟩ 33 [⟨1058, 1, 0, [5]⟩, ⟨1070, 2, 1, []⟩] (by simp) (by decide)

end DevDriver.Analysis
