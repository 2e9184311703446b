import DevDriver.Library.Reader
import DevDriver.Model.EventParser

/-!
# Reading an event stream byte by byte

What an event parser does is told best one byte at a time: it is in front of a header, inside a
token, inside the bytes of a time delta, or inside the payload of an event, and the next byte takes
it from one place to the next.
-/

namespace DevDriver.Analysis

open Library Model

/-! ## The reader -/

/-- Where a reader of tokens is.  It is lost behind a token that it does not accept. -/
inductive TokenPlace where
  | header
  | token (header : UInt8) (got : List UInt8)
  | delta (count : ℕ) (got : List UInt8)
  | payload (remaining : ℕ)
  | lost
  deriving DecidableEq

/-- A reader of tokens with what it knows of the stream. -/
structure TokenState where
  stream : EventStreamInfo
  place : TokenPlace
  deriving DecidableEq

/-- How many bytes follow a time delta token that announces this many, if it is accepted, and the
time of an event behind a header. -/
structure TokenRules where
  deltaBytes : UInt8 → Option ℕ
  eventTime : EventStreamInfo → UInt8 → UInt64

inductive ReadReport where
  | event (info : EventInfo)
  | byte (b : UInt8)
  deriving DecidableEq

def payloadPlace : ℕ → TokenPlace
  | 0 => .header
  | remaining + 1 => .payload (remaining + 1)

def deltaPlace : ℕ → TokenPlace
  | 0 => .header
  | count + 1 => .delta (count + 1) []

variable (rules : TokenRules)

def tokenRead (stream : EventStreamInfo) (header : UInt8) (token : List UInt8) :
    EventTokenType → TokenState × List ReadReport
  | .provider => (⟨.ofProviderToken token, .header⟩, [])
  | .timestamp => (⟨stream.withTimestampToken token, .header⟩, [])
  | .timeDelta =>
    match rules.deltaBytes (token.headD 0) with
    | none => (⟨stream, .lost⟩, [])
    | some count => (⟨stream, deltaPlace count⟩, [])
  | .data =>
    (⟨stream, payloadPlace (leNat (slice token 8 8))⟩,
      [.event (.ofDataToken token stream (rules.eventTime stream header))])

def tokenStep (s : TokenState) (b : UInt8) : TokenState × List ReadReport :=
  match s.place with
  | .header =>
    match EventTokenType.ofHeader b with
    | none => (⟨s.stream, .lost⟩, [])
    | some _ => (⟨s.stream, .token b []⟩, [])
  | .token header got =>
    match EventTokenType.ofHeader header with
    | none => (⟨s.stream, .lost⟩, [])
    | some type =>
      if got.length + 1 < type.size then (⟨s.stream, .token header (got ++ [b])⟩, [])
      else tokenRead rules s.stream header (got ++ [b]) type
  | .delta count got =>
    if got.length + 1 < count then (⟨s.stream, .delta count (got ++ [b])⟩, [])
    else (⟨s.stream.advance (got ++ [b]), .header⟩, [])
  | .payload remaining => (⟨s.stream, payloadPlace (remaining - 1)⟩, [.byte b])
  | .lost => (s, [])

def tokenReader : Reader UInt8 TokenState ReadReport where
  step := tokenStep rules

variable {rules} {stream : EventStreamInfo} {header : UInt8} {got bytes : List UInt8}
  {type : EventTokenType}

theorem tokenReader_lost (b : UInt8) :
    (tokenReader rules).step ⟨stream, .lost⟩ b = (⟨stream, .lost⟩, []) := rfl

theorem read_lost (bytes : List UInt8) :
    (tokenReader rules).read ⟨stream, .lost⟩ bytes = (⟨stream, .lost⟩, []) :=
  Reader.read_of_absorbing tokenReader_lost bytes

theorem lost_absorbs {s₀ : TokenState} (h : s₀.place = .lost) (b : UInt8) :
    (tokenReader rules).step s₀ b = (s₀, []) := by
  obtain ⟨stream, place⟩ := s₀
  obtain rfl : place = .lost := h
  rfl

theorem not_lost_taken {s : TokenState} {taken rest : List UInt8}
    (hread : ((tokenReader rules).read s (taken ++ rest)).1.place ≠ .lost) :
    ((tokenReader rules).read s taken).1.place ≠ .lost := by
  intro hlost
  apply hread
  rw [Reader.read_append, Reader.read_of_absorbing (lost_absorbs hlost)]
  exact hlost

theorem not_lost_split {s s' : TokenState} {taken rest : List UInt8} {out : List ReadReport}
    (hread : ((tokenReader rules).read s (taken ++ rest)).1.place ≠ .lost)
    (htaken : (tokenReader rules).read s taken = (s', out)) :
    ((tokenReader rules).read s' rest).1.place ≠ .lost := by
  rw [Reader.read_append_of htaken] at hread
  exact hread

theorem gathers_token (htype : EventTokenType.ofHeader header = some type) :
    (tokenReader rules).Gathers (fun got => ⟨stream, .token header got⟩) type.size
      fun token => tokenRead rules stream header token type := by
  intro got b
  simp only [tokenReader, tokenStep, htype]

theorem gathers_delta (count : ℕ) :
    (tokenReader rules).Gathers (fun got => ⟨stream, .delta count got⟩) count
      fun delta => (⟨stream.advance delta, .header⟩, []) := fun _ _ => rfl

theorem read_token_part (htype : EventTokenType.ofHeader header = some type)
    (hlength : got.length + bytes.length < type.size) :
    (tokenReader rules).read ⟨stream, .token header got⟩ bytes =
      (⟨stream, .token header (got ++ bytes)⟩, []) := (gathers_token htype).read_part hlength

theorem read_token (htype : EventTokenType.ofHeader header = some type) (hbytes : bytes ≠ [])
    (hlength : got.length + bytes.length = type.size) :
    (tokenReader rules).read ⟨stream, .token header got⟩ bytes =
      tokenRead rules stream header (got ++ bytes) type :=
  (gathers_token htype).read_all hbytes hlength

theorem read_delta_part {count : ℕ} (hlength : got.length + bytes.length < count) :
    (tokenReader rules).read ⟨stream, .delta count got⟩ bytes =
      (⟨stream, .delta count (got ++ bytes)⟩, []) := (gathers_delta count).read_part hlength

theorem read_delta {count : ℕ} (hbytes : bytes ≠ []) (hlength : got.length + bytes.length = count) :
    (tokenReader rules).read ⟨stream, .delta count got⟩ bytes =
      (⟨stream.advance (got ++ bytes), .header⟩, []) :=
  (gathers_delta count).read_all hbytes hlength

theorem read_payload {remaining : ℕ} (hlength : bytes.length ≤ remaining) :
    (tokenReader rules).read ⟨stream, payloadPlace remaining⟩ bytes =
      (⟨stream, payloadPlace (remaining - bytes.length)⟩, bytes.map .byte) := by
  induction bytes generalizing remaining with
  | nil => simp
  | cons b bytes ih =>
    cases remaining with
    | zero => exact absurd hlength (by simp)
    | succ remaining =>
      rw [List.length_cons] at hlength
      have hstep : (tokenReader rules).step ⟨stream, payloadPlace (remaining + 1)⟩ b =
          (⟨stream, payloadPlace remaining⟩, [.byte b]) := rfl
      have hrest := ih (show bytes.length ≤ remaining by omega)
      have hsub : remaining + 1 - (b :: bytes).length = remaining - bytes.length := by
        rw [List.length_cons]
        omega
      rw [Reader.read_cons, hstep, hrest, hsub]
      rfl

end DevDriver.Analysis
