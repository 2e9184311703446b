import DevDriver.Model.Socket

/-!
# The event streamer

`BeginStreaming` and `EndStreaming` of an `EventStreamer`, with the handles that they create and
destroy. The heap knows which handles are live and notes whether anything else was ever used or
passed to a destroy function.
-/

namespace DevDriver.Model

open Library

/-- The event clients and parsers that were created and not destroyed. -/
structure HandleHeap where
  next : ℕ
  clients : List ℕ
  parsers : List ℕ
  faulty : Bool

/-- A handle; nothing for `DD_API_INVALID_HANDLE`. -/
abbrev DDHandle : Type := Option ℕ

namespace HandleHeap

/-- `ddEventClientCreate`, where it succeeds. -/
def createClient (w : HandleHeap) : DDHandle × HandleHeap :=
  (some w.next, { w with next := w.next + 1, clients := w.next :: w.clients })

/-- `ddEventParserCreate`, where it succeeds. -/
def createParser (w : HandleHeap) : DDHandle × HandleHeap :=
  (some w.next, { w with next := w.next + 1, parsers := w.next :: w.parsers })

/-- `ddEventClientDestroy`. -/
def destroyClient (w : HandleHeap) (h : DDHandle) : HandleHeap :=
  match h with
  | some n => if n ∈ w.clients then { w with clients := w.clients.erase n }
    else { w with faulty := true }
  | none => { w with faulty := true }

/-- `ddEventParserDestroy`. -/
def destroyParser (w : HandleHeap) (h : DDHandle) : HandleHeap :=
  match h with
  | some n => if n ∈ w.parsers then { w with parsers := w.parsers.erase n }
    else { w with faulty := true }
  | none => { w with faulty := true }

/-- `ddEventClientEnableProviders` and `ddEventClientDisableProviders`. -/
def useClient (w : HandleHeap) (h : DDHandle) : HandleHeap :=
  if h.any (· ∈ w.clients) then w else { w with faulty := true }

end HandleHeap

structure EventStreamer where
  hEventClient : DDHandle
  hEventParser : DDHandle
  exitRequested : Bool
  isStreaming : Bool
  /-- `m_eventThread.IsJoinable()` -/
  threadJoinable : Bool

structure BeginAnswers where
  client : DDResult
  parser : DDResult
  enable : DDResult
  start : Result

/-- `BeginStreaming`.  `Start` fails for a thread that is already there.
eventStreamer.cpp:39-113, ddcPosixPlatform.cpp:172-217 -/
def EventStreamer.beginStreaming (s : EventStreamer) (w : HandleHeap) (a : BeginAnswers) :
    DDResult × EventStreamer × HandleHeap :=
  if a.client = .success then
    let (hEventClient, w) := w.createClient
    let s := { s with hEventClient := hEventClient }
    if a.parser = .success then
      let (hEventParser, w) := w.createParser
      let s := { s with hEventParser := hEventParser }
      let w := w.useClient s.hEventClient
      if a.enable = .success then
        let s := { s with exitRequested := false }
        let result := devDriverToDDResult (if s.threadJoinable then .error else a.start)
        if result = .success then
          (result, { s with isStreaming := true, threadJoinable := true }, w)
        else (result, s, w.useClient s.hEventClient)
      else (a.enable, s, w)
    else (a.parser, s, w)
  else (a.client, s, (w.destroyClient s.hEventClient).destroyParser s.hEventParser)

/-- `EndStreaming`, where `Join` gives the result `join`.
eventStreamer.cpp:118-140, ddcPosixPlatform.cpp:243-293 -/
def EventStreamer.endStreaming (s : EventStreamer) (w : HandleHeap) (join : Result) :
    DDResult × EventStreamer × HandleHeap :=
  let result := if s.threadJoinable then devDriverToDDResult join else .success
  let s := if s.threadJoinable then { s with
    exitRequested := true, threadJoinable := decide (join ≠ .success) } else s
  if result = .success then
    (result, { s with isStreaming := false },
      (w.destroyParser s.hEventParser).destroyClient s.hEventClient)
  else (result, s, w)

/-- The calls of a streamer, with the answers of what they call. -/
inductive StreamerAction where
  | beginStreaming (a : BeginAnswers)
  | endStreaming (join : Result)

/-- A streamer and the handles; `released` after a failed `BeginStreaming` and after a successful
`EndStreaming`. -/
structure StreamerRun where
  streamer : EventStreamer
  heap : HandleHeap
  released : Bool

/-- A streamer from its constructor on.
eventStreamer.cpp:16-25 -/
def streamerMachine : Machine StreamerRun StreamerAction DDResult where
  init s := s = ⟨⟨none, none, false, false, false⟩, ⟨0, [], [], false⟩, true⟩
  step s
  | .beginStreaming a =>
    let r := s.streamer.beginStreaming s.heap a
    some (⟨r.2.1, r.2.2, decide (r.1 ≠ .success)⟩, r.1)
  | .endStreaming join =>
    let r := s.streamer.endStreaming s.heap join
    some (⟨r.2.1, r.2.2, decide (r.1 = .success)⟩, r.1)

end DevDriver.Model
