import DevDriver.Model.EventStreamer

/-!
# The handles of an event streamer

Between two calls a streamer should hold either no handle, or one client and one parser together
with the receive thread.
-/

namespace DevDriver.Analysis

namespace EventStreamers

open Library Model HandleHeap EventStreamer

def Idle (t : StreamerRun) : Prop :=
  t.heap.clients = [] ∧ t.heap.parsers = [] ∧ t.streamer.threadJoinable = false

/-- The live handles are the ones that the streamer has, and its thread is running. -/
def Streaming (t : StreamerRun) : Prop :=
  ∃ c p, t.streamer.hEventClient = some c ∧ t.streamer.hEventParser = some p ∧
    t.heap.clients = [c] ∧ t.heap.parsers = [p] ∧ t.streamer.threadJoinable = true

/-- Every handle was destroyed once or is still the streamer's, nothing but live handles was used or
destroyed, and what had to be released is. -/
structure Tidy (t : StreamerRun) : Prop where
  faultless : t.heap.faulty = false
  held : Idle t ∨ Streaming t
  released : t.released = true → Idle t

/-- A call that begins without a thread and succeeds in all four steps, or that ends what has
begun. -/
def Paired (s : StreamerRun) : StreamerAction → Prop
  | .beginStreaming a => s.streamer.threadJoinable = false ∧ a.client = .success ∧
    a.parser = .success ∧ a.enable = .success ∧ a.start = .success
  | .endStreaming _ => s.streamer.threadJoinable = true

instance (s : StreamerRun) (a : StreamerAction) : Decidable (Paired s a) :=
  match a with
  | .beginStreaming _ => inferInstanceAs (Decidable (_ ∧ _ ∧ _ ∧ _ ∧ _))
  | .endStreaming _ => inferInstanceAs (Decidable (_ = _))

theorem devDriverToDDResult_eq_success {r : Result} :
    devDriverToDDResult r = .success ↔ r = .success := by
  cases r with
  | code value => exact iff_of_false (by show DDResult.unknown ≠ .success; decide) nofun
  | _ => decide

theorem not_streaming {t : StreamerRun} (h : t.streamer.threadJoinable = false) :
    ¬ Streaming t := by
  rintro ⟨_, _, -, -, -, -, hthread⟩
  rw [h] at hthread
  cases hthread

variable {w : HandleHeap}

theorem faulty_destroyClient (h : DDHandle) (hw : w.faulty = true ∨ w.clients = []) :
    (w.destroyClient h).faulty = true := by
  unfold destroyClient
  split
  · split
    · rename_i hmem
      rcases hw with hfaulty | hnone
      · exact hfaulty
      · rw [hnone] at hmem
        cases hmem
    · rfl
  · rfl

theorem faulty_destroyParser (h : DDHandle) (hw : w.faulty = true ∨ w.parsers = []) :
    (w.destroyParser h).faulty = true := by
  unfold destroyParser
  split
  · split
    · rename_i hmem
      rcases hw with hfaulty | hnone
      · exact hfaulty
      · rw [hnone] at hmem
        cases hmem
    · rfl
  · rfl

theorem clients_useClient (h : DDHandle) : (w.useClient h).clients = w.clients := by
  unfold useClient
  split <;> rfl

/-! ## Beginning -/

theorem begin_cases (s : EventStreamer) (w : HandleHeap) (a : BeginAnswers) :
    (a.client ≠ .success ∧ s.beginStreaming w a =
      (a.client, s, (w.destroyClient s.hEventClient).destroyParser s.hEventParser)) ∨
    ((s.beginStreaming w a).1 ≠ .success ∧ w.next ∈ (s.beginStreaming w a).2.2.clients ∧
      ¬ (s.threadJoinable = false ∧ a.client = .success ∧ a.parser = .success ∧
        a.enable = .success ∧ a.start = .success)) ∨
    (s.threadJoinable = false ∧ a.client = .success ∧ a.parser = .success ∧
      a.enable = .success ∧ a.start = .success) ∧
      s.beginStreaming w a = (.success, ⟨some w.next, some (w.next + 1), false, true, true⟩,
        { w with
          next := w.next + 2
          clients := w.next :: w.clients
          parsers := (w.next + 1) :: w.parsers }) := by
  by_cases hclient : a.client = .success
  · by_cases hparser : a.parser = .success
    · by_cases henable : a.enable = .success
      · by_cases hstart : s.threadJoinable = false ∧ a.start = .success
        · refine .inr (.inr ⟨⟨hstart.1, hclient, hparser, henable, hstart.2⟩, ?_⟩)
          simp [beginStreaming, hclient, hparser, henable, hstart,
            devDriverToDDResult, createClient, createParser,
            useClient]
        · have hfails : devDriverToDDResult (if s.threadJoinable then .error else a.start) ≠
              .success := by
            rw [ne_eq, devDriverToDDResult_eq_success]
            intro h
            split at h
            · cases h
            · rename_i hthread
              exact hstart ⟨eq_false_of_ne_true hthread, h⟩
          refine .inr (.inl ⟨?_, ?_, fun h => hstart ⟨h.1, h.2.2.2.2⟩⟩)
          · simp [beginStreaming, hclient, hparser, henable, hfails]
          · simp [beginStreaming, hclient, hparser, henable, hfails,
              clients_useClient, createClient, createParser]
      · refine .inr (.inl ⟨?_, ?_, fun h => henable h.2.2.2.1⟩)
        · simp [beginStreaming, hclient, hparser, henable]
        · simp [beginStreaming, hclient, hparser, henable, clients_useClient,
            createClient, createParser]
    · refine .inr (.inl ⟨?_, ?_, fun h => hparser h.2.2.1⟩)
      · simp [beginStreaming, hclient, hparser]
      · simp [beginStreaming, hclient, hparser, createClient]
  · exact .inl ⟨hclient, if_neg hclient⟩

theorem begin_tidy_iff {s : StreamerRun} (h : Tidy s) (a : BeginAnswers) :
    Tidy ⟨(s.streamer.beginStreaming s.heap a).2.1, (s.streamer.beginStreaming s.heap a).2.2,
      decide ((s.streamer.beginStreaming s.heap a).1 ≠ .success)⟩ ↔
      Paired s (.beginStreaming a) := by
  rcases begin_cases s.streamer s.heap a with ⟨hfailed, hbegin⟩ | ⟨hfailed, hclient, hunpaired⟩ |
    ⟨hpaired, hbegin⟩
  · rw [hbegin]
    refine iff_of_false ?_ fun hpaired => hfailed hpaired.2.1
    intro htidy
    have hidle := htidy.released (decide_eq_true hfailed)
    have hnone : s.heap.clients = [] := (h.held.resolve_right (not_streaming hidle.2.2)).1
    have hfaulty := faulty_destroyParser s.streamer.hEventParser
      (.inl (faulty_destroyClient s.streamer.hEventClient (.inr hnone)))
    exact Bool.false_ne_true (htidy.faultless.symm.trans hfaulty)
  · refine iff_of_false ?_ hunpaired
    intro htidy
    have hidle := htidy.released (decide_eq_true hfailed)
    rw [hidle.1] at hclient
    cases hclient
  · rw [hbegin]
    obtain ⟨hclients, hparsers, -⟩ := h.held.resolve_right (not_streaming hpaired.1)
    rw [hclients, hparsers]
    exact iff_of_true ⟨h.faultless, .inr ⟨_, _, rfl, rfl, rfl, rfl, rfl⟩, nofun⟩ hpaired

theorem end_tidy_iff {s : StreamerRun} (h : Tidy s) (join : Result) :
    Tidy ⟨(s.streamer.endStreaming s.heap join).2.1, (s.streamer.endStreaming s.heap join).2.2,
      decide ((s.streamer.endStreaming s.heap join).1 = .success)⟩ ↔
      Paired s (.endStreaming join) := by
  unfold endStreaming
  by_cases hthread : s.streamer.threadJoinable = true
  · obtain ⟨c, p, hclient, hparser, hclients, hparsers, -⟩ :=
      h.held.resolve_left fun hidle => by
        rw [hidle.2.2] at hthread
        cases hthread
    refine iff_of_true ?_ hthread
    simp only [if_pos hthread, devDriverToDDResult_eq_success]
    by_cases hjoin : join = .success
    · have hidle : ∀ streamer released, streamer.threadJoinable = false → Idle ⟨streamer,
          (s.heap.destroyParser s.streamer.hEventParser).destroyClient s.streamer.hEventClient,
          released⟩ := by
        intro streamer released hnone
        rw [hclient, hparser]
        simp [Idle, destroyParser, destroyClient, hclients, hparsers, hnone]
      rw [if_pos hjoin]
      refine ⟨?_, .inl (hidle _ _ ?_), fun _ => hidle _ _ ?_⟩
      · have hfaultless := h.faultless
        simp [destroyParser, destroyClient, hclient, hparser, hclients,
          hparsers, hfaultless]
      · exact decide_eq_false (not_not.mpr hjoin)
      · exact decide_eq_false (not_not.mpr hjoin)
    · rw [if_neg hjoin]
      refine ⟨h.faultless, .inr ⟨c, p, hclient, hparser, hclients, hparsers,
        decide_eq_true hjoin⟩, ?_⟩
      intro hreleased
      exact absurd (devDriverToDDResult_eq_success.mp (of_decide_eq_true hreleased)) hjoin
  · rw [if_neg hthread]
    refine iff_of_false ?_ hthread
    intro htidy
    have hnone := (h.held.resolve_right (not_streaming (eq_false_of_ne_true hthread))).2.1
    have hfaulty := faulty_destroyClient s.streamer.hEventClient
      (.inl (faulty_destroyParser s.streamer.hEventParser (.inr hnone)))
    have hfaultless := htidy.faultless
    simp only [if_pos] at hfaultless
    rw [if_neg hthread] at hfaultless
    exact Bool.false_ne_true (hfaultless.symm.trans hfaulty)

/-- The handles are released exactly once as long as the calls are paired and a
begin succeeds. -/
theorem tidy_iff_paired {s t : StreamerRun}
    {tr : List (StreamerRun × StreamerAction × DDResult)} (hs : streamerMachine.init s)
    (h : streamerMachine.Trace s tr t) :
    (Tidy t ∧ ∀ x ∈ tr, Tidy x.1) ↔ ∀ x ∈ tr, Paired x.1 x.2.1 := by
  have hinit : Tidy s := by
    cases hs
    exact ⟨rfl, .inl ⟨rfl, rfl, rfl⟩, fun _ => ⟨rfl, rfl, rfl⟩⟩
  apply h.forall_iff hinit
  intro s t a o hbefore hstep
  cases a with
  | beginStreaming a =>
    cases hstep
    exact begin_tidy_iff hbefore a
  | endStreaming join =>
    cases hstep
    exact end_tidy_iff hbefore join

/-- A thread that does not exit in time is joined by the second call. -/
theorem tidy_iff_paired_twice :
    Tidy ⟨⟨some 2, some 3, false, true, true⟩, ⟨4, [2], [3], false⟩, false⟩ := by
  have hrun : streamerMachine.run ⟨⟨none, none, false, false, false⟩, ⟨0, [], [], false⟩, true⟩
      [.beginStreaming ⟨.success, .success, .success, .success⟩, .endStreaming .notReady,
        .endStreaming .success, .beginStreaming ⟨.success, .success, .success, .success⟩] =
      some ⟨⟨some 2, some 3, false, true, true⟩, ⟨4, [2], [3], false⟩, false⟩ := rfl
  exact ((tidy_iff_paired rfl (.of_run hrun)).mpr (by decide)).1

/-- The second of two `EndStreaming` destroys what is destroyed. -/
theorem not_all_tidy : ¬ ∀ (s t : StreamerRun)
    (tr : List (StreamerRun × StreamerAction × DDResult)), streamerMachine.init s →
    streamerMachine.Trace s tr t → Tidy t := by
  intro hall
  have hrun : streamerMachine.run ⟨⟨none, none, false, false, false⟩, ⟨0, [], [], false⟩, true⟩
      [.beginStreaming ⟨.success, .success, .success, .success⟩, .endStreaming .success,
        .endStreaming .success] =
      some ⟨⟨some 0, some 1, true, false, false⟩, ⟨2, [], [], true⟩, true⟩ := rfl
  have hfaultless := (hall _ _ _ rfl (.of_run hrun)).faultless
  cases hfaultless

end EventStreamers

end DevDriver.Analysis
