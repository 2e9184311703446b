import DevDriver.Analysis.Containers
import DevDriver.Analysis.DriverResumes
import DevDriver.Analysis.DriverSessions
import DevDriver.Analysis.OwnReplies
import DevDriver.Model.DriverControlClient

/-!
# The replies of the driver control server

A session answers each request that it takes with one response, whose command is the one that the
call expects, before it takes the next.
-/

namespace DevDriver.Analysis

open Library Model DriverControlCall DriverControlThreads

def AnswersCall (version : Version) (call : DriverControlCall) (bytes : List UInt8) : Prop :=
  bytes.head? = some (call.responseCommand version).toCode

/-! ## Responses -/

def responseTo (version : Version) : DriverControlMessage → DriverControlMessage
  | .pauseDriverRequest => .pauseDriverResponse
  | .resumeDriverRequest => .resumeDriverResponse
  | .queryNumGpusRequest => .queryNumGpusResponse
  | .queryDeviceClockModeRequest => .queryDeviceClockModeResponse
  | .setDeviceClockModeRequest => .setDeviceClockModeResponse
  | .queryDeviceClockRequest => .queryDeviceClockResponse
  | .queryMaxDeviceClockRequest => .queryMaxDeviceClockResponse
  | .queryDriverStatusRequest => .queryDriverStatusResponse
  | .stepDriverRequest =>
    if driverControlStepReturnStatusVersion ≤ version then .stepDriverResponseV2
    else .stepDriverResponse
  | .queryClientInfoRequest => .queryClientInfoResponse
  | .queryDeviceClockByModeRequest => .queryDeviceClockByModeResponse
  | .ignoreDriverRequest => .ignoreDriverResponse
  | command => command

theorem responseTo_requestCommand {version : Version} {call : DriverControlCall}
    (h : call.issues version = true) :
    responseTo version call.requestCommand = call.responseCommand version := by
  cases call with
  | advanceDriverState => exact if_pos (of_decide_eq_true h)
  | _ => rfl

def RespondsTo (command : DriverControlMessage) (session session' : DriverControlSession) : Prop :=
  ∃ data, session' = session.respond data ∧
    data.head? = some (responseTo session.version command).toCode

section Responses

variable {session : DriverControlSession} {s : DriverControlServer}

theorem head_sentBytes_respond {data : List UInt8} {code : UInt8} (h : data.head? = some code) :
    (session.respond data).sentBytes.head? = some code := by
  obtain ⟨rest, rfl⟩ := List.head?_eq_some_iff.mp h
  have hfirst : ∀ count, 0 < count →
      (readBytes count (writeBytes (code :: rest) session.payloadContainer.payload)).head? =
        some code := by
    intro count hcount
    rw [List.head?_eq_getElem?, getElem?_readBytes hcount (by decide)]
    rfl
  rw [DriverControlSession.sentBytes]
  apply hfirst
  split
  · exact Nat.succ_pos _
  · decide

theorem stepResponse_responds (result : Result) (session : DriverControlSession) :
    RespondsTo .stepDriverRequest session (s.stepResponse result session) := by
  rw [DriverControlServer.stepResponse]
  split
  · rename_i hversion
    refine ⟨_, rfl, ?_⟩
    rw [responseTo, if_pos hversion]
    rfl
  · rename_i hversion
    refine ⟨_, rfl, ?_⟩
    rw [responseTo, if_neg hversion]
    rfl

theorem processPayload_responds (call : DriverControlCall)
    (h : session.payloadContainer.driverControlCommand = call.requestCommand) :
    RespondsTo call.requestCommand session (s.processPayload session).2 ∨
      (call.requestCommand = .stepDriverRequest ∧
        (s.processPayload session).2 = { session with state := .stepDriver }) := by
  have hstep : RespondsTo .stepDriverRequest session (s.handleStepDriverRequest session).2 ∨
      (s.handleStepDriverRequest session).2 = { session with state := .stepDriver } := by
    rw [DriverControlServer.handleStepDriverRequest]
    split
    · exact .inr rfl
    · split
      · exact .inr rfl
      · exact .inl (stepResponse_responds _ _)
  rw [DriverControlServer.processPayload, h]
  cases call with
  | pauseDriver =>
    left
    simp only [requestCommand, DriverControlServer.handlePauseDriverRequest]
    split <;> exact ⟨_, rfl, rfl⟩
  | resumeDriver =>
    left
    simp only [requestCommand, DriverControlServer.handleResumeDriverRequest]
    split <;> exact ⟨_, rfl, rfl⟩
  | stepDriver numSteps => exact hstep.imp id fun hwait => ⟨rfl, hwait⟩
  | advanceDriverState => exact hstep.imp id fun hwait => ⟨rfl, hwait⟩
  | queryNumGpus => exact .inl ⟨_, rfl, rfl⟩
  | queryDeviceClockMode gpuIndex =>
    left
    simp only [requestCommand,
      DriverControlServer.handleQueryDeviceClockModeRequest]
    split <;> exact ⟨_, rfl, rfl⟩
  | queryClientInfo => exact .inl ⟨_, rfl, rfl⟩
  | setDeviceClockMode gpuIndex clockMode =>
    left
    simp only [requestCommand,
      DriverControlServer.handleSetDeviceClockModeRequest]
    split
    · split <;> exact ⟨_, rfl, rfl⟩
    · exact ⟨_, rfl, rfl⟩
  | queryDeviceClockByMode gpuIndex clockMode => exact .inl ⟨_, rfl, rfl⟩
  | queryDeviceClock gpuIndex => exact .inl ⟨_, rfl, rfl⟩
  | queryDriverStatus => exact .inl ⟨_, rfl, rfl⟩
  | ignoreDriver => exact .inl ⟨_, rfl, rfl⟩

end Responses

/-! ## A session with a request -/

def threadCommand : RequestThread → Option DriverControlMessage
  | .idle => none
  | .pausing _ => some .pauseDriverRequest
  | .clearing _ => some .pauseDriverRequest
  | .switching _ => some .resumeDriverRequest
  | .resuming _ => some .resumeDriverRequest
  | .signalling _ => some .resumeDriverRequest

def ThreadAgrees (r : ℕ) (session : DriverControlSession) (thread : RequestThread) : Prop :=
  requestOf thread = some r →
    threadCommand thread = some session.payloadContainer.driverControlCommand

inductive ProcessMove (u : DriverControlThreads) (es : List DriverControlEvent) (r : ℕ)
    (session : DriverControlSession) (command : DriverControlMessage) : Prop where
  | terminated (hu : u.sessions r = none) (hsent : sentTo r es = 0)
  | same (hu : u.sessions r = some session) (hthread : ThreadAgrees r session u.requestThread)
      (hsent : sentTo r es = 0)
  | waits (hstep : command = .stepDriverRequest)
      (hu : u.sessions r = some { session with state := .stepDriver }) (hsent : sentTo r es = 0)
  | answered (session' : DriverControlSession) (hu : u.sessions r = some session')
      (hresponds : RespondsTo command session session') (hsent : sentTo r es = 0)

section Requests

variable {t u : DriverControlThreads} {es : List DriverControlEvent} {r : ℕ}
  {session : DriverControlSession} {call : DriverControlCall}

theorem processMove_processPayload (hsession : t.sessions r = some session)
    (hcommand : session.payloadContainer.driverControlCommand = call.requestCommand)
    (h : t.processPayload r session = (u, es)) :
    ProcessMove u es r session call.requestCommand := by
  have hserver : ∀ es', sentTo r es' = 0 →
      ((t.setServer (t.server.processPayload session).1).setSession r
        (t.server.processPayload session).2, es') = (u, es) →
      ProcessMove u es r session call.requestCommand := by
    rintro es' hsent ⟨rfl, rfl⟩
    rcases processPayload_responds (s := t.server) call hcommand with hresponds | ⟨hstep, hwait⟩
    · exact .answered _ (Function.update_self r _ _) hresponds hsent
    · refine .waits hstep ?_ hsent
      rw [← hwait]
      exact Function.update_self r _ _
  have hanswer : ∀ data, data.head? = some (responseTo session.version call.requestCommand).toCode →
      (t.setSession r (session.respond data), []) = (u, es) →
      ProcessMove u es r session call.requestCommand := by
    rintro data hdata ⟨rfl, rfl⟩
    exact .answered _ (Function.update_self r _ _) ⟨data, rfl, hdata⟩ rfl
  have hprocess : session.payloadContainer.driverControlCommand = .stepDriverRequest →
      t.server.processPayload session = t.server.handleStepDriverRequest session := by
    intro hcommand
    rw [DriverControlServer.processPayload, hcommand]
  have hstep : sentTo r (stepEvents t.server r session) = 0 := by
    rw [stepEvents]
    split
    · rfl
    · split <;> rfl
  have hthread : ∀ thread, ThreadAgrees r session thread →
      (t.setRequestThread thread, []) = (u, es) →
      ProcessMove u es r session call.requestCommand := by
    rintro thread hagrees ⟨rfl, rfl⟩
    exact .same hsession hagrees rfl
  unfold processPayload at h
  cases call with
  | pauseDriver =>
    simp only [hcommand, requestCommand] at h
    split at h
    · exact hthread (.pausing r) (fun _ => congrArg some hcommand.symm) h
    · exact hanswer _ rfl h
  | resumeDriver =>
    simp only [hcommand, requestCommand] at h
    split at h
    · exact hthread (.switching r) (fun _ => congrArg some hcommand.symm) h
    · exact hanswer _ rfl h
  | stepDriver numSteps =>
    simp only [hcommand, requestCommand] at h
    rw [← hprocess hcommand] at h
    exact hserver _ hstep h
  | advanceDriverState =>
    simp only [hcommand, requestCommand] at h
    rw [← hprocess hcommand] at h
    exact hserver _ hstep h
  | _ =>
    simp only [hcommand, requestCommand] at h
    exact hserver [] rfl h

theorem processMove_continueRequest (h : t.continueRequest = some (u, es))
    (hsession : t.sessions r = some session)
    (hcommand : session.payloadContainer.driverControlCommand = call.requestCommand)
    (hthread : ThreadAgrees r session t.requestThread) (hsent : sentTo r es = 0) :
    ProcessMove u es r session call.requestCommand := by
  have hfinish : ∀ (t' : DriverControlThreads) r' data command, t'.sessions = t.sessions →
      requestOf t.requestThread = some r' → threadCommand t.requestThread = some command →
      data.head? = some (responseTo session.version command).toCode →
      t'.finishRequest r' data = u → ProcessMove u es r session call.requestCommand := by
    rintro t' r' data command hsessions hr' hof hdata rfl
    by_cases hr : r = r'
    · obtain rfl := hr
      refine .answered (session.respond data) ?_ ⟨data, rfl, ?_⟩ hsent
      · rw [finishRequest, hsessions, hsession]
        exact Function.update_self r _ _
      · obtain rfl := Option.some.inj (hof.symm.trans (hthread hr'))
        rw [← hcommand]
        exact hdata
    · refine .same ?_ ?_ hsent
      · rw [sessions_finishRequest data hr, hsessions]
        exact hsession
      · rw [requestThread_finishRequest]
        intro h
        cases h
  have hgoOn : ∀ thread, u.sessions = t.sessions → u.requestThread = thread →
      requestOf thread = requestOf t.requestThread →
      threadCommand thread = threadCommand t.requestThread →
      ProcessMove u es r session call.requestCommand := by
    rintro thread hsessions rfl hsame hcommands
    refine .same (by rw [hsessions]; exact hsession) ?_ hsent
    rw [ThreadAgrees, hsame, hcommands]
    exact hthread
  rw [continueRequest] at h
  split at h
  · cases h
  · rename_i r' heq
    cases h
    exact hgoOn (.clearing r') rfl rfl (by rw [heq]; rfl) (by rw [heq]; rfl)
  · rename_i r' heq
    obtain ⟨hu, -⟩ := Prod.mk.inj (Option.some.inj h)
    exact hfinish (t.setServer t.server.clearEvent) r' _ .pauseDriverRequest rfl
      (by rw [heq]; rfl) (by rw [heq]; rfl) rfl hu
  · rename_i r' heq
    split at h
    · cases h
      exact hgoOn (.signalling r') rfl rfl (by rw [heq]; rfl) (by rw [heq]; rfl)
    · cases h
      exact hgoOn (.signalling r') rfl rfl (by rw [heq]; rfl) (by rw [heq]; rfl)
    · cases h
      exact hgoOn (.resuming r') rfl rfl (by rw [heq]; rfl) (by rw [heq]; rfl)
    · cases h
      exact hgoOn (.resuming r') rfl rfl (by rw [heq]; rfl) (by rw [heq]; rfl)
    · obtain ⟨hu, -⟩ := Prod.mk.inj (Option.some.inj h)
      exact hfinish t r' _ .resumeDriverRequest rfl (by rw [heq]; rfl) (by rw [heq]; rfl) rfl hu
  · rename_i r' heq
    cases h
    exact hgoOn (.signalling r') rfl rfl (by rw [heq]; rfl) (by rw [heq]; rfl)
  · rename_i r' heq
    obtain ⟨hu, -⟩ := Prod.mk.inj (Option.some.inj h)
    exact hfinish (t.setServer t.server.signalEvent) r' _ .resumeDriverRequest rfl
      (by rw [heq]; rfl) (by rw [heq]; rfl) rfl hu

theorem processMove_of_same {command : DriverControlMessage}
    (hsession : t.sessions r = some session)
    (hthread : ThreadAgrees r session t.requestThread) (hsame : SessionsSame t u)
    (hsent : sentTo r es = 0) : ProcessMove u es r session command := by
  refine .same ?_ ?_ hsent
  · rw [hsame.sessions]
    exact hsession
  · rw [hsame.requestThread]
    exact hthread

theorem processMove_of_step (h : SessionsKept t) {a : DriverControlAction}
    (hstep : t.step a = some (u, es)) (hsession : t.sessions r = some session)
    (hstate : session.state = .processPayload)
    (hcommand : session.payloadContainer.driverControlCommand = call.requestCommand)
    (hthread : ThreadAgrees r session t.requestThread) :
    ProcessMove u es r session call.requestCommand := by
  cases sessionStep_of_step hstep with
  | same hsame hsent => exact processMove_of_same hsession hthread hsame (hsent r)
  | established session' _ hsessions _ hrequest hsent =>
    refine .same ?_ (hrequest ▸ hthread) (hsent r)
    rw [hsessions, Function.update_of_ne (Nat.ne_of_lt (h.fresh r session hsession))]
    exact hsession
  | terminated r' _ _ hsessions _ hrequest hsent =>
    by_cases heq : r = r'
    · refine .terminated ?_ (hsent r)
      rw [hsessions, heq, Function.update_self]
    · refine .same ?_ (hrequest ▸ hthread) (hsent r)
      rw [hsessions, Function.update_of_ne heq]
      exact hsession
  | updated r' session' receive send hidle hsession' hupdate =>
    by_cases hr : r = r'
    · obtain rfl := hr
      obtain rfl : session = session' := Option.some.inj (hsession.symm.trans hsession')
      unfold DriverControlThreads.updateSession at hupdate
      rw [hstate] at hupdate
      exact processMove_processPayload hsession hcommand hupdate
    · obtain ⟨-, -, hothers, hsent, hrequest⟩ :=
        updateSession_cases hsession' receive send hidle hupdate
      refine .same ((hothers r hr).trans hsession) (fun hof => ?_) (hsent r hr)
      rcases hrequest with hnone | ⟨-, -, hof'⟩
      · rw [hnone] at hof
        cases hof
      · exact absurd (Option.some.inj (hof.symm.trans hof')) hr
  | continued hcontinue hsent =>
    exact processMove_continueRequest hcontinue hsession hcommand hthread (hsent r)

end Requests

/-! ## The server answers in turn -/

def ServingAt (version : Version) (o : Option DriverControlCall) (session : DriverControlSession) :
    Prop :=
  match session.state with
  | .receivePayload => o = none
  | .processPayload => ∃ call, o = some call ∧ call.issues version = true ∧
      session.payloadContainer.driverControlCommand = call.requestCommand
  | .stepDriver => ∃ call, o = some call ∧ call.issues version = true ∧
      call.requestCommand = .stepDriverRequest
  | .sendPayload => ∃ call, o = some call ∧ AnswersCall version call session.sentBytes

structure Serving (version : Version) (r : ℕ) (o : Option DriverControlCall)
    (t : DriverControlThreads) : Prop where
  kept : SessionsKept t
  known : r < t.nextSession
  session : ∀ session, t.sessions r = some session → session.version = version ∧
    ServingAt version o session ∧ ThreadAgrees r session t.requestThread

section Serving

variable {t u : DriverControlThreads} {es : List DriverControlEvent} {r : ℕ} {version : Version}
  {o : Option DriverControlCall} {session session' : DriverControlSession}
  {call : DriverControlCall}

theorem payloadSentTo_of_unsent (h : sentTo r es = 0) : payloadSentTo r es = none := by
  rw [payloadSentTo, List.findSome?_eq_none_iff]
  intro e he
  have hnot := List.countP_eq_zero.mp h e he
  cases e with
  | sent r' bytes =>
    have hne : ¬ r' = r := fun heq => hnot (decide_eq_true heq)
    exact if_neg hne
  | _ => rfl

theorem progress_of_responds (hissues : call.issues session.version = true)
    (h : RespondsTo call.requestCommand session session') :
    session'.version = session.version ∧ session'.state = .sendPayload ∧
      AnswersCall session.version call session'.sentBytes := by
  obtain ⟨data, rfl, hdata⟩ := h
  rw [responseTo_requestCommand hissues] at hdata
  exact ⟨rfl, rfl, head_sentBytes_respond hdata⟩

theorem threadAgrees_of_state (h : SessionsKept t) (hsession : t.sessions r = some session)
    (hstate : session.state ≠ .processPayload) : ThreadAgrees r session t.requestThread := by
  intro hr
  obtain ⟨session', hsession', hprocess⟩ := h.busy r hr
  obtain rfl : session = session' := Option.some.inj (hsession.symm.trans hsession')
  exact absurd hprocess hstate

variable {a : DriverControlAction}

theorem Serving.next (h : Serving version r o t) (hstep : t.step a = some (u, es))
    {o' : Option DriverControlCall}
    (hsession : ∀ session, u.sessions r = some session → session.version = version ∧
      ServingAt version o' session ∧ ThreadAgrees r session u.requestThread) :
    Serving version r o' u :=
  ⟨h.kept.step hstep, lt_of_lt_of_le h.known (nextSession_le_of_step hstep), hsession⟩

theorem Serving.nextState (h : Serving version r o t) (hstep : t.step a = some (u, es))
    {o' : Option DriverControlCall} (hu : u.sessions r = some session')
    (hversion : session'.version = version) (hstate : session'.state ≠ .processPayload)
    (hprogress : ServingAt version o' session') : Serving version r o' u := by
  refine h.next hstep fun session hsession => ?_
  obtain rfl : session' = session := Option.some.inj (hu.symm.trans hsession)
  exact ⟨hversion, hprogress, threadAgrees_of_state (h.kept.step hstep) hu hstate⟩

theorem Serving.nextResponse (h : Serving version r (some call) t) (hstep : t.step a = some (u, es))
    (hsession : t.sessions r = some session) (hissues : call.issues version = true)
    (hu : u.sessions r = some session')
    (hresponds : RespondsTo call.requestCommand session session') :
    Serving version r (some call) u := by
  obtain ⟨rfl, -, -⟩ := h.session session hsession
  obtain ⟨hversion, hstate, hanswers⟩ := progress_of_responds hissues hresponds
  refine h.nextState hstep hu hversion ?_ ?_
  · rw [hstate]
    nofun
  · rw [ServingAt, hstate]
    exact ⟨call, rfl, hanswers⟩

theorem not_received_of_move {c c' : Control} {l : ControlLabel} (hmove : ControlMove c l es c')
    (hl : l ≠ .quiet) : DriverControlEvent.received r ∉ es := by
  cases hmove with
  | quiet => exact absurd rfl hl
  | pause | resume | tickLast | enterWait =>
    simp only [assertion]
    split <;> simp
  | _ => simp

theorem takesPayload_of_received (hstep : t.step a = some (u, es))
    (h : DriverControlEvent.received r ∈ es) : takesPayload r t a = true := by
  have hmove : ControlMove (control t) (label t a) es (control u) := controlMove_of_step hstep
  cases a with
  | setNumGpus | setDeviceClockCallback | setDriverInitClientId =>
    cases hstep
    cases h
  | sessionEstablished | sessionTerminated =>
    obtain ⟨-, ⟨⟩⟩ := Option.ite_none_right_eq_some.mp hstep
    cases h
  | updateSession r' receive send =>
    obtain ⟨-, hstep⟩ := Option.ite_none_right_eq_some.mp hstep
    obtain ⟨session, hsession, heq⟩ := Option.map_eq_some_iff.mp hstep
    unfold DriverControlThreads.updateSession at heq
    split at heq
    · rename_i hstate
      split at heq
      · cases heq
        obtain rfl : r = r' := by simpa using h
        simp [takesPayload, hsession, hstate]
      · cases heq
        cases h
    · have hnone : DriverControlEvent.received r ∉ (t.processPayload r' session).2 := by
        rw [processPayload]
        split
        · split <;> simp
        · split <;> simp
        · rw [stepEvents]
          split
          · simp
          · split <;> simp
        · simp
      rw [heq] at hnone
      exact absurd h hnone
    · split at heq
      · cases heq
        simp at h
      · cases heq
        cases h
    · split at heq <;>
      · cases heq
        cases h
  | continueRequest => exact absurd h (not_received_of_move hmove fun h => by cases h)
  | advanceDriverInitState => exact absurd h (not_received_of_move hmove fun h => by cases h)
  | driverTick => exact absurd h (not_received_of_move hmove fun h => by cases h)
  | continueDriver found timedOut => exact absurd h (not_received_of_move hmove fun h => by cases h)

/-- A session sends nothing, or the answer to the request it serves. -/
theorem Serving.step (h : Serving version r o t) (hquiet : takesPayload r t a = false)
    (hstep : t.step a = some (u, es)) :
    (payloadSentTo r es = none ∧ Serving version r o u) ∨
      ∃ call bytes, payloadSentTo r es = some bytes ∧ o = some call ∧
        AnswersCall version call bytes ∧ Serving version r none u := by
  cases hsession : t.sessions r with
  | none =>
    obtain ⟨hnone, hsent⟩ := terminated_step h.kept hstep hsession h.known
    refine .inl ⟨payloadSentTo_of_unsent hsent, h.next hstep fun session hu => ?_⟩
    rw [hnone] at hu
    cases hu
  | some session =>
    obtain ⟨hversion, hprogress, hthread⟩ := h.session session hsession
    have hterminated : u.sessions r = none → sentTo r es = 0 →
        payloadSentTo r es = none ∧ Serving version r o u := by
      intro hu hsent
      refine ⟨payloadSentTo_of_unsent hsent, h.next hstep fun session' hsession' => ?_⟩
      rw [hu] at hsession'
      cases hsession'
    by_cases hstate : session.state = .processPayload
    · rw [ServingAt, hstate] at hprogress
      obtain ⟨call, rfl, hissues, hcommand⟩ := hprogress
      left
      cases processMove_of_step h.kept hstep hsession hstate hcommand hthread with
      | terminated hu hsent => exact hterminated hu hsent
      | same hu hagrees hsent =>
        refine ⟨payloadSentTo_of_unsent hsent, h.next hstep fun session' hsession' => ?_⟩
        obtain rfl : session = session' := Option.some.inj (hu.symm.trans hsession')
        refine ⟨hversion, ?_, hagrees⟩
        rw [ServingAt, hstate]
        exact ⟨call, rfl, hissues, hcommand⟩
      | waits hwait hu hsent =>
        exact ⟨payloadSentTo_of_unsent hsent,
          h.nextState hstep hu hversion nofun ⟨call, rfl, hissues, hwait⟩⟩
      | answered session' hu hresponds hsent =>
        exact ⟨payloadSentTo_of_unsent hsent,
          h.nextResponse hstep hsession hissues hu hresponds⟩
    · cases sessionMove_of_step h.kept hstep hsession hstate with
      | terminated hu hsent => exact .inl (hterminated hu hsent)
      | same hu hsent =>
        exact .inl ⟨payloadSentTo_of_unsent hsent, h.nextState hstep hu hversion hstate hprogress⟩
      | received hreceived =>
        rw [takesPayload_of_received hstep hreceived] at hquiet
        cases hquiet
      | sent hsend hu hsent =>
        rw [ServingAt, hsend] at hprogress
        obtain ⟨call, rfl, hanswers⟩ := hprogress
        refine .inr ⟨call, session.sentBytes, ?_, rfl, hanswers,
          h.nextState hstep hu hversion nofun rfl⟩
        rw [hsent]
        simp [payloadSentTo]
      | answered hwait hdone hu hsent =>
        rw [ServingAt, hwait] at hprogress
        obtain ⟨call, rfl, hissues, hcommand⟩ := hprogress
        have hresponds : RespondsTo call.requestCommand session
            (t.server.stepResponse .success session) := by
          rw [hcommand]
          exact stepResponse_responds _ _
        exact .inl ⟨payloadSentTo_of_unsent hsent,
          h.nextResponse hstep hsession hissues hu hresponds⟩

end Serving

/-! ## The client -/

section Client

variable {version : Version} {r : ℕ} {timeoutInMs retryInMs : UInt32}
  {call : DriverControlCall}

theorem driverControlCommand_fill {bytes : List UInt8} {command : DriverControlMessage}
    (h : bytes.head? = some command.toCode) (c : SizedPayloadContainer) :
    (c.fill bytes).driverControlCommand = command := by
  obtain ⟨rest, rfl⟩ := List.head?_eq_some_iff.mp h
  rw [SizedPayloadContainer.driverControlCommand]
  change DriverControlMessage.ofCode
    (UInt8.ofNat (payloadField (writeBytes (command.toCode :: rest) c.payload) 0 1)) = _
  rw [payloadField_first rfl, UInt8.ofNat_toNat, DriverControlMessage.ofCode_toCode]

theorem head_sentBytes (version : Version) (call : DriverControlCall) :
    (call.sentBytes version).head? = some call.requestCommand.toCode := by
  have hfirst : ∀ count, 0 < count →
      (readBytes count call.container.payload).head? = some call.requestCommand.toCode := by
    intro count hcount
    rw [List.head?_eq_getElem?, getElem?_readBytes hcount (by decide)]
    rfl
  rw [sentBytes]
  apply hfirst
  split
  · exact Nat.succ_pos _
  · decide

theorem tellsApart_of_command {asked : DriverControlCall}
    (h : asked.responseCommand version ≠ call.responseCommand version) :
    TellsApart (driverControlClient version timeoutInMs retryInMs) (AnswersCall version) asked
      call := by
  intro bytes hanswers
  change call.result version bytes ≠ .success
  rw [result, driverControlCommand_fill hanswers, if_neg h]
  nofun

theorem Serving.receive {t u : DriverControlThreads} {o : Option DriverControlCall}
    (h : Serving version r o t) (hissues : call.issues version = true) {p : SessionPayload}
    (hp : p.1 = call.sentBytes version)
    (hstep : (driverControlSessionServer r).receive p t = some u) :
    o = none ∧ Serving version r (some call) u := by
  obtain ⟨htakes, hstep⟩ := Option.ite_none_right_eq_some.mp hstep
  obtain ⟨⟨u, es⟩, hu, rfl⟩ := Option.map_eq_some_iff.mp hstep
  have hreceives : ∃ session, t.sessions r = some session ∧
      session.state = .receivePayload := by
    simpa [takesPayload, Option.any_eq_true] using htakes
  obtain ⟨session, hsession, hstate⟩ := hreceives
  obtain ⟨hversion, hprogress, -⟩ := h.session session hsession
  rw [ServingAt, hstate] at hprogress
  refine ⟨hprogress, h.next hu fun session' hsession' => ?_⟩
  have hcopy := hu
  obtain ⟨hidle, hcopy⟩ := Option.ite_none_right_eq_some.mp hcopy
  rw [hsession] at hcopy
  have hupdate := Option.some.inj hcopy
  unfold DriverControlThreads.updateSession at hupdate
  dsimp only at hupdate
  rw [hstate] at hupdate
  cases hupdate
  have hself : some { session with
      payloadContainer := session.payloadContainer.fill p.1
      state := .processPayload } = some session' :=
    (Function.update_self r _ _).symm.trans hsession'
  cases hself
  refine ⟨hversion, ⟨call, rfl, hissues, ?_⟩, ?_⟩
  · apply driverControlCommand_fill
    rw [hp]
    exact head_sentBytes version call
  · intro hof
    change requestOf t.requestThread = _ at hof
    rw [hidle] at hof
    cases hof

theorem driverControl_answersInTurn (version : Version) (r : ℕ) (timeoutInMs retryInMs : UInt32) :
    AnswersInTurn (driverControlSessionServer r)
      (driverControlClient version timeoutInMs retryInMs) (AnswersCall version)
      (Serving version r) := by
  have hcases : ∀ o (a : DriverControlAction) t u reply, Serving version r o t →
      (driverControlSessionServer r).step a t = some (u, reply) →
      (reply = none ∧ Serving version r o u) ∨ ∃ call bytes, reply = some bytes ∧ o = some call ∧
        AnswersCall version call bytes ∧ Serving version r none u := by
    intro o a t u reply h hstep
    obtain ⟨hquiet, hstep⟩ := Option.ite_none_left_eq_some.mp hstep
    obtain ⟨⟨v, es⟩, hv, heq⟩ := Option.map_eq_some_iff.mp hstep
    cases heq
    exact h.step (Bool.eq_false_iff.mpr hquiet) hv
  refine ⟨fun o call t u h hissues hstep => h.receive hissues rfl hstep,
    fun o a t u h hstep => ?_, fun o a t u bytes h hstep => ?_⟩
  · rcases hcases o a t u none h hstep with ⟨-, hserves⟩ | ⟨call, bytes, hreply, -⟩
    · exact hserves
    · cases hreply
  · rcases hcases o a t u (some bytes) h hstep with ⟨hreply, -⟩ | ⟨call, b, hreply, ho, ha, hserves⟩
    · cases hreply
    · cases hreply
      exact ⟨call, ho, ha, hserves⟩

theorem serving_established {t : DriverControlThreads} (h : driverControlMachine.Reachable t)
    (hsession : t.sessions r = some (.new version)) : Serving version r none t := by
  have hkept : SessionsKept t :=
    h.invariant (fun _ => sessionsKept_init) fun _ _ _ _ _ ih hstep => ih.step hstep
  refine ⟨hkept, hkept.fresh r _ hsession, fun session heq => ?_⟩
  obtain rfl : DriverControlSession.new version = session :=
    Option.some.inj (hsession.symm.trans heq)
  exact ⟨rfl, rfl, threadAgrees_of_state hkept hsession nofun⟩

end Client

/-! ## Runs -/

/-- A late reply to the request asked would not be taken for one to the call. -/
def ExpectsOther (version : Version) (asked call : DriverControlCall) : Prop :=
  asked.responseCommand version ≠ call.responseCommand version

instance (version : Version) : DecidableRel (ExpectsOther version) :=
  fun asked call => inferInstanceAs (Decidable (asked.responseCommand version ≠
    call.responseCommand version))

/-- In every run in which no request is sent while the oldest one outstanding has the same response
command, the calls of a driver control client that succeed have taken the reply to their own
request, and so do those of any client whose server answers in turn and which takes no reply to
the oldest request outstanding for one to the request it sends. -/
theorem replies_taken_by_own_calls {version : Version} {r : ℕ} {timeoutInMs retryInMs : UInt32}
    {l l' : ClientLink DriverControlCall DriverControlThreads}
    {tr : List (ClientLink DriverControlCall DriverControlThreads ×
      ClientLinkAction DriverControlCall DriverControlAction ×
      Option (Returned DriverControlCall))}
    (hinit : (driverControlLinkMachine version r timeoutInMs retryInMs).init l)
    (htrace : (driverControlLinkMachine version r timeoutInMs retryInMs).Trace l tr l')
    (hapart : ∀ x ∈ tr, SendsApart (ExpectsOther version) x.1 x.2.1) :
    (∀ x ∈ tr, ∀ returned, x.2.2 = some returned → OwnReply returned) ∧
      ∀ (Q σ β : Type) (server : SessionServer σ β) (client : ProtocolClient Q)
        (mayAnswer : Q → List UInt8 → Prop) (Serves : Option Q → σ → Prop)
        (established : σ → Prop),
        AnswersInTurn server client mayAnswer Serves → (∀ s, established s → Serves none s) →
        ∀ l tr l', (clientLinkMachine server client established).init l →
          (clientLinkMachine server client established).Trace l tr l' →
          (∀ x ∈ tr, SendsApart (TellsApart client mayAnswer) x.1 x.2.1) →
          ∀ x ∈ tr, ∀ returned, x.2.2 = some returned → OwnReply returned := by
  refine ⟨?_, fun Q σ β server client mayAnswer Serves established hserver hstart l tr l' hinit
    htrace hapart => ownReply_of_trace hserver hstart hinit htrace hapart⟩
  apply ownReply_of_trace (driverControl_answersInTurn version r timeoutInMs retryInMs)
    (fun t ht => serving_established ht.1 ht.2) hinit htrace
  intro x hx
  exact (hapart x hx).mono fun _ _ => tellsApart_of_command

def newDriverLink : ClientLink DriverControlCall DriverControlThreads :=
  ⟨newDriver.sessionEstablished 8, 0, none, [], none, []⟩

def askFor (call : DriverControlCall) :
    List (ClientLinkAction DriverControlCall DriverControlAction) :=
  [.call call, .send .success, .serverReceive]

def serverAnswers : List (ClientLinkAction DriverControlCall DriverControlAction) :=
  [.server (.updateSession 0 .notReady .success), .server (.updateSession 0 .notReady .success)]

/-- The reply to a call comes in time, the one to another call too late for it, and a call with
another command follows. -/
def lateReply : List (ClientLinkAction DriverControlCall DriverControlAction) :=
  askFor .queryNumGpus ++ serverAnswers ++ [.receive] ++
    askFor .queryDriverStatus ++ [.receiveFailure .notReady] ++ serverAnswers ++
    askFor .queryNumGpus ++ [.receive]

/-- The reply to a call comes too late, and the number of GPUs changes before it is asked for
again. -/
def shiftedReply : List (ClientLinkAction DriverControlCall DriverControlAction) :=
  askFor .queryNumGpus ++ [.receiveFailure .notReady] ++ serverAnswers ++
    [.server (.setNumGpus 2)] ++ askFor .queryNumGpus ++ serverAnswers ++ [.receive]

theorem newDriverLink_init (timeoutInMs retryInMs : UInt32) :
    (driverControlLinkMachine 8 0 timeoutInMs retryInMs).init newDriverLink :=
  ⟨newDriver.sessionEstablished 8,
    ⟨.step (.init ⟨plainClientInfo, rfl⟩) (a := .sessionEstablished 8) rfl, rfl⟩, rfl⟩

theorem replies_taken_by_own_calls_late :
    ∃ l, (driverControlLinkMachine 8 0 0 1).Trace newDriverLink
        ((driverControlLinkMachine 8 0 0 1).transitions newDriverLink lateReply) l ∧
      ∃ x ∈ (driverControlLinkMachine 8 0 0 1).transitions newDriverLink lateReply,
        ∃ returned, x.2.2 = some returned ∧ returned.result = .success ∧
          ∃ reply, returned.reply = some reply ∧ reply.request = some returned.request := by
  obtain ⟨l, hrun, htest⟩ :=
    (driverControlLinkMachine 8 0 0 1).exists_of_run newDriverLink lateReply
      (fun _ => ((driverControlLinkMachine 8 0 0 1).transitions newDriverLink lateReply).any fun x
        => x.2.2.any fun returned => decide (returned.result = .success)) (by decide +kernel)
  obtain ⟨x, hx, hreturned⟩ := List.any_eq_true.mp htest
  obtain ⟨returned, hsome, hsuccess⟩ := (Option.any_eq_true _ _).mp hreturned
  have htrace : (driverControlLinkMachine 8 0 0 1).Trace newDriverLink
      ((driverControlLinkMachine 8 0 0 1).transitions newDriverLink lateReply) l := .of_run hrun
  have hapart : ∀ x ∈ (driverControlLinkMachine 8 0 0 1).transitions newDriverLink lateReply,
      SendsApart (ExpectsOther 8) x.1 x.2.1 := by
    decide +kernel
  have hown := (replies_taken_by_own_calls (newDriverLink_init 0 1) htrace hapart).1 x hx returned
    hsome
  exact ⟨l, htrace, x, hx, returned, hsome, of_decide_eq_true hsuccess,
    hown (of_decide_eq_true hsuccess)⟩

/-- A call whose reply was late makes the next one with its command return old data. -/
theorem late_reply_taken :
    ¬ ∀ version r timeoutInMs retryInMs l tr l',
      (driverControlLinkMachine version r timeoutInMs retryInMs).init l →
      (driverControlLinkMachine version r timeoutInMs retryInMs).Trace l tr l' →
      ∀ x ∈ tr, ∀ returned, x.2.2 = some returned → OwnReply returned := by
  intro hall
  obtain ⟨l, hrun, htest⟩ :=
    (driverControlLinkMachine 8 0 0 1).exists_of_run newDriverLink shiftedReply
      (fun _ => ((driverControlLinkMachine 8 0 0 1).transitions newDriverLink shiftedReply).any fun
        x => x.2.2.any fun returned => decide (returned.result = .success ∧
        returned.request = ⟨1, .queryNumGpus⟩ ∧ returned.reply.any fun reply => reply.request = some
        ⟨0, .queryNumGpus⟩ ∧ reply.bytes = queryNumGpusResponsePayload .success 0))
      (by decide +kernel)
  obtain ⟨x, hx, hreturned⟩ := List.any_eq_true.mp htest
  obtain ⟨returned, hsome, hfacts⟩ := (Option.any_eq_true _ _).mp hreturned
  obtain ⟨hsuccess, hrequest, hreply⟩ := of_decide_eq_true hfacts
  obtain ⟨reply, hreply, hold⟩ := (Option.any_eq_true _ _).mp hreply
  obtain ⟨hold, -⟩ := of_decide_eq_true hold
  obtain ⟨reply', hreply', hown⟩ := hall 8 0 0 1 newDriverLink _ l (newDriverLink_init 0 1)
    (.of_run hrun) x hx returned hsome hsuccess
  obtain rfl : reply = reply' := Option.some.inj (hreply.symm.trans hreply')
  rw [hold, hrequest] at hown
  exact absurd hown (by decide)

end DevDriver.Analysis
