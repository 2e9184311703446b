import DevDriver.Analysis.TableKeys

/-!
# Isolation of the peers of a manager

The session table is keyed by the session id alone, and nothing but an assertion compares the source
of a message with the remote client of the session it selects.
-/

namespace DevDriver.Analysis

open Library Model

variable {ρ : Type} [RoundTripTime ρ]

/-- Handling the message `m` leaves every session of the table whose remote client is not the
source of `m` as it was, and under its key. -/
def Isolates (m : MessageBuffer) (env : ManagerEnv) (s : SessionManager ρ) : Prop :=
  ∀ c, handleReceivedSessionMessage m env (env.start s) = some c →
    ∀ id pSession, s.sessions.lookup id = some pSession →
      (s.objects pSession).remoteClientId ≠ m.header.srcClientId →
      c.manager.objects pSession = s.objects pSession ∧
        c.manager.sessions.lookup id = some pSession

/-- The session the message selects, if any, belongs to the source of the message. -/
def SelectsOwnSession (m : MessageBuffer) (s : SessionManager ρ) : Prop :=
  ∀ pSession, selectedSession m s = some pSession →
    (s.objects pSession).remoteClientId = m.header.srcClientId

def withWindowSize (windowSize : ℕ) (m : MessageBuffer) : MessageBuffer :=
  { m with header := { m.header with windowSize := windowSize } }

theorem isolates_of_own {m : MessageBuffer} {env : ManagerEnv} {s : SessionManager ρ}
    (hcreated : Created s) (hown : SelectsOwnSession m s) : Isolates m env s := by
  intro c hc id r hr hforeign
  have hnew : r ≠ s.nextSession := (hcreated id r hr).ne
  cases handled_of_eq hc with
  | answered => exact ⟨rfl, hr⟩
  | refused hkind hs hsessions =>
    exact ⟨Function.update_of_ne hnew _ _, hsessions.lookup_of_old hr⟩
  | @opened bound sessionId last server fx hkind hserver hs hfree hfx =>
    rw [onSession_admitSession]
    exact ⟨Function.update_of_ne hnew _ _,
      (hs.filedOrNot hkind hfree s.nextSession fx).lookup_of_old hr⟩
  | @delivered pSession fx hselected hlookup hfx =>
    have hne : r ≠ pSession := fun h => hforeign (h ▸ hown pSession hselected)
    exact ⟨Function.update_of_ne hne _ _, hr⟩
  | @moved pSession fx hkind hnone hlookup halloc hfx =>
    have hne : r ≠ pSession := fun h =>
      hforeign (h ▸ hown pSession (selectedSession_of_initial hkind hnone hlookup))
    have hold : id ≠ initialSessionId m := by
      rintro rfl
      exact hne (Option.some.inj (hr.symm.trans hlookup))
    have hunknown : id ≠ m.header.sessionId := by
      rintro rfl
      exact nomatch hnone.symm.trans hr
    exact ⟨Function.update_of_ne hne _ _, (lookup_rekey_of_ne pSession hold hunknown).trans hr⟩
  | @lost pSession hkind hnone hlookup halloc =>
    have hne : r ≠ pSession := fun h =>
      hforeign (h ▸ hown pSession (selectedSession_of_initial hkind hnone hlookup))
    have hold : id ≠ initialSessionId m := by
      rintro rfl
      exact hne (Option.some.inj (hr.symm.trans hlookup))
    exact ⟨Function.update_of_ne hne _ _, (AList.lookup_erase_ne hold).trans hr⟩

theorem lastAvailableSize_handleMessage (pSession : SessionRef) {m : MessageBuffer}
    (hsyn : m.kind ≠ .syn) (hunknown : m.kind ≠ .unknown) (c : Ctx ρ) :
    (handleMessage pSession m c).session.sendWindow.lastAvailableSize = m.header.windowSize := by
  rw [(handleMessage_windows pSession m c).1]
  unfold dispatchMessage
  cases hkind : m.kind with
  | syn => exact absurd hkind hsyn
  | unknown => exact absurd hkind hunknown
  | _ => rfl

theorem exists_handled {m : MessageBuffer} (hsyn : m.kind ≠ .syn) (env : ManagerEnv)
    (c : ManagerCtx ρ) : ∃ c', handleReceivedSessionMessage m env c = some c' := by
  unfold handleReceivedSessionMessage route
  cases hkind : m.kind with
  | syn => exact absurd hkind hsyn
  | _ => exact ⟨_, rfl⟩

theorem not_isolates_of_foreign {m : MessageBuffer} {s : SessionManager ρ}
    {pSession : SessionRef} (hselected : selectedSession m s = some pSession)
    (hforeign : (s.objects pSession).remoteClientId ≠ m.header.srcClientId) :
    ∃ windowSize < 2 ^ 16, ¬ Isolates (withWindowSize windowSize m) calmEnv s := by
  obtain ⟨⟨id, hid⟩, hsyn, hunknown⟩ := lookup_of_selectedSession hselected
  -- a window size that the session does not have
  obtain ⟨windowSize, hsize, hne⟩ : ∃ windowSize < 2 ^ 16,
      windowSize ≠ (s.objects pSession).sendWindow.lastAvailableSize := by
    rcases Nat.eq_zero_or_pos (s.objects pSession).sendWindow.lastAvailableSize with h | h
    · exact ⟨1, by decide, by omega⟩
    · exact ⟨0, by decide, by omega⟩
  refine ⟨windowSize, hsize, fun hisolates => ?_⟩
  set m' := withWindowSize windowSize m with hm'
  have hselected' : selectedSession m' s = some pSession := hselected
  have hchanged : ∀ fx, (handleMessage pSession m' ⟨s.objects pSession, fx⟩).session ≠
      s.objects pSession := by
    intro fx hsame
    have hwindow := lastAvailableSize_handleMessage pSession (m := m') hsyn hunknown
      ⟨s.objects pSession, fx⟩
    rw [hsame] at hwindow
    exact hne hwindow.symm
  obtain ⟨c, hc⟩ := exists_handled (m := m') hsyn calmEnv (calmEnv.start s)
  have hkept := (hisolates c hc id pSession hid hforeign).1
  cases handled_of_eq hc with
  | answered hnone => exact nomatch hnone.symm.trans hselected'
  | refused hkind => exact hsyn hkind
  | opened hkind => exact hsyn hkind
  | @delivered r fx hr hlookup hfx =>
    obtain rfl := Option.some.inj (hr.symm.trans hselected')
    exact hchanged fx ((objects_onSession r _ _).symm.trans hkept)
  | @moved r fx hkind hnone hlookup halloc hfx =>
    obtain rfl := Option.some.inj
      ((selectedSession_of_initial hkind hnone hlookup).symm.trans hselected')
    exact hchanged fx ((objects_onSession r _ _).symm.trans hkept)
  | lost hkind hnone hlookup halloc => cases halloc

/-- In a reachable manager, a message of whatever window size leaves the sessions of other
clients alone just when the session it selects belongs to its source. -/
theorem session_messages_isolated_iff {s : SessionManager ρ}
    (hs : (sessionManagerMachine ρ).Reachable s) (m : MessageBuffer) :
    (∀ windowSize < 2 ^ 16, ∀ env, Isolates (withWindowSize windowSize m) env s) ↔
      SelectsOwnSession m s := by
  constructor
  · intro h pSession hselected
    by_contra hforeign
    obtain ⟨windowSize, hsize, hnot⟩ := not_isolates_of_foreign hselected hforeign
    exact hnot (h windowSize hsize calmEnv)
  · intro hown windowSize _ env
    exact isolates_of_own (created_reachable hs) hown

def clientOpened : List (ManagerAction × ManagerEnv) :=
  [(.establishSessionForClient ⟨16, 1, 1, 1⟩, calmEnv)]

def resetFrom (srcClientId : ClientId) : MessageBuffer := resetMessage srcClientId 2 1 .error 0

theorem session_messages_isolated_own : ∃ s : SessionManager ℚ,
    (s.objects 0).remoteClientId = 1 ∧ Isolates (resetFrom 1) calmEnv s := by
  obtain ⟨s, hs, hp⟩ := (reachable_manager 2 0).exists_of_run clientOpened
    (fun s => s.sessions.lookup 1 = some 0 ∧ (s.objects 0).remoteClientId = 1)
    (by decide +kernel)
  obtain ⟨hlookup, hremote⟩ := of_decide_eq_true hp
  refine ⟨s, hremote, (session_messages_isolated_iff hs (resetFrom 1)).mpr ?_ 0 (by decide)
    calmEnv⟩
  intro pSession hselected
  have hfound := (findOpenSession_eq_some.mp hselected).1
  obtain rfl := Option.some.inj (hlookup.symm.trans hfound)
  exact hremote

/-- A reset of client 3 closes the session to client 1. -/
theorem foreign_reset_closes : ¬ ∀ s : SessionManager ℚ, (sessionManagerMachine ℚ).Reachable s →
    ∀ m env, Isolates m env s := by
  intro hall
  obtain ⟨s, hs, hp⟩ := (reachable_manager 2 0).exists_of_run clientOpened
    (fun s => s.sessions.lookup 1 = some 0 ∧ (s.objects 0).remoteClientId = 1 ∧
      (s.objects 0).sessionState = .synSent ∧
      (handleReceivedSessionMessage (resetFrom 3) calmEnv (calmEnv.start s)).any fun c =>
        (c.manager.objects 0).sessionState = .closed) (by decide +kernel)
  obtain ⟨hlookup, hremote, hstate, hclosed⟩ := of_decide_eq_true hp
  obtain ⟨c, hc, hclosed⟩ := (Option.any_eq_true _ _).mp hclosed
  have hkept := (hall s hs (resetFrom 3) calmEnv c hc 1 0 hlookup (by rw [hremote]; decide)).1
  rw [hkept, hstate] at hclosed
  exact absurd hclosed (by decide)

end DevDriver.Analysis
