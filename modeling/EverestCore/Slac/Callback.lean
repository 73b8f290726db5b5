import EverestCore.Machine.Loops
import EverestCore.Slac.Matching

/-! The callback of the matching state: a loop over the sessions, and for each session a
loop over its timeouts. The inner loop ends after three rounds at most, and what it makes
of a session depends on that session and the time only. -/
namespace EverestCore.Slac
open Machine

namespace MatchingState

/-- `all_sessions_failed`. -/
def allSessionsFailed (sessions : List MatchingSession) : Bool :=
  sessions.all (·.state == .failed)

end MatchingState

/-- The events that the callback of the state can have. -/
inductive MatchingEvent where
  | retryMatching
  | matchComplete
  | failed
  deriving DecidableEq, Repr

/-- What a callback returns: an event, or the time after which it wants to be called
again, where `none` is `DO_NOT_CALL_ME_AGAIN`. -/
inductive CallbackResult where
  | event (event : MatchingEvent)
  | wait (callBackMs : Option ℤ)
  deriving DecidableEq, Repr

/-- The shorter one of the time to wait so far and another one. -/
def shorterWait (callBackMs : Option ℤ) (remainingMs : ℤ) : Option ℤ :=
  match callBackMs with
  | none => some remainingMs
  | some ms => if ms > remainingMs then some remainingMs else some ms

/-- The loop over one session: the session, the time to wait so far, what was sent, and
whether the session was found complete. -/
structure SessionCheck where
  session : MatchingSession
  callBackMs : Option ℤ
  outputs : List SlacOutput := []
  complete : Bool := false
  deriving DecidableEq, Repr

namespace SessionCheck

variable (defs : SlacDefs) (now : ℤ) (check : SessionCheck)

/-- A round of the loop. -/
def round : Next SessionCheck :=
  if !check.session.timeoutActive then .leave check
  else if check.session.state = .matchComplete then .leave { check with complete := true }
  else
    let remainingMs := remainingMilliseconds check.session.nextTimeout now
    if remainingMs > 0 then
      .leave { check with callBackMs := shorterWait check.callBackMs remainingMs }
    else
      let (session, outputs) := check.session.handleTimeout defs now
      .again { check with session := session, outputs := check.outputs ++ outputs }

end SessionCheck

namespace MatchingState

variable (defs : SlacDefs) (now : ℤ)

/-- The loop over the sessions, each of which is looked at for at most `fuel` rounds.
`checked` are the sessions before this one. -/
def checkSessions (fuel : ℕ) (callBackMs : Option ℤ) (outputs : List SlacOutput)
    (checked : List MatchingSession) :
    List MatchingSession → Option (List MatchingSession × List SlacOutput × CallbackResult)
  | [] => some (checked, outputs, .wait callBackMs)
  | session :: rest =>
      match loop? (fun check => some (SessionCheck.round defs now check)) fuel
          { session := session, callBackMs := callBackMs } with
      | none => none
      | some check =>
          let outputs := outputs ++ check.outputs
          if check.complete then
            some (checked ++ check.session :: rest, outputs, .event .matchComplete)
          else if allSessionsFailed (checked ++ check.session :: rest) then
            some (checked ++ check.session :: rest, outputs, .event .failed)
          else checkSessions fuel check.callBackMs outputs (checked ++ [check.session]) rest

/-- `MatchingState::callback`. -/
def callback (fuel : ℕ) (matching : MatchingState) :
    Option (MatchingState × List SlacOutput × CallbackResult) :=
  if !matching.seenSlacParmReq && now ≥ matching.timeoutSlacParmReq then
    some (matching, [], .event .retryMatching)
  else
    let callBackMs :=
      if matching.seenSlacParmReq then none
      else some (remainingMilliseconds matching.timeoutSlacParmReq now)
    match checkSessions defs now fuel callBackMs [] [] matching.sessions with
    | none => none
    | some (sessions, outputs, result) =>
        some ({ matching with sessions := sessions }, outputs, result)

end MatchingState

namespace MatchingSession

variable (defs : SlacDefs) (now : ℤ) (session : MatchingSession)

/-- The callback handles a timeout of the session. -/
def timeoutIsOver : Bool :=
  session.timeoutActive && session.state ≠ .matchComplete &&
    remainingMilliseconds session.nextTimeout now ≤ 0

/-- What the callback makes of the session: the end of the sounding sets a new timeout,
which may be over as well. -/
def settle : MatchingSession × List SlacOutput :=
  if session.timeoutIsOver now then
    let first := session.handleTimeout defs now
    if first.1.timeoutIsOver now then
      ((first.1.handleTimeout defs now).1, first.2 ++ (first.1.handleTimeout defs now).2)
    else first
  else (session, [])

/-- Everything that the callback can do to a session. -/
inductive Settled : MatchingSession → List SlacOutput → Prop
  | rests (hPending : session.timeoutIsOver now = false) : Settled session []
  | fails (hState : session.state = .waitForStartAttenChar ∨
        session.state = .waitForAttenCharRsp ∨ session.state = .waitForSlacMatch) :
      Settled { session.ackTimeout with state := .failed }
        [.timedOut session.evMac session.runId session.state]
  | acks (hState : session.state = .receivedSlacMatch ∨ session.state = .failed) :
      Settled session.ackTimeout []
  | finalizes (hState : session.state = .sounding)
      (hPending : (session.ackTimeout.finalizeSounding defs now).1.timeoutIsOver now = false) :
      Settled (session.ackTimeout.finalizeSounding defs now).1
        [.timedOut session.evMac session.runId .sounding,
          .send session.evMac (session.createCmAttenCharInd defs)]
  | finalizesAndFails (hState : session.state = .sounding) :
      Settled { (session.ackTimeout.finalizeSounding defs now).1.ackTimeout with state := .failed }
        [.timedOut session.evMac session.runId .sounding,
          .send session.evMac (session.createCmAttenCharInd defs),
          .timedOut session.evMac session.runId .waitForAttenCharRsp]

theorem settled_settle :
    Settled defs now session (session.settle defs now).1 (session.settle defs now).2 := by
  unfold settle
  by_cases hOver : session.timeoutIsOver now = true
  · rw [if_pos hOver]
    have hNotComplete : session.state ≠ .matchComplete := by
      simp only [timeoutIsOver, Bool.and_eq_true, decide_eq_true_eq] at hOver
      exact hOver.1.2
    have hInactive (other : MatchingSession) :
        other.ackTimeout.timeoutIsOver now = false := rfl
    cases hState : session.state with
    | sounding =>
        simp only [handleTimeout, hState]
        split
        · exact .finalizesAndFails hState
        · next hPending => exact .finalizes hState (Bool.not_eq_true _ ▸ hPending)
    | matchComplete => exact absurd hState hNotComplete
    | receivedSlacMatch =>
        simp only [handleTimeout, hState, hInactive]
        exact .acks (.inl hState)
    | failed =>
        simp only [handleTimeout, hState, hInactive]
        exact .acks (.inr hState)
    | waitForStartAttenChar =>
        simp only [handleTimeout, hState]
        exact hState ▸ .fails (.inl hState)
    | waitForAttenCharRsp =>
        simp only [handleTimeout, hState]
        exact hState ▸ .fails (.inr (.inl hState))
    | waitForSlacMatch =>
        simp only [handleTimeout, hState]
        exact hState ▸ .fails (.inr (.inr hState))
  · rw [if_neg hOver]
    exact .rests (Bool.not_eq_true _ ▸ hOver)

variable {defs now session}

/-- After that no timeout is over. -/
theorem Settled.timeoutIsOver {settled : MatchingSession} {outputs : List SlacOutput}
    (h : Settled defs now session settled outputs) : settled.timeoutIsOver now = false := by
  cases h with
  | rests hPending => exact hPending
  | finalizes _ hPending => exact hPending
  | fails | acks | finalizesAndFails => rfl

/-- The session is complete, and the callback takes notice of it. -/
def isComplete (session : MatchingSession) : Bool :=
  session.timeoutActive && session.state = .matchComplete

/-- The time to wait after a session whose timeout is not over. -/
def waitAfter (now : ℤ) (callBackMs : Option ℤ) (session : MatchingSession) : Option ℤ :=
  if session.timeoutActive then
    shorterWait callBackMs (remainingMilliseconds session.nextTimeout now)
  else callBackMs

theorem settle_of_isComplete (h : session.isComplete = true) :
    session.settle defs now = (session, []) := by
  simp only [isComplete, Bool.and_eq_true, decide_eq_true_eq] at h
  have hPending : ¬ session.timeoutIsOver now = true := by simp [timeoutIsOver, h.2]
  rw [settle, if_neg hPending]

theorem Settled.isComplete {settled : MatchingSession} {outputs : List SlacOutput}
    (h : Settled defs now session settled outputs) : settled.isComplete = session.isComplete := by
  cases h with
  | rests => rfl
  | fails hState => rcases hState with h | h | h <;> simp [MatchingSession.isComplete, h]
  | acks hState =>
      rcases hState with h | h <;> simp [MatchingSession.isComplete, ackTimeout, h]
  | finalizes hState =>
      simp [MatchingSession.isComplete, hState, finalizeSounding, setNextTimeout]
  | finalizesAndFails hState => simp [MatchingSession.isComplete, hState]

end MatchingSession

namespace SessionCheck

variable (defs : SlacDefs) (now : ℤ) (check : SessionCheck)

/-- The end of the loop, when no timeout is over. -/
def finish : SessionCheck :=
  if check.session.isComplete then { check with complete := true }
  else { check with callBackMs := check.session.waitAfter now check.callBackMs }

theorem round_eq : check.round defs now =
    if check.session.timeoutIsOver now then
      .again { check with
        session := (check.session.handleTimeout defs now).1
        outputs := check.outputs ++ (check.session.handleTimeout defs now).2 }
    else .leave (check.finish now) := by
  unfold round finish
  by_cases hActive : check.session.timeoutActive
  · by_cases hComplete : check.session.state = .matchComplete
    · simp [hActive, hComplete, MatchingSession.timeoutIsOver, MatchingSession.isComplete]
    · by_cases hRemaining : remainingMilliseconds check.session.nextTimeout now ≤ 0
      · simp [hActive, hComplete, hRemaining, MatchingSession.timeoutIsOver]
      · have hPositive := not_le.mp hRemaining
        simp [hActive, hComplete, hPositive, MatchingSession.timeoutIsOver,
          MatchingSession.isComplete, MatchingSession.waitAfter]
  · simp [hActive, MatchingSession.timeoutIsOver, MatchingSession.isComplete,
      MatchingSession.waitAfter]

/-- The loop over a session ends after three rounds at most. -/
theorem loop_settle (fuel : ℕ) :
    loop? (fun check => some (SessionCheck.round defs now check)) (fuel + 3) check =
      some (finish now { check with
        session := (check.session.settle defs now).1
        outputs := check.outputs ++ (check.session.settle defs now).2 }) := by
  have hLeave (rest : ℕ) (other : SessionCheck) (h : other.session.timeoutIsOver now = false) :
      loop? (fun check => some (SessionCheck.round defs now check)) (rest + 1) other =
        some (other.finish now) := by
    apply loop?_leave
    rw [round_eq, h]
    rfl
  have hAgain (rest : ℕ) (other : SessionCheck) (h : other.session.timeoutIsOver now = true) :
      loop? (fun check => some (SessionCheck.round defs now check)) (rest + 1) other =
        loop? (fun check => some (SessionCheck.round defs now check)) rest { other with
          session := (other.session.handleTimeout defs now).1
          outputs := other.outputs ++ (other.session.handleTimeout defs now).2 } := by
    apply loop?_again
    rw [round_eq, h]
    rfl
  have hSettled := (check.session.settled_settle defs now).timeoutIsOver
  unfold MatchingSession.settle at hSettled ⊢
  by_cases hFirst : check.session.timeoutIsOver now = true
  · rw [if_pos hFirst] at hSettled ⊢
    rw [hAgain _ _ hFirst]
    by_cases hSecond : (check.session.handleTimeout defs now).1.timeoutIsOver now = true
    · rw [if_pos hSecond] at hSettled ⊢
      rw [hAgain _ _ hSecond, hLeave _ _ hSettled, List.append_assoc]
    · rw [if_neg hSecond] at hSettled ⊢
      exact hLeave _ _ hSettled
  · rw [if_neg hFirst] at hSettled ⊢
    rw [hLeave _ _ hSettled, List.append_nil]

end SessionCheck

namespace MatchingState

variable (defs : SlacDefs) (now : ℤ)

/-- The time to wait after the loop over settled sessions. -/
def waits (callBackMs : Option ℤ) (settled : List MatchingSession) : Option ℤ :=
  settled.foldl (MatchingSession.waitAfter now) callBackMs

theorem checkSessions_cons (fuel : ℕ) (callBackMs : Option ℤ) (outputs : List SlacOutput)
    (checked rest : List MatchingSession) (session : MatchingSession) :
    checkSessions defs now (fuel + 3) callBackMs outputs checked (session :: rest) =
      if session.isComplete then
        some (checked ++ session :: rest, outputs, .event .matchComplete)
      else if allSessionsFailed (checked ++ (session.settle defs now).1 :: rest) then
        some (checked ++ (session.settle defs now).1 :: rest,
          outputs ++ (session.settle defs now).2, .event .failed)
      else
        checkSessions defs now (fuel + 3) ((session.settle defs now).1.waitAfter now callBackMs)
          (outputs ++ (session.settle defs now).2) (checked ++ [(session.settle defs now).1])
          rest := by
  have hSame := (session.settled_settle defs now).isComplete
  rw [checkSessions, SessionCheck.loop_settle]
  by_cases hComplete : session.isComplete = true
  · simp [SessionCheck.finish, hComplete, MatchingSession.settle_of_isComplete hComplete]
  · simp [SessionCheck.finish, hSame, hComplete]

/-- Everything that the loop over the sessions can end with. It goes through all of them,
or leaves at a complete one, or after all have failed. -/
inductive Checks (callBackMs : Option ℤ) (outputs : List SlacOutput)
    (checked sessions : List MatchingSession) :
    List MatchingSession × List SlacOutput × CallbackResult → Prop
  | stays (hIncomplete : ∀ session ∈ sessions, session.isComplete = false)
      (hAlive : sessions ≠ [] → allSessionsFailed
        (checked ++ sessions.map fun session => (session.settle defs now).1) = false) :
      Checks callBackMs outputs checked sessions
        (checked ++ sessions.map (fun session => (session.settle defs now).1),
          outputs ++ sessions.flatMap (fun session => (session.settle defs now).2),
          .wait (waits now callBackMs (sessions.map fun session => (session.settle defs now).1)))
  | completes (left before after : List MatchingSession) (session : MatchingSession)
      (hSessions : sessions = before ++ session :: after) (hComplete : session.isComplete = true) :
      Checks callBackMs outputs checked sessions
        (left, outputs ++ before.flatMap (fun session => (session.settle defs now).2),
          .event .matchComplete)
  | fails (left before after : List MatchingSession) (hSessions : sessions = before ++ after)
      (hIncomplete : ∀ session ∈ before, session.isComplete = false)
      (hFailed : ∀ session ∈ after, session.state = .failed) :
      Checks callBackMs outputs checked sessions
        (left, outputs ++ before.flatMap (fun session => (session.settle defs now).2),
          .event .failed)

variable {defs now}

/-- A session that is neither complete nor the last one alive is passed. -/
theorem Checks.cons {callBackMs : Option ℤ} {outputs : List SlacOutput}
    {checked rest : List MatchingSession} {session : MatchingSession}
    {result : List MatchingSession × List SlacOutput × CallbackResult}
    (hIncomplete : session.isComplete = false)
    (hAlive : allSessionsFailed (checked ++ (session.settle defs now).1 :: rest) = false)
    (h : Checks defs now ((session.settle defs now).1.waitAfter now callBackMs)
      (outputs ++ (session.settle defs now).2) (checked ++ [(session.settle defs now).1]) rest
      result) :
    Checks defs now callBackMs outputs checked (session :: rest) result := by
  cases h with
  | stays hOthers hOthersAlive =>
      have hStillAlive : allSessionsFailed (checked ++ (session :: rest).map fun session =>
          (session.settle defs now).1) = false := by
        cases rest with
        | nil => simpa using hAlive
        | cons next others => simpa using hOthersAlive (List.cons_ne_nil _ _)
      have hStays := @Checks.stays defs now callBackMs outputs checked (session :: rest)
        (by simpa using ⟨hIncomplete, hOthers⟩) fun _ => hStillAlive
      simpa [waits] using hStays
  | completes left before after other hSessions hComplete =>
      have hCompletes : Checks defs now callBackMs outputs checked (session :: rest) _ :=
        .completes left (session :: before) after other (by rw [hSessions]; rfl) hComplete
      simpa using hCompletes
  | fails left before after hSessions hOthers hFailed =>
      have hFails : Checks defs now callBackMs outputs checked (session :: rest) _ :=
        .fails left (session :: before) after (by rw [hSessions]; rfl)
          (by simpa using ⟨hIncomplete, hOthers⟩) hFailed
      simpa using hFails

variable (defs now)

theorem checks_checkSessions (fuel : ℕ) (callBackMs : Option ℤ) (outputs : List SlacOutput)
    (checked sessions : List MatchingSession) :
    ∃ result, checkSessions defs now (fuel + 3) callBackMs outputs checked sessions = some result ∧
      Checks defs now callBackMs outputs checked sessions result := by
  induction sessions generalizing callBackMs outputs checked with
  | nil =>
      have hStays := @Checks.stays defs now callBackMs outputs checked [] (by simp) (by simp)
      exact ⟨_, rfl, by simpa [waits] using hStays⟩
  | cons session rest ih =>
      rw [checkSessions_cons]
      by_cases hComplete : session.isComplete = true
      · rw [if_pos hComplete]
        refine ⟨_, rfl, ?_⟩
        have hCompletes := @Checks.completes defs now callBackMs outputs checked (session :: rest)
          (checked ++ session :: rest) [] rest session rfl hComplete
        simpa using hCompletes
      · rw [if_neg hComplete]
        rw [Bool.not_eq_true] at hComplete
        by_cases hFailed : allSessionsFailed (checked ++ (session.settle defs now).1 :: rest) = true
        · rw [if_pos hFailed]
          have hOthers : ∀ other ∈ rest, other.state = .failed := by
            intro other hOther
            simp only [allSessionsFailed, List.all_append, List.all_cons, Bool.and_eq_true,
              List.all_eq_true, beq_iff_eq] at hFailed
            exact hFailed.2.2 other hOther
          have hFails := @Checks.fails defs now callBackMs outputs checked (session :: rest)
            (checked ++ (session.settle defs now).1 :: rest) [session] rest rfl
            (by simpa using hComplete) hOthers
          exact ⟨_, rfl, by simpa using hFails⟩
        · rw [if_neg hFailed]
          obtain ⟨result, hRest, hChecks⟩ := ih ((session.settle defs now).1.waitAfter now callBackMs)
            (outputs ++ (session.settle defs now).2) (checked ++ [(session.settle defs now).1])
          exact ⟨result, hRest, hChecks.cons hComplete (Bool.not_eq_true _ ▸ hFailed)⟩

theorem checkSessions_fuel (fuel : ℕ) (callBackMs : Option ℤ) (outputs : List SlacOutput)
    (checked sessions : List MatchingSession) :
    checkSessions defs now (fuel + 3) callBackMs outputs checked sessions =
      checkSessions defs now 3 callBackMs outputs checked sessions := by
  induction sessions generalizing callBackMs outputs checked with
  | nil => rfl
  | cons session rest ih =>
      rw [checkSessions_cons, checkSessions_cons defs now 0]
      simp only [ih, Nat.zero_add]

/-- More than three rounds for each session change nothing. -/
theorem callback_fuel (fuel : ℕ) (matching : MatchingState) :
    callback defs now (fuel + 3) matching = callback defs now 3 matching := by
  simp only [callback, checkSessions_fuel]

/-- Everything that the callback can return. -/
inductive Called (matching : MatchingState) :
    MatchingState × List SlacOutput × CallbackResult → Prop
  | retries (hUnseen : matching.seenSlacParmReq = false)
      (hOver : matching.timeoutSlacParmReq ≤ now) :
      Called matching (matching, [], .event .retryMatching)
  | stays (callBackMs : Option ℤ)
      (hCallBack : callBackMs = if matching.seenSlacParmReq then none
        else some (remainingMilliseconds matching.timeoutSlacParmReq now))
      (hPending : matching.seenSlacParmReq = false → now < matching.timeoutSlacParmReq)
      (hIncomplete : ∀ session ∈ matching.sessions, session.isComplete = false)
      (hAlive : matching.sessions ≠ [] → allSessionsFailed
        (matching.sessions.map fun session => (session.settle defs now).1) = false) :
      Called matching
        ({ matching with
            sessions := matching.sessions.map fun session => (session.settle defs now).1 },
          matching.sessions.flatMap (fun session => (session.settle defs now).2),
          .wait (waits now callBackMs
            (matching.sessions.map fun session => (session.settle defs now).1)))
  | completes (left before after : List MatchingSession) (session : MatchingSession)
      (hSessions : matching.sessions = before ++ session :: after)
      (hComplete : session.isComplete = true) :
      Called matching ({ matching with sessions := left },
        before.flatMap (fun session => (session.settle defs now).2), .event .matchComplete)
  | fails (left before after : List MatchingSession)
      (hSessions : matching.sessions = before ++ after)
      (hIncomplete : ∀ session ∈ before, session.isComplete = false)
      (hFailed : ∀ session ∈ after, session.state = .failed) :
      Called matching ({ matching with sessions := left },
        before.flatMap (fun session => (session.settle defs now).2), .event .failed)

/-- The callback returns, whatever the state is. -/
theorem called_callback (fuel : ℕ) (matching : MatchingState) :
    ∃ result, callback defs now (fuel + 3) matching = some result ∧
      Called defs now matching result := by
  unfold callback
  by_cases hRetry : (!matching.seenSlacParmReq && now ≥ matching.timeoutSlacParmReq) = true
  · rw [if_pos hRetry]
    simp only [Bool.and_eq_true, Bool.not_eq_true', decide_eq_true_eq] at hRetry
    exact ⟨_, rfl, .retries hRetry.1 hRetry.2⟩
  · rw [if_neg hRetry]
    generalize hCallBack : (if matching.seenSlacParmReq then none
      else some (remainingMilliseconds matching.timeoutSlacParmReq now)) = callBackMs
    obtain ⟨result, hResult, hChecks⟩ :=
      checks_checkSessions defs now fuel callBackMs [] [] matching.sessions
    simp only [hResult]
    refine ⟨_, rfl, ?_⟩
    cases hChecks with
    | stays hIncomplete hAlive =>
        have hPending : matching.seenSlacParmReq = false → now < matching.timeoutSlacParmReq := by
          intro hUnseen
          simpa [hUnseen] using hRetry
        simpa using Called.stays callBackMs hCallBack.symm hPending hIncomplete hAlive
    | completes left before after session hSessions hComplete =>
        simpa using Called.completes left before after session hSessions hComplete
    | fails left before after hSessions hIncomplete hFailed =>
        simpa using Called.fails left before after hSessions hIncomplete hFailed

end MatchingState

end EverestCore.Slac
