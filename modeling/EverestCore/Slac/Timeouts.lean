import EverestCore.Slac.StateMachine

/-! The timeouts of the matching state. Every session that has not failed has an active
timeout, so that the callback always knows when it has to be called again. -/
namespace EverestCore.Slac
open Machine

/-- What identifies a session. -/
def MatchingSession.key (session : MatchingSession) : MacAddress × RunId :=
  (session.evMac, session.runId)

/-- The session has failed, or its timeout is active. -/
structure MatchingSession.Watched (session : MatchingSession) : Prop where
  active : session.state ≠ .failed → session.timeoutActive = true
  -- the source never enters this state
  reached : session.state ≠ .receivedSlacMatch

/-- The invariant of the matching state. -/
structure MatchingState.Valid (matching : MatchingState) : Prop where
  distinct : (matching.sessions.map MatchingSession.key).Nodup
  watched : ∀ session ∈ matching.sessions, session.Watched
  seen : matching.seenSlacParmReq = true ↔ matching.sessions ≠ []

namespace MatchingSession

variable {defs : SlacDefs} {now : ℤ} {sessionNmk : ℕ} {source : MacAddress}
  {old new : MatchingSession} {message : ReceivedMessage} {outputs : List SlacOutput}

theorem isIdentifiedBy_iff {evMac : MacAddress} {runId : RunId} :
    old.isIdentifiedBy evMac runId = true ↔ old.key = (evMac, runId) := by
  simp [isIdentifiedBy, key, and_comm]

theorem Changes.key (h : old.Changes defs now sessionNmk source message new outputs) :
    new.key = old.key := by
  cases h with
  | capturesLast _ _ _ _ captured hCaptured =>
      subst hCaptured
      rfl
  | startsSounding | hearsSound | captures | getsResponse | completes => rfl

theorem Changes.watched (h : old.Changes defs now sessionNmk source message new outputs)
    (hOld : old.Watched) : new.Watched := by
  cases h with
  | startsSounding | getsResponse | completes => exact ⟨fun _ => rfl, by simp [setNextTimeout]⟩
  | hearsSound _ hState | captures _ _ _ hState => exact ⟨hOld.active, hOld.reached⟩
  | capturesLast _ _ _ _ captured hCaptured =>
      exact ⟨fun _ => rfl, by simp [finalizeSounding, setNextTimeout]⟩

theorem watched_created (evMac : MacAddress) (runId : RunId) :
    (created defs now evMac runId).Watched :=
  ⟨fun _ => rfl, by simp [created, setNextTimeout]⟩

theorem Settled.key (h : Settled defs now old new outputs) : new.key = old.key := by
  cases h <;> rfl

theorem Settled.watched (h : Settled defs now old new outputs) (hOld : old.Watched) :
    new.Watched := by
  cases h with
  | rests => exact hOld
  | fails | finalizesAndFails => exact ⟨fun hNot => absurd rfl hNot, by simp⟩
  | acks hState =>
      rcases hState with hState | hState
      · exact absurd hState hOld.reached
      · exact ⟨fun hNot => absurd hState hNot, by simp [ackTimeout, hState]⟩
  | finalizes => exact ⟨fun _ => rfl, by simp [finalizeSounding, setNextTimeout]⟩

/-- An active timeout is still to come after the callback, unless the session is
complete. -/
theorem Settled.remaining_pos (h : Settled defs now old new outputs)
    (hActive : new.timeoutActive = true) (hIncomplete : old.isComplete = false) :
    0 < remainingMilliseconds new.nextTimeout now := by
  have hPending := h.timeoutIsOver
  rw [← h.isComplete] at hIncomplete
  simp only [MatchingSession.isComplete, hActive, Bool.true_and, decide_eq_false_iff_not]
    at hIncomplete
  simpa [MatchingSession.timeoutIsOver, hActive, hIncomplete] using hPending

end MatchingSession

namespace MatchingState

variable {defs : SlacDefs} {now : ℤ} {sessionNmk : ℕ} {source : MacAddress}
  {matching next : MatchingState} {message : ReceivedMessage} {outputs : List SlacOutput}

theorem valid_enter (defs : SlacDefs) (now : ℤ) : (enter defs now).Valid :=
  ⟨List.nodup_nil, by simp [enter], by simp [enter]⟩

theorem Valid.key_ne (h : matching.Valid) {before after : List MatchingSession}
    {old : MatchingSession} (hSessions : matching.sessions = before ++ old :: after) :
    ∀ other ∈ before ++ after, other.key ≠ old.key := by
  have hDistinct := h.distinct
  rw [hSessions, List.map_append, List.map_cons, List.nodup_middle, ← List.map_append,
    List.nodup_cons] at hDistinct
  intro other hOther hKey
  exact hDistinct.1 (hKey ▸ List.mem_map_of_mem hOther)

theorem Valid.of_sessions_eq (h : matching.Valid) (hSessions : next.sessions = matching.sessions)
    (hSeen : next.seenSlacParmReq = matching.seenSlacParmReq) : next.Valid := by
  obtain ⟨hDistinct, hWatched, hSame⟩ := h
  rw [← hSessions] at hDistinct hWatched hSame
  exact ⟨hDistinct, hWatched, by rw [hSeen, hSame]⟩

/-- Exchanging a session for one with the same key. -/
theorem Valid.exchange (h : matching.Valid) {before after : List MatchingSession}
    {old new : MatchingSession} (hSessions : matching.sessions = before ++ old :: after)
    (hKey : new.key = old.key) (hNew : new.Watched) (seen : Bool) (hSeen : seen = true) :
    Valid { matching with seenSlacParmReq := seen, sessions := before ++ new :: after } := by
  constructor
  · have hDistinct := h.distinct
    rw [hSessions] at hDistinct
    simpa [hKey] using hDistinct
  · intro session hSession
    rcases mem_middle.mp hSession with rfl | hOther
    · exact hNew
    · exact h.watched session (hSessions ▸ mem_middle.mpr (.inr hOther))
  · simp [hSeen]

theorem Handled.valid (h : Handled defs now sessionNmk source matching message next outputs)
    (hValid : matching.Valid) : next.Valid := by
  cases h with
  | ignored => exact hValid
  | validated => exact hValid
  | created runId hNew =>
      constructor
      · have hFresh : (source, runId) ∉ matching.sessions.map MatchingSession.key := by
          simp only [List.mem_map, not_exists, not_and]
          intro other hOther hKey
          have hFound := MatchingSession.isIdentifiedBy_iff.mpr hKey
          rw [hNew other hOther] at hFound
          cases hFound
        rw [List.map_append]
        exact hValid.distinct.append (List.nodup_singleton _) (List.disjoint_singleton.mpr hFresh)
      · rw [List.forall_mem_append, List.forall_mem_singleton]
        exact ⟨hValid.watched, MatchingSession.watched_created _ _⟩
      · simp
  | restarted runId before after old hSessions hOld =>
      refine hValid.exchange hSessions ?_ (MatchingSession.watched_created _ _) true rfl
      exact (MatchingSession.isIdentifiedBy_iff.mp hOld).symm
  | changed _ before after old new _ hSessions hChange =>
      refine hValid.exchange hSessions hChange.key ?_ _ ?_
      · exact hChange.watched (hValid.watched old (by simp [hSessions]))
      · exact hValid.seen.mpr (by simp [hSessions])

/-- The callback leaves the keys of the sessions alone. -/
theorem Valid.settle (h : matching.Valid) (defs : SlacDefs) (now : ℤ) :
    Valid { matching with
      sessions := matching.sessions.map fun session => (session.settle defs now).1 } := by
  constructor
  · have hKeys : (matching.sessions.map fun session => (session.settle defs now).1).map
        MatchingSession.key = matching.sessions.map MatchingSession.key := by
      rw [List.map_map]
      apply List.map_congr_left
      intro session _
      exact (session.settled_settle defs now).key
    rw [hKeys]
    exact h.distinct
  · simp only [List.mem_map, forall_exists_index, and_imp, forall_apply_eq_imp_iff₂]
    intro session hSession
    exact (session.settled_settle defs now).watched (h.watched session hSession)
  · simpa using h.seen

theorem Called.valid {callBackMs : Option ℤ}
    (h : Called defs now matching (next, outputs, .wait callBackMs)) (hValid : matching.Valid) :
    next.Valid := by
  cases h with
  | stays => exact hValid.settle defs now

theorem shorterWait_le (callBackMs : Option ℤ) (remainingMs : ℤ) :
    ∃ ms, shorterWait callBackMs remainingMs = some ms ∧ ms ≤ remainingMs ∧
      ∀ before ∈ callBackMs, ms ≤ before := by
  unfold shorterWait
  cases callBackMs with
  | none => exact ⟨remainingMs, rfl, le_rfl, nofun⟩
  | some before =>
      dsimp only
      split
      · next hLonger => exact ⟨remainingMs, rfl, le_rfl, by simpa using hLonger.le⟩
      · next hShorter => exact ⟨before, rfl, not_lt.mp hShorter, by simp⟩

/-- The time to wait is no longer than any that was asked for. -/
theorem waits_le (now : ℤ) (callBackMs : Option ℤ) (sessions : List MatchingSession) :
    (∀ before ∈ callBackMs, ∃ ms, waits now callBackMs sessions = some ms ∧ ms ≤ before) ∧
    ∀ session ∈ sessions, session.timeoutActive = true →
      ∃ ms, waits now callBackMs sessions = some ms ∧
        ms ≤ remainingMilliseconds session.nextTimeout now := by
  induction sessions generalizing callBackMs with
  | nil =>
      constructor
      · rintro before ⟨⟩
        exact ⟨before, rfl, le_rfl⟩
      · exact nofun
  | cons first rest ih =>
      obtain ⟨hBefore, hRest⟩ := ih (first.waitAfter now callBackMs)
      have hCons : waits now callBackMs (first :: rest) =
          waits now (first.waitAfter now callBackMs) rest := rfl
      rw [hCons]
      by_cases hActive : first.timeoutActive = true
      · obtain ⟨ms, hShorter, hRemaining, hLe⟩ :=
          shorterWait_le callBackMs (remainingMilliseconds first.nextTimeout now)
        have hAfter : first.waitAfter now callBackMs = some ms := by
          rw [MatchingSession.waitAfter, if_pos hActive, hShorter]
        obtain ⟨wait, hWait, hWaitLe⟩ := hBefore ms hAfter
        constructor
        · intro before hMem
          exact ⟨wait, hWait, hWaitLe.trans (hLe before hMem)⟩
        · rw [List.forall_mem_cons]
          exact ⟨fun _ => ⟨wait, hWait, hWaitLe.trans hRemaining⟩, hRest⟩
      · have hAfter : first.waitAfter now callBackMs = callBackMs := by
          rw [MatchingSession.waitAfter, if_neg hActive]
        rw [hAfter] at hBefore hRest ⊢
        rw [List.forall_mem_cons]
        exact ⟨hBefore, fun hNot => absurd hNot hActive, hRest⟩

/-- Whole milliseconds are never more than the time that is left. -/
theorem milliseconds_remaining_le {timeout : ℤ} (h : now ≤ timeout) :
    milliseconds (remainingMilliseconds timeout now) ≤ timeout - now := by
  unfold milliseconds remainingMilliseconds
  rw [Int.tdiv_eq_ediv_of_nonneg (sub_nonneg.mpr h)]
  exact Int.ediv_mul_le _ (by decide)

theorem le_of_remaining_pos {timeout : ℤ} (h : 0 < remainingMilliseconds timeout now) :
    now ≤ timeout := by
  by_contra hLate
  have hNonneg : 0 ≤ (now - timeout).tdiv 1000000 := Int.tdiv_nonneg (by omega) (by decide)
  unfold remainingMilliseconds at h
  rw [← neg_sub now timeout, Int.neg_tdiv] at h
  omega

theorem milliseconds_le {first second : ℤ} (h : first ≤ second) :
    milliseconds first ≤ milliseconds second :=
  Int.mul_le_mul_of_nonneg_right h (by decide)

/-- While no car was seen, or as long as some session is alive, there is a time to wait. -/
theorem Valid.waits_ne_none (hValid : matching.Valid) {callBackMs : Option ℤ}
    (hCallBack : callBackMs = if matching.seenSlacParmReq then none
      else some (remainingMilliseconds matching.timeoutSlacParmReq now))
    (hAlive : matching.sessions ≠ [] → allSessionsFailed
      (matching.sessions.map fun session => (session.settle defs now).1) = false) :
    waits now callBackMs (matching.sessions.map fun session => (session.settle defs now).1) ≠
      none := by
  obtain ⟨hBefore, hSessions⟩ := waits_le now callBackMs
    (matching.sessions.map fun session => (session.settle defs now).1)
  intro hNone
  cases hSeen : matching.seenSlacParmReq with
  | false =>
      obtain ⟨ms, hWaits, -⟩ := hBefore
        (remainingMilliseconds matching.timeoutSlacParmReq now) (by simp [hCallBack, hSeen])
      rw [hNone] at hWaits
      cases hWaits
  | true =>
      -- some session is alive after the loop, so its timeout was taken into account
      have hNotAll := hAlive (hValid.seen.mp hSeen)
      simp only [allSessionsFailed, List.all_eq_false, beq_iff_eq] at hNotAll
      obtain ⟨session, hMem, hState⟩ := hNotAll
      obtain ⟨ms, hWaits, -⟩ := hSessions session hMem
        (((hValid.settle defs now).watched session hMem).active hState)
      rw [hNone] at hWaits
      cases hWaits

/-- What a callback returns in a valid state: never that it need not be called again, and
a time to wait that keeps every deadline. -/
theorem Called.keepsDeadlines {result : CallbackResult}
    (h : Called defs now matching (next, outputs, result)) (hValid : matching.Valid) :
    result ≠ .wait none ∧ ∀ ms, result = .wait (some ms) →
      (∀ session ∈ next.sessions, session.timeoutActive = true →
        milliseconds ms ≤ session.nextTimeout - now) ∧
      (next.seenSlacParmReq = false → milliseconds ms ≤ next.timeoutSlacParmReq - now) := by
  cases h with
  | retries => exact ⟨nofun, nofun⟩
  | completes => exact ⟨nofun, nofun⟩
  | fails => exact ⟨nofun, nofun⟩
  | stays callBackMs hCallBack hPending hIncomplete hAlive =>
      obtain ⟨hBefore, hSessions⟩ := waits_le now callBackMs
        (matching.sessions.map fun session => (session.settle defs now).1)
      have hSome := hValid.waits_ne_none hCallBack hAlive
      constructor
      · intro hNone
        injection hNone with hNone
        exact hSome hNone
      · intro ms hResult
        injection hResult with hResult
        constructor
        · intro session hMem hActive
          obtain ⟨wait, hWaits, hLe⟩ := hSessions session hMem hActive
          rw [hResult] at hWaits
          cases hWaits
          obtain ⟨old, hOld, rfl⟩ := List.mem_map.mp hMem
          have hRemaining := (old.settled_settle defs now).remaining_pos hActive
            (hIncomplete old hOld)
          exact (milliseconds_le hLe).trans
            (milliseconds_remaining_le (le_of_remaining_pos hRemaining))
        · intro hUnseen
          obtain ⟨wait, hWaits, hLe⟩ := hBefore
            (remainingMilliseconds matching.timeoutSlacParmReq now)
            (by simp [hCallBack, show matching.seenSlacParmReq = false from hUnseen])
          rw [hResult] at hWaits
          cases hWaits
          exact (milliseconds_le hLe).trans (milliseconds_remaining_le (hPending hUnseen).le)

end MatchingState

namespace SlacMachine

variable (defs : SlacDefs) (setKeyTimeoutMs : ℤ)

/-- The data of the matching state stay valid. -/
theorem valid_step {s : SlacMachine}
    (hValid : ∀ matching, s.state = .matching matching → matching.Valid) (input : SlacInput) :
    ∀ matching, (s.step defs setKeyTimeoutMs input).state = .matching matching →
      matching.Valid := by
  have hEffect := step_effect defs setKeyTimeoutMs s input
  generalize s.step defs setKeyTimeoutMs input = s' at hEffect
  cases hEffect with
  | unmoved => exact hValid
  | resets => exact nofun
  | idles => exact nofun
  | startsMatching =>
      rintro _ ⟨⟩
      exact MatchingState.valid_enter defs input.now
  | handles matching next source message outputs hState hEvent hHandled =>
      rintro _ ⟨⟩
      exact hHandled.valid (hValid matching hState)
  | waits matching next outputs callBackMs feedResult hState hEvent hCalled =>
      rintro _ ⟨⟩
      exact hCalled.valid (hValid matching hState)
  | retries matching next hState hEvent hUnseen hNext =>
      rintro _ ⟨⟩
      exact (hValid matching hState).of_sessions_eq hNext.1 hNext.2
  | completes => exact nofun
  | fails => exact nofun

/-- The data of the matching state are valid in every run. -/
theorem valid_of_run (inputs : List SlacInput) (matching : MatchingState)
    (hState : (run (step defs setKeyTimeoutMs) (start defs setKeyTimeoutMs) inputs).state =
      .matching matching) : matching.Valid := by
  revert matching
  apply run_invariant (fun s : SlacMachine => ∀ matching, s.state = .matching matching →
    matching.Valid)
  · exact nofun
  · exact fun s input hValid => valid_step defs setKeyTimeoutMs hValid input

/-- Matching never stalls. In every state of it the sessions differ in their keys, those
that have not failed have an active timeout, and the callback returns, after at most
three rounds for each session, either an event or a time to wait that is over before the
next deadline. -/
theorem matching_never_stalls (inputs : List SlacInput) (matching : MatchingState)
    (hState : (run (step defs setKeyTimeoutMs) (start defs setKeyTimeoutMs) inputs).state =
      .matching matching) :
    matching.sessions.Pairwise (fun session other =>
      (session.evMac, session.runId) ≠ (other.evMac, other.runId)) ∧
    (∀ session ∈ matching.sessions, session.state ≠ .failed → session.timeoutActive = true) ∧
    ∀ now, ∃ next outputs result,
      (∀ fuel, matching.callback defs now (fuel + 3) = some (next, outputs, result)) ∧
      result ≠ .wait none ∧
      ∀ ms, result = .wait (some ms) →
        (∀ session ∈ next.sessions, session.timeoutActive = true →
          milliseconds ms ≤ session.nextTimeout - now) ∧
        (next.seenSlacParmReq = false → milliseconds ms ≤ next.timeoutSlacParmReq - now) := by
  have hValid := valid_of_run defs setKeyTimeoutMs inputs matching hState
  refine ⟨List.pairwise_map.mp hValid.distinct, fun session hMem =>
    (hValid.watched session hMem).active, ?_⟩
  intro now
  obtain ⟨⟨next, outputs, result⟩, hCallback, hCalled⟩ :=
    MatchingState.called_callback defs now 0 matching
  refine ⟨next, outputs, result, ?_, hCalled.keepsDeadlines hValid⟩
  intro fuel
  rw [MatchingState.callback_fuel]
  exact hCallback

/-- The matching state with the session of one car. -/
theorem matching_never_stalls_one_car :
    ∃ matching, (run (step .standard 500) (start .standard 500)
        [⟨0, .slacMessage plcPeerMac .cmSetKeyCnf⟩, ⟨10, .enterBcd⟩,
          ⟨20, .slacMessage 1 (.cmSlacParmReq 1)⟩]).state = .matching matching ∧
      matching.sessions.length = 1 ∧
      ∀ session ∈ matching.sessions, session.state ≠ .failed → session.timeoutActive = true :=
  ⟨_, rfl, rfl, (matching_never_stalls .standard 500
    [⟨0, .slacMessage plcPeerMac .cmSetKeyCnf⟩, ⟨10, .enterBcd⟩,
      ⟨20, .slacMessage 1 (.cmSlacParmReq 1)⟩] _ rfl).2.1⟩

end SlacMachine

end EverestCore.Slac
