import EverestCore.Auth.TokenOutcome

/-! Results that are for some connectors only. A token is refused if it references none of
them, but the connector that it gets is selected from all that it references. -/
namespace EverestCore.Auth
open EverestCore.Machine

/-- An accepted result goes to a connector that it lists, if it has a list. -/
def AuthOutput.authorizesListed : AuthOutput → Bool
  | .notifyEvse connector _ _ result =>
      result.authorizationStatus ≠ .accepted || result.evseIds.all (·.contains connector)
  | .stopTransaction _ _ _ _ | .withdrawAuthorization _ => true

/-- A connector suits an accepted result: it is listed, or none of the referenced ones is, so
that the result is going to be refused. -/
def ValidationResult.suits (result : ValidationResult) (referenced : List ℤ) (connector : ℤ) :
    Prop :=
  result.authorizationStatus = .accepted → ∀ evseIds, result.evseIds = some evseIds →
    connector ∈ evseIds ∨ ∀ other ∈ referenced, other ∉ evseIds

namespace TokenThread

/-- The connector that the next step selects: the only or the first one that is referenced,
or the first of them in the queue. -/
def selection (handler : AuthHandler) (thread : TokenThread) : Option ℤ :=
  match thread.stage with
  | .iterating =>
      if thread.inner.length = 1 ∨ handler.config.selectionAlgorithm = .userInput then
        thread.inner.head?
      else none
  | .relocked => some (handler.getLatestPlugin thread.inner)
  | _ => none

/-- The next step selects a connector that suits the next result, or none. -/
def SelectsSuiting (handler : AuthHandler) (thread : TokenThread) : Prop :=
  ∀ connector, thread.selection handler = some connector → connector ≠ -1 →
    ∀ result, thread.results.head? = some result → result.suits thread.inner connector

/-- What has been selected suits, and what is accepted is listed. -/
structure Suits (thread : TokenThread) : Prop where
  selected : ∀ connector, thread.stage = .selected connector → connector ≠ -1 →
    ∀ result, thread.results.head? = some result → result.suits thread.inner connector
  notified : ∀ connector result,
    thread.stage = .notifying connector result ∨ thread.stage = .arming connector result →
      result.authorizationStatus = .accepted → ∀ evseIds, result.evseIds = some evseIds →
        connector ∈ evseIds

end TokenThread

theorem intersect_isEmpty_iff (first second : List ℤ) :
    (intersect first second).isEmpty = true ↔ ∀ connector ∈ first, connector ∉ second := by
  simp [intersect, List.eq_nil_iff_forall_not_mem, List.mem_bagInter]

/-- A result that is still accepted after the check lists a referenced connector, if it has a
list. -/
theorem AuthHandler.checkReservation_accepted {handler : AuthHandler} {connector : ℤ}
    {token : ProvidedIdToken} {result : ValidationResult} {referenced evseIds : List ℤ}
    (hStatus : (handler.checkReservation connector token result referenced).2.authorizationStatus =
      .accepted)
    (hList : (handler.checkReservation connector token result referenced).2.evseIds =
      some evseIds) :
    result.authorizationStatus = .accepted ∧ ∃ listed, result.evseIds = some listed ∧
      (∀ other, other ∈ evseIds ↔ other ∈ listed) ∧ ∃ other ∈ referenced, other ∈ listed := by
  have hKept : (handler.checkReservation connector token result referenced).2.evseIds =
      result.evseIds.map (List.insertionSort (· ≤ ·)) := by
    unfold checkReservation
    dsimp only
    repeat' split
    all_goals rfl
  rw [hKept, Option.map_eq_some_iff] at hList
  obtain ⟨listed, hListed, rfl⟩ := hList
  refine ⟨(handler.checkReservation_result connector token result referenced).1 hStatus, listed,
    hListed, fun other => List.mem_insertionSort _, ?_⟩
  by_contra hNone
  have hRefused : (intersect referenced (listed.insertionSort (· ≤ ·))).isEmpty = true := by
    rw [intersect_isEmpty_iff]
    intro other hOther hMem
    exact hNone ⟨other, hOther, (List.mem_insertionSort _).1 hMem⟩
  rw [checkReservation] at hStatus
  simp [hListed, hRefused] at hStatus

namespace TokenThread

variable {handler handler' : AuthHandler} {thread thread' : TokenThread}

/-- A step that selects a suiting connector keeps all that is selected suiting. -/
theorem Step.suits (h : Step handler thread handler' thread') (hSuits : thread.Suits)
    (hOk : thread.SelectsSuiting handler) : thread'.Suits := by
  cases h with
  | idle => exact hSuits
  | selectsFirst connector hStage hFirst hOnly =>
      refine ⟨?_, by simp [goTo]⟩
      rintro _ ⟨⟩ hFound
      refine hOk connector ?_ hFound
      rw [selection, hStage]
      refine (if_pos (hOnly.imp ?_ id)).trans hFirst
      intro hInner
      rw [hInner]
      rfl
  | picks hStage =>
      refine ⟨?_, by simp [goTo]⟩
      rintro _ ⟨⟩ hFound
      exact hOk _ (by rw [selection, hStage]) hFound
  | timesOut =>
      refine ⟨?_, by simp [goTo]⟩
      rintro _ ⟨⟩ hFound
      exact absurd rfl hFound
  | decides connector result results inner hStage hFound hResults hInner =>
      refine ⟨nofun, ?_⟩
      rintro _ _ (hNext | hNext) hStatus evseIds hList <;> cases hNext
      obtain ⟨hAccepted, listed, hListed, hSame, other, hReferenced, hMem⟩ :=
        AuthHandler.checkReservation_accepted hStatus hList
      rw [hSame]
      have hChosen := hSuits.selected connector hStage hFound result (by rw [hResults]; rfl)
        hAccepted listed hListed
      exact hChosen.resolve_right fun hNone => hNone other hReferenced hMem
  | places connector result hStage =>
      refine ⟨by simp [goTo], ?_⟩
      rintro _ _ (hNext | hNext) <;> cases hNext
      exact hSuits.notified connector result (.inl hStage)
  | skips result results hStage => exact ⟨by simp [hStage], by simp [hStage]⟩
  | _ => exact ⟨by simp [goTo], by simp [goTo]⟩

/-- A step of a thread for which all is suiting sends accepted results to listed connectors
only. -/
theorem Step.authorizesListed (h : Step handler thread handler' thread') (hSuits : thread.Suits)
    (hLog : ∀ output ∈ handler.log, output.authorizesListed = true) :
    ∀ output ∈ handler'.log, output.authorizesListed = true := by
  apply h.forall_log fun output => output.authorizesListed = true
  · intro _ _ _
    rfl
  · intro connector context result _ hStatus
    simp [AuthOutput.authorizesListed, hStatus]
  · intro connector context result hStage
    have hListed := hSuits.notified connector result (.inr hStage)
    show (decide (result.authorizationStatus ≠ .accepted) ||
      result.evseIds.all (·.contains connector)) = true
    by_cases hStatus : result.authorizationStatus = .accepted
    · cases hList : result.evseIds with
      | none => simp
      | some evseIds => simp [hListed hStatus evseIds hList]
    · simp [hStatus]
  · exact hLog

/-- The moves of a thread while nothing else happens. -/
def moveAlone (now : AuthHandler × TokenThread) (move : TokenMove) : AuthHandler × TokenThread :=
  now.2.act now.1 move

/-- The step that selects. -/
theorem act_of_selection {connector : ℤ} {result : ValidationResult}
    (hSelection : thread.selection handler = some connector)
    (hResult : thread.results.head? = some result)
    (hStatus : result.authorizationStatus = .accepted) :
    thread.act handler .proceed = (handler, thread.goTo (.selected connector)) := by
  unfold selection at hSelection
  split at hSelection
  · next hStage =>
    obtain ⟨rest, hResults⟩ := List.head?_eq_some_iff.1 hResult
    split at hSelection
    · next hFirst =>
      obtain ⟨others, hInner⟩ := List.head?_eq_some_iff.1 hSelection
      rw [hInner, List.length_cons, Nat.add_eq_right, List.length_eq_zero_iff] at hFirst
      rw [act, hStage]
      dsimp only
      rw [iterate, hResults, hInner]
      dsimp only
      rw [if_neg (not_not.2 hStatus)]
      by_cases hOthers : others = []
      · rw [if_pos hOthers]
      · rw [if_neg hOthers, hFirst.resolve_left hOthers]
    · cases hSelection
  · next hStage =>
    cases hSelection
    rw [act, hStage]
  · cases hSelection

/-- A result that lists a referenced connector is accepted at every unreserved one. -/
theorem decideAt_of_unreserved (handler : AuthHandler) (thread : TokenThread) {connector : ℤ}
    {result : ValidationResult} {results : List ValidationResult} {evseIds : List ℤ}
    (hResults : thread.results = result :: results) (hList : result.evseIds = some evseIds)
    (hFound : connector ≠ -1) (hReserved : (handler.connectors connector).reserved = false)
    (hReferenced : ∃ other ∈ thread.inner, other ∈ evseIds) :
    thread.decideAt handler connector =
      (handler,
        { thread with
          inner := thread.inner.insertionSort (· ≤ ·)
          results := results
          stage := .notifying connector
            { result with evseIds := some (evseIds.insertionSort (· ≤ ·)) } }) := by
  have hMeets : (intersect thread.inner (evseIds.insertionSort (· ≤ ·))).isEmpty = false := by
    rw [Bool.eq_false_iff]
    intro hEmpty
    obtain ⟨other, hOther, hMem⟩ := hReferenced
    exact (intersect_isEmpty_iff _ _).1 hEmpty other hOther ((List.mem_insertionSort _).2 hMem)
  rw [decideAt, hResults]
  dsimp only
  rw [if_neg hFound]
  simp [AuthHandler.checkReservation, hList, hMeets, hReserved]

/-- An accepted result is sent within two steps. -/
theorem notifies_accepted (handler : AuthHandler) (thread : TokenThread) {connector : ℤ}
    {result : ValidationResult}
    (hStage : thread.stage = .notifying connector result)
    (hStatus : result.authorizationStatus = .accepted) :
    ∃ context, .notifyEvse connector context thread.token result ∈
      (run moveAlone (handler, thread) [.proceed, .proceed]).1.log := by
  have hFirst : moveAlone (handler, thread) .proceed =
      (handler.placeIdentifier connector thread.token result,
        thread.goTo (.arming connector result)) := by
    rw [moveAlone, act, hStage]
    dsimp only
    rw [notify, if_pos hStatus]
  rw [run_cons, hFirst]
  exact ⟨_, List.mem_append_right _ (List.mem_singleton_self _)⟩

/-- A thread that selects an unsuiting connector gives it to the token in its next steps,
unless it is reserved. -/
theorem authorizes_unlisted {connector : ℤ} (hSelection : thread.selection handler = some connector)
    (hReserved : (handler.connectors connector).reserved = false)
    (hUnsuiting : ¬thread.SelectsSuiting handler) :
    ∃ output ∈ (run moveAlone (handler, thread) (List.replicate 4 .proceed)).1.log,
      output.authorizesListed = false := by
  unfold SelectsSuiting ValidationResult.suits at hUnsuiting
  push Not at hUnsuiting
  obtain ⟨_, hSelected, hFound, result, hResult, hStatus, evseIds, hList, hUnlisted, hReferenced⟩ :=
    hUnsuiting
  cases hSelection.symm.trans hSelected
  obtain ⟨results, hResults⟩ := List.head?_eq_some_iff.1 hResult
  have hFirst : moveAlone (handler, thread) .proceed =
      (handler, thread.goTo (.selected connector)) :=
    act_of_selection hSelection hResult hStatus
  have hSecond := decideAt_of_unreserved handler (thread.goTo (.selected connector)) hResults
    hList hFound hReserved hReferenced
  have hTwo : run moveAlone (handler, thread) (List.replicate 4 .proceed) =
      run moveAlone ((thread.goTo (.selected connector)).decideAt handler connector)
        [.proceed, .proceed] := by
    rw [List.replicate_succ, run_cons, hFirst]
    rfl
  rw [hTwo, hSecond]
  obtain ⟨context, hSent⟩ := notifies_accepted handler
    { thread.goTo (.selected connector) with
      inner := thread.inner.insertionSort (· ≤ ·)
      results := results
      stage := .notifying connector
        { result with evseIds := some (evseIds.insertionSort (· ≤ ·)) } } rfl hStatus
  refine ⟨_, hSent, ?_⟩
  simp [AuthOutput.authorizesListed, hStatus, hUnlisted]

end TokenThread

namespace AuthModule

/-- A connector that is selected suits the result that it is selected for. -/
def SelectsSuiting (s : AuthModule) : AuthInput → Prop
  | .turn i _ => ∀ thread, s.parties[i]? = some thread → thread.SelectsSuiting s.shared
  | .onToken _ | .event _ => True

/-- What every thread has selected suits, and what was accepted was listed. -/
structure GivesListed (s : AuthModule) : Prop where
  threads : ∀ thread ∈ s.parties, thread.Suits
  log : ∀ output ∈ s.shared.log, output.authorizesListed = true

theorem GivesListed.step {s : AuthModule} (h : s.GivesListed) (input : AuthInput)
    (hOk : s.SelectsSuiting input) : (s.step input).GivesListed := by
  cases input with
  | onToken token =>
      exact ⟨Parties.forall_join h.threads ⟨by simp, by simp⟩, h.log⟩
  | event event => exact ⟨h.threads, AuthHandler.handleEvent_forall_log event
      (fun output => output.authorizesListed = true) (fun _ => rfl) h.log⟩
  | turn i move =>
      constructor
      · apply Parties.forall_turn h.threads
        intro thread hThread
        exact (TokenThread.step_act s.shared thread move).suits
          (h.threads thread (List.mem_of_getElem? hThread)) (hOk thread hThread)
      · apply Parties.turn_invariant
          (fun s : AuthModule => ∀ output ∈ s.shared.log, output.authorizesListed = true) h.log
        intro thread hThread
        rw [Parties.shared_turn hThread]
        exact (TokenThread.step_act s.shared thread move).authorizesListed
          (h.threads thread (List.mem_of_getElem? hThread)) h.log

/-- While only one thread has turns, it moves alone. -/
theorem shared_run_turns (s : AuthModule) {i : ℕ} {thread : TokenThread}
    (hThread : s.parties[i]? = some thread) (moves : List TokenMove) :
    (run step s (moves.map (.turn i))).shared =
      (run TokenThread.moveAlone (s.shared, thread) moves).1 := by
  induction moves generalizing s thread with
  | nil => rfl
  | cons move moves ih =>
      have hBound := (List.getElem?_eq_some_iff.1 hThread).1
      rw [List.map_cons, run_cons, run_cons]
      have hStep : s.step (.turn i move) = ⟨(thread.act s.shared move).1,
          s.parties.set i (thread.act s.shared move).2⟩ := by
        rw [step, Parties.turn_of_some hThread]
      rw [hStep]
      exact ih _ (List.getElem?_set_self hBound)

/-- As long as every connector that is selected suits, accepted results go to connectors that
they list. A thread that selects an unreserved connector that does not suit goes on to send
an accepted result to a connector that it does not list. -/
theorem authorized_connectors_listed (config : AuthConfig) (prioritize : Bool)
    (inputs : List AuthInput) :
    (EveryStep step SelectsSuiting (start config prioritize) inputs →
      ∀ output ∈ (run step (start config prioritize) inputs).shared.log,
        output.authorizesListed = true) ∧
    ∀ i thread connector,
      (run step (start config prioritize) inputs).parties[i]? = some thread →
      thread.selection (run step (start config prioritize) inputs).shared = some connector →
      ((run step (start config prioritize) inputs).shared.connectors connector).reserved = false →
      ¬thread.SelectsSuiting (run step (start config prioritize) inputs).shared →
      ∃ output ∈ (run step (start config prioritize)
          (inputs ++ List.replicate 4 (.turn i .proceed))).shared.log,
        output.authorizesListed = false := by
  constructor
  · intro hOk
    have hStart : (start config prioritize).GivesListed :=
      ⟨fun _ hThread => absurd hThread List.not_mem_nil,
        fun _ hOutput => absurd hOutput List.not_mem_nil⟩
    exact (run_invariant_of_everyStep GivesListed hStart
      (fun s input h hInput => h.step input hInput) inputs hOk).log
  · intro i thread connector hThread hSelection hReserved hUnsuiting
    have hTurns : List.replicate 4 (AuthInput.turn i .proceed) =
        (List.replicate 4 TokenMove.proceed).map (.turn i) := rfl
    rw [run_append, hTurns, shared_run_turns _ hThread]
    exact TokenThread.authorizes_unlisted hSelection hReserved hUnsuiting

/-- At a station with two connectors a car is plugged in at the second one, and a card is shown
that is accepted for the first one only. -/
theorem card_authorized_elsewhere :
    ¬∀ output ∈ (run step (start .twoConnectors false)
      ([AuthInput.event (.sessionEvent 2 { event := .sessionStarted })] ++
        handleToken 0 { idToken := "A", type := .rfid }
          [{ authorizationStatus := .accepted, evseIds := some [1] }] 10)).shared.log,
      output.authorizesListed = true := by
  decide

end AuthModule

end EverestCore.Auth
