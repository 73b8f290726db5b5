import EverestCore.Auth.TokenThreads

/-! The transactions that tokens stop. A card stops a transaction by its own id before
it is validated, and any token can stop one by its parent afterwards. -/
namespace EverestCore.Auth
open EverestCore.Machine

/-- A transaction is stopped where one is active, by a card, and by its own id or by a
parent that the validation has returned. -/
def AuthOutput.StopsRightly : AuthOutput → Prop
  | .stopTransaction _ context token results =>
      context.transactionActive = true ∧ token.type = .rfid ∧
        (context.isUsedBy token.idToken = true ∨
          ∃ result ∈ results, ∃ parent, result.parentIdToken = some parent ∧
            context.isUsedBy parent = true)
  | .notifyEvse _ _ _ _ | .withdrawAuthorization _ => True

instance (output : AuthOutput) : Decidable output.StopsRightly :=
  match output with
  | .stopTransaction _ context token results =>
      decidable_of_iff (context.transactionActive = true ∧ token.type = .rfid ∧
        (context.isUsedBy token.idToken = true ∨
          ∃ result ∈ results, result.parentIdToken.any context.isUsedBy = true))
        (by simp [AuthOutput.StopsRightly, Option.any_eq_true])
  | .notifyEvse _ _ _ _ | .withdrawAuthorization _ => inferInstanceAs (Decidable True)

namespace AuthHandler

variable {handler : AuthHandler} {connectorIds : List ℤ}

/-- A connector that was found was given to the token or to one with this parent. -/
theorem isUsedBy_of_usedForTransaction {token : String}
    (h : handler.usedForTransaction connectorIds token ≠ -1) :
    (handler.connectors (handler.usedForTransaction connectorIds token)).isUsedBy token = true := by
  unfold usedForTransaction at h ⊢
  cases hFind : connectorIds.find? fun connector =>
      (handler.connectors connector).isUsedBy token with
  | none =>
      rw [hFind] at h
      exact absurd rfl h
  | some connector =>
      have hFound := List.find?_some hFind
      exact hFound

theorem isUsedBy_of_usedByParent {results : List ValidationResult} {connector : ℤ}
    (h : handler.usedByParent connectorIds results = some connector) :
    ∃ result ∈ results, ∃ parent, result.parentIdToken = some parent ∧
      (handler.connectors connector).isUsedBy parent = true := by
  obtain ⟨result, hResult, hFound⟩ := List.exists_of_findSome?_eq_some h
  obtain ⟨parent, hParent, hUsed⟩ := Option.bind_eq_some_iff.mp hFound
  refine ⟨result, hResult, parent, hParent, ?_⟩
  dsimp only at hUsed
  split at hUsed
  · cases hUsed
  · next hConnector =>
    cases hUsed
    exact isUsedBy_of_usedForTransaction hConnector

/-- All stops so far were right. -/
def StoppedRightly (handler : AuthHandler) : Prop :=
  ∀ output ∈ handler.log, output.StopsRightly

theorem stoppedRightly_emit {output : AuthOutput} :
    (handler.emit output).StoppedRightly ↔ handler.StoppedRightly ∧ output.StopsRightly := by
  simp [StoppedRightly, emit, or_imp, forall_and]

theorem stoppedRightly_handleEvent (event : AuthEvent) :
    (handler.handleEvent event).StoppedRightly ↔ handler.StoppedRightly := by
  unfold StoppedRightly
  rcases handler.handleEvent_log event with hSame | ⟨connector, hWithdrawn⟩
  · rw [hSame]
  · rw [hWithdrawn, List.forall_mem_append, List.forall_mem_singleton]
    exact and_iff_left trivial

end AuthHandler

namespace TokenThread

variable {handler : AuthHandler} {thread : TokenThread}

/-- The next step of the thread stops a transaction that is not active, as the connector
was only given to a token that has this one as its parent; or it stops one by a parent
although the token is no card. -/
def stopsAmiss (handler : AuthHandler) (thread : TokenThread) : Bool :=
  match thread.stage with
  | .handling =>
      let connector := handler.usedForTransaction (handler.getReferencedConnectors thread.token)
        thread.token.idToken
      thread.token.type = .rfid && connector != -1 &&
        !(handler.connectors connector).transactionActive
  | .stopping =>
      handler.attemptStopWithParentIdToken thread.inner &&
        (handler.usedByParent thread.inner thread.results).any (fun connector =>
          (handler.connectors connector).transactionActive) && thread.token.type != .rfid
  | _ => false

theorem stoppedRightly_handle (hStage : thread.stage = .handling) :
    (thread.handle handler).1.StoppedRightly ↔
      handler.StoppedRightly ∧ thread.stopsAmiss handler = false := by
  unfold handle
  dsimp only
  split
  · next hUsed =>
    rw [AuthHandler.stopTransactionCallback, AuthHandler.stoppedRightly_emit]
    refine and_congr_right fun _ => ?_
    have hOwn := AuthHandler.isUsedBy_of_usedForTransaction hUsed.2
    simp [AuthOutput.StopsRightly, stopsAmiss, hStage, hUsed.1, hUsed.2, hOwn]
  · next hUsed =>
    have hNot : thread.stopsAmiss handler = false := by
      simp only [stopsAmiss, hStage, Bool.and_eq_false_iff, decide_eq_false_iff_not, bne_eq_false_iff_eq]
      tauto
    split <;> simp [hNot]

theorem stoppedRightly_stop (hStage : thread.stage = .stopping) :
    (thread.stop handler).1.StoppedRightly ↔
      handler.StoppedRightly ∧ thread.stopsAmiss handler = false := by
  unfold stop
  split
  · next hAttempt =>
    split
    · next hParent => simp [stopsAmiss, hStage, hParent]
    · next connector hParent =>
      split
      · next hActive =>
        rw [AuthHandler.stopTransactionCallback, AuthHandler.stoppedRightly_emit]
        refine and_congr_right fun _ => ?_
        have hFound := AuthHandler.isUsedBy_of_usedByParent hParent
        simp [AuthOutput.StopsRightly, stopsAmiss, hStage, hAttempt, hParent, hActive, hFound]
      · next hActive => simp [stopsAmiss, hStage, hParent, hActive]
  · next hAttempt => simp [stopsAmiss, hStage, hAttempt]

/-- In all other stages a step stops nothing. -/
theorem Step.stoppedRightly {handler' : AuthHandler} {thread' : TokenThread}
    (h : Step handler thread handler' thread') (hHandling : thread.stage ≠ .handling)
    (hStopping : thread.stage ≠ .stopping) :
    handler'.StoppedRightly ↔ handler.StoppedRightly := by
  cases h with
  | stopsOwn connector hStage => exact absurd hStage hHandling
  | stopsByParent connector hStage => exact absurd hStage hStopping
  | decides connector result =>
      obtain ⟨reservationHandler, hEq⟩ :=
        handler.checkReservation_eq connector thread.token result thread.inner
      rw [hEq]
      rfl
  | reports | arms =>
      rw [AuthHandler.notifyEvseCallback, AuthHandler.stoppedRightly_emit]
      exact and_iff_left trivial
  | _ => rfl

/-- A step of a thread keeps the stops right exactly if it is none of those. -/
theorem stoppedRightly_act (move : TokenMove) :
    (thread.act handler move).1.StoppedRightly ↔
      handler.StoppedRightly ∧ thread.stopsAmiss handler = false := by
  by_cases hHandling : thread.stage = .handling
  · simpa only [act, hHandling] using stoppedRightly_handle hHandling
  by_cases hStopping : thread.stage = .stopping
  · simpa only [act, hStopping] using stoppedRightly_stop hStopping
  have hNot : thread.stopsAmiss handler = false := by
    unfold stopsAmiss
    cases hStage : thread.stage <;> simp_all
  rw [(step_act handler thread move).stoppedRightly hHandling hStopping, hNot, and_iff_left rfl]

end TokenThread

namespace AuthModule

/-- One step keeps the stops right exactly if its thread does not stop amiss. -/
theorem stoppedRightly_step (s : AuthModule) (input : AuthInput) :
    (s.step input).shared.StoppedRightly ↔ s.shared.StoppedRightly ∧
      MoverMeets (fun handler thread => !thread.stopsAmiss handler) s input := by
  cases input with
  | onToken token => exact (and_iff_left trivial).symm
  | event event =>
      exact (AuthHandler.stoppedRightly_handleEvent event).trans (and_iff_left trivial).symm
  | turn i move =>
      cases hThread : s.parties[i]? with
      | none =>
          rw [step, Parties.turn_of_none hThread]
          refine (and_iff_left ?_).symm
          intro thread hMem
          rw [hThread] at hMem
          cases hMem
      | some thread =>
          rw [step, Parties.turn_of_some hThread, TokenThread.stoppedRightly_act]
          refine and_congr_right fun _ => ?_
          simp [MoverMeets, hThread]

/-- In a run the right transactions are stopped by the right tokens exactly if no thread
of it stops amiss. -/
theorem stops_rightly_iff (config : AuthConfig) (prioritize : Bool) (inputs : List AuthInput) :
    (∀ output ∈ (run step (start config prioritize) inputs).shared.log, output.StopsRightly) ↔
      EveryStep step (MoverMeets fun handler thread => !thread.stopsAmiss handler)
        (start config prioritize) inputs := by
  apply run_iff_everyStep (fun _ => True) (fun s : AuthModule => s.shared.StoppedRightly) trivial
  · intro output hOutput
    cases hOutput
  · exact fun _ _ _ _ _ => trivial
  · intro s input _ hGood
    rw [stoppedRightly_step, and_iff_right hGood]
  · intro s input hNot hGood
    exact hNot ((stoppedRightly_step s input).mp hGood).1

/-- A card is accepted. Before its transaction starts, the card that is its parent is
shown, and a transaction that does not exist is stopped. -/
theorem parent_stops_no_transaction :
    ¬ ∀ output ∈ (run step (start .oneConnector false)
      (handleToken 0 { idToken := "A", type := .rfid }
        [{ authorizationStatus := .accepted, parentIdToken := some "P" }] 8 ++
      [AuthInput.onToken { idToken := "P", type := .rfid }, .turn 1 .proceed,
        .turn 1 .proceed])).shared.log, output.StopsRightly := by
  decide

end AuthModule

end EverestCore.Auth
