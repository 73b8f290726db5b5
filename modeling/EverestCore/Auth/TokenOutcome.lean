import EverestCore.Auth.TokenThreads

/-! What a call of `handle_token` does if nothing else happens while it runs: all of an
authorization, or nothing of it. -/
namespace EverestCore.Auth
open EverestCore.Machine

/-- An EVSE is told that the token is accepted. -/
def AuthOutput.isAcceptance : AuthOutput → Bool
  | .notifyEvse _ _ _ result => result.authorizationStatus = .accepted
  | .stopTransaction _ _ _ _ | .withdrawAuthorization _ => false

/-- The results that the loop goes through. A prevalidated token is not sent to the
validators. -/
def ProvidedIdToken.validationResults (token : ProvidedIdToken)
    (results : List ValidationResult) : List ValidationResult :=
  if token.prevalidated = some true then [{ authorizationStatus := .accepted }] else results

/-- The identifier of a connector that is given to a token for a result. -/
def ProvidedIdToken.identifier (token : ProvidedIdToken) (result : ValidationResult) :
    Identifier where
  idToken := token.idToken
  type := token.type
  authorizationStatus := some .accepted
  expiryTime := result.expiryTime
  parentIdToken := result.parentIdToken

/-- Nothing of an authorization has happened. -/
structure Untouched (before after : AuthHandler) : Prop where
  connectors : after.connectors = before.connectors
  plugInQueue : after.plugInQueue = before.plugInQueue
  log : ∃ sent, after.log = before.log ++ sent ∧ ∀ output ∈ sent, output.isAcceptance = false

/-- One connector has its identifier, but its timer is not started. -/
structure Placed (before after : AuthHandler) (token : ProvidedIdToken) (connector : ℤ)
    (result : ValidationResult) : Prop where
  identifier : (after.connectors connector).identifier = some (token.identifier result)
  others : ∀ other, other ≠ connector → after.connectors other = before.connectors other
  plugInQueue : after.plugInQueue = before.plugInQueue
  log : ∃ sent, after.log = before.log ++ sent ∧ ∀ output ∈ sent, output.isAcceptance = false

/-- One connector was given to the token, and its EVSE was told so once. -/
structure Authorized (before after : AuthHandler) (token : ProvidedIdToken) (connector : ℤ)
    (result : ValidationResult) : Prop where
  identifier : (after.connectors connector).identifier = some (token.identifier result)
  others : ∀ other, other ≠ connector → after.connectors other = before.connectors other
  plugInQueue : after.plugInQueue = before.plugInQueue.filter fun value => !(value == connector)
  log : ∃ sent context told,
    after.log = before.log ++ sent ++ [.notifyEvse connector context token told] ∧
      told.authorizationStatus = .accepted ∧ ∀ output ∈ sent, output.isAcceptance = false

theorem Untouched.refl (handler : AuthHandler) : Untouched handler handler :=
  ⟨rfl, rfl, [], (List.append_nil _).symm, fun _ hOutput => absurd hOutput List.not_mem_nil⟩

/-- A call back that is no acceptance keeps it so. -/
theorem Untouched.emit {before after : AuthHandler} (h : Untouched before after)
    {output : AuthOutput} (hOutput : output.isAcceptance = false) :
    Untouched before (after.emit output) := by
  obtain ⟨sent, hSent, hNone⟩ := h.log
  refine ⟨h.connectors, h.plugInQueue, sent ++ [output], ?_, ?_⟩
  · rw [AuthHandler.emit, hSent, List.append_assoc]
  · rw [List.forall_mem_append, List.forall_mem_singleton]
    exact ⟨hNone, hOutput⟩

/-- A change of what else the handler keeps leaves the connectors untouched. -/
theorem Untouched.of_eq {before after after' : AuthHandler} (h : Untouched before after)
    (hConnectors : after'.connectors = after.connectors)
    (hQueue : after'.plugInQueue = after.plugInQueue) (hLog : after'.log = after.log) :
    Untouched before after' :=
  ⟨hConnectors.trans h.connectors, hQueue.trans h.plugInQueue, by rw [hLog]; exact h.log⟩

theorem Untouched.placed {before after : AuthHandler} (h : Untouched before after)
    (token : ProvidedIdToken) (connector : ℤ) {result : ValidationResult}
    (hStatus : result.authorizationStatus = .accepted) :
    Placed before (after.placeIdentifier connector token result) token connector result := by
  refine ⟨?_, fun other hOther => ?_, h.plugInQueue, h.log⟩
  · rw [AuthHandler.placeIdentifier, AuthHandler.modify_self, hStatus]
    rfl
  · rw [AuthHandler.placeIdentifier, AuthHandler.modify_of_ne _ _ hOther, h.connectors]

theorem Placed.authorized {before after : AuthHandler} {token : ProvidedIdToken} {connector : ℤ}
    {result : ValidationResult} (h : Placed before after token connector result)
    (hStatus : result.authorizationStatus = .accepted) :
    Authorized before
      ((after.startAuthorizationTimer connector).notifyEvseCallback connector token result) token
      connector result := by
  obtain ⟨sent, hSent, hNone⟩ := h.log
  refine ⟨?_, fun other hOther => ?_, ?_, sent,
    (after.startAuthorizationTimer connector).connectors connector, result, ?_, hStatus, hNone⟩
  · rw [AuthHandler.notifyEvseCallback, AuthHandler.emit_connectors,
      AuthHandler.startAuthorizationTimer, AuthHandler.unqueue_connectors, AuthHandler.modify_self]
    exact h.identifier
  · rw [AuthHandler.notifyEvseCallback, AuthHandler.emit_connectors,
      AuthHandler.startAuthorizationTimer, AuthHandler.unqueue_connectors,
      AuthHandler.modify_of_ne _ _ hOther]
    exact h.others other hOther
  · rw [← h.plugInQueue]
    rfl
  · rw [← hSent]
    rfl

/-- What counts of the result is what goes into the identifier. -/
theorem Authorized.congr {before after : AuthHandler} {token : ProvidedIdToken} {connector : ℤ}
    {result first : ValidationResult} (h : Authorized before after token connector result)
    (hIdentifier : token.identifier result = token.identifier first) :
    Authorized before after token connector first :=
  ⟨h.identifier.trans (congrArg some hIdentifier), h.others, h.plugInQueue, h.log⟩

/-- The check of a result never accepts it by itself, and keeps what goes into the
identifier. -/
theorem AuthHandler.checkReservation_result (handler : AuthHandler) (connector : ℤ)
    (token : ProvidedIdToken) (result : ValidationResult) (referenced : List ℤ) :
    let checked := (handler.checkReservation connector token result referenced).2
    (checked.authorizationStatus = .accepted → result.authorizationStatus = .accepted) ∧
      token.identifier checked = token.identifier result := by
  unfold checkReservation
  dsimp only
  split
  · exact ⟨nofun, rfl⟩
  · split
    · exact ⟨id, rfl⟩
    · split
      · exact ⟨id, rfl⟩
      · exact ⟨nofun, rfl⟩

namespace TokenThread

/-- A step of a call with nothing else in between, its validators returning these results,
and a wait in it ending or going on. -/
def alone (results : List ValidationResult) (now : AuthHandler × TokenThread) (timedOut : Bool) :
    AuthHandler × TokenThread :=
  now.2.act now.1 (if now.2.stage = .validating then .validated results
    else if timedOut then .timeout else .proceed)

/-- A call of `handle_token`, after some steps. -/
def handleToken (handler : AuthHandler) (token : ProvidedIdToken)
    (results : List ValidationResult) (timeouts : List Bool) : AuthHandler × TokenThread :=
  run (alone results) (handler, { token := token, stage := .handling }) timeouts

/-- The call has not accepted the token yet, and has not returned to its caller. -/
def isDeciding (thread : TokenThread) : Bool :=
  match thread.stage with
  | .arming _ _ | .returned .accepted | .unlocked _ | .finished _ => false
  | _ => true

/-- The result comes from one that accepts the token. -/
def StemsFrom (token : ProvidedIdToken) (results : List ValidationResult)
    (result : ValidationResult) : Prop :=
  ∃ first ∈ token.validationResults results, first.authorizationStatus = .accepted ∧
    token.identifier result = token.identifier first

/-- How far a call has got with an authorization. -/
structure InCall (before : AuthHandler) (token : ProvidedIdToken)
    (results : List ValidationResult) (now : AuthHandler × TokenThread) : Prop where
  own : now.2.token = token
  validated : ∀ result ∈ now.2.results, result ∈ token.validationResults results
  asked : now.2.stage = .validating → token.prevalidated ≠ some true
  untouched : now.2.isDeciding = true → Untouched before now.1
  notifying : ∀ connector result, now.2.stage = .notifying connector result →
    result.authorizationStatus = .accepted → StemsFrom token results result
  arming : ∀ connector result, now.2.stage = .arming connector result →
    result.authorizationStatus = .accepted ∧ StemsFrom token results result ∧
      Placed before now.1 token connector result
  authorized : now.2.stage = .returned .accepted → ∃ connector result,
    StemsFrom token results result ∧ Authorized before now.1 token connector result

section Call

variable {before : AuthHandler} {token : ProvidedIdToken} {results : List ValidationResult}
  {handler handler' : AuthHandler} {thread thread' : TokenThread}

/-- While a call decides, it only has to be seen what it goes on with. -/
theorem InCall.of_deciding (hToken : thread.token = token)
    (hResults : ∀ result ∈ thread.results, result ∈ token.validationResults results)
    (hUntouched : Untouched before handler) (hStage : thread.isDeciding = true)
    (hAsked : thread.stage = .validating → token.prevalidated ≠ some true)
    (hNotifying : ∀ connector result, thread.stage ≠ .notifying connector result) :
    InCall before token results (handler, thread) where
  own := hToken
  validated := hResults
  asked := hAsked
  untouched _ := hUntouched
  notifying connector result hNow := absurd hNow (hNotifying connector result)
  arming connector result (hNow : thread.stage = _) := by simp [isDeciding, hNow] at hStage
  authorized (hNow : thread.stage = _) := by simp [isDeciding, hNow] at hStage

/-- A stage of a call that decides, at which no EVSE is going to be notified. -/
def isSilent (thread : TokenThread) : Bool :=
  match thread.stage with
  | .notifying _ _ | .validating => false
  | _ => thread.isDeciding

theorem InCall.of_silent (hToken : thread.token = token)
    (hResults : ∀ result ∈ thread.results, result ∈ token.validationResults results)
    (hUntouched : Untouched before handler) (hStage : thread.isSilent = true) :
    InCall before token results (handler, thread) := by
  have hDeciding : thread.isDeciding = true := by
    unfold isSilent at hStage
    split at hStage
    · cases hStage
    · cases hStage
    · exact hStage
  refine .of_deciding hToken hResults hUntouched hDeciding ?_ ?_
  · intro hNow
    rw [isSilent, hNow] at hStage
    cases hStage
  · intro connector result hNow
    rw [isSilent, hNow] at hStage
    cases hStage

/-- A call that is going to notify an EVSE has a result to do so. -/
theorem InCall.of_notifying {connector : ℤ} {result : ValidationResult}
    (hToken : thread.token = token)
    (hResults : ∀ result ∈ thread.results, result ∈ token.validationResults results)
    (hUntouched : Untouched before handler)
    (hResult : result.authorizationStatus = .accepted → StemsFrom token results result)
    (hStage : thread.stage = .notifying connector result) :
    InCall before token results (handler, thread) where
  own := hToken
  validated := hResults
  asked (hNow : thread.stage = _) := by cases hStage.symm.trans hNow
  untouched _ := hUntouched
  notifying _ _ (hNow : thread.stage = _) := by
    cases hStage.symm.trans hNow
    exact hResult
  arming _ _ (hNow : thread.stage = _) := by cases hStage.symm.trans hNow
  authorized (hNow : thread.stage = _) := by cases hStage.symm.trans hNow

/-- A call that has set an identifier is going to start the timer. -/
theorem InCall.of_arming {connector : ℤ} {result : ValidationResult}
    (hToken : thread.token = token)
    (hResults : ∀ result ∈ thread.results, result ∈ token.validationResults results)
    (hArming : result.authorizationStatus = .accepted ∧ StemsFrom token results result ∧
      Placed before handler token connector result)
    (hStage : thread.stage = .arming connector result) :
    InCall before token results (handler, thread) where
  own := hToken
  validated := hResults
  asked (hNow : thread.stage = _) := by cases hStage.symm.trans hNow
  untouched (hNow : thread.isDeciding = true) := by
    rw [isDeciding, hStage] at hNow
    cases hNow
  notifying _ _ (hNow : thread.stage = _) := by cases hStage.symm.trans hNow
  arming _ _ (hNow : thread.stage = _) := by
    cases hStage.symm.trans hNow
    exact hArming
  authorized (hNow : thread.stage = _) := by cases hStage.symm.trans hNow

/-- A call that accepts has done all of an authorization. -/
theorem InCall.of_accepted (hToken : thread.token = token)
    (hResults : ∀ result ∈ thread.results, result ∈ token.validationResults results)
    (hAuthorized : ∃ connector result,
      StemsFrom token results result ∧ Authorized before handler token connector result)
    (hStage : thread.stage = .returned .accepted) :
    InCall before token results (handler, thread) where
  own := hToken
  validated := hResults
  asked (hNow : thread.stage = _) := by cases hStage.symm.trans hNow
  untouched (hNow : thread.isDeciding = true) := by
    rw [isDeciding, hStage] at hNow
    cases hNow
  notifying _ _ (hNow : thread.stage = _) := by cases hStage.symm.trans hNow
  arming _ _ (hNow : thread.stage = _) := by cases hStage.symm.trans hNow
  authorized _ := hAuthorized

/-- Once it has returned to `on_token`, nothing has to be seen any more. -/
theorem InCall.of_left (hToken : thread.token = token)
    (hResults : ∀ result ∈ thread.results, result ∈ token.validationResults results)
    (hStage : (∃ result, thread.stage = .unlocked result) ∨
      ∃ result, thread.stage = .finished result) :
    InCall before token results (handler, thread) := by
  rcases hStage with ⟨returned, hStage⟩ | ⟨returned, hStage⟩ <;>
    constructor <;> simp [hToken, isDeciding, hStage] <;> exact hResults

/-- The step that starts a call knows the results only if the token is prevalidated. -/
theorem InCall.handle (h : InCall before token results (handler, thread))
    (hStage : thread.stage = .handling) :
    InCall before token results (thread.handle handler) := by
  have hUntouched : Untouched before handler := h.untouched (by simp [isDeciding, hStage])
  unfold TokenThread.handle
  dsimp only
  split
  · exact .of_silent h.own h.validated (hUntouched.emit rfl) rfl
  · split
    · next hPrevalidated =>
      refine .of_silent h.own (fun result hResult => ?_) hUntouched rfl
      have hToken : thread.token = token := h.own
      rw [hToken] at hPrevalidated
      rwa [ProvidedIdToken.validationResults, if_pos hPrevalidated]
    · next hPrevalidated =>
      have hToken : thread.token = token := h.own
      rw [hToken] at hPrevalidated
      exact .of_deciding h.own h.validated hUntouched rfl (fun _ => hPrevalidated)
        (fun _ _ hNow => by cases hNow)

/-- All other steps go through the results that are there. -/
theorem Step.inCall (hStep : Step handler thread handler' thread')
    (h : InCall before token results (handler, thread)) (hHandling : thread.stage ≠ .handling)
    (hValidating : thread.stage ≠ .validating) :
    InCall before token results (handler', thread') := by
  have hUntouched (hDeciding : thread.isDeciding = true) : Untouched before handler :=
    h.untouched hDeciding
  cases hStep with
  | idle => exact h
  | stopsOwn _ hStage | prevalidates hStage | asks hStage => exact absurd hStage hHandling
  | receives _ hStage => exact absurd hStage hValidating
  | decides connector result rest inner hStage hFound hResults hInner =>
      obtain ⟨reservationHandler, hSame⟩ :=
        handler.checkReservation_eq connector thread.token result thread.inner
      obtain ⟨hStatus, hIdentifier⟩ :=
        handler.checkReservation_result connector thread.token result thread.inner
      have hResult : result ∈ token.validationResults results :=
        h.validated result (by show result ∈ thread.results; simp [hResults])
      refine .of_notifying h.own (fun other hOther => ?_) ?_ ?_ rfl
      · exact h.validated other (by show other ∈ thread.results; simp_all)
      · rw [hSame]
        exact (hUntouched (by simp [isDeciding, hStage])).of_eq rfl rfl rfl
      · exact fun hAccepted => ⟨result, hResult, hStatus hAccepted, h.own ▸ hIdentifier⟩
  | places connector result hStage hStatus =>
      refine .of_arming h.own h.validated
        ⟨hStatus, h.notifying connector result hStage hStatus, ?_⟩ rfl
      have hToken : thread.token = token := h.own
      rw [hToken]
      exact (hUntouched (by simp [isDeciding, hStage])).placed token connector hStatus
  | arms connector result hStage =>
      obtain ⟨hStatus, hStems, hPlaced⟩ := h.arming connector result hStage
      refine .of_accepted h.own h.validated ⟨connector, result, hStems, ?_⟩ rfl
      have hToken : thread.token = token := h.own
      rw [hToken]
      exact hPlaced.authorized hStatus
  | reports connector result hStage hStatus =>
      refine .of_silent h.own h.validated
        ((hUntouched (by simp [isDeciding, hStage])).emit ?_) rfl
      exact decide_eq_false hStatus
  | stopsByParent connector hStage =>
      exact .of_silent h.own h.validated
        ((hUntouched (by simp [isDeciding, hStage])).emit rfl) rfl
  | skips result rest hStage hResults =>
      refine .of_silent h.own (fun other hOther => ?_)
        (hUntouched (by simp [isDeciding, hStage])) (by simp [isSilent, isDeciding, hStage])
      exact h.validated other (by show other ∈ thread.results; simp_all)
  | unlocksAll returned => exact .of_left h.own h.validated (.inl ⟨returned, rfl⟩)
  | refuses | leaves | keepsToken => exact .of_left h.own h.validated (.inr ⟨_, rfl⟩)
  | enters hStage =>
      exact .of_silent h.own h.validated
        ((hUntouched (by simp [isDeciding, hStage])).of_eq rfl rfl rfl) rfl
  | findsPending _ hStage | goesOn hStage | findsAvailable hStage | findsNone hStage
    | rejects hStage | selectsFirst _ hStage | locks _ hStage | unlocks hStage | sees hStage | wakes hStage
    | timesOut hStage | picks hStage | givesUp hStage =>
      exact .of_silent h.own h.validated (hUntouched (by simp [isDeciding, hStage])) rfl

theorem InCall.alone {now : AuthHandler × TokenThread} (h : InCall before token results now)
    (timedOut : Bool) : InCall before token results (alone results now timedOut) := by
  obtain ⟨handler, thread⟩ := now
  by_cases hHandling : thread.stage = .handling
  · have hStep : TokenThread.alone results (handler, thread) timedOut = thread.handle handler := by
      simp [TokenThread.alone, act, hHandling]
    rw [hStep]
    exact h.handle hHandling
  · by_cases hValidating : thread.stage = .validating
    · have hStep : TokenThread.alone results (handler, thread) timedOut =
          (handler, { thread with results := results, stage := .stopping }) := by
        simp [TokenThread.alone, act, hValidating]
      rw [hStep]
      refine .of_silent h.own (fun result hResult => ?_)
        (h.untouched (by simp [isDeciding, hValidating])) rfl
      rwa [ProvidedIdToken.validationResults, if_neg (h.asked hValidating)]
    · exact (step_act handler thread _).inCall h hHandling hValidating

end Call

/-- A call of `handle_token` that nothing else interrupts does all of an authorization if it
accepts the token, and nothing of it otherwise. -/
theorem handleToken_all_or_nothing (handler : AuthHandler) (token : ProvidedIdToken)
    (results : List ValidationResult) (timeouts : List Bool) (returned : TokenHandlingResult)
    (hReturned : (handleToken handler token results timeouts).2.stage = .returned returned) :
    (returned ≠ .accepted →
      Untouched handler (handleToken handler token results timeouts).1) ∧
    (returned = .accepted → ∃ connector, ∃ result ∈ token.validationResults results,
      result.authorizationStatus = .accepted ∧
        Authorized handler (handleToken handler token results timeouts).1 token connector
          result) := by
  have hCall : InCall handler token results (handleToken handler token results timeouts) := by
    refine run_invariant (InCall handler token results) ?_ (fun _ timedOut h => h.alone timedOut)
      timeouts
    exact .of_silent rfl (fun _ hResult => absurd hResult List.not_mem_nil) (.refl handler) rfl
  constructor
  · intro hRefused
    refine hCall.untouched ?_
    rw [isDeciding, hReturned]
    cases returned <;> first | rfl | exact absurd rfl hRefused
  · rintro rfl
    obtain ⟨connector, result, ⟨first, hFirst, hStatus, hIdentifier⟩, hAuthorized⟩ :=
      hCall.authorized hReturned
    exact ⟨connector, first, hFirst, hStatus, hAuthorized.congr hIdentifier⟩

/-- A card with a parent at a station with one connector. -/
theorem handleToken_all_or_nothing_one_connector :
    let handler : AuthHandler :=
      { config := .oneConnector, prioritizeAuthorizationOverStoppingTransaction := false }
    let card : ProvidedIdToken := { idToken := "CARD", type := .rfid }
    let accepted : ValidationResult :=
      { authorizationStatus := .accepted, parentIdToken := some "FLEET" }
    ∃ connector, ∃ result ∈ card.validationResults [accepted],
      result.authorizationStatus = .accepted ∧
        Authorized handler (handleToken handler card [accepted] (List.replicate 8 false)).1 card
          connector result := by
  intro handler card accepted
  exact (handleToken_all_or_nothing handler card [accepted] (List.replicate 8 false) .accepted
    (by decide)).2 rfl

end TokenThread

end EverestCore.Auth
