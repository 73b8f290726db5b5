import EverestCore.Auth.AuthHandler
import EverestCore.Machine.Parties
import EverestCore.Machine.Mutexes

/-! The threads in which tokens are handled. Every token that a provider sends is handled
by a thread of its own, and the threads, the events of the sessions and the timers take
their steps in any order. A step of a thread ends where the thread may be held up, by a
mutex, a wait or a callback. A mutex is given to every thread that asks for it: the runs
in which a thread has to wait for one are among the runs here. -/
namespace EverestCore.Auth
open EverestCore.Machine
open EverestCore.V2G (AuthorizationStatus)

/-- How far the handling of a token is: in `on_token`, or, from `handling` to `arming`,
in `handle_token` and what it calls. -/
inductive TokenStage where
  | arrived
  | handling
  -- the validators have been asked
  | validating
  -- at the attempt to stop a transaction by a parent of the token
  | stopping
  | checkingAvailability
  -- at the head of the loop over the results
  | iterating
  -- in `select_connector`: with the mutexes, waiting without them, and with them again
  | locked
  | waiting
  | relocked
  | selected (connector : ℤ)
  -- in `notify_evse`: at its start, and before the mutex of the timers
  | notifying (connector : ℤ) (result : ValidationResult)
  | arming (connector : ℤ) (result : ValidationResult)
  | returned (result : TokenHandlingResult)
  | unlocked (result : TokenHandlingResult)
  | finished (result : TokenHandlingResult)
  deriving DecidableEq, Repr

/-- A call of `on_token`. Both functions have a list of the referenced connectors of
their own; `results` are those that the loop has still to look at. The operations are
those on the `plug_in_mutex` of the connectors. -/
structure TokenThread where
  token : ProvidedIdToken
  outer : List ℤ := []
  inner : List ℤ := []
  results : List ValidationResult := []
  stage : TokenStage := .arrived
  lockOperations : List (MutexOperation ℤ) := []
  deriving DecidableEq, Repr

/-- What a thread goes on with. -/
inductive TokenMove where
  | proceed
  | validated (results : List ValidationResult)
  | timeout
  deriving DecidableEq, Repr

namespace TokenThread

variable (handler : AuthHandler) (thread : TokenThread)

def goTo (stage : TokenStage) : TokenThread := { thread with stage := stage }

def lockPlugInMutex : TokenThread :=
  { thread with lockOperations := thread.lockOperations ++ thread.inner.map .lock }

def unlockPlugInMutex (connectors : List ℤ) : TokenThread :=
  { thread with lockOperations := thread.lockOperations ++ connectors.map .unlock }

/-- The part of `on_token` under the mutex of the tokens in process. -/
def enter : AuthHandler × TokenThread :=
  let referenced := handler.getReferencedConnectors thread.token
  if handler.isTokenAlreadyInProcess thread.token.idToken referenced then
    (handler, { thread with outer := referenced, stage := .finished .alreadyInProcess })
  else
    ({ handler with tokensInProcess := insert thread.token.idToken handler.tokensInProcess },
      { thread with outer := referenced, stage := .handling })

/-- `handle_token` up to the validation. -/
def handle : AuthHandler × TokenThread :=
  let thread := { thread with inner := handler.getReferencedConnectors thread.token }
  let connector := handler.usedForTransaction thread.inner thread.token.idToken
  if thread.token.type = .rfid ∧ connector ≠ -1 then
    (handler.stopTransactionCallback connector thread.token [],
      thread.goTo (.returned .usedToStopTransaction))
  else if thread.token.prevalidated = some true then
    (handler, { thread with results := [{ authorizationStatus := .accepted }], stage := .stopping })
  else (handler, thread.goTo .validating)

/-- The attempt to stop a transaction by a parent of the token. -/
def stop : AuthHandler × TokenThread :=
  if handler.attemptStopWithParentIdToken thread.inner then
    match handler.usedByParent thread.inner thread.results with
    | none => (handler, thread.goTo .checkingAvailability)
    | some connector =>
        if (handler.connectors connector).transactionActive then
          (handler.stopTransactionCallback connector thread.token thread.results,
            thread.goTo (.returned .usedToStopTransaction))
        else (handler, thread.goTo (.returned .alreadyInProcess))
  else (handler, thread.goTo .checkingAvailability)

/-- The head of the loop over the results, and `select_connector` up to its mutexes. -/
def iterate : TokenThread :=
  match thread.results, thread.inner with
  | [], _ | _ :: _, [] => thread.goTo (.returned .rejected)
  | result :: results, first :: others =>
      if result.authorizationStatus ≠ .accepted then { thread with results := results }
      else if others = [] then thread.goTo (.selected first)
      else
        match handler.config.selectionAlgorithm with
        | .plugEvents => thread.lockPlugInMutex.goTo .locked
        | .userInput => thread.goTo (.selected first)

/-- The first look at the queue. -/
def look : TokenThread :=
  if handler.getLatestPlugin thread.inner = -1 then
    (thread.unlockPlugInMutex thread.inner).goTo .waiting
  else thread.goTo .relocked

/-- The wait ends when a connector is in the queue, or without one after its time. -/
def wait (timedOut : Bool) : TokenThread :=
  if handler.getLatestPlugin thread.inner ≠ -1 then thread.lockPlugInMutex.goTo .relocked
  else if timedOut then thread.goTo (.selected (-1))
  else thread

/-- The rest of the loop up to `notify_evse`. The intersection with the connectors of
the result sorts the referenced ones. -/
def decideAt (connector : ℤ) : AuthHandler × TokenThread :=
  match thread.results with
  | [] => (handler, thread)
  | result :: results =>
      if connector = -1 then (handler, thread.goTo (.returned .timeout))
      else
        let (handler, result) := handler.checkReservation connector thread.token result thread.inner
        (handler,
          { thread with
            inner := if result.evseIds.isSome then thread.inner.insertionSort (· ≤ ·)
              else thread.inner
            results := results
            stage := .notifying connector result })

def notify (connector : ℤ) (result : ValidationResult) : AuthHandler × TokenThread :=
  if result.authorizationStatus = .accepted then
    (handler.placeIdentifier connector thread.token result, thread.goTo (.arming connector result))
  else (handler.notifyEvseCallback connector thread.token result, thread.goTo .iterating)

def arm (connector : ℤ) (result : ValidationResult) : AuthHandler × TokenThread :=
  ((handler.startAuthorizationTimer connector).notifyEvseCallback connector thread.token result,
    thread.goTo (.returned .accepted))

/-- The end of `on_token`. -/
def leave (result : TokenHandlingResult) : AuthHandler × TokenThread :=
  (if result ≠ .alreadyInProcess then
      { handler with tokensInProcess := handler.tokensInProcess.erase thread.token.idToken }
    else handler, thread.goTo (.finished result))

/-- A step of the thread. A move that does not fit its stage has no effect. -/
def act (move : TokenMove) : AuthHandler × TokenThread :=
  match thread.stage with
  | .arrived => thread.enter handler
  | .handling => thread.handle handler
  | .validating =>
      match move with
      | .validated results => (handler, { thread with results := results, stage := .stopping })
      | .proceed | .timeout => (handler, thread)
  | .stopping => thread.stop handler
  | .checkingAvailability =>
      (handler, thread.goTo (if handler.anyConnectorAvailable thread.inner then .iterating
        else .returned .noConnectorAvailable))
  | .iterating => (handler, thread.iterate handler)
  | .locked => (handler, thread.look handler)
  | .waiting => (handler, thread.wait handler (move = .timeout))
  | .relocked => (handler, thread.goTo (.selected (handler.getLatestPlugin thread.inner)))
  | .selected connector => thread.decideAt handler connector
  | .notifying connector result => thread.notify handler connector result
  | .arming connector result => thread.arm handler connector result
  | .returned result =>
      (handler, (thread.unlockPlugInMutex thread.outer).goTo (.unlocked result))
  | .unlocked result => thread.leave handler result
  | .finished _ => (handler, thread)

/-- The call is executing `handle_token`. -/
def isHandling : Bool :=
  match thread.stage with
  | .arrived | .returned _ | .unlocked _ | .finished _ => false
  | _ => true

/-- The call has entered its token among those in process, and may still take it out. -/
def isInProcess : Bool :=
  match thread.stage with
  | .arrived | .finished _ => false
  | _ => true

/-- The call has not returned. -/
def isRunning : Bool :=
  match thread.stage with
  | .finished _ => false
  | _ => true

/-- The connector whose identifier the thread has set, and whose timer it is going to
start. -/
def armingAt : Option ℤ :=
  match thread.stage with
  | .arming connector _ => some connector
  | _ => none

/-- Everything that a step of a thread can do, with what it has found out before. -/
inductive Step (handler : AuthHandler) (thread : TokenThread) : AuthHandler → TokenThread → Prop
  | idle (hArming : thread.armingAt = none) : Step handler thread handler thread
  | refuses (hStage : thread.stage = .arrived)
      (hAlready : handler.isTokenAlreadyInProcess thread.token.idToken
        (handler.getReferencedConnectors thread.token) = true) :
      Step handler thread handler
        { thread with
          outer := handler.getReferencedConnectors thread.token
          stage := .finished .alreadyInProcess }
  | enters (hStage : thread.stage = .arrived)
      (hAlready : handler.isTokenAlreadyInProcess thread.token.idToken
        (handler.getReferencedConnectors thread.token) = false) :
      Step handler thread
        { handler with tokensInProcess := insert thread.token.idToken handler.tokensInProcess }
        { thread with
          outer := handler.getReferencedConnectors thread.token, stage := .handling }
  | stopsOwn (connector : ℤ) (hStage : thread.stage = .handling)
      (hType : thread.token.type = .rfid)
      (hUsed : handler.usedForTransaction (handler.getReferencedConnectors thread.token)
        thread.token.idToken = connector) (hFound : connector ≠ -1) :
      Step handler thread (handler.stopTransactionCallback connector thread.token [])
        { thread with
          inner := handler.getReferencedConnectors thread.token
          stage := .returned .usedToStopTransaction }
  | prevalidates (hStage : thread.stage = .handling) :
      Step handler thread handler
        { thread with
          inner := handler.getReferencedConnectors thread.token
          results := [{ authorizationStatus := .accepted }]
          stage := .stopping }
  | asks (hStage : thread.stage = .handling) :
      Step handler thread handler
        { thread with
          inner := handler.getReferencedConnectors thread.token, stage := .validating }
  | receives (results : List ValidationResult) (hStage : thread.stage = .validating) :
      Step handler thread handler { thread with results := results, stage := .stopping }
  | stopsByParent (connector : ℤ) (hStage : thread.stage = .stopping)
      (hAttempt : handler.attemptStopWithParentIdToken thread.inner = true)
      (hParent : handler.usedByParent thread.inner thread.results = some connector)
      (hActive : (handler.connectors connector).transactionActive = true) :
      Step handler thread (handler.stopTransactionCallback connector thread.token thread.results)
        (thread.goTo (.returned .usedToStopTransaction))
  | findsPending (connector : ℤ) (hStage : thread.stage = .stopping)
      (hAttempt : handler.attemptStopWithParentIdToken thread.inner = true)
      (hParent : handler.usedByParent thread.inner thread.results = some connector)
      (hActive : (handler.connectors connector).transactionActive = false) :
      Step handler thread handler (thread.goTo (.returned .alreadyInProcess))
  | goesOn (hStage : thread.stage = .stopping) :
      Step handler thread handler (thread.goTo .checkingAvailability)
  | findsAvailable (hStage : thread.stage = .checkingAvailability) :
      Step handler thread handler (thread.goTo .iterating)
  | findsNone (hStage : thread.stage = .checkingAvailability) :
      Step handler thread handler (thread.goTo (.returned .noConnectorAvailable))
  | rejects (hStage : thread.stage = .iterating) :
      Step handler thread handler (thread.goTo (.returned .rejected))
  | skips (result : ValidationResult) (results : List ValidationResult)
      (hStage : thread.stage = .iterating) (hResults : thread.results = result :: results)
      (hStatus : result.authorizationStatus ≠ .accepted) :
      Step handler thread handler { thread with results := results }
  | selectsFirst (connector : ℤ) (hStage : thread.stage = .iterating)
      (hFirst : thread.inner.head? = some connector)
      (hOnly : thread.inner = [connector] ∨ handler.config.selectionAlgorithm = .userInput) :
      Step handler thread handler (thread.goTo (.selected connector))
  | locks (result : ValidationResult) (hStage : thread.stage = .iterating)
      (hResult : thread.results.head? = some result)
      (hStatus : result.authorizationStatus = .accepted) (hMany : 2 ≤ thread.inner.length)
      (hAlgorithm : handler.config.selectionAlgorithm = .plugEvents) :
      Step handler thread handler (thread.lockPlugInMutex.goTo .locked)
  | unlocks (hStage : thread.stage = .locked)
      (hNone : handler.getLatestPlugin thread.inner = -1) :
      Step handler thread handler ((thread.unlockPlugInMutex thread.inner).goTo .waiting)
  | sees (hStage : thread.stage = .locked) :
      Step handler thread handler (thread.goTo .relocked)
  | wakes (hStage : thread.stage = .waiting) :
      Step handler thread handler (thread.lockPlugInMutex.goTo .relocked)
  | timesOut (hStage : thread.stage = .waiting) :
      Step handler thread handler (thread.goTo (.selected (-1)))
  | picks (hStage : thread.stage = .relocked) :
      Step handler thread handler
        (thread.goTo (.selected (handler.getLatestPlugin thread.inner)))
  | givesUp (hStage : thread.stage = .selected (-1)) :
      Step handler thread handler (thread.goTo (.returned .timeout))
  | decides (connector : ℤ) (result : ValidationResult) (results : List ValidationResult)
      (inner : List ℤ) (hStage : thread.stage = .selected connector) (hFound : connector ≠ -1)
      (hResults : thread.results = result :: results) (hInner : inner.Perm thread.inner) :
      Step handler thread
        (handler.checkReservation connector thread.token result thread.inner).1
        { thread with
          inner := inner
          results := results
          stage := .notifying connector
            (handler.checkReservation connector thread.token result thread.inner).2 }
  | places (connector : ℤ) (result : ValidationResult)
      (hStage : thread.stage = .notifying connector result)
      (hStatus : result.authorizationStatus = .accepted) :
      Step handler thread (handler.placeIdentifier connector thread.token result)
        (thread.goTo (.arming connector result))
  | reports (connector : ℤ) (result : ValidationResult)
      (hStage : thread.stage = .notifying connector result)
      (hStatus : result.authorizationStatus ≠ .accepted) :
      Step handler thread (handler.notifyEvseCallback connector thread.token result)
        (thread.goTo .iterating)
  | arms (connector : ℤ) (result : ValidationResult)
      (hStage : thread.stage = .arming connector result) :
      Step handler thread
        ((handler.startAuthorizationTimer connector).notifyEvseCallback connector thread.token
          result) (thread.goTo (.returned .accepted))
  | unlocksAll (result : TokenHandlingResult) (hStage : thread.stage = .returned result) :
      Step handler thread handler
        ((thread.unlockPlugInMutex thread.outer).goTo (.unlocked result))
  | keepsToken (hStage : thread.stage = .unlocked .alreadyInProcess) :
      Step handler thread handler (thread.goTo (.finished .alreadyInProcess))
  | leaves (result : TokenHandlingResult) (hStage : thread.stage = .unlocked result)
      (hResult : result ≠ .alreadyInProcess) :
      Step handler thread
        { handler with tokensInProcess := handler.tokensInProcess.erase thread.token.idToken }
        (thread.goTo (.finished result))

section Steps

variable {handler : AuthHandler} {thread : TokenThread}

theorem step_enter (hStage : thread.stage = .arrived) :
    Step handler thread (thread.enter handler).1 (thread.enter handler).2 := by
  unfold enter
  dsimp only
  split
  · next hAlready => exact .refuses hStage hAlready
  · next hAlready => exact .enters hStage (Bool.not_eq_true _ ▸ hAlready)

theorem step_handle (hStage : thread.stage = .handling) :
    Step handler thread (thread.handle handler).1 (thread.handle handler).2 := by
  unfold handle
  dsimp only
  split
  · next hUsed => exact .stopsOwn _ hStage hUsed.1 rfl hUsed.2
  · split
    · exact .prevalidates hStage
    · exact .asks hStage

theorem step_stop (hStage : thread.stage = .stopping) :
    Step handler thread (thread.stop handler).1 (thread.stop handler).2 := by
  unfold stop
  split
  · next hAttempt =>
    split
    · exact .goesOn hStage
    · next connector hParent =>
      split
      · next hActive => exact .stopsByParent connector hStage hAttempt hParent hActive
      · next hActive =>
        exact .findsPending connector hStage hAttempt hParent (Bool.not_eq_true _ ▸ hActive)
  · exact .goesOn hStage

theorem step_iterate (hStage : thread.stage = .iterating) :
    Step handler thread handler (thread.iterate handler) := by
  unfold iterate
  split
  · exact .rejects hStage
  · exact .rejects hStage
  · next result results first others hResults hInner =>
    split
    · next hStatus => exact .skips result results hStage hResults hStatus
    · next hStatus =>
      split
      · next hOthers =>
        subst hOthers
        exact .selectsFirst first hStage (by rw [hInner]; rfl) (Or.inl hInner)
      · next hOthers =>
        split
        · next hAlgorithm =>
          refine .locks result hStage (by rw [hResults]; rfl) (not_not.mp hStatus) ?_ hAlgorithm
          rw [hInner, List.length_cons]
          have hLength := List.length_pos_iff.mpr hOthers
          omega
        · next hAlgorithm =>
          exact .selectsFirst first hStage (by rw [hInner]; rfl) (Or.inr hAlgorithm)

theorem step_decideAt {connector : ℤ} (hStage : thread.stage = .selected connector) :
    Step handler thread (thread.decideAt handler connector).1
      (thread.decideAt handler connector).2 := by
  unfold decideAt
  split
  · exact .idle (by rw [armingAt, hStage])
  · next result results hResults =>
    split
    · next hNone =>
      subst hNone
      exact .givesUp hStage
    · next hFound =>
      refine .decides connector result results _ hStage hFound hResults ?_
      split
      · exact List.perm_insertionSort _ _
      · exact List.Perm.refl _

/-- A step of a thread is one of these. -/
theorem step_act (handler : AuthHandler) (thread : TokenThread) (move : TokenMove) :
    Step handler thread (thread.act handler move).1 (thread.act handler move).2 := by
  unfold act
  cases hStage : thread.stage with
  | arrived => exact step_enter hStage
  | handling => exact step_handle hStage
  | validating =>
      cases move with
      | validated results => exact .receives results hStage
      | proceed | timeout => exact .idle (by rw [armingAt, hStage])
  | stopping => exact step_stop hStage
  | checkingAvailability =>
      dsimp only
      split
      · exact .findsAvailable hStage
      · exact .findsNone hStage
  | iterating => exact step_iterate hStage
  | locked =>
      dsimp only [look]
      split
      · next hNone => exact .unlocks hStage hNone
      · exact .sees hStage
  | waiting =>
      dsimp only [wait]
      split
      · exact .wakes hStage
      · split
        · exact .timesOut hStage
        · exact .idle (by rw [armingAt, hStage])
  | relocked => exact .picks hStage
  | selected connector => exact step_decideAt hStage
  | notifying connector result =>
      dsimp only [notify]
      split
      · next hStatus => exact .places connector result hStage hStatus
      · next hStatus => exact .reports connector result hStage hStatus
  | arming connector result => exact .arms connector result hStage
  | returned result => exact .unlocksAll result hStage
  | unlocked result =>
      dsimp only [leave]
      split
      · next hResult => exact .leaves result hStage hResult
      · next hResult =>
        rw [not_not] at hResult
        subst hResult
        exact .keepsToken hStage
  | finished result => exact .idle (by rw [armingAt, hStage])

theorem isInProcess_of_isHandling (h : thread.isHandling = true) : thread.isInProcess = true := by
  unfold isHandling at h
  unfold isInProcess
  cases hStage : thread.stage <;> simp_all

theorem isRunning_of_isInProcess (h : thread.isInProcess = true) : thread.isRunning = true := by
  unfold isInProcess at h
  unfold isRunning
  cases hStage : thread.stage <;> simp_all

theorem Step.token {handler' : AuthHandler} {thread' : TokenThread}
    (h : Step handler thread handler' thread') : thread'.token = thread.token := by
  cases h <;> rfl

/-- A thread changes the connectors and the queue only in `notify_evse`. -/
theorem Step.connectors {handler' : AuthHandler} {thread' : TokenThread}
    (h : Step handler thread handler' thread') :
    (∃ connector result, thread.stage = .notifying connector result ∧
      result.authorizationStatus = .accepted ∧
      handler' = handler.placeIdentifier connector thread.token result ∧
      thread' = thread.goTo (.arming connector result)) ∨
    (∃ connector result, thread.stage = .arming connector result ∧
      handler' = (handler.startAuthorizationTimer connector).notifyEvseCallback connector
        thread.token result ∧ thread' = thread.goTo (.returned .accepted)) ∨
    (handler'.connectors = handler.connectors ∧ handler'.plugInQueue = handler.plugInQueue ∧
      thread.armingAt = none ∧ thread'.armingAt = none) := by
  cases h with
  | places connector result hStage hStatus =>
      exact Or.inl ⟨connector, result, hStage, hStatus, rfl, rfl⟩
  | arms connector result hStage => exact Or.inr (Or.inl ⟨connector, result, hStage, rfl, rfl⟩)
  | decides connector result results inner hStage =>
      obtain ⟨reservationHandler, hEq⟩ :=
        handler.checkReservation_eq connector thread.token result thread.inner
      refine Or.inr (Or.inr ?_)
      rw [hEq]
      exact ⟨rfl, rfl, by rw [armingAt, hStage], rfl⟩
  | idle hArming => exact Or.inr (Or.inr ⟨rfl, rfl, hArming, hArming⟩)
  | skips result results hStage =>
      exact Or.inr (Or.inr ⟨rfl, rfl, by rw [armingAt, hStage], by simp [armingAt, hStage]⟩)
  | _ =>
      refine Or.inr (Or.inr ⟨rfl, rfl, ?_, rfl⟩)
      simp_all [armingAt]

end Steps

end TokenThread

/-- The handler with the calls of `on_token`. -/
abbrev AuthModule := Parties AuthHandler TokenThread

/-- What comes to the handler beside the tokens. -/
inductive AuthEvent where
  | sessionEvent (connector : ℤ) (message : SessionMessage)
  | timeout (connector : ℤ) (purpose : TimerPurpose)
  | handleReservation (now connector : ℤ) (reservation : Reservation)
  | handleCancelReservation (reservationId : ℤ)
  | reservationExpires (connector : ℤ)
  | setPrioritize (prioritize : Bool)
  deriving DecidableEq, Repr

inductive AuthInput where
  | onToken (token : ProvidedIdToken)
  | turn (i : ℕ) (move : TokenMove)
  | event (event : AuthEvent)
  deriving DecidableEq, Repr

def AuthHandler.handleEvent (handler : AuthHandler) : AuthEvent → AuthHandler
  | .sessionEvent connector message => handler.handleSessionEvent connector message
  | .timeout connector purpose => handler.timeout connector purpose
  | .handleReservation now connector reservation =>
      let context := handler.connectors connector
      -- `connectors.at` throws for a connector that does not exist
      if handler.config.connectorIds.contains connector then
        { handler with
          reservationHandler := (handler.reservationHandler.reserve now connector context.state
            context.isReservable reservation).1 }
      else handler
  | .handleCancelReservation reservationId =>
      { handler with
        reservationHandler :=
          (handler.reservationHandler.cancelReservation reservationId true).handler }
  | .reservationExpires connector =>
      { handler with
        reservationHandler := (handler.reservationHandler.expire connector).handler }
  | .setPrioritize prioritize =>
      { handler with prioritizeAuthorizationOverStoppingTransaction := prioritize }

/-- An event changes a connector only if it is an event or a timeout of its own. -/
theorem AuthHandler.handleEvent_connectors (handler : AuthHandler) (event : AuthEvent)
    (connector : ℤ) :
    (∃ message, event = .sessionEvent connector message) ∨
    (∃ purpose, event = .timeout connector purpose) ∨
    (handler.handleEvent event).connectors connector = handler.connectors connector := by
  cases event with
  | sessionEvent other message =>
      by_cases hOther : connector = other
      · subst hOther
        exact Or.inl ⟨message, rfl⟩
      · exact Or.inr (Or.inr (handler.handleSessionEvent_of_ne message hOther))
  | timeout other purpose =>
      by_cases hOther : connector = other
      · subst hOther
        exact Or.inr (Or.inl ⟨purpose, rfl⟩)
      · exact Or.inr (Or.inr (handler.timeout_of_ne purpose hOther))
  | handleReservation now other reservation =>
      right; right
      dsimp only [handleEvent]
      split <;> rfl
  | handleCancelReservation reservationId => exact Or.inr (Or.inr rfl)
  | reservationExpires other => exact Or.inr (Or.inr rfl)
  | setPrioritize prioritize => exact Or.inr (Or.inr rfl)

/-- An event calls nothing back, except that the time for an authorization is over. -/
theorem AuthHandler.handleEvent_log (handler : AuthHandler) (event : AuthEvent) :
    (handler.handleEvent event).log = handler.log ∨
    ∃ connector, (handler.handleEvent event).log =
      handler.log ++ [.withdrawAuthorization connector] := by
  cases event with
  | sessionEvent connector message =>
      left
      obtain ⟨event, reason⟩ := message
      cases event <;> cases reason <;> rfl
  | timeout connector purpose =>
      dsimp only [handleEvent, timeout]
      split
      · cases purpose with
        | plugIn => exact Or.inl rfl
        | authorization => exact Or.inr ⟨connector, rfl⟩
      · exact Or.inl rfl
  | handleReservation now connector reservation =>
      left
      dsimp only [handleEvent]
      split <;> rfl
  | handleCancelReservation reservationId => exact Or.inl rfl
  | reservationExpires connector => exact Or.inl rfl
  | setPrioritize prioritize => exact Or.inl rfl

/-- What every message so far has, and a withdrawal has, still holds after an event. -/
theorem AuthHandler.handleEvent_forall_log {handler : AuthHandler} (event : AuthEvent)
    (allowed : AuthOutput → Prop)
    (hWithdraw : ∀ connector, allowed (.withdrawAuthorization connector))
    (hLog : ∀ output ∈ handler.log, allowed output) :
    ∀ output ∈ (handler.handleEvent event).log, allowed output := by
  rcases handler.handleEvent_log event with hSame | ⟨connector, hWithdrawn⟩
  · rw [hSame]
    exact hLog
  · rw [hWithdrawn, List.forall_mem_append, List.forall_mem_singleton]
    exact ⟨hLog, hWithdraw connector⟩

/-- A step of a thread sends nothing but stops, and the result that its stage has. -/
theorem TokenThread.Step.forall_log {handler handler' : AuthHandler} {thread thread' : TokenThread}
    (h : Step handler thread handler' thread') (allowed : AuthOutput → Prop)
    (hStop : ∀ connector context results,
      allowed (.stopTransaction connector context thread.token results))
    (hReport : ∀ connector context result, thread.stage = .notifying connector result →
      result.authorizationStatus ≠ .accepted →
        allowed (.notifyEvse connector context thread.token result))
    (hArm : ∀ connector context result, thread.stage = .arming connector result →
      allowed (.notifyEvse connector context thread.token result))
    (hLog : ∀ output ∈ handler.log, allowed output) : ∀ output ∈ handler'.log, allowed output := by
  have hEmit (output : AuthOutput) (hOutput : allowed output) :
      ∀ other ∈ handler.log ++ [output], allowed other := by
    rw [List.forall_mem_append, List.forall_mem_singleton]
    exact ⟨hLog, hOutput⟩
  cases h with
  | stopsOwn | stopsByParent => exact hEmit _ (hStop _ _ _)
  | reports connector result hStage hStatus => exact hEmit _ (hReport _ _ _ hStage hStatus)
  | arms connector result hStage => exact hEmit _ (hArm _ _ _ hStage)
  | decides connector result =>
      obtain ⟨reservationHandler, hEq⟩ :=
        handler.checkReservation_eq connector thread.token result thread.inner
      rw [hEq]
      exact hLog
  | _ => exact hLog

namespace AuthModule

def start (config : AuthConfig) (prioritize : Bool) : AuthModule :=
  ⟨{ config := config, prioritizeAuthorizationOverStoppingTransaction := prioritize }, []⟩

def step (s : AuthModule) : AuthInput → AuthModule
  | .onToken token => s.join { token := token }
  | .turn i move => s.turn TokenThread.act i move
  | .event event => { s with shared := s.shared.handleEvent event }

/-- The thread whose turn it is meets a condition. -/
def MoverMeets (ok : AuthHandler → TokenThread → Bool) (s : AuthModule) : AuthInput → Prop
  | .turn i _ => ∀ thread ∈ s.parties[i]?, ok s.shared thread = true
  | .onToken _ | .event _ => True

instance (ok : AuthHandler → TokenThread → Bool) (s : AuthModule) (input : AuthInput) :
    Decidable (MoverMeets ok s input) :=
  match input with
  | .turn i _ => inferInstanceAs (Decidable (∀ thread ∈ s.parties[i]?, _))
  | .onToken _ | .event _ => inferInstanceAs (Decidable True)

/-- A call of `on_token` by the `i`-th thread, whose validators return these results,
and which goes on for a number of steps after that. -/
def handleToken (i : ℕ) (token : ProvidedIdToken) (results : List ValidationResult) (steps : ℕ) :
    List AuthInput :=
  [.onToken token, .turn i .proceed, .turn i .proceed, .turn i (.validated results)] ++
    List.replicate steps (.turn i .proceed)

end AuthModule

end EverestCore.Auth
