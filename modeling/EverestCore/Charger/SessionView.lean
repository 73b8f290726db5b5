import EverestCore.Charger.StateMachine
import EverestCore.Machine.Bracket

/-! What each call does to the session: its two flags, the authorization, and
the events that open and close a session or a transaction. Every other effect
of a call leaves this view as it is. -/
namespace EverestCore

/-- The events that open and close a session or a transaction. -/
def SessionEvent.isMark : SessionEvent → Bool
  | .sessionStarted | .sessionFinished | .transactionStarted | .transactionFinished => true
  | _ => false

def Output.marks : Output → List SessionEvent
  | .signalEvent event => if event.isMark then [event] else []
  | _ => []

structure SessionView where
  sessionActive : Bool
  transactionActive : Bool
  authorized : Bool
  marks : List SessionEvent

def Charger.flags (c : Charger) : Bool × Bool × Bool :=
  (c.sessionActive, c.transactionActive, c.authorized)

namespace SessionView

def startSession (v : SessionView) : SessionView :=
  { v with sessionActive := true, authorized := false, marks := v.marks ++ [.sessionStarted] }

def stopSession (v : SessionView) : SessionView :=
  { v with sessionActive := false, authorized := false, marks := v.marks ++ [.sessionFinished] }

def startTransaction (v : SessionView) : SessionView :=
  { v with transactionActive := true, marks := v.marks ++ [.transactionStarted] }

def stopTransaction (v : SessionView) : SessionView :=
  { v with transactionActive := false, marks := v.marks ++ [.transactionFinished] }

def authorize (a : Bool) (v : SessionView) : SessionView :=
  if a then { (if v.sessionActive then v else v.startSession) with authorized := true }
  else { (if v.sessionActive then v.stopSession else v) with authorized := false }

/-- Idle closes the session, but drops a transaction without an event. -/
def enterIdle (v : SessionView) : SessionView :=
  { v.authorize false with transactionActive := false }

def closeTransaction (v : SessionView) : SessionView :=
  if v.transactionActive then v.stopTransaction else v

end SessionView

namespace World

def view (w : World) : SessionView where
  sessionActive := w.charger.sessionActive
  transactionActive := w.charger.transactionActive
  authorized := w.charger.authorized
  marks := w.events.filter SessionEvent.isMark

/-- The view keeps only the outputs that mark the beginning or the end of a session or a
transaction. -/
theorem view_emit (output : Output) (w : World) :
    (w.emit output).view = { w.view with marks := w.view.marks ++ output.marks } := by
  cases output <;> simp [view, events, Output.marks, List.filter_cons]

/-- Any other output, such as a call to the board, is invisible in the view. -/
theorem view_emit_plain {output : Output} (h : output.marks = []) (w : World) :
    (w.emit output).view = w.view := by
  rw [view_emit, h, List.append_nil]

/-- An event that neither begins nor ends anything leaves no mark. -/
theorem view_signalEvent_plain {event : SessionEvent} (h : event.isMark = false)
    (w : World) : (w.signalEvent event).view = w.view :=
  view_emit_plain (by simp [Output.marks, h]) w

/-- An assignment to members other than the flags is invisible. -/
theorem view_update {assign : Charger → Charger} {w : World}
    (h : (assign w.charger).flags = w.charger.flags) : (w.update assign).view = w.view := by
  simp only [Charger.flags, Prod.mk.injEq] at h
  obtain ⟨hSession, hTransaction, hAuthorized⟩ := h
  simp [view, events, hSession, hTransaction, hAuthorized]

@[simp] theorem view_setState (state : EvseState) (w : World) :
    (w.setState state).view = w.view := view_update rfl

@[simp] theorem view_setError (error : ChargerError) (w : World) :
    (w.setError error).view = w.view := view_update rfl

@[simp] theorem view_pwmOff (w : World) : w.pwmOff.view = w.view := view_emit_plain rfl w

@[simp] theorem view_pwmF (w : World) : w.pwmF.view = w.view := view_emit_plain rfl w

@[simp] theorem view_updatePwmNow (now : ℤ) (dc : ℚ) (w : World) :
    (w.updatePwmNow now dc).view = w.view := by
  rw [updatePwmNow, view_update (by rfl), view_emit_plain (by rfl), view_update (by rfl)]

@[simp] theorem view_updatePwmNowIfChanged (now : ℤ) (dc : ℚ) (w : World) :
    (w.updatePwmNowIfChanged now dc).view = w.view := by
  rw [updatePwmNowIfChanged]
  split_ifs <;> simp

@[simp] theorem view_updatePwmMaxEvery5seconds (now : ℤ) (dc : ℚ) (w : World) :
    (w.updatePwmMaxEvery5seconds now dc).view = w.view := by
  rw [updatePwmMaxEvery5seconds]
  split_ifs <;> simp

@[simp] theorem view_powerAvailable (now : ℤ) (w : World) :
    (w.powerAvailable now).2.view = w.view := by
  dsimp only [powerAvailable]
  split_ifs
  · rw [view_emit_plain (by rfl), view_update (by rfl)]
  · rfl

@[simp] theorem view_startSession (authfirst : Bool) (w : World) :
    (w.startSession authfirst).view = w.view.startSession := by
  rw [startSession, signalEvent, view_emit]
  rfl

@[simp] theorem view_stopSession (w : World) : w.stopSession.view = w.view.stopSession := by
  rw [stopSession, signalEvent, view_emit]
  rfl

@[simp] theorem view_startTransaction (w : World) :
    w.startTransaction.view = w.view.startTransaction := by
  rw [startTransaction, signalEvent, view_emit]
  rfl

@[simp] theorem view_stopTransaction (w : World) :
    w.stopTransaction.view = w.view.stopTransaction := by
  rw [stopTransaction, signalEvent, view_emit, view_signalEvent_plain (by rfl)]
  rfl

@[simp] theorem view_sessionActive (w : World) : w.view.sessionActive = w.charger.sessionActive := rfl

@[simp] theorem view_transactionActive (w : World) :
    w.view.transactionActive = w.charger.transactionActive := rfl

@[simp] theorem view_authorized (w : World) : w.view.authorized = w.charger.authorized := rfl

@[simp] theorem view_authorize (a : Bool) (userid : String) (pnc : Bool) (w : World) :
    (w.authorize a userid pnc).view = w.view.authorize a := by
  have hTrue (w' : World) : (w'.update fun c => { c with
      authorized := true, authorizedPnc := pnc, authTag := userid }).view =
      { w'.view with authorized := true } := rfl
  have hFalse (w' : World) : (w'.update fun c => { c with authorized := false }).view =
      { w'.view with authorized := false } := rfl
  cases a <;> cases hSession : w.charger.sessionActive <;>
    simp [authorize, SessionView.authorize, hSession, hTrue, hFalse]

@[simp] theorem view_checkSoftOverCurrent (now : ℤ) (w : World) :
    (w.checkSoftOverCurrent now).view = w.view := by
  dsimp only [checkSoftOverCurrent]
  split_ifs <;> rfl

@[simp] theorem view_pauseChargingWaitForPower (w : World) :
    w.pauseChargingWaitForPower.2.view = w.view := by
  rw [pauseChargingWaitForPower]
  split_ifs <;> simp

@[simp] theorem view_restart (w : World) : w.restart.2.view = w.view := by
  rw [restart]
  split_ifs <;> simp

/-! The states one by one. -/

@[simp] theorem view_stateDisabled (newInState : Bool) (w : World) :
    (w.stateDisabled newInState).view = w.view := by
  rw [stateDisabled]
  split_ifs
  · rw [view_pwmF, view_signalEvent_plain rfl]
  · rfl

@[simp] theorem view_stateReplug (newInState : Bool) (w : World) :
    (w.stateReplug newInState).view = w.view := by
  dsimp only [stateReplug]
  split_ifs
  · rw [view_update (by rfl), view_signalEvent_plain rfl]
  · rw [view_signalEvent_plain rfl]
  · rfl

/-- `Idle` is left without an authorization. Its entry is where a missed end of a session is made up
for. -/
theorem view_stateIdle (newInState : Bool) (w : World) :
    (w.stateIdle newInState).view = if newInState then w.view.enterIdle else w.view := by
  have hDrop (w' : World) : (w'.update fun c => { c with transactionActive := false }).view =
      { w'.view with transactionActive := false } := rfl
  rw [stateIdle]
  split_ifs
  · rw [hDrop, view_authorize, view_pwmOff]
    rfl
  · rfl

/-- The first entry after a plug-in starts a session, unless the card was there before the car. -/
theorem view_requireAuthentication (w : World) :
    w.requireAuthentication.view =
      if w.charger.lastState = .replug ∨ w.charger.sessionActive then w.view
      else w.view.startSession := by
  rw [requireAuthentication]
  by_cases hReplug : w.charger.lastState = .replug
  · rw [if_pos hReplug, if_pos (.inl hReplug), view_signalEvent_plain rfl]
  · rw [if_neg hReplug, view_signalEvent_plain rfl]
    cases hSession : w.charger.sessionActive <;> simp [hReplug]

@[simp] theorem view_configureHlc (w : World) : w.configureHlc.view = w.view := by
  apply view_update
  cases w.charger.chargeMode <;> rfl

/-- Of the whole entry action only the start of the session is visible. -/
theorem view_enterWaitingForAuthentication (now : ℤ) (w : World) :
    (w.enterWaitingForAuthentication now).view =
      if w.charger.lastState = .replug ∨ w.charger.sessionActive then w.view
      else w.view.startSession := by
  have hEntered : (w.emit (.callAllowPowerOn false)).requireAuthentication.configureHlc.view =
      if w.charger.lastState = .replug ∨ w.charger.sessionActive then w.view
      else w.view.startSession := by
    rw [view_configureHlc, view_requireAuthentication, view_emit_plain (by rfl)]
    rfl
  dsimp only [enterWaitingForAuthentication]
  split_ifs <;> simp_all

@[simp] theorem view_proceedEIM (w : World) : w.proceedEIM.view = w.view.startTransaction := by
  dsimp only [proceedEIM]
  split
  · split_ifs
    · rw [view_setState, view_update (by rfl), view_startTransaction]
    · rw [view_update (by rfl), view_startTransaction]
    · rw [view_update (by rfl), view_startTransaction]
    · rw [view_setState, view_startTransaction]
    · rw [view_setState, view_startTransaction]
  · rw [view_setState, view_startTransaction]

@[simp] theorem view_proceedPnC (w : World) : w.proceedPnC.view = w.view.startTransaction := by
  dsimp only [proceedPnC]
  split
  · rw [view_setState, view_update (by rfl), view_startTransaction]
  · rw [view_setState, view_startTransaction]

/-- Either kind of authorization starts a transaction, whether or not one is
active already. -/
theorem view_checkAuthorization (w : World) :
    w.checkAuthorization.view =
      if w.charger.authorized ∧ ¬ waitsForLimits w.charger then w.view.startTransaction
      else w.view := by
  rw [checkAuthorization]
  cases hWaits : waitsForLimits w.charger <;> cases hAuthorized : w.charger.authorized <;>
    cases hPnc : w.charger.authorizedPnc <;>
    simp [authorizedEIM, authorizedPnC, hAuthorized, hPnc]

/-- The entry leaves alone what the check behind it depends on, so that the check can be stated for
the world before the entry. -/
theorem waitsForLimits_enterWaitingForAuthentication (now : ℤ) (w : World) :
    waitsForLimits (w.enterWaitingForAuthentication now).charger = waitsForLimits w.charger := by
  simp only [enterWaitingForAuthentication, requireAuthentication, configureHlc, startSession,
    signalEvent, updatePwmNow]
  cases hMode : w.charger.chargeMode <;> split_ifs <;> simp [hMode, waitsForLimits]

/-- What a turn in `WaitingForAuthentication` leaves of the session. -/
def waitingForAuthenticationView (newInState : Bool) (w : World) : SessionView :=
  let v := if newInState ∧ ¬ (w.charger.lastState = .replug ∨ w.charger.sessionActive) then
      w.view.startSession
    else w.view
  if v.authorized ∧ ¬ waitsForLimits w.charger then v.startTransaction else v

/-- The only state that starts transactions: its entry first, and the check of the authorization
then, in the same turn. -/
theorem view_stateWaitingForAuthentication (now : ℤ) (newInState : Bool) (w : World) :
    (w.stateWaitingForAuthentication now newInState).view =
      w.waitingForAuthenticationView newInState := by
  unfold stateWaitingForAuthentication waitingForAuthenticationView
  rw [view_checkAuthorization, ← view_authorized]
  cases newInState
  · simp
  · simp only [if_true, true_and, waitsForLimits_enterWaitingForAuthentication,
      view_enterWaitingForAuthentication, ite_not]

@[simp] theorem view_stateTStepEF (now : ℤ) (newInState : Bool) (w : World) :
    (w.stateTStepEF now newInState).view = w.view := by
  dsimp only [stateTStepEF]
  split_ifs <;> simp

@[simp] theorem view_stateTStepX1 (now : ℤ) (newInState : Bool) (w : World) :
    (w.stateTStepX1 now newInState).view = w.view := by
  dsimp only [stateTStepX1]
  split_ifs <;> simp

@[simp] theorem view_enterPrepareCharging (now : ℤ) (w : World) :
    (w.enterPrepareCharging now).view = w.view := by
  dsimp only [enterPrepareCharging]
  split_ifs <;> rw [view_updatePwmNow, view_emit_plain rfl, view_signalEvent_plain rfl]

@[simp] theorem view_statePrepareCharging (now : ℤ) (newInState : Bool) (w : World) :
    (w.statePrepareCharging now newInState).view = w.view := by
  dsimp only [statePrepareCharging]
  split_ifs <;> simp

@[simp] theorem view_permitPower (now : ℤ) (w : World) : (w.permitPower now).view = w.view := by
  dsimp only [permitPower]
  split_ifs <;> rw [view_updatePwmNow, view_emit_plain rfl]

@[simp] theorem view_followLimit (now : ℤ) (w : World) : (w.followLimit now).view = w.view := by
  rw [followLimit]
  split_ifs <;> simp

@[simp] theorem view_stateCharging (now : ℤ) (newInState : Bool) (w : World) :
    (w.stateCharging now newInState).view = w.view := by
  rw [stateCharging]
  split
  · rfl
  · dsimp only
    split_ifs
    · simp
    · rw [view_permitPower, view_signalEvent_plain rfl, view_powerAvailable,
        view_checkSoftOverCurrent]
    · simp

@[simp] theorem view_stateChargingPausedEV (now : ℤ) (newInState : Bool) (w : World) :
    (w.stateChargingPausedEV now newInState).view = w.view := by
  rw [stateChargingPausedEV]
  split
  · split_ifs
    · rw [view_setState, view_emit_plain rfl]
    · rfl
  · dsimp only
    split_ifs
    · simp
    · rw [view_permitPower, view_signalEvent_plain rfl, view_powerAvailable,
        view_checkSoftOverCurrent]
    · simp

@[simp] theorem view_stateChargingPausedEVSE (newInState : Bool) (w : World) :
    (w.stateChargingPausedEVSE newInState).view = w.view := by
  dsimp only [stateChargingPausedEVSE]
  split_ifs
  · split
    · rw [view_emit_plain rfl, view_pwmOff, view_signalEvent_plain rfl]
    · rw [view_pwmOff, view_signalEvent_plain rfl]
  · rfl

@[simp] theorem view_stateWaitingForEnergy (newInState : Bool) (w : World) :
    (w.stateWaitingForEnergy newInState).view = w.view := by
  dsimp only [stateWaitingForEnergy]
  split_ifs
  · rw [view_pwmOff, view_signalEvent_plain rfl]
  · rw [view_signalEvent_plain rfl]
  · rfl

/-- The guarded stop that several states share is one operation of the view. -/
theorem view_closeTransaction (w : World) :
    (if w.charger.transactionActive then w.stopTransaction else w).view =
      w.view.closeTransaction := by
  rw [SessionView.closeTransaction]
  cases hActive : w.charger.transactionActive <;> simp [hActive]

/-- The transaction ends with the entry into `StoppingCharging`, and the session goes on. -/
theorem view_stateStoppingCharging (newInState : Bool) (w : World) :
    (w.stateStoppingCharging newInState).view =
      if newInState then w.view.closeTransaction else w.view := by
  cases newInState
  · rfl
  · have hClosed := view_closeTransaction (w.signalEvent .stoppingCharging)
    rw [view_signalEvent_plain rfl] at hClosed
    simp only [stateStoppingCharging, if_true]
    split
    · rw [view_emit_plain rfl, hClosed]
    · rw [view_setState, view_pwmOff, hClosed]

/-- What is still running is closed in `Finished`, first the transaction and then the session. -/
theorem view_stateFinished (newInState : Bool) (w : World) :
    (w.stateFinished newInState).view =
      if newInState then w.view.closeTransaction.stopSession else w.view := by
  rw [stateFinished, view_restart]
  cases newInState
  · rfl
  · simp only [if_true]
    rw [view_pwmF, view_stopSession, view_closeTransaction]

@[simp] theorem view_stateError (newInState : Bool) (w : World) :
    (w.stateError newInState).view = w.view := by
  rw [stateError]
  split_ifs
  · rw [view_pwmOff, view_signalEvent_plain rfl]
  · rfl

@[simp] theorem view_stateFaulted (newInState : Bool) (w : World) :
    (w.stateFaulted newInState).view = w.view := by
  rw [stateFaulted]
  split_ifs
  · rw [view_pwmF, view_signalEvent_plain rfl]
  · rfl

@[simp] theorem view_enterState (now : ℤ) (w : World) : (w.enterState now).view = w.view := by
  dsimp only [enterState]
  split_ifs
  · rw [view_emit_plain rfl, view_emit_plain rfl, view_update (by rfl)]
  · rw [view_emit_plain rfl, view_update (by rfl)]

/-- What the switch over the current state leaves of the session. -/
def stateView (newInState : Bool) (w : World) : SessionView :=
  match w.charger.currentState with
  | .idle => if newInState then w.view.enterIdle else w.view
  | .waitingForAuthentication => w.waitingForAuthenticationView newInState
  | .stoppingCharging => if newInState then w.view.closeTransaction else w.view
  | .finished => if newInState then w.view.closeTransaction.stopSession else w.view
  | _ => w.view

/-- The code of the current state, seen from the session: most states do nothing here. -/
theorem view_runState (now : ℤ) (newInState : Bool) (w : World) :
    (w.runState now newInState).view = w.stateView newInState := by
  unfold runState stateView
  cases w.charger.currentState <;> simp [view_stateIdle, view_stateWaitingForAuthentication,
    view_stateStoppingCharging, view_stateFinished]

/-- What one turn of the main loop leaves of the session. The branch for a
replug is not taken, because `lastState` has been overwritten. -/
def tickView (w : World) : SessionView :=
  if socTimerFires w.charger then w.view
  else
    (w.update fun c => { c with lastState := c.currentState }).stateView
      (w.charger.lastState ≠ w.charger.currentState)

/-- The switch only looks at the view, the state and the limits of the session. -/
theorem stateView_congr {w w' : World} (newInState : Bool) (hView : w'.view = w.view)
    (hState : w'.charger.currentState = w.charger.currentState)
    (hLast : w'.charger.lastState = w.charger.lastState)
    (hLimits : waitsForLimits w'.charger = waitsForLimits w.charger) :
    w'.stateView newInState = w.stateView newInState := by
  have hSession : w'.charger.sessionActive = w.charger.sessionActive :=
    congrArg SessionView.sessionActive hView
  simp only [stateView, waitingForAuthenticationView, hView, hState, hLast, hLimits, hSession]

/-- A pass through the state machine shows no more than the code of the state that it runs. -/
theorem view_runStateMachine (now : ℤ) (w : World) : (w.runStateMachine now).view = w.tickView := by
  unfold runStateMachine tickView
  dsimp only
  split_ifs with hFires hNew
  · rw [view_emit_plain rfl, view_update rfl, view_update rfl]
  · rw [view_runState]
    refine stateView_congr _ ?_ ?_ ?_ ?_
    · rw [view_enterState]
      rfl
    all_goals
      dsimp only [enterState]
      split_ifs <;> rfl
  · rw [view_runState]
    exact stateView_congr _ rfl rfl rfl rfl

/-- Looking at the validity of the limit changes nothing but the limit. -/
theorem powerAvailable_field {β : Type*} (field : Charger → β)
    (hField : ∀ c : Charger, field { c with maxCurrent := 0 } = field c) (now : ℤ) (w : World) :
    field (w.powerAvailable now).2.charger = field w.charger := by
  dsimp only [powerAvailable]
  split_ifs
  · exact hField _
  · rfl

/-- The timer of the soft over-current check, which may replace a turn, is invisible as well. -/
theorem view_tick (now : ℤ) (w : World) : (w.tick now).view = w.tickView := by
  have hFires := powerAvailable_field socTimerFires (fun _ => rfl) now w
  have hState := powerAvailable_field Charger.currentState (fun _ => rfl) now w
  have hLast := powerAvailable_field Charger.lastState (fun _ => rfl) now w
  have hLimits := powerAvailable_field waitsForLimits (fun _ => rfl) now w
  rw [tick, view_runStateMachine, tickView, tickView, hFires, hState, hLast, view_powerAvailable]
  congr 1
  exact stateView_congr _ (by rw [view_update rfl, view_update rfl, view_powerAvailable])
    hState hState hLimits

/-! The calls from outside. -/

/-- `deAuthorize` takes an authorization back. -/
def deAuthorizes (c : Charger) : Bool :=
  c.sessionActive ∧
    c.currentState ∈ [.disabled, .idle, .waitingForAuthentication, .error, .faulted] ∧ c.authorized

/-- An authorization is only taken back while the charger still waits for it. The session ends then.
-/
theorem view_deAuthorize (w : World) :
    w.deAuthorize.2.view = if deAuthorizes w.charger then w.view.stopSession else w.view := by
  unfold deAuthorize deAuthorizes
  by_cases hState : w.charger.sessionActive ∧
      w.charger.currentState ∈ [.disabled, .idle, .waitingForAuthentication, .error, .faulted]
  · rw [if_pos hState]
    cases hAuthorized : w.charger.authorized
    · simp
    · simp only [hState, Bool.not_true, Bool.false_eq_true, if_false, and_true, decide_true,
        if_true, view_stopSession]
      rfl
  · rw [if_neg hState]
    simp only [← and_assoc, hState, false_and, decide_false, Bool.false_eq_true, if_false]

/-- A stop from outside closes the transaction and leaves the session open. -/
theorem view_cancelTransaction (request : StopTransactionRequest) (w : World) :
    (w.cancelTransaction request).2.view = w.view.closeTransaction := by
  unfold cancelTransaction SessionView.closeTransaction
  cases hActive : w.charger.transactionActive
  · simp [hActive]
  · simp only [if_true, view_transactionActive, hActive]
    rw [signalEvent, view_emit, view_signalEvent_plain rfl]
    cases w.charger.chargeMode <;> rfl

/-- Events of the control pilot change the state, and the session only through the code of the next
state. -/
theorem view_processCPEventsIndependent (cpEvent : ControlPilotEvent) (w : World) :
    (w.processCPEventsIndependent cpEvent).view = w.view := by
  have hCleared : (if w.charger.currentState = .error then w.signalEvent .allErrorsCleared
      else w).view = w.view := by
    split_ifs
    · exact view_signalEvent_plain rfl w
    · rfl
  unfold processCPEventsIndependent
  split
  case h_3 =>
    dsimp only
    split
    · rw [view_setState, hCleared]
    · rw [view_setState, hCleared]
  all_goals simp

/-- Events that depend on the current state do not show in the session by themselves. -/
theorem view_processCPEventsState (now : ℤ) (ppAmpacity : ℚ) (cpEvent : ControlPilotEvent)
    (w : World) : (w.processCPEventsState now ppAmpacity cpEvent).view = w.view := by
  rw [processCPEventsState]
  split
  case h_1 =>
    split_ifs
    · rw [view_setState, view_update rfl]
    · rfl
  case h_2 =>
    split
    · dsimp only
      split_ifs
      · rw [view_setState, view_powerAvailable, view_signalEvent_plain rfl]
      · rw [view_pauseChargingWaitForPower, view_setState, view_powerAvailable,
          view_signalEvent_plain rfl]
      · rw [view_signalEvent_plain rfl]
    · split_ifs <;> simp
  case h_5 => rfl
  all_goals
    split_ifs <;> simp

/-- What one call leaves of the session. -/
def callView (w : World) (c : Call) : SessionView :=
  match c.action with
  | .tick => w.tickView
  | .authorize a _ _ => w.view.authorize a
  | .deAuthorize => if deAuthorizes w.charger then w.view.stopSession else w.view
  | .cancelTransaction _ => w.view.closeTransaction
  | _ => w.view

/-- What any call does to the session is a function of the view and of a few member variables. -/
theorem view_call (w : World) (c : Call) : (w.call c).view = w.callView c := by
  unfold call callView
  cases c.action with
  | startMainThread =>
      rw [startMainThread, view_emit_plain rfl, view_emit_plain rfl, view_emit_plain rfl,
        view_emit_plain rfl]
  | tick => exact view_tick c.now w
  | processEvent event ppAmpacity =>
      exact (view_processCPEventsState _ _ _ _).trans (view_processCPEventsIndependent _ w)
  | authorize a userid pnc => exact view_authorize a userid pnc w
  | deAuthorize => exact view_deAuthorize w
  | cancelTransaction request => exact view_cancelTransaction request w
  | disable => exact view_signalEvent_plain rfl _
  | setFaulted => exact view_signalEvent_plain rfl _
  | evseReplug => exact view_emit_plain rfl w
  | restart => exact view_restart w
  | setup config => exact view_emit_plain rfl w
  | setCurrentDrawnByVehicle l1 l2 l3 => exact view_update rfl
  | setMatchingStarted m => exact view_update rfl
  | informNewEvseMaxHlcLimits limits => exact view_update rfl
  | switchThreePhasesWhileCharging n => exact view_emit_plain rfl w
  | forceUnlock => exact view_emit_plain rfl w
  | pauseCharging =>
      simp only [pauseCharging]
      split_ifs <;> simp
  | resumeCharging =>
      simp only [resumeCharging]
      split_ifs <;> simp
  | pauseChargingWaitForPower => exact view_pauseChargingWaitForPower w
  | resumeChargingPowerAvailable =>
      simp only [resumeChargingPowerAvailable]
      split_ifs <;> simp
  | enable =>
      simp only [enable]
      split_ifs
      · exact view_signalEvent_plain rfl _
      · rfl
  | setMaxCurrentUntil ampere validUntil =>
      simp only [setMaxCurrentUntil]
      split_ifs
      · rw [view_emit_plain rfl, view_update rfl]
      · rfl
      · rfl
  | setMaxCurrent ampere =>
      simp only [setMaxCurrent]
      split_ifs
      · rw [view_emit_plain rfl, view_update rfl]
      · rfl
      · rfl
  | requestErrorSequence =>
      simp only [requestErrorSequence]
      split_ifs
      · exact view_update rfl
      · rfl
  | notifyCurrentDemandStarted =>
      simp only [notifyCurrentDemandStarted]
      split_ifs
      · rw [view_setState, view_signalEvent_plain rfl]
      · rfl

end World
end EverestCore
