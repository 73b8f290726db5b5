import EverestCore.Charger.Outputs

/-! What a turn leaves alone. The code of a state touches neither the limits nor
the instant at which the state was entered, and it notes the last duty cycle and
its instant whenever it sends one. -/
namespace EverestCore

/-- The limits of the current. -/
structure Limits where
  connectorType : ConnectorType
  maxCurrent : ℚ
  maxCurrentValidUntil : ℤ
  maxCurrentCable : ℚ

/-- The member variables that the code of a state leaves alone. -/
structure Kept where
  limits : Limits
  currentStateStarted : ℤ
  chargeMode : ChargeMode
  hlcUse5percent : Bool
  breakReturn : EvseState × ℚ

namespace Charger

@[simps] def limits (c : Charger) : Limits where
  connectorType := c.connectorType
  maxCurrent := c.maxCurrent
  maxCurrentValidUntil := c.maxCurrentValidUntil
  maxCurrentCable := c.maxCurrentCable

@[simps] def kept (c : Charger) : Kept where
  limits := c.limits
  currentStateStarted := c.currentStateStarted
  chargeMode := c.chargeMode
  hlcUse5percent := c.hlcUse5percentCurrentSession
  breakReturn := (c.tStepEFReturnState, c.tStepEFReturnPWM)

/-- Taking note of an entry does not change the state. -/
@[simp] theorem turnStart_currentState (now : ℤ) (c : Charger) :
    (c.turnStart now).currentState = c.currentState := rfl

/-- The limit is read as it was before the turn. -/
theorem validLimit_turnStart (now : ℤ) (c : Charger) :
    (c.turnStart now).validLimit now = c.validLimit now := by
  simp only [validLimit, turnStart]
  split_ifs <;> rfl

/-- There is power in the turn if there was before it. -/
theorem hasPower_turnStart (now : ℤ) (c : Charger) :
    (c.turnStart now).hasPower now = c.hasPower now := by
  rw [hasPower, hasPower, validLimit_turnStart]

end Charger

namespace World

/-- A reading that no assignment in the code of a state changes, the soft over-current
check and `WaitingForAuthentication` apart. -/
structure Untouched {α : Type} (read : Charger → α) : Prop where
  setState (state : EvseState) (w : World) : read (w.setState state).charger = read w.charger
  updatePwmNow (now : ℤ) (dc : ℚ) (w : World) :
    read (w.updatePwmNow now dc).charger = read w.charger
  stopSession (w : World) : read w.stopSession.charger = read w.charger
  stopTransaction (w : World) : read w.stopTransaction.charger = read w.charger
  deauthorize (w : World) : read (w.authorize false "" false).charger = read w.charger
  endTransaction (c : Charger) : read { c with transactionActive := false } = read c
  socTimer (timer : ℤ) (c : Charger) : read { c with acWithSocTimer := timer } = read c

/-- What is read of a world commutes with the choice between two worlds. -/
theorem read_ite {α : Type} (read : Charger → α) (p : Prop) [Decidable p] (w w' : World) :
    read (if p then w else w').charger = if p then read w.charger else read w'.charger := by
  split_ifs <;> rfl

namespace Untouched

variable {α : Type} {read : Charger → α} (hRead : Untouched read)

include hRead

/-- What a command to the board leaves alone, it leaves alone whether it is sent or not. -/
theorem updatePwmNowIfChanged (now : ℤ) (dc : ℚ) (w : World) :
    read (w.updatePwmNowIfChanged now dc).charger = read w.charger := by
  rw [World.updatePwmNowIfChanged, read_ite read, hRead.updatePwmNow, ite_self]

/-- A member that single steps leave alone is left alone by this entry. -/
theorem enterPrepareCharging (now : ℤ) (w : World) :
    read (w.enterPrepareCharging now).charger = read w.charger := by
  dsimp only [World.enterPrepareCharging]
  rw [read_ite read, hRead.updatePwmNow, hRead.updatePwmNow, ite_self]
  rfl

/-- A permission is written to the log of commands only. -/
theorem permitPower (now : ℤ) (w : World) :
    read (w.permitPower now).charger = read w.charger := by
  dsimp only [World.permitPower]
  rw [read_ite read, hRead.updatePwmNow, hRead.updatePwmNow, ite_self]
  rfl

/-- Following the limit writes the record of the last PWM only. -/
theorem followLimit (now : ℤ) (w : World) :
    read (w.followLimit now).charger = read w.charger := by
  simp only [World.followLimit, updatePwmMaxEvery5seconds, read_ite read, hRead.updatePwmNow, ite_self]

/-- The pause changes the state and nothing else. -/
theorem pauseChargingWaitForPower (w : World) :
    read w.pauseChargingWaitForPower.2.charger = read w.charger := by
  rw [World.pauseChargingWaitForPower]
  split_ifs
  · exact hRead.setState .waitingForEnergy w
  · rfl

theorem restart (w : World) : read w.restart.2.charger = read w.charger := by
  rw [World.restart]
  split_ifs
  · exact hRead.setState .idle w
  · rfl

/-- The guarded stop of a transaction leaves alone what the stop does. -/
theorem stopIfActive (w : World) :
    read (if w.charger.transactionActive then w.stopTransaction else w).charger =
      read w.charger := by
  rw [read_ite read, hRead.stopTransaction, ite_self]

/-- What follows the check in `Charging` and `ChargingPausedEV`. -/
theorem afterCheck (now : ℤ) (available resumes : Prop) [Decidable available] [Decidable resumes]
    (event : SessionEvent) (w : World) :
    read (if available then w.pauseChargingWaitForPower.2
      else if resumes then (w.signalEvent event).permitPower now
      else w.followLimit now).charger = read w.charger := by
  split_ifs
  · exact hRead.pauseChargingWaitForPower w
  · exact hRead.permitPower now (w.signalEvent event)
  · exact hRead.followLimit now w

/-- The code of a state does not change such a reading, if the check does not. -/
theorem runState (now : ℤ) (newInState : Bool) {w : World}
    (hState : w.charger.currentState ≠ .waitingForAuthentication)
    (hChecked : w.charger.chargeMode = .ac →
      w.charger.currentState = .charging ∨ w.charger.currentState = .chargingPausedEV →
      read ((w.checkSoftOverCurrent now).powerAvailable now).2.charger = read w.charger) :
    read (w.runState now newInState).charger = read w.charger := by
  rw [World.runState]
  cases hCase : w.charger.currentState with
  | waitingForAuthentication => exact absurd hCase hState
  | charging =>
      dsimp only [stateCharging]
      cases hMode : w.charger.chargeMode with
      | ac => exact (hRead.afterCheck now _ _ _ _).trans (hChecked hMode (.inl hCase))
      | dc => rfl
  | chargingPausedEV =>
      dsimp only [stateChargingPausedEV]
      cases hMode : w.charger.chargeMode with
      | ac => exact (hRead.afterCheck now _ _ _ _).trans (hChecked hMode (.inr hCase))
      | dc =>
          dsimp only
          rw [read_ite read, hRead.setState]
          exact ite_self _
  | prepareCharging =>
      simp only [statePrepareCharging, read_ite read, hRead.updatePwmNowIfChanged,
        hRead.enterPrepareCharging, ite_self]
  | idle =>
      dsimp only [stateIdle]
      rw [read_ite read, update_charger, hRead.endTransaction, hRead.deauthorize]
      exact ite_self _
  | stoppingCharging =>
      cases newInState with
      | false => rfl
      | true =>
          dsimp only [stateStoppingCharging]
          rw [if_pos rfl]
          split
          · exact hRead.stopIfActive (w.signalEvent .stoppingCharging)
          · rw [hRead.setState]
            exact hRead.stopIfActive (w.signalEvent .stoppingCharging)
  | finished =>
      simp only [stateFinished, hRead.restart, read_ite read, charger_pwmF, hRead.stopSession,
        hRead.stopTransaction, ite_self]
  | chargingPausedEVSE =>
      dsimp only [stateChargingPausedEVSE]
      cases hMode : w.charger.chargeMode <;> split_ifs <;> simp [hMode]
  | tStepEF =>
      simp only [stateTStepEF, read_ite read, hRead.setState, hRead.updatePwmNow, charger_pwmOff,
        charger_pwmF, ite_self]
  | tStepX1 =>
      simp only [stateTStepX1, read_ite read, hRead.setState, hRead.updatePwmNow, charger_pwmOff,
        ite_self]
  | replug =>
      dsimp only [stateReplug]
      rw [read_ite read, read_ite read, update_charger, hRead.socTimer]
      split_ifs <;> rfl
  | waitingForEnergy =>
      dsimp only [stateWaitingForEnergy]
      rw [read_ite read, read_ite read]
      split_ifs <;> rfl
  | disabled | error | faulted =>
      simp only [stateDisabled, stateError, stateFaulted, read_ite read, charger_signalEvent,
        charger_pwmOff, charger_pwmF, ite_self]

end Untouched

/-- What is kept over a turn is of the kind that the single steps of a state leave alone. -/
theorem kept_untouched : Untouched Charger.kept where
  setState _ _ := rfl
  updatePwmNow _ _ _ := rfl
  stopSession _ := rfl
  stopTransaction _ := rfl
  deauthorize w := by
    rw [authorize]
    split_ifs <;> rfl
  endTransaction _ := rfl
  socTimer _ _ := rfl

/-- What `WaitingForAuthentication` may note beside what is kept: where a break
leads, and whether the session uses five percent PWM. -/
def KeptBut (kept kept' : Kept) : Prop :=
  ∃ five breakReturn, (breakReturn = kept.breakReturn ∨ breakReturn = (.prepareCharging, 0)) ∧
    kept' = { kept with hlcUse5percent := five, breakReturn := breakReturn }

/-- An authorization may note where a break leads. -/
theorem checkAuthorization_kept (w : World) :
    KeptBut w.charger.kept w.checkAuthorization.charger.kept := by
  rw [checkAuthorization]
  dsimp only [proceedEIM, proceedPnC]
  cases hMode : w.startTransaction.charger.chargeMode <;> split_ifs <;>
    first | exact ⟨_, _, .inl rfl, rfl⟩ | exact ⟨_, _, .inr rfl, rfl⟩

/-- The entry decides anew whether the session uses five percent. -/
theorem enterWaitingForAuthentication_kept (now : ℤ) (w : World) :
    (w.enterWaitingForAuthentication now).charger.kept =
      { w.charger.kept with hlcUse5percent := w.charger.startsWith5percent } := by
  have hFive : (w.emit (.callAllowPowerOn false)).requireAuthentication.charger.startsWith5percent =
      w.charger.startsWith5percent := by
    dsimp only [requireAuthentication]
    split_ifs <;> rfl
  dsimp only [enterWaitingForAuthentication]
  rw [apply_ite World.charger, charger_updatePwmNow, configureHlc_charger, hFive]
  dsimp only [requireAuthentication]
  split_ifs <;> rfl

/-- With a limit that is still valid, the checks of a turn leave it all as it is. -/
theorem checked_kept (now : ℤ) {w : World} (hValid : w.charger.validLimit now = w.charger.maxCurrent) :
    ((w.checkSoftOverCurrent now).powerAvailable now).2.charger.kept = w.charger.kept := by
  obtain ⟨state, error, exceeded, last, hCharger, -⟩ := checkSoftOverCurrent_charger now w
  rw [powerAvailable_charger, (checkSoftOverCurrent_reads now w).2.2, hValid, hCharger]
  rfl

/-- Only `WaitingForAuthentication` notes where a break returns to. -/
theorem runState_kept (now : ℤ) (newInState : Bool) {w : World}
    (hValid : w.charger.validLimit now = w.charger.maxCurrent)
    (hState : w.charger.currentState ≠ .waitingForAuthentication) :
    (w.runState now newInState).charger.kept = w.charger.kept :=
  kept_untouched.runState now newInState hState fun _ _ => checked_kept now hValid

/-- The code of any state. -/
theorem runState_keptBut (now : ℤ) (newInState : Bool) {w : World}
    (hValid : w.charger.validLimit now = w.charger.maxCurrent) :
    KeptBut w.charger.kept (w.runState now newInState).charger.kept := by
  by_cases hState : w.charger.currentState = .waitingForAuthentication
  · rw [runState, hState]
    dsimp only [stateWaitingForAuthentication]
    cases newInState
    · exact checkAuthorization_kept w
    · obtain ⟨five, breakReturn, hReturn, hKept⟩ :=
        checkAuthorization_kept (w.enterWaitingForAuthentication now)
      rw [enterWaitingForAuthentication_kept] at hReturn hKept
      exact ⟨five, breakReturn, hReturn, hKept⟩
  · rw [runState_kept now newInState hValid hState]
    exact ⟨_, _, .inl rfl, rfl⟩

/-- A turn replaces a limit that has run out and notes when a state is entered. -/
theorem tick_keptBut (now : ℤ) (w : World) :
    KeptBut { w.charger.kept with
        limits := { w.charger.limits with maxCurrent := w.charger.validLimit now }
        currentStateStarted :=
          if socTimerFires w.charger = false ∧ w.charger.lastState ≠ w.charger.currentState then now
          else w.charger.currentStateStarted }
      (w.tick now).charger.kept := by
  cases hFires : socTimerFires w.charger
  · obtain ⟨w', hCharger, -, hTick⟩ := tick_of_not_fires now hFires
    have hValid : w'.charger.validLimit now = w'.charger.maxCurrent := by
      rw [hCharger, Charger.validLimit_turnStart]
      rfl
    have hKept := runState_keptBut now (w.charger.lastState ≠ w.charger.currentState) hValid
    rw [← hTick, hCharger] at hKept
    simpa [Charger.kept, Charger.limits, Charger.turnStart] using hKept
  · rw [(tick_of_fires now hFires).1]
    exact ⟨w.charger.hlcUse5percentCurrentSession, w.charger.kept.breakReturn, .inl rfl,
      by simp [Charger.kept, Charger.limits]⟩

/-- A turn writes the limit only to let it expire. -/
theorem tick_limits (now : ℤ) (w : World) :
    (w.tick now).charger.limits =
      { w.charger.limits with maxCurrent := w.charger.validLimit now } := by
  obtain ⟨five, breakReturn, -, hKept⟩ := tick_keptBut now w
  exact congrArg Kept.limits hKept

end World

namespace Charger

/-- The limits after a call. -/
def callLimits (c : Charger) (call : Call) : Limits :=
  match call.action with
  | .tick => { c.limits with maxCurrent := c.validLimit call.now }
  | .processEvent .carPluggedIn ppAmpacity =>
      if c.currentState = .idle then { c.limits with maxCurrentCable := ppAmpacity } else c.limits
  | .processEvent .carRequestedPower _ =>
      if c.currentState = .prepareCharging ∧ c.chargeMode = .ac then
        { c.limits with maxCurrent := c.validLimit call.now }
      else c.limits
  | .resumeChargingPowerAvailable =>
      if c.transactionActive ∧ c.currentState = .waitingForEnergy then
        { c.limits with maxCurrent := c.validLimit call.now }
      else c.limits
  | .setMaxCurrentUntil ampere validUntil =>
      if acceptsLimit call.now ampere validUntil then
        { c.limits with
          maxCurrent := World.limitToCable c ampere, maxCurrentValidUntil := validUntil }
      else c.limits
  | .setMaxCurrent ampere =>
      if acceptsLimit call.now ampere c.maxCurrentValidUntil then
        { c.limits with maxCurrent := World.limitToCable c ampere }
      else c.limits
  | _ => c.limits

end Charger

namespace World

/-- The question for power is where an expiry is written down. -/
theorem powerAvailable_limits (now : ℤ) (w : World) :
    (w.powerAvailable now).2.charger.limits =
      { w.charger.limits with maxCurrent := w.charger.validLimit now } := by
  rw [powerAvailable_charger]
  rfl

/-- The pause leaves the limits alone. -/
theorem pauseChargingWaitForPower_limits (w : World) :
    w.pauseChargingWaitForPower.2.charger.limits = w.charger.limits :=
  congrArg Kept.limits (kept_untouched.pauseChargingWaitForPower w)

/-- Events of the control pilot leave the limits alone. -/
theorem processCPEventsIndependent_limits (cpEvent : ControlPilotEvent) (w : World) :
    (w.processCPEventsIndependent cpEvent).charger.limits = w.charger.limits := by
  cases cpEvent with
  | carUnplugged =>
      dsimp only [processCPEventsIndependent]
      split_ifs <;> cases hMode : w.charger.chargeMode <;> simp [hMode, setState, Charger.limits]
  | _ => rfl

/-- Only a plugged cable and the question for power change the limits. -/
theorem processCPEventsState_limits (now : ℤ) (ppAmpacity : ℚ) (cpEvent : ControlPilotEvent)
    (w : World) :
    (w.processCPEventsState now ppAmpacity cpEvent).charger.limits =
      if cpEvent = .carPluggedIn ∧ w.charger.currentState = .idle then
        { w.charger.limits with maxCurrentCable := ppAmpacity }
      else if cpEvent = .carRequestedPower ∧ w.charger.currentState = .prepareCharging ∧
          w.charger.chargeMode = .ac then
        { w.charger.limits with maxCurrent := w.charger.validLimit now }
      else w.charger.limits := by
  rw [processCPEventsState]
  cases hState : w.charger.currentState with
  | prepareCharging =>
      cases hMode : w.charger.chargeMode
      · by_cases hPower : cpEvent = .carRequestedPower
        · simp only [hPower, if_true, reduceCtorEq, if_false, and_self]
          rw [apply_ite World.charger, apply_ite Charger.limits, pauseChargingWaitForPower_limits]
          exact (ite_self _).trans (powerAvailable_limits now _)
        · simp [hPower]
      · dsimp only
        split_ifs <;> simp_all [setState, Charger.limits]
  | _ =>
      dsimp only
      split_ifs <;> simp_all [setState, Charger.limits]

/-- A plug-in notes what the cable stands, and a demand for power looks at the limit. -/
theorem processEvent_limits (now : ℤ) (ppAmpacity : ℚ) (event : BoardEvent) (w : World) :
    (w.processEvent now ppAmpacity event).charger.limits =
      w.charger.callLimits ⟨now, .processEvent event ppAmpacity⟩ := by
  rw [processEvent_eq]
  cases event <;>
    simp [BoardEvent.isStateEvent, stringToControlPilotEvent, processCPEventsIndependent_limits,
      processCPEventsState_limits, Charger.callLimits]

/-- What any call does to the limits, as a function of the members before it. -/
theorem call_limits (w : World) (c : Call) :
    (w.call c).charger.limits = w.charger.callLimits c := by
  obtain ⟨now, action⟩ := c
  rw [call]
  cases action with
  | tick => exact tick_limits now w
  | processEvent event ppAmpacity => exact processEvent_limits now ppAmpacity event w
  | resumeChargingPowerAvailable =>
      dsimp only [resumeChargingPowerAvailable, Charger.callLimits]
      split_ifs
      · exact powerAvailable_limits now w
      · exact powerAvailable_limits now w
      · rfl
  | setMaxCurrentUntil ampere validUntil =>
      dsimp only [setMaxCurrentUntil, Charger.callLimits, Charger.acceptsLimit]
      by_cases hRange : 0 ≤ ampere ∧ ampere ≤ chargerAbsoluteMaxCurrent <;>
        by_cases hValid : validUntil > now <;> simp [hRange, hValid, Charger.limits]
  | setMaxCurrent ampere =>
      dsimp only [setMaxCurrent, Charger.callLimits, Charger.acceptsLimit]
      by_cases hRange : 0 ≤ ampere ∧ ampere ≤ chargerAbsoluteMaxCurrent <;>
        by_cases hValid : w.charger.maxCurrentValidUntil > now <;>
          simp [hRange, hValid, Charger.limits]
  | cancelTransaction request =>
      dsimp only [cancelTransaction, Charger.callLimits]
      cases hMode : w.charger.chargeMode <;> split_ifs <;> rfl
  | authorize a userid pnc =>
      dsimp only [authorize, Charger.callLimits]
      split_ifs <;> rfl
  | deAuthorize | pauseCharging | resumeCharging | pauseChargingWaitForPower | enable | restart
  | requestErrorSequence | notifyCurrentDemandStarted =>
      dsimp only [deAuthorize, pauseCharging, resumeCharging, pauseChargingWaitForPower, enable,
        restart, requestErrorSequence, notifyCurrentDemandStarted, Charger.callLimits]
      split_ifs <;> rfl
  | _ => rfl

end World
/-! The record of the last duty cycle. -/

/-- What is noted about PWM when an output is sent. -/
def trackPwm (now : ℤ) (noted : ℚ × ℤ) : Output → ℚ × ℤ
  | .callPwmOn dc => (dc, now)
  | _ => noted

/-- The last duty cycle and the instant at which it was sent, as noted. -/
def Charger.pwm (c : Charger) : ℚ × ℤ := (c.updatePwmLastDc, c.lastPwmUpdate)

namespace World

/-- An expiry is no PWM command. -/
theorem foldl_trackPwm_expiry (now : ℤ) (c : Charger) (noted : ℚ × ℤ) :
    (c.expiryOutputs now).foldl (trackPwm now) noted = noted := by
  rw [Charger.expiryOutputs]
  split_ifs <;> rfl

/-- An authorization commands no PWM by itself. -/
theorem checkAuthorization_pwm (w : World) : w.checkAuthorization.charger.pwm = w.charger.pwm := by
  rw [checkAuthorization]
  dsimp only [proceedEIM, proceedPnC]
  cases hMode : w.startTransaction.charger.chargeMode <;> split_ifs <;> rfl

/-- A pause is commanded by the next state. -/
theorem pauseChargingWaitForPower_pwm (w : World) :
    w.pauseChargingWaitForPower.2.charger.pwm = w.charger.pwm := by
  rw [pauseChargingWaitForPower]
  split_ifs <;> rfl

/-- The checks of a turn command no PWM. -/
theorem checked_pwm (now : ℤ) (w : World) :
    ((w.checkSoftOverCurrent now).powerAvailable now).2.charger.pwm = w.charger.pwm := by
  obtain ⟨state, error, exceeded, last, hCharger, -⟩ := checkSoftOverCurrent_charger now w
  rw [powerAvailable_charger, hCharger]
  rfl

/-- The duty cycle goes out with the permission. -/
theorem permitPower_pwm (now : ℤ) (w : World) :
    (w.permitPower now).charger.pwm = (w.charger.dutyFor w.charger.maxCurrent, now) := by
  dsimp only [permitPower]
  rw [Charger.dutyFor]
  split_ifs <;> simp_all [Charger.pwm]

/-- The record follows what is sent while the limit is followed. -/
theorem followLimit_pwm (now : ℤ) (w : World) :
    (w.followLimit now).charger.pwm =
      (w.charger.followOutputs now).foldl (trackPwm now) w.charger.pwm := by
  rw [followLimit, Charger.followOutputs, updatePwmMaxEvery5seconds]
  split_ifs <;> simp_all [Charger.pwm, trackPwm]

/-- The record after the entry is what its commands make of the record before. -/
theorem enterWaitingForAuthentication_pwm (now : ℤ) {w : World}
    (hState : w.charger.currentState = .waitingForAuthentication)
    (hLast : w.charger.lastState = .waitingForAuthentication) :
    (w.enterWaitingForAuthentication now).charger.pwm =
      w.charger.ownEntryOutputs.foldl (trackPwm now) w.charger.pwm := by
  rw [enterWaitingForAuthentication_charger now hLast, Charger.ownEntryOutputs, hState]
  cases hSession : w.charger.sessionActive <;> cases hFive : w.charger.startsWith5percent <;>
    simp [Charger.pwm, trackPwm]

theorem stateWaitingForAuthentication_pwm (now : ℤ) (newInState : Bool) {w : World}
    (hState : w.charger.currentState = .waitingForAuthentication)
    (hLast : w.charger.lastState = .waitingForAuthentication) :
    (w.stateWaitingForAuthentication now newInState).charger.pwm =
      (w.charger.stateOutputs now newInState).foldl (trackPwm now) w.charger.pwm := by
  rw [stateWaitingForAuthentication, checkAuthorization_pwm, Charger.stateOutputs, hState]
  dsimp only
  rw [List.foldl_append, apply_ite (List.foldl (trackPwm now) _)]
  cases newInState
  · exact (ite_self _).symm
  · rw [if_pos rfl, if_pos rfl, enterWaitingForAuthentication_pwm now hState hLast]
    exact (ite_self _).symm

/-- The two states that follow the limit while there is power. -/
theorem afterCheck_pwm (now : ℤ) (newInState : Bool) {w : World} (enter : World → World)
    (hEnter : ∀ w' : World, w'.charger.hlcUse5percentCurrentSession =
        w.charger.hlcUse5percentCurrentSession → w'.charger.maxCurrent = w.charger.maxCurrent →
      (enter w').charger.pwm = w.charger.ownEntryOutputs.foldl (trackPwm now) w'.charger.pwm) :
    (if !((w.checkSoftOverCurrent now).powerAvailable now).1 then
        ((w.checkSoftOverCurrent now).powerAvailable now).2.pauseChargingWaitForPower.2
      else if newInState then enter ((w.checkSoftOverCurrent now).powerAvailable now).2
      else ((w.checkSoftOverCurrent now).powerAvailable now).2.followLimit now).charger.pwm =
      (w.charger.poweredOutputs now newInState).foldl (trackPwm now) w.charger.pwm := by
  rw [powerAvailable_fst, (checkSoftOverCurrent_reads now w).2.1, Charger.poweredOutputs,
    List.foldl_append, foldl_trackPwm_expiry, ← checked_pwm now w]
  cases hPower : w.charger.hasPower now
  · simp [pauseChargingWaitForPower_pwm]
  · obtain ⟨state, error, exceeded, last, hCharger, -⟩ := checked_charger now hPower
    cases newInState
    · simp [followLimit_pwm, hCharger, Charger.followOutputs]
    · simp [hEnter, hCharger]

/-- A turn of `Charging` with all its checks. None of these commands anything. -/
theorem stateCharging_pwm (now : ℤ) (newInState : Bool) {w : World}
    (hState : w.charger.currentState = .charging) (hLast : w.charger.lastState = .charging) :
    (w.stateCharging now newInState).charger.pwm =
      (w.charger.stateOutputs now newInState).foldl (trackPwm now) w.charger.pwm := by
  dsimp only [stateCharging, Charger.stateOutputs]
  rw [hState]
  cases hMode : w.charger.chargeMode with
  | dc => cases newInState <;> simp [Charger.ownEntryOutputs, hState, hMode]
  | ac =>
      have hLast' : ((w.checkSoftOverCurrent now).powerAvailable now).2.charger.lastState =
          .charging := (checked_lastState now w).trans hLast
      dsimp only
      rw [← afterCheck_pwm now newInState
        fun w => (w.signalEvent .chargingResumed).permitPower now]
      · simp [hLast']
      · intro w' hFive hMax
        simp [permitPower_pwm, Charger.ownEntryOutputs, hState, hMode, Charger.dutyFor, hFive, hMax,
          trackPwm]

theorem stateChargingPausedEV_pwm (now : ℤ) (newInState : Bool) {w : World}
    (hState : w.charger.currentState = .chargingPausedEV) :
    (w.stateChargingPausedEV now newInState).charger.pwm =
      (w.charger.stateOutputs now newInState).foldl (trackPwm now) w.charger.pwm := by
  dsimp only [stateChargingPausedEV, Charger.stateOutputs]
  rw [hState]
  cases hMode : w.charger.chargeMode with
  | dc =>
      cases newInState <;>
        simp [Charger.ownEntryOutputs, hState, hMode, setState, trackPwm, Charger.pwm]
  | ac =>
      dsimp only
      rw [← afterCheck_pwm now newInState
        fun w => (w.signalEvent .chargingPausedEV).permitPower now]
      intro w' hFive hMax
      simp [permitPower_pwm, Charger.ownEntryOutputs, hState, hMode, Charger.dutyFor, hFive, hMax,
        trackPwm]

theorem statePrepareCharging_pwm (now : ℤ) (newInState : Bool) {w : World}
    (hState : w.charger.currentState = .prepareCharging) :
    (w.statePrepareCharging now newInState).charger.pwm =
      (w.charger.stateOutputs now newInState).foldl (trackPwm now) w.charger.pwm := by
  dsimp only [statePrepareCharging, enterPrepareCharging, Charger.stateOutputs]
  rw [hState]
  cases newInState <;> cases hFive : w.charger.hlcUse5percentCurrentSession <;>
    simp [hFive, updatePwmNowIfChanged, Charger.ownEntryOutputs, hState, Charger.dutyFor,
      Charger.pwm, trackPwm]
  all_goals split_ifs <;> simp [trackPwm]

/-- The record is what the commands of the turn have made of it, in every state. -/
theorem runState_pwm (now : ℤ) (newInState : Bool) {w : World}
    (hLast : w.charger.lastState = w.charger.currentState) :
    (w.runState now newInState).charger.pwm =
      (w.charger.stateOutputs now newInState).foldl (trackPwm now) w.charger.pwm := by
  rw [runState]
  cases hState : w.charger.currentState with
  | waitingForAuthentication =>
      exact stateWaitingForAuthentication_pwm now newInState hState (hLast.trans hState)
  | charging => exact stateCharging_pwm now newInState hState (hLast.trans hState)
  | chargingPausedEV => exact stateChargingPausedEV_pwm now newInState hState
  | prepareCharging => exact statePrepareCharging_pwm now newInState hState
  | tStepEF =>
      dsimp only [stateTStepEF, Charger.stateOutputs, Charger.ownEntryOutputs, Charger.returnOutputs]
      rw [hState]
      cases newInState <;> dsimp only <;> split_ifs <;> simp_all [Charger.pwm, trackPwm, setState]
  | tStepX1 =>
      dsimp only [stateTStepX1, Charger.stateOutputs, Charger.ownEntryOutputs, Charger.returnOutputs]
      rw [hState]
      cases newInState <;> dsimp only <;> split_ifs <;> simp_all [Charger.pwm, trackPwm, setState]
  | idle =>
      cases newInState <;> cases hSession : w.charger.sessionActive <;>
        simp [stateIdle, authorize, stopSession, Charger.stateOutputs, Charger.ownEntryOutputs, hState, hSession,
          Charger.pwm, trackPwm]
  | stoppingCharging =>
      cases newInState <;> cases hMode : w.charger.chargeMode <;>
        cases hActive : w.charger.transactionActive <;>
          simp [stateStoppingCharging, Charger.stateOutputs, Charger.ownEntryOutputs, hState, hMode,
            hActive, Charger.stopTransactionOutputs, stopTransaction, setState, Charger.pwm, trackPwm]
  | chargingPausedEVSE =>
      cases newInState <;> cases hMode : w.charger.chargeMode <;>
        simp [stateChargingPausedEVSE, Charger.stateOutputs, Charger.ownEntryOutputs, hState, hMode,
          Charger.pwm, trackPwm]
  | finished =>
      cases newInState <;> cases hActive : w.charger.transactionActive <;>
        simp [stateFinished, restart, Charger.stateOutputs, Charger.ownEntryOutputs, hState, hActive,
          Charger.stopTransactionOutputs, stopTransaction, stopSession, setState, Charger.pwm, trackPwm]
  | replug =>
      cases newInState <;> cases hTimeout : w.charger.acWithSocTimeout <;>
        simp [stateReplug, Charger.stateOutputs, Charger.ownEntryOutputs, hState, hTimeout,
          Charger.pwm, trackPwm]
  | waitingForEnergy =>
      cases newInState <;> cases hFive : w.charger.hlcUse5percentCurrentSession <;>
        simp [stateWaitingForEnergy, Charger.stateOutputs, Charger.ownEntryOutputs, hState, hFive,
          trackPwm]
  | disabled | error | faulted =>
      cases newInState <;>
        simp [stateDisabled, stateError, stateFaulted, Charger.stateOutputs,
          Charger.ownEntryOutputs, hState, trackPwm]

/-- In a whole turn the timer may command the PWM instead of the state, and the record follows. -/
theorem tick_pwm (now : ℤ) (w : World) :
    (w.tick now).charger.pwm =
      (w.charger.tickOutputs now).foldl (trackPwm now) w.charger.pwm := by
  rw [Charger.tickOutputs, List.foldl_append, foldl_trackPwm_expiry]
  cases hFires : socTimerFires w.charger
  · obtain ⟨w', hCharger, -, hTick⟩ := tick_of_not_fires now hFires
    have hState : w'.charger.pwm = w.charger.pwm := by
      rw [hCharger]
      rfl
    rw [hTick, runState_pwm now _ (by rw [hCharger]; rfl), hState, hCharger, if_neg (by simp),
      List.foldl_append]
    congr 1
    split_ifs <;> rfl
  · rw [(tick_of_fires now hFires).1]
    rfl

end World

/-- What is noted for later turns: the last duty cycle, and where a break leads. -/
def Charger.noted (c : Charger) : (ℚ × ℤ) × EvseState × ℚ :=
  (c.pwm, c.tStepEFReturnState, c.tStepEFReturnPWM)

def Output.isPwm : Output → Bool
  | .callPwmOn _ | .callPwmOff | .callPwmF => true
  | _ => false

namespace World

/-- An event changes the state and not the record. -/
theorem processEvent_noted (now : ℤ) (ppAmpacity : ℚ) (event : BoardEvent) (w : World) :
    (w.processEvent now ppAmpacity event).charger.noted = w.charger.noted := by
  have hIndependent (cpEvent : ControlPilotEvent) :
      (w.processCPEventsIndependent cpEvent).charger.noted = w.charger.noted := by
    cases cpEvent with
    | carUnplugged =>
        dsimp only [processCPEventsIndependent]
        split_ifs <;> cases hMode : w.charger.chargeMode <;>
          simp [hMode, setState, Charger.noted, Charger.pwm]
    | _ => rfl
  have hPause (w' : World) : w'.pauseChargingWaitForPower.2.charger.noted = w'.charger.noted := by
    rw [pauseChargingWaitForPower]
    split_ifs <;> rfl
  have hPower (w' : World) : (w'.powerAvailable now).2.charger.noted = w'.charger.noted := by
    rw [powerAvailable_charger]
    rfl
  rw [processEvent_eq]
  split_ifs
  · rw [processCPEventsState]
    cases hState : w.charger.currentState with
    | prepareCharging =>
        cases hMode : w.charger.chargeMode
        · dsimp only
          split_ifs
          · exact hPower _
          · exact (hPause _).trans (hPower _)
          · rfl
        · dsimp only
          split_ifs <;> rfl
    | _ =>
        dsimp only
        try split_ifs
        all_goals rfl
  · exact hIndependent _

/-- Only a turn and an error sequence note anything for later turns. -/
theorem call_noted {w : World} {c : Call} (hTick : c.action ≠ .tick)
    (hError : c.action ≠ .requestErrorSequence) : (w.call c).charger.noted = w.charger.noted := by
  rw [call]
  cases hAction : c.action with
  | tick => exact absurd hAction hTick
  | requestErrorSequence => exact absurd hAction hError
  | processEvent event ppAmpacity => exact processEvent_noted c.now ppAmpacity event w
  | resumeChargingPowerAvailable =>
      dsimp only [resumeChargingPowerAvailable, powerAvailable]
      split_ifs <;> rfl
  | cancelTransaction request =>
      dsimp only [cancelTransaction]
      cases hMode : w.charger.chargeMode <;> split_ifs <;> rfl
  | authorize a userid pnc =>
      dsimp only [authorize]
      split_ifs <;> rfl
  | deAuthorize | pauseCharging | resumeCharging | pauseChargingWaitForPower | enable | restart
  | notifyCurrentDemandStarted | setMaxCurrentUntil | setMaxCurrent =>
      dsimp only [deAuthorize, pauseCharging, resumeCharging, pauseChargingWaitForPower, enable,
        restart, notifyCurrentDemandStarted, setMaxCurrentUntil, setMaxCurrent]
      split_ifs <;> rfl
  | _ => rfl

/-- The error sequence is commanded in its states, and not by the request. -/
theorem requestErrorSequence_pwm (w : World) :
    w.requestErrorSequence.charger.pwm = w.charger.pwm := by
  rw [requestErrorSequence]
  split_ifs <;> rfl

/-- The output of an expiry is a signal to the other modules. -/
theorem isPwm_expiry {now : ℤ} {c : Charger} {output : Output}
    (h : output ∈ c.expiryOutputs now) : output.isPwm = false := by
  rw [Charger.mem_expiryOutputs h]
  rfl

/-- Only turns send PWM commands. -/
theorem isPwm_sent {w : World} {c : Call} (hTick : c.action ≠ .tick) {output : Output}
    (hMem : output ∈ w.sent c) : output.isPwm = false := by
  rw [sent_eq, Charger.callOutputs] at hMem
  cases hAction : c.action <;> rw [hAction] at hMem <;> dsimp only at hMem
  case tick => exact absurd hAction hTick
  case processEvent event ppAmpacity =>
    rw [Charger.eventOutputs] at hMem
    split_ifs at hMem <;> simp at hMem
    · rw [hMem]
      rfl
    · rcases hMem with rfl | hExpiry
      · rfl
      · exact isPwm_expiry hExpiry
    · rw [hMem]
      rfl
  case resumeChargingPowerAvailable =>
    split_ifs at hMem
    · exact isPwm_expiry hMem
    · simp at hMem
  case cancelTransaction request =>
    rw [Charger.stopTransactionOutputs] at hMem
    split_ifs at hMem <;> simp at hMem
    rcases hMem with rfl | rfl <;> rfl
  case startMainThread =>
    simp only [List.mem_cons, List.not_mem_nil, or_false] at hMem
    rcases hMem with rfl | rfl | rfl | rfl <;> rfl
  all_goals
    try split_ifs at hMem
    all_goals simp_all [Output.isPwm]

/-- Without a PWM command, the record stays as it was. -/
theorem foldl_trackPwm_of_none (now : ℤ) (noted : ℚ × ℤ) {outputs : List Output}
    (h : ∀ output ∈ outputs, output.isPwm = false) :
    outputs.foldl (trackPwm now) noted = noted := by
  induction outputs with
  | nil => rfl
  | cons output rest ih =>
      have hHead : trackPwm now noted output = noted := by
        cases output <;> first | rfl | exact absurd (h _ List.mem_cons_self) (by simp [Output.isPwm])
      rw [List.foldl_cons, hHead, ih fun o hMem => h o (List.mem_cons_of_mem _ hMem)]

/-- The record always agrees with what was really sent, for every call. -/
theorem call_pwm (w : World) (c : Call) :
    (w.call c).charger.pwm = (w.sent c).foldl (trackPwm c.now) w.charger.pwm := by
  by_cases hTick : c.action = .tick
  · rw [sent_eq, Charger.callOutputs, call, hTick]
    exact tick_pwm c.now w
  · rw [foldl_trackPwm_of_none _ _ fun _ => isPwm_sent hTick]
    by_cases hError : c.action = .requestErrorSequence
    · rw [call, hError]
      exact requestErrorSequence_pwm w
    · exact congrArg Prod.fst (call_noted hTick hError)

end World
end EverestCore
