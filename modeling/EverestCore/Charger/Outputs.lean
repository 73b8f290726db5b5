import EverestCore.Charger.SessionView

/-! What each call sends, as a list that depends on the member variables alone,
and the state in which it leaves the charger. The actions that a state performs
on entry have a table of their own. -/
namespace EverestCore

/-- The events that only the handler of the current state looks at. -/
def BoardEvent.isStateEvent (event : BoardEvent) : Bool :=
  event ∈ [.carPluggedIn, .carRequestedPower, .powerOn, .powerOff, .carRequestedStopPower,
    .efToBCD, .bcdToEF, .permanentFault]

namespace Charger

/-- The limit that is valid now: one that has run out counts as zero. -/
def validLimit (now : ℤ) (c : Charger) : ℚ :=
  if c.maxCurrentValidUntil < now then 0 else c.maxCurrent

/-- The answer of `powerAvailable`. -/
def hasPower (now : ℤ) (c : Charger) : Bool := c.validLimit now > 59 / 10

/-- What `powerAvailable` sends. -/
def expiryOutputs (now : ℤ) (c : Charger) : List Output :=
  if c.maxCurrentValidUntil < now then [.signalMaxCurrent 0] else []

/-- The duty cycle with which a session advertises a limit. -/
def dutyFor (c : Charger) (ampere : ℚ) : ℚ :=
  if c.hlcUse5percentCurrentSession then pwm5Percent else ampereToDutyCycle ampere

/-- Whether a new session starts with five percent PWM. -/
def startsWith5percent (c : Charger) : Bool :=
  match c.chargeMode with
  | .ac => c.acHlcEnabled && c.acHlcUse5percent
  | .dc => true

/-- The charger in a session. An authorization from before the session is lost. -/
def inSession (c : Charger) : Charger :=
  { c with
    sessionActive := true
    authorized := c.authorized && c.sessionActive
    lastStartSessionReason := if c.sessionActive then c.lastStartSessionReason else .evConnected }

/-- Whether the pilot starts with five percent does not depend on the session. -/
theorem startsWith5percent_inSession (c : Charger) :
    c.inSession.startsWith5percent = c.startsWith5percent := rfl

/-- Nothing is to be done for a session that is there already. -/
theorem inSession_of_active {c : Charger} (hActive : c.sessionActive = true) : c.inSession = c := by
  rw [inSession, hActive, Bool.and_true, if_pos rfl, ← hActive]

/-- The end of a transaction, if there is one. -/
def stopTransactionOutputs (c : Charger) : List Output :=
  if c.transactionActive then [.signalEvent .chargingFinished, .signalEvent .transactionFinished]
  else []

/-- What the current state sends when it is entered: its events and its commands
to the board support package. -/
def ownEntryOutputs (c : Charger) : List Output :=
  match c.currentState with
  | .disabled => [.signalEvent .disabled, .callPwmF]
  | .replug => [.signalEvent .replugStarted]
  | .idle => .callPwmOff :: if c.sessionActive then [.signalEvent .sessionFinished] else []
  | .waitingForAuthentication =>
      [.callAllowPowerOn false] ++
        (if c.sessionActive then [] else [.signalEvent .sessionStarted]) ++
        [.signalEvent .authRequired] ++
        (if c.startsWith5percent then [.callPwmOn pwm5Percent] else [])
  | .tStepEF => [.callPwmF]
  | .tStepX1 => [.callPwmOff]
  | .prepareCharging =>
      [.signalEvent .prepareCharging, .callAllowPowerOn true, .callPwmOn (c.dutyFor 0)]
  | .charging =>
      match c.chargeMode with
      | .dc => []
      | .ac => [.signalEvent .chargingResumed, .callAllowPowerOn true,
          .callPwmOn (c.dutyFor c.maxCurrent)]
  | .chargingPausedEV =>
      match c.chargeMode with
      | .dc => [.callAllowPowerOn false]
      | .ac => [.signalEvent .chargingPausedEV, .callAllowPowerOn true,
          .callPwmOn (c.dutyFor c.maxCurrent)]
  | .chargingPausedEVSE =>
      [.signalEvent .chargingPausedEVSE, .callPwmOff] ++
        match c.chargeMode with
        | .dc => [.signalDCSupplyOff]
        | .ac => []
  | .waitingForEnergy =>
      .signalEvent .waitingForEnergy ::
        if c.hlcUse5percentCurrentSession then [] else [.callPwmOff]
  | .stoppingCharging =>
      [.signalEvent .stoppingCharging] ++ c.stopTransactionOutputs ++
        match c.chargeMode with
        | .dc => [.signalDCSupplyOff]
        | .ac => [.callPwmOff]
  | .finished => c.stopTransactionOutputs ++ [.signalEvent .sessionFinished, .callPwmF]
  | .error => [.signalEvent .error, .callPwmOff]
  | .faulted => [.signalEvent .permanentFault, .callPwmF]

/-- What every turn sends that enters the current state. -/
def entryOutputs (c : Charger) : List Output :=
  [.signalState c.currentState] ++
    (if c.currentState = .error then [.signalError c.errorState] else []) ++ c.ownEntryOutputs

/-- A turn of `WaitingForAuthentication` starts a transaction. Entering without a
session takes an authorization back first. -/
def startsTransaction (newInState : Bool) (c : Charger) : Bool :=
  !World.waitsForLimits c && c.authorized && (!newInState || c.sessionActive)

/-- A changed limit is followed, at most every five seconds. -/
def followOutputs (now : ℤ) (c : Charger) : List Output :=
  if !c.hlcUse5percentCurrentSession ∧ ampereToDutyCycle c.maxCurrent ≠ c.updatePwmLastDc ∧
      now - c.lastPwmUpdate ≥ 5000 then [.callPwmOn (ampereToDutyCycle c.maxCurrent)] else []

/-- The way out of a break in state F or X1. -/
def returnOutputs (dc : ℚ) : List Output := if dc = 0 then [.callPwmOff] else [.callPwmOn dc]

/-- Entering is skipped while there is no power. -/
def poweredOutputs (now : ℤ) (newInState : Bool) (c : Charger) : List Output :=
  c.expiryOutputs now ++
    if c.hasPower now then (if newInState then c.ownEntryOutputs else c.followOutputs now) else []

/-- What the code of the current state sends in one turn. -/
def stateOutputs (now : ℤ) (newInState : Bool) (c : Charger) : List Output :=
  let entry := if newInState then c.ownEntryOutputs else []
  match c.currentState with
  | .waitingForAuthentication =>
      entry ++ if c.startsTransaction newInState then [.signalEvent .transactionStarted] else []
  | .tStepEF =>
      entry ++ if now - c.currentStateStarted ≥ tStepEF then returnOutputs c.tStepEFReturnPWM
        else []
  | .tStepX1 =>
      entry ++ if now - c.currentStateStarted ≥ tStepX1 then returnOutputs c.tStepX1ReturnPWM
        else []
  | .prepareCharging =>
      entry ++ if !c.hlcUse5percentCurrentSession ∧
          (if newInState then ampereToDutyCycle 0 else c.updatePwmLastDc) ≠
            ampereToDutyCycle c.maxCurrent then [.callPwmOn (ampereToDutyCycle c.maxCurrent)]
        else []
  | .charging =>
      match c.chargeMode with
      | .dc => entry
      | .ac => c.poweredOutputs now newInState
  | .chargingPausedEV =>
      match c.chargeMode with
      | .dc => entry
      | .ac => c.poweredOutputs now newInState
  | _ => entry

/-- The member variables that the code of a state finds in a turn. -/
def turnStart (now : ℤ) (c : Charger) : Charger :=
  { c with
    maxCurrent := c.validLimit now
    lastState := c.currentState
    acWithSocTimer := if c.acWithSocTimeout then c.acWithSocTimer - 50 else c.acWithSocTimer
    currentStateStarted := if c.lastState ≠ c.currentState then now else c.currentStateStarted }

/-- What one turn of the main loop sends. -/
def tickOutputs (now : ℤ) (c : Charger) : List Output :=
  c.expiryOutputs now ++
    if World.socTimerFires c then [.signalACWithSoCTimeout]
    else (if c.lastState ≠ c.currentState then
        [.signalState c.currentState] ++
          (if c.currentState = .error then [.signalError c.errorState] else []) else []) ++
      (c.turnStart now).stateOutputs now (c.lastState ≠ c.currentState)

/-- What an event of the board support package makes the charger send. -/
def eventOutputs (now : ℤ) (event : BoardEvent) (c : Charger) : List Output :=
  if event = .carUnplugged ∧ c.currentState = .error then [.signalEvent .allErrorsCleared]
  else if c.currentState = .prepareCharging ∧ c.chargeMode = .ac ∧ event.isStateEvent then
    .signalEvent .chargingStarted ::
      if event = .carRequestedPower then c.expiryOutputs now else []
  else []

/-- A limit is accepted if it is in range and if it is still valid. -/
def acceptsLimit (now : ℤ) (ampere : ℚ) (validUntil : ℤ) : Bool :=
  (0 ≤ ampere ∧ ampere ≤ chargerAbsoluteMaxCurrent) ∧ validUntil > now

/-- What a call sends. -/
def callOutputs (c : Charger) (call : Call) : List Output :=
  match call.action with
  | .startMainThread => [.callEnable true, .signalMaxCurrent c.maxCurrent,
      .signalState c.currentState, .signalError c.errorState]
  | .tick => c.tickOutputs call.now
  | .processEvent event _ => c.eventOutputs call.now event
  | .authorize a _ _ =>
      if a then if c.sessionActive then [] else [.signalEvent .sessionStarted]
      else if c.sessionActive then [.signalEvent .sessionFinished] else []
  | .deAuthorize => if World.deAuthorizes c then [.signalEvent .sessionFinished] else []
  | .resumeChargingPowerAvailable =>
      if c.transactionActive ∧ c.currentState = .waitingForEnergy then c.expiryOutputs call.now
      else []
  | .evseReplug => [.callEvseReplug tReplugMs]
  | .cancelTransaction _ => c.stopTransactionOutputs
  | .disable => [.signalEvent .disabled]
  | .enable => if c.currentState = .disabled then [.signalEvent .enabled] else []
  | .setFaulted => [.signalEvent .permanentFault]
  | .setup config => [.callSetup config.threePhases config.hasVentilation config.countryCode
      config.rcdEnabled]
  | .setMaxCurrentUntil ampere validUntil =>
      if acceptsLimit call.now ampere validUntil then
        [.signalMaxCurrent (World.limitToCable c ampere)] else []
  | .setMaxCurrent ampere =>
      if acceptsLimit call.now ampere c.maxCurrentValidUntil then
        [.signalMaxCurrent (World.limitToCable c ampere)] else []
  | .notifyCurrentDemandStarted =>
      if c.currentState = .prepareCharging then [.signalEvent .chargingStarted] else []
  | .switchThreePhasesWhileCharging n => [.callSwitchThreePhasesWhileCharging n]
  | .forceUnlock => [.callForceUnlock]
  | _ => []

end Charger

namespace World

/-- All outputs so far, the oldest first. -/
def outputs (w : World) : List Output := w.log.map Emission.output

/-- The outputs that a call adds. -/
def sent (w : World) (c : Call) : List Output := (w.call c).outputs.drop w.outputs.length

@[simp] theorem outputs_emit (output : Output) (w : World) :
    (w.emit output).outputs = w.outputs ++ [output] := by simp [outputs]

@[simp] theorem outputs_update (assign : Charger → Charger) (w : World) :
    (w.update assign).outputs = w.outputs := rfl

@[simp] theorem outputs_signalEvent (event : SessionEvent) (w : World) :
    (w.signalEvent event).outputs = w.outputs ++ [.signalEvent event] := outputs_emit _ w

@[simp] theorem charger_signalEvent (event : SessionEvent) (w : World) :
    (w.signalEvent event).charger = w.charger := rfl

@[simp] theorem outputs_setState (state : EvseState) (w : World) :
    (w.setState state).outputs = w.outputs := rfl

@[simp] theorem outputs_setError (error : ChargerError) (w : World) :
    (w.setError error).outputs = w.outputs := rfl

@[simp] theorem outputs_pwmOff (w : World) : w.pwmOff.outputs = w.outputs ++ [.callPwmOff] :=
  outputs_emit _ w

@[simp] theorem charger_pwmOff (w : World) : w.pwmOff.charger = w.charger := rfl

@[simp] theorem outputs_pwmF (w : World) : w.pwmF.outputs = w.outputs ++ [.callPwmF] :=
  outputs_emit _ w

@[simp] theorem charger_pwmF (w : World) : w.pwmF.charger = w.charger := rfl

@[simp] theorem outputs_updatePwmNow (now : ℤ) (dc : ℚ) (w : World) :
    (w.updatePwmNow now dc).outputs = w.outputs ++ [.callPwmOn dc] := by
  simp [updatePwmNow]

@[simp] theorem charger_updatePwmNow (now : ℤ) (dc : ℚ) (w : World) :
    (w.updatePwmNow now dc).charger =
      { w.charger with updatePwmLastDc := dc, lastPwmUpdate := now } := rfl

@[simp] theorem outputs_startSession (authfirst : Bool) (w : World) :
    (w.startSession authfirst).outputs = w.outputs ++ [.signalEvent .sessionStarted] := by
  simp [startSession]

@[simp] theorem outputs_stopSession (w : World) :
    w.stopSession.outputs = w.outputs ++ [.signalEvent .sessionFinished] := by
  simp [stopSession]

@[simp] theorem outputs_startTransaction (w : World) :
    w.startTransaction.outputs = w.outputs ++ [.signalEvent .transactionStarted] := by
  simp [startTransaction]

@[simp] theorem outputs_stopTransaction (w : World) :
    w.stopTransaction.outputs =
      w.outputs ++ [.signalEvent .chargingFinished, .signalEvent .transactionFinished] := by
  simp [stopTransaction]

/-- There is power if the limit is valid and reaches the minimum. -/
theorem powerAvailable_fst (now : ℤ) (w : World) :
    (w.powerAvailable now).1 = w.charger.hasPower now := by
  dsimp only [powerAvailable]
  rw [Charger.hasPower, Charger.validLimit]
  split_ifs <;> rfl

/-- The only trace of the question is that an expired limit is set to zero. -/
theorem powerAvailable_charger (now : ℤ) (w : World) :
    (w.powerAvailable now).2.charger =
      { w.charger with maxCurrent := w.charger.validLimit now } := by
  dsimp only [powerAvailable]
  rw [Charger.validLimit]
  split_ifs <;> rfl

/-- The expiry is signalled once, with the limit zero. -/
theorem powerAvailable_outputs (now : ℤ) (w : World) :
    (w.powerAvailable now).2.outputs = w.outputs ++ w.charger.expiryOutputs now := by
  dsimp only [powerAvailable]
  rw [Charger.expiryOutputs]
  split_ifs <;> simp

/-- A card starts a session if the car is not there yet, and one that is taken back ends it. -/
theorem outputs_authorize (a : Bool) (userid : String) (pnc : Bool) (w : World) :
    (w.authorize a userid pnc).outputs = w.outputs ++
      if a then if w.charger.sessionActive then [] else [.signalEvent .sessionStarted]
      else if w.charger.sessionActive then [.signalEvent .sessionFinished] else [] := by
  rw [authorize]
  cases a <;> cases hSession : w.charger.sessionActive <;> simp

/-- The check itself says nothing. The error is signalled by the state that it leads to. -/
theorem outputs_checkSoftOverCurrent (now : ℤ) (w : World) :
    (w.checkSoftOverCurrent now).outputs = w.outputs := by
  dsimp only [checkSoftOverCurrent]
  split_ifs <;> rfl

theorem outputs_pauseChargingWaitForPower (w : World) :
    w.pauseChargingWaitForPower.2.outputs = w.outputs := by
  rw [pauseChargingWaitForPower]
  split_ifs <;> rfl

theorem outputs_restart (w : World) : w.restart.2.outputs = w.outputs := by
  rw [restart]
  split_ifs <;> rfl

/-- The check of the drawn current touches the error and the over-current
variables only. -/
theorem checkSoftOverCurrent_charger (now : ℤ) (w : World) :
    ∃ state error exceeded last, (w.checkSoftOverCurrent now).charger =
      { w.charger with
        currentState := state, errorState := error, overCurrent := exceeded,
        lastOverCurrentEvent := last } ∧
      (state = w.charger.currentState ∨ state = .error) := by
  dsimp only [checkSoftOverCurrent]
  split_ifs <;> exact ⟨_, _, _, _, rfl, by simp⟩

/-- The session is announced before the request for an authorization. -/
theorem outputs_requireAuthentication {w : World}
    (hLast : w.charger.lastState = .waitingForAuthentication) :
    w.requireAuthentication.outputs = w.outputs ++
      (if w.charger.sessionActive then [] else [.signalEvent .sessionStarted]) ++
        [.signalEvent .authRequired] := by
  rw [requireAuthentication, if_neg (by simp [hLast])]
  cases hSession : w.charger.sessionActive <;> simp

/-- The decision about high-level communication is taken once for a session. -/
theorem configureHlc_charger (w : World) :
    w.configureHlc.charger = { w.charger with
      acHlcEnabledCurrentSession := match w.charger.chargeMode with
        | .ac => w.charger.acHlcEnabled
        | .dc => w.charger.acHlcEnabledCurrentSession
      hlcUse5percentCurrentSession := w.charger.startsWith5percent } := by
  rw [configureHlc, Charger.startsWith5percent]
  cases hMode : w.charger.chargeMode <;> simp [hMode]

/-- Of this entry, the flag of the session is what remains. -/
theorem requireAuthentication_charger {w : World}
    (hLast : w.charger.lastState = .waitingForAuthentication) :
    w.requireAuthentication.charger = w.charger.inSession := by
  rw [requireAuthentication, if_neg (by simp [hLast])]
  cases hSession : w.charger.sessionActive with
  | true =>
      rw [Charger.inSession_of_active hSession]
      simp
  | false => simp [startSession, Charger.inSession, hSession]

/-- All that entering changes of the charger. -/
theorem enterWaitingForAuthentication_charger (now : ℤ) {w : World}
    (hLast : w.charger.lastState = .waitingForAuthentication) :
    (w.enterWaitingForAuthentication now).charger =
      { w.charger.inSession with
        acHlcEnabledCurrentSession := match w.charger.chargeMode with
          | .ac => w.charger.acHlcEnabled
          | .dc => w.charger.acHlcEnabledCurrentSession
        hlcUse5percentCurrentSession := w.charger.startsWith5percent
        updatePwmLastDc :=
          if w.charger.startsWith5percent then pwm5Percent else w.charger.updatePwmLastDc
        lastPwmUpdate := if w.charger.startsWith5percent then now else w.charger.lastPwmUpdate } := by
  have hEmit : (w.emit (.callAllowPowerOn false)).charger.lastState =
      .waitingForAuthentication := hLast
  dsimp only [enterWaitingForAuthentication]
  rw [apply_ite World.charger, charger_updatePwmNow, configureHlc_charger,
    requireAuthentication_charger hEmit]
  dsimp only
  rw [Charger.startsWith5percent_inSession]
  show (if w.charger.startsWith5percent = true then _ else _) = _
  split_ifs with hFive
  · rfl
  · rfl

/-- All of the entry actions together, as the specification lists them. -/
theorem outputs_enterWaitingForAuthentication (now : ℤ) {w : World}
    (hState : w.charger.currentState = .waitingForAuthentication)
    (hLast : w.charger.lastState = .waitingForAuthentication) :
    (w.enterWaitingForAuthentication now).outputs = w.outputs ++ w.charger.ownEntryOutputs := by
  have hEmit : (w.emit (.callAllowPowerOn false)).charger.lastState =
      .waitingForAuthentication := hLast
  have hFive : (w.emit (.callAllowPowerOn false)).requireAuthentication.charger.startsWith5percent =
      w.charger.startsWith5percent := by
    rw [requireAuthentication_charger hEmit]
    rfl
  dsimp only [enterWaitingForAuthentication]
  rw [configureHlc_charger, hFive, Charger.ownEntryOutputs, hState]
  dsimp only
  split_ifs <;> simp_all [configureHlc, outputs_requireAuthentication hEmit]

theorem outputs_proceedEIM (w : World) :
    w.proceedEIM.outputs = w.outputs ++ [.signalEvent .transactionStarted] := by
  dsimp only [proceedEIM]
  cases hMode : w.startTransaction.charger.chargeMode
  · dsimp only
    split_ifs <;> simp
  · simp

theorem outputs_proceedPnC (w : World) :
    w.proceedPnC.outputs = w.outputs ++ [.signalEvent .transactionStarted] := by
  dsimp only [proceedPnC]
  cases hMode : w.startTransaction.charger.chargeMode <;> simp

/-- The transaction is announced if there is an authorization and the limits have come. -/
theorem outputs_checkAuthorization (w : World) :
    w.checkAuthorization.outputs = w.outputs ++
      if !waitsForLimits w.charger && w.charger.authorized then
        [.signalEvent .transactionStarted] else [] := by
  rw [checkAuthorization, authorizedEIM, authorizedPnC]
  cases waitsForLimits w.charger <;> cases w.charger.authorized <;>
    cases w.charger.authorizedPnc <;> simp [outputs_proceedEIM, outputs_proceedPnC]

/-- Of what the checks of a turn read, entering changes the authorization only. -/
theorem enterWaitingForAuthentication_checks (now : ℤ) {w : World}
    (hLast : w.charger.lastState = .waitingForAuthentication) :
    waitsForLimits (w.enterWaitingForAuthentication now).charger = waitsForLimits w.charger ∧
      (w.enterWaitingForAuthentication now).charger.authorized =
        (w.charger.authorized && w.charger.sessionActive) := by
  rw [enterWaitingForAuthentication_charger now hLast]
  exact ⟨rfl, rfl⟩

/-- The first state whose code is checked against the list. The others follow. -/
theorem outputs_stateWaitingForAuthentication (now : ℤ) (newInState : Bool) {w : World}
    (hState : w.charger.currentState = .waitingForAuthentication)
    (hLast : w.charger.lastState = .waitingForAuthentication) :
    (w.stateWaitingForAuthentication now newInState).outputs =
      w.outputs ++ w.charger.stateOutputs now newInState := by
  rw [stateWaitingForAuthentication, outputs_checkAuthorization, Charger.stateOutputs, hState]
  dsimp only [Charger.startsTransaction]
  cases newInState
  · simp
  · obtain ⟨hWaits, hAuthorized⟩ := enterWaitingForAuthentication_checks now hLast
    rw [if_pos rfl, hWaits, hAuthorized, outputs_enterWaitingForAuthentication now hState hLast]
    simp [Bool.and_assoc]

theorem outputs_updatePwmNowIfChanged (now : ℤ) (dc : ℚ) (w : World) :
    (w.updatePwmNowIfChanged now dc).outputs =
      w.outputs ++ if w.charger.updatePwmLastDc ≠ dc then [.callPwmOn dc] else [] := by
  rw [updatePwmNowIfChanged]
  split_ifs <;> simp

/-- A turn of `PrepareCharging`, entered or not. -/
theorem outputs_statePrepareCharging (now : ℤ) (newInState : Bool) {w : World}
    (hState : w.charger.currentState = .prepareCharging) :
    (w.statePrepareCharging now newInState).outputs =
      w.outputs ++ w.charger.stateOutputs now newInState := by
  dsimp only [statePrepareCharging, enterPrepareCharging, Charger.stateOutputs]
  rw [hState]
  cases newInState <;> cases hFive : w.charger.hlcUse5percentCurrentSession <;>
    simp [hFive, outputs_updatePwmNowIfChanged, Charger.ownEntryOutputs, hState, Charger.dutyFor]

/-- The PWM is renewed if the limit has changed, or after five seconds. -/
theorem outputs_followLimit (now : ℤ) (w : World) :
    (w.followLimit now).outputs = w.outputs ++ w.charger.followOutputs now := by
  rw [followLimit, Charger.followOutputs, updatePwmMaxEvery5seconds]
  split_ifs <;> simp_all

/-- The permission goes out before the duty cycle. -/
theorem outputs_permitPower (now : ℤ) (w : World) :
    (w.permitPower now).outputs = w.outputs ++
      [.callAllowPowerOn true, .callPwmOn (w.charger.dutyFor w.charger.maxCurrent)] := by
  dsimp only [permitPower]
  rw [Charger.dutyFor]
  split_ifs <;> simp_all

/-- The check of the drawn current is not seen in what is sent afterwards. -/
theorem checkSoftOverCurrent_reads (now : ℤ) (w : World) :
    (w.checkSoftOverCurrent now).charger.expiryOutputs now = w.charger.expiryOutputs now ∧
      (w.checkSoftOverCurrent now).charger.hasPower now = w.charger.hasPower now ∧
      (w.checkSoftOverCurrent now).charger.validLimit now = w.charger.validLimit now := by
  obtain ⟨state, error, exceeded, last, hCharger, -⟩ := checkSoftOverCurrent_charger now w
  rw [hCharger]
  exact ⟨rfl, rfl, rfl⟩

/-- The checks do not count as an entry. -/
theorem checked_lastState (now : ℤ) (w : World) :
    ((w.checkSoftOverCurrent now).powerAvailable now).2.charger.lastState =
      w.charger.lastState := by
  obtain ⟨state, error, exceeded, last, hCharger, -⟩ := checkSoftOverCurrent_charger now w
  rw [powerAvailable_charger, hCharger]

/-- With power, the checks change no more than the state, the error and the record of over-currents.
-/
theorem checked_charger (now : ℤ) {w : World} (hPower : w.charger.hasPower now = true) :
    ∃ state error exceeded last, ((w.checkSoftOverCurrent now).powerAvailable now).2.charger =
      { w.charger with
        currentState := state, errorState := error, overCurrent := exceeded,
        lastOverCurrentEvent := last } ∧ (state = w.charger.currentState ∨ state = .error) := by
  obtain ⟨state, error, exceeded, last, hCharger, hState⟩ := checkSoftOverCurrent_charger now w
  refine ⟨state, error, exceeded, last, ?_, hState⟩
  rw [powerAvailable_charger, (checkSoftOverCurrent_reads now w).2.2, hCharger]
  have hLimit : w.charger.validLimit now = w.charger.maxCurrent := by
    rw [Charger.hasPower, Charger.validLimit] at hPower
    rw [Charger.validLimit]
    split_ifs at hPower ⊢
    · exact absurd hPower (by decide +kernel)
    · rfl
  rw [hLimit]

/-- The two states that follow the limit while there is power. -/
theorem outputs_afterCheck (now : ℤ) (newInState : Bool) {w : World} (enter : World → World)
    (hEnter : ∀ w' : World, w'.charger.hlcUse5percentCurrentSession =
        w.charger.hlcUse5percentCurrentSession → w'.charger.maxCurrent = w.charger.maxCurrent →
      (enter w').outputs = w'.outputs ++ w.charger.ownEntryOutputs) :
    (if !((w.checkSoftOverCurrent now).powerAvailable now).1 then
        ((w.checkSoftOverCurrent now).powerAvailable now).2.pauseChargingWaitForPower.2
      else if newInState then enter ((w.checkSoftOverCurrent now).powerAvailable now).2
      else ((w.checkSoftOverCurrent now).powerAvailable now).2.followLimit now).outputs =
      w.outputs ++ w.charger.poweredOutputs now newInState := by
  obtain ⟨hExpiry, hHas, -⟩ := checkSoftOverCurrent_reads now w
  have hOutputs : ((w.checkSoftOverCurrent now).powerAvailable now).2.outputs =
      w.outputs ++ w.charger.expiryOutputs now := by
    rw [powerAvailable_outputs, outputs_checkSoftOverCurrent, hExpiry]
  rw [powerAvailable_fst, hHas, Charger.poweredOutputs]
  cases hPower : w.charger.hasPower now
  · simp [outputs_pauseChargingWaitForPower, hOutputs]
  · obtain ⟨state, error, exceeded, last, hCharger, -⟩ := checked_charger now hPower
    cases newInState
    · simp [outputs_followLimit, hOutputs, hCharger, Charger.followOutputs]
    · simp [hEnter, hOutputs, hCharger]

/-- A turn of `Charging` with all of its checks, which may end it. -/
theorem outputs_stateCharging (now : ℤ) (newInState : Bool) {w : World}
    (hState : w.charger.currentState = .charging) (hLast : w.charger.lastState = .charging) :
    (w.stateCharging now newInState).outputs =
      w.outputs ++ w.charger.stateOutputs now newInState := by
  dsimp only [stateCharging, Charger.stateOutputs]
  rw [hState]
  cases hMode : w.charger.chargeMode with
  | dc => cases newInState <;> simp [Charger.ownEntryOutputs, hState, hMode]
  | ac =>
      have hLast' : ((w.checkSoftOverCurrent now).powerAvailable now).2.charger.lastState =
          .charging := (checked_lastState now w).trans hLast
      dsimp only
      rw [← outputs_afterCheck now newInState
        fun w => (w.signalEvent .chargingResumed).permitPower now]
      · simp [hLast']
      · intro w' hFive hMax
        simp [outputs_permitPower, Charger.ownEntryOutputs, hState, hMode, Charger.dutyFor, hFive,
          hMax]

theorem outputs_stateChargingPausedEV (now : ℤ) (newInState : Bool) {w : World}
    (hState : w.charger.currentState = .chargingPausedEV) :
    (w.stateChargingPausedEV now newInState).outputs =
      w.outputs ++ w.charger.stateOutputs now newInState := by
  dsimp only [stateChargingPausedEV, Charger.stateOutputs]
  rw [hState]
  cases hMode : w.charger.chargeMode with
  | dc => cases newInState <;> simp [Charger.ownEntryOutputs, hState, hMode]
  | ac =>
      dsimp only
      rw [← outputs_afterCheck now newInState
        fun w => (w.signalEvent .chargingPausedEV).permitPower now]
      intro w' hFive hMax
      simp [outputs_permitPower, Charger.ownEntryOutputs, hState, hMode, Charger.dutyFor, hFive,
        hMax]

theorem outputs_stateTStepEF (now : ℤ) (newInState : Bool) {w : World}
    (hState : w.charger.currentState = .tStepEF) :
    (w.stateTStepEF now newInState).outputs =
      w.outputs ++ w.charger.stateOutputs now newInState := by
  dsimp only [stateTStepEF, Charger.stateOutputs, Charger.ownEntryOutputs]
  rw [hState]
  cases newInState <;> dsimp only <;> split_ifs <;> simp_all [Charger.returnOutputs]

theorem outputs_stateTStepX1 (now : ℤ) (newInState : Bool) {w : World}
    (hState : w.charger.currentState = .tStepX1) :
    (w.stateTStepX1 now newInState).outputs =
      w.outputs ++ w.charger.stateOutputs now newInState := by
  dsimp only [stateTStepX1, Charger.stateOutputs, Charger.ownEntryOutputs]
  rw [hState]
  cases newInState <;> dsimp only <;> split_ifs <;> simp_all [Charger.returnOutputs]

/-- In this state and the next ones everything is done at the entry. -/
theorem outputs_stateStoppingCharging (newInState : Bool) {w : World}
    (hState : w.charger.currentState = .stoppingCharging) :
    (w.stateStoppingCharging newInState).outputs =
      w.outputs ++ if newInState then w.charger.ownEntryOutputs else [] := by
  cases newInState
  · simp [stateStoppingCharging]
  · rw [Charger.ownEntryOutputs, hState]
    cases hMode : w.charger.chargeMode <;> cases hActive : w.charger.transactionActive <;>
      simp [stateStoppingCharging, Charger.stopTransactionOutputs, hMode, hActive, stopTransaction]

theorem outputs_stateFinished (newInState : Bool) {w : World}
    (hState : w.charger.currentState = .finished) :
    (w.stateFinished newInState).outputs =
      w.outputs ++ if newInState then w.charger.ownEntryOutputs else [] := by
  dsimp only [stateFinished]
  rw [outputs_restart]
  cases newInState
  · simp
  · rw [Charger.ownEntryOutputs, hState]
    cases hActive : w.charger.transactionActive <;> simp [Charger.stopTransactionOutputs, hActive]

theorem outputs_stateIdle (newInState : Bool) {w : World}
    (hState : w.charger.currentState = .idle) :
    (w.stateIdle newInState).outputs =
      w.outputs ++ if newInState then w.charger.ownEntryOutputs else [] := by
  cases newInState
  · simp [stateIdle]
  · rw [Charger.ownEntryOutputs, hState]
    cases hSession : w.charger.sessionActive <;> simp [stateIdle, outputs_authorize, hSession]

theorem outputs_stateReplug (newInState : Bool) {w : World}
    (hState : w.charger.currentState = .replug) :
    (w.stateReplug newInState).outputs =
      w.outputs ++ if newInState then w.charger.ownEntryOutputs else [] := by
  cases newInState
  · simp [stateReplug]
  · rw [Charger.ownEntryOutputs, hState]
    dsimp only [stateReplug]
    split_ifs <;> simp

theorem outputs_stateChargingPausedEVSE (newInState : Bool) {w : World}
    (hState : w.charger.currentState = .chargingPausedEVSE) :
    (w.stateChargingPausedEVSE newInState).outputs =
      w.outputs ++ if newInState then w.charger.ownEntryOutputs else [] := by
  cases newInState
  · simp [stateChargingPausedEVSE]
  · rw [Charger.ownEntryOutputs, hState]
    cases hMode : w.charger.chargeMode <;> simp [stateChargingPausedEVSE, hMode]

theorem outputs_stateWaitingForEnergy (newInState : Bool) {w : World}
    (hState : w.charger.currentState = .waitingForEnergy) :
    (w.stateWaitingForEnergy newInState).outputs =
      w.outputs ++ if newInState then w.charger.ownEntryOutputs else [] := by
  cases newInState
  · simp [stateWaitingForEnergy]
  · rw [Charger.ownEntryOutputs, hState]
    cases hFive : w.charger.hlcUse5percentCurrentSession <;> simp [stateWaitingForEnergy, hFive]

theorem outputs_stateDisabled (newInState : Bool) {w : World}
    (hState : w.charger.currentState = .disabled) :
    (w.stateDisabled newInState).outputs =
      w.outputs ++ if newInState then w.charger.ownEntryOutputs else [] := by
  cases newInState
  · simp [stateDisabled]
  · rw [Charger.ownEntryOutputs, hState]
    simp [stateDisabled]

theorem outputs_stateError (newInState : Bool) {w : World}
    (hState : w.charger.currentState = .error) :
    (w.stateError newInState).outputs =
      w.outputs ++ if newInState then w.charger.ownEntryOutputs else [] := by
  cases newInState
  · simp [stateError]
  · rw [Charger.ownEntryOutputs, hState]
    simp [stateError]

theorem outputs_stateFaulted (newInState : Bool) {w : World}
    (hState : w.charger.currentState = .faulted) :
    (w.stateFaulted newInState).outputs =
      w.outputs ++ if newInState then w.charger.ownEntryOutputs else [] := by
  cases newInState
  · simp [stateFaulted]
  · rw [Charger.ownEntryOutputs, hState]
    simp [stateFaulted]

/-- The code of every state sends what the list says. The case split is over the states. -/
theorem outputs_runState (now : ℤ) (newInState : Bool) {w : World}
    (hLast : w.charger.lastState = w.charger.currentState) :
    (w.runState now newInState).outputs = w.outputs ++ w.charger.stateOutputs now newInState := by
  rw [runState]
  cases hState : w.charger.currentState with
  | waitingForAuthentication =>
      exact outputs_stateWaitingForAuthentication now newInState hState (hLast.trans hState)
  | tStepEF => exact outputs_stateTStepEF now newInState hState
  | tStepX1 => exact outputs_stateTStepX1 now newInState hState
  | prepareCharging => exact outputs_statePrepareCharging now newInState hState
  | charging => exact outputs_stateCharging now newInState hState (hLast.trans hState)
  | chargingPausedEV => exact outputs_stateChargingPausedEV now newInState hState
  | stoppingCharging =>
      rw [Charger.stateOutputs, hState]
      exact outputs_stateStoppingCharging newInState hState
  | finished =>
      rw [Charger.stateOutputs, hState]
      exact outputs_stateFinished newInState hState
  | idle =>
      rw [Charger.stateOutputs, hState]
      exact outputs_stateIdle newInState hState
  | replug =>
      rw [Charger.stateOutputs, hState]
      exact outputs_stateReplug newInState hState
  | chargingPausedEVSE =>
      rw [Charger.stateOutputs, hState]
      exact outputs_stateChargingPausedEVSE newInState hState
  | waitingForEnergy =>
      rw [Charger.stateOutputs, hState]
      exact outputs_stateWaitingForEnergy newInState hState
  | disabled =>
      rw [Charger.stateOutputs, hState]
      exact outputs_stateDisabled newInState hState
  | error =>
      rw [Charger.stateOutputs, hState]
      exact outputs_stateError newInState hState
  | faulted =>
      rw [Charger.stateOutputs, hState]
      exact outputs_stateFaulted newInState hState

/-- The timer of the state does not depend on the limit. -/
theorem socTimerFires_powerAvailable (now : ℤ) (w : World) :
    socTimerFires (w.powerAvailable now).2.charger = socTimerFires w.charger := by
  rw [powerAvailable_charger]
  rfl

/-- A turn in which the timer of the AC-with-SoC mode runs out. -/
theorem tick_of_fires (now : ℤ) {w : World} (hFires : socTimerFires w.charger = true) :
    (w.tick now).charger = { w.charger with
      maxCurrent := w.charger.validLimit now
      lastState := w.charger.currentState
      acWithSocTimeout := false
      acWithSocTimer := 3600000 } ∧
    (w.tick now).outputs =
      w.outputs ++ (w.charger.expiryOutputs now ++ [.signalACWithSoCTimeout]) := by
  dsimp only [tick, runStateMachine]
  rw [socTimerFires_powerAvailable, if_pos hFires]
  simp [powerAvailable_charger, powerAvailable_outputs]

/-- Any other turn runs the code of the state that it finds. -/
theorem tick_of_not_fires (now : ℤ) {w : World} (hFires : socTimerFires w.charger = false) :
    ∃ w' : World, w'.charger = w.charger.turnStart now ∧
      w'.outputs = w.outputs ++ (w.charger.expiryOutputs now ++
        if w.charger.lastState ≠ w.charger.currentState then
          [.signalState w.charger.currentState] ++
            (if w.charger.currentState = .error then [.signalError w.charger.errorState] else [])
        else []) ∧
      w.tick now = w'.runState now (w.charger.lastState ≠ w.charger.currentState) := by
  have hCharger := powerAvailable_charger now w
  have hOutputs := powerAvailable_outputs now w
  have hNew : (w.charger.lastState ≠ w.charger.currentState) =
      ((w.powerAvailable now).2.charger.lastState ≠ (w.powerAvailable now).2.charger.currentState) :=
    by rw [hCharger]
  dsimp only [tick, runStateMachine]
  simp only [socTimerFires_powerAvailable, hFires, Bool.false_eq_true, if_false]
  refine ⟨_, ?_, ?_, by simp only [hNew]; rfl⟩
  · rw [Charger.turnStart]
    dsimp only [enterState]
    split_ifs <;> simp_all
  · dsimp only [enterState]
    split_ifs <;> simp_all

/-- A turn sends what its timer sends, or what its state sends. -/
theorem tick_outputs (now : ℤ) (w : World) :
    (w.tick now).outputs = w.outputs ++ w.charger.tickOutputs now := by
  rw [Charger.tickOutputs]
  cases hFires : socTimerFires w.charger
  · obtain ⟨w', hCharger, hOutputs, hTick⟩ := tick_of_not_fires now hFires
    rw [hTick, outputs_runState now _ (by rw [hCharger]; rfl), hOutputs, hCharger]
    simp only [Bool.false_eq_true, if_false, List.append_assoc]
  · rw [(tick_of_fires now hFires).2]
    simp

/-- An event that only the current state looks at passes the first handler. Any
other event leaves no state behind that the second handler reacts to. -/
theorem processEvent_eq (now : ℤ) (ppAmpacity : ℚ) (event : BoardEvent) (w : World) :
    w.processEvent now ppAmpacity event =
      if event.isStateEvent then
        w.processCPEventsState now ppAmpacity (stringToControlPilotEvent event)
      else w.processCPEventsIndependent (stringToControlPilotEvent event) := by
  cases event with
  | carUnplugged =>
      simp only [processEvent, BoardEvent.isStateEvent, stringToControlPilotEvent,
        processCPEventsIndependent]
      cases hMode : w.charger.chargeMode <;> split_ifs <;>
        simp_all [processCPEventsState, setState]
  | _ => rfl

/-- Unplugging clears the errors, and this is the only event that is signalled here. -/
theorem outputs_processCPEventsIndependent (cpEvent : ControlPilotEvent) (w : World) :
    (w.processCPEventsIndependent cpEvent).outputs = w.outputs ++
      if cpEvent = .carUnplugged ∧ w.charger.currentState = .error then
        [.signalEvent .allErrorsCleared] else [] := by
  cases cpEvent with
  | carUnplugged =>
      cases hMode : w.charger.chargeMode <;> by_cases hState : w.charger.currentState = .error <;>
        simp [processCPEventsIndependent, hMode, hState]
  | _ => simp [processCPEventsIndependent]

/-- In an AC session, every event that `PrepareCharging` handles reports a start of charging. -/
theorem outputs_processCPEventsState (now : ℤ) (ppAmpacity : ℚ) (cpEvent : ControlPilotEvent)
    (w : World) :
    (w.processCPEventsState now ppAmpacity cpEvent).outputs = w.outputs ++
      if w.charger.currentState = .prepareCharging ∧ w.charger.chargeMode = .ac then
        .signalEvent .chargingStarted ::
          if cpEvent = .carRequestedPower then w.charger.expiryOutputs now else []
      else [] := by
  rw [processCPEventsState]
  cases hState : w.charger.currentState with
  | prepareCharging =>
      cases hMode : w.charger.chargeMode
      · dsimp only
        split_ifs <;>
          simp_all [outputs_pauseChargingWaitForPower, powerAvailable_outputs]
      · dsimp only
        split_ifs <;> simp_all
  | _ => dsimp only; split_ifs <;> simp_all

/-- Both parts of an event together. -/
theorem processEvent_outputs (now : ℤ) (ppAmpacity : ℚ) (event : BoardEvent) (w : World) :
    (w.processEvent now ppAmpacity event).outputs =
      w.outputs ++ w.charger.eventOutputs now event := by
  rw [processEvent_eq, Charger.eventOutputs]
  cases hEvent : event.isStateEvent
  · rw [if_neg (by simp), outputs_processCPEventsIndependent]
    cases event <;> first | exact absurd hEvent (by decide) | simp [stringToControlPilotEvent]
  · rw [if_pos rfl, outputs_processCPEventsState]
    cases event <;> first | exact absurd hEvent (by decide) | simp [stringToControlPilotEvent]

/-- The session of a card without a car ends with its authorization. -/
theorem outputs_deAuthorize (w : World) :
    w.deAuthorize.2.outputs = w.outputs ++
      if deAuthorizes w.charger then [.signalEvent .sessionFinished] else [] := by
  rw [deAuthorize, deAuthorizes]
  split_ifs <;> simp_all

/-- The question for power may let a limit expire. -/
theorem outputs_resumeChargingPowerAvailable (now : ℤ) (w : World) :
    (w.resumeChargingPowerAvailable now).2.outputs = w.outputs ++
      if w.charger.transactionActive ∧ w.charger.currentState = .waitingForEnergy then
        w.charger.expiryOutputs now else [] := by
  dsimp only [resumeChargingPowerAvailable]
  split_ifs <;> simp [powerAvailable_outputs]

/-- A stop from outside sends what ends a transaction, if there is one. -/
theorem outputs_cancelTransaction (request : StopTransactionRequest) (w : World) :
    (w.cancelTransaction request).2.outputs = w.outputs ++ w.charger.stopTransactionOutputs := by
  rw [cancelTransaction, Charger.stopTransactionOutputs]
  cases hMode : w.charger.chargeMode <;> split_ifs <;> simp

/-- A limit that is accepted is passed on, cut to what the cable stands. -/
theorem outputs_setMaxCurrentUntil (now : ℤ) (ampere : ℚ) (validUntil : ℤ) (w : World) :
    (w.setMaxCurrentUntil now ampere validUntil).2.outputs = w.outputs ++
      if Charger.acceptsLimit now ampere validUntil then
        [.signalMaxCurrent (limitToCable w.charger ampere)] else [] := by
  rw [setMaxCurrentUntil, Charger.acceptsLimit]
  by_cases hRange : 0 ≤ ampere ∧ ampere ≤ chargerAbsoluteMaxCurrent <;>
    by_cases hValid : validUntil > now <;> simp [hRange, hValid]

/-- A limit without a validity of its own is valid as long as the last one. -/
theorem outputs_setMaxCurrent (now : ℤ) (ampere : ℚ) (w : World) :
    (w.setMaxCurrent now ampere).2.outputs = w.outputs ++
      if Charger.acceptsLimit now ampere w.charger.maxCurrentValidUntil then
        [.signalMaxCurrent (limitToCable w.charger ampere)] else [] := by
  rw [setMaxCurrent, Charger.acceptsLimit]
  by_cases hRange : 0 ≤ ampere ∧ ampere ≤ chargerAbsoluteMaxCurrent <;>
    by_cases hValid : w.charger.maxCurrentValidUntil > now <;> simp [hRange, hValid]

/-- Every call sends what the table says. -/
theorem call_outputs (w : World) (c : Call) :
    (w.call c).outputs = w.outputs ++ w.charger.callOutputs c := by
  rw [call, Charger.callOutputs]
  cases c.action with
  | startMainThread => simp [startMainThread]
  | tick => exact tick_outputs c.now w
  | processEvent event ppAmpacity => exact processEvent_outputs c.now ppAmpacity event w
  | authorize a userid pnc => exact outputs_authorize a userid pnc w
  | deAuthorize => exact outputs_deAuthorize w
  | pauseCharging =>
      dsimp only [pauseCharging]
      split_ifs <;> simp
  | resumeCharging =>
      dsimp only [resumeCharging]
      split_ifs <;> simp
  | pauseChargingWaitForPower => simp [outputs_pauseChargingWaitForPower]
  | resumeChargingPowerAvailable => exact outputs_resumeChargingPowerAvailable c.now w
  | evseReplug => simp [evseReplug]
  | cancelTransaction request => exact outputs_cancelTransaction request w
  | disable => simp [disable]
  | enable =>
      dsimp only [enable]
      split_ifs <;> simp
  | setFaulted => simp [setFaulted]
  | restart => simp [outputs_restart]
  | setup config => simp [setup]
  | setMaxCurrentUntil ampere validUntil =>
      exact outputs_setMaxCurrentUntil c.now ampere validUntil w
  | setMaxCurrent ampere => exact outputs_setMaxCurrent c.now ampere w
  | requestErrorSequence =>
      dsimp only [requestErrorSequence]
      split_ifs <;> simp
  | notifyCurrentDemandStarted =>
      dsimp only [notifyCurrentDemandStarted]
      split_ifs <;> simp
  | switchThreePhasesWhileCharging n => simp [switchThreePhasesWhileCharging]
  | forceUnlock => simp [forceUnlock]
  | setCurrentDrawnByVehicle | setMatchingStarted | informNewEvseMaxHlcLimits =>
      simp [setCurrentDrawnByVehicle, setMatchingStarted, informNewEvseMaxHlcLimits]

/-- The next call of a run. -/
theorem run_call (memory : Charger) (ppAmpacity : ℚ) (calls : List Call) (c : Call) :
    run memory ppAmpacity (calls ++ [c]) = (run memory ppAmpacity calls).call c :=
  Machine.run_snoc call _ calls c

/-- The socket is not enabled at first. -/
theorem create_outputs (memory : Charger) (ppAmpacity : ℚ) :
    (create memory ppAmpacity).outputs = [.callEnable false] := rfl

/-- What a call sends depends on the member variables alone, not on what was sent before. Everything
that is said about runs below rests on this. -/
theorem sent_eq (w : World) (c : Call) : w.sent c = w.charger.callOutputs c := by
  rw [sent, call_outputs, List.drop_left]

/-- A call adds to what was sent, and takes nothing back. -/
theorem outputs_call (w : World) (c : Call) : (w.call c).outputs = w.outputs ++ w.sent c := by
  rw [call_outputs, sent_eq]

end World

/-- The events that the code of a state can send in one turn. -/
def EvseState.turnEvents : EvseState → List SessionEvent
  | .disabled => [.disabled]
  | .replug => [.replugStarted]
  | .idle => [.sessionFinished]
  | .waitingForAuthentication => [.sessionStarted, .authRequired, .transactionStarted]
  | .prepareCharging => [.prepareCharging]
  | .charging => [.chargingResumed]
  | .chargingPausedEV => [.chargingPausedEV]
  | .chargingPausedEVSE => [.chargingPausedEVSE]
  | .waitingForEnergy => [.waitingForEnergy]
  | .stoppingCharging => [.stoppingCharging, .chargingFinished, .transactionFinished]
  | .finished => [.chargingFinished, .transactionFinished, .sessionFinished]
  | .error => [.error]
  | .faulted => [.permanentFault]
  | .tStepEF | .tStepX1 => []

namespace Charger

/-- The events that a call can send. -/
def callEvents (c : Charger) : Action → List SessionEvent
  | .tick => c.currentState.turnEvents
  | .processEvent _ _ => [.allErrorsCleared, .chargingStarted]
  | .authorize _ _ _ => [.sessionStarted, .sessionFinished]
  | .deAuthorize => [.sessionFinished]
  | .cancelTransaction _ => [.chargingFinished, .transactionFinished]
  | .disable => [.disabled]
  | .enable => [.enabled]
  | .setFaulted => [.permanentFault]
  | .notifyCurrentDemandStarted => [.chargingStarted]
  | _ => []

/-- The expiry of a limit is reported by the limit zero, and by nothing else. -/
theorem mem_expiryOutputs {now : ℤ} {c : Charger} {output : Output}
    (h : output ∈ c.expiryOutputs now) : output = .signalMaxCurrent 0 := by
  rw [expiryOutputs] at h
  split_ifs at h <;> simp_all

/-- An expiry is none of the events of a session. -/
theorem signalEvent_not_mem_expiryOutputs (now : ℤ) (c : Charger) (event : SessionEvent) :
    .signalEvent event ∉ c.expiryOutputs now := fun h => Output.noConfusion (mem_expiryOutputs h)

/-- The events of a turn come from the code of the current state. -/
theorem signalEvent_mem_tickOutputs {now : ℤ} {c : Charger} {event : SessionEvent} :
    .signalEvent event ∈ c.tickOutputs now ↔ World.socTimerFires c = false ∧
      .signalEvent event ∈ (c.turnStart now).stateOutputs now (c.lastState ≠ c.currentState) := by
  rw [tickOutputs, List.mem_append, or_iff_right (signalEvent_not_mem_expiryOutputs now c event)]
  cases World.socTimerFires c with
  | true => simp
  | false =>
      rw [if_neg (by simp), List.mem_append, or_iff_right]
      · simp
      · split_ifs <;> simp

/-- The events of an entry are among those of its state. -/
theorem mem_turnEvents_of_ownEntry {c : Charger} {event : SessionEvent}
    (h : .signalEvent event ∈ c.ownEntryOutputs) : event ∈ c.currentState.turnEvents := by
  rw [ownEntryOutputs, stopTransactionOutputs] at h
  cases hState : c.currentState <;> rw [hState] at h <;> dsimp only at h
  case waitingForAuthentication =>
    cases hSession : c.sessionActive <;> cases hFive : c.startsWith5percent <;>
      simp [hSession, hFive] at h
    all_goals
      rcases h with rfl | rfl <;> decide
  case charging | chargingPausedEV | chargingPausedEVSE =>
    cases hMode : c.chargeMode <;> simp_all [EvseState.turnEvents]
  case stoppingCharging =>
    cases hMode : c.chargeMode <;> cases hActive : c.transactionActive <;>
      simp_all [EvseState.turnEvents]
  case finished =>
    cases hActive : c.transactionActive <;> simp_all [EvseState.turnEvents]
  case idle => cases hSession : c.sessionActive <;> simp_all [EvseState.turnEvents]
  case waitingForEnergy =>
    cases hFive : c.hlcUse5percentCurrentSession <;> simp_all [EvseState.turnEvents]
  all_goals simp_all [EvseState.turnEvents]

/-- Apart from entering, a turn sends one event only: the start of a transaction. -/
theorem signalEvent_mem_stateOutputs {now : ℤ} {newInState : Bool} {c : Charger}
    {event : SessionEvent} (h : .signalEvent event ∈ c.stateOutputs now newInState) :
    newInState = true ∧ .signalEvent event ∈ c.ownEntryOutputs ∨
      c.currentState = .waitingForAuthentication ∧ event = .transactionStarted := by
  have hPowered : .signalEvent event ∈ c.poweredOutputs now newInState →
      newInState = true ∧ .signalEvent event ∈ c.ownEntryOutputs := by
    intro hMem
    rw [poweredOutputs, List.mem_append,
      or_iff_right (signalEvent_not_mem_expiryOutputs now c event), followOutputs] at hMem
    cases newInState <;> split_ifs at hMem <;> simp_all
  have hEntry : .signalEvent event ∈ (if newInState then c.ownEntryOutputs else []) →
      newInState = true ∧ .signalEvent event ∈ c.ownEntryOutputs := by
    cases newInState <;> simp
  rw [stateOutputs] at h
  cases hState : c.currentState <;> rw [hState] at h <;> dsimp only [returnOutputs] at h
  case waitingForAuthentication =>
    rcases List.mem_append.mp h with hOwn | hStart
    · exact .inl (hEntry hOwn)
    · split_ifs at hStart <;> simp_all
  case charging | chargingPausedEV =>
    cases hMode : c.chargeMode <;> rw [hMode] at h
    · exact .inl (hPowered h)
    · exact .inl (hEntry h)
  case tStepEF | tStepX1 | prepareCharging =>
    rcases List.mem_append.mp h with hOwn | hRest
    · exact .inl (hEntry hOwn)
    · split_ifs at hRest <;> simp at hRest
  all_goals exact .inl (hEntry h)

/-- The events of a turn are known from the state alone. -/
theorem mem_turnEvents {now : ℤ} {newInState : Bool} {c : Charger} {event : SessionEvent}
    (h : .signalEvent event ∈ c.stateOutputs now newInState) :
    event ∈ c.currentState.turnEvents := by
  rcases signalEvent_mem_stateOutputs h with hOwn | hStart
  · exact mem_turnEvents_of_ownEntry hOwn.2
  · rw [hStart.1, hStart.2]
    decide

/-- The events of a call are known from the state and the call alone. -/
theorem mem_callEvents {c : Charger} {call : Call} {event : SessionEvent}
    (h : .signalEvent event ∈ c.callOutputs call) : event ∈ c.callEvents call.action := by
  rw [callOutputs] at h
  cases hAction : call.action <;> rw [hAction] at h <;> dsimp only [callEvents] at h ⊢
  case tick => exact mem_turnEvents (c := c.turnStart call.now) (signalEvent_mem_tickOutputs.mp h).2
  case processEvent event _ =>
    rw [eventOutputs] at h
    split_ifs at h <;> simp_all [signalEvent_not_mem_expiryOutputs]
  case resumeChargingPowerAvailable =>
    split_ifs at h <;> simp_all [signalEvent_not_mem_expiryOutputs]
  case cancelTransaction =>
    rw [stopTransactionOutputs] at h
    split_ifs at h <;> simp_all
  all_goals
    try split_ifs at h
    all_goals simp_all

end Charger

/-- The states that no turn of the main loop leaves. -/
def EvseState.isResting (state : EvseState) : Bool :=
  state ∈ [.disabled, .replug, .idle, .prepareCharging, .chargingPausedEVSE, .waitingForEnergy,
    .error, .faulted]

namespace Charger

/-- The state that an event of the board support package leads to. -/
def eventState (now : ℤ) (event : BoardEvent) (c : Charger) : EvseState :=
  match event with
  | .evseReplugStarted => .replug
  | .evseReplugFinished => .waitingForAuthentication
  | .carUnplugged => match c.chargeMode with
      | .ac => .stoppingCharging
      | .dc => .finished
  | .errorE | .errorDF | .errorRelais | .errorRCD | .errorVentilationNotAvailable
  | .errorOverCurrent => .error
  | .carPluggedIn => if c.currentState = .idle then .waitingForAuthentication else c.currentState
  | .carRequestedPower =>
      if c.currentState = .prepareCharging ∧ c.chargeMode = .ac then
        if c.hasPower now then .charging else .waitingForEnergy
      else if c.currentState = .chargingPausedEV then .charging else c.currentState
  | .carRequestedStopPower =>
      if c.currentState = .prepareCharging ∧ c.chargeMode = .dc then .stoppingCharging
      else if c.currentState = .charging then .chargingPausedEV else c.currentState
  | _ => c.currentState

/-- The state that a call leads to. A turn is not looked into. -/
def callState (c : Charger) (call : Call) : EvseState :=
  match call.action with
  | .processEvent event _ => c.eventState call.now event
  | .pauseCharging => if c.currentState = .charging then .chargingPausedEVSE else c.currentState
  | .resumeCharging =>
      if c.transactionActive ∧ c.currentState = .chargingPausedEVSE then .waitingForEnergy
      else c.currentState
  | .pauseChargingWaitForPower =>
      if c.currentState = .charging then .waitingForEnergy else c.currentState
  | .resumeChargingPowerAvailable =>
      if c.transactionActive ∧ c.currentState = .waitingForEnergy ∧ c.hasPower call.now then
        .charging
      else c.currentState
  | .cancelTransaction _ =>
      if c.transactionActive then match c.chargeMode with
        | .dc => .stoppingCharging
        | .ac => .chargingPausedEVSE
      else c.currentState
  | .disable => .disabled
  | .enable => if c.currentState = .disabled then .idle else c.currentState
  | .setFaulted => .faulted
  | .restart => if c.currentState = .finished then .idle else c.currentState
  | .requestErrorSequence =>
      if c.currentState = .waitingForAuthentication then .tStepEF else c.currentState
  | .notifyCurrentDemandStarted =>
      if c.currentState = .prepareCharging then .charging else c.currentState
  | _ => c.currentState

end Charger

namespace World

/-- A card does not change the state. The next turn does. -/
theorem authorize_currentState (a : Bool) (userid : String) (pnc : Bool) (w : World) :
    (w.authorize a userid pnc).charger.currentState = w.charger.currentState := by
  rw [authorize]
  split_ifs <;> rfl

/-- A command to the board does not change the state. -/
theorem updatePwmNowIfChanged_currentState (now : ℤ) (dc : ℚ) (w : World) :
    (w.updatePwmNowIfChanged now dc).charger.currentState = w.charger.currentState := by
  rw [updatePwmNowIfChanged]
  split_ifs <;> rfl

/-- The entry stays in its state. -/
theorem enterPrepareCharging_currentState (now : ℤ) (w : World) :
    (w.enterPrepareCharging now).charger.currentState = w.charger.currentState := by
  dsimp only [enterPrepareCharging]
  split_ifs <;> rfl

/-- A turn stays in this state until the car wants power. -/
theorem statePrepareCharging_currentState (now : ℤ) (newInState : Bool) (w : World) :
    (w.statePrepareCharging now newInState).charger.currentState = w.charger.currentState := by
  have hEnter : (if newInState then w.enterPrepareCharging now else w).charger.currentState =
      w.charger.currentState := by
    split_ifs
    · exact enterPrepareCharging_currentState now w
    · rfl
  dsimp only [statePrepareCharging]
  rw [apply_ite World.charger, apply_ite Charger.currentState, updatePwmNowIfChanged_currentState,
    ite_self, hEnter]

/-- The code of a resting state leaves the state alone. -/
theorem runState_currentState (now : ℤ) (newInState : Bool) {w : World}
    (hRest : w.charger.currentState.isResting = true) :
    (w.runState now newInState).charger.currentState = w.charger.currentState := by
  rw [runState]
  cases hState : w.charger.currentState with
  | disabled | error | faulted =>
      dsimp only [stateDisabled, stateError, stateFaulted]
      split_ifs <;> exact hState
  | replug =>
      dsimp only [stateReplug]
      split_ifs <;> exact hState
  | idle =>
      dsimp only [stateIdle]
      split_ifs
      · exact (authorize_currentState false "" false w.pwmOff).trans hState
      · exact hState
  | prepareCharging => exact (statePrepareCharging_currentState now newInState w).trans hState
  | chargingPausedEVSE =>
      cases hMode : w.charger.chargeMode <;> cases newInState <;>
        simp [stateChargingPausedEVSE, hMode, hState]
  | waitingForEnergy =>
      dsimp only [stateWaitingForEnergy]
      split_ifs <;> exact hState
  | _ =>
      rw [hState] at hRest
      exact absurd hRest (by decide)

/-- A state that rests waits for an event from outside. -/
theorem tick_currentState (now : ℤ) {w : World}
    (hRest : w.charger.currentState.isResting = true) :
    (w.tick now).charger.currentState = w.charger.currentState := by
  cases hFires : socTimerFires w.charger
  · obtain ⟨w', hCharger, -, hTick⟩ := tick_of_not_fires now hFires
    have hState : w'.charger.currentState = w.charger.currentState := by rw [hCharger]; rfl
    rw [hTick, runState_currentState now _ (by rw [hState]; exact hRest), hState]
  · rw [(tick_of_fires now hFires).1]

/-- The expiry of a limit does not change the state by itself. -/
theorem powerAvailable_currentState (now : ℤ) (w : World) :
    (w.powerAvailable now).2.charger.currentState = w.charger.currentState := by
  rw [powerAvailable_charger]

/-- Only a charge can be paused for want of power. -/
theorem pauseChargingWaitForPower_currentState (w : World) :
    w.pauseChargingWaitForPower.2.charger.currentState =
      if w.charger.currentState = .charging then .waitingForEnergy else w.charger.currentState := by
  rw [pauseChargingWaitForPower]
  split_ifs <;> rfl

/-- The answer to a car that asks for power in `PrepareCharging`. -/
theorem carRequestedPower_currentState (now : ℤ) (ppAmpacity : ℚ) {w : World}
    (hState : w.charger.currentState = .prepareCharging) (hMode : w.charger.chargeMode = .ac) :
    (w.processCPEventsState now ppAmpacity .carRequestedPower).charger.currentState =
      if w.charger.hasPower now then .charging else .waitingForEnergy := by
  rw [processCPEventsState, hState, hMode]
  dsimp only
  rw [if_pos rfl, powerAvailable_fst, charger_signalEvent]
  split_ifs
  · rfl
  · exact pauseChargingWaitForPower_currentState _

/-- The state after an event, both parts of it. -/
theorem processEvent_currentState (now : ℤ) (ppAmpacity : ℚ) (event : BoardEvent) (w : World) :
    (w.processEvent now ppAmpacity event).charger.currentState =
      w.charger.eventState now event := by
  rw [processEvent_eq]
  cases event with
  | carUnplugged =>
      cases hMode : w.charger.chargeMode <;>
        simp [BoardEvent.isStateEvent, stringToControlPilotEvent, processCPEventsIndependent,
          Charger.eventState, setState, hMode, apply_ite]
  | carRequestedPower =>
      cases hState : w.charger.currentState with
      | prepareCharging =>
          cases hMode : w.charger.chargeMode
          · simpa [BoardEvent.isStateEvent, stringToControlPilotEvent, Charger.eventState, hState,
              hMode] using carRequestedPower_currentState now ppAmpacity hState hMode
          · simp [BoardEvent.isStateEvent, stringToControlPilotEvent, processCPEventsState,
              Charger.eventState, hState, hMode]
      | _ =>
          simp [BoardEvent.isStateEvent, stringToControlPilotEvent, processCPEventsState,
            Charger.eventState, hState, setState]
  | carPluggedIn | carRequestedStopPower | powerOn | powerOff | efToBCD | bcdToEF
  | permanentFault =>
      cases hState : w.charger.currentState with
      | prepareCharging =>
          cases hMode : w.charger.chargeMode <;>
            simp [BoardEvent.isStateEvent, stringToControlPilotEvent, processCPEventsState,
              Charger.eventState, hState, hMode, setState]
      | _ =>
          simp [BoardEvent.isStateEvent, stringToControlPilotEvent, processCPEventsState,
            Charger.eventState, hState, setState]
  | _ => rfl

/-- Every call leads to the state that the table says, if a turn starts in a
resting state. -/
theorem call_currentState (w : World) (c : Call)
    (hTick : c.action = .tick → w.charger.currentState.isResting = true) :
    (w.call c).charger.currentState = w.charger.callState c := by
  rw [call, Charger.callState]
  cases hAction : c.action with
  | tick => exact tick_currentState c.now (hTick hAction)
  | processEvent event ppAmpacity => exact processEvent_currentState c.now ppAmpacity event w
  | authorize a userid pnc => exact authorize_currentState a userid pnc w
  | deAuthorize =>
      dsimp only [deAuthorize]
      split_ifs <;> rfl
  | pauseCharging | resumeCharging | pauseChargingWaitForPower | enable | restart
  | requestErrorSequence | notifyCurrentDemandStarted =>
      dsimp only [pauseCharging, resumeCharging, pauseChargingWaitForPower, enable, restart,
        requestErrorSequence, notifyCurrentDemandStarted]
      split_ifs <;> rfl
  | resumeChargingPowerAvailable =>
      dsimp only [resumeChargingPowerAvailable]
      rw [powerAvailable_fst]
      split_ifs <;> simp_all [powerAvailable_currentState, setState]
  | cancelTransaction request =>
      dsimp only [cancelTransaction]
      cases hMode : w.charger.chargeMode <;> split_ifs <;> rfl
  | setMaxCurrentUntil ampere validUntil =>
      dsimp only [setMaxCurrentUntil]
      split_ifs <;> rfl
  | setMaxCurrent ampere =>
      dsimp only [setMaxCurrent]
      split_ifs <;> rfl
  | _ => rfl

end World
end EverestCore
