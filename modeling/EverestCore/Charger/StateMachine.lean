import EverestCore.Charger.Operations
import EverestCore.Machine.Runs

/-! One turn of the charger's main loop, and runs made of such turns and of
calls from outside in any order. Each call is atomic and sees one reading of
the clock. `lastState` is overwritten at the beginning of a turn, before any
of the entry actions looks at it. -/
namespace EverestCore
namespace World

def stateDisabled (newInState : Bool) (w : World) : World :=
  if newInState then (w.signalEvent .disabled).pwmF else w

def stateReplug (newInState : Bool) (w : World) : World :=
  if newInState then
    let w := w.signalEvent .replugStarted
    if w.charger.acWithSocTimeout then w.update fun c => { c with acWithSocTimer := 120000 } else w
  else w

def stateIdle (newInState : Bool) (w : World) : World :=
  if newInState then
    (w.pwmOff.authorize false "" false).update fun c => { c with transactionActive := false }
  else w

/-- A replug goes on with the session it found. Otherwise plugging in is the
first interaction of the user if there is no session yet. -/
def requireAuthentication (w : World) : World :=
  if w.charger.lastState = .replug then w.signalEvent .replugFinished
  else (if !w.charger.sessionActive then w.startSession false else w).signalEvent .authRequired

/-- Switch high level communication on for this session if it is configured. -/
def configureHlc (w : World) : World :=
  w.update fun c => match c.chargeMode with
    | .ac => { c with
        acHlcEnabledCurrentSession := c.acHlcEnabled
        hlcUse5percentCurrentSession := c.acHlcEnabled && c.acHlcUse5percent }
    | .dc => { c with hlcUse5percentCurrentSession := true }

/-- Entry into `WaitingForAuthentication`. Power is refused before anything
else, so that starting PWM here cannot close the relais. -/
def enterWaitingForAuthentication (now : ℤ) (w : World) : World :=
  let w := (w.emit (.callAllowPowerOn false)).requireAuthentication.configureHlc
  if w.charger.hlcUse5percentCurrentSession then w.updatePwmNow now pwm5Percent else w

/-- External identification was given. Depending on how far SLAC matching is,
the way to `PrepareCharging` leads through a break in state F or X1. -/
def proceedEIM (w : World) : World :=
  let w := w.startTransaction
  match w.charger.chargeMode with
  | .ac =>
      if w.charger.acHlcEnabledCurrentSession then
        if w.charger.acEnforceHlc then
          (w.update fun c => { c with hlcUse5percentCurrentSession := true }).setState
            .prepareCharging
        else if !w.charger.matchingStarted then
          w.update fun c => { c with
            tStepEFReturnState := .prepareCharging
            tStepEFReturnPWM := 0
            hlcUse5percentCurrentSession := false
            currentState := .tStepEF }
        else if w.charger.hlcUse5percentCurrentSession then
          w.update fun c => { c with
            tStepX1ReturnState := .prepareCharging
            tStepX1ReturnPWM := 0
            hlcUse5percentCurrentSession := false
            currentState := .tStepX1 }
        else w.setState .prepareCharging
      else w.setState .prepareCharging
  | .dc => w.setState .prepareCharging

/-- Plug and charge was accepted. -/
def proceedPnC (w : World) : World :=
  let w := w.startTransaction
  match w.charger.chargeMode with
  | .ac =>
      (w.update fun c => { c with hlcUse5percentCurrentSession := true }).setState .prepareCharging
  | .dc => w.setState .prepareCharging

/-- In DC mode the charger waits for the energy manager to supply some power. -/
def waitsForLimits (c : Charger) : Bool :=
  c.chargeMode = .dc ∧ ¬ (c.currentEvseMaxLimits.evseMaximumCurrentLimit > 0 ∧
    c.currentEvseMaxLimits.evseMaximumPowerLimit > 0)

/-- The part of `WaitingForAuthentication` that is run in every turn. -/
def checkAuthorization (w : World) : World :=
  if waitsForLimits w.charger then w
  else if authorizedEIM w.charger then w.proceedEIM
  else if authorizedPnC w.charger then w.proceedPnC
  else w

def stateWaitingForAuthentication (now : ℤ) (newInState : Bool) (w : World) : World :=
  (if newInState then w.enterWaitingForAuthentication now else w).checkAuthorization

def stateTStepEF (now : ℤ) (newInState : Bool) (w : World) : World :=
  let w := if newInState then w.pwmF else w
  if now - w.charger.currentStateStarted ≥ tStepEF then
    (if w.charger.tStepEFReturnPWM = 0 then w.pwmOff
      else w.updatePwmNow now w.charger.tStepEFReturnPWM).setState w.charger.tStepEFReturnState
  else w

def stateTStepX1 (now : ℤ) (newInState : Bool) (w : World) : World :=
  let w := if newInState then w.pwmOff else w
  if now - w.charger.currentStateStarted ≥ tStepX1 then
    (if w.charger.tStepX1ReturnPWM = 0 then w.pwmOff
      else w.updatePwmNow now w.charger.tStepX1ReturnPWM).setState w.charger.tStepX1ReturnState
  else w

/-- Entry into `PrepareCharging` permits power before PWM is set. -/
def enterPrepareCharging (now : ℤ) (w : World) : World :=
  let w := (w.signalEvent .prepareCharging).emit (.callAllowPowerOn true)
  if w.charger.hlcUse5percentCurrentSession then w.updatePwmNow now pwm5Percent
  else w.updatePwmNow now (ampereToDutyCycle 0)

def statePrepareCharging (now : ℤ) (newInState : Bool) (w : World) : World :=
  let w := if newInState then w.enterPrepareCharging now else w
  if !w.charger.hlcUse5percentCurrentSession then
    w.updatePwmNowIfChanged now (ampereToDutyCycle w.charger.maxCurrent)
  else w

/-- Power is permitted and PWM is set, either to five percent or to the limit
that is valid now. -/
def permitPower (now : ℤ) (w : World) : World :=
  let w := w.emit (.callAllowPowerOn true)
  if w.charger.hlcUse5percentCurrentSession then w.updatePwmNow now pwm5Percent
  else w.updatePwmNow now (ampereToDutyCycle w.charger.maxCurrent)

/-- Follow a changed limit, but not more often than every five seconds. -/
def followLimit (now : ℤ) (w : World) : World :=
  if !w.charger.hlcUse5percentCurrentSession then
    w.updatePwmMaxEvery5seconds now (ampereToDutyCycle w.charger.maxCurrent)
  else w

def stateCharging (now : ℤ) (newInState : Bool) (w : World) : World :=
  match w.charger.chargeMode with
  | .dc => w
  | .ac =>
      let (available, w) := (w.checkSoftOverCurrent now).powerAvailable now
      if !available then w.pauseChargingWaitForPower.2
      else if newInState ∧ w.charger.lastState ≠ .prepareCharging then
        (w.signalEvent .chargingResumed).permitPower now
      else w.followLimit now

def stateChargingPausedEV (now : ℤ) (newInState : Bool) (w : World) : World :=
  match w.charger.chargeMode with
  | .dc =>
      if newInState then (w.emit (.callAllowPowerOn false)).setState .stoppingCharging else w
  | .ac =>
      let (available, w) := (w.checkSoftOverCurrent now).powerAvailable now
      if !available then w.pauseChargingWaitForPower.2
      else if newInState then (w.signalEvent .chargingPausedEV).permitPower now
      else w.followLimit now

def stateChargingPausedEVSE (newInState : Bool) (w : World) : World :=
  if newInState then
    let w := (w.signalEvent .chargingPausedEVSE).pwmOff
    match w.charger.chargeMode with
    | .dc => w.emit .signalDCSupplyOff
    | .ac => w
  else w

def stateWaitingForEnergy (newInState : Bool) (w : World) : World :=
  if newInState then
    let w := w.signalEvent .waitingForEnergy
    if !w.charger.hlcUse5percentCurrentSession then w.pwmOff else w
  else w

def stateStoppingCharging (newInState : Bool) (w : World) : World :=
  if newInState then
    let w := w.signalEvent .stoppingCharging
    let w := if w.charger.transactionActive then w.stopTransaction else w
    match w.charger.chargeMode with
    | .dc => w.emit .signalDCSupplyOff
    | .ac => w.pwmOff.setState .finished
  else w

/-- The session is closed on entry, whether or not one is active. -/
def stateFinished (newInState : Bool) (w : World) : World :=
  let w :=
    if newInState then
      (if w.charger.transactionActive then w.stopTransaction else w).stopSession.pwmF
    else w
  w.restart.2

def stateError (newInState : Bool) (w : World) : World :=
  if newInState then (w.signalEvent .error).pwmOff else w

def stateFaulted (newInState : Bool) (w : World) : World :=
  if newInState then (w.signalEvent .permanentFault).pwmF else w

/-- The switch over the current state. -/
def runState (now : ℤ) (newInState : Bool) (w : World) : World :=
  match w.charger.currentState with
  | .disabled => w.stateDisabled newInState
  | .replug => w.stateReplug newInState
  | .idle => w.stateIdle newInState
  | .waitingForAuthentication => w.stateWaitingForAuthentication now newInState
  | .tStepEF => w.stateTStepEF now newInState
  | .tStepX1 => w.stateTStepX1 now newInState
  | .prepareCharging => w.statePrepareCharging now newInState
  | .charging => w.stateCharging now newInState
  | .chargingPausedEV => w.stateChargingPausedEV now newInState
  | .chargingPausedEVSE => w.stateChargingPausedEVSE newInState
  | .waitingForEnergy => w.stateWaitingForEnergy newInState
  | .stoppingCharging => w.stateStoppingCharging newInState
  | .finished => w.stateFinished newInState
  | .error => w.stateError newInState
  | .faulted => w.stateFaulted newInState

/-- The actions that every state performs on entry. -/
def enterState (now : ℤ) (w : World) : World :=
  let w := (w.update fun c => { c with currentStateStarted := now }).emit
    (.signalState w.charger.currentState)
  if w.charger.currentState = .error then w.emit (.signalError w.charger.errorState) else w

/-- The timer of the AC-with-SoC mode runs out in the coming turn. -/
def socTimerFires (c : Charger) : Bool := c.acWithSocTimeout && c.acWithSocTimer - 50 < 0

/-- `Charger::runStateMachine`. When the timer of the AC-with-SoC mode runs out,
the turn ends before any entry action. -/
def runStateMachine (now : ℤ) (w : World) : World :=
  let newInState := w.charger.lastState ≠ w.charger.currentState
  let fires := socTimerFires w.charger
  let w := w.update fun c => { c with
    lastState := c.currentState
    acWithSocTimer := if c.acWithSocTimeout then c.acWithSocTimer - 50 else c.acWithSocTimer }
  if fires then
    (w.update fun c => { c with
      acWithSocTimeout := false, acWithSocTimer := 3600000 }).emit .signalACWithSoCTimeout
  else (if newInState then w.enterState now else w).runState now newInState

/-- One turn of `Charger::mainThread`. -/
def tick (now : ℤ) (w : World) : World := (w.powerAvailable now).2.runStateMachine now

/-- What the main thread does before its loop. -/
def startMainThread (w : World) : World :=
  (((w.emit (.callEnable true)).emit (.signalMaxCurrent w.charger.maxCurrent)).emit
    (.signalState w.charger.currentState)).emit (.signalError w.charger.errorState)

end World

/-- The calls that a run is made of: turns of the main loop, events of the board
support package, and every public method that can change the charger. -/
inductive Action where
  | startMainThread
  | tick
  | processEvent (event : BoardEvent) (ppAmpacity : ℚ)
  | authorize (a : Bool) (userid : String) (pnc : Bool)
  | deAuthorize
  | pauseCharging
  | resumeCharging
  | pauseChargingWaitForPower
  | resumeChargingPowerAvailable
  | evseReplug
  | cancelTransaction (request : StopTransactionRequest)
  | disable
  | enable
  | setFaulted
  | restart
  | setup (config : World.Setup)
  | setMaxCurrentUntil (ampere : ℚ) (validUntil : ℤ)
  | setMaxCurrent (ampere : ℚ)
  | setCurrentDrawnByVehicle (l1 l2 l3 : ℚ)
  | requestErrorSequence
  | setMatchingStarted (m : Bool)
  | notifyCurrentDemandStarted
  | informNewEvseMaxHlcLimits (limits : DCEVSEMaximumLimits)
  | switchThreePhasesWhileCharging (n : Bool)
  | forceUnlock
  deriving DecidableEq, Repr

/-- A call and the instant at which it is made. -/
structure Call where
  now : ℤ
  action : Action
  deriving DecidableEq, Repr

namespace World

/-- Perform one call. -/
def call (w : World) (c : Call) : World :=
  match c.action with
  | .startMainThread => w.startMainThread
  | .tick => w.tick c.now
  | .processEvent event ppAmpacity => w.processEvent c.now ppAmpacity event
  | .authorize a userid pnc => w.authorize a userid pnc
  | .deAuthorize => w.deAuthorize.2
  | .pauseCharging => w.pauseCharging.2
  | .resumeCharging => w.resumeCharging.2
  | .pauseChargingWaitForPower => w.pauseChargingWaitForPower.2
  | .resumeChargingPowerAvailable => (w.resumeChargingPowerAvailable c.now).2
  | .evseReplug => w.evseReplug.2
  | .cancelTransaction request => (w.cancelTransaction request).2
  | .disable => w.disable.2
  | .enable => w.enable.2
  | .setFaulted => w.setFaulted
  | .restart => w.restart.2
  | .setup config => w.setup config
  | .setMaxCurrentUntil ampere validUntil => (w.setMaxCurrentUntil c.now ampere validUntil).2
  | .setMaxCurrent ampere => (w.setMaxCurrent c.now ampere).2
  | .setCurrentDrawnByVehicle l1 l2 l3 => w.setCurrentDrawnByVehicle l1 l2 l3
  | .requestErrorSequence => w.requestErrorSequence
  | .setMatchingStarted m => w.setMatchingStarted m
  | .notifyCurrentDemandStarted => w.notifyCurrentDemandStarted
  | .informNewEvseMaxHlcLimits limits => w.informNewEvseMaxHlcLimits limits
  | .switchThreePhasesWhileCharging n => (w.switchThreePhasesWhileCharging n).2
  | .forceUnlock => w.forceUnlock

/-- The constructor `Charger::Charger`. Member variables that it leaves alone keep
the arbitrary values found in `memory`, unless the class gives them a default. -/
def create (memory : Charger) (ppAmpacity : ℚ) : World :=
  emit (.callEnable false) {
    charger := { memory with
      maxCurrent := 6
      maxCurrentValidUntil := 0
      maxCurrentCable := ppAmpacity
      authorized := false
      updatePwmLastDc := 0
      currentState := .disabled
      lastState := .disabled
      errorState := .internal
      currentStateStarted := 0
      currentDrawnByVehicle := (0, 0, 0)
      lastOverCurrentEvent := 0
      tStepEFReturnState := .faulted
      tStepX1ReturnState := .faulted
      matchingStarted := false
      transactionActive := false
      sessionActive := false
      stopTransactionIdTag := ""
      authTag := ""
      chargeMode := .ac
      hlcUse5percentCurrentSession := false
      lastPwmUpdate := 0 }
    log := [] }

/-- A run of a newly constructed charger over a list of calls. -/
def run (memory : Charger) (ppAmpacity : ℚ) (calls : List Call) : World :=
  Machine.run call (create memory ppAmpacity) calls

end World
end EverestCore
