import EverestCore.Charger.Basic

/-! The methods of the charger, each as a function on the charger and its
record of outputs. A method that reads the clock takes the instant it reads;
one that asks the board support package for a value takes the answer. -/
namespace EverestCore

/-- `CHARGER_ABSOLUTE_MAX_CURRENT`. -/
def chargerAbsoluteMaxCurrent : ℚ := 80

/-- The soft over-current timeout in milliseconds. -/
def softOverCurrentTimeout : ℤ := 7000

/-- Four seconds according to table 3 of ISO15118-3. -/
def tStepEF : ℤ := 4000

/-- Three seconds according to IEC61851-1. -/
def tStepX1 : ℤ := 3000

def pwm5Percent : ℚ := 5 / 100

def tReplugMs : ℤ := 4000

/-- `Charger::ampereToDutyCycle`. -/
def ampereToDutyCycle (ampere : ℚ) : ℚ :=
  if ampere < 59 / 10 then 1
  else if ampere ≤ 61 / 10 then 1 / 10
  else if ampere < 525 / 10 then
    (if ampere > 51 then 51 else ampere) / (6 / 10) / 100
  else if ampere ≤ 80 then (ampere / (25 / 10) + 64) / 100
  else if ampere ≤ 801 / 10 then 97 / 100
  else 1

def stringToControlPilotEvent : BoardEvent → ControlPilotEvent
  | .carPluggedIn => .carPluggedIn
  | .carRequestedPower => .carRequestedPower
  | .powerOn => .powerOn
  | .powerOff => .powerOff
  | .carRequestedStopPower => .carRequestedStopPower
  | .carUnplugged => .carUnplugged
  | .errorE => .errorE
  | .errorDF => .errorDF
  | .errorRelais => .errorRelais
  | .errorRCD => .errorRCD
  | .errorVentilationNotAvailable => .errorVentilationNotAvailable
  | .errorOverCurrent => .errorOverCurrent
  | .bcdToEF => .bcdToEF
  | .efToBCD => .efToBCD
  | .permanentFault => .permanentFault
  | .evseReplugStarted => .evseReplugStarted
  | .evseReplugFinished => .evseReplugFinished

namespace World

def signalEvent (event : SessionEvent) (w : World) : World := w.emit (.signalEvent event)

/-- `currentState = state`. -/
def setState (state : EvseState) (w : World) : World :=
  w.update fun c => { c with currentState := state }

/-- Assign both the state and the reason for the error. -/
def setError (error : ChargerError) (w : World) : World :=
  w.update fun c => { c with currentState := .error, errorState := error }

def updatePwmNow (now : ℤ) (dc : ℚ) (w : World) : World :=
  ((w.update fun c => { c with updatePwmLastDc := dc }).emit (.callPwmOn dc)).update
    fun c => { c with lastPwmUpdate := now }

def updatePwmNowIfChanged (now : ℤ) (dc : ℚ) (w : World) : World :=
  if w.charger.updatePwmLastDc ≠ dc then w.updatePwmNow now dc else w

def updatePwmMaxEvery5seconds (now : ℤ) (dc : ℚ) (w : World) : World :=
  if dc ≠ w.charger.updatePwmLastDc then
    if now - w.charger.lastPwmUpdate ≥ 5000 then w.updatePwmNow now dc else w
  else w

def pwmOff (w : World) : World := w.emit .callPwmOff

def pwmF (w : World) : World := w.emit .callPwmF

/-- `Charger::powerAvailable`. A limit that has run out is replaced by zero
before the answer is given. -/
def powerAvailable (now : ℤ) (w : World) : Bool × World :=
  let w := if w.charger.maxCurrentValidUntil < now then
      (w.update fun c => { c with maxCurrent := 0 }).emit (.signalMaxCurrent 0)
    else w
  (decide (w.charger.maxCurrent > 59 / 10), w)

def startSession (authfirst : Bool) (w : World) : World :=
  (w.update fun c => { c with
    sessionActive := true
    authorized := false
    lastStartSessionReason := if authfirst then .authorized else .evConnected }).signalEvent
      .sessionStarted

def stopSession (w : World) : World :=
  (w.update fun c => { c with sessionActive := false, authorized := false }).signalEvent
    .sessionFinished

def startTransaction (w : World) : World :=
  (w.update fun c => { c with
    stopTransactionIdTag := "", transactionActive := true }).signalEvent .transactionStarted

def stopTransaction (w : World) : World :=
  ((w.update fun c => { c with
    transactionActive := false
    lastStopTransactionReason := .evDisconnected }).signalEvent .chargingFinished).signalEvent
      .transactionFinished

/-- `Charger::Authorize`. -/
def authorize (a : Bool) (userid : String) (pnc : Bool) (w : World) : World :=
  if a then
    let w := if !w.charger.sessionActive then w.startSession true else w
    w.update fun c => { c with authorized := true, authorizedPnc := pnc, authTag := userid }
  else
    let w := if w.charger.sessionActive then w.stopSession else w
    w.update fun c => { c with authorized := false }

/-- `Charger::DeAuthorize`. Authorization is only removed in states that do not
make use of it. -/
def deAuthorize (w : World) : Bool × World :=
  if w.charger.sessionActive ∧
      w.charger.currentState ∈ [.disabled, .idle, .waitingForAuthentication, .error, .faulted] then
    if !w.charger.authorized then (false, w)
    else (true, (w.update fun c => { c with authorized := false }).stopSession)
  else (false, w)

def authorizedEIM (c : Charger) : Bool := c.authorized && !c.authorizedPnc

def authorizedPnC (c : Charger) : Bool := c.authorized && c.authorizedPnc

def pauseCharging (w : World) : Bool × World :=
  if w.charger.currentState = .charging then (true, w.setState .chargingPausedEVSE) else (false, w)

def resumeCharging (w : World) : Bool × World :=
  if w.charger.transactionActive ∧ w.charger.currentState = .chargingPausedEVSE then
    (true, w.setState .waitingForEnergy)
  else (false, w)

def pauseChargingWaitForPower (w : World) : Bool × World :=
  if w.charger.currentState = .charging then (true, w.setState .waitingForEnergy) else (false, w)

def resumeChargingPowerAvailable (now : ℤ) (w : World) : Bool × World :=
  if w.charger.transactionActive ∧ w.charger.currentState = .waitingForEnergy then
    let (available, w) := w.powerAvailable now
    if available then (true, w.setState .charging) else (false, w)
  else (false, w)

def evseReplug (w : World) : Bool × World := (true, w.emit (.callEvseReplug tReplugMs))

def cancelTransaction (request : StopTransactionRequest) (w : World) : Bool × World :=
  if w.charger.transactionActive then
    let w := match w.charger.chargeMode with
      | .dc => w.setState .stoppingCharging
      | .ac => w.setState .chargingPausedEVSE
    let w := w.update fun c => { c with
      transactionActive := false
      lastStopTransactionReason := request.reason
      stopTransactionIdTag := request.idTag.getD c.stopTransactionIdTag }
    (true, (w.signalEvent .chargingFinished).signalEvent .transactionFinished)
  else (false, w)

def disable (w : World) : Bool × World :=
  (true, (w.setState .disabled).signalEvent .disabled)

def enable (w : World) : Bool × World :=
  if w.charger.currentState = .disabled then (true, (w.setState .idle).signalEvent .enabled)
  else (false, w)

def setFaulted (w : World) : World := (w.setState .faulted).signalEvent .permanentFault

def restart (w : World) : Bool × World :=
  if w.charger.currentState = .finished then (true, w.setState .idle) else (false, w)

/-- The configuration handed to `Charger::setup`. -/
structure Setup where
  threePhases : Bool
  hasVentilation : Bool
  countryCode : String
  rcdEnabled : Bool
  chargeMode : ChargeMode
  acHlcEnabled : Bool
  acHlcUse5percent : Bool
  acEnforceHlc : Bool
  acWithSocTimeout : Bool
  deriving DecidableEq, Repr

def setup (config : Setup) (w : World) : World :=
  (w.emit (.callSetup config.threePhases config.hasVentilation config.countryCode
    config.rcdEnabled)).update fun c => { c with
      chargeMode := config.chargeMode
      acHlcEnabledCurrentSession := config.acHlcEnabled
      acHlcEnabled := config.acHlcEnabled
      acHlcUse5percent := config.acHlcUse5percent
      acEnforceHlc := config.acEnforceHlc
      acWithSocTimeout := config.acWithSocTimeout
      acWithSocTimer := 3600000 }

/-- The cable rating only counts for a type 2 socket. -/
def limitToCable (c : Charger) (ampere : ℚ) : ℚ :=
  if c.connectorType = .iec62196Type2Socket ∧ c.maxCurrentCable < ampere then c.maxCurrentCable
  else ampere

/-- `Charger::setMaxCurrent` with a new end of validity. -/
def setMaxCurrentUntil (now : ℤ) (ampere : ℚ) (validUntil : ℤ) (w : World) : Bool × World :=
  if 0 ≤ ampere ∧ ampere ≤ chargerAbsoluteMaxCurrent then
    let ampere := limitToCable w.charger ampere
    if validUntil > now then
      (true, (w.update fun c => { c with
        maxCurrent := ampere, maxCurrentValidUntil := validUntil }).emit (.signalMaxCurrent ampere))
    else (false, w)
  else (false, w)

/-- `Charger::setMaxCurrent` that keeps the end of validity. -/
def setMaxCurrent (now : ℤ) (ampere : ℚ) (w : World) : Bool × World :=
  if 0 ≤ ampere ∧ ampere ≤ chargerAbsoluteMaxCurrent then
    let ampere := limitToCable w.charger ampere
    if w.charger.maxCurrentValidUntil > now then
      (true, (w.update fun c => { c with maxCurrent := ampere }).emit (.signalMaxCurrent ampere))
    else (false, w)
  else (false, w)

def setCurrentDrawnByVehicle (l1 l2 l3 : ℚ) (w : World) : World :=
  w.update fun c => { c with currentDrawnByVehicle := (l1, l2, l3) }

/-- `Charger::checkSoftOverCurrent`, with ten percent of tolerance. -/
def checkSoftOverCurrent (now : ℤ) (w : World) : World :=
  let limit := w.charger.maxCurrent * (11 / 10)
  let drawn := w.charger.currentDrawnByVehicle
  let w :=
    if drawn.1 > limit ∨ drawn.2.1 > limit ∨ drawn.2.2 > limit then
      if !w.charger.overCurrent then
        w.update fun c => { c with overCurrent := true, lastOverCurrentEvent := now }
      else w
    else w.update fun c => { c with overCurrent := false }
  if w.charger.overCurrent ∧ now - w.charger.lastOverCurrentEvent ≥ softOverCurrentTimeout then
    w.setError .overCurrent
  else w

def requestErrorSequence (w : World) : World :=
  if w.charger.currentState = .waitingForAuthentication then
    w.update fun c => { c with
      tStepEFReturnState := .waitingForAuthentication
      currentState := .tStepEF
      tStepEFReturnPWM :=
        if c.acHlcEnabledCurrentSession && c.hlcUse5percentCurrentSession then pwm5Percent else 0 }
  else w

def setMatchingStarted (m : Bool) (w : World) : World :=
  w.update fun c => { c with matchingStarted := m }

def notifyCurrentDemandStarted (w : World) : World :=
  if w.charger.currentState = .prepareCharging then
    (w.signalEvent .chargingStarted).setState .charging
  else w

def informNewEvseMaxHlcLimits (limits : DCEVSEMaximumLimits) (w : World) : World :=
  w.update fun c => { c with currentEvseMaxLimits := limits }

def switchThreePhasesWhileCharging (n : Bool) (w : World) : Bool × World :=
  (false, w.emit (.callSwitchThreePhasesWhileCharging n))

def forceUnlock (w : World) : World := w.emit .callForceUnlock

/-- `Charger::processCPEventsIndependent`. -/
def processCPEventsIndependent (cpEvent : ControlPilotEvent) (w : World) : World :=
  match cpEvent with
  | .evseReplugStarted => w.setState .replug
  | .evseReplugFinished => w.setState .waitingForAuthentication
  | .carUnplugged =>
      let w := if w.charger.currentState = .error then w.signalEvent .allErrorsCleared else w
      match w.charger.chargeMode with
      | .ac => w.setState .stoppingCharging
      | .dc => w.setState .finished
  | .errorE => w.setError .car
  | .errorDF => w.setError .carDiodeFault
  | .errorRelais => w.setError .relais
  | .errorRCD => w.setError .rcd
  | .errorVentilationNotAvailable => w.setError .ventilationNotAvailable
  | .errorOverCurrent => w.setError .overCurrent
  | _ => w

/-- `Charger::processCPEventsState`. In AC mode the start of charging is
signalled before the event is looked at. -/
def processCPEventsState (now : ℤ) (ppAmpacity : ℚ) (cpEvent : ControlPilotEvent)
    (w : World) : World :=
  match w.charger.currentState with
  | .idle =>
      if cpEvent = .carPluggedIn then
        (w.update fun c => { c with maxCurrentCable := ppAmpacity }).setState
          .waitingForAuthentication
      else w
  | .prepareCharging =>
      match w.charger.chargeMode with
      | .ac =>
          let w := w.signalEvent .chargingStarted
          if cpEvent = .carRequestedPower then
            let (available, w) := w.powerAvailable now
            let w := w.setState .charging
            if available then w else (w.pauseChargingWaitForPower).2
          else w
      | .dc => if cpEvent = .carRequestedStopPower then w.setState .stoppingCharging else w
  | .charging => if cpEvent = .carRequestedStopPower then w.setState .chargingPausedEV else w
  | .chargingPausedEV => if cpEvent = .carRequestedPower then w.setState .charging else w
  | _ => w

/-- `Charger::processEvent`. `ppAmpacity` is what the board support package
answers if it is asked for the rating of the plugged cable. -/
def processEvent (now : ℤ) (ppAmpacity : ℚ) (event : BoardEvent) (w : World) : World :=
  let cpEvent := stringToControlPilotEvent event
  (w.processCPEventsIndependent cpEvent).processCPEventsState now ppAmpacity cpEvent

end World
end EverestCore
