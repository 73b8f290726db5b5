import Mathlib.Data.Rat.Defs
import Mathlib.Algebra.Order.Ring.Rat

/-! Data of the high-level charging logic: the member variables of the charger,
the commands and signals it sends, and the record of what it has sent so far.
Currents, powers and duty cycles are exact rationals; instants are counts of
milliseconds. -/
namespace EverestCore

inductive EvseState where
  | disabled
  | idle
  | waitingForAuthentication
  | prepareCharging
  | waitingForEnergy
  | charging
  | chargingPausedEV
  | chargingPausedEVSE
  | stoppingCharging
  | finished
  | error
  | faulted
  | tStepEF
  | tStepX1
  | replug
  deriving DecidableEq, Repr

/-- Events reported by the board support package. -/
inductive BoardEvent where
  | carPluggedIn
  | carRequestedPower
  | powerOn
  | powerOff
  | carRequestedStopPower
  | carUnplugged
  | errorE
  | errorDF
  | errorRelais
  | errorRCD
  | errorVentilationNotAvailable
  | errorOverCurrent
  | efToBCD
  | bcdToEF
  | permanentFault
  | evseReplugStarted
  | evseReplugFinished
  deriving DecidableEq, Repr

inductive ControlPilotEvent where
  | carPluggedIn
  | carRequestedPower
  | powerOn
  | powerOff
  | carRequestedStopPower
  | carUnplugged
  | errorE
  | errorDF
  | errorRelais
  | errorRCD
  | errorVentilationNotAvailable
  | errorOverCurrent
  | efToBCD
  | bcdToEF
  | permanentFault
  | evseReplugStarted
  | evseReplugFinished
  | invalid
  deriving DecidableEq, Repr

/-- Events of the charging session that other modules subscribe to. -/
inductive SessionEvent where
  | enabled
  | disabled
  | sessionStarted
  | authRequired
  | transactionStarted
  | prepareCharging
  | chargingStarted
  | chargingPausedEV
  | chargingPausedEVSE
  | waitingForEnergy
  | chargingResumed
  | stoppingCharging
  | chargingFinished
  | transactionFinished
  | sessionFinished
  | error
  | allErrorsCleared
  | permanentFault
  | reservationStart
  | reservationEnd
  | replugStarted
  | replugFinished
  deriving DecidableEq, Repr

inductive ChargerError where
  | car
  | carDiodeFault
  | relais
  | rcd
  | ventilationNotAvailable
  | overCurrent
  | internal
  | slac
  | hlc
  deriving DecidableEq, Repr

inductive StopTransactionReason where
  | emergencyStop
  | evDisconnected
  | hardReset
  | localStop
  | other
  | powerLoss
  | reboot
  | remote
  | softReset
  | unlockCommand
  | deAuthorized
  deriving DecidableEq, Repr

inductive StartSessionReason where
  | evConnected
  | authorized
  deriving DecidableEq, Repr

structure StopTransactionRequest where
  reason : StopTransactionReason
  idTag : Option String
  deriving DecidableEq, Repr

inductive ChargeMode where
  | ac
  | dc
  deriving DecidableEq, Repr

inductive ConnectorType where
  | iec62196Type2Cable
  | iec62196Type2Socket
  deriving DecidableEq, Repr

structure DCEVSEMaximumLimits where
  evseMaximumCurrentLimit : ℚ
  evseMaximumPowerLimit : ℚ
  evseMaximumVoltageLimit : ℚ
  deriving DecidableEq, Repr

/-- The member variables of the charger, apart from its mutexes, its thread and
its signals. -/
structure Charger where
  connectorType : ConnectorType
  maxCurrent : ℚ
  maxCurrentValidUntil : ℤ
  maxCurrentCable : ℚ
  transactionActive : Bool
  sessionActive : Bool
  stopTransactionIdTag : String
  lastStopTransactionReason : StopTransactionReason
  lastStartSessionReason : StartSessionReason
  currentState : EvseState
  lastState : EvseState
  errorState : ChargerError
  currentStateStarted : ℤ
  currentDrawnByVehicle : ℚ × ℚ × ℚ
  overCurrent : Bool
  lastOverCurrentEvent : ℤ
  tStepEFReturnState : EvseState
  tStepEFReturnPWM : ℚ
  tStepX1ReturnState : EvseState
  tStepX1ReturnPWM : ℚ
  matchingStarted : Bool
  authorized : Bool
  authorizedPnc : Bool
  authTag : String
  chargeMode : ChargeMode
  acHlcEnabled : Bool
  acHlcEnabledCurrentSession : Bool
  acHlcUse5percent : Bool
  hlcUse5percentCurrentSession : Bool
  acEnforceHlc : Bool
  acWithSocTimeout : Bool
  acWithSocTimer : ℤ
  lastPwmUpdate : ℤ
  updatePwmLastDc : ℚ
  currentEvseMaxLimits : DCEVSEMaximumLimits
  deriving DecidableEq, Repr

/-- Everything the charger sends: commands to the board support package and
signals to the modules around it. -/
inductive Output where
  | signalEvent (event : SessionEvent)
  | signalState (state : EvseState)
  | signalError (error : ChargerError)
  | signalMaxCurrent (ampere : ℚ)
  | signalACWithSoCTimeout
  | signalDCSupplyOff
  | callEnable (on : Bool)
  | callAllowPowerOn (allow : Bool)
  | callPwmOn (dutyCycle : ℚ)
  | callPwmOff
  | callPwmF
  | callSetup (threePhases hasVentilation : Bool) (countryCode : String) (rcdEnabled : Bool)
  | callSwitchThreePhasesWhileCharging (threePhases : Bool)
  | callEvseReplug (milliseconds : ℤ)
  | callForceUnlock
  deriving DecidableEq, Repr

/-- One output, with the member variables as they stand when it is sent. -/
structure Emission where
  output : Output
  charger : Charger
  deriving DecidableEq, Repr

/-- The charger and all it has sent, the oldest output first. -/
structure World where
  charger : Charger
  log : List Emission
  deriving DecidableEq, Repr

namespace World

/-- Send one output. -/
def emit (output : Output) (w : World) : World :=
  { w with log := w.log ++ [⟨output, w.charger⟩] }

/-- Assign member variables. -/
def update (assign : Charger → Charger) (w : World) : World :=
  { w with charger := assign w.charger }

@[simp] theorem emit_charger (output : Output) (w : World) :
    (w.emit output).charger = w.charger := rfl

@[simp] theorem emit_log (output : Output) (w : World) :
    (w.emit output).log = w.log ++ [⟨output, w.charger⟩] := rfl

@[simp] theorem update_charger (assign : Charger → Charger) (w : World) :
    (w.update assign).charger = assign w.charger := rfl

@[simp] theorem update_log (assign : Charger → Charger) (w : World) :
    (w.update assign).log = w.log := rfl

/-- The session events sent so far. -/
def events (w : World) : List SessionEvent :=
  w.log.filterMap fun emission =>
    match emission.output with
    | .signalEvent event => some event
    | _ => none

/-- The last power permission sent to the board support package, if any. -/
def powerPermission (log : List Emission) : Option Bool :=
  (log.filterMap fun emission =>
    match emission.output with
    | .callAllowPowerOn allow => some allow
    | _ => none).getLast?

end World
end EverestCore
