import EverestCore.Charger.Basic
import EverestCore.Energy.Basic

/-! Where the limits of a request come from. An energy node joins external
limits with its own fuse, and an EVSE joins them with its hardware. Both write
the limit that they add on the root side only. -/
namespace EverestCore.Energy

/-- The configuration of an energy node. -/
structure EnergyNodeConfig where
  fuseLimitA : ℚ
  phaseCount : ℤ
  deriving DecidableEq, Repr

/-- `energyImpl::get_local_schedule`, at the full hour that it reads. -/
def getLocalSchedule (config : EnergyNodeConfig) (hour : ℤ) : ScheduleReqEntry where
  timestamp := hour
  limitsToRoot := { acMaxPhaseCount := config.phaseCount, acMaxCurrentA := config.fuseLimitA }
  limitsToLeaves := { acMaxPhaseCount := config.phaseCount, acMaxCurrentA := config.fuseLimitA }

/-- A value that is absent or too large is replaced by the bound. -/
def boundOrSet {α : Type*} [LT α] [DecidableLT α] (bound : α) : Option α → Option α
  | none => some bound
  | some value => if value > bound then some bound else some value

/-- Own limits are put on the root side of an entry. -/
def limitRootSide (maxCurrent : ℚ) (maxPhaseCount : ℤ) (e : ScheduleReqEntry) :
    ScheduleReqEntry :=
  { e with limitsToRoot := { e.limitsToRoot with
      acMaxCurrentA := boundOrSet maxCurrent e.limitsToRoot.acMaxCurrentA
      acMaxPhaseCount := boundOrSet maxPhaseCount e.limitsToRoot.acMaxPhaseCount } }

/-- External limits for one or both directions. -/
structure ExternalLimits where
  scheduleImport : Option (List ScheduleReqEntry) := none
  scheduleExport : Option (List ScheduleReqEntry) := none
  deriving DecidableEq, Repr

/-- One direction of `set_external_limits`: limits that are not given leave the
schedule as it is, and an empty schedule is replaced by that of the fuse. -/
def externalSchedule (config : EnergyNodeConfig) (hour : ℤ)
    (current external : Option (List ScheduleReqEntry)) : Option (List ScheduleReqEntry) :=
  match external with
  | none => current
  | some [] => some [getLocalSchedule config hour]
  | some entries => some (entries.map (limitRootSide config.fuseLimitA config.phaseCount))

/-- `energyImpl::set_external_limits` of an energy node. -/
def setExternalLimits (config : EnergyNodeConfig) (hour : ℤ) (l : ExternalLimits)
    (node : RequestNode) : RequestNode :=
  { node with
    scheduleImport := externalSchedule config hour node.scheduleImport l.scheduleImport
    scheduleExport := externalSchedule config hour node.scheduleExport l.scheduleExport }

/-- What the hardware of an EVSE can do in one direction. -/
structure HardwareCapabilities where
  maxCurrentA : ℚ
  minCurrentA : ℚ
  maxPhaseCount : ℤ
  minPhaseCount : ℤ
  supportsChangingPhasesDuringCharging : Bool
  deriving DecidableEq, Repr

/-- What the publish loop of an EVSE makes of an entry while it needs energy. In
DC mode the current is not limited on the leaf side. -/
def applyHardwareLimits (caps : HardwareCapabilities) (isDc : Bool) (e : ScheduleReqEntry) :
    ScheduleReqEntry :=
  let e := limitRootSide caps.maxCurrentA caps.maxPhaseCount e
  let e := { e with limitsToRoot := { e.limitsToRoot with
    acMinPhaseCount := caps.minPhaseCount
    acMinCurrentA := caps.minCurrentA
    acSupportsChangingPhasesDuringCharging := caps.supportsChangingPhasesDuringCharging } }
  if isDc then { e with limitsToLeaves := { e.limitsToLeaves with acMaxCurrentA := none } } else e

/-- `clear_import_request_schedule` and its counterpart for the other direction:
only the hardware is left. -/
def clearRequestSchedule (caps : HardwareCapabilities) (efficiency : Option ℚ) (hour : ℤ) :
    List ScheduleReqEntry :=
  [{ timestamp := hour
     limitsToRoot := {
      acMaxPhaseCount := caps.maxPhaseCount
      acMinPhaseCount := caps.minPhaseCount
      acMaxCurrentA := caps.maxCurrentA
      acMinCurrentA := caps.minCurrentA
      acSupportsChangingPhasesDuringCharging := caps.supportsChangingPhasesDuringCharging }
     conversionEfficiency := efficiency }]

/-- The states of the charger in which an EVSE asks for energy. -/
def needsEnergy (state : EvseState) : Bool :=
  state ∈ [.charging, .prepareCharging, .waitingForEnergy, .waitingForAuthentication]

/-- One direction of the publish loop of an EVSE. While no energy is needed, the
limit on the leaf side is zero. -/
def publishedSchedule (caps : HardwareCapabilities) (efficiency : Option ℚ) (isDc : Bool)
    (hour : ℤ) (state : EvseState) (localLimits : Option (List ScheduleReqEntry))
    (current : List ScheduleReqEntry) : List ScheduleReqEntry :=
  let current := current.modifyHead fun e => { e with timestamp := hour }
  if needsEnergy state then
    let current := match localLimits with
      | none => current
      | some [] => clearRequestSchedule caps efficiency hour
      | some entries => entries
    current.map (applyHardwareLimits caps isDc)
  else
    (clearRequestSchedule caps efficiency hour).modifyHead fun e =>
      { e with limitsToLeaves :=
          if isDc then { e.limitsToLeaves with totalPowerW := some 0 }
          else { e.limitsToLeaves with acMaxCurrentA := some 0 } }

end EverestCore.Energy
