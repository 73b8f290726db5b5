import EverestCore.EvseManager.EnforceLimits
import EverestCore.Machine.PartialRuns

/-! The DC power supply of an EVSE, and the direction in which it is driven. The direction
is remembered where a target is set, but not where the supply is switched on. -/
namespace EverestCore.EvseManager
open Energy Machine

/-- `types::power_supply_DC::Mode`, as far as it is sent. -/
inductive SupplyMode where
  | off
  | exports
  | imports
  deriving DecidableEq, Repr

/-- The calls to the power supply. -/
inductive SupplyCommand where
  | setMode (mode : SupplyMode)
  | setImportVoltageCurrent (voltage current : ℚ)
  | setExportVoltageCurrent (voltage current : ℚ)
  deriving DecidableEq, Repr

/-- The mode that a call sets. -/
def SupplyCommand.mode? : SupplyCommand → Option SupplyMode
  | setMode mode => some mode
  | _ => none

/-- Whether a call sets the values that hold while power is fed back to the grid. -/
def SupplyCommand.toGrid? : SupplyCommand → Option Bool
  | setImportVoltageCurrent _ _ => some true
  | setExportVoltageCurrent _ _ => some false
  | setMode _ => none

/-- What the module keeps about its power supply, and all that was sent to it. -/
structure SupplyState where
  limits : LimitState := {}
  latestTargetVoltage : ℚ := 0
  latestTargetCurrent : ℚ := 0
  contactorOpen : Bool := false
  powersupplyDcIsOn : Bool := false
  lastIsActuallyExportingToGrid : Bool := false
  commands : List SupplyCommand := []
  deriving DecidableEq, Repr

namespace SupplyState

def send (s : SupplyState) (command : SupplyCommand) : SupplyState :=
  { s with commands := s.commands ++ [command] }

/-- The mode that was sent last. -/
def lastMode (s : SupplyState) : Option SupplyMode := (s.commands.filterMap (·.mode?)).getLast?

/-- The direction for which values were set last. -/
def lastSet (s : SupplyState) : Option Bool := (s.commands.filterMap (·.toGrid?)).getLast?

/-- The new target is remembered. -/
def storeTarget (s : SupplyState) (voltage current : ℚ) : SupplyState :=
  { s with latestTargetVoltage := voltage, latestTargetCurrent := current }

/-- `powersupply_DC_on`. It always switches on in export mode. -/
def powersupplyDcOn (s : SupplyState) : SupplyState :=
  if s.powersupplyDcIsOn then s
  else { s.send (.setMode .exports) with powersupplyDcIsOn := true }

def powersupplyDcOff (s : SupplyState) : SupplyState :=
  { s.send (.setMode .off) with powersupplyDcIsOn := false }

end SupplyState

/-- The current, within the limits of one direction. -/
def limitCurrent (maxCurrent minCurrent maxPower : Option ℚ) (voltage current : ℚ) : ℚ :=
  let current := match maxCurrent with
    | some maxCurrent => if current > maxCurrent then maxCurrent else current
    | none => current
  let current := match minCurrent with
    | some minCurrent => if current < minCurrent then minCurrent else current
    | none => current
  match maxPower with
  | some maxPower => if voltage * current > maxPower then maxPower / voltage else current
  | none => current

namespace PowerSupplyCapabilities

variable (caps : PowerSupplyCapabilities) (toGrid : Bool)

/-- Whether a voltage is within the limits of a direction. There is no answer if the
supply tells the lower limit of the import only: reading the upper one throws. -/
def accepts (voltage : ℚ) : Option Bool :=
  if toGrid then
    match caps.minImportVoltageV with
    | some minVoltage =>
        if voltage ≥ minVoltage then
          caps.maxImportVoltageV.map fun maxVoltage => voltage ≤ maxVoltage
        else some false
    | none => some false
  else some (voltage ≥ caps.minExportVoltageV ∧ voltage ≤ caps.maxExportVoltageV)

/-- The call that sets a voltage and a current in a direction. -/
def setVoltageCurrent (voltage current : ℚ) : SupplyCommand :=
  if toGrid then
    .setImportVoltageCurrent voltage (limitCurrent caps.maxImportCurrentA caps.minImportCurrentA
      caps.maxImportPowerW voltage current)
  else
    .setExportVoltageCurrent voltage (limitCurrent (some caps.maxExportCurrentA)
      (some caps.minExportCurrentA) (some caps.maxExportPowerW) voltage current)

end PowerSupplyCapabilities

section Handlers

variable (config : EvseConfig)

/-- The power supply is to feed back to the grid. -/
def feedsBack (s : SupplyState) : Bool :=
  config.hackAllowBptWithIso2 && s.limits.isActuallyExportingToGrid

/-- The beginning of both branches of `powersupply_DC_set`: a new direction is sent. -/
def turnDirection (s : SupplyState) : SupplyState :=
  let turned :=
    if feedsBack config s then
      if s.lastIsActuallyExportingToGrid then s else s.send (.setMode .imports)
    else if config.hackAllowBptWithIso2 ∧ s.lastIsActuallyExportingToGrid then
      s.send (.setMode .exports)
    else s
  { turned with lastIsActuallyExportingToGrid := s.limits.isActuallyExportingToGrid }

/-- `powersupply_DC_set`. -/
def powersupplyDcSet (voltage current : ℚ) (s : SupplyState) : Option (Bool × SupplyState) := do
  let turned := turnDirection config s
  let caps := config.powersupplyCapabilities
  let accepted ← caps.accepts (feedsBack config s) voltage
  if accepted then
    return (true, turned.send (caps.setVoltageCurrent (feedsBack config s) voltage current))
  else return (false, turned)

/-- A request that is ignored for a car that asks for too little at first. -/
def isSkipped (voltage current : ℚ) : Prop := config.hackSkodaEnyaq ∧ (voltage < 300 ∨ current < 0)

instance (voltage current : ℚ) : Decidable (isSkipped config voltage current) :=
  inferInstanceAs (Decidable (_ ∧ _))

/-- The handler of `DC_EVTargetVoltageCurrent`. Whether the values were set does not
matter for the switching on. -/
def handleEvTarget (voltage current : ℚ) (s : SupplyState) : Option SupplyState :=
  if isSkipped config voltage current then some s
  else if voltage ≠ s.latestTargetVoltage ∨ current ≠ s.latestTargetCurrent then do
    let (_, set) ← powersupplyDcSet config voltage current (s.storeTarget voltage current)
    return if set.contactorOpen then set else set.powersupplyDcOn
  else some s

/-- The voltage to which the cable check goes back. -/
def cableCheckMinimum : ℚ :=
  let minVoltage :=
    if config.switchToMinimumVoltageAfterCableCheck then
      config.powersupplyCapabilities.minExportVoltageV
    else config.dcIsolationVoltageV
  if minVoltage < 60 then 60 else minVoltage

/-- The first step of the thread of the cable check, once it has waited for the
contactors. -/
def cableCheckStart (s : SupplyState) : Option SupplyState :=
  if s.contactorOpen then some s
  else do
    let (accepted, set) ← powersupplyDcSet config config.dcIsolationVoltageV 2 s
    return if accepted then set.powersupplyDcOn else set

end Handlers

/-- What happens to an EVSE for DC. The steps of the cable check may come at any time. -/
inductive SupplyInput where
  | enforceLimits (value : EnforcedLimits)
  | evTarget (voltage current : ℚ)
  | openContactor (b : Bool)
  | dcSupplyOff
  | currentDemandFinished
  | carPluggedIn
  | powerOn
  | powerOff
  | cableCheckStart
  | cableCheckTimeout
  | cableCheckMeasured
  deriving DecidableEq, Repr

def supplyStep (config : EvseConfig) (s : SupplyState) : SupplyInput → Option SupplyState
  | .enforceLimits value => do
      let (limits, _) ← handleEnforceLimits config s.latestTargetVoltage s.limits value
      return { s with limits := limits }
  | .evTarget voltage current => handleEvTarget config voltage current s
  | .openContactor b => some (if b then s.powersupplyDcOff else s)
  | .dcSupplyOff => some s.powersupplyDcOff
  | .currentDemandFinished => some s.powersupplyDcOff
  | .carPluggedIn => some (s.storeTarget 0 0)
  | .powerOn => some { s with contactorOpen := false }
  | .powerOff => some { s with contactorOpen := true }
  | .cableCheckStart => cableCheckStart config s
  | .cableCheckTimeout => some s.powersupplyDcOff
  | .cableCheckMeasured => (powersupplyDcSet config (cableCheckMinimum config) 2 s).map (·.2)

/-- The mode of a direction. -/
def directionMode (toGrid : Bool) : SupplyMode := if toGrid then .imports else .exports

namespace SupplyState

@[simp] theorem lastMode_send_setMode (s : SupplyState) (mode : SupplyMode) :
    (s.send (.setMode mode)).lastMode = some mode := by
  simp [lastMode, send, SupplyCommand.mode?]

@[simp] theorem lastSet_send_setMode (s : SupplyState) (mode : SupplyMode) :
    (s.send (.setMode mode)).lastSet = s.lastSet := by
  simp [lastSet, send, SupplyCommand.toGrid?]

section SetVoltageCurrent

variable (s : SupplyState) (caps : PowerSupplyCapabilities) (toGrid : Bool) (voltage current : ℚ)

@[simp] theorem lastMode_send_setVoltageCurrent :
    (s.send (caps.setVoltageCurrent toGrid voltage current)).lastMode = s.lastMode := by
  cases toGrid <;>
    simp [lastMode, send, SupplyCommand.mode?, PowerSupplyCapabilities.setVoltageCurrent]

@[simp] theorem lastSet_send_setVoltageCurrent :
    (s.send (caps.setVoltageCurrent toGrid voltage current)).lastSet = some toGrid := by
  cases toGrid <;>
    simp [lastSet, send, SupplyCommand.toGrid?, PowerSupplyCapabilities.setVoltageCurrent]

end SetVoltageCurrent

/-- Switching on sends the mode of export, unless the supply is known to be on. -/
theorem lastMode_powersupplyDcOn (s : SupplyState) :
    s.powersupplyDcOn.lastMode = if s.powersupplyDcIsOn then s.lastMode else some .exports := by
  unfold powersupplyDcOn
  split
  · rfl
  · exact s.lastMode_send_setMode .exports

/-- Switching on sets no voltage. -/
theorem lastSet_powersupplyDcOn (s : SupplyState) : s.powersupplyDcOn.lastSet = s.lastSet := by
  unfold powersupplyDcOn
  split
  · rfl
  · exact s.lastSet_send_setMode .exports

/-- Switching on leaves the limits as they are. -/
theorem limits_powersupplyDcOn (s : SupplyState) : s.powersupplyDcOn.limits = s.limits := by
  unfold powersupplyDcOn
  split <;> rfl

/-- Switching off always sends the mode off. -/
theorem lastMode_powersupplyDcOff (s : SupplyState) : s.powersupplyDcOff.lastMode = some .off :=
  s.lastMode_send_setMode .off

end SupplyState

/-- What is known of the power supply in all runs with the hack: it is in some direction
while it is on, and the import mode is never forgotten. -/
structure KnowsDirection (s : SupplyState) : Prop where
  directed : s.powersupplyDcIsOn = true → s.lastMode = some .exports ∨ s.lastMode = some .imports
  remembers : s.lastMode = some .imports → s.lastIsActuallyExportingToGrid = true

/-- Before anything has been sent no mode is remembered, and the supply is off. -/
theorem KnowsDirection.initial : KnowsDirection {} where
  directed hOn := nomatch hOn
  remembers hImports := nomatch hImports

/-- The mode is right after a turn and a switching on. Without feeding back that is so in
any case: then the remembered direction is the mode of a supply that is on. -/
theorem KnowsDirection.mode_iff {s : SupplyState} (h : KnowsDirection s) :
    (if s.powersupplyDcIsOn then
      if s.limits.isActuallyExportingToGrid = s.lastIsActuallyExportingToGrid then s.lastMode
      else some (directionMode s.limits.isActuallyExportingToGrid)
    else some .exports) = some (directionMode s.limits.isActuallyExportingToGrid) ↔
    (s.limits.isActuallyExportingToGrid = true → s.powersupplyDcIsOn = true ∧
      (s.lastIsActuallyExportingToGrid = true → s.lastMode = some .imports)) := by
  cases s.limits.isActuallyExportingToGrid with
  | false =>
      cases hOn : s.powersupplyDcIsOn with
      | false => simp [directionMode]
      | true =>
          cases hFlag : s.lastIsActuallyExportingToGrid with
          | true => simp
          | false =>
              have hExports : s.lastMode = some .exports := by
                rcases h.directed hOn with hExports | hImports
                · exact hExports
                · exact absurd (h.remembers hImports) (by simp [hFlag])
              simp [directionMode, hExports]
  | true =>
      cases s.powersupplyDcIsOn <;> cases s.lastIsActuallyExportingToGrid <;>
        simp [directionMode]

/-- Switching on keeps what is known of the direction. -/
theorem KnowsDirection.powersupplyDcOn {s : SupplyState} (h : KnowsDirection s) :
    KnowsDirection s.powersupplyDcOn := by
  unfold SupplyState.powersupplyDcOn
  split
  · exact h
  · have hMode := s.lastMode_send_setMode .exports
    exact ⟨fun _ => .inl hMode, fun hImports => nomatch hMode.symm.trans hImports⟩

/-- After switching off the mode is off, which the flags know. -/
theorem KnowsDirection.powersupplyDcOff (s : SupplyState) : KnowsDirection s.powersupplyDcOff where
  directed hOn := nomatch hOn
  remembers hImports := nomatch s.lastMode_powersupplyDcOff.symm.trans hImports

/-- Turning the direction sets no voltage. -/
theorem lastSet_turnDirection (config : EvseConfig) (s : SupplyState) :
    (turnDirection config s).lastSet = s.lastSet := by
  have hSets (turned : SupplyState) (flag : Bool) :
      { turned with lastIsActuallyExportingToGrid := flag }.lastSet = turned.lastSet := rfl
  unfold turnDirection
  rw [hSets]
  split_ifs <;> simp

/-- What `powersupply_DC_set` leaves behind, once the voltage was accepted or not. -/
def setOutcome (config : EvseConfig) (voltage current : ℚ) (s : SupplyState) (accepted : Bool) :
    SupplyState :=
  if accepted then
    (turnDirection config s).send
      (config.powersupplyCapabilities.setVoltageCurrent (feedsBack config s) voltage current)
  else turnDirection config s

/-- A target is set if the capabilities of its direction can be compared with it, and its outcome is
`setOutcome`. -/
theorem powersupplyDcSet_eq_map (config : EvseConfig) (voltage current : ℚ) (s : SupplyState) :
    powersupplyDcSet config voltage current s =
      (config.powersupplyCapabilities.accepts (feedsBack config s) voltage).map
        fun accepted => (accepted, setOutcome config voltage current s accepted) := by
  unfold powersupplyDcSet
  dsimp only
  cases config.powersupplyCapabilities.accepts (feedsBack config s) voltage with
  | none => rfl
  | some accepted => cases accepted <;> rfl

section SetOutcome

variable (config : EvseConfig) (voltage current : ℚ) (s : SupplyState) (accepted : Bool)

/-- A target leaves the limits, the contactor and whether the supply is on as they are, and the
direction of the limits is the one remembered after it. -/
theorem setOutcome_frame :
    (setOutcome config voltage current s accepted).limits = s.limits ∧
    (setOutcome config voltage current s accepted).powersupplyDcIsOn = s.powersupplyDcIsOn ∧
    (setOutcome config voltage current s accepted).contactorOpen = s.contactorOpen ∧
    (setOutcome config voltage current s accepted).lastIsActuallyExportingToGrid =
      s.limits.isActuallyExportingToGrid := by
  unfold setOutcome turnDirection
  dsimp only
  split_ifs <;> exact ⟨rfl, rfl, rfl, rfl⟩

/-- The mode after a target is the one that turning the direction sent. -/
theorem lastMode_setOutcome :
    (setOutcome config voltage current s accepted).lastMode =
      (turnDirection config s).lastMode := by
  cases accepted with
  | false => rfl
  | true => exact SupplyState.lastMode_send_setVoltageCurrent ..

/-- A target that is accepted is set in the direction of the last turn. -/
theorem lastSet_setOutcome :
    (setOutcome config voltage current s accepted).lastSet =
      if accepted then some (feedsBack config s) else s.lastSet := by
  cases accepted with
  | false => exact lastSet_turnDirection config s
  | true => exact SupplyState.lastSet_send_setVoltageCurrent ..

end SetOutcome

section Direction

variable {config : EvseConfig} (hHack : config.hackAllowBptWithIso2 = true)

include hHack

/-- A mode is sent if the direction is not the remembered one. -/
theorem lastMode_turnDirection (s : SupplyState) :
    (turnDirection config s).lastMode =
      if s.limits.isActuallyExportingToGrid = s.lastIsActuallyExportingToGrid then s.lastMode
      else some (directionMode s.limits.isActuallyExportingToGrid) := by
  have hModes (turned : SupplyState) (flag : Bool) :
      { turned with lastIsActuallyExportingToGrid := flag }.lastMode = turned.lastMode := rfl
  unfold turnDirection feedsBack
  rw [hModes]
  cases s.limits.isActuallyExportingToGrid <;> cases s.lastIsActuallyExportingToGrid <;>
    simp [hHack, directionMode]

/-- The direction is known also after values were set. -/
theorem KnowsDirection.setOutcome {s : SupplyState} (h : KnowsDirection s) (voltage current : ℚ)
    (accepted : Bool) : KnowsDirection (setOutcome config voltage current s accepted) := by
  have hMode := lastMode_setOutcome config voltage current s accepted
  obtain ⟨-, hOn, -, hFlag⟩ := setOutcome_frame config voltage current s accepted
  rw [lastMode_turnDirection hHack] at hMode
  split at hMode
  · next hSame =>
    constructor
    · rw [hMode, hOn]
      exact h.directed
    · rw [hMode, hFlag, hSame]
      exact h.remembers
  · constructor
    · intro _
      rw [hMode]
      cases s.limits.isActuallyExportingToGrid with
      | false => exact .inl rfl
      | true => exact .inr rfl
    · intro hImports
      rw [hFlag]
      cases hExporting : s.limits.isActuallyExportingToGrid with
      | false =>
          rw [hMode, hExporting] at hImports
          cases hImports
      | true => rfl

/-- Setting a target keeps what is known of the direction. -/
theorem KnowsDirection.powersupplyDcSet {voltage current : ℚ} {s set : SupplyState}
    {accepted : Bool} (h : KnowsDirection s)
    (hSet : powersupplyDcSet config voltage current s = some (accepted, set)) :
    KnowsDirection set := by
  rw [powersupplyDcSet_eq_map, Option.map_eq_some_iff] at hSet
  obtain ⟨_, -, hSet⟩ := hSet
  cases hSet
  exact h.setOutcome hHack voltage current accepted

/-- Every input keeps what is known of the direction. One case for each input. -/
theorem KnowsDirection.supplyStep {s next : SupplyState} {input : SupplyInput}
    (h : KnowsDirection s) (hStep : supplyStep config s input = some next) :
    KnowsDirection next := by
  cases input with
  | enforceLimits value =>
      obtain ⟨⟨limits, told⟩, -, hNext⟩ := Option.bind_eq_some_iff.mp hStep
      cases hNext
      exact ⟨h.directed, h.remembers⟩
  | evTarget voltage current =>
      change handleEvTarget config voltage current s = some next at hStep
      unfold handleEvTarget at hStep
      split_ifs at hStep with hSkipped hChanged
      · cases hStep
        exact h
      · obtain ⟨⟨accepted, set⟩, hSet, hNext⟩ := Option.bind_eq_some_iff.mp hStep
        have hStored : KnowsDirection (s.storeTarget voltage current) := ⟨h.directed, h.remembers⟩
        have hKnows := hStored.powersupplyDcSet hHack hSet
        cases hNext
        split
        · exact hKnows
        · exact hKnows.powersupplyDcOn
      · cases hStep
        exact h
  | openContactor b =>
      cases hStep
      cases b with
      | false => exact h
      | true => exact .powersupplyDcOff s
  | dcSupplyOff | currentDemandFinished | cableCheckTimeout =>
      cases hStep
      exact .powersupplyDcOff s
  | carPluggedIn | powerOn | powerOff =>
      cases hStep
      exact ⟨h.directed, h.remembers⟩
  | cableCheckStart =>
      change cableCheckStart config s = some next at hStep
      unfold cableCheckStart at hStep
      split at hStep
      · cases hStep
        exact h
      · obtain ⟨⟨accepted, set⟩, hSet, hNext⟩ := Option.bind_eq_some_iff.mp hStep
        have hKnows := h.powersupplyDcSet hHack hSet
        cases hNext
        split
        · exact hKnows.powersupplyDcOn
        · exact hKnows
  | cableCheckMeasured =>
      obtain ⟨⟨accepted, set⟩, hSet, rfl⟩ := Option.map_eq_some_iff.mp hStep
      exact h.powersupplyDcSet hHack hSet

end Direction

/-- A request of the car that is handled while the contactor is closed: it is not skipped,
and it changes the target. -/
def HandlesTarget (config : EvseConfig) (s : SupplyState) : SupplyInput → Prop
  | .evTarget voltage current =>
      ¬ isSkipped config voltage current ∧
      (voltage ≠ s.latestTargetVoltage ∨ current ≠ s.latestTargetCurrent) ∧
      s.contactorOpen = false
  | _ => False

instance (config : EvseConfig) (s : SupplyState) :
    (input : SupplyInput) → Decidable (HandlesTarget config s input)
  | .evTarget _ _ => inferInstanceAs (Decidable (_ ∧ _))
  | .enforceLimits _ | .openContactor _ | .dcSupplyOff | .currentDemandFinished | .carPluggedIn
  | .powerOn | .powerOff | .cableCheckStart | .cableCheckTimeout | .cableCheckMeasured =>
      inferInstanceAs (Decidable False)

/-- The supply is driven in the direction of the limits. -/
def SupplyState.Follows (s : SupplyState) : Prop :=
  s.lastMode = some (directionMode s.limits.isActuallyExportingToGrid) ∧
  s.lastSet = some s.limits.isActuallyExportingToGrid

instance (s : SupplyState) : Decidable s.Follows := inferInstanceAs (Decidable (_ ∧ _))

/-- To feed back, the supply is on already, and its last mode is that of the remembered
direction. A voltage out of the limits does not matter only if the values were last set in
the same direction. -/
def DirectionReady (config : EvseConfig) (s : SupplyState) : SupplyInput → Prop
  | .evTarget voltage _ =>
      let exporting := s.limits.isActuallyExportingToGrid
      ∀ accepted ∈ config.powersupplyCapabilities.accepts exporting voltage,
        (exporting = true → s.powersupplyDcIsOn = true ∧
          (s.lastIsActuallyExportingToGrid = true → s.lastMode = some .imports)) ∧
        (accepted = true ∨ s.lastSet = some exporting)
  | _ => True

instance (config : EvseConfig) (s : SupplyState) :
    (input : SupplyInput) → Decidable (DirectionReady config s input)
  | .evTarget _ _ => inferInstanceAs (Decidable (∀ accepted ∈ _, (_ → _ ∧ (_ → _)) ∧ (_ ∨ _)))
  | .enforceLimits _ | .openContactor _ | .dcSupplyOff | .currentDemandFinished | .carPluggedIn
  | .powerOn | .powerOff | .cableCheckStart | .cableCheckTimeout | .cableCheckMeasured =>
      inferInstanceAs (Decidable True)

section Targets

variable {config : EvseConfig} {s : SupplyState}

/-- What a handled request leaves behind, once the voltage was accepted or not. -/
def targetOutcome (config : EvseConfig) (voltage current : ℚ) (s : SupplyState) (accepted : Bool) :
    SupplyState :=
  (setOutcome config voltage current (s.storeTarget voltage current) accepted).powersupplyDcOn

/-- A target that has to be handled has the outcome `targetOutcome`, whatever the capabilities
answer. -/
theorem handleEvTarget_eq_map {voltage current : ℚ}
    (hHandles : HandlesTarget config s (.evTarget voltage current)) :
    handleEvTarget config voltage current s =
      (config.powersupplyCapabilities.accepts (feedsBack config s) voltage).map
        (targetOutcome config voltage current s) := by
  obtain ⟨hNotSkipped, hChanged, hClosed⟩ := hHandles
  have hFeeds : feedsBack config (s.storeTarget voltage current) = feedsBack config s := rfl
  unfold handleEvTarget
  rw [if_neg hNotSkipped, if_pos hChanged, powersupplyDcSet_eq_map, hFeeds]
  cases config.powersupplyCapabilities.accepts (feedsBack config s) voltage with
  | none => rfl
  | some accepted =>
      obtain ⟨-, -, hContactor, -⟩ := setOutcome_frame config voltage current
        (s.storeTarget voltage current) accepted
      have hStillClosed := hContactor.trans hClosed
      simp [hStillClosed, targetOutcome]

/-- A handled request leaves the right direction behind exactly if the supply was ready. -/
theorem follows_targetOutcome_iff (hHack : config.hackAllowBptWithIso2 = true)
    (h : KnowsDirection s) (voltage current : ℚ) (accepted : Bool) :
    (targetOutcome config voltage current s accepted).Follows ↔
      (s.limits.isActuallyExportingToGrid = true → s.powersupplyDcIsOn = true ∧
        (s.lastIsActuallyExportingToGrid = true → s.lastMode = some .imports)) ∧
      (accepted = true ∨ s.lastSet = some s.limits.isActuallyExportingToGrid) := by
  obtain ⟨hLimits, hOn, -, -⟩ := setOutcome_frame config voltage current
    (s.storeTarget voltage current) accepted
  have hMode := lastMode_turnDirection hHack (s.storeTarget voltage current)
  rw [SupplyState.Follows, targetOutcome, SupplyState.limits_powersupplyDcOn,
    SupplyState.lastMode_powersupplyDcOn, SupplyState.lastSet_powersupplyDcOn, hLimits, hOn,
    lastMode_setOutcome, lastSet_setOutcome, hMode]
  change (if s.powersupplyDcIsOn then
      if s.limits.isActuallyExportingToGrid = s.lastIsActuallyExportingToGrid then s.lastMode
      else some (directionMode s.limits.isActuallyExportingToGrid)
    else some .exports) = some (directionMode s.limits.isActuallyExportingToGrid) ∧
    (if accepted then some (feedsBack config s) else s.lastSet) =
      some s.limits.isActuallyExportingToGrid ↔ _
  apply and_congr
  · exact h.mode_iff
  · cases accepted <;> simp [feedsBack, hHack]

end Targets

/-- In every run with the hack, the supply is driven in the direction of the limits after
all handled requests exactly if it was ready for that before each of them. -/
theorem supply_follows_direction_iff (config : EvseConfig)
    (hHack : config.hackAllowBptWithIso2 = true) (inputs : List SupplyInput) :
    EveryStep? (supplyStep config) (fun s input => HandlesTarget config s input →
      ∀ next ∈ supplyStep config s input, next.Follows) {} inputs ↔
    EveryStep? (supplyStep config) (fun s input => HandlesTarget config s input →
      DirectionReady config s input) {} inputs := by
  apply everyStep?_congr KnowsDirection .initial
  · exact fun s input next hKnows hStep => hKnows.supplyStep hHack hStep
  · intro s input hKnows
    apply forall_congr'
    intro hHandles
    cases input with
    | evTarget voltage current =>
        have hFeeds : feedsBack config s = s.limits.isActuallyExportingToGrid := by
          simp [feedsBack, hHack]
        change (∀ next ∈ handleEvTarget config voltage current s, next.Follows) ↔ _
        rw [handleEvTarget_eq_map hHandles, hFeeds, DirectionReady]
        simp only [← follows_targetOutcome_iff hHack hKnows voltage current]
        exact Option.forall_mem_map
    | _ => cases hHandles

/-- A charger that is allowed to feed back. -/
def bidirectionalEvse : EvseConfig := { gridEvse true with hackAllowBptWithIso2 := true }

/-- The energy manager lets the car charge, or asks it to feed back 5 kW. -/
def powerLimit (watt : ℚ) : SupplyInput :=
  .enforceLimits
    { uuid := "evse"
      validUntil := 10
      limitsRootSide := some { totalPowerW := some watt, acMaxCurrentA := some (watt / 400) } }

/-- The car charges, feeds back and charges again; after a pause it charges. -/
def bidirectionalSession : List SupplyInput :=
  [.powerOn, .cableCheckStart, .cableCheckMeasured, .evTarget 400 10, powerLimit (-5000),
    .evTarget 400 12, powerLimit 5000, .evTarget 400 11, .openContactor true, .evTarget 400 10]

theorem supply_follows_direction_in_session :
    bidirectionalEvse.hackAllowBptWithIso2 = true ∧
      (run? (supplyStep bidirectionalEvse) {} bidirectionalSession).isSome = true ∧
      EveryStep? (supplyStep bidirectionalEvse) (fun s input =>
        HandlesTarget bidirectionalEvse s input →
          ∀ next ∈ supplyStep bidirectionalEvse s input, next.Follows) {} bidirectionalSession := by
  have hHack : bidirectionalEvse.hackAllowBptWithIso2 = true := rfl
  refine ⟨hHack, by decide +kernel, ?_⟩
  apply (supply_follows_direction_iff bidirectionalEvse hHack bidirectionalSession).mpr
  decide +kernel

/-- The supply is switched off while the car feeds back. It is switched on again with the
next target, in the wrong direction. -/
theorem supply_switched_on_in_wrong_direction :
    ¬ ∀ config : EvseConfig, config.hackAllowBptWithIso2 = true → ∀ inputs,
      EveryStep? (supplyStep config) (fun s input => HandlesTarget config s input →
        ∀ next ∈ supplyStep config s input, next.Follows) {} inputs := by
  intro hAlways
  have hRun := hAlways bidirectionalEvse rfl
    [.powerOn, .evTarget 400 10, powerLimit (-5000), .evTarget 400 12, .openContactor true,
      .evTarget 400 11]
  revert hRun
  decide +kernel

end EverestCore.EvseManager
