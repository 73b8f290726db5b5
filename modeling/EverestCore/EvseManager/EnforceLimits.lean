import EverestCore.Energy.LimitPresence

/-! What an EVSE does with the limits that the energy manager enforces. Reading a value
that is absent throws, so that the handler has no result then. -/
namespace EverestCore.EvseManager
open Data Energy Machine

/-- `power_supply_DC::Capabilities`, without what is not read. -/
structure PowerSupplyCapabilities where
  maxExportVoltageV : ℚ
  minExportVoltageV : ℚ
  maxExportCurrentA : ℚ
  minExportCurrentA : ℚ
  maxExportPowerW : ℚ
  maxImportVoltageV : Option ℚ := none
  minImportVoltageV : Option ℚ := none
  maxImportCurrentA : Option ℚ := none
  minImportCurrentA : Option ℚ := none
  maxImportPowerW : Option ℚ := none
  deriving DecidableEq, Repr

/-- The configuration and the hardware of an EVSE, as far as they are read here. -/
structure EvseConfig where
  uuid : String
  connectorId : ℤ := 1
  isDc : Bool
  acNominalVoltage : ℚ := 230
  localThreePhases : Bool := true
  supportsChangingPhasesDuringCharging : Bool := false
  hackAllowBptWithIso2 : Bool := false
  hackSkodaEnyaq : Bool := false
  dcIsolationVoltageV : ℚ := 500
  switchToMinimumVoltageAfterCableCheck : Bool := false
  powersupplyCapabilities : PowerSupplyCapabilities
  deriving DecidableEq, Repr

/-- `EnforcedLimits`. -/
structure EnforcedLimits where
  uuid : String
  validUntil : ℤ
  limitsRootSide : Option LimitsRes := none
  schedule : List ScheduleResEntry := []
  deriving DecidableEq, Repr

/-- `DC_EVSEMaximumLimits`, with what is set of it. -/
structure EvseMaximumLimits where
  evseMaximumCurrentLimit : ℚ
  evseMaximumPowerLimit : ℚ
  evseMaximumVoltageLimit : ℚ
  deriving DecidableEq, Repr

/-- The calls and messages of the handler. -/
inductive LimitOutput where
  | publishEnforcedLimits (value : EnforcedLimits)
  | switchThreePhasesWhileCharging (n : Bool)
  | publishMaxWatt (connectorId : ℤ) (watt : ℚ)
  | setMaxCurrent (current : ℚ) (validUntil : ℤ)
  | resumeChargingPowerAvailable
  | setDcEvseMaximumLimits (limits : EvseMaximumLimits)
  | informNewEvseMaxHlcLimits (limits : EvseMaximumLimits)
  deriving DecidableEq, Repr

/-- What the handler keeps. -/
structure LimitState where
  lastEnforcedLimits : LimitsRes := {}
  lastTargetVoltage : ℚ := -9999
  isActuallyExportingToGrid : Bool := false
  deriving DecidableEq, Repr

section Handler

variable (config : EvseConfig)

/-- The number of phases that are used with these limits, and the call that changes it. -/
def applyPhaseLimit (limits : LimitsRes) (phasecount : ℤ) : ℤ × List LimitOutput :=
  match limits.acMaxPhaseCount with
  | some maxPhases =>
      if maxPhases < phasecount ∧ config.supportsChangingPhasesDuringCharging then
        (maxPhases, [.switchThreePhasesWhileCharging (maxPhases = 3)])
      else (phasecount, [])
  | none => (phasecount, [])

/-- The first part of `handle_enforce_limits`: the limit of the charger. -/
def chargerLimit (limits : Option LimitsRes) : ℚ × List LimitOutput :=
  let phasecount : ℤ := if config.localThreePhases then 3 else 1
  match limits with
  | none => (0, [])
  | some limits =>
      let limit := limits.acMaxCurrentA.getD 0
      let (phasecount, switched) := applyPhaseLimit config limits phasecount
      match limits.totalPowerW with
      | none => (limit, switched)
      | some watt =>
          let a := watt / config.acNominalVoltage / phasecount
          (if a < limit then a else limit, switched ++ [.publishMaxWatt config.connectorId watt])

/-- A value within the limits of the two directions of the power supply. -/
def withinSupply (maxExport : ℚ) (maxImport : Option ℚ) (value : ℚ) : ℚ :=
  let value := if value > maxExport then maxExport else value
  match maxImport with
  | some maxImport => if value < -maxImport then -maxImport else value
  | none => value

/-- The limits that the car is told, before their sign is looked at. -/
def dcMaximumLimits (watt targetVoltage : ℚ) : EvseMaximumLimits :=
  let caps := config.powersupplyCapabilities
  { evseMaximumCurrentLimit := withinSupply caps.maxExportCurrentA caps.maxImportCurrentA
      (if targetVoltage > 10 then watt / targetVoltage else caps.maxExportCurrentA)
    evseMaximumPowerLimit := withinSupply caps.maxExportPowerW caps.maxImportPowerW watt
    evseMaximumVoltageLimit := caps.maxExportVoltageV }

/-- Negative limits are told as positive ones, or as zero. The flag of the exporting is
that of the current, which is looked at last. -/
def applyExport (limits : EvseMaximumLimits) (exporting : Bool) : EvseMaximumLimits × Bool :=
  if limits.evseMaximumPowerLimit < 0 ∨ limits.evseMaximumCurrentLimit < 0 then
    if config.hackAllowBptWithIso2 then
      let (limits, _) :=
        if limits.evseMaximumPowerLimit < 0 then
          ({ limits with evseMaximumPowerLimit := -limits.evseMaximumPowerLimit }, true)
        else (limits, false)
      if limits.evseMaximumCurrentLimit < 0 then
        ({ limits with evseMaximumCurrentLimit := -limits.evseMaximumCurrentLimit }, true)
      else (limits, false)
    else
      ({ limits with evseMaximumPowerLimit := 0, evseMaximumCurrentLimit := 0 }, exporting)
  else (limits, false)

/-- The second part of `handle_enforce_limits`, for DC. It takes the current for present
wherever the power is. -/
def enforceDc (limits : LimitsRes) (watt targetVoltage : ℚ) (s : LimitState) :
    Option (LimitState × List LimitOutput) := do
  let ampere ← limits.acMaxCurrentA
  if s.lastEnforcedLimits.totalPowerW ≠ some watt ∨
      s.lastEnforcedLimits.acMaxCurrentA ≠ some ampere ∨ targetVoltage ≠ s.lastTargetVoltage then
    let (told, exporting) :=
      applyExport config (dcMaximumLimits config watt targetVoltage) s.isActuallyExportingToGrid
    return ({ lastEnforcedLimits := limits
              lastTargetVoltage := targetVoltage
              isActuallyExportingToGrid := exporting },
      [.setDcEvseMaximumLimits told, .informNewEvseMaxHlcLimits told])
  else return (s, [])

/-- `energyImpl::handle_enforce_limits`. -/
def handleEnforceLimits (targetVoltage : ℚ) (s : LimitState) (value : EnforcedLimits) :
    Option (LimitState × List LimitOutput) :=
  if value.uuid ≠ config.uuid then some (s, [])
  else
    let (limit, applied) := chargerLimit config value.limitsRootSide
    let outputs := [.publishEnforcedLimits value] ++ applied ++
      [.setMaxCurrent (if limit ≥ 0 then limit else -limit) value.validUntil] ++
      (if limit > 1 / 100000 ∨ limit < -(1 / 100000) then [.resumeChargingPowerAvailable] else [])
    match config.isDc, value.limitsRootSide with
    | true, some limits =>
        match limits.totalPowerW with
        | some watt =>
            (enforceDc config limits watt targetVoltage s).map fun (s, told) => (s, outputs ++ told)
        | none => some (s, outputs)
    | _, _ => some (s, outputs)

end Handler

/-- The end of `EnergyManager::run_optimizer` for one broker. There is no result if the
reference is stale, or if there is no first slot. -/
def optimizedValue (m : Market) (validUntil : ℤ) (sold : Ledger m.globals) :
    MarketRef → Option EnforcedLimits
  | .dangling _ => none
  | .live place => do
      let node ← m.node? place
      let first ← (List.ofFn (sold place)).head?
      return { uuid := node.uuid
               validUntil := validUntil
               limitsRootSide := some first.limitsToRoot
               schedule := List.ofFn (sold place) }

theorem enforceDc_isSome (config : EvseConfig) (limits : LimitsRes) (watt targetVoltage : ℚ)
    (s : LimitState) :
    (enforceDc config limits watt targetVoltage s).isSome = limits.acMaxCurrentA.isSome := by
  unfold enforceDc
  cases limits.acMaxCurrentA with
  | none => rfl
  | some ampere =>
      simp only [Option.bind_eq_bind, Option.bind_some]
      split <;> rfl

/-- The handler has a result, unless it is one for DC with a power but no current. -/
theorem handleEnforceLimits_isSome_iff (config : EvseConfig) (targetVoltage : ℚ) (s : LimitState)
    (value : EnforcedLimits) :
    (handleEnforceLimits config targetVoltage s value).isSome = true ↔
      value.uuid ≠ config.uuid ∨ config.isDc = false ∨
      ∀ limits, value.limitsRootSide = some limits → limits.totalPowerW.isSome = true →
        limits.acMaxCurrentA.isSome = true := by
  unfold handleEnforceLimits
  by_cases hUuid : value.uuid = config.uuid
  · rw [if_neg (by simpa using hUuid)]
    dsimp only
    cases hMode : config.isDc with
    | false => simp
    | true =>
        cases hSide : value.limitsRootSide with
        | none => simp
        | some limits =>
            cases hPower : limits.totalPowerW with
            | none => simp [hUuid, hPower]
            | some watt => simp [hUuid, hPower, enforceDc_isSome]
  · rw [if_pos hUuid]
    simp [hUuid]

theorem optimizedValue_limitsRootSide {m : Market} {validUntil : ℤ} {sold : Ledger m.globals}
    {place : Place} {value : EnforcedLimits}
    (h : optimizedValue m validUntil sold (.live place) = some value) {first : m.Slot}
    (hFirst : first.val = 0) :
    value.limitsRootSide = some (sold place first).limitsToRoot := by
  obtain ⟨node, -, h⟩ := Option.bind_eq_some_iff.mp h
  obtain ⟨entry, hEntry, h⟩ := Option.bind_eq_some_iff.mp h
  cases h
  rw [List.head?_eq_getElem?, List.getElem?_ofFn] at hEntry
  split at hEntry
  · next hSlots =>
    obtain rfl : first = ⟨0, hSlots⟩ := Fin.ext hFirst
    rw [Option.some.inj hEntry]
  · cases hEntry

/-- `handle_enforce_limits` reads present values only, whatever the optimizer has granted
to the EVSE, exactly if it is one for AC, or if in the first slot there is a limit in
current, or a purchase, at the EVSE or below it once there is a limit in power. -/
theorem enforce_limits_reads_present_iff {m : Market} {counter : ℤ}
    {state : TradingState m.globals} (hOptimizer : runOptimizer m = some (counter, state))
    {place : Place} {validUntil : ℤ} {value : EnforcedLimits}
    (hValue : optimizedValue m validUntil state.sold (.live place) = some value) {first : m.Slot}
    (hFirst : first.val = 0) (config : EvseConfig) (targetVoltage : ℚ) (s : LimitState) :
    (handleEnforceLimits config targetVoltage s value).isSome = true ↔
      value.uuid ≠ config.uuid ∨ config.isDc = false ∨
      ((∃ below, place <:+ below ∧ IsEvse m.energyFlowRequest below ∧
          ImportLimited m LimitsReq.totalPowerW below first) →
        ∃ below, place <:+ below ∧ IsEvse m.energyFlowRequest below ∧
          (ImportLimited m LimitsReq.acMaxCurrentA below first ∨
            Buys m (optimizerCalls m counter) below first)) := by
  rw [handleEnforceLimits_isSome_iff, ← result_power_with_current_iff hOptimizer,
    optimizedValue_limitsRootSide hValue hFirst]
  simp

/-- A charger for DC that does not charge: it asks for no power, and does not limit its
current on the leaf side. -/
def idleDcEvse : RequestNode where
  uuid := "evse"
  nodeType := .evse
  scheduleImport := some (publishedSchedule ⟨32, 6, 3, 1, false⟩ none true 0 .idle none [])

/-- An idle DC EVSE below an energy node with an external limit in watts. -/
def wattLimitedGrid : Market where
  globals := oneSlot
  nominalAcVoltage := 230
  energyFlowRequest := .node
    (setExternalLimits ⟨63, 3⟩ 0
      { scheduleImport :=
          some [{ timestamp := 0, limitsToLeaves := { totalPowerW := some 22000 } }] }
      { uuid := "grid", nodeType := .generic }) [.node idleDcEvse []]
  grow := doubleCapacity

/-- A power supply of 30 kW that feeds back 20 kW. -/
def supply : PowerSupplyCapabilities where
  maxExportVoltageV := 900
  minExportVoltageV := 50
  maxExportCurrentA := 60
  minExportCurrentA := 0
  maxExportPowerW := 30000
  maxImportVoltageV := some 900
  minImportVoltageV := some 50
  maxImportCurrentA := some 40
  minImportCurrentA := some 0
  maxImportPowerW := some 20000

/-- The charger of the grid, for DC or for AC. -/
def gridEvse (isDc : Bool) : EvseConfig where
  uuid := "evse"
  isDc := isDc
  powersupplyCapabilities := supply

/-- What the charger at the first place does with what the optimizer grants it. -/
def enforceOptimized (m : Market) (config : EvseConfig) : Option Bool := do
  let (_, state) ← runOptimizer m
  let value ← optimizedValue m 10 state.sold (.live [0])
  return (handleEnforceLimits config 0 {} value).isSome

theorem enforce_limits_reads_absent_current :
    ¬ ∀ (m : Market) (counter : ℤ) (state : TradingState m.globals) (place : Place)
      (validUntil : ℤ) (value : EnforcedLimits) (config : EvseConfig) (targetVoltage : ℚ)
      (s : LimitState), runOptimizer m = some (counter, state) →
      optimizedValue m validUntil state.sold (.live place) = some value →
      (handleEnforceLimits config targetVoltage s value).isSome = true := by
  intro hAlways
  have hThrows : enforceOptimized wattLimitedGrid (gridEvse true) = some false := by decide +kernel
  obtain ⟨⟨counter, state⟩, hOptimizer, hRest⟩ := Option.bind_eq_some_iff.mp hThrows
  obtain ⟨value, hValue, hResult⟩ := Option.bind_eq_some_iff.mp hRest
  have hSome := hAlways _ _ _ _ _ _ (gridEvse true) 0 {} hOptimizer hValue
  simp [hSome] at hResult

/-- With limits in current on the way to the root, a charger for DC has its limits set. -/
theorem enforce_limits_reads_present_of_current :
    ∃ counter state value, runOptimizer twoEvses = some (counter, state) ∧
      optimizedValue twoEvses 10 state.sold (.live [0]) = some value ∧
      (handleEnforceLimits { gridEvse true with uuid := "left" } 0 {} value).isSome = true := by
  have hRuns : (enforceOptimized twoEvses (gridEvse true)).isSome = true := by decide +kernel
  obtain ⟨enforced, hEnforced⟩ := Option.isSome_iff_exists.mp hRuns
  obtain ⟨⟨counter, state⟩, hOptimizer, hRest⟩ := Option.bind_eq_some_iff.mp hEnforced
  obtain ⟨value, hValue, -⟩ := Option.bind_eq_some_iff.mp hRest
  let first : twoEvses.Slot := ⟨0, by decide⟩
  have hLimited : ImportLimited twoEvses LimitsReq.acMaxCurrentA [0] first := by decide
  have hEvse : IsEvse twoEvses.energyFlowRequest [0] := by decide
  refine ⟨counter, state, value, hOptimizer, hValue, ?_⟩
  apply (enforce_limits_reads_present_iff hOptimizer hValue (rfl : first.val = 0) _ 0 {}).mpr
  exact .inr (.inr fun _ => ⟨[0], List.suffix_refl _, hEvse, .inl hLimited⟩)

end EverestCore.EvseManager
