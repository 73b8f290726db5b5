import EverestCore.EvseManager.EnforceLimits
import EverestCore.Machine.PartialRuns
import Mathlib.Tactic.Linarith
import Mathlib.Tactic.FieldSimp

/-! What the limits that an EVSE passes on have to do with the limits that it is given.
Limits with a sign are compared as they are, and their sign is taken off afterwards. -/
namespace EverestCore.EvseManager
open Energy Machine

section Charger

variable (config : EvseConfig)

/-- The number of phases that the handler reckons with. -/
def phasesInUse (limits : LimitsRes) : ℤ :=
  (applyPhaseLimit config limits (if config.localThreePhases then 3 else 1)).1

/-- The current that the charger is told. -/
def chargerMaxCurrent (limits : Option LimitsRes) : ℚ :=
  let limit := (chargerLimit config limits).1
  if limit ≥ 0 then limit else -limit

theorem phasesInUse_pos {limits : LimitsRes}
    (hPhases : ∀ n ∈ limits.acMaxPhaseCount, 1 ≤ n) : 0 < phasesInUse config limits := by
  have hLocal : (0 : ℤ) < if config.localThreePhases then 3 else 1 := by split <;> decide
  unfold phasesInUse applyPhaseLimit
  generalize (if config.localThreePhases then 3 else 1 : ℤ) = phasecount at hLocal
  cases hCount : limits.acMaxPhaseCount with
  | none => exact hLocal
  | some n =>
      dsimp only
      split
      · exact hPhases n hCount
      · exact hLocal

/-- The current of a call of `setMaxCurrent`. -/
def LimitOutput.maxCurrent? : LimitOutput → Option ℚ
  | .setMaxCurrent current _ => some current
  | _ => none

/-- The limits of a message to the car. -/
def LimitOutput.told? : LimitOutput → Option EvseMaximumLimits
  | .setDcEvseMaximumLimits limits => some limits
  | _ => none

theorem applyPhaseLimit_outputs (limits : LimitsRes) (phasecount : ℤ) :
    ∀ output ∈ (applyPhaseLimit config limits phasecount).2,
      output.maxCurrent? = none ∧ output.told? = none := by
  unfold applyPhaseLimit
  cases limits.acMaxPhaseCount with
  | none => exact nofun
  | some n =>
      dsimp only
      split
      · intro output hOutput
        rw [List.mem_singleton.mp hOutput]
        exact ⟨rfl, rfl⟩
      · exact nofun

theorem chargerLimit_outputs (limits : Option LimitsRes) :
    ∀ output ∈ (chargerLimit config limits).2, output.maxCurrent? = none ∧ output.told? = none := by
  cases limits with
  | none => exact nofun
  | some limits =>
      have hSwitched := applyPhaseLimit_outputs config limits
        (if config.localThreePhases then 3 else 1)
      unfold chargerLimit
      dsimp only
      generalize applyPhaseLimit config limits _ = applied at hSwitched
      cases limits.totalPowerW with
      | none => exact hSwitched
      | some watt =>
          intro output hOutput
          rcases List.mem_append.mp hOutput with hOutput | hOutput
          · exact hSwitched output hOutput
          · rw [List.mem_singleton.mp hOutput]
            exact ⟨rfl, rfl⟩

/-- The power supply is told nothing that the charger is told. -/
theorem enforceDc_outputs {limits : LimitsRes} {watt targetVoltage : ℚ} {s next : LimitState}
    {outputs : List LimitOutput}
    (hNext : enforceDc config limits watt targetVoltage s = some (next, outputs)) :
    outputs.filterMap LimitOutput.maxCurrent? = [] := by
  unfold enforceDc at hNext
  obtain ⟨ampere, -, hNext⟩ := Option.bind_eq_some_iff.mp hNext
  dsimp only at hNext
  split at hNext
  · cases hNext
    rfl
  · cases hNext
    rfl

/-- What the handler does in any case, before its part for DC, which may throw. -/
def chargerOutputs (value : EnforcedLimits) : List LimitOutput :=
  let limit := (chargerLimit config value.limitsRootSide).1
  [.publishEnforcedLimits value] ++ (chargerLimit config value.limitsRootSide).2 ++
    [.setMaxCurrent (chargerMaxCurrent config value.limitsRootSide) value.validUntil] ++
    (if limit > 1 / 100000 ∨ limit < -(1 / 100000) then [.resumeChargingPowerAvailable] else [])

theorem chargerOutputs_maxCurrent? (value : EnforcedLimits) :
    (chargerOutputs config value).filterMap LimitOutput.maxCurrent? =
      [chargerMaxCurrent config value.limitsRootSide] := by
  have hApplied := List.filterMap_eq_nil_iff.mpr fun output hOutput =>
    (chargerLimit_outputs config value.limitsRootSide output hOutput).1
  unfold chargerOutputs
  simp only [List.filterMap_append, hApplied]
  split <;> rfl

theorem chargerOutputs_told? (value : EnforcedLimits) :
    (chargerOutputs config value).filterMap LimitOutput.told? = [] := by
  have hApplied := List.filterMap_eq_nil_iff.mpr fun output hOutput =>
    (chargerLimit_outputs config value.limitsRootSide output hOutput).2
  unfold chargerOutputs
  simp only [List.filterMap_append, hApplied]
  split <;> rfl

theorem handleEnforceLimits_eq {value : EnforcedLimits} (hUuid : value.uuid = config.uuid)
    (targetVoltage : ℚ) (s : LimitState) :
    handleEnforceLimits config targetVoltage s value =
      match config.isDc, value.limitsRootSide with
      | true, some limits =>
          match limits.totalPowerW with
          | some watt => (enforceDc config limits watt targetVoltage s).map fun (s, told) =>
              (s, chargerOutputs config value ++ told)
          | none => some (s, chargerOutputs config value)
      | _, _ => some (s, chargerOutputs config value) := by
  unfold handleEnforceLimits
  rw [if_neg (not_not.mpr hUuid)]
  rfl

/-- The handler has a part for DC just when there is a power. -/
theorem handleEnforceLimits_cases {targetVoltage : ℚ} {s next : LimitState}
    {value : EnforcedLimits} {outputs : List LimitOutput}
    (hNext : handleEnforceLimits config targetVoltage s value = some (next, outputs)) :
    (value.uuid ≠ config.uuid ∧ next = s ∧ outputs = []) ∨
    (value.uuid = config.uuid ∧ ∃ told, outputs = chargerOutputs config value ++ told ∧
      ((config.isDc = true ∧ ∃ limits watt, value.limitsRootSide = some limits ∧
          limits.totalPowerW = some watt ∧
          enforceDc config limits watt targetVoltage s = some (next, told)) ∨
        ((config.isDc = true → ∀ limits, value.limitsRootSide = some limits →
          limits.totalPowerW = none) ∧ next = s ∧ told = []))) := by
  by_cases hUuid : value.uuid = config.uuid
  · refine .inr ⟨hUuid, ?_⟩
    rw [handleEnforceLimits_eq config hUuid] at hNext
    cases hMode : config.isDc with
    | false =>
        simp only [hMode, Option.some.injEq, Prod.mk.injEq] at hNext
        exact ⟨[], by rw [← hNext.2, List.append_nil], .inr ⟨nofun, hNext.1.symm, rfl⟩⟩
    | true =>
        cases hSide : value.limitsRootSide with
        | none =>
            simp only [hMode, hSide, Option.some.injEq, Prod.mk.injEq] at hNext
            exact ⟨[], by rw [← hNext.2, List.append_nil], .inr ⟨fun _ => nofun, hNext.1.symm, rfl⟩⟩
        | some limits =>
            cases hPower : limits.totalPowerW with
            | none =>
                simp only [hMode, hSide, hPower, Option.some.injEq, Prod.mk.injEq] at hNext
                refine ⟨[], by rw [← hNext.2, List.append_nil], .inr ⟨?_, hNext.1.symm, rfl⟩⟩
                rintro - _ ⟨⟩
                exact hPower
            | some watt =>
                simp only [hMode, hSide, hPower, Option.map_eq_some_iff] at hNext
                obtain ⟨⟨after, told⟩, hDc, hNext⟩ := hNext
                obtain ⟨rfl, rfl⟩ := Prod.mk.inj hNext
                exact ⟨told, rfl, .inl ⟨rfl, limits, watt, rfl, hPower, hDc⟩⟩
  · rw [handleEnforceLimits, if_pos hUuid] at hNext
    obtain ⟨rfl, rfl⟩ := Prod.mk.inj (Option.some.inj hNext)
    exact .inl ⟨hUuid, rfl, rfl⟩

/-- The handler tells the charger one current, which it works out for it. -/
theorem handleEnforceLimits_maxCurrent? {targetVoltage : ℚ} {s next : LimitState}
    {value : EnforcedLimits} {outputs : List LimitOutput} (hUuid : value.uuid = config.uuid)
    (hNext : handleEnforceLimits config targetVoltage s value = some (next, outputs)) :
    outputs.filterMap LimitOutput.maxCurrent? =
      [chargerMaxCurrent config value.limitsRootSide] := by
  rcases handleEnforceLimits_cases config hNext with ⟨hOther, -⟩ | ⟨-, told, rfl, hTold⟩
  · exact absurd hUuid hOther
  · rw [List.filterMap_append, chargerOutputs_maxCurrent?]
    rcases hTold with ⟨-, limits, watt, -, -, hDc⟩ | ⟨-, -, rfl⟩
    · rw [enforceDc_outputs config hDc, List.append_nil]
    · rfl

theorem chargerLimit_fst (limits : LimitsRes) :
    (chargerLimit config (some limits)).1 =
      match limits.totalPowerW with
      | none => limits.acMaxCurrentA.getD 0
      | some watt => min (watt / config.acNominalVoltage / phasesInUse config limits)
          (limits.acMaxCurrentA.getD 0) := by
  unfold chargerLimit phasesInUse
  dsimp only
  generalize applyPhaseLimit config limits _ = applied
  cases limits.totalPowerW with
  | none => rfl
  | some watt =>
      dsimp only
      split_ifs with hLt
      · exact (min_eq_left hLt.le).symm
      · exact (min_eq_right (not_lt.mp hLt)).symm

theorem chargerMaxCurrent_eq_abs (limits : Option LimitsRes) :
    chargerMaxCurrent config limits = |(chargerLimit config limits).1| := by
  unfold chargerMaxCurrent
  dsimp only
  split_ifs with hSign
  · exact (abs_of_nonneg hSign).symm
  · exact (abs_of_neg (not_le.mp hSign)).symm

theorem abs_le_abs_iff_of_le {a c : ℚ} (hLe : a ≤ c) : |a| ≤ |c| ↔ 0 ≤ a + c ∨ a = c := by
  constructor
  · intro hAbs
    rcases abs_cases a with ⟨-, hA⟩ | ⟨hSize, hA⟩
    · exact .inl (by linarith)
    · rcases abs_cases c with ⟨hSizeC, -⟩ | ⟨hSizeC, -⟩
      · exact .inl (by linarith)
      · exact .inr (le_antisymm hLe (by linarith))
  · rintro (hSum | rfl)
    · exact abs_le_abs hLe (by linarith)
    · exact le_rfl

/-- The smaller of two limits with a sign is the smaller one in size too, unless it is
negative and the other one is not as far from zero. -/
theorem abs_min_le_iff (a c : ℚ) : |min a c| ≤ |a| ∧ |min a c| ≤ |c| ↔ 0 ≤ a + c ∨ a = c := by
  rcases le_total a c with hLe | hLe
  · rw [min_eq_left hLe, ← abs_le_abs_iff_of_le hLe]
    exact and_iff_right le_rfl
  · rw [min_eq_right hLe, add_comm, eq_comm, ← abs_le_abs_iff_of_le hLe]
    exact and_iff_left le_rfl

variable {config}

theorem powerBound_eq {watt : ℚ} {phases : ℤ} (hPhases : 0 < phases)
    (hSign : 0 < config.acNominalVoltage ∨ watt = 0) :
    |watt| / (config.acNominalVoltage * phases) =
      |watt / config.acNominalVoltage / phases| := by
  rcases hSign with hVoltage | rfl
  · rw [div_div, abs_div, abs_of_pos (mul_pos hVoltage (Int.cast_pos.mpr hPhases))]
  · simp

/-- A size within the bound of the power shows that the bound is not negative. -/
theorem sign_of_powerBound {watt size : ℚ} {phases : ℤ} (hPhases : 0 < phases)
    (hVoltage : config.acNominalVoltage ≠ 0)
    (hSize : |size| ≤ |watt| / (config.acNominalVoltage * phases)) :
    0 < config.acNominalVoltage ∨ watt = 0 := by
  rcases lt_or_gt_of_ne hVoltage with hNeg | hPos
  · right
    by_contra hWatt
    have hBound : |watt| / (config.acNominalVoltage * phases) < 0 :=
      div_neg_of_pos_of_neg (abs_pos.mpr hWatt)
        (mul_neg_of_neg_of_pos hNeg (Int.cast_pos.mpr hPhases))
    exact absurd (abs_nonneg size) (not_le.mpr (hSize.trans_lt hBound))
  · exact .inl hPos

variable (config)

/-- The current is no larger than the limits in current and in power allow. -/
def CurrentWithin (limits : Option LimitsRes) (current : ℚ) : Prop :=
  ∀ given ∈ limits, (∀ c ∈ given.acMaxCurrentA, current ≤ |c|) ∧
    ∀ watt ∈ given.totalPowerW,
      current ≤ |watt| / (config.acNominalVoltage * phasesInUse config given)

/-- Where there is a limit in power, the nominal voltage is positive or no power is allowed;
and a limit in current next to it is either the same in amperes, or the two together do not
point to the export. -/
def LimitsAgree (limits : Option LimitsRes) : Prop :=
  ∀ given ∈ limits, ∀ watt ∈ given.totalPowerW,
    (0 < config.acNominalVoltage ∨ watt = 0) ∧
    ∀ c ∈ given.acMaxCurrentA,
      0 ≤ watt / config.acNominalVoltage / phasesInUse config given + c ∨
        watt / config.acNominalVoltage / phasesInUse config given = c

theorem currentWithin_chargerMaxCurrent_iff (hVoltage : config.acNominalVoltage ≠ 0)
    {limits : Option LimitsRes}
    (hPhases : ∀ given ∈ limits, ∀ n ∈ given.acMaxPhaseCount, 1 ≤ n) :
    CurrentWithin config limits (chargerMaxCurrent config limits) ↔ LimitsAgree config limits := by
  cases limits with
  | none => exact ⟨fun _ => nofun, fun _ => nofun⟩
  | some given =>
      have hPos := phasesInUse_pos config (hPhases given rfl)
      simp only [CurrentWithin, LimitsAgree, Option.mem_some_iff, forall_eq']
      rw [chargerMaxCurrent_eq_abs, chargerLimit_fst]
      cases hPower : given.totalPowerW with
      | none =>
          refine iff_of_true ⟨?_, nofun⟩ nofun
          intro c hCurrent
          rw [hCurrent, Option.getD_some]
      | some watt =>
          simp only [Option.mem_some_iff, forall_eq']
          cases hCurrent : given.acMaxCurrentA with
          | none =>
              simp only [Option.getD_none]
              constructor
              · exact fun hWithin => ⟨sign_of_powerBound hPos hVoltage hWithin.2, nofun⟩
              · rintro ⟨hSign, -⟩
                refine ⟨nofun, ?_⟩
                rw [powerBound_eq hPos hSign]
                exact abs_min_le_max_abs_abs.trans (by simp)
          | some c =>
              simp only [Option.getD_some, Option.mem_some_iff, forall_eq']
              constructor
              · rintro ⟨hWithin, hBound⟩
                have hSign := sign_of_powerBound hPos hVoltage hBound
                rw [powerBound_eq hPos hSign] at hBound
                exact ⟨hSign, (abs_min_le_iff _ _).mp ⟨hBound, hWithin⟩⟩
              · rintro ⟨hSign, hAgree⟩
                rw [powerBound_eq hPos hSign]
                exact ((abs_min_le_iff _ _).mpr hAgree).symm

/-- The charger is told a current within the limits just when these agree. It is told so
before the part for DC, whether that has a result or not. -/
theorem setMaxCurrent_within_iff (hVoltage : config.acNominalVoltage ≠ 0) (value : EnforcedLimits)
    (hUuid : value.uuid = config.uuid)
    (hPhases : ∀ given ∈ value.limitsRootSide, ∀ n ∈ given.acMaxPhaseCount, 1 ≤ n) :
    (∀ targetVoltage s next outputs,
      handleEnforceLimits config targetVoltage s value = some (next, outputs) →
      outputs.filterMap LimitOutput.maxCurrent? =
        (chargerOutputs config value).filterMap LimitOutput.maxCurrent?) ∧
    ((∀ current ∈ (chargerOutputs config value).filterMap LimitOutput.maxCurrent?,
      CurrentWithin config value.limitsRootSide current) ↔
      LimitsAgree config value.limitsRootSide) := by
  constructor
  · intro targetVoltage s next outputs hNext
    rw [handleEnforceLimits_maxCurrent? config hUuid hNext, chargerOutputs_maxCurrent?]
  · rw [chargerOutputs_maxCurrent?, List.forall_mem_singleton]
    exact currentWithin_chargerMaxCurrent_iff config hVoltage hPhases

/-- The grid takes 16 A back, and the car gives 32 A. -/
theorem setMaxCurrent_feeding_back :
    let value : EnforcedLimits :=
      { uuid := "evse", validUntil := 10
        limitsRootSide := some { totalPowerW := some (-22080), acMaxCurrentA := some (-16) } }
    ∃ next outputs, handleEnforceLimits (gridEvse false) 0 {} value = some (next, outputs) ∧
      LimitOutput.setMaxCurrent 32 10 ∈ outputs ∧
      ¬CurrentWithin (gridEvse false) value.limitsRootSide 32 := by
  refine ⟨_, _, rfl, by decide +kernel, ?_⟩
  intro hWithin
  have hCurrent := (hWithin _ rfl).1 (-16) rfl
  exact absurd hCurrent (by decide)

/-- A limit in power below the limit in current is kept. -/
theorem setMaxCurrent_within_charging :
    let value : EnforcedLimits :=
      { uuid := "evse", validUntil := 10
        limitsRootSide := some { totalPowerW := some 6900, acMaxCurrentA := some 16 } }
    (∀ targetVoltage s next outputs,
      handleEnforceLimits (gridEvse false) targetVoltage s value = some (next, outputs) →
      outputs.filterMap LimitOutput.maxCurrent? =
        (chargerOutputs (gridEvse false) value).filterMap LimitOutput.maxCurrent?) ∧
    ((∀ current ∈ (chargerOutputs (gridEvse false) value).filterMap LimitOutput.maxCurrent?,
      CurrentWithin (gridEvse false) value.limitsRootSide current) ↔
      LimitsAgree (gridEvse false) value.limitsRootSide) :=
  setMaxCurrent_within_iff (gridEvse false) (by decide) _ rfl (by simp)

end Charger

section Supply

variable (config : EvseConfig)

/-- Energy is to flow back, and the charger is allowed to let it. -/
def FeedsBack (watt : ℚ) : Prop := config.hackAllowBptWithIso2 = true ∧ watt < 0

instance (watt : ℚ) : Decidable (FeedsBack config watt) := inferInstanceAs (Decidable (_ ∧ _))

/-- A limit within the capability of the direction in which energy flows. -/
def WithinCapability (watt maxExport : ℚ) (maxImport : Option ℚ) (limit : ℚ) : Prop :=
  0 ≤ limit ∧ if FeedsBack config watt then ∀ m ∈ maxImport, limit ≤ m else limit ≤ maxExport

/-- The limits are ones that the power supply can keep. -/
structure LimitsKept (watt : ℚ) (told : EvseMaximumLimits) : Prop where
  current : WithinCapability config watt config.powersupplyCapabilities.maxExportCurrentA
    config.powersupplyCapabilities.maxImportCurrentA told.evseMaximumCurrentLimit
  power : WithinCapability config watt config.powersupplyCapabilities.maxExportPowerW
    config.powersupplyCapabilities.maxImportPowerW told.evseMaximumPowerLimit
  voltage : WithinCapability config watt config.powersupplyCapabilities.maxExportVoltageV
    config.powersupplyCapabilities.maxImportVoltageV told.evseMaximumVoltageLimit

/-- When energy is to flow back, the direction shows in the current as well: the target
voltage is known, and current can be imported. The other capabilities are not negative, and
the voltage of the export is allowed for the import. -/
structure ImportMatches (caps : PowerSupplyCapabilities) (targetVoltage : ℚ) : Prop where
  current : targetVoltage > 10 ∨ caps.maxExportCurrentA < 0
  maxImportCurrentA : ∀ m ∈ caps.maxImportCurrentA, 0 < m
  maxImportPowerW : ∀ m ∈ caps.maxImportPowerW, 0 ≤ m
  maxExportVoltageV : 0 ≤ caps.maxExportVoltageV
  maxImportVoltageV : ∀ m ∈ caps.maxImportVoltageV, caps.maxExportVoltageV ≤ m

/-- When energy is not to flow back, the capabilities of the export are not negative, and
those of the import are not below their negatives, unless all is set to zero anyway. -/
structure ExportMatches (caps : PowerSupplyCapabilities) (watt targetVoltage : ℚ) : Prop where
  maxExportCurrentA : 0 ≤ caps.maxExportCurrentA
  maxExportPowerW : 0 ≤ caps.maxExportPowerW
  maxExportVoltageV : 0 ≤ caps.maxExportVoltageV
  importSide :
    (watt < 0 ∧ ((targetVoltage > 10 ∧ ∀ m ∈ caps.maxImportCurrentA, 0 < m) ∨
      ∀ m ∈ caps.maxImportPowerW, 0 < m)) ∨
    ((∀ m ∈ caps.maxImportCurrentA, -m ≤ caps.maxExportCurrentA) ∧
      ∀ m ∈ caps.maxImportPowerW, -m ≤ caps.maxExportPowerW)

/-- The capabilities of the direction in which energy is to flow. -/
def SupplyMatches (watt targetVoltage : ℚ) : Prop :=
  if FeedsBack config watt then ImportMatches config.powersupplyCapabilities targetVoltage
  else ExportMatches config.powersupplyCapabilities watt targetVoltage

variable {config} {maxExport value : ℚ} {maxImport : Option ℚ}

theorem withinSupply_eq_max (maxExport value m : ℚ) :
    withinSupply maxExport (some m) value = max (min value maxExport) (-m) := by
  unfold withinSupply
  dsimp only
  rcases lt_or_ge maxExport value with hExport | hExport
  · rw [if_pos hExport, min_eq_right hExport.le]
    split_ifs with hImport
    · exact (max_eq_right hImport.le).symm
    · exact (max_eq_left (not_lt.mp hImport)).symm
  · rw [if_neg (not_lt.mpr hExport), min_eq_left hExport]
    split_ifs with hImport
    · exact (max_eq_right hImport.le).symm
    · exact (max_eq_left (not_lt.mp hImport)).symm

theorem withinSupply_none (maxExport value : ℚ) :
    withinSupply maxExport none value = min value maxExport := by
  unfold withinSupply
  dsimp only
  split_ifs with hExport
  · exact (min_eq_right (le_of_lt hExport)).symm
  · exact (min_eq_left (not_lt.mp hExport)).symm

/-- A value in the supply's limits is negative if it was so before, or if the capability of
the export is, and if something can be imported. -/
theorem withinSupply_neg_iff :
    withinSupply maxExport maxImport value < 0 ↔
      (value < 0 ∨ maxExport < 0) ∧ ∀ m ∈ maxImport, 0 < m := by
  cases maxImport with
  | none => simp [withinSupply_none]
  | some m => simp [withinSupply_eq_max]

theorem withinSupply_le_iff :
    withinSupply maxExport maxImport value ≤ maxExport ↔ ∀ m ∈ maxImport, -m ≤ maxExport := by
  cases maxImport with
  | none => simp [withinSupply_none]
  | some m => simp [withinSupply_eq_max]

/-- A negative value stays within the capability of the import in size. -/
theorem abs_withinSupply_le (hValue : value < 0) (hImport : ∀ m ∈ maxImport, 0 ≤ m) :
    ∀ m ∈ maxImport, |withinSupply maxExport maxImport value| ≤ m := by
  cases maxImport with
  | none => exact nofun
  | some m =>
      rintro _ ⟨⟩
      have hM := hImport m rfl
      rw [withinSupply_eq_max, abs_le]
      refine ⟨le_max_right _ _, max_le ?_ (by linarith)⟩
      exact (min_le_left _ _).trans (hValue.le.trans hM)

variable (config)

/-- The current that goes with a power, before it is brought within the limits. -/
def rawCurrent (watt targetVoltage : ℚ) : ℚ :=
  if targetVoltage > 10 then watt / targetVoltage
  else config.powersupplyCapabilities.maxExportCurrentA

variable {config} {watt targetVoltage : ℚ}

theorem rawCurrent_neg (hWatt : watt < 0)
    (hCurrent : targetVoltage > 10 ∨ config.powersupplyCapabilities.maxExportCurrentA < 0) :
    rawCurrent config watt targetVoltage < 0 := by
  unfold rawCurrent
  split_ifs with hVoltage
  · exact div_neg_of_neg_of_pos hWatt (by linarith)
  · exact hCurrent.resolve_left hVoltage

theorem rawCurrent_neg_cases (h : rawCurrent config watt targetVoltage < 0) :
    (targetVoltage > 10 ∧ watt < 0) ∨ config.powersupplyCapabilities.maxExportCurrentA < 0 := by
  unfold rawCurrent at h
  split_ifs at h with hVoltage
  · refine .inl ⟨hVoltage, ?_⟩
    by_contra hWatt
    exact absurd h (not_lt.mpr (div_nonneg (not_lt.mp hWatt) (by linarith)))
  · exact .inr h

variable (config)

/-- With the hack the signs are taken off, and that of the current is remembered. -/
theorem applyExport_of_hack (hHack : config.hackAllowBptWithIso2 = true)
    (limits : EvseMaximumLimits) (exporting : Bool) :
    applyExport config limits exporting =
      ({ limits with
          evseMaximumPowerLimit := |limits.evseMaximumPowerLimit|
          evseMaximumCurrentLimit := |limits.evseMaximumCurrentLimit| },
        decide (limits.evseMaximumCurrentLimit < 0)) := by
  obtain ⟨current, power, voltage⟩ := limits
  unfold applyExport
  simp only [hHack, if_true]
  rcases lt_or_ge power 0 with hPower | hPower <;>
    rcases lt_or_ge current 0 with hCurrent | hCurrent <;>
    simp [hPower, hCurrent, hPower.not_gt, hCurrent.not_gt, abs_of_neg, abs_of_nonneg]

/-- Without the hack there is no energy from the car. -/
theorem applyExport_of_not_hack (hHack : config.hackAllowBptWithIso2 = false)
    (limits : EvseMaximumLimits) :
    applyExport config limits false =
      (if limits.evseMaximumPowerLimit < 0 ∨ limits.evseMaximumCurrentLimit < 0 then
        { limits with evseMaximumPowerLimit := 0, evseMaximumCurrentLimit := 0 }
      else limits, false) := by
  unfold applyExport
  simp only [hHack, Bool.false_eq_true, if_false]
  split_ifs <;> rfl

theorem dcMaximumLimits_eq (watt targetVoltage : ℚ) :
    dcMaximumLimits config watt targetVoltage =
      { evseMaximumCurrentLimit := withinSupply config.powersupplyCapabilities.maxExportCurrentA
          config.powersupplyCapabilities.maxImportCurrentA (rawCurrent config watt targetVoltage)
        evseMaximumPowerLimit := withinSupply config.powersupplyCapabilities.maxExportPowerW
          config.powersupplyCapabilities.maxImportPowerW watt
        evseMaximumVoltageLimit := config.powersupplyCapabilities.maxExportVoltageV } := rfl

/-- What the car is told with a power, and whether energy is taken to flow back. -/
def toldLimits (watt targetVoltage : ℚ) : EvseMaximumLimits × Bool :=
  applyExport config (dcMaximumLimits config watt targetVoltage) false

/-- The limits can be kept, and the direction of the energy is the one that is asked for. -/
def LimitsRight (watt : ℚ) (told : EvseMaximumLimits × Bool) : Prop :=
  LimitsKept config watt told.1 ∧ (told.2 = true ↔ FeedsBack config watt)

variable {config}

theorem withinCapability_import (hFeeds : FeedsBack config watt) {limit : ℚ} :
    WithinCapability config watt maxExport maxImport limit ↔
      0 ≤ limit ∧ ∀ m ∈ maxImport, limit ≤ m := by
  rw [WithinCapability, if_pos hFeeds]

theorem withinCapability_export (hFeeds : ¬FeedsBack config watt) {limit : ℚ} :
    WithinCapability config watt maxExport maxImport limit ↔ 0 ≤ limit ∧ limit ≤ maxExport := by
  rw [WithinCapability, if_neg hFeeds]

theorem limitsRight_iff_of_feedsBack (hFeeds : FeedsBack config watt) :
    LimitsRight config watt (toldLimits config watt targetVoltage) ↔
      ImportMatches config.powersupplyCapabilities targetVoltage := by
  rw [toldLimits, applyExport_of_hack config hFeeds.1, dcMaximumLimits_eq, LimitsRight]
  simp only [hFeeds, iff_true, decide_eq_true_eq, withinSupply_neg_iff]
  constructor
  · rintro ⟨⟨-, hPower, hVoltage⟩, hCurrent, hImport⟩
    rw [withinCapability_import hFeeds] at hPower hVoltage
    refine ⟨?_, hImport, fun m hM => hPower.1.trans (hPower.2 m hM), hVoltage.1, hVoltage.2⟩
    rcases hCurrent with hCurrent | hCurrent
    · exact (rawCurrent_neg_cases hCurrent).imp_left And.left
    · exact .inr hCurrent
  · rintro ⟨hCurrent, hImport, hPower, hVoltage, hImportVoltage⟩
    have hRaw := rawCurrent_neg hFeeds.2 hCurrent
    refine ⟨⟨?_, ?_, ?_⟩, .inl hRaw, hImport⟩ <;> rw [withinCapability_import hFeeds]
    · exact ⟨abs_nonneg _, abs_withinSupply_le hRaw fun m hM => (hImport m hM).le⟩
    · exact ⟨abs_nonneg _, abs_withinSupply_le hFeeds.2 hPower⟩
    · exact ⟨hVoltage, hImportVoltage⟩

theorem withinSupply_nonneg_of (hValue : 0 ≤ value) (hExport : 0 ≤ maxExport) :
    0 ≤ withinSupply maxExport maxImport value := by
  by_contra! hNeg
  rcases (withinSupply_neg_iff.mp hNeg).1 with h | h
  · exact absurd h (not_lt.mpr hValue)
  · exact absurd h (not_lt.mpr hExport)

theorem limitsRight_iff_of_hack (hHack : config.hackAllowBptWithIso2 = true) (hWatt : 0 ≤ watt) :
    LimitsRight config watt (toldLimits config watt targetVoltage) ↔
      ExportMatches config.powersupplyCapabilities watt targetVoltage := by
  have hFeeds : ¬FeedsBack config watt := fun h => absurd h.2 (not_lt.mpr hWatt)
  have hRaw (hExport : 0 ≤ config.powersupplyCapabilities.maxExportCurrentA) :
      0 ≤ rawCurrent config watt targetVoltage := by
    by_contra! hNeg
    rcases rawCurrent_neg_cases hNeg with h | h
    · exact absurd h.2 (not_lt.mpr hWatt)
    · exact absurd h (not_lt.mpr hExport)
  rw [toldLimits, applyExport_of_hack config hHack, dcMaximumLimits_eq, LimitsRight]
  simp only [hFeeds, iff_false, decide_eq_true_eq]
  constructor
  · rintro ⟨⟨hCurrent, hPower, hVoltage⟩, -⟩
    rw [withinCapability_export hFeeds] at hCurrent hPower hVoltage
    refine ⟨hCurrent.1.trans hCurrent.2, hPower.1.trans hPower.2, hVoltage.1, .inr ⟨?_, ?_⟩⟩
    · exact withinSupply_le_iff.mp ((le_abs_self _).trans hCurrent.2)
    · exact withinSupply_le_iff.mp ((le_abs_self _).trans hPower.2)
  · rintro ⟨hCurrent, hPower, hVoltage, hImport⟩
    obtain ⟨hImportCurrent, hImportPower⟩ :=
      hImport.resolve_left fun h => absurd h.1 (not_lt.mpr hWatt)
    have hCurrentNonneg : 0 ≤ withinSupply config.powersupplyCapabilities.maxExportCurrentA
        config.powersupplyCapabilities.maxImportCurrentA (rawCurrent config watt targetVoltage) :=
      withinSupply_nonneg_of (hRaw hCurrent) hCurrent
    refine ⟨⟨?_, ?_, ?_⟩, not_lt.mpr hCurrentNonneg⟩ <;> rw [withinCapability_export hFeeds]
    · refine ⟨abs_nonneg _, ?_⟩
      rw [abs_of_nonneg hCurrentNonneg]
      exact withinSupply_le_iff.mpr hImportCurrent
    · refine ⟨abs_nonneg _, ?_⟩
      rw [abs_of_nonneg (withinSupply_nonneg_of hWatt hPower)]
      exact withinSupply_le_iff.mpr hImportPower
    · exact ⟨hVoltage, le_rfl⟩

theorem limitsRight_iff_of_not_hack (hHack : config.hackAllowBptWithIso2 = false) :
    LimitsRight config watt (toldLimits config watt targetVoltage) ↔
      ExportMatches config.powersupplyCapabilities watt targetVoltage := by
  have hFeeds : ¬FeedsBack config watt := fun h => absurd (hHack.symm.trans h.1) nofun
  rw [toldLimits, applyExport_of_not_hack config hHack, dcMaximumLimits_eq, LimitsRight]
  simp only [hFeeds, Bool.false_eq_true, and_true]
  split_ifs with hNeg
  · -- all is set to zero, because something was negative
    simp only [withinSupply_neg_iff] at hNeg
    constructor
    · rintro ⟨hCurrent, hPower, hVoltage⟩
      rw [withinCapability_export hFeeds] at hCurrent hPower hVoltage
      refine ⟨hCurrent.2, hPower.2, hVoltage.1, .inl ?_⟩
      rcases hNeg with ⟨hWatt, hImport⟩ | ⟨hRaw, hImport⟩
      · exact ⟨hWatt.resolve_right (not_lt.mpr hPower.2), .inr hImport⟩
      · have hDirection := (rawCurrent_neg_cases
          (hRaw.resolve_right (not_lt.mpr hCurrent.2))).resolve_right (not_lt.mpr hCurrent.2)
        exact ⟨hDirection.2, .inl ⟨hDirection.1, hImport⟩⟩
    · rintro ⟨hCurrent, hPower, hVoltage, -⟩
      constructor <;> rw [withinCapability_export hFeeds]
      · exact ⟨le_rfl, hCurrent⟩
      · exact ⟨le_rfl, hPower⟩
      · exact ⟨hVoltage, le_rfl⟩
  · rw [not_or, not_lt, not_lt] at hNeg
    obtain ⟨hPowerNonneg, hCurrentNonneg⟩ := hNeg
    constructor
    · rintro ⟨hCurrent, hPower, hVoltage⟩
      rw [withinCapability_export hFeeds] at hCurrent hPower hVoltage
      exact ⟨hCurrent.1.trans hCurrent.2, hPower.1.trans hPower.2, hVoltage.1,
        .inr ⟨withinSupply_le_iff.mp hCurrent.2, withinSupply_le_iff.mp hPower.2⟩⟩
    · rintro ⟨hCurrent, hPower, hVoltage, hImport⟩
      have hSides : (∀ m ∈ config.powersupplyCapabilities.maxImportCurrentA,
            -m ≤ config.powersupplyCapabilities.maxExportCurrentA) ∧
          ∀ m ∈ config.powersupplyCapabilities.maxImportPowerW,
            -m ≤ config.powersupplyCapabilities.maxExportPowerW := by
        apply hImport.resolve_left
        rintro ⟨hWatt, ⟨hTarget, hImport⟩ | hImport⟩
        · have hRaw : rawCurrent config watt targetVoltage < 0 :=
            rawCurrent_neg hWatt (.inl hTarget)
          exact absurd (withinSupply_neg_iff.mpr ⟨.inl hRaw, hImport⟩) (not_lt.mpr hCurrentNonneg)
        · exact absurd (withinSupply_neg_iff.mpr ⟨.inl hWatt, hImport⟩) (not_lt.mpr hPowerNonneg)
      constructor <;> rw [withinCapability_export hFeeds]
      · exact ⟨hCurrentNonneg, withinSupply_le_iff.mpr hSides.1⟩
      · exact ⟨hPowerNonneg, withinSupply_le_iff.mpr hSides.2⟩
      · exact ⟨hVoltage, le_rfl⟩

/-- The limits that go with a power are right just when the power supply fits them. -/
theorem limitsRight_iff (watt targetVoltage : ℚ) :
    LimitsRight config watt (toldLimits config watt targetVoltage) ↔
      SupplyMatches config watt targetVoltage := by
  unfold SupplyMatches
  split_ifs with hFeeds
  · exact limitsRight_iff_of_feedsBack hFeeds
  · cases hHack : config.hackAllowBptWithIso2 with
    | false => exact limitsRight_iff_of_not_hack hHack
    | true => exact limitsRight_iff_of_hack hHack (not_lt.mp fun hWatt => hFeeds ⟨hHack, hWatt⟩)

variable (config)

/-- One call of the handler, which is given the target voltage and the limits, with all that
was done before. -/
def enforceStep (s : LimitState × List LimitOutput) (call : ℚ × EnforcedLimits) :
    Option (LimitState × List LimitOutput) :=
  (handleEnforceLimits config call.1 s.1 call.2).map fun (next, outputs) => (next, s.2 ++ outputs)

/-- The limits that the car was told last. -/
def lastTold (outputs : List LimitOutput) : Option EvseMaximumLimits :=
  (outputs.filterMap LimitOutput.told?).getLast?

/-- The car was told the limits of the power that was enforced last. -/
structure ToldLast (s : LimitState × List LimitOutput) : Prop where
  told : ∀ watt ∈ s.1.lastEnforcedLimits.totalPowerW,
    lastTold s.2 = some (toldLimits config watt s.1.lastTargetVoltage).1 ∧
      s.1.isActuallyExportingToGrid = (toldLimits config watt s.1.lastTargetVoltage).2
  fresh : s.1.lastEnforcedLimits.totalPowerW = none → s.1.isActuallyExportingToGrid = false

variable {config} {s : LimitState} {outputs : List LimitOutput}

theorem toldLast_start : ToldLast config ({}, []) where
  told := nofun
  fresh _ := rfl

/-- Without the hack the flag is never set, so the flag of before does not count. -/
theorem ToldLast.applyExport_eq (h : ToldLast config (s, outputs)) (limits : EvseMaximumLimits) :
    applyExport config limits s.isActuallyExportingToGrid = applyExport config limits false := by
  cases hHack : config.hackAllowBptWithIso2 with
  | false =>
      have hFlag : s.isActuallyExportingToGrid = false := by
        cases hPower : s.lastEnforcedLimits.totalPowerW with
        | none => exact h.fresh hPower
        | some watt =>
            rw [(h.told watt hPower).2, toldLimits, applyExport_of_not_hack config hHack]
      rw [hFlag]
  | true => rw [applyExport_of_hack config hHack, applyExport_of_hack config hHack]

/-- The part for DC leaves the car with the limits of the new power. -/
theorem ToldLast.enforceDc (h : ToldLast config (s, outputs)) {limits : LimitsRes}
    {watt targetVoltage : ℚ} (hPower : limits.totalPowerW = some watt) {next : LimitState}
    {told : List LimitOutput}
    (hNext : EvseManager.enforceDc config limits watt targetVoltage s = some (next, told)) :
    ToldLast config (next, outputs ++ told) ∧
      next.lastEnforcedLimits.totalPowerW = some watt ∧ next.lastTargetVoltage = targetVoltage := by
  unfold EvseManager.enforceDc at hNext
  obtain ⟨ampere, -, hNext⟩ := Option.bind_eq_some_iff.mp hNext
  dsimp only at hNext
  split at hNext
  · rw [h.applyExport_eq] at hNext
    obtain ⟨rfl, rfl⟩ := Prod.mk.inj (Option.some.inj hNext)
    refine ⟨⟨?_, fun hNone => absurd (hPower.symm.trans hNone) nofun⟩, hPower, rfl⟩
    intro other hOther
    obtain rfl := Option.some.inj (hPower.symm.trans hOther)
    refine ⟨?_, rfl⟩
    rw [lastTold, List.filterMap_append]
    exact List.getLast?_append_of_ne_nil _ (List.cons_ne_nil _ _)
  · next hSame =>
    obtain ⟨rfl, rfl⟩ := Prod.mk.inj (Option.some.inj hNext)
    simp only [not_or, not_not] at hSame
    rw [List.append_nil]
    exact ⟨h, hSame.1, hSame.2.2.symm⟩

theorem lastTold_chargerOutputs (value : EnforcedLimits) (told : List LimitOutput) :
    lastTold (outputs ++ (chargerOutputs config value ++ told)) = lastTold (outputs ++ told) := by
  simp only [lastTold, List.filterMap_append, chargerOutputs_told?, List.nil_append]

theorem ToldLast.step {s next : LimitState × List LimitOutput} (h : ToldLast config s)
    {call : ℚ × EnforcedLimits} (hNext : enforceStep config s call = some next) :
    ToldLast config next := by
  obtain ⟨⟨after, done⟩, hCall, rfl⟩ := Option.map_eq_some_iff.mp hNext
  rcases handleEnforceLimits_cases config hCall with ⟨-, rfl, rfl⟩ | ⟨-, told, rfl, hTold⟩
  · dsimp only
    rw [List.append_nil]
    exact h
  · rcases hTold with ⟨-, limits, watt, -, hPower, hDc⟩ | ⟨-, rfl, rfl⟩
    · have hAfter := (h.enforceDc hPower hDc).1
      exact ⟨fun other hOther => by
        rw [lastTold_chargerOutputs]
        exact hAfter.told other hOther, hAfter.fresh⟩
    · refine ⟨fun other hOther => ?_, h.fresh⟩
      rw [lastTold_chargerOutputs, List.append_nil]
      exact h.told other hOther

variable (config)

/-- After any calls of the handler, the last of them one with a power for DC, the limits that
the car was told and the direction of the energy are right just when the power supply fits
that power. -/
theorem lastTold_right_iff (hDc : config.isDc = true) (calls : List (ℚ × EnforcedLimits))
    (targetVoltage : ℚ) (value : EnforcedLimits) (hUuid : value.uuid = config.uuid)
    {limits : LimitsRes} (hSide : value.limitsRootSide = some limits) {watt : ℚ}
    (hPower : limits.totalPowerW = some watt)
    (hRun : run? (enforceStep config) ({}, []) (calls ++ [(targetVoltage, value)]) =
      some (s, outputs)) :
    ∃ told, lastTold outputs = some told ∧
      (LimitsRight config watt (told, s.isActuallyExportingToGrid) ↔
        SupplyMatches config watt targetVoltage) := by
  obtain ⟨before, hBefore, hLast⟩ := (run?_snoc_eq_some _).mp hRun
  have hInv : ToldLast config before :=
    run?_invariant (fun _ => ToldLast config) toldLast_start
      (fun _ _ _ _ hState hNext => hState.step hNext) hBefore
  obtain ⟨⟨after, done⟩, hCall, hEq⟩ := Option.map_eq_some_iff.mp hLast
  obtain ⟨rfl, rfl⟩ := Prod.mk.inj hEq
  rcases handleEnforceLimits_cases config hCall with ⟨hOther, -⟩ | ⟨-, told, rfl, hTold⟩
  · exact absurd hUuid hOther
  · rcases hTold with ⟨-, given, other, hGiven, hOther, hNext⟩ | ⟨hNone, -⟩
    · obtain rfl := Option.some.inj (hSide.symm.trans hGiven)
      obtain rfl := Option.some.inj (hPower.symm.trans hOther)
      obtain ⟨hAfter, hLastPower, rfl⟩ := hInv.enforceDc hPower hNext
      obtain ⟨hTold, hFlag⟩ := hAfter.told watt hLastPower
      refine ⟨_, (lastTold_chargerOutputs value told).trans hTold, ?_⟩
      dsimp only at hFlag
      rw [hFlag]
      exact limitsRight_iff watt _
    · exact absurd (hPower.symm.trans (hNone hDc limits hSide)) nofun

/-- A charger for DC that may let energy flow back, and 5 kW to be fed back. -/
def feedingEvse : EvseConfig := { gridEvse true with hackAllowBptWithIso2 := true }

def feedingLimits : EnforcedLimits where
  uuid := "evse"
  validUntil := 10
  limitsRootSide := some { totalPowerW := some (-5000), acMaxCurrentA := some (-8) }

/-- As long as the target voltage is not known, the car is told the current of the export,
and energy is taken to flow to the car. -/
theorem lastTold_without_voltage :
    ∃ s outputs, run? (enforceStep feedingEvse) ({}, []) [(0, feedingLimits)] = some (s, outputs) ∧
      lastTold outputs = some ⟨60, 5000, 900⟩ ∧ s.isActuallyExportingToGrid = false ∧
      ¬LimitsRight feedingEvse (-5000) (⟨60, 5000, 900⟩, false) := by
  refine ⟨_, _, rfl, by decide +kernel, by decide, ?_⟩
  rintro ⟨-, hFlag⟩
  exact absurd (hFlag.mpr ⟨rfl, by decide⟩) nofun

/-- Once it is known to be 400 V, they are those of the import. -/
theorem lastTold_right_with_voltage :
    ∃ s outputs,
      run? (enforceStep feedingEvse) ({}, []) [(0, feedingLimits), (400, feedingLimits)] =
        some (s, outputs) ∧
      ∃ told, lastTold outputs = some told ∧
        (LimitsRight feedingEvse (-5000) (told, s.isActuallyExportingToGrid) ↔
          SupplyMatches feedingEvse (-5000) 400) := by
  have hRuns : (run? (enforceStep feedingEvse) ({}, [])
      ([(0, feedingLimits)] ++ [(400, feedingLimits)])).isSome = true := by decide
  obtain ⟨⟨s, outputs⟩, hRun⟩ := Option.isSome_iff_exists.mp hRuns
  exact ⟨s, outputs, hRun,
    lastTold_right_iff feedingEvse rfl [(0, feedingLimits)] 400 feedingLimits rfl rfl rfl hRun⟩

end Supply

end EverestCore.EvseManager
