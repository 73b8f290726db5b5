import EverestCore.Energy.EnergyNode
import EverestCore.Machine.Runs

/-! The energy request of an EVSE. It lives as long as the EVSE does and is edited in
place, so what an iteration of the publish loop does not write is what an earlier one
wrote. -/
namespace EverestCore.EvseManager
open Energy Machine

/-- `HardwareCapabilities` of the board, in both directions. -/
structure BoardCapabilities where
  maxCurrentAImport : ℚ
  minCurrentAImport : ℚ
  maxPhaseCountImport : ℤ
  minPhaseCountImport : ℤ
  maxCurrentAExport : ℚ
  minCurrentAExport : ℚ
  maxPhaseCountExport : ℤ
  minPhaseCountExport : ℤ
  supportsChangingPhasesDuringCharging : Bool
  deriving DecidableEq, Repr

def BoardCapabilities.importSide (caps : BoardCapabilities) : HardwareCapabilities :=
  ⟨caps.maxCurrentAImport, caps.minCurrentAImport, caps.maxPhaseCountImport,
    caps.minPhaseCountImport, caps.supportsChangingPhasesDuringCharging⟩

def BoardCapabilities.exportSide (caps : BoardCapabilities) : HardwareCapabilities :=
  ⟨caps.maxCurrentAExport, caps.minCurrentAExport, caps.maxPhaseCountExport,
    caps.minPhaseCountExport, caps.supportsChangingPhasesDuringCharging⟩

/-- What is settled before the publish loop starts. -/
structure RequestConfig where
  hwCapabilities : BoardCapabilities
  conversionEfficiencyImport : Option ℚ := none
  conversionEfficiencyExport : Option ℚ := none
  isDc : Bool
  deriving DecidableEq, Repr

/-- The local limits, and the two schedules of the request. -/
structure RequestState where
  localEnergyLimits : ExternalLimits := {}
  scheduleImport : List ScheduleReqEntry
  scheduleExport : List ScheduleReqEntry
  deriving DecidableEq, Repr

section Loop

variable (config : RequestConfig)

/-- `clear_request_schedules`. Energy from the grid is what the power supply exports. -/
def clearRequestSchedules (hour : ℤ) (s : RequestState) : RequestState :=
  { s with
    scheduleImport := clearRequestSchedule config.hwCapabilities.importSide
      config.conversionEfficiencyExport hour
    scheduleExport := clearRequestSchedule config.hwCapabilities.exportSide
      config.conversionEfficiencyImport hour }

/-- `updateLocalMaxWattLimit`: the other direction is limited to zero. -/
def updateLocalMaxWattLimit (maxWatt : ℚ) (now : ℤ) (s : RequestState) : RequestState :=
  let entry (watt : ℚ) : ScheduleReqEntry :=
    { timestamp := now, limitsToLeaves := { totalPowerW := watt } }
  if maxWatt ≥ 0 then
    { s with localEnergyLimits := ⟨some [entry maxWatt], some [entry 0]⟩ }
  else
    { s with localEnergyLimits := ⟨some [entry 0], some [entry (-maxWatt)]⟩ }

/-- `updateLocalMaxCurrentLimit`, which DC has no use for. -/
def updateLocalMaxCurrentLimit (maxCurrent : ℚ) (now : ℤ) (s : RequestState) : RequestState :=
  let entry (ampere : ℚ) : ScheduleReqEntry :=
    { timestamp := now, limitsToLeaves := { acMaxCurrentA := ampere } }
  if config.isDc then s
  else if maxCurrent ≥ 0 then
    { s with localEnergyLimits := ⟨some [entry maxCurrent], some [entry 0]⟩ }
  else
    { s with localEnergyLimits := ⟨some [entry 0], some [entry (-maxCurrent)]⟩ }

/-- One iteration of the publish loop. It publishes the request that it leaves. -/
def publishIteration (state : EvseState) (hour : ℤ) (s : RequestState) : RequestState :=
  { s with
    scheduleImport := publishedSchedule config.hwCapabilities.importSide
      config.conversionEfficiencyExport config.isDc hour state
      s.localEnergyLimits.scheduleImport s.scheduleImport
    scheduleExport := publishedSchedule config.hwCapabilities.exportSide
      config.conversionEfficiencyImport config.isDc hour state
      s.localEnergyLimits.scheduleExport s.scheduleExport }

/-- What happens to the limits and to the request. The first update is one of `ready`. -/
inductive RequestEvent where
  | updateLocalEnergyLimit (limits : ExternalLimits)
  | updateLocalMaxWattLimit (maxWatt : ℚ) (now : ℤ)
  | updateLocalMaxCurrentLimit (maxCurrent : ℚ) (now : ℤ)
  | publish (state : EvseState) (hour : ℤ)
  deriving DecidableEq, Repr

def requestStep (s : RequestState) : RequestEvent → RequestState
  | .updateLocalEnergyLimit limits => { s with localEnergyLimits := limits }
  | .updateLocalMaxWattLimit maxWatt now => updateLocalMaxWattLimit maxWatt now s
  | .updateLocalMaxCurrentLimit maxCurrent now => updateLocalMaxCurrentLimit config maxCurrent now s
  | .publish state hour => publishIteration config state hour s

/-- The request as `ready` clears it before the loop starts. -/
def requestStart (hour : ℤ) : RequestState :=
  clearRequestSchedules config hour { scheduleImport := [], scheduleExport := [] }

/-- The request after a history of the EVSE. -/
def requestAfter (hour : ℤ) (history : List RequestEvent) : RequestState :=
  run (requestStep config) (requestStart config hour) history

end Loop

section Present

/-- A schedule with the time of its first entry set, as each iteration sets it. -/
def setFirstTime (hour : ℤ) (schedule : List ScheduleReqEntry) : List ScheduleReqEntry :=
  schedule.modifyHead fun e => { e with timestamp := hour }

/-- Two requests with the same schedules, up to the time of their first entries. -/
def SameRequest (s t : RequestState) : Prop :=
  setFirstTime 0 s.scheduleImport = setFirstTime 0 t.scheduleImport ∧
    setFirstTime 0 s.scheduleExport = setFirstTime 0 t.scheduleExport

instance (s t : RequestState) : Decidable (SameRequest s t) := inferInstanceAs (Decidable (_ ∧ _))

variable {caps : HardwareCapabilities} {efficiency : Option ℚ} {isDc : Bool} {state : EvseState}
  {limits : Option (List ScheduleReqEntry)}

/-- Without need for energy, or with local limits, the old schedule is written over. -/
theorem setFirstTime_publishedSchedule (h : needsEnergy state = false ∨ limits.isSome)
    (hour₁ hour₂ : ℤ) (current₁ current₂ : List ScheduleReqEntry) :
    setFirstTime 0 (publishedSchedule caps efficiency isDc hour₁ state limits current₁) =
      setFirstTime 0 (publishedSchedule caps efficiency isDc hour₂ state limits current₂) := by
  unfold publishedSchedule
  cases hNeeds : needsEnergy state with
  | false => cases isDc <;> rfl
  | true =>
      obtain ⟨entries, rfl⟩ := Option.isSome_iff_exists.mp
        (h.resolve_left (by rw [hNeeds]; exact nofun))
      cases entries with
      | nil => cases isDc <;> rfl
      | cons e entries => rfl

/-- The power that is allowed on the leaf side. -/
def leafWatts (schedule : List ScheduleReqEntry) : List (Option ℚ) :=
  schedule.map fun e => e.limitsToLeaves.totalPowerW

theorem leafWatts_setFirstTime (hour : ℤ) (schedule : List ScheduleReqEntry) :
    leafWatts (setFirstTime hour schedule) = leafWatts schedule := by
  cases schedule <;> rfl

theorem applyHardwareLimits_totalPowerW (e : ScheduleReqEntry) :
    (applyHardwareLimits caps isDc e).limitsToLeaves.totalPowerW =
      e.limitsToLeaves.totalPowerW := by
  cases isDc <;> rfl

/-- Without local limits the power of the old schedule stays. -/
theorem leafWatts_publishedSchedule_none (hNeeds : needsEnergy state = true) (hour : ℤ)
    (current : List ScheduleReqEntry) :
    leafWatts (publishedSchedule caps efficiency isDc hour state none current) =
      leafWatts current := by
  rw [← leafWatts_setFirstTime hour current]
  simp only [publishedSchedule, hNeeds, if_true, leafWatts, List.map_map, Function.comp_def,
    applyHardwareLimits_totalPowerW, setFirstTime]

variable (config : RequestConfig)

/-- One more iteration after a history of the EVSE. -/
theorem requestAfter_publish (hour : ℤ) (history : List RequestEvent) (state : EvseState)
    (now : ℤ) :
    requestAfter config hour (history ++ [.publish state now]) =
      publishIteration config state now (requestAfter config hour history) :=
  run_snoc _ _ _ _

/-- The request follows from the present. -/
def FollowsFromPresent (state : EvseState) (limits : ExternalLimits) : Prop :=
  ∀ hour₁ hour₂ history₁ history₂ now₁ now₂,
    (requestAfter config hour₁ history₁).localEnergyLimits = limits →
    (requestAfter config hour₂ history₂).localEnergyLimits = limits →
    SameRequest (requestAfter config hour₁ (history₁ ++ [.publish state now₁]))
      (requestAfter config hour₂ (history₂ ++ [.publish state now₂]))

theorem followsFromPresent_of_limits {state : EvseState} {limits : ExternalLimits}
    (h : needsEnergy state = false ∨
      (limits.scheduleImport.isSome ∧ limits.scheduleExport.isSome)) :
    FollowsFromPresent config state limits := by
  intro hour₁ hour₂ history₁ history₂ now₁ now₂ hFirst hSecond
  rw [requestAfter_publish, requestAfter_publish]
  simp only [SameRequest, publishIteration, hFirst, hSecond]
  exact ⟨setFirstTime_publishedSchedule (h.imp_right And.left) _ _ _ _,
    setFirstTime_publishedSchedule (h.imp_right And.right) _ _ _ _⟩

/-- An EVSE that was idle before the limits came. -/
def idleBefore (limits : ExternalLimits) : List RequestEvent :=
  [.publish .idle 0, .updateLocalEnergyLimit limits]

/-- An EVSE that charged with 11 kW in both directions before the limits came. -/
def chargingBefore (limits : ExternalLimits) : List RequestEvent :=
  let entries : List ScheduleReqEntry :=
    [{ timestamp := 0, limitsToLeaves := { totalPowerW := some 11000 } }]
  [.updateLocalEnergyLimit ⟨some entries, some entries⟩, .publish .charging 0,
    .updateLocalEnergyLimit limits]

theorem leafWatts_idleBefore (limits : ExternalLimits) :
    leafWatts (requestAfter config 0 (idleBefore limits)).scheduleImport =
        [if config.isDc then some 0 else none] ∧
      leafWatts (requestAfter config 0 (idleBefore limits)).scheduleExport =
        [if config.isDc then some 0 else none] := by
  obtain ⟨caps, efficiencyImport, efficiencyExport, isDc⟩ := config
  cases isDc <;> exact ⟨rfl, rfl⟩

theorem leafWatts_chargingBefore (limits : ExternalLimits) :
    leafWatts (requestAfter config 0 (chargingBefore limits)).scheduleImport = [some 11000] ∧
      leafWatts (requestAfter config 0 (chargingBefore limits)).scheduleExport = [some 11000] := by
  obtain ⟨caps, efficiencyImport, efficiencyExport, isDc⟩ := config
  cases isDc <;> exact ⟨rfl, rfl⟩

theorem SameRequest.leafWatts {s t : RequestState} (h : SameRequest s t) :
    EvseManager.leafWatts s.scheduleImport = EvseManager.leafWatts t.scheduleImport ∧
      EvseManager.leafWatts s.scheduleExport = EvseManager.leafWatts t.scheduleExport := by
  have hImport := congrArg EvseManager.leafWatts h.1
  have hExport := congrArg EvseManager.leafWatts h.2
  rw [leafWatts_setFirstTime, leafWatts_setFirstTime] at hImport hExport
  exact ⟨hImport, hExport⟩

/-- Where one direction has no local limits, the two histories are told apart. -/
theorem not_followsFromPresent {state : EvseState} {limits : ExternalLimits}
    (hNeeds : needsEnergy state = true)
    (hAbsent : limits.scheduleImport = none ∨ limits.scheduleExport = none) :
    ¬FollowsFromPresent config state limits := by
  intro hFollows
  have hSame := (hFollows 0 0 (idleBefore limits) (chargingBefore limits) 0 0 rfl rfl).leafWatts
  rw [requestAfter_publish, requestAfter_publish] at hSame
  have hIdle : (requestAfter config 0 (idleBefore limits)).localEnergyLimits = limits := rfl
  have hCharging : (requestAfter config 0 (chargingBefore limits)).localEnergyLimits = limits := rfl
  simp only [publishIteration, hIdle, hCharging] at hSame
  have hZero := leafWatts_idleBefore config limits
  have hPower := leafWatts_chargingBefore config limits
  rcases hAbsent with hAbsent | hAbsent
  · have hImport := hSame.1
    rw [hAbsent, leafWatts_publishedSchedule_none hNeeds, leafWatts_publishedSchedule_none hNeeds,
      hZero.1, hPower.1] at hImport
    cases hMode : config.isDc <;> simp [hMode] at hImport
  · have hExport := hSame.2
    rw [hAbsent, leafWatts_publishedSchedule_none hNeeds, leafWatts_publishedSchedule_none hNeeds,
      hZero.2, hPower.2] at hExport
    cases hMode : config.isDc <;> simp [hMode] at hExport

/-- What an iteration publishes follows from the present just when no energy is needed, or
when there are local limits in both directions. -/
theorem followsFromPresent_iff (state : EvseState) (limits : ExternalLimits) :
    FollowsFromPresent config state limits ↔ needsEnergy state = false ∨
      (limits.scheduleImport.isSome ∧ limits.scheduleExport.isSome) := by
  constructor
  · intro hFollows
    cases hNeeds : needsEnergy state with
    | false => exact .inl rfl
    | true =>
        right
        by_contra hAbsent
        rw [not_and_or, Option.not_isSome_iff_eq_none, Option.not_isSome_iff_eq_none] at hAbsent
        exact not_followsFromPresent config hNeeds hAbsent hFollows
  · exact followsFromPresent_of_limits config

/-- A charger of 32 A for AC. -/
def acRequestConfig : RequestConfig where
  hwCapabilities := ⟨32, 6, 3, 1, 0, 0, 3, 1, false⟩
  isDc := false

/-- A charger that loses its local limits while it is idle goes on asking for nothing, and
one that loses them while it waits for the driver goes on asking for 32 A. -/
theorem requestAfter_lost_limits : ¬FollowsFromPresent acRequestConfig .charging {} := by
  intro hFollows
  have hSame := hFollows 0 0
    [.updateLocalMaxCurrentLimit 32 0, .publish .idle 0, .updateLocalEnergyLimit {}]
    [.updateLocalMaxCurrentLimit 32 0, .publish .idle 0, .publish .waitingForAuthentication 0,
      .updateLocalEnergyLimit {}] 0 0 rfl rfl
  exact absurd hSame (by decide)

end Present

end EverestCore.EvseManager
