import EverestCore.Charger.StateEntry

/-! The current that the charger advertises: how its limit is kept below the
rating of the plugged cable, and how PWM follows the limit that is valid. -/
namespace EverestCore
open Machine

/-- The limit is in range, and below the rating of the cable once one is plugged. -/
def Limits.Sound (plugged : Prop) (l : Limits) : Prop :=
  0 ≤ l.maxCurrent ∧ l.maxCurrent ≤ chargerAbsoluteMaxCurrent ∧
    (plugged → l.maxCurrent ≤ l.maxCurrentCable)

namespace Charger

/-- The call makes the charger read the rating of a cable that is plugged in. -/
def plugsIn (c : Charger) (call : Call) : Bool :=
  match call.action with
  | .processEvent .carPluggedIn _ => c.currentState = .idle
  | _ => false

/-- A plugged cable carries the limit that stands, and a limit is not cut to a
negative rating. -/
def limitSafe (c : Charger) (call : Call) : Bool :=
  match call.action with
  | .processEvent .carPluggedIn ppAmpacity =>
      decide (c.currentState = .idle → c.maxCurrent ≤ ppAmpacity)
  | .setMaxCurrentUntil ampere validUntil =>
      decide (acceptsLimit call.now ampere validUntil = true → 0 ≤ c.maxCurrentCable)
  | .setMaxCurrent ampere =>
      decide (acceptsLimit call.now ampere c.maxCurrentValidUntil = true → 0 ≤ c.maxCurrentCable)
  | _ => true

variable {c : Charger} {plugged : Prop}

/-- A limit that expires falls to zero, which is always sound. -/
theorem validLimit_sound (now : ℤ) (h : c.limits.Sound plugged) :
    Limits.Sound plugged { c.limits with maxCurrent := c.validLimit now } := by
  rw [validLimit]
  split_ifs
  · have hZero : (0 : ℚ) ≤ chargerAbsoluteMaxCurrent := by decide
    exact ⟨le_refl 0, hZero, fun hPlugged => h.1.trans (h.2.2 hPlugged)⟩
  · exact h

/-- A limit that is cut to the rating of the cable is sound unless the rating is
negative. -/
theorem limitToCable_sound_iff {l : Limits} {ampere : ℚ} (hSocket : c.connectorType = .iec62196Type2Socket)
    (hRange : 0 ≤ ampere ∧ ampere ≤ chargerAbsoluteMaxCurrent)
    (hMax : l.maxCurrent = World.limitToCable c ampere) (hCable : l.maxCurrentCable = c.maxCurrentCable) :
    l.Sound plugged ↔ 0 ≤ c.maxCurrentCable := by
  rw [Limits.Sound, hMax, hCable, World.limitToCable]
  split_ifs with hCut
  · have hBelow : c.maxCurrentCable ≤ chargerAbsoluteMaxCurrent := hCut.2.le.trans hRange.2
    exact ⟨fun h => h.1, fun h => ⟨h, hBelow, fun _ => le_refl _⟩⟩
  · have hFits : ampere ≤ c.maxCurrentCable := by
      by_contra hAbove
      exact hCut ⟨hSocket, not_le.mp hAbove⟩
    exact ⟨fun _ => hRange.1.trans hFits, fun _ => ⟨hRange.1, hRange.2, fun _ => hFits⟩⟩

/-- A new limit is taken over only if it is in range. -/
theorem acceptedLimit_sound_iff {l : Limits} {now validUntil : ℤ} {ampere : ℚ}
    (hSocket : c.connectorType = .iec62196Type2Socket) (h : c.limits.Sound plugged)
    (hMax : l.maxCurrent = World.limitToCable c ampere)
    (hCable : l.maxCurrentCable = c.maxCurrentCable) :
    (if acceptsLimit now ampere validUntil then l else c.limits).Sound plugged ↔
      (acceptsLimit now ampere validUntil = true → 0 ≤ c.maxCurrentCable) := by
  cases hAccepts : acceptsLimit now ampere validUntil with
  | false => exact iff_of_true h nofun
  | true =>
      have hRange : 0 ≤ ampere ∧ ampere ≤ chargerAbsoluteMaxCurrent := by
        simp only [acceptsLimit, decide_eq_true_eq] at hAccepts
        exact hAccepts.1
      rw [if_pos rfl, imp_iff_right (rfl : true = true)]
      exact limitToCable_sound_iff hSocket hRange hMax hCable

/-- A call keeps the limit below the cable exactly if it is safe: the plug-in of a weaker cable is
not, unless the limit is low. -/
theorem callLimits_sound_iff (hSocket : c.connectorType = .iec62196Type2Socket)
    (h : c.limits.Sound plugged) (call : Call) :
    (c.callLimits call).Sound (plugged ∨ c.plugsIn call = true) ↔ c.limitSafe call = true := by
  obtain ⟨now, action⟩ := call
  cases action
  case setMaxCurrentUntil ampere validUntil =>
    simp only [callLimits, limitSafe, plugsIn, Bool.false_eq_true, or_false, decide_eq_true_eq]
    exact acceptedLimit_sound_iff hSocket h rfl rfl
  case setMaxCurrent ampere =>
    simp only [callLimits, limitSafe, plugsIn, Bool.false_eq_true, or_false, decide_eq_true_eq]
    exact acceptedLimit_sound_iff hSocket h rfl rfl
  case tick =>
    simp only [callLimits, limitSafe, plugsIn, Bool.false_eq_true, or_false, iff_true]
    exact validLimit_sound now h
  case resumeChargingPowerAvailable =>
    simp only [callLimits, limitSafe, plugsIn, Bool.false_eq_true, or_false, iff_true]
    split_ifs
    · exact validLimit_sound now h
    · exact h
  case processEvent event ppAmpacity =>
    cases event
    case carPluggedIn =>
      by_cases hIdle : c.currentState = .idle
      · simp only [callLimits, limitSafe, plugsIn, hIdle, decide_true, or_true, if_true,
          decide_eq_true_eq]
        exact ⟨fun hNext _ => hNext.2.2 trivial, fun hFits => ⟨h.1, h.2.1, fun _ => hFits trivial⟩⟩
      · simpa [callLimits, limitSafe, plugsIn, hIdle] using h
    case carRequestedPower =>
      simp only [callLimits, limitSafe, plugsIn, Bool.false_eq_true, or_false, iff_true]
      split_ifs
      · exact validLimit_sound now h
      · exact h
    all_goals simpa [callLimits, limitSafe, plugsIn] using h
  all_goals simpa [callLimits, limitSafe, plugsIn] using h

/-- The duty cycles that are commanded when a state is entered. -/
theorem callPwmOn_mem_ownEntryOutputs {dc : ℚ} (h : .callPwmOn dc ∈ c.ownEntryOutputs) :
    dc = pwm5Percent ∨ dc = ampereToDutyCycle 0 ∨ dc = ampereToDutyCycle c.maxCurrent := by
  rw [ownEntryOutputs, stopTransactionOutputs] at h
  cases hState : c.currentState <;> rw [hState] at h <;> dsimp only [dutyFor] at h
  case waitingForAuthentication => split_ifs at h <;> simp_all
  case prepareCharging => split_ifs at h <;> simp_all
  case charging | chargingPausedEV =>
    cases hMode : c.chargeMode <;> split_ifs at h <;> simp_all
  case chargingPausedEVSE => cases hMode : c.chargeMode <;> simp_all
  case stoppingCharging => cases hMode : c.chargeMode <;> split_ifs at h <;> simp_all
  all_goals
    try split_ifs at h
    all_goals simp at h

/-- The duty cycles that are commanded in a turn with power. -/
theorem callPwmOn_mem_poweredOutputs {now : ℤ} {newInState : Bool} {dc : ℚ}
    (h : .callPwmOn dc ∈ c.poweredOutputs now newInState) :
    dc = pwm5Percent ∨ dc = ampereToDutyCycle 0 ∨ dc = ampereToDutyCycle c.maxCurrent := by
  rw [poweredOutputs, List.mem_append] at h
  rcases h with hExpiry | hTurn
  · exact Output.noConfusion (mem_expiryOutputs hExpiry)
  · rw [followOutputs] at hTurn
    split_ifs at hTurn
    · exact callPwmOn_mem_ownEntryOutputs hTurn
    all_goals simp_all

/-- The duty cycles that the code of a state can send. -/
theorem callPwmOn_mem_stateOutputs {now : ℤ} {newInState : Bool} {dc : ℚ}
    (h : .callPwmOn dc ∈ c.stateOutputs now newInState) :
    dc = pwm5Percent ∨ dc = ampereToDutyCycle 0 ∨ dc = ampereToDutyCycle c.maxCurrent ∨
      c.currentState = .tStepEF ∧ dc = c.tStepEFReturnPWM ∧ dc ≠ 0 ∨
      c.currentState = .tStepX1 ∧ dc = c.tStepX1ReturnPWM ∧ dc ≠ 0 := by
  have hEntry : .callPwmOn dc ∈ (if newInState then c.ownEntryOutputs else []) →
      dc = pwm5Percent ∨ dc = ampereToDutyCycle 0 ∨ dc = ampereToDutyCycle c.maxCurrent := by
    cases newInState
    · simp
    · exact callPwmOn_mem_ownEntryOutputs
  have hLimit : dc = pwm5Percent ∨ dc = ampereToDutyCycle 0 ∨ dc = ampereToDutyCycle c.maxCurrent →
      dc = pwm5Percent ∨ dc = ampereToDutyCycle 0 ∨ dc = ampereToDutyCycle c.maxCurrent ∨
        c.currentState = .tStepEF ∧ dc = c.tStepEFReturnPWM ∧ dc ≠ 0 ∨
        c.currentState = .tStepX1 ∧ dc = c.tStepX1ReturnPWM ∧ dc ≠ 0 := by tauto
  have hReturn {returned : ℚ} (hMem : .callPwmOn dc ∈ returnOutputs returned) :
      dc = returned ∧ dc ≠ 0 := by
    rw [returnOutputs] at hMem
    split_ifs at hMem <;> simp_all
  rw [stateOutputs] at h
  cases hState : c.currentState <;> rw [hState] at h hLimit <;> dsimp only at h
  case charging | chargingPausedEV =>
    cases hMode : c.chargeMode <;> rw [hMode] at h
    · exact hLimit (callPwmOn_mem_poweredOutputs h)
    · exact hLimit (hEntry h)
  case tStepEF =>
    rcases List.mem_append.mp h with hOwn | hRest
    · exact hLimit (hEntry hOwn)
    · split_ifs at hRest
      · exact .inr (.inr (.inr (.inl ⟨rfl, hReturn hRest⟩)))
      · simp at hRest
  case tStepX1 =>
    rcases List.mem_append.mp h with hOwn | hRest
    · exact hLimit (hEntry hOwn)
    · split_ifs at hRest
      · exact .inr (.inr (.inr (.inr ⟨rfl, hReturn hRest⟩)))
      · simp at hRest
  case waitingForAuthentication | prepareCharging =>
    rcases List.mem_append.mp h with hOwn | hRest
    · exact hLimit (hEntry hOwn)
    · split_ifs at hRest <;> simp_all
  all_goals exact hLimit (hEntry h)

/-- The duty cycles that a turn can send. -/
theorem callPwmOn_mem_tickOutputs {now : ℤ} {dc : ℚ} (h : .callPwmOn dc ∈ c.tickOutputs now) :
    dc = pwm5Percent ∨ dc = ampereToDutyCycle 0 ∨ dc = ampereToDutyCycle (c.validLimit now) ∨
      c.currentState = .tStepEF ∧ dc = c.tStepEFReturnPWM ∧ dc ≠ 0 ∨
      c.currentState = .tStepX1 ∧ dc = c.tStepX1ReturnPWM ∧ dc ≠ 0 := by
  have hState (hTurn : .callPwmOn dc ∈
      (c.turnStart now).stateOutputs now (c.lastState ≠ c.currentState)) :
      dc = pwm5Percent ∨ dc = ampereToDutyCycle 0 ∨ dc = ampereToDutyCycle (c.validLimit now) ∨
        c.currentState = .tStepEF ∧ dc = c.tStepEFReturnPWM ∧ dc ≠ 0 ∨
        c.currentState = .tStepX1 ∧ dc = c.tStepX1ReturnPWM ∧ dc ≠ 0 := by
    have hLimit : (c.turnStart now).maxCurrent = c.validLimit now := rfl
    rw [← hLimit]
    exact callPwmOn_mem_stateOutputs hTurn
  rw [tickOutputs, List.mem_append] at h
  rcases h with hExpiry | hTurn
  · exact Output.noConfusion (mem_expiryOutputs hExpiry)
  · split_ifs at hTurn
    · simp at hTurn
    all_goals
      simp only [List.mem_append, List.mem_singleton, List.not_mem_nil, reduceCtorEq,
        false_or] at hTurn
      exact hState hTurn

end Charger

/-- Where a break in state F leads, and with which duty cycle. -/
def Charger.BreakInv (c : Charger) : Prop :=
  (c.tStepEFReturnState = .prepareCharging → c.tStepEFReturnPWM = 0) ∧
    (c.tStepEFReturnState = .waitingForAuthentication →
      c.tStepEFReturnPWM = 0 ∨ c.tStepEFReturnPWM = pwm5Percent)

/-- The step lemma for where a break in F leads to, and with which PWM. -/
theorem World.call_breakInv {w : World} (h : w.charger.BreakInv) (c : Call) :
    (w.call c).charger.BreakInv := by
  by_cases hTick : c.action = .tick
  · obtain ⟨five, breakReturn, hReturn, hKept⟩ := World.tick_keptBut c.now w
    have hNext : ((w.tick c.now).charger.tStepEFReturnState,
        (w.tick c.now).charger.tStepEFReturnPWM) = breakReturn := congrArg Kept.breakReturn hKept
    have hCall : w.call c = w.tick c.now := by rw [call, hTick]
    rw [hCall]
    rcases hReturn with rfl | rfl <;> simp_all [Charger.BreakInv]
  · by_cases hError : c.action = .requestErrorSequence
    · have hCall : w.call c = w.requestErrorSequence := by rw [call, hError]
      rw [hCall, requestErrorSequence]
      split_ifs
      · simp only [Charger.BreakInv, update_charger, reduceCtorEq, false_imp_iff, true_and,
          true_imp_iff]
        split_ifs <;> simp
      · exact h
    · have hSame := congrArg Prod.snd (call_noted (w := w) hTick hError)
      simp only [Charger.noted, Prod.mk.injEq] at hSame
      rw [Charger.BreakInv, hSame.1, hSame.2]
      exact h

/-- No break has been noted at first. -/
theorem create_breakInv (memory : Charger) (ppAmpacity : ℚ) :
    (World.create memory ppAmpacity).charger.BreakInv := ⟨nofun, nofun⟩

/-- The run lemma, without a condition on the calls. -/
theorem run_breakInv (memory : Charger) (ppAmpacity : ℚ) (calls : List Call) :
    (World.run memory ppAmpacity calls).charger.BreakInv :=
  run_invariant (fun w : World => w.charger.BreakInv) (create_breakInv memory ppAmpacity)
    (fun _ c h => World.call_breakInv h c) calls

/-- The run lemma for the permission, in its weak form, which needs no condition. -/
theorem run_powerInv (memory : Charger) (ppAmpacity : ℚ) (calls : List Call) :
    PowerInv false (World.run memory ppAmpacity calls) :=
  run_invariant _ (World.create_powerInv false memory ppAmpacity)
    (fun _ c h => World.call_powerInv h c (by simp)) calls

/-- A turn of a run advertises five percent, nothing, or the limit that is valid. -/
theorem callPwmOn_sent_run {memory : Charger} {ppAmpacity : ℚ} {calls : List Call} {c : Call}
    {dc : ℚ} (h : .callPwmOn dc ∈ (World.run memory ppAmpacity calls).sent c) :
    c.action = .tick ∧ (dc = pwm5Percent ∨ dc = ampereToDutyCycle 0 ∨
      dc = ampereToDutyCycle ((World.run memory ppAmpacity calls).charger.validLimit c.now)) := by
  by_cases hTick : c.action = .tick
  · refine ⟨hTick, ?_⟩
    have hPower := run_powerInv memory ppAmpacity calls
    have hBreak := run_breakInv memory ppAmpacity calls
    rw [World.sent_eq, Charger.callOutputs, hTick] at h
    rcases Charger.callPwmOn_mem_tickOutputs h with h | h | h | ⟨hState, hDc, hZero⟩ |
      ⟨hState, hDc, hZero⟩
    · exact .inl h
    · exact .inr (.inl h)
    · exact .inr (.inr h)
    · rw [hDc] at hZero ⊢
      rcases hPower.stepEF hState with hReturn | hReturn
      · exact .inl ((hBreak.2 hReturn).resolve_left hZero)
      · exact absurd (hBreak.1 hReturn) hZero
    · exact absurd (hDc.trans (hPower.stepX1 hState).2) hZero
  · exact absurd (World.isPwm_sent hTick h) (by simp [Output.isPwm])

/-- A car has been plugged in and the rating of its cable has been read. -/
def PluggedIn (memory : Charger) (ppAmpacity : ℚ) (calls : List Call) : Prop :=
  ∃ before c, before ++ [c] <+: calls ∧
    (World.run memory ppAmpacity before).charger.plugsIn c = true

/-- A car has been plugged in if it was before, or the last call has done it. -/
theorem pluggedIn_snoc {memory : Charger} {ppAmpacity : ℚ} {calls : List Call} {c : Call} :
    PluggedIn memory ppAmpacity (calls ++ [c]) ↔ PluggedIn memory ppAmpacity calls ∨
      (World.run memory ppAmpacity calls).charger.plugsIn c = true := by
  constructor
  · rintro ⟨before, c', hPrefix, hPlugs⟩
    rcases List.prefix_concat_iff.mp hPrefix with hEq | hInner
    · obtain ⟨rfl, hSingle⟩ := List.append_inj' hEq rfl
      cases hSingle
      exact .inr hPlugs
    · exact .inl ⟨before, c', hInner, hPlugs⟩
  · rintro (⟨before, c', hPrefix, hPlugs⟩ | hPlugs)
    · exact ⟨before, c', hPrefix.trans (List.prefix_append _ _), hPlugs⟩
    · exact ⟨calls, c, List.prefix_refl _, hPlugs⟩

/-- The limit stays in range and below the rating of the plugged cable, and so does
every current that is advertised with nominal PWM. -/
def CableRespected (memory : Charger) (ppAmpacity : ℚ) (calls : List Call) : Prop :=
  (∀ mid, mid <+: calls → (World.run memory ppAmpacity mid).charger.limits.Sound
    (PluggedIn memory ppAmpacity mid)) ∧
  EachAfter (fun before c => PluggedIn memory ppAmpacity before → ∀ dc,
    .callPwmOn dc ∈ (World.run memory ppAmpacity before).sent c → dc = pwm5Percent ∨
      ∃ ampere, dc = ampereToDutyCycle ampere ∧ 0 ≤ ampere ∧
        ampere ≤ (World.run memory ppAmpacity before).charger.maxCurrentCable) calls

/-- The kind of the connector belongs to the configuration. -/
theorem callLimits_connectorType (c : Charger) (call : Call) :
    (c.callLimits call).connectorType = c.connectorType := by
  rw [Charger.callLimits.eq_def]
  split
  all_goals
    try split_ifs
    all_goals rfl

/-- The kind of the connector is the same in every state of a run. -/
theorem run_connectorType (memory : Charger) (ppAmpacity : ℚ) (calls : List Call) :
    (World.run memory ppAmpacity calls).charger.connectorType = memory.connectorType := by
  apply run_invariant (fun w : World => w.charger.connectorType = memory.connectorType) rfl
  intro w c h
  rw [← Charger.limits_connectorType, World.call_limits, callLimits_connectorType, h]

/-- What a sound limit is encoded to is a current that the cable stands. -/
theorem advertises_of_sound {c : Charger} {now : ℤ} {dc : ℚ} (hSound : c.limits.Sound True)
    (hDc : dc = pwm5Percent ∨ dc = ampereToDutyCycle 0 ∨
      dc = ampereToDutyCycle (c.validLimit now)) :
    dc = pwm5Percent ∨ ∃ ampere, dc = ampereToDutyCycle ampere ∧ 0 ≤ ampere ∧
      ampere ≤ c.maxCurrentCable := by
  rcases hDc with hDc | hDc | hDc
  · exact .inl hDc
  · exact .inr ⟨0, hDc, le_refl 0, hSound.1.trans (hSound.2.2 trivial)⟩
  · have hValid := Charger.validLimit_sound now hSound
    exact .inr ⟨_, hDc, hValid.1, hValid.2.2 trivial⟩

/-- In every run of a charger with a type 2 socket, the cable is respected exactly
if every cable that is plugged in carries the limit that stands at that moment and
no limit is accepted while the rating is negative. -/
theorem cable_respected_iff (memory : Charger) (ppAmpacity : ℚ) (calls : List Call)
    (hSocket : memory.connectorType = .iec62196Type2Socket) :
    CableRespected memory ppAmpacity calls ↔
      EveryStep World.call (fun w c => w.charger.limitSafe c = true) (World.create memory ppAmpacity)
        calls := by
  have hIff : (∀ mid, mid <+: calls → (World.run memory ppAmpacity mid).charger.limits.Sound
      (PluggedIn memory ppAmpacity mid)) ↔ EveryStep World.call (fun w c => w.charger.limitSafe c = true)
        (World.create memory ppAmpacity) calls := by
    apply forall_prefix_iff_eachAfter
    · have hRange : (0 : ℚ) ≤ 6 ∧ 6 ≤ chargerAbsoluteMaxCurrent := by decide
      refine ⟨hRange.1, hRange.2, ?_⟩
      rintro ⟨before, c, hPrefix, -⟩
      simp at hPrefix
    · intro before c _ hMid
      have hSound := hMid before (List.prefix_refl _)
      have hType : (World.run memory ppAmpacity before).charger.connectorType =
          .iec62196Type2Socket := (run_connectorType memory ppAmpacity before).trans hSocket
      rw [pluggedIn_snoc, World.run_call, World.call_limits]
      exact Charger.callLimits_sound_iff hType hSound c
  rw [CableRespected, hIff, and_iff_left_iff_imp, ← hIff]
  intro hSound before c hPrefix hPlugged dc hMem
  have hBefore := hSound before ((List.prefix_append _ _).trans hPrefix)
  exact advertises_of_sound ⟨hBefore.1, hBefore.2.1, fun _ => hBefore.2.2 hPlugged⟩
    (callPwmOn_sent_run hMem).2

/-- A charger with a socket, and a cable of 32 ampere for a limit of 16. -/
theorem cable_respected_strong_cable :
    CableRespected { Charger.blank with connectorType := .iec62196Type2Socket } 32
      [⟨0, .setup acSetup⟩, ⟨1, .setMaxCurrentUntil 16 100000⟩, ⟨2, .enable⟩, ⟨50, .tick⟩,
        ⟨60, .processEvent .carPluggedIn 32⟩, ⟨70, .setMaxCurrent 63⟩, ⟨100, .tick⟩] :=
  (cable_respected_iff { Charger.blank with connectorType := .iec62196Type2Socket } 32 _ rfl).mpr
    (by decide)

/-- The limit of 32 ampere was set before a cable of 13 ampere is plugged in. -/
theorem cable_not_respected_weak_cable :
    ¬ CableRespected { Charger.blank with connectorType := .iec62196Type2Socket } 32
      [⟨0, .setup acSetup⟩, ⟨1, .setMaxCurrentUntil 32 100000⟩, ⟨2, .enable⟩, ⟨50, .tick⟩,
        ⟨60, .processEvent .carPluggedIn 13⟩] := by
  intro h
  have hLast := h.1 _ (List.prefix_refl _)
  have hPlugged : PluggedIn { Charger.blank with connectorType := .iec62196Type2Socket } 32
      [⟨0, .setup acSetup⟩, ⟨1, .setMaxCurrentUntil 32 100000⟩, ⟨2, .enable⟩, ⟨50, .tick⟩,
        ⟨60, .processEvent .carPluggedIn 13⟩] :=
    ⟨[⟨0, .setup acSetup⟩, ⟨1, .setMaxCurrentUntil 32 100000⟩, ⟨2, .enable⟩, ⟨50, .tick⟩],
      _, List.prefix_refl _, by decide⟩
  exact absurd (hLast.2.2 hPlugged) (by decide)

end EverestCore
