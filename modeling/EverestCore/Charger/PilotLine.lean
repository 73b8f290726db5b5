import EverestCore.Charger.AdvertisedCurrent

/-! The pilot line follows the limit. Beside the charger, the last PWM command is
kept with the instant at which it was sent; the charger's own notes agree with it
as long as PWM is on. -/
namespace EverestCore
open Machine

/-- The charger, and the last PWM command that it has sent. -/
structure PilotLine where
  world : World
  command : Option (ℤ × Output)

/-- The command that stands on the pilot line after an output. -/
def holdPwm (now : ℤ) (command : Option (ℤ × Output)) (output : Output) : Option (ℤ × Output) :=
  if output.isPwm then some (now, output) else command

namespace Charger

/-- An AC session with nominal PWM, in one of the states in which PWM is on. -/
def advertisesNominally (c : Charger) : Bool :=
  c.chargeMode = .ac ∧ c.hlcUse5percentCurrentSession = false ∧
    c.currentState ∈ [.prepareCharging, .charging, .chargingPausedEV]

/-- The turns that do not touch the pilot line: the one in which the timer of the
AC-with-SoC mode runs out, those of `WaitingForAuthentication`, and those of
`ChargingPausedEV` without power. -/
def leavesPilot (now : ℤ) (c : Charger) : Bool :=
  World.socTimerFires c || c.currentState = .waitingForAuthentication ||
    c.currentState = .chargingPausedEV && !c.hasPower now

end Charger

/-- The breaks in state F and X1 lead back to the session that was interrupted. -/
structure Charger.BreaksReturn (c : Charger) : Prop where
  noted : c.BreakInv
  stepEF : c.currentState = .tStepEF →
    c.tStepEFReturnState = .waitingForAuthentication ∨ c.tStepEFReturnState = .prepareCharging
  stepX1 : c.currentState = .tStepX1 → c.tStepX1ReturnPWM = 0

/-- The invariants of all runs say where the breaks lead. -/
theorem run_breaksReturn (memory : Charger) (ppAmpacity : ℚ) (calls : List Call) :
    (World.run memory ppAmpacity calls).charger.BreaksReturn where
  noted := run_breakInv memory ppAmpacity calls
  stepEF := (run_powerInv memory ppAmpacity calls).stepEF
  stepX1 := fun hState => ((run_powerInv memory ppAmpacity calls).stepX1 hState).2

namespace PilotLine

/-- One call, and what it leaves on the pilot line. -/
def call (p : PilotLine) (c : Call) : PilotLine where
  world := p.world.call c
  command := (p.world.sent c).foldl (holdPwm c.now) p.command

def create (memory : Charger) (ppAmpacity : ℚ) : PilotLine := ⟨World.create memory ppAmpacity, none⟩

/-- PWM, if it is on, advertises a limit or has been set less than five seconds ago. -/
def Follows (p : PilotLine) (now : ℤ) (ampere : ℚ) : Prop :=
  ∀ sentAt dc, p.command = some (sentAt, .callPwmOn dc) →
    dc = ampereToDutyCycle ampere ∨ now - sentAt < 5000

/-- At the end of a turn that leaves an AC session with nominal PWM, the pilot line
follows the limit that is valid in that turn. -/
def FollowsLimit (p : PilotLine) (c : Call) : Prop :=
  c.action = .tick → (p.call c).world.charger.advertisesNominally = true →
    (p.call c).Follows c.now (p.world.charger.validLimit c.now)

/-- A turn that does not touch the pilot line finds it as it should be. -/
def PilotSafe (p : PilotLine) (c : Call) : Prop :=
  c.action = .tick → (p.call c).world.charger.advertisesNominally = true →
    p.world.charger.leavesPilot c.now = true → p.Follows c.now (p.world.charger.validLimit c.now)

/-- The notes of the charger about the command on the pilot line. -/
def Noted (p : PilotLine) : Prop :=
  ∀ sentAt dc, p.command = some (sentAt, .callPwmOn dc) → p.world.charger.pwm = (dc, sentAt)

/-- The line and the record of the charger hear the same commands. -/
theorem foldl_noted (now : ℤ) {outputs : List Output} {command : Option (ℤ × Output)}
    {noted : ℚ × ℤ}
    (h : ∀ sentAt dc, command = some (sentAt, .callPwmOn dc) → noted = (dc, sentAt)) :
    ∀ sentAt dc, outputs.foldl (holdPwm now) command = some (sentAt, .callPwmOn dc) →
      outputs.foldl (trackPwm now) noted = (dc, sentAt) := by
  induction outputs generalizing command noted with
  | nil => exact h
  | cons output rest ih =>
      apply ih
      intro sentAt dc hCommand
      cases output with
      | callPwmOn sent =>
          simp only [holdPwm, Output.isPwm, if_true, Option.some.injEq, Prod.mk.injEq,
            Output.callPwmOn.injEq] at hCommand
          rw [trackPwm, hCommand.1, hCommand.2]
      | callPwmOff | callPwmF => simp [holdPwm, Output.isPwm] at hCommand
      | _ => exact h sentAt dc hCommand

/-- The record of the charger agrees with the line after every call. -/
theorem noted_call {p : PilotLine} (h : p.Noted) (c : Call) : (p.call c).Noted := by
  intro sentAt dc hCommand
  dsimp only [call] at hCommand ⊢
  rw [World.call_pwm]
  exact foldl_noted c.now h sentAt dc hCommand

/-- Without a command the line stays as it is. -/
theorem foldl_holdPwm_of_none (now : ℤ) (command : Option (ℤ × Output)) {outputs : List Output}
    (h : ∀ output ∈ outputs, output.isPwm = false) :
    outputs.foldl (holdPwm now) command = command := by
  induction outputs with
  | nil => rfl
  | cons output rest ih =>
      have hHead : holdPwm now command output = command := by
        simp [holdPwm, h output List.mem_cons_self]
      rw [List.foldl_cons, hHead, ih fun o hMem => h o (List.mem_cons_of_mem _ hMem)]

end PilotLine

namespace World

/-- The code of `PrepareCharging` brings nominal PWM to the limit. -/
theorem statePrepareCharging_follows {now : ℤ} {newInState : Bool} {c : Charger}
    (hState : c.currentState = .prepareCharging) (hNominal : c.hlcUse5percentCurrentSession = false) :
    ((c.stateOutputs now newInState).foldl (trackPwm now) c.pwm).1 =
      ampereToDutyCycle c.maxCurrent := by
  cases newInState
  · by_cases hSame : c.updatePwmLastDc = ampereToDutyCycle c.maxCurrent <;>
      simp [Charger.stateOutputs, hState, hNominal, hSame, trackPwm, Charger.pwm]
  · by_cases hSame : ampereToDutyCycle 0 = ampereToDutyCycle c.maxCurrent <;>
      simp [Charger.stateOutputs, hState, hNominal, hSame, trackPwm, Charger.ownEntryOutputs,
        Charger.dutyFor]

/-- With power, the states that follow the limit do so within five seconds. -/
theorem powered_follows {now : ℤ} {newInState : Bool} {c : Charger}
    (hState : c.currentState = .charging ∨ c.currentState = .chargingPausedEV)
    (hMode : c.chargeMode = .ac) (hNominal : c.hlcUse5percentCurrentSession = false)
    (hPower : c.hasPower now = true) :
    ((c.stateOutputs now newInState).foldl (trackPwm now) c.pwm).1 =
        ampereToDutyCycle c.maxCurrent ∨
      now - ((c.stateOutputs now newInState).foldl (trackPwm now) c.pwm).2 < 5000 := by
  have hOutputs : c.stateOutputs now newInState = c.poweredOutputs now newInState := by
    rcases hState with hState | hState <;> simp [Charger.stateOutputs, hState, hMode]
  rw [hOutputs, Charger.poweredOutputs, List.foldl_append, foldl_trackPwm_expiry, if_pos hPower]
  cases newInState
  · rw [if_neg (by simp), Charger.followOutputs]
    split_ifs with hChanged
    · exact .inl rfl
    · simp only [hNominal, Bool.not_false, true_and, not_and, not_le, ge_iff_le] at hChanged
      by_cases hSame : ampereToDutyCycle c.maxCurrent = c.updatePwmLastDc
      · exact .inl hSame.symm
      · exact .inr (hChanged hSame)
  · left
    rcases hState with hState | hState <;>
      simp [Charger.ownEntryOutputs, hState, hMode, trackPwm, Charger.dutyFor, hNominal]

/-- A session that has started with five percent goes on with them, or takes a
break first. -/
theorem checkAuthorization_not_nominal {w : World}
    (hState : w.charger.currentState = .waitingForAuthentication)
    (hMode : w.charger.chargeMode = .ac) (hHlc : w.charger.acHlcEnabledCurrentSession = true)
    (hFive : w.charger.hlcUse5percentCurrentSession = true) :
    w.checkAuthorization.charger.advertisesNominally = false := by
  have hEIM : w.proceedEIM.charger.advertisesNominally = false := by
    cases hEnforce : w.charger.acEnforceHlc <;> cases hMatching : w.charger.matchingStarted <;>
      simp [proceedEIM, startTransaction, setState, hMode, hHlc, hFive, hEnforce, hMatching,
        Charger.advertisesNominally]
  have hPnC : w.proceedPnC.charger.advertisesNominally = false := by
    simp [proceedPnC, startTransaction, setState, hMode, Charger.advertisesNominally]
  rw [checkAuthorization]
  split_ifs
  · simp [Charger.advertisesNominally, hState]
  · exact hEIM
  · exact hPnC
  · simp [Charger.advertisesNominally, hState]

/-- Before an authorization the pilot shows five percent, if high-level communication is tried
first. -/
theorem enterWaitingForAuthentication_five (now : ℤ) {w : World}
    (hState : w.charger.currentState = .waitingForAuthentication)
    (hLast : w.charger.lastState = .waitingForAuthentication)
    (hMode : w.charger.chargeMode = .ac) (hFive : w.charger.startsWith5percent = true) :
    (w.enterWaitingForAuthentication now).charger.currentState = .waitingForAuthentication ∧
      (w.enterWaitingForAuthentication now).charger.chargeMode = .ac ∧
      (w.enterWaitingForAuthentication now).charger.acHlcEnabledCurrentSession = true ∧
      (w.enterWaitingForAuthentication now).charger.hlcUse5percentCurrentSession = true := by
  rw [enterWaitingForAuthentication_charger now hLast]
  refine ⟨hState, hMode, ?_, hFive⟩
  simp only [Charger.startsWith5percent, hMode, Bool.and_eq_true] at hFive
  simp only [hMode, hFive.1]

/-- On the way to nominal PWM, `WaitingForAuthentication` sends no command. -/
theorem stateWaitingForAuthentication_silent {now : ℤ} {newInState : Bool} {w : World}
    (hState : w.charger.currentState = .waitingForAuthentication)
    (hLast : w.charger.lastState = .waitingForAuthentication)
    (hMode : w.charger.chargeMode = .ac)
    (hEnd : (w.stateWaitingForAuthentication now newInState).charger.advertisesNominally = true)
    {output : Output} (hMem : output ∈ w.charger.stateOutputs now newInState) :
    output.isPwm = false := by
  cases newInState with
  | false =>
      simp [Charger.stateOutputs, hState] at hMem
      rw [hMem.2]
      rfl
  | true =>
      cases hFive : w.charger.startsWith5percent with
      | true =>
          obtain ⟨hNext, hMode', hHlc, hFive'⟩ := enterWaitingForAuthentication_five now hState
            hLast hMode hFive
          rw [stateWaitingForAuthentication, if_pos rfl,
            checkAuthorization_not_nominal hNext hMode' hHlc hFive'] at hEnd
          exact absurd hEnd (by simp)
      | false =>
          simp [Charger.stateOutputs, hState, Charger.ownEntryOutputs, hFive] at hMem
          rcases hMem with rfl | ⟨-, rfl⟩ | rfl | ⟨-, rfl⟩ <;> rfl

/-- Without power, `ChargingPausedEV` sends no command. -/
theorem powerless_silent {now : ℤ} {newInState : Bool} {c : Charger}
    (hState : c.currentState = .chargingPausedEV) (hMode : c.chargeMode = .ac)
    (hPower : c.hasPower now = false) {output : Output}
    (hMem : output ∈ c.stateOutputs now newInState) : output.isPwm = false := by
  simp only [Charger.stateOutputs, hState, hMode, Charger.poweredOutputs, hPower,
    Bool.false_eq_true, if_false, List.append_nil] at hMem
  exact isPwm_expiry hMem

/-- Without power, `Charging` is left. -/
theorem stateCharging_powerless {now : ℤ} {newInState : Bool} {w : World}
    (hState : w.charger.currentState = .charging) (hMode : w.charger.chargeMode = .ac)
    (hPower : w.charger.hasPower now = false) :
    (w.stateCharging now newInState).charger.advertisesNominally = false := by
  obtain ⟨state, error, exceeded, last, hCharger, hNext⟩ := checkSoftOverCurrent_charger now w
  have hSame : ((w.checkSoftOverCurrent now).powerAvailable now).2.charger.currentState = state := by
    rw [powerAvailable_currentState, hCharger]
  have hEnd : (w.stateCharging now newInState).charger.currentState = .waitingForEnergy ∨
      (w.stateCharging now newInState).charger.currentState = .error := by
    dsimp only [stateCharging]
    rw [hMode]
    dsimp only
    rw [powerAvailable_fst, (checkSoftOverCurrent_reads now w).2.1, hPower, Bool.not_false,
      if_pos rfl, pauseChargingWaitForPower_currentState, hSame]
    rcases hNext with hNext | hNext <;> simp [hNext, hState]
  rcases hEnd with hEnd | hEnd <;> simp [Charger.advertisesNominally, hEnd]

/-- A charge that stops does not follow the limit any more. -/
theorem stateStoppingCharging_not_nominal {newInState : Bool} {w : World}
    (hState : w.charger.currentState = .stoppingCharging) :
    (w.stateStoppingCharging newInState).charger.advertisesNominally = false := by
  cases newInState <;> cases hMode : w.charger.chargeMode <;>
    cases hActive : w.charger.transactionActive <;>
      simp [stateStoppingCharging, hState, hMode, hActive, stopTransaction, setState,
        Charger.advertisesNominally]

/-- A session that is over does not follow the limit. -/
theorem stateFinished_not_nominal {newInState : Bool} {w : World}
    (hState : w.charger.currentState = .finished) :
    (w.stateFinished newInState).charger.advertisesNominally = false := by
  cases newInState <;> cases hActive : w.charger.transactionActive <;>
    simp [stateFinished, restart, hState, hActive, stopTransaction, stopSession, setState,
      Charger.advertisesNominally]

/-- The states whose code can leave a session with nominal PWM. -/
theorem runState_nominal {now : ℤ} {newInState : Bool} {w : World}
    (hEnd : (w.runState now newInState).charger.advertisesNominally = true) :
    w.charger.currentState ∈ [.waitingForAuthentication, .tStepEF, .tStepX1, .prepareCharging,
      .charging, .chargingPausedEV] := by
  cases hState : w.charger.currentState with
  | stoppingCharging =>
      rw [runState, hState, stateStoppingCharging_not_nominal hState] at hEnd
      exact absurd hEnd (by simp)
  | finished =>
      rw [runState, hState, stateFinished_not_nominal hState] at hEnd
      exact absurd hEnd (by simp)
  | disabled | replug | idle | chargingPausedEVSE | waitingForEnergy | error | faulted =>
      have hSame := runState_currentState now newInState (w := w) (by rw [hState]; rfl)
      simp [Charger.advertisesNominally, hSame, hState] at hEnd
  | _ => decide

/-- What a break in state F leaves on the pilot line. -/
theorem stateTStepEF_nominal {now : ℤ} {newInState : Bool} {w : World}
    (hState : w.charger.currentState = .tStepEF) (hBreak : w.charger.BreakInv)
    (hReturn : w.charger.tStepEFReturnState = .waitingForAuthentication ∨
      w.charger.tStepEFReturnState = .prepareCharging)
    (hEnd : (w.stateTStepEF now newInState).charger.advertisesNominally = true) :
    ∃ sent, w.charger.stateOutputs now newInState = sent ++ [.callPwmOff] := by
  rcases hReturn with hReturn | hReturn
  · exfalso
    dsimp only [stateTStepEF] at hEnd
    cases newInState <;> split_ifs at hEnd <;>
      simp_all [Charger.advertisesNominally, setState]
  · by_cases hTime : now - w.charger.currentStateStarted ≥ tStepEF
    · refine ⟨if newInState then w.charger.ownEntryOutputs else [], ?_⟩
      simp [Charger.stateOutputs, hState, hTime, Charger.returnOutputs, hBreak.1 hReturn]
    · exfalso
      cases newInState <;> simp [stateTStepEF, hTime, hState, Charger.advertisesNominally] at hEnd

/-- The break in X1 ends with the PWM off. -/
theorem stateTStepX1_nominal {now : ℤ} {newInState : Bool} {w : World}
    (hState : w.charger.currentState = .tStepX1) (hReturn : w.charger.tStepX1ReturnPWM = 0)
    (hEnd : (w.stateTStepX1 now newInState).charger.advertisesNominally = true) :
    ∃ sent, w.charger.stateOutputs now newInState = sent ++ [.callPwmOff] := by
  by_cases hTime : now - w.charger.currentStateStarted ≥ tStepX1
  · refine ⟨if newInState then w.charger.ownEntryOutputs else [], ?_⟩
    simp [Charger.stateOutputs, hState, hTime, Charger.returnOutputs, hReturn]
  · exfalso
    cases newInState <;> simp [stateTStepX1, hTime, hState, Charger.advertisesNominally] at hEnd

/-- The two ways in which a turn ends well: with PWM off, or with notes that follow
the limit. -/
def EndsWell (now : ℤ) (ampere : ℚ) (noted : ℚ × ℤ) (outputs : List Output) : Prop :=
  (∃ sent, outputs = sent ++ [.callPwmOff]) ∨
    (outputs.foldl (trackPwm now) noted).1 = ampereToDutyCycle ampere ∨
    now - (outputs.foldl (trackPwm now) noted).2 < 5000

/-- Only in AC mode the pilot shows the limit. -/
theorem runState_mode {now : ℤ} {newInState : Bool} {w : World}
    (hValid : w.charger.validLimit now = w.charger.maxCurrent)
    (hEnd : (w.runState now newInState).charger.advertisesNominally = true) :
    w.charger.chargeMode = .ac := by
  obtain ⟨five, breakReturn, -, hKept⟩ := runState_keptBut now newInState hValid
  have hMode := congrArg Kept.chargeMode hKept
  simp only [Charger.advertisesNominally, decide_eq_true_eq] at hEnd
  exact hMode.symm.trans hEnd.1

/-- The limit is only shown if the session is not on five percent. -/
theorem runState_nominalPwm {now : ℤ} {newInState : Bool} {w : World}
    (hValid : w.charger.validLimit now = w.charger.maxCurrent)
    (hState : w.charger.currentState ≠ .waitingForAuthentication)
    (hEnd : (w.runState now newInState).charger.advertisesNominally = true) :
    w.charger.hlcUse5percentCurrentSession = false := by
  have hFive := congrArg Kept.hlcUse5percent (runState_kept now newInState hValid hState)
  simp only [Charger.advertisesNominally, decide_eq_true_eq] at hEnd
  exact hFive.symm.trans hEnd.2.1

/-- The code of a state that touches the pilot line brings it to the limit. -/
theorem runState_endsWell {now : ℤ} {newInState : Bool} {w : World}
    (hValid : w.charger.validLimit now = w.charger.maxCurrent)
    (hBreaks : w.charger.BreaksReturn)
    (hEnd : (w.runState now newInState).charger.advertisesNominally = true)
    (hWaiting : w.charger.currentState ≠ .waitingForAuthentication)
    (hPaused : w.charger.currentState = .chargingPausedEV → w.charger.hasPower now = true) :
    EndsWell now w.charger.maxCurrent w.charger.pwm (w.charger.stateOutputs now newInState) := by
  have hMode := runState_mode hValid hEnd
  have hNominal := runState_nominalPwm hValid hWaiting hEnd
  have hStates := runState_nominal hEnd
  rw [runState] at hEnd
  cases hState : w.charger.currentState <;> rw [hState] at hStates hEnd <;> dsimp only at hEnd
  case waitingForAuthentication => exact absurd hState hWaiting
  case tStepEF =>
    exact .inl (stateTStepEF_nominal hState hBreaks.noted (hBreaks.stepEF hState) hEnd)
  case tStepX1 => exact .inl (stateTStepX1_nominal hState (hBreaks.stepX1 hState) hEnd)
  case prepareCharging => exact .inr (.inl (statePrepareCharging_follows hState hNominal))
  case charging =>
    cases hPower : w.charger.hasPower now with
    | true => exact .inr (powered_follows (.inl hState) hMode hNominal hPower)
    | false =>
        rw [stateCharging_powerless hState hMode hPower] at hEnd
        exact absurd hEnd (by simp)
  case chargingPausedEV =>
    exact .inr (powered_follows (.inr hState) hMode hNominal (hPaused hState))
  all_goals exact absurd hStates (by decide)

/-- The code of a state that leaves the pilot line alone. -/
theorem runState_silent {now : ℤ} {newInState : Bool} {w : World}
    (hLast : w.charger.lastState = w.charger.currentState)
    (hValid : w.charger.validLimit now = w.charger.maxCurrent)
    (hEnd : (w.runState now newInState).charger.advertisesNominally = true)
    (hLeaves : w.charger.currentState = .waitingForAuthentication ∨
      w.charger.currentState = .chargingPausedEV ∧ w.charger.hasPower now = false)
    {output : Output} (hMem : output ∈ w.charger.stateOutputs now newInState) :
    output.isPwm = false := by
  have hMode := runState_mode hValid hEnd
  rcases hLeaves with hState | ⟨hState, hPower⟩
  · rw [runState, hState] at hEnd
    exact stateWaitingForAuthentication_silent hState (hLast.trans hState) hMode hEnd hMem
  · exact powerless_silent hState hMode hPower hMem

/-- What was sent before makes no difference, unless it is a PWM command. -/
theorem EndsWell.append {now : ℤ} {ampere : ℚ} {noted : ℚ × ℤ} {before outputs : List Output}
    (hBefore : ∀ output ∈ before, output.isPwm = false)
    (h : EndsWell now ampere noted outputs) : EndsWell now ampere noted (before ++ outputs) := by
  rw [EndsWell, List.foldl_append, foldl_trackPwm_of_none now noted hBefore]
  refine h.imp_left fun hOff => ?_
  obtain ⟨sent, rfl⟩ := hOff
  exact ⟨before ++ sent, (List.append_assoc _ _ _).symm⟩

/-- What a turn sends before the code of the state is run. -/
theorem tickOutputs_split (now : ℤ) {c : Charger} (hFires : socTimerFires c = false) :
    ∃ before, (∀ output ∈ before, output.isPwm = false) ∧ c.tickOutputs now =
      before ++ (c.turnStart now).stateOutputs now (c.lastState ≠ c.currentState) := by
  refine ⟨c.expiryOutputs now ++ if c.lastState ≠ c.currentState then
    [.signalState c.currentState] ++
      (if c.currentState = .error then [.signalError c.errorState] else []) else [], ?_, ?_⟩
  · intro output hMem
    rcases List.mem_append.mp hMem with hExpiry | hEntry
    · exact isPwm_expiry hExpiry
    · split_ifs at hEntry <;> simp at hEntry
      · rcases hEntry with rfl | rfl <;> rfl
      · rw [hEntry]
        rfl
  · rw [Charger.tickOutputs, hFires, if_neg (by simp), List.append_assoc]

/-- A turn, seen from the pilot line: either it sends no command, or it ends well. -/
theorem tick_pilot {now : ℤ} {w : World} (hBreaks : w.charger.BreaksReturn)
    (hEnd : (w.tick now).charger.advertisesNominally = true) :
    (w.charger.leavesPilot now = true → ∀ output ∈ w.charger.tickOutputs now,
      output.isPwm = false) ∧
    (w.charger.leavesPilot now = false →
      EndsWell now (w.charger.validLimit now) w.charger.pwm (w.charger.tickOutputs now)) := by
  cases hFires : socTimerFires w.charger with
  | true =>
      refine ⟨fun _ output hMem => ?_, fun hTouches => ?_⟩
      · rw [Charger.tickOutputs, hFires, if_pos rfl, List.mem_append, List.mem_singleton] at hMem
        rcases hMem with hExpiry | rfl
        · exact isPwm_expiry hExpiry
        · rfl
      · simp [Charger.leavesPilot, hFires] at hTouches
  | false =>
      obtain ⟨before, hBefore, hOutputs⟩ := tickOutputs_split now hFires
      obtain ⟨w', hCharger, -, hTick⟩ := tick_of_not_fires now hFires
      have hValid : w'.charger.validLimit now = w'.charger.maxCurrent := by
        rw [hCharger, Charger.validLimit_turnStart]
        rfl
      rw [hTick] at hEnd
      rw [hOutputs, ← hCharger]
      have hState : w'.charger.currentState = w.charger.currentState := by rw [hCharger]; rfl
      have hPower : w'.charger.hasPower now = w.charger.hasPower now := by
        rw [hCharger, Charger.hasPower_turnStart]
      have hLeavesIff : w.charger.leavesPilot now =
          (decide (w'.charger.currentState = .waitingForAuthentication) ||
            decide (w'.charger.currentState = .chargingPausedEV) && !w'.charger.hasPower now) := by
        rw [Charger.leavesPilot, hFires, Bool.false_or, hState, hPower]
      rw [hLeavesIff]
      constructor
      · intro hLeaves output hMem
        rcases List.mem_append.mp hMem with hMem | hMem
        · exact hBefore output hMem
        · have hLast : w'.charger.lastState = w'.charger.currentState := by rw [hCharger]; rfl
          exact runState_silent hLast hValid hEnd (by simpa using hLeaves) hMem
      · intro hTouches
        simp only [Bool.or_eq_false_iff, decide_eq_false_iff_not, Bool.and_eq_false_iff,
          Bool.not_eq_false'] at hTouches
        have hBreaks' : w'.charger.BreaksReturn := by
          rw [hCharger]
          exact ⟨hBreaks.noted, hBreaks.stepEF, hBreaks.stepX1⟩
        have hWell := runState_endsWell hValid hBreaks' hEnd hTouches.1
          fun hPaused => hTouches.2.resolve_left (not_not.mpr hPaused)
        rw [← hValid, hCharger, Charger.validLimit_turnStart, ← hCharger] at hWell
        have hPwm : w'.charger.pwm = w.charger.pwm := by rw [hCharger]; rfl
        rw [hPwm] at hWell
        exact hWell.append hBefore

end World

namespace PilotLine

/-- At the end of a turn with notes that follow the limit, so does the pilot line. -/
theorem follows_of_endsWell {p : PilotLine} (h : p.Noted) {c : Call} {ampere : ℚ}
    (hWell : World.EndsWell c.now ampere p.world.charger.pwm (p.world.sent c)) :
    (p.call c).Follows c.now ampere := by
  intro sentAt dc hCommand
  have hNoted := noted_call h c sentAt dc hCommand
  dsimp only [call] at hNoted hCommand
  rw [World.call_pwm] at hNoted
  rcases hWell with ⟨sent, hOff⟩ | hDc | hRecent
  · rw [hOff, List.foldl_append] at hCommand
    simp [holdPwm, Output.isPwm] at hCommand
  · rw [hNoted] at hDc
    exact .inl hDc
  · rw [hNoted] at hRecent
    exact .inr hRecent

/-- For one call: the line follows the limit exactly if the call is none of the exceptions. -/
theorem followsLimit_iff {p : PilotLine} (hNoted : p.Noted)
    (hBreaks : p.world.charger.BreaksReturn) (c : Call) :
    FollowsLimit p c ↔ PilotSafe p c := by
  rw [FollowsLimit, PilotSafe]
  apply imp_congr_right
  intro hTick
  apply imp_congr_right
  intro hEnd
  have hCall : (p.call c).world = p.world.tick c.now := by
    rw [call, World.call, hTick]
  have hSent : p.world.sent c = p.world.charger.tickOutputs c.now := by
    rw [World.sent_eq, Charger.callOutputs, hTick]
  rw [hCall] at hEnd
  obtain ⟨hSilent, hWell⟩ := World.tick_pilot hBreaks hEnd
  cases hLeaves : p.world.charger.leavesPilot c.now with
  | true =>
      have hSame : (p.call c).command = p.command := by
        dsimp only [call]
        rw [hSent]
        exact foldl_holdPwm_of_none c.now p.command (hSilent hLeaves)
      rw [Follows, hSame]
      simp only [true_imp_iff]
      rfl
  | false =>
      simp only [Bool.false_eq_true, false_imp_iff, iff_true]
      apply follows_of_endsWell hNoted
      rw [hSent]
      exact hWell hLeaves

/-- The charger beside the line runs as it does without it. -/
theorem run_world (memory : Charger) (ppAmpacity : ℚ) (calls : List Call) :
    (Machine.run call (create memory ppAmpacity) calls).world = World.run memory ppAmpacity calls := by
  induction calls using List.reverseRecOn with
  | nil => rfl
  | append_singleton calls c ih =>
      rw [run_snoc, World.run_call, ← ih]
      rfl

end PilotLine

/-- PWM follows the limit at the end of every turn of a run exactly if those turns
that do not touch the pilot line find it as it should be. -/
theorem pilot_follows_limit_iff (memory : Charger) (ppAmpacity : ℚ) (calls : List Call) :
    EveryStep PilotLine.call PilotLine.FollowsLimit (PilotLine.create memory ppAmpacity) calls ↔
      EveryStep PilotLine.call PilotLine.PilotSafe (PilotLine.create memory ppAmpacity) calls := by
  apply eachAfter_congr
  intro before c _
  apply PilotLine.followsLimit_iff
  · have hCreate : (PilotLine.create memory ppAmpacity).Noted := by
      intro sentAt dc hCommand
      simp [PilotLine.create] at hCommand
    exact run_invariant PilotLine.Noted hCreate (fun _ c h => PilotLine.noted_call h c) before
  · rw [PilotLine.run_world]
    exact run_breaksReturn memory ppAmpacity before

/-- The car has paused, and the limit of 16 ampere has run out. Ten seconds later it
is still advertised. -/
theorem pilot_keeps_expired_limit :
    ¬ EveryStep PilotLine.call PilotLine.FollowsLimit (PilotLine.create .blank 0)
      (acSession ++ [⟨210, .processEvent .carRequestedPower 0⟩, ⟨250, .tick⟩,
        ⟨260, .processEvent .carRequestedStopPower 0⟩, ⟨300, .tick⟩] ++ [⟨110000, .tick⟩]) := by
  intro h
  have hLast := ((everyStep_snoc _ _ _ _ _).mp h).2
  have hStale := hLast rfl (by decide +kernel) 300 (ampereToDutyCycle 16) (by decide +kernel)
  exact absurd hStale (by decide +kernel)

end EverestCore
