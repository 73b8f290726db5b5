import EverestCore.Charger.Latches
import EverestCore.Charger.TurnFrame

/-! What the charger does when it comes into a new state: that the entry actions
of the state are performed, which of them depend on the state before, and when
the start of charging is reported. A state is entered by the turn of the main
loop that finds `currentState` different from `lastState`. -/
namespace EverestCore
open Machine
namespace Charger

/-- The AC states that look for power before anything else. -/
def needsPower (c : Charger) : Bool :=
  c.chargeMode = .ac ∧ (c.currentState = .charging ∨ c.currentState = .chargingPausedEV)

/-- An output that belongs to no entry actions, and not to those of the current
state. -/
def afterEntry (c : Charger) (output : Output) : Prop :=
  output ∉ c.entryOutputs ∧ ∀ state, output ≠ .signalState state

/-- A turn that enters the current state begins with its entry actions. -/
theorem stateOutputs_enter {now : ℤ} {c : Charger} (hStarted : c.currentStateStarted = now)
    (hPower : c.needsPower = true → c.hasPower now = true) :
    ∃ rest, c.stateOutputs now true = c.ownEntryOutputs ++ rest ∧
      ∀ output ∈ rest, c.afterEntry output := by
  have hNow (step : ℤ) (hStep : 0 < step) : ¬ now - c.currentStateStarted ≥ step := by
    rw [hStarted]
    omega
  have hPowered (hPower : c.hasPower now = true) :
      c.poweredOutputs now true = c.ownEntryOutputs := by
    have hValid : c.expiryOutputs now = [] := by
      rw [hasPower, validLimit] at hPower
      rw [expiryOutputs]
      split_ifs at hPower ⊢
      · exact absurd hPower (by decide +kernel)
      · rfl
    simp [poweredOutputs, hValid, hPower]
  rw [stateOutputs]
  cases hState : c.currentState with
  | waitingForAuthentication =>
      refine ⟨_, rfl, ?_⟩
      intro output hMem
      split_ifs at hMem <;> simp only [List.mem_singleton, List.not_mem_nil] at hMem
      subst hMem
      cases hSession : c.sessionActive <;> cases hFive : c.startsWith5percent <;>
        simp [afterEntry, entryOutputs, ownEntryOutputs, hState, hSession, hFive]
  | tStepEF =>
      refine ⟨[], ?_, by simp⟩
      simp [hNow tStepEF (by decide)]
  | tStepX1 =>
      refine ⟨[], ?_, by simp⟩
      simp [hNow tStepX1 (by decide)]
  | prepareCharging =>
      refine ⟨_, rfl, ?_⟩
      intro output hMem
      simp only [if_true] at hMem
      split_ifs at hMem with hChanged <;> simp only [List.mem_singleton, List.not_mem_nil] at hMem
      subst hMem
      have hNominal : c.hlcUse5percentCurrentSession = false := by simpa using hChanged.1
      have hOther : ampereToDutyCycle c.maxCurrent ≠ ampereToDutyCycle 0 := by
        simpa using hChanged.2.symm
      simp [afterEntry, entryOutputs, ownEntryOutputs, hState, dutyFor, hNominal, hOther]
  | charging =>
      cases hMode : c.chargeMode with
      | ac => exact ⟨[], by simp [hPowered (hPower (by simp [needsPower, hMode, hState]))], by simp⟩
      | dc => exact ⟨[], by simp, by simp⟩
  | chargingPausedEV =>
      cases hMode : c.chargeMode with
      | ac => exact ⟨[], by simp [hPowered (hPower (by simp [needsPower, hMode, hState]))], by simp⟩
      | dc => exact ⟨[], by simp, by simp⟩
  | _ => exact ⟨[], by simp, by simp⟩

end Charger

namespace World

/-- A turn performs the entry actions of the state that it finds: it sends them
first, each of them once, and notes the instant. Only the notice that a limit has
run out may come before. -/
def PerformsEntry (w : World) (now : ℤ) : Prop :=
  (w.tick now).charger.currentStateStarted = now ∧
    ∃ rest, w.sent ⟨now, .tick⟩ =
        w.charger.expiryOutputs now ++ (w.charger.turnStart now).entryOutputs ++ rest ∧
      ∀ output ∈ rest, (w.charger.turnStart now).afterEntry output

/-- A turn that finds a new state performs its entry actions. -/
def EntersObserved (w : World) (c : Call) : Prop :=
  c.action = .tick → w.charger.lastState ≠ w.charger.currentState → w.PerformsEntry c.now

/-- A turn that finds a new state is not the one in which the timer of the
AC-with-SoC mode runs out, and there is power if the state looks for it first. -/
def EntrySafe (w : World) (c : Call) : Prop :=
  c.action = .tick → w.charger.lastState ≠ w.charger.currentState →
    socTimerFires w.charger = false ∧
      (w.charger.needsPower = true → w.charger.hasPower c.now = true)

/-- If neither the timer fires nor power is missing, the first turn in a state performs its entry
actions. -/
theorem performsEntry_of_safe {w : World} {now : ℤ}
    (hNew : w.charger.lastState ≠ w.charger.currentState)
    (hFires : socTimerFires w.charger = false)
    (hPower : w.charger.needsPower = true → w.charger.hasPower now = true) :
    w.PerformsEntry now := by
  have hStarted : (w.charger.turnStart now).currentStateStarted = now := if_pos hNew
  constructor
  · obtain ⟨five, breakReturn, -, hKept⟩ := tick_keptBut now w
    rw [← Charger.kept_currentStateStarted, hKept]
    exact if_pos ⟨hFires, hNew⟩
  · have hPower' : (w.charger.turnStart now).needsPower = true →
        (w.charger.turnStart now).hasPower now = true := by
      rw [Charger.hasPower_turnStart]
      exact hPower
    obtain ⟨rest, hOutputs, hRest⟩ := Charger.stateOutputs_enter hStarted hPower'
    refine ⟨rest, ?_, hRest⟩
    rw [sent_eq]
    simp only [Charger.callOutputs, Charger.tickOutputs, hFires, hNew, ne_eq, not_false_eq_true,
      decide_true, hOutputs, Charger.entryOutputs, Bool.false_eq_true, if_false, if_true,
      List.append_assoc]
    rfl

/-- The timer replaces the turn, and the entry actions with it. -/
theorem not_performsEntry_of_fires {w : World} {now : ℤ}
    (hFires : socTimerFires w.charger = true) : ¬ w.PerformsEntry now := by
  rintro ⟨-, rest, hSent, -⟩
  rw [sent_eq] at hSent
  simp [Charger.callOutputs, Charger.tickOutputs, hFires, Charger.entryOutputs] at hSent

/-- Without power, the states that look for it send nothing on entry. -/
theorem not_performsEntry_of_powerless {w : World} {now : ℤ}
    (hNew : w.charger.lastState ≠ w.charger.currentState)
    (hFires : socTimerFires w.charger = false) (hNeeds : w.charger.needsPower = true)
    (hPower : w.charger.hasPower now = false) : ¬ w.PerformsEntry now := by
  rintro ⟨-, rest, hSent, -⟩
  have hPower' : (w.charger.turnStart now).hasPower now = false := by
    rw [Charger.hasPower_turnStart, hPower]
  have hMode : (w.charger.turnStart now).chargeMode = .ac := by
    simp [Charger.needsPower] at hNeeds
    exact hNeeds.1
  rw [sent_eq] at hSent
  have hExpiry (event : SessionEvent) (rest : List Output) :
      (w.charger.turnStart now).expiryOutputs now ≠ .signalEvent event :: rest := by
    intro hEq
    apply Charger.signalEvent_not_mem_expiryOutputs now (w.charger.turnStart now) event
    rw [hEq]
    exact List.mem_cons_self
  have hStates : w.charger.currentState = .charging ∨ w.charger.currentState = .chargingPausedEV := by
    simp [Charger.needsPower] at hNeeds
    exact hNeeds.2
  rcases hStates with hState | hState <;>
    simp [Charger.callOutputs, Charger.tickOutputs, hFires, hState ▸ hNew, hState,
      Charger.entryOutputs, Charger.ownEntryOutputs, Charger.stateOutputs, hMode,
      Charger.poweredOutputs, hPower', hExpiry] at hSent

/-- Both obstacles together are the only ones. -/
theorem entersObserved_iff (w : World) (c : Call) : EntersObserved w c ↔ EntrySafe w c := by
  constructor
  · intro h hTick hNew
    have hEntry := h hTick hNew
    cases hFires : socTimerFires w.charger with
    | true => exact absurd hEntry (not_performsEntry_of_fires hFires)
    | false =>
        refine ⟨rfl, fun hNeeds => ?_⟩
        cases hPower : w.charger.hasPower c.now with
        | true => rfl
        | false => exact absurd hEntry (not_performsEntry_of_powerless hNew hFires hNeeds hPower)
  · intro h hTick hNew
    exact performsEntry_of_safe hNew (h hTick hNew).1 (h hTick hNew).2

/-- A disabled charger at rest, with the timer of the AC-with-SoC mode running. -/
def CountsDown (w : World) (timer : ℤ) : Prop :=
  w.charger.currentState = .disabled ∧ w.charger.lastState = .disabled ∧
    w.charger.acWithSocTimeout = true ∧ w.charger.acWithSocTimer = timer

/-- A turn takes fifty milliseconds off the timer. -/
theorem CountsDown.tick {w : World} {timer : ℤ} (h : CountsDown w timer) (now : ℤ)
    (hTimer : 50 ≤ timer) : CountsDown (w.tick now) (timer - 50) := by
  obtain ⟨hState, hLast, hTimeout, hRuns⟩ := h
  have hFires : socTimerFires w.charger = false := by
    rw [socTimerFires, hTimeout, hRuns]
    simp only [Bool.true_and, decide_eq_false_iff_not]
    omega
  obtain ⟨w', hCharger, -, hTick⟩ := tick_of_not_fires now hFires
  have hRest : w'.charger.currentState = .disabled := by rw [hCharger]; exact hState
  have hSame : w.tick now = w' := by
    rw [hTick, hState, hLast, runState, hRest]
    rfl
  rw [CountsDown, hSame, hCharger]
  exact ⟨hState, hState, hTimeout, by simp [Charger.turnStart, hTimeout, hRuns]⟩

/-- The timer has just run down when the charger is enabled. -/
theorem CountsDown.entry_lost {w : World} (h : CountsDown w 0) (now later : ℤ) :
    ¬ EntersObserved (w.call ⟨now, .enable⟩) ⟨later, .tick⟩ := by
  obtain ⟨hState, hLast, hTimeout, hRuns⟩ := h
  have hEnabled : (w.call ⟨now, .enable⟩).charger = { w.charger with currentState := .idle } := by
    simp [call, enable, hState, setState]
  rw [entersObserved_iff]
  intro hSafe
  have hFires := (hSafe rfl (by rw [hEnabled]; simp [hLast])).1
  rw [hEnabled] at hFires
  simp [socTimerFires, hTimeout, hRuns] at hFires

end World

/-- The turns of a main loop that is not disturbed. -/
def turns (n : ℕ) : List Call := (List.range n).map fun i : ℕ => ⟨50 * ((i : ℤ) + 1), .tick⟩

/-- Several turns in a row count down together, by induction on their number. -/
theorem World.CountsDown.run_turns {w : World} (n : ℕ) {timer : ℤ} (h : CountsDown w timer)
    (hTimer : 50 * (n : ℤ) ≤ timer) :
    CountsDown (Machine.run World.call w (turns n)) (timer - 50 * n) := by
  induction n with
  | zero => simpa [turns] using h
  | succ n ih =>
      have hPrior := ih (by omega)
      rw [turns, List.range_succ, List.map_append, List.map_singleton, run_snoc]
      have hEnd : timer - 50 * ((n + 1 : ℕ) : ℤ) = timer - 50 * n - 50 := by omega
      rw [hEnd]
      exact hPrior.tick _ (by omega)

/-- Every new state that a turn finds has its entry actions performed exactly if no
such turn is the one in which the timer runs out or one without the power that the
state looks for. -/
theorem every_entry_performed_iff (memory : Charger) (ppAmpacity : ℚ) (calls : List Call) :
    EveryStep World.call World.EntersObserved (World.create memory ppAmpacity) calls ↔
      EveryStep World.call World.EntrySafe (World.create memory ppAmpacity) calls :=
  eachAfter_congr fun _ _ _ => World.entersObserved_iff _ _

/-- The charger is enabled one hour after it was set up with a timeout. The turn
that finds it in `Idle` reports the timeout, and PWM is not switched off. -/
theorem entry_lost_to_timeout :
    ¬ EveryStep World.call World.EntersObserved (World.create .blank 0)
      ((⟨0, .setup { acSetup with acWithSocTimeout := true }⟩ :: turns 72000) ++
        [⟨3600010, .enable⟩] ++ [⟨3600050, .tick⟩]) := by
  intro h
  have hStart : World.CountsDown (World.call (World.create .blank 0)
      ⟨0, .setup { acSetup with acWithSocTimeout := true }⟩) 3600000 := ⟨rfl, rfl, rfl, rfl⟩
  have hCount : World.CountsDown _ 0 := hStart.run_turns 72000 (by omega)
  have hLast := ((everyStep_snoc _ _ _ _ _).mp h).2
  rw [run_snoc, run_cons] at hLast
  exact hCount.entry_lost 3600010 3600050 hLast

/-! Events that depend on the state before. -/

namespace World

/-- The turn finds the charger in `state`, which it was not in at the turn before. -/
def enters (w : World) (c : Call) (state : EvseState) : Prop :=
  c.action = .tick ∧ w.charger.currentState = state ∧ w.charger.lastState ≠ state

/-- `ChargingResumed` is sent only on entry into `Charging` from a pause;
`ReplugFinished` is sent on entry into `WaitingForAuthentication` from `Replug`,
and `AuthRequired` on every other entry. -/
def ReportsTransition (w : World) (c : Call) : Prop :=
  (.signalEvent .chargingResumed ∈ w.sent c → w.enters c .charging ∧
    w.charger.lastState ∈ [.chargingPausedEV, .chargingPausedEVSE, .waitingForEnergy]) ∧
  (.signalEvent .replugFinished ∈ w.sent c ↔
    w.enters c .waitingForAuthentication ∧ w.charger.lastState = .replug) ∧
  (.signalEvent .authRequired ∈ w.sent c ↔
    w.enters c .waitingForAuthentication ∧ w.charger.lastState ≠ .replug)

/-- An AC turn that enters `Charging` with power comes from a pause, and a turn
that enters `WaitingForAuthentication` does not come from `Replug` and is not
used up by the timer of the AC-with-SoC mode. -/
def TransitionSafe (w : World) (c : Call) : Prop :=
  (w.enters c .charging → w.charger.chargeMode = .ac → socTimerFires w.charger = false →
    w.charger.hasPower c.now = true →
      w.charger.lastState ∈ [.chargingPausedEV, .chargingPausedEVSE, .waitingForEnergy]) ∧
  (w.enters c .waitingForAuthentication →
    socTimerFires w.charger = false ∧ w.charger.lastState ≠ .replug)

/-- An event that no other call sends is sent by the code of a state. -/
theorem turnEvent_sent_iff {w : World} {c : Call} {event : SessionEvent}
    (hOther : ∀ action, action ≠ .tick → event ∉ w.charger.callEvents action) :
    .signalEvent event ∈ w.sent c ↔ c.action = .tick ∧ socTimerFires w.charger = false ∧
      .signalEvent event ∈ (w.charger.turnStart c.now).stateOutputs c.now
        (w.charger.lastState ≠ w.charger.currentState) := by
  rw [sent_eq, ← Charger.signalEvent_mem_tickOutputs]
  by_cases hTick : c.action = .tick
  · rw [Charger.callOutputs, hTick]
    simp
  · simp only [hTick, false_and, iff_false]
    exact fun hMem => hOther _ hTick (Charger.mem_callEvents hMem)

/-- The event is sent by the entry into `Charging` alone, and only in AC mode. -/
theorem chargingResumed_mem_stateOutputs_iff {now : ℤ} {newInState : Bool} {c : Charger} :
    .signalEvent .chargingResumed ∈ c.stateOutputs now newInState ↔
      c.currentState = .charging ∧ c.chargeMode = .ac ∧ newInState = true ∧
        c.hasPower now = true := by
  by_cases hState : c.currentState = .charging
  · have hExpiry := Charger.signalEvent_not_mem_expiryOutputs now c .chargingResumed
    cases hMode : c.chargeMode <;> cases newInState <;> cases hPower : c.hasPower now <;>
      simp [Charger.stateOutputs, hState, hMode, Charger.poweredOutputs, hPower, hExpiry,
        Charger.ownEntryOutputs, Charger.followOutputs]
  · simp only [hState, false_and, iff_false]
    intro hMem
    have hEvent := Charger.mem_turnEvents hMem
    cases hTurn : c.currentState <;> simp_all [EvseState.turnEvents]

/-- Each entry into the wait for an authorization asks for one. -/
theorem authRequired_mem_stateOutputs_iff {now : ℤ} {newInState : Bool} {c : Charger} :
    .signalEvent .authRequired ∈ c.stateOutputs now newInState ↔
      c.currentState = .waitingForAuthentication ∧ newInState = true := by
  by_cases hState : c.currentState = .waitingForAuthentication
  · cases newInState <;>
      simp [Charger.stateOutputs, hState, Charger.ownEntryOutputs]
  · simp only [hState, false_and, iff_false]
    intro hMem
    have hEvent := Charger.mem_turnEvents hMem
    cases hTurn : c.currentState <;> simp_all [EvseState.turnEvents]

/-- For a whole call: the turn must really run the state, and with power. -/
theorem chargingResumed_sent_iff (w : World) (c : Call) :
    .signalEvent .chargingResumed ∈ w.sent c ↔ w.enters c .charging ∧
      w.charger.chargeMode = .ac ∧ socTimerFires w.charger = false ∧
        w.charger.hasPower c.now = true := by
  rw [turnEvent_sent_iff, chargingResumed_mem_stateOutputs_iff, Charger.hasPower_turnStart, enters,
    Charger.turnStart_currentState, decide_eq_true_eq]
  · constructor
    · rintro ⟨hTick, hFires, hState, hMode, hNew, hPower⟩
      exact ⟨⟨hTick, hState, hState ▸ hNew⟩, hMode, hFires, hPower⟩
    · rintro ⟨⟨hTick, hState, hNew⟩, hMode, hFires, hPower⟩
      exact ⟨hTick, hFires, hState, hMode, hState ▸ hNew, hPower⟩
  · intro action hTick
    cases action <;> simp_all [Charger.callEvents]

/-- Whether there is power makes no difference to this event. -/
theorem authRequired_sent_iff (w : World) (c : Call) :
    .signalEvent .authRequired ∈ w.sent c ↔
      w.enters c .waitingForAuthentication ∧ socTimerFires w.charger = false := by
  rw [turnEvent_sent_iff, authRequired_mem_stateOutputs_iff, enters,
    Charger.turnStart_currentState, decide_eq_true_eq]
  · constructor
    · rintro ⟨hTick, hFires, hState, hNew⟩
      exact ⟨⟨hTick, hState, hState ▸ hNew⟩, hFires⟩
    · rintro ⟨⟨hTick, hState, hNew⟩, hFires⟩
      exact ⟨hTick, hFires, hState, hState ▸ hNew⟩
  · intro action hTick
    cases action <;> simp_all [Charger.callEvents]

/-- No code sends this event, whatever is called. -/
theorem replugFinished_not_sent (w : World) (c : Call) :
    .signalEvent .replugFinished ∉ w.sent c := by
  apply turnEvent_not_sent
  · intro action hTick
    cases action <;> simp_all [Charger.callEvents]
  · cases hTurn : w.charger.currentState <;> simp [EvseState.turnEvents]

/-- A call reports its transition exactly if it is none of those that are lost. -/
theorem reportsTransition_iff (w : World) (c : Call) :
    ReportsTransition w c ↔ TransitionSafe w c := by
  rw [ReportsTransition, TransitionSafe, chargingResumed_sent_iff, authRequired_sent_iff,
    iff_false_left (replugFinished_not_sent w c)]
  tauto

end World

/-- The events that tell where a state was entered from are right in a run exactly
if each of its turns is safe. -/
theorem transitions_reported_iff (memory : Charger) (ppAmpacity : ℚ) (calls : List Call) :
    EveryStep World.call World.ReportsTransition (World.create memory ppAmpacity) calls ↔
      EveryStep World.call World.TransitionSafe (World.create memory ppAmpacity) calls :=
  eachAfter_congr fun _ _ _ => World.reportsTransition_iff _ _

/-- The car asks for power for the first time in a session: charging is said to be
resumed. -/
theorem resumed_from_prepareCharging :
    ¬ EveryStep World.call World.ReportsTransition (World.create .blank 0)
      (acSession ++ [⟨210, .processEvent .carRequestedPower 0⟩, ⟨250, .tick⟩]) := by
  intro h
  have hLast := h (acSession ++ [⟨210, .processEvent .carRequestedPower 0⟩]) ⟨250, .tick⟩
    (by simp)
  exact absurd (hLast.1 (by decide +kernel)).2 (by decide +kernel)

/-! The start of charging. -/

namespace World

/-- The call leads from `PrepareCharging` to `Charging`, or, in AC mode and without
power, to `WaitingForEnergy`. -/
def startsCharging (w : World) (c : Call) : Bool :=
  w.charger.currentState = .prepareCharging ∧
    ((w.call c).charger.currentState = .charging ∨
      w.charger.chargeMode = .ac ∧ w.charger.hasPower c.now = false ∧
        (w.call c).charger.currentState = .waitingForEnergy)

/-- `ChargingStarted` is sent once by a call that starts charging, and by no other. -/
def ReportsStart (w : World) (c : Call) : Prop :=
  (w.sent c).count (.signalEvent .chargingStarted) = (w.startsCharging c).toNat

/-- In AC mode, the only event for the handler of `PrepareCharging` is the one by
which the car asks for power. -/
def StartSafe (w : World) (c : Call) : Prop :=
  match c.action with
  | .processEvent event _ => w.charger.currentState = .prepareCharging →
      w.charger.chargeMode = .ac → event.isStateEvent = true → event = .carRequestedPower
  | _ => True

/-- A call whose events do not contain the start does not send it. -/
theorem chargingStarted_not_sent {w : World} {c : Call}
    (h : .chargingStarted ∉ w.charger.callEvents c.action) :
    (w.sent c).count (.signalEvent .chargingStarted) = 0 := by
  rw [sent_eq]
  exact List.count_eq_zero.mpr fun hMem => h (Charger.mem_callEvents hMem)

/-- The transitions that count as a start of charging, as a check of the state before and after. -/
theorem startsCharging_eq (w : World) (c : Call) :
    w.startsCharging c = decide (w.charger.currentState = .prepareCharging ∧
      (w.charger.callState c = .charging ∨ w.charger.chargeMode = .ac ∧
        w.charger.hasPower c.now = false ∧ w.charger.callState c = .waitingForEnergy)) := by
  rw [startsCharging]
  by_cases hState : w.charger.currentState = .prepareCharging
  · rw [call_currentState w c fun _ => by rw [hState]; rfl]
  · simp [hState]

/-- Among the events that `PrepareCharging` handles in AC mode, only the demand for power is a
start. -/
theorem reportsStart_processEvent (w : World) (now : ℤ) (event : BoardEvent) (ppAmpacity : ℚ) :
    ReportsStart w ⟨now, .processEvent event ppAmpacity⟩ ↔
      StartSafe w ⟨now, .processEvent event ppAmpacity⟩ := by
  have hExpiry : (w.charger.expiryOutputs now).count (.signalEvent .chargingStarted) = 0 :=
    List.count_eq_zero.mpr (Charger.signalEvent_not_mem_expiryOutputs now _ _)
  rw [ReportsStart, StartSafe, sent_eq, startsCharging_eq, Charger.callOutputs, Charger.callState]
  by_cases hState : w.charger.currentState = .prepareCharging
  · cases hMode : w.charger.chargeMode <;> cases hPower : w.charger.hasPower now <;>
      cases event <;>
        simp [Charger.eventOutputs, Charger.eventState, hState, hMode, hPower,
          BoardEvent.isStateEvent, hExpiry]
  · have hOutputs : ((w.charger.eventOutputs now event).count
        (.signalEvent .chargingStarted)) = 0 := by
      rw [Charger.eventOutputs]
      split_ifs <;> simp_all
    simp [hState, hOutputs]

/-- A call that neither starts to charge nor reports a start is right. -/
theorem reportsStart_of_quiet {w : World} {c : Call}
    (hEvents : .chargingStarted ∉ w.charger.callEvents c.action)
    (hLeaves : w.charger.currentState = .prepareCharging →
      w.charger.callState c ≠ .charging ∧ w.charger.callState c ≠ .waitingForEnergy) :
    ReportsStart w c := by
  rw [ReportsStart, chargingStarted_not_sent hEvents, startsCharging_eq]
  by_cases hState : w.charger.currentState = .prepareCharging
  · simp [hLeaves hState]
  · simp [hState]

/-- For each call, the report agrees with the transition exactly under the condition of the theorem
below. -/
theorem reportsStart_iff (w : World) (c : Call) : ReportsStart w c ↔ StartSafe w c := by
  obtain ⟨now, action⟩ := c
  cases action
  case processEvent event ppAmpacity => exact reportsStart_processEvent w now event ppAmpacity
  case notifyCurrentDemandStarted =>
    rw [ReportsStart, sent_eq, startsCharging_eq]
    by_cases hState : w.charger.currentState = .prepareCharging <;>
      simp [Charger.callOutputs, Charger.callState, StartSafe, hState]
  -- No other call sends the event, and none leads from `PrepareCharging` to charging.
  all_goals
    refine iff_of_true (reportsStart_of_quiet ?_ ?_) trivial
  case tick.refine_1 =>
    dsimp only [Charger.callEvents]
    cases w.charger.currentState <;> decide
  case cancelTransaction.refine_2 =>
    intro hState
    dsimp only [Charger.callState]
    cases w.charger.chargeMode <;> split_ifs <;> simp [hState]
  all_goals simp +contextual [Charger.callEvents, Charger.callState]

end World

section Visits
variable {memory : Charger} {ppAmpacity : ℚ} {before : List Call}

/-- The number of starts that a run has reported. -/
def World.starts (w : World) : ℕ := w.outputs.count (.signalEvent .chargingStarted)

/-- The counter goes with the transitions, not with the reports. -/
theorem World.starts_call {w : World} {c : Call} (h : ReportsStart w c) :
    (w.call c).starts = w.starts + (w.startsCharging c).toNat := by
  rw [starts, outputs_call, List.count_append, h]
  rfl

/-- The calls are all made in one visit of `PrepareCharging`. -/
def IsVisit (memory : Charger) (ppAmpacity : ℚ) (before visit : List Call) : Prop :=
  EachAfter (fun mid _ => (World.run memory ppAmpacity (before ++ mid)).charger.currentState =
    .prepareCharging) visit

/-- As long as a run stays in `PrepareCharging`, no start is reported. -/
theorem starts_of_stay {stay : List Call}
    (hReports : EveryStep World.call World.ReportsStart (World.create memory ppAmpacity)
      (before ++ stay))
    (hStay : ∀ mid, mid <+: stay →
      (World.run memory ppAmpacity (before ++ mid)).charger.currentState = .prepareCharging) :
    (World.run memory ppAmpacity (before ++ stay)).starts =
      (World.run memory ppAmpacity before).starts := by
  induction stay using List.reverseRecOn with
  | nil => rw [List.append_nil]
  | append_singleton stay c ih =>
      have hNext := hStay (stay ++ [c]) (List.prefix_refl _)
      rw [← List.append_assoc] at hReports hNext ⊢
      rw [World.run, run_snoc] at hNext ⊢
      obtain ⟨hPrior, hLast⟩ := (everyStep_snoc _ _ _ _ _).mp hReports
      have hQuiet : World.startsCharging (Machine.run World.call (World.create memory ppAmpacity)
          (before ++ stay)) c = false := by
        simp [World.startsCharging, hNext]
      rw [World.starts_call hLast, hQuiet]
      exact ih hPrior fun mid hMid => hStay mid (hMid.trans (List.prefix_append _ _))

/-- In one visit, charging is started at most once. -/
theorem starts_of_visit {visit : List Call}
    (hReports : EveryStep World.call World.ReportsStart (World.create memory ppAmpacity)
      (before ++ visit)) (hVisit : IsVisit memory ppAmpacity before visit) :
    (World.run memory ppAmpacity (before ++ visit)).starts ≤
      (World.run memory ppAmpacity before).starts + 1 := by
  cases visit using List.reverseRecOn with
  | nil => simp
  | append_singleton stay c =>
      rw [← List.append_assoc] at hReports ⊢
      obtain ⟨hPrior, hLast⟩ := (everyStep_snoc _ _ _ _ _).mp hReports
      have hStay := starts_of_stay hPrior fun mid hMid => by
        obtain ⟨rest, rfl⟩ := hMid
        cases rest with
        | nil => exact hVisit mid c (by simp)
        | cons next rest => exact hVisit mid next (by simp)
      rw [World.run, run_snoc, World.starts_call hLast, ← hStay, World.run]
      cases World.startsCharging _ c <;> simp

end Visits

/-- The start of charging is reported exactly when it happens, and so at most once
in a visit of `PrepareCharging`. -/
def StartsReported (memory : Charger) (ppAmpacity : ℚ) (calls : List Call) : Prop :=
  EveryStep World.call World.ReportsStart (World.create memory ppAmpacity) calls ∧
    ∀ before visit, before ++ visit <+: calls → IsVisit memory ppAmpacity before visit →
      (World.run memory ppAmpacity (before ++ visit)).starts ≤
        (World.run memory ppAmpacity before).starts + 1

/-- The start of charging is reported as it should be if and only if no other event
comes to the handler of `PrepareCharging` in between. -/
theorem charging_start_reported_iff (memory : Charger) (ppAmpacity : ℚ) (calls : List Call) :
    StartsReported memory ppAmpacity calls ↔
      EveryStep World.call World.StartSafe (World.create memory ppAmpacity) calls := by
  have hIff : EveryStep World.call World.ReportsStart (World.create memory ppAmpacity) calls ↔
      EveryStep World.call World.StartSafe (World.create memory ppAmpacity) calls :=
    eachAfter_congr fun _ _ _ => World.reportsStart_iff _ _
  rw [StartsReported, ← hIff, and_iff_left_iff_imp]
  intro hReports before visit hPrefix
  apply starts_of_visit
  intro mid c hMid
  exact hReports mid c (hMid.trans hPrefix)

/-- In `PrepareCharging` the pilot line comes back from state F before the car asks
for power: charging is reported twice. -/
theorem charging_start_reported_twice :
    ¬ StartsReported .blank 0 (acSession ++ [⟨210, .processEvent .efToBCD 0⟩,
      ⟨220, .processEvent .carRequestedPower 0⟩]) := by
  intro h
  have hEvent : World.ReportsStart (World.run .blank 0 acSession)
      ⟨210, .processEvent .efToBCD 0⟩ := h.1 acSession _ (by simp)
  rw [World.ReportsStart] at hEvent
  exact absurd hEvent (by decide +kernel)

end EverestCore
