import EverestCore.Charger.StateMachine

/-! When the charger permits power. One invariant ties the current state, the
states to which the two breaks return, and the transaction flag together. It
has two strengths: the weak one holds in every run and bounds the commands
that permit power; the strict one also bounds the commands that start PWM, and
needs a condition on one of the calls. -/
namespace EverestCore
open Machine

/-- The member variables on which the permission of power depends. -/
structure Control where
  currentState : EvseState
  transactionActive : Bool
  tStepEFReturnState : EvseState
  tStepEFReturnPWM : ℚ
  tStepX1ReturnState : EvseState
  tStepX1ReturnPWM : ℚ

def Charger.control (c : Charger) : Control where
  currentState := c.currentState
  transactionActive := c.transactionActive
  tStepEFReturnState := c.tStepEFReturnState
  tStepEFReturnPWM := c.tStepEFReturnPWM
  tStepX1ReturnState := c.tStepX1ReturnState
  tStepX1ReturnPWM := c.tStepX1ReturnPWM

/-- States that belong to a transaction. The break in state F belongs to one
only if it leads to `PrepareCharging`. -/
def Charger.Powered (c : Charger) : Prop :=
  c.currentState ∈ [.prepareCharging, .charging, .chargingPausedEV, .tStepX1] ∨
    c.currentState = .tStepEF ∧ c.tStepEFReturnState = .prepareCharging

/-- Power is only permitted while a transaction is active. -/
def permitsInTransaction (_ : List Emission) (e : Emission) : Prop :=
  e.output = .callAllowPowerOn true → e.charger.transactionActive = true

/-- PWM is only started inside a transaction or without a permission of power. -/
def startsPwmUnpermitted (before : List Emission) (e : Emission) : Prop :=
  ∀ dc, e.output = .callPwmOn dc →
    e.charger.transactionActive = true ∨ World.powerPermission before ≠ some true

def Output.isPwmOn : Output → Bool
  | .callPwmOn _ => true
  | _ => false

instance : DecidableRel startsPwmUnpermitted := fun before e =>
  decidable_of_iff
    (e.output.isPwmOn = true →
      e.charger.transactionActive = true ∨ World.powerPermission before ≠ some true)
    (by cases hOutput : e.output <;> simp [startsPwmUnpermitted, Output.isPwmOn, hOutput])

/-- A PWM command may be sent now. -/
def World.PwmAllowed (w : World) : Prop :=
  w.charger.transactionActive = true ∨ powerPermission w.log ≠ some true

instance (w : World) : Decidable w.PwmAllowed := inferInstanceAs (Decidable (_ ∨ _))

structure PowerInv (strict : Bool) (w : World) : Prop where
  powered : w.charger.Powered → w.charger.transactionActive = true
  stepX1 : w.charger.currentState = .tStepX1 →
    w.charger.tStepX1ReturnState = .prepareCharging ∧ w.charger.tStepX1ReturnPWM = 0
  stepEF : w.charger.currentState = .tStepEF →
    w.charger.tStepEFReturnState = .waitingForAuthentication ∨
      w.charger.tStepEFReturnState = .prepareCharging
  permits : EachAfter permitsInTransaction w.log
  returnPwm : strict = true → w.charger.currentState = .tStepEF →
    w.charger.tStepEFReturnPWM = 0 ∨ w.PwmAllowed
  startsPwm : strict = true → EachAfter startsPwmUnpermitted w.log

namespace World

@[simp] theorem powerPermission_allow (log : List Emission) (allow : Bool) (c : Charger) :
    powerPermission (log ++ [⟨.callAllowPowerOn allow, c⟩]) = some allow := by
  simp [powerPermission]

/-- Only calls of `allow_power_on` count for the permission that the board remembers. -/
theorem powerPermission_other (log : List Emission) (output : Output) (c : Charger)
    (h : ∀ allow, output ≠ .callAllowPowerOn allow) :
    powerPermission (log ++ [⟨output, c⟩]) = powerPermission log := by
  cases output <;> simp_all [powerPermission]

/-- The entry into the wait for an authorization gives no permission and takes none away. -/
theorem powerPermission_requireAuthentication (w : World) :
    powerPermission w.requireAuthentication.log = powerPermission w.log := by
  simp only [requireAuthentication, startSession, signalEvent]
  split_ifs <;> simp [powerPermission]

/-- The entry action itself does not go on to another state. The check behind it does. -/
theorem enterWaitingForAuthentication_currentState (now : ℤ) (w : World) :
    (w.enterWaitingForAuthentication now).charger.currentState = w.charger.currentState := by
  simp only [enterWaitingForAuthentication, requireAuthentication, configureHlc, startSession,
    signalEvent, updatePwmNow]
  cases hMode : w.charger.chargeMode <;> split_ifs <;> simp [hMode]

/-- Preparing the charge neither starts nor stops a transaction. -/
theorem enterPrepareCharging_transactionActive (now : ℤ) (w : World) :
    (w.enterPrepareCharging now).charger.transactionActive = w.charger.transactionActive := by
  dsimp only [enterPrepareCharging]
  split_ifs <;> rfl

/-- An over-current raises an error, and the transaction is closed only later. -/
theorem checkSoftOverCurrent_transactionActive (now : ℤ) (w : World) :
    (w.checkSoftOverCurrent now).charger.transactionActive = w.charger.transactionActive := by
  dsimp only [checkSoftOverCurrent]
  split_ifs <;> rfl

/-- Looking at the limit may expire it, which is no business of the transaction. -/
theorem powerAvailable_transactionActive (now : ℤ) (w : World) :
    (w.powerAvailable now).2.charger.transactionActive = w.charger.transactionActive := by
  dsimp only [powerAvailable]
  split_ifs <;> rfl

end World

namespace PowerInv

variable {strict : Bool} {w : World}

/-- An output keeps the invariant if it permits power in a transaction only, and PWM where it is
allowed. -/
theorem emit (h : PowerInv strict w) (output : Output)
    (hAllow : output = .callAllowPowerOn true → w.charger.transactionActive = true)
    (hPwm : strict = true → ∀ dc, output = .callPwmOn dc → w.PwmAllowed) :
    PowerInv strict (w.emit output) := by
  refine ⟨h.powered, h.stepX1, h.stepEF, eachAfter_snoc.mpr ⟨h.permits, hAllow⟩, ?_, ?_⟩
  · intro hStrict hState
    rcases h.returnPwm hStrict hState with hZero | hActive | hPermission
    · exact Or.inl hZero
    · exact Or.inr (Or.inl hActive)
    · by_cases hOutput : ∃ allow, output = .callAllowPowerOn allow
      · obtain ⟨allow, rfl⟩ := hOutput
        cases allow with
        | false => exact Or.inr (Or.inr (by simp))
        | true => exact Or.inr (Or.inl (hAllow rfl))
      · rw [not_exists] at hOutput
        refine Or.inr (Or.inr ?_)
        rw [World.emit_log, World.powerPermission_other _ _ _ hOutput]
        exact hPermission
  · intro hStrict
    exact eachAfter_snoc.mpr ⟨h.startsPwm hStrict, hPwm hStrict⟩

/-- Outputs that are neither a permission nor a PWM duty cycle. -/
theorem emitPlain (h : PowerInv strict w) (output : Output)
    (hAllow : output ≠ .callAllowPowerOn true) (hPwm : ∀ dc, output ≠ .callPwmOn dc) :
    PowerInv strict (w.emit output) :=
  h.emit output (fun hOutput => absurd hOutput hAllow) (fun _ dc hOutput => absurd hOutput (hPwm dc))

/-- Events are no commands to the board. -/
theorem signalEvent (h : PowerInv strict w) (event : SessionEvent) :
    PowerInv strict (w.signalEvent event) :=
  h.emitPlain _ (by simp) (by simp)

/-- Assignments to other member variables. -/
theorem update (h : PowerInv strict w) (assign : Charger → Charger)
    (hSame : (assign w.charger).control = w.charger.control) :
    PowerInv strict (w.update assign) := by
  simp only [Charger.control, Control.mk.injEq] at hSame
  obtain ⟨hState, hActive, hEF, hEFPwm, hX1, hX1Pwm⟩ := hSame
  constructor
  · simpa only [World.update_charger, Charger.Powered, hState, hActive, hEF] using h.powered
  · simpa only [World.update_charger, hState, hX1, hX1Pwm] using h.stepX1
  · simpa only [World.update_charger, hState, hEF] using h.stepEF
  · exact h.permits
  · simpa only [World.PwmAllowed, World.update_charger, World.update_log, hState, hActive,
      hEFPwm] using h.returnPwm
  · exact h.startsPwm

/-- Assignments that lead to a state outside of any transaction. -/
theorem updateUnpowered (h : PowerInv strict w) (assign : Charger → Charger)
    (hState : (assign w.charger).currentState ∉
      [.prepareCharging, .charging, .chargingPausedEV, .tStepX1, .tStepEF]) :
    PowerInv strict (w.update assign) := by
  simp only [List.mem_cons, List.not_mem_nil, or_false, not_or] at hState
  obtain ⟨hPrepare, hCharging, hPaused, hX1, hEF⟩ := hState
  constructor
  · simp [Charger.Powered, hPrepare, hCharging, hPaused, hX1, hEF]
  · simp [hX1]
  · simp [hEF]
  · exact h.permits
  · simp [hEF]
  · exact h.startsPwm

/-- Assignments inside a transaction, to a state that is not one of the breaks. -/
theorem updateActive (h : PowerInv strict w) (assign : Charger → Charger)
    (hActive : (assign w.charger).transactionActive = true)
    (hState : (assign w.charger).currentState ∉ [.tStepX1, .tStepEF]) :
    PowerInv strict (w.update assign) := by
  simp only [List.mem_cons, List.not_mem_nil, or_false, not_or] at hState
  exact ⟨fun _ => hActive, fun hX1 => absurd hX1 hState.1, fun hEF => absurd hEF hState.2,
    h.permits, fun _ hEF => absurd hEF hState.2, h.startsPwm⟩

/-- A state that never has power may be entered at any time. -/
theorem setStateUnpowered (h : PowerInv strict w) (state : EvseState)
    (hState : state ∉ [.prepareCharging, .charging, .chargingPausedEV, .tStepX1, .tStepEF]) :
    PowerInv strict (w.setState state) :=
  h.updateUnpowered _ hState

/-- The powered states may be entered in a transaction. -/
theorem setStateActive (h : PowerInv strict w) (state : EvseState)
    (hActive : w.charger.transactionActive = true) (hState : state ∉ [.tStepX1, .tStepEF]) :
    PowerInv strict (w.setState state) :=
  h.updateActive _ hActive hState

/-- This is what the invariant is for: in the states that close the contactor there is a
transaction. -/
theorem active_of_state (h : PowerInv strict w)
    (hState : w.charger.currentState ∈
      [.prepareCharging, .charging, .chargingPausedEV, .tStepX1]) :
    w.charger.transactionActive = true :=
  h.powered (Or.inl hState)

/-- The PWM is commanded where it is allowed, with the time noted. -/
theorem updatePwmNow (h : PowerInv strict w) (now : ℤ) (dc : ℚ)
    (hPwm : strict = true → w.PwmAllowed) : PowerInv strict (w.updatePwmNow now dc) := by
  have hDc := h.update (fun c => { c with updatePwmLastDc := dc }) rfl
  exact (hDc.emit (.callPwmOn dc) (by simp) (fun hStrict _ _ => hPwm hStrict)).update _ rfl

/-- A command that is only sent for a new duty cycle. -/
theorem updatePwmNowIfChanged (h : PowerInv strict w) (now : ℤ) (dc : ℚ)
    (hPwm : strict = true → w.PwmAllowed) : PowerInv strict (w.updatePwmNowIfChanged now dc) := by
  rw [World.updatePwmNowIfChanged]
  split_ifs
  · exact h.updatePwmNow now dc hPwm
  · exact h

/-- A command that is only sent if the last one is old enough. -/
theorem updatePwmMaxEvery5seconds (h : PowerInv strict w) (now : ℤ) (dc : ℚ)
    (hPwm : strict = true → w.PwmAllowed) :
    PowerInv strict (w.updatePwmMaxEvery5seconds now dc) := by
  rw [World.updatePwmMaxEvery5seconds]
  split_ifs
  · exact h.updatePwmNow now dc hPwm
  · exact h
  · exact h

/-- Switching the PWM off is harmless in every state. -/
theorem pwmOff (h : PowerInv strict w) : PowerInv strict w.pwmOff :=
  h.emitPlain _ (by simp) (by simp)

/-- The error state of the pilot, F, is harmless in every state. -/
theorem pwmF (h : PowerInv strict w) : PowerInv strict w.pwmF :=
  h.emitPlain _ (by simp) (by simp)

/-- The limit that may expire here is signalled, and this is no command to the board. -/
theorem powerAvailable (h : PowerInv strict w) (now : ℤ) :
    PowerInv strict (w.powerAvailable now).2 := by
  dsimp only [World.powerAvailable]
  split_ifs
  · exact (h.update _ rfl).emitPlain _ (by simp) (by simp)
  · exact h

theorem startSession (h : PowerInv strict w) (authfirst : Bool) :
    PowerInv strict (w.startSession authfirst) :=
  (h.update _ rfl).signalEvent _

theorem stopSession (h : PowerInv strict w) : PowerInv strict w.stopSession :=
  (h.update _ rfl).signalEvent _

/-- A transaction may be stopped only outside of the states that rely on it. -/
theorem stopTransaction (h : PowerInv strict w)
    (hState : w.charger.currentState ∉
      [.prepareCharging, .charging, .chargingPausedEV, .tStepX1, .tStepEF]) :
    PowerInv strict w.stopTransaction :=
  ((h.updateUnpowered _ hState).signalEvent _).signalEvent _

theorem authorize (h : PowerInv strict w) (a : Bool) (userid : String) (pnc : Bool) :
    PowerInv strict (w.authorize a userid pnc) := by
  rw [World.authorize]
  split_ifs with _ hSession hSession
  · exact (h.startSession true).update _ rfl
  · exact h.update _ rfl
  · exact h.stopSession.update _ rfl
  · exact h.update _ rfl

/-- An over-current leads into `Error`, where no power is needed. -/
theorem checkSoftOverCurrent (h : PowerInv strict w) (now : ℤ) :
    PowerInv strict (w.checkSoftOverCurrent now) := by
  dsimp only [World.checkSoftOverCurrent]
  split_ifs
  all_goals first
    | exact h
    | exact h.update _ rfl
    | exact h.updateUnpowered _ (by simp)
    | exact (h.update _ rfl).updateUnpowered _ (by simp)

/-- `WaitingForEnergy` needs no transaction for its power, since it has none. -/
theorem pauseChargingWaitForPower (h : PowerInv strict w) :
    PowerInv strict w.pauseChargingWaitForPower.2 := by
  rw [World.pauseChargingWaitForPower]
  split_ifs
  · exact h.setStateUnpowered _ (by simp)
  · exact h

theorem restart (h : PowerInv strict w) : PowerInv strict w.restart.2 := by
  rw [World.restart]
  split_ifs
  · exact h.setStateUnpowered _ (by simp)
  · exact h

/-! The states one by one. -/

theorem stateDisabled (h : PowerInv strict w) (newInState : Bool) :
    PowerInv strict (w.stateDisabled newInState) := by
  rw [World.stateDisabled]
  split_ifs
  · exact (h.signalEvent _).pwmF
  · exact h

theorem stateReplug (h : PowerInv strict w) (newInState : Bool) :
    PowerInv strict (w.stateReplug newInState) := by
  dsimp only [World.stateReplug]
  split_ifs
  · exact (h.signalEvent _).update _ rfl
  · exact h.signalEvent _
  · exact h

theorem stateIdle (h : PowerInv strict w) (newInState : Bool)
    (hState : w.charger.currentState = .idle) : PowerInv strict (w.stateIdle newInState) := by
  rw [World.stateIdle]
  split_ifs
  · apply (h.pwmOff.authorize false "" false).updateUnpowered _
    simp only [World.authorize, World.pwmOff, World.stopSession, World.signalEvent]
    split_ifs <;> simp_all
  · exact h

/-- A session may start here. The permission is not touched. -/
theorem requireAuthentication (h : PowerInv strict w) :
    PowerInv strict w.requireAuthentication := by
  rw [World.requireAuthentication]
  split_ifs
  · exact h.signalEvent _
  · exact (h.startSession false).signalEvent _
  · exact h.signalEvent _

theorem configureHlc (h : PowerInv strict w) : PowerInv strict w.configureHlc := by
  apply h.update _
  cases w.charger.chargeMode <;> rfl

/-- Entry refuses power first, so the PWM command that may follow is allowed. -/
theorem enterWaitingForAuthentication (h : PowerInv strict w) (now : ℤ) :
    PowerInv strict (w.enterWaitingForAuthentication now) := by
  have hRefused := h.emitPlain (.callAllowPowerOn false) (by simp) (by simp)
  have hEntered := hRefused.requireAuthentication.configureHlc
  dsimp only [World.enterWaitingForAuthentication]
  split_ifs
  · refine hEntered.updatePwmNow now _ fun _ => Or.inr ?_
    rw [World.configureHlc, World.update_log, World.powerPermission_requireAuthentication,
      World.emit_log, World.powerPermission_allow]
    simp
  · exact hEntered

/-- The transaction is started before the state that needs it is entered. -/
theorem proceedEIM (h : PowerInv strict w)
    (hState : w.charger.currentState = .waitingForAuthentication) :
    PowerInv strict w.proceedEIM := by
  have hStarted : PowerInv strict w.startTransaction :=
    (h.updateActive _ rfl (by simp [hState])).signalEvent _
  dsimp only [World.proceedEIM]
  split
  · split_ifs
    · exact (hStarted.update _ rfl).setStateActive _ rfl (by simp)
    · exact ⟨fun _ => rfl, by simp, fun _ => Or.inr rfl, hStarted.permits,
        fun _ _ => Or.inl rfl, hStarted.startsPwm⟩
    · exact ⟨fun _ => rfl, fun _ => ⟨rfl, rfl⟩, by simp, hStarted.permits, by simp,
        hStarted.startsPwm⟩
    · exact hStarted.setStateActive _ rfl (by simp)
    · exact hStarted.setStateActive _ rfl (by simp)
  · exact hStarted.setStateActive _ rfl (by simp)

/-- For a contract, too, the transaction is started before the state that needs it is entered. -/
theorem proceedPnC (h : PowerInv strict w)
    (hState : w.charger.currentState = .waitingForAuthentication) :
    PowerInv strict w.proceedPnC := by
  have hStarted : PowerInv strict w.startTransaction :=
    (h.updateActive _ rfl (by simp [hState])).signalEvent _
  dsimp only [World.proceedPnC]
  split
  · exact (hStarted.update _ rfl).setStateActive _ rfl (by simp)
  · exact hStarted.setStateActive _ rfl (by simp)

/-- Both ways into `PrepareCharging` start a transaction first. -/
theorem checkAuthorization (h : PowerInv strict w)
    (hState : w.charger.currentState = .waitingForAuthentication) :
    PowerInv strict w.checkAuthorization := by
  rw [World.checkAuthorization]
  split_ifs
  · exact h
  · exact h.proceedEIM hState
  · exact h.proceedPnC hState
  · exact h

/-- The entry and the check behind it in one turn. -/
theorem stateWaitingForAuthentication (h : PowerInv strict w) (now : ℤ) (newInState : Bool)
    (hState : w.charger.currentState = .waitingForAuthentication) :
    PowerInv strict (w.stateWaitingForAuthentication now newInState) := by
  rw [World.stateWaitingForAuthentication]
  split_ifs
  · apply (h.enterWaitingForAuthentication now).checkAuthorization
    rw [World.enterWaitingForAuthentication_currentState]
    exact hState
  · exact h.checkAuthorization hState

/-- Return from a break to the state that was noted before it. -/
theorem returnTo (h : PowerInv strict w) (state : EvseState)
    (hState : state = .waitingForAuthentication ∨
      state = .prepareCharging ∧ w.charger.transactionActive = true) :
    PowerInv strict (w.setState state) := by
  rcases hState with rfl | ⟨rfl, hActive⟩
  · exact h.setStateUnpowered _ (by simp)
  · exact h.setStateActive _ hActive (by simp)

/-- Leaving the break in state F starts PWM only where that is allowed. -/
theorem stateTStepEF (h : PowerInv strict w) (now : ℤ) (newInState : Bool)
    (hState : w.charger.currentState = .tStepEF) :
    PowerInv strict (w.stateTStepEF now newInState) := by
  have hReturn : w.charger.tStepEFReturnState = .waitingForAuthentication ∨
      w.charger.tStepEFReturnState = .prepareCharging ∧ w.charger.transactionActive = true := by
    rcases h.stepEF hState with hWait | hPrepare
    · exact Or.inl hWait
    · exact Or.inr ⟨hPrepare, h.powered (Or.inr ⟨hState, hPrepare⟩)⟩
  have hBreak (w' : World) (h' : PowerInv strict w') (hSame : w'.charger = w.charger) :
      PowerInv strict (if now - w'.charger.currentStateStarted ≥ tStepEF then
        (if w'.charger.tStepEFReturnPWM = 0 then w'.pwmOff
          else w'.updatePwmNow now w'.charger.tStepEFReturnPWM).setState
            w'.charger.tStepEFReturnState
        else w') := by
    split_ifs with hTime hZero
    · apply h'.pwmOff.returnTo _
      simpa only [World.pwmOff, World.emit_charger, hSame] using hReturn
    · have hPwm : strict = true → w'.PwmAllowed := fun hStrict =>
        (h'.returnPwm hStrict (by rw [hSame, hState])).resolve_left hZero
      apply (h'.updatePwmNow now _ hPwm).returnTo _
      simpa only [World.updatePwmNow, World.emit_charger, World.update_charger, hSame] using hReturn
    · exact h'
  rw [World.stateTStepEF]
  cases newInState
  · exact hBreak w h rfl
  · exact hBreak w.pwmF h.pwmF rfl

/-- The way back goes to a state that the step was entered from, which had its transaction already.
-/
theorem stateTStepX1 (h : PowerInv strict w) (now : ℤ) (newInState : Bool)
    (hState : w.charger.currentState = .tStepX1) :
    PowerInv strict (w.stateTStepX1 now newInState) := by
  obtain ⟨hReturn, hZero⟩ := h.stepX1 hState
  have hActive := h.active_of_state (by simp [hState])
  rw [World.stateTStepX1]
  cases newInState
  · simp only [Bool.false_eq_true, ↓reduceIte, hZero]
    split_ifs
    · exact h.pwmOff.returnTo _ (Or.inr ⟨hReturn, hActive⟩)
    · exact h
  · simp only [↓reduceIte, World.pwmOff, World.emit_charger, hZero]
    split_ifs
    · exact h.pwmOff.pwmOff.returnTo _ (Or.inr ⟨hReturn, hActive⟩)
    · exact h.pwmOff

/-- This entry may permit power for a car that waits in state C. -/
theorem enterPrepareCharging (h : PowerInv strict w) (now : ℤ)
    (hActive : w.charger.transactionActive = true) :
    PowerInv strict (w.enterPrepareCharging now) := by
  have hPermitted := (h.signalEvent .prepareCharging).emit (.callAllowPowerOn true)
    (fun _ => hActive) (by simp)
  dsimp only [World.enterPrepareCharging]
  split_ifs
  · exact hPermitted.updatePwmNow now _ fun _ => Or.inl hActive
  · exact hPermitted.updatePwmNow now _ fun _ => Or.inl hActive

/-- The state is entered with a transaction, and the relays may close in it. -/
theorem statePrepareCharging (h : PowerInv strict w) (now : ℤ) (newInState : Bool)
    (hState : w.charger.currentState = .prepareCharging) :
    PowerInv strict (w.statePrepareCharging now newInState) := by
  have hActive := h.active_of_state (by simp [hState])
  have hFollow (w' : World) (h' : PowerInv strict w')
      (hActive' : w'.charger.transactionActive = true) :
      PowerInv strict (if !w'.charger.hlcUse5percentCurrentSession then
        w'.updatePwmNowIfChanged now (ampereToDutyCycle w'.charger.maxCurrent) else w') := by
    split_ifs
    · exact h'.updatePwmNowIfChanged now _ fun _ => Or.inl hActive'
    · exact h'
  rw [World.statePrepareCharging]
  cases newInState
  · exact hFollow w h hActive
  · apply hFollow (w.enterPrepareCharging now) (h.enterPrepareCharging now hActive)
    rw [World.enterPrepareCharging_transactionActive]
    exact hActive

/-- The only place where power is permitted, and the transaction is a condition. -/
theorem permitPower (h : PowerInv strict w) (now : ℤ)
    (hActive : w.charger.transactionActive = true) : PowerInv strict (w.permitPower now) := by
  have hPermitted := h.emit (.callAllowPowerOn true) (fun _ => hActive) (by simp)
  dsimp only [World.permitPower]
  split_ifs
  · exact hPermitted.updatePwmNow now _ fun _ => Or.inl hActive
  · exact hPermitted.updatePwmNow now _ fun _ => Or.inl hActive

/-- A new duty cycle for a new limit. The permission stays as it is. -/
theorem followLimit (h : PowerInv strict w) (now : ℤ)
    (hActive : w.charger.transactionActive = true) : PowerInv strict (w.followLimit now) := by
  rw [World.followLimit]
  split_ifs
  · exact h.updatePwmMaxEvery5seconds now _ fun _ => Or.inl hActive
  · exact h

/-- The checks that precede the actions of a charging state. They may already
have left that state for `Error`, but they do not touch the transaction. -/
theorem afterChecks (h : PowerInv strict w) (now : ℤ)
    (hActive : w.charger.transactionActive = true) :
    PowerInv strict ((w.checkSoftOverCurrent now).powerAvailable now).2 ∧
      ((w.checkSoftOverCurrent now).powerAvailable now).2.charger.transactionActive = true := by
  refine ⟨(h.checkSoftOverCurrent now).powerAvailable now, ?_⟩
  rw [World.powerAvailable_transactionActive, World.checkSoftOverCurrent_transactionActive]
  exact hActive

/-- Charging goes on, pauses, or stops for want of power. In each case the transaction is there. -/
theorem stateCharging (h : PowerInv strict w) (now : ℤ) (newInState : Bool)
    (hState : w.charger.currentState = .charging) :
    PowerInv strict (w.stateCharging now newInState) := by
  obtain ⟨hChecked, hActive⟩ := h.afterChecks now (h.active_of_state (by simp [hState]))
  dsimp only [World.stateCharging]
  split
  · exact h
  · split_ifs
    · exact hChecked.pauseChargingWaitForPower
    · exact (hChecked.signalEvent _).permitPower now hActive
    · exact hChecked.followLimit now hActive

/-- The car has opened its switch, and may close it again in the same transaction. -/
theorem stateChargingPausedEV (h : PowerInv strict w) (now : ℤ) (newInState : Bool)
    (hState : w.charger.currentState = .chargingPausedEV) :
    PowerInv strict (w.stateChargingPausedEV now newInState) := by
  obtain ⟨hChecked, hActive⟩ := h.afterChecks now (h.active_of_state (by simp [hState]))
  dsimp only [World.stateChargingPausedEV]
  split
  · split_ifs
    · exact (h.emitPlain _ (by simp) (by simp)).setStateUnpowered _ (by simp)
    · exact h
  · split_ifs
    · exact hChecked.pauseChargingWaitForPower
    · exact (hChecked.signalEvent _).permitPower now hActive
    · exact hChecked.followLimit now hActive

/-- Nothing but the PWM is touched while the EVSE pauses. -/
theorem stateChargingPausedEVSE (h : PowerInv strict w) (newInState : Bool) :
    PowerInv strict (w.stateChargingPausedEVSE newInState) := by
  rw [World.stateChargingPausedEVSE]
  split_ifs
  · dsimp only
    split
    · exact (h.signalEvent _).pwmOff.emitPlain _ (by simp) (by simp)
    · exact (h.signalEvent _).pwmOff
  · exact h

theorem stateWaitingForEnergy (h : PowerInv strict w) (newInState : Bool) :
    PowerInv strict (w.stateWaitingForEnergy newInState) := by
  dsimp only [World.stateWaitingForEnergy]
  split_ifs
  · exact (h.signalEvent _).pwmOff
  · exact h.signalEvent _
  · exact h

/-- The transaction is closed in `StoppingCharging`, after the power was taken away. -/
theorem stateStoppingCharging (h : PowerInv strict w) (newInState : Bool)
    (hState : w.charger.currentState = .stoppingCharging) :
    PowerInv strict (w.stateStoppingCharging newInState) := by
  have hSignalled := h.signalEvent .stoppingCharging
  have hStopped : PowerInv strict
      (if (w.signalEvent .stoppingCharging).charger.transactionActive then
        (w.signalEvent .stoppingCharging).stopTransaction else w.signalEvent .stoppingCharging) := by
    split_ifs
    · exact hSignalled.stopTransaction (by simp [World.signalEvent, hState])
    · exact hSignalled
  rw [World.stateStoppingCharging]
  split_ifs
  · dsimp only
    split
    · exact hStopped.emitPlain _ (by simp) (by simp)
    · exact hStopped.pwmOff.setStateUnpowered _ (by simp)
  · exact h

/-- The last state of a session closes whatever is open. -/
theorem stateFinished (h : PowerInv strict w) (newInState : Bool)
    (hState : w.charger.currentState = .finished) :
    PowerInv strict (w.stateFinished newInState) := by
  rw [World.stateFinished]
  split_ifs
  · exact (h.stopTransaction (by simp [hState])).stopSession.pwmF.restart
  · exact h.stopSession.pwmF.restart
  · exact h.restart

theorem stateError (h : PowerInv strict w) (newInState : Bool) :
    PowerInv strict (w.stateError newInState) := by
  rw [World.stateError]
  split_ifs
  · exact (h.signalEvent _).pwmOff
  · exact h

theorem stateFaulted (h : PowerInv strict w) (newInState : Bool) :
    PowerInv strict (w.stateFaulted newInState) := by
  rw [World.stateFaulted]
  split_ifs
  · exact (h.signalEvent _).pwmF
  · exact h

/-- One case for each state, each by the lemma about its code. -/
theorem runState (h : PowerInv strict w) (now : ℤ) (newInState : Bool) :
    PowerInv strict (w.runState now newInState) := by
  rw [World.runState]
  cases hState : w.charger.currentState with
  | disabled => exact h.stateDisabled newInState
  | replug => exact h.stateReplug newInState
  | idle => exact h.stateIdle newInState hState
  | waitingForAuthentication => exact h.stateWaitingForAuthentication now newInState hState
  | tStepEF => exact h.stateTStepEF now newInState hState
  | tStepX1 => exact h.stateTStepX1 now newInState hState
  | prepareCharging => exact h.statePrepareCharging now newInState hState
  | charging => exact h.stateCharging now newInState hState
  | chargingPausedEV => exact h.stateChargingPausedEV now newInState hState
  | chargingPausedEVSE => exact h.stateChargingPausedEVSE newInState
  | waitingForEnergy => exact h.stateWaitingForEnergy newInState
  | stoppingCharging => exact h.stateStoppingCharging newInState hState
  | finished => exact h.stateFinished newInState hState
  | error => exact h.stateError newInState
  | faulted => exact h.stateFaulted newInState

/-- Taking note of the state change does not touch the board. -/
theorem enterState (h : PowerInv strict w) (now : ℤ) : PowerInv strict (w.enterState now) := by
  have hEntered := (h.update (fun c => { c with currentStateStarted := now }) rfl).emitPlain
    (.signalState w.charger.currentState) (by simp) (by simp)
  dsimp only [World.enterState]
  split_ifs
  · exact hEntered.emitPlain _ (by simp) (by simp)
  · exact hEntered

/-- A pass is the entry into the state and the code of the state. -/
theorem runStateMachine (h : PowerInv strict w) (now : ℤ) :
    PowerInv strict (w.runStateMachine now) := by
  have hNoted := h.update (fun c => { c with
    lastState := c.currentState
    acWithSocTimer := if c.acWithSocTimeout then c.acWithSocTimer - 50 else c.acWithSocTimer }) rfl
  dsimp only [World.runStateMachine]
  split_ifs
  · exact (hNoted.update _ rfl).emitPlain _ (by simp) (by simp)
  · exact (hNoted.enterState now).runState now _
  · exact hNoted.runState now _

theorem tick (h : PowerInv strict w) (now : ℤ) : PowerInv strict (w.tick now) :=
  (h.powerAvailable now).runStateMachine now

/-! The calls from outside. -/

/-- What is handled independently of the state leads to states without power only. -/
theorem processCPEventsIndependent (h : PowerInv strict w) (cpEvent : ControlPilotEvent) :
    PowerInv strict (w.processCPEventsIndependent cpEvent) := by
  unfold World.processCPEventsIndependent
  split
  case h_3 =>
    have hCleared : PowerInv strict (if w.charger.currentState = .error then
        w.signalEvent .allErrorsCleared else w) := by
      split_ifs
      · exact h.signalEvent _
      · exact h
    dsimp only
    split
    · exact hCleared.setStateUnpowered _ (by simp)
    · exact hCleared.setStateUnpowered _ (by simp)
  all_goals first
    | exact h
    | exact h.updateUnpowered _ (by simp)

/-- Among the events that depend on the state, those that lead to `Charging` come in a transaction.
-/
theorem processCPEventsState (h : PowerInv strict w) (now : ℤ) (ppAmpacity : ℚ)
    (cpEvent : ControlPilotEvent) :
    PowerInv strict (w.processCPEventsState now ppAmpacity cpEvent) := by
  rw [World.processCPEventsState]
  split
  case h_1 =>
    split_ifs
    · exact (h.update _ rfl).setStateUnpowered _ (by simp)
    · exact h
  case h_2 hState =>
    have hActive := h.active_of_state (by simp [hState])
    have hAvailable := (h.signalEvent .chargingStarted).powerAvailable now
    have hCharging := hAvailable.setStateActive .charging
      (by rw [World.powerAvailable_transactionActive]; exact hActive) (by simp)
    split
    · dsimp only
      split_ifs
      · exact hCharging
      · exact hCharging.pauseChargingWaitForPower
      · exact h.signalEvent _
    · split_ifs
      · exact h.setStateUnpowered _ (by simp)
      · exact h
  case h_3 hState =>
    split_ifs
    · exact h.setStateActive _ (h.active_of_state (by simp [hState])) (by simp)
    · exact h
  case h_4 hState =>
    split_ifs
    · exact h.setStateActive _ (h.active_of_state (by simp [hState])) (by simp)
    · exact h
  case h_5 => exact h

/-- The stop leads to `StoppingCharging` first, so that no powered state is left without a
transaction. -/
theorem cancelTransaction (h : PowerInv strict w) (request : StopTransactionRequest) :
    PowerInv strict (w.cancelTransaction request).2 := by
  dsimp only [World.cancelTransaction]
  split_ifs
  · refine ((PowerInv.updateUnpowered ?_ _ ?_).signalEvent _).signalEvent _
    · cases w.charger.chargeMode
      · exact h.setStateUnpowered _ (by simp)
      · exact h.setStateUnpowered _ (by simp)
    · cases w.charger.chargeMode <;> simp [World.setState]
  · exact h

/-- Charging resumes in the transaction that was paused. -/
theorem resumeChargingPowerAvailable (h : PowerInv strict w) (now : ℤ) :
    PowerInv strict (w.resumeChargingPowerAvailable now).2 := by
  rw [World.resumeChargingPowerAvailable]
  split_ifs with hGuard
  · dsimp only
    split_ifs
    · refine (h.powerAvailable now).setStateActive _ ?_ (by simp)
      rw [World.powerAvailable_transactionActive]
      exact hGuard.1
    · exact h.powerAvailable now
  · exact h

/-- The only call that can prepare a PWM command outside of a transaction. The
command is sent when the break in state F is over. -/
theorem requestErrorSequence (h : PowerInv strict w)
    (hPwm : strict = true → w.charger.currentState = .waitingForAuthentication →
      w.charger.acHlcEnabledCurrentSession = true →
      w.charger.hlcUse5percentCurrentSession = true → w.PwmAllowed) :
    PowerInv strict w.requestErrorSequence := by
  rw [World.requestErrorSequence]
  split_ifs with hState
  · refine ⟨by simp [Charger.Powered], by simp, by simp, h.permits, ?_, h.startsPwm⟩
    intro hStrict _
    by_cases hFlags : w.charger.acHlcEnabledCurrentSession = true ∧
        w.charger.hlcUse5percentCurrentSession = true
    · exact Or.inr (hPwm hStrict hState hFlags.1 hFlags.2)
    · apply Or.inl
      simp only [World.update_charger, Bool.and_eq_true, if_neg hFlags]
  · exact h

end PowerInv

namespace World

/-- A call of `requestErrorSequence` while waiting for authentication, with five
percent PWM in use, finds a transaction or no permission left from before. -/
def SafeErrorSequence (w : World) (c : Call) : Prop :=
  c.action = .requestErrorSequence → w.charger.currentState = .waitingForAuthentication →
    w.charger.acHlcEnabledCurrentSession = true →
    w.charger.hlcUse5percentCurrentSession = true → w.PwmAllowed

instance : DecidableRel SafeErrorSequence := fun _ _ =>
  inferInstanceAs (Decidable (_ → _ → _ → _ → _))

/-- One step of any run. The sequence for errors is the only call with a condition, on the strict
form. -/
theorem call_powerInv {strict : Bool} {w : World} (h : PowerInv strict w) (c : Call)
    (hSafe : strict = true → SafeErrorSequence w c) : PowerInv strict (w.call c) := by
  rw [call]
  cases hAction : c.action with
  | startMainThread =>
      exact (((h.emitPlain _ (by simp) (by simp)).emitPlain _ (by simp) (by simp)).emitPlain _
        (by simp) (by simp)).emitPlain _ (by simp) (by simp)
  | tick => exact h.tick c.now
  | processEvent event ppAmpacity =>
      exact (h.processCPEventsIndependent _).processCPEventsState c.now ppAmpacity _
  | authorize a userid pnc => exact h.authorize a userid pnc
  | deAuthorize =>
      simp only [deAuthorize]
      split_ifs
      · exact h
      · exact (h.update _ rfl).stopSession
      · exact h
  | pauseCharging =>
      simp only [pauseCharging]
      split_ifs
      · exact h.setStateUnpowered _ (by simp)
      · exact h
  | resumeCharging =>
      simp only [resumeCharging]
      split_ifs
      · exact h.setStateUnpowered _ (by simp)
      · exact h
  | pauseChargingWaitForPower => exact h.pauseChargingWaitForPower
  | resumeChargingPowerAvailable => exact h.resumeChargingPowerAvailable c.now
  | evseReplug => exact h.emitPlain _ (by simp) (by simp)
  | cancelTransaction request => exact h.cancelTransaction request
  | disable => exact (h.setStateUnpowered _ (by simp)).signalEvent _
  | enable =>
      simp only [enable]
      split_ifs
      · exact (h.setStateUnpowered _ (by simp)).signalEvent _
      · exact h
  | setFaulted => exact (h.setStateUnpowered _ (by simp)).signalEvent _
  | restart => exact h.restart
  | setup config => exact (h.emitPlain _ (by simp) (by simp)).update _ rfl
  | setMaxCurrentUntil ampere validUntil =>
      simp only [setMaxCurrentUntil]
      split_ifs
      · exact (h.update _ rfl).emitPlain _ (by simp) (by simp)
      · exact h
      · exact h
  | setMaxCurrent ampere =>
      simp only [setMaxCurrent]
      split_ifs
      · exact (h.update _ rfl).emitPlain _ (by simp) (by simp)
      · exact h
      · exact h
  | setCurrentDrawnByVehicle l1 l2 l3 => exact h.update _ rfl
  | requestErrorSequence => exact h.requestErrorSequence fun hStrict => hSafe hStrict hAction
  | setMatchingStarted m => exact h.update _ rfl
  | notifyCurrentDemandStarted =>
      simp only [notifyCurrentDemandStarted]
      split_ifs with hState
      · exact (h.signalEvent _).setStateActive _ (h.active_of_state (by simp [hState])) (by simp)
      · exact h
  | informNewEvseMaxHlcLimits limits => exact h.update _ rfl
  | switchThreePhasesWhileCharging n => exact h.emitPlain _ (by simp) (by simp)
  | forceUnlock => exact h.emitPlain _ (by simp) (by simp)

/-- Whatever is found in the memory, the power is off at first. -/
theorem create_powerInv (strict : Bool) (memory : Charger) (ppAmpacity : ℚ) :
    PowerInv strict (create memory ppAmpacity) := by
  have hEmpty (c : Charger) (hState : c.currentState = .disabled) :
      PowerInv strict { charger := c, log := [] } :=
    ⟨by simp [Charger.Powered, hState], by simp [hState], by simp [hState], eachAfter_nil _,
      by simp [hState], fun _ => eachAfter_nil _⟩
  exact (hEmpty _ rfl).emitPlain _ (by simp) (by simp)

end World
end EverestCore
