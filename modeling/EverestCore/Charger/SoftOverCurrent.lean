import EverestCore.Charger.Latches
import EverestCore.Charger.TurnFrame

/-! The soft over-current check. It is performed in the turns of `Charging` and
`ChargingPausedEV` only, and what it notes stays as it is in between. -/
namespace EverestCore
open Machine

namespace Charger

/-- The drawn current is more than ten percent above the limit that is valid now. -/
def drawsTooMuch (now : ℤ) (c : Charger) : Bool :=
  let limit := c.validLimit now * (11 / 10)
  c.currentDrawnByVehicle.1 > limit ∨ c.currentDrawnByVehicle.2.1 > limit ∨
    c.currentDrawnByVehicle.2.2 > limit

/-- What the check of a turn finds, if the turn performs one. -/
def softCheck (now : ℤ) (c : Charger) : Option Bool :=
  if World.socTimerFires c = false ∧ c.chargeMode = .ac ∧
      (c.currentState = .charging ∨ c.currentState = .chargingPausedEV) then
    some (c.drawsTooMuch now)
  else none

/-- The instant since which there is too much current, as far as the charger knows. -/
def overCurrentSince (c : Charger) : Option ℤ :=
  if c.overCurrent then some c.lastOverCurrentEvent else none

/-- What the charger knows after a check. -/
def sinceAfter (now : ℤ) (check : Option Bool) (since : Option ℤ) : Option ℤ :=
  match check with
  | none => since
  | some true => some (since.getD now)
  | some false => none

/-- There has been too much current for too long. -/
def tooLong (now : ℤ) (since : Option ℤ) : Bool :=
  since.any fun start => now - start ≥ softOverCurrentTimeout

end Charger

namespace World

/-- The flag and the time stamp of the source are one optional time. -/
theorem tooLong_iff (now : ℤ) (c : Charger) :
    (c.overCurrent = true ∧ now - c.lastOverCurrentEvent ≥ softOverCurrentTimeout) ↔
      Charger.tooLong now c.overCurrentSince = true := by
  unfold Charger.overCurrentSince
  cases c.overCurrent <;> simp [Charger.tooLong]

/-- The check notes what it finds before it looks at the time. -/
theorem checkSoftOverCurrent_noted {now : ℤ} {w : World}
    (hValid : w.charger.validLimit now = w.charger.maxCurrent) :
    ∃ noted : World, noted.charger.currentState = w.charger.currentState ∧
      noted.charger.overCurrentSince =
        Charger.sinceAfter now (some (w.charger.drawsTooMuch now)) w.charger.overCurrentSince ∧
      w.checkSoftOverCurrent now =
        if Charger.tooLong now noted.charger.overCurrentSince then noted.setError .overCurrent
        else noted := by
  dsimp only [checkSoftOverCurrent, Charger.drawsTooMuch]
  simp only [hValid, tooLong_iff]
  refine ⟨_, ?_, ?_, rfl⟩
  · split_ifs <;> rfl
  · unfold Charger.overCurrentSince
    split_ifs with hDrawn hFlag
    all_goals first | rw [decide_eq_true hDrawn] | rw [decide_eq_false hDrawn]
    all_goals simp_all [Charger.sinceAfter]

/-- What the check notes, and when it ends in `Error`. -/
theorem checkSoftOverCurrent_since {now : ℤ} {w : World}
    (hValid : w.charger.validLimit now = w.charger.maxCurrent) {since : Option ℤ}
    (hSince : since =
      Charger.sinceAfter now (some (w.charger.drawsTooMuch now)) w.charger.overCurrentSince) :
    (w.checkSoftOverCurrent now).charger.overCurrentSince = since ∧
    (w.checkSoftOverCurrent now).charger.currentState =
      if Charger.tooLong now since then .error else w.charger.currentState := by
  obtain ⟨noted, hState, hNoted, hCheck⟩ := checkSoftOverCurrent_noted hValid
  rw [hCheck, hNoted, ← hSince]
  split_ifs
  · exact ⟨hNoted.trans hSince.symm, rfl⟩
  · exact ⟨hNoted.trans hSince.symm, hState⟩

@[simp] theorem setState_since (state : EvseState) (w : World) :
    (w.setState state).charger.overCurrentSince = w.charger.overCurrentSince := rfl

/-- Only the check writes the beginning of an over-current. -/
theorem since_untouched : Untouched Charger.overCurrentSince where
  setState _ _ := rfl
  updatePwmNow _ _ _ := rfl
  stopSession _ := rfl
  stopTransaction _ := rfl
  deauthorize w := by
    rw [authorize]
    split_ifs <;> rfl
  endTransaction _ := rfl
  socTimer _ _ := rfl

/-- Looking at the limit does not touch it. -/
theorem powerAvailable_since (now : ℤ) (w : World) :
    (w.powerAvailable now).2.charger.overCurrentSince = w.charger.overCurrentSince := by
  rw [powerAvailable_charger]
  rfl

/-- The states before the charge do not touch it. -/
theorem checkAuthorization_since (w : World) :
    w.checkAuthorization.charger.overCurrentSince = w.charger.overCurrentSince := by
  rw [checkAuthorization]
  dsimp only [proceedEIM, proceedPnC]
  cases w.startTransaction.charger.chargeMode <;> split_ifs <;> rfl

theorem enterWaitingForAuthentication_since (now : ℤ) (w : World) :
    (w.enterWaitingForAuthentication now).charger.overCurrentSince =
      w.charger.overCurrentSince := by
  dsimp only [enterWaitingForAuthentication]
  rw [apply_ite World.charger, charger_updatePwmNow, configureHlc_charger]
  dsimp only [requireAuthentication]
  split_ifs <;> rfl

/-- An authorization does not touch the beginning of an over-current. -/
theorem authorize_since (a : Bool) (userid : String) (pnc : Bool) (w : World) :
    (w.authorize a userid pnc).charger.overCurrentSince = w.charger.overCurrentSince := by
  rw [authorize]
  split_ifs <;> rfl

/-- The code of a state that does not check leaves the note alone. -/
theorem runState_since (now : ℤ) (newInState : Bool) {w : World}
    (hState : w.charger.chargeMode = .ac →
      ¬(w.charger.currentState = .charging ∨ w.charger.currentState = .chargingPausedEV)) :
    (w.runState now newInState).charger.overCurrentSince = w.charger.overCurrentSince := by
  by_cases hWaiting : w.charger.currentState = .waitingForAuthentication
  · rw [runState, hWaiting]
    dsimp only [stateWaitingForAuthentication]
    rw [checkAuthorization_since]
    split_ifs
    · exact enterWaitingForAuthentication_since now w
    · rfl
  · exact since_untouched.runState now newInState hWaiting fun hMode hChecks =>
      absurd hChecks (hState hMode)

/-- A state that checks notes what the check finds, and ends in `Error` only through it. -/
theorem afterCheck_since {now : ℤ} {w : World}
    (hValid : w.charger.validLimit now = w.charger.maxCurrent)
    (hNoError : w.charger.currentState ≠ .error) {since : Option ℤ}
    (hSince : since =
      Charger.sinceAfter now (some (w.charger.drawsTooMuch now)) w.charger.overCurrentSince)
    {next : World}
    (hNext : next.charger.overCurrentSince =
        ((w.checkSoftOverCurrent now).powerAvailable now).2.charger.overCurrentSince ∧
      (next.charger.currentState =
          ((w.checkSoftOverCurrent now).powerAvailable now).2.charger.currentState ∨
        next = ((w.checkSoftOverCurrent now).powerAvailable now).2.pauseChargingWaitForPower.2)) :
    next.charger.overCurrentSince = since ∧
      (next.charger.currentState = .error ↔ Charger.tooLong now since = true) := by
  obtain ⟨hNoted, hState⟩ := checkSoftOverCurrent_since hValid hSince
  rw [powerAvailable_since, hNoted] at hNext
  refine ⟨hNext.1, ?_⟩
  have hChecked : (w.checkSoftOverCurrent now).charger.currentState = .error ↔
      Charger.tooLong now since = true := by
    rw [hState]
    split_ifs with hLong
    · exact iff_of_true rfl hLong
    · exact iff_of_false hNoError hLong
  rw [← hChecked]
  rcases hNext.2 with hSame | rfl
  · rw [hSame, powerAvailable_currentState]
  · rw [pauseChargingWaitForPower_currentState, powerAvailable_currentState]
    split_ifs with hCharging
    · rw [hCharging]
      exact iff_of_false nofun nofun
    · rfl

/-- What follows the check either keeps the state or pauses for lack of power. -/
theorem followsCheck_since (now : ℤ) (available resumes : Prop) [Decidable available]
    [Decidable resumes] (event : SessionEvent) (w : World) {next : World}
    (hNext : next = if available then w.pauseChargingWaitForPower.2
      else if resumes then (w.signalEvent event).permitPower now else w.followLimit now) :
    next.charger.overCurrentSince = w.charger.overCurrentSince ∧
      (next.charger.currentState = w.charger.currentState ∨
        next = w.pauseChargingWaitForPower.2) := by
  constructor
  · rw [hNext]
    exact since_untouched.afterCheck now available resumes event w
  · rw [hNext]
    dsimp only [permitPower, followLimit, updatePwmMaxEvery5seconds]
    split_ifs <;> first | exact .inr rfl | exact .inl rfl

/-- The code of a state that checks. -/
theorem runState_checked (now : ℤ) (newInState : Bool) {w : World}
    (hValid : w.charger.validLimit now = w.charger.maxCurrent) (hMode : w.charger.chargeMode = .ac)
    (hState : w.charger.currentState = .charging ∨ w.charger.currentState = .chargingPausedEV)
    {since : Option ℤ}
    (hSince : since =
      Charger.sinceAfter now (some (w.charger.drawsTooMuch now)) w.charger.overCurrentSince) :
    (w.runState now newInState).charger.overCurrentSince = since ∧
      ((w.runState now newInState).charger.currentState = .error ↔
        Charger.tooLong now since = true) := by
  have hNoError : w.charger.currentState ≠ .error := by
    rcases hState with hState | hState <;> rw [hState] <;> exact nofun
  apply afterCheck_since hValid hNoError hSince
  rw [runState]
  rcases hState with hState | hState
  · rw [hState]
    dsimp only [stateCharging]
    rw [hMode]
    exact followsCheck_since now _ _ _ _ rfl
  · rw [hState]
    dsimp only [stateChargingPausedEV]
    rw [hMode]
    exact followsCheck_since now _ _ _ _ rfl

/-- The check compares with the limit as it was before the turn. -/
theorem drawsTooMuch_turnStart (now : ℤ) (c : Charger) :
    (c.turnStart now).drawsTooMuch now = c.drawsTooMuch now := by
  unfold Charger.drawsTooMuch
  rw [Charger.validLimit_turnStart]
  rfl

/-- What a turn notes. -/
theorem tick_since (now : ℤ) (w : World) :
    (w.tick now).charger.overCurrentSince =
      Charger.sinceAfter now (w.charger.softCheck now) w.charger.overCurrentSince := by
  unfold Charger.softCheck
  cases hFires : socTimerFires w.charger with
  | true =>
      rw [(tick_of_fires now hFires).1, if_neg (by simp)]
      rfl
  | false =>
      obtain ⟨w', hCharger, -, hTick⟩ := tick_of_not_fires now hFires
      rw [hTick]
      split_ifs with hChecks
      · refine (runState_checked now _ ?_ ?_ ?_ ?_).1
        · rw [hCharger, Charger.validLimit_turnStart]
          rfl
        · rw [hCharger]
          exact hChecks.2.1
        · rw [hCharger]
          exact hChecks.2.2
        · rw [hCharger, drawsTooMuch_turnStart]
          rfl
      · rw [runState_since now _ fun hMode hState => ?_, hCharger]
        · rfl
        · rw [hCharger] at hMode hState
          exact hChecks ⟨rfl, hMode, hState⟩

/-- A turn that checks ends in `Error` just when there has been too much current for too
long. -/
theorem tick_error_iff {now : ℤ} {w : World} (hChecks : (w.charger.softCheck now).isSome) :
    (w.tick now).charger.currentState = .error ↔
      Charger.tooLong now (w.tick now).charger.overCurrentSince = true := by
  rw [tick_since]
  unfold Charger.softCheck at hChecks ⊢
  split_ifs at hChecks ⊢ with hState
  · obtain ⟨w', hCharger, -, hTick⟩ := tick_of_not_fires now hState.1
    rw [hTick]
    refine (runState_checked now _ ?_ ?_ ?_ ?_).2
    · rw [hCharger, Charger.validLimit_turnStart]
      rfl
    · rw [hCharger]
      exact hState.2.1
    · rw [hCharger]
      exact hState.2.2
    · rw [hCharger, drawsTooMuch_turnStart]
      rfl
  · exact absurd hChecks nofun

/-- No event of the board ends an over-current. -/
theorem processEvent_since (now : ℤ) (ppAmpacity : ℚ) (event : BoardEvent) (w : World) :
    (w.processEvent now ppAmpacity event).charger.overCurrentSince =
      w.charger.overCurrentSince := by
  rw [processEvent_eq]
  split_ifs
  · rw [processCPEventsState]
    cases w.charger.currentState with
    | prepareCharging =>
        cases w.charger.chargeMode
        · dsimp only
          split_ifs
          · exact powerAvailable_since now _
          · exact (since_untouched.pauseChargingWaitForPower _).trans (powerAvailable_since now _)
          · rfl
        · dsimp only
          split_ifs <;> rfl
    | _ =>
        dsimp only
        try split_ifs
        all_goals rfl
  · cases stringToControlPilotEvent event with
    | carUnplugged =>
        dsimp only [processCPEventsIndependent]
        split_ifs <;> cases hMode : w.charger.chargeMode <;> simp [hMode]
    | _ => rfl

/-- No other call touches the note. -/
theorem call_since {w : World} {c : Call} (hTick : c.action ≠ .tick) :
    (w.call c).charger.overCurrentSince = w.charger.overCurrentSince := by
  rw [call]
  cases hAction : c.action with
  | tick => exact absurd hAction hTick
  | processEvent event ppAmpacity => exact processEvent_since c.now ppAmpacity event w
  | authorize a userid pnc => exact authorize_since a userid pnc w
  | pauseChargingWaitForPower => exact since_untouched.pauseChargingWaitForPower w
  | resumeChargingPowerAvailable =>
      dsimp only [resumeChargingPowerAvailable]
      split_ifs
      · exact powerAvailable_since c.now w
      · exact powerAvailable_since c.now w
      · rfl
  | cancelTransaction request =>
      dsimp only [cancelTransaction]
      cases w.charger.chargeMode <;> split_ifs <;> rfl
  | deAuthorize | pauseCharging | resumeCharging | enable | restart | requestErrorSequence
  | notifyCurrentDemandStarted | setMaxCurrentUntil | setMaxCurrent =>
      dsimp only [deAuthorize, pauseCharging, resumeCharging, enable, restart,
        requestErrorSequence, notifyCurrentDemandStarted, setMaxCurrentUntil, setMaxCurrent]
      split_ifs <;> rfl
  | _ => rfl

end World

/-- A turn of the main loop: when it takes place, and what its check finds if it
performs one. -/
structure Turn where
  now : ℤ
  check : Option Bool
  deriving DecidableEq

def World.noteTurn (w : World) (c : Call) (turns : List Turn) : List Turn :=
  if c.action = .tick then turns ++ [⟨c.now, w.charger.softCheck c.now⟩] else turns

/-- The charger with all its turns, the oldest turn first. -/
def callNoted : World × List Turn → Call → World × List Turn := watch World.call World.noteTurn

/-- Throughout the last turns there was too much current: every one of them performed a
check that found it, and the first of them is as long ago as the timeout. -/
def DrewTooMuchThroughout (now : ℤ) (turns : List Turn) : Prop :=
  ∃ period, period <:+ turns ∧
    (∃ first ∈ period.head?, now - first.now ≥ softOverCurrentTimeout) ∧
    ∀ turn ∈ period, turn.check = some true

instance (now : ℤ) (turns : List Turn) : Decidable (DrewTooMuchThroughout now turns) :=
  decidable_of_iff (∃ period ∈ turns.tails,
      (∃ first ∈ period.head?, now - first.now ≥ softOverCurrentTimeout) ∧
      ∀ turn ∈ period, turn.check = some true)
    (by simp [DrewTooMuchThroughout])

/-- A turn that checks ends in `Error` only if there was too much current throughout
the timeout. -/
def RaisesRightly (noted : World × List Turn) (c : Call) : Prop :=
  c.action = .tick → (noted.1.charger.softCheck c.now).isSome →
    (callNoted noted c).1.charger.currentState = .error →
    DrewTooMuchThroughout c.now (callNoted noted c).2

/-- A check that finds too much current where the flag is still set continues the
check of the turn before it. -/
def ContinuesCheck (noted : World × List Turn) (c : Call) : Prop :=
  c.action = .tick → noted.1.charger.softCheck c.now = some true →
    noted.1.charger.overCurrent = true → ∃ last ∈ noted.2.getLast?, last.check.isSome

instance (noted : World × List Turn) (c : Call) : Decidable (RaisesRightly noted c) :=
  inferInstanceAs (Decidable (_ → _ → _ → _))

instance (noted : World × List Turn) (c : Call) : Decidable (ContinuesCheck noted c) :=
  inferInstanceAs (Decidable (_ → _ → _ → _))

/-- The turns since `start` performed checks that found too much current. -/
def DrawnSince (start : ℤ) (turns : List Turn) : Prop :=
  ∃ period, period <:+ turns ∧ (∃ first ∈ period.head?, first.now = start) ∧
    ∀ turn ∈ period, turn.check = some true

/-- The first turn with too much current begins a period. -/
theorem drawnSince_first (now : ℤ) (turns : List Turn) :
    DrawnSince now (turns ++ [⟨now, some true⟩]) := by
  refine ⟨[⟨now, some true⟩], List.suffix_append _ _, ⟨_, rfl, rfl⟩, ?_⟩
  intro turn hTurn
  rw [List.mem_singleton.mp hTurn]

/-- A further turn with too much current continues the period. -/
theorem DrawnSince.next {start : ℤ} {turns : List Turn} (h : DrawnSince start turns) (now : ℤ) :
    DrawnSince start (turns ++ [⟨now, some true⟩]) := by
  obtain ⟨period, ⟨before, rfl⟩, ⟨first, hFirst, hStart⟩, hPeriod⟩ := h
  refine ⟨period ++ [⟨now, some true⟩], ⟨before, (List.append_assoc _ _ _).symm⟩,
    ⟨first, ?_, hStart⟩, ?_⟩
  · rw [List.head?_append, Option.mem_def.mp hFirst]
    rfl
  · intro turn hTurn
    rcases List.mem_append.mp hTurn with hOld | hNew
    · exact hPeriod turn hOld
    · rw [List.mem_singleton.mp hNew]

/-- After a turn that checked, the noted instant is the first of a period of checks that
found too much current. -/
def NotesPeriod (noted : World × List Turn) : Prop :=
  ∀ last ∈ noted.2.getLast?, last.check.isSome →
    ∀ start ∈ noted.1.charger.overCurrentSince, DrawnSince start noted.2

/-- There was no over-current before the first turn. -/
theorem notesPeriod_create (memory : Charger) (ppAmpacity : ℚ) :
    NotesPeriod (World.create memory ppAmpacity, []) := nofun

/-- Calls between the turns are not noted. -/
theorem callNoted_of_ne {noted : World × List Turn} {c : Call} (hAction : c.action ≠ .tick) :
    callNoted noted c = (noted.1.call c, noted.2) := by
  rw [callNoted, watch, World.noteTurn, if_neg hAction]

/-- A turn is noted with its time and with what it has found. -/
theorem callNoted_tick {noted : World × List Turn} {c : Call} (hAction : c.action = .tick) :
    callNoted noted c =
      (noted.1.tick c.now, noted.2 ++ [⟨c.now, noted.1.charger.softCheck c.now⟩]) := by
  rw [callNoted, watch, World.noteTurn, if_pos hAction, World.call, hAction]

/-- What is noted once a check has found too much current. -/
theorem drawnSince_callNoted {noted : World × List Turn} {c : Call} (hInv : NotesPeriod noted)
    (hContinues : ContinuesCheck noted c) (hAction : c.action = .tick)
    (hCheck : noted.1.charger.softCheck c.now = some true) :
    DrawnSince (noted.1.charger.overCurrentSince.getD c.now)
      (noted.2 ++ [⟨c.now, some true⟩]) := by
  cases hFlag : noted.1.charger.overCurrent with
  | false =>
      rw [Charger.overCurrentSince, hFlag]
      exact drawnSince_first c.now noted.2
  | true =>
      obtain ⟨last, hLast, hSome⟩ := hContinues hAction hCheck hFlag
      have hSince :
          noted.1.charger.overCurrentSince = some noted.1.charger.lastOverCurrentEvent := by
        rw [Charger.overCurrentSince, if_pos hFlag]
      rw [hSince]
      exact (hInv last hLast hSome _ hSince).next c.now

/-- The time stamp is the beginning of the present period, as long as no turn leaves the check out.
-/
theorem notesPeriod_call {noted : World × List Turn} {c : Call} (hInv : NotesPeriod noted)
    (hContinues : ContinuesCheck noted c) : NotesPeriod (callNoted noted c) := by
  by_cases hAction : c.action = .tick
  · rw [callNoted_tick hAction]
    intro last hLast hSome start hStart
    rw [List.getLast?_append, List.getLast?_singleton, Option.some_or] at hLast
    cases hLast
    rw [World.tick_since] at hStart
    cases hCheck : noted.1.charger.softCheck c.now with
    | none =>
        rw [hCheck] at hSome
        exact absurd hSome nofun
    | some drawn =>
        rw [hCheck] at hStart
        cases drawn with
        | false => exact absurd hStart nofun
        | true =>
            cases hStart
            exact drawnSince_callNoted hInv hContinues hAction hCheck
  · rw [callNoted_of_ne hAction]
    intro last hLast hSome start hStart
    rw [World.call_since hAction] at hStart
    exact hInv last hLast hSome start hStart

/-- With the right beginning, the error is raised in the right turn. -/
theorem raisesRightly_of_notesPeriod {noted : World × List Turn} {c : Call}
    (hInv : NotesPeriod noted) (hContinues : ContinuesCheck noted c) : RaisesRightly noted c := by
  intro hAction hChecks hError
  rw [callNoted_tick hAction] at hError ⊢
  rw [World.tick_error_iff hChecks, World.tick_since] at hError
  obtain ⟨drawn, hCheck⟩ := Option.isSome_iff_exists.mp hChecks
  rw [hCheck] at hError ⊢
  cases drawn with
  | false => exact absurd hError (by simp [Charger.sinceAfter, Charger.tooLong])
  | true =>
      obtain ⟨period, hSuffix, ⟨first, hFirst, hStart⟩, hPeriod⟩ :=
        drawnSince_callNoted hInv hContinues hAction hCheck
      refine ⟨period, hSuffix, ⟨first, hFirst, ?_⟩, hPeriod⟩
      rw [hStart]
      simpa [Charger.sinceAfter, Charger.tooLong] using hError

/-- As long as no check takes up a flag that was left over, an error is raised only if there
was too much current throughout the timeout. -/
theorem raisesRightly_of_continuesCheck (memory : Charger) (ppAmpacity : ℚ) (calls : List Call)
    (hContinues : EveryStep callNoted ContinuesCheck (World.create memory ppAmpacity, []) calls) :
    EveryStep callNoted RaisesRightly (World.create memory ppAmpacity, []) calls :=
  everyStep_of_invariant NotesPeriod (notesPeriod_create memory ppAmpacity)
    (fun _ _ hInv hOk => notesPeriod_call hInv hOk)
    (fun _ _ hInv hOk => raisesRightly_of_notesPeriod hInv hOk) calls hContinues

/-- The car requests power with a limit of 16 A and draws 20 A. -/
def overdrawnSession : List Call :=
  acSession ++ [⟨210, .processEvent .carRequestedPower 0⟩, ⟨220, .setCurrentDrawnByVehicle 20 0 0⟩,
    ⟨250, .tick⟩]

/-- The car goes on drawing 20 A for seven seconds. The last turn raises the error. -/
theorem raisesRightly_overdrawn :
    (World.run .blank 0 (overdrawnSession ++ [⟨2600, .tick⟩, ⟨4900, .tick⟩,
      ⟨7250, .tick⟩])).charger.currentState = .error ∧
    EveryStep callNoted RaisesRightly (World.create .blank 0, [])
      (overdrawnSession ++ [⟨2600, .tick⟩, ⟨4900, .tick⟩, ⟨7250, .tick⟩]) :=
  ⟨by decide +kernel, raisesRightly_of_continuesCheck .blank 0 _ (by decide +kernel)⟩

/-- Charging is paused after a single check. When it goes on twenty seconds later, the next
check that finds too much current raises the error at once. -/
theorem raises_after_pause :
    ¬ EveryStep callNoted RaisesRightly (World.create .blank 0, [])
      (overdrawnSession ++ [⟨260, .pauseCharging⟩, ⟨270, .setCurrentDrawnByVehicle 0 0 0⟩,
        ⟨300, .tick⟩, ⟨350, .tick⟩, ⟨20000, .resumeCharging⟩, ⟨20050, .tick⟩,
        ⟨20060, .resumeChargingPowerAvailable⟩, ⟨20070, .setCurrentDrawnByVehicle 20 0 0⟩,
        ⟨20100, .tick⟩]) := by
  decide +kernel

end EverestCore
