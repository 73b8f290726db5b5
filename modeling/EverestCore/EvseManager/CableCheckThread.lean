import EverestCore.EvseManager.PowerSupply
import EverestCore.V2G.CableCheck

/-! The thread of a cable check, and what it leaves behind. It is given all that it waits
for, and every branch that gives up sees to the power supply and to the isolation monitor
by itself. -/
namespace EverestCore.EvseManager
open V2G

/-- What the thread reads of the configuration. -/
structure CableCheckConfig extends EvseConfig where
  imdConnected : Bool := true
  hackPauseImdDuringPrecharge : Bool := false
  deriving DecidableEq, Repr

/-- The flags of the power supply, as the other threads have left them. -/
structure SupplyFlags where
  isActuallyExportingToGrid : Bool := false
  lastIsActuallyExportingToGrid : Bool := false
  powersupplyDcIsOn : Bool := false
  deriving DecidableEq, Repr

/-- All that the thread sees. A voltage is absent if no measurement came in two seconds, and
the voltages end where the time is up. -/
structure CableCheckSight where
  contactorOpen : Bool := false
  flagsAtStart : SupplyFlags := {}
  flagsAtOn : SupplyFlags := {}
  risingVoltages : List (Option ℚ) := []
  isolation : Option IsolationMeasurement := none
  flagsAtReturn : SupplyFlags := {}
  fallingVoltages : List (Option ℚ) := []
  deriving DecidableEq, Repr

/-- The calls of the thread. -/
inductive CheckEvent where
  | powersupplyDcOn
  | supply (command : SupplyCommand)
  | imdStart
  | imdStop
  | setIsolationStatus (status : IsolationStatus)
  | cableCheckFinished (ok : Bool)
  deriving DecidableEq, Repr

section Thread

/-- A state of the power supply from which the thread has not sent anything. -/
def SupplyFlags.unsent (flags : SupplyFlags) : SupplyState where
  limits := { isActuallyExportingToGrid := flags.isActuallyExportingToGrid }
  lastIsActuallyExportingToGrid := flags.lastIsActuallyExportingToGrid
  powersupplyDcIsOn := flags.powersupplyDcIsOn

/-- What is sent to the power supply. -/
def SupplyState.sent (s : SupplyState) : List CheckEvent := s.commands.map .supply

def switchOn (flags : SupplyFlags) : List CheckEvent :=
  .powersupplyDcOn :: flags.unsent.powersupplyDcOn.sent

def switchOff : List CheckEvent := ({} : SupplyState).powersupplyDcOff.sent

/-- How the waiting for a voltage ends. -/
inductive VoltageWait where
  | reached
  | missing
  | late
  deriving DecidableEq, Repr

/-- The loop of `wait_powersupply_DC_voltage_reached` and of its counterpart for a voltage
that falls. -/
def waitVoltage (ok : ℚ → Bool) : List (Option ℚ) → VoltageWait
  | [] => .late
  | none :: _ => .missing
  | some voltage :: voltages => if ok voltage then .reached else waitVoltage ok voltages

/-- Without a measurement the waiting switches the power supply off. -/
def VoltageWait.events : VoltageWait → List CheckEvent
  | .missing => switchOff
  | _ => []

variable (config : CableCheckConfig)

def setVoltage (voltage : ℚ) (flags : SupplyFlags) : Option (Bool × List CheckEvent) :=
  (powersupplyDcSet config.toEvseConfig voltage 2 flags.unsent).map fun (accepted, s) =>
    (accepted, s.sent)

def waitRise (seen : CableCheckSight) : VoltageWait :=
  waitVoltage (fun voltage => |voltage - config.dcIsolationVoltageV| < 10) seen.risingVoltages

def waitFall (seen : CableCheckSight) : VoltageWait :=
  waitVoltage (fun voltage => voltage < cableCheckMinimum config.toEvseConfig + 20)
    seen.fallingVoltages

/-- The class of the resistances. -/
def isolationStatus (m : IsolationMeasurement) : IsolationStatus :=
  (EvseEquipment.mk config.imdConnected
    config.powersupplyCapabilities.maxExportVoltageV).classify m

/-- The branch of the resistance. -/
def judgeResistance (m : IsolationMeasurement) : Bool × List CheckEvent :=
  match isolationStatus config m with
  | .fault => (false, [.setIsolationStatus .fault, .imdStop])
  | status => (true, [.setIsolationStatus status])

/-- The branch of the voltage that falls. Whether it could be set does not matter. -/
def afterMeasurement (seen : CableCheckSight) (m : IsolationMeasurement) :
    Option (Bool × List CheckEvent) := do
  let (_, set) ← setVoltage config (cableCheckMinimum config.toEvseConfig) seen.flagsAtReturn
  match waitFall config seen with
  | .reached => return ((judgeResistance config m).1, set ++ (judgeResistance config m).2)
  | failed => return (false, set ++ failed.events)

/-- The branches after the power supply was switched on. -/
def afterOn (seen : CableCheckSight) : Option (Bool × List CheckEvent) :=
  match waitRise config seen, seen.isolation with
  | .reached, some m => afterMeasurement config seen m
  | .reached, none => some (false, switchOff)
  | failed, _ => some (false, failed.events ++ switchOff ++ [.imdStop])

/-- The end of the thread. -/
def concludeCheck (ok : Bool) (events : List CheckEvent) : List CheckEvent :=
  events ++ (if config.hackPauseImdDuringPrecharge then [.imdStop] else []) ++
    [.cableCheckFinished ok]

/-- The thread of `cable_check`, from the end of the waiting for the contactors. There is no
result if setting a voltage throws. -/
def cableCheckThread (seen : CableCheckSight) : Option (List CheckEvent) :=
  if seen.contactorOpen then some (concludeCheck config false [])
  else do
    let (accepted, set) ← setVoltage config config.dcIsolationVoltageV seen.flagsAtStart
    if accepted then
      let (ok, rest) ← afterOn config seen
      return concludeCheck config ok (set ++ switchOn seen.flagsAtOn ++ [.imdStart] ++ rest)
    else return concludeCheck config false set

/-- `EvseManager::cable_check`. -/
def cableCheck (seen : CableCheckSight) : Option (List CheckEvent) :=
  if config.imdConnected then cableCheckThread config seen
  else some [.cableCheckFinished false, .setIsolationStatus .noIMD]

end Thread

section CleanUp

/-- The mode that a call sends. -/
def CheckEvent.mode? : CheckEvent → Option SupplyMode
  | .supply command => command.mode?
  | _ => none

/-- Whether a call starts the isolation monitor or stops it. -/
def CheckEvent.imd? : CheckEvent → Option Bool
  | .imdStart => some true
  | .imdStop => some false
  | _ => none

/-- A check that failed with the power supply switched on leaves it off, and the isolation
monitor stopped. -/
def CleansUp (events : List CheckEvent) : Prop :=
  .cableCheckFinished false ∈ events → .powersupplyDcOn ∈ events →
    (events.filterMap CheckEvent.mode?).getLast? = some .off ∧
      (events.filterMap CheckEvent.imd?).getLast? = some false

instance (events : List CheckEvent) : Decidable (CleansUp events) :=
  inferInstanceAs (Decidable (_ → _ → _))

/-- Calls to the power supply that do not switch it off. -/
def KeepsOn (events : List CheckEvent) : Prop :=
  ∀ event ∈ events, ∃ command, event = .supply command ∧ command ≠ .setMode .off

namespace KeepsOn

variable {events : List CheckEvent}

/-- Without an event the power supply stays on. -/
theorem nil : KeepsOn [] := nofun

/-- Events that keep the power supply on can follow each other. -/
theorem append {other : List CheckEvent} (h : KeepsOn events) (hOther : KeepsOn other) :
    KeepsOn (events ++ other) := by
  intro event hEvent
  rcases List.mem_append.mp hEvent with hEvent | hEvent
  · exact h event hEvent
  · exact hOther event hEvent

/-- Events that keep the power supply on do not send it off. -/
theorem mode_ne_off (h : KeepsOn events) : .off ∉ events.filterMap CheckEvent.mode? := by
  intro hOff
  obtain ⟨event, hEvent, hMode⟩ := List.mem_filterMap.mp hOff
  obtain ⟨command, rfl, hCommand⟩ := h event hEvent
  cases command with
  | setMode mode => exact hCommand (congrArg _ (Option.some.inj hMode))
  | _ => exact absurd hMode nofun

/-- Events that keep the power supply on do not concern the isolation monitor. -/
theorem imd?_eq_nil (h : KeepsOn events) : events.filterMap CheckEvent.imd? = [] := by
  apply List.filterMap_eq_nil_iff.mpr
  intro event hEvent
  obtain ⟨command, rfl, -⟩ := h event hEvent
  rfl

/-- Events that keep the power supply on are commands to it, and nothing else. -/
theorem not_mem {event : CheckEvent} (h : KeepsOn events)
    (hEvent : ∀ command, event ≠ .supply command) : event ∉ events := by
  intro hMem
  obtain ⟨command, hSupply, -⟩ := h event hMem
  exact hEvent command hSupply

end KeepsOn

/-- Switching on sends no switching off. -/
theorem keepsOn_powersupplyDcOn (flags : SupplyFlags) :
    KeepsOn flags.unsent.powersupplyDcOn.sent := by
  unfold SupplyState.powersupplyDcOn SupplyState.sent
  split
  · exact nofun
  · intro event hEvent
    rw [List.mem_singleton.mp hEvent]
    exact ⟨_, rfl, nofun⟩

/-- Turning the direction sends no switching off. -/
theorem keepsOn_turnDirection (config : EvseConfig) (flags : SupplyFlags) :
    KeepsOn (turnDirection config flags.unsent).sent := by
  have hSingle (mode : SupplyMode) (hMode : mode ≠ .off) :
      KeepsOn [.supply (.setMode mode)] := by
    intro event hEvent
    rw [List.mem_singleton.mp hEvent]
    exact ⟨_, rfl, fun hOff => hMode (SupplyCommand.setMode.inj hOff)⟩
  unfold turnDirection
  dsimp only
  split_ifs
  · exact nofun
  · exact hSingle .imports nofun
  · exact hSingle .exports nofun
  · exact nofun

/-- A target sends no switching off, accepted or not. -/
theorem keepsOn_setOutcome (config : EvseConfig) (voltage current : ℚ) (flags : SupplyFlags)
    (accepted : Bool) : KeepsOn (setOutcome config voltage current flags.unsent accepted).sent := by
  cases accepted with
  | false => exact keepsOn_turnDirection config flags
  | true =>
      rw [SupplyState.sent, setOutcome, if_pos rfl, SupplyState.send, List.map_append]
      apply (keepsOn_turnDirection config flags).append
      intro event hEvent
      rw [List.mem_singleton.mp hEvent]
      refine ⟨_, rfl, ?_⟩
      unfold PowerSupplyCapabilities.setVoltageCurrent
      split_ifs <;> simp

/-- A voltage that is set is answered by the capabilities, and sends no switching off. -/
theorem keepsOn_setVoltage {config : CableCheckConfig} {voltage : ℚ} {flags : SupplyFlags}
    {accepted : Bool} {set : List CheckEvent}
    (hSet : setVoltage config voltage flags = some (accepted, set)) :
    config.powersupplyCapabilities.accepts (feedsBack config.toEvseConfig flags.unsent) voltage =
        some accepted ∧ KeepsOn set := by
  rw [setVoltage, powersupplyDcSet_eq_map, Option.map_map, Option.map_eq_some_iff] at hSet
  obtain ⟨result, hAccepts, hSet⟩ := hSet
  obtain ⟨rfl, rfl⟩ := Prod.mk.inj hSet
  exact ⟨hAccepts, keepsOn_setOutcome config.toEvseConfig voltage 2 flags result⟩

/-- A voltage is set where the capabilities can be compared with it. -/
theorem setVoltage_isSome (config : CableCheckConfig) (voltage : ℚ) (flags : SupplyFlags) :
    (setVoltage config voltage flags).isSome =
      (config.powersupplyCapabilities.accepts (feedsBack config.toEvseConfig flags.unsent)
        voltage).isSome := by
  rw [setVoltage, powersupplyDcSet_eq_map, Option.map_map, Option.isSome_map]

variable (config : CableCheckConfig)

/-- The part of the condition that concerns the isolation measurement and what follows it. -/
def ReturnMissing (seen : CableCheckSight) (m : IsolationMeasurement) : Prop :=
  (config.powersupplyCapabilities.accepts
    (feedsBack config.toEvseConfig seen.flagsAtReturn.unsent)
    (cableCheckMinimum config.toEvseConfig)).isSome →
  match waitFall config seen with
  | .reached => isolationStatus config m ≠ .fault
  | .missing => config.hackPauseImdDuringPrecharge = true
  | .late => False

/-- If the voltage rises, a check that fails later on is one in which a measurement is
missing, of the isolation or of the falling voltage, with the monitor paused anyway. -/
def OnlyMissing (seen : CableCheckSight) : Prop :=
  config.imdConnected = true → seen.contactorOpen = false →
  config.powersupplyCapabilities.accepts (feedsBack config.toEvseConfig seen.flagsAtStart.unsent)
    config.dcIsolationVoltageV = some true →
  waitRise config seen = .reached →
  match seen.isolation with
  | none => config.hackPauseImdDuringPrecharge = true
  | some m => ReturnMissing config seen m

/-- What is not in the first part of a list is its last element if it is that of the second part. -/
theorem getLast?_append_eq_some_iff {α : Type*} {first second : List α} {last : α}
    (h : last ∉ first) :
    (first ++ second).getLast? = some last ↔ second.getLast? = some last := by
  rw [List.getLast?_append]
  cases hSecond : second.getLast? with
  | none =>
      rw [Option.none_or]
      exact iff_of_false (fun hLast => h (List.mem_of_getLast? hLast)) nofun
  | some _ => rw [Option.some_or]

/-- What matters of a failed check is what it did after the power supply was switched on. -/
theorem cleansUp_concludeCheck_iff {set rest : List CheckEvent} (hSet : KeepsOn set)
    (flags : SupplyFlags) {ok : Bool} (hRest : ∀ result, .cableCheckFinished result ∉ rest) :
    CleansUp (concludeCheck config ok (set ++ switchOn flags ++ [.imdStart] ++ rest)) ↔
      (ok = false → (rest.filterMap CheckEvent.mode?).getLast? = some .off ∧
        (config.hackPauseImdDuringPrecharge = true ∨
          (rest.filterMap CheckEvent.imd?).getLast? = some false)) := by
  have hOn := keepsOn_powersupplyDcOn flags
  have hFinished : .cableCheckFinished false ∈
      concludeCheck config ok (set ++ switchOn flags ++ [.imdStart] ++ rest) ↔ ok = false := by
    cases hPause : config.hackPauseImdDuringPrecharge <;>
      simp [concludeCheck, switchOn, hPause, hSet.not_mem, hOn.not_mem, hRest, eq_comm]
  have hModes : (concludeCheck config ok
      (set ++ switchOn flags ++ [.imdStart] ++ rest)).filterMap CheckEvent.mode? =
      (set ++ flags.unsent.powersupplyDcOn.sent).filterMap CheckEvent.mode? ++
        rest.filterMap CheckEvent.mode? := by
    cases hPause : config.hackPauseImdDuringPrecharge <;>
      simp [concludeCheck, switchOn, hPause, CheckEvent.mode?, List.filterMap_cons]
  have hImds : (concludeCheck config ok
      (set ++ switchOn flags ++ [.imdStart] ++ rest)).filterMap CheckEvent.imd? =
      [true] ++ (rest.filterMap CheckEvent.imd? ++
        if config.hackPauseImdDuringPrecharge then [false] else []) := by
    cases hPause : config.hackPauseImdDuringPrecharge <;>
      simp [concludeCheck, switchOn, hPause, CheckEvent.imd?, List.filterMap_cons,
        hSet.imd?_eq_nil, hOn.imd?_eq_nil]
  rw [CleansUp, hFinished, hModes, hImds,
    getLast?_append_eq_some_iff (hSet.append hOn).mode_ne_off,
    getLast?_append_eq_some_iff (show false ∉ [true] by decide)]
  have hSwitched : CheckEvent.powersupplyDcOn ∈
      concludeCheck config ok (set ++ switchOn flags ++ [.imdStart] ++ rest) := by
    simp [concludeCheck, switchOn]
  simp only [hSwitched, true_implies]
  cases config.hackPauseImdDuringPrecharge with
  | false => simp only [Bool.false_eq_true, if_false, List.append_nil, false_or]
  | true => simp only [if_true, List.getLast?_concat, true_or]

/-- What a branch after the switching on has to do. -/
def CleanRest (ok : Bool) (rest : List CheckEvent) : Prop :=
  ok = false → (rest.filterMap CheckEvent.mode?).getLast? = some .off ∧
    (config.hackPauseImdDuringPrecharge = true ∨
      (rest.filterMap CheckEvent.imd?).getLast? = some false)

/-- The branch of the resistance leaves the power supply on. -/
theorem cleanRest_judgeResistance_iff {set : List CheckEvent} (hSet : KeepsOn set)
    (m : IsolationMeasurement) :
    CleanRest config (judgeResistance config m).1 (set ++ (judgeResistance config m).2) ↔
      isolationStatus config m ≠ .fault := by
  have hModes : (judgeResistance config m).2.filterMap CheckEvent.mode? = [] := by
    unfold judgeResistance
    split <;> rfl
  have hOk : (judgeResistance config m).1 = false ↔ isolationStatus config m = .fault := by
    unfold judgeResistance
    split
    · next hFault => exact iff_of_true rfl hFault
    · next hOther => exact iff_of_false nofun hOther
  rw [CleanRest, hOk, List.filterMap_append, hModes, List.append_nil]
  constructor
  · intro hClean hFault
    exact hSet.mode_ne_off (List.mem_of_getLast? (hClean hFault).1)
  · exact fun hOther hFault => absurd hFault hOther

/-- What follows a measurement cleans up exactly under `ReturnMissing`. -/
theorem cleanRest_afterMeasurement_iff {seen : CableCheckSight} {m : IsolationMeasurement} :
    (∀ ok rest, afterMeasurement config seen m = some (ok, rest) → CleanRest config ok rest) ↔
      ReturnMissing config seen m := by
  unfold afterMeasurement ReturnMissing
  cases hSetVoltage : setVoltage config (cableCheckMinimum config.toEvseConfig)
      seen.flagsAtReturn with
  | none =>
      have hThrows := setVoltage_isSome config (cableCheckMinimum config.toEvseConfig)
        seen.flagsAtReturn
      rw [hSetVoltage] at hThrows
      exact iff_of_true (fun _ _ => nofun) fun hSome => absurd (hThrows.trans hSome) nofun
  | some result =>
      obtain ⟨accepted, set⟩ := result
      obtain ⟨hAccepts, hSet⟩ := keepsOn_setVoltage hSetVoltage
      simp only [Option.bind_eq_bind, Option.bind_some, hAccepts, Option.isSome_some, true_implies]
      cases waitFall config seen with
      | reached =>
          simp only [Option.pure_def, Option.some.injEq, Prod.mk.injEq]
          rw [← cleanRest_judgeResistance_iff config hSet m]
          exact ⟨fun h => h _ _ ⟨rfl, rfl⟩, fun h ok rest ⟨hOk, hRest⟩ => hOk ▸ hRest ▸ h⟩
      | missing =>
          have hModes : (set ++ switchOff).filterMap CheckEvent.mode? =
              set.filterMap CheckEvent.mode? ++ [.off] := List.filterMap_append
          have hImds : (set ++ switchOff).filterMap CheckEvent.imd? = [] := by
            rw [List.filterMap_append, hSet.imd?_eq_nil]
            rfl
          simp only [CleanRest, VoltageWait.events, Option.pure_def, Option.some.injEq,
            Prod.mk.injEq]
          constructor
          · intro hClean
            have hImd := (hClean _ _ ⟨rfl, rfl⟩ rfl).2
            rw [hImds] at hImd
            exact hImd.resolve_right nofun
          · rintro hPause ok rest ⟨-, rfl⟩ -
            rw [hModes, List.getLast?_concat]
            exact ⟨rfl, .inl hPause⟩
      | late =>
          simp only [VoltageWait.events, List.append_nil, Option.pure_def, Option.some.injEq,
            Prod.mk.injEq, iff_false]
          intro hClean
          exact hSet.mode_ne_off (List.mem_of_getLast? (hClean _ _ ⟨rfl, rfl⟩ rfl).1)

/-- A voltage that does not rise is seen to. -/
theorem cleanRest_of_not_risen (failed : VoltageWait) :
    CleanRest config false (failed.events ++ switchOff ++ [.imdStop]) := by
  cases failed <;> exact fun _ => ⟨rfl, .inr rfl⟩

/-- The branch after a measurement does not report the end, which is left to the thread. -/
theorem notFinished_afterMeasurement {seen : CableCheckSight} {m : IsolationMeasurement}
    {ok : Bool} {rest : List CheckEvent}
    (hAfter : afterMeasurement config seen m = some (ok, rest)) (result : Bool) :
    .cableCheckFinished result ∉ rest := by
  obtain ⟨⟨accepted, set⟩, hSetVoltage, hRest⟩ := Option.bind_eq_some_iff.mp hAfter
  have hSet := (keepsOn_setVoltage hSetVoltage).2.not_mem
    (fun command => (nofun : CheckEvent.cableCheckFinished result ≠ .supply command))
  dsimp only at hRest
  cases hFall : waitFall config seen with
  | reached =>
      simp only [hFall] at hRest
      obtain ⟨-, rfl⟩ := Prod.mk.inj (Option.some.inj hRest)
      rw [List.mem_append, not_or]
      refine ⟨hSet, ?_⟩
      unfold judgeResistance
      split <;> simp
  | missing =>
      simp only [hFall] at hRest
      obtain ⟨-, rfl⟩ := Prod.mk.inj (Option.some.inj hRest)
      rw [List.mem_append, not_or]
      exact ⟨hSet, by simp [VoltageWait.events, switchOff, SupplyState.sent]⟩
  | late =>
      simp only [hFall] at hRest
      obtain ⟨-, rfl⟩ := Prod.mk.inj (Option.some.inj hRest)
      rw [List.mem_append, not_or]
      exact ⟨hSet, List.not_mem_nil⟩

/-- Only the end of the thread reports a result. -/
theorem notFinished_afterOn {seen : CableCheckSight} {ok : Bool} {rest : List CheckEvent}
    (hAfter : afterOn config seen = some (ok, rest)) (result : Bool) :
    .cableCheckFinished result ∉ rest := by
  unfold afterOn at hAfter
  split at hAfter
  · exact notFinished_afterMeasurement config hAfter result
  · obtain ⟨-, rfl⟩ := Prod.mk.inj (Option.some.inj hAfter)
    simp [switchOff, SupplyState.sent]
  · obtain ⟨-, rfl⟩ := Prod.mk.inj (Option.some.inj hAfter)
    cases waitRise config seen <;> simp [VoltageWait.events, switchOff, SupplyState.sent]

/-- What follows the switching on cleans up if the voltage does not rise, or what follows the rise
does. -/
theorem cleanRest_afterOn_iff {seen : CableCheckSight} :
    (∀ ok rest, afterOn config seen = some (ok, rest) → CleanRest config ok rest) ↔
      (waitRise config seen = .reached →
        match seen.isolation with
        | none => config.hackPauseImdDuringPrecharge = true
        | some m => ReturnMissing config seen m) := by
  unfold afterOn
  cases hRise : waitRise config seen with
  | reached =>
      cases seen.isolation with
      | none =>
          simp only [true_implies, Option.some.injEq, Prod.mk.injEq]
          constructor
          · intro hClean
            exact (hClean _ _ ⟨rfl, rfl⟩ rfl).2.resolve_right nofun
          · rintro hPause ok rest ⟨-, rfl⟩ -
            exact ⟨rfl, .inl hPause⟩
      | some m => simpa only [true_implies] using cleanRest_afterMeasurement_iff config
  | _ =>
      refine iff_of_true ?_ nofun
      intro ok rest hAfter
      obtain ⟨rfl, rfl⟩ := Prod.mk.inj (Option.some.inj hAfter)
      exact cleanRest_of_not_risen config _

/-- A check that never switched the power supply on has nothing to clean up. -/
theorem cleansUp_concludeCheck_of_not_on {events : List CheckEvent} (hEvents : KeepsOn events)
    (ok : Bool) : CleansUp (concludeCheck config ok events) := by
  intro _ hOn
  simp only [concludeCheck, List.mem_append, List.mem_singleton, reduceCtorEq, or_false] at hOn
  rcases hOn with hOn | hOn
  · exact absurd hOn (hEvents.not_mem nofun)
  · split at hOn <;> simp at hOn

/-- A failed check cleans up after itself just when it fails by a missing measurement only. -/
theorem cableCheck_cleansUp_iff (seen : CableCheckSight) :
    (∀ events, cableCheck config seen = some events → CleansUp events) ↔
      OnlyMissing config seen := by
  unfold cableCheck cableCheckThread OnlyMissing
  cases hImd : config.imdConnected with
  | false =>
      refine iff_of_true ?_ nofun
      rintro events ⟨⟩ -
      simp
  | true =>
      cases hContactor : seen.contactorOpen with
      | true =>
          refine iff_of_true ?_ fun _ => nofun
          rintro events ⟨⟩
          exact cleansUp_concludeCheck_of_not_on config KeepsOn.nil false
      | false =>
          simp only [if_true, Bool.false_eq_true, if_false, true_implies]
          cases hSetVoltage : setVoltage config config.dcIsolationVoltageV seen.flagsAtStart with
          | none =>
              have hThrows := setVoltage_isSome config config.dcIsolationVoltageV seen.flagsAtStart
              rw [hSetVoltage] at hThrows
              refine iff_of_true (fun _ => nofun) fun hAccepts => ?_
              rw [hAccepts] at hThrows
              exact absurd hThrows nofun
          | some result =>
              obtain ⟨accepted, set⟩ := result
              obtain ⟨hAccepts, hSet⟩ := keepsOn_setVoltage hSetVoltage
              cases accepted with
              | false =>
                  refine iff_of_true ?_ fun hTrue => absurd (hAccepts.symm.trans hTrue) nofun
                  rintro events ⟨⟩
                  exact cleansUp_concludeCheck_of_not_on config hSet false
              | true =>
                  simp only [hAccepts, true_implies, Option.bind_eq_bind, Option.bind_some]
                  rw [← cleanRest_afterOn_iff]
                  constructor
                  · intro hClean ok rest hAfter
                    have hEvents := hClean _ (by rw [hAfter]; rfl)
                    rwa [cleansUp_concludeCheck_iff config hSet _
                      (notFinished_afterOn config hAfter)] at hEvents
                  · intro hRest events hEvents
                    obtain ⟨⟨ok, rest⟩, hAfter, hEnd⟩ := Option.bind_eq_some_iff.mp hEvents
                    obtain rfl := Option.some.inj hEnd
                    rw [cleansUp_concludeCheck_iff config hSet _
                      (notFinished_afterOn config hAfter)]
                    exact hRest ok rest hAfter

/-- A charger of 1000 V. -/
def checkConfig : CableCheckConfig where
  toEvseConfig := { gridEvse true with
    powersupplyCapabilities := { supply with maxExportVoltageV := 1000 } }

/-- The voltage rises and falls again, and the isolation has a fault. -/
def faultSight : CableCheckSight where
  risingVoltages := [some 200, some 495]
  isolation := some ⟨5000, 900000, none⟩
  fallingVoltages := [some 505]

/-- A check that finds a fault of the isolation stops the monitor, and leaves 500 V on. -/
theorem cableCheck_fault_left_on :
    ∃ events ∈ cableCheck checkConfig faultSight, ¬CleansUp events := by
  decide +kernel

end CleanUp

end EverestCore.EvseManager
