import EverestCore.Machine.Runs
import EverestCore.Serial.EvSerial

/-! `evSerial::reset` and the read thread share two flags. Each access to a flag is a step of its
own, and the steps of the two threads come in any order. -/
namespace EverestCore.Serial
open Machine

/-- Where the read thread is. -/
inductive ReaderStage where
  | idle
  -- `reset_done_flag` is set, and `forced_reset` has not been read yet
  | marked
  deriving DecidableEq

/-- Where `evSerial::reset` is. -/
inductive ResetStage where
  | outside
  -- `reset_done_flag` is cleared, and `forced_reset` has not been set yet
  | cleared
  -- in the loop, before this round of it
  | waiting (i : ℕ)
  -- behind the loop
  | settled (success : Bool)
  -- `reset_done_flag` is cleared again, and `forced_reset` is still set
  | unmarked (success : Bool)
  deriving DecidableEq

/-- What the two threads have done. -/
inductive ResetEvent where
  | begun
  | forced
  | settled (success : Bool)
  | returned (success : Bool)
  -- a message says that the controller is reset
  | marked
  -- with a signal if `forced_reset` is not set
  | checked (signalled : Bool)
  deriving DecidableEq

structure ResetThreads where
  resetDoneFlag : Bool
  forcedReset : Bool
  reader : ReaderStage
  caller : ResetStage
  log : List ResetEvent
  deriving DecidableEq

/-- The read thread gets a message, or goes on with it; or the thread that calls `reset` goes on,
and calls it again if it is outside. -/
inductive ResetTurn where
  | resetDone
  | check
  | caller
  deriving DecidableEq

/-- The number of rounds that `reset` waits. -/
def resetRounds : ℕ := 20

namespace ResetThreads

/-- As `evSerial` is constructed. -/
def start : ResetThreads := ⟨false, false, .idle, .outside, []⟩

def emit (event : ResetEvent) (s : ResetThreads) : ResetThreads :=
  { s with log := s.log ++ [event] }

/-- `evSerial::reset`, from one access to the next. -/
def resetStep (s : ResetThreads) : ResetThreads :=
  match s.caller with
  | .outside => emit .begun { s with resetDoneFlag := false, caller := .cleared }
  | .cleared => emit .forced { s with forcedReset := true, caller := .waiting 0 }
  | .waiting i =>
      if s.resetDoneFlag then emit (.settled true) { s with caller := .settled true }
      else if i + 1 < resetRounds then { s with caller := .waiting (i + 1) }
      else emit (.settled false) { s with caller := .settled false }
  | .settled success => { s with resetDoneFlag := false, caller := .unmarked success }
  | .unmarked success =>
      emit (.returned success) { s with forcedReset := false, caller := .outside }

def step (s : ResetThreads) : ResetTurn → ResetThreads
  | .resetDone =>
      match s.reader with
      | .idle => emit .marked { s with resetDoneFlag := true, reader := .marked }
      | .marked => s
  | .check =>
      match s.reader with
      | .idle => s
      | .marked => emit (.checked (!s.forcedReset)) { s with reader := .idle }
  | .caller => s.resetStep

end ResetThreads

/-- `reset` is on its way from the access that sets `forced_reset` to the one that clears it. -/
def ResetStage.Forces : ResetStage → Prop
  | .outside | .cleared => False
  | .waiting _ | .settled _ | .unmarked _ => True

instance : DecidablePred ResetStage.Forces
  | .outside | .cleared => .isFalse id
  | .waiting _ | .settled _ | .unmarked _ => .isTrue trivial

/-! What the log says. -/

namespace ResetEvent

/-- A message has come since the last reset began. -/
def heard (log : List ResetEvent) : Bool :=
  log.foldl (fun heard event =>
    match event with
    | begun => false
    | marked => true
    | _ => heard) false

/-- The result of the last reset. -/
def result (log : List ResetEvent) : Bool :=
  log.foldl (fun result event =>
    match event with
    | settled success => success
    | _ => result) false

/-- The last message has not been looked at yet. -/
def unchecked (log : List ResetEvent) : Bool :=
  log.foldl (fun unchecked event =>
    match event with
    | marked => true
    | checked _ => false
    | _ => unchecked) false

/-- A reset succeeds if it is heard of, and every message is looked at before the next one comes. -/
def Accounted (before : List ResetEvent) : ResetEvent → Prop
  | settled success => success = heard before
  | returned success => success = result before
  | marked => unchecked before = false
  | checked _ => unchecked before = true
  | _ => True

variable (log : List ResetEvent) (event : ResetEvent)

/-- Only the beginning of a reset and a message change whether one has been heard of. -/
theorem heard_snoc : heard (log ++ [event]) =
    match event with
    | begun => false
    | marked => true
    | _ => heard log := by
  rw [heard, List.foldl_append]
  rfl

/-- Only the end of a reset changes the last result. -/
theorem result_snoc : result (log ++ [event]) =
    match event with
    | settled success => success
    | _ => result log := by
  rw [result, List.foldl_append]
  rfl

/-- A message is unchecked until it is looked at. -/
theorem unchecked_snoc : unchecked (log ++ [event]) =
    match event with
    | marked => true
    | checked _ => false
    | _ => unchecked log := by
  rw [unchecked, List.foldl_append]
  rfl

end ResetEvent

namespace ResetThreads
open ResetEvent

/-- What a stage of `reset` says about `reset_done_flag` and the log. -/
def Fits (flag heard result : Bool) : ResetStage → Prop
  | .outside => True
  | .cleared => flag = heard
  | .waiting i => flag = heard ∧ i < resetRounds
  | .settled success => success = result
  | .unmarked success => success = result

/-- A message sets the flag and is heard of, at whatever stage the caller is. -/
theorem Fits.mark {flag heard result : Bool} {stage : ResetStage}
    (h : Fits flag heard result stage) : Fits true true result stage := by
  cases stage with
  | outside => trivial
  | cleared => rfl
  | waiting i => exact ⟨rfl, h.2⟩
  | settled success => exact h
  | unmarked success => exact h

structure Inv (s : ResetThreads) : Prop where
  accounted : EachAfter Accounted s.log
  forced : s.forcedReset = decide s.caller.Forces
  unchecked : unchecked s.log = decide (s.reader = .marked)
  fits : Fits s.resetDoneFlag (heard s.log) (result s.log) s.caller

/-- The invariant holds before the threads run. -/
theorem inv_start : start.Inv := ⟨eachAfter_nil _, rfl, rfl, trivial⟩

variable {s : ResetThreads}

/-- A step of the caller keeps the invariant. One case for each stage. -/
theorem Inv.resetStep (h : s.Inv) : s.resetStep.Inv := by
  have hFits := h.fits
  have hForced := h.forced
  have hUnchecked := h.unchecked
  unfold ResetThreads.resetStep
  cases hCaller : s.caller with
  | outside =>
      rw [hCaller] at hForced
      refine ⟨eachAfter_snoc.mpr ⟨h.accounted, trivial⟩, hForced, ?_, ?_⟩
      · exact (unchecked_snoc s.log .begun).trans hUnchecked
      · exact (heard_snoc s.log .begun).symm
  | cleared =>
      rw [hCaller] at hFits
      refine ⟨eachAfter_snoc.mpr ⟨h.accounted, trivial⟩, rfl, ?_, ?_, ?_⟩
      · exact (unchecked_snoc s.log .forced).trans hUnchecked
      · exact hFits.trans (heard_snoc s.log .forced).symm
      · decide
  | waiting i =>
      rw [hCaller] at hFits hForced
      dsimp only
      split
      · next hFlag =>
        refine ⟨eachAfter_snoc.mpr ⟨h.accounted, ?_⟩, hForced, ?_, ?_⟩
        · exact hFlag.symm.trans hFits.1
        · exact (unchecked_snoc s.log (.settled true)).trans hUnchecked
        · exact (result_snoc s.log (.settled true)).symm
      · next hFlag =>
        split
        · next hRound => exact ⟨h.accounted, hForced, hUnchecked, hFits.1, hRound⟩
        · refine ⟨eachAfter_snoc.mpr ⟨h.accounted, ?_⟩, hForced, ?_, ?_⟩
          · exact (Bool.eq_false_of_not_eq_true hFlag).symm.trans hFits.1
          · exact (unchecked_snoc s.log (.settled false)).trans hUnchecked
          · exact (result_snoc s.log (.settled false)).symm
  | settled success =>
      rw [hCaller] at hFits hForced
      exact ⟨h.accounted, hForced, hUnchecked, hFits⟩
  | unmarked success =>
      rw [hCaller] at hFits
      refine ⟨eachAfter_snoc.mpr ⟨h.accounted, hFits⟩, rfl, ?_, trivial⟩
      exact (unchecked_snoc s.log (.returned success)).trans hUnchecked

/-- The read thread leaves `reset` where it is. -/
theorem Inv.mark (h : s.Inv) (hReader : s.reader = .idle) :
    (emit .marked { s with resetDoneFlag := true, reader := .marked }).Inv := by
  have hUnchecked := h.unchecked
  rw [hReader] at hUnchecked
  refine ⟨eachAfter_snoc.mpr ⟨h.accounted, hUnchecked⟩, h.forced, ?_, ?_⟩
  · exact unchecked_snoc s.log .marked
  · show Fits true (heard (s.log ++ [.marked])) (result (s.log ++ [.marked])) s.caller
    rw [heard_snoc, result_snoc]
    exact h.fits.mark

/-- The look at `forced_reset` keeps the invariant. -/
theorem Inv.check (h : s.Inv) (hReader : s.reader = .marked) :
    (emit (.checked (!s.forcedReset)) { s with reader := .idle }).Inv := by
  have hUnchecked := h.unchecked
  rw [hReader] at hUnchecked
  refine ⟨eachAfter_snoc.mpr ⟨h.accounted, hUnchecked⟩, h.forced, ?_, ?_⟩
  · exact unchecked_snoc s.log (.checked (!s.forcedReset))
  · show Fits s.resetDoneFlag (heard (s.log ++ [.checked (!s.forcedReset)]))
      (result (s.log ++ [.checked (!s.forcedReset)])) s.caller
    rw [heard_snoc, result_snoc]
    exact h.fits

/-- Every turn keeps the invariant. -/
theorem Inv.step (h : s.Inv) (turn : ResetTurn) : (s.step turn).Inv := by
  cases turn with
  | resetDone =>
      unfold ResetThreads.step
      cases hReader : s.reader with
      | idle => exact h.mark hReader
      | marked => exact h
  | check =>
      unfold ResetThreads.step
      cases hReader : s.reader with
      | idle => exact h
      | marked => exact h.check hReader
  | caller => exact h.resetStep

/-- The invariant holds after any turns. By induction over them. -/
theorem inv_run (turns : List ResetTurn) : (run step start turns).Inv :=
  run_invariant Inv inv_start (fun _ turn h => h.step turn) turns

/-- The turns that `reset` still takes. -/
def toGo : ResetStage → ℕ
  | .outside => 0
  | .cleared => resetRounds + 3
  | .waiting i => resetRounds - i + 2
  | .settled _ => 2
  | .unmarked _ => 1

/-- A caller inside `reset` comes one step closer to its end. -/
theorem toGo_resetStep (h : s.Inv) (hInside : s.caller ≠ .outside) :
    toGo s.resetStep.caller < toGo s.caller := by
  have hFits := h.fits
  unfold ResetThreads.resetStep
  cases hCaller : s.caller with
  | outside => exact absurd hCaller hInside
  | cleared => exact Nat.lt_succ_self 22
  | waiting i =>
      rw [hCaller] at hFits
      have hRound := hFits.2
      dsimp only
      split
      · show 2 < resetRounds - i + 2
        omega
      · split
        · show resetRounds - (i + 1) + 2 < resetRounds - i + 2
          omega
        · show 2 < resetRounds - i + 2
          omega
  | settled success => exact Nat.one_lt_two
  | unmarked success => exact Nat.one_pos

/-- The turns of the reader do not move the caller. -/
theorem caller_step_reader {turn : ResetTurn} (hTurn : turn ≠ .caller) :
    (s.step turn).caller = s.caller := by
  unfold ResetThreads.step
  cases turn with
  | resetDone => cases s.reader <;> rfl
  | check => cases s.reader <;> rfl
  | caller => exact absurd rfl hTurn

/-- A caller that has no step to go is outside. -/
theorem eq_outside_of_toGo {stage : ResetStage} (hNone : toGo stage = 0) : stage = .outside := by
  cases stage with
  | outside => rfl
  | cleared => cases hNone
  | waiting i => cases hNone
  | settled success => cases hNone
  | unmarked success => cases hNone

/-- If the caller has as many turns as it has steps to go, there is a moment at which it is outside.
-/
theorem exists_outside {turns : List ResetTurn} (h : s.Inv)
    (hTurns : toGo s.caller ≤ turns.count .caller) :
    ∃ before, before <+: turns ∧ (run step s before).caller = .outside := by
  induction turns generalizing s with
  | nil => exact ⟨[], List.nil_prefix, eq_outside_of_toGo (Nat.le_zero.mp hTurns)⟩
  | cons turn rest ih =>
      by_cases hOutside : s.caller = .outside
      · exact ⟨[], List.nil_prefix, hOutside⟩
      · have hRest : toGo (s.step turn).caller ≤ rest.count .caller := by
          by_cases hTurn : turn = .caller
          · subst hTurn
            have hLess := toGo_resetStep h hOutside
            rw [List.count_cons_self] at hTurns
            exact Nat.le_of_lt_succ (Nat.lt_of_lt_of_le hLess hTurns)
          · rw [caller_step_reader hTurn]
            rwa [List.count_cons_of_ne hTurn] at hTurns
        obtain ⟨before, hBefore, hCaller⟩ := ih (h.step turn) hRest
        exact ⟨turn :: before, List.cons_prefix_cons.mpr ⟨rfl, hBefore⟩, hCaller⟩

/-- Wherever `reset` is, it has returned after 23 more turns of its thread, whatever the read thread
does in between. -/
theorem reset_returns (turns : List ResetTurn) {more : List ResetTurn}
    (hMore : 23 ≤ more.count .caller) :
    ∃ before, before <+: more ∧ (run step start (turns ++ before)).caller = .outside := by
  have hToGo : toGo (run step start turns).caller ≤ 23 := by
    cases (run step start turns).caller with
    | outside => decide
    | cleared => decide
    | waiting i =>
        show resetRounds - i + 2 ≤ 23
        have hRounds : resetRounds = 20 := rfl
        omega
    | settled success => exact Nat.le_add_left 2 21
    | unmarked success => exact Nat.le_add_left 1 22
  obtain ⟨before, hBefore, hCaller⟩ := exists_outside (inv_run turns) (Nat.le_trans hToGo hMore)
  exact ⟨before, hBefore, by rw [run_append, hCaller]⟩

/-- The controller is heard in the first round, after a surprise. -/
theorem reset_returns_heard :
    ∃ before, before <+: .resetDone :: List.replicate 23 .caller ∧
      (run step start ([.resetDone, .check, .caller, .caller] ++ before)).caller = .outside :=
  reset_returns [.resetDone, .check, .caller, .caller] (by decide)

end ResetThreads

/-- The two turns of the read thread, one after the other, are what `handleMessage` does. -/
theorem EvSerial.handleMessage_resetDone (moment : Moment) (s : EvSerial) (threads : ResetThreads)
    (hIdle : threads.reader = .idle) (hForced : threads.forcedReset = moment.forcedReset) :
    (run ResetThreads.step threads [.resetDone, .check]).resetDoneFlag =
        (s.handleMessage moment ⟨.of .resetDone ⟨⟩⟩).resetDoneFlag ∧
      (run ResetThreads.step threads [.resetDone, .check]).log =
        threads.log ++ [.marked, .checked (!moment.forcedReset)] := by
  have hRun : run ResetThreads.step threads [.resetDone, .check] =
      { threads with
        resetDoneFlag := true
        log := threads.log ++ [.marked] ++ [.checked (!threads.forcedReset)] } := by
    rcases threads with ⟨flag, forced, reader, caller, log⟩
    obtain rfl : reader = .idle := hIdle
    rfl
  rw [hRun, hForced, List.append_assoc]
  refine ⟨?_, rfl⟩
  show true = (if moment.forcedReset then { s with resetDoneFlag := true }
    else signal .spuriousReset { s with resetDoneFlag := true }).resetDoneFlag
  split <;> rfl

end EverestCore.Serial
