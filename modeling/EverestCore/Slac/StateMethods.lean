import EverestCore.Slac.Dispatch
import EverestCore.Slac.StateMachine

/-! The states of the SLAC module as states of `libfsm`. Each state has its own methods, and
the state machine of the module is what the library makes of them with a stack of one
state. -/
namespace EverestCore.Slac
open Fsm

/-- The events of the machine: those from outside, and those of the matching state. -/
inductive FsmEvent where
  | slacMessage (source : MacAddress) (message : ReceivedMessage)
  | reset
  | enterBcd
  | leaveBcd
  | matching (event : MatchingEvent)
  deriving DecidableEq, Repr

/-- The events that are fed from outside. -/
def SlacEvent.fed : SlacEvent → Option FsmEvent
  | .slacMessage source message => some (.slacMessage source message)
  | .reset => some .reset
  | .enterBcd => some .enterBcd
  | .leaveBcd => some .leaveBcd
  | .callback => none

/-- `DO_NOT_CALL_ME_AGAIN`. -/
def doNotCallMeAgain : ℤ := -1

/-- The integer that stands for a result. -/
def FeedResult.value : FeedResult → ℤ
  | .eventUnhandled => Fsm.eventUnhandled
  | .eventHandledInternally => Fsm.eventHandledInternally
  | .doNotCallMeAgain => Slac.doNotCallMeAgain
  | .callAgain ms => ms

namespace SlacMachine

variable (defs : SlacDefs) (setKeyTimeoutMs now : ℤ)

/-- Data of the matching state change, and something is sent. -/
def change (matching : MatchingState) (outputs : List SlacOutput) (s : SlacMachine) :
    SlacMachine :=
  { s with state := .matching matching }.emit outputs

/-- `ResetState::handle_event`. -/
def handleInReset (event : FsmEvent) (s : SlacMachine) : NextState SlacStateName × SlacMachine :=
  match event with
  | .slacMessage _ message =>
      if message = .cmSetKeyCnf then (.states none (some .idle), s) else (.option .passOn, s)
  | .reset => (.states none (some .reset), s)
  | _ => (.option .passOn, s)

/-- `IdleState::handle_event`. -/
def handleInIdle (event : FsmEvent) (s : SlacMachine) : NextState SlacStateName × SlacMachine :=
  match event with
  | .enterBcd => (.states none (some .matching), s)
  | .reset => (.states none (some .reset), s)
  | _ => (.option .passOn, s)

/-- `MatchingState::handle_event`. -/
def handleInMatching (matching : MatchingState) (event : FsmEvent) (s : SlacMachine) :
    NextState SlacStateName × SlacMachine :=
  match event with
  | .slacMessage source message =>
      let (matching, outputs) := matching.handleSlacMessage defs now s.sessionNmk source message
      (.option .handledInternally, s.change matching outputs)
  | .reset => (.states none (some .reset), s)
  | .matching .matchComplete => (.states none (some .matched), s)
  | .matching .retryMatching =>
      let matching := { matching with numRetries := matching.numRetries + 1 }
      if matching.numRetries = defs.cEvMatchRetry then
        (.states none (some .failed), s.change matching [])
      else
        (.option .handledInternally,
          s.change { matching with
            timeoutSlacParmReq := now + milliseconds defs.ttEvseSlacInitMs } [])
  | .matching .failed => (.states none (some .failed), s)
  | .enterBcd | .leaveBcd => (.option .passOn, s)

/-- `MatchedState::handle_event` and `FailedState::handle_event`. -/
def handleAtEnd (event : FsmEvent) (s : SlacMachine) : NextState SlacStateName × SlacMachine :=
  match event with
  | .reset => (.states none (some .reset), s)
  | _ => (.option .passOn, s)

/-- The methods of the states. The data of the matching state are found in the machine. -/
def stateMethods : StateMethods SlacStateName FsmEvent SlacMachine where
  enter name s :=
    ((s.enter defs setKeyTimeoutMs now name).feedResult.value,
      s.enter defs setKeyTimeoutMs now name)
  handleEvent name event s :=
    match name, s.state with
    | .reset, _ => s.handleInReset event
    | .idle, _ => s.handleInIdle event
    | .matching, .matching matching => s.handleInMatching defs now matching event
    | _, _ => s.handleAtEnd event
  callback name s :=
    match name, s.state with
    | .matching, .matching matching =>
        match matching.callback defs now 3 with
        | none => (.value doNotCallMeAgain, s)
        | some (matching, outputs, .wait callBackMs) =>
            (.value (callBackMs.getD doNotCallMeAgain), s.change matching outputs)
        | some (matching, outputs, .event event) =>
            (.event (.matching event), s.change matching outputs)
    | _, _ => (.value doNotCallMeAgain, s)
  leave _ s := s.leave

/-- A result of the library stands for a state of the machine: the returned integer is that
of `feed_result`, and one state is on the stack. -/
def StandsFor (result : ℤ × FSM SlacStateName FsmEvent SlacMachine) (s : SlacMachine) : Prop :=
  result.1 = s.feedResult.value ∧ result.2.stack = [s.state.name] ∧
    result.2.world.answer s.feedResult = s

variable {defs setKeyTimeoutMs now} {s : SlacMachine} {event : FsmEvent} {name : SlacStateName}
  {calls : List (MethodCall SlacStateName FsmEvent)}

theorem standsFor_passOn (hName : s.state.name = name)
    (hHandler : (stateMethods defs setKeyTimeoutMs now).handleEvent name event s =
      (.option .passOn, s)) :
    StandsFor (FSM.dispatchEvent (stateMethods defs setKeyTimeoutMs now) event ⟨[name], s, calls⟩)
      (s.answer .eventUnhandled) := by
  rw [FSM.dispatchEvent_single_passOn hHandler, ← hName]
  exact ⟨rfl, rfl, rfl⟩

theorem standsFor_internally {next : MatchingState} {outputs : List SlacOutput}
    {world : SlacMachine}
    (hHandler : (stateMethods defs setKeyTimeoutMs now).handleEvent .matching event world =
      (.option .handledInternally, s.change next outputs)) :
    StandsFor
      (FSM.dispatchEvent (stateMethods defs setKeyTimeoutMs now) event ⟨[.matching], world, calls⟩)
      (s.stay next outputs .eventHandledInternally) := by
  rw [FSM.dispatchEvent_single_internally hHandler]
  exact ⟨rfl, rfl, rfl⟩

/-- Entering a state forgets the data of the one that is left. -/
theorem standsFor_child {next world : SlacMachine} {child : SlacStateName}
    (hHandler : (stateMethods defs setKeyTimeoutMs now).handleEvent name event world =
      (.states none (some child), next))
    (hNext : next.leave.enter defs setKeyTimeoutMs now child =
      s.leave.enter defs setKeyTimeoutMs now child) :
    StandsFor
      (FSM.dispatchEvent (stateMethods defs setKeyTimeoutMs now) event ⟨[name], world, calls⟩)
      (s.goTo defs setKeyTimeoutMs now child) := by
  rw [FSM.dispatchEvent_single_child hHandler]
  dsimp only [stateMethods, goTo]
  rw [hNext]
  refine ⟨rfl, ?_, ?_⟩ <;> cases child <;> rfl

/-- An event from outside does what the library makes of the methods of the current state. -/
theorem feedEvent_standsFor {input : SlacEvent} (hFed : input.fed = some event) :
    StandsFor
      (FSM.feedEvent (stateMethods defs setKeyTimeoutMs now) event ⟨[s.state.name], s, calls⟩)
      (s.feedEvent defs setKeyTimeoutMs now input) := by
  rw [FSM.feedEvent]
  cases input with
  | callback => cases hFed
  | reset =>
      cases hFed
      refine standsFor_child ?_ rfl
      cases hState : s.state <;> simp only [stateMethods, FsmState.name, hState] <;> rfl
  | leaveBcd =>
      cases hFed
      refine standsFor_passOn rfl ?_
      cases hState : s.state <;> simp only [stateMethods, FsmState.name, hState] <;> rfl
  | enterBcd =>
      cases hFed
      rw [feedEvent]
      cases hState : s.state with
      | idle => exact standsFor_child rfl rfl
      | matching matching =>
          refine standsFor_passOn (by rw [hState]) ?_
          simp only [stateMethods, FsmState.name, hState]
          rfl
      | _ => exact standsFor_passOn (by rw [hState]) rfl
  | slacMessage source message =>
      cases hFed
      rw [feedEvent]
      cases hState : s.state with
      | reset =>
          dsimp only
          split_ifs with hConfirmed
          · exact standsFor_child (if_pos hConfirmed) rfl
          · exact standsFor_passOn (by rw [hState]) (if_neg hConfirmed)
      | matching matching =>
          apply standsFor_internally
          simp only [stateMethods, hState]
          rfl
      | _ => exact standsFor_passOn (by rw [hState]) rfl

/-- An event of the matching state, after its callback has changed the data. -/
theorem matchingEvent_standsFor {matching next : MatchingState} {outputs : List SlacOutput}
    (hState : s.state = .matching matching) (matchingEvent : MatchingEvent) :
    StandsFor
      (FSM.dispatchEvent (stateMethods defs setKeyTimeoutMs now) (.matching matchingEvent)
        ⟨[.matching], s.change next outputs, calls⟩)
      ((s.emit outputs).handleMatchingEvent defs setKeyTimeoutMs now next matchingEvent) := by
  have hLeave (other : SlacMachine) (matching : MatchingState)
      (hOther : other.state = .matching matching) : other.leave = other := by
    rw [leave, hOther]
  have hEnter (last : MatchingState) (child : SlacStateName) :
      ((s.change last outputs).leave).enter defs setKeyTimeoutMs now child =
        ((s.emit outputs).leave).enter defs setKeyTimeoutMs now child := by
    rw [hLeave _ last rfl, hLeave (s.emit outputs) matching hState]
    cases child <;> rfl
  cases matchingEvent with
  | matchComplete => exact standsFor_child rfl (hEnter next .matched)
  | failed => exact standsFor_child rfl (hEnter next .failed)
  | retryMatching =>
      dsimp only [handleMatchingEvent]
      split_ifs with hLimit
      · refine standsFor_child (if_pos hLimit) ?_
        have hChange (last : MatchingState) :
            (s.change next outputs).change last [] = s.change last outputs := by
          simp [change, emit]
        rw [hChange]
        exact hEnter _ .failed
      · exact standsFor_internally (if_neg hLimit)

/-- The callback does what the library makes of it. -/
theorem feed_standsFor :
    ∃ result, FSM.feed? (stateMethods defs setKeyTimeoutMs now) ⟨[s.state.name], s, calls⟩ =
      some result ∧ StandsFor result (s.feed defs setKeyTimeoutMs now) := by
  rw [feed]
  cases hState : s.state with
  | matching matching =>
      obtain ⟨⟨next, outputs, result⟩, hResult, -⟩ :=
        MatchingState.called_callback defs now 0 matching
      have hCallback : matching.callback defs now 3 = some (next, outputs, result) := hResult
      dsimp only
      rw [hCallback]
      cases result with
      | wait callBackMs =>
          have hMethod : (stateMethods defs setKeyTimeoutMs now).callback .matching s =
              (.value (callBackMs.getD doNotCallMeAgain), s.change next outputs) := by
            simp only [stateMethods, hState, hCallback]
          refine ⟨_, FSM.feed?_value hMethod, ?_⟩
          cases callBackMs <;> exact ⟨rfl, rfl, rfl⟩
      | event event =>
          have hMethod : (stateMethods defs setKeyTimeoutMs now).callback .matching s =
              (.event (.matching event), s.change next outputs) := by
            simp only [stateMethods, hState, hCallback]
          exact ⟨_, FSM.feed?_event hMethod, matchingEvent_standsFor hState event⟩
  | _ => exact ⟨_, FSM.feed?_value rfl, rfl, by rw [answer_state, hState], rfl⟩

/-- Every step of the machine is what the library makes of the methods of its state, once the
result is stored in `feed_result`. -/
theorem step_standsFor (defs : SlacDefs) (setKeyTimeoutMs : ℤ) (s : SlacMachine)
    (input : SlacInput) (calls : List (MethodCall SlacStateName FsmEvent)) :
    (∀ event ∈ input.event.fed, StandsFor
      (FSM.feedEvent (stateMethods defs setKeyTimeoutMs input.now) event
        ⟨[s.state.name], s.note input.event, calls⟩) (s.step defs setKeyTimeoutMs input)) ∧
    (input.event = .callback → ∃ result,
      FSM.feed? (stateMethods defs setKeyTimeoutMs input.now)
        ⟨[s.state.name], s.note input.event, calls⟩ = some result ∧
      StandsFor result (s.step defs setKeyTimeoutMs input)) := by
  constructor
  · intro event hFed
    exact @feedEvent_standsFor defs setKeyTimeoutMs input.now (s.note input.event) event calls
      input.event hFed
  · intro hCallback
    rw [step, hCallback]
    exact @feed_standsFor defs setKeyTimeoutMs input.now (s.note .callback) calls

/-- The start of the state machine in the model stands for that of the source. -/
theorem start_standsFor (defs : SlacDefs) (setKeyTimeoutMs : ℤ) :
    StandsFor (FSM.reset (stateMethods defs setKeyTimeoutMs 0) .reset
      { world := { state := .reset, sessionNmk := 1, feedResult := .doNotCallMeAgain } })
      (start defs setKeyTimeoutMs) := ⟨rfl, rfl, rfl⟩

end SlacMachine

end EverestCore.Slac
