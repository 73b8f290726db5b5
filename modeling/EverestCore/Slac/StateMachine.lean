import EverestCore.Machine.Runs
import EverestCore.Slac.Callback

/-! The state machine of the SLAC module. Messages, the events of the EVSE manager and
the callbacks of the controller come in any order and at any time, one after the other,
since all of them hold the mutex of the controller. The history keeps what came in and
what went out, the last at its end. -/
namespace EverestCore.Slac
open Machine

/-- The state of the machine, with the data of the matching state. -/
inductive FsmState where
  | reset
  | idle
  | matching (matching : MatchingState)
  | matched
  | failed
  deriving DecidableEq, Repr

def FsmState.name : FsmState → SlacStateName
  | .reset => .reset
  | .idle => .idle
  | .matching _ => .matching
  | .matched => .matched
  | .failed => .failed

inductive SlacEvent where
  | slacMessage (source : MacAddress) (message : ReceivedMessage)
  | reset
  | enterBcd
  | leaveBcd
  | callback
  deriving DecidableEq, Repr

/-- An event, and the time at which it is handled. -/
structure SlacInput where
  now : ℤ
  event : SlacEvent
  deriving DecidableEq, Repr

inductive SlacEntry where
  | input (event : SlacEvent)
  | output (output : SlacOutput)
  deriving DecidableEq, Repr

/-- What the controller does next: `feed_result`. -/
inductive FeedResult where
  | eventUnhandled
  | eventHandledInternally
  | doNotCallMeAgain
  | callAgain (ms : ℤ)
  deriving DecidableEq, Repr

/-- The machine with the part of its context that changes: the network key is known by
the number of the call that generated it. -/
structure SlacMachine where
  state : FsmState
  sessionNmk : ℕ
  feedResult : FeedResult
  history : List SlacEntry := []
  deriving DecidableEq, Repr

/-- The address of the modem, `plc_peer_mac`. -/
def plcPeerMac : MacAddress := 0x00B052000001

namespace SlacMachine

variable (defs : SlacDefs) (setKeyTimeoutMs : ℤ) (now : ℤ) (s : SlacMachine)

def emit (outputs : List SlacOutput) : SlacMachine :=
  { s with history := s.history ++ outputs.map .output }

/-- `Context::generate_nmk`, where every call generates another key. -/
def generateNmk : SlacMachine := { s with sessionNmk := s.sessionNmk + 1 }

/-- `enter` of the states. -/
def enter : SlacStateName → SlacMachine
  | .reset =>
      { s with state := .reset, feedResult := .callAgain setKeyTimeoutMs }.emit
        [.entered .reset, .send plcPeerMac (.cmSetKeyReq s.sessionNmk)]
  | .idle =>
      { s with state := .idle, feedResult := .doNotCallMeAgain }.emit
        [.signalState "UNMATCHED", .entered .idle]
  | .matching =>
      { s with
        state := .matching (.enter defs now), feedResult := .callAgain defs.ttEvseSlacInitMs }.emit
        [.signalState "MATCHING", .entered .matching]
  | .matched =>
      { s with state := .matched, feedResult := .doNotCallMeAgain }.emit
        [.signalState "MATCHED", .signalDlinkReady true, .entered .matched]
  | .failed =>
      { s with state := .failed, feedResult := .doNotCallMeAgain }.emit
        [.signalErrorRoutineRequest, .entered .failed]

/-- `leave` of the states, which only the matched state has. -/
def leave : SlacMachine :=
  match s.state with
  | .matched => s.generateNmk.emit [.signalDlinkReady false]
  | _ => s

def goTo (name : SlacStateName) : SlacMachine := s.leave.enter defs setKeyTimeoutMs now name

/-- Nothing happens but that the controller is told what to do next. -/
def answer (feedResult : FeedResult) : SlacMachine := { s with feedResult := feedResult }

/-- The matching state handles an event of its own without leaving it. -/
def stay (matching : MatchingState) (outputs : List SlacOutput) (feedResult : FeedResult) :
    SlacMachine :=
  { s with state := .matching matching, feedResult := feedResult }.emit outputs

/-- `MatchingState::handle_event` for the events of its callback. -/
def handleMatchingEvent (matching : MatchingState) : MatchingEvent → SlacMachine
  | .matchComplete => s.goTo defs setKeyTimeoutMs now .matched
  | .failed => s.goTo defs setKeyTimeoutMs now .failed
  | .retryMatching =>
      let matching := { matching with numRetries := matching.numRetries + 1 }
      if matching.numRetries = defs.cEvMatchRetry then
        s.goTo defs setKeyTimeoutMs now .failed
      else
        s.stay { matching with timeoutSlacParmReq := now + milliseconds defs.ttEvseSlacInitMs } []
          .eventHandledInternally

/-- `feed`: the callback of the state. Three rounds for each session are enough. -/
def feed : SlacMachine :=
  match s.state with
  | .matching matching =>
      match matching.callback defs now 3 with
      | none => s
      | some (matching, outputs, .wait callBackMs) =>
          s.stay matching outputs
            (match callBackMs with
            | none => .doNotCallMeAgain
            | some ms => .callAgain ms)
      | some (matching, outputs, .event event) =>
          (s.emit outputs).handleMatchingEvent defs setKeyTimeoutMs now matching event
  | _ => s.answer .doNotCallMeAgain

/-- `feed_event`: `handle_event` of the states. -/
def feedEvent : SlacEvent → SlacMachine
  | .callback => s.feed defs setKeyTimeoutMs now
  | .slacMessage source message =>
      match s.state with
      | .reset =>
          if message = .cmSetKeyCnf then s.goTo defs setKeyTimeoutMs now .idle
          else s.answer .eventUnhandled
      | .matching matching =>
          let (matching, outputs) :=
            matching.handleSlacMessage defs now s.sessionNmk source message
          s.stay matching outputs .eventHandledInternally
      | .idle | .matched | .failed => s.answer .eventUnhandled
  | .reset => s.goTo defs setKeyTimeoutMs now .reset
  | .enterBcd =>
      match s.state with
      | .idle => s.goTo defs setKeyTimeoutMs now .matching
      | _ => s.answer .eventUnhandled
  | .leaveBcd => s.answer .eventUnhandled

def note (event : SlacEvent) : SlacMachine := { s with history := s.history ++ [.input event] }

def step (s : SlacMachine) (input : SlacInput) : SlacMachine :=
  (s.note input.event).feedEvent defs setKeyTimeoutMs input.now input.event

/-- The machine after its start, with its first key. -/
def start : SlacMachine :=
  SlacMachine.enter defs setKeyTimeoutMs 0
    { state := .reset, sessionNmk := 1, feedResult := .doNotCallMeAgain } .reset

@[simp] theorem note_state (event : SlacEvent) : (s.note event).state = s.state := rfl

@[simp] theorem note_sessionNmk (event : SlacEvent) :
    (s.note event).sessionNmk = s.sessionNmk := rfl

@[simp] theorem note_history (event : SlacEvent) :
    (s.note event).history = s.history ++ [.input event] := rfl

@[simp] theorem answer_state (feedResult : FeedResult) :
    (s.answer feedResult).state = s.state := rfl

@[simp] theorem answer_sessionNmk (feedResult : FeedResult) :
    (s.answer feedResult).sessionNmk = s.sessionNmk := rfl

@[simp] theorem answer_history (feedResult : FeedResult) :
    (s.answer feedResult).history = s.history := rfl

@[simp] theorem emit_state (outputs : List SlacOutput) : (s.emit outputs).state = s.state := rfl

@[simp] theorem emit_sessionNmk (outputs : List SlacOutput) :
    (s.emit outputs).sessionNmk = s.sessionNmk := rfl

@[simp] theorem emit_history (outputs : List SlacOutput) :
    (s.emit outputs).history = s.history ++ outputs.map .output := rfl

@[simp] theorem stay_state (matching : MatchingState) (outputs : List SlacOutput)
    (feedResult : FeedResult) :
    (s.stay matching outputs feedResult).state = .matching matching := rfl

@[simp] theorem stay_sessionNmk (matching : MatchingState) (outputs : List SlacOutput)
    (feedResult : FeedResult) :
    (s.stay matching outputs feedResult).sessionNmk = s.sessionNmk := rfl

@[simp] theorem stay_history (matching : MatchingState) (outputs : List SlacOutput)
    (feedResult : FeedResult) :
    (s.stay matching outputs feedResult).history = s.history ++ outputs.map .output := rfl

/-- The state in which the machine is after it was entered. -/
def entering : SlacStateName → FsmState
  | .reset => .reset
  | .idle => .idle
  | .matching => .matching (.enter defs now)
  | .matched => .matched
  | .failed => .failed

@[simp] theorem goTo_state (name : SlacStateName) :
    (s.goTo defs setKeyTimeoutMs now name).state = entering defs now name := by
  cases name <;> rfl

/-- Leaving the matched state brings a new key, leaving the others does not. -/
theorem goTo_sessionNmk (name : SlacStateName) :
    (s.goTo defs setKeyTimeoutMs now name).sessionNmk =
      if s.state = .matched then s.sessionNmk + 1 else s.sessionNmk := by
  unfold goTo leave
  cases s.state <;> cases name <;> rfl

/-- What is sent and signalled when a state is entered. -/
def enteringOutputs (sessionNmk : ℕ) : SlacStateName → List SlacOutput
  | .reset => [.entered .reset, .send plcPeerMac (.cmSetKeyReq sessionNmk)]
  | .idle => [.signalState "UNMATCHED", .entered .idle]
  | .matching => [.signalState "MATCHING", .entered .matching]
  | .matched => [.signalState "MATCHED", .signalDlinkReady true, .entered .matched]
  | .failed => [.signalErrorRoutineRequest, .entered .failed]

/-- What a change of state adds to the history: the end of the data link if the module was matched,
and what the new state reports as it is entered. -/
theorem goTo_history (name : SlacStateName) :
    (s.goTo defs setKeyTimeoutMs now name).history =
      s.history ++ (if s.state = .matched then [.output (.signalDlinkReady false)] else []) ++
        (enteringOutputs (s.goTo defs setKeyTimeoutMs now name).sessionNmk name).map .output := by
  rw [goTo_sessionNmk]
  unfold goTo leave
  cases s.state <;> cases name <;> simp [enter, enteringOutputs, emit, generateNmk]

/-- Everything that one input can do. -/
inductive Effect (s : SlacMachine) (input : SlacInput) : SlacMachine → Prop
  | unmoved (feedResult : FeedResult)
      (hMatching : ∀ matching, s.state = .matching matching →
        input.event = .enterBcd ∨ input.event = .leaveBcd) :
      Effect s input ((s.note input.event).answer feedResult)
  | resets (hEvent : input.event = .reset) :
      Effect s input ((s.note input.event).goTo defs setKeyTimeoutMs input.now .reset)
  | idles (hState : s.state = .reset) :
      Effect s input ((s.note input.event).goTo defs setKeyTimeoutMs input.now .idle)
  | startsMatching (hState : s.state = .idle) :
      Effect s input ((s.note input.event).goTo defs setKeyTimeoutMs input.now .matching)
  | handles (matching next : MatchingState) (source : MacAddress) (message : ReceivedMessage)
      (outputs : List SlacOutput) (hState : s.state = .matching matching)
      (hEvent : input.event = .slacMessage source message)
      (hHandled : matching.Handled defs input.now s.sessionNmk source message next outputs) :
      Effect s input ((s.note input.event).stay next outputs .eventHandledInternally)
  | waits (matching next : MatchingState) (outputs : List SlacOutput) (callBackMs : Option ℤ)
      (feedResult : FeedResult) (hState : s.state = .matching matching)
      (hEvent : input.event = .callback)
      (hCalled : matching.Called defs input.now (next, outputs, .wait callBackMs)) :
      Effect s input ((s.note input.event).stay next outputs feedResult)
  | retries (matching next : MatchingState) (hState : s.state = .matching matching)
      (hEvent : input.event = .callback) (hUnseen : matching.seenSlacParmReq = false)
      (hNext : next.sessions = matching.sessions ∧
        next.seenSlacParmReq = matching.seenSlacParmReq) :
      Effect s input ((s.note input.event).stay next [] .eventHandledInternally)
  | completes (matching left : MatchingState) (outputs : List SlacOutput)
      (hState : s.state = .matching matching) (hEvent : input.event = .callback)
      (hCalled : matching.Called defs input.now (left, outputs, .event .matchComplete)) :
      Effect s input
        (((s.note input.event).emit outputs).goTo defs setKeyTimeoutMs input.now .matched)
  | fails (matching left : MatchingState) (outputs : List SlacOutput) (event : MatchingEvent)
      (hIncomplete : event ≠ .matchComplete) (hState : s.state = .matching matching)
      (hEvent : input.event = .callback)
      (hCalled : matching.Called defs input.now (left, outputs, .event event)) :
      Effect s input
        (((s.note input.event).emit outputs).goTo defs setKeyTimeoutMs input.now .failed)

/-- The callback of the timer does to the machine what `Effect` allows. -/
theorem feed_effect (input : SlacInput) (hEvent : input.event = .callback) :
    Effect defs setKeyTimeoutMs s input
      ((s.note input.event).feed defs setKeyTimeoutMs input.now) := by
  unfold feed
  cases hState : (s.note input.event).state with
  | matching matching =>
      obtain ⟨⟨next, outputs, result⟩, hCallback, hCalled⟩ :=
        MatchingState.called_callback defs input.now 0 matching
      simp only [hCallback]
      cases result with
      | wait callBackMs => exact .waits matching next outputs callBackMs _ hState hEvent hCalled
      | event event =>
          cases event with
          | matchComplete => exact .completes matching next outputs hState hEvent hCalled
          | failed =>
              exact .fails matching next outputs .failed (by decide) hState hEvent hCalled
          | retryMatching =>
              dsimp only [handleMatchingEvent]
              split
              · exact .fails matching next outputs .retryMatching (by decide) hState hEvent hCalled
              · cases hCalled with
                | retries hUnseen hOver =>
                    rw [emit, List.map_nil, List.append_nil]
                    exact .retries matching _ hState hEvent hUnseen ⟨rfl, rfl⟩
  | reset | idle | matched | failed =>
      exact .unmoved .doNotCallMeAgain fun _ hMatching => by simp_all

/-- Every input of the module does to the machine what `Effect` allows. -/
theorem step_effect (input : SlacInput) :
    Effect defs setKeyTimeoutMs s input (s.step defs setKeyTimeoutMs input) := by
  obtain ⟨now, event⟩ := input
  cases event with
  | callback => exact feed_effect defs setKeyTimeoutMs s _ rfl
  | slacMessage source message =>
      dsimp only [step, feedEvent]
      cases hState : (s.note (.slacMessage source message)).state with
      | reset =>
          dsimp only
          split
          · exact .idles hState
          · exact .unmoved .eventUnhandled fun _ hMatching => by simp_all
      | matching matching =>
          exact .handles matching _ source message _ hState rfl
            (MatchingState.handled_handleSlacMessage message)
      | idle | matched | failed =>
          exact .unmoved .eventUnhandled fun _ hMatching => by simp_all
  | reset => exact .resets rfl
  | enterBcd =>
      dsimp only [step, feedEvent]
      cases hState : (s.note .enterBcd).state with
      | idle => exact .startsMatching hState
      | reset | matching | matched | failed => exact .unmoved .eventUnhandled fun _ _ => .inl rfl
  | leaveBcd => exact .unmoved .eventUnhandled fun _ _ => .inr rfl

end SlacMachine

end EverestCore.Slac
