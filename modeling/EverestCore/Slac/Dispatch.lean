import EverestCore.Machine.PartialRuns

/-! The library `libfsm` below the SLAC module: a stack of states of any kind, each of which
may handle an event or pass it on to the one below. The head of the stack is the back of the
vector, and a reverse iterator is the part of the stack that it has not passed yet. -/
namespace EverestCore.Fsm
open Machine

/-- `EVENT_UNHANDLED`. -/
def eventUnhandled : ℤ := -2

/-- `EVENT_HANDLED_INTERNALLY`. -/
def eventHandledInternally : ℤ := -3

inductive NextStateOption where
  | restart
  | passOn
  | handledInternally
  deriving DecidableEq, Repr

/-- `NextState`, by its constructors. The pointers to states may be null. -/
inductive NextState (State : Type) where
  | states (compound child : Option State)
  | option (option : NextStateOption)
  deriving DecidableEq, Repr

namespace NextState

variable {State : Type}

/-- The member `pass_on`, which only one of the options sets. -/
def passOn : NextState State → Bool
  | .option .passOn => true
  | _ => false

/-- The member `option`, which is `PASS_ON` beside states. -/
def optionOf : NextState State → NextStateOption
  | .states _ _ => .passOn
  | .option choice => choice

def compound : NextState State → Option State
  | .states compound _ => compound
  | .option _ => none

def child : NextState State → Option State
  | .states _ child => child
  | .option _ => none

/-- If the answer is a transition, it carries a child. -/
def carriesChild (next : NextState State) : Bool :=
  next.passOn || next.optionOf = .handledInternally || next.child.isSome

end NextState

/-- `CallbackResult`. -/
inductive CallbackResult (Event : Type) where
  | value (value : ℤ)
  | event (event : Event)
  deriving DecidableEq, Repr

/-- The virtual methods of the states. All that they change, their own data included, is in
the world. -/
structure StateMethods (State Event World : Type) where
  enter : State → World → ℤ × World
  handleEvent : State → Event → World → NextState State × World
  callback : State → World → CallbackResult Event × World
  leave : State → World → World

inductive MethodCall (State Event : Type) where
  | enter (state : State)
  | handleEvent (state : State) (event : Event)
  | callback (state : State)
  | leave (state : State)
  deriving DecidableEq, Repr

/-- `FSM`, with the methods that it has called so far. -/
structure FSM (State Event World : Type) where
  stack : List State := []
  world : World
  calls : List (MethodCall State Event) := []
  deriving DecidableEq, Repr

namespace FSM

variable {State Event World : Type} (m : StateMethods State Event World)

def enter (state : State) (fsm : FSM State Event World) : ℤ × FSM State Event World :=
  let (value, world) := m.enter state fsm.world
  (value, { fsm with world := world, calls := fsm.calls ++ [.enter state] })

def handleEvent (state : State) (event : Event) (fsm : FSM State Event World) :
    NextState State × FSM State Event World :=
  let (next, world) := m.handleEvent state event fsm.world
  (next, { fsm with world := world, calls := fsm.calls ++ [.handleEvent state event] })

def callback (state : State) (fsm : FSM State Event World) :
    CallbackResult Event × FSM State Event World :=
  let (result, world) := m.callback state fsm.world
  (result, { fsm with world := world, calls := fsm.calls ++ [.callback state] })

def leave (state : State) (fsm : FSM State Event World) : FSM State Event World :=
  { fsm with world := m.leave state fsm.world, calls := fsm.calls ++ [.leave state] }

/-- `emplace_back`. -/
def emplaceBack (state : State) (fsm : FSM State Event World) : FSM State Event World :=
  { fsm with stack := state :: fsm.stack }

/-- `pop_back`. -/
def popBack (fsm : FSM State Event World) : FSM State Event World :=
  { fsm with stack := fsm.stack.tail }

/-- The loop that asks the states, with the iterator at which it stops. -/
def ask (event : Event) :
    List State → NextState State → FSM State Event World →
      List State × NextState State × FSM State Event World
  | [], next, fsm => ([], next, fsm)
  | state :: rest, next, fsm =>
      if next.passOn then
        let (next, fsm) := fsm.handleEvent m state event
        ask event rest next fsm
      else (state :: rest, next, fsm)

/-- The loop that leaves the states, up to the other iterator. Two iterators are the same if
the same number of states is left. -/
def leaveUntil (currentState : List State) :
    List State → FSM State Event World → FSM State Event World
  | [], fsm => fsm
  | state :: rest, fsm =>
      if (state :: rest).length ≠ currentState.length then
        leaveUntil currentState rest (fsm.leave m state).popBack
      else fsm

/-- `FSM::dispatch_event`. -/
def dispatchEvent (event : Event) (fsm : FSM State Event World) : ℤ × FSM State Event World :=
  let (currentState, next, fsm) := fsm.ask m event fsm.stack (.option .passOn)
  if next.passOn then (eventUnhandled, fsm)
  else if next.optionOf = .handledInternally then (eventHandledInternally, fsm)
  else
    let fsm := fsm.leaveUntil m currentState fsm.stack
    let fsm := match next.compound with
      | some compound => ((fsm.emplaceBack compound).enter m compound).2
      | none => fsm
    match next.child with
    | some child => (fsm.emplaceBack child).enter m child
    | none => (0, fsm)

/-- `FSM::reset`, with the state that it makes. -/
def reset (state : State) (fsm : FSM State Event World) : ℤ × FSM State Event World :=
  { fsm with stack := [state] }.enter m state

/-- `FSM::feed_event`. -/
def feedEvent (event : Event) (fsm : FSM State Event World) : ℤ × FSM State Event World :=
  fsm.dispatchEvent m event

/-- `FSM::feed`. Without a state its behaviour is undefined. -/
def feed? (fsm : FSM State Event World) : Option (ℤ × FSM State Event World) :=
  match fsm.stack with
  | [] => none
  | top :: _ =>
      let (result, fsm) := fsm.callback m top
      some (match result with
        | .event event => fsm.dispatchEvent m event
        | .value value => (value, fsm))

/-- The states pass the event on, asked one after the other. -/
inductive PassOn (event : Event) : List State → World → World → Prop
  | nil (world : World) : PassOn event [] world world
  | cons {state : State} {rest : List State} {world asked final : World}
      (hPass : m.handleEvent state event world = (.option .passOn, asked))
      (hRest : PassOn event rest asked final) : PassOn event (state :: rest) world final

/-- Leave the states, the first of them first. -/
def leaveAll (states : List State) (world : World) : World :=
  states.foldl (fun world state => m.leave state world) world

/-- Enter a state, if there is one. -/
def enterAny (state : Option State) (world : World) : World :=
  match state with
  | some state => (m.enter state world).2
  | none => world

/-- Everything that the dispatch of an event can be. The stack is split at the state that
handles it: those above have passed it on, and those below are not touched. -/
inductive Dispatched (event : Event) (fsm : FSM State Event World) :
    ℤ × FSM State Event World → Prop
  | unhandled (world : World) (hPass : PassOn m event fsm.stack fsm.world world) :
      Dispatched event fsm (eventUnhandled,
        { fsm with
          world := world
          calls := fsm.calls ++ fsm.stack.map (.handleEvent · event) })
  | internally (above below : List State) (handler : State) (asked world : World)
      (hStack : fsm.stack = above ++ handler :: below)
      (hPass : PassOn m event above fsm.world asked)
      (hHandler : m.handleEvent handler event asked = (.option .handledInternally, world)) :
      Dispatched event fsm (eventHandledInternally,
        { fsm with
          world := world
          calls := fsm.calls ++ (above ++ [handler]).map (.handleEvent · event) })
  | moves (above below : List State) (handler child : State) (compound : Option State)
      (asked world left : World)
      (hStack : fsm.stack = above ++ handler :: below)
      (hPass : PassOn m event above fsm.world asked)
      (hHandler : m.handleEvent handler event asked = (.states compound (some child), world))
      (hLeft : left = enterAny m compound (leaveAll m (above ++ [handler]) world)) :
      Dispatched event fsm ((m.enter child left).1,
        { stack := child :: (compound.toList ++ below)
          world := (m.enter child left).2
          calls := fsm.calls ++ (above ++ [handler]).map (.handleEvent · event) ++
            (above ++ [handler]).map .leave ++ compound.toList.map .enter ++ [.enter child] })
  | drops (above below : List State) (handler : State) (next : NextState State)
      (asked world : World)
      (hStack : fsm.stack = above ++ handler :: below)
      (hPass : PassOn m event above fsm.world asked)
      (hHandler : m.handleEvent handler event asked = (next, world))
      (hNext : next = .option .restart ∨ ∃ compound, next = .states compound none) :
      Dispatched event fsm (0,
        { stack := next.compound.toList ++ below
          world := enterAny m next.compound (leaveAll m (above ++ [handler]) world)
          calls := fsm.calls ++ (above ++ [handler]).map (.handleEvent · event) ++
            (above ++ [handler]).map .leave ++ next.compound.toList.map .enter })

variable {m} {event : Event}

/-- An answer that does not pass the event on ends the loop. -/
theorem ask_of_stop {next : NextState State} (hStop : next.passOn = false) (states : List State)
    (fsm : FSM State Event World) : fsm.ask m event states next = (states, next, fsm) := by
  cases states <;> simp [ask, hStop]

/-- The loop asks from the top until a state does not pass the event on. -/
theorem ask_cases (states : List State) (fsm : FSM State Event World) :
    (∃ world, PassOn m event states fsm.world world ∧
      fsm.ask m event states (.option .passOn) = ([], .option .passOn,
        { fsm with world := world, calls := fsm.calls ++ states.map (.handleEvent · event) })) ∨
    ∃ above below handler next asked world, states = above ++ handler :: below ∧
      PassOn m event above fsm.world asked ∧
      m.handleEvent handler event asked = (next, world) ∧ next.passOn = false ∧
      fsm.ask m event states (.option .passOn) = (below, next,
        { fsm with
          world := world
          calls := fsm.calls ++ (above ++ [handler]).map (.handleEvent · event) }) := by
  induction states generalizing fsm with
  | nil => exact .inl ⟨fsm.world, .nil _, by simp [ask]⟩
  | cons state rest ih =>
      obtain ⟨next, world, hHandler⟩ : ∃ next world,
          m.handleEvent state event fsm.world = (next, world) := ⟨_, _, rfl⟩
      have hAsk : fsm.ask m event (state :: rest) (.option .passOn) =
          ask m event rest next
            { fsm with world := world, calls := fsm.calls ++ [.handleEvent state event] } := by
        rw [ask, handleEvent, hHandler]
        rfl
      rw [hAsk]
      cases hPass : next.passOn with
      | false =>
          refine .inr ⟨[], rest, state, next, fsm.world, world, rfl, .nil _, hHandler, hPass, ?_⟩
          exact ask_of_stop hPass rest _
      | true =>
          have hNext : next = .option .passOn := by
            unfold NextState.passOn at hPass
            split at hPass
            · rfl
            · cases hPass
          subst hNext
          rcases ih { fsm with
              world := world, calls := fsm.calls ++ [.handleEvent state event] } with
            ⟨final, hRest, hAll⟩ |
            ⟨above, below, handler, next, asked, final, rfl, hRest, hLast, hStop, hAll⟩
          · exact .inl ⟨final, .cons hHandler hRest, by simpa using hAll⟩
          · exact .inr ⟨state :: above, below, handler, next, asked, final, rfl,
              .cons hHandler hRest, hLast, hStop, by simpa using hAll⟩

/-- The loop leaves what is above the other iterator, and pops it. -/
theorem leaveUntil_append (left below : List State) (fsm : FSM State Event World)
    (hStack : fsm.stack = left ++ below) :
    fsm.leaveUntil m below (left ++ below) =
      { stack := below
        world := leaveAll m left fsm.world
        calls := fsm.calls ++ left.map .leave } := by
  induction left generalizing fsm with
  | nil =>
      obtain ⟨stack, world, calls⟩ := fsm
      cases hStack
      cases below <;> simp [leaveUntil, leaveAll]
  | cons state rest ih =>
      have hLonger : (state :: (rest ++ below)).length ≠ below.length := by
        rw [List.length_cons, List.length_append]
        omega
      rw [List.cons_append, leaveUntil, if_pos hLonger, ih _ (by simp [popBack, leave, hStack])]
      simp [popBack, leave, leaveAll]

variable (m)

/-- Whatever the states are, an event is dispatched as described. -/
theorem dispatched_dispatchEvent (event : Event) (fsm : FSM State Event World) :
    Dispatched m event fsm (fsm.dispatchEvent m event) := by
  rw [dispatchEvent]
  rcases @ask_cases _ _ _ m event fsm.stack fsm with ⟨world, hPass, hAsk⟩ |
    ⟨above, below, handler, next, asked, world, hStack, hPass, hHandler, hStop, hAsk⟩
  · rw [hAsk]
    exact .unhandled world hPass
  · have hLeave : leaveUntil m below fsm.stack
        { fsm with
          world := world
          calls := fsm.calls ++ (above ++ [handler]).map (.handleEvent · event) } =
        { stack := below
          world := leaveAll m (above ++ [handler]) world
          calls := fsm.calls ++ (above ++ [handler]).map (.handleEvent · event) ++
            (above ++ [handler]).map .leave } := by
      have hSplit : fsm.stack = (above ++ [handler]) ++ below := by simp [hStack]
      have hLoop := @leaveUntil_append _ _ _ m (above ++ [handler]) below
        { fsm with
          world := world
          calls := fsm.calls ++ (above ++ [handler]).map (.handleEvent · event) } hSplit
      rwa [← hSplit] at hLoop
    rw [hAsk]
    dsimp only
    rw [hStop, hLeave]
    cases next with
    | option choice =>
        cases choice with
        | passOn => cases hStop
        | handledInternally =>
            exact .internally above below handler asked world hStack hPass hHandler
        | restart =>
            have hDrops := Dispatched.drops above below handler _ asked world hStack hPass hHandler
              (.inl rfl)
            simpa [NextState.compound, NextState.optionOf, NextState.child, enterAny] using hDrops
    | states compound child =>
        cases child with
        | none =>
            have hDrops := Dispatched.drops above below handler _ asked world hStack hPass hHandler
              (.inr ⟨compound, rfl⟩)
            cases compound <;>
              simpa [NextState.compound, NextState.optionOf, NextState.child, enterAny, enter,
                emplaceBack] using hDrops
        | some child =>
            have hMoves := Dispatched.moves above below handler child compound asked world _ hStack
              hPass hHandler rfl
            cases compound <;>
              simpa [NextState.compound, NextState.optionOf, NextState.child, enterAny, enter,
                emplaceBack] using hMoves

/-- The answer with which the asking ends. -/
def answer (event : Event) (fsm : FSM State Event World) : NextState State :=
  (fsm.ask m event fsm.stack (.option .passOn)).2.1

theorem answer_of_split {event : Event} {fsm : FSM State Event World}
    {above below : List State} {handler : State} {next : NextState State} {asked world : World}
    (hStack : fsm.stack = above ++ handler :: below)
    (hPass : PassOn m event above fsm.world asked)
    (hHandler : m.handleEvent handler event asked = (next, world)) (hStop : next.passOn = false) :
    fsm.answer m event = next := by
  rw [answer, hStack]
  clear hStack
  generalize hWorld : fsm.world = start at hPass
  induction hPass generalizing fsm with
  | nil start =>
      rw [List.nil_append, ask, handleEvent, hWorld, hHandler]
      exact congrArg (·.2.1) (@ask_of_stop _ _ _ m event next hStop below _)
  | cons hFirst hRest ih =>
      rw [List.cons_append, ask, handleEvent, hWorld, hFirst]
      exact ih hHandler rfl

variable {m} {event : Event} {fsm : FSM State Event World}

/-- A transition that carries a child leaves the child on the stack. -/
theorem Dispatched.stack_ne_nil {result : ℤ × FSM State Event World}
    (h : Dispatched m event fsm result) (hStack : fsm.stack ≠ [])
    (hChild : (fsm.answer m event).carriesChild = true) : result.2.stack ≠ [] := by
  cases h with
  | unhandled => exact hStack
  | internally => exact hStack
  | moves => exact List.cons_ne_nil _ _
  | drops above below handler next asked world hSplit hPass hHandler hNext =>
      have hStop : next.passOn = false := by
        rcases hNext with rfl | ⟨compound, rfl⟩ <;> rfl
      rw [answer_of_split m hSplit hPass hHandler hStop] at hChild
      rcases hNext with rfl | ⟨compound, rfl⟩ <;> cases hChild

end FSM

namespace FSM

section SingleState

variable {State Event World : Type} {m : StateMethods State Event World} {event : Event}
  {state child : State} {world next : World} {calls : List (MethodCall State Event)}

/-- A stack of one state, which passes the event on. -/
theorem dispatchEvent_single_passOn
    (hHandler : m.handleEvent state event world = (.option .passOn, next)) :
    dispatchEvent m event ⟨[state], world, calls⟩ =
      (eventUnhandled, ⟨[state], next, calls ++ [.handleEvent state event]⟩) := by
  simp [dispatchEvent, ask, handleEvent, hHandler, NextState.passOn]

/-- A stack of one state, which handles the event internally. -/
theorem dispatchEvent_single_internally
    (hHandler : m.handleEvent state event world = (.option .handledInternally, next)) :
    dispatchEvent m event ⟨[state], world, calls⟩ =
      (eventHandledInternally, ⟨[state], next, calls ++ [.handleEvent state event]⟩) := by
  simp [dispatchEvent, ask, handleEvent, hHandler, NextState.passOn, NextState.optionOf]

/-- A stack of one state, which is replaced by another one. -/
theorem dispatchEvent_single_child
    (hHandler : m.handleEvent state event world = (.states none (some child), next)) :
    dispatchEvent m event ⟨[state], world, calls⟩ =
      ((m.enter child (m.leave state next)).1,
        ⟨[child], (m.enter child (m.leave state next)).2,
          calls ++ [.handleEvent state event, .leave state, .enter child]⟩) := by
  simp [dispatchEvent, ask, handleEvent, hHandler, NextState.passOn, NextState.optionOf,
    NextState.compound, NextState.child, leaveUntil, leave, popBack, emplaceBack, enter]

/-- The callback of the state at the top returns an integer. -/
theorem feed?_value {below : List State} {value : ℤ}
    (hCallback : m.callback state world = (.value value, next)) :
    feed? m ⟨state :: below, world, calls⟩ =
      some (value, ⟨state :: below, next, calls ++ [.callback state]⟩) := by
  simp only [feed?, callback, hCallback]

/-- The callback of the state at the top has an event, which is dispatched. -/
theorem feed?_event {below : List State}
    (hCallback : m.callback state world = (.event event, next)) :
    feed? m ⟨state :: below, world, calls⟩ =
      some (dispatchEvent m event ⟨state :: below, next, calls ++ [.callback state]⟩) := by
  simp only [feed?, callback, hCallback]

end SingleState

end FSM

/-- What can be done with a machine, and what can happen around it in between. -/
inductive FsmInput (State Event World : Type) where
  | reset (state : State)
  | feedEvent (event : Event)
  | feed
  | worldChanges (world : World)
  deriving DecidableEq, Repr

namespace FSM

variable {State Event World : Type} (m : StateMethods State Event World)

def step? (fsm : FSM State Event World) :
    FsmInput State Event World → Option (FSM State Event World)
  | .reset state => some (fsm.reset m state).2
  | .feedEvent event => some (fsm.feedEvent m event).2
  | .feed => (fsm.feed? m).map Prod.snd
  | .worldChanges world => some { fsm with world := world }

/-- If the step makes a transition, that carries a child. -/
def carriesChild (fsm : FSM State Event World) : FsmInput State Event World → Bool
  | .reset _ | .worldChanges _ => true
  | .feedEvent event => (fsm.answer m event).carriesChild
  | .feed =>
      match fsm.stack with
      | [] => true
      | top :: _ =>
          match fsm.callback m top with
          | (.event event, fsm) => (fsm.answer m event).carriesChild
          | (.value _, _) => true

theorem step?_stack_ne_nil {fsm : FSM State Event World} {input : FsmInput State Event World}
    (hStack : fsm.stack ≠ []) (hChild : fsm.carriesChild m input = true) :
    ∃ next ∈ fsm.step? m input, next.stack ≠ [] := by
  cases input with
  | reset state => exact ⟨_, rfl, List.cons_ne_nil _ _⟩
  | worldChanges world => exact ⟨_, rfl, hStack⟩
  | feedEvent event =>
      exact ⟨_, rfl, (dispatched_dispatchEvent m event fsm).stack_ne_nil hStack hChild⟩
  | feed =>
      cases hCase : fsm.stack with
      | nil => exact absurd hCase hStack
      | cons top rest =>
          obtain ⟨result, called, hCallback⟩ : ∃ result called,
              fsm.callback m top = (result, called) := ⟨_, _, rfl⟩
          have hCalled : called.stack = fsm.stack :=
            congrArg (fun result => result.2.stack) hCallback.symm
          simp only [carriesChild, hCase, hCallback] at hChild
          simp only [step?, feed?, hCase, hCallback]
          refine ⟨_, rfl, ?_⟩
          cases result with
          | value => exact hCalled ▸ hStack
          | event event =>
              exact (dispatched_dispatchEvent m event called).stack_ne_nil (hCalled ▸ hStack) hChild

/-- An event is dispatched as described, whatever the states are. So the stack is never empty
after a reset, as long as all transitions carry a child, and `feed` always has its top. -/
theorem dispatchEvent_described (m : StateMethods State Event World) :
    (∀ event fsm, Dispatched m event fsm (fsm.dispatchEvent m event)) ∧
    ∀ (created : FSM State Event World) (initial : State)
      (inputs : List (FsmInput State Event World)),
      EveryStep? (step? m) (fun fsm input => fsm.carriesChild m input = true)
        (created.reset m initial).2 inputs →
      ∃ final, run? (step? m) (created.reset m initial).2 inputs = some final ∧
        final.stack ≠ [] := by
  refine ⟨dispatched_dispatchEvent m, fun created initial inputs hChild => ?_⟩
  apply run?_defined_of_everyStep? (fun fsm : FSM State Event World => fsm.stack ≠ [])
    (List.cons_ne_nil _ _) _ hChild
  exact fun fsm input hStack hCarries => step?_stack_ne_nil m hStack hCarries

/-- A state that opens a compound with a child, and closes it again from the compound. -/
theorem dispatchEvent_described_nested :
    let m : StateMethods ℕ Bool ℕ :=
      { enter := fun state world => (state, world + 1)
        handleEvent := fun state event world =>
          (if state = 0 then .states (some 1) (some 2)
            else if state = 1 && event then .states none (some 0)
            else .option .passOn, world)
        callback := fun _ world => (.event true, world)
        leave := fun _ world => world + 10 }
    ∃ final, run? (step? m) (reset m 0 { world := 0 }).2
        [.feedEvent false, .feedEvent false, .worldChanges 100, .feed] = some final ∧
      final.stack ≠ [] :=
  (dispatchEvent_described _).2 _ _ _ (by decide)

end FSM

end EverestCore.Fsm
