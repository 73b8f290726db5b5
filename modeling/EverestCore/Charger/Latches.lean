import EverestCore.Charger.Outputs
import EverestCore.Charger.RunSafety

/-! Two states that are meant to be kept until something undoes them: an error
until it is cleared, and a disabled charger until it is enabled. Both are left
by calls that assign the state without looking at it; the conditions below name
these calls. -/
namespace EverestCore
open Machine

/-- Outputs that give power to the car or report that charging goes on. -/
def Output.energizes : Output → Bool
  | .callAllowPowerOn allow => allow
  | .signalEvent event => event = .chargingStarted ∨ event = .chargingResumed
  | _ => false

/-- What one output does to the latch of errors. -/
def latchError (latched : Bool) : Output → Bool
  | .signalEvent .error => true
  | .signalEvent .allErrorsCleared => false
  | _ => latched

/-- An error has been signalled and has not been cleared since. -/
def errorLatched (outputs : List Output) : Bool := outputs.foldl latchError false

/-- Nothing is energized while an error is latched. -/
def startsUnlatched (before : List Output) (output : Output) : Prop :=
  output.energizes = true → errorLatched before = false

instance (before : List Output) (output : Output) : Decidable (startsUnlatched before output) :=
  inferInstanceAs (Decidable (_ → _))

/-- The latch is a fold over what was sent. -/
theorem errorLatched_append (first second : List Output) :
    errorLatched (first ++ second) = second.foldl latchError (errorLatched first) :=
  List.foldl_append

/-- Without an `Error` event nothing is latched that was not latched before. -/
theorem foldl_latchError_false {outputs : List Output} (hError : .signalEvent .error ∉ outputs) :
    outputs.foldl latchError false = false := by
  induction outputs with
  | nil => rfl
  | cons output rest ih =>
      simp only [List.mem_cons, not_or] at hError
      have hHead : latchError false output = false := by
        rw [latchError.eq_def]
        split
        · exact absurd rfl hError.1
        · rfl
        · rfl
      rw [List.foldl_cons, hHead, ih hError.2]

namespace Charger

/-- The calls that stay in `Error`, or leave it with `AllErrorsCleared`. -/
def keepsError (c : Charger) : Action → Bool
  | .processEvent event _ => event ≠ .evseReplugStarted ∧ event ≠ .evseReplugFinished
  | .cancelTransaction _ => !c.transactionActive
  | .disable | .setFaulted => false
  | _ => true

/-- `Error` sends its two outputs when it is entered, and nothing afterwards. -/
theorem stateOutputs_error (now : ℤ) (newInState : Bool) {c : Charger}
    (hState : c.currentState = .error) :
    c.stateOutputs now newInState =
      if newInState then [.signalEvent .error, .callPwmOff] else [] := by
  simp [stateOutputs, ownEntryOutputs, hState]

/-- A turn in `Error` does not energize anything. -/
theorem tickOutputs_error (now : ℤ) {c : Charger} (hState : c.currentState = .error)
    {output : Output} (hMem : output ∈ c.tickOutputs now) : output.energizes = false := by
  rw [tickOutputs, List.mem_append] at hMem
  rcases hMem with hExpiry | hTurn
  · rw [mem_expiryOutputs hExpiry]
    rfl
  · rw [stateOutputs_error now _ (c := c.turnStart now) hState] at hTurn
    split_ifs at hTurn <;> simp at hTurn
    all_goals rcases hTurn with rfl | rfl | rfl | rfl <;> rfl

/-- In `Error` nothing is energized. -/
theorem callOutputs_error {c : Charger} (hState : c.currentState = .error) (call : Call)
    {output : Output} (hMem : output ∈ c.callOutputs call) : output.energizes = false := by
  rw [callOutputs] at hMem
  cases hAction : call.action <;> rw [hAction] at hMem <;> dsimp only at hMem
  case tick => exact tickOutputs_error call.now hState hMem
  case processEvent event ppAmpacity =>
    rw [eventOutputs, hState] at hMem
    split_ifs at hMem <;> simp_all [Output.energizes]
  case notifyCurrentDemandStarted =>
    rw [hState] at hMem
    simp at hMem
  case resumeChargingPowerAvailable =>
    rw [hState] at hMem
    simp at hMem
  case cancelTransaction request =>
    rw [stopTransactionOutputs] at hMem
    split_ifs at hMem <;> simp at hMem
    rcases hMem with rfl | rfl <;> rfl
  case startMainThread =>
    simp only [List.mem_cons, List.not_mem_nil, or_false] at hMem
    rcases hMem with rfl | rfl | rfl | rfl <;> rfl
  all_goals
    try split_ifs at hMem
    all_goals simp_all [Output.energizes]

/-- The `Error` event is sent by a turn that finds the charger in `Error`. -/
theorem error_not_mem_callOutputs {c : Charger} (hState : c.currentState ≠ .error) (call : Call) :
    .signalEvent .error ∉ c.callOutputs call := by
  intro hMem
  have hEvent := mem_callEvents hMem
  cases hAction : call.action <;> rw [hAction] at hEvent <;> dsimp only [callEvents] at hEvent
  case tick => cases hTurn : c.currentState <;> simp_all [EvseState.turnEvents]
  all_goals simp at hEvent

end Charger

namespace World

/-- While an error is latched, a call does not leave `Error` without clearing it. -/
def KeepsErrors (w : World) (c : Call) : Prop :=
  errorLatched w.outputs = true → w.charger.keepsError c.action = true

instance (w : World) (c : Call) : Decidable (KeepsErrors w c) :=
  inferInstanceAs (Decidable (_ → _))

/-- The latch of errors: it has never been ignored so far, and while it is set the
charger is in `Error`. -/
structure LatchInv (w : World) : Prop where
  respected : EachAfter startsUnlatched w.outputs
  inError : errorLatched w.outputs = true → w.charger.currentState = .error

/-- A call that keeps the error stays in it, or says that all errors are cleared. -/
theorem callState_error {c : Charger} (hState : c.currentState = .error) {call : Call}
    (hKeeps : c.keepsError call.action = true) :
    c.callState call = .error ∨ c.callOutputs call = [.signalEvent .allErrorsCleared] := by
  rw [Charger.callState, Charger.callOutputs]
  cases hAction : call.action <;> rw [hAction] at hKeeps <;> dsimp only <;>
    try simp_all [Charger.keepsError]
  case processEvent event ppAmpacity =>
    cases event <;> simp_all [Charger.eventState, Charger.eventOutputs]

/-- Only a turn sends the `Error` event. -/
theorem tick_of_error_mem {c : Charger} {call : Call}
    (hMem : .signalEvent .error ∈ c.callOutputs call) : call.action = .tick := by
  have hEvent := Charger.mem_callEvents hMem
  cases hAction : call.action <;> rw [hAction] at hEvent <;> simp [Charger.callEvents] at hEvent

/-- A call in `Error` that does not leave it silently keeps the latch honest. -/
theorem inError_call_of_error {w : World} {c : Call} (hState : w.charger.currentState = .error)
    (hKeeps : KeepsErrors w c) (hLatched : errorLatched (w.call c).outputs = true) :
    (w.call c).charger.currentState = .error := by
  have hNext : (w.call c).charger.currentState = w.charger.callState c :=
    call_currentState w c fun _ => by rw [hState]; rfl
  rw [call_outputs, errorLatched_append] at hLatched
  cases hBefore : errorLatched w.outputs with
  | true =>
      rcases callState_error hState (hKeeps hBefore) with hStays | hCleared
      · rw [hNext, hStays]
      · rw [hCleared] at hLatched
        exact absurd hLatched (by simp [latchError])
  | false =>
      by_cases hMem : .signalEvent .error ∈ w.charger.callOutputs c
      · rw [hNext, Charger.callState, tick_of_error_mem hMem]
        exact hState
      · rw [hBefore, foldl_latchError_false hMem] at hLatched
        exact absurd hLatched (by simp)

/-- The step lemma: as long as the calls keep errors, the state and the latch agree. -/
theorem latchInv_call {w : World} (h : LatchInv w) {c : Call} (hKeeps : KeepsErrors w c) :
    LatchInv (w.call c) := by
  by_cases hState : w.charger.currentState = .error
  · refine ⟨?_, inError_call_of_error hState hKeeps⟩
    rw [call_outputs, eachAfter_append]
    refine ⟨h.respected, ?_⟩
    intro before output hBefore hEnergizes
    have hMem : output ∈ w.charger.callOutputs c := hBefore.subset (by simp)
    rw [Charger.callOutputs_error hState c hMem] at hEnergizes
    exact absurd hEnergizes (by simp)
  · -- Outside of `Error` nothing is latched, and the call does not latch anything.
    have hUnlatched : errorLatched w.outputs = false := by
      cases hLatched : errorLatched w.outputs
      · rfl
      · exact absurd (h.inError hLatched) hState
    have hMem := Charger.error_not_mem_callOutputs hState c
    constructor
    · rw [call_outputs, eachAfter_append]
      refine ⟨h.respected, ?_⟩
      intro before output hBefore _
      rw [errorLatched_append, hUnlatched]
      exact foldl_latchError_false fun hError => hMem (hBefore.subset (by simp [hError]))
    · intro hLatched
      rw [call_outputs, errorLatched_append, hUnlatched, foldl_latchError_false hMem] at hLatched
      exact absurd hLatched (by simp)

end World

/-- Errors latch in every run in which no call leaves `Error` silently. -/
theorem errors_latch (memory : Charger) (ppAmpacity : ℚ) (calls : List Call)
    (hKeeps : EveryStep World.call World.KeepsErrors (World.create memory ppAmpacity) calls) :
    EachAfter startsUnlatched (World.run memory ppAmpacity calls).outputs := by
  have hStart : World.LatchInv (World.create memory ppAmpacity) := by
    constructor
    · rw [World.create_outputs]
      exact eachAfter_snoc.mpr ⟨eachAfter_nil _, by simp [startsUnlatched, Output.energizes]⟩
    · intro hLatched
      rw [World.create_outputs] at hLatched
      exact absurd hLatched (by decide)
  exact (run_invariant_of_everyStep World.LatchInv hStart
    (fun _ _ h hKeeps => World.latchInv_call h hKeeps) calls hKeeps).respected

/-- An AC charger without high level communication. -/
def acSetup : World.Setup := { hlcSetup with acHlcEnabled := false, acHlcUse5percent := false }

/-- A session that is charging, up to the turn that enters `PrepareCharging`. -/
def acSession : List Call :=
  [⟨0, .setup acSetup⟩, ⟨1, .setMaxCurrentUntil 16 100000⟩, ⟨2, .enable⟩, ⟨50, .tick⟩,
    ⟨60, .processEvent .carPluggedIn 32⟩, ⟨100, .tick⟩, ⟨110, .authorize true "tag" false⟩,
    ⟨150, .tick⟩, ⟨200, .tick⟩]

/-- An error in a session, the car unplugged, and a second session. -/
theorem errors_latch_unplugged :
    EachAfter startsUnlatched (World.run .blank 0 (acSession ++
      [⟨210, .processEvent .errorE 0⟩, ⟨250, .tick⟩, ⟨260, .processEvent .carUnplugged 0⟩,
        ⟨300, .tick⟩, ⟨350, .tick⟩, ⟨400, .tick⟩, ⟨410, .processEvent .carPluggedIn 32⟩,
        ⟨450, .tick⟩, ⟨460, .authorize true "tag" false⟩, ⟨500, .tick⟩, ⟨550, .tick⟩])).outputs :=
  errors_latch _ _ _ (by decide +kernel)

/-- A virtual replug during an error: power is permitted again although the error
has not been cleared. -/
theorem errors_do_not_latch_replug :
    ¬ EachAfter startsUnlatched (World.run .blank 0 (acSession ++
      [⟨210, .processEvent .errorE 0⟩, ⟨250, .tick⟩, ⟨260, .processEvent .evseReplugStarted 0⟩,
        ⟨300, .tick⟩, ⟨310, .processEvent .evseReplugFinished 0⟩, ⟨350, .tick⟩,
        ⟨400, .tick⟩])).outputs := by
  decide +kernel

/-! A disabled charger. -/

/-- The calls that leave a charger out of service: events that the handlers of
`Disabled` and `Faulted` ignore, and no cancellation of an active transaction. -/
def Charger.staysOutOfService (c : Charger) : Action → Bool
  | .processEvent event _ => event.isStateEvent
  | .cancelTransaction _ => !c.transactionActive
  | _ => true

namespace World

/-- The state is `Disabled`, or it is `Faulted` because of one of the calls so far. -/
def OutOfService (start : World) (calls : List Call) : Prop :=
  (Machine.run call start calls).charger.currentState = .disabled ∨
    (Machine.run call start calls).charger.currentState = .faulted ∧
      ∃ c ∈ calls, c.action = .setFaulted

/-- From `start` on the charger is out of service all the time, and no transaction
is started. -/
def StaysDisabled (start : World) (calls : List Call) : Prop :=
  (∀ mid, mid <+: calls → OutOfService start mid) ∧
    EveryStep call (fun w c => .signalEvent .transactionStarted ∉ w.sent c) start calls

def RespectsDisabled (w : World) (c : Call) : Prop :=
  w.charger.staysOutOfService c.action = true

instance (w : World) (c : Call) : Decidable (RespectsDisabled w c) :=
  inferInstanceAs (Decidable (_ = _))

/-- An event that every state looks at leaves `Disabled` and `Faulted`. -/
theorem eventState_outOfService {c : Charger} (now : ℤ) (event : BoardEvent)
    (hState : c.currentState = .disabled ∨ c.currentState = .faulted) :
    (event.isStateEvent = true → c.eventState now event = c.currentState) ∧
      (event.isStateEvent = false →
        c.eventState now event ≠ .disabled ∧ c.eventState now event ≠ .faulted) := by
  rcases hState with hState | hState <;> cases hMode : c.chargeMode <;> cases event <;>
    simp [Charger.eventState, BoardEvent.isStateEvent, hState, hMode]

/-- Where the calls lead that keep a charger out of service. -/
theorem callState_of_respectsDisabled {w : World} {c : Call}
    (hState : w.charger.currentState = .disabled ∨ w.charger.currentState = .faulted)
    (hEnable : c.action ≠ .enable) (hRespects : RespectsDisabled w c) :
    w.charger.callState c = w.charger.currentState ∨ w.charger.callState c = .disabled ∨
      w.charger.callState c = .faulted ∧ c.action = .setFaulted := by
  rw [RespectsDisabled] at hRespects
  rw [Charger.callState]
  cases hAction : c.action <;> rw [hAction] at hRespects
  case processEvent event _ =>
    exact .inl ((eventState_outOfService c.now event hState).1 hRespects)
  case enable => exact absurd hAction hEnable
  all_goals rcases hState with hState | hState <;> simp_all [Charger.staysOutOfService]

/-- Every other call takes the charger back into service. -/
theorem respectsDisabled_of_callState {w : World} {c : Call}
    (hState : w.charger.currentState = .disabled ∨ w.charger.currentState = .faulted)
    (hNext : w.charger.callState c = .disabled ∨ w.charger.callState c = .faulted) :
    RespectsDisabled w c := by
  rw [RespectsDisabled]
  rw [Charger.callState] at hNext
  cases hAction : c.action <;> rw [hAction] at hNext <;>
    simp only [Charger.staysOutOfService, Bool.not_eq_true']
  case processEvent event _ =>
    cases hEvent : event.isStateEvent
    · have hLeaves := (eventState_outOfService c.now event hState).2 hEvent
      rcases hNext with hNext | hNext
      · exact absurd hNext hLeaves.1
      · exact absurd hNext hLeaves.2
    · rfl
  case cancelTransaction request =>
    cases hActive : w.charger.transactionActive
    · rfl
    · cases hMode : w.charger.chargeMode <;> simp [hActive, hMode] at hNext

/-- One call more, while the charger is out of service. -/
theorem outOfService_snoc {start : World} {calls : List Call} {c : Call}
    (h : OutOfService start calls) (hEnable : c.action ≠ .enable) :
    OutOfService start (calls ++ [c]) ↔ RespectsDisabled (Machine.run call start calls) c := by
  have hState : (Machine.run call start calls).charger.currentState = .disabled ∨
      (Machine.run call start calls).charger.currentState = .faulted := h.imp_right And.left
  have hNext := call_currentState (Machine.run call start calls) c fun _ => by
    rcases hState with hState | hState <;> rw [hState] <;> rfl
  rw [OutOfService, run_snoc, hNext]
  constructor
  · intro hOut
    exact respectsDisabled_of_callState hState (hOut.imp_right And.left)
  · intro hRespects
    rcases callState_of_respectsDisabled hState hEnable hRespects with hSame | hDisabled | hFaulted
    · rw [hSame]
      refine h.imp_right fun hFaulted => ⟨hFaulted.1, ?_⟩
      obtain ⟨earlier, hMem, hAction⟩ := hFaulted.2
      exact ⟨earlier, List.mem_append_left _ hMem, hAction⟩
    · exact .inl hDisabled
    · exact .inr ⟨hFaulted.1, c, List.mem_append_right _ (List.mem_singleton_self c), hFaulted.2⟩

/-- An event that is sent by turns only is not sent in a state whose turns do not send it. -/
theorem turnEvent_not_sent {w : World} {c : Call} {event : SessionEvent}
    (hOther : ∀ action, action ≠ .tick → event ∉ w.charger.callEvents action)
    (hTurn : event ∉ w.charger.currentState.turnEvents) : .signalEvent event ∉ w.sent c := by
  rw [sent_eq]
  intro hMem
  have hEvent := Charger.mem_callEvents hMem
  by_cases hTick : c.action = .tick
  · rw [hTick] at hEvent
    exact hTurn hEvent
  · exact hOther c.action hTick hEvent

/-- A transaction is only started by a turn of `WaitingForAuthentication`. -/
theorem transactionStarted_not_sent {w : World} (c : Call)
    (hState : w.charger.currentState ≠ .waitingForAuthentication) :
    .signalEvent .transactionStarted ∉ w.sent c := by
  apply turnEvent_not_sent
  · intro action hTick
    cases action <;> simp_all [Charger.callEvents]
  · cases hTurn : w.charger.currentState <;> simp_all [EvseState.turnEvents]

/-- Nobody but the event that unplugs a car takes a disabled charger back into service. -/
theorem staysDisabled_iff {start : World} {calls : List Call}
    (hStart : start.charger.currentState = .disabled)
    (hEnable : ∀ c ∈ calls, c.action ≠ .enable) :
    StaysDisabled start calls ↔ EveryStep call RespectsDisabled start calls := by
  have hIff : (∀ mid, mid <+: calls → OutOfService start mid) ↔
      EveryStep call RespectsDisabled start calls := by
    apply forall_prefix_iff_eachAfter
    · exact .inl hStart
    · intro before c hBefore hMid
      apply outOfService_snoc (hMid before (List.prefix_refl _))
      exact hEnable c (hBefore.subset (by simp))
  rw [StaysDisabled, hIff, and_iff_left_iff_imp, ← hIff]
  intro hOut before c hBefore
  apply transactionStarted_not_sent
  rcases hOut before ((List.prefix_append _ _).trans hBefore) with hState | hState
  · rw [hState]
    decide
  · rw [hState.1]
    decide

end World

/-- Once it is disabled, the charger stays out of service until it is enabled
exactly if every call in between respects that. -/
theorem disabled_until_enabled_iff (memory : Charger) (ppAmpacity : ℚ) (before : List Call)
    (now : ℤ) (after : List Call) (hEnable : ∀ c ∈ after, c.action ≠ .enable) :
    World.StaysDisabled (World.run memory ppAmpacity (before ++ [⟨now, .disable⟩])) after ↔
      EveryStep World.call World.RespectsDisabled
        (World.run memory ppAmpacity (before ++ [⟨now, .disable⟩])) after := by
  apply World.staysDisabled_iff _ hEnable
  rw [World.run, run_snoc]
  rfl

/-- A car is plugged in and authorized while the charger is disabled. -/
theorem disabled_until_enabled_ignored :
    World.StaysDisabled (World.run .blank 0 [⟨1, .enable⟩, ⟨50, .tick⟩, ⟨60, .disable⟩])
      [⟨100, .tick⟩, ⟨110, .processEvent .carPluggedIn 32⟩, ⟨120, .authorize true "tag" false⟩,
        ⟨150, .tick⟩, ⟨160, .setFaulted⟩, ⟨200, .tick⟩] :=
  (disabled_until_enabled_iff .blank 0 [⟨1, .enable⟩, ⟨50, .tick⟩] 60 _ (by decide)).mpr
    (by decide)

/-- The charger is disabled while a car is plugged in. When the car leaves, the
charger takes itself back into service, and the next car can start a transaction. -/
theorem disabled_not_until_enabled_unplugged :
    ¬ World.StaysDisabled (World.run .blank 0
        [⟨0, .setup acSetup⟩, ⟨1, .enable⟩, ⟨50, .tick⟩, ⟨60, .processEvent .carPluggedIn 32⟩,
          ⟨100, .tick⟩, ⟨110, .disable⟩])
      [⟨150, .tick⟩, ⟨160, .processEvent .carUnplugged 0⟩, ⟨200, .tick⟩, ⟨250, .tick⟩,
        ⟨300, .tick⟩, ⟨310, .processEvent .carPluggedIn 32⟩, ⟨350, .tick⟩,
        ⟨360, .authorize true "tag" false⟩, ⟨400, .tick⟩] := by
  intro h
  exact absurd h.2 (by decide)

end EverestCore
