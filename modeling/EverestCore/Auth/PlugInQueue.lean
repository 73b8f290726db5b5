import EverestCore.Auth.TokenThreads

/-! The queue of the connectors at which cars have been plugged in. A connector comes in
with every start of a session and goes out with an authorization or with the timeout of
the plug-in; the end of a session leaves it in. -/
namespace EverestCore.Auth
open EverestCore.Machine

/-- What has happened to a connector since the last start of a session there. -/
structure PlugInFacts where
  inProgress : Bool := false
  byPlugIn : Bool := false
  authorized : Bool := false
  timedOut : Bool := false
  deriving DecidableEq, Repr

/-- The session goes on, was started by plugging in, has not been authorized yet, and
the time for that is not over. -/
def PlugInFacts.waits (facts : PlugInFacts) : Bool :=
  facts.inProgress && facts.byPlugIn && !facts.authorized && !facts.timedOut

/-- What an event says about the session of its connector. -/
def AuthEvent.notePlugIn (facts : ℤ → PlugInFacts) : AuthEvent → ℤ → PlugInFacts
  | .sessionEvent connector message =>
      match message.event with
      | .sessionStarted => Function.update facts connector
          { inProgress := true, byPlugIn := message.reason = .evConnected }
      | .sessionFinished => Function.update facts connector
          { facts connector with inProgress := false }
      | _ => facts
  | .timeout connector purpose =>
      match purpose with
      | .plugIn => Function.update facts connector { facts connector with timedOut := true }
      | .authorization => facts
  | .handleReservation _ _ _ | .handleCancelReservation _ | .reservationExpires _
  | .setPrioritize _ => facts

namespace AuthModule

/-- The connector to which the thread whose turn it is gives an authorization. -/
def authorizes (s : AuthModule) (i : ℕ) : Option ℤ := s.parties[i]?.bind TokenThread.armingAt

/-- What an input says about the sessions of the connectors. -/
def notePlugIn (s : AuthModule) (input : AuthInput) (facts : ℤ → PlugInFacts) : ℤ → PlugInFacts :=
  match input with
  | .onToken _ => facts
  | .turn i _ =>
      match s.authorizes i with
      | some connector => Function.update facts connector
          { facts connector with authorized := true }
      | none => facts
  | .event event => event.notePlugIn facts

/-- The module beside the facts of the sessions. -/
def queueRun (config : AuthConfig) (prioritize : Bool) (inputs : List AuthInput) :
    AuthModule × (ℤ → PlugInFacts) :=
  run (watch step notePlugIn) (start config prioritize, fun _ => {}) inputs

end AuthModule

/-- No connector is twice in the queue, and all that are in it wait for an
authorization. -/
structure ExactQueue (queue : List ℤ) (facts : ℤ → PlugInFacts) : Prop where
  nodup : queue.Nodup
  waits : ∀ connector ∈ queue, (facts connector).waits = true

/-- A session starts by plugging in, and at a connector that is not in the queue; it
ends when its connector is not in the queue any more; and the timeout of the plug-in
comes to a connector in the queue only while the timer is still the one for it. -/
def AuthHandler.KeepsQueue (handler : AuthHandler) : AuthEvent → Prop
  | .sessionEvent connector message =>
      match message.event with
      | .sessionStarted => message.reason = .evConnected ∧ connector ∉ handler.plugInQueue
      | .sessionFinished => connector ∉ handler.plugInQueue
      | _ => True
  | .timeout connector purpose => purpose = .plugIn → connector ∈ handler.plugInQueue →
      (handler.connectors connector).timeoutTimer = some .plugIn
  | .handleReservation _ _ _ | .handleCancelReservation _ | .reservationExpires _
  | .setPrioritize _ => True

section Queue

variable {queue : List ℤ} {facts : ℤ → PlugInFacts} {connector : ℤ} {fact : PlugInFacts}

/-- A connector that does not wait any more must not be in the queue. -/
theorem exactQueue_update_iff (h : ExactQueue queue facts) (hFact : fact.waits = false) :
    ExactQueue queue (Function.update facts connector fact) ↔ connector ∉ queue := by
  constructor
  · intro hNext hMem
    have hWaits := hNext.waits connector hMem
    rw [Function.update_self, hFact] at hWaits
    cases hWaits
  · intro hNot
    refine ⟨h.nodup, ?_⟩
    intro other hOther
    rw [Function.update_of_ne (ne_of_mem_of_not_mem hOther hNot)]
    exact h.waits other hOther

theorem ExactQueue.remove (h : ExactQueue queue facts) :
    ExactQueue (queue.filter fun value => !(value == connector))
      (Function.update facts connector fact) := by
  refine ⟨h.nodup.filter _, ?_⟩
  intro other hOther
  rw [List.mem_filter, Bool.not_eq_true', beq_eq_false_iff_ne] at hOther
  rw [Function.update_of_ne hOther.2]
  exact h.waits other hOther.1

/-- The start of a session keeps the queue exact if it is a plugging in at a connector
that is not in the queue. -/
theorem exactQueue_push_iff (h : ExactQueue queue facts) (reason : StartSessionReason) :
    ExactQueue (queue ++ [connector]) (Function.update facts connector
        { inProgress := true, byPlugIn := reason = .evConnected }) ↔
      reason = .evConnected ∧ connector ∉ queue := by
  constructor
  · intro hNext
    have hWaits := hNext.waits connector (by simp)
    rw [Function.update_self] at hWaits
    have hNodup := hNext.nodup
    rw [List.nodup_append] at hNodup
    refine ⟨by simpa [PlugInFacts.waits] using hWaits, ?_⟩
    intro hMem
    exact hNodup.2.2 connector hMem connector (by simp) rfl
  · rintro ⟨hReason, hNot⟩
    constructor
    · rw [List.nodup_append]
      refine ⟨h.nodup, by simp, ?_⟩
      intro other hOther last hLast hEq
      rw [List.mem_singleton.mp hLast] at hEq
      exact hNot (hEq ▸ hOther)
    · intro other hOther
      by_cases hSame : other = connector
      · rw [hSame, Function.update_self, hReason]
        rfl
      · rw [Function.update_of_ne hSame]
        rcases List.mem_append.mp hOther with hBefore | hNew
        · exact h.waits other hBefore
        · exact absurd (List.mem_singleton.mp hNew) hSame

end Queue

namespace AuthHandler

variable {handler : AuthHandler} {facts : ℤ → PlugInFacts}

theorem exactQueue_sessionEvent_iff (h : ExactQueue handler.plugInQueue facts) (connector : ℤ)
    (message : SessionMessage) :
    ExactQueue (handler.handleSessionEvent connector message).plugInQueue
        ((AuthEvent.sessionEvent connector message).notePlugIn facts) ↔
      handler.KeepsQueue (.sessionEvent connector message) := by
  obtain ⟨event, reason⟩ := message
  cases event with
  | sessionStarted => cases reason <;> exact exactQueue_push_iff h _
  | sessionFinished => exact exactQueue_update_iff h rfl
  | _ => exact iff_of_true h trivial

theorem exactQueue_timeout_iff (h : ExactQueue handler.plugInQueue facts) (connector : ℤ)
    (purpose : TimerPurpose) :
    ExactQueue (handler.timeout connector purpose).plugInQueue
        ((AuthEvent.timeout connector purpose).notePlugIn facts) ↔
      handler.KeepsQueue (.timeout connector purpose) := by
  cases purpose with
  | plugIn =>
      dsimp only [timeout, AuthEvent.notePlugIn, KeepsQueue]
      by_cases hTimer : (handler.connectors connector).timeoutTimer = some .plugIn
      · rw [if_pos hTimer]
        exact iff_of_true h.remove fun _ _ => hTimer
      · rw [if_neg hTimer, exactQueue_update_iff h (by simp [PlugInFacts.waits])]
        exact ⟨fun hNot _ hMem => absurd hMem hNot, fun hOk hMem => hTimer (hOk rfl hMem)⟩
  | authorization =>
      have hQueue : (handler.timeout connector .authorization).plugInQueue = handler.plugInQueue := by
        unfold timeout
        split <;> rfl
      rw [hQueue]
      exact iff_of_true h nofun

theorem exactQueue_event_iff (h : ExactQueue handler.plugInQueue facts) (event : AuthEvent) :
    ExactQueue (handler.handleEvent event).plugInQueue (event.notePlugIn facts) ↔
      handler.KeepsQueue event := by
  cases event with
  | sessionEvent connector message => exact exactQueue_sessionEvent_iff h connector message
  | timeout connector purpose => exact exactQueue_timeout_iff h connector purpose
  | handleReservation now connector reservation =>
      have hQueue : (handler.handleEvent (.handleReservation now connector reservation)).plugInQueue =
          handler.plugInQueue := by
        dsimp only [handleEvent]
        split <;> rfl
      rw [hQueue]
      exact iff_of_true h trivial
  | handleCancelReservation reservationId => exact iff_of_true h trivial
  | reservationExpires connector => exact iff_of_true h trivial
  | setPrioritize prioritize => exact iff_of_true h trivial

end AuthHandler

namespace AuthModule

/-- The threads of the tokens keep the queue exact. -/
theorem exactQueue_turn {s : AuthModule} {facts : ℤ → PlugInFacts}
    (h : ExactQueue s.shared.plugInQueue facts) (i : ℕ) (move : TokenMove) :
    ExactQueue (s.turn TokenThread.act i move).shared.plugInQueue
      (s.notePlugIn (.turn i move) facts) := by
  cases hThread : s.parties[i]? with
  | none =>
      rw [Parties.turn_of_none hThread]
      simpa [notePlugIn, authorizes, hThread] using h
  | some thread =>
      rw [Parties.turn_of_some hThread]
      rcases (TokenThread.step_act s.shared thread move).connectors with
        ⟨connector, result, hStage, -, hHandler, -⟩ | ⟨connector, result, hStage, hHandler, -⟩ |
        ⟨-, hQueue, hArming, -⟩
      · have hNone : s.authorizes i = none := by
          simp [authorizes, hThread, TokenThread.armingAt, hStage]
        rw [hHandler, notePlugIn, hNone]
        exact h
      · have hGiven : s.authorizes i = some connector := by
          simp [authorizes, hThread, TokenThread.armingAt, hStage]
        rw [hHandler, notePlugIn, hGiven]
        exact h.remove
      · have hNone : s.authorizes i = none := by
          simp [authorizes, hThread, hArming]
        rw [hQueue, notePlugIn, hNone]
        exact h

/-- One step keeps the queue exact if it does in the handler. -/
def KeepsQueue (s : AuthModule) : AuthInput → Prop
  | .event event => s.shared.KeepsQueue event
  | .onToken _ | .turn _ _ => True

/-- The queue is exact in all states of a run exactly if the sessions start and end and
the timers fire as the queue expects it. -/
theorem queue_exact_iff (config : AuthConfig) (prioritize : Bool) (inputs : List AuthInput) :
    (∀ mid, mid <+: inputs → ExactQueue (queueRun config prioritize mid).1.shared.plugInQueue
        (queueRun config prioritize mid).2) ↔
      EveryStep (watch step notePlugIn) (fun now input => now.1.KeepsQueue input)
        (start config prioritize, fun _ => {}) inputs := by
  apply forall_prefix_iff_everyStep (fun _ => True)
    (fun now : AuthModule × (ℤ → PlugInFacts) => ExactQueue now.1.shared.plugInQueue now.2) trivial
  · exact ⟨List.nodup_nil, fun connector hConnector => absurd hConnector List.not_mem_nil⟩
  · exact fun _ _ _ _ _ => trivial
  · intro now input _ h
    cases input with
    | onToken token => exact iff_of_true h trivial
    | turn i move => exact iff_of_true (exactQueue_turn h i move) trivial
    | event event => exact AuthHandler.exactQueue_event_iff h event

/-- A car is plugged in and leaves again: its connector stays in the queue. -/
theorem unplugged_stays_queued :
    let now := queueRun .twoConnectors false
      [.event (.sessionEvent 1 { event := .sessionStarted, reason := .evConnected }),
        .event (.sessionEvent 1 { event := .sessionFinished })]
    ¬ ExactQueue now.1.shared.plugInQueue now.2 := by
  intro now h
  exact absurd (h.waits 1 (by decide)) (by decide)

end AuthModule

end EverestCore.Auth
