import EverestCore.Machine.Runs

/-! The state machine that the Auth module keeps for every connector, and what its
state says about the events behind it. Three facts about a connector are folded into
six states, so an event that a state ignores is lost to the states after it. -/
namespace EverestCore.Auth
open EverestCore.Machine

inductive ConnectorState where
  | available
  | unavailable
  | faulted
  | occupied
  | unavailableFaulted
  | faultedOccupied
  deriving DecidableEq, Repr

inductive ConnectorStatusTransition where
  | enable
  | disable
  | errorCleared
  | faulted
  | transactionStarted
  | sessionFinished
  deriving DecidableEq, Repr

namespace ConnectorState

/-- The transition tables of `ConnectorStateMachine`. An event without an entry leaves
the state as it is. -/
def submitEvent : ConnectorState → ConnectorStatusTransition → ConnectorState
  | .available, .transactionStarted => .occupied
  | .available, .faulted => .faulted
  | .available, .disable => .unavailable
  | .occupied, .sessionFinished => .available
  | .occupied, .faulted => .faultedOccupied
  | .faulted, .errorCleared => .available
  | .faulted, .disable => .unavailableFaulted
  | .unavailable, .enable => .available
  | .unavailable, .faulted => .unavailableFaulted
  | .unavailableFaulted, .enable => .faulted
  | .unavailableFaulted, .errorCleared => .unavailable
  | .faultedOccupied, .sessionFinished => .faulted
  | .faultedOccupied, .errorCleared => .occupied
  | state, _ => state

/-- `Connector::is_unavailable`. -/
def isUnavailable : ConnectorState → Bool
  | .unavailable | .unavailableFaulted => true
  | _ => false

/-- One of the three faulted states. -/
def isFaulted : ConnectorState → Bool
  | .faulted | .unavailableFaulted | .faultedOccupied => true
  | _ => false

/-- The states of a connector with a transaction. -/
def isOccupied : ConnectorState → Bool
  | .occupied | .faultedOccupied => true
  | _ => false

end ConnectorState

/-- What the events so far say about a connector. -/
structure ConnectorFacts where
  /-- The last of the enable and disable events was a disable. -/
  disabled : Bool := false
  /-- The last of the faulted and error-cleared events was a fault. -/
  faulted : Bool := false
  /-- A transaction has started since the last end of a session. -/
  transaction : Bool := false
  deriving DecidableEq, Repr

def ConnectorFacts.note (facts : ConnectorFacts) : ConnectorStatusTransition → ConnectorFacts
  | .enable => { facts with disabled := false }
  | .disable => { facts with disabled := true }
  | .errorCleared => { facts with faulted := false }
  | .faulted => { facts with faulted := true }
  | .transactionStarted => { facts with transaction := true }
  | .sessionFinished => { facts with transaction := false }

/-- The machine of one connector beside the facts of its events. -/
def trackConnector (events : List ConnectorStatusTransition) : ConnectorState × ConnectorFacts :=
  run (watch ConnectorState.submitEvent fun _ event facts => facts.note event)
    (.available, {}) events

/-- The state tells the three facts as far as the states can. -/
structure Tracks (now : ConnectorState × ConnectorFacts) : Prop where
  unavailable : now.2.disabled = true → now.2.transaction = false → now.1.isUnavailable = true
  faulted : now.1.isFaulted = now.2.faulted
  available : now.1 = .available →
    now.2.disabled = false ∧ now.2.faulted = false ∧ now.2.transaction = false

/-- No event is handled in a state that has forgotten a fact the event brings back:
an occupied connector was not disabled, and neither a faulted nor an unavailable one
has seen the start of a transaction. -/
def RecallsFacts (now : ConnectorState × ConnectorFacts) : ConnectorStatusTransition → Prop
  | .sessionFinished => now.1.isOccupied = true → now.2.disabled = false
  | .errorCleared => now.1 = .faulted → now.2.transaction = false
  | .enable => now.1 = .unavailable → now.2.transaction = false
  | _ => True

instance (now : ConnectorState × ConnectorFacts) (event : ConnectorStatusTransition) :
    Decidable (RecallsFacts now event) :=
  match event with
  | .sessionFinished | .errorCleared | .enable => inferInstanceAs (Decidable (_ → _))
  | .disable | .faulted | .transactionStarted => inferInstanceAs (Decidable True)

namespace ConnectorState

variable (state : ConnectorState) (event : ConnectorStatusTransition)

/-- Faults are never lost. -/
theorem isFaulted_submitEvent : (state.submitEvent event).isFaulted =
    match event with
    | .faulted => true
    | .errorCleared => false
    | _ => state.isFaulted := by
  cases state <;> cases event <;> rfl

/-- A connector with a transaction does not notice that it is disabled. -/
theorem isUnavailable_submitEvent : (state.submitEvent event).isUnavailable =
    match event with
    | .disable => !state.isOccupied
    | .enable => false
    | _ => state.isUnavailable := by
  cases state <;> cases event <;> rfl

/-- A connector that is not available does not notice that a transaction starts. -/
theorem isOccupied_submitEvent : (state.submitEvent event).isOccupied =
    match event with
    | .transactionStarted => state.isOccupied || decide (state = .available)
    | .sessionFinished => false
    | _ => state.isOccupied := by
  cases state <;> cases event <;> rfl

variable {state}

theorem eq_available_iff : state = .available ↔
    state.isUnavailable = false ∧ state.isFaulted = false ∧ state.isOccupied = false := by
  cases state <;> decide

theorem eq_faulted_iff : state = .faulted ↔
    state.isUnavailable = false ∧ state.isFaulted = true ∧ state.isOccupied = false := by
  cases state <;> decide

theorem eq_unavailable_iff : state = .unavailable ↔
    state.isUnavailable = true ∧ state.isFaulted = false ∧ state.isOccupied = false := by
  cases state <;> decide

theorem isOccupied_eq_false (h : state.isUnavailable = true) : state.isOccupied = false := by
  cases state <;> first | rfl | cases h

end ConnectorState

/-- What the tables keep beside the law: only an occupied state follows the start of a
transaction, and a disable moves a connector out of the faulted state. -/
structure KnowsUse (now : ConnectorState × ConnectorFacts) : Prop where
  occupied : now.1.isOccupied = true → now.2.transaction = true
  faulted : now.1 = .faulted → now.2.disabled = false

section Step

open ConnectorState

variable {now : ConnectorState × ConnectorFacts} {event : ConnectorStatusTransition}

theorem KnowsUse.submitEvent (h : KnowsUse now) (hTracks : Tracks now)
    (hOk : RecallsFacts now event) :
    KnowsUse (watch ConnectorState.submitEvent (fun _ event facts => facts.note event) now event) := by
  obtain ⟨state, facts⟩ := now
  constructor
  · intro hOccupied
    rw [watch, isOccupied_submitEvent] at hOccupied
    cases event with
    | transactionStarted => rfl
    | sessionFinished => cases hOccupied
    | _ => exact h.occupied hOccupied
  · intro hFaulted
    rw [watch, eq_faulted_iff, isUnavailable_submitEvent, isFaulted_submitEvent,
      isOccupied_submitEvent] at hFaulted
    obtain ⟨hUnavailable, hFault, hOccupied⟩ := hFaulted
    cases event with
    | enable => rfl
    | disable =>
        have hFree : state.isOccupied = false := hOccupied
        simp [hFree] at hUnavailable
    | errorCleared => cases hFault
    | faulted =>
        cases hBefore : state.isFaulted with
        | true => exact h.faulted (eq_faulted_iff.mpr ⟨hUnavailable, hBefore, hOccupied⟩)
        | false => exact (hTracks.available
            (eq_available_iff.mpr ⟨hUnavailable, hBefore, hOccupied⟩)).1
    | transactionStarted =>
        rw [Bool.or_eq_false_iff] at hOccupied
        exact h.faulted (eq_faulted_iff.mpr ⟨hUnavailable, hFault, hOccupied.1⟩)
    | sessionFinished =>
        cases hUse : state.isOccupied with
        | true => exact hOk hUse
        | false => exact h.faulted (eq_faulted_iff.mpr ⟨hUnavailable, hFault, hUse⟩)

theorem Tracks.recallsFacts
    (h : Tracks (watch ConnectorState.submitEvent (fun _ event facts => facts.note event) now event)) :
    RecallsFacts now event := by
  obtain ⟨state, facts⟩ := now
  cases event with
  | sessionFinished =>
      intro hOccupied
      by_contra hDisabled
      rw [Bool.not_eq_false] at hDisabled
      have hUnavailable := h.unavailable hDisabled rfl
      rw [watch, isUnavailable_submitEvent] at hUnavailable
      have hFree := isOccupied_eq_false hUnavailable
      rw [hFree] at hOccupied
      cases hOccupied
  | errorCleared =>
      rintro rfl
      exact (h.available rfl).2.2
  | enable =>
      rintro rfl
      exact (h.available rfl).2.2
  | disable | faulted | transactionStarted => trivial

/-- A connector that is disabled and has no transaction stays or becomes unavailable. -/
theorem Tracks.isUnavailable_submitEvent (hTracks : Tracks now) (h : KnowsUse now)
    (hOk : RecallsFacts now event) (hDisabled : (now.2.note event).disabled = true)
    (hTransaction : (now.2.note event).transaction = false) :
    (now.1.submitEvent event).isUnavailable = true := by
  obtain ⟨state, facts⟩ := now
  rw [ConnectorState.isUnavailable_submitEvent]
  cases event with
  | enable => cases hDisabled
  | disable =>
      have hFree : state.isOccupied = false := by
        by_contra hOccupied
        rw [Bool.not_eq_false] at hOccupied
        exact absurd (h.occupied hOccupied) (Bool.not_eq_true _ ▸ hTransaction)
      simp [hFree]
  | errorCleared | faulted => exact hTracks.unavailable hDisabled hTransaction
  | transactionStarted => cases hTransaction
  | sessionFinished =>
      -- all states but the unavailable ones are those of an enabled connector
      by_contra hNot
      rw [Bool.not_eq_true] at hNot
      have hEnabled : facts.disabled = false := by
        cases hOccupied : state.isOccupied with
        | true => exact hOk hOccupied
        | false =>
            cases hFaulted : state.isFaulted with
            | true => exact h.faulted (eq_faulted_iff.mpr ⟨hNot, hFaulted, hOccupied⟩)
            | false =>
                exact (hTracks.available (eq_available_iff.mpr ⟨hNot, hFaulted, hOccupied⟩)).1
      exact absurd (hEnabled.symm.trans hDisabled) Bool.false_ne_true

theorem Tracks.isFaulted_submitEvent (hTracks : Tracks now) :
    (now.1.submitEvent event).isFaulted = (now.2.note event).faulted := by
  rw [ConnectorState.isFaulted_submitEvent]
  cases event with
  | faulted | errorCleared => rfl
  | _ => exact hTracks.faulted

/-- A connector that becomes or stays available is enabled, without fault and unused. -/
theorem Tracks.note_of_available (hTracks : Tracks now) (h : KnowsUse now)
    (hOk : RecallsFacts now event) (hAvailable : now.1.submitEvent event = .available) :
    (now.2.note event).disabled = false ∧ (now.2.note event).faulted = false ∧
      (now.2.note event).transaction = false := by
  have hFault : (now.1.submitEvent event).isFaulted = (now.2.note event).faulted :=
    hTracks.isFaulted_submitEvent
  obtain ⟨state, facts⟩ := now
  rw [eq_available_iff] at hAvailable
  rw [hAvailable.2.1] at hFault
  rw [ConnectorState.isUnavailable_submitEvent, ConnectorState.isFaulted_submitEvent,
    isOccupied_submitEvent] at hAvailable
  obtain ⟨hUnavailable, hFaulted, hOccupied⟩ := hAvailable
  cases event with
  | enable =>
      refine ⟨rfl, hFault.symm, ?_⟩
      cases hBefore : state.isUnavailable with
      | true => exact hOk (eq_unavailable_iff.mpr ⟨hBefore, hFaulted, hOccupied⟩)
      | false => exact (hTracks.available
          (eq_available_iff.mpr ⟨hBefore, hFaulted, hOccupied⟩)).2.2
  | disable =>
      have hFree : state.isOccupied = false := hOccupied
      simp [hFree] at hUnavailable
  | errorCleared =>
      cases hBefore : state.isFaulted with
      | true =>
          have hState := eq_faulted_iff.mpr ⟨hUnavailable, hBefore, hOccupied⟩
          exact ⟨h.faulted hState, rfl, hOk hState⟩
      | false =>
          have hFacts := hTracks.available (eq_available_iff.mpr ⟨hUnavailable, hBefore, hOccupied⟩)
          exact ⟨hFacts.1, rfl, hFacts.2.2⟩
  | faulted => cases hFaulted
  | transactionStarted =>
      rw [Bool.or_eq_false_iff, decide_eq_false_iff_not] at hOccupied
      exact absurd (eq_available_iff.mpr ⟨hUnavailable, hFaulted, hOccupied.1⟩) hOccupied.2
  | sessionFinished =>
      refine ⟨?_, hFault.symm, rfl⟩
      cases hUse : state.isOccupied with
      | true => exact hOk hUse
      | false => exact (hTracks.available (eq_available_iff.mpr ⟨hUnavailable, hFaulted, hUse⟩)).1

/-- One event keeps the law exactly if it finds no forgotten fact. -/
theorem tracks_submitEvent_iff (event : ConnectorStatusTransition) (h : KnowsUse now)
    (hTracks : Tracks now) :
    Tracks (watch ConnectorState.submitEvent (fun _ event facts => facts.note event) now event) ↔
      RecallsFacts now event := by
  constructor
  · exact Tracks.recallsFacts
  · intro hOk
    exact ⟨hTracks.isUnavailable_submitEvent h hOk, hTracks.isFaulted_submitEvent,
      hTracks.note_of_available h hOk⟩

end Step

/-- The state tracks the three facts along a whole sequence of events exactly if none of
its events is handled in a state that has forgotten one of them. -/
theorem connector_tracks_iff_recalls (events : List ConnectorStatusTransition) :
    (∀ mid, mid <+: events → Tracks (trackConnector mid)) ↔
      EveryStep (watch ConnectorState.submitEvent fun _ event facts => facts.note event)
        RecallsFacts (.available, {}) events := by
  apply forall_prefix_iff_everyStep KnowsUse Tracks
  · constructor <;> intro h <;> cases h
  · constructor <;> simp [ConnectorState.isFaulted]
  · intro now event h hTracks hOk
    exact h.submitEvent hTracks hOk
  · intro now event h hTracks
    exact tracks_submitEvent_iff event h hTracks

/-- A connector that was disabled during a transaction is available again after the
session, although nothing has enabled it. -/
theorem connector_forgets_disable :
    ¬ Tracks (trackConnector [.transactionStarted, .disable, .sessionFinished]) := by
  intro h
  exact absurd (h.unavailable (by decide) (by decide)) (by decide)

end EverestCore.Auth
