import EverestCore.Auth.AuthHandler

/-! A reservation is kept twice: by the Auth module, and by the EvseManager of its
connector. Auth sends calls to the EvseManager and does not look at their results, and
the EvseManager publishes events that Auth does not compare with its own reservations.
Calls and events of one connector arrive in the order in which they were sent. -/
namespace EverestCore.Auth
open EverestCore.Machine

inductive EvseCall where
  | reserve (reservationId : ℤ)
  | cancelReservation
  deriving DecidableEq, Repr

/-- What an EvseManager knows about reservations, and the state of its charger. -/
structure Evse where
  state : EvseState := .idle
  reserved : Bool := false
  reservationId : ℤ := 0
  deriving DecidableEq, Repr

namespace Evse

variable (evse : Evse)

/-- `EvseManager::reserve`, with the events that it publishes. Its result is not used by
anybody. -/
def reserve (reservationId : ℤ) : Evse × List SessionMessage :=
  if evse.state = .disabled then (evse, [])
  else if evse.state = .faulted then (evse, [])
  else if evse.state ≠ .idle then (evse, [])
  else if !evse.reserved then
    ({ evse with reserved := true, reservationId := reservationId },
      [{ event := .reservationStart }])
  else (evse, [])

def cancelReservation (signalEvent : Bool) : Evse × List SessionMessage :=
  if evse.reserved then
    ({ evse with reserved := false, reservationId := 0 },
      if signalEvent then [{ event := .reservationEnd }] else [])
  else (evse, [])

/-- The handlers of an event that the charger signals: one gives the reservation up, and
the other one publishes the event. -/
def onSignalEvent (message : SessionMessage) : Evse × List SessionMessage :=
  match message.event with
  | .disabled | .permanentFault =>
      ((evse.cancelReservation true).1, (evse.cancelReservation true).2 ++ [message])
  | .transactionStarted =>
      ((evse.cancelReservation false).1, (evse.cancelReservation false).2 ++ [message])
  | _ => (evse, [message])

def perform : EvseCall → Evse × List SessionMessage
  | .reserve reservationId => evse.reserve reservationId
  | .cancelReservation => evse.cancelReservation true

/-- The reservation that the EvseManager holds. -/
def held : Option ℤ := if evse.reserved then some evse.reservationId else none

end Evse

/-- The two modules, and what is on its way between them. The command to cancel a
reservation sends a second call when the first one has been answered. -/
structure ReservationSystem where
  auth : AuthHandler
  evses : ℤ → Evse := fun _ => {}
  calls : ℤ → List EvseCall := fun _ => []
  events : ℤ → List SessionMessage := fun _ => []
  secondCancels : List ℤ := []

inductive ReservationInput where
  | reserveNow (now connector : ℤ) (reservation : Reservation)
  | cancelReservation (reservationId : ℤ)
  | secondCancel (connector : ℤ)
  | expire (connector : ℤ)
  | callArrives (connector : ℤ)
  | eventArrives (connector : ℤ)
  | chargerState (connector : ℤ) (state : EvseState)
  | chargerEvent (connector : ℤ) (message : SessionMessage)
  deriving DecidableEq, Repr

/-- The events that an EvseManager publishes about reservations. The charger signals
none of them. -/
def SessionMessage.isReservation (message : SessionMessage) : Bool :=
  message.event = .reservationStart || message.event = .reservationEnd

namespace ReservationSystem

variable (s : ReservationSystem)

def send (connector : ℤ) (call : EvseCall) : ReservationSystem :=
  { s with calls := Function.update s.calls connector (s.calls connector ++ [call]) }

/-- The EvseManager of a connector changes and publishes events. -/
def change (connector : ℤ) (result : Evse × List SessionMessage) : ReservationSystem :=
  { s with
    evses := Function.update s.evses connector result.1
    events := Function.update s.events connector (s.events connector ++ result.2) }

/-- Auth holds other reservations. -/
def hold (handler : ReservationHandler) : ReservationSystem :=
  { s with auth := { s.auth with reservationHandler := handler } }

/-- A reservation is taken out of the map, and the callback calls the EvseManager. -/
def withdraw (cancellation : Cancellation) : ReservationSystem :=
  match cancellation.callback with
  | some connector => (s.hold cancellation.handler).send connector .cancelReservation
  | none => s.hold cancellation.handler

/-- `handle_reserve_now`. -/
def reserveNow (now connector : ℤ) (reservation : Reservation) : ReservationSystem :=
  let context := s.auth.connectors connector
  -- `connectors.at` throws for a connector that does not exist
  if s.auth.config.connectorIds.contains connector then
    let (reservationHandler, result) := s.auth.reservationHandler.reserve now connector
      context.state context.isReservable reservation
    if result = .accepted then
      (s.hold reservationHandler).send connector (.reserve reservation.reservationId)
    else s.hold reservationHandler
  else s

/-- `handle_cancel_reservation` up to the second call. -/
def cancelReservation (reservationId : ℤ) : ReservationSystem :=
  let cancellation := s.auth.reservationHandler.cancelReservation reservationId true
  let s := s.withdraw cancellation
  if cancellation.connector ≠ -1 then
    { s with secondCancels := s.secondCancels ++ [cancellation.connector] }
  else s

def step : ReservationInput → ReservationSystem
  | .reserveNow now connector reservation => s.reserveNow now connector reservation
  | .cancelReservation reservationId => s.cancelReservation reservationId
  | .secondCancel connector =>
      if s.secondCancels.contains connector then
        { s with secondCancels := s.secondCancels.erase connector }.send connector
          .cancelReservation
      else s
  | .expire connector => s.withdraw (s.auth.reservationHandler.expire connector)
  | .callArrives connector =>
      match s.calls connector with
      | [] => s
      | call :: calls =>
          { s with calls := Function.update s.calls connector calls }.change connector
            ((s.evses connector).perform call)
  | .eventArrives connector =>
      match s.events connector with
      | [] => s
      | message :: events =>
          { s with
            auth := s.auth.handleSessionEvent connector message
            events := Function.update s.events connector events }
  | .chargerState connector state =>
      s.change connector ({ s.evses connector with state := state }, [])
  | .chargerEvent connector message =>
      if message.isReservation then s
      else s.change connector ((s.evses connector).onSignalEvent message)

def start (config : AuthConfig) : ReservationSystem :=
  { auth := { config := config, prioritizeAuthorizationOverStoppingTransaction := false } }

/-- The reservation that Auth holds for a connector. -/
def heldByAuth (connector : ℤ) : Option ℤ := s.auth.reservationHandler.idAt connector

/-- Where no call and no reservation event is on its way, an EvseManager is reserved with
an id exactly if Auth holds that reservation for its connector. -/
def Agrees : Prop :=
  ∀ connector, s.calls connector = [] →
    (∀ message ∈ s.events connector, message.isReservation = false) →
    ∀ reservationId,
      ((s.evses connector).reserved = true ∧ (s.evses connector).reservationId = reservationId) ↔
        s.heldByAuth connector = some reservationId

/-- When the end of a reservation has been delivered, Auth holds none for the
connector. -/
def EndsTruly : ReservationInput → Prop
  | .eventArrives connector =>
      (s.events connector).head?.any (fun message => message.event = .reservationEnd) = true →
        (s.step (.eventArrives connector)).heldByAuth connector = none
  | _ => True

end ReservationSystem

/-- What the call leaves of a reservation, if the charger is idle. -/
def EvseCall.apply (held : Option ℤ) : EvseCall → Option ℤ
  | .reserve reservationId => held.or (some reservationId)
  | .cancelReservation => none

/-- The reservation that is left when all calls have arrived. -/
def replay (held : Option ℤ) (calls : List EvseCall) : Option ℤ := calls.foldl EvseCall.apply held

/-- One of the calls is going to end a reservation. -/
def endsIn (held : Option ℤ) : List EvseCall → Bool
  | [] => false
  | .reserve reservationId :: calls => endsIn (held.or (some reservationId)) calls
  | .cancelReservation :: calls => held.isSome || endsIn none calls

section Calls

variable {held : Option ℤ} {calls : List EvseCall}

/-- The last call is applied to what the others have left. -/
theorem replay_snoc (call : EvseCall) :
    replay held (calls ++ [call]) = call.apply (replay held calls) :=
  List.foldl_concat _ _ _ _

/-- Behind a cancellation it does not matter what was held before. -/
theorem replay_eq_of_cancel (h : EvseCall.cancelReservation ∈ calls) (other : Option ℤ) :
    replay held calls = replay other calls := by
  induction calls generalizing held other with
  | nil => cases h
  | cons call calls ih =>
      cases call with
      | reserve reservationId => exact ih (by simpa using h) _
      | cancelReservation => rfl

/-- A reservation that is held ends in calls that have a cancellation. -/
theorem endsIn_of_cancel (h : EvseCall.cancelReservation ∈ calls) (hHeld : held.isSome = true) :
    endsIn held calls = true := by
  induction calls generalizing held with
  | nil => cases h
  | cons call calls ih =>
      cases call with
      | reserve reservationId =>
          rw [endsIn]
          exact ih (by simpa using h) (by simp)
      | cancelReservation => rw [endsIn, hHeld, Bool.true_or]

/-- Without a reservation cancellations end nothing. -/
theorem endsIn_none (h : ∀ call ∈ calls, call = .cancelReservation) : endsIn none calls = false := by
  induction calls with
  | nil => rfl
  | cons call calls ih =>
      rw [h call List.mem_cons_self]
      exact ih fun other hOther => h other (List.mem_cons_of_mem _ hOther)

/-- A call that reserves ends no reservation. -/
theorem endsIn_snoc_reserve (reservationId : ℤ) :
    endsIn held (calls ++ [.reserve reservationId]) = endsIn held calls := by
  induction calls generalizing held with
  | nil => rfl
  | cons call calls ih =>
      cases call with
      | reserve other => exact ih
      | cancelReservation =>
          rw [List.cons_append, endsIn, endsIn, ih]

end Calls

/-- An EvseManager is going to hold what Auth holds, and as long as Auth holds a
reservation no end of one is on its way. -/
structure InStep (heldByAuth : Option ℤ) (evse : Evse) (calls : List EvseCall)
    (events : List SessionMessage) : Prop where
  agrees : replay evse.held calls = heldByAuth
  noEnd : heldByAuth.isSome = true → endsIn evse.held calls = false ∧
    ∀ message ∈ events, message.event ≠ .reservationEnd

namespace Evse

variable {evse : Evse}

/-- A reservation is taken by an idle EVSE that has none. -/
theorem held_reserve (reservationId : ℤ) : (evse.reserve reservationId).1.held =
    if evse.state = .idle then evse.held.or (some reservationId) else evse.held := by
  obtain ⟨state, reserved, id⟩ := evse
  cases state <;> cases reserved <;> rfl

/-- Reserving signals no end of a reservation. -/
theorem event_of_mem_reserve {reservationId : ℤ} {message : SessionMessage}
    (h : message ∈ (evse.reserve reservationId).2) : message.event ≠ .reservationEnd := by
  obtain ⟨state, reserved, id⟩ := evse
  cases state <;> cases reserved <;> simp_all [reserve]

/-- A cancellation leaves no reservation. -/
theorem held_cancelReservation (signalEvent : Bool) :
    (evse.cancelReservation signalEvent).1.held = none := by
  unfold cancelReservation
  split
  · rfl
  · next hReserved => exact if_neg hReserved

/-- A cancellation without a reservation does nothing. -/
theorem cancelReservation_of_held_eq_none (h : evse.held = none) (signalEvent : Bool) :
    evse.cancelReservation signalEvent = (evse, []) := by
  obtain ⟨state, reserved, id⟩ := evse
  cases reserved with
  | false => rfl
  | true => cases h

end Evse

/-- The events with which an EvseManager gives its reservation up. -/
def SessionMessage.takesReservation (message : SessionMessage) : Bool :=
  match message.event with
  | .disabled | .permanentFault | .transactionStarted => true
  | _ => false

namespace Evse

variable {evse : Evse} {message : SessionMessage}

/-- An event that takes no reservation is passed on. -/
theorem onSignalEvent_of_not_takes (h : message.takesReservation = false) :
    evse.onSignalEvent message = (evse, [message]) := by
  obtain ⟨event, reason⟩ := message
  cases event with
  | disabled | permanentFault | transactionStarted => cases h
  | _ => rfl

/-- An event that takes the reservation cancels it first. -/
theorem onSignalEvent_of_takes (evse : Evse) (h : message.takesReservation = true) : ∃ signalEvent,
    evse.onSignalEvent message = ((evse.cancelReservation signalEvent).1,
      (evse.cancelReservation signalEvent).2 ++ [message]) := by
  obtain ⟨event, reason⟩ := message
  cases event with
  | disabled => exact ⟨true, rfl⟩
  | permanentFault => exact ⟨true, rfl⟩
  | transactionStarted => exact ⟨false, rfl⟩
  | _ => cases h

end Evse

namespace InStep

variable {heldByAuth : Option ℤ} {evse : Evse} {calls : List EvseCall}
  {events : List SessionMessage}

/-- Auth gives its reservation up and calls the EvseManager. -/
theorem cancel (evse : Evse) (calls : List EvseCall) (events : List SessionMessage) :
    InStep none evse (calls ++ [.cancelReservation]) events :=
  ⟨replay_snoc _, nofun⟩

/-- Auth accepts a reservation while the EvseManager has none and nothing is on its way
that could give it one or end one. -/
theorem reserve (h : InStep none evse calls events) (hHeld : evse.held = none)
    (hCalls : ∀ call ∈ calls, call = .cancelReservation)
    (hEvents : ∀ message ∈ events, message.event ≠ .reservationEnd) (reservationId : ℤ) :
    InStep (some reservationId) evse (calls ++ [.reserve reservationId]) events := by
  constructor
  · rw [replay_snoc, h.agrees]
    rfl
  · intro _
    rw [endsIn_snoc_reserve, hHeld]
    exact ⟨endsIn_none hCalls, hEvents⟩

/-- A call to reserve arrives at an idle charger, or is cancelled by one behind it. -/
theorem reserveArrives {reservationId : ℤ}
    (h : InStep heldByAuth evse (.reserve reservationId :: calls) events)
    (hOk : evse.held.isSome = true ∨ evse.state = .idle ∨ .cancelReservation ∈ calls) :
    InStep heldByAuth (evse.reserve reservationId).1 calls
      (events ++ (evse.reserve reservationId).2) := by
  have hReplay : replay (evse.held.or (some reservationId)) calls = heldByAuth := h.agrees
  have hEvents : (∀ message ∈ events, message.event ≠ .reservationEnd) →
      ∀ message ∈ events ++ (evse.reserve reservationId).2, message.event ≠ .reservationEnd := by
    intro hBefore message hMessage
    rcases List.mem_append.mp hMessage with hOld | hNew
    · exact hBefore message hOld
    · exact Evse.event_of_mem_reserve hNew
  by_cases hSame : (evse.reserve reservationId).1.held = evse.held.or (some reservationId)
  · refine ⟨by rw [hSame, hReplay], fun hSome => ?_⟩
    rw [hSame]
    exact ⟨(h.noEnd hSome).1, hEvents (h.noEnd hSome).2⟩
  · have hCancel : EvseCall.cancelReservation ∈ calls := by
      rw [Evse.held_reserve] at hSame
      rcases hOk with hHeld | hIdle | hCancel
      · obtain ⟨id, hId⟩ := Option.isSome_iff_exists.mp hHeld
        simp [hId] at hSame
      · rw [if_pos hIdle] at hSame
        exact absurd rfl hSame
      · exact hCancel
    refine ⟨by rw [replay_eq_of_cancel hCancel, hReplay], fun hSome => ?_⟩
    have hNot : endsIn (evse.held.or (some reservationId)) calls = false := (h.noEnd hSome).1
    rw [endsIn_of_cancel hCancel (by simp)] at hNot
    cases hNot

/-- A cancellation that arrives leaves what the EVSE is going to hold. -/
theorem cancelArrives (h : InStep heldByAuth evse (.cancelReservation :: calls) events) :
    InStep heldByAuth (evse.cancelReservation true).1 calls
      (events ++ (evse.cancelReservation true).2) := by
  have hReplay : replay none calls = heldByAuth := h.agrees
  refine ⟨by rw [Evse.held_cancelReservation, hReplay], fun hSome => ?_⟩
  obtain ⟨hNot, hEvents⟩ := h.noEnd hSome
  rw [endsIn, Bool.or_eq_false_iff, Option.isSome_eq_false_iff, Option.isNone_iff_eq_none] at hNot
  rw [Evse.held_cancelReservation, Evse.cancelReservation_of_held_eq_none hNot.1, List.append_nil]
  exact ⟨hNot.2, hEvents⟩

/-- The charger signals an event, and the EvseManager does not give up a reservation that
Auth still holds. -/
theorem signals (h : InStep heldByAuth evse calls events) {message : SessionMessage}
    (hMessage : message.event ≠ .reservationEnd)
    (hOk : message.takesReservation = true → evse.held = none ∨ .cancelReservation ∈ calls) :
    InStep heldByAuth (evse.onSignalEvent message).1 calls
      (events ++ (evse.onSignalEvent message).2) := by
  have hEvents : (∀ old ∈ events, old.event ≠ .reservationEnd) →
      ∀ old ∈ events ++ [message], old.event ≠ .reservationEnd := by
    intro hBefore old hOld
    rcases List.mem_append.mp hOld with hOld | hNew
    · exact hBefore old hOld
    · rw [List.mem_singleton.mp hNew]
      exact hMessage
  cases hTakes : message.takesReservation with
  | false =>
      rw [Evse.onSignalEvent_of_not_takes hTakes]
      exact ⟨h.agrees, fun hSome => ⟨(h.noEnd hSome).1, hEvents (h.noEnd hSome).2⟩⟩
  | true =>
      obtain ⟨signalEvent, hEq⟩ := Evse.onSignalEvent_of_takes evse hTakes
      rw [hEq]
      by_cases hHeld : evse.held = none
      · rw [Evse.cancelReservation_of_held_eq_none hHeld]
        exact ⟨h.agrees, fun hSome => ⟨(h.noEnd hSome).1, hEvents (h.noEnd hSome).2⟩⟩
      · have hCancel := (hOk hTakes).resolve_left hHeld
        refine ⟨by rw [replay_eq_of_cancel hCancel, h.agrees], fun hSome => ?_⟩
        have hNot := (h.noEnd hSome).1
        rw [endsIn_of_cancel hCancel (Option.isSome_iff_ne_none.mpr hHeld)] at hNot
        cases hNot

/-- The state of the charger does not matter by itself. -/
theorem chargerState (h : InStep heldByAuth evse calls events) (state : EvseState) :
    InStep heldByAuth { evse with state := state } calls (events ++ []) := by
  rw [List.append_nil]
  exact ⟨h.agrees, h.noEnd⟩

/-- An event that arrives is no longer on its way. -/
theorem eventArrives {message : SessionMessage}
    (h : InStep heldByAuth evse calls (message :: events)) :
    InStep heldByAuth evse calls events :=
  ⟨h.agrees, fun hSome => ⟨(h.noEnd hSome).1, fun other hOther =>
    (h.noEnd hSome).2 other (List.mem_cons_of_mem _ hOther)⟩⟩

end InStep

namespace ReservationSystem

/-- The step does not part Auth and the EvseManager of its connector:
a reservation is accepted while the EvseManager has none and nothing is on its way that
could give it one or end one; it arrives at an idle charger, or has been cancelled
already; the second call of a cancellation is sent while Auth holds no new reservation;
and the charger is not disabled or faulted and starts no transaction under a
reservation that nobody has cancelled. -/
def keepsInStep (s : ReservationSystem) : ReservationInput → Bool
  | .reserveNow now connector reservation =>
      let context := s.auth.connectors connector
      !s.auth.config.connectorIds.contains connector ||
        (s.auth.reservationHandler.reserve now connector context.state context.isReservable
          reservation).2 ≠ .accepted ||
        ((s.evses connector).held = none &&
          (s.calls connector).all (fun call => call = .cancelReservation) &&
          (s.events connector).all fun message => message.event ≠ .reservationEnd)
  | .secondCancel connector =>
      !s.secondCancels.contains connector || s.heldByAuth connector = none
  | .callArrives connector =>
      match s.calls connector with
      | .reserve _ :: calls => (s.evses connector).held.isSome ||
          (s.evses connector).state = .idle || calls.contains .cancelReservation
      | .cancelReservation :: _ | [] => true
  | .chargerEvent connector message =>
      !message.takesReservation || (s.evses connector).held = none ||
        (s.calls connector).contains .cancelReservation
  | .cancelReservation _ | .expire _ | .eventArrives _ | .chargerState _ _ => true

/-- All connectors are in step. -/
def AllInStep (s : ReservationSystem) : Prop :=
  ∀ connector, InStep (s.heldByAuth connector) (s.evses connector) (s.calls connector)
    (s.events connector)

variable {s : ReservationSystem}

/-- Connectors that are in step agree once nothing is on the way. -/
theorem AllInStep.agrees (h : s.AllInStep) : s.Agrees := by
  intro connector hCalls _ reservationId
  have hHeld := (h connector).agrees
  rw [hCalls] at hHeld
  replace hHeld : (s.evses connector).held = s.heldByAuth connector := hHeld
  rw [← hHeld, Evse.held]
  cases (s.evses connector).reserved <;> simp

/-- A step that touches one connector only keeps all in step if it keeps that one. -/
theorem AllInStep.only {s' : ReservationSystem} (h : s.AllInStep) (connector : ℤ)
    (hHeld : ∀ other, other ≠ connector → s'.heldByAuth other = s.heldByAuth other)
    (hEvses : ∀ other, other ≠ connector → s'.evses other = s.evses other)
    (hCalls : ∀ other, other ≠ connector → s'.calls other = s.calls other)
    (hEvents : ∀ other, other ≠ connector → s'.events other = s.events other)
    (hConnector : InStep (s'.heldByAuth connector) (s'.evses connector) (s'.calls connector)
      (s'.events connector)) : s'.AllInStep := by
  intro other
  by_cases hOther : other = connector
  · rw [hOther]
    exact hConnector
  · rw [hHeld other hOther, hEvses other hOther, hCalls other hOther, hEvents other hOther]
    exact h other

section Sending

variable (s) (handler : ReservationHandler) (connector : ℤ) (call : EvseCall)

@[simp] theorem heldByAuth_hold (other : ℤ) : (s.hold handler).heldByAuth other = handler.idAt other :=
  rfl

@[simp] theorem heldByAuth_send (other : ℤ) :
    (s.send connector call).heldByAuth other = s.heldByAuth other := rfl

@[simp] theorem calls_send_self :
    (s.send connector call).calls connector = s.calls connector ++ [call] := by
  simp [send]

end Sending

/-- An event from an EvseManager does not change what Auth holds. -/
theorem heldByAuth_eventArrives (s : ReservationSystem) (connector other : ℤ) :
    (s.step (.eventArrives connector)).heldByAuth other = s.heldByAuth other := by
  dsimp only [step]
  split
  · rfl
  · unfold heldByAuth
    rw [AuthHandler.handleSessionEvent_reservationHandler]

/-- Auth changes what it holds for one connector, and calls its EvseManager. -/
theorem AllInStep.call (h : s.AllInStep) {handler : ReservationHandler} {connector : ℤ}
    {call : EvseCall}
    (hOthers : ∀ other, other ≠ connector → handler.idAt other = s.heldByAuth other)
    (hConnector : InStep (handler.idAt connector) (s.evses connector)
      (s.calls connector ++ [call]) (s.events connector)) :
    ((s.hold handler).send connector call).AllInStep := by
  apply h.only connector
  · exact hOthers
  · exact fun _ _ => rfl
  · intro other hOther
    simp [send, hold, hOther]
  · exact fun _ _ => rfl
  · rw [heldByAuth_send, heldByAuth_hold, calls_send_self]
    exact hConnector

/-- A handler with the same reservations keeps all in step. -/
theorem AllInStep.hold (h : s.AllInStep) {handler : ReservationHandler}
    (hSame : ∀ connector, handler.idAt connector = s.heldByAuth connector) :
    (s.hold handler).AllInStep := by
  intro connector
  rw [heldByAuth_hold, hSame]
  exact h connector

/-- A reservation that the Auth module makes keeps all in step. -/
theorem AllInStep.reserveNow (h : s.AllInStep) (now connector : ℤ) (reservation : Reservation)
    (hOk : s.keepsInStep (.reserveNow now connector reservation) = true) :
    (s.reserveNow now connector reservation).AllInStep := by
  unfold ReservationSystem.reserveNow
  dsimp only
  split
  · next hExists =>
    rcases s.auth.reservationHandler.reserve_cases now connector (s.auth.connectors connector).state
      (s.auth.connectors connector).isReservable reservation with ⟨hKey, hEq⟩ | ⟨hEq, hNot⟩
    · simp only [keepsInStep, hExists, hEq, Bool.not_true, Bool.false_or, Bool.and_eq_true,
        decide_eq_true_eq, List.all_eq_true, ne_eq, not_true_eq_false, decide_false] at hOk
      obtain ⟨⟨hHeld, hCalls⟩, hEvents⟩ := hOk
      have hNone : s.heldByAuth connector = none := by
        rw [heldByAuth, ← Option.isNone_iff_eq_none, ← Option.isSome_eq_false_iff,
          ← Bool.not_eq_true, ← ReservationHandler.mem_iff_isSome_idAt]
        exact hKey
      have hBefore := h connector
      rw [hNone] at hBefore
      rw [hEq]
      apply h.call
      · intro other hOther
        rw [ReservationHandler.idAt_insert, if_neg hOther]
        rfl
      · rw [ReservationHandler.idAt_insert, if_pos rfl]
        exact hBefore.reserve hHeld hCalls hEvents reservation.reservationId
    · rw [if_neg hNot, hEq]
      exact h.hold fun _ => rfl
  · exact h

/-- What Auth gives up is a reservation that it held, and its EvseManager is called. -/
theorem AllInStep.withdraw (h : s.AllInStep) {handler : ReservationHandler}
    (hSame : ∀ connector, handler.idAt connector = s.heldByAuth connector) (reservationId : ℤ) :
    (s.withdraw (handler.cancelReservation reservationId true)).AllInStep := by
  unfold ReservationSystem.withdraw
  rw [ReservationHandler.callback_cancelReservation]
  by_cases hNone : handler.connectorOf reservationId = -1
  · rw [if_pos hNone]
    apply h.hold
    intro connector
    rw [ReservationHandler.idAt_cancelReservation, hNone, if_neg fun hBoth => hBoth.2 hBoth.1]
    exact hSame connector
  · rw [if_neg hNone]
    apply h.call
    · intro other hOther
      rw [ReservationHandler.idAt_cancelReservation, if_neg fun hBoth => hOther hBoth.1]
      exact hSame other
    · rw [ReservationHandler.idAt_cancelReservation, if_pos ⟨rfl, hNone⟩]
      exact InStep.cancel _ _ _

/-- A reservation that expires keeps all in step. -/
theorem AllInStep.expire (h : s.AllInStep) (connector : ℤ) :
    (s.withdraw (s.auth.reservationHandler.expire connector)).AllInStep := by
  unfold ReservationHandler.expire
  split
  · exact h.hold fun _ => rfl
  · next reservationId _ =>
    have hSame : ∀ other, ReservationHandler.idAt
        { s.auth.reservationHandler with
          timers := s.auth.reservationHandler.timers.erase connector } other =
        s.heldByAuth other := fun _ => rfl
    exact h.withdraw hSame reservationId

/-- A reservation that is cancelled keeps all in step. -/
theorem AllInStep.cancelReservation (h : s.AllInStep) (reservationId : ℤ) :
    (s.cancelReservation reservationId).AllInStep := by
  have hSame : ∀ other, s.auth.reservationHandler.idAt other = s.heldByAuth other := fun _ => rfl
  have hWithdrawn := h.withdraw hSame reservationId
  unfold ReservationSystem.cancelReservation
  dsimp only
  split
  · exact hWithdrawn
  · exact hWithdrawn

/-- A second cancellation keeps all in step where there is nothing left to cancel. -/
theorem AllInStep.secondCancel (h : s.AllInStep) (connector : ℤ)
    (hOk : s.keepsInStep (.secondCancel connector) = true) :
    (s.step (.secondCancel connector)).AllInStep := by
  dsimp only [step]
  split
  · next hMem =>
    have hNone : s.heldByAuth connector = none := by
      simpa only [keepsInStep, hMem, Bool.not_true, Bool.false_or, decide_eq_true_eq] using hOk
    -- Auth calls the EvseManager once more, and holds what it held
    show (({ s with secondCancels := s.secondCancels.erase connector }.hold
      s.auth.reservationHandler).send connector .cancelReservation).AllInStep
    apply AllInStep.call
    · exact h
    · exact fun _ _ => rfl
    · rw [show s.auth.reservationHandler.idAt connector = none from hNone]
      exact InStep.cancel _ _ _
  · exact h

/-- The EvseManager of a connector changes. -/
theorem AllInStep.change (h : s.AllInStep) {connector : ℤ} {calls : List EvseCall}
    (result : Evse × List SessionMessage)
    (hConnector : InStep (s.heldByAuth connector) result.1 calls (s.events connector ++ result.2)) :
    ({ s with calls := Function.update s.calls connector calls }.change connector result).AllInStep := by
  apply h.only connector
  · exact fun _ _ => rfl
  · intro other hOther
    simp [ReservationSystem.change, hOther]
  · intro other hOther
    simp [ReservationSystem.change, hOther]
  · intro other hOther
    simp [ReservationSystem.change, hOther]
  · simp only [ReservationSystem.change, Function.update_self]
    exact hConnector

/-- A call that arrives keeps all in step. -/
theorem AllInStep.callArrives (h : s.AllInStep) (connector : ℤ)
    (hOk : s.keepsInStep (.callArrives connector) = true) :
    (s.step (.callArrives connector)).AllInStep := by
  dsimp only [step]
  split
  · exact h
  · next call calls hCalls =>
    have hBefore := h connector
    rw [hCalls] at hBefore
    apply h.change
    cases call with
    | cancelReservation => exact hBefore.cancelArrives
    | reserve reservationId =>
        apply hBefore.reserveArrives
        simpa [keepsInStep, hCalls, or_assoc] using hOk

/-- An event that arrives keeps all in step. -/
theorem AllInStep.eventArrives (h : s.AllInStep) (connector : ℤ) :
    (s.step (.eventArrives connector)).AllInStep := by
  dsimp only [step]
  split
  · exact h
  · next message events hEvents =>
    have hBefore := h connector
    rw [hEvents] at hBefore
    have hHeld : ∀ other, (s.auth.handleSessionEvent connector message).reservationHandler.idAt
        other = s.heldByAuth other := by
      intro other
      rw [AuthHandler.handleSessionEvent_reservationHandler]
      rfl
    apply h.only connector
    · exact fun other _ => hHeld other
    · exact fun _ _ => rfl
    · exact fun _ _ => rfl
    · intro other hOther
      simp [hOther]
    · show InStep ((s.auth.handleSessionEvent connector message).reservationHandler.idAt connector) _ _ _
      rw [hHeld]
      simpa using hBefore.eventArrives

/-- An event of the charger keeps all in step. -/
theorem AllInStep.chargerEvent (h : s.AllInStep) (connector : ℤ) (message : SessionMessage)
    (hOk : s.keepsInStep (.chargerEvent connector message) = true) :
    (s.step (.chargerEvent connector message)).AllInStep := by
  dsimp only [step]
  split
  · exact h
  · next hMessage =>
    have hNotEnd : message.event ≠ .reservationEnd := by
      intro hEnd
      simp [SessionMessage.isReservation, hEnd] at hMessage
    have hTakes : message.takesReservation = true →
        (s.evses connector).held = none ∨ .cancelReservation ∈ s.calls connector := by
      intro hTakes
      simpa [keepsInStep, hTakes] using hOk
    simpa using h.change _ ((h connector).signals hNotEnd hTakes)

/-- A change of the state of an EVSE keeps all in step. -/
theorem AllInStep.chargerState (h : s.AllInStep) (connector : ℤ) (state : EvseState) :
    (s.step (.chargerState connector state)).AllInStep := by
  have hNext := h.change ({ s.evses connector with state := state }, [])
    ((h connector).chargerState state)
  rw [Function.update_eq_self] at hNext
  exact hNext

/-- Every input that keeps in step does so for all connectors. One case for each input. -/
theorem AllInStep.step (h : s.AllInStep) (input : ReservationInput)
    (hOk : s.keepsInStep input = true) : (s.step input).AllInStep := by
  cases input with
  | reserveNow now connector reservation => exact h.reserveNow now connector reservation hOk
  | cancelReservation reservationId => exact h.cancelReservation reservationId
  | secondCancel connector => exact h.secondCancel connector hOk
  | expire connector => exact h.expire connector
  | callArrives connector => exact h.callArrives connector hOk
  | eventArrives connector => exact h.eventArrives connector
  | chargerState connector state => exact h.chargerState connector state
  | chargerEvent connector message => exact h.chargerEvent connector message hOk

/-- While all are in step, an end of a reservation is told only where one has ended. -/
theorem AllInStep.endsTruly (h : s.AllInStep) (input : ReservationInput) : s.EndsTruly input := by
  cases input with
  | eventArrives connector =>
      intro hEnd
      rw [heldByAuth_eventArrives]
      by_contra hHeld
      have hEvents := ((h connector).noEnd (Option.isSome_iff_ne_none.mpr hHeld)).2
      obtain ⟨message, hHead, hEvent⟩ := (Option.any_eq_true _ _).mp hEnd
      exact hEvents message (List.mem_of_mem_head? hHead) (of_decide_eq_true hEvent)
  | _ => trivial

/-- In a run whose steps do not part them, Auth and the EvseManagers agree about the
reservations, and the end of a reservation is delivered when Auth holds none. -/
theorem reservations_agree (config : AuthConfig) (inputs : List ReservationInput)
    (hOk : EveryStep ReservationSystem.step (fun s input => s.keepsInStep input = true)
      (start config) inputs) :
    (run ReservationSystem.step (start config) inputs).Agrees ∧
      EveryStep ReservationSystem.step EndsTruly (start config) inputs := by
  have hStart : (start config).AllInStep := fun connector => ⟨rfl, nofun⟩
  constructor
  · exact (run_invariant_of_everyStep AllInStep hStart (fun s input h => h.step input)
      inputs hOk).agrees
  · exact everyStep_of_invariant AllInStep hStart (fun s input h => h.step input)
      (fun s input h _ => h.endsTruly input) inputs hOk

/-- A reservation is cancelled, and the connector is reserved again when everything about
the first reservation has been delivered. -/
theorem reservations_agree_one_after_the_other :
    let inputs : List ReservationInput :=
      [.reserveNow 0 1 { reservationId := 5, idToken := "TAG", expiryTime := 60 },
        .callArrives 1, .eventArrives 1, .cancelReservation 5, .callArrives 1, .secondCancel 1,
        .callArrives 1, .eventArrives 1,
        .reserveNow 0 1 { reservationId := 6, idToken := "TAG", expiryTime := 60 },
        .callArrives 1, .eventArrives 1]
    EveryStep ReservationSystem.step (fun s input => s.keepsInStep input = true)
        (start .oneConnector) inputs ∧
      (run ReservationSystem.step (start .oneConnector) inputs).Agrees ∧
      EveryStep ReservationSystem.step EndsTruly (start .oneConnector) inputs := by
  intro inputs
  have hOk : EveryStep ReservationSystem.step (fun s input => s.keepsInStep input = true)
      (start .oneConnector) inputs := by decide
  exact ⟨hOk, reservations_agree .oneConnector inputs hOk⟩

instance (s : ReservationSystem) (input : ReservationInput) : Decidable (s.EndsTruly input) :=
  match input with
  | .eventArrives _ => inferInstanceAs (Decidable (_ = true → _ = none))
  | .reserveNow _ _ _ | .cancelReservation _ | .secondCancel _ | .expire _ | .callArrives _
  | .chargerState _ _ | .chargerEvent _ _ => inferInstanceAs (Decidable True)

/-- A car is plugged in, which Auth does not know yet when it accepts a reservation. And a
connector is disabled while it is reserved: Auth learns of the end of the reservation,
and keeps it. -/
theorem reservations_disagree :
    (¬ (run ReservationSystem.step (start .oneConnector)
      [.chargerState 1 .waitingForAuthentication,
        .reserveNow 0 1 { reservationId := 5, idToken := "TAG", expiryTime := 60 },
        .callArrives 1]).Agrees) ∧
    ¬ EveryStep ReservationSystem.step EndsTruly (start .oneConnector)
      [.reserveNow 0 1 { reservationId := 5, idToken := "TAG", expiryTime := 60 },
        .callArrives 1, .eventArrives 1, .chargerEvent 1 { event := .disabled },
        .eventArrives 1] := by
  constructor
  · intro h
    have hReserved := (h 1 (by decide) (by decide) 5).mpr (by decide)
    exact absurd hReserved.1 (by decide)
  · decide

end ReservationSystem

end EverestCore.Auth
