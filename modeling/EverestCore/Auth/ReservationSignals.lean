import EverestCore.Auth.ReservationFrames

/-! Who hears that a reservation was cancelled. The handler of the reservations signals it
itself, and the command for it once more. -/
namespace EverestCore.Auth
open EverestCore.Machine Std

/-- The commands of the reservation interface, and the timers. -/
inductive ReservationCommand where
  | reserveNow (now connector : ℤ) (state : ConnectorState) (isReservable : Bool)
      (reservation : Reservation)
  | cancelReservation (reservationId : ℤ)
  | expire (connector : ℤ)
  deriving DecidableEq, Repr

/-- The reservations, and the connectors for which `reservation_cancelled_callback` was
called, in their order. -/
structure SignalledReservations where
  handler : ReservationHandler := {}
  signalled : List ℤ := []

namespace SignalledReservations

variable (s : SignalledReservations)

/-- `call_reservation_cancelled`. -/
def callReservationCancelled (connector : ℤ) : SignalledReservations :=
  { s with signalled := s.signalled ++ [connector] }

/-- What is left after `cancel_reservation`, with its callback. -/
def afterwards (cancellation : Cancellation) : SignalledReservations where
  handler := cancellation.handler
  signalled := s.signalled ++ cancellation.callback.toList

/-- `reservationImpl::handle_reserve_now`. -/
def handleReserveNow (now connector : ℤ) (state : ConnectorState) (isReservable : Bool)
    (reservation : Reservation) : SignalledReservations × ReservationResult :=
  let (handler, result) := s.handler.reserve now connector state isReservable reservation
  ({ s with handler := handler }, result)

/-- `reservationImpl::handle_cancel_reservation`. -/
def handleCancelReservation (reservationId : ℤ) : SignalledReservations × Bool :=
  let cancellation := s.handler.cancelReservation reservationId true
  if cancellation.connector ≠ -1 then
    ((s.afterwards cancellation).callReservationCancelled cancellation.connector, true)
  else (s.afterwards cancellation, false)

def step : ReservationCommand → SignalledReservations
  | .reserveNow now connector state isReservable reservation =>
      (s.handleReserveNow now connector state isReservable reservation).1
  | .cancelReservation reservationId => (s.handleCancelReservation reservationId).1
  | .expire connector => s.afterwards (s.handler.expire connector)

/-- A connector loses its reservation. -/
def Removes (before after : SignalledReservations) (connector : ℤ) : Prop :=
  connector ∈ before.handler.reservations ∧ connector ∉ after.handler.reservations

instance (before after : SignalledReservations) (connector : ℤ) :
    Decidable (Removes before after connector) := inferInstanceAs (Decidable (_ ∧ _))

/-- The callback is called once for each connector that loses its reservation, and for no
other. -/
def SignalledOnce (command : ReservationCommand) : Prop :=
  ∀ connector, (s.step command).signalled.count connector =
    s.signalled.count connector + if Removes s (s.step command) connector then 1 else 0

/-- A command to cancel is for an id that nobody has reserved with. -/
def CancelsUnknown : ReservationCommand → Prop
  | .cancelReservation reservationId => s.handler.Unknown reservationId
  | _ => True

end SignalledReservations

namespace ReservationHandler

variable (handler : ReservationHandler) (reservationId : ℤ)

/-- A cancellation takes the reservation of the connector that it finds. -/
theorem mem_cancelReservation_iff (executeCallback : Bool) (connector : ℤ) :
    connector ∈ handler.reservations ∧
        connector ∉ (handler.cancelReservation reservationId executeCallback).handler.reservations ↔
      connector = handler.connectorOf reservationId ∧ connector ≠ -1 := by
  rw [mem_iff_isSome_idAt, mem_iff_isSome_idAt, idAt_cancelReservation]
  constructor
  · rintro ⟨hBefore, hAfter⟩
    by_contra hOther
    rw [if_neg hOther] at hAfter
    exact hAfter hBefore
  · rintro ⟨rfl, hConnector⟩
    rw [if_pos ⟨rfl, hConnector⟩]
    refine ⟨?_, by simp⟩
    rcases connectorOf_spec handler reservationId with ⟨-, hNone⟩ | ⟨hId, -⟩
    · exact absurd hNone hConnector
    · rw [hId]
      rfl

/-- Its callback is called for just that connector. -/
theorem count_callback_cancelReservation (connector : ℤ) :
    (handler.cancelReservation reservationId true).callback.toList.count connector =
      if connector = handler.connectorOf reservationId ∧ connector ≠ -1 then 1 else 0 := by
  rw [callback_cancelReservation]
  by_cases hFound : handler.connectorOf reservationId = -1
  · rw [if_pos hFound, if_neg]
    · rfl
    · rintro ⟨hConnector, hSome⟩
      exact hSome (hConnector.trans hFound)
  · rw [if_neg hFound, Option.toList_some, List.count_singleton]
    by_cases hConnector : connector = handler.connectorOf reservationId
    · subst hConnector
      simp [hFound]
    · simp [hConnector, Ne.symm hConnector]

end ReservationHandler

namespace SignalledReservations

variable (s : SignalledReservations)

/-- A new reservation takes none away. -/
theorem signalledOnce_reserveNow (now connector : ℤ) (state : ConnectorState)
    (isReservable : Bool) (reservation : Reservation) :
    s.SignalledOnce (.reserveNow now connector state isReservable reservation) := by
  intro other
  have hKept : ¬Removes s (s.step (.reserveNow now connector state isReservable reservation))
      other := by
    rintro ⟨hBefore, hAfter⟩
    apply hAfter
    show other ∈ (s.handler.reserve now connector state isReservable reservation).1.reservations
    rcases ReservationHandler.reserve_cases s.handler now connector state isReservable reservation
      with ⟨-, hEq⟩ | ⟨hEq, -⟩
    · rw [hEq]
      exact TreeMap.mem_insert.2 (.inr hBefore)
    · rwa [hEq]
  rw [if_neg hKept]
  rfl

/-- A cancellation with its callback signals what it takes away. -/
theorem count_afterwards (handler : ReservationHandler) (reservationId connector : ℤ) :
    (s.afterwards (handler.cancelReservation reservationId true)).signalled.count connector =
      s.signalled.count connector +
        if connector ∈ handler.reservations ∧ connector ∉
          (handler.cancelReservation reservationId true).handler.reservations then 1 else 0 := by
  rw [afterwards, List.count_append, handler.count_callback_cancelReservation]
  simp only [handler.mem_cancelReservation_iff]

theorem count_callReservationCancelled (connector : ℤ) :
    (s.callReservationCancelled connector).signalled.count connector =
      s.signalled.count connector + 1 := by
  rw [callReservationCancelled, List.count_append, List.count_singleton_self]

/-- A timer signals once what it takes away, whichever connector that is. -/
theorem signalledOnce_expire (connector : ℤ) : s.SignalledOnce (.expire connector) := by
  intro other
  show (s.afterwards (s.handler.expire connector)).signalled.count other = _ +
    if other ∈ s.handler.reservations ∧
      other ∉ (s.handler.expire connector).handler.reservations then 1 else 0
  unfold ReservationHandler.expire
  cases s.handler.timers[connector]? with
  | none =>
      rw [if_neg fun hBoth => hBoth.2 hBoth.1]
      simp [afterwards]
  | some reservationId => exact s.count_afterwards _ reservationId other

/-- The command signals twice what it takes away. -/
theorem signalledOnce_cancelReservation_iff (reservationId : ℤ) :
    s.SignalledOnce (.cancelReservation reservationId) ↔ s.handler.Unknown reservationId := by
  rw [← ReservationHandler.connectorOf_eq_neg_one_iff]
  let cancellation := s.handler.cancelReservation reservationId true
  have hConnector : cancellation.connector = s.handler.connectorOf reservationId := by
    show (s.handler.cancelReservation reservationId true).connector = _
    rw [ReservationHandler.cancelReservation]
    split <;> rfl
  by_cases hFound : s.handler.connectorOf reservationId = -1
  · refine iff_of_true (fun connector => ?_) hFound
    have hStep : s.step (.cancelReservation reservationId) = s.afterwards cancellation := by
      rw [step, handleCancelReservation, if_neg]
      exact not_not.2 (hConnector.trans hFound)
    rw [hStep]
    exact s.count_afterwards s.handler reservationId connector
  · refine iff_of_false (fun hOnce => ?_) hFound
    have hStep : s.step (.cancelReservation reservationId) =
        (s.afterwards cancellation).callReservationCancelled
          (s.handler.connectorOf reservationId) := by
      rw [step, handleCancelReservation, if_pos (hConnector.trans_ne hFound)]
      exact congrArg (s.afterwards cancellation).callReservationCancelled hConnector
    have hCount := hOnce (s.handler.connectorOf reservationId)
    have hTaken :=
      (s.handler.mem_cancelReservation_iff reservationId true _).2 ⟨rfl, hFound⟩
    have hRemoves : Removes s ((s.afterwards cancellation).callReservationCancelled
        (s.handler.connectorOf reservationId)) (s.handler.connectorOf reservationId) := hTaken
    -- What was taken away is counted in `afterwards` already.
    rw [hStep, count_callReservationCancelled, s.count_afterwards, if_pos hTaken,
      if_pos hRemoves] at hCount
    omega

/-- Each cancelled reservation is signalled once along a sequence of commands exactly if no
command to cancel in it finds a reservation. -/
theorem signalledOnce_iff_cancelsUnknown (commands : List ReservationCommand) :
    EveryStep step SignalledOnce {} commands ↔ EveryStep step CancelsUnknown {} commands := by
  refine eachAfter_congr fun before command _ => ?_
  cases command with
  | reserveNow now connector state isReservable reservation =>
      exact iff_of_true (signalledOnce_reserveNow _ _ _ _ _ _) trivial
  | cancelReservation reservationId => exact signalledOnce_cancelReservation_iff _ reservationId
  | expire connector => exact iff_of_true (signalledOnce_expire _ connector) trivial

/-- A reservation with the id 5 is made and cancelled. -/
theorem cancellation_is_signalled_twice :
    ¬EveryStep step SignalledOnce {}
      [.reserveNow 0 1 .available true { reservationId := 5, idToken := "TAG", expiryTime := 60 },
        .cancelReservation 5] := by
  intro hOnce
  have hLast := ((everyStep_snoc step SignalledOnce {} [_] _).1 hOnce).2 1
  exact absurd hLast (by decide)

end SignalledReservations

end EverestCore.Auth
