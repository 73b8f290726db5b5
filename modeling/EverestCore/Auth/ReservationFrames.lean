import EverestCore.Auth.ReservationHandler

/-! What the operations that end a reservation leave alone. All of them look for the connector
by the reservation id, so that it takes two connectors with one id to end the wrong one. -/
namespace EverestCore.Auth
open EverestCore.Machine Std

namespace ReservationHandler

variable {handler : ReservationHandler} {connector reservationId : ℤ}

/-- The entry of a connector is removed and its timer is stopped, and nothing else changes. -/
def RemovesOnly (handler after : ReservationHandler) (connector : ℤ) : Prop :=
  ∀ other,
    after.reservations[other]? =
        (if other = connector then none else handler.reservations[other]?) ∧
      after.timers[other]? = if other = connector then none else handler.timers[other]?

/-- A cancellation removes the entry of the connector that it returns, which has the id, or
there is none and nothing changes. -/
def CancelsOnly (handler : ReservationHandler) (reservationId : ℤ) (result : Cancellation) : Prop :=
  handler.idAt result.connector = some reservationId ∧
      RemovesOnly handler result.handler result.connector ∨
    (∀ connector, handler.idAt connector ≠ some reservationId) ∧ result.connector = -1 ∧
      result.handler = handler

theorem idAt_eq_none_iff : handler.idAt connector = none ↔
    handler.reservations[connector]? = none :=
  Option.map_eq_none_iff

theorem RemovesOnly.idAt_eq_none {after : ReservationHandler}
    (h : RemovesOnly handler after connector) : after.idAt connector = none := by
  rw [idAt_eq_none_iff, (h connector).1, if_pos rfl]

/-- A cancellation finds the last connector with the id and removes just that. -/
theorem removesOnly_cancelReservation (executeCallback : Bool)
    (hFound : handler.connectorOf reservationId = connector) (hConnector : connector ≠ -1) :
    RemovesOnly handler (handler.cancelReservation reservationId executeCallback).handler
      connector := by
  subst hFound
  intro other
  unfold cancelReservation
  dsimp only
  rw [if_neg hConnector]
  dsimp only
  rw [TreeMap.getElem?_erase, TreeMap.getElem?_erase]
  by_cases hOther : other = handler.connectorOf reservationId
  · simp [hOther]
  · simp [hOther, Ne.symm hOther]

/-- The entry that `operator[]` creates is gone again with the connector. -/
theorem RemovesOnly.of_touch {after : ReservationHandler}
    (h : RemovesOnly (handler.touch connector) after connector) :
    RemovesOnly handler after connector := by
  intro other
  obtain ⟨hEntry, hTimer⟩ := h other
  refine ⟨hEntry.trans ?_, hTimer⟩
  by_cases hOther : other = connector
  · rw [if_pos hOther, if_pos hOther]
  · rw [if_neg hOther, if_neg hOther, touch, TreeMap.getElem?_insertIfNew]
    simp [Ne.symm hOther]

theorem isLast_touch_iff :
    (handler.touch connector).IsLast reservationId connector ↔
      handler.IsLast reservationId connector := by
  unfold IsLast
  refine and_congr_right fun _ => forall_congr' fun other => ?_
  rw [idAt_touch]
  by_cases hNew : other = connector ∧ handler.idAt connector = none
  · simp [hNew]
  · rw [if_neg hNew]

/-- A use ends the reservation of its connector exactly if no connector behind it has the
same id. -/
theorem onReservationUsed_removesOnly_iff (handler : ReservationHandler) (connector : ℤ) :
    RemovesOnly handler (handler.onReservationUsed connector).handler connector ↔
      handler.IsLast (handler.entry connector).reservationId connector := by
  rw [← isLast_touch_iff]
  constructor
  · intro hRemoves
    exact isLast_of_freed idAt_touch_self hRemoves.idAt_eq_none
  · intro hLast
    exact (removesOnly_cancelReservation false (connectorOf_eq_of_isLast idAt_touch_self hLast)
      hLast.1).of_touch

/-- The timer of a connector removes no more than the reservation of this connector, exactly if no
later connector holds the same id. -/
theorem expire_removesOnly_iff (handler : ReservationHandler) (connector reservationId : ℤ)
    (hTimer : handler.timers[connector]? = some reservationId)
    (hId : handler.idAt connector = some reservationId) :
    RemovesOnly handler (handler.expire connector).handler connector ↔
      handler.IsLast reservationId connector := by
  -- The timer that fires is not pending any more, and the entries are as before.
  let fired : ReservationHandler := { handler with timers := handler.timers.erase connector }
  have hFiredId : fired.idAt connector = some reservationId := hId
  rw [expire, hTimer]
  constructor
  · intro hRemoves
    have hLast : fired.IsLast reservationId connector :=
      isLast_of_freed hFiredId hRemoves.idAt_eq_none
    exact hLast
  · intro hLast
    have hRemoves : RemovesOnly fired (fired.cancelReservation reservationId true).handler
        connector :=
      removesOnly_cancelReservation true (connectorOf_eq_of_isLast hFiredId hLast) hLast.1
    intro other
    obtain ⟨hEntry, hStopped⟩ := hRemoves other
    refine ⟨hEntry, hStopped.trans ?_⟩
    by_cases hOther : other = connector
    · rw [if_pos hOther, if_pos hOther]
    · rw [if_neg hOther, if_neg hOther]
      simp [fired, TreeMap.getElem?_erase, Ne.symm hOther]

/-- A cancellation of the id finds nothing. The connector -1 stands for none. -/
def Unknown (handler : ReservationHandler) (reservationId : ℤ) : Prop :=
  ∀ connector, handler.idAt connector = some reservationId →
    connector ≤ -1 ∧ handler.idAt (-1) = some reservationId

theorem connectorOf_eq_neg_one_iff :
    handler.connectorOf reservationId = -1 ↔ handler.Unknown reservationId := by
  rcases connectorOf_spec handler reservationId with ⟨hNone, hFound⟩ | ⟨hId, hMax⟩
  · exact ⟨fun _ connector hConnector => absurd hConnector (hNone connector), fun _ => hFound⟩
  · constructor
    · intro hFound
      rw [hFound] at hId hMax
      exact fun connector hConnector => ⟨hMax connector hConnector, hId⟩
    · intro hUnknown
      obtain ⟨hBelow, hAt⟩ := hUnknown _ hId
      exact Int.le_antisymm hBelow (hMax _ hAt)

/-- A cancellation by id does what it should, unless the connector -1 is the last one with
the id. -/
theorem cancelReservation_cancelsOnly_iff (handler : ReservationHandler) (reservationId : ℤ)
    (executeCallback : Bool) :
    CancelsOnly handler reservationId (handler.cancelReservation reservationId executeCallback) ↔
      (handler.idAt (-1) = some reservationId →
        ∃ connector, -1 < connector ∧ handler.idAt connector = some reservationId) := by
  by_cases hFound : handler.connectorOf reservationId = -1
  · have hUnchanged : handler.cancelReservation reservationId executeCallback =
        ⟨handler, -1, none⟩ := by
      rw [cancelReservation, hFound]
      rfl
    have hUnknown := connectorOf_eq_neg_one_iff.1 hFound
    rw [hUnchanged]
    constructor
    · rintro (⟨hId, hRemoves⟩ | ⟨hNone, -, -⟩) hAt
      · cases hRemoves.idAt_eq_none.symm.trans hId
      · exact absurd hAt (hNone (-1))
    · intro hOther
      refine .inr ⟨fun connector hConnector => ?_, rfl, rfl⟩
      obtain ⟨behind, hBehind, hId⟩ := hOther (hUnknown connector hConnector).2
      exact absurd hBehind (Int.not_lt.2 (hUnknown behind hId).1)
  · rcases connectorOf_spec handler reservationId with ⟨-, hNone⟩ | ⟨hId, hMax⟩
    · exact absurd hNone hFound
    · have hReturned : (handler.cancelReservation reservationId executeCallback).connector =
          handler.connectorOf reservationId := by
        rw [cancelReservation, if_neg hFound]
      refine iff_of_true (.inl ?_) fun hAt => ⟨_, ?_, hId⟩
      · rw [hReturned]
        exact ⟨hId, removesOnly_cancelReservation executeCallback rfl hFound⟩
      · exact Int.lt_iff_le_and_ne.mpr ⟨hMax _ hAt, Ne.symm hFound⟩

/-- What each operation leaves alone, in every store. -/
theorem reservations_frame_iff (handler : ReservationHandler) (connector reservationId : ℤ)
    (executeCallback : Bool) :
    (RemovesOnly handler (handler.onReservationUsed connector).handler connector ↔
        handler.IsLast (handler.entry connector).reservationId connector) ∧
      (handler.timers[connector]? = some reservationId →
        handler.idAt connector = some reservationId →
          (RemovesOnly handler (handler.expire connector).handler connector ↔
            handler.IsLast reservationId connector)) ∧
      (CancelsOnly handler reservationId
          (handler.cancelReservation reservationId executeCallback) ↔
        (handler.idAt (-1) = some reservationId →
          ∃ connector, -1 < connector ∧ handler.idAt connector = some reservationId)) :=
  ⟨onReservationUsed_removesOnly_iff handler connector,
    expire_removesOnly_iff handler connector reservationId,
    cancelReservation_cancelsOnly_iff handler reservationId executeCallback⟩

/-- Two connectors with one id: the use of the first ends the reservation of the second. -/
theorem use_ends_other_reservation :
    ¬RemovesOnly
      (run ReservationHandler.call {}
        [.reserve 0 1 .available true { reservationId := 5, idToken := "TAG", expiryTime := 60 },
          .reserve 0 2 .available true { reservationId := 5, idToken := "CAR", expiryTime := 60 }])
      (run ReservationHandler.call {}
        [.reserve 0 1 .available true { reservationId := 5, idToken := "TAG", expiryTime := 60 },
          .reserve 0 2 .available true { reservationId := 5, idToken := "CAR", expiryTime := 60 },
          .onReservationUsed 1]) 1 := by
  intro h
  exact absurd (h 1).1 (by decide)

end ReservationHandler

end EverestCore.Auth
