import EverestCore.Auth.Connector

/-! The reservations that the Auth module holds, one at most for every connector. They
are stored by connector and cancelled by reservation id, and both ways of looking an
entry up with `operator[]` create it when it is not there. -/
namespace EverestCore.Auth
open EverestCore.Machine Std

/-- A value-initialised entry of the map has the defaults given here. Points of time
are counted from an arbitrary one. -/
structure Reservation where
  reservationId : ℤ := 0
  idToken : String := ""
  expiryTime : ℤ := 0
  parentIdToken : Option String := none
  deriving DecidableEq, Repr

inductive ReservationResult where
  | accepted
  | faulted
  | occupied
  | rejected
  | unavailable
  deriving DecidableEq, Repr

structure ReservationHandler where
  reservations : TreeMap ℤ Reservation := ∅
  /-- The pending timers, with the reservation id that each of them is going to cancel. -/
  timers : TreeMap ℤ ℤ := ∅

/-- What `cancel_reservation` leaves behind and returns, and the connector for which it
has called `reservation_cancelled_callback`. -/
structure Cancellation where
  handler : ReservationHandler
  connector : ℤ
  callback : Option ℤ

namespace ReservationHandler

variable (handler : ReservationHandler)

/-- `reservations[connector]` as a statement. -/
def touch (connector : ℤ) : ReservationHandler :=
  { handler with reservations := handler.reservations.insertIfNew connector {} }

/-- The value that `reservations[connector]` refers to. -/
def entry (connector : ℤ) : Reservation :=
  handler.reservations[connector]?.getD {}

def matchesReservedIdentifier (connector : ℤ) (idToken : String) (parentIdToken : Option String) :
    ReservationHandler × Bool :=
  let entry := handler.entry connector
  (handler.touch connector, entry.idToken == idToken ||
    (parentIdToken.isSome && entry.parentIdToken.isSome && parentIdToken == entry.parentIdToken))

def reserve (now connector : ℤ) (state : ConnectorState) (isReservable : Bool)
    (reservation : Reservation) : ReservationHandler × ReservationResult :=
  if state = .unavailable then (handler, .unavailable)
  else if state = .faulted then (handler, .faulted)
  else if reservation.expiryTime < now then (handler, .rejected)
  else if !isReservable then (handler, .occupied)
  else if connector ∈ handler.reservations then (handler, .occupied)
  else
    ({ reservations := handler.reservations.insert connector reservation
       timers := handler.timers.insert connector reservation.reservationId }, .accepted)

/-- The loop of `cancel_reservation`: the last connector of the map that has the id. -/
def connectorOf (reservationId : ℤ) : ℤ :=
  handler.reservations.toList.foldl
    (fun found entry => if entry.2.reservationId = reservationId then entry.1 else found) (-1)

def cancelReservation (reservationId : ℤ) (executeCallback : Bool) : Cancellation :=
  let connector := handler.connectorOf reservationId
  if connector = -1 then ⟨handler, connector, none⟩
  else
    ⟨{ reservations := handler.reservations.erase connector
       timers := handler.timers.erase connector }, connector,
      if executeCallback then some connector else none⟩

def onReservationUsed (connector : ℤ) : Cancellation :=
  (handler.touch connector).cancelReservation (handler.entry connector).reservationId false

/-- The timer of a connector fires, if it is pending. -/
def expire (connector : ℤ) : Cancellation :=
  match handler.timers[connector]? with
  | none => ⟨handler, -1, none⟩
  | some reservationId =>
      { handler with timers := handler.timers.erase connector }.cancelReservation reservationId true

end ReservationHandler

/-- The ways in which the reservations are used. -/
inductive ReservationCall where
  | reserve (now connector : ℤ) (state : ConnectorState) (isReservable : Bool)
      (reservation : Reservation)
  | cancelReservation (reservationId : ℤ) (executeCallback : Bool)
  | expire (connector : ℤ)
  | matchesReservedIdentifier (connector : ℤ) (idToken : String) (parentIdToken : Option String)
  | onReservationUsed (connector : ℤ)
  deriving DecidableEq, Repr

def ReservationHandler.call (handler : ReservationHandler) : ReservationCall → ReservationHandler
  | .reserve now connector state isReservable reservation =>
      (handler.reserve now connector state isReservable reservation).1
  | .cancelReservation reservationId executeCallback =>
      (handler.cancelReservation reservationId executeCallback).handler
  | .expire connector => (handler.expire connector).handler
  | .matchesReservedIdentifier connector idToken parentIdToken =>
      (handler.matchesReservedIdentifier connector idToken parentIdToken).1
  | .onReservationUsed connector => (handler.onReservationUsed connector).handler

/-- The reservations that were accepted and that nothing has ended since, by connector. -/
abbrev LiveReservations := ℤ → Option ℤ

/-- What a call means for the reservations. A cancellation ends those with its id, a
timer that fires and a use end the one of their connector. -/
def LiveReservations.note (handler : ReservationHandler) (sent : ReservationCall)
    (live : LiveReservations) : LiveReservations :=
  match sent with
  | .reserve now connector state isReservable reservation =>
      if (handler.reserve now connector state isReservable reservation).2 = .accepted then
        Function.update live connector (some reservation.reservationId)
      else live
  | .cancelReservation reservationId _ =>
      fun connector => if live connector = some reservationId then none else live connector
  | .expire connector =>
      if connector ∈ handler.timers then Function.update live connector none else live
  | .matchesReservedIdentifier _ _ _ => live
  | .onReservationUsed connector => Function.update live connector none

/-- The handler beside the reservations that are live. -/
def reservationRun (calls : List ReservationCall) : ReservationHandler × LiveReservations :=
  run (watch ReservationHandler.call LiveReservations.note) ({}, fun _ => none) calls

/-- The keys of the map are the connectors with a live reservation, and a reservation
that nothing else speaks against is accepted exactly on the others. -/
structure ExactReservations (now : ReservationHandler × LiveReservations) : Prop where
  keys : ∀ connector, connector ∈ now.1.reservations ↔ (now.2 connector).isSome = true
  accepts : ∀ time connector reservation, time ≤ reservation.expiryTime →
    ((now.1.reserve time connector .available true reservation).2 = .accepted ↔
      now.2 connector = none)

namespace ReservationHandler

variable {handler : ReservationHandler} {connector reservationId : ℤ}

/-- The reservation id that is stored for a connector. -/
def idAt (handler : ReservationHandler) (connector : ℤ) : Option ℤ :=
  handler.reservations[connector]?.map Reservation.reservationId

theorem mem_iff_isSome_idAt : connector ∈ handler.reservations ↔
    (handler.idAt connector).isSome = true := by
  rw [TreeMap.mem_iff_isSome_getElem?, idAt, Option.isSome_map]

theorem idAt_touch (other : ℤ) : (handler.touch connector).idAt other =
    if other = connector ∧ handler.idAt connector = none then some 0 else handler.idAt other := by
  by_cases hOther : other = connector
  · subst hOther
    unfold idAt touch
    rw [TreeMap.getElem?_insertIfNew]
    cases hEntry : handler.reservations[other]? <;>
      simp [TreeMap.mem_iff_isSome_getElem?, hEntry]
  · simp [idAt, touch, TreeMap.getElem?_insertIfNew, hOther, Ne.symm hOther]

theorem idAt_touch_self :
    (handler.touch connector).idAt connector = some (handler.entry connector).reservationId := by
  rw [idAt_touch]
  cases hEntry : handler.reservations[connector]? <;> simp [idAt, entry, hEntry]

/-- The last entry that meets a condition in a list sorted by key. -/
theorem foldl_last_spec {Value : Type} (good : Value → Prop) [DecidablePred good]
    (entries : List (ℤ × Value)) (hSorted : entries.Pairwise fun first second => first.1 < second.1) :
    ((∀ entry ∈ entries, ¬ good entry.2) ∧
      entries.foldl (fun found entry => if good entry.2 then entry.1 else found) (-1) = -1) ∨
    ∃ last ∈ entries, good last.2 ∧ (∀ entry ∈ entries, good entry.2 → entry.1 ≤ last.1) ∧
      entries.foldl (fun found entry => if good entry.2 then entry.1 else found) (-1) = last.1 := by
  induction entries using List.reverseRecOn with
  | nil => exact Or.inl ⟨by simp, rfl⟩
  | append_singleton entries entry ih =>
      rw [List.pairwise_append] at hSorted
      obtain ⟨hFront, -, hBelow⟩ := hSorted
      rw [List.foldl_concat]
      by_cases hGood : good entry.2
      · refine Or.inr ⟨entry, by simp, hGood, ?_, if_pos hGood⟩
        intro other hOther _
        rcases List.mem_append.mp hOther with hOther | hOther
        · exact Int.le_of_lt (hBelow other hOther entry (by simp))
        · exact Int.le_of_eq (congrArg Prod.fst (List.mem_singleton.mp hOther))
      · rw [if_neg hGood]
        rcases ih hFront with ⟨hNone, hFold⟩ | ⟨last, hLast, hMeets, hMax, hFold⟩
        · refine Or.inl ⟨?_, hFold⟩
          simpa [or_imp, forall_and] using ⟨fun key value => hNone (key, value), hGood⟩
        · refine Or.inr ⟨last, by simp [hLast], hMeets, ?_, hFold⟩
          intro other hOther hMeetsOther
          rcases List.mem_append.mp hOther with hOther | hOther
          · exact hMax other hOther hMeetsOther
          · exact absurd (List.mem_singleton.mp hOther ▸ hMeetsOther) hGood

theorem idAt_eq_some_iff : handler.idAt connector = some reservationId ↔
    ∃ reservation, (connector, reservation) ∈ handler.reservations.toList ∧
      reservation.reservationId = reservationId := by
  simp [idAt, TreeMap.mem_toList_iff_getElem?_eq_some]

theorem connectorOf_spec (handler : ReservationHandler) (reservationId : ℤ) :
    ((∀ connector, handler.idAt connector ≠ some reservationId) ∧
      handler.connectorOf reservationId = -1) ∨
    handler.idAt (handler.connectorOf reservationId) = some reservationId ∧
      ∀ connector, handler.idAt connector = some reservationId →
        connector ≤ handler.connectorOf reservationId := by
  have hSorted : handler.reservations.toList.Pairwise fun first second => first.1 < second.1 := by
    simpa [Std.compare_eq_lt] using TreeMap.ordered_keys_toList (t := handler.reservations)
  rcases foldl_last_spec (fun reservation => reservation.reservationId = reservationId) _ hSorted with
    ⟨hNone, hFold⟩ | ⟨last, hLast, hMeets, hMax, hFold⟩
  · refine Or.inl ⟨?_, hFold⟩
    intro connector hConnector
    obtain ⟨reservation, hMem, hId⟩ := idAt_eq_some_iff.mp hConnector
    exact hNone _ hMem hId
  · refine Or.inr ?_
    have hFound : handler.connectorOf reservationId = last.1 := hFold
    rw [hFound]
    refine ⟨idAt_eq_some_iff.mpr ⟨last.2, hLast, hMeets⟩, ?_⟩
    intro connector hConnector
    obtain ⟨reservation, hMem, hId⟩ := idAt_eq_some_iff.mp hConnector
    exact hMax _ hMem hId

/-- A cancellation takes away what is stored for the last connector with the id. The
connector -1 stands for none and is never freed. -/
theorem idAt_cancelReservation (executeCallback : Bool) (other : ℤ) :
    (handler.cancelReservation reservationId executeCallback).handler.idAt other =
      if other = handler.connectorOf reservationId ∧ other ≠ -1 then none
      else handler.idAt other := by
  unfold cancelReservation
  by_cases hNone : handler.connectorOf reservationId = -1
  · simp [hNone]
  · by_cases hOther : other = handler.connectorOf reservationId
    · simp [hOther, hNone, idAt]
    · simp [hOther, Ne.symm hOther, hNone, idAt, TreeMap.getElem?_erase]

theorem timers_cancelReservation (executeCallback : Bool) (other : ℤ) :
    (handler.cancelReservation reservationId executeCallback).handler.timers[other]? =
      if other = handler.connectorOf reservationId ∧ other ≠ -1 then none
      else handler.timers[other]? := by
  unfold cancelReservation
  by_cases hNone : handler.connectorOf reservationId = -1
  · simp [hNone]
  · by_cases hOther : other = handler.connectorOf reservationId
    · simp [hOther, hNone]
    · simp [hOther, Ne.symm hOther, hNone, TreeMap.getElem?_erase]

/-- The callback is called for the connector that is freed. -/
theorem callback_cancelReservation : (handler.cancelReservation reservationId true).callback =
    if handler.connectorOf reservationId = -1 then none
    else some (handler.connectorOf reservationId) := by
  unfold cancelReservation
  dsimp only
  split <;> rfl

/-- No connector behind this one has the id, so a cancellation of the id frees this one. -/
def IsLast (handler : ReservationHandler) (reservationId connector : ℤ) : Prop :=
  connector ≠ -1 ∧ ∀ other, handler.idAt other = some reservationId → other ≤ connector

theorem connectorOf_eq_of_isLast (hId : handler.idAt connector = some reservationId)
    (hLast : handler.IsLast reservationId connector) :
    handler.connectorOf reservationId = connector := by
  rcases connectorOf_spec handler reservationId with ⟨hNone, -⟩ | ⟨hFound, hMax⟩
  · exact absurd hId (hNone connector)
  · exact Int.le_antisymm (hLast.2 _ hFound) (hMax _ hId)

theorem idAt_cancelReservation_of_isLast (executeCallback : Bool)
    (hId : handler.idAt connector = some reservationId)
    (hLast : handler.IsLast reservationId connector) (other : ℤ) :
    (handler.cancelReservation reservationId executeCallback).handler.idAt other =
      if other = connector then none else handler.idAt other := by
  rw [idAt_cancelReservation, connectorOf_eq_of_isLast hId hLast]
  by_cases hOther : other = connector
  · simp [hOther, hLast.1]
  · simp [hOther]

theorem isLast_of_freed {executeCallback : Bool}
    (hId : handler.idAt connector = some reservationId)
    (hFreed : (handler.cancelReservation reservationId executeCallback).handler.idAt connector = none) :
    handler.IsLast reservationId connector := by
  rw [idAt_cancelReservation] at hFreed
  by_cases hFound : connector = handler.connectorOf reservationId ∧ connector ≠ -1
  · refine ⟨hFound.2, ?_⟩
    rcases connectorOf_spec handler reservationId with ⟨hNone, -⟩ | ⟨-, hMax⟩
    · exact absurd hId (hNone connector)
    · rw [hFound.1]
      exact hMax
  · rw [if_neg hFound, hId] at hFreed
    cases hFreed

/-- A pending timer belongs to the reservation that is stored for its connector. -/
def TimersAgree (handler : ReservationHandler) : Prop :=
  ∀ connector reservationId, handler.timers[connector]? = some reservationId →
    handler.idAt connector = some reservationId

theorem TimersAgree.touch (h : handler.TimersAgree) (connector : ℤ) :
    (handler.touch connector).TimersAgree := by
  intro other reservationId hTimer
  have hId := h other reservationId hTimer
  rw [idAt_touch, if_neg]
  · exact hId
  · rintro ⟨rfl, hNone⟩
    rw [hId] at hNone
    cases hNone

theorem TimersAgree.cancelReservation (h : handler.TimersAgree) (reservationId : ℤ)
    (executeCallback : Bool) :
    (handler.cancelReservation reservationId executeCallback).handler.TimersAgree := by
  intro other timerId hTimer
  rw [timers_cancelReservation] at hTimer
  rw [idAt_cancelReservation]
  split at hTimer
  · cases hTimer
  · next hKept =>
    rw [if_neg hKept]
    exact h other timerId hTimer

theorem TimersAgree.fired (h : handler.TimersAgree) (connector : ℤ) :
    TimersAgree { handler with timers := handler.timers.erase connector } := by
  intro other timerId hTimer
  apply h other timerId
  rw [TreeMap.getElem?_erase] at hTimer
  split at hTimer
  · cases hTimer
  · exact hTimer

theorem TimersAgree.expire (h : handler.TimersAgree) (connector : ℤ) :
    (handler.expire connector).handler.TimersAgree := by
  unfold ReservationHandler.expire
  split
  · exact h
  · exact (h.fired connector).cancelReservation _ _

/-- A reservation is accepted only on a connector without one, and is then stored with
its timer; otherwise nothing changes. -/
theorem reserve_cases (handler : ReservationHandler) (now connector : ℤ) (state : ConnectorState)
    (isReservable : Bool) (reservation : Reservation) :
    (connector ∉ handler.reservations ∧
      handler.reserve now connector state isReservable reservation =
        ({ reservations := handler.reservations.insert connector reservation
           timers := handler.timers.insert connector reservation.reservationId }, .accepted)) ∨
    ((handler.reserve now connector state isReservable reservation).1 = handler ∧
      (handler.reserve now connector state isReservable reservation).2 ≠ .accepted) := by
  unfold reserve
  by_cases hUnavailable : state = .unavailable
  · simp [hUnavailable]
  by_cases hFaulted : state = .faulted
  · simp [hFaulted]
  by_cases hLate : reservation.expiryTime < now
  · simp [hUnavailable, hFaulted, hLate]
  cases isReservable
  · simp [hUnavailable, hFaulted, hLate]
  · by_cases hKey : connector ∈ handler.reservations <;>
      simp [hUnavailable, hFaulted, hLate, hKey]

theorem reserve_available_iff {now : ℤ} {reservation : Reservation}
    (hTime : now ≤ reservation.expiryTime) :
    (handler.reserve now connector .available true reservation).2 = .accepted ↔
      connector ∉ handler.reservations := by
  have hFuture : ¬ reservation.expiryTime < now := by omega
  by_cases hKey : connector ∈ handler.reservations <;> simp [reserve, hFuture, hKey]

theorem idAt_insert (reservation : Reservation) (timers : TreeMap ℤ ℤ) (other : ℤ) :
    idAt ⟨handler.reservations.insert connector reservation, timers⟩ other =
      if other = connector then some reservation.reservationId else handler.idAt other := by
  by_cases hOther : other = connector
  · simp [idAt, hOther]
  · simp [idAt, TreeMap.getElem?_insert, hOther, Ne.symm hOther]

theorem TimersAgree.reserve (h : handler.TimersAgree) (now connector : ℤ) (state : ConnectorState)
    (isReservable : Bool) (reservation : Reservation) :
    (handler.reserve now connector state isReservable reservation).1.TimersAgree := by
  rcases reserve_cases handler now connector state isReservable reservation with
    ⟨-, hEq⟩ | ⟨hEq, -⟩
  · rw [hEq]
    intro other timerId hTimer
    rw [TreeMap.getElem?_insert] at hTimer
    rw [idAt_insert]
    by_cases hOther : other = connector
    · simpa [hOther] using hTimer
    · rw [if_neg hOther]
      apply h
      simpa [Ne.symm hOther] using hTimer
  · rw [hEq]
    exact h

theorem TimersAgree.call (h : handler.TimersAgree) (sent : ReservationCall) :
    (handler.call sent).TimersAgree := by
  cases sent with
  | reserve now connector state isReservable reservation => exact h.reserve _ _ _ _ _
  | cancelReservation reservationId executeCallback => exact h.cancelReservation _ _
  | expire connector => exact h.expire _
  | matchesReservedIdentifier connector idToken parentIdToken => exact h.touch _
  | onReservationUsed connector => exact (h.touch _).cancelReservation _ _

/-- A call looks up only connectors with an entry, and ends by its id no other
reservation than the one it is meant for: an id that is cancelled is stored once, and
no connector behind the one that expires or is used has the same id. -/
def EndsItsOwn (handler : ReservationHandler) : ReservationCall → Prop
  | .reserve _ _ _ _ _ => True
  | .cancelReservation reservationId _ =>
      ∀ connector, handler.idAt connector = some reservationId →
        connector ≠ -1 ∧ ∀ other, handler.idAt other = some reservationId → other = connector
  | .expire connector =>
      ∀ reservationId, handler.timers[connector]? = some reservationId →
        handler.IsLast reservationId connector
  | .matchesReservedIdentifier connector _ _ => connector ∈ handler.reservations
  | .onReservationUsed connector =>
      handler.IsLast (handler.entry connector).reservationId connector

end ReservationHandler

open ReservationHandler

/-- The keys decide what is accepted. -/
theorem exactReservations_iff {now : ReservationHandler × LiveReservations} :
    ExactReservations now ↔
      ∀ connector, (now.1.idAt connector).isSome = (now.2 connector).isSome := by
  constructor
  · intro h connector
    rw [Bool.eq_iff_iff, ← mem_iff_isSome_idAt]
    exact h.keys connector
  · intro h
    have hKeys : ∀ connector, connector ∈ now.1.reservations ↔ (now.2 connector).isSome = true := by
      intro connector
      rw [mem_iff_isSome_idAt, h connector]
    refine ⟨hKeys, ?_⟩
    intro time connector reservation hTime
    rw [reserve_available_iff hTime, hKeys connector, Bool.not_eq_true, Option.isSome_eq_false_iff,
      Option.isNone_iff_eq_none]

/-- The ids stored are those of the live reservations. -/
structure AgreesOnIds (now : ReservationHandler × LiveReservations) : Prop where
  ids : ∀ connector, now.1.idAt connector = now.2 connector
  timers : now.1.TimersAgree

section Calls

variable {handler : ReservationHandler} {live : LiveReservations}
  (hIds : ∀ connector, handler.idAt connector = live connector)

include hIds

theorem idAt_touch_cancel {connector : ℤ}
    (hLast : handler.IsLast (handler.entry connector).reservationId connector) (other : ℤ) :
    (handler.onReservationUsed connector).handler.idAt other =
      Function.update live connector none other := by
  -- the entry that `operator[]` may create is the one that is looked for
  have hTouched : (handler.touch connector).IsLast (handler.entry connector).reservationId
      connector := by
    refine ⟨hLast.1, ?_⟩
    intro found hFound
    rw [idAt_touch] at hFound
    split at hFound
    · next hNew => exact Int.le_of_eq hNew.1
    · exact hLast.2 found hFound
  unfold onReservationUsed
  rw [idAt_cancelReservation_of_isLast false idAt_touch_self hTouched, idAt_touch,
    Function.update_apply]
  by_cases hOther : other = connector
  · simp [hOther]
  · simp [hOther, hIds]

/-- A call that ends its own reservation does what it means. -/
theorem idAt_call (hTimers : handler.TimersAgree) {sent : ReservationCall}
    (hOk : handler.EndsItsOwn sent) (other : ℤ) :
    (handler.call sent).idAt other = LiveReservations.note handler sent live other := by
  cases sent with
  | reserve now connector state isReservable reservation =>
      unfold ReservationHandler.call LiveReservations.note
      rcases reserve_cases handler now connector state isReservable reservation with
        ⟨-, hEq⟩ | ⟨hEq, hNot⟩
      · simp only [hEq, if_true, idAt_insert, Function.update_apply, hIds]
      · simp only [hEq, hNot, if_false, hIds]
  | cancelReservation reservationId executeCallback =>
      show (handler.cancelReservation reservationId executeCallback).handler.idAt other =
        if live other = some reservationId then none else live other
      rw [← hIds]
      by_cases hId : handler.idAt other = some reservationId
      · obtain ⟨hNot, hUnique⟩ := hOk other hId
        have hLast : handler.IsLast reservationId other :=
          ⟨hNot, fun found hFound => Int.le_of_eq (hUnique found hFound)⟩
        simp [idAt_cancelReservation_of_isLast executeCallback hId hLast, hId]
      · rw [idAt_cancelReservation, if_neg hId]
        rcases connectorOf_spec handler reservationId with ⟨-, hNone⟩ | ⟨hFound, -⟩
        · rw [if_neg]
          omega
        · rw [if_neg]
          rintro ⟨rfl, -⟩
          exact hId hFound
  | expire connector =>
      unfold ReservationHandler.call LiveReservations.note ReservationHandler.expire
      simp only [TreeMap.mem_iff_isSome_getElem?]
      cases hTimer : handler.timers[connector]? with
      | none => simp [hIds]
      | some reservationId =>
          have hId : idAt { handler with timers := handler.timers.erase connector } connector =
              some reservationId := hTimers connector reservationId hTimer
          have hLast : IsLast { handler with timers := handler.timers.erase connector }
              reservationId connector := hOk reservationId hTimer
          simp only [Option.isSome_some, if_true, Function.update_apply]
          rw [idAt_cancelReservation_of_isLast true hId hLast]
          split
          · rfl
          · exact hIds other
  | matchesReservedIdentifier connector idToken parentIdToken =>
      show (handler.touch connector).idAt other = live other
      rw [idAt_touch, if_neg, hIds]
      rintro ⟨-, hNone⟩
      have hKey := mem_iff_isSome_idAt.mp hOk
      rw [hNone] at hKey
      cases hKey
  | onReservationUsed connector => exact idAt_touch_cancel hIds hOk other

/-- A call after which the keys are exact has ended its own reservation. -/
theorem endsItsOwn_of_exact (hTimers : handler.TimersAgree) {sent : ReservationCall}
    (hExact : ExactReservations (handler.call sent, LiveReservations.note handler sent live)) :
    handler.EndsItsOwn sent := by
  have hKeys := exactReservations_iff.mp hExact
  cases sent with
  | reserve now connector state isReservable reservation => trivial
  | cancelReservation reservationId executeCallback =>
      -- every connector with the id has been freed, and a cancellation frees only one
      have hFreed : ∀ connector, handler.idAt connector = some reservationId →
          connector = handler.connectorOf reservationId ∧ connector ≠ -1 := by
        intro connector hId
        have hNone : (handler.cancelReservation reservationId executeCallback).handler.idAt
            connector = none := by
          have hConnector := hKeys connector
          simp only [ReservationHandler.call, LiveReservations.note, ← hIds, hId, if_true] at hConnector
          simpa using hConnector
        rw [idAt_cancelReservation] at hNone
        by_contra hNot
        rw [if_neg hNot, hId] at hNone
        cases hNone
      intro connector hId
      refine ⟨(hFreed connector hId).2, ?_⟩
      intro found hFound
      rw [(hFreed connector hId).1, (hFreed found hFound).1]
  | expire connector =>
      intro reservationId hTimer
      have hConnector := hKeys connector
      have hId : idAt { handler with timers := handler.timers.erase connector } connector =
          some reservationId := hTimers connector reservationId hTimer
      simp only [ReservationHandler.call, LiveReservations.note, ReservationHandler.expire, hTimer,
        TreeMap.mem_iff_isSome_getElem?, Option.isSome_some, if_true, Function.update_self,
        Option.isSome_none, Option.isSome_eq_false_iff, Option.isNone_iff_eq_none] at hConnector
      have hLast := isLast_of_freed hId hConnector
      exact hLast
  | matchesReservedIdentifier connector idToken parentIdToken =>
      have hConnector : ((handler.touch connector).idAt connector).isSome =
          (live connector).isSome := hKeys connector
      rw [idAt_touch_self, ← hIds] at hConnector
      exact mem_iff_isSome_idAt.mpr hConnector.symm
  | onReservationUsed connector =>
      have hConnector := hKeys connector
      have hFreed : (handler.onReservationUsed connector).handler.idAt connector = none := by
        simpa [ReservationHandler.call, LiveReservations.note] using hConnector
      have hLast := isLast_of_freed idAt_touch_self hFreed
      refine ⟨hLast.1, ?_⟩
      intro other hOther
      apply hLast.2
      rw [idAt_touch, if_neg, hOther]
      rintro ⟨rfl, hNone⟩
      rw [hNone] at hOther
      cases hOther

end Calls

/-- The keys of the map and what is accepted are exact along a whole sequence of calls
exactly if every call of it ends its own reservation. -/
theorem reservations_exact_iff_ends_own (calls : List ReservationCall) :
    (∀ mid, mid <+: calls → ExactReservations (reservationRun mid)) ↔
      EveryStep (watch ReservationHandler.call LiveReservations.note)
        (fun now sent => now.1.EndsItsOwn sent) ({}, fun _ => none) calls := by
  apply forall_prefix_iff_everyStep AgreesOnIds ExactReservations
  · exact ⟨fun connector => rfl, fun connector reservationId hTimer => by simp at hTimer⟩
  · exact exactReservations_iff.mpr fun connector => rfl
  · intro now sent h _ hOk
    exact ⟨idAt_call h.ids h.timers hOk, h.timers.call sent⟩
  · intro now sent h _
    constructor
    · exact endsItsOwn_of_exact h.ids h.timers
    · intro hOk
      exact exactReservations_iff.mpr fun connector =>
        congrArg Option.isSome (idAt_call h.ids h.timers hOk connector)

/-- A token that is looked up after its reservation was cancelled leaves an entry that
nobody has reserved, and the connector cannot be reserved again. -/
theorem lookup_leaves_phantom :
    ¬ ExactReservations (reservationRun
      [.reserve 0 1 .available true { reservationId := 5, idToken := "TAG", expiryTime := 60 },
        .cancelReservation 5 true, .matchesReservedIdentifier 1 "TAG" none]) := by
  intro h
  exact absurd ((h.keys 1).mp (by decide)) (by decide)

end EverestCore.Auth
