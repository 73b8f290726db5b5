import EverestCore.Auth.TokenThreads

/-! The expiry of authorizations that are not used. One timer of a connector serves two
purposes, and the one that is started last replaces the other. -/
namespace EverestCore.Auth
open EverestCore.Machine

/-- The connector was given to a token, and no transaction has started there. -/
def ConnectorContext.isPending (context : ConnectorContext) : Bool :=
  context.identifier.isSome && !context.transactionActive

/-- The connector at which the event starts a session by plugging in. -/
def AuthEvent.plugsInAt : AuthEvent → Option ℤ
  | .sessionEvent connector message =>
      if message = ⟨.sessionStarted, .evConnected⟩ then some connector else none
  | .timeout _ _ | .handleReservation _ _ _ | .handleCancelReservation _ | .reservationExpires _
  | .setPrioritize _ => none

namespace AuthHandler

variable {handler : AuthHandler} {connector : ℤ}

/-- A timer is pending that takes the connector away from its token when it fires. -/
def Withdraws (handler : AuthHandler) (connector : ℤ) : Prop :=
  ∃ purpose, (handler.connectors connector).timeoutTimer = some purpose ∧
    ((handler.timeout connector purpose).connectors connector).identifier = none ∧
    (handler.timeout connector purpose).log = handler.log ++ [.withdrawAuthorization connector]

/-- Only the timer that was started with the authorization does so. -/
theorem withdraws_iff : handler.Withdraws connector ↔
    (handler.connectors connector).timeoutTimer = some .authorization := by
  constructor
  · rintro ⟨purpose, hTimer, -, hLog⟩
    cases purpose with
    | authorization => exact hTimer
    | plugIn => simp [timeout, hTimer, modify, unqueue] at hLog
  · intro hTimer
    exact ⟨.authorization, hTimer, by simp [timeout, hTimer, emit],
      by simp [timeout, hTimer, emit, modify]⟩

/-- Beside the start of a session by plugging in, no event makes a connector pending or
takes its timer from one that is. -/
theorem handleEvent_pending {event : AuthEvent} (hEvent : event.plugsInAt ≠ some connector)
    (hPending : ((handler.handleEvent event).connectors connector).isPending = true) :
    (handler.connectors connector).isPending = true ∧
      ((handler.connectors connector).timeoutTimer = some .authorization →
        ((handler.handleEvent event).connectors connector).timeoutTimer = some .authorization) := by
  rcases handler.handleEvent_connectors event connector with ⟨message, rfl⟩ | ⟨purpose, rfl⟩ | hSame
  · obtain ⟨event, reason⟩ := message
    cases event with
    | sessionStarted =>
        cases reason with
        | evConnected => exact absurd rfl hEvent
        | authorized =>
            simp_all [handleEvent, handleSessionEvent, onSessionStarted,
              ConnectorContext.isPending, modify]
    | _ =>
        simp_all [handleEvent, handleSessionEvent, ConnectorContext.isPending]
  · dsimp only [handleEvent, timeout] at hPending ⊢
    split at hPending
    · next hTimer =>
      cases purpose with
      | plugIn =>
          refine ⟨?_, by simp [hTimer]⟩
          simpa [unqueue, ConnectorContext.isPending] using hPending
      | authorization => simp [emit, ConnectorContext.isPending] at hPending
    · next hTimer =>
      rw [if_neg hTimer]
      exact ⟨hPending, id⟩
  · rw [hSame] at hPending ⊢
    exact ⟨hPending, id⟩

theorem plugsInAt_eq_some_iff {event : AuthEvent} : event.plugsInAt = some connector ↔
    event = .sessionEvent connector ⟨.sessionStarted, .evConnected⟩ := by
  cases event <;> simp [AuthEvent.plugsInAt, and_comm]

end AuthHandler

namespace AuthModule

/-- Every authorization that waits for its transaction is going to be withdrawn by its
timer, or a thread is just about to start that timer. -/
def AuthorizationsExpire (s : AuthModule) : Prop :=
  ∀ connector, (s.shared.connectors connector).isPending = true →
    s.shared.Withdraws connector ∨ ∃ thread ∈ s.parties, thread.armingAt = some connector

/-- A session is not started by plugging in while the connector waits for the transaction
of an authorization, whose timer has already been started. -/
def PlugsInUnpending (s : AuthModule) : AuthInput → Prop
  | .event event => ∀ connector ∈ event.plugsInAt,
      (s.shared.connectors connector).isPending = true →
        ∃ thread ∈ s.parties, thread.armingAt = some connector
  | .onToken _ | .turn _ _ => True

theorem AuthorizationsExpire.turn {s : AuthModule} (h : s.AuthorizationsExpire) (i : ℕ)
    (move : TokenMove) : AuthorizationsExpire (s.turn TokenThread.act i move) := by
  apply Parties.turn_invariant AuthorizationsExpire h
  intro thread hThread
  -- what held of a connector still does if neither it nor a thread at it has moved
  have hKept : ∀ connector,
      (thread.act s.shared move).1.connectors connector = s.shared.connectors connector →
      (thread.armingAt = some connector →
        (thread.act s.shared move).2.armingAt = some connector) →
      ((thread.act s.shared move).1.connectors connector).isPending = true →
      (thread.act s.shared move).1.Withdraws connector ∨
        ∃ party ∈ (s.turn TokenThread.act i move).parties,
          party.armingAt = some connector := by
    intro connector hSame hStays hPending
    rw [AuthHandler.withdraws_iff]
    rw [hSame] at hPending ⊢
    refine (h connector hPending).imp AuthHandler.withdraws_iff.mp fun hArming => ?_
    apply Parties.exists_turn hArming
    intro party hParty hAt
    rw [hThread] at hParty
    cases hParty
    exact hStays hAt
  intro connector hPending
  rw [Parties.shared_turn hThread] at hPending ⊢
  rcases (TokenThread.step_act s.shared thread move).connectors with
    ⟨placed, result, hStage, -, hHandler, hNext⟩ | ⟨armed, result, hStage, hHandler, hNext⟩ |
    ⟨hSame, -, hAt, -⟩
  · by_cases hConnector : connector = placed
    · right
      refine ⟨_, (Parties.mem_turn hThread).mpr (Or.inl rfl), ?_⟩
      rw [hNext, hConnector]
      rfl
    · apply hKept connector _ _ hPending
      · rw [hHandler]
        exact s.shared.modify_of_ne _ hConnector
      · intro hAt
        simp [TokenThread.armingAt, hStage] at hAt
  · by_cases hConnector : connector = armed
    · left
      rw [AuthHandler.withdraws_iff, hHandler, hConnector]
      simp [AuthHandler.notifyEvseCallback, AuthHandler.startAuthorizationTimer]
    · apply hKept connector _ _ hPending
      · rw [hHandler]
        simp [AuthHandler.notifyEvseCallback, AuthHandler.startAuthorizationTimer,
          AuthHandler.modify_of_ne, hConnector]
      · intro hAt
        simp [TokenThread.armingAt, hStage] at hAt
        exact absurd hAt.symm hConnector
  · apply hKept connector (congrFun hSame connector) _ hPending
    intro hThere
    rw [hAt] at hThere
    cases hThere

/-- One step keeps the timers of the authorizations exactly if it is no plugging in on a
connector that waits for its transaction. -/
theorem authorizationsExpire_step_iff {s : AuthModule} (h : s.AuthorizationsExpire)
    (input : AuthInput) : (s.step input).AuthorizationsExpire ↔ s.PlugsInUnpending input := by
  cases input with
  | onToken token =>
      refine iff_of_true ?_ trivial
      intro connector hPending
      refine (h connector hPending).imp id ?_
      rintro ⟨thread, hThread, hAt⟩
      exact ⟨thread, List.mem_append_left _ hThread, hAt⟩
  | turn i move => exact iff_of_true (h.turn i move) trivial
  | event event =>
      constructor
      · intro hNext connector hPlugged hPending
        rw [Option.mem_def, AuthHandler.plugsInAt_eq_some_iff] at hPlugged
        subst hPlugged
        have hAfter := hNext connector
        rw [AuthHandler.withdraws_iff] at hAfter
        simp_all [step, AuthHandler.handleEvent, AuthHandler.handleSessionEvent,
          AuthHandler.onSessionStarted, ConnectorContext.isPending, AuthHandler.modify]
      · intro hOk connector hPending
        by_cases hPlugged : event.plugsInAt = some connector
        · right
          apply hOk connector hPlugged
          rw [AuthHandler.plugsInAt_eq_some_iff] at hPlugged
          subst hPlugged
          simpa [step, AuthHandler.handleEvent, AuthHandler.handleSessionEvent,
            AuthHandler.onSessionStarted, ConnectorContext.isPending, AuthHandler.modify]
            using hPending
        · obtain ⟨hBefore, hTimer⟩ := AuthHandler.handleEvent_pending hPlugged hPending
          refine (h connector hBefore).imp ?_ id
          rw [AuthHandler.withdraws_iff, AuthHandler.withdraws_iff]
          exact hTimer

/-- In all states of a run the authorizations that are not used expire, exactly if no
session is started by plugging in while the connector waits for its transaction. -/
theorem authorizations_expire_iff (config : AuthConfig) (prioritize : Bool)
    (inputs : List AuthInput) :
    (∀ mid, mid <+: inputs → AuthorizationsExpire (run step (start config prioritize) mid)) ↔
      EveryStep step PlugsInUnpending (start config prioritize) inputs := by
  apply forall_prefix_iff_everyStep (fun _ => True) AuthorizationsExpire trivial
  · intro connector hPending
    cases hPending
  · exact fun _ _ _ _ _ => trivial
  · exact fun s input _ h => authorizationsExpire_step_iff h input

/-- A card is accepted, and the car is plugged in before the session that the card
starts is known: the timer of the authorization is gone. -/
theorem plug_in_replaces_timer :
    ¬ AuthorizationsExpire (run step (start .oneConnector false)
      (handleToken 0 { idToken := "A", type := .rfid } [{ authorizationStatus := .accepted }] 8 ++
        [AuthInput.event (.sessionEvent 1 ⟨.sessionStarted, .evConnected⟩)])) := by
  intro h
  have hExpires := h 1 (by decide)
  rw [AuthHandler.withdraws_iff] at hExpires
  exact absurd hExpires (by decide)

end AuthModule

end EverestCore.Auth
