import EverestCore.Auth.TokenThreads

/-! The connectors that are given to tokens. Whether there is a free connector is looked
up before one is selected, and the selection does not look at it again. -/
namespace EverestCore.Auth
open EverestCore.Machine

/-- The connector is available, and was given to no other token. -/
def ConnectorContext.isFreeFor (context : ConnectorContext) (idToken : String) : Bool :=
  context.state = .available &&
    context.identifier.all fun identifier => identifier.idToken == idToken

/-- The connector that the event may take out of the state in which it is available. -/
def AuthEvent.takes : AuthEvent → Option ℤ
  | .sessionEvent connector message =>
      match message.event with
      | .transactionStarted | .permanentFault | .error | .disabled => some connector
      | _ => none
  | .timeout _ _ | .handleReservation _ _ _ | .handleCancelReservation _ | .reservationExpires _
  | .setPrioritize _ => none

/-- All other events leave a free connector free. -/
theorem AuthHandler.isFreeFor_handleEvent {handler : AuthHandler} {event : AuthEvent}
    {connector : ℤ} {idToken : String} (hEvent : event.takes ≠ some connector)
    (h : (handler.connectors connector).isFreeFor idToken = true) :
    ((handler.handleEvent event).connectors connector).isFreeFor idToken = true := by
  rcases handler.handleEvent_connectors event connector with ⟨message, rfl⟩ | ⟨purpose, rfl⟩ | hSame
  · rw [ConnectorContext.isFreeFor, Bool.and_eq_true, decide_eq_true_eq] at h
    obtain ⟨event, reason⟩ := message
    cases event with
    | transactionStarted | permanentFault | error | disabled => exact absurd rfl hEvent
    | sessionStarted =>
        cases reason <;>
          simp [handleEvent, handleSessionEvent, onSessionStarted, ConnectorContext.isFreeFor,
            modify, h]
    | _ =>
        simp [handleEvent, handleSessionEvent, ConnectorContext.isFreeFor, h,
          ConnectorState.submitEvent]
  · dsimp only [handleEvent, timeout]
    split
    · cases purpose with
      | plugIn => simpa [ConnectorContext.isFreeFor] using h
      | authorization =>
          rw [ConnectorContext.isFreeFor, Bool.and_eq_true] at h
          simp [ConnectorContext.isFreeFor, h.1]
    · exact h
  · rw [hSame]
    exact h

namespace TokenThread

variable {handler handler' : AuthHandler} {thread thread' : TokenThread}

/-- The connector to which `notify_evse` is just giving the token. -/
def authorizesAt (thread : TokenThread) : Option ℤ :=
  match thread.stage with
  | .notifying connector result =>
      if result.authorizationStatus = .accepted then some connector else none
  | .arming connector _ => some connector
  | _ => none

/-- The selected connector that the next step accepts for the token. -/
def accepts (handler : AuthHandler) (thread : TokenThread) : Option ℤ :=
  match thread.stage with
  | .selected connector => (thread.decideAt handler connector).2.authorizesAt
  | _ => none

theorem Step.authorizesAt (h : Step handler thread handler' thread') {connector : ℤ}
    (hStage : ∀ selected, thread.stage ≠ .selected selected)
    (hAt : thread'.authorizesAt = some connector) : thread.authorizesAt = some connector := by
  cases h with
  | idle => exact hAt
  | decides selected _ _ _ hSelected => exact absurd hSelected (hStage selected)
  | skips result results hIterating => simp [TokenThread.authorizesAt, hIterating] at hAt
  | places placed result hNotifying hStatus =>
      have hPlaced : some placed = some connector := hAt
      simpa [TokenThread.authorizesAt, hNotifying, hStatus] using hPlaced
  | _ => cases hAt

/-- A connector is given to a token from the step on that accepts it. -/
theorem authorizesAt_of_act {move : TokenMove} {connector : ℤ}
    (h : (thread.act handler move).2.authorizesAt = some connector) :
    thread.accepts handler = some connector ∨ thread.authorizesAt = some connector := by
  by_cases hSelected : ∃ selected, thread.stage = .selected selected
  · obtain ⟨selected, hStage⟩ := hSelected
    left
    simp only [act, hStage] at h
    simpa only [accepts, hStage] using h
  · rw [not_exists] at hSelected
    exact Or.inr ((step_act handler thread move).authorizesAt hSelected h)

/-- The connector that is being given to the token stays free for it, and every
connector at which the thread is not stays as it is. -/
theorem isFreeFor_act (move : TokenMove) {connector : ℤ} {idToken : String}
    (hToken : thread.authorizesAt = some connector → thread.token.idToken = idToken)
    (h : (handler.connectors connector).isFreeFor idToken = true) :
    ((thread.act handler move).1.connectors connector).isFreeFor idToken = true := by
  rcases (step_act handler thread move).connectors with
    ⟨placed, result, hStage, hStatus, hHandler, -⟩ | ⟨armed, result, hStage, hHandler, -⟩ |
    ⟨hSame, -⟩
  · rw [hHandler, AuthHandler.placeIdentifier]
    by_cases hConnector : connector = placed
    · subst hConnector
      have hOwn := hToken (by simp [authorizesAt, hStage, hStatus])
      rw [ConnectorContext.isFreeFor, Bool.and_eq_true] at h
      simpa [ConnectorContext.isFreeFor, hOwn] using h.1
    · rw [AuthHandler.modify_of_ne _ _ hConnector]
      exact h
  · rw [hHandler, AuthHandler.notifyEvseCallback, AuthHandler.startAuthorizationTimer,
      AuthHandler.emit_connectors, AuthHandler.unqueue_connectors]
    by_cases hConnector : connector = armed
    · subst hConnector
      simpa [ConnectorContext.isFreeFor] using h
    · rw [AuthHandler.modify_of_ne _ _ hConnector]
      exact h
  · rw [hSame]
    exact h

end TokenThread

namespace AuthModule

/-- Where `notify_evse` sets an identifier or sends an accepted result, the connector is
free for the token. -/
def AuthorizesFree (s : AuthModule) : AuthInput → Prop
  | .turn i _ => ∀ thread ∈ s.parties[i]?, ∀ connector ∈ thread.authorizesAt,
      (s.shared.connectors connector).isFreeFor thread.token.idToken = true
  | .onToken _ | .event _ => True

/-- A selected connector is accepted for a token only if it is free for it and no other
token is just being given to it, and no event takes a connector that is just being
given to a token. -/
def AcceptsFree (s : AuthModule) : AuthInput → Prop
  | .turn i _ => ∀ thread ∈ s.parties[i]?, ∀ connector ∈ thread.accepts s.shared,
      (s.shared.connectors connector).isFreeFor thread.token.idToken = true ∧
        ∀ other ∈ s.others i, other.authorizesAt ≠ some connector
  | .event event => ∀ connector ∈ event.takes,
      ∀ thread ∈ s.parties, thread.authorizesAt ≠ some connector
  | .onToken _ => True

instance (s : AuthModule) (input : AuthInput) : Decidable (s.AuthorizesFree input) :=
  match input with
  | .turn i _ => inferInstanceAs (Decidable (∀ thread ∈ s.parties[i]?, ∀ _ ∈ thread.authorizesAt, _))
  | .onToken _ | .event _ => inferInstanceAs (Decidable True)

instance (s : AuthModule) (input : AuthInput) : Decidable (s.AcceptsFree input) :=
  match input with
  | .turn i _ =>
      inferInstanceAs (Decidable (∀ thread ∈ s.parties[i]?, ∀ _ ∈ thread.accepts s.shared, _ ∧ _))
  | .event event => inferInstanceAs (Decidable (∀ _ ∈ event.takes, ∀ _ ∈ s.parties, _))
  | .onToken _ => inferInstanceAs (Decidable True)

/-- The connectors that are just being given to tokens are free for them, and each is
given to one token only. -/
structure GivesFree (s : AuthModule) : Prop where
  free : ∀ thread ∈ s.parties, ∀ connector, thread.authorizesAt = some connector →
    (s.shared.connectors connector).isFreeFor thread.token.idToken = true
  exclusive : ∀ connector, s.Exclusive fun thread => thread.authorizesAt == some connector

theorem GivesFree.turn {s : AuthModule} (h : s.GivesFree) (i : ℕ) (move : TokenMove)
    (hOk : s.AcceptsFree (.turn i move)) : GivesFree (s.turn TokenThread.act i move) := by
  apply Parties.turn_invariant GivesFree h
  intro thread hThread
  have hMem := List.mem_of_getElem? hThread
  have hToken := (TokenThread.step_act s.shared thread move).token
  constructor
  · intro party hParty connector hAt
    rw [Parties.shared_turn hThread]
    rcases (Parties.mem_turn hThread).mp hParty with rfl | hOther
    · rw [hToken]
      apply TokenThread.isFreeFor_act move fun _ => rfl
      rcases TokenThread.authorizesAt_of_act hAt with hAccepts | hBefore
      · exact (hOk thread hThread connector hAccepts).1
      · exact h.free thread hMem connector hBefore
    · refine TokenThread.isFreeFor_act move ?_
        (h.free party (Parties.mem_of_mem_others hOther) connector hAt)
      -- the thread that moves would be a second one at the connector
      intro hThere
      have hAlone := (h.exclusive connector).others_eq_false hThread
        (beq_iff_eq.mpr hThere) party hOther
      rw [hAt, beq_self_eq_true] at hAlone
      cases hAlone
  · intro connector
    apply (h.exclusive connector).turn
    intro party hParty hHolds
    rw [hThread] at hParty
    cases hParty
    rcases TokenThread.authorizesAt_of_act (beq_iff_eq.mp hHolds) with hAccepts | hBefore
    · right
      intro other hOther
      exact beq_false_of_ne ((hOk thread hThread connector hAccepts).2 other hOther)
    · exact Or.inl (beq_iff_eq.mpr hBefore)

theorem GivesFree.step {s : AuthModule} (h : s.GivesFree) (input : AuthInput)
    (hOk : s.AcceptsFree input) : (s.step input).GivesFree := by
  cases input with
  | onToken token =>
      exact ⟨Parties.forall_join h.free nofun, fun connector => (h.exclusive connector).join rfl⟩
  | turn i move => exact h.turn i move hOk
  | event event =>
      refine ⟨?_, h.exclusive⟩
      intro thread hThread connector hAt
      apply AuthHandler.isFreeFor_handleEvent _ (h.free thread hThread connector hAt)
      intro hTakes
      exact hOk connector hTakes thread hThread hAt

theorem GivesFree.authorizesFree {s : AuthModule} (h : s.GivesFree) (input : AuthInput) :
    s.AuthorizesFree input := by
  cases input with
  | onToken token => trivial
  | event event => trivial
  | turn i move =>
      intro thread hThread connector hAt
      exact h.free thread (List.mem_of_getElem? hThread) connector hAt

/-- In a run in which every selected connector is free when it is accepted, and stays
untouched until its token has been sent, every authorization is placed on a free
connector. -/
theorem authorizations_on_free_connectors (config : AuthConfig) (prioritize : Bool)
    (inputs : List AuthInput) (hOk : EveryStep step AcceptsFree (start config prioritize) inputs) :
    EveryStep step AuthorizesFree (start config prioritize) inputs := by
  have hStart : (start config prioritize).GivesFree :=
    ⟨fun thread hThread => absurd hThread List.not_mem_nil, fun _ => Nat.zero_le 1⟩
  exact everyStep_of_invariant GivesFree hStart (fun s input h hInput => h.step input hInput)
    (fun s input h _ => h.authorizesFree input) inputs hOk

/-- Two cards are shown at a station with two connectors, each after a car was plugged
in at another one. -/
theorem authorizations_on_free_connectors_in_turn :
    let inputs := [AuthInput.event (.sessionEvent 1 { event := .sessionStarted })] ++
      handleToken 0 { idToken := "A", type := .rfid } [{ authorizationStatus := .accepted }] 10 ++
      [AuthInput.event (.sessionEvent 2 { event := .sessionStarted })] ++
      handleToken 1 { idToken := "B", type := .rfid } [{ authorizationStatus := .accepted }] 10
    EveryStep step AcceptsFree (start .twoConnectors false) inputs ∧
      EveryStep step AuthorizesFree (start .twoConnectors false) inputs := by
  intro inputs
  have hOk : EveryStep step AcceptsFree (start .twoConnectors false) inputs := by decide
  exact ⟨hOk, authorizations_on_free_connectors .twoConnectors false inputs hOk⟩

/-- Two cards are shown at a station with one connector before a car is plugged in: the
second one takes the place of the first. -/
theorem second_card_overwrites_first :
    ¬ EveryStep step AuthorizesFree (start .oneConnector false)
      (handleToken 0 { idToken := "A", type := .rfid } [{ authorizationStatus := .accepted }] 8 ++
        handleToken 1 { idToken := "B", type := .rfid } [{ authorizationStatus := .accepted }] 8) := by
  decide

end AuthModule

end EverestCore.Auth
