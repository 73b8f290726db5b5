import EverestCore.Charger.PowerPermission
import EverestCore.Charger.SessionView

/-! What holds in every run of the charger: where power is permitted, when PWM
may be driven, and how the events of sessions and transactions are nested. The
last two need a condition on single calls, which is stated with each of them. -/
namespace EverestCore
open Machine

/-- Member variables of which nothing has been set yet. -/
def Charger.blank : Charger where
  connectorType := .iec62196Type2Cable
  maxCurrent := 0
  maxCurrentValidUntil := 0
  maxCurrentCable := 0
  transactionActive := false
  sessionActive := false
  stopTransactionIdTag := ""
  lastStopTransactionReason := .emergencyStop
  lastStartSessionReason := .evConnected
  currentState := .disabled
  lastState := .disabled
  errorState := .internal
  currentStateStarted := 0
  currentDrawnByVehicle := (0, 0, 0)
  overCurrent := false
  lastOverCurrentEvent := 0
  tStepEFReturnState := .faulted
  tStepEFReturnPWM := 0
  tStepX1ReturnState := .faulted
  tStepX1ReturnPWM := 0
  matchingStarted := false
  authorized := false
  authorizedPnc := false
  authTag := ""
  chargeMode := .ac
  acHlcEnabled := false
  acHlcEnabledCurrentSession := false
  acHlcUse5percent := false
  hlcUse5percentCurrentSession := false
  acEnforceHlc := false
  acWithSocTimeout := false
  acWithSocTimer := 0
  lastPwmUpdate := 0
  updatePwmLastDc := 0
  currentEvseMaxLimits := ⟨0, 0, 0⟩

/-- An AC charger with high level communication and five percent PWM. -/
def hlcSetup : World.Setup where
  threePhases := true
  hasVentilation := false
  countryCode := "DE"
  rcdEnabled := true
  chargeMode := .ac
  acHlcEnabled := true
  acHlcUse5percent := true
  acEnforceHlc := false
  acWithSocTimeout := false

namespace SessionView

/-- An authorization alone starts no transaction. -/
theorem transactionActive_authorize (a : Bool) (v : SessionView) :
    (v.authorize a).transactionActive = v.transactionActive := by
  rw [authorize]
  split_ifs <;> rfl

/-- A session outlives its transactions. -/
theorem sessionActive_closeTransaction (v : SessionView) :
    v.closeTransaction.sessionActive = v.sessionActive := by
  rw [closeTransaction]
  split_ifs <;> rfl

/-- There is none afterwards, whether or not there was one before. -/
theorem transactionActive_closeTransaction (v : SessionView) :
    v.closeTransaction.transactionActive = false := by
  rw [closeTransaction]
  cases hActive : v.transactionActive
  · rw [if_neg (by simp)]
    exact hActive
  · rfl

end SessionView

namespace World

/-- In `WaitingForAuthentication` a transaction is started by an authorization
that was given before the turn: entering without a session takes it back. -/
theorem waitingForAuthenticationView_starts {newInState : Bool} {w : World}
    (hBefore : w.charger.transactionActive = false)
    (hAfter : (w.waitingForAuthenticationView newInState).transactionActive = true) :
    w.charger.authorized = true := by
  unfold waitingForAuthenticationView at hAfter
  dsimp only at hAfter
  split_ifs at hAfter with hNew hStart hStart
  · exact absurd hStart.1 (by simp [SessionView.startSession])
  · exact absurd hAfter (by simp [SessionView.startSession, hBefore])
  · exact hStart.1
  · exact absurd hAfter (by simp [hBefore])

/-- Among the states, only the wait for an authorization starts a transaction, and it has one then.
-/
theorem stateView_starts {newInState : Bool} {w : World}
    (hBefore : w.charger.transactionActive = false)
    (hAfter : (w.stateView newInState).transactionActive = true) :
    w.charger.currentState = .waitingForAuthentication ∧ w.charger.authorized = true := by
  unfold stateView at hAfter
  split at hAfter
  case h_2 hState => exact ⟨hState, waitingForAuthenticationView_starts hBefore hAfter⟩
  case h_5 => exact absurd hAfter (by simp [hBefore])
  all_goals
    exfalso
    split_ifs at hAfter
    all_goals simp_all [SessionView.enterIdle, SessionView.stopSession,
      SessionView.transactionActive_closeTransaction]

/-- In a turn, the timer starts no transaction, and the state only with an authorization. -/
theorem tickView_starts {w : World} (hBefore : w.charger.transactionActive = false)
    (hAfter : w.tickView.transactionActive = true) :
    w.charger.currentState = .waitingForAuthentication ∧ w.charger.authorized = true := by
  unfold tickView at hAfter
  split_ifs at hAfter with hFires
  · exact absurd hAfter (by simp [hBefore])
  · exact stateView_starts (w := w.update fun c => { c with lastState := c.currentState })
      hBefore hAfter

/-- No call but a turn starts a transaction: the events of the cable and the commands from outside
do not. -/
theorem call_starts_transaction {w : World} {c : Call}
    (hBefore : w.charger.transactionActive = false)
    (hAfter : (w.call c).charger.transactionActive = true) :
    c.action = .tick ∧ w.charger.currentState = .waitingForAuthentication ∧
      w.charger.authorized = true := by
  have hView : (w.callView c).transactionActive = true := by
    rw [← view_call]
    exact hAfter
  unfold callView at hView
  split at hView
  case h_1 hAction => exact ⟨hAction, tickView_starts hBefore hView⟩
  case h_2 =>
    rw [SessionView.transactionActive_authorize, view_transactionActive, hBefore] at hView
    exact absurd hView (by simp)
  case h_3 =>
    split_ifs at hView
    · exact absurd hView (by simp [SessionView.stopSession, hBefore])
    · exact absurd hView (by simp [hBefore])
  case h_4 =>
    rw [SessionView.transactionActive_closeTransaction] at hView
    exact absurd hView (by simp)
  case h_5 => exact absurd hView (by simp [hBefore])

end World

/-- Power is only permitted inside a transaction, and a transaction only begins
in a turn of `WaitingForAuthentication` that finds an authorization. -/
theorem power_only_in_authorized_transaction (memory : Charger) (ppAmpacity : ℚ)
    (calls : List Call) :
    (∀ emission ∈ (World.run memory ppAmpacity calls).log,
      emission.output = .callAllowPowerOn true → emission.charger.transactionActive = true) ∧
    (∀ before c, before ++ [c] <+: calls →
      (World.run memory ppAmpacity before).charger.transactionActive = false →
      (World.run memory ppAmpacity (before ++ [c])).charger.transactionActive = true →
        c.action = .tick ∧
        (World.run memory ppAmpacity before).charger.currentState = .waitingForAuthentication ∧
        (World.run memory ppAmpacity before).charger.authorized = true) := by
  constructor
  · intro emission hMem hOutput
    have hInv : PowerInv false (World.run memory ppAmpacity calls) :=
      run_invariant _ (World.create_powerInv false memory ppAmpacity)
        (fun _ c h => World.call_powerInv h c (by simp)) calls
    obtain ⟨before, after, hLog⟩ := List.append_of_mem hMem
    refine hInv.permits before emission ⟨after, ?_⟩ hOutput
    rw [hLog, List.append_assoc]
    rfl
  · intro before c _ hBefore hAfter
    apply World.call_starts_transaction hBefore
    rw [World.run, run_snoc] at hAfter
    exact hAfter

/-- PWM is driven without a transaction only if the last permission was a
refusal, in every run in which `requestErrorSequence` respects it. -/
theorem pwm_without_stale_permission (memory : Charger) (ppAmpacity : ℚ) (calls : List Call)
    (hSafe : EveryStep World.call World.SafeErrorSequence
      (World.create memory ppAmpacity) calls) :
    EachAfter startsPwmUnpermitted (World.run memory ppAmpacity calls).log :=
  (run_invariant_of_everyStep (PowerInv true) (World.create_powerInv true memory ppAmpacity)
    (fun _ c h hc => World.call_powerInv h c fun _ => hc) calls hSafe).startsPwm rfl

/-- SLAC asks for an error sequence in a session that has refused power. -/
theorem pwm_without_stale_permission_plugged_in :
    EachAfter startsPwmUnpermitted (World.run .blank 0
      [⟨0, .setup hlcSetup⟩, ⟨1, .enable⟩, ⟨50, .tick⟩, ⟨60, .processEvent .carPluggedIn 32⟩,
        ⟨100, .tick⟩, ⟨110, .requestErrorSequence⟩, ⟨150, .tick⟩, ⟨4200, .tick⟩]).log :=
  pwm_without_stale_permission _ _ _ (by decide)

/-- A first car has charged and left. The next one plugs in, and SLAC asks for
an error sequence before the main loop has come round to refuse power. -/
theorem pwm_with_stale_permission :
    ¬ EachAfter startsPwmUnpermitted (World.run .blank 0
      [⟨0, .setup hlcSetup⟩, ⟨1, .enable⟩, ⟨50, .tick⟩, ⟨60, .processEvent .carPluggedIn 32⟩,
        ⟨100, .tick⟩, ⟨110, .authorize true "tag" true⟩, ⟨150, .tick⟩, ⟨200, .tick⟩,
        ⟨210, .processEvent .carUnplugged 0⟩, ⟨250, .tick⟩, ⟨300, .tick⟩, ⟨350, .tick⟩,
        ⟨360, .processEvent .carPluggedIn 32⟩, ⟨370, .requestErrorSequence⟩, ⟨400, .tick⟩,
        ⟨4400, .tick⟩]).log := by
  decide +kernel

/-! How the events of sessions and transactions are nested. -/

@[simps] def sessionBracket : Bracket SessionEvent where
  opening := .sessionStarted
  closing := .sessionFinished

@[simps] def transactionBracket : Bracket SessionEvent where
  opening := .transactionStarted
  closing := .transactionFinished

namespace SessionView

/-- The marks sent so far are nested as they should be. -/
def Bracketed (v : SessionView) : Prop := WellBracketed sessionBracket transactionBracket v.marks

/-- The flags say which brackets are open, and only a session is authorized. -/
structure Consistent (v : SessionView) : Prop where
  session : sessionBracket.depth v.marks = v.sessionActive.toNat
  transaction : transactionBracket.depth v.marks = v.transactionActive.toNat
  authorized : v.authorized = true → v.sessionActive = true

/-- From a consistent and bracketed view, the step to `v'` keeps both exactly if
it is safe. -/
def KeepsIff (v v' : SessionView) (safe : Prop) : Prop :=
  v.Consistent → v.Bracketed → (v'.Bracketed ↔ safe) ∧ (safe → v'.Consistent)

/-- A step that does nothing is safe. -/
theorem keepsIff_refl (v : SessionView) : KeepsIff v v True :=
  fun hConsistent hBracketed => ⟨iff_of_true hBracketed trivial, fun _ => hConsistent⟩

/-- A step that always keeps the brackets can be put before any other one. -/
theorem KeepsIff.trans {v v' v'' : SessionView} {safe : Prop} (h : KeepsIff v v' True)
    (h' : KeepsIff v' v'' safe) : KeepsIff v v'' safe := by
  intro hConsistent hBracketed
  obtain ⟨hNext, hNextConsistent⟩ := h hConsistent hBracketed
  exact h' (hNextConsistent trivial) (hNext.mpr trivial)

/-- The condition may be rewritten with what the brackets themselves say. -/
theorem KeepsIff.congr {v v' : SessionView} {safe safe' : Prop} (h : KeepsIff v v' safe)
    (hSafe : v.Consistent → v.Bracketed → (safe ↔ safe')) : KeepsIff v v' safe' := by
  intro hConsistent hBracketed
  rw [← hSafe hConsistent hBracketed]
  exact h hConsistent hBracketed

/-- In a well-bracketed history, an open transaction has an open session around it. -/
theorem Bracketed.transaction_inside {v : SessionView} (h : v.Bracketed) (hv : v.Consistent)
    (hActive : v.transactionActive = true) : v.sessionActive = true := by
  have hInside := h.nested.2.1
  rw [hv.session, hv.transaction, hActive] at hInside
  cases hSession : v.sessionActive
  · simp [hSession] at hInside
  · rfl

/-- A step that sends one mark, judged by the depths that it leaves. -/
theorem keepsIff_mark {v v' : SessionView} {safe : Prop} (mark : SessionEvent)
    (hMarks : v'.marks = v.marks ++ [mark])
    (hSafe : v.Consistent →
      (Nested sessionBracket transactionBracket v'.marks ↔ safe) ∧ (safe → v'.Consistent)) :
    KeepsIff v v' safe := by
  intro hConsistent hBracketed
  obtain ⟨hNested, hNext⟩ := hSafe hConsistent
  refine ⟨Iff.trans ?_ hNested, hNext⟩
  rw [Bracketed, hMarks, wellBracketed_snoc]
  exact and_iff_right hBracketed

/-- Outside of a session one may always start. -/
theorem keepsIff_startSession {v : SessionView} (hIdle : v.sessionActive = false) :
    KeepsIff v v.startSession True := by
  refine keepsIff_mark .sessionStarted rfl fun h => ?_
  have hSession : sessionBracket.depth v.startSession.marks = 1 := by
    simp [startSession, Bracket.depth_snoc, h.session, hIdle]
  have hTransaction : transactionBracket.depth v.startSession.marks =
      v.transactionActive.toNat := by
    simp [startSession, Bracket.depth_snoc, h.transaction]
  refine ⟨?_, fun _ => ⟨hSession, hTransaction, by simp [startSession]⟩⟩
  rw [Nested, hSession, hTransaction]
  cases v.transactionActive <;> decide

/-- A session may end if there is one, and its transaction must have ended before. -/
theorem keepsIff_stopSession (v : SessionView) :
    KeepsIff v v.stopSession (v.sessionActive = true ∧ v.transactionActive = false) := by
  refine keepsIff_mark .sessionFinished rfl fun h => ?_
  have hSession : sessionBracket.depth v.stopSession.marks = v.sessionActive.toNat - 1 := by
    simp [stopSession, Bracket.depth_snoc, h.session]
  have hTransaction : transactionBracket.depth v.stopSession.marks =
      v.transactionActive.toNat := by
    simp [stopSession, Bracket.depth_snoc, h.transaction]
  refine ⟨?_, ?_⟩
  · rw [Nested, hSession, hTransaction]
    cases v.sessionActive <;> cases v.transactionActive <;> decide
  · rintro ⟨hActive, -⟩
    refine ⟨?_, hTransaction, by simp [stopSession]⟩
    rw [hSession, hActive]
    rfl

/-- A transaction needs a session, and there is only one at a time. -/
theorem keepsIff_startTransaction (v : SessionView) :
    KeepsIff v v.startTransaction (v.sessionActive = true ∧ v.transactionActive = false) := by
  refine keepsIff_mark .transactionStarted rfl fun h => ?_
  have hSession : sessionBracket.depth v.startTransaction.marks = v.sessionActive.toNat := by
    simp [startTransaction, Bracket.depth_snoc, h.session]
  have hTransaction : transactionBracket.depth v.startTransaction.marks =
      v.transactionActive.toNat + 1 := by
    simp [startTransaction, Bracket.depth_snoc, h.transaction]
  refine ⟨?_, ?_⟩
  · rw [Nested, hSession, hTransaction]
    cases v.sessionActive <;> cases v.transactionActive <;> decide
  · rintro ⟨-, hActive⟩
    refine ⟨hSession, ?_, h.authorized⟩
    rw [hTransaction, hActive]
    rfl

/-- The guard makes this safe everywhere. -/
theorem keepsIff_closeTransaction (v : SessionView) : KeepsIff v v.closeTransaction True := by
  rw [closeTransaction]
  split_ifs with hActive
  · refine keepsIff_mark .transactionFinished rfl fun h => ?_
    have hSession : sessionBracket.depth v.stopTransaction.marks = v.sessionActive.toNat := by
      simp [stopTransaction, Bracket.depth_snoc, h.session]
    have hTransaction : transactionBracket.depth v.stopTransaction.marks = 0 := by
      simp [stopTransaction, Bracket.depth_snoc, h.transaction, hActive]
    refine ⟨?_, fun _ => ⟨hSession, hTransaction, h.authorized⟩⟩
    rw [Nested, hSession, hTransaction]
    cases v.sessionActive <;> decide
  · exact keepsIff_refl v

/-- The authorization itself is not seen in the marks. -/
theorem keepsIff_setAuthorized {v v' : SessionView} {safe : Prop} (a : Bool)
    (h : KeepsIff v v' safe) (hAuthorized : safe → a = true → v'.sessionActive = true) :
    KeepsIff v { v' with authorized := a } safe := by
  intro hConsistent hBracketed
  obtain ⟨hNext, hNextConsistent⟩ := h hConsistent hBracketed
  exact ⟨hNext, fun hSafe => ⟨(hNextConsistent hSafe).session, (hNextConsistent hSafe).transaction,
    hAuthorized hSafe⟩⟩

/-- A card opens a session where there is none, and does nothing where there is one. -/
theorem keepsIff_authorize_true (v : SessionView) : KeepsIff v (v.authorize true) True := by
  rw [authorize]
  rw [if_pos rfl]
  split_ifs with hSession
  · exact keepsIff_setAuthorized true (keepsIff_refl v) fun _ _ => hSession
  · exact keepsIff_setAuthorized true (keepsIff_startSession (by simpa using hSession))
      fun _ _ => rfl

/-- An authorization that is taken back in a transaction would end the session around it. -/
theorem keepsIff_authorize_false (v : SessionView) :
    KeepsIff v (v.authorize false)
      (v.sessionActive = true → v.transactionActive = false) := by
  rw [authorize]
  rw [if_neg (by simp)]
  split_ifs with hSession
  · refine keepsIff_setAuthorized false ?_ (by simp)
    exact (keepsIff_stopSession v).congr fun _ _ => by simp [hSession]
  · refine keepsIff_setAuthorized false ?_ (by simp)
    exact (keepsIff_refl v).congr fun _ _ => by simp [hSession]

/-- `Idle` closes a session that was forgotten, and does not look for its transaction. -/
theorem keepsIff_enterIdle (v : SessionView) :
    KeepsIff v v.enterIdle (v.transactionActive = false) := by
  have hAuthorize : KeepsIff v (v.authorize false) (v.transactionActive = false) := by
    refine (keepsIff_authorize_false v).congr fun hConsistent hBracketed => ?_
    have hInside := hBracketed.transaction_inside hConsistent
    cases hActive : v.transactionActive <;> simp_all
  intro hConsistent hBracketed
  obtain ⟨hNext, hNextConsistent⟩ := hAuthorize hConsistent hBracketed
  refine ⟨hNext, fun hSafe => ⟨(hNextConsistent hSafe).session, ?_,
    (hNextConsistent hSafe).authorized⟩⟩
  have hDepth := (hNextConsistent hSafe).transaction
  rw [transactionActive_authorize, hSafe] at hDepth
  exact hDepth

end SessionView

namespace World

/-- The calls that keep the nesting. A turn must not enter `Idle` with an open
transaction, nor enter `Finished` without a session, nor find an authorization
in `WaitingForAuthentication` while a transaction is open; and an authorization
must not be taken back from an open transaction. -/
def BracketSafe (w : World) (c : Call) : Prop :=
  match c.action with
  | .tick => socTimerFires w.charger = false →
      (w.charger.currentState = .idle → w.charger.lastState ≠ .idle →
        w.charger.transactionActive = false) ∧
      (w.charger.currentState = .finished → w.charger.lastState ≠ .finished →
        w.charger.sessionActive = true) ∧
      (w.charger.currentState = .waitingForAuthentication → w.charger.authorized = true →
        waitsForLimits w.charger = false → w.charger.transactionActive = false)
  | .authorize a _ _ =>
      a = false → w.charger.sessionActive = true → w.charger.transactionActive = false
  | .deAuthorize => deAuthorizes w.charger = true → w.charger.transactionActive = false
  | _ => True

open SessionView

/-- The start of a transaction is safe if none is running. -/
theorem keepsIff_waitingForAuthentication (newInState : Bool) (w : World) :
    KeepsIff w.view (w.waitingForAuthenticationView newInState)
      (w.charger.authorized = true → waitsForLimits w.charger = false →
        w.charger.transactionActive = false) := by
  dsimp only [waitingForAuthenticationView]
  split_ifs with hNew hStart hStart
  · exact absurd hStart.1 (by simp [SessionView.startSession])
  · have hIdle : w.charger.sessionActive = false := by simpa using (not_or.mp hNew.2).2
    refine (keepsIff_startSession hIdle).congr fun hConsistent _ => ?_
    have hAuthorized := hConsistent.authorized
    simp_all
  · refine (keepsIff_startTransaction w.view).congr fun hConsistent _ => ?_
    have hAuthorized := hConsistent.authorized
    simp_all
  · refine (keepsIff_refl w.view).congr fun _ _ => ?_
    simp_all

/-- The three states whose code may break the brackets, with their conditions. -/
theorem keepsIff_stateView (newInState : Bool) (w : World) :
    KeepsIff w.view (w.stateView newInState)
      ((w.charger.currentState = .idle → newInState = true →
          w.charger.transactionActive = false) ∧
        (w.charger.currentState = .finished → newInState = true →
          w.charger.sessionActive = true) ∧
        (w.charger.currentState = .waitingForAuthentication → w.charger.authorized = true →
          waitsForLimits w.charger = false → w.charger.transactionActive = false)) := by
  rw [stateView]
  cases hState : w.charger.currentState with
  | idle =>
      cases newInState
      · exact (keepsIff_refl w.view).congr fun _ _ => by simp
      · exact (keepsIff_enterIdle w.view).congr fun _ _ => by simp
  | finished =>
      cases newInState
      · exact (keepsIff_refl w.view).congr fun _ _ => by simp
      · refine ((keepsIff_closeTransaction w.view).trans (keepsIff_stopSession _)).congr
          fun _ _ => ?_
        simp [sessionActive_closeTransaction, transactionActive_closeTransaction]
  | stoppingCharging =>
      cases newInState
      · exact (keepsIff_refl w.view).congr fun _ _ => by simp
      · exact (keepsIff_closeTransaction w.view).congr fun _ _ => by simp
  | waitingForAuthentication =>
      exact (keepsIff_waitingForAuthentication newInState w).congr fun _ _ => by simp
  | _ => exact (keepsIff_refl w.view).congr fun _ _ => by simp

/-- The condition of a turn is that of its state. -/
theorem keepsIff_tick (now : ℤ) (w : World) :
    KeepsIff w.view w.tickView (BracketSafe w ⟨now, .tick⟩) := by
  unfold tickView BracketSafe
  cases hFires : socTimerFires w.charger with
  | true => exact (keepsIff_refl w.view).congr fun _ _ => by simp
  | false =>
      refine (keepsIff_stateView _
        (w.update fun c => { c with lastState := c.currentState })).congr fun _ _ => ?_
      simp +contextual only [update_charger, decide_eq_true_eq, forall_const]
      rfl

/-- Any call keeps the brackets exactly if it meets the condition that is stated for runs. -/
theorem keepsIff_call (w : World) (c : Call) :
    KeepsIff w.view (w.call c).view (BracketSafe w c) := by
  rw [view_call]
  obtain ⟨now, action⟩ := c
  rw [callView]
  cases action with
  | tick => exact keepsIff_tick now w
  | authorize a userid pnc =>
      cases a
      · exact (keepsIff_authorize_false w.view).congr fun _ _ => by simp [BracketSafe]
      · exact (keepsIff_authorize_true w.view).congr fun _ _ => by simp [BracketSafe]
  | deAuthorize =>
      dsimp only
      split_ifs with hEffective
      · refine (keepsIff_stopSession w.view).congr fun _ _ => ?_
        simp only [deAuthorizes, Bool.decide_and, Bool.and_eq_true, decide_eq_true_eq] at hEffective
        simp [BracketSafe, deAuthorizes, hEffective]
      · exact (keepsIff_refl w.view).congr fun _ _ => by simp [BracketSafe, hEffective]
  | cancelTransaction request => exact keepsIff_closeTransaction w.view
  | _ => exact keepsIff_refl w.view

/-- Histories only grow. -/
theorem marks_prefix_authorize (a : Bool) (v : SessionView) :
    v.marks <+: (v.authorize a).marks := by
  rw [SessionView.authorize]
  split_ifs <;> simp [SessionView.startSession, SessionView.stopSession]

theorem marks_prefix_closeTransaction (v : SessionView) :
    v.marks <+: v.closeTransaction.marks := by
  rw [SessionView.closeTransaction]
  split_ifs <;> simp [SessionView.stopTransaction]

theorem marks_prefix_stateView (newInState : Bool) (w : World) :
    w.view.marks <+: (w.stateView newInState).marks := by
  rw [stateView]
  split
  case h_1 =>
    split_ifs
    · exact marks_prefix_authorize false w.view
    · exact List.prefix_refl _
  case h_2 =>
    dsimp only [waitingForAuthenticationView]
    split_ifs <;> simp [SessionView.startSession, SessionView.startTransaction]
  case h_3 =>
    split_ifs
    · exact marks_prefix_closeTransaction w.view
    · exact List.prefix_refl _
  case h_4 =>
    split_ifs
    · exact (marks_prefix_closeTransaction w.view).trans (List.prefix_append _ _)
    · exact List.prefix_refl _
  case h_5 => exact List.prefix_refl _

/-- Marks are only ever added. -/
theorem marks_prefix_call (w : World) (c : Call) : w.view.marks <+: (w.call c).view.marks := by
  rw [view_call]
  rw [callView]
  split
  case h_1 =>
    rw [tickView]
    split_ifs
    · exact List.prefix_refl _
    · exact marks_prefix_stateView _ (w.update fun c => { c with lastState := c.currentState })
  case h_2 a _ _ _ => exact marks_prefix_authorize a w.view
  case h_3 =>
    split_ifs
    · exact List.prefix_append _ _
    · exact List.prefix_refl _
  case h_4 => exact marks_prefix_closeTransaction w.view
  case h_5 => exact List.prefix_refl _

/-- The marks of the view are the events that were really sent. -/
theorem bracketed_iff_events (w : World) :
    w.view.Bracketed ↔ WellBracketed sessionBracket transactionBracket w.events :=
  wellBracketed_filter SessionEvent.isMark ⟨rfl, rfl⟩ ⟨rfl, rfl⟩ w.events

end World

/-- The events of a run are well bracketed exactly if each of its calls is safe
in the state in which it is made. -/
theorem events_wellBracketed_iff (memory : Charger) (ppAmpacity : ℚ) (calls : List Call) :
    WellBracketed sessionBracket transactionBracket (World.run memory ppAmpacity calls).events ↔
      EveryStep World.call World.BracketSafe (World.create memory ppAmpacity) calls := by
  have hConsistent : (World.create memory ppAmpacity).view.Consistent :=
    ⟨rfl, rfl, by simp [World.create]⟩
  have hBracketed : (World.create memory ppAmpacity).view.Bracketed := wellBracketed_nil _ _
  rw [← World.bracketed_iff_events]
  refine run_iff_everyStep (fun w : World => w.view.Consistent)
    (fun w => w.view.Bracketed) hConsistent hBracketed ?_ ?_ ?_ calls
  · intro w c hConsistent hBracketed hSafe
    exact (World.keepsIff_call w c hConsistent hBracketed).2 hSafe
  · intro w c hConsistent hBracketed
    exact (World.keepsIff_call w c hConsistent hBracketed).1
  · intro w c hLost hBracketed
    obtain ⟨rest, hMarks⟩ := World.marks_prefix_call w c
    rw [SessionView.Bracketed, ← hMarks] at hBracketed
    exact hLost hBracketed.of_append

/-- The car is plugged in and unplugged again before the main loop comes round: a
session is finished, although none was started. -/
theorem events_not_wellBracketed_between_ticks :
    ¬ WellBracketed sessionBracket transactionBracket (World.run .blank 0
      [⟨0, .setup hlcSetup⟩, ⟨1, .enable⟩, ⟨50, .tick⟩, ⟨60, .processEvent .carPluggedIn 32⟩,
        ⟨70, .processEvent .carUnplugged 0⟩, ⟨100, .tick⟩, ⟨150, .tick⟩]).events := by
  decide

end EverestCore
