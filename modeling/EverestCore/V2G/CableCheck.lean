import EverestCore.Machine.Parties
import EverestCore.V2G.Circumstances
import EverestCore.V2G.StateTables

/-! The cable checks of `EvseManager`. A session starts one by `Start_CableCheck`, and it
runs in a thread of its own that knows nothing of the session: it closes the contactors,
raises the voltage, takes one isolation measurement, and reports by two commands. The
checks take their steps between the requests; no handler that waits reads or writes what
they report. Resistances and voltages are rational numbers. -/
namespace EverestCore.V2G
open Machine

/-- The equipment of the EVSE: whether it has an insulation monitoring device, and the
rating of its power supply. -/
structure EvseEquipment where
  hasImd : Bool
  maxExportVoltage : ℚ
  deriving DecidableEq, Repr

/-- An isolation measurement, and the session that ran when it was taken. -/
structure IsolationMeasurement where
  resistanceP : ℚ
  resistanceN : ℚ
  session : Option ℕ
  deriving DecidableEq, Repr

/-- A fault below 100 Ohm per volt of the rating, a warning below 500. -/
def EvseEquipment.classify (equipment : EvseEquipment) (m : IsolationMeasurement) :
    IsolationStatus :=
  let minResistanceOk := 500 * equipment.maxExportVoltage
  let minResistanceWarning := 100 * equipment.maxExportVoltage
  if m.resistanceN < minResistanceWarning ∨ m.resistanceP < minResistanceWarning then .fault
  else if m.resistanceN < minResistanceOk ∨ m.resistanceP < minResistanceOk then .warning
  else .valid

/-- How far a cable check is. -/
inductive CheckStage where
  | started
  -- without a monitoring device the result comes before the status
  | skipped
  | measured (m : IsolationMeasurement)
  | concluded (ok : Bool) (m : Option IsolationMeasurement)
  | finished (ok : Bool) (m : Option IsolationMeasurement)
  deriving DecidableEq, Repr

/-- A run of `cable_check`, with the number of the connection whose request started it. -/
structure CableCheck where
  startedBy : ℕ
  stage : CheckStage
  deriving DecidableEq, Repr

/-- The steps of a cable check. It gives up if the contactors stay open, if the voltage
does not rise, or if no measurement comes. -/
inductive CheckMove where
  | giveUp
  | measure (resistanceP resistanceN : ℚ)
  | classify (voltageIsBack : Bool)
  | report
  deriving DecidableEq, Repr

/-- `cable_check`. A step that does not fit has no effect. -/
def CableCheck.act (equipment : EvseEquipment) (server : Server) (check : CableCheck)
    (move : CheckMove) : Server × CableCheck :=
  match check.stage, move with
  | .started, .giveUp =>
      (server, if equipment.hasImd then { check with stage := .concluded false none } else check)
  | .started, .measure resistanceP resistanceN =>
      (server, if equipment.hasImd then
        { check with stage := .measured ⟨resistanceP, resistanceN, server.session⟩ } else check)
  | .started, .report =>
      if equipment.hasImd then (server, check)
      else (server.step (.command (.cableCheckFinished false)), { check with stage := .skipped })
  | .skipped, .report =>
      (server.step (.command (.setEVSEIsolationStatus .noIMD)),
        { check with stage := .finished false none })
  | .measured m, .classify voltageIsBack =>
      if voltageIsBack then
        let status := equipment.classify m
        (server.step (.command (.setEVSEIsolationStatus status)),
          { check with stage := .concluded (status ≠ .fault) (some m) })
      else (server, { check with stage := .concluded false (some m) })
  | .concluded ok m, .report =>
      (server.step (.command (.cableCheckFinished ok)), { check with stage := .finished ok m })
  | _, _ => (server, check)

/-- A good result that is still to be reported. -/
def CableCheck.isGood (check : CableCheck) : Bool :=
  match check.stage with
  | .concluded ok _ => ok
  | _ => false

/-- The two commands by which a cable check reports. Nothing else sends them. -/
def EvseCommand.isReport : EvseCommand → Bool
  | .cableCheckFinished _ | .setEVSEIsolationStatus _ => true
  | _ => false

def Input.reports : Input → Bool
  | .command sent => sent.isReport
  | .receive (.request _ around _) => around.meanwhile.any EvseCommand.isReport
  | _ => false

/-- The session comes to wait for the pre-charge. The state of that number is another one
for an AC charger. -/
def V2gRequest.entersPreCharge (before after : V2gContext) : V2gRequest → Bool
  | .din _ => before.state ≠ DinStateId.waitForPreCharge.id ∧
      after.state = DinStateId.waitForPreCharge.id
  | .iso _ => before.state ≠ IsoDcStateId.waitForPreCharge.id ∧
      after.state = IsoDcStateId.waitForPreCharge.id ∧ after.isDcCharger

namespace Server

/-- What the server does with the request that this input brings. -/
def handling (s : Server) : Input → Option (V2gRequest × Handling)
  | .receive (.request request around _) =>
      if s.stage = .serving request.protocol then
        some (request, request.handle s.isTlsConnection around s.ctx)
      else none
  | _ => none

def startsCableCheck (s : Server) (input : Input) : Bool :=
  (s.handling input).any fun handled => handled.2.published.contains .startCableCheck

def entersPreCharge (s : Server) (input : Input) : Bool :=
  (s.handling input).any fun handled => handled.1.entersPreCharge s.ctx handled.2.ctx

end Server

/-- The V2G server and the cable checks that it has started. -/
abbrev Bench := Parties Server CableCheck

inductive BenchInput where
  | server (input : Input)
  | check (i : ℕ) (move : CheckMove)
  deriving DecidableEq, Repr

namespace Bench

def start (config : Config) : Bench := ⟨Server.start config, []⟩

variable (equipment : EvseEquipment)

def step (s : Bench) : BenchInput → Bench
  | .server input =>
      if input.reports then s
      else
        let next : Bench := { s with shared := s.shared.step input }
        if s.shared.startsCableCheck input then next.join ⟨s.shared.connections, .started⟩
        else next
  | .check i move => s.turn (CableCheck.act equipment) i move

end Bench

/-- The check was started on this connection, and a measurement that was taken on it was
found in order. -/
def CableCheck.Passed (equipment : EvseEquipment) (connection : ℕ) (check : CableCheck) : Prop :=
  check.startedBy = connection ∧
    ∃ m, check.stage = .finished true (some m) ∧ m.session = some connection ∧
      (equipment.classify m = .valid ∨ equipment.classify m = .warning)

namespace Bench

variable (equipment : EvseEquipment)

/-- The session goes on to the pre-charge only after a check of its own. -/
def OnOwnCheck (s : Bench) : BenchInput → Prop
  | .server input => input.reports = false → s.shared.entersPreCharge input = true →
      ∃ check ∈ s.parties, check.Passed equipment s.shared.connections
  | .check _ _ => True

/-- A good result is reported while the connection that asked for it is still open. -/
def Punctual (s : Bench) : BenchInput → Prop
  | .check i .report => ∀ check ∈ s.parties[i]?, check.isGood = true →
      s.shared.session = some check.startedBy
  | _ => True

instance (s : Bench) (input : BenchInput) : Decidable (s.Punctual input) :=
  match input with
  | .check _ .report => by unfold Punctual; infer_instance
  | .server _ | .check _ .giveUp | .check _ (.measure _ _) | .check _ (.classify _) =>
      inferInstanceAs (Decidable True)

end Bench

namespace V2gContext

theorem setProcessing_of_ne {phase other : ChargingPhase} (h : phase ≠ other)
    (processing : EvseProcessing) (ctx : V2gContext) :
    (ctx.setProcessing other processing).evseProcessing phase = ctx.evseProcessing phase := by
  unfold setProcessing
  exact Function.update_of_ne h _ _

/-- Only a report of a cable check ends the isolation phase. -/
theorem command_isolation {ctx : V2gContext} {command : EvseCommand}
    (hReport : command.isReport = false) :
    (ctx.command command).evseProcessing .isolation = ctx.evseProcessing .isolation := by
  have hPhase : ChargingPhase.isolation ≠ .auth := by decide
  cases command with
  | cableCheckFinished status => cases hReport
  | setAuthOkayEIM authOkay =>
      cases authOkay with
      | false => rfl
      | true => exact setProcessing_of_ne hPhase _ ctx
  | setAuthOkayPnC status certificateStatus => exact setProcessing_of_ne hPhase _ ctx
  | stopCharging stop => cases stop <;> rfl
  | setEVSEUtilityInterruptEvent event => cases event <;> rfl
  | setEVSEMalfunction malfunction => cases malfunction <;> rfl
  | _ => rfl

theorem commands_isolation (ctx : V2gContext) {arriving : List EvseCommand}
    (hReport : arriving.any EvseCommand.isReport = false) :
    (ctx.commands arriving).evseProcessing .isolation = ctx.evseProcessing .isolation := by
  induction arriving generalizing ctx with
  | nil => rfl
  | cons command rest ih =>
      rw [List.any_cons, Bool.or_eq_false_iff] at hReport
      exact (ih (ctx.command command) hReport.2).trans (command_isolation hReport.1)

theorem isolation_of_dinNext {ctx : V2gContext} {body : DinBody}
    (h : ctx.dinNext body = some .waitForPreCharge) : ctx.evseProcessing .isolation = .finished := by
  cases body with
  | cableCheck =>
      rw [dinNext, Option.some.injEq] at h
      split at h
      · next hPassed =>
          have hFinished : ctx.dinProcessing .isolation = .finished := (of_decide_eq_true hPassed).1
          unfold dinProcessing at hFinished
          split at hFinished
          · assumption
          · cases hFinished
      · cases h
  | contractAuthentication =>
      rw [dinNext, Option.some.injEq] at h
      split at h <;> cases h
  | chargeParameterDiscovery requestedType acParameterIsUsed =>
      rw [dinNext, Option.some.injEq] at h
      split at h <;> cases h
  | powerDelivery readyToChargeState profileTupleId =>
      rw [dinNext, Option.some.injEq] at h
      split at h <;> cases h
  | _ => cases h

/-- The number of the state is that of another one where the charger is one of AC. -/
theorem isolation_of_isoNext {around : Surroundings} {ctx : V2gContext} {body : IsoBody}
    (h : ctx.isoNext around body = some IsoDcStateId.waitForPreCharge.id)
    (hKind : ∀ progress tupleId, body = .powerDelivery progress tupleId →
      (ctx.commands around.meanwhile).isDcCharger = true) :
    ctx.evseProcessing .isolation = .finished := by
  cases body with
  | cableCheck =>
      rw [isoNext, Option.some.injEq] at h
      split at h
      · assumption
      · cases h
  | powerDelivery progress tupleId =>
      rw [isoNext, hKind progress tupleId rfl, if_pos rfl, if_pos rfl, Option.some.injEq] at h
      split at h
      · cases h
      · split at h <;> cases h
  | paymentServiceSelection option services => cases option <;> cases h
  | authorization req =>
      rw [isoNext, Option.some.injEq] at h
      split at h <;> cases h
  | chargeParameterDiscovery requestedMode acParameterIsUsed dcParameterIsUsed =>
      rw [isoNext, Option.some.injEq] at h
      split at h
      · split at h <;> cases h
      · cases h
  | currentDemand voltage current =>
      rw [isoNext, Option.some.injEq] at h
      split at h <;> cases h
  | chargingStatus =>
      rw [isoNext, Option.some.injEq] at h
      split at h <;> cases h
  | meteringReceipt =>
      rw [isoNext, Option.some.injEq] at h
      split at h <;> cases h
  | _ => cases h

end V2gContext

namespace V2gRequest

/-- No request finishes the isolation phase. -/
theorem handle_isolation {request : V2gRequest} {isTlsConnection : Bool} {around : Surroundings}
    {ctx : V2gContext} (hReport : (request.takesUp around).any EvseCommand.isReport = false)
    (h : (request.handle isTlsConnection around ctx).ctx.evseProcessing .isolation = .finished) :
    ctx.evseProcessing .isolation = .finished := by
  have hKept := congrArg Circumstances.isolationProcessing
    (request.handle_circumstances isTlsConnection around ctx)
  have hAfter := hKept.symm.trans h
  rcases (request.sideEffect_onlyReset isTlsConnection
    (ctx.commands (request.takesUp around))).isolationProcessing with hSame | hReset
  · rw [← ctx.commands_isolation hReport]
    exact hSame.symm.trans hAfter
  · cases hReset.symm.trans hAfter

/-- The pre-charge is entered by the cable check, and once the isolation phase is
finished. -/
theorem isolation_of_entersPreCharge {request : V2gRequest} {isTlsConnection : Bool}
    {around : Surroundings} {ctx : V2gContext}
    (h : request.entersPreCharge ctx (request.handle isTlsConnection around ctx).ctx = true) :
    ctx.evseProcessing .isolation = .finished := by
  cases request with
  | din request =>
      obtain ⟨hBefore, hAfter⟩ := of_decide_eq_true h
      rw [handle] at hAfter
      by_cases hIgnored : request.v2gMessageIsUsed = false ∨ request.body.msg = none
      · rw [(dinHandleRequest_ignored around ctx hIgnored).2.2.1] at hAfter
        exact absurd hAfter hBefore
      · rw [not_or, Bool.not_eq_false] at hIgnored
        obtain ⟨msg, hMsg⟩ := Option.ne_none_iff_exists'.mp hIgnored.2
        obtain ⟨next, hNext, -⟩ := V2gContext.dinNext_of_msg ctx hMsg
        rw [dinHandleRequest_state around hIgnored.1 hNext] at hAfter
        rw [DinStateId.id_injective hAfter] at hNext
        exact V2gContext.isolation_of_dinNext hNext
  | iso request =>
      obtain ⟨hBefore, hAfter, hDc⟩ := of_decide_eq_true h
      obtain ⟨used, sessionId, body⟩ := request
      cases used with
      | false => exact absurd hAfter hBefore
      | true =>
          have hKind := (isoHandleRequest_isDcCharger around isTlsConnection ⟨true, sessionId, body⟩
            ctx rfl { ctx := ctx, event := .noEvent }).symm.trans hDc
          rw [handle, isoHandleRequest_used around isTlsConnection ctx rfl,
            Handling.noteLastMsg_ctx] at hAfter
          have hReceived := isoNext_received around ctx (v2gSessionIdFromExi sessionId) body
          cases hNext : ctx.isoNext around body with
          | none =>
              rw [(isoDispatch_of_isoNext_eq_none (hReceived.trans hNext)).1] at hAfter
              exact absurd hAfter hBefore
          | some next =>
              rw [V2gContext.isoDispatch_next around _ isTlsConnection (hReceived.trans hNext)]
                at hAfter
              rw [hAfter] at hNext
              refine V2gContext.isolation_of_isoNext hNext ?_
              rintro progress tupleId rfl
              exact hKind

end V2gRequest

/-- A request that enters the pre-charge comes on an open connection. -/
theorem Server.isolation_of_handling {s : Server} {input : Input} {request : V2gRequest}
    {handling : Handling} (h : s.handling input = some (request, handling))
    (hEnters : request.entersPreCharge s.ctx handling.ctx = true) :
    s.stage = .serving request.protocol ∧ s.ctx.evseProcessing .isolation = .finished := by
  unfold Server.handling at h
  split at h
  · split at h
    · next hStage =>
        cases h
        exact ⟨hStage, V2gRequest.isolation_of_entersPreCharge hEnters⟩
    · cases h
  · cases h

namespace CableCheck

/-- What is known of a check. Its number is that of a connection that has been opened; a
measurement of an open connection's check was taken on that connection; and a good result
rests on a measurement that was found in order. -/
structure Sound (equipment : EvseEquipment) (server : Server) (check : CableCheck) : Prop where
  opened : check.startedBy ≤ server.connections
  measured : ∀ m, (check.stage = .measured m ∨ ∃ ok, check.stage = .concluded ok (some m)) →
    server.session = some check.startedBy → m.session = some check.startedBy
  good : ∀ m, check.stage = .concluded true m → ∃ taken, m = some taken ∧
    (equipment.classify taken = .valid ∨ equipment.classify taken = .warning)

variable {equipment : EvseEquipment} {server next : Server} {check : CableCheck}

/-- A check stays sound while no other connection takes the place of its own. -/
theorem Sound.mono (h : check.Sound equipment server) (hCount : server.connections ≤ next.connections)
    (hSession : next.session = some check.startedBy → server.session = some check.startedBy) :
    check.Sound equipment next :=
  ⟨h.opened.trans hCount, fun m hStage hNext => h.measured m hStage (hSession hNext), h.good⟩

theorem sound_started (equipment : EvseEquipment) (server : Server) :
    Sound equipment server ⟨server.connections, .started⟩ := by
  refine ⟨Nat.le_refl _, ?_, ?_⟩
  · rintro m (hStage | ⟨ok, hStage⟩) <;> cases hStage
  · intro m hStage
    cases hStage

theorem classify_of_ne_fault {m : IsolationMeasurement} (h : equipment.classify m ≠ .fault) :
    equipment.classify m = .valid ∨ equipment.classify m = .warning := by
  unfold EvseEquipment.classify at h ⊢
  dsimp only at h ⊢
  split
  · next hFault =>
      rw [if_pos hFault] at h
      exact absurd rfl h
  · split
    · exact .inr rfl
    · exact .inl rfl

theorem act_session (equipment : EvseEquipment) (server : Server) (check : CableCheck)
    (move : CheckMove) :
    (check.act equipment server move).1.session = server.session ∧
      (check.act equipment server move).1.connections = server.connections := by
  unfold act
  split
  · exact ⟨rfl, rfl⟩
  · exact ⟨rfl, rfl⟩
  · split
    · exact ⟨rfl, rfl⟩
    · exact server.session_command _
  · exact server.session_command _
  · split
    · exact server.session_command _
    · exact ⟨rfl, rfl⟩
  · exact server.session_command _
  · exact ⟨rfl, rfl⟩

/-- A check stays what it is to its session, and it stays finished. -/
theorem Passed.act {connection : ℕ} (h : check.Passed equipment connection) (server : Server)
    (move : CheckMove) : (check.act equipment server move).2.Passed equipment connection := by
  obtain ⟨startedBy, stage⟩ := check
  obtain ⟨hStarted, m, hStage, hSession, hClass⟩ := h
  have hFinished : stage = .finished true (some m) := hStage
  subst hFinished
  cases move <;> exact ⟨hStarted, m, rfl, hSession, hClass⟩

/-- A check without a measurement and without a good result. -/
theorem sound_of_stage {startedBy : ℕ} {stage : CheckStage}
    (hOpened : startedBy ≤ server.connections) (hMeasured : ∀ m, stage ≠ .measured m)
    (hConcluded : ∀ ok m, stage ≠ .concluded ok (some m)) (hGood : ∀ m, stage ≠ .concluded true m) :
    Sound equipment server ⟨startedBy, stage⟩ := by
  refine ⟨hOpened, ?_, ?_⟩
  · rintro m (hStage | ⟨ok, hStage⟩)
    · exact absurd hStage (hMeasured m)
    · exact absurd hStage (hConcluded ok m)
  · intro m hStage
    exact absurd hStage (hGood m)

theorem Sound.act (h : check.Sound equipment server) (move : CheckMove) :
    (check.act equipment server move).2.Sound equipment server := by
  obtain ⟨startedBy, stage⟩ := check
  cases stage with
  | started =>
      unfold CableCheck.act
      cases hImd : equipment.hasImd with
      | false =>
          cases move with
          | report => exact sound_of_stage h.opened nofun nofun nofun
          | _ => exact h
      | true =>
          cases move with
          | giveUp => exact sound_of_stage h.opened nofun nofun nofun
          | measure resistanceP resistanceN =>
              refine ⟨h.opened, ?_, nofun⟩
              -- the measurement belongs to the session that is open now
              rintro m (hStage | ⟨ok, hStage⟩) hSession
              · cases hStage
                exact hSession
              · cases hStage
          | _ => exact h
  | skipped =>
      cases move with
      | report => exact sound_of_stage h.opened nofun nofun nofun
      | _ => exact h
  | measured m =>
      cases move with
      | classify voltageIsBack =>
          have hTaken : ∀ ok taken, CheckStage.concluded ok (some m) = .measured taken ∨
              (∃ ok', CheckStage.concluded ok (some m) = .concluded ok' (some taken)) →
              server.session = some startedBy → taken.session = some startedBy := by
            rintro ok taken (hStage | ⟨ok', hStage⟩) hSession
            · cases hStage
            · cases hStage
              exact h.measured m (.inl rfl) hSession
          cases voltageIsBack with
          | true =>
              refine ⟨h.opened, hTaken _, ?_⟩
              intro taken hStage
              have hGood : decide (equipment.classify m ≠ .fault) = true ∧ some m = taken :=
                CheckStage.concluded.inj hStage
              exact ⟨m, hGood.2.symm, classify_of_ne_fault (of_decide_eq_true hGood.1)⟩
          | false =>
              refine ⟨h.opened, hTaken _, ?_⟩
              intro taken hStage
              cases hStage
      | _ => exact h
  | concluded ok m =>
      cases move with
      | report => exact sound_of_stage h.opened nofun nofun nofun
      | _ => exact h
  | finished ok m => cases move <;> exact h

theorem finished_isolation (server : Server) (ok : Bool) :
    (server.step (.command (.cableCheckFinished ok))).ctx.evseProcessing .isolation =
      if ok then .finished else .ongoing := by
  rw [Server.step, Server.note_ctx]
  exact Function.update_self ChargingPhase.isolation _ server.ctx.evseProcessing

/-- The isolation phase is finished by the report of a good result only. -/
theorem act_isolation (move : CheckMove)
    (h : (check.act equipment server move).1.ctx.evseProcessing .isolation = .finished) :
    server.ctx.evseProcessing .isolation = .finished ∨
      ∃ m, check.stage = .concluded true m ∧ move = .report ∧
        (check.act equipment server move).2 = { check with stage := .finished true m } := by
  obtain ⟨startedBy, stage⟩ := check
  cases stage with
  | started =>
      cases move with
      | report =>
          unfold CableCheck.act at h
          dsimp only at h
          split at h
          · exact .inl h
          · rw [finished_isolation] at h
            cases h
      | _ => exact .inl h
  | skipped => cases move <;> exact .inl h
  | measured m =>
      cases move with
      | classify voltageIsBack => cases voltageIsBack <;> exact .inl h
      | _ => exact .inl h
  | concluded ok m =>
      cases move with
      | report =>
          have hReported := (finished_isolation server ok).symm.trans h
          cases ok with
          | false => cases hReported
          | true => exact .inr ⟨m, rfl, rfl, rfl⟩
      | _ => exact .inl h
  | finished ok m => cases move <;> exact .inl h

end CableCheck

namespace Bench

/-- The checks are sound, and the isolation phase is finished only on an open connection
and after a check of its own. -/
structure Sound (equipment : EvseEquipment) (s : Bench) : Prop where
  checks : ∀ check ∈ s.parties, check.Sound equipment s.shared
  isolation : s.shared.ctx.evseProcessing .isolation = .finished →
    ∃ connection, s.shared.session = some connection ∧
      ∃ check ∈ s.parties, check.Passed equipment connection

variable {equipment : EvseEquipment} {s : Bench}

/-- The number of a session is new, or it was that of the session before. -/
theorem session_step (server : Server) (input : Input) {connection : ℕ}
    (hKnown : connection ≤ server.connections)
    (h : (server.step input).session = some connection) : server.session = some connection := by
  cases server.step_passage input with
  | stays hSession hCtx => rwa [hSession] at h
  | begins hBefore hSession hCtx =>
      rw [hSession, Option.some.injEq] at h
      omega
  | ends inner hSession hInner hCtx =>
      rw [hSession] at h
      cases h
  | exchanged request around delivered hInput hStage hAfter =>
      rcases hAfter with ⟨hSession, -⟩ | ⟨hSession, -⟩
      · rwa [hSession] at h
      · rw [hSession] at h
        cases h
  | commanded command hInput hSession hCtx => rwa [hSession] at h

/-- Whatever the server does by itself leaves the isolation phase to its own checks. -/
theorem isolation_step (server : Server) {input : Input} (hReports : input.reports = false)
    (h : (server.step input).ctx.evseProcessing .isolation = .finished) :
    server.ctx.evseProcessing .isolation = .finished ∧
      (server.session ≠ none → (server.step input).session = server.session) := by
  cases server.step_passage input with
  | stays hSession hCtx =>
      have hKept := congrArg Circumstances.isolationProcessing hCtx
      exact ⟨hKept.symm.trans h, fun _ => hSession⟩
  | begins hBefore hSession hCtx =>
      rw [hCtx] at h
      exact ⟨h, fun hOpen => absurd hBefore hOpen⟩
  | ends inner hSession hInner hCtx =>
      rw [hCtx] at h
      cases h
  | exchanged request around delivered hInput hStage hAfter =>
      rcases hAfter with ⟨hSession, hCtx⟩ | ⟨hSession, hCtx⟩
      · rw [hCtx] at h
        rw [hInput] at hReports
        exact ⟨V2gRequest.handle_isolation (request.takesUp_any hReports) h, fun _ => hSession⟩
      · rw [hCtx] at h
        cases h
  | commanded command hInput hSession hCtx =>
      rw [hInput] at hReports
      rw [hCtx, V2gContext.command_isolation hReports] at h
      exact ⟨h, fun _ => hSession⟩

theorem Sound.server (h : s.Sound equipment) {input : Input} (hReports : input.reports = false) :
    Sound equipment { s with shared := s.shared.step input } := by
  constructor
  · intro check hCheck
    have hSound := h.checks check hCheck
    exact hSound.mono (s.shared.connections_le_step input) (session_step s.shared input hSound.opened)
  · intro hFinished
    obtain ⟨hBefore, hSession⟩ := isolation_step s.shared hReports hFinished
    obtain ⟨connection, hConnection, hPassed⟩ := h.isolation hBefore
    refine ⟨connection, ?_, hPassed⟩
    rw [hSession (by rw [hConnection]; exact Option.some_ne_none _), hConnection]

theorem Sound.join (h : s.Sound equipment) {check : CableCheck}
    (hCheck : check.Sound equipment s.shared) : Sound equipment (s.join check) := by
  constructor
  · exact Parties.forall_join h.checks hCheck
  · intro hFinished
    obtain ⟨connection, hConnection, passed, hMem, hPassed⟩ := h.isolation hFinished
    exact ⟨connection, hConnection, passed, List.mem_append_left _ hMem, hPassed⟩

/-- A good result that is reported in time is one of the open connection. -/
theorem Sound.turn (h : s.Sound equipment) (i : ℕ) (move : CheckMove)
    (hPunctual : s.Punctual (.check i move)) :
    Sound equipment (s.turn (CableCheck.act equipment) i move) := by
  apply Parties.turn_invariant (Sound equipment) h
  intro check hCheck
  have hShared : (s.turn (CableCheck.act equipment) i move).shared =
      (check.act equipment s.shared move).1 := Parties.shared_turn hCheck
  obtain ⟨hSession, hCount⟩ := check.act_session equipment s.shared move
  have hSound := h.checks check (List.mem_of_getElem? hCheck)
  constructor
  · have hAll : ∀ other ∈ (s.turn (CableCheck.act equipment) i move).parties,
        other.Sound equipment s.shared :=
      Parties.forall_turn h.checks fun other hOther =>
        (h.checks other (List.mem_of_getElem? hOther)).act move
    intro other hOther
    rw [hShared]
    exact (hAll other hOther).mono hCount.ge fun hOpen => hSession ▸ hOpen
  · intro hFinished
    rw [hShared] at hFinished ⊢
    rw [hSession]
    rcases CableCheck.act_isolation move hFinished with hBefore | ⟨m, hStage, rfl, hAct⟩
    · obtain ⟨connection, hConnection, hPassed⟩ := h.isolation hBefore
      refine ⟨connection, hConnection, Parties.exists_turn hPassed ?_⟩
      exact fun other _ hOther => hOther.act s.shared move
    · have hGood : check.isGood = true := by
        rw [CableCheck.isGood, hStage]
      have hOpen := hPunctual check hCheck hGood
      obtain ⟨taken, rfl, hClass⟩ := hSound.good m hStage
      have hTaken := hSound.measured taken (.inr ⟨true, hStage⟩) hOpen
      refine ⟨check.startedBy, hOpen, { check with stage := .finished true (some taken) }, ?_, ?_⟩
      · rw [Parties.turn_of_some hCheck, hAct]
        exact List.mem_set (List.getElem?_eq_some_iff.mp hCheck).1 _
      · exact ⟨rfl, taken, rfl, hTaken, hClass⟩

theorem step_sound (s : Bench) (input : BenchInput) (h : s.Sound equipment)
    (hPunctual : s.Punctual input) : Sound equipment (s.step equipment input) := by
  cases input with
  | check i move => exact h.turn i move hPunctual
  | server input =>
      rw [step]
      split
      · exact h
      · next hReports =>
          have hNext := h.server (Bool.eq_false_iff.mpr hReports)
          dsimp only
          split
          · apply hNext.join
            exact (CableCheck.sound_started equipment s.shared).mono
              (s.shared.connections_le_step input) (session_step s.shared input (Nat.le_refl _))
          · exact hNext

theorem Sound.onOwnCheck (h : s.Sound equipment) (input : BenchInput) :
    s.OnOwnCheck equipment input := by
  cases input with
  | check i move => exact trivial
  | server input =>
      intro hReports hEnters
      obtain ⟨⟨request, handling⟩, hHandling, hRequest⟩ := (Option.any_eq_true _ _).mp hEnters
      obtain ⟨hStage, hIsolation⟩ := Server.isolation_of_handling hHandling hRequest
      obtain ⟨connection, hConnection, hPassed⟩ := h.isolation hIsolation
      rw [Server.session_of_open (Server.ne_idle_of_serving hStage), Option.some.injEq]
        at hConnection
      rwa [hConnection]

/-- In every run in which the good results come in time, a session goes on to the
pre-charge only after a check of its own. -/
theorem preCharge_on_own_check (equipment : EvseEquipment) (config : Config)
    (inputs : List BenchInput)
    (hPunctual : EveryStep (step equipment) Punctual (start config) inputs) :
    EveryStep (step equipment) (OnOwnCheck equipment) (start config) inputs := by
  have hStart : Sound equipment (start config) := by
    refine ⟨by simp [start], ?_⟩
    intro hFinished
    cases hFinished
  refine everyStep_of_invariant (Sound equipment) hStart step_sound ?_ inputs hPunctual
  intro s input hSound _
  exact hSound.onOwnCheck input

/-- A session of DIN 70121 up to its cable check. -/
def toCableCheck : List BenchInput :=
  (openConnection .din70121 ++ dinSetup ++ [.command (.setAuthOkayEIM true),
    dinInput .contractAuthentication,
    dinInput (.chargeParameterDiscovery .dcExtended false)]).map .server

/-- A `CableCheckReq`. The first one of a session starts the check of the EVSE. -/
def cableCheckReq : BenchInput := .server (dinInput .cableCheck)

/-- A check that finds the isolation in order, up to its report. -/
def goodCheck (i : ℕ) : List BenchInput :=
  [.check i (.measure 500000 500000), .check i (.classify true), .check i .report]

/-- The equipment of an EVSE for up to 920 V. -/
def dcEquipment : EvseEquipment := ⟨true, 920⟩

/-- A session that waits for its own check goes on to the pre-charge. -/
theorem preCharge_after_goodCheck :
    let inputs := toCableCheck ++ [cableCheckReq] ++ goodCheck 0 ++ [cableCheckReq]
    (run (step dcEquipment) (start strictConfig) inputs).shared.ctx.state =
        DinStateId.waitForPreCharge.id ∧
      EveryStep (step dcEquipment) Punctual (start strictConfig) inputs ∧
      EveryStep (step dcEquipment) (OnOwnCheck dcEquipment) (start strictConfig) inputs := by
  intro inputs
  have hPunctual : EveryStep (step dcEquipment) Punctual (start strictConfig) inputs := by
    decide +kernel
  exact ⟨by decide +kernel, hPunctual,
    preCharge_on_own_check dcEquipment strictConfig inputs hPunctual⟩

/-- The car closes the connection before the check is through. The next session goes on
to the pre-charge with its first cable check, on the result of the one before. -/
theorem preCharge_on_earlier_check :
    ¬ EveryStep (step dcEquipment) (OnOwnCheck dcEquipment) (start strictConfig)
      (toCableCheck ++ [cableCheckReq, .server (.receive .closedByPeer)] ++ goodCheck 0 ++
        toCableCheck ++ [cableCheckReq]) := by
  intro h
  obtain ⟨check, hCheck, hPassed⟩ := ((everyStep_snoc _ _ _ _ _).mp h).2 rfl (by decide +kernel)
  have hOther : ∀ check ∈ (run (step dcEquipment) (start strictConfig) (toCableCheck ++
      [cableCheckReq, .server (.receive .closedByPeer)] ++ goodCheck 0 ++ toCableCheck)).parties,
      check.startedBy = 1 := by
    decide
  exact absurd ((hOther check hCheck).symm.trans hPassed.1) (by decide)

end Bench

end EverestCore.V2G
