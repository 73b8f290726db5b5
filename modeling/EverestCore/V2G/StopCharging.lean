import EverestCore.Machine.Parties
import EverestCore.V2G.Circumstances

/-! Requests of the EVSE to stop the charging. Each of them runs in a thread of its own:
it notifies the car, looks once a second for ten seconds whether the connection is
terminated, and stops the session with failed responses if it is not. The threads take
their steps between the requests of the car. They know nothing of the sessions; what they
have written is watched together with the session for which it was asked. -/
namespace EverestCore.V2G
open Machine

/-- How far a request to stop is. -/
inductive StopStage where
  | issued
  | polling (polls : ℕ)
  | expired
  | done
  deriving DecidableEq, Repr

/-- A thread of `handle_stop_charging`, and the session in which it was asked for. -/
structure StopRequest where
  issuedIn : Option ℕ
  stage : StopStage
  deriving DecidableEq, Repr

/-- The server, and the sessions for which the last notification and the last timeout
were written. -/
structure WatchedServer where
  server : Server
  notifiedFor : Option ℕ
  expiredFor : Option ℕ

inductive StopMove where
  | begin
  | poll
  | expire
  deriving DecidableEq, Repr

/-- The seconds that a session is given to end. -/
def gracefulShutdownPolls : ℕ := 10

/-- The thread of `handle_stop_charging`. A step that does not fit has no effect. -/
def StopRequest.act (watched : WatchedServer) (request : StopRequest) (move : StopMove) :
    WatchedServer × StopRequest :=
  match request.stage, move with
  | .issued, .begin =>
      ({ watched with
          server := watched.server.step (.command (.stopCharging true))
          notifiedFor := request.issuedIn },
        { request with stage := .polling 0 })
  | .polling polls, .poll =>
      (watched, { request with
        stage := if watched.server.ctx.isConnectionTerminated then .done
          else if polls + 1 < gracefulShutdownPolls then .polling (polls + 1) else .expired })
  | .expired, .expire =>
      ({ watched with
          server := watched.server.step (.command .stopChargingTimeout)
          expiredFor := request.issuedIn },
        { request with stage := .done })
  | _, _ => (watched, request)

/-- What the threads of `handle_stop_charging` write. Nothing else does. -/
def EvseCommand.isStop : EvseCommand → Bool
  | .stopCharging stop => stop
  | .stopChargingTimeout => true
  | _ => false

def Input.stops : Input → Bool
  | .command sent => sent.isStop
  | .receive (.request _ around _) => around.meanwhile.any EvseCommand.isStop
  | _ => false

/-- The V2G server and the requests to stop. -/
abbrev StopBench := Parties WatchedServer StopRequest

inductive StopInput where
  | server (input : Input)
  | stopCharging
  | request (i : ℕ) (move : StopMove)
  deriving DecidableEq, Repr

namespace StopBench

def start (config : Config) : StopBench := ⟨⟨Server.start config, none, none⟩, []⟩

def step (s : StopBench) : StopInput → StopBench
  | .server input =>
      if input.stops then s
      else { s with shared := { s.shared with server := s.shared.server.step input } }
  | .stopCharging => s.join ⟨s.shared.server.session, .issued⟩
  | .request i move => s.turn StopRequest.act i move

end StopBench

/-- The notification and the status codes of a stop show. -/
def V2gContext.announcesStop (ctx : V2gContext) : Prop :=
  ctx.evseNotification = .stopCharging ∨ ∃ phase, ctx.evseStatusCode phase = .shutdown

namespace WatchedServer

/-- Nothing that was asked for in an earlier session is in effect in the session that is
open. -/
def SparesLaterSessions (watched : WatchedServer) : Prop :=
  ∀ current, watched.server.session = some current →
    (∀ earlier, watched.notifiedFor = some earlier → earlier < current →
      ¬ watched.server.ctx.announcesStop) ∧
    (∀ earlier, watched.expiredFor = some earlier → earlier < current →
      watched.server.ctx.stopHlc = false)

end WatchedServer

/-- A connection is opened by this input. -/
def Server.opens (s : Server) : Input → Bool
  | .connect isTls tlsHandshake allocates =>
      s.stage = .idle ∧ s.ctx.state = 0 ∧ (!isTls || tlsHandshake) ∧ allocates
  | _ => false

instance {p : ChargingPhase → Prop} [DecidablePred p] : Decidable (∀ phase, p phase) :=
  decidable_of_iff (∀ phase ∈ [ChargingPhase.init, .auth, .parameter, .isolation, .precharge,
    .charge, .welding, .stop], p phase) ⟨fun h phase => h phase (by cases phase <;> simp),
    fun h phase _ => h phase⟩

namespace StopBench

/-- A request begins while the session in which it was issued is connected, its timeout
does not come in another session, and a connection is opened only when no earlier request
to stop shows any more. -/
def Timely (s : StopBench) : StopInput → Prop
  | .server input => s.shared.server.opens input = true → s.shared.notifiedFor ≠ none →
      ∀ phase, s.shared.server.ctx.evseStatusCode phase ≠ .shutdown
  | .stopCharging => True
  | .request i .begin => ∀ request ∈ s.parties[i]?, request.stage = .issued →
      ∀ issuedIn ∈ request.issuedIn, s.shared.server.session = some issuedIn
  | .request _ .poll => True
  | .request i .expire => ∀ request ∈ s.parties[i]?, request.stage = .expired →
      ∀ issuedIn ∈ request.issuedIn, ∀ current ∈ s.shared.server.session, current = issuedIn

instance (s : StopBench) (input : StopInput) : Decidable (s.Timely input) :=
  match input with
  | .server _ | .request _ .begin | .request _ .expire => by unfold Timely; infer_instance
  | .stopCharging | .request _ .poll => inferInstanceAs (Decidable True)

end StopBench

/-- No sign of a request to stop shows after a step that did not show before. -/
structure Circumstances.NoNewStop (before after : Circumstances) : Prop where
  notification : after.evseNotification = .stopCharging → before.evseNotification = .stopCharging
  codes : ∀ phase, after.evseStatusCode phase = .shutdown →
    before.evseStatusCode phase = .shutdown
  stopHlc : after.stopHlc = true → before.stopHlc = true

namespace Circumstances

/-- Without a change there is no new stop. -/
theorem NoNewStop.refl (circumstances : Circumstances) : NoNewStop circumstances circumstances :=
  ⟨id, fun _ => id, id⟩

/-- Two changes without a new stop make one. -/
theorem NoNewStop.trans {first second third : Circumstances} (h : NoNewStop first second)
    (h' : NoNewStop second third) : NoNewStop first third :=
  ⟨h.notification ∘ h'.notification, fun phase => h.codes phase ∘ h'.codes phase,
    h.stopHlc ∘ h'.stopHlc⟩

/-- A reset brings no new stop. -/
theorem OnlyReset.noNewStop {before after : Circumstances} (h : OnlyReset before after) :
    NoNewStop before after := by
  constructor
  · intro hStop
    rcases h.evseNotification with hSame | hNone
    · exact hSame.symm.trans hStop
    · cases hNone.symm.trans hStop
  · intro phase hStop
    rw [← h.evseStatusCode]
    exact hStop
  · intro hStop
    rw [← h.stopHlc]
    exact hStop

end Circumstances

namespace V2gContext

open Circumstances

/-- A command that is no stop brings none. -/
theorem command_noNewStop (ctx : V2gContext) {command : EvseCommand}
    (hStop : command.isStop = false) :
    NoNewStop ctx.circumstances (ctx.command command).circumstances := by
  cases command with
  | stopCharging stop =>
      cases stop with
      | true => cases hStop
      | false => exact ⟨id, fun _ => id, nofun⟩
  | stopChargingTimeout => cases hStop
  | setAuthOkayEIM authOkay => cases authOkay <;> exact NoNewStop.refl _
  | setEVSEUtilityInterruptEvent event =>
      cases event with
      | false => exact NoNewStop.refl _
      | true => exact ⟨id, fun _ => nofun, id⟩
  | setEVSEMalfunction malfunction =>
      cases malfunction with
      | false => exact NoNewStop.refl _
      | true => exact ⟨id, fun _ => nofun, id⟩
  | _ => exact ⟨id, fun _ => id, id⟩

/-- Commands without a stop among them bring none. -/
theorem commands_noNewStop (ctx : V2gContext) {arriving : List EvseCommand}
    (hStop : arriving.any EvseCommand.isStop = false) :
    NoNewStop ctx.circumstances (ctx.commands arriving).circumstances := by
  induction arriving generalizing ctx with
  | nil => exact NoNewStop.refl _
  | cons command rest ih =>
      rw [List.any_cons, Bool.or_eq_false_iff] at hStop
      exact (ctx.command_noNewStop hStop.1).trans (ih (ctx.command command) hStop.2)

end V2gContext

open Circumstances

/-- A request brings no new stop, if none arrives meanwhile. -/
theorem V2gRequest.handle_noNewStop (request : V2gRequest) (isTlsConnection : Bool)
    {around : Surroundings} (ctx : V2gContext)
    (hStop : around.meanwhile.any EvseCommand.isStop = false) :
    NoNewStop ctx.circumstances (request.handle isTlsConnection around ctx).ctx.circumstances := by
  rw [request.handle_circumstances]
  exact (ctx.commands_noNewStop (request.takesUp_any hStop)).trans
    (request.sideEffect_onlyReset isTlsConnection _).noNewStop

namespace Server

/-- A server without a session that has one after an input has opened it. -/
theorem opens_of_session {s : Server} {input : Input} (hBefore : s.session = none)
    {connection : ℕ} (h : (s.step input).session = some connection) : s.opens input = true := by
  have hIdle : s.stage = .idle := by
    by_contra hOpen
    rw [session_of_open hOpen] at hBefore
    cases hBefore
  have hNot : ∀ next : Server, next.session = some connection → next.stage ≠ .idle := by
    intro next hNext hStage
    rw [session_of_idle hStage] at hNext
    cases hNext
  cases input with
  | connect isTls tlsHandshake allocates =>
      rw [step, if_pos hIdle] at h
      unfold connect at h
      split at h
      · exact (hNot _ h hIdle).elim
      · next hTls =>
          split at h
          · split at h
            · exact (hNot _ h hIdle).elim
            · exact (hNot _ h hIdle).elim
          · next hState =>
              split at h
              · next hAllocates =>
                  rw [not_not] at hState
                  refine decide_eq_true ⟨hIdle, hState, ?_, hAllocates⟩
                  cases isTls <;> cases tlsHandshake <;> simp at hTls ⊢
              · exact absurd rfl (hNot _ h)
  | handshakeFailed =>
      rw [step, hIdle, if_neg Stage.noConfusion, hBefore] at h
      cases h
  | handshake offers encodes delivered allocates =>
      rw [step, hIdle, if_neg Stage.noConfusion, hBefore] at h
      cases h
  | receive arrival =>
      rw [step, hIdle, hBefore] at h
      cases h
  | command command => exact (hNot _ h hIdle).elim

end Server

namespace StopBench

/-- Where a request to stop shows, it is one of the session that is open. -/
structure Sound (s : StopBench) : Prop where
  notification : ∀ issuedIn ∈ s.shared.notifiedFor,
    s.shared.server.ctx.evseNotification = .stopCharging →
      s.shared.server.session = some issuedIn
  codes : ∀ issuedIn ∈ s.shared.notifiedFor, ∀ current ∈ s.shared.server.session, ∀ phase,
    s.shared.server.ctx.evseStatusCode phase = .shutdown → current = issuedIn
  stopHlc : ∀ issuedIn ∈ s.shared.expiredFor, ∀ current ∈ s.shared.server.session,
    s.shared.server.ctx.stopHlc = true → current = issuedIn

variable {s : StopBench}

/-- In the same session nothing new shows. -/
theorem Sound.of_session (h : s.Sound) {next : Server}
    (hSession : next.session = s.shared.server.session)
    (hStop : NoNewStop s.shared.server.ctx.circumstances next.ctx.circumstances) :
    Sound { s with shared := { s.shared with server := next } } := by
  constructor
  · intro issuedIn hIssued hShows
    exact hSession.trans (h.notification issuedIn hIssued (hStop.notification hShows))
  · intro issuedIn hIssued current hCurrent phase hShows
    exact h.codes issuedIn hIssued current (hSession ▸ hCurrent) phase (hStop.codes phase hShows)
  · intro issuedIn hIssued current hCurrent hShows
    exact h.stopHlc issuedIn hIssued current (hSession ▸ hCurrent) (hStop.stopHlc hShows)

/-- Between the sessions no notification shows. -/
theorem sound_of_ended (watched : WatchedServer) {next : Server} (hSession : next.session = none)
    (hNotification : next.ctx.evseNotification ≠ .stopCharging) :
    Sound { s with shared := { watched with server := next } } := by
  constructor
  · intro issuedIn hIssued hShows
    exact absurd hShows hNotification
  · intro issuedIn hIssued current hCurrent
    rw [hSession] at hCurrent
    cases hCurrent
  · intro issuedIn hIssued current hCurrent
    rw [hSession] at hCurrent
    cases hCurrent

/-- A step of the server keeps what holds of the stops, if no stop arrives and the step is timely.
-/
theorem Sound.server (h : s.Sound) {input : Input} (hStops : input.stops = false)
    (hTimely : s.Timely (.server input)) :
    Sound { s with shared := { s.shared with server := s.shared.server.step input } } := by
  cases s.shared.server.step_passage input with
  | stays hSession hCtx =>
      apply h.of_session hSession
      rw [hCtx]
      exact NoNewStop.refl _
  | begins hBefore hSession hCtx =>
      have hCodes := hTimely (Server.opens_of_session hBefore hSession)
      constructor
      · intro issuedIn hIssued hShows
        rw [hCtx] at hShows
        rw [h.notification issuedIn hIssued hShows] at hBefore
        cases hBefore
      · intro issuedIn hIssued current hCurrent phase hShows
        rw [hCtx] at hShows
        have hNotified : s.shared.notifiedFor ≠ none := by
          rw [hIssued]
          exact Option.some_ne_none issuedIn
        exact absurd hShows (hCodes hNotified phase)
      · intro issuedIn hIssued current hCurrent hShows
        rw [hCtx] at hShows
        cases hShows
  | ends inner hSession hInner hCtx =>
      exact sound_of_ended s.shared hSession (by rw [hCtx]; exact EvseNotification.noConfusion)
  | exchanged request around delivered hInput hStage hAfter =>
      rw [hInput] at hStops
      rcases hAfter with ⟨hSession, hCtx⟩ | ⟨hSession, hCtx⟩
      · apply h.of_session hSession
        rw [hCtx]
        exact request.handle_noNewStop _ _ hStops
      · exact sound_of_ended s.shared hSession (by rw [hCtx]; exact EvseNotification.noConfusion)
  | commanded command hInput hSession hCtx =>
      rw [hInput] at hStops
      apply h.of_session hSession
      rw [hCtx]
      exact s.shared.server.ctx.command_noNewStop hStops

/-- A request begins for the session that is open, and a timeout that comes in a session
is one of its own. -/
theorem Sound.turn (h : s.Sound) (i : ℕ) (move : StopMove)
    (hTimely : s.Timely (.request i move)) : Sound (s.turn StopRequest.act i move) := by
  apply Parties.turn_invariant Sound h
  intro request hRequest
  rw [Parties.turn_of_some hRequest]
  obtain ⟨issuedIn, stage⟩ := request
  cases stage with
  | issued =>
      cases move with
      | begin =>
          have hSession := (s.shared.server.session_command (.stopCharging true)).1
          have hOpen := hTimely _ hRequest rfl
          constructor
          · intro issued hIssued _
            exact hSession.trans (hOpen issued hIssued)
          · intro issued hIssued current hCurrent _ _
            have hSame := hCurrent.symm.trans (hSession.trans (hOpen issued hIssued))
            exact Option.some.inj hSame
          · intro issued hIssued current hCurrent hShows
            exact h.stopHlc issued hIssued current (hSession.symm.trans hCurrent) hShows
      | poll => exact ⟨h.notification, h.codes, h.stopHlc⟩
      | expire => exact ⟨h.notification, h.codes, h.stopHlc⟩
  | polling polls => cases move <;> exact ⟨h.notification, h.codes, h.stopHlc⟩
  | expired =>
      cases move with
      | begin => exact ⟨h.notification, h.codes, h.stopHlc⟩
      | poll => exact ⟨h.notification, h.codes, h.stopHlc⟩
      | expire =>
          have hSession := (s.shared.server.session_command .stopChargingTimeout).1
          have hOpen := hTimely _ hRequest rfl
          constructor
          · intro issued hIssued hShows
            exact hSession.trans (h.notification issued hIssued hShows)
          · intro issued hIssued current hCurrent phase hShows
            exact h.codes issued hIssued current (hSession.symm.trans hCurrent) phase hShows
          · intro issued hIssued current hCurrent _
            exact hOpen issued hIssued current (hSession.symm.trans hCurrent)
  | done => cases move <;> exact ⟨h.notification, h.codes, h.stopHlc⟩

/-- Every timely step keeps what holds of the stops. One case for each input. -/
theorem step_sound (s : StopBench) (input : StopInput) (h : s.Sound) (hTimely : s.Timely input) :
    (s.step input).Sound := by
  cases input with
  | server input =>
      rw [step]
      split
      · exact h
      · next hStops => exact h.server (Bool.eq_false_iff.mpr hStops) hTimely
  | stopCharging => exact ⟨h.notification, h.codes, h.stopHlc⟩
  | request i move => exact h.turn i move hTimely

/-- While that holds, no stop concerns a later session. -/
theorem Sound.sparesLaterSessions (h : s.Sound) : s.shared.SparesLaterSessions := by
  intro current hCurrent
  constructor
  · rintro earlier hEarlier hBefore (hNotification | ⟨phase, hCode⟩)
    · have hSame := hCurrent.symm.trans (h.notification earlier hEarlier hNotification)
      rw [Option.some.inj hSame] at hBefore
      exact Nat.lt_irrefl _ hBefore
    · rw [h.codes earlier hEarlier current hCurrent phase hCode] at hBefore
      exact Nat.lt_irrefl _ hBefore
  · intro earlier hEarlier hBefore
    by_contra hStop
    rw [Bool.not_eq_false] at hStop
    rw [h.stopHlc earlier hEarlier current hCurrent hStop] at hBefore
    exact Nat.lt_irrefl _ hBefore

/-- A connection over TCP with its handshake. -/
def openSession : List StopInput := (openConnection .iso15118_2013).map .server

/-- Looks of the thread at the connection. -/
def polls (i number : ℕ) : List StopInput := List.replicate number (.request i .poll)

end StopBench

end EverestCore.V2G
