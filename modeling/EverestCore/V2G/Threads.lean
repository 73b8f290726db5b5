import EverestCore.Machine.Parties
import EverestCore.V2G.FailedResponses

/-! The threads of the connections of one port. Every connection that is accepted, over
TCP or over TLS, has a thread of its own, and all of them work on the one context. They
take their steps in any order; a request is handled in one step. What a thread has read
is an input, so that a message can have been read before another thread ends the
connection. -/
namespace EverestCore.V2G
open Machine

/-- How far the thread of a connection is: in `connection_handle_tcp` or
`connection_handle_tls`, or, from `handshaking` to `leaving`, in
`v2g_handle_connection`. -/
inductive ThreadStage where
  | accepted
  -- TLS could not be set up, or the handshake of TLS failed
  | tlsFailed
  -- `state` was not 0
  | refused
  -- `state` was 0
  | admitted
  | handshaking
  -- the response to the handshake is on its way
  | agreed
  | serving (protocol : V2gProtocol)
  -- at `error_out`
  | leaving
  | returned
  | closed
  deriving DecidableEq, Repr

structure ConnectionThread where
  isTls : Bool
  stage : ThreadStage
  deriving DecidableEq, Repr

/-- The steps of a thread. -/
inductive ThreadMove where
  | failTls
  | check
  | begin (allocates : Bool)
  | handshakeFailed
  | handshake (offers : Option (List AppProtocol)) (encodes delivered : Bool)
  | select (allocates : Bool)
  | receive (arrival : Arrival)
  | errorOut
  | finish
  deriving DecidableEq, Repr

/-- One turn of the message loop. -/
def serve (isTls : Bool) (protocol : V2gProtocol) (ctx : V2gContext) (arrival : Arrival) :
    V2gContext × ThreadStage :=
  match arrival with
  | .closedByPeer | .readFailed => (ctx, .leaving)
  | .undecodable => (ctx, .serving protocol)
  | .request request around delivered =>
      if request.protocol = protocol then
        let handling := request.handle isTls around ctx
        (handling.ctx,
          if Server.goesOn handling.event delivered then .serving protocol else .leaving)
      else (ctx, .serving protocol)

/-- The message of the handshake, up to its response. -/
def shakeHands (offers : Option (List AppProtocol)) (encodes delivered : Bool) (ctx : V2gContext) :
    V2gContext × ThreadStage :=
  if ctx.isConnectionTerminated then (ctx, .leaving)
  else
    let (ctx, event) := v2gHandleApphandshake offers encodes ctx
    (ctx, if event = .noEvent ∧ delivered then .agreed else .leaving)

/-- The end of a thread. A connection over TCP that was refused is only closed. Over
TLS the result of the check is overwritten by that of `mbedtls_ssl_close_notify`, and
the teardown asks for none. -/
def finish (isTls : Bool) (stage : ThreadStage) (ctx : V2gContext) : V2gContext :=
  if stage = .refused ∧ !isTls then ctx else (connectionTeardown ctx).1

/-- What a step does to the context, and where it leads. A step that does not fit the
stage of the thread has no effect. -/
def ConnectionThread.move (ctx : V2gContext) (thread : ConnectionThread) (move : ThreadMove) :
    V2gContext × ThreadStage :=
  match thread.stage, move with
  | .accepted, .failTls => (ctx, if thread.isTls then .tlsFailed else .accepted)
  | .accepted, .check => (ctx, if ctx.state = 0 then .admitted else .refused)
  | .admitted, .begin allocates =>
      (initChargingState false ctx, if allocates then .handshaking else .returned)
  | .handshaking, .handshakeFailed => (ctx, .leaving)
  | .handshaking, .handshake offers encodes delivered => shakeHands offers encodes delivered ctx
  | .agreed, .select allocates =>
      (ctx, if ctx.selectedProtocol ≠ .unknown ∧ allocates then .serving ctx.selectedProtocol
        else .leaving)
  | .serving protocol, .receive arrival => serve thread.isTls protocol ctx arrival
  | .leaving, .errorOut => (initChargingState true ctx, .returned)
  | .tlsFailed, .finish | .refused, .finish | .returned, .finish =>
      (finish thread.isTls thread.stage ctx, .closed)
  | stage, _ => (ctx, stage)

def ConnectionThread.act (ctx : V2gContext) (thread : ConnectionThread) (move : ThreadMove) :
    V2gContext × ConnectionThread :=
  ((thread.move ctx move).1, { thread with stage := (thread.move ctx move).2 })

/-- A charging port: its context, and the threads of its connections. -/
abbrev Port := Parties V2gContext ConnectionThread

inductive PortInput where
  | accept (isTls : Bool)
  | turn (i : ℕ) (move : ThreadMove)
  | command (command : EvseCommand)
  deriving DecidableEq, Repr

namespace Port

def start (config : Config) : Port := ⟨v2gCtxCreate config, []⟩

def step (s : Port) : PortInput → Port
  | .accept isTls => s.join ⟨isTls, .accepted⟩
  | .turn i move => s.turn ConnectionThread.act i move
  | .command command => { s with shared := s.shared.command command }

end Port

namespace ConnectionThread

/-- The thread is in the message loop of `v2g_handle_connection`. -/
def inLoop (thread : ConnectionThread) : Bool :=
  match thread.stage with
  | .serving _ => true
  | _ => false

/-- The thread has been admitted, and its teardown is still to come. -/
def inSession (thread : ConnectionThread) : Bool :=
  match thread.stage with
  | .accepted | .tlsFailed | .refused | .closed => false
  | _ => true

theorem inSession_of_inLoop {thread : ConnectionThread} (h : thread.inLoop = true) :
    thread.inSession = true := by
  obtain ⟨isTls, stage⟩ := thread
  cases stage with
  | serving protocol => rfl
  | _ => cases h

/-- The session of the thread does not show in `state`: it is still to be set up, or
over and still to be torn down. -/
def isUnseen (ctx : V2gContext) (thread : ConnectionThread) : Bool :=
  match thread.stage with
  | .accepted | .tlsFailed | .refused | .closed => false
  | .admitted | .handshaking | .agreed | .returned => true
  | .serving _ | .leaving => ctx.state = 0

theorem isUnseen_of_inSession {ctx : V2gContext} {thread : ConnectionThread}
    (hState : ctx.state = 0) (h : thread.inSession = true) : thread.isUnseen ctx = true := by
  obtain ⟨isTls, stage⟩ := thread
  cases stage with
  | accepted => cases h
  | tlsFailed => cases h
  | refused => cases h
  | closed => cases h
  | serving protocol => exact decide_eq_true hState
  | leaving => exact decide_eq_true hState
  | _ => rfl

/-- The teardown of the thread comes although the thread was never admitted. -/
def tearsDownUnadmitted (thread : ConnectionThread) : Bool :=
  thread.stage = .tlsFailed || (thread.stage = .refused && thread.isTls)

/-- A thread gets into a session only at its check, and only if `state` is 0 there. -/
theorem inSession_of_move {ctx : V2gContext} {thread : ConnectionThread} {move : ThreadMove}
    (h : (thread.act ctx move).2.inSession = true) :
    thread.inSession = true ∨ (thread.stage = .accepted ∧ move = .check ∧ ctx.state = 0) := by
  obtain ⟨isTls, stage⟩ := thread
  cases stage with
  | accepted =>
      right
      cases move with
      | failTls => cases isTls <;> cases h
      | check =>
          refine ⟨rfl, rfl, ?_⟩
          by_contra hState
          have hAdmitted : inSession ⟨isTls, if ctx.state = 0 then .admitted else .refused⟩ = true := h
          rw [if_neg hState] at hAdmitted
          cases hAdmitted
      | _ => cases h
  | tlsFailed => cases move <;> cases h
  | refused => cases move <;> cases h
  | closed => cases move <;> cases h
  | _ => exact .inl rfl

/-- Before its check a thread does not write the context. -/
theorem act_of_accepted {thread : ConnectionThread} (hStage : thread.stage = .accepted)
    (ctx : V2gContext) (move : ThreadMove) : (thread.act ctx move).1 = ctx := by
  obtain ⟨isTls, stage⟩ := thread
  cases hStage
  cases move <;> rfl

/-- A thread that was refused writes the context in its teardown only. -/
theorem act_of_refused {thread : ConnectionThread} (hStage : thread.stage = .refused)
    (ctx : V2gContext) {move : ThreadMove}
    (h : move = .finish → thread.isTls = false) : (thread.act ctx move).1 = ctx := by
  obtain ⟨isTls, stage⟩ := thread
  cases hStage
  cases move with
  | finish =>
      have hTcp : isTls = false := h rfl
      rw [hTcp]
      rfl
  | _ => rfl

end ConnectionThread

namespace Port

/-- A connection that is not admitted leaves the context alone while the session of
another one runs. -/
def SparesSession (s : Port) : PortInput → Prop
  | .turn i move => ∀ thread, s.parties[i]? = some thread →
      thread.stage = .accepted ∨ thread.stage = .refused →
      (∃ other ∈ s.others i, other.inSession = true) →
      (s.step (.turn i move)).shared = s.shared
  | _ => True

/-- No thread comes to the check while the session of another one does not show in
`state`, and none that was not admitted comes to its teardown while a session runs. -/
def Orderly (s : Port) : PortInput → Prop
  | .turn i .check => ∀ thread ∈ s.parties[i]?, thread.stage = .accepted →
      ∀ other ∈ s.others i, other.isUnseen s.shared = false
  | .turn i .finish => ∀ thread ∈ s.parties[i]?, thread.tearsDownUnadmitted = true →
      ∀ other ∈ s.others i, other.inSession = false
  | _ => True

instance (s : Port) (input : PortInput) : Decidable (s.Orderly input) :=
  match input with
  | .turn _ .check | .turn _ .finish => by unfold Orderly; infer_instance
  | .accept _ | .command _ => inferInstanceAs (Decidable True)
  | .turn _ .failTls | .turn _ (.begin _) | .turn _ .handshakeFailed
  | .turn _ (.handshake _ _ _) | .turn _ (.select _) | .turn _ (.receive _)
  | .turn _ .errorOut => inferInstanceAs (Decidable True)

/-- In an orderly step the sessions stay apart. -/
theorem step_exclusive (s : Port) (input : PortInput)
    (h : s.Exclusive ConnectionThread.inSession) (hOrderly : s.Orderly input) :
    (s.step input).Exclusive ConnectionThread.inSession := by
  cases input with
  | accept isTls => exact h.join rfl
  | command command => exact h
  | turn i move =>
      apply h.turn
      intro thread hThread hNext
      rcases ConnectionThread.inSession_of_move hNext with hBefore | ⟨hStage, rfl, hState⟩
      · exact .inl hBefore
      · right
        intro other hOther
        -- an admitted thread would not show in `state` either
        by_contra hSession
        rw [Bool.not_eq_false] at hSession
        have hSeen := hOrderly thread hThread hStage other hOther
        rw [ConnectionThread.isUnseen_of_inSession hState hSession] at hSeen
        cases hSeen

theorem step_sparesSession (s : Port) (input : PortInput) (hOrderly : s.Orderly input) :
    s.SparesSession input := by
  cases input with
  | accept isTls => exact trivial
  | command command => exact trivial
  | turn i move =>
      rintro thread hThread hStage ⟨other, hOther, hSession⟩
      rw [step, Parties.turn_of_some hThread]
      rcases hStage with hAccepted | hRefused
      · exact ConnectionThread.act_of_accepted hAccepted s.shared move
      · apply ConnectionThread.act_of_refused hRefused
        rintro rfl
        by_contra hTls
        rw [Bool.not_eq_false] at hTls
        have hUnadmitted : thread.tearsDownUnadmitted = true := by
          rw [ConnectionThread.tearsDownUnadmitted, hRefused, hTls]
          rfl
        have hFree := hOrderly thread hThread hUnadmitted other hOther
        rw [hSession] at hFree
        cases hFree

/-- In every orderly run at most one thread is in the message loop, and no connection
that is not admitted touches the session of another one. -/
theorem one_session_at_a_time (config : Config) (inputs : List PortInput)
    (hOrderly : EveryStep step Orderly (start config) inputs) :
    (run step (start config) inputs).Exclusive ConnectionThread.inLoop ∧
      EveryStep step SparesSession (start config) inputs := by
  constructor
  · have hSessions := run_invariant_of_everyStep (Parties.Exclusive ConnectionThread.inSession)
      (show (start config).Exclusive _ from Nat.zero_le 1) step_exclusive inputs hOrderly
    exact hSessions.mono fun thread => ConnectionThread.inSession_of_inLoop
  · refine EachAfter.mono hOrderly ?_
    intro before input hBefore hInput
    exact step_sparesSession _ input hInput

/-- The steps of the thread of a connection up to its message loop. -/
def enterLoop (i : ℕ) (protocol : V2gProtocol) : List PortInput :=
  [.turn i .check, .turn i (.begin true), .turn i (.handshake (some [⟨protocol, 1⟩]) true true),
    .turn i (.select true)]

/-- The steps from the end of the message loop to the end of the thread. -/
def leaveLoop (i : ℕ) : List PortInput :=
  [.turn i (.receive .closedByPeer), .turn i .errorOut, .turn i .finish]

/-- The session setup, with which a session begins to show in `state`. -/
def setUp (i : ℕ) : PortInput :=
  .turn i (.receive (.request (.iso { sessionId := ⟨[], 0⟩, body := .sessionSetup [] }) {} true))

/-- While a session over TCP runs, a second connection over TCP is refused; a third one
over TLS comes when the session is over. -/
theorem one_session_at_a_time_over_tcp :
    let inputs := [.accept false] ++ enterLoop 0 .iso15118_2013 ++
      [setUp 0, .accept false, .turn 1 .check, .turn 1 .finish] ++ leaveLoop 0 ++
      [.accept true] ++ enterLoop 2 .iso15118_2013
    EveryStep step Orderly (start strictConfig) inputs ∧
      (run step (start strictConfig) inputs).Exclusive ConnectionThread.inLoop ∧
      EveryStep step SparesSession (start strictConfig) inputs := by
  intro inputs
  have hOrderly : EveryStep step Orderly (start strictConfig) inputs := by decide
  exact ⟨hOrderly, one_session_at_a_time strictConfig inputs hOrderly⟩

/-- Two connections over TCP are both in their message loops if the second one comes
before the first one has set up its session. And a connection over TLS that is refused
ends the session that is running. -/
theorem two_sessions_at_a_time :
    (¬ (run step (start strictConfig) ([.accept false] ++ enterLoop 0 .iso15118_2013 ++
      [.accept false] ++ enterLoop 1 .iso15118_2013)).Exclusive ConnectionThread.inLoop) ∧
    ¬ EveryStep step SparesSession (start strictConfig) ([.accept false] ++
      enterLoop 0 .iso15118_2013 ++ [setUp 0, .accept true, .turn 1 .check, .turn 1 .finish]) := by
  constructor
  · decide
  · intro h
    have hLast := ((everyStep_snoc step _ _ ([.accept false] ++ enterLoop 0 .iso15118_2013 ++
      [setUp 0, .accept true, .turn 1 .check]) (.turn 1 .finish)).mp h).2
    have hSame := hLast ⟨true, .refused⟩ (by decide) (.inr rfl)
      ⟨⟨false, .serving .iso15118_2013⟩, by decide, rfl⟩
    have hState := congrArg V2gContext.state hSame
    exact absurd hState (by decide)

end Port

/-! The server above, with one connection at a time, is a port whose connections come one
after the other. Its runs are orderly. -/

/-- The thread of the connection that is open. -/
def Stage.threads (isTls : Bool) : Stage → List ConnectionThread
  | .idle => []
  | .handshaking => [⟨isTls, .handshaking⟩]
  | .serving protocol => [⟨isTls, .serving protocol⟩]

/-- The port and the server agree; the earlier connections are closed. -/
def Port.Agrees (p : Port) (s : Server) : Prop :=
  ∃ earlier : List ConnectionThread, (∀ thread ∈ earlier, thread.stage = .closed) ∧
    p = ⟨s.ctx, earlier ++ s.stage.threads s.isTlsConnection⟩

namespace Port

/-- Orderly steps lead from the port to one that agrees with the server. -/
def LeadsTo (p : Port) (s : Server) : Prop :=
  ∃ inputs, EveryStep step Orderly p inputs ∧ (run step p inputs).Agrees s

theorem leadsTo_of_agrees {p : Port} {s : Server} (h : p.Agrees s) : p.LeadsTo s :=
  ⟨[], everyStep_nil step _ _, h⟩

theorem leadsTo_of_step {p : Port} {s : Server} (input : PortInput) (hOrderly : p.Orderly input)
    (h : (p.step input).LeadsTo s) : p.LeadsTo s := by
  obtain ⟨inputs, hInputs, hAgrees⟩ := h
  refine ⟨[input] ++ inputs, ?_, ?_⟩
  · refine (everyStep_append step Orderly p [input] inputs).mpr ⟨?_, hInputs⟩
    exact (everyStep_snoc step Orderly p [] input).mpr ⟨everyStep_nil step _ _, hOrderly⟩
  · exact hAgrees

section Alone

variable {earlier : List ConnectionThread} {s : Server} {ctx : V2gContext}
  {thread : ConnectionThread} (hEarlier : ∀ thread ∈ earlier, thread.stage = .closed)
include hEarlier

theorem leadsTo_of_closed (hThread : thread.stage = .closed) (hCtx : ctx = s.ctx)
    (hStage : s.stage = .idle) : LeadsTo ⟨ctx, earlier ++ [thread]⟩ s := by
  apply leadsTo_of_agrees
  refine ⟨earlier ++ [thread], ?_, ?_⟩
  · intro closed hMem
    rcases List.mem_append.mp hMem with hMem | hMem
    · exact hEarlier closed hMem
    · rw [List.mem_singleton.mp hMem]
      exact hThread
  · rw [hStage, hCtx, Stage.threads, List.append_nil]

theorem leadsTo_of_open (hThread : s.stage.threads s.isTlsConnection = [thread])
    (hCtx : ctx = s.ctx) : LeadsTo ⟨ctx, earlier ++ [thread]⟩ s := by
  apply leadsTo_of_agrees
  refine ⟨earlier, hEarlier, ?_⟩
  rw [hThread, hCtx]

/-- No other thread is in a session, so that every step of the last one is orderly. -/
theorem leadsTo_of_act (move : ThreadMove)
    (h : LeadsTo ⟨(thread.act ctx move).1, earlier ++ [(thread.act ctx move).2]⟩ s) :
    LeadsTo ⟨ctx, earlier ++ [thread]⟩ s := by
  apply leadsTo_of_step (.turn earlier.length move)
  · cases move with
    | check =>
        intro _ _ _ other hOther
        rw [Parties.others_last] at hOther
        rw [ConnectionThread.isUnseen, hEarlier other hOther]
    | finish =>
        intro _ _ _ other hOther
        rw [Parties.others_last] at hOther
        rw [ConnectionThread.inSession, hEarlier other hOther]
    | _ => exact trivial
  · rw [step, Parties.turn_last]
    exact h

theorem connect_leadsTo (hStage : s.stage = .idle) (isTls tlsHandshake allocates : Bool) :
    LeadsTo ⟨s.ctx, earlier⟩ (s.connect isTls tlsHandshake allocates) := by
  apply leadsTo_of_step (.accept isTls) trivial
  show LeadsTo ⟨s.ctx, earlier ++ [⟨isTls, .accepted⟩]⟩ _
  unfold Server.connect
  split
  · next hTls =>
      rw [Bool.and_eq_true] at hTls
      obtain ⟨rfl, -⟩ := hTls
      apply leadsTo_of_act hEarlier .failTls
      apply leadsTo_of_act hEarlier .finish
      exact leadsTo_of_closed hEarlier rfl rfl hStage
  · have hCheck : ConnectionThread.act s.ctx ⟨isTls, .accepted⟩ .check =
        (s.ctx, ⟨isTls, if s.ctx.state = 0 then .admitted else .refused⟩) := rfl
    apply leadsTo_of_act hEarlier .check
    rw [hCheck]
    by_cases hState : s.ctx.state = 0
    · rw [if_pos hState, if_neg (not_not.mpr hState)]
      apply leadsTo_of_act hEarlier (.begin allocates)
      cases allocates with
      | true => exact leadsTo_of_open hEarlier rfl rfl
      | false =>
          apply leadsTo_of_act hEarlier .finish
          exact leadsTo_of_closed hEarlier rfl (by cases isTls <;> rfl) rfl
    · rw [if_neg hState, if_pos hState]
      apply leadsTo_of_act hEarlier .finish
      cases isTls with
      | true => exact leadsTo_of_closed hEarlier rfl rfl hStage
      | false => exact leadsTo_of_closed hEarlier rfl rfl hStage

/-- The end of a connection. -/
theorem leave_leadsTo (isTls : Bool) (h : ctx = s.ctx) :
    LeadsTo ⟨ctx, earlier ++ [⟨isTls, .leaving⟩]⟩ s.leave := by
  rw [h]
  apply leadsTo_of_act hEarlier .errorOut
  apply leadsTo_of_act hEarlier .finish
  exact leadsTo_of_closed hEarlier rfl (by cases isTls <;> rfl) rfl

theorem handshake_leadsTo (offers : Option (List AppProtocol)) (encodes delivered allocates : Bool) :
    LeadsTo ⟨s.ctx, earlier ++ [⟨s.isTlsConnection, .handshaking⟩]⟩
      (s.handshake offers encodes delivered allocates) := by
  apply leadsTo_of_act hEarlier (.handshake offers encodes delivered)
  have hAct : ConnectionThread.act s.ctx ⟨s.isTlsConnection, .handshaking⟩
      (.handshake offers encodes delivered) =
      ((shakeHands offers encodes delivered s.ctx).1,
        ⟨s.isTlsConnection, (shakeHands offers encodes delivered s.ctx).2⟩) := rfl
  rw [hAct]
  unfold shakeHands Server.handshake
  split
  · exact leave_leadsTo hEarlier _ rfl
  · dsimp only
    by_cases hAgreed : (v2gHandleApphandshake offers encodes s.ctx).2 = .noEvent ∧ delivered
    · rw [if_pos hAgreed]
      apply leadsTo_of_act hEarlier (.select allocates)
      generalize hCtx : (v2gHandleApphandshake offers encodes s.ctx).1 = ctx
      have hSelect : ConnectionThread.act ctx ⟨s.isTlsConnection, .agreed⟩ (.select allocates) =
          (ctx, ⟨s.isTlsConnection, if ctx.selectedProtocol ≠ .unknown ∧ allocates then
            .serving ctx.selectedProtocol else .leaving⟩) := rfl
      rw [hSelect]
      by_cases hSelected : ctx.selectedProtocol ≠ .unknown ∧ allocates
      · rw [if_pos hSelected, if_pos ⟨hAgreed.1, hAgreed.2, hSelected⟩]
        exact leadsTo_of_open hEarlier rfl rfl
      · rw [if_neg hSelected, if_neg fun h => hSelected h.2.2]
        exact leave_leadsTo hEarlier _ rfl
    · rw [if_neg hAgreed, if_neg fun h => hAgreed ⟨h.1, h.2.1⟩]
      exact leave_leadsTo hEarlier _ rfl

theorem receive_leadsTo (protocol : V2gProtocol) (hStage : s.stage = .serving protocol)
    (arrival : Arrival) :
    LeadsTo ⟨s.ctx, earlier ++ [⟨s.isTlsConnection, .serving protocol⟩]⟩
      (s.receive protocol arrival) := by
  apply leadsTo_of_act hEarlier (.receive arrival)
  cases arrival with
  | closedByPeer => exact leave_leadsTo hEarlier _ rfl
  | readFailed => exact leave_leadsTo hEarlier _ rfl
  | undecodable => exact leadsTo_of_open hEarlier (by rw [Server.receive, hStage]; rfl) rfl
  | request request around delivered =>
      have hAct : ConnectionThread.act s.ctx ⟨s.isTlsConnection, .serving protocol⟩
          (.receive (.request request around delivered)) =
          ((serve s.isTlsConnection protocol s.ctx (.request request around delivered)).1,
            ⟨s.isTlsConnection,
              (serve s.isTlsConnection protocol s.ctx (.request request around delivered)).2⟩) := rfl
      rw [hAct, serve, Server.receive]
      by_cases hProtocol : request.protocol = protocol
      · rw [if_pos hProtocol, if_pos hProtocol, Server.exchange]
        dsimp only
        split
        · exact leadsTo_of_open hEarlier (by rw [Server.answer_stage, hStage]; rfl) rfl
        · exact leave_leadsTo hEarlier _ rfl
      · rw [if_neg hProtocol, if_neg hProtocol]
        exact leadsTo_of_open hEarlier (by rw [hStage]; rfl) rfl

end Alone

/-- What the server does in one step the port does in some. -/
theorem step_leadsTo {p : Port} {s : Server} (h : p.Agrees s) (input : Input) :
    p.LeadsTo (s.step input) := by
  have hUnchanged := leadsTo_of_agrees h
  obtain ⟨earlier, hEarlier, rfl⟩ := h
  cases input with
  | connect isTls tlsHandshake allocates =>
      rw [Server.step]
      split
      · next hStage =>
          rw [hStage, Stage.threads, List.append_nil]
          exact connect_leadsTo hEarlier hStage isTls tlsHandshake allocates
      · exact hUnchanged
  | handshakeFailed =>
      rw [Server.step]
      split
      · next hStage =>
          rw [hStage, Stage.threads]
          apply leadsTo_of_act hEarlier .handshakeFailed
          exact leave_leadsTo hEarlier _ rfl
      · exact hUnchanged
  | handshake offers encodes delivered allocates =>
      rw [Server.step]
      split
      · next hStage =>
          rw [hStage, Stage.threads]
          exact handshake_leadsTo hEarlier offers encodes delivered allocates
      · exact hUnchanged
  | receive arrival =>
      rw [Server.step]
      split
      · next protocol hStage =>
          rw [hStage, Stage.threads]
          exact receive_leadsTo hEarlier protocol hStage arrival
      · exact hUnchanged
  | command command =>
      apply leadsTo_of_step (.command command) trivial
      exact leadsTo_of_agrees ⟨earlier, hEarlier, rfl⟩

/-- Every run of the server is an orderly run of the port. -/
theorem run_leadsTo (config : Config) (inputs : List Input) :
    (start config).LeadsTo (run Server.step (Server.start config) inputs) := by
  induction inputs using List.reverseRecOn with
  | nil => exact leadsTo_of_agrees ⟨[], by simp, rfl⟩
  | append_singleton inputs input ih =>
      obtain ⟨first, hFirst, hAgrees⟩ := ih
      obtain ⟨second, hSecond, hNext⟩ := step_leadsTo hAgrees input
      rw [run_snoc]
      refine ⟨first ++ second, (everyStep_append step Orderly _ first second).mpr ⟨hFirst, hSecond⟩, ?_⟩
      rw [run_append]
      exact hNext

end Port

end EverestCore.V2G
