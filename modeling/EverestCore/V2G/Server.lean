import EverestCore.Machine.Runs
import EverestCore.Machine.Milestones
import EverestCore.V2G.DinServer
import EverestCore.V2G.IsoServer

/-! The connections of a car: how they are opened, the message loop, and how they
are torn down. Everything that happens is one input, in any order: a connection is
opened, a message arrives or fails to, a command of the EVSE arrives. Requests are
handled one at a time, and one connection at a time is open. The history keeps what
happened, the last at its end. -/
namespace EverestCore.V2G
open Machine

/-- An offer of a `SupportedAppProtocolReq`: the protocol that its namespace and
major version name, and its priority. -/
structure AppProtocol where
  protocol : V2gProtocol
  priority : ℕ
  deriving DecidableEq, Repr

/-- What the loop over the offers does with one of them. -/
def preferOffer (supported : List V2gProtocol) (best : ℕ × V2gProtocol) (offer : AppProtocol) :
    ℕ × V2gProtocol :=
  if offer.protocol ∈ supported ∧ best.1 ≥ offer.priority then (offer.priority, offer.protocol)
  else best

/-- `v2g_handle_apphandshake`. There are no offers if the message cannot be decoded;
`encodes` says whether the response can be encoded. -/
def v2gHandleApphandshake (offers : Option (List AppProtocol)) (encodes : Bool) (ctx : V2gContext) :
    V2gContext × V2gEvent :=
  let ctx := ctx.withMsg .supportedAppProtocol
  match offers with
  | none => (ctx, .terminateConnection)
  | some offers =>
      let selected := (offers.foldl (preferOffer ctx.supportedProtocols) (20, .unknown)).2
      let ctx := { ctx with
        selectedProtocol :=
          if selected = V2gProtocol.unknown then ctx.selectedProtocol else selected }
      if ctx.isConnectionTerminated then (ctx, .terminateConnection)
      else if selected = V2gProtocol.unknown ∨ !encodes then (ctx, .sendAndTerminate)
      else if (ctx.intlEmergencyShutdown || ctx.stopHlc) &&
          ctx.terminateConnectionOnFailedResponse then (ctx, .sendAndTerminate)
      else (ctx, .noEvent)

/-- A request in one of the two protocols. -/
inductive V2gRequest where
  | din (request : DinRequest)
  | iso (request : IsoRequest)
  deriving DecidableEq, Repr

def V2gRequest.protocol : V2gRequest → V2gProtocol
  | .din _ => .din70121
  | .iso _ => .iso15118_2013

def V2gRequest.handle (isTlsConnection : Bool) (around : Surroundings) (ctx : V2gContext) :
    V2gRequest → Handling
  | .din request => dinHandleRequest around request ctx
  | .iso request => isoHandleRequest around isTlsConnection request ctx

/-- A request leaves the terms of its connection alone, in both protocols. -/
theorem V2gRequest.handle_sameTerms (isTlsConnection : Bool) (around : Surroundings)
    (ctx : V2gContext) (request : V2gRequest) :
    V2gContext.SameTerms ctx (request.handle isTlsConnection around ctx).ctx := by
  cases request with
  | din request =>
      rw [handle, dinHandleRequest]
      split
      · exact V2gContext.SameTerms.refl ctx
      · have hKept := (V2gContext.dinDispatch_dinKept around { ctx with
          receivedSessionId := v2gSessionIdFromExi request.sessionId } request.body).terms
        rw [Handling.noteLastMsg_ctx]
        exact ⟨hKept.1, hKept.2, hKept.3, hKept.4, hKept.5⟩
  | iso request =>
      rw [handle, isoHandleRequest]
      split
      · exact V2gContext.SameTerms.refl ctx
      · have hKept := V2gContext.isoDispatch_sameTerms around { ctx with
          receivedSessionId := v2gSessionIdFromExi request.sessionId } isTlsConnection request.body
        rw [Handling.noteLastMsg_ctx]
        exact ⟨hKept.1, hKept.2, hKept.3, hKept.4, hKept.5⟩

/-- The handling of one request. -/
structure Exchange where
  request : V2gRequest
  around : Surroundings
  before : V2gContext
  handling : Handling

/-- What happened. A connection that was closed keeps the context with which its
message loop ended, and what its teardown published. -/
inductive Entry where
  | connected
  | refused (published : List Publication)
  | commanded (command : EvseCommand)
  | exchanged (exchange : Exchange)
  | closed (atLoopEnd : V2gContext) (published : List Publication)

def Entry.isConnected : Entry → Bool
  | .connected => true
  | _ => false

/-- What happened on the connection that was opened last. -/
def ofConnection (history : List Entry) : List Entry := sinceLast Entry.isConnected history

/-- A new entry belongs to the connection that is open. -/
theorem ofConnection_snoc {entry : Entry} (hEntry : entry.isConnected = false)
    (history : List Entry) :
    ofConnection (history ++ [entry]) = ofConnection history ++ [entry] := by
  rw [ofConnection, sinceLast_snoc, hEntry]
  rfl

/-- A new connection has no history yet. -/
theorem ofConnection_connected (history : List Entry) : ofConnection (history ++ [.connected]) = [] :=
  sinceLast_snoc _ _ _

/-- How far the open connection is. -/
inductive Stage where
  | idle
  | handshaking
  | serving (protocol : V2gProtocol)
  deriving DecidableEq, Repr

structure Server where
  ctx : V2gContext
  stage : Stage
  isTlsConnection : Bool
  history : List Entry

/-- What the message loop meets. `delivered` says whether the response can be encoded
and sent. -/
inductive Arrival where
  | closedByPeer
  | readFailed
  | undecodable
  | request (request : V2gRequest) (around : Surroundings) (delivered : Bool)
  deriving DecidableEq, Repr

inductive Input where
  | connect (isTls tlsHandshake allocates : Bool)
  | handshakeFailed
  | handshake (offers : Option (List AppProtocol)) (encodes delivered allocates : Bool)
  | receive (arrival : Arrival)
  | command (command : EvseCommand)
  deriving DecidableEq, Repr

/-- `connection_teardown`: the context, and what is published before the session is
reset. -/
def connectionTeardown (ctx : V2gContext) : V2gContext × List Publication :=
  (initChargingSession true ctx,
    if ctx.isCharging then
      [.currentDemandFinished, if ctx.isDcCharger then .dcOpenContactor else .acOpenContactor]
    else [])

namespace Server

def start (config : Config) : Server where
  ctx := v2gCtxCreate config
  stage := .idle
  isTlsConnection := false
  history := []

def note (entry : Entry) (s : Server) : Server := { s with history := s.history ++ [entry] }

/-- The end of `v2g_handle_connection` behind `error_out`, and the teardown that the
thread of the connection goes on with. -/
def leave (s : Server) : Server :=
  let (ctx, published) := connectionTeardown (initChargingState true s.ctx)
  { s with ctx := ctx, stage := .idle }.note (.closed s.ctx published)

/-- Without a buffer `v2g_handle_connection` returns at once. -/
def leaveWithoutBuffer (s : Server) : Server :=
  let (ctx, published) := connectionTeardown s.ctx
  { s with ctx := ctx, stage := .idle }.note (.closed s.ctx published)

/-- The teardown of a TLS thread that has not come to `v2g_handle_connection`. -/
def refuse (s : Server) : Server :=
  let (ctx, published) := connectionTeardown s.ctx
  { s with ctx := ctx }.note (.refused published)

/-- The beginning of `v2g_handle_connection`. -/
def opened (isTls : Bool) (s : Server) : Server :=
  { s with
    ctx := initChargingState false s.ctx
    stage := .handshaking
    isTlsConnection := isTls }.note .connected

/-- The beginning of `connection_handle_tcp` and `connection_handle_tls`. -/
def connect (isTls tlsHandshake allocates : Bool) (s : Server) : Server :=
  if isTls && !tlsHandshake then s.refuse
  else if s.ctx.state ≠ 0 then if isTls then s.refuse else s
  else if allocates then s.opened isTls
  else (s.opened isTls).leaveWithoutBuffer

/-- The handshake, up to the choice of the protocol. -/
def handshake (offers : Option (List AppProtocol)) (encodes delivered allocates : Bool)
    (s : Server) : Server :=
  if s.ctx.isConnectionTerminated then s.leave
  else
    let (ctx, event) := v2gHandleApphandshake offers encodes s.ctx
    let s := { s with ctx := ctx }
    if event = .noEvent ∧ delivered ∧ ctx.selectedProtocol ≠ .unknown ∧ allocates then
      { s with stage := .serving ctx.selectedProtocol }
    else s.leave

/-- The message loop goes on after this event. -/
def goesOn (event : V2gEvent) (delivered : Bool) : Bool :=
  match event with
  | .noEvent | .sendRecvExiMsg => delivered
  | .ignoreMsg => true
  | .sendAndTerminate | .terminateConnection => false

/-- A final event ends the message loop, whether or not the response could be sent. -/
theorem goesOn_eq_false {event : V2gEvent} (h : event.isFinal = true) (delivered : Bool) :
    goesOn event delivered = false := by
  cases event with
  | terminateConnection => rfl
  | sendAndTerminate => rfl
  | _ => cases h

/-- A request is handled. -/
def answer (request : V2gRequest) (around : Surroundings) (s : Server) : Server :=
  let handling := request.handle s.isTlsConnection around s.ctx
  { s with ctx := handling.ctx }.note (.exchanged ⟨request, around, s.ctx, handling⟩)

/-- One turn of the message loop with a request. -/
def exchange (request : V2gRequest) (around : Surroundings) (delivered : Bool) (s : Server) :
    Server :=
  let answered := s.answer request around
  if goesOn (request.handle s.isTlsConnection around s.ctx).event delivered then answered
  else answered.leave

/-- One turn of the message loop. What the decoder of the protocol cannot read is
ignored. -/
def receive (protocol : V2gProtocol) (arrival : Arrival) (s : Server) : Server :=
  match arrival with
  | .closedByPeer | .readFailed => s.leave
  | .undecodable => s
  | .request request around delivered =>
      if request.protocol = protocol then s.exchange request around delivered else s

/-- An input that does not fit the stage of the connection has no effect. -/
def step (s : Server) : Input → Server
  | .connect isTls tlsHandshake allocates =>
      if s.stage = .idle then s.connect isTls tlsHandshake allocates else s
  | .handshakeFailed => if s.stage = .handshaking then s.leave else s
  | .handshake offers encodes delivered allocates =>
      if s.stage = .handshaking then s.handshake offers encodes delivered allocates else s
  | .receive arrival =>
      match s.stage with
      | .serving protocol => s.receive protocol arrival
      | _ => s
  | .command command => { s with ctx := s.ctx.command command }.note (.commanded command)

@[simp] theorem note_ctx (entry : Entry) (s : Server) : (s.note entry).ctx = s.ctx := rfl

@[simp] theorem note_history (entry : Entry) (s : Server) :
    (s.note entry).history = s.history ++ [entry] := rfl

@[simp] theorem answer_ctx (request : V2gRequest) (around : Surroundings) (s : Server) :
    (s.answer request around).ctx = (request.handle s.isTlsConnection around s.ctx).ctx := rfl

@[simp] theorem answer_stage (request : V2gRequest) (around : Surroundings) (s : Server) :
    (s.answer request around).stage = s.stage := rfl

/-- The context after a handshake that selected a protocol. -/
def shook (protocol : V2gProtocol) (s : Server) : Server :=
  { s with ctx := { s.ctx with
    currentV2gMsg := .supportedAppProtocol
    selectedProtocol := protocol } }

/-- Of the context, the handshake writes the current message and the protocol only. -/
theorem v2gHandleApphandshake_ctx (offers : Option (List AppProtocol)) (encodes : Bool)
    (ctx : V2gContext) :
    ∃ protocol, (v2gHandleApphandshake offers encodes ctx).1 =
      { ctx with currentV2gMsg := .supportedAppProtocol, selectedProtocol := protocol } := by
  cases offers with
  | none => exact ⟨ctx.selectedProtocol, rfl⟩
  | some offers =>
      refine ⟨if (offers.foldl (preferOffer ctx.supportedProtocols) (20, .unknown)).2 =
        V2gProtocol.unknown then ctx.selectedProtocol
        else (offers.foldl (preferOffer ctx.supportedProtocols) (20, .unknown)).2, ?_⟩
      unfold v2gHandleApphandshake
      dsimp only
      split
      · rfl
      · split
        · rfl
        · split <;> rfl

/-- A server that serves a session has a connection. -/
theorem ne_idle_of_serving {s : Server} {protocol : V2gProtocol}
    (hStage : s.stage = .serving protocol) : s.stage ≠ .idle := by
  rw [hStage]
  exact Stage.noConfusion

/-- Everything that one input can do. -/
inductive Effect (s : Server) (input : Input) : Server → Prop where
  | unchanged : Effect s input s
  | refused (hStage : s.stage = .idle) : Effect s input s.refuse
  | opened (hStage : s.stage = .idle) (hState : s.ctx.state = 0) (isTls : Bool) :
      Effect s input (s.opened isTls)
  | openedInVain (hStage : s.stage = .idle) (hState : s.ctx.state = 0) (isTls : Bool) :
      Effect s input (s.opened isTls).leaveWithoutBuffer
  | agreed (hStage : s.stage = .handshaking) (protocol : V2gProtocol) :
      Effect s input { s.shook protocol with stage := .serving protocol }
  | disagreed (hStage : s.stage = .handshaking) (protocol : V2gProtocol) :
      Effect s input (s.shook protocol).leave
  | left (hStage : s.stage ≠ .idle) : Effect s input s.leave
  | exchanged (request : V2gRequest) (around : Surroundings) (delivered : Bool)
      (hStage : s.stage = .serving request.protocol)
      (hInput : input = .receive (.request request around delivered)) :
      Effect s input (s.exchange request around delivered)
  | commanded (command : EvseCommand) (hInput : input = .command command) :
      Effect s input ({ s with ctx := s.ctx.command command }.note (.commanded command))

/-- What a new connection does to the server: it is refused, or its context is initialised. -/
theorem connect_effect (s : Server) (input : Input) (hStage : s.stage = .idle)
    (isTls tlsHandshake allocates : Bool) :
    Effect s input (s.connect isTls tlsHandshake allocates) := by
  unfold connect
  split
  · exact .refused hStage
  · split
    · split
      · exact .refused hStage
      · exact .unchanged
    · next hState =>
        rw [not_not] at hState
        split
        · exact .opened hStage hState isTls
        · exact .openedInVain hStage hState isTls

/-- What the handshake does: it leads into the message loop of a protocol, or the connection is
left. -/
theorem handshake_effect (s : Server) (input : Input) (hStage : s.stage = .handshaking)
    (offers : Option (List AppProtocol)) (encodes delivered allocates : Bool) :
    Effect s input (s.handshake offers encodes delivered allocates) := by
  have hNotIdle : s.stage ≠ .idle := by
    rw [hStage]
    decide
  unfold handshake
  split
  · exact .left hNotIdle
  · obtain ⟨protocol, hCtx⟩ := v2gHandleApphandshake_ctx offers encodes s.ctx
    dsimp only
    rw [hCtx]
    split
    · exact .agreed hStage protocol
    · exact .disagreed hStage protocol

/-- What one input can do, stated once for all invariants. -/
theorem step_effect (s : Server) (input : Input) : Effect s input (s.step input) := by
  cases input with
  | connect isTls tlsHandshake allocates =>
      rw [step]
      split
      · next hStage => exact connect_effect s _ hStage isTls tlsHandshake allocates
      · exact .unchanged
  | handshakeFailed =>
      rw [step]
      split
      · next hStage => exact .left (by rw [hStage]; decide)
      · exact .unchanged
  | handshake offers encodes delivered allocates =>
      rw [step]
      split
      · next hStage => exact handshake_effect s _ hStage offers encodes delivered allocates
      · exact .unchanged
  | receive arrival =>
      rw [step]
      split
      · next protocol hStage =>
          have hNotIdle := ne_idle_of_serving hStage
          cases arrival with
          | closedByPeer => exact .left hNotIdle
          | readFailed => exact .left hNotIdle
          | undecodable => exact .unchanged
          | request request around delivered =>
              rw [receive]
              split
              · next hProtocol =>
                  rw [← hProtocol] at hStage
                  exact .exchanged request around delivered hStage rfl
              · exact .unchanged
      · exact .unchanged
  | command command => exact .commanded command rfl

end Server

/-- The exchange took place on an open connection, in a context in which no
certificate is on hand, and the server answered as it is configured. -/
structure Exchange.Genuine (config : Config) (exchange : Exchange) : Prop where
  handled : ∃ isTlsConnection, exchange.handling =
    exchange.request.handle isTlsConnection exchange.around exchange.before
  connected : exchange.before.isConnectionTerminated = false
  certInstallRes : exchange.before.certInstallRes = none
  terminate : exchange.before.terminateConnectionOnFailedResponse =
    config.terminateConnectionOnFailedResponse

def Entry.Genuine (config : Config) : Entry → Prop
  | .exchanged exchange => exchange.Genuine config
  | _ => True

namespace Server

/-- The terms on which the server works in every run. -/
structure OnTerms (config : Config) (s : Server) : Prop where
  connected : s.stage ≠ .idle → s.ctx.isConnectionTerminated = false
  certInstallRes : s.ctx.certInstallRes = none
  terminate : s.ctx.terminateConnectionOnFailedResponse = config.terminateConnectionOnFailedResponse
  genuine : EachAfter (fun _ entry => entry.Genuine config) s.history

variable {config : Config} {s : Server}

/-- A step that keeps the configuration in the context keeps the terms of the run. -/
theorem OnTerms.of_sameTerms {next : Server} {entry : Entry} (h : s.OnTerms config)
    (hStage : next.stage = s.stage) (hTerms : V2gContext.SameTerms s.ctx next.ctx)
    (hHistory : next.history = s.history ++ [entry]) (hEntry : entry.Genuine config) :
    next.OnTerms config := by
  constructor
  · rw [hStage, hTerms.isConnectionTerminated]
    exact h.connected
  · exact hTerms.certInstallRes.trans h.certInstallRes
  · exact hTerms.terminate.trans h.terminate
  · rw [hHistory]
    exact eachAfter_snoc.mpr ⟨h.genuine, hEntry⟩

/-- The end of a connection resets what its session has left. -/
theorem OnTerms.leave (h : s.OnTerms config) : s.leave.OnTerms config := by
  refine ⟨fun hOpen => absurd rfl hOpen, rfl, h.terminate, ?_⟩
  exact eachAfter_snoc.mpr ⟨h.genuine, trivial⟩

/-- A connection that is refused leaves everything as it is. -/
theorem OnTerms.refuse (h : s.OnTerms config) (hStage : s.stage = .idle) :
    s.refuse.OnTerms config := by
  refine ⟨fun hOpen => absurd hStage hOpen, rfl, h.terminate, ?_⟩
  exact eachAfter_snoc.mpr ⟨h.genuine, trivial⟩

/-- A new session starts from the configuration again. -/
theorem OnTerms.opened (h : s.OnTerms config) (isTls : Bool) : (s.opened isTls).OnTerms config := by
  refine ⟨fun _ => rfl, h.certInstallRes, h.terminate, ?_⟩
  exact eachAfter_snoc.mpr ⟨h.genuine, trivial⟩

/-- No request changes the configuration. -/
theorem OnTerms.answer (h : s.OnTerms config) (hStage : s.stage ≠ .idle) (request : V2gRequest)
    (around : Surroundings) : (s.answer request around).OnTerms config := by
  refine h.of_sameTerms rfl (request.handle_sameTerms s.isTlsConnection around s.ctx) rfl ?_
  exact ⟨⟨s.isTlsConnection, rfl⟩, h.connected hStage, h.certInstallRes, h.terminate⟩

/-- The step lemma of the terms, with one case for each stage. -/
theorem step_onTerms (s : Server) (input : Input) (h : s.OnTerms config) :
    (s.step input).OnTerms config := by
  have hEffect := step_effect s input
  generalize s.step input = next at hEffect ⊢
  cases hEffect with
  | unchanged => exact h
  | refused hStage => exact h.refuse hStage
  | opened hStage hState isTls => exact h.opened isTls
  | openedInVain hStage hState isTls =>
      have hOpened := h.opened isTls
      refine ⟨fun hOpen => absurd rfl hOpen, rfl, hOpened.terminate, ?_⟩
      exact eachAfter_snoc.mpr ⟨hOpened.genuine, trivial⟩
  | agreed hStage protocol =>
      have hOpen := h.connected (by rw [hStage]; decide)
      exact ⟨fun _ => hOpen, h.certInstallRes, h.terminate, h.genuine⟩
  | disagreed hStage protocol =>
      have hShook : (s.shook protocol).OnTerms config :=
        ⟨h.connected, h.certInstallRes, h.terminate, h.genuine⟩
      exact hShook.leave
  | left hStage => exact h.leave
  | exchanged request around delivered hStage hInput =>
      have hAnswered := h.answer (ne_idle_of_serving hStage) request around
      unfold exchange
      dsimp only
      split
      · exact hAnswered
      · exact hAnswered.leave
  | commanded command hInput =>
      exact h.of_sameTerms rfl (V2gContext.command_sameCourse s.ctx command).terms rfl trivial

/-- In every state of a run the context is on the terms of the configuration. -/
theorem run_onTerms (config : Config) (inputs : List Input) :
    (run step (start config) inputs).OnTerms config := by
  refine run_invariant (OnTerms config) ?_ step_onTerms inputs
  exact ⟨fun hOpen => absurd rfl hOpen, rfl, rfl, eachAfter_nil _⟩

/-- What holds of every request that is handled on an open connection holds of every
entry of every run. -/
theorem run_eachExchange (config : Config) (inputs : List Input) {ok : Entry → Prop}
    (hExchange : ∀ request around isTlsConnection (before : V2gContext),
      before.isConnectionTerminated = false → before.certInstallRes = none →
      before.terminateConnectionOnFailedResponse = config.terminateConnectionOnFailedResponse →
      ok (.exchanged ⟨request, around, before, request.handle isTlsConnection around before⟩))
    (hOther : ∀ entry : Entry, (∀ exchange, entry ≠ .exchanged exchange) → ok entry) :
    EachAfter (fun _ entry => ok entry) (run step (start config) inputs).history := by
  refine (run_onTerms config inputs).genuine.mono ?_
  intro before entry hBefore hGenuine
  cases entry with
  | exchanged exchange =>
      obtain ⟨⟨isTlsConnection, hHandled⟩, hOpen, hCertificate, hTerminate⟩ := hGenuine
      obtain ⟨request, around, ctx, handling⟩ := exchange
      have hHandling : handling = request.handle isTlsConnection around ctx := hHandled
      subst hHandling
      exact hExchange request around isTlsConnection ctx hOpen hCertificate hTerminate
  | connected => exact hOther _ (fun _ => Entry.noConfusion)
  | refused published => exact hOther _ (fun _ => Entry.noConfusion)
  | commanded command => exact hOther _ (fun _ => Entry.noConfusion)
  | closed atLoopEnd published => exact hOther _ (fun _ => Entry.noConfusion)

end Server

/-! A session of DIN 70121 from its beginning into the current demand phase. -/

/-- A configuration in which failed responses end the connection. -/
def strictConfig : Config where
  highlevelAuthenticationMode := .eim
  supportedDIN70121 := true
  supportedISO15118 := true
  terminateConnectionOnFailedResponse := true

/-- A request with the session id one. -/
def dinInput (body : DinBody) : Input :=
  .receive (.request (.din { sessionId := ⟨[1, 0, 0, 0, 0, 0, 0, 0], 8⟩, body := body }) {} true)

def isoInput (body : IsoBody) : Input :=
  .receive (.request (.iso { sessionId := ⟨[1, 0, 0, 0, 0, 0, 0, 0], 8⟩, body := body }) {} true)

/-- A connection over TCP in which the car offers one protocol. -/
def openConnection (protocol : V2gProtocol) : List Input :=
  [.connect false false true, .handshake (some [⟨protocol, 1⟩]) true true true]

def dinSetup : List Input :=
  [dinInput (.sessionSetup []), dinInput .serviceDiscovery,
    dinInput (.servicePaymentSelection .externalPayment [1])]

def dinSession : List Input :=
  openConnection .din70121 ++ dinSetup ++
    [.command (.setAuthOkayEIM true), dinInput .contractAuthentication,
      dinInput (.chargeParameterDiscovery .dcExtended false),
      .command (.setEVSEIsolationStatus .valid), .command (.cableCheckFinished true),
      dinInput .cableCheck, dinInput (.preCharge ⟨0, 400⟩ ⟨0, 2⟩),
      dinInput (.powerDelivery 1 none), dinInput (.currentDemand ⟨0, 400⟩ ⟨0, 20⟩)]

end EverestCore.V2G
