import EverestCore.V2G.Server

/-! The order of messages in the DIN 70121 server, where a failed response ends the
connection. Every handler writes its next state whatever the response says, and
leaves it to the event to keep a car out that has skipped a message. -/
namespace EverestCore.V2G
open Machine

/-- The messages that lead to the current demand phase. -/
inductive DinMilestone where
  | sessionSetup
  | serviceDiscovery
  | servicePaymentSelection
  | contractAuthentication
  | chargeParameterDiscovery
  | cableCheck
  | preCharge
  | powerDelivery
  deriving DecidableEq, Repr

def dinOrder : List DinMilestone :=
  [.sessionSetup, .serviceDiscovery, .servicePaymentSelection, .contractAuthentication,
    .chargeParameterDiscovery, .cableCheck, .preCharge, .powerDelivery]

/-- What the message of a milestone asks for, and what its answer has to say. -/
def DinMilestone.passedBy (chargeServiceId : ℕ) (response : Response) :
    DinMilestone → DinBody → Bool
  | .sessionSetup, .sessionSetup _ => true
  | .serviceDiscovery, .serviceDiscovery => true
  | .servicePaymentSelection, .servicePaymentSelection option services =>
      option = .externalPayment ∧ services = [chargeServiceId]
  | .contractAuthentication, .contractAuthentication => response.evseProcessing = .finished
  | .chargeParameterDiscovery, .chargeParameterDiscovery requestedType _ =>
      requestedType = .dcCore ∨ requestedType = .dcExtended
  | .cableCheck, .cableCheck =>
      response.evseProcessing = .finished ∧ response.dcEvseStatus.evseIsolationStatusIsUsed ∧
        (response.dcEvseStatus.evseIsolationStatus = .valid ∨
          response.dcEvseStatus.evseIsolationStatus = .warning) ∧
        response.dcEvseStatus.evseStatusCode = .ready
  | .preCharge, .preCharge _ _ => true
  | .powerDelivery, .powerDelivery readyToChargeState _ => readyToChargeState = 1
  | _, _ => false

namespace Entry

/-- A request that is not ignored. -/
def isAnswered : Entry → Bool
  | .exchanged exchange => exchange.handling.event ≠ .ignoreMsg
  | _ => false

/-- The milestone is passed in the session with this id, by an answer that has not
failed. -/
def passes (id : ℕ) (milestone : DinMilestone) : Entry → Bool
  | .exchanged ⟨.din request, _, before, handling⟩ =>
      handling.event ≠ .ignoreMsg ∧ handling.response.responseCode.isFailed = false ∧
        handling.ctx.sessionId = id ∧
        milestone.passedBy before.chargeServiceId handling.response request.body
  | _ => false

/-- A request other than the session setup has this session id in its header. -/
def carries (id : ℕ) : Entry → Bool
  | .exchanged ⟨.din request, _, _, _⟩ =>
      request.body.msg = some .sessionSetup ∨ v2gSessionIdFromExi request.sessionId = id
  | _ => true

/-- The id of the session, if the request leaves it in the state in which the current
demand is awaited. -/
def entersCurrentDemand : Entry → Option ℕ
  | .exchanged ⟨.din _, _, _, handling⟩ =>
      if handling.ctx.state = DinStateId.waitForCurrentDemand.id then some handling.ctx.sessionId
      else none
  | _ => none

/-- The answer has failed, and the connection ends with it. -/
def isTurnedAway : Entry → Bool
  | .exchanged ⟨_, _, _, handling⟩ =>
      handling.response.responseCode.isFailed ∧ handling.event = .sendAndTerminate
  | _ => false

end Entry

/-- The milestones were passed in their order, and the requests that count carried
the id of the session from its setup on. -/
def DinOrderKept (counts : Entry → Bool) (id : ℕ) (connection : List Entry) : Prop :=
  InOrder (dinOrder.map (Entry.passes id)) connection ∧
    ∀ entry ∈ connection.dropWhile (fun entry => !entry.passes id .sessionSetup),
      counts entry = true → entry.carries id = true

instance (counts : Entry → Bool) (id : ℕ) (connection : List Entry) :
    Decidable (DinOrderKept counts id connection) :=
  inferInstanceAs (Decidable (_ ∧ _))

/-- How many milestones a session in this state has passed. A session that is about to
end may have skipped some. -/
def dinReached (state : ℕ) : ℕ := if state ≤ 9 then min state 8 else 0

/-- A message is accepted in the states that list it. -/
theorem mem_of_dinValidateState {state : ℕ} {msg : V2gMsgTypeId}
    (h : dinValidateState state msg = true) :
    state ∈ (List.range 13).filter fun state => dinValidateState state msg := by
  refine List.mem_filter.mpr ⟨?_, h⟩
  rw [List.mem_range]
  by_contra hBeyond
  have hNone : dinStates[state]? = none := List.getElem?_eq_none (Nat.le_of_not_lt hBeyond)
  rw [dinValidateState, hNone] at h
  cases h

namespace V2gContext

variable {ctx : V2gContext}

/-- Without a failure, external payment and the one service were selected. -/
theorem option_of_dinSelectionCode {option : PaymentOption} {services : List ℕ}
    (h : (ctx.dinSelectionCode option services).isFailed = false) :
    option = .externalPayment ∧ services = [ctx.chargeServiceId] := by
  unfold dinSelectionCode at h
  dsimp only at h
  split at h
  · next hServices =>
      split at h
      · cases h
      · next hOption => exact ⟨not_not.mp hOption, hServices⟩
  · cases h

/-- Without a failure, one of the two modes for DC was requested. -/
theorem type_of_dinChargeParameterCode {requestedType : EnergyTransferMode}
    {acParameterIsUsed : Bool}
    (h : (ctx.dinChargeParameterCode requestedType acParameterIsUsed).isFailed = false) :
    requestedType = .dcCore ∨ requestedType = .dcExtended := by
  unfold dinChargeParameterCode at h
  split at h
  · cases h
  · split at h
    · cases h
    · next hType =>
        by_contra hOther
        rw [not_or] at hOther
        exact hType (Or.inl hOther)

/-- A request after which the connection goes on takes the session no further than it
was, or past the next milestone. -/
theorem dinDispatch_advances (around : Surroundings) {body : DinBody} {msg : V2gMsgTypeId}
    {next : DinStateId} (hMsg : body.msg = some msg)
    (hTerminate : ctx.terminateConnectionOnFailedResponse = true)
    (hNext : ctx.dinNext body = some next)
    (hEvent : (ctx.dinDispatch around body).event = .noEvent) :
    dinReached next.id ≤ dinReached ctx.state ∨
      ∃ milestone, dinOrder.take (dinReached next.id) =
          dinOrder.take (dinReached ctx.state) ++ [milestone] ∧
        milestone.passedBy ctx.chargeServiceId (ctx.dinDispatch around body).response body = true := by
  obtain ⟨hAccepted, -⟩ := dinDispatch_accepted around hMsg hTerminate hEvent
  have hAllowed := mem_of_dinValidateState hAccepted.expected
  -- The table leaves one or two states for each message.
  cases body with
  | currentDemand voltage current =>
      cases hMsg
      cases hNext
      have hState : ctx.state ∈ [8, 9] := hAllowed
      left
      rcases List.mem_pair.mp hState with hState | hState <;> rw [hState] <;> decide
  | sessionSetup evccid =>
      cases hMsg
      cases hNext
      have hState : ctx.state ∈ [0] := hAllowed
      rw [List.mem_singleton.mp hState]
      exact Or.inr ⟨.sessionSetup, rfl, rfl⟩
  | serviceDiscovery =>
      cases hMsg
      cases hNext
      have hState : ctx.state ∈ [1] := hAllowed
      rw [List.mem_singleton.mp hState]
      exact Or.inr ⟨.serviceDiscovery, rfl, rfl⟩
  | servicePaymentSelection option services =>
      cases hMsg
      cases hNext
      have hState : ctx.state ∈ [2] := hAllowed
      rw [List.mem_singleton.mp hState]
      refine Or.inr ⟨.servicePaymentSelection, rfl, decide_eq_true ?_⟩
      exact option_of_dinSelectionCode hAccepted.code
  | contractAuthentication =>
      cases hMsg
      have hState : ctx.state ∈ [3] := hAllowed
      rw [List.mem_singleton.mp hState]
      rw [dinNext] at hNext
      split at hNext
      · next hAuth =>
          cases hNext
          refine Or.inr ⟨.contractAuthentication, rfl, decide_eq_true ?_⟩
          exact if_pos hAuth
      · cases hNext
        exact Or.inl le_rfl
  | chargeParameterDiscovery requestedType acParameterIsUsed =>
      cases hMsg
      have hState : ctx.state ∈ [4] := hAllowed
      rw [List.mem_singleton.mp hState]
      rw [dinNext] at hNext
      split at hNext
      · cases hNext
        refine Or.inr ⟨.chargeParameterDiscovery, rfl, decide_eq_true ?_⟩
        exact type_of_dinChargeParameterCode hAccepted.code
      · cases hNext
        exact Or.inl le_rfl
  | cableCheck =>
      cases hMsg
      have hState : ctx.state ∈ [5] := hAllowed
      rw [List.mem_singleton.mp hState]
      rw [dinNext] at hNext
      split at hNext
      · next hPassed =>
          cases hNext
          exact Or.inr ⟨.cableCheck, rfl, hPassed⟩
      · cases hNext
        exact Or.inl le_rfl
  | preCharge voltage current =>
      cases hMsg
      cases hNext
      have hState : ctx.state ∈ [6, 7] := hAllowed
      rcases List.mem_pair.mp hState with hState | hState
      · rw [hState]
        exact Or.inr ⟨.preCharge, rfl, rfl⟩
      · rw [hState]
        exact Or.inl le_rfl
  | powerDelivery readyToChargeState profileTupleId =>
      cases hMsg
      have hState : ctx.state ∈ [7, 9] := hAllowed
      rw [dinNext] at hNext
      split at hNext
      · next hReady =>
          cases hNext
          rcases List.mem_pair.mp hState with hState | hState
          · rw [hState]
            exact Or.inr ⟨.powerDelivery, rfl, decide_eq_true hReady.1⟩
          · rw [hState]
            exact Or.inl le_rfl
      · cases hNext
        exact Or.inl (Nat.zero_le _)
  | weldingDetection =>
      cases hNext
      exact Or.inl (Nat.zero_le _)
  | sessionStop =>
      cases hNext
      exact Or.inl (Nat.zero_le _)
  | _ => cases hMsg

end V2gContext

/-- What an accepted request does to the session. -/
structure DinProgress (ctx : V2gContext) (request : DinRequest) (handling : Handling) : Prop where
  isConnectionTerminated : handling.ctx.isConnectionTerminated = ctx.isConnectionTerminated
  state : handling.ctx.state ≠ 0
  code : handling.response.responseCode.isFailed = false
  session : (request.body.msg = some .sessionSetup ∧ ctx.state = 0) ∨
    (handling.ctx.sessionId = ctx.sessionId ∧ v2gSessionIdFromExi request.sessionId = ctx.sessionId)
  advance : dinReached handling.ctx.state ≤ dinReached ctx.state ∨
    ∃ milestone, dinOrder.take (dinReached handling.ctx.state) =
        dinOrder.take (dinReached ctx.state) ++ [milestone] ∧
      milestone.passedBy ctx.chargeServiceId handling.response request.body = true

section Request

variable {around : Surroundings} {request : DinRequest} {ctx : V2gContext} {msg : V2gMsgTypeId}

/-- A request that was answered without a failure has moved the state one milestone on, or kept it.
-/
theorem dinHandleRequest_progress (hUsed : request.v2gMessageIsUsed = true)
    (hMsg : request.body.msg = some msg)
    (hTerminate : ctx.terminateConnectionOnFailedResponse = true)
    (hEvent : (dinHandleRequest around request ctx).event = .noEvent) :
    DinProgress ctx request (dinHandleRequest around request ctx) := by
  rw [dinHandleRequest_used hUsed] at hEvent ⊢
  rw [Handling.noteLastMsg_event] at hEvent
  have hTerms : { ctx with receivedSessionId := v2gSessionIdFromExi request.sessionId
      }.terminateConnectionOnFailedResponse = true := hTerminate
  obtain ⟨next, hNext, hStart⟩ := V2gContext.dinNext_of_msg { ctx with
    receivedSessionId := v2gSessionIdFromExi request.sessionId } hMsg
  have hState := V2gContext.dinDispatch_state around hNext
  obtain ⟨hAccepted, hCode⟩ := V2gContext.dinDispatch_accepted around hMsg hTerms hEvent
  have hAdvances := V2gContext.dinDispatch_advances around hMsg hTerms hNext hEvent
  constructor
  · rw [Handling.noteLastMsg_ctx]
    exact (V2gContext.dinDispatch_dinKept around _ _).terms.isConnectionTerminated
  · rw [Handling.noteLastMsg_ctx]
    exact hState.trans_ne hStart
  · rw [Handling.noteLastMsg_response, hCode]
    exact hAccepted.code
  · rw [Handling.noteLastMsg_ctx]
    by_cases hSetup : msg = .sessionSetup
    · rw [hSetup] at hMsg hAccepted
      have hAllowed : ctx.state ∈ [0] := mem_of_dinValidateState hAccepted.expected
      exact Or.inl ⟨hMsg, List.mem_singleton.mp hAllowed⟩
    · have hOther : request.body.msg ≠ some .sessionSetup := by
        rw [hMsg]
        exact fun h => hSetup (Option.some.inj h)
      exact Or.inr ⟨V2gContext.dinDispatch_sessionId around hOther,
        (hAccepted.session.resolve_left hSetup).symm⟩
  · rw [Handling.noteLastMsg_ctx, Handling.noteLastMsg_response]
    rw [← hState] at hAdvances
    exact hAdvances

/-- A car that would come to the current demand phase out of order is turned away. -/
theorem dinHandleRequest_terminates (hUsed : request.v2gMessageIsUsed = true)
    (hMsg : request.body.msg = some msg) (hOpen : ctx.isConnectionTerminated = false)
    (hState : (dinHandleRequest around request ctx).ctx.state = DinStateId.waitForCurrentDemand.id)
    (hEvent : (dinHandleRequest around request ctx).event ≠ .noEvent) :
    (dinHandleRequest around request ctx).response.responseCode.isFailed = true ∧
      (dinHandleRequest around request ctx).event = .sendAndTerminate := by
  rw [dinHandleRequest_used hUsed] at hState hEvent ⊢
  rw [Handling.noteLastMsg_ctx] at hState
  rw [Handling.noteLastMsg_event] at hEvent ⊢
  rw [Handling.noteLastMsg_response]
  obtain ⟨next, hNext, -⟩ := V2gContext.dinNext_of_msg { ctx with
    receivedSessionId := v2gSessionIdFromExi request.sessionId } hMsg
  have hDemand : next = .waitForCurrentDemand :=
    DinStateId.id_injective ((V2gContext.dinDispatch_state around hNext).symm.trans hState)
  rw [hDemand] at hNext
  have hStill : { ctx with receivedSessionId := v2gSessionIdFromExi request.sessionId
      }.isConnectionTerminated = false := hOpen
  exact (V2gContext.dinDispatch_terminates around hStill hNext hEvent).symm

end Request

namespace Server

/-- What a connection that is to serve DIN, or does so, has come to. -/
structure DinCourse (s : Server) : Prop where
  isOpen : s.ctx.isConnectionTerminated = false
  passed : InOrder ((dinOrder.take (dinReached s.ctx.state)).map (Entry.passes s.ctx.sessionId))
    (ofConnection s.history)
  identified : ∀ entry ∈ ofConnection s.history,
    entry.isAnswered = true → entry.carries s.ctx.sessionId = true
  quiet : s.ctx.state = 0 → ∀ entry ∈ ofConnection s.history, entry.isAnswered = false

/-- What is not answered changes nothing. -/
theorem DinCourse.unanswered {s next : Server} {entry : Entry} (h : s.DinCourse)
    (hHistory : next.history = s.history ++ [entry]) (hConnected : entry.isConnected = false)
    (hAnswered : entry.isAnswered = false)
    (hOpen : next.ctx.isConnectionTerminated = s.ctx.isConnectionTerminated)
    (hState : next.ctx.state = s.ctx.state) (hId : next.ctx.sessionId = s.ctx.sessionId) :
    next.DinCourse := by
  have hConnection : ofConnection next.history = ofConnection s.history ++ [entry] := by
    rw [hHistory, ofConnection_snoc hConnected]
  constructor
  · rw [hOpen]
    exact h.isOpen
  · rw [hConnection, hState, hId]
    exact h.passed.append [entry]
  · intro other hOther hOtherAnswered
    rw [hConnection, List.mem_append, List.mem_singleton] at hOther
    rcases hOther with hOld | hNew
    · rw [hId]
      exact h.identified other hOld hOtherAnswered
    · rw [hNew, hAnswered] at hOtherAnswered
      cases hOtherAnswered
  · intro hStart other hOther
    rw [hConnection, List.mem_append, List.mem_singleton] at hOther
    rcases hOther with hOld | hNew
    · rw [hState] at hStart
      exact h.quiet hStart other hOld
    · rw [hNew]
      exact hAnswered

/-- A milestone that was passed is put behind those before it. -/
theorem inOrder_advance (reached : ℕ) {id next : ℕ} {connection : List Entry} {entry : Entry}
    (h : InOrder ((dinOrder.take reached).map (Entry.passes id)) connection)
    (hNext : next ≤ reached ∨ ∃ milestone,
      dinOrder.take next = dinOrder.take reached ++ [milestone] ∧ entry.passes id milestone = true) :
    InOrder ((dinOrder.take next).map (Entry.passes id)) (connection ++ [entry]) := by
  rcases hNext with hLe | ⟨milestone, hTake, hPasses⟩
  · have hFirst := (h.take next).append [entry]
    rw [← List.map_take, List.take_take, Nat.min_eq_left hLe] at hFirst
    exact hFirst
  · rw [hTake, List.map_append]
    exact h.snoc hPasses

/-- The course of a session goes on with a request that is accepted. -/
theorem DinCourse.accepted {s : Server} {request : DinRequest} {around : Surroundings}
    {msg : V2gMsgTypeId} (h : s.DinCourse)
    (hTerminate : s.ctx.terminateConnectionOnFailedResponse = true)
    (hUsed : request.v2gMessageIsUsed = true) (hMsg : request.body.msg = some msg)
    (hEvent : (dinHandleRequest around request s.ctx).event = .noEvent) :
    (s.answer (.din request) around).DinCourse := by
  have hProgress := dinHandleRequest_progress hUsed hMsg hTerminate hEvent
  have hConnection : ofConnection (s.answer (.din request) around).history =
      ofConnection s.history ++ [.exchanged ⟨.din request, around, s.ctx,
        dinHandleRequest around request s.ctx⟩] := ofConnection_snoc rfl s.history
  constructor
  · exact hProgress.isConnectionTerminated.trans h.isOpen
  · rw [hConnection]
    apply inOrder_advance (dinReached s.ctx.state)
    · rcases hProgress.session with ⟨-, hStart⟩ | ⟨hId, -⟩
      · rw [hStart]
        exact inOrder_nil _
      · rw [answer_ctx, V2gRequest.handle, hId]
        exact h.passed
    · rcases hProgress.advance with hLe | ⟨milestone, hTake, hPassed⟩
      · exact Or.inl hLe
      · refine Or.inr ⟨milestone, hTake, decide_eq_true ⟨?_, hProgress.code, rfl, hPassed⟩⟩
        rw [hEvent]
        decide
  · intro entry hEntry hAnswered
    rw [hConnection, List.mem_append, List.mem_singleton] at hEntry
    rcases hProgress.session with ⟨hSetup, hStart⟩ | ⟨hId, hCarried⟩
    · rcases hEntry with hOld | hNew
      · rw [h.quiet hStart entry hOld] at hAnswered
        cases hAnswered
      · rw [hNew]
        exact decide_eq_true (Or.inl hSetup)
    · rw [answer_ctx, V2gRequest.handle, hId]
      rcases hEntry with hOld | hNew
      · exact h.identified entry hOld hAnswered
      · rw [hNew]
        exact decide_eq_true (Or.inr hCarried)
  · intro hStart
    exact absurd hStart hProgress.state

/-- In the current demand phase, all milestones of this session were passed in order. -/
theorem DinCourse.orderKept {s : Server} (h : s.DinCourse)
    (hState : s.ctx.state = DinStateId.waitForCurrentDemand.id) :
    DinOrderKept Entry.isAnswered s.ctx.sessionId (ofConnection s.history) := by
  have hPassed := h.passed
  rw [hState] at hPassed
  refine ⟨hPassed, ?_⟩
  intro entry hEntry hAnswered
  exact h.identified entry ((List.dropWhile_sublist _).subset hEntry) hAnswered

/-- A request that leads to the current demand phase comes after all the others, or is
turned away. -/
def EntersInOrder (before : List Entry) (entry : Entry) : Prop :=
  ∀ id ∈ entry.entersCurrentDemand,
    DinOrderKept Entry.isAnswered id (ofConnection (before ++ [entry])) ∨ entry.isTurnedAway = true

structure DinOrdered (s : Server) : Prop where
  terminate : s.ctx.terminateConnectionOnFailedResponse = true
  entered : EachAfter EntersInOrder s.history
  course : s.stage = .handshaking ∨ s.stage = .serving .din70121 → s.DinCourse

/-- Whoever enters the phase has passed them. -/
theorem DinCourse.entersInOrder {s : Server} {request : DinRequest} {around : Surroundings}
    (h : (s.answer (.din request) around).DinCourse) :
    EntersInOrder s.history (.exchanged ⟨.din request, around, s.ctx,
      dinHandleRequest around request s.ctx⟩) := by
  intro id hId
  rw [Entry.entersCurrentDemand] at hId
  split at hId
  · next hState =>
      cases hId
      exact Or.inl (h.orderKept hState)
  · cases hId

/-- One request: if the connection goes on, so does the course of its session. -/
theorem answer_din {s : Server} (h : s.DinCourse)
    (hTerminate : s.ctx.terminateConnectionOnFailedResponse = true) (request : DinRequest)
    (around : Surroundings) :
    EntersInOrder s.history (.exchanged ⟨.din request, around, s.ctx,
        dinHandleRequest around request s.ctx⟩) ∧
      ((s.answer (.din request) around).DinCourse ∨
        (dinHandleRequest around request s.ctx).event.isFinal = true) := by
  by_cases hHandled : request.v2gMessageIsUsed = true ∧ request.body.msg ≠ none
  · obtain ⟨msg, hMsg⟩ := Option.ne_none_iff_exists'.mp hHandled.2
    rcases dinHandleRequest_final around s.ctx hHandled.1 hMsg with hEvent | hFinal
    · have hCourse := h.accepted hTerminate hHandled.1 hMsg hEvent
      exact ⟨hCourse.entersInOrder, Or.inl hCourse⟩
    · refine ⟨?_, Or.inr hFinal⟩
      intro id hId
      rw [Entry.entersCurrentDemand] at hId
      split at hId
      · next hState =>
          right
          have hEvent : (dinHandleRequest around request s.ctx).event ≠ .noEvent := by
            intro hEvent
            rw [hEvent] at hFinal
            cases hFinal
          exact decide_eq_true
            (dinHandleRequest_terminates hHandled.1 hMsg h.isOpen hState hEvent)
      · cases hId
  · have hIgnored : request.v2gMessageIsUsed = false ∨ request.body.msg = none := by
      rw [not_and_or, Bool.not_eq_true, not_not] at hHandled
      exact hHandled
    obtain ⟨hEvent, hOpen, hState, hId⟩ := dinHandleRequest_ignored around s.ctx hIgnored
    have hUnanswered : (Entry.exchanged ⟨.din request, around, s.ctx,
        dinHandleRequest around request s.ctx⟩).isAnswered = false := by
      rw [Entry.isAnswered, hEvent]
      rfl
    have hCourse : (s.answer (.din request) around).DinCourse :=
      h.unanswered rfl rfl hUnanswered hOpen hState hId
    exact ⟨hCourse.entersInOrder, Or.inl hCourse⟩

/-- Without a connection only what happened counts. -/
theorem DinOrdered.of_idle {s : Server} (hStage : s.stage = .idle)
    (hTerminate : s.ctx.terminateConnectionOnFailedResponse = true)
    (hEntered : EachAfter EntersInOrder s.history) : s.DinOrdered := by
  refine ⟨hTerminate, hEntered, ?_⟩
  rw [hStage]
  rintro (hOpen | hOpen) <;> cases hOpen

/-- Only an entry into the phase has to be checked. -/
theorem eachAfter_entersInOrder_snoc {history : List Entry} {entry : Entry}
    (h : EachAfter EntersInOrder history) (hEntry : entry.entersCurrentDemand = none) :
    EachAfter EntersInOrder (history ++ [entry]) := by
  refine eachAfter_snoc.mpr ⟨h, ?_⟩
  intro id hId
  rw [hEntry] at hId
  cases hId

/-- A connection that is left keeps what its history says. -/
theorem leave_dinOrdered {s : Server}
    (hTerminate : s.ctx.terminateConnectionOnFailedResponse = true)
    (hEntered : EachAfter EntersInOrder s.history) : s.leave.DinOrdered :=
  DinOrdered.of_idle rfl hTerminate (eachAfter_entersInOrder_snoc hEntered rfl)

/-- A new connection has passed no milestone. -/
theorem opened_dinCourse (s : Server) (isTls : Bool) : (s.opened isTls).DinCourse := by
  have hConnection : ofConnection (s.opened isTls).history = [] := ofConnection_connected s.history
  refine ⟨rfl, inOrder_nil _, ?_, ?_⟩
  · intro entry hEntry
    rw [hConnection] at hEntry
    cases hEntry
  · intro hStart entry hEntry
    rw [hConnection] at hEntry
    cases hEntry

/-- An exchange goes on in order, or ends the connection. -/
theorem exchange_dinOrdered {s : Server} (h : s.DinOrdered) (request : V2gRequest)
    (around : Surroundings) (delivered : Bool) (hStage : s.stage = .serving request.protocol) :
    (s.exchange request around delivered).DinOrdered := by
  have hTerminate : (s.answer request around).ctx.terminateConnectionOnFailedResponse = true :=
    (request.handle_sameTerms s.isTlsConnection around s.ctx).terminate.trans h.terminate
  unfold exchange
  dsimp only
  cases request with
  | iso request =>
      have hEntered : EachAfter EntersInOrder (s.answer (.iso request) around).history :=
        eachAfter_entersInOrder_snoc h.entered rfl
      split
      · refine ⟨hTerminate, hEntered, ?_⟩
        rw [answer_stage, hStage]
        rintro (hOpen | hOpen) <;> cases hOpen
      · exact leave_dinOrdered hTerminate hEntered
  | din request =>
      obtain ⟨hEnters, hNext⟩ := answer_din (h.course (Or.inr hStage)) h.terminate request around
      have hEntered : EachAfter EntersInOrder (s.answer (.din request) around).history :=
        eachAfter_snoc.mpr ⟨h.entered, hEnters⟩
      rcases hNext with hCourse | hFinal
      · split
        · exact ⟨hTerminate, hEntered, fun _ => hCourse⟩
        · exact leave_dinOrdered hTerminate hEntered
      · rw [V2gRequest.handle, goesOn_eq_false hFinal]
        exact leave_dinOrdered hTerminate hEntered

/-- The order is kept by everything that can happen. -/
theorem step_dinOrdered (s : Server) (input : Input) (h : s.DinOrdered) :
    (s.step input).DinOrdered := by
  have hEffect := step_effect s input
  generalize s.step input = next at hEffect ⊢
  cases hEffect with
  | unchanged => exact h
  | refused hStage =>
      exact DinOrdered.of_idle hStage h.terminate (eachAfter_entersInOrder_snoc h.entered rfl)
  | opened hStage hState isTls =>
      exact ⟨h.terminate, eachAfter_entersInOrder_snoc h.entered rfl,
        fun _ => opened_dinCourse s isTls⟩
  | openedInVain hStage hState isTls =>
      have hTerminate : (s.opened isTls).ctx.terminateConnectionOnFailedResponse = true := h.terminate
      have hOpened : EachAfter EntersInOrder (s.opened isTls).history :=
        eachAfter_entersInOrder_snoc h.entered rfl
      exact DinOrdered.of_idle rfl hTerminate (eachAfter_entersInOrder_snoc hOpened rfl)
  | agreed hStage protocol =>
      have hCourse := h.course (Or.inl hStage)
      exact ⟨h.terminate, h.entered,
        fun _ => ⟨hCourse.isOpen, hCourse.passed, hCourse.identified, hCourse.quiet⟩⟩
  | disagreed hStage protocol => exact leave_dinOrdered h.terminate h.entered
  | left hStage => exact leave_dinOrdered h.terminate h.entered
  | exchanged request around delivered hStage hInput =>
      exact exchange_dinOrdered h request around delivered hStage
  | commanded command hInput =>
      have hSame := V2gContext.command_sameCourse s.ctx command
      refine ⟨hSame.terms.terminate.trans h.terminate,
        eachAfter_entersInOrder_snoc h.entered rfl, ?_⟩
      intro hOpen
      exact (h.course hOpen).unanswered rfl rfl rfl hSame.terms.isConnectionTerminated hSame.state
        hSame.sessionId

/-- Where a failed response ends the connection, a request leaves the session waiting
for the current demand only behind all the others, in their order, or it is turned
away itself; and a connection that goes on there has them all behind it. -/
theorem currentDemand_in_order (config : Config)
    (hTerminate : config.terminateConnectionOnFailedResponse = true) (inputs : List Input) :
    EachAfter EntersInOrder (run step (start config) inputs).history ∧
      ((run step (start config) inputs).stage = .serving .din70121 →
        (run step (start config) inputs).ctx.state = DinStateId.waitForCurrentDemand.id →
        DinOrderKept Entry.isAnswered (run step (start config) inputs).ctx.sessionId
          (ofConnection (run step (start config) inputs).history)) := by
  have hStart : (start config).DinOrdered := DinOrdered.of_idle rfl hTerminate (eachAfter_nil _)
  have hOrdered := run_invariant DinOrdered hStart step_dinOrdered inputs
  exact ⟨hOrdered.entered, fun hStage => (hOrdered.course (Or.inr hStage)).orderKept⟩

/-- The session of a car that keeps the order comes to the current demand phase. -/
theorem currentDemand_in_order_dinSession :
    DinOrderKept Entry.isAnswered 1
      (ofConnection (run step (start strictConfig) (dinSession.take 13)).history) :=
  (currentDemand_in_order strictConfig rfl (dinSession.take 13)).2 (by decide)
    (by decide)

/-- A request of another session that is ignored. -/
def strayInput : Input :=
  .receive (.request (.din { sessionId := ⟨[], 0⟩, body := .serviceDetail }) {} true)

/-- The state is written before a car is turned away that asks for power at once, and
messages that are ignored can carry any session id. -/
theorem currentDemand_out_of_order :
    (¬ EachAfter (fun before entry => ∀ id ∈ entry.entersCurrentDemand,
        DinOrderKept (fun _ => true) id (ofConnection (before ++ [entry])))
      (run step (start strictConfig)
        (openConnection .din70121 ++ [dinInput (.powerDelivery 1 none)])).history) ∧
    ¬ EachAfter (fun before entry => ∀ id ∈ entry.entersCurrentDemand,
        DinOrderKept (fun _ => true) id (ofConnection (before ++ [entry])))
      (run step (start strictConfig) (dinSession.insertIdx 3 strayInput)).history := by
  decide +kernel

end Server

end EverestCore.V2G
