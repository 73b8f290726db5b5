import EverestCore.V2G.Server

/-! Who may pass the authorization phase. The grant of the EVSE is one value of the
context. It can arrive at any time, only one of the ways to the phase takes an older
one back, and the payment option that would ask the car for a signature is written
nowhere. -/
namespace EverestCore.V2G
open Machine

def EvseCommand.grants : EvseCommand → Bool
  | .setAuthOkayEIM authOkay => authOkay
  | .setAuthOkayPnC status certificateStatus => status = .accepted ∧ certificateStatus = .accepted
  | _ => false

/-- The commands that arrive while the handler of the request waits. -/
def Exchange.meanwhile (exchange : Exchange) : List EvseCommand :=
  match exchange.request with
  | .iso ⟨true, _, .powerDelivery _ _⟩ => exchange.around.meanwhile
  | .iso ⟨true, _, .certificateInstallation⟩ =>
      if exchange.around.allocates then exchange.around.meanwhile else []
  | _ => []

namespace Entry

def isSessionSetup : Entry → Bool
  | .exchanged ⟨.din ⟨true, _, .sessionSetup _⟩, _, _, _⟩ => true
  | .exchanged ⟨.iso ⟨true, _, .sessionSetup _⟩, _, _, _⟩ => true
  | _ => false

def grants : Entry → Bool
  | .commanded command => command.grants
  | .exchanged exchange => exchange.meanwhile.any EvseCommand.grants
  | _ => false

/-- The payment option that an ISO request selects with success. -/
def selectedOption : Entry → Option PaymentOption
  | .exchanged ⟨.iso ⟨true, _, .paymentServiceSelection option _⟩, _, _, handling⟩ =>
      if handling.response.responseCode.isFailed then none else some option
  | _ => none

/-- An `AuthorizationReq` with the challenge of the session and a valid signature. -/
def provesContract : Entry → Bool
  | .exchanged ⟨.iso ⟨true, _, .authorization req⟩, _, before, _⟩ =>
      before.challengeMatches req ∧ req.signature = some true
  | _ => false

/-- The request takes the session from the authorization on to the parameters. -/
def passesAuthorization : Entry → Bool
  | .exchanged ⟨.din _, _, before, handling⟩ =>
      before.state = DinStateId.waitForAuthorization.id ∧
        handling.ctx.state = DinStateId.waitForChargeParameterDiscovery.id
  | .exchanged ⟨.iso _, _, before, handling⟩ =>
      before.state = IsoDcStateId.waitForAuthorization.id ∧
        handling.ctx.state = IsoDcStateId.waitForChargeParameterDiscovery.id
  | _ => false

end Entry

/-- The last payment option that was selected on the connection is the contract. -/
def contractSelected (connection : List Entry) : Bool :=
  (connection.filterMap Entry.selectedOption).getLast? = some .contract

/-- A grant has arrived after the session setup of the connection. -/
def Granted (connection : List Entry) : Prop :=
  InOrder [Entry.isSessionSetup, Entry.grants] connection

/-- A session passes the authorization only with a grant of its own, and with a
contract only if the car has proved it. -/
def AuthorizedOnItsOwn (before : List Entry) (entry : Entry) : Prop :=
  entry.passesAuthorization = true →
    Granted (ofConnection before) ∧
      (contractSelected (ofConnection before) = true →
        ∃ other ∈ ofConnection before ++ [entry], other.provesContract = true)

instance (before : List Entry) (entry : Entry) : Decidable (AuthorizedOnItsOwn before entry) :=
  inferInstanceAs (Decidable (_ → InOrder _ _ ∧ _))

/-- No old grant is carried into the session, and the session setup is not skipped. -/
def DinBody.startsAfresh (ctx : V2gContext) : DinBody → Bool
  | .sessionSetup _ => ctx.state ≠ 0 ∨ ctx.evseProcessing .auth ≠ .finished
  | body => body.msg = none ∨ ctx.state ≠ 0 ∨ ctx.terminateConnectionOnFailedResponse

theorem DinBody.startsAfresh_cases {ctx : V2gContext} {body : DinBody} {msg : V2gMsgTypeId}
    (hMsg : body.msg = some msg) (h : body.startsAfresh ctx = true) :
    (∃ evccid, body = .sessionSetup evccid ∧
        (ctx.state ≠ 0 ∨ ctx.evseProcessing .auth ≠ .finished)) ∨
      (msg ≠ .sessionSetup ∧
        (ctx.state ≠ 0 ∨ ctx.terminateConnectionOnFailedResponse = true)) := by
  cases body with
  | sessionSetup evccid => exact Or.inl ⟨evccid, rfl, of_decide_eq_true h⟩
  | _ =>
      cases hMsg <;>
        exact Or.inr ⟨by decide, (of_decide_eq_true h).resolve_left (Option.some_ne_none _)⟩

/-- The session setup is not skipped, no contract that is on offer is selected, and no
old grant is carried on by payment details. -/
def IsoBody.startsAfresh (ctx : V2gContext) : IsoBody → Bool
  | .sessionSetup _ | .certificateUpdate | .notFound => true
  | .paymentDetails _ =>
      ctx.terminateConnectionOnFailedResponse ∨
        (ctx.state ≠ 0 ∧ ctx.evseProcessing .auth ≠ .finished)
  | .paymentServiceSelection .contract _ =>
      (ctx.state ≠ 0 ∨ ctx.terminateConnectionOnFailedResponse) ∧
        .contract ∉ ctx.paymentOptionList.used
  | _ => ctx.state ≠ 0 ∨ ctx.terminateConnectionOnFailedResponse

theorem IsoBody.startsAfresh_received (ctx : V2gContext) (id : ℕ) (body : IsoBody) :
    body.startsAfresh { ctx with receivedSessionId := id } = body.startsAfresh ctx := by
  cases body with
  | paymentServiceSelection option services => cases option <;> rfl
  | _ => rfl

theorem IsoBody.startsAfresh_cases {ctx : V2gContext} {body : IsoBody} (hNext : body.next ≠ [])
    (h : body.startsAfresh ctx = true) :
    (∃ evccid, body = .sessionSetup evccid) ∨ ctx.state ≠ 0 ∨
      ctx.terminateConnectionOnFailedResponse = true := by
  cases body with
  | sessionSetup evccid => exact Or.inl ⟨evccid, rfl⟩
  | certificateUpdate => exact absurd rfl hNext
  | notFound => exact absurd rfl hNext
  | paymentDetails check =>
      rcases of_decide_eq_true h with hTerminate | ⟨hState, -⟩
      · exact Or.inr (Or.inr hTerminate)
      · exact Or.inr (Or.inl hState)
  | paymentServiceSelection option services =>
      cases option with
      | contract => exact Or.inr (of_decide_eq_true h).1
      | externalPayment => exact Or.inr (of_decide_eq_true h)
  | _ => exact Or.inr (of_decide_eq_true h)

def V2gRequest.startsAfresh (ctx : V2gContext) : V2gRequest → Bool
  | .din request => !request.v2gMessageIsUsed || request.body.startsAfresh ctx
  | .iso request => !request.v2gMessageIsUsed || request.body.startsAfresh ctx

namespace V2gContext

variable {ctx : V2gContext} (around : Surroundings)

theorem command_auth {command : EvseCommand}
    (h : (ctx.command command).evseProcessing .auth = .finished) :
    command.grants = true ∨ ctx.evseProcessing .auth = .finished := by
  cases command with
  | setAuthOkayEIM authOkay =>
      cases authOkay with
      | true => exact Or.inl rfl
      | false => exact Or.inr h
  | setAuthOkayPnC status certificateStatus =>
      left
      by_contra hOther
      have hStatus : ¬ (status = .accepted ∧ certificateStatus = .accepted) :=
        fun hBoth => hOther (decide_eq_true hBoth)
      rw [command, setProcessing, if_neg hStatus] at h
      simp at h
  | cableCheckFinished status =>
      have hPhase : ChargingPhase.auth ≠ .isolation := by decide
      rw [command, setProcessing] at h
      dsimp only at h
      rw [Function.update_of_ne hPhase] at h
      exact Or.inr h
  | stopCharging stop => cases stop <;> exact Or.inr h
  | setEVSEUtilityInterruptEvent event => cases event <;> exact Or.inr h
  | setEVSEMalfunction malfunction => cases malfunction <;> exact Or.inr h
  | _ => exact Or.inr h

/-- A request leads from the authorization on to the parameters only after a grant. -/
theorem auth_of_dinNext {body : DinBody} (hParameter : ctx.evseProcessing .parameter = .finished)
    (hNext : ctx.dinNext body = some .waitForChargeParameterDiscovery) :
    ctx.evseProcessing .auth = .finished := by
  cases body with
  | contractAuthentication =>
      rw [dinNext] at hNext
      split at hNext
      · next hAuth => exact hAuth
      · cases hNext
  | chargeParameterDiscovery requestedType acParameterIsUsed =>
      rw [dinNext, if_pos hParameter] at hNext
      cases hNext
  | cableCheck =>
      rw [dinNext] at hNext
      split at hNext <;> cases hNext
  | powerDelivery readyToChargeState profileTupleId =>
      rw [dinNext] at hNext
      split at hNext <;> cases hNext
  | _ => cases hNext

/-- Without a contract nothing is asked of the car. -/
theorem isoAuthorization_state {req : AuthorizationReq} {isTlsConnection : Bool}
    (hOption : ctx.isoSelectedPaymentOption = .externalPayment) :
    (ctx.isoDispatch around isTlsConnection (.authorization req)).ctx.state =
      if ctx.evseProcessing .auth = .finished then
        IsoDcStateId.waitForChargeParameterDiscovery.id
      else IsoDcStateId.waitForAuthorization.id := by
  have hNone : (ctx.withMsg .authorization).contractError req = none := by
    rw [contractError, if_neg]
    rintro ⟨-, hContract⟩
    rw [withMsg, hOption] at hContract
    cases hContract
  rw [isoDispatch, Handling.after_ctx, handleIsoAuthorization, hNone]
  rfl

theorem isoChargeParameterDiscovery_state {requestedMode : EnergyTransferMode}
    {acParameterIsUsed dcParameterIsUsed isTlsConnection : Bool}
    (hParameter : ctx.evseProcessing .parameter = .finished) :
    (ctx.isoDispatch around isTlsConnection (.chargeParameterDiscovery requestedMode
      acParameterIsUsed dcParameterIsUsed)).ctx.state ≠
        IsoDcStateId.waitForChargeParameterDiscovery.id := by
  have hState : (ctx.isoDispatch around isTlsConnection (.chargeParameterDiscovery requestedMode
      acParameterIsUsed dcParameterIsUsed)).ctx.state =
      if ctx.evseProcessing .parameter = .finished then
        if ctx.isDcCharger then IsoDcStateId.waitForCableCheck.id
        else IsoAcStateId.waitForPowerDelivery.id
      else IsoDcStateId.waitForChargeParameterDiscovery.id := rfl
  rw [hState, if_pos hParameter]
  split <;> decide

/-- A request leads from the authorization on to the parameters only after a grant, as
long as there is no contract, and no renegotiation. -/
theorem auth_of_isoDispatch (ctx : V2gContext) {isTlsConnection : Bool} {body : IsoBody}
    (hOption : ctx.isoSelectedPaymentOption = .externalPayment)
    (hParameter : ctx.evseProcessing .parameter = .finished)
    (hLast : ctx.afterChargeLoop = false)
    (hBefore : ctx.state = IsoDcStateId.waitForAuthorization.id)
    (hAfter : (ctx.isoDispatch around isTlsConnection body).ctx.state =
      IsoDcStateId.waitForChargeParameterDiscovery.id) :
    ctx.evseProcessing .auth = .finished := by
  rcases isoDispatch_state_mem around ctx isTlsConnection body with hMem | ⟨-, msg, hSame⟩
  · rw [hAfter] at hMem
    cases body with
    | authorization req =>
        rw [isoAuthorization_state around hOption] at hAfter
        split at hAfter
        · next hAuth => exact hAuth
        · cases hAfter
    | chargeParameterDiscovery requestedMode acParameterIsUsed dcParameterIsUsed =>
        exact absurd hAfter (isoChargeParameterDiscovery_state around hParameter)
    | powerDelivery progress tupleId =>
        rcases handleIsoPowerDelivery_state around (ctx.withMsg .powerDelivery) progress tupleId
          with ⟨-, hLoop⟩ | hOther
        · rw [afterChargeLoop] at hLast hLoop
          exact absurd hLoop (Bool.eq_false_iff.mp hLast)
        · rw [isoDispatch] at hAfter
          rw [hAfter] at hOther
          exact absurd hOther (by decide)
    | paymentServiceSelection option services =>
        cases option <;> exact absurd hMem (by rw [IsoBody.next]; decide)
    | _ => exact absurd hMem (by rw [IsoBody.next]; decide)
  · rw [hSame, withMsg, hBefore] at hAfter
    cases hAfter

theorem isoSelectionCode_isFailed {services : List ℕ}
    (h : PaymentOption.contract ∉ ctx.paymentOptionList.used) :
    (ctx.isoSelectionCode .contract services).isFailed = true := by
  rw [isoSelectionCode, if_neg h]
  split
  · split <;> rfl
  · rfl

/-- A contract that is not on offer is refused. -/
theorem isoPaymentServiceSelection_isFailed {services : List ℕ} {isTlsConnection : Bool}
    (h : PaymentOption.contract ∉ ctx.paymentOptionList.used) :
    (ctx.isoDispatch around isTlsConnection
      (.paymentServiceSelection .contract services)).response.responseCode.isFailed = true :=
  conclude_isFailed (isoSelectionCode_isFailed h)

/-- Without a contract there are no payment details. -/
theorem isoPaymentDetails_final {check : ContractCheck} {isTlsConnection : Bool}
    (hOption : ctx.isoSelectedPaymentOption = .externalPayment)
    (hTerminate : ctx.terminateConnectionOnFailedResponse = true) :
    (ctx.isoDispatch around isTlsConnection (.paymentDetails check)).event.isFinal = true := by
  have hTerms := (checkContract_sameTerms (ctx.withMsg .paymentDetails) check).terminate
  have hRefused : ((ctx.withMsg .paymentDetails).checkContract check).2.responseCode =
      .failedCertChainError := by
    unfold checkContract
    dsimp only
    split
    · rfl
    · split
      · next hContract _ =>
          rw [withMsg, hOption] at hContract
          cases hContract
      · rfl
  show (((ctx.withMsg .paymentDetails).checkContract check).1.isoConclude around
    ((ctx.withMsg .paymentDetails).checkContract check).2
    IsoDcStateId.waitForAuthorization.id []).event.isFinal = true
  refine conclude_event_final.resolve_left ?_
  intro hEvent
  obtain ⟨-, hCode, -⟩ := conclude_continues (hTerms.trans hTerminate) hEvent
  rw [hRefused] at hCode
  cases hCode

theorem checkContract_evseProcessing (ctx : V2gContext) (check : ContractCheck) :
    (ctx.checkContract check).1.evseProcessing = ctx.evseProcessing := by
  unfold checkContract
  dsimp only
  split
  · rfl
  · split <;> rfl

theorem afterChargeLoop_noteLastMsg {handling : Handling} (msg : V2gMsgTypeId)
    (hEvent : handling.event = .noEvent ∨ handling.event.isFinal = true)
    (hMsg : handling.ctx.currentV2gMsg = msg)
    (hOther : msg ≠ .currentDemand ∧ msg ≠ .chargingStatus) :
    handling.noteLastMsg.ctx.afterChargeLoop = false := by
  have hAnswered : handling.event ≠ .ignoreMsg := by
    intro hIgnored
    rw [hIgnored] at hEvent
    rcases hEvent with hEvent | hEvent <;> cases hEvent
  rw [Handling.noteLastMsg_ctx, afterChargeLoop, if_pos hAnswered, hMsg]
  refine decide_eq_false ?_
  rintro (hDemand | hStatus)
  · exact hOther.1 hDemand
  · exact hOther.2 hStatus

/-- Where a session comes to wait for its authorization, the charge loop lies not just
behind it, and only payment details bring an old grant along. -/
theorem isoDispatch_authorization (isTlsConnection : Bool) {body : IsoBody} (hBody : body.next ≠ [])
    (hOption : ctx.isoSelectedPaymentOption = .externalPayment)
    (hState : (ctx.isoDispatch around isTlsConnection body).ctx.state =
      IsoDcStateId.waitForAuthorization.id) :
    (ctx.isoDispatch around isTlsConnection body).noteLastMsg.ctx.afterChargeLoop = false ∧
      ((ctx.isoDispatch around isTlsConnection body).ctx.evseProcessing .auth = .finished →
        (∃ check, body = .paymentDetails check) ∧ ctx.evseProcessing .auth = .finished) := by
  have hMem := (isoDispatch_state_mem around ctx isTlsConnection body).resolve_right
    fun hStays => hBody hStays.1
  rw [hState] at hMem
  cases body with
  | paymentServiceSelection option services =>
      cases option with
      | contract => exact absurd hMem (by rw [IsoBody.next]; decide)
      | externalPayment =>
          have hEvent : (ctx.isoDispatch around isTlsConnection
              (.paymentServiceSelection .externalPayment services)).event = .noEvent ∨
                (ctx.isoDispatch around isTlsConnection
                  (.paymentServiceSelection .externalPayment services)).event.isFinal = true := by
            rw [isoDispatch, handleIsoPaymentServiceSelection]
            dsimp only
            exact conclude_event_final
          refine ⟨afterChargeLoop_noteLastMsg .paymentServiceSelection hEvent rfl (by decide), ?_⟩
          intro hAuth
          have hWaiting : (ctx.isoDispatch around isTlsConnection
              (.paymentServiceSelection .externalPayment services)).ctx.evseProcessing .auth =
                .ongoingWaitingForCustomerInteraction := rfl
          rw [hWaiting] at hAuth
          cases hAuth
  | paymentDetails check =>
      have hMsg : (ctx.isoDispatch around isTlsConnection (.paymentDetails check)).ctx.currentV2gMsg =
          .paymentDetails := (checkContract_prepared .paymentDetails check).currentV2gMsg
      refine ⟨afterChargeLoop_noteLastMsg _ conclude_event_final hMsg (by decide), ?_⟩
      intro hAuth
      refine ⟨⟨check, rfl⟩, ?_⟩
      have hKept := checkContract_evseProcessing (ctx.withMsg .paymentDetails) check
      rw [← hAuth]
      exact (congrFun hKept .auth).symm
  | authorization req =>
      refine ⟨afterChargeLoop_noteLastMsg .authorization conclude_event_final rfl (by decide), ?_⟩
      intro hAuth
      rw [isoAuthorization_state around hOption] at hState
      have hBefore : ctx.evseProcessing .auth = .finished := hAuth
      rw [if_pos hBefore] at hState
      cases hState
  | _ => exact absurd hMem (by rw [IsoBody.next]; decide)

/-- A request that meets the condition ends the connection, or its session has been set
up and brings no old grant to the authorization. -/
theorem isoDispatch_startsAfresh (ctx : V2gContext) (isTlsConnection : Bool) {body : IsoBody}
    (hBody : body.next ≠ [])
    (hFresh : body.startsAfresh ctx = true)
    (hOption : ctx.isoSelectedPaymentOption = .externalPayment)
    (hCertificate : ctx.certInstallRes = none) :
    (ctx.isoDispatch around isTlsConnection body).event.isFinal = true ∨
      ((ctx.state ≠ 0 ∨ ∃ evccid, body = .sessionSetup evccid) ∧
        ((ctx.isoDispatch around isTlsConnection body).ctx.state =
            IsoDcStateId.waitForAuthorization.id →
          (ctx.isoDispatch around isTlsConnection body).noteLastMsg.ctx.afterChargeLoop = false ∧
            (ctx.isoDispatch around isTlsConnection body).ctx.evseProcessing .auth ≠ .finished)) := by
  have hWaits := isoDispatch_authorization around isTlsConnection hBody hOption
  by_cases hDetails : ∃ check, body = .paymentDetails check
  · obtain ⟨check, rfl⟩ := hDetails
    rcases of_decide_eq_true hFresh with hTerminate | ⟨hStarted, hAuth⟩
    · exact Or.inl (isoPaymentDetails_final around hOption hTerminate)
    · refine Or.inr ⟨Or.inl hStarted, fun hState => ⟨(hWaits hState).1, ?_⟩⟩
      intro hFinished
      exact hAuth ((hWaits hState).2 hFinished).2
  · have hNoGrant : (ctx.isoDispatch around isTlsConnection body).ctx.state =
          IsoDcStateId.waitForAuthorization.id →
        (ctx.isoDispatch around isTlsConnection body).noteLastMsg.ctx.afterChargeLoop = false ∧
          (ctx.isoDispatch around isTlsConnection body).ctx.evseProcessing .auth ≠ .finished :=
      fun hState => ⟨(hWaits hState).1, fun hAuth => hDetails ((hWaits hState).2 hAuth).1⟩
    by_cases hSetup : ∃ evccid, body = .sessionSetup evccid
    · exact Or.inr ⟨Or.inr hSetup, hNoGrant⟩
    · by_cases hState : ctx.state = 0
      · have hTerminate := ((IsoBody.startsAfresh_cases hBody hFresh).resolve_left hSetup).resolve_left
          (not_not.mpr hState)
        exact Or.inl (isoDispatch_final around hBody (fun evccid h => hSetup ⟨evccid, h⟩) hState
          hCertificate hTerminate)
      · exact Or.inr ⟨Or.inl hState, hNoGrant⟩

end V2gContext

namespace Server

/-- A request that is handled meets the condition of its protocol. -/
def StartsAfresh (s : Server) : Input → Prop
  | .receive (.request request _ _) =>
      s.stage = .serving request.protocol → request.startsAfresh s.ctx = true
  | _ => True

instance (s : Server) (input : Input) : Decidable (s.StartsAfresh input) :=
  match input with
  | .receive (.request _ _ _) => inferInstanceAs (Decidable (_ → _))
  | .receive .closedByPeer | .receive .readFailed | .receive .undecodable | .connect _ _ _
  | .handshakeFailed | .handshake _ _ _ _ | .command _ => inferInstanceAs (Decidable True)

/-- How the open connection stands with its grant. -/
structure GrantCourse (s : Server) : Prop where
  setUp : s.ctx.state ≠ 0 → InOrder [Entry.isSessionSetup] (ofConnection s.history)
  option : ∀ entry ∈ ofConnection s.history, entry.selectedOption ≠ some .contract
  din : s.stage ≠ .serving .iso15118_2013 → s.ctx.state ≠ 0 →
    s.ctx.evseProcessing .auth = .finished → Granted (ofConnection s.history)
  iso : s.stage ≠ .serving .din70121 → s.ctx.state = IsoDcStateId.waitForAuthorization.id →
    s.ctx.afterChargeLoop = false ∧
      (s.ctx.evseProcessing .auth = .finished → Granted (ofConnection s.history))

/-- What every run keeps whose requests meet the condition. -/
structure GrantsOwned (s : Server) : Prop where
  isoSelectedPaymentOption : s.ctx.isoSelectedPaymentOption = .externalPayment
  certInstallRes : s.ctx.certInstallRes = none
  parameter : s.ctx.evseProcessing .parameter = .finished
  authorized : EachAfter AuthorizedOnItsOwn s.history
  course : s.stage ≠ .idle → s.GrantCourse

theorem opened_grantCourse (s : Server) (isTls : Bool) : (s.opened isTls).GrantCourse := by
  have hConnection : ofConnection (s.opened isTls).history = [] := ofConnection_connected s.history
  constructor
  · intro hState
    exact absurd rfl hState
  · intro entry hEntry
    rw [hConnection] at hEntry
    cases hEntry
  · intro hStage hState
    exact absurd rfl hState
  · intro hStage hState
    cases hState

/-- One more entry on the open connection. -/
theorem GrantCourse.extend {s next : Server} {entry : Entry} (h : s.GrantCourse)
    (hHistory : next.history = s.history ++ [entry]) (hConnected : entry.isConnected = false)
    (hOption : entry.selectedOption ≠ some .contract)
    (hSetUp : next.ctx.state ≠ 0 → s.ctx.state ≠ 0 ∨ entry.isSessionSetup = true)
    (hDin : next.stage ≠ .serving .iso15118_2013 → next.ctx.state ≠ 0 →
      next.ctx.evseProcessing .auth = .finished → Granted (ofConnection s.history ++ [entry]))
    (hIso : next.stage ≠ .serving .din70121 →
      next.ctx.state = IsoDcStateId.waitForAuthorization.id →
      next.ctx.afterChargeLoop = false ∧
        (next.ctx.evseProcessing .auth = .finished →
          Granted (ofConnection s.history ++ [entry]))) :
    next.GrantCourse := by
  have hConnection : ofConnection next.history = ofConnection s.history ++ [entry] := by
    rw [hHistory, ofConnection_snoc hConnected]
  constructor
  · intro hState
    rw [hConnection]
    rcases hSetUp hState with hBefore | hSetup
    · exact (h.setUp hBefore).append _
    · exact (inOrder_nil _).snoc hSetup
  · intro other hOther
    rw [hConnection, List.mem_append, List.mem_singleton] at hOther
    rcases hOther with hOld | hNew
    · exact h.option other hOld
    · rw [hNew]
      exact hOption
  · rw [hConnection]
    exact hDin
  · rw [hConnection]
    exact hIso

/-- A command is a grant, or leaves the connection as it is. -/
theorem command_grantCourse {s : Server} (h : s.GrantCourse) (command : EvseCommand) :
    ({ s with ctx := s.ctx.command command }.note (.commanded command)).GrantCourse := by
  have hSame := V2gContext.command_sameCourse s.ctx command
  have hGranted : (s.ctx.command command).evseProcessing .auth = .finished → s.ctx.state ≠ 0 →
      (s.ctx.evseProcessing .auth = .finished → Granted (ofConnection s.history)) →
      Granted (ofConnection s.history ++ [.commanded command]) := by
    intro hAuth hState hOld
    rcases V2gContext.command_auth hAuth with hGrants | hAlready
    · exact (h.setUp hState).snoc hGrants
    · exact (hOld hAlready).append _
  refine h.extend rfl rfl (Option.some_ne_none _).symm ?_ ?_ ?_
  · rw [note_ctx, hSame.state]
    exact Or.inl
  · rw [note_ctx, hSame.state]
    intro hStage hState hAuth
    exact hGranted hAuth hState (h.din hStage hState)
  · rw [note_ctx, hSame.state, V2gContext.afterChargeLoop, hSame.lastV2gMsg]
    intro hStage hState
    obtain ⟨hLast, hOld⟩ := h.iso hStage hState
    refine ⟨hLast, fun hAuth => hGranted hAuth ?_ hOld⟩
    rw [hState]
    decide

theorem contractSelected_eq_false {connection : List Entry}
    (h : ∀ entry ∈ connection, entry.selectedOption ≠ some .contract) :
    contractSelected connection = false := by
  refine decide_eq_false ?_
  intro hLast
  obtain ⟨entry, hEntry, hSelected⟩ := List.mem_filterMap.mp (List.mem_of_getLast? hLast)
  exact h entry hEntry hSelected

/-- Without a contract the grant is all that is asked for. -/
theorem GrantCourse.authorizedOnItsOwn {s : Server} {entry : Entry} (h : s.GrantCourse)
    (hGranted : entry.passesAuthorization = true → Granted (ofConnection s.history)) :
    AuthorizedOnItsOwn s.history entry := by
  intro hPasses
  refine ⟨hGranted hPasses, ?_⟩
  intro hContract
  rw [contractSelected_eq_false h.option] at hContract
  cases hContract

/-- The course of a DIN session with one more entry. -/
theorem GrantCourse.answer_din {s : Server} {request : DinRequest} {around : Surroundings}
    (h : s.GrantCourse) (hStage : s.stage = .serving .din70121)
    (hSetUp : (dinHandleRequest around request s.ctx).ctx.state ≠ 0 →
      (s.ctx.state ≠ 0 ∨ (Entry.exchanged ⟨.din request, around, s.ctx,
        dinHandleRequest around request s.ctx⟩).isSessionSetup = true ∧
        s.ctx.evseProcessing .auth ≠ .finished)) :
    (s.answer (.din request) around).GrantCourse := by
  refine h.extend rfl rfl (Option.some_ne_none _).symm ?_ ?_ ?_
  · intro hState
    rcases hSetUp hState with hBefore | ⟨hSetup, -⟩
    · exact Or.inl hBefore
    · exact Or.inr hSetup
  · intro hNotIso hState hAuth
    have hBefore : s.ctx.evseProcessing .auth = .finished := by
      rw [← dinHandleRequest_evseProcessing around request s.ctx]
      exact hAuth
    rcases hSetUp hState with hStarted | ⟨-, hFresh⟩
    · exact (h.din hNotIso hStarted hBefore).append _
    · exact absurd hBefore hFresh
  · intro hNotDin
    exact absurd hStage hNotDin

theorem isSessionSetup_din {request : DinRequest} {around : Surroundings} {before : V2gContext}
    {handling : Handling} {evccid : List UInt8} (hUsed : request.v2gMessageIsUsed = true)
    (hBody : request.body = .sessionSetup evccid) :
    (Entry.exchanged ⟨.din request, around, before, handling⟩).isSessionSetup = true := by
  cases request
  cases hUsed
  cases hBody
  rfl

theorem answer_din_grants {s : Server} (h : s.GrantsOwned) (hStage : s.stage = .serving .din70121)
    {request : DinRequest} (around : Surroundings)
    (hFresh : (V2gRequest.din request).startsAfresh s.ctx = true) :
    AuthorizedOnItsOwn s.history (.exchanged ⟨.din request, around, s.ctx,
        dinHandleRequest around request s.ctx⟩) ∧
      ((s.answer (.din request) around).GrantCourse ∨
        (dinHandleRequest around request s.ctx).event.isFinal = true) := by
  have hCourse := h.course (ne_idle_of_serving hStage)
  have hNotIso : s.stage ≠ .serving .iso15118_2013 := by
    rw [hStage]
    decide
  by_cases hHandled : request.v2gMessageIsUsed = true ∧ request.body.msg ≠ none
  · obtain ⟨hUsed, hNotNone⟩ := hHandled
    obtain ⟨msg, hMsg⟩ := Option.ne_none_iff_exists'.mp hNotNone
    obtain ⟨next, hNext, hStart⟩ := V2gContext.dinNext_of_msg s.ctx hMsg
    have hState := dinHandleRequest_state around hUsed hNext
    constructor
    · refine hCourse.authorizedOnItsOwn ?_
      intro hPasses
      obtain ⟨hBefore, hAfter⟩ := of_decide_eq_true hPasses
      have hParameters := DinStateId.id_injective (hState.symm.trans hAfter)
      rw [hParameters] at hNext
      refine hCourse.din hNotIso ?_ (V2gContext.auth_of_dinNext h.parameter hNext)
      rw [hBefore]
      decide
    · rw [V2gRequest.startsAfresh, hUsed] at hFresh
      rcases DinBody.startsAfresh_cases hMsg hFresh with ⟨evccid, hBody, hNew⟩ | ⟨hOther, hOld⟩
      · left
        refine hCourse.answer_din hStage fun _ => ?_
        rcases hNew with hStarted | hAuth
        · exact Or.inl hStarted
        · exact Or.inr ⟨isSessionSetup_din hUsed hBody, hAuth⟩
      · by_cases hStarted : s.ctx.state = 0
        · have hTerminate := hOld.resolve_left (not_not.mpr hStarted)
          exact Or.inr (dinHandleRequest_unprepared around hUsed hMsg hOther hStarted hTerminate)
        · exact Or.inl (hCourse.answer_din hStage fun _ => Or.inl hStarted)
  · have hIgnored : request.v2gMessageIsUsed = false ∨ request.body.msg = none := by
      rw [not_and_or, Bool.not_eq_true, not_not] at hHandled
      exact hHandled
    obtain ⟨-, -, hState, -⟩ := dinHandleRequest_ignored around s.ctx hIgnored
    constructor
    · refine hCourse.authorizedOnItsOwn ?_
      intro hPasses
      obtain ⟨hBefore, hAfter⟩ := of_decide_eq_true hPasses
      rw [hState, hBefore] at hAfter
      cases hAfter
    · refine Or.inl (hCourse.answer_din hStage ?_)
      rw [hState]
      exact Or.inl

/-- The course of an ISO session with one more entry. -/
theorem GrantCourse.answer_iso {s : Server} {request : IsoRequest} {around : Surroundings}
    (h : s.GrantCourse) (hStage : s.stage = .serving .iso15118_2013)
    (hSetUp : (isoHandleRequest around s.isTlsConnection request s.ctx).ctx.state ≠ 0 →
      s.ctx.state ≠ 0 ∨ (Entry.exchanged ⟨.iso request, around, s.ctx,
        isoHandleRequest around s.isTlsConnection request s.ctx⟩).isSessionSetup = true)
    (hOption : (Entry.exchanged ⟨.iso request, around, s.ctx,
      isoHandleRequest around s.isTlsConnection request s.ctx⟩).selectedOption ≠ some .contract)
    (hAuthorization : (isoHandleRequest around s.isTlsConnection request s.ctx).ctx.state =
        IsoDcStateId.waitForAuthorization.id →
      (isoHandleRequest around s.isTlsConnection request s.ctx).ctx.afterChargeLoop = false ∧
        ((isoHandleRequest around s.isTlsConnection request s.ctx).ctx.evseProcessing .auth =
          .finished → Granted (ofConnection s.history))) :
    (s.answer (.iso request) around).GrantCourse := by
  refine h.extend rfl rfl hOption hSetUp ?_ ?_
  · intro hNotIso
    exact absurd hStage hNotIso
  · intro hNotDin hState
    obtain ⟨hLast, hGranted⟩ := hAuthorization hState
    exact ⟨hLast, fun hAuth => (hGranted hAuth).append _⟩

theorem isSessionSetup_iso {request : IsoRequest} {around : Surroundings} {before : V2gContext}
    {handling : Handling} {evccid : List UInt8} (hUsed : request.v2gMessageIsUsed = true)
    (hBody : request.body = .sessionSetup evccid) :
    (Entry.exchanged ⟨.iso request, around, before, handling⟩).isSessionSetup = true := by
  cases request
  cases hUsed
  cases hBody
  rfl

/-- Only the selection of a contract that is on offer is counted. -/
theorem selectedOption_ne_contract {s : Server} {request : IsoRequest} (around : Surroundings)
    (hFresh : (V2gRequest.iso request).startsAfresh s.ctx = true) :
    (Entry.exchanged ⟨.iso request, around, s.ctx,
      isoHandleRequest around s.isTlsConnection request s.ctx⟩).selectedOption ≠ some .contract := by
  obtain ⟨used, sessionId, body⟩ := request
  intro hSelected
  cases used with
  | false => cases hSelected
  | true =>
      cases body with
      | paymentServiceSelection option services =>
          rw [Entry.selectedOption] at hSelected
          split at hSelected
          · cases hSelected
          · next hGood =>
              cases hSelected
              have hOffer := (of_decide_eq_true hFresh).2
              rw [isoHandleRequest_used around _ _ rfl, Handling.noteLastMsg_response] at hGood
              exact hGood (V2gContext.isoPaymentServiceSelection_isFailed around hOffer)
      | _ => cases hSelected

theorem isoHandleRequest_stays {request : IsoRequest} (around : Surroundings)
    (isTlsConnection : Bool) (ctx : V2gContext) (hUsed : request.v2gMessageIsUsed = true)
    (hBody : request.body.next = []) :
    (isoHandleRequest around isTlsConnection request ctx).ctx.state = ctx.state ∧
      (isoHandleRequest around isTlsConnection request ctx).ctx.evseProcessing =
        ctx.evseProcessing ∧
      (ctx.afterChargeLoop = false →
        (isoHandleRequest around isTlsConnection request ctx).ctx.afterChargeLoop = false) := by
  obtain ⟨used, sessionId, body⟩ := request
  cases hUsed
  cases body with
  | certificateUpdate => exact ⟨rfl, rfl, fun _ => rfl⟩
  | notFound => exact ⟨rfl, rfl, fun hLast => hLast⟩
  | paymentServiceSelection option services => cases option <;> cases hBody
  | _ => cases hBody

theorem answer_iso_course {s : Server} {request : IsoRequest} (around : Surroundings)
    (h : s.GrantsOwned) (hCourse : s.GrantCourse) (hStage : s.stage = .serving .iso15118_2013)
    (hNotDin : s.stage ≠ .serving .din70121) (hUsed : request.v2gMessageIsUsed = true)
    (hFresh : (V2gRequest.iso request).startsAfresh s.ctx = true) :
    (s.answer (.iso request) around).GrantCourse ∨
      (isoHandleRequest around s.isTlsConnection request s.ctx).event.isFinal = true := by
  have hOption := selectedOption_ne_contract around hFresh
  have hHandling := isoHandleRequest_used around s.isTlsConnection s.ctx hUsed
  by_cases hBody : request.body.next = []
  · obtain ⟨hState, hProcessing, hLast⟩ :=
      isoHandleRequest_stays around s.isTlsConnection s.ctx hUsed hBody
    refine Or.inl (hCourse.answer_iso hStage ?_ hOption ?_)
    · rw [hState]
      exact Or.inl
    · rw [hState, hProcessing]
      intro hWaiting
      obtain ⟨hBefore, hGranted⟩ := hCourse.iso hNotDin hWaiting
      exact ⟨hLast hBefore, hGranted⟩
  · rw [V2gRequest.startsAfresh, hUsed] at hFresh
    have hReceived := (IsoBody.startsAfresh_received s.ctx (v2gSessionIdFromExi request.sessionId)
      request.body).trans hFresh
    rcases V2gContext.isoDispatch_startsAfresh around { s.ctx with
        receivedSessionId := v2gSessionIdFromExi request.sessionId } s.isTlsConnection hBody hReceived
        h.isoSelectedPaymentOption h.certInstallRes with hFinal | ⟨hSetUp, hWaits⟩
    · right
      rw [hHandling, Handling.noteLastMsg_event]
      exact hFinal
    · refine Or.inl (hCourse.answer_iso hStage ?_ hOption ?_)
      · intro _
        rcases hSetUp with hStarted | ⟨evccid, hSetup⟩
        · exact Or.inl hStarted
        · exact Or.inr (isSessionSetup_iso hUsed hSetup)
      · rw [hHandling]
        intro hState
        rw [Handling.noteLastMsg_ctx] at hState
        obtain ⟨hLast, hAuth⟩ := hWaits hState
        refine ⟨hLast, ?_⟩
        intro hFinished
        rw [Handling.noteLastMsg_ctx] at hFinished
        exact absurd hFinished hAuth

theorem answer_iso_grants {s : Server} (h : s.GrantsOwned)
    (hStage : s.stage = .serving .iso15118_2013) {request : IsoRequest} (around : Surroundings)
    (hFresh : (V2gRequest.iso request).startsAfresh s.ctx = true) :
    AuthorizedOnItsOwn s.history (.exchanged ⟨.iso request, around, s.ctx,
        isoHandleRequest around s.isTlsConnection request s.ctx⟩) ∧
      ((s.answer (.iso request) around).GrantCourse ∨
        (isoHandleRequest around s.isTlsConnection request s.ctx).event.isFinal = true) := by
  have hCourse := h.course (ne_idle_of_serving hStage)
  have hNotDin : s.stage ≠ .serving .din70121 := by
    rw [hStage]
    decide
  have hOption := selectedOption_ne_contract around hFresh
  by_cases hUsed : request.v2gMessageIsUsed = true
  · constructor
    · refine hCourse.authorizedOnItsOwn ?_
      intro hPasses
      obtain ⟨hBefore, hAfter⟩ := of_decide_eq_true hPasses
      obtain ⟨hLast, hGranted⟩ := hCourse.iso hNotDin hBefore
      rw [isoHandleRequest_used around _ _ hUsed, Handling.noteLastMsg_ctx] at hAfter
      exact hGranted (V2gContext.auth_of_isoDispatch around { s.ctx with
        receivedSessionId := v2gSessionIdFromExi request.sessionId } h.isoSelectedPaymentOption
        h.parameter hLast hBefore hAfter)
    · exact answer_iso_course around h hCourse hStage hNotDin hUsed hFresh
  · have hHandling := isoHandleRequest_unused around s.isTlsConnection s.ctx
      (Bool.eq_false_iff.mpr hUsed)
    constructor
    · refine hCourse.authorizedOnItsOwn ?_
      intro hPasses
      obtain ⟨hBefore, hAfter⟩ := of_decide_eq_true hPasses
      rw [hHandling, hBefore] at hAfter
      cases hAfter
    · refine Or.inl (hCourse.answer_iso hStage ?_ hOption ?_)
      · rw [hHandling]
        exact Or.inl
      · rw [hHandling]
        exact hCourse.iso hNotDin

theorem eachAfter_authorized_snoc {history : List Entry} {entry : Entry}
    (h : EachAfter AuthorizedOnItsOwn history) (hEntry : entry.passesAuthorization = false) :
    EachAfter AuthorizedOnItsOwn (history ++ [entry]) := by
  refine eachAfter_snoc.mpr ⟨h, ?_⟩
  intro hPasses
  rw [hEntry] at hPasses
  cases hPasses

/-- Every end of a connection resets what the invariant asks of the context. -/
theorem GrantsOwned.of_idle {s : Server} {ctx : V2gContext} {entry : Entry}
    (h : EachAfter AuthorizedOnItsOwn s.history) (hEntry : entry.passesAuthorization = false) :
    ({ s with ctx := initChargingSession true ctx, stage := .idle }.note entry).GrantsOwned := by
  refine ⟨rfl, rfl, rfl, eachAfter_authorized_snoc h hEntry, ?_⟩
  intro hOpen
  exact absurd rfl hOpen

theorem leave_grantsOwned {s : Server} (h : EachAfter AuthorizedOnItsOwn s.history) :
    s.leave.GrantsOwned := GrantsOwned.of_idle h rfl

/-- One request on an open connection. -/
theorem exchange_grantsOwned {s : Server} (h : s.GrantsOwned) {request : V2gRequest}
    (around : Surroundings) (delivered : Bool) (hStage : s.stage = .serving request.protocol)
    (hFresh : request.startsAfresh s.ctx = true) :
    (s.exchange request around delivered).GrantsOwned := by
  have hTerms := request.handle_sameTerms s.isTlsConnection around s.ctx
  have hAnswer : AuthorizedOnItsOwn s.history (.exchanged ⟨request, around, s.ctx,
        request.handle s.isTlsConnection around s.ctx⟩) ∧
      ((s.answer request around).GrantCourse ∨
        (request.handle s.isTlsConnection around s.ctx).event.isFinal = true) := by
    cases request with
    | din request => exact answer_din_grants h hStage around hFresh
    | iso request => exact answer_iso_grants h hStage around hFresh
  have hAuthorized : EachAfter AuthorizedOnItsOwn (s.answer request around).history :=
    eachAfter_snoc.mpr ⟨h.authorized, hAnswer.1⟩
  unfold exchange
  dsimp only
  rcases hAnswer.2 with hCourse | hFinal
  · split
    · exact ⟨hTerms.isoSelectedPaymentOption.trans h.isoSelectedPaymentOption,
        hTerms.certInstallRes.trans h.certInstallRes, hTerms.parameter.trans h.parameter,
        hAuthorized, fun _ => hCourse⟩
    · exact leave_grantsOwned hAuthorized
  · rw [goesOn_eq_false hFinal]
    exact leave_grantsOwned hAuthorized

/-- The step lemma: the invariant is kept by every input that meets the condition. -/
theorem step_grantsOwned (s : Server) (input : Input) (h : s.GrantsOwned)
    (hFresh : s.StartsAfresh input) : (s.step input).GrantsOwned := by
  have hEffect := step_effect s input
  generalize s.step input = next at hEffect ⊢
  cases hEffect with
  | unchanged => exact h
  | refused hStage =>
      refine ⟨rfl, rfl, rfl, eachAfter_authorized_snoc h.authorized rfl, ?_⟩
      intro hOpen
      exact absurd hStage hOpen
  | opened hStage hState isTls =>
      exact ⟨h.isoSelectedPaymentOption, h.certInstallRes, h.parameter,
        eachAfter_authorized_snoc h.authorized rfl, fun _ => opened_grantCourse s isTls⟩
  | openedInVain hStage hState isTls =>
      have hOpened : EachAfter AuthorizedOnItsOwn (s.opened isTls).history :=
        eachAfter_authorized_snoc h.authorized rfl
      exact GrantsOwned.of_idle hOpened rfl
  | agreed hStage protocol =>
      refine ⟨h.isoSelectedPaymentOption, h.certInstallRes, h.parameter, h.authorized, ?_⟩
      intro _
      have hOpen : s.stage ≠ .idle := by
        rw [hStage]
        decide
      have hCourse := h.course hOpen
      have hNotIso : s.stage ≠ .serving .iso15118_2013 := by
        rw [hStage]
        decide
      have hNotDin : s.stage ≠ .serving .din70121 := by
        rw [hStage]
        decide
      exact ⟨hCourse.setUp, hCourse.option, fun _ => hCourse.din hNotIso,
        fun _ => hCourse.iso hNotDin⟩
  | disagreed hStage protocol => exact leave_grantsOwned h.authorized
  | left hStage => exact leave_grantsOwned h.authorized
  | exchanged request around delivered hStage hInput =>
      rw [hInput] at hFresh
      exact exchange_grantsOwned h around delivered hStage (hFresh hStage)
  | commanded command hInput =>
      have hTerms := (V2gContext.command_sameCourse s.ctx command).terms
      refine ⟨hTerms.isoSelectedPaymentOption.trans h.isoSelectedPaymentOption,
        hTerms.certInstallRes.trans h.certInstallRes, hTerms.parameter.trans h.parameter,
        eachAfter_authorized_snoc h.authorized rfl, ?_⟩
      intro hOpen
      exact command_grantCourse (h.course hOpen) command

/-- In every run whose requests bring no old grant along, skip no session setup and
select no contract, a session passes the authorization only with a grant of its own. -/
theorem authorization_granted_on_its_own (config : Config) (inputs : List Input)
    (h : EveryStep step StartsAfresh (start config) inputs) :
    EachAfter AuthorizedOnItsOwn (run step (start config) inputs).history := by
  have hStart : (start config).GrantsOwned := by
    refine ⟨rfl, rfl, rfl, eachAfter_nil _, ?_⟩
    intro hOpen
    exact absurd rfl hOpen
  exact (run_invariant_of_everyStep GrantsOwned hStart step_grantsOwned inputs h).authorized

/-- A session that meets the condition and does pass the authorization. -/
theorem authorization_granted_on_its_own_dinSession :
    (run step (start strictConfig) dinSession).history.any Entry.passesAuthorization = true ∧
      EachAfter AuthorizedOnItsOwn (run step (start strictConfig) dinSession).history :=
  ⟨by decide +kernel, authorization_granted_on_its_own strictConfig dinSession (by decide)⟩

/-- The grant comes before the session setup, and DIN keeps it. -/
def grantedBefore : List Input :=
  openConnection .din70121 ++ [.command (.setAuthOkayEIM true)] ++ dinSetup ++
    [dinInput .contractAuthentication]

/-- A configuration that offers plug and charge. -/
def pncConfig : Config := { strictConfig with highlevelAuthenticationMode := .pnc }

/-- A contract is selected over TLS, and the car shows neither challenge nor signature. -/
def unprovenContract : List Input :=
  [.connect true true true, .handshake (some [⟨.iso15118_2013, 1⟩]) true true true,
    isoInput (.sessionSetup []), isoInput .serviceDiscovery,
    isoInput (.paymentServiceSelection .contract [1]), isoInput (.authorization {}),
    .command (.setAuthOkayPnC .accepted .accepted), isoInput (.authorization {})]

/-- Either session passes the authorization: the one with the grant for whatever was
there before it, the other without a proof of its contract. -/
theorem passes_without_own_grant :
    (¬ EachAfter AuthorizedOnItsOwn (run step (start strictConfig) grantedBefore).history) ∧
      ¬ EachAfter AuthorizedOnItsOwn (run step (start pncConfig) unprovenContract).history := by
  decide

end Server

end EverestCore.V2G
