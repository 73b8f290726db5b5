import EverestCore.V2G.Response

/-! The ISO 15118-2 server: the requests, the two tables of the messages that each
state allows, and the handlers. One number holds the state of AC and of DC
sessions, and many handlers write the number of the DC state in both. What the
certificate functions of the TLS library say is part of the request. -/
namespace EverestCore.V2G

/-- `iso_ac_state_id`. -/
inductive IsoAcStateId where
  | waitForSessionSetup
  | waitForServiceDiscovery
  | waitForSvcDetailPaymentSvcSel
  | waitForPaymentDetailsCertInstCertUpd
  | waitForPaymentDetails
  | waitForAuthorization
  | waitForChargeParameterDiscovery
  | waitForPowerDelivery
  | waitForChargingStatus
  | waitForChargingStatusPowerDelivery
  | waitForMeteringReceipt
  | waitForSessionStop
  | waitForTerminatedSession
  deriving DecidableEq, Repr

/-- `iso_dc_state_id`. -/
inductive IsoDcStateId where
  | waitForSessionSetup
  | waitForServiceDiscovery
  | waitForSvcDetailPaymentSvcSel
  | waitForPaymentDetailsCertInstCertUpd
  | waitForPaymentDetails
  | waitForAuthorization
  | waitForChargeParameterDiscovery
  | waitForCableCheck
  | waitForPreCharge
  | waitForPreChargePowerDelivery
  | waitForCurrentDemandPowerDelivery
  | waitForCurrentDemand
  | waitForMeteringReceipt
  | waitForWeldingDetectionSessionStop
  | waitForTerminatedSession
  deriving DecidableEq, Repr

def IsoAcStateId.id (state : IsoAcStateId) : ℕ := state.ctorIdx

def IsoDcStateId.id (state : IsoDcStateId) : ℕ := state.ctorIdx

/-- The allowed requests of `iso_ac_states`. -/
def isoAcStates : List (List V2gMsgTypeId) :=
  [[.sessionSetup],
    [.serviceDiscovery, .sessionStop],
    [.serviceDetail, .paymentServiceSelection, .sessionStop],
    [.paymentDetails, .certificateInstallation, .certificateUpdate, .sessionStop],
    [.paymentDetails, .sessionStop],
    [.authorization, .sessionStop],
    [.chargeParameterDiscovery, .sessionStop],
    [.powerDelivery, .sessionStop],
    [.chargingStatus],
    [.chargingStatus, .powerDelivery],
    [.meteringReceipt],
    [.sessionStop],
    []]

/-- The allowed requests of `iso_dc_states`. -/
def isoDcStates : List (List V2gMsgTypeId) :=
  [[.sessionSetup],
    [.serviceDiscovery, .sessionStop],
    [.serviceDetail, .paymentServiceSelection, .sessionStop],
    [.paymentDetails, .authorization, .certificateInstallation, .certificateUpdate, .sessionStop],
    [.paymentDetails, .sessionStop],
    [.authorization, .sessionStop],
    [.chargeParameterDiscovery, .sessionStop],
    [.cableCheck, .sessionStop],
    [.preCharge, .sessionStop],
    [.preCharge, .powerDelivery, .sessionStop],
    [.currentDemand, .powerDelivery],
    [.currentDemand],
    [.meteringReceipt],
    [.weldingDetection, .sessionStop],
    []]

/-- `iso_validate_state`. Behind the end of the table it reads what lies there. -/
def isoValidateState (beyond : List V2gMsgTypeId) (state : ℕ) (msg : V2gMsgTypeId)
    (isDcCharger : Bool) : Bool :=
  (((if isDcCharger then isoDcStates else isoAcStates)[state]?).getD beyond).contains msg

/-- What becomes of the contract certificate of a `PaymentDetailsReq`, in the order
in which the handler finds out. -/
inductive ContractCheck where
  | notEncodable
  | noCertificate
  | emaidMismatch
  | invalidCertificate
  | noEcdsaKey
  | accepted (challenge : List UInt8)
  deriving DecidableEq, Repr

inductive ChargeProgress where
  | start
  | stop
  | renegotiate
  | other
  deriving DecidableEq, Repr

inductive ChargingSession where
  | terminate
  | pause
  | other
  deriving DecidableEq, Repr

/-- An `AuthorizationReq` with the signature of its header. `signature` is absent if
the header has none; otherwise it is the answer of `check_iso1_signature`. -/
structure AuthorizationReq where
  genChallenge : Option (List UInt8) := none
  signature : Option Bool := none
  deriving DecidableEq, Repr

/-- The body of a request. The decoder gives at most one message. -/
inductive IsoBody where
  | currentDemand (evTargetVoltage evTargetCurrent : PhysicalValue)
  | sessionSetup (evccid : List UInt8)
  | serviceDiscovery
  | serviceDetail (serviceId : ℕ)
  | paymentServiceSelection (selectedPaymentOption : PaymentOption) (selectedServices : List ℕ)
  | paymentDetails (check : ContractCheck)
  | authorization (req : AuthorizationReq)
  | chargeParameterDiscovery (requestedMode : EnergyTransferMode)
      (acParameterIsUsed dcParameterIsUsed : Bool)
  | powerDelivery (chargeProgress : ChargeProgress) (saScheduleTupleId : ℕ)
  | chargingStatus
  | meteringReceipt
  | certificateUpdate
  | certificateInstallation
  | cableCheck
  | preCharge (evTargetVoltage evTargetCurrent : PhysicalValue)
  | weldingDetection
  | sessionStop (chargingSession : ChargingSession)
  | notFound
  deriving DecidableEq, Repr

structure IsoRequest where
  v2gMessageIsUsed : Bool := true
  sessionId : SessionIdField
  body : IsoBody
  deriving DecidableEq, Repr

/-- `V2G_SERVICE_ID_CHARGING`. -/
def serviceIdCharging : ℕ := 1

namespace V2gContext

/-- The end of an ISO handler. -/
def isoConclude (ctx : V2gContext) (around : Surroundings) (response : Response) (next : ℕ)
    (published : List Publication) : Handling :=
  ctx.conclude (isoValidateState around.beyond ctx.state ctx.currentV2gMsg ctx.isDcCharger)
    response next published

def handleIsoSessionSetup (around : Surroundings) (evccid : List UInt8) (ctx : V2gContext) :
    Handling :=
  (ctx.ensureSessionId around.randomId).isoConclude around
    { responseCode := .okNewSessionEstablished } IsoDcStateId.waitForServiceDiscovery.id
    [.evccid evccid]

/-- Plug and charge is offered over TLS only. The second entry counts even if it is
not in use. -/
def withholdContract (isTlsConnection : Bool) (ctx : V2gContext) : V2gContext :=
  if !isTlsConnection && !ctx.debugMode &&
      (ctx.paymentOptionList.array.take 2).contains .contract then
    { ctx with
      paymentOptionList := ⟨ctx.paymentOptionList.array.set 0 .externalPayment, 1⟩ }
  else ctx

def handleIsoServiceDiscovery (around : Surroundings) (isTlsConnection : Bool) (ctx : V2gContext) :
    Handling :=
  ({ ctx with chargeServiceId := serviceIdCharging }.withholdContract isTlsConnection).isoConclude
    around {} IsoDcStateId.waitForSvcDetailPaymentSvcSel.id []

/-- The charge service, or one of the services on offer. -/
def offersService (serviceId : ℕ) (ctx : V2gContext) : Bool :=
  serviceId = serviceIdCharging ∨ serviceId ∈ ctx.evseServiceList

def handleIsoServiceDetail (around : Surroundings) (serviceId : ℕ) (ctx : V2gContext) : Handling :=
  ctx.isoConclude around
    { responseCode := if ctx.offersService serviceId then .ok else .failedServiceIDInvalid }
    IsoDcStateId.waitForSvcDetailPaymentSvcSel.id []

/-- The code for a selection. The search for the charge service ends at the first
service that is not on offer. -/
def isoSelectionCode (option : PaymentOption) (services : List ℕ) (ctx : V2gContext) :
    ResponseCode :=
  let code : ResponseCode :=
    if option ∈ ctx.paymentOptionList.used then .ok else .failedPaymentSelectionInvalid
  let code := if services.all ctx.offersService then code else .failedServiceSelectionInvalid
  if serviceIdCharging ∈ services.takeWhile ctx.offersService then code
  else .failedNoChargeServiceSelected

/-- An external payment waits for the customer. The selected option itself is kept
nowhere. -/
def handleIsoPaymentServiceSelection (around : Surroundings) (option : PaymentOption)
    (services : List ℕ) (ctx : V2gContext) : Handling :=
  let response : Response := { responseCode := ctx.isoSelectionCode option services }
  let published : List Publication :=
    if option ∈ ctx.paymentOptionList.used then [.selectedPaymentOption option] else []
  match option with
  | .contract =>
      ctx.isoConclude around response IsoDcStateId.waitForPaymentDetailsCertInstCertUpd.id published
  | .externalPayment =>
      let handling :=
        ctx.isoConclude around response IsoDcStateId.waitForAuthorization.id published
      { handling with
        ctx := handling.ctx.setProcessing .auth .ongoingWaitingForCustomerInteraction }

/-- The certificate of the contract is looked at only if the contract is the payment
option of the session. -/
def checkContract (check : ContractCheck) (ctx : V2gContext) : V2gContext × Response :=
  let refused : Response := { responseCode := .failedCertChainError }
  if check = .notEncodable then (ctx, refused)
  else
    let ctx := { ctx with validCrt := false }
    match ctx.isoSelectedPaymentOption, check with
    | .contract, .accepted challenge =>
        ({ ctx with genChallenge := challenge, validCrt := true }, { genChallenge := challenge })
    | _, _ => (ctx, refused)

def handleIsoPaymentDetails (around : Surroundings) (check : ContractCheck) (ctx : V2gContext) :
    Handling :=
  let (ctx, response) := ctx.checkContract check
  ctx.isoConclude around response IsoDcStateId.waitForAuthorization.id []

/-- The challenge of the session comes back. -/
def challengeMatches (req : AuthorizationReq) (ctx : V2gContext) : Bool :=
  match req.genChallenge with
  | none => false
  | some challenge => challenge.length = genChallengeSize ∧ challenge = ctx.genChallenge

/-- What is wrong with the first `AuthorizationReq` of a contract session. -/
def contractError (req : AuthorizationReq) (ctx : V2gContext) : Option ResponseCode :=
  if ctx.lastV2gMsg ≠ .authorization ∧ ctx.isoSelectedPaymentOption = .contract then
    if !ctx.challengeMatches req then some .failedChallengeInvalid
    else if req.signature ≠ some true then some .failedSignatureError
    else none
  else none

/-- On the error path `EVSEProcessing` is not filled in, and reads as finished. -/
def handleIsoAuthorization (around : Surroundings) (req : AuthorizationReq) (ctx : V2gContext) :
    Handling :=
  let response : Response :=
    match ctx.contractError req with
    | some code => { responseCode := code }
    | none => { evseProcessing := ctx.evseProcessing .auth }
  ctx.isoConclude around response
    (if response.evseProcessing = .finished then IsoDcStateId.waitForChargeParameterDiscovery.id
      else IsoDcStateId.waitForAuthorization.id) []

/-- The code for the requested transfer. Parameters of the other kind of charging are
refused. -/
def isoChargeParameterCode (requestedMode : EnergyTransferMode)
    (acParameterIsUsed dcParameterIsUsed : Bool) (ctx : V2gContext) : ResponseCode :=
  if (if ctx.isDcCharger then acParameterIsUsed else dcParameterIsUsed) then
    .failedWrongChargeParameter
  else if requestedMode ∈ ctx.supportedEnergyTransferMode.used then .ok
  else .failedWrongEnergyTransferMode

def handleIsoChargeParameterDiscovery (around : Surroundings) (requestedMode : EnergyTransferMode)
    (acParameterIsUsed dcParameterIsUsed : Bool) (ctx : V2gContext) : Handling :=
  let finished := ctx.evseProcessing .parameter = .finished
  let ctx := { ctx with
    saScheduleTupleIds :=
      if finished then ctx.saScheduleTupleIds.take 1 else ctx.saScheduleTupleIds
    renegotiationRequired := false }
  ctx.isoConclude around
    { responseCode := ctx.isoChargeParameterCode requestedMode acParameterIsUsed dcParameterIsUsed
      evseProcessing := if finished then .finished else .ongoing
      dcEvseStatus := if ctx.isDcCharger then ctx.evseStatus .parameter else {} }
    (if finished then
      if ctx.isDcCharger then IsoDcStateId.waitForCableCheck.id
      else IsoAcStateId.waitForPowerDelivery.id
    else IsoDcStateId.waitForChargeParameterDiscovery.id) []

/-- The handler waits for the contactor to close. -/
def awaitsContactor (ctx : V2gContext) : Bool :=
  !ctx.contactorIsClosed && !ctx.intlEmergencyShutdown && !ctx.stopHlc &&
    !ctx.isConnectionTerminated

/-- The effect of `ChargeProgress`, with the commands that arrive meanwhile: the
context, the code so far, and what is published. -/
def applyProgress (progress : ChargeProgress) (meanwhile : List EvseCommand) (ctx : V2gContext) :
    V2gContext × ResponseCode × List Publication :=
  match progress with
  | .start =>
      if ctx.isDcCharger || ctx.contactorIsClosed then
        (ctx.commands meanwhile, .ok, [.v2gSetupFinished])
      else
        let ctx := { ctx with isCharging := true }
        (ctx.commands meanwhile,
          if ctx.awaitsContactor && timesOut awaitsContactor ctx meanwhile then
            .failedContactorError
          else .ok,
          [.v2gSetupFinished, .acCloseContactor])
  | .stop =>
      ({ ctx with isCharging := false }.commands meanwhile, .ok,
        if ctx.isDcCharger then [.currentDemandFinished, .dcOpenContactor] else [.acOpenContactor])
  | .renegotiate => ({ ctx with renegotiationRequired := true }.commands meanwhile, .ok, [])
  | .other => (ctx.commands meanwhile, .failed, [])

/-- The code for the start or the end of the delivery. A profile that exceeds the
schedule is only logged. -/
def isoPowerDeliveryCode (progress : ChargeProgress) (tupleId : ℕ) (code : ResponseCode)
    (ctx : V2gContext) : ResponseCode :=
  let code :=
    if ctx.isDcCharger ∧ progress = .start ∧ ctx.evseStatusCode .charge ≠ .ready then
      .failedPowerDeliveryNotApplied
    else code
  if tupleId ∈ ctx.saScheduleTupleIds then code else .failedTariffSelectionInvalid

/-- The car has been charging. -/
def afterChargeLoop (ctx : V2gContext) : Bool :=
  ctx.lastV2gMsg = .currentDemand ∨ ctx.lastV2gMsg = .chargingStatus

/-- The values that a renegotiation starts from. -/
def resetForRenegotiation (ctx : V2gContext) : V2gContext :=
  let ctx := { ctx with
    evseNotification :=
      if ctx.evseNotification = EvseNotification.reNegotiation then .none
      else ctx.evseNotification }
  if ctx.isDcCharger then
    { ctx.setProcessing .isolation .ongoing with evseIsolationStatus := .invalid }
  else ctx

/-- A car that is ready once more after the charge loop gets another code than the
one that was validated, and the event stays. -/
def handleIsoPowerDelivery (around : Surroundings) (progress : ChargeProgress) (tupleId : ℕ)
    (ctx : V2gContext) : Handling :=
  let (ctx, code, published) := ctx.applyProgress progress around.meanwhile
  let response : Response :=
    { responseCode := ctx.isoPowerDeliveryCode progress tupleId code
      dcEvseStatus := if ctx.isDcCharger then ctx.evseStatus .charge else {} }
  let ctx := if tupleId ∈ ctx.saScheduleTupleIds then { ctx with saScheduleTupleId := tupleId }
    else ctx
  if progress = .renegotiate ∧ ctx.afterChargeLoop then
    let handling :=
      ctx.isoConclude around response IsoDcStateId.waitForChargeParameterDiscovery.id published
    { handling with ctx := handling.ctx.resetForRenegotiation }
  else if progress = .start ∧ ¬ ctx.afterChargeLoop then
    ctx.isoConclude around response
      (if ctx.isDcCharger then IsoDcStateId.waitForCurrentDemand.id
        else IsoAcStateId.waitForChargingStatus.id) published
  else
    let handling := ctx.isoConclude around response
      (if ctx.isDcCharger then IsoDcStateId.waitForWeldingDetectionSessionStop.id
        else IsoAcStateId.waitForSessionStop.id) published
    if progress ≠ .stop then
      { handling with response := { handling.response with responseCode := .failed } }
    else handling

def handleIsoChargingStatus (around : Surroundings) (ctx : V2gContext) : Handling :=
  ctx.isoConclude around { receiptRequired := ctx.receiptRequired }
    (if ctx.receiptRequired then IsoAcStateId.waitForMeteringReceipt.id
      else IsoAcStateId.waitForChargingStatusPowerDelivery.id) []

def handleIsoMeteringReceipt (around : Surroundings) (ctx : V2gContext) : Handling :=
  ctx.isoConclude around {}
    (if ctx.isDcCharger then IsoDcStateId.waitForCurrentDemandPowerDelivery.id
      else IsoAcStateId.waitForChargingStatusPowerDelivery.id) []

/-- Nothing is done yet, and nothing is validated. -/
def handleIsoCertificateUpdate (ctx : V2gContext) : Handling :=
  { ctx := ctx, event := .noEvent }

/-- The condition under which the handler waits for a certificate. It waits only
during an emergency shutdown. -/
def awaitsCertificate (ctx : V2gContext) : Bool :=
  ctx.certInstallRes.isNone && ctx.intlEmergencyShutdown && !ctx.stopHlc &&
    !ctx.isConnectionTerminated

/-- The wait for a certificate. A wait that is too long counts as an emergency. -/
def awaitCertificate (meanwhile : List EvseCommand) (ctx : V2gContext) : V2gContext :=
  let late := ctx.awaitsCertificate && timesOut awaitsCertificate ctx meanwhile
  let ctx := ctx.commands meanwhile
  if late then { ctx with intlEmergencyShutdown := true } else ctx

/-- An answer that can be decoded is passed on without validation. If the request
could not be published, the code is still the initial one. -/
def handleIsoCertificateInstallation (around : Surroundings) (ctx : V2gContext) : Handling :=
  let next := IsoDcStateId.waitForPaymentDetails.id
  if !around.allocates then ctx.isoConclude around {} next []
  else
    let ctx := ctx.awaitCertificate around.meanwhile
    match ctx.certInstallRes with
    | some true => { ctx := { ctx with state := next }, event := .sendRecvExiMsg }
    | some false => ctx.isoConclude around {} next []
    | none => ctx.isoConclude around { responseCode := .failed } next []

def handleIsoCableCheck (around : Surroundings) (ctx : V2gContext) : Handling :=
  ctx.isoConclude around
    { evseProcessing := ctx.evseProcessing .isolation
      dcEvseStatus := ctx.evseStatus .isolation }
    (if ctx.evseProcessing .isolation = .finished then IsoDcStateId.waitForPreCharge.id
      else IsoDcStateId.waitForCableCheck.id) []

def handleIsoPreCharge (around : Surroundings) (evTargetVoltage evTargetCurrent : PhysicalValue)
    (ctx : V2gContext) : Handling :=
  let (ctx, published) := ctx.publishTargets evTargetVoltage evTargetCurrent
  ctx.isoConclude around { dcEvseStatus := ctx.evseStatus .precharge }
    IsoDcStateId.waitForPreChargePowerDelivery.id published

/-- A receipt is asked for in contract sessions only. -/
def handleIsoCurrentDemand (around : Surroundings)
    (evTargetVoltage evTargetCurrent : PhysicalValue) (ctx : V2gContext) : Handling :=
  let (ctx, published) := ctx.publishTargets evTargetVoltage evTargetCurrent
  ctx.isoConclude around
    { dcEvseStatus := ctx.evseStatus .charge, receiptRequired := ctx.receiptRequired }
    (if ctx.receiptRequired ∧ ctx.isoSelectedPaymentOption = .contract then
      IsoDcStateId.waitForMeteringReceipt.id
    else IsoDcStateId.waitForCurrentDemandPowerDelivery.id) published

def handleIsoWeldingDetection (around : Surroundings) (ctx : V2gContext) : Handling :=
  ctx.isoConclude around { dcEvseStatus := ctx.evseStatus .welding }
    IsoDcStateId.waitForWeldingDetectionSessionStop.id []

/-- The connection ends after the response, whatever its code. A pause is not
supported. -/
def handleIsoSessionStop (around : Surroundings) (chargingSession : ChargingSession)
    (ctx : V2gContext) : Handling :=
  let handling := ctx.isoConclude around {} IsoDcStateId.waitForTerminatedSession.id
    [.evChargingSessionTerminate]
  { handling with
    response :=
      if chargingSession = .pause then { handling.response with responseCode := .failed }
      else handling.response
    event := .sendAndTerminate }

/-- The choice of the handler in `iso_handle_request`. -/
def isoDispatch (around : Surroundings) (isTlsConnection : Bool) (ctx : V2gContext) :
    IsoBody → Handling
  | .currentDemand evTargetVoltage evTargetCurrent =>
      -- The first demand after `PowerDelivery` starts the current.
      let starts := ctx.lastV2gMsg = .powerDelivery
      let ctx := if starts then { ctx with isCharging := true } else ctx
      ((ctx.withMsg .currentDemand).handleIsoCurrentDemand around evTargetVoltage
        evTargetCurrent).after (if starts then [.currentDemandStarted] else [])
  | .sessionSetup evccid => (ctx.withMsg .sessionSetup).handleIsoSessionSetup around evccid
  | .serviceDiscovery =>
      (ctx.withMsg .serviceDiscovery).handleIsoServiceDiscovery around isTlsConnection
  | .serviceDetail serviceId => (ctx.withMsg .serviceDetail).handleIsoServiceDetail around serviceId
  | .paymentServiceSelection option services =>
      (ctx.withMsg .paymentServiceSelection).handleIsoPaymentServiceSelection around option services
  | .paymentDetails check => (ctx.withMsg .paymentDetails).handleIsoPaymentDetails around check
  | .authorization req =>
      ((ctx.withMsg .authorization).handleIsoAuthorization around req).after
        (if ctx.lastV2gMsg ≠ .authorization ∧ ctx.isoSelectedPaymentOption = .externalPayment then
          [.requireAuthEIM]
        else [])
  | .chargeParameterDiscovery requestedMode acParameterIsUsed dcParameterIsUsed =>
      (ctx.withMsg .chargeParameterDiscovery).handleIsoChargeParameterDiscovery around
        requestedMode acParameterIsUsed dcParameterIsUsed
  | .powerDelivery progress tupleId =>
      (ctx.withMsg .powerDelivery).handleIsoPowerDelivery around progress tupleId
  | .chargingStatus => (ctx.withMsg .chargingStatus).handleIsoChargingStatus around
  | .meteringReceipt => (ctx.withMsg .meteringReceipt).handleIsoMeteringReceipt around
  | .certificateUpdate => (ctx.withMsg .certificateUpdate).handleIsoCertificateUpdate
  | .certificateInstallation =>
      (ctx.withMsg .certificateInstallation).handleIsoCertificateInstallation around
  | .cableCheck =>
      ((ctx.withMsg .cableCheck).handleIsoCableCheck around).after
        (if ctx.lastV2gMsg = .chargeParameterDiscovery then [.startCableCheck] else [])
  | .preCharge evTargetVoltage evTargetCurrent =>
      (ctx.withMsg .preCharge).handleIsoPreCharge around evTargetVoltage evTargetCurrent
  | .weldingDetection => (ctx.withMsg .weldingDetection).handleIsoWeldingDetection around
  | .sessionStop chargingSession =>
      (ctx.withMsg .sessionStop).handleIsoSessionStop around chargingSession
  | .notFound => { ctx := ctx, event := .ignoreMsg }

end V2gContext

/-- `iso_handle_request`. -/
def isoHandleRequest (around : Surroundings) (isTlsConnection : Bool) (request : IsoRequest)
    (ctx : V2gContext) : Handling :=
  if !request.v2gMessageIsUsed then { ctx := ctx, event := .ignoreMsg }
  else
    (({ ctx with receivedSessionId := v2gSessionIdFromExi request.sessionId }).isoDispatch around
      isTlsConnection request.body).noteLastMsg

namespace V2gContext

variable (around : Surroundings) (ctx : V2gContext)

/-- Noting the message that has come does not touch the configuration. -/
theorem withMsg_sameTerms (msg : V2gMsgTypeId) : SameTerms ctx (ctx.withMsg msg) :=
  ⟨rfl, rfl, rfl, rfl, rfl⟩

/-- The end of every handler writes the state, the response and the event. -/
theorem isoConclude_sameTerms (response : Response) (next : ℕ) (published : List Publication) :
    SameTerms ctx (ctx.isoConclude around response next published).ctx :=
  ⟨rfl, rfl, rfl, rfl, rfl⟩

/-- A session id is no configuration. -/
theorem ensureSessionId_sameTerms (randomId : ℕ) : SameTerms ctx (ctx.ensureSessionId randomId) := by
  unfold ensureSessionId
  split <;> exact ⟨rfl, rfl, rfl, rfl, rfl⟩

/-- What is offered to a car without TLS is decided for the session. -/
theorem withholdContract_sameTerms (isTlsConnection : Bool) :
    SameTerms ctx (ctx.withholdContract isTlsConnection) := by
  unfold withholdContract
  split <;> exact ⟨rfl, rfl, rfl, rfl, rfl⟩

/-- The result of the contract is kept with the session. -/
theorem checkContract_sameTerms (check : ContractCheck) :
    SameTerms ctx (ctx.checkContract check).1 := by
  unfold checkContract
  dsimp only
  split
  · exact SameTerms.refl ctx
  · split <;> exact ⟨rfl, rfl, rfl, rfl, rfl⟩

/-- The commands that arrive meanwhile find two flags written at most. -/
theorem applyProgress_ctx (progress : ChargeProgress) (meanwhile : List EvseCommand) :
    ∃ flagged, (ctx.applyProgress progress meanwhile).1 = flagged.commands meanwhile ∧
      Prepared ctx.currentV2gMsg ctx flagged ∧ flagged.lastV2gMsg = ctx.lastV2gMsg := by
  have hSame : Prepared ctx.currentV2gMsg ctx ctx := withMsg_prepared ctx _
  cases progress with
  | start =>
      by_cases hReady : (ctx.isDcCharger || ctx.contactorIsClosed) = true
      · refine ⟨ctx, ?_, hSame, rfl⟩
        rw [applyProgress, if_pos hReady]
      · refine ⟨{ ctx with isCharging := true }, ?_, ⟨⟨rfl, rfl, rfl, rfl, rfl⟩, rfl, rfl,
          Or.inr ⟨rfl, rfl⟩⟩, rfl⟩
        rw [applyProgress, if_neg hReady]
  | stop =>
      exact ⟨{ ctx with isCharging := false }, rfl, ⟨⟨rfl, rfl, rfl, rfl, rfl⟩, rfl, rfl,
        Or.inr ⟨rfl, rfl⟩⟩, rfl⟩
  | renegotiate =>
      exact ⟨{ ctx with renegotiationRequired := true }, rfl, ⟨⟨rfl, rfl, rfl, rfl, rfl⟩, rfl, rfl,
        Or.inr ⟨rfl, rfl⟩⟩, rfl⟩
  | other => exact ⟨ctx, rfl, hSame, rfl⟩

/-- The progress of charging changes whether the charger charges, and no configuration. -/
theorem applyProgress_sameTerms (progress : ChargeProgress) (meanwhile : List EvseCommand) :
    SameTerms ctx (ctx.applyProgress progress meanwhile).1 := by
  obtain ⟨flagged, hCtx, hPrepared, -⟩ := applyProgress_ctx ctx progress meanwhile
  rw [hCtx]
  exact hPrepared.terms.trans (commands_sameCourse flagged meanwhile).terms

/-- A renegotiation starts the charge parameters again on the same configuration. -/
theorem resetForRenegotiation_sameTerms : SameTerms ctx ctx.resetForRenegotiation := by
  unfold resetForRenegotiation
  dsimp only
  split
  · refine ⟨rfl, rfl, rfl, rfl, ?_⟩
    show Function.update ctx.evseProcessing .isolation .ongoing .parameter = _
    exact Function.update_of_ne (by decide) _ _
  · exact ⟨rfl, rfl, rfl, rfl, rfl⟩

/-- While the EVSE waits for the certificate, only its own commands are taken up. -/
theorem awaitCertificate_sameCourse (meanwhile : List EvseCommand) :
    SameCourse ctx (ctx.awaitCertificate meanwhile) := by
  refine (commands_sameCourse ctx meanwhile).trans ?_
  unfold awaitCertificate
  dsimp only
  split
  · exact ⟨⟨rfl, rfl, rfl, rfl, rfl⟩, rfl, rfl, rfl, rfl, rfl, rfl, rfl, rfl⟩
  · exact SameCourse.refl _

/-- The longest handler, one assignment after the other. -/
theorem handleIsoPowerDelivery_sameTerms (progress : ChargeProgress) (tupleId : ℕ) :
    SameTerms ctx (ctx.handleIsoPowerDelivery around progress tupleId).ctx := by
  refine (applyProgress_sameTerms ctx progress around.meanwhile).trans ?_
  unfold handleIsoPowerDelivery
  dsimp only
  generalize (ctx.applyProgress progress around.meanwhile).1 = inner
  have hSchedule : SameTerms inner
      (if tupleId ∈ inner.saScheduleTupleIds then { inner with saScheduleTupleId := tupleId }
        else inner) := by
    split <;> exact ⟨rfl, rfl, rfl, rfl, rfl⟩
  refine hSchedule.trans ?_
  generalize (if tupleId ∈ inner.saScheduleTupleIds then { inner with saScheduleTupleId := tupleId }
    else inner) = scheduled
  split
  · exact (isoConclude_sameTerms around scheduled _ _ _).trans (resetForRenegotiation_sameTerms _)
  · split
    · exact ⟨rfl, rfl, rfl, rfl, rfl⟩
    · split <;> exact ⟨rfl, rfl, rfl, rfl, rfl⟩

/-- The handler that waits for the backend. -/
theorem handleIsoCertificateInstallation_sameTerms :
    SameTerms ctx (ctx.handleIsoCertificateInstallation around).ctx := by
  unfold handleIsoCertificateInstallation
  dsimp only
  split
  · exact ⟨rfl, rfl, rfl, rfl, rfl⟩
  · refine (awaitCertificate_sameCourse ctx around.meanwhile).terms.trans ?_
    split <;> exact ⟨rfl, rfl, rfl, rfl, rfl⟩

/-- No request of the car changes the terms of its connection. In particular the
payment option of the session stays what it was. -/
theorem isoDispatch_sameTerms (isTlsConnection : Bool) (body : IsoBody) :
    SameTerms ctx (ctx.isoDispatch around isTlsConnection body).ctx := by
  cases body with
  | currentDemand voltage current =>
      rw [isoDispatch, Handling.after_ctx]
      refine SameTerms.trans ?_ ((publishTargets_sameCourse voltage current _).terms.trans
        (isoConclude_sameTerms around _ _ _ _))
      split <;> exact ⟨rfl, rfl, rfl, rfl, rfl⟩
  | sessionSetup evccid =>
      exact (withMsg_sameTerms ctx _).trans ((ensureSessionId_sameTerms _ _).trans
        (isoConclude_sameTerms around _ _ _ _))
  | serviceDiscovery =>
      refine SameTerms.trans ?_ ((withholdContract_sameTerms _ isTlsConnection).trans
        (isoConclude_sameTerms around _ _ _ _))
      exact ⟨rfl, rfl, rfl, rfl, rfl⟩
  | paymentServiceSelection option services =>
      cases option with
      | contract => exact ⟨rfl, rfl, rfl, rfl, rfl⟩
      | externalPayment =>
          exact ((withMsg_sameTerms ctx _).trans (isoConclude_sameTerms around _ _ _ _)).trans
            (setProcessing_sameCourse (by decide) _ _).terms
  | paymentDetails check =>
      exact (withMsg_sameTerms ctx _).trans ((checkContract_sameTerms _ check).trans
        (isoConclude_sameTerms around _ _ _ _))
  | powerDelivery progress tupleId =>
      exact (withMsg_sameTerms ctx _).trans (handleIsoPowerDelivery_sameTerms around _ _ _)
  | certificateInstallation =>
      exact (withMsg_sameTerms ctx _).trans (handleIsoCertificateInstallation_sameTerms around _)
  | preCharge voltage current =>
      exact (withMsg_sameTerms ctx _).trans ((publishTargets_sameCourse voltage current _).terms.trans
        (isoConclude_sameTerms around _ _ _ _))
  | _ => exact ⟨rfl, rfl, rfl, rfl, rfl⟩

end V2gContext

/-- The states that a request can lead to, none for the two bodies that leave the
session where it is. -/
def IsoBody.next : IsoBody → List ℕ
  | .currentDemand _ _ =>
      [IsoDcStateId.waitForMeteringReceipt.id, IsoDcStateId.waitForCurrentDemandPowerDelivery.id]
  | .sessionSetup _ => [IsoDcStateId.waitForServiceDiscovery.id]
  | .serviceDiscovery | .serviceDetail _ => [IsoDcStateId.waitForSvcDetailPaymentSvcSel.id]
  | .paymentServiceSelection .contract _ => [IsoDcStateId.waitForPaymentDetailsCertInstCertUpd.id]
  | .paymentServiceSelection .externalPayment _ | .paymentDetails _ =>
      [IsoDcStateId.waitForAuthorization.id]
  | .authorization _ =>
      [IsoDcStateId.waitForChargeParameterDiscovery.id, IsoDcStateId.waitForAuthorization.id]
  | .chargeParameterDiscovery _ _ _ =>
      [IsoDcStateId.waitForCableCheck.id, IsoAcStateId.waitForPowerDelivery.id,
        IsoDcStateId.waitForChargeParameterDiscovery.id]
  | .powerDelivery _ _ =>
      [IsoDcStateId.waitForChargeParameterDiscovery.id, IsoDcStateId.waitForCurrentDemand.id,
        IsoAcStateId.waitForChargingStatus.id, IsoDcStateId.waitForWeldingDetectionSessionStop.id,
        IsoAcStateId.waitForSessionStop.id]
  | .chargingStatus =>
      [IsoAcStateId.waitForMeteringReceipt.id, IsoAcStateId.waitForChargingStatusPowerDelivery.id]
  | .meteringReceipt =>
      [IsoDcStateId.waitForCurrentDemandPowerDelivery.id,
        IsoAcStateId.waitForChargingStatusPowerDelivery.id]
  | .certificateInstallation => [IsoDcStateId.waitForPaymentDetails.id]
  | .cableCheck => [IsoDcStateId.waitForPreCharge.id, IsoDcStateId.waitForCableCheck.id]
  | .preCharge _ _ => [IsoDcStateId.waitForPreChargePowerDelivery.id]
  | .weldingDetection => [IsoDcStateId.waitForWeldingDetectionSessionStop.id]
  | .sessionStop _ => [IsoDcStateId.waitForTerminatedSession.id]
  | .certificateUpdate | .notFound => []

namespace V2gContext
variable (around : Surroundings) (ctx : V2gContext)

/-- The state is set by the end of the handler, and not by the reset. -/
theorem resetForRenegotiation_state : ctx.resetForRenegotiation.state = ctx.state := by
  unfold resetForRenegotiation
  dsimp only
  split <;> rfl

/-- A power delivery leads back to the parameters only after the charge loop. -/
theorem handleIsoPowerDelivery_state (progress : ChargeProgress) (tupleId : ℕ) :
    (ctx.handleIsoPowerDelivery around progress tupleId).ctx.state =
        IsoDcStateId.waitForChargeParameterDiscovery.id ∧ ctx.afterChargeLoop = true ∨
      (ctx.handleIsoPowerDelivery around progress tupleId).ctx.state ∈
        [IsoDcStateId.waitForCurrentDemand.id, IsoAcStateId.waitForChargingStatus.id,
          IsoDcStateId.waitForWeldingDetectionSessionStop.id, IsoAcStateId.waitForSessionStop.id] := by
  obtain ⟨flagged, hCtx, -, hLast⟩ := applyProgress_ctx ctx progress around.meanwhile
  have hKept := (commands_sameCourse flagged around.meanwhile).lastV2gMsg.trans hLast
  rw [← hCtx] at hKept
  unfold handleIsoPowerDelivery
  dsimp only
  generalize (ctx.applyProgress progress around.meanwhile).1 = inner at hKept ⊢
  have hSchedule : (if tupleId ∈ inner.saScheduleTupleIds then
      { inner with saScheduleTupleId := tupleId } else inner).lastV2gMsg = ctx.lastV2gMsg := by
    rw [← hKept]
    split <;> rfl
  generalize (if tupleId ∈ inner.saScheduleTupleIds then { inner with saScheduleTupleId := tupleId }
    else inner) = scheduled at hSchedule ⊢
  split
  · next hRenegotiate =>
      refine Or.inl ⟨resetForRenegotiation_state _, ?_⟩
      unfold afterChargeLoop at hRenegotiate ⊢
      rw [← hSchedule]
      exact hRenegotiate.2
  · right
    split
    · cases hDc : scheduled.isDcCharger <;> simp [isoConclude, hDc]
    · split <;> cases hDc : scheduled.isDcCharger <;> simp [isoConclude, hDc]

/-- A choice between two states is one of them. -/
theorem mem_pair_ite (p : Prop) [Decidable p] (yes no : ℕ) : (if p then yes else no) ∈ [yes, no] := by
  split <;> simp

/-- The next state is one of the table, unless nothing happens at all. -/
theorem isoDispatch_state_mem (isTlsConnection : Bool) (body : IsoBody) :
    (ctx.isoDispatch around isTlsConnection body).ctx.state ∈ body.next ∨
      (body.next = [] ∧ ∃ msg,
        (ctx.isoDispatch around isTlsConnection body).ctx = ctx.withMsg msg) := by
  cases body with
  | certificateUpdate => exact Or.inr ⟨rfl, .certificateUpdate, rfl⟩
  | notFound => exact Or.inr ⟨rfl, ctx.currentV2gMsg, rfl⟩
  | currentDemand voltage current => exact Or.inl (mem_pair_ite _ _ _)
  | paymentServiceSelection option services =>
      cases option with
      | contract => exact Or.inl (List.mem_singleton.mpr rfl)
      | externalPayment => exact Or.inl (List.mem_singleton.mpr rfl)
  | authorization req => exact Or.inl (mem_pair_ite _ _ _)
  | chargeParameterDiscovery mode ac dc =>
      left
      show (if _ then if _ then _ else _ else _) ∈ _
      split
      · split <;> simp [IsoBody.next]
      · simp [IsoBody.next]
  | powerDelivery progress tupleId =>
      left
      rcases handleIsoPowerDelivery_state around (ctx.withMsg .powerDelivery) progress tupleId with
        ⟨hState, -⟩ | hState
      · exact List.mem_cons.mpr (Or.inl hState)
      · exact List.mem_cons_of_mem _ hState
  | chargingStatus => exact Or.inl (mem_pair_ite _ _ _)
  | meteringReceipt => exact Or.inl (mem_pair_ite _ _ _)
  | certificateInstallation =>
      left
      show (handleIsoCertificateInstallation around _).ctx.state ∈ [_]
      unfold handleIsoCertificateInstallation
      dsimp only
      split
      · exact List.mem_singleton.mpr rfl
      · split <;> exact List.mem_singleton.mpr rfl
  | cableCheck => exact Or.inl (mem_pair_ite _ _ _)
  | _ => exact Or.inl (List.mem_singleton.mpr rfl)

/-- What comes before the check of the response leaves alone what the check looks at. -/
theorem applyProgress_prepared (progress : ChargeProgress) (meanwhile : List EvseCommand) :
    Prepared ctx.currentV2gMsg ctx (ctx.applyProgress progress meanwhile).1 := by
  obtain ⟨flagged, hCtx, hPrepared, -⟩ := applyProgress_ctx ctx progress meanwhile
  rw [hCtx]
  exact hPrepared.of_sameCourse (commands_sameCourse flagged meanwhile)

variable {ctx}

/-- In the first state only a session setup is accepted. -/
theorem isoValidateState_zero (beyond : List V2gMsgTypeId) (msg : V2gMsgTypeId)
    (isDcCharger : Bool) :
    isoValidateState beyond 0 msg isDcCharger = [V2gMsgTypeId.sessionSetup].contains msg := by
  cases isDcCharger <;> rfl

/-- In the first state only a session setup lets the connection go on. -/
theorem isoConclude_final {msg : V2gMsgTypeId} {inner : V2gContext} {response : Response} {next : ℕ}
    {published : List Publication} (hPrepared : Prepared msg ctx inner) (hState : ctx.state = 0)
    (hMsg : msg ≠ .sessionSetup) (hTerminate : ctx.terminateConnectionOnFailedResponse = true) :
    (inner.isoConclude around response next published).event.isFinal = true := by
  refine conclude_event_final.resolve_left ?_
  intro hEvent
  obtain ⟨hAdmits, -, -⟩ := conclude_continues (hPrepared.terms.terminate.trans hTerminate) hEvent
  have hExpected := hAdmits.expected
  rw [hPrepared.state, hState, isoValidateState_zero, hPrepared.currentV2gMsg] at hExpected
  exact hMsg (List.mem_singleton.mp (List.contains_iff_mem.mp hExpected))

/-- As first request, a power delivery ends the connection. -/
theorem handleIsoPowerDelivery_final (ctx : V2gContext) {progress : ChargeProgress} {tupleId : ℕ}
    (hState : ctx.state = 0) (hMsg : ctx.currentV2gMsg ≠ .sessionSetup)
    (hTerminate : ctx.terminateConnectionOnFailedResponse = true) :
    (ctx.handleIsoPowerDelivery around progress tupleId).event.isFinal = true := by
  have hPrepared := applyProgress_prepared ctx progress around.meanwhile
  unfold handleIsoPowerDelivery
  dsimp only
  generalize (ctx.applyProgress progress around.meanwhile).1 = inner at hPrepared ⊢
  have hScheduled : Prepared ctx.currentV2gMsg ctx (if tupleId ∈ inner.saScheduleTupleIds then
      { inner with saScheduleTupleId := tupleId } else inner) := by
    split
    · exact hPrepared.of_sameCourse
        ⟨⟨rfl, rfl, rfl, rfl, rfl⟩, rfl, rfl, rfl, rfl, rfl, rfl, rfl, rfl⟩
    · exact hPrepared
  generalize (if tupleId ∈ inner.saScheduleTupleIds then { inner with saScheduleTupleId := tupleId }
    else inner) = scheduled at hScheduled ⊢
  split
  · dsimp only
    exact isoConclude_final around hScheduled hState hMsg hTerminate
  · split
    · exact isoConclude_final around hScheduled hState hMsg hTerminate
    · split
      · dsimp only
        exact isoConclude_final around hScheduled hState hMsg hTerminate
      · exact isoConclude_final around hScheduled hState hMsg hTerminate

/-- Without the answer of the backend, a certificate request is concluded like any other. -/
theorem handleIsoCertificateInstallation_concluded (ctx : V2gContext)
    (hCertificate : ctx.certInstallRes = none) :
    ∃ inner response next, Prepared ctx.currentV2gMsg ctx inner ∧
      ctx.handleIsoCertificateInstallation around = inner.isoConclude around response next [] := by
  have hSame : Prepared ctx.currentV2gMsg ctx ctx := withMsg_prepared ctx _
  have hAwaited := awaitCertificate_sameCourse ctx around.meanwhile
  have hNone := hAwaited.terms.certInstallRes.trans hCertificate
  unfold handleIsoCertificateInstallation
  dsimp only
  split
  · exact ⟨ctx, _, _, hSame, rfl⟩
  · rw [hNone]
    exact ⟨_, _, _, hSame.of_sameCourse hAwaited, rfl⟩

/-- As first request, a certificate installation ends the connection. -/
theorem handleIsoCertificateInstallation_final (ctx : V2gContext) (hState : ctx.state = 0)
    (hMsg : ctx.currentV2gMsg ≠ .sessionSetup) (hCertificate : ctx.certInstallRes = none)
    (hTerminate : ctx.terminateConnectionOnFailedResponse = true) :
    (ctx.handleIsoCertificateInstallation around).event.isFinal = true := by
  obtain ⟨inner, response, next, hPrepared, hConcluded⟩ :=
    handleIsoCertificateInstallation_concluded around ctx hCertificate
  rw [hConcluded]
  exact isoConclude_final around hPrepared hState hMsg hTerminate

/-- Checking the contract is a preparation, too: the response is checked after it. -/
theorem checkContract_prepared (msg : V2gMsgTypeId) (check : ContractCheck) :
    Prepared msg ctx ((ctx.withMsg msg).checkContract check).1 := by
  unfold checkContract
  dsimp only
  split
  · exact withMsg_prepared ctx msg
  · split <;> exact ⟨⟨rfl, rfl, rfl, rfl, rfl⟩, rfl, rfl, Or.inr ⟨rfl, rfl⟩⟩

/-- Withholding a service is a preparation of the response. -/
theorem withholdContract_prepared (isTlsConnection : Bool) :
    Prepared .serviceDiscovery ctx ({ ctx.withMsg .serviceDiscovery with
      chargeServiceId := serviceIdCharging }.withholdContract isTlsConnection) := by
  unfold withholdContract
  split <;> exact ⟨⟨rfl, rfl, rfl, rfl, rfl⟩, rfl, rfl, Or.inr ⟨rfl, rfl⟩⟩

/-- A car that does not begin with the session setup is sent away. -/
theorem isoDispatch_final {isTlsConnection : Bool} {body : IsoBody} (hNext : body.next ≠ [])
    (hSetup : ∀ evccid, body ≠ .sessionSetup evccid) (hState : ctx.state = 0)
    (hCertificate : ctx.certInstallRes = none)
    (hTerminate : ctx.terminateConnectionOnFailedResponse = true) :
    (ctx.isoDispatch around isTlsConnection body).event.isFinal = true := by
  cases body with
  | currentDemand voltage current =>
      have hPrepared := (isCharging_prepared ctx .currentDemand true
        (ctx.lastV2gMsg = .powerDelivery)).of_sameCourse (publishTargets_sameCourse voltage current _)
      exact isoConclude_final around hPrepared hState (by decide) hTerminate
  | sessionSetup evccid => exact absurd rfl (hSetup evccid)
  | serviceDiscovery =>
      exact isoConclude_final around (withholdContract_prepared isTlsConnection) hState (by decide)
        hTerminate
  | paymentServiceSelection option services =>
      cases option with
      | contract =>
          exact isoConclude_final around (withMsg_prepared ctx _) hState (by decide) hTerminate
      | externalPayment =>
          rw [isoDispatch, handleIsoPaymentServiceSelection]
          dsimp only
          exact isoConclude_final around (withMsg_prepared ctx _) hState (by decide) hTerminate
  | paymentDetails check =>
      exact isoConclude_final around (checkContract_prepared _ check) hState (by decide) hTerminate
  | chargeParameterDiscovery requestedMode acParameterIsUsed dcParameterIsUsed =>
      have hMsg : V2gMsgTypeId.chargeParameterDiscovery ≠ .sessionSetup := by decide
      refine isoConclude_final around ?_ hState hMsg hTerminate
      exact ⟨⟨rfl, rfl, rfl, rfl, rfl⟩, rfl, rfl, Or.inr ⟨rfl, rfl⟩⟩
  | powerDelivery progress tupleId =>
      have hMsg : (ctx.withMsg .powerDelivery).currentV2gMsg ≠ .sessionSetup := by
        show V2gMsgTypeId.powerDelivery ≠ .sessionSetup
        decide
      exact handleIsoPowerDelivery_final around _ hState hMsg hTerminate
  | certificateInstallation =>
      have hMsg : (ctx.withMsg .certificateInstallation).currentV2gMsg ≠ .sessionSetup := by
        show V2gMsgTypeId.certificateInstallation ≠ .sessionSetup
        decide
      exact handleIsoCertificateInstallation_final around _ hState hMsg hCertificate hTerminate
  | preCharge voltage current =>
      have hPrepared := (withMsg_prepared ctx .preCharge).of_sameCourse
        (publishTargets_sameCourse voltage current _)
      exact isoConclude_final around hPrepared hState (by decide) hTerminate
  | sessionStop chargingSession => rfl
  | certificateUpdate => exact absurd rfl hNext
  | notFound => exact absurd rfl hNext
  | serviceDetail serviceId =>
      exact isoConclude_final around (withMsg_prepared ctx _) hState (by decide) hTerminate
  | authorization req =>
      exact isoConclude_final around (withMsg_prepared ctx _) hState (by decide) hTerminate
  | chargingStatus =>
      exact isoConclude_final around (withMsg_prepared ctx _) hState (by decide) hTerminate
  | meteringReceipt =>
      exact isoConclude_final around (withMsg_prepared ctx _) hState (by decide) hTerminate
  | cableCheck =>
      exact isoConclude_final around (withMsg_prepared ctx _) hState (by decide) hTerminate
  | weldingDetection =>
      exact isoConclude_final around (withMsg_prepared ctx _) hState (by decide) hTerminate

end V2gContext

/-- A request with a known message goes to its handler, with the session id that it came with. -/
theorem isoHandleRequest_used {request : IsoRequest} (around : Surroundings) (isTlsConnection : Bool)
    (ctx : V2gContext) (hUsed : request.v2gMessageIsUsed = true) :
    isoHandleRequest around isTlsConnection request ctx =
      (({ ctx with receivedSessionId := v2gSessionIdFromExi request.sessionId }).isoDispatch around
        isTlsConnection request.body).noteLastMsg := by
  rw [isoHandleRequest, hUsed]
  rfl

/-- A request without a known message is not handled at all. -/
theorem isoHandleRequest_unused {request : IsoRequest} (around : Surroundings)
    (isTlsConnection : Bool) (ctx : V2gContext) (hUnused : request.v2gMessageIsUsed = false) :
    isoHandleRequest around isTlsConnection request ctx = { ctx := ctx, event := .ignoreMsg } := by
  rw [isoHandleRequest, hUnused]
  rfl

end EverestCore.V2G
