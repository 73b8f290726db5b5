import EverestCore.V2G.Response

/-! The DIN 70121 server: the requests, the table of the messages that each state
allows, and the handlers. -/
namespace EverestCore.V2G

/-- `din_state_id`. -/
inductive DinStateId where
  | waitForSessionSetup
  | waitForServiceDiscovery
  | waitForPaymentServiceSelection
  | waitForAuthorization
  | waitForChargeParameterDiscovery
  | waitForCableCheck
  | waitForPreCharge
  | waitForPreChargePowerDelivery
  | waitForCurrentDemand
  | waitForCurrentDemandPowerDelivery
  | waitForWeldingDetectionSessionStop
  | waitForSessionStop
  | waitForTerminatedSession
  deriving DecidableEq, Repr

/-- The number that stands for the state in the context. -/
def DinStateId.id (state : DinStateId) : ℕ := state.ctorIdx

/-- The states have different ids. -/
theorem DinStateId.id_injective : Function.Injective DinStateId.id := by
  intro first second h
  cases first <;> cases second <;> first | rfl | cases h

/-- The allowed requests of `din_states`. -/
def dinStates : List (List V2gMsgTypeId) :=
  [[.sessionSetup],
    [.serviceDiscovery, .sessionStop],
    [.paymentServiceSelection, .sessionStop],
    [.authorization, .sessionStop],
    [.chargeParameterDiscovery, .sessionStop],
    [.cableCheck, .sessionStop],
    [.preCharge, .sessionStop],
    [.powerDelivery, .preCharge, .sessionStop],
    [.currentDemand],
    [.currentDemand, .powerDelivery],
    [.weldingDetection, .sessionStop],
    [.sessionStop],
    []]

/-- `din_validate_state`. -/
def dinValidateState (state : ℕ) (msg : V2gMsgTypeId) : Bool :=
  ((dinStates[state]?).getD []).contains msg

/-- The body of a request. The decoder gives at most one message. -/
inductive DinBody where
  | currentDemand (evTargetVoltage evTargetCurrent : PhysicalValue)
  | sessionSetup (evccid : List UInt8)
  | serviceDiscovery
  | servicePaymentSelection (selectedPaymentOption : PaymentOption) (selectedServices : List ℕ)
  | contractAuthentication
  | paymentDetails
  | serviceDetail
  | chargeParameterDiscovery (requestedType : EnergyTransferMode) (acParameterIsUsed : Bool)
  | cableCheck
  | preCharge (evTargetVoltage evTargetCurrent : PhysicalValue)
  | powerDelivery (readyToChargeState : ℤ) (profileTupleId : Option ℤ)
  | chargingStatus
  | meteringReceipt
  | certificateUpdate
  | certificateInstallation
  | weldingDetection
  | sessionStop
  | notFound
  deriving DecidableEq, Repr

structure DinRequest where
  v2gMessageIsUsed : Bool := true
  sessionId : SessionIdField
  body : DinBody
  deriving DecidableEq, Repr

/-- `SASCHEDULETUPLEID`. -/
def saScheduleTupleIdDin : ℤ := 1

namespace V2gContext

/-- The end of a DIN handler. -/
def dinConclude (ctx : V2gContext) (response : Response) (next : DinStateId)
    (published : List Publication) : Handling :=
  ctx.conclude (dinValidateState ctx.state ctx.currentV2gMsg) response next.id published

/-- The status of a phase, an emergency shutdown first. -/
def dinStatus (phase : ChargingPhase) (ctx : V2gContext) : DcEvseStatus :=
  if ctx.intlEmergencyShutdown then
    { ctx.evseStatus phase with evseStatusCode := .emergencyShutdown }
  else ctx.evseStatus phase

/-- DIN knows no waiting for the customer. -/
def dinProcessing (phase : ChargingPhase) (ctx : V2gContext) : EvseProcessing :=
  if ctx.evseProcessing phase = .finished then .finished else .ongoing

def handleDinSessionSetup (evccid : List UInt8) (randomId : ℕ) (ctx : V2gContext) : Handling :=
  (ctx.ensureSessionId randomId).dinConclude { responseCode := .okNewSessionEstablished }
    .waitForServiceDiscovery [.evccid evccid]

/-- The first entry of the supported modes, whether or not it is in use. -/
def firstEnergyTransferMode (ctx : V2gContext) : Option EnergyTransferMode :=
  ctx.supportedEnergyTransferMode.array[0]?

/-- A first mode that DIN does not know is corrected. -/
def correctEnergyTransferMode (ctx : V2gContext) : V2gContext :=
  if ctx.firstEnergyTransferMode ≠ some .dcCore ∧ ctx.firstEnergyTransferMode ≠ some .dcExtended then
    { ctx with
      supportedEnergyTransferMode := { ctx.supportedEnergyTransferMode with
        array := ctx.supportedEnergyTransferMode.array.set 0 .dcExtended } }
  else ctx

def handleDinServiceDiscovery (ctx : V2gContext) : Handling :=
  ctx.correctEnergyTransferMode.dinConclude {} .waitForPaymentServiceSelection []

/-- The code for a selection. Exactly the charge service is to be selected. -/
def dinSelectionCode (option : PaymentOption) (services : List ℕ) (ctx : V2gContext) :
    ResponseCode :=
  let code : ResponseCode := if option ≠ .externalPayment then .failedPaymentSelectionInvalid else .ok
  if services = [ctx.chargeServiceId] then code else .failedServiceSelectionInvalid

def handleDinServicePaymentSelection (option : PaymentOption) (services : List ℕ)
    (ctx : V2gContext) : Handling :=
  ctx.dinConclude { responseCode := ctx.dinSelectionCode option services }
    .waitForAuthorization []

def handleDinContractAuthentication (ctx : V2gContext) : Handling :=
  let processing := ctx.dinProcessing .auth
  ctx.dinConclude { evseProcessing := processing }
    (if processing = .ongoing then .waitForAuthorization else .waitForChargeParameterDiscovery) []

/-- The code for the requested transfer. -/
def dinChargeParameterCode (requestedType : EnergyTransferMode) (acParameterIsUsed : Bool)
    (ctx : V2gContext) : ResponseCode :=
  if acParameterIsUsed then .failedWrongChargeParameter
  else if (requestedType ≠ .dcCore ∧ requestedType ≠ .dcExtended) ∨
      ctx.firstEnergyTransferMode ≠ some requestedType then .failedWrongEnergyTransferMode
  else .ok

def handleDinChargeParameter (requestedType : EnergyTransferMode) (acParameterIsUsed : Bool)
    (ctx : V2gContext) : Handling :=
  let processing := ctx.dinProcessing .parameter
  ctx.dinConclude
    { responseCode := ctx.dinChargeParameterCode requestedType acParameterIsUsed
      evseProcessing := processing
      dcEvseStatus := ctx.dinStatus .parameter }
    (if processing = .finished then .waitForCableCheck else .waitForChargeParameterDiscovery) []

/-- The code for the start or the end of the delivery. A profile that exceeds the
limits is only logged. -/
def dinPowerDeliveryCode (readyToChargeState : ℤ) (profileTupleId : Option ℤ) (ctx : V2gContext) :
    ResponseCode :=
  let code : ResponseCode :=
    if profileTupleId.any (· ≠ saScheduleTupleIdDin) then .failedTariffSelectionInvalid else .ok
  if readyToChargeState = 1 ∧ (ctx.dinStatus .charge).evseStatusCode ≠ .ready then
    .failedPowerDeliveryNotApplied
  else code

/-- A car that is ready once more after the current demand phase is sent away,
without another look at the validation. -/
def handleDinPowerDelivery (readyToChargeState : ℤ) (profileTupleId : Option ℤ)
    (ctx : V2gContext) : Handling :=
  let stops := readyToChargeState = 0
  let ctx := if stops then { ctx with isCharging := false } else ctx
  let published : List Publication :=
    if stops then [.currentDemandFinished, .dcOpenContactor] else []
  let response : Response :=
    { responseCode := ctx.dinPowerDeliveryCode readyToChargeState profileTupleId
      dcEvseStatus := ctx.dinStatus .charge }
  if readyToChargeState = 1 ∧ ctx.lastV2gMsg ≠ .currentDemand then
    ctx.dinConclude response .waitForCurrentDemand published
  else
    let handling := ctx.dinConclude response .waitForWeldingDetectionSessionStop published
    if readyToChargeState = 1 then
      { handling with
        response := { handling.response with responseCode := .failed }
        event := .sendAndTerminate }
    else handling

/-- The isolation has been checked, and nothing is wrong. -/
def cableCheckPassed (processing : EvseProcessing) (status : DcEvseStatus) : Bool :=
  processing = .finished ∧ status.evseIsolationStatusIsUsed ∧
    (status.evseIsolationStatus = .valid ∨ status.evseIsolationStatus = .warning) ∧
    status.evseStatusCode = .ready

def handleDinCableCheck (ctx : V2gContext) : Handling :=
  let processing := ctx.dinProcessing .isolation
  let status := ctx.dinStatus .isolation
  ctx.dinConclude { evseProcessing := processing, dcEvseStatus := status }
    (if cableCheckPassed processing status then .waitForPreCharge else .waitForCableCheck) []

def handleDinPreCharge (evTargetVoltage evTargetCurrent : PhysicalValue) (ctx : V2gContext) :
    Handling :=
  let (ctx, published) := ctx.publishTargets evTargetVoltage evTargetCurrent
  ctx.dinConclude { dcEvseStatus := ctx.dinStatus .precharge } .waitForPreChargePowerDelivery
    published

def handleDinCurrentDemand (evTargetVoltage evTargetCurrent : PhysicalValue) (ctx : V2gContext) :
    Handling :=
  let (ctx, published) := ctx.publishTargets evTargetVoltage evTargetCurrent
  ctx.dinConclude { dcEvseStatus := ctx.dinStatus .charge } .waitForCurrentDemandPowerDelivery
    published

def handleDinWeldingDetection (ctx : V2gContext) : Handling :=
  ctx.dinConclude { dcEvseStatus := ctx.dinStatus .welding } .waitForWeldingDetectionSessionStop []

/-- The connection ends after the response, whatever its code. -/
def handleDinSessionStop (ctx : V2gContext) : Handling :=
  { ctx.dinConclude {} .waitForTerminatedSession [.evChargingSessionTerminate] with
    event := .sendAndTerminate }

/-- A message that DIN does not support. -/
def ignoreDinRequest (ctx : V2gContext) : Handling :=
  { ctx := ctx.withMsg .unknown, event := .ignoreMsg }

/-- The choice of the handler in `din_handle_request`. -/
def dinDispatch (around : Surroundings) (ctx : V2gContext) : DinBody → Handling
  | .currentDemand evTargetVoltage evTargetCurrent =>
      -- The first demand after `PowerDelivery` starts the current.
      let starts := ctx.lastV2gMsg = .powerDelivery
      let ctx := if starts then { ctx with isCharging := true } else ctx
      ((ctx.withMsg .currentDemand).handleDinCurrentDemand evTargetVoltage evTargetCurrent).after
        (if starts then [.currentDemandStarted] else [])
  | .sessionSetup evccid =>
      (ctx.withMsg .sessionSetup).handleDinSessionSetup evccid around.randomId
  | .serviceDiscovery => (ctx.withMsg .serviceDiscovery).handleDinServiceDiscovery
  | .servicePaymentSelection option services =>
      (ctx.withMsg .paymentServiceSelection).handleDinServicePaymentSelection option services
  | .contractAuthentication =>
      (ctx.withMsg .authorization).handleDinContractAuthentication.after
        (if ctx.lastV2gMsg ≠ .authorization then [.requireAuthEIM] else [])
  | .chargeParameterDiscovery requestedType acParameterIsUsed =>
      (ctx.withMsg .chargeParameterDiscovery).handleDinChargeParameter requestedType
        acParameterIsUsed
  | .cableCheck =>
      (ctx.withMsg .cableCheck).handleDinCableCheck.after
        (if ctx.lastV2gMsg = .chargeParameterDiscovery then [.startCableCheck] else [])
  | .preCharge evTargetVoltage evTargetCurrent =>
      (ctx.withMsg .preCharge).handleDinPreCharge evTargetVoltage evTargetCurrent
  | .powerDelivery readyToChargeState profileTupleId =>
      (ctx.withMsg .powerDelivery).handleDinPowerDelivery readyToChargeState profileTupleId
  | .weldingDetection => (ctx.withMsg .weldingDetection).handleDinWeldingDetection
  | .sessionStop => (ctx.withMsg .sessionStop).handleDinSessionStop
  | .paymentDetails | .serviceDetail | .chargingStatus | .meteringReceipt | .certificateUpdate
  | .certificateInstallation => ctx.ignoreDinRequest
  | .notFound => { ctx := ctx, event := .ignoreMsg }

end V2gContext

/-- `din_handle_request`. -/
def dinHandleRequest (around : Surroundings) (request : DinRequest) (ctx : V2gContext) : Handling :=
  if !request.v2gMessageIsUsed then { ctx := ctx, event := .ignoreMsg }
  else
    (({ ctx with receivedSessionId := v2gSessionIdFromExi request.sessionId }).dinDispatch around
      request.body).noteLastMsg

/-- The message type that a body is handled as, unless it is ignored. -/
def DinBody.msg : DinBody → Option V2gMsgTypeId
  | .currentDemand _ _ => some .currentDemand
  | .sessionSetup _ => some .sessionSetup
  | .serviceDiscovery => some .serviceDiscovery
  | .servicePaymentSelection _ _ => some .paymentServiceSelection
  | .contractAuthentication => some .authorization
  | .chargeParameterDiscovery _ _ => some .chargeParameterDiscovery
  | .cableCheck => some .cableCheck
  | .preCharge _ _ => some .preCharge
  | .powerDelivery _ _ => some .powerDelivery
  | .weldingDetection => some .weldingDetection
  | .sessionStop => some .sessionStop
  | _ => none

namespace V2gContext

/-- The state that a request leads to, whatever its response code. -/
def dinNext (ctx : V2gContext) : DinBody → Option DinStateId
  | .currentDemand _ _ => some .waitForCurrentDemandPowerDelivery
  | .sessionSetup _ => some .waitForServiceDiscovery
  | .serviceDiscovery => some .waitForPaymentServiceSelection
  | .servicePaymentSelection _ _ => some .waitForAuthorization
  | .contractAuthentication =>
      some (if ctx.evseProcessing .auth = .finished then .waitForChargeParameterDiscovery
        else .waitForAuthorization)
  | .chargeParameterDiscovery _ _ =>
      some (if ctx.evseProcessing .parameter = .finished then .waitForCableCheck
        else .waitForChargeParameterDiscovery)
  | .cableCheck =>
      some (if cableCheckPassed (ctx.dinProcessing .isolation) (ctx.dinStatus .isolation) then
        .waitForPreCharge
      else .waitForCableCheck)
  | .preCharge _ _ => some .waitForPreChargePowerDelivery
  | .powerDelivery readyToChargeState _ =>
      some (if readyToChargeState = 1 ∧ ctx.lastV2gMsg ≠ .currentDemand then .waitForCurrentDemand
        else .waitForWeldingDetectionSessionStop)
  | .weldingDetection => some .waitForWeldingDetectionSessionStop
  | .sessionStop => some .waitForTerminatedSession
  | _ => none

/-- What no DIN request writes. -/
structure DinKept (before after : V2gContext) : Prop where
  terms : SameTerms before after
  evseProcessing : after.evseProcessing = before.evseProcessing
  lastV2gMsg : after.lastV2gMsg = before.lastV2gMsg
  receivedSessionId : after.receivedSessionId = before.receivedSessionId
  chargeServiceId : after.chargeServiceId = before.chargeServiceId

/-- What two steps keep is kept by both. -/
theorem DinKept.trans {first second third : V2gContext} (h : DinKept first second)
    (h' : DinKept second third) : DinKept first third := by
  constructor
  · exact h.terms.trans h'.terms
  · exact h'.evseProcessing.trans h.evseProcessing
  · exact h'.lastV2gMsg.trans h.lastV2gMsg
  · exact h'.receivedSessionId.trans h.receivedSessionId
  · exact h'.chargeServiceId.trans h.chargeServiceId

variable (around : Surroundings) (ctx : V2gContext)

/-- A new session id leaves alone what no DIN request writes. -/
theorem ensureSessionId_dinKept (randomId : ℕ) : DinKept ctx (ctx.ensureSessionId randomId) := by
  unfold ensureSessionId
  split <;> exact ⟨⟨rfl, rfl, rfl, rfl, rfl⟩, rfl, rfl, rfl, rfl⟩

/-- The correction of the energy transfer mode leaves alone what no DIN request writes. -/
theorem correctEnergyTransferMode_dinKept : DinKept ctx ctx.correctEnergyTransferMode := by
  unfold correctEnergyTransferMode
  split <;> exact ⟨⟨rfl, rfl, rfl, rfl, rfl⟩, rfl, rfl, rfl, rfl⟩

/-- Publishing the targets of the car leaves alone what no DIN request writes. -/
theorem publishTargets_dinKept (voltage current : PhysicalValue) :
    DinKept ctx (ctx.publishTargets voltage current).1 := by
  unfold publishTargets
  dsimp only
  split <;> exact ⟨⟨rfl, rfl, rfl, rfl, rfl⟩, rfl, rfl, rfl, rfl⟩

/-- The end of a handler leaves alone what no DIN request writes. -/
theorem dinConclude_dinKept (response : Response) (next : DinStateId)
    (published : List Publication) : DinKept ctx (ctx.dinConclude response next published).ctx :=
  ⟨⟨rfl, rfl, rfl, rfl, rfl⟩, rfl, rfl, rfl, rfl⟩

/-- The id of the message is none of what no DIN request writes. -/
theorem withMsg_dinKept (msg : V2gMsgTypeId) : DinKept ctx (ctx.withMsg msg) :=
  ⟨⟨rfl, rfl, rfl, rfl, rfl⟩, rfl, rfl, rfl, rfl⟩

/-- The two ways to end a power delivery leave the same context. -/
theorem handleDinPowerDelivery_ctx (readyToChargeState : ℤ) (profileTupleId : Option ℤ) :
    (ctx.handleDinPowerDelivery readyToChargeState profileTupleId).ctx =
      { (if readyToChargeState = 0 then { ctx with isCharging := false } else ctx) with
        state := (if readyToChargeState = 1 ∧ ctx.lastV2gMsg ≠ .currentDemand then
          DinStateId.waitForCurrentDemand else .waitForWeldingDetectionSessionStop).id } := by
  unfold handleDinPowerDelivery dinConclude
  by_cases hStop : readyToChargeState = 0
  · subst hStop
    simp
  · by_cases hReady : readyToChargeState = 1
    · subst hReady
      by_cases hLast : ctx.lastV2gMsg = .currentDemand <;> simp [hLast]
    · simp [hStop, hReady]

/-- No handler writes what no DIN request is to write. One case for each message. -/
theorem dinDispatch_dinKept (body : DinBody) : DinKept ctx (ctx.dinDispatch around body).ctx := by
  cases body with
  | currentDemand voltage current =>
      rw [dinDispatch, Handling.after_ctx]
      refine DinKept.trans ?_ ((publishTargets_dinKept _ voltage current).trans
        (dinConclude_dinKept _ _ _ _))
      split <;> exact ⟨⟨rfl, rfl, rfl, rfl, rfl⟩, rfl, rfl, rfl, rfl⟩
  | sessionSetup evccid =>
      exact (withMsg_dinKept ctx _).trans ((ensureSessionId_dinKept _ _).trans
        (dinConclude_dinKept _ _ _ _))
  | serviceDiscovery =>
      exact (withMsg_dinKept ctx _).trans ((correctEnergyTransferMode_dinKept _).trans
        (dinConclude_dinKept _ _ _ _))
  | preCharge voltage current =>
      exact (withMsg_dinKept ctx _).trans ((publishTargets_dinKept _ voltage current).trans
        (dinConclude_dinKept _ _ _ _))
  | powerDelivery readyToChargeState profileTupleId =>
      rw [dinDispatch, handleDinPowerDelivery_ctx]
      split <;> exact ⟨⟨rfl, rfl, rfl, rfl, rfl⟩, rfl, rfl, rfl, rfl⟩
  | _ => exact ⟨⟨rfl, rfl, rfl, rfl, rfl⟩, rfl, rfl, rfl, rfl⟩

/-- The request passes every check, and is answered with a code that is not failed. -/
structure DinAccepted (ctx : V2gContext) (msg : V2gMsgTypeId) (code : ResponseCode) : Prop where
  expected : dinValidateState ctx.state msg = true
  session : msg = .sessionSetup ∨ ctx.sessionId = ctx.receivedSessionId
  code : code.isFailed = false

/-- A handler that ends without an event has accepted its request. -/
theorem dinConclude_accepted {msg : V2gMsgTypeId} {ctx inner : V2gContext} {response : Response}
    {next : DinStateId} {published : List Publication} (hPrepared : Prepared msg ctx inner)
    (hTerminate : ctx.terminateConnectionOnFailedResponse = true)
    (hEvent : (inner.dinConclude response next published).event = .noEvent) :
    DinAccepted ctx msg response.responseCode ∧
      (inner.dinConclude response next published).response.responseCode = response.responseCode := by
  obtain ⟨hAdmits, hCode, hSent⟩ :=
    conclude_continues (hPrepared.terms.terminate.trans hTerminate) hEvent
  refine ⟨⟨?_, ?_, hCode⟩, hSent⟩
  · rw [← hPrepared.state, ← hPrepared.currentV2gMsg]
    exact hAdmits.expected
  · rcases hPrepared.session with hSetup | ⟨hId, hReceived⟩
    · exact Or.inl hSetup
    · rw [← hId, ← hReceived, ← hPrepared.currentV2gMsg]
      exact hAdmits.session

/-- The code that the handler of a request gives to the check. -/
def dinCode (ctx : V2gContext) : DinBody → ResponseCode
  | .sessionSetup _ => .okNewSessionEstablished
  | .servicePaymentSelection option services => ctx.dinSelectionCode option services
  | .chargeParameterDiscovery requestedType acParameterIsUsed =>
      ctx.dinChargeParameterCode requestedType acParameterIsUsed
  | .powerDelivery readyToChargeState profileTupleId =>
      ctx.dinPowerDeliveryCode readyToChargeState profileTupleId
  | _ => .ok

/-- The correction of the energy transfer mode does not change the course of the session. -/
theorem correctEnergyTransferMode_sameCourse : SameCourse ctx ctx.correctEnergyTransferMode := by
  unfold correctEnergyTransferMode
  split
  · exact ⟨⟨rfl, rfl, rfl, rfl, rfl⟩, rfl, rfl, rfl, rfl, rfl, rfl, rfl, rfl⟩
  · exact SameCourse.refl ctx

/-- A power delivery ends with the check of its response, unless the car is sent
away. -/
theorem handleDinPowerDelivery_cases (readyToChargeState : ℤ) (profileTupleId : Option ℤ) :
    ∃ inner response next published,
      Prepared .powerDelivery ctx inner ∧
      response.responseCode = ctx.dinPowerDeliveryCode readyToChargeState profileTupleId ∧
      (ctx.dinDispatch around (.powerDelivery readyToChargeState profileTupleId) =
          inner.dinConclude response next published ∨
        (readyToChargeState = 1 ∧ ctx.lastV2gMsg = .currentDemand ∧
          (ctx.dinDispatch around (.powerDelivery readyToChargeState profileTupleId)).event =
            .sendAndTerminate)) := by
  rw [dinDispatch]
  unfold handleDinPowerDelivery
  dsimp only
  have hPrepared : Prepared .powerDelivery ctx (if readyToChargeState = 0 then
      { ctx.withMsg .powerDelivery with isCharging := false } else ctx.withMsg .powerDelivery) := by
    split <;> exact ⟨⟨rfl, rfl, rfl, rfl, rfl⟩, rfl, rfl, Or.inr ⟨rfl, rfl⟩⟩
  have hCode : (if readyToChargeState = 0 then
      { ctx.withMsg .powerDelivery with isCharging := false }
      else ctx.withMsg .powerDelivery).dinPowerDeliveryCode readyToChargeState profileTupleId =
      ctx.dinPowerDeliveryCode readyToChargeState profileTupleId := by
    split <;> rfl
  have hLast : (if readyToChargeState = 0 then
      { ctx.withMsg .powerDelivery with isCharging := false }
      else ctx.withMsg .powerDelivery).lastV2gMsg = ctx.lastV2gMsg := by
    split <;> rfl
  generalize (if readyToChargeState = 0 then
    { ctx.withMsg .powerDelivery with isCharging := false } else ctx.withMsg .powerDelivery) = inner
    at hPrepared hCode hLast ⊢
  split
  · exact ⟨inner, _, _, _, hPrepared, hCode, Or.inl rfl⟩
  · next hDemand =>
      split
      · next hReady =>
          refine ⟨inner, { responseCode := _ }, .waitForCurrentDemand, [], hPrepared, hCode,
            Or.inr ⟨hReady, ?_, rfl⟩⟩
          rw [← hLast]
          by_contra hOther
          exact hDemand ⟨hReady, hOther⟩
      · exact ⟨inner, _, _, _, hPrepared, hCode, Or.inl rfl⟩

variable {ctx}

/-- Where a failed response ends the connection, it goes on only after a request
that was accepted, with the code of its handler. -/
theorem dinDispatch_accepted {body : DinBody} {msg : V2gMsgTypeId} (hMsg : body.msg = some msg)
    (hTerminate : ctx.terminateConnectionOnFailedResponse = true)
    (hEvent : (ctx.dinDispatch around body).event = .noEvent) :
    DinAccepted ctx msg (ctx.dinCode body) ∧
      (ctx.dinDispatch around body).response.responseCode = ctx.dinCode body := by
  cases body with
  | currentDemand voltage current =>
      cases hMsg
      have hPrepared := (isCharging_prepared ctx .currentDemand true
        (ctx.lastV2gMsg = .powerDelivery)).of_sameCourse (publishTargets_sameCourse voltage current _)
      exact dinConclude_accepted hPrepared hTerminate hEvent
  | sessionSetup evccid =>
      cases hMsg
      exact dinConclude_accepted (ensureSessionId_prepared ctx _) hTerminate hEvent
  | serviceDiscovery =>
      cases hMsg
      have hPrepared := (withMsg_prepared ctx .serviceDiscovery).of_sameCourse
        (correctEnergyTransferMode_sameCourse _)
      exact dinConclude_accepted hPrepared hTerminate hEvent
  | preCharge voltage current =>
      cases hMsg
      have hPrepared := (withMsg_prepared ctx .preCharge).of_sameCourse
        (publishTargets_sameCourse voltage current _)
      exact dinConclude_accepted hPrepared hTerminate hEvent
  | powerDelivery readyToChargeState profileTupleId =>
      cases hMsg
      obtain ⟨inner, response, next, published, hPrepared, hCode, hChecked | ⟨-, -, hAway⟩⟩ :=
        handleDinPowerDelivery_cases around ctx readyToChargeState profileTupleId
      · rw [hChecked] at hEvent ⊢
        show DinAccepted ctx _ (ctx.dinPowerDeliveryCode readyToChargeState profileTupleId) ∧ _ =
          ctx.dinPowerDeliveryCode readyToChargeState profileTupleId
        rw [← hCode]
        exact dinConclude_accepted hPrepared hTerminate hEvent
      · rw [hAway] at hEvent
        cases hEvent
  | sessionStop => cases (hEvent : V2gEvent.sendAndTerminate = .noEvent)
  | servicePaymentSelection option services =>
      cases hMsg
      exact dinConclude_accepted (withMsg_prepared ctx _) hTerminate hEvent
  | contractAuthentication =>
      cases hMsg
      exact dinConclude_accepted (withMsg_prepared ctx _) hTerminate hEvent
  | chargeParameterDiscovery requestedType acParameterIsUsed =>
      cases hMsg
      exact dinConclude_accepted (withMsg_prepared ctx _) hTerminate hEvent
  | cableCheck =>
      cases hMsg
      exact dinConclude_accepted (withMsg_prepared ctx _) hTerminate hEvent
  | weldingDetection =>
      cases hMsg
      exact dinConclude_accepted (withMsg_prepared ctx _) hTerminate hEvent
  | _ => cases hMsg

/-- A message that is not handled leaves the session where it is. -/
theorem dinDispatch_ignored {body : DinBody} (hMsg : body.msg = none) :
    (ctx.dinDispatch around body).event = .ignoreMsg ∧
      ∃ msg, (ctx.dinDispatch around body).ctx = ctx.withMsg msg := by
  cases body with
  | notFound => exact ⟨rfl, ctx.currentV2gMsg, rfl⟩
  | paymentDetails => exact ⟨rfl, .unknown, rfl⟩
  | serviceDetail => exact ⟨rfl, .unknown, rfl⟩
  | chargingStatus => exact ⟨rfl, .unknown, rfl⟩
  | meteringReceipt => exact ⟨rfl, .unknown, rfl⟩
  | certificateUpdate => exact ⟨rfl, .unknown, rfl⟩
  | certificateInstallation => exact ⟨rfl, .unknown, rfl⟩
  | _ => cases hMsg

/-- After a message that is handled the connection goes on or ends. -/
theorem dinDispatch_final {body : DinBody} {msg : V2gMsgTypeId} (hMsg : body.msg = some msg) :
    (ctx.dinDispatch around body).event = .noEvent ∨
      (ctx.dinDispatch around body).event.isFinal = true := by
  cases body with
  | powerDelivery readyToChargeState profileTupleId =>
      obtain ⟨inner, response, next, published, -, -, hChecked | ⟨-, -, hAway⟩⟩ :=
        handleDinPowerDelivery_cases around ctx readyToChargeState profileTupleId
      · rw [hChecked]
        exact conclude_event_final
      · rw [hAway]
        exact Or.inr rfl
  | sessionStop => exact Or.inr rfl
  | currentDemand voltage current => exact conclude_event_final
  | sessionSetup evccid => exact conclude_event_final
  | serviceDiscovery => exact conclude_event_final
  | servicePaymentSelection option services => exact conclude_event_final
  | contractAuthentication => exact conclude_event_final
  | chargeParameterDiscovery requestedType acParameterIsUsed => exact conclude_event_final
  | cableCheck => exact conclude_event_final
  | preCharge voltage current => exact conclude_event_final
  | weldingDetection => exact conclude_event_final
  | _ => cases hMsg

/-- A request leads to the state that follows it. -/
theorem dinDispatch_state {body : DinBody} {next : DinStateId} (hNext : ctx.dinNext body = some next) :
    (ctx.dinDispatch around body).ctx.state = next.id := by
  cases body with
  | contractAuthentication =>
      cases hNext
      show DinStateId.id (if (if ctx.evseProcessing .auth = .finished then EvseProcessing.finished
        else .ongoing) = .ongoing then _ else _) = _
      by_cases hAuth : ctx.evseProcessing .auth = .finished
      · simp [hAuth]
      · simp [hAuth]
  | chargeParameterDiscovery requestedType acParameterIsUsed =>
      cases hNext
      show DinStateId.id (if (if ctx.evseProcessing .parameter = .finished then
        EvseProcessing.finished else .ongoing) = .finished then _ else _) = _
      by_cases hParameter : ctx.evseProcessing .parameter = .finished
      · simp [hParameter]
      · simp [hParameter]
  | powerDelivery readyToChargeState profileTupleId =>
      cases hNext
      rw [dinDispatch, handleDinPowerDelivery_ctx]
      rfl
  | currentDemand voltage current => cases hNext; rfl
  | sessionSetup evccid => cases hNext; rfl
  | serviceDiscovery => cases hNext; rfl
  | servicePaymentSelection option services => cases hNext; rfl
  | cableCheck => cases hNext; rfl
  | preCharge voltage current => cases hNext; rfl
  | weldingDetection => cases hNext; rfl
  | sessionStop => cases hNext; rfl
  | _ => cases hNext

/-- Only the session setup gives the session another id. -/
theorem dinDispatch_sessionId {body : DinBody} (hMsg : body.msg ≠ some .sessionSetup) :
    (ctx.dinDispatch around body).ctx.sessionId = ctx.sessionId := by
  cases body with
  | sessionSetup evccid => exact absurd rfl hMsg
  | currentDemand voltage current =>
      refine (publishTargets_sameCourse voltage current _).sessionId.trans ?_
      split <;> rfl
  | serviceDiscovery => exact (correctEnergyTransferMode_sameCourse _).sessionId
  | preCharge voltage current => exact (publishTargets_sameCourse voltage current _).sessionId
  | powerDelivery readyToChargeState profileTupleId =>
      rw [dinDispatch, handleDinPowerDelivery_ctx]
      split <;> rfl
  | _ => rfl

/-- A request that leads to the current demand phase and ends the connection is
answered with a failed code. -/
theorem dinDispatch_terminates {body : DinBody} (hOpen : ctx.isConnectionTerminated = false)
    (hNext : ctx.dinNext body = some .waitForCurrentDemand)
    (hEvent : (ctx.dinDispatch around body).event ≠ .noEvent) :
    (ctx.dinDispatch around body).event = .sendAndTerminate ∧
      (ctx.dinDispatch around body).response.responseCode.isFailed = true := by
  cases body with
  | powerDelivery readyToChargeState profileTupleId =>
      obtain ⟨inner, response, next, published, hPrepared, -, hChecked | ⟨hReady, hLast, -⟩⟩ :=
        handleDinPowerDelivery_cases around ctx readyToChargeState profileTupleId
      · rw [hChecked] at hEvent ⊢
        exact conclude_terminates (hPrepared.terms.isConnectionTerminated.trans hOpen) hEvent
      · rw [dinNext, if_neg fun h => h.2 hLast] at hNext
        cases hNext
  | contractAuthentication =>
      rw [dinNext] at hNext
      split at hNext <;> cases hNext
  | chargeParameterDiscovery requestedType acParameterIsUsed =>
      rw [dinNext] at hNext
      split at hNext <;> cases hNext
  | cableCheck =>
      rw [dinNext] at hNext
      split at hNext <;> cases hNext
  | _ => cases hNext

/-- Every message that is handled leads somewhere, and none of them back to the
session setup. -/
theorem dinNext_of_msg (ctx : V2gContext) {body : DinBody} {msg : V2gMsgTypeId}
    (hMsg : body.msg = some msg) :
    ∃ next, ctx.dinNext body = some next ∧ next.id ≠ 0 := by
  cases body with
  | contractAuthentication =>
      refine ⟨_, rfl, ?_⟩
      split <;> decide
  | chargeParameterDiscovery requestedType acParameterIsUsed =>
      refine ⟨_, rfl, ?_⟩
      split <;> decide
  | cableCheck =>
      refine ⟨_, rfl, ?_⟩
      split <;> decide
  | powerDelivery readyToChargeState profileTupleId =>
      refine ⟨_, rfl, ?_⟩
      split <;> decide
  | paymentDetails => cases hMsg
  | serviceDetail => cases hMsg
  | chargingStatus => cases hMsg
  | meteringReceipt => cases hMsg
  | certificateUpdate => cases hMsg
  | certificateInstallation => cases hMsg
  | notFound => cases hMsg
  | _ => exact ⟨_, rfl, by decide⟩

end V2gContext

section Request

variable {around : Surroundings} {request : DinRequest} {ctx : V2gContext} {msg : V2gMsgTypeId}

/-- A message that is used goes to its handler, with the session id that it brings. -/
theorem dinHandleRequest_used (hUsed : request.v2gMessageIsUsed = true) :
    dinHandleRequest around request ctx =
      (({ ctx with receivedSessionId := v2gSessionIdFromExi request.sessionId }).dinDispatch around
        request.body).noteLastMsg := by
  rw [dinHandleRequest, hUsed]
  rfl

/-- A message that is not used or not handled leaves the session where it is. -/
theorem dinHandleRequest_ignored (around : Surroundings) (ctx : V2gContext)
    (h : request.v2gMessageIsUsed = false ∨ request.body.msg = none) :
    (dinHandleRequest around request ctx).event = .ignoreMsg ∧
      (dinHandleRequest around request ctx).ctx.isConnectionTerminated =
        ctx.isConnectionTerminated ∧
      (dinHandleRequest around request ctx).ctx.state = ctx.state ∧
      (dinHandleRequest around request ctx).ctx.sessionId = ctx.sessionId := by
  by_cases hUsed : request.v2gMessageIsUsed = true
  · have hMsg : request.body.msg = none := h.resolve_left (by rw [hUsed]; decide)
    obtain ⟨hEvent, msg, hCtx⟩ := V2gContext.dinDispatch_ignored around hMsg
    rw [dinHandleRequest_used hUsed, Handling.noteLastMsg_event, Handling.noteLastMsg_ctx, hCtx]
    exact ⟨hEvent, rfl, rfl, rfl⟩
  · rw [dinHandleRequest, Bool.eq_false_iff.mpr hUsed]
    exact ⟨rfl, rfl, rfl, rfl⟩

/-- A known message is answered, or ends the connection. -/
theorem dinHandleRequest_final (around : Surroundings) (ctx : V2gContext)
    (hUsed : request.v2gMessageIsUsed = true) (hMsg : request.body.msg = some msg) :
    (dinHandleRequest around request ctx).event = .noEvent ∨
      (dinHandleRequest around request ctx).event.isFinal = true := by
  rw [dinHandleRequest_used hUsed, Handling.noteLastMsg_event]
  exact V2gContext.dinDispatch_final around hMsg

/-- What a request says of its session does not change the state that follows it. -/
theorem dinNext_received (ctx : V2gContext) (id : ℕ) (body : DinBody) :
    { ctx with receivedSessionId := id }.dinNext body = ctx.dinNext body := by
  cases body <;> rfl

/-- A known message leads to the state that follows it. -/
theorem dinHandleRequest_state {next : DinStateId} (around : Surroundings)
    (hUsed : request.v2gMessageIsUsed = true) (hNext : ctx.dinNext request.body = some next) :
    (dinHandleRequest around request ctx).ctx.state = next.id := by
  rw [← dinNext_received ctx (v2gSessionIdFromExi request.sessionId)] at hNext
  rw [dinHandleRequest_used hUsed, Handling.noteLastMsg_ctx]
  exact V2gContext.dinDispatch_state around hNext

/-- No request changes whether the EVSE is still processing. -/
theorem dinHandleRequest_evseProcessing (around : Surroundings) (request : DinRequest)
    (ctx : V2gContext) :
    (dinHandleRequest around request ctx).ctx.evseProcessing = ctx.evseProcessing := by
  by_cases hUsed : request.v2gMessageIsUsed = true
  · rw [dinHandleRequest_used hUsed, Handling.noteLastMsg_ctx]
    exact (V2gContext.dinDispatch_dinKept around _ request.body).evseProcessing
  · rw [dinHandleRequest, Bool.eq_false_iff.mpr hUsed]
    rfl

/-- A car that does not begin with the session setup is sent away. -/
theorem dinHandleRequest_unprepared (around : Surroundings)
    (hUsed : request.v2gMessageIsUsed = true) (hMsg : request.body.msg = some msg)
    (hSetup : msg ≠ .sessionSetup) (hState : ctx.state = 0)
    (hTerminate : ctx.terminateConnectionOnFailedResponse = true) :
    (dinHandleRequest around request ctx).event.isFinal = true := by
  refine (dinHandleRequest_final around ctx hUsed hMsg).resolve_left ?_
  intro hEvent
  rw [dinHandleRequest_used hUsed, Handling.noteLastMsg_event] at hEvent
  have hTerms : { ctx with receivedSessionId := v2gSessionIdFromExi request.sessionId
      }.terminateConnectionOnFailedResponse = true := hTerminate
  have hExpected : dinValidateState ctx.state msg = true :=
    (V2gContext.dinDispatch_accepted around hMsg hTerms hEvent).1.expected
  rw [hState] at hExpected
  exact hSetup (List.mem_singleton.mp (List.contains_iff_mem.mp hExpected))

end Request

end EverestCore.V2G
