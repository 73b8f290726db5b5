import EverestCore.V2G.Server

/-! The checks of the ISO 15118-2 server. Every handler calls
`iso_validate_response_code` for itself, at its end, and some change the code or the
event afterwards. What a handler ends with is stated here once, and what follows for
the answers and for the connections is derived from it. -/
namespace EverestCore.V2G
open Machine

/-- The message type that a body is handled as. -/
def IsoBody.msg : IsoBody → Option V2gMsgTypeId
  | .currentDemand _ _ => some .currentDemand
  | .sessionSetup _ => some .sessionSetup
  | .serviceDiscovery => some .serviceDiscovery
  | .serviceDetail _ => some .serviceDetail
  | .paymentServiceSelection _ _ => some .paymentServiceSelection
  | .paymentDetails _ => some .paymentDetails
  | .authorization _ => some .authorization
  | .chargeParameterDiscovery _ _ _ => some .chargeParameterDiscovery
  | .powerDelivery _ _ => some .powerDelivery
  | .chargingStatus => some .chargingStatus
  | .meteringReceipt => some .meteringReceipt
  | .certificateUpdate => some .certificateUpdate
  | .certificateInstallation => some .certificateInstallation
  | .cableCheck => some .cableCheck
  | .preCharge _ _ => some .preCharge
  | .weldingDetection => some .weldingDetection
  | .sessionStop _ => some .sessionStop
  | .notFound => none

namespace V2gContext

/-- What the check reads beside the state and the message. -/
structure SameWatch (inner after : V2gContext) : Prop where
  isDcCharger : after.isDcCharger = inner.isDcCharger
  stopHlc : after.stopHlc = inner.stopHlc
  intlEmergencyShutdown : after.intlEmergencyShutdown = inner.intlEmergencyShutdown

/-- What is watched stays the same over several steps. -/
theorem SameWatch.trans {first second third : V2gContext} (h : SameWatch first second)
    (h' : SameWatch second third) : SameWatch first third := by
  constructor
  · exact h'.isDcCharger.trans h.isDcCharger
  · exact h'.stopHlc.trans h.stopHlc
  · exact h'.intlEmergencyShutdown.trans h.intlEmergencyShutdown

/-- `iso_validate_response_code`, with the state and the message of the context. -/
def isoValidate (around : Surroundings) (code : ResponseCode) (ctx : V2gContext) :
    ResponseCode × V2gEvent :=
  ctx.validateResponseCode
    (isoValidateState around.beyond ctx.state ctx.currentV2gMsg ctx.isDcCharger) code

/-- The context that the check of a request sees, and what it is left as. -/
structure CheckedIn (msg : V2gMsgTypeId) (ctx inner : V2gContext) (handling : Handling) : Prop where
  prepared : Prepared msg ctx inner
  watch : SameWatch inner handling.ctx

/-- The answer is what the check says. -/
structure Checked (around : Surroundings) (msg : V2gMsgTypeId) (ctx inner : V2gContext)
    (code : ResponseCode) (handling : Handling) : Prop extends CheckedIn msg ctx inner handling where
  responseCode : handling.response.responseCode = (inner.isoValidate around code).1
  event : handling.event = (inner.isoValidate around code).2

variable (around : Surroundings) (ctx : V2gContext)

/-- The kind of the charger is not touched. -/
theorem publishTargets_isDcCharger (voltage current : PhysicalValue) :
    (ctx.publishTargets voltage current).1.isDcCharger = ctx.isDcCharger := by
  unfold publishTargets
  dsimp only
  split <;> rfl

/-- Noting the message can be counted to the preparation. -/
theorem Prepared.of_withMsg {msg : V2gMsgTypeId} {ctx inner : V2gContext}
    (h : Prepared msg (ctx.withMsg msg) inner) : Prepared msg ctx inner :=
  ⟨(withMsg_sameTerms ctx msg).trans h.terms, h.state, h.currentV2gMsg, h.session⟩

/-- A handler that ends as all of them do has its response checked. -/
theorem isoConclude_checked {msg : V2gMsgTypeId} {inner : V2gContext} {response : Response} {next : ℕ}
    {published : List Publication} (hPrepared : Prepared msg ctx inner) :
    Checked around msg ctx inner response.responseCode
      (inner.isoConclude around response next published) :=
  ⟨⟨hPrepared, ⟨rfl, rfl, rfl⟩⟩, rfl, rfl⟩

/-- Without an answer of the backend the handler fails, and this is checked as well. -/
theorem handleIsoCertificateInstallation_checked (hCertificate : ctx.certInstallRes = none) :
    ∃ inner code, Checked around ctx.currentV2gMsg ctx inner code
      (ctx.handleIsoCertificateInstallation around) := by
  obtain ⟨inner, response, next, hPrepared, hConcluded⟩ :=
    handleIsoCertificateInstallation_concluded around ctx hCertificate
  rw [hConcluded]
  exact ⟨_, _, isoConclude_checked around ctx hPrepared⟩

/-- The messages whose answer is what the check says. -/
def isAnsweredAsChecked (msg : V2gMsgTypeId) : Bool :=
  msg ∉ [V2gMsgTypeId.powerDelivery, .sessionStop, .certificateUpdate]

/-- Every handler but two checks its response in the end. One case for each message. -/
theorem isoDispatch_checked (isTlsConnection : Bool) {body : IsoBody} {msg : V2gMsgTypeId}
    (hMsg : body.msg = some msg) (hPlain : isAnsweredAsChecked msg = true)
    (hCertificate : ctx.certInstallRes = none) :
    ∃ inner code, Checked around msg ctx inner code
      (ctx.isoDispatch around isTlsConnection body) := by
  cases body with
  | currentDemand voltage current =>
      cases hMsg
      have hPrepared := (isCharging_prepared ctx .currentDemand true
        (ctx.lastV2gMsg = .powerDelivery)).of_sameCourse (publishTargets_sameCourse voltage current _)
      exact ⟨_, _, isoConclude_checked around ctx hPrepared⟩
  | sessionSetup evccid =>
      cases hMsg
      exact ⟨_, _, isoConclude_checked around ctx (ensureSessionId_prepared ctx _)⟩
  | serviceDiscovery =>
      cases hMsg
      exact ⟨_, _, isoConclude_checked around ctx (withholdContract_prepared isTlsConnection)⟩
  | paymentServiceSelection option services =>
      cases hMsg
      cases option with
      | contract => exact ⟨_, _, isoConclude_checked around ctx (withMsg_prepared ctx _)⟩
      | externalPayment =>
          let inner := ctx.withMsg .paymentServiceSelection
          exact ⟨inner, inner.isoSelectionCode .externalPayment services,
            ⟨withMsg_prepared ctx _, ⟨rfl, rfl, rfl⟩⟩, rfl, rfl⟩
  | paymentDetails check =>
      cases hMsg
      exact ⟨_, _, isoConclude_checked around ctx (checkContract_prepared _ check)⟩
  | chargeParameterDiscovery requestedMode acParameterIsUsed dcParameterIsUsed =>
      cases hMsg
      refine ⟨_, _, isoConclude_checked around ctx ?_⟩
      exact ⟨⟨rfl, rfl, rfl, rfl, rfl⟩, rfl, rfl, Or.inr ⟨rfl, rfl⟩⟩
  | certificateInstallation =>
      cases hMsg
      obtain ⟨inner, code, hChecked⟩ := handleIsoCertificateInstallation_checked around
        (ctx.withMsg .certificateInstallation) hCertificate
      refine ⟨inner, code, ⟨?_, hChecked.watch⟩, hChecked.responseCode, hChecked.event⟩
      exact hChecked.prepared.of_withMsg
  | preCharge voltage current =>
      cases hMsg
      have hPrepared := (withMsg_prepared ctx .preCharge).of_sameCourse
        (publishTargets_sameCourse voltage current _)
      exact ⟨_, _, isoConclude_checked around ctx hPrepared⟩
  | powerDelivery progress tupleId => cases hMsg; cases hPlain
  | sessionStop chargingSession => cases hMsg; cases hPlain
  | certificateUpdate => cases hMsg; cases hPlain
  | notFound => cases hMsg
  | _ =>
      cases hMsg
      exact ⟨_, _, isoConclude_checked around ctx (withMsg_prepared ctx _)⟩

/-- A progress that does not fit the phase of the session: the car is ready once more
after the charge loop, or asks for a renegotiation outside of it. -/
def comesAtWrongTime (progress : ChargeProgress) : Bool :=
  match progress with
  | .start => ctx.afterChargeLoop
  | .renegotiate => !ctx.afterChargeLoop
  | .stop => false
  | .other => true

/-- The context that the check of a power delivery sees. -/
def duringDelivery (progress : ChargeProgress) (tupleId : ℕ) : V2gContext :=
  let inner := (ctx.applyProgress progress around.meanwhile).1
  if tupleId ∈ inner.saScheduleTupleIds then { inner with saScheduleTupleId := tupleId } else inner

/-- The code that the check of a power delivery is given. -/
def deliveryCode (progress : ChargeProgress) (tupleId : ℕ) : ResponseCode :=
  let applied := ctx.applyProgress progress around.meanwhile
  applied.1.isoPowerDeliveryCode progress tupleId applied.2.1

/-- What a power delivery does before its check. -/
theorem duringDelivery_prepared (progress : ChargeProgress) (tupleId : ℕ) :
    Prepared ctx.currentV2gMsg ctx (ctx.duringDelivery around progress tupleId) := by
  have hPrepared := applyProgress_prepared ctx progress around.meanwhile
  unfold duringDelivery
  dsimp only
  split
  · exact hPrepared.of_sameCourse
      ⟨⟨rfl, rfl, rfl, rfl, rfl⟩, rfl, rfl, rfl, rfl, rfl, rfl, rfl, rfl⟩
  · exact hPrepared

/-- The last message is not touched before the check. -/
theorem duringDelivery_lastV2gMsg (progress : ChargeProgress) (tupleId : ℕ) :
    (ctx.duringDelivery around progress tupleId).lastV2gMsg = ctx.lastV2gMsg := by
  obtain ⟨flagged, hCtx, -, hLast⟩ := applyProgress_ctx ctx progress around.meanwhile
  have hKept := (commands_sameCourse flagged around.meanwhile).lastV2gMsg.trans hLast
  rw [← hCtx] at hKept
  unfold duringDelivery
  dsimp only
  split <;> exact hKept

/-- A renegotiation keeps what the checks look at. -/
theorem resetForRenegotiation_watch : SameWatch ctx ctx.resetForRenegotiation := by
  unfold resetForRenegotiation
  dsimp only
  split <;> exact ⟨rfl, rfl, rfl⟩

/-- The response of a power delivery before its check. -/
def deliveryResponse (progress : ChargeProgress) (tupleId : ℕ) : Response :=
  let inner := (ctx.applyProgress progress around.meanwhile).1
  { responseCode := ctx.deliveryCode around progress tupleId
    dcEvseStatus := if inner.isDcCharger then inner.evseStatus .charge else {} }

/-- The handler in two parts, before and after its check. -/
theorem handleIsoPowerDelivery_eq (progress : ChargeProgress) (tupleId : ℕ) :
    ctx.handleIsoPowerDelivery around progress tupleId =
      let inner := ctx.duringDelivery around progress tupleId
      let conclude (next : ℕ) := inner.isoConclude around
        (ctx.deliveryResponse around progress tupleId) next
        (ctx.applyProgress progress around.meanwhile).2.2
      if progress = .renegotiate ∧ inner.afterChargeLoop then
        let handling := conclude IsoDcStateId.waitForChargeParameterDiscovery.id
        { handling with ctx := handling.ctx.resetForRenegotiation }
      else if progress = .start ∧ ¬ inner.afterChargeLoop then
        conclude (if inner.isDcCharger then IsoDcStateId.waitForCurrentDemand.id
          else IsoAcStateId.waitForChargingStatus.id)
      else
        let handling := conclude
          (if inner.isDcCharger then IsoDcStateId.waitForWeldingDetectionSessionStop.id
            else IsoAcStateId.waitForSessionStop.id)
        if progress ≠ .stop then
          { handling with response := { handling.response with responseCode := .failed } }
        else handling := rfl

/-- The event of a power delivery is what the check says. The code is replaced
afterwards where the progress comes at the wrong time. -/
theorem handleIsoPowerDelivery_checked (progress : ChargeProgress) (tupleId : ℕ) :
    let inner := ctx.duringDelivery around progress tupleId
    let handling := ctx.handleIsoPowerDelivery around progress tupleId
    let verdict := inner.isoValidate around (ctx.deliveryCode around progress tupleId)
    CheckedIn ctx.currentV2gMsg ctx inner handling ∧ handling.event = verdict.2 ∧
      handling.response.responseCode =
        (if ctx.comesAtWrongTime progress then .failed else verdict.1) ∧
      handling.published = (ctx.applyProgress progress around.meanwhile).2.2 := by
  intro inner handling verdict
  have hPrepared : Prepared ctx.currentV2gMsg ctx inner :=
    duringDelivery_prepared around ctx progress tupleId
  have hLoop : inner.afterChargeLoop = ctx.afterChargeLoop := by
    unfold afterChargeLoop
    rw [duringDelivery_lastV2gMsg around ctx progress tupleId]
  have hHandling : handling = _ := handleIsoPowerDelivery_eq around ctx progress tupleId
  clear_value handling
  dsimp only at hHandling
  rw [hLoop] at hHandling
  split at hHandling
  · next hRenegotiate =>
      have hTime : ctx.comesAtWrongTime progress = false := by
        rw [hRenegotiate.1, comesAtWrongTime, hRenegotiate.2]
        rfl
      rw [hTime, hHandling]
      refine ⟨⟨hPrepared, SameWatch.trans ?_ (resetForRenegotiation_watch _)⟩, rfl, rfl, rfl⟩
      exact ⟨rfl, rfl, rfl⟩
  · next hOther =>
      split at hHandling
      · next hStart =>
          have hTime : ctx.comesAtWrongTime progress = false := by
            rw [hStart.1, comesAtWrongTime]
            exact Bool.eq_false_iff.mpr hStart.2
          rw [hTime, hHandling]
          exact ⟨⟨hPrepared, ⟨rfl, rfl, rfl⟩⟩, rfl, rfl, rfl⟩
      · next hNoStart =>
          split at hHandling
          · next hStop =>
              have hTime : ctx.comesAtWrongTime progress = true := by
                cases progress with
                | start => exact not_not.mp fun h => hNoStart ⟨rfl, h⟩
                | renegotiate => simpa [comesAtWrongTime] using hOther
                | stop => exact absurd rfl hStop
                | other => rfl
              rw [hTime, hHandling]
              exact ⟨⟨hPrepared, ⟨rfl, rfl, rfl⟩⟩, rfl, rfl, rfl⟩
          · next hStop =>
              have hTime : ctx.comesAtWrongTime progress = false := by
                rw [not_not.mp hStop]
                rfl
              rw [hTime, hHandling]
              exact ⟨⟨hPrepared, ⟨rfl, rfl, rfl⟩⟩, rfl, rfl, rfl⟩

/-- A session stop is checked like any other request. Its event is always the same, and
a pause is refused afterwards. -/
theorem handleIsoSessionStop_checked (chargingSession : ChargingSession) :
    let handling := ctx.handleIsoSessionStop around chargingSession
    let verdict := ctx.isoValidate around .ok
    SameWatch ctx handling.ctx ∧ handling.event = .sendAndTerminate ∧
      handling.response.responseCode =
        (if chargingSession = .pause then .failed else verdict.1) := by
  refine ⟨⟨rfl, rfl, rfl⟩, rfl, ?_⟩
  unfold handleIsoSessionStop
  dsimp only
  split <;> rfl

end V2gContext

/-- The table of the states of one kind of charging. -/
def isoStates (isDcCharger : Bool) : List (List V2gMsgTypeId) :=
  if isDcCharger then isoDcStates else isoAcStates

/-- What a request has to meet for a good answer: its type is allowed in the state in
which it arrived, it carries the id of the session, and nothing stops the session. -/
structure IsoRequest.Fits (request : IsoRequest) (before after : V2gContext) (msg : V2gMsgTypeId) :
    Prop where
  allowed : msg ∈ ((isoStates after.isDcCharger)[before.state]?).getD []
  session : msg = .sessionSetup ∨ before.sessionId = v2gSessionIdFromExi request.sessionId
  undisturbed : after.stopHlc = false ∧ after.intlEmergencyShutdown = false

instance (request : IsoRequest) (before after : V2gContext) (msg : V2gMsgTypeId) :
    Decidable (request.Fits before after msg) :=
  decidable_of_iff
    ((msg ∈ ((isoStates after.isDcCharger)[before.state]?).getD []) ∧
      (msg = .sessionSetup ∨ before.sessionId = v2gSessionIdFromExi request.sessionId) ∧
      (after.stopHlc = false ∧ after.intlEmergencyShutdown = false))
    ⟨fun h => ⟨h.1, h.2.1, h.2.2⟩, fun h => ⟨h.allowed, h.session, h.undisturbed⟩⟩

/-- A response is sent with this event. -/
def V2gEvent.isAnswer : V2gEvent → Bool
  | .noEvent | .sendAndTerminate | .sendRecvExiMsg => true
  | .terminateConnection | .ignoreMsg => false

namespace V2gContext

variable {around : Surroundings} {ctx : V2gContext}

/-- A good code that the check has let pass on an open connection. -/
theorem Admits.of_isoValidate {code : ResponseCode} (hOpen : ctx.isConnectionTerminated = false)
    (hGood : (ctx.isoValidate around code).1.isFailed = false) :
    ctx.Admits (isoValidateState around.beyond ctx.state ctx.currentV2gMsg ctx.isDcCharger) := by
  unfold isoValidate validateResponseCode at hGood
  rw [hOpen] at hGood
  exact admits_of_checkedCode hGood

/-- What the check has let pass fits, if the state is one of its table. -/
theorem CheckedIn.fits {request : IsoRequest} {msg : V2gMsgTypeId} {inner : V2gContext}
    {handling : Handling} {code : ResponseCode}
    (h : CheckedIn msg { ctx with receivedSessionId := v2gSessionIdFromExi request.sessionId } inner
      handling)
    (hOpen : ctx.isConnectionTerminated = false)
    (hState : ctx.state < (isoStates handling.ctx.isDcCharger).length)
    (hGood : (inner.isoValidate around code).1.isFailed = false) :
    request.Fits ctx handling.ctx msg := by
  have hAdmits := Admits.of_isoValidate (h.prepared.terms.isConnectionTerminated.trans hOpen) hGood
  constructor
  · have hExpected := hAdmits.expected
    rw [h.prepared.state, h.prepared.currentV2gMsg, ← h.watch.isDcCharger] at hExpected
    unfold isoValidateState at hExpected
    unfold isoStates at hState ⊢
    rw [List.getElem?_eq_getElem hState] at hExpected ⊢
    exact List.contains_iff_mem.mp hExpected
  · rcases h.prepared.session with hSetup | ⟨hId, hReceived⟩
    · exact Or.inl hSetup
    · rcases hAdmits.session with hSetup | hSame
      · exact Or.inl (h.prepared.currentV2gMsg.symm.trans hSetup)
      · exact Or.inr (hId.symm.trans (hSame.trans hReceived))
  · rw [h.watch.stopHlc, h.watch.intlEmergencyShutdown]
    exact hAdmits.undisturbed

/-- A good answer to a request other than a certificate update has passed the check. -/
theorem isoDispatch_fits {request : IsoRequest} {isTlsConnection : Bool} {msg : V2gMsgTypeId}
    {handling : Handling} (hOpen : ctx.isConnectionTerminated = false)
    (hCertificate : ctx.certInstallRes = none) (hMsg : request.body.msg = some msg)
    (hUpdate : msg ≠ .certificateUpdate)
    (hHandling : handling = { ctx with
      receivedSessionId := v2gSessionIdFromExi request.sessionId }.isoDispatch around
        isTlsConnection request.body)
    (hState : ctx.state < (isoStates handling.ctx.isDcCharger).length)
    (hGood : handling.response.responseCode.isFailed = false) :
    request.Fits ctx handling.ctx msg := by
  let received := { ctx with receivedSessionId := v2gSessionIdFromExi request.sessionId }
  cases hPlain : isAnsweredAsChecked msg with
  | true =>
      obtain ⟨inner, code, hChecked⟩ :=
        isoDispatch_checked around received isTlsConnection hMsg hPlain hCertificate
      rw [hHandling] at hGood hState ⊢
      rw [hChecked.responseCode] at hGood
      exact hChecked.toCheckedIn.fits hOpen hState hGood
  | false =>
      generalize request.body = body at hMsg hHandling
      cases body with
      | powerDelivery progress tupleId =>
          cases hMsg
          obtain ⟨hChecked, -, hCode, -⟩ := handleIsoPowerDelivery_checked around
            (received.withMsg .powerDelivery) progress tupleId
          subst hHandling
          have hWhole : CheckedIn .powerDelivery received _ _ :=
            ⟨hChecked.prepared.of_withMsg, hChecked.watch⟩
          rw [isoDispatch, hCode] at hGood
          split at hGood
          · cases hGood
          · exact hWhole.fits hOpen hState hGood
      | sessionStop chargingSession =>
          cases hMsg
          obtain ⟨hWatch, -, hCode⟩ := handleIsoSessionStop_checked around
            (received.withMsg .sessionStop) chargingSession
          subst hHandling
          have hWhole : CheckedIn .sessionStop received _ _ := ⟨withMsg_prepared received _, hWatch⟩
          rw [isoDispatch, hCode] at hGood
          split at hGood
          · cases hGood
          · exact hWhole.fits hOpen hState hGood
      | certificateUpdate =>
          cases hMsg
          exact absurd rfl hUpdate
      | notFound => cases hMsg
      | _ =>
          cases hMsg
          cases hPlain

end V2gContext

/-- Every good answer of the ISO server goes to a request that fits. -/
def Entry.answersInOrder : Entry → Prop
  | .exchanged ⟨.iso request, _, before, handling⟩ =>
      ∀ msg ∈ request.body.msg, handling.event.isAnswer = true →
        handling.response.responseCode.isFailed = false → request.Fits before handling.ctx msg
  | _ => True

instance (entry : Entry) : Decidable entry.answersInOrder :=
  match entry with
  | .exchanged ⟨.iso _, _, _, _⟩ => inferInstanceAs (Decidable (∀ msg ∈ _, _ → _ → _))
  | .exchanged ⟨.din _, _, _, _⟩ | .connected | .refused _ | .commanded _ | .closed _ _ =>
      inferInstanceAs (Decidable True)

/-- The state in which a request arrived is one of the table that is looked at. -/
def Entry.findsState : Entry → Prop
  | .exchanged ⟨.iso _, _, before, handling⟩ =>
      before.state < (isoStates handling.ctx.isDcCharger).length
  | _ => True

/-- A certificate update fits. -/
def Entry.updatesInOrder : Entry → Prop
  | .exchanged ⟨.iso request, _, before, handling⟩ =>
      request.v2gMessageIsUsed = true → request.body = .certificateUpdate →
        request.Fits before handling.ctx .certificateUpdate
  | _ => True

/-- There is one body with this message. -/
theorem IsoBody.eq_certificateUpdate {body : IsoBody} (h : body.msg = some .certificateUpdate) :
    body = .certificateUpdate := by
  cases body with
  | certificateUpdate => rfl
  | _ => cases h

/-- A request out of order is answered with a sequence error, unless its handler is the one that
does not check. -/
theorem isoHandleRequest_answersInOrder {around : Surroundings} {isTlsConnection : Bool}
    {request : IsoRequest} {ctx : V2gContext} (hOpen : ctx.isConnectionTerminated = false)
    (hCertificate : ctx.certInstallRes = none) {entry : Entry}
    (hEntry : entry = .exchanged ⟨.iso request, around, ctx,
      isoHandleRequest around isTlsConnection request ctx⟩) (hState : entry.findsState) :
    entry.answersInOrder ↔ entry.updatesInOrder := by
  subst hEntry
  cases hUsed : request.v2gMessageIsUsed with
  | false =>
      apply iff_of_true
      · intro msg hMsg hAnswer
        rw [isoHandleRequest_unused around isTlsConnection ctx hUsed] at hAnswer
        cases hAnswer
      · intro hUse
        rw [hUsed] at hUse
        cases hUse
  | true =>
      unfold Entry.findsState at hState
      unfold Entry.answersInOrder Entry.updatesInOrder
      rw [isoHandleRequest_used around isTlsConnection ctx hUsed] at hState ⊢
      dsimp only at hState ⊢
      rw [Handling.noteLastMsg_ctx] at hState ⊢
      rw [Handling.noteLastMsg_event, Handling.noteLastMsg_response]
      constructor
      · intro hAnswers _ hBody
        have hFits := hAnswers .certificateUpdate (by rw [hBody]; rfl)
        rw [hBody] at hFits ⊢
        exact hFits rfl rfl
      · intro hUpdates msg hMsg hAnswer hGood
        by_cases hUpdate : msg = .certificateUpdate
        · subst hUpdate
          exact hUpdates hUsed (IsoBody.eq_certificateUpdate hMsg)
        · have hFits := V2gContext.isoDispatch_fits hOpen hCertificate hMsg hUpdate rfl hState hGood
          exact ⟨hFits.allowed, hFits.session, hFits.undisturbed⟩

/-- In every run, the requests that find their state in the table are answered in
order exactly if they are not certificate updates out of order: these are the only
requests that no handler checks. -/
theorem Server.answersInOrder_iff (config : Config) (inputs : List Input) :
    EachAfter (fun _ entry => entry.findsState → (entry.answersInOrder ↔ entry.updatesInOrder))
      (run step (start config) inputs).history := by
  refine run_eachExchange config inputs ?_ ?_
  · intro request around isTlsConnection before hOpen hCertificate _
    cases request with
    | din request => exact fun _ => iff_of_true trivial trivial
    | iso request => exact isoHandleRequest_answersInOrder hOpen hCertificate rfl
  · intro entry hOther
    cases entry with
    | exchanged exchange => exact absurd rfl (hOther exchange)
    | _ => exact fun _ => iff_of_true trivial trivial

/-- The car begins with a certificate update, and gets the answer OK. -/
theorem Server.answers_certificateUpdate_out_of_order :
    ¬ EachAfter (fun _ entry => entry.answersInOrder)
      (run step (start strictConfig)
        (openConnection .iso15118_2013 ++ [isoInput .certificateUpdate])).history := by
  decide

end EverestCore.V2G
