import EverestCore.V2G.IsoChecks

/-! What follows from a failed response. Where it is to end the connection, the event
that does so is computed by the check, and a code that is set later comes too late.
Where it is not, the session goes on in the state that the message leads to. -/
namespace EverestCore.V2G
open Machine

namespace V2gContext

/-- The car may deliver power for all that the server looks at before the check and in
it: the schedule, the status of a DC charger, and the contactor of an AC charger. -/
structure AcceptsDelivery (around : Surroundings) (progress : ChargeProgress) (tupleId : ℕ)
    (ctx : V2gContext) : Prop where
  admits : (ctx.duringDelivery around progress tupleId).Admits
    (isoValidateState around.beyond ctx.state ctx.currentV2gMsg
      (ctx.duringDelivery around progress tupleId).isDcCharger)
  schedule : tupleId ∈ (ctx.applyProgress progress around.meanwhile).1.saScheduleTupleIds
  ready : (ctx.applyProgress progress around.meanwhile).1.isDcCharger = true → progress = .start →
    (ctx.applyProgress progress around.meanwhile).1.evseStatusCode .charge = .ready
  applied : (ctx.applyProgress progress around.meanwhile).2.1 = .ok

theorem applyProgress_code (ctx : V2gContext) (progress : ChargeProgress)
    (meanwhile : List EvseCommand) :
    (ctx.applyProgress progress meanwhile).2.1 = .ok ∨
      (ctx.applyProgress progress meanwhile).2.1.isFailed = true := by
  cases progress with
  | start =>
      by_cases hReady : (ctx.isDcCharger || ctx.contactorIsClosed) = true
      · rw [applyProgress, if_pos hReady]
        exact Or.inl rfl
      · rw [applyProgress, if_neg hReady]
        dsimp only
        split
        · exact Or.inr rfl
        · exact Or.inl rfl
  | stop => exact Or.inl rfl
  | renegotiate => exact Or.inl rfl
  | other => exact Or.inr rfl

theorem isoPowerDeliveryCode_isFailed_eq_false {ctx : V2gContext} {progress : ChargeProgress}
    {tupleId : ℕ} {code : ResponseCode} :
    (ctx.isoPowerDeliveryCode progress tupleId code).isFailed = false ↔
      tupleId ∈ ctx.saScheduleTupleIds ∧
        (ctx.isDcCharger = true → progress = .start → ctx.evseStatusCode .charge = .ready) ∧
        code.isFailed = false := by
  unfold isoPowerDeliveryCode
  dsimp only
  by_cases hSchedule : tupleId ∈ ctx.saScheduleTupleIds
  · rw [if_pos hSchedule]
    split
    · next hRefused =>
        apply iff_of_false
        · decide
        · rintro ⟨-, hReady, -⟩
          exact hRefused.2.2 (hReady hRefused.1 hRefused.2.1)
    · next hPassed =>
        refine ⟨fun hCode => ⟨hSchedule, ?_, hCode⟩, fun h => h.2.2⟩
        intro hDc hStart
        by_contra hStatus
        exact hPassed ⟨hDc, hStart, hStatus⟩
  · rw [if_neg hSchedule]
    exact iff_of_false (by decide) fun h => hSchedule h.1

/-- The check lets a code pass that was good, of a message that is admitted. -/
theorem checkedCode_isFailed_eq_false {ctx : V2gContext} {expected : Bool} {code : ResponseCode} :
    (ctx.checkedCode expected code).isFailed = false ↔
      ctx.Admits expected ∧ code.isFailed = false := by
  constructor
  · intro h
    have hAdmits := admits_of_checkedCode h
    rw [checkedCode_of_admits hAdmits] at h
    exact ⟨hAdmits, h⟩
  · rintro ⟨hAdmits, hCode⟩
    rw [checkedCode_of_admits hAdmits]
    exact hCode

theorem validateResponseCode_final {ctx : V2gContext} (expected : Bool) (code : ResponseCode)
    (hTerminate : ctx.terminateConnectionOnFailedResponse = true) :
    (ctx.validateResponseCode expected code).2.isFinal = true ↔
      ctx.isConnectionTerminated = true ∨ (ctx.checkedCode expected code).isFailed = true := by
  unfold validateResponseCode
  split
  · next hClosed => exact iff_of_true rfl (Or.inl hClosed)
  · next hOpen =>
      dsimp only
      rw [hTerminate, Bool.true_and]
      split
      · next hFailed => exact iff_of_true rfl (Or.inr hFailed)
      · next hGood => exact iff_of_false (by decide) (by simp [hOpen, hGood])

/-- Only a code that is not failed leaves the check without a final event. -/
theorem isoValidate_final {around : Surroundings} {ctx : V2gContext} {code : ResponseCode}
    (hTerminate : ctx.terminateConnectionOnFailedResponse = true)
    (hFailed : (ctx.isoValidate around code).1.isFailed = true) :
    (ctx.isoValidate around code).2.isFinal = true := by
  refine (validateResponseCode_final _ code hTerminate).mpr ?_
  unfold isoValidate validateResponseCode at hFailed
  split at hFailed
  · next hClosed => exact Or.inl hClosed
  · exact Or.inr hFailed

/-- On an open connection the event of a power delivery lets it go on exactly if
everything before the check was in order. -/
theorem handleIsoPowerDelivery_goesOn_iff {around : Surroundings} {ctx : V2gContext}
    {progress : ChargeProgress} {tupleId : ℕ} (hOpen : ctx.isConnectionTerminated = false)
    (hTerminate : ctx.terminateConnectionOnFailedResponse = true) :
    (ctx.handleIsoPowerDelivery around progress tupleId).event.isFinal = false ↔
      ctx.AcceptsDelivery around progress tupleId := by
  obtain ⟨hChecked, hEvent, -, -⟩ := handleIsoPowerDelivery_checked around ctx progress tupleId
  have hPrepared := hChecked.prepared
  have hFinal := validateResponseCode_final
    (isoValidateState around.beyond ctx.state ctx.currentV2gMsg
      (ctx.duringDelivery around progress tupleId).isDcCharger)
    (ctx.deliveryCode around progress tupleId) (hPrepared.terms.terminate.trans hTerminate)
  rw [hPrepared.terms.isConnectionTerminated.trans hOpen] at hFinal
  have hGoesOn : (ctx.handleIsoPowerDelivery around progress tupleId).event.isFinal = false ↔
      (ctx.duringDelivery around progress tupleId).Admits
        (isoValidateState around.beyond ctx.state ctx.currentV2gMsg
          (ctx.duringDelivery around progress tupleId).isDcCharger) ∧
      (ctx.deliveryCode around progress tupleId).isFailed = false := by
    rw [hEvent, isoValidate, hPrepared.state, hPrepared.currentV2gMsg, ← checkedCode_isFailed_eq_false,
      ← Bool.not_eq_true, hFinal, ← Bool.not_eq_true]
    simp
  rw [hGoesOn]
  unfold deliveryCode
  rw [isoPowerDeliveryCode_isFailed_eq_false]
  constructor
  · rintro ⟨hAdmits, hSchedule, hReady, hCode⟩
    refine ⟨hAdmits, hSchedule, hReady, ?_⟩
    exact (applyProgress_code ctx progress around.meanwhile).resolve_right (by rw [hCode]; decide)
  · intro h
    refine ⟨h.admits, h.schedule, h.ready, ?_⟩
    rw [h.applied]
    rfl

/-- A failed code of the ISO server comes with a final event, unless a power delivery
comes at the wrong time and is in order for everything else. -/
theorem isoDispatch_failed_final_iff (around : Surroundings) (ctx : V2gContext)
    (isTlsConnection : Bool) (body : IsoBody) (hOpen : ctx.isConnectionTerminated = false)
    (hCertificate : ctx.certInstallRes = none)
    (hTerminate : ctx.terminateConnectionOnFailedResponse = true) :
    ((ctx.isoDispatch around isTlsConnection body).response.responseCode.isFailed = true →
        (ctx.isoDispatch around isTlsConnection body).event.isFinal = true) ↔
      ∀ progress tupleId, body = .powerDelivery progress tupleId →
        ctx.comesAtWrongTime progress = true →
        ¬ (ctx.withMsg .powerDelivery).AcceptsDelivery around progress tupleId := by
  cases hMsg : body.msg with
  | none =>
      cases body with
      | notFound => exact iff_of_true (fun h => by cases h) (fun _ _ h => by cases h)
      | _ => cases hMsg
  | some msg =>
      cases hPlain : isAnsweredAsChecked msg with
      | true =>
          obtain ⟨inner, code, hChecked⟩ :=
            isoDispatch_checked around ctx isTlsConnection hMsg hPlain hCertificate
          apply iff_of_true
          · rw [hChecked.responseCode, hChecked.event]
            exact isoValidate_final (hChecked.prepared.terms.terminate.trans hTerminate)
          · rintro progress tupleId rfl
            cases hMsg
            cases hPlain
      | false =>
          cases body with
          | powerDelivery progress tupleId =>
              obtain ⟨hChecked, hEvent, hCode, -⟩ := handleIsoPowerDelivery_checked around
                (ctx.withMsg .powerDelivery) progress tupleId
              have hGoesOn : ((ctx.withMsg .powerDelivery).handleIsoPowerDelivery around progress
                  tupleId).event.isFinal = false ↔ _ :=
                handleIsoPowerDelivery_goesOn_iff hOpen hTerminate
              rw [isoDispatch]
              cases hTime : ctx.comesAtWrongTime progress with
              | true =>
                  have hLate : (ctx.withMsg .powerDelivery).comesAtWrongTime progress = true := hTime
                  rw [hCode, if_pos hLate]
                  constructor
                  · rintro hFinal _ _ ⟨⟩ _ hAccepts
                    rw [hGoesOn.mpr hAccepts] at hFinal
                    cases hFinal rfl
                  · intro hNever _
                    rw [← Bool.not_eq_false, hGoesOn]
                    exact hNever progress tupleId rfl hTime
              | false =>
                  have hInTime : ¬ (ctx.withMsg .powerDelivery).comesAtWrongTime progress = true :=
                    Bool.eq_false_iff.mp hTime
                  apply iff_of_true
                  · rw [hCode, if_neg hInTime, hEvent]
                    exact isoValidate_final (hChecked.prepared.terms.terminate.trans hTerminate)
                  · rintro _ _ ⟨⟩ hLate
                    rw [hTime] at hLate
                    cases hLate
          | sessionStop chargingSession =>
              exact iff_of_true (fun _ => rfl) (fun _ _ h => by cases h)
          | certificateUpdate => exact iff_of_true (fun h => by cases h) (fun _ _ h => by cases h)
          | notFound => cases hMsg
          | _ =>
              cases hMsg
              cases hPlain

theorem dinDispatch_ignored_code {around : Surroundings} {ctx : V2gContext} {body : DinBody}
    (hMsg : body.msg = none) : (ctx.dinDispatch around body).response.responseCode = .ok := by
  cases body with
  | paymentDetails => rfl
  | serviceDetail => rfl
  | chargingStatus => rfl
  | meteringReceipt => rfl
  | certificateUpdate => rfl
  | certificateInstallation => rfl
  | notFound => rfl
  | _ => cases hMsg

/-- A failed code of the DIN server always comes with a final event. -/
theorem dinDispatch_failed_final {around : Surroundings} {ctx : V2gContext} {body : DinBody}
    (hTerminate : ctx.terminateConnectionOnFailedResponse = true)
    (hFailed : (ctx.dinDispatch around body).response.responseCode.isFailed = true) :
    (ctx.dinDispatch around body).event.isFinal = true := by
  cases hMsg : body.msg with
  | none =>
      rw [dinDispatch_ignored_code hMsg] at hFailed
      cases hFailed
  | some msg =>
      refine (dinDispatch_final around hMsg).resolve_left ?_
      intro hEvent
      obtain ⟨hAccepted, hCode⟩ := dinDispatch_accepted around hMsg hTerminate hEvent
      rw [hCode, hAccepted.code] at hFailed
      cases hFailed

end V2gContext

/-- A power delivery of an ISO session at the wrong time, with which everything else is in
order. -/
def V2gRequest.isRefusedTooLate (around : Surroundings) (ctx : V2gContext) : V2gRequest → Prop
  | .din _ => False
  | .iso request =>
      request.v2gMessageIsUsed = true ∧ ∃ progress tupleId,
        request.body = .powerDelivery progress tupleId ∧ ctx.comesAtWrongTime progress = true ∧
        ({ ctx with receivedSessionId := v2gSessionIdFromExi request.sessionId }.withMsg
          .powerDelivery).AcceptsDelivery around progress tupleId

/-- Where a failed response ends the connection, a failed code comes with a final event
exactly if the request is not refused too late. -/
theorem V2gRequest.handle_failed_final_iff (request : V2gRequest) (around : Surroundings)
    (isTlsConnection : Bool) {ctx : V2gContext} (hOpen : ctx.isConnectionTerminated = false)
    (hCertificate : ctx.certInstallRes = none)
    (hTerminate : ctx.terminateConnectionOnFailedResponse = true) :
    ((request.handle isTlsConnection around ctx).response.responseCode.isFailed = true →
        (request.handle isTlsConnection around ctx).event.isFinal = true) ↔
      ¬ request.isRefusedTooLate around ctx := by
  cases request with
  | din request =>
      refine iff_of_true ?_ not_false
      cases hUsed : request.v2gMessageIsUsed with
      | false =>
          rw [handle, dinHandleRequest, hUsed]
          intro hFailed
          cases hFailed
      | true =>
          rw [handle, dinHandleRequest_used hUsed, Handling.noteLastMsg_event,
            Handling.noteLastMsg_response]
          exact V2gContext.dinDispatch_failed_final hTerminate
  | iso request =>
      cases hUsed : request.v2gMessageIsUsed with
      | false =>
          rw [handle, isoHandleRequest_unused around isTlsConnection ctx hUsed]
          apply iff_of_true
          · intro hFailed
            cases hFailed
          · rintro ⟨hUse, -⟩
            rw [hUsed] at hUse
            cases hUse
      | true =>
          rw [handle, isoHandleRequest_used around isTlsConnection ctx hUsed,
            Handling.noteLastMsg_event, Handling.noteLastMsg_response]
          refine (V2gContext.isoDispatch_failed_final_iff around { ctx with
            receivedSessionId := v2gSessionIdFromExi request.sessionId } isTlsConnection request.body
            hOpen hCertificate hTerminate).trans ?_
          constructor
          · rintro hNever ⟨-, progress, tupleId, hBody, hTime, hAccepts⟩
            exact hNever progress tupleId hBody hTime hAccepts
          · intro hNever progress tupleId hBody hTime hAccepts
            exact hNever ⟨hUsed, progress, tupleId, hBody, hTime, hAccepts⟩

namespace Server

/-- In every reachable state of a server that ends the connection on failed responses:
a failed response ends it, and the message loop is left, exactly if the request is not
refused too late. -/
theorem failed_response_ends_connection_iff (config : Config)
    (hTerminate : config.terminateConnectionOnFailedResponse = true) (inputs : List Input)
    (request : V2gRequest) (around : Surroundings) (delivered : Bool) {s : Server}
    (hRun : s = run step (start config) inputs) (hStage : s.stage = .serving request.protocol) :
    ((request.handle s.isTlsConnection around s.ctx).response.responseCode.isFailed = true →
        (request.handle s.isTlsConnection around s.ctx).event.isFinal = true ∧
          (s.step (.receive (.request request around delivered))).stage = .idle) ↔
      ¬ request.isRefusedTooLate around s.ctx := by
  subst hRun
  have hTerms := run_onTerms config inputs
  rw [← request.handle_failed_final_iff around _ (hTerms.connected (ne_idle_of_serving hStage))
    hTerms.certInstallRes (hTerms.terminate.trans hTerminate)]
  constructor
  · exact fun h hFailed => (h hFailed).1
  · intro h hFailed
    have hFinal := h hFailed
    refine ⟨hFinal, ?_⟩
    rw [step, hStage]
    dsimp only
    rw [receive, if_pos rfl, exchange, goesOn_eq_false hFinal]
    rfl

/-- The first request of a car, out of order. -/
theorem failed_response_ends_connection_first_request :
    let request : V2gRequest := .din { sessionId := ⟨[], 0⟩, body := .sessionStop }
    let s := run step (start strictConfig) (openConnection .din70121)
    (request.handle s.isTlsConnection {} s.ctx).response.responseCode.isFailed = true ∧
      ¬ request.isRefusedTooLate {} s.ctx ∧
      (s.step (.receive (.request request {} true))).stage = .idle := by
  intro request s
  have hFailed : (request.handle s.isTlsConnection {} s.ctx).response.responseCode.isFailed =
      true := by
    decide
  have hStage : s.stage = .serving .din70121 := by decide
  have hIff := failed_response_ends_connection_iff strictConfig rfl (openConnection .din70121)
    request {} true rfl hStage
  exact ⟨hFailed, not_false, (hIff.mpr not_false hFailed).2⟩

/-- A session of ISO 15118-2 from its beginning into the current demand phase. -/
def isoSession : List Input :=
  .command (.setSupportedEnergyTransferMode [.dcExtended]) :: openConnection .iso15118_2013 ++
    [isoInput (.sessionSetup []), isoInput .serviceDiscovery,
      isoInput (.paymentServiceSelection .externalPayment [1]), .command (.setAuthOkayEIM true),
      isoInput (.authorization {}), isoInput (.chargeParameterDiscovery .dcExtended false true),
      .command (.setEVSEIsolationStatus .valid), .command (.cableCheckFinished true),
      isoInput .cableCheck, isoInput (.preCharge ⟨0, 400⟩ ⟨0, 2⟩), isoInput (.powerDelivery .start 1),
      isoInput (.currentDemand ⟨0, 400⟩ ⟨0, 20⟩)]

/-- The car is ready once more after a current demand, and the connection goes on after
the failed response. -/
theorem failed_response_keeps_connection :
    let request : V2gRequest :=
      .iso { sessionId := ⟨[1, 0, 0, 0, 0, 0, 0, 0], 8⟩, body := .powerDelivery .start 1 }
    let s := run step (start strictConfig) isoSession
    ¬ ((request.handle s.isTlsConnection {} s.ctx).response.responseCode.isFailed = true →
      (request.handle s.isTlsConnection {} s.ctx).event.isFinal = true ∧
        (s.step (.receive (.request request {} true))).stage = .idle) := by
  decide +kernel

end Server

namespace V2gContext

variable (around : Surroundings) (ctx : V2gContext)

/-- The state that an ISO request leads to, whatever its response code. -/
def isoNext : IsoBody → Option ℕ
  | .currentDemand _ _ =>
      some (if ctx.receiptRequired ∧ ctx.isoSelectedPaymentOption = .contract then
        IsoDcStateId.waitForMeteringReceipt.id
      else IsoDcStateId.waitForCurrentDemandPowerDelivery.id)
  | .sessionSetup _ => some IsoDcStateId.waitForServiceDiscovery.id
  | .serviceDiscovery | .serviceDetail _ => some IsoDcStateId.waitForSvcDetailPaymentSvcSel.id
  | .paymentServiceSelection .contract _ =>
      some IsoDcStateId.waitForPaymentDetailsCertInstCertUpd.id
  | .paymentServiceSelection .externalPayment _ | .paymentDetails _ =>
      some IsoDcStateId.waitForAuthorization.id
  | .authorization req =>
      some (if (ctx.contractError req).isSome ∨ ctx.evseProcessing .auth = .finished then
        IsoDcStateId.waitForChargeParameterDiscovery.id
      else IsoDcStateId.waitForAuthorization.id)
  | .chargeParameterDiscovery _ _ _ =>
      some (if ctx.evseProcessing .parameter = .finished then
        if ctx.isDcCharger then IsoDcStateId.waitForCableCheck.id
        else IsoAcStateId.waitForPowerDelivery.id
      else IsoDcStateId.waitForChargeParameterDiscovery.id)
  | .powerDelivery progress _ =>
      some (if progress = .renegotiate ∧ ctx.afterChargeLoop then
        IsoDcStateId.waitForChargeParameterDiscovery.id
      else if progress = .start ∧ ¬ ctx.afterChargeLoop then
        if (ctx.commands around.meanwhile).isDcCharger then IsoDcStateId.waitForCurrentDemand.id
        else IsoAcStateId.waitForChargingStatus.id
      else if (ctx.commands around.meanwhile).isDcCharger then
        IsoDcStateId.waitForWeldingDetectionSessionStop.id
      else IsoAcStateId.waitForSessionStop.id)
  | .chargingStatus =>
      some (if ctx.receiptRequired then IsoAcStateId.waitForMeteringReceipt.id
        else IsoAcStateId.waitForChargingStatusPowerDelivery.id)
  | .meteringReceipt =>
      some (if ctx.isDcCharger then IsoDcStateId.waitForCurrentDemandPowerDelivery.id
        else IsoAcStateId.waitForChargingStatusPowerDelivery.id)
  | .certificateInstallation => some IsoDcStateId.waitForPaymentDetails.id
  | .cableCheck =>
      some (if ctx.evseProcessing .isolation = .finished then IsoDcStateId.waitForPreCharge.id
        else IsoDcStateId.waitForCableCheck.id)
  | .preCharge _ _ => some IsoDcStateId.waitForPreChargePowerDelivery.id
  | .weldingDetection => some IsoDcStateId.waitForWeldingDetectionSessionStop.id
  | .sessionStop _ => some IsoDcStateId.waitForTerminatedSession.id
  | .certificateUpdate | .notFound => none

/-- Which kind of charging the commands leave depends on nothing else. -/
theorem commands_isDcCharger (first second : V2gContext)
    (h : first.isDcCharger = second.isDcCharger) (arriving : List EvseCommand) :
    (first.commands arriving).isDcCharger = (second.commands arriving).isDcCharger := by
  induction arriving generalizing first second with
  | nil => exact h
  | cons command rest ih =>
      refine ih (first.command command) (second.command command) ?_
      cases command with
      | setSupportedEnergyTransferMode modes => rfl
      | setAuthOkayEIM authOkay => cases authOkay <;> exact h
      | stopCharging stop => cases stop <;> exact h
      | setEVSEUtilityInterruptEvent event => cases event <;> exact h
      | setEVSEMalfunction malfunction => cases malfunction <;> exact h
      | _ => exact h

theorem applyProgress_isDcCharger (progress : ChargeProgress) (meanwhile : List EvseCommand) :
    (ctx.applyProgress progress meanwhile).1.isDcCharger =
      (ctx.commands meanwhile).isDcCharger := by
  cases progress with
  | start =>
      by_cases hReady : (ctx.isDcCharger || ctx.contactorIsClosed) = true
      · rw [applyProgress, if_pos hReady]
      · rw [applyProgress, if_neg hReady]
        exact commands_isDcCharger { ctx with isCharging := true } ctx rfl meanwhile
  | stop => exact commands_isDcCharger { ctx with isCharging := false } ctx rfl meanwhile
  | renegotiate =>
      exact commands_isDcCharger { ctx with renegotiationRequired := true } ctx rfl meanwhile
  | other => rfl

theorem duringDelivery_isDcCharger (progress : ChargeProgress) (tupleId : ℕ) :
    (ctx.duringDelivery around progress tupleId).isDcCharger =
      (ctx.commands around.meanwhile).isDcCharger := by
  rw [← applyProgress_isDcCharger ctx progress around.meanwhile]
  unfold duringDelivery
  dsimp only
  split <;> rfl

theorem handleIsoPowerDelivery_next (progress : ChargeProgress) (tupleId : ℕ) :
    some (ctx.handleIsoPowerDelivery around progress tupleId).ctx.state =
      ctx.isoNext around (.powerDelivery progress tupleId) := by
  have hLoop : (ctx.duringDelivery around progress tupleId).afterChargeLoop =
      ctx.afterChargeLoop := by
    unfold afterChargeLoop
    rw [duringDelivery_lastV2gMsg around ctx progress tupleId]
  rw [handleIsoPowerDelivery_eq, isoNext]
  dsimp only
  rw [hLoop, duringDelivery_isDcCharger]
  congr 1
  split
  · exact resetForRenegotiation_state _
  · split
    · rfl
    · split <;> rfl

theorem handleIsoCurrentDemand_state (voltage current : PhysicalValue) :
    (ctx.handleIsoCurrentDemand around voltage current).ctx.state =
      if ctx.receiptRequired ∧ ctx.isoSelectedPaymentOption = .contract then
        IsoDcStateId.waitForMeteringReceipt.id
      else IsoDcStateId.waitForCurrentDemandPowerDelivery.id := by
  have hReceipt : (ctx.publishTargets voltage current).1.receiptRequired = ctx.receiptRequired := by
    unfold publishTargets
    dsimp only
    split <;> rfl
  have hOption := (publishTargets_sameCourse voltage current ctx).terms.isoSelectedPaymentOption
  unfold handleIsoCurrentDemand
  dsimp only
  rw [hReceipt, hOption]
  rfl

/-- Every handler writes the next state of its message after the check, and without a
look at it. -/
theorem isoDispatch_next (isTlsConnection : Bool) {body : IsoBody} {next : ℕ}
    (hNext : ctx.isoNext around body = some next) :
    (ctx.isoDispatch around isTlsConnection body).ctx.state = next := by
  cases body with
  | currentDemand voltage current =>
      cases hNext
      rw [isoDispatch, Handling.after_ctx, handleIsoCurrentDemand_state]
      by_cases hStarts : ctx.lastV2gMsg = .powerDelivery
      · rw [if_pos hStarts]
        rfl
      · rw [if_neg hStarts]
        rfl
  | paymentServiceSelection option services =>
      cases option with
      | contract =>
          cases hNext
          rfl
      | externalPayment =>
          cases hNext
          rfl
  | authorization req =>
      cases hNext
      rw [isoDispatch, Handling.after_ctx, handleIsoAuthorization]
      have hSame : (ctx.withMsg .authorization).contractError req = ctx.contractError req := rfl
      rw [hSame]
      cases ctx.contractError req with
      | none =>
          by_cases hFinished : ctx.evseProcessing .auth = .finished
          · simp [withMsg, isoConclude, conclude, hFinished]
          · simp [withMsg, isoConclude, conclude, hFinished]
      | some code => rfl
  | powerDelivery progress tupleId =>
      have hState := handleIsoPowerDelivery_next around (ctx.withMsg .powerDelivery) progress tupleId
      have hSame : (ctx.withMsg .powerDelivery).isoNext around (.powerDelivery progress tupleId) =
          ctx.isoNext around (.powerDelivery progress tupleId) := by
        rw [isoNext, isoNext, commands_isDcCharger (ctx.withMsg .powerDelivery) ctx rfl]
        rfl
      rw [hSame, hNext] at hState
      exact Option.some.inj hState
  | certificateInstallation =>
      cases hNext
      rw [isoDispatch, handleIsoCertificateInstallation]
      dsimp only
      split
      · rfl
      · split <;> rfl
  | certificateUpdate => cases hNext
  | notFound => cases hNext
  | _ =>
      cases hNext
      rfl

end V2gContext

theorem isoNext_received (around : Surroundings) (ctx : V2gContext) (id : ℕ) (body : IsoBody) :
    { ctx with receivedSessionId := id }.isoNext around body = ctx.isoNext around body := by
  cases body with
  | powerDelivery progress tupleId =>
      rw [V2gContext.isoNext, V2gContext.isoNext,
        V2gContext.commands_isDcCharger { ctx with receivedSessionId := id } ctx rfl]
      rfl
  | paymentServiceSelection option services => cases option <;> rfl
  | _ => rfl

/-- The messages that lead nowhere are answered without an error, if at all. -/
theorem isoDispatch_of_isoNext_eq_none {around : Surroundings} {ctx : V2gContext}
    {isTlsConnection : Bool} {body : IsoBody} (hNext : ctx.isoNext around body = none) :
    (ctx.isoDispatch around isTlsConnection body).ctx.state = ctx.state ∧
      (ctx.isoDispatch around isTlsConnection body).response.responseCode = .ok := by
  cases body with
  | certificateUpdate => exact ⟨rfl, rfl⟩
  | notFound => exact ⟨rfl, rfl⟩
  | paymentServiceSelection option services => cases option <;> cases hNext
  | _ => cases hNext

namespace V2gRequest

/-- The state that a request leads to, if it leads anywhere. -/
def next (around : Surroundings) (ctx : V2gContext) : V2gRequest → Option ℕ
  | .din request =>
      if request.v2gMessageIsUsed then (ctx.dinNext request.body).map DinStateId.id else none
  | .iso request => if request.v2gMessageIsUsed then ctx.isoNext around request.body else none

/-- The next state takes no notice of whether the request comes in its order and in its
session, or of an abort by the user. -/
theorem next_ignores_checks (around : Surroundings) (ctx : V2gContext) (request : V2gRequest)
    (state sessionId : ℕ) (stopHlc : Bool) :
    request.next around { ctx with state := state, sessionId := sessionId, stopHlc := stopHlc } =
      request.next around ctx := by
  cases request with
  | din request =>
      have hSame : V2gContext.dinNext { ctx with
          state := state, sessionId := sessionId, stopHlc := stopHlc } request.body =
          ctx.dinNext request.body := by
        cases request.body <;> rfl
      rw [next, next, hSame]
  | iso request =>
      have hSame : V2gContext.isoNext around { ctx with
          state := state, sessionId := sessionId, stopHlc := stopHlc } request.body =
          ctx.isoNext around request.body := by
        cases request.body with
        | powerDelivery progress tupleId =>
            rw [V2gContext.isoNext, V2gContext.isoNext, V2gContext.commands_isDcCharger { ctx with
              state := state, sessionId := sessionId, stopHlc := stopHlc } ctx rfl]
            rfl
        | paymentServiceSelection option services => cases option <;> rfl
        | _ => rfl
      rw [next, next, hSame]

/-- A request with a failed code leads somewhere, and the session goes there. -/
theorem handle_failed_state (request : V2gRequest) (around : Surroundings) (isTlsConnection : Bool)
    (ctx : V2gContext)
    (hFailed : (request.handle isTlsConnection around ctx).response.responseCode.isFailed = true) :
    request.next around ctx = some (request.handle isTlsConnection around ctx).ctx.state := by
  cases request with
  | din request =>
      cases hUsed : request.v2gMessageIsUsed with
      | false =>
          rw [handle, dinHandleRequest, hUsed] at hFailed
          cases hFailed
      | true =>
          cases hMsg : request.body.msg with
          | none =>
              rw [handle, dinHandleRequest_used hUsed, Handling.noteLastMsg_response] at hFailed
              exact absurd hFailed (by rw [V2gContext.dinDispatch_ignored_code hMsg]; decide)
          | some msg =>
              obtain ⟨following, hNext, -⟩ := V2gContext.dinNext_of_msg ctx hMsg
              rw [next, hUsed, hNext, handle, dinHandleRequest_state around hUsed hNext]
              rfl
  | iso request =>
      cases hUsed : request.v2gMessageIsUsed with
      | false =>
          rw [handle, isoHandleRequest_unused around isTlsConnection ctx hUsed] at hFailed
          cases hFailed
      | true =>
          have hReceived := isoNext_received around ctx (v2gSessionIdFromExi request.sessionId)
            request.body
          rw [next, hUsed, handle, isoHandleRequest_used around isTlsConnection ctx hUsed,
            Handling.noteLastMsg_ctx, if_pos rfl, ← hReceived]
          rw [handle, isoHandleRequest_used around isTlsConnection ctx hUsed,
            Handling.noteLastMsg_response] at hFailed
          cases hNext : { ctx with receivedSessionId := v2gSessionIdFromExi request.sessionId
            }.isoNext around request.body with
          | none =>
              rw [(isoDispatch_of_isoNext_eq_none hNext).2] at hFailed
              cases hFailed
          | some following =>
              exact congrArg some (V2gContext.isoDispatch_next around _ isTlsConnection hNext).symm

end V2gRequest

namespace Server

/-- In every reachable state: a failed response ends the connection where it is
configured to, unless the request is refused too late. Where it is not, the session
goes on in the state that the message leads to, as after a response without an error. -/
theorem failed_request_course (config : Config) (inputs : List Input) (request : V2gRequest)
    (around : Surroundings) {s : Server} (hRun : s = run step (start config) inputs)
    (hStage : s.stage = .serving request.protocol)
    (hFailed : (request.handle s.isTlsConnection around s.ctx).response.responseCode.isFailed = true) :
    (config.terminateConnectionOnFailedResponse = true → ¬ request.isRefusedTooLate around s.ctx →
        (request.handle s.isTlsConnection around s.ctx).event.isFinal = true) ∧
      (config.terminateConnectionOnFailedResponse = false →
        request.next around s.ctx =
            some (request.handle s.isTlsConnection around s.ctx).ctx.state ∧
          ∀ state sessionId stopHlc, request.next around { s.ctx with
            state := state, sessionId := sessionId, stopHlc := stopHlc } =
              request.next around s.ctx) := by
  subst hRun
  have hTerms := run_onTerms config inputs
  constructor
  · intro hTerminate hInTime
    exact (request.handle_failed_final_iff around _ (hTerms.connected (ne_idle_of_serving hStage))
      hTerms.certInstallRes (hTerms.terminate.trans hTerminate)).mpr hInTime hFailed
  · intro _
    refine ⟨request.handle_failed_state around _ _ hFailed, ?_⟩
    intro state sessionId stopHlc
    exact request.next_ignores_checks around _ state sessionId stopHlc

/-- A configuration in which the car is to end the session after a failed response. -/
def lenientConfig : Config := { strictConfig with terminateConnectionOnFailedResponse := false }

/-- A power delivery as the first request of a session. -/
def strayDelivery : V2gRequest :=
  .din { sessionId := ⟨[], 0⟩, body := .powerDelivery 1 none }

theorem failed_request_course_strayDelivery :
    let s := run step (start lenientConfig) (openConnection .din70121)
    strayDelivery.next {} s.ctx = some (strayDelivery.handle s.isTlsConnection {} s.ctx).ctx.state := by
  intro s
  have hStage : s.stage = .serving .din70121 := by decide
  have hFailed : (strayDelivery.handle s.isTlsConnection {} s.ctx).response.responseCode.isFailed =
      true := by
    decide
  exact ((failed_request_course lenientConfig (openConnection .din70121) strayDelivery {} rfl hStage
    hFailed).2 rfl).1

/-- The response has failed, the connection goes on, and the current demand is awaited. -/
theorem failed_request_advances :
    let s := run step (start lenientConfig) (openConnection .din70121)
    let handling := strayDelivery.handle s.isTlsConnection {} s.ctx
    ¬ (handling.response.responseCode.isFailed = true →
      handling.event.isFinal = true ∨ handling.ctx.state = s.ctx.state) := by
  decide

end Server

end EverestCore.V2G
