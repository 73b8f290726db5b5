import EverestCore.V2G.FailedResponses

/-! What a rejected request does to the charger. The handlers publish what they
take from a request, and the first message of a phase starts the phase, before
anyone asks whether the request was in order. -/
namespace EverestCore.V2G
open Machine

/-- The publications that move a contactor, start or end the current, start a cable
check, or set the voltage and the current. -/
def Publication.isPhysical : Publication → Bool
  | .acCloseContactor | .acOpenContactor | .dcOpenContactor | .currentDemandStarted
  | .currentDemandFinished | .startCableCheck | .dcEVTargetVoltageCurrent _ _ => true
  | _ => false

/-- The request was out of order, or of another session. -/
def ResponseCode.isRejection : ResponseCode → Bool
  | .failedSequenceError | .failedUnknownSession => true
  | _ => false

/-- Nothing physical is published, and the session charges as it did before. -/
structure Handling.HasNoEffect (before : V2gContext) (handling : Handling) : Prop where
  published : ∀ publication ∈ handling.published, publication.isPhysical = false
  isCharging : handling.ctx.isCharging = before.isCharging

instance (before : V2gContext) (handling : Handling) : Decidable (handling.HasNoEffect before) :=
  decidable_of_iff
    ((∀ publication ∈ handling.published, publication.isPhysical = false) ∧
      handling.ctx.isCharging = before.isCharging)
    ⟨fun h => ⟨h.1, h.2⟩, fun h => ⟨h.published, h.isCharging⟩⟩

/-- A physical publication is an effect. -/
theorem Handling.not_hasNoEffect {before : V2gContext} {handling : Handling}
    {publication : Publication} (hPublished : publication ∈ handling.published)
    (hPhysical : publication.isPhysical = true) : ¬ handling.HasNoEffect before := by
  intro h
  rw [h.published publication hPublished] at hPhysical
  cases hPhysical

namespace V2gContext

/-- The targets of the car differ from the last ones. -/
def hasNewTargets (voltage current : PhysicalValue) (ctx : V2gContext) : Bool :=
  ctx.v2gTargetVoltage ≠ some (calcPhysicalValue voltage) ∨
    ctx.v2gTargetCurrent ≠ some (calcPhysicalValue current)

/-- Targets are published if they are new ones. -/
theorem publishTargets_published (voltage current : PhysicalValue) (ctx : V2gContext) :
    (ctx.publishTargets voltage current).2 =
      if ctx.hasNewTargets voltage current then
        [.dcEVTargetVoltageCurrent (calcPhysicalValue voltage) (calcPhysicalValue current)]
      else [] := by
  unfold publishTargets hasNewTargets
  dsimp only
  by_cases hNew : ctx.v2gTargetVoltage ≠ some (calcPhysicalValue voltage) ∨
      ctx.v2gTargetCurrent ≠ some (calcPhysicalValue current)
  · rw [if_pos hNew, if_pos (decide_eq_true hNew)]
  · rw [if_neg hNew, if_neg (by simpa using hNew)]

/-- The check rejects a code that was no rejection exactly if the request is out of
order or of another session, on an open connection. -/
theorem validateResponseCode_isRejection {ctx : V2gContext} (expected : Bool) {code : ResponseCode}
    (hCode : code.isRejection = false) (hMsg : ctx.currentV2gMsg ≠ .sessionSetup) :
    (ctx.validateResponseCode expected code).1.isRejection = true ↔
      ctx.isConnectionTerminated = false ∧
        (expected = false ∨ ctx.sessionId ≠ ctx.receivedSessionId) := by
  unfold validateResponseCode
  cases hOpen : ctx.isConnectionTerminated with
  | true => simp [hCode]
  | false =>
      simp only [Bool.false_eq_true, if_false, true_and]
      unfold checkedCode
      dsimp only
      by_cases hSession : ctx.sessionId = ctx.receivedSessionId
      · rw [if_neg fun h => h.2 hSession]
        cases expected with
        | false => simp [ResponseCode.isRejection]
        | true =>
            rw [if_pos rfl]
            apply iff_of_false
            · split
              · decide
              · rw [hCode]
                decide
            · simp [hSession]
      · rw [if_pos ⟨hMsg, hSession⟩]
        exact iff_of_true rfl (Or.inr hSession)

end V2gContext

/-- The body of an ISO request asks the charger to do something. -/
def IsoBody.acts (ctx : V2gContext) : IsoBody → Bool
  | .currentDemand voltage current =>
      ctx.lastV2gMsg = .powerDelivery ∨ ctx.hasNewTargets voltage current
  | .preCharge voltage current => ctx.hasNewTargets voltage current
  | .cableCheck => ctx.lastV2gMsg = .chargeParameterDiscovery
  | .powerDelivery .stop _ => true
  | .powerDelivery .start _ => !ctx.isDcCharger && !ctx.contactorIsClosed && !ctx.afterChargeLoop
  | _ => false

def DinBody.acts (ctx : V2gContext) : DinBody → Bool
  | .currentDemand voltage current =>
      ctx.lastV2gMsg = .powerDelivery ∨ ctx.hasNewTargets voltage current
  | .preCharge voltage current => ctx.hasNewTargets voltage current
  | .cableCheck => ctx.lastV2gMsg = .chargeParameterDiscovery
  | .powerDelivery readyToChargeState _ => readyToChargeState = 0
  | _ => false

namespace V2gRequest

/-- The request asks the charger to do something. -/
def acts (ctx : V2gContext) : V2gRequest → Bool
  | .din request => request.v2gMessageIsUsed && request.body.acts ctx
  | .iso request => request.v2gMessageIsUsed && request.body.acts ctx

/-- The state allows the message. A power delivery that waits for the contactor finds
the table that is in use when it is checked. -/
def isExpected (around : Surroundings) (ctx : V2gContext) : V2gRequest → Bool
  | .din request => request.body.msg.any (dinValidateState ctx.state)
  | .iso request => request.body.msg.any fun msg =>
      isoValidateState around.beyond ctx.state msg
        (if msg = .powerDelivery then (ctx.commands around.meanwhile).isDcCharger
          else ctx.isDcCharger)

def sessionId : V2gRequest → ℕ
  | .din request => v2gSessionIdFromExi request.sessionId
  | .iso request => v2gSessionIdFromExi request.sessionId

/-- The request is out of order or of another session, on an open connection. -/
def isOutOfPlace (around : Surroundings) (ctx : V2gContext) (request : V2gRequest) : Bool :=
  !ctx.isConnectionTerminated &&
    (!request.isExpected around ctx || ctx.sessionId ≠ request.sessionId)

end V2gRequest

namespace V2gContext

variable {around : Surroundings} {ctx inner : V2gContext} {msg : V2gMsgTypeId}

/-- A response is a rejection exactly if the check has made it one. -/
theorem CheckedIn.isRejection_iff {handling : Handling} {code : ResponseCode}
    (h : CheckedIn msg ctx inner handling)
    (hChecked : handling.response.responseCode = (inner.isoValidate around code).1)
    (hCode : code.isRejection = false) (hMsg : msg ≠ .sessionSetup) :
    handling.response.responseCode.isRejection = true ↔
      ctx.isConnectionTerminated = false ∧
        (isoValidateState around.beyond ctx.state msg inner.isDcCharger = false ∨
          ctx.sessionId ≠ ctx.receivedSessionId) := by
  obtain ⟨hId, hReceived⟩ := h.prepared.session.resolve_left hMsg
  have hInner : inner.currentV2gMsg ≠ .sessionSetup := by
    rw [h.prepared.currentV2gMsg]
    exact hMsg
  rw [hChecked, isoValidate, validateResponseCode_isRejection _ hCode hInner,
    h.prepared.terms.isConnectionTerminated, h.prepared.state, h.prepared.currentV2gMsg, hId,
    hReceived]

/-- For DIN 70121, the check is part of the end of each handler. -/
theorem dinConclude_isRejection_iff {response : Response} {next : DinStateId}
    {published : List Publication} (hPrepared : Prepared msg ctx inner)
    (hCode : response.responseCode.isRejection = false) (hMsg : msg ≠ .sessionSetup) :
    (inner.dinConclude response next published).response.responseCode.isRejection = true ↔
      ctx.isConnectionTerminated = false ∧
        (dinValidateState ctx.state msg = false ∨ ctx.sessionId ≠ ctx.receivedSessionId) := by
  obtain ⟨hId, hReceived⟩ := hPrepared.session.resolve_left hMsg
  have hInner : inner.currentV2gMsg ≠ .sessionSetup := by
    rw [hPrepared.currentV2gMsg]
    exact hMsg
  rw [← hPrepared.terms.isConnectionTerminated, ← hPrepared.state, ← hPrepared.currentV2gMsg, ← hId,
    ← hReceived]
  exact validateResponseCode_isRejection _ hCode hInner

/-- The progress of charging may fail, but does not reject. -/
theorem applyProgress_isRejection (ctx : V2gContext) (progress : ChargeProgress)
    (meanwhile : List EvseCommand) :
    (ctx.applyProgress progress meanwhile).2.1.isRejection = false := by
  cases progress with
  | start =>
      by_cases hReady : (ctx.isDcCharger || ctx.contactorIsClosed) = true
      · rw [applyProgress, if_pos hReady]
        rfl
      · rw [applyProgress, if_neg hReady]
        dsimp only
        split <;> rfl
  | stop => rfl
  | renegotiate => rfl
  | other => rfl

/-- The code of a power delivery before its check is no rejection. -/
theorem deliveryCode_isRejection (around : Surroundings) (ctx : V2gContext)
    (progress : ChargeProgress) (tupleId : ℕ) :
    (ctx.deliveryCode around progress tupleId).isRejection = false := by
  have hApplied := applyProgress_isRejection ctx progress around.meanwhile
  unfold deliveryCode isoPowerDeliveryCode
  dsimp only
  split
  · split
    · rfl
    · exact hApplied
  · rfl

/-- New targets are published, whatever becomes of the request. -/
theorem mem_publishTargets {voltage current : PhysicalValue}
    (hNew : ctx.hasNewTargets voltage current = true) :
    .dcEVTargetVoltageCurrent (calcPhysicalValue voltage) (calcPhysicalValue current) ∈
      (ctx.publishTargets voltage current).2 := by
  rw [publishTargets_published, if_pos hNew]
  exact List.mem_singleton.mpr rfl

/-- What a current demand reads after it may have started the current. -/
theorem beginDemand_kept (ctx : V2gContext) (voltage current : PhysicalValue) :
    ((if ctx.lastV2gMsg = .powerDelivery then { ctx with isCharging := true }
        else ctx).withMsg .currentDemand).hasNewTargets voltage current =
        ctx.hasNewTargets voltage current ∧
      ((if ctx.lastV2gMsg = .powerDelivery then { ctx with isCharging := true }
        else ctx).withMsg .currentDemand).isDcCharger = ctx.isDcCharger := by
  split <;> exact ⟨rfl, rfl⟩

/-- A first current demand starts the current, and new targets are passed on. -/
theorem currentDemand_not_hasNoEffect {before : V2gContext} {handling : Handling}
    {voltage current : PhysicalValue}
    (hActs : ctx.lastV2gMsg = .powerDelivery ∨ ctx.hasNewTargets voltage current = true)
    (hTargets : inner.hasNewTargets voltage current = ctx.hasNewTargets voltage current)
    (hPublished : handling.published =
      (if ctx.lastV2gMsg = .powerDelivery then [.currentDemandStarted] else []) ++
        (inner.publishTargets voltage current).2) :
    ¬ handling.HasNoEffect before := by
  rcases hActs with hStarts | hNew
  · have hMem : .currentDemandStarted ∈ handling.published := by
      rw [hPublished, if_pos hStarts]
      exact List.mem_cons_self
    exact Handling.not_hasNoEffect hMem rfl
  · have hMem : .dcEVTargetVoltageCurrent (calcPhysicalValue voltage) (calcPhysicalValue current) ∈
        handling.published := by
      rw [hPublished]
      exact List.mem_append_right _ (mem_publishTargets (hTargets.trans hNew))
    exact Handling.not_hasNoEffect hMem rfl

/-- A power delivery that acts publishes what it does, and comes at the right time. -/
theorem applyProgress_of_acts (ctx : V2gContext) {progress : ChargeProgress} (tupleId : ℕ)
    (meanwhile : List EvseCommand)
    (hActs : (IsoBody.powerDelivery progress tupleId).acts ctx = true) :
    (∃ publication ∈ (ctx.applyProgress progress meanwhile).2.2,
        publication.isPhysical = true) ∧ ctx.comesAtWrongTime progress = false := by
  cases progress with
  | start =>
      have hOpen : ctx.isDcCharger = false ∧ ctx.contactorIsClosed = false ∧
          ctx.afterChargeLoop = false := by
        simpa [IsoBody.acts, and_assoc] using hActs
      have hReady : ¬ (ctx.isDcCharger || ctx.contactorIsClosed) = true := by
        rw [hOpen.1, hOpen.2.1]
        decide
      refine ⟨⟨.acCloseContactor, ?_, rfl⟩, hOpen.2.2⟩
      rw [applyProgress, if_neg hReady]
      exact List.mem_cons_of_mem _ List.mem_cons_self
  | stop =>
      refine ⟨?_, rfl⟩
      rw [applyProgress]
      dsimp only
      split
      · exact ⟨.currentDemandFinished, List.mem_cons_self, rfl⟩
      · exact ⟨.acOpenContactor, List.mem_cons_self, rfl⟩
  | renegotiate => cases hActs
  | other => cases hActs

/-- A request that acts does so whatever its code is, and is rejected exactly if it is out
of order or of another session. -/
theorem isoDispatch_of_acts (around : Surroundings) (ctx : V2gContext) (isTlsConnection : Bool)
    {body : IsoBody} (hMsg : body.msg = some msg) (hActs : body.acts ctx = true) :
    ¬ (ctx.isoDispatch around isTlsConnection body).HasNoEffect ctx ∧
      ((ctx.isoDispatch around isTlsConnection body).response.responseCode.isRejection = true ↔
        ctx.isConnectionTerminated = false ∧
          (isoValidateState around.beyond ctx.state msg
              (if msg = .powerDelivery then (ctx.commands around.meanwhile).isDcCharger
                else ctx.isDcCharger) = false ∨
            ctx.sessionId ≠ ctx.receivedSessionId)) := by
  cases body with
  | currentDemand voltage current =>
      cases hMsg
      have hPrepared := (isCharging_prepared ctx .currentDemand true
        (ctx.lastV2gMsg = .powerDelivery)).of_sameCourse (publishTargets_sameCourse voltage current _)
      obtain ⟨hTargets, hDc⟩ := beginDemand_kept ctx voltage current
      constructor
      · exact currentDemand_not_hasNoEffect (of_decide_eq_true hActs) hTargets rfl
      · rw [if_neg (by decide), ← hDc, ← publishTargets_isDcCharger _ voltage current]
        exact (isoConclude_checked around ctx hPrepared).isRejection_iff rfl rfl (by decide)
  | preCharge voltage current =>
      cases hMsg
      have hPrepared := (withMsg_prepared ctx .preCharge).of_sameCourse
        (publishTargets_sameCourse voltage current _)
      constructor
      · exact Handling.not_hasNoEffect (mem_publishTargets hActs) rfl
      · have hDc : ((ctx.withMsg .preCharge).publishTargets voltage current).1.isDcCharger =
            ctx.isDcCharger := publishTargets_isDcCharger _ voltage current
        rw [if_neg (by decide), ← hDc]
        exact (isoConclude_checked around ctx hPrepared).isRejection_iff rfl rfl (by decide)
  | cableCheck =>
      cases hMsg
      have hStarts : ctx.lastV2gMsg = .chargeParameterDiscovery := of_decide_eq_true hActs
      constructor
      · have hPublished : .startCableCheck ∈
            (ctx.isoDispatch around isTlsConnection .cableCheck).published := by
          show _ ∈ (if _ then _ else _) ++ _
          rw [if_pos hStarts]
          exact List.mem_cons_self
        exact Handling.not_hasNoEffect hPublished rfl
      · exact (isoConclude_checked around ctx (withMsg_prepared ctx _)).isRejection_iff rfl rfl
          (by decide)
  | powerDelivery progress tupleId =>
      cases hMsg
      obtain ⟨⟨publication, hPublication, hPhysical⟩, hTime⟩ :=
        applyProgress_of_acts (ctx.withMsg .powerDelivery) tupleId around.meanwhile hActs
      obtain ⟨hChecked, -, hCode, hPublished⟩ := handleIsoPowerDelivery_checked around
        (ctx.withMsg .powerDelivery) progress tupleId
      rw [if_neg (by rw [hTime]; decide)] at hCode
      rw [isoDispatch]
      constructor
      · rw [← hPublished] at hPublication
        exact Handling.not_hasNoEffect hPublication hPhysical
      · have hIn : CheckedIn .powerDelivery ctx _ _ := ⟨hChecked.prepared.of_withMsg, hChecked.watch⟩
        rw [hIn.isRejection_iff hCode (deliveryCode_isRejection _ _ _ _) (by decide),
          duringDelivery_isDcCharger, if_pos rfl,
          commands_isDcCharger (ctx.withMsg .powerDelivery) ctx rfl]
  | _ => cases hActs

/-- Targets that are not new are not published, and the session charges as before. -/
theorem publishTargets_hasNoEffect {voltage current : PhysicalValue}
    (hOld : ctx.hasNewTargets voltage current = false) :
    (ctx.publishTargets voltage current).2 = [] ∧
      (ctx.publishTargets voltage current).1.isCharging = ctx.isCharging := by
  refine ⟨?_, (publishTargets_sameCourse voltage current ctx).isCharging⟩
  rw [publishTargets_published, hOld]
  rfl

/-- Nothing published, nothing physical. -/
theorem not_mem_nil_isPhysical (publication : Publication) (h : publication ∈ ([] : List Publication)) :
    publication.isPhysical = false := absurd h List.not_mem_nil

/-- Whether the charger charges is decided before the check. -/
theorem handleIsoPowerDelivery_isCharging (around : Surroundings) (ctx : V2gContext)
    (progress : ChargeProgress) (tupleId : ℕ) :
    (ctx.handleIsoPowerDelivery around progress tupleId).ctx.isCharging =
      (ctx.applyProgress progress around.meanwhile).1.isCharging := by
  have hInner : (ctx.duringDelivery around progress tupleId).isCharging =
      (ctx.applyProgress progress around.meanwhile).1.isCharging := by
    unfold duringDelivery
    dsimp only
    split <;> rfl
  have hReset (inner : V2gContext) : inner.resetForRenegotiation.isCharging = inner.isCharging := by
    unfold resetForRenegotiation
    dsimp only
    split <;> rfl
  rw [handleIsoPowerDelivery_eq, ← hInner]
  dsimp only
  split
  · exact hReset _
  · split
    · rfl
    · split <;> rfl

/-- The effect of a progress that does nothing to the charger. -/
theorem applyProgress_of_not_acts {progress : ChargeProgress} {tupleId : ℕ}
    (meanwhile : List EvseCommand)
    (hActs : (IsoBody.powerDelivery progress tupleId).acts ctx = false)
    (hTime : ctx.comesAtWrongTime progress = false) :
    (∀ publication ∈ (ctx.applyProgress progress meanwhile).2.2, publication.isPhysical = false) ∧
      (ctx.applyProgress progress meanwhile).1.isCharging = ctx.isCharging := by
  cases progress with
  | start =>
      have hReady : (ctx.isDcCharger || ctx.contactorIsClosed) = true := by
        have hLoop : ctx.afterChargeLoop = false := hTime
        rw [IsoBody.acts, hLoop] at hActs
        cases hDc : ctx.isDcCharger with
        | true => rfl
        | false => simpa [hDc] using hActs
      rw [applyProgress, if_pos hReady]
      refine ⟨?_, (commands_sameCourse ctx meanwhile).isCharging⟩
      intro publication hPublication
      rw [List.mem_singleton.mp hPublication]
      rfl
  | stop => cases hActs
  | renegotiate =>
      refine ⟨not_mem_nil_isPhysical, ?_⟩
      exact (commands_sameCourse { ctx with renegotiationRequired := true } meanwhile).isCharging
  | other => cases hTime

/-- A power delivery that does not act leaves the charger alone, or is refused for the
time at which it comes. -/
theorem handleIsoPowerDelivery_of_not_acts {progress : ChargeProgress} {tupleId : ℕ}
    (around : Surroundings)
    (hActs : (IsoBody.powerDelivery progress tupleId).acts ctx = false) :
    (ctx.handleIsoPowerDelivery around progress tupleId).HasNoEffect ctx ∨
      (ctx.handleIsoPowerDelivery around progress tupleId).response.responseCode.isRejection =
        false := by
  obtain ⟨-, -, hCode, hPublished⟩ := handleIsoPowerDelivery_checked around ctx progress tupleId
  cases hTime : ctx.comesAtWrongTime progress with
  | true =>
      right
      rw [hCode, if_pos hTime]
      rfl
  | false =>
      left
      obtain ⟨hNone, hCharging⟩ := applyProgress_of_not_acts around.meanwhile hActs hTime
      constructor
      · rw [hPublished]
        exact hNone
      · rw [handleIsoPowerDelivery_isCharging]
        exact hCharging

/-- A handler without physical publications has no effect, if it leaves the charging alone. -/
theorem hasNoEffect_of_published {handling : Handling} {published : List Publication}
    (hPublished : handling.published = published)
    (hNone : published.all (fun publication => !publication.isPhysical) = true)
    (hCharging : handling.ctx.isCharging = ctx.isCharging) : handling.HasNoEffect ctx := by
  refine ⟨?_, hCharging⟩
  intro publication hMem
  rw [hPublished] at hMem
  simpa using List.all_eq_true.mp hNone publication hMem

/-- A request that does not act leaves the charger alone, or is refused for another
reason. -/
theorem isoDispatch_of_not_acts {isTlsConnection : Bool} {body : IsoBody}
    (hActs : body.acts ctx = false) :
    (ctx.isoDispatch around isTlsConnection body).HasNoEffect ctx ∨
      (ctx.isoDispatch around isTlsConnection body).response.responseCode.isRejection = false := by
  cases body with
  | powerDelivery progress tupleId =>
      have hWith : (IsoBody.powerDelivery progress tupleId).acts (ctx.withMsg .powerDelivery) =
          false := hActs
      refine (handleIsoPowerDelivery_of_not_acts around hWith).imp_left ?_
      exact fun h => ⟨h.published, h.isCharging⟩
  | currentDemand voltage current =>
      left
      obtain ⟨hStarts, hOld⟩ : ctx.lastV2gMsg ≠ .powerDelivery ∧
          ctx.hasNewTargets voltage current = false := by
        simpa [IsoBody.acts] using hActs
      have hOld' : (ctx.withMsg .currentDemand).hasNewTargets voltage current = false := hOld
      obtain ⟨hPublished, hCharging⟩ := publishTargets_hasNoEffect hOld'
      rw [isoDispatch]
      simp only [if_neg hStarts]
      exact hasNoEffect_of_published hPublished rfl hCharging
  | preCharge voltage current =>
      left
      have hOld : (ctx.withMsg .preCharge).hasNewTargets voltage current = false := hActs
      obtain ⟨hPublished, hCharging⟩ := publishTargets_hasNoEffect hOld
      exact hasNoEffect_of_published hPublished rfl hCharging
  | sessionSetup evccid =>
      left
      refine hasNoEffect_of_published rfl rfl ?_
      show (ensureSessionId _ _).isCharging = _
      unfold ensureSessionId
      split <;> rfl
  | serviceDiscovery =>
      left
      refine hasNoEffect_of_published rfl rfl ?_
      show (withholdContract _ _).isCharging = _
      unfold withholdContract
      split <;> rfl
  | paymentServiceSelection option services =>
      left
      have hPublished : ((if option ∈ ctx.paymentOptionList.used then
          [.selectedPaymentOption option] else []) : List Publication).all
          (fun publication => !publication.isPhysical) = true := by
        split <;> rfl
      cases option with
      | contract => exact hasNoEffect_of_published rfl hPublished rfl
      | externalPayment => exact hasNoEffect_of_published rfl hPublished rfl
  | paymentDetails check =>
      left
      refine hasNoEffect_of_published rfl rfl ?_
      show (checkContract _ _).1.isCharging = _
      unfold checkContract
      dsimp only
      split
      · rfl
      · split <;> rfl
  | authorization req =>
      left
      refine hasNoEffect_of_published rfl ?_ rfl
      show List.all ((if _ then _ else _) ++ _) _ = true
      split <;> rfl
  | certificateInstallation =>
      left
      have hAwaited := awaitCertificate_sameCourse (ctx.withMsg .certificateInstallation)
        around.meanwhile
      rw [isoDispatch]
      unfold handleIsoCertificateInstallation
      dsimp only
      split
      · exact hasNoEffect_of_published rfl rfl rfl
      · split
        · exact hasNoEffect_of_published rfl rfl hAwaited.isCharging
        · exact hasNoEffect_of_published rfl rfl hAwaited.isCharging
        · exact hasNoEffect_of_published rfl rfl hAwaited.isCharging
  | cableCheck =>
      left
      have hStarts : ¬ ctx.lastV2gMsg = .chargeParameterDiscovery := of_decide_eq_false hActs
      have hPublished : (ctx.isoDispatch around isTlsConnection .cableCheck).published = [] := by
        show (if _ then _ else _) ++ _ = _
        rw [if_neg hStarts]
        rfl
      exact hasNoEffect_of_published hPublished rfl rfl
  | sessionStop chargingSession =>
      exact Or.inl (hasNoEffect_of_published rfl rfl rfl)
  | _ => exact Or.inl ⟨not_mem_nil_isPhysical, rfl⟩

/-- The code of a power delivery is no rejection in DIN 70121 either. -/
theorem dinPowerDeliveryCode_isRejection (readyToChargeState : ℤ) (profileTupleId : Option ℤ)
    (ctx : V2gContext) :
    (ctx.dinPowerDeliveryCode readyToChargeState profileTupleId).isRejection = false := by
  unfold dinPowerDeliveryCode
  dsimp only
  split
  · rfl
  · split <;> rfl

/-- As in the ISO server. -/
theorem dinDispatch_of_acts (around : Surroundings) (ctx : V2gContext) {body : DinBody}
    (hMsg : body.msg = some msg)
    (hActs : body.acts ctx = true) :
    ¬ (ctx.dinDispatch around body).HasNoEffect ctx ∧
      ((ctx.dinDispatch around body).response.responseCode.isRejection = true ↔
        ctx.isConnectionTerminated = false ∧
          (dinValidateState ctx.state msg = false ∨ ctx.sessionId ≠ ctx.receivedSessionId)) := by
  cases body with
  | currentDemand voltage current =>
      cases hMsg
      have hPrepared := (isCharging_prepared ctx .currentDemand true
        (ctx.lastV2gMsg = .powerDelivery)).of_sameCourse (publishTargets_sameCourse voltage current _)
      have hTargets := (beginDemand_kept ctx voltage current).1
      constructor
      · exact currentDemand_not_hasNoEffect (of_decide_eq_true hActs) hTargets rfl
      · exact dinConclude_isRejection_iff hPrepared rfl (by decide)
  | preCharge voltage current =>
      cases hMsg
      have hPrepared := (withMsg_prepared ctx .preCharge).of_sameCourse
        (publishTargets_sameCourse voltage current _)
      constructor
      · exact Handling.not_hasNoEffect (mem_publishTargets hActs) rfl
      · exact dinConclude_isRejection_iff hPrepared rfl (by decide)
  | cableCheck =>
      cases hMsg
      have hStarts : ctx.lastV2gMsg = .chargeParameterDiscovery := of_decide_eq_true hActs
      constructor
      · have hPublished : .startCableCheck ∈ (ctx.dinDispatch around .cableCheck).published := by
          show _ ∈ (if _ then _ else _) ++ _
          rw [if_pos hStarts]
          exact List.mem_cons_self
        exact Handling.not_hasNoEffect hPublished rfl
      · exact dinConclude_isRejection_iff (withMsg_prepared ctx _) rfl (by decide)
  | powerDelivery readyToChargeState profileTupleId =>
      cases hMsg
      obtain rfl : readyToChargeState = 0 := of_decide_eq_true hActs
      have hPrepared : Prepared .powerDelivery ctx
          { ctx.withMsg .powerDelivery with isCharging := false } :=
        ⟨⟨rfl, rfl, rfl, rfl, rfl⟩, rfl, rfl, Or.inr ⟨rfl, rfl⟩⟩
      constructor
      · have hPublished : .currentDemandFinished ∈
            (ctx.dinDispatch around (.powerDelivery 0 profileTupleId)).published := by
          exact List.mem_cons_self
        exact Handling.not_hasNoEffect hPublished rfl
      · refine dinConclude_isRejection_iff hPrepared ?_ (by decide)
        exact dinPowerDeliveryCode_isRejection 0 profileTupleId
          { ctx.withMsg .powerDelivery with isCharging := false }
  | _ => cases hActs

/-- A handler that does not act on the charger has no effect. -/
theorem dinDispatch_of_not_acts (around : Surroundings) {body : DinBody}
    (hActs : body.acts ctx = false) :
    (ctx.dinDispatch around body).HasNoEffect ctx := by
  cases body with
  | currentDemand voltage current =>
      obtain ⟨hStarts, hOld⟩ : ctx.lastV2gMsg ≠ .powerDelivery ∧
          ctx.hasNewTargets voltage current = false := by
        simpa [DinBody.acts] using hActs
      have hOld' : (ctx.withMsg .currentDemand).hasNewTargets voltage current = false := hOld
      obtain ⟨hPublished, hCharging⟩ := publishTargets_hasNoEffect hOld'
      rw [dinDispatch]
      simp only [if_neg hStarts]
      exact hasNoEffect_of_published hPublished rfl hCharging
  | preCharge voltage current =>
      have hOld : (ctx.withMsg .preCharge).hasNewTargets voltage current = false := hActs
      obtain ⟨hPublished, hCharging⟩ := publishTargets_hasNoEffect hOld
      exact hasNoEffect_of_published hPublished rfl hCharging
  | sessionSetup evccid =>
      refine hasNoEffect_of_published rfl rfl ?_
      show (ensureSessionId _ _).isCharging = _
      unfold ensureSessionId
      split <;> rfl
  | serviceDiscovery =>
      exact hasNoEffect_of_published rfl rfl (correctEnergyTransferMode_sameCourse _).isCharging
  | contractAuthentication =>
      refine hasNoEffect_of_published rfl ?_ rfl
      show List.all ((if _ then _ else _) ++ _) _ = true
      split <;> rfl
  | cableCheck =>
      have hStarts : ¬ ctx.lastV2gMsg = .chargeParameterDiscovery := of_decide_eq_false hActs
      have hPublished : (ctx.dinDispatch around .cableCheck).published = [] := by
        show (if _ then _ else _) ++ _ = _
        rw [if_neg hStarts]
        rfl
      exact hasNoEffect_of_published hPublished rfl rfl
  | powerDelivery readyToChargeState profileTupleId =>
      have hStops : ¬ readyToChargeState = 0 := of_decide_eq_false hActs
      rw [dinDispatch, handleDinPowerDelivery]
      simp only [if_neg hStops]
      split
      · exact hasNoEffect_of_published rfl rfl rfl
      · split <;> exact hasNoEffect_of_published rfl rfl rfl
  | sessionStop => exact hasNoEffect_of_published rfl rfl rfl
  | _ => exact hasNoEffect_of_published rfl rfl rfl

end V2gContext

/-- What the last message was counts for nothing here. -/
theorem Handling.noteLastMsg_hasNoEffect {before : V2gContext} {handling : Handling} :
    handling.noteLastMsg.HasNoEffect before ↔ handling.HasNoEffect before := by
  unfold noteLastMsg
  split
  · exact ⟨fun h => ⟨h.published, h.isCharging⟩, fun h => ⟨h.published, h.isCharging⟩⟩
  · exact Iff.rfl

/-- A law of the form "a rejection has no effect", from what acting requests and others do. -/
theorem rejection_hasNoEffect_iff {rejected acts outOfPlace : Bool} {noEffect : Prop}
    (hActs : acts = true → ¬ noEffect ∧ (rejected = true ↔ outOfPlace = true))
    (hOther : acts = false → noEffect ∨ rejected = false) :
    (rejected = true → noEffect) ↔ ¬ (acts = true ∧ outOfPlace = true) := by
  cases acts with
  | true =>
      obtain ⟨hEffect, hRejected⟩ := hActs rfl
      rw [hRejected]
      exact ⟨fun h hBoth => hEffect (h hBoth.2), fun h hOut => absurd ⟨rfl, hOut⟩ h⟩
  | false =>
      refine iff_of_true ?_ (by simp)
      intro hRejected
      rcases hOther rfl with hNone | hFine
      · exact hNone
      · rw [hRejected] at hFine
        cases hFine

/-- Only a known message acts. -/
theorem isoBody_acts_msg {ctx : V2gContext} {body : IsoBody} (hActs : body.acts ctx = true) :
    ∃ msg, body.msg = some msg := by
  cases body with
  | notFound => cases hActs
  | _ => exact ⟨_, rfl⟩

/-- Only a known message acts in DIN 70121. -/
theorem dinBody_acts_msg {ctx : V2gContext} {body : DinBody} (hActs : body.acts ctx = true) :
    ∃ msg, body.msg = some msg := by
  cases body with
  | currentDemand voltage current => exact ⟨_, rfl⟩
  | preCharge voltage current => exact ⟨_, rfl⟩
  | cableCheck => exact ⟨_, rfl⟩
  | powerDelivery readyToChargeState profileTupleId => exact ⟨_, rfl⟩
  | _ => cases hActs

/-- Whether a request acts does not depend on its session id. -/
theorem isoBody_acts_received (ctx : V2gContext) (id : ℕ) (body : IsoBody) :
    body.acts { ctx with receivedSessionId := id } = body.acts ctx := by
  cases body with
  | powerDelivery progress tupleId => cases progress <;> rfl
  | _ => rfl

/-- Whether a request of DIN 70121 acts does not depend on its session id. -/
theorem dinBody_acts_received (ctx : V2gContext) (id : ℕ) (body : DinBody) :
    body.acts { ctx with receivedSessionId := id } = body.acts ctx := by
  cases body <;> rfl

namespace V2gRequest

variable {around : Surroundings} {ctx : V2gContext}

/-- Out of place is a request that the state does not expect, or that belongs to another session. -/
theorem isOutOfPlace_iff {request : V2gRequest} {expected : Bool}
    (hExpected : request.isExpected around ctx = expected) :
    request.isOutOfPlace around ctx = true ↔
      ctx.isConnectionTerminated = false ∧
        (expected = false ∨ ctx.sessionId ≠ request.sessionId) := by
  rw [isOutOfPlace, hExpected]
  simp

/-- A request of DIN 70121 that acts has its effect, and is a rejection exactly if it is out of
place. -/
theorem dinRequest_of_acts {request : DinRequest} {isTlsConnection : Bool}
    (hActs : acts ctx (.din request) = true) :
    ¬ (handle isTlsConnection around ctx (.din request)).HasNoEffect ctx ∧
      ((handle isTlsConnection around ctx (.din request)).response.responseCode.isRejection = true ↔
        isOutOfPlace around ctx (.din request) = true) := by
  obtain ⟨hUsed, hBody⟩ := Bool.and_eq_true_iff.mp hActs
  obtain ⟨msg, hMsg⟩ := dinBody_acts_msg hBody
  let received := { ctx with receivedSessionId := v2gSessionIdFromExi request.sessionId }
  have hExpected : isExpected around ctx (.din request) = dinValidateState ctx.state msg := by
    rw [isExpected, hMsg]
    rfl
  rw [← dinBody_acts_received ctx (v2gSessionIdFromExi request.sessionId)] at hBody
  obtain ⟨hEffect, hRejected⟩ := V2gContext.dinDispatch_of_acts around received hMsg hBody
  rw [handle, dinHandleRequest_used hUsed, Handling.noteLastMsg_hasNoEffect,
    Handling.noteLastMsg_response, isOutOfPlace_iff hExpected]
  exact ⟨fun h => hEffect ⟨h.published, h.isCharging⟩, hRejected⟩

/-- A request of ISO 15118-2 that acts has its effect before its check. -/
theorem isoRequest_of_acts {request : IsoRequest} {isTlsConnection : Bool}
    (hActs : acts ctx (.iso request) = true) :
    ¬ (handle isTlsConnection around ctx (.iso request)).HasNoEffect ctx ∧
      ((handle isTlsConnection around ctx (.iso request)).response.responseCode.isRejection = true ↔
        isOutOfPlace around ctx (.iso request) = true) := by
  obtain ⟨hUsed, hBody⟩ := Bool.and_eq_true_iff.mp hActs
  obtain ⟨msg, hMsg⟩ := isoBody_acts_msg hBody
  let received := { ctx with receivedSessionId := v2gSessionIdFromExi request.sessionId }
  have hDc := V2gContext.commands_isDcCharger received ctx rfl around.meanwhile
  have hExpected : isExpected around ctx (.iso request) =
      isoValidateState around.beyond ctx.state msg
        (if msg = .powerDelivery then (received.commands around.meanwhile).isDcCharger
          else ctx.isDcCharger) := by
    rw [isExpected, hMsg, hDc]
    rfl
  rw [← isoBody_acts_received ctx (v2gSessionIdFromExi request.sessionId)] at hBody
  obtain ⟨hEffect, hRejected⟩ :=
    V2gContext.isoDispatch_of_acts around received isTlsConnection hMsg hBody
  rw [handle, isoHandleRequest_used around isTlsConnection ctx hUsed,
    Handling.noteLastMsg_hasNoEffect, Handling.noteLastMsg_response, isOutOfPlace_iff hExpected]
  exact ⟨fun h => hEffect ⟨h.published, h.isCharging⟩, hRejected⟩

/-- In every state, a request of either protocol that is rejected leaves the charger
alone exactly if it does not both act and come out of place. -/
theorem rejected_without_effect_iff (request : V2gRequest) (around : Surroundings)
    (isTlsConnection : Bool) (ctx : V2gContext) :
    ((request.handle isTlsConnection around ctx).response.responseCode.isRejection = true →
        (request.handle isTlsConnection around ctx).HasNoEffect ctx) ↔
      ¬ (request.acts ctx = true ∧ request.isOutOfPlace around ctx = true) := by
  apply rejection_hasNoEffect_iff
  · intro hActs
    cases request with
    | din request => exact dinRequest_of_acts hActs
    | iso request => exact isoRequest_of_acts hActs
  · intro hActs
    cases request with
    | din request =>
        cases hUsed : request.v2gMessageIsUsed with
        | false =>
            rw [handle, dinHandleRequest, hUsed]
            exact Or.inr rfl
        | true =>
            left
            rw [acts, hUsed, Bool.true_and,
              ← dinBody_acts_received ctx (v2gSessionIdFromExi request.sessionId)] at hActs
            rw [handle, dinHandleRequest_used hUsed, Handling.noteLastMsg_hasNoEffect]
            have hNone := V2gContext.dinDispatch_of_not_acts around hActs
            exact ⟨hNone.published, hNone.isCharging⟩
    | iso request =>
        cases hUsed : request.v2gMessageIsUsed with
        | false =>
            rw [handle, isoHandleRequest_unused around isTlsConnection ctx hUsed]
            exact Or.inr rfl
        | true =>
            rw [acts, hUsed, Bool.true_and,
              ← isoBody_acts_received ctx (v2gSessionIdFromExi request.sessionId)] at hActs
            rw [handle, isoHandleRequest_used around isTlsConnection ctx hUsed,
              Handling.noteLastMsg_hasNoEffect, Handling.noteLastMsg_response]
            refine (V2gContext.isoDispatch_of_not_acts hActs).imp_left ?_
            exact fun h => ⟨h.published, h.isCharging⟩

end V2gRequest

namespace Server

/-- An AC charger, and a car that wants power before it has set up a session. -/
def prematureDelivery : V2gRequest :=
  .iso { sessionId := ⟨[], 0⟩, body := .powerDelivery .start 1 }

/-- The request is answered with a sequence error, after the contactor has been closed. -/
theorem rejected_request_closes_contactor :
    let s := run step (start strictConfig)
      (.command (.setSupportedEnergyTransferMode [.acThreePhaseCore]) ::
        openConnection .iso15118_2013)
    let handling := prematureDelivery.handle s.isTlsConnection
      { meanwhile := [.contactorClosed true] } s.ctx
    ¬ (handling.response.responseCode.isRejection = true → handling.HasNoEffect s.ctx) := by
  decide

end Server

end EverestCore.V2G
