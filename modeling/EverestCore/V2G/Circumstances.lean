import EverestCore.V2G.Authorization
import EverestCore.V2G.FailedResponses

/-! The circumstances of a session: what the EVSE writes by its commands, and what the
requests of a car write only as a side effect. Most of it outlives the session. -/
namespace EverestCore.V2G

structure Circumstances where
  supportedProtocols : List V2gProtocol
  isDcCharger : Bool
  debugMode : Bool
  stopHlc : Bool
  evseNotification : EvseNotification
  evseStatusCode : ChargingPhase → EvseStatusCode
  isolationProcessing : EvseProcessing
  supportedEnergyTransferMode : Entries EnergyTransferMode
  evseServiceList : List ℕ
  saScheduleTupleIds : List ℕ
  saScheduleTupleId : ℕ
  paymentOptionList : Entries PaymentOption
  validCrt : Bool

/-- The commands that arrive while the handler of the request waits. -/
def V2gRequest.takesUp (around : Surroundings) : V2gRequest → List EvseCommand
  | .iso ⟨true, _, .powerDelivery _ _⟩ => around.meanwhile
  | .iso ⟨true, _, .certificateInstallation⟩ => if around.allocates then around.meanwhile else []
  | _ => []

/-- What is taken up arrives meanwhile. -/
theorem V2gRequest.takesUp_any (request : V2gRequest) {around : Surroundings}
    {p : EvseCommand → Bool} (h : around.meanwhile.any p = false) :
    (request.takesUp around).any p = false := by
  unfold takesUp
  split
  · exact h
  · split
    · exact h
    · rfl
  · rfl

namespace V2gContext

def circumstances (ctx : V2gContext) : Circumstances where
  supportedProtocols := ctx.supportedProtocols
  isDcCharger := ctx.isDcCharger
  debugMode := ctx.debugMode
  stopHlc := ctx.stopHlc
  evseNotification := ctx.evseNotification
  evseStatusCode := ctx.evseStatusCode
  isolationProcessing := ctx.evseProcessing .isolation
  supportedEnergyTransferMode := ctx.supportedEnergyTransferMode
  evseServiceList := ctx.evseServiceList
  saScheduleTupleIds := ctx.saScheduleTupleIds
  saScheduleTupleId := ctx.saScheduleTupleId
  paymentOptionList := ctx.paymentOptionList
  validCrt := ctx.validCrt

/-- The schedule that the car selects is kept. -/
def selectSchedule (tupleId : ℕ) (ctx : V2gContext) : V2gContext :=
  if tupleId ∈ ctx.saScheduleTupleIds then { ctx with saScheduleTupleId := tupleId } else ctx

/-- What an ISO request does to the circumstances. -/
def isoSideEffect (isTlsConnection : Bool) (ctx : V2gContext) : IsoBody → V2gContext
  | .serviceDiscovery => ctx.withholdContract isTlsConnection
  | .paymentDetails check => (ctx.checkContract check).1
  | .chargeParameterDiscovery _ _ _ =>
      if ctx.evseProcessing .parameter = .finished then
        { ctx with saScheduleTupleIds := ctx.saScheduleTupleIds.take 1 }
      else ctx
  | .powerDelivery progress tupleId =>
      if progress = .renegotiate ∧ ctx.afterChargeLoop then
        (ctx.selectSchedule tupleId).resetForRenegotiation
      else ctx.selectSchedule tupleId
  | _ => ctx

/-- What a DIN request does to the circumstances. -/
def dinSideEffect (ctx : V2gContext) : DinBody → V2gContext
  | .serviceDiscovery => ctx.correctEnergyTransferMode
  | _ => ctx

end V2gContext

/-- What a request does to the circumstances, beside the commands that it takes up. -/
def V2gRequest.sideEffect (isTlsConnection : Bool) (ctx : V2gContext) : V2gRequest → V2gContext
  | .din request => if request.v2gMessageIsUsed then ctx.dinSideEffect request.body else ctx
  | .iso request =>
      if request.v2gMessageIsUsed then ctx.isoSideEffect isTlsConnection request.body else ctx

namespace V2gContext

/-- What a command does to the circumstances depends on nothing else. -/
theorem command_circumstances (first second : V2gContext)
    (h : first.circumstances = second.circumstances) (command : EvseCommand) :
    (first.command command).circumstances = (second.command command).circumstances := by
  simp only [circumstances, Circumstances.mk.injEq] at h
  obtain ⟨hProtocols, hKind, hDebug, hStop, hNotification, hCodes, hIsolation, hModes, hServices,
    hIds, hId, hOptions, hCrt⟩ := h
  cases command with
  | setAuthOkayEIM authOkay =>
      cases authOkay <;> simp_all [circumstances, V2gContext.command, setProcessing]
  | stopCharging stop => cases stop <;> simp_all [circumstances, V2gContext.command, setStatusCodes]
  | setEVSEUtilityInterruptEvent event =>
      cases event <;> simp_all [circumstances, V2gContext.command, setStatusCodes]
  | setEVSEMalfunction malfunction =>
      cases malfunction <;> simp_all [circumstances, V2gContext.command, setStatusCodes]
  | _ => simp_all [circumstances, V2gContext.command, setProcessing]

/-- Several commands of the EVSE, one after the other. -/
theorem commands_circumstances (first second : V2gContext)
    (h : first.circumstances = second.circumstances) (arriving : List EvseCommand) :
    (first.commands arriving).circumstances = (second.commands arriving).circumstances := by
  induction arriving generalizing first second with
  | nil => exact h
  | cons command rest ih => exact ih _ _ (command_circumstances first second h command)

section Congruence

variable (first second : V2gContext) (h : first.circumstances = second.circumstances)
include h

/-- The correction depends on the offers of the EVSE only. -/
theorem correctEnergyTransferMode_circumstances :
    first.correctEnergyTransferMode.circumstances =
      second.correctEnergyTransferMode.circumstances := by
  have hModes : first.supportedEnergyTransferMode = second.supportedEnergyTransferMode :=
    congrArg Circumstances.supportedEnergyTransferMode h
  unfold correctEnergyTransferMode firstEnergyTransferMode
  rw [hModes]
  split
  · exact congrArg (fun circumstances : Circumstances => { circumstances with
      supportedEnergyTransferMode := { second.supportedEnergyTransferMode with
        array := second.supportedEnergyTransferMode.array.set 0 .dcExtended } }) h
  · exact h

/-- Whether the contract is withheld depends on the offers and on the connection. -/
theorem withholdContract_circumstances (isTlsConnection : Bool) :
    (first.withholdContract isTlsConnection).circumstances =
      (second.withholdContract isTlsConnection).circumstances := by
  have hDebug : first.debugMode = second.debugMode := congrArg Circumstances.debugMode h
  have hOptions : first.paymentOptionList = second.paymentOptionList :=
    congrArg Circumstances.paymentOptionList h
  unfold withholdContract
  rw [hDebug, hOptions]
  split
  · exact congrArg (fun circumstances : Circumstances => { circumstances with
      debugMode := second.debugMode
      paymentOptionList := ⟨second.paymentOptionList.array.set 0 .externalPayment, 1⟩ }) h
  · exact h

/-- The check depends on the payment option that was selected. -/
theorem checkContract_circumstances
    (hOption : first.isoSelectedPaymentOption = second.isoSelectedPaymentOption)
    (check : ContractCheck) :
    (first.checkContract check).1.circumstances = (second.checkContract check).1.circumstances := by
  simp only [circumstances, Circumstances.mk.injEq] at h
  unfold checkContract
  cases hSecond : second.isoSelectedPaymentOption with
  | contract => cases check <;> simp_all [circumstances]
  | externalPayment => cases check <;> simp_all [circumstances]

/-- A tuple is selected from the schedules of the EVSE. -/
theorem selectSchedule_circumstances (tupleId : ℕ) :
    (first.selectSchedule tupleId).circumstances = (second.selectSchedule tupleId).circumstances := by
  simp only [circumstances, Circumstances.mk.injEq] at h
  unfold selectSchedule
  by_cases hOffered : tupleId ∈ second.saScheduleTupleIds
  · simp_all [circumstances]
  · simp_all [circumstances]

/-- A renegotiation forgets the same in both contexts. -/
theorem resetForRenegotiation_circumstances :
    first.resetForRenegotiation.circumstances = second.resetForRenegotiation.circumstances := by
  simp only [circumstances, Circumstances.mk.injEq] at h
  unfold resetForRenegotiation
  cases hKind : second.isDcCharger with
  | false => simp_all [circumstances]
  | true => simp_all [circumstances, setProcessing]

/-- Beside the circumstances, the side effect of an ISO request depends on the terms of
the connection and on the last message. -/
theorem isoSideEffect_circumstances (hTerms : SameTerms second first)
    (hLast : first.lastV2gMsg = second.lastV2gMsg) (isTlsConnection : Bool)
    (body : IsoBody) :
    (first.isoSideEffect isTlsConnection body).circumstances =
      (second.isoSideEffect isTlsConnection body).circumstances := by
  cases body with
  | serviceDiscovery => exact withholdContract_circumstances first second h isTlsConnection
  | paymentDetails check =>
      exact checkContract_circumstances first second h hTerms.isoSelectedPaymentOption check
  | chargeParameterDiscovery requestedMode acParameterIsUsed dcParameterIsUsed =>
      simp only [circumstances, Circumstances.mk.injEq] at h
      rw [isoSideEffect, isoSideEffect, hTerms.parameter]
      by_cases hFinished : second.evseProcessing .parameter = .finished
      · simp_all [circumstances]
      · simp_all [circumstances]
  | powerDelivery progress tupleId =>
      have hSelected := selectSchedule_circumstances first second h tupleId
      rw [isoSideEffect, isoSideEffect, afterChargeLoop, afterChargeLoop, hLast]
      split
      · exact resetForRenegotiation_circumstances _ _ hSelected
      · exact hSelected
  | _ => exact h

end Congruence

variable (around : Surroundings) (ctx : V2gContext)

/-- Targets of the car are no circumstances. -/
theorem publishTargets_circumstances (voltage current : PhysicalValue) :
    (ctx.publishTargets voltage current).1.circumstances = ctx.circumstances := by
  unfold publishTargets
  dsimp only
  split <;> rfl

/-- A session id is no circumstance. -/
theorem ensureSessionId_circumstances (randomId : ℕ) :
    (ctx.ensureSessionId randomId).circumstances = ctx.circumstances := by
  unfold ensureSessionId
  split <;> rfl

/-- Whether the charger charges is no circumstance. -/
theorem isCharging_circumstances (isCharging : Bool) (p : Prop) [Decidable p] :
    (if p then { ctx with isCharging := isCharging } else ctx).circumstances =
      ctx.circumstances := by
  split <;> rfl

/-- What a handler of DIN 70121 does to the circumstances is its side effect alone. -/
theorem dinDispatch_circumstances (body : DinBody) :
    (ctx.dinDispatch around body).ctx.circumstances = (ctx.dinSideEffect body).circumstances := by
  cases body with
  | currentDemand voltage current =>
      rw [dinDispatch, Handling.after_ctx]
      exact (publishTargets_circumstances _ voltage current).trans (isCharging_circumstances ctx _ _)
  | sessionSetup evccid => exact ensureSessionId_circumstances _ around.randomId
  | serviceDiscovery =>
      exact correctEnergyTransferMode_circumstances (ctx.withMsg .serviceDiscovery) ctx rfl
  | preCharge voltage current => exact publishTargets_circumstances _ voltage current
  | powerDelivery readyToChargeState profileTupleId =>
      rw [dinDispatch, handleDinPowerDelivery_ctx]
      exact isCharging_circumstances _ _ _
  | _ => rfl

/-- While the EVSE waits for its contactor, commands are taken up. -/
theorem applyProgress_circumstances (progress : ChargeProgress) (meanwhile : List EvseCommand) :
    (ctx.applyProgress progress meanwhile).1.circumstances =
      (ctx.commands meanwhile).circumstances := by
  cases progress with
  | start =>
      unfold applyProgress
      dsimp only
      split
      · rfl
      · exact commands_circumstances { ctx with isCharging := true } ctx rfl meanwhile
  | stop => exact commands_circumstances { ctx with isCharging := false } ctx rfl meanwhile
  | renegotiate =>
      exact commands_circumstances { ctx with renegotiationRequired := true } ctx rfl meanwhile
  | other => rfl

/-- The commands that come meanwhile, and then the side effect of the delivery. -/
theorem handleIsoPowerDelivery_circumstances (isTlsConnection : Bool) (progress : ChargeProgress)
    (tupleId : ℕ) :
    (ctx.handleIsoPowerDelivery around progress tupleId).ctx.circumstances =
      ((ctx.commands around.meanwhile).isoSideEffect isTlsConnection
        (.powerDelivery progress tupleId)).circumstances := by
  have hInner : (ctx.duringDelivery around progress tupleId).circumstances =
      ((ctx.commands around.meanwhile).selectSchedule tupleId).circumstances :=
    selectSchedule_circumstances _ _ (applyProgress_circumstances ctx progress _) tupleId
  have hLoop : (ctx.duringDelivery around progress tupleId).afterChargeLoop =
      (ctx.commands around.meanwhile).afterChargeLoop := by
    unfold afterChargeLoop
    rw [duringDelivery_lastV2gMsg, (commands_sameCourse ctx around.meanwhile).lastV2gMsg]
  rw [handleIsoPowerDelivery_eq, isoSideEffect]
  dsimp only
  rw [hLoop]
  split
  · exact resetForRenegotiation_circumstances _ _ hInner
  · split
    · exact hInner
    · split <;> exact hInner

/-- While the EVSE waits for the backend, commands are taken up. -/
theorem awaitCertificate_circumstances (meanwhile : List EvseCommand) :
    (ctx.awaitCertificate meanwhile).circumstances = (ctx.commands meanwhile).circumstances := by
  unfold awaitCertificate
  dsimp only
  split <;> rfl

/-- Without memory for the answer there is no wait. -/
theorem handleIsoCertificateInstallation_circumstances :
    (ctx.handleIsoCertificateInstallation around).ctx.circumstances =
      (ctx.commands (if around.allocates then around.meanwhile else [])).circumstances := by
  unfold handleIsoCertificateInstallation
  dsimp only
  cases around.allocates with
  | false => rfl
  | true =>
      rw [if_neg (by decide), if_pos rfl, ← awaitCertificate_circumstances]
      split <;> rfl

/-- Commands arrive at contexts of the same terms and the same last message. -/
theorem commands_sideEffect (first second : V2gContext)
    (h : first.circumstances = second.circumstances) (hTerms : SameTerms second first)
    (hLast : first.lastV2gMsg = second.lastV2gMsg) (arriving : List EvseCommand)
    (isTlsConnection : Bool) (body : IsoBody) :
    ((first.commands arriving).isoSideEffect isTlsConnection body).circumstances =
      ((second.commands arriving).isoSideEffect isTlsConnection body).circumstances := by
  have hFirst := commands_sameCourse first arriving
  have hSecond := commands_sameCourse second arriving
  apply isoSideEffect_circumstances _ _ (commands_circumstances first second h arriving)
  · refine SameTerms.trans ?_ (hTerms.trans hFirst.terms)
    exact ⟨hSecond.terms.1.symm, hSecond.terms.2.symm, hSecond.terms.3.symm, hSecond.terms.4.symm,
      hSecond.terms.5.symm⟩
  · rw [hFirst.lastV2gMsg, hSecond.lastV2gMsg, hLast]

/-- What a handler of ISO 15118-2 does to the circumstances: commands, if it takes them up, and its
side effect. -/
theorem isoDispatch_circumstances (isTlsConnection : Bool) (sessionId : SessionIdField)
    (body : IsoBody) :
    (ctx.isoDispatch around isTlsConnection body).ctx.circumstances =
      ((ctx.commands (V2gRequest.takesUp around (.iso ⟨true, sessionId, body⟩))).isoSideEffect
        isTlsConnection body).circumstances := by
  cases body with
  | currentDemand voltage current =>
      rw [isoDispatch, Handling.after_ctx]
      exact (publishTargets_circumstances _ voltage current).trans (isCharging_circumstances ctx _ _)
  | sessionSetup evccid => exact ensureSessionId_circumstances _ around.randomId
  | serviceDiscovery =>
      exact withholdContract_circumstances { ctx.withMsg .serviceDiscovery with
        chargeServiceId := serviceIdCharging } ctx rfl isTlsConnection
  | paymentServiceSelection option services =>
      cases option with
      | contract => rfl
      | externalPayment =>
          show circumstances (setProcessing _ _ _) = _
          simp [circumstances, setProcessing, isoConclude, V2gRequest.takesUp, commands,
            isoSideEffect, withMsg]
  | paymentDetails check =>
      exact checkContract_circumstances (ctx.withMsg .paymentDetails) ctx rfl rfl check
  | chargeParameterDiscovery requestedMode acParameterIsUsed dcParameterIsUsed =>
      show circumstances { ctx with saScheduleTupleIds :=
          (if ctx.evseProcessing .parameter = .finished then _ else _) } =
        (if ctx.evseProcessing .parameter = .finished then _ else _ : V2gContext).circumstances
      split <;> rfl
  | powerDelivery progress tupleId =>
      rw [isoDispatch, handleIsoPowerDelivery_circumstances around _ isTlsConnection]
      exact commands_sideEffect (ctx.withMsg .powerDelivery) ctx rfl (withMsg_sameTerms ctx _) rfl
        around.meanwhile isTlsConnection (.powerDelivery progress tupleId)
  | certificateInstallation =>
      rw [isoDispatch, handleIsoCertificateInstallation_circumstances]
      exact commands_circumstances (ctx.withMsg .certificateInstallation) ctx rfl _
  | preCharge voltage current => exact publishTargets_circumstances _ voltage current
  | _ => rfl

end V2gContext

/-- The circumstances of a session change by the commands that a request takes up and by
its side effect, and by nothing else. -/
theorem V2gRequest.handle_circumstances (request : V2gRequest) (isTlsConnection : Bool)
    (around : Surroundings) (ctx : V2gContext) :
    (request.handle isTlsConnection around ctx).ctx.circumstances =
      (request.sideEffect isTlsConnection (ctx.commands (request.takesUp around))).circumstances := by
  cases request with
  | din request =>
      obtain ⟨used, sessionId, body⟩ := request
      cases used with
      | false => rfl
      | true =>
          rw [handle, dinHandleRequest_used rfl, Handling.noteLastMsg_ctx]
          refine (V2gContext.dinDispatch_circumstances around _ body).trans ?_
          cases body with
          | serviceDiscovery =>
              exact V2gContext.correctEnergyTransferMode_circumstances { ctx with
                receivedSessionId := v2gSessionIdFromExi sessionId } ctx rfl
          | _ => rfl
  | iso request =>
      obtain ⟨used, sessionId, body⟩ := request
      cases used with
      | false => rfl
      | true =>
          rw [handle, isoHandleRequest_used around isTlsConnection ctx rfl,
            Handling.noteLastMsg_ctx]
          refine (V2gContext.isoDispatch_circumstances around _ isTlsConnection sessionId body).trans ?_
          exact V2gContext.commands_sideEffect { ctx with
            receivedSessionId := v2gSessionIdFromExi sessionId } ctx rfl ⟨rfl, rfl, rfl, rfl, rfl⟩
            rfl _ isTlsConnection body

/-- Of the signs that the EVSE gives, a notification may be taken back and the isolation
phase may begin anew. -/
structure Circumstances.OnlyReset (before after : Circumstances) : Prop where
  stopHlc : after.stopHlc = before.stopHlc
  evseStatusCode : after.evseStatusCode = before.evseStatusCode
  evseNotification : after.evseNotification = before.evseNotification ∨
    after.evseNotification = .none
  isolationProcessing : after.isolationProcessing = before.isolationProcessing ∨
    after.isolationProcessing = .ongoing

namespace V2gContext

open Circumstances

/-- A renegotiation takes circumstances back, and adds none. -/
theorem resetForRenegotiation_onlyReset (ctx : V2gContext) :
    OnlyReset ctx.circumstances ctx.resetForRenegotiation.circumstances := by
  have hNotification : (if ctx.evseNotification = .reNegotiation then .none
      else ctx.evseNotification) = ctx.evseNotification ∨
      (if ctx.evseNotification = .reNegotiation then .none else ctx.evseNotification) =
        EvseNotification.none := by
    split
    · exact .inr rfl
    · exact .inl rfl
  unfold resetForRenegotiation
  dsimp only
  split
  · exact ⟨rfl, rfl, hNotification, .inr rfl⟩
  · exact ⟨rfl, rfl, hNotification, .inl rfl⟩

/-- No request of a car adds circumstances. -/
theorem isoSideEffect_onlyReset (ctx : V2gContext) (isTlsConnection : Bool) (body : IsoBody) :
    OnlyReset ctx.circumstances (ctx.isoSideEffect isTlsConnection body).circumstances := by
  cases body with
  | serviceDiscovery =>
      rw [isoSideEffect, withholdContract]
      split <;> exact ⟨rfl, rfl, .inl rfl, .inl rfl⟩
  | paymentDetails check =>
      rw [isoSideEffect, checkContract]
      dsimp only
      split
      · exact ⟨rfl, rfl, .inl rfl, .inl rfl⟩
      · split <;> exact ⟨rfl, rfl, .inl rfl, .inl rfl⟩
  | chargeParameterDiscovery requestedMode acParameterIsUsed dcParameterIsUsed =>
      rw [isoSideEffect]
      split <;> exact ⟨rfl, rfl, .inl rfl, .inl rfl⟩
  | powerDelivery progress tupleId =>
      obtain ⟨selected, hSelected⟩ : ∃ id, ctx.selectSchedule tupleId =
          { ctx with saScheduleTupleId := id } := by
        unfold selectSchedule
        split
        · exact ⟨tupleId, rfl⟩
        · exact ⟨ctx.saScheduleTupleId, rfl⟩
      rw [isoSideEffect, hSelected]
      split
      · have hReset := resetForRenegotiation_onlyReset { ctx with saScheduleTupleId := selected }
        exact ⟨hReset.stopHlc, hReset.evseStatusCode, hReset.evseNotification,
          hReset.isolationProcessing⟩
      · exact ⟨rfl, rfl, .inl rfl, .inl rfl⟩
  | _ => exact ⟨rfl, rfl, .inl rfl, .inl rfl⟩

end V2gContext

/-- No request raises a sign of its own. -/
theorem V2gRequest.sideEffect_onlyReset (request : V2gRequest) (isTlsConnection : Bool)
    (ctx : V2gContext) :
    Circumstances.OnlyReset ctx.circumstances
      (request.sideEffect isTlsConnection ctx).circumstances := by
  cases request with
  | din request =>
      rw [sideEffect]
      split
      · cases request.body with
        | serviceDiscovery =>
            rw [V2gContext.dinSideEffect, V2gContext.correctEnergyTransferMode]
            split <;> exact ⟨rfl, rfl, .inl rfl, .inl rfl⟩
        | _ => exact ⟨rfl, rfl, .inl rfl, .inl rfl⟩
      · exact ⟨rfl, rfl, .inl rfl, .inl rfl⟩
  | iso request =>
      rw [sideEffect]
      split
      · exact ctx.isoSideEffect_onlyReset isTlsConnection request.body
      · exact ⟨rfl, rfl, .inl rfl, .inl rfl⟩

/-- What the teardown leaves of the circumstances. -/
def Circumstances.ended (circumstances : Circumstances) : Circumstances :=
  { circumstances with
    stopHlc := false
    evseNotification := .none
    evseStatusCode := initStatusCode circumstances.evseStatusCode
    isolationProcessing := .ongoing
    saScheduleTupleIds := [1] }

/-- A new session starts with what is left of the circumstances of the last one. -/
theorem initChargingSession_circumstances (isConnectionTerminated : Bool) (ctx : V2gContext) :
    (initChargingSession isConnectionTerminated ctx).circumstances = ctx.circumstances.ended := rfl

namespace Server

/-- How many connections have been opened so far. -/
def connections (s : Server) : ℕ := s.history.countP Entry.isConnected

/-- The number of the connection that is open. -/
def session (s : Server) : Option ℕ := if s.stage = .idle then none else some s.connections

/-- What one step means for the sessions and their circumstances. -/
inductive Passage (s : Server) (input : Input) (next : Server) : Prop where
  | stays (hSession : next.session = s.session)
      (hCtx : next.ctx.circumstances = s.ctx.circumstances)
  | begins (hBefore : s.session = none) (hSession : next.session = some (s.connections + 1))
      (hCtx : next.ctx = initChargingState false s.ctx)
  | ends (inner : V2gContext) (hSession : next.session = none)
      (hInner : inner.circumstances = s.ctx.circumstances)
      (hCtx : next.ctx = initChargingSession true inner)
  | exchanged (request : V2gRequest) (around : Surroundings) (delivered : Bool)
      (hInput : input = .receive (.request request around delivered))
      (hStage : s.stage = .serving request.protocol)
      (hAfter : (next.session = s.session ∧
          next.ctx = (request.handle s.isTlsConnection around s.ctx).ctx) ∨
        (next.session = none ∧
          next.ctx = initChargingSession true (request.handle s.isTlsConnection around s.ctx).ctx))
  | commanded (command : EvseCommand) (hInput : input = .command command)
      (hSession : next.session = s.session) (hCtx : next.ctx = s.ctx.command command)

variable {s next : Server}

/-- Without a connection there is no session. -/
theorem session_of_idle (h : s.stage = .idle) : s.session = none := if_pos h

/-- Sessions are numbered by their connections. -/
theorem session_of_open (h : s.stage ≠ .idle) : s.session = some s.connections := if_neg h

/-- An entry that opens no connection leaves the number of the connection. -/
theorem session_note {entry : Entry} (hEntry : entry.isConnected = false)
    (hStage : next.stage = s.stage) (hHistory : next.history = s.history ++ [entry]) :
    next.session = s.session := by
  have hCount : next.connections = s.connections := by
    rw [connections, hHistory, List.countP_append, List.countP_singleton, hEntry]
    rfl
  rw [session, session, hStage, hCount]

/-- A command belongs to no session of its own. -/
theorem session_command (s : Server) (command : EvseCommand) :
    (s.step (.command command)).session = s.session ∧
      (s.step (.command command)).connections = s.connections := by
  refine ⟨session_note rfl rfl rfl, ?_⟩
  rw [connections, step, note_history, List.countP_append]
  rfl

/-- Each step hands the circumstances on in one of the ways that are listed. -/
theorem step_passage (s : Server) (input : Input) : Passage s input (s.step input) := by
  have hEffect := step_effect s input
  generalize s.step input = next at hEffect ⊢
  cases hEffect with
  | unchanged => exact .stays rfl rfl
  | refused hStage => exact .ends s.ctx (session_of_idle hStage) rfl rfl
  | opened hStage hState isTls =>
      refine .begins (session_of_idle hStage) ?_ rfl
      have hOpen : (s.opened isTls).stage ≠ .idle := Stage.noConfusion
      rw [session_of_open hOpen, connections, opened, note_history, List.countP_append]
      rfl
  | openedInVain hStage hState isTls => exact .ends s.ctx (session_of_idle rfl) rfl rfl
  | agreed hStage protocol =>
      refine .stays ?_ rfl
      have hBefore : s.stage ≠ .idle := by
        rw [hStage]
        exact Stage.noConfusion
      rw [session_of_open hBefore]
      exact session_of_open Stage.noConfusion
  | disagreed hStage protocol =>
      exact .ends (s.shook protocol).ctx (session_of_idle rfl) rfl rfl
  | left hStage => exact .ends s.ctx (session_of_idle rfl) rfl rfl
  | exchanged request around delivered hStage hInput =>
      refine .exchanged request around delivered hInput hStage ?_
      unfold exchange
      dsimp only
      split
      · left
        exact ⟨session_note rfl rfl rfl, rfl⟩
      · right
        exact ⟨session_of_idle rfl, rfl⟩
  | commanded command hInput =>
      exact .commanded command hInput (session_note rfl rfl rfl) rfl

/-- The history only grows. -/
theorem step_history (s : Server) (input : Input) : s.history <+: (s.step input).history := by
  have hEffect := step_effect s input
  generalize s.step input = next at hEffect ⊢
  cases hEffect with
  | unchanged => exact List.prefix_refl _
  | agreed hStage protocol => exact List.prefix_refl _
  | openedInVain hStage hState isTls =>
      exact (List.prefix_append _ _).trans (List.prefix_append _ _)
  | exchanged request around delivered hStage hInput =>
      unfold exchange
      dsimp only
      split
      · exact List.prefix_append _ _
      · exact (List.prefix_append _ _).trans (List.prefix_append _ _)
  | _ => exact List.prefix_append _ _

/-- Connections are only ever added. -/
theorem connections_le_step (s : Server) (input : Input) :
    s.connections ≤ (s.step input).connections :=
  (step_history s input).sublist.countP_le

end Server

end EverestCore.V2G
