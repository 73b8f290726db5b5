import EverestCore.V2G.EvseData

/-! What earlier sessions leave behind. Beside the configuration, four things outlive the
teardown: the status code that a command has forced on all phases, the schedule that a car
has selected, the limits that a car has reached, and the id of the meter. And a service
discovery may correct what is on offer for good. Two histories with the same configuration
are compared by what they leave. -/
namespace EverestCore.V2G
open Machine

/-- The configuration among the commands. -/
def EvseCommand.configures : EvseCommand → Bool
  | .setPaymentOptions _ => true
  | .setSupportedEnergyTransferMode _ => true
  | .setReceiptRequired _ => true
  | .enableDebugMode _ => true
  | _ => false

/-- The status code that a command forces on all phases. -/
def EvseCommand.forces : EvseCommand → Option EvseStatusCode
  | .stopCharging true => some .shutdown
  | .setEVSEUtilityInterruptEvent true => some .utilityInterruptEvent
  | .setEVSEMalfunction true => some .malfunction
  | _ => none

/-- The configuration among the data, as opposed to what is measured. -/
def EvseValue.configures : EvseValue → Bool
  | .setRCDError _ => false
  | .setDCEVSEPresentVoltageCurrent _ _ => false
  | .setMeterInfo _ _ => false
  | _ => true

/-- The id of the meter, if the reading brings one that fits. -/
def EvseValue.meterId (sizes : CharacterSizes) : EvseValue → Option (List UInt8)
  | .setMeterInfo _ meterId => meterId.bind (fittingId sizes.meterId)
  | _ => none

/-- The schedule that the car selects, if it is on offer. -/
def V2gRequest.selects (ctx : V2gContext) : V2gRequest → Option ℕ
  | .iso ⟨true, _, .powerDelivery _ tupleId⟩ =>
      if tupleId ∈ ctx.saScheduleTupleIds then some tupleId else none
  | _ => none

/-- The limits that the car reaches, if its request is compared with them. -/
def V2gRequest.reaches (data : EvseData) : V2gRequest → Option LimitsAchieved
  | .iso ⟨true, _, .currentDemand evTargetVoltage evTargetCurrent⟩ =>
      some (data.reached evTargetVoltage evTargetCurrent)
  | _ => none

/-- The request finds an offer that its handler corrects: a contract without TLS, or a first
mode that DIN does not know. -/
def V2gRequest.correctsOffer (isTlsConnection : Bool) (ctx : V2gContext) : V2gRequest → Bool
  | .iso ⟨true, _, .serviceDiscovery⟩ =>
      !isTlsConnection && !ctx.debugMode &&
        (ctx.paymentOptionList.array.take 2).contains .contract &&
        ctx.paymentOptionList ≠ ⟨ctx.paymentOptionList.array.set 0 .externalPayment, 1⟩
  | .din ⟨true, _, .serviceDiscovery⟩ =>
      ctx.firstEnergyTransferMode ≠ some .dcCore ∧ ctx.firstEnergyTransferMode ≠ some .dcExtended
  | _ => false

def Input.commands : Input → List EvseCommand
  | .command sent => [sent]
  | _ => []

/-- The commands that reach the context with an input. -/
def Server.hears (s : Server) (input : Input) : List EvseCommand :=
  match s.handles input with
  | some (request, around) => request.takesUp around
  | none => input.commands

/-- The configuration that was received. -/
structure Configuration where
  commands : List EvseCommand := []
  values : List EvseValue := []
  deriving DecidableEq, Repr

/-- What is left of the sessions. -/
@[ext] structure Remains where
  statusCode : EvseStatusCode := .notReady
  saScheduleTupleId : ℕ := 0
  limitsAchieved : LimitsAchieved := {}
  meterId : List UInt8 := []
  deriving DecidableEq, Repr

structure Legacy where
  configuration : Configuration := {}
  remains : Remains := {}

/-- The last code that is forced counts. -/
def Remains.force (arriving : List EvseCommand) (remains : Remains) : Remains :=
  { remains with
    statusCode := arriving.foldl (fun code sent => sent.forces.getD code) remains.statusCode }

/-- What a request leaves. -/
def Remains.leave (s : Station) (request : V2gRequest) (remains : Remains) : Remains :=
  { remains with
    saScheduleTupleId := (request.selects s.server.ctx).getD remains.saScheduleTupleId
    limitsAchieved := (request.reaches s.data).getD remains.limitsAchieved }

/-- What an input adds. -/
def Legacy.note (sizes : CharacterSizes) (s : Station) (input : StationInput) (legacy : Legacy) :
    Legacy :=
  match input with
  | .server input =>
      let heard := s.server.hears input
      let forced := legacy.remains.force heard
      { configuration := { legacy.configuration with
          commands := legacy.configuration.commands ++ heard.filter EvseCommand.configures }
        remains := match s.server.handles input with
          | some (request, _) => forced.leave s request
          | none => forced }
  | .supply value =>
      { configuration := { legacy.configuration with
          values := legacy.configuration.values ++ [value].filter EvseValue.configures }
        remains := { legacy.remains with
          meterId := (value.meterId sizes).getD legacy.remains.meterId } }

namespace V2gContext

variable {ctx : V2gContext}

/-- Without TLS the offer is as the handler would correct it. -/
theorem withholdContract_of_offered {isTlsConnection : Bool} {sessionId : SessionIdField}
    (hOffer : V2gRequest.correctsOffer isTlsConnection ctx
      (.iso ⟨true, sessionId, .serviceDiscovery⟩) = false) :
    ctx.withholdContract isTlsConnection = ctx := by
  unfold withholdContract
  split
  · next hWithheld =>
      have hSame : ctx.paymentOptionList =
          ⟨ctx.paymentOptionList.array.set 0 .externalPayment, 1⟩ := by
        rw [V2gRequest.correctsOffer, hWithheld, Bool.true_and] at hOffer
        exact not_not.mp (of_decide_eq_false hOffer)
      rw [← hSame]
  · rfl

/-- As no contract can be selected, none is found to be valid. -/
theorem checkContract_of_externalPayment (hOption : ctx.isoSelectedPaymentOption = .externalPayment)
    (hCrt : ctx.validCrt = false) (check : ContractCheck) : (ctx.checkContract check).1 = ctx := by
  have hSame : { ctx with validCrt := false } = ctx := by rw [← hCrt]
  unfold checkContract
  dsimp only
  split
  · rfl
  · split
    · next hContract _ => cases hOption.symm.trans hContract
    · exact hSame

theorem selectSchedule_ended (tupleId : ℕ) (ctx : V2gContext) :
    (ctx.selectSchedule tupleId).circumstances.ended =
      { ctx.circumstances.ended with
        saScheduleTupleId :=
          (if tupleId ∈ ctx.saScheduleTupleIds then some tupleId else none).getD
            ctx.saScheduleTupleId } := by
  unfold selectSchedule
  split <;> rfl

theorem resetForRenegotiation_ended (ctx : V2gContext) :
    ctx.resetForRenegotiation.circumstances.ended = ctx.circumstances.ended := by
  unfold resetForRenegotiation
  dsimp only
  split <;> rfl

end V2gContext

/-- What a request does to the circumstances that outlive the session: if it corrects no
offer, it may select a schedule. -/
theorem V2gRequest.sideEffect_ended (request : V2gRequest) (isTlsConnection : Bool)
    (ctx : V2gContext) (hOption : ctx.isoSelectedPaymentOption = .externalPayment)
    (hCrt : ctx.validCrt = false) (hOffer : request.correctsOffer isTlsConnection ctx = false) :
    (request.sideEffect isTlsConnection ctx).circumstances.ended =
      { ctx.circumstances.ended with
        saScheduleTupleId := (request.selects ctx).getD ctx.saScheduleTupleId } := by
  cases request with
  | din request =>
      obtain ⟨used, sessionId, body⟩ := request
      cases used with
      | false => rfl
      | true =>
          cases body with
          | serviceDiscovery =>
              have hMode := of_decide_eq_false hOffer
              show ctx.correctEnergyTransferMode.circumstances.ended = ctx.circumstances.ended
              rw [V2gContext.correctEnergyTransferMode, if_neg hMode]
          | _ => rfl
  | iso request =>
      obtain ⟨used, sessionId, body⟩ := request
      cases used with
      | false => rfl
      | true =>
          cases body with
          | serviceDiscovery =>
              show (ctx.withholdContract isTlsConnection).circumstances.ended =
                ctx.circumstances.ended
              rw [V2gContext.withholdContract_of_offered hOffer]
          | paymentDetails check =>
              show (ctx.checkContract check).1.circumstances.ended = ctx.circumstances.ended
              rw [V2gContext.checkContract_of_externalPayment hOption hCrt]
          | chargeParameterDiscovery requestedMode acParameterIsUsed dcParameterIsUsed =>
              show (if ctx.evseProcessing .parameter = .finished then _ else _ :
                V2gContext).circumstances.ended = ctx.circumstances.ended
              split <;> rfl
          | powerDelivery progress tupleId =>
              refine Eq.trans ?_ (V2gContext.selectSchedule_ended tupleId ctx)
              show (if progress = .renegotiate ∧ ctx.afterChargeLoop then _ else _ :
                V2gContext).circumstances.ended = _
              split
              · exact V2gContext.resetForRenegotiation_ended _
              · rfl
          | _ => rfl

/-- The circumstances after a teardown, from the configuration and from what is left. -/
def Circumstances.inherited (configured : Circumstances) (remains : Remains) : Circumstances :=
  { configured.ended with
    evseStatusCode := initStatusCode fun _ => remains.statusCode
    saScheduleTupleId := remains.saScheduleTupleId }

theorem initStatusCode_initStatusCode (codes : ChargingPhase → EvseStatusCode) :
    initStatusCode (initStatusCode codes) = initStatusCode codes := by
  funext phase
  cases phase <;> rfl

theorem Circumstances.ended_ended (circumstances : Circumstances) :
    circumstances.ended.ended = circumstances.ended :=
  congrArg (fun codes => { circumstances.ended with evseStatusCode := codes })
    (initStatusCode_initStatusCode circumstances.evseStatusCode)

namespace V2gContext

theorem commands_append (ctx : V2gContext) (first second : List EvseCommand) :
    ctx.commands (first ++ second) = (ctx.commands first).commands second := List.foldl_append

/-- A command configures, or forces a status code, or is gone with the session. -/
theorem command_inherited (ctx configured : V2gContext) (remains : Remains)
    (h : ctx.circumstances.ended = configured.circumstances.inherited remains)
    (sent : EvseCommand) :
    (ctx.command sent).circumstances.ended =
      (configured.commands ([sent].filter EvseCommand.configures)).circumstances.inherited
        (remains.force [sent]) := by
  have hForced (code : EvseStatusCode) := congrArg (fun circumstances : Circumstances =>
    { circumstances with evseStatusCode := initStatusCode fun _ => code }) h
  cases sent with
  | setPaymentOptions options =>
      exact congrArg (fun circumstances : Circumstances => { circumstances with
        paymentOptionList := circumstances.paymentOptionList.refill options }) h
  | setSupportedEnergyTransferMode modes =>
      exact congrArg (fun circumstances : Circumstances => { circumstances with
        supportedEnergyTransferMode := circumstances.supportedEnergyTransferMode.refill modes
        isDcCharger := !modes.any EnergyTransferMode.isAc }) h
  | enableDebugMode mode =>
      exact congrArg (fun circumstances : Circumstances => { circumstances with
        debugMode := mode ≠ DebugMode.none }) h
  | setAuthOkayEIM authOkay => cases authOkay <;> exact h
  | stopCharging stop =>
      cases stop with
      | false => exact h
      | true => exact hForced .shutdown
  | setEVSEUtilityInterruptEvent event =>
      cases event with
      | false => exact h
      | true => exact hForced .utilityInterruptEvent
  | setEVSEMalfunction malfunction =>
      cases malfunction with
      | false => exact h
      | true => exact hForced .malfunction
  | _ => exact h

theorem commands_inherited (ctx configured : V2gContext) (remains : Remains)
    (h : ctx.circumstances.ended = configured.circumstances.inherited remains)
    (arriving : List EvseCommand) :
    (ctx.commands arriving).circumstances.ended =
      (configured.commands (arriving.filter EvseCommand.configures)).circumstances.inherited
        (remains.force arriving) := by
  induction arriving generalizing ctx configured remains with
  | nil => exact h
  | cons sent rest ih =>
      have hRest := ih _ _ _ (command_inherited ctx configured remains h sent)
      rw [← commands_append, ← List.filter_append] at hRest
      exact hRest

/-- What a request relies on is not touched by commands. -/
theorem command_kept (ctx : V2gContext) (sent : EvseCommand) :
    (ctx.command sent).saScheduleTupleIds = ctx.saScheduleTupleIds ∧
      (ctx.command sent).saScheduleTupleId = ctx.saScheduleTupleId ∧
      (ctx.command sent).validCrt = ctx.validCrt := by
  cases sent with
  | setAuthOkayEIM authOkay => cases authOkay <;> exact ⟨rfl, rfl, rfl⟩
  | stopCharging stop => cases stop <;> exact ⟨rfl, rfl, rfl⟩
  | setEVSEUtilityInterruptEvent event => cases event <;> exact ⟨rfl, rfl, rfl⟩
  | setEVSEMalfunction malfunction => cases malfunction <;> exact ⟨rfl, rfl, rfl⟩
  | _ => exact ⟨rfl, rfl, rfl⟩

theorem commands_kept (ctx : V2gContext) (arriving : List EvseCommand) :
    (ctx.commands arriving).saScheduleTupleIds = ctx.saScheduleTupleIds ∧
      (ctx.commands arriving).saScheduleTupleId = ctx.saScheduleTupleId ∧
      (ctx.commands arriving).validCrt = ctx.validCrt := by
  induction arriving generalizing ctx with
  | nil => exact ⟨rfl, rfl, rfl⟩
  | cons sent rest ih =>
      obtain ⟨hIds, hId, hCrt⟩ := command_kept ctx sent
      obtain ⟨ihIds, ihId, ihCrt⟩ := ih (ctx.command sent)
      exact ⟨ihIds.trans hIds, ihId.trans hId, ihCrt.trans hCrt⟩

end V2gContext

/-- An offer is corrected without waiting for anything. -/
theorem V2gRequest.correctsOffer_commands (request : V2gRequest) (isTlsConnection : Bool)
    (ctx : V2gContext) (around : Surroundings) :
    request.correctsOffer isTlsConnection (ctx.commands (request.takesUp around)) =
      request.correctsOffer isTlsConnection ctx := by
  cases request with
  | din request => rfl
  | iso request =>
      obtain ⟨used, sessionId, body⟩ := request
      cases used <;> cases body <;> rfl

theorem V2gRequest.selects_commands (request : V2gRequest) (ctx : V2gContext)
    (arriving : List EvseCommand) : request.selects (ctx.commands arriving) = request.selects ctx := by
  unfold selects
  rw [(ctx.commands_kept arriving).1]

namespace Server

variable {s : Server} {input : Input}

/-- A request that is handled, whether or not its connection is left, changes what
outlives the session as its handler does. -/
theorem step_ended_of_handles {request : V2gRequest} {around : Surroundings}
    (h : s.handles input = some (request, around)) :
    (s.step input).ctx.circumstances.ended =
      (request.handle s.isTlsConnection around s.ctx).ctx.circumstances.ended := by
  unfold handles at h
  split at h
  · next handled surroundings delivered =>
      split at h
      · next hStage =>
          cases h
          rw [step, hStage]
          show (receive _ _ s).ctx.circumstances.ended = _
          rw [receive, if_pos rfl, exchange]
          split
          · rfl
          · exact Circumstances.ended_ended
              (request.handle s.isTlsConnection around s.ctx).ctx.circumstances
      · cases h
  · cases h

theorem step_ended_of_quiet (h : s.handles input = none) (hCommands : input.commands = []) :
    (s.step input).ctx.circumstances.ended = s.ctx.circumstances.ended := by
  cases step_passage s input with
  | stays hSession hCtx => exact congrArg Circumstances.ended hCtx
  | begins hBefore hSession hCtx =>
      rw [hCtx]
      rfl
  | ends inner hSession hInner hCtx =>
      rw [hCtx, initChargingSession_circumstances, Circumstances.ended_ended, hInner]
  | exchanged request around delivered hInput hStage hAfter =>
      rw [hInput, handles, if_pos hStage] at h
      cases h
  | commanded sent hInput hSession hCtx =>
      rw [hInput] at hCommands
      cases hCommands

/-- Beside a request only a command changes what outlives the session. -/
theorem step_ended_of_not_handles (h : s.handles input = none) :
    (s.step input).ctx.circumstances.ended =
      (s.ctx.commands input.commands).circumstances.ended := by
  cases input with
  | command sent => rfl
  | _ => exact step_ended_of_quiet h rfl

/-- In every run the car pays externally. -/
theorem step_isoSelectedPaymentOption (s : Server) (input : Input)
    (h : s.ctx.isoSelectedPaymentOption = .externalPayment) :
    (s.step input).ctx.isoSelectedPaymentOption = .externalPayment := by
  have hEffect := step_effect s input
  generalize s.step input = next at hEffect ⊢
  cases hEffect with
  | unchanged => exact h
  | opened hStage hState isTls => exact h
  | agreed hStage protocol => exact h
  | exchanged request around delivered hStage hInput =>
      unfold exchange
      dsimp only
      split
      · exact (request.handle_sameTerms s.isTlsConnection around
          s.ctx).isoSelectedPaymentOption.trans h
      · rfl
  | commanded sent hInput =>
      exact (V2gContext.command_sameCourse s.ctx sent).terms.isoSelectedPaymentOption.trans h
  | _ => rfl

end Server

/-- What a session starts with is in the circumstances, beside how failed responses are
taken. -/
theorem initChargingSession_congr {first second : V2gContext}
    (h : first.circumstances.ended = second.circumstances.ended)
    (hTerminate : first.terminateConnectionOnFailedResponse =
      second.terminateConnectionOnFailedResponse) :
    initChargingSession true first = initChargingSession true second := by
  simp only [Circumstances.ended, V2gContext.circumstances, Circumstances.mk.injEq] at h
  obtain ⟨hProtocols, hKind, hDebug, -, -, hCodes, -, hModes, hServices, -, hId, hOptions, hCrt⟩ := h
  simp only [initChargingSession, initChargingValues, initChargingState, hProtocols, hKind, hDebug,
    hCodes, hModes, hServices, hId, hOptions, hCrt, hTerminate]

namespace EvseData

/-- Of what a handler writes, only the limits that were reached outlive the session. -/
theorem handle_ended (ctx : V2gContext) (data : EvseData) (request : V2gRequest) :
    (data.handle ctx request).initChargingValues =
      { data.initChargingValues with
        limitsAchieved := (request.reaches data).getD data.limitsAchieved } := by
  cases request with
  | din request => rfl
  | iso request =>
      obtain ⟨used, sessionId, body⟩ := request
      cases used with
      | false => rfl
      | true =>
          cases body with
          | chargeParameterDiscovery requestedMode acParameterIsUsed dcParameterIsUsed =>
              show (if ctx.evseProcessing .parameter = .finished then _ else _ :
                EvseData).initChargingValues = data.initChargingValues
              split <;> rfl
          | _ => rfl

/-- The data after a teardown, from the configuration and from what is left. -/
def inherited (configured : EvseData) (remains : Remains) : EvseData :=
  { configured.initChargingValues with
    limitsAchieved := remains.limitsAchieved
    meterId := remains.meterId }

theorem supply_inherited (sizes : CharacterSizes) (data configured : EvseData) (remains : Remains)
    (h : data.initChargingValues = configured.inherited remains) (value : EvseValue) :
    (data.supply sizes value).initChargingValues =
      (configured.supplies sizes ([value].filter EvseValue.configures)).inherited
        { remains with meterId := (value.meterId sizes).getD remains.meterId } := by
  have hSupplied := congrArg (fun kept : EvseData => kept.supply sizes value) h
  cases value with
  | setRCDError rcd => exact h
  | setDCEVSEPresentVoltageCurrent voltage current => exact h
  | setMeterInfo total meterId =>
      exact congrArg (fun kept : EvseData => { kept with
        meterId := (meterId.bind (fittingId sizes.meterId)).getD kept.meterId }) h
  | _ => exact hSupplied

end EvseData

namespace Station

/-- The input corrects what is on offer. -/
def correctsOffer (s : Station) : StationInput → Bool
  | .server input =>
      (s.server.handles input).any fun handled =>
        handled.1.correctsOffer s.server.isTlsConnection s.server.ctx
  | .supply _ => false

/-- The input leaves the offer as it is configured. -/
def KeepsOffer (s : Station) (input : StationInput) : Prop := s.correctsOffer input = false

instance (s : Station) (input : StationInput) : Decidable (s.KeepsOffer input) :=
  inferInstanceAs (Decidable (_ = false))

/-- What a history leaves behind. -/
def legacy (sizes : CharacterSizes) (config : Config) (inputs : List StationInput) : Legacy :=
  remember (step sizes) (Legacy.note sizes) (start config) {} inputs

/-- The station has nothing from its past but the legacy. -/
structure Inherits (sizes : CharacterSizes) (config : Config) (s : Station) (kept : Legacy) :
    Prop where
  circumstances : s.server.ctx.circumstances.ended =
    ((v2gCtxCreate config).commands kept.configuration.commands).circumstances.inherited
      kept.remains
  data : s.data.initChargingValues =
    (EvseData.create.supplies sizes kept.configuration.values).inherited kept.remains
  isoSelectedPaymentOption : s.server.ctx.isoSelectedPaymentOption = .externalPayment
  onTerms : s.server.OnTerms config

variable {sizes : CharacterSizes} {config : Config} {s : Station} {kept : Legacy}

theorem Inherits.validCrt (h : s.Inherits sizes config kept) : s.server.ctx.validCrt = false := by
  have hCrt : s.server.ctx.validCrt =
      ((v2gCtxCreate config).commands kept.configuration.commands).validCrt :=
    congrArg Circumstances.validCrt h.circumstances
  rw [hCrt, (V2gContext.commands_kept _ _).2.2]
  rfl

/-- The circumstances of the next session after a request. -/
theorem Inherits.handle (h : s.Inherits sizes config kept) {request : V2gRequest}
    (around : Surroundings)
    (hOffer : request.correctsOffer s.server.isTlsConnection s.server.ctx = false) :
    (request.handle s.server.isTlsConnection around s.server.ctx).ctx.circumstances.ended =
      ((v2gCtxCreate config).commands (kept.configuration.commands ++
        (request.takesUp around).filter EvseCommand.configures)).circumstances.inherited
        ((kept.remains.force (request.takesUp around)).leave s request) := by
  have hTaken := V2gContext.commands_inherited _ _ _ h.circumstances (request.takesUp around)
  obtain ⟨-, hId, hCrt⟩ := s.server.ctx.commands_kept (request.takesUp around)
  have hTerms := (V2gContext.commands_sameCourse s.server.ctx (request.takesUp around)).terms
  rw [request.handle_circumstances, V2gRequest.sideEffect_ended, V2gRequest.selects_commands,
    V2gContext.commands_append, hTaken]
  · have hSelected : s.server.ctx.saScheduleTupleId = kept.remains.saScheduleTupleId :=
      congrArg Circumstances.saScheduleTupleId h.circumstances
    rw [hId, hSelected]
    rfl
  · exact hTerms.isoSelectedPaymentOption.trans h.isoSelectedPaymentOption
  · exact hCrt.trans h.validCrt
  · rw [V2gRequest.correctsOffer_commands]
    exact hOffer

theorem Inherits.data_handle (h : s.Inherits sizes config kept) (request : V2gRequest)
    (forced : Remains) (hLimits : forced.limitsAchieved = kept.remains.limitsAchieved)
    (hMeter : forced.meterId = kept.remains.meterId) :
    (s.data.handle s.server.ctx request).initChargingValues =
      (EvseData.create.supplies sizes kept.configuration.values).inherited
        (forced.leave s request) := by
  have hReached : s.data.limitsAchieved = kept.remains.limitsAchieved :=
    congrArg EvseData.limitsAchieved h.data
  rw [EvseData.handle_ended, h.data, EvseData.inherited, EvseData.inherited, hReached,
    Remains.leave, hLimits, hMeter]

/-- A teardown leaves the data as the next teardown would. -/
theorem step_data (s : Station) (input : Input) :
    (s.step sizes (.server input)).data.initChargingValues =
      (match s.server.handles input with
        | some (request, _) => s.data.handle s.server.ctx request
        | none => s.data).initChargingValues := by
  rw [step]
  dsimp only
  split <;> rfl

theorem step_inherits (s : Station) (kept : Legacy) (input : StationInput)
    (h : s.Inherits sizes config kept) (hOffer : s.KeepsOffer input) :
    (s.step sizes input).Inherits sizes config (kept.note sizes s input) := by
  cases input with
  | supply value =>
      refine ⟨h.circumstances, ?_, h.isoSelectedPaymentOption, h.onTerms⟩
      have hSupplied := EvseData.supply_inherited sizes _ _ _ h.data value
      rw [EvseData.supplies, EvseData.supplies, ← List.foldl_append] at hSupplied
      exact hSupplied
  | server input =>
      have hOption := s.server.step_isoSelectedPaymentOption input h.isoSelectedPaymentOption
      have hTerms := Server.step_onTerms s.server input h.onTerms
      cases hHandled : s.server.handles input with
      | some handled =>
          obtain ⟨request, around⟩ := handled
          rw [KeepsOffer, correctsOffer, hHandled] at hOffer
          rw [Legacy.note, Server.hears, hHandled]
          refine ⟨?_, ?_, hOption, hTerms⟩
          · exact (Server.step_ended_of_handles hHandled).trans (h.handle around hOffer)
          · rw [step_data, hHandled]
            exact h.data_handle request _ rfl rfl
      | none =>
          have hHeard := V2gContext.commands_inherited _ _ _ h.circumstances input.commands
          rw [← V2gContext.commands_append] at hHeard
          rw [Legacy.note, Server.hears, hHandled]
          refine ⟨?_, ?_, hOption, hTerms⟩
          · exact (Server.step_ended_of_not_handles hHandled).trans hHeard
          · rw [step_data, hHandled]
            exact h.data

theorem run_inherits (sizes : CharacterSizes) (config : Config) (inputs : List StationInput)
    (hOffer : EveryStep (step sizes) KeepsOffer (start config) inputs) :
    (run (step sizes) (start config) inputs).Inherits sizes config
      (legacy sizes config inputs) := by
  refine remember_invariant_of_everyStep (Inherits sizes config)
    ⟨?_, rfl, rfl, Server.run_onTerms config []⟩ step_inherits inputs hOffer
  exact congrArg (fun codes => { (v2gCtxCreate config).circumstances.ended with
    evseStatusCode := codes }) (initStatusCode_initStatusCode fun _ => .notReady)

/-- The legacy decides what a teardown leaves, and everything left shows in it. -/
theorem Inherits.teardown_eq_iff {first second : Station} {earlier later : Legacy}
    (hFirst : first.Inherits sizes config earlier) (hSecond : second.Inherits sizes config later)
    (hConfiguration : earlier.configuration = later.configuration) :
    first.teardown = second.teardown ↔ earlier.remains = later.remains := by
  obtain ⟨configuration, remains⟩ := later
  subst hConfiguration
  constructor
  · intro h
    have hCtx : first.server.ctx.circumstances.ended = second.server.ctx.circumstances.ended :=
      congrArg (fun left => left.1.circumstances) h
    rw [hFirst.circumstances, hSecond.circumstances] at hCtx
    have hData : first.data.initChargingValues = second.data.initChargingValues :=
      congrArg Prod.snd h
    rw [hFirst.data, hSecond.data] at hData
    -- The phase `init` shows the code that was forced.
    have hCode := congrFun (congrArg Circumstances.evseStatusCode hCtx) .init
    have hId := congrArg Circumstances.saScheduleTupleId hCtx
    have hLimits := congrArg EvseData.limitsAchieved hData
    have hMeter := congrArg EvseData.meterId hData
    exact Remains.ext hCode hId hLimits hMeter
  · intro h
    have hCtx : first.server.ctx.circumstances.ended = second.server.ctx.circumstances.ended := by
      rw [hFirst.circumstances, hSecond.circumstances, h]
    have hData : first.data.initChargingValues = second.data.initChargingValues := by
      rw [hFirst.data, hSecond.data, h]
    have hTerminate := hFirst.onTerms.terminate.trans hSecond.onTerms.terminate.symm
    exact Prod.ext (initChargingSession_congr hCtx hTerminate) hData

/-- Two histories with the same configuration, in which no offer is corrected, leave equal
contexts exactly if they agree in the last status code that was forced on all phases, in the
last schedule that was selected, in the limits that the last demand reached, and in the id of
the meter. -/
theorem isolated_iff_same_remains (sizes : CharacterSizes) (config : Config)
    (first second : List StationInput)
    (hFirst : EveryStep (step sizes) KeepsOffer (start config) first)
    (hSecond : EveryStep (step sizes) KeepsOffer (start config) second)
    (hConfiguration : (legacy sizes config first).configuration =
      (legacy sizes config second).configuration) :
    (run (step sizes) (start config) first).teardown =
        (run (step sizes) (start config) second).teardown ↔
      (legacy sizes config first).remains = (legacy sizes config second).remains :=
  (run_inherits sizes config first hFirst).teardown_eq_iff
    (run_inherits sizes config second hSecond) hConfiguration

/-- The longest ids that ISO 15118-2 allows. -/
def isoSizes : CharacterSizes := ⟨37, 32⟩

/-- A connection on which the car sends some requests and leaves. -/
def visit (isTls : Bool) (protocol : V2gProtocol) (requests : List Input) : List StationInput :=
  (Input.connect isTls isTls true :: .handshake (some [⟨protocol, 1⟩]) true true true ::
    (requests ++ [.receive .closedByPeer])).map .server

/-- The EVSE is set up for DC charging, with limits of 100 A, 50 kW and 500 V. -/
def setUp : List StationInput :=
  [.server (.command (.setSupportedEnergyTransferMode [.dcExtended])),
    .supply (.setDCEVSEMaximumLimits 100 50000 500)]

/-- A car that speaks DIN and one that speaks ISO over TLS leave the same context. -/
theorem isolated_after_discovery :
    let first := setUp ++ visit false .din70121 [dinInput (.sessionSetup []),
      dinInput .serviceDiscovery]
    let second := setUp ++ visit true .iso15118_2013 [isoInput (.sessionSetup []),
      isoInput .serviceDiscovery, isoInput (.currentDemand ⟨0, 400⟩ ⟨0, 20⟩)]
    (run (step isoSizes) (start strictConfig) first).teardown =
      (run (step isoSizes) (start strictConfig) second).teardown := by
  intro first second
  have hFirst : EveryStep (step isoSizes) KeepsOffer (start strictConfig) first := by
    decide
  have hSecond : EveryStep (step isoSizes) KeepsOffer (start strictConfig) second := by
    decide
  have hConfiguration : (legacy isoSizes strictConfig first).configuration =
      (legacy isoSizes strictConfig second).configuration := by decide
  apply (isolated_iff_same_remains isoSizes strictConfig first second hFirst hSecond
    hConfiguration).mpr
  decide +kernel

/-- Plug and charge in the configuration. -/
def contractConfig : Config := { strictConfig with highlevelAuthenticationMode := .pnc }

/-- After a car without TLS no contract is on offer any more. The target of a car that
speaks ISO is reported to later cars as a limit that was reached. And the status code of a
charging that was stopped is left for the welding detection. -/
theorem sessions_leave_traces :
    let discovery := [isoInput (.sessionSetup []), isoInput .serviceDiscovery]
    let plain := visit false .iso15118_2013 discovery
    let encrypted := visit true .iso15118_2013 discovery
    let modest := setUp ++ visit true .iso15118_2013 [isoInput (.currentDemand ⟨0, 400⟩ ⟨0, 20⟩)]
    let greedy := setUp ++ visit true .iso15118_2013 [isoInput (.currentDemand ⟨0, 400⟩ ⟨0, 200⟩)]
    let stopped := setUp ++ visit true .iso15118_2013 [.command (.stopCharging true)]
    ((legacy isoSizes contractConfig plain).configuration =
        (legacy isoSizes contractConfig encrypted).configuration ∧
      (run (step isoSizes) (start contractConfig) plain).teardown.1.paymentOptionList.used ≠
        (run (step isoSizes) (start contractConfig) encrypted).teardown.1.paymentOptionList.used) ∧
    ((legacy isoSizes strictConfig modest).configuration =
        (legacy isoSizes strictConfig greedy).configuration ∧
      (run (step isoSizes) (start strictConfig) modest).teardown.2.limitsAchieved ≠
        (run (step isoSizes) (start strictConfig) greedy).teardown.2.limitsAchieved) ∧
    (legacy isoSizes strictConfig modest).configuration =
        (legacy isoSizes strictConfig stopped).configuration ∧
      (run (step isoSizes) (start strictConfig) modest).teardown.1.evseStatusCode .welding ≠
        (run (step isoSizes) (start strictConfig) stopped).teardown.1.evseStatusCode .welding := by
  decide +kernel

end Station

end EverestCore.V2G
