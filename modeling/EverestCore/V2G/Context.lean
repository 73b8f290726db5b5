import Mathlib.Data.Rat.Defs

/-! The context that the V2G servers share with the commands of the EVSE: the
fields that decide how a request is answered, their initialisation, and the
commands that write them. Measured values and texts that are only copied into a
response are left out. Counters and ids are natural numbers; `state` is one
number for the tables of all protocols, as in the source. -/
namespace EverestCore.V2G

/-- `V2gMsgTypeId`. -/
inductive V2gMsgTypeId where
  | supportedAppProtocol
  | sessionSetup
  | serviceDiscovery
  | serviceDetail
  | paymentServiceSelection
  | paymentDetails
  | authorization
  | chargeParameterDiscovery
  | meteringReceipt
  | certificateUpdate
  | certificateInstallation
  | chargingStatus
  | cableCheck
  | preCharge
  | powerDelivery
  | currentDemand
  | weldingDetection
  | sessionStop
  | unknown
  deriving DecidableEq, Repr

/-- `v2g_event`. -/
inductive V2gEvent where
  | noEvent
  | terminateConnection
  | sendAndTerminate
  | sendRecvExiMsg
  | ignoreMsg
  deriving DecidableEq, Repr

/-- The message loop ends with this event. -/
def V2gEvent.isFinal : V2gEvent → Bool
  | .terminateConnection | .sendAndTerminate => true
  | _ => false

/-- `v2g_protocol`, as far as it can be selected. -/
inductive V2gProtocol where
  | din70121
  | iso15118_2013
  | unknown
  deriving DecidableEq, Repr

/-- `charging_phase`. -/
inductive ChargingPhase where
  | init
  | auth
  | parameter
  | isolation
  | precharge
  | charge
  | welding
  | stop
  deriving DecidableEq, Repr

/-- `iso1EVSEProcessingType`. -/
inductive EvseProcessing where
  | finished
  | ongoing
  | ongoingWaitingForCustomerInteraction
  deriving DecidableEq, Repr

/-- The codes of `iso1DC_EVSEStatusCodeType` that are ever written. -/
inductive EvseStatusCode where
  | notReady
  | ready
  | shutdown
  | utilityInterruptEvent
  | emergencyShutdown
  | malfunction
  deriving DecidableEq, Repr

/-- `IsolationStatus`. -/
inductive IsolationStatus where
  | invalid
  | valid
  | warning
  | fault
  | noIMD
  deriving DecidableEq, Repr

/-- `iso1EVSENotificationType`. -/
inductive EvseNotification where
  | none
  | stopCharging
  | reNegotiation
  deriving DecidableEq, Repr

inductive PaymentOption where
  | contract
  | externalPayment
  deriving DecidableEq, Repr

inductive EnergyTransferMode where
  | acSinglePhaseCore
  | acThreePhaseCore
  | dcCore
  | dcExtended
  | dcComboCore
  | dcUnique
  deriving DecidableEq, Repr

def EnergyTransferMode.isAc : EnergyTransferMode → Bool
  | .acSinglePhaseCore | .acThreePhaseCore => true
  | _ => false

inductive AuthorizationStatus where
  | accepted
  | blocked
  | concurrentTx
  | expired
  | invalid
  | noCredit
  | notAllowedTypeEVSE
  | notAtThisLocation
  | notAtThisTime
  | unknown
  deriving DecidableEq, Repr

inductive CertificateStatus where
  | accepted
  | signatureError
  | certificateExpired
  | certificateRevoked
  | noCertificateAvailable
  | certChainError
  | contractCancelled
  deriving DecidableEq, Repr

inductive DebugMode where
  | none
  | lite
  | full
  deriving DecidableEq, Repr

/-- An array of fixed size, and how many of its entries are in use. Entries that
are no longer in use keep their value. -/
structure Entries (α : Type) where
  array : List α
  arrayLen : ℕ
  deriving DecidableEq, Repr

namespace Entries

variable {α : Type}

def push (entries : Entries α) (value : α) : Entries α :=
  ⟨entries.array.set entries.arrayLen value, entries.arrayLen + 1⟩

def used (entries : Entries α) : List α := entries.array.take entries.arrayLen

/-- The entries are written again from the first one on. -/
def refill (entries : Entries α) (values : List α) : Entries α :=
  values.foldl push { entries with arrayLen := 0 }

end Entries

/-- `v2g_context`. The floating point targets of the car start out as an invalid
pattern that equals no value. -/
structure V2gContext where
  supportedProtocols : List V2gProtocol
  lastV2gMsg : V2gMsgTypeId
  currentV2gMsg : V2gMsgTypeId
  state : ℕ
  isDcCharger : Bool
  debugMode : Bool
  selectedProtocol : V2gProtocol
  intlEmergencyShutdown : Bool
  stopHlc : Bool
  isConnectionTerminated : Bool
  terminateConnectionOnFailedResponse : Bool
  contactorIsClosed : Bool
  -- `evse_v2g_data`
  sessionId : ℕ
  evseIsolationStatus : IsolationStatus
  evseIsolationStatusIsUsed : Bool
  evseNotification : EvseNotification
  evseStatusCode : ChargingPhase → EvseStatusCode
  evseProcessing : ChargingPhase → EvseProcessing
  chargeServiceId : ℕ
  supportedEnergyTransferMode : Entries EnergyTransferMode
  evseServiceList : List ℕ
  saScheduleTupleIds : List ℕ
  paymentOptionList : Entries PaymentOption
  receiptRequired : Bool
  -- The answer to a certificate installation, and whether it can be decoded.
  certInstallRes : Option Bool
  -- `session`
  isoSelectedPaymentOption : PaymentOption
  genChallenge : List UInt8
  validCrt : Bool
  renegotiationRequired : Bool
  isCharging : Bool
  saScheduleTupleId : ℕ
  -- `ev_v2g_data`
  receivedSessionId : ℕ
  v2gTargetVoltage : Option ℚ
  v2gTargetCurrent : Option ℚ

/-- `v2g_ctx_init_charging_state`. -/
def initChargingState (isConnectionTerminated : Bool) (ctx : V2gContext) : V2gContext :=
  { ctx with
    stopHlc := false
    intlEmergencyShutdown := false
    isConnectionTerminated := isConnectionTerminated
    lastV2gMsg := .unknown
    currentV2gMsg := .unknown
    state := 0
    selectedProtocol := .unknown
    renegotiationRequired := false
    isCharging := false }

/-- The status codes after a reset. The other phases keep what they had. -/
def initStatusCode (codes : ChargingPhase → EvseStatusCode) : ChargingPhase → EvseStatusCode
  | .parameter | .isolation | .precharge | .charge => .ready
  | phase => codes phase

/-- The parameter phase is skipped. -/
def initProcessing : ChargingPhase → EvseProcessing
  | .parameter => .finished
  | _ => .ongoing

/-- The size of `gen_challenge`. -/
def genChallengeSize : ℕ := 16

/-- `v2g_ctx_init_charging_values`, from the second call on. -/
def initChargingValues (ctx : V2gContext) : V2gContext :=
  { ctx with
    sessionId := 0
    evseIsolationStatus := .invalid
    evseIsolationStatusIsUsed := true
    evseNotification := .none
    evseStatusCode := initStatusCode ctx.evseStatusCode
    evseProcessing := initProcessing
    chargeServiceId := 1
    saScheduleTupleIds := [1]
    contactorIsClosed := false
    receiptRequired := false
    certInstallRes := none
    receivedSessionId := UInt64.size - 1
    v2gTargetVoltage := none
    v2gTargetCurrent := none
    isoSelectedPaymentOption := .externalPayment
    genChallenge := List.replicate genChallengeSize 0 }

/-- `v2g_ctx_init_charging_session`. -/
def initChargingSession (isConnectionTerminated : Bool) (ctx : V2gContext) : V2gContext :=
  initChargingValues (initChargingState isConnectionTerminated ctx)

inductive AuthenticationMode where
  | eim
  | pnc
  | eimAndPnc
  deriving DecidableEq, Repr

/-- The configuration of the module, as far as the servers use it. -/
structure Config where
  highlevelAuthenticationMode : AuthenticationMode
  supportedDIN70121 : Bool
  supportedISO15118 : Bool
  terminateConnectionOnFailedResponse : Bool
  deriving DecidableEq, Repr

/-- The payment options after `init`. The memory behind the first one is zero,
which stands for `Contract`. -/
def Config.paymentOptions (config : Config) : Entries PaymentOption :=
  let options : Entries PaymentOption := ⟨[.externalPayment, .contract], 1⟩
  match config.highlevelAuthenticationMode with
  | .eim => options.push .externalPayment
  | .pnc => options.push .contract
  | .eimAndPnc => options

def Config.protocols (config : Config) : List V2gProtocol :=
  (if config.supportedDIN70121 then [.din70121] else []) ++
    (if config.supportedISO15118 then [.iso15118_2013] else [])

/-- `v2g_ctx_create`, followed by `init` of the module. -/
def v2gCtxCreate (config : Config) : V2gContext where
  supportedProtocols := config.protocols
  lastV2gMsg := .unknown
  currentV2gMsg := .unknown
  state := 0
  isDcCharger := true
  debugMode := false
  selectedProtocol := .unknown
  intlEmergencyShutdown := false
  stopHlc := false
  isConnectionTerminated := true
  terminateConnectionOnFailedResponse := config.terminateConnectionOnFailedResponse
  contactorIsClosed := false
  sessionId := 0
  evseIsolationStatus := .invalid
  evseIsolationStatusIsUsed := true
  evseNotification := .none
  evseStatusCode := initStatusCode fun _ => .notReady
  evseProcessing := initProcessing
  chargeServiceId := 1
  supportedEnergyTransferMode := ⟨List.replicate 6 .acSinglePhaseCore, 1⟩
  evseServiceList := []
  saScheduleTupleIds := [1]
  paymentOptionList := config.paymentOptions
  receiptRequired := false
  certInstallRes := none
  isoSelectedPaymentOption := .externalPayment
  genChallenge := List.replicate genChallengeSize 0
  validCrt := false
  renegotiationRequired := false
  isCharging := false
  saScheduleTupleId := 0
  receivedSessionId := UInt64.size - 1
  v2gTargetVoltage := none
  v2gTargetCurrent := none

/-- The commands of the interface that write a field of the context above.
`stopChargingTimeout` is the end of the time that `stop_charging` gives to the
car, which its own thread waits for. -/
inductive EvseCommand where
  | setPaymentOptions (options : List PaymentOption)
  | setSupportedEnergyTransferMode (modes : List EnergyTransferMode)
  | setReceiptRequired (receiptRequired : Bool)
  | enableDebugMode (mode : DebugMode)
  | setAuthOkayEIM (authOkay : Bool)
  | setAuthOkayPnC (status : AuthorizationStatus) (certificateStatus : CertificateStatus)
  | stopCharging (stop : Bool)
  | stopChargingTimeout
  | setEVSEIsolationStatus (status : IsolationStatus)
  | setEVSEUtilityInterruptEvent (event : Bool)
  | setEVSEMalfunction (malfunction : Bool)
  | setEVSEEmergencyShutdown (shutdown : Bool)
  | contactorClosed (status : Bool)
  | contactorOpen (status : Bool)
  | cableCheckFinished (status : Bool)
  deriving DecidableEq, Repr

namespace V2gContext

def setProcessing (phase : ChargingPhase) (processing : EvseProcessing) (ctx : V2gContext) :
    V2gContext :=
  { ctx with evseProcessing := Function.update ctx.evseProcessing phase processing }

/-- All status codes are set to one value. -/
def setStatusCodes (code : EvseStatusCode) (ctx : V2gContext) : V2gContext :=
  { ctx with evseStatusCode := fun _ => code }

/-- The command handlers of `ISO15118_chargerImpl`. -/
def command (ctx : V2gContext) : EvseCommand → V2gContext
  | .setPaymentOptions options =>
      { ctx with paymentOptionList := ctx.paymentOptionList.refill options }
  | .setSupportedEnergyTransferMode modes =>
      { ctx with
        supportedEnergyTransferMode := ctx.supportedEnergyTransferMode.refill modes
        isDcCharger := !modes.any EnergyTransferMode.isAc }
  | .setReceiptRequired receiptRequired => { ctx with receiptRequired := receiptRequired }
  | .enableDebugMode mode => { ctx with debugMode := mode ≠ .none }
  | .setAuthOkayEIM authOkay => if authOkay then ctx.setProcessing .auth .finished else ctx
  | .setAuthOkayPnC status certificateStatus =>
      ctx.setProcessing .auth
        (if status = .accepted ∧ certificateStatus = .accepted then .finished else .ongoing)
  | .stopCharging stop =>
      if stop then { ctx with evseNotification := .stopCharging }.setStatusCodes .shutdown
      else { ctx with stopHlc := false }
  | .stopChargingTimeout => { ctx with stopHlc := true }
  | .setEVSEIsolationStatus status =>
      { ctx with evseIsolationStatus := status, evseIsolationStatusIsUsed := true }
  | .setEVSEUtilityInterruptEvent event =>
      if event then ctx.setStatusCodes .utilityInterruptEvent else ctx
  | .setEVSEMalfunction malfunction => if malfunction then ctx.setStatusCodes .malfunction else ctx
  | .setEVSEEmergencyShutdown shutdown => { ctx with intlEmergencyShutdown := shutdown }
  | .contactorClosed status => { ctx with contactorIsClosed := status }
  | .contactorOpen status => { ctx with contactorIsClosed := !status }
  | .cableCheckFinished status =>
      ctx.setProcessing .isolation (if status then .finished else .ongoing)

/-- Commands in the order in which they arrive. -/
def commands (ctx : V2gContext) (arriving : List EvseCommand) : V2gContext :=
  arriving.foldl command ctx

/-- What neither a command of the EVSE nor a request of the car writes while a
connection is open. -/
structure SameTerms (before after : V2gContext) : Prop where
  isConnectionTerminated : after.isConnectionTerminated = before.isConnectionTerminated
  terminate : after.terminateConnectionOnFailedResponse =
    before.terminateConnectionOnFailedResponse
  isoSelectedPaymentOption : after.isoSelectedPaymentOption = before.isoSelectedPaymentOption
  certInstallRes : after.certInstallRes = before.certInstallRes
  parameter : after.evseProcessing .parameter = before.evseProcessing .parameter

theorem SameTerms.refl (ctx : V2gContext) : SameTerms ctx ctx := by constructor <;> rfl

theorem SameTerms.trans {first second third : V2gContext} (h : SameTerms first second)
    (h' : SameTerms second third) : SameTerms first third := by
  constructor
  · exact h'.isConnectionTerminated.trans h.isConnectionTerminated
  · exact h'.terminate.trans h.terminate
  · exact h'.isoSelectedPaymentOption.trans h.isoSelectedPaymentOption
  · exact h'.certInstallRes.trans h.certInstallRes
  · exact h'.parameter.trans h.parameter

/-- What no command of the EVSE writes: beside the terms of the connection also how
far the session has come, and whose session it is. -/
structure SameCourse (before after : V2gContext) : Prop where
  terms : SameTerms before after
  state : after.state = before.state
  lastV2gMsg : after.lastV2gMsg = before.lastV2gMsg
  currentV2gMsg : after.currentV2gMsg = before.currentV2gMsg
  sessionId : after.sessionId = before.sessionId
  receivedSessionId : after.receivedSessionId = before.receivedSessionId
  chargeServiceId : after.chargeServiceId = before.chargeServiceId
  genChallenge : after.genChallenge = before.genChallenge
  isCharging : after.isCharging = before.isCharging

theorem SameCourse.refl (ctx : V2gContext) : SameCourse ctx ctx :=
  ⟨SameTerms.refl ctx, rfl, rfl, rfl, rfl, rfl, rfl, rfl, rfl⟩

theorem SameCourse.trans {first second third : V2gContext} (h : SameCourse first second)
    (h' : SameCourse second third) : SameCourse first third := by
  constructor
  · exact h.terms.trans h'.terms
  · exact h'.state.trans h.state
  · exact h'.lastV2gMsg.trans h.lastV2gMsg
  · exact h'.currentV2gMsg.trans h.currentV2gMsg
  · exact h'.sessionId.trans h.sessionId
  · exact h'.receivedSessionId.trans h.receivedSessionId
  · exact h'.chargeServiceId.trans h.chargeServiceId
  · exact h'.genChallenge.trans h.genChallenge
  · exact h'.isCharging.trans h.isCharging

theorem setProcessing_sameCourse {phase : ChargingPhase} (hPhase : phase ≠ .parameter)
    (processing : EvseProcessing) (ctx : V2gContext) :
    SameCourse ctx (ctx.setProcessing phase processing) := by
  refine ⟨⟨rfl, rfl, rfl, rfl, ?_⟩, rfl, rfl, rfl, rfl, rfl, rfl, rfl, rfl⟩
  exact Function.update_of_ne hPhase.symm _ _

theorem command_sameCourse (ctx : V2gContext) (command : EvseCommand) :
    SameCourse ctx (ctx.command command) := by
  cases command with
  | setAuthOkayEIM authOkay =>
      cases authOkay with
      | false => exact SameCourse.refl ctx
      | true => exact setProcessing_sameCourse (by decide) _ ctx
  | setAuthOkayPnC status certificateStatus => exact setProcessing_sameCourse (by decide) _ ctx
  | cableCheckFinished status => exact setProcessing_sameCourse (by decide) _ ctx
  | stopCharging stop =>
      cases stop <;> exact ⟨⟨rfl, rfl, rfl, rfl, rfl⟩, rfl, rfl, rfl, rfl, rfl, rfl, rfl, rfl⟩
  | setEVSEUtilityInterruptEvent event =>
      cases event <;> exact ⟨⟨rfl, rfl, rfl, rfl, rfl⟩, rfl, rfl, rfl, rfl, rfl, rfl, rfl, rfl⟩
  | setEVSEMalfunction malfunction =>
      cases malfunction <;> exact ⟨⟨rfl, rfl, rfl, rfl, rfl⟩, rfl, rfl, rfl, rfl, rfl, rfl, rfl, rfl⟩
  | _ => exact ⟨⟨rfl, rfl, rfl, rfl, rfl⟩, rfl, rfl, rfl, rfl, rfl, rfl, rfl, rfl⟩

theorem commands_sameCourse (ctx : V2gContext) (arriving : List EvseCommand) :
    SameCourse ctx (ctx.commands arriving) := by
  induction arriving generalizing ctx with
  | nil => exact SameCourse.refl ctx
  | cons command rest ih => exact (command_sameCourse ctx command).trans (ih _)

end V2gContext

/-- The commands that wake a handler which waits for a condition of the context. -/
def EvseCommand.signals : EvseCommand → Bool
  | .setEVSEEmergencyShutdown _ | .contactorClosed _ | .contactorOpen _ => true
  | _ => false

/-- A handler waits while `waiting` holds, and looks at the context again when it
is woken. If no command ends the wait, its time runs out. -/
def timesOut (waiting : V2gContext → Bool) : V2gContext → List EvseCommand → Bool
  | _, [] => true
  | ctx, command :: rest =>
      let ctx := ctx.command command
      if command.signals && !waiting ctx then false else timesOut waiting ctx rest

end EverestCore.V2G
