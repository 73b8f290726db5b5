import EverestCore.V2G.Context

/-! What the handling of one request gives: the response, the event for the
message loop, what is published to the EVSE, and the context. The end that almost
all handlers of the two servers share, the check of the response code and the next
state, is defined here once. -/
namespace EverestCore.V2G

/-- The response codes of both protocols, the successful ones first. -/
inductive ResponseCode where
  | ok
  | okNewSessionEstablished
  | okOldSessionJoined
  | okCertificateExpiresSoon
  | failed
  | failedSequenceError
  | failedServiceIDInvalid
  | failedUnknownSession
  | failedServiceSelectionInvalid
  | failedPaymentSelectionInvalid
  | failedCertificateExpired
  | failedSignatureError
  | failedNoCertificateAvailable
  | failedCertChainError
  | failedChallengeInvalid
  | failedContractCanceled
  | failedWrongChargeParameter
  | failedPowerDeliveryNotApplied
  | failedTariffSelectionInvalid
  | failedChargingProfileInvalid
  | failedEVSEPresentVoltageToLow
  | failedMeteringSignatureNotValid
  | failedNoChargeServiceSelected
  | failedWrongEnergyTransferMode
  | failedContactorError
  | failedCertificateNotAllowedAtThisEVSE
  | failedCertificateRevoked
  deriving DecidableEq, Repr

/-- `code >= FAILED`. -/
def ResponseCode.isFailed (code : ResponseCode) : Bool :=
  ResponseCode.failed.ctorIdx ≤ code.ctorIdx

/-- The `DC_EVSEStatus` of a response. -/
structure DcEvseStatus where
  evseIsolationStatus : IsolationStatus := .invalid
  evseIsolationStatusIsUsed : Bool := false
  evseNotification : EvseNotification := .none
  evseStatusCode : EvseStatusCode := .notReady
  deriving DecidableEq, Repr

/-- A response. A field that a message does not have keeps the zero with which the
document is initialised; for `EVSEProcessing` this is `Finished`. -/
structure Response where
  responseCode : ResponseCode := .ok
  evseProcessing : EvseProcessing := .finished
  dcEvseStatus : DcEvseStatus := {}
  receiptRequired : Bool := false
  genChallenge : List UInt8 := []
  deriving DecidableEq, Repr

/-- What is published to the EVSE, apart from the values of the car that are only
passed on. -/
inductive Publication where
  | evccid (bytes : List UInt8)
  | selectedPaymentOption (option : PaymentOption)
  | requireAuthEIM
  | startCableCheck
  | dcEVTargetVoltageCurrent (voltage current : ℚ)
  | v2gSetupFinished
  | currentDemandStarted
  | currentDemandFinished
  | acCloseContactor
  | acOpenContactor
  | dcOpenContactor
  | evChargingSessionTerminate
  deriving DecidableEq, Repr

/-- The result of a handler. -/
structure Handling where
  ctx : V2gContext
  response : Response := {}
  event : V2gEvent
  published : List Publication := []

/-- What is published before the handler is called comes first. -/
def Handling.after (published : List Publication) (handling : Handling) : Handling :=
  { handling with published := published ++ handling.published }

@[simp] theorem Handling.after_ctx (published : List Publication) (handling : Handling) :
    (handling.after published).ctx = handling.ctx := rfl

/-- The message counts as the last one unless it was ignored. -/
def Handling.noteLastMsg (handling : Handling) : Handling :=
  if handling.event ≠ .ignoreMsg then
    { handling with ctx := { handling.ctx with lastV2gMsg := handling.ctx.currentV2gMsg } }
  else handling

@[simp] theorem Handling.noteLastMsg_event (handling : Handling) :
    handling.noteLastMsg.event = handling.event := by
  unfold noteLastMsg
  split <;> rfl

@[simp] theorem Handling.noteLastMsg_response (handling : Handling) :
    handling.noteLastMsg.response = handling.response := by
  unfold noteLastMsg
  split <;> rfl

/-- The context remembers the message that was handled last. -/
theorem Handling.noteLastMsg_ctx (handling : Handling) :
    handling.noteLastMsg.ctx = { handling.ctx with
      lastV2gMsg :=
        if handling.event ≠ .ignoreMsg then handling.ctx.currentV2gMsg
        else handling.ctx.lastV2gMsg } := by
  unfold noteLastMsg
  split <;> rfl

/-- What the handling of a request takes from elsewhere: the session id that
`rand` would give, the commands that arrive while a handler waits, whether memory
can be allocated, and the bits that lie behind the end of a table of states. -/
structure Surroundings where
  randomId : ℕ := 1
  meanwhile : List EvseCommand := []
  allocates : Bool := true
  beyond : List V2gMsgTypeId := []
  deriving DecidableEq, Repr

/-- A number with a decimal multiplier, as the messages carry it. -/
structure PhysicalValue where
  multiplier : ℤ
  value : ℤ
  deriving DecidableEq, Repr

/-- `calc_physical_value`. -/
def calcPhysicalValue (physical : PhysicalValue) : ℚ :=
  if 0 ≤ physical.multiplier then physical.value * 10 ^ physical.multiplier.toNat
  else physical.value / 10 ^ (-physical.multiplier).toNat

/-- The header's session id, and how many of its bytes were sent. -/
structure SessionIdField where
  bytes : List UInt8
  bytesLen : ℕ
  deriving DecidableEq, Repr

/-- `v2g_session_id_from_exi`: the bytes that were sent, the lowest one first. -/
def v2gSessionIdFromExi (field : SessionIdField) : ℕ :=
  (field.bytes.take (min 8 field.bytesLen)).foldr (fun byte id => byte.toNat + 256 * id) 0

namespace V2gContext

/-- `publish_DC_EVTargetVoltageCurrent`: only new values are published. -/
def publishTargets (voltage current : PhysicalValue) (ctx : V2gContext) :
    V2gContext × List Publication :=
  let voltage := calcPhysicalValue voltage
  let current := calcPhysicalValue current
  if ctx.v2gTargetVoltage ≠ some voltage ∨ ctx.v2gTargetCurrent ≠ some current then
    ({ ctx with v2gTargetVoltage := some voltage, v2gTargetCurrent := some current },
      [.dcEVTargetVoltageCurrent voltage current])
  else (ctx, [])

/-- What is published of the targets of a car is of no consequence for the course of the session. -/
theorem publishTargets_sameCourse (voltage current : PhysicalValue) (ctx : V2gContext) :
    SameCourse ctx (ctx.publishTargets voltage current).1 := by
  unfold publishTargets
  dsimp only
  split
  · exact ⟨⟨rfl, rfl, rfl, rfl, rfl⟩, rfl, rfl, rfl, rfl, rfl, rfl, rfl, rfl⟩
  · exact SameCourse.refl ctx

/-- The status that the context has for a phase. -/
def evseStatus (phase : ChargingPhase) (ctx : V2gContext) : DcEvseStatus where
  evseIsolationStatus := ctx.evseIsolationStatus
  evseIsolationStatusIsUsed := ctx.evseIsolationStatusIsUsed
  evseNotification := ctx.evseNotification
  evseStatusCode := ctx.evseStatusCode phase

/-- A session id is made up if there is none yet. -/
def ensureSessionId (randomId : ℕ) (ctx : V2gContext) : V2gContext :=
  if ctx.sessionId = 0 then { ctx with sessionId := randomId } else ctx

def withMsg (msg : V2gMsgTypeId) (ctx : V2gContext) : V2gContext := { ctx with currentV2gMsg := msg }

/-- The code after an abort from outside, a message out of order, and a message of
another session, each of which replaces the code before it. -/
def checkedCode (ctx : V2gContext) (expected : Bool) (code : ResponseCode) : ResponseCode :=
  let code := if ctx.stopHlc || ctx.intlEmergencyShutdown then .failed else code
  let code := if expected then code else .failedSequenceError
  if ctx.currentV2gMsg ≠ .sessionSetup ∧ ctx.sessionId ≠ ctx.receivedSessionId then
    .failedUnknownSession
  else code

/-- `din_validate_response_code` and `iso_validate_response_code`. `expected` says
whether the state allows the current message. -/
def validateResponseCode (ctx : V2gContext) (expected : Bool) (code : ResponseCode) :
    ResponseCode × V2gEvent :=
  if ctx.isConnectionTerminated then (code, .terminateConnection)
  else
    let code := ctx.checkedCode expected code
    (code,
      if ctx.terminateConnectionOnFailedResponse && code.isFailed then .sendAndTerminate
      else .noEvent)

/-- The common end of the handlers: the code is checked, then the next state is
set, whatever the check says. -/
def conclude (ctx : V2gContext) (expected : Bool) (response : Response) (next : ℕ)
    (published : List Publication) : Handling :=
  let (code, event) := ctx.validateResponseCode expected response.responseCode
  { ctx := { ctx with state := next }
    response := { response with responseCode := code }
    event := event
    published := published }

/-- The message passes every check of `validateResponseCode`. -/
structure Admits (ctx : V2gContext) (expected : Bool) : Prop where
  expected : expected = true
  session : ctx.currentV2gMsg = .sessionSetup ∨ ctx.sessionId = ctx.receivedSessionId
  undisturbed : ctx.stopHlc = false ∧ ctx.intlEmergencyShutdown = false

variable {ctx : V2gContext} {expected : Bool}

/-- Where the request is admitted, the handler has the last word. -/
theorem checkedCode_of_admits (h : ctx.Admits expected) (code : ResponseCode) :
    ctx.checkedCode expected code = code := by
  unfold checkedCode
  rw [h.undisturbed.1, h.undisturbed.2, h.expected, if_neg]
  · rfl
  · rintro ⟨hMsg, hSession⟩
    rcases h.session with hSetup | hSame
    · exact hMsg hSetup
    · exact hSession hSame

/-- A code that is not failed has passed every check, and was not replaced. -/
theorem admits_of_checkedCode {code : ResponseCode}
    (h : (ctx.checkedCode expected code).isFailed = false) : ctx.Admits expected := by
  unfold checkedCode at h
  simp only at h
  by_cases hSession : ctx.currentV2gMsg ≠ .sessionSetup ∧ ctx.sessionId ≠ ctx.receivedSessionId
  · rw [if_pos hSession] at h
    exact absurd h (by decide)
  · rw [if_neg hSession] at h
    cases hExpected : expected with
    | false =>
        rw [hExpected, if_neg (by decide)] at h
        exact absurd h (by decide)
    | true =>
        rw [hExpected, if_pos rfl] at h
        by_cases hAbort : (ctx.stopHlc || ctx.intlEmergencyShutdown) = true
        · rw [if_pos hAbort] at h
          exact absurd h (by decide)
        · refine ⟨rfl, ?_, ?_⟩
          · rw [not_and_or, not_not, not_not] at hSession
            exact hSession
          · simpa [Bool.or_eq_true, not_or] using hAbort

/-- The check does not make a failed code good. -/
theorem checkedCode_isFailed {code : ResponseCode} (h : code.isFailed = true) :
    (ctx.checkedCode expected code).isFailed = true := by
  by_contra hGood
  rw [Bool.not_eq_true] at hGood
  rw [checkedCode_of_admits (admits_of_checkedCode hGood), h] at hGood
  cases hGood

variable {response : Response} {next : ℕ} {published : List Publication}

@[simp] theorem conclude_ctx :
    (ctx.conclude expected response next published).ctx = { ctx with state := next } := rfl

/-- The code that is sent is the checked one, unless the connection has been terminated. -/
theorem conclude_responseCode :
    (ctx.conclude expected response next published).response.responseCode =
      if ctx.isConnectionTerminated then response.responseCode
      else ctx.checkedCode expected response.responseCode := by
  unfold conclude validateResponseCode
  by_cases h : ctx.isConnectionTerminated = true
  · rw [if_pos h, if_pos h]
  · rw [if_neg h, if_neg h]

/-- A failure is not turned into a success by the check. -/
theorem conclude_isFailed (h : response.responseCode.isFailed = true) :
    (ctx.conclude expected response next published).response.responseCode.isFailed = true := by
  rw [conclude_responseCode]
  split
  · exact h
  · exact checkedCode_isFailed h

/-- The event of a response, as a function of the code and of the two flags. -/
theorem conclude_event :
    (ctx.conclude expected response next published).event =
      if ctx.isConnectionTerminated then .terminateConnection
      else if ctx.terminateConnectionOnFailedResponse &&
          (ctx.checkedCode expected response.responseCode).isFailed then .sendAndTerminate
      else .noEvent := by
  unfold conclude validateResponseCode
  by_cases h : ctx.isConnectionTerminated = true
  · rw [if_pos h, if_pos h]
  · rw [if_neg h, if_neg h]

/-- After a checked response the connection goes on or ends. -/
theorem conclude_event_final :
    (ctx.conclude expected response next published).event = .noEvent ∨
      (ctx.conclude expected response next published).event.isFinal = true := by
  rw [conclude_event]
  split
  · exact Or.inr rfl
  · split
    · exact Or.inr rfl
    · exact Or.inl rfl

/-- Where a failed response ends the connection, only an admitted message whose
code was in order lets it go on, and the code is sent as it was. -/
theorem conclude_continues (hTerminate : ctx.terminateConnectionOnFailedResponse = true)
    (hEvent : (ctx.conclude expected response next published).event = .noEvent) :
    ctx.Admits expected ∧ response.responseCode.isFailed = false ∧
      (ctx.conclude expected response next published).response.responseCode =
        response.responseCode := by
  rw [conclude_event] at hEvent
  split at hEvent
  · exact absurd hEvent (by decide)
  · next hOpen =>
      rw [hTerminate, Bool.true_and] at hEvent
      split at hEvent
      · exact absurd hEvent (by decide)
      · next hCode =>
          have hAdmits := admits_of_checkedCode (Bool.eq_false_iff.mpr hCode)
          have hSame := checkedCode_of_admits hAdmits response.responseCode
          rw [hSame] at hCode
          refine ⟨hAdmits, Bool.eq_false_iff.mpr hCode, ?_⟩
          rw [conclude_responseCode, if_neg hOpen, hSame]

/-- Where a failed response ends the connection, a response that ends an open one
has failed. -/
theorem conclude_terminates (hOpen : ctx.isConnectionTerminated = false)
    (hEvent : (ctx.conclude expected response next published).event ≠ .noEvent) :
    (ctx.conclude expected response next published).event = .sendAndTerminate ∧
      (ctx.conclude expected response next published).response.responseCode.isFailed = true := by
  rw [conclude_event, hOpen] at hEvent ⊢
  rw [conclude_responseCode, hOpen]
  simp only [Bool.false_eq_true, if_false] at hEvent ⊢
  split at hEvent
  · next hFailed =>
      rw [if_pos hFailed]
      exact ⟨rfl, (Bool.and_eq_true_iff.mp hFailed).2⟩
  · exact absurd rfl hEvent

/-- What a handler has done before its response is checked: the message is the
current one, and the session is where it was. -/
structure Prepared (msg : V2gMsgTypeId) (ctx inner : V2gContext) : Prop where
  terms : SameTerms ctx inner
  state : inner.state = ctx.state
  currentV2gMsg : inner.currentV2gMsg = msg
  session : msg = .sessionSetup ∨
    (inner.sessionId = ctx.sessionId ∧ inner.receivedSessionId = ctx.receivedSessionId)

/-- A handler may do more that leaves the course of the session alone. -/
theorem Prepared.of_sameCourse {msg : V2gMsgTypeId} {ctx first inner : V2gContext}
    (h : Prepared msg ctx first) (hSame : SameCourse first inner) : Prepared msg ctx inner := by
  refine ⟨h.terms.trans hSame.terms, hSame.state.trans h.state,
    hSame.currentV2gMsg.trans h.currentV2gMsg, ?_⟩
  rcases h.session with hSetup | ⟨hId, hReceived⟩
  · exact Or.inl hSetup
  · exact Or.inr ⟨hSame.sessionId.trans hId, hSame.receivedSessionId.trans hReceived⟩

/-- Noting the message is the first preparation. -/
theorem withMsg_prepared (ctx : V2gContext) (msg : V2gMsgTypeId) : Prepared msg ctx (ctx.withMsg msg) :=
  ⟨⟨rfl, rfl, rfl, rfl, rfl⟩, rfl, rfl, Or.inr ⟨rfl, rfl⟩⟩

/-- A new session id comes with the session setup only. -/
theorem ensureSessionId_prepared (ctx : V2gContext) (randomId : ℕ) :
    Prepared .sessionSetup ctx ((ctx.withMsg .sessionSetup).ensureSessionId randomId) := by
  unfold ensureSessionId
  split <;> exact ⟨⟨rfl, rfl, rfl, rfl, rfl⟩, rfl, rfl, Or.inl rfl⟩

/-- Whether the charger charges is none of the checks. -/
theorem isCharging_prepared (ctx : V2gContext) (msg : V2gMsgTypeId) (isCharging : Bool) (p : Prop)
    [Decidable p] :
    Prepared msg ctx ((if p then { ctx with isCharging := isCharging } else ctx).withMsg msg) := by
  split <;> exact ⟨⟨rfl, rfl, rfl, rfl, rfl⟩, rfl, rfl, Or.inr ⟨rfl, rfl⟩⟩

end V2gContext

end EverestCore.V2G
