import EverestCore.Auth.ReservationHandler
import EverestCore.Charger.Basic
import EverestCore.V2G.Context
import Mathlib.Data.Finset.Basic
import Mathlib.Data.List.Sort

/-! The data of the authorization handler, and what it does with them between two
points at which it may be held up: for the events of a session, for a timeout, and for
the single parts of handling a token. -/
namespace EverestCore.Auth
open EverestCore.V2G (AuthorizationStatus)

inductive TokenType where
  | ocpp
  | rfid
  | autocharge
  | plugAndCharge
  deriving DecidableEq, Repr

inductive SelectionAlgorithm where
  | userInput
  | plugEvents
  deriving DecidableEq, Repr

inductive TokenHandlingResult where
  | accepted
  | alreadyInProcess
  | rejected
  | usedToStopTransaction
  | timeout
  | noConnectorAvailable
  deriving DecidableEq, Repr

structure ProvidedIdToken where
  idToken : String
  type : TokenType
  connectors : Option (List ℤ) := none
  prevalidated : Option Bool := none
  deriving DecidableEq, Repr

structure ValidationResult where
  authorizationStatus : AuthorizationStatus
  expiryTime : Option String := none
  parentIdToken : Option String := none
  evseIds : Option (List ℤ) := none
  deriving DecidableEq, Repr

structure Identifier where
  idToken : String
  type : TokenType
  authorizationStatus : Option AuthorizationStatus := none
  expiryTime : Option String := none
  parentIdToken : Option String := none
  deriving DecidableEq, Repr

/-- The identifier was given for this token, or for one with this parent. -/
def Identifier.belongsTo (identifier : Identifier) (token : String) : Bool :=
  identifier.idToken == token || identifier.parentIdToken == some token

/-- What the one timer of a connector is going to do when it fires. -/
inductive TimerPurpose where
  | plugIn
  | authorization
  deriving DecidableEq, Repr

/-- `ConnectorContext` with its `Connector`. The timer is pending for the purpose for
which it was started last. -/
structure ConnectorContext where
  transactionActive : Bool := false
  state : ConnectorState := .available
  identifier : Option Identifier := none
  isReservable : Bool := true
  reserved : Bool := false
  timeoutTimer : Option TimerPurpose := none
  deriving DecidableEq, Repr

/-- The identifier of the connector, if it has one, was given for the token or for one
of which the token is the parent. -/
def ConnectorContext.isUsedBy (context : ConnectorContext) (token : String) : Bool :=
  context.identifier.any fun identifier => identifier.belongsTo token

/-- The connector was given to this token, and no transaction has started there yet. -/
def ConnectorContext.isPendingFor (context : ConnectorContext) (token : String) : Bool :=
  context.identifier.any (fun identifier => identifier.idToken == token) &&
    !context.transactionActive

/-- The callbacks that the handler calls. A call is recorded with the connector as it is
found by the call, and a stop with the results of the validation so far. -/
inductive AuthOutput where
  | stopTransaction (connector : ℤ) (context : ConnectorContext) (token : ProvidedIdToken)
      (results : List ValidationResult)
  | notifyEvse (connector : ℤ) (context : ConnectorContext) (token : ProvidedIdToken)
      (result : ValidationResult)
  | withdrawAuthorization (connector : ℤ)
  deriving DecidableEq, Repr

/-- The connectors of a charging station, in the order of the map that holds them, and
how the handler chooses between them. -/
structure AuthConfig where
  connectorIds : List ℤ
  selectionAlgorithm : SelectionAlgorithm
  sorted : connectorIds.Pairwise (· < ·)

namespace AuthConfig

def oneConnector : AuthConfig where
  connectorIds := [1]
  selectionAlgorithm := .plugEvents
  sorted := by simp

def twoConnectors : AuthConfig where
  connectorIds := [1, 2]
  selectionAlgorithm := .plugEvents
  sorted := by simp

end AuthConfig

structure AuthHandler where
  config : AuthConfig
  prioritizeAuthorizationOverStoppingTransaction : Bool
  connectors : ℤ → ConnectorContext := fun _ => {}
  plugInQueue : List ℤ := []
  tokensInProcess : Finset String := ∅
  reservationHandler : ReservationHandler := {}
  log : List AuthOutput := []

/-- A session event with the part of its data that is read. The reason is that of the
start of a session. -/
structure SessionMessage where
  event : SessionEvent
  reason : StartSessionReason := .evConnected
  deriving DecidableEq, Repr

/-- `intersect`: the common entries of two lists that are sorted for it. -/
def intersect (first second : List ℤ) : List ℤ :=
  (first.insertionSort (· ≤ ·)).bagInter (second.insertionSort (· ≤ ·))

namespace AuthHandler

variable (handler : AuthHandler)

/-- Changes one connector and leaves the others alone. -/
def modify (connector : ℤ) (change : ConnectorContext → ConnectorContext) : AuthHandler :=
  { handler with
    connectors := Function.update handler.connectors connector
      (change (handler.connectors connector)) }

def emit (output : AuthOutput) : AuthHandler := { handler with log := handler.log ++ [output] }

/-- `plug_in_queue.remove_if` with one connector. -/
def unqueue (connector : ℤ) : AuthHandler :=
  { handler with plugInQueue := handler.plugInQueue.filter fun value => !(value == connector) }

def getReferencedConnectors (token : ProvidedIdToken) : List ℤ :=
  match token.connectors with
  | some connectors => connectors.filter fun connector =>
      handler.config.connectorIds.contains connector &&
        !(handler.connectors connector).state.isUnavailable
  | none => handler.config.connectorIds.filter fun connector =>
      !(handler.connectors connector).state.isUnavailable

/-- The first of the connectors whose identifier fits, and -1 if there is none. -/
def usedForTransaction (connectorIds : List ℤ) (token : String) : ℤ :=
  (connectorIds.find? fun connector => (handler.connectors connector).isUsedBy token).getD (-1)

def isTokenAlreadyInProcess (idToken : String) (referenced : List ℤ) : Bool :=
  decide (idToken ∈ handler.tokensInProcess) ||
    referenced.any fun connector => (handler.connectors connector).isPendingFor idToken

def anyConnectorAvailable (connectorIds : List ℤ) : Bool :=
  connectorIds.any fun connector =>
    let state := (handler.connectors connector).state
    state != .unavailable && state != .occupied && state != .faulted

/-- The first entry of the queue that is one of the connectors, and -1 if there is none. -/
def getLatestPlugin (connectors : List ℤ) : ℤ :=
  (handler.plugInQueue.find? fun connector => connectors.contains connector).getD (-1)

/-- The loop that looks for a transaction to stop by a parent of the token: the first
connector that is found. -/
def usedByParent (connectorIds : List ℤ) (results : List ValidationResult) : Option ℤ :=
  results.findSome? fun result =>
    result.parentIdToken.bind fun parent =>
      let connector := handler.usedForTransaction connectorIds parent
      if connector = -1 then none else some connector

/-- Whether a token may stop a transaction by its parent. -/
def attemptStopWithParentIdToken (connectorIds : List ℤ) : Bool :=
  !handler.prioritizeAuthorizationOverStoppingTransaction ||
    !handler.anyConnectorAvailable connectorIds

/-- `notify_evse` for an accepted token: the identifier is set before the timer is
waited for. -/
def placeIdentifier (connector : ℤ) (token : ProvidedIdToken) (result : ValidationResult) :
    AuthHandler :=
  handler.modify connector fun context =>
    { context with
      identifier := some
        { idToken := token.idToken, type := token.type
          authorizationStatus := some result.authorizationStatus
          expiryTime := result.expiryTime, parentIdToken := result.parentIdToken } }

/-- The part of `notify_evse` under the timer's mutex. -/
def startAuthorizationTimer (connector : ℤ) : AuthHandler :=
  (handler.modify connector fun context =>
    { context with timeoutTimer := some .authorization }).unqueue connector

def notifyEvseCallback (connector : ℤ) (token : ProvidedIdToken) (result : ValidationResult) :
    AuthHandler :=
  handler.emit (.notifyEvse connector (handler.connectors connector) token result)

def stopTransactionCallback (connector : ℤ) (token : ProvidedIdToken)
    (results : List ValidationResult) : AuthHandler :=
  handler.emit (.stopTransaction connector (handler.connectors connector) token results)

/-- What becomes of an accepted result at the connector that was selected for it. -/
def checkReservation (connector : ℤ) (token : ProvidedIdToken) (result : ValidationResult)
    (referenced : List ℤ) : AuthHandler × ValidationResult :=
  -- the intersection leaves the connectors of the result sorted
  let result := { result with evseIds := result.evseIds.map (List.insertionSort (· ≤ ·)) }
  if result.evseIds.any fun evseIds => (intersect referenced evseIds).isEmpty then
    (handler, { result with authorizationStatus := .notAtThisLocation })
  else if !(handler.connectors connector).reserved then (handler, result)
  else
    let (reservationHandler, isMatch) := handler.reservationHandler.matchesReservedIdentifier
      connector token.idToken result.parentIdToken
    if isMatch then
      ({ handler with
         reservationHandler := (reservationHandler.onReservationUsed connector).handler }, result)
    else
      ({ handler with reservationHandler := reservationHandler },
        { result with authorizationStatus := .notAtThisTime })

/-- The start of a session enters the queue whatever its reason is, but only one by
plugging in starts the timer. -/
def onSessionStarted (connector : ℤ) (reason : StartSessionReason) : AuthHandler :=
  let handler := handler.modify connector fun context => { context with isReservable := false }
  let handler := { handler with plugInQueue := handler.plugInQueue ++ [connector] }
  match reason with
  | .evConnected =>
      handler.modify connector fun context => { context with timeoutTimer := some .plugIn }
  | .authorized => handler

def handleSessionEvent (connector : ℤ) (message : SessionMessage) : AuthHandler :=
  match message.event with
  | .sessionStarted => handler.onSessionStarted connector message.reason
  | .transactionStarted => handler.modify connector fun context =>
      { context with
        transactionActive := true, reserved := false, timeoutTimer := none
        state := context.state.submitEvent .transactionStarted }
  | .transactionFinished => handler.modify connector fun context =>
      { context with transactionActive := false, identifier := none }
  | .sessionFinished => handler.modify connector fun context =>
      { context with
        isReservable := true, identifier := none, timeoutTimer := none
        state := (context.state.submitEvent .sessionFinished).submitEvent .errorCleared }
  | .permanentFault | .error => handler.modify connector fun context =>
      { context with state := context.state.submitEvent .faulted }
  | .disabled => handler.modify connector fun context =>
      { context with state := context.state.submitEvent .disable }
  | .enabled => handler.modify connector fun context =>
      { context with state := context.state.submitEvent .enable }
  | .reservationStart => handler.modify connector fun context => { context with reserved := true }
  | .reservationEnd => handler.modify connector fun context =>
      { context with isReservable := true, reserved := false }
  | _ => handler

/-- The time for which the timer of a connector was started is over. A timer that was
stopped, or started again for another purpose, does not fire. -/
def timeout (connector : ℤ) (purpose : TimerPurpose) : AuthHandler :=
  if (handler.connectors connector).timeoutTimer = some purpose then
    match purpose with
    | .plugIn =>
        (handler.modify connector fun context => { context with timeoutTimer := none }).unqueue
          connector
    | .authorization =>
        (handler.modify connector fun context =>
          { context with timeoutTimer := none, identifier := none }).emit
            (.withdrawAuthorization connector)
  else handler

@[simp] theorem emit_connectors (output : AuthOutput) :
    (handler.emit output).connectors = handler.connectors := rfl

@[simp] theorem unqueue_connectors (connector : ℤ) :
    (handler.unqueue connector).connectors = handler.connectors := rfl

@[simp] theorem modify_self (connector : ℤ) (change : ConnectorContext → ConnectorContext) :
    (handler.modify connector change).connectors connector =
      change (handler.connectors connector) := by
  simp [modify]

/-- A change of one connector leaves the others as they are. -/
theorem modify_of_ne {connector other : ℤ} (change : ConnectorContext → ConnectorContext)
    (h : other ≠ connector) :
    (handler.modify connector change).connectors other = handler.connectors other := by
  simp [modify, h]

/-- A session event changes its own connector only. -/
theorem handleSessionEvent_of_ne {connector other : ℤ} (message : SessionMessage)
    (h : other ≠ connector) :
    (handler.handleSessionEvent connector message).connectors other = handler.connectors other := by
  obtain ⟨event, reason⟩ := message
  cases event with
  | sessionStarted =>
      cases reason <;> simp [handleSessionEvent, onSessionStarted, modify, h]
  | _ => simp [handleSessionEvent, modify_of_ne, h]

/-- A timer that runs out changes the connector it was set for only. -/
theorem timeout_of_ne {connector other : ℤ} (purpose : TimerPurpose) (h : other ≠ connector) :
    (handler.timeout connector purpose).connectors other = handler.connectors other := by
  unfold timeout
  split
  · cases purpose <;> simp [unqueue, emit, modify_of_ne, h]
  · rfl

/-- A check against the reservations touches nothing but them. -/
theorem checkReservation_eq (connector : ℤ) (token : ProvidedIdToken) (result : ValidationResult)
    (referenced : List ℤ) : ∃ reservationHandler,
    (handler.checkReservation connector token result referenced).1 =
      { handler with reservationHandler := reservationHandler } := by
  unfold checkReservation
  dsimp only
  split
  · exact ⟨_, rfl⟩
  · split
    · exact ⟨_, rfl⟩
    · split <;> exact ⟨_, rfl⟩

/-- A session event does not touch the tokens in process. -/
theorem handleSessionEvent_tokensInProcess (connector : ℤ) (message : SessionMessage) :
    (handler.handleSessionEvent connector message).tokensInProcess = handler.tokensInProcess := by
  obtain ⟨event, reason⟩ := message
  cases event <;> cases reason <;> rfl

/-- A session event does not touch the reservations. -/
theorem handleSessionEvent_reservationHandler (connector : ℤ) (message : SessionMessage) :
    (handler.handleSessionEvent connector message).reservationHandler =
      handler.reservationHandler := by
  obtain ⟨event, reason⟩ := message
  cases event <;> cases reason <;> rfl

/-- A timer that runs out does not touch the tokens in process. -/
theorem timeout_tokensInProcess (connector : ℤ) (purpose : TimerPurpose) :
    (handler.timeout connector purpose).tokensInProcess = handler.tokensInProcess := by
  unfold timeout
  split
  · cases purpose <;> rfl
  · rfl

end AuthHandler

end EverestCore.Auth
