import Mathlib.Data.Rat.Defs
import EverestCore.Machine.Bracket
import EverestCore.Machine.PartialRuns

/-! The session info that the `API` module keeps for a connector and publishes every second.
It learns of transactions from session events and of the energy from the power meter, and
takes a meter value only in four of its display states, which follow all session events.
Energies are whole watt-hours of 32 bits: a number outside this range has no conversion, and
a difference outside of it no value. -/
namespace EverestCore.Api
open EverestCore.Machine

/-- `types::evse_manager::SessionEventEnum`. -/
inductive SessionEventEnum where
  | enabled
  | disabled
  | sessionStarted
  | authRequired
  | transactionStarted
  | prepareCharging
  | chargingStarted
  | chargingPausedEV
  | chargingPausedEVSE
  | waitingForEnergy
  | chargingResumed
  | stoppingCharging
  | chargingFinished
  | transactionFinished
  | sessionFinished
  | error
  | allErrorsCleared
  | permanentFault
  | reservationStart
  | reservationEnd
  | replugStarted
  | replugFinished
  deriving DecidableEq, Repr

/-- `types::evse_manager::Error`. -/
inductive Error where
  | car
  | carDiodeFault
  | relais
  | rcd
  | ventilationNotAvailable
  | overCurrent
  | internal
  | slac
  | hlc
  deriving DecidableEq, Repr

def errorToString : Error → String
  | .car => "Car"
  | .carDiodeFault => "CarDiodeFault"
  | .relais => "Relais"
  | .rcd => "RCD"
  | .ventilationNotAvailable => "VentilationNotAvailable"
  | .overCurrent => "OverCurrent"
  | .internal => "Internal"
  | .slac => "SLAC"
  | .hlc => "HLC"

/-- The values of `SessionInfo::state`. -/
inductive SessionState where
  | unknown
  | unplugged
  | disabled
  | preparing
  | reserved
  | authRequired
  | waitingForEnergy
  | charging
  | chargingPausedEV
  | chargingPausedEVSE
  | finished
  | error
  | permanentFault
  deriving DecidableEq, Repr

namespace SessionState

def text : SessionState → String
  | .unknown => "Unknown"
  | .unplugged => "Unplugged"
  | .disabled => "Disabled"
  | .preparing => "Preparing"
  | .reserved => "Reserved"
  | .authRequired => "AuthRequired"
  | .waitingForEnergy => "WaitingForEnergy"
  | .charging => "Charging"
  | .chargingPausedEV => "ChargingPausedEV"
  | .chargingPausedEVSE => "ChargingPausedEVSE"
  | .finished => "Finished"
  | .error => "Error"
  | .permanentFault => "PermanentFault"

/-- `SessionInfo::is_state_charging`. -/
def isStateCharging : SessionState → Bool
  | .authRequired | .charging | .chargingPausedEV | .chargingPausedEVSE => true
  | _ => false

/-- The chain of comparisons in `update_state`. Seven events have no branch, the start of
charging and the end of all errors among them. -/
def after (state : SessionState) : SessionEventEnum → SessionState
  | .enabled => .unplugged
  | .disabled => .disabled
  | .sessionStarted => .preparing
  | .reservationStart => .reserved
  | .reservationEnd => .unplugged
  | .authRequired => .authRequired
  | .waitingForEnergy => .waitingForEnergy
  | .transactionStarted => .charging
  | .chargingPausedEV => .chargingPausedEV
  | .chargingPausedEVSE => .chargingPausedEVSE
  | .chargingResumed => .charging
  | .transactionFinished => .finished
  | .sessionFinished => .unplugged
  | .error => .error
  | .permanentFault => .permanentFault
  | .prepareCharging | .chargingStarted | .stoppingCharging | .chargingFinished
  | .allErrorsCleared | .replugStarted | .replugFinished => state

end SessionState

/-- The range of `int32_t`. -/
def IsInt32 (number : ℤ) : Prop := -2147483648 ≤ number ∧ number < 2147483648

instance (number : ℤ) : Decidable (IsInt32 number) := inferInstanceAs (Decidable (_ ∧ _))

/-- A result of type `int32_t`, which is undefined outside its range. -/
def int32? (number : ℤ) : Option Int32 :=
  if IsInt32 number then some (Int32.ofInt number) else none

theorem int32?_eq_some_iff {number : ℤ} {result : Int32} :
    int32? number = some result ↔ result.toInt = number := by
  unfold int32?
  constructor
  · intro h
    split_ifs at h with hRange
    cases h
    exact Int32.toInt_ofInt_of_le hRange.1 hRange.2
  · rintro rfl
    rw [if_pos ⟨result.le_toInt, result.toInt_lt⟩, Int32.ofInt_toInt]

theorem int32?_isSome_iff {number : ℤ} : (int32? number).isSome ↔ IsInt32 number := by
  unfold int32?
  split_ifs with hRange <;> simp [hRange]

/-- A number without its fraction. -/
def truncate (number : ℚ) : ℤ := number.num.tdiv number.den

/-- The conversion of the messages' numbers to `int32_t`. -/
def toInt32? (number : ℚ) : Option Int32 := int32? (truncate number)

/-- Times are nanoseconds of `date::utc_clock`. -/
structure SessionInfo where
  state : SessionState
  stateInfo : String
  startEnergyWh : Int32
  endEnergyWh : Int32
  startTimePoint : ℤ
  endTimePoint : ℤ
  latestTotalW : ℚ
  deriving DecidableEq

/-- What is published, with the time in place of its text. -/
structure Report where
  state : String
  stateInfo : String
  chargedEnergyWh : Int32
  latestTotalW : ℚ
  chargingDurationS : ℤ
  datetime : ℤ
  deriving DecidableEq

namespace SessionInfo

/-- The constructor. -/
def create (now : ℤ) : SessionInfo where
  state := .unknown
  stateInfo := ""
  startEnergyWh := 0
  endEnergyWh := 0
  startTimePoint := now
  endTimePoint := now
  latestTotalW := 0

def updateState (info : SessionInfo) (event : SessionEventEnum) (stateInfo : String) :
    SessionInfo :=
  { info with state := info.state.after event, stateInfo := stateInfo }

def setStartEnergyWh (info : SessionInfo) (now : ℤ) (startEnergyWh : Int32) : SessionInfo :=
  { info with
    startEnergyWh := startEnergyWh
    endEnergyWh := startEnergyWh
    startTimePoint := now
    endTimePoint := now }

def setEndEnergyWh (info : SessionInfo) (now : ℤ) (endEnergyWh : Int32) : SessionInfo :=
  { info with endEnergyWh := endEnergyWh, endTimePoint := now }

def setLatestEnergyWh (info : SessionInfo) (now : ℤ) (latestEnergyWh : Int32) : SessionInfo :=
  if info.state.isStateCharging then
    { info with endTimePoint := now, endEnergyWh := latestEnergyWh }
  else info

def setLatestTotalW (info : SessionInfo) (latestTotalW : ℚ) : SessionInfo :=
  { info with latestTotalW := latestTotalW }

/-- `SessionInfo::operator std::string`. -/
def report (info : SessionInfo) (now : ℤ) : Option Report := do
  let chargedEnergyWh ← int32? (info.endEnergyWh.toInt - info.startEnergyWh.toInt)
  return {
    state := info.state.text
    stateInfo := info.stateInfo
    chargedEnergyWh := chargedEnergyWh
    latestTotalW := info.latestTotalW
    chargingDurationS := (info.endTimePoint - info.startTimePoint).tdiv 1000000000
    datetime := now }

end SessionInfo

/-- What the module reads of a meter value. -/
structure Powermeter where
  energyWhImport : ℚ
  /-- The total of `power_W`, which a meter value need not have. -/
  powerW : Option ℚ

/-- What the module reads of a session event. Of the data of a transaction, that is
`energy_Wh_import`. -/
structure SessionEvent where
  event : SessionEventEnum
  error : Option Error := none
  transactionStarted : Option ℚ := none
  transactionFinished : Option ℚ := none

/-- What a connector's EVSE manager publishes, and when it is handled. -/
inductive Message where
  | powermeter (now : ℤ) (powermeter : Powermeter)
  | sessionEvent (now : ℤ) (sessionEvent : SessionEvent)

/-- What ends a callback early. -/
inductive Fault where
  /-- `json::at` without the key. -/
  | outOfRange
  /-- `value` of an empty optional. -/
  | badOptionalAccess

namespace SessionInfo

/-- The callback of `subscribe_powermeter`. -/
def handlePowermeter (info : SessionInfo) (now : ℤ) (powermeter : Powermeter) :
    Option (SessionInfo × Option Fault) := do
  let latestEnergyWh ← toInt32? powermeter.energyWhImport
  let info := info.setLatestEnergyWh now latestEnergyWh
  match powermeter.powerW with
  | none => return (info, some .outOfRange)
  | some total => return (info.setLatestTotalW total, none)

/-- The callback of `subscribe_session_event`. -/
def handleSessionEvent (info : SessionInfo) (now : ℤ) (sessionEvent : SessionEvent) :
    Option (SessionInfo × Option Fault) :=
  let info := info.updateState sessionEvent.event
    (match sessionEvent.error with
    | some error => errorToString error
    | none => "")
  match sessionEvent.event with
  | .transactionStarted =>
      match sessionEvent.transactionStarted with
      | none => some (info, some .badOptionalAccess)
      | some energyWhImport => do
          let startEnergyWh ← toInt32? energyWhImport
          return (info.setStartEnergyWh now startEnergyWh, none)
  | .transactionFinished =>
      match sessionEvent.transactionFinished with
      | none => some (info, some .badOptionalAccess)
      | some energyWhImport => do
          let endEnergyWh ← toInt32? energyWhImport
          return (info.setEndEnergyWh now endEnergyWh, none)
  | _ => some (info, none)

/-- One message. What a callback did before a fault stays. -/
def deliver (info : SessionInfo) : Message → Option SessionInfo
  | .powermeter now powermeter => (info.handlePowermeter now powermeter).map Prod.fst
  | .sessionEvent now sessionEvent => (info.handleSessionEvent now sessionEvent).map Prod.fst

/-- All messages since the connector was set up. -/
def receive (created : ℤ) (messages : List Message) : Option SessionInfo :=
  run? deliver (create created) messages

/-- What is published after these messages. -/
def reportAfter (created : ℤ) (messages : List Message) (now : ℤ) : Option Report :=
  (receive created messages).bind fun info => info.report now

end SessionInfo

/-- The display state follows the session events alone. -/
def SessionState.follow (state : SessionState) : Message → SessionState
  | .powermeter _ _ => state
  | .sessionEvent _ sessionEvent => state.after sessionEvent.event

def displayState (messages : List Message) : SessionState :=
  run SessionState.follow .unknown messages

/-- The energy that a message makes its callback convert. -/
def Message.energy? : Message → Option ℚ
  | .powermeter _ meter => some meter.energyWhImport
  | .sessionEvent _ signal =>
      match signal.event with
      | .transactionStarted => signal.transactionStarted
      | .transactionFinished => signal.transactionFinished
      | _ => none

/-- That energy can be converted. -/
def Message.InRange (message : Message) : Prop :=
  ∀ energy ∈ message.energy?, IsInt32 (truncate energy)

instance (message : Message) : Decidable message.InRange :=
  inferInstanceAs (Decidable (∀ energy ∈ message.energy?, _))

/-- The account of one transaction after the other, in whole watt-hours. -/
structure Account where
  running : Bool := false
  startWh : ℤ := 0
  lastWh : ℤ := 0
  deriving DecidableEq, Repr

namespace Account

/-- What the last transaction has charged so far, or in all. -/
def charged (account : Account) : ℤ := account.lastWh - account.startWh

/-- Meter values count while a transaction runs, whatever other events there are. -/
def note (account : Account) : Message → Account
  | .powermeter _ powermeter =>
      if account.running then { account with lastWh := truncate powermeter.energyWhImport }
      else account
  | .sessionEvent _ sessionEvent =>
      match sessionEvent.event, sessionEvent.transactionStarted,
        sessionEvent.transactionFinished with
      | .transactionStarted, some energyWhImport, _ =>
          ⟨true, truncate energyWhImport, truncate energyWhImport⟩
      | .transactionFinished, _, some energyWhImport =>
          { account with running := false, lastWh := truncate energyWhImport }
      | _, _, _ => account

/-- The account after all messages since the connector was set up. -/
def keep (messages : List Message) : Account :=
  run note {} messages

end Account

/-- A meter value is taken in a display state exactly while a transaction runs, unless it
repeats the last value of the account. -/
def CountsRightly (state : SessionState) (account : Account) : Message → Prop
  | .powermeter _ powermeter =>
      state.isStateCharging = account.running ∨
        truncate powermeter.energyWhImport = account.lastWh
  | .sessionEvent _ _ => True

instance (state : SessionState) (account : Account) (message : Message) :
    Decidable (CountsRightly state account message) :=
  match message with
  | .powermeter _ _ => inferInstanceAs (Decidable (_ ∨ _))
  | .sessionEvent _ _ => inferInstanceAs (Decidable True)

def transaction : Bracket SessionEventEnum := ⟨.transactionStarted, .transactionFinished⟩

def Message.event? : Message → Option SessionEventEnum
  | .powermeter _ _ => none
  | .sessionEvent _ signal => some signal.event

/-- The event that opens or closes a transaction comes with its data. -/
def Message.Complete : Message → Prop
  | .powermeter _ _ => True
  | .sessionEvent _ signal =>
      (signal.event = .transactionStarted → signal.transactionStarted ≠ none) ∧
        (signal.event = .transactionFinished → signal.transactionFinished ≠ none)

instance (message : Message) : Decidable message.Complete :=
  match message with
  | .powermeter _ _ => inferInstanceAs (Decidable True)
  | .sessionEvent _ _ => inferInstanceAs (Decidable (_ ∧ _))

/-- One transaction after the other. -/
structure OneAtATime (messages : List Message) : Prop where
  alternates : transaction.Alternates (messages.filterMap Message.event?)
  complete : ∀ message ∈ messages, message.Complete

section Steps

variable {info next : SessionInfo} (account : Account)

/-- What a meter value does: it is the last one in a display state that takes it. -/
theorem deliver_powermeter_eq_some {now : ℤ} {powermeter : Powermeter}
    (h : info.deliver (.powermeter now powermeter) = some next) :
    ∃ energyWh : Int32, energyWh.toInt = truncate powermeter.energyWhImport ∧
      next.state = info.state ∧ next.startEnergyWh = info.startEnergyWh ∧
      next.endEnergyWh = if info.state.isStateCharging then energyWh else info.endEnergyWh := by
  obtain ⟨⟨last, fault⟩, hHandled, rfl⟩ := Option.map_eq_some_iff.mp h
  obtain ⟨energyWh, hEnergy, hRest⟩ := Option.bind_eq_some_iff.mp hHandled
  refine ⟨energyWh, int32?_eq_some_iff.mp hEnergy, ?_⟩
  unfold SessionInfo.setLatestEnergyWh at hRest
  cases hPower : powermeter.powerW with
  | none =>
      simp only [hPower] at hRest
      cases hRest
      split_ifs <;> exact ⟨rfl, rfl, rfl⟩
  | some total =>
      simp only [hPower] at hRest
      cases hRest
      split_ifs <;> exact ⟨rfl, rfl, rfl⟩

/-- A session event moves the display state on. It leaves both energies in place, or sets
what the account notes. -/
theorem deliver_sessionEvent_cases {now : ℤ} {sessionEvent : SessionEvent}
    (h : info.deliver (.sessionEvent now sessionEvent) = some next) :
    let noted := account.note (.sessionEvent now sessionEvent)
    next.state = info.state.after sessionEvent.event ∧
      ((next.startEnergyWh = info.startEnergyWh ∧ next.endEnergyWh = info.endEnergyWh ∧
          noted = account) ∨
        (∃ energyWh : Int32, next.startEnergyWh = energyWh ∧ next.endEnergyWh = energyWh ∧
          noted = ⟨true, energyWh.toInt, energyWh.toInt⟩) ∨
        ∃ energyWh : Int32, next.startEnergyWh = info.startEnergyWh ∧
          next.endEnergyWh = energyWh ∧
          noted = { account with running := false, lastWh := energyWh.toInt }) := by
  obtain ⟨⟨last, fault⟩, hHandled, rfl⟩ := Option.map_eq_some_iff.mp h
  obtain ⟨event, error, started, finished⟩ := sessionEvent
  cases event with
  | transactionStarted =>
      cases started with
      | none =>
          cases hHandled
          exact ⟨rfl, Or.inl ⟨rfl, rfl, rfl⟩⟩
      | some energy =>
          obtain ⟨energyWh, hEnergy, hLast⟩ := Option.bind_eq_some_iff.mp hHandled
          cases hLast
          refine ⟨rfl, Or.inr (Or.inl ⟨energyWh, rfl, rfl, ?_⟩)⟩
          rw [int32?_eq_some_iff.mp hEnergy]
          rfl
  | transactionFinished =>
      cases finished with
      | none =>
          cases hHandled
          exact ⟨rfl, Or.inl ⟨rfl, rfl, rfl⟩⟩
      | some energy =>
          obtain ⟨energyWh, hEnergy, hLast⟩ := Option.bind_eq_some_iff.mp hHandled
          cases hLast
          refine ⟨rfl, Or.inr (Or.inr ⟨energyWh, rfl, rfl, ?_⟩)⟩
          rw [int32?_eq_some_iff.mp hEnergy]
          rfl
  | _ =>
      cases hHandled
      exact ⟨rfl, Or.inl ⟨rfl, rfl, rfl⟩⟩

/-- A callback has a result exactly if the energy of its message can be converted. -/
theorem deliver_isSome_iff (message : Message) :
    (info.deliver message).isSome ↔ message.InRange := by
  have hConverted (energy : ℚ) : (toInt32? energy).isSome ↔ IsInt32 (truncate energy) :=
    int32?_isSome_iff
  cases message with
  | powermeter now powermeter =>
      have hRange : (Message.powermeter now powermeter).InRange ↔
          IsInt32 (truncate powermeter.energyWhImport) := by
        simp [Message.InRange, Message.energy?]
      rw [hRange, ← hConverted, SessionInfo.deliver, SessionInfo.handlePowermeter]
      cases toInt32? powermeter.energyWhImport with
      | none => simp
      | some energyWh => cases powermeter.powerW <;> simp
  | sessionEvent now sessionEvent =>
      obtain ⟨event, error, started, finished⟩ := sessionEvent
      cases event with
      | transactionStarted =>
          cases started with
          | none => simp [SessionInfo.deliver, SessionInfo.handleSessionEvent, Message.InRange,
              Message.energy?]
          | some energy =>
              simp only [Message.InRange, Message.energy?, Option.mem_def, Option.some.injEq,
                forall_eq', ← hConverted]
              cases hEnergy : toInt32? energy <;>
                simp [SessionInfo.deliver, SessionInfo.handleSessionEvent, hEnergy]
      | transactionFinished =>
          cases finished with
          | none => simp [SessionInfo.deliver, SessionInfo.handleSessionEvent, Message.InRange,
              Message.energy?]
          | some energy =>
              simp only [Message.InRange, Message.energy?, Option.mem_def, Option.some.injEq,
                forall_eq', ← hConverted]
              cases hEnergy : toInt32? energy <;>
                simp [SessionInfo.deliver, SessionInfo.handleSessionEvent, hEnergy]
      | _ => simp [SessionInfo.deliver, SessionInfo.handleSessionEvent, Message.InRange,
          Message.energy?]

theorem deliver_state {message : Message} (h : info.deliver message = some next) :
    next.state = info.state.follow message := by
  cases message with
  | powermeter now powermeter =>
      obtain ⟨_, _, hState, _⟩ := deliver_powermeter_eq_some h
      exact hState
  | sessionEvent now sessionEvent => exact (deliver_sessionEvent_cases {} h).1

variable {account}

/-- The start of the last transaction is never lost. -/
theorem startEnergyWh_deliver (hStart : info.startEnergyWh.toInt = account.startWh)
    {message : Message} (h : info.deliver message = some next) :
    next.startEnergyWh.toInt = (account.note message).startWh := by
  cases message with
  | powermeter now powermeter =>
      obtain ⟨_, -, -, hSame, -⟩ := deliver_powermeter_eq_some h
      rw [hSame, hStart, Account.note]
      split <;> rfl
  | sessionEvent now sessionEvent =>
      rcases (deliver_sessionEvent_cases account h).2 with
        ⟨hSame, _, hNote⟩ | ⟨energyWh, hNew, _, hNote⟩ | ⟨energyWh, hSame, _, hNote⟩
      · rw [hSame, hNote, hStart]
      · rw [hNew, hNote]
      · rw [hSame, hNote, hStart]

/-- The last energy is lost only by a meter value that is taken at the wrong time, or is not
taken at the right one. -/
theorem endEnergyWh_deliver_iff (hEnd : info.endEnergyWh.toInt = account.lastWh)
    {message : Message} (h : info.deliver message = some next) :
    next.endEnergyWh.toInt = (account.note message).lastWh ↔
      CountsRightly info.state account message := by
  cases message with
  | powermeter now powermeter =>
      obtain ⟨energyWh, hEnergy, -, -, hNext⟩ := deliver_powermeter_eq_some h
      rw [hNext, Account.note, CountsRightly, ← hEnergy]
      cases info.state.isStateCharging <;> cases account.running <;> simp [hEnd, eq_comm]
  | sessionEvent now sessionEvent =>
      refine iff_of_true ?_ trivial
      rcases (deliver_sessionEvent_cases account h).2 with
        ⟨_, hSame, hNote⟩ | ⟨energyWh, _, hNew, hNote⟩ | ⟨energyWh, _, hNew, hNote⟩
      · rw [hSame, hNote, hEnd]
      · rw [hNew, hNote]
      · rw [hNew, hNote]

end Steps

/-- What the session info agrees on with the messages, as far as it is defined. -/
theorem receive_eq_some {created : ℤ} {messages : List Message} {info : SessionInfo}
    (h : SessionInfo.receive created messages = some info) :
    info.state = displayState messages ∧
      info.startEnergyWh.toInt = (Account.keep messages).startWh := by
  apply run?_invariant (fun messages info => info.state = displayState messages ∧
    info.startEnergyWh.toInt = (Account.keep messages).startWh) _ _ h
  · exact ⟨rfl, rfl⟩
  · rintro before message info next ⟨hState, hStart⟩ hNext
    rw [displayState, Account.keep, run_snoc, run_snoc, deliver_state hNext, hState]
    exact ⟨rfl, startEnergyWh_deliver hStart hNext⟩

/-- What is published after these messages shows the account. -/
def ReportsRightly (created : ℤ) (messages : List Message) : Prop :=
  ∀ now, ∃ report, SessionInfo.reportAfter created messages now = some report ∧
    report.chargedEnergyWh.toInt = (Account.keep messages).charged

/-- The report is right exactly if the last energy is that of the account, and the difference to the
start has a value. -/
theorem reportsRightly_iff {created : ℤ} {messages : List Message} :
    ReportsRightly created messages ↔
      ∃ info, SessionInfo.receive created messages = some info ∧
        info.endEnergyWh.toInt = (Account.keep messages).lastWh ∧
        IsInt32 (Account.keep messages).charged := by
  constructor
  · intro h
    obtain ⟨report, hReport, hCharged⟩ := h 0
    obtain ⟨info, hInfo, hReport⟩ := Option.bind_eq_some_iff.mp hReport
    obtain ⟨charged, hDifference, hReport⟩ := Option.bind_eq_some_iff.mp hReport
    cases hReport
    have hStart := (receive_eq_some hInfo).2
    have hRange : IsInt32 (info.endEnergyWh.toInt - info.startEnergyWh.toInt) :=
      int32?_isSome_iff.mp (by rw [hDifference]; rfl)
    rw [int32?_eq_some_iff] at hDifference
    have hSame : info.endEnergyWh.toInt - info.startEnergyWh.toInt =
        (Account.keep messages).charged := hDifference.symm.trans hCharged
    refine ⟨info, hInfo, ?_, hSame ▸ hRange⟩
    rw [hStart, Account.charged] at hSame
    omega
  · rintro ⟨info, hInfo, hEnd, hRange⟩ now
    have hStart := (receive_eq_some hInfo).2
    have hSame : info.endEnergyWh.toInt - info.startEnergyWh.toInt =
        (Account.keep messages).charged := by rw [hEnd, hStart, Account.charged]
    obtain ⟨charged, hCharged⟩ :=
      Option.isSome_iff_exists.mp (int32?_isSome_iff.mpr (hSame ▸ hRange))
    obtain ⟨report, hReport, hShown⟩ : ∃ report, info.report now = some report ∧
        report.chargedEnergyWh = charged := by
      rw [SessionInfo.report, hCharged]
      exact ⟨_, rfl, rfl⟩
    refine ⟨report, Option.bind_eq_some_iff.mpr ⟨info, hInfo, hReport⟩, ?_⟩
    rw [hShown, int32?_eq_some_iff.mp hCharged, hSame]

/-- At any time the report shows the energy of one transaction exactly if every meter value
so far came in a display state that counts it while a transaction runs, and only then, or
was the last value again, and if all energies and what was charged are in the range of
`int32_t`. -/
theorem report_eq_charged_iff (created : ℤ) (messages : List Message) :
    (∀ before, before <+: messages → ReportsRightly created before) ↔
      EachAfter (fun before message =>
        message.InRange ∧
          CountsRightly (displayState before) (Account.keep before) message ∧
          IsInt32 (Account.keep (before ++ [message])).charged)
        messages := by
  apply forall_prefix_iff_eachAfter
  · exact reportsRightly_iff.mpr ⟨_, rfl, rfl, by decide⟩
  · intro before message _ hGood
    obtain ⟨info, hInfo, hEnd, -⟩ := reportsRightly_iff.mp (hGood before (List.prefix_refl _))
    have hState := (receive_eq_some hInfo).1
    have hReceived : SessionInfo.receive created (before ++ [message]) = info.deliver message := by
      rw [SessionInfo.receive, run?_snoc, ← SessionInfo.receive, hInfo, Option.bind_some]
    have hNoted : Account.keep (before ++ [message]) = (Account.keep before).note message := by
      rw [Account.keep, run_snoc, ← Account.keep]
    rw [reportsRightly_iff, hReceived, hNoted, ← hState]
    constructor
    · rintro ⟨next, hNext, hLast, hRange⟩
      exact ⟨(deliver_isSome_iff message).mp (by rw [hNext]; rfl),
        (endEnergyWh_deliver_iff hEnd hNext).mp hLast, hRange⟩
    · rintro ⟨hInRange, hCounts, hRange⟩
      obtain ⟨next, hNext⟩ :=
        Option.isSome_iff_exists.mp ((deliver_isSome_iff message).mpr hInRange)
      exact ⟨next, hNext, (endEnergyWh_deliver_iff hEnd hNext).mpr hCounts, hRange⟩

/-- An error in a transaction that goes on. All errors are cleared, the meter shows 500 Wh
more, and the report still shows none. -/
def errorWhileCharging : List Message :=
  [.sessionEvent 0 { event := .sessionStarted },
    .sessionEvent 1 { event := .authRequired },
    .sessionEvent 2 { event := .transactionStarted, transactionStarted := some 1000 },
    .sessionEvent 3 { event := .chargingStarted },
    .sessionEvent 4 { event := .error, error := some .overCurrent },
    .sessionEvent 5 { event := .allErrorsCleared },
    .powermeter 6 { energyWhImport := 1500, powerW := some 11000 }]

theorem report_ne_charged_of_error :
    OneAtATime errorWhileCharging ∧
      (SessionInfo.reportAfter 0 errorWhileCharging 7).map (·.chargedEnergyWh) = some 0 ∧
      (Account.keep errorWhileCharging).charged = 500 := by
  refine ⟨⟨?_, ?_⟩, ?_, ?_⟩ <;> decide

end EverestCore.Api
