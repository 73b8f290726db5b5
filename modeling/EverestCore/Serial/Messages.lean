import EverestCore.Nanopb.Messages
import EverestCore.Serial.PacketCodec

/-! The messages between `evSerial` and the controller of the Yeti, as `hi2lo.pb.h` and
`lo2hi.pb.h` have them. -/
namespace EverestCore.Serial
open Nanopb

/-- A `float`. Only its bits are copied. -/
abbrev FloatBits := BitVec 32

/-- A message without fields. -/
structure NoFields where

namespace NoFields

def fields : List (PbField NoFields) := []

def msg : PbMsgdesc NoFields := msgdesc fields ⟨⟩

theorem plain : Plain fields ⟨⟩ where
  ordered := ⟨.nil, nofun, nofun⟩
  plain := nofun
  rebuilds _ := rfl

end NoFields

/-- A message with a single field. -/
structure Single (ltype : PbLtype) where
  value : ltype.Data

namespace Single

variable (ltype : PbLtype)

def fields : List (PbField (Single ltype)) :=
  [.singular ltype ⟨value, fun value _ => ⟨value⟩⟩ 1]

def msg : PbMsgdesc (Single ltype) := msgdesc (fields ltype) ⟨ltype.zero⟩

theorem plain {ltype : PbLtype} (hFits : ltype.Fits) : Plain (fields ltype) ⟨ltype.zero⟩ where
  ordered := ⟨List.pairwise_singleton _ _, by simp [fields, PbField.tag],
    by simp [fields, PbField.tag]⟩
  plain := by simpa [fields, PbField.plain] using hFits
  rebuilds _ := ⟨rfl, rfl⟩

end Single

structure SetPWM where
  mode : BitVec 32
  dutyCycle : FloatBits

namespace SetPWM

/-- `SetPWM_FIELDLIST`. -/
def fields : List (PbField SetPWM) :=
  [.singular .varint ⟨mode, fun v s => { s with mode := v }⟩ 1,
   .singular .fixed32 ⟨dutyCycle, fun v s => { s with dutyCycle := v }⟩ 2]

def initZero : SetPWM := ⟨0, 0⟩

def msg : PbMsgdesc SetPWM := msgdesc fields initZero

theorem plain : Plain fields initZero where
  ordered := ⟨by decide, by decide, by decide⟩
  plain := by decide
  rebuilds _ := by
    simp [fields, initZero, Rebuilds, PbField.Fresh, PbField.copy, PbLtype.zero]

end SetPWM

structure SimulationData where
  (cpVoltage ppResistor currentL1 currentL2 currentL3 currentN voltageL1 voltageL2 : FloatBits)
  (voltageL3 freqL1 freqL2 freqL3 rcdCurrent : FloatBits)
  (diodeFail errorE : Bool)

namespace SimulationData

/-- `SimulationData_FIELDLIST`. -/
def fields : List (PbField SimulationData) :=
  [.singular .fixed32 ⟨cpVoltage, fun v s => { s with cpVoltage := v }⟩ 1,
   .singular .fixed32 ⟨ppResistor, fun v s => { s with ppResistor := v }⟩ 2,
   .singular .fixed32 ⟨currentL1, fun v s => { s with currentL1 := v }⟩ 3,
   .singular .fixed32 ⟨currentL2, fun v s => { s with currentL2 := v }⟩ 4,
   .singular .fixed32 ⟨currentL3, fun v s => { s with currentL3 := v }⟩ 5,
   .singular .fixed32 ⟨currentN, fun v s => { s with currentN := v }⟩ 6,
   .singular .fixed32 ⟨voltageL1, fun v s => { s with voltageL1 := v }⟩ 7,
   .singular .fixed32 ⟨voltageL2, fun v s => { s with voltageL2 := v }⟩ 8,
   .singular .fixed32 ⟨voltageL3, fun v s => { s with voltageL3 := v }⟩ 9,
   .singular .fixed32 ⟨freqL1, fun v s => { s with freqL1 := v }⟩ 10,
   .singular .fixed32 ⟨freqL2, fun v s => { s with freqL2 := v }⟩ 11,
   .singular .fixed32 ⟨freqL3, fun v s => { s with freqL3 := v }⟩ 12,
   .singular .fixed32 ⟨rcdCurrent, fun v s => { s with rcdCurrent := v }⟩ 13,
   .singular .bool ⟨diodeFail, fun v s => { s with diodeFail := v }⟩ 14,
   .singular .bool ⟨errorE, fun v s => { s with errorE := v }⟩ 15]

def initZero : SimulationData := ⟨0, 0, 0, 0, 0, 0, 0, 0, 0, 0, 0, 0, 0, false, false⟩

def msg : PbMsgdesc SimulationData := msgdesc fields initZero

theorem plain : Plain fields initZero where
  ordered := ⟨by decide, by decide, by decide⟩
  plain := by decide
  rebuilds _ := by
    simp [fields, initZero, Rebuilds, PbField.Fresh, PbField.copy, PbLtype.zero]

end SimulationData

structure KeepAliveHi where
  (timeStamp hwType hwRevision protocolVersionMajor protocolVersionMinor : BitVec 32)
  swVersionString : CString 51

namespace KeepAliveHi

/-- `KeepAliveHi_FIELDLIST`. -/
def fields : List (PbField KeepAliveHi) :=
  [.singular .uvarint ⟨timeStamp, fun v s => { s with timeStamp := v }⟩ 1,
   .singular .uvarint ⟨hwType, fun v s => { s with hwType := v }⟩ 2,
   .singular .uvarint ⟨hwRevision, fun v s => { s with hwRevision := v }⟩ 3,
   .singular .uvarint ⟨protocolVersionMajor, fun v s => { s with protocolVersionMajor := v }⟩ 4,
   .singular .uvarint ⟨protocolVersionMinor, fun v s => { s with protocolVersionMinor := v }⟩ 5,
   .singular (.string 50) ⟨swVersionString, fun v s => { s with swVersionString := v }⟩ 6]

def initZero : KeepAliveHi := ⟨0, 0, 0, 0, 0, PbLtype.zero (.string 50)⟩

def msg : PbMsgdesc KeepAliveHi := msgdesc fields initZero

theorem plain : Plain fields initZero where
  ordered := ⟨by decide, by decide, by decide⟩
  plain := by decide
  rebuilds _ := by
    simp [fields, initZero, Rebuilds, PbField.Fresh, PbField.copy, PbLtype.zero]

end KeepAliveHi

abbrev SetMaxCurrent := Single .fixed32

abbrev SetThreePhases := Single .bool

abbrev SetHasVentilation := Single .bool

abbrev SetCountryCode := Single (.string 10)

abbrev SetAuth := Single (.string 50)

abbrev SwitchThreePhasesWhileCharging := Single .bool

abbrev EnableRCD := Single .bool

abbrev FirmwareUpdate := Single .bool

abbrev EnableSimulation := Single .bool

abbrev SetControlMode := Single .uvarint

abbrev AllowPowerOn := Single .bool

abbrev Replug := Single .uvarint

abbrev Enable := NoFields

abbrev Disable := NoFields

abbrev PauseCharging := NoFields

abbrev ResumeCharging := NoFields

abbrev Restart := NoFields

abbrev ForceUnlock := NoFields

abbrev Reset := NoFields

/-- The members of the union of `HiToLo`. -/
inductive HiToLo.Payload where
  | setMaxCurrent
  | setThreePhases
  | setHasVentilation
  | setCountryCode
  | enable
  | disable
  | setAuth
  | switchThreePhasesWhileCharging
  | pauseCharging
  | resumeCharging
  | enableRcd
  | keepAlive
  | restart
  | firmwareUpdate
  | enableSimulation
  | simulationData
  | setControlMode
  | setPwm
  | allowPowerOn
  | forceUnlock
  | reset
  | replug
deriving DecidableEq

@[reducible] def HiToLo.Struct : HiToLo.Payload → Type
  | .setMaxCurrent => SetMaxCurrent
  | .setThreePhases => SetThreePhases
  | .setHasVentilation => SetHasVentilation
  | .setCountryCode => SetCountryCode
  | .enable => Enable
  | .disable => Disable
  | .setAuth => SetAuth
  | .switchThreePhasesWhileCharging => SwitchThreePhasesWhileCharging
  | .pauseCharging => PauseCharging
  | .resumeCharging => ResumeCharging
  | .enableRcd => EnableRCD
  | .keepAlive => KeepAliveHi
  | .restart => Restart
  | .firmwareUpdate => FirmwareUpdate
  | .enableSimulation => EnableSimulation
  | .simulationData => SimulationData
  | .setControlMode => SetControlMode
  | .setPwm => SetPWM
  | .allowPowerOn => AllowPowerOn
  | .forceUnlock => ForceUnlock
  | .reset => Reset
  | .replug => Replug

structure HiToLo where
  payload : Union HiToLo.Struct

namespace HiToLo

/-- `HiToLo_FIELDLIST`. -/
def entries : List (UnionField Struct) :=
  [⟨.setMaxCurrent, Single.msg .fixed32, 1⟩,
   ⟨.setThreePhases, Single.msg .bool, 2⟩,
   ⟨.setHasVentilation, Single.msg .bool, 3⟩,
   ⟨.setCountryCode, Single.msg (.string 10), 4⟩,
   ⟨.enable, NoFields.msg, 6⟩,
   ⟨.disable, NoFields.msg, 7⟩,
   ⟨.setAuth, Single.msg (.string 50), 8⟩,
   ⟨.switchThreePhasesWhileCharging, Single.msg .bool, 9⟩,
   ⟨.pauseCharging, NoFields.msg, 10⟩,
   ⟨.resumeCharging, NoFields.msg, 11⟩,
   ⟨.enableRcd, Single.msg .bool, 12⟩,
   ⟨.keepAlive, KeepAliveHi.msg, 13⟩,
   ⟨.restart, NoFields.msg, 14⟩,
   ⟨.firmwareUpdate, Single.msg .bool, 16⟩,
   ⟨.enableSimulation, Single.msg .bool, 17⟩,
   ⟨.simulationData, SimulationData.msg, 18⟩,
   ⟨.setControlMode, Single.msg .uvarint, 19⟩,
   ⟨.setPwm, SetPWM.msg, 20⟩,
   ⟨.allowPowerOn, Single.msg .bool, 21⟩,
   ⟨.forceUnlock, NoFields.msg, 22⟩,
   ⟨.reset, NoFields.msg, 23⟩,
   ⟨.replug, Single.msg .uvarint, 24⟩]

def payloadMember : Member HiToLo (Union Struct) := ⟨payload, fun payload _ => ⟨payload⟩⟩

def fields : List (PbField HiToLo) := entries.map (UnionField.field payloadMember)

/-- `HiToLo_size`. -/
def size : ℕ := 84

theorem unionFields : UnionFields payloadMember entries ⟨.none⟩ size where
  ordered := ⟨by decide, by decide, by decide⟩
  nodup := by decide
  complete tag := by cases tag <;> decide
  known := by
    simp only [entries, List.forall_mem_cons]
    exact ⟨(Single.plain (by decide)).known (by decide),
      (Single.plain (by decide)).known (by decide), (Single.plain (by decide)).known (by decide),
      (Single.plain (by decide)).known (by decide), NoFields.plain.known (by decide),
      NoFields.plain.known (by decide), (Single.plain (by decide)).known (by decide),
      (Single.plain (by decide)).known (by decide), NoFields.plain.known (by decide),
      NoFields.plain.known (by decide), (Single.plain (by decide)).known (by decide),
      KeepAliveHi.plain.known (by decide), NoFields.plain.known (by decide),
      (Single.plain (by decide)).known (by decide), (Single.plain (by decide)).known (by decide),
      SimulationData.plain.known (by decide), (Single.plain (by decide)).known (by decide),
      SetPWM.plain.known (by decide), (Single.plain (by decide)).known (by decide),
      NoFields.plain.known (by decide), NoFields.plain.known (by decide),
      (Single.plain (by decide)).known (by decide), List.forall_mem_nil _⟩
  union := ⟨rfl, fun _ _ => rfl⟩

end HiToLo

abbrev ErrorFlags := Single .uvarint

abbrev ChargingFlags := Single .bool

inductive StateUpdate.StateFlags where
  | errorType
  | chargingFlags
deriving DecidableEq

@[reducible] def StateUpdate.Struct : StateUpdate.StateFlags → Type
  | .errorType => ErrorFlags
  | .chargingFlags => ChargingFlags

structure StateUpdate where
  (timeStamp state : BitVec 32)
  stateFlags : Union StateUpdate.Struct

namespace StateUpdate

/-- `StateUpdate_FIELDLIST`. -/
def fields : List (PbField StateUpdate) :=
  [.singular .uvarint ⟨timeStamp, fun v s => { s with timeStamp := v }⟩ 1,
   .singular .uvarint ⟨state, fun v s => { s with state := v }⟩ 2,
   .oneof ⟨stateFlags, fun v s => { s with stateFlags := v }⟩ .errorType (Single.msg .uvarint) 3,
   .oneof ⟨stateFlags, fun v s => { s with stateFlags := v }⟩ .chargingFlags (Single.msg .bool) 4]

def initZero : StateUpdate := ⟨0, 0, .none⟩

def msg : PbMsgdesc StateUpdate := msgdesc fields initZero

/-- The fields stand in the order of their tags. -/
theorem ordered : Ordered fields := ⟨by decide, by decide, by decide⟩

/-- Each field reads what it writes. -/
theorem lawful_fields : ∀ field ∈ fields, field.Lawful := by
  simp only [fields, List.forall_mem_cons]
  exact ⟨trivial, trivial, (Single.plain (by decide)).lawful (by decide),
    (Single.plain (by decide)).lawful (by decide), List.forall_mem_nil _⟩

/-- A state update takes 24 bytes at most. -/
theorem bounded : msg.Bounded 24 := by
  have hError : (⟨.errorType, Single.msg .uvarint, 3⟩ : UnionField Struct).Known 8 :=
    (Single.plain (by decide)).known (by decide)
  have hCharging : (⟨.chargingFlags, Single.msg .bool, 4⟩ : UnionField Struct).Known 4 :=
    (Single.plain (by decide)).known (by decide)
  intro s
  rw [msg, bytes_msgdesc ordered lawful_fields]
  exact length_flatMap_le (.cons (PbField.length_bytes_le rfl (by decide))
    (.cons (PbField.length_bytes_le rfl (by decide))
      (.cons (hError.length_le (by decide)) (.cons (hCharging.length_le (by decide)) .nil)))) s

/-- Every state update is built up from its fields. -/
theorem rebuilds (source : StateUpdate) : Rebuilds fields source initZero := by
  rcases source with ⟨timeStamp, state, _ | ⟨_ | _, flags⟩⟩
  · exact ⟨rfl, rfl, rfl, rfl, rfl⟩
  · exact ⟨rfl, rfl, rfl, rfl, rfl⟩
  · exact ⟨rfl, rfl, rfl, rfl, rfl⟩

theorem known {tag limit : ℕ} (hSize : tagSize tag + (1 + 24) ≤ limit) :
    msg.Lawful ∧ ∃ size < 128, msg.Bounded size ∧ tagSize tag + (1 + size) ≤ limit :=
  ⟨lawful_msgdesc ordered lawful_fields rebuilds fun s => (bounded s).trans_lt (by decide), 24,
    by decide, bounded, hSize⟩

end StateUpdate

structure DebugUpdate where
  timeStamp : BitVec 32
  (evsePwmVoltageHi evsePwmVoltageLo supplyVoltage12V supplyVoltageN12V : FloatBits)
  lowlevelState : BitVec 32
  (evsePwmRunning evSimplifiedMode hasVentilation ventilatedChargingActive : Bool)
  (rcdReclosingAllowed authorized : Bool)
  cpuTemperature : FloatBits
  rcdEnabled : Bool
  (evsePpVoltage maxCurrentCable : FloatBits)
  watchdogResetCount : BitVec 32
  simulation : Bool
  controlMode : BitVec 32
  maxCurrent : FloatBits
  useThreePhases : Bool
  rcdCurrent : FloatBits
  relaisOn : Bool

namespace DebugUpdate

/-- `DebugUpdate_FIELDLIST`. -/
def fields : List (PbField DebugUpdate) :=
  [.singular .uvarint ⟨timeStamp, fun v s => { s with timeStamp := v }⟩ 1,
   .singular .fixed32 ⟨evsePwmVoltageHi, fun v s => { s with evsePwmVoltageHi := v }⟩ 2,
   .singular .fixed32 ⟨evsePwmVoltageLo, fun v s => { s with evsePwmVoltageLo := v }⟩ 3,
   .singular .fixed32 ⟨supplyVoltage12V, fun v s => { s with supplyVoltage12V := v }⟩ 4,
   .singular .fixed32 ⟨supplyVoltageN12V, fun v s => { s with supplyVoltageN12V := v }⟩ 5,
   .singular .uvarint ⟨lowlevelState, fun v s => { s with lowlevelState := v }⟩ 6,
   .singular .bool ⟨evsePwmRunning, fun v s => { s with evsePwmRunning := v }⟩ 7,
   .singular .bool ⟨evSimplifiedMode, fun v s => { s with evSimplifiedMode := v }⟩ 8,
   .singular .bool ⟨hasVentilation, fun v s => { s with hasVentilation := v }⟩ 9,
   .singular .bool
      ⟨ventilatedChargingActive, fun v s => { s with ventilatedChargingActive := v }⟩ 10,
   .singular .bool ⟨rcdReclosingAllowed, fun v s => { s with rcdReclosingAllowed := v }⟩ 12,
   .singular .bool ⟨authorized, fun v s => { s with authorized := v }⟩ 15,
   .singular .fixed32 ⟨cpuTemperature, fun v s => { s with cpuTemperature := v }⟩ 17,
   .singular .bool ⟨rcdEnabled, fun v s => { s with rcdEnabled := v }⟩ 18,
   .singular .fixed32 ⟨evsePpVoltage, fun v s => { s with evsePpVoltage := v }⟩ 21,
   .singular .fixed32 ⟨maxCurrentCable, fun v s => { s with maxCurrentCable := v }⟩ 22,
   .singular .uvarint ⟨watchdogResetCount, fun v s => { s with watchdogResetCount := v }⟩ 23,
   .singular .bool ⟨simulation, fun v s => { s with simulation := v }⟩ 24,
   .singular .uvarint ⟨controlMode, fun v s => { s with controlMode := v }⟩ 25,
   .singular .fixed32 ⟨maxCurrent, fun v s => { s with maxCurrent := v }⟩ 26,
   .singular .bool ⟨useThreePhases, fun v s => { s with useThreePhases := v }⟩ 27,
   .singular .fixed32 ⟨rcdCurrent, fun v s => { s with rcdCurrent := v }⟩ 28,
   .singular .bool ⟨relaisOn, fun v s => { s with relaisOn := v }⟩ 29]

def initZero : DebugUpdate := ⟨0, 0, 0, 0, 0, 0, false, false, false, false, false, false, 0,
  false, 0, 0, 0, false, 0, 0, false, 0, false⟩

def msg : PbMsgdesc DebugUpdate := msgdesc fields initZero

theorem plain : Plain fields initZero where
  ordered := ⟨by decide, by decide, by decide⟩
  plain := by decide
  rebuilds _ := by
    simp [fields, initZero, Rebuilds, PbField.Fresh, PbField.copy, PbLtype.zero]

end DebugUpdate

structure KeepAliveLo where
  (timeStamp hwType hwRevision protocolVersionMajor protocolVersionMinor : BitVec 32)
  swVersionString : CString 51
  (hwcapMaxCurrent hwcapMinCurrent : FloatBits)
  (hwcapMaxPhaseCount hwcapMinPhaseCount : BitVec 32)
  supportsChangingPhasesDuringCharging : Bool

namespace KeepAliveLo

/-- `KeepAliveLo_FIELDLIST`. -/
def fields : List (PbField KeepAliveLo) :=
  [.singular .uvarint ⟨timeStamp, fun v s => { s with timeStamp := v }⟩ 1,
   .singular .uvarint ⟨hwType, fun v s => { s with hwType := v }⟩ 2,
   .singular .uvarint ⟨hwRevision, fun v s => { s with hwRevision := v }⟩ 3,
   .singular .uvarint ⟨protocolVersionMajor, fun v s => { s with protocolVersionMajor := v }⟩ 4,
   .singular .uvarint ⟨protocolVersionMinor, fun v s => { s with protocolVersionMinor := v }⟩ 5,
   .singular (.string 50) ⟨swVersionString, fun v s => { s with swVersionString := v }⟩ 6,
   .singular .fixed32 ⟨hwcapMaxCurrent, fun v s => { s with hwcapMaxCurrent := v }⟩ 7,
   .singular .fixed32 ⟨hwcapMinCurrent, fun v s => { s with hwcapMinCurrent := v }⟩ 8,
   .singular .uvarint ⟨hwcapMaxPhaseCount, fun v s => { s with hwcapMaxPhaseCount := v }⟩ 9,
   .singular .uvarint ⟨hwcapMinPhaseCount, fun v s => { s with hwcapMinPhaseCount := v }⟩ 10,
   .singular .bool
      ⟨supportsChangingPhasesDuringCharging,
        fun v s => { s with supportsChangingPhasesDuringCharging := v }⟩ 11]

def initZero : KeepAliveLo := ⟨0, 0, 0, 0, 0, PbLtype.zero (.string 50), 0, 0, 0, 0, false⟩

def msg : PbMsgdesc KeepAliveLo := msgdesc fields initZero

theorem plain : Plain fields initZero where
  ordered := ⟨by decide, by decide, by decide⟩
  plain := by decide
  rebuilds _ := by
    simp [fields, initZero, Rebuilds, PbField.Fresh, PbField.copy, PbLtype.zero]

end KeepAliveLo

structure PowerMeter where
  timeStamp : BitVec 32
  (vrmsL1 vrmsL2 vrmsL3 irmsL1 irmsL2 irmsL3 irmsN wattHrL1 wattHrL2 wattHrL3 : FloatBits)
  (totalWattHr tempL1 tempL2 tempL3 tempN wattL1 wattL2 wattL3 freqL1 freqL2 freqL3 : FloatBits)
  phaseSeqError : Bool

namespace PowerMeter

/-- `PowerMeter_FIELDLIST`. -/
def fields : List (PbField PowerMeter) :=
  [.singular .uvarint ⟨timeStamp, fun v s => { s with timeStamp := v }⟩ 1,
   .singular .fixed32 ⟨vrmsL1, fun v s => { s with vrmsL1 := v }⟩ 2,
   .singular .fixed32 ⟨vrmsL2, fun v s => { s with vrmsL2 := v }⟩ 3,
   .singular .fixed32 ⟨vrmsL3, fun v s => { s with vrmsL3 := v }⟩ 4,
   .singular .fixed32 ⟨irmsL1, fun v s => { s with irmsL1 := v }⟩ 5,
   .singular .fixed32 ⟨irmsL2, fun v s => { s with irmsL2 := v }⟩ 6,
   .singular .fixed32 ⟨irmsL3, fun v s => { s with irmsL3 := v }⟩ 7,
   .singular .fixed32 ⟨irmsN, fun v s => { s with irmsN := v }⟩ 8,
   .singular .fixed32 ⟨wattHrL1, fun v s => { s with wattHrL1 := v }⟩ 9,
   .singular .fixed32 ⟨wattHrL2, fun v s => { s with wattHrL2 := v }⟩ 10,
   .singular .fixed32 ⟨wattHrL3, fun v s => { s with wattHrL3 := v }⟩ 11,
   .singular .fixed32 ⟨totalWattHr, fun v s => { s with totalWattHr := v }⟩ 12,
   .singular .fixed32 ⟨tempL1, fun v s => { s with tempL1 := v }⟩ 13,
   .singular .fixed32 ⟨tempL2, fun v s => { s with tempL2 := v }⟩ 14,
   .singular .fixed32 ⟨tempL3, fun v s => { s with tempL3 := v }⟩ 15,
   .singular .fixed32 ⟨tempN, fun v s => { s with tempN := v }⟩ 16,
   .singular .fixed32 ⟨wattL1, fun v s => { s with wattL1 := v }⟩ 17,
   .singular .fixed32 ⟨wattL2, fun v s => { s with wattL2 := v }⟩ 18,
   .singular .fixed32 ⟨wattL3, fun v s => { s with wattL3 := v }⟩ 19,
   .singular .fixed32 ⟨freqL1, fun v s => { s with freqL1 := v }⟩ 20,
   .singular .fixed32 ⟨freqL2, fun v s => { s with freqL2 := v }⟩ 21,
   .singular .fixed32 ⟨freqL3, fun v s => { s with freqL3 := v }⟩ 22,
   .singular .bool ⟨phaseSeqError, fun v s => { s with phaseSeqError := v }⟩ 23]

def initZero : PowerMeter := ⟨0, 0, 0, 0, 0, 0, 0, 0, 0, 0, 0, 0, 0, 0, 0, 0, 0, 0, 0, 0, 0, 0,
  false⟩

def msg : PbMsgdesc PowerMeter := msgdesc fields initZero

theorem plain : Plain fields initZero where
  ordered := ⟨by decide, by decide, by decide⟩
  plain := by decide
  rebuilds _ := by
    simp [fields, initZero, Rebuilds, PbField.Fresh, PbField.copy, PbLtype.zero]

end PowerMeter

structure SimulationFeedback where
  (pwmDutyCycle evsePwmVoltageHi evsePwmVoltageLo : FloatBits)
  evsePwmRunning : Bool
  relaisOn : BitVec 32

namespace SimulationFeedback

/-- `SimulationFeedback_FIELDLIST`. -/
def fields : List (PbField SimulationFeedback) :=
  [.singular .fixed32 ⟨pwmDutyCycle, fun v s => { s with pwmDutyCycle := v }⟩ 1,
   .singular .fixed32 ⟨evsePwmVoltageHi, fun v s => { s with evsePwmVoltageHi := v }⟩ 2,
   .singular .fixed32 ⟨evsePwmVoltageLo, fun v s => { s with evsePwmVoltageLo := v }⟩ 3,
   .singular .bool ⟨evsePwmRunning, fun v s => { s with evsePwmRunning := v }⟩ 4,
   .singular .uvarint ⟨relaisOn, fun v s => { s with relaisOn := v }⟩ 5]

def initZero : SimulationFeedback := ⟨0, 0, 0, false, 0⟩

def msg : PbMsgdesc SimulationFeedback := msgdesc fields initZero

theorem plain : Plain fields initZero where
  ordered := ⟨by decide, by decide, by decide⟩
  plain := by decide
  rebuilds _ := by
    simp [fields, initZero, Rebuilds, PbField.Fresh, PbField.copy, PbLtype.zero]

end SimulationFeedback

abbrev Event := Single .uvarint

abbrev ResetDone := NoFields

/-- The members of the union of `LoToHi`. -/
inductive LoToHi.Payload where
  | stateUpdate
  | debugUpdate
  | keepAlive
  | powerMeter
  | simulationFeedback
  | event
  | resetDone
deriving DecidableEq

@[reducible] def LoToHi.Struct : LoToHi.Payload → Type
  | .stateUpdate => StateUpdate
  | .debugUpdate => DebugUpdate
  | .keepAlive => KeepAliveLo
  | .powerMeter => PowerMeter
  | .simulationFeedback => SimulationFeedback
  | .event => Event
  | .resetDone => ResetDone

structure LoToHi where
  payload : Union LoToHi.Struct

namespace LoToHi

/-- `LoToHi_FIELDLIST`. -/
def entries : List (UnionField Struct) :=
  [⟨.stateUpdate, StateUpdate.msg, 1⟩,
   ⟨.debugUpdate, DebugUpdate.msg, 2⟩,
   ⟨.keepAlive, KeepAliveLo.msg, 3⟩,
   ⟨.powerMeter, PowerMeter.msg, 4⟩,
   ⟨.simulationFeedback, SimulationFeedback.msg, 5⟩,
   ⟨.event, Single.msg .uvarint, 6⟩,
   ⟨.resetDone, NoFields.msg, 7⟩]

def payloadMember : Member LoToHi (Union Struct) := ⟨payload, fun payload _ => ⟨payload⟩⟩

def fields : List (PbField LoToHi) := entries.map (UnionField.field payloadMember)

/-- `LoToHi_size`. -/
def size : ℕ := 123

theorem unionFields : UnionFields payloadMember entries ⟨.none⟩ size where
  ordered := ⟨by decide, by decide, by decide⟩
  nodup := by decide
  complete tag := by cases tag <;> decide
  known := by
    simp only [entries, List.forall_mem_cons]
    exact ⟨StateUpdate.known (by decide), DebugUpdate.plain.known (by decide),
      KeepAliveLo.plain.known (by decide), PowerMeter.plain.known (by decide),
      SimulationFeedback.plain.known (by decide), (Single.plain (by decide)).known (by decide),
      NoFields.plain.known (by decide), List.forall_mem_nil _⟩
  union := ⟨rfl, fun _ _ => rfl⟩

end LoToHi

/-! The round trips. -/

namespace HiToLo

/-- What `linkWrite` gets from `pb_encode`. -/
def encode (m : HiToLo) : Option (List UInt8) :=
  (pbEncode fields m (pbOstreamFromBuffer txPayloadSize)).map PbOstream.written

/-- `pb_decode` into a variable that holds anything before. -/
def decode (garbage : HiToLo) (payload : List UInt8) : Option HiToLo :=
  pbDecode fields payload garbage

/-- What is sent to the controller is read there, whatever was in the structure. -/
theorem round_trip (m garbage : HiToLo) :
    ∃ payload, m.encode = some payload ∧ payload.length ≤ size ∧
      decode garbage payload = some m :=
  unionFields.round_trip (by decide) (by decide) m garbage

/-- A packet holds every message. -/
def codec : PacketCodec HiToLo where
  encode := encode
  decode := decode
  size := size
  small := by decide
  round_trip := round_trip

end HiToLo

namespace LoToHi

/-- The controller has a buffer of the same size. -/
def encode (m : LoToHi) : Option (List UInt8) :=
  (pbEncode fields m (pbOstreamFromBuffer txPayloadSize)).map PbOstream.written

/-- What `handlePacket` gets from `pb_decode`. -/
def decode (garbage : LoToHi) (payload : List UInt8) : Option LoToHi :=
  pbDecode fields payload garbage

/-- What the controller sends is read, whatever was in the structure. -/
theorem round_trip (m garbage : LoToHi) :
    ∃ payload, m.encode = some payload ∧ payload.length ≤ size ∧
      decode garbage payload = some m :=
  unionFields.round_trip (by decide) (by decide) m garbage

/-- A packet holds every message. -/
def codec : PacketCodec LoToHi where
  encode := encode
  decode := decode
  size := size
  small := by decide
  round_trip := round_trip

end LoToHi

/-- Every message fits into a packet, with no more bytes than the headers say, and is decoded as it
was encoded, whatever the struct held before. -/
theorem messages_survive :
    (∀ m garbage : HiToLo, ∃ payload, m.encode = some payload ∧ payload.length ≤ HiToLo.size ∧
      HiToLo.decode garbage payload = some m) ∧
    ∀ m garbage : LoToHi, ∃ payload, m.encode = some payload ∧ payload.length ≤ LoToHi.size ∧
      LoToHi.decode garbage payload = some m :=
  ⟨HiToLo.round_trip, LoToHi.round_trip⟩

/-- The number 5 under the tag 12, where there is no such field. -/
theorem unknown_twelve {tags : List ℕ} (hTags : 12 ∉ tags) : Unknown tags [96, 5] := by
  have hTag : pbDecodeTag.Reads [96] (.varint, 12) := by
    have hReads := @reads_decodeTag .varint 12 (by decide)
    rwa [Varint.bytes_of_lt (by decide)] at hReads
  exact ⟨.varint, 12, [96], [5], rfl, by decide, hTags, hTag, fun _ => rfl⟩

theorem KeepAliveLo.decodeInner_stamp : KeepAliveLo.msg.decodeInner [8, 7] KeepAliveLo.msg.zero =
    some { KeepAliveLo.initZero with timeStamp := 7 } := by
  have hLawful : KeepAliveLo.msg.Lawful := KeepAliveLo.plain.lawful (by decide)
  have hStamp : KeepAliveLo.msg.bytes { KeepAliveLo.initZero with timeStamp := 7 } = [8, 7] := by
    decide +kernel
  have hDecoded := hLawful.decodes { KeepAliveLo.initZero with timeStamp := 7 }
  rwa [hStamp] at hDecoded

theorem LoToHi.keepAlive_mem_entries :
    (⟨.keepAlive, KeepAliveLo.msg, 3⟩ : UnionField LoToHi.Struct) ∈ LoToHi.entries :=
  List.mem_cons_of_mem _ (List.mem_cons_of_mem _ List.mem_cons_self)

/-- A controller with newer firmware may add fields to its messages, anywhere between the fields
that are known, and whole messages before and behind. What is decoded stays the same. -/
theorem newer_firmware (garbage : LoToHi) {entry : UnionField LoToHi.Struct}
    (hEntry : entry ∈ LoToHi.entries) {front back : List UInt8}
    {content : LoToHi.Struct entry.which}
    (hFront : (entry.submsg.decodeInner front entry.submsg.zero).isSome)
    (hAll : entry.submsg.decodeInner (front ++ back) entry.submsg.zero = some content)
    {added before after : List (List UInt8)}
    (hAdded : ∀ record ∈ added, Unknown entry.submsg.tags record)
    (hShort : (front ++ (added.flatten ++ back)).length < 2 ^ 32)
    (hBefore : ∀ record ∈ before, Unknown (LoToHi.entries.map UnionField.tag) record)
    (hAfter : ∀ record ∈ after, Unknown (LoToHi.entries.map UnionField.tag) record) :
    LoToHi.decode garbage
        (before.flatten ++ (entry.enclose (front ++ (added.flatten ++ back)) ++ after.flatten)) =
      some ⟨.of entry.which content⟩ := by
  have hLawful := (LoToHi.unionFields.known entry hEntry).1
  have hInner : entry.submsg.decodeInner (front ++ (added.flatten ++ back)) entry.submsg.zero =
      some content := (hLawful.skips _ front added back hFront hAdded).trans hAll
  exact LoToHi.unionFields.decodes_enclosed hEntry hInner hShort hBefore hAfter garbage

/-- The record before the time stamp. -/
theorem newer_firmware_keepAlive :
    LoToHi.decode ⟨.of .resetDone ⟨⟩⟩ [26, 4, 96, 5, 8, 7] =
      some ⟨.of .keepAlive { KeepAliveLo.initZero with timeStamp := 7 }⟩ := by
  have hLawful : KeepAliveLo.msg.Lawful := KeepAliveLo.plain.lawful (by decide)
  have hNothing : KeepAliveLo.msg.bytes KeepAliveLo.initZero = [] := by decide +kernel
  have hFront := hLawful.decodes KeepAliveLo.initZero
  rw [hNothing] at hFront
  have hDecoded := newer_firmware ⟨.of .resetDone ⟨⟩⟩ LoToHi.keepAlive_mem_entries
    (Option.isSome_iff_exists.mpr ⟨_, hFront⟩) KeepAliveLo.decodeInner_stamp
    (List.forall_mem_singleton.mpr (unknown_twelve (by decide))) (by decide)
    (List.forall_mem_nil _) (List.forall_mem_nil _)
  rw [UnionField.enclose, Varint.bytes_of_lt (by decide),
    Varint.bytes_of_lt (by decide)] at hDecoded
  exact hDecoded

end EverestCore.Serial
