import EverestCore.Serial.EvSerial

/-! The link to the controller of the MicroMegaWatt. It has messages of its own, and the same
`evSerial` otherwise. -/
namespace EverestCore.Serial.MicroMegaWatt
open Nanopb CobsDecoder

structure SetOutputVoltageCurrent where
  (voltage current : FloatBits)

namespace SetOutputVoltageCurrent

/-- `SetOutputVoltageCurrent_FIELDLIST`. -/
def fields : List (PbField SetOutputVoltageCurrent) :=
  [.singular .fixed32 ⟨voltage, fun v s => { s with voltage := v }⟩ 1,
   .singular .fixed32 ⟨current, fun v s => { s with current := v }⟩ 2]

def initZero : SetOutputVoltageCurrent := ⟨0, 0⟩

def msg : PbMsgdesc SetOutputVoltageCurrent := msgdesc fields initZero

theorem plain : Plain fields initZero where
  ordered := ⟨by decide, by decide, by decide⟩
  plain := by decide
  rebuilds _ := by
    simp [fields, initZero, Rebuilds, PbField.Fresh, PbField.copy, PbLtype.zero]

end SetOutputVoltageCurrent

/-- The members of the union of `HiToLo`. -/
inductive HiToLo.Payload where
  | enable
  | disable
  | keepAlive
  | firmwareUpdate
  | setPwm
  | allowPowerOn
  | reset
  | replug
  | setOutputVoltageCurrent
deriving DecidableEq

@[reducible] def HiToLo.Struct : HiToLo.Payload → Type
  | .enable => Enable
  | .disable => Disable
  | .keepAlive => KeepAliveHi
  | .firmwareUpdate => FirmwareUpdate
  | .setPwm => SetPWM
  | .allowPowerOn => AllowPowerOn
  | .reset => Reset
  | .replug => Replug
  | .setOutputVoltageCurrent => SetOutputVoltageCurrent

structure HiToLo where
  payload : Union HiToLo.Struct

namespace HiToLo

/-- `HiToLo_FIELDLIST`. -/
def entries : List (UnionField Struct) :=
  [⟨.enable, NoFields.msg, 6⟩,
   ⟨.disable, NoFields.msg, 7⟩,
   ⟨.keepAlive, KeepAliveHi.msg, 13⟩,
   ⟨.firmwareUpdate, Single.msg .bool, 16⟩,
   ⟨.setPwm, SetPWM.msg, 20⟩,
   ⟨.allowPowerOn, Single.msg .bool, 21⟩,
   ⟨.reset, NoFields.msg, 23⟩,
   ⟨.replug, Single.msg .uvarint, 24⟩,
   ⟨.setOutputVoltageCurrent, SetOutputVoltageCurrent.msg, 50⟩]

def payloadMember : Member HiToLo (Union Struct) := ⟨payload, fun payload _ => ⟨payload⟩⟩

def fields : List (PbField HiToLo) := entries.map (UnionField.field payloadMember)

/-- `HiToLo_size`. -/
def size : ℕ := 84

theorem unionFields : UnionFields payloadMember entries ⟨.none⟩ size where
  ordered := ⟨by decide, by decide, by decide⟩
  nodup := by decide
  complete tag := by cases tag <;> decide
  known := by
    simp only [entries, List.forall_mem_cons]
    exact ⟨NoFields.plain.known (by decide), NoFields.plain.known (by decide),
      KeepAliveHi.plain.known (by decide), (Single.plain (by decide)).known (by decide),
      SetPWM.plain.known (by decide), (Single.plain (by decide)).known (by decide),
      NoFields.plain.known (by decide), (Single.plain (by decide)).known (by decide),
      SetOutputVoltageCurrent.plain.known (by decide), List.forall_mem_nil _⟩
  union := ⟨rfl, fun _ _ => rfl⟩

/-- What `linkWrite` gets from `pb_encode`. -/
def encode (m : HiToLo) : Option (List UInt8) :=
  (pbEncode fields m (pbOstreamFromBuffer txPayloadSize)).map PbOstream.written

/-- `pb_decode` into a variable that holds anything before. -/
def decode (garbage : HiToLo) (payload : List UInt8) : Option HiToLo :=
  pbDecode fields payload garbage

/-- A packet holds every message. -/
def codec : PacketCodec HiToLo where
  encode := encode
  decode := decode
  size := size
  small := by decide
  round_trip := unionFields.round_trip (by decide) (by decide)

end HiToLo

/-- The controller sends the same keep-alives as its host. -/
abbrev KeepAliveLo := KeepAliveHi

structure PowerMeter where
  voltage : FloatBits

namespace PowerMeter

/-- `PowerMeter_FIELDLIST`. -/
def fields : List (PbField PowerMeter) :=
  [.singular .fixed32 ⟨voltage, fun v s => { s with voltage := v }⟩ 2]

def initZero : PowerMeter := ⟨0⟩

def msg : PbMsgdesc PowerMeter := msgdesc fields initZero

theorem plain : Plain fields initZero where
  ordered := ⟨by decide, by decide, by decide⟩
  plain := by decide
  rebuilds _ := by
    simp [fields, initZero, Rebuilds, PbField.Fresh, PbField.copy, PbLtype.zero]

end PowerMeter

structure Telemetry where
  (cpHi cpLo pwmDc relaisOn : FloatBits)

namespace Telemetry

/-- `Telemetry_FIELDLIST`. -/
def fields : List (PbField Telemetry) :=
  [.singular .fixed32 ⟨cpHi, fun v s => { s with cpHi := v }⟩ 1,
   .singular .fixed32 ⟨cpLo, fun v s => { s with cpLo := v }⟩ 2,
   .singular .fixed32 ⟨pwmDc, fun v s => { s with pwmDc := v }⟩ 3,
   .singular .fixed32 ⟨relaisOn, fun v s => { s with relaisOn := v }⟩ 4]

def initZero : Telemetry := ⟨0, 0, 0, 0⟩

def msg : PbMsgdesc Telemetry := msgdesc fields initZero

theorem plain : Plain fields initZero where
  ordered := ⟨by decide, by decide, by decide⟩
  plain := by decide
  rebuilds _ := by
    simp [fields, initZero, Rebuilds, PbField.Fresh, PbField.copy, PbLtype.zero]

end Telemetry

/-- The members of the union of `LoToHi`. -/
inductive LoToHi.Payload where
  | keepAlive
  | powerMeter
  | event
  | resetDone
  | telemetry
deriving DecidableEq

@[reducible] def LoToHi.Struct : LoToHi.Payload → Type
  | .keepAlive => KeepAliveLo
  | .powerMeter => PowerMeter
  | .event => Event
  | .resetDone => ResetDone
  | .telemetry => Telemetry

structure LoToHi where
  payload : Union LoToHi.Struct

namespace LoToHi

/-- `LoToHi_FIELDLIST`. -/
def entries : List (UnionField Struct) :=
  [⟨.keepAlive, KeepAliveHi.msg, 3⟩,
   ⟨.powerMeter, PowerMeter.msg, 4⟩,
   ⟨.event, Single.msg .uvarint, 6⟩,
   ⟨.resetDone, NoFields.msg, 7⟩,
   ⟨.telemetry, Telemetry.msg, 8⟩]

def payloadMember : Member LoToHi (Union Struct) := ⟨payload, fun payload _ => ⟨payload⟩⟩

def fields : List (PbField LoToHi) := entries.map (UnionField.field payloadMember)

/-- `LoToHi_size`. -/
def size : ℕ := 84

theorem unionFields : UnionFields payloadMember entries ⟨.none⟩ size where
  ordered := ⟨by decide, by decide, by decide⟩
  nodup := by decide
  complete tag := by cases tag <;> decide
  known := by
    simp only [entries, List.forall_mem_cons]
    exact ⟨KeepAliveHi.plain.known (by decide), PowerMeter.plain.known (by decide),
      (Single.plain (by decide)).known (by decide), NoFields.plain.known (by decide),
      Telemetry.plain.known (by decide), List.forall_mem_nil _⟩
  union := ⟨rfl, fun _ _ => rfl⟩

/-- The controller has a buffer of the same size. -/
def encode (m : LoToHi) : Option (List UInt8) :=
  (pbEncode fields m (pbOstreamFromBuffer txPayloadSize)).map PbOstream.written

/-- What `handlePacket` gets from `pb_decode`. -/
def decode (garbage : LoToHi) (payload : List UInt8) : Option LoToHi :=
  pbDecode fields payload garbage

/-- A packet holds every message. -/
def codec : PacketCodec LoToHi where
  encode := encode
  decode := decode
  size := size
  small := by decide
  round_trip := unionFields.round_trip (by decide) (by decide)

/-- A keep-alive of the controller. -/
def isKeepAlive (m : LoToHi) : Bool := (m.payload.get? .keepAlive).isSome

end LoToHi

/-- The functions of `evSerial` that write to the line. -/
inductive EvCommand where
  | setPWM (mode : BitVec 32) (dc : FloatBits)
  | allowPowerOn (p : Bool)
  | enable
  | disable
  | replug (t : BitVec 32)
  | firmwareUpdate (rom : Bool)
  | setOutputVoltageCurrent (v c : FloatBits)
  | reset (resetPin : ℤ)
  | keepAlive

namespace EvCommand

def keepAliveMessage : HiToLo := ⟨.of .keepAlive keepAliveHi⟩

/-- The messages that a command passes to `linkWrite`. -/
def messages : EvCommand → List HiToLo
  | setPWM mode dc => [⟨.of .setPwm ⟨mode, dc⟩⟩]
  | allowPowerOn p => [⟨.of .allowPowerOn ⟨p⟩⟩]
  | enable => [⟨.of .enable ⟨⟩⟩]
  | disable => [⟨.of .disable ⟨⟩⟩]
  | replug t => [⟨.of .replug ⟨t⟩⟩]
  | firmwareUpdate rom => [⟨.of .firmwareUpdate ⟨rom⟩⟩]
  | setOutputVoltageCurrent v c => [⟨.of .setOutputVoltageCurrent ⟨v, c⟩⟩]
  | reset resetPin =>
      (if 0 < resetPin then [] else [⟨.of .reset ⟨⟩⟩]) ++
        [keepAliveMessage, keepAliveMessage, keepAliveMessage]
  | keepAlive => [keepAliveMessage]

end EvCommand

/-- The signals of `evSerial` for messages of the controller. -/
inductive EvSignal where
  | keepAliveLo (k : KeepAliveLo)
  | powerMeter (p : PowerMeter)
  | event (e : Event)
  | telemetry (t : Telemetry)
  | spuriousReset

/-- The members of `evSerial` that `handlePacket` writes, and the signals so far. -/
structure EvSerial where
  resetDoneFlag : Bool
  lastKeepAliveLoTimestamp : ℤ
  signals : List EvSignal

/-- What a call of `handlePacket` reads besides its packet. -/
structure Moment where
  msgIn : LoToHi
  forcedReset : Bool
  utcNow : ℤ

namespace EvSerial

def signal (signal : EvSignal) (s : EvSerial) : EvSerial :=
  { s with signals := s.signals ++ [signal] }

/-- The end of `evSerial::handlePacket`. The meter has no time. -/
def handleMessage (moment : Moment) (msgIn : LoToHi) (s : EvSerial) : EvSerial :=
  match msgIn.payload with
  | none => s
  | some ⟨.keepAlive, keepAlive⟩ =>
      { s.signal (.keepAliveLo keepAlive) with lastKeepAliveLoTimestamp := moment.utcNow }
  | some ⟨.powerMeter, powerMeter⟩ => s.signal (.powerMeter powerMeter)
  | some ⟨.event, event⟩ => s.signal (.event event)
  | some ⟨.telemetry, telemetry⟩ => s.signal (.telemetry telemetry)
  | some ⟨.resetDone, _⟩ =>
      let done := { s with resetDoneFlag := true }
      if moment.forcedReset then done else done.signal .spuriousReset

/-- `evSerial::handlePacket`, packet after packet. -/
def handlePackets (s : EvSerial) (moment : ℕ → Moment) (packets : List Packet) : EvSerial :=
  LoToHi.codec.handlePackets Moment.msgIn handleMessage moment packets s

def handleMessages (s : EvSerial) (moment : ℕ → Moment) (messages : List LoToHi) : EvSerial :=
  PacketCodec.handleMessages handleMessage moment messages s

theorem lastKeepAlive_handleMessage (moment : Moment) (m : LoToHi) (s : EvSerial) :
    (s.handleMessage moment m).lastKeepAliveLoTimestamp =
      if m.isKeepAlive then moment.utcNow else s.lastKeepAliveLoTimestamp := by
  rcases m with ⟨_ | ⟨_ | _ | _ | _ | _, content⟩⟩
  all_goals try rfl
  show (if moment.forcedReset then { s with resetDoneFlag := true }
    else signal .spuriousReset { s with resetDoneFlag := true }).lastKeepAliveLoTimestamp =
      s.lastKeepAliveLoTimestamp
  split <;> rfl

end EvSerial

/-- Both directions of the link, in any portions: the controller gets the messages of the commands,
and `evSerial` emits the signals of the messages of the controller. -/
theorem both_directions {host controller : CobsDecoder} (hHost : host.IsReset)
    (hController : controller.IsReset) {commands : List EvCommand} {messages : List LoToHi}
    {down up : List (List UInt8)}
    (hDown : down.flatten.map some =
      linkWriteAll HiToLo.encode (commands.flatMap EvCommand.messages))
    (hUp : up.flatten.map some = linkWriteAll LoToHi.encode messages) (garbage : HiToLo)
    (moment : ℕ → Moment) (s : EvSerial) :
    received (HiToLo.decode garbage) (controller.cobsDecodeReads down).packets =
        received (HiToLo.decode garbage) controller.packets ++
          commands.flatMap EvCommand.messages ∧
      ∃ packets, (host.cobsDecodeReads up).packets = host.packets ++ packets ∧
        s.handlePackets moment packets = s.handleMessages moment messages := by
  obtain ⟨packets, hPackets, hHandled, -⟩ := LoToHi.codec.handles hHost hUp moment s
  exact ⟨(HiToLo.codec.delivers hController hDown garbage).1, packets, hPackets, hHandled⟩

/-- Four hundred volts. -/
theorem both_directions_voltage :
    received (HiToLo.decode ⟨.none⟩) (fresh.cobsDecodeReads
        [[5, 146, 3, 10, 13, 1, 4, 200, 67, 21, 1, 7, 32, 65, 71, 106, 20, 174, 0, 2, 50],
          [5, 113, 185, 86, 83, 0]]).packets =
        [⟨.of .setOutputVoltageCurrent ⟨0x43C80000, 0x41200000⟩⟩, ⟨.of .enable ⟨⟩⟩] ∧
      (⟨false, 0, []⟩ : EvSerial).handlePackets (fun _ => ⟨⟨.none⟩, false, 9⟩)
        (fresh.cobsDecodeReads [[4, 34, 5, 21, 1, 7, 200, 67, 25, 204, 138, 46],
          [0, 2, 58, 5, 121, 51, 143, 155, 0]]).packets =
        ⟨true, 0, [.powerMeter ⟨0x43C80000⟩, .spuriousReset]⟩ := by
  have hDown : [[5, 146, 3, 10, 13, 1, 4, 200, 67, 21, 1, 7, 32, 65, 71, 106, 20, 174, 0, 2, 50],
      [5, 113, 185, 86, 83, (0 : UInt8)]].flatten.map some =
        linkWriteAll HiToLo.encode ([.setOutputVoltageCurrent 0x43C80000 0x41200000,
          .enable].flatMap EvCommand.messages) := by decide +kernel
  have hUp : [[4, 34, 5, 21, 1, 7, 200, 67, 25, 204, 138, 46],
      [0, 2, 58, 5, 121, 51, 143, 155, (0 : UInt8)]].flatten.map some =
        linkWriteAll LoToHi.encode [⟨.of .powerMeter ⟨0x43C80000⟩⟩, ⟨.of .resetDone ⟨⟩⟩] := by
    decide +kernel
  obtain ⟨hReceived, packets, hPackets, hHandled⟩ := both_directions isReset_fresh isReset_fresh
    hDown hUp ⟨.none⟩ (fun _ => ⟨⟨.none⟩, false, 9⟩) ⟨false, 0, []⟩
  refine ⟨hReceived.trans rfl, ?_⟩
  rw [hPackets]
  exact hHandled

/-- Whatever packets come, noise included, the connection times out exactly if all keep-alives in
them came five seconds ago or before. -/
theorem connection_lost_iff {moment : ℕ → Moment}
    (hClock : ∀ i j, i ≤ j → (moment i).utcNow ≤ (moment j).utcNow) {s : EvSerial}
    (hBefore : s.lastKeepAliveLoTimestamp ≤ (moment 0).utcNow)
    (packets : List Packet) (now : ℤ) :
    serialTimedOut now (s.handlePackets moment packets).lastKeepAliveLoTimestamp ↔
      5000 ≤ now - s.lastKeepAliveLoTimestamp ∧
        ∀ i p, packets[i]? = some p →
          LoToHi.codec.Found LoToHi.isKeepAlive (moment i).msgIn p →
            5000 ≤ now - (moment i).utcNow :=
  LoToHi.codec.serialTimedOut_iff EvSerial.lastKeepAlive_handleMessage hClock hBefore packets now

end EverestCore.Serial.MicroMegaWatt
