import EverestCore.Serial.Messages

/-! `evSerial` of the Yeti at the two ends of its messages: the commands that it writes, and what it
makes of the messages of the controller. -/
namespace EverestCore.Serial
open Nanopb CobsDecoder

/-- The bytes of a C string up to its NUL. -/
def cText (text : List UInt8) : List UInt8 := text.takeWhile (· ≠ 0)

def strlen (text : List UInt8) : ℕ := (cText text).length

/-- `strcpy` into an array that is large enough. -/
def strcpy {dataSize : ℕ} (text : List UInt8) (hFits : strlen text + 1 ≤ dataSize) :
    CString dataSize := .ofContent (cText text) hFits

/-- The keep-alive of a host, with the version "n/a". -/
def keepAliveHi : KeepAliveHi := ⟨0, 0, 0, 0, 1, strcpy [0x6E, 0x2F, 0x61] (by decide)⟩

/-- The functions of `evSerial` that write to the line. -/
inductive EvCommand where
  | setMaxCurrent (c : FloatBits)
  | setThreePhases (n : Bool)
  | enableRCD (e : Bool)
  | setHasVentilation (v : Bool)
  | setCountryCode (iso3166Alpha2Code : List UInt8)
  | setControlMode (c : BitVec 32)
  | setAuth (userid : List UInt8)
  | setPWM (mode : BitVec 32) (dc : FloatBits)
  | allowPowerOn (p : Bool)
  | forceUnlock
  | enable
  | disable
  | switchThreePhasesWhileCharging (n : Bool)
  | replug (t : BitVec 32)
  | pauseCharging
  | resumeCharging
  | restart
  | reset (resetPin : ℤ)
  | firmwareUpdate (rom : Bool)
  | enableSimulation (s : Bool)
  | setSimulationData (s : SimulationData)
  | keepAlive

namespace EvCommand

def keepAliveMessage : HiToLo := ⟨.of .keepAlive keepAliveHi⟩

/-- The messages that a command passes to `linkWrite`. A string that is too long is not sent, and
a reset by a pin of the host sends its keep-alives only. -/
def messages : EvCommand → List HiToLo
  | setMaxCurrent c => [⟨.of .setMaxCurrent ⟨c⟩⟩]
  | setThreePhases n => [⟨.of .setThreePhases ⟨n⟩⟩]
  | enableRCD e => [⟨.of .enableRcd ⟨e⟩⟩]
  | setHasVentilation v => [⟨.of .setHasVentilation ⟨v⟩⟩]
  | setCountryCode iso3166Alpha2Code =>
      if hShort : strlen iso3166Alpha2Code < 10 then
        [⟨.of .setCountryCode ⟨strcpy iso3166Alpha2Code (by omega)⟩⟩]
      else []
  | setControlMode c => [⟨.of .setControlMode ⟨c⟩⟩]
  | setAuth userid =>
      if hShort : strlen userid < 50 then [⟨.of .setAuth ⟨strcpy userid (by omega)⟩⟩] else []
  | setPWM mode dc => [⟨.of .setPwm ⟨mode, dc⟩⟩]
  | allowPowerOn p => [⟨.of .allowPowerOn ⟨p⟩⟩]
  | forceUnlock => [⟨.of .forceUnlock ⟨⟩⟩]
  | enable => [⟨.of .enable ⟨⟩⟩]
  | disable => [⟨.of .disable ⟨⟩⟩]
  | switchThreePhasesWhileCharging n => [⟨.of .switchThreePhasesWhileCharging ⟨n⟩⟩]
  | replug t => [⟨.of .replug ⟨t⟩⟩]
  | pauseCharging => [⟨.of .pauseCharging ⟨⟩⟩]
  | resumeCharging => [⟨.of .resumeCharging ⟨⟩⟩]
  | restart => [⟨.of .restart ⟨⟩⟩]
  | reset resetPin =>
      (if 0 < resetPin then [] else [⟨.of .reset ⟨⟩⟩]) ++
        [keepAliveMessage, keepAliveMessage, keepAliveMessage]
  | firmwareUpdate rom => [⟨.of .firmwareUpdate ⟨rom⟩⟩]
  | enableSimulation s => [⟨.of .enableSimulation ⟨s⟩⟩]
  | setSimulationData s => [⟨.of .simulationData s⟩]
  | keepAlive => [keepAliveMessage]

end EvCommand

/-- Any commands, read in any portions by a peer that runs this decoder: it gets their messages in
their order, each of them once and as it was filled in. -/
theorem commands_arrive {d : CobsDecoder} (hReset : d.IsReset) {commands : List EvCommand}
    {reads : List (List UInt8)}
    (hReads : reads.flatten.map some =
      linkWriteAll HiToLo.encode (commands.flatMap EvCommand.messages)) (garbage : HiToLo) :
    received (HiToLo.decode garbage) (d.cobsDecodeReads reads).packets =
        received (HiToLo.decode garbage) d.packets ++ commands.flatMap EvCommand.messages ∧
      (d.cobsDecodeReads reads).IsReset :=
  HiToLo.codec.delivers hReset hReads garbage

/-- A country code of ten letters is too long. -/
theorem commands_arrive_replug :
    received (HiToLo.decode ⟨.none⟩) (fresh.cobsDecodeReads
      [[10, 170, 1], [2, 8, 1, 64, 134, 172, 7, 0, 10, 194, 1, 2],
        [8, 3, 224, 219, 224, 64, 0]]).packets =
      [⟨.of .allowPowerOn ⟨true⟩⟩, ⟨.of .replug ⟨3⟩⟩] := by
  have hReads : [[10, 170, 1], [2, 8, 1, 64, 134, 172, 7, 0, 10, 194, 1, 2],
      [8, 3, 224, 219, 224, 64, (0 : UInt8)]].flatten.map some =
        linkWriteAll HiToLo.encode ([.allowPowerOn true, .setCountryCode (List.replicate 10 65),
          .replug 3].flatMap EvCommand.messages) := by decide +kernel
  exact (commands_arrive isReset_fresh hReads ⟨.none⟩).1.trans rfl

/-- The signals of `evSerial` for messages of the controller. -/
inductive EvSignal where
  | stateUpdate (s : StateUpdate)
  | debugUpdate (d : DebugUpdate)
  | keepAliveLo (k : KeepAliveLo)
  | powerMeter (p : PowerMeter)
  | simulationFeedback (s : SimulationFeedback)
  | event (e : Event)
  | spuriousReset

/-- The members of `evSerial` that `handlePacket` writes, and the signals so far. The clock is in
milliseconds. -/
structure EvSerial where
  resetDoneFlag : Bool
  lastKeepAliveLoTimestamp : ℤ
  signals : List EvSignal

/-- What a call of `handlePacket` reads besides its packet. `msgIn` is what its variable holds
before the message is decoded, and `forcedReset` stands while `reset` waits for the controller. -/
structure Moment where
  msgIn : LoToHi
  forcedReset : Bool
  utcNow : ℤ
  time : ℤ

/-- A keep-alive of the controller. -/
def LoToHi.isKeepAlive (m : LoToHi) : Bool := (m.payload.get? .keepAlive).isSome

namespace EvSerial

def signal (signal : EvSignal) (s : EvSerial) : EvSerial :=
  { s with signals := s.signals ++ [signal] }

/-- The end of `evSerial::handlePacket`, for a message that could be decoded. -/
def handleMessage (moment : Moment) (msgIn : LoToHi) (s : EvSerial) : EvSerial :=
  match msgIn.payload with
  | none => s
  | some ⟨.stateUpdate, update⟩ => s.signal (.stateUpdate update)
  | some ⟨.debugUpdate, update⟩ => s.signal (.debugUpdate update)
  | some ⟨.keepAlive, keepAlive⟩ =>
      { s.signal (.keepAliveLo keepAlive) with lastKeepAliveLoTimestamp := moment.utcNow }
  | some ⟨.powerMeter, powerMeter⟩ =>
      s.signal (.powerMeter { powerMeter with timeStamp := .ofInt 32 moment.time })
  | some ⟨.simulationFeedback, feedback⟩ => s.signal (.simulationFeedback feedback)
  | some ⟨.event, event⟩ => s.signal (.event event)
  | some ⟨.resetDone, _⟩ =>
      let done := { s with resetDoneFlag := true }
      if moment.forcedReset then done else done.signal .spuriousReset

/-- `evSerial::handlePacket`, packet after packet. -/
def handlePackets (s : EvSerial) (moment : ℕ → Moment) (packets : List Packet) : EvSerial :=
  LoToHi.codec.handlePackets Moment.msgIn handleMessage moment packets s

def handleMessages (s : EvSerial) (moment : ℕ → Moment) (messages : List LoToHi) : EvSerial :=
  PacketCodec.handleMessages handleMessage moment messages s

/-- Whatever portions the messages of a controller are read in, they are handled in their order,
each of them once and as it was sent. -/
theorem signals_follow {d : CobsDecoder} (hReset : d.IsReset) {messages : List LoToHi}
    {reads : List (List UInt8)}
    (hReads : reads.flatten.map some = linkWriteAll LoToHi.encode messages)
    (moment : ℕ → Moment) (s : EvSerial) :
    ∃ packets, (d.cobsDecodeReads reads).packets = d.packets ++ packets ∧
      s.handlePackets moment packets = s.handleMessages moment messages ∧
      (d.cobsDecodeReads reads).IsReset :=
  LoToHi.codec.handles hReset hReads moment s

/-- Nobody waits for the reset. -/
theorem signals_follow_reset :
    ((⟨false, 0, []⟩ : EvSerial).handlePackets (fun _ => ⟨⟨.none⟩, false, 9, 0⟩)
      (fresh.cobsDecodeReads [[9, 26, 2, 8, 7], [221, 92, 38, 180, 0, 2, 58, 5],
        [121, 51, 143, 155, 0]]).packets) =
      ⟨true, 9, [.keepAliveLo { KeepAliveLo.initZero with timeStamp := 7 }, .spuriousReset]⟩ := by
  have hReads : [[9, 26, 2, 8, 7], [221, 92, 38, 180, 0, 2, 58, 5],
      [121, 51, 143, 155, (0 : UInt8)]].flatten.map some =
        linkWriteAll LoToHi.encode
          [⟨.of .keepAlive { KeepAliveLo.initZero with timeStamp := 7 }⟩,
            ⟨.of .resetDone ⟨⟩⟩] := by decide +kernel
  obtain ⟨packets, hPackets, hHandled, -⟩ :=
    signals_follow isReset_fresh hReads (fun _ => ⟨⟨.none⟩, false, 9, 0⟩) ⟨false, 0, []⟩
  rw [hPackets]
  exact hHandled

/-- The messages that were found in packets, each at its moment. -/
def handleFound (s : EvSerial) (found : List (Moment × LoToHi)) : EvSerial :=
  PacketCodec.handleFound handleMessage found s

/-- A controller may have another encoder, or messages and fields that are not known here. Of
whatever short payloads it writes, those that can be decoded are handled as what is found in them,
and the others are passed over. -/
theorem foreign_controller {payloads : List (List UInt8)}
    (hShort : ∀ payload ∈ payloads, payload.length < 250) {d : CobsDecoder} (hReset : d.IsReset)
    {reads : List (List UInt8)}
    (hReads : reads.flatten.map some = linkWriteAll plainEncode payloads)
    (moment : ℕ → Moment) (s : EvSerial) :
    ∃ packets, (d.cobsDecodeReads reads).packets = d.packets ++ packets ∧
      s.handlePackets moment packets =
        s.handleFound (LoToHi.codec.found Moment.msgIn moment payloads) ∧
      (d.cobsDecodeReads reads).IsReset :=
  LoToHi.codec.handles_payloads hShort hReset hReads moment s

/-- A tag without its field, and then a keep-alive with a record that is not known behind it. -/
theorem foreign_controller_record :
    (⟨false, 0, []⟩ : EvSerial).handlePackets (fun i => ⟨⟨.none⟩, false, i, 0⟩)
      (fresh.cobsDecodeReads [[6, 26, 8, 233, 159, 208, 0, 11, 26, 2],
        [8, 7, 96, 5, 131, 141, 220, 67, 0]]).packets =
      ⟨false, 1, [.keepAliveLo { KeepAliveLo.initZero with timeStamp := 7 }]⟩ := by
  have hRefused : LoToHi.codec.decode ⟨.none⟩ [26] = none := by decide +kernel
  have hDecode : LoToHi.codec.decode ⟨.none⟩ [26, 2, 8, 7, 96, 5] =
      some ⟨.of .keepAlive { KeepAliveLo.initZero with timeStamp := 7 }⟩ := by
    have hDecoded := LoToHi.unionFields.decodes_enclosed LoToHi.keepAlive_mem_entries
      KeepAliveLo.decodeInner_stamp (by decide) (List.forall_mem_nil _)
      (List.forall_mem_singleton.mpr (unknown_twelve (by decide))) ⟨.none⟩
    rw [UnionField.enclose, Varint.bytes_of_lt (by decide),
      Varint.bytes_of_lt (by decide)] at hDecoded
    exact hDecoded
  have hReads : [[6, 26, 8, 233, 159, 208, 0, 11, 26, 2],
      [8, 7, 96, 5, 131, 141, 220, 67, (0 : UInt8)]].flatten.map some =
        linkWriteAll plainEncode [[26], [26, 2, 8, 7, 96, 5]] := by decide +kernel
  obtain ⟨packets, hPackets, hHandled, -⟩ := foreign_controller (by decide) isReset_fresh hReads
    (fun i => ⟨⟨.none⟩, false, i, 0⟩) ⟨false, 0, []⟩
  have hFound : LoToHi.codec.found Moment.msgIn (fun i => ⟨⟨.none⟩, false, i, 0⟩)
      [[26], [26, 2, 8, 7, 96, 5]] = [(⟨⟨.none⟩, false, 1, 0⟩,
        ⟨.of .keepAlive { KeepAliveLo.initZero with timeStamp := 7 }⟩)] := by
    rw [PacketCodec.found_cons, PacketCodec.found_cons, hRefused, hDecode]
    rfl
  rw [hPackets]
  refine hHandled.trans ?_
  rw [hFound]
  rfl

theorem lastKeepAlive_handleMessage (moment : Moment) (m : LoToHi) (s : EvSerial) :
    (s.handleMessage moment m).lastKeepAliveLoTimestamp =
      if m.isKeepAlive then moment.utcNow else s.lastKeepAliveLoTimestamp := by
  rcases m with ⟨_ | ⟨_ | _ | _ | _ | _ | _ | _, content⟩⟩
  all_goals try rfl
  show (if moment.forcedReset then { s with resetDoneFlag := true }
    else signal .spuriousReset { s with resetDoneFlag := true }).lastKeepAliveLoTimestamp =
      s.lastKeepAliveLoTimestamp
  split <;> rfl

/-- Whatever packets come, noise included, the connection times out exactly if all keep-alives in
them came five seconds ago or before. -/
theorem timed_out_iff {moment : ℕ → Moment}
    (hClock : ∀ i j, i ≤ j → (moment i).utcNow ≤ (moment j).utcNow) {s : EvSerial}
    (hBefore : s.lastKeepAliveLoTimestamp ≤ (moment 0).utcNow)
    (packets : List Packet) (now : ℤ) :
    serialTimedOut now (s.handlePackets moment packets).lastKeepAliveLoTimestamp ↔
      5000 ≤ now - s.lastKeepAliveLoTimestamp ∧
        ∀ i p, packets[i]? = some p →
          LoToHi.codec.Found LoToHi.isKeepAlive (moment i).msgIn p →
            5000 ≤ now - (moment i).utcNow :=
  LoToHi.codec.serialTimedOut_iff lastKeepAlive_handleMessage hClock hBefore packets now

/-- The packet after four seconds is noise. -/
theorem timed_out_iff_noise :
    serialTimedOut 5000 ((⟨false, 0, []⟩ : EvSerial).handlePackets
      (fun _ => ⟨⟨.none⟩, false, 4000, 0⟩) [call [26]]).lastKeepAliveLoTimestamp := by
  have hNoise : handedOn (call [26]) = none := by decide +kernel
  refine (timed_out_iff (fun _ _ _ => Int.le_refl _) (by decide) [call [26]] 5000).mpr
    ⟨by decide, ?_⟩
  rintro i p hPacket ⟨m, hMessage, -⟩
  obtain rfl := List.mem_singleton.mp (List.mem_of_getElem? hPacket)
  rw [hNoise] at hMessage
  cases hMessage

end EvSerial

end EverestCore.Serial
