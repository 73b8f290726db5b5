import EverestCore.Modbus.Hub

/-! The handlers of the hub that read registers. They take what the decoder makes of the first
reply with registers, as many as it says. -/
namespace EverestCore.Modbus

/-- `types::serial_comm_hub_requests::Result`. -/
structure Result where
  statusCode : StatusCode
  value : Option (List ℤ)
  deriving DecidableEq

def vectorToInt (response : List UInt16) : List ℤ := response.map fun r => (r.toNat : ℤ)

/-- The end of both handlers. -/
def resultOf (response : List UInt16) : Result :=
  if response.length > 0 then ⟨.success, some (vectorToInt response)⟩ else ⟨.error, none⟩

section Handlers

variable (modbus : TinyModbusRTU) (fuel : ℕ) (port : Port)
  (targetDeviceId firstRegisterAddress numRegistersToRead : ℕ)

/-- What the two handlers share. The arguments are converted for `txrx`. -/
def handleModbusRead? (function : FunctionCode) : Option Result := do
  let (response, _) ← resend? (fun port => modbus.txrx? fuel port (.ofNat targetDeviceId) function
    (.ofNat firstRegisterAddress) (.ofNat numRegistersToRead) true []) numResendsOnError port []
  some (resultOf response)

def handleModbusReadHoldingRegisters? : Option Result :=
  handleModbusRead? modbus fuel port targetDeviceId firstRegisterAddress numRegistersToRead
    .readMultipleHoldingRegisters

def handleModbusReadInputRegisters? : Option Result :=
  handleModbusRead? modbus fuel port targetDeviceId firstRegisterAddress numRegistersToRead
    .readInputRegisters

end Handlers

/-- What a read has left in the buffer. -/
structure ReplyFrame where
  rxbuf : ℕ → UInt8
  len : ℕ

namespace ReplyFrame

variable (frame : ReplyFrame)

/-- The byte count of a reply. -/
def byteCount : ℕ := (frame.rxbuf resRxLenPos).toNat

/-- The first registers of the payload. -/
def payload (count : ℕ) : List UInt16 :=
  (List.range count).map fun k =>
    be16toh (hostWord (frame.rxbuf (3 + 2 * k)) (frame.rxbuf (3 + 2 * k + 1)))

/-- The decoder takes registers from the reply. -/
structure Carries (address : UInt8) (function : FunctionCode) : Prop where
  accepted : Accepted frame.rxbuf frame.len address function
  some : 0 < frame.byteCount
  fits : 3 + frame.byteCount ≤ frame.len

/-- The reply has so many registers, in front of its checksum. -/
structure Announces (count : ℕ) : Prop where
  registers : (frame.byteCount + 1) / 2 = count
  room : 3 + 2 * count + 2 ≤ frame.len

def registers (address : UInt8) (function : FunctionCode) : List UInt16 :=
  repliedRegisters frame.rxbuf frame.len address function

end ReplyFrame

namespace TinyModbusRTU

variable (modbus : TinyModbusRTU)

/-- The reply to a read that `txrx` decodes, and the calls of `select` up to its end. -/
def reply? (fuel : ℕ) (port : Port) : Option (ReplyFrame × ℕ) := do
  let echoed ← modbus.readEcho? port [] fuel
  let reply ← readReply? (port.drop echoed) modbusMaxReplySize fuel
  some (⟨fun i => (reply.rxbuf i).getD (modbus.stack i), reply.bytesReadTotal⟩,
    echoed + reply.calls)

/-- The replies that arrive while a read is repeated, up to the first one with registers. -/
inductive Receives (fuel : ℕ) (address : UInt8) (function : FunctionCode) :
    ℕ → Port → List ReplyFrame → Prop
  | exhausted (port : Port) : Receives fuel address function 0 port []
  | taken {retries : ℕ} {port : Port} {frame : ReplyFrame} {calls : ℕ}
      (hReply : modbus.reply? fuel port = some (frame, calls))
      (hCarries : frame.Carries address function) :
      Receives fuel address function (retries + 1) port [frame]
  | again {retries : ℕ} {port : Port} {frame : ReplyFrame} {calls : ℕ} {frames : List ReplyFrame}
      (hReply : modbus.reply? fuel port = some (frame, calls))
      (hEmpty : ¬frame.Carries address function)
      (hRest : Receives fuel address function retries (port.drop calls) frames) :
      Receives fuel address function (retries + 1) port (frame :: frames)

variable {modbus}

/-- A request to read gives the registers of the last reply it takes. -/
theorem txrx?_read (fuel : ℕ) (port : Port) (address : UInt8) (function : FunctionCode)
    (first quantity : UInt16) :
    modbus.txrx? fuel port address function first quantity true [] =
      (modbus.reply? fuel port).map fun (frame, calls) =>
        ⟨writtenRequest modbus.heap address function first quantity [],
          frame.registers address function, calls⟩ := by
  rw [txrx?, reply?]
  cases modbus.readEcho? port [] fuel with
  | none => rfl
  | some echoed =>
      simp only [Option.bind_eq_bind, Option.bind_some, if_true]
      cases readReply? (port.drop echoed) modbusMaxReplySize fuel with
      | none => rfl
      | some reply => rfl

end TinyModbusRTU

/-- The registers that are copied, each from its two bytes. -/
theorem copyRegisters_registers (buf : ℕ → UInt8) (i left : ℕ) :
    ((copyRegisters i left).value buf).map Copied.register =
      (List.range ((left + 1) / 2)).map fun k =>
        be16toh (hostWord (buf (i + 2 * k)) (buf (i + 2 * k + 1))) := by
  induction i, left using copyRegisters.induct with
  | case1 i => rfl
  | case2 i => rfl
  | case3 i left ih =>
      have hHalf : (left + 2 + 1) / 2 = (left + 1) / 2 + 1 := by omega
      have hShift (k : ℕ) : i + 2 * (k + 1) = i + 2 + 2 * k := by omega
      rw [copyRegisters, Access.value_bind, Access.value_bind, Access.value_pure, List.map_cons, ih,
        hHalf, List.range_succ_eq_map, List.map_cons, List.map_map]
      simp only [Function.comp_def, Nat.succ_eq_add_one, hShift]
      rfl

namespace ReplyFrame

variable {frame : ReplyFrame} {address : UInt8} {function : FunctionCode}

/-- A frame that carries registers of the request gives its payload. -/
theorem registers_of_carries (h : frame.Carries address function) :
    frame.registers address function = frame.payload ((frame.byteCount + 1) / 2) := by
  have hFits : ¬3 + (frame.rxbuf 2).toNat > frame.len := Nat.not_lt.mpr h.fits
  rw [registers, repliedRegisters, h.accepted.value, value_copyResult, if_neg hFits]
  exact copyRegisters_registers frame.rxbuf 3 frame.byteCount

/-- Any other frame gives no registers. -/
theorem registers_of_not_carries (h : ¬frame.Carries address function) :
    frame.registers address function = [] := by
  rw [registers, repliedRegisters]
  by_cases hAccepted : Accepted frame.rxbuf frame.len address function
  · rw [hAccepted.value, value_copyResult]
    split_ifs with hLong
    · rfl
    · have hNone : (frame.rxbuf 2).toNat = 0 := by
        by_contra hSome
        exact h ⟨hAccepted, Nat.pos_of_ne_zero hSome, Nat.le_of_not_lt hLong⟩
      rw [hNone]
      rfl
  · rw [decodeReply_rejected hAccepted, List.map_nil]

/-- The payload has as many registers as are asked of it. -/
theorem length_payload (count : ℕ) : (frame.payload count).length = count := by
  rw [payload, List.length_map, List.length_range]

/-- A frame gives registers if it carries some. -/
theorem length_registers_pos_iff :
    (frame.registers address function).length > 0 ↔ frame.Carries address function := by
  by_cases hCarries : frame.Carries address function
  · have hSome := hCarries.some
    rw [registers_of_carries hCarries, length_payload]
    exact iff_of_true (by omega) hCarries
  · rw [registers_of_not_carries hCarries]
    exact iff_of_false (Nat.lt_irrefl 0) hCarries

end ReplyFrame

namespace TinyModbusRTU

variable {modbus : TinyModbusRTU} {fuel : ℕ} {address : UInt8} {function : FunctionCode}

/-- What one request makes of the reply that the port has for it. -/
theorem txrx?_of_reply {port : Port} {frame : ReplyFrame} {calls : ℕ}
    (hReply : modbus.reply? fuel port = some (frame, calls)) (first quantity : UInt16) :
    modbus.txrx? fuel port address function first quantity true [] =
      some ⟨writtenRequest modbus.heap address function first quantity [],
        frame.registers address function, calls⟩ := by
  rw [txrx?_read, hReply]
  rfl

/-- The registers are those of the last reply. -/
theorem Receives.resend {retries : ℕ} {port : Port} {frames : List ReplyFrame}
    (h : modbus.Receives fuel address function retries port frames) (first quantity : UInt16)
    (sent : List (List (Option UInt8))) :
    ∃ all, resend? (fun port => modbus.txrx? fuel port address function first quantity true [])
      retries port sent =
        some ((frames.getLast?.map (·.registers address function)).getD [], all) := by
  induction h generalizing sent with
  | exhausted port => exact ⟨sent, rfl⟩
  | @taken retries port frame calls hReply hCarries =>
      have hReplied := @txrx?_of_reply modbus fuel address function _ _ _ hReply first quantity
      have hDone := @resend?_done port (fun port => modbus.txrx? fuel port _ _ _ _ _ _) _ hReplied
        retries sent (ReplyFrame.length_registers_pos_iff.mpr hCarries)
      exact ⟨_, hDone⟩
  | @again retries port frame calls frames hReply hEmpty hRest ih =>
      have hReplied := @txrx?_of_reply modbus fuel address function _ _ _ hReply first quantity
      have hAgain := @resend?_again port (fun port => modbus.txrx? fuel port _ _ _ _ _ _) _
        hReplied retries sent (ReplyFrame.length_registers_pos_iff.not.mpr hEmpty)
      obtain ⟨all, hAll⟩ := ih _
      refine ⟨all, (hAgain.trans hAll).trans ?_⟩
      cases frames with
      | nil =>
          have hNone : frame.registers address function = [] :=
            ReplyFrame.registers_of_not_carries hEmpty
          simp [hNone]
      | cons next rest => rw [List.getLast?_cons_cons]

/-- Only the last reply can have registers. -/
theorem Receives.carries_last {retries : ℕ} {port : Port} {frames : List ReplyFrame}
    (h : modbus.Receives fuel address function retries port frames) {frame : ReplyFrame}
    (hFrame : frame ∈ frames) (hCarries : frame.Carries address function) :
    frames.getLast? = some frame := by
  induction h with
  | exhausted port => cases hFrame
  | taken hReply _ =>
      rw [List.mem_singleton.mp hFrame]
      rfl
  | @again retries port first calls frames hReply hEmpty hRest ih =>
      rcases List.mem_cons.mp hFrame with rfl | hLater
      · exact absurd hCarries hEmpty
      · cases frames with
        | nil => cases hLater
        | cons next rest => exact ih hLater

end TinyModbusRTU

/-- Success is reported only for as many registers as were asked for, all of them from the
payload of the last reply. -/
def ReadsExactly (address : UInt8) (function : FunctionCode) (count : ℕ)
    (frames : List ReplyFrame) (result : Result) : Prop :=
  result = ⟨.error, none⟩ ∨ ∃ frame, frames.getLast? = some frame ∧
    Accepted frame.rxbuf frame.len address function ∧ 3 + 2 * count + 2 ≤ frame.len ∧
    result = ⟨.success, some (vectorToInt (frame.payload count))⟩

section Read

variable {modbus : TinyModbusRTU} {fuel : ℕ} {port : Port}
  {targetDeviceId firstRegisterAddress numRegistersToRead : ℕ} {function : FunctionCode}
  {frames : List ReplyFrame}
  (h : modbus.Receives fuel (.ofNat targetDeviceId) function numResendsOnError port frames)

include h

/-- The result of a read is made of the last frame that was received. -/
theorem handleModbusRead?_received :
    handleModbusRead? modbus fuel port targetDeviceId firstRegisterAddress numRegistersToRead
      function = some (resultOf
        ((frames.getLast?.map (·.registers (.ofNat targetDeviceId) function)).getD [])) := by
  obtain ⟨all, hAll⟩ := h.resend (.ofNat firstRegisterAddress) (.ofNat numRegistersToRead) []
  rw [handleModbusRead?, hAll]
  rfl

/-- No reply has registers. -/
theorem handleModbusRead?_empty
    (hNone : ∀ frame ∈ frames, ¬frame.Carries (.ofNat targetDeviceId) function) :
    handleModbusRead? modbus fuel port targetDeviceId firstRegisterAddress numRegistersToRead
      function = some ⟨.error, none⟩ := by
  rw [handleModbusRead?_received h]
  cases hLast : frames.getLast? with
  | none => rfl
  | some frame =>
      rw [Option.map_some, Option.getD_some,
        ReplyFrame.registers_of_not_carries (hNone frame (List.mem_of_getLast? hLast))]
      rfl

/-- A read whose last frame carries registers succeeds with its payload. -/
theorem handleModbusRead?_carried {frame : ReplyFrame} (hLast : frames.getLast? = some frame)
    (hCarries : frame.Carries (.ofNat targetDeviceId) function) :
    handleModbusRead? modbus fuel port targetDeviceId firstRegisterAddress numRegistersToRead
      function = some ⟨.success, some (vectorToInt
        (frame.payload ((frame.byteCount + 1) / 2)))⟩ := by
  have hSome := ReplyFrame.length_registers_pos_iff.mpr hCarries
  rw [handleModbusRead?_received h, hLast, Option.map_some, Option.getD_some, resultOf,
    if_pos hSome, ReplyFrame.registers_of_carries hCarries]

/-- A read is exact if every frame that carries registers announces as many as were asked for. -/
theorem handleModbusRead?_exact_iff :
    (∃ result, handleModbusRead? modbus fuel port targetDeviceId firstRegisterAddress
        numRegistersToRead function = some result ∧
      ReadsExactly (.ofNat targetDeviceId) function numRegistersToRead frames result) ↔
      ∀ frame ∈ frames, frame.Carries (.ofNat targetDeviceId) function →
        frame.Announces numRegistersToRead := by
  constructor
  · rintro ⟨result, hResult, hExact⟩ frame hFrame hCarries
    have hLast := h.carries_last hFrame hCarries
    rw [handleModbusRead?_carried h hLast hCarries] at hResult
    obtain rfl := Option.some.inj hResult
    rcases hExact with hError | ⟨other, hOther, _, hRoom, hValue⟩
    · cases hError
    · obtain rfl := Option.some.inj (hLast.symm.trans hOther)
      refine ⟨?_, hRoom⟩
      have hLength := congrArg (fun result : Result => result.value.map List.length) hValue
      simpa [vectorToInt, ReplyFrame.length_payload] using hLength
  · intro hAll
    by_cases hNone : ∀ frame ∈ frames, ¬frame.Carries (.ofNat targetDeviceId) function
    · exact ⟨_, handleModbusRead?_empty h hNone, .inl rfl⟩
    · push Not at hNone
      obtain ⟨frame, hFrame, hCarries⟩ := hNone
      have hLast := h.carries_last hFrame hCarries
      have hAnnounces := hAll frame hFrame hCarries
      refine ⟨_, handleModbusRead?_carried h hLast hCarries, .inr
        ⟨frame, hLast, hCarries.accepted, hAnnounces.room, ?_⟩⟩
      rw [hAnnounces.registers]

end Read

/-- Both handlers are exact just where the first reply with registers has as many of them as were
asked for. -/
theorem handle_modbus_read_exact_iff (modbus : TinyModbusRTU) (fuel : ℕ) (port : Port)
    (targetDeviceId firstRegisterAddress numRegistersToRead : ℕ) (frames : List ReplyFrame) :
    (modbus.Receives fuel (.ofNat targetDeviceId) .readMultipleHoldingRegisters numResendsOnError
        port frames →
      ((∃ result, handleModbusReadHoldingRegisters? modbus fuel port targetDeviceId
          firstRegisterAddress numRegistersToRead = some result ∧
        ReadsExactly (.ofNat targetDeviceId) .readMultipleHoldingRegisters numRegistersToRead
          frames result) ↔
        ∀ frame ∈ frames, frame.Carries (.ofNat targetDeviceId) .readMultipleHoldingRegisters →
          frame.Announces numRegistersToRead)) ∧
    (modbus.Receives fuel (.ofNat targetDeviceId) .readInputRegisters numResendsOnError
        port frames →
      ((∃ result, handleModbusReadInputRegisters? modbus fuel port targetDeviceId
          firstRegisterAddress numRegistersToRead = some result ∧
        ReadsExactly (.ofNat targetDeviceId) .readInputRegisters numRegistersToRead
          frames result) ↔
        ∀ frame ∈ frames, frame.Carries (.ofNat targetDeviceId) .readInputRegisters →
          frame.Announces numRegistersToRead)) :=
  ⟨handleModbusRead?_exact_iff, handleModbusRead?_exact_iff⟩

/-- A device that answers a read at once. -/
theorem receives_readReply {modbus : TinyModbusRTU} (hEcho : modbus.ignoreEcho = false)
    {port : Port} {address : UInt8} {function : FunctionCode} {registers : List UInt16}
    {last fuel : ℕ} (hSome : 1 ≤ registers.length) (hMost : registers.length ≤ 125)
    (h : Delivers port (readReply address function registers) last) (hFuel : last < fuel)
    (retries : ℕ) :
    ∃ frame : ReplyFrame, modbus.Receives fuel address function (retries + 1) port [frame] ∧
      frame.byteCount = 2 * registers.length ∧ frame.len = 2 * registers.length + 5 ∧
      frame.Carries address function := by
  have hLength := length_readReply address function registers
  have hRoom : (readReply address function registers).length < modbusMaxReplySize := by
    unfold modbusMaxReplySize
    omega
  obtain ⟨reply, hReply, hBegins, hTotal⟩ := h.readReply hRoom hFuel
  let frame : ReplyFrame := ⟨fun i => (reply.rxbuf i).getD (modbus.stack i), reply.bytesReadTotal⟩
  obtain ⟨hAccepted, hCount, _⟩ := @readReply_fields frame.rxbuf _ _ _ hMost
    (hBegins.getD modbus.stack)
  rw [← hTotal] at hAccepted
  have hFrame : modbus.reply? fuel port = some (frame, 0 + reply.calls) := by
    have hDrop : port.drop 0 = port := funext fun call => congrArg port (Nat.zero_add call)
    rw [TinyModbusRTU.reply?, TinyModbusRTU.readEcho?, hEcho, if_neg Bool.false_ne_true,
      Option.bind_eq_bind, Option.bind_some, hDrop, hReply]
    rfl
  have hLen : frame.len = 2 * registers.length + 5 := hTotal.trans hLength
  have hCarries : frame.Carries address function := by
    refine ⟨hAccepted, ?_, ?_⟩
    · exact lt_of_lt_of_eq (by omega) hCount.symm
    · rw [ReplyFrame.byteCount, hLen]
      exact le_of_eq_of_le (congrArg (3 + ·) hCount) (by omega)
  exact ⟨frame, .taken hFrame hCarries, hCount, hLen, hCarries⟩

/-- A device with address 1 that answers with these holding registers. -/
def promptRead (registers : List UInt16) : Port := fun call =>
  if call = 0 then .readable (some (readReply 1 .readMultipleHoldingRegisters registers))
  else .timeout

/-- A device that answers promptly is received at the first try, with the registers it sent. -/
theorem receives_promptRead {registers : List UInt16} (hSome : 1 ≤ registers.length)
    (hMost : registers.length ≤ 125) :
    ∃ frame : ReplyFrame, plainModbus.Receives 5 (.ofNat 1) .readMultipleHoldingRegisters
        numResendsOnError (promptRead registers) [frame] ∧
      frame.byteCount = 2 * registers.length ∧ frame.len = 2 * registers.length + 5 ∧
      frame.Carries (.ofNat 1) .readMultipleHoldingRegisters := by
  have hDelivers : Delivers (promptRead registers)
      (readReply 1 .readMultipleHoldingRegisters registers) 1 := by
    refine ⟨fun call hCall => ?_, rfl, rfl⟩
    obtain rfl := Nat.lt_one_iff.mp hCall
    simp [SelectOutcome.IsOver, promptRead]
  exact receives_readReply rfl hSome hMost hDelivers (by decide) 2

theorem handle_modbus_read_exact_two :
    ∃ frames result, handleModbusReadHoldingRegisters? plainModbus 5 (promptRead [17, 42]) 1 0 2 =
        some result ∧
      ReadsExactly (.ofNat 1) .readMultipleHoldingRegisters 2 frames result := by
  obtain ⟨frame, hReceives, hCount, hLen, _⟩ :=
    @receives_promptRead [17, 42] (by decide) (by decide)
  have hIff := (handle_modbus_read_exact_iff plainModbus 5 (promptRead [17, 42]) 1 0 2 [frame]).1
    hReceives
  refine ⟨[frame], hIff.mpr fun other hOther _ => ?_⟩
  rw [List.mem_singleton.mp hOther]
  refine ⟨?_, ?_⟩
  · rw [hCount]
    rfl
  · rw [hLen]
    decide

/-- Two registers are asked for, the device has one, and the hub reports success. -/
theorem handle_modbus_read_short :
    ¬∀ (modbus : TinyModbusRTU) (fuel : ℕ) (port : Port)
      (targetDeviceId firstRegisterAddress numRegistersToRead : ℕ) (frames : List ReplyFrame),
      1 ≤ numRegistersToRead →
        modbus.Receives fuel (.ofNat targetDeviceId) .readMultipleHoldingRegisters
          numResendsOnError port frames →
        ∃ result, handleModbusReadHoldingRegisters? modbus fuel port targetDeviceId
            firstRegisterAddress numRegistersToRead = some result ∧
          ReadsExactly (.ofNat targetDeviceId) .readMultipleHoldingRegisters numRegistersToRead
            frames result := by
  intro hAll
  obtain ⟨frame, hReceives, hCount, _, hCarries⟩ :=
    @receives_promptRead [42] (by decide) (by decide)
  have hExact := hAll plainModbus 5 (promptRead [42]) 1 0 2 [frame] (by decide) hReceives
  have hAnnounces := (handleModbusRead?_exact_iff hReceives).mp hExact frame
    (List.mem_singleton_self _) hCarries
  have hTwo := hAnnounces.registers
  rw [hCount] at hTwo
  exact absurd hTwo (by decide)

end EverestCore.Modbus
