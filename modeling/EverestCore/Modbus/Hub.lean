import EverestCore.Modbus.ReadReply
import EverestCore.Modbus.Reply
import EverestCore.Modbus.Requests

/-! The exchange of a request and a reply, and the handlers of the hub that repeat it. A reply to
a write is decoded as if it were a reply to a read: the high byte of the first register is taken
for the byte count. -/
namespace EverestCore.Modbus

/-- `TinyModbusRTU`, with what the heap and the stack hold before they are written to. -/
structure TinyModbusRTU where
  ignoreEcho : Bool
  heap : ℕ → UInt8
  stack : ℕ → UInt8

/-- What `txrx` leaves behind: the request that it has written to the port, the registers, and
the calls of `select` that it has made. -/
structure Exchange where
  sent : List (Option UInt8)
  registers : List UInt16
  calls : ℕ
  deriving DecidableEq

/-- The outcomes behind so many calls. -/
def Port.drop (port : Port) (calls : ℕ) : Port := fun call => port (calls + call)

namespace TinyModbusRTU

variable (modbus : TinyModbusRTU)

/-- The echo of the request, read into its own buffer. The result is the number of calls. -/
def readEcho? (port : Port) (request : List UInt16) (fuel : ℕ) : Option ℕ :=
  if modbus.ignoreEcho then (readReply? port (requestLength request) fuel).map Reading.calls
  else some 0

/-- `TinyModbusRTU::txrx`, with each of its reads followed for a number of rounds. -/
def txrx? (fuel : ℕ) (port : Port) (deviceAddress : UInt8) (function : FunctionCode)
    (firstRegisterAddress registerQuantity : UInt16) (waitForReply : Bool)
    (request : List UInt16) : Option Exchange := do
  let sent := writtenRequest modbus.heap deviceAddress function firstRegisterAddress
    registerQuantity request
  let echoed ← modbus.readEcho? port request fuel
  if waitForReply then
    let reply ← readReply? (port.drop echoed) modbusMaxReplySize fuel
    let rxbuf := fun i => (reply.rxbuf i).getD (modbus.stack i)
    some ⟨sent, repliedRegisters rxbuf reply.bytesReadTotal deviceAddress function,
      echoed + reply.calls⟩
  else some ⟨sent, [], echoed⟩

end TinyModbusRTU

/-- `types::serial_comm_hub_requests::StatusCodeEnum`. -/
inductive StatusCode where
  | success
  | error
  deriving DecidableEq

def numResendsOnError : ℕ := 3

/-- The loop that the handlers share: the last response, and the requests that have been sent. -/
def resend? (transmit : Port → Option Exchange) :
    ℕ → Port → List (List (Option UInt8)) → Option (List UInt16 × List (List (Option UInt8)))
  | 0, _, sent => some ([], sent)
  | retryCounter + 1, port, sent => do
      let exchange ← transmit port
      if exchange.registers.length > 0 then some (exchange.registers, sent ++ [exchange.sent])
      else resend? transmit retryCounter (port.drop exchange.calls) (sent ++ [exchange.sent])

def statusOf (response : List UInt16) : StatusCode :=
  if response.length > 0 then .success else .error

/-- `handle_modbus_write_multiple_registers`, with the requests that it has sent. -/
def handleModbusWriteMultipleRegisters? (modbus : TinyModbusRTU) (fuel : ℕ) (port : Port)
    (targetDeviceId : UInt8) (firstRegisterAddress : UInt16) (data : List UInt16) :
    Option (StatusCode × List (List (Option UInt8))) := do
  let (response, sent) ← resend? (fun port => modbus.txrx? fuel port targetDeviceId
    .writeMultipleHoldingRegisters firstRegisterAddress (.ofNat data.length) true data)
    numResendsOnError port []
  some (statusOf response, sent)

/-- The reply of a device that has written registers, in front of its checksum. -/
def writeReplyBody (address : UInt8) (first quantity : UInt16) : List UInt8 :=
  [address, FunctionCode.writeMultipleHoldingRegisters.value] ++ wireBytes first ++
    wireBytes quantity

def writeReply (address : UInt8) (first quantity : UInt16) : List UInt8 :=
  writeReplyBody address first quantity ++
    hostBytes (calculateModbusCrc16 (writeReplyBody address first quantity))

/-- These bytes arrive, and nothing after them within the timeout. -/
structure Delivers (port : Port) (bytes : List UInt8) (last : ℕ) : Prop where
  readable : ∀ call < last, ¬(port call).IsOver
  quiet : port last = .timeout
  bytes : arrived port last = bytes

variable {port : Port}

theorem length_arrived_le {first last : ℕ} (hBefore : first ≤ last) :
    (arrived port first).length ≤ (arrived port last).length := by
  induction last with
  | zero => rw [Nat.le_zero.mp hBefore]
  | succ last ih =>
      rcases Nat.lt_or_eq_of_le hBefore with hLess | rfl
      · rw [arrived, List.length_append]
        exact (ih (Nat.le_of_lt_succ hLess)).trans (Nat.le_add_right _ _)
      · exact Nat.le_refl _

/-- The loop reads exactly what is delivered. -/
theorem Delivers.readReply {bytes : List UInt8} {last rxbufLen fuel : ℕ}
    (h : Delivers port bytes last) (hRoom : bytes.length < rxbufLen) (hFuel : last < fuel) :
    ∃ reply, readReply? port rxbufLen fuel = some reply ∧ reply.rxbuf.Begins bytes ∧
      reply.bytesReadTotal = bytes.length := by
  obtain ⟨reply, hReply, hHolds, call, hCall, hCalls, hOver⟩ :=
    @readReply?_ends port rxbufLen last (.inl (.inr h.quiet)) fuel hFuel
  have hLast : call = last := by
    rcases hOver with hIsOver | hFull
    · exact Nat.le_antisymm hCall (Nat.le_of_not_lt fun hLess => h.readable call hLess hIsOver)
    · have hLength := @length_arrived_le port _ _ hCall
      rw [h.bytes] at hLength
      omega
  have hArrived : arrived port reply.calls = bytes := by
    rw [hCalls, hLast, arrived, h.quiet, h.bytes]
    exact List.append_nil bytes
  have hBegins := hHolds.rxbuf
  have hTotal := hHolds.total
  rw [hArrived, List.take_of_length_le hRoom.le] at hBegins hTotal
  exact ⟨reply, hReply, hBegins, hTotal⟩

section WriteReply

variable {buf : ℕ → UInt8} {address : UInt8} {first quantity : UInt16}
  (hReceived : received buf 8 = writeReply address first quantity)

include hReceived

/-- The high byte of the first register is where a byte count is expected. -/
theorem writeReply_fields :
    Accepted buf 8 address .writeMultipleHoldingRegisters ∧
      (buf 2).toNat = first.toNat / 256 ∧ (buf 3).toNat = first.toNat % 256 ∧
      (buf 4).toNat = quantity.toNat / 256 := by
  have hSix : [buf 0, buf 1, buf 2, buf 3, buf 4, buf 5] = writeReplyBody address first quantity :=
    (@received_append buf (writeReplyBody address first quantity)
      (hostBytes (calculateModbusCrc16 (writeReplyBody address first quantity))) hReceived).1
  simp only [writeReplyBody, wireBytes, List.cons_append, List.nil_append, List.cons.injEq] at hSix
  obtain ⟨hAddress, hFunction, hHigh, hLow, hQuantity, _⟩ := hSix
  have hChecksum : ChecksumMatches buf 8 :=
    @checksumMatches_of_received buf (writeReplyBody address first quantity) _ rfl hReceived
  refine ⟨⟨by decide, hAddress, hFunction, hChecksum⟩, ?_, ?_, ?_⟩
  · rw [hHigh, UInt8.toNat_ofNat', Nat.mod_eq_of_lt (high_lt first)]
  · rw [hLow, UInt8.toNat_ofNat']
  · rw [hQuantity, UInt8.toNat_ofNat', Nat.mod_eq_of_lt (high_lt quantity)]

theorem repliedRegisters_writeReply :
    repliedRegisters buf 8 address .writeMultipleHoldingRegisters =
      if 3 + first.toNat / 256 > 8 then []
      else ((copyRegisters 3 (first.toNat / 256)).value buf).map Copied.register := by
  obtain ⟨hAccepted, hCount, _⟩ := writeReply_fields hReceived
  rw [repliedRegisters, hAccepted.value, value_copyResult, hCount]
  split_ifs <;> rfl

/-- Registers are returned if the first one is from 256 to 1535. -/
theorem repliedRegisters_writeReply_iff :
    0 < (repliedRegisters buf 8 address .writeMultipleHoldingRegisters).length ↔
      256 ≤ first.toNat ∧ first.toNat < 1536 := by
  rw [repliedRegisters_writeReply hReceived]
  split_ifs
  · rw [List.length_nil]
    omega
  · rw [List.length_map, length_copyRegisters]
    omega

/-- The registers that the reply to a write is taken for are never the first register and the
quantity. -/
theorem repliedRegisters_writeReply_ne (hQuantity : quantity.toNat ≤ 123) :
    repliedRegisters buf 8 address .writeMultipleHoldingRegisters ≠ [first, quantity] := by
  obtain ⟨_, _, hLow, hHigh⟩ := writeReply_fields hReceived
  rw [repliedRegisters_writeReply hReceived]
  split_ifs with hLong
  · simp
  · intro hSame
    have hLength := congrArg List.length hSame
    rw [List.length_map, length_copyRegisters] at hLength
    obtain ⟨left, hLeft⟩ := Nat.exists_eq_add_of_le (show 2 ≤ first.toNat / 256 by
      rw [List.length_cons, List.length_singleton] at hLength
      omega)
    rw [hLeft, Nat.add_comm 2 left, copyRegisters, Access.value_bind, Access.value_bind,
      Access.value_pure, List.map_cons] at hSame
    obtain ⟨hFirst, _⟩ := List.cons_eq_cons.mp hSame
    have hToNat := congrArg UInt16.toNat hFirst
    rw [value_copyRegister, toNat_be16toh_hostWord, hLow, hHigh] at hToNat
    omega

end WriteReply

section Resend

variable {transmit : Port → Option Exchange} {exchange : Exchange}

theorem resend?_longer {retryCounter : ℕ} {sent all : List (List (Option UInt8))}
    {response : List UInt16}
    (hAll : resend? transmit retryCounter port sent = some (response, all)) :
    sent.length + min retryCounter 1 ≤ all.length := by
  induction retryCounter generalizing port sent with
  | zero =>
      obtain ⟨_, rfl⟩ := Prod.mk.inj (Option.some.inj hAll)
      exact Nat.le_refl _
  | succ retryCounter ih =>
      obtain ⟨exchange, _, hRest⟩ := Option.bind_eq_some_iff.mp hAll
      have hMin : min (retryCounter + 1) 1 = 1 := Nat.min_eq_right (Nat.succ_pos _)
      split_ifs at hRest
      · obtain ⟨_, rfl⟩ := Prod.mk.inj (Option.some.inj hRest)
        rw [hMin, List.length_append, List.length_singleton]
      · have hLonger := ih hRest
        rw [List.length_append, List.length_singleton] at hLonger
        rw [hMin]
        omega

variable (hTransmit : transmit port = some exchange) (retryCounter : ℕ)
  (sent : List (List (Option UInt8)))

include hTransmit

theorem resend?_done (hSome : exchange.registers.length > 0) :
    resend? transmit (retryCounter + 1) port sent =
      some (exchange.registers, sent ++ [exchange.sent]) := by
  rw [resend?, hTransmit, Option.bind_eq_bind, Option.bind_some, if_pos hSome]

theorem resend?_again (hNone : ¬exchange.registers.length > 0) :
    resend? transmit (retryCounter + 1) port sent =
      resend? transmit retryCounter (port.drop exchange.calls) (sent ++ [exchange.sent]) := by
  rw [resend?, hTransmit, Option.bind_eq_bind, Option.bind_some, if_neg hNone]

end Resend

/-- A device answers the first request of the hub with the reply of a write. It may be behind
an echo of the request, for which so many calls are needed. -/
structure Answers (modbus : TinyModbusRTU) (fuel : ℕ) (port : Port) (address : UInt8)
    (first : UInt16) (data : List UInt16) (echoed last : ℕ) : Prop where
  echo : modbus.readEcho? port data fuel = some echoed
  reply : Delivers (port.drop echoed) (writeReply address first (.ofNat data.length)) last
  rounds : last < fuel

section Answered

variable {modbus : TinyModbusRTU} {fuel : ℕ} {address : UInt8} {first : UInt16}
  {data : List UInt16} {echoed last : ℕ}
  (h : Answers modbus fuel port address first data echoed last)

include h

theorem txrx?_answered :
    ∃ buf exchange, received buf 8 = writeReply address first (.ofNat data.length) ∧
      modbus.txrx? fuel port address .writeMultipleHoldingRegisters first (.ofNat data.length)
        true data = some exchange ∧
      exchange.registers = repliedRegisters buf 8 address .writeMultipleHoldingRegisters := by
  have hRoom : (writeReply address first (.ofNat data.length)).length < modbusMaxReplySize :=
    Nat.lt_of_lt_of_le (Nat.lt_succ_self 8) (by decide)
  obtain ⟨reply, hReply, hBegins, hTotal⟩ := h.reply.readReply hRoom h.rounds
  have hEight : reply.bytesReadTotal = 8 := hTotal
  refine ⟨fun i => (reply.rxbuf i).getD (modbus.stack i), ⟨writtenRequest modbus.heap address
    .writeMultipleHoldingRegisters first (.ofNat data.length) data, _, echoed + reply.calls⟩,
    hBegins.getD modbus.stack, ?_, rfl⟩
  rw [TinyModbusRTU.txrx?, h.echo, Option.bind_eq_bind, Option.bind_some, if_pos rfl, hReply,
    Option.bind_eq_bind, Option.bind_some, hEight]
  rfl

/-- The hub is content with one transmission if the first register is from 256 to 1535. -/
theorem handle_answered_iff :
    (∃ sent, handleModbusWriteMultipleRegisters? modbus fuel port address first data =
      some (.success, [sent])) ↔ 256 ≤ first.toNat ∧ first.toNat < 1536 := by
  obtain ⟨buf, exchange, hReceived, hExchange, hRegisters⟩ := txrx?_answered h
  rw [← repliedRegisters_writeReply_iff hReceived, ← hRegisters]
  constructor
  · rintro ⟨sent, hHandled⟩
    by_contra hNone
    obtain ⟨⟨response, all⟩, hAll, hStatus⟩ := Option.bind_eq_some_iff.mp hHandled
    obtain ⟨_, rfl⟩ := Prod.mk.inj (Option.some.inj hStatus)
    rw [numResendsOnError, resend?_again hExchange 2 [] hNone] at hAll
    have hLonger := resend?_longer hAll
    simp at hLonger
  · intro hSome
    refine ⟨exchange.sent, ?_⟩
    rw [handleModbusWriteMultipleRegisters?, numResendsOnError, resend?_done hExchange 2 [] hSome,
      Option.bind_eq_bind, Option.bind_some]
    exact congrArg (fun status => some (status, [exchange.sent])) (if_pos hSome)

/-- The reply to a write is never decoded to what it says. -/
theorem handle_write_misread (hMost : data.length ≤ 123) :
    (∀ buf, received buf 8 = writeReply address first (.ofNat data.length) →
      repliedRegisters buf 8 address .writeMultipleHoldingRegisters ≠
        [first, .ofNat data.length]) ∧
      ((∃ sent, handleModbusWriteMultipleRegisters? modbus fuel port address first data =
        some (.success, [sent])) ↔ 256 ≤ first.toNat ∧ first.toNat < 1536) := by
  refine ⟨fun buf hReceived => repliedRegisters_writeReply_ne hReceived ?_, handle_answered_iff h⟩
  rw [UInt16.toNat_ofNat']
  omega

end Answered

/-- Two registers are written from an address on, and the reply arrives in one piece. -/
def promptReply (first : UInt16) : Port := fun call =>
  if call = 0 then .readable (some (writeReply 1 first 2)) else .timeout

def plainModbus : TinyModbusRTU := ⟨false, fun _ => 0, fun _ => 0⟩

theorem answers_promptReply (first : UInt16) :
    Answers plainModbus 5 (promptReply first) 1 first [3, 4] 0 1 := by
  refine ⟨rfl, ⟨fun call hCall => ?_, rfl, rfl⟩, by decide⟩
  obtain rfl := Nat.lt_one_iff.mp hCall
  simp [SelectOutcome.IsOver, Port.drop, promptReply]

theorem handle_write_misread_kept :
    ¬∃ sent, handleModbusWriteMultipleRegisters? plainModbus 5 (promptReply 16) 1 16 [3, 4] =
      some (.success, [sent]) := by
  have hOnce := (handle_write_misread (answers_promptReply 16) (by decide)).2
  rw [hOnce]
  decide

/-- Registers 16 and 17 are written, and the hub sends its request again. -/
theorem handle_write_repeated :
    ¬∀ (modbus : TinyModbusRTU) (fuel : ℕ) (port : Port) (address : UInt8) (first : UInt16)
      (data : List UInt16) (echoed last : ℕ),
      Answers modbus fuel port address first data echoed last →
        1 ≤ data.length → data.length ≤ 123 →
          (∀ buf, received buf 8 = writeReply address first (.ofNat data.length) →
            repliedRegisters buf 8 address .writeMultipleHoldingRegisters =
              [first, .ofNat data.length]) ∧
            ∃ sent, handleModbusWriteMultipleRegisters? modbus fuel port address first data =
              some (.success, [sent]) := by
  intro hAll
  obtain ⟨_, hOnce⟩ :=
    hAll plainModbus 5 (promptReply 16) 1 16 [3, 4] 0 1 (answers_promptReply 16) (by decide)
      (by decide)
  rw [handle_answered_iff (answers_promptReply 16)] at hOnce
  exact absurd hOnce.1 (by decide)

end EverestCore.Modbus
