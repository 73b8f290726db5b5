import Mathlib.Data.List.Basic
import Mathlib.Data.UInt

/-! The frames of `tiny_modbus`: function codes, words in the order of the host and of the
network, and the checksum. The host is little endian. -/
namespace EverestCore.Modbus

/-- `tiny_modbus::FunctionCode`. -/
inductive FunctionCode where
  | readCoils
  | readDiscreteInputs
  | readMultipleHoldingRegisters
  | readInputRegisters
  | writeSingleCoil
  | writeSingleHoldingRegister
  | writeMultipleCoils
  | writeMultipleHoldingRegisters
  deriving DecidableEq

def FunctionCode.value : FunctionCode → UInt8
  | .readCoils => 0x01
  | .readDiscreteInputs => 0x02
  | .readMultipleHoldingRegisters => 0x03
  | .readInputRegisters => 0x04
  | .writeSingleCoil => 0x05
  | .writeSingleHoldingRegister => 0x06
  | .writeMultipleCoils => 0x0F
  | .writeMultipleHoldingRegisters => 0x10

/-- The function codes whose replies carry a byte count. -/
def FunctionCode.IsRead : FunctionCode → Prop
  | .readCoils | .readDiscreteInputs | .readMultipleHoldingRegisters | .readInputRegisters => True
  | _ => False

def deviceAddressPos : ℕ := 0x00
def functionCodePos : ℕ := 0x01
def reqTxFirstRegisterAddrPos : ℕ := 0x02
def reqTxQuantityPos : ℕ := 0x04
def reqTxMultipleRegByteCountPos : ℕ := 0x06
def resRxLenPos : ℕ := 0x02
def resRxStartOfPayload : ℕ := 0x03
def resTxStartOfPayload : ℕ := 0x02
def modbusMaxReplySize : ℕ := 255 + 6
def modbusMinReplySize : ℕ := 5
def modbusBasePayloadSize : ℕ := 8

/-- A word that is copied from two bytes. -/
def hostWord (first second : UInt8) : UInt16 := .ofNat (first.toNat + 256 * second.toNat)

/-- The bytes of a word. -/
def hostBytes (word : UInt16) : List UInt8 := [.ofNat word.toNat, .ofNat (word.toNat / 256)]

/-- `be16toh` and `htobe16` swap the bytes of a word. -/
def be16toh (word : UInt16) : UInt16 := .ofNat (word.toNat / 256 + 256 * (word.toNat % 256))

def htobe16 (word : UInt16) : UInt16 := .ofNat (word.toNat / 256 + 256 * (word.toNat % 256))

/-- A word as it goes over the wire. -/
def wireBytes (word : UInt16) : List UInt8 := [.ofNat (word.toNat / 256), .ofNat word.toNat]

/-- A round of the inner loop of `calculate_modbus_crc16`. -/
def crc16Bit (crc : UInt16) : UInt16 :=
  if crc &&& 1 ≠ 0 then (crc >>> 1) ^^^ 0xA001 else crc >>> 1

def crc16Bits : ℕ → UInt16 → UInt16
  | 0, crc => crc
  | count + 1, crc => crc16Bits count (crc16Bit crc)

/-- `calculate_modbus_crc16` of these bytes. -/
def calculateModbusCrc16 (bytes : List UInt8) : UInt16 :=
  bytes.foldl (fun crc byte => crc16Bits 8 (crc ^^^ byte.toUInt16)) 0xFFFF

@[simp] theorem length_wireBytes (word : UInt16) : (wireBytes word).length = 2 := rfl

theorem length_flatMap_wireBytes (words : List UInt16) :
    (words.flatMap wireBytes).length = 2 * words.length := by
  simp [List.length_flatMap, Nat.mul_comm]

@[simp] theorem length_hostBytes (word : UInt16) : (hostBytes word).length = 2 := rfl

/-- The bytes of a word that is put together from two bytes. -/
theorem swapped_div_mod {high : ℕ} (hHigh : high < 256) (low : ℕ) :
    (high + 256 * low) / 256 = low ∧ (high + 256 * low) % 256 = high := by
  rw [Nat.add_mul_div_left _ _ (by decide), Nat.div_eq_of_lt hHigh, Nat.add_mul_mod_self_left,
    Nat.mod_eq_of_lt hHigh, Nat.zero_add]
  exact ⟨rfl, rfl⟩

theorem high_lt (word : UInt16) : word.toNat / 256 < 256 :=
  Nat.div_lt_of_lt_mul word.toNat_lt

theorem toNat_htobe16 (word : UInt16) :
    (htobe16 word).toNat = word.toNat / 256 + 256 * (word.toNat % 256) := by
  have hHigh := high_lt word
  have hLow : word.toNat % 256 < 256 := Nat.mod_lt _ (by decide)
  apply UInt16.toNat_ofNat_of_lt'
  rw [UInt16.size]
  omega

/-- A word of the host, swapped, has its bytes in the order of the wire. -/
theorem hostBytes_htobe16 (word : UInt16) : hostBytes (htobe16 word) = wireBytes word := by
  obtain ⟨hDiv, hMod⟩ := swapped_div_mod (high_lt word) (word.toNat % 256)
  have hFirst : UInt8.ofNat (htobe16 word).toNat = .ofNat (word.toNat / 256) := by
    apply UInt8.toNat_inj.mp
    rw [toNat_htobe16, UInt8.toNat_ofNat', UInt8.toNat_ofNat', hMod,
      Nat.mod_eq_of_lt (high_lt word)]
  have hSecond : UInt8.ofNat ((htobe16 word).toNat / 256) = .ofNat word.toNat := by
    apply UInt8.toNat_inj.mp
    rw [toNat_htobe16, hDiv, UInt8.toNat_ofNat', UInt8.toNat_ofNat', Nat.mod_mod]
  rw [hostBytes, hFirst, hSecond, wireBytes]

/-- A word is read back from the wire. -/
theorem ofNat_wireBytes (word : UInt16) :
    .ofNat (256 * (UInt8.ofNat (word.toNat / 256)).toNat + (UInt8.ofNat word.toNat).toNat) =
      word := by
  rw [UInt8.toNat_ofNat', UInt8.toNat_ofNat', Nat.mod_eq_of_lt (high_lt word)]
  exact (congrArg UInt16.ofNat (Nat.div_add_mod word.toNat 256)).trans UInt16.ofNat_toNat

theorem toNat_hostWord (first second : UInt8) :
    (hostWord first second).toNat = first.toNat + 256 * second.toNat := by
  have hFirst := first.toNat_lt
  have hSecond := second.toNat_lt
  apply UInt16.toNat_ofNat_of_lt'
  rw [UInt16.size]
  omega

theorem hostWord_hostBytes (word : UInt16) :
    hostWord (.ofNat word.toNat) (.ofNat (word.toNat / 256)) = word := by
  apply UInt16.toNat_inj.mp
  rw [toNat_hostWord, UInt8.toNat_ofNat', UInt8.toNat_ofNat', Nat.mod_eq_of_lt (high_lt word)]
  exact Nat.mod_add_div word.toNat 256

/-- A word from the wire, swapped. -/
theorem toNat_be16toh_hostWord (first second : UInt8) :
    (be16toh (hostWord first second)).toNat = 256 * first.toNat + second.toNat := by
  have hFirst := first.toNat_lt
  have hSecond := second.toNat_lt
  obtain ⟨hDiv, hMod⟩ := swapped_div_mod hFirst second.toNat
  rw [be16toh, toNat_hostWord, hDiv, hMod, Nat.add_comm]
  apply UInt16.toNat_ofNat_of_lt'
  rw [UInt16.size]
  omega

/-- A word that is received is the one that was sent. -/
theorem be16toh_wireBytes (word : UInt16) :
    be16toh (hostWord (.ofNat (word.toNat / 256)) (.ofNat word.toNat)) = word := by
  apply UInt16.toNat_inj.mp
  rw [toNat_be16toh_hostWord, UInt8.toNat_ofNat', UInt8.toNat_ofNat',
    Nat.mod_eq_of_lt (high_lt word)]
  exact Nat.div_add_mod word.toNat 256

end EverestCore.Modbus
