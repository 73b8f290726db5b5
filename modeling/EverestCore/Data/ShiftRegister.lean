import Mathlib.Data.BitVec
import Mathlib.Data.UInt

/-! Reflected shift registers of any width, as cyclic redundancy checks use them. A register
whose polynomial has its highest bit set can be run backwards, so the bytes that bring it to
zero are known: they are the register itself, lowest byte first. -/
namespace EverestCore.ShiftRegister

variable {width : ℕ} (poly : BitVec width)

/-- One shift to the right, with the polynomial added if a one falls out. -/
def shift (register : BitVec width) : BitVec width :=
  if register.getLsbD 0 then register >>> 1 ^^^ poly else register >>> 1

def shifts : ℕ → BitVec width → BitVec width
  | 0, register => register
  | count + 1, register => shifts count (shift poly register)

/-- Take in a byte. -/
def feed (register : BitVec width) (byte : UInt8) : BitVec width :=
  shifts poly 8 (register ^^^ byte.toBitVec.setWidth width)

def feedAll (register : BitVec width) (bytes : List UInt8) : BitVec width :=
  bytes.foldl (feed poly) register

/-- The number whose bytes these are, lowest byte first. -/
def ofBytes : List UInt8 → BitVec width
  | [] => 0
  | byte :: rest => ofBytes rest <<< 8 ^^^ byte.toBitVec.setWidth width

/-- The lowest bytes of a number, lowest byte first. -/
def toBytes : ℕ → BitVec width → List UInt8
  | 0, _ => []
  | count + 1, register => .ofBitVec (register.setWidth 8) :: toBytes count (register >>> 8)

@[simp] theorem feedAll_nil (register : BitVec width) : feedAll poly register [] = register := rfl

@[simp] theorem feedAll_cons (register : BitVec width) (byte : UInt8) (bytes : List UInt8) :
    feedAll poly register (byte :: bytes) = feedAll poly (feed poly register byte) bytes := rfl

/-- The register after two parts is that of the second part, started where the first one has left
it. -/
theorem feedAll_append (register : BitVec width) (first second : List UInt8) :
    feedAll poly register (first ++ second) = feedAll poly (feedAll poly register first) second :=
  List.foldl_append

@[simp] theorem length_toBytes (count : ℕ) (register : BitVec width) :
    (toBytes count register).length = count := by
  induction count generalizing register with
  | zero => rfl
  | succ count ih => rw [toBytes, List.length_cons, ih]

/-- A shift is linear. -/
theorem shift_xor (first second : BitVec width) :
    shift poly (first ^^^ second) = shift poly first ^^^ shift poly second := by
  unfold shift
  rw [BitVec.getLsbD_xor, BitVec.ushiftRight_xor_distrib]
  cases first.getLsbD 0 <;> cases second.getLsbD 0
  · rfl
  · exact BitVec.xor_assoc _ _ _
  · simp only [Bool.bne_false, if_true, Bool.false_eq_true, if_false]
    ac_rfl
  · simp only [bne_self_eq_false, Bool.false_eq_true, if_false, if_true]
    rw [BitVec.xor_assoc, ← BitVec.xor_assoc poly, BitVec.xor_comm poly, BitVec.xor_assoc,
      BitVec.xor_self, BitVec.xor_zero]

/-- Shifts are linear, since a single one is. -/
theorem shifts_xor (count : ℕ) (first second : BitVec width) :
    shifts poly count (first ^^^ second) =
      shifts poly count first ^^^ shifts poly count second := by
  induction count generalizing first second with
  | zero => rfl
  | succ count ih => rw [shifts, shifts, shifts, shift_xor, ih]

/-- A number with room above it is shifted back to where it was. -/
theorem shift_shiftLeft {register : BitVec width} (hRoom : register.toNat * 2 < 2 ^ width) :
    shift poly (register <<< 1) = register := by
  have hLow : (register <<< 1).getLsbD 0 = false := by simp
  rw [shift, hLow, if_neg Bool.false_ne_true]
  apply BitVec.eq_of_toNat_eq
  rw [BitVec.toNat_ushiftRight, BitVec.toNat_shiftLeft, Nat.shiftLeft_eq, pow_one,
    Nat.mod_eq_of_lt hRoom, Nat.shiftRight_eq_div_pow, pow_one, Nat.mul_div_cancel _ Nat.two_pos]

/-- Zeros in front leave only with shifts, and no feedback comes from them. -/
theorem shifts_shiftLeft (count : ℕ) {register : BitVec width}
    (hRoom : register.toNat * 2 ^ count < 2 ^ width) :
    shifts poly count (register <<< count) = register := by
  induction count with
  | zero => rw [shifts, BitVec.shiftLeft_zero]
  | succ count ih =>
      have hLess : register.toNat * 2 ^ count * 2 < 2 ^ width := by
        rwa [mul_assoc, ← pow_succ]
      have hLower : (register <<< count).toNat = register.toNat * 2 ^ count := by
        rw [BitVec.toNat_shiftLeft, Nat.shiftLeft_eq, Nat.mod_eq_of_lt (by omega)]
      rw [shifts, BitVec.shiftLeft_add, shift_shiftLeft poly (by rwa [hLower]), ih (by omega)]

/-- Only zero is shifted to zero, if the highest bit of the polynomial is set. -/
theorem shift_eq_zero_iff (hPoly : poly.msb = true) {register : BitVec width} :
    shift poly register = 0 ↔ register = 0 := by
  refine ⟨fun hZero => ?_, by rintro rfl; simp [shift]⟩
  unfold shift at hZero
  split at hZero
  · next hLow =>
      have hEq : register >>> 1 = poly := by
        rwa [← BitVec.xor_eq_zero_iff]
      rw [← hEq, BitVec.msb_ushiftRight] at hPoly
      simp at hPoly
  · next hLow =>
      apply BitVec.eq_of_getLsbD_eq
      intro i _
      cases i with
      | zero => simpa using hLow
      | succ i =>
          have hBit := congrArg (BitVec.getLsbD · i) hZero
          simpa [BitVec.getLsbD_ushiftRight, Nat.add_comm] using hBit

/-- A register that is not zero never becomes zero by shifts alone. -/
theorem shifts_eq_zero_iff (hPoly : poly.msb = true) (count : ℕ) {register : BitVec width} :
    shifts poly count register = 0 ↔ register = 0 := by
  induction count generalizing register with
  | zero => rfl
  | succ count ih => rw [shifts, ih, shift_eq_zero_iff poly hPoly]

/-- Bytes fill the register from below. -/
theorem ofBytes_lt (bytes : List UInt8) :
    (ofBytes bytes : BitVec width).toNat < 2 ^ (8 * bytes.length) := by
  induction bytes with
  | nil => simp [ofBytes]
  | cons byte rest ih =>
      have hByte : (byte.toBitVec.setWidth width).toNat < 2 ^ (8 * (rest.length + 1)) := by
        rw [BitVec.toNat_setWidth]
        refine (Nat.mod_le _ _).trans_lt (byte.toBitVec.isLt.trans_le ?_)
        exact Nat.pow_le_pow_right Nat.two_pos (by omega)
      have hRest : ((ofBytes rest : BitVec width) <<< 8).toNat < 2 ^ (8 * (rest.length + 1)) := by
        rw [BitVec.toNat_shiftLeft, Nat.shiftLeft_eq]
        refine (Nat.mod_le _ _).trans_lt ?_
        rw [mul_add, pow_add]
        exact (Nat.mul_lt_mul_right (by decide)).mpr ih
      rw [ofBytes, BitVec.toNat_xor, List.length_cons]
      exact Nat.xor_lt_two_pow hRest hByte

/-- A register that fits into the bytes is found in them again. -/
theorem ofBytes_toBytes {count : ℕ} {register : BitVec width}
    (hRegister : register.toNat < 2 ^ (8 * count)) :
    ofBytes (toBytes count register) = register := by
  induction count generalizing register with
  | zero =>
      apply BitVec.eq_of_toNat_eq
      simpa [toBytes, ofBytes, eq_comm] using hRegister
  | succ count ih =>
      have hHigher : (register >>> 8).toNat < 2 ^ (8 * count) := by
        rw [BitVec.toNat_ushiftRight, Nat.shiftRight_eq_div_pow]
        apply Nat.div_lt_of_lt_mul
        rwa [← pow_add, Nat.add_comm, ← Nat.mul_succ]
      rw [toBytes, ofBytes, ih hHigher]
      apply BitVec.eq_of_getLsbD_eq
      intro i hWidth
      by_cases hLow : i < 8
      · simp [hLow, hWidth]
      · simp [hLow, hWidth, Nat.add_sub_cancel' (Nat.le_of_not_lt hLow)]

/-- Bytes are found again in a register that is wide enough for them. -/
theorem toBytes_ofBytes {bytes : List UInt8} (hRoom : 8 * bytes.length ≤ width) :
    toBytes bytes.length (ofBytes bytes : BitVec width) = bytes := by
  induction bytes with
  | nil => rfl
  | cons byte rest ih =>
      rw [List.length_cons] at hRoom
      have hLow : (ofBytes (byte :: rest) : BitVec width).setWidth 8 = byte.toBitVec := by
        apply BitVec.eq_of_getLsbD_eq
        intro i hByte
        have hWidth : i < width := by omega
        simp [ofBytes, hByte, hWidth]
      have hHigh : (ofBytes (byte :: rest) : BitVec width) >>> 8 = ofBytes rest := by
        apply BitVec.eq_of_getLsbD_eq
        intro i hIndex
        by_cases hWidth : 8 + i < width
        · simp [ofBytes, hWidth, BitVec.getLsbD_eq_getElem hIndex]
        · -- beyond the width there is nothing left of the other bytes either
          have hSmall : (ofBytes rest : BitVec width).toNat < 2 ^ i :=
            (ofBytes_lt rest).trans_le (Nat.pow_le_pow_right Nat.two_pos (by omega))
          have hNone : (ofBytes rest : BitVec width).getLsbD i = false :=
            Nat.testBit_lt_two_pow hSmall
          simp [ofBytes, hWidth, hNone]
      rw [List.length_cons, toBytes, hLow, hHigh, ih (by omega)]

/-- The bytes that bring a register to zero. There is one such string of each length that the
register can hold. -/
theorem feedAll_eq_zero_iff (hPoly : poly.msb = true) {bytes : List UInt8}
    (hRoom : 8 * bytes.length ≤ width) (register : BitVec width) :
    feedAll poly register bytes = 0 ↔ register = ofBytes bytes := by
  induction bytes generalizing register with
  | nil => rfl
  | cons byte rest ih =>
      rw [List.length_cons] at hRoom
      have hShifted : shifts poly 8 ((ofBytes rest : BitVec width) <<< 8) = ofBytes rest := by
        apply shifts_shiftLeft
        calc (ofBytes rest : BitVec width).toNat * 2 ^ 8
            < 2 ^ (8 * rest.length) * 2 ^ 8 :=
              (Nat.mul_lt_mul_right (by decide)).mpr (ofBytes_lt rest)
          _ = 2 ^ (8 * (rest.length + 1)) := by rw [← pow_add, mul_add]
          _ ≤ 2 ^ width := Nat.pow_le_pow_right Nat.two_pos hRoom
      rw [feedAll_cons, ih (by omega), feed, ← hShifted, ← BitVec.xor_eq_zero_iff, ← shifts_xor]
      refine (shifts_eq_zero_iff poly hPoly 8).trans ?_
      rw [BitVec.xor_assoc, BitVec.xor_comm (byte.toBitVec.setWidth width), ← ofBytes]
      exact BitVec.xor_eq_zero_iff

/-- For a whole register these bytes are the register itself, lowest byte first. -/
theorem feedAll_eq_zero_iff_toBytes (hPoly : poly.msb = true) {bytes : List UInt8}
    (hWidth : 8 * bytes.length = width) (register : BitVec width) :
    feedAll poly register bytes = 0 ↔ bytes = toBytes bytes.length register := by
  rw [feedAll_eq_zero_iff poly hPoly hWidth.le]
  constructor
  · rintro rfl
    rw [toBytes_ofBytes hWidth.le]
  · intro hBytes
    have hAll : register.toNat < 2 ^ (8 * bytes.length) := by
      rw [hWidth]
      exact register.isLt
    rw [hBytes, ofBytes_toBytes hAll]

end EverestCore.ShiftRegister
