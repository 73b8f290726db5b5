import EverestCore.Data.ShiftRegister
import EverestCore.Serial.CobsRoundTrip

/-! The checksum of the packets of `evSerial`. A packet is accepted if the checksum over all of
it, its own checksum included, is zero. -/
namespace EverestCore.Serial
open ShiftRegister

/-- One round of the inner loop of `crc32`. -/
def crcBit (crc : BitVec 32) : BitVec 32 :=
  let msk := -(crc &&& 1#32)
  (crc >>> 1) ^^^ (0xEDB88320#32 &&& msk)

def crcBits : ℕ → BitVec 32 → BitVec 32
  | 0, crc => crc
  | count + 1, crc => crcBits count (crcBit crc)

def crcByte (b : UInt8) (crc : BitVec 32) : BitVec 32 := crcBits 8 (crc ^^^ b.toBitVec.setWidth 32)

/-- `evSerial::crc32`. -/
def crc32 (buf : ℕ → UInt8) (len : ℤ) : BitVec 32 :=
  (List.range len.toNat).foldl (fun crc i => crcByte (buf i) crc) 0xFFFFFFFF#32

/-- `evSerial::handlePacket`, up to the decoding of the message: the length that is handed on,
if the packet is accepted. -/
def handlePacket (buf : ℕ → UInt8) (len : ℤ) : Option ℤ :=
  if crc32 buf len ≠ 0 then none else some (len - 4)

/-- A buffer that begins with these bytes. -/
def bufferOf (bytes : List UInt8) : ℕ → UInt8 := fun i => bytes.getD i 0

/-- The bytes of a checksum in the order in which `linkWrite` appends them. -/
def crcTrailer : ℕ → BitVec 32 → List UInt8
  | 0, _ => []
  | count + 1, crc => (.ofBitVec (crc.setWidth 8) &&& 0xFF) :: crcTrailer count (crc >>> 8)

/-- The packet of `linkWrite` for an encoded message. -/
def txPacket (payload : List UInt8) : List UInt8 :=
  payload ++ crcTrailer 4 (crc32 (bufferOf payload) payload.length)

/-- The number of bytes that `pb_encode` may write. -/
def txPayloadSize : ℕ := 1024 - 4

/-- `evSerial::linkWrite`, with the bytes that it writes. -/
def linkWrite {Message : Type} (pbEncode : Message → Option (List UInt8)) (m : Message) :
    Option (List (Option UInt8)) :=
  (pbEncode m).map fun payload =>
    let (encodeBuf, length) := cobsEncode (txPacket payload)
    encodeBuf.content length

/-- The polynomial, as the register shifts it in. -/
def crcPoly : BitVec 32 := 0xEDB88320#32

/-- The highest coefficient of the polynomial is set. -/
theorem crcPoly_msb : crcPoly.msb = true := by decide

/-- The mask is all ones exactly if a one falls out. -/
theorem crcBit_eq (crc : BitVec 32) : crcBit crc = shift crcPoly crc := by
  rw [crcBit, shift, BitVec.and_one_eq_setWidth_ofBool_getLsbD]
  cases crc.getLsbD 0 with
  | false => simp
  | true => rfl

/-- The bits of a byte are shifted as `shifts` does. -/
theorem crcBits_eq (count : ℕ) (crc : BitVec 32) :
    crcBits count crc = shifts crcPoly count crc := by
  induction count generalizing crc with
  | zero => rfl
  | succ count ih => rw [crcBits, shifts, crcBit_eq, ih]

/-- The bytes that the checksum covers. -/
def covered (buf : ℕ → UInt8) (len : ℤ) : List UInt8 := (List.range len.toNat).map buf

/-- The checksum feeds the covered bytes into the register of the polynomial, which starts with
ones. -/
theorem crc32_eq (buf : ℕ → UInt8) (len : ℤ) :
    crc32 buf len = feedAll crcPoly 0xFFFFFFFF#32 (covered buf len) := by
  rw [crc32, feedAll, covered, List.foldl_map]
  congr 1
  funext crc i
  exact crcBits_eq 8 _

/-- The checksum of less than four bytes is not zero. -/
theorem crc32_short {buf : ℕ → UInt8} {len : ℤ} (hShort : len < 4) : crc32 buf len ≠ 0 := by
  have hLength : (covered buf len).length ≤ 3 := by
    rw [covered, List.length_map, List.length_range]
    omega
  rw [crc32_eq, Ne, feedAll_eq_zero_iff crcPoly crcPoly_msb (by omega)]
  intro hBytes
  have hLess : (ofBytes (covered buf len) : BitVec 32).toNat < 2 ^ (8 * (covered buf len).length) :=
    ofBytes_lt (covered buf len)
  rw [← hBytes] at hLess
  have hMore : 2 ^ (8 * (covered buf len).length) ≤ 2 ^ 24 :=
    Nat.pow_le_pow_right Nat.two_pos (by omega)
  exact absurd (hLess.trans_le hMore) (by decide)

/-- The last bytes of a packet. -/
def lastBytes (buf : ℕ → UInt8) (len : ℤ) : List UInt8 :=
  (List.range 4).map fun i => buf ((len - 4).toNat + i)

/-- A buffer is accepted if its last four bytes are the checksum of those before. -/
theorem crc32_long {buf : ℕ → UInt8} {len : ℤ} (hLong : 4 ≤ len) :
    crc32 buf len = 0 ↔ lastBytes buf len = toBytes 4 (crc32 buf (len - 4)) := by
  have hLength : len.toNat = (len - 4).toNat + 4 := by omega
  have hCovered : covered buf len = covered buf (len - 4) ++ lastBytes buf len := by
    rw [covered, covered, lastBytes, hLength, List.range_add, List.map_append, List.map_map]
    rfl
  rw [crc32_eq, hCovered, feedAll_append, ← crc32_eq,
    feedAll_eq_zero_iff_toBytes crcPoly crcPoly_msb (by simp [lastBytes])]
  simp [lastBytes]

/-- The length that is handed on is never negative. -/
theorem handlePacket_nonneg {buf : ℕ → UInt8} {len handed : ℤ}
    (hHanded : handlePacket buf len = some handed) : 0 ≤ handed := by
  unfold handlePacket at hHanded
  split_ifs at hHanded with hCrc
  have hLong : 4 ≤ len := by
    by_contra hShort
    exact hCrc (crc32_short (Int.not_le.mp hShort))
  have hEq := Option.some.inj hHanded
  omega

/-- The bytes of the checksum are sent with the lowest one first. -/
theorem crcTrailer_eq (count : ℕ) (crc : BitVec 32) : crcTrailer count crc = toBytes count crc := by
  induction count generalizing crc with
  | zero => rfl
  | succ count ih =>
      have hMask (byte : UInt8) : byte &&& 0xFF = byte :=
        UInt8.eq_of_toBitVec_eq BitVec.and_allOnes
      rw [crcTrailer, toBytes, hMask, ih]

/-- A packet is four bytes longer than its payload. -/
theorem length_txPacket (payload : List UInt8) :
    (txPacket payload).length = payload.length + 4 := by
  rw [txPacket, List.length_append, crcTrailer_eq, length_toBytes]

/-- A length covers the payload of that length at the start of a buffer. -/
theorem covered_bufferOf {payload rest : List UInt8} :
    covered (bufferOf (payload ++ rest)) payload.length = payload := by
  apply List.ext_getElem
  · simp [covered]
  · intro i hLeft hRight
    simp [covered, bufferOf, List.getElem?_append_left hRight, hRight]

/-- The last four bytes of a buffer. -/
theorem lastBytes_bufferOf {payload last : List UInt8} (hLast : last.length = 4) :
    lastBytes (bufferOf (payload ++ last)) (payload ++ last).length = last := by
  have hStart : (((payload ++ last).length : ℤ) - 4).toNat = payload.length := by
    rw [List.length_append, hLast]
    omega
  apply List.ext_getElem
  · simp [lastBytes, hLast]
  · intro i hLeft hRight
    simp [lastBytes, bufferOf, hLast, List.getElem?_append_right, List.getElem?_eq_getElem hRight]

/-- The checksum of `linkWrite` is the one that `handlePacket` accepts. -/
theorem handlePacket_txPacket (payload : List UInt8) :
    handlePacket (bufferOf (txPacket payload)) (txPacket payload).length =
      some (payload.length : ℤ) := by
  have hTrailer : (crcTrailer 4 (crc32 (bufferOf payload) payload.length)).length = 4 := by
    rw [crcTrailer_eq, length_toBytes]
  have hLength : ((txPacket payload).length : ℤ) = payload.length + 4 := by
    rw [length_txPacket]
    rfl
  have hSame : crc32 (bufferOf (txPacket payload)) payload.length =
      crc32 (bufferOf payload) payload.length := by
    have hAlone := @covered_bufferOf payload []
    rw [List.append_nil] at hAlone
    rw [crc32_eq, crc32_eq, txPacket, covered_bufferOf, hAlone]
  have hZero : crc32 (bufferOf (txPacket payload)) (txPacket payload).length = 0 := by
    rw [crc32_long (by omega), hLength, add_sub_cancel_right, hSame, ← crcTrailer_eq, ← hLength]
    exact lastBytes_bufferOf hTrailer
  rw [handlePacket, if_neg (not_not.mpr hZero), hLength, add_sub_cancel_right]

/-- A packet is accepted exactly if it ends in its own checksum. So no length that is handed on
is negative, and the packets of `linkWrite` are accepted. -/
theorem handlePacket_exact (buf : ℕ → UInt8) (len : ℤ) :
    (crc32 buf len = 0 ↔ 4 ≤ len ∧ lastBytes buf len = toBytes 4 (crc32 buf (len - 4))) ∧
      (∀ handed, handlePacket buf len = some handed → 0 ≤ handed) ∧
      ∀ payload, handlePacket (bufferOf (txPacket payload)) (txPacket payload).length =
        some (payload.length : ℤ) := by
  refine ⟨?_, fun handed => handlePacket_nonneg, handlePacket_txPacket⟩
  by_cases hLong : 4 ≤ len
  · rw [crc32_long hLong]
    exact (and_iff_right hLong).symm
  · exact iff_of_false (crc32_short (Int.not_le.mp hLong)) fun hBoth => hLong hBoth.1

end EverestCore.Serial
