import Mathlib.Data.List.TakeWhile
import EverestCore.Data.StreamReader
import EverestCore.Nanopb.Ostream

/-! The input streams of nanopb, and the decoders of numbers and strings. A stream is the bytes
that are left in it. -/
namespace EverestCore.Nanopb
open ShiftRegister StreamReader

abbrev PbReader (α : Type) := StreamReader UInt8 α

/-- A round of `pb_decode_varint`, with `bitpos` and `result`. -/
def varintRound (state : ℕ × BitVec 64) (byte : UInt8) :
    Option (Round (ℕ × BitVec 64) (BitVec 64)) :=
  let (bitpos, result) := state
  if 64 ≤ bitpos then none
  else
    let result := result ||| (byte &&& 0x7F).toBitVec.setWidth 64 <<< bitpos
    if byte &&& 0x80 ≠ 0 then some (.again (bitpos + 7, result)) else some (.done result)

/-- `pb_decode_varint`. -/
def pbDecodeVarint : PbReader (BitVec 64) := loop varintRound (0, 0)

/-- A round of the loop of `pb_decode_varint32_eof`, and the check behind it. -/
def varint32Round (state : ℕ × BitVec 32) (byte : UInt8) :
    Option (Round (ℕ × BitVec 32) (BitVec 32)) :=
  let (bitpos, result) := state
  let signExtension : UInt8 := if bitpos < 63 then 0xFF else 0x01
  let validExtension := byte &&& 0x7F = 0x00 ∨ (result >>> 31 ≠ 0 ∧ byte = signExtension)
  if 32 ≤ bitpos ∧ (64 ≤ bitpos ∨ ¬validExtension) then none
  else
    let result :=
      if 32 ≤ bitpos then result
      else result ||| (byte &&& 0x7F).toBitVec.setWidth 32 <<< bitpos
    if byte &&& 0x80 ≠ 0 then some (.again (bitpos + 7, result))
    else if bitpos + 7 = 35 ∧ byte &&& 0x70 ≠ 0 then none
    else some (.done result)

/-- `pb_decode_varint32`. -/
def pbDecodeVarint32 : PbReader (BitVec 32) := do
  let byte ← item
  if byte &&& 0x80 = 0 then pure (byte.toBitVec.setWidth 32)
  else loop varint32Round (7, (byte &&& 0x7F).toBitVec.setWidth 32)

/-- `pb_skip_varint`. -/
def pbSkipVarint : PbReader Unit :=
  loop (fun _ byte => if byte &&& 0x80 ≠ 0 then some (.again ()) else some (.done ())) ()

/-- `pb_read` without a buffer. -/
def pbSkip (count : ℕ) : PbReader Unit := do
  let _ ← items count
  pure ()

/-- `pb_skip_string`. -/
def pbSkipString : PbReader Unit := do
  let length ← pbDecodeVarint32
  pbSkip length.toNat

/-- `pb_decode_tag`. It is only called while bytes are left. -/
def pbDecodeTag : PbReader (PbWireType × ℕ) := do
  let temp ← pbDecodeVarint32
  pure (.ofCode (temp &&& 7).toNat, (temp >>> 3).toNat)

/-- `pb_skip_field`. -/
def pbSkipField (wireType : PbWireType) : PbReader Unit :=
  match wireType with
  | .varint => pbSkipVarint
  | .bit64 => pbSkip 8
  | .string => pbSkipString
  | .bit32 => pbSkip 4
  | .invalid => fail

/-- `pb_make_string_substream` and, when the substream has been decoded,
`pb_close_string_substream`, which skips what is left of it. -/
def pbStringSubstream : PbReader (List UInt8) := do
  let size ← pbDecodeVarint32
  items size.toNat

/-- `pb_decode_bool`. -/
def pbDecodeBool : PbReader Bool := do
  let value ← pbDecodeVarint32
  pure (value ≠ 0)

/-- `pb_decode_fixed32`. -/
def pbDecodeFixed32 : PbReader (BitVec 32) := do
  let byte0 ← item
  let byte1 ← item
  let byte2 ← item
  let byte3 ← item
  pure (byte0.toBitVec.setWidth 32 <<< 0 ||| byte1.toBitVec.setWidth 32 <<< 8 |||
    byte2.toBitVec.setWidth 32 <<< 16 ||| byte3.toBitVec.setWidth 32 <<< 24)

/-- `pb_dec_varint` for `uint32_t`. -/
def pbDecUvarint : PbReader (BitVec 32) := do
  let value ← pbDecodeVarint
  let clamped := value.setWidth 32
  ensure (clamped.setWidth 64 = value)
  pure clamped

/-- `pb_dec_varint` for `int32_t`. -/
def pbDecVarint : PbReader (BitVec 32) := do
  let value ← pbDecodeVarint
  let svalue : BitVec 64 := (value.setWidth 32).signExtend 64
  let clamped := svalue.setWidth 32
  ensure (clamped.signExtend 64 = svalue)
  pure clamped

/-- What a C string in an array of `char` can be. -/
@[ext]
structure CString (dataSize : ℕ) where
  bytes : List UInt8
  noNul : 0 ∉ bytes
  terminated : bytes.length < dataSize
deriving DecidableEq

/-- An array that these bytes and a NUL have been written to. -/
def CString.ofContent {dataSize : ℕ} (content : List UInt8)
    (hFits : content.length + 1 ≤ dataSize) : CString dataSize where
  bytes := content.takeWhile (· ≠ 0)
  noNul hNul := by simpa using List.mem_takeWhile_imp hNul
  terminated := (List.takeWhile_sublist _).length_le.trans_lt hFits

/-- `pb_dec_string`. A string that does not fit is refused before it is read. -/
def pbDecString (dataSize : ℕ) : PbReader (CString dataSize) := do
  let size ← pbDecodeVarint32
  ensure (size ≠ 0xFFFFFFFF)
  let content ← items size.toNat
  if hFits : content.length + 1 ≤ dataSize then pure (.ofContent content hFits) else fail

/-! The decoders are local. -/

/-- A varint ends with its last byte. -/
theorem local_decodeVarint : pbDecodeVarint.Local := local_loop _ _

theorem local_decodeVarint32 : pbDecodeVarint32.Local := by
  apply local_item.bind
  intro byte
  split
  · exact local_pure _
  · exact local_loop _ _

/-- Skipping takes a number of bytes that is known in advance. -/
theorem local_skip (count : ℕ) : (pbSkip count).Local :=
  (local_items count).bind fun _ => local_pure ()

/-- How much an unknown field takes is known from its wire type and its own bytes. -/
theorem local_skipField (wireType : PbWireType) : (pbSkipField wireType).Local := by
  cases wireType with
  | varint => exact local_loop _ _
  | bit64 => exact local_skip 8
  | string => exact local_decodeVarint32.bind fun length => local_skip length.toNat
  | bit32 => exact local_skip 4
  | invalid => exact local_fail

theorem local_decodeTag : pbDecodeTag.Local :=
  local_decodeVarint32.bind fun _ => local_pure _

/-- A submessage is limited by its length. -/
theorem local_stringSubstream : pbStringSubstream.Local :=
  local_decodeVarint32.bind fun size => local_items size.toNat

theorem local_decodeBool : pbDecodeBool.Local :=
  local_decodeVarint32.bind fun _ => local_pure _

theorem local_decodeFixed32 : pbDecodeFixed32.Local :=
  local_item.bind fun _ => local_item.bind fun _ => local_item.bind fun _ =>
    local_item.bind fun _ => local_pure _

theorem local_decUvarint : pbDecUvarint.Local :=
  local_decodeVarint.bind fun _ => (local_ensure _).bind fun _ => local_pure _

theorem local_decVarint : pbDecVarint.Local :=
  local_decodeVarint.bind fun _ => (local_ensure _).bind fun _ => local_pure _

/-- A string that is too long for its array is refused after its bytes were taken. -/
theorem local_decString (dataSize : ℕ) : (pbDecString dataSize).Local := by
  apply local_decodeVarint32.bind
  intro size
  apply (local_ensure _).bind
  intro _
  apply (local_items _).bind
  intro content
  split
  · exact local_pure _
  · exact local_fail

/-- A tag takes at least one byte. -/
theorem decodeTag_shorter {stream rest : List UInt8} {tag : PbWireType × ℕ}
    (h : pbDecodeTag.run stream = some (tag, rest)) : rest.length < stream.length := by
  obtain ⟨front, rfl, hReads⟩ := local_decodeTag stream tag rest h
  cases front with
  | nil => cases hReads []
  | cons byte others =>
      rw [List.length_append, List.length_cons]
      omega

/-! What the encoders write is read back. -/

/-- The groups of seven bits do not overlap, so that putting them together is an addition. -/
theorem toNat_or_shiftLeft {width bitpos : ℕ} {result part : BitVec width}
    (hResult : result.toNat < 2 ^ bitpos) (hPart : part.toNat * 2 ^ bitpos < 2 ^ width) :
    (result ||| part <<< bitpos).toNat = result.toNat + part.toNat * 2 ^ bitpos := by
  rw [BitVec.toNat_or, BitVec.toNat_shiftLeft, Nat.shiftLeft_eq, Nat.mod_eq_of_lt hPart,
    Nat.or_comm, Nat.mul_comm, ← Nat.two_pow_add_eq_or_of_lt hResult, Nat.add_comm]

/-- The seven bits of a byte in a wider word. -/
theorem toNat_low (byte : UInt8) {width : ℕ} (hWidth : 8 ≤ width) :
    ((byte &&& 0x7F).toBitVec.setWidth width).toNat = byte.toNat % 128 := by
  have hLow : (byte &&& 0x7F).toBitVec.toNat = byte.toNat % 128 := Varint.toNat_and_low byte
  rw [BitVec.toNat_setWidth, hLow]
  apply Nat.mod_eq_of_lt
  calc byte.toNat % 128 < 2 ^ 8 := by omega
    _ ≤ 2 ^ width := Nat.pow_le_pow_right (by decide) hWidth

/-- The last byte of a number. -/
theorem low_last {n : ℕ} (hSmall : n < 128) {width : ℕ} (hWidth : 8 ≤ width) :
    UInt8.ofNat n &&& 0x80 = 0 ∧ ((UInt8.ofNat n &&& 0x7F).toBitVec.setWidth width).toNat = n := by
  have hByte : (UInt8.ofNat n).toNat = n := Varint.toNat_ofNat_of_lt (by omega)
  rw [Varint.and_high_eq_zero_iff, toNat_low _ hWidth, hByte]
  exact ⟨hSmall, Nat.mod_eq_of_lt hSmall⟩

/-- A byte that is not the last one. -/
theorem low_more (n : ℕ) {width : ℕ} (hWidth : 8 ≤ width) :
    UInt8.ofNat (n % 128 + 128) &&& 0x80 ≠ 0 ∧
      ((UInt8.ofNat (n % 128 + 128) &&& 0x7F).toBitVec.setWidth width).toNat = n % 128 := by
  have hByte : (UInt8.ofNat (n % 128 + 128)).toNat = n % 128 + 128 :=
    Varint.toNat_ofNat_of_lt (by omega)
  rw [Ne, Varint.and_high_eq_zero_iff, toNat_low _ hWidth, hByte]
  omega

section Accumulate

variable {width : ℕ} (round : ℕ × BitVec width → UInt8 → Option (Round (ℕ × BitVec width)
  (BitVec width)))

/-- A loop that puts the bits of each byte on top of those it has, as long as there is room. -/
def Accumulates : Prop :=
  ∀ bitpos (result : BitVec width) (byte : UInt8), bitpos < width →
    (byte.toNat % 128) * 2 ^ bitpos < 2 ^ width →
      round (bitpos, result) byte =
        let result := result ||| (byte &&& 0x7F).toBitVec.setWidth width <<< bitpos
        if byte &&& 0x80 ≠ 0 then some (.again (bitpos + 7, result)) else some (.done result)

variable {round}

/-- The loop over the bytes of a varint. The invariant is that all bits below the position are
there. -/
theorem reads_loop_bytes (hRound : Accumulates round) (hWidth : 8 ≤ width) {n bitpos : ℕ}
    {result : BitVec width} (hPos : bitpos < width) (hResult : result.toNat < 2 ^ bitpos)
    (hRoom : result.toNat + n * 2 ^ bitpos < 2 ^ width) :
    (loop round (bitpos, result)).Reads (Varint.bytes n)
      (.ofNat width (result.toNat + n * 2 ^ bitpos)) := by
  induction n using Nat.strong_induction_on generalizing bitpos result with
  | _ n ih =>
      rcases Nat.lt_or_ge n 128 with hSmall | hLarge
      · obtain ⟨hLast, hLow⟩ := low_last hSmall hWidth
        have hByte : (UInt8.ofNat n).toNat = n := Varint.toNat_ofNat_of_lt (by omega)
        rw [Varint.bytes_of_lt hSmall]
        apply reads_loop_done
        rw [hRound bitpos result _ hPos (by rw [hByte, Nat.mod_eq_of_lt hSmall]; omega)]
        dsimp only
        rw [if_neg (not_not.mpr hLast)]
        congr 2
        apply BitVec.eq_of_toNat_eq
        rw [toNat_or_shiftLeft hResult (by rw [hLow]; omega), hLow, BitVec.toNat_ofNat,
          Nat.mod_eq_of_lt hRoom]
      · obtain ⟨hMore, hLow⟩ := low_more n hWidth
        have hByte : (UInt8.ofNat (n % 128 + 128)).toNat = n % 128 + 128 :=
          Varint.toNat_ofNat_of_lt (by omega)
        have hSplit : n * 2 ^ bitpos = n % 128 * 2 ^ bitpos + n / 128 * 2 ^ (bitpos + 7) := by
          conv_lhs => rw [← Nat.mod_add_div n 128]
          ring
        have hPow : 2 ^ (bitpos + 7) = 128 * 2 ^ bitpos := by ring
        have hMiddle : n % 128 * 2 ^ bitpos ≤ 127 * 2 ^ bitpos :=
          Nat.mul_le_mul_right _ (by omega)
        have hRest : 1 * 2 ^ (bitpos + 7) ≤ n / 128 * 2 ^ (bitpos + 7) :=
          Nat.mul_le_mul_right _ (by omega)
        have hNext : bitpos + 7 < width := by
          rw [← Nat.pow_lt_pow_iff_right (by decide : 1 < 2)]
          omega
        have hFits : ((UInt8.ofNat (n % 128 + 128) &&& 0x7F).toBitVec.setWidth width).toNat *
            2 ^ bitpos < 2 ^ width := by
          rw [hLow]
          omega
        have hSum := toNat_or_shiftLeft hResult hFits
        rw [hLow] at hSum
        have hTail := ih (n / 128) (by omega) hNext
          (hSum.trans_lt (by omega)) (by rw [hSum]; omega)
        rw [hSum, Nat.add_assoc, ← hSplit] at hTail
        rw [Varint.bytes_of_le hLarge]
        apply reads_loop_again _ hTail
        rw [hRound bitpos result _ hPos (by
          rw [hByte, Nat.add_mod_right, Nat.mod_mod]
          omega)]
        exact if_pos hMore

end Accumulate

/-- The full width of ten bytes. -/
theorem reads_decodeVarint (value : BitVec 64) :
    pbDecodeVarint.Reads (Varint.bytes value.toNat) value := by
  have hRound : Accumulates varintRound := fun bitpos result byte hPos _ =>
    if_neg (Nat.not_le.mpr hPos)
  have hRoom : (0 : BitVec 64).toNat + value.toNat * 2 ^ 0 < 2 ^ 64 := by
    simpa using value.isLt
  have hReads := reads_loop_bytes hRound (by decide) (by decide) (by decide) hRoom
  have hWhole : (0 : BitVec 64).toNat + value.toNat * 2 ^ 0 = value.toNat := by simp
  rw [hWhole, BitVec.ofNat_toNat, BitVec.setWidth_eq] at hReads
  exact hReads

/-- The last bits do not go beyond the number. -/
theorem accumulates_varint32Round : Accumulates varint32Round := by
  intro bitpos result byte hPos hRoom
  rw [varint32Round]
  dsimp only
  rw [if_neg fun h => absurd h.1 (Nat.not_le.mpr hPos), if_neg (Nat.not_le.mpr hPos)]
  have hFits : ¬(bitpos + 7 = 35 ∧ byte &&& 0x70 ≠ 0) := by
    rintro ⟨hLast, hHigh⟩
    obtain rfl : bitpos = 28 := by omega
    apply hHigh
    have hAll : ∀ n < 256, n % 128 < 16 → UInt8.ofNat n &&& 0x70 = 0 := by decide +kernel
    have hZero := hAll byte.toNat byte.toNat_lt (by omega)
    rwa [UInt8.ofNat_toNat] at hZero
  rw [if_neg hFits]

/-- The narrow decoder, which is used for lengths and for most numbers. -/
theorem reads_decodeVarint32 {n : ℕ} (hSmall : n < 2 ^ 32) :
    pbDecodeVarint32.Reads (Varint.bytes n) (.ofNat 32 n) := by
  rcases Nat.lt_or_ge n 128 with hShort | hLong
  · obtain ⟨hLast, -⟩ := low_last hShort (by decide : 8 ≤ 32)
    rw [Varint.bytes_of_lt hShort]
    apply (reads_item _).bind_pure
    rw [if_pos hLast]
    have hByte : (UInt8.ofNat n).toBitVec.setWidth 32 = BitVec.ofNat 32 n := by
      apply BitVec.eq_of_toNat_eq
      rw [BitVec.toNat_setWidth, BitVec.toNat_ofNat]
      congr 1
      exact Varint.toNat_ofNat_of_lt (by omega)
    rw [hByte]
    exact reads_pure _
  · obtain ⟨hMore, hLow⟩ := low_more n (by decide : 8 ≤ 32)
    rw [Varint.bytes_of_le hLong]
    have hRoom : n % 128 + n / 128 * 2 ^ 7 < 2 ^ 32 := by omega
    have hRest := reads_loop_bytes accumulates_varint32Round (by decide) (by decide : 7 < 32)
      (by rw [hLow]; omega) (by rw [hLow]; exact hRoom)
    have hWhole : n % 128 + n / 128 * 2 ^ 7 = n := by omega
    rw [hLow, hWhole] at hRest
    apply Reads.bind (reads_item _)
    rw [if_neg hMore]
    exact hRest

/-- A tag is split into the number of the field and the wire type. -/
theorem reads_decodeTag {wireType : PbWireType} {fieldNumber : ℕ} (hTag : fieldNumber < 2 ^ 29) :
    pbDecodeTag.Reads (Varint.bytes (8 * fieldNumber + wireType.code)) (wireType, fieldNumber) := by
  have hCode := wireType.code_lt
  have hNumber : (BitVec.ofNat 32 (8 * fieldNumber + wireType.code)).toNat =
      8 * fieldNumber + wireType.code := by
    rw [BitVec.toNat_ofNat]
    exact Nat.mod_eq_of_lt (by omega)
  have hType : (BitVec.ofNat 32 (8 * fieldNumber + wireType.code) &&& 7).toNat = wireType.code := by
    rw [BitVec.toNat_and, hNumber]
    exact (Nat.and_two_pow_sub_one_eq_mod _ 3).trans (by omega)
  have hField : (BitVec.ofNat 32 (8 * fieldNumber + wireType.code) >>> 3).toNat = fieldNumber := by
    rw [BitVec.toNat_ushiftRight, hNumber, Nat.shiftRight_eq_div_pow]
    omega
  apply (reads_decodeVarint32 (by omega)).bind_pure
  rw [hType, hField, PbWireType.ofCode_code]
  exact reads_pure _

/-- A length and as many bytes. -/
theorem reads_stringSubstream {bytes : List UInt8} (hLength : bytes.length < 2 ^ 32) :
    pbStringSubstream.Reads (Varint.bytes bytes.length ++ bytes) bytes := by
  have hCount : (BitVec.ofNat 32 bytes.length).toNat = bytes.length := by
    rw [BitVec.toNat_ofNat]
    exact Nat.mod_eq_of_lt hLength
  apply (reads_decodeVarint32 hLength).bind
  rw [hCount]
  exact reads_items bytes

/-- What is not zero is true, and the encoder writes one. -/
theorem reads_decodeBool (value : Bool) :
    pbDecodeBool.Reads (Varint.bytes (if value then 1 else 0)) value := by
  cases value with
  | false => exact (reads_decodeVarint32 (by decide)).bind_pure (reads_pure _)
  | true => exact (reads_decodeVarint32 (by decide)).bind_pure (reads_pure _)

/-- One of the bytes of a number. -/
theorem toNat_byteOf (val : BitVec 32) (shift : ℕ) :
    ((UInt8.ofBitVec ((val >>> shift).setWidth 8)).toBitVec.setWidth 32).toNat =
      val.toNat / 2 ^ shift % 256 := by
  rw [BitVec.toNat_setWidth, UInt8.toBitVec_ofBitVec, BitVec.toNat_setWidth,
    BitVec.toNat_ushiftRight, Nat.shiftRight_eq_div_pow]
  omega

/-- Four bytes, the lowest first. -/
theorem reads_decodeFixed32 (val : BitVec 32) : pbDecodeFixed32.Reads (toBytes 4 val) val := by
  have hBytes : toBytes 4 val = [.ofBitVec ((val >>> 0).setWidth 8)] ++
      ([.ofBitVec ((val >>> 8).setWidth 8)] ++ ([.ofBitVec ((val >>> 16).setWidth 8)] ++
        [.ofBitVec ((val >>> 24).setWidth 8)])) := by
    simp only [toBytes, ← BitVec.shiftRight_add, BitVec.ushiftRight_zero]
    rfl
  rw [hBytes]
  apply (reads_item _).bind
  apply (reads_item _).bind
  apply (reads_item _).bind
  apply (reads_item _).bind_pure
  have hVal := val.isLt
  have h0 := toNat_byteOf val 0
  have h8 := toNat_byteOf val 8
  have h16 := toNat_byteOf val 16
  have h24 := toNat_byteOf val 24
  generalize (UInt8.ofBitVec ((val >>> 0).setWidth 8)).toBitVec.setWidth 32 = byte0 at h0 ⊢
  generalize (UInt8.ofBitVec ((val >>> 8).setWidth 8)).toBitVec.setWidth 32 = byte1 at h8 ⊢
  generalize (UInt8.ofBitVec ((val >>> 16).setWidth 8)).toBitVec.setWidth 32 = byte2 at h16 ⊢
  generalize (UInt8.ofBitVec ((val >>> 24).setWidth 8)).toBitVec.setWidth 32 = byte3 at h24 ⊢
  have hTwo : (byte0 ||| byte1 <<< 8).toNat = val.toNat % 2 ^ 16 := by
    rw [toNat_or_shiftLeft (by omega) (by omega)]
    omega
  have hThree : (byte0 ||| byte1 <<< 8 ||| byte2 <<< 16).toNat = val.toNat % 2 ^ 24 := by
    rw [toNat_or_shiftLeft (by omega) (by omega)]
    omega
  have hFour : (byte0 ||| byte1 <<< 8 ||| byte2 <<< 16 ||| byte3 <<< 24) = val := by
    apply BitVec.eq_of_toNat_eq
    rw [toNat_or_shiftLeft (by omega) (by omega)]
    omega
  rw [BitVec.shiftLeft_zero, hFour]
  exact reads_pure val

/-- An unsigned number of 32 bits. -/
theorem reads_decUvarint (value : BitVec 32) :
    pbDecUvarint.Reads (Varint.bytes value.toNat) value := by
  have hWide : (value.setWidth 64).toNat = value.toNat := by
    rw [BitVec.toNat_setWidth]
    exact Nat.mod_eq_of_lt (by omega)
  have hNarrow : (value.setWidth 64).setWidth 32 = value := by
    rw [BitVec.setWidth_setWidth_of_le _ (by decide), BitVec.setWidth_eq]
  have hReads := reads_decodeVarint (value.setWidth 64)
  rw [hWide] at hReads
  apply hReads.bind_pure
  rw [hNarrow]
  exact (reads_ensure rfl).bind_nil (reads_pure value)

/-- A signed number is extended to 64 bits before it is written, and so it is read. -/
theorem reads_decVarint (value : BitVec 32) :
    pbDecVarint.Reads (Varint.bytes (value.signExtend 64).toNat) value := by
  have hNarrow : (value.signExtend 64).setWidth 32 = value := by
    apply BitVec.eq_of_getLsbD_eq
    intro i hi
    have hLow : i < 64 := by omega
    simp only [BitVec.getLsbD_setWidth, BitVec.getLsbD_signExtend, hi, hLow, decide_true,
      Bool.true_and, if_true]
  apply (reads_decodeVarint (value.signExtend 64)).bind_pure
  dsimp only
  rw [hNarrow, hNarrow]
  exact (reads_ensure rfl).bind_nil (reads_pure value)

/-- A string that has fitted into its array fits again. -/
theorem reads_decString {dataSize : ℕ} (hSize : dataSize < 2 ^ 32) (s : CString dataSize) :
    (pbDecString dataSize).Reads (Varint.bytes s.bytes.length ++ s.bytes) s := by
  have hShort := s.terminated
  have hCount : (BitVec.ofNat 32 s.bytes.length).toNat = s.bytes.length := by
    rw [BitVec.toNat_ofNat]
    exact Nat.mod_eq_of_lt (by omega)
  have hNotMax : BitVec.ofNat 32 s.bytes.length ≠ 0xFFFFFFFF := by
    intro hMax
    have hNat := congrArg BitVec.toNat hMax
    rw [hCount] at hNat
    have : (0xFFFFFFFF : BitVec 32).toNat = 2 ^ 32 - 1 := rfl
    omega
  apply (reads_decodeVarint32 (by omega)).bind
  apply (reads_ensure hNotMax).bind_nil
  rw [hCount]
  apply (reads_items s.bytes).bind_pure
  have hSame : CString.ofContent s.bytes hShort = s := by
    have hAll : s.bytes.takeWhile (· ≠ 0) = s.bytes := by
      rw [List.takeWhile_eq_self_iff]
      intro byte hByte
      exact decide_eq_true fun hNul => s.noNul (hNul ▸ hByte)
    exact CString.ext hAll
  have hFits : s.bytes.length + 1 ≤ dataSize := hShort
  rw [dif_pos hFits, hSame]
  exact reads_pure s

end EverestCore.Nanopb
