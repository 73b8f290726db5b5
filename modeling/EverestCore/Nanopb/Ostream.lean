import EverestCore.Data.ShiftRegister
import EverestCore.Data.Varint

/-! The output streams of nanopb, and the encoders of numbers and strings. -/
namespace EverestCore.Nanopb
open ShiftRegister

/-- `pb_ostream_t`. A stream without a callback only counts. -/
structure PbOstream where
  callback : Bool
  maxSize : ℕ
  bytesWritten : ℕ
  written : List UInt8

/-- `PB_OSTREAM_SIZING`. -/
def pbOstreamSizing : PbOstream := ⟨false, 0, 0, []⟩

/-- `pb_ostream_from_buffer`. -/
def pbOstreamFromBuffer (bufsize : ℕ) : PbOstream := ⟨true, bufsize, 0, []⟩

/-- `pb_write`. -/
def pbWrite (buf : List UInt8) (stream : PbOstream) : Option PbOstream :=
  if 0 < buf.length ∧ stream.callback then
    if stream.maxSize < stream.bytesWritten + buf.length then none
    else some { stream with
      bytesWritten := stream.bytesWritten + buf.length, written := stream.written ++ buf }
  else some { stream with bytesWritten := stream.bytesWritten + buf.length }

/-- The loop of `pb_encode_varint_32` over `low`: the bytes that are stored, and the one that is
not stored yet. -/
def varintLow : ℕ → ℕ → ℕ → UInt8 → List UInt8 × UInt8
  | 0, _, _, byte => ([], byte)
  | rounds + 1, low, high, byte =>
      if low ≠ 0 ∨ high ≠ 0 then
        let rest := varintLow rounds (low >>> 7) high (.ofNat (low &&& 0x7F))
        ((byte ||| 0x80) :: rest.1, rest.2)
      else ([], byte)

/-- The loop over `high`, and the last byte. -/
def varintHigh : ℕ → ℕ → UInt8 → List UInt8
  | 0, _, byte => [byte]
  | rounds + 1, high, byte =>
      if high ≠ 0 then
        (byte ||| 0x80) :: varintHigh rounds (high >>> 7) (.ofNat (high &&& 0x7F))
      else [byte]

/-- `pb_encode_varint_32`. The second loop ends, since what is left of `high` has 29 bits. -/
def pbEncodeVarint32 (low high : ℕ) : PbOstream → Option PbOstream :=
  let start := varintLow 4 (low >>> 7) high (.ofNat (low &&& 0x7F))
  if high ≠ 0 then
    pbWrite (start.1 ++ varintHigh 5 (high >>> 3) (start.2 ||| .ofNat ((high &&& 0x07) <<< 4)))
  else pbWrite (start.1 ++ [start.2])

/-- `pb_encode_varint`. -/
def pbEncodeVarint (value : BitVec 64) : PbOstream → Option PbOstream :=
  if value ≤ 0x7F then pbWrite [.ofBitVec (value.setWidth 8)]
  else pbEncodeVarint32 (value.setWidth 32).toNat ((value >>> 32).setWidth 32).toNat

/-- `pb_encode_fixed32`. -/
def pbEncodeFixed32 (val : BitVec 32) : PbOstream → Option PbOstream :=
  pbWrite [.ofBitVec ((val &&& 0xFF).setWidth 8), .ofBitVec (((val >>> 8) &&& 0xFF).setWidth 8),
    .ofBitVec (((val >>> 16) &&& 0xFF).setWidth 8), .ofBitVec (((val >>> 24) &&& 0xFF).setWidth 8)]

/-- `pb_wire_type_t`. The other values that a tag can have are `invalid`. -/
inductive PbWireType where
  | varint
  | bit64
  | string
  | bit32
  | invalid
deriving DecidableEq

namespace PbWireType

def code : PbWireType → ℕ
  | varint => 0
  | bit64 => 1
  | string => 2
  | bit32 => 5
  | invalid => 7

def ofCode (code : ℕ) : PbWireType :=
  match code with
  | 0 => varint
  | 1 => bit64
  | 2 => string
  | 5 => bit32
  | _ => invalid

/-- The code of a wire type is what the decoder tells it by. -/
theorem ofCode_code (wireType : PbWireType) : ofCode wireType.code = wireType := by
  cases wireType <;> rfl

/-- A wire type leaves the other bits of a tag to the number of the field. -/
theorem code_lt (wireType : PbWireType) : wireType.code < 8 := by
  cases wireType <;> decide

end PbWireType

/-- `pb_encode_tag`. -/
def pbEncodeTag (wireType : PbWireType) (fieldNumber : ℕ) : PbOstream → Option PbOstream :=
  pbEncodeVarint (BitVec.ofNat 64 fieldNumber <<< 3 ||| BitVec.ofNat 64 wireType.code)

/-- `pb_encode_string`. -/
def pbEncodeString (buffer : List UInt8) (stream : PbOstream) : Option PbOstream :=
  (pbEncodeVarint (.ofNat 64 buffer.length) stream).bind (pbWrite buffer)

/-- The second half of `pb_encode_submessage`: the message goes to a stream of its size. -/
def encodeSized (encode : PbOstream → Option PbOstream) (size : ℕ) (stream : PbOstream) :
    Option PbOstream :=
  if !stream.callback then
    -- `pb_write` without a buffer
    some { stream with bytesWritten := stream.bytesWritten + size }
  else if stream.maxSize < stream.bytesWritten + size then none
  else
    (encode ⟨stream.callback, size, 0, stream.written⟩).bind fun substream =>
      if substream.bytesWritten ≠ size then none
      else some { stream with
        bytesWritten := stream.bytesWritten + substream.bytesWritten
        written := substream.written }

/-- `pb_encode_submessage`, with what encodes the message. -/
def pbEncodeSubmessage (encode : PbOstream → Option PbOstream) (stream : PbOstream) :
    Option PbOstream :=
  (encode pbOstreamSizing).bind fun sized =>
    (pbEncodeVarint (.ofNat 64 sized.bytesWritten) stream).bind
      (encodeSized encode sized.bytesWritten)

/-- An encoder that writes these bytes, whatever stream it gets. -/
def Writes (encode : PbOstream → Option PbOstream) (bytes : List UInt8) : Prop :=
  ∀ stream, encode stream = pbWrite bytes stream

/-- The only primitive that writes. -/
theorem writes_pbWrite (buf : List UInt8) : Writes (pbWrite buf) buf := fun _ => rfl

/-- Nothing is written for a value that is left out. -/
theorem writes_nothing : Writes some [] := by
  intro stream
  rw [pbWrite, if_neg fun h => absurd h.1 (Nat.lt_irrefl 0)]
  rfl

/-- What has been written, with more behind it. -/
def PbOstream.extend (stream : PbOstream) (bytes : List UInt8) : PbOstream :=
  { stream with
    bytesWritten := stream.bytesWritten + bytes.length, written := stream.written ++ bytes }

/-- With a buffer, only the room that is left is in question. -/
theorem pbWrite_of_callback {bytes : List UInt8} {stream : PbOstream}
    (hCallback : stream.callback) : pbWrite bytes stream =
      if bytes = [] ∨ stream.bytesWritten + bytes.length ≤ stream.maxSize then
        some (stream.extend bytes)
      else none := by
  rcases bytes with _ | ⟨byte, rest⟩
  · rw [writes_nothing, if_pos (Or.inl rfl)]
    simp [PbOstream.extend]
  · rw [pbWrite, if_pos ⟨Nat.succ_pos _, hCallback⟩]
    by_cases hFits : stream.bytesWritten + (byte :: rest).length ≤ stream.maxSize
    · rw [if_neg (Nat.not_lt.mpr hFits), if_pos (Or.inr hFits)]
      rfl
    · rw [if_pos (Nat.lt_of_not_le hFits), if_neg (by simpa using hFits)]

/-- Two writes are one write of both. -/
theorem pbWrite_pbWrite (first second : List UInt8) (stream : PbOstream) :
    (pbWrite first stream).bind (pbWrite second) = pbWrite (first ++ second) stream := by
  by_cases hCallback : stream.callback
  · rw [pbWrite_of_callback hCallback, pbWrite_of_callback hCallback]
    by_cases hFirst : first = [] ∨ stream.bytesWritten + first.length ≤ stream.maxSize
    · have hMore : (stream.extend first).callback := hCallback
      rw [if_pos hFirst, Option.bind_some, pbWrite_of_callback hMore]
      simp only [PbOstream.extend, List.append_assoc, List.length_append, List.append_eq_nil_iff,
        Nat.add_assoc]
      congr 1
      rcases first with _ | ⟨byte, rest⟩ <;> simp_all
    · rw [if_neg hFirst, Option.bind_none, if_neg]
      rw [List.append_eq_nil_iff, List.length_append]
      rintro (⟨hNil, -⟩ | hFits)
      · exact hFirst (Or.inl hNil)
      · exact hFirst (Or.inr (by omega))
  · simp [pbWrite, hCallback, Nat.add_assoc]

/-- One encoder behind the other writes their bytes in this order. -/
theorem Writes.bind {first second : PbOstream → Option PbOstream} {front back : List UInt8}
    (hFirst : Writes first front) (hSecond : Writes second back) :
    Writes (fun stream => (first stream).bind second) (front ++ back) := by
  intro stream
  have hAll : second = pbWrite back := funext hSecond
  dsimp only
  rw [hFirst, hAll, pbWrite_pbWrite]

/-- What an encoder writes, found out as `pb_get_encoded_size` does it. -/
def encoded (encode : PbOstream → Option PbOstream) : List UInt8 :=
  let size := ((encode pbOstreamSizing).map PbOstream.bytesWritten).getD 0
  ((encode (pbOstreamFromBuffer size)).map PbOstream.written).getD []

/-- A stream without a buffer counts. -/
theorem pbWrite_sizing (bytes : List UInt8) :
    pbWrite bytes pbOstreamSizing = some ⟨false, 0, bytes.length, []⟩ := by
  simp [pbWrite, pbOstreamSizing]

/-- A buffer that is large enough. -/
theorem pbWrite_fits {bytes : List UInt8} {stream : PbOstream} (hCallback : stream.callback)
    (hFits : stream.bytesWritten + bytes.length ≤ stream.maxSize) :
    pbWrite bytes stream = some (stream.extend bytes) := by
  rw [pbWrite_of_callback hCallback, if_pos (Or.inr hFits)]

/-- What an encoder writes into enough room is what it is said to write. -/
theorem Writes.encoded_eq {encode : PbOstream → Option PbOstream} {bytes : List UInt8}
    (hWrites : Writes encode bytes) : encoded encode = bytes := by
  have hSize : ((encode pbOstreamSizing).map PbOstream.bytesWritten).getD 0 = bytes.length := by
    rw [hWrites, pbWrite_sizing]
    rfl
  rw [encoded, hSize, hWrites, pbWrite_fits rfl (Nat.le_of_eq (Nat.zero_add _))]
  exact List.nil_append bytes

/-! The numbers. -/

/-- The upper half of a number, seven bits in each round. -/
theorem varintHigh_eq {rounds high : ℕ} {byte : UInt8} (hByte : byte.toNat < 128)
    (hHigh : high < 128 ^ rounds) :
    varintHigh rounds high byte = Varint.bytes (byte.toNat + 128 * high) := by
  induction rounds generalizing high byte with
  | zero =>
      have hZero : high = 0 := Nat.lt_one_iff.mp hHigh
      rw [varintHigh, hZero, Varint.bytes_of_lt (by omega), Nat.mul_zero, Nat.add_zero,
        UInt8.ofNat_toNat]
  | succ rounds ih =>
      rw [varintHigh]
      split
      · next hMore =>
        have hLow : high &&& 0x7F = high % 128 := Nat.and_two_pow_sub_one_eq_mod high 7
        have hShift : high >>> 7 = high / 128 := Nat.shiftRight_eq_div_pow high 7
        have hNext : (UInt8.ofNat (high % 128)).toNat = high % 128 :=
          Varint.toNat_ofNat_of_lt (by omega)
        have hRest : high / 128 < 128 ^ rounds := by
          rw [Nat.div_lt_iff_lt_mul (by decide), ← pow_succ]
          exact hHigh
        have hLarge : 128 ≤ byte.toNat + 128 * high := by omega
        have hMod : (byte.toNat + 128 * high) % 128 = byte.toNat := by omega
        have hDiv : (byte.toNat + 128 * high) / 128 = high % 128 + 128 * (high / 128) := by omega
        rw [hLow, hShift, ih (by omega) hRest, hNext, Varint.or_high hByte,
          Varint.bytes_of_le hLarge, hMod, hDiv]
      · next hDone =>
        have hZero : high = 0 := not_not.mp hDone
        rw [hZero, Varint.bytes_of_lt (by omega), Nat.mul_zero, Nat.add_zero, UInt8.ofNat_toNat]

/-- All bits are in `low`. -/
theorem varintLow_eq_of_zero {rounds low : ℕ} {byte : UInt8} (hByte : byte.toNat < 128)
    (hLow : low < 128 ^ rounds) :
    (varintLow rounds low 0 byte).1 ++ [(varintLow rounds low 0 byte).2] =
      Varint.bytes (byte.toNat + 128 * low) := by
  rw [← varintHigh_eq hByte hLow]
  clear hLow hByte
  induction rounds generalizing low byte with
  | zero => rfl
  | succ rounds ih =>
      rw [varintLow, varintHigh]
      by_cases hMore : low = 0
      · rw [if_neg (by omega), if_neg (not_not.mpr hMore)]
        rfl
      · rw [if_pos (Or.inl hMore), if_pos hMore, ← ih]
        rfl

/-- Some bits are in `high`. -/
theorem varintLow_eq {rounds low high : ℕ} {byte : UInt8} {rest : List UInt8}
    (hByte : byte.toNat < 128) (hLow : byte.toNat + 128 * low < 2 ^ (7 * rounds + 4))
    (hHigh : high ≠ 0)
    (hRest : (varintLow rounds low high byte).2.toNat < 16 →
      rest = Varint.bytes ((varintLow rounds low high byte).2.toNat + 16 * high)) :
    (varintLow rounds low high byte).1 ++ rest =
      Varint.bytes (byte.toNat + 128 * low + high * 2 ^ (7 * rounds + 4)) := by
  induction rounds generalizing low byte with
  | zero =>
      have hSmall : byte.toNat < 16 ∧ low = 0 := by
        constructor <;> omega
      rw [hRest hSmall.1, hSmall.2, Nat.mul_comm high]
      rfl
  | succ rounds ih =>
      have hPow : 2 ^ (7 * (rounds + 1) + 4) = 128 * 2 ^ (7 * rounds + 4) := by ring
      have hMask : low &&& 0x7F = low % 128 := Nat.and_two_pow_sub_one_eq_mod low 7
      have hShift : low >>> 7 = low / 128 := Nat.shiftRight_eq_div_pow low 7
      have hNext : (UInt8.ofNat (low % 128)).toNat = low % 128 :=
        Varint.toNat_ofNat_of_lt (by omega)
      have hProduct : 0 < high * 2 ^ (7 * rounds + 4) :=
        Nat.mul_pos (Nat.pos_of_ne_zero hHigh) (Nat.two_pow_pos _)
      have hComm : high * (128 * 2 ^ (7 * rounds + 4)) = 128 * (high * 2 ^ (7 * rounds + 4)) := by
        ring
      rw [varintLow, if_pos (Or.inr hHigh), hMask, hShift] at hRest ⊢
      rw [hPow] at hLow
      have hAll := ih (by omega : (UInt8.ofNat (low % 128)).toNat < 128) (by omega) hRest
      have hLarge : 128 ≤ byte.toNat + 128 * low + 128 * (high * 2 ^ (7 * rounds + 4)) := by omega
      have hMod : (byte.toNat + 128 * low + 128 * (high * 2 ^ (7 * rounds + 4))) % 128 =
          byte.toNat := by omega
      have hDiv : (byte.toNat + 128 * low + 128 * (high * 2 ^ (7 * rounds + 4))) / 128 =
          (UInt8.ofNat (low % 128)).toNat + 128 * (low / 128) + high * 2 ^ (7 * rounds + 4) := by
        omega
      rw [hPow, hComm, List.cons_append, hAll, Varint.or_high hByte, Varint.bytes_of_le hLarge,
        hMod, hDiv]

/-- The last byte of the lower half takes three bits of the upper one. -/
theorem varintHigh_of_last {high : ℕ} {last : UInt8} (hLast : last.toNat < 16)
    (hHigh : high < 2 ^ 32) :
    varintHigh 5 (high >>> 3) (last ||| .ofNat ((high &&& 0x07) <<< 4)) =
      Varint.bytes (last.toNat + 16 * high) := by
  have hMask : high &&& 0x07 = high % 8 := Nat.and_two_pow_sub_one_eq_mod high 3
  have hShift : high >>> 3 = high / 8 := Nat.shiftRight_eq_div_pow high 3
  have hUp : (high % 8) <<< 4 = 2 ^ 4 * (high % 8) := by
    rw [Nat.shiftLeft_eq, Nat.mul_comm]
  have hOr : (last ||| .ofNat ((high % 8) <<< 4)).toNat = last.toNat + 16 * (high % 8) := by
    rw [UInt8.toNat_or, hUp, Varint.toNat_ofNat_of_lt (by omega), Nat.or_comm,
      ← Nat.two_pow_add_eq_or_of_lt (by simpa using hLast)]
    exact Nat.add_comm _ _
  have hSum : last.toNat + 16 * (high % 8) + 128 * (high / 8) = last.toNat + 16 * high := by omega
  rw [hMask, hShift, varintHigh_eq (by omega) (by omega), hOr, hSum]

/-- The encoder for both halves of a number of 64 bits. -/
theorem writes_encodeVarint32 {low high : ℕ} (hLow : low < 2 ^ 32) (hHigh : high < 2 ^ 32) :
    Writes (pbEncodeVarint32 low high) (Varint.bytes (low + high * 2 ^ 32)) := by
  have hMask : low &&& 0x7F = low % 128 := Nat.and_two_pow_sub_one_eq_mod low 7
  have hShift : low >>> 7 = low / 128 := Nat.shiftRight_eq_div_pow low 7
  have hFirst : (UInt8.ofNat (low % 128)).toNat = low % 128 :=
    Varint.toNat_ofNat_of_lt (by omega)
  have hWhole : (UInt8.ofNat (low % 128)).toNat + 128 * (low / 128) = low := by omega
  have hByte : (UInt8.ofNat (low % 128)).toNat < 128 := by omega
  rw [pbEncodeVarint32, hMask, hShift]
  split
  · next hMore =>
    have hBytes := varintLow_eq hByte (by omega : _ + 128 * (low / 128) < 2 ^ (7 * 4 + 4)) hMore
      fun hLast => varintHigh_of_last hLast hHigh
    rw [hWhole] at hBytes
    rw [← hBytes]
    exact writes_pbWrite _
  · next hDone =>
    have hZero : high = 0 := not_not.mp hDone
    have hBytes := varintLow_eq_of_zero hByte (by omega : low / 128 < 128 ^ 4)
    rw [hWhole] at hBytes
    rw [hZero, Nat.zero_mul, Nat.add_zero, hBytes]
    exact writes_pbWrite _

/-- The encoder of a whole number passes its two halves on. -/
theorem writes_encodeVarint (value : BitVec 64) :
    Writes (pbEncodeVarint value) (Varint.bytes value.toNat) := by
  unfold pbEncodeVarint
  split
  · next hSmall =>
    have hLt : value.toNat < 128 := Nat.lt_succ_of_le (BitVec.le_def.mp hSmall)
    have hByte : UInt8.ofBitVec (value.setWidth 8) = .ofNat value.toNat := by
      apply UInt8.toNat_inj.mp
      rw [Varint.toNat_ofNat_of_lt (by omega)]
      simp only [UInt8.toNat_ofBitVec, BitVec.toNat_setWidth]
      omega
    rw [Varint.bytes_of_lt hLt, hByte]
    exact writes_pbWrite _
  · have hLow : (value.setWidth 32).toNat = value.toNat % 2 ^ 32 := BitVec.toNat_setWidth ..
    have hHigh : ((value >>> 32).setWidth 32).toNat = value.toNat / 2 ^ 32 := by
      rw [BitVec.toNat_setWidth, BitVec.toNat_ushiftRight, Nat.shiftRight_eq_div_pow]
      omega
    have hValue := value.isLt
    have hWrites := writes_encodeVarint32 (by omega : value.toNat % 2 ^ 32 < 2 ^ 32)
      (by omega : value.toNat / 2 ^ 32 < 2 ^ 32)
    rw [Nat.mod_add_div'] at hWrites
    rw [hLow, hHigh]
    exact hWrites

/-- Four bytes, the lowest first. -/
theorem writes_encodeFixed32 (val : BitVec 32) :
    Writes (pbEncodeFixed32 val) (toBytes 4 val) := by
  intro stream
  rw [pbEncodeFixed32]
  congr 1
  have hMask (bits : BitVec 32) : (bits &&& 0xFF).setWidth 8 = bits.setWidth 8 := by
    rw [BitVec.setWidth_and]
    exact BitVec.and_allOnes
  simp only [toBytes, hMask, ← BitVec.shiftRight_add]

/-- The tag in front of every field. -/
theorem writes_encodeTag {wireType : PbWireType} {fieldNumber : ℕ} (hTag : fieldNumber < 2 ^ 29) :
    Writes (pbEncodeTag wireType fieldNumber) (Varint.bytes (8 * fieldNumber + wireType.code)) := by
  have hCode := wireType.code_lt
  have hNumber : (BitVec.ofNat 64 fieldNumber <<< 3 ||| BitVec.ofNat 64 wireType.code).toNat =
      8 * fieldNumber + wireType.code := by
    have hOr : 2 ^ 3 * fieldNumber + wireType.code = 2 ^ 3 * fieldNumber ||| wireType.code :=
      Nat.two_pow_add_eq_or_of_lt hCode fieldNumber
    rw [BitVec.toNat_or, BitVec.toNat_shiftLeft, BitVec.toNat_ofNat, BitVec.toNat_ofNat,
      Nat.shiftLeft_eq, Nat.mod_eq_of_lt (by omega : fieldNumber < 2 ^ 64),
      Nat.mod_eq_of_lt (by omega : wireType.code < 2 ^ 64),
      Nat.mod_eq_of_lt (by omega : fieldNumber * 2 ^ 3 < 2 ^ 64), Nat.mul_comm]
    exact hOr.symm
  rw [← hNumber]
  exact writes_encodeVarint _

/-- A length of the model fits into a word of 64 bits. -/
theorem toNat_ofNat_length {count : ℕ} (hCount : count < 2 ^ 32) :
    (BitVec.ofNat 64 count).toNat = count := by
  rw [BitVec.toNat_ofNat]
  exact Nat.mod_eq_of_lt (by omega)

/-- A length and the bytes. -/
theorem writes_encodeString {buffer : List UInt8} (hLength : buffer.length < 2 ^ 32) :
    Writes (pbEncodeString buffer) (Varint.bytes buffer.length ++ buffer) := by
  have hWrites := writes_encodeVarint (.ofNat 64 buffer.length)
  rw [toNat_ofNat_length hLength] at hWrites
  exact hWrites.bind (writes_pbWrite buffer)

/-- A write that was possible has not gone beyond the buffer. -/
theorem pbWrite_valid {bytes : List UInt8} {stream stream' : PbOstream} (hNonempty : bytes ≠ [])
    (h : pbWrite bytes stream = some stream') (hCallback : stream'.callback) :
    stream'.bytesWritten ≤ stream'.maxSize := by
  unfold pbWrite at h
  split at h
  · split at h
    · cases h
    · obtain rfl := Option.some.inj h
      exact Nat.not_lt.mp ‹_›
  · next hQuiet =>
    obtain rfl := Option.some.inj h
    exact absurd ⟨List.length_pos_iff.mpr hNonempty, hCallback⟩ hQuiet

/-- The second pass of a submessage writes what the first one has counted. -/
theorem encodeSized_eq {encode : PbOstream → Option PbOstream} {bytes : List UInt8}
    (hWrites : Writes encode bytes) {stream : PbOstream}
    (hValid : stream.callback → stream.bytesWritten ≤ stream.maxSize) :
    encodeSized encode bytes.length stream = pbWrite bytes stream := by
  unfold encodeSized
  by_cases hCallback : stream.callback
  · rw [if_neg (by simp [hCallback]), pbWrite_of_callback hCallback]
    by_cases hFits : stream.bytesWritten + bytes.length ≤ stream.maxSize
    · have hWritten : pbWrite bytes ⟨stream.callback, bytes.length, 0, stream.written⟩ =
          some ⟨stream.callback, bytes.length, bytes.length, stream.written ++ bytes⟩ := by
        have hFull : 0 + bytes.length ≤ bytes.length := Nat.le_of_eq (Nat.zero_add _)
        have hExact := @pbWrite_fits bytes ⟨stream.callback, bytes.length, 0, stream.written⟩
          hCallback hFull
        rw [hExact, PbOstream.extend, Nat.zero_add]
      rw [if_neg (Nat.not_lt.mpr hFits), if_pos (Or.inr hFits), hWrites, hWritten,
        Option.bind_some, if_neg (not_not.mpr rfl)]
      rfl
    · rw [if_pos (Nat.lt_of_not_le hFits), if_neg]
      rintro (rfl | hRoom)
      · exact hFits (hValid hCallback)
      · exact hFits hRoom
  · rw [if_pos (by simpa using hCallback), pbWrite, if_neg fun h => hCallback h.2]

/-- A message in a message is preceded by its length. -/
theorem writes_encodeSubmessage {encode : PbOstream → Option PbOstream} {bytes : List UInt8}
    (hWrites : Writes encode bytes) (hLength : bytes.length < 2 ^ 32) :
    Writes (pbEncodeSubmessage encode) (Varint.bytes bytes.length ++ bytes) := by
  intro stream
  have hCount := writes_encodeVarint (.ofNat 64 bytes.length)
  rw [toNat_ofNat_length hLength] at hCount
  rw [pbEncodeSubmessage, hWrites, pbWrite_sizing, Option.bind_some]
  dsimp only
  rw [hCount, ← pbWrite_pbWrite]
  cases hStream : pbWrite (Varint.bytes bytes.length) stream with
  | none => rfl
  | some stream' =>
      have hNonempty := List.length_pos_iff.mp (Varint.length_bytes_pos bytes.length)
      exact encodeSized_eq hWrites (pbWrite_valid hNonempty hStream)

end EverestCore.Nanopb
