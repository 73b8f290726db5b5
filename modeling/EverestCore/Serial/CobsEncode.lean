import EverestCore.Data.Cobs
import EverestCore.Data.Memory

/-! The encoder of `evSerial`, the same in the drivers of the Yeti and of the MicroMegaWatt.
It writes into a buffer through two pointers, one of which stands on the code of the current
block. -/
namespace EverestCore.Serial
open Cobs

/-- The local variables of `evSerial::cobsEncode`. The pointers are offsets into the buffer. -/
structure CobsEncoder where
  buffer : Memory UInt8
  encode : ℕ
  codep : ℕ
  code : UInt8

namespace CobsEncoder

def start : CobsEncoder where
  buffer := .empty
  encode := 1
  codep := 0
  code := 1

/-- `*encode++ = *byte, ++code`, if the byte is not zero. -/
def writeByte (byte : UInt8) (e : CobsEncoder) : CobsEncoder :=
  if byte ≠ 0 then
    { e with
      buffer := e.buffer.store e.encode byte
      encode := e.encode + 1
      code := e.code + 1 }
  else e

@[simp] theorem writeByte_zero (e : CobsEncoder) : e.writeByte 0 = e := if_neg (not_not.mpr rfl)

/-- One round of the loop, with so many bytes left behind this one. -/
def encodeByte (byte : UInt8) (length : ℕ) (e : CobsEncoder) : CobsEncoder :=
  let e := e.writeByte byte
  if byte = 0 ∨ e.code = 0xff then
    { buffer := e.buffer.store e.codep e.code
      code := 1
      codep := e.encode
      encode := if byte = 0 ∨ length ≠ 0 then e.encode + 1 else e.encode }
  else e

def encodeAll : List UInt8 → CobsEncoder → CobsEncoder
  | [], e => e
  | byte :: rest, e => encodeAll rest (e.encodeByte byte rest.length)

/-- The final code and the delimiter. -/
def finish (e : CobsEncoder) : Memory UInt8 × ℕ :=
  ((e.buffer.store e.codep e.code).store e.encode 0, e.encode + 1)

end CobsEncoder

/-- `evSerial::cobsEncode`, with the buffer that it has written, and the length that it
returns. -/
def cobsEncode (data : List UInt8) : Memory UInt8 × ℕ := (CobsEncoder.start.encodeAll data).finish

/-- The stuffed packet, with its delimiter. -/
def stuffed (packet : List UInt8) : List UInt8 := stuffedFrom [] packet ++ [0]

namespace CobsEncoder

/-- The encoder has finished some blocks and is in the middle of another one, whose code is
left out. -/
structure Writes (done block : List UInt8) (e : CobsEncoder) : Prop where
  buffer : e.buffer = .ofCells (done.map some ++ none :: block.map some)
  codep : e.codep = done.length
  encode : e.encode = done.length + 1 + block.length
  code : e.code = .ofNat (block.length + 1)

variable {done block : List UInt8} {e : CobsEncoder}

/-- A byte other than zero extends the block. -/
theorem Writes.writeByte (h : e.Writes done block) {byte : UInt8} (hByte : byte ≠ 0) :
    (e.writeByte byte).Writes done (block ++ [byte]) := by
  have hEnd : e.encode = (done.map some ++ none :: block.map some).length := by
    rw [h.encode]
    simp
    omega
  rw [CobsEncoder.writeByte, if_pos hByte]
  constructor
  · dsimp only
    rw [hEnd, h.buffer, Memory.store_ofCells_end]
    simp
  · exact h.codep
  · dsimp only
    rw [h.encode]
    simp
    omega
  · dsimp only
    rw [h.code, List.length_append, List.length_singleton]
    exact (UInt8.ofNat_add _ 1).symm

/-- The code of the block is stored in front of it. -/
theorem Writes.store_code (h : e.Writes done block) :
    e.buffer.store e.codep e.code = .ofList (done ++ coded block) := by
  have hCode : e.codep = (done.map some).length := by rw [h.codep, List.length_map]
  rw [hCode, h.buffer, Memory.store_ofCells, h.code, ← Memory.ofCells_map_some]
  simp [coded]

/-- The position is behind what is done and the block with its code. -/
theorem Writes.encode_eq (h : e.Writes done block) :
    e.encode = (done ++ coded block).length := by
  rw [h.encode, List.length_append, length_coded]
  omega

/-- The end of a packet stores the code of the last block, and the zero byte. -/
theorem Writes.finish (h : e.Writes done block) :
    e.finish = (.ofList (done ++ coded block ++ [0]), (done ++ coded block ++ [0]).length) := by
  have hEnd : e.encode = ((done ++ coded block).map some).length := by
    rw [h.encode_eq, List.length_map]
  rw [CobsEncoder.finish, h.store_code, hEnd, ← Memory.ofCells_map_some, Memory.store_ofCells_end,
    ← Memory.ofCells_map_some]
  simp [Nat.add_assoc]

variable (length : ℕ)

/-- A zero byte ends the block. -/
theorem Writes.encodeByte_zero (h : e.Writes done block) :
    (e.encodeByte 0 length).Writes (done ++ coded block) [] := by
  rw [CobsEncoder.encodeByte, writeByte_zero, if_pos (.inl rfl)]
  constructor
  · dsimp only
    rw [h.store_code, ← Memory.ofCells_map_some, List.map_nil, Memory.ofCells_left_out]
  · exact h.encode_eq
  · dsimp only
    rw [if_pos (.inl rfl), h.encode_eq, List.length_nil]
  · rfl

section FullBlock

variable {byte : UInt8} (hByte : byte ≠ 0)

include hByte

/-- A byte that does not fill the block extends it. -/
theorem Writes.encodeByte_open (h : e.Writes done block) (hOpen : IsOpen block)
    (hLength : block.length + 1 ≠ fullLength) :
    (e.encodeByte byte length).Writes done (block ++ [byte]) := by
  have hNext := h.writeByte hByte
  have hCode : (e.writeByte byte).code ≠ 0xff := by
    intro hFull
    have hNat := congrArg UInt8.toNat hFull
    have hLess := hOpen.length
    rw [hNext.code, UInt8.toNat_ofNat', List.length_append, List.length_singleton] at hNat
    simp only [fullLength, UInt8.reduceToNat] at hLength hLess hNat
    omega
  rw [CobsEncoder.encodeByte, if_neg (not_or.mpr ⟨hByte, hCode⟩)]
  exact hNext

variable (hLength : block.length + 1 = fullLength)

include hLength

/-- The code of a full block is 255. -/
theorem Writes.code_full (h : e.Writes done block) : (e.writeByte byte).code = 0xff := by
  rw [(h.writeByte hByte).code, List.length_append, List.length_singleton, hLength]
  rfl

/-- A byte that fills the block ends it, if there is more to come. -/
theorem Writes.encodeByte_full (h : e.Writes done block) (hMore : length ≠ 0) :
    (e.encodeByte byte length).Writes (done ++ coded (block ++ [byte])) [] := by
  have hNext := h.writeByte hByte
  rw [CobsEncoder.encodeByte, if_pos (.inr (h.code_full hByte hLength))]
  constructor
  · dsimp only
    rw [hNext.store_code, ← Memory.ofCells_map_some, List.map_nil, Memory.ofCells_left_out]
  · exact hNext.encode_eq
  · dsimp only
    rw [if_pos (.inr hMore), hNext.encode_eq, List.length_nil]
  · rfl

/-- Behind a full block at the end of the packet, the code of the next block is stored where
the delimiter is stored then. -/
theorem Writes.finish_last (h : e.Writes done block) :
    (e.encodeByte byte 0).finish =
      (.ofList (done ++ coded (block ++ [byte]) ++ [0]),
        (done ++ coded (block ++ [byte]) ++ [0]).length) := by
  have hNext := h.writeByte hByte
  have hEnd : (e.writeByte byte).encode = ((done ++ coded (block ++ [byte])).map some).length := by
    rw [hNext.encode_eq, List.length_map]
  rw [CobsEncoder.encodeByte, if_pos (.inr (h.code_full hByte hLength)), CobsEncoder.finish]
  dsimp only
  rw [if_neg (by simp [hByte]), Memory.store_store, hNext.store_code, hEnd,
    ← Memory.ofCells_map_some, Memory.store_ofCells_end, ← Memory.ofCells_map_some]
  simp [Nat.add_assoc]

end FullBlock

/-- The encoder writes the rest of the blocks and the delimiter. -/
theorem Writes.encodeAll (h : e.Writes done block) (hOpen : IsOpen block) (rest : List UInt8) :
    (e.encodeAll rest).finish =
      (.ofList (done ++ stuffedFrom block rest ++ [0]),
        (done ++ stuffedFrom block rest ++ [0]).length) := by
  refine blocksFrom_induction (motive := fun block rest => ∀ done e, Writes done block e →
    (e.encodeAll rest).finish = (.ofList (done ++ stuffedFrom block rest ++ [0]),
      (done ++ stuffedFrom block rest ++ [0]).length)) ?_ ?_ ?_ ?_ ?_ hOpen rest done e h
  · intro block _ done e h
    rw [CobsEncoder.encodeAll, h.finish, stuffedFrom, blocksFrom, List.flatMap_singleton]
  · intro block rest _ ih done e h
    rw [CobsEncoder.encodeAll, ih _ _ (h.encodeByte_zero rest.length), stuffedFrom, stuffedFrom,
      blocksFrom_zero, List.flatMap_cons, List.append_assoc done]
  · intro block byte _ hByte hLength done e h
    rw [CobsEncoder.encodeAll, CobsEncoder.encodeAll, List.length_nil,
      h.finish_last hByte hLength, stuffedFrom, blocksFrom_last hByte hLength,
      List.flatMap_singleton]
  · intro block byte rest _ hByte hLength hRest ih done e h
    have hMore : rest.length ≠ 0 := fun hNone => hRest (List.length_eq_zero_iff.mp hNone)
    rw [CobsEncoder.encodeAll, ih _ _ (h.encodeByte_full rest.length hByte hLength hMore),
      stuffedFrom, stuffedFrom, blocksFrom_full hByte hLength hRest, List.flatMap_cons,
      List.append_assoc done]
  · intro block byte rest hOpen hByte hLength ih done e h
    rw [CobsEncoder.encodeAll, ih _ _ (h.encodeByte_open rest.length hByte hOpen hLength),
      stuffedFrom, stuffedFrom, blocksFrom_byte hByte hLength]

/-- The encoder starts with nothing written, at an empty block. -/
theorem writes_start : start.Writes [] [] := by
  constructor
  · exact (Memory.ofCells_left_out []).symm
  · rfl
  · rfl
  · rfl

end CobsEncoder

/-- The encoder writes the stuffed packet and its delimiter, and returns their length. -/
theorem cobsEncode_eq (data : List UInt8) :
    cobsEncode data = (.ofList (stuffed data), (stuffed data).length) :=
  CobsEncoder.writes_start.encodeAll isOpen_nil data

/-- The zero byte stands at the end of a frame, and nowhere else. -/
theorem stuffed_eq_zero_iff {packet : List UInt8} {index : ℕ} :
    (stuffed packet)[index]? = some 0 ↔ index + 1 = (stuffed packet).length := by
  rw [stuffed, List.length_append, List.length_singleton, Nat.add_right_cancel_iff,
    List.getElem?_append]
  split_ifs with hInside
  · have hNonzero := stuffedFrom_nonzero isOpen_nil _ (List.getElem_mem hInside)
    rw [List.getElem?_eq_getElem hInside, Option.some_inj]
    exact iff_of_false hNonzero (Nat.ne_of_lt hInside)
  · rw [List.getElem?_singleton]
    split_ifs <;> simp <;> omega

/-- A frame is as long as its packet, a code for each full block, and two bytes at most. -/
theorem length_stuffed_le (packet : List UInt8) :
    (stuffed packet).length ≤ packet.length + packet.length / fullLength + 2 := by
  have hLength := @length_stuffedFrom_le [] packet isOpen_nil
  rw [List.length_nil, Nat.zero_add] at hLength
  rw [stuffed, List.length_append, List.length_singleton]
  omega

/-- The encoder writes every byte that its length covers and no others. The delimiter is the
only zero and comes last. The buffer of `linkWrite` has 1500 bytes. -/
theorem cobsEncode_frame (data : List UInt8) :
    (∀ index, ((cobsEncode data).1 index).isSome ↔ index < (cobsEncode data).2) ∧
      (∀ index, (cobsEncode data).1 index = some 0 ↔ index + 1 = (cobsEncode data).2) ∧
      (cobsEncode data).1.WrittenBelow (data.length + data.length / 254 + 2) ∧
      (data.length ≤ 1024 → (cobsEncode data).1.WrittenBelow 1500) := by
  have hLength : (stuffed data).length ≤ data.length + data.length / 254 + 2 :=
    length_stuffed_le data
  have hWritten := fun index => Memory.isSome_ofList (stuffed data) index
  rw [cobsEncode_eq]
  refine ⟨hWritten, fun index => stuffed_eq_zero_iff, fun index hIndex => ?_,
    fun hData index hIndex => ?_⟩
  · exact ((hWritten index).mp hIndex).trans_le hLength
  · have hInside := (hWritten index).mp hIndex
    omega

theorem cobsEncode_frame_kept : (cobsEncode (List.replicate 1020 1)).1.WrittenBelow 1500 :=
  (cobsEncode_frame (List.replicate 1020 1)).2.2.2 (by rw [List.length_replicate]; decide)

end EverestCore.Serial
