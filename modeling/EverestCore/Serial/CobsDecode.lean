import EverestCore.Data.Memory
import Mathlib.Data.List.Basic
import Mathlib.Data.UInt

/-! The decoder of `evSerial`, one byte at a time, and what it does in terms of the bytes that it
has decoded since it was last reset. -/
namespace EverestCore.Serial

/-- What `handlePacket` is given: the length, and so many bytes of the buffer. -/
structure Packet where
  len : ℤ
  content : List (Option UInt8)
  deriving DecidableEq

/-- The members of `evSerial` that the decoder uses. `decode` is an offset into `msg`. -/
structure CobsDecoder where
  msg : Memory UInt8
  code : UInt8
  block : UInt8
  decode : ℕ
  packets : List Packet

namespace CobsDecoder

def cobsDecodeReset (d : CobsDecoder) : CobsDecoder :=
  { d with code := 0xff, block := 0, decode := 0 }

/-- `*decode++ = byte`. -/
def push (byte : UInt8) (d : CobsDecoder) : CobsDecoder :=
  { d with msg := d.msg.store d.decode byte, decode := d.decode + 1 }

/-- `handlePacket(msg, decode - 1 - msg)`. -/
def handOver (d : CobsDecoder) : CobsDecoder :=
  { d with packets := d.packets ++ [⟨(d.decode : ℤ) - 1, d.msg.content (d.decode - 1)⟩] }

/-- A byte in the middle of a block. -/
def blockByte (byte : UInt8) (d : CobsDecoder) : CobsDecoder :=
  if byte = 0x00 then d.cobsDecodeReset else { d.push byte with block := d.block - 1 }

/-- The zero behind the block that has ended, if there is one. -/
def impliedZero (d : CobsDecoder) : CobsDecoder := if d.code ≠ 0xff then d.push 0 else d

/-- Commit what has been decoded, unless it is nothing. -/
def commit (d : CobsDecoder) : CobsDecoder := if d.decode = 0 then d else d.handOver

/-- The code of a block, or the delimiter. -/
def codeByte (byte : UInt8) (d : CobsDecoder) : CobsDecoder :=
  let d := { d.impliedZero with block := byte, code := byte }
  if d.code = 0x00 then d.commit.cobsDecodeReset else { d with block := d.block - 1 }

/-- Start again at a byte for which there is no room. -/
def checkLength (byte : UInt8) (d : CobsDecoder) : CobsDecoder :=
  if d.decode = 2048 - 1 ∧ byte ≠ 0x00 then d.cobsDecodeReset else d

def cobsDecodeByte (byte : UInt8) (d : CobsDecoder) : CobsDecoder :=
  let d := d.checkLength byte
  if d.block ≠ 0 then d.blockByte byte else d.codeByte byte

def cobsDecode (buf : List UInt8) (d : CobsDecoder) : CobsDecoder :=
  buf.foldl (fun d byte => d.cobsDecodeByte byte) d

/-- One call of `cobsDecode` for each read, as in `readThread`. -/
def cobsDecodeReads (reads : List (List UInt8)) (d : CobsDecoder) : CobsDecoder :=
  reads.foldl (fun d buf => d.cobsDecode buf) d

/-- The decoder before it has stored anything. -/
def fresh : CobsDecoder := ⟨.empty, 0xff, 0, 0, []⟩

/-- The state that `cobsDecodeReset` establishes. -/
structure IsReset (d : CobsDecoder) : Prop where
  code : d.code = 0xff
  block : d.block = 0
  decode : d.decode = 0

/-- Two stretches of bytes are decoded one after the other. -/
theorem cobsDecode_append (first second : List UInt8) (d : CobsDecoder) :
    d.cobsDecode (first ++ second) = (d.cobsDecode first).cobsDecode second := List.foldl_append

/-- The decoder does not see where a read ends. -/
theorem cobsDecodeReads_eq (reads : List (List UInt8)) (d : CobsDecoder) :
    d.cobsDecodeReads reads = d.cobsDecode reads.flatten := by
  induction reads generalizing d with
  | nil => rfl
  | cons buf rest ih =>
      rw [List.flatten_cons, cobsDecode_append]
      exact ih (d.cobsDecode buf)

/-- The decoder of a new `evSerial` is reset. -/
theorem isReset_fresh : fresh.IsReset := ⟨rfl, rfl, rfl⟩

end CobsDecoder

/-- The decoder without its buffer: the bytes decoded so far, the code of the current block and
the number of bytes that it still lacks. -/
structure Unstuffer where
  decoded : List UInt8
  code : UInt8
  block : UInt8

namespace Unstuffer

def idle : Unstuffer := ⟨[], 0xff, 0⟩

/-- The bytes decoded so far, with the zero that a block implies if it is not full. -/
def pending (u : Unstuffer) : List UInt8 := if u.code ≠ 0xff then u.decoded ++ [0] else u.decoded

/-- Start again at a byte for which there is no room. -/
def restrict (byte : UInt8) (u : Unstuffer) : Unstuffer :=
  if u.decoded.length = 2047 ∧ byte ≠ 0 then idle else u

def next (byte : UInt8) (u : Unstuffer) : Unstuffer :=
  if byte = 0 then idle
  else if (u.restrict byte).block ≠ 0 then
    ⟨(u.restrict byte).decoded ++ [byte], (u.restrict byte).code, (u.restrict byte).block - 1⟩
  else ⟨(u.restrict byte).pending, byte, byte - 1⟩

/-- The packet that a byte completes. -/
def packet (byte : UInt8) (u : Unstuffer) : Option (List UInt8) :=
  if byte = 0 ∧ u.block = 0 ∧ u.pending ≠ [] then some u.pending.dropLast else none

def run : List UInt8 → Unstuffer → Unstuffer
  | [], u => u
  | byte :: rest, u => run rest (u.next byte)

def packets : List UInt8 → Unstuffer → List (List UInt8)
  | [], _ => []
  | byte :: rest, u => (u.packet byte).toList ++ packets rest (u.next byte)

/-- The packets of two stretches of bytes are those of the first, and those of the second with what
the first left open. -/
theorem packets_append (first second : List UInt8) (u : Unstuffer) :
    u.packets (first ++ second) = u.packets first ++ (u.run first).packets second := by
  induction first generalizing u with
  | nil => rfl
  | cons byte rest ih => rw [List.cons_append, packets, packets, run, ih, List.append_assoc]

/-- Two stretches of bytes are run one after the other. -/
theorem run_append (first second : List UInt8) (u : Unstuffer) :
    u.run (first ++ second) = (u.run first).run second := by
  induction first generalizing u with
  | nil => rfl
  | cons byte rest ih => exact ih (u.next byte)

@[simp] theorem next_zero (u : Unstuffer) : u.next 0 = idle := if_pos rfl

/-- After a zero byte the stream starts anew, whatever came before. -/
theorem run_zero (bytes : List UInt8) (u : Unstuffer) : u.run (bytes ++ [0]) = idle := by
  rw [run_append]
  exact next_zero (u.run bytes)

/-- The decoded bytes leave room for one more. -/
def Fits (u : Unstuffer) : Prop := u.decoded.length ≤ 2047

theorem fits_idle : idle.Fits := Nat.zero_le _

/-- What is pending is one byte longer than what is decoded at most. -/
theorem length_pending_le (u : Unstuffer) : u.pending.length ≤ u.decoded.length + 1 := by
  unfold pending
  split_ifs <;> simp

/-- Nothing is decoded that is not pending. -/
theorem length_decoded_le (u : Unstuffer) : u.decoded.length ≤ u.pending.length := by
  unfold pending
  split_ifs <;> simp

variable {u : Unstuffer}

/-- A byte other than zero finds room, as the check of the length starts a packet again that has
filled the buffer. -/
theorem length_restrict_lt (hFits : u.Fits) {byte : UInt8} (hByte : byte ≠ 0) :
    (u.restrict byte).decoded.length < 2047 := by
  unfold restrict
  split_ifs with hFull
  · exact Nat.zero_lt_succ _
  · have hLess : u.decoded.length ≤ 2047 := hFits
    have hNot : u.decoded.length ≠ 2047 := fun hEq => hFull ⟨hEq, hByte⟩
    omega

/-- A stream that fits the buffer fits it after each byte. -/
theorem Fits.next (hFits : u.Fits) (byte : UInt8) : (u.next byte).Fits := by
  by_cases hByte : byte = 0
  · rw [hByte, next_zero]
    exact fits_idle
  · have hRoom := length_restrict_lt hFits hByte
    have hPending := (u.restrict byte).length_pending_le
    rw [Unstuffer.next, if_neg hByte, Fits]
    split_ifs
    · rw [List.length_append, List.length_singleton]
      omega
    · dsimp only
      omega

/-- A packet that comes to an end is shorter than the buffer. -/
theorem Fits.packet (hFits : u.Fits) {byte : UInt8} {packet : List UInt8}
    (hPacket : packet ∈ u.packet byte) : packet.length < 2048 := by
  have hLess : u.decoded.length ≤ 2047 := hFits
  have hPending := u.length_pending_le
  unfold Unstuffer.packet at hPacket
  split_ifs at hPacket with hEnd
  · obtain rfl := Option.mem_some_iff.mp hPacket
    rw [List.length_dropLast]
    omega
  · simp at hPacket

/-- Every packet of a stream that fits is shorter than the buffer. -/
theorem Fits.packets (hFits : u.Fits) (bytes : List UInt8) :
    ∀ packet ∈ u.packets bytes, packet.length < 2048 := by
  induction bytes generalizing u with
  | nil => simp [Unstuffer.packets]
  | cons byte rest ih =>
      intro packet hPacket
      rcases List.mem_append.mp hPacket with hFirst | hLater
      · exact hFits.packet (Option.mem_toList.mp hFirst)
      · exact ih (hFits.next byte) packet hLater

end Unstuffer

namespace CobsDecoder

/-- The decoder has decoded these bytes, and is at that place in its block. -/
structure Follows (u : Unstuffer) (d : CobsDecoder) : Prop where
  msg : d.msg.Begins u.decoded
  decode : d.decode = u.decoded.length
  code : d.code = u.code
  block : d.block = u.block

/-- The call of `handlePacket` for a packet. -/
def call (packet : List UInt8) : Packet := ⟨packet.length, packet.map some⟩

variable {u : Unstuffer} {d : CobsDecoder}

theorem IsReset.follows (hReset : d.IsReset) : d.Follows .idle :=
  ⟨Memory.begins_nil _, hReset.decode, hReset.code, hReset.block⟩

theorem Follows.isReset (h : d.Follows .idle) : d.IsReset := ⟨h.code, h.block, h.decode⟩

/-- A reset makes the decoder follow the stream that starts anew. -/
theorem follows_reset (d : CobsDecoder) : d.cobsDecodeReset.Follows .idle :=
  ⟨Memory.begins_nil _, rfl, rfl, rfl⟩

/-- A byte that the decoder stores is the next decoded byte of the stream. -/
theorem Follows.push (h : d.Follows u) (byte : UInt8) :
    (d.push byte).Follows { u with decoded := u.decoded ++ [byte] } := by
  refine ⟨?_, by simp [CobsDecoder.push, h.decode], h.code, h.block⟩
  rw [CobsDecoder.push, h.decode]
  exact h.msg.store byte

/-- The zero that the end of a block stands for is pending only, until a byte of the next block is
stored. -/
theorem Follows.impliedZero (h : d.Follows u) :
    d.impliedZero.Follows { u with decoded := u.pending } := by
  rw [CobsDecoder.impliedZero, Unstuffer.pending, h.code]
  split_ifs
  · exact h.push 0
  · exact h

@[simp] theorem impliedZero_packets (d : CobsDecoder) : d.impliedZero.packets = d.packets := by
  unfold impliedZero
  split_ifs <;> rfl

/-- The last byte that was decoded is the zero that ends the packet. -/
theorem Follows.commit_packets (h : d.Follows u) :
    d.commit.packets =
      d.packets ++ if u.decoded ≠ [] then [call u.decoded.dropLast] else [] := by
  by_cases hSome : u.decoded = []
  · rw [commit, h.decode, hSome, if_pos List.length_nil, if_neg (not_not.mpr rfl), List.append_nil]
  · have hLength : 0 < u.decoded.length := List.length_pos_of_ne_nil hSome
    have hLen : (u.decoded.length : ℤ) - 1 = (u.decoded.length - 1 : ℕ) := by omega
    rw [commit, h.decode, if_neg (Nat.ne_of_gt hLength), if_pos hSome, handOver, h.decode,
      h.msg.content_take (Nat.sub_le _ _), call, ← List.dropLast_eq_take, List.length_dropLast,
      hLen]

/-- A byte other than zero at the end of a block is the code of the next one. -/
theorem Follows.codeByte (h : d.Follows u) {byte : UInt8} (hByte : byte ≠ 0) :
    (d.codeByte byte).Follows ⟨u.pending, byte, byte - 1⟩ := by
  have hImplied := h.impliedZero
  rw [CobsDecoder.codeByte]
  dsimp only
  rw [if_neg hByte]
  exact ⟨hImplied.msg, hImplied.decode, rfl, rfl⟩

/-- The code of a block completes no packet. -/
theorem codeByte_packets (d : CobsDecoder) {byte : UInt8} (hByte : byte ≠ 0) :
    (d.codeByte byte).packets = d.packets := by
  rw [codeByte]
  dsimp only
  rw [if_neg hByte]
  exact d.impliedZero_packets

/-- A zero at the end of a block completes the packet, if there is one. -/
theorem Follows.codeByte_zero_packets (h : d.Follows u) :
    (d.codeByte 0).packets =
      d.packets ++ if u.pending ≠ [] then [call u.pending.dropLast] else [] := by
  have hImplied := h.impliedZero
  have hEnd : CobsDecoder.Follows ⟨u.pending, 0, 0⟩
      { d.impliedZero with block := 0, code := 0 } :=
    ⟨hImplied.msg, hImplied.decode, rfl, rfl⟩
  have hCommit := hEnd.commit_packets
  rw [impliedZero_packets] at hCommit
  exact hCommit

/-- The check of the length starts the packet again where the stream does. -/
theorem Follows.checkLength (h : d.Follows u) (byte : UInt8) :
    (d.checkLength byte).Follows (u.restrict byte) := by
  rw [CobsDecoder.checkLength, Unstuffer.restrict, h.decode]
  split_ifs
  · exact follows_reset d
  · exact h

/-- The decoder does with a byte what it does without its buffer. -/
theorem Follows.cobsDecodeByte (h : d.Follows u) (byte : UInt8) :
    (d.cobsDecodeByte byte).Follows (u.next byte) := by
  have hAdmit := h.checkLength byte
  rw [CobsDecoder.cobsDecodeByte]
  by_cases hByte : byte = 0
  · rw [hByte, Unstuffer.next_zero]
    split_ifs <;> exact follows_reset _
  · rw [Unstuffer.next, if_neg hByte]
    by_cases hBlock : (u.restrict byte).block = 0
    · rw [if_neg (not_not.mpr hBlock), if_neg (not_not.mpr (hAdmit.block.trans hBlock))]
      exact hAdmit.codeByte hByte
    · have hPush := hAdmit.push byte
      rw [if_pos hBlock, if_pos (by rwa [hAdmit.block]), blockByte, if_neg hByte]
      exact ⟨hPush.msg, hPush.decode, hPush.code, congrArg (· - 1) hAdmit.block⟩

/-- No byte other than zero completes a packet. -/
theorem cobsDecodeByte_packets (d : CobsDecoder) {byte : UInt8} (hByte : byte ≠ 0) :
    (d.cobsDecodeByte byte).packets = d.packets := by
  have hCheck : (d.checkLength byte).packets = d.packets := by
    unfold checkLength
    split_ifs <;> rfl
  rw [cobsDecodeByte]
  by_cases hBlock : (d.checkLength byte).block = 0
  · rw [if_neg (not_not.mpr hBlock), codeByte_packets _ hByte, hCheck]
  · rw [if_pos hBlock, blockByte, if_neg hByte]
    exact hCheck

/-- A byte completes the packets for the decoder that it completes for the stream. -/
theorem Follows.cobsDecodeByte_packets (h : d.Follows u) (byte : UInt8) :
    (d.cobsDecodeByte byte).packets = d.packets ++ (u.packet byte).toList.map call := by
  by_cases hByte : byte = 0
  · have hCheck : d.checkLength 0 = d := if_neg fun hFull => hFull.2 rfl
    rw [CobsDecoder.cobsDecodeByte, hByte, hCheck, h.block, Unstuffer.packet]
    by_cases hBlock : u.block = 0
    · rw [if_neg (not_not.mpr hBlock), h.codeByte_zero_packets]
      by_cases hSome : u.pending = []
      · rw [if_neg (not_not.mpr hSome), if_neg (fun hAll => hAll.2.2 hSome)]
        rfl
      · rw [if_pos hSome, if_pos ⟨rfl, hBlock, hSome⟩]
        rfl
    · rw [if_pos hBlock, if_neg (fun hAll => hBlock hAll.2.1)]
      exact (List.append_nil _).symm
  · rw [d.cobsDecodeByte_packets hByte, Unstuffer.packet, if_neg (fun hAll => hByte hAll.1)]
    exact (List.append_nil _).symm

/-- The decoder follows the stream over any bytes. By induction over them. -/
theorem Follows.cobsDecode (h : d.Follows u) (bytes : List UInt8) :
    (d.cobsDecode bytes).Follows (u.run bytes) := by
  induction bytes generalizing d u with
  | nil => exact h
  | cons byte rest ih => exact ih (h.cobsDecodeByte byte)

/-- The calls of `handlePacket` are those for the packets that the bytes stand for. -/
theorem Follows.cobsDecode_packets (h : d.Follows u) (bytes : List UInt8) :
    (d.cobsDecode bytes).packets = d.packets ++ (u.packets bytes).map call := by
  induction bytes generalizing d u with
  | nil => exact (List.append_nil _).symm
  | cons byte rest ih =>
      have hRest := ih (h.cobsDecodeByte byte)
      rw [h.cobsDecodeByte_packets, List.append_assoc, ← List.map_append] at hRest
      exact hRest

section Stores

variable (hMsg : d.msg.WrittenBelow 2048)

include hMsg

/-- A byte is stored within the buffer if the decoder stands within it. -/
theorem push_written (hDecode : d.decode < 2048) (byte : UInt8) :
    (d.push byte).msg.WrittenBelow 2048 := hMsg.store hDecode byte

/-- Nothing is written outside the buffer as a block ends. -/
theorem codeByte_written (hDecode : d.decode < 2048) (byte : UInt8) :
    (d.codeByte byte).msg.WrittenBelow 2048 := by
  have hImplied : d.impliedZero.msg.WrittenBelow 2048 := by
    unfold impliedZero
    split_ifs
    · exact push_written hMsg hDecode 0
    · exact hMsg
  unfold codeByte commit
  dsimp only
  split_ifs <;> exact hImplied

/-- Nothing is written outside the buffer within a block. -/
theorem blockByte_written (hDecode : d.decode < 2048) (byte : UInt8) :
    (d.blockByte byte).msg.WrittenBelow 2048 := by
  unfold blockByte
  split_ifs
  · exact hMsg
  · exact push_written hMsg hDecode byte

/-- No byte is written outside the buffer. -/
theorem cobsDecodeByte_written (hDecode : d.decode < 2048) (byte : UInt8) :
    (d.cobsDecodeByte byte).msg.WrittenBelow 2048 := by
  have hCheck : (d.checkLength byte).msg.WrittenBelow 2048 ∧
      (d.checkLength byte).decode < 2048 := by
    unfold checkLength
    split_ifs
    · exact ⟨hMsg, Nat.zero_lt_succ _⟩
    · exact ⟨hMsg, hDecode⟩
  unfold cobsDecodeByte
  dsimp only
  split_ifs
  · exact blockByte_written hCheck.1 hCheck.2 byte
  · exact codeByte_written hCheck.1 hCheck.2 byte

/-- Over a whole stream nothing is written outside the buffer. -/
theorem Follows.cobsDecode_written (h : d.Follows u) (hFits : u.Fits) (bytes : List UInt8) :
    (d.cobsDecode bytes).msg.WrittenBelow 2048 := by
  induction bytes generalizing d u with
  | nil => exact hMsg
  | cons byte rest ih =>
      have hDecode : d.decode < 2048 := by
        rw [h.decode]
        exact Nat.lt_succ_of_le hFits
      exact ih (cobsDecodeByte_written hMsg hDecode byte) (h.cobsDecodeByte byte)
        (hFits.next byte)

end Stores

end CobsDecoder

open CobsDecoder Unstuffer

/-- The decoder keeps to its buffer and to the length of the packets, and a delimiter brings it
back to where it started, so what follows does not depend on what came in front. -/
theorem cobsDecode_resynchronises {d : CobsDecoder} (hReset : d.IsReset)
    (hMsg : d.msg.WrittenBelow 2048) (hNone : d.packets = []) (bytes : List UInt8) :
    (d.cobsDecode bytes).msg.WrittenBelow 2048 ∧
      (∀ packet ∈ (d.cobsDecode bytes).packets, 0 ≤ packet.len ∧ packet.len < 2048) ∧
      ∀ before after, bytes = before ++ 0 :: after →
        (d.cobsDecode (before ++ [0])).IsReset ∧
          ∀ fresh : CobsDecoder, fresh.IsReset → fresh.packets = [] →
            (d.cobsDecode bytes).packets =
              (d.cobsDecode (before ++ [0])).packets ++ (fresh.cobsDecode after).packets := by
  have hFollows := hReset.follows
  refine ⟨hFollows.cobsDecode_written hMsg fits_idle bytes, ?_, ?_⟩
  · intro packet hPacket
    rw [hFollows.cobsDecode_packets, hNone, List.nil_append] at hPacket
    obtain ⟨content, hContent, rfl⟩ := List.mem_map.mp hPacket
    have hLength := fits_idle.packets bytes content hContent
    exact ⟨Int.natCast_nonneg _, Int.ofNat_lt.mpr hLength⟩
  · intro before after hBytes
    have hZero := hFollows.cobsDecode (before ++ [0])
    rw [run_zero] at hZero
    refine ⟨hZero.isReset, fun fresh hFresh hNoPackets => ?_⟩
    rw [hBytes, List.append_cons, cobsDecode_append, hZero.cobsDecode_packets,
      hFresh.follows.cobsDecode_packets, hNoPackets, List.nil_append]

/-- Two bytes of a packet that has been cut off do no harm to the next one. -/
theorem cobsDecode_resynchronises_kept :
    (fresh.cobsDecode [9, 7, 0, 2, 5, 0]).packets =
      (fresh.cobsDecode [9, 7, 0]).packets ++ (fresh.cobsDecode [2, 5, 0]).packets :=
  ((cobsDecode_resynchronises isReset_fresh (Memory.writtenBelow_empty 2048) rfl
    [9, 7, 0, 2, 5, 0]).2.2 [9, 7] [2, 5, 0] rfl).2 fresh isReset_fresh rfl

end EverestCore.Serial
