import EverestCore.Serial.CobsEncode
import EverestCore.Serial.CobsDecode

/-! What the decoder makes of the output of the encoder. The decoder takes the last byte for the
zero that the last block implies, but a full block implies none. -/
namespace EverestCore.Serial
open Cobs

namespace Unstuffer

variable {u : Unstuffer} {block : List UInt8}

theorem restrict_eq (hRoom : u.decoded.length < 2047) (byte : UInt8) : u.restrict byte = u :=
  if_neg fun hFull => Nat.ne_of_lt hRoom hFull.1

theorem packets_cons_nonzero {byte : UInt8} (hByte : byte ≠ 0) (rest : List UInt8) :
    u.packets (byte :: rest) = (u.next byte).packets rest := by
  rw [packets, packet, if_neg fun hAll => hByte hAll.1]
  rfl

theorem toNat_pred {counter : UInt8} (hSome : counter ≠ 0) :
    (counter - 1).toNat = counter.toNat - 1 := by
  have hPos : counter.toNat ≠ 0 := fun hZero => hSome (UInt8.toNat_inj.mp hZero)
  exact UInt8.toNat_sub_of_le _ _ (UInt8.le_iff_toNat_le.mpr (Nat.one_le_iff_ne_zero.mpr hPos))

/-- Inside a block the bytes are taken as they are. -/
theorem run_block (hNonzero : ∀ byte ∈ block, byte ≠ 0) (hBlock : u.block.toNat = block.length)
    (hRoom : u.decoded.length + block.length ≤ 2047) :
    u.run block = ⟨u.decoded ++ block, u.code, 0⟩ ∧ u.packets block = [] := by
  induction block generalizing u with
  | nil =>
      have hZero : u.block = 0 := UInt8.toNat_inj.mp hBlock
      rw [List.append_nil, ← hZero]
      exact ⟨rfl, rfl⟩
  | cons byte rest ih =>
      rw [List.length_cons] at hBlock hRoom
      have hByte := hNonzero byte List.mem_cons_self
      have hSome : u.block ≠ 0 := by
        intro hZero
        rw [hZero] at hBlock
        simp at hBlock
      have hNext : u.next byte = ⟨u.decoded ++ [byte], u.code, u.block - 1⟩ := by
        rw [next, if_neg hByte, restrict_eq (by omega), if_pos hSome]
      have hLeft : (u.block - 1).toNat = rest.length := by
        rw [toNat_pred hSome, hBlock, Nat.add_sub_cancel]
      have hRest := ih (u := u.next byte) (fun other hOther =>
        hNonzero other (List.mem_cons_of_mem _ hOther)) (by rw [hNext, hLeft])
        (by rw [hNext, List.length_append, List.length_singleton]; omega)
      rw [packets_cons_nonzero hByte, run, hRest.1, hRest.2, hNext]
      simp

theorem toNat_code (hLength : block.length ≤ fullLength) :
    (UInt8.ofNat (block.length + 1)).toNat = block.length + 1 := by
  apply UInt8.toNat_ofNat_of_lt'
  rw [fullLength] at hLength
  rw [UInt8.size]
  omega

/-- A block leaves behind what it stands for. -/
theorem run_coded (hNonzero : ∀ byte ∈ block, byte ≠ 0) (hLength : block.length ≤ fullLength)
    (hStart : u.block = 0) (hRoom : u.pending.length + block.length ≤ 2046) :
    (u.run (coded block)).block = 0 ∧ (u.run (coded block)).pending = u.pending ++ meaning block ∧
      u.packets (coded block) = [] := by
  have hToNat := toNat_code hLength
  have hCode : UInt8.ofNat (block.length + 1) ≠ 0 := by
    intro hZero
    rw [hZero] at hToNat
    simp at hToNat
  have hDecoded := u.length_decoded_le
  have hNext : u.next (.ofNat (block.length + 1)) =
      ⟨u.pending, .ofNat (block.length + 1), .ofNat (block.length + 1) - 1⟩ := by
    rw [next, if_neg hCode, restrict_eq (by omega), if_neg (not_not.mpr hStart)]
  have hLeft : (UInt8.ofNat (block.length + 1) - 1).toNat = block.length := by
    rw [toNat_pred hCode, hToNat, Nat.add_sub_cancel]
  have hBlock := run_block (u := u.next (.ofNat (block.length + 1))) hNonzero
    (by rw [hNext, hLeft]) (by rw [hNext]; dsimp only; omega)
  have hFull : UInt8.ofNat (block.length + 1) = 0xff ↔ block.length = fullLength := by
    rw [← UInt8.toNat_inj, hToNat, fullLength]
    exact Nat.add_right_cancel_iff
  rw [coded, packets_cons_nonzero hCode, run, hBlock.1, hBlock.2, hNext]
  refine ⟨rfl, ?_, rfl⟩
  unfold pending meaning
  dsimp only
  by_cases hIs : block.length = fullLength
  · rw [if_neg (not_not.mpr (hFull.mpr hIs)), if_pos hIs]
  · rw [if_pos fun hCode => hIs (hFull.mp hCode), if_neg hIs, List.append_assoc]

theorem length_le_meaning (block : List UInt8) : block.length ≤ (meaning block).length := by
  unfold meaning
  split_ifs <;> simp

theorem run_blocks {blocks : List (List UInt8)}
    (hBlocks : ∀ block ∈ blocks, (∀ byte ∈ block, byte ≠ 0) ∧ block.length ≤ fullLength)
    (hStart : u.block = 0)
    (hRoom : u.pending.length + (blocks.flatMap meaning).length ≤ 2046) :
    (u.run (blocks.flatMap coded)).block = 0 ∧
      (u.run (blocks.flatMap coded)).pending = u.pending ++ blocks.flatMap meaning ∧
      u.packets (blocks.flatMap coded) = [] := by
  induction blocks generalizing u with
  | nil => exact ⟨hStart, (List.append_nil _).symm, rfl⟩
  | cons block rest ih =>
      rw [List.flatMap_cons, List.length_append] at hRoom
      have hMeaning := length_le_meaning block
      obtain ⟨hNonzero, hLength⟩ := hBlocks block List.mem_cons_self
      obtain ⟨hZero, hPending, hPackets⟩ :=
        run_coded (u := u) hNonzero hLength hStart (by omega)
      obtain ⟨hRestZero, hRestPending, hRestPackets⟩ :=
        ih (u := u.run (coded block))
          (fun other hOther => hBlocks other (List.mem_cons_of_mem _ hOther)) hZero
          (by rw [hPending, List.length_append]; omega)
      rw [List.flatMap_cons, run_append, packets_append, hRestPending, hPending, hRestPackets,
        hPackets, List.flatMap_cons, List.append_assoc]
      exact ⟨hRestZero, rfl, rfl⟩

/-- The last byte is lost if the packet ends in a full block. -/
theorem packets_stuffed {data : List UInt8} (hLength : data.length ≤ 2045) :
    idle.packets (stuffed data) = [if EndsInFullBlock data then data.dropLast else data] := by
  have hMeaning := @flatMap_meaning_blocksFrom [] data isOpen_nil
  rw [List.nil_append] at hMeaning
  have hRoom : idle.pending.length + ((blocksFrom [] data).flatMap meaning).length ≤ 2046 := by
    rw [hMeaning, List.length_append]
    split_ifs <;> simp [idle, pending] <;> omega
  obtain ⟨hZero, hPending, hNone⟩ := run_blocks (of_mem_blocksFrom isOpen_nil) rfl hRoom
  have hIdle : idle.pending = [] := rfl
  rw [stuffed, packets_append, stuffedFrom, hNone, packets, Unstuffer.packet, hPending, hZero,
    hMeaning, hIdle, List.nil_append, List.nil_append]
  by_cases hEnds : EndsInFullBlock data
  · rw [if_pos hEnds, if_pos hEnds, List.append_nil, if_pos ⟨rfl, rfl, hEnds.ne_nil⟩]
    rfl
  · rw [if_neg hEnds, if_neg hEnds, if_pos ⟨rfl, rfl, by simp⟩, List.dropLast_concat]
    rfl

end Unstuffer

open CobsDecoder Unstuffer

/-- What the bytes of the encoder do to a decoder, whatever its reads are. -/
theorem cobsDecodeReads_cobsEncode {data : List UInt8} (hLength : data.length ≤ 2045)
    {d : CobsDecoder} (hReset : d.IsReset) {reads : List (List UInt8)}
    (hReads : reads.flatten.map some = (cobsEncode data).1.content (cobsEncode data).2) :
    (d.cobsDecodeReads reads).packets =
        d.packets ++ [call (if EndsInFullBlock data then data.dropLast else data)] ∧
      (d.cobsDecodeReads reads).IsReset := by
  rw [cobsEncode_eq, Memory.content_ofList] at hReads
  have hBytes : reads.flatten = stuffed data :=
    List.map_injective_iff.mpr (Option.some_injective _) hReads
  have hFollows := hReset.follows.cobsDecode (stuffed data)
  rw [stuffed, run_zero] at hFollows
  rw [cobsDecodeReads_eq, hBytes, hReset.follows.cobsDecode_packets, packets_stuffed hLength]
  exact ⟨rfl, hFollows.isReset⟩

theorem call_injective : Function.Injective call := by
  intro first second hSame
  have hContent := congrArg Packet.content hSame
  exact List.map_injective_iff.mpr (Option.some_injective _) hContent

/-- A packet arrives as it was sent, unless it ends in a full block. -/
theorem cobsDecode_cobsEncode_iff {data : List UInt8} (hLength : data.length ≤ 1024)
    {d : CobsDecoder} (hReset : d.IsReset) {reads : List (List UInt8)}
    (hReads : reads.flatten.map some = (cobsEncode data).1.content (cobsEncode data).2) :
    ((d.cobsDecodeReads reads).packets = d.packets ++ [call data] ∧
      (d.cobsDecodeReads reads).IsReset) ↔ ¬EndsInFullBlock data := by
  obtain ⟨hPackets, hEnd⟩ := cobsDecodeReads_cobsEncode (by omega) hReset hReads
  rw [hPackets, List.append_cancel_left_eq]
  by_cases hEnds : EndsInFullBlock data
  · have hPos : 0 < data.length := List.length_pos_of_ne_nil hEnds.ne_nil
    rw [if_pos hEnds]
    refine iff_of_false (fun hSame => ?_) (not_not.mpr hEnds)
    -- the two calls differ in the length already
    have hLengths := congrArg List.length (call_injective (List.singleton_inj.mp hSame.1))
    rw [List.length_dropLast] at hLengths
    omega
  · rw [if_neg hEnds]
    exact iff_of_true ⟨rfl, hEnd⟩ hEnds

theorem cobsDecode_cobsEncode_kept :
    (fresh.cobsDecodeReads [[3, 5], [7, 1, 0]]).packets = [call [5, 7, 0]] := by
  have hLength : [5, 7, (0 : UInt8)].length ≤ 1024 := by decide
  have hReads : [[3, 5], [7, 1, (0 : UInt8)]].flatten.map some =
      (cobsEncode [5, 7, 0]).1.content (cobsEncode [5, 7, 0]).2 := by decide
  exact ((cobsDecode_cobsEncode_iff hLength isReset_fresh hReads).mpr (by decide)).1

/-- Of 254 bytes without a zero the last one is lost. -/
theorem cobsDecode_cobsEncode_lost :
    ¬∀ data : List UInt8, data.length ≤ 1024 → ∀ d : CobsDecoder, d.IsReset →
      ∀ reads : List (List UInt8),
        reads.flatten.map some = (cobsEncode data).1.content (cobsEncode data).2 →
        (d.cobsDecodeReads reads).packets = d.packets ++ [call data] ∧
          (d.cobsDecodeReads reads).IsReset := by
  intro hAll
  have hLength : (List.replicate 254 (1 : UInt8)).length = 254 := List.length_replicate
  have hReads : [stuffed (List.replicate 254 1)].flatten.map some =
      (cobsEncode (List.replicate 254 1)).1.content (cobsEncode (List.replicate 254 1)).2 := by
    rw [cobsEncode_eq, Memory.content_ofList, List.flatten_singleton]
  have hEnds : EndsInFullBlock (List.replicate 254 1) := endsInFullBlock_replicate (by decide)
  have hWhole := (hAll _ (by rw [hLength]; decide) fresh isReset_fresh _ hReads).1
  have hLess := (cobsDecodeReads_cobsEncode (by rw [hLength]; decide) isReset_fresh hReads).1
  rw [hWhole, if_pos hEnds, List.append_cancel_left_eq] at hLess
  have hLengths := congrArg List.length (call_injective (List.singleton_inj.mp hLess))
  rw [List.length_dropLast, hLength] at hLengths
  omega

end EverestCore.Serial
