import EverestCore.Serial.PacketCrc

/-! Two peers on a serial line that run this code. One writes messages, and the other one reads
bytes, in whatever portions they come. -/
namespace EverestCore.Serial
open Cobs ShiftRegister CobsDecoder Unstuffer

/-- The last byte of a packet that ends in a full block is lost on the way. -/
def carried (packet : List UInt8) : List UInt8 :=
  if EndsInFullBlock packet then packet.dropLast else packet

section Stream

variable {u : Unstuffer}

/-- A stuffed packet is decoded whatever comes behind it. -/
theorem packets_stuffed_append {data : List UInt8} (hLength : data.length ≤ 2045)
    (rest : List UInt8) :
    idle.packets (stuffed data ++ rest) = carried data :: idle.packets rest := by
  rw [packets_append, packets_stuffed hLength, stuffed, run_zero]
  rfl

/-- Frames one after the other are taken apart again, each into its packet. -/
theorem packets_flatMap_stuffed {packets : List (List UInt8)}
    (hLength : ∀ data ∈ packets, data.length ≤ 2045) :
    idle.packets (packets.flatMap stuffed) = packets.map carried := by
  induction packets with
  | nil => rfl
  | cons data rest ih =>
      rw [List.flatMap_cons, packets_stuffed_append (hLength data List.mem_cons_self),
        List.map_cons, ih fun other hOther => hLength other (List.mem_cons_of_mem _ hOther)]

/-- Behind whole frames the stream starts anew. -/
theorem run_flatMap_stuffed (packets : List (List UInt8)) :
    idle.run (packets.flatMap stuffed) = idle := by
  rcases List.eq_nil_or_concat' packets with rfl | ⟨before, last, rfl⟩
  · rfl
  · rw [List.flatMap_append, List.flatMap_singleton, stuffed, ← List.append_assoc, run_zero]

/-- Only a zero completes a packet. -/
theorem length_packets_le (bytes : List UInt8) (u : Unstuffer) :
    (u.packets bytes).length ≤ bytes.count 0 := by
  induction bytes generalizing u with
  | nil => exact le_rfl
  | cons byte rest ih =>
      rw [Unstuffer.packets, List.length_append]
      by_cases hByte : byte = 0
      · subst hByte
        have hOne : (u.packet 0).toList.length ≤ 1 := by
          cases u.packet 0 <;> simp
        have hRest := ih (u.next 0)
        rw [List.count_cons_self]
        omega
      · have hNone : u.packet byte = none := if_neg fun hAll => hByte hAll.1
        rw [hNone, List.count_cons_of_ne hByte]
        simpa using ih (u.next byte)

end Stream

/-! What is left of a packet whose last byte is lost is never accepted. -/

/-- The last byte of a full block is not zero. -/
theorem EndsInFullBlock.getLast_ne_zero {packet : List UInt8} (hEnds : EndsInFullBlock packet)
    {front : List UInt8} {last : UInt8} (hPacket : packet = front ++ [last]) : last ≠ 0 := by
  rintro rfl
  apply hEnds.1
  rw [hPacket, List.rtakeWhile_concat_neg _ _ _ (by simp)]

/-- The checksum of a buffer with nothing else in it. -/
theorem crc32_bufferOf (bytes : List UInt8) :
    crc32 (bufferOf bytes) bytes.length = feedAll crcPoly 0xFFFFFFFF#32 bytes := by
  have hCovered := @covered_bufferOf bytes []
  rw [List.append_nil] at hCovered
  rw [crc32_eq, hCovered]

/-- A packet is its payload and the checksum of it. -/
theorem txPacket_eq (payload : List UInt8) :
    txPacket payload = payload ++ toBytes 4 (feedAll crcPoly 0xFFFFFFFF#32 payload) := by
  rw [txPacket, crcTrailer_eq, crc32_bufferOf]

/-- Three bytes of a checksum are its own checksum only if the fourth one is zero. -/
theorem handlePacket_dropLast {payload : List UInt8} (hEnds : EndsInFullBlock (txPacket payload)) :
    handlePacket (bufferOf (txPacket payload).dropLast) (txPacket payload).dropLast.length =
      none := by
  generalize hCrc : feedAll crcPoly 0xFFFFFFFF#32 payload = crc
  let last : UInt8 := .ofBitVec ((crc >>> 8 >>> 8 >>> 8).setWidth 8)
  have hTrailer : toBytes 4 crc = toBytes 3 crc ++ [last] := rfl
  have hPacket : txPacket payload = (payload ++ toBytes 3 crc) ++ [last] := by
    rw [txPacket_eq, hCrc, hTrailer, List.append_assoc]
  have hLast : last ≠ 0 := EndsInFullBlock.getLast_ne_zero hEnds hPacket
  have hNonzero : feedAll crcPoly 0xFFFFFFFF#32 (payload ++ toBytes 3 crc) ≠ 0 := by
    rw [feedAll_append, hCrc, Ne,
      feedAll_eq_zero_iff crcPoly crcPoly_msb (by rw [length_toBytes]; decide)]
    intro hSame
    have hLess : crc.toNat < 2 ^ 24 := by
      rw [hSame]
      have hBytes : (ofBytes (toBytes 3 crc) : BitVec 32).toNat <
          2 ^ (8 * (toBytes 3 crc).length) := ofBytes_lt (toBytes 3 crc)
      rwa [length_toBytes] at hBytes
    apply hLast
    have hShifted : crc >>> 8 >>> 8 >>> 8 = 0#32 := by
      apply BitVec.eq_of_toNat_eq
      simp only [BitVec.toNat_ushiftRight, BitVec.toNat_ofNat, Nat.shiftRight_eq_div_pow]
      omega
    simp only [last, hShifted]
    rfl
  rw [hPacket, List.dropLast_concat, handlePacket, crc32_bufferOf, if_pos hNonzero]

/-- The bytes that `handlePacket` decodes a message from. -/
def handedOn (p : Packet) : Option (List UInt8) :=
  let bytes := p.content.map fun byte => byte.getD 0
  (handlePacket (bufferOf bytes) p.len).map fun len => bytes.take len.toNat

/-- A message arrives as it was sent, or not at all. -/
theorem handedOn_carried (payload : List UInt8) :
    handedOn (call (carried (txPacket payload))) =
      if EndsInFullBlock (txPacket payload) then none else some payload := by
  have hContent (packet : List UInt8) :
      (call packet).content.map (fun byte => byte.getD 0) = packet := by
    rw [call, List.map_map]
    exact List.map_id packet
  unfold handedOn
  dsimp only
  rw [hContent, carried]
  split
  · rw [call, handlePacket_dropLast ‹_›]
    rfl
  · rw [call, handlePacket_txPacket, Option.map_some, Int.toNat_natCast, txPacket,
      List.take_left]

/-- Messages that are their own encoding. -/
def plainEncode (m : List UInt8) : Option (List UInt8) :=
  if m.length ≤ txPayloadSize then some m else none

/-- The plain codec keeps to the size of a payload. -/
theorem length_plainEncode (m payload : List UInt8) (h : plainEncode m = some payload) :
    payload.length ≤ txPayloadSize := by
  unfold plainEncode at h
  split at h
  · cases h
    exact ‹_›
  · cases h

/-- The plain codec reads what it has written. -/
theorem decode_plainEncode (m payload : List UInt8) (h : plainEncode m = some payload) :
    some payload = some m := by
  unfold plainEncode at h
  split at h
  · exact h.symm
  · cases h

section Messages

variable {Message : Type} (pbEncode : Message → Option (List UInt8))
  (pbDecode : List UInt8 → Option Message)

/-- The bytes of several messages. One that cannot be encoded is not sent. -/
def linkWriteAll (messages : List Message) : List (Option UInt8) :=
  messages.flatMap fun m => (linkWrite pbEncode m).getD []

/-- The messages that are decoded from the packets. -/
def received (packets : List Packet) : List Message :=
  packets.filterMap fun p => (handedOn p).bind pbDecode

/-- A message that can be encoded, and whose packet does not end in a full block. -/
def Crosses (m : Message) : Prop :=
  ∃ payload, pbEncode m = some payload ∧ ¬EndsInFullBlock (txPacket payload)

instance (m : Message) : Decidable (Crosses pbEncode m) :=
  decidable_of_iff (∃ payload ∈ pbEncode m, ¬EndsInFullBlock (txPacket payload)) Iff.rfl

/-- The packets of several messages. -/
def sentPackets (messages : List Message) : List (List UInt8) :=
  (messages.filterMap pbEncode).map txPacket

variable {pbEncode pbDecode}

/-- The messages of a writer are the frames of their packets, one after the other. -/
theorem linkWriteAll_eq (messages : List Message) :
    linkWriteAll pbEncode messages =
      ((sentPackets pbEncode messages).flatMap stuffed).map some := by
  induction messages with
  | nil => rfl
  | cons m rest ih =>
      rw [linkWriteAll, List.flatMap_cons, ← linkWriteAll, ih, sentPackets, sentPackets, linkWrite]
      cases hPayload : pbEncode m with
      | none => simp [hPayload]
      | some payload => simp [hPayload, cobsEncode_eq, Memory.content_ofList]

/-- The packets of two stretches are received one after the other. -/
theorem received_append (before after : List Packet) :
    received pbDecode (before ++ after) = received pbDecode before ++ received pbDecode after :=
  List.filterMap_append

/-- The packets that are sent fit the buffer of the reader. -/
theorem length_of_mem_sentPackets
    (hSize : ∀ m payload, pbEncode m = some payload → payload.length ≤ txPayloadSize)
    {messages : List Message} :
    ∀ packet ∈ sentPackets pbEncode messages, packet.length ≤ 2045 := by
  intro packet hPacket
  obtain ⟨payload, hPayload, rfl⟩ := List.mem_map.mp hPacket
  obtain ⟨m, -, hEncode⟩ := List.mem_filterMap.mp hPayload
  have hLength := hSize m payload hEncode
  rw [txPayloadSize] at hLength
  rw [length_txPacket]
  omega

/-- A peer that has heard nothing else reads the packets, whatever portions they come in. -/
theorem cobsDecodeReads_linkWriteAll
    (hSize : ∀ m payload, pbEncode m = some payload → payload.length ≤ txPayloadSize)
    {d : CobsDecoder} (hReset : d.IsReset) {messages : List Message}
    {reads : List (List UInt8)} (hReads : reads.flatten.map some = linkWriteAll pbEncode messages) :
    (d.cobsDecodeReads reads).packets =
        d.packets ++ ((sentPackets pbEncode messages).map carried).map call ∧
      (d.cobsDecodeReads reads).IsReset := by
  have hBytes : reads.flatten = (sentPackets pbEncode messages).flatMap stuffed := by
    rw [linkWriteAll_eq] at hReads
    exact List.map_injective_iff.mpr (Option.some_injective _) hReads
  have hFollows := hReset.follows.cobsDecode reads.flatten
  rw [hBytes, run_flatMap_stuffed] at hFollows
  rw [cobsDecodeReads_eq, hBytes, hReset.follows.cobsDecode_packets,
    packets_flatMap_stuffed (length_of_mem_sentPackets hSize)]
  exact ⟨rfl, hFollows.isReset⟩

section Decode

variable (hDecode : ∀ m payload, pbEncode m = some payload → pbDecode payload = some m)

include hDecode

/-- Of what is sent the messages that cross are received. -/
theorem received_sent (messages : List Message) :
    received pbDecode (((sentPackets pbEncode messages).map carried).map call) =
      messages.filter fun m => Crosses pbEncode m := by
  induction messages with
  | nil => rfl
  | cons m rest ih =>
      cases hPayload : pbEncode m with
      | none =>
          have hNot : ¬Crosses pbEncode m := by
            rintro ⟨payload, hSome, -⟩
            cases hPayload.symm.trans hSome
          rw [List.filter_cons_of_neg (by simpa using hNot), ← ih, sentPackets, sentPackets,
            List.filterMap_cons_none hPayload]
      | some payload =>
          have hHead : (handedOn (call (carried (txPacket payload)))).bind pbDecode =
              if Crosses pbEncode m then some m else none := by
            have hCrosses : Crosses pbEncode m ↔ ¬EndsInFullBlock (txPacket payload) := by
              constructor
              · rintro ⟨other, hOther, hOpen⟩
                cases hPayload.symm.trans hOther
                exact hOpen
              · exact fun hOpen => ⟨payload, hPayload, hOpen⟩
            rw [handedOn_carried]
            by_cases hEnds : EndsInFullBlock (txPacket payload)
            · rw [if_pos hEnds, if_neg fun h => hCrosses.mp h hEnds]
              rfl
            · rw [if_neg hEnds, if_pos (hCrosses.mpr hEnds)]
              exact hDecode m payload hPayload
          rw [sentPackets, List.filterMap_cons_some hPayload, List.map_cons, List.map_cons,
            List.map_cons, received, List.filterMap_cons, hHead, ← received, ← sentPackets, ih]
          split_ifs with hCrosses <;> simp [hCrosses]

variable (hSize : ∀ m payload, pbEncode m = some payload → payload.length ≤ txPayloadSize)

include hSize

/-- A peer that has heard nothing else gets the messages in their order, each of them once and as
it was sent, but for those whose packets end in a full block, which do not arrive at all. -/
theorem link_delivers {d : CobsDecoder} (hReset : d.IsReset) {messages : List Message}
    {reads : List (List UInt8)} (hReads : reads.flatten.map some = linkWriteAll pbEncode messages) :
    received pbDecode (d.cobsDecodeReads reads).packets =
        received pbDecode d.packets ++ messages.filter (fun m => Crosses pbEncode m) ∧
      (d.cobsDecodeReads reads).IsReset := by
  obtain ⟨hPackets, hResetAfter⟩ := cobsDecodeReads_linkWriteAll hSize hReset hReads
  rw [hPackets, received_append, received_sent hDecode]
  exact ⟨rfl, hResetAfter⟩

end Decode

end Messages

theorem link_delivers_kept :
    received some (fresh.cobsDecodeReads
      [[6, 5, 253], [228, 151, 93, 0, 2, 7, 5, 199], [123, 103, 241, 0]]).packets =
        [[5], [7, 0]] := by
  have hReads : [[6, 5, 253], [228, 151, 93, 0, 2, 7, 5, 199],
      [123, 103, 241, (0 : UInt8)]].flatten.map some =
        linkWriteAll plainEncode [[5], [7, 0]] := by decide +kernel
  rw [(link_delivers decode_plainEncode length_plainEncode isReset_fresh hReads).1]
  decide +kernel

/-- After any noise, only the first message can get lost: the packets of all others are decoded as
they were sent. The noise makes at most as many packets as it has zeros, and one with the end of the
first message. -/
theorem link_recovers {Message : Type} {pbEncode : Message → Option (List UInt8)}
    {pbDecode : List UInt8 → Option Message}
    (hDecode : ∀ m payload, pbEncode m = some payload → pbDecode payload = some m)
    (hSize : ∀ m payload, pbEncode m = some payload → payload.length ≤ txPayloadSize)
    {d : CobsDecoder} (hReset : d.IsReset) (noise : List UInt8) {first : Message}
    (hFirst : (pbEncode first).isSome) {rest : List Message}
    {reads : List (List UInt8)}
    (hReads : reads.flatten.map some = noise.map some ++ linkWriteAll pbEncode (first :: rest)) :
    ∃ garbled later, (d.cobsDecodeReads reads).packets = d.packets ++ garbled ++ later ∧
      garbled.length ≤ noise.count 0 + 1 ∧
      received pbDecode later = rest.filter (fun m => Crosses pbEncode m) ∧
      (d.cobsDecodeReads reads).IsReset := by
  obtain ⟨payload, hPayload⟩ := Option.isSome_iff_exists.mp hFirst
  let head := noise ++ stuffedFrom [] (txPacket payload)
  have hBytes : reads.flatten =
      (head ++ [0]) ++ (sentPackets pbEncode rest).flatMap stuffed := by
    rw [linkWriteAll_eq, ← List.map_append] at hReads
    rw [List.map_injective_iff.mpr (Option.some_injective _) hReads, sentPackets,
      List.filterMap_cons_some hPayload, List.map_cons, List.flatMap_cons, stuffed, sentPackets]
    simp [head]
  -- there is no zero in the stuffed packet, and its delimiter resets the decoder
  have hZeros : (head ++ [0]).count 0 = noise.count 0 + 1 := by
    have hNone : (stuffedFrom [] (txPacket payload)).count 0 = 0 :=
      List.count_eq_zero.mpr fun hZero => stuffedFrom_nonzero isOpen_nil 0 hZero rfl
    rw [List.count_append, List.count_append, hNone]
    rfl
  have hFollows := hReset.follows.cobsDecode reads.flatten
  rw [hBytes, Unstuffer.run_append, run_zero, run_flatMap_stuffed] at hFollows
  refine ⟨(idle.packets (head ++ [0])).map call,
    ((sentPackets pbEncode rest).map carried).map call, ?_, ?_, received_sent hDecode rest, ?_⟩
  · rw [cobsDecodeReads_eq, hBytes, hReset.follows.cobsDecode_packets, packets_append, run_zero,
      packets_flatMap_stuffed (length_of_mem_sentPackets hSize), List.map_append]
    exact (List.append_assoc _ _ _).symm
  · have hLength := length_packets_le (head ++ [0]) idle
    rwa [hZeros, ← List.length_map call] at hLength
  · rw [cobsDecodeReads_eq, hBytes]
    exact hFollows.isReset

/-- The first two bytes are left of a block that was cut off. They make one packet with the end of
the first message. -/
theorem link_recovers_kept :
    ∃ garbled later, (fresh.cobsDecodeReads
        [[9, 7, 6, 5, 253], [228, 151, 93, 0, 2, 7, 5, 199], [123, 103, 241, 0]]).packets =
          garbled ++ later ∧ garbled.length ≤ 1 ∧ received some later = [[7, 0]] := by
  have hReads : [[9, 7, 6, 5, 253], [228, 151, 93, 0, 2, 7, 5, 199],
      [123, 103, 241, (0 : UInt8)]].flatten.map some =
        [9, 7].map some ++ linkWriteAll plainEncode [[5], [7, 0]] := by decide +kernel
  obtain ⟨garbled, later, hPackets, hLength, hReceived, -⟩ := link_recovers decode_plainEncode
    length_plainEncode isReset_fresh [9, 7] (by decide : (plainEncode [5]).isSome) hReads
  have hRest : [[7, (0 : UInt8)]].filter (fun m => Crosses plainEncode m) = [[7, 0]] := by
    decide +kernel
  exact ⟨garbled, later, hPackets, hLength, hReceived.trans hRest⟩

end EverestCore.Serial
