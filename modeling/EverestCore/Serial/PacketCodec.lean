import EverestCore.Serial.Link

/-! A link whose messages always fit into short packets. No such packet ends in a full block, so
that nothing is lost on a clean line, and a receiver handles packets as if it had got messages. -/
namespace EverestCore.Serial
open CobsDecoder

/-- A packet without room for a full block does not end in one. -/
theorem not_endsInFullBlock_of_short {packet : List UInt8} (hShort : packet.length < 254) :
    ¬Cobs.EndsInFullBlock packet := by
  rintro ⟨hTail, hFull⟩
  have hLess := Nat.le_of_dvd (List.length_pos_of_ne_nil hTail) hFull
  have hSub : (packet.rtakeWhile (· ≠ 0)).length ≤ packet.length :=
    (List.rtakeWhile_suffix _ _).length_le
  have hBlock : Cobs.fullLength = 254 := rfl
  omega

theorem not_endsInFullBlock_txPacket {payload : List UInt8} (hShort : payload.length < 250) :
    ¬Cobs.EndsInFullBlock (txPacket payload) := by
  apply not_endsInFullBlock_of_short
  rw [length_txPacket]
  omega

theorem filterMap_plainEncode {payloads : List (List UInt8)}
    (hShort : ∀ payload ∈ payloads, payload.length < 250) :
    payloads.filterMap plainEncode = payloads := by
  induction payloads with
  | nil => rfl
  | cons payload rest ih =>
      have hLength := hShort payload List.mem_cons_self
      have hPlain : plainEncode payload = some payload := if_pos (by rw [txPayloadSize]; omega)
      rw [List.filterMap_cons_some hPlain,
        ih fun other hOther => hShort other (List.mem_cons_of_mem _ hOther)]

/-- `evSerial::serial_timed_out`, in milliseconds. -/
def serialTimedOut (now lastKeepAliveLoTimestamp : ℤ) : Bool :=
  5000 ≤ now - lastKeepAliveLoTimestamp

/-- Messages that are always encoded in a few bytes, and decoded as they were. The variable that a
message is decoded into holds `garbage` before. -/
structure PacketCodec (Message : Type) where
  encode : Message → Option (List UInt8)
  decode (garbage : Message) : List UInt8 → Option Message
  size : ℕ
  small : size < 250
  round_trip : ∀ m garbage, ∃ payload, encode m = some payload ∧ payload.length ≤ size ∧
    decode garbage payload = some m

namespace PacketCodec

variable {Message : Type} (codec : PacketCodec Message)

theorem encode_spec {m : Message} {payload : List UInt8} (hPayload : codec.encode m = some payload)
    (garbage : Message) :
    payload.length < 250 ∧ codec.decode garbage payload = some m := by
  obtain ⟨other, hOther, hLength, hDecode⟩ := codec.round_trip m garbage
  obtain rfl := Option.some.inj (hPayload.symm.trans hOther)
  exact ⟨Nat.lt_of_le_of_lt hLength codec.small, hDecode⟩

theorem decode_encode (garbage m : Message) (payload : List UInt8)
    (hPayload : codec.encode m = some payload) : codec.decode garbage payload = some m :=
  (codec.encode_spec hPayload garbage).2

theorem length_encode (m : Message) (payload : List UInt8)
    (hPayload : codec.encode m = some payload) : payload.length ≤ txPayloadSize := by
  have hLength := (codec.encode_spec hPayload m).1
  rw [txPayloadSize]
  omega

theorem crosses (m : Message) : Crosses codec.encode m := by
  obtain ⟨payload, hPayload, -⟩ := codec.round_trip m m
  exact ⟨payload, hPayload, not_endsInFullBlock_txPacket (codec.encode_spec hPayload m).1⟩

/-- All messages arrive. -/
theorem delivers {d : CobsDecoder} (hReset : d.IsReset) {messages : List Message}
    {reads : List (List UInt8)}
    (hReads : reads.flatten.map some = linkWriteAll codec.encode messages) (garbage : Message) :
    received (codec.decode garbage) (d.cobsDecodeReads reads).packets =
        received (codec.decode garbage) d.packets ++ messages ∧
      (d.cobsDecodeReads reads).IsReset := by
  obtain ⟨hPackets, hResetAfter⟩ := cobsDecodeReads_linkWriteAll codec.length_encode hReset hReads
  have hAll : messages.filter (fun m => Crosses codec.encode m) = messages :=
    List.filter_eq_self.mpr fun m _ => decide_eq_true (codec.crosses m)
  rw [hPackets, received_append, received_sent (codec.decode_encode garbage), hAll]
  exact ⟨rfl, hResetAfter⟩

section Handling

/- Each call of `handlePacket` reads a `Moment` of its host: what the variable of the message held,
and whatever else the message is handled with. -/
variable {State Moment : Type} (msgIn : Moment → Message)
  (handleMessage : Moment → Message → State → State)

def handlePacket (moment : Moment) (p : Packet) (s : State) : State :=
  match (handedOn p).bind (codec.decode (msgIn moment)) with
  | none => s
  | some m => handleMessage moment m s

/-- Packet after packet, the next one at the next moment. -/
def handlePackets (moment : ℕ → Moment) : List Packet → State → State
  | [], s => s
  | p :: rest, s =>
      handlePackets (fun i => moment (i + 1)) rest
        (codec.handlePacket msgIn handleMessage (moment 0) p s)

/-- The messages without a line between the peers. -/
def handleMessages (moment : ℕ → Moment) : List Message → State → State
  | [], s => s
  | m :: rest, s => handleMessages (fun i => moment (i + 1)) rest (handleMessage (moment 0) m s)

/-- The messages that are found in the payloads, each with the moment at which its packet is
handled. A payload that is refused has its moment as well. -/
def found (moment : ℕ → Moment) (payloads : List (List UInt8)) : List (Moment × Message) :=
  payloads.zipIdx.filterMap fun (payload, i) =>
    (codec.decode (msgIn (moment i)) payload).map fun m => (moment i, m)

def handleFound (found : List (Moment × Message)) (s : State) : State :=
  found.foldl (fun s (moment, m) => handleMessage moment m s) s

variable {msgIn handleMessage}

theorem found_cons (moment : ℕ → Moment) (payload : List UInt8) (rest : List (List UInt8)) :
    codec.found msgIn moment (payload :: rest) =
      ((codec.decode (msgIn (moment 0)) payload).map fun m => (moment 0, m)).toList ++
        codec.found msgIn (fun i => moment (i + 1)) rest := by
  rw [found, List.zipIdx_cons, List.filterMap_cons, List.zipIdx_succ, List.filterMap_map]
  dsimp only
  cases codec.decode (msgIn (moment 0)) payload <;> rfl

/-- A packet with a short payload is handled as the message that is found in it, if there is one. -/
theorem handlePacket_payload {payload : List UInt8} (hShort : payload.length < 250)
    (moment : Moment) (s : State) :
    codec.handlePacket msgIn handleMessage moment (call (carried (txPacket payload))) s =
      handleFound handleMessage
        ((codec.decode (msgIn moment) payload).map fun m => (moment, m)).toList s := by
  have hHanded : handedOn (call (carried (txPacket payload))) = some payload := by
    rw [handedOn_carried, if_neg (not_endsInFullBlock_txPacket hShort)]
  rw [handlePacket, hHanded, Option.bind_some]
  cases codec.decode (msgIn moment) payload <;> rfl

theorem handlePackets_payloads {payloads : List (List UInt8)}
    (hShort : ∀ payload ∈ payloads, payload.length < 250) (moment : ℕ → Moment) (s : State) :
    codec.handlePackets msgIn handleMessage moment (((payloads.map txPacket).map carried).map call)
        s = handleFound handleMessage (codec.found msgIn moment payloads) s := by
  induction payloads generalizing moment s with
  | nil => rfl
  | cons payload rest ih =>
      obtain ⟨hFirst, hRest⟩ := List.forall_mem_cons.mp hShort
      rw [List.map_cons, List.map_cons, List.map_cons, handlePackets,
        codec.handlePacket_payload hFirst, ih hRest, found_cons, handleFound, handleFound,
        handleFound, List.foldl_append]

/-- In the payloads of the same encoder, every message is found. -/
theorem handleFound_encode (messages : List Message) (moment : ℕ → Moment) (s : State) :
    handleFound handleMessage (codec.found msgIn moment (messages.filterMap codec.encode)) s =
      handleMessages handleMessage moment messages s := by
  induction messages generalizing moment s with
  | nil => rfl
  | cons m rest ih =>
      obtain ⟨payload, hPayload, -, hDecode⟩ := codec.round_trip m (msgIn (moment 0))
      rw [List.filterMap_cons_some hPayload, found_cons, hDecode, handleFound, List.foldl_append,
        handleMessages, ← ih]
      rfl

/-- Whatever portions the payloads are read in, whoever has encoded them. -/
theorem handles_payloads {payloads : List (List UInt8)}
    (hShort : ∀ payload ∈ payloads, payload.length < 250) {d : CobsDecoder} (hReset : d.IsReset)
    {reads : List (List UInt8)}
    (hReads : reads.flatten.map some = linkWriteAll plainEncode payloads)
    (moment : ℕ → Moment) (s : State) :
    ∃ packets, (d.cobsDecodeReads reads).packets = d.packets ++ packets ∧
      codec.handlePackets msgIn handleMessage moment packets s =
        handleFound handleMessage (codec.found msgIn moment payloads) s ∧
      (d.cobsDecodeReads reads).IsReset := by
  obtain ⟨hPackets, hResetAfter⟩ := cobsDecodeReads_linkWriteAll length_plainEncode hReset hReads
  rw [sentPackets, filterMap_plainEncode hShort] at hPackets
  exact ⟨_, hPackets, codec.handlePackets_payloads hShort moment s, hResetAfter⟩

theorem short_filterMap_encode (messages : List Message) :
    ∀ payload ∈ messages.filterMap codec.encode, payload.length < 250 := by
  intro payload hPayload
  obtain ⟨m, -, hEncode⟩ := List.mem_filterMap.mp hPayload
  exact (codec.encode_spec hEncode m).1

/-- The messages of a peer with the same encoder. -/
theorem handles {d : CobsDecoder} (hReset : d.IsReset) {messages : List Message}
    {reads : List (List UInt8)}
    (hReads : reads.flatten.map some = linkWriteAll codec.encode messages)
    (moment : ℕ → Moment) (s : State) :
    ∃ packets, (d.cobsDecodeReads reads).packets = d.packets ++ packets ∧
      codec.handlePackets msgIn handleMessage moment packets s =
        handleMessages handleMessage moment messages s ∧
      (d.cobsDecodeReads reads).IsReset := by
  obtain ⟨hPackets, hResetAfter⟩ := cobsDecodeReads_linkWriteAll codec.length_encode hReset hReads
  refine ⟨_, hPackets, ?_, hResetAfter⟩
  exact (codec.handlePackets_payloads (codec.short_filterMap_encode messages) moment s).trans
    (codec.handleFound_encode messages moment s)

end Handling

section Stamps

variable {State Moment : Type} {msgIn : Moment → Message}
  {handleMessage : Moment → Message → State → State}

/-- A packet in which a message of this kind is found. -/
def Found (kind : Message → Bool) (garbage : Message) (p : Packet) : Prop :=
  ∃ m, (handedOn p).bind (codec.decode garbage) = some m ∧ kind m

variable {kind : Message → Bool} {now : Moment → ℤ} {stamp : State → ℤ}
  (hStamp : ∀ moment m s,
    stamp (handleMessage moment m s) = if kind m then now moment else stamp s)

include hStamp

/-- A packet sets the time stamp exactly if a message of the kind is found in it. -/
theorem stamp_handlePacket (moment : Moment) (p : Packet) (s : State) :
    (codec.Found kind (msgIn moment) p ∧
        stamp (codec.handlePacket msgIn handleMessage moment p s) = now moment) ∨
      (¬codec.Found kind (msgIn moment) p ∧
        stamp (codec.handlePacket msgIn handleMessage moment p s) = stamp s) := by
  unfold Found handlePacket
  cases hMessage : (handedOn p).bind (codec.decode (msgIn moment)) with
  | none => exact .inr ⟨by simp, rfl⟩
  | some m =>
      dsimp only
      rw [hStamp]
      by_cases hKind : kind m
      · exact .inl ⟨⟨m, rfl, hKind⟩, if_pos hKind⟩
      · refine .inr ⟨?_, if_neg hKind⟩
        rintro ⟨other, hOther, hFound⟩
        cases hOther
        exact hKind hFound

/-- On a clock that does not go back, the last time stamp is the latest one. -/
theorem stamp_le_iff {bound : ℤ} {packets : List Packet} {moment : ℕ → Moment}
    (hClock : ∀ i j, i ≤ j → now (moment i) ≤ now (moment j)) {s : State}
    (hBefore : stamp s ≤ now (moment 0)) :
    stamp (codec.handlePackets msgIn handleMessage moment packets s) ≤ bound ↔
      stamp s ≤ bound ∧ ∀ i p, packets[i]? = some p → codec.Found kind (msgIn (moment i)) p →
        now (moment i) ≤ bound := by
  induction packets generalizing moment s with
  | nil => simp [handlePackets]
  | cons p rest ih =>
      have hNext : now (moment 0) ≤ now (moment 1) := hClock 0 1 (Nat.zero_le 1)
      have hRestClock (i j : ℕ) (hLess : i ≤ j) : now (moment (i + 1)) ≤ now (moment (j + 1)) :=
        hClock _ _ (Nat.succ_le_succ hLess)
      -- the first packet, and all others
      have hSplit : (∀ i q, (p :: rest)[i]? = some q → codec.Found kind (msgIn (moment i)) q →
            now (moment i) ≤ bound) ↔
          (codec.Found kind (msgIn (moment 0)) p → now (moment 0) ≤ bound) ∧
            ∀ i q, rest[i]? = some q → codec.Found kind (msgIn (moment (i + 1))) q →
              now (moment (i + 1)) ≤ bound := by
        constructor
        · exact fun hAll => ⟨hAll 0 p rfl, fun i q hQ => hAll (i + 1) q hQ⟩
        · rintro ⟨hFirst, hRest⟩ (_ | i) q hQ
          · cases hQ
            exact hFirst
          · exact hRest i q hQ
      rw [handlePackets, hSplit]
      rcases codec.stamp_handlePacket hStamp (moment 0) p s with ⟨hFound, hLast⟩ | ⟨hNot, hLast⟩
      · rw [ih hRestClock (hLast.trans_le hNext), hLast]
        constructor
        · exact fun hBoth => ⟨Int.le_trans hBefore hBoth.1, fun _ => hBoth.1, hBoth.2⟩
        · exact fun hAll => ⟨hAll.2.1 hFound, hAll.2.2⟩
      · rw [ih hRestClock (hLast.trans_le (Int.le_trans hBefore hNext)), hLast]
        constructor
        · exact fun hBoth => ⟨hBoth.1, fun hFound => absurd hFound hNot, hBoth.2⟩
        · exact fun hAll => ⟨hAll.1, hAll.2.2⟩

theorem serialTimedOut_iff {moment : ℕ → Moment}
    (hClock : ∀ i j, i ≤ j → now (moment i) ≤ now (moment j)) {s : State}
    (hBefore : stamp s ≤ now (moment 0)) (packets : List Packet) (time : ℤ) :
    serialTimedOut time (stamp (codec.handlePackets msgIn handleMessage moment packets s)) ↔
      5000 ≤ time - stamp s ∧ ∀ i p, packets[i]? = some p →
        codec.Found kind (msgIn (moment i)) p → 5000 ≤ time - now (moment i) := by
  have hBound (last : ℤ) : 5000 ≤ time - last ↔ last ≤ time - 5000 := by omega
  rw [serialTimedOut, decide_eq_true_iff, hBound, codec.stamp_le_iff hStamp hClock hBefore]
  simp only [hBound]

end Stamps

end PacketCodec

end EverestCore.Serial
