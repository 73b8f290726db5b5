import EverestCore.V2G.Transport

/-! The messages that repeated calls of `v2g_incoming_v2gtp` take from a stream of
bytes. How the socket cuts the stream into pieces is one thing, what the stream
says is another: the latter is a function of the bytes alone, and the calls
compute it. -/
namespace EverestCore.V2G

/-- One way in which the socket delivers a stream: in pieces with at least one byte,
and with turns in between that bring nothing. -/
inductive Segments : List Turn → List UInt8 → Prop where
  | nil : Segments [] []
  | again {turns : List Turn} {stream : List UInt8} (rest : Segments turns stream) :
      Segments (.plain .again :: turns) stream
  | piece {turns : List Turn} {stream bytes : List UInt8} (hBytes : bytes ≠ [])
      (rest : Segments turns stream) :
      Segments (.plain (.received bytes) :: turns) (bytes ++ stream)

/-- What comes after the last byte of the stream. -/
inductive Ending where
  | silent
  | endOfFile
  | closed
  | failed
  deriving DecidableEq, Repr

namespace Ending

def turns : Ending → List Turn
  | .silent => []
  | .endOfFile => [.plain (.received [])]
  | .closed => [.plain .closed]
  | .failed => [.plain .failed]

/-- The outcome of a read that the stream leaves short of its count. -/
def outcome (bytesRead : ℕ) : Ending → Outcome
  | .silent => .waiting
  | .endOfFile | .closed => .returned bytesRead
  | .failed => .returned (-1)

/-- The outcome of a call that finds the stream at its end, or inside of a header. -/
def headerOutcome (bytesRead : ℕ) : Ending → Outcome
  | .silent => .waiting
  | .endOfFile | .closed => if bytesRead = 0 then .returned 1 else .returned (-1)
  | .failed => .returned (-1)

/-- The outcome of a call that finds the payload cut off. -/
def payloadOutcome : Ending → Outcome
  | .silent => .waiting
  | _ => .returned (-1)

theorem headerOutcome_ne_zero (bytesRead : ℕ) (ending : Ending) :
    ending.headerOutcome bytesRead ≠ .returned 0 := by
  cases ending with
  | silent => exact Outcome.noConfusion
  | failed =>
      rw [headerOutcome]
      decide
  | endOfFile =>
      rw [headerOutcome]
      split <;> decide
  | closed =>
      rw [headerOutcome]
      split <;> decide

theorem payloadOutcome_ne_zero (ending : Ending) : ending.payloadOutcome ≠ .returned 0 := by
  cases ending <;> decide

end Ending

/-- What a call has stored. -/
structure Frame where
  payloadLen : UInt32
  header : List UInt8
  payload : List UInt8
  deriving DecidableEq, Repr

/-- The bytes of a message as they were sent. -/
def Frame.bytes (frame : Frame) : List UInt8 := frame.header ++ frame.payload

def Connection.frame (conn : Connection) : Frame where
  payloadLen := conn.payloadLen
  header := conn.header
  payload := (List.range conn.payloadLen.toNat).map fun i => conn.buffer (v2gtpHeaderLength + i)

section Messages

variable (readV2gtpHeader : List UInt8 → Option UInt32)

/-- The frame begins with a header that the parser reads, and its payload has the
length that the header announces. -/
structure Frame.WellFormed (frame : Frame) : Prop where
  header : frame.header.length = v2gtpHeaderLength
  accepted : readV2gtpHeader frame.header = some frame.payloadLen
  payload : frame.payload.length = frame.payloadLen.toNat

/-- The first message of a stream and what follows it, or how a call for it ends. -/
def splitFrame (ending : Ending) (stream : List UInt8) : Except Outcome (Frame × List UInt8) :=
  if stream.length < v2gtpHeaderLength then .error (ending.headerOutcome stream.length)
  else
    match readV2gtpHeader (stream.take v2gtpHeaderLength) with
    | none => .error (.returned (-1))
    | some payloadLen =>
        let rest := stream.drop v2gtpHeaderLength
        if rest.length < payloadLen.toNat then .error ending.payloadOutcome
        else
          .ok (⟨payloadLen, stream.take v2gtpHeaderLength, rest.take payloadLen.toNat⟩,
            rest.drop payloadLen.toNat)

/-- The messages of a stream, and the end, as far as a number of calls comes. -/
def framesOf (ending : Ending) : ℕ → List UInt8 → List Frame × Option Outcome
  | 0, _ => ([], none)
  | calls + 1, stream =>
      match splitFrame readV2gtpHeader ending stream with
      | .error outcome => ([], some outcome)
      | .ok (frame, rest) =>
          let (frames, result) := framesOf ending calls rest
          (frame :: frames, result)

/-- Repeated calls of `v2g_incoming_v2gtp`, until one of them does not return zero.
`between` is what the message loop makes of the connection after a message, whose
buffer it also uses for the response. -/
def receiveFrames (between : Connection → Connection) :
    ℕ → Connection → List Turn → List Frame × Option Outcome
  | 0, _, _ => ([], none)
  | calls + 1, conn, turns =>
      let (conn, turns, outcome) := v2gIncomingV2gtp readV2gtpHeader ⟨true, true, turns⟩ conn
      if outcome = .returned 0 then
        let (frames, result) := receiveFrames between calls (between conn) turns
        (conn.frame :: frames, result)
      else ([], some outcome)

/-- Every message of the stream fits into the buffer. -/
inductive FramesFit : List UInt8 → Prop where
  | short {stream : List UInt8} (hShort : stream.length < v2gtpHeaderLength) : FramesFit stream
  | refused {stream : List UInt8}
      (hRefused : readV2gtpHeader (stream.take v2gtpHeaderLength) = none) : FramesFit stream
  | message {stream : List UInt8} {payloadLen : UInt32}
      (hAccepted : readV2gtpHeader (stream.take v2gtpHeaderLength) = some payloadLen)
      (hFits : payloadLen.toNat + v2gtpHeaderLength ≤ defaultBufferSize)
      (rest : FramesFit ((stream.drop v2gtpHeaderLength).drop payloadLen.toNat)) : FramesFit stream

variable {readV2gtpHeader}

/-- A message that begins in a stream of messages that fit does fit. -/
theorem FramesFit.of_message {stream : List UInt8} {payloadLen : UInt32}
    (hFit : FramesFit readV2gtpHeader stream) (hEnough : ¬ stream.length < v2gtpHeaderLength)
    (hParsed : readV2gtpHeader (stream.take v2gtpHeaderLength) = some payloadLen) :
    payloadLen.toNat + v2gtpHeaderLength ≤ defaultBufferSize ∧
      FramesFit readV2gtpHeader ((stream.drop v2gtpHeaderLength).drop payloadLen.toNat) := by
  cases hFit with
  | short hShort => exact absurd hShort hEnough
  | refused hRefused =>
      rw [hParsed] at hRefused
      cases hRefused
  | message hAccepted hFits rest =>
      rw [hParsed] at hAccepted
      cases hAccepted
      exact ⟨hFits, rest⟩

end Messages

namespace Connection

theorem store_nil (offset : ℕ) (conn : Connection) : conn.store offset [] = conn := by
  unfold store
  simp

/-- Bytes that are stored in two pieces are stored as a whole. -/
theorem store_append (offset : ℕ) (first second : List UInt8) (conn : Connection) :
    (conn.store offset first).store (offset + first.length) second =
      conn.store offset (first ++ second) := by
  unfold store
  congr 1
  · funext i
    dsimp only
    by_cases hBefore : offset ≤ i
    · rw [if_pos hBefore, if_pos hBefore]
      by_cases hSecond : offset + first.length ≤ i
      · rw [if_pos hSecond, List.getElem?_append_right (by omega), Nat.sub_sub,
          List.getElem?_eq_none (l := first) (by omega)]
        rfl
      · rw [if_neg hSecond, List.getElem?_append_left (by omega)]
    · rw [if_neg hBefore, if_neg hBefore, if_neg (by omega)]
  · rw [List.append_assoc, List.length_append, List.range'_append_1]

/-- What was stored can be read back. -/
theorem store_buffer (offset : ℕ) (bytes : List UInt8) (conn : Connection) :
    (List.range bytes.length).map (fun i => (conn.store offset bytes).buffer (offset + i)) =
      bytes := by
  apply List.ext_getElem
  · rw [List.length_map, List.length_range]
  · intro i hLeft hRight
    rw [List.getElem_map, List.getElem_range]
    show (if offset ≤ offset + i then (bytes[offset + i - offset]?).getD _ else _) = _
    rw [if_pos (by omega), Nat.add_sub_cancel_left, List.getElem?_eq_getElem hRight]
    rfl

/-- The header stays as it is while the payload is stored behind it. -/
theorem store_header (bytes : List UInt8) (conn : Connection) :
    (conn.store v2gtpHeaderLength bytes).header = conn.header := by
  apply List.map_congr_left
  intro i hi
  rw [List.mem_range] at hi
  show (if v2gtpHeaderLength ≤ i then _ else _) = _
  rw [if_neg (by omega)]

end Connection

/-- Nothing in a delivery says that the connection is terminated. -/
theorem leaveLoop_segments {turns : List Turn} {stream : List UInt8} (h : Segments turns stream)
    (ending : Ending) (bytesRead : ℕ) :
    leaveLoop bytesRead (turns ++ ending.turns) = .returned bytesRead := by
  cases h with
  | nil => cases ending <;> rfl
  | again rest => rfl
  | piece hBytes rest => rfl

/-- The loop is left when all bytes are at hand. -/
theorem readLoop_full {turns : List Turn} {stream : List UInt8} (h : Segments turns stream)
    (ending : Ending) (offset count : ℕ) (conn : Connection) :
    readLoop offset count count conn (turns ++ ending.turns) =
      (conn, turns ++ ending.turns, .returned count) := by
  have hLeave := leaveLoop_segments h ending count
  generalize turns ++ ending.turns = all at hLeave ⊢
  cases all with
  | nil => rw [readLoop, if_neg (lt_irrefl count), hLeave]
  | cons turn rest => rw [readLoop, if_pos (Or.inl (lt_irrefl count)), hLeave]

/-- A turn without bytes changes nothing. -/
theorem readLoop_again {offset count bytesRead : ℕ} (hRead : bytesRead < count) (conn : Connection)
    (turns : List Turn) :
    readLoop offset count bytesRead conn (.plain .again :: turns) =
      readLoop offset count bytesRead conn turns := by
  rw [readLoop, if_neg]
  · rfl
  · simp [Turn.plain, hRead]

/-- A piece that is not too long is stored as a whole, and the loop goes on. -/
theorem readLoop_piece {offset count bytesRead : ℕ} {bytes : List UInt8} (hBytes : bytes ≠ [])
    (hFits : bytesRead + bytes.length ≤ count) (hCount : count < 2 ^ 31) (conn : Connection)
    (turns : List Turn) :
    readLoop offset count bytesRead conn (.plain (.received bytes) :: turns) =
      readLoop offset count (bytesRead + bytes.length) (conn.store (offset + bytesRead) bytes)
        turns := by
  have hLength := List.length_pos_iff.mpr hBytes
  have hTake : bytes.take (count - bytesRead) = bytes := List.take_of_length_le (by omega)
  have hDrop : bytes.drop (count - bytesRead) = [] := List.drop_of_length_le (by omega)
  have hRead : bytesRead < count := by omega
  have hSum : ¬ 2 ^ 31 ≤ bytesRead + bytes.length := by omega
  rw [readLoop, if_neg (by simp [Turn.plain, hRead])]
  simp only [Turn.plain, hBytes, if_false, hTake, hDrop, hSum, if_true]

/-- Of a piece that is too long the rest stays with the socket. -/
theorem readLoop_cut {offset count bytesRead : ℕ} {bytes : List UInt8}
    (hLong : count < bytesRead + bytes.length) (hRead : bytesRead < count) (hCount : count < 2 ^ 31)
    (conn : Connection) (turns : List Turn) :
    readLoop offset count bytesRead conn (.plain (.received bytes) :: turns) =
      (conn.store (offset + bytesRead) (bytes.take (count - bytesRead)),
        .plain (.received (bytes.drop (count - bytesRead))) :: turns, .returned count) := by
  have hBytes : bytes ≠ [] := by
    rintro rfl
    rw [List.length_nil] at hLong
    omega
  have hTaken : bytesRead + (bytes.take (count - bytesRead)).length = count := by
    rw [List.length_take]
    omega
  have hLeft : bytes.drop (count - bytesRead) ≠ [] := by
    rw [ne_eq, List.drop_eq_nil_iff]
    omega
  have hSum : ¬ 2 ^ 31 ≤ count := by omega
  rw [readLoop, if_neg (by simp [Turn.plain, hRead])]
  simp only [Turn.plain, hBytes, if_false, hTaken, hSum, hLeft]
  rfl

/-- If the stream is long enough, a read stores the next bytes and leaves the rest of
the stream to the socket. -/
theorem readLoop_enough {turns : List Turn} {stream : List UInt8} (h : Segments turns stream)
    (ending : Ending) (offset : ℕ) {count bytesRead : ℕ} (conn : Connection)
    (hRead : bytesRead ≤ count) (hCount : count < 2 ^ 31)
    (hEnough : count - bytesRead ≤ stream.length) :
    ∃ rest, Segments rest (stream.drop (count - bytesRead)) ∧
      readLoop offset count bytesRead conn (turns ++ ending.turns) =
        (conn.store (offset + bytesRead) (stream.take (count - bytesRead)), rest ++ ending.turns,
          .returned count) := by
  induction h generalizing bytesRead conn with
  | nil =>
      rw [List.length_nil] at hEnough
      obtain rfl : bytesRead = count := by omega
      refine ⟨[], by simpa using Segments.nil, ?_⟩
      rw [List.take_nil, Connection.store_nil]
      exact readLoop_full Segments.nil ending offset bytesRead conn
  | @again turns stream rest ih =>
      rcases hRead.eq_or_lt with rfl | hRead
      · refine ⟨.plain .again :: turns, by simpa using rest.again, ?_⟩
        rw [Nat.sub_self, List.take_zero, Connection.store_nil]
        exact readLoop_full rest.again ending offset bytesRead conn
      · rw [List.cons_append, readLoop_again hRead]
        exact ih conn hRead.le hEnough
  | @piece turns stream bytes hBytes rest ih =>
      rcases hRead.eq_or_lt with rfl | hRead
      · refine ⟨.plain (.received bytes) :: turns, by simpa using rest.piece hBytes, ?_⟩
        rw [Nat.sub_self, List.take_zero, Connection.store_nil]
        exact readLoop_full (rest.piece hBytes) ending offset bytesRead conn
      · rw [List.length_append] at hEnough
        rw [List.cons_append]
        rcases Nat.lt_or_ge count (bytesRead + bytes.length) with hLong | hFits
        · refine ⟨.plain (.received (bytes.drop (count - bytesRead))) :: turns, ?_, ?_⟩
          · rw [List.drop_append_of_le_length (by omega)]
            refine rest.piece ?_
            rw [ne_eq, List.drop_eq_nil_iff]
            omega
          · rw [readLoop_cut hLong hRead hCount, List.take_append_of_le_length (by omega)]
            rfl
        · obtain ⟨left, hLeft, hLoop⟩ :=
            ih (conn.store (offset + bytesRead) bytes) hFits (by omega)
          have hSplit : count - bytesRead = bytes.length + (count - (bytesRead + bytes.length)) := by
            omega
          refine ⟨left, ?_, ?_⟩
          · rw [hSplit, List.drop_length_add_append]
            exact hLeft
          · rw [readLoop_piece hBytes hFits hCount, hLoop, hSplit, List.take_length_add_append,
              ← Connection.store_append, ← Nat.add_assoc]

/-- If the stream is too short, all of it is stored, and its end decides. -/
theorem readLoop_short {turns : List Turn} {stream : List UInt8} (h : Segments turns stream)
    (ending : Ending) (offset : ℕ) {count bytesRead : ℕ} (conn : Connection)
    (hCount : count < 2 ^ 31) (hShort : bytesRead + stream.length < count) :
    readLoop offset count bytesRead conn (turns ++ ending.turns) =
      (conn.store (offset + bytesRead) stream, [], ending.outcome (bytesRead + stream.length)) := by
  induction h generalizing bytesRead conn with
  | nil =>
      rw [List.length_nil, Nat.add_zero] at hShort
      rw [Connection.store_nil, List.nil_append, List.length_nil, Nat.add_zero]
      cases ending with
      | silent => rw [Ending.turns, readLoop, if_pos hShort, Ending.outcome]
      | endOfFile =>
          rw [Ending.turns, readLoop, if_neg (by simp [Turn.plain, hShort])]
          rfl
      | closed =>
          rw [Ending.turns, readLoop, if_neg (by simp [Turn.plain, hShort])]
          rfl
      | failed =>
          rw [Ending.turns, readLoop, if_neg (by simp [Turn.plain, hShort])]
          rfl
  | @again turns stream rest ih =>
      rw [List.cons_append, readLoop_again (by omega)]
      exact ih conn hShort
  | @piece turns stream bytes hBytes rest ih =>
      rw [List.length_append, ← Nat.add_assoc] at hShort
      rw [List.cons_append, readLoop_piece hBytes (by omega) hCount,
        ih (conn.store (offset + bytesRead) bytes) hShort, List.length_append, ← Nat.add_assoc,
        ← Connection.store_append, ← Nat.add_assoc]

section Messages

variable (readV2gtpHeader : List UInt8 → Option UInt32)

/-- The connection after a read that began with nothing at hand. -/
def Connection.asked (offset count : ℕ) (conn : Connection) : Connection :=
  { conn with requests := conn.requests ++ [(offset, count)] }

theorem connectionRead_enough {turns : List Turn} {stream : List UInt8} (h : Segments turns stream)
    (ending : Ending) (offset : ℕ) {count : ℕ} (conn : Connection) (hCount : count < 2 ^ 31)
    (hEnough : count ≤ stream.length) :
    ∃ rest, Segments rest (stream.drop count) ∧
      connectionRead true offset count conn (turns ++ ending.turns) =
        ((conn.asked offset count).store offset (stream.take count), rest ++ ending.turns,
          .returned count) :=
  readLoop_enough h ending offset _ (Nat.zero_le count) hCount hEnough

theorem connectionRead_short {turns : List Turn} {stream : List UInt8} (h : Segments turns stream)
    (ending : Ending) (offset : ℕ) {count : ℕ} (conn : Connection) (hCount : count < 2 ^ 31)
    (hShort : stream.length < count) :
    connectionRead true offset count conn (turns ++ ending.turns) =
      ((conn.asked offset count).store offset stream, [], ending.outcome stream.length) := by
  have hLoop : readLoop offset count 0 (conn.asked offset count) (turns ++ ending.turns) = _ :=
    readLoop_short h ending offset _ hCount (by omega)
  rw [Nat.zero_add] at hLoop
  exact hLoop

/-- The header that a read of the first bytes leaves in the buffer. -/
theorem header_store {stream : List UInt8} (hEnough : v2gtpHeaderLength ≤ stream.length)
    (conn : Connection) : (conn.store 0 (stream.take v2gtpHeaderLength)).header =
      stream.take v2gtpHeaderLength := by
  have hStored := Connection.store_buffer 0 (stream.take v2gtpHeaderLength) conn
  rw [List.length_take_of_le hEnough] at hStored
  simp only [Nat.zero_add] at hStored
  exact hStored

/-- The payload of a message that fits: it is read as a whole, or the stream ends
inside of it. -/
theorem readPayload_segments {turns : List Turn} {stream : List UInt8} (h : Segments turns stream)
    (ending : Ending) (conn : Connection) {payloadLen : UInt32}
    (hFits : payloadLen.toNat + v2gtpHeaderLength ≤ defaultBufferSize) :
    if stream.length < payloadLen.toNat then
      (readPayload true payloadLen conn (turns ++ ending.turns)).2.2 = ending.payloadOutcome
    else
      ∃ conn' rest, Segments rest (stream.drop payloadLen.toNat) ∧
        readPayload true payloadLen conn (turns ++ ending.turns) =
          (conn', rest ++ ending.turns, .returned 0) ∧
        conn'.frame = ⟨payloadLen, conn.header, stream.take payloadLen.toNat⟩ := by
  have hCount : payloadLen.toNat < 2 ^ 31 := by
    rw [defaultBufferSize] at hFits
    omega
  have hCheck : ¬ payloadLen + UInt32.ofNat v2gtpHeaderLength > UInt32.ofNat defaultBufferSize := by
    rw [payload_check_passes_iff]
    exact Or.inl (by omega)
  unfold readPayload
  dsimp only
  rw [if_neg hCheck]
  split
  · next hShort =>
      rw [connectionRead_short h ending v2gtpHeaderLength _ hCount hShort]
      cases ending with
      | silent => rfl
      | failed => rfl
      | endOfFile =>
          have hOther : (stream.length : ℤ) ≠ payloadLen.toNat := by omega
          simp [Ending.outcome, Ending.payloadOutcome, hOther]
      | closed =>
          have hOther : (stream.length : ℤ) ≠ payloadLen.toNat := by omega
          simp [Ending.outcome, Ending.payloadOutcome, hOther]
  · next hEnough =>
      rw [not_lt] at hEnough
      obtain ⟨rest, hRest, hRead⟩ := connectionRead_enough h ending v2gtpHeaderLength
        { conn with payloadLen := payloadLen } hCount hEnough
      rw [hRead]
      have hPositive : ¬ (payloadLen.toNat : ℤ) < 0 := by omega
      simp only [hPositive, if_false, ne_eq, not_true]
      refine ⟨_, rest, hRest, rfl, ?_⟩
      have hStored := Connection.store_buffer v2gtpHeaderLength (stream.take payloadLen.toNat)
        (Connection.asked v2gtpHeaderLength payloadLen.toNat { conn with payloadLen := payloadLen })
      rw [List.length_take_of_le hEnough] at hStored
      have hHeader := Connection.store_header (stream.take payloadLen.toNat)
        (Connection.asked v2gtpHeaderLength payloadLen.toNat { conn with payloadLen := payloadLen })
      exact congrArg₂ (Frame.mk payloadLen) hHeader hStored

/-- A call that gets less than a header. -/
theorem v2gIncomingV2gtp_short {turns : List Turn} {stream : List UInt8} (h : Segments turns stream)
    (ending : Ending) (conn : Connection) (hShort : stream.length < v2gtpHeaderLength) :
    (v2gIncomingV2gtp readV2gtpHeader ⟨true, true, turns ++ ending.turns⟩ conn).2.2 =
      ending.headerOutcome stream.length := by
  have hOther : (stream.length : ℤ) ≠ v2gtpHeaderLength := by omega
  have hPositive : ¬ (stream.length : ℤ) < 0 := by omega
  unfold v2gIncomingV2gtp
  rw [connectionRead_short h ending 0 conn (by decide) hShort]
  cases ending with
  | silent => rfl
  | failed => rfl
  | endOfFile =>
      simp only [Ending.outcome, Ending.headerOutcome, hPositive, hOther, if_false, ne_eq,
        not_false_eq_true, if_true, Int.natCast_eq_zero]
      split <;> rfl
  | closed =>
      simp only [Ending.outcome, Ending.headerOutcome, hPositive, hOther, if_false, ne_eq,
        not_false_eq_true, if_true, Int.natCast_eq_zero]
      split <;> rfl

/-- A call that gets a header goes on with the payload that it announces. -/
theorem v2gIncomingV2gtp_header {turns : List Turn} {stream : List UInt8}
    (h : Segments turns stream) (ending : Ending) (conn : Connection)
    (hEnough : v2gtpHeaderLength ≤ stream.length) :
    ∃ conn' rest, Segments rest (stream.drop v2gtpHeaderLength) ∧
      conn'.header = stream.take v2gtpHeaderLength ∧
      v2gIncomingV2gtp readV2gtpHeader ⟨true, true, turns ++ ending.turns⟩ conn =
        match readV2gtpHeader (stream.take v2gtpHeaderLength) with
        | none => (conn', rest ++ ending.turns, .returned (-1))
        | some payloadLen => readPayload true payloadLen conn' (rest ++ ending.turns) := by
  obtain ⟨rest, hRest, hRead⟩ := connectionRead_enough h ending 0 conn (by decide) hEnough
  have hHeader := header_store hEnough (conn.asked 0 v2gtpHeaderLength)
  refine ⟨_, rest, hRest, hHeader, ?_⟩
  unfold v2gIncomingV2gtp
  rw [hRead, ← hHeader]
  rfl

variable {readV2gtpHeader}

/-- One call takes the first message from the stream, however it is delivered. -/
theorem v2gIncomingV2gtp_segments {turns : List Turn} {stream : List UInt8}
    (h : Segments turns stream) (hFit : FramesFit readV2gtpHeader stream) (ending : Ending)
    (conn : Connection) :
    match splitFrame readV2gtpHeader ending stream with
    | .error outcome =>
        outcome ≠ .returned 0 ∧
          (v2gIncomingV2gtp readV2gtpHeader ⟨true, true, turns ++ ending.turns⟩ conn).2.2 = outcome
    | .ok (frame, after) =>
        FramesFit readV2gtpHeader after ∧
          ∃ conn' rest, Segments rest after ∧ conn'.frame = frame ∧
            v2gIncomingV2gtp readV2gtpHeader ⟨true, true, turns ++ ending.turns⟩ conn =
              (conn', rest ++ ending.turns, .returned 0) := by
  unfold splitFrame
  by_cases hShort : stream.length < v2gtpHeaderLength
  · rw [if_pos hShort]
    exact ⟨ending.headerOutcome_ne_zero _, v2gIncomingV2gtp_short readV2gtpHeader h ending conn hShort⟩
  · rw [if_neg hShort]
    obtain ⟨conn', rest, hRest, hHeader, hCall⟩ :=
      v2gIncomingV2gtp_header readV2gtpHeader h ending conn (not_lt.mp hShort)
    rw [hCall]
    cases hParsed : readV2gtpHeader (stream.take v2gtpHeaderLength) with
    | none => exact ⟨by decide, rfl⟩
    | some payloadLen =>
        obtain ⟨hFits, hAfter⟩ := hFit.of_message hShort hParsed
        have hPayload := readPayload_segments hRest ending conn' hFits
        dsimp only
        by_cases hCut : (stream.drop v2gtpHeaderLength).length < payloadLen.toNat
        · rw [if_pos hCut] at hPayload ⊢
          exact ⟨ending.payloadOutcome_ne_zero, hPayload⟩
        · rw [if_neg hCut] at hPayload ⊢
          obtain ⟨conn'', left, hLeft, hRead, hFrame⟩ := hPayload
          rw [hHeader] at hFrame
          exact ⟨hAfter, conn'', left, hLeft, hFrame, hRead⟩

/-- The calls compute what the stream says. -/
theorem receiveFrames_eq_framesOf {turns : List Turn} {stream : List UInt8}
    (h : Segments turns stream) (hFit : FramesFit readV2gtpHeader stream) (ending : Ending)
    (between : Connection → Connection) (calls : ℕ) (conn : Connection) :
    receiveFrames readV2gtpHeader between calls conn (turns ++ ending.turns) =
      framesOf readV2gtpHeader ending calls stream := by
  induction calls generalizing turns stream conn with
  | zero => rfl
  | succ calls ih =>
      have hCall := v2gIncomingV2gtp_segments h hFit ending conn
      rw [receiveFrames, framesOf]
      cases hSplit : splitFrame readV2gtpHeader ending stream with
      | error outcome =>
          rw [hSplit] at hCall
          obtain ⟨hOutcome, rfl⟩ := hCall
          exact if_neg hOutcome
      | ok result =>
          obtain ⟨frame, after⟩ := result
          rw [hSplit] at hCall
          obtain ⟨hAfter, conn', rest, hRest, hFrame, hCall⟩ := hCall
          rw [hCall, ← hFrame]
          dsimp only
          rw [if_pos rfl, ih hRest hAfter]

/-- A message of the stream is its next header and the payload that this announces. -/
theorem splitFrame_ok {ending : Ending} {stream after : List UInt8} {frame : Frame}
    (h : splitFrame readV2gtpHeader ending stream = .ok (frame, after)) :
    frame.WellFormed readV2gtpHeader ∧ stream = frame.bytes ++ after := by
  unfold splitFrame at h
  split at h
  · cases h
  · next hShort =>
      split at h
      · cases h
      · next payloadLen hParsed =>
          dsimp only at h
          split at h
          · cases h
          · next hCut =>
              cases h
              refine ⟨⟨?_, hParsed, ?_⟩, ?_⟩
              · exact List.length_take_of_le (not_lt.mp hShort)
              · exact List.length_take_of_le (not_lt.mp hCut)
              · rw [Frame.bytes, List.append_assoc, List.take_append_drop, List.take_append_drop]

/-- The messages of a stream are its first bytes, each well formed by itself. -/
theorem framesOf_wellFormed (readV2gtpHeader : List UInt8 → Option UInt32) (ending : Ending)
    (calls : ℕ) (stream : List UInt8) :
    (∀ frame ∈ (framesOf readV2gtpHeader ending calls stream).1,
        frame.WellFormed readV2gtpHeader) ∧
      ((framesOf readV2gtpHeader ending calls stream).1.map Frame.bytes).flatten <+: stream := by
  induction calls generalizing stream with
  | zero => exact ⟨by simp [framesOf], List.nil_prefix⟩
  | succ calls ih =>
      rw [framesOf]
      cases hSplit : splitFrame readV2gtpHeader ending stream with
      | error outcome => exact ⟨by simp, List.nil_prefix⟩
      | ok result =>
          obtain ⟨frame, after⟩ := result
          obtain ⟨hFrame, rfl⟩ := splitFrame_ok hSplit
          obtain ⟨hFrames, hPrefix⟩ := ih after
          constructor
          · intro other hOther
            rcases List.mem_cons.mp hOther with rfl | hLater
            · exact hFrame
            · exact hFrames other hLater
          · dsimp only
            rw [List.map_cons, List.flatten_cons]
            exact (List.prefix_append_right_inj _).mpr hPrefix

/-- Every message takes bytes from the stream, so that the calls come to its end. -/
theorem framesOf_ends (ending : Ending) (calls : ℕ) (stream : List UInt8)
    (hCalls : stream.length < calls) :
    (framesOf readV2gtpHeader ending calls stream).2.isSome = true := by
  induction calls generalizing stream with
  | zero => exact absurd hCalls (Nat.not_lt_zero _)
  | succ calls ih =>
      rw [framesOf]
      cases hSplit : splitFrame readV2gtpHeader ending stream with
      | error outcome => rfl
      | ok result =>
          obtain ⟨frame, after⟩ := result
          obtain ⟨hFrame, rfl⟩ := splitFrame_ok hSplit
          have hHeader := hFrame.header
          rw [List.length_append, Frame.bytes, List.length_append, hHeader, v2gtpHeaderLength]
            at hCalls
          exact ih after (by omega)

/-- Two deliveries of one stream give the same messages and the same end, for every
number of calls: those that the stream itself says, of which none is missing. Enough calls
come to the end. Each message is the next header of the stream with exactly the bytes of
payload that it announces. -/
theorem framing_independent_of_segmentation (stream : List UInt8)
    (hFit : FramesFit readV2gtpHeader stream) (ending : Ending) (first second : List Turn)
    (hFirst : Segments first stream) (hSecond : Segments second stream)
    (between between' : Connection → Connection) (conn conn' : Connection) (calls : ℕ) :
    let received := receiveFrames readV2gtpHeader between calls conn (first ++ ending.turns)
    received = receiveFrames readV2gtpHeader between' calls conn' (second ++ ending.turns) ∧
      received = framesOf readV2gtpHeader ending calls stream ∧
      (∀ frame ∈ received.1, frame.WellFormed readV2gtpHeader) ∧
      (received.1.map Frame.bytes).flatten <+: stream ∧
      (stream.length < calls → received.2.isSome = true) := by
  intro received
  have hReceived : received = framesOf readV2gtpHeader ending calls stream :=
    receiveFrames_eq_framesOf hFirst hFit ending between calls conn
  rw [hReceived, receiveFrames_eq_framesOf hSecond hFit ending between' calls conn']
  obtain ⟨hFrames, hPrefix⟩ := framesOf_wellFormed readV2gtpHeader ending calls stream
  exact ⟨rfl, rfl, hFrames, hPrefix, framesOf_ends ending calls stream⟩

end Messages

/-- A message with two bytes of payload. -/
def shortMessage : List UInt8 := [0x01, 0xFE, 0x80, 0x01, 0, 0, 0, 2, 0x80, 0x0A]

theorem shortMessage_fits : FramesFit exiHeaderParser shortMessage := by
  have hAccepted : exiHeaderParser (shortMessage.take v2gtpHeaderLength) = some 2 := by decide
  refine .message hAccepted (by decide) (.short ?_)
  decide

/-- The message as a whole, and cut inside of its header and its payload. -/
theorem framing_of_shortMessage :
    FramesFit exiHeaderParser shortMessage ∧
      receiveFrames exiHeaderParser id 2 .initial
          ([.plain (.received shortMessage)] ++ Ending.endOfFile.turns) =
        receiveFrames exiHeaderParser id 2 .initial
          ([.plain (.received [0x01, 0xFE, 0x80]), .plain .again,
            .plain (.received [0x01, 0, 0, 0, 2, 0x80]), .plain (.received [0x0A])] ++
            Ending.endOfFile.turns) := by
  have hWhole : Segments [.plain (.received shortMessage)] (shortMessage ++ []) :=
    Segments.nil.piece (by decide)
  have hCut : Segments [.plain (.received [0x01, 0xFE, 0x80]), .plain .again,
      .plain (.received [0x01, 0, 0, 0, 2, 0x80]), .plain (.received [0x0A])]
      ([0x01, 0xFE, 0x80] ++ ([0x01, 0, 0, 0, 2, 0x80] ++ ([0x0A] ++ []))) :=
    (((Segments.nil.piece (by decide)).piece (by decide)).again).piece (by decide)
  exact ⟨shortMessage_fits, (framing_independent_of_segmentation shortMessage shortMessage_fits
    .endOfFile _ _ hWhole hCut id id .initial .initial 2).1⟩

end EverestCore.V2G
