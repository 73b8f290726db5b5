import Mathlib.Data.List.Basic
import Mathlib.Data.UInt

/-! Receiving one V2GTP message: the read loop of a connection, and the header
and payload that `v2g_incoming_v2gtp` reads with it. What the socket does is an
input, one entry for each turn of a read loop. Bytes that a read does not take
stay with the socket. Every offset at which a byte is stored is recorded. -/
namespace EverestCore.V2G

/-- `DEFAULT_BUFFER_SIZE`. -/
def defaultBufferSize : ℕ := 8192

/-- `V2GTP_HEADER_LENGTH`. -/
def v2gtpHeaderLength : ℕ := 8

/-- What a read call gives. `again` stands for an interrupted call, a time-out of
`select`, and the TLS results that ask for another try; `closed` for the TLS
results that tell of the end of the connection. -/
inductive Transfer where
  | again
  | closed
  | failed
  | received (bytes : List UInt8)
  deriving DecidableEq, Repr

/-- What one turn of a read loop meets. -/
structure Turn where
  isSequenceTimeout : Bool
  isConnectionTerminated : Bool
  transfer : Transfer
  deriving DecidableEq, Repr

/-- A turn of the socket that has nothing else to say. -/
def Turn.plain (transfer : Transfer) : Turn := ⟨false, false, transfer⟩

/-- The connection, as far as the transport layer uses it. `buffer` is the memory
from the start of the buffer on, also behind its end. -/
structure Connection where
  buffer : ℕ → UInt8
  stores : List ℕ
  requests : List (ℕ × ℕ)
  payloadLen : UInt32
  bufferPos : ℕ
  streamSize : ℕ

/-- How far a call has come: it waits for the socket, it has returned, or it has
added to a signed counter beyond its range. -/
inductive Outcome where
  | waiting
  | returned (rv : ℤ)
  | undefined
  deriving DecidableEq, Repr

namespace Connection

/-- Store bytes from an offset on. -/
def store (offset : ℕ) (bytes : List UInt8) (conn : Connection) : Connection :=
  { conn with
    buffer := fun i => if offset ≤ i then (bytes[i - offset]?).getD (conn.buffer i)
      else conn.buffer i
    stores := conn.stores ++ List.range' offset bytes.length }

@[simp] theorem store_stores (offset : ℕ) (bytes : List UInt8) (conn : Connection) :
    (conn.store offset bytes).stores = conn.stores ++ List.range' offset bytes.length := rfl

@[simp] theorem store_requests (offset : ℕ) (bytes : List UInt8) (conn : Connection) :
    (conn.store offset bytes).requests = conn.requests := rfl

end Connection

/-- The end of the read loop. The flag is looked at once more. -/
def leaveLoop (bytesRead : ℕ) (turns : List Turn) : Outcome :=
  if (turns.head?.map Turn.isConnectionTerminated).getD false then .returned (-2)
  else .returned bytesRead

/-- The loop of `connection_read`, with `bytesRead` of `count` bytes at hand. A
chunk with more bytes than are still wanted also ends the loop. -/
def readLoop (offset count : ℕ) : ℕ → Connection → List Turn → Connection × List Turn × Outcome
  | bytesRead, conn, [] =>
      if bytesRead < count then (conn, [], .waiting) else (conn, [], leaveLoop bytesRead [])
  | bytesRead, conn, turn :: rest =>
      if ¬ bytesRead < count ∨ turn.isSequenceTimeout ∨ turn.isConnectionTerminated then
        (conn, turn :: rest, leaveLoop bytesRead (turn :: rest))
      else
        match turn.transfer with
        | .again => readLoop offset count bytesRead conn rest
        | .closed => (conn, rest, .returned bytesRead)
        | .failed => (conn, rest, .returned (-1))
        | .received bytes =>
            if bytes = [] then (conn, rest, .returned bytesRead)
            else
              let taken := bytes.take (count - bytesRead)
              let left := bytes.drop (count - bytesRead)
              let conn := conn.store (offset + bytesRead) taken
              if 2 ^ 31 ≤ bytesRead + taken.length then (conn, rest, .undefined)
              else if left = [] then readLoop offset count (bytesRead + taken.length) conn rest
              else
                let turns := { turn with transfer := .received left } :: rest
                (conn, turns, leaveLoop (bytesRead + taken.length) turns)

/-- `connection_read`, told to store `count` bytes from an offset of the buffer
on. `clock` says whether the start time could be read. -/
def connectionRead (clock : Bool) (offset count : ℕ) (conn : Connection) (turns : List Turn) :
    Connection × List Turn × Outcome :=
  let conn := { conn with requests := conn.requests ++ [(offset, count)] }
  if !clock then (conn, turns, .returned (-1)) else readLoop offset count 0 conn turns

/-- What one call of `v2g_incoming_v2gtp` meets: the two start times, and the
socket. -/
structure Peer where
  headerClock : Bool
  payloadClock : Bool
  turns : List Turn
  deriving DecidableEq, Repr

/-- The bytes of the header. -/
def Connection.header (conn : Connection) : List UInt8 :=
  (List.range v2gtpHeaderLength).map conn.buffer

section Incoming

/-! The parser of the header belongs to the EXI library. It answers with the
length of the payload, or refuses the header. -/
variable (readV2gtpHeader : List UInt8 → Option UInt32)

/-- The payload, once the header has announced its length. The bound is checked
in 32-bit arithmetic. -/
def readPayload (clock : Bool) (payloadLen : UInt32) (conn : Connection) (turns : List Turn) :
    Connection × List Turn × Outcome :=
  let conn := { conn with payloadLen := payloadLen }
  if payloadLen + UInt32.ofNat v2gtpHeaderLength > UInt32.ofNat defaultBufferSize then
    (conn, turns, .returned (-1))
  else
    match connectionRead clock v2gtpHeaderLength payloadLen.toNat conn turns with
    | (conn, turns, .returned rv) =>
        if rv < 0 then (conn, turns, .returned (-1))
        else if rv ≠ payloadLen.toNat then (conn, turns, .returned (-1))
        else
          ({ conn with
            bufferPos := v2gtpHeaderLength
            streamSize := (payloadLen + UInt32.ofNat v2gtpHeaderLength).toNat },
            turns, .returned 0)
    | unfinished => unfinished

/-- `v2g_incoming_v2gtp`. -/
def v2gIncomingV2gtp (peer : Peer) (conn : Connection) : Connection × List Turn × Outcome :=
  match connectionRead peer.headerClock 0 v2gtpHeaderLength conn peer.turns with
  | (conn, turns, .returned rv) =>
      if rv < 0 then (conn, turns, .returned (-1))
      else if rv = 0 then (conn, turns, .returned 1)
      else if rv ≠ v2gtpHeaderLength then (conn, turns, .returned (-1))
      else
        match readV2gtpHeader conn.header with
        | none => (conn, turns, .returned (-1))
        | some payloadLen => readPayload peer.payloadClock payloadLen conn turns
  | unfinished => unfinished

/-- The header, if all of it arrives. -/
def receivedHeader (peer : Peer) (conn : Connection) : Option (List UInt8) :=
  match connectionRead peer.headerClock 0 v2gtpHeaderLength conn peer.turns with
  | (conn, _, .returned rv) => if rv = v2gtpHeaderLength then some conn.header else none
  | _ => none

end Incoming

/-- The length of the payload in the header, the highest byte first. -/
def lengthField (header : List UInt8) : UInt32 :=
  ((header.drop 4).take 4).foldl (fun length byte => length * 256 + byte.toUInt32) 0

/-- Nothing has been read yet. -/
structure Connection.Fresh (conn : Connection) : Prop where
  stores : conn.stores = []
  requests : conn.requests = []

/-- Every read is asked to stay inside of the buffer, and every byte is stored
inside of it. -/
structure Connection.InBuffer (conn : Connection) : Prop where
  requests : ∀ request ∈ conn.requests, request.1 + request.2 ≤ defaultBufferSize
  stores : ∀ offset ∈ conn.stores, offset < defaultBufferSize

/-- The read loop stores nothing outside of what it was asked for. -/
theorem readLoop_stores {offset count bytesRead : ℕ} {conn : Connection} {turns : List Turn}
    (hRead : bytesRead ≤ count) {address : ℕ}
    (hStored : address ∈ (readLoop offset count bytesRead conn turns).1.stores) :
    address ∈ conn.stores ∨ address < offset + count := by
  induction turns generalizing bytesRead conn with
  | nil =>
      unfold readLoop at hStored
      split_ifs at hStored
      · exact Or.inl hStored
      · exact Or.inl hStored
  | cons turn rest ih =>
      unfold readLoop at hStored
      split_ifs at hStored with hLeave
      · exact Or.inl hStored
      · have hTaken (bytes : List UInt8) :
            bytesRead + (bytes.take (count - bytesRead)).length ≤ count := by
          rw [List.length_take]
          omega
        have hStore (bytes : List UInt8)
            (h : address ∈ (conn.store (offset + bytesRead)
              (bytes.take (count - bytesRead))).stores) :
            address ∈ conn.stores ∨ address < offset + count := by
          rw [Connection.store_stores, List.mem_append, List.mem_range'_1] at h
          have hBound := hTaken bytes
          rcases h with hOld | hNew
          · exact Or.inl hOld
          · exact Or.inr (by omega)
        split at hStored
        case h_1 => exact ih hRead hStored
        case h_2 => exact Or.inl hStored
        case h_3 => exact Or.inl hStored
        case h_4 bytes _ =>
          dsimp only at hStored
          split_ifs at hStored
          · exact Or.inl hStored
          · exact hStore bytes hStored
          · rcases ih (hTaken bytes) hStored with hOld | hNew
            · exact hStore bytes hOld
            · exact Or.inr hNew
          · exact hStore bytes hStored

/-- The loop asks for nothing itself. The call of it has asked. -/
theorem readLoop_requests (offset count bytesRead : ℕ) (conn : Connection) (turns : List Turn) :
    (readLoop offset count bytesRead conn turns).1.requests = conn.requests := by
  induction turns generalizing bytesRead conn with
  | nil =>
      rw [readLoop]
      split_ifs <;> rfl
  | cons turn rest ih =>
      dsimp only [readLoop]
      split_ifs
      · rfl
      · split
        case h_1 => exact ih _ _
        case h_2 => rfl
        case h_3 => rfl
        case h_4 =>
          split_ifs
          · rfl
          · rfl
          · rw [ih, Connection.store_requests]
          · rfl

/-- One call is one request of so many bytes. -/
theorem connectionRead_requests (clock : Bool) (offset count : ℕ) (conn : Connection)
    (turns : List Turn) :
    (connectionRead clock offset count conn turns).1.requests =
      conn.requests ++ [(offset, count)] := by
  dsimp only [connectionRead]
  split_ifs
  · rfl
  · exact readLoop_requests _ _ _ _ _

/-- What is stored lies within the request. -/
theorem connectionRead_stores {clock : Bool} {offset count : ℕ} {conn : Connection}
    {turns : List Turn} {address : ℕ}
    (hStored : address ∈ (connectionRead clock offset count conn turns).1.stores) :
    address ∈ conn.stores ∨ address < offset + count := by
  unfold connectionRead at hStored
  dsimp only at hStored
  split_ifs at hStored
  · exact Or.inl hStored
  · have hNew := readLoop_stores (Nat.zero_le _) hStored
    exact hNew

/-- A read that is asked to stay inside of the buffer does. -/
theorem connectionRead_inBuffer (clock : Bool) (offset count : ℕ) {conn : Connection}
    (turns : List Turn) (hConn : conn.InBuffer) :
    (connectionRead clock offset count conn turns).1.InBuffer ↔
      offset + count ≤ defaultBufferSize := by
  constructor
  · intro h
    apply h.requests (offset, count)
    rw [connectionRead_requests]
    simp
  · intro hFits
    constructor
    · intro request hRequest
      rw [connectionRead_requests, List.mem_append, List.mem_singleton] at hRequest
      rcases hRequest with hOld | rfl
      · exact hConn.requests request hOld
      · exact hFits
    · intro address hStored
      rcases connectionRead_stores hStored with hOld | hNew
      · exact hConn.stores address hOld
      · omega

/-- The check of the length accepts the payloads that fit, and those for which
the sum wraps around. -/
theorem payload_check_passes_iff (payloadLen : UInt32) :
    ¬ payloadLen + UInt32.ofNat v2gtpHeaderLength > UInt32.ofNat defaultBufferSize ↔
      v2gtpHeaderLength + payloadLen.toNat ≤ defaultBufferSize ∨
        2 ^ 32 - 8 ≤ payloadLen.toNat := by
  have hLength := payloadLen.toNat_lt
  rw [gt_iff_lt, UInt32.lt_iff_toNat_lt, UInt32.toNat_add]
  simp only [v2gtpHeaderLength, defaultBufferSize, UInt32.toNat_ofNat']
  omega

/-- The payload stays within the buffer unless its length wraps around with the header. -/
theorem readPayload_inBuffer {clock : Bool} {payloadLen : UInt32} {conn : Connection}
    {turns : List Turn} (hConn : conn.InBuffer) :
    (readPayload clock payloadLen conn turns).1.InBuffer ↔ payloadLen.toNat < 2 ^ 32 - 8 := by
  have hAnnounced : Connection.InBuffer { conn with payloadLen := payloadLen } :=
    ⟨hConn.requests, hConn.stores⟩
  have hCheck := payload_check_passes_iff payloadLen
  dsimp only [readPayload]
  split_ifs with hLong
  · apply iff_of_true hAnnounced
    by_contra hLarge
    exact hCheck.mpr (Or.inr (by omega)) hLong
  · have hRead := connectionRead_inBuffer clock v2gtpHeaderLength payloadLen.toNat turns hAnnounced
    have hFits : v2gtpHeaderLength + payloadLen.toNat ≤ defaultBufferSize ↔
        payloadLen.toNat < 2 ^ 32 - 8 := by
      have hPassed := hCheck.mp hLong
      simp only [v2gtpHeaderLength, defaultBufferSize] at hPassed ⊢
      omega
    rw [← hFits, ← hRead]
    rcases connectionRead clock v2gtpHeaderLength payloadLen.toNat
      { conn with payloadLen := payloadLen } turns with ⟨conn', turns', outcome⟩
    cases outcome with
    | returned rv =>
        dsimp only
        split_ifs
        · exact Iff.rfl
        · exact Iff.rfl
        · exact ⟨fun h => ⟨h.requests, h.stores⟩, fun h => ⟨h.requests, h.stores⟩⟩
    | waiting => exact Iff.rfl
    | undefined => exact Iff.rfl

/-- A run of `v2g_incoming_v2gtp` stays inside of the buffer exactly if no header
arrives whose length is one of the eight largest. -/
theorem v2gIncomingV2gtp_inBuffer_iff (readV2gtpHeader : List UInt8 → Option UInt32)
    (hLength : ∀ header length, readV2gtpHeader header = some length →
      length = lengthField header)
    (peer : Peer) (conn : Connection) (hFresh : conn.Fresh) :
    (v2gIncomingV2gtp readV2gtpHeader peer conn).1.InBuffer ↔
      ∀ header, receivedHeader peer conn = some header → readV2gtpHeader header ≠ none →
        (lengthField header).toNat < 2 ^ 32 - 8 := by
  have hConn : conn.InBuffer := ⟨by simp [hFresh.requests], by simp [hFresh.stores]⟩
  have hHeader := (connectionRead_inBuffer peer.headerClock 0 v2gtpHeaderLength peer.turns
    hConn).mpr (by decide)
  unfold v2gIncomingV2gtp receivedHeader
  rcases hRead : connectionRead peer.headerClock 0 v2gtpHeaderLength conn peer.turns with
    ⟨conn', turns', outcome⟩
  rw [hRead] at hHeader
  cases outcome with
  | waiting => exact iff_of_true hHeader (by simp)
  | undefined => exact iff_of_true hHeader (by simp)
  | returned rv =>
      by_cases hFull : rv = v2gtpHeaderLength
      · subst hFull
        simp only [v2gtpHeaderLength, Nat.cast_ofNat, ne_eq, not_true, if_false, if_true,
          Option.some.injEq, forall_eq']
        rw [if_neg (by decide), if_neg (by decide)]
        cases hAccepted : readV2gtpHeader conn'.header with
        | none => exact iff_of_true hHeader (by simp)
        | some payloadLen =>
            rw [← hLength _ _ hAccepted]
            simpa using readPayload_inBuffer hHeader
      · simp only [if_neg hFull, if_pos hFull, ne_eq]
        refine iff_of_true ?_ (by simp)
        split_ifs <;> exact hHeader

/-- The parser of the EXI library, for messages with an EXI payload. -/
def exiHeaderParser (header : List UInt8) : Option UInt32 :=
  if header.take 4 = [0x01, 0xFE, 0x80, 0x01] then some (lengthField header) else none

/-- A connection that has been set up with an empty buffer. -/
def Connection.initial : Connection := ⟨fun _ => 0, [], [], 0, 0, 0⟩

/-- A message with two bytes of payload, delivered in pieces. -/
theorem v2gIncomingV2gtp_inBuffer_short_message :
    (v2gIncomingV2gtp exiHeaderParser
      ⟨true, true, [.plain (.received [0x01, 0xFE, 0x80]), .plain .again,
        .plain (.received [0x01, 0, 0, 0, 2, 0x80]), .plain (.received [0x0A])]⟩
      .initial).1.InBuffer :=
  (v2gIncomingV2gtp_inBuffer_iff exiHeaderParser
    (by intro header length h; unfold exiHeaderParser at h; split_ifs at h; cases h; rfl)
    _ .initial ⟨rfl, rfl⟩).mpr (by decide)

/-- A header with the largest length, and more payload than the buffer holds. -/
def largestLength : Peer :=
  ⟨true, true, [.plain (.received [0x01, 0xFE, 0x80, 0x01, 0xFF, 0xFF, 0xFF, 0xFF]),
    .plain (.received (List.replicate 8185 0))]⟩

/-- The largest length passes the check, and the last byte is stored behind the
end of the buffer. -/
theorem v2gIncomingV2gtp_overflow :
    ¬ (v2gIncomingV2gtp exiHeaderParser largestLength .initial).1.InBuffer := by
  have hStored : defaultBufferSize ∈
      (v2gIncomingV2gtp exiHeaderParser largestLength .initial).1.stores := by
    decide +kernel
  intro h
  exact lt_irrefl _ (h.stores defaultBufferSize hStored)

end EverestCore.V2G
