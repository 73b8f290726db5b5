import EverestCore.Data.Memory
import Mathlib.Data.List.Chain
import Mathlib.Data.UInt

/-! The read thread of `PN532Serial`, one read at a time. A frame is looked for in each read by
itself: only the bytes behind its header are collected over several reads. -/
namespace EverestCore.Pn532

/-- A byte, and where in the stream it is. The reader only looks at the byte. -/
structure Cell where
  byte : UInt8
  position : ℕ
  deriving DecidableEq

/-- What `parseData` finds in the members of the class. -/
structure Call where
  tfi : Option Cell
  commandCode : Option Cell
  data : List Cell
  deriving DecidableEq

namespace Call

/-- The value of a member that is a byte. -/
def byteOf (cell : Option Cell) : UInt8 := (cell.map Cell.byte).getD 0

/-- The data without checksum and postamble, where both are right. -/
def parseData (call : Call) : Option (List Cell) :=
  if byteOf call.data.getLast? = 0x00 ∧ call.data.length ≥ 2 then
    let packetDataChecksum := byteOf call.data.dropLast.getLast?
    let data := call.data.dropLast.dropLast
    if byteOf call.tfi + byteOf call.commandCode + packetDataChecksum +
        (data.map Cell.byte).sum = 0x00 then
      some data
    else none
  else none

end Call

/-- The members of `PN532Serial` that the read thread uses, its buffer, and the calls of
`parseData` so far. -/
structure Reader where
  startOfPacket : ℕ
  packetLength : ℕ
  preambleStartSeen : Bool
  preambleSeen : Bool
  firstData : Bool
  dataLengthChecksumValid : Bool
  tfi : Option Cell
  commandCode : Option Cell
  data : List Cell
  buf : Memory Cell
  calls : List Call

namespace Reader

def resetDataRead (r : Reader) : Reader :=
  { r with
    startOfPacket := 0
    packetLength := 0
    preambleStartSeen := false
    preambleSeen := false
    firstData := true
    dataLengthChecksumValid := false
    tfi := none
    commandCode := none
    data := [] }

/-- The reader before its first read. -/
def start : Reader := ⟨0, 0, false, false, true, false, none, none, [], .empty, []⟩

/-- `buf[index]`, at an index that has been read into. -/
def bufByte (index : ℕ) (r : Reader) : ℕ := ((r.buf index).map fun cell => cell.byte.toNat).getD 0

/-- The length of the packet and its checksum, which end the scan of a read. -/
def readLength (r : Reader) : Reader :=
  let packetLength := r.bufByte r.startOfPacket
  let packetLengthChecksum := r.bufByte (r.startOfPacket + 1)
  { r with
    packetLength := packetLength
    dataLengthChecksumValid :=
      r.dataLengthChecksumValid || (packetLength + packetLengthChecksum) % 256 == 0 }

/-- The loop over the bytes of a read, from an index on. -/
def scan (n : ℕ) : ℕ → List Cell → Reader → Reader
  | _, [], r => r
  | i, cell :: rest, r =>
      if !r.preambleSeen then
        if r.preambleStartSeen ∧ cell.byte = 0xff then
          let r := { r with preambleSeen := true, startOfPacket := i + 1 }
          if r.startOfPacket + 1 ≥ n then scan n (i + 1) rest r
          else r.readLength
        else scan n (i + 1) rest { r with preambleStartSeen := cell.byte = 0x00 }
      else scan n (i + 1) rest { r with data := r.data ++ [cell] }

/-- What is known of the current packet. -/
def current (r : Reader) : Call := ⟨r.tfi, r.commandCode, r.data⟩

/-- `parseData` is called, and the members are reset. -/
def parse (r : Reader) : Reader := resetDataRead { r with calls := r.calls ++ [r.current] }

/-- The header and the first data, from the read that begins the packet. -/
def takeFirstData (read : List Cell) (r : Reader) : Reader :=
  if r.firstData then
    { r with
      tfi := r.buf (r.startOfPacket + 2)
      commandCode := r.buf (r.startOfPacket + 3)
      firstData := false
      data := r.data ++ read.drop (r.startOfPacket + 4) }
  else r

/-- What follows on the scan of a read. -/
def finishRead (read : List Cell) (r : Reader) : Reader :=
  if r.packetLength = 0 then r.resetDataRead
  else if !r.dataLengthChecksumValid then r.resetDataRead
  else
    let r := r.takeFirstData read
    if r.data.length < r.packetLength then r else r.parse

/-- A round of `readThread`, for a read that brings bytes. -/
def takeRead (read : List Cell) (r : Reader) : Reader :=
  let r := { r with buf := r.buf.storeAll 0 read }
  (r.scan read.length 0 read).finishRead read

def takeReads (reads : List (List Cell)) (r : Reader) : Reader :=
  reads.foldl (fun r read => r.takeRead read) r

/-- The state that `resetDataRead` leaves. -/
structure IsIdle (r : Reader) : Prop where
  startOfPacket : r.startOfPacket = 0
  packetLength : r.packetLength = 0
  preambleStartSeen : r.preambleStartSeen = false
  preambleSeen : r.preambleSeen = false
  firstData : r.firstData = true
  dataLengthChecksumValid : r.dataLengthChecksumValid = false
  data : r.data = []

theorem isIdle_start : start.IsIdle := ⟨rfl, rfl, rfl, rfl, rfl, rfl, rfl⟩

theorem isIdle_reset (r : Reader) : r.resetDataRead.IsIdle := ⟨rfl, rfl, rfl, rfl, rfl, rfl, rfl⟩

/-- The header of a packet has been read, and its data are being collected. -/
structure Collects (length : ℕ) (call : Call) (r : Reader) : Prop where
  packetLength : r.packetLength = length
  preambleSeen : r.preambleSeen = true
  firstData : r.firstData = false
  dataLengthChecksumValid : r.dataLengthChecksumValid = true
  current : r.current = call

/-- The first two bytes of a packet, next to each other. -/
def Opens (first second : Cell) : Prop := first.byte = 0x00 ∧ second.byte = 0xff

instance (first second : Cell) : Decidable (Opens first second) :=
  inferInstanceAs (Decidable (_ ∧ _))

/-- Nothing in these cells looks like the beginning of a packet. -/
abbrev NoOpening (cells : List Cell) : Prop := cells.IsChain fun first second => ¬Opens first second

/-- Whether the last of these cells is a zero. -/
def zeroSeen : List Cell → Bool → Bool
  | [], seen => seen
  | cell :: rest, _ => zeroSeen rest (cell.byte = 0x00)

theorem zeroSeen_concat (cells : List Cell) (cell : Cell) (seen : Bool) :
    zeroSeen (cells ++ [cell]) seen = decide (cell.byte = 0x00) := by
  induction cells generalizing seen with
  | nil => rfl
  | cons first rest ih => exact ih _

section Scan

variable {r : Reader} {n : ℕ}

@[simp] theorem scan_calls (cells : List Cell) (i : ℕ) : (r.scan n i cells).calls = r.calls := by
  induction cells generalizing r i with
  | nil => rfl
  | cons cell rest ih =>
      rw [scan]
      dsimp only
      split_ifs <;> first | rfl | rw [ih]

@[simp] theorem scan_buf (cells : List Cell) (i : ℕ) : (r.scan n i cells).buf = r.buf := by
  induction cells generalizing r i with
  | nil => rfl
  | cons cell rest ih =>
      rw [scan]
      dsimp only
      split_ifs <;> first | rfl | rw [ih]

/-- With the preamble seen, the bytes are taken as data. -/
theorem scan_data (hSeen : r.preambleSeen = true) (cells : List Cell) (i : ℕ) :
    r.scan n i cells = { r with data := r.data ++ cells } := by
  induction cells generalizing r i with
  | nil => rw [scan, List.append_nil]
  | cons cell rest ih =>
      have hRest := @ih { r with data := r.data ++ [cell] } hSeen (i + 1)
      rw [scan, hSeen, if_neg (by decide), ← hSeen, hRest, List.append_assoc,
        List.singleton_append]

/-- Cells without an opening are skipped. -/
theorem scan_skip (hSeen : r.preambleSeen = false) {cells : List Cell} (hNo : NoOpening cells)
    (hFirst : r.preambleStartSeen = true → ∀ cell ∈ cells.head?, cell.byte ≠ 0xff)
    (rest : List Cell) (i : ℕ) :
    r.scan n i (cells ++ rest) =
      scan n (i + cells.length) rest
        { r with preambleStartSeen := zeroSeen cells r.preambleStartSeen } := by
  induction cells generalizing r i with
  | nil => rfl
  | cons cell cells ih =>
      obtain ⟨hHead, hTail⟩ := List.isChain_cons.mp hNo
      have hNot : ¬(r.preambleStartSeen = true ∧ cell.byte = 0xff) := fun hBoth =>
        hFirst hBoth.1 cell rfl hBoth.2
      have hNext := @ih { r with preambleStartSeen := cell.byte = 0x00 } hSeen hTail
        (fun hZero next hNext hFf => hHead next hNext ⟨of_decide_eq_true hZero, hFf⟩) (i + 1)
      rw [List.cons_append, scan, hSeen, if_pos (by decide), if_neg hNot, ← hSeen, hNext,
        List.length_cons, zeroSeen, Nat.add_assoc, Nat.add_comm 1]

end Scan

end Reader

/-- A read with the beginning of a packet in it: what is in front of it has no opening, the
length is not zero, and its checksum is right. -/
structure Opening where
  lead : List Cell
  zero : Cell
  second : Cell
  length : Cell
  checksum : Cell
  more : List Cell
  first : Reader.NoOpening (lead ++ [zero])
  opens : Reader.Opens zero second
  nonzero : length.byte ≠ 0
  valid : (length.byte.toNat + checksum.byte.toNat) % 256 = 0

namespace Opening

def read (o : Opening) : List Cell :=
  o.lead ++ o.zero :: o.second :: o.length :: o.checksum :: o.more

/-- What is known of the packet at the end of the read. The bytes behind the length are taken
from the buffer, where they may still be those of an earlier read. -/
def call (o : Opening) (buf : Memory Cell) : Call :=
  ⟨buf (o.lead.length + 4), buf (o.lead.length + 5), o.more.drop 2⟩

end Opening

namespace Reader

theorem finishRead_idle {r : Reader} {read : List Cell}
    (hRefused : r.packetLength = 0 ∨ r.dataLengthChecksumValid = false) :
    r.finishRead read = r.resetDataRead := by
  unfold finishRead
  rcases hRefused with hZero | hInvalid
  · rw [if_pos hZero]
  · rw [hInvalid, if_pos (show (!false) = true from rfl), ite_self]

/-- Nothing comes of a read. -/
structure Quiet (r next : Reader) : Prop where
  idle : next.IsIdle
  calls : next.calls = r.calls

theorem quiet_of_refused {r scanned : Reader} (read : List Cell) (hCalls : scanned.calls = r.calls)
    (hRefused : scanned.packetLength = 0 ∨ scanned.dataLengthChecksumValid = false) :
    Quiet r (scanned.finishRead read) := by
  rw [finishRead_idle hRefused]
  exact ⟨isIdle_reset _, hCalls⟩

theorem takeFirstData_calls (read : List Cell) (r : Reader) :
    (r.takeFirstData read).calls = r.calls := by
  unfold takeFirstData
  split_ifs <;> rfl

theorem takeFirstData_buf (read : List Cell) (r : Reader) :
    (r.takeFirstData read).buf = r.buf := by
  unfold takeFirstData
  split_ifs <;> rfl

/-- The buffer holds the read, and behind it what it held before. -/
theorem takeRead_buf (read : List Cell) (r : Reader) :
    (r.takeRead read).buf = r.buf.storeAll 0 read := by
  have hFinish (scanned : Reader) : (scanned.finishRead read).buf = scanned.buf := by
    unfold finishRead
    dsimp only
    split_ifs
    · rfl
    · rfl
    · exact takeFirstData_buf read scanned
    · exact takeFirstData_buf read scanned
  rw [takeRead, hFinish]
  exact scan_buf read 0

/-- Cells with an opening have a first one. -/
theorem exists_first_opening (cells : List Cell) :
    NoOpening cells ∨ ∃ lead zero second rest, cells = lead ++ zero :: second :: rest ∧
      NoOpening (lead ++ [zero]) ∧ Opens zero second := by
  induction cells with
  | nil => exact .inl .nil
  | cons cell rest ih =>
      rcases ih with hNo | ⟨lead, zero, second, after, rfl, hFirst, hOpens⟩
      · cases rest with
        | nil => exact .inl (List.isChain_singleton cell)
        | cons next tail =>
            by_cases hOpens : Opens cell next
            · exact .inr ⟨[], cell, next, tail, rfl, List.isChain_singleton cell, hOpens⟩
            · exact .inl (List.isChain_cons_cons.mpr ⟨hOpens, hNo⟩)
      · by_cases hBefore : ∀ next ∈ (lead ++ [zero]).head?, ¬Opens cell next
        · exact .inr ⟨cell :: lead, zero, second, after, rfl, List.isChain_cons.mpr
            ⟨hBefore, hFirst⟩, hOpens⟩
        · push Not at hBefore
          obtain ⟨next, hNext, hEarlier⟩ := hBefore
          refine .inr ⟨[], cell, next, (lead ++ zero :: second :: after).tail, ?_,
            List.isChain_singleton cell, hEarlier⟩
          cases lead with
          | nil =>
              obtain rfl := Option.some.inj hNext
              rfl
          | cons head lead =>
              obtain rfl := Option.some.inj hNext
              rfl

/-- A reader that is idle skips a read without an opening. -/
theorem IsIdle.skip {r : Reader} (h : r.IsIdle) {cells : List Cell} (hNo : NoOpening cells)
    (rest : List Cell) (n : ℕ) :
    r.scan n 0 (cells ++ rest) =
      scan n cells.length rest { r with preambleStartSeen := zeroSeen cells false } := by
  have hSkip := scan_skip h.preambleSeen hNo (fun hStart => by
    rw [h.preambleStartSeen] at hStart
    exact absurd hStart Bool.false_ne_true) rest 0 (n := n)
  rwa [h.preambleStartSeen, Nat.zero_add] at hSkip

theorem IsIdle.filled {r : Reader} (h : r.IsIdle) (buf : Memory Cell) :
    IsIdle { r with buf := buf } :=
  ⟨h.startOfPacket, h.packetLength, h.preambleStartSeen, h.preambleSeen, h.firstData,
    h.dataLengthChecksumValid, h.data⟩

theorem IsIdle.takeRead_noOpening {r : Reader} (h : r.IsIdle) {read : List Cell}
    (hNo : NoOpening read) : Quiet r (r.takeRead read) := by
  have hSkip := (h.filled (r.buf.storeAll 0 read)).skip hNo [] read.length
  rw [List.append_nil] at hSkip
  refine quiet_of_refused read (scan_calls read 0) (.inl ?_)
  rw [hSkip]
  exact h.packetLength

/-- The bytes behind an opening, as they are in the buffer. -/
theorem storeAll_behind (buf : Memory Cell) (lead : List Cell) (zero second : Cell)
    (rest : List Cell) (k : ℕ) :
    buf.storeAll 0 (lead ++ zero :: second :: rest) (lead.length + 2 + k) =
      if k < rest.length then rest[k]? else buf (lead.length + 2 + k) := by
  have hBehind : (lead ++ zero :: second :: rest)[lead.length + 2 + k]? = rest[k]? := by
    rw [List.getElem?_append_right (by omega), Nat.add_assoc, Nat.add_sub_cancel_left,
      Nat.add_comm, List.getElem?_cons_succ, List.getElem?_cons_succ]
  rw [Memory.storeAll_apply, Nat.sub_zero, hBehind]
  have hInside : (0 ≤ lead.length + 2 + k ∧
      lead.length + 2 + k < 0 + (lead ++ zero :: second :: rest).length) ↔ k < rest.length := by
    simp only [List.length_append, List.length_cons]
    omega
  simp only [hInside]

section WithOpening

variable {lead : List Cell} {zero second : Cell} (hFirst : NoOpening (lead ++ [zero]))
  (hOpens : Opens zero second)

/-- What the scan has found when it is at the second byte of an opening. -/
def opened (lead : List Cell) (r : Reader) : Reader :=
  { r with
    preambleStartSeen := true
    preambleSeen := true
    startOfPacket := lead.length + 2 }

/-- What a read leaves, if the length and its checksum are in it. -/
def measured (lead : List Cell) (length checksum : Cell) (r : Reader) : Reader :=
  { r.opened lead with
    packetLength := length.byte.toNat
    dataLengthChecksumValid := (length.byte.toNat + checksum.byte.toNat) % 256 == 0 }

include hFirst hOpens

theorem IsIdle.scan_opening {r : Reader} (h : r.IsIdle) (rest : List Cell) (n : ℕ) :
    r.scan n 0 (lead ++ zero :: second :: rest) =
      if lead.length + 3 ≥ n then { r.opened lead with data := rest }
      else (r.opened lead).readLength := by
  have hSkip := h.skip hFirst (second :: rest) n
  have hBoth : true = true ∧ second.byte = 0xff := ⟨rfl, hOpens.2⟩
  rw [List.append_assoc, List.singleton_append, zeroSeen_concat, decide_eq_true hOpens.1,
    List.length_append, List.length_singleton] at hSkip
  rw [hSkip, scan]
  dsimp only
  rw [h.preambleSeen, if_pos (by decide), if_pos hBoth]
  split_ifs with hShort
  · rw [scan_data rfl, h.data, List.nil_append]
    rfl
  · rfl

theorem IsIdle.takeRead_short {r : Reader} (h : r.IsIdle) {rest : List Cell}
    (hShort : rest.length ≤ 1) :
    Quiet r (r.takeRead (lead ++ zero :: second :: rest)) := by
  have hScan := (h.filled (r.buf.storeAll 0 (lead ++ zero :: second :: rest))).scan_opening
    hFirst hOpens rest (lead ++ zero :: second :: rest).length
  refine quiet_of_refused _ (scan_calls _ 0) (.inl ?_)
  rw [hScan, if_pos (by simp; omega)]
  exact h.packetLength

variable {length checksum : Cell} {more : List Cell}

/-- The length of the packet and its checksum are in the read. -/
theorem IsIdle.scan_length {r : Reader} (h : r.IsIdle) {read : List Cell}
    (hRead : read = lead ++ zero :: second :: length :: checksum :: more) :
    scan read.length 0 read { r with buf := r.buf.storeAll 0 read } =
      measured lead length checksum { r with buf := r.buf.storeAll 0 read } := by
  have hScan := (h.filled (r.buf.storeAll 0 read)).scan_opening hFirst hOpens
    (length :: checksum :: more) read.length
  have hLong : ¬lead.length + 3 ≥ read.length := by
    rw [hRead]
    simp
  have hLength : r.buf.storeAll 0 read (lead.length + 2) = some length := by
    rw [hRead]
    exact storeAll_behind r.buf lead zero second (length :: checksum :: more) 0
  have hChecksum : r.buf.storeAll 0 read (lead.length + 3) = some checksum := by
    rw [hRead]
    exact storeAll_behind r.buf lead zero second (length :: checksum :: more) 1
  rw [← hRead, if_neg hLong] at hScan
  rw [hScan, readLength, bufByte, bufByte]
  dsimp only [opened]
  rw [hLength, hChecksum, h.dataLengthChecksumValid, Bool.false_or]
  rfl

theorem IsIdle.takeRead_refused {r : Reader} (h : r.IsIdle) {read : List Cell}
    (hRead : read = lead ++ zero :: second :: length :: checksum :: more)
    (hRefused : length.byte = 0 ∨ (length.byte.toNat + checksum.byte.toNat) % 256 ≠ 0) :
    Quiet r (r.takeRead read) := by
  refine quiet_of_refused _ (scan_calls _ 0) ?_
  rw [h.scan_length hFirst hOpens hRead]
  rcases hRefused with hZero | hInvalid
  · exact .inl (congrArg UInt8.toNat hZero)
  · exact .inr (beq_eq_false_iff_ne.mpr hInvalid)

end WithOpening

/-- A read without the beginning of a packet changes nothing. -/
theorem IsIdle.takeRead_quiet {r : Reader} (h : r.IsIdle) {read : List Cell}
    (hNone : ∀ o : Opening, read ≠ o.read) : Quiet r (r.takeRead read) := by
  rcases exists_first_opening read with hNo | ⟨lead, zero, second, rest, hRead, hFirst, hOpens⟩
  · exact h.takeRead_noOpening hNo
  · match rest, hRead with
    | [], hRead =>
        rw [hRead]
        exact h.takeRead_short hFirst hOpens (Nat.zero_le 1)
    | [last], hRead =>
        rw [hRead]
        exact h.takeRead_short hFirst hOpens (Nat.le_refl 1)
    | length :: checksum :: more, hRead =>
        refine h.takeRead_refused hFirst hOpens hRead ?_
        by_contra hAccepted
        rw [not_or, not_not] at hAccepted
        exact hNone ⟨lead, zero, second, length, checksum, more, hFirst, hOpens, hAccepted.1,
          hAccepted.2⟩ hRead

/-- The packet is complete or not. -/
structure Ends (length : ℕ) (call : Call) (r next : Reader) : Prop where
  collects : call.data.length < length → next.Collects length call ∧ next.calls = r.calls
  parses : length ≤ call.data.length → next.IsIdle ∧ next.calls = r.calls ++ [call]

theorem Collects.ends {r taken : Reader} {length : ℕ} {call : Call} (h : taken.Collects length call)
    (hCalls : taken.calls = r.calls) :
    Ends length call r (if taken.data.length < taken.packetLength then taken else taken.parse) := by
  have hData : taken.data = call.data := congrArg Call.data h.current
  rw [hData, h.packetLength]
  constructor
  · intro hShort
    rw [if_pos hShort]
    exact ⟨h, hCalls⟩
  · intro hLong
    rw [if_neg (Nat.not_lt.mpr hLong), parse, h.current, hCalls]
    exact ⟨isIdle_reset _, rfl⟩

theorem finishRead_accepted {scanned : Reader} (read : List Cell)
    (hLength : scanned.packetLength ≠ 0) (hValid : scanned.dataLengthChecksumValid = true) :
    scanned.finishRead read =
      if (scanned.takeFirstData read).data.length < (scanned.takeFirstData read).packetLength then
        scanned.takeFirstData read
      else (scanned.takeFirstData read).parse := by
  rw [finishRead, if_neg hLength, hValid, if_neg (by decide)]

/-- The header of a packet is taken from the buffer, and the data from the read. -/
theorem takeFirstData_collects {scanned : Reader} (hSeen : scanned.preambleSeen = true)
    (hFirst : scanned.firstData = true) (hValid : scanned.dataLengthChecksumValid = true)
    (hData : scanned.data = []) (read : List Cell) :
    (scanned.takeFirstData read).Collects scanned.packetLength
      ⟨scanned.buf (scanned.startOfPacket + 2), scanned.buf (scanned.startOfPacket + 3),
        read.drop (scanned.startOfPacket + 4)⟩ := by
  rw [takeFirstData, if_pos hFirst, hData, List.nil_append]
  exact ⟨rfl, hSeen, rfl, hValid, rfl⟩

theorem Collects.takeFirstData {scanned : Reader} {length : ℕ} {call : Call}
    (h : scanned.Collects length call) (read : List Cell) :
    scanned.takeFirstData read = scanned :=
  if_neg (by rw [h.firstData]; decide)

/-- A read with the beginning of a packet. -/
theorem IsIdle.takeRead_opening {r : Reader} (h : r.IsIdle) (o : Opening) :
    Ends o.length.byte.toNat (o.call (r.buf.storeAll 0 o.read)) r (r.takeRead o.read) := by
  have hScan := h.scan_length o.first o.opens (rfl : o.read = _)
  have hLength : o.length.byte.toNat ≠ 0 := fun hZero => o.nonzero (UInt8.toNat_inj.mp hZero)
  have hValid : ((o.length.byte.toNat + o.checksum.byte.toNat) % 256 == 0) = true :=
    beq_iff_eq.mpr o.valid
  have hMore : o.read.drop (o.lead.length + 2 + 4) = o.more.drop 2 := by
    have hFour : o.read = (o.lead ++ [o.zero, o.second, o.length, o.checksum]) ++ o.more := by
      rw [Opening.read]
      simp
    have hIndex : o.lead.length + 2 + 4 =
        (o.lead ++ [o.zero, o.second, o.length, o.checksum]).length + 2 := by
      simp
    rw [hFour, hIndex, List.drop_length_add_append]
  rw [takeRead, hScan, finishRead_accepted _ hLength hValid, Opening.call, ← hMore]
  exact (@takeFirstData_collects (measured o.lead o.length o.checksum
    { r with buf := r.buf.storeAll 0 o.read }) rfl h.firstData hValid h.data o.read).ends
      (takeFirstData_calls o.read _)

/-- A read that brings more data. -/
theorem Collects.takeRead {r : Reader} {length : ℕ} {call : Call} (h : r.Collects length call)
    (hLength : length ≠ 0) (read : List Cell) :
    Ends length { call with data := call.data ++ read } r (r.takeRead read) := by
  have hMore : Collects length { call with data := call.data ++ read }
      { r with buf := r.buf.storeAll 0 read, data := r.data ++ read } := by
    refine ⟨h.packetLength, h.preambleSeen, h.firstData, h.dataLengthChecksumValid, ?_⟩
    rw [← h.current]
    rfl
  have hScan := @scan_data { r with buf := r.buf.storeAll 0 read } read.length h.preambleSeen read 0
  rw [Reader.takeRead, hScan, finishRead_accepted _ (by rwa [hMore.packetLength])
    hMore.dataLengthChecksumValid, hMore.takeFirstData]
  exact hMore.ends rfl

theorem takeReads_append (first second : List (List Cell)) (r : Reader) :
    r.takeReads (first ++ second) = (r.takeReads first).takeReads second := List.foldl_append

theorem takeReads_cons (read : List Cell) (reads : List (List Cell)) (r : Reader) :
    r.takeReads (read :: reads) = (r.takeRead read).takeReads reads := rfl

/-- A further read, while data are missing. -/
theorem Ends.takeRead {r next : Reader} {length : ℕ} {call : Call} (h : Ends length call r next)
    (hLength : length ≠ 0) (hShort : call.data.length < length) (read : List Cell) :
    Ends length { call with data := call.data ++ read } r (next.takeRead read) := by
  obtain ⟨hCollects, hCalls⟩ := h.collects hShort
  have hNext := hCollects.takeRead hLength read
  constructor
  · intro hStill
    exact ⟨(hNext.collects hStill).1, (hNext.collects hStill).2.trans hCalls⟩
  · intro hLong
    exact ⟨(hNext.parses hLong).1, by rw [(hNext.parses hLong).2, hCalls]⟩

/-- The data of a packet are collected up to its end, if the end of a read is there. -/
theorem Ends.collect {r next : Reader} {length : ℕ} {call : Call} (h : Ends length call r next)
    (hLength : length ≠ 0) {more : List (List Cell)} (hMore : ∀ read ∈ more, read ≠ [])
    (hWhole : (call.data ++ more.flatten).length = length) :
    (next.takeReads more).IsIdle ∧
      (next.takeReads more).calls =
        r.calls ++ [{ call with data := call.data ++ more.flatten }] := by
  induction more generalizing next call with
  | nil =>
      rw [List.flatten_nil, List.append_nil] at hWhole ⊢
      exact h.parses hWhole.ge
  | cons read rest ih =>
      have hRead : 0 < read.length := List.length_pos_of_ne_nil (hMore read List.mem_cons_self)
      rw [List.flatten_cons, ← List.append_assoc] at hWhole ⊢
      have hParts := hWhole
      rw [List.length_append, List.length_append] at hParts
      exact ih (h.takeRead hLength (by omega) read)
        (fun other hOther => hMore other (List.mem_cons_of_mem _ hOther)) hWhole

/-- What has been called stays called. -/
theorem takeRead_grows (read : List Cell) (r : Reader) : r.calls <+: (r.takeRead read).calls := by
  have hFinish (scanned : Reader) : scanned.calls <+: (scanned.finishRead read).calls := by
    unfold finishRead
    dsimp only
    split_ifs
    · exact List.prefix_rfl
    · exact List.prefix_rfl
    · rw [takeFirstData_calls]
    · rw [← takeFirstData_calls read scanned]
      exact List.prefix_append _ _
  have hScan := hFinish (scan read.length 0 read { r with buf := r.buf.storeAll 0 read })
  rwa [scan_calls] at hScan

theorem takeReads_grows (reads : List (List Cell)) (r : Reader) :
    r.calls <+: (r.takeReads reads).calls := by
  induction reads generalizing r with
  | nil => exact List.prefix_rfl
  | cons read rest ih => exact (takeRead_grows read r).trans (ih (r.takeRead read))

/-- What is in the buffer has been read, or has been there before. -/
theorem takeReads_buf {reads : List (List Cell)} {r : Reader} {index : ℕ} {cell : Cell}
    (hCell : (r.takeReads reads).buf index = some cell) :
    cell ∈ reads.flatten ∨ r.buf index = some cell := by
  induction reads generalizing r with
  | nil => exact .inr hCell
  | cons read rest ih =>
      rw [List.flatten_cons, List.mem_append]
      rcases ih hCell with hRest | hBefore
      · exact .inl (.inr hRest)
      · rw [takeRead_buf, Memory.storeAll_apply] at hBefore
        split_ifs at hBefore
        · exact .inl (.inl (List.mem_of_getElem? hBefore))
        · exact .inr hBefore

/-- The first call that is made, if one is made. -/
theorem Ends.first_call {r next : Reader} {length : ℕ} {call : Call} (h : Ends length call r next)
    (hLength : length ≠ 0) (reads : List (List Cell)) :
    (next.takeReads reads).calls = r.calls ∨
      ∃ more after, reads = more ++ after ∧ (next.takeReads more).IsIdle ∧
        (next.takeReads more).calls =
          r.calls ++ [{ call with data := call.data ++ more.flatten }] := by
  induction reads generalizing next call with
  | nil =>
      rcases Nat.lt_or_ge call.data.length length with hShort | hLong
      · exact .inl (h.collects hShort).2
      · refine .inr ⟨[], [], rfl, ?_⟩
        rw [List.flatten_nil, List.append_nil]
        exact h.parses hLong
  | cons read rest ih =>
      rcases Nat.lt_or_ge call.data.length length with hShort | hLong
      · rcases ih (h.takeRead hLength hShort read) with hNone | ⟨more, after, rfl, hDone⟩
        · exact .inl hNone
        · refine .inr ⟨read :: more, after, rfl, ?_⟩
          rw [List.flatten_cons, ← List.append_assoc]
          exact hDone
      · refine .inr ⟨[], read :: rest, rfl, ?_⟩
        rw [List.flatten_nil, List.append_nil]
        exact h.parses hLong

/-- The first call comes from a read with an opening, and the reads after it. -/
theorem IsIdle.first_call {r : Reader} (h : r.IsIdle) (reads : List (List Cell)) :
    (r.takeReads reads).calls = r.calls ∨
      ∃ (before : List (List Cell)) (o : Opening) (more after : List (List Cell)),
        reads = before ++ o.read :: more ++ after ∧
        (r.takeReads (before ++ o.read :: more)).IsIdle ∧
        (r.takeReads (before ++ o.read :: more)).calls = r.calls ++
          [{ o.call ((r.takeReads before).buf.storeAll 0 o.read) with
              data := o.more.drop 2 ++ more.flatten }] := by
  induction reads generalizing r with
  | nil => exact .inl rfl
  | cons read rest ih =>
      by_cases hOpening : ∃ o : Opening, read = o.read
      · obtain ⟨o, rfl⟩ := hOpening
        have hLength : o.length.byte.toNat ≠ 0 := fun hZero => o.nonzero (UInt8.toNat_inj.mp hZero)
        rcases (h.takeRead_opening o).first_call hLength rest with
          hNone | ⟨more, after, rfl, hDone⟩
        · exact .inl hNone
        · exact .inr ⟨[], o, more, after, rfl, hDone⟩
      · have hQuiet := h.takeRead_quiet (not_exists.mp hOpening)
        rcases ih hQuiet.idle with hNone | ⟨before, o, more, after, rfl, hIdle, hCalls⟩
        · exact .inl (hNone.trans hQuiet.calls)
        · refine .inr ⟨read :: before, o, more, after, rfl, hIdle, ?_⟩
          rw [← hQuiet.calls]
          exact hCalls

end Reader

end EverestCore.Pn532
