import EverestCore.Pn532.Reader

/-! How a stream of frames may be divided into reads. The cells of the stream carry their
positions, so that it can be said which bytes a call of `parseData` is given. -/
namespace EverestCore.Pn532
open Reader

/-- The cells of an acknowledgement, `00 00 FF 00 FF 00`. -/
structure Ack where
  cells : List Cell
  bytes : cells.map Cell.byte = [0x00, 0x00, 0xff, 0x00, 0xff, 0x00]

/-- The cells of a response, `00 00 FF LEN LCS TFI CC data DCS 00`. The length counts the bytes
from `TFI` to the end of the data. -/
structure Response where
  start : Cell
  zero : Cell
  second : Cell
  length : Cell
  lengthChecksum : Cell
  tfi : Cell
  commandCode : Cell
  data : List Cell
  dataChecksum : Cell
  postamble : Cell
  start_zero : start.byte = 0x00
  opens : Opens zero second
  counts : length.byte.toNat = data.length + 2
  length_valid : (length.byte.toNat + lengthChecksum.byte.toNat) % 256 = 0
  data_valid : tfi.byte + commandCode.byte + dataChecksum.byte + (data.map Cell.byte).sum = 0
  postamble_zero : postamble.byte = 0x00

namespace Response

/-- What has to come in one read. -/
def header (f : Response) : List Cell :=
  [f.zero, f.second, f.length, f.lengthChecksum, f.tfi, f.commandCode]

/-- What may be divided. -/
def body (f : Response) : List Cell := f.data ++ [f.dataChecksum, f.postamble]

def cells (f : Response) : List Cell := f.start :: f.header ++ f.body

/-- The call that a response is for. The checksum and the postamble are removed in `parseData`. -/
def call (f : Response) : Call := ⟨some f.tfi, some f.commandCode, f.body⟩

/-- The data of a response are found in the buffer of its call. -/
theorem call_parseData (f : Response) : f.call.parseData = some f.data := by
  have hDropped : f.body.dropLast = f.data ++ [f.dataChecksum] := by
    rw [body, List.append_cons, List.dropLast_concat]
  have hLast : f.body.getLast? = some f.postamble := by
    rw [body, List.append_cons, List.getLast?_concat]
  have hEnds : Call.byteOf f.body.getLast? = 0x00 ∧ f.body.length ≥ 2 := by
    rw [hLast]
    exact ⟨f.postamble_zero, by simp [body]⟩
  rw [Call.parseData, call]
  dsimp only
  rw [if_pos hEnds, hDropped, List.getLast?_concat, List.dropLast_concat]
  exact if_pos f.data_valid

end Response

inductive Frame where
  | ack (frame : Ack)
  | response (frame : Response)

def Frame.cells : Frame → List Cell
  | .ack frame => frame.cells
  | .response frame => frame.cells

def Frame.call? : Frame → Option Call
  | .ack _ => none
  | .response frame => some frame.call

def stream (frames : List Frame) : List Cell := frames.flatMap Frame.cells

/-- One call for each response. -/
def expectedCalls (frames : List Frame) : List Call := frames.filterMap Frame.call?

def acknowledgements (acks : List Ack) : List Frame := acks.map Frame.ack

/-- Divisions in which each response has its header in one read, with nothing in front of it in
this read that looks like the beginning of a packet, and ends at the end of a read. -/
inductive Aligned : List Frame → List (List Cell) → Prop where
  | acks (acks : List Ack) {reads : List (List Cell)}
      (hReads : reads.flatten = stream (acknowledgements acks)) :
      Aligned (acknowledgements acks) reads
  | response (acks : List Ack) (f : Response) {before more after : List (List Cell)}
      {lead first : List Cell} {frames : List Frame}
      (hBefore : before.flatten ++ lead = stream (acknowledgements acks) ++ [f.start])
      (hFirst : NoOpening (lead ++ [f.zero]))
      (hBody : first ++ more.flatten = f.body)
      (hAfter : Aligned frames after) :
      Aligned (acknowledgements acks ++ .response f :: frames)
        (before ++ ((lead ++ f.header ++ first) :: more) ++ after)

theorem stream_append (first second : List Frame) :
    stream (first ++ second) = stream first ++ stream second := List.flatMap_append

theorem stream_response (f : Response) (frames : List Frame) :
    stream (.response f :: frames) = f.cells ++ stream frames := List.flatMap_cons

@[simp] theorem expectedCalls_acknowledgements (acks : List Ack) :
    expectedCalls (acknowledgements acks) = [] := by
  rw [expectedCalls, acknowledgements, List.filterMap_map]
  exact List.filterMap_eq_nil_iff.mpr fun _ _ => rfl

theorem expectedCalls_response (acks : List Ack) (f : Response) (frames : List Frame) :
    expectedCalls (acknowledgements acks ++ .response f :: frames) =
      f.call :: expectedCalls frames := by
  rw [expectedCalls, List.filterMap_append, ← expectedCalls, expectedCalls_acknowledgements]
  rfl

theorem length_body (f : Response) : f.body.length = f.length.byte.toNat := by
  rw [Response.body, List.length_append, f.counts]
  rfl

/-- Behind an `FF` there is a zero. -/
abbrev Settled (cells : List Cell) : Prop :=
  cells.IsChain fun first second => first.byte = 0xff → second.byte = 0x00

/-- Where this is so, no packet begins. -/
theorem Settled.ne_read {cells : List Cell} (h : Settled cells) (o : Opening) : cells ≠ o.read := by
  rintro rfl
  have hTail := h.right_of_append
  have hLength := (List.isChain_cons_cons.mp (List.isChain_cons_cons.mp hTail).2).1
  exact o.nonzero (hLength o.opens.2)

/-- An acknowledgement is settled, and so is what follows on it. -/
theorem Settled.ack {cells : List Cell} (h : Settled cells) (ack : Ack) :
    Settled (ack.cells ++ cells) := by
  have hOwn : Settled ack.cells := by
    refine (List.isChain_map Cell.byte
      (R := fun first second : UInt8 => first = 0xff → second = 0x00)).mp ?_
    rw [ack.bytes]
    decide
  refine hOwn.append h fun last hLast next _ hFf => ?_
  have hZero := congrArg List.getLast? ack.bytes
  rw [List.getLast?_map, Option.mem_def.mp hLast, Option.map_some] at hZero
  rw [Option.some.inj hZero] at hFf
  exact absurd hFf (by decide)

theorem Settled.acknowledgements {cells : List Cell} (h : Settled cells) (acks : List Ack) :
    Settled (stream (acknowledgements acks) ++ cells) := by
  induction acks with
  | nil => exact h
  | cons ack rest ih =>
      rw [Pn532.acknowledgements, List.map_cons, stream, List.flatMap_cons, List.append_assoc]
      exact ih.ack ack

/-- Reads of which nothing comes. -/
theorem takeReads_settled {r : Reader} (h : r.IsIdle) {reads : List (List Cell)}
    (hSettled : Settled reads.flatten) : Quiet r (r.takeReads reads) := by
  induction reads generalizing r with
  | nil => exact ⟨h, rfl⟩
  | cons read rest ih =>
      rw [List.flatten_cons] at hSettled
      have hRead : Settled read := hSettled.left_of_append
      have hQuiet := h.takeRead_quiet hRead.ne_read
      have hRest := ih hQuiet.idle hSettled.right_of_append
      exact ⟨hRest.idle, hRest.calls.trans hQuiet.calls⟩

namespace Response

variable (f : Response) (lead first : List Cell) (hFirst : NoOpening (lead ++ [f.zero]))

theorem length_pos : f.length.byte.toNat ≠ 0 := by
  rw [f.counts]
  exact Nat.succ_ne_zero _

/-- The read with the header of a response. -/
def opening : Opening where
  lead := lead
  zero := f.zero
  second := f.second
  length := f.length
  checksum := f.lengthChecksum
  more := f.tfi :: f.commandCode :: first
  first := hFirst
  opens := f.opens
  nonzero hZero := f.length_pos (congrArg UInt8.toNat hZero)
  valid := f.length_valid

theorem opening_read : (f.opening lead first hFirst).read = lead ++ f.header ++ first :=
  (List.append_assoc lead f.header first).symm

theorem opening_call (buf : Memory Cell) :
    (f.opening lead first hFirst).call (buf.storeAll 0 (f.opening lead first hFirst).read) =
      ⟨some f.tfi, some f.commandCode, first⟩ := by
  have hBehind (k : ℕ) := storeAll_behind buf lead f.zero f.second
    (f.length :: f.lengthChecksum :: f.tfi :: f.commandCode :: first) k
  rw [Opening.call]
  congr 1
  · exact (hBehind 2).trans (if_pos (by simp))
  · exact (hBehind 3).trans (if_pos (by simp))

end Response

/-- An aligned division gives one call for each response. -/
theorem Aligned.takeReads {frames : List Frame} {reads : List (List Cell)}
    (h : Aligned frames reads) {r : Reader} (hIdle : r.IsIdle)
    (hNonempty : ∀ read ∈ reads, read ≠ []) :
    (r.takeReads reads).calls = r.calls ++ expectedCalls frames := by
  induction h generalizing r with
  | @acks acks reads hReads =>
      have hSettled : Settled reads.flatten := by
        have hAcks := (show Settled [] from .nil).acknowledgements acks
        rwa [List.append_nil, ← hReads] at hAcks
      have hQuiet := takeReads_settled hIdle hSettled
      rw [hQuiet.calls, expectedCalls_acknowledgements, List.append_nil]
  | @response acks f before more after lead first frames hBefore hFirst hBody hAfter ih =>
      have hStart : Settled [f.start] := List.isChain_singleton f.start
      have hSettled := hStart.acknowledgements acks
      rw [← hBefore] at hSettled
      have hQuiet := takeReads_settled hIdle hSettled.left_of_append
      have hEnds := hQuiet.idle.takeRead_opening (f.opening lead first hFirst)
      rw [f.opening_call, f.opening_read] at hEnds
      have hWhole : (first ++ more.flatten).length = f.length.byte.toNat := by
        rw [hBody, length_body]
      obtain ⟨hDone, hCalls⟩ := hEnds.collect f.length_pos
        (fun read hRead => hNonempty read (by simp [hRead])) hWhole
      have hRest := ih hDone fun read hRead => hNonempty read (by simp [hRead])
      rw [hBody, hQuiet.calls] at hCalls
      rw [takeReads_append, takeReads_append, takeReads_cons, hRest, hCalls,
        expectedCalls_response, List.append_assoc]
      rfl

/-- In a list in which nothing occurs twice, a part has one place. -/
theorem parts_unique {α : Type} {lead lead' part rest rest' : List α}
    (hSame : lead ++ (part ++ rest) = lead' ++ (part ++ rest'))
    (hNodup : (lead ++ (part ++ rest)).Nodup) (hPart : part ≠ []) :
    lead = lead' ∧ rest = rest' := by
  obtain ⟨head, tail, rfl⟩ := List.exists_cons_of_ne_nil hPart
  have hOnce := (List.nodup_cons.mp (List.nodup_middle.mp hNodup)).1
  rw [List.mem_append, not_or] at hOnce
  obtain ⟨hLead, -, hTail⟩ := (List.append_cons_inj_of_notMem hOnce.1 hOnce.2).mp hSame
  exact ⟨hLead, List.append_cancel_left hTail⟩

section FirstCall

variable {f : Response} {o : Opening} {front more behind before tail : List Cell}
  (hStream : front ++ o.read ++ (more ++ behind) = before ++ f.header ++ (f.body ++ tail))
  (hNodup : (front ++ o.read ++ (more ++ behind)).Nodup)
  (hData : o.more.drop 2 ++ more = f.body)

include hStream hNodup hData

/-- A header that ends behind the read would leave the command code to what the buffer held. -/
theorem two_le_more {buf : Memory Cell}
    (hBuf : ∀ index, buf index = some f.commandCode → f.commandCode ∈ front)
    (hCommand : buf.storeAll 0 o.read (o.lead.length + 5) = some f.commandCode) :
    2 ≤ o.more.length := by
  by_contra hShort
  rw [List.drop_eq_nil_of_le (by omega), List.nil_append] at hData
  have hBehind := storeAll_behind buf o.lead o.zero o.second (o.length :: o.checksum :: o.more) 3
  rw [if_neg (by simp only [List.length_cons]; omega)] at hBehind
  have hFront : f.commandCode ∈ front := hBuf _ (hBehind.symm.trans hCommand)
  rw [← hData] at hStream
  obtain ⟨hHeader, -⟩ := parts_unique hStream hNodup (by rw [hData]; simp [Response.body])
  have hLast := congrArg List.getLast? hHeader
  rw [List.getLast?_append_of_ne_nil _ (by simp [Opening.read]),
    List.getLast?_append_of_ne_nil _ (show f.header ≠ [] from List.cons_ne_nil _ _)] at hLast
  have hRead : f.commandCode ∈ o.read := List.mem_of_getLast? hLast
  exact (List.nodup_append.mp (List.nodup_append.mp hNodup).1).2.2 _ hFront _ hRead rfl

/-- Where a call is the one of a response, the read that begins it has the header. -/
theorem header_of_call (hMore : 2 ≤ o.more.length) :
    front ++ o.lead = before ∧ o.read = o.lead ++ f.header ++ o.more.drop 2 ∧ behind = tail := by
  obtain ⟨tfi, commandCode, first, hParts⟩ : ∃ tfi commandCode first,
      o.more = tfi :: commandCode :: first := by
    match o.more, hMore with
    | tfi :: commandCode :: first, _ => exact ⟨tfi, commandCode, first, rfl⟩
  let header := [o.zero, o.second, o.length, o.checksum, tfi, commandCode]
  have hRead : o.read = o.lead ++ header ++ o.more.drop 2 := by
    rw [Opening.read, hParts, List.append_assoc]
    rfl
  have hSame : front ++ o.lead ++ header ++ (f.body ++ behind) =
      before ++ f.header ++ (f.body ++ tail) := by
    rw [← hStream, hRead, ← hData]
    simp only [List.append_assoc]
  have hOnce : (front ++ o.lead ++ header ++ (f.body ++ behind)).Nodup := by
    rwa [hSame, ← hStream]
  obtain ⟨hHeader, hBehind⟩ := parts_unique hSame hOnce (by simp [Response.body])
  obtain ⟨hBefore, hOwn⟩ := List.append_inj' hHeader rfl
  exact ⟨hBefore, hOwn ▸ hRead, hBehind⟩

end FirstCall

theorem acknowledgements_or_response (frames : List Frame) :
    (∃ acks, frames = acknowledgements acks) ∨
      ∃ acks f rest, frames = acknowledgements acks ++ .response f :: rest := by
  induction frames with
  | nil => exact .inl ⟨[], rfl⟩
  | cons frame rest ih =>
      match frame, ih with
      | .response f, _ => exact .inr ⟨[], f, rest, rfl⟩
      | .ack ack, .inl ⟨acks, hAcks⟩ => exact .inl ⟨ack :: acks, by rw [hAcks]; rfl⟩
      | .ack ack, .inr ⟨acks, f, after, hAfter⟩ =>
          exact .inr ⟨ack :: acks, f, after, by rw [hAfter]; rfl⟩

theorem stream_parts (acks : List Ack) (f : Response) (rest : List Frame) :
    stream (acknowledgements acks ++ .response f :: rest) =
      (stream (acknowledgements acks) ++ [f.start]) ++ f.header ++ (f.body ++ stream rest) := by
  rw [stream_append, stream_response, Response.cells]
  simp only [List.append_assoc, List.cons_append, List.nil_append]

theorem reads_parts (before more after : List (List Cell)) (read : List Cell) :
    (before ++ read :: more ++ after).flatten =
      before.flatten ++ read ++ (more.flatten ++ after.flatten) := by
  simp only [List.flatten_append, List.flatten_cons, List.append_assoc]

/-- The first response of a stream, if the calls are those of the responses. -/
theorem response_of_calls {acks : List Ack} {f : Response} {rest : List Frame}
    {reads : List (List Cell)} {r : Reader} (hIdle : r.IsIdle)
    (hReads : reads.flatten = stream (acknowledgements acks ++ .response f :: rest))
    (hNodup : reads.flatten.Nodup) (hBuf : ∀ index, ∀ cell ∈ reads.flatten, r.buf index ≠ some cell)
    (hCalls : (r.takeReads reads).calls = r.calls ++ f.call :: expectedCalls rest) :
    ∃ before lead first more after, reads = before ++ (lead ++ f.header ++ first) :: more ++ after ∧
      before.flatten ++ lead = stream (acknowledgements acks) ++ [f.start] ∧
      NoOpening (lead ++ [f.zero]) ∧ first ++ more.flatten = f.body ∧
      after.flatten = stream rest ∧
      (r.takeReads (before ++ (lead ++ f.header ++ first) :: more)).IsIdle ∧
      (r.takeReads (before ++ (lead ++ f.header ++ first) :: more)).calls =
        r.calls ++ [f.call] := by
  rcases hIdle.first_call reads with hNone | ⟨before, o, more, after, rfl, hDone, hFirst⟩
  · rw [hNone] at hCalls
    exact absurd (List.self_eq_append_right.mp hCalls) (List.cons_ne_nil _ _)
  obtain ⟨later, hLater⟩ := takeReads_grows after (r.takeReads (before ++ o.read :: more))
  rw [← takeReads_append, hFirst, hCalls, List.append_assoc] at hLater
  have hCall := (List.cons.inj (List.append_cancel_left hLater)).1
  have hData : o.more.drop 2 ++ more.flatten = f.body := congrArg Call.data hCall
  have hCommand : f.commandCode ∈ (before ++ o.read :: more ++ after).flatten := by
    rw [hReads, stream_parts]
    simp [Response.header]
  have hBefore (index : ℕ) (hHeld : (r.takeReads before).buf index = some f.commandCode) :
      f.commandCode ∈ before.flatten :=
    (takeReads_buf hHeld).resolve_right (hBuf index _ hCommand)
  rw [stream_parts, reads_parts] at hReads
  rw [reads_parts] at hNodup
  have hMore := two_le_more hReads hNodup hData hBefore (congrArg Call.commandCode hCall)
  obtain ⟨hLead, hRead, hAfter⟩ := header_of_call hReads hNodup hData hMore
  have hZero : o.zero = f.zero := by
    have hOwn := hRead
    rw [Opening.read, List.append_assoc] at hOwn
    exact (List.cons.inj (List.append_cancel_left hOwn)).1
  rw [hCall] at hFirst
  rw [hRead] at hDone hFirst ⊢
  exact ⟨before, o.lead, o.more.drop 2, more, after, rfl, hLead, hZero ▸ o.first, hData, hAfter,
    hDone, hFirst⟩

/-- Calls that are those of the responses come from an aligned division. -/
theorem aligned_of_calls {frames : List Frame} {reads : List (List Cell)} {r : Reader}
    (hIdle : r.IsIdle) (hReads : reads.flatten = stream frames) (hNodup : reads.flatten.Nodup)
    (hBuf : ∀ index, ∀ cell ∈ reads.flatten, r.buf index ≠ some cell)
    (hCalls : (r.takeReads reads).calls = r.calls ++ expectedCalls frames) :
    Aligned frames reads := by
  induction hLength : frames.length using Nat.strong_induction_on generalizing frames reads r with
  | _ count ih =>
      rcases acknowledgements_or_response frames with ⟨acks, rfl⟩ | ⟨acks, f, rest, rfl⟩
      · exact .acks acks hReads
      rw [expectedCalls_response] at hCalls
      obtain ⟨before, lead, first, more, after, rfl, hLead, hFirst, hBody, hAfter, hDone, hCall⟩ :=
        response_of_calls hIdle hReads hNodup hBuf hCalls
      have hShorter : rest.length < count := by
        rw [← hLength, List.length_append, List.length_cons]
        omega
      rw [takeReads_append, List.append_cons r.calls, ← hCall] at hCalls
      rw [List.flatten_append] at hNodup hBuf
      obtain ⟨-, hRest, hApart⟩ := List.nodup_append.mp hNodup
      refine .response acks f hLead hFirst hBody (ih _ hShorter hDone hAfter hRest ?_ hCalls rfl)
      intro index cell hCell hHeld
      rcases takeReads_buf hHeld with hEarlier | hOld
      · exact hApart cell hEarlier cell hCell rfl
      · exact hBuf index cell (List.mem_append_right _ hCell) hOld

/-- The calls of `parseData` are those of the responses just where each response has its header in
one read, with nothing in front of it that looks like one, and ends at the end of a read. -/
theorem readThread_calls_iff (frames : List Frame) (reads : List (List Cell))
    (hReads : reads.flatten = stream frames)
    (hPositions : ((stream frames).map Cell.position).Nodup)
    (hNonempty : ∀ read ∈ reads, read ≠ []) :
    (start.takeReads reads).calls = expectedCalls frames ↔ Aligned frames reads := by
  constructor
  · intro hCalls
    have hNodup : reads.flatten.Nodup := by
      rw [hReads]
      exact hPositions.of_map Cell.position
    exact aligned_of_calls isIdle_start hReads hNodup (fun _ _ _ => nofun) hCalls
  · intro hAligned
    exact hAligned.takeReads isIdle_start hNonempty

/-- An acknowledgement, and the response to the request for the firmware version. -/
def plainAck : Ack where
  cells := [⟨0x00, 0⟩, ⟨0x00, 1⟩, ⟨0xff, 2⟩, ⟨0x00, 3⟩, ⟨0xff, 4⟩, ⟨0x00, 5⟩]
  bytes := rfl

def firmwareResponse : Response where
  start := ⟨0x00, 6⟩
  zero := ⟨0x00, 7⟩
  second := ⟨0xff, 8⟩
  length := ⟨0x06, 9⟩
  lengthChecksum := ⟨0xfa, 10⟩
  tfi := ⟨0xd5, 11⟩
  commandCode := ⟨0x03, 12⟩
  data := [⟨0x32, 13⟩, ⟨0x01, 14⟩, ⟨0x06, 15⟩, ⟨0x07, 16⟩]
  dataChecksum := ⟨0xe8, 17⟩
  postamble := ⟨0x00, 18⟩
  start_zero := rfl
  opens := ⟨rfl, rfl⟩
  counts := rfl
  length_valid := rfl
  data_valid := by decide
  postamble_zero := rfl

def firmwareFrames : List Frame := [.ack plainAck, .response firmwareResponse]

/-- The acknowledgement in a read of its own, and the end of the response in a third one. -/
def firmwareReads : List (List Cell) :=
  [plainAck.cells] ++
    (([firmwareResponse.start] ++ firmwareResponse.header ++ firmwareResponse.data) ::
      [[firmwareResponse.dataChecksum, firmwareResponse.postamble]]) ++ []

theorem readThread_calls_kept :
    (start.takeReads firmwareReads).calls = expectedCalls firmwareFrames := by
  have hReads : firmwareReads.flatten = stream firmwareFrames := rfl
  have hAligned : Aligned firmwareFrames firmwareReads :=
    .response [plainAck] firmwareResponse rfl (by decide) rfl (.acks [] rfl)
  exact (readThread_calls_iff firmwareFrames firmwareReads hReads (by decide) (by decide)).mpr
    hAligned

/-- In one read with the acknowledgement, the response is lost. -/
theorem readThread_lost :
    ¬∀ (frames : List Frame) (reads : List (List Cell)), reads.flatten = stream frames →
      ((stream frames).map Cell.position).Nodup → (∀ read ∈ reads, read ≠ []) →
      (start.takeReads reads).calls = expectedCalls frames := by
  intro hAll
  have hCalls := hAll firmwareFrames [stream firmwareFrames] List.flatten_singleton (by decide)
    (by decide)
  have hNone : (start.takeReads [stream firmwareFrames]).calls = [] := rfl
  have hOne : expectedCalls firmwareFrames = [firmwareResponse.call] := rfl
  rw [hNone, hOne] at hCalls
  exact absurd hCalls.symm (List.cons_ne_nil _ _)

end EverestCore.Pn532
