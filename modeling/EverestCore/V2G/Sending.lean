import EverestCore.V2G.Framing

/-! Sending V2GTP messages, and what the other end of the connection makes of them: the messages
that have been sent as a whole arrive as they were sent, however the socket takes the bytes on one
side and delivers them on the other. -/
namespace EverestCore.V2G

/-- What a call of `write` or of `mbedtls_ssl_write` gives. `again` stands for an interrupted call
and for the TLS results that ask for another try. -/
inductive WriteResult where
  | again
  | failed
  | written (count : ℕ)
  deriving DecidableEq, Repr

/-- The loop of `connection_write`, with what is left of the buffer: the bytes that go out, and the
results that have not been used. -/
def connectionWrite : ℕ → List UInt8 → List WriteResult → List UInt8 × List WriteResult × Outcome
  | bytesWritten, rest, [] =>
      if rest = [] then ([], [], .returned bytesWritten) else ([], [], .waiting)
  | bytesWritten, rest, result :: results =>
      if rest = [] then ([], result :: results, .returned bytesWritten)
      else
        match result with
        | .again => connectionWrite bytesWritten rest results
        | .failed => ([], results, .returned (-1))
        | .written count =>
            if count = 0 then ([], results, .returned bytesWritten)
            else
              let taken := rest.take count
              let (bytes, results, outcome) :=
                connectionWrite (bytesWritten + taken.length) (rest.drop count) results
              (taken ++ bytes, results, outcome)

section Sending

/-! The header is written by the EXI library, which may refuse. -/
variable (writeV2gtpHeader : UInt32 → Option (List UInt8))

/-- `v2g_outgoing_v2gtp` for the payload that is in the buffer. -/
def v2gOutgoingV2gtp (payload : List UInt8) (results : List WriteResult) :
    List UInt8 × List WriteResult × Outcome :=
  match writeV2gtpHeader (UInt32.ofNat payload.length) with
  | none => ([], results, .returned (-1))
  | some header =>
      match connectionWrite 0 (header ++ payload) results with
      | (bytes, results, .returned rv) =>
          (bytes, results, if rv = -1 then .returned (-1) else .returned 0)
      | unfinished => unfinished

/-- One call after the other, until one of them does not return zero: the bytes that go out, and
the number of calls that have returned zero. -/
def sendFrames : List (List UInt8) → List WriteResult → List UInt8 × ℕ
  | [], _ => ([], 0)
  | payload :: payloads, results =>
      let (bytes, results, outcome) := v2gOutgoingV2gtp writeV2gtpHeader payload results
      if outcome = .returned 0 then
        let (more, count) := sendFrames payloads results
        (bytes ++ more, count + 1)
      else (bytes, 0)

/-- The loop takes the results of the calls of `write` from the front. -/
theorem connectionWrite_suffix (bytesWritten : ℕ) (rest : List UInt8) (results : List WriteResult) :
    (connectionWrite bytesWritten rest results).2.1 <:+ results := by
  induction results generalizing bytesWritten rest with
  | nil =>
      rw [connectionWrite]
      split <;> exact List.suffix_rfl
  | cons result results ih =>
      unfold connectionWrite
      split
      · exact List.suffix_rfl
      · cases result with
        | again => exact (ih bytesWritten rest).trans (List.suffix_cons _ _)
        | failed => exact List.suffix_cons _ _
        | written count =>
            dsimp only
            split
            · exact List.suffix_cons _ _
            · exact (ih _ _).trans (List.suffix_cons _ _)

/-- A call that is over without an error has written everything, as long as no write takes
nothing. -/
theorem connectionWrite_cases (bytesWritten : ℕ) (rest : List UInt8) {results : List WriteResult}
    (hResults : .written 0 ∉ results) :
    (∃ count : ℕ, (connectionWrite bytesWritten rest results).2.2 = .returned count ∧
        (connectionWrite bytesWritten rest results).1 = rest) ∨
      ((connectionWrite bytesWritten rest results).2.2 = .waiting ∨
          (connectionWrite bytesWritten rest results).2.2 = .returned (-1)) ∧
        (connectionWrite bytesWritten rest results).1 <+: rest ∧
        (connectionWrite bytesWritten rest results).1 ≠ rest := by
  induction results generalizing bytesWritten rest with
  | nil =>
      rw [connectionWrite]
      split
      · next hRest => exact .inl ⟨bytesWritten, rfl, hRest.symm⟩
      · next hRest => exact .inr ⟨.inl rfl, List.nil_prefix, Ne.symm hRest⟩
  | cons result results ih =>
      have hLater := fun h => hResults (List.mem_cons_of_mem result h)
      unfold connectionWrite
      split
      · next hRest => exact .inl ⟨bytesWritten, rfl, hRest.symm⟩
      · next hRest =>
        cases result with
        | again => exact ih bytesWritten rest hLater
        | failed => exact .inr ⟨.inr rfl, List.nil_prefix, Ne.symm hRest⟩
        | written count =>
            have hCount : count ≠ 0 := by
              rintro rfl
              exact hResults List.mem_cons_self
            dsimp only
            rw [if_neg hCount]
            have hSplit : rest.take count ++ rest.drop count = rest := List.take_append_drop _ _
            rcases ih (bytesWritten + (rest.take count).length) (rest.drop count) hLater with
              ⟨total, hOutcome, hBytes⟩ | ⟨hOutcome, hPrefix, hCut⟩
            · exact .inl ⟨total, hOutcome, by rw [hBytes, hSplit]⟩
            · refine .inr ⟨hOutcome, ?_, ?_⟩
              · conv_rhs => rw [← hSplit]
                exact (List.prefix_append_right_inj _).mpr hPrefix
              · conv_rhs => rw [← hSplit]
                exact fun hSame => hCut (List.append_cancel_left hSame)

variable {writeV2gtpHeader : UInt32 → Option (List UInt8)}
  {readV2gtpHeader : List UInt8 → Option UInt32}
  (hHeader : ∀ length header, writeV2gtpHeader length = some header →
    header.length = v2gtpHeaderLength ∧ readV2gtpHeader header = some length)

/-- A payload that fits into the buffer together with a header. -/
def PayloadFits (payload : List UInt8) : Prop :=
  payload.length + v2gtpHeaderLength ≤ defaultBufferSize

instance (payload : List UInt8) : Decidable (PayloadFits payload) :=
  inferInstanceAs (Decidable (_ ≤ _))

/-- The length of such a payload survives the field of 32 bits in the header. -/
theorem PayloadFits.toNat_length {payload : List UInt8} (h : PayloadFits payload) :
    (UInt32.ofNat payload.length).toNat = payload.length := by
  apply UInt32.toNat_ofNat_of_lt'
  exact lt_of_le_of_lt (Nat.le_of_add_right_le h) (by decide)

/-- What a call leaves on the wire that is not a message. -/
def CutShort (readV2gtpHeader : List UInt8 → Option UInt32) (bytes : List UInt8) : Prop :=
  bytes = [] ∨ ∃ header payload, header.length = v2gtpHeaderLength ∧
    readV2gtpHeader header = some (UInt32.ofNat payload.length) ∧ PayloadFits payload ∧
    bytes <+: header ++ payload ∧ bytes ≠ header ++ payload

include hHeader

/-- A message is written whole, or cut off with an error. No write returns zero. -/
theorem v2gOutgoingV2gtp_cases {payload : List UInt8} (hFits : PayloadFits payload)
    {results : List WriteResult} (hResults : .written 0 ∉ results) :
    let call := v2gOutgoingV2gtp writeV2gtpHeader payload results
    call.2.1 <:+ results ∧
      if call.2.2 = .returned 0 then
        ∃ header, header.length = v2gtpHeaderLength ∧
          readV2gtpHeader header = some (UInt32.ofNat payload.length) ∧ call.1 = header ++ payload
      else CutShort readV2gtpHeader call.1 := by
  cases hWritten : writeV2gtpHeader (UInt32.ofNat payload.length) with
  | none =>
      simp only [v2gOutgoingV2gtp, hWritten]
      exact ⟨List.suffix_rfl, .inl rfl⟩
  | some header =>
      obtain ⟨hLength, hRead⟩ := hHeader _ _ hWritten
      simp only [v2gOutgoingV2gtp, hWritten]
      have hSuffix := connectionWrite_suffix 0 (header ++ payload) results
      have hCases := connectionWrite_cases 0 (header ++ payload) hResults
      generalize connectionWrite 0 (header ++ payload) results = call at hSuffix hCases
      obtain ⟨bytes, left, outcome⟩ := call
      dsimp only at hSuffix hCases ⊢
      rcases hCases with ⟨count, rfl, rfl⟩ | ⟨rfl | rfl, hPrefix, hCut⟩
      · have hCount : (count : ℤ) ≠ -1 := by omega
        simp only [if_neg hCount, if_true]
        exact ⟨hSuffix, header, hLength, hRead, rfl⟩
      · exact ⟨hSuffix, .inr ⟨header, payload, hLength, hRead, hFits, hPrefix, hCut⟩⟩
      · exact ⟨hSuffix, .inr ⟨header, payload, hLength, hRead, hFits, hPrefix, hCut⟩⟩

omit hHeader

/-- A stream of messages with these payloads, which ends in a message that is cut short or at the
end of one. -/
inductive Carries (readV2gtpHeader : List UInt8 → Option UInt32) :
    List (List UInt8) → List UInt8 → Prop where
  | cut {bytes : List UInt8} (hCut : CutShort readV2gtpHeader bytes) :
      Carries readV2gtpHeader [] bytes
  | message {header payload stream : List UInt8} {payloads : List (List UInt8)}
      (hLength : header.length = v2gtpHeaderLength)
      (hRead : readV2gtpHeader header = some (UInt32.ofNat payload.length))
      (hFits : PayloadFits payload) (rest : Carries readV2gtpHeader payloads stream) :
      Carries readV2gtpHeader (payload :: payloads) (header ++ payload ++ stream)

include hHeader in
/-- The calls that have returned zero are those whose messages have gone out. -/
theorem sendFrames_carries {payloads : List (List UInt8)}
    (hFits : ∀ payload ∈ payloads, PayloadFits payload) {results : List WriteResult}
    (hResults : .written 0 ∉ results) :
    Carries readV2gtpHeader (payloads.take (sendFrames writeV2gtpHeader payloads results).2)
      (sendFrames writeV2gtpHeader payloads results).1 := by
  induction payloads generalizing results with
  | nil => exact .cut (.inl rfl)
  | cons payload payloads ih =>
      have hCall := v2gOutgoingV2gtp_cases hHeader (hFits payload List.mem_cons_self) hResults
      rw [sendFrames]
      generalize v2gOutgoingV2gtp writeV2gtpHeader payload results = call at hCall
      obtain ⟨bytes, left, outcome⟩ := call
      dsimp only at hCall ⊢
      split
      · next hSent =>
        rw [if_pos hSent] at hCall
        obtain ⟨hSuffix, header, hLength, hRead, rfl⟩ := hCall
        exact .message hLength hRead (hFits payload List.mem_cons_self)
          (ih (fun p hp => hFits p (List.mem_cons_of_mem _ hp))
            fun hZero => hResults (hSuffix.subset hZero))
      · next hSent =>
        rw [if_neg hSent] at hCall
        exact .cut hCall.2

/-- A message at the front of the stream is split off as it was sent. -/
theorem splitFrame_message {header payload stream : List UInt8} (ending : Ending)
    (hLength : header.length = v2gtpHeaderLength)
    (hRead : readV2gtpHeader header = some (UInt32.ofNat payload.length))
    (hFits : PayloadFits payload) :
    splitFrame readV2gtpHeader ending (header ++ payload ++ stream) =
      .ok (⟨UInt32.ofNat payload.length, header, payload⟩, stream) := by
  rw [splitFrame, List.append_assoc, List.take_left' hLength, List.drop_left' hLength, hRead,
    if_neg (by simp [hLength])]
  dsimp only
  rw [hFits.toNat_length, if_neg (by simp), List.take_left' rfl, List.drop_left' rfl]

/-- A header in what is cut short announces more than there is. -/
theorem CutShort.short {bytes : List UInt8} (h : CutShort readV2gtpHeader bytes)
    (hEnough : ¬bytes.length < v2gtpHeaderLength) :
    ∃ payloadLen, readV2gtpHeader (bytes.take v2gtpHeaderLength) = some payloadLen ∧
      payloadLen.toNat + v2gtpHeaderLength ≤ defaultBufferSize ∧
      (bytes.drop v2gtpHeaderLength).length < payloadLen.toNat := by
  rcases h with rfl | ⟨header, payload, hLength, hRead, hFits, ⟨rest, hRest⟩, hCut⟩
  · exact absurd (by decide) hEnough
  · have hHere : bytes.take v2gtpHeaderLength = header := by
      rw [← List.take_append_of_le_length (not_lt.mp hEnough), hRest, List.take_left' hLength]
    have hMissing : rest ≠ [] := by
      rintro rfl
      exact hCut (by rwa [List.append_nil] at hRest)
    refine ⟨_, hHere ▸ hRead, ?_, ?_⟩
    · rw [hFits.toNat_length]
      exact hFits
    · have hTotal := congrArg List.length hRest
      rw [List.length_append, List.length_append, hLength] at hTotal
      have hPositive := List.length_pos_iff.mpr hMissing
      rw [hFits.toNat_length, List.length_drop]
      omega

/-- What the sender has written fits into the buffer of the receiver, frame by frame. -/
theorem Carries.framesFit {payloads : List (List UInt8)} {stream : List UInt8}
    (h : Carries readV2gtpHeader payloads stream) : FramesFit readV2gtpHeader stream := by
  induction h with
  | @cut bytes hCut =>
      by_cases hEnough : bytes.length < v2gtpHeaderLength
      · exact .short hEnough
      · obtain ⟨payloadLen, hRead, hFits, hShort⟩ := hCut.short hEnough
        apply FramesFit.message hRead hFits
        rw [List.drop_eq_nil_of_le hShort.le]
        exact .short (by decide)
  | @message header payload stream payloads hLength hRead hFits rest ih =>
      have hTake : (header ++ payload ++ stream).take v2gtpHeaderLength = header := by
        rw [List.append_assoc, List.take_left' hLength]
      apply FramesFit.message (hTake ▸ hRead)
      · rw [hFits.toNat_length]
        exact hFits
      · rw [hFits.toNat_length, List.append_assoc, List.drop_left' hLength, List.drop_left' rfl]
        exact ih

/-- The frames of the stream are the messages that were written whole. The induction is on how the
stream has come about. -/
theorem Carries.framesOf_payloads {payloads : List (List UInt8)} {stream : List UInt8}
    (h : Carries readV2gtpHeader payloads stream) (ending : Ending) (calls : ℕ) :
    (framesOf readV2gtpHeader ending calls stream).1.map Frame.payload = payloads.take calls := by
  induction h generalizing calls with
  | @cut bytes hCut =>
      cases calls with
      | zero => rfl
      | succ calls =>
          have hError : ∃ outcome, splitFrame readV2gtpHeader ending bytes = .error outcome := by
            rw [splitFrame]
            by_cases hEnough : bytes.length < v2gtpHeaderLength
            · rw [if_pos hEnough]
              exact ⟨_, rfl⟩
            · obtain ⟨payloadLen, hRead, -, hShort⟩ := hCut.short hEnough
              rw [if_neg hEnough, hRead]
              dsimp only
              rw [if_pos hShort]
              exact ⟨_, rfl⟩
          obtain ⟨outcome, hOutcome⟩ := hError
          rw [framesOf, hOutcome, List.take_nil]
          rfl
  | @message header payload stream payloads hLength hRead hFits rest ih =>
      cases calls with
      | zero => rfl
      | succ calls =>
          rw [framesOf, splitFrame_message ending hLength hRead hFits, List.take_succ_cons, ← ih]
          rfl

/-- The calls of the receiver that return zero give the payloads of the calls of the sender that
have returned zero, in their order, whatever the sockets do: how much each write takes, where the
stream is cut on its way, and where either end breaks off. -/
theorem sent_payloads_received
    (hHeader : ∀ length header, writeV2gtpHeader length = some header →
      header.length = v2gtpHeaderLength ∧ readV2gtpHeader header = some length)
    {payloads : List (List UInt8)} (hFits : ∀ payload ∈ payloads, PayloadFits payload)
    {results : List WriteResult} (hResults : .written 0 ∉ results) {turns : List Turn}
    (hTurns : Segments turns (sendFrames writeV2gtpHeader payloads results).1) (ending : Ending)
    (between : Connection → Connection) (conn : Connection) (calls : ℕ) :
    (receiveFrames readV2gtpHeader between calls conn (turns ++ ending.turns)).1.map
        Frame.payload =
      (payloads.take (sendFrames writeV2gtpHeader payloads results).2).take calls := by
  have hCarries := sendFrames_carries hHeader hFits hResults
  rw [receiveFrames_eq_framesOf hTurns hCarries.framesFit]
  exact hCarries.framesOf_payloads ending calls

end Sending

/-- The writer of the EXI library, for messages with an EXI payload. -/
def exiHeaderWriter (length : UInt32) : Option (List UInt8) :=
  some [0x01, 0xFE, 0x80, 0x01, .ofNat (length.toNat / 16777216), .ofNat (length.toNat / 65536),
    .ofNat (length.toNat / 256), .ofNat length.toNat]

/-- Writer and parser of the header agree on every length. -/
theorem exiHeaderParser_writer (length : UInt32) (header : List UInt8)
    (h : exiHeaderWriter length = some header) :
    header.length = v2gtpHeaderLength ∧ exiHeaderParser header = some length := by
  cases h
  have hLength := length.toNat_lt
  refine ⟨rfl, ?_⟩
  rw [exiHeaderParser, if_pos (by rfl), Option.some_inj, ← UInt32.toNat_inj]
  simp only [lengthField, List.drop_succ_cons, List.drop_zero, List.take_succ_cons, List.take_zero,
    List.foldl_cons, List.foldl_nil, UInt32.toNat_add, UInt32.toNat_mul, UInt8.toNat_toUInt32,
    UInt8.toNat_ofNat']
  have h256 : (256 : UInt32).toNat = 256 := rfl
  have h0 : (0 : UInt32).toNat = 0 := rfl
  rw [h256, h0]
  omega

/-- The second message is interrupted in its payload: the first one arrives. -/
theorem sent_payloads_received_first :
    (receiveFrames exiHeaderParser id 5 .initial ([.plain (.received [0x01, 0xFE, 0x80]),
      .plain (.received [0x01, 0, 0, 0, 2, 0x80, 0x0A, 0x01, 0xFE, 0x80]),
      .plain (.received [0x01, 0, 0, 0, 1])] ++ Ending.endOfFile.turns)).1.map Frame.payload =
        [[0x80, 0x0A]] := by
  let results : List WriteResult := [.written 4, .again, .written 100, .written 8, .failed]
  have hTurns : Segments [.plain (.received [0x01, 0xFE, 0x80]),
      .plain (.received [0x01, 0, 0, 0, 2, 0x80, 0x0A, 0x01, 0xFE, 0x80]),
      .plain (.received [0x01, 0, 0, 0, 1])]
      (sendFrames exiHeaderWriter [[0x80, 0x0A], [0x55]] results).1 :=
    ((Segments.nil.piece (by decide)).piece (by decide)).piece (by decide)
  exact sent_payloads_received exiHeaderParser_writer (by decide) (by decide) hTurns .endOfFile id
    .initial 5

end EverestCore.V2G
