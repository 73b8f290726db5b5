import EverestCore.Data.Access
import EverestCore.Modbus.Basic

/-! The decoder of replies. The byte count in the reply is believed as far as the length of the
whole frame, its checksum included. -/
namespace EverestCore.Modbus
open Access

/-- A register of the result, and where it has been copied from. -/
structure Copied where
  position : ℕ
  register : UInt16
  deriving DecidableEq

def checkForException (received : UInt8) : Bool := received &&& 0x80 ≠ 0

def clearExceptionBit (received : UInt8) : UInt8 := received &&& ~~~0x80

/-- The function code of a reply, without its exception bit. -/
def functionOf (received : UInt8) : UInt8 :=
  if checkForException received then clearExceptionBit received else received

def validateChecksum (len : ℕ) : Access UInt8 Bool :=
  if len < 5 then pure false
  else do
    let body ← readAll 0 (len - 2)
    let first ← read (len - 2)
    let second ← read (len - 1)
    pure (hostWord first second == calculateModbusCrc16 body)

def copyRegister (i : ℕ) : Access UInt8 Copied := do
  let first ← read i
  let second ← read (i + 1)
  pure ⟨i, be16toh (hostWord first second)⟩

/-- The copying loop from an index on, with so many bytes left. A single byte at the end is
copied with the byte behind it. -/
def copyRegisters : ℕ → ℕ → Access UInt8 (List Copied)
  | _, 0 => pure []
  | i, 1 => do
      let copied ← copyRegister i
      pure [copied]
  | i, left + 2 => do
      let copied ← copyRegister i
      let rest ← copyRegisters (i + 2) left
      pure (copied :: rest)

/-- The condition for a read reply. The last disjunct is the value of a function code. -/
def isReadReply (function : FunctionCode) : Bool :=
  function = .readCoils ∨ function = .readDiscreteInputs ∨
    function = .readMultipleHoldingRegisters ∨ FunctionCode.readInputRegisters.value ≠ 0

/-- The registers of a reply that is no exception. -/
def copyResult (len : ℕ) (function : FunctionCode) : Access UInt8 (List Copied) := do
  let count ← if isReadReply function then read resRxLenPos else pure 4
  let start := if isReadReply function then resRxStartOfPayload else resTxStartOfPayload
  if start + count.toNat > len then pure [] else copyRegisters start count.toNat

/-- An exception is only logged. -/
def logException : Access UInt8 (List Copied) := do
  let _ ← read resRxStartOfPayload
  pure []

def decodeReply (len : ℕ) (expected : UInt8) (function : FunctionCode) :
    Access UInt8 (List Copied) :=
  if len < modbusMinReplySize then pure []
  else do
    let address ← read deviceAddressPos
    if expected ≠ address then pure []
    else
      let received ← read functionCodePos
      if function.value ≠ functionOf received then pure []
      else
        let isValid ← validateChecksum len
        if !isValid then pure []
        else if checkForException received then logException
        else copyResult len function

/-- The registers that `decode_reply` returns. -/
def repliedRegisters (buf : ℕ → UInt8) (len : ℕ) (expected : UInt8) (function : FunctionCode) :
    List UInt16 :=
  ((decodeReply len expected function).value buf).map Copied.register

/-- The first bytes of a buffer. -/
def received (buf : ℕ → UInt8) (len : ℕ) : List UInt8 := (List.range len).map buf

/-- The last two bytes are the checksum of the others. -/
def ChecksumMatches (buf : ℕ → UInt8) (len : ℕ) : Prop :=
  hostWord (buf (len - 2)) (buf (len - 1)) = calculateModbusCrc16 (received buf (len - 2))

/-- A reply that `decode_reply` takes registers from. -/
structure Accepted (buf : ℕ → UInt8) (len : ℕ) (expected : UInt8) (function : FunctionCode) :
    Prop where
  length : 5 ≤ len
  address : buf 0 = expected
  function : buf 1 = function.value
  checksum : ChecksumMatches buf len

/-- The byte count is read for every function code. -/
@[simp] theorem isReadReply_eq (function : FunctionCode) : isReadReply function = true := by
  cases function <;> decide

/-- The bytes of a received reply, as the checksum runs over them. -/
theorem received_eq (buf : ℕ → UInt8) (len : ℕ) :
    (List.range' 0 len).map buf = received buf len := by
  rw [received, List.range_eq_range']

/-- The check of a reply compares its last two bytes with the checksum over the others. -/
theorem value_validateChecksum (buf : ℕ → UInt8) {len : ℕ} (hLength : 5 ≤ len) :
    (validateChecksum len).value buf = true ↔ ChecksumMatches buf len := by
  rw [validateChecksum, if_neg (Nat.not_lt.mpr hLength)]
  simp only [value_bind, value_readAll, value_read, value_pure, received_eq, beq_iff_eq]
  rfl

/-- The check reads within the reply. -/
theorem reads_validateChecksum (buf : ℕ → UInt8) (len : ℕ) :
    ∀ index ∈ (validateChecksum len).reads buf, index < len := by
  unfold validateChecksum
  split_ifs with hShort
  · simp
  · simp only [reads_bind, reads_readAll, reads_read, reads_pure, List.append_nil]
    intro index hIndex
    rcases List.mem_append.mp hIndex with hBody | hLast
    · rw [List.mem_range'_1] at hBody
      omega
    · rw [List.singleton_append, List.mem_pair] at hLast
      omega

/-- A register is made of two bytes, the high one first. -/
theorem value_copyRegister (buf : ℕ → UInt8) (i : ℕ) :
    (copyRegister i).value buf = ⟨i, be16toh (hostWord (buf i) (buf (i + 1)))⟩ := rfl

/-- A register is read from two bytes next to each other. -/
theorem reads_copyRegister (buf : ℕ → UInt8) (i : ℕ) :
    (copyRegister i).reads buf = [i, i + 1] := rfl

/-- The number of bytes that the loop copies for a byte count. -/
def copiedBytes (count : ℕ) : ℕ := 2 * ((count + 1) / 2)

/-- The registers are read from consecutive bytes. -/
theorem reads_copyRegisters (buf : ℕ → UInt8) (i left : ℕ) :
    (copyRegisters i left).reads buf = List.range' i (copiedBytes left) := by
  induction i, left using copyRegisters.induct with
  | case1 i => rfl
  | case2 i => rfl
  | case3 i left ih =>
      have hMore : copiedBytes (left + 2) = copiedBytes left + 1 + 1 := by
        unfold copiedBytes
        omega
      rw [copyRegisters, reads_bind, reads_bind, reads_pure, ih, reads_copyRegister, hMore,
        List.range'_succ, List.range'_succ, List.append_nil]
      rfl

/-- The registers lie in the bytes that are copied. -/
theorem copyRegisters_inside (buf : ℕ → UInt8) (i left : ℕ) :
    ∀ copied ∈ (copyRegisters i left).value buf,
      i ≤ copied.position ∧ copied.position + 2 ≤ i + copiedBytes left := by
  induction i, left using copyRegisters.induct with
  | case1 i =>
      intro copied hCopied
      simp [copyRegisters] at hCopied
  | case2 i =>
      intro copied hCopied
      rw [copyRegisters, value_bind, value_pure, List.mem_singleton] at hCopied
      rw [hCopied, value_copyRegister]
      exact ⟨Nat.le_refl _, Nat.le_refl _⟩
  | case3 i left ih =>
      intro copied hCopied
      unfold copiedBytes at ih ⊢
      rw [copyRegisters, value_bind, value_bind, value_pure] at hCopied
      rcases List.mem_cons.mp hCopied with rfl | hRest
      · rw [value_copyRegister]
        dsimp only
        omega
      · have hInside := ih copied hRest
        omega

/-- The last register takes the last of these bytes. -/
theorem copyRegisters_last (buf : ℕ → UInt8) (i : ℕ) {left : ℕ} (hSome : 0 < left) :
    ∃ copied ∈ (copyRegisters i left).value buf, copied.position + 2 = i + copiedBytes left := by
  induction i, left using copyRegisters.induct with
  | case1 i => exact absurd hSome (Nat.lt_irrefl 0)
  | case2 i => exact ⟨_, List.mem_singleton_self _, rfl⟩
  | case3 i left ih =>
      cases left with
      | zero => exact ⟨_, List.mem_cons_self, rfl⟩
      | succ left =>
          obtain ⟨copied, hCopied, hPosition⟩ := ih (Nat.zero_lt_succ left)
          refine ⟨copied, List.mem_cons_of_mem _ hCopied, ?_⟩
          unfold copiedBytes at hPosition ⊢
          omega

/-- Every two bytes that are announced make a register, and so does a last odd one. -/
theorem length_copyRegisters (buf : ℕ → UInt8) (i left : ℕ) :
    ((copyRegisters i left).value buf).length = (left + 1) / 2 := by
  induction i, left using copyRegisters.induct with
  | case1 i => rfl
  | case2 i => rfl
  | case3 i left ih =>
      rw [copyRegisters, value_bind, value_bind, value_pure, List.length_cons, ih]
      omega

/-- Registers that have been sent in network order are copied as they were. -/
theorem copyRegisters_wireBytes {buf : ℕ → UInt8} {registers : List UInt16} {i : ℕ}
    (hBytes : (List.range' i (2 * registers.length)).map buf = registers.flatMap wireBytes) :
    ((copyRegisters i (2 * registers.length)).value buf).map Copied.register = registers := by
  induction registers generalizing i with
  | nil => rfl
  | cons register rest ih =>
      have hLength : 2 * (register :: rest).length = 2 * rest.length + 1 + 1 := by
        rw [List.length_cons]
        omega
      rw [hLength, List.range'_succ, List.range'_succ, List.map_cons, List.map_cons,
        List.flatMap_cons, wireBytes, List.cons_append, List.singleton_append] at hBytes
      obtain ⟨hFirst, hTail⟩ := List.cons_eq_cons.mp hBytes
      obtain ⟨hSecond, hRest⟩ := List.cons_eq_cons.mp hTail
      rw [hLength, copyRegisters, value_bind, value_bind, value_pure, List.map_cons, ih hRest,
        value_copyRegister]
      dsimp only
      rw [hFirst, hSecond, be16toh_wireBytes]

/-- Nothing is copied if the byte count goes beyond the length of the reply. -/
theorem value_copyResult (buf : ℕ → UInt8) (len : ℕ) (function : FunctionCode) :
    (copyResult len function).value buf =
      if 3 + (buf 2).toNat > len then [] else (copyRegisters 3 (buf 2).toNat).value buf := by
  rw [copyResult, isReadReply_eq]
  exact value_ite buf (3 + (buf 2).toNat > len) (pure []) (copyRegisters 3 (buf 2).toNat)

/-- The byte count is read, and what it announces if that is within the length. -/
theorem reads_copyResult (buf : ℕ → UInt8) (len : ℕ) (function : FunctionCode) :
    (copyResult len function).reads buf =
      2 :: if 3 + (buf 2).toNat > len then [] else List.range' 3 (copiedBytes (buf 2).toNat) := by
  rw [copyResult, isReadReply_eq, ← reads_copyRegisters buf]
  exact congrArg (2 :: ·)
    (reads_ite buf (3 + (buf 2).toNat > len) (pure []) (copyRegisters 3 (buf 2).toNat))

/-- The exception bit is not part of a function code. -/
theorem checkForException_value (function : FunctionCode) :
    checkForException function.value = false := by
  cases function <;> decide

section Checks

variable (buf : ℕ → UInt8) (len : ℕ) (expected : UInt8) (function : FunctionCode)

/-- The checks of the decoder, one after the other. -/
theorem value_decodeReply :
    (decodeReply len expected function).value buf =
      if len < 5 then []
      else if expected ≠ buf 0 then []
      else if function.value ≠ functionOf (buf 1) then []
      else if (validateChecksum len).value buf = false then []
      else if checkForException (buf 1) = true then []
      else (copyResult len function).value buf := by
  simp only [decodeReply, logException, ↓value_bind, ↓value_ite, value_pure, Bool.not_eq_true']
  rfl

/-- The decoder reads as far as its checks go. -/
theorem reads_decodeReply :
    (decodeReply len expected function).reads buf =
      if len < 5 then []
      else 0 :: if expected ≠ buf 0 then []
      else 1 :: if function.value ≠ functionOf (buf 1) then []
      else (validateChecksum len).reads buf ++
        if (validateChecksum len).value buf = false then []
        else if checkForException (buf 1) = true then [3]
        else (copyResult len function).reads buf := by
  simp [decodeReply, logException, deviceAddressPos, functionCodePos,
    modbusMinReplySize, resRxStartOfPayload]

end Checks

variable {buf : ℕ → UInt8} {len : ℕ} {expected : UInt8} {function : FunctionCode}

/-- The code of a function has no mark of an exception. -/
theorem functionOf_value (function : FunctionCode) : functionOf function.value = function.value :=
  if_neg (by rw [checkForException_value]; exact Bool.false_ne_true)

/-- An accepted reply gives the registers that are copied out of it. -/
theorem Accepted.value (h : Accepted buf len expected function) :
    (decodeReply len expected function).value buf = (copyResult len function).value buf := by
  have hValid := (value_validateChecksum buf h.length).mpr h.checksum
  rw [value_decodeReply, if_neg (Nat.not_lt.mpr h.length), if_neg (not_not.mpr h.address.symm),
    h.function, functionOf_value, if_neg (not_not.mpr rfl), hValid, if_neg (by decide),
    checkForException_value, if_neg Bool.false_ne_true]

/-- What is read of an accepted reply. -/
theorem Accepted.reads (h : Accepted buf len expected function) :
    (decodeReply len expected function).reads buf =
      0 :: 1 :: ((validateChecksum len).reads buf ++ (copyResult len function).reads buf) := by
  have hValid := (value_validateChecksum buf h.length).mpr h.checksum
  rw [reads_decodeReply, if_neg (Nat.not_lt.mpr h.length), if_neg (not_not.mpr h.address.symm),
    h.function, functionOf_value, if_neg (not_not.mpr rfl), hValid, if_neg (by decide),
    checkForException_value, if_neg Bool.false_ne_true]

/-- A reply that passes every check is accepted. -/
theorem accepted_of_checks (hShort : ¬len < 5) (hAddress : ¬expected ≠ buf 0)
    (hFunction : ¬function.value ≠ functionOf (buf 1))
    (hValid : ¬(validateChecksum len).value buf = false)
    (hException : ¬checkForException (buf 1) = true) : Accepted buf len expected function := by
  have hLength : 5 ≤ len := Nat.le_of_not_lt hShort
  have hSame := not_not.mp hFunction
  rw [functionOf, if_neg hException] at hSame
  exact ⟨hLength, (not_not.mp hAddress).symm, hSame.symm,
    (value_validateChecksum buf hLength).mp (Bool.eq_true_of_not_eq_false hValid)⟩

/-- A reply that is not accepted gives no registers. -/
theorem decodeReply_rejected (h : ¬Accepted buf len expected function) :
    (decodeReply len expected function).value buf = [] := by
  rw [value_decodeReply]
  split_ifs with hShort hAddress hFunction hValid hException
  · rfl
  · rfl
  · rfl
  · rfl
  · rfl
  · exact absurd (accepted_of_checks hShort hAddress hFunction hValid hException) h

/-- The checks are made on bytes that have been received. -/
theorem reads_rejected (h : ¬Accepted buf len expected function) :
    ∀ index ∈ (decodeReply len expected function).reads buf, index < len := by
  have hChecksum := reads_validateChecksum buf len
  rw [reads_decodeReply]
  split_ifs with hShort hAddress hFunction hValid hException
  · simp
  · simp
    omega
  · simp
    omega
  · simp only [List.append_nil, List.forall_mem_cons]
    exact ⟨by omega, by omega, hChecksum⟩
  · simp only [List.forall_mem_cons, List.forall_mem_append]
    exact ⟨by omega, by omega, hChecksum, by omega, by simp⟩
  · exact absurd (accepted_of_checks hShort hAddress hFunction hValid hException) h

/-- The frame of a read reply with these registers. -/
def readReply (address : UInt8) (function : FunctionCode) (registers : List UInt16) : List UInt8 :=
  let body := address :: function.value :: .ofNat (2 * registers.length) ::
    registers.flatMap wireBytes
  body ++ hostBytes (calculateModbusCrc16 body)

/-- The bytes of a buffer that holds a reply are the reply. -/
theorem received_getD (bytes : List UInt8) :
    received (fun i => bytes.getD i 0) bytes.length = bytes := by
  apply List.ext_getElem
  · simp [received]
  · intro i hLeft hRight
    simp [received, hRight]

/-- A buffer that holds two stretches holds each of them at its place. -/
theorem received_append {first second : List UInt8}
    (hReceived : received buf (first ++ second).length = first ++ second) :
    received buf first.length = first ∧
      (List.range' first.length second.length).map buf = second := by
  rw [received, List.length_append, List.range_add, List.map_append, List.map_map] at hReceived
  obtain ⟨hFirst, hSecond⟩ := List.append_inj hReceived (by simp)
  refine ⟨hFirst, ?_⟩
  rwa [List.range'_eq_map_range, List.map_map]

/-- The frame that ends in its checksum passes the check of it. -/
theorem checksumMatches_of_received {body : List UInt8} {crc : UInt16}
    (hCrc : crc = calculateModbusCrc16 body)
    (hReceived : received buf (body ++ hostBytes crc).length = body ++ hostBytes crc) :
    ChecksumMatches buf (body ++ hostBytes crc).length := by
  obtain ⟨hBody, hLast⟩ := received_append hReceived
  have hLength : (body ++ hostBytes crc).length = body.length + 2 := List.length_append
  obtain ⟨hFirst, hTail⟩ := List.cons_eq_cons.mp hLast
  obtain ⟨hSecond, _⟩ := List.cons_eq_cons.mp hTail
  rw [ChecksumMatches, hLength, Nat.add_sub_cancel, hBody, ← hCrc]
  rw [show body.length + 2 - 1 = body.length + 1 from rfl, hFirst, hSecond, hostWord_hostBytes]

/-- A reply has two bytes for each register, and five more. -/
theorem length_readReply (address : UInt8) (function : FunctionCode) (registers : List UInt16) :
    (readReply address function registers).length = 2 * registers.length + 5 := by
  simp [readReply, Nat.mul_comm]

/-- A read reply passes the checks, and has its byte count and its registers behind them. -/
theorem readReply_fields {address : UInt8} {registers : List UInt16}
    (hMost : registers.length ≤ 125)
    (hReceived : received buf (readReply address function registers).length =
      readReply address function registers) :
    Accepted buf (readReply address function registers).length address function ∧
      (buf 2).toNat = 2 * registers.length ∧
      (List.range' 3 (2 * registers.length)).map buf = registers.flatMap wireBytes := by
  obtain ⟨hBody, _⟩ := received_append hReceived
  obtain ⟨hHeader, hPayload⟩ := @received_append buf
    [address, function.value, .ofNat (2 * registers.length)] (registers.flatMap wireBytes) hBody
  have hThree : [buf 0, buf 1, buf 2] = [address, function.value, .ofNat (2 * registers.length)] :=
    hHeader
  obtain ⟨hAddress, hTail⟩ := List.cons_eq_cons.mp hThree
  obtain ⟨hFunction, hLast⟩ := List.cons_eq_cons.mp hTail
  obtain ⟨hCount, _⟩ := List.cons_eq_cons.mp hLast
  have hLength := length_readReply address function registers
  rw [length_flatMap_wireBytes] at hPayload
  refine ⟨⟨by omega, hAddress, hFunction, checksumMatches_of_received rfl hReceived⟩, ?_, hPayload⟩
  rw [hCount]
  apply UInt8.toNat_ofNat_of_lt'
  rw [UInt8.size]
  omega

/-- A read reply gives the registers that it carries. -/
theorem repliedRegisters_readReply {address : UInt8} {registers : List UInt16}
    (hMost : registers.length ≤ 125)
    (hReceived : received buf (readReply address function registers).length =
      readReply address function registers) :
    repliedRegisters buf (readReply address function registers).length address function =
      registers := by
  obtain ⟨hAccepted, hCount, hPayload⟩ := readReply_fields hMost hReceived
  have hLength := length_readReply address function registers
  rw [repliedRegisters, hAccepted.value, value_copyResult, hCount, if_neg (by omega)]
  exact copyRegisters_wireBytes hPayload

/-- Read replies are decoded to what they carry, and nothing else is taken from a frame that
fails a check. -/
theorem decodeReply_exact :
    (∀ (address : UInt8) (function : FunctionCode) (registers : List UInt16) (buf : ℕ → UInt8),
      function.IsRead → 1 ≤ registers.length → registers.length ≤ 125 →
        received buf (readReply address function registers).length =
          readReply address function registers →
        repliedRegisters buf (readReply address function registers).length address function =
          registers) ∧
      ∀ (buf : ℕ → UInt8) (len : ℕ) (expected : UInt8) (function : FunctionCode),
        repliedRegisters buf len expected function ≠ [] →
          buf 0 = expected ∧ buf 1 = function.value ∧ 5 ≤ len ∧ ChecksumMatches buf len := by
  refine ⟨fun address function registers buf _ _ hMost hReceived =>
    repliedRegisters_readReply hMost hReceived, ?_⟩
  intro buf len expected function hSome
  by_cases hAccepted : Accepted buf len expected function
  · exact ⟨hAccepted.address, hAccepted.function, hAccepted.length, hAccepted.checksum⟩
  · rw [repliedRegisters, decodeReply_rejected hAccepted] at hSome
    exact absurd rfl hSome

theorem decodeReply_exact_kept :
    repliedRegisters (fun i => (readReply 1 .readInputRegisters [17, 42]).getD i 0)
      (readReply 1 .readInputRegisters [17, 42]).length 1 .readInputRegisters = [17, 42] :=
  decodeReply_exact.1 1 .readInputRegisters [17, 42] _ trivial (by decide) (by decide)
    (received_getD _)

/-- What is copied reaches up to the byte count, rounded up to whole registers. -/
theorem Accepted.room_of_inside (h : Accepted buf len expected function)
    (hFits : 3 + (buf 2).toNat ≤ len)
    (hInside : ∀ copied ∈ (decodeReply len expected function).value buf,
      copied.position + 1 < len - 2) :
    3 + 2 * (((buf 2).toNat + 1) / 2) + 2 ≤ len := by
  have hLength := h.length
  rw [h.value, value_copyResult, if_neg (Nat.not_lt.mpr hFits)] at hInside
  rcases Nat.eq_zero_or_pos (buf 2).toNat with hZero | hSome
  · rw [hZero]
    omega
  · obtain ⟨copied, hCopied, hLast⟩ := copyRegisters_last buf 3 hSome
    have hBefore := hInside copied hCopied
    unfold copiedBytes at hLast
    omega

/-- A reply that is accepted is read within the buffer if there is room for it. -/
theorem Accepted.inside_of_room (h : Accepted buf len expected function)
    (hRoom : 3 + (buf 2).toNat ≤ len → 3 + 2 * (((buf 2).toNat + 1) / 2) + 2 ≤ len) :
    (∀ index ∈ (decodeReply len expected function).reads buf, index < len) ∧
      ∀ copied ∈ (decodeReply len expected function).value buf, copied.position + 1 < len - 2 := by
  have hLength := h.length
  have hChecksum := reads_validateChecksum buf len
  rw [h.value, h.reads, value_copyResult, reads_copyResult]
  simp only [List.forall_mem_cons, List.forall_mem_append]
  by_cases hLong : 3 + (buf 2).toNat > len
  · rw [if_pos hLong, if_pos hLong]
    exact ⟨⟨by omega, by omega, hChecksum, by omega, nofun⟩, nofun⟩
  · have hEnd := hRoom (Nat.le_of_not_lt hLong)
    rw [if_neg hLong, if_neg hLong]
    refine ⟨⟨by omega, by omega, hChecksum, by omega, fun index hIndex => ?_⟩,
      fun copied hCopied => ?_⟩
    · rw [List.mem_range'_1, copiedBytes] at hIndex
      omega
    · have hInside := copyRegisters_inside buf 3 (buf 2).toNat copied hCopied
      unfold copiedBytes at hInside
      omega

/-- The reads and the registers keep to the frame exactly if the byte count, rounded up to whole
registers, leaves room for the checksum. -/
theorem decodeReply_reads_inside_iff (buf : ℕ → UInt8) (len : ℕ) (expected : UInt8)
    (function : FunctionCode) :
    ((∀ index ∈ (decodeReply len expected function).reads buf, index < len) ∧
      ∀ copied ∈ (decodeReply len expected function).value buf, copied.position + 1 < len - 2) ↔
      (Accepted buf len expected function → 3 + (buf 2).toNat ≤ len →
        3 + 2 * (((buf 2).toNat + 1) / 2) + 2 ≤ len) := by
  constructor
  · rintro ⟨_, hInside⟩ hAccepted hFits
    exact hAccepted.room_of_inside hFits hInside
  · intro hRoom
    by_cases hAccepted : Accepted buf len expected function
    · exact hAccepted.inside_of_room (hRoom hAccepted)
    · refine ⟨reads_rejected hAccepted, ?_⟩
      rw [decodeReply_rejected hAccepted]
      exact nofun

/-- A reply with a byte count of three and a single byte in front of its checksum. -/
def oddReply : List UInt8 := [0x01, 0x03, 0x03, 0x07, 0xB0, 0xEA]

set_option maxRecDepth 2000 in
theorem decodeReply_reads_beyond :
    ¬∀ (buf : ℕ → UInt8) (len : ℕ) (expected : UInt8) (function : FunctionCode),
      len ≤ modbusMaxReplySize →
        (∀ index ∈ (decodeReply len expected function).reads buf, index < len) ∧
          ∀ copied ∈ (decodeReply len expected function).value buf,
            copied.position + 1 < len - 2 := by
  intro hAll
  have hReceived : received (fun i => oddReply.getD i 0) ([1, 3, 3, 7] ++ hostBytes 0xEAB0).length =
      [1, 3, 3, 7] ++ hostBytes 0xEAB0 := by decide
  have hCrc : 0xEAB0 = calculateModbusCrc16 [1, 3, 3, 7] := by decide
  have hAccepted : Accepted (fun i => oddReply.getD i 0) 6 1 .readMultipleHoldingRegisters :=
    ⟨by decide, rfl, rfl, checksumMatches_of_received hCrc hReceived⟩
  obtain ⟨_, hInside⟩ := hAll _ 6 1 .readMultipleHoldingRegisters (by decide)
  obtain ⟨copied, hCopied, hLast⟩ :=
    @copyRegisters_last (fun i => oddReply.getD i 0) 3 3 (by decide)
  rw [hAccepted.value, value_copyResult] at hInside
  have hBefore := hInside copied hCopied
  unfold copiedBytes at hLast
  omega

end EverestCore.Modbus
