import EverestCore.Data.Memory
import EverestCore.V2G.Transport

/-! The random data of the server, among them the challenge of Plug&Charge. The loop adds up
the lengths of its reads, but every read asks for all the data and stores it from the start of
the destination on, so that short reads overwrite each other. -/
namespace EverestCore.V2G

/-- What a call of `read` gives. The interrupted ones end with `EINTR`. -/
inductive RandomRead where
  | interrupted
  | failed
  | delivered (bytes : List UInt8)
  deriving DecidableEq, Repr

def RandomRead.bytes : RandomRead → List UInt8
  | .delivered bytes => bytes
  | .interrupted | .failed => []

/-- `safe_read`, with what `read` is going to give. No call stores more than `count` bytes. -/
def safeRead (buf count : ℕ) (memory : Memory UInt8) :
    List RandomRead → Memory UInt8 × List RandomRead × Outcome
  | [] => (memory, [], .waiting)
  | .interrupted :: rest => safeRead buf count memory rest
  | .failed :: rest => (memory, rest, .returned (-1))
  | .delivered bytes :: rest =>
      (memory.storeAll buf (bytes.take count), rest, .returned (bytes.take count).length)

/-- A read that returns has been called. -/
theorem length_rest_of_safeRead {buf count : ℕ} {memory after : Memory UInt8}
    {reads rest : List RandomRead} {rv : ℤ}
    (h : safeRead buf count memory reads = (after, rest, .returned rv)) :
    rest.length < reads.length := by
  induction reads with
  | nil => cases h
  | cons read reads ih =>
      rw [List.length_cons]
      cases read with
      | interrupted => exact Nat.lt_succ_of_lt (ih h)
      | failed | delivered =>
          cases h
          exact Nat.lt_succ_self _

variable {w : ℕ}

/-- The loop of `generate_random_data`. Its counter is a `size_t` of `w` bits. -/
def randomDataLoop (dest : ℕ) (destLen len : BitVec w) (memory : Memory UInt8)
    (reads : List RandomRead) : Memory UInt8 × List RandomRead × Outcome :=
  if len < destLen then
    match _hRead : safeRead dest destLen.toNat memory reads with
    | (memory, rest, .returned rv) =>
        if rv < 0 then (memory, rest, .returned (-1))
        else randomDataLoop dest destLen (len + .ofInt w rv) memory rest
    | unfinished => unfinished
  else (memory, reads, .returned 0)
termination_by reads.length
decreasing_by exact length_rest_of_safeRead _hRead

/-- `generate_random_data`, told whether the random device could be opened. Of the memory it
says what the call has written. -/
def generateRandomData (opened : Bool) (dest : ℕ) (destLen : BitVec w) (reads : List RandomRead) :
    Memory UInt8 × List RandomRead × Outcome :=
  if opened then randomDataLoop dest destLen 0 .empty reads else (.empty, reads, .returned (-1))

/-- Every byte of the destination has been written. -/
def Filled (dest : ℕ) (destLen : BitVec w) (memory : Memory UInt8) : Prop :=
  ∀ index < destLen.toNat, (memory (dest + index)).isSome

/-- A call that returns 0 has written every byte of the destination with one of the device, and
no call writes anywhere else. -/
structure FillsFromDevice (dest : ℕ) (destLen : BitVec w) (reads : List RandomRead)
    (result : Memory UInt8 × List RandomRead × Outcome) : Prop where
  filled : result.2.2 = .returned 0 → ∀ index < destLen.toNat,
    ∃ byte ∈ reads.flatMap RandomRead.bytes, result.1 (dest + index) = some byte
  inside : ∀ address, (result.1 address).isSome →
    dest ≤ address ∧ address < dest + destLen.toNat

/-- A read that gives less than was asked for, an interrupted one included. -/
def RandomRead.IsShort (count : ℕ) (read : RandomRead) : Prop :=
  read ≠ .failed ∧ read.bytes.length < count

/-- As long as all reads are short, the counter is below the length of the destination. -/
def FallsShort (destLen : BitVec w) (reads : List RandomRead) : Prop :=
  ∀ before, before <+: reads → (∀ read ∈ before, read.IsShort destLen.toNat) →
    BitVec.ofNat w (before.flatMap RandomRead.bytes).length < destLen

section Loop

variable {dest : ℕ} {destLen len : BitVec w} {memory : Memory UInt8} {rest : List RandomRead}

/-- The loop ends when enough bytes were counted. -/
theorem randomDataLoop_done (hDone : ¬ len < destLen) :
    randomDataLoop dest destLen len memory rest = (memory, rest, .returned 0) := by
  rw [randomDataLoop, if_neg hDone]

/-- Without a further read the loop waits. -/
theorem randomDataLoop_waiting (hMore : len < destLen) :
    randomDataLoop dest destLen len memory [] = (memory, [], .waiting) := by
  rw [randomDataLoop, if_pos hMore]
  rfl

/-- A read that was interrupted is repeated. -/
theorem randomDataLoop_interrupted (hMore : len < destLen) :
    randomDataLoop dest destLen len memory (.interrupted :: rest) =
      randomDataLoop dest destLen len memory rest := by
  rw [randomDataLoop, if_pos hMore]
  conv_rhs => rw [randomDataLoop, if_pos hMore]
  rfl

/-- A read that fails ends the loop. -/
theorem randomDataLoop_failed (hMore : len < destLen) :
    randomDataLoop dest destLen len memory (.failed :: rest) =
      (memory, rest, .returned (-1)) := by
  rw [randomDataLoop, if_pos hMore]
  rfl

/-- Whatever a read delivers is stored at the beginning of the buffer, and only counted as if it
were behind the rest. -/
theorem randomDataLoop_delivered (hMore : len < destLen) (bytes : List UInt8) :
    randomDataLoop dest destLen len memory (.delivered bytes :: rest) =
      randomDataLoop dest destLen (len + .ofNat w (bytes.take destLen.toNat).length)
        (memory.storeAll dest (bytes.take destLen.toNat)) rest := by
  rw [randomDataLoop, if_pos hMore]
  show (if ((bytes.take destLen.toNat).length : ℤ) < 0 then _ else _) = _
  rw [if_neg (Int.not_lt.mpr (Int.natCast_nonneg _)), BitVec.ofInt_natCast]

/-- The rule for what the memory holds: only the stores of the reads have to be looked at. -/
theorem randomDataLoop_invariant {reads : List RandomRead} (inv : Memory UInt8 → Prop)
    (h : inv memory)
    (hStore : ∀ memory bytes, .delivered bytes ∈ reads → inv memory →
      inv (memory.storeAll dest (bytes.take destLen.toNat))) :
    inv (randomDataLoop dest destLen len memory reads).1 := by
  induction reads generalizing len memory with
  | nil =>
      by_cases hMore : len < destLen
      · rwa [randomDataLoop_waiting hMore]
      · rwa [randomDataLoop_done hMore]
  | cons read rest ih =>
      have hRest := fun memory bytes hMem => hStore memory bytes (List.mem_cons_of_mem read hMem)
      by_cases hMore : len < destLen
      · cases read with
        | interrupted =>
            rw [randomDataLoop_interrupted hMore]
            exact ih h hRest
        | failed => rwa [randomDataLoop_failed hMore]
        | delivered bytes =>
            rw [randomDataLoop_delivered hMore]
            exact ih (hStore memory bytes List.mem_cons_self h) hRest
      · rwa [randomDataLoop_done hMore]

/-- A store from the start of the destination on changes as many cells as it has bytes. -/
theorem storeAll_take_apply (memory : Memory UInt8) (bytes : List UInt8) (address : ℕ) :
    memory.storeAll dest (bytes.take destLen.toNat) address =
      if dest ≤ address ∧ address < dest + min destLen.toNat bytes.length then
        bytes[address - dest]?
      else memory address := by
  rw [Memory.storeAll_apply, List.length_take]
  split
  · rw [List.getElem?_take_of_lt (by omega)]
  · rfl

/-- Nothing is written outside of the buffer. -/
theorem randomDataLoop_inside {reads : List RandomRead} (address : ℕ)
    (h : (memory address).isSome → dest ≤ address ∧ address < dest + destLen.toNat) :
    ((randomDataLoop dest destLen len memory reads).1 address).isSome →
      dest ≤ address ∧ address < dest + destLen.toNat := by
  apply randomDataLoop_invariant (fun memory => (memory address).isSome →
    dest ≤ address ∧ address < dest + destLen.toNat) h
  intro memory bytes _ hMemory hSome
  rw [storeAll_take_apply] at hSome
  split at hSome
  · omega
  · exact hMemory hSome

/-- Whatever is in the buffer came from the device. -/
theorem randomDataLoop_origin {reads : List RandomRead} {address : ℕ} {byte : UInt8}
    (h : memory address = some byte → byte ∈ reads.flatMap RandomRead.bytes) :
    (randomDataLoop dest destLen len memory reads).1 address = some byte →
      byte ∈ reads.flatMap RandomRead.bytes := by
  apply randomDataLoop_invariant (fun memory => memory address = some byte →
    byte ∈ reads.flatMap RandomRead.bytes) h
  intro memory bytes hRead hMemory hByte
  rw [storeAll_take_apply] at hByte
  split at hByte
  · exact List.mem_flatMap.mpr ⟨_, hRead, List.mem_of_getElem? hByte⟩
  · exact hMemory hByte

/-- A buffer that is filled stays so. -/
theorem Filled.storeAll (h : Filled dest destLen memory) (bytes : List UInt8) :
    Filled dest destLen (memory.storeAll dest (bytes.take destLen.toNat)) := by
  intro index hIndex
  rw [storeAll_take_apply]
  split
  · next hStored =>
    rw [List.getElem?_eq_getElem (by omega)]
    rfl
  · exact h index hIndex

/-- A read of the whole length fills the buffer. -/
theorem filled_of_full (memory : Memory UInt8) {bytes : List UInt8}
    (hFull : destLen.toNat ≤ bytes.length) :
    Filled dest destLen (memory.storeAll dest (bytes.take destLen.toNat)) := by
  intro index hIndex
  rw [storeAll_take_apply, if_pos (by omega), List.getElem?_eq_getElem (by omega)]
  rfl

/-- Later reads overwrite a filled buffer with bytes of the device. -/
theorem Filled.randomDataLoop (h : Filled dest destLen memory) (reads : List RandomRead) :
    Filled dest destLen (randomDataLoop dest destLen len memory reads).1 :=
  randomDataLoop_invariant (Filled dest destLen) h fun _ bytes _ hMemory => hMemory.storeAll bytes

/-- Short reads leave the last byte as it was. -/
theorem storeAll_short_last (memory : Memory UInt8) {bytes : List UInt8}
    (hShort : bytes.length < destLen.toNat) :
    memory.storeAll dest (bytes.take destLen.toNat) (dest + (destLen.toNat - 1)) =
      memory (dest + (destLen.toNat - 1)) := by
  rw [storeAll_take_apply, if_neg (by omega)]

end Loop

/-- The shortfall of some reads, after others. -/
def FallsShortAfter (destLen : BitVec w) (before reads : List RandomRead) : Prop :=
  ∀ more, more <+: reads → (∀ read ∈ more, read.IsShort destLen.toNat) →
    BitVec.ofNat w ((before ++ more).flatMap RandomRead.bytes).length < destLen

section Shortfall

variable {destLen : BitVec w} {before rest : List RandomRead} {read : RandomRead}

/-- As long as the loop falls short, it has not counted enough. -/
theorem FallsShortAfter.now (h : FallsShortAfter destLen before rest) :
    BitVec.ofNat w (before.flatMap RandomRead.bytes).length < destLen := by
  simpa using h [] List.nil_prefix (by simp)

/-- Before any read the loop has fallen short. -/
theorem fallsShortAfter_nil
    (hNow : BitVec.ofNat w (before.flatMap RandomRead.bytes).length < destLen) :
    FallsShortAfter destLen before [] := by
  intro more hMore _
  rwa [List.prefix_nil.mp hMore, List.append_nil]

/-- A read that is not short ends the condition. -/
theorem fallsShortAfter_cons_of_not_isShort
    (hNow : BitVec.ofNat w (before.flatMap RandomRead.bytes).length < destLen)
    (hRead : ¬ read.IsShort destLen.toNat) : FallsShortAfter destLen before (read :: rest) := by
  intro more hMore hShort
  cases more with
  | nil => rwa [List.append_nil]
  | cons first more =>
      obtain ⟨rfl, -⟩ := List.cons_prefix_cons.mp hMore
      exact absurd (hShort first List.mem_cons_self) hRead

/-- A short read makes the loop go on. -/
theorem fallsShortAfter_cons_of_isShort
    (hNow : BitVec.ofNat w (before.flatMap RandomRead.bytes).length < destLen)
    (hRead : read.IsShort destLen.toNat) :
    FallsShortAfter destLen before (read :: rest) ↔
      FallsShortAfter destLen (before ++ [read]) rest := by
  constructor
  · intro h more hMore hShort
    rw [List.append_assoc]
    refine h (read :: more) (List.cons_prefix_cons.mpr ⟨rfl, hMore⟩) ?_
    exact List.forall_mem_cons.mpr ⟨hRead, hShort⟩
  · intro h more hMore hShort
    cases more with
    | nil => rwa [List.append_nil]
    | cons first more =>
        obtain ⟨rfl, hTail⟩ := List.cons_prefix_cons.mp hMore
        have hLater := h more hTail fun read hMem => hShort read (List.mem_cons_of_mem _ hMem)
        rwa [List.append_assoc] at hLater

end Shortfall

/-- The loop is over before there was a full read. -/
theorem randomDataLoop_filled_iff_of_done {dest : ℕ} {destLen len : BitVec w}
    {memory : Memory UInt8} {before reads : List RandomRead} (hSome : 0 < destLen.toNat)
    (hLen : len = .ofNat w (before.flatMap RandomRead.bytes).length)
    (hLast : memory (dest + (destLen.toNat - 1)) = none) (hDone : ¬ len < destLen) :
    ((randomDataLoop dest destLen len memory reads).2.2 = .returned 0 →
        Filled dest destLen (randomDataLoop dest destLen len memory reads).1) ↔
      FallsShortAfter destLen before reads := by
  rw [randomDataLoop_done hDone]
  refine iff_of_false ?_ fun h => hDone (hLen ▸ h.now)
  intro hFilled
  have hWritten : (memory (dest + (destLen.toNat - 1))).isSome :=
    hFilled rfl (destLen.toNat - 1) (by omega)
  rw [hLast] at hWritten
  cases hWritten

/-- As long as all reads were short, the last byte has not been written, so that the call must
not return 0 before a full read. -/
theorem randomDataLoop_filled_iff {dest : ℕ} {destLen len : BitVec w} {memory : Memory UInt8}
    {before reads : List RandomRead} (hSome : 0 < destLen.toNat)
    (hLen : len = .ofNat w (before.flatMap RandomRead.bytes).length)
    (hLast : memory (dest + (destLen.toNat - 1)) = none) :
    ((randomDataLoop dest destLen len memory reads).2.2 = .returned 0 →
        Filled dest destLen (randomDataLoop dest destLen len memory reads).1) ↔
      FallsShortAfter destLen before reads := by
  induction reads generalizing len memory before with
  | nil =>
      by_cases hMore : len < destLen
      · rw [randomDataLoop_waiting hMore]
        exact iff_of_true (by simp) (fallsShortAfter_nil (hLen ▸ hMore))
      · exact randomDataLoop_filled_iff_of_done hSome hLen hLast hMore
  | cons read rest ih =>
      by_cases hMore : len < destLen
      · have hNow := hLen ▸ hMore
        cases read with
        | interrupted =>
            have hShort : RandomRead.interrupted.IsShort destLen.toNat := ⟨by simp, hSome⟩
            rw [randomDataLoop_interrupted hMore, fallsShortAfter_cons_of_isShort hNow hShort]
            apply ih _ hLast
            rw [hLen]
            simp [RandomRead.bytes]
        | failed =>
            rw [randomDataLoop_failed hMore]
            refine iff_of_true (by simp) (fallsShortAfter_cons_of_not_isShort hNow ?_)
            exact fun hShort => hShort.1 rfl
        | delivered bytes =>
            rw [randomDataLoop_delivered hMore]
            by_cases hShort : bytes.length < destLen.toNat
            · have hRead : (RandomRead.delivered bytes).IsShort destLen.toNat :=
                ⟨by simp, hShort⟩
              rw [fallsShortAfter_cons_of_isShort hNow hRead]
              apply ih
              · rw [hLen, List.take_of_length_le hShort.le, ← BitVec.ofNat_add]
                simp [RandomRead.bytes]
              · rw [storeAll_short_last memory hShort]
                exact hLast
            · refine iff_of_true ?_ (fallsShortAfter_cons_of_not_isShort hNow ?_)
              · exact fun _ => (filled_of_full memory (Nat.le_of_not_lt hShort)).randomDataLoop rest
              · exact fun hRead => hShort hRead.2
      · exact randomDataLoop_filled_iff_of_done hSome hLen hLast hMore

/-- All that is written is a byte of the device in the destination, so that a call has only to
write every byte. -/
theorem fillsFromDevice_iff {dest : ℕ} {destLen : BitVec w} {reads : List RandomRead}
    (opened : Bool) :
    FillsFromDevice dest destLen reads (generateRandomData opened dest destLen reads) ↔
      ((generateRandomData opened dest destLen reads).2.2 = .returned 0 →
        Filled dest destLen (generateRandomData opened dest destLen reads).1) := by
  constructor
  · intro h hReturned index hIndex
    obtain ⟨byte, -, hByte⟩ := h.filled hReturned index hIndex
    rw [hByte]
    rfl
  · intro h
    constructor
    · intro hReturned index hIndex
      obtain ⟨byte, hByte⟩ := Option.isSome_iff_exists.mp (h hReturned index hIndex)
      refine ⟨byte, ?_, hByte⟩
      cases opened with
      | true => exact randomDataLoop_origin (by simp [Memory.empty]) hByte
      | false => cases hByte
    · intro address hWritten
      cases opened with
      | true => exact randomDataLoop_inside address (by simp [Memory.empty]) hWritten
      | false => cases hWritten

/-- A call that returns 0 has filled its destination from the device exactly if the device cannot
be opened, nothing is asked for, or the short reads in front of the first full or failed one do
not add up to what is asked for. It never writes anywhere else. -/
theorem generateRandomData_fills_iff (opened : Bool) (dest : ℕ) (destLen : BitVec w)
    (reads : List RandomRead) :
    FillsFromDevice dest destLen reads (generateRandomData opened dest destLen reads) ↔
      opened = false ∨ destLen = 0 ∨ FallsShort destLen reads := by
  rw [fillsFromDevice_iff]
  cases opened with
  | false => exact iff_of_true (by simp [generateRandomData]) (.inl rfl)
  | true =>
      by_cases hNone : destLen = 0
      · refine iff_of_true (fun _ index hIndex => ?_) (.inr (.inl hNone))
        simp [hNone] at hIndex
      · have hSome : 0 < destLen.toNat := by
          rw [Nat.pos_iff_ne_zero]
          exact fun hZero => hNone (BitVec.eq_of_toNat_eq hZero)
        rw [or_iff_right (by decide), or_iff_right hNone]
        exact @randomDataLoop_filled_iff w dest destLen 0 .empty [] reads hSome rfl rfl

/-- Two reads of eight bytes for the challenge of 16 bytes. -/
def halfReads : List RandomRead :=
  [.delivered (List.replicate 8 0x5A), .delivered (List.replicate 8 0xC3)]

/-- The call returns 0, and the second half of the challenge begins with what was there. -/
theorem generateRandomData_halfReads :
    (generateRandomData true 0 (16 : BitVec 64) halfReads).2.2 = .returned 0 ∧
      (generateRandomData true 0 (16 : BitVec 64) halfReads).1 8 = none ∧
      ¬ FillsFromDevice 0 (16 : BitVec 64) halfReads
        (generateRandomData true 0 (16 : BitVec 64) halfReads) := by
  have hResult : generateRandomData true 0 (16 : BitVec 64) halfReads =
      ((Memory.empty.storeAll 0 (List.replicate 8 0x5A)).storeAll 0 (List.replicate 8 0xC3),
        [], .returned 0) := by
    rw [generateRandomData, if_pos rfl, halfReads, randomDataLoop_delivered (by decide),
      randomDataLoop_delivered (by decide), randomDataLoop_done (by decide)]
    rfl
  have hEighth : (generateRandomData true 0 (16 : BitVec 64) halfReads).1 8 = none := by
    rw [hResult]
    rfl
  refine ⟨by rw [hResult], hEighth, fun h => ?_⟩
  obtain ⟨byte, -, hByte⟩ := h.filled (by rw [hResult]) 8 (by decide)
  cases hEighth.symm.trans hByte

end EverestCore.V2G
