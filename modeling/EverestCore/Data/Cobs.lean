import Mathlib.Data.List.DropRight
import Mathlib.Data.UInt

/-! Consistent overhead byte stuffing. A packet is cut into blocks without zeros. A block that
is not full stands for its bytes and a zero, a full one for its bytes alone, and in front of
each block stands a code, the number of its bytes and one more. -/
namespace EverestCore.Cobs

/-- The number of bytes of a full block. -/
def fullLength : ℕ := 254

/-- The blocks of a packet, with the bytes of the current block at hand. No block is begun
behind a full one at the end of the packet. -/
def blocksFrom (block : List UInt8) : List UInt8 → List (List UInt8)
  | [] => [block]
  | byte :: rest =>
      if byte = 0 then block :: blocksFrom [] rest
      else if block.length + 1 = fullLength then
        (block ++ [byte]) :: if rest = [] then [] else blocksFrom [] rest
      else blocksFrom (block ++ [byte]) rest

/-- The code of a block, and its bytes. -/
def coded (block : List UInt8) : List UInt8 := .ofNat (block.length + 1) :: block

/-- The byte in front of a block is its overhead. -/
@[simp] theorem length_coded (block : List UInt8) : (coded block).length = block.length + 1 := rfl

/-- What a block stands for. -/
def meaning (block : List UInt8) : List UInt8 :=
  if block.length = fullLength then block else block ++ [0]

/-- The stuffed packet, in front of its delimiter. -/
def stuffedFrom (block rest : List UInt8) : List UInt8 := (blocksFrom block rest).flatMap coded

/-- The bytes behind the last zero fill one or more blocks. -/
def EndsInFullBlock (packet : List UInt8) : Prop :=
  let tail := packet.rtakeWhile (· ≠ 0)
  tail ≠ [] ∧ fullLength ∣ tail.length

instance (packet : List UInt8) : Decidable (EndsInFullBlock packet) :=
  inferInstanceAs (Decidable (_ ∧ _))

/-- A block that can still take a byte. -/
structure IsOpen (block : List UInt8) : Prop where
  nonzero : ∀ byte ∈ block, byte ≠ 0
  length : block.length < fullLength

/-- A packet begins with an open block. -/
theorem isOpen_nil : IsOpen [] := ⟨nofun, by decide⟩

section OneByte

variable {block : List UInt8} (h : IsOpen block) {byte : UInt8} (hByte : byte ≠ 0)

include h hByte

/-- A byte that is not zero can be put into the block. -/
theorem IsOpen.nonzero_snoc : ∀ other ∈ block ++ [byte], other ≠ 0 := by
  intro other hOther
  rcases List.mem_append.mp hOther with hOld | hNew
  · exact h.nonzero other hOld
  · rwa [List.mem_singleton.mp hNew]

/-- A byte leaves the block open, unless it is the last one that fits. -/
theorem IsOpen.snoc (hLength : block.length + 1 ≠ fullLength) : IsOpen (block ++ [byte]) := by
  refine ⟨h.nonzero_snoc hByte, ?_⟩
  rw [List.length_append, List.length_singleton]
  have hLess := h.length
  omega

end OneByte

section Blocks

variable {block : List UInt8}

/-- The induction over a packet, with one case for each way in which a byte is taken. -/
theorem blocksFrom_induction {motive : List UInt8 → List UInt8 → Prop}
    (hEnd : ∀ block, IsOpen block → motive block [])
    (hZero : ∀ block rest, IsOpen block → motive [] rest → motive block (0 :: rest))
    (hLast : ∀ block byte, IsOpen block → byte ≠ 0 → block.length + 1 = fullLength →
      motive block [byte])
    (hFull : ∀ block byte rest, IsOpen block → byte ≠ 0 → block.length + 1 = fullLength →
      rest ≠ [] → motive [] rest → motive block (byte :: rest))
    (hByte : ∀ block byte rest, IsOpen block → byte ≠ 0 → block.length + 1 ≠ fullLength →
      motive (block ++ [byte]) rest → motive block (byte :: rest))
    (h : IsOpen block) (rest : List UInt8) : motive block rest := by
  induction rest generalizing block with
  | nil => exact hEnd block h
  | cons byte rest ih =>
      by_cases hIsZero : byte = 0
      · rw [hIsZero]
        exact hZero block rest h (ih isOpen_nil)
      · by_cases hLength : block.length + 1 = fullLength
        · by_cases hRest : rest = []
          · rw [hRest]
            exact hLast block byte h hIsZero hLength
          · exact hFull block byte rest h hIsZero hLength hRest (ih isOpen_nil)
        · exact hByte block byte rest h hIsZero hLength (ih (h.snoc hIsZero hLength))

/-- A zero ends the block, and is not stored. -/
theorem blocksFrom_zero (block rest : List UInt8) :
    blocksFrom block (0 :: rest) = block :: blocksFrom [] rest := by
  rw [blocksFrom, if_pos rfl]

variable {byte : UInt8} {rest : List UInt8} (hByte : byte ≠ 0)

include hByte

/-- The last byte of a packet may fill its block. No empty block follows then, and this is what
loses it. -/
theorem blocksFrom_last (hLength : block.length + 1 = fullLength) :
    blocksFrom block [byte] = [block ++ [byte]] := by
  rw [blocksFrom, if_neg hByte, if_pos hLength, if_pos rfl]

/-- In the middle of a packet, a full block is followed by the next one. -/
theorem blocksFrom_full (hLength : block.length + 1 = fullLength) (hRest : rest ≠ []) :
    blocksFrom block (byte :: rest) = (block ++ [byte]) :: blocksFrom [] rest := by
  rw [blocksFrom, if_neg hByte, if_pos hLength, if_neg hRest]

/-- A byte that is not zero makes a block grow that has room for more. -/
theorem blocksFrom_byte (hLength : block.length + 1 ≠ fullLength) :
    blocksFrom block (byte :: rest) = blocksFrom (block ++ [byte]) rest := by
  rw [blocksFrom, if_neg hByte, if_neg hLength]

end Blocks

variable {block rest : List UInt8}

/-- The blocks have no zeros and are not too long. -/
theorem of_mem_blocksFrom (h : IsOpen block) :
    ∀ other ∈ blocksFrom block rest, (∀ byte ∈ other, byte ≠ 0) ∧ other.length ≤ fullLength := by
  refine blocksFrom_induction (motive := fun block rest => ∀ other ∈ blocksFrom block rest,
    (∀ byte ∈ other, byte ≠ 0) ∧ other.length ≤ fullLength) ?_ ?_ ?_ ?_ ?_ h rest
  · intro block h other hOther
    rw [List.mem_singleton.mp hOther]
    exact ⟨h.nonzero, h.length.le⟩
  · intro block rest h ih other hOther
    rw [blocksFrom_zero] at hOther
    rcases List.mem_cons.mp hOther with rfl | hRest
    · exact ⟨h.nonzero, h.length.le⟩
    · exact ih other hRest
  · intro block byte h hByte hLength other hOther
    rw [blocksFrom_last hByte hLength] at hOther
    rw [List.mem_singleton.mp hOther]
    exact ⟨h.nonzero_snoc hByte, by simp [hLength]⟩
  · intro block byte rest h hByte hLength hRest ih other hOther
    rw [blocksFrom_full hByte hLength hRest] at hOther
    rcases List.mem_cons.mp hOther with rfl | hLater
    · exact ⟨h.nonzero_snoc hByte, by simp [hLength]⟩
    · exact ih other hLater
  · intro block byte rest h hByte hLength ih
    rwa [blocksFrom_byte hByte hLength]

/-- There is no zero inside of a stuffed packet, so that its delimiter is the first one. -/
theorem stuffedFrom_nonzero (h : IsOpen block) : ∀ byte ∈ stuffedFrom block rest, byte ≠ 0 := by
  intro byte hByte
  obtain ⟨other, hOther, hCoded⟩ := List.mem_flatMap.mp hByte
  obtain ⟨hNonzero, hLength⟩ := of_mem_blocksFrom h other hOther
  rcases List.mem_cons.mp hCoded with rfl | hInside
  · intro hZero
    have hNat := congrArg UInt8.toNat hZero
    rw [UInt8.toNat_ofNat', fullLength] at *
    simp at hNat
    omega
  · exact hNonzero byte hInside

/-- The overhead is one byte for each full block, and one more. -/
theorem length_stuffedFrom_le (h : IsOpen block) :
    (stuffedFrom block rest).length ≤
      block.length + rest.length + (block.length + rest.length) / fullLength + 1 := by
  refine blocksFrom_induction (motive := fun block rest => (stuffedFrom block rest).length ≤
    block.length + rest.length + (block.length + rest.length) / fullLength + 1)
    ?_ ?_ ?_ ?_ ?_ h rest
  all_goals unfold stuffedFrom
  · intro block h
    simp [blocksFrom, coded]
  · intro block rest h ih
    rw [blocksFrom_zero, List.flatMap_cons, List.length_append, coded]
    simp only [List.length_cons, List.length_nil, fullLength] at ih ⊢
    omega
  · intro block byte h hByte hLength
    rw [blocksFrom_last hByte hLength]
    simp [coded, fullLength]
  · intro block byte rest h hByte hLength hRest ih
    rw [blocksFrom_full hByte hLength hRest, List.flatMap_cons, List.length_append, coded]
    simp only [List.length_cons, List.length_append, List.length_nil, fullLength] at ih hLength ⊢
    omega
  · intro block byte rest h hByte hLength ih
    rw [blocksFrom_byte hByte hLength]
    have hSum : (block ++ [byte]).length + rest.length = block.length + (byte :: rest).length := by
      simp
      omega
    rwa [hSum] at ih

/-- A zero in the packet hides everything in front of it. -/
theorem endsInFullBlock_append_zero (before rest : List UInt8) :
    EndsInFullBlock (before ++ 0 :: rest) ↔ EndsInFullBlock rest := by
  have hTail : (before ++ 0 :: rest).rtakeWhile (· ≠ 0) = rest.rtakeWhile (· ≠ 0) := by
    rw [List.rtakeWhile, List.rtakeWhile, List.reverse_append, List.reverse_cons,
      List.append_assoc, List.takeWhile_append]
    split_ifs with hAll
    · rw [(List.takeWhile_prefix _).eq_of_length hAll, List.singleton_append,
        List.takeWhile_cons_of_neg (by simp), List.append_nil]
    · rfl
  rw [EndsInFullBlock, EndsInFullBlock, hTail]

/-- Without zeros it is the length of the packet that counts. -/
theorem endsInFullBlock_of_nonzero {packet : List UInt8} (hNonzero : ∀ byte ∈ packet, byte ≠ 0) :
    EndsInFullBlock packet ↔ packet ≠ [] ∧ fullLength ∣ packet.length := by
  have hTail : packet.rtakeWhile (· ≠ 0) = packet :=
    List.rtakeWhile_eq_self_iff.mpr fun byte hByte => decide_eq_true (hNonzero byte hByte)
  rw [EndsInFullBlock, hTail]

/-- The shortest packet that is lost. -/
theorem endsInFullBlock_replicate {byte : UInt8} (hByte : byte ≠ 0) :
    EndsInFullBlock (List.replicate fullLength byte) := by
  have hNonzero : ∀ other ∈ List.replicate fullLength byte, other ≠ 0 := by
    intro other hOther
    rwa [List.eq_of_mem_replicate hOther]
  rw [endsInFullBlock_of_nonzero hNonzero, List.length_replicate]
  exact ⟨nofun, Nat.dvd_refl _⟩

/-- An open block has room left. -/
theorem not_endsInFullBlock (h : IsOpen block) : ¬EndsInFullBlock block := by
  rw [endsInFullBlock_of_nonzero h.nonzero]
  rintro ⟨hBlock, hFull⟩
  have hLess := Nat.le_of_dvd (List.length_pos_of_ne_nil hBlock) hFull
  exact absurd h.length (Nat.not_lt.mpr hLess)

/-- An empty packet is not lost. -/
theorem EndsInFullBlock.ne_nil {packet : List UInt8} (hEnds : EndsInFullBlock packet) :
    packet ≠ [] := by
  rintro rfl
  exact not_endsInFullBlock isOpen_nil hEnds

/-- A full block in front of more bytes does not count. -/
theorem endsInFullBlock_append_full {full : List UInt8} (hNonzero : ∀ byte ∈ full, byte ≠ 0)
    (hLength : full.length = fullLength) (hRest : rest ≠ []) :
    EndsInFullBlock (full ++ rest) ↔ EndsInFullBlock rest := by
  by_cases hZero : 0 ∈ rest
  · obtain ⟨before, after, rfl⟩ := List.append_of_mem hZero
    rw [← List.append_assoc, endsInFullBlock_append_zero, endsInFullBlock_append_zero]
  · have hRestNonzero : ∀ byte ∈ rest, byte ≠ 0 := fun byte hByte hIsZero => hZero (hIsZero ▸ hByte)
    have hAll : ∀ byte ∈ full ++ rest, byte ≠ 0 := fun byte hByte =>
      (List.mem_append.mp hByte).elim (hNonzero byte) (hRestNonzero byte)
    rw [endsInFullBlock_of_nonzero hAll, endsInFullBlock_of_nonzero hRestNonzero,
      List.length_append, hLength, Nat.dvd_add_right (Nat.dvd_refl _)]
    exact and_congr_left fun _ => iff_of_true (by simp [hRest]) hRest

/-- The blocks stand for the packet and a zero behind it, unless the packet ends in a full
block. -/
theorem flatMap_meaning_blocksFrom (h : IsOpen block) :
    (blocksFrom block rest).flatMap meaning =
      block ++ rest ++ if EndsInFullBlock (block ++ rest) then [] else [0] := by
  refine blocksFrom_induction (motive := fun block rest => (blocksFrom block rest).flatMap meaning =
    block ++ rest ++ if EndsInFullBlock (block ++ rest) then [] else [0]) ?_ ?_ ?_ ?_ ?_ h rest
  · intro block h
    rw [List.append_nil, if_neg (not_endsInFullBlock h), blocksFrom, List.flatMap_singleton,
      meaning, if_neg h.length.ne]
  · intro block rest h ih
    rw [blocksFrom_zero, List.flatMap_cons, ih, meaning, if_neg h.length.ne]
    simp only [endsInFullBlock_append_zero, List.nil_append, List.append_assoc, List.cons_append]
  · intro block byte h hByte hLength
    have hFull : (block ++ [byte]).length = fullLength := by simpa using hLength
    have hEnds : EndsInFullBlock (block ++ [byte]) := by
      rw [endsInFullBlock_of_nonzero (h.nonzero_snoc hByte), hFull]
      exact ⟨by simp, Nat.dvd_refl _⟩
    rw [blocksFrom_last hByte hLength, List.flatMap_singleton, meaning, if_pos hFull, if_pos hEnds,
      List.append_nil]
  · intro block byte rest h hByte hLength hRest ih
    have hFull : (block ++ [byte]).length = fullLength := by simpa using hLength
    have hEnds := endsInFullBlock_append_full (h.nonzero_snoc hByte) hFull hRest
    rw [List.append_assoc, List.singleton_append] at hEnds
    rw [blocksFrom_full hByte hLength hRest, List.flatMap_cons, ih, meaning, if_pos hFull]
    simp only [hEnds, List.nil_append, List.append_assoc, List.cons_append]
  · intro block byte rest h hByte hLength ih
    rw [blocksFrom_byte hByte hLength, ih]
    simp only [List.append_assoc, List.singleton_append]

end EverestCore.Cobs
