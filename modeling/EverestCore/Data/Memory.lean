import Mathlib.Data.List.Basic
import Mathlib.Data.Nat.Notation
import Mathlib.Logic.Function.Basic

/-! Memory that is written cell by cell. A cell has a value from the first store to it on, so
the cells with a value are those that have been written. Memory that is filled from the
beginning is compared with a list of cells, some of them still left out. -/
namespace EverestCore

/-- What has been stored at each index. -/
abbrev Memory (α : Type) := ℕ → Option α

namespace Memory

variable {α : Type}

def empty : Memory α := fun _ => none

def store (index : ℕ) (value : α) (memory : Memory α) : Memory α :=
  Function.update memory index (some value)

/-- Store values one after the other, as `memcpy` does. -/
def storeAll : ℕ → List α → Memory α → Memory α
  | _, [], memory => memory
  | index, value :: rest, memory => storeAll (index + 1) rest (memory.store index value)

/-- The first cells. -/
def content (memory : Memory α) (length : ℕ) : List (Option α) := (List.range length).map memory

/-- Nothing has been written at the bound or behind it. -/
def WrittenBelow (bound : ℕ) (memory : Memory α) : Prop :=
  ∀ index, (memory index).isSome → index < bound

/-- The first cells hold these values. -/
def Begins (values : List α) (memory : Memory α) : Prop :=
  memory.content values.length = values.map some

def ofCells (cells : List (Option α)) : Memory α := fun index => cells[index]?.join

/-- Memory that holds these values and nothing else. -/
def ofList (values : List α) : Memory α := fun index => values[index]?

/-- Cells that were never written are read as well, as unknown values. -/
@[simp] theorem length_content (memory : Memory α) (length : ℕ) :
    (memory.content length).length = length := by
  rw [content, List.length_map, List.length_range]

@[simp] theorem ofCells_nil : (ofCells [] : Memory α) = empty := rfl

/-- Without unknown cells, the memory is that of a list. -/
theorem ofCells_map_some (values : List α) : ofCells (values.map some) = ofList values := by
  funext index
  rw [ofCells, ofList, List.getElem?_map]
  cases values[index]? <;> rfl

/-- A cell that is left out changes nothing. -/
@[simp] theorem ofCells_left_out (cells : List (Option α)) :
    ofCells (cells ++ [none]) = ofCells cells := by
  funext index
  unfold ofCells
  rcases Nat.lt_trichotomy index cells.length with hBefore | rfl | hAfter
  · rw [List.getElem?_append_left hBefore]
  · simp
  · rw [List.getElem?_eq_none (by simpa using Nat.succ_le_of_lt hAfter),
      List.getElem?_eq_none (Nat.le_of_lt hAfter)]

/-- The later of two stores at one index counts. -/
theorem store_store (index : ℕ) (first second : α) (memory : Memory α) :
    (memory.store index first).store index second = memory.store index second :=
  Function.update_idem _ _ _

/-- The frame of a store. -/
theorem store_other {index other : ℕ} (hOther : other ≠ index) (value : α) (memory : Memory α) :
    memory.store index value other = memory other := Function.update_of_ne hOther _ _

/-- What is stored is found, and the rest is as it was. -/
theorem storeAll_apply (start : ℕ) (values : List α) (memory : Memory α) (index : ℕ) :
    memory.storeAll start values index =
      if start ≤ index ∧ index < start + values.length then values[index - start]?
      else memory index := by
  induction values generalizing start memory with
  | nil =>
      rw [storeAll, if_neg]
      simp
  | cons value rest ih =>
      rw [storeAll, ih, List.length_cons]
      by_cases hSame : index = start
      · rw [if_neg (by omega), if_pos (by omega), hSame, Nat.sub_self]
        exact Function.update_self _ _ _
      · by_cases hInside : start + 1 ≤ index ∧ index < start + 1 + rest.length
        · have hIndex : index - start = index - (start + 1) + 1 := by omega
          rw [if_pos hInside, if_pos (by omega), hIndex, List.getElem?_cons_succ]
        · rw [if_neg hInside, if_neg (by omega), store_other hSame]

/-- A store in the middle replaces one cell. -/
theorem store_ofCells (before after : List (Option α)) (cell : Option α) (value : α) :
    (ofCells (before ++ cell :: after)).store before.length value =
      ofCells (before ++ some value :: after) := by
  funext index
  unfold store ofCells
  rcases Nat.lt_trichotomy index before.length with hBefore | rfl | hAfter
  · rw [Function.update_of_ne (Nat.ne_of_lt hBefore), List.getElem?_append_left hBefore,
      List.getElem?_append_left hBefore]
  · rw [Function.update_self, List.getElem?_append_right (Nat.le_refl _), Nat.sub_self]
    rfl
  · obtain ⟨offset, rfl⟩ := Nat.exists_eq_add_of_lt hAfter
    rw [Function.update_of_ne (Nat.ne_of_gt hAfter),
      List.getElem?_append_right (Nat.le_of_lt hAfter),
      List.getElem?_append_right (Nat.le_of_lt hAfter), Nat.add_assoc, Nat.add_sub_cancel_left]
    rfl

/-- A store behind the last cell adds one. -/
theorem store_ofCells_end (cells : List (Option α)) (value : α) :
    (ofCells cells).store cells.length value = ofCells (cells ++ [some value]) := by
  rw [← ofCells_left_out cells, store_ofCells]

/-- Several stores in a row, by induction on the values. -/
theorem storeAll_ofCells (cells : List (Option α)) (values : List α) :
    (ofCells cells).storeAll cells.length values = ofCells (cells ++ values.map some) := by
  induction values generalizing cells with
  | nil => rw [storeAll, List.map_nil, List.append_nil]
  | cons value rest ih =>
      rw [storeAll, store_ofCells_end]
      simpa using ih (cells ++ [some value])

/-- A store behind a list makes it longer. -/
theorem store_ofList (values : List α) (value : α) :
    (ofList values).store values.length value = ofList (values ++ [value]) := by
  have hEnd := store_ofCells_end (values.map some) value
  rw [List.length_map, ofCells_map_some] at hEnd
  rw [hEnd, ← ofCells_map_some, List.map_append]
  rfl

/-- Lists are put behind one another. -/
theorem storeAll_ofList (values more : List α) :
    (ofList values).storeAll values.length more = ofList (values ++ more) := by
  have hEnd := storeAll_ofCells (values.map some) more
  rw [List.length_map, ofCells_map_some] at hEnd
  rw [hEnd, ← List.map_append, ofCells_map_some]

/-- The cells of a list are those below its length. -/
theorem isSome_ofList (values : List α) (index : ℕ) :
    (ofList values index).isSome ↔ index < values.length := by
  simp [ofList]

/-- What was stored is read back. -/
theorem content_ofList (values : List α) :
    (ofList values).content values.length = values.map some := by
  apply List.ext_getElem
  · simp
  · intro index hLeft hRight
    simp [content, ofList]

/-- Every memory begins with nothing. -/
theorem begins_nil (memory : Memory α) : memory.Begins [] := rfl

/-- A front part of what the memory begins with is read back as it is. -/
theorem Begins.content_take {memory : Memory α} {values : List α} (h : memory.Begins values)
    {length : ℕ} (hLength : length ≤ values.length) :
    memory.content length = (values.take length).map some := by
  rw [List.map_take, ← h, content, content, ← List.map_take, List.take_range,
    Nat.min_eq_left hLength]

/-- What is read from the beginning does not depend on what the memory held before. -/
theorem Begins.getD {memory : Memory α} {values : List α} (h : memory.Begins values)
    (before : ℕ → α) :
    (List.range values.length).map (fun index => (memory index).getD (before index)) = values := by
  have hCells : ∀ index (hIndex : index < values.length), memory index = some values[index] := by
    intro index hIndex
    have hCell := congrArg (fun cells => cells[index]?) h
    simpa [content, hIndex] using hCell
  apply List.ext_getElem
  · simp
  · intro index hLeft hRight
    rw [List.getElem_map, List.getElem_range, hCells index hRight, Option.getD_some]

/-- A store right behind the known values extends them. -/
theorem Begins.store {memory : Memory α} {values : List α} (h : memory.Begins values) (value : α) :
    (memory.store values.length value).Begins (values ++ [value]) := by
  rw [Begins, List.length_append, List.length_singleton, content, List.range_succ, List.map_append,
    List.map_append, ← h, content]
  congr 1
  · apply List.map_congr_left
    intro index hIndex
    exact Function.update_of_ne (Nat.ne_of_lt (List.mem_range.mp hIndex)) _ _
  · exact congrArg (fun cell => [cell]) (Function.update_self _ _ _)

/-- Several stores right behind the known values extend them. -/
theorem Begins.storeAll {memory : Memory α} {values : List α} (h : memory.Begins values)
    (more : List α) : (memory.storeAll values.length more).Begins (values ++ more) := by
  induction more generalizing memory values with
  | nil => rwa [List.append_nil]
  | cons value rest ih =>
      have hRest := ih (h.store value)
      rwa [List.length_append, List.length_singleton, List.append_assoc] at hRest

theorem writtenBelow_empty (bound : ℕ) : (empty : Memory α).WrittenBelow bound :=
  fun _ hSome => absurd hSome (by simp [empty])

/-- A store below the bound does not raise it. -/
theorem WrittenBelow.store {bound : ℕ} {memory : Memory α} (h : memory.WrittenBelow bound)
    {index : ℕ} (hIndex : index < bound) (value : α) :
    (memory.store index value).WrittenBelow bound := by
  intro other hSome
  by_cases hSame : other = index
  · rwa [hSame]
  · rw [Memory.store, Function.update_of_ne hSame] at hSome
    exact h other hSome

/-- Several stores keep the bound if the last one is below it. -/
theorem WrittenBelow.storeAll {bound : ℕ} {memory : Memory α} (h : memory.WrittenBelow bound)
    {index : ℕ} {values : List α} (hEnd : index + values.length ≤ bound) :
    (memory.storeAll index values).WrittenBelow bound := by
  induction values generalizing index memory with
  | nil => exact h
  | cons value rest ih =>
      rw [List.length_cons] at hEnd
      exact ih (h.store (by omega) value) (by omega)

end Memory

end EverestCore
