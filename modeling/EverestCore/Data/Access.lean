import Mathlib.Data.Nat.Notation
import Mathlib.Data.List.Range

/-! Programs that read a buffer, with a record of where they have read. -/
namespace EverestCore

/-- What a program makes of a buffer, and the indices that it reads on the way. -/
def Access (β α : Type) : Type := (ℕ → β) → α × List ℕ

namespace Access

variable {β α γ : Type}

instance : Monad (Access β) where
  pure value := fun _ => (value, [])
  bind first next := fun buf =>
    (next (first buf).1 buf |>.1, (first buf).2 ++ (next (first buf).1 buf).2)

def value (program : Access β α) (buf : ℕ → β) : α := (program buf).1

def reads (program : Access β α) (buf : ℕ → β) : List ℕ := (program buf).2

/-- `buf[index]`. -/
def read (index : ℕ) : Access β β := fun buf => (buf index, [index])

/-- So many cells from an index on. -/
def readAll : ℕ → ℕ → Access β (List β)
  | _, 0 => pure []
  | index, count + 1 => do
      let first ← read index
      let rest ← readAll (index + 1) count
      pure (first :: rest)

variable (buf : ℕ → β)

/-- Nothing is read for a result that is known. -/
@[simp] theorem value_pure (result : α) : (pure result : Access β α).value buf = result := rfl

@[simp] theorem reads_pure (result : α) : (pure result : Access β α).reads buf = [] := rfl

-- The next four rules come first, so that they meet a program before its results are put in.
/-- The value of a program is that of its last part, with what the first part has found. -/
@[simp ↓] theorem value_bind (first : Access β α) (next : α → Access β γ) :
    (first >>= next).value buf = (next (first.value buf)).value buf := rfl

/-- The reads of both parts, in their order. Those of the second one depend on what the first one
has found. -/
@[simp ↓] theorem reads_bind (first : Access β α) (next : α → Access β γ) :
    (first >>= next).reads buf = first.reads buf ++ (next (first.value buf)).reads buf := rfl

/-- A choice of programs is a choice of values, and the condition need not be read from the buffer.
-/
@[simp ↓] theorem value_ite (p : Prop) [Decidable p] (first second : Access β α) :
    (if p then first else second).value buf = if p then first.value buf else second.value buf :=
  apply_ite (fun program => value program buf) p first second

@[simp ↓] theorem reads_ite (p : Prop) [Decidable p] (first second : Access β α) :
    (if p then first else second).reads buf = if p then first.reads buf else second.reads buf :=
  apply_ite (fun program => reads program buf) p first second

@[simp] theorem value_read (index : ℕ) : (read index : Access β β).value buf = buf index := rfl

@[simp] theorem reads_read (index : ℕ) : (read index : Access β β).reads buf = [index] := rfl

/-- Several cells in a row. -/
@[simp] theorem value_readAll (index count : ℕ) :
    (readAll index count : Access β (List β)).value buf = (List.range' index count).map buf := by
  induction count generalizing index with
  | zero => rfl
  | succ count ih =>
      rw [readAll, value_bind, value_bind, value_pure, ih, List.range'_succ, List.map_cons]
      rfl

@[simp] theorem reads_readAll (index count : ℕ) :
    (readAll index count : Access β (List β)).reads buf = List.range' index count := by
  induction count generalizing index with
  | zero => rfl
  | succ count ih =>
      rw [readAll, reads_bind, reads_bind, reads_pure, ih, List.append_nil, List.range'_succ]
      rfl

end Access

end EverestCore
