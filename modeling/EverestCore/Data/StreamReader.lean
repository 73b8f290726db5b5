import Mathlib.Data.List.Basic
import Mathlib.Data.Nat.Notation

/-! Readers that take values from the front of a stream, or fail. A reader is local if what it
makes of a stream does not depend on what it leaves in it. -/
namespace EverestCore

/-- The value that is read, and what is left of the stream. -/
def StreamReader (β α : Type) : Type := List β → Option (α × List β)

namespace StreamReader

variable {β α γ : Type}

instance : Monad (StreamReader β) where
  pure value := fun stream => some (value, stream)
  bind first next := fun stream => (first stream).bind fun read => next read.1 read.2

def run (reader : StreamReader β α) (stream : List β) : Option (α × List β) := reader stream

def fail : StreamReader β α := fun _ => none

/-- One element. -/
def item : StreamReader β β
  | [] => none
  | first :: rest => some (first, rest)

/-- So many elements. -/
def items (count : ℕ) : StreamReader β (List β) := fun stream =>
  if stream.length < count then none else some (stream.take count, stream.drop count)

/-- Go on only if this holds. -/
def ensure (p : Prop) [Decidable p] : StreamReader β Unit := if p then pure () else fail

/-- What a loop makes of an element. -/
inductive Round (σ α : Type) where
  | again (state : σ)
  | done (value : α)

variable {σ : Type}

/-- A loop that takes one element in each round. -/
def loop (round : σ → β → Option (Round σ α)) (state : σ) : StreamReader β α
  | [] => none
  | first :: rest =>
      match round state first with
      | none => none
      | some (.again next) => loop round next rest
      | some (.done value) => some (value, rest)

@[simp] theorem run_pure (value : α) (stream : List β) :
    (pure value : StreamReader β α).run stream = some (value, stream) := rfl

@[simp] theorem run_fail (stream : List β) : (fail : StreamReader β α).run stream = none := rfl

@[simp] theorem run_item_nil : (item : StreamReader β β).run [] = none := rfl

@[simp] theorem run_item_cons (first : β) (rest : List β) :
    item.run (first :: rest) = some (first, rest) := rfl

/-- The next reader takes what the first one has left, and there is none after a failure. -/
theorem run_bind (first : StreamReader β α) (next : α → StreamReader β γ) (stream : List β) :
    (first >>= next).run stream =
      (first.run stream).bind fun read => (next read.1).run read.2 := rfl

/-- A check that holds takes nothing from the stream. -/
theorem run_ensure_bind_pos {p : Prop} [Decidable p] (hHolds : p) (next : Unit → StreamReader β γ)
    (stream : List β) : (ensure p >>= next).run stream = (next ()).run stream := by
  rw [ensure, if_pos hHolds]
  rfl

/-- A check that fails ends the whole reader. -/
theorem run_ensure_bind_neg {p : Prop} [Decidable p] (hFails : ¬p) (next : Unit → StreamReader β γ)
    (stream : List β) : (ensure p >>= next).run stream = none := by
  rw [ensure, if_neg hFails]
  rfl

/-- The inversion of `run_bind`: a result of both has a result in the middle. -/
theorem run_bind_eq_some {first : StreamReader β α} {next : α → StreamReader β γ}
    {stream rest : List β} {value : γ} (h : (first >>= next).run stream = some (value, rest)) :
    ∃ middle left, first.run stream = some (middle, left) ∧
      (next middle).run left = some (value, rest) := by
  rw [run_bind, Option.bind_eq_some_iff] at h
  obtain ⟨⟨middle, left⟩, hFirst, hNext⟩ := h
  exact ⟨middle, left, hFirst, hNext⟩

/-- Whatever comes behind it, this is read as the value. -/
def Reads (reader : StreamReader β α) (front : List β) (value : α) : Prop :=
  ∀ tail, reader.run (front ++ tail) = some (value, tail)

/-- A known value is read from no bytes at all. -/
theorem reads_pure (value : α) : (pure value : StreamReader β α).Reads [] value :=
  fun _ => rfl

theorem reads_item (first : β) : item.Reads [first] first := fun _ => rfl

/-- As many items as are asked for, whatever they are. -/
theorem reads_items (front : List β) : (items front.length).Reads front front := by
  intro tail
  rw [run, items, if_neg (by rw [List.length_append]; omega), List.take_left, List.drop_left]

/-- A check that holds can be left out of the bytes. -/
theorem reads_ensure {p : Prop} [Decidable p] (hHolds : p) :
    (ensure p : StreamReader β Unit).Reads [] () := by
  rw [ensure, if_pos hHolds]
  exact reads_pure ()

section Loop

variable {round : σ → β → Option (Round σ α)} {state : σ} {first : β}

/-- A round that asks for more takes one item and goes on. -/
theorem run_loop_again {next : σ} (hRound : round state first = some (.again next))
    (rest : List β) : (loop round state).run (first :: rest) = (loop round next).run rest := by
  rw [run, loop, hRound]
  rfl

/-- A round that is done leaves the rest of the stream. -/
theorem run_loop_done {value : α} (hRound : round state first = some (.done value))
    (rest : List β) : (loop round state).run (first :: rest) = some (value, rest) := by
  rw [run, loop, hRound]

/-- The bytes of a loop are put together from the front, one for each round. -/
theorem reads_loop_again {next : σ} (hRound : round state first = some (.again next))
    {front : List β} {value : α} (hRest : (loop round next).Reads front value) :
    (loop round state).Reads (first :: front) value := by
  intro tail
  rw [List.cons_append, run_loop_again hRound]
  exact hRest tail

/-- The last round reads one item. -/
theorem reads_loop_done {value : α} (hRound : round state first = some (.done value)) :
    (loop round state).Reads [first] value := fun tail => run_loop_done hRound tail

end Loop

/-- Two encodings one behind the other are read by two readers one behind the other. All round trips
of messages are built from this. -/
theorem Reads.bind {first : StreamReader β α} {next : α → StreamReader β γ} {front back : List β}
    {middle : α} {value : γ} (hFirst : first.Reads front middle)
    (hNext : (next middle).Reads back value) : (first >>= next).Reads (front ++ back) value := by
  intro tail
  rw [List.append_assoc, run_bind, hFirst, Option.bind_some]
  exact hNext tail

/-- A first step that reads nothing. -/
theorem Reads.bind_nil {first : StreamReader β α} {next : α → StreamReader β γ} {back : List β}
    {middle : α} {value : γ} (hFirst : first.Reads [] middle)
    (hNext : (next middle).Reads back value) : (first >>= next).Reads back value :=
  hFirst.bind hNext

/-- A last step that reads nothing. -/
theorem Reads.bind_pure {first : StreamReader β α} {next : α → StreamReader β γ} {front : List β}
    {middle : α} {value : γ} (hFirst : first.Reads front middle)
    (hNext : (next middle).Reads [] value) : (first >>= next).Reads front value := by
  rw [← List.append_nil front]
  exact hFirst.bind hNext

/-- What is read does not depend on what is left. -/
def Local (reader : StreamReader β α) : Prop :=
  ∀ stream value rest, reader.run stream = some (value, rest) →
    ∃ front, stream = front ++ rest ∧ reader.Reads front value

theorem local_pure (value : α) : (pure value : StreamReader β α).Local := by
  intro stream result rest h
  obtain ⟨rfl, rfl⟩ := Prod.mk.inj (Option.some.inj h)
  exact ⟨[], rfl, reads_pure value⟩

/-- A reader that always fails looks at nothing. -/
theorem local_fail : (fail : StreamReader β α).Local := fun _ _ _ h => nomatch h

/-- One item, and nothing behind it. -/
theorem local_item : (item : StreamReader β β).Local := by
  intro stream value rest h
  cases stream with
  | nil => cases h
  | cons first others =>
      obtain ⟨rfl, rfl⟩ := Prod.mk.inj (Option.some.inj h)
      exact ⟨[first], rfl, reads_item first⟩

/-- By induction on the number of items. -/
theorem local_items (count : ℕ) : (items count : StreamReader β (List β)).Local := by
  intro stream value rest h
  rw [run, items] at h
  split at h
  · cases h
  · obtain ⟨rfl, rfl⟩ := Prod.mk.inj (Option.some.inj h)
    have hLength : (stream.take count).length = count := by
      rw [List.length_take]
      omega
    have hReads := reads_items (stream.take count)
    rw [hLength] at hReads
    exact ⟨stream.take count, (List.take_append_drop count stream).symm, hReads⟩

theorem local_ensure (p : Prop) [Decidable p] : (ensure p : StreamReader β Unit).Local := by
  unfold ensure
  split
  · exact local_pure ()
  · exact local_fail

/-- A loop is local since every round looks at its item only. The induction is on the stream. -/
theorem local_loop (round : σ → β → Option (Round σ α)) (state : σ) :
    (loop round state).Local := by
  intro stream value rest h
  induction stream generalizing state with
  | nil => cases h
  | cons first others ih =>
      rcases hRound : round state first with _ | next | result
      · rw [run, loop, hRound] at h
        cases h
      · rw [run_loop_again hRound] at h
        obtain ⟨front, rfl, hReads⟩ := ih next h
        exact ⟨first :: front, rfl, reads_loop_again hRound hReads⟩
      · rw [run_loop_done hRound] at h
        obtain ⟨rfl, rfl⟩ := Prod.mk.inj (Option.some.inj h)
        exact ⟨[first], rfl, reads_loop_done hRound⟩

/-- The second reader looks at what the first one has left, which is part of the stream. -/
theorem Local.bind {first : StreamReader β α} {next : α → StreamReader β γ} (hFirst : first.Local)
    (hNext : ∀ middle, (next middle).Local) : (first >>= next).Local := by
  intro stream value rest h
  obtain ⟨middle, left, hRun, hRest⟩ := run_bind_eq_some h
  obtain ⟨front, rfl, hFront⟩ := hFirst stream middle left hRun
  obtain ⟨back, rfl, hBack⟩ := hNext middle left value rest hRest
  exact ⟨front ++ back, (List.append_assoc front back rest).symm, hFront.bind hBack⟩

/-- A local reader does not put anything back. -/
theorem Local.length_le {reader : StreamReader β α} (hLocal : reader.Local)
    {stream rest : List β} {value : α} (h : reader.run stream = some (value, rest)) :
    rest.length ≤ stream.length := by
  obtain ⟨front, rfl, -⟩ := hLocal stream value rest h
  rw [List.length_append]
  omega

end StreamReader

end EverestCore
