import Mathlib.Data.Finset.Dedup
import Mathlib.Data.Finset.Basic
import Mathlib.Data.Finset.Lattice.Lemmas

/-! What a thread holds after a sequence of operations on mutexes. A mutex that is locked
twice, or unlocked without having been locked, makes the sequence invalid. -/
namespace EverestCore.Machine

universe u

inductive MutexOperation (Mutex : Type u) where
  | lock (mutex : Mutex)
  | unlock (mutex : Mutex)
  deriving DecidableEq, Repr

variable {Mutex : Type u} [DecidableEq Mutex]

def MutexOperation.perform (held : Finset Mutex) : MutexOperation Mutex → Option (Finset Mutex)
  | .lock mutex => if mutex ∈ held then none else some (insert mutex held)
  | .unlock mutex => if mutex ∈ held then some (held.erase mutex) else none

/-- The mutexes held after the operations, if these are valid. -/
def heldAfter (held : Finset Mutex) (operations : List (MutexOperation Mutex)) :
    Option (Finset Mutex) :=
  operations.foldlM MutexOperation.perform held

theorem heldAfter_cons (held : Finset Mutex) (operation : MutexOperation Mutex)
    (operations : List (MutexOperation Mutex)) :
    heldAfter held (operation :: operations) =
      (operation.perform held).bind fun next => heldAfter next operations := rfl

theorem heldAfter_append (held : Finset Mutex) (first second : List (MutexOperation Mutex)) :
    heldAfter held (first ++ second) =
      (heldAfter held first).bind fun next => heldAfter next second :=
  List.foldlM_append

/-- A list of mutexes can be locked if its entries are distinct and not held yet. -/
theorem heldAfter_lock_iff {held held' : Finset Mutex} {mutexes : List Mutex} :
    heldAfter held (mutexes.map .lock) = some held' ↔
      mutexes.Nodup ∧ (∀ mutex ∈ mutexes, mutex ∉ held) ∧ held' = held ∪ mutexes.toFinset := by
  induction mutexes generalizing held with
  | nil => simp [heldAfter, eq_comm]
  | cons mutex mutexes ih =>
      rw [List.map_cons, heldAfter_cons, MutexOperation.perform]
      by_cases hHeld : mutex ∈ held
      · simp [hHeld]
      · rw [if_neg hHeld, Option.bind_some, ih]
        have hUnion : insert mutex held ∪ mutexes.toFinset = held ∪ insert mutex mutexes.toFinset := by
          rw [Finset.insert_union, Finset.union_insert]
        simp only [List.nodup_cons, List.forall_mem_cons, List.toFinset_cons, Finset.mem_insert,
          not_or, hUnion]
        constructor
        · rintro ⟨hNodup, hFree, hNext⟩
          exact ⟨⟨fun hMem => (hFree mutex hMem).1 rfl, hNodup⟩,
            ⟨hHeld, fun other hOther => (hFree other hOther).2⟩, hNext⟩
        · rintro ⟨⟨hNot, hNodup⟩, ⟨-, hFree⟩, hNext⟩
          exact ⟨hNodup, fun other hOther =>
            ⟨ne_of_mem_of_not_mem hOther hNot, hFree other hOther⟩, hNext⟩

/-- A list of mutexes can be unlocked if its entries are distinct and held. -/
theorem heldAfter_unlock_iff {held held' : Finset Mutex} {mutexes : List Mutex} :
    heldAfter held (mutexes.map .unlock) = some held' ↔
      mutexes.Nodup ∧ (∀ mutex ∈ mutexes, mutex ∈ held) ∧ held' = held \ mutexes.toFinset := by
  induction mutexes generalizing held with
  | nil => simp [heldAfter, eq_comm]
  | cons mutex mutexes ih =>
      rw [List.map_cons, heldAfter_cons, MutexOperation.perform]
      by_cases hHeld : mutex ∈ held
      · rw [if_pos hHeld, Option.bind_some, ih]
        have hMinus : held.erase mutex \ mutexes.toFinset = held \ insert mutex mutexes.toFinset := by
          rw [Finset.erase_sdiff_comm, ← Finset.sdiff_insert]
        simp only [List.nodup_cons, List.forall_mem_cons, List.toFinset_cons, Finset.mem_erase, hMinus]
        constructor
        · rintro ⟨hNodup, hAll, hNext⟩
          exact ⟨⟨fun hMem => (hAll mutex hMem).1 rfl, hNodup⟩,
            ⟨hHeld, fun other hOther => (hAll other hOther).2⟩, hNext⟩
        · rintro ⟨⟨hNot, hNodup⟩, ⟨-, hAll⟩, hNext⟩
          exact ⟨hNodup, fun other hOther =>
            ⟨ne_of_mem_of_not_mem hOther hNot, hAll other hOther⟩, hNext⟩
      · simp [hHeld]

/-- What is locked from a list is all released by a list exactly if that is the same up
to order. -/
theorem heldAfter_unlock_eq_empty_iff {locked mutexes : List Mutex} (hLocked : locked.Nodup) :
    heldAfter locked.toFinset (mutexes.map .unlock) = some ∅ ↔ mutexes.Perm locked := by
  rw [heldAfter_unlock_iff]
  constructor
  · rintro ⟨hNodup, hAll, hNone⟩
    apply List.perm_of_nodup_nodup_toFinset_eq hNodup hLocked
    apply Finset.Subset.antisymm
    · intro mutex hMem
      exact hAll mutex (List.mem_toFinset.mp hMem)
    · exact Finset.sdiff_eq_empty_iff_subset.mp hNone.symm
  · intro hPerm
    refine ⟨hPerm.nodup_iff.mpr hLocked, ?_, ?_⟩
    · intro mutex hMem
      exact List.mem_toFinset.mpr (hPerm.mem_iff.mp hMem)
    · rw [List.toFinset_eq_of_perm _ _ hPerm, Finset.sdiff_self]

end EverestCore.Machine
