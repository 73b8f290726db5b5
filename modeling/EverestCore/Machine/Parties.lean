import EverestCore.Machine.Runs
import Mathlib.Data.List.Perm.Basic

/-! Parties that take turns in any order. Each has a state of its own, and all of
them read and write one shared state. -/
namespace EverestCore.Machine

universe u v w

structure Parties (Shared : Type u) (Party : Type v) where
  shared : Shared
  parties : List Party

namespace Parties

variable {Shared : Type u} {Party : Type v} {Move : Type w}

def others (i : ℕ) (s : Parties Shared Party) : List Party := s.parties.eraseIdx i

/-- A new party comes in. -/
def join (party : Party) (s : Parties Shared Party) : Parties Shared Party :=
  { s with parties := s.parties ++ [party] }

/-- One party makes a move. A party that is not there makes none. -/
def turn (act : Shared → Party → Move → Shared × Party) (i : ℕ) (move : Move)
    (s : Parties Shared Party) : Parties Shared Party :=
  match s.parties[i]? with
  | none => s
  | some party =>
      let (shared, party) := act s.shared party move
      ⟨shared, s.parties.set i party⟩

theorem turn_of_none {act : Shared → Party → Move → Shared × Party} {i : ℕ} {move : Move}
    {s : Parties Shared Party} (h : s.parties[i]? = none) : s.turn act i move = s := by
  rw [turn, h]

theorem turn_of_some {act : Shared → Party → Move → Shared × Party} {i : ℕ} {move : Move}
    {s : Parties Shared Party} {party : Party} (h : s.parties[i]? = some party) :
    s.turn act i move =
      ⟨(act s.shared party move).1, s.parties.set i (act s.shared party move).2⟩ := by
  rw [turn, h]

theorem shared_turn {act : Shared → Party → Move → Shared × Party} {i : ℕ} {move : Move}
    {s : Parties Shared Party} {party : Party} (h : s.parties[i]? = some party) :
    (s.turn act i move).shared = (act s.shared party move).1 := by
  rw [turn_of_some h]

/-- The invariant rule for a turn: only the turn of a party that is there has to be looked
at. -/
theorem turn_invariant {act : Shared → Party → Move → Shared × Party} {i : ℕ} {move : Move}
    {s : Parties Shared Party} (inv : Parties Shared Party → Prop) (h : inv s)
    (hMove : ∀ party, s.parties[i]? = some party → inv (s.turn act i move)) :
    inv (s.turn act i move) := by
  cases hParty : s.parties[i]? with
  | none =>
      rw [turn_of_none hParty]
      exact h
  | some party => exact hMove party hParty

/-- The party that came last makes a move. -/
theorem turn_last (act : Shared → Party → Move → Shared × Party) (shared : Shared)
    (before : List Party) (party : Party) (move : Move) :
    (Parties.mk shared (before ++ [party])).turn act before.length move =
      ⟨(act shared party move).1, before ++ [(act shared party move).2]⟩ := by
  rw [turn_of_some List.getElem?_concat_length, List.set_append_right _ _ (Nat.le_refl _),
    Nat.sub_self, List.set_cons_zero]

theorem others_last (shared : Shared) (before : List Party) (party : Party) :
    (Parties.mk shared (before ++ [party])).others before.length = before := by
  rw [others, List.eraseIdx_append_of_length_le (Nat.le_refl _), Nat.sub_self,
    List.eraseIdx_cons_zero, List.append_nil]

/-- What holds of every party holds after one has come in if it holds of that one. -/
theorem forall_join {s : Parties Shared Party} {party : Party} {ok : Party → Prop}
    (h : ∀ other ∈ s.parties, ok other) (hParty : ok party) :
    ∀ other ∈ (s.join party).parties, ok other := by
  intro other hOther
  rcases List.mem_append.mp hOther with hBefore | hNew
  · exact h other hBefore
  · rw [List.mem_singleton.mp hNew]
    exact hParty

/-- What holds of every party holds after a turn if it holds of the one whose turn it
was. -/
theorem forall_turn {act : Shared → Party → Move → Shared × Party} {i : ℕ} {move : Move}
    {s : Parties Shared Party} {ok : Party → Prop} (h : ∀ party ∈ s.parties, ok party)
    (hMove : ∀ party, s.parties[i]? = some party → ok (act s.shared party move).2) :
    ∀ party ∈ (s.turn act i move).parties, ok party := by
  apply turn_invariant (fun s => ∀ party ∈ s.parties, ok party) h
  intro party hParty
  rw [turn_of_some hParty]
  intro other hOther
  rcases List.mem_or_eq_of_mem_set hOther with hBefore | hEq
  · exact h other hBefore
  · rw [hEq]
    exact hMove party hParty

/-- A party that its own moves leave in a state is found in it after every turn. -/
theorem exists_turn {act : Shared → Party → Move → Shared × Party} {i : ℕ} {move : Move}
    {s : Parties Shared Party} {ok : Party → Prop} (h : ∃ party ∈ s.parties, ok party)
    (hMove : ∀ party, s.parties[i]? = some party → ok party → ok (act s.shared party move).2) :
    ∃ party ∈ (s.turn act i move).parties, ok party := by
  obtain ⟨party, hMem, hOk⟩ := h
  cases hParty : s.parties[i]? with
  | none =>
      rw [turn_of_none hParty]
      exact ⟨party, hMem, hOk⟩
  | some moved =>
      rw [turn_of_some hParty]
      obtain ⟨j, hBound, hEq⟩ := List.mem_iff_getElem.mp hMem
      by_cases hSame : i = j
      · subst hSame
        have hMoved := hParty
        rw [List.getElem?_eq_getElem hBound, hEq] at hMoved
        cases hMoved
        exact ⟨_, List.mem_set hBound _, hMove party hParty hOk⟩
      · refine ⟨party, ?_, hOk⟩
        rw [List.mem_iff_getElem]
        refine ⟨j, by rwa [List.length_set], ?_⟩
        rw [List.getElem_set_ne hSame, hEq]

/-- A party that differs from the one whose turn it is is one of the others. -/
theorem mem_others {i : ℕ} {s : Parties Shared Party} {party other : Party}
    (h : s.parties[i]? = some party) (hOther : other ∈ s.parties) (hNe : other ≠ party) :
    other ∈ s.others i := by
  obtain ⟨hBound, hParty⟩ := List.getElem?_eq_some_iff.mp h
  have hMem := (List.getElem_cons_eraseIdx_perm hBound).mem_iff.mpr hOther
  rw [hParty] at hMem
  exact (List.mem_cons.mp hMem).resolve_left hNe

theorem mem_of_mem_others {i : ℕ} {s : Parties Shared Party} {other : Party}
    (h : other ∈ s.others i) : other ∈ s.parties :=
  List.mem_of_mem_eraseIdx h

/-- After a turn there are the others and the one whose turn it was. -/
theorem mem_turn {act : Shared → Party → Move → Shared × Party} {i : ℕ} {move : Move}
    {s : Parties Shared Party} {party other : Party} (h : s.parties[i]? = some party) :
    other ∈ (s.turn act i move).parties ↔
      other = (act s.shared party move).2 ∨ other ∈ s.others i := by
  obtain ⟨hBound, -⟩ := List.getElem?_eq_some_iff.mp h
  have hNext : i < (s.parties.set i (act s.shared party move).2).length := by
    rwa [List.length_set]
  rw [turn_of_some h, ← (List.getElem_cons_eraseIdx_perm hNext).mem_iff, List.mem_cons,
    List.getElem_set_self, List.eraseIdx_set_eq, others]

/-- At most one party is in a state of this kind. -/
def Exclusive (holds : Party → Bool) (s : Parties Shared Party) : Prop :=
  s.parties.countP holds ≤ 1

instance (holds : Party → Bool) (s : Parties Shared Party) : Decidable (s.Exclusive holds) :=
  inferInstanceAs (Decidable (_ ≤ _))

theorem countP_parties {holds : Party → Bool} {i : ℕ} {s : Parties Shared Party} {party : Party}
    (h : s.parties[i]? = some party) :
    s.parties.countP holds = (s.others i).countP holds + if holds party then 1 else 0 := by
  obtain ⟨hBound, hParty⟩ := List.getElem?_eq_some_iff.mp h
  have hPerm := (List.getElem_cons_eraseIdx_perm hBound).countP_eq holds
  rw [← hPerm, hParty, List.countP_cons, others]

/-- A party that holds is the only one. -/
theorem Exclusive.others_eq_false {holds : Party → Bool} {i : ℕ} {s : Parties Shared Party}
    {party : Party} (h : s.Exclusive holds) (hParty : s.parties[i]? = some party)
    (hHolds : holds party = true) : ∀ other ∈ s.others i, holds other = false := by
  intro other hOther
  rw [Exclusive, countP_parties hParty, if_pos hHolds] at h
  have hNone : (s.others i).countP holds = 0 := by omega
  have hNot := List.countP_eq_zero.mp hNone other hOther
  rwa [Bool.not_eq_true] at hNot

/-- What is at most as much as an exclusive state is exclusive. -/
theorem Exclusive.mono {holds holds' : Party → Bool} {s : Parties Shared Party}
    (h : s.Exclusive holds) (hMono : ∀ party, holds' party = true → holds party = true) :
    s.Exclusive holds' :=
  (List.countP_mono_left fun party _ => hMono party).trans h

theorem Exclusive.join {holds : Party → Bool} {s : Parties Shared Party} {party : Party}
    (h : s.Exclusive holds) (hParty : holds party = false) : (s.join party).Exclusive holds := by
  rw [Exclusive, Parties.join, List.countP_append, List.countP_singleton, hParty]
  exact h

/-- The rule of mutual exclusion: a party comes to hold only while no other one
does. -/
theorem Exclusive.turn {act : Shared → Party → Move → Shared × Party} {holds : Party → Bool}
    {i : ℕ} {move : Move} {s : Parties Shared Party} (h : s.Exclusive holds)
    (hGain : ∀ party, s.parties[i]? = some party → holds (act s.shared party move).2 = true →
      holds party = true ∨ ∀ other ∈ s.others i, holds other = false) :
    (s.turn act i move).Exclusive holds := by
  apply turn_invariant (Exclusive holds) h
  intro party hParty
  obtain ⟨hBound, hEq⟩ := List.getElem?_eq_some_iff.mp hParty
  rw [turn_of_some hParty]
  have hNext : (Parties.mk (act s.shared party move).1
      (s.parties.set i (act s.shared party move).2)).parties[i]? =
      some (act s.shared party move).2 := by
    rw [List.getElem?_set_self hBound]
  rw [Exclusive, countP_parties hNext, others, List.eraseIdx_set_eq]
  by_cases hHolds : holds (act s.shared party move).2 = true
  · have hOthers : ∀ other ∈ s.others i, holds other = false := by
      rcases hGain party hParty hHolds with hBefore | hFree
      · exact h.others_eq_false hParty hBefore
      · exact hFree
    have hNone : (s.parties.eraseIdx i).countP holds = 0 := by
      rw [List.countP_eq_zero]
      intro other hOther
      rw [hOthers other hOther]
      exact Bool.false_ne_true
    rw [hNone, if_pos hHolds]
  · rw [if_neg hHolds]
    rw [Exclusive, countP_parties hParty, others] at h
    omega

/-- A flag keeps the parties apart: at most one holds, and none while the flag is not
set. -/
structure Locked (holds : Party → Bool) (isSet : Shared → Bool) (s : Parties Shared Party) :
    Prop where
  exclusive : s.Exclusive holds
  free : isSet s.shared = false → ∀ party ∈ s.parties, holds party = false

theorem Locked.join {holds : Party → Bool} {isSet : Shared → Bool} {s : Parties Shared Party}
    {party : Party} (h : s.Locked holds isSet) (hParty : holds party = false) :
    (s.join party).Locked holds isSet :=
  ⟨h.exclusive.join hParty, fun hFree => forall_join (h.free hFree) hParty⟩

/-- A party comes to hold while the flag is not set, and only the one that holds resets
it. -/
theorem Locked.turn {act : Shared → Party → Move → Shared × Party} {holds : Party → Bool}
    {isSet : Shared → Bool} {i : ℕ} {move : Move} {s : Parties Shared Party}
    (h : s.Locked holds isSet)
    (hGain : ∀ party, s.parties[i]? = some party → holds party = false →
      holds (act s.shared party move).2 = true → isSet s.shared = false)
    (hReset : ∀ party, s.parties[i]? = some party → (holds party = true → isSet s.shared = true) →
      isSet (act s.shared party move).1 = false →
      holds (act s.shared party move).2 = false ∧ (isSet s.shared = true → holds party = true)) :
    (s.turn act i move).Locked holds isSet := by
  constructor
  · apply h.exclusive.turn
    intro party hParty hHolds
    cases hBefore : holds party with
    | true => exact .inl rfl
    | false =>
        right
        intro other hOther
        exact h.free (hGain party hParty hBefore hHolds) other (mem_of_mem_others hOther)
  · intro hFree
    cases hParty : s.parties[i]? with
    | none =>
        rw [turn_of_none hParty] at hFree ⊢
        exact h.free hFree
    | some party =>
        rw [shared_turn hParty] at hFree
        have hHolder : holds party = true → isSet s.shared = true := by
          intro hHolds
          by_contra hNot
          rw [h.free (Bool.not_eq_true _ ▸ hNot) party (List.mem_of_getElem? hParty)] at hHolds
          cases hHolds
        obtain ⟨hMoved, hOwner⟩ := hReset party hParty hHolder hFree
        intro other hOther
        rcases (mem_turn hParty).mp hOther with rfl | hOther
        · exact hMoved
        · cases hSet : isSet s.shared with
          | true => exact h.exclusive.others_eq_false hParty (hOwner hSet) other hOther
          | false => exact h.free hSet other (mem_of_mem_others hOther)

/-- What is kept in the shared state counts like a party: there is at most one, among the
parties and what is kept together. -/
def Sole (holds : Party → Bool) (kept : Shared → ℕ) (s : Parties Shared Party) : Prop :=
  s.parties.countP holds + kept s.shared ≤ 1

theorem Sole.others {holds : Party → Bool} {kept : Shared → ℕ} {i : ℕ}
    {s : Parties Shared Party} {party : Party} (h : s.Sole holds kept)
    (hParty : s.parties[i]? = some party) (hHolds : holds party = true) :
    (∀ other ∈ s.others i, holds other = false) ∧ kept s.shared = 0 := by
  have hExclusive : s.Exclusive holds := (Nat.le_add_right _ _).trans h
  refine ⟨hExclusive.others_eq_false hParty hHolds, ?_⟩
  rw [Sole, countP_parties hParty, if_pos hHolds] at h
  omega

/-- A party hands over what it holds, to itself, to newcomers or to the shared state. -/
theorem Sole.handOver {holds : Party → Bool} {kept : Shared → ℕ} {i : ℕ}
    {s : Parties Shared Party} {party moved : Party} {shared : Shared} {newcomers : List Party}
    (h : s.Sole holds kept) (hParty : s.parties[i]? = some party)
    (hCount : (moved :: newcomers).countP holds + kept shared ≤
      [party].countP holds + kept s.shared) :
    Sole holds kept ⟨shared, s.parties.set i moved ++ newcomers⟩ := by
  obtain ⟨hBound, -⟩ := List.getElem?_eq_some_iff.mp hParty
  have hNext : (Parties.mk shared (s.parties.set i moved)).parties[i]? = some moved :=
    List.getElem?_set_self hBound
  have hMoved := @countP_parties _ _ holds _ _ _ hNext
  rw [Parties.others, List.eraseIdx_set_eq] at hMoved
  rw [Sole, countP_parties hParty, Parties.others] at h
  rw [List.countP_cons, List.countP_singleton] at hCount
  rw [Sole, List.countP_append]
  dsimp only at hMoved ⊢
  omega

end Parties

end EverestCore.Machine
