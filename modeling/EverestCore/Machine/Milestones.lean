import Mathlib.Data.List.Forall2
import Mathlib.Data.List.DropRight

/-! Milestones of a trace: entries of given kinds that stand in it in a given
order, with anything between them. -/
namespace EverestCore.Machine
open scoped List

universe u

variable {Entry : Type u}

/-- The trace has an entry for each of the milestones, in their order. -/
def InOrder (milestones : List (Entry → Bool)) (trace : List Entry) : Prop :=
  ∃ entries, entries <+ trace ∧
    List.Forall₂ (fun milestone entry => milestone entry = true) milestones entries

variable {milestones : List (Entry → Bool)} {milestone : Entry → Bool} {trace : List Entry}
  {entry : Entry}

/-- Without milestones nothing has to be there. -/
theorem inOrder_nil (trace : List Entry) : InOrder [] trace :=
  ⟨[], List.nil_sublist _, List.Forall₂.nil⟩

/-- An empty trace reaches no milestone. -/
theorem not_inOrder_nil : ¬ InOrder (milestone :: milestones) ([] : List Entry) := by
  rintro ⟨entries, hSublist, hMeets⟩
  rw [List.sublist_nil.mp hSublist] at hMeets
  cases hMeets

/-- What has been reached stays reached when the trace grows. -/
theorem InOrder.append (h : InOrder milestones trace) (rest : List Entry) :
    InOrder milestones (trace ++ rest) := by
  obtain ⟨entries, hSublist, hMeets⟩ := h
  exact ⟨entries, hSublist.trans (List.sublist_append_left _ _), hMeets⟩

/-- One more milestone is reached by the last entry. -/
theorem InOrder.snoc (h : InOrder milestones trace) (hEntry : milestone entry = true) :
    InOrder (milestones ++ [milestone]) (trace ++ [entry]) := by
  obtain ⟨entries, hSublist, hMeets⟩ := h
  refine ⟨entries ++ [entry], hSublist.append (List.Sublist.refl _), ?_⟩
  exact List.rel_append hMeets (List.Forall₂.cons hEntry List.Forall₂.nil)

/-- A trace that reaches all milestones reaches the first of them. -/
theorem InOrder.take (h : InOrder milestones trace) (count : ℕ) :
    InOrder (milestones.take count) trace := by
  obtain ⟨entries, hSublist, hMeets⟩ := h
  exact ⟨entries.take count, (List.take_sublist _ _).trans hSublist, List.forall₂_take count hMeets⟩

/-- The first entry is the one for the first milestone, or it can be left out. -/
theorem inOrder_cons_cons :
    InOrder (milestone :: milestones) (entry :: trace) ↔
      (milestone entry = true ∧ InOrder milestones trace) ∨
        InOrder (milestone :: milestones) trace := by
  constructor
  · rintro ⟨entries, hSublist, hMeets⟩
    cases hSublist with
    | cons _ hRest => exact Or.inr ⟨entries, hRest, hMeets⟩
    | cons_cons _ hRest =>
        obtain ⟨hFirst, hOthers⟩ := List.forall₂_cons.mp hMeets
        exact Or.inl ⟨hFirst, _, hRest, hOthers⟩
  · rintro (⟨hFirst, entries, hSublist, hMeets⟩ | ⟨entries, hSublist, hMeets⟩)
    · exact ⟨entry :: entries, hSublist.cons_cons entry, List.Forall₂.cons hFirst hMeets⟩
    · exact ⟨entries, hSublist.cons entry, hMeets⟩

/-- Milestones are looked for one after the other. -/
def decidableInOrder : (milestones : List (Entry → Bool)) → (trace : List Entry) →
    Decidable (InOrder milestones trace)
  | [], trace => isTrue (inOrder_nil trace)
  | _ :: _, [] => isFalse not_inOrder_nil
  | milestone :: milestones, _ :: trace =>
      have := decidableInOrder milestones trace
      have := decidableInOrder (milestone :: milestones) trace
      decidable_of_iff _ inOrder_cons_cons.symm

instance (milestones : List (Entry → Bool)) (trace : List Entry) :
    Decidable (InOrder milestones trace) := decidableInOrder milestones trace

/-- The part of a trace behind its last `mark`. -/
def sinceLast (mark : Entry → Bool) (trace : List Entry) : List Entry :=
  trace.rtakeWhile fun entry => !mark entry

/-- A mark at the end empties what is behind the last one. Any other entry is added to it. -/
theorem sinceLast_snoc (mark : Entry → Bool) (trace : List Entry) (entry : Entry) :
    sinceLast mark (trace ++ [entry]) =
      if mark entry then [] else sinceLast mark trace ++ [entry] := by
  unfold sinceLast
  rw [List.rtakeWhile_concat]
  cases mark entry <;> rfl

/-- Something began in the trace, nothing behind its last beginning spoils it, and the
milestones are reached behind it. -/
def InOrderSince (begins spoils : Entry → Bool) (milestones : List (Entry → Bool))
    (trace : List Entry) : Prop :=
  ∃ before entry after, trace = before ++ entry :: after ∧ begins entry = true ∧
    (∀ other ∈ after, begins other = false ∧ spoils other = false) ∧ InOrder milestones after

variable {begins spoils : Entry → Bool}

/-- At a beginning no milestone is needed yet. -/
theorem inOrderSince_begin (trace : List Entry) (hBegins : begins entry = true) :
    InOrderSince begins spoils [] (trace ++ [entry]) :=
  ⟨trace, entry, [], rfl, hBegins, by simp, inOrder_nil _⟩

/-- Milestones that are reached stay so, if nothing begins again or spoils them. -/
theorem InOrderSince.append (h : InOrderSince begins spoils milestones trace) {rest : List Entry}
    (hRest : ∀ other ∈ rest, begins other = false ∧ spoils other = false) :
    InOrderSince begins spoils milestones (trace ++ rest) := by
  obtain ⟨before, first, after, rfl, hBegins, hAfter, hInOrder⟩ := h
  refine ⟨before, first, after ++ rest, by simp, hBegins, ?_, hInOrder.append rest⟩
  rw [List.forall_mem_append]
  exact ⟨hAfter, hRest⟩

/-- One more milestone is reached by an entry that meets it. -/
theorem InOrderSince.snoc (h : InOrderSince begins spoils milestones trace)
    (hEntry : milestone entry = true) (hBegins : begins entry = false)
    (hSpoils : spoils entry = false) :
    InOrderSince begins spoils (milestones ++ [milestone]) (trace ++ [entry]) := by
  obtain ⟨before, first, after, rfl, hFirst, hAfter, hInOrder⟩ := h
  refine ⟨before, first, after ++ [entry], by simp, hFirst, ?_, hInOrder.snoc hEntry⟩
  rw [List.forall_mem_append, List.forall_mem_singleton]
  exact ⟨hAfter, hBegins, hSpoils⟩

end EverestCore.Machine
