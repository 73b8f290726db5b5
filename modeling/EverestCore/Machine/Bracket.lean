import Mathlib.Data.List.Count
import Mathlib.Data.List.Infix
import Mathlib.Data.Int.Order.Basic

/-! Traces in which two kinds of bracket are opened and closed in turn, one
kind inside the other. Every condition is put on all prefixes of the trace, so
a trace that breaks it cannot be repaired by what follows. -/
namespace EverestCore.Machine

universe u

variable {Symbol : Type u} [DecidableEq Symbol]

/-- The two marks of one kind of bracket among the symbols of a trace. -/
structure Bracket (Symbol : Type u) where
  opening : Symbol
  closing : Symbol

/-- How many brackets of this kind the trace leaves open. -/
def Bracket.depth (b : Bracket Symbol) (trace : List Symbol) : ℤ :=
  trace.count b.opening - trace.count b.closing

/-- Opening and closing marks strictly alternate, beginning with an opening. -/
def Bracket.Alternates (b : Bracket Symbol) (trace : List Symbol) : Prop :=
  ∀ start, start <+: trace → 0 ≤ b.depth start ∧ b.depth start ≤ 1

/-- Wherever an inner bracket is open, an outer one is. An outer bracket is
therefore neither missing when an inner one opens nor closed around it. -/
def Bracket.Inside (inner outer : Bracket Symbol) (trace : List Symbol) : Prop :=
  ∀ start, start <+: trace → inner.depth start ≤ outer.depth start

instance (b : Bracket Symbol) (trace : List Symbol) : Decidable (b.Alternates trace) :=
  decidable_of_iff (∀ start ∈ trace.inits, 0 ≤ b.depth start ∧ b.depth start ≤ 1)
    (by simp only [List.mem_inits, Bracket.Alternates])

/-- Both kinds alternate, and each inner pair lies inside one outer pair. -/
structure WellBracketed (outer inner : Bracket Symbol) (trace : List Symbol) : Prop where
  outer_alternates : outer.Alternates trace
  inner_alternates : inner.Alternates trace
  inside : inner.Inside outer trace

/-- What the definition asks of one single prefix. -/
def Nested (outer inner : Bracket Symbol) (trace : List Symbol) : Prop :=
  0 ≤ inner.depth trace ∧ inner.depth trace ≤ outer.depth trace ∧ outer.depth trace ≤ 1

/-- A trace is well bracketed if each of its starts is nested. -/
theorem wellBracketed_iff {outer inner : Bracket Symbol} {trace : List Symbol} :
    WellBracketed outer inner trace ↔ ∀ start, start <+: trace → Nested outer inner start := by
  constructor
  · intro h start hStart
    exact ⟨(h.inner_alternates start hStart).1, h.inside start hStart,
      (h.outer_alternates start hStart).2⟩
  · intro h
    refine ⟨fun start hStart => ?_, fun start hStart => ?_, fun start hStart => (h start hStart).2.1⟩
    · obtain ⟨hInner, hInside, hOuter⟩ := h start hStart
      exact ⟨hInner.trans hInside, hOuter⟩
    · obtain ⟨hInner, hInside, hOuter⟩ := h start hStart
      exact ⟨hInner, hInside.trans hOuter⟩

instance (outer inner : Bracket Symbol) (trace : List Symbol) :
    Decidable (Nested outer inner trace) :=
  inferInstanceAs (Decidable (_ ∧ _ ∧ _))

instance (outer inner : Bracket Symbol) (trace : List Symbol) :
    Decidable (WellBracketed outer inner trace) :=
  decidable_of_iff (∀ start ∈ trace.inits, Nested outer inner start)
    (by simp only [List.mem_inits, wellBracketed_iff])

/-- A trace that is well bracketed is nested at its end. -/
theorem WellBracketed.nested {outer inner : Bracket Symbol} {trace : List Symbol}
    (h : WellBracketed outer inner trace) : Nested outer inner trace :=
  wellBracketed_iff.mp h trace (List.prefix_refl _)

/-- The empty trace is well bracketed. -/
theorem wellBracketed_nil (outer inner : Bracket Symbol) : WellBracketed outer inner [] := by
  rw [wellBracketed_iff]
  intro start hStart
  rw [List.prefix_nil.mp hStart]
  simp [Nested, Bracket.depth]

/-- One more symbol has to leave the trace nested. -/
theorem wellBracketed_snoc {outer inner : Bracket Symbol} {trace : List Symbol} {last : Symbol} :
    WellBracketed outer inner (trace ++ [last]) ↔
      WellBracketed outer inner trace ∧ Nested outer inner (trace ++ [last]) := by
  constructor
  · intro h
    refine ⟨wellBracketed_iff.mpr fun start hStart => ?_, h.nested⟩
    exact wellBracketed_iff.mp h start (hStart.trans (List.prefix_append _ _))
  · rintro ⟨hTrace, hLast⟩
    rw [wellBracketed_iff]
    intro start hStart
    rcases List.prefix_concat_iff.mp hStart with rfl | hPrefix
    · exact hLast
    · exact wellBracketed_iff.mp hTrace start hPrefix

/-- A prefix of a well-bracketed trace is one. -/
theorem WellBracketed.of_append {outer inner : Bracket Symbol} {trace rest : List Symbol}
    (h : WellBracketed outer inner (trace ++ rest)) : WellBracketed outer inner trace := by
  rw [wellBracketed_iff]
  intro start hStart
  exact wellBracketed_iff.mp h start (hStart.trans (List.prefix_append _ _))

/-- An opening symbol at the end adds one to the depth, a closing one takes one away. -/
theorem Bracket.depth_snoc (b : Bracket Symbol) (trace : List Symbol) (last : Symbol) :
    b.depth (trace ++ [last]) =
      b.depth trace + (if last = b.opening then 1 else 0) - (if last = b.closing then 1 else 0) := by
  simp only [Bracket.depth, List.count_append, List.count_singleton, beq_iff_eq]
  split_ifs <;> push_cast <;> omega

/-- The depth does not depend on the other symbols. -/
theorem Bracket.depth_filter (b : Bracket Symbol) (keep : Symbol → Bool)
    (hOpening : keep b.opening = true) (hClosing : keep b.closing = true) (trace : List Symbol) :
    b.depth (trace.filter keep) = b.depth trace := by
  rw [Bracket.depth, Bracket.depth, List.count_filter hOpening, List.count_filter hClosing]

/-- Symbols that are no marks of either kind can be left out. -/
theorem wellBracketed_filter {outer inner : Bracket Symbol} (keep : Symbol → Bool)
    (hOuter : keep outer.opening = true ∧ keep outer.closing = true)
    (hInner : keep inner.opening = true ∧ keep inner.closing = true) (trace : List Symbol) :
    WellBracketed outer inner (trace.filter keep) ↔ WellBracketed outer inner trace := by
  have hNested (t : List Symbol) : Nested outer inner (t.filter keep) ↔ Nested outer inner t := by
    rw [Nested, Nested, outer.depth_filter keep hOuter.1 hOuter.2,
      inner.depth_filter keep hInner.1 hInner.2]
  induction trace using List.reverseRecOn with
  | nil => exact Iff.rfl
  | append_singleton trace last ih =>
      refine Iff.trans ?_ (wellBracketed_snoc.trans (and_congr ih.symm (hNested _).symm)).symm
      rw [List.filter_append, List.filter_singleton]
      cases keep last with
      | true => exact wellBracketed_snoc
      | false =>
          rw [cond_false, List.append_nil]
          exact ⟨fun h => ⟨h, h.nested⟩, And.left⟩

end EverestCore.Machine
