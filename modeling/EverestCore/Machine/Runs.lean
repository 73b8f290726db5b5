import Mathlib.Data.List.Infix

/-! Runs of a deterministic machine over a list of inputs, and the two rules
by which properties of single steps become properties of whole runs. Nothing
here depends on what the states and the inputs are. -/
namespace EverestCore.Machine

universe u v

variable {State : Type u} {Input : Type v} (step : State → Input → State)

/-- The state reached by a list of inputs, the first of them applied first. -/
def run (start : State) (inputs : List Input) : State :=
  inputs.foldl step start

@[simp] theorem run_nil (start : State) : run step start [] = start := rfl

@[simp] theorem run_cons (start : State) (input : Input) (inputs : List Input) :
    run step start (input :: inputs) = run step (step start input) inputs := rfl

theorem run_append (start : State) (first second : List Input) :
    run step start (first ++ second) = run step (run step start first) second :=
  List.foldl_append

theorem run_snoc (start : State) (inputs : List Input) (input : Input) :
    run step start (inputs ++ [input]) = step (run step start inputs) input := by
  rw [run_append]
  rfl

/-- A property of the start that every single step keeps holds of every state
that a run can reach. -/
theorem run_invariant {step : State → Input → State} {start : State} (inv : State → Prop)
    (hStart : inv start) (hStep : ∀ state input, inv state → inv (step state input))
    (inputs : List Input) : inv (run step start inputs) := by
  induction inputs using List.reverseRecOn with
  | nil => exact hStart
  | append_singleton inputs input ih =>
      rw [run_snoc]
      exact hStep _ _ ih

/-- Every entry of the trace meets `ok`, which also sees the entries before it. -/
def EachAfter {Entry : Type v} (ok : List Entry → Entry → Prop) (trace : List Entry) : Prop :=
  ∀ before entry, before ++ [entry] <+: trace → ok before entry

theorem eachAfter_nil {Entry : Type v} (ok : List Entry → Entry → Prop) : EachAfter ok [] := by
  intro before entry h
  simp at h

theorem eachAfter_snoc {Entry : Type v} {ok : List Entry → Entry → Prop} {trace : List Entry}
    {last : Entry} :
    EachAfter ok (trace ++ [last]) ↔ EachAfter ok trace ∧ ok trace last := by
  constructor
  · intro h
    refine ⟨fun before entry hBefore => h before entry (hBefore.trans (List.prefix_append _ _)), ?_⟩
    exact h trace last (List.prefix_refl _)
  · rintro ⟨hTrace, hLast⟩ before entry hBefore
    rcases List.prefix_concat_iff.mp hBefore with hEq | hPrefix
    · obtain ⟨rfl, hSingle⟩ := List.append_inj' hEq rfl
      cases hSingle
      exact hLast
    · exact hTrace before entry hPrefix

/-- The entries of a second part see the whole first part before them. -/
theorem eachAfter_append {Entry : Type v} {ok : List Entry → Entry → Prop}
    {first second : List Entry} :
    EachAfter ok (first ++ second) ↔
      EachAfter ok first ∧ EachAfter (fun before entry => ok (first ++ before) entry) second := by
  induction second using List.reverseRecOn with
  | nil => simp [eachAfter_nil]
  | append_singleton second last ih =>
      rw [← List.append_assoc, eachAfter_snoc, eachAfter_snoc, ih, and_assoc]

theorem EachAfter.mono {Entry : Type v} {ok ok' : List Entry → Entry → Prop} {trace : List Entry}
    (h : EachAfter ok trace)
    (hMono : ∀ before entry, before ++ [entry] <+: trace → ok before entry → ok' before entry) :
    EachAfter ok' trace :=
  fun before entry hBefore => hMono before entry hBefore (h before entry hBefore)

/-- Two conditions that agree along the trace are met together. -/
theorem eachAfter_congr {Entry : Type v} {ok ok' : List Entry → Entry → Prop} {trace : List Entry}
    (hIff : ∀ before entry, before ++ [entry] <+: trace → (ok before entry ↔ ok' before entry)) :
    EachAfter ok trace ↔ EachAfter ok' trace :=
  ⟨fun h => h.mono fun before entry hBefore => (hIff before entry hBefore).mp,
    fun h => h.mono fun before entry hBefore => (hIff before entry hBefore).mpr⟩

/-- A property that holds at the beginning and that, as long as it has held, is
kept by exactly the entries that meet a condition, holds of all prefixes of a
trace exactly if all its entries meet the condition. -/
theorem forall_prefix_iff_eachAfter {Entry : Type v} {good : List Entry → Prop}
    {ok : List Entry → Entry → Prop} {trace : List Entry} (hNil : good [])
    (hStep : ∀ before entry, before ++ [entry] <+: trace → (∀ mid, mid <+: before → good mid) →
      (good (before ++ [entry]) ↔ ok before entry)) :
    (∀ mid, mid <+: trace → good mid) ↔ EachAfter ok trace := by
  induction trace using List.reverseRecOn with
  | nil =>
      apply iff_of_true
      · intro mid hMid
        rw [List.prefix_nil.mp hMid]
        exact hNil
      · exact eachAfter_nil ok
  | append_singleton trace last ih =>
      have hInner := ih fun before entry hBefore =>
        hStep before entry (hBefore.trans (List.prefix_append _ _))
      rw [eachAfter_snoc, ← hInner]
      constructor
      · intro h
        have hTrace : ∀ mid, mid <+: trace → good mid :=
          fun mid hMid => h mid (hMid.trans (List.prefix_append _ _))
        exact ⟨hTrace, (hStep trace last (List.prefix_refl _) hTrace).mp (h _ (List.prefix_refl _))⟩
      · intro h mid hMid
        rcases List.prefix_concat_iff.mp hMid with hEq | hPrefix
        · rw [hEq]
          exact (hStep trace last (List.prefix_refl _) h.1).mpr h.2
        · exact h.1 mid hPrefix

/-- The entries can be checked one index at a time. -/
theorem eachAfter_iff_forall_index {Entry : Type v} {ok : List Entry → Entry → Prop}
    {trace : List Entry} :
    EachAfter ok trace ↔ ∀ i : Fin trace.length, ok (trace.take i) (trace.get i) := by
  constructor
  · intro h i
    apply h _ _
    rw [List.get_eq_getElem, List.take_append_getElem]
    exact List.take_prefix _ _
  · rintro h before entry ⟨rest, rfl⟩
    have hEntry := h ⟨before.length, by simp⟩
    simpa using hEntry

instance {Entry : Type v} (ok : List Entry → Entry → Prop)
    [∀ before entry, Decidable (ok before entry)] (trace : List Entry) :
    Decidable (EachAfter ok trace) :=
  decidable_of_iff _ eachAfter_iff_forall_index.symm

/-- Every input of the run meets `ok` in the state in which it is applied. -/
def EveryStep (ok : State → Input → Prop) (start : State) (inputs : List Input) : Prop :=
  EachAfter (fun before input => ok (run step start before) input) inputs

instance (ok : State → Input → Prop) [∀ state input, Decidable (ok state input)] (start : State)
    (inputs : List Input) : Decidable (EveryStep step ok start inputs) :=
  inferInstanceAs (Decidable (EachAfter _ _))

theorem everyStep_nil (ok : State → Input → Prop) (start : State) :
    EveryStep step ok start [] := eachAfter_nil _

theorem everyStep_snoc (ok : State → Input → Prop) (start : State) (inputs : List Input)
    (input : Input) :
    EveryStep step ok start (inputs ++ [input]) ↔
      EveryStep step ok start inputs ∧ ok (run step start inputs) input := eachAfter_snoc

theorem everyStep_append (ok : State → Input → Prop) (start : State) (first second : List Input) :
    EveryStep step ok start (first ++ second) ↔
      EveryStep step ok start first ∧ EveryStep step ok (run step start first) second := by
  unfold EveryStep
  rw [eachAfter_append]
  simp only [run_append]

/-- The invariant rule for runs whose steps are known to meet a condition. -/
theorem run_invariant_of_everyStep {step : State → Input → State} {start : State}
    {ok : State → Input → Prop} (inv : State → Prop) (hStart : inv start)
    (hStep : ∀ state input, inv state → ok state input → inv (step state input))
    (inputs : List Input) (hOk : EveryStep step ok start inputs) :
    inv (run step start inputs) := by
  induction inputs using List.reverseRecOn with
  | nil => exact hStart
  | append_singleton inputs input ih =>
      obtain ⟨hInputs, hLast⟩ := (everyStep_snoc step ok start inputs input).mp hOk
      rw [run_snoc]
      exact hStep _ _ (ih hInputs) hLast

/-- What the invariant gives for a single step holds of every step of such a run. -/
theorem everyStep_of_invariant {step : State → Input → State} {start : State}
    {ok good : State → Input → Prop} (inv : State → Prop) (hStart : inv start)
    (hStep : ∀ state input, inv state → ok state input → inv (step state input))
    (hGood : ∀ state input, inv state → ok state input → good state input)
    (inputs : List Input) (hOk : EveryStep step ok start inputs) :
    EveryStep step good start inputs := by
  induction inputs using List.reverseRecOn with
  | nil => exact everyStep_nil step good start
  | append_singleton inputs input ih =>
      obtain ⟨hInputs, hLast⟩ := (everyStep_snoc step ok start inputs input).mp hOk
      refine (everyStep_snoc step good start inputs input).mpr ⟨ih hInputs, ?_⟩
      exact hGood _ _ (run_invariant_of_everyStep inv hStart hStep inputs hInputs) hLast

/-- A property that is lost for good by the first step outside the condition,
and by no step inside it, holds at the end of a run exactly if every step of the
run meets the condition. The invariant is only available while it holds. -/
theorem run_iff_everyStep {step : State → Input → State} {start : State}
    {ok : State → Input → Prop} (inv good : State → Prop)
    (hStart : inv start) (hGood : good start)
    (hInv : ∀ state input, inv state → good state → ok state input → inv (step state input))
    (hStep : ∀ state input, inv state → good state → (good (step state input) ↔ ok state input))
    (hLost : ∀ state input, ¬ good state → ¬ good (step state input))
    (inputs : List Input) :
    good (run step start inputs) ↔ EveryStep step ok start inputs := by
  have hBoth : (good (run step start inputs) → inv (run step start inputs)) ∧
      (good (run step start inputs) ↔ EveryStep step ok start inputs) := by
    induction inputs using List.reverseRecOn with
    | nil => exact ⟨fun _ => hStart, fun _ => everyStep_nil step ok start, fun _ => hGood⟩
    | append_singleton inputs input ih =>
        obtain ⟨ihInv, ihIff⟩ := ih
        rw [run_snoc, everyStep_snoc, ← ihIff]
        by_cases h : good (run step start inputs)
        · have hNext := hStep _ input (ihInv h) h
          exact ⟨fun hLast => hInv _ _ (ihInv h) h (hNext.mp hLast), by simp [h, hNext]⟩
        · have hNext := hLost _ input h
          exact ⟨fun hLast => absurd hLast hNext, by simp [h, hNext]⟩
  exact hBoth.2

/-- A property that, as long as it holds, is kept by exactly the steps that meet a
condition holds in all states of a run exactly if all its steps meet the condition.
Unlike above, the property may come back after it was lost. -/
theorem forall_prefix_iff_everyStep {step : State → Input → State} {start : State}
    {ok : State → Input → Prop} (inv good : State → Prop)
    (hStart : inv start) (hGood : good start)
    (hInv : ∀ state input, inv state → good state → ok state input → inv (step state input))
    (hStep : ∀ state input, inv state → good state → (good (step state input) ↔ ok state input))
    (inputs : List Input) :
    (∀ mid, mid <+: inputs → good (run step start mid)) ↔ EveryStep step ok start inputs := by
  have hHeld : ∀ before, (∀ mid, mid <+: before → good (run step start mid)) →
      inv (run step start before) := by
    intro before hBefore
    induction before using List.reverseRecOn with
    | nil => exact hStart
    | append_singleton before input ih =>
        have hMid : ∀ mid, mid <+: before → good (run step start mid) :=
          fun mid hMid => hBefore mid (hMid.trans (List.prefix_append _ _))
        have hLast := hBefore _ (List.prefix_refl _)
        have hNow := hMid before (List.prefix_refl _)
        rw [run_snoc] at hLast ⊢
        exact hInv _ _ (ih hMid) hNow ((hStep _ _ (ih hMid) hNow).mp hLast)
  apply @forall_prefix_iff_eachAfter _ (fun before => good (run step start before)) _ inputs hGood
  intro before input _ hBefore
  rw [run_snoc]
  exact hStep _ _ (hHeld before hBefore) (hBefore before (List.prefix_refl _))

/-- What is seen of the state changes by the inputs that concern the view only, and they
act on the view alone. Then the view is that of a machine of its own, which gets nothing
but these inputs. -/
theorem run_view {View : Type u} {step : State → Input → State} {start : State}
    (inv : State → Prop) (view : State → View) (concerns : Input → Bool)
    (viewStep : View → Input → View)
    (hStep : ∀ state input, inv state → inv (step state input) →
      view (step state input) = if concerns input then viewStep (view state) input else view state)
    {inputs : List Input} (hInv : ∀ before, before <+: inputs → inv (run step start before)) :
    view (run step start inputs) = run viewStep (view start) (inputs.filter concerns) := by
  induction inputs using List.reverseRecOn with
  | nil => rfl
  | append_singleton inputs input ih =>
      have hBefore := hInv inputs (List.prefix_append _ _)
      have hLast := hInv _ (List.prefix_refl _)
      rw [run_snoc] at hLast ⊢
      rw [hStep _ _ hBefore hLast, ih fun before hPrefix => hInv before
        (hPrefix.trans (List.prefix_append _ _)), List.filter_append]
      cases hConcerns : concerns input with
      | true =>
          rw [List.filter_singleton, hConcerns, if_pos rfl, cond_true, run_snoc]
      | false =>
          rw [List.filter_singleton, hConcerns, if_neg Bool.false_ne_true, cond_false,
            List.append_nil]

section Memory

variable {Memory : Type u} (note : State → Input → Memory → Memory)

/-- What is noted along a run. A note depends on the input and on the state in which it
is applied. -/
def remember (start : State) (memory : Memory) : List Input → Memory
  | [] => memory
  | input :: inputs => remember (step start input) (note start input memory) inputs

theorem remember_snoc (start : State) (memory : Memory) (inputs : List Input) (input : Input) :
    remember step note start memory (inputs ++ [input]) =
      note (run step start inputs) input (remember step note start memory inputs) := by
  induction inputs generalizing start memory with
  | nil => rfl
  | cons first inputs ih => exact ih (step start first) (note start first memory)

/-- The invariant rule for a relation between the state and what has been noted. -/
theorem remember_invariant_of_everyStep {step : State → Input → State}
    {note : State → Input → Memory → Memory} {start : State} {memory : Memory}
    {ok : State → Input → Prop} (inv : State → Memory → Prop) (hStart : inv start memory)
    (hStep : ∀ state memory input, inv state memory → ok state input →
      inv (step state input) (note state input memory))
    (inputs : List Input) (hOk : EveryStep step ok start inputs) :
    inv (run step start inputs) (remember step note start memory inputs) := by
  induction inputs using List.reverseRecOn with
  | nil => exact hStart
  | append_singleton inputs input ih =>
      obtain ⟨hInputs, hLast⟩ := (everyStep_snoc step ok start inputs input).mp hOk
      rw [run_snoc, remember_snoc]
      exact hStep _ _ _ (ih hInputs) hLast

/-- The machine that keeps its notes in its own state. -/
def watch (now : State × Memory) (input : Input) : State × Memory :=
  (step now.1 input, note now.1 input now.2)

end Memory

end EverestCore.Machine
