import EverestCore.Machine.Runs

/-! Runs of a machine that may get stuck: a step without a result ends the run
without one. -/
namespace EverestCore.Machine

universe u v

variable {State : Type u} {Input : Type v} (step : State → Input → Option State)

/-- The state reached by a list of inputs, if every step on the way is defined. -/
def run? (start : State) (inputs : List Input) : Option State :=
  inputs.foldlM step start

@[simp] theorem run?_nil (start : State) : run? step start [] = some start := rfl

@[simp] theorem run?_cons (start : State) (input : Input) (inputs : List Input) :
    run? step start (input :: inputs) =
      (step start input).bind fun state => run? step state inputs := rfl

theorem run?_append (start : State) (first second : List Input) :
    run? step start (first ++ second) =
      (run? step start first).bind fun state => run? step state second :=
  List.foldlM_append

theorem run?_snoc (start : State) (inputs : List Input) (input : Input) :
    run? step start (inputs ++ [input]) =
      (run? step start inputs).bind fun state => step state input := by
  rw [run?_append]
  congr 1
  funext state
  simp

/-- A run is defined only if its last step is, and so are all before it. -/
theorem run?_snoc_eq_some {start final : State} {inputs : List Input} {input : Input} :
    run? step start (inputs ++ [input]) = some final ↔
      ∃ state, run? step start inputs = some state ∧ step state input = some final := by
  rw [run?_snoc, Option.bind_eq_some_iff]

variable {step}

/-- The invariant rule for defined runs. The invariant sees the inputs so far. -/
theorem run?_invariant {start : State} (inv : List Input → State → Prop) (hStart : inv [] start)
    (hStep : ∀ inputs input state next, inv inputs state → step state input = some next →
      inv (inputs ++ [input]) next)
    {inputs : List Input} {final : State} (hRun : run? step start inputs = some final) :
    inv inputs final := by
  induction inputs using List.reverseRecOn generalizing final with
  | nil =>
      cases hRun
      exact hStart
  | append_singleton inputs input ih =>
      obtain ⟨state, hState, hLast⟩ := (run?_snoc_eq_some step).mp hRun
      exact hStep _ _ _ _ (ih hState) hLast

variable (step)

/-- Every input meets `ok` in the state in which it is applied, as far as the run
is defined. -/
def EveryStep? (ok : State → Input → Prop) (start : State) (inputs : List Input) : Prop :=
  EachAfter (fun before input => ∀ state ∈ run? step start before, ok state input) inputs

instance (ok : State → Input → Prop) [∀ state input, Decidable (ok state input)] (start : State)
    (inputs : List Input) : Decidable (EveryStep? step ok start inputs) :=
  inferInstanceAs (Decidable (EachAfter _ _))

variable {step}

/-- The invariant rule for defined runs whose steps are known to meet a condition. -/
theorem run?_invariant_of_everyStep? {start : State} {ok : State → Input → Prop}
    (inv : State → Prop) (hStart : inv start)
    (hStep : ∀ state input next, inv state → ok state input → step state input = some next →
      inv next)
    {inputs : List Input} {final : State} (hRun : run? step start inputs = some final)
    (hOk : EveryStep? step ok start inputs) : inv final := by
  induction inputs using List.reverseRecOn generalizing final with
  | nil =>
      cases hRun
      exact hStart
  | append_singleton inputs input ih =>
      obtain ⟨state, hState, hLast⟩ := (run?_snoc_eq_some step).mp hRun
      obtain ⟨hBefore, hInput⟩ := eachAfter_snoc.mp hOk
      exact hStep state input final (ih hState hBefore) (hInput state hState) hLast

/-- A run is defined if every step is, under an invariant that the steps keep. -/
theorem run?_defined_of_everyStep? {start : State} {ok : State → Input → Prop}
    (inv : State → Prop) (hStart : inv start)
    (hStep : ∀ state input, inv state → ok state input → ∃ next ∈ step state input, inv next)
    {inputs : List Input} (hOk : EveryStep? step ok start inputs) :
    ∃ final, run? step start inputs = some final ∧ inv final := by
  induction inputs using List.reverseRecOn with
  | nil => exact ⟨start, rfl, hStart⟩
  | append_singleton inputs input ih =>
      obtain ⟨hBefore, hInput⟩ := eachAfter_snoc.mp hOk
      obtain ⟨state, hState, hInv⟩ := ih hBefore
      obtain ⟨next, hNext, hLast⟩ := hStep state input hInv (hInput state hState)
      exact ⟨next, (run?_snoc_eq_some step).mpr ⟨state, hState, hNext⟩, hLast⟩

/-- Two conditions that agree under an invariant are met by the same runs. -/
theorem everyStep?_congr {start : State} {ok good : State → Input → Prop} (inv : State → Prop)
    (hStart : inv start)
    (hStep : ∀ state input next, inv state → step state input = some next → inv next)
    (hIff : ∀ state input, inv state → (good state input ↔ ok state input)) (inputs : List Input) :
    EveryStep? step good start inputs ↔ EveryStep? step ok start inputs := by
  have hInv {before : List Input} {state : State} (hRun : run? step start before = some state) :
      inv state := by
    apply run?_invariant (fun _ state => inv state) hStart _ hRun
    exact fun _ input state next hState hNext => hStep state input next hState hNext
  apply eachAfter_congr
  intro before input _
  constructor
  · exact fun hGood state hRun => (hIff state input (hInv hRun)).mp (hGood state hRun)
  · exact fun hOk state hRun => (hIff state input (hInv hRun)).mpr (hOk state hRun)

end EverestCore.Machine
