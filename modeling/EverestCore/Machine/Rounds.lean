import EverestCore.Machine.PartialRuns

/-! Machines that work in rounds: in each round every input has one turn, and the
machine goes on until a round passes in which no turn was active, or until its
budget of rounds is used up. -/
namespace EverestCore.Machine

universe u v

variable {State : Type u} {Input : Type v}

section Round

variable (turn : State → Input → Option (Bool × State))

/-- One turn of every input, and whether any of them was active. -/
def round? (inputs : List Input) (start : State) : Option (Bool × State) :=
  inputs.foldlM
    (fun (active, state) input => do
      let (now, state) ← turn state input
      return (active || now, state))
    (false, start)

theorem round?_snoc_eq_some {start final : State} {inputs : List Input} {input : Input}
    {active : Bool} :
    round? turn (inputs ++ [input]) start = some (active, final) ↔
      ∃ before state now, round? turn inputs start = some (before, state) ∧
        turn state input = some (now, final) ∧ active = (before || now) := by
  unfold round?
  rw [List.foldlM_append, Option.bind_eq_bind, Option.bind_eq_some_iff]
  constructor
  · rintro ⟨⟨before, state⟩, hInputs, hLast⟩
    simp only [List.foldlM_cons, List.foldlM_nil, bind_pure] at hLast
    obtain ⟨⟨now, last⟩, hTurn, hEq⟩ := Option.bind_eq_some_iff.mp hLast
    cases hEq
    exact ⟨before, state, now, hInputs, hTurn, rfl⟩
  · rintro ⟨before, state, now, hInputs, hTurn, rfl⟩
    refine ⟨(before, state), hInputs, ?_⟩
    simp only [List.foldlM_cons, List.foldlM_nil, bind_pure, hTurn]
    rfl

/-- A round is a run of turns. -/
theorem run?_eq_some_iff_round? {start final : State} {inputs : List Input} :
    run? (fun state input => (turn state input).map Prod.snd) start inputs = some final ↔
      ∃ active, round? turn inputs start = some (active, final) := by
  induction inputs using List.reverseRecOn generalizing final with
  | nil =>
      constructor
      · rintro ⟨⟩
        exact ⟨false, rfl⟩
      · rintro ⟨_, ⟨⟩⟩
        rfl
  | append_singleton inputs input ih =>
      rw [run?_snoc_eq_some]
      constructor
      · rintro ⟨state, hInputs, hLast⟩
        obtain ⟨before, hBefore⟩ := ih.mp hInputs
        obtain ⟨⟨now, last⟩, hTurn, rfl⟩ := Option.map_eq_some_iff.mp hLast
        exact ⟨_, (round?_snoc_eq_some turn).mpr ⟨before, state, now, hBefore, hTurn, rfl⟩⟩
      · rintro ⟨active, hRound⟩
        obtain ⟨before, state, now, hBefore, hTurn, -⟩ := (round?_snoc_eq_some turn).mp hRound
        exact ⟨state, ih.mpr ⟨before, hBefore⟩, by rw [hTurn]; rfl⟩

/-- States that no turn can tell apart, and between which inactive turns stay. -/
structure Indistinguishable (same : State → State → Prop) : Prop where
  equivalence : Equivalence same
  inactive : ∀ {state next : State} {input : Input},
    turn state input = some (false, next) → same state next
  turn : ∀ {state other next : State} {input : Input}, same state other →
    turn state input = some (false, next) → ∃ last, turn other input = some (false, last)

/-- After a round without an active turn, no turn would be active. -/
theorem inactive_after_round? {turn : State → Input → Option (Bool × State)}
    {same : State → State → Prop} (hSame : Indistinguishable turn same) {start final : State}
    {inputs : List Input} (h : round? turn inputs start = some (false, final)) :
    same start final ∧ ∀ input ∈ inputs, ∃ last, turn final input = some (false, last) := by
  suffices hBefore : same start final ∧
      ∀ input ∈ inputs, ∃ last, turn start input = some (false, last) by
    refine ⟨hBefore.1, fun input hInput => ?_⟩
    obtain ⟨last, hLast⟩ := hBefore.2 input hInput
    exact hSame.turn hBefore.1 hLast
  induction inputs using List.reverseRecOn generalizing final with
  | nil =>
      cases h
      exact ⟨hSame.equivalence.refl _, by simp⟩
  | append_singleton inputs input ih =>
      obtain ⟨before, state, now, hInputs, hTurn, hActive⟩ := (round?_snoc_eq_some turn).mp h
      obtain ⟨rfl, rfl⟩ := Bool.or_eq_false_iff.mp hActive.symm
      obtain ⟨hState, hAll⟩ := ih hInputs
      refine ⟨hSame.equivalence.trans hState (hSame.inactive hTurn), fun other hOther => ?_⟩
      rcases List.mem_append.mp hOther with hOther | hOther
      · exact hAll other hOther
      · obtain rfl := List.mem_singleton.mp hOther
        exact hSame.turn (hSame.equivalence.symm hState) hTurn

end Round

section Rounds

variable (round : State → Option (Bool × State))

/-- Rounds until one of them is inactive, at most as many as the budget. The
result has the budget that is left, which is below zero if it is used up. -/
def rounds? : ℕ → State → Option (ℤ × State)
  | 0, state => some (-1, state)
  | budget + 1, state => do
      let (active, state) ← round state
      if active then rounds? budget state else return (budget, state)

/-- So many rounds in a row, all of them active. -/
inductive ActiveRounds : ℕ → State → State → Prop where
  | none (state : State) : ActiveRounds 0 state state
  | next {count : ℕ} {start state final : State} (hRound : round start = some (true, state))
      (hRest : ActiveRounds count state final) : ActiveRounds (count + 1) start final

variable {round}

/-- The two ways in which rounds come to an end. -/
theorem rounds?_eq_some {budget : ℕ} {start final : State} {left : ℤ}
    (h : rounds? round budget start = some (left, final)) :
    (left = -1 ∧ ActiveRounds round budget start final) ∨
      ∃ count state, count < budget ∧ left = (budget : ℤ) - 1 - count ∧
        ActiveRounds round count start state ∧ round state = some (false, final) := by
  induction budget generalizing start with
  | zero =>
      cases h
      exact Or.inl ⟨rfl, .none _⟩
  | succ budget ih =>
      obtain ⟨⟨active, state⟩, hRound, hRest⟩ := Option.bind_eq_some_iff.mp h
      cases active with
      | false =>
          cases hRest
          exact Or.inr ⟨0, start, Nat.succ_pos _, by push_cast; omega, .none _, hRound⟩
      | true =>
          rcases ih hRest with ⟨hLeft, hActive⟩ | ⟨count, last, hCount, hLeft, hActive, hQuiet⟩
          · exact Or.inl ⟨hLeft, .next hRound hActive⟩
          · exact Or.inr ⟨count + 1, last, by omega, by push_cast; omega, .next hRound hActive, hQuiet⟩

section Run

variable {step : State → Input → Option State} {inputs : List Input} {inv : State → Prop}
  (hRound : ∀ state active next, inv state → round state = some (active, next) →
    run? step state inputs = some next ∧ inv next)

include hRound

theorem run?_of_activeRounds {count : ℕ} {start final : State}
    (h : ActiveRounds round count start final) (hStart : inv start) :
    run? step start (List.replicate count inputs).flatten = some final ∧ inv final := by
  induction h with
  | none state => exact ⟨rfl, hStart⟩
  | next hFirst _ ih =>
      obtain ⟨hRun, hInv⟩ := hRound _ _ _ hStart hFirst
      obtain ⟨hRest, hFinal⟩ := ih hInv
      rw [List.replicate_succ, List.flatten_cons, run?_append, hRun]
      exact ⟨hRest, hFinal⟩

/-- Rounds that are runs over the same inputs make up one run. -/
theorem run?_of_rounds? {budget : ℕ} {start final : State} {left : ℤ}
    (h : rounds? round budget start = some (left, final)) (hStart : inv start) :
    run? step start (List.replicate (budget - left.toNat) inputs).flatten = some final := by
  rcases rounds?_eq_some h with ⟨rfl, hActive⟩ | ⟨count, state, hCount, hLeft, hActive, hQuiet⟩
  · exact (run?_of_activeRounds hRound hActive hStart).1
  · obtain ⟨hRun, hInv⟩ := run?_of_activeRounds hRound hActive hStart
    have hRounds : budget - left.toNat = count + 1 := by omega
    rw [hRounds, List.replicate_succ', List.flatten_append, List.flatten_singleton, run?_append,
      hRun]
    exact (hRound _ _ _ hInv hQuiet).1

end Run

/-- Rounds are defined if each of them is. -/
theorem rounds?_isSome {inv : State → Prop}
    (hRound : ∀ state, inv state → ∃ active next, round state = some (active, next) ∧ inv next)
    (budget : ℕ) {start : State} (hStart : inv start) : (rounds? round budget start).isSome := by
  induction budget generalizing start with
  | zero => rfl
  | succ budget ih =>
      obtain ⟨active, next, hNext, hInv⟩ := hRound start hStart
      rw [rounds?, hNext]
      cases active with
      | false => rfl
      | true => exact ih hInv

end Rounds

section Measure

variable {inv : State → Prop} {measure : State → ℕ}

/-- While an invariant holds, no turn makes a measure larger, and every active turn makes it
smaller. -/
structure Decreases (turn : State → Input → Option (Bool × State)) (inv : State → Prop)
    (measure : State → ℕ) : Prop where
  keeps : ∀ {state next : State} {input : Input} {active : Bool}, inv state →
    turn state input = some (active, next) → inv next
  pays : ∀ {state next : State} {input : Input} {active : Bool}, inv state →
    turn state input = some (active, next) → measure next + active.toNat ≤ measure state

theorem Decreases.round? {turn : State → Input → Option (Bool × State)}
    (hTurn : Decreases turn inv measure) {start final : State} {inputs : List Input}
    {active : Bool} (hStart : inv start) (hRound : round? turn inputs start = some (active, final)) :
    inv final ∧ measure final + active.toNat ≤ measure start := by
  induction inputs using List.reverseRecOn generalizing final active with
  | nil =>
      cases hRound
      exact ⟨hStart, le_rfl⟩
  | append_singleton inputs input ih =>
      obtain ⟨before, state, now, hInputs, hLast, rfl⟩ := (round?_snoc_eq_some turn).mp hRound
      obtain ⟨hState, hBefore⟩ := ih hInputs
      have hNow := hTurn.pays hState hLast
      refine ⟨hTurn.keeps hState hLast, ?_⟩
      cases before <;> cases now <;> simp only [Bool.or_true, Bool.or_false, Bool.toNat_true,
        Bool.toNat_false] at hBefore hNow ⊢ <;> omega

section Rounds

variable {round : State → Option (Bool × State)}
  (hRound : ∀ state active next, inv state → round state = some (active, next) →
    inv next ∧ measure next + active.toNat ≤ measure state)

include hRound

/-- There are at most as many active rounds as the measure says. -/
theorem activeRounds_le {count : ℕ} {start final : State} (hStart : inv start)
    (hActive : ActiveRounds round count start final) : count + measure final ≤ measure start := by
  induction hActive with
  | none state => exact (Nat.zero_add _).le
  | next hFirst _ ih =>
      obtain ⟨hInv, hLess⟩ := hRound _ _ _ hStart hFirst
      rw [Bool.toNat_true] at hLess
      have hRest := ih hInv
      omega

/-- A measure that decreases in every active round brings them to an end. -/
theorem activeRounds_end {start : State} (hStart : inv start) :
    ∃ count state, ActiveRounds round count start state ∧ inv state ∧
      ∀ next, round state ≠ some (true, next) := by
  induction hMeasure : measure start using Nat.strong_induction_on generalizing start with
  | _ budget ih =>
      by_cases hActive : ∃ next, round start = some (true, next)
      · obtain ⟨next, hNext⟩ := hActive
        obtain ⟨hInv, hLess⟩ := hRound _ _ _ hStart hNext
        rw [Bool.toNat_true] at hLess
        obtain ⟨count, state, hRounds, hEnd⟩ := ih (measure next) (by omega) hInv rfl
        exact ⟨count + 1, state, .next hNext hRounds, hEnd⟩
      · exact ⟨0, start, .none _, hStart, fun next hNext => hActive ⟨next, hNext⟩⟩

end Rounds

end Measure

end EverestCore.Machine
