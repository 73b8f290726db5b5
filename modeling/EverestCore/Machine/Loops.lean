import Mathlib.Data.Nat.Notation

/-! Loops that may go on forever. The body says after each round whether to go on, and
the loop is followed for a number of rounds: it ends if some number of rounds is
enough. -/
namespace EverestCore.Machine

universe u

/-- How a round of a loop ends. -/
inductive Next (State : Type u) where
  | again (state : State)
  | leave (state : State)

variable {State : Type u}

/-- The loop, for at most `fuel` rounds. A body without a result, such as one with
another loop inside that goes on, ends nothing. -/
def loop? (body : State → Option (Next State)) : ℕ → State → Option State
  | 0, _ => none
  | fuel + 1, state =>
      match body state with
      | none => none
      | some (.leave final) => some final
      | some (.again next) => loop? body fuel next

variable {body : State → Option (Next State)}

theorem loop?_leave {state final : State} (hBody : body state = some (.leave final)) (fuel : ℕ) :
    loop? body (fuel + 1) state = some final := by
  simp only [loop?, hBody]

theorem loop?_again {state next : State} (hBody : body state = some (.again next)) (fuel : ℕ) :
    loop? body (fuel + 1) state = loop? body fuel next := by
  simp only [loop?, hBody]

/-- The rule for loops that end. The invariant knows a bound on the rounds to come, and
what every round that leaves ends with holds at the end. -/
theorem loop?_ends (inv : ℕ → State → Prop) (post : State → Prop)
    (hRound : ∀ rank state, inv rank state →
      (∃ final, body state = some (.leave final) ∧ post final) ∨
      ∃ next, body state = some (.again next) ∧ ∃ lower < rank, inv lower next)
    {fuel rank : ℕ} {state : State} (hState : inv rank state) (hFuel : rank < fuel) :
    ∃ final, loop? body fuel state = some final ∧ post final := by
  induction fuel generalizing rank state with
  | zero => exact absurd hFuel (Nat.not_lt_zero _)
  | succ fuel ih =>
      rcases hRound rank state hState with ⟨final, hLeave, hPost⟩ | ⟨next, hAgain, lower, hLower, hNext⟩
      · exact ⟨final, loop?_leave hLeave fuel, hPost⟩
      · rw [loop?_again hAgain]
        exact ih hNext (by omega)

/-- The loop goes on forever if no round leaves it. -/
theorem loop?_stuck (stuck : State → Prop)
    (hRound : ∀ state, stuck state →
      body state = none ∨ ∃ next, body state = some (.again next) ∧ stuck next)
    (fuel : ℕ) {state : State} (hState : stuck state) : loop? body fuel state = none := by
  induction fuel generalizing state with
  | zero => rfl
  | succ fuel ih =>
      rcases hRound state hState with hNone | ⟨next, hAgain, hNext⟩
      · simp only [loop?, hNone]
      · rw [loop?_again hAgain]
        exact ih hNext

end EverestCore.Machine
