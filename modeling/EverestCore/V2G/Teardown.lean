import EverestCore.V2G.Server

/-! How a connection ends. The teardown is meant to end the current demand and to
open the contactor of a session that is still charging. It looks at a flag that the
end of `v2g_handle_connection` has reset. -/
namespace EverestCore.V2G
open Machine

/-- The message that opens the contactor of a charger of this type. -/
def openContactor (isDcCharger : Bool) : Publication :=
  if isDcCharger then .dcOpenContactor else .acOpenContactor

/-- The session was charging when the message loop of its connection ended. -/
def Entry.endsCharging : Entry → Bool
  | .closed atLoopEnd _ => atLoopEnd.isCharging
  | _ => false

/-- A connection that ends while charging publishes the end of the current demand and
the opening of the contactor before its session is reset. -/
def Entry.deEnergizes : Entry → Prop
  | .closed atLoopEnd published => atLoopEnd.isCharging = true →
      .currentDemandFinished ∈ published ∧ openContactor atLoopEnd.isDcCharger ∈ published
  | _ => True

instance (entry : Entry) : Decidable entry.deEnergizes :=
  match entry with
  | .closed _ _ => inferInstanceAs (Decidable (_ → _))
  | .connected | .refused _ | .commanded _ | .exchanged _ => inferInstanceAs (Decidable True)

/-- The teardown of this connection published nothing. -/
def Entry.tornDownSilently : Entry → Prop
  | .closed _ published => published = []
  | _ => True

theorem deEnergizes_iff_of_silent {entry : Entry} (h : entry.tornDownSilently) :
    entry.deEnergizes ↔ entry.endsCharging = false := by
  cases entry with
  | closed atLoopEnd published =>
      have hNone : published = [] := h
      show (atLoopEnd.isCharging = true → _) ↔ atLoopEnd.isCharging = false
      rw [hNone]
      cases atLoopEnd.isCharging <;> simp
  | connected => exact iff_of_true trivial rfl
  | refused published => exact iff_of_true trivial rfl
  | commanded command => exact iff_of_true trivial rfl
  | exchanged exchange => exact iff_of_true trivial rfl

namespace Server

/-- Every teardown so far published nothing. -/
def SilentTeardowns (s : Server) : Prop :=
  EachAfter (fun _ entry => entry.tornDownSilently) s.history

theorem silentTeardowns_note {s : Server} {entry : Entry} (h : s.SilentTeardowns)
    (hEntry : entry.tornDownSilently) : (s.note entry).SilentTeardowns :=
  eachAfter_snoc.mpr ⟨h, hEntry⟩

/-- A connection that is left in silence, also one without a buffer, has been initialised before. -/
theorem step_silentTeardowns (s : Server) (input : Input) (h : s.SilentTeardowns) :
    (s.step input).SilentTeardowns := by
  have hEffect := step_effect s input
  generalize s.step input = next at hEffect ⊢
  cases hEffect with
  | unchanged => exact h
  | refused hStage => exact silentTeardowns_note h trivial
  | opened hStage hState isTls => exact silentTeardowns_note h trivial
  | openedInVain hStage hState isTls =>
      apply silentTeardowns_note
      · exact silentTeardowns_note h trivial
      · rfl
  | agreed hStage protocol => exact h
  | disagreed hStage protocol => exact silentTeardowns_note h rfl
  | left hStage => exact silentTeardowns_note h rfl
  | exchanged request around delivered hStage hInput =>
      have hAnswered : (s.answer request around).SilentTeardowns := silentTeardowns_note h trivial
      unfold exchange
      dsimp only
      split
      · exact hAnswered
      · exact silentTeardowns_note hAnswered rfl
  | commanded command hInput => exact silentTeardowns_note h trivial

/-- In every run the teardown leaves the power on exactly where there is power to
take away: it does what it is meant to do only for sessions that do not charge. -/
theorem teardown_deEnergizes_iff (config : Config) (inputs : List Input) :
    EachAfter (fun _ entry => entry.deEnergizes ↔ entry.endsCharging = false)
      (run step (start config) inputs).history := by
  have hStart : (start config).SilentTeardowns := eachAfter_nil _
  have hSilent : (run step (start config) inputs).SilentTeardowns :=
    run_invariant SilentTeardowns hStart step_silentTeardowns inputs
  refine EachAfter.mono hSilent ?_
  intro before entry hBefore hEntry
  exact deEnergizes_iff_of_silent hEntry

/-- The car closes the connection in the current demand phase. -/
theorem teardown_leaves_current_on :
    ¬ EachAfter (fun _ entry => entry.deEnergizes)
      (run step (start strictConfig) (dinSession ++ [.receive .closedByPeer])).history := by
  decide +kernel

end Server

end EverestCore.V2G
