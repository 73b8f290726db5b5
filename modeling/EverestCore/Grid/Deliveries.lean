import EverestCore.Grid.FuseSafety

/-! What becomes of the messages when nothing new happens: they all arrive, in whatever order they
are delivered, unless a node cannot end a publication. -/
namespace EverestCore.Grid
open Data Machine Energy

/-- A message is on its way from a module, and the node above can take it. -/
def GridState.CanDeliver (s : GridState) : Place → Prop
  | [] => s.relay.inFlight [] ≠ []
  | i :: above => s.relay.inFlight (i :: above) ≠ [] ∧ (s.nodes above).isLocked = false

instance (s : GridState) : ∀ place, Decidable (s.CanDeliver place)
  | [] => inferInstanceAs (Decidable (s.relay.inFlight [] ≠ []))
  | i :: above => inferInstanceAs
      (Decidable (s.relay.inFlight (i :: above) ≠ [] ∧ (s.nodes above).isLocked = false))

/-- Only a message that was sent can be delivered. -/
theorem GridState.CanDeliver.ne_nil {s : GridState} {place : Place} (h : s.CanDeliver place) :
    s.relay.inFlight place ≠ [] := by
  cases place with
  | nil => exact h
  | cons i above => exact h.1

section Deliveries

variable {grid : EnergyGrid} {rounds : ℕ} {hour : ℤ}

/-- Every delivery brings a message nearer to the energy manager. -/
theorem pending_deliver {inputs : List GridInput} {place : Place}
    (hCan : (gridRun grid rounds hour inputs).CanDeliver place) :
    (gridRun grid rounds hour (inputs ++ [.deliver place])).relay.pending
        (grid.modulesBelow []) + 1 ≤
      (gridRun grid rounds hour inputs).relay.pending (grid.modulesBelow []) := by
  have hUpheld : Upheld grid rounds hour inputs := upheld_gridRun inputs
  have hValid : grid.Valid place := by
    by_contra hNot
    exact hCan.ne_nil (hUpheld.relay.silent place hNot)
  have hMem {p : Place} (hp : grid.Valid p) : p ∈ grid.modulesBelow [] :=
    EnergyGrid.mem_modulesBelow.mpr ⟨hp, List.nil_suffix⟩
  obtain ⟨message, rest, hMessage⟩ := List.exists_cons_of_ne_nil hCan.ne_nil
  have hReceive : ((gridRun grid rounds hour inputs).relay.receive Publication.uuid place message
      rest).pending (grid.modulesBelow []) + (place.length + 1) =
        (gridRun grid rounds hour inputs).relay.pending (grid.modulesBelow []) :=
    Relay.pending_receive (hMem hValid) hMessage
  rw [gridRun_snoc]
  simp only [gridStep, GridState.deliver.eq_def, hMessage]
  cases place with
  | nil =>
      rw [← hReceive]
      exact le_rfl
  | cons i above =>
      dsimp only
      obtain ⟨uuid, config, hAbove⟩ := module?_of_valid_cons hValid
      have hAboveValid : grid.Valid above := by
        rw [EnergyGrid.Valid, hAbove]
        rfl
      rw [if_neg (by rw [hCan.2]; exact Bool.false_ne_true), ← hReceive]
      rcases publishComplete_cases rounds _ above with ⟨v, -, -, hNext⟩ | hNext
      · rw [hNext]
        dsimp only
        rw [Relay.pending_publish (hMem hAboveValid), List.length_cons]
        omega
      · rw [hNext, GridState.relay_setNode]
        dsimp only
        omega

/-- A module does not unsay that it has published something. -/
theorem allPublished_snoc {inputs : List GridInput}
    (h : AllPublished grid (gridRun grid rounds hour inputs)) (input : GridInput) :
    AllPublished grid (gridRun grid rounds hour (inputs ++ [input])) := by
  have hUpheld : Upheld grid rounds hour inputs := upheld_gridRun inputs
  have hMoves : Moves grid _ (gridRun grid rounds hour (inputs ++ [input])) :=
    gridRun_snoc inputs input ▸ gridStep_moves hUpheld.relay.silent input
  have hSent {s next : GridState} {p : Place} {v : Publication} (hSends : Sends grid s next p v)
      (r : Relay Publication) (place : Place) (hOwn : 0 < (r.own place).number) :
      0 < ((r.publish p v).own place).number := by
    by_cases hPlace : place = p
    · rw [hPlace, Relay.own_publish_self, hSends.number]
      exact Nat.succ_pos _
    · rwa [Relay.own_publish_other hPlace]
  intro place hValid
  cases hMoves with
  | quiet hRelay => exact hRelay ▸ h place hValid
  | sent p v hSends hRelay => exact hRelay ▸ hSent hSends _ place (h place hValid)
  | arrived message rest hMessage hRelay =>
      rw [hRelay, Relay.own_receive]
      exact h place hValid
  | passedOn i above message rest v hMessage hSends hRelay =>
      rw [hRelay]
      apply hSent hSends
      rw [Relay.own_receive]
      exact h place hValid
  | stuck i above message rest hMessage hLocked hRelay =>
      rw [hRelay, Relay.own_receive]
      exact h place hValid

/-- A module that has published has done so for good. -/
theorem allPublished_append {inputs : List GridInput}
    (h : AllPublished grid (gridRun grid rounds hour inputs)) (more : List GridInput) :
    AllPublished grid (gridRun grid rounds hour (inputs ++ more)) := by
  induction more using List.reverseRecOn with
  | nil => rwa [List.append_nil]
  | append_singleton more input ih =>
      rw [← List.append_assoc]
      exact allPublished_snoc ih input

/-- The messages on their way bound the number of deliveries. -/
theorem length_deliveries_le {inputs : List GridInput} {places : List Place}
    (hCan : EveryStep (fun s place => s.deliver rounds place) GridState.CanDeliver
      (gridRun grid rounds hour inputs) places) :
    (gridRun grid rounds hour (inputs ++ places.map .deliver)).relay.pending
        (grid.modulesBelow []) + places.length ≤
      (gridRun grid rounds hour inputs).relay.pending (grid.modulesBelow []) := by
  induction places using List.reverseRecOn with
  | nil => simp
  | append_singleton places place ih =>
      obtain ⟨hBefore, hLast⟩ := (everyStep_snoc _ _ _ _ _).mp hCan
      have hHere : run (fun s p => s.deliver rounds p) (gridRun grid rounds hour inputs) places =
          gridRun grid rounds hour (inputs ++ places.map .deliver) := by
        simp only [gridRun, run, List.foldl_append, List.foldl_map]
        rfl
      rw [hHere] at hLast
      have hStep := pending_deliver hLast
      rw [List.map_append, List.map_singleton, ← List.append_assoc, List.length_append,
        List.length_singleton]
      have hRest := ih hBefore
      omega

/-- When nothing new happens, the messages arrive after so many deliveries, in whatever order they
are delivered. Once no message can be delivered any more, the energy manager holds the last
publications of all modules, each below that of its own node, unless a node is still merging
prices. -/
theorem deliveries_converge {inputs : List GridInput}
    (hAll : AllPublished grid (gridRun grid rounds hour inputs)) {places : List Place}
    (hCan : EveryStep (fun s place => s.deliver rounds place) GridState.CanDeliver
      (gridRun grid rounds hour inputs) places) :
    places.length ≤
        (gridRun grid rounds hour inputs).relay.pending (grid.modulesBelow []) ∧
      ∀ s, s = gridRun grid rounds hour (inputs ++ places.map .deliver) →
        (∀ place, ¬s.CanDeliver place) →
        (∀ place, grid.Valid place → (s.nodes place).isLocked = false) →
        ∃ t, s.managerRequest = some t ∧
          Mirrors Publication.uuid grid.Valid s.relay.own t := by
  refine ⟨le_of_add_le_right (length_deliveries_le hCan), ?_⟩
  rintro _ rfl hDone hUnlocked
  have hUpheld : Upheld grid rounds hour (inputs ++ places.map .deliver) := upheld_gridRun _
  have hQuiet (place : Place) :
      (gridRun grid rounds hour (inputs ++ places.map .deliver)).relay.inFlight place = [] := by
    by_contra hMessage
    have hValid : grid.Valid place := by
      by_contra hNot
      exact hMessage (hUpheld.relay.silent place hNot)
    cases place with
    | nil => exact hDone [] hMessage
    | cons i above =>
        obtain ⟨uuid, config, hAbove⟩ := module?_of_valid_cons hValid
        refine hDone (i :: above) ⟨hMessage, hUnlocked above ?_⟩
        rw [EnergyGrid.Valid, hAbove]
        rfl
  exact managerRequest_mirrors _ (allPublished_append hAll _) ⟨hQuiet, hUnlocked⟩

/-- The charger and its node have published, and nothing of it has arrived. -/
theorem twoModules_converge :
    ∃ t, (gridRun twoModules 5 0 twoModulesInputs).managerRequest = some t ∧
      Mirrors Publication.uuid twoModules.Valid
        (gridRun twoModules 5 0 twoModulesInputs).relay.own t := by
  have hAll : AllPublished twoModules (gridRun twoModules 5 0 (twoModulesInputs.take 3)) := by
    intro place hValid
    rcases twoModules_valid hValid with rfl | rfl <;> decide +kernel
  have hCan : EveryStep (fun s place => s.deliver 5 place) GridState.CanDeliver
      (gridRun twoModules 5 0 (twoModulesInputs.take 3)) [[0], [], []] := by decide +kernel
  apply (deliveries_converge hAll hCan).2 _ rfl
  · intro place hMore
    have hValid : twoModules.Valid place := by
      by_contra hNot
      exact hMore.ne_nil ((upheld_gridRun twoModulesInputs).relay.silent place hNot)
    rcases twoModules_valid hValid with rfl | rfl
    · exact hMore rfl
    · exact hMore.1 rfl
  · intro place hValid
    rcases twoModules_valid hValid with rfl | rfl <;> decide +kernel

end Deliveries

end EverestCore.Grid
