import EverestCore.Grid.Basic

/-! What the energy manager knows of the tree. At all times it holds requests that the modules have
published, each below that of its own node; they only become newer; and once all messages have
arrived, they are the last ones of all modules. -/
namespace EverestCore.Grid
open Data Machine Energy EvseManager

variable {grid : EnergyGrid} {rounds : ℕ} {s : GridState}

/-- An energy node keeps its uuid. -/
def Named (grid : EnergyGrid) (s : GridState) : Prop :=
  ∀ place uuid config, grid.module? place = some (.energyNode uuid config) →
    (s.nodes place).request.uuid = uuid ∧ (s.nodes place).request.nodeType = .generic

/-- A module publishes what it has as its own request. -/
structure Sends (grid : EnergyGrid) (s next : GridState) (place : Place) (v : Publication) :
    Prop where
  valid : grid.Valid place
  node : v.node = grid.ownRequest next place
  number : v.number = (s.relay.own place).number + 1

/-- What a step does to the messages. -/
inductive Moves (grid : EnergyGrid) (s next : GridState) : Prop where
  | quiet (hRelay : next.relay = s.relay)
  | sent (place : Place) (v : Publication) (hSends : Sends grid s next place v)
      (hRelay : next.relay = s.relay.publish place v)
  | arrived (message : RoseTree Publication) (rest : List (RoseTree Publication))
      (hMessage : s.relay.inFlight [] = message :: rest)
      (hRelay : next.relay = s.relay.receive Publication.uuid [] message rest)
  | passedOn (i : ℕ) (above : Place) (message : RoseTree Publication)
      (rest : List (RoseTree Publication)) (v : Publication)
      (hMessage : s.relay.inFlight (i :: above) = message :: rest)
      (hSends : Sends grid s next above v)
      (hRelay : next.relay =
        (s.relay.receive Publication.uuid (i :: above) message rest).publish above v)
  | stuck (i : ℕ) (above : Place) (message : RoseTree Publication)
      (rest : List (RoseTree Publication))
      (hMessage : s.relay.inFlight (i :: above) = message :: rest)
      (hLocked : (next.nodes above).isLocked = true)
      (hRelay : next.relay = s.relay.receive Publication.uuid (i :: above) message rest)

/-- Only energy nodes have modules below them. -/
theorem module?_of_valid_cons {i : ℕ} {above : Place} (h : grid.Valid (i :: above)) :
    ∃ uuid config, grid.module? above = some (.energyNode uuid config) := by
  rw [EnergyGrid.Valid, EnergyGrid.module?, RoseTree.value?, Option.isSome_map] at h
  have hAbove := RoseTree.subtree?_isSome_of_suffix (List.suffix_cons i above) h
  obtain ⟨subtree, hSubtree⟩ := Option.isSome_iff_exists.mp hAbove
  have hModule : grid.module? above = some subtree.value := by
    rw [EnergyGrid.module?, RoseTree.value?, hSubtree]
    rfl
  cases hValue : subtree.value with
  | energyNode uuid config => exact ⟨uuid, config, by rw [hModule, hValue]⟩
  | evse config request =>
      have hNone := grid.leaves above config request (hValue ▸ hModule) i
      rw [RoseTree.value?, Option.map_eq_none_iff] at hNone
      rw [hNone] at h
      cases h

/-- A publication that comes to an end sends the request of the node. -/
theorem publishComplete_cases (rounds : ℕ) (s : GridState) (place : Place) :
    (∃ v, v.node = (s.nodes place).request ∧ v.number = (s.relay.own place).number + 1 ∧
        s.publishComplete rounds place = { s with relay := s.relay.publish place v }) ∨
      s.publishComplete rounds place =
        s.setNode place { s.nodes place with isLocked := true } := by
  unfold GridState.publishComplete
  split
  · next node hNode =>
    obtain ⟨rfl, -⟩ := publishCompleteEnergyObject_cases hNode
    exact .inl ⟨_, rfl, rfl, rfl⟩
  · exact .inr rfl

/-- There is a module at the root. -/
theorem valid_root : grid.Valid [] := rfl

/-- What a node publishes is the request that it has put together. -/
theorem ownRequest_of_energyNode {place : Place} {uuid : String} {config : EnergyNodeConfig}
    (h : grid.module? place = some (.energyNode uuid config)) :
    grid.ownRequest s place = (s.nodes place).request := by
  rw [EnergyGrid.ownRequest, h]

/-- A node that publishes sends its own request upwards, or hangs in its merge. -/
theorem moves_publishComplete {place : Place} {uuid : String} {config : EnergyNodeConfig}
    (hNode : grid.module? place = some (.energyNode uuid config)) {before : GridState}
    (hRelay : s.relay = before.relay) :
    Moves grid before (s.publishComplete rounds place) := by
  rcases publishComplete_cases rounds s place with ⟨v, hRequest, hNumber, hNext⟩ | hNext
  · rw [hNext]
    refine .sent place v ⟨by rw [EnergyGrid.Valid, hNode]; rfl, ?_, ?_⟩ (by rw [← hRelay])
    · rw [ownRequest_of_energyNode hNode, hRequest]
    · rw [hNumber, hRelay]
  · rw [hNext]
    exact .quiet hRelay

/-- Everything that a step can do to the messages. -/
theorem gridStep_moves (hSilent : ∀ place, ¬grid.Valid place → s.relay.inFlight place = [])
    (input : GridInput) :
    Moves grid s (gridStep rounds grid s input) := by
  cases input with
  | ready place =>
      simp only [gridStep]
      split
      · next uuid config hNode =>
        refine .sent place _ ⟨by rw [EnergyGrid.Valid, hNode]; rfl, ?_, rfl⟩ rfl
        rw [ownRequest_of_energyNode hNode]
        rfl
      · exact .quiet rfl
  | externalLimits place hour limits =>
      simp only [gridStep]
      split
      · split <;> exact .quiet rfl
      · exact .quiet rfl
  | energyPricing place pricing =>
      simp only [gridStep]
      split
      · next uuid config hNode =>
        split
        · exact .quiet rfl
        · exact moves_publishComplete hNode rfl
      · exact .quiet rfl
  | powermeter place =>
      simp only [gridStep]
      split
      · next uuid config hNode =>
        split
        · exact .quiet rfl
        · exact moves_publishComplete hNode rfl
      · exact .quiet rfl
  | evse place event =>
      simp only [gridStep]
      split
      · next config request hEvse =>
        cases event with
        | publish state hour =>
            refine .sent place _ ⟨by rw [EnergyGrid.Valid, hEvse]; rfl, ?_, rfl⟩ rfl
            simp only [EnergyGrid.ownRequest, hEvse, GridState.publish, Function.update_self]
        | updateLocalEnergyLimit limits => exact .quiet rfl
        | updateLocalMaxWattLimit maxWatt now => exact .quiet rfl
        | updateLocalMaxCurrentLimit maxCurrent now => exact .quiet rfl
      · exact .quiet rfl
  | deliver place =>
      simp only [gridStep, GridState.deliver]
      split
      · exact .quiet rfl
      · next message rest hMessage => exact .arrived message rest hMessage rfl
      · next message rest i above hMessage =>
        have hValid : grid.Valid (i :: above) := by
          by_contra hInvalid
          cases (hSilent _ hInvalid).symm.trans hMessage
        obtain ⟨uuid, config, hNode⟩ := module?_of_valid_cons hValid
        split
        · exact .quiet rfl
        · let received : GridState :=
            { s with relay := s.relay.receive Publication.uuid (i :: above) message rest }
          rcases publishComplete_cases rounds received above with
            ⟨v, hRequest, hNumber, hNext⟩ | hNext
          · rw [hNext]
            refine .passedOn i above message rest v hMessage
              ⟨by rw [EnergyGrid.Valid, hNode]; rfl, ?_, ?_⟩ rfl
            · rw [ownRequest_of_energyNode hNode, hRequest]
            · rw [hNumber, Relay.own_receive]
          · rw [hNext]
            exact .stuck i above message rest hMessage (by simp) rfl

/-- What a step can do to an energy node: it joins new external limits with its fuse, and its mutex
may be taken for good. -/
theorem gridStep_nodes (input : GridInput) (place : Place) :
    (((gridStep rounds grid s input).nodes place).request = (s.nodes place).request ∨
      ∃ uuid config hour limits, input = .externalLimits place hour limits ∧
        grid.module? place = some (.energyNode uuid config) ∧
        ((gridStep rounds grid s input).nodes place).request =
          setExternalLimits config hour limits (s.nodes place).request) ∧
      ((s.nodes place).isLocked = true →
        ((gridStep rounds grid s input).nodes place).isLocked = true) := by
  have hComplete (s : GridState) (p : Place) :
      ((s.publishComplete rounds p).nodes place).request = (s.nodes place).request ∧
        ((s.nodes place).isLocked = true →
          ((s.publishComplete rounds p).nodes place).isLocked = true) := by
    rcases publishComplete_cases rounds s p with ⟨v, -, -, hNext⟩ | hNext
    · rw [hNext]
      exact ⟨rfl, id⟩
    · rw [hNext]
      by_cases hPlace : place = p
      · subst hPlace
        simp
      · rw [GridState.nodes_setNode_of_ne hPlace]
        exact ⟨rfl, id⟩
  cases input with
  | ready p =>
      simp only [gridStep]
      split <;> exact ⟨.inl rfl, id⟩
  | externalLimits p hour limits =>
      simp only [gridStep]
      split
      · next uuid config hNode =>
        split
        · exact ⟨.inl rfl, id⟩
        · by_cases hPlace : place = p
          · subst hPlace
            rw [GridState.nodes_setNode_self]
            exact ⟨.inr ⟨uuid, config, hour, limits, rfl, hNode, rfl⟩, id⟩
          · rw [GridState.nodes_setNode_of_ne hPlace]
            exact ⟨.inl rfl, id⟩
      · exact ⟨.inl rfl, id⟩
  | energyPricing p pricing =>
      simp only [gridStep]
      split
      · split
        · exact ⟨.inl rfl, id⟩
        · next hUnlocked =>
          obtain ⟨hRequest, hLocked⟩ :=
            hComplete (s.setNode p { s.nodes p with energyPricing := pricing }) p
          rw [hRequest]
          by_cases hPlace : place = p
          · subst hPlace
            exact ⟨.inl (by simp), fun h => absurd h hUnlocked⟩
          · rw [GridState.nodes_setNode_of_ne hPlace] at hLocked ⊢
            exact ⟨.inl rfl, hLocked⟩
      · exact ⟨.inl rfl, id⟩
  | powermeter p =>
      simp only [gridStep]
      split
      · split
        · exact ⟨.inl rfl, id⟩
        · exact ⟨.inl (hComplete s p).1, (hComplete s p).2⟩
      · exact ⟨.inl rfl, id⟩
  | evse p event =>
      simp only [gridStep]
      split
      · cases event <;> exact ⟨.inl rfl, id⟩
      · exact ⟨.inl rfl, id⟩
  | deliver p =>
      simp only [gridStep, GridState.deliver]
      split
      · exact ⟨.inl rfl, id⟩
      · exact ⟨.inl rfl, id⟩
      · next message rest i above _ =>
        split
        · exact ⟨.inl rfl, id⟩
        · have hNext := hComplete { s with
            relay := s.relay.receive Publication.uuid (i :: above) message rest } above
          exact ⟨.inl hNext.1, hNext.2⟩

/-- What a step can do to an EVSE. -/
theorem gridStep_evses (input : GridInput) (place : Place) :
    (gridStep rounds grid s input).evses place = s.evses place ∨
      ∃ config request event, input = .evse place event ∧
        grid.module? place = some (.evse config request) ∧
        (gridStep rounds grid s input).evses place = requestStep request (s.evses place) event := by
  have hComplete (s : GridState) (p : Place) : (s.publishComplete rounds p).evses = s.evses := by
    rcases publishComplete_cases rounds s p with ⟨v, -, -, hNext⟩ | hNext
    · rw [hNext]
    · rw [hNext]
      rfl
  cases input with
  | ready p =>
      simp only [gridStep]
      split <;> exact .inl rfl
  | externalLimits p hour limits =>
      simp only [gridStep]
      split
      · split <;> exact .inl rfl
      · exact .inl rfl
  | energyPricing p pricing =>
      simp only [gridStep]
      split
      · split
        · exact .inl rfl
        · rw [hComplete]
          exact .inl rfl
      · exact .inl rfl
  | powermeter p =>
      simp only [gridStep]
      split
      · split
        · exact .inl rfl
        · rw [hComplete]
          exact .inl rfl
      · exact .inl rfl
  | evse p event =>
      simp only [gridStep]
      split
      · next config request hEvse =>
        have hUpdated : Function.update s.evses p (requestStep request (s.evses p) event) place =
            s.evses place ∨ ∃ config' request' event', GridInput.evse p event =
              .evse place event' ∧ grid.module? place = some (.evse config' request') ∧
            Function.update s.evses p (requestStep request (s.evses p) event) place =
              requestStep request' (s.evses place) event' := by
          by_cases hPlace : place = p
          · subst hPlace
            rw [Function.update_self]
            exact .inr ⟨config, request, event, rfl, hEvse, rfl⟩
          · rw [Function.update_of_ne hPlace]
            exact .inl rfl
        cases event <;> exact hUpdated
      · exact .inl rfl
  | deliver p =>
      simp only [gridStep, GridState.deliver]
      split
      · exact .inl rfl
      · exact .inl rfl
      · split
        · exact .inl rfl
        · rw [hComplete]
          exact .inl rfl

/-- Modules keep their uuids. -/
theorem gridStep_named (h : Named grid s) (input : GridInput) :
    Named grid (gridStep rounds grid s input) := by
  intro place uuid config hNode
  rcases (gridStep_nodes input place).1 with hRequest | ⟨_, _, _, _, -, -, hRequest⟩
  all_goals
    rw [hRequest]
    exact h place uuid config hNode

/-- Modules start with the uuids of their configurations. -/
theorem named_gridStart (hour : ℤ) : Named grid (gridStart grid hour) := by
  intro place uuid config hNode
  have hStart : (gridStart grid hour).nodes place =
      { request := initRequest uuid config hour } := by
    simp only [gridStart, startNode, hNode]
  rw [hStart]
  exact ⟨rfl, rfl⟩

/-- A module publishes under its own uuid. -/
theorem uuid_ownRequest (h : Named grid s) {place : Place} (hValid : grid.Valid place) :
    (grid.ownRequest s place).uuid = grid.uuidAt place := by
  obtain ⟨m, hModule⟩ := Option.isSome_iff_exists.mp hValid
  rw [EnergyGrid.uuidAt, hModule]
  cases m with
  | energyNode uuid config =>
      rw [ownRequest_of_energyNode hModule]
      exact (h place uuid config hModule).1
  | evse config request =>
      rw [EnergyGrid.ownRequest, hModule]
      rfl

section Runs

variable (grid rounds) (hour : ℤ)

/-- The modules after a list of inputs. -/
def gridRun (inputs : List GridInput) : GridState :=
  run (gridStep rounds grid) (gridStart grid hour) inputs

/-- What a module has published of itself at some time, as it then was. -/
def Published (inputs : List GridInput) (place : Place) (v : Publication) : Prop :=
  ∃ earlier, earlier <+: inputs ∧ grid.Valid place ∧ 0 < v.number ∧
    (gridRun grid rounds hour earlier).relay.own place = v ∧
    grid.ownRequest (gridRun grid rounds hour earlier) place = v.node

/-- Every module has published something. -/
def AllPublished (s : GridState) : Prop :=
  ∀ place, grid.Valid place → 0 < (s.relay.own place).number

/-- No message is on its way, and no publication is still merging prices. -/
structure Settled (s : GridState) : Prop where
  quiet : ∀ place, s.relay.inFlight place = []
  unlocked : ∀ place, grid.Valid place → (s.nodes place).isLocked = false

variable {grid rounds hour}

/-- The next input of a run. -/
theorem gridRun_snoc (inputs : List GridInput) (input : GridInput) :
    gridRun grid rounds hour (inputs ++ [input]) =
      gridStep rounds grid (gridRun grid rounds hour inputs) input :=
  run_snoc _ _ _ _

/-- The uuids stay where they are in every run. -/
theorem named_gridRun (inputs : List GridInput) : Named grid (gridRun grid rounds hour inputs) :=
  run_invariant (Named grid) (named_gridStart hour) (fun _ input h => gridStep_named h input) inputs

/-- What was published once remains so. -/
theorem Published.mono {inputs more : List GridInput} {place : Place} {v : Publication}
    (h : Published grid rounds hour inputs place v) :
    Published grid rounds hour (inputs ++ more) place v := by
  obtain ⟨earlier, hEarlier, h⟩ := h
  exact ⟨earlier, hEarlier.trans (List.prefix_append _ _), h⟩

/-- Two different modules have never published under the same uuid. -/
theorem naming_published (inputs : List GridInput) :
    Naming Publication.uuid grid.Valid grid.uuidAt (Published grid rounds hour inputs) where
  told_valid _ _ h := h.choose_spec.2.1
  told_key place v h := by
    obtain ⟨earlier, -, hValid, -, -, hOwn⟩ := h
    rw [Publication.uuid, ← hOwn]
    exact uuid_ownRequest (named_gridRun earlier) hValid
  above i place h := by
    obtain ⟨uuid, config, hNode⟩ := module?_of_valid_cons h
    rw [EnergyGrid.Valid, hNode]
    rfl
  injective p q := EnergyGrid.uuidAt_injective

/-- A step that sends something has published it. -/
theorem Sends.published {inputs : List GridInput} {input : GridInput} {place : Place}
    {v : Publication}
    (h : Sends grid (gridRun grid rounds hour inputs) (gridRun grid rounds hour (inputs ++ [input]))
      place v)
    (hOwn : (gridRun grid rounds hour (inputs ++ [input])).relay.own place = v) :
    Published grid rounds hour (inputs ++ [input]) place v := by
  refine ⟨_, List.prefix_refl _, h.valid, ?_, hOwn, h.node.symm⟩
  rw [h.number]
  exact Nat.succ_pos _

variable (grid rounds hour) in
/-- What holds after every input. -/
structure Upheld (inputs : List GridInput) : Prop where
  relay : (gridRun grid rounds hour inputs).relay.Invariant Publication.uuid grid.Valid
    (fun p => ((gridRun grid rounds hour inputs).nodes p).isLocked = false) grid.uuidAt
    (Published grid rounds hour inputs)
  spoken : ∀ place, grid.Valid place →
    0 < ((gridRun grid rounds hour inputs).relay.own place).number →
    (gridRun grid rounds hour inputs).relay.about Publication.uuid grid.uuidAt place ≠ []

/-- Before the first input nothing was sent. -/
theorem upheld_nil : Upheld grid rounds hour [] where
  relay := Relay.invariant_start _
  spoken _ _ h := absurd h (Nat.lt_irrefl 0)

/-- What a module publishes comes after what it has published before. -/
theorem Upheld.own_le {inputs : List GridInput} (h : Upheld grid rounds hour inputs)
    {next : GridState} {place : Place} {v : Publication}
    (hSends : Sends grid (gridRun grid rounds hour inputs) next place v)
    (hUuid : v.uuid = grid.uuidAt place) :
    (gridRun grid rounds hour inputs).relay.own place ≤ v := by
  let s := gridRun grid rounds hour inputs
  by_cases hNone : (s.relay.own place).number = 0
  · exact .inl hNone
  · have hSpoken := h.spoken place hSends.valid (Nat.pos_of_ne_zero hNone)
    obtain ⟨t, ht⟩ := List.exists_mem_of_ne_nil _ hSpoken
    have hTold := (h.relay.sound.authentic place hSends.valid t ht).root
    have hKey := h.relay.sound.key_of_about (naming_published inputs) hSends.valid ht
    obtain ⟨w, hw, hOlder⟩ := h.relay.sound.older place hSends.valid t ht [] t.value rfl
    cases hw
    obtain ⟨earlier, -, -, hNumber, -⟩ := hTold
    rcases hOlder with hZero | ⟨hSame, -⟩
    · exact absurd hZero hNumber.ne'
    · refine .inr ⟨hSame.symm.trans (hKey.trans hUuid.symm), ?_⟩
      rw [hSends.number]
      exact Nat.le_succ _

/-- The invariant of the messages, before a step, can already speak of what is true after it. -/
theorem Upheld.relay_next {inputs : List GridInput} (h : Upheld grid rounds hour inputs)
    (input : GridInput) :
    (gridRun grid rounds hour inputs).relay.Invariant Publication.uuid grid.Valid
      (fun p => ((gridRun grid rounds hour (inputs ++ [input])).nodes p).isLocked = false)
      grid.uuidAt (Published grid rounds hour (inputs ++ [input])) := by
  apply h.relay.mono fun _ _ hTells => hTells.mono
  intro p hUnlocked
  by_contra hLocked
  rw [gridRun_snoc] at hUnlocked
  cases ((gridStep_nodes input p).2 (Bool.not_eq_false _ ▸ hLocked)).symm.trans hUnlocked

/-- The step lemma of the relay, for all kinds of inputs. -/
theorem Upheld.snoc {inputs : List GridInput} (h : Upheld grid rounds hour inputs)
    (input : GridInput) : Upheld grid rounds hour (inputs ++ [input]) := by
  have hNaming : Naming Publication.uuid grid.Valid grid.uuidAt
    (Published grid rounds hour (inputs ++ [input])) := naming_published _
  have hRelay := h.relay_next input
  have hMoves : Moves grid _ (gridRun grid rounds hour (inputs ++ [input])) :=
    gridRun_snoc inputs input ▸ gridStep_moves h.relay.silent input
  cases hMoves with
  | quiet hSame => exact ⟨hSame ▸ hRelay, hSame ▸ h.spoken⟩
  | sent place v hSends hNext =>
      have hPublished := hSends.published (by rw [hNext, Relay.own_publish_self])
      have hOwn := h.own_le hSends (hNaming.told_key place v hPublished)
      refine ⟨hNext ▸ hRelay.publish hNaming hPublished hOwn, ?_⟩
      intro p hValid hNumber
      rw [hNext] at hNumber ⊢
      apply Relay.about_publish_ne_nil
      intro hOther
      rw [Relay.own_publish_other hOther] at hNumber
      exact h.spoken p hValid hNumber
  | arrived message rest hMessage hNext =>
      have hReceived := hRelay.receive hNaming hMessage
      rw [← hNext] at hReceived
      refine ⟨⟨hReceived.sound, fun p hValid hLive => ?_, hReceived.silent⟩, ?_⟩
      · exact hReceived.newest p hValid ⟨hLive, fun i => (List.cons_ne_nil i p).symm⟩
      · intro p hValid hNumber
        rw [hNext] at hNumber ⊢
        exact hRelay.about_receive_ne_nil hNaming hMessage hValid (h.spoken p hValid hNumber)
  | passedOn i above message rest v hMessage hSends hNext =>
      have hPublished := hSends.published (by rw [hNext, Relay.own_publish_self])
      have hOwn := h.own_le hSends (hNaming.told_key above v hPublished)
      have hSent := (hRelay.receive hNaming hMessage).publish hNaming hPublished
        ((congrFun (Relay.own_receive _ _ _) above).le.trans hOwn)
      rw [← hNext] at hSent
      refine ⟨⟨hSent.sound, fun p hValid hLive => ?_, hSent.silent⟩, ?_⟩
      · rw [hNext]
        apply Relay.newest_publish
        intro hOther
        apply (hRelay.receive hNaming hMessage).newest p hValid
        exact ⟨hLive, fun j hSame => hOther (List.cons.inj hSame).2.symm⟩
      · intro p hValid hNumber
        rw [hNext] at hNumber ⊢
        apply Relay.about_publish_ne_nil
        intro hOther
        rw [Relay.own_publish_other hOther, Relay.own_receive] at hNumber
        exact hRelay.about_receive_ne_nil hNaming hMessage hValid (h.spoken p hValid hNumber)
  | stuck i above message rest hMessage hLocked hNext =>
      have hReceived := hRelay.receive hNaming hMessage
      rw [← hNext] at hReceived
      refine ⟨⟨hReceived.sound, fun p hValid hLive => ?_, hReceived.silent⟩, ?_⟩
      · apply hReceived.newest p hValid
        refine ⟨hLive, fun j hSame => ?_⟩
        rw [← (List.cons.inj hSame).2, hLocked] at hLive
        cases hLive
      · intro p hValid hNumber
        rw [hNext] at hNumber ⊢
        rw [Relay.own_receive] at hNumber
        exact hRelay.about_receive_ne_nil hNaming hMessage hValid (h.spoken p hValid hNumber)

/-- The run lemma of the relay. -/
theorem upheld_gridRun (inputs : List GridInput) : Upheld grid rounds hour inputs := by
  induction inputs using List.reverseRecOn with
  | nil => exact upheld_nil
  | append_singleton inputs input ih => exact ih.snoc input

/-- What the energy manager holds is replaced by something that is at least as new. -/
theorem arrived_gridRun_snoc (inputs : List GridInput) (input : GridInput)
    {t : RoseTree Publication} (ht : (gridRun grid rounds hour inputs).managerRequest = some t) :
    ∃ t', (gridRun grid rounds hour (inputs ++ [input])).managerRequest = some t' ∧ Older t t' := by
  have hUpheld : Upheld grid rounds hour inputs := upheld_gridRun inputs
  have hRelay := hUpheld.relay
  have hMoves : Moves grid _ (gridRun grid rounds hour (inputs ++ [input])) :=
    gridRun_snoc inputs input ▸ gridStep_moves hRelay.silent input
  rw [GridState.managerRequest] at ht ⊢
  cases hMoves with
  | quiet hSame => exact ⟨t, hSame ▸ ht, .refl t⟩
  | sent place v hSends hNext => exact ⟨t, hNext ▸ ht, .refl t⟩
  | arrived message rest hMessage hNext => exact hNext ▸ hRelay.arrived_receive hMessage ht
  | passedOn i above message rest v hMessage hSends hNext =>
      exact hNext ▸ hRelay.arrived_receive hMessage ht
  | stuck i above message rest hMessage hLocked hNext =>
      exact hNext ▸ hRelay.arrived_receive hMessage ht

/-- What the energy manager holds is authentic, and no node has two children of one name. -/
theorem managerRequest_sound (inputs : List GridInput) {t : RoseTree Publication}
    (ht : (gridRun grid rounds hour inputs).managerRequest = some t) :
    Authentic (Published grid rounds hour inputs) [] t ∧ SiblingsDiffer Publication.uuid t := by
  let s := gridRun grid rounds hour inputs
  have hSound : s.relay.Sound Publication.uuid grid.Valid grid.uuidAt
    (Published grid rounds hour inputs) := (upheld_gridRun inputs).relay.sound
  have hAbout : t ∈ s.relay.about Publication.uuid grid.uuidAt [] := by
    rw [Relay.about, Relay.seen, show s.relay.arrived = some t from ht]
    exact List.mem_append_left _ (List.mem_singleton_self t)
  exact ⟨hSound.authentic [] valid_root t hAbout, hSound.differ [] valid_root t hAbout⟩

/-- At all times, the energy manager holds what modules have published, each below a publication
of its own node. No module stands in it twice. -/
theorem managerRequest_authentic (inputs : List GridInput) {t : RoseTree Publication}
    (ht : (gridRun grid rounds hour inputs).managerRequest = some t) :
    Authentic (Published grid rounds hour inputs) [] t ∧
      ∀ q q' v w, t.value? q = some v → t.value? q' = some w → v.uuid = w.uuid → q = q' := by
  obtain ⟨hAuthentic, hDiffer⟩ := managerRequest_sound inputs ht
  refine ⟨hAuthentic, fun q q' v w hv hw hUuid => ?_⟩
  exact hAuthentic.injective (naming_published inputs) hDiffer hv hw hUuid

/-- In the example, what has arrived was really published. -/
theorem twoModules_authentic :
    ∃ t, (gridRun twoModules 5 0 twoModulesInputs).managerRequest = some t ∧
      Authentic (Published twoModules 5 0 twoModulesInputs) [] t ∧
      ∀ q q' v w, t.value? q = some v → t.value? q' = some w → v.uuid = w.uuid → q = q' :=
  ⟨_, rfl, managerRequest_authentic twoModulesInputs rfl⟩

/-- Whatever happens, no module goes missing from what the energy manager holds, or back to
something that it had published before. -/
theorem managerRequest_older (inputs more : List GridInput) {t : RoseTree Publication}
    (ht : (gridRun grid rounds hour inputs).managerRequest = some t) :
    ∃ t', (gridRun grid rounds hour (inputs ++ more)).managerRequest = some t' ∧ Older t t' := by
  induction more using List.reverseRecOn with
  | nil => exact ⟨t, by rwa [List.append_nil], .refl t⟩
  | append_singleton more input ih =>
      obtain ⟨mid, hMid, hOlder⟩ := ih
      obtain ⟨t', ht', hOlder'⟩ := arrived_gridRun_snoc (inputs ++ more) input hMid
      exact ⟨t', by rwa [← List.append_assoc], hOlder.trans hOlder'⟩

/-- In the example, one more delivery brings something newer. -/
theorem twoModules_older :
    ∃ t t', (gridRun twoModules 5 0 (twoModulesInputs.take 5)).managerRequest = some t ∧
      (gridRun twoModules 5 0 (twoModulesInputs.take 5 ++ [.deliver []])).managerRequest = some t' ∧
      Older t t' := by
  obtain ⟨t', ht', hOlder⟩ := managerRequest_older (twoModulesInputs.take 5)
    [.deliver []] (rfl : (gridRun twoModules 5 0 (twoModulesInputs.take 5)).managerRequest = some _)
  exact ⟨_, t', rfl, ht', hOlder⟩

/-- When every module has published something and all messages have arrived, the energy manager
holds the last publications of all modules, each below that of its own node. -/
theorem managerRequest_mirrors (inputs : List GridInput)
    (hAll : AllPublished grid (gridRun grid rounds hour inputs))
    (hSettled : Settled grid (gridRun grid rounds hour inputs)) :
    ∃ t, (gridRun grid rounds hour inputs).managerRequest = some t ∧
      Mirrors Publication.uuid grid.Valid (gridRun grid rounds hour inputs).relay.own t := by
  have h : Upheld grid rounds hour inputs := upheld_gridRun inputs
  apply h.relay.mirrors hSettled.unlocked hSettled.quiet (naming_published inputs) valid_root
  intro place hValid
  exact h.spoken place hValid (hAll place hValid)

end Runs

end EverestCore.Grid
