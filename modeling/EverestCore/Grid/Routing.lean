import EverestCore.Grid.Requests
import EverestCore.EvseManager.LimitBounds

/-! Limits on their way down. An energy node calls all its consumers with what is not for itself,
and an EVSE looks at the uuid as well, so that it takes only what is for it. -/
namespace EverestCore.Grid
open Data Machine Energy EvseManager

section Takers

variable (uuid : String)

mutual

/-- `handle_enforce_limits` of the modules at and below a place: those that a limit for this uuid
is meant for. -/
def takers (place : Place) : RoseTree EnergyModule → List Place
  | .node (.energyNode own _) children =>
      if uuid = own then [place] else takersBelow place 0 children
  | .node (.evse config _) _ => if uuid = config.uuid then [place] else []

def takersBelow (place : Place) (i : ℕ) : List (RoseTree EnergyModule) → List Place
  | [] => []
  | child :: rest => takers (i :: place) child ++ takersBelow place (i + 1) rest

end

/-- The loop over the consumers as a single equation. -/
theorem takersBelow_eq (place : Place) (i : ℕ) (children : List (RoseTree EnergyModule)) :
    takersBelow uuid place i children =
      (children.zipIdx i).flatMap fun (child, j) => takers uuid (j :: place) child := by
  induction children generalizing i with
  | nil => rfl
  | cons child rest ih => rw [takersBelow, ih, List.zipIdx_cons, List.flatMap_cons]

/-- The call reaches no module twice. -/
theorem takers_sublist (tree : RoseTree EnergyModule) (place : Place) :
    (takers uuid place tree).Sublist ((tree.walk place).map Prod.fst) := by
  induction tree using RoseTree.induct generalizing place with
  | hNode m children ih =>
      have hBelow (i : ℕ) : (takersBelow uuid place i children).Sublist
          ((RoseTree.walkChildren place i children).map Prod.fst) := by
        clear m
        induction children generalizing i with
        | nil => exact List.Sublist.refl _
        | cons child rest ihRest =>
            rw [takersBelow, RoseTree.walkChildren, List.map_append]
            exact (ih child (by simp) (i :: place)).append
              (ihRest (fun c hc => ih c (by simp [hc])) (i + 1))
      rw [RoseTree.walk, List.map_cons]
      cases m with
      | energyNode own config =>
          rw [takers]
          split
          · exact (List.nil_sublist _).cons_cons place
          · exact (hBelow 0).cons _
      | evse config request =>
          rw [takers]
          split
          · exact (List.nil_sublist _).cons_cons place
          · exact List.nil_sublist _

/-- A module that takes the limit has the uuid. -/
theorem uuid_of_mem_takers {tree : RoseTree EnergyModule} {place target : Place}
    (h : target ∈ takers uuid place tree) :
    ∃ below m, target = below ++ place ∧ tree.value? below = some m ∧ m.uuid = uuid := by
  induction tree using RoseTree.induct generalizing place with
  | hNode m children ih =>
      have hHere (hUuid : uuid = m.uuid) (hTarget : target ∈ [place]) :
          ∃ below m', target = below ++ place ∧
            (RoseTree.node m children).value? below = some m' ∧ m'.uuid = uuid :=
        ⟨[], m, List.mem_singleton.mp hTarget, rfl, hUuid.symm⟩
      cases m with
      | energyNode own config =>
          rw [takers] at h
          split at h
          · next hUuid => exact hHere hUuid h
          · rw [takersBelow_eq, List.mem_flatMap] at h
            obtain ⟨⟨child, i⟩, hChild, hTarget⟩ := h
            have hGet := List.mem_zipIdx_iff_getElem?.mp hChild
            obtain ⟨below, m, rfl, hModule, hUuid⟩ := ih child (List.mem_of_getElem? hGet) hTarget
            refine ⟨below ++ [i], m, by simp, ?_, hUuid⟩
            rw [value?_node_snoc, hGet]
            exact hModule
      | evse config request =>
          rw [takers] at h
          split at h
          · next hUuid => exact hHere hUuid h
          · cases h

/-- A module takes the limit if it has the uuid and all modules above it pass the call on. -/
theorem mem_takers {tree : RoseTree EnergyModule} {place below : Place} {m : EnergyModule}
    (hModule : tree.value? below = some m) (hUuid : m.uuid = uuid)
    (hAbove : ∀ above, above <:+ below → above ≠ below →
      ∃ own config, tree.value? above = some (.energyNode own config) ∧ own ≠ uuid) :
    below ++ place ∈ takers uuid place tree := by
  induction tree using RoseTree.induct generalizing place below with
  | hNode m' children ih =>
      rcases List.eq_nil_or_concat' below with rfl | ⟨below, i, rfl⟩
      · obtain rfl : m' = m := Option.some.inj hModule
        subst hUuid
        cases m' with
        | energyNode own config => simp [takers, EnergyModule.uuid]
        | evse config request => simp [takers, EnergyModule.uuid]
      · obtain ⟨own, config, hRoot, hOther⟩ := hAbove [] (List.nil_suffix) (by simp)
        cases hRoot
        rw [value?_node_snoc] at hModule
        obtain ⟨child, hChild, hModule⟩ := Option.bind_eq_some_iff.mp hModule
        rw [takers, if_neg (Ne.symm hOther), takersBelow_eq, List.mem_flatMap]
        refine ⟨(child, i), List.mem_zipIdx_iff_getElem?.mpr hChild, ?_⟩
        rw [List.append_assoc, List.singleton_append]
        apply ih child (List.mem_of_getElem? hChild) hModule
        intro above hSuffix hNe
        have hAboveHere := hAbove (above ++ [i])
          (by obtain ⟨t, rfl⟩ := hSuffix; exact ⟨t, by simp⟩) (by simpa using hNe)
        rwa [value?_node_snoc, hChild] at hAboveHere

end Takers

namespace EnergyGrid

variable (grid : EnergyGrid)

/-- The modules that a limit for this uuid is meant for. -/
def takers (uuid : String) : List Place := Grid.takers uuid [] grid.tree

variable {grid}

/-- No module takes a limit twice. -/
theorem takers_nodup (uuid : String) : (grid.takers uuid).Nodup :=
  (RoseTree.nodup_walk [] grid.tree).sublist (takers_sublist uuid grid.tree [])

/-- A limit reaches exactly the module whose uuid it carries. No node on the way holds it back,
since the uuids are distinct. -/
theorem mem_takers_iff {uuid : String} {place : Place} :
    place ∈ grid.takers uuid ↔ grid.Valid place ∧ grid.uuidAt place = uuid := by
  constructor
  · intro h
    obtain ⟨below, m, rfl, hModule, rfl⟩ := uuid_of_mem_takers uuid h
    rw [List.append_nil, Valid, uuidAt, module?, hModule]
    exact ⟨rfl, rfl⟩
  · rintro ⟨hValid, hUuid⟩
    obtain ⟨m, hModule⟩ := Option.isSome_iff_exists.mp hValid
    rw [uuidAt, hModule] at hUuid
    rw [takers, ← List.append_nil place]
    apply mem_takers uuid hModule hUuid
    intro above hSuffix hNe
    -- only energy nodes have something below them, and a uuid stands for one module
    obtain ⟨t, rfl⟩ := hSuffix
    obtain ⟨t, i, rfl⟩ := (List.eq_nil_or_concat' t).resolve_left fun hNil => hNe (by simp [hNil])
    have hBelow : grid.Valid (i :: above) := by
      rw [Valid, module?, RoseTree.value?, Option.isSome_map] at hValid ⊢
      exact RoseTree.subtree?_isSome_of_suffix ⟨t, by simp⟩ hValid
    obtain ⟨own, config, hNode⟩ := module?_of_valid_cons hBelow
    refine ⟨own, config, hNode, ?_⟩
    rintro rfl
    exact hNe (grid.uuids _ _ _ _ hNode hModule hUuid.symm)

/-- The only module with its uuid takes the limit. -/
theorem takers_uuidAt {place : Place} (hValid : grid.Valid place) :
    grid.takers (grid.uuidAt place) = [place] := by
  apply List.perm_singleton.mp
  rw [List.perm_ext_iff_of_nodup (takers_nodup _) (List.nodup_singleton _)]
  intro other
  rw [mem_takers_iff, List.mem_singleton]
  constructor
  · rintro ⟨hOther, hUuid⟩
    exact uuidAt_injective hOther hValid hUuid
  · rintro rfl
    exact ⟨hValid, rfl⟩

end EnergyGrid

/-- What the EVSEs know of their limits, and what they have done. -/
abbrev Chargers := Place → LimitState × List LimitOutput

section Enforce

variable (grid : EnergyGrid) (targetVoltage : Place → ℚ)

/-- A module takes a limit. An energy node only publishes it for others. -/
def takeLimits (value : EnforcedLimits) (s : Chargers) (place : Place) : Option Chargers :=
  match grid.module? place with
  | some (.evse config _) => do
      let (next, outputs) ← handleEnforceLimits config (targetVoltage place) (s place).1 value
      return Function.update s place (next, (s place).2 ++ outputs)
  | _ => some s

/-- `call_enforce_limits` of the energy manager, for one value. -/
def callEnforceLimits (s : Chargers) (value : EnforcedLimits) : Option Chargers :=
  run? (takeLimits grid targetVoltage value) s (grid.takers value.uuid)

/-- `EnergyManager::enforce_limits`. -/
def enforceLimits (s : Chargers) (values : List EnforcedLimits) : Option Chargers :=
  run? (callEnforceLimits grid targetVoltage) s values

/-- The current that an EVSE is given, which is negative when it has to feed back. -/
def EnergyGrid.givenCurrent (values : List EnforcedLimits) (place : Place) : ℚ :=
  match grid.module? place, values.find? (·.uuid = grid.uuidAt place) with
  | some (.evse config _), some value => (chargerLimit config value.limitsRootSide).1
  | _, _ => 0

variable {grid targetVoltage}

/-- A module that takes a limit leaves the others alone. -/
theorem takeLimits_other {value : EnforcedLimits} {s next : Chargers} {place other : Place}
    (h : takeLimits grid targetVoltage value s other = some next) (hOther : place ≠ other) :
    next place = s place := by
  unfold takeLimits at h
  split at h
  · obtain ⟨taken, -, hNext⟩ := Option.bind_eq_some_iff.mp h
    cases hNext
    exact Function.update_of_ne hOther _ _
  · cases h
    rfl

/-- A value changes the EVSE with its uuid and nothing else. -/
theorem callEnforceLimits_at {value : EnforcedLimits} {s next : Chargers}
    (h : callEnforceLimits grid targetVoltage s value = some next) {place : Place}
    {config : EvseConfig} {request : RequestConfig}
    (hEvse : grid.module? place = some (.evse config request)) :
    if value.uuid = config.uuid then
      ∃ outputs, handleEnforceLimits config (targetVoltage place) (s place).1 value =
        some ((next place).1, outputs) ∧ (next place).2 = (s place).2 ++ outputs
    else next place = s place := by
  have hValid : grid.Valid place := by
    rw [EnergyGrid.Valid, hEvse]
    rfl
  have hUuid : grid.uuidAt place = config.uuid := by
    rw [EnergyGrid.uuidAt, hEvse]
    rfl
  split
  · next hMeant =>
    rw [callEnforceLimits, hMeant, ← hUuid, EnergyGrid.takers_uuidAt hValid] at h
    obtain ⟨_, hTaken, hLast⟩ := Option.bind_eq_some_iff.mp h
    cases hLast
    rw [takeLimits, hEvse] at hTaken
    obtain ⟨⟨state, outputs⟩, hHandle, hNext⟩ := Option.bind_eq_some_iff.mp hTaken
    cases hNext
    rw [Function.update_self]
    exact ⟨outputs, hHandle, rfl⟩
  · next hOther =>
    have hNot : place ∉ grid.takers value.uuid := fun hMem =>
      hOther ((EnergyGrid.mem_takers_iff.mp hMem).2.symm.trans hUuid)
    exact run?_invariant (fun places state => place ∉ places → state place = s place)
      (fun _ => rfl) (fun places other state state' hSame hStep hPlaces => by
        rw [List.mem_append, List.mem_singleton, not_or] at hPlaces
        rw [takeLimits_other hStep hPlaces.2]
        exact hSame hPlaces.1) h hNot

/-- The value is meant for the EVSE at a place. -/
def IsFor (grid : EnergyGrid) (value : EnforcedLimits) (place : Place) : Prop :=
  ∃ config request, grid.module? place = some (.evse config request) ∧ value.uuid = config.uuid

/-- Of values with different uuids, the one that is meant for an EVSE says what it is given. -/
theorem givenCurrent_of_mem {values : List EnforcedLimits}
    (hDistinct : (values.map EnforcedLimits.uuid).Nodup) {value : EnforcedLimits}
    (hValue : value ∈ values) {place : Place} {config : EvseConfig} {request : RequestConfig}
    (hEvse : grid.module? place = some (.evse config request)) (hUuid : value.uuid = config.uuid) :
    grid.givenCurrent values place = (chargerLimit config value.limitsRootSide).1 := by
  have hAt : grid.uuidAt place = config.uuid := by
    rw [EnergyGrid.uuidAt, hEvse]
    rfl
  have hFound : values.find? (·.uuid = grid.uuidAt place) = some value := by
    obtain ⟨found, hFound⟩ : ∃ found, values.find? (·.uuid = grid.uuidAt place) = some found := by
      rw [← Option.isSome_iff_exists, List.find?_isSome]
      exact ⟨value, hValue, decide_eq_true (hUuid.trans hAt.symm)⟩
    have hSame : found.uuid = value.uuid := by
      have hThere : found.uuid = grid.uuidAt place := by simpa using List.find?_some hFound
      rw [hThere, hAt, hUuid]
    rw [hFound, List.inj_on_of_nodup_map hDistinct (List.mem_of_find?_eq_some hFound) hValue hSame]
  rw [EnergyGrid.givenCurrent, hEvse, hFound]

/-- Only an EVSE does something with a value. -/
theorem callEnforceLimits_notEvse {value : EnforcedLimits} {s next : Chargers}
    (h : callEnforceLimits grid targetVoltage s value = some next) {place : Place}
    (hModule : ∀ config request, grid.module? place ≠ some (.evse config request)) :
    next place = s place := by
  refine run?_invariant (fun _ state => state place = s place) rfl ?_ h
  intro _ other state state' hSame hTaken
  refine Eq.trans ?_ hSame
  by_cases hOther : place = other
  · rw [takeLimits.eq_def, ← hOther] at hTaken
    split at hTaken
    · next config request hEvse => exact absurd hEvse (hModule config request)
    · cases hTaken
      rfl
  · exact takeLimits_other hTaken hOther

/-- A call with one of the values of an iteration tells the EVSE that it is meant for the
current that this one is given, once, and changes nothing of any other module. -/
theorem callEnforceLimits_told {value : EnforcedLimits} {s next : Chargers}
    (h : callEnforceLimits grid targetVoltage s value = some next) {values : List EnforcedLimits}
    (hDistinct : (values.map EnforcedLimits.uuid).Nodup) (hValue : value ∈ values)
    (place : Place) :
    (IsFor grid value place → ∃ outputs, (next place).2 = (s place).2 ++ outputs ∧
      outputs.filterMap LimitOutput.maxCurrent? = [|grid.givenCurrent values place|]) ∧
    (¬IsFor grid value place → next place = s place) := by
  constructor
  · rintro ⟨config, request, hEvse, hUuid⟩
    have hAt := callEnforceLimits_at h hEvse
    rw [if_pos hUuid] at hAt
    obtain ⟨outputs, hHandle, hOutputs⟩ := hAt
    refine ⟨outputs, hOutputs, ?_⟩
    rw [handleEnforceLimits_maxCurrent? config hUuid hHandle, chargerMaxCurrent_eq_abs,
      givenCurrent_of_mem hDistinct hValue hEvse hUuid]
  · intro hOther
    by_cases hEvse : ∃ config request, grid.module? place = some (.evse config request)
    · obtain ⟨config, request, hEvse⟩ := hEvse
      have hAt := callEnforceLimits_at h hEvse
      rwa [if_neg fun hUuid => hOther ⟨config, request, hEvse, hUuid⟩] at hAt
    · exact callEnforceLimits_notEvse h fun config request hModule =>
        hEvse ⟨config, request, hModule⟩

/-- The calls of an iteration, as far as they have come, have told each EVSE whose value was sent,
and have changed nothing of any other module. -/
theorem enforceLimits_told {values sent : List EnforcedLimits} {s next : Chargers}
    (h : enforceLimits grid targetVoltage s sent = some next) (hSent : sent <+: values)
    (hDistinct : (values.map EnforcedLimits.uuid).Nodup) (place : Place) :
    ((∃ value ∈ sent, IsFor grid value place) → ∃ outputs,
      (next place).2 = (s place).2 ++ outputs ∧
        outputs.filterMap LimitOutput.maxCurrent? = [|grid.givenCurrent values place|]) ∧
    ((¬∃ value ∈ sent, IsFor grid value place) → next place = s place) := by
  induction sent using List.reverseRecOn generalizing next with
  | nil =>
      cases h
      exact ⟨fun ⟨_, hNone, _⟩ => (List.not_mem_nil hNone).elim, fun _ => rfl⟩
  | append_singleton sent value ih =>
      obtain ⟨mid, hMid, hLast⟩ := (run?_snoc_eq_some _).mp h
      have hEarlier := ih hMid ((List.prefix_append sent [value]).trans hSent)
      have hValue : value ∈ values := hSent.subset (by simp)
      obtain ⟨hTold, hOther⟩ := callEnforceLimits_told hLast hDistinct hValue place
      have hSplit : (∃ v ∈ sent ++ [value], IsFor grid v place) ↔
          (∃ v ∈ sent, IsFor grid v place) ∨ IsFor grid value place := by
        simp [or_and_right, exists_or]
      rw [hSplit]
      by_cases hHere : IsFor grid value place
      · -- no value before it has the same uuid
        have hBefore : ¬∃ v ∈ sent, IsFor grid v place := by
          rintro ⟨v, hv, config, request, hEvse, hUuid⟩
          obtain ⟨config', request', hEvse', hUuid'⟩ := hHere
          cases hEvse.symm.trans hEvse'
          have hNodup := hDistinct.sublist (hSent.sublist.map EnforcedLimits.uuid)
          rw [List.map_append, List.map_singleton, List.nodup_append] at hNodup
          exact hNodup.2.2 _ (List.mem_map_of_mem hv) _ (List.mem_singleton_self _)
            (hUuid.trans hUuid'.symm)
        refine ⟨fun _ => ?_, fun hNone => absurd (Or.inr hHere) hNone⟩
        obtain ⟨outputs, hOutputs, hCurrent⟩ := hTold hHere
        exact ⟨outputs, by rw [hOutputs, hEarlier.2 hBefore], hCurrent⟩
      · rw [hOther hHere]
        refine ⟨fun hSome => hEarlier.1 (hSome.resolve_right hHere), fun hNone => ?_⟩
        exact hEarlier.2 fun hSome => hNone (.inl hSome)

end Enforce

end EverestCore.Grid
