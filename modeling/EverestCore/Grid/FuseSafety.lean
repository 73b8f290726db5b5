import EverestCore.Grid.Routing
import EverestCore.Grid.Manager

/-! No fuse of the tree is exceeded by what the EVSEs below it are given, whatever the modules have
sent each other before, and whatever of it has arrived. -/
namespace EverestCore.Grid
open Data Machine Energy EvseManager

/-! What is demanded of configurations and of the limits that come from outside. -/

/-- Limits of a schedule as its type demands them. -/
def WellFormedEntries (entries : List ScheduleReqEntry) : Prop := ∀ e ∈ entries, e.WellFormed

structure WellFormedLimits (limits : ExternalLimits) : Prop where
  scheduleImport : ∀ entries, limits.scheduleImport = some entries → WellFormedEntries entries
  scheduleExport : ∀ entries, limits.scheduleExport = some entries → WellFormedEntries entries

structure WellFormedNode (config : EnergyNodeConfig) : Prop where
  fuseLimitA : 0 ≤ config.fuseLimitA
  phaseCount : 1 ≤ config.phaseCount

/-- The hardware of an EVSE in one direction. -/
structure WellFormedCapabilities (caps : HardwareCapabilities) (efficiency : Option ℚ) : Prop where
  maxCurrentA : 0 ≤ caps.maxCurrentA
  maxPhaseCount : 1 ≤ caps.maxPhaseCount
  efficiency : ∀ x, efficiency = some x → 0 ≤ x

structure WellFormedRequest (config : RequestConfig) : Prop where
  importSide : WellFormedCapabilities config.hwCapabilities.importSide
    config.conversionEfficiencyExport
  exportSide : WellFormedCapabilities config.hwCapabilities.exportSide
    config.conversionEfficiencyImport

structure WellFormedGrid (grid : EnergyGrid) : Prop where
  nodes : ∀ place uuid config, grid.module? place = some (.energyNode uuid config) →
    WellFormedNode config
  evses : ∀ place config request, grid.module? place = some (.evse config request) →
    WellFormedRequest request

/-- What is sent to the modules. A current that an energy node is limited to is given for the leaf
side as well, since its own fuse only counts where there is one. -/
def WellFormedInput : GridInput → Prop
  | .externalLimits _ _ limits => WellFormedLimits limits ∧
      ∀ entries, limits.scheduleImport = some entries → ∀ e ∈ entries,
        e.limitsToLeaves.acMaxCurrentA.isSome
  | .evse _ (.updateLocalEnergyLimit limits) => WellFormedLimits limits
  | _ => True

/-! What is published then. -/

/-- A bound that is applied replaces a missing value, and a higher one. -/
theorem boundOrSet_eq_some {α : Type*} [LinearOrder α] {bound x : α} {value : Option α}
    (h : boundOrSet bound value = some x) : x ≤ bound ∧ (x = bound ∨ value = some x) := by
  cases value with
  | none =>
      cases h
      exact ⟨le_rfl, .inl rfl⟩
  | some y =>
      rw [boundOrSet] at h
      split at h
      · cases h
        exact ⟨le_rfl, .inl rfl⟩
      · next hLe =>
        cases h
        exact ⟨not_lt.mp hLe, .inr rfl⟩

/-- An energy node that puts its own fuse into an entry keeps it well formed. -/
theorem wellFormed_limitRootSide {maxCurrent : ℚ} {maxPhaseCount : ℤ} {e : ScheduleReqEntry}
    (hCurrent : 0 ≤ maxCurrent) (hPhases : 1 ≤ maxPhaseCount) (h : e.WellFormed) :
    (limitRootSide maxCurrent maxPhaseCount e).WellFormed where
  limitsToRoot :=
    { totalPowerW := h.limitsToRoot.totalPowerW
      acMaxCurrentA := by
        intro x hx
        rcases (boundOrSet_eq_some hx).2 with rfl | hOld
        · exact hCurrent
        · exact h.limitsToRoot.acMaxCurrentA x hOld
      acMaxPhaseCount := by
        intro n hn
        rcases (boundOrSet_eq_some hn).2 with rfl | hOld
        · exact hPhases
        · exact h.limitsToRoot.acMaxPhaseCount n hOld }
  limitsToLeaves := h.limitsToLeaves
  conversionEfficiency := h.conversionEfficiency

/-- No limits at all are well formed. -/
theorem wellFormed_noLimits : LimitsReq.WellFormed {} := by decide

/-- The schedule of a node without limits from outside is made of its configuration. -/
theorem wellFormed_getLocalSchedule {config : EnergyNodeConfig} (h : WellFormedNode config)
    (hour : ℤ) : (getLocalSchedule config hour).WellFormed := by
  have hLimits : LimitsReq.WellFormed
      { acMaxPhaseCount := config.phaseCount, acMaxCurrentA := config.fuseLimitA } := by
    constructor <;> intro x hx <;> cases hx
    · exact h.fuseLimitA
    · exact h.phaseCount
  exact ⟨hLimits, hLimits, fun _ hx => (by cases hx)⟩

/-- The schedule of a node with limits from outside. -/
theorem wellFormed_externalSchedule {config : EnergyNodeConfig} (h : WellFormedNode config)
    (hour : ℤ) {current external : Option (List ScheduleReqEntry)}
    (hCurrent : ∀ entries, current = some entries → WellFormedEntries entries)
    (hExternal : ∀ entries, external = some entries → WellFormedEntries entries) :
    ∀ entries, externalSchedule config hour current external = some entries →
      WellFormedEntries entries := by
  intro entries hEntries e he
  unfold externalSchedule at hEntries
  split at hEntries
  · exact hCurrent entries hEntries e he
  · cases hEntries
    rw [List.mem_singleton.mp he]
    exact wellFormed_getLocalSchedule h hour
  · next given _ =>
    cases hEntries
    obtain ⟨e', he', rfl⟩ := List.mem_map.mp he
    exact wellFormed_limitRootSide h.fuseLimitA h.phaseCount (hExternal _ rfl e' he')

section Evse

variable {caps : HardwareCapabilities} {efficiency : Option ℚ}
  (hCaps : WellFormedCapabilities caps efficiency)

include hCaps

/-- An EVSE puts its hardware into every entry that it publishes. -/
theorem wellFormed_applyHardwareLimits {isDc : Bool} {e : ScheduleReqEntry} (h : e.WellFormed) :
    (applyHardwareLimits caps isDc e).WellFormed := by
  have hLimited := wellFormed_limitRootSide hCaps.maxCurrentA hCaps.maxPhaseCount h
  have hRoot := hLimited.limitsToRoot
  have hEntry : (applyHardwareLimits caps false e).WellFormed :=
    ⟨⟨hRoot.totalPowerW, hRoot.acMaxCurrentA, hRoot.acMaxPhaseCount⟩, h.limitsToLeaves,
      h.conversionEfficiency⟩
  cases isDc with
  | false => exact hEntry
  | true =>
      exact ⟨hEntry.limitsToRoot,
        ⟨h.limitsToLeaves.totalPowerW, fun _ hx => (by cases hx), h.limitsToLeaves.acMaxPhaseCount⟩,
        h.conversionEfficiency⟩

/-- The schedule of an EVSE without limits from outside is made of its hardware. -/
theorem wellFormed_clearRequestSchedule (hour : ℤ) :
    WellFormedEntries (clearRequestSchedule caps efficiency hour) := by
  intro e he
  rw [List.mem_singleton.mp he]
  refine ⟨?_, wellFormed_noLimits,
    hCaps.efficiency⟩
  constructor <;> intro x hx <;> cases hx
  · exact hCaps.maxCurrentA
  · exact hCaps.maxPhaseCount

/-- What an EVSE publishes is well formed in every state of its charger. -/
theorem wellFormed_publishedSchedule {isDc : Bool} {hour : ℤ} {state : EvseState}
    {localLimits : Option (List ScheduleReqEntry)} {current : List ScheduleReqEntry}
    (hLimits : ∀ entries, localLimits = some entries → WellFormedEntries entries)
    (hCurrent : WellFormedEntries current) :
    WellFormedEntries (publishedSchedule caps efficiency isDc hour state localLimits current) := by
  have hClear := wellFormed_clearRequestSchedule hCaps hour
  unfold publishedSchedule
  dsimp only
  split
  · intro e he
    obtain ⟨e', he', rfl⟩ := List.mem_map.mp he
    apply wellFormed_applyHardwareLimits hCaps
    split at he'
    · cases current with
      | nil => cases he'
      | cons first rest =>
          rcases List.mem_cons.mp he' with rfl | hRest
          · have hFirst := hCurrent first List.mem_cons_self
            exact ⟨hFirst.limitsToRoot, hFirst.limitsToLeaves, hFirst.conversionEfficiency⟩
          · exact hCurrent e' (List.mem_cons_of_mem _ hRest)
    · exact hClear e' he'
    · exact hLimits _ rfl e' he'
  · intro e he
    rw [clearRequestSchedule, List.modifyHead_cons, List.mem_singleton] at he
    have hOne := hClear _ List.mem_cons_self
    rw [he]
    cases isDc <;>
      refine ⟨hOne.limitsToRoot, ?_, hOne.conversionEfficiency⟩ <;>
      constructor <;> intro x hx <;> cases hx
    · exact le_rfl
    · exact le_rfl

end Evse

/-- The request of an EVSE, and the limits that it will be made of. -/
structure WellFormedEvse (s : RequestState) : Prop where
  localEnergyLimits : WellFormedLimits s.localEnergyLimits
  scheduleImport : WellFormedEntries s.scheduleImport
  scheduleExport : WellFormedEntries s.scheduleExport

/-- At first an EVSE knows its hardware only. -/
theorem wellFormed_requestStart {config : RequestConfig} (h : WellFormedRequest config)
    (hour : ℤ) : WellFormedEvse (requestStart config hour) where
  localEnergyLimits := ⟨fun _ hx => (by cases hx), fun _ hx => (by cases hx)⟩
  scheduleImport := wellFormed_clearRequestSchedule h.importSide hour
  scheduleExport := wellFormed_clearRequestSchedule h.exportSide hour

/-- One entry that limits the leaf side. -/
theorem wellFormed_leafEntry {now : ℤ} {limits : LimitsReq} (h : limits.WellFormed) :
    ∀ entries, some [{ timestamp := now, limitsToLeaves := limits }] = some entries →
      WellFormedEntries entries := by
  rintro _ ⟨⟩ e he
  rw [List.mem_singleton.mp he]
  exact ⟨wellFormed_noLimits, h,
    fun _ hx => (by cases hx)⟩

/-- A limit of a power alone. -/
theorem wellFormed_power {watt : ℚ} (h : 0 ≤ watt) :
    LimitsReq.WellFormed { totalPowerW := some watt } := by
  constructor <;> intro x hx <;> cases hx
  exact h

/-- A limit of a current alone. -/
theorem wellFormed_current {ampere : ℚ} (h : 0 ≤ ampere) :
    LimitsReq.WellFormed { acMaxCurrentA := some ampere } := by
  constructor <;> intro x hx <;> cases hx
  exact h

/-- Every event at an EVSE leaves its request well formed, if the limits that come with it are. -/
theorem wellFormed_requestStep {config : RequestConfig} (hConfig : WellFormedRequest config)
    {s : RequestState} (h : WellFormedEvse s) {event : RequestEvent}
    (hEvent : ∀ limits, event = .updateLocalEnergyLimit limits → WellFormedLimits limits) :
    WellFormedEvse (requestStep config s event) := by
  cases event with
  | updateLocalEnergyLimit limits => exact ⟨hEvent limits rfl, h.scheduleImport, h.scheduleExport⟩
  | updateLocalMaxWattLimit maxWatt now =>
      simp only [requestStep, updateLocalMaxWattLimit]
      split
      · next hSign =>
        exact ⟨⟨wellFormed_leafEntry (wellFormed_power hSign),
          wellFormed_leafEntry (wellFormed_power le_rfl)⟩, h.scheduleImport, h.scheduleExport⟩
      · next hSign =>
        have hBack : 0 ≤ -maxWatt := by linarith
        exact ⟨⟨wellFormed_leafEntry (wellFormed_power le_rfl),
          wellFormed_leafEntry (wellFormed_power hBack)⟩, h.scheduleImport, h.scheduleExport⟩
  | updateLocalMaxCurrentLimit maxCurrent now =>
      simp only [requestStep, updateLocalMaxCurrentLimit]
      split
      · exact h
      · split
        · next hSign =>
          exact ⟨⟨wellFormed_leafEntry (wellFormed_current hSign),
            wellFormed_leafEntry (wellFormed_current le_rfl)⟩, h.scheduleImport, h.scheduleExport⟩
        · next hSign =>
          have hBack : 0 ≤ -maxCurrent := by linarith
          exact ⟨⟨wellFormed_leafEntry (wellFormed_current le_rfl),
            wellFormed_leafEntry (wellFormed_current hBack)⟩, h.scheduleImport, h.scheduleExport⟩
  | publish state hour =>
      have hLimits := h.localEnergyLimits
      exact ⟨hLimits,
        wellFormed_publishedSchedule hConfig.importSide hLimits.scheduleImport h.scheduleImport,
        wellFormed_publishedSchedule hConfig.exportSide hLimits.scheduleExport h.scheduleExport⟩

/-- An import schedule that tells the market about the fuse in each of its entries. -/
def Fused (config : EnergyNodeConfig) (node : RequestNode) : Prop :=
  ∃ entries, node.scheduleImport = some entries ∧ entries ≠ [] ∧ ∀ e ∈ entries,
    (∃ x, e.limitsToRoot.acMaxCurrentA = some x ∧ x ≤ config.fuseLimitA) ∧
      e.limitsToLeaves.acMaxCurrentA.isSome

/-- At first a node publishes its fuse. -/
theorem fused_initRequest (uuid : String) (config : EnergyNodeConfig) (hour : ℤ) :
    Fused config (initRequest uuid config hour) := by
  refine ⟨_, rfl, List.cons_ne_nil _ _, fun e he => ?_⟩
  rw [List.mem_singleton.mp he]
  exact ⟨⟨config.fuseLimitA, rfl, le_rfl⟩, rfl⟩

/-- With limits from outside, a node still publishes its fuse, if they have a current for the leaf
side. -/
theorem fused_setExternalLimits {config : EnergyNodeConfig} {node : RequestNode}
    (h : Fused config node) (hour : ℤ) {limits : ExternalLimits}
    (hLeaves : ∀ entries, limits.scheduleImport = some entries → ∀ e ∈ entries,
      e.limitsToLeaves.acMaxCurrentA.isSome) :
    Fused config (setExternalLimits config hour limits node) := by
  cases hImport : limits.scheduleImport with
  | none =>
      obtain ⟨entries, hEntries, h⟩ := h
      exact ⟨entries, by simp only [setExternalLimits, hImport, externalSchedule, hEntries], h⟩
  | some entries =>
      cases entries with
      | nil =>
          refine ⟨[getLocalSchedule config hour], ?_, List.cons_ne_nil _ _, fun e he => ?_⟩
          · simp only [setExternalLimits, hImport, externalSchedule]
          · rw [List.mem_singleton.mp he]
            exact ⟨⟨config.fuseLimitA, rfl, le_rfl⟩, rfl⟩
      | cons first rest =>
          refine ⟨(first :: rest).map (limitRootSide config.fuseLimitA config.phaseCount), ?_,
            by simp, fun e he => ?_⟩
          · simp only [setExternalLimits, hImport, externalSchedule]
          · obtain ⟨e', he', rfl⟩ := List.mem_map.mp he
            refine ⟨?_, hLeaves _ hImport e' he'⟩
            have hBound : ∃ x, boundOrSet config.fuseLimitA e'.limitsToRoot.acMaxCurrentA =
                some x := by
              cases e'.limitsToRoot.acMaxCurrentA with
              | none => exact ⟨_, rfl⟩
              | some y =>
                  rw [boundOrSet]
                  split <;> exact ⟨_, rfl⟩
            obtain ⟨x, hx⟩ := hBound
            exact ⟨x, hx, (boundOrSet_eq_some hx).1⟩

/-- What a node with a fuse tells the market is a limit that is not above the fuse. -/
theorem importMaxAvailable_of_fused {config : EnergyNodeConfig} {node : RequestNode}
    (h : Fused config node) (g : Globals) (i : Slot g) :
    ∃ x, (maxSide g node true i).acMaxCurrentA = some x ∧ x ≤ config.fuseLimitA := by
  obtain ⟨entries, hEntries, hNonempty, hEach⟩ := h
  obtain ⟨e, hFound⟩ := findEntry_isSome (g.timestamps.get i) true hNonempty
  obtain ⟨⟨x, hx, hFuse⟩, hLeaf⟩ := hEach e (mem_of_findEntry hFound)
  obtain ⟨y, hy⟩ := Option.isSome_iff_exists.mp hLeaf
  simp only [maxSide, if_true, importMaxAvailable, maxAvailable, hEntries, getMaxAvailableEnergy,
    hFound, mergeLimits, hx, hy, leafToRoot, lowerToRoot]
  split
  · exact ⟨x, rfl, hFuse⟩
  · next hLe => exact ⟨_, rfl, (not_lt.mp hLe).trans hFuse⟩

/-- What the modules would publish, and what it is made of. -/
structure WellFormedState (grid : EnergyGrid) (s : GridState) : Prop where
  nodes : ∀ place uuid config, grid.module? place = some (.energyNode uuid config) →
    (s.nodes place).request.WellFormed ∧ Fused config (s.nodes place).request
  evses : ∀ place config request, grid.module? place = some (.evse config request) →
    WellFormedEvse (s.evses place)

variable {grid : EnergyGrid} {rounds : ℕ} {hour : ℤ}

/-- All modules start well formed. -/
theorem wellFormed_gridStart (hGrid : WellFormedGrid grid) :
    WellFormedState grid (gridStart grid hour) where
  nodes place uuid config hNode := by
    have hStart : ((gridStart grid hour).nodes place).request = initRequest uuid config hour := by
      simp only [gridStart, startNode, hNode]
    have hLocal := wellFormed_getLocalSchedule (hGrid.nodes place uuid config hNode) hour
    rw [hStart]
    refine ⟨⟨?_, ?_⟩, fused_initRequest uuid config hour⟩
    all_goals
      rintro _ ⟨⟩ e he
      rw [List.mem_singleton.mp he]
      exact hLocal
  evses place config request hEvse := by
    have hStart : (gridStart grid hour).evses place = requestStart request hour := by
      simp only [gridStart, startEvse, hEvse]
    rw [hStart]
    exact wellFormed_requestStart (hGrid.evses place config request hEvse) hour

/-- One input changes one module, which stays well formed. -/
theorem wellFormed_gridStep (hGrid : WellFormedGrid grid) {s : GridState}
    (h : WellFormedState grid s) {input : GridInput} (hInput : WellFormedInput input) :
    WellFormedState grid (gridStep rounds grid s input) where
  nodes place uuid config hNode := by
    obtain ⟨hWellFormed, hFused⟩ := h.nodes place uuid config hNode
    rcases (gridStep_nodes input place).1 with
      hSame | ⟨uuid', config', hour, limits, rfl, hNode', hNext⟩
    · rw [hSame]
      exact ⟨hWellFormed, hFused⟩
    · cases hNode.symm.trans hNode'
      have hConfig := hGrid.nodes place uuid config hNode
      obtain ⟨hLimits, hLeaves⟩ := hInput
      rw [hNext]
      refine ⟨⟨?_, ?_⟩, fused_setExternalLimits hFused hour hLeaves⟩
      · exact wellFormed_externalSchedule hConfig hour hWellFormed.scheduleImport
          hLimits.scheduleImport
      · exact wellFormed_externalSchedule hConfig hour hWellFormed.scheduleExport
          hLimits.scheduleExport
  evses place config request hEvse := by
    have hState := h.evses place config request hEvse
    rcases gridStep_evses input place with hSame | ⟨config', request', event, rfl, hEvse', hNext⟩
    · rw [hSame]
      exact hState
    · cases hEvse.symm.trans hEvse'
      rw [hNext]
      apply wellFormed_requestStep (hGrid.evses place config request hEvse) hState
      rintro limits rfl
      exact hInput

/-- The run lemma for the state of the modules. -/
theorem wellFormed_gridRun (hGrid : WellFormedGrid grid) {inputs : List GridInput}
    (hInputs : ∀ input ∈ inputs, WellFormedInput input) :
    WellFormedState grid (gridRun grid rounds hour inputs) := by
  induction inputs using List.reverseRecOn with
  | nil => exact wellFormed_gridStart hGrid
  | append_singleton inputs input ih =>
      rw [gridRun_snoc]
      apply wellFormed_gridStep hGrid
      · exact ih fun input' h => hInputs input' (List.mem_append_left _ h)
      · exact hInputs input (List.mem_append_right _ (List.mem_singleton_self _))

/-! The market that the energy manager opens. -/

/-- Whatever a module has ever published is well formed. -/
theorem Published.node_wellFormed (hGrid : WellFormedGrid grid) {inputs : List GridInput}
    (hInputs : ∀ input ∈ inputs, WellFormedInput input) {place : Place} {v : Publication}
    (h : Published grid rounds hour inputs place v) : v.node.WellFormed := by
  obtain ⟨earlier, hEarlier, hValid, -, -, hOwn⟩ := h
  have hState : WellFormedState grid (gridRun grid rounds hour earlier) :=
    wellFormed_gridRun hGrid fun input hInput => hInputs input (hEarlier.subset hInput)
  obtain ⟨m, hModule⟩ := Option.isSome_iff_exists.mp hValid
  rw [← hOwn]
  cases m with
  | energyNode uuid config =>
      rw [ownRequest_of_energyNode hModule]
      exact (hState.nodes place uuid config hModule).1
  | evse config request =>
      have hEvse := hState.evses place config request hModule
      rw [EnergyGrid.ownRequest, hModule]
      refine ⟨?_, ?_⟩ <;> rintro _ ⟨⟩
      · exact hEvse.scheduleImport
      · exact hEvse.scheduleExport

/-- Whatever a node has ever published holds its fuse. -/
theorem Published.node_fused (hGrid : WellFormedGrid grid) {inputs : List GridInput}
    (hInputs : ∀ input ∈ inputs, WellFormedInput input) {place : Place} {v : Publication}
    (h : Published grid rounds hour inputs place v) {uuid : String} {config : EnergyNodeConfig}
    (hNode : grid.module? place = some (.energyNode uuid config)) : Fused config v.node := by
  obtain ⟨earlier, hEarlier, -, -, -, hOwn⟩ := h
  have hState : WellFormedState grid (gridRun grid rounds hour earlier) :=
    wellFormed_gridRun hGrid fun input hInput => hInputs input (hEarlier.subset hInput)
  rw [← hOwn, ownRequest_of_energyNode hNode]
  exact (hState.nodes place uuid config hNode).2

/-- What is published says truly whether it comes from an EVSE. -/
theorem Published.nodeType_iff {inputs : List GridInput} {place : Place} {v : Publication}
    (h : Published grid rounds hour inputs place v) :
    v.node.nodeType = .evse ↔
      ∃ config request, grid.module? place = some (.evse config request) := by
  obtain ⟨earlier, -, hValid, -, -, hOwn⟩ := h
  obtain ⟨m, hModule⟩ := Option.isSome_iff_exists.mp hValid
  rw [← hOwn]
  cases m with
  | energyNode uuid config =>
      rw [ownRequest_of_energyNode hModule, (named_gridRun earlier place uuid config hModule).2,
        hModule]
      simp
  | evse config request =>
      rw [EnergyGrid.ownRequest, hModule]
      simp [evseRequest]

section Market

variable {inputs : List GridInput} {t : RoseTree Publication}
  (ht : (gridRun grid rounds hour inputs).managerRequest = some t)
  {m : Market} (hRequest : m.energyFlowRequest = t.map Publication.node)

include hRequest

/-- The market places are the publications that have arrived. -/
theorem node?_eq (q : Place) : m.node? q = (t.value? q).map Publication.node := by
  rw [Market.node?, hRequest, RoseTree.value?_map]

include ht

/-- Behind every market place there is a module that has published it. -/
theorem exists_published {q : Place} {node : RequestNode} (hNode : m.node? q = some node) :
    ∃ v p, t.value? q = some v ∧ v.node = node ∧ Published grid rounds hour inputs p v := by
  rw [node?_eq hRequest] at hNode
  obtain ⟨v, hv, rfl⟩ := Option.map_eq_some_iff.mp hNode
  obtain ⟨p, hp⟩ := (managerRequest_sound inputs ht).1.exists_tells hv
  exact ⟨v, p, hv, rfl, hp⟩

/-- What the market has of a node are the limits of that node. -/
theorem wellFormed_market (hGrid : WellFormedGrid grid)
    (hInputs : ∀ input ∈ inputs, WellFormedInput input) (hAmpere : 0 < m.globals.sliceAmpere)
    (hWatt : 0 < m.globals.sliceWatt) (hVoltage : 0 < m.nominalAcVoltage) : m.WellFormed where
  nodes q node hNode := by
    obtain ⟨v, p, -, rfl, hPublished⟩ := exists_published ht hRequest hNode
    exact hPublished.node_wellFormed hGrid hInputs
  sliceAmpere := hAmpere
  sliceWatt := hWatt
  nominalAcVoltage := hVoltage

/-- No module stands in the market twice. -/
theorem uuids_market {q q' : Place} {node node' : RequestNode} (hNode : m.node? q = some node)
    (hNode' : m.node? q' = some node') (hUuid : node.uuid = node'.uuid) : q = q' := by
  obtain ⟨v, p, hv, rfl, -⟩ := exists_published ht hRequest hNode
  obtain ⟨w, p', hw, rfl, -⟩ := exists_published ht hRequest hNode'
  obtain ⟨hAuthentic, hDiffer⟩ := managerRequest_sound inputs ht
  exact hAuthentic.injective (naming_published inputs) hDiffer hv hw hUuid

/-- Nothing is connected to an EVSE, so nothing that is published stands below it. -/
theorem evsesAreLeaves_market : EvsesAreLeaves m.energyFlowRequest := by
  rintro q q' ⟨node, hNode, hType⟩ ⟨node', hNode', -⟩ hBelow
  obtain ⟨v, p, hv, rfl, hp⟩ := exists_published ht hRequest hNode
  obtain ⟨w, p', hw, rfl, hp'⟩ := exists_published ht hRequest hNode'
  obtain ⟨hAuthentic, hDiffer⟩ := managerRequest_sound inputs ht
  obtain ⟨config, request, hEvse⟩ := hp.nodeType_iff.mp hType
  obtain ⟨above, rfl⟩ :=
    (hAuthentic.suffix_iff (naming_published inputs) hDiffer hv hw hp hp').mp hBelow
  rcases List.eq_nil_or_concat' above with rfl | ⟨above, i, rfl⟩
  · apply hAuthentic.injective (naming_published inputs) hDiffer hv hw
    rw [(naming_published inputs).told_key p v hp, (naming_published inputs).told_key _ w hp',
      List.nil_append]
  · -- the place of an EVSE has no places below it
    have hNone : grid.tree.value? (i :: p) = none := grid.leaves p config request hEvse i
    have hBelow : (grid.tree.subtree? (above ++ i :: p)).isSome := by
      have hValid := (naming_published inputs).told_valid _ w hp'
      rw [EnergyGrid.Valid, EnergyGrid.module?, RoseTree.value?, Option.isSome_map] at hValid
      simpa using hValid
    rw [RoseTree.value?, Option.map_eq_none_iff] at hNone
    have hSome := RoseTree.subtree?_isSome_of_suffix (List.suffix_append above (i :: p)) hBelow
    rw [hNone] at hSome
    cases hSome

/-- What an EVSE is given is no more than what it has bought. -/
theorem givenCurrent_le {values : List EnforcedLimits} {sold : Ledger m.globals}
    (hResult : ManagerResult m values sold) {first : m.Slot} (hFirst : first.val = 0) {q p : Place}
    {v : Publication} (hv : t.value? q = some v) (hp : Published grid rounds hour inputs p v)
    (hEvse : IsEvse m.energyFlowRequest q) :
    grid.givenCurrent values p ≤ soldCurrent (sold q first) := by
  have hUuid : v.node.uuid = grid.uuidAt p := (naming_published inputs).told_key p v hp
  have hNode : m.node? q = some v.node := by
    rw [node?_eq hRequest, hv]
    rfl
  obtain ⟨node, hHere, hType⟩ := hEvse
  cases hNode.symm.trans hHere
  obtain ⟨config, request, hModule⟩ := hp.nodeType_iff.mp hType
  obtain ⟨value, hValue, hSame⟩ : ∃ value, values.find? (·.uuid = grid.uuidAt p) = some value ∧
      value.uuid = grid.uuidAt p := by
    obtain ⟨value, hValue, node, hHere', hSame⟩ := hResult.toEvse q ⟨_, hHere, hType⟩
    cases hHere.symm.trans hHere'
    have hFound : (values.find? (·.uuid = grid.uuidAt p)).isSome := by
      rw [List.find?_isSome]
      exact ⟨value, hValue, decide_eq_true (hSame.trans hUuid)⟩
    obtain ⟨found, hFound⟩ := Option.isSome_iff_exists.mp hFound
    exact ⟨found, hFound, by simpa using List.find?_some hFound⟩
  obtain ⟨q', node', first', -, hNode', hFirst', hOf, hLimits⟩ :=
    hResult.ofEvse value (List.mem_of_find?_eq_some hValue)
  obtain rfl : q' = q := uuids_market ht hRequest hNode' hNode (by rw [← hOf, hSame, hUuid])
  obtain rfl : first' = first := Fin.ext (hFirst'.trans hFirst.symm)
  rw [EnergyGrid.givenCurrent, hModule, hValue]
  dsimp only
  rw [hLimits, chargerLimit_fst]
  split
  · exact le_rfl
  · exact min_le_right _ _

end Market

/-- The modules at or below a place. -/
def EnergyGrid.modulesBelow (grid : EnergyGrid) (place : Place) : Finset Place :=
  (((grid.tree.walk []).map Prod.fst).filter fun p => place <:+ p).toFinset

/-- The modules below a place are those whose place ends with it. -/
theorem EnergyGrid.mem_modulesBelow {place p : Place} :
    p ∈ grid.modulesBelow place ↔ grid.Valid p ∧ place <:+ p := by
  simp only [modulesBelow, List.mem_toFinset, List.mem_filter, List.mem_map, decide_eq_true_eq]
  constructor
  · rintro ⟨⟨⟨p, m⟩, hWalk, rfl⟩, hBelow⟩
    obtain ⟨below, rfl, hModule⟩ := RoseTree.mem_walk.mp hWalk
    rw [List.append_nil] at hBelow ⊢
    exact ⟨Option.isSome_iff_exists.mpr ⟨m, hModule⟩, hBelow⟩
  · rintro ⟨hValid, hBelow⟩
    obtain ⟨m, hModule⟩ := Option.isSome_iff_exists.mp hValid
    exact ⟨⟨(p, m), RoseTree.mem_walk.mpr ⟨p, by simp, hModule⟩, rfl⟩, hBelow⟩

section Fuses

variable {inputs : List GridInput} {t : RoseTree Publication}
  (ht : (gridRun grid rounds hour inputs).managerRequest = some t) {m : Market}
  (hRequest : m.energyFlowRequest = t.map Publication.node) {values : List EnforcedLimits}
  {sold : Ledger m.globals} (hResult : ManagerResult m values sold)

include ht hRequest hResult

/-- Only an EVSE that the energy manager knows is given something. -/
theorem exists_evse_of_given {p : Place} (hGiven : grid.givenCurrent values p ≠ 0) :
    ∃ q v, t.value? q = some v ∧ Published grid rounds hour inputs p v ∧
      IsEvse m.energyFlowRequest q ∧ ∃ first : m.Slot, first.val = 0 := by
  unfold EnergyGrid.givenCurrent at hGiven
  split at hGiven
  · next config request value hModule hFind =>
    have hValid : grid.Valid p := by
      rw [EnergyGrid.Valid, hModule]
      rfl
    have hSame : value.uuid = grid.uuidAt p := by simpa using List.find?_some hFind
    obtain ⟨q, node, first, hEvse, hNode, hFirst, hUuid, -⟩ :=
      hResult.ofEvse value (List.mem_of_find?_eq_some hFind)
    obtain ⟨v, p', hv, rfl, hPublished⟩ := exists_published ht hRequest hNode
    obtain rfl : p' = p := by
      apply EnergyGrid.uuidAt_injective
        ((naming_published inputs).told_valid p' v hPublished) hValid
      rw [← (naming_published inputs).told_key p' v hPublished, ← hSame, hUuid]
      rfl
    exact ⟨q, v, hv, hPublished, hEvse, first, hFirst⟩
  · exact absurd rfl hGiven

/-- What the modules below a node are given is no more than what the node has sold. -/
theorem sum_given_le {q place : Place} {v : Publication} (hv : t.value? q = some v)
    (hPublished : Published grid rounds hour inputs place v) {first : m.Slot}
    (hFirst : first.val = 0) :
    ∑ p ∈ grid.modulesBelow place, grid.givenCurrent values p ≤ soldCurrent (sold q first) := by
  obtain ⟨hAuthentic, hDiffer⟩ := managerRequest_sound inputs ht
  have hNaming : Naming Publication.uuid grid.Valid grid.uuidAt
    (Published grid rounds hour inputs) := naming_published inputs
  -- the module that an EVSE of the market stands for
  have hModule : ∀ e ∈ evsesBelow m.energyFlowRequest q,
      ∃ p w, t.value? e = some w ∧ Published grid rounds hour inputs p w := by
    intro e he
    obtain ⟨node, hNode, -⟩ := (mem_evsesBelow.mp he).1
    obtain ⟨w, p, hw, -, hp⟩ := exists_published ht hRequest hNode
    exact ⟨p, w, hw, hp⟩
  choose! moduleOf publicationOf hShown hModule using hModule
  have hInjective : Set.InjOn moduleOf (evsesBelow m.energyFlowRequest q) := by
    intro e he e' he' hSame
    apply hAuthentic.injective hNaming hDiffer (hShown e he) (hShown e' he')
    rw [hNaming.told_key _ _ (hModule e he), hNaming.told_key _ _ (hModule e' he'), hSame]
  have hBelow : (evsesBelow m.energyFlowRequest q).image moduleOf ⊆ grid.modulesBelow place := by
    intro p hp
    obtain ⟨e, he, rfl⟩ := Finset.mem_image.mp hp
    refine EnergyGrid.mem_modulesBelow.mpr ⟨hNaming.told_valid _ _ (hModule e he), ?_⟩
    exact (hAuthentic.suffix_iff hNaming hDiffer hv (hShown e he) hPublished (hModule e he)).mp
      (mem_evsesBelow.mp he).2
  have hOthers : ∀ p ∈ grid.modulesBelow place,
      p ∉ (evsesBelow m.energyFlowRequest q).image moduleOf → grid.givenCurrent values p = 0 := by
    intro p hp hNot
    by_contra hGiven
    obtain ⟨e, w, hw, hTold, hEvse, -⟩ := exists_evse_of_given ht hRequest hResult hGiven
    have he : e ∈ evsesBelow m.energyFlowRequest q := by
      refine mem_evsesBelow.mpr ⟨hEvse, ?_⟩
      exact (hAuthentic.suffix_iff hNaming hDiffer hv hw hPublished hTold).mpr
        (EnergyGrid.mem_modulesBelow.mp hp).2
    refine hNot (Finset.mem_image.mpr ⟨e, he, ?_⟩)
    have hSame : publicationOf e he = w := Option.some.inj ((hShown e he).symm.trans hw)
    exact hNaming.place_eq (hModule e he) hTold (congrArg Publication.uuid hSame)
  calc ∑ p ∈ grid.modulesBelow place, grid.givenCurrent values p
      = ∑ p ∈ (evsesBelow m.energyFlowRequest q).image moduleOf, grid.givenCurrent values p :=
        (Finset.sum_subset hBelow hOthers).symm
    _ = ∑ e ∈ evsesBelow m.energyFlowRequest q, grid.givenCurrent values (moduleOf e) :=
        Finset.sum_image hInjective
    _ ≤ ∑ e ∈ evsesBelow m.energyFlowRequest q, soldCurrent (sold e first) :=
        Finset.sum_le_sum fun e he => givenCurrent_le ht hRequest hResult hFirst (hShown e he)
          (hModule e he) (mem_evsesBelow.mp he).1
    _ = soldCurrent (sold q first) :=
        (hResult.shared (evsesAreLeaves_market ht hRequest) q first).symm

/-- There is a value for each EVSE that the energy manager knows of. -/
theorem exists_value_iff {place : Place} {config : EvseConfig} {request : RequestConfig}
    (hEvse : grid.module? place = some (.evse config request)) :
    (∃ value ∈ values, value.uuid = config.uuid) ↔
      ∃ q v, t.value? q = some v ∧ v.uuid = config.uuid := by
  constructor
  · rintro ⟨value, hValue, hUuid⟩
    obtain ⟨q, node, -, -, hNode, -, hSame, -⟩ := hResult.ofEvse value hValue
    obtain ⟨v, -, hv, rfl, -⟩ := exists_published ht hRequest hNode
    exact ⟨q, v, hv, hSame.symm.trans hUuid⟩
  · rintro ⟨q, v, hv, hUuid⟩
    have hNaming : Naming Publication.uuid grid.Valid grid.uuidAt
      (Published grid rounds hour inputs) := naming_published inputs
    obtain ⟨p, hp⟩ := (managerRequest_sound inputs ht).1.exists_tells hv
    have hPlace : p = place := by
      apply EnergyGrid.uuidAt_injective (hNaming.told_valid p v hp)
      · rw [EnergyGrid.Valid, hEvse]
        rfl
      · rw [← hNaming.told_key p v hp, hUuid, EnergyGrid.uuidAt, hEvse]
        rfl
    have hNode : m.node? q = some v.node := by
      rw [node?_eq hRequest, hv]
      rfl
    have hType := hp.nodeType_iff.mpr ⟨config, request, hPlace ▸ hEvse⟩
    obtain ⟨value, hValue, node, hHere, hSame⟩ := hResult.toEvse q ⟨v.node, hNode, hType⟩
    cases hNode.symm.trans hHere
    exact ⟨value, hValue, hSame.trans hUuid⟩

end Fuses

/-- On a market whose fuses hold, the modules below a node are given no more than its fuse. -/
theorem sum_given_le_fuse (hGrid : WellFormedGrid grid) {inputs : List GridInput}
    (hInputs : ∀ input ∈ inputs, WellFormedInput input) {t : RoseTree Publication}
    (ht : (gridRun grid rounds hour inputs).managerRequest = some t) {m : Market}
    (hRequest : m.energyFlowRequest = t.map Publication.node) {values : List EnforcedLimits}
    {sold : Ledger m.globals} (hResult : ManagerResult m values sold) (hFuses : FusesHold m sold)
    {place : Place} {uuid : String} {config : EnergyNodeConfig}
    (hNode : grid.module? place = some (.energyNode uuid config)) :
    ∑ p ∈ grid.modulesBelow place, grid.givenCurrent values p ≤ config.fuseLimitA := by
  by_cases hAny : ∃ p ∈ grid.modulesBelow place, grid.givenCurrent values p ≠ 0
  · obtain ⟨p, hp, hGiven⟩ := hAny
    obtain ⟨e, w, hw, hTold, -, first, hFirst⟩ := exists_evse_of_given ht hRequest hResult hGiven
    -- the node itself is known, since an EVSE below it is
    obtain ⟨q, v, -, hv, hPublished⟩ := ((managerRequest_sound inputs ht).1.above_iff
      (naming_published inputs) hw hTold).mp (EnergyGrid.mem_modulesBelow.mp hp).2
    obtain ⟨x, hx, hFuse⟩ := importMaxAvailable_of_fused
      (hPublished.node_fused hGrid hInputs hNode) m.globals first
    have hHere : m.node? q = some v.node := by
      rw [node?_eq hRequest, hv]
      rfl
    have hSold := hFuses.current q v.node hHere first true x hx
    rw [sign, if_pos rfl, one_mul] at hSold
    exact (sum_given_le ht hRequest hResult hv hPublished hFirst).trans (hSold.trans hFuse)
  · have hNone : ∀ p ∈ grid.modulesBelow place, grid.givenCurrent values p = 0 := by
      intro p hp
      by_contra hGiven
      exact hAny ⟨p, hp, hGiven⟩
    rw [Finset.sum_eq_zero hNone]
    exact (hGrid.nodes place uuid config hNode).fuseLimitA

/-- What the energy manager knows of the charger and its node. -/
def twoModulesRequest : RoseTree Publication :=
  ((gridRun twoModules 5 0 twoModulesInputs).managerRequest).get rfl

/-- In the example, both publications have arrived. -/
theorem twoModulesRequest_eq :
    (gridRun twoModules 5 0 twoModulesInputs).managerRequest = some twoModulesRequest :=
  (Option.some_get _).symm

def twoModulesMarket : Market where
  globals := { oneSlot with sliceAmpere := 100 }
  nominalAcVoltage := 230
  energyFlowRequest := twoModulesRequest.map Publication.node
  grow := doubleCapacity

/-- The modules of the example are configured well. -/
theorem wellFormed_twoModules : WellFormedGrid twoModules := by
  constructor
  · intro place uuid config hNode
    rcases twoModules_valid (Option.isSome_iff_exists.mpr ⟨_, hNode⟩) with rfl | rfl
    · cases hNode
      exact ⟨by decide, by decide⟩
    · cases hNode
  · intro place config request hEvse
    rcases twoModules_valid (Option.isSome_iff_exists.mpr ⟨_, hEvse⟩) with rfl | rfl
    · cases hEvse
    · cases hEvse
      exact ⟨⟨by decide, by decide, fun _ hx => (by cases hx)⟩,
        ⟨by decide, by decide, fun _ hx => (by cases hx)⟩⟩

/-- There are no limits from outside in the example. -/
theorem wellFormed_twoModulesInputs : ∀ input ∈ twoModulesInputs, WellFormedInput input := by
  simp [twoModulesInputs, WellFormedInput]

end EverestCore.Grid
