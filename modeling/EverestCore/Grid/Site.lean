import EverestCore.Grid.FuseSafety
import EverestCore.Charger.AdvertisedCurrent

/-! A site in operation: the modules of the grid, the thread of the energy manager and the chargers,
each with its own steps, for as long as they like. The energy manager calls one EVSE after the
other, and the handler of an EVSE makes one call to its charger after the other, so that between two
of these calls the chargers go on with limits of two iterations. -/
namespace EverestCore.Grid
open Data Machine Energy EvseManager

/-! The charger of an EVSE between two limits. -/

/-- The call that the handler of `enforce_limits` makes to the charger. -/
def chargerAction? : LimitOutput → Option Action
  | .switchThreePhasesWhileCharging n => some (.switchThreePhasesWhileCharging n)
  | .setMaxCurrent current validUntil => some (.setMaxCurrentUntil current validUntil)
  | .resumeChargingPowerAvailable => some .resumeChargingPowerAvailable
  | .informNewEvseMaxHlcLimits limits => some (.informNewEvseMaxHlcLimits
      ⟨limits.evseMaximumCurrentLimit, limits.evseMaximumPowerLimit,
        limits.evseMaximumVoltageLimit⟩)
  | _ => none

/-- The limit is below an amount, or it was never valid. -/
def Capped (ampere : ℚ) (l : Limits) : Prop := l.maxCurrent ≤ ampere ∨ l.maxCurrentValidUntil ≤ 0

/-- Nobody but the handler of `enforce_limits` gives the charger a limit above zero. The EVSE itself
may take the limit away. -/
def LeavesLimit (c : Call) : Prop :=
  0 < c.now ∧
    match c.action with
    | .setMaxCurrentUntil ampere _ => ampere ≤ 0
    | .setMaxCurrent ampere => ampere ≤ 0
    | _ => True

section Plug

variable {ampere : ℚ} {c : Charger}

/-- A cap may be raised. -/
theorem Capped.mono {more : ℚ} {l : Limits} (h : Capped ampere l) (hMore : ampere ≤ more) :
    Capped more l :=
  h.imp_left fun hLimit => hLimit.trans hMore

/-- Under a cap, the limit that a charger uses at any time is no higher. One that has expired counts
as zero. -/
theorem Capped.validLimit_le (hAmpere : 0 ≤ ampere) (h : Capped ampere c.limits) {now : ℤ}
    (hNow : 0 < now) : c.validLimit now ≤ ampere := by
  rw [Charger.validLimit]
  split
  · exact hAmpere
  · next hValid =>
    rcases h with hLimit | hNever
    · exact hLimit
    · exact absurd (lt_of_le_of_lt hNever hNow) hValid

/-- A limit that is looked at is not raised. -/
theorem Capped.looked (hAmpere : 0 ≤ ampere) (h : Capped ampere c.limits) {now : ℤ}
    (hNow : 0 < now) : Capped ampere { c.limits with maxCurrent := c.validLimit now } :=
  .inl (h.validLimit_le hAmpere hNow)

/-- The cable only lowers a limit. -/
theorem limitToCable_le (c : Charger) (current : ℚ) : World.limitToCable c current ≤ current := by
  rw [World.limitToCable]
  split
  · next hCut => exact hCut.2.le
  · exact le_rfl

/-- A new limit caps the charger, if it is accepted. -/
theorem capped_acceptedLimit {now validUntil : ℤ} {current : ℚ} (hCurrent : current ≤ ampere)
    (h : Charger.acceptsLimit now current validUntil = false → Capped ampere c.limits) :
    Capped ampere (if Charger.acceptsLimit now current validUntil then
      { c.limits with
        maxCurrent := World.limitToCable c current, maxCurrentValidUntil := validUntil }
      else c.limits) := by
  cases hAccepts : Charger.acceptsLimit now current validUntil with
  | false => exact h hAccepts
  | true => exact .inl ((limitToCable_le c current).trans hCurrent)

/-- A charger that is left alone keeps to its limit. -/
theorem capped_callLimits (hAmpere : 0 ≤ ampere) (h : Capped ampere c.limits) {call : Call}
    (hCall : LeavesLimit call) : Capped ampere (c.callLimits call) := by
  obtain ⟨now, action⟩ := call
  obtain ⟨hNow, hAction⟩ := hCall
  cases action
  case tick => exact h.looked hAmpere hNow
  case processEvent event ppAmpacity =>
    cases event
    case carPluggedIn =>
      simp only [Charger.callLimits]
      split <;> exact h
    case carRequestedPower =>
      simp only [Charger.callLimits]
      split
      · exact h.looked hAmpere hNow
      · exact h
    all_goals exact h
  case resumeChargingPowerAvailable =>
    simp only [Charger.callLimits]
    split
    · exact h.looked hAmpere hNow
    · exact h
  case setMaxCurrentUntil current validUntil =>
    exact capped_acceptedLimit (hAction.trans hAmpere) fun _ => h
  case setMaxCurrent current =>
    simp only [Charger.callLimits]
    split
    · exact .inl ((limitToCable_le c current).trans (hAction.trans hAmpere))
    · exact h
  all_goals exact h

/-- A limit that is given in time caps the charger, unless it is higher than any charger's. -/
theorem capped_setMaxCurrentUntil (hAmpere : 0 ≤ ampere)
    (hRange : Capped chargerAbsoluteMaxCurrent c.limits) {now validUntil : ℤ}
    (hValid : now < validUntil) :
    Capped ampere (c.callLimits ⟨now, .setMaxCurrentUntil ampere validUntil⟩) := by
  apply capped_acceptedLimit le_rfl
  intro hRefused
  apply hRange.mono
  by_contra hWithin
  rw [Charger.acceptsLimit, decide_eq_false_iff_not] at hRefused
  exact hRefused ⟨⟨hAmpere, (not_le.mp hWithin).le⟩, hValid⟩

/-- No charger takes a limit that is higher than any charger's. -/
theorem inRange_callLimits (h : Capped chargerAbsoluteMaxCurrent c.limits) {call : Call}
    (hNow : 0 < call.now) : Capped chargerAbsoluteMaxCurrent (c.callLimits call) := by
  have hAccepted {current : ℚ} {validUntil : ℤ}
      (hAccepts : Charger.acceptsLimit call.now current validUntil) :
      World.limitToCable c current ≤ chargerAbsoluteMaxCurrent := by
    rw [Charger.acceptsLimit, decide_eq_true_eq] at hAccepts
    exact (limitToCable_le c current).trans hAccepts.1.2
  have hPositive : (0 : ℚ) ≤ chargerAbsoluteMaxCurrent := by decide
  obtain ⟨now, action⟩ := call
  by_cases hLeaves : LeavesLimit ⟨now, action⟩
  · exact capped_callLimits hPositive h hLeaves
  · cases action
    case setMaxCurrentUntil current validUntil =>
      simp only [Charger.callLimits]
      split
      · exact .inl (hAccepted ‹_›)
      · exact h
    case setMaxCurrent current =>
      simp only [Charger.callLimits]
      split
      · exact .inl (hAccepted ‹_›)
      · exact h
    all_goals exact absurd ⟨hNow, trivial⟩ hLeaves

end Plug

/-- A call of the handler gives the charger a limit, or leaves it alone. -/
theorem chargerAction?_cases {output : LimitOutput} {action : Action}
    (h : chargerAction? output = some action) :
    (∃ current validUntil, output = .setMaxCurrent current validUntil ∧
      action = .setMaxCurrentUntil current validUntil) ∨
    ((∀ current validUntil, action ≠ .setMaxCurrentUntil current validUntil) ∧
      ∀ now, 0 < now → LeavesLimit ⟨now, action⟩) := by
  cases output <;> cases h
  case setMaxCurrent current validUntil => exact .inl ⟨current, validUntil, rfl, rfl⟩
  all_goals exact .inr ⟨nofun, fun now hNow => ⟨hNow, trivial⟩⟩

/-! The site. -/

/-- The configuration of the energy manager. -/
structure ManagerConfig where
  nominalAcVoltage : ℚ
  updateInterval : ℤ
  scheduleIntervalDuration : ℤ
  scheduleTotalDuration : ℤ
  sliceAmpere : ℚ
  sliceWatt : ℚ
  debug : Bool
  deriving DecidableEq, Repr

/-- What does not change: the modules with their configurations, what the chargers find in their
memory and read from the socket at first, and what the platform does with leap seconds, vectors
and merges of prices. -/
structure Site where
  grid : EnergyGrid
  manager : ManagerConfig
  hour : ℤ
  rounds : ℕ
  leapSeconds : ℤ → ℤ
  grow : ℕ → ℕ
  memory : Place → Charger
  ppAmpacity : Place → ℚ

/-- `pending` and `calls` say where the thread of the energy manager is: the values that have not
been sent yet, and the calls that the handler of the last one has not made yet. The values of the
last two iterations are kept on the side. -/
structure SiteState where
  grid : GridState
  globals : Globals
  evses : Place → LimitState
  chargers : Place → World
  previous : List EnforcedLimits
  values : List EnforcedLimits
  pending : List EnforcedLimits
  calls : List (Place × Action)

/-- The next step of the thread of the energy manager: the clocks that it reads, in nanoseconds and
in milliseconds, and the voltage that the car of each EVSE wants. -/
structure ManagerTurn where
  startTime : ℤ
  now : ℤ
  targetVoltage : Place → ℚ

inductive SiteInput where
  | grid (input : GridInput)
  | manager (turn : ManagerTurn)
  | charger (place : Place) (call : Call)

section Site

variable (site : Site)

/-- How long limits that are made now are valid. -/
def Site.validUntil (turn : ManagerTurn) : ℤ := turn.now + site.manager.updateInterval * 10 * 1000

/-- The request of the energy manager. It is empty before anything has arrived. -/
def SiteState.request (s : SiteState) : EnergyFlowRequest :=
  (s.grid.managerRequest.map fun t => t.map Publication.node).getD
    (.node { uuid := "", nodeType := .undefined } [])

def managerInit (turn : ManagerTurn) (s : SiteState) : Option Globals :=
  Energy.init site.leapSeconds
    { startTime := turn.startTime
      intervalDuration := site.manager.scheduleIntervalDuration
      scheduleDuration := site.manager.scheduleTotalDuration
      sliceAmpere := site.manager.sliceAmpere
      sliceWatt := site.manager.sliceWatt
      debug := site.manager.debug
      energyFlowRequest := s.request } s.globals

def managerMarket (globals : Globals) (s : SiteState) : Market where
  globals := globals
  nominalAcVoltage := site.manager.nominalAcVoltage
  energyFlowRequest := s.request
  grow := site.grow

/-- The loop in `EnergyManager::ready` up to the limits of an iteration. -/
def managerOptimize (turn : ManagerTurn) (s : SiteState) : Option SiteState := do
  let globals ← managerInit site turn s
  let values ← managerValues (managerMarket site globals s) (site.validUntil turn)
  return { s with
    globals := globals
    previous := s.values
    values := values
    pending := values }

/-- `EnergyManager::enforce_limits` with one value, up to the first call of the handler that takes
it. -/
def managerSend (turn : ManagerTurn) (s : SiteState) (value : EnforcedLimits)
    (rest : List EnforcedLimits) : Option SiteState := do
  let taken ← callEnforceLimits site.grid turn.targetVoltage (fun place => (s.evses place, [])) value
  return { s with
    evses := fun place => (taken place).1
    pending := rest
    calls := (site.grid.takers value.uuid).flatMap fun place =>
      ((taken place).2.filterMap chargerAction?).map fun action => (place, action) }

/-- A charger is called. -/
def SiteState.call (s : SiteState) (place : Place) (call : Call) : SiteState :=
  { s with chargers := Function.update s.chargers place ((s.chargers place).call call) }

/-- The charger that is called takes its step. -/
@[simp]
theorem SiteState.call_chargers_self (s : SiteState) (place : Place) (call : Call) :
    (s.call place call).chargers place = (s.chargers place).call call := Function.update_self ..

/-- All other chargers stay as they are. -/
theorem SiteState.call_chargers_of_ne (s : SiteState) {place p : Place} (call : Call)
    (h : p ≠ place) : (s.call place call).chargers p = s.chargers p := Function.update_of_ne h ..

/-- The thread of the energy manager goes on: with the calls of a handler, with the next value, or
with the next iteration. -/
def managerStep (turn : ManagerTurn) (s : SiteState) : Option SiteState :=
  match s.calls, s.pending with
  | (place, action) :: calls, _ => some { s.call place ⟨turn.now, action⟩ with calls := calls }
  | [], value :: rest => managerSend site turn s value rest
  | [], [] => managerOptimize site turn s

def siteStep (s : SiteState) : SiteInput → Option SiteState
  | .grid input => some { s with grid := gridStep site.rounds site.grid s.grid input }
  | .manager turn => managerStep site turn s
  | .charger place call => some (s.call place call)

def siteStart : SiteState where
  grid := gridStart site.grid site.hour
  globals := {}
  evses _ := {}
  chargers place := World.create (site.memory place) (site.ppAmpacity place)
  previous := []
  values := []
  pending := []
  calls := []

/-- Between two iterations nothing is on its way to the chargers. -/
def SiteState.Idle (s : SiteState) : Prop := s.pending = [] ∧ s.calls = []

end Site

/-! What the energy manager knows. -/

/-- The energy manager has heard of a module. -/
def GridState.Knows (s : GridState) (uuid : String) : Prop :=
  ∃ t q v, s.managerRequest = some t ∧ t.value? q = some v ∧ v.uuid = uuid

/-- The energy manager does not forget a module. -/
theorem knows_snoc {grid : EnergyGrid} {rounds : ℕ} {hour : ℤ} {inputs : List GridInput}
    {uuid : String} (h : (gridRun grid rounds hour inputs).Knows uuid) (input : GridInput) :
    (gridRun grid rounds hour (inputs ++ [input])).Knows uuid := by
  obtain ⟨t, q, v, ht, hv, hUuid⟩ := h
  obtain ⟨t', ht', hOlder⟩ := arrived_gridRun_snoc inputs input ht
  obtain ⟨w, hw, hLater⟩ := hOlder q v hv
  refine ⟨t', q, w, ht', hw, ?_⟩
  rcases hLater with hNone | ⟨hSame, -⟩
  · obtain ⟨p, earlier, -, -, hNumber, -⟩ := (managerRequest_sound inputs ht).1.exists_tells hv
    exact absurd hNone hNumber.ne'
  · rw [← hSame, hUuid]

section Site

variable (site : Site)

/-- The place of an EVSE that the energy manager has heard of. -/
def Site.Reaches (s : SiteState) (place : Place) : Prop :=
  ∃ config request, site.grid.module? place = some (.evse config request) ∧
    s.grid.Knows config.uuid

/-- What the grid has been given. -/
def gridInputs (inputs : List SiteInput) : List GridInput :=
  inputs.filterMap fun
    | .grid input => some input
    | _ => none

/-- The configuration is such that the energy manager sells only what there is. -/
structure WellFormedSite : Prop where
  grid : WellFormedGrid site.grid
  sliceAmpere : 0 < site.manager.sliceAmpere
  sliceWatt : 0 < site.manager.sliceWatt
  nominalAcVoltage : 0 < site.manager.nominalAcVoltage

/-- Limits from outside are well formed, with a current for the leaf side in every entry for imports,
and nobody but the energy manager gives a charger a limit above zero. Clocks show a time after the
epoch. -/
def Permits : SiteInput → Prop
  | .grid input => WellFormedInput input
  | .manager turn => 0 < turn.now
  | .charger _ call => LeavesLimit call

/-- A limit that the energy manager gives a charger is still valid when the charger gets it. -/
def InTime (s : SiteState) : SiteInput → Prop
  | .manager turn => ∀ call ∈ s.calls.head?,
      match call.2 with
      | .setMaxCurrentUntil _ validUntil => turn.now < validUntil
      | _ => True
  | _ => True

instance (s : SiteState) (input : SiteInput) : Decidable (InTime s input) :=
  match input with
  | .grid _ => inferInstanceAs (Decidable True)
  | .charger _ _ => inferInstanceAs (Decidable True)
  | .manager turn =>
      haveI (call : Place × Action) : Decidable (match call.2 with
          | .setMaxCurrentUntil _ validUntil => turn.now < validUntil
          | _ => True) := by
        split <;> infer_instance
      inferInstanceAs (Decidable (∀ call ∈ s.calls.head?, _))

/-- The EVSE at a place has not been given the limit of this iteration yet. -/
def Site.Awaits (s : SiteState) (place : Place) : Prop :=
  (∃ value ∈ s.pending, IsFor site.grid value place) ∨
    ∃ current validUntil, (place, .setMaxCurrentUntil current validUntil) ∈ s.calls

/-- What holds of the charger of an EVSE: its limit is that of this iteration, unless it awaits it.
Then it may still be that of the iteration before. -/
structure ChargerInvariant (s : SiteState) (p : Place) : Prop where
  inRange : Capped chargerAbsoluteMaxCurrent (s.chargers p).charger.limits
  given : ¬site.Awaits s p →
    Capped |site.grid.givenCurrent s.values p| (s.chargers p).charger.limits
  between : Capped (max |site.grid.givenCurrent s.previous p| |site.grid.givenCurrent s.values p|)
    (s.chargers p).charger.limits
  untold : ¬site.Reaches s p → Capped 0 (s.chargers p).charger.limits

/-- The values add up at every node. -/
def WithinFuses (grid : EnergyGrid) (values : List EnforcedLimits) : Prop :=
  ∀ place uuid config, grid.module? place = some (.energyNode uuid config) →
    ∑ p ∈ grid.modulesBelow place, grid.givenCurrent values p ≤ config.fuseLimitA

/-- What holds after every input. -/
structure SiteInvariant (inputs : List SiteInput) (s : SiteState) : Prop where
  wellFormed : ∀ input ∈ gridInputs inputs, WellFormedInput input
  grid : s.grid = gridRun site.grid site.rounds site.hour (gridInputs inputs)
  chargers : ∀ p, ChargerInvariant site s p
  previous : WithinFuses site.grid s.previous
  values : WithinFuses site.grid s.values
  distinct : (s.values.map EnforcedLimits.uuid).Nodup
  pending : ∀ value ∈ s.pending, value ∈ s.values ∧ ∀ p, IsFor site.grid value p → site.Reaches s p
  calls : ∀ p action, (p, action) ∈ s.calls →
    (∃ validUntil, action = .setMaxCurrentUntil |site.grid.givenCurrent s.values p| validUntil ∧
      site.Reaches s p) ∨
    ((∀ current validUntil, action ≠ .setMaxCurrentUntil current validUntil) ∧
      ∀ now, 0 < now → LeavesLimit ⟨now, action⟩)

variable {site}

/-- Without values nobody is given anything. -/
theorem givenCurrent_nil (grid : EnergyGrid) (place : Place) : grid.givenCurrent [] place = 0 := by
  unfold EnergyGrid.givenCurrent
  rw [List.find?_nil]
  split <;> first | rfl | contradiction

/-- A fuse is not negative, so that it carries nothing. -/
theorem sum_givenCurrent_nil {grid : EnergyGrid} (hGrid : WellFormedGrid grid) {place : Place}
    {uuid : String} {config : EnergyNodeConfig}
    (hNode : grid.module? place = some (.energyNode uuid config)) :
    ∑ p ∈ grid.modulesBelow place, grid.givenCurrent [] p ≤ config.fuseLimitA := by
  rw [Finset.sum_eq_zero fun p _ => givenCurrent_nil grid p]
  exact (hGrid.nodes place uuid config hNode).fuseLimitA

/-- At first no charger has ever had a limit. -/
theorem siteInvariant_nil (hSite : WellFormedSite site) :
    SiteInvariant site [] (siteStart site) where
  wellFormed := by simp [gridInputs]
  grid := rfl
  chargers _ := ⟨.inr le_rfl, fun _ => .inr le_rfl, .inr le_rfl, fun _ => .inr le_rfl⟩
  previous _ _ _ hNode := sum_givenCurrent_nil hSite.grid hNode
  values _ _ _ hNode := sum_givenCurrent_nil hSite.grid hNode
  distinct := List.nodup_nil
  pending _ hNone := (List.not_mem_nil hNone).elim
  calls _ _ hNone := (List.not_mem_nil hNone).elim

/-- A step within an iteration that does not raise the limit of a charger, nor end its wait for the
limit of this iteration. -/
theorem ChargerInvariant.keep {s next : SiteState} {p : Place} (h : ChargerInvariant site s p)
    (hValues : next.values = s.values) (hPrevious : next.previous = s.previous)
    (hReaches : site.Reaches s p → site.Reaches next p)
    (hAwaits : site.Awaits s p → site.Awaits next p)
    (hLimits : ∀ ampere, 0 ≤ ampere → Capped ampere (s.chargers p).charger.limits →
      Capped ampere (next.chargers p).charger.limits) : ChargerInvariant site next p where
  inRange := hLimits _ (by decide) h.inRange
  given hTold := by
    rw [hValues]
    exact hLimits _ (abs_nonneg _) (h.given fun hWaits => hTold (hAwaits hWaits))
  between := by
    rw [hValues, hPrevious]
    exact hLimits _ (le_max_of_le_left (abs_nonneg _)) h.between
  untold hNot := hLimits _ le_rfl (h.untold fun hReach => hNot (hReaches hReach))

/-- A call to one charger that leaves its limit alone leaves all of them alone. -/
theorem capped_call {ampere : ℚ} (hAmpere : 0 ≤ ampere) {s : SiteState} {p : Place}
    (h : Capped ampere (s.chargers p).charger.limits) (place : Place) {call : Call}
    (hCall : LeavesLimit call) : Capped ampere ((s.call place call).chargers p).charger.limits := by
  by_cases hPlace : p = place
  · subst hPlace
    rw [SiteState.call_chargers_self, World.call_limits]
    exact capped_callLimits hAmpere h hCall
  · rwa [SiteState.call_chargers_of_ne s call hPlace]

/-- The modules of the tree go on without the energy manager. It may get to know more of them. -/
theorem SiteInvariant.gridInput {inputs : List SiteInput} {s : SiteState}
    (h : SiteInvariant site inputs s) {input : GridInput} (hInput : WellFormedInput input) :
    SiteInvariant site (inputs ++ [.grid input])
      { s with grid := gridStep site.rounds site.grid s.grid input } := by
  have hInputs : gridInputs (inputs ++ [.grid input]) = gridInputs inputs ++ [input] := by
    simp [gridInputs]
  have hNext : gridStep site.rounds site.grid s.grid input =
      gridRun site.grid site.rounds site.hour (gridInputs inputs ++ [input]) := by
    rw [gridRun_snoc, h.grid]
  have hReaches (p : Place) (hReach : site.Reaches s p) :
      site.Reaches { s with grid := gridStep site.rounds site.grid s.grid input } p := by
    obtain ⟨config, request, hEvse, hKnown⟩ := hReach
    refine ⟨config, request, hEvse, ?_⟩
    rw [h.grid] at hKnown
    rw [hNext]
    exact knows_snoc hKnown input
  exact
    { wellFormed := by
        rw [hInputs]
        intro given hGiven
        rcases List.mem_append.mp hGiven with hBefore | hLast
        · exact h.wellFormed given hBefore
        · rwa [List.mem_singleton.mp hLast]
      grid := by rw [hInputs, hNext]
      chargers := fun p =>
        (h.chargers p).keep rfl rfl (hReaches p) id fun _ _ hCapped => hCapped
      previous := h.previous
      values := h.values
      distinct := h.distinct
      pending := fun value hValue => ⟨(h.pending value hValue).1,
        fun p hFor => hReaches p ((h.pending value hValue).2 p hFor)⟩
      calls := fun p action hCall => (h.calls p action hCall).imp_left
        fun ⟨validUntil, hAction, hReach⟩ => ⟨validUntil, hAction, hReaches p hReach⟩ }

/-- Steps of the energy manager and of the chargers are no inputs of the grid. -/
theorem gridInputs_snoc {inputs : List SiteInput} {input : SiteInput}
    (hOther : ∀ given, input ≠ .grid given) : gridInputs (inputs ++ [input]) = gridInputs inputs := by
  cases input with
  | grid given => exact absurd rfl (hOther given)
  | manager turn => simp [gridInputs]
  | charger place call => simp [gridInputs]

/-- Calls from elsewhere leave the limit of a charger alone, or take it away. -/
theorem SiteInvariant.chargerCall {inputs : List SiteInput} {s : SiteState}
    (h : SiteInvariant site inputs s) (place : Place) {call : Call} (hCall : LeavesLimit call) :
    SiteInvariant site (inputs ++ [.charger place call]) (s.call place call) := by
  have hSame : gridInputs (inputs ++ [.charger place call]) = gridInputs inputs :=
    gridInputs_snoc nofun
  exact
    { wellFormed := hSame ▸ h.wellFormed
      grid := hSame ▸ h.grid
      chargers := fun p => (h.chargers p).keep rfl rfl id id
        fun _ hAmpere hCapped => capped_call hAmpere hCapped place hCall
      previous := h.previous
      values := h.values
      distinct := h.distinct
      pending := h.pending
      calls := h.calls }

/-- The charger of an EVSE is given its limit, before it has expired. -/
theorem ChargerInvariant.setLimit {s : SiteState} {p : Place} (h : ChargerInvariant site s p)
    (hReach : site.Reaches s p) {now validUntil : ℤ} (hNow : 0 < now) (hValid : now < validUntil)
    (calls : List (Place × Action)) :
    ChargerInvariant site
      { s.call p ⟨now, .setMaxCurrentUntil |site.grid.givenCurrent s.values p| validUntil⟩ with
        calls := calls } p := by
  have hGiven : Capped |site.grid.givenCurrent s.values p|
      ((s.call p ⟨now, .setMaxCurrentUntil |site.grid.givenCurrent s.values p|
        validUntil⟩).chargers p).charger.limits := by
    rw [SiteState.call_chargers_self, World.call_limits]
    exact capped_setMaxCurrentUntil (abs_nonneg _) h.inRange hValid
  refine ⟨?_, fun _ => hGiven, hGiven.mono (le_max_right _ _), fun hNot => absurd hReach hNot⟩
  show Capped _ ((s.call p _).chargers p).charger.limits
  rw [SiteState.call_chargers_self, World.call_limits]
  exact inRange_callLimits h.inRange hNow

/-- A call of the handler to a charger, which gets its limit or is left alone. -/
theorem SiteInvariant.managerCall {inputs : List SiteInput} {s : SiteState}
    (h : SiteInvariant site inputs s) {turn : ManagerTurn} (hNow : 0 < turn.now) {place : Place}
    {action : Action} {calls : List (Place × Action)} (hCalls : s.calls = (place, action) :: calls)
    (hInTime : InTime s (.manager turn)) :
    SiteInvariant site (inputs ++ [.manager turn])
      { s.call place ⟨turn.now, action⟩ with calls := calls } := by
  have hSame : gridInputs (inputs ++ [.manager turn]) = gridInputs inputs := gridInputs_snoc nofun
  have hFirst : (place, action) ∈ s.calls := by
    rw [hCalls]
    exact List.mem_cons_self
  -- nobody else is waiting for this call
  have hAwaits (p : Place)
      (hOther : ∀ current validUntil, (place, action) ≠ (p, .setMaxCurrentUntil current validUntil))
      (hWaits : site.Awaits s p) :
      site.Awaits { s.call place ⟨turn.now, action⟩ with calls := calls } p := by
    rcases hWaits with hPending | ⟨current, validUntil, hCall⟩
    · exact .inl hPending
    · rw [hCalls] at hCall
      refine .inr ⟨current, validUntil, ?_⟩
      exact (List.mem_cons.mp hCall).resolve_left (hOther current validUntil).symm
  refine
    { wellFormed := hSame ▸ h.wellFormed
      grid := hSame ▸ h.grid
      chargers := fun p => ?_
      previous := h.previous
      values := h.values
      distinct := h.distinct
      pending := h.pending
      calls := fun p other hOther =>
        h.calls p other (hCalls ▸ List.mem_cons_of_mem (place, action) hOther) }
  rcases h.calls place action hFirst with ⟨validUntil, rfl, hReach⟩ | ⟨hNotSet, hLeaves⟩
  · by_cases hPlace : p = place
    · subst hPlace
      exact (h.chargers p).setLimit hReach hNow (hInTime _ (by rw [hCalls]; rfl)) calls
    · refine (h.chargers p).keep rfl rfl id (hAwaits p fun _ _ hEq => ?_) ?_
      · exact hPlace (Prod.mk.inj hEq).1.symm
      · intro ampere _ hCapped
        show Capped ampere ((s.call place _).chargers p).charger.limits
        rwa [SiteState.call_chargers_of_ne s _ hPlace]
  · refine (h.chargers p).keep rfl rfl id (hAwaits p fun current validUntil hEq => ?_) ?_
    · exact hNotSet current validUntil (Prod.mk.inj hEq).2
    · intro ampere hAmpere hCapped
      exact capped_call hAmpere hCapped place (hLeaves turn.now hNow)

/-- An EVSE takes the values that are meant for it. -/
theorem IsFor.mem_takers {grid : EnergyGrid} {value : EnforcedLimits} {p : Place}
    (h : IsFor grid value p) : p ∈ grid.takers value.uuid := by
  obtain ⟨config, request, hEvse, hUuid⟩ := h
  refine EnergyGrid.mem_takers_iff.mpr ⟨?_, ?_⟩
  · rw [EnergyGrid.Valid, hEvse]
    rfl
  · rw [EnergyGrid.uuidAt, hEvse, hUuid]
    rfl

section Sending

variable {grid : EnergyGrid} {targetVoltage : Place → ℚ} {evses : Place → LimitState}
  {value : EnforcedLimits} {values : List EnforcedLimits} {taken : Chargers} {p : Place}

/-- The calls to the chargers come from what the handlers have put out. -/
theorem mem_sentCalls {uuid : String} {action : Action} :
    (p, action) ∈ ((grid.takers uuid).flatMap fun place =>
        ((taken place).2.filterMap chargerAction?).map fun action => (place, action)) ↔
      p ∈ grid.takers uuid ∧ ∃ output ∈ (taken p).2, chargerAction? output = some action := by
  simp only [List.mem_flatMap, List.mem_map, List.mem_filterMap, Prod.mk.injEq]
  constructor
  · rintro ⟨place, hPlace, other, hOutput, rfl, rfl⟩
    exact ⟨hPlace, hOutput⟩
  · rintro ⟨hPlace, hOutput⟩
    exact ⟨p, hPlace, action, hOutput, rfl, rfl⟩

variable
  (hTaken : callEnforceLimits grid targetVoltage (fun place => (evses place, [])) value = some taken)
  (hDistinct : (values.map EnforcedLimits.uuid).Nodup) (hValue : value ∈ values)
include hTaken hDistinct hValue

/-- The handler of the EVSE that a value is meant for gives its charger a limit. -/
theorem exists_mem_sentCalls (hFor : IsFor grid value p) :
    ∃ validUntil, (p, .setMaxCurrentUntil |grid.givenCurrent values p| validUntil) ∈
      (grid.takers value.uuid).flatMap fun place =>
        ((taken place).2.filterMap chargerAction?).map fun action => (place, action) := by
  obtain ⟨outputs, hOutputs, hCurrent⟩ :=
    (callEnforceLimits_told hTaken hDistinct hValue p).1 hFor
  rw [List.nil_append] at hOutputs
  have hSet : |grid.givenCurrent values p| ∈ (taken p).2.filterMap LimitOutput.maxCurrent? := by
    rw [hOutputs, hCurrent]
    exact List.mem_singleton_self _
  obtain ⟨output, hOutput, hSome⟩ := List.mem_filterMap.mp hSet
  cases output <;> cases hSome
  case setMaxCurrent.refl validUntil =>
    exact ⟨validUntil, mem_sentCalls.mpr ⟨hFor.mem_takers, _, hOutput, rfl⟩⟩

/-- A call that gives a charger a limit gives it the one of its EVSE. -/
theorem sentCalls_cases {action : Action}
    (hCall : (p, action) ∈ (grid.takers value.uuid).flatMap fun place =>
      ((taken place).2.filterMap chargerAction?).map fun action => (place, action)) :
    (∃ validUntil, action = .setMaxCurrentUntil |grid.givenCurrent values p| validUntil ∧
      IsFor grid value p) ∨
    ((∀ current validUntil, action ≠ .setMaxCurrentUntil current validUntil) ∧
      ∀ now, 0 < now → LeavesLimit ⟨now, action⟩) := by
  obtain ⟨-, output, hOutput, hAction⟩ := mem_sentCalls.mp hCall
  rcases chargerAction?_cases hAction with ⟨current, validUntil, rfl, rfl⟩ | hLeaves
  · have hCurrent : current ∈ (taken p).2.filterMap LimitOutput.maxCurrent? :=
      List.mem_filterMap.mpr ⟨_, hOutput, rfl⟩
    have hTold := callEnforceLimits_told hTaken hDistinct hValue p
    by_cases hFor : IsFor grid value p
    · obtain ⟨outputs, hOutputs, hOne⟩ := hTold.1 hFor
      rw [List.nil_append] at hOutputs
      rw [hOutputs, hOne, List.mem_singleton] at hCurrent
      exact .inl ⟨validUntil, by rw [hCurrent], hFor⟩
    · rw [hTold.2 hFor] at hCurrent
      cases hCurrent
  · exact .inr hLeaves

end Sending

/-- A value goes to the EVSE that it is meant for, which waits for the call of its handler then. -/
theorem SiteInvariant.managerSend {inputs : List SiteInput} {s next : SiteState}
    (h : SiteInvariant site inputs s) {turn : ManagerTurn} {value : EnforcedLimits}
    {rest : List EnforcedLimits} (hCalls : s.calls = []) (hPending : s.pending = value :: rest)
    (hNext : managerSend site turn s value rest = some next) :
    SiteInvariant site (inputs ++ [.manager turn]) next := by
  obtain ⟨taken, hTaken, hNext⟩ := Option.bind_eq_some_iff.mp hNext
  cases hNext
  have hSame : gridInputs (inputs ++ [.manager turn]) = gridInputs inputs := gridInputs_snoc nofun
  have hFirst : value ∈ s.pending := by
    rw [hPending]
    exact List.mem_cons_self
  obtain ⟨hValue, hReach⟩ := h.pending value hFirst
  refine
    { wellFormed := hSame ▸ h.wellFormed
      grid := hSame ▸ h.grid
      chargers := fun p => (h.chargers p).keep rfl rfl id ?_ fun _ _ hCapped => hCapped
      previous := h.previous
      values := h.values
      distinct := h.distinct
      pending := fun other hOther => h.pending other (hPending ▸ List.mem_cons_of_mem value hOther)
      calls := fun p action hCall => ?_ }
  · rintro (⟨other, hOther, hFor⟩ | ⟨current, validUntil, hCall⟩)
    · rw [hPending] at hOther
      rcases List.mem_cons.mp hOther with rfl | hLater
      · obtain ⟨validUntil, hCall⟩ := exists_mem_sentCalls hTaken h.distinct hValue hFor
        exact .inr ⟨_, validUntil, hCall⟩
      · exact .inl ⟨other, hLater, hFor⟩
    · rw [hCalls] at hCall
      cases hCall
  · rcases sentCalls_cases hTaken h.distinct hValue hCall with ⟨validUntil, hAction, hFor⟩ | hLeaves
    · exact .inl ⟨validUntil, hAction, hReach p hFor⟩
    · exact .inr hLeaves

/-- There is nothing to be sold before a request has arrived. -/
theorem managerValues_of_none {m : Market} {s : SiteState} (hNone : s.grid.managerRequest = none)
    (hRequest : m.energyFlowRequest = s.request) {validUntil : ℤ} {values : List EnforcedLimits}
    (hValues : managerValues m validUntil = some values) : values = [] := by
  obtain ⟨sold, hResult⟩ := managerResult hValues
  rw [SiteState.request, hNone] at hRequest
  apply List.eq_nil_iff_forall_not_mem.mpr
  intro value hValue
  obtain ⟨q, node, -, ⟨node', hNode, hEvse⟩, -⟩ := hResult.ofEvse value hValue
  have hVisit := mem_walk_root.mpr hNode
  rw [hRequest] at hVisit
  obtain ⟨rfl, rfl⟩ := Prod.mk.inj (List.mem_singleton.mp hVisit)
  cases hEvse

/-- What the values of an iteration are. -/
structure SiteValues (site : Site) (s : SiteState) (values : List EnforcedLimits) : Prop where
  distinct : (values.map EnforcedLimits.uuid).Nodup
  known : ∀ p, site.Reaches s p ↔ ∃ value ∈ values, IsFor site.grid value p
  fuses : WithinFuses site.grid values

/-- The values of an iteration come from the market on what the energy manager knows. -/
theorem SiteInvariant.siteValues (hSite : WellFormedSite site) {inputs : List SiteInput}
    {s : SiteState} (h : SiteInvariant site inputs s) {turn : ManagerTurn} {globals : Globals}
    (hInit : managerInit site turn s = some globals) {validUntil : ℤ}
    {values : List EnforcedLimits}
    (hValues : managerValues (managerMarket site globals s) validUntil = some values) :
    SiteValues site s values := by
  have hSlices : globals.sliceAmpere = site.manager.sliceAmpere ∧
      globals.sliceWatt = site.manager.sliceWatt := by
    rw [managerInit, init] at hInit
    split at hInit
    · cases hInit
    · cases hInit
      exact ⟨rfl, rfl⟩
  cases hRequest : s.grid.managerRequest with
  | none =>
      have hNil : values = [] := managerValues_of_none hRequest rfl hValues
      subst hNil
      refine ⟨List.nodup_nil, fun p => ?_,
        fun place uuid config hNode => sum_givenCurrent_nil hSite.grid hNode⟩
      constructor
      · rintro ⟨config, request, -, t, q, v, ht, -⟩
        cases hRequest.symm.trans ht
      · rintro ⟨value, hValue, -⟩
        cases hValue
  | some t =>
      have ht : (gridRun site.grid site.rounds site.hour (gridInputs inputs)).managerRequest =
          some t := h.grid ▸ hRequest
      have hMarket : (managerMarket site globals s).energyFlowRequest =
          t.map Publication.node := by
        simp only [managerMarket, SiteState.request, hRequest, Option.map_some, Option.getD_some]
      obtain ⟨sold, hResult⟩ := managerResult hValues
      refine ⟨hResult.distinct fun _ _ _ _ => uuids_market ht hMarket, fun p => ?_,
        fun place uuid config hNode => ?_⟩
      · constructor
        · rintro ⟨config, request, hEvse, t', q, v, ht', hv, hUuid⟩
          cases hRequest.symm.trans ht'
          obtain ⟨value, hValue, hFor⟩ :=
            (exists_value_iff ht hMarket hResult hEvse).mpr ⟨q, v, hv, hUuid⟩
          exact ⟨value, hValue, config, request, hEvse, hFor⟩
        · rintro ⟨value, hValue, config, request, hEvse, hFor⟩
          obtain ⟨q, v, hv, hUuid⟩ :=
            (exists_value_iff ht hMarket hResult hEvse).mp ⟨value, hValue, hFor⟩
          exact ⟨config, request, hEvse, t, q, v, hRequest, hv, hUuid⟩
      · have hWell : (managerMarket site globals s).WellFormed :=
          wellFormed_market ht hMarket hSite.grid h.wellFormed (hSlices.1 ▸ hSite.sliceAmpere)
            (hSlices.2 ▸ hSite.sliceWatt) hSite.nominalAcVoltage
        exact sum_given_le_fuse hSite.grid h.wellFormed ht hMarket hResult (hResult.fuses hWell)
          hNode

/-- Between two iterations every EVSE has been given its limit. -/
theorem not_awaits {s : SiteState} (hIdle : s.Idle) (p : Place) : ¬site.Awaits s p := by
  obtain ⟨hPending, hCalls⟩ := hIdle
  rintro (⟨value, hValue, -⟩ | ⟨current, validUntil, hCall⟩)
  · rw [hPending] at hValue
    cases hValue
  · rw [hCalls] at hCall
    cases hCall

/-- The next iteration. The charger of every EVSE that the energy manager knows of waits for its new
limit now, and the others have never had one. -/
theorem SiteInvariant.managerOptimize (hSite : WellFormedSite site) {inputs : List SiteInput}
    {s next : SiteState} (h : SiteInvariant site inputs s) {turn : ManagerTurn}
    (hIdle : s.Idle) (hNext : managerOptimize site turn s = some next) :
    SiteInvariant site (inputs ++ [.manager turn]) next := by
  obtain ⟨globals, hInit, hNext⟩ := Option.bind_eq_some_iff.mp hNext
  obtain ⟨values, hValues, hNext⟩ := Option.bind_eq_some_iff.mp hNext
  cases hNext
  have hSiteValues := h.siteValues hSite hInit hValues
  have hSame : gridInputs (inputs ++ [.manager turn]) = gridInputs inputs := gridInputs_snoc nofun
  exact
    { wellFormed := hSame ▸ h.wellFormed
      grid := hSame ▸ h.grid
      chargers := fun p =>
        { inRange := (h.chargers p).inRange
          given := fun hKnown => ((h.chargers p).untold fun hReach =>
            hKnown (.inl ((hSiteValues.known p).mp hReach))).mono (abs_nonneg _)
          between := ((h.chargers p).given (not_awaits hIdle p)).mono (le_max_left _ _)
          untold := (h.chargers p).untold }
      previous := h.values
      values := hSiteValues.fuses
      distinct := hSiteValues.distinct
      pending := fun value hValue =>
        ⟨hValue, fun p hFor => (hSiteValues.known p).mpr ⟨value, hValue, hFor⟩⟩
      calls := fun p action hCall => by
        dsimp only at hCall
        rw [hIdle.2] at hCall
        cases hCall }

/-- The thread of the energy manager makes one of its three kinds of steps. -/
theorem SiteInvariant.managerStep (hSite : WellFormedSite site) {inputs : List SiteInput}
    {s next : SiteState} (h : SiteInvariant site inputs s) {turn : ManagerTurn}
    (hNow : 0 < turn.now) (hInTime : InTime s (.manager turn))
    (hNext : managerStep site turn s = some next) :
    SiteInvariant site (inputs ++ [.manager turn]) next := by
  rw [Grid.managerStep] at hNext
  split at hNext
  · next _ place action calls hCalls =>
    cases hNext
    exact h.managerCall hNow hCalls hInTime
  · next value rest hCalls hPending => exact h.managerSend hCalls hPending hNext
  · next hCalls hPending => exact h.managerOptimize hSite ⟨hPending, hCalls⟩ hNext

/-- The run lemma for all parties together. -/
theorem siteInvariant_run (hSite : WellFormedSite site) {inputs : List SiteInput} {s : SiteState}
    (hRun : run? (siteStep site) (siteStart site) inputs = some s)
    (hPermitted : ∀ input ∈ inputs, Permits input)
    (hInTime : EveryStep? (siteStep site) InTime (siteStart site) inputs) :
    SiteInvariant site inputs s := by
  induction inputs using List.reverseRecOn generalizing s with
  | nil =>
      cases hRun
      exact siteInvariant_nil hSite
  | append_singleton earlier input ih =>
      obtain ⟨state, hState, hStep⟩ := (run?_snoc_eq_some _).mp hRun
      obtain ⟨hBefore, hLast⟩ := eachAfter_snoc.mp hInTime
      have h := ih hState (fun given hGiven => hPermitted given (List.mem_append_left _ hGiven))
        hBefore
      have hInput := hPermitted input (List.mem_append_right _ (List.mem_singleton_self input))
      cases input with
      | grid input =>
          cases hStep
          exact h.gridInput hInput
      | manager turn => exact h.managerStep hSite hInput (hLast state hState) hStep
      | charger place call =>
          cases hStep
          exact h.chargerCall place hInput

/-- A step calls a charger at most once. -/
theorem chargers_siteStep {s next : SiteState} {input : SiteInput}
    (hStep : siteStep site s input = some next) :
    next.chargers = s.chargers ∨ ∃ place call, next.chargers = (s.call place call).chargers := by
  cases input with
  | grid input =>
      cases hStep
      exact .inl rfl
  | charger place call =>
      cases hStep
      exact .inr ⟨place, call, rfl⟩
  | manager turn =>
      rw [siteStep, Grid.managerStep] at hStep
      split at hStep
      · next _ place action _ _ =>
        cases hStep
        exact .inr ⟨place, ⟨turn.now, action⟩, rfl⟩
      · obtain ⟨taken, -, hNext⟩ := Option.bind_eq_some_iff.mp hStep
        cases hNext
        exact .inl rfl
      · obtain ⟨globals, -, hNext⟩ := Option.bind_eq_some_iff.mp hStep
        obtain ⟨values, -, hNext⟩ := Option.bind_eq_some_iff.mp hNext
        cases hNext
        exact .inl rfl

/-- A charger is what its calls have made of it. -/
theorem charger_run {inputs : List SiteInput} {s : SiteState}
    (hRun : run? (siteStep site) (siteStart site) inputs = some s) (place : Place) :
    ∃ calls, s.chargers place =
      World.run (site.memory place) (site.ppAmpacity place) calls := by
  refine run?_invariant (fun _ state => ∃ calls, state.chargers place =
    World.run (site.memory place) (site.ppAmpacity place) calls) ⟨[], rfl⟩ ?_ hRun
  intro _ input state next ⟨calls, hCalls⟩ hStep
  rcases chargers_siteStep hStep with hSame | ⟨other, call, hCalled⟩
  · exact ⟨calls, by rw [hSame, hCalls]⟩
  · by_cases hPlace : place = other
    · subst hPlace
      refine ⟨calls ++ [call], ?_⟩
      rw [hCalled, SiteState.call_chargers_self, hCalls, World.run, World.run, run_append]
      rfl
    · exact ⟨calls, by rw [hCalled, SiteState.call_chargers_of_ne state call hPlace, hCalls]⟩

end Site

/-- The site of the two modules. -/
def twoModulesSite : Site where
  grid := twoModules
  manager := ⟨230, 1, 60, 1, 100, 100000, false⟩
  hour := 0
  rounds := 5
  leapSeconds _ := 0
  grow := doubleCapacity
  memory _ := Charger.blank
  ppAmpacity _ := 32

/-- A turn of the energy manager, with the clock at the given second. -/
def turnAt (second : ℤ) : ManagerTurn := ⟨second * 1000000000, second * 1000, fun _ => 0⟩

/-- An iteration before the energy manager knows of anything, and one after, whose value the EVSE
takes with two calls to its charger. -/
def twoModulesSiteInputs : List SiteInput :=
  .manager (turnAt 1) :: twoModulesInputs.map .grid ++
    [.manager (turnAt 2), .manager (turnAt 2), .manager (turnAt 2), .charger [0] ⟨2001, .enable⟩,
      .manager (turnAt 3)]

end EverestCore.Grid
