import EverestCore.Energy.PriceMerge
import EverestCore.EvseManager.LimitBounds
import EverestCore.EvseManager.EnergyRequest
import EverestCore.Machine.Relay

/-! The energy tree as modules that send each other messages. Requests go up: a node puts what its
consumers ask for into its own request. Limits come down the same way, and every module looks
itself whether they are meant for it. -/
namespace EverestCore.Grid
open Data Machine Energy EvseManager

/-- A module of the energy tree, with its configuration. -/
inductive EnergyModule where
  | energyNode (uuid : String) (config : EnergyNodeConfig)
  | evse (config : EvseConfig) (request : RequestConfig)
  deriving DecidableEq, Repr

def EnergyModule.uuid : EnergyModule → String
  | energyNode uuid _ => uuid
  | evse config _ => config.uuid

/-- The modules with what is connected to each as `energy_consumer`. The energy manager has the
first one as its `energy_trunk`. An EVSE has no consumers, and a uuid is the id of a module. -/
structure EnergyGrid where
  tree : RoseTree EnergyModule
  leaves : ∀ place config request, tree.value? place = some (.evse config request) →
    ∀ i, tree.value? (i :: place) = none
  uuids : ∀ place place' m m', tree.value? place = some m → tree.value? place' = some m' →
    m.uuid = m'.uuid → place = place'

namespace EnergyGrid

def module? (grid : EnergyGrid) (place : Place) : Option EnergyModule := grid.tree.value? place

def Valid (grid : EnergyGrid) (place : Place) : Prop := (grid.module? place).isSome

def uuidAt (grid : EnergyGrid) (place : Place) : String :=
  ((grid.module? place).map EnergyModule.uuid).getD ""

/-- The configuration gives every module a uuid of its own. -/
theorem uuidAt_injective {grid : EnergyGrid} {p q : Place} (hp : grid.Valid p) (hq : grid.Valid q)
    (hSame : grid.uuidAt p = grid.uuidAt q) : p = q := by
  obtain ⟨m, hm⟩ := Option.isSome_iff_exists.mp hp
  obtain ⟨m', hm'⟩ := Option.isSome_iff_exists.mp hq
  rw [uuidAt, uuidAt, hm, hm'] at hSame
  exact grid.uuids p q m m' hm hm' hSame

end EnergyGrid

/-- What a module has published of itself. How often it had published before is kept on the side:
nobody reads it. -/
structure Publication where
  node : RequestNode
  number : ℕ
  deriving DecidableEq, Repr

def Publication.uuid (p : Publication) : String := p.node.uuid

/-- A module publishes one thing after the other. With number zero it has published nothing. -/
instance : Preorder Publication where
  le v w := v.number = 0 ∨ v.uuid = w.uuid ∧ v.number ≤ w.number
  le_refl v := .inr ⟨rfl, le_rfl⟩
  le_trans u v w huv hvw := by
    rcases huv with hNone | ⟨hUuid, hNumber⟩
    · exact .inl hNone
    · rcases hvw with hNone | ⟨hUuid', hNumber'⟩
      · exact .inl (Nat.le_zero.mp (hNone ▸ hNumber))
      · exact .inr ⟨hUuid.trans hUuid', hNumber.trans hNumber'⟩

/-- What an energy node keeps, apart from its children. -/
structure EnergyNodeState where
  request : RequestNode
  energyPricing : EnergyPriceSchedule := {}
  /-- The mutex is held by a publication that does not end. -/
  isLocked : Bool := false
  deriving DecidableEq, Repr

/-- All modules, and the messages between them. -/
structure GridState where
  nodes : Place → EnergyNodeState
  evses : Place → RequestState
  relay : Relay Publication

/-- The request of an energy node after `init`. -/
def initRequest (uuid : String) (config : EnergyNodeConfig) (hour : ℤ) : RequestNode where
  uuid := uuid
  nodeType := .generic
  scheduleImport := some [getLocalSchedule config hour]
  scheduleExport := some [getLocalSchedule config hour]

/-- The request of an EVSE, as it is published. -/
def evseRequest (config : EvseConfig) (s : RequestState) : RequestNode where
  uuid := config.uuid
  nodeType := .evse
  scheduleImport := some s.scheduleImport
  scheduleExport := some s.scheduleExport

/-- What can happen to the modules. Metered values are passed on, but nobody reads them. -/
inductive GridInput where
  | ready (place : Place)
  | externalLimits (place : Place) (hour : ℤ) (limits : ExternalLimits)
  | energyPricing (place : Place) (pricing : EnergyPriceSchedule)
  | powermeter (place : Place)
  | evse (place : Place) (event : RequestEvent)
  | deliver (place : Place)

/-- What a module would publish of itself now. -/
def EnergyGrid.ownRequest (grid : EnergyGrid) (s : GridState) (place : Place) : RequestNode :=
  match grid.module? place with
  | some (.evse config _) => evseRequest config (s.evses place)
  | _ => (s.nodes place).request

section Start

variable (grid : EnergyGrid) (hour : ℤ)

def startNode (place : Place) : EnergyNodeState :=
  match grid.module? place with
  | some (.energyNode uuid config) => { request := initRequest uuid config hour }
  | _ => { request := { uuid := "", nodeType := .undefined } }

def startEvse (place : Place) : RequestState :=
  match grid.module? place with
  | some (.evse _ request) => requestStart request hour
  | _ => { scheduleImport := [], scheduleExport := [] }

/-- The modules after their initialisation, in which nothing is published. -/
def gridStart : GridState where
  nodes := startNode grid hour
  evses := startEvse grid hour
  relay := .start fun place => ⟨(startNode grid hour place).request, 0⟩

end Start

namespace GridState

def setNode (place : Place) (node : EnergyNodeState) (s : GridState) : GridState :=
  { s with nodes := Function.update s.nodes place node }

@[simp] theorem nodes_setNode_self (place : Place) (node : EnergyNodeState) (s : GridState) :
    (s.setNode place node).nodes place = node :=
  Function.update_self _ _ _

/-- A step of one node is no step of another one. -/
theorem nodes_setNode_of_ne {place other : Place} (h : other ≠ place) (node : EnergyNodeState)
    (s : GridState) : (s.setNode place node).nodes other = s.nodes other :=
  Function.update_of_ne h _ _

@[simp] theorem relay_setNode (place : Place) (node : EnergyNodeState) (s : GridState) :
    (s.setNode place node).relay = s.relay := rfl

def publish (place : Place) (node : RequestNode) (s : GridState) : GridState :=
  { s with relay := s.relay.publish place ⟨node, (s.relay.own place).number + 1⟩ }

/-- `publish_complete_energy_object`. A merge of prices that is not over after so many rounds
keeps the mutex. -/
def publishComplete (rounds : ℕ) (place : Place) (s : GridState) : GridState :=
  match publishCompleteEnergyObject rounds (s.nodes place).request
      (s.nodes place).energyPricing with
  | some node => s.publish place node
  | none => s.setNode place { s.nodes place with isLocked := true }

/-- The oldest request of a module arrives: at the energy manager, or at an energy node, which
replaces the child with the same uuid, or adds one, and publishes all it has. -/
def deliver (rounds : ℕ) (place : Place) (s : GridState) : GridState :=
  match s.relay.inFlight place, place with
  | [], _ => s
  | message :: rest, [] => { s with relay := s.relay.receive Publication.uuid [] message rest }
  | message :: rest, i :: above =>
      if (s.nodes above).isLocked then s
      else
        ({ s with relay := s.relay.receive Publication.uuid (i :: above) message rest }
          ).publishComplete rounds above

end GridState

/-- One step of the tree. What needs the mutex of a node waits as long as that is held. -/
def gridStep (rounds : ℕ) (grid : EnergyGrid) (s : GridState) : GridInput → GridState
  | .ready place =>
      match grid.module? place with
      | some (.energyNode _ _) => s.publish place (s.nodes place).request
      | _ => s
  | .externalLimits place hour limits =>
      match grid.module? place with
      | some (.energyNode _ config) =>
          if (s.nodes place).isLocked then s
          else
            s.setNode place { s.nodes place with
              request := setExternalLimits config hour limits (s.nodes place).request }
      | _ => s
  | .energyPricing place pricing =>
      match grid.module? place with
      | some (.energyNode _ _) =>
          if (s.nodes place).isLocked then s
          else
            (s.setNode place { s.nodes place with energyPricing := pricing }).publishComplete
              rounds place
      | _ => s
  | .powermeter place =>
      match grid.module? place with
      | some (.energyNode _ _) =>
          if (s.nodes place).isLocked then s else s.publishComplete rounds place
      | _ => s
  | .evse place event =>
      match grid.module? place with
      | some (.evse config request) =>
          let next := requestStep request (s.evses place) event
          let s := { s with evses := Function.update s.evses place next }
          match event with
          | .publish _ _ => s.publish place (evseRequest config next)
          | _ => s
      | _ => s
  | .deliver place => s.deliver rounds place

/-- The request that the energy manager holds. -/
def GridState.managerRequest (s : GridState) : Option (RoseTree Publication) := s.relay.arrived

/-- A charger behind the fuse of the grid connection. -/
def twoModules : EnergyGrid where
  tree := .node (.energyNode "grid" ⟨63, 3⟩)
    [.node (.evse (gridEvse false)
      { hwCapabilities := ⟨32, 6, 3, 1, 16, 0, 3, 1, false⟩, isDc := false }) []]
  leaves place config request h i := by
    have hPlace := RoseTree.mem_walk.mpr ⟨place, (List.append_nil place).symm, h⟩
    simp only [RoseTree.walk, RoseTree.walkChildren, List.mem_cons, List.append_nil] at hPlace
    rcases hPlace with hPlace | hPlace | hPlace
    · cases hPlace
    · cases hPlace
      rfl
    · cases hPlace
  uuids place place' m m' h h' hUuid := by
    have hPlace := RoseTree.mem_walk.mpr ⟨place, (List.append_nil place).symm, h⟩
    have hPlace' := RoseTree.mem_walk.mpr ⟨place', (List.append_nil place').symm, h'⟩
    simp only [RoseTree.walk, RoseTree.walkChildren, List.mem_cons, List.append_nil,
      List.not_mem_nil, or_false] at hPlace hPlace'
    rcases hPlace with hPlace | hPlace <;> rcases hPlace' with hPlace' | hPlace' <;>
      cases hPlace <;> cases hPlace'
    · rfl
    · exact absurd hUuid (by decide)
    · exact absurd hUuid (by decide)
    · rfl

/-- The example has two places. -/
theorem twoModules_valid {place : Place} (h : twoModules.Valid place) :
    place = [] ∨ place = [0] := by
  obtain ⟨m, hm⟩ := Option.isSome_iff_exists.mp h
  have hPlace := RoseTree.mem_walk.mpr ⟨place, (List.append_nil place).symm, hm⟩
  simp only [twoModules, RoseTree.walk, RoseTree.walkChildren, List.mem_cons, List.append_nil,
    Prod.mk.injEq] at hPlace
  rcases hPlace with ⟨rfl, -⟩ | ⟨rfl, -⟩ | hNone
  · exact .inl rfl
  · exact .inr rfl
  · cases hNone

/-- Both modules have published, and what they sent has arrived. -/
def twoModulesInputs : List GridInput :=
  [.ready [], .evse [0] (.updateLocalMaxCurrentLimit 16 0), .evse [0] (.publish .charging 0),
    .deliver [0], .deliver [], .deliver []]

end EverestCore.Grid
