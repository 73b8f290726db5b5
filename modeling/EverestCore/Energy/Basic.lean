import EverestCore.Data.RoseTree
import Mathlib.Data.Rat.Defs
import Mathlib.Algebra.Order.Ring.Rat

/-! Requests and results of the energy tree. Currents, powers and prices are
exact rationals. A point in time is the count of nanoseconds that its textual
form stands for. -/
namespace EverestCore.Energy
open Data

inductive NodeType where
  | undefined
  | evse
  | generic
  deriving DecidableEq, Repr

structure PricePerkWh where
  timestamp : ℤ
  value : ℚ
  currency : String
  deriving DecidableEq, Repr

/-- Limits as a node asks for them. -/
structure LimitsReq where
  totalPowerW : Option ℚ := none
  acMaxCurrentA : Option ℚ := none
  acMinCurrentA : Option ℚ := none
  acMaxPhaseCount : Option ℤ := none
  acMinPhaseCount : Option ℤ := none
  acSupportsChangingPhasesDuringCharging : Option Bool := none
  deriving DecidableEq, Repr

/-- Limits as the energy manager grants them. -/
structure LimitsRes where
  totalPowerW : Option ℚ := none
  acMaxCurrentA : Option ℚ := none
  acMaxPhaseCount : Option ℤ := none
  deriving DecidableEq, Repr

structure ScheduleReqEntry where
  timestamp : ℤ
  limitsToRoot : LimitsReq := {}
  limitsToLeaves : LimitsReq := {}
  conversionEfficiency : Option ℚ := none
  pricePerKwh : Option PricePerkWh := none
  deriving DecidableEq, Repr

structure ScheduleResEntry where
  timestamp : ℤ
  limitsToRoot : LimitsRes := {}
  pricePerKwh : Option PricePerkWh := none
  deriving DecidableEq, Repr

/-- What a node of the energy tree asks for itself. -/
structure RequestNode where
  uuid : String
  nodeType : NodeType
  scheduleImport : Option (List ScheduleReqEntry) := none
  scheduleExport : Option (List ScheduleReqEntry) := none
  deriving DecidableEq, Repr

/-- The request of a node together with those of all nodes below it. -/
abbrev EnergyFlowRequest := RoseTree RequestNode

/-- A place of the tree at which an EVSE asks for energy. -/
def IsEvse (request : EnergyFlowRequest) (place : Place) : Prop :=
  ∃ node, request.value? place = some node ∧ node.nodeType = .evse

instance (request : EnergyFlowRequest) (place : Place) : Decidable (IsEvse request place) :=
  decidable_of_iff (∃ node ∈ request.value? place, node.nodeType = .evse) Iff.rfl

theorem IsEvse.subtree?_isSome {request : EnergyFlowRequest} {place : Place}
    (h : IsEvse request place) : (request.subtree? place).isSome := by
  obtain ⟨node, hNode, -⟩ := h
  rw [RoseTree.value?] at hNode
  rw [← Option.isSome_map, hNode]
  rfl

end EverestCore.Energy
