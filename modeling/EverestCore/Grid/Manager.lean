import EverestCore.EvseManager.EnforceLimits
import Mathlib.Algebra.BigOperators.Group.Finset.Piecewise
import Mathlib.Algebra.BigOperators.Group.Finset.Basic

/-! One iteration of the energy manager: from the request of the tree to the limits of the EVSEs,
and how what a node has sold is shared by the EVSEs below it. -/
namespace EverestCore.Grid
open Data Machine Energy EvseManager

/-- `EnergyManager::run_optimizer`: the limits of all EVSEs, in the order of their brokers. There
is no result if a reference to an EVSE is stale. -/
def managerValues (m : Market) (validUntil : ℤ) : Option (List EnforcedLimits) := do
  let (_, state) ← runOptimizer m
  state.brokers.mapM fun broker => optimizedValue m validUntil state.sold broker.localMarket

/-- The EVSEs at or below a place. -/
def evsesBelow (request : EnergyFlowRequest) (place : Place) : Finset Place :=
  (((request.walk []).filter fun visit => visit.2.nodeType = .evse ∧ place <:+ visit.1).map
    Prod.fst).toFinset

/-- The EVSEs below a place are those whose place ends with it. -/
theorem mem_evsesBelow {request : EnergyFlowRequest} {place p : Place} :
    p ∈ evsesBelow request place ↔ IsEvse request p ∧ place <:+ p := by
  simp only [evsesBelow, List.mem_toFinset, List.mem_map, List.mem_filter, decide_eq_true_eq]
  constructor
  · rintro ⟨⟨p, node⟩, ⟨hVisit, hEvse, hBelow⟩, rfl⟩
    exact ⟨⟨node, mem_walk_root.mp hVisit, hEvse⟩, hBelow⟩
  · rintro ⟨⟨node, hNode, hEvse⟩, hBelow⟩
    exact ⟨(p, node), ⟨mem_walk_root.mpr hNode, hEvse, hBelow⟩, rfl⟩

/-- There is no EVSE below another one. -/
def EvsesAreLeaves (request : EnergyFlowRequest) : Prop :=
  ∀ p p', IsEvse request p → IsEvse request p' → p <:+ p' → p = p'

/-- What every node has sold is what the EVSEs below it have bought. -/
def Shared (m : Market) (sold : Ledger m.globals) : Prop :=
  ∀ place i, soldCurrent (sold place i) =
    ∑ p ∈ evsesBelow m.energyFlowRequest place, soldCurrent (sold p i)

/-- Nothing was sold and nobody has bought. -/
theorem shared_empty (m : Market) : Shared m (emptyLedger m.globals) := by
  intro place i
  have hZero (p : Place) : soldCurrent (emptyLedger m.globals p i) = 0 := rfl
  simp only [hZero, Finset.sum_const_zero]

/-- A sale counts for the market places on its way to the root, and for no others. -/
theorem soldCurrent_book {g : Globals} (traded : Slot g → ScheduleResEntry) (place above : Place)
    (sold : Ledger g) (i : Slot g) :
    soldCurrent (book traded place sold above i) =
      soldCurrent (sold above i) + if above <:+ place then soldCurrent (traded i) else 0 := by
  unfold book
  split
  · rw [soldCurrent_addLimits]
  · rw [add_zero]

/-- Of all EVSEs, only the one that trades sells something. -/
theorem shared_book {m : Market} (hLeaves : EvsesAreLeaves m.energyFlowRequest)
    {sold : Ledger m.globals} (hShared : Shared m sold) {place : Place}
    (hEvse : IsEvse m.energyFlowRequest place) (traded : m.Slot → ScheduleResEntry) :
    Shared m (book traded place sold) := by
  intro above i
  simp only [soldCurrent_book, Finset.sum_add_distrib, hShared above i]
  congr 1
  have hOnly : ∀ p ∈ evsesBelow m.energyFlowRequest above,
      (if p <:+ place then soldCurrent (traded i) else 0) =
        if p = place then soldCurrent (traded i) else 0 := by
    intro p hp
    have hSame : p <:+ place ↔ p = place :=
      ⟨hLeaves p place (mem_evsesBelow.mp hp).1 hEvse, fun h => h ▸ List.suffix_refl _⟩
    simp only [hSame]
  rw [Finset.sum_congr rfl hOnly, Finset.sum_ite_eq']
  simp only [mem_evsesBelow, hEvse, true_and]

/-- A live reference names its place. -/
theorem eq_of_placeRef {place p : Place} (h : placeRef place = .live p) : p = place := by
  unfold placeRef at h
  split at h
  · exact (MarketRef.live.inj h).symm
  · cases h

/-- What is listed as an EVSE is one. -/
theorem isEvse_of_live_mem {request : EnergyFlowRequest} {place : Place}
    (h : .live place ∈ getListOfEvses request) : IsEvse request place := by
  obtain ⟨p, hEvse, hRef⟩ := mem_getListOfEvses.mp h
  exact eq_of_placeRef hRef.symm ▸ hEvse

/-- What is sold at a place is bought by the EVSEs below it, after any sequence of trades. -/
theorem run_shared {m : Market} (hLeaves : EvsesAreLeaves m.energyFlowRequest) {calls : List ℕ}
    {state : TradingState m.globals}
    (hRun : run? (brokerStep m) (openMarket m) calls = some state) : Shared m state.sold := by
  let refs := getListOfEvses m.energyFlowRequest
  have hBoth : Shared m state.sold ∧ state.brokers.map Broker.localMarket = refs := by
    refine run?_invariant
      (fun _ state => Shared m state.sold ∧ state.brokers.map Broker.localMarket = refs)
      ⟨shared_empty m, by simp [openMarket, refs, Function.comp_def]⟩ ?_ hRun
    intro _ k state next hBefore hStep
    obtain ⟨hShared, hRefs⟩ := hBefore
    refine ⟨?_, (brokerStep_localMarkets hStep).trans hRefs⟩
    obtain ⟨traded, hTrade⟩ := brokerStep_eq_some.mp hStep
    obtain ⟨broker, place, offer, hBroker, hLive, -, -, hSold, -⟩ := brokerTrade_eq_some hTrade
    have hListed : .live place ∈ refs := by
      rw [← hRefs, ← hLive]
      exact List.mem_map_of_mem (List.mem_of_getElem? hBroker)
    rw [hSold]
    exact shared_book hLeaves hShared (isEvse_of_live_mem hListed) _
  exact hBoth.1

/-- Where the first slot gives what the EVSE gets. -/
theorem optimizedValue_eq_some {m : Market} {validUntil : ℤ} {sold : Ledger m.globals}
    {ref : MarketRef} {value : EnforcedLimits}
    (h : optimizedValue m validUntil sold ref = some value) :
    ∃ place node, ∃ first : m.Slot, ref = .live place ∧ m.node? place = some node ∧
      first.val = 0 ∧ value.uuid = node.uuid ∧
      value.limitsRootSide = some (sold place first).limitsToRoot := by
  cases ref with
  | dangling place => cases h
  | live place =>
      obtain ⟨node, hNode, hFirst⟩ := Option.bind_eq_some_iff.mp h
      obtain ⟨entry, hEntry, hValue⟩ := Option.bind_eq_some_iff.mp hFirst
      rw [List.head?_eq_getElem?, List.getElem?_ofFn] at hEntry
      split at hEntry
      · next hSlots =>
        cases hEntry
        cases hValue
        exact ⟨place, node, ⟨0, hSlots⟩, rfl, hNode, rfl, rfl, rfl⟩
      · cases hEntry

/-- The values that are computed from a list. -/
theorem forall₂_of_mapM {α β : Type*} {f : α → Option β} {l : List α} {results : List β}
    (h : l.mapM f = some results) : List.Forall₂ (fun a b => f a = some b) l results := by
  induction l generalizing results with
  | nil =>
      cases h
      exact .nil
  | cons a rest ih =>
      rw [List.mapM_cons] at h
      obtain ⟨b, hb, h⟩ := Option.bind_eq_some_iff.mp h
      obtain ⟨others, hOthers, h⟩ := Option.bind_eq_some_iff.mp h
      cases h
      exact .cons hb (ih hOthers)

/-- What is computed of different things is different, if no two things give the same. -/
theorem pairwise_of_forall₂ {α β : Type*} {r : α → β → Prop} {l : List α} {results : List β}
    {p : α → α → Prop} {q : β → β → Prop} (h : List.Forall₂ r l results) (hl : l.Pairwise p)
    (hStep : ∀ a a' b b', r a b → r a' b' → p a a' → q b b') : results.Pairwise q := by
  induction h with
  | nil => exact .nil
  | @cons a b rest others hr hRest ih =>
      rw [List.pairwise_cons] at hl ⊢
      refine ⟨fun b' hb' => ?_, ih hl.2⟩
      obtain ⟨k, hk, rfl⟩ := List.mem_iff_getElem.mp hb'
      have hk' : k < rest.length := hRest.length_eq ▸ hk
      exact hStep a rest[k] b others[k] hr (hRest.get hk' hk) (hl.1 _ (List.getElem_mem hk'))

/-- What the values of an iteration are: one for each EVSE, with what it has bought in the first
slot. -/
structure ManagerResult (m : Market) (values : List EnforcedLimits) (sold : Ledger m.globals) :
    Prop where
  fuses : m.WellFormed → FusesHold m sold
  shared : EvsesAreLeaves m.energyFlowRequest → Shared m sold
  ofEvse : ∀ value ∈ values, ∃ place node, ∃ first : m.Slot, IsEvse m.energyFlowRequest place ∧
    m.node? place = some node ∧ first.val = 0 ∧ value.uuid = node.uuid ∧
    value.limitsRootSide = some (sold place first).limitsToRoot
  toEvse : ∀ place, IsEvse m.energyFlowRequest place →
    ∃ value ∈ values, ∃ node, m.node? place = some node ∧ value.uuid = node.uuid
  distinct : (∀ p p' node node', m.node? p = some node → m.node? p' = some node' →
    node.uuid = node'.uuid → p = p') → (values.map EnforcedLimits.uuid).Nodup

/-- Whatever values the energy manager gets, there is a ledger behind them that they were read from.
-/
theorem managerResult {m : Market} {validUntil : ℤ} {values : List EnforcedLimits}
    (h : managerValues m validUntil = some values) : ∃ sold, ManagerResult m values sold := by
  obtain ⟨⟨counter, state⟩, hOptimizer, hValues⟩ := Option.bind_eq_some_iff.mp h
  have hRun := run_optimizerCalls hOptimizer
  have hRefs : state.brokers.map Broker.localMarket = getListOfEvses m.energyFlowRequest := by
    rw [run_localMarkets hRun]
    simp [openMarket, Function.comp_def]
  have hEach : List.Forall₂ (fun ref value => optimizedValue m validUntil state.sold ref =
      some value) (getListOfEvses m.energyFlowRequest) values := by
    rw [← hRefs, List.forall₂_map_left_iff]
    exact forall₂_of_mapM hValues
  refine ⟨state.sold, fun hMarket => run_fusesHold hMarket hRun, fun hLeaves =>
    run_shared hLeaves hRun, fun value hValue => ?_, fun place hPlace => ?_, fun hUuids => ?_⟩
  · obtain ⟨k, hk, rfl⟩ := List.mem_iff_getElem.mp hValue
    have hk' := hEach.length_eq ▸ hk
    obtain ⟨place, node, first, hRef, hNode, hFirst, hUuid, hLimits⟩ :=
      optimizedValue_eq_some (hEach.get hk' hk)
    refine ⟨place, node, first, isEvse_of_live_mem ?_, hNode, hFirst, hUuid, hLimits⟩
    rw [← hRef]
    exact List.getElem_mem hk'
  · obtain ⟨k, hk, hRef⟩ := List.mem_iff_getElem.mp (mem_getListOfEvses.mpr ⟨place, hPlace, rfl⟩)
    have hk' := hEach.length_eq ▸ hk
    obtain ⟨p, node, first, hLive, hNode, -, hUuid, -⟩ := optimizedValue_eq_some (hEach.get hk hk')
    have hSame : p = place := eq_of_placeRef (hRef.symm.trans hLive)
    exact ⟨_, List.getElem_mem hk', node, hSame ▸ hNode, hUuid⟩
  · rw [List.Nodup, List.pairwise_map]
    refine pairwise_of_forall₂ hEach (nodup_getListOfEvses m.energyFlowRequest) ?_
    intro ref ref' value value' hValue hValue' hNe hSame
    obtain ⟨p, node, -, rfl, hNode, -, hUuid, -⟩ := optimizedValue_eq_some hValue
    obtain ⟨p', node', -, rfl, hNode', -, hUuid', -⟩ := optimizedValue_eq_some hValue'
    apply hNe
    rw [hUuids p p' node node' hNode hNode' (by rw [← hUuid, ← hUuid', hSame])]

end EverestCore.Grid
