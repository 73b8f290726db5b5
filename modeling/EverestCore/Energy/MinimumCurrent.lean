import EverestCore.Energy.FuseLimits

/-! The strategy of the brokers: to buy the minimum first and never less, and to
discharge only where charging is not possible. A broker takes an import that is
used up for one that is not possible, and does not know the minimum of an offer
in watts. -/
namespace EverestCore.Energy
open Data Machine

/-- No import limit on the way to the root is zero. -/
def ImportPossible (m : Market) (place : Place) (i : m.Slot) : Prop :=
  ∀ above ∈ place.tails, ∀ node ∈ m.node? above, canTrade (maxSide m.globals node true i) = true

instance (m : Market) (place : Place) (i : m.Slot) : Decidable (ImportPossible m place i) :=
  inferInstanceAs (Decidable (∀ above ∈ place.tails, ∀ node ∈ m.node? above, _))

/-- What is sold at an EVSE is nothing, or no less than the minimum of its offer
in one of the directions. It is sold to the grid only if nothing can be bought. -/
structure StrategyHolds (m : Market) (sold : Ledger m.globals) : Prop where
  minimum : ∀ place, IsEvse m.energyFlowRequest place →
    ∀ offer, createOffer m sold place = some offer → ∀ i : m.Slot,
      soldCurrent (sold place i) = 0 ∨
      (offer.side true i).acMinCurrentA.getD 0 ≤ soldCurrent (sold place i) ∨
      soldCurrent (sold place i) ≤ -(offer.side false i).acMinCurrentA.getD 0
  discharge : ∀ place, IsEvse m.energyFlowRequest place → ∀ i : m.Slot,
    soldCurrent (sold place i) < 0 → ¬ ImportPossible m place i

/-- The direction in which a broker tries to trade. -/
def offeredDirection {g : Globals} (offer : Offer g) (i : Slot g) : Option Bool :=
  if canTrade (offer.side true i) then some true
  else if canTrade (offer.side false i) then some false
  else none

def MarketRef.place? : MarketRef → Option Place
  | .live place => some place
  | .dangling _ => none

/-- On an offer, a broker does not turn to discharging where charging is possible
for an EVSE at or above its place, and there is no minimum if the offer is one in
watts. -/
def OfferKeepsStrategy (m : Market) (place : Place) (offer : Offer m.globals) (i : m.Slot) : Prop :=
  ∀ isImport ∈ offeredDirection offer i,
    (isImport = false → ∀ above ∈ place.tails, IsEvse m.energyFlowRequest above →
      ¬ ImportPossible m above i) ∧
    ((offer.side isImport i).acMaxCurrentA = none →
      (offer.side isImport i).acMinCurrentA.getD 0 ≤ 0)

instance (m : Market) (place : Place) (offer : Offer m.globals) (i : m.Slot) :
    Decidable (OfferKeepsStrategy m place offer i) :=
  inferInstanceAs (Decidable (∀ isImport ∈ offeredDirection offer i, _))

/-- The offer that is made to a broker lets it keep the strategy in every slot. -/
def KeepsStrategy (m : Market) (state : TradingState m.globals) (k : ℕ) : Prop :=
  ∀ broker ∈ state.brokers[k]?, ∀ place ∈ broker.localMarket.place?,
    ∀ offer ∈ createOffer m state.sold place, ∀ i, OfferKeepsStrategy m place offer i

instance (m : Market) (state : TradingState m.globals) (k : ℕ) :
    Decidable (KeepsStrategy m state k) :=
  inferInstanceAs (Decidable (∀ broker ∈ state.brokers[k]?, ∀ place ∈ broker.localMarket.place?, _))

/-- An amount is no less than any minimum on the way to the root. -/
structure ReachesMinimum (m : Market) (isImport : Bool) (i : m.Slot) (place : Place) (v : ℚ) :
    Prop where
  nonneg : 0 ≤ v
  minimum : ∀ above node, above <:+ place → m.node? above = some node →
    ∀ x, (maxSide m.globals node isImport i).acMinCurrentA = some x → x ≤ v

/-- A minimum that is reached stays reached at the places above, and with a higher current. -/
theorem ReachesMinimum.mono {m : Market} {isImport : Bool} {i : m.Slot} {place above : Place}
    {v w : ℚ} (h : ReachesMinimum m isImport i place v) (hAbove : above <:+ place) (hLe : v ≤ w) :
    ReachesMinimum m isImport i above w where
  nonneg := h.nonneg.trans hLe
  minimum other node hOther hNode x hx :=
    (h.minimum other node (hOther.trans hAbove) hNode x hx).trans hLe

/-- What was sold makes no difference to a minimum. -/
theorem acMinCurrentA_available (g : Globals) (node : RequestNode)
    (sold : Slot g → ScheduleResEntry) (isImport : Bool) (i : Slot g) :
    (available g node sold isImport i).acMinCurrentA = (maxSide g node isImport i).acMinCurrentA := by
  cases isImport <;> rfl

/-- An amount that is no less than any minimum on the way is no less than that of
the offer. -/
theorem ReachesMinimum.offer_le {m : Market} {isImport : Bool} {i : m.Slot} {place : Place} {v : ℚ}
    (h : ReachesMinimum m isImport i place v) {sold : Ledger m.globals} {offer : Offer m.globals}
    (hOffer : createOffer m sold place = some offer) :
    (offer.side isImport i).acMinCurrentA.getD 0 ≤ v := by
  cases hSome : (offer.side isImport i).acMinCurrentA with
  | none => exact h.nonneg
  | some x =>
      obtain ⟨above, node, hAbove, hNode, hx⟩ :=
        createOffer_attained isSmallerLimit_acMinCurrentA hOffer hSome
      rw [acMinCurrentA_available] at hx
      exact h.minimum above node hAbove hNode x hx

/-- The minimum of an offer is at least that of every node on the way. -/
theorem acMinCurrentA_of_node {m : Market} {sold : Ledger m.globals} {place above : Place}
    {offer : Offer m.globals} (hOffer : createOffer m sold place = some offer)
    (hAbove : above <:+ place) {node : RequestNode} (hNode : m.node? above = some node)
    {isImport : Bool} {i : m.Slot} {x : ℚ}
    (hx : (maxSide m.globals node isImport i).acMinCurrentA = some x) :
    ∃ o : ℚ, (offer.side isImport i).acMinCurrentA = some o ∧ x ≤ o := by
  rw [← acMinCurrentA_available m.globals node (sold above)] at hx
  exact createOffer_stricter isSmallerLimit_acMinCurrentA hOffer hAbove hNode isImport i x hx

/-- A limit of zero makes the offer zero. -/
theorem offer_eq_zero {limit : LimitsReq → Option ℚ} {amount : ScheduleResEntry → ℚ}
    (hUnit : IsUnit limit amount) {m : Market} (hMarket : m.WellFormed) {sold : Ledger m.globals}
    (hWithin : WithinLimits m limit amount sold) {place above : Place} {offer : Offer m.globals}
    (hOffer : createOffer m sold place = some offer) (hAbove : above <:+ place)
    {node : RequestNode} (hNode : m.node? above = some node) {isImport : Bool} {i : m.Slot}
    (hZero : limit (maxSide m.globals node isImport i) = some 0) :
    limit (offer.side isImport i) = some 0 := by
  have hStricter := createOffer_stricter hUnit.smaller hOffer hAbove hNode isImport i
  rw [limit_available hUnit, hZero] at hStricter
  obtain ⟨o, ho, hLe⟩ := hStricter _ rfl
  have hNonneg := offer_nonneg hUnit hMarket.current hWithin hOffer ho
  have hMax := le_max_right (sign isImport * amount (sold above i)) 0
  rw [ho, le_antisymm (by linarith) hNonneg]

section Trade

variable {m : Market} (hMarket : m.WellFormed) {sold : Ledger m.globals} (hFuses : FusesHold m sold)
  {place : Place} {offer : Offer m.globals} (hOffer : createOffer m sold place = some offer)

include hMarket hFuses hOffer

/-- A first purchase reaches the minimum, unless it is made on an offer in watts
that has one. -/
theorem first_purchase_reachesMinimum {broker : Broker m.globals} {i : m.Slot} {isImport : Bool}
    {a : ℚ} (hPurchase : brokerPurchase m broker offer i = some (isImport, a))
    (hFirst : broker.firstTrade i = true)
    (hWatt : (offer.side isImport i).acMaxCurrentA = none →
      (offer.side isImport i).acMinCurrentA.getD 0 ≤ 0) :
    ReachesMinimum m isImport i place a := by
  have ha : 0 ≤ a := (brokerPurchase_fits hMarket.current hFuses hOffer
    (fun _ _ _ _ _ => hMarket.sliceWatt) hPurchase).1
  refine ⟨ha, fun above node hAbove hNode x hx => ?_⟩
  obtain ⟨o, ho, hxo⟩ := acMinCurrentA_of_node hOffer hAbove hNode hx
  by_cases hPositive : 0 < o
  · -- the minimum is bought, since the offer cannot be one in watts
    obtain ⟨-, -, hAmount⟩ := slotPurchase_eq_some hPurchase
    have hFirstAmount : firstAmount (offer.side isImport i) (broker.firstTrade i) = some o := by
      rw [firstAmount, if_pos hFirst, ho]
      exact Option.filter_eq_some_iff.mpr ⟨rfl, decide_eq_true hPositive⟩
    cases hCurrent : (offer.side isImport i).acMaxCurrentA with
    | none =>
        have hZero := hWatt hCurrent
        rw [ho, Option.getD_some] at hZero
        exact absurd hPositive (not_lt.mpr hZero)
    | some maxCurrent =>
        simp only [purchaseAmount, hCurrent, hFirstAmount] at hAmount
        split_ifs at hAmount
        cases hAmount
        exact hxo
  · exact (hxo.trans (not_lt.mp hPositive)).trans ha

/-- Nothing can be bought where a limit on the way is zero. -/
theorem importPossible_of_canTrade {i : m.Slot} (hTrade : canTrade (offer.side true i) = true)
    {above : Place} (hAbove : above <:+ place) : ImportPossible m above i := by
  intro other hOther node hNode
  have hWay := ((List.mem_tails _ _).mp hOther).trans hAbove
  simp only [canTrade, Bool.not_eq_true', decide_eq_false_iff_not] at hTrade ⊢
  rintro (hPower | hCurrent)
  · exact hTrade (Or.inl (offer_eq_zero isUnit_power hMarket hFuses.power hOffer hWay hNode hPower))
  · exact hTrade (Or.inr
      (offer_eq_zero isUnit_current hMarket hFuses.current hOffer hWay hNode hCurrent))

/-- As long as the strategy is kept, a node that imports goes on to import. -/
theorem direction_of_purchase {broker : Broker m.globals} {i : m.Slot} {isImport : Bool} {a : ℚ}
    (hKeeps : OfferKeepsStrategy m place offer i)
    (hPurchase : brokerPurchase m broker offer i = some (isImport, a))
    {above : Place} (hAbove : above <:+ place) (hEvse : IsEvse m.energyFlowRequest above) :
    isImport = decide (ImportPossible m above i) ∧
      ((offer.side isImport i).acMaxCurrentA = none →
        (offer.side isImport i).acMinCurrentA.getD 0 ≤ 0) := by
  obtain ⟨hTrade, hOther, -⟩ := slotPurchase_eq_some hPurchase
  cases isImport with
  | true =>
      have hDirection : offeredDirection offer i = some true := by
        rw [offeredDirection, if_pos hTrade]
      have hPossible := importPossible_of_canTrade hMarket hFuses hOffer hTrade hAbove
      exact ⟨(decide_eq_true hPossible).symm, (hKeeps true hDirection).2⟩
  | false =>
      have hDirection : offeredDirection offer i = some false := by
        rw [offeredDirection, if_neg (by simp [hOther rfl]), if_pos hTrade]
      obtain ⟨hDischarge, hWatt⟩ := hKeeps false hDirection
      have hImpossible := hDischarge rfl above ((List.mem_tails _ _).mpr hAbove) hEvse
      exact ⟨(decide_eq_false hImpossible).symm, hWatt⟩

end Trade

/-! The invariant of the trades. -/

/-- No broker at or below a place has traded in a slot yet. -/
def NothingTraded {g : Globals} (brokers : List (Broker g)) (place : Place) (i : Slot g) : Prop :=
  ∀ broker ∈ brokers, ∀ local', broker.localMarket = .live local' → place <:+ local' →
    broker.firstTrade i = true

/-- At every EVSE nothing has been traded yet, or the minimum is reached in the
direction that is possible. -/
structure StrategyInvariant (m : Market) (state : TradingState m.globals) : Prop where
  fuses : FusesHold m state.sold
  evses : ∀ place, IsEvse m.energyFlowRequest place → ∀ i : m.Slot,
    (soldCurrent (state.sold place i) = 0 ∧ NothingTraded state.brokers place i) ∨
    ReachesMinimum m (decide (ImportPossible m place i)) i place
      (sign (decide (ImportPossible m place i)) * soldCurrent (state.sold place i))

/-- Before the first trade there is nothing to be kept. -/
theorem strategyInvariant_openMarket {m : Market} (hMarket : m.WellFormed) :
    StrategyInvariant m (openMarket m) := by
  refine ⟨fusesHold_empty hMarket.current, fun place _ i => Or.inl ⟨rfl, fun broker hBroker _ _ _ => ?_⟩⟩
  obtain ⟨ref, -, rfl⟩ := List.mem_map.mp hBroker
  rfl

/-- Brokers elsewhere, or in slots in which they buy nothing, stay as they are. -/
theorem nothingTraded_set {g : Globals} {brokers : List (Broker g)} {place above : Place}
    {i : Slot g} (h : NothingTraded brokers above i) {k : ℕ} {broker : Broker g}
    (hBroker : brokers[k]? = some broker) (hLive : broker.localMarket = .live place)
    {bought : Slot g → Bool} (hSame : above <:+ place → bought i = false) :
    NothingTraded (brokers.set k (broker.afterBuying bought)) above i := by
  intro other hOther local' hLocal hBelow
  rcases List.mem_or_eq_of_mem_set hOther with hOther | rfl
  · exact h other hOther local' hLocal hBelow
  · cases hLive.symm.trans hLocal
    have hFirst := h broker (List.mem_of_getElem? hBroker) place hLive hBelow
    simp [Broker.afterBuying, hFirst, hSame hBelow]

/-- A trade that keeps the strategy keeps the invariant: the first purchase reaches the minimum, and
later ones only add to it. -/
theorem brokerStep_strategyInvariant {m : Market} (hMarket : m.WellFormed)
    {state next : TradingState m.globals} {k : ℕ} (hInv : StrategyInvariant m state)
    (hKeeps : KeepsStrategy m state k) (hStep : brokerStep m state k = some next) :
    StrategyInvariant m next := by
  obtain ⟨traded, hTrade⟩ := brokerStep_eq_some.mp hStep
  refine ⟨brokerTrade_fusesHold hMarket hInv.fuses hTrade, fun above hEvse i => ?_⟩
  obtain ⟨broker, place, offer, hBroker, hLive, hOffer, -, hSold, hBrokers⟩ :=
    brokerTrade_eq_some hTrade
  have hOfferKeeps : OfferKeepsStrategy m place offer i :=
    hKeeps broker hBroker place (by rw [hLive]; rfl) offer hOffer i
  rw [hSold, hBrokers]
  by_cases hAbove : above <:+ place
  · have hAmount : soldCurrent (book (brokerSchedule m broker offer) place state.sold above i) =
        soldCurrent (state.sold above i) + purchasedCurrent (brokerPurchase m broker offer i) := by
      rw [book, if_pos hAbove, soldCurrent_addLimits, soldCurrent_brokerSchedule]
    rw [hAmount]
    cases hPurchase : brokerPurchase m broker offer i with
    | none =>
        rw [purchasedCurrent, add_zero]
        refine (hInv.evses above hEvse i).imp_left fun h => ⟨h.1, ?_⟩
        exact nothingTraded_set h.2 hBroker hLive fun _ => by simp [hPurchase]
    | some purchase =>
        obtain ⟨isImport, a⟩ := purchase
        obtain ⟨hDirection, hWatt⟩ := direction_of_purchase hMarket hInv.fuses hOffer hOfferKeeps
          hPurchase hAbove hEvse
        rw [← hDirection, purchasedCurrent, mul_add, sign_mul_self]
        right
        rcases hInv.evses above hEvse i with ⟨hZero, hNothing⟩ | hReached
        · have hFirst := hNothing broker (List.mem_of_getElem? hBroker) place hLive hAbove
          have hMinimum := first_purchase_reachesMinimum hMarket hInv.fuses hOffer hPurchase hFirst
            hWatt
          rw [hZero, mul_zero, zero_add]
          exact hMinimum.mono hAbove le_rfl
        · have ha := (brokerPurchase_fits hMarket.current hInv.fuses hOffer
            (fun _ _ _ _ _ => hMarket.sliceWatt) hPurchase).1
          rw [← hDirection] at hReached
          exact hReached.mono (List.suffix_refl _) (le_add_of_nonneg_right ha)
  · rw [book, if_neg hAbove]
    refine (hInv.evses above hEvse i).imp_left fun h => ⟨h.1, ?_⟩
    exact nothingTraded_set h.2 hBroker hLive fun hBelow => absurd hBelow hAbove

/-- What the invariant says about the ledger alone. -/
theorem StrategyInvariant.holds {m : Market} {state : TradingState m.globals}
    (h : StrategyInvariant m state) : StrategyHolds m state.sold := by
  constructor
  · intro place hEvse offer hOffer i
    rcases h.evses place hEvse i with ⟨hZero, -⟩ | hReached
    · exact Or.inl hZero
    · have hLe := hReached.offer_le hOffer
      by_cases hPossible : ImportPossible m place i
      · rw [decide_eq_true hPossible, sign, if_pos rfl, one_mul] at hLe
        exact Or.inr (Or.inl hLe)
      · rw [decide_eq_false hPossible, sign, if_neg Bool.false_ne_true] at hLe
        exact Or.inr (Or.inr (by linarith))
  · intro place hEvse i hNegative hPossible
    rcases h.evses place hEvse i with ⟨hZero, -⟩ | hReached
    · linarith
    · have hNonneg := hReached.nonneg
      rw [decide_eq_true hPossible, sign, if_pos rfl, one_mul] at hNonneg
      linarith

/-- An EVSE that needs six amperes and can get no more. -/
def sixAmpereEvse (scheduleExport : Option (List ScheduleReqEntry)) : Market where
  globals := oneSlot
  nominalAcVoltage := 230
  energyFlowRequest :=
    let limits : LimitsReq := { acMaxCurrentA := some 6, acMinCurrentA := some 6 }
    .node
      { uuid := "evse"
        nodeType := .evse
        scheduleImport := some [{ timestamp := 0, limitsToRoot := limits, limitsToLeaves := limits }]
        scheduleExport := scheduleExport } []
  grow := doubleCapacity

end EverestCore.Energy
