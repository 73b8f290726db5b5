import EverestCore.Energy.MarketTree

/-! Offers and the broker that charges as fast as possible. An offer is made of
the limits of all market places on the way to the root; the broker decides in
each time slot on its own what it buys or sells. -/
namespace EverestCore.Energy
open Data

/-- All that a round of trading finds unchanged. -/
structure Market where
  globals : Globals
  nominalAcVoltage : ℚ
  energyFlowRequest : EnergyFlowRequest
  grow : ℕ → ℕ

namespace Market

abbrev Slot (m : Market) := Energy.Slot m.globals

/-- The request of the node at a place. -/
def node? (m : Market) (place : Place) : Option RequestNode := m.energyFlowRequest.value? place

end Market

structure Offer (g : Globals) where
  importOffer : Slot g → ScheduleReqEntry
  exportOffer : Slot g → ScheduleReqEntry

section Limits

variable {α : Type*} [LT α] [DecidableLT α]

def applyOneLimitIfSmaller (a b : Option α) : Option α :=
  match b with
  | none => a
  | some limit =>
      match a with
      | some value => if value > limit then some limit else some value
      | none => some limit

def applyOneLimitIfGreater (a b : Option α) : Option α :=
  match b with
  | none => a
  | some limit =>
      match a with
      | some value => if value < limit then some limit else some value
      | none => some limit

end Limits

/-- `apply_limits` in one slot. -/
def applyLimits (a b : ScheduleReqEntry) : ScheduleReqEntry :=
  { a with
    limitsToRoot := { a.limitsToRoot with
      acMaxCurrentA :=
        applyOneLimitIfSmaller a.limitsToRoot.acMaxCurrentA b.limitsToRoot.acMaxCurrentA
      acMaxPhaseCount :=
        applyOneLimitIfSmaller a.limitsToRoot.acMaxPhaseCount b.limitsToRoot.acMaxPhaseCount
      totalPowerW := applyOneLimitIfSmaller a.limitsToRoot.totalPowerW b.limitsToRoot.totalPowerW
      acMinPhaseCount :=
        applyOneLimitIfGreater a.limitsToRoot.acMinPhaseCount b.limitsToRoot.acMinPhaseCount
      acMinCurrentA :=
        applyOneLimitIfGreater a.limitsToRoot.acMinCurrentA b.limitsToRoot.acMinCurrentA }
    pricePerKwh := b.pricePerKwh }

/-- The offer of the parent, limited by what is available at a market place. -/
def limitOffer {g : Globals} (node : RequestNode) (sold : Slot g → ScheduleResEntry)
    (offer : Offer g) : Offer g where
  importOffer i := applyLimits (offer.importOffer i) (getAvailableEnergyImport g node sold i)
  exportOffer i := applyLimits (offer.exportOffer i) (getAvailableEnergyExport g node sold i)

/-- `Offer::create_offer_for_local_market`: from the place up to the root, and the
limits on the way back. -/
def createOffer (m : Market) (sold : Ledger m.globals) : Place → Option (Offer m.globals)
  | [] => do
      let node ← m.node? []
      return limitOffer node (sold [])
        ⟨emptyScheduleReq m.globals, emptyScheduleReq m.globals⟩
  | i :: place => do
      let node ← m.node? (i :: place)
      match parent m.grow m.energyFlowRequest (i :: place) with
      | some (.live _) =>
          let offer ← createOffer m sold place
          return limitOffer node (sold (i :: place)) offer
      | _ => none

/-- What a broker has decided in one slot so far. -/
structure SlotTrade where
  trading : ScheduleResEntry
  traded : Bool
  firstTrade : Bool
  deriving DecidableEq, Repr

namespace SlotTrade

def buyAmpereUnchecked (ampere : ℚ) (s : SlotTrade) : SlotTrade where
  trading := { s.trading with
    limitsToRoot := { s.trading.limitsToRoot with acMaxCurrentA := some ampere } }
  traded := true
  firstTrade := false

def buyWattUnchecked (watt : ℚ) (s : SlotTrade) : SlotTrade where
  trading := { s.trading with
    limitsToRoot := { s.trading.limitsToRoot with totalPowerW := some watt } }
  traded := true
  firstTrade := s.firstTrade

end SlotTrade

/-- Imports are bought, exports are sold. -/
def sign (isImport : Bool) : ℚ := if isImport then 1 else -1

/-- The sign of a direction is its own inverse. -/
theorem sign_mul_self (isImport : Bool) (x : ℚ) : sign isImport * (sign isImport * x) = x := by
  cases isImport <;> simp [sign]

section Broker

variable (voltage : ℚ) (offer : LimitsReq) (isImport : Bool)

/-- The power that goes with a current. -/
def acPower (ampere : ℚ) : ℚ := ampere * (offer.acMaxPhaseCount.getD 1 : ℤ) * voltage

/-- There is either no watt limit, or it is high enough for a current. -/
def enoughPower (ampere : ℚ) : Bool :=
  match offer.totalPowerW with
  | some totalPower => totalPower ≥ acPower voltage offer ampere
  | none => true

/-- The current for which the watt limit is just high enough. -/
def reducedAmpere : ℚ := offer.totalPowerW.getD 0 / (offer.acMaxPhaseCount.getD 1 : ℤ) / voltage

/-- Buy a current, and the power that goes with it if there is a watt limit. -/
def buyBoth (ampere : ℚ) (s : SlotTrade) : SlotTrade :=
  let s := s.buyAmpereUnchecked (sign isImport * ampere)
  if offer.totalPowerW.isSome then
    s.buyWattUnchecked (acPower voltage offer (sign isImport * ampere))
  else s

/-- `BrokerFastCharging::buy_ampere`. -/
def buyAmpere (ampere : ℚ) (allowLess : Bool) (s : SlotTrade) : Bool × SlotTrade :=
  match offer.acMaxCurrentA with
  | none => (false, s)
  | some maxCurrent =>
      if maxCurrent ≥ ampere ∧ enoughPower voltage offer ampere then
        (true, buyBoth voltage offer isImport ampere s)
      else if allowLess ∧ maxCurrent > 0 then
        if enoughPower voltage offer maxCurrent then
          (true, buyBoth voltage offer isImport maxCurrent s)
        else (true, buyBoth voltage offer isImport (reducedAmpere voltage offer) s)
      else (false, s)

/-- `BrokerFastCharging::buy_watt`. The power is entered as a current. -/
def buyWatt (watt : ℚ) (allowLess : Bool) (s : SlotTrade) : Bool × SlotTrade :=
  match offer.totalPowerW with
  | none => (false, s)
  | some totalPower =>
      if totalPower ≥ watt then (true, s.buyAmpereUnchecked (sign isImport * watt))
      else if allowLess ∧ totalPower > 0 then
        (true, s.buyAmpereUnchecked (sign isImport * totalPower))
      else (false, s)

/-- The amount of the first trade, if there is a minimum to be bought first. -/
def firstAmount (firstTrade : Bool) : Option ℚ :=
  if firstTrade then offer.acMinCurrentA.filter (· > 0) else none

/-- What a broker does in a slot once it has chosen a direction. -/
def tradeDirection (g : Globals) (s : SlotTrade) : SlotTrade :=
  if offer.acMaxCurrentA.isSome then
    match firstAmount offer s.firstTrade with
    | some minCurrent => (buyAmpere voltage offer isImport minCurrent false s).2
    | none => (buyAmpere voltage offer isImport g.sliceAmpere true s).2
  else if offer.totalPowerW.isSome then (buyWatt offer isImport g.sliceWatt true s).2
  else s

/-- The offer is not zero. -/
def canTrade : Bool := !(offer.totalPowerW = some 0 ∨ offer.acMaxCurrentA = some 0)

end Broker

/-- The trade of one slot before anything is bought: zero where an import is
limited. -/
def openSlot (g : Globals) (offer : Offer g) (firstTrade : Bool) (i : Slot g) : SlotTrade where
  trading := { emptyScheduleRes g i with limitsToRoot := {
    acMaxCurrentA := (offer.importOffer i).limitsToRoot.acMaxCurrentA.map fun _ => 0
    totalPowerW := (offer.importOffer i).limitsToRoot.totalPowerW.map fun _ => 0 } }
  traded := false
  firstTrade := firstTrade

/-- The decision in one slot: to charge if possible, and else to discharge if
possible. -/
def tradeSlot (g : Globals) (voltage : ℚ) (offer : Offer g) (firstTrade : Bool) (i : Slot g) :
    SlotTrade :=
  let s := openSlot g offer firstTrade i
  if canTrade (offer.importOffer i).limitsToRoot then
    tradeDirection voltage (offer.importOffer i).limitsToRoot true g s
  else if canTrade (offer.exportOffer i).limitsToRoot then
    tradeDirection voltage (offer.exportOffer i).limitsToRoot false g s
  else s

/-- A broker, with the market place that it acts at, and the slots in which it
has not bought anything yet. -/
structure Broker (g : Globals) where
  localMarket : MarketRef
  firstTrade : Slot g → Bool

/-- The ledger of the market and the brokers that trade on it. -/
structure TradingState (g : Globals) where
  sold : Ledger g
  brokers : List (Broker g)

/-- Let one broker trade on an offer that is made for it: `BrokerFastCharging::trade`
with the construction of its argument. What was decided is executed on the
market also if nothing was traded. -/
def brokerTrade (m : Market) (state : TradingState m.globals) (k : ℕ) :
    Option (Bool × TradingState m.globals) := do
  let broker ← state.brokers[k]?
  match broker.localMarket with
  | .dangling _ => none
  | .live place =>
      let offer ← createOffer m state.sold place
      let slots := fun i => tradeSlot m.globals m.nominalAcVoltage offer (broker.firstTrade i) i
      let sold ← trade m.grow m.energyFlowRequest (fun i => (slots i).trading) place state.sold
      return (decide (∃ i, (slots i).traded = true),
        { sold := sold
          brokers := state.brokers.set k
            { broker with firstTrade := fun i => (slots i).firstTrade } })

/-! What a broker buys, apart from how it enters it. -/

section Purchase

variable (voltage : ℚ) (offer : LimitsReq) (isImport : Bool)

/-- The amount that is bought in a direction, if any. -/
def purchaseAmount (g : Globals) (firstTrade : Bool) : Option ℚ :=
  match offer.acMaxCurrentA with
  | some maxCurrent =>
      match firstAmount offer firstTrade with
      | some minCurrent =>
          if maxCurrent ≥ minCurrent ∧ enoughPower voltage offer minCurrent then some minCurrent
          else none
      | none =>
          if maxCurrent ≥ g.sliceAmpere ∧ enoughPower voltage offer g.sliceAmpere then
            some g.sliceAmpere
          else if maxCurrent > 0 then
            some (if enoughPower voltage offer maxCurrent then maxCurrent
              else reducedAmpere voltage offer)
          else none
  | none =>
      match offer.totalPowerW with
      | some totalPower =>
          if totalPower ≥ g.sliceWatt then some g.sliceWatt
          else if totalPower > 0 then some totalPower
          else none
      | none => none

/-- Enter an amount: with its power if both units are limited, and as a current
even if only the power is. -/
def enterAmount (amount : ℚ) (s : SlotTrade) : SlotTrade :=
  if offer.acMaxCurrentA.isSome then buyBoth voltage offer isImport amount s
  else s.buyAmpereUnchecked (sign isImport * amount)

/-- The code of one direction in two parts: how much is bought, and how it is entered. -/
theorem tradeDirection_eq (g : Globals) (s : SlotTrade) :
    tradeDirection voltage offer isImport g s =
      match purchaseAmount voltage offer g s.firstTrade with
      | some amount => enterAmount voltage offer isImport amount s
      | none => s := by
  unfold tradeDirection purchaseAmount enterAmount buyAmpere buyWatt
  cases offer.acMaxCurrentA with
  | some maxCurrent =>
      simp only [Option.isSome_some, if_true]
      cases firstAmount offer s.firstTrade with
      | some minCurrent =>
          dsimp only
          split_ifs <;> simp_all
      | none =>
          dsimp only
          split_ifs <;> simp_all
  | none =>
      simp only [Option.isSome_none, Bool.false_eq_true, if_false]
      cases offer.totalPowerW with
      | some totalPower =>
          dsimp only
          split_ifs <;> simp_all
      | none => rfl

/-- The power that is entered with an amount. -/
def enteredPower (amount : ℚ) : ℚ :=
  if offer.acMaxCurrentA.isSome ∧ offer.totalPowerW.isSome then
    acPower voltage offer (sign isImport * amount)
  else 0

/-- The current is entered with the sign of its direction. -/
theorem soldCurrent_enterAmount (amount : ℚ) (s : SlotTrade) :
    soldCurrent (enterAmount voltage offer isImport amount s).trading = sign isImport * amount := by
  unfold enterAmount buyBoth
  dsimp only
  split_ifs <;> rfl

/-- The power is that of the current, or what is bought in watts. -/
theorem soldPower_enterAmount (amount : ℚ) {s : SlotTrade} (hOpen : soldPower s.trading = 0) :
    soldPower (enterAmount voltage offer isImport amount s).trading =
      enteredPower voltage offer isImport amount := by
  unfold enterAmount buyBoth enteredPower
  cases offer.acMaxCurrentA with
  | none => exact hOpen
  | some maxCurrent =>
      cases offer.totalPowerW with
      | none => exact hOpen
      | some totalPower => rfl

/-- A purchase is reported. -/
theorem enterAmount_traded (amount : ℚ) (s : SlotTrade) :
    (enterAmount voltage offer isImport amount s).traded = true := by
  unfold enterAmount buyBoth
  dsimp only
  split_ifs <;> rfl

/-- The slot has been traded in from then on. -/
theorem enterAmount_firstTrade (amount : ℚ) (s : SlotTrade) :
    (enterAmount voltage offer isImport amount s).firstTrade = false := by
  unfold enterAmount buyBoth
  dsimp only
  split_ifs <;> rfl

/-- Phases are not bought. -/
theorem enterAmount_acMaxPhaseCount (amount : ℚ) (s : SlotTrade) :
    (enterAmount voltage offer isImport amount s).trading.limitsToRoot.acMaxPhaseCount =
      s.trading.limitsToRoot.acMaxPhaseCount := by
  unfold enterAmount buyBoth
  dsimp only
  split_ifs <;> rfl

end Purchase

/-- The side of an offer for a direction. -/
def Offer.side {g : Globals} (offer : Offer g) (isImport : Bool) (i : Slot g) : LimitsReq :=
  if isImport then (offer.importOffer i).limitsToRoot else (offer.exportOffer i).limitsToRoot

/-- The direction and the amount of the trade in a slot, if there is one. -/
def slotPurchase (g : Globals) (voltage : ℚ) (offer : Offer g) (firstTrade : Bool) (i : Slot g) :
    Option (Bool × ℚ) :=
  if canTrade (offer.side true i) then
    (purchaseAmount voltage (offer.side true i) g firstTrade).map fun amount => (true, amount)
  else if canTrade (offer.side false i) then
    (purchaseAmount voltage (offer.side false i) g firstTrade).map fun amount => (false, amount)
  else none

/-- Imports are tried first and exports second. At most one of them buys. -/
theorem tradeSlot_eq (g : Globals) (voltage : ℚ) (offer : Offer g) (firstTrade : Bool)
    (i : Slot g) :
    tradeSlot g voltage offer firstTrade i =
      match slotPurchase g voltage offer firstTrade i with
      | some (isImport, amount) =>
          enterAmount voltage (offer.side isImport i) isImport amount (openSlot g offer firstTrade i)
      | none => openSlot g offer firstTrade i := by
  unfold tradeSlot slotPurchase
  dsimp only
  rw [tradeDirection_eq, tradeDirection_eq]
  have hFirst : (openSlot g offer firstTrade i).firstTrade = firstTrade := rfl
  simp only [Offer.side, if_true, Bool.false_eq_true, if_false, hFirst]
  split_ifs
  · cases purchaseAmount voltage (offer.importOffer i).limitsToRoot g firstTrade <;> rfl
  · cases purchaseAmount voltage (offer.exportOffer i).limitsToRoot g firstTrade <;> rfl
  · rfl

/-- The current that a purchase enters. -/
def purchasedCurrent : Option (Bool × ℚ) → ℚ
  | some (isImport, amount) => sign isImport * amount
  | none => 0

/-- The power that a purchase enters. -/
def purchasedPower (voltage : ℚ) (side : Bool → LimitsReq) : Option (Bool × ℚ) → ℚ
  | some (isImport, amount) => enteredPower voltage (side isImport) isImport amount
  | none => 0

/-- What is entered in a slot is what was bought, and zero otherwise. -/
structure Entered (voltage : ℚ) (side : Bool → LimitsReq) (purchase : Option (Bool × ℚ))
    (firstTrade : Bool) (s : SlotTrade) : Prop where
  current : soldCurrent s.trading = purchasedCurrent purchase
  power : soldPower s.trading = purchasedPower voltage side purchase
  traded : s.traded = purchase.isSome
  firstTrade : s.firstTrade = (firstTrade && purchase.isNone)
  phases : s.trading.limitsToRoot.acMaxPhaseCount = none

/-- What a slot looks like after the purchase, or without one. -/
theorem tradeSlot_entered (g : Globals) (voltage : ℚ) (offer : Offer g) (firstTrade : Bool)
    (i : Slot g) :
    Entered voltage (offer.side · i) (slotPurchase g voltage offer firstTrade i) firstTrade
      (tradeSlot g voltage offer firstTrade i) := by
  have hCurrent : soldCurrent (openSlot g offer firstTrade i).trading = 0 := by
    unfold openSlot soldCurrent
    cases (offer.importOffer i).limitsToRoot.acMaxCurrentA <;> rfl
  have hPower : soldPower (openSlot g offer firstTrade i).trading = 0 := by
    unfold openSlot soldPower
    cases (offer.importOffer i).limitsToRoot.totalPowerW <;> rfl
  rw [tradeSlot_eq]
  cases slotPurchase g voltage offer firstTrade i with
  | none => exact ⟨hCurrent, hPower, rfl, (Bool.and_true _).symm, rfl⟩
  | some purchase =>
      obtain ⟨isImport, amount⟩ := purchase
      exact ⟨soldCurrent_enterAmount _ _ _ _ _, soldPower_enterAmount _ _ _ _ hPower,
        enterAmount_traded _ _ _ _ _, (enterAmount_firstTrade _ _ _ _ _).trans (by simp),
        enterAmount_acMaxPhaseCount _ _ _ _ _⟩

/-- What a broker buys on an offer in a slot. -/
def brokerPurchase (m : Market) (broker : Broker m.globals) (offer : Offer m.globals)
    (i : m.Slot) : Option (Bool × ℚ) :=
  slotPurchase m.globals m.nominalAcVoltage offer (broker.firstTrade i) i

/-- What a broker executes on the market for an offer. -/
def brokerSchedule (m : Market) (broker : Broker m.globals) (offer : Offer m.globals)
    (i : m.Slot) : ScheduleResEntry :=
  (tradeSlot m.globals m.nominalAcVoltage offer (broker.firstTrade i) i).trading

/-- The schedule that is traded holds the currents of the purchases. -/
theorem soldCurrent_brokerSchedule (m : Market) (broker : Broker m.globals)
    (offer : Offer m.globals) (i : m.Slot) :
    soldCurrent (brokerSchedule m broker offer i) =
      purchasedCurrent (brokerPurchase m broker offer i) :=
  (tradeSlot_entered m.globals m.nominalAcVoltage offer (broker.firstTrade i) i).current

/-- The schedule that is traded holds the powers of the purchases. -/
theorem soldPower_brokerSchedule (m : Market) (broker : Broker m.globals)
    (offer : Offer m.globals) (i : m.Slot) :
    soldPower (brokerSchedule m broker offer i) =
      purchasedPower m.nominalAcVoltage (offer.side · i) (brokerPurchase m broker offer i) :=
  (tradeSlot_entered m.globals m.nominalAcVoltage offer (broker.firstTrade i) i).power

/-- The broker after it has bought something in some slots. -/
def Broker.afterBuying {g : Globals} (broker : Broker g) (bought : Slot g → Bool) : Broker g where
  localMarket := broker.localMarket
  firstTrade i := broker.firstTrade i && !bought i

/-- All that one trade can do. -/
theorem brokerTrade_eq_some {m : Market} {state next : TradingState m.globals} {k : ℕ}
    {traded : Bool} (h : brokerTrade m state k = some (traded, next)) :
    ∃ broker place offer,
      state.brokers[k]? = some broker ∧ broker.localMarket = .live place ∧
      createOffer m state.sold place = some offer ∧
      traded = decide (∃ i, (brokerPurchase m broker offer i).isSome = true) ∧
      next.sold = book (brokerSchedule m broker offer) place state.sold ∧
      next.brokers = state.brokers.set k
        (broker.afterBuying fun i => (brokerPurchase m broker offer i).isSome) := by
  unfold brokerTrade at h
  obtain ⟨broker, hBroker, h⟩ := Option.bind_eq_some_iff.mp h
  split at h
  · cases h
  · rename_i place hPlace
    obtain ⟨offer, hOffer, h⟩ := Option.bind_eq_some_iff.mp h
    obtain ⟨sold, hSold, h⟩ := Option.bind_eq_some_iff.mp h
    cases h
    have hEntered (i : m.Slot) := tradeSlot_entered m.globals m.nominalAcVoltage offer
      (broker.firstTrade i) i
    refine ⟨broker, place, offer, hBroker, hPlace, hOffer, ?_, ?_, ?_⟩
    · refine decide_eq_decide.mpr (exists_congr fun i => ?_)
      rw [(hEntered i).traded]
      rfl
    · exact trade_eq_book m.grow (fun i => (hEntered i).phases) hSold
    · simp only [(hEntered _).firstTrade, Broker.afterBuying, brokerPurchase, Option.not_isSome]

end EverestCore.Energy
