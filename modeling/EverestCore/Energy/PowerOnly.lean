import EverestCore.Energy.FuseLimits

/-! Slots that are limited in watts only. What is bought there is a power, but it is entered
as a current, and the power that is left for later offers stays what it was. -/
namespace EverestCore.Energy
open Data Machine

/-- What is entered is a power in its direction that was on offer. -/
def AddsPower (isImport : Bool) (offered : ℚ) (traded : ScheduleResEntry) : Prop :=
  ∃ power, traded.limitsToRoot.totalPowerW = some power ∧ 0 < sign isImport * power ∧
    |power| ≤ offered

/-- On the whole path the power that is available shrinks by an amount. -/
def Shrinks (m : Market) (sold after : Ledger m.globals) (place : Place) (i : m.Slot)
    (isImport : Bool) (amount : ℚ) : Prop :=
  ∀ above node, above <:+ place → m.node? above = some node → ∀ x,
    (available m.globals node (sold above) isImport i).totalPowerW = some x →
      (available m.globals node (after above) isImport i).totalPowerW = some (x - amount)

/-- What a trade of some power should do in a slot. -/
structure PowerTrade (m : Market) (sold after : Ledger m.globals) (place : Place) (i : m.Slot)
    (isImport : Bool) (offered amount : ℚ) (traded : ScheduleResEntry) : Prop where
  power : AddsPower isImport offered traded
  noCurrent : traded.limitsToRoot.acMaxCurrentA = none
  shrinks : Shrinks m sold after place i isImport amount

/-- A broker has a direction of its slot to itself: the import, or the export where no import
is on offer. -/
def InTurn {g : Globals} (offer : Offer g) (i : Slot g) (isImport : Bool) : Prop :=
  isImport = false → canTrade (offer.side true i) = false

/-- When a broker buys power. -/
theorem purchaseAmount_isSome_iff (voltage : ℚ) (side : LimitsReq) (g : Globals)
    (firstTrade : Bool) {offered : ℚ} (hPower : side.totalPowerW = some offered)
    (hNoCurrent : side.acMaxCurrentA = none) :
    (∃ amount, purchaseAmount voltage side g firstTrade = some amount) ↔
      g.sliceWatt ≤ offered ∨ 0 < offered := by
  unfold purchaseAmount
  rw [hNoCurrent, hPower]
  dsimp only
  split_ifs with hSlice hSome
  · exact ⟨fun _ => .inl hSlice, fun _ => ⟨_, rfl⟩⟩
  · exact ⟨fun _ => .inr hSome, fun _ => ⟨_, rfl⟩⟩
  · refine ⟨fun hAmount => ?_, fun hOr => (hOr.elim hSlice hSome).elim⟩
    obtain ⟨amount, hAmount⟩ := hAmount
    cases hAmount

theorem canTrade_powerOnly_iff {side : LimitsReq} {offered : ℚ}
    (hPower : side.totalPowerW = some offered) (hNoCurrent : side.acMaxCurrentA = none) :
    canTrade side = true ↔ offered ≠ 0 := by
  simp [canTrade, hPower, hNoCurrent]

/-- When a broker buys in a direction that is limited in watts only. -/
theorem slotPurchase_powerOnly_iff (g : Globals) (voltage : ℚ) (offer : Offer g)
    (firstTrade : Bool) (i : Slot g) (isImport : Bool) {offered : ℚ}
    (hPower : (offer.side isImport i).totalPowerW = some offered)
    (hNoCurrent : (offer.side isImport i).acMaxCurrentA = none) :
    (∃ amount, slotPurchase g voltage offer firstTrade i = some (isImport, amount)) ↔
      InTurn offer i isImport ∧ offered ≠ 0 ∧ (g.sliceWatt ≤ offered ∨ 0 < offered) := by
  rw [← purchaseAmount_isSome_iff voltage _ g firstTrade hPower hNoCurrent,
    ← canTrade_powerOnly_iff hPower hNoCurrent]
  constructor
  · rintro ⟨amount, hBought⟩
    obtain ⟨hTrade, hTurn, hAmount⟩ := slotPurchase_eq_some hBought
    exact ⟨hTurn, hTrade, amount, hAmount⟩
  · rintro ⟨hTurn, hTrade, amount, hAmount⟩
    refine ⟨amount, ?_⟩
    unfold slotPurchase
    cases isImport with
    | true => rw [if_pos hTrade, hAmount, Option.map_some]
    | false =>
        rw [if_neg (by rw [hTurn rfl]; exact Bool.false_ne_true), if_pos hTrade, hAmount,
          Option.map_some]

section Trade

variable {m : Market} {broker : Broker m.globals} {offer : Offer m.globals} {i : m.Slot}
  {isImport : Bool} {amount : ℚ}
  (hBought : brokerPurchase m broker offer i = some (isImport, amount))
  (hNoCurrent : (offer.side isImport i).acMaxCurrentA = none)

include hBought hNoCurrent

/-- The power is entered as a current. -/
theorem brokerSchedule_of_powerOnly :
    (brokerSchedule m broker offer i).limitsToRoot.acMaxCurrentA = some (sign isImport * amount) ∧
      soldPower (brokerSchedule m broker offer i) = 0 := by
  constructor
  · rw [brokerSchedule, tradeSlot_eq]
    rw [brokerPurchase] at hBought
    rw [hBought]
    dsimp only
    rw [enterAmount, hNoCurrent]
    rfl
  · rw [soldPower_brokerSchedule, hBought, purchasedPower, enteredPower, hNoCurrent]
    exact if_neg fun hBoth => by cases hBoth.1

/-- The power that is available on the path stays as it was. -/
theorem available_totalPowerW_of_powerOnly (sold : Ledger m.globals) (place above : Place)
    (node : RequestNode) (direction : Bool) :
    (available m.globals node (book (brokerSchedule m broker offer) place sold above) direction
        i).totalPowerW =
      (available m.globals node (sold above) direction i).totalPowerW := by
  have hSame : soldPower (book (brokerSchedule m broker offer) place sold above i) =
      soldPower (sold above i) := by
    unfold book
    split_ifs
    · rw [soldPower_addLimits, (brokerSchedule_of_powerOnly hBought hNoCurrent).2, add_zero]
    · rfl
  rw [limit_available isUnit_power, limit_available isUnit_power, hSame]

/-- None of the parts of a trade of power holds. -/
theorem not_powerTrade {sold : Ledger m.globals} {place : Place} {offered : ℚ}
    (hOffer : createOffer m sold place = some offer)
    (hPower : (offer.side isImport i).totalPowerW = some offered) :
    ¬AddsPower isImport offered (brokerSchedule m broker offer i) ∧
      (brokerSchedule m broker offer i).limitsToRoot.acMaxCurrentA ≠ none ∧
      (amount ≠ 0 → ¬Shrinks m sold (book (brokerSchedule m broker offer) place sold) place i
        isImport amount) := by
  obtain ⟨hCurrent, hNothing⟩ := brokerSchedule_of_powerOnly hBought hNoCurrent
  refine ⟨?_, ?_, ?_⟩
  · rintro ⟨power, hEntered, hPositive, -⟩
    rw [soldPower, hEntered, Option.getD_some] at hNothing
    rw [hNothing, mul_zero] at hPositive
    exact lt_irrefl _ hPositive
  · rw [hCurrent]
    exact Option.some_ne_none _
  · intro hAmount hShrinks
    obtain ⟨above, node, hAbove, hNode, hAvailable⟩ :=
      createOffer_attained isSmallerLimit_totalPowerW hOffer hPower
    have hLess := hShrinks above node hAbove hNode offered hAvailable
    rw [available_totalPowerW_of_powerOnly hBought hNoCurrent, hAvailable] at hLess
    have hEqual := Option.some.inj hLess
    exact hAmount (by linarith)

end Trade

/-- A slot that is limited in watts only is traded in watts exactly if nothing is bought, and
what is bought has none of the parts of a trade of power. -/
theorem trade_powerOnly_iff {m : Market} {state next : TradingState m.globals} {k : ℕ}
    {traded : Bool} {broker : Broker m.globals} {place : Place} {offer : Offer m.globals}
    (hTrade : brokerTrade m state k = some (traded, next))
    (hBroker : state.brokers[k]? = some broker) (hPlace : broker.localMarket = .live place)
    (hOffer : createOffer m state.sold place = some offer) (i : m.Slot) (isImport : Bool)
    (offered : ℚ) (hPower : (offer.side isImport i).totalPowerW = some offered)
    (hNoCurrent : (offer.side isImport i).acMaxCurrentA = none) :
    ((∀ amount, brokerPurchase m broker offer i = some (isImport, amount) →
        PowerTrade m state.sold next.sold place i isImport offered amount
          (brokerSchedule m broker offer i)) ↔
      ¬(InTurn offer i isImport ∧ offered ≠ 0 ∧
        (m.globals.sliceWatt ≤ offered ∨ 0 < offered))) ∧
    ∀ amount, brokerPurchase m broker offer i = some (isImport, amount) →
      ¬AddsPower isImport offered (brokerSchedule m broker offer i) ∧
        (brokerSchedule m broker offer i).limitsToRoot.acMaxCurrentA ≠ none ∧
        (amount ≠ 0 → ¬Shrinks m state.sold next.sold place i isImport amount) := by
  have hBooked : next.sold = book (brokerSchedule m broker offer) place state.sold := by
    obtain ⟨_, _, _, hBroker', hPlace', hOffer', -, hSold, -⟩ := brokerTrade_eq_some hTrade
    cases hBroker.symm.trans hBroker'
    cases hPlace.symm.trans hPlace'
    cases hOffer.symm.trans hOffer'
    exact hSold
  rw [hBooked, ← slotPurchase_powerOnly_iff m.globals m.nominalAcVoltage offer
    (broker.firstTrade i) i isImport hPower hNoCurrent]
  refine ⟨⟨?_, fun hNothing amount hBought => absurd ⟨amount, hBought⟩ hNothing⟩,
    fun amount hBought => not_powerTrade hBought hNoCurrent hOffer hPower⟩
  rintro hTrades ⟨amount, hBought⟩
  exact (not_powerTrade hBought hNoCurrent hOffer hPower).2.1 (hTrades amount hBought).noCurrent

/-- An EVSE with a limit of 22 kilowatts. -/
def powerLimitedEvse : Market where
  globals := oneSlot
  nominalAcVoltage := 230
  energyFlowRequest :=
    .node
      { uuid := "evse"
        nodeType := .evse
        scheduleImport :=
          some [{ timestamp := 0, limitsToLeaves := { totalPowerW := some 22000 } }] } []
  grow := doubleCapacity

/-- Its broker buys the first slice, half a kilowatt. -/
theorem powerLimitedEvse_trades :
    ∃ result ∈ brokerTrade powerLimitedEvse (openMarket powerLimitedEvse) 0,
      ∃ broker ∈ (openMarket powerLimitedEvse).brokers[0]?,
        ∃ offer ∈ createOffer powerLimitedEvse (openMarket powerLimitedEvse).sold [],
          broker.localMarket = .live [] ∧ ∀ i : powerLimitedEvse.Slot,
            (offer.side true i).totalPowerW = some 22000 ∧
              (offer.side true i).acMaxCurrentA = none ∧
              brokerPurchase powerLimitedEvse broker offer i = some (true, 500) ∧
              soldCurrent (result.2.sold [] i) = 500 := by
  decide +kernel

theorem trade_powerOnly_iff_22_kilowatts :
    ∃ broker offer, ∃ result ∈ brokerTrade powerLimitedEvse (openMarket powerLimitedEvse) 0,
      ∀ i : powerLimitedEvse.Slot,
        brokerPurchase powerLimitedEvse broker offer i = some (true, 500) ∧
          (brokerSchedule powerLimitedEvse broker offer i).limitsToRoot.acMaxCurrentA ≠ none ∧
          ¬Shrinks powerLimitedEvse (openMarket powerLimitedEvse).sold result.2.sold [] i true
            500 := by
  obtain ⟨result, hTrade, broker, hBroker, offer, hOffer, hPlace, hSlots⟩ :=
    powerLimitedEvse_trades
  refine ⟨broker, offer, result, hTrade, fun i => ?_⟩
  obtain ⟨hPower, hNoCurrent, hBought, -⟩ := hSlots i
  obtain ⟨-, hCurrent, hSame⟩ := (trade_powerOnly_iff hTrade hBroker hPlace hOffer i true 22000
    hPower hNoCurrent).2 500 hBought
  exact ⟨hBought, hCurrent, hSame (by decide)⟩

/-- Half a kilowatt is entered as five hundred amperes. -/
theorem power_entered_as_current :
    ∃ result ∈ brokerTrade powerLimitedEvse (openMarket powerLimitedEvse) 0,
      ∃ broker ∈ (openMarket powerLimitedEvse).brokers[0]?,
        ∃ offer ∈ createOffer powerLimitedEvse (openMarket powerLimitedEvse).sold [],
          ∀ i : powerLimitedEvse.Slot,
            (offer.side true i).totalPowerW = some 22000 ∧
              (offer.side true i).acMaxCurrentA = none ∧
              brokerPurchase powerLimitedEvse broker offer i = some (true, 500) ∧
              soldCurrent (result.2.sold [] i) = 500 ∧
              ¬PowerTrade powerLimitedEvse (openMarket powerLimitedEvse).sold result.2.sold [] i
                true 22000 500 (brokerSchedule powerLimitedEvse broker offer i) := by
  obtain ⟨result, hTrade, broker, hBroker, offer, hOffer, -, hSlots⟩ := powerLimitedEvse_trades
  refine ⟨result, hTrade, broker, hBroker, offer, hOffer, fun i => ?_⟩
  obtain ⟨hPower, hNoCurrent, hBought, hSold⟩ := hSlots i
  exact ⟨hPower, hNoCurrent, hBought, hSold, fun hTrades =>
    (not_powerTrade hBought hNoCurrent hOffer hPower).2.1 hTrades.noCurrent⟩

end EverestCore.Energy
