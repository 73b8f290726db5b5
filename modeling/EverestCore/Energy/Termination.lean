import EverestCore.Energy.FuseLimits
import EverestCore.Energy.TradingEnd
import Mathlib.Algebra.Order.BigOperators.Group.Finset
import Mathlib.Algebra.Order.BigOperators.Group.List
import Mathlib.Data.Rat.Floor

/-! Where nothing can be exported and every import is limited in amperes, trading comes to
an end by itself. A purchase is the first one of a broker in its slot, or it takes a whole
slice from a limit, or it uses up a limit somewhere on the way to the root. -/
namespace EverestCore.Energy
open Data Machine

/-- How often a limit can be drawn on, by a unit each time and by the rest in the end. -/
def drawsLeft (unit : ℚ) : Option ℚ → ℕ
  | some left => ⌈left / unit⌉₊
  | none => 0

/-- A purchase takes a whole unit of a limit, or all that is left of it. -/
structure Draws (unit left amount : ℚ) : Prop where
  pos : 0 < left
  amount : amount = left ∨ amount = unit ∧ unit ≤ left

section Draws

variable {unit : ℚ} (hUnit : 0 < unit)

include hUnit

/-- What was bought does not bring back any draws. -/
theorem drawsLeft_sub_le {amount : ℚ} (hAmount : 0 ≤ amount) (limit : Option ℚ) :
    drawsLeft unit (limit.map (· - amount)) ≤ drawsLeft unit limit := by
  cases limit with
  | none => exact le_rfl
  | some left =>
      apply Nat.ceil_mono
      exact div_le_div_of_nonneg_right (sub_le_self left hAmount) hUnit.le

/-- A purchase of a whole slice uses up a draw, and so does one of all that is left. -/
theorem drawsLeft_sub_lt {left amount : ℚ} (hDraws : Draws unit left amount) :
    drawsLeft unit (some (left - amount)) < drawsLeft unit (some left) := by
  obtain ⟨hPos, rfl | ⟨rfl, hWhole⟩⟩ := hDraws
  · have hNone : ⌈(amount - amount) / unit⌉₊ = 0 := by
      rw [sub_self, zero_div, Nat.ceil_zero]
    show ⌈(amount - amount) / unit⌉₊ < ⌈amount / unit⌉₊
    rw [hNone]
    exact Nat.ceil_pos.mpr (div_pos hPos hUnit)
  · have hRest : 0 ≤ (left - amount) / amount := div_nonneg (sub_nonneg.mpr hWhole) hUnit.le
    have hStep : (left - amount) / amount + 1 = left / amount := by
      rw [sub_div, div_self hUnit.ne', sub_add_cancel]
    have hLess : ((⌈(left - amount) / amount⌉₊ : ℕ) : ℚ) < (⌈left / amount⌉₊ : ℕ) :=
      calc ((⌈(left - amount) / amount⌉₊ : ℕ) : ℚ)
          < (left - amount) / amount + 1 := Nat.ceil_lt_add_one hRest
        _ = left / amount := hStep
        _ ≤ (⌈left / amount⌉₊ : ℕ) := Nat.le_ceil _
    exact_mod_cast hLess

end Draws

/-! What is left for imports at the market places. -/

/-- Nothing was sold for export. -/
def OnlyImports {g : Globals} (amount : ScheduleResEntry → ℚ) (sold : Ledger g) : Prop :=
  ∀ place i, 0 ≤ amount (sold place i)

/-- The draws that are left in a slot at all market places. -/
def ledgerDraws (m : Market) (limit : LimitsReq → Option ℚ) (unit : ℚ) (sold : Ledger m.globals)
    (i : m.Slot) : ℕ :=
  ((m.energyFlowRequest.walk []).map fun visit =>
    drawsLeft unit (limit (available m.globals visit.2 (sold visit.1) true i))).sum

section Unit

variable {limit : LimitsReq → Option ℚ} {amount : ScheduleResEntry → ℚ}
  (hLimited : IsUnit limit amount) {m : Market} {sold : Ledger m.globals}
  (hImports : OnlyImports amount sold) {traded : m.Slot → ScheduleResEntry}

include hLimited hImports

/-- Imports are entered as positive amounts everywhere on the way. -/
theorem onlyImports_book (hTraded : ∀ i, 0 ≤ amount (traded i)) (place : Place) :
    OnlyImports amount (book traded place sold) := by
  intro above i
  unfold book
  split_ifs
  · rw [hLimited.add]
    exact add_nonneg (hImports above i) (hTraded i)
  · exact hImports above i

variable {i : m.Slot} (hTraded : 0 ≤ amount (traded i))

include hTraded

/-- What is bought is no longer available on the way. -/
theorem limit_available_book {place above : Place} (hAbove : above <:+ place) (node : RequestNode) :
    limit (available m.globals node (book traded place sold above) true i) =
      (limit (available m.globals node (sold above) true i)).map (· - amount (traded i)) := by
  have hBefore := hImports above i
  have hBooked : amount (book traded place sold above i) =
      amount (sold above i) + amount (traded i) := by
    rw [book, if_pos hAbove, hLimited.add]
  have hMax (x : ℚ) (hx : 0 ≤ x) : max (sign true * x) 0 = x := by
    rw [sign, if_pos rfl, one_mul, max_eq_left hx]
  rw [limit_available hLimited, limit_available hLimited, hBooked, hMax _ hBefore,
    hMax _ (add_nonneg hBefore hTraded), Option.map_map]
  congr 1
  funext x
  exact (sub_sub x _ _).symm

/-- A trade leaves at most as many draws at any node. -/
theorem drawsLeft_book_le {unit : ℚ} (hUnit : 0 < unit) (place above : Place)
    (node : RequestNode) :
    drawsLeft unit (limit (available m.globals node (book traded place sold above) true i)) ≤
      drawsLeft unit (limit (available m.globals node (sold above) true i)) := by
  by_cases hAbove : above <:+ place
  · rw [limit_available_book hLimited hImports hTraded hAbove]
    exact drawsLeft_sub_le hUnit hTraded _
  · rw [book, if_neg hAbove]

/-- The draws of all nodes together do not increase. -/
theorem ledgerDraws_book_le {unit : ℚ} (hUnit : 0 < unit) (place : Place) :
    ledgerDraws m limit unit (book traded place sold) i ≤ ledgerDraws m limit unit sold i := by
  apply List.sum_le_sum
  intro visit _
  exact drawsLeft_book_le hLimited hImports hTraded hUnit place visit.1 visit.2

/-- The limit of the offer is that of a market place, and is drawn on there. -/
theorem ledgerDraws_book_lt {unit : ℚ} (hUnit : 0 < unit) {place : Place}
    {offer : Offer m.globals} (hOffer : createOffer m sold place = some offer) {left : ℚ}
    (hLeft : limit (offer.side true i) = some left) (hDraws : Draws unit left (amount (traded i))) :
    ledgerDraws m limit unit (book traded place sold) i < ledgerDraws m limit unit sold i := by
  obtain ⟨above, node, hAbove, hNode, hAvailable⟩ :=
    createOffer_attained hLimited.smaller hOffer hLeft
  apply List.sum_lt_sum
  · intro visit _
    exact drawsLeft_book_le hLimited hImports hTraded hUnit place visit.1 visit.2
  · refine ⟨(above, node), mem_walk_root.mpr hNode, ?_⟩
    dsimp only
    rw [limit_available_book hLimited hImports hTraded hAbove, hAvailable]
    exact drawsLeft_sub_lt hUnit hDraws

end Unit

/-! What a broker buys where only imports are possible. -/

/-- A purchase in amperes is the first one, or it draws on the current or on the power. -/
theorem purchaseAmount_draws {voltage : ℚ} {side : LimitsReq} {g : Globals} {firstTrade : Bool}
    {a c : ℚ} (hVoltage : 0 < voltage) (hSlice : 0 < g.sliceAmpere) (hSide : side.WellFormed)
    (hTrade : canTrade side = true) (hCurrent : side.acMaxCurrentA = some c)
    (hAmount : purchaseAmount voltage side g firstTrade = some a) :
    firstTrade = true ∨ Draws g.sliceAmpere c a ∨
      ∃ w, side.totalPowerW = some w ∧ Draws 1 w (acPower voltage side a) := by
  unfold purchaseAmount at hAmount
  simp only [hCurrent] at hAmount
  cases hFirst : firstAmount side firstTrade with
  | some minCurrent =>
      left
      by_contra hLater
      simp [firstAmount, hLater] at hFirst
  | none =>
      right
      simp only [hFirst] at hAmount
      split_ifs at hAmount with hSliceFits hSome hAll
      · cases hAmount
        exact .inl ⟨hSlice.trans_le hSliceFits.1, .inr ⟨rfl, hSliceFits.1⟩⟩
      · cases hAmount
        exact .inl ⟨hSome, .inl rfl⟩
      · cases hAmount
        right
        have hPhases := phases_pos hSide
        rw [enoughPower_iff] at hAll
        simp only [not_forall] at hAll
        obtain ⟨w, hPower, -⟩ := hAll
        have hNonneg := hSide.totalPowerW w hPower
        have hNonzero : w ≠ 0 := by
          rintro rfl
          simp [canTrade, hPower] at hTrade
        refine ⟨w, hPower, lt_of_le_of_ne hNonneg hNonzero.symm, .inl ?_⟩
        rw [acPower, reducedAmpere, hPower, Option.getD_some, div_mul_eq_mul_div,
          div_mul_cancel₀ _ hVoltage.ne', div_mul_cancel₀ _ hPhases.ne']

/-- A node is limited in amperes where its import schedule is limited on the leaf side. -/
theorem acMaxCurrentA_of_leaves {g : Globals} {node : RequestNode}
    {request : List ScheduleReqEntry} (hSchedule : node.scheduleImport = some request)
    (hSome : request ≠ []) (hLeaves : ∀ e ∈ request, e.limitsToLeaves.acMaxCurrentA.isSome)
    (i : Slot g) : (maxSide g node true i).acMaxCurrentA.isSome := by
  obtain ⟨e, hFound⟩ := findEntry_isSome (g.timestamps.get i) true hSome
  obtain ⟨ampere, hAmpere⟩ := Option.isSome_iff_exists.mp (hLeaves e (mem_of_findEntry hFound))
  have hMerged : (maxSide g node true i).acMaxCurrentA =
      lowerToRoot e.limitsToRoot.acMaxCurrentA
        (some (ampere / e.conversionEfficiency.getD 1)) := by
    show (maxAvailable g node.scheduleImport i).limitsToRoot.acMaxCurrentA = _
    rw [hSchedule, maxAvailable, getMaxAvailableEnergy, hFound]
    show lowerToRoot _ (leafToRoot _ e.limitsToLeaves.acMaxCurrentA _) = _
    rw [hAmpere]
    rfl
  rw [hMerged]
  unfold lowerToRoot
  split
  · split_ifs <;> rfl
  · rfl

/-- Nothing can be exported at a node that does not ask for it. -/
theorem acMaxCurrentA_of_noExport {g : Globals} {node : RequestNode}
    (hSchedule : node.scheduleExport = none) (i : Slot g) :
    (maxSide g node false i).acMaxCurrentA = some 0 := by
  simp [maxSide, exportMaxAvailable, maxAvailable, hSchedule, zeroScheduleReq]

/-- On the way from each EVSE to the root there is a node at which no export is allowed, and
one with an import limit in amperes. -/
structure Market.ImportLimited (m : Market) : Prop where
  wellFormed : m.CurrentWellFormed
  noExport : ∀ place, IsEvse m.energyFlowRequest place → ∀ i : m.Slot,
    ∃ above node, above <:+ place ∧ m.node? above = some node ∧
      ((maxSide m.globals node false i).acMaxCurrentA = some 0 ∨
        (maxSide m.globals node false i).totalPowerW = some 0)
  ampereLimit : ∀ place, IsEvse m.energyFlowRequest place → ∀ i : m.Slot,
    ∃ above node, above <:+ place ∧ m.node? above = some node ∧
      (maxSide m.globals node true i).acMaxCurrentA.isSome

/-- An export limit of zero stays zero, and is that of the offer. -/
theorem offer_export_zero {limit : LimitsReq → Option ℚ} {amount : ScheduleResEntry → ℚ}
    (hLimited : IsUnit limit amount) {m : Market} (hMarket : m.CurrentWellFormed)
    {sold : Ledger m.globals} (hWithin : WithinLimits m limit amount sold) {place above : Place}
    {offer : Offer m.globals} (hOffer : createOffer m sold place = some offer)
    (hAbove : above <:+ place) {node : RequestNode} (hNode : m.node? above = some node)
    {i : m.Slot} (hZero : limit (maxSide m.globals node false i) = some 0) :
    limit (offer.side false i) = some 0 := by
  have hStricter := createOffer_stricter hLimited.smaller hOffer hAbove hNode false i
  rw [limit_available hLimited, hZero] at hStricter
  obtain ⟨o, ho, hLe⟩ := hStricter _ rfl
  have hNonneg := offer_nonneg hLimited hMarket hWithin hOffer ho
  have hMax := le_max_right (sign false * amount (sold above i)) 0
  have hEq : o = 0 := by linarith
  rw [ho, hEq]

section Offer

variable {m : Market} (hMarket : m.ImportLimited) {sold : Ledger m.globals}
  (hFuses : FusesHold m sold) {place : Place} (hEvse : IsEvse m.energyFlowRequest place)
  {offer : Offer m.globals} (hOffer : createOffer m sold place = some offer)

include hMarket hEvse hOffer

/-- Where every import is limited in amperes, offers are as well. -/
theorem offer_acMaxCurrentA (i : m.Slot) :
    ∃ c, (offer.side true i).acMaxCurrentA = some c := by
  obtain ⟨above, node, hAbove, hNode, hSome⟩ := hMarket.ampereLimit place hEvse i
  obtain ⟨x, hx⟩ := Option.isSome_iff_exists.mp hSome
  have hStricter := createOffer_stricter isUnit_current.smaller hOffer hAbove hNode true i
  rw [limit_available isUnit_current, hx] at hStricter
  obtain ⟨c, hc, -⟩ := hStricter _ rfl
  exact ⟨c, hc⟩

include hFuses

/-- Nothing can be exported. -/
theorem not_canTrade_export (i : m.Slot) : canTrade (offer.side false i) = false := by
  obtain ⟨above, node, hAbove, hNode, hZero | hZero⟩ := hMarket.noExport place hEvse i
  · have hNone := offer_export_zero isUnit_current hMarket.wellFormed hFuses.current hOffer
      hAbove hNode hZero
    simp [canTrade, hNone]
  · have hNone := offer_export_zero isUnit_power hMarket.wellFormed hFuses.power hOffer
      hAbove hNode hZero
    simp [canTrade, hNone]

variable {broker : Broker m.globals} {i : m.Slot}

/-- Every purchase is an import. -/
theorem brokerPurchase_isImport {isImport : Bool} {a : ℚ}
    (hBought : brokerPurchase m broker offer i = some (isImport, a)) : isImport = true := by
  have hTrade := (slotPurchase_eq_some hBought).1
  cases isImport with
  | true => rfl
  | false =>
      rw [not_canTrade_export hMarket hFuses hEvse hOffer i] at hTrade
      cases hTrade

/-- No purchase is made in watts, so that its slice may be anything. -/
theorem sliceWatt_unused (i : m.Slot) (isImport : Bool) (a : ℚ)
    (hBought : brokerPurchase m broker offer i = some (isImport, a))
    (hNone : (offer.side isImport i).acMaxCurrentA = none) : 0 < m.globals.sliceWatt := by
  obtain rfl := brokerPurchase_isImport hMarket hFuses hEvse hOffer hBought
  obtain ⟨c, hCurrent⟩ := offer_acMaxCurrentA hMarket hEvse hOffer i
  cases hNone.symm.trans hCurrent

/-- No amount is negative. -/
theorem brokerPurchase_nonneg {isImport : Bool} {a : ℚ}
    (hBought : brokerPurchase m broker offer i = some (isImport, a)) : 0 ≤ a :=
  (brokerPurchase_fits hMarket.wellFormed hFuses hOffer
    (sliceWatt_unused hMarket hFuses hEvse hOffer) hBought).1

/-- A purchase of the broker is an import. -/
theorem brokerPurchase_cases (broker : Broker m.globals) (i : m.Slot) :
    brokerPurchase m broker offer i = none ∨
      ∃ a, 0 ≤ a ∧ brokerPurchase m broker offer i = some (true, a) := by
  cases hBought : brokerPurchase m broker offer i with
  | none => exact .inl rfl
  | some purchase =>
      obtain ⟨isImport, a⟩ := purchase
      obtain rfl := brokerPurchase_isImport hMarket hFuses hEvse hOffer hBought
      exact .inr ⟨a, brokerPurchase_nonneg hMarket hFuses hEvse hOffer hBought, rfl⟩

/-- What a broker enters is not negative as a current. -/
theorem soldCurrent_nonneg (broker : Broker m.globals) (i : m.Slot) :
    0 ≤ soldCurrent (brokerSchedule m broker offer i) := by
  rw [soldCurrent_brokerSchedule]
  rcases brokerPurchase_cases hMarket hFuses hEvse hOffer broker i with
    hNone | ⟨a, hAmount, hBought⟩
  · rw [hNone]
    exact le_rfl
  · rw [hBought]
    rwa [purchasedCurrent, sign, if_pos rfl, one_mul]

/-- What a broker enters is not negative as a power. -/
theorem soldPower_nonneg (broker : Broker m.globals) (i : m.Slot) :
    0 ≤ soldPower (brokerSchedule m broker offer i) := by
  rw [soldPower_brokerSchedule]
  rcases brokerPurchase_cases hMarket hFuses hEvse hOffer broker i with
    hNone | ⟨a, hAmount, hBought⟩
  · rw [hNone]
    exact le_rfl
  · rw [hBought]
    simp only [purchasedPower, enteredPower, sign, if_true, one_mul]
    split_ifs
    · exact acPower_nonneg hMarket.wellFormed.nominalAcVoltage
        (offer_wellFormed hMarket.wellFormed hFuses hOffer true i) hAmount
    · exact le_rfl

/-- A purchase is the first one of the broker in the slot, or the ledger can be drawn on less
often after it. -/
theorem brokerPurchase_draws (hCurrent : OnlyImports soldCurrent sold)
    (hPower : OnlyImports soldPower sold) {purchase : Bool × ℚ}
    (hBought : brokerPurchase m broker offer i = some purchase) :
    let after := book (brokerSchedule m broker offer) place sold
    broker.firstTrade i = true ∨
      ledgerDraws m LimitsReq.acMaxCurrentA m.globals.sliceAmpere after i <
        ledgerDraws m LimitsReq.acMaxCurrentA m.globals.sliceAmpere sold i ∨
      ledgerDraws m LimitsReq.totalPowerW 1 after i <
        ledgerDraws m LimitsReq.totalPowerW 1 sold i := by
  obtain ⟨isImport, a⟩ := purchase
  obtain rfl := brokerPurchase_isImport hMarket hFuses hEvse hOffer hBought
  obtain ⟨c, hLimit⟩ := offer_acMaxCurrentA hMarket hEvse hOffer i
  obtain ⟨hTrade, -, hAmount⟩ := slotPurchase_eq_some hBought
  have hSide := offer_wellFormed hMarket.wellFormed hFuses hOffer true i
  have hEntered := soldCurrent_brokerSchedule m broker offer i
  have hEnteredPower := soldPower_brokerSchedule m broker offer i
  rw [hBought] at hEntered hEnteredPower
  rw [purchasedCurrent, sign, if_pos rfl, one_mul] at hEntered
  rcases purchaseAmount_draws hMarket.wellFormed.nominalAcVoltage hMarket.wellFormed.sliceAmpere
    hSide hTrade hLimit hAmount with hFirst | hDraws | ⟨w, hWatt, hDraws⟩
  · exact .inl hFirst
  · right
    left
    rw [← hEntered] at hDraws
    exact ledgerDraws_book_lt isUnit_current hCurrent
      (soldCurrent_nonneg hMarket hFuses hEvse hOffer broker i) hMarket.wellFormed.sliceAmpere hOffer
      hLimit hDraws
  · right
    right
    have hBoth : (offer.side true i).acMaxCurrentA.isSome ∧
        (offer.side true i).totalPowerW.isSome := by
      rw [hLimit, hWatt]
      exact ⟨rfl, rfl⟩
    rw [purchasedPower, enteredPower, if_pos hBoth, sign, if_pos rfl, one_mul] at hEnteredPower
    rw [← hEnteredPower] at hDraws
    exact ledgerDraws_book_lt isUnit_power hPower
      (soldPower_nonneg hMarket hFuses hEvse hOffer broker i) one_pos hOffer hWatt hDraws

end Offer

/-! The measure of the trading loop. -/

/-- How often a purchase can still be made in a slot. -/
def slotPurchases (m : Market) (state : TradingState m.globals) (i : m.Slot) : ℕ :=
  ledgerDraws m LimitsReq.acMaxCurrentA m.globals.sliceAmpere state.sold i +
    ledgerDraws m LimitsReq.totalPowerW 1 state.sold i +
    state.brokers.countP fun broker => broker.firstTrade i

def purchasesLeft (m : Market) (state : TradingState m.globals) : ℕ :=
  ∑ i : m.Slot, slotPurchases m state i

/-- What holds while only imports are sold. -/
structure ImportsOnly (m : Market) (state : TradingState m.globals) : Prop where
  fuses : FusesHold m state.sold
  current : OnlyImports soldCurrent state.sold
  power : OnlyImports soldPower state.sold
  brokers : ∀ broker ∈ state.brokers, ∀ place, broker.localMarket = .live place →
    IsEvse m.energyFlowRequest place

/-- A first purchase is made once. -/
theorem countP_firstTrade_set {g : Globals} {brokers : List (Broker g)} {k : ℕ} {broker : Broker g}
    (hBroker : brokers[k]? = some broker) (bought : Slot g → Bool) (i : Slot g) :
    (brokers.set k (broker.afterBuying bought)).countP (fun other => other.firstTrade i) +
        (broker.firstTrade i && bought i).toNat =
      brokers.countP fun other => other.firstTrade i := by
  obtain ⟨hk, rfl⟩ := List.getElem?_eq_some_iff.mp hBroker
  have hCounted := List.boole_getElem_le_countP (p := fun other : Broker g => other.firstTrade i) hk
  rw [List.countP_set hk]
  cases hFirst : brokers[k].firstTrade i with
  | false => simp [Broker.afterBuying, hFirst]
  | true =>
      rw [hFirst, if_pos rfl] at hCounted
      cases hNow : bought i with
      | false => simpa [Broker.afterBuying, hFirst, hNow] using Nat.sub_add_cancel hCounted
      | true => simpa [Broker.afterBuying, hFirst, hNow] using Nat.sub_add_cancel hCounted

/-- In each slot a trade costs as many purchases as it makes. -/
theorem slotPurchases_after {m : Market} (hMarket : m.ImportLimited)
    {state : TradingState m.globals} (hState : ImportsOnly m state) {k : ℕ}
    {broker : Broker m.globals} (hBroker : state.brokers[k]? = some broker) {place : Place}
    (hEvse : IsEvse m.energyFlowRequest place) {offer : Offer m.globals}
    (hOffer : createOffer m state.sold place = some offer) (i : m.Slot) :
    slotPurchases m
          { sold := book (brokerSchedule m broker offer) place state.sold
            brokers := state.brokers.set k
              (broker.afterBuying fun i => (brokerPurchase m broker offer i).isSome) } i +
        (brokerPurchase m broker offer i).isSome.toNat ≤
      slotPurchases m state i := by
  have hCurrent := ledgerDraws_book_le isUnit_current hState.current
    (soldCurrent_nonneg hMarket hState.fuses hEvse hOffer broker i)
    hMarket.wellFormed.sliceAmpere place
  have hPower := ledgerDraws_book_le isUnit_power hState.power
    (soldPower_nonneg hMarket hState.fuses hEvse hOffer broker i) one_pos place
  have hFirst := countP_firstTrade_set hBroker
    (fun i => (brokerPurchase m broker offer i).isSome) i
  unfold slotPurchases
  dsimp only
  cases hBought : brokerPurchase m broker offer i with
  | none =>
      rw [Option.isSome_none, Bool.toNat_false]
      omega
  | some purchase =>
      have hDraws := brokerPurchase_draws hMarket hState.fuses hEvse hOffer hState.current
        hState.power hBought
      rw [Option.isSome_some, Bool.toNat_true]
      rw [hBought, Option.isSome_some, Bool.and_true] at hFirst
      rcases hDraws with hNow | hLess | hLess
      · rw [hNow, Bool.toNat_true] at hFirst
        omega
      · omega
      · omega

/-- Trading keeps the market free of exports. -/
theorem importsOnly_trade {m : Market} (hMarket : m.ImportLimited)
    {state next : TradingState m.globals} (hState : ImportsOnly m state) {k : ℕ} {traded : Bool}
    (hTrade : brokerTrade m state k = some (traded, next)) : ImportsOnly m next := by
  obtain ⟨broker, place, offer, hBroker, hPlace, hOffer, -, hSold, hBrokers⟩ :=
    brokerTrade_eq_some hTrade
  have hMember := List.mem_of_getElem? hBroker
  have hEvse := hState.brokers broker hMember place hPlace
  constructor
  · rw [hSold]
    exact fusesHold_book hMarket.wellFormed hState.fuses hOffer
      (sliceWatt_unused hMarket hState.fuses hEvse hOffer)
  · rw [hSold]
    exact onlyImports_book isUnit_current hState.current
      (soldCurrent_nonneg hMarket hState.fuses hEvse hOffer broker) place
  · rw [hSold]
    exact onlyImports_book isUnit_power hState.power
      (soldPower_nonneg hMarket hState.fuses hEvse hOffer broker) place
  · intro other hOther place' hPlace'
    rw [hBrokers] at hOther
    rcases List.mem_or_eq_of_mem_set hOther with hBefore | rfl
    · exact hState.brokers other hBefore place' hPlace'
    · exact hState.brokers broker hMember place' hPlace'

/-- A trade never leaves room for more purchases, and one that buys anything leaves room for
less. -/
theorem brokerTrade_decreases {m : Market} (hMarket : m.ImportLimited) :
    Decreases (brokerTrade m) (ImportsOnly m) (purchasesLeft m) where
  keeps hState hTrade := importsOnly_trade hMarket hState hTrade
  pays := by
    intro state next k traded hState hTrade
    obtain ⟨broker, place, offer, hBroker, hPlace, hOffer, rfl, hSold, hBrokers⟩ :=
      brokerTrade_eq_some hTrade
    have hEvse := hState.brokers broker (List.mem_of_getElem? hBroker) place hPlace
    have hSlots := slotPurchases_after hMarket hState hBroker hEvse hOffer
    rw [← hSold, ← hBrokers] at hSlots
    by_cases hBought : ∃ i, (brokerPurchase m broker offer i).isSome = true
    · obtain ⟨i, hSome⟩ := hBought
      rw [decide_eq_true ⟨i, hSome⟩, Bool.toNat_true]
      apply Nat.succ_le_of_lt
      apply Finset.sum_lt_sum
      · exact fun j _ => le_of_add_le_left (hSlots j)
      · refine ⟨i, Finset.mem_univ i, ?_⟩
        have hSlot := hSlots i
        rw [hSome, Bool.toNat_true] at hSlot
        exact hSlot
    · rw [decide_eq_false hBought, Bool.toNat_false, Nat.add_zero]
      exact Finset.sum_le_sum fun j _ => le_of_add_le_left (hSlots j)

/-- A round in which something was bought leaves fewer purchases to be made. The round is taken
apart into its trades. -/
theorem tradingRound_decreases {m : Market} (hMarket : m.ImportLimited)
    {state next : TradingState m.globals} {active : Bool} (hState : ImportsOnly m state)
    (hRound : tradingRound m state = some (active, next)) :
    ImportsOnly m next ∧ purchasesLeft m next + active.toNat ≤ purchasesLeft m state :=
  (brokerTrade_decreases hMarket).round? hState hRound

/-- Without a limit on its rounds, the trading loop ends with one in which nothing is
traded. -/
def TradingEnds (m : Market) (start : TradingState m.globals) : Prop :=
  ∃ count state final, ActiveRounds (tradingRound m) count start state ∧
    tradingRound m state = some (false, final)

/-- The invariant holds for any brokers at EVSEs. -/
theorem importsOnly_start {m : Market} (hMarket : m.ImportLimited)
    {brokers : List (Broker m.globals)}
    (hBrokers : ∀ broker ∈ brokers, ∀ place, broker.localMarket = .live place →
      IsEvse m.energyFlowRequest place) :
    ImportsOnly m ⟨emptyLedger m.globals, brokers⟩ where
  fuses := fusesHold_empty hMarket.wellFormed
  current _ _ := le_rfl
  power _ _ := le_rfl
  brokers := hBrokers

/-- The invariant holds when the market opens. -/
theorem importsOnly_openMarket {m : Market} (hMarket : m.ImportLimited) :
    ImportsOnly m (openMarket m) := by
  apply importsOnly_start hMarket
  intro broker hBroker place hPlace
  obtain ⟨ref, hRef, rfl⟩ := List.mem_map.mp hBroker
  obtain ⟨place', hEvse, rfl⟩ := mem_getListOfEvses.mp hRef
  unfold placeRef at hPlace
  split_ifs at hPlace
  cases hPlace
  exact hEvse

/-- Moreover, all references of the brokers are live. -/
structure LiveImports (m : Market) (state : TradingState m.globals) : Prop where
  imports : ImportsOnly m state
  brokers : ∀ broker ∈ state.brokers, AtEvse m broker

/-- A round keeps the invariant and is defined where the ways are live. -/
theorem tradingRound_liveImports {m : Market} (hMarket : m.ImportLimited)
    (hWays : EvseWaysLive m) {state next : TradingState m.globals}
    {active : Bool} (hState : LiveImports m state)
    (hRound : tradingRound m state = some (active, next)) :
    LiveImports m next ∧ purchasesLeft m next + active.toNat ≤ purchasesLeft m state := by
  obtain ⟨hNext, hLess⟩ := tradingRound_decreases hMarket hState.imports hRound
  obtain ⟨_, _, hRound', hBrokers⟩ := tradingRound_isSome hWays hState.brokers
  cases hRound.symm.trans hRound'
  exact ⟨⟨hNext, hBrokers⟩, hLess⟩

/-- Brokers at EVSEs of any depth come to an end with their trading, where the ways to the
root are live. -/
theorem tradingEnds_of_atEvse {m : Market} (hMarket : m.ImportLimited)
    (hWays : EvseWaysLive m) {brokers : List (Broker m.globals)}
    (hBrokers : ∀ broker ∈ brokers, AtEvse m broker) :
    TradingEnds m ⟨emptyLedger m.globals, brokers⟩ := by
  have hStart : ImportsOnly m ⟨emptyLedger m.globals, brokers⟩ := by
    apply importsOnly_start hMarket
    intro broker hBroker place hPlace
    obtain ⟨place', hEvse, hPlace'⟩ := hBrokers broker hBroker
    cases hPlace.symm.trans hPlace'
    exact hEvse
  obtain ⟨count, state, hActive, hState, hEnd⟩ :=
    activeRounds_end (fun _ _ _ => tradingRound_liveImports hMarket hWays)
      (⟨hStart, hBrokers⟩ : LiveImports m ⟨emptyLedger m.globals, brokers⟩)
  obtain ⟨active, final, hRound, -⟩ := tradingRound_isSome hWays hState.brokers
  cases active with
  | false => exact ⟨count, state, final, hActive, hRound⟩
  | true => exact absurd hRound (hEnd final)

/-- On any tree the rounds with a trade have a bound: trading never goes on for ever. -/
theorem activeRounds_openMarket_le {m : Market} (hMarket : m.ImportLimited) {count : ℕ}
    {state : TradingState m.globals}
    (hActive : ActiveRounds (tradingRound m) count (openMarket m) state) :
    count ≤ purchasesLeft m (openMarket m) := by
  have hBound := activeRounds_le (fun _ _ _ => tradingRound_decreases hMarket)
    (importsOnly_openMarket hMarket) hActive
  omega

/-! A round needs every broker. -/

/-- A broker whose reference is stale has no turn, and the round with it no result. -/
theorem live_of_tradingRound {m : Market} {state next : TradingState m.globals} {active : Bool}
    (hRound : tradingRound m state = some (active, next)) {broker : Broker m.globals}
    (hBroker : broker ∈ state.brokers) : ∃ place, broker.localMarket = .live place := by
  obtain ⟨k, hk, rfl⟩ := List.mem_iff_getElem.mp hBroker
  have hRun : run? (brokerStep m) state (List.range state.brokers.length) = some next :=
    (run?_eq_some_iff_round? (brokerTrade m)).mpr ⟨active, hRound⟩
  obtain ⟨before, after, hTurns⟩ := List.append_of_mem (List.mem_range.mpr hk)
  rw [hTurns, run?_append] at hRun
  obtain ⟨middle, hBefore, hRest⟩ := Option.bind_eq_some_iff.mp hRun
  obtain ⟨last, hTurn, -⟩ := Option.bind_eq_some_iff.mp hRest
  obtain ⟨traded, hTrade⟩ := brokerStep_eq_some.mp hTurn
  obtain ⟨other, place, -, hOther, hPlace, -⟩ := brokerTrade_eq_some hTrade
  have hSame := congrArg (fun refs : List MarketRef => refs[k]?) (run_localMarkets hBefore)
  refine ⟨place, ?_⟩
  simpa [List.getElem?_map, hOther, hk, hPlace] using hSame.symm

/-- Trading can only end after a first round. -/
theorem tradingRound_of_tradingEnds {m : Market} {start : TradingState m.globals}
    (hEnds : TradingEnds m start) : ∃ active next, tradingRound m start = some (active, next) := by
  obtain ⟨count, state, final, hActive, hLast⟩ := hEnds
  cases hActive with
  | none => exact ⟨false, final, hLast⟩
  | next hFirst _ => exact ⟨true, _, hFirst⟩

/-- Two EVSEs behind a fuse of ten amperes import only. -/
theorem twoEvses_importLimited : twoEvses.ImportLimited where
  wellFormed := Market.WellFormed.current (by decide)
  noExport _ _ i :=
    ⟨[], twoEvses.energyFlowRequest.value, List.nil_suffix, rfl,
      .inl (acMaxCurrentA_of_noExport rfl i)⟩
  ampereLimit _ _ i :=
    ⟨[], twoEvses.energyFlowRequest.value, List.nil_suffix, rfl,
      acMaxCurrentA_of_leaves rfl (List.cons_ne_nil _ _) (by decide) i⟩

/-- Where nothing can be exported and every import is limited in amperes, the trading loop ends
by itself exactly if no EVSE is deeper than the children of the root. The optimizer trades for
a deeper one through a copy of its market that is gone, and no round with it has a result. -/
theorem trading_terminates_iff (m : Market) (hMarket : m.ImportLimited) :
    TradingEnds m (openMarket m) ↔
      ∀ place, IsEvse m.energyFlowRequest place → place.length ≤ 1 := by
  constructor
  · intro hEnds place hEvse
    obtain ⟨active, next, hRound⟩ := tradingRound_of_tradingEnds hEnds
    have hListed : ⟨placeRef place, fun _ => true⟩ ∈ (openMarket m).brokers :=
      List.mem_map.mpr ⟨placeRef place, mem_getListOfEvses.mpr ⟨place, hEvse, rfl⟩, rfl⟩
    obtain ⟨place', hLive⟩ := live_of_tradingRound hRound hListed
    by_contra hDeep
    simp [placeRef, hDeep] at hLive
  · intro hFlat
    exact tradingEnds_of_atEvse hMarket (evseWaysLive_of_flat hFlat) (atEvse_openMarket hFlat)

/-- Two EVSEs below one fuse trade until nothing is left. -/
theorem trading_terminates_two_evses : TradingEnds twoEvses (openMarket twoEvses) :=
  (trading_terminates_iff twoEvses twoEvses_importLimited).mpr twoEvses_flat

/-- An EVSE of sixteen amperes with a fuse between it and the root. -/
def fusedEvse : Market where
  globals := oneSlot
  nominalAcVoltage := 230
  energyFlowRequest :=
    let limit : Option (List ScheduleReqEntry) :=
      some [{ timestamp := 0, limitsToLeaves := { acMaxCurrentA := some 16 } }]
    .node { uuid := "grid", nodeType := .generic, scheduleImport := limit }
      [.node { uuid := "fuse", nodeType := .generic, scheduleImport := limit }
        [.node { uuid := "evse", nodeType := .evse, scheduleImport := limit } []]]
  grow := doubleCapacity

/-- The only broker has a reference to a copy, and does not get through its first turn. -/
theorem trading_stuck_at_depth_two :
    fusedEvse.ImportLimited ∧ ¬ TradingEnds fusedEvse (openMarket fusedEvse) := by
  constructor
  · exact
      { wellFormed := Market.WellFormed.current (by decide)
        noExport := fun _ _ i =>
          ⟨[], fusedEvse.energyFlowRequest.value, List.nil_suffix, rfl,
            .inl (acMaxCurrentA_of_noExport rfl i)⟩
        ampereLimit := fun _ _ i =>
          ⟨[], fusedEvse.energyFlowRequest.value, List.nil_suffix, rfl,
            acMaxCurrentA_of_leaves rfl (List.cons_ne_nil _ _) (by decide) i⟩ }
  · intro hEnds
    obtain ⟨active, next, hRound⟩ := tradingRound_of_tradingEnds hEnds
    have hStuck : (tradingRound fusedEvse (openMarket fusedEvse)).isNone := by decide +kernel
    rw [hRound] at hStuck
    cases hStuck

end EverestCore.Energy
