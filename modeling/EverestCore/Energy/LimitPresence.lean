import EverestCore.Energy.FuseLimits
import EverestCore.Energy.Optimizer

/-! Which limits there are in the result of the optimizer. A trade enters a limit of zero
in each unit in which an import is limited somewhere on the way to the root, and a current
if anything was bought. What was entered stays, and is found at all places above. -/
namespace EverestCore.Energy
open Data Machine

/-- A unit of the results: the current or the power. -/
structure IsEntered (entry : LimitsRes → Option ℚ) : Prop where
  empty : entry {} = none
  add : ∀ a b : ScheduleResEntry, (entry (addLimits a b).limitsToRoot).isSome =
    ((entry a.limitsToRoot).isSome || (entry b.limitsToRoot).isSome)

theorem isEntered_acMaxCurrentA : IsEntered LimitsRes.acMaxCurrentA where
  empty := rfl
  add a b := by
    unfold addLimits
    cases b.limitsToRoot.acMaxCurrentA <;> simp

theorem isEntered_totalPowerW : IsEntered LimitsRes.totalPowerW where
  empty := rfl
  add a b := by
    unfold addLimits
    cases b.limitsToRoot.totalPowerW <;> simp

/-- In the run a broker at the place has a turn on this offer. -/
def TakesTurn (m : Market) (calls : List ℕ) (place : Place) (broker : Broker m.globals)
    (offer : Offer m.globals) : Prop :=
  ∃ before k state, before ++ [k] <+: calls ∧
    run? (brokerStep m) (openMarket m) before = some state ∧ state.brokers[k]? = some broker ∧
    broker.localMarket = .live place ∧ createOffer m state.sold place = some offer

section Turns

variable {m : Market} {calls : List ℕ} {place : Place} {broker : Broker m.globals}
  {offer : Offer m.globals}

theorem takesTurn_snoc {k : ℕ} :
    TakesTurn m (calls ++ [k]) place broker offer ↔
      TakesTurn m calls place broker offer ∨
      ∃ state, run? (brokerStep m) (openMarket m) calls = some state ∧
        state.brokers[k]? = some broker ∧ broker.localMarket = .live place ∧
        createOffer m state.sold place = some offer := by
  constructor
  · rintro ⟨before, j, state, hPrefix, hRun, hTurn⟩
    rcases List.prefix_concat_iff.mp hPrefix with hEq | hBefore
    · obtain ⟨rfl, hLast⟩ := List.append_inj' hEq rfl
      cases hLast
      exact .inr ⟨state, hRun, hTurn⟩
    · exact .inl ⟨before, j, state, hBefore, hRun, hTurn⟩
  · rintro (⟨before, j, state, hPrefix, hTurn⟩ | ⟨state, hRun, hTurn⟩)
    · exact ⟨before, j, state, hPrefix.trans (List.prefix_append _ _), hTurn⟩
    · exact ⟨calls, k, state, List.prefix_refl _, hRun, hTurn⟩

/-- What is entered at a place was entered by a broker at the place or below. -/
theorem entered_iff {entry : LimitsRes → Option ℚ} (hEntry : IsEntered entry)
    {state : TradingState m.globals}
    (hRun : run? (brokerStep m) (openMarket m) calls = some state) (above : Place) (i : m.Slot) :
    (entry (state.sold above i).limitsToRoot).isSome = true ↔
      ∃ place broker offer, above <:+ place ∧ TakesTurn m calls place broker offer ∧
        (entry (brokerSchedule m broker offer i).limitsToRoot).isSome = true := by
  induction calls using List.reverseRecOn generalizing state with
  | nil =>
      cases hRun
      simp [openMarket, emptyLedger, emptyScheduleRes, hEntry.empty, TakesTurn]
  | append_singleton calls k ih =>
      obtain ⟨before, hBefore, hLast⟩ := (run?_snoc_eq_some _).mp hRun
      obtain ⟨traded, hTrade⟩ := brokerStep_eq_some.mp hLast
      obtain ⟨broker, place, offer, hBroker, hLive, hOffer, -, hSold, -⟩ :=
        brokerTrade_eq_some hTrade
      have hEarlier := ih hBefore
      rw [hSold, book]
      constructor
      · intro hSome
        by_cases hAbove : above <:+ place
        · rw [if_pos hAbove, hEntry.add, Bool.or_eq_true] at hSome
          rcases hSome with hOld | hNew
          · obtain ⟨other, otherBroker, otherOffer, hOther, hTurn, hEntered⟩ := hEarlier.mp hOld
            exact ⟨other, otherBroker, otherOffer, hOther, takesTurn_snoc.mpr (.inl hTurn), hEntered⟩
          · exact ⟨place, broker, offer, hAbove,
              takesTurn_snoc.mpr (.inr ⟨before, hBefore, hBroker, hLive, hOffer⟩), hNew⟩
        · rw [if_neg hAbove] at hSome
          obtain ⟨other, otherBroker, otherOffer, hOther, hTurn, hEntered⟩ := hEarlier.mp hSome
          exact ⟨other, otherBroker, otherOffer, hOther, takesTurn_snoc.mpr (.inl hTurn), hEntered⟩
      · rintro ⟨other, otherBroker, otherOffer, hOther, hTurn, hEntered⟩
        rcases takesTurn_snoc.mp hTurn with hOld | ⟨state', hState, hBroker', hLive', hOffer'⟩
        · have hSome := hEarlier.mpr ⟨other, otherBroker, otherOffer, hOther, hOld, hEntered⟩
          split
          · rw [hEntry.add, hSome, Bool.true_or]
          · exact hSome
        · cases hBefore.symm.trans hState
          cases hBroker.symm.trans hBroker'
          cases hLive.symm.trans hLive'
          cases hOffer.symm.trans hOffer'
          rw [if_pos hOther, hEntry.add, hEntered, Bool.or_true]

/-- A broker trades at the place of an EVSE. -/
theorem TakesTurn.isEvse (h : TakesTurn m calls place broker offer) :
    IsEvse m.energyFlowRequest place := by
  obtain ⟨before, k, state, -, hRun, hBroker, hLive, -⟩ := h
  have hSame : (state.brokers.map Broker.localMarket)[k]? = some (.live place) := by
    rw [List.getElem?_map, hBroker, Option.map_some, hLive]
  rw [run_localMarkets hRun] at hSame
  have hMem : .live place ∈ getListOfEvses m.energyFlowRequest := by
    have hListed := List.mem_of_getElem? hSame
    simpa [openMarket] using hListed
  obtain ⟨other, hEvse, hRef⟩ := mem_getListOfEvses.mp hMem
  unfold placeRef at hRef
  split at hRef
  · cases hRef
    exact hEvse
  · cases hRef

/-- The first round comes first. -/
theorem range_prefix_optimizerCalls {counter : ℤ} {state : TradingState m.globals}
    (hOptimizer : runOptimizer m = some (counter, state)) :
    List.range (openMarket m).brokers.length <+: optimizerCalls m counter := by
  have hRounds : ∃ rounds, maxNumberOfTradingRounds - counter.toNat = rounds + 1 := by
    rcases rounds?_eq_some hOptimizer with ⟨rfl, -⟩ | ⟨count, -, hCount, hLeft, -⟩
    · exact ⟨99, rfl⟩
    · exact ⟨count, by omega⟩
  obtain ⟨rounds, hRounds⟩ := hRounds
  rw [optimizerCalls, hRounds, List.replicate_succ, List.flatten_cons]
  exact List.prefix_append _ _

/-- A prefix of a defined run is defined. -/
theorem exists_run_of_prefix {before : List ℕ} {state : TradingState m.globals}
    (hRun : run? (brokerStep m) (openMarket m) calls = some state) (hPrefix : before <+: calls) :
    ∃ mid, run? (brokerStep m) (openMarket m) before = some mid := by
  obtain ⟨rest, rfl⟩ := hPrefix
  rw [run?_append] at hRun
  obtain ⟨mid, hMid, -⟩ := Option.bind_eq_some_iff.mp hRun
  exact ⟨mid, hMid⟩

/-- Every EVSE has a turn in the first round. -/
theorem exists_takesTurn {counter : ℤ} {state : TradingState m.globals}
    (hOptimizer : runOptimizer m = some (counter, state))
    (hEvse : IsEvse m.energyFlowRequest place) :
    ∃ broker offer, TakesTurn m (optimizerCalls m counter) place broker offer := by
  have hListed := mem_getListOfEvses.mpr ⟨place, hEvse, rfl⟩
  obtain ⟨k, hk, hRef⟩ := List.mem_iff_getElem.mp hListed
  have hPrefix : List.range k ++ [k] <+: optimizerCalls m counter := by
    have hCount : k < (openMarket m).brokers.length := by simpa [openMarket] using hk
    have hTake : List.range k ++ [k] = (List.range (openMarket m).brokers.length).take (k + 1) := by
      rw [List.take_range, min_eq_left (Nat.succ_le_of_lt hCount), List.range_succ]
    rw [hTake]
    exact (List.take_prefix _ _).trans (range_prefix_optimizerCalls hOptimizer)
  obtain ⟨next, hNext⟩ := exists_run_of_prefix (run_optimizerCalls hOptimizer) hPrefix
  obtain ⟨mid, hMid, hStep⟩ := (run?_snoc_eq_some _).mp hNext
  obtain ⟨traded, hTrade⟩ := brokerStep_eq_some.mp hStep
  obtain ⟨broker, other, offer, hBroker, hLive, hOffer, -⟩ := brokerTrade_eq_some hTrade
  have hSame : (mid.brokers.map Broker.localMarket)[k]? = some (.live other) := by
    rw [List.getElem?_map, hBroker, Option.map_some, hLive]
  rw [run_localMarkets hMid] at hSame
  have hOther : placeRef place = .live other := by
    simpa [openMarket, hk, hRef] using hSame
  unfold placeRef at hOther
  split at hOther
  · cases hOther
    exact ⟨broker, offer, List.range k, k, mid, hPrefix, hMid, hBroker, hLive, hOffer⟩
  · cases hOther

/-- The import is limited in a unit somewhere on the way to the root. -/
def ImportLimited (m : Market) (limit : LimitsReq → Option ℚ) (place : Place) (i : m.Slot) :
    Prop :=
  ∃ above ∈ place.tails, ∃ node ∈ m.node? above,
    (limit (maxSide m.globals node true i)).isSome = true

instance (m : Market) (limit : LimitsReq → Option ℚ) (place : Place) (i : m.Slot) :
    Decidable (ImportLimited m limit place i) :=
  inferInstanceAs (Decidable (∃ above ∈ place.tails, ∃ node ∈ m.node? above, _))

/-- Whether an offer has a limit does not depend on what has been sold. -/
theorem side_isSome_iff {limit : LimitsReq → Option ℚ} {amount : ScheduleResEntry → ℚ}
    (hUnit : IsUnit limit amount) {sold : Ledger m.globals}
    (hOffer : createOffer m sold place = some offer) (i : m.Slot) :
    (limit (offer.side true i)).isSome = true ↔ ImportLimited m limit place i := by
  have hAvailable (above : Place) (node : RequestNode) :
      (limit (available m.globals node (sold above) true i)).isSome =
        (limit (maxSide m.globals node true i)).isSome := by
    rw [limit_available hUnit, Option.isSome_map]
  constructor
  · intro hSome
    obtain ⟨o, ho⟩ := Option.isSome_iff_exists.mp hSome
    obtain ⟨above, node, hAbove, hNode, hLimit⟩ := createOffer_attained hUnit.smaller hOffer ho
    refine ⟨above, (List.mem_tails _ _).mpr hAbove, node, hNode, ?_⟩
    rw [← hAvailable above node, hLimit]
    rfl
  · rintro ⟨above, hAbove, node, hNode, hLimit⟩
    rw [← hAvailable above node] at hLimit
    obtain ⟨x, hx⟩ := Option.isSome_iff_exists.mp hLimit
    obtain ⟨o, ho, -⟩ := createOffer_stricter hUnit.smaller hOffer ((List.mem_tails _ _).mp hAbove)
      hNode true i x hx
    rw [ho]
    rfl

theorem TakesTurn.limited_iff (h : TakesTurn m calls place broker offer)
    {limit : LimitsReq → Option ℚ} {amount : ScheduleResEntry → ℚ} (hUnit : IsUnit limit amount)
    (i : m.Slot) :
    (limit (offer.side true i)).isSome = true ↔ ImportLimited m limit place i := by
  obtain ⟨-, -, state, -, -, -, -, hOffer⟩ := h
  exact side_isSome_iff hUnit hOffer i

/-- A current is entered if the import is limited in current, or if something was
bought. -/
theorem brokerSchedule_acMaxCurrentA_isSome (m : Market) (broker : Broker m.globals)
    (offer : Offer m.globals) (i : m.Slot) :
    (brokerSchedule m broker offer i).limitsToRoot.acMaxCurrentA.isSome = true ↔
      (offer.side true i).acMaxCurrentA.isSome = true ∨
        (brokerPurchase m broker offer i).isSome = true := by
  unfold brokerSchedule
  rw [tradeSlot_eq]
  change _ ↔ _ ∨
    (slotPurchase m.globals m.nominalAcVoltage offer (broker.firstTrade i) i).isSome = true
  cases slotPurchase m.globals m.nominalAcVoltage offer (broker.firstTrade i) i with
  | none => simp [openSlot, Offer.side]
  | some purchase =>
      simp only [Option.isSome_some, or_true, iff_true]
      unfold enterAmount buyBoth
      dsimp only
      split_ifs <;> rfl

/-- A power is entered if the import is limited in power, and else only with something
that was bought. -/
theorem brokerSchedule_totalPowerW_isSome (m : Market) (broker : Broker m.globals)
    (offer : Offer m.globals) (i : m.Slot) :
    ((offer.side true i).totalPowerW.isSome = true →
      (brokerSchedule m broker offer i).limitsToRoot.totalPowerW.isSome = true) ∧
    ((brokerSchedule m broker offer i).limitsToRoot.totalPowerW.isSome = true →
      (offer.side true i).totalPowerW.isSome = true ∨
        (brokerPurchase m broker offer i).isSome = true) := by
  unfold brokerSchedule
  rw [tradeSlot_eq]
  change _ ∧ (_ → _ ∨
    (slotPurchase m.globals m.nominalAcVoltage offer (broker.firstTrade i) i).isSome = true)
  cases slotPurchase m.globals m.nominalAcVoltage offer (broker.firstTrade i) i with
  | none => simp [openSlot, Offer.side]
  | some purchase =>
      refine ⟨?_, fun _ => .inr rfl⟩
      intro hSome
      have hOpen : (openSlot m.globals offer
          (broker.firstTrade i) i).trading.limitsToRoot.totalPowerW.isSome = true := by
        simpa [openSlot, Offer.side] using hSome
      unfold enterAmount buyBoth
      dsimp only
      split_ifs
      · rfl
      · exact hOpen
      · exact hOpen

/-- A broker at the place buys something in the slot. -/
def Buys (m : Market) (calls : List ℕ) (place : Place) (i : m.Slot) : Prop :=
  ∃ broker offer, TakesTurn m calls place broker offer ∧
    (brokerPurchase m broker offer i).isSome = true

section Result

variable {counter : ℤ} {state : TradingState m.globals}
  (hOptimizer : runOptimizer m = some (counter, state)) (above : Place) (i : m.Slot)

include hOptimizer

/-- The result has a current exactly if somewhere at the place or below an import is
limited in current, or something was bought. -/
theorem result_acMaxCurrentA_iff :
    (state.sold above i).limitsToRoot.acMaxCurrentA.isSome = true ↔
      ∃ place, above <:+ place ∧ IsEvse m.energyFlowRequest place ∧
        (ImportLimited m LimitsReq.acMaxCurrentA place i ∨
          Buys m (optimizerCalls m counter) place i) := by
  rw [entered_iff isEntered_acMaxCurrentA (run_optimizerCalls hOptimizer)]
  constructor
  · rintro ⟨place, broker, offer, hAbove, hTurn, hEntered⟩
    refine ⟨place, hAbove, hTurn.isEvse, ?_⟩
    rcases (brokerSchedule_acMaxCurrentA_isSome m broker offer i).mp hEntered with hLimited | hBuys
    · exact .inl ((hTurn.limited_iff isUnit_current i).mp hLimited)
    · exact .inr ⟨broker, offer, hTurn, hBuys⟩
  · rintro ⟨place, hAbove, hEvse, hLimited | ⟨broker, offer, hTurn, hBuys⟩⟩
    · obtain ⟨broker, offer, hTurn⟩ := exists_takesTurn hOptimizer hEvse
      have hSide := (hTurn.limited_iff isUnit_current i).mpr hLimited
      exact ⟨place, broker, offer, hAbove, hTurn,
        (brokerSchedule_acMaxCurrentA_isSome m broker offer i).mpr (.inl hSide)⟩
    · exact ⟨place, broker, offer, hAbove, hTurn,
        (brokerSchedule_acMaxCurrentA_isSome m broker offer i).mpr (.inr hBuys)⟩

/-- The result has a power if somewhere at the place or below an import is limited in
power, and else only if something was bought. -/
theorem result_totalPowerW_isSome :
    ((∃ place, above <:+ place ∧ IsEvse m.energyFlowRequest place ∧
        ImportLimited m LimitsReq.totalPowerW place i) →
      (state.sold above i).limitsToRoot.totalPowerW.isSome = true) ∧
    ((state.sold above i).limitsToRoot.totalPowerW.isSome = true →
      ∃ place, above <:+ place ∧ IsEvse m.energyFlowRequest place ∧
        (ImportLimited m LimitsReq.totalPowerW place i ∨
          Buys m (optimizerCalls m counter) place i)) := by
  rw [entered_iff isEntered_totalPowerW (run_optimizerCalls hOptimizer)]
  constructor
  · rintro ⟨place, hAbove, hEvse, hLimited⟩
    obtain ⟨broker, offer, hTurn⟩ := exists_takesTurn hOptimizer hEvse
    have hSide := (hTurn.limited_iff isUnit_power i).mpr hLimited
    exact ⟨place, broker, offer, hAbove, hTurn,
      (brokerSchedule_totalPowerW_isSome m broker offer i).1 hSide⟩
  · rintro ⟨place, broker, offer, hAbove, hTurn, hEntered⟩
    refine ⟨place, hAbove, hTurn.isEvse, ?_⟩
    rcases (brokerSchedule_totalPowerW_isSome m broker offer i).2 hEntered with hLimited | hBuys
    · exact .inl ((hTurn.limited_iff isUnit_power i).mp hLimited)
    · exact .inr ⟨broker, offer, hTurn, hBuys⟩

/-- A power comes with a current exactly if, once an import is limited in power somewhere
at the place or below, one is limited in current there or something was bought. -/
theorem result_power_with_current_iff :
    ((state.sold above i).limitsToRoot.totalPowerW.isSome = true →
      (state.sold above i).limitsToRoot.acMaxCurrentA.isSome = true) ↔
    ((∃ place, above <:+ place ∧ IsEvse m.energyFlowRequest place ∧
        ImportLimited m LimitsReq.totalPowerW place i) →
      ∃ place, above <:+ place ∧ IsEvse m.energyFlowRequest place ∧
        (ImportLimited m LimitsReq.acMaxCurrentA place i ∨
          Buys m (optimizerCalls m counter) place i)) := by
  rw [result_acMaxCurrentA_iff hOptimizer]
  obtain ⟨hEnters, hEntered⟩ := result_totalPowerW_isSome hOptimizer above i
  constructor
  · exact fun h hLimited => h (hEnters hLimited)
  · intro h hSome
    obtain ⟨place, hAbove, hEvse, hLimited | hBuys⟩ := hEntered hSome
    · exact h ⟨place, hAbove, hEvse, hLimited⟩
    · exact ⟨place, hAbove, hEvse, .inr hBuys⟩

end Result

end Turns

end EverestCore.Energy
