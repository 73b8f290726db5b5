import EverestCore.Energy.Optimizer

/-! How the trading loop ends: a round in which nothing is traded changes no
amount, so that no broker would trade afterwards. -/
namespace EverestCore.Energy
open Data Machine

/-- The same amounts were sold. Entries without an amount count as zero. -/
structure SameAmounts {g : Globals} (first second : Ledger g) : Prop where
  current : ∀ place i, soldCurrent (first place i) = soldCurrent (second place i)
  power : ∀ place i, soldPower (first place i) = soldPower (second place i)

/-- Ledgers with the same amounts are the same to everybody who reads them. -/
theorem sameAmounts_equivalence (g : Globals) : Equivalence (SameAmounts (g := g)) where
  refl _ := ⟨fun _ _ => rfl, fun _ _ => rfl⟩
  symm h := ⟨fun place i => (h.current place i).symm, fun place i => (h.power place i).symm⟩
  trans h₁ h₂ := ⟨fun place i => (h₁.current place i).trans (h₂.current place i),
    fun place i => (h₁.power place i).trans (h₂.power place i)⟩

/-- Booking nothing leaves all amounts as they are. -/
theorem sameAmounts_book {g : Globals} {traded : Slot g → ScheduleResEntry}
    (hCurrent : ∀ i, soldCurrent (traded i) = 0) (hPower : ∀ i, soldPower (traded i) = 0)
    (place : Place) (sold : Ledger g) : SameAmounts sold (book traded place sold) := by
  constructor
  · intro above i
    rw [book]
    split_ifs
    · rw [soldCurrent_addLimits, hCurrent, add_zero]
    · rfl
  · intro above i
    rw [book]
    split_ifs
    · rw [soldPower_addLimits, hPower, add_zero]
    · rfl

/-! Offers and trades depend on what was sold by its amounts only. -/

/-- What is left depends on the amounts sold, and not on how they were entered. -/
theorem getAvailableEnergy_congr {a : ScheduleReqEntry} {first second : ScheduleResEntry}
    (hCurrent : soldCurrent first = soldCurrent second)
    (hPower : soldPower first = soldPower second) (addSold : Bool) :
    getAvailableEnergy a first addSold = getAvailableEnergy a second addSold := by
  unfold soldCurrent at hCurrent
  unfold soldPower at hPower
  unfold getAvailableEnergy
  rw [hCurrent, hPower]

/-- A market place limits an offer by what is left there. -/
theorem limitOffer_congr {g : Globals} {first second : Ledger g} (h : SameAmounts first second)
    (place : Place) (node : RequestNode) (offer : Offer g) :
    limitOffer node (first place) offer = limitOffer node (second place) offer := by
  have hAvailable (a : ScheduleReqEntry) (addSold : Bool) (i : Slot g) :=
    getAvailableEnergy_congr (a := a) (h.current place i) (h.power place i) addSold
  simp only [limitOffer, getAvailableEnergyImport, getAvailableEnergyExport, hAvailable]

/-- All market places on the way limit the offer in the same way. -/
theorem createOffer_congr {m : Market} {first second : Ledger m.globals}
    (h : SameAmounts first second) (place : Place) :
    createOffer m first place = createOffer m second place := by
  induction place with
  | nil => simp only [createOffer, limitOffer_congr h]
  | cons j place ih => simp only [createOffer, limitOffer_congr h, ih]

/-- Whether a trade is defined does not depend on what was sold. -/
theorem trade_isSome_congr {g : Globals} (grow : ℕ → ℕ) {request : EnergyFlowRequest}
    {traded : Slot g → ScheduleResEntry} (hPhases : NoPhaseCount traded) {place : Place}
    (first second : Ledger g) :
    (trade grow request traded place first).isSome =
      (trade grow request traded place second).isSome := by
  induction place generalizing first second with
  | nil => simp [trade, scheduleAdd_of_noPhaseCount _ hPhases]
  | cons j place ih =>
      simp only [trade, scheduleAdd_of_noPhaseCount _ hPhases, Option.bind_eq_bind,
        Option.bind_some]
      split
      · exact ih _ _
      · rfl

/-! A trade without a purchase. -/

/-- The states in which every broker finds the same. -/
structure SameToBrokers {g : Globals} (first second : TradingState g) : Prop where
  sold : SameAmounts first.sold second.sold
  brokers : first.brokers = second.brokers

/-- A trade without a purchase may book a schedule of zeros, which nobody can see. -/
theorem sameToBrokers_of_not_traded {m : Market} {state next : TradingState m.globals} {k : ℕ}
    (h : brokerTrade m state k = some (false, next)) : SameToBrokers state next := by
  obtain ⟨broker, place, offer, hBroker, -, -, hTraded, hSold, hBrokers⟩ := brokerTrade_eq_some h
  have hNone (i : m.Slot) : brokerPurchase m broker offer i = none := by
    have hAll := of_decide_eq_false hTraded.symm
    rw [← Option.not_isSome_iff_eq_none]
    exact fun hSome => hAll ⟨i, hSome⟩
  constructor
  · rw [hSold]
    refine sameAmounts_book (fun i => ?_) (fun i => ?_) place state.sold
    · rw [soldCurrent_brokerSchedule, hNone]
      rfl
    · rw [soldPower_brokerSchedule, hNone]
      rfl
  · have hSame : broker.afterBuying (fun i => (brokerPurchase m broker offer i).isSome) = broker := by
      simp [Broker.afterBuying, hNone]
    obtain ⟨hk, rfl⟩ := List.getElem?_eq_some_iff.mp hBroker
    rw [hBrokers, hSame, List.set_getElem_self]

/-- A broker does the same in two states that look the same to it. -/
theorem brokerTrade_congr {m : Market} {state other next : TradingState m.globals} {k : ℕ}
    {traded : Bool} (hSame : SameToBrokers state other)
    (h : brokerTrade m state k = some (traded, next)) :
    ∃ last, brokerTrade m other k = some (traded, last) := by
  unfold brokerTrade at h ⊢
  rw [← hSame.brokers]
  obtain ⟨broker, hBroker, h⟩ := Option.bind_eq_some_iff.mp h
  simp only [hBroker, Option.bind_eq_bind, Option.bind_some] at h ⊢
  split at h
  · cases h
  · rename_i place hPlace
    rw [createOffer_congr hSame.sold] at h
    obtain ⟨offer, hOffer, h⟩ := Option.bind_eq_some_iff.mp h
    obtain ⟨sold, hSold, h⟩ := Option.bind_eq_some_iff.mp h
    cases h
    have hDefined := congrArg Option.isSome hSold
    rw [trade_isSome_congr m.grow (fun i => (tradeSlot_entered _ _ _ _ i).phases) _ other.sold]
      at hDefined
    obtain ⟨last, hLast⟩ := Option.isSome_iff_exists.mp hDefined
    simp only [hOffer, hLast, Option.bind_some]
    exact ⟨_, rfl⟩

/-- Both facts together are what the library of rounds asks for. -/
theorem indistinguishable_brokerTrade (m : Market) :
    Indistinguishable (brokerTrade m) SameToBrokers where
  equivalence :=
    { refl := fun _ => ⟨(sameAmounts_equivalence _).refl _, rfl⟩
      symm := fun h => ⟨(sameAmounts_equivalence _).symm h.sold, h.brokers.symm⟩
      trans := fun h₁ h₂ => ⟨(sameAmounts_equivalence _).trans h₁.sold h₂.sold,
        h₁.brokers.trans h₂.brokers⟩ }
  inactive := sameToBrokers_of_not_traded
  turn := brokerTrade_congr

/-- After a round without a purchase, every broker would again buy nothing. -/
theorem not_traded_after_round {m : Market} {state final : TradingState m.globals}
    (h : tradingRound m state = some (false, final)) {k : ℕ} (hk : k < final.brokers.length) :
    ∃ next, brokerTrade m final k = some (false, next) := by
  obtain ⟨hSame, hQuiet⟩ := inactive_after_round? (indistinguishable_brokerTrade m) h
  rw [← hSame.brokers] at hk
  exact hQuiet k (List.mem_range.mpr hk)

/-! Rounds are defined where the ways to the root are live. -/

/-- Where the brokers stand does not change by trading. -/
theorem atEvse_of_localMarkets {m : Market} {before after : List (Broker m.globals)}
    (hSame : after.map Broker.localMarket = before.map Broker.localMarket)
    (hBefore : ∀ broker ∈ before, AtEvse m broker) : ∀ broker ∈ after, AtEvse m broker := by
  intro broker hBroker
  have hListed := List.mem_map_of_mem (f := Broker.localMarket) hBroker
  rw [hSame] at hListed
  obtain ⟨other, hOther, hMarket⟩ := List.mem_map.mp hListed
  obtain ⟨place, hEvse, hPlace⟩ := hBefore other hOther
  exact ⟨place, hEvse, hMarket.symm.trans hPlace⟩

/-- A round is defined if all brokers stand at EVSEs whose ways are live. The induction is on the
brokers that are left in the round. -/
theorem tradingRound_isSome {m : Market} (hWays : EvseWaysLive m)
    {state : TradingState m.globals} (hBrokers : ∀ broker ∈ state.brokers, AtEvse m broker) :
    ∃ active next, tradingRound m state = some (active, next) ∧
      ∀ broker ∈ next.brokers, AtEvse m broker := by
  obtain ⟨final, hRun⟩ := run_brokerStep_isSome hWays state hBrokers
    fun k (hk : k ∈ List.range state.brokers.length) => List.mem_range.mp hk
  obtain ⟨active, hRound⟩ := (run?_eq_some_iff_round? (brokerTrade m)).mp hRun
  exact ⟨active, final, hRound, atEvse_of_localMarkets (run_localMarkets hRun) hBrokers⟩

/-- The optimizer comes to an end in one of two ways: after a round in which no
broker traded, so that none of them would trade again, or after a hundred rounds
with trades in each of them, with its counter at minus one. -/
theorem runOptimizer_ends (m : Market) :
    (∀ counter state, runOptimizer m = some (counter, state) →
      (0 ≤ counter → ∀ k < state.brokers.length, ∃ next,
        brokerTrade m state k = some (false, next)) ∧
      (counter < 0 → counter = -1 ∧
        ActiveRounds (tradingRound m) maxNumberOfTradingRounds (openMarket m) state)) ∧
    ((∀ place, IsEvse m.energyFlowRequest place → place.length ≤ 1) →
      (runOptimizer m).isSome) := by
  constructor
  · intro counter state hRun
    rcases rounds?_eq_some hRun with ⟨hCounter, hActive⟩ | ⟨count, last, hCount, hCounter, -, hQuiet⟩
    · exact ⟨fun hLeft => by omega, fun _ => ⟨hCounter, hActive⟩⟩
    · exact ⟨fun _ k hk => not_traded_after_round hQuiet hk, fun hLeft => by omega⟩
  · intro hFlat
    exact rounds?_isSome (fun state => tradingRound_isSome (evseWaysLive_of_flat hFlat)) _
      (atEvse_openMarket hFlat)

/-- An EVSE of 63 amperes that is sold half an ampere in each round. -/
def largeEvse : Market where
  globals := { oneSlot with sliceAmpere := 1 / 2 }
  nominalAcVoltage := 230
  energyFlowRequest :=
    let limit := [{ timestamp := 0, limitsToLeaves := { acMaxCurrentA := some 63 } }]
    .node { uuid := "evse", nodeType := .evse, scheduleImport := some limit } []
  grow := doubleCapacity

/-- After a hundred rounds there is still something to buy. -/
theorem runOptimizer_ends_before_fixpoint :
    ¬ ∀ counter state, runOptimizer largeEvse = some (counter, state) →
      ∀ k < state.brokers.length, ∃ next, brokerTrade largeEvse state k = some (false, next) := by
  intro h
  have hTrades : ∃ result ∈ runOptimizer largeEvse, 0 < result.2.brokers.length ∧
      (brokerTrade largeEvse result.2 0).map Prod.fst = some true := by
    decide +kernel
  obtain ⟨⟨counter, state⟩, hRun, hBroker, hTraded⟩ := hTrades
  obtain ⟨next, hNext⟩ := h counter state hRun 0 hBroker
  rw [hNext] at hTraded
  cases hTraded

end EverestCore.Energy
