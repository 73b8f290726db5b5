import EverestCore.Energy.Broker
import EverestCore.Machine.Rounds

/-! The trading loop of the optimizer: in each round every broker trades once on
an offer of its own, until a round passes without a trade or a hundred rounds
are over. -/
namespace EverestCore.Energy
open Data Machine

/-- One round over the brokers, and whether any of them traded. -/
def tradingRound (m : Market) (state : TradingState m.globals) :
    Option (Bool × TradingState m.globals) :=
  round? (brokerTrade m) (List.range state.brokers.length) state

def maxNumberOfTradingRounds : ℕ := 100

/-- A new market, with one broker for each reference to an EVSE. -/
def openMarket (m : Market) : TradingState m.globals where
  sold := emptyLedger m.globals
  brokers := (getListOfEvses m.energyFlowRequest).map fun ref => ⟨ref, fun _ => true⟩

/-- The trading part of `EnergyManager::run_optimizer`, with the final value of
its counter. It is decremented also by the test that ends the loop. -/
def runOptimizer (m : Market) : Option (ℤ × TradingState m.globals) :=
  rounds? (tradingRound m) maxNumberOfTradingRounds (openMarket m)

/-- The trade of one broker as a step of the market. -/
def brokerStep (m : Market) (state : TradingState m.globals) (k : ℕ) :
    Option (TradingState m.globals) :=
  (brokerTrade m state k).map Prod.snd

/-- A step is a trade, whether or not something was bought. -/
theorem brokerStep_eq_some {m : Market} {state next : TradingState m.globals} {k : ℕ} :
    brokerStep m state k = some next ↔ ∃ traded, brokerTrade m state k = some (traded, next) := by
  rw [brokerStep, Option.map_eq_some_iff]
  constructor
  · rintro ⟨⟨traded, state⟩, hTrade, rfl⟩
    exact ⟨traded, hTrade⟩
  · rintro ⟨traded, hTrade⟩
    exact ⟨_, hTrade, rfl⟩

/-! When a trade is defined. -/

/-- An offer for a node can be made exactly if the way from it to the root is live: the
offer of the parent is needed at every node but the root. -/
theorem createOffer_isSome_iff {m : Market} (sold : Ledger m.globals) {place : Place}
    (hPlace : (m.energyFlowRequest.subtree? place).isSome) :
    (createOffer m sold place).isSome ↔ WayLive m.grow m.energyFlowRequest place := by
  have hNode (p : Place) (hp : (m.energyFlowRequest.subtree? p).isSome) :
      ∃ node, m.node? p = some node := by
    obtain ⟨subtree, hSubtree⟩ := Option.isSome_iff_exists.mp hp
    exact ⟨subtree.value, by rw [Market.node?, RoseTree.value?, hSubtree]; rfl⟩
  induction place with
  | nil =>
      obtain ⟨node, hHere⟩ := hNode [] hPlace
      refine iff_of_true ?_ (wayLive_of_length_le_one m.grow (Nat.zero_le 1))
      rw [createOffer, hHere]
      rfl
  | cons j place ih =>
      obtain ⟨node, hHere⟩ := hNode (j :: place) hPlace
      have hAbove : (createOffer m sold place).isSome ↔ WayLive m.grow m.energyFlowRequest place :=
        ih (RoseTree.subtree?_isSome_of_suffix (List.suffix_cons j place) hPlace)
      rw [wayLive_cons_iff, createOffer, hHere, ← hAbove]
      cases hParent : parent m.grow m.energyFlowRequest (j :: place) with
      | none => simp
      | some ref =>
          cases ref with
          | live above =>
              obtain rfl := parent_eq_live m.grow hParent
              cases createOffer m sold above <;> simp
          | dangling above => simp

/-- A broker acts at an EVSE of the tree itself. -/
def AtEvse (m : Market) (broker : Broker m.globals) : Prop :=
  ∃ place, IsEvse m.energyFlowRequest place ∧ broker.localMarket = .live place

/-- The way from each EVSE to the root is live. -/
def EvseWaysLive (m : Market) : Prop :=
  ∀ place, IsEvse m.energyFlowRequest place → WayLive m.grow m.energyFlowRequest place

/-- An EVSE right below the root has a way of a single step, which cannot dangle. -/
theorem evseWaysLive_of_flat {m : Market}
    (hFlat : ∀ place, IsEvse m.energyFlowRequest place → place.length ≤ 1) : EvseWaysLive m :=
  fun place hEvse => wayLive_of_length_le_one m.grow (hFlat place hEvse)

/-- In a flat tree all brokers stand at EVSEs. -/
theorem atEvse_openMarket {m : Market}
    (hFlat : ∀ place, IsEvse m.energyFlowRequest place → place.length ≤ 1) :
    ∀ broker ∈ (openMarket m).brokers, AtEvse m broker := by
  intro broker hBroker
  obtain ⟨ref, hRef, rfl⟩ := List.mem_map.mp hBroker
  obtain ⟨place, hEvse, rfl⟩ := mem_getListOfEvses.mp hRef
  exact ⟨place, hEvse, if_pos (hFlat place hEvse)⟩

/-- A trade is defined if the broker exists, its reference is live, and the way to the root is. -/
theorem brokerStep_isSome {m : Market} {state : TradingState m.globals} {k : ℕ}
    {broker : Broker m.globals} {place : Place} (hBroker : state.brokers[k]? = some broker)
    (hLive : broker.localMarket = .live place)
    (hPlace : (m.energyFlowRequest.subtree? place).isSome)
    (hWay : WayLive m.grow m.energyFlowRequest place) : (brokerStep m state k).isSome := by
  obtain ⟨offer, hOffer⟩ :=
    Option.isSome_iff_exists.mp ((createOffer_isSome_iff state.sold hPlace).mpr hWay)
  have hTrade : trade m.grow m.energyFlowRequest (brokerSchedule m broker offer) place state.sold =
      some (book (brokerSchedule m broker offer) place state.sold) := by
    refine trade_of_parents m.grow (fun i => ?_) hWay state.sold
    exact (tradeSlot_entered m.globals m.nominalAcVoltage offer (broker.firstTrade i) i).phases
  unfold brokerSchedule at hTrade
  rw [brokerStep, Option.isSome_map, brokerTrade, hBroker]
  simp only [Option.bind_eq_bind, Option.bind_some, hLive, hOffer, hTrade]
  rfl

/-- Brokers stay at their market places. -/
theorem brokerStep_localMarkets {m : Market} {state next : TradingState m.globals} {k : ℕ}
    (h : brokerStep m state k = some next) :
    next.brokers.map Broker.localMarket = state.brokers.map Broker.localMarket := by
  obtain ⟨traded, hTrade⟩ := brokerStep_eq_some.mp h
  obtain ⟨broker, place, offer, hBroker, -, -, -, -, hBrokers⟩ := brokerTrade_eq_some hTrade
  have hSame : (state.brokers.map Broker.localMarket)[k]? = some broker.localMarket := by
    rw [List.getElem?_map, hBroker]
    rfl
  obtain ⟨hk, hEq⟩ := List.getElem?_eq_some_iff.mp hSame
  rw [hBrokers, List.map_set]
  change (state.brokers.map Broker.localMarket).set k broker.localMarket = _
  rw [← hEq]
  exact List.set_getElem_self hk

/-- Trading does not move the brokers. -/
theorem run_localMarkets {m : Market} {start state : TradingState m.globals} {calls : List ℕ}
    (hRun : run? (brokerStep m) start calls = some state) :
    state.brokers.map Broker.localMarket = start.brokers.map Broker.localMarket :=
  run?_invariant
    (fun _ state => state.brokers.map Broker.localMarket = start.brokers.map Broker.localMarket) rfl
    (fun _ _ _ _ hSame hStep => (brokerStep_localMarkets hStep).trans hSame) hRun

/-- The brokers whose turn it was, when the loop has ended with a counter. -/
def optimizerCalls (m : Market) (counter : ℤ) : List ℕ :=
  (List.replicate (maxNumberOfTradingRounds - counter.toNat)
    (List.range (openMarket m).brokers.length)).flatten

/-- The optimizer is a run of trades. -/
theorem run_optimizerCalls {m : Market} {counter : ℤ} {state : TradingState m.globals}
    (h : runOptimizer m = some (counter, state)) :
    run? (brokerStep m) (openMarket m) (optimizerCalls m counter) = some state := by
  let count := (openMarket m).brokers.length
  have hRounds : ∀ state active next, state.brokers.length = count →
      tradingRound m state = some (active, next) →
      run? (brokerStep m) state (List.range count) = some next ∧ next.brokers.length = count := by
    intro state active next hCount hRound
    have hRun : run? (brokerStep m) state (List.range state.brokers.length) = some next :=
      (run?_eq_some_iff_round? (brokerTrade m)).mpr ⟨active, hRound⟩
    have hLength := congrArg List.length (run_localMarkets hRun)
    simp only [List.length_map] at hLength
    exact ⟨hCount ▸ hRun, hLength.trans hCount⟩
  exact run?_of_rounds? hRounds h rfl

/-- Where the ways from the EVSEs to the root are live, brokers at EVSEs can trade in any
order. -/
theorem run_brokerStep_isSome {m : Market} (hWays : EvseWaysLive m)
    (start : TradingState m.globals) (hBrokers : ∀ broker ∈ start.brokers, AtEvse m broker)
    {calls : List ℕ} (hCalls : ∀ k ∈ calls, k < start.brokers.length) :
    ∃ state, run? (brokerStep m) start calls = some state := by
  induction calls using List.reverseRecOn with
  | nil => exact ⟨start, rfl⟩
  | append_singleton calls k ih =>
      obtain ⟨state, hRun⟩ := ih fun k' h => hCalls k' (by simp [h])
      have hSame := run_localMarkets hRun
      have hk := hCalls k (by simp)
      have hLength : k < state.brokers.length := by
        have hLengths := congrArg List.length hSame
        simp only [List.length_map] at hLengths
        omega
      have hMarket : state.brokers[k].localMarket = start.brokers[k].localMarket := by
        have hAt := congrArg (fun l : List MarketRef => l[k]?) hSame
        simpa [hLength, hk] using hAt
      obtain ⟨place, hEvse, hLive⟩ := hBrokers _ (List.getElem_mem hk)
      obtain ⟨next, hNext⟩ := Option.isSome_iff_exists.mp
        (brokerStep_isSome (List.getElem?_eq_getElem hLength) (hMarket.trans hLive)
          hEvse.subtree?_isSome (hWays place hEvse))
      exact ⟨next, (run?_snoc_eq_some _).mpr ⟨state, hRun, hNext⟩⟩

/-- Conversely, where a broker at an EVSE can trade, the way from there is live. -/
theorem wayLive_of_brokerStep {m : Market} {state next : TradingState m.globals} {k : ℕ}
    {broker : Broker m.globals} {place : Place} (hBroker : state.brokers[k]? = some broker)
    (hLive : broker.localMarket = .live place)
    (hPlace : (m.energyFlowRequest.subtree? place).isSome)
    (hStep : brokerStep m state k = some next) : WayLive m.grow m.energyFlowRequest place := by
  obtain ⟨traded, hTrade⟩ := brokerStep_eq_some.mp hStep
  obtain ⟨broker', place', offer, hBroker', hLive', hOffer, -⟩ := brokerTrade_eq_some hTrade
  cases hBroker.symm.trans hBroker'
  cases hLive.symm.trans hLive'
  exact (createOffer_isSome_iff state.sold hPlace).mp (by rw [hOffer]; rfl)

end EverestCore.Energy
