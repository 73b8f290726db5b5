import EverestCore.Energy.OfferLimits
import Mathlib.Tactic.Linarith
import Mathlib.Tactic.Positivity

/-! No fuse is oversold. Both directions are treated alike: an amount counts as
positive in the direction in which it is traded, and what is sold in one
direction does not make room in the other. -/
namespace EverestCore.Energy
open Data Machine

/-- Limits as the type of requests demands them. -/
structure LimitsReq.WellFormed (l : LimitsReq) : Prop where
  totalPowerW : ∀ watt, l.totalPowerW = some watt → 0 ≤ watt
  acMaxCurrentA : ∀ ampere, l.acMaxCurrentA = some ampere → 0 ≤ ampere
  acMaxPhaseCount : ∀ count, l.acMaxPhaseCount = some count → 1 ≤ count

instance (l : LimitsReq) : Decidable l.WellFormed :=
  decidable_of_iff
    ((∀ watt ∈ l.totalPowerW, 0 ≤ watt) ∧ (∀ ampere ∈ l.acMaxCurrentA, 0 ≤ ampere) ∧
      ∀ count ∈ l.acMaxPhaseCount, 1 ≤ count)
    ⟨fun h => ⟨h.1, h.2.1, h.2.2⟩, fun h => ⟨h.1, h.2, h.3⟩⟩

structure ScheduleReqEntry.WellFormed (e : ScheduleReqEntry) : Prop where
  limitsToRoot : e.limitsToRoot.WellFormed
  limitsToLeaves : e.limitsToLeaves.WellFormed
  conversionEfficiency : ∀ efficiency, e.conversionEfficiency = some efficiency → 0 ≤ efficiency

instance (e : ScheduleReqEntry) : Decidable e.WellFormed :=
  decidable_of_iff
    (e.limitsToRoot.WellFormed ∧ e.limitsToLeaves.WellFormed ∧
      ∀ efficiency ∈ e.conversionEfficiency, 0 ≤ efficiency)
    ⟨fun h => ⟨h.1, h.2.1, h.2.2⟩, fun h => ⟨h.1, h.2, h.3⟩⟩

structure RequestNode.WellFormed (node : RequestNode) : Prop where
  scheduleImport : ∀ entries, node.scheduleImport = some entries →
    ∀ e ∈ entries, e.WellFormed
  scheduleExport : ∀ entries, node.scheduleExport = some entries →
    ∀ e ∈ entries, e.WellFormed

instance (node : RequestNode) : Decidable node.WellFormed :=
  decidable_of_iff
    ((∀ entries ∈ node.scheduleImport, ∀ e ∈ entries, e.WellFormed) ∧
      ∀ entries ∈ node.scheduleExport, ∀ e ∈ entries, e.WellFormed)
    ⟨fun h => ⟨h.1, h.2⟩, fun h => ⟨h.1, h.2⟩⟩

structure Market.WellFormed (m : Market) : Prop where
  nodes : ∀ place node, m.node? place = some node → node.WellFormed
  sliceAmpere : 0 < m.globals.sliceAmpere
  sliceWatt : 0 < m.globals.sliceWatt
  nominalAcVoltage : 0 < m.nominalAcVoltage

instance (m : Market) : Decidable m.WellFormed :=
  decidable_of_iff
    ((∀ visit ∈ m.energyFlowRequest.walk [], visit.2.WellFormed) ∧ 0 < m.globals.sliceAmpere ∧
      0 < m.globals.sliceWatt ∧ 0 < m.nominalAcVoltage)
    ⟨fun h => ⟨fun place node hNode => h.1 (place, node) (mem_walk_root.mpr hNode),
        h.2.1, h.2.2.1, h.2.2.2⟩,
      fun h => ⟨fun visit hVisit => h.nodes visit.1 visit.2 (mem_walk_root.mp hVisit),
        h.2, h.3, h.4⟩⟩

/-- What a market needs on which every current is limited. -/
structure Market.CurrentWellFormed (m : Market) : Prop where
  nodes : ∀ place node, m.node? place = some node → node.WellFormed
  sliceAmpere : 0 < m.globals.sliceAmpere
  nominalAcVoltage : 0 < m.nominalAcVoltage

/-- Where only currents are traded, the slice for powers does not matter. -/
theorem Market.WellFormed.current {m : Market} (hMarket : m.WellFormed) : m.CurrentWellFormed :=
  ⟨hMarket.nodes, hMarket.sliceAmpere, hMarket.nominalAcVoltage⟩

/-- What a node allows in a direction. -/
def maxSide (g : Globals) (node : RequestNode) (isImport : Bool) (i : Slot g) : LimitsReq :=
  if isImport then (importMaxAvailable g node i).limitsToRoot
  else (exportMaxAvailable g node i).limitsToRoot

/-! The limits of a market place are well formed. -/

/-- What is found for a slot is an entry of the schedule, so that it has all properties that the
entries have. -/
theorem mem_of_findEntry {time : ℤ} {isFirst : Bool} {request : List ScheduleReqEntry}
    {r : ScheduleReqEntry} (h : findEntry time isFirst request = some r) : r ∈ request := by
  induction request generalizing isFirst with
  | nil => cases h
  | cons e rest ih =>
      cases rest with
      | nil =>
          cases h
          exact List.mem_singleton_self _
      | cons next rest =>
          rw [findEntry] at h
          split_ifs at h
          · cases h
            exact List.mem_cons_self
          · exact List.mem_cons_of_mem _ (ih h)

/-- Every slot finds an entry, unless the schedule is empty. -/
theorem findEntry_isSome (time : ℤ) (isFirst : Bool) {request : List ScheduleReqEntry}
    (hSome : request ≠ []) : ∃ e, findEntry time isFirst request = some e := by
  induction request generalizing isFirst with
  | nil => exact absurd rfl hSome
  | cons e rest ih =>
      cases rest with
      | nil => exact ⟨e, rfl⟩
      | cons next rest =>
          rw [findEntry]
          split_ifs
          · exact ⟨e, rfl⟩
          · exact ih false (List.cons_ne_nil _ _)

/-- Merging both sides of an entry does not make a limit negative. -/
theorem lowerToRoot_nonneg {efficiency : ℚ} {leaf root : Option ℚ} {x : ℚ}
    (hEfficiency : 0 ≤ efficiency) (hLeaf : ∀ y, leaf = some y → 0 ≤ y)
    (hRoot : ∀ y, root = some y → 0 ≤ y)
    (h : lowerToRoot root (leafToRoot efficiency leaf none) = some x) : 0 ≤ x := by
  cases leaf with
  | none => cases root <;> cases h
  | some y =>
      have hDiv : 0 ≤ y / efficiency := div_nonneg (hLeaf y rfl) hEfficiency
      cases root with
      | none =>
          cases h
          exact hDiv
      | some z =>
          simp only [lowerToRoot, leafToRoot] at h
          split_ifs at h
          · exact hRoot x h
          · cases h
            exact hDiv

/-- The limits of a slot are as well formed as the entry that they come from. -/
theorem mergeLimits_wellFormed {g : Globals} {i : Slot g} {r : ScheduleReqEntry}
    (h : r.WellFormed) : (mergeLimits r (emptyScheduleReq g i)).limitsToRoot.WellFormed := by
  have hEfficiency : 0 ≤ r.conversionEfficiency.getD 1 := by
    cases hSome : r.conversionEfficiency with
    | none => exact zero_le_one
    | some efficiency => exact h.conversionEfficiency efficiency hSome
  exact ⟨fun _ => lowerToRoot_nonneg hEfficiency h.limitsToLeaves.totalPowerW
      h.limitsToRoot.totalPowerW,
    fun _ => lowerToRoot_nonneg hEfficiency h.limitsToLeaves.acMaxCurrentA
      h.limitsToRoot.acMaxCurrentA,
    h.limitsToRoot.acMaxPhaseCount⟩

/-- Whatever slot is looked at, its limits are well formed. -/
theorem maxAvailable_wellFormed {g : Globals} {schedule : Option (List ScheduleReqEntry)}
    (h : ∀ entries, schedule = some entries → ∀ e ∈ entries, e.WellFormed) (i : Slot g) :
    (maxAvailable g schedule i).limitsToRoot.WellFormed := by
  cases schedule with
  | none => constructor <;> simp [maxAvailable, zeroScheduleReq]
  | some request =>
      simp only [maxAvailable, getMaxAvailableEnergy]
      cases hFound : findEntry (g.timestamps.get i) true request with
      | none => constructor <;> simp [emptyScheduleReq]
      | some r => exact mergeLimits_wellFormed (h request rfl r (mem_of_findEntry hFound))

/-- Imports and exports are looked up in the same way. -/
theorem maxSide_wellFormed {g : Globals} {node : RequestNode} (h : node.WellFormed)
    (isImport : Bool) (i : Slot g) : (maxSide g node isImport i).WellFormed := by
  cases isImport
  · exact maxAvailable_wellFormed h.scheduleExport i
  · exact maxAvailable_wellFormed h.scheduleImport i

/-! What is left at a market place. -/

/-- Cutting off at zero what is added is taking away no less than zero. -/
theorem add_cutOff (x y : ℚ) : x + (if y > 0 then 0 else y) = x - max (-y) 0 := by
  split_ifs with hPos
  · rw [max_eq_right (by linarith), add_zero, sub_zero]
  · rw [max_eq_left (by linarith), sub_neg_eq_add]

/-- The current that is left is the limit without what was sold in this direction. What was sold in
the other one does not add to it. -/
theorem getAvailableEnergy_acMaxCurrentA (a : ScheduleReqEntry) (sold : ScheduleResEntry)
    (isImport : Bool) :
    (getAvailableEnergy a sold (!isImport)).limitsToRoot.acMaxCurrentA =
      a.limitsToRoot.acMaxCurrentA.map (· - max (sign isImport * soldCurrent sold) 0) := by
  simp only [getAvailableEnergy, add_cutOff, soldCurrent]
  cases isImport <;> simp [sign]

/-- The power that is left, with the same rule as the current. -/
theorem getAvailableEnergy_totalPowerW (a : ScheduleReqEntry) (sold : ScheduleResEntry)
    (isImport : Bool) :
    (getAvailableEnergy a sold (!isImport)).limitsToRoot.totalPowerW =
      a.limitsToRoot.totalPowerW.map (· - max (sign isImport * soldPower sold) 0) := by
  simp only [getAvailableEnergy, add_cutOff, soldPower]
  cases isImport <;> simp [sign]

/-- A unit in which a market place is limited and accounted for. -/
structure IsUnit (limit : LimitsReq → Option ℚ) (amount : ScheduleResEntry → ℚ) : Prop where
  smaller : IsSmallerLimit limit
  nonneg : ∀ l : LimitsReq, l.WellFormed → ∀ x, limit l = some x → 0 ≤ x
  empty : ∀ timestamp, amount { timestamp := timestamp } = 0
  available : ∀ (a : ScheduleReqEntry) (sold : ScheduleResEntry) (isImport : Bool),
    limit (getAvailableEnergy a sold (!isImport)).limitsToRoot =
      (limit a.limitsToRoot).map (· - max (sign isImport * amount sold) 0)
  add : ∀ a b, amount (addLimits a b) = amount a + amount b

/-- Currents are one of the two units in which the ledger is kept. -/
theorem isUnit_current : IsUnit LimitsReq.acMaxCurrentA soldCurrent where
  smaller := isSmallerLimit_acMaxCurrentA
  nonneg _ h := h.acMaxCurrentA
  empty _ := rfl
  available := getAvailableEnergy_acMaxCurrentA
  add := soldCurrent_addLimits

/-- Powers are the other unit. -/
theorem isUnit_power : IsUnit LimitsReq.totalPowerW soldPower where
  smaller := isSmallerLimit_totalPowerW
  nonneg _ h := h.totalPowerW
  empty _ := rfl
  available := getAvailableEnergy_totalPowerW
  add := soldPower_addLimits

/-- No limit of a node is exceeded, in either direction. -/
def WithinLimits (m : Market) (limit : LimitsReq → Option ℚ) (amount : ScheduleResEntry → ℚ)
    (sold : Ledger m.globals) : Prop :=
  ∀ place node, m.node? place = some node → ∀ (i : m.Slot) (isImport : Bool) (x : ℚ),
    limit (maxSide m.globals node isImport i) = some x → sign isImport * amount (sold place i) ≤ x

section Unit

variable {limit : LimitsReq → Option ℚ} {amount : ScheduleResEntry → ℚ}
  (hUnit : IsUnit limit amount)

include hUnit

/-- What is left at a market place, for any of the units. -/
theorem limit_available (g : Globals) (node : RequestNode) (sold : Slot g → ScheduleResEntry)
    (isImport : Bool) (i : Slot g) :
    limit (available g node sold isImport i) =
      (limit (maxSide g node isImport i)).map (· - max (sign isImport * amount (sold i)) 0) := by
  cases isImport
  · exact hUnit.available _ _ false
  · exact hUnit.available _ _ true

/-- Nothing was sold at first, and no limit is negative. -/
theorem withinLimits_empty {m : Market} (hMarket : m.CurrentWellFormed) :
    WithinLimits m limit amount (emptyLedger m.globals) := by
  intro place node hNode i isImport x hx
  have hZero : amount (emptyLedger m.globals place i) = 0 := hUnit.empty _
  rw [hZero, mul_zero]
  exact hUnit.nonneg _ (maxSide_wellFormed (hMarket.nodes place node hNode) isImport i) x hx

/-- An offer is never negative. -/
theorem offer_nonneg {m : Market} (hMarket : m.CurrentWellFormed) {sold : Ledger m.globals}
    (hWithin : WithinLimits m limit amount sold) {place : Place} {offer : Offer m.globals}
    (hOffer : createOffer m sold place = some offer) {isImport : Bool} {i : m.Slot} {o : ℚ}
    (ho : limit (offer.side isImport i) = some o) : 0 ≤ o := by
  obtain ⟨above, node, -, hNode, hAvailable⟩ := createOffer_attained hUnit.smaller hOffer ho
  rw [limit_available hUnit, Option.map_eq_some_iff] at hAvailable
  obtain ⟨x, hx, rfl⟩ := hAvailable
  have hSold := hWithin above node hNode i isImport x hx
  have hMax := hUnit.nonneg _ (maxSide_wellFormed (hMarket.nodes above node hNode) isImport i) x hx
  rw [sub_nonneg]
  exact max_le hSold hMax

/-- A purchase within the offer keeps the limits of a market place on the way. -/
theorem limit_after_purchase {m : Market} {sold : Ledger m.globals}
    (hWithin : WithinLimits m limit amount sold) {place above : Place} {offer : Offer m.globals}
    (hOffer : createOffer m sold place = some offer) (hAbove : above <:+ place)
    {node : RequestNode} (hNode : m.node? above = some node) {i : m.Slot} {bought : Bool} {a : ℚ}
    (ha : 0 ≤ a) (hRoom : ∀ o, limit (offer.side bought i) = some o → a ≤ o) (isImport : Bool)
    {x : ℚ} (hx : limit (maxSide m.globals node isImport i) = some x) :
    sign isImport * (amount (sold above i) + sign bought * a) ≤ x := by
  have hSold := hWithin above node hNode i isImport x hx
  by_cases hSame : isImport = bought
  · subst hSame
    have hStricter := createOffer_stricter hUnit.smaller hOffer hAbove hNode isImport i
    rw [limit_available hUnit, hx] at hStricter
    obtain ⟨o, ho, hLe⟩ := hStricter _ rfl
    have hMax := le_max_left (sign isImport * amount (sold above i)) 0
    have hFits := hRoom o ho
    rw [mul_add, sign_mul_self]
    linarith
  · have hOther : sign isImport * (sign bought * a) = -a := by
      cases isImport <;> cases bought <;> simp_all [sign]
    rw [mul_add, hOther]
    linarith

/-- A trade that fits into the offer of a slot: an amount in one direction, not
above the limit that the offer has there. -/
def Fits {g : Globals} (limit : LimitsReq → Option ℚ) (offer : Offer g) (i : Slot g) (v : ℚ) :
    Prop :=
  ∃ bought a, v = sign bought * a ∧ 0 ≤ a ∧ ∀ o, limit (offer.side bought i) = some o → a ≤ o

/-- A purchase that fits into its offer stays within the limits of all market places on the way to
the root. The offer has looked at each of them. -/
theorem withinLimits_book {m : Market} {sold : Ledger m.globals}
    (hWithin : WithinLimits m limit amount sold) {place : Place} {offer : Offer m.globals}
    (hOffer : createOffer m sold place = some offer) {traded : m.Slot → ScheduleResEntry}
    (hFits : ∀ i, Fits limit offer i (amount (traded i))) :
    WithinLimits m limit amount (book traded place sold) := by
  intro above node hNode i isImport x hx
  by_cases hAbove : above <:+ place
  · obtain ⟨bought, a, hAmount, ha, hRoom⟩ := hFits i
    have hBooked : amount (book traded place sold above i) =
        amount (sold above i) + sign bought * a := by
      rw [book, if_pos hAbove, hUnit.add, hAmount]
    rw [hBooked]
    exact limit_after_purchase hUnit hWithin hOffer hAbove hNode ha hRoom isImport hx
  · rw [book, if_neg hAbove]
    exact hWithin above node hNode i isImport x hx

end Unit

/-! What a broker buys fits into its offer. -/

/-- An offer is for one phase at least. -/
theorem phases_pos {offer : LimitsReq} (hOffer : offer.WellFormed) :
    (0 : ℚ) < (offer.acMaxPhaseCount.getD 1 : ℤ) := by
  have hCount : 1 ≤ offer.acMaxPhaseCount.getD 1 := by
    cases hSome : offer.acMaxPhaseCount with
    | none => exact le_rfl
    | some count => exact hOffer.acMaxPhaseCount count hSome
  exact_mod_cast Int.lt_of_lt_of_le zero_lt_one hCount

/-- The power of a current is not negative, and neither factor is. -/
theorem acPower_nonneg {voltage : ℚ} {offer : LimitsReq} (hVoltage : 0 < voltage)
    (hOffer : offer.WellFormed) {a : ℚ} (ha : 0 ≤ a) : 0 ≤ acPower voltage offer a := by
  have hPhases := phases_pos hOffer
  rw [acPower]
  positivity

/-- There is enough power for a current where no power is offered as a limit, or one that is as
high. -/
theorem enoughPower_iff {voltage : ℚ} {offer : LimitsReq} {a : ℚ} :
    enoughPower voltage offer a = true ↔
      ∀ watt, offer.totalPowerW = some watt → acPower voltage offer a ≤ watt := by
  rw [enoughPower]
  cases offer.totalPowerW with
  | none => simp
  | some watt => simp

/-- A broker does not begin with nothing. -/
theorem firstAmount_pos {offer : LimitsReq} {firstTrade : Bool} {a : ℚ}
    (h : firstAmount offer firstTrade = some a) : 0 < a := by
  unfold firstAmount at h
  split_ifs at h
  exact of_decide_eq_true (Option.filter_eq_some_iff.mp h).2

/-- Where the power is not enough for the whole current, the reduced one is
smaller and uses up the power. -/
theorem reducedAmpere_fits {voltage : ℚ} {offer : LimitsReq} (hVoltage : 0 < voltage)
    (hOffer : offer.WellFormed) {maxCurrent : ℚ}
    (hShort : ¬ enoughPower voltage offer maxCurrent = true) :
    0 ≤ reducedAmpere voltage offer ∧ reducedAmpere voltage offer ≤ maxCurrent ∧
      enoughPower voltage offer (reducedAmpere voltage offer) = true := by
  have hPhases := phases_pos hOffer
  rw [enoughPower_iff] at hShort
  simp only [not_forall, not_le] at hShort
  obtain ⟨watt, hWatt, hLess⟩ := hShort
  have hReduced : reducedAmpere voltage offer =
      watt / (offer.acMaxPhaseCount.getD 1 : ℤ) / voltage := by
    rw [reducedAmpere, hWatt, Option.getD_some]
  have hNonneg := hOffer.totalPowerW watt hWatt
  rw [enoughPower_iff, hReduced]
  refine ⟨by positivity, ?_, ?_⟩
  · rw [div_le_iff₀ hVoltage, div_le_iff₀ hPhases]
    unfold acPower at hLess
    linarith
  · intro watt' hWatt'
    rw [hWatt] at hWatt'
    cases hWatt'
    rw [acPower]
    rw [div_mul_eq_mul_div, div_mul_cancel₀ _ hVoltage.ne', div_mul_cancel₀ _ hPhases.ne']

/-- What a broker decides for is not more than what it was offered, in either unit. -/
theorem purchaseAmount_fits {voltage : ℚ} {offer : LimitsReq} {g : Globals} {firstTrade : Bool}
    {a : ℚ} (hVoltage : 0 < voltage) (hSliceAmpere : 0 < g.sliceAmpere)
    (hSliceWatt : offer.acMaxCurrentA = none → 0 < g.sliceWatt) (hOffer : offer.WellFormed)
    (h : purchaseAmount voltage offer g firstTrade = some a) :
    0 ≤ a ∧ ∀ c, offer.acMaxCurrentA = some c → a ≤ c ∧ enoughPower voltage offer a = true := by
  unfold purchaseAmount at h
  cases hCurrent : offer.acMaxCurrentA with
  | some maxCurrent =>
      have hMax := hOffer.acMaxCurrentA maxCurrent hCurrent
      suffices hFits : 0 ≤ a ∧ a ≤ maxCurrent ∧ enoughPower voltage offer a = true by
        refine ⟨hFits.1, fun c hc => ?_⟩
        cases hc
        exact hFits.2
      simp only [hCurrent] at h
      cases hFirst : firstAmount offer firstTrade with
      | some minCurrent =>
          simp only [hFirst] at h
          split_ifs at h with hEnough
          cases h
          exact ⟨(firstAmount_pos hFirst).le, hEnough⟩
      | none =>
          simp only [hFirst] at h
          split_ifs at h with hEnough hLeft hAll
          · cases h
            exact ⟨hSliceAmpere.le, hEnough⟩
          · cases h
            exact ⟨hMax, le_rfl, hAll⟩
          · cases h
            exact reducedAmpere_fits hVoltage hOffer hAll
  | none =>
      simp only [hCurrent] at h
      refine ⟨?_, fun c hc => by cases hc⟩
      cases hPower : offer.totalPowerW with
      | none => simp [hPower] at h
      | some totalPower =>
          simp only [hPower] at h
          split_ifs at h with hEnough hLeft
          · cases h
            exact (hSliceWatt hCurrent).le
          · cases h
            exact hLeft.le

/-- A purchase in a slot is of the direction that the strategy has chosen, and that was possible. -/
theorem slotPurchase_eq_some {g : Globals} {voltage : ℚ} {offer : Offer g} {firstTrade : Bool}
    {i : Slot g} {isImport : Bool} {a : ℚ}
    (h : slotPurchase g voltage offer firstTrade i = some (isImport, a)) :
    canTrade (offer.side isImport i) = true ∧
      (isImport = false → canTrade (offer.side true i) = false) ∧
      purchaseAmount voltage (offer.side isImport i) g firstTrade = some a := by
  unfold slotPurchase at h
  split_ifs at h with hImport hExport
  · obtain ⟨_, hAmount, hEq⟩ := Option.map_eq_some_iff.mp h
    cases hEq
    exact ⟨hImport, by simp, hAmount⟩
  · obtain ⟨_, hAmount, hEq⟩ := Option.map_eq_some_iff.mp h
    cases hEq
    exact ⟨hExport, fun _ => by simpa using hImport, hAmount⟩

/-- Both units of the ledger are within the limits. -/
structure FusesHold (m : Market) (sold : Ledger m.globals) : Prop where
  current : WithinLimits m LimitsReq.acMaxCurrentA soldCurrent sold
  power : WithinLimits m LimitsReq.totalPowerW soldPower sold

section Trade

variable {m : Market} (hMarket : m.CurrentWellFormed) {sold : Ledger m.globals}
  (hFuses : FusesHold m sold) {place : Place} {offer : Offer m.globals}
  (hOffer : createOffer m sold place = some offer)

include hMarket hFuses hOffer

/-- An offer is made of well-formed limits, step by step on its way down. -/
theorem offer_wellFormed (isImport : Bool) (i : m.Slot) :
    (offer.side isImport i).WellFormed where
  totalPowerW _ := offer_nonneg isUnit_power hMarket hFuses.power hOffer
  acMaxCurrentA _ := offer_nonneg isUnit_current hMarket hFuses.current hOffer
  acMaxPhaseCount count hCount := by
    obtain ⟨above, node, -, hNode, hAvailable⟩ :=
      createOffer_attained isSmallerLimit_acMaxPhaseCount hOffer hCount
    have hNodes := hMarket.nodes above node hNode
    cases isImport
    · exact (maxSide_wellFormed hNodes false i).acMaxPhaseCount count hAvailable
    · exact (maxSide_wellFormed hNodes true i).acMaxPhaseCount count hAvailable

variable {broker : Broker m.globals}
  -- The slices of power only matter where nothing else is limited.
  (hWatt : ∀ i isImport a, brokerPurchase m broker offer i = some (isImport, a) →
    (offer.side isImport i).acMaxCurrentA = none → 0 < m.globals.sliceWatt)

include hWatt

/-- What a purchase in a slot amounts to. -/
theorem brokerPurchase_fits {i : m.Slot} {isImport : Bool} {a : ℚ}
    (h : brokerPurchase m broker offer i = some (isImport, a)) :
    0 ≤ a ∧ ∀ c, (offer.side isImport i).acMaxCurrentA = some c →
      a ≤ c ∧ enoughPower m.nominalAcVoltage (offer.side isImport i) a = true :=
  purchaseAmount_fits hMarket.nominalAcVoltage hMarket.sliceAmpere (hWatt i isImport a h)
    (offer_wellFormed hMarket hFuses hOffer isImport i) (slotPurchase_eq_some h).2.2

/-- The currents of a purchase fit into the offer. -/
theorem brokerSchedule_fits_current (i : m.Slot) :
    Fits LimitsReq.acMaxCurrentA offer i (soldCurrent (brokerSchedule m broker offer i)) := by
  rw [soldCurrent_brokerSchedule]
  cases hPurchase : brokerPurchase m broker offer i with
  | none =>
      exact ⟨true, 0, (mul_zero _).symm, le_rfl,
        (offer_wellFormed hMarket hFuses hOffer true i).acMaxCurrentA⟩
  | some purchase =>
      obtain ⟨isImport, a⟩ := purchase
      obtain ⟨ha, hRoom⟩ := brokerPurchase_fits hMarket hFuses hOffer hWatt hPurchase
      exact ⟨isImport, a, rfl, ha, fun c hc => (hRoom c hc).1⟩

/-- The powers of a purchase fit into the offer. -/
theorem brokerSchedule_fits_power (i : m.Slot) :
    Fits LimitsReq.totalPowerW offer i (soldPower (brokerSchedule m broker offer i)) := by
  have hNothing (isImport : Bool) : Fits LimitsReq.totalPowerW offer i 0 :=
    ⟨isImport, 0, (mul_zero _).symm, le_rfl,
      (offer_wellFormed hMarket hFuses hOffer isImport i).totalPowerW⟩
  rw [soldPower_brokerSchedule]
  cases hPurchase : brokerPurchase m broker offer i with
  | none => exact hNothing true
  | some purchase =>
      obtain ⟨isImport, a⟩ := purchase
      obtain ⟨ha, hRoom⟩ := brokerPurchase_fits hMarket hFuses hOffer hWatt hPurchase
      simp only [purchasedPower, enteredPower]
      split_ifs with hBoth
      · obtain ⟨c, hc⟩ := Option.isSome_iff_exists.mp hBoth.1
        refine ⟨isImport, acPower m.nominalAcVoltage (offer.side isImport i) a, ?_, ?_, ?_⟩
        · simp only [acPower, mul_assoc]
        · exact acPower_nonneg hMarket.nominalAcVoltage
            (offer_wellFormed hMarket hFuses hOffer isImport i) ha
        · exact enoughPower_iff.mp (hRoom c hc).2
      · exact hNothing isImport

/-- The step lemma for both units together. -/
theorem fusesHold_book :
    FusesHold m (book (brokerSchedule m broker offer) place sold) :=
  ⟨withinLimits_book isUnit_current hFuses.current hOffer
      (brokerSchedule_fits_current hMarket hFuses hOffer hWatt),
    withinLimits_book isUnit_power hFuses.power hOffer
      (brokerSchedule_fits_power hMarket hFuses hOffer hWatt)⟩

end Trade

/-- No fuse is oversold before the first trade. -/
theorem fusesHold_empty {m : Market} (hMarket : m.CurrentWellFormed) :
    FusesHold m (emptyLedger m.globals) :=
  ⟨withinLimits_empty isUnit_current hMarket, withinLimits_empty isUnit_power hMarket⟩

/-- A trade either buys nothing or books a purchase that fits. -/
theorem brokerTrade_fusesHold {m : Market} (hMarket : m.WellFormed)
    {state next : TradingState m.globals} {k : ℕ} {traded : Bool} (hFuses : FusesHold m state.sold)
    (hTrade : brokerTrade m state k = some (traded, next)) : FusesHold m next.sold := by
  obtain ⟨broker, place, offer, -, -, hOffer, -, hSold, -⟩ := brokerTrade_eq_some hTrade
  rw [hSold]
  exact fusesHold_book hMarket.current hFuses hOffer fun _ _ _ _ _ => hMarket.sliceWatt

/-- The run lemma: no fuse is oversold after any sequence of trades. -/
theorem run_fusesHold {m : Market} (hMarket : m.WellFormed) {brokers : List (Broker m.globals)}
    {calls : List ℕ} {state : TradingState m.globals}
    (hRun : run? (brokerStep m) ⟨emptyLedger m.globals, brokers⟩ calls = some state) :
    FusesHold m state.sold := by
  refine run?_invariant (fun _ state => FusesHold m state.sold)
    (fusesHold_empty hMarket.current) ?_ hRun
  intro _ k state next hFuses hStep
  obtain ⟨traded, hTrade⟩ := brokerStep_eq_some.mp hStep
  exact brokerTrade_fusesHold hMarket hFuses hTrade

/-- A node is within its limits in a slot: in both directions, and in both units. -/
structure NodeWithinLimits (m : Market) (sold : Ledger m.globals) (place : Place)
    (node : RequestNode) (i : m.Slot) : Prop where
  importCurrent : ∀ x, (importMaxAvailable m.globals node i).limitsToRoot.acMaxCurrentA = some x →
    soldCurrent (sold place i) ≤ x
  exportCurrent : ∀ x, (exportMaxAvailable m.globals node i).limitsToRoot.acMaxCurrentA = some x →
    -x ≤ soldCurrent (sold place i)
  importPower : ∀ x, (importMaxAvailable m.globals node i).limitsToRoot.totalPowerW = some x →
    soldPower (sold place i) ≤ x
  exportPower : ∀ x, (exportMaxAvailable m.globals node i).limitsToRoot.totalPowerW = some x →
    -x ≤ soldPower (sold place i)

/-- What the invariant says in terms of a single node, with the sold amounts in both directions. -/
theorem FusesHold.nodeWithinLimits {m : Market} {sold : Ledger m.globals}
    (hFuses : FusesHold m sold) {place : Place} {node : RequestNode}
    (hNode : m.node? place = some node) (i : m.Slot) : NodeWithinLimits m sold place node i where
  importCurrent x hx := by simpa [sign] using hFuses.current place node hNode i true x hx
  exportCurrent x hx := by
    have hSold := hFuses.current place node hNode i false x hx
    simp only [sign, Bool.false_eq_true, if_false] at hSold
    linarith
  importPower x hx := by simpa [sign] using hFuses.power place node hNode i true x hx
  exportPower x hx := by
    have hSold := hFuses.power place node hNode i false x hx
    simp only [sign, Bool.false_eq_true, if_false] at hSold
    linarith

/-- However many brokers trade at EVSEs of the tree, and in whatever order, their trades are
defined and leave every node within its limits in every slot. -/
def NeverOversold (m : Market) : Prop :=
  ∀ brokers : List (Broker m.globals), (∀ broker ∈ brokers, AtEvse m broker) →
    ∀ calls : List ℕ, (∀ k ∈ calls, k < brokers.length) →
      ∃ state, run? (brokerStep m) ⟨emptyLedger m.globals, brokers⟩ calls = some state ∧
        ∀ place node, m.node? place = some node → ∀ i : m.Slot,
          NodeWithinLimits m state.sold place node i

/-- Two EVSEs of sixteen amperes behind a fuse of ten. -/
def twoEvses : Market where
  globals := oneSlot
  nominalAcVoltage := 230
  energyFlowRequest :=
    let limit (ampere : ℚ) : Option (List ScheduleReqEntry) :=
      some [{ timestamp := 0, limitsToLeaves := { acMaxCurrentA := some ampere } }]
    .node { uuid := "grid", nodeType := .generic, scheduleImport := limit 10 }
      [.node { uuid := "left", nodeType := .evse, scheduleImport := limit 16 } [],
        .node { uuid := "right", nodeType := .evse, scheduleImport := limit 16 } []]
  grow := doubleCapacity

/-- The root has the two EVSEs as its children. -/
theorem twoEvses_flat (place : Place) (hEvse : IsEvse twoEvses.energyFlowRequest place) :
    place.length ≤ 1 := by
  have hAll : ∀ visit ∈ twoEvses.energyFlowRequest.walk [], visit.1.length ≤ 1 := by decide
  obtain ⟨node, hNode, -⟩ := hEvse
  exact hAll (place, node) (mem_walk_root.mpr hNode)

/-- No fuse is ever oversold exactly if no node between an EVSE and the root is moved by a
later growth of the vector that it is in. Trades go up by the addresses of the parents, and
after such a move the address is one of memory that was given back. -/
theorem fuses_never_oversold_iff (m : Market) (hMarket : m.WellFormed) :
    NeverOversold m ↔
      ∀ place, IsEvse m.energyFlowRequest place → ∀ j child above, j :: child :: above <:+ place →
        ¬ GrowsAfter m.grow (childCount m.energyFlowRequest above) child := by
  constructor
  · intro hNever place hEvse
    -- One broker at the EVSE, whose first trade is defined.
    let start : TradingState m.globals := ⟨emptyLedger m.globals, [⟨.live place, fun _ => true⟩]⟩
    have hAt : ∀ broker ∈ start.brokers, AtEvse m broker := by
      simpa [start] using ⟨place, hEvse, rfl⟩
    obtain ⟨state, hRun, -⟩ := hNever start.brokers hAt [0] (by simp [start])
    have hStep : brokerStep m start 0 = some state := by
      simpa [run?] using hRun
    rw [← wayLive_iff m.grow hEvse.subtree?_isSome]
    exact wayLive_of_brokerStep rfl rfl hEvse.subtree?_isSome hStep
  · intro hStays brokers hBrokers calls hCalls
    have hWays : EvseWaysLive m := fun place hEvse =>
      (wayLive_iff m.grow hEvse.subtree?_isSome).mpr (hStays place hEvse)
    obtain ⟨state, hRun⟩ :=
      run_brokerStep_isSome hWays ⟨emptyLedger m.globals, brokers⟩ hBrokers hCalls
    exact ⟨state, hRun, fun place node hNode i => (run_fusesHold hMarket hRun).nodeWithinLimits hNode i⟩

/-- Two EVSEs share a fuse of ten amperes, and buy in turns. -/
theorem fuses_never_oversold_two_evses :
    twoEvses.WellFormed ∧
      ∃ state, run? (brokerStep twoEvses) (openMarket twoEvses) [0, 1, 0] = some state ∧
        ∀ i : twoEvses.Slot, soldCurrent (state.sold [] i) ≤ 10 := by
  have hMarket : twoEvses.WellFormed := by decide
  have hNever : NeverOversold twoEvses := by
    refine (fuses_never_oversold_iff twoEvses hMarket).mpr fun place hEvse j child above hWay => ?_
    have hShort := hWay.length_le.trans (twoEvses_flat place hEvse)
    simp at hShort
  obtain ⟨state, hRun, hWithin⟩ := hNever _ (atEvse_openMarket twoEvses_flat) [0, 1, 0] (by decide)
  have hLimit : ∀ i : twoEvses.Slot,
      (importMaxAvailable twoEvses.globals twoEvses.energyFlowRequest.value i).limitsToRoot.acMaxCurrentA =
        some 10 := by
    decide +kernel
  exact ⟨hMarket, state, hRun, fun i => (hWithin [] _ rfl i).importCurrent 10 (hLimit i)⟩

/-- Two fuses with an EVSE each: the first is moved when the second is built. -/
def twoFuses : Market where
  globals := oneSlot
  nominalAcVoltage := 230
  energyFlowRequest :=
    let limit (ampere : ℚ) : Option (List ScheduleReqEntry) :=
      some [{ timestamp := 0, limitsToLeaves := { acMaxCurrentA := some ampere } }]
    .node { uuid := "grid", nodeType := .generic, scheduleImport := limit 16 }
      [.node { uuid := "fuse_a", nodeType := .generic, scheduleImport := limit 10 }
          [.node { uuid := "left", nodeType := .evse, scheduleImport := limit 16 } []],
        .node { uuid := "fuse_b", nodeType := .generic, scheduleImport := limit 10 }
          [.node { uuid := "right", nodeType := .evse, scheduleImport := limit 16 } []]]
  grow := doubleCapacity

/-- The first trade behind the first fuse goes up by the address that the fuse had before. -/
theorem fuses_oversold_behind_moved_fuse : twoFuses.WellFormed ∧ ¬ NeverOversold twoFuses := by
  refine ⟨by decide, fun hNever => ?_⟩
  let broker : Broker twoFuses.globals := ⟨.live [0, 0], fun _ => true⟩
  obtain ⟨state, hRun, -⟩ := hNever [broker]
    (by simpa [AtEvse, broker] using ⟨_, rfl, rfl⟩) [0] (by simp)
  have hStuck : (run? (brokerStep twoFuses) ⟨emptyLedger twoFuses.globals, [broker]⟩ [0]).isNone := by
    decide +kernel
  rw [hRun] at hStuck
  cases hStuck

end EverestCore.Energy
