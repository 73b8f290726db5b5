import EverestCore.Energy.Globals
import EverestCore.Energy.EnergyNode

/-! The limits of one market place: how a request is resampled to the time slots
of the market, and what is left of it after some energy has been sold. Every
schedule of the market has one entry for each slot. -/
namespace EverestCore.Energy
open Data

/-- The time slots of the market. -/
abbrev Slot (g : Globals) := Fin g.timestamps.length

def emptyScheduleReq (g : Globals) (i : Slot g) : ScheduleReqEntry :=
  { timestamp := g.timestamps.get i }

def zeroScheduleReq (g : Globals) (i : Slot g) : ScheduleReqEntry :=
  { timestamp := g.timestamps.get i, limitsToRoot := { acMaxCurrentA := some 0, totalPowerW := some 0 } }

def emptyScheduleRes (g : Globals) (i : Slot g) : ScheduleResEntry :=
  { timestamp := g.timestamps.get i }

/-- The search for the entry of a request that is valid at a time. `isFirst` tells
whether the search stands at the beginning of the request. -/
def findEntry (time : ℤ) (isFirst : Bool) : List ScheduleReqEntry → Option ScheduleReqEntry
  | [] => none
  | [e] => some e
  | e :: next :: rest =>
      if time ≥ e.timestamp ∧ time < next.timestamp ∨ isFirst ∧ time < e.timestamp then some e
      else findEntry time false (next :: rest)

/-- A limit of the leaf side, as it counts on the root side. -/
def leafToRoot (efficiency : ℚ) (leaf root : Option ℚ) : Option ℚ :=
  match leaf with
  | some limit => some (limit / efficiency)
  | none => root

/-- A lower limit of the root side replaces the one that is there. An absent one
compares as lower than any. -/
def lowerToRoot (limit merged : Option ℚ) : Option ℚ :=
  match limit, merged with
  | some limit, some value => if value > limit then some limit else some value
  | _, value => value

/-- Merge the limits of an entry on the root side, and copy what else it has. -/
def mergeLimits (r a : ScheduleReqEntry) : ScheduleReqEntry :=
  let efficiency := r.conversionEfficiency.getD 1
  { a with
    pricePerKwh := r.pricePerKwh
    limitsToRoot := { a.limitsToRoot with
      totalPowerW := lowerToRoot r.limitsToRoot.totalPowerW
        (leafToRoot efficiency r.limitsToLeaves.totalPowerW a.limitsToRoot.totalPowerW)
      acMaxCurrentA := lowerToRoot r.limitsToRoot.acMaxCurrentA
        (leafToRoot efficiency r.limitsToLeaves.acMaxCurrentA a.limitsToRoot.acMaxCurrentA)
      acMinCurrentA := r.limitsToRoot.acMinCurrentA
      acMinPhaseCount := r.limitsToRoot.acMinPhaseCount
      acMaxPhaseCount := r.limitsToRoot.acMaxPhaseCount } }

/-- `Market::get_max_available_energy`. -/
def getMaxAvailableEnergy (g : Globals) (request : List ScheduleReqEntry) (i : Slot g) :
    ScheduleReqEntry :=
  match findEntry (g.timestamps.get i) true request with
  | some r => mergeLimits r (emptyScheduleReq g i)
  | none => emptyScheduleReq g i

/-- What a direction of a node allows. Nothing is available where nothing was
requested. -/
def maxAvailable (g : Globals) (schedule : Option (List ScheduleReqEntry)) (i : Slot g) :
    ScheduleReqEntry :=
  match schedule with
  | some request => getMaxAvailableEnergy g request i
  | none => zeroScheduleReq g i

def importMaxAvailable (g : Globals) (node : RequestNode) : Slot g → ScheduleReqEntry :=
  maxAvailable g node.scheduleImport

def exportMaxAvailable (g : Globals) (node : RequestNode) : Slot g → ScheduleReqEntry :=
  maxAvailable g node.scheduleExport

/-- `Market::get_available_energy` in one slot. What was sold in the other
direction is not added to what is available. -/
def getAvailableEnergy (available : ScheduleReqEntry) (sold : ScheduleResEntry) (addSold : Bool) :
    ScheduleReqEntry :=
  let sign : ℚ := if addSold then 1 else -1
  let soldCurrent := sign * sold.limitsToRoot.acMaxCurrentA.getD 0
  let soldCurrent := if soldCurrent > 0 then 0 else soldCurrent
  let soldWatt := sign * sold.limitsToRoot.totalPowerW.getD 0
  let soldWatt := if soldWatt > 0 then 0 else soldWatt
  { available with limitsToRoot := { available.limitsToRoot with
      acMaxCurrentA := available.limitsToRoot.acMaxCurrentA.map (· + soldCurrent)
      totalPowerW := available.limitsToRoot.totalPowerW.map (· + soldWatt) } }

def getAvailableEnergyImport (g : Globals) (node : RequestNode)
    (sold : Slot g → ScheduleResEntry) (i : Slot g) : ScheduleReqEntry :=
  getAvailableEnergy (importMaxAvailable g node i) (sold i) false

def getAvailableEnergyExport (g : Globals) (node : RequestNode)
    (sold : Slot g → ScheduleResEntry) (i : Slot g) : ScheduleReqEntry :=
  getAvailableEnergy (exportMaxAvailable g node i) (sold i) true

/-! What is lost when limits are merged. -/

/-- The lower one of two limits, if both are there, and else the one that is. -/
def lowerLimit : Option ℚ → Option ℚ → Option ℚ
  | some x, some y => some (min x y)
  | some x, none => some x
  | none, y => y

/-- The merged limits are the lowest of what either side of the entry has. -/
structure MergedLossless (r a : ScheduleReqEntry) : Prop where
  current : a.limitsToRoot.acMaxCurrentA =
    lowerLimit (r.limitsToLeaves.acMaxCurrentA.map (· / r.conversionEfficiency.getD 1))
      r.limitsToRoot.acMaxCurrentA
  power : a.limitsToRoot.totalPowerW =
    lowerLimit (r.limitsToLeaves.totalPowerW.map (· / r.conversionEfficiency.getD 1))
      r.limitsToRoot.totalPowerW

/-- The limits of a slot are those of the entry that is valid then, and there are
none only if that entry has none. -/
def SlotLossless (g : Globals) (request : List ScheduleReqEntry) (i : Slot g) : Prop :=
  match findEntry (g.timestamps.get i) true request with
  | some r => MergedLossless r (getMaxAvailableEnergy g request i)
  | none => (getMaxAvailableEnergy g request i).limitsToRoot = {}

/-- Each unit that is limited on the root side is also limited on the leaf side. -/
def LeafLimited (r : ScheduleReqEntry) : Prop :=
  (r.limitsToRoot.acMaxCurrentA.isSome → r.limitsToLeaves.acMaxCurrentA.isSome) ∧
    (r.limitsToRoot.totalPowerW.isSome → r.limitsToLeaves.totalPowerW.isSome)

theorem leafToRoot_none (efficiency : ℚ) (leaf : Option ℚ) :
    leafToRoot efficiency leaf none = leaf.map (· / efficiency) := by
  cases leaf <;> rfl

/-- The merge of one unit loses a limit of the root side that stands alone. -/
theorem lowerToRoot_eq_lowerLimit_iff (limit merged : Option ℚ) :
    lowerToRoot limit merged = lowerLimit merged limit ↔ (limit.isSome → merged.isSome) := by
  cases limit with
  | none => cases merged <;> simp [lowerToRoot, lowerLimit]
  | some limit =>
      cases merged with
      | none => simp [lowerToRoot, lowerLimit]
      | some value =>
          simp only [lowerToRoot, lowerLimit, Option.isSome_some, imp_self, iff_true]
          split_ifs with hLower
          · rw [min_eq_right hLower.le]
          · rw [min_eq_left (not_lt.mp hLower)]

theorem mergeLimits_lossless_iff (g : Globals) (i : Slot g) (r : ScheduleReqEntry) :
    MergedLossless r (mergeLimits r (emptyScheduleReq g i)) ↔ LeafLimited r := by
  have hUnit (leaf root : Option ℚ) :
      lowerToRoot root (leafToRoot (r.conversionEfficiency.getD 1) leaf none) =
        lowerLimit (leaf.map (· / r.conversionEfficiency.getD 1)) root ↔
      (root.isSome → leaf.isSome) := by
    rw [leafToRoot_none, lowerToRoot_eq_lowerLimit_iff, Option.isSome_map]
  rw [LeafLimited, ← hUnit, ← hUnit]
  exact ⟨fun h => ⟨h.current, h.power⟩, fun h => ⟨h.1, h.2⟩⟩

/-- No limit is lost in any slot exactly if every entry that is valid in one of
them is limited on the leaf side wherever it is on the root side. -/
theorem getMaxAvailableEnergy_lossless_iff (g : Globals) (request : List ScheduleReqEntry) :
    (∀ i : Slot g, SlotLossless g request i) ↔
      ∀ (i : Slot g) (r : ScheduleReqEntry),
        findEntry (g.timestamps.get i) true request = some r → LeafLimited r := by
  refine forall_congr' fun i => ?_
  unfold SlotLossless getMaxAvailableEnergy
  cases findEntry (g.timestamps.get i) true request with
  | none => simp [emptyScheduleReq]
  | some r =>
      dsimp only
      rw [mergeLimits_lossless_iff]
      simp

/-- While an EVSE needs energy and its local limits are cleared, its hardware is
limited on the root side only, and the market does not know about it. -/
theorem publishedSchedule_not_leafLimited (caps : HardwareCapabilities) (efficiency : Option ℚ)
    (isDc : Bool) (hour : ℤ) {state : EvseState} (hState : needsEnergy state = true)
    (current : List ScheduleReqEntry) :
    ∀ e ∈ publishedSchedule caps efficiency isDc hour state (some []) current,
      ¬ LeafLimited e := by
  intro e he hLimited
  simp only [publishedSchedule, hState, if_true, clearRequestSchedule, List.map_cons, List.map_nil,
    List.mem_singleton] at he
  subst he
  cases isDc <;> simp [LeafLimited, applyHardwareLimits, limitRootSide, boundOrSet] at hLimited

/-- A market with one slot. -/
def oneSlot : Globals :=
  { intervalDuration := 60, scheduleLength := 1, sliceAmpere := 1, sliceWatt := 500, timestamps := [0] }

/-- An external limit in watts only: the fuse of the node is set on the root side,
and the market does not know about it. -/
theorem getMaxAvailableEnergy_loses_fuse :
    ¬ ∀ request ∈ (setExternalLimits ⟨63, 3⟩ 0
        { scheduleImport := some [{ timestamp := 0, limitsToLeaves := { totalPowerW := some 22000 } }] }
        { uuid := "node", nodeType := .generic }).scheduleImport,
      ∀ i : Slot oneSlot, SlotLossless oneSlot request i := by
  intro h
  have hSlot := h [{ timestamp := 0
                     limitsToRoot := { acMaxCurrentA := some 63, acMaxPhaseCount := some 3 }
                     limitsToLeaves := { totalPowerW := some 22000 } }]
    (by decide) ⟨0, by decide⟩
  exact absurd hSlot.current (by decide)

/-! Which entry of a request counts in a slot. -/

/-- The last entry that is not after a time, or the first one if all are after it. -/
def entryAt (time : ℤ) (request : List ScheduleReqEntry) : Option ScheduleReqEntry :=
  (request.filter (·.timestamp ≤ time)).getLast?.or request.head?

theorem entryAt_isSome (time : ℤ) {request : List ScheduleReqEntry} (hSome : request ≠ []) :
    ∃ e, entryAt time request = some e := by
  obtain ⟨first, rest, rfl⟩ := List.exists_cons_of_ne_nil hSome
  unfold entryAt
  cases (List.filter (·.timestamp ≤ time) (first :: rest)).getLast? with
  | none => exact ⟨first, rfl⟩
  | some e => exact ⟨e, rfl⟩

/-- Nothing is found before the first entry that is after the time. -/
theorem filter_eq_nil_of_later {time : ℤ} {request : List ScheduleReqEntry}
    (hLater : ∀ e ∈ request, time < e.timestamp) :
    request.filter (·.timestamp ≤ time) = [] :=
  List.filter_eq_nil_iff.2 fun e he => by simpa using hLater e he

/-- An entry does not count once the next one is reached. -/
theorem entryAt_cons_cons {time : ℤ} {e next : ScheduleReqEntry} {rest : List ScheduleReqEntry}
    (hReached : e.timestamp ≤ time) (hNext : next.timestamp ≤ time) :
    entryAt time (e :: next :: rest) = entryAt time (next :: rest) := by
  unfold entryAt
  rw [List.filter_cons_of_pos (by simpa using hReached),
    List.filter_cons_of_pos (by simpa using hNext), List.getLast?_cons_cons,
    List.getLast?_cons, Option.some_or, Option.some_or]

/-- The search finds it, since it is at the beginning or has passed no later entry. -/
theorem findEntry_eq_entryAt (time : ℤ) (isFirst : Bool) (request : List ScheduleReqEntry)
    (hSorted : request.Pairwise (·.timestamp < ·.timestamp))
    (hStart : isFirst ∨ ∀ e ∈ request.head?, e.timestamp ≤ time) :
    findEntry time isFirst request = entryAt time request := by
  induction request generalizing isFirst with
  | nil => rfl
  | cons e rest ih =>
      have hAfter : ∀ later ∈ rest, e.timestamp < later.timestamp :=
        (List.pairwise_cons.1 hSorted).1
      cases rest with
      | nil =>
          by_cases hReached : e.timestamp ≤ time <;> simp [findEntry, entryAt, hReached]
      | cons next rest =>
          have hNext := (List.pairwise_cons.1 (List.pairwise_cons.1 hSorted).2).1
          rw [findEntry]
          split_ifs with hFound
          · rcases hFound with ⟨hReached, hEnd⟩ | ⟨-, hEarly⟩
            · have hRest : (next :: rest).filter (·.timestamp ≤ time) = [] :=
                filter_eq_nil_of_later (List.forall_mem_cons.2
                  ⟨hEnd, fun later hLater => hEnd.trans (hNext later hLater)⟩)
              rw [entryAt, List.filter_cons_of_pos (by simpa using hReached), hRest]
              rfl
            · rw [entryAt, filter_eq_nil_of_later (List.forall_mem_cons.2
                ⟨hEarly, fun later hLater => hEarly.trans (hAfter later hLater)⟩)]
              rfl
          · have hReached : e.timestamp ≤ time := by
              rcases hStart with hFirst | hHead
              · exact not_lt.1 fun hEarly => hFound (.inr ⟨hFirst, hEarly⟩)
              · exact hHead e rfl
            have hOn : next.timestamp ≤ time :=
              not_lt.1 fun hEnd => hFound (.inl ⟨hReached, hEnd⟩)
            rw [entryAt_cons_cons hReached hOn]
            refine ih false (List.pairwise_cons.1 hSorted).2 (.inr fun head hHead => ?_)
            cases hHead
            exact hOn

/-- In every slot of the market the limits are those of the last entry that is not after the
slot, or of the first one if there is none. -/
theorem getMaxAvailableEnergy_entryAt (g : Globals) (request : List ScheduleReqEntry)
    (hSome : request ≠ []) (hSorted : request.Pairwise (·.timestamp < ·.timestamp))
    (i : Slot g) :
    ∃ e, entryAt (g.timestamps.get i) request = some e ∧
      getMaxAvailableEnergy g request i = mergeLimits e (emptyScheduleReq g i) := by
  obtain ⟨e, hEntry⟩ := entryAt_isSome (g.timestamps.get i) hSome
  refine ⟨e, hEntry, ?_⟩
  rw [getMaxAvailableEnergy, findEntry_eq_entryAt _ true request hSorted (.inl rfl), hEntry]

/-- At the time of its second entry, a request counts with that entry. -/
theorem getMaxAvailableEnergy_entryAt_second :
    ∃ e, entryAt 0 [{ timestamp := -60 }, { timestamp := 0 }, { timestamp := 60 }] = some e ∧
      getMaxAvailableEnergy oneSlot [{ timestamp := -60 }, { timestamp := 0 }, { timestamp := 60 }]
        ⟨0, by decide⟩ = mergeLimits e (emptyScheduleReq oneSlot ⟨0, by decide⟩) :=
  getMaxAvailableEnergy_entryAt oneSlot _ (List.cons_ne_nil _ _)
    (by simp only [List.pairwise_cons]; decide) ⟨0, by decide⟩

end EverestCore.Energy
