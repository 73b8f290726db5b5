import EverestCore.Energy.Basic
import EverestCore.Machine.PartialRuns
import Mathlib.Data.List.Sort
import Mathlib.Data.List.Destutter

/-! The time slots of the market. They are kept from one run of the optimizer
to the next, and each run adds its own. -/
namespace EverestCore.Energy
open Data Machine

def nanosecondsPerMinute : ℤ := 60 * 1000000000

def nanosecondsPerHour : ℤ := 60 * nanosecondsPerMinute

/-- The members of `globals_t`. The schedules it keeps are made from the
timestamps. -/
structure Globals where
  intervalDuration : ℤ := 0
  scheduleLength : ℕ := 0
  sliceAmpere : ℚ := 0
  sliceWatt : ℚ := 0
  debug : Bool := false
  timestamps : List ℤ := []
  deriving DecidableEq, Repr

/-- The arguments of one call of `init`. Both durations are given as counts, of
minutes and of hours. -/
structure InitCall where
  startTime : ℤ
  intervalDuration : ℤ
  scheduleDuration : ℤ
  sliceAmpere : ℚ
  sliceWatt : ℚ
  debug : Bool
  energyFlowRequest : EnergyFlowRequest

/-- The timestamps of one node. -/
def nodeTimestamps (node : RequestNode) : List ℤ :=
  (node.scheduleImport.getD []).map ScheduleReqEntry.timestamp ++
    (node.scheduleExport.getD []).map ScheduleReqEntry.timestamp

/-- `add_timestamps`: the timestamps of all nodes, each before its children. -/
def addTimestamps (request : EnergyFlowRequest) : List ℤ :=
  (request.walk []).flatMap fun (_, node) => nodeTimestamps node

section Init

/-! How many leap seconds have passed at a time, in nanoseconds. -/
variable (leapSeconds : ℤ → ℤ)

/-- The first slot of a call: its start time, cut down to an interval and moved by
the leap seconds. -/
def gridStart (call : InitCall) : ℤ :=
  call.startTime -
    call.startTime.tmod (call.intervalDuration * nanosecondsPerMinute) + leapSeconds call.startTime

/-- How many slots a call defines before those of the requests. -/
def gridLength (call : InitCall) : ℤ :=
  (call.scheduleDuration * nanosecondsPerHour).tdiv
    (call.intervalDuration * nanosecondsPerMinute)

/-- The predefined slots of a call. -/
def gridSlots (call : InitCall) : List ℤ :=
  (List.range (gridLength call).toNat).map fun i =>
    gridStart leapSeconds call + i * (call.intervalDuration * nanosecondsPerMinute)

/-- All slots that a call asks for. -/
def callSlots (call : InitCall) : List ℤ :=
  gridSlots leapSeconds call ++ addTimestamps call.energyFlowRequest

/-- `create_timestamps`. What was there before is not cleared. -/
def createTimestamps (call : InitCall) (timestamps : List ℤ) : List ℤ :=
  ((timestamps ++ callSlots leapSeconds call).insertionSort (· ≤ ·)).destutter (· ≠ ·)

/-- `globals_t::init`. A division by an interval of zero and a negative number of
slots are not survived. -/
def init (call : InitCall) (globals : Globals) : Option Globals :=
  if call.intervalDuration = 0 ∨ gridLength call < 0 then none
  else
    let timestamps := createTimestamps leapSeconds call globals.timestamps
    some {
      intervalDuration := call.intervalDuration
      scheduleLength := timestamps.length
      sliceAmpere := call.sliceAmpere
      sliceWatt := call.sliceWatt
      debug := call.debug
      timestamps := timestamps }

/-- One call after the other, beginning with the globals of a new process. -/
def initAll (calls : List InitCall) : Option Globals :=
  run? (fun globals call => init leapSeconds call globals) {} calls

/-- Leaving out repetitions leaves out no value. -/
theorem mem_destutter' {timestamps : List ℤ} {first t : ℤ} :
    t ∈ timestamps.destutter' (· ≠ ·) first ↔ t = first ∨ t ∈ timestamps := by
  induction timestamps generalizing first with
  | nil => simp
  | cons next rest ih =>
      rw [List.destutter'_cons]
      split_ifs with hNext
      · rw [List.mem_cons, ih, List.mem_cons]
      · rw [not_not] at hNext
        rw [ih, List.mem_cons, hNext]
        tauto

/-- Removing repetitions removes no value. -/
theorem mem_destutter {timestamps : List ℤ} {t : ℤ} :
    t ∈ timestamps.destutter (· ≠ ·) ↔ t ∈ timestamps := by
  cases timestamps with
  | nil => rfl
  | cons first rest => rw [List.destutter_cons', mem_destutter', List.mem_cons]

/-- The time slots are those of the call together with those that were there before. -/
theorem mem_createTimestamps {call : InitCall} {timestamps : List ℤ} {t : ℤ} :
    t ∈ createTimestamps leapSeconds call timestamps ↔
      t ∈ timestamps ∨ t ∈ callSlots leapSeconds call := by
  rw [createTimestamps, mem_destutter, List.mem_insertionSort, List.mem_append]

/-- The slots are sorted, and no time occurs twice. -/
theorem createTimestamps_increasing (call : InitCall) (timestamps : List ℤ) :
    (createTimestamps leapSeconds call timestamps).Pairwise (· < ·) := by
  have hSorted : (createTimestamps leapSeconds call timestamps).Pairwise (· ≤ ·) :=
    List.Pairwise.sublist (List.destutter_sublist _ _) (List.pairwise_insertionSort _ _)
  have hDistinct : (createTimestamps leapSeconds call timestamps).IsChain (· ≠ ·) :=
    List.isChain_destutter _ _
  rw [← List.isChain_iff_pairwise, List.isChain_iff_getElem]
  intro i hi
  refine lt_of_le_of_ne ?_ (List.isChain_iff_getElem.mp hDistinct i hi)
  exact List.pairwise_iff_getElem.mp hSorted i (i + 1) (by omega) hi (by omega)

/-- What all calls together leave: their slots in order, each of them once. -/
structure Collected (calls : List InitCall) (globals : Globals) : Prop where
  increasing : globals.timestamps.Pairwise (· < ·)
  length : globals.scheduleLength = globals.timestamps.length
  slots : ∀ t, t ∈ globals.timestamps ↔ ∃ call ∈ calls, t ∈ callSlots leapSeconds call

/-- Whatever calls there have been, the slots are those of all of them together. -/
theorem initAll_collected {calls : List InitCall} {globals : Globals}
    (hRun : initAll leapSeconds calls = some globals) : Collected leapSeconds calls globals := by
  refine run?_invariant (Collected leapSeconds) ⟨List.Pairwise.nil, rfl, by simp⟩ ?_ hRun
  intro calls call globals next hBefore hInit
  unfold init at hInit
  split_ifs at hInit
  cases hInit
  refine ⟨createTimestamps_increasing leapSeconds call _, rfl, fun t => ?_⟩
  rw [mem_createTimestamps, hBefore.slots]
  constructor
  · rintro (⟨before, hMem, hSlot⟩ | hSlot)
    · exact ⟨before, by simp [hMem], hSlot⟩
    · exact ⟨call, by simp, hSlot⟩
  · rintro ⟨either, hMem, hSlot⟩
    rcases List.mem_append.mp hMem with hBefore | hLast
    · exact Or.inl ⟨either, hBefore, hSlot⟩
    · rw [List.mem_singleton.mp hLast] at hSlot
      exact Or.inr hSlot

/-- The slots are those of the latest call, in order, each of them once. -/
structure LatestSlots (latest : InitCall) (globals : Globals) : Prop where
  increasing : globals.timestamps.Pairwise (· < ·)
  length : globals.scheduleLength = globals.timestamps.length
  slots : ∀ t, t ∈ globals.timestamps ↔ t ∈ callSlots leapSeconds latest

/-- After any number of calls the slots are those of the latest call exactly if
no earlier call had a slot that the latest one lacks. -/
theorem initAll_latestSlots_iff (earlier : List InitCall) (latest : InitCall) (globals : Globals)
    (hRun : initAll leapSeconds (earlier ++ [latest]) = some globals) :
    LatestSlots leapSeconds latest globals ↔
      ∀ call ∈ earlier, ∀ t ∈ callSlots leapSeconds call, t ∈ callSlots leapSeconds latest := by
  have hAll := initAll_collected leapSeconds hRun
  constructor
  · intro h call hCall t hSlot
    rw [← h.slots, hAll.slots]
    exact ⟨call, by simp [hCall], hSlot⟩
  · intro hEarlier
    refine ⟨hAll.increasing, hAll.length, fun t => ?_⟩
    rw [hAll.slots]
    constructor
    · rintro ⟨call, hMem, hSlot⟩
      rcases List.mem_append.mp hMem with hBefore | hLast
      · exact hEarlier call hBefore t hSlot
      · rwa [List.mem_singleton.mp hLast] at hSlot
    · intro hSlot
      exact ⟨latest, by simp, hSlot⟩

end Init

/-- A call with one slot of an hour and a single node that asks for nothing. -/
def hourlyCall (startTime : ℤ) : InitCall where
  startTime := startTime
  intervalDuration := 60
  scheduleDuration := 1
  sliceAmpere := 1 / 2
  sliceWatt := 500
  debug := false
  energyFlowRequest := .node { uuid := "evse", nodeType := .evse } []

/-- Two calls within the same hour. -/
theorem initAll_latestSlots_same_hour :
    LatestSlots (fun _ => 0) (hourlyCall 1)
      { intervalDuration := 60, scheduleLength := 1, sliceAmpere := 1 / 2, sliceWatt := 500
        timestamps := [0] } :=
  (initAll_latestSlots_iff (fun _ => 0) [hourlyCall 0] (hourlyCall 1) _ (by decide +kernel)).mpr
    (by decide)

/-- Two calls an hour apart: the first slot is still that of the earlier call. -/
theorem initAll_keeps_past_slot :
    ¬ LatestSlots (fun _ => 0) (hourlyCall nanosecondsPerHour)
      ((initAll (fun _ => 0) [hourlyCall 0, hourlyCall nanosecondsPerHour]).getD {}) := by
  intro h
  have hPast := (h.slots 0).mp (by decide)
  exact absurd hPast (by decide)

end EverestCore.Energy
