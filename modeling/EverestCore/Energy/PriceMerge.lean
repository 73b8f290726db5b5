import EverestCore.Energy.EnergyNode
import EverestCore.Machine.Loops
import Mathlib.Tactic.Linarith

/-! Prices in the request of an energy node. The merge walks through limits and prices
at once and always takes the entry that comes first, so it stands still where both
come at the same time. What it has joined stays in a local variable. -/
namespace EverestCore.Energy
open Data Machine

/-- The variables of `merge_price_into_schedule`. The iterators are given by what is
still in front of them. -/
structure MergeState where
  itSchedule : List ScheduleReqEntry
  itPrice : List PricePerkWh
  nextEntrySchedule : ScheduleReqEntry
  nextEntryPrice : PricePerkWh
  currentlyValidEntrySchedule : ScheduleReqEntry
  currentlyValidEntryPrice : PricePerkWh
  joinedSchedule : List ScheduleReqEntry
  deriving DecidableEq, Repr

/-- The next entry of the schedule is the one that counts from now on. -/
def MergeState.joinSchedule (s : MergeState) : MergeState :=
  { s with
    currentlyValidEntrySchedule := s.nextEntrySchedule
    joinedSchedule := s.joinedSchedule ++
      [{ s.nextEntrySchedule with pricePerKwh := s.currentlyValidEntryPrice }]
    itSchedule := s.itSchedule.tail
    nextEntrySchedule := s.itSchedule.tail.headD s.nextEntrySchedule }

/-- The next price is the one that counts from now on. -/
def MergeState.joinPrice (s : MergeState) : MergeState :=
  { s with
    currentlyValidEntryPrice := s.nextEntryPrice
    joinedSchedule := s.joinedSchedule ++
      [{ s.currentlyValidEntrySchedule with
          pricePerKwh := s.nextEntryPrice
          timestamp := s.nextEntryPrice.timestamp }]
    itPrice := s.itPrice.tail
    nextEntryPrice := s.itPrice.tail.headD s.nextEntryPrice }

/-- One round of the loop of `merge_price_into_schedule`. -/
def mergeRound (s : MergeState) : Next MergeState :=
  if s.itSchedule ≠ [] ∧ s.itPrice ≠ [] then
    let tpSchedule := s.nextEntrySchedule.timestamp
    let tpPrice := s.nextEntryPrice.timestamp
    if (tpSchedule < tpPrice ∧ s.itSchedule ≠ []) ∨ s.itPrice = [] then
      .again s.joinSchedule
    else if (tpPrice < tpSchedule ∧ s.itPrice ≠ []) ∨ s.itSchedule = [] then
      .again s.joinPrice
    else
      .again s
  else
    .leave s

/-- `merge_price_into_schedule` for at most `fuel` rounds: the schedule that it is given
by reference, as it leaves it. It looks at the first entries before anything else. -/
def mergePriceIntoSchedule (fuel : ℕ) (schedule : List ScheduleReqEntry)
    (price : List PricePerkWh) : Option (List ScheduleReqEntry) :=
  match schedule, price with
  | entry :: _, first :: _ =>
      -- what was joined is local to the function, and nothing copies it back
      (loop? (fun s => some (mergeRound s)) fuel
        { itSchedule := schedule, itPrice := price
          nextEntrySchedule := entry, nextEntryPrice := first
          currentlyValidEntrySchedule := entry, currentlyValidEntryPrice := first
          joinedSchedule := [] }).map fun _ => schedule
  | _, _ => none

/-- Prices for one or both directions. -/
structure EnergyPriceSchedule where
  scheduleImport : Option (List PricePerkWh) := none
  scheduleExport : Option (List PricePerkWh) := none
  deriving DecidableEq, Repr

/-- One direction of `publish_complete_energy_object`. -/
def completeSchedule (fuel : ℕ) (schedule : Option (List ScheduleReqEntry))
    (price : Option (List PricePerkWh)) : Option (Option (List ScheduleReqEntry)) :=
  match schedule, price with
  | some schedule, some price => (mergePriceIntoSchedule fuel schedule price).map some
  | schedule, _ => some schedule

/-- `publish_complete_energy_object` with what it publishes. The children go out as they
are, so only the node itself is followed. -/
def publishCompleteEnergyObject (fuel : ℕ) (request : RequestNode)
    (pricing : EnergyPriceSchedule) : Option RequestNode := do
  let scheduleImport ← completeSchedule fuel request.scheduleImport pricing.scheduleImport
  let scheduleExport ← completeSchedule fuel request.scheduleExport pricing.scheduleExport
  some { request with scheduleImport := scheduleImport, scheduleExport := scheduleExport }

section Termination

/-- Both lists reach the same time as a new latest time of theirs. -/
def SharesRecord (schedule : List ScheduleReqEntry) (price : List PricePerkWh) : Prop :=
  ∃ before e after before' p after',
    schedule = before ++ e :: after ∧ price = before' ++ p :: after' ∧
    e.timestamp = p.timestamp ∧
    (∀ earlier ∈ before, earlier.timestamp < e.timestamp) ∧
    ∀ earlier ∈ before', earlier.timestamp < p.timestamp

/-- What is still in front of the loop, whose next entries are the first of it. -/
structure MergeState.InFrontOf (s : MergeState) (schedule : List ScheduleReqEntry)
    (price : List PricePerkWh) : Prop where
  itSchedule : s.itSchedule = schedule
  itPrice : s.itPrice = price
  nextEntrySchedule : ∀ e rest, schedule = e :: rest → s.nextEntrySchedule = e
  nextEntryPrice : ∀ p rest, price = p :: rest → s.nextEntryPrice = p

variable {s : MergeState} {e : ScheduleReqEntry} {es : List ScheduleReqEntry}
  {p : PricePerkWh} {ps : List PricePerkWh}

/-- A step in the schedule leaves the price where it is. -/
theorem MergeState.InFrontOf.joinSchedule (h : s.InFrontOf (e :: es) (p :: ps)) :
    s.joinSchedule.InFrontOf es (p :: ps) where
  itSchedule := by simp only [MergeState.joinSchedule, h.itSchedule, List.tail_cons]
  itPrice := h.itPrice
  nextEntrySchedule := by
    rintro e rest rfl
    simp only [MergeState.joinSchedule, h.itSchedule, List.tail_cons, List.headD_cons]
  nextEntryPrice := h.nextEntryPrice

/-- A step in the prices leaves the schedule where it is. -/
theorem MergeState.InFrontOf.joinPrice (h : s.InFrontOf (e :: es) (p :: ps)) :
    s.joinPrice.InFrontOf (e :: es) ps where
  itSchedule := h.itSchedule
  itPrice := by simp only [MergeState.joinPrice, h.itPrice, List.tail_cons]
  nextEntrySchedule := h.nextEntrySchedule
  nextEntryPrice := by
    rintro p rest rfl
    simp only [MergeState.joinPrice, h.itPrice, List.tail_cons, List.headD_cons]

/-- The entry that comes first is taken, and none is when both come at once. -/
theorem mergeRound_cases (h : s.InFrontOf (e :: es) (p :: ps)) :
    e.timestamp < p.timestamp ∧ mergeRound s = .again s.joinSchedule ∨
    p.timestamp < e.timestamp ∧ mergeRound s = .again s.joinPrice ∨
    e.timestamp = p.timestamp ∧ mergeRound s = .again s := by
  have hSchedule := h.nextEntrySchedule e es rfl
  have hPrice := h.nextEntryPrice p ps rfl
  rcases lt_trichotomy e.timestamp p.timestamp with hLt | hEq | hGt
  · refine .inl ⟨hLt, ?_⟩
    simp [mergeRound, h.itSchedule, h.itPrice, hSchedule, hPrice, hLt]
  · refine .inr (.inr ⟨hEq, ?_⟩)
    simp [mergeRound, h.itSchedule, h.itPrice, hSchedule, hPrice, hEq]
  · refine .inr (.inl ⟨hGt, ?_⟩)
    simp [mergeRound, h.itSchedule, h.itPrice, hSchedule, hPrice, hGt, hGt.le]

/-- The loop ends at the end of one of the lists. -/
theorem mergeRound_leave (h : s.itSchedule = [] ∨ s.itPrice = []) :
    mergeRound s = .leave s := by
  rcases h with h | h <;> simp [mergeRound, h]

/-- An empty schedule has no time in common with the prices. -/
theorem nil_not_sharesRecord {price : List PricePerkWh} : ¬SharesRecord [] price := by
  rintro ⟨before, e, after, -, -, -, hSchedule, -⟩
  exact List.append_ne_nil_of_right_ne_nil before (List.cons_ne_nil e after) hSchedule.symm

/-- No prices have no time in common with the schedule. -/
theorem not_sharesRecord_nil {schedule : List ScheduleReqEntry} : ¬SharesRecord schedule [] := by
  rintro ⟨-, -, -, before, p, after, -, hPrice, -⟩
  exact List.append_ne_nil_of_right_ne_nil before (List.cons_ne_nil p after) hPrice.symm

/-- An entry before the next price is not where the lists share a record. -/
theorem SharesRecord.joinSchedule (h : SharesRecord (e :: es) (p :: ps))
    (hLt : e.timestamp < p.timestamp) : SharesRecord es (p :: ps) := by
  obtain ⟨before, f, after, before', q, after', hSchedule, hPrice, hSame, hBefore, hBefore'⟩ := h
  cases before with
  | nil =>
      obtain ⟨rfl, -⟩ := List.cons.inj hSchedule
      cases before' with
      | nil =>
          obtain ⟨rfl, -⟩ := List.cons.inj hPrice
          exact absurd hSame hLt.ne
      | cons first before' =>
          obtain ⟨rfl, -⟩ := List.cons.inj hPrice
          exact absurd (hLt.trans (hBefore' p List.mem_cons_self)) hSame.not_lt
  | cons first before =>
      exact ⟨before, f, after, before', q, after', (List.cons.inj hSchedule).2, hPrice, hSame,
        fun earlier hEarlier => hBefore earlier (List.mem_cons_of_mem first hEarlier), hBefore'⟩

/-- A price before the next entry is not where the lists share a record. -/
theorem SharesRecord.joinPrice (h : SharesRecord (e :: es) (p :: ps))
    (hLt : p.timestamp < e.timestamp) : SharesRecord (e :: es) ps := by
  obtain ⟨before, f, after, before', q, after', hSchedule, hPrice, hSame, hBefore, hBefore'⟩ := h
  cases before' with
  | nil =>
      obtain ⟨rfl, -⟩ := List.cons.inj hPrice
      cases before with
      | nil =>
          obtain ⟨rfl, -⟩ := List.cons.inj hSchedule
          exact absurd hSame hLt.ne'
      | cons first before =>
          obtain ⟨rfl, -⟩ := List.cons.inj hSchedule
          exact absurd (hLt.trans (hBefore e List.mem_cons_self)) hSame.not_gt
  | cons first before' =>
      exact ⟨before, f, after, before', q, after', hSchedule, (List.cons.inj hPrice).2, hSame,
        hBefore, fun earlier hEarlier => hBefore' earlier (List.mem_cons_of_mem first hEarlier)⟩

/-- A record that both lists share is still in front of the loop. -/
def MergeState.BeforeRecord (s : MergeState) : Prop :=
  ∃ schedule price, s.InFrontOf schedule price ∧ SharesRecord schedule price

/-- The loop never gets past a record that both lists share. -/
theorem loop?_mergeRound_stuck (fuel : ℕ) (hFront : s.BeforeRecord) :
    loop? (fun s => some (mergeRound s)) fuel s = none := by
  apply loop?_stuck MergeState.BeforeRecord _ fuel hFront
  rintro s ⟨schedule, price, hFront, hShared⟩
  right
  cases schedule with
  | nil => exact absurd hShared nil_not_sharesRecord
  | cons e es =>
      cases price with
      | nil => exact absurd hShared not_sharesRecord_nil
      | cons p ps =>
          rcases mergeRound_cases hFront with ⟨hLt, hRound⟩ | ⟨hGt, hRound⟩ | ⟨-, hRound⟩
          · exact ⟨_, congrArg some hRound, _, _, hFront.joinSchedule, hShared.joinSchedule hLt⟩
          · exact ⟨_, congrArg some hRound, _, _, hFront.joinPrice, hShared.joinPrice hGt⟩
          · exact ⟨s, congrArg some hRound, _, _, hFront, hShared⟩

/-- How far the loop got. Everything behind it came before one of the two entries in
front of it. -/
structure MergeState.Reached (schedule : List ScheduleReqEntry) (price : List PricePerkWh)
    (s : MergeState) (before : List ScheduleReqEntry) (rest : List ScheduleReqEntry)
    (before' : List PricePerkWh) (rest' : List PricePerkWh) : Prop where
  inFront : s.InFrontOf rest rest'
  schedule : schedule = before ++ rest
  price : price = before' ++ rest'
  behind : ∀ e es p ps, rest = e :: es → rest' = p :: ps →
    (∀ earlier ∈ before, earlier.timestamp < max e.timestamp p.timestamp) ∧
    ∀ earlier ∈ before', earlier.timestamp < max e.timestamp p.timestamp

variable {schedule before : List ScheduleReqEntry} {price before' : List PricePerkWh}

/-- How far the merge has come, after a step in the schedule. -/
theorem MergeState.Reached.joinSchedule
    (h : s.Reached schedule price before (e :: es) before' (p :: ps))
    (hLt : e.timestamp < p.timestamp) :
    s.joinSchedule.Reached schedule price (before ++ [e]) es before' (p :: ps) where
  inFront := h.inFront.joinSchedule
  schedule := by rw [h.schedule, List.append_assoc, List.singleton_append]
  price := h.price
  behind := by
    rintro f fs q qs - hPrice
    obtain ⟨rfl, -⟩ := List.cons.inj hPrice
    obtain ⟨hBefore, hBefore'⟩ := h.behind e es p ps rfl rfl
    rw [max_eq_right hLt.le] at hBefore hBefore'
    constructor
    · intro earlier hEarlier
      rcases List.mem_append.mp hEarlier with hEarlier | hEarlier
      · exact lt_max_of_lt_right (hBefore earlier hEarlier)
      · rw [List.mem_singleton.mp hEarlier]
        exact lt_max_of_lt_right hLt
    · exact fun earlier hEarlier => lt_max_of_lt_right (hBefore' earlier hEarlier)

/-- How far the merge has come, after a step in the prices. -/
theorem MergeState.Reached.joinPrice
    (h : s.Reached schedule price before (e :: es) before' (p :: ps))
    (hLt : p.timestamp < e.timestamp) :
    s.joinPrice.Reached schedule price before (e :: es) (before' ++ [p]) ps where
  inFront := h.inFront.joinPrice
  schedule := h.schedule
  price := by rw [h.price, List.append_assoc, List.singleton_append]
  behind := by
    rintro f fs q qs hSchedule -
    obtain ⟨rfl, -⟩ := List.cons.inj hSchedule
    obtain ⟨hBefore, hBefore'⟩ := h.behind e es p ps rfl rfl
    rw [max_eq_left hLt.le] at hBefore hBefore'
    constructor
    · exact fun earlier hEarlier => lt_max_of_lt_left (hBefore earlier hEarlier)
    · intro earlier hEarlier
      rcases List.mem_append.mp hEarlier with hEarlier | hEarlier
      · exact lt_max_of_lt_left (hBefore' earlier hEarlier)
      · rw [List.mem_singleton.mp hEarlier]
        exact lt_max_of_lt_left hLt

/-- Two entries at the same time, with all that came before them earlier. -/
theorem MergeState.Reached.sharesRecord
    (h : s.Reached schedule price before (e :: es) before' (p :: ps))
    (hSame : e.timestamp = p.timestamp) : SharesRecord schedule price := by
  obtain ⟨hBefore, hBefore'⟩ := h.behind e es p ps rfl rfl
  rw [hSame, max_self] at hBefore hBefore'
  exact ⟨before, e, es, before', p, ps, h.schedule, h.price, hSame, hSame ▸ hBefore, hBefore'⟩

/-- Lists without such a record are walked through, as each round takes an entry. -/
theorem loop?_mergeRound_ends (hShared : ¬SharesRecord schedule price)
    {rest : List ScheduleReqEntry} {rest' : List PricePerkWh}
    (hReached : s.Reached schedule price before rest before' rest') :
    ∃ final, loop? (fun s => some (mergeRound s)) (rest.length + rest'.length + 1) s =
      some final ∧ True := by
  apply loop?_ends
    (fun rank (s : MergeState) => ∃ before rest before' rest',
      s.Reached schedule price before rest before' rest' ∧ rank = rest.length + rest'.length)
    (fun _ => True) _ ⟨before, rest, before', rest', hReached, rfl⟩ (Nat.lt_succ_self _)
  · rintro rank s ⟨before, rest, before', rest', hReached, rfl⟩
    cases rest with
    | nil => exact .inl ⟨s, congrArg some (mergeRound_leave (.inl hReached.inFront.itSchedule)),
        trivial⟩
    | cons e es =>
        cases rest' with
        | nil => exact .inl ⟨s, congrArg some (mergeRound_leave (.inr hReached.inFront.itPrice)),
            trivial⟩
        | cons p ps =>
            right
            rcases mergeRound_cases hReached.inFront with ⟨hLt, hRound⟩ | ⟨hGt, hRound⟩ | ⟨hEq, -⟩
            · exact ⟨_, congrArg some hRound, es.length + (p :: ps).length,
                Nat.add_lt_add_right (Nat.lt_succ_self _) _,
                _, _, _, _, hReached.joinSchedule hLt, rfl⟩
            · exact ⟨_, congrArg some hRound, (e :: es).length + ps.length,
                Nat.add_lt_add_left (Nat.lt_succ_self _) _,
                _, _, _, _, hReached.joinPrice hGt, rfl⟩
            · exact absurd (hReached.sharesRecord hEq) hShared

/-- At first both lists are whole. -/
theorem inFrontOf_start (e : ScheduleReqEntry) (es : List ScheduleReqEntry) (p : PricePerkWh)
    (ps : List PricePerkWh) :
    MergeState.InFrontOf ⟨e :: es, p :: ps, e, p, e, p, []⟩ (e :: es) (p :: ps) where
  itSchedule := rfl
  itPrice := rfl
  nextEntrySchedule _ _ h := (List.cons.inj h).1
  nextEntryPrice _ _ h := (List.cons.inj h).1

/-- If the lists share a record, no number of rounds is enough. -/
theorem SharesRecord.mergePriceIntoSchedule_eq_none (h : SharesRecord schedule price)
    (fuel : ℕ) : mergePriceIntoSchedule fuel schedule price = none := by
  cases schedule with
  | nil => rfl
  | cons e es =>
      cases price with
      | nil => rfl
      | cons p ps =>
          rw [mergePriceIntoSchedule,
            loop?_mergeRound_stuck fuel ⟨_, _, inFrontOf_start e es p ps, h⟩]
          rfl

/-- The merge comes to an end just when the lists share no record. -/
theorem mergePriceIntoSchedule_isSome_iff (schedule : List ScheduleReqEntry)
    (price : List PricePerkWh) (hSchedule : schedule ≠ []) (hPrice : price ≠ []) :
    (∃ fuel, (mergePriceIntoSchedule fuel schedule price).isSome) ↔
      ¬SharesRecord schedule price := by
  obtain ⟨e, es, rfl⟩ := List.exists_cons_of_ne_nil hSchedule
  obtain ⟨p, ps, rfl⟩ := List.exists_cons_of_ne_nil hPrice
  constructor
  · rintro ⟨fuel, hEnds⟩ hShared
    rw [hShared.mergePriceIntoSchedule_eq_none fuel] at hEnds
    exact absurd hEnds nofun
  · intro hShared
    have hReached : MergeState.Reached (e :: es) (p :: ps) ⟨e :: es, p :: ps, e, p, e, p, []⟩
        [] (e :: es) [] (p :: ps) :=
      ⟨inFrontOf_start e es p ps, rfl, rfl, fun _ _ _ _ _ _ => by simp⟩
    obtain ⟨final, hLoop, -⟩ := loop?_mergeRound_ends hShared hReached
    exact ⟨_, by rw [mergePriceIntoSchedule, hLoop]; rfl⟩

/-- Two lists with a common first time. -/
def commonStart : List ScheduleReqEntry × List PricePerkWh :=
  ([{ timestamp := 0 }, { timestamp := 3600 }], [⟨0, 1 / 4, "EUR"⟩, ⟨1800, 1 / 2, "EUR"⟩])

/-- Limits and prices that both start at the full hour keep the merge busy forever. -/
theorem mergePriceIntoSchedule_commonStart :
    commonStart.1 ≠ [] ∧ commonStart.2 ≠ [] ∧
      ¬∃ fuel, (mergePriceIntoSchedule fuel commonStart.1 commonStart.2).isSome := by
  refine ⟨nofun, nofun, ?_⟩
  rintro ⟨fuel, hEnds⟩
  have hShared : SharesRecord commonStart.1 commonStart.2 :=
    ⟨[], _, _, [], _, _, rfl, rfl, rfl, by simp, by simp⟩
  rw [hShared.mergePriceIntoSchedule_eq_none fuel] at hEnds
  exact absurd hEnds nofun

/-- Limits by the hour and prices from the half hour on are merged. -/
theorem mergePriceIntoSchedule_isSome_halfHours :
    (∃ fuel, (mergePriceIntoSchedule fuel [{ timestamp := 0 }, { timestamp := 3600 }]
        [⟨1800, 1 / 4, "EUR"⟩]).isSome) ↔
      ¬SharesRecord [{ timestamp := 0 }, { timestamp := 3600 }] [⟨1800, 1 / 4, "EUR"⟩] :=
  mergePriceIntoSchedule_isSome_iff _ _ nofun nofun

/-- In lists sorted by time every entry is a new latest one. -/
theorem sharesRecord_iff_of_sorted
    (hSchedule : schedule.Pairwise fun e f => e.timestamp < f.timestamp)
    (hPrice : price.Pairwise fun p q => p.timestamp < q.timestamp) :
    SharesRecord schedule price ↔ ∃ e ∈ schedule, ∃ p ∈ price, e.timestamp = p.timestamp := by
  constructor
  · rintro ⟨before, e, after, before', p, after', rfl, rfl, hSame, -⟩
    exact ⟨e, List.mem_append_right before List.mem_cons_self, p,
      List.mem_append_right before' List.mem_cons_self, hSame⟩
  · rintro ⟨e, hE, p, hP, hSame⟩
    obtain ⟨before, after, rfl⟩ := List.append_of_mem hE
    obtain ⟨before', after', rfl⟩ := List.append_of_mem hP
    exact ⟨before, e, after, before', p, after', rfl, rfl, hSame,
      fun earlier hEarlier =>
        (List.pairwise_append.mp hSchedule).2.2 earlier hEarlier e List.mem_cons_self,
      fun earlier hEarlier =>
        (List.pairwise_append.mp hPrice).2.2 earlier hEarlier p List.mem_cons_self⟩

end Termination

section Published

/-- The entry that counts at a time: the last one that is not later, else the first. -/
def validAt {α : Type*} (timestamp : α → ℤ) (entries : List α) (now : ℤ) : Option α :=
  (entries.filter fun entry => timestamp entry ≤ now).getLast?.or entries.head?

/-- What a schedule and its prices come to in one list. -/
structure IsMerged (schedule : List ScheduleReqEntry) (price : List PricePerkWh)
    (merged : List ScheduleReqEntry) : Prop where
  increasing : merged.Pairwise fun e f => e.timestamp < f.timestamp
  timestamps : ∀ now, now ∈ merged.map ScheduleReqEntry.timestamp ↔
    now ∈ schedule.map ScheduleReqEntry.timestamp ∨ now ∈ price.map PricePerkWh.timestamp
  limits : ∀ entry ∈ merged, ∃ valid,
    validAt ScheduleReqEntry.timestamp schedule entry.timestamp = some valid ∧
      entry.limitsToRoot = valid.limitsToRoot ∧ entry.limitsToLeaves = valid.limitsToLeaves
  prices : ∀ entry ∈ merged,
    entry.pricePerKwh = validAt PricePerkWh.timestamp price entry.timestamp

example : IsMerged [{ timestamp := 0 }] [⟨1800, 1 / 4, "EUR"⟩]
    [{ timestamp := 0, pricePerKwh := some ⟨1800, 1 / 4, "EUR"⟩ },
      { timestamp := 1800, pricePerKwh := some ⟨1800, 1 / 4, "EUR"⟩ }] where
  increasing := by decide
  timestamps := by simp
  limits := by simp [validAt]
  prices := by simp [validAt]

/-- The merge goes through both lists and returns the schedule that it was given. -/
theorem mergePriceIntoSchedule_eq {fuel : ℕ} {schedule result : List ScheduleReqEntry}
    {price : List PricePerkWh}
    (hResult : mergePriceIntoSchedule fuel schedule price = some result) : result = schedule := by
  cases schedule with
  | nil => exact absurd hResult nofun
  | cons e es =>
      cases price with
      | nil => exact absurd hResult nofun
      | cons p ps =>
          rw [mergePriceIntoSchedule, Option.map_eq_some_iff] at hResult
          obtain ⟨_, -, hResult⟩ := hResult
          exact hResult.symm

/-- A node publishes the schedule that it has, whatever prices there are. -/
theorem completeSchedule_eq {fuel : ℕ} {schedule result : Option (List ScheduleReqEntry)}
    {price : Option (List PricePerkWh)}
    (hResult : completeSchedule fuel schedule price = some result) : result = schedule := by
  cases schedule with
  | none => exact (Option.some.inj hResult).symm
  | some entries =>
      cases price with
      | none => exact (Option.some.inj hResult).symm
      | some prices =>
          rw [completeSchedule, Option.map_eq_some_iff] at hResult
          obtain ⟨merged, hMerged, rfl⟩ := hResult
          rw [mergePriceIntoSchedule_eq hMerged]

/-- A node publishes its schedules just as they are, once both merges came to an end. -/
theorem publishCompleteEnergyObject_cases {fuel : ℕ} {request published : RequestNode}
    {pricing : EnergyPriceSchedule}
    (hPublished : publishCompleteEnergyObject fuel request pricing = some published) :
    published = request ∧
      completeSchedule fuel request.scheduleImport pricing.scheduleImport =
        some request.scheduleImport ∧
      completeSchedule fuel request.scheduleExport pricing.scheduleExport =
        some request.scheduleExport := by
  simp only [publishCompleteEnergyObject, Option.bind_eq_bind, Option.bind_eq_some_iff,
    Option.some.injEq] at hPublished
  obtain ⟨scheduleImport, hImport, scheduleExport, hExport, rfl⟩ := hPublished
  obtain rfl := completeSchedule_eq hImport
  obtain rfl := completeSchedule_eq hExport
  exact ⟨rfl, hImport, hExport⟩

/-- A schedule that is its own merge has the times of the prices, and then the merge does
not come to an end. -/
theorem completeSchedule_not_isMerged {fuel : ℕ} {schedule : List ScheduleReqEntry}
    {price : List PricePerkWh} {result : Option (List ScheduleReqEntry)}
    (hSchedule : schedule.Pairwise fun e f => e.timestamp < f.timestamp)
    (hPrice : price.Pairwise fun p q => p.timestamp < q.timestamp) (hPriceNe : price ≠ [])
    (hResult : completeSchedule fuel (some schedule) (some price) = some result) :
    ¬IsMerged schedule price schedule := by
  intro hMerged
  obtain ⟨p, ps, rfl⟩ := List.exists_cons_of_ne_nil hPriceNe
  have hTime : p.timestamp ∈ schedule.map ScheduleReqEntry.timestamp :=
    (hMerged.timestamps p.timestamp).mpr (.inr (List.mem_map_of_mem List.mem_cons_self))
  obtain ⟨e, hE, hSame⟩ := List.mem_map.mp hTime
  have hShared : SharesRecord schedule (p :: ps) :=
    (sharesRecord_iff_of_sorted hSchedule hPrice).mpr ⟨e, hE, p, List.mem_cons_self, hSame⟩
  rw [completeSchedule, hShared.mergePriceIntoSchedule_eq_none fuel] at hResult
  exact absurd hResult nofun

/-- In the direction that is looked at, the node publishes limits and prices in one list. -/
def PublishesMerged (request : RequestNode) (pricing : EnergyPriceSchedule)
    (direction : RequestNode → Option (List ScheduleReqEntry))
    (schedule : List ScheduleReqEntry) (price : List PricePerkWh) : Prop :=
  ∃ fuel published merged, publishCompleteEnergyObject fuel request pricing = some published ∧
    direction published = some merged ∧ IsMerged schedule price merged

/-- No limits and prices are ever published in one list, in neither direction. -/
theorem publishCompleteEnergyObject_not_merged (request : RequestNode)
    (pricing : EnergyPriceSchedule) (schedule : List ScheduleReqEntry) (price : List PricePerkWh)
    (hSchedule : schedule.Pairwise fun e f => e.timestamp < f.timestamp)
    (hPrice : price.Pairwise fun p q => p.timestamp < q.timestamp)
    (hPriceNe : price ≠ []) :
    (request.scheduleImport = some schedule → pricing.scheduleImport = some price →
      ¬PublishesMerged request pricing RequestNode.scheduleImport schedule price) ∧
    (request.scheduleExport = some schedule → pricing.scheduleExport = some price →
      ¬PublishesMerged request pricing RequestNode.scheduleExport schedule price) := by
  constructor
  · rintro hRequest hPricing ⟨fuel, published, merged, hPublished, hDirection, hMerged⟩
    obtain ⟨rfl, hImport, -⟩ := publishCompleteEnergyObject_cases hPublished
    obtain rfl := Option.some.inj (hRequest.symm.trans hDirection)
    rw [hRequest, hPricing] at hImport
    exact completeSchedule_not_isMerged hSchedule hPrice hPriceNe hImport hMerged
  · rintro hRequest hPricing ⟨fuel, published, merged, hPublished, hDirection, hMerged⟩
    obtain ⟨rfl, -, hExport⟩ := publishCompleteEnergyObject_cases hPublished
    obtain rfl := Option.some.inj (hRequest.symm.trans hDirection)
    rw [hRequest, hPricing] at hExport
    exact completeSchedule_not_isMerged hSchedule hPrice hPriceNe hExport hMerged

/-- A node with limits from the full hour on, and a price that starts at the half hour. -/
def halfHourNode : RequestNode where
  uuid := "grid"
  nodeType := .generic
  scheduleImport := some [{ timestamp := 0 }]

def halfHourPricing : EnergyPriceSchedule where
  scheduleImport := some [⟨1800, 1 / 4, "EUR"⟩]

/-- One entry without a price is published, where two with a price are due. -/
theorem publishCompleteEnergyObject_halfHour :
    publishCompleteEnergyObject 3 halfHourNode halfHourPricing = some halfHourNode ∧
      ¬PublishesMerged halfHourNode halfHourPricing RequestNode.scheduleImport
        [{ timestamp := 0 }] [⟨1800, 1 / 4, "EUR"⟩] := by
  refine ⟨by decide, ?_⟩
  rintro ⟨fuel, published, merged, hPublished, hDirection, hMerged⟩
  obtain ⟨rfl, -⟩ := publishCompleteEnergyObject_cases hPublished
  obtain rfl := Option.some.inj hDirection
  have hTime := (hMerged.timestamps 1800).mpr (.inr List.mem_cons_self)
  exact absurd hTime (by simp)

/-- Of a limit from 00:00 and a price from 00:30, only the limit is published. -/
theorem publishCompleteEnergyObject_not_merged_halfHour :
    (halfHourNode.scheduleImport = some [{ timestamp := 0 }] →
      halfHourPricing.scheduleImport = some [⟨1800, 1 / 4, "EUR"⟩] →
      ¬PublishesMerged halfHourNode halfHourPricing RequestNode.scheduleImport
        [{ timestamp := 0 }] [⟨1800, 1 / 4, "EUR"⟩]) ∧
    (halfHourNode.scheduleExport = some [{ timestamp := 0 }] →
      halfHourPricing.scheduleExport = some [⟨1800, 1 / 4, "EUR"⟩] →
      ¬PublishesMerged halfHourNode halfHourPricing RequestNode.scheduleExport
        [{ timestamp := 0 }] [⟨1800, 1 / 4, "EUR"⟩]) :=
  publishCompleteEnergyObject_not_merged halfHourNode halfHourPricing _ _
    (List.pairwise_singleton _ _) (List.pairwise_singleton _ _) nofun

end Published

end EverestCore.Energy
