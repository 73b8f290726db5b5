import EverestCore.Machine.Loops
import EverestCore.V2G.Response

/-! `check_iso1_charging_profile_values`: the charging profile of the car is compared
with the PMax schedule of the EVSE. The outer loop goes through the profile, the inner
one looks for the schedule entry in which the profile entry starts. Indices and times
wrap around, as in the source. Whether the loops end is decided by the first entry of
the profile, since a schedule entry that was found once is never given up again. -/
namespace EverestCore.V2G.ChargingProfile
open Machine

/-- `iso1RelativeTimeIntervalType`. -/
structure RelativeTimeInterval where
  start : UInt32
  durationIsUsed : Bool
  duration : UInt32
  deriving DecidableEq, Repr

/-- `iso1PMaxScheduleEntryType`. -/
structure PMaxScheduleEntry where
  relativeTimeInterval : RelativeTimeInterval
  pMax : PhysicalValue
  deriving DecidableEq, Repr

/-- `iso1ProfileEntryType`. -/
structure ProfileEntry where
  chargingProfileEntryStart : UInt32
  chargingProfileEntryMaxPower : PhysicalValue
  deriving DecidableEq, Repr

/-- The warnings that are logged. The response code stays as it is, because some cars
do not support schedules correctly. -/
inductive ProfileWarning where
  | maxPowerTooHigh
  | timeExceedsSchedule
  deriving DecidableEq, Repr

/-- The local variables. -/
structure ProfileCheck where
  evIdx : UInt8 := 0
  evTimeSum : UInt32 := 0
  evseTimeSum : UInt32 := 0
  evseIdx : UInt8 := 0
  evTimeIsWithinProfileEntry : Bool := false
  warnings : List ProfileWarning := []
  deriving DecidableEq, Repr

def ProfileCheck.warn (warning : ProfileWarning) (check : ProfileCheck) : ProfileCheck :=
  { check with warnings := check.warnings ++ [warning] }

/-- `duration_isUsed * duration`. -/
def RelativeTimeInterval.usedDuration (interval : RelativeTimeInterval) : UInt32 :=
  if interval.durationIsUsed then interval.duration else 0

/-- Whether the time of the car is within the schedule entry at an index. The last
entry ends with its duration, the others where the next one starts. -/
def isWithin (schedule : List PMaxScheduleEntry) (evTimeSum evseTimeSum : UInt32) (evseIdx : ℕ)
    (entry : PMaxScheduleEntry) : Bool :=
  match schedule[evseIdx + 1]? with
  | some following => evTimeSum ≥ evseTimeSum &&
      evTimeSum < evseTimeSum + following.relativeTimeInterval.start
  | none => evTimeSum ≥ evseTimeSum &&
      evTimeSum ≤ evseTimeSum + entry.relativeTimeInterval.usedDuration

/-- A round of the inner loop. -/
def searchRound (schedule : List PMaxScheduleEntry) (maxPower : PhysicalValue)
    (check : ProfileCheck) : Next ProfileCheck :=
  match schedule[check.evseIdx.toNat]? with
  | none => .leave check
  | some entry =>
      if check.evTimeIsWithinProfileEntry then .leave check
      else
        let evseTimeSum := check.evseTimeSum + entry.relativeTimeInterval.start
        let within := isWithin schedule check.evTimeSum evseTimeSum check.evseIdx.toNat entry
        let check := { check with
          evseTimeSum := evseTimeSum
          evTimeIsWithinProfileEntry := within }
        if within then
          if calcPhysicalValue maxPower > calcPhysicalValue entry.pMax then
            .leave (check.warn .maxPowerTooHigh)
          else .again check
        else if check.evseIdx.toNat + 1 = schedule.length then
          .again (check.warn .timeExceedsSchedule)
        else .again { check with evseIdx := check.evseIdx + 1 }

/-- The body of the inner loop: a round of it always has a result. -/
def search (schedule : List PMaxScheduleEntry) (maxPower : PhysicalValue)
    (check : ProfileCheck) : Option (Next ProfileCheck) :=
  some (searchRound schedule maxPower check)

/-- A round of the outer loop, whose inner loop is followed for `fuel` rounds. -/
def profileRound (fuel : ℕ) (schedule : List PMaxScheduleEntry) (profile : List ProfileEntry)
    (responseCode : ResponseCode) (check : ProfileCheck) : Option (Next ProfileCheck) :=
  match profile[check.evIdx.toNat]? with
  | none => some (.leave check)
  | some entry =>
      if responseCode ≠ .ok then some (.leave check)
      else
        let check := { check with
          evTimeSum := check.evTimeSum + entry.chargingProfileEntryStart }
        (loop? (search schedule entry.chargingProfileEntryMaxPower) fuel check).map fun check =>
          .again { check with evIdx := check.evIdx + 1 }

/-- `check_iso1_charging_profile_values`, with both loops followed for `fuel` rounds:
the warnings, if that is enough. There is no profile if the request has none. -/
def checkIso1ChargingProfileValues (fuel : ℕ) (schedule : List PMaxScheduleEntry)
    (profile : Option (List ProfileEntry)) (responseCode : ResponseCode) :
    Option (List ProfileWarning) :=
  match profile with
  | none => some []
  | some profile =>
      (loop? (profileRound fuel schedule profile responseCode) fuel {}).map (·.warnings)

/-- The check returns. -/
def Terminates (schedule : List PMaxScheduleEntry) (profile : Option (List ProfileEntry))
    (responseCode : ResponseCode) : Prop :=
  ∃ fuel warnings,
    checkIso1ChargingProfileValues fuel schedule profile responseCode = some warnings

/-- The index that round `k` of a search looks at: it stops at the last entry, unless
it wraps around before. -/
def entryIndex (schedule : List PMaxScheduleEntry) (k : ℕ) : ℕ :=
  if schedule.length ≤ 256 then min k (schedule.length - 1) else k % 256

/-- The sum of the starts that a search has seen before round `k`. -/
def timeBefore (schedule : List PMaxScheduleEntry) : ℕ → UInt32
  | 0 => 0
  | k + 1 => timeBefore schedule k +
      (schedule[entryIndex schedule k]?.elim 0 (·.relativeTimeInterval.start))

/-- A start of the car that lies in the window of round `k`. -/
def FitsAt (schedule : List PMaxScheduleEntry) (start : UInt32) (k : ℕ) : Prop :=
  ∃ entry, schedule[entryIndex schedule k]? = some entry ∧
    isWithin schedule start (timeBefore schedule (k + 1)) (entryIndex schedule k) entry = true

variable {schedule : List PMaxScheduleEntry}

theorem entryIndex_lt (hSchedule : schedule ≠ []) (k : ℕ) :
    entryIndex schedule k < schedule.length := by
  have hLength := List.length_pos_iff.mpr hSchedule
  unfold entryIndex
  split <;> omega

theorem entryIndex_succ_of_last (k : ℕ) (hLast : entryIndex schedule k + 1 = schedule.length) :
    entryIndex schedule (k + 1) = entryIndex schedule k := by
  unfold entryIndex at hLast ⊢
  split at hLast <;> split <;> omega

theorem entryIndex_succ (hSchedule : schedule ≠ []) (k : ℕ)
    (hLast : entryIndex schedule k + 1 ≠ schedule.length) :
    entryIndex schedule (k + 1) = (entryIndex schedule k + 1) % 256 := by
  have hLength := List.length_pos_iff.mpr hSchedule
  unfold entryIndex at hLast ⊢
  split at hLast <;> split <;> omega

/-! The windows in closed form. -/

/-- The sum of so many starts of a schedule, from its first entry on. -/
def startSum (schedule : List PMaxScheduleEntry) : ℕ → UInt32
  | 0 => 0
  | count + 1 => startSum schedule count +
      (schedule[count]?.elim 0 (·.relativeTimeInterval.start))

/-- The window of an entry that another one follows, with all starts up to its own and
`offset` before it. -/
def InWindow (schedule : List PMaxScheduleEntry) (start offset : UInt32) (index : ℕ) : Prop :=
  ∃ following, schedule[index + 1]? = some following ∧
    offset + startSum schedule (index + 1) ≤ start ∧
    start < offset + startSum schedule (index + 1) + following.relativeTimeInterval.start

/-- The window of the last entry, once its start has been added so many more times. -/
def InLastWindow (schedule : List PMaxScheduleEntry) (start rounds : UInt32) : Prop :=
  ∃ entry, schedule.getLast? = some entry ∧
    startSum schedule schedule.length + rounds * entry.relativeTimeInterval.start ≤ start ∧
    start ≤ startSum schedule schedule.length + rounds * entry.relativeTimeInterval.start +
      entry.relativeTimeInterval.usedDuration

/-- The start of a profile lies in a window that the search comes to. At most 256
entries are gone through once, and the search stays at the last one, whose start it adds
again and again. More are more than an index of eight bits can count: the search goes
round the first 256 of them. All times are sums of 32 bits. -/
def FitsSchedule (schedule : List PMaxScheduleEntry) (start : UInt32) : Prop :=
  if schedule.length ≤ 256 then
    (∃ index, InWindow schedule start 0 index) ∨ ∃ rounds, InLastWindow schedule start rounds
  else
    ∃ index < 256, ∃ rounds, InWindow schedule start (rounds * startSum schedule 256) index

theorem isWithin_iff_of_following {evTimeSum evseTimeSum : UInt32} {index : ℕ}
    {entry following : PMaxScheduleEntry} (hFollowing : schedule[index + 1]? = some following) :
    isWithin schedule evTimeSum evseTimeSum index entry = true ↔
      evseTimeSum ≤ evTimeSum ∧ evTimeSum < evseTimeSum + following.relativeTimeInterval.start := by
  simp [isWithin, hFollowing]

theorem isWithin_iff_of_last {evTimeSum evseTimeSum : UInt32} {index : ℕ}
    {entry : PMaxScheduleEntry} (hLast : schedule[index + 1]? = none) :
    isWithin schedule evTimeSum evseTimeSum index entry = true ↔
      evseTimeSum ≤ evTimeSum ∧
        evTimeSum ≤ evseTimeSum + entry.relativeTimeInterval.usedDuration := by
  simp [isWithin, hLast]

/-- In their first rounds all searches go through the schedule entry by entry. -/
theorem timeBefore_eq_startSum {k : ℕ} (hByte : k ≤ 256) (hLength : k ≤ schedule.length) :
    timeBefore schedule k = startSum schedule k := by
  induction k with
  | zero => rfl
  | succ k ih =>
      have hIndex : entryIndex schedule k = k := by
        unfold entryIndex
        split <;> omega
      rw [timeBefore, startSum, ih (by omega) (by omega), hIndex]

theorem mul_add_one_toUInt32 (rounds : ℕ) (time : UInt32) :
    UInt32.ofNat (rounds + 1) * time = UInt32.ofNat rounds * time + time := by
  rw [UInt32.ofNat_add, UInt32.add_mul]
  exact congrArg _ (UInt32.one_mul time)

/-- At the last entry each further round adds its start once more. -/
theorem timeBefore_last (hByte : schedule.length ≤ 256) {entry : PMaxScheduleEntry}
    (hLast : schedule.getLast? = some entry) (rounds : ℕ) :
    timeBefore schedule (schedule.length + rounds) =
      startSum schedule schedule.length +
        UInt32.ofNat rounds * entry.relativeTimeInterval.start := by
  induction rounds with
  | zero =>
      rw [Nat.add_zero, timeBefore_eq_startSum hByte le_rfl]
      simp
  | succ rounds ih =>
      have hIndex : entryIndex schedule (schedule.length + rounds) = schedule.length - 1 := by
        unfold entryIndex
        split <;> omega
      rw [← Nat.add_assoc, timeBefore, ih, hIndex, ← List.getLast?_eq_getElem?, hLast,
        mul_add_one_toUInt32, UInt32.add_assoc]
      rfl

/-- Where the index wraps around, every 256 rounds are a cycle. -/
theorem timeBefore_cycle (hLong : 256 < schedule.length) (rounds : ℕ) {index : ℕ}
    (hIndex : index ≤ 256) :
    timeBefore schedule (256 * rounds + index) =
      UInt32.ofNat rounds * startSum schedule 256 + startSum schedule index := by
  induction rounds generalizing index with
  | zero =>
      rw [Nat.mul_zero, Nat.zero_add, timeBefore_eq_startSum hIndex (by omega)]
      simp
  | succ rounds ih =>
      induction index with
      | zero =>
          rw [mul_add_one_toUInt32, startSum, UInt32.add_zero]
          exact ih le_rfl
      | succ index ihIndex =>
          have hEntry : entryIndex schedule (256 * (rounds + 1) + index) = index := by
            unfold entryIndex
            split <;> omega
          have hSum : startSum schedule (index + 1) = startSum schedule index +
              (schedule[index]?.elim 0 (·.relativeTimeInterval.start)) := rfl
          rw [← Nat.add_assoc, timeBefore, ihIndex (by omega), hEntry, hSum, UInt32.add_assoc]

theorem fitsAt_iff_inWindow {start offset : UInt32} {k index : ℕ}
    (hIndex : entryIndex schedule k = index) (hFollowed : index + 1 < schedule.length)
    (hTime : timeBefore schedule (k + 1) = offset + startSum schedule (index + 1)) :
    FitsAt schedule start k ↔ InWindow schedule start offset index := by
  have hEntry : schedule[index]? = some schedule[index] := List.getElem?_eq_getElem (by omega)
  have hFollowing : schedule[index + 1]? = some schedule[index + 1] :=
    List.getElem?_eq_getElem hFollowed
  simp only [FitsAt, InWindow, hIndex, hTime, hEntry, hFollowing, Option.some.injEq,
    exists_eq_left', isWithin_iff_of_following hFollowing]

theorem fitsAt_iff_inLastWindow (hSchedule : schedule ≠ []) (hByte : schedule.length ≤ 256)
    (start : UInt32) (rounds : ℕ) :
    FitsAt schedule start (schedule.length - 1 + rounds) ↔
      InLastWindow schedule start (UInt32.ofNat rounds) := by
  have hLength := List.length_pos_iff.mpr hSchedule
  obtain ⟨entry, hLast⟩ : ∃ entry, schedule.getLast? = some entry :=
    ⟨_, List.getLast?_eq_some_getLast hSchedule⟩
  have hIndex : entryIndex schedule (schedule.length - 1 + rounds) = schedule.length - 1 := by
    unfold entryIndex
    split <;> omega
  have hEntry : schedule[schedule.length - 1]? = some entry := by
    rw [← List.getLast?_eq_getElem?, hLast]
  have hEnd : schedule[schedule.length - 1 + 1]? = none := List.getElem?_eq_none (by omega)
  have hRounds : schedule.length - 1 + rounds + 1 = schedule.length + rounds := by omega
  simp only [FitsAt, InLastWindow, hIndex, hEntry, hLast, hRounds, timeBefore_last hByte hLast,
    Option.some.injEq, exists_eq_left', isWithin_iff_of_last hEnd]

theorem InWindow.index_lt {start offset : UInt32} {index : ℕ}
    (h : InWindow schedule start offset index) : index + 1 < schedule.length := by
  obtain ⟨following, hFollowing, -⟩ := h
  exact (List.getElem?_eq_some_iff.mp hFollowing).choose

/-- The search comes to a window with the start in it exactly if the start lies in one of
the windows in closed form. -/
theorem exists_fitsAt_iff (hSchedule : schedule ≠ []) (start : UInt32) :
    (∃ k, FitsAt schedule start k) ↔ FitsSchedule schedule start := by
  have hLength := List.length_pos_iff.mpr hSchedule
  unfold FitsSchedule
  split_ifs with hByte
  · -- A round before the last entry, or one at it.
    have hFollowed {k : ℕ} (hk : k + 1 < schedule.length) :
        FitsAt schedule start k ↔ InWindow schedule start 0 k := by
      refine fitsAt_iff_inWindow ?_ hk ?_
      · unfold entryIndex
        split <;> omega
      · rw [timeBefore_eq_startSum (by omega) (by omega), UInt32.zero_add]
    constructor
    · rintro ⟨k, hFits⟩
      by_cases hk : k + 1 < schedule.length
      · exact .inl ⟨k, (hFollowed hk).mp hFits⟩
      · obtain ⟨rounds, rfl⟩ := Nat.exists_eq_add_of_le (by omega : schedule.length - 1 ≤ k)
        exact .inr ⟨_, (fitsAt_iff_inLastWindow hSchedule hByte start rounds).mp hFits⟩
    · rintro (⟨index, hWindow⟩ | ⟨rounds, hWindow⟩)
      · exact ⟨index, (hFollowed hWindow.index_lt).mpr hWindow⟩
      · rw [← UInt32.ofNat_toNat (x := rounds)] at hWindow
        exact ⟨_, (fitsAt_iff_inLastWindow hSchedule hByte start rounds.toNat).mpr hWindow⟩
  · -- A round of some cycle.
    have hLong : 256 < schedule.length := by omega
    have hCycle (rounds : ℕ) {index : ℕ} (hIndex : index < 256) :
        FitsAt schedule start (256 * rounds + index) ↔
          InWindow schedule start (UInt32.ofNat rounds * startSum schedule 256) index := by
      refine fitsAt_iff_inWindow ?_ (by omega : index + 1 < schedule.length) ?_
      · unfold entryIndex
        split <;> omega
      · exact timeBefore_cycle hLong rounds (Nat.succ_le_of_lt hIndex)
    constructor
    · rintro ⟨k, hFits⟩
      have hIndex : k % 256 < 256 := Nat.mod_lt _ (by decide)
      rw [← Nat.div_add_mod k 256] at hFits
      exact ⟨k % 256, hIndex, _, (hCycle _ hIndex).mp hFits⟩
    · rintro ⟨index, hIndex, rounds, hWindow⟩
      rw [← UInt32.ofNat_toNat (x := rounds)] at hWindow
      exact ⟨_, (hCycle _ hIndex).mpr hWindow⟩

/-- A search for `start` that is about to begin round `k`. -/
structure AtRound (schedule : List PMaxScheduleEntry) (start : UInt32) (k : ℕ)
    (check : ProfileCheck) : Prop where
  evTimeSum : check.evTimeSum = start
  evseIdx : check.evseIdx.toNat = entryIndex schedule k
  evseTimeSum : check.evseTimeSum = timeBefore schedule k
  searching : check.evTimeIsWithinProfileEntry = false

theorem AtRound.entry (hSchedule : schedule ≠ []) {start : UInt32} {k : ℕ} {check : ProfileCheck}
    (h : AtRound schedule start k check) :
    ∃ entry, schedule[check.evseIdx.toNat]? = some entry ∧
      schedule[entryIndex schedule k]? = some entry ∧
      check.evseTimeSum + entry.relativeTimeInterval.start = timeBefore schedule (k + 1) := by
  have hIndex := entryIndex_lt hSchedule k
  refine ⟨schedule[entryIndex schedule k], ?_, List.getElem?_eq_getElem hIndex, ?_⟩
  · rw [h.evseIdx]
    exact List.getElem?_eq_getElem hIndex
  · rw [timeBefore, List.getElem?_eq_getElem hIndex, h.evseTimeSum]
    rfl

/-- A round whose window does not hold the start goes on to the next round. -/
theorem searchRound_misses (hSchedule : schedule ≠ []) {start : UInt32} {k : ℕ}
    {check : ProfileCheck} (h : AtRound schedule start k check) (hMiss : ¬ FitsAt schedule start k)
    (maxPower : PhysicalValue) :
    ∃ next, searchRound schedule maxPower check = .again next ∧ next.evIdx = check.evIdx ∧
      AtRound schedule start (k + 1) next := by
  obtain ⟨entry, hEntry, hAt, hSum⟩ := h.entry hSchedule
  have hOutside : isWithin schedule check.evTimeSum
      (check.evseTimeSum + entry.relativeTimeInterval.start) check.evseIdx.toNat entry = false := by
    rw [hSum, h.evTimeSum, h.evseIdx, ← Bool.not_eq_true]
    intro hWithin
    exact hMiss ⟨entry, hAt, hWithin⟩
  unfold searchRound
  simp only [hEntry, h.searching, hOutside]
  by_cases hLast : check.evseIdx.toNat + 1 = schedule.length
  · rw [if_pos hLast]
    refine ⟨_, rfl, rfl, h.evTimeSum, ?_, hSum, rfl⟩
    rw [h.evseIdx] at hLast
    exact h.evseIdx.trans (entryIndex_succ_of_last k hLast).symm
  · rw [if_neg hLast]
    refine ⟨_, rfl, rfl, h.evTimeSum, ?_, hSum, rfl⟩
    show (check.evseIdx + 1).toNat = entryIndex schedule (k + 1)
    rw [h.evseIdx] at hLast
    rw [entryIndex_succ hSchedule k hLast, UInt8.toNat_add, h.evseIdx]
    rfl

/-- A round that starts within a schedule entry already leaves the search at once. -/
theorem searchRound_within (maxPower : PhysicalValue) {check : ProfileCheck}
    (hWithin : check.evTimeIsWithinProfileEntry = true) :
    searchRound schedule maxPower check = .leave check := by
  unfold searchRound
  cases schedule[check.evseIdx.toNat]? with
  | none => rfl
  | some entry => simp only [hWithin, if_true]

/-- A round whose window holds the start has found its entry. -/
theorem searchRound_fits (hSchedule : schedule ≠ []) {start : UInt32} {k : ℕ}
    {check : ProfileCheck} (h : AtRound schedule start k check) (hFits : FitsAt schedule start k)
    (maxPower : PhysicalValue) :
    ∃ found, (searchRound schedule maxPower check = .leave found ∨
        searchRound schedule maxPower check = .again found) ∧
      found.evTimeIsWithinProfileEntry = true ∧ found.evIdx = check.evIdx := by
  obtain ⟨entry, hEntry, hAt, hSum⟩ := h.entry hSchedule
  have hInside : isWithin schedule check.evTimeSum
      (check.evseTimeSum + entry.relativeTimeInterval.start) check.evseIdx.toNat entry = true := by
    obtain ⟨other, hOther, hWithin⟩ := hFits
    cases hAt.symm.trans hOther
    rwa [hSum, h.evTimeSum, h.evseIdx]
  unfold searchRound
  simp only [hEntry, h.searching, hInside]
  by_cases hPower : calcPhysicalValue maxPower > calcPhysicalValue entry.pMax
  · simp only [hPower, if_true, Bool.false_eq_true, if_false]
    exact ⟨_, .inl rfl, rfl, rfl⟩
  · simp only [hPower, if_true, Bool.false_eq_true, if_false]
    exact ⟨_, .inr rfl, rfl, rfl⟩

/-- The inner loop ends if the start is in the window of some round. -/
theorem search_ends (hSchedule : schedule ≠ []) {start : UInt32} {m : ℕ}
    (hFits : FitsAt schedule start m) (maxPower : PhysicalValue) {check : ProfileCheck}
    (hCheck : AtRound schedule start 0 check) {fuel : ℕ} (hFuel : m + 1 < fuel) :
    ∃ final, loop? (search schedule maxPower) fuel check = some final ∧
      final.evTimeIsWithinProfileEntry = true ∧ final.evIdx = check.evIdx := by
  -- one round for every window up to the one that fits, and one to notice that it does
  let inv (rank : ℕ) (now : ProfileCheck) : Prop := now.evIdx = check.evIdx ∧
    (now.evTimeIsWithinProfileEntry = true ∨
      ∃ k ≤ m, AtRound schedule start k now ∧ rank = m + 1 - k)
  apply loop?_ends inv _ _ ⟨rfl, .inr ⟨0, Nat.zero_le m, hCheck, rfl⟩⟩ hFuel
  rintro rank now ⟨hIdx, hWithin | ⟨k, hk, hAt, rfl⟩⟩
  · exact .inl ⟨now, congrArg some (searchRound_within maxPower hWithin), hWithin, hIdx⟩
  · by_cases hHere : FitsAt schedule start k
    · obtain ⟨found, hRound, hWithin, hSame⟩ := searchRound_fits hSchedule hAt hHere maxPower
      rcases hRound with hLeave | hAgain
      · exact .inl ⟨found, congrArg some hLeave, hWithin, hSame.trans hIdx⟩
      · exact .inr ⟨found, congrArg some hAgain, 0, by omega, hSame.trans hIdx, .inl hWithin⟩
    · have hBefore : k ≠ m := by
        rintro rfl
        exact hHere hFits
      obtain ⟨next, hAgain, hSame, hNext⟩ := searchRound_misses hSchedule hAt hHere maxPower
      exact .inr ⟨next, congrArg some hAgain, m - k, by omega, hSame.trans hIdx,
        .inr ⟨k + 1, by omega, hNext, by omega⟩⟩

/-- The inner loop goes on forever if the start is in no window. -/
theorem search_stuck (hSchedule : schedule ≠ []) {start : UInt32}
    (hNever : ∀ k, ¬ FitsAt schedule start k) (maxPower : PhysicalValue) {check : ProfileCheck}
    (hCheck : AtRound schedule start 0 check) (fuel : ℕ) :
    loop? (search schedule maxPower) fuel check = none := by
  apply loop?_stuck (fun now => ∃ k, AtRound schedule start k now) _ fuel ⟨0, hCheck⟩
  rintro now ⟨k, hAt⟩
  obtain ⟨next, hAgain, -, hNext⟩ := searchRound_misses hSchedule hAt (hNever k) maxPower
  exact .inr ⟨next, congrArg some hAgain, k + 1, hNext⟩

/-- A search that has nothing to do leaves at once. -/
theorem search_idle (maxPower : PhysicalValue) {check : ProfileCheck}
    (hIdle : schedule = [] ∨ check.evTimeIsWithinProfileEntry = true) {fuel : ℕ}
    (hFuel : 0 < fuel) : loop? (search schedule maxPower) fuel check = some check := by
  obtain ⟨fuel, rfl⟩ := Nat.exists_eq_succ_of_ne_zero hFuel.ne'
  apply loop?_leave
  rcases hIdle with rfl | hWithin
  · rfl
  · exact congrArg some (searchRound_within maxPower hWithin)

/-- The first search starts at the first window. -/
theorem atRound_zero (start : UInt32) :
    AtRound schedule start 0 { evTimeSum := 0 + start } := by
  refine ⟨UInt32.zero_add start, ?_, rfl, rfl⟩
  unfold entryIndex
  simp

/-- The outer loop is at its first entry, or no later search has anything to do. -/
def Settled (schedule : List PMaxScheduleEntry) (check : ProfileCheck) : Prop :=
  (schedule = [] ∨ check.evTimeIsWithinProfileEntry = true) ∨ check = {}

/-- Every search ends, with enough fuel for the first one. -/
theorem search_settled {first entry : ProfileEntry} {rest : List ProfileEntry} {m fuel : ℕ}
    (hFirst : schedule = [] ∨ FitsAt schedule first.chargingProfileEntryStart m)
    (hFuel : m + 1 < fuel) {check : ProfileCheck} (hCheck : Settled schedule check)
    (hEntry : (first :: rest)[check.evIdx.toNat]? = some entry) :
    ∃ final, loop? (search schedule entry.chargingProfileEntryMaxPower) fuel
        { check with evTimeSum := check.evTimeSum + entry.chargingProfileEntryStart } = some final ∧
      (schedule = [] ∨ final.evTimeIsWithinProfileEntry = true) ∧ final.evIdx = check.evIdx := by
  have hSome : 0 < fuel := by omega
  by_cases hEmpty : schedule = []
  · exact ⟨_, search_idle _ (.inl hEmpty) hSome, .inl hEmpty, rfl⟩
  · rcases hCheck with hIdle | rfl
    · refine ⟨_, search_idle _ ?_ hSome, hIdle, rfl⟩
      exact hIdle
    · obtain rfl : first = entry := by simpa using hEntry
      have hFits := hFirst.resolve_left hEmpty
      obtain ⟨final, hLoop, hWithin, hIdx⟩ := search_ends hEmpty hFits
        first.chargingProfileEntryMaxPower (atRound_zero _) hFuel
      exact ⟨final, hLoop, .inr hWithin, hIdx⟩

/-- A round of the outer loop with enough fuel for the first search. -/
theorem profileRound_settled {first : ProfileEntry} {rest : List ProfileEntry} {m fuel : ℕ}
    (hFirst : schedule = [] ∨ FitsAt schedule first.chargingProfileEntryStart m)
    (hFuel : m + 1 < fuel) (responseCode : ResponseCode) {check : ProfileCheck}
    (hCheck : Settled schedule check) :
    (∃ final, profileRound fuel schedule (first :: rest) responseCode check =
      some (.leave final)) ∨
    check.evIdx.toNat < (first :: rest).length ∧
      ∃ next, profileRound fuel schedule (first :: rest) responseCode check = some (.again next) ∧
        next.evIdx = check.evIdx + 1 ∧ Settled schedule next := by
  unfold profileRound
  cases hEntry : (first :: rest)[check.evIdx.toNat]? with
  | none => exact .inl ⟨check, rfl⟩
  | some entry =>
      obtain ⟨hIndex, -⟩ := List.getElem?_eq_some_iff.mp hEntry
      by_cases hCode : responseCode = .ok
      · obtain ⟨final, hLoop, hSettled, hIdx⟩ := search_settled hFirst hFuel hCheck hEntry
        simp only [hCode, ne_eq, not_true, if_false, hLoop, Option.map_some]
        exact .inr ⟨hIndex, _, rfl, congrArg (· + 1) hIdx, .inl hSettled⟩
      · simp only [ne_eq, hCode, not_false_eq_true, if_true]
        exact .inl ⟨check, rfl⟩

/-- The loops end if the first search does and the index of the profile does not wrap
around. -/
theorem profile_ends {first : ProfileEntry} {rest : List ProfileEntry} {m : ℕ}
    (hLength : rest.length < 255)
    (hFirst : schedule = [] ∨ FitsAt schedule first.chargingProfileEntryStart m)
    (responseCode : ResponseCode) :
    Terminates schedule (some (first :: rest)) responseCode := by
  have hFuel : m + 1 < m + 2 + rest.length := by omega
  have hRank : (first :: rest).length < m + 2 + rest.length := by
    simp only [List.length_cons]
    omega
  generalize m + 2 + rest.length = fuel at hFuel hRank
  have hLoop : ∃ final, loop? (profileRound fuel schedule (first :: rest) responseCode) fuel {} =
      some final ∧ True := by
    apply loop?_ends (fun rank check => rank = (first :: rest).length - check.evIdx.toNat ∧
      Settled schedule check) _ _ ⟨rfl, .inr rfl⟩ hRank
    rintro rank check ⟨rfl, hCheck⟩
    rcases profileRound_settled hFirst hFuel responseCode hCheck with
      ⟨final, hLeave⟩ | ⟨hIndex, next, hAgain, hIdx, hNext⟩
    · exact .inl ⟨final, hLeave, trivial⟩
    · have hNoWrap : (check.evIdx + 1).toNat = check.evIdx.toNat + 1 := by
        rw [UInt8.toNat_add, UInt8.toNat_one]
        apply Nat.mod_eq_of_lt
        simp only [List.length_cons] at hIndex
        omega
      refine .inr ⟨next, hAgain, _, ?_, rfl, hNext⟩
      rw [hIdx, hNoWrap]
      omega
  obtain ⟨final, hFinal, -⟩ := hLoop
  refine ⟨fuel, final.warnings, ?_⟩
  simp only [checkIso1ChargingProfileValues, hFinal, Option.map_some]

/-- The outer loop goes on forever if its index wraps around before the end of the
profile. -/
theorem profile_wraps {profile : List ProfileEntry} (hLength : 256 ≤ profile.length) :
    ¬ Terminates schedule (some profile) .ok := by
  rintro ⟨fuel, warnings, hCheck⟩
  have hStuck : loop? (profileRound fuel schedule profile .ok) fuel {} = none := by
    apply loop?_stuck (fun _ => True) _ fuel trivial
    intro check _
    have hIndex : check.evIdx.toNat < profile.length := by
      have := check.evIdx.toNat_lt
      omega
    unfold profileRound
    simp only [List.getElem?_eq_getElem hIndex, ne_eq, not_true, if_false]
    cases loop? (search schedule _) fuel _ with
    | none => exact .inl rfl
    | some final => exact .inr ⟨_, rfl, trivial⟩
  simp [checkIso1ChargingProfileValues, hStuck] at hCheck

/-- The check hangs in its first search if the first start is in no window. -/
theorem profile_hangs (hSchedule : schedule ≠ []) {first : ProfileEntry} {rest : List ProfileEntry}
    (hNever : ∀ k, ¬ FitsAt schedule first.chargingProfileEntryStart k) :
    ¬ Terminates schedule (some (first :: rest)) .ok := by
  rintro ⟨fuel, warnings, hCheck⟩
  have hStuck : loop? (profileRound fuel schedule (first :: rest) .ok) fuel {} = none := by
    apply loop?_stuck (fun check => check = {}) _ fuel rfl
    rintro check rfl
    left
    have hSearch := search_stuck hSchedule hNever first.chargingProfileEntryMaxPower
      (atRound_zero _) fuel
    rw [UInt32.zero_add] at hSearch
    unfold profileRound
    simp [hSearch]
  simp [checkIso1ChargingProfileValues, hStuck] at hCheck

/-- With a response code that is no longer OK nothing is checked. -/
theorem profile_skipped {responseCode : ResponseCode} (hCode : responseCode ≠ .ok)
    (profile : List ProfileEntry) : Terminates schedule (some profile) responseCode := by
  have hRound : profileRound 1 schedule profile responseCode {} = some (.leave {}) := by
    unfold profileRound
    cases profile[(0 : UInt8).toNat]? with
    | none => rfl
    | some entry => simp only [ne_eq, hCode, not_false_eq_true, if_true]
  refine ⟨1, [], ?_⟩
  rw [checkIso1ChargingProfileValues, loop?_leave hRound]
  rfl

/-- The check returns exactly if there is nothing to check, or if the profile has at
most 255 entries and the schedule is empty or has a window in which the first entry of the
profile starts. -/
theorem checkIso1ChargingProfileValues_terminates_iff (schedule : List PMaxScheduleEntry)
    (profile : Option (List ProfileEntry)) (responseCode : ResponseCode) :
    Terminates schedule profile responseCode ↔
      profile = none ∨ profile = some [] ∨ responseCode ≠ .ok ∨
      ∃ first rest, profile = some (first :: rest) ∧ rest.length < 255 ∧
        (schedule = [] ∨ FitsSchedule schedule first.chargingProfileEntryStart) := by
  constructor
  · intro hTerminates
    by_contra hNot
    push Not at hNot
    obtain ⟨hUsed, hSome, rfl, hFirst⟩ := hNot
    obtain ⟨_ | ⟨first, rest⟩, rfl⟩ := Option.ne_none_iff_exists'.mp hUsed
    · exact hSome rfl
    · by_cases hLength : rest.length < 255
      · obtain ⟨hSchedule, hNever⟩ := hFirst first rest rfl hLength
        rw [← exists_fitsAt_iff hSchedule, not_exists] at hNever
        exact profile_hangs hSchedule hNever hTerminates
      · refine profile_wraps ?_ hTerminates
        simp only [List.length_cons]
        omega
  · rintro (rfl | rfl | hCode | ⟨first, rest, rfl, hLength, hFirst⟩)
    · exact ⟨0, [], rfl⟩
    · exact ⟨1, [], rfl⟩
    · cases profile with
      | none => exact ⟨0, [], rfl⟩
      | some profile => exact profile_skipped hCode profile
    · by_cases hSchedule : schedule = []
      · exact profile_ends hLength (m := 0) (.inl hSchedule) responseCode
      · have hFits := hFirst.resolve_left hSchedule
        rw [← exists_fitsAt_iff hSchedule] at hFits
        obtain ⟨m, hFits⟩ := hFits
        exact profile_ends hLength (.inr hFits) responseCode

/-- `SA_SCHEDULE_DURATION`. -/
def saScheduleDuration : UInt32 := 86400

/-- The schedule that `handle_iso_charge_parameter_discovery` configures if nobody else
did: one entry for a day. -/
def daySchedule (pMax : PhysicalValue) : List PMaxScheduleEntry :=
  [{ relativeTimeInterval :=
       { start := 0, durationIsUsed := true, duration := saScheduleDuration }
     pMax }]

theorem timeBefore_daySchedule (pMax : PhysicalValue) (k : ℕ) :
    timeBefore (daySchedule pMax) k = 0 := by
  induction k with
  | zero => rfl
  | succ k ih =>
      have hIndex : entryIndex (daySchedule pMax) k = 0 := by simp [entryIndex, daySchedule]
      rw [timeBefore, ih, hIndex]
      rfl

/-- Only a start on the first day is in a window of this schedule. -/
theorem fitsAt_daySchedule {pMax : PhysicalValue} {start : UInt32} {k : ℕ}
    (hFits : FitsAt (daySchedule pMax) start k) : start ≤ saScheduleDuration := by
  obtain ⟨entry, hEntry, hWithin⟩ := hFits
  have hIndex : entryIndex (daySchedule pMax) k = 0 := by simp [entryIndex, daySchedule]
  rw [hIndex] at hEntry hWithin
  cases hEntry
  rw [timeBefore_daySchedule] at hWithin
  simp only [isWithin, daySchedule, List.length_singleton, Nat.lt_irrefl, not_false_eq_true,
    getElem?_neg, Nat.zero_add, RelativeTimeInterval.usedDuration, if_true, UInt32.zero_add,
    Bool.and_eq_true, decide_eq_true_eq] at hWithin
  exact hWithin.2

/-- A car whose profile starts later than that hangs the charger. -/
theorem checkIso1ChargingProfileValues_hangs :
    ¬ Terminates (daySchedule ⟨3, 11⟩)
      (some [{ chargingProfileEntryStart := 100000, chargingProfileEntryMaxPower := ⟨3, 11⟩ }])
      .ok := by
  apply profile_hangs (List.cons_ne_nil _ _)
  intro k hFits
  exact absurd (fitsAt_daySchedule hFits) (by decide)

end EverestCore.V2G.ChargingProfile
