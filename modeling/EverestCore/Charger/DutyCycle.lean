import EverestCore.Charger.AdvertisedCurrent
import Mathlib.Order.Monotone.Defs
import Mathlib.Tactic.Linarith
import Mathlib.Tactic.Ring

/-! The code between current and duty cycle, from both ends of the cable: the charger
encodes its limit, and the simulated car decodes what it sees. -/
namespace EverestCore

/-- `dutyCycleToAmps` of the car simulator. -/
def dutyCycleToAmps (dc : ℚ) : ℚ :=
  if dc < 8 / 100 then 0
  else if dc < 85 / 100 then dc * 100 * (6 / 10)
  else if dc < 96 / 100 then (dc * 100 - 64) * (25 / 10)
  else if dc < 97 / 100 then 80
  else 0

/-- The currents that the charger advertises with exactly 85 percent. -/
def InGap (ampere : ℚ) : Prop := 51 ≤ ampere ∧ ampere < 525 / 10

instance (ampere : ℚ) : Decidable (InGap ampere) := inferInstanceAs (Decidable (_ ∧ _))

section Pieces

variable {ampere : ℚ}

/-- Less than six amperes cannot be advertised. -/
theorem ampereToDutyCycle_low (hLow : ampere < 59 / 10) : ampereToDutyCycle ampere = 1 := by
  rw [ampereToDutyCycle, if_pos hLow]

/-- A tolerance around six amperes. -/
theorem ampereToDutyCycle_six (hLower : 59 / 10 ≤ ampere) (hUpper : ampere ≤ 61 / 10) :
    ampereToDutyCycle ampere = 1 / 10 := by
  rw [ampereToDutyCycle, if_neg (not_lt.mpr hLower), if_pos hUpper]

/-- The lower of the two ranges of the standard. -/
theorem ampereToDutyCycle_linear (hLower : 61 / 10 < ampere) (hUpper : ampere ≤ 51) :
    ampereToDutyCycle ampere = ampere / 60 := by
  rw [ampereToDutyCycle, if_neg (by linarith), if_neg (by linarith), if_pos (by linarith),
    if_neg (by linarith)]
  ring

/-- Between the two ranges the code falls back to its largest value for the lower one. -/
theorem ampereToDutyCycle_gap (hGap : InGap ampere) : ampereToDutyCycle ampere = 85 / 100 := by
  obtain ⟨hLower, hUpper⟩ := hGap
  rcases hLower.eq_or_lt with rfl | hAbove
  · rw [ampereToDutyCycle_linear (by norm_num) le_rfl]
    norm_num
  · rw [ampereToDutyCycle, if_neg (by linarith), if_neg (by linarith), if_pos hUpper, if_pos hAbove]
    norm_num

/-- The upper range, with a flatter slope. -/
theorem ampereToDutyCycle_high (hLower : 525 / 10 ≤ ampere) (hUpper : ampere ≤ 80) :
    ampereToDutyCycle ampere = (ampere / (25 / 10) + 64) / 100 := by
  rw [ampereToDutyCycle, if_neg (by linarith), if_neg (by linarith), if_neg (by linarith),
    if_pos hUpper]

/-- A tolerance at the upper end. -/
theorem ampereToDutyCycle_tolerance (hLower : 80 < ampere) (hUpper : ampere ≤ 801 / 10) :
    ampereToDutyCycle ampere = 97 / 100 := by
  rw [ampereToDutyCycle, if_neg (by linarith), if_neg (by linarith), if_neg (by linarith),
    if_neg (by linarith), if_pos hUpper]

/-- More than eighty amperes cannot be advertised either. -/
theorem ampereToDutyCycle_beyond (hLower : 801 / 10 < ampere) : ampereToDutyCycle ampere = 1 := by
  rw [ampereToDutyCycle, if_neg (by linarith), if_neg (by linarith), if_neg (by linarith),
    if_neg (by linarith), if_neg (by linarith)]

/-- The car's side of the lower range. -/
theorem dutyCycleToAmps_linear {dc : ℚ} (hLower : 8 / 100 ≤ dc) (hUpper : dc < 85 / 100) :
    dutyCycleToAmps dc = dc * 60 := by
  rw [dutyCycleToAmps, if_neg (not_lt.mpr hLower), if_pos hUpper]
  ring

/-- The car's side of the upper range. -/
theorem dutyCycleToAmps_high {dc : ℚ} (hLower : 85 / 100 ≤ dc) (hUpper : dc < 96 / 100) :
    dutyCycleToAmps dc = (dc * 100 - 64) * (25 / 10) := by
  rw [dutyCycleToAmps, if_neg (by linarith), if_neg (by linarith), if_pos hUpper]

/-- Around six amperes the car decodes six amperes. -/
theorem decoded_six (hLower : 59 / 10 ≤ ampere) (hUpper : ampere ≤ 61 / 10) :
    dutyCycleToAmps (ampereToDutyCycle ampere) = 6 := by
  rw [ampereToDutyCycle_six hLower hUpper]
  norm_num [dutyCycleToAmps]

/-- Outside the range of the code the car decodes nothing. -/
theorem decoded_outside (hOutside : ampere < 59 / 10 ∨ 80 < ampere) :
    dutyCycleToAmps (ampereToDutyCycle ampere) = 0 := by
  rcases hOutside with hLow | hHigh
  · rw [ampereToDutyCycle_low hLow]
    norm_num [dutyCycleToAmps]
  · rcases le_or_gt ampere (801 / 10) with hTolerance | hBeyond
    · rw [ampereToDutyCycle_tolerance hHigh hTolerance]
      norm_num [dutyCycleToAmps]
    · rw [ampereToDutyCycle_beyond hBeyond]
      norm_num [dutyCycleToAmps]

/-- The gap begins where the car already takes the upper line. -/
theorem decoded_gap (hGap : InGap ampere) :
    dutyCycleToAmps (ampereToDutyCycle ampere) = 525 / 10 := by
  rw [ampereToDutyCycle_gap hGap]
  norm_num [dutyCycleToAmps]

/-- Everywhere else the car decodes the current that was encoded. -/
theorem decoded_exact (hLower : 61 / 10 < ampere) (hUpper : ampere ≤ 80) (hGap : ¬InGap ampere) :
    dutyCycleToAmps (ampereToDutyCycle ampere) = ampere := by
  rcases lt_or_ge ampere 51 with hLinear | hAbove
  · rw [ampereToDutyCycle_linear hLower hLinear.le,
      dutyCycleToAmps_linear (by linarith) (by linarith)]
    ring
  · have hHigh : 525 / 10 ≤ ampere := not_lt.mp fun hBelow => hGap ⟨hAbove, hBelow⟩
    rw [ampereToDutyCycle_high hHigh hUpper]
    rcases hUpper.eq_or_lt with rfl | hBelow
    · norm_num [dutyCycleToAmps]
    · rw [dutyCycleToAmps_high (by linarith) (by linarith)]
      ring

end Pieces

/-- The duty cycle grows with the current. -/
theorem ampereToDutyCycle_monotoneOn :
    MonotoneOn ampereToDutyCycle (Set.Icc (59 / 10) (801 / 10)) := by
  intro low hLow high hHigh hLe
  obtain ⟨hFrom, -⟩ := hLow
  obtain ⟨-, hTo⟩ := hHigh
  rw [ampereToDutyCycle, ampereToDutyCycle, if_neg (not_lt.mpr hFrom),
    if_neg (not_lt.mpr (hFrom.trans hLe))]
  simp only [hTo, hLe.trans hTo, if_true]
  -- The pieces of the two currents are compared two by two.
  split_ifs <;> linarith

/-- The code means the same at both ends: the car decodes at most the current and loses less
than 1.5 A, except that around 6 A it decodes 6 A and outside the range nothing. -/
def DecodesRight (ampere : ℚ) : Prop :=
  (61 / 10 < ampere → ampere ≤ 80 →
    dutyCycleToAmps (ampereToDutyCycle ampere) ≤ ampere ∧
    ampere - 15 / 10 < dutyCycleToAmps (ampereToDutyCycle ampere)) ∧
  (59 / 10 ≤ ampere → ampere ≤ 61 / 10 → dutyCycleToAmps (ampereToDutyCycle ampere) = 6) ∧
  (ampere < 59 / 10 ∨ 80 < ampere → dutyCycleToAmps (ampereToDutyCycle ampere) = 0)

/-- The car reads back what was advertised, except in the gap between the ranges. -/
theorem decodesRight_iff (ampere : ℚ) : DecodesRight ampere ↔ ¬InGap ampere := by
  constructor
  · intro hRight hGap
    have hAtMost := (hRight.1 (by linarith [hGap.1]) (by linarith [hGap.2])).1
    rw [decoded_gap hGap] at hAtMost
    linarith [hGap.2]
  · intro hGap
    refine ⟨fun hLower hUpper => ?_, decoded_six, decoded_outside⟩
    rw [decoded_exact hLower hUpper hGap]
    exact ⟨le_rfl, by linarith⟩

/-- The charger and the car agree on the code exactly outside the gap, and the code is
monotone. -/
theorem pwmCode_agrees_iff (ampere : ℚ) :
    (DecodesRight ampere ↔ ¬InGap ampere) ∧
      MonotoneOn ampereToDutyCycle (Set.Icc (59 / 10) (801 / 10)) :=
  ⟨decodesRight_iff ampere, ampereToDutyCycle_monotoneOn⟩

/-- A charger limited to 51 A lets the car draw 52.5 A. -/
theorem pwmCode_disagrees_at_51 : ¬ DecodesRight 51 := by
  intro hRight
  have hAtMost := (hRight.1 (by norm_num) (by norm_num)).1
  norm_num [dutyCycleToAmps, ampereToDutyCycle] at hAtMost

/-- What a car is told in any run: nothing, six amperes for a limit around them, or the limit
that is valid, unless that lies in the gap. -/
theorem decoded_sent_run {memory : Charger} {ppAmpacity : ℚ} {calls : List Call} {c : Call}
    {dc : ℚ} (hSent : .callPwmOn dc ∈ (World.run memory ppAmpacity calls).sent c) :
    let limit := (World.run memory ppAmpacity calls).charger.validLimit c.now
    dutyCycleToAmps dc = 0 ∨ dutyCycleToAmps dc = 6 ∧ 59 / 10 ≤ limit ∧ limit ≤ 61 / 10 ∨
      dutyCycleToAmps dc = limit ∨ InGap limit := by
  intro limit
  obtain ⟨-, rfl | rfl | rfl⟩ := callPwmOn_sent_run hSent
  · exact .inl (by norm_num [dutyCycleToAmps, pwm5Percent])
  · exact .inl (decoded_outside (.inl (by norm_num)))
  · by_cases hOutside : limit < 59 / 10 ∨ 80 < limit
    · exact .inl (decoded_outside hOutside)
    · obtain ⟨hFrom, hTo⟩ := not_or.mp hOutside
      rcases le_or_gt limit (61 / 10) with hSix | hAbove
      · exact .inr (.inl ⟨decoded_six (not_lt.mp hFrom) hSix, not_lt.mp hFrom, hSix⟩)
      · by_cases hGap : InGap limit
        · exact .inr (.inr (.inr hGap))
        · exact .inr (.inr (.inl (decoded_exact hAbove (not_lt.mp hTo) hGap)))

end EverestCore
