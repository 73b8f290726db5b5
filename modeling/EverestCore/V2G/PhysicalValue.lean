import EverestCore.V2G.EvseData
import Mathlib.Data.Rat.Floor
import Mathlib.Tactic.Linarith
import Mathlib.Order.Bounds.Defs

/-! The two functions that write a physical value, with the unit and for any number of
decimal places. The servers' `populatePhysicalValue` and `populatePhysicalValueFloat` are
what the servers see of them. -/
namespace EverestCore.V2G

/-- What sixteen bits with a sign can hold. -/
def FitsInt16 (value : ℤ) : Prop := int16Min ≤ value ∧ value ≤ int16Max

instance (value : ℤ) : Decidable (FitsInt16 value) := inferInstanceAs (Decidable (_ ∧ _))

theorem not_fitsInt16_iff (value : ℤ) :
    ¬FitsInt16 value ↔ int16Max < value ∨ value < int16Min := by
  unfold FitsInt16
  omega

theorem bmod_of_fitsInt16 {value : ℤ} (hFits : FitsInt16 value) : value.bmod 65536 = value := by
  unfold FitsInt16 int16Min int16Max at hFits
  exact Int.bmod_eq_of_le (by omega) (by omega)

/-- Two truncating divisions are one. -/
theorem tdiv_tdiv (value : ℤ) (first second : ℕ) :
    (value.tdiv first).tdiv second = value.tdiv ((first * second : ℕ) : ℤ) := by
  obtain ⟨size, rfl | rfl⟩ := value.eq_nat_or_neg
  · rw [← Int.ofNat_tdiv, ← Int.ofNat_tdiv, ← Int.ofNat_tdiv, Nat.div_div_eq_div_mul]
  · rw [Int.neg_tdiv, Int.neg_tdiv, Int.neg_tdiv, ← Int.ofNat_tdiv, ← Int.ofNat_tdiv,
      ← Int.ofNat_tdiv, Nat.div_div_eq_div_mul]

/-- The divisions of the loop are one division by a power of ten, the first that fits. -/
theorem scaleDown_eq (fuel : ℕ) (physical : PhysicalValue)
    (hFuel : physical.value.natAbs ≤ fuel) :
    ∃ k : ℕ, IsLeast {k : ℕ | FitsInt16 (physical.value.tdiv (10 ^ k))} k ∧
      scaleDown fuel physical = ⟨physical.multiplier + k, physical.value.tdiv (10 ^ k)⟩ := by
  induction fuel generalizing physical with
  | zero =>
      have hZero : physical.value = 0 := by omega
      refine ⟨0, ⟨?_, fun _ _ => Nat.zero_le _⟩, ?_⟩
      · rw [Set.mem_ofPred_eq, hZero]
        decide
      · simp [scaleDown]
  | succ fuel ih =>
      rw [scaleDown]
      split
      · next hLarge =>
          have hTenth : (physical.value.tdiv 10).natAbs = physical.value.natAbs / 10 :=
            Int.natAbs_tdiv _ _
          have hSplit (k : ℕ) :
              (physical.value.tdiv 10).tdiv (10 ^ k) = physical.value.tdiv (10 ^ (k + 1)) := by
            have hOnce := tdiv_tdiv physical.value 10 (10 ^ k)
            rw [← pow_succ'] at hOnce
            exact_mod_cast hOnce
          obtain ⟨k, ⟨hFits, hLeast⟩, hScaled⟩ :=
            ih ⟨physical.multiplier + 1, physical.value.tdiv 10⟩ (by
              unfold int16Max int16Min at hLarge
              show (physical.value.tdiv 10).natAbs ≤ fuel
              omega)
          refine ⟨k + 1, ⟨?_, ?_⟩, ?_⟩
          · show FitsInt16 _
            rwa [← hSplit]
          · rintro (_ | j) hOther
            · -- Undivided, the value did not fit.
              rw [Set.mem_ofPred_eq, pow_zero, Int.tdiv_one] at hOther
              exact absurd hOther ((not_fitsInt16_iff _).2 hLarge)
            · refine Nat.succ_le_succ (hLeast ?_)
              show FitsInt16 _
              rw [hSplit]
              exact hOther
          · rw [hScaled, hSplit, Nat.cast_succ, add_assoc, add_comm 1 (k : ℤ)]
      · next hSmall =>
          have hFits : FitsInt16 physical.value :=
            not_not.1 (mt (not_fitsInt16_iff _).1 hSmall)
          refine ⟨0, ⟨?_, fun _ _ => Nat.zero_le _⟩, ?_⟩
          · rwa [Set.mem_ofPred_eq, pow_zero, Int.tdiv_one]
          · simp

/-- A value whose integral part fits needs no division. -/
theorem scaleDown_of_fits (fuel : ℕ) (physical : PhysicalValue)
    (hFits : FitsInt16 physical.value) : scaleDown fuel physical = physical := by
  cases fuel with
  | zero => rfl
  | succ fuel =>
      rw [scaleDown, if_neg]
      exact fun hLarge => (not_fitsInt16_iff _).2 hLarge hFits

/-- What a conversion leaves off is less than one. -/
theorem abs_truncate_sub_lt (number : ℚ) : |(truncate number : ℚ) - number| < 1 := by
  have hDen : (0 : ℚ) < number.den := by exact_mod_cast number.den_pos
  have hParts : (truncate number : ℚ) * number.den + (number.num.tmod number.den : ℤ) =
      number.num := by
    exact_mod_cast Int.tdiv_mul_add_tmod number.num number.den
  have hRest : |((number.num.tmod number.den : ℤ) : ℚ)| < number.den := by
    have hLess : |number.num.tmod number.den| < (number.den : ℤ) := by
      rw [Int.abs_eq_natAbs, Int.natAbs_tmod, Int.natAbs_natCast]
      exact_mod_cast Nat.mod_lt _ number.den_pos
    exact_mod_cast hLess
  have hDiff : (truncate number : ℚ) - number =
      -((number.num.tmod number.den : ℤ) : ℚ) / number.den := by
    rw [eq_div_iff hDen.ne', sub_mul, Rat.mul_den_eq_num]
    linarith
  rwa [hDiff, abs_div, abs_neg, abs_of_pos hDen, div_lt_one hDen]

/-- A conversion goes towards zero. -/
theorem natAbs_truncate_le (number : ℚ) (bound : ℕ) (hSize : |number| ≤ bound) :
    (truncate number).natAbs ≤ bound := by
  have hDen : (0 : ℚ) < number.den := by exact_mod_cast number.den_pos
  have hNumerator : number.num.natAbs ≤ bound * number.den := by
    have hProduct : (number.num.natAbs : ℚ) = |number| * number.den := by
      rw [Nat.cast_natAbs, Int.cast_abs, ← Rat.mul_den_eq_num, abs_mul, abs_of_pos hDen]
    have hScaled : (number.num.natAbs : ℚ) ≤ bound * number.den :=
      hProduct.trans_le (mul_le_mul_of_nonneg_right hSize hDen.le)
    exact_mod_cast hScaled
  rw [truncate, Int.natAbs_tdiv, Int.natAbs_natCast]
  exact Nat.div_le_of_le_mul (hNumerator.trans_eq (Nat.mul_comm _ _))

/-- `iso1PhysicalValueType`. The symbols of the units come with the messages. -/
structure Iso1PhysicalValue (UnitSymbol : Type) extends PhysicalValue where
  unit : UnitSymbol
  deriving DecidableEq, Repr

namespace Iso1PhysicalValue

variable {UnitSymbol : Type}

/-- `populate_physical_value`. A value of 64 bits is divided fifteen times at most, so the
multiplier stays within its eight bits. -/
def populatePhysicalValue (pv : Iso1PhysicalValue UnitSymbol) (value : ℤ) (unit : UnitSymbol) :
    Bool × Iso1PhysicalValue UnitSymbol :=
  let physicTmp := pv
  let scaled := scaleDown value.natAbs ⟨0, value⟩
  if scaled.multiplier < -3 ∨ 3 < scaled.multiplier then (false, physicTmp)
  else (true, ⟨scaled, unit⟩)

/-- The value is divided by the least power of ten that makes it fit, if that is at most
the third, and otherwise nothing is written. -/
theorem populatePhysicalValue_eq (pv : Iso1PhysicalValue UnitSymbol) (value : ℤ)
    (unit : UnitSymbol) :
    ∃ k : ℕ, IsLeast {k : ℕ | FitsInt16 (value.tdiv (10 ^ k))} k ∧
      pv.populatePhysicalValue value unit =
        if k ≤ 3 then (true, ⟨⟨k, value.tdiv (10 ^ k)⟩, unit⟩) else (false, pv) := by
  obtain ⟨k, hLeast, hScaled⟩ := scaleDown_eq value.natAbs ⟨0, value⟩ (Nat.le_refl _)
  refine ⟨k, hLeast, ?_⟩
  unfold populatePhysicalValue
  dsimp only
  rw [hScaled]
  by_cases hRange : k ≤ 3
  · rw [if_pos hRange, if_neg (by dsimp only; omega)]
    dsimp only
    rw [zero_add]
  · rw [if_neg hRange, if_pos (by dsimp only; omega)]

/-- Success is that one of the first powers of ten makes the value fit, the least of them is
taken, and a failure leaves the physical value as it was. -/
theorem populatePhysicalValue_correct (pv : Iso1PhysicalValue UnitSymbol) (value : ℤ)
    (unit : UnitSymbol) :
    ((pv.populatePhysicalValue value unit).1 = true ↔
        ∃ k ≤ 3, FitsInt16 (value.tdiv (10 ^ k))) ∧
      ((pv.populatePhysicalValue value unit).1 = true →
        ∃ k : ℕ, IsLeast {k : ℕ | FitsInt16 (value.tdiv (10 ^ k))} k ∧
          (pv.populatePhysicalValue value unit).2 = ⟨⟨k, value.tdiv (10 ^ k)⟩, unit⟩) ∧
      ((pv.populatePhysicalValue value unit).1 = false →
        (pv.populatePhysicalValue value unit).2 = pv) := by
  obtain ⟨k, hLeast, hResult⟩ := pv.populatePhysicalValue_eq value unit
  rw [hResult]
  by_cases hRange : k ≤ 3
  · rw [if_pos hRange]
    exact ⟨⟨fun _ => ⟨k, hRange, hLeast.1⟩, fun _ => rfl⟩, fun _ => ⟨k, hLeast, rfl⟩,
      fun hFailed => by cases hFailed⟩
  · rw [if_neg hRange]
    refine ⟨⟨fun hDone => (by cases hDone), ?_⟩, fun hDone => (by cases hDone), fun _ => rfl⟩
    rintro ⟨j, hSmall, hFits⟩
    exact absurd ((hLeast.2 hFits).trans hSmall) hRange

/-- What the servers see of it. -/
theorem populatePhysicalValue_toPhysicalValue (pv : Iso1PhysicalValue UnitSymbol) (value : ℤ)
    (unit : UnitSymbol) :
    (pv.populatePhysicalValue value unit).2.toPhysicalValue =
      V2G.populatePhysicalValue pv.toPhysicalValue value := by
  unfold populatePhysicalValue V2G.populatePhysicalValue
  dsimp only
  split <;> rfl

/-- A conversion to an integer type is only defined where the integral part is one of its
values. -/
def convert (least greatest : ℤ) (number : ℚ) : Option ℤ :=
  if least ≤ truncate number ∧ truncate number ≤ greatest then some (truncate number) else none

/-- The loop over the decimal places. It runs with a multiplier of zero only, so that the value
is small enough for the conversions of its check. -/
def scaleUp : ℕ → ℤ × ℚ → ℤ × ℚ
  | 0, scaled => scaled
  | places + 1, (multiplier, value) =>
      if truncate (value * 10) < int16Max ∧ int16Min < truncate (value * 10) then
        scaleUp places ((multiplier - 1).bmod 256, value * 10)
      else scaleUp places (multiplier, value)

/-- `populate_physical_value_float`, or nothing where a conversion in it is undefined. -/
def populatePhysicalValueFloat (pv : Iso1PhysicalValue UnitSymbol) (value : ℚ)
    (decimalPlaces : ℕ) (unit : UnitSymbol) : Option (Iso1PhysicalValue UnitSymbol) :=
  (convert (-2 ^ 63) (2 ^ 63 - 1) value).bind fun integer =>
    match pv.populatePhysicalValue integer unit with
    | (false, pv) => some pv
    | (true, pv) =>
        let scaled :=
          if pv.multiplier = 0 then scaleUp decimalPlaces (pv.multiplier, value)
          else (pv.multiplier, value)
        (convert int16Min int16Max scaled.2).map fun value => ⟨⟨scaled.1, value⟩, pv.unit⟩

/-- Scaling keeps the value, stays within sixteen bits, and takes one decimal place a turn at
most. -/
theorem scaleUp_spec (places : ℕ) (multiplier : ℤ) (value : ℚ)
    (hFits : FitsInt16 (truncate value)) (hLow : -128 ≤ multiplier - places)
    (hHigh : multiplier ≤ 0) :
    FitsInt16 (truncate (scaleUp places (multiplier, value)).2) ∧
      multiplier - places ≤ (scaleUp places (multiplier, value)).1 ∧
      (scaleUp places (multiplier, value)).1 ≤ multiplier ∧
      (scaleUp places (multiplier, value)).2 * 10 ^ (scaleUp places (multiplier, value)).1 =
        value * 10 ^ multiplier := by
  induction places generalizing multiplier value with
  | zero => exact ⟨hFits, by simp [scaleUp], Int.le_refl _, rfl⟩
  | succ places ih =>
      rw [Nat.cast_succ] at hLow
      rw [scaleUp]
      split
      · next hRange =>
          have hByte : (multiplier - 1).bmod 256 = multiplier - 1 :=
            Int.bmod_eq_of_le (by omega) (by omega)
          obtain ⟨hAfter, hLeast, hMost, hKept⟩ :=
            ih (multiplier - 1) (value * 10) ⟨hRange.2.le, hRange.1.le⟩ (by omega) (by omega)
          rw [hByte]
          refine ⟨hAfter, by omega, by omega, hKept.trans ?_⟩
          rw [zpow_sub_one₀ (by norm_num), mul_assoc, mul_left_comm 10]
          norm_num
      · obtain ⟨hAfter, hLeast, hMost, hKept⟩ := ih multiplier value hFits (by omega) hHigh
        exact ⟨hAfter, by omega, hMost, hKept⟩

theorem eq_truncate_of_convert (least greatest : ℤ) (number : ℚ) (integer : ℤ)
    (hInteger : convert least greatest number = some integer) :
    integer = truncate number ∧ least ≤ integer ∧ integer ≤ greatest := by
  unfold convert at hInteger
  split at hInteger
  · next hRange =>
      cases hInteger
      exact ⟨rfl, hRange⟩
  · cases hInteger

theorem convert_eq_some (least greatest : ℤ) (number : ℚ)
    (hRange : least ≤ truncate number ∧ truncate number ≤ greatest) :
    convert least greatest number = some (truncate number) := if_pos hRange

/-- An integral part of sixteen bits leaves the multiplier at zero, and the scaled value fits
as well. -/
theorem populatePhysicalValueFloat_of_fits (pv : Iso1PhysicalValue UnitSymbol) (value : ℚ)
    (decimalPlaces : ℕ) (unit : UnitSymbol) (hFits : FitsInt16 (truncate value))
    (hPlaces : decimalPlaces ≤ 128) :
    pv.populatePhysicalValueFloat value decimalPlaces unit =
      some ⟨⟨(scaleUp decimalPlaces (0, value)).1,
        truncate (scaleUp decimalPlaces (0, value)).2⟩, unit⟩ := by
  have hPopulated : pv.populatePhysicalValue (truncate value) unit =
      (true, ⟨⟨0, truncate value⟩, unit⟩) := by
    rw [populatePhysicalValue, scaleDown_of_fits _ _ hFits]
    rfl
  have hScaled := (scaleUp_spec decimalPlaces 0 value hFits (by omega) (by omega)).1
  have hLong : -2 ^ 63 ≤ truncate value ∧ truncate value ≤ 2 ^ 63 - 1 := by
    unfold FitsInt16 int16Min int16Max at hFits
    omega
  rw [populatePhysicalValueFloat, convert_eq_some _ _ _ hLong, Option.bind_some, hPopulated]
  dsimp only
  rw [if_pos rfl, convert_eq_some _ _ _ hScaled, Option.map_some]

/-- A larger integral part that the multiplier has room for is divided, but the last line
converts the value as it came. -/
theorem populatePhysicalValueFloat_of_not_fits (pv : Iso1PhysicalValue UnitSymbol) (value : ℚ)
    (decimalPlaces : ℕ) (unit : UnitSymbol) (hSize : |value| ≤ 32767 * 10 ^ 3)
    (hLarge : ¬FitsInt16 (truncate value)) :
    pv.populatePhysicalValueFloat value decimalPlaces unit = none := by
  have hBound : (truncate value).natAbs ≤ 32767 * 10 ^ 3 :=
    natAbs_truncate_le value _ (hSize.trans_eq (by norm_num))
  obtain ⟨k, hLeast, hPopulated⟩ := pv.populatePhysicalValue_eq (truncate value) unit
  have hRange : k ≤ 3 := by
    refine hLeast.2 (show FitsInt16 _ from ?_)
    have hQuotient : ((truncate value).tdiv (10 ^ 3)).natAbs = (truncate value).natAbs / 10 ^ 3 :=
      Int.natAbs_tdiv _ _
    unfold FitsInt16 int16Min int16Max
    omega
  have hDivided : k ≠ 0 := by
    rintro rfl
    have hFits : FitsInt16 _ := hLeast.1
    rw [pow_zero, Int.tdiv_one] at hFits
    exact hLarge hFits
  rw [populatePhysicalValueFloat, convert_eq_some _ _ _ (by omega), Option.bind_some,
    hPopulated, if_pos hRange]
  dsimp only
  have hUndefined : convert int16Min int16Max value = none := if_neg hLarge
  rw [if_neg (by exact_mod_cast hDivided), hUndefined, Option.map_none]

/-- The physical value is accurate for the values whose integral part fits as it is, and for
no other. -/
theorem populatePhysicalValueFloat_accurate_iff (pv : Iso1PhysicalValue UnitSymbol) (value : ℚ)
    (decimalPlaces : ℕ) (unit : UnitSymbol) (hSize : |value| ≤ 32767 * 10 ^ 3)
    (hPlaces : decimalPlaces ≤ 3) :
    (∃ after, pv.populatePhysicalValueFloat value decimalPlaces unit = some after ∧
        FitsInt16 after.value ∧
        |after.value * (10 : ℚ) ^ after.multiplier - value| < 10 ^ after.multiplier ∧
        -(decimalPlaces : ℤ) ≤ after.multiplier ∧ after.multiplier ≤ 3) ↔
      FitsInt16 (truncate value) := by
  constructor
  · rintro ⟨after, hAfter, -⟩
    by_contra hLarge
    rw [pv.populatePhysicalValueFloat_of_not_fits value decimalPlaces unit hSize hLarge] at hAfter
    cases hAfter
  · intro hFits
    obtain ⟨hScaled, hLeast, hMost, hKept⟩ :=
      scaleUp_spec decimalPlaces 0 value hFits (by omega) (by omega)
    refine ⟨_, pv.populatePhysicalValueFloat_of_fits value decimalPlaces unit hFits (by omega),
      hScaled, ?_, by dsimp only; omega, by dsimp only; omega⟩
    dsimp only
    rw [zpow_zero, mul_one] at hKept
    generalize scaleUp decimalPlaces (0, value) = scaled at hKept ⊢
    rw [← hKept]
    have hPower : (0 : ℚ) < 10 ^ scaled.1 := zpow_pos (by norm_num) _
    calc |(truncate scaled.2 : ℚ) * 10 ^ scaled.1 - scaled.2 * 10 ^ scaled.1|
        = |(truncate scaled.2 : ℚ) - scaled.2| * 10 ^ scaled.1 := by
          rw [← sub_mul, abs_mul, abs_of_pos hPower]
      _ < 1 * 10 ^ scaled.1 :=
          mul_lt_mul_of_pos_right (abs_truncate_sub_lt scaled.2) hPower
      _ = 10 ^ scaled.1 := one_mul _

theorem populatePhysicalValueFloat_accurate_quarter :
    ∃ after, (⟨⟨0, 0⟩, ()⟩ : Iso1PhysicalValue Unit).populatePhysicalValueFloat (921 / 4) 2 () =
        some after ∧
      FitsInt16 after.value ∧
      |after.value * (10 : ℚ) ^ after.multiplier - 921 / 4| < 10 ^ after.multiplier ∧
      -((2 : ℕ) : ℤ) ≤ after.multiplier ∧ after.multiplier ≤ 3 :=
  (populatePhysicalValueFloat_accurate_iff _ _ 2 () (by norm_num [abs_of_pos]) (by decide)).2
    (by decide +kernel)

/-- Forty kilowatts have a multiplier of one, and are then written in full. -/
theorem populatePhysicalValueFloat_inaccurate :
    |(40000 : ℚ)| ≤ 32767 * 10 ^ 3 ∧
      ¬∃ after, (⟨⟨0, 0⟩, ()⟩ : Iso1PhysicalValue Unit).populatePhysicalValueFloat 40000 1 () =
          some after ∧
        FitsInt16 after.value ∧
        |after.value * (10 : ℚ) ^ after.multiplier - 40000| < 10 ^ after.multiplier ∧
        -((1 : ℕ) : ℤ) ≤ after.multiplier ∧ after.multiplier ≤ 3 := by
  refine ⟨by norm_num [abs_of_pos], ?_⟩
  rintro ⟨after, hAfter, -⟩
  have hNothing : (⟨⟨0, 0⟩, ()⟩ : Iso1PhysicalValue Unit).populatePhysicalValueFloat 40000 1 () =
      none := by
    decide
  rw [hNothing] at hAfter
  cases hAfter

/-- Where it is defined, the servers see it with one decimal place. -/
theorem populatePhysicalValueFloat_toPhysicalValue (pv : Iso1PhysicalValue UnitSymbol)
    (value : ℚ) (unit : UnitSymbol) (after : Iso1PhysicalValue UnitSymbol)
    (hAfter : pv.populatePhysicalValueFloat value 1 unit = some after) :
    after.toPhysicalValue = V2G.populatePhysicalValueFloat pv.toPhysicalValue value := by
  rw [populatePhysicalValueFloat] at hAfter
  obtain ⟨integer, hInteger, hAfter⟩ := Option.bind_eq_some_iff.1 hAfter
  obtain ⟨rfl, -⟩ := eq_truncate_of_convert _ _ _ _ hInteger
  unfold populatePhysicalValue at hAfter
  unfold V2G.populatePhysicalValueFloat
  generalize scaleDown (truncate value).natAbs ⟨0, truncate value⟩ = scaled at hAfter ⊢
  dsimp only at hAfter ⊢
  by_cases hRange : scaled.multiplier < -3 ∨ 3 < scaled.multiplier
  · rw [if_pos hRange] at hAfter ⊢
    cases hAfter
    rfl
  · rw [if_neg hRange] at hAfter ⊢
    obtain ⟨number, hNumber, rfl⟩ := Option.map_eq_some_iff.1 hAfter
    obtain ⟨rfl, hFits⟩ := eq_truncate_of_convert _ _ _ _ hNumber
    by_cases hPlain : scaled.multiplier = 0
    · rw [if_pos hPlain, hPlain, scaleUp] at hFits ⊢
      by_cases hPlace : truncate (value * 10) < int16Max ∧ int16Min < truncate (value * 10)
      · rw [if_pos hPlace, if_pos ⟨rfl, hPlace⟩]
        rfl
      · rw [if_neg hPlace, scaleUp] at hFits ⊢
        rw [if_neg fun hBoth => hPlace hBoth.2, bmod_of_fitsInt16 hFits]
    · rw [if_neg hPlain] at hFits ⊢
      rw [if_neg fun hBoth => hPlain hBoth.1, bmod_of_fitsInt16 hFits]

end Iso1PhysicalValue

end EverestCore.V2G
