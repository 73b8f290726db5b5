import Mathlib.Data.Nat.Digits.Defs
import Mathlib.Algebra.Field.Rat
import Mathlib.Tactic.NormNum

/-! Decimal numerals as ASCII bytes: how integers and fixed-point numbers are written and read
back. A reader takes the longest prefix that is a numeral. -/
namespace EverestCore

/-- The characters of an ASCII text. -/
def asciiBytes (text : String) : List UInt8 := text.toList.map fun char => .ofNat char.toNat

namespace Decimal

def digitByte (digit : ℕ) : UInt8 := .ofNat (48 + digit)

def isDigit (byte : UInt8) : Bool := 48 ≤ byte.toNat && byte.toNat ≤ 57

/-- A number without leading zeros. -/
def numeral (n : ℕ) : List UInt8 :=
  if n = 0 then [digitByte 0] else (Nat.digits 10 n).reverse.map digitByte

/-- The last digits of a number, so many of them. -/
def lastDigits : ℕ → ℕ → List UInt8
  | 0, _ => []
  | count + 1, n => lastDigits count (n / 10) ++ [digitByte (n % 10)]

def digitsValue (bytes : List UInt8) : ℕ :=
  bytes.foldl (fun n byte => 10 * n + (byte.toNat - 48)) 0

/-- A minus sign, a plus sign or none. -/
def splitSign : List UInt8 → Bool × List UInt8
  | [] => (false, [])
  | first :: rest =>
      if first = 45 then (true, rest) else if first = 43 then (false, rest)
      else (false, first :: rest)

def withSign (negative : Bool) (bytes : List UInt8) : List UInt8 :=
  if negative then 45 :: bytes else bytes

def intNumeral (z : ℤ) : List UInt8 := withSign (z < 0) (numeral z.natAbs)

/-- An integer, if there is a digit behind the sign. -/
def readInt? (bytes : List UInt8) : Option ℤ :=
  let digits := (splitSign bytes).2.takeWhile isDigit
  if digits = [] then none
  else some (if (splitSign bytes).1 then -(digitsValue digits : ℤ) else digitsValue digits)

/-- A number of units of `10 ^ -count`, with its sign and its decimal point. -/
def fixedPoint (count : ℕ) (negative : Bool) (units : ℕ) : List UInt8 :=
  withSign negative (numeral (units / 10 ^ count) ++ 46 :: lastDigits count units)

/-- The digits behind a decimal point. -/
def fraction : List UInt8 → List UInt8
  | [] => []
  | first :: rest => if first = 46 then rest.takeWhile isDigit else []

/-- A decimal number, if there is a digit before or behind the point. -/
def readDecimal? (bytes : List UInt8) : Option ℚ :=
  let whole := (splitSign bytes).2.takeWhile isDigit
  let fraction := fraction ((splitSign bytes).2.dropWhile isDigit)
  if whole = [] ∧ fraction = [] then none
  else
    let magnitude : ℚ := digitsValue whole + digitsValue fraction / 10 ^ fraction.length
    some (if (splitSign bytes).1 then -magnitude else magnitude)

/-- Digits are the bytes from 48 on. -/
theorem toNat_digitByte {digit : ℕ} (hDigit : digit < 10) :
    (digitByte digit).toNat = 48 + digit := by
  apply UInt8.toNat_ofNat_of_lt'
  rw [UInt8.size]
  omega

/-- What is written for a digit is one. -/
theorem isDigit_digitByte {digit : ℕ} (hDigit : digit < 10) : isDigit (digitByte digit) := by
  rw [isDigit, toNat_digitByte hDigit]
  simp
  omega

/-- A further digit at the end shifts the others by one place. -/
theorem digitsValue_concat (bytes : List UInt8) {digit : ℕ} (hDigit : digit < 10) :
    digitsValue (bytes ++ [digitByte digit]) = 10 * digitsValue bytes + digit := by
  rw [digitsValue, List.foldl_append, List.foldl_cons, List.foldl_nil, toNat_digitByte hDigit,
    Nat.add_sub_cancel_left]
  rfl

/-- Numerals begin with the highest digit, and the digits of Mathlib with the lowest one. -/
theorem digitsValue_reverse_map {digits : List ℕ} (hDigits : ∀ digit ∈ digits, digit < 10) :
    digitsValue (digits.reverse.map digitByte) = Nat.ofDigits 10 digits := by
  induction digits with
  | nil => rfl
  | cons first rest ih =>
      rw [List.reverse_cons, List.map_append, List.map_singleton,
        digitsValue_concat _ (hDigits first List.mem_cons_self),
        ih fun digit hRest => hDigits digit (List.mem_cons_of_mem _ hRest), Nat.ofDigits_cons]
      exact Nat.add_comm _ _

/-- A number is read back from its numeral. -/
theorem digitsValue_numeral (n : ℕ) : digitsValue (numeral n) = n := by
  rw [numeral]
  split
  · next hZero =>
      rw [hZero]
      rfl
  · rw [digitsValue_reverse_map fun digit hDigit => Nat.digits_lt_base (by decide) hDigit,
      Nat.ofDigits_digits]

/-- There is nothing but digits in a numeral. -/
theorem isDigit_of_mem_numeral {n : ℕ} : ∀ byte ∈ numeral n, isDigit byte := by
  intro byte hByte
  rw [numeral] at hByte
  split at hByte
  · rw [List.mem_singleton.mp hByte]
    decide
  · obtain ⟨digit, hDigit, rfl⟩ := List.mem_map.mp hByte
    exact isDigit_digitByte (Nat.digits_lt_base (by decide) (List.mem_reverse.mp hDigit))

/-- Zero has a digit as well. -/
theorem numeral_ne_nil (n : ℕ) : numeral n ≠ [] := by
  rw [numeral]
  split
  · exact List.cons_ne_nil _ _
  · next hZero =>
      simpa [Nat.digits_ne_nil_iff_ne_zero] using hZero

/-- A fixed number of digits keeps the remainder. -/
theorem digitsValue_lastDigits (count n : ℕ) :
    digitsValue (lastDigits count n) = n % 10 ^ count := by
  induction count generalizing n with
  | zero => exact (Nat.mod_one n).symm
  | succ count ih =>
      rw [lastDigits, digitsValue_concat _ (Nat.mod_lt n (by decide)), ih, Nat.pow_succ,
        Nat.mul_comm (10 ^ count), Nat.mod_mul, Nat.add_comm]

/-- Leading zeros fill up the places. -/
theorem length_lastDigits (count n : ℕ) : (lastDigits count n).length = count := by
  induction count generalizing n with
  | zero => rfl
  | succ count ih => rw [lastDigits, List.length_append, ih, List.length_singleton]

/-- The places behind the point are digits. -/
theorem isDigit_of_mem_lastDigits {count n : ℕ} : ∀ byte ∈ lastDigits count n, isDigit byte := by
  induction count generalizing n with
  | zero => exact fun byte hByte => absurd hByte List.not_mem_nil
  | succ count ih =>
      intro byte hByte
      rcases List.mem_append.mp hByte with hRest | hLast
      · exact ih byte hRest
      · rw [List.mem_singleton.mp hLast]
        exact isDigit_digitByte (Nat.mod_lt n (by decide))

/-- A digit does not end a C string. -/
theorem ne_zero_of_isDigit {byte : UInt8} (hDigit : isDigit byte) : byte ≠ 0 := by
  rintro rfl
  exact absurd hDigit (by decide)

/-- A sign does not end a C string. -/
theorem ne_zero_of_mem_withSign {negative : Bool} {bytes : List UInt8}
    (hBytes : ∀ byte ∈ bytes, byte ≠ 0) : ∀ byte ∈ withSign negative bytes, byte ≠ 0 := by
  cases negative with
  | false => exact hBytes
  | true => exact List.forall_mem_cons.mpr ⟨by decide, hBytes⟩

/-- No numeral has a NUL. -/
theorem ne_zero_of_mem_intNumeral (z : ℤ) : ∀ byte ∈ intNumeral z, byte ≠ 0 :=
  ne_zero_of_mem_withSign fun byte hByte => ne_zero_of_isDigit (isDigit_of_mem_numeral byte hByte)

/-- The text of a fixed-point number holds no NUL, so that it is read to its end. -/
theorem ne_zero_of_mem_fixedPoint (count : ℕ) (negative : Bool) (units : ℕ) :
    ∀ byte ∈ fixedPoint count negative units, byte ≠ 0 := by
  refine ne_zero_of_mem_withSign fun byte hByte => ?_
  rcases List.mem_append.mp hByte with hWhole | hRest
  · exact ne_zero_of_isDigit (isDigit_of_mem_numeral byte hWhole)
  · rcases List.mem_cons.mp hRest with rfl | hFraction
    · decide
    · exact ne_zero_of_isDigit (isDigit_of_mem_lastDigits byte hFraction)

/-- The sign is split from what starts with a digit. -/
theorem splitSign_withSign (negative : Bool) {bytes : List UInt8}
    (hDigit : ∀ first ∈ bytes.head?, isDigit first) :
    splitSign (withSign negative bytes) = (negative, bytes) := by
  cases negative with
  | true => rfl
  | false =>
      cases bytes with
      | nil => rfl
      | cons first rest =>
          have hFirst := hDigit first rfl
          have hMinus : first ≠ 45 := by
            rintro rfl
            exact absurd hFirst (by decide)
          have hPlus : first ≠ 43 := by
            rintro rfl
            exact absurd hFirst (by decide)
          rw [withSign, if_neg (by decide), splitSign, if_neg hMinus, if_neg hPlus]

/-- What begins with a numeral begins with a digit, and so has no sign. -/
theorem head?_append_numeral (n : ℕ) (rest : List UInt8) :
    ∀ first ∈ (numeral n ++ rest).head?, isDigit first := by
  intro first hFirst
  cases hNumeral : numeral n with
  | nil => exact absurd hNumeral (numeral_ne_nil n)
  | cons head tail =>
      rw [hNumeral] at hFirst
      have hHead : head = first := Option.some.inj hFirst
      rw [← hHead]
      exact isDigit_of_mem_numeral head (hNumeral ▸ List.mem_cons_self)

/-- A reader finds the end of a run of digits. -/
theorem takeWhile_digits {digits : List UInt8} (hDigits : ∀ byte ∈ digits, isDigit byte)
    {rest : List UInt8} (hRest : ∀ first ∈ rest.head?, ¬isDigit first) :
    (digits ++ rest).takeWhile isDigit = digits ∧ (digits ++ rest).dropWhile isDigit = rest := by
  rw [List.takeWhile_append_of_pos hDigits, List.dropWhile_append_of_pos hDigits]
  cases rest with
  | nil => exact ⟨List.append_nil _, rfl⟩
  | cons first rest =>
      have hFirst := hRest first rfl
      rw [List.takeWhile_cons_of_neg hFirst, List.dropWhile_cons_of_neg hFirst]
      exact ⟨List.append_nil _, rfl⟩

/-- An integer is read back. -/
theorem readInt?_intNumeral (z : ℤ) : readInt? (intNumeral z) = some z := by
  have hHead := head?_append_numeral z.natAbs []
  obtain ⟨hDigits, _⟩ := @takeWhile_digits _ (@isDigit_of_mem_numeral z.natAbs) [] nofun
  rw [List.append_nil] at hHead hDigits
  rw [readInt?, intNumeral, splitSign_withSign _ hHead]
  dsimp only
  rw [hDigits, if_neg (numeral_ne_nil _), digitsValue_numeral]
  by_cases hNegative : z < 0
  · rw [if_pos (decide_eq_true hNegative)]
    congr 1
    omega
  · rw [if_neg (by simpa using hNegative)]
    congr 1
    omega

/-- A fixed-point number is read back. -/
theorem readDecimal?_fixedPoint (count : ℕ) (negative : Bool) (units : ℕ) :
    readDecimal? (fixedPoint count negative units) =
      some (if negative then -((units : ℚ) / 10 ^ count) else (units : ℚ) / 10 ^ count) := by
  have hPoint : ∀ first ∈ (46 :: lastDigits count units : List UInt8).head?, ¬isDigit first := by
    intro first hFirst
    have hHead : 46 = first := Option.some.inj hFirst
    rw [← hHead]
    decide
  obtain ⟨hWhole, hRest⟩ := takeWhile_digits (@isDigit_of_mem_numeral (units / 10 ^ count)) hPoint
  obtain ⟨hDigits, _⟩ := @takeWhile_digits _ (@isDigit_of_mem_lastDigits count units) [] nofun
  rw [List.append_nil] at hDigits
  have hFraction : fraction (46 :: lastDigits count units) = lastDigits count units := by
    rw [fraction, if_pos rfl, hDigits]
  have hSplit : ((units / 10 ^ count : ℕ) : ℚ) + (units % 10 ^ count : ℕ) / 10 ^ count =
      (units : ℚ) / 10 ^ count := by
    have hUnits : ((units / 10 ^ count : ℕ) : ℚ) * 10 ^ count + (units % 10 ^ count : ℕ) =
        units := by
      exact_mod_cast Nat.div_add_mod' units (10 ^ count)
    have hPower : (10 : ℚ) ^ count ≠ 0 := pow_ne_zero _ (by norm_num)
    rw [← hUnits, add_div, mul_div_cancel_right₀ _ hPower]
  rw [readDecimal?, fixedPoint, splitSign_withSign _ (head?_append_numeral _ _)]
  dsimp only
  rw [hWhole, hRest, hFraction, if_neg fun hNone => numeral_ne_nil _ hNone.1, digitsValue_numeral,
    digitsValue_lastDigits, length_lastDigits, hSplit]

end Decimal

end EverestCore
