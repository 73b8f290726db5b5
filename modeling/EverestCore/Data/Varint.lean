import Mathlib.Data.Nat.Bitwise
import Mathlib.Tactic.Ring

/-! Numbers in bytes of seven bits each, the lowest bits first. All bytes but the last one have
their highest bit set. -/
namespace EverestCore.Varint

def bytes (n : ℕ) : List UInt8 :=
  if n < 128 then [.ofNat n] else .ofNat (n % 128 + 128) :: bytes (n / 128)
termination_by n
decreasing_by omega

/-- A small number is its own encoding. -/
theorem bytes_of_lt {n : ℕ} (hSmall : n < 128) : bytes n = [.ofNat n] := by
  rw [bytes, if_pos hSmall]

/-- Of a larger number the lowest seven bits go first, with the mark that more bytes follow. -/
theorem bytes_of_le {n : ℕ} (hLarge : 128 ≤ n) :
    bytes n = .ofNat (n % 128 + 128) :: bytes (n / 128) := by
  rw [bytes, if_neg (Nat.not_lt.mpr hLarge)]

/-- There is no empty encoding, so that a decoder always gets ahead. -/
theorem length_bytes_pos (n : ℕ) : 0 < (bytes n).length := by
  rw [bytes]
  split <;> exact Nat.succ_pos _

/-- Seven bits for each byte. -/
theorem length_bytes_le {n count : ℕ} (h : n < 128 ^ (count + 1)) :
    (bytes n).length ≤ count + 1 := by
  induction count generalizing n with
  | zero => rw [bytes_of_lt (by simpa using h)]; rfl
  | succ count ih =>
      rcases Nat.lt_or_ge n 128 with hSmall | hLarge
      · rw [bytes_of_lt hSmall]
        exact Nat.succ_le_succ (Nat.zero_le _)
      · have hRest : n / 128 < 128 ^ (count + 1) := by
          rw [Nat.div_lt_iff_lt_mul (by decide), ← pow_succ]
          exact h
        rw [bytes_of_le hLarge, List.length_cons]
        exact Nat.succ_le_succ (ih hRest)

/-! What the masks and shifts of a byte mean. -/

/-- A number that fits into a byte survives it. -/
theorem toNat_ofNat_of_lt {n : ℕ} (h : n < 256) : (UInt8.ofNat n).toNat = n := by
  rw [UInt8.toNat_ofNat']
  exact Nat.mod_eq_of_lt h

/-- The mask of the data is the remainder by 128. -/
theorem toNat_and_low (byte : UInt8) : (byte &&& 0x7F).toNat = byte.toNat % 128 := by
  rw [UInt8.toNat_and]
  exact Nat.and_two_pow_sub_one_eq_mod byte.toNat 7

/-- The mark is an addition, since its bit is free. -/
theorem or_high {byte : UInt8} (hByte : byte.toNat < 128) :
    byte ||| 0x80 = .ofNat (byte.toNat + 128) := by
  have hOr : 2 ^ 7 * 1 ||| byte.toNat = 2 ^ 7 * 1 + byte.toNat :=
    (Nat.two_pow_add_eq_or_of_lt hByte 1).symm
  apply UInt8.toNat_inj.mp
  rw [UInt8.toNat_or, Nat.or_comm, toNat_ofNat_of_lt (by omega)]
  exact hOr.trans (Nat.add_comm _ _)

/-- The mark tells whether the byte is the last one. -/
theorem and_high_eq_zero_iff (byte : UInt8) : byte &&& 0x80 = 0 ↔ byte.toNat < 128 := by
  have hAll : ∀ n < 256, UInt8.ofNat n &&& 0x80 = 0 ↔ n < 128 := by decide +kernel
  have hByte := hAll byte.toNat byte.toNat_lt
  rwa [UInt8.ofNat_toNat] at hByte

end EverestCore.Varint
