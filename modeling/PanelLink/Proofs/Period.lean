import Mathlib.Data.Nat.Digits.Defs
import Mathlib.Data.Nat.Prime.Basic
import Mathlib.Dynamics.PeriodicPts.Defs
import Mathlib.Tactic.NormNum.Prime
import PanelLink.Proofs.Division

/-!
Shifting one again and again comes back to one after 32767 shifts and not before. The
register after so many shifts is reached by squaring, since a row of bits goes through
shifts like any other factor; that there is no shorter way back then needs a look at the
three prime factors of 32767 only.
-/

namespace PanelLink.Checksum

open Function

/-! ## Products -/

def product (row : List Bool) (register : UInt16) : UInt16 :=
  row.foldl (fun sum bit => shift sum ^^^ (if bit then register else 0)) 0

theorem product_concat (row : List Bool) (bit : Bool) (register : UInt16) :
    product (row ++ [bit]) register =
      shift (product row register) ^^^ (if bit then register else 0) := by
  rw [product, List.foldl_append]
  rfl

theorem product_one (row : List Bool) : product row 1 = remainder row := rfl

theorem product_shifts (row : List Bool) (count : Nat) (register : UInt16) :
    product row (shifts count register) = shifts count (product row register) := by
  induction row using List.reverseRecOn with
  | nil => exact (shifts_zero count).symm
  | append_singleton row bit induction =>
      have taken : (if bit then shifts count register else 0) =
          shifts count (if bit then register else 0) := by
        cases bit with
        | false => exact (shifts_zero count).symm
        | true => rfl
      have passed : shift (shifts count (product row register)) =
          shifts count (shift (product row register)) := shift_shifts count _
      rw [product_concat, product_concat, induction, taken, passed, shifts_xor]

def square (register : UInt16) : UInt16 := product (bits (trailer register)) register

theorem remainder_bits_trailer (register : UInt16) :
    remainder (bits (trailer register)) = register := by
  have empty : checksum [] = 0 := rfl
  have alone := remainder_bits_append_pair [] (register >>> 8).toUInt8 register.toUInt8
  rwa [ofTrailer_trailer, empty, UInt16.zero_xor] at alone

theorem square_shifts_one (count : Nat) :
    square (shifts count 1) = shifts (2 * count) 1 := by
  rw [square, product_shifts, product_one, remainder_bits_trailer, shifts_shifts,
    Nat.two_mul]

def power : List Nat → UInt16
  | [] => 1
  | digit :: higher => shifts digit (square (power higher))

theorem power_eq_shifts (digits : List Nat) :
    power digits = shifts (Nat.ofDigits 2 digits) 1 := by
  induction digits with
  | nil => rfl
  | cons digit higher induction =>
      rw [power, induction, square_shifts_one, shifts_shifts, Nat.ofDigits_cons,
        Nat.add_comm]

theorem shifts_one_eq_power (count : Nat) :
    shifts count 1 = power (Nat.digits 2 count) := by
  rw [power_eq_shifts, Nat.ofDigits_digits]

/-! ## The period of one -/

theorem shifts_eq_iterate (count : Nat) (register : UInt16) :
    shifts count register = shift^[count] register := by
  induction count generalizing register with
  | zero => rfl
  | succ count induction => exact induction (shift register)

theorem isPeriodicPt_one : IsPeriodicPt shift 32767 1 := by
  have returns : shifts 32767 1 = 1 := by
    rw [shifts_one_eq_power]
    decide +kernel
  rwa [shifts_eq_iterate] at returns

theorem not_isPeriodicPt_one {prime : Nat} (isPrime : prime.Prime)
    (divides : prime ∣ 32767) : ¬IsPeriodicPt shift (32767 / prime) 1 := by
  have factors : 32767 = 7 * (31 * 151) := rfl
  have factor : prime = 7 ∨ prime = 31 ∨ prime = 151 := by
    rw [factors, isPrime.dvd_mul, isPrime.dvd_mul,
      Nat.prime_dvd_prime_iff_eq isPrime (by norm_num),
      Nat.prime_dvd_prime_iff_eq isPrime (by norm_num),
      Nat.prime_dvd_prime_iff_eq isPrime (by norm_num)] at divides
    exact divides
  rw [IsPeriodicPt, IsFixedPt, ← shifts_eq_iterate, shifts_one_eq_power]
  rcases factor with rfl | rfl | rfl <;> decide +kernel

theorem minimalPeriod_shift_one : minimalPeriod shift 1 = 32767 := by
  rcases isPeriodicPt_one.minimalPeriod_dvd with ⟨rounds, split⟩
  by_cases once : rounds = 1
  · rw [split, once, Nat.mul_one]
  · -- A shorter period would go into 32767 divided by one of its primes, and there
    -- one is not back yet.
    rcases Nat.exists_prime_and_dvd once with ⟨prime, isPrime, divides⟩
    have whole : minimalPeriod shift 1 * prime ∣ 32767 := by
      rw [split]
      exact Nat.mul_dvd_mul_left _ divides
    have early : IsPeriodicPt shift (32767 / prime) 1 :=
      isPeriodicPt_iff_minimalPeriod_dvd.mpr
        (Nat.dvd_div_of_mul_dvd (Nat.mul_comm _ _ ▸ whole))
    exact absurd early (not_isPeriodicPt_one isPrime (dvd_of_mul_left_dvd whole))

theorem eq_of_shifts_one_eq {count other : Nat} (below : count < 32767)
    (otherBelow : other < 32767) (equal : shifts count 1 = shifts other 1) :
    count = other := by
  rw [shifts_eq_iterate, shifts_eq_iterate] at equal
  rw [← minimalPeriod_shift_one] at below otherBelow
  exact (iterate_eq_iterate_iff_of_lt_minimalPeriod below otherBelow).mp equal

end PanelLink.Checksum
