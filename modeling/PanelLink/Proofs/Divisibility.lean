import Mathlib.Algebra.Field.ZMod
import Mathlib.Algebra.Polynomial.FieldDivision
import PanelLink.Proofs.Division

/-!
Rows of bits as polynomials over the field of two elements. A shift of the register
multiplies by `X` and takes off the divisor whenever a bit leaves, so the register holds
the remainder of all that was taken in. A payload is therefore accepted if and only if the
divisor divides it, and the remainder of any other is what the checksum it carries is
wrong by.
-/

namespace PanelLink.Checksum

open Polynomial

/-! ## Bits as coefficients -/

def coefficient (bit : Bool) : ZMod 2 := if bit then 1 else 0

theorem coefficient_xor (bit other : Bool) :
    coefficient (bit ^^ other) = coefficient bit + coefficient other := by
  cases bit <;> cases other <;> decide

theorem coefficient_injective {bit other : Bool}
    (equal : coefficient bit = coefficient other) : bit = other := by
  revert bit other
  decide

/-- A row of bits as a polynomial: the first bit is its leading coefficient, the last its
constant term. -/
noncomputable def rowPolynomial : List Bool → (ZMod 2)[X]
  | [] => 0
  | bit :: row => monomial row.length (coefficient bit) + rowPolynomial row

noncomputable def polynomial (bytes : Bytes) : (ZMod 2)[X] := rowPolynomial (bits bytes)

noncomputable def registerPolynomial (register : UInt16) : (ZMod 2)[X] :=
  ∑ index ∈ Finset.range 16,
    monomial index (coefficient (register.toBitVec.getLsbD index))

noncomputable def divisor : (ZMod 2)[X] := X ^ 16 + X ^ 12 + X ^ 5 + 1

theorem rowPolynomial_concat (row : List Bool) (bit : Bool) :
    rowPolynomial (row ++ [bit]) = rowPolynomial row * X + C (coefficient bit) := by
  induction row with
  | nil => simp [rowPolynomial]
  | cons first row induction =>
      rw [List.cons_append, rowPolynomial, induction, rowPolynomial, List.length_append,
        List.length_singleton, add_mul, monomial_mul_X, add_assoc]

/-! ## Registers -/

theorem coeff_registerPolynomial (register : UInt16) (index : Nat) :
    (registerPolynomial register).coeff index =
      coefficient (register.toBitVec.getLsbD index) := by
  rw [registerPolynomial, finsetSum_coeff]
  simp only [coeff_monomial, Finset.sum_ite_eq', Finset.mem_range]
  split
  · rfl
  · rename_i outside
    rw [BitVec.getLsbD_of_ge _ _ (Nat.le_of_not_lt outside)]
    rfl

theorem registerPolynomial_injective {left right : UInt16}
    (equal : registerPolynomial left = registerPolynomial right) : left = right := by
  apply UInt16.toBitVec_inj.mp
  apply BitVec.eq_of_getLsbD_eq
  intro index _
  apply coefficient_injective
  rw [← coeff_registerPolynomial, ← coeff_registerPolynomial, equal]

theorem registerPolynomial_xor (left right : UInt16) :
    registerPolynomial (left ^^^ right) =
      registerPolynomial left + registerPolynomial right := by
  ext index
  rw [coeff_add, coeff_registerPolynomial, coeff_registerPolynomial,
    coeff_registerPolynomial, UInt16.toBitVec_xor, BitVec.getLsbD_xor, coefficient_xor]

theorem registerPolynomial_zero : registerPolynomial 0 = 0 := by
  ext index
  rw [coeff_registerPolynomial]
  simp [coefficient]

theorem registerPolynomial_eq_zero_iff (register : UInt16) :
    registerPolynomial register = 0 ↔ register = 0 := by
  constructor
  · intro vanishes
    exact registerPolynomial_injective (vanishes.trans registerPolynomial_zero.symm)
  · rintro rfl
    exact registerPolynomial_zero

theorem registerPolynomial_toUInt16 (bit : Bool) :
    registerPolynomial bit.toUInt16 = C (coefficient bit) := by
  ext index
  rw [coeff_registerPolynomial, coeff_C]
  cases bit <;> cases index <;> simp [coefficient]

theorem degree_registerPolynomial_lt (register : UInt16) :
    (registerPolynomial register).degree < 16 := by
  apply (degree_lt_iff_coeff_zero _ 16).mpr
  intro index beyond
  rw [coeff_registerPolynomial, BitVec.getLsbD_of_ge _ _ beyond]
  rfl

/-! ## The divisor -/

theorem registerPolynomial_generator :
    registerPolynomial generator = X ^ 12 + X ^ 5 + 1 := by
  have places : ∀ index < 16, coefficient (generator.toBitVec.getLsbD index) =
      (if index = 12 then 1 else 0) + (if index = 5 then 1 else 0)
        + (if index = 0 then 1 else 0) := by
    decide
  ext index
  rw [coeff_registerPolynomial, coeff_add, coeff_add, coeff_X_pow, coeff_X_pow, coeff_one]
  rcases Nat.lt_or_ge index 16 with inside | beyond
  · rw [places index inside]
  · rw [BitVec.getLsbD_of_ge _ _ beyond, if_neg (by omega), if_neg (by omega),
      if_neg (by omega)]
    rfl

theorem divisor_eq : divisor = X ^ 16 + registerPolynomial generator := by
  rw [registerPolynomial_generator, divisor, add_assoc, add_assoc, add_assoc]

theorem monic_divisor : divisor.Monic := by
  rw [divisor_eq]
  exact monic_X_pow_add (degree_registerPolynomial_lt generator)

theorem degree_divisor : divisor.degree = 16 := by
  have lower : (registerPolynomial generator).degree < (X ^ 16 : (ZMod 2)[X]).degree := by
    rw [degree_X_pow]
    exact degree_registerPolynomial_lt generator
  rw [divisor_eq, degree_add_eq_left_of_degree_lt lower, degree_X_pow]
  rfl

/-! ## Shifting is multiplying by `X` -/

theorem registerPolynomial_mul_X (register : UInt16) :
    registerPolynomial register * X =
      registerPolynomial (register <<< 1) +
        C (coefficient (leads register)) * X ^ 16 := by
  have moved : (register <<< 1).toBitVec = register.toBitVec <<< 1 := rfl
  ext index
  rw [coeff_add, coeff_C_mul, coeff_X_pow, coeff_registerPolynomial, moved,
    BitVec.getLsbD_shiftLeft]
  cases index with
  | zero =>
      rw [coeff_mul_X_zero]
      simp [coefficient]
  | succ index =>
      rw [coeff_mul_X, coeff_registerPolynomial]
      rcases Nat.lt_trichotomy index 15 with below | rfl | beyond
      · have inside : index + 1 < 16 := by omega
        have notLeading : index + 1 ≠ 16 := by omega
        simp [inside, notLeading]
      · have leading : leads register = register.toBitVec.getLsbD 15 :=
          BitVec.msb_eq_getLsbD_last _
        simp [leading, coefficient]
      · have outside : ¬index + 1 < 16 := by omega
        have notLeading : index + 1 ≠ 16 := by omega
        rw [BitVec.getLsbD_of_ge _ _ beyond]
        simp [outside, notLeading, coefficient]

theorem registerPolynomial_shift (register : UInt16) :
    registerPolynomial register * X =
      registerPolynomial (shift register) + (if leads register then divisor else 0) := by
  rw [registerPolynomial_mul_X, shift_eq, registerPolynomial_xor]
  cases leads register with
  | false => simp [coefficient, registerPolynomial_zero]
  | true =>
      have cancel : registerPolynomial generator + registerPolynomial generator = 0 :=
        CharTwo.add_self_eq_zero _
      rw [if_pos rfl, if_pos rfl, divisor_eq, add_assoc,
        add_left_comm (registerPolynomial generator), cancel]
      simp [coefficient]

/-! ## Remainders -/

theorem divisor_dvd_sub (row : List Bool) :
    divisor ∣ rowPolynomial row - registerPolynomial (remainder row) := by
  induction row using List.reverseRecOn with
  | nil =>
      have empty : registerPolynomial (remainder []) = 0 := registerPolynomial_zero
      rw [empty, rowPolynomial, sub_zero]
      exact dvd_zero divisor
  | append_singleton row bit induction =>
      have step :
          rowPolynomial (row ++ [bit]) - registerPolynomial (remainder (row ++ [bit])) =
            (rowPolynomial row - registerPolynomial (remainder row)) * X +
            (if leads (remainder row) then divisor else 0) := by
        rw [rowPolynomial_concat, remainder_concat, registerPolynomial_xor,
          registerPolynomial_toUInt16, sub_mul, registerPolynomial_shift,
          add_sub_add_right_eq_sub, sub_add_eq_sub_sub, sub_add_cancel]
      rw [step]
      apply dvd_add (dvd_mul_of_dvd_left induction X)
      split
      · exact dvd_refl divisor
      · exact dvd_zero divisor

theorem registerPolynomial_remainder (row : List Bool) :
    registerPolynomial (remainder row) = rowPolynomial row % divisor := by
  have reduced :
      registerPolynomial (remainder row) % divisor =
        registerPolynomial (remainder row) := by
    apply (mod_eq_self_iff monic_divisor.ne_zero).mpr
    rw [degree_divisor]
    exact degree_registerPolynomial_lt _
  rw [mod_eq_of_dvd_sub (divisor_dvd_sub row), reduced]

/-! ## Payloads -/

theorem toNat_ofTrailer (high low : UInt8) :
    (ofTrailer high low).toNat = 256 * high.toNat + low.toNat := by
  rw [ofTrailer, UInt16.toNat_or, toNat_toUInt16_shiftLeft, UInt8.toNat_toUInt16]
  exact (Nat.two_pow_add_eq_or_of_lt low.toNat_lt high.toNat).symm

theorem split_append_pair (content : Bytes) (high low : UInt8) :
    split (content ++ [high, low]) =
      if checksum content = ofTrailer high low then .ok content
      else .error (.checksumMismatch (checksum content) (ofTrailer high low)) := by
  rw [split, check_append_pair]
  split <;> rfl

theorem polynomial_append_pair_mod (content : Bytes) (high low : UInt8) :
    polynomial (content ++ [high, low]) % divisor =
      registerPolynomial (checksum content ^^^ ofTrailer high low) := by
  rw [polynomial, ← registerPolynomial_remainder, remainder_bits_append_pair]

theorem polynomial_mod_eq_zero_iff (bytes : Bytes) :
    polynomial bytes % divisor = 0 ↔ checksum bytes = 0 := by
  rw [polynomial, ← registerPolynomial_remainder, registerPolynomial_eq_zero_iff,
    checksum_eq_shifts_remainder]
  constructor
  · intro vanishes
    rw [vanishes, shifts_zero]
  · exact eq_zero_of_shifts_eq_zero

theorem split_append (content : Bytes) : split (append content) = .ok content := by
  rw [split, check_append]
  rfl

example : split [0x40, 0x48, 0xC4] = .ok [0x40] := rfl

theorem eq_append_iff (payload content : Bytes) :
    payload = append content ↔
      content <+: payload ∧ payload.length = content.length + 2 ∧
      verify payload = true := by
  constructor
  · rintro rfl
    refine ⟨List.prefix_append _ _, length_append content, ?_⟩
    rw [verify, split_append]
    rfl
  · rintro ⟨⟨behind, rfl⟩, sameLength, accepted⟩
    rw [List.length_append] at sameLength
    rcases List.length_eq_two.mp (Nat.add_left_cancel sameLength) with ⟨high, low, rfl⟩
    rw [verify, split_append_pair] at accepted
    split at accepted
    · rename_i fits
      rw [append, fits, trailer_ofTrailer]
    · cases accepted

/-- A payload that the divisor divides is taken for the content before its last two bytes.
Of any other, the remainder is what the checksum computed and the one received differ by.
-/
theorem split_by_division :
    (∀ payload : Bytes, 2 ≤ payload.length →
      (polynomial payload % divisor = 0 →
        split payload = .ok (payload.take (payload.length - 2))) ∧
      (polynomial payload % divisor = 0 ↔ checksum payload = 0) ∧
      (polynomial payload % divisor ≠ 0 → ∃ computed received high low,
        split payload = .error (.checksumMismatch computed received) ∧
        registerPolynomial (computed ^^^ received) = polynomial payload % divisor ∧
        payload.drop (payload.length - 2) = [high, low] ∧
        received.toNat = 256 * high.toNat + low.toNat)) ∧
    (∀ content : Bytes, split (append content) = .ok content) ∧
    ∀ payload content : Bytes, payload = append content ↔
      content <+: payload ∧ payload.length = content.length + 2 ∧
      verify payload = true := by
  refine ⟨?_, split_append, eq_append_iff⟩
  intro payload long
  rcases exists_eq_append_pair long with ⟨content, high, low, rfl⟩
  have front : (content ++ [high, low]).length - 2 = content.length := by simp
  refine ⟨?_, polynomial_mod_eq_zero_iff _, ?_⟩
  · intro divides
    rw [polynomial_append_pair_mod, registerPolynomial_eq_zero_iff,
      UInt16.xor_eq_zero_iff] at divides
    rw [split_append_pair, if_pos divides, front, List.take_left]
  · intro remains
    rw [polynomial_append_pair_mod, ne_eq, registerPolynomial_eq_zero_iff,
      UInt16.xor_eq_zero_iff] at remains
    refine ⟨checksum content, ofTrailer high low, high, low, ?_, ?_, ?_,
      toNat_ofTrailer high low⟩
    · rw [split_append_pair, if_neg remains]
    · rw [polynomial_append_pair_mod]
    · rw [front, List.drop_left]

theorem split_by_division_last_bit :
    polynomial [0x40, 0x48, 0xC4] % divisor = 0 ∧ split [0x40, 0x48, 0xC4] = .ok [0x40] ∧
      polynomial [0x40, 0x48, 0xC5] % divisor ≠ 0 ∧
      split [0x40, 0x48, 0xC5] = .error (.checksumMismatch 0x48C4 0x48C5) ∧
      registerPolynomial 1 = polynomial [0x40, 0x48, 0xC5] % divisor ∧
      [0x40, 0x48, 0xC4] = append [0x40] := by
  rcases split_by_division with ⟨divided, _, only⟩
  rcases divided [0x40, 0x48, 0xC4] (by decide) with ⟨accepted, divides, _⟩
  rcases divided [0x40, 0x48, 0xC5] (by decide) with ⟨_, dividesWrong, refused⟩
  have fits : polynomial [0x40, 0x48, 0xC4] % divisor = 0 :=
    divides.mpr (by decide +kernel)
  have wrong : polynomial [0x40, 0x48, 0xC5] % divisor ≠ 0 := by
    rw [ne_eq, dividesWrong]
    decide +kernel
  have mismatch : split [0x40, 0x48, 0xC5] = .error (.checksumMismatch 0x48C4 0x48C5) :=
    rfl
  rcases refused wrong with ⟨computed, received, high, low, failed, remains, _⟩
  cases failed.symm.trans mismatch
  refine ⟨fits, accepted fits, wrong, mismatch, remains, ?_⟩
  exact (only _ _).mpr ⟨⟨[0x48, 0xC4], rfl⟩, rfl, rfl⟩

end PanelLink.Checksum
