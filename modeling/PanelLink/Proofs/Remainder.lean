import Mathlib.Algebra.Group.Nat.Defs
import PanelLink.Proofs.Encoding

/-!
The checksum register is linear: exclusive or goes through shifting, and no register but
zero is shifted to zero. So two payloads that differ in one byte leave different
remainders, and a payload that leaves one at all is found out by its checksum.
-/

namespace PanelLink.Checksum

/-! ## One shift -/

def leads (register : UInt16) : Bool := register.toBitVec.msb

theorem leads_xor (left right : UInt16) :
    leads (left ^^^ right) = (leads left ^^ leads right) := by
  simp [leads]

theorem leads_eq_decide (register : UInt16) :
    leads register = decide (32768 ≤ register.toNat) :=
  BitVec.msb_eq_decide register.toBitVec

theorem and_leading_eq_zero_iff (register : UInt16) :
    register &&& 0x8000 = 0 ↔ leads register = false := by
  have masked : (register &&& 0x8000).toBitVec =
      if leads register then BitVec.twoPow 16 15 else 0 :=
    BitVec.and_twoPow register.toBitVec 15
  rw [← UInt16.toBitVec_inj, masked]
  cases leads register <;> decide

theorem shift_eq (register : UInt16) :
    shift register = (register <<< 1) ^^^ (if leads register then generator else 0) := by
  simp only [shift, and_leading_eq_zero_iff]
  cases leads register <;> simp

theorem shift_xor (left right : UInt16) :
    shift (left ^^^ right) = shift left ^^^ shift right := by
  have dividedOut : (if leads left ^^ leads right then generator else 0) =
      (if leads left then generator else 0) ^^^
        (if leads right then generator else 0) := by
    cases leads left <;> cases leads right <;> rfl
  rw [shift_eq, shift_eq, shift_eq, leads_xor, dividedOut, UInt16.shiftLeft_xor]
  ac_rfl

theorem toNat_shiftLeft_one (register : UInt16) :
    (register <<< 1).toNat = 2 * register.toNat % 65536 := by
  simp [Nat.shiftLeft_eq, Nat.mul_comm]

/-- The generator has a constant term, so what leaves the register on the left comes back
on the right. -/
theorem eq_zero_of_shift_eq_zero {register : UInt16} (vanishes : shift register = 0) :
    register = 0 := by
  rw [shift_eq, UInt16.xor_eq_zero_iff] at vanishes
  have doubled := toNat_shiftLeft_one register
  have bound := register.toNat_lt
  rw [vanishes, leads_eq_decide] at doubled
  apply UInt16.toNat_inj.mp
  by_cases leading : 32768 ≤ register.toNat
  · have odd : 0x1021 = 2 * register.toNat % 65536 := by
      simpa [leading, generator] using doubled
    omega
  · have even : 0 = 2 * register.toNat % 65536 := by
      simpa [leading] using doubled
    have zero : register.toNat = 0 := by omega
    exact zero

/-! ## Several shifts -/

theorem shifts_zero (count : Nat) : shifts count 0 = 0 := by
  induction count with
  | zero => rfl
  | succ count induction => exact induction

theorem shifts_xor (count : Nat) (left right : UInt16) :
    shifts count (left ^^^ right) = shifts count left ^^^ shifts count right := by
  induction count generalizing left right with
  | zero => rfl
  | succ count induction => rw [shifts, shift_xor, induction, shifts, shifts]

theorem eq_zero_of_shifts_eq_zero {count : Nat} {register : UInt16}
    (vanishes : shifts count register = 0) : register = 0 := by
  induction count generalizing register with
  | zero => exact vanishes
  | succ count induction => exact eq_zero_of_shift_eq_zero (induction vanishes)

theorem shifts_injective {count : Nat} {left right : UInt16}
    (equal : shifts count left = shifts count right) : left = right := by
  rw [← UInt16.xor_eq_zero_iff, ← shifts_xor] at equal
  exact UInt16.xor_eq_zero_iff.mp (eq_zero_of_shifts_eq_zero equal)

theorem shifts_shifts (first second : Nat) (register : UInt16) :
    shifts second (shifts first register) = shifts (first + second) register := by
  induction first generalizing register with
  | zero => rw [Nat.zero_add, shifts]
  | succ first induction => rw [shifts, induction, Nat.succ_add, shifts]

theorem toNat_shift_of_lt {register : UInt16} (small : register.toNat < 32768) :
    (shift register).toNat = 2 * register.toNat := by
  rw [shift_eq, leads_eq_decide, decide_eq_false (Nat.not_le_of_lt small),
    if_neg Bool.false_ne_true, UInt16.xor_zero, toNat_shiftLeft_one]
  omega

theorem toNat_shifts_of_lt {count : Nat} {register : UInt16}
    (small : 2 ^ count * register.toNat < 65536) :
    (shifts count register).toNat = 2 ^ count * register.toNat := by
  induction count generalizing register with
  | zero => simp [shifts]
  | succ count induction =>
      rw [Nat.pow_succ, Nat.mul_assoc] at small ⊢
      have atLeast : 2 * register.toNat ≤ 2 ^ count * (2 * register.toNat) :=
        Nat.le_mul_of_pos_left _ (Nat.two_pow_pos count)
      have below : register.toNat < 32768 := by omega
      have doubled := toNat_shift_of_lt below
      rw [shifts, induction (by rwa [doubled]), doubled]

/-! ## Bytes -/

theorem toNat_toUInt16_shiftLeft (byte : UInt8) :
    (byte.toUInt16 <<< 8).toNat = 256 * byte.toNat := by
  have bound := byte.toNat_lt
  simp [Nat.shiftLeft_eq]
  omega

theorem shifts_eight_toUInt16 (byte : UInt8) :
    shifts 8 byte.toUInt16 = byte.toUInt16 <<< 8 := by
  have bound := byte.toNat_lt
  apply UInt16.toNat_inj.mp
  rw [toNat_toUInt16_shiftLeft]
  exact toNat_shifts_of_lt (by simp; omega)

theorem ofTrailer_eq_xor (high low : UInt8) :
    ofTrailer high low = (high.toUInt16 <<< 8) ^^^ low.toUInt16 := by
  apply UInt16.toBitVec_inj.mp
  apply BitVec.eq_of_getLsbD_eq
  intro index _
  by_cases inLow : index < 8
  · simp [ofTrailer, inLow]
  · have beyond : low.toBitVec.getLsbD index = false :=
      BitVec.getLsbD_of_ge _ _ (by omega)
    simp [ofTrailer, inLow, beyond]

theorem absorb_absorb (register : UInt16) (high low : UInt8) :
    absorb (absorb register high) low = shifts 16 (register ^^^ ofTrailer high low) := by
  rw [absorb, absorb, ← shifts_eight_toUInt16 low, ← shifts_xor, shifts_shifts,
    ofTrailer_eq_xor, UInt16.xor_assoc]

theorem absorb_left_injective {left right : UInt16} {byte : UInt8}
    (equal : absorb left byte = absorb right byte) : left = right :=
  (UInt16.xor_left_inj _).mp (shifts_injective equal)

theorem absorb_right_injective {register : UInt16} {byte other : UInt8}
    (equal : absorb register byte = absorb register other) : byte = other := by
  have moved :=
    congrArg UInt16.toNat ((UInt16.xor_right_inj _).mp (shifts_injective equal))
  rw [toNat_toUInt16_shiftLeft, toNat_toUInt16_shiftLeft] at moved
  exact UInt8.toNat_inj.mp (by omega)

theorem foldl_absorb_injective {bytes : Bytes} {left right : UInt16}
    (equal : bytes.foldl absorb left = bytes.foldl absorb right) : left = right := by
  induction bytes generalizing left right with
  | nil => exact equal
  | cons byte rest induction => exact absorb_left_injective (induction equal)

/-! ## Payloads -/

theorem checksum_append_pair (content : Bytes) (high low : UInt8) :
    checksum (content ++ [high, low]) =
      shifts 16 (checksum content ^^^ ofTrailer high low) := by
  rw [checksum, List.foldl_append]
  exact absorb_absorb (checksum content) high low

theorem checksum_append (content : Bytes) : checksum (append content) = 0 := by
  rw [append, trailer, checksum_append_pair, ofTrailer_trailer, UInt16.xor_self,
    shifts_zero]

theorem exists_eq_append_pair {payload : Bytes} (long : width ≤ payload.length) :
    ∃ content high low, payload = content ++ [high, low] := by
  match reversed : payload.reverse with
  | [] | [_] =>
      have short := congrArg List.length reversed
      simp only [List.length_reverse, List.length_nil, List.length_cons,
        width] at short long
      omega
  | low :: high :: content =>
      refine ⟨content.reverse, high, low, ?_⟩
      simpa using congrArg List.reverse reversed

theorem check_append_pair (content : Bytes) (high low : UInt8) :
    check (content ++ [high, low]) =
      if checksum content = ofTrailer high low then .ok (content, ofTrailer high low)
      else .error (.checksumMismatch (checksum content) (ofTrailer high low)) := by
  simp [check, splitTrailer?]

theorem check_of_checksum_ne_zero {payload : Bytes} (long : width ≤ payload.length)
    (remains : checksum payload ≠ 0) :
    ∃ computed received, computed ≠ received ∧
      check payload = .error (.checksumMismatch computed received) := by
  rcases exists_eq_append_pair long with ⟨content, high, low, rfl⟩
  have different : checksum content ≠ ofTrailer high low := by
    intro equal
    rw [checksum_append_pair, equal, UInt16.xor_self, shifts_zero] at remains
    exact remains rfl
  refine ⟨checksum content, ofTrailer high low, different, ?_⟩
  rw [check_append_pair, if_neg different]

theorem checksum_replaced_ne {front back : Bytes} {byte other : UInt8}
    (different : other ≠ byte) :
    checksum (front ++ other :: back) ≠ checksum (front ++ byte :: back) := by
  intro equal
  rw [checksum, checksum, List.foldl_append, List.foldl_append, List.foldl_cons,
    List.foldl_cons] at equal
  exact different (absorb_right_injective (foldl_absorb_injective equal))

end PanelLink.Checksum
