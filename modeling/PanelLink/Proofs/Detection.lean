import Mathlib.Algebra.Ring.Parity
import Mathlib.Data.Nat.Bits
import PanelLink.Proofs.Period
import PanelLink.Proofs.Results

/-!
What the checksum never misses. A disturbed payload is accepted if and only if the
disturbance by itself leaves the remainder zero. Bits close together leave themselves,
moved along; an odd number of bits leaves an odd number of them; and two bits less than a
period apart do not meet.
-/

namespace PanelLink

namespace Checksum

/-! ## Disturbed payloads -/

def disturb (payload pattern : Bytes) : Bytes := List.zipWith (· ^^^ ·) payload pattern

theorem length_disturb {payload pattern : Bytes}
    (sameLength : pattern.length = payload.length) :
    (disturb payload pattern).length = payload.length := by
  rw [disturb, List.length_zipWith, sameLength, Nat.min_self]

theorem byteBits_xor (byte other : UInt8) :
    byteBits (byte ^^^ other) = List.zipWith xor (byteBits byte) (byteBits other) := by
  simp [byteBits, List.zipWith_map]

theorem bits_disturb {payload pattern : Bytes}
    (sameLength : pattern.length = payload.length) :
    bits (disturb payload pattern) = List.zipWith xor (bits payload) (bits pattern) := by
  induction payload generalizing pattern with
  | nil => rfl
  | cons byte payload induction =>
      cases pattern with
      | nil => cases sameLength
      | cons other pattern =>
          have sameBits : (byteBits byte).length = (byteBits other).length := by
            rw [length_byteBits, length_byteBits]
          rw [bits_cons, bits_cons, List.zipWith_append sameBits, ← byteBits_xor,
            ← induction (Nat.succ.inj sameLength)]
          rfl

theorem verify_disturb {payload pattern : Bytes} (accepted : verify payload = true)
    (sameLength : pattern.length = payload.length) :
    verify (disturb payload pattern) = decide (remainder (bits pattern) = 0) := by
  have long : width ≤ (disturb payload pattern).length := by
    rw [length_disturb sameLength]
    exact long_of_verify accepted
  have sameBits : (bits payload).length = (bits pattern).length := by
    rw [length_bits, length_bits, sameLength]
  rw [verify_of_long long, bits_disturb sameLength, remainder_zipWith_xor sameBits,
    remainder_of_verify accepted, UInt16.zero_xor]

/-! ## Bits close together -/

/-- Of sixteen places in a row, one that is set is never lost, wherever they lie. -/
theorem remainder_ne_zero_of_window {row : List Bool} {first : Nat} (hit : true ∈ row)
    (window : ∀ index, row[index]? = some true → first ≤ index ∧ index < first + 16) :
    remainder row ≠ 0 := by
  -- Before and behind the sixteen places nothing is set, so the row leaves what they
  -- hold, shifted.
  intro vanishes
  have before : true ∉ row.take first := by
    intro member
    rcases List.mem_iff_getElem?.mp member with ⟨index, found⟩
    rw [List.getElem?_take] at found
    split at found
    · have inside := window index found
      omega
    · cases found
  have behind : true ∉ (row.drop first).drop 16 := by
    intro member
    rcases List.mem_iff_getElem?.mp member with ⟨index, found⟩
    rw [List.drop_drop, List.getElem?_drop] at found
    have inside := window _ found
    omega
  have split :
      row = row.take first ++ ((row.drop first).take 16 ++ (row.drop first).drop 16) := by
    rw [List.take_append_drop, List.take_append_drop]
  rw [split, remainder_append, remainder_append, remainder_of_not_mem before, shifts_zero,
    remainder_of_not_mem behind, UInt16.zero_xor, UInt16.xor_zero] at vanishes
  have between : true ∉ (row.drop first).take 16 :=
    not_mem_of_remainder (List.length_take_le 16 _) (eq_zero_of_shifts_eq_zero vanishes)
  rw [split, List.mem_append, List.mem_append] at hit
  rcases hit with member | member | member
  · exact before member
  · exact between member
  · exact behind member

theorem true_mem_bits {bytes : Bytes} (nonzero : ∃ byte ∈ bytes, byte ≠ 0) :
    true ∈ bits bytes := by
  rcases nonzero with ⟨byte, member, different⟩
  have inside : true ∈ byteBits byte := by
    by_contra clear
    have vanishes : byte.toUInt16 = (0 : UInt8).toUInt16 := by
      rw [← remainder_byteBits]
      exact remainder_of_not_mem clear
    exact different (UInt8.toUInt16_inj.mp vanishes)
  exact List.mem_flatMap.mpr ⟨byte, member, inside⟩

/-- A burst of errors within sixteen bits in a row, wherever it begins, is always noticed.
-/
theorem verify_burst {payload pattern : Bytes} {first : Nat}
    (accepted : verify payload = true)
    (sameLength : pattern.length = payload.length) (nonzero : ∃ byte ∈ pattern, byte ≠ 0)
    (window : ∀ index, (bits pattern)[index]? = some true →
      first ≤ index ∧ index < first + 16) :
    verify (disturb payload pattern) = false := by
  rw [verify_disturb accepted sameLength]
  exact decide_eq_false (remainder_ne_zero_of_window (true_mem_bits nonzero) window)

theorem verify_burst_across_bytes :
    verify [0x40, 0x48, 0xC4] = true ∧
      (∀ index, (bits [0x01, 0xFF, 0xFE])[index]? = some true →
        7 ≤ index ∧ index < 7 + 16) ∧
      verify (disturb [0x40, 0x48, 0xC4] [0x01, 0xFF, 0xFE]) = false := by
  have accepted : verify [0x40, 0x48, 0xC4] = true := rfl
  have window : ∀ index, (bits [0x01, 0xFF, 0xFE])[index]? = some true →
      7 ≤ index ∧ index < 7 + 16 := by
    have places : ∀ index < 24, (bits [0x01, 0xFF, 0xFE])[index]? = some true →
        7 ≤ index ∧ index < 7 + 16 := by decide
    intro index found
    exact places index (List.getElem?_eq_some_iff.mp found).1 found
  exact ⟨accepted, window,
    verify_burst accepted rfl ⟨0x01, List.mem_cons_self, by decide⟩ window⟩

/-! ## An odd number of bits -/

def bitSum (register : UInt16) : (count : Nat) → Bool
  | 0 => false
  | count + 1 => bitSum register count ^^ register.toBitVec.getLsbD count

def parity (register : UInt16) : Bool := bitSum register 16

theorem bitSum_xor (left right : UInt16) (count : Nat) :
    bitSum (left ^^^ right) count = (bitSum left count ^^ bitSum right count) := by
  induction count with
  | zero => rfl
  | succ count induction =>
      rw [bitSum, bitSum, bitSum, induction, UInt16.toBitVec_xor, BitVec.getLsbD_xor,
        Bool.xor_assoc, Bool.xor_assoc, Bool.xor_left_comm (bitSum right count)]

theorem parity_xor (left right : UInt16) :
    parity (left ^^^ right) = (parity left ^^ parity right) :=
  bitSum_xor left right 16

theorem bitSum_shiftLeft_one (register : UInt16) {count : Nat} (inside : count < 16) :
    bitSum (register <<< 1) (count + 1) = bitSum register count := by
  induction count with
  | zero => simp [bitSum]
  | succ count induction =>
      rw [bitSum, induction (by omega), getLsbD_shiftLeft_one register inside, bitSum]

/-- The generator has an even number of terms, so dividing it out changes no parity. -/
theorem parity_shift (register : UInt16) : parity (shift register) = parity register := by
  have leading : leads register = register.toBitVec.getLsbD 15 :=
    BitVec.msb_eq_getLsbD_last _
  have dividedOut :
      parity (if leads register then generator else 0) = leads register := by
    cases leads register <;> rfl
  rw [shift_eq, parity_xor, dividedOut, leading, parity,
    bitSum_shiftLeft_one register (by omega)]
  rfl

theorem parity_remainder (row : List Bool) :
    parity (remainder row) = (row.count true).bodd := by
  induction row using List.reverseRecOn with
  | nil => rfl
  | append_singleton row bit induction =>
      have single : parity bit.toUInt16 = bit := by cases bit <;> rfl
      rw [remainder_concat, parity_xor, parity_shift, single, induction,
        List.count_append]
      cases bit with
      | false => exact Bool.xor_false _
      | true =>
          rw [Bool.xor_true]
          exact (Nat.bodd_succ _).symm

/-- An odd number of errors is always noticed. -/
theorem verify_odd {payload pattern : Bytes} (accepted : verify payload = true)
    (sameLength : pattern.length = payload.length)
    (odd : Odd ((bits pattern).count true)) :
    verify (disturb payload pattern) = false := by
  rw [verify_disturb accepted sameLength]
  apply decide_eq_false
  intro vanishes
  have even : ((bits pattern).count true).bodd = false := by
    rw [← parity_remainder, vanishes]
    rfl
  rw [Nat.odd_iff, Nat.mod_two_of_bodd, even] at odd
  cases odd

theorem verify_odd_three :
    verify [0x40, 0x48, 0xC4] = true ∧ Odd ((bits [0x80, 0x01, 0x10]).count true) ∧
      verify (disturb [0x40, 0x48, 0xC4] [0x80, 0x01, 0x10]) = false := by
  have accepted : verify [0x40, 0x48, 0xC4] = true := rfl
  have odd : Odd ((bits [0x80, 0x01, 0x10]).count true) := ⟨1, rfl⟩
  exact ⟨accepted, odd, verify_odd accepted rfl odd⟩

/-! ## Two bits -/

def flipBit (index : Nat) (bytes : Bytes) : Bytes :=
  bytes.modify (index / 8) (· ^^^ (0x80 >>> UInt8.ofNat (index % 8)))

theorem length_flipBit (index : Nat) (bytes : Bytes) :
    (flipBit index bytes).length = bytes.length :=
  List.length_modify _ _ _

theorem flipBit_cons_of_lt {index : Nat} (here : index < 8) (byte : UInt8)
    (rest : Bytes) :
    flipBit index (byte :: rest) = (byte ^^^ (0x80 >>> UInt8.ofNat index)) :: rest := by
  rw [flipBit, Nat.div_eq_of_lt here, Nat.mod_eq_of_lt here, List.modify_zero_cons]

theorem flipBit_cons_add (index : Nat) (byte : UInt8) (rest : Bytes) :
    flipBit (index + 8) (byte :: rest) = byte :: flipBit index rest := by
  rw [flipBit, Nat.add_div_right _ (by omega), Nat.add_mod_right, List.modify_succ_cons,
    flipBit]

example : flipBit 9 [0x40, 0x48, 0xC4] = [0x40, 0x08, 0xC4] := rfl

theorem toUInt16_mask {index : Nat} (inside : index < 8) :
    ((0x80 : UInt8) >>> UInt8.ofNat index).toUInt16 = shifts (7 - index) 1 := by
  revert index
  decide

theorem remainder_flipBit {bytes : Bytes} {index : Nat}
    (inside : index < 8 * bytes.length) :
    remainder (bits (flipBit index bytes)) =
      remainder (bits bytes) ^^^ shifts (8 * bytes.length - 1 - index) 1 := by
  induction bytes generalizing index with
  | nil => cases inside
  | cons byte rest induction =>
      rw [List.length_cons] at inside ⊢
      rcases Nat.lt_or_ge index 8 with here | later
      · have place : 8 * (rest.length + 1) - 1 - index = 7 - index + 8 * rest.length := by
          omega
        rw [flipBit_cons_of_lt here, bits_cons, bits_cons, remainder_append,
          remainder_append, remainder_byteBits, remainder_byteBits, UInt8.toUInt16_xor,
          toUInt16_mask here, shifts_xor, length_bits, shifts_shifts, place]
        ac_rfl
      · rcases Nat.exists_eq_add_of_le' later with ⟨index, rfl⟩
        have place :
            8 * (rest.length + 1) - 1 - (index + 8) =
              8 * rest.length - 1 - index := by omega
        rw [flipBit_cons_add, bits_cons, bits_cons, remainder_append, remainder_append,
          length_bits, length_bits, length_flipBit, induction (by omega), place,
          UInt16.xor_assoc]

theorem verify_flipBit_flipBit {payload : Bytes} {first second : Nat}
    (accepted : verify payload = true) (short : payload.length ≤ 4095)
    (firstInside : first < 8 * payload.length)
    (secondInside : second < 8 * payload.length) (distinct : first ≠ second) :
    verify (flipBit first (flipBit second payload)) = false := by
  have long : width ≤ (flipBit first (flipBit second payload)).length := by
    rw [length_flipBit, length_flipBit]
    exact long_of_verify accepted
  rw [verify_of_long long]
  apply decide_eq_false
  rw [remainder_flipBit (by rwa [length_flipBit]), remainder_flipBit secondInside,
    length_flipBit, remainder_of_verify accepted, UInt16.zero_xor, UInt16.xor_eq_zero_iff]
  intro meet
  have same := eq_of_shifts_one_eq (by omega) (by omega) meet
  omega

end Checksum

/-! ## Received payloads -/

namespace Receiver

theorem length_of_verdict {limit : Nat} {segment payload : Bytes}
    (closed : verdict limit segment = some (.ok payload)) : payload.length ≤ limit := by
  rw [verdict] at closed
  split at closed
  · cases closed
  · split at closed
    · cases closed
    · rename_i within _
      have written := Escape.eq_body_of_decode (Option.some.inj closed)
      have shorter := Escape.length_le_length_body payload
      rw [← written] at shorter
      omega

/-- Unescaping makes nothing longer, so a payload is within the limit of its segment. -/
theorem length_of_mem_outcomes {limit : Nat} {stream payload : Bytes}
    (yielded : .ok payload ∈ (start limit).outcomes stream) : payload.length ≤ limit := by
  induction stream using Escape.segment_induction with
  | last bytes unbroken =>
      rw [outcomes_start limit unbroken] at yielded
      split at yielded <;> simp at yielded
  | ended segment rest unbroken induction =>
      rw [outcomes_append, run_start_append_endByte, outcomes_segment limit unbroken,
        List.mem_append, List.mem_append] at yielded
      rcases yielded with (oversize | closed) | later
      · split at oversize <;> simp at oversize
      · exact length_of_verdict (Option.mem_toList.mp closed)
      · exact induction later

end Receiver

namespace Checksum

/-- Two errors in up to 4095 bytes are always noticed, and no receiver with the usual
limit yields more. -/
theorem verify_two_errors :
    (∀ (payload : Bytes) (first second : Nat), verify payload = true →
      payload.length ≤ 4095 →
      first < 8 * payload.length → second < 8 * payload.length → first ≠ second →
      verify (flipBit first (flipBit second payload)) = false) ∧
    (∀ stream payload : Bytes,
      .ok payload ∈ (Receiver.start Frame.defaultLimit).outcomes stream →
      payload.length ≤ 4095) := by
  constructor
  · intro payload first second accepted short firstInside secondInside distinct
    exact verify_flipBit_flipBit accepted short firstInside secondInside distinct
  · intro stream payload yielded
    exact Nat.le_trans (Receiver.length_of_mem_outcomes yielded) (by decide)

theorem verify_zeros {count : Nat} (long : width ≤ count) :
    verify (List.replicate count 0) = true := by
  have clear : true ∉ bits (List.replicate count 0) := by
    intro member
    rcases List.mem_flatMap.mp member with ⟨byte, among, inside⟩
    rw [List.eq_of_mem_replicate among] at inside
    exact absurd inside (by decide)
  rw [verify_of_long (by rwa [List.length_replicate]), remainder_of_not_mem clear]
  rfl

theorem verify_two_errors_at_ends :
    verify (List.replicate 4095 0) = true ∧
      verify (flipBit 0 (flipBit 32759 (List.replicate 4095 0))) = false ∧
      .ok [0x40, 0x48, 0xC4] ∈ (Receiver.start 512).outcomes (Frame.encode [0x40]) ∧
      verify (flipBit 0 (flipBit 23 [0x40, 0x48, 0xC4])) = false := by
  have zeros : verify (List.replicate 4095 0) = true := verify_zeros (by decide)
  have longest : (List.replicate 4095 (0 : UInt8)).length = 4095 := List.length_replicate
  have yielded :
      .ok [0x40, 0x48, 0xC4] ∈ (Receiver.start 512).outcomes (Frame.encode [0x40]) := by
    decide +kernel
  refine ⟨zeros, ?_, yielded, ?_⟩
  · exact verify_two_errors.1 _ 0 32759 zeros (by rw [longest]) (by rw [longest]; decide)
      (by rw [longest]; decide) (by decide)
  · exact verify_two_errors.1 _ 0 23 rfl (verify_two_errors.2 _ _ yielded) (by decide)
      (by decide)
      (by decide)

end Checksum

end PanelLink
