import Mathlib.Data.List.Induction
import PanelLink.Proofs.Remainder

/-!
A payload as a row of bits, and its remainder on division by the generator, one bit at a
time. The register takes in whole bytes ahead of their place, but it comes to the same: a
payload is accepted if and only if its bits leave the remainder zero.
-/

namespace PanelLink.Checksum

/-! ## Rows of bits -/

def byteBits (byte : UInt8) : List Bool := (List.range 8).map byte.toBitVec.getMsbD

/-- The bits of a run of bytes, numbered through from the most significant bit of the
first byte. -/
def bits (bytes : Bytes) : List Bool := bytes.flatMap byteBits

theorem length_byteBits (byte : UInt8) : (byteBits byte).length = 8 := by
  rw [byteBits, List.length_map, List.length_range]

theorem bits_cons (byte : UInt8) (rest : Bytes) :
    bits (byte :: rest) = byteBits byte ++ bits rest := rfl

theorem bits_append (front back : Bytes) :
    bits (front ++ back) = bits front ++ bits back :=
  List.flatMap_append

theorem length_bits (bytes : Bytes) : (bits bytes).length = 8 * bytes.length := by
  induction bytes with
  | nil => rfl
  | cons byte rest induction =>
      rw [bits_cons, List.length_append, length_byteBits, induction, List.length_cons]
      omega

/-! ## Remainders -/

def remainder (row : List Bool) : UInt16 :=
  row.foldl (fun register bit => shift register ^^^ bit.toUInt16) 0

theorem remainder_concat (row : List Bool) (bit : Bool) :
    remainder (row ++ [bit]) = shift (remainder row) ^^^ bit.toUInt16 := by
  rw [remainder, List.foldl_append]
  rfl

theorem remainder_singleton (bit : Bool) : remainder [bit] = bit.toUInt16 := by
  cases bit <;> rfl

theorem shift_shifts (count : Nat) (register : UInt16) :
    shift (shifts count register) = shifts (count + 1) register :=
  shifts_shifts count 1 register

theorem remainder_append (front back : List Bool) :
    remainder (front ++ back) =
      shifts back.length (remainder front) ^^^ remainder back := by
  -- Bits are taken in on the right, so the induction adds them there.
  induction back using List.reverseRecOn with
  | nil =>
      rw [List.append_nil, List.length_nil, shifts]
      exact UInt16.xor_zero.symm
  | append_singleton back bit induction =>
      rw [← List.append_assoc, remainder_concat, induction, remainder_concat, shift_xor,
        shift_shifts, List.length_append, List.length_singleton, UInt16.xor_assoc]

theorem remainder_cons (bit : Bool) (row : List Bool) :
    remainder (bit :: row) = shifts row.length bit.toUInt16 ^^^ remainder row := by
  rw [← List.singleton_append, remainder_append, remainder_singleton]

theorem remainder_of_not_mem {row : List Bool} (clear : true ∉ row) :
    remainder row = 0 := by
  induction row with
  | nil => rfl
  | cons bit row induction =>
      have unset : bit = false :=
        Bool.eq_false_iff.mpr (List.ne_of_not_mem_cons clear).symm
      rw [remainder_cons, unset, induction (List.not_mem_of_not_mem_cons clear)]
      exact UInt16.xor_zero.trans (shifts_zero row.length)

theorem remainder_zipWith_xor {left right : List Bool}
    (sameLength : left.length = right.length) :
    remainder (List.zipWith xor left right) = remainder left ^^^ remainder right := by
  induction left generalizing right with
  | nil =>
      rw [List.eq_nil_of_length_eq_zero sameLength.symm]
      rfl
  | cons bit left induction =>
      cases right with
      | nil => cases sameLength
      | cons other right =>
          have sameRest : left.length = right.length := Nat.succ.inj sameLength
          have sum : (bit ^^ other).toUInt16 = bit.toUInt16 ^^^ other.toUInt16 := by
            cases bit <;> cases other <;> rfl
          rw [List.zipWith_cons_cons, remainder_cons, remainder_cons, remainder_cons,
            induction sameRest, List.length_zipWith, sameRest, Nat.min_self, sum,
            shifts_xor]
          ac_rfl

/-! ## Short rows -/

theorem getLsbD_shiftLeft_one (register : UInt16) {index : Nat}
    (inside : index + 1 < 16) :
    (register <<< 1).toBitVec.getLsbD (index + 1) = register.toBitVec.getLsbD index := by
  have moved : (register <<< 1).toBitVec = register.toBitVec <<< 1 := rfl
  rw [moved, BitVec.getLsbD_shiftLeft, decide_eq_true inside]
  rfl

theorem getLsbD_remainder {row : List Bool} (short : row.length ≤ 16) {index : Nat}
    (inside : index < 16) :
    (remainder row).toBitVec.getLsbD index = row.reverse.getD index false := by
  induction row using List.reverseRecOn generalizing index with
  | nil => simp [remainder]
  | append_singleton row bit induction =>
      rw [List.length_append, List.length_singleton] at short
      have shorter : row.length ≤ 15 := by omega
      have unled : leads (remainder row) = false := by
        rw [leads, BitVec.msb_eq_getLsbD_last, induction (by omega) (by omega)]
        simp [shorter]
      rw [remainder_concat, shift_eq, unled, List.reverse_append, List.reverse_singleton,
        List.singleton_append]
      cases index with
      | zero => simp
      | succ index =>
          have moved := getLsbD_shiftLeft_one (remainder row) inside
          rw [List.getD_cons_succ, ← induction (by omega) (by omega), ← moved]
          simp

theorem not_mem_of_remainder {row : List Bool} (short : row.length ≤ 16)
    (vanishes : remainder row = 0) : true ∉ row := by
  intro hit
  rcases List.mem_iff_getElem?.mp (List.mem_reverse.mpr hit) with ⟨index, found⟩
  have inside : index < 16 := by
    have bound := (List.getElem?_eq_some_iff.mp found).1
    rw [List.length_reverse] at bound
    omega
  have kept := getLsbD_remainder short inside
  rw [vanishes, List.getD_eq_getElem?_getD, found] at kept
  simp at kept

theorem remainder_byteBits (byte : UInt8) :
    remainder (byteBits byte) = byte.toUInt16 := by
  apply UInt16.toBitVec_inj.mp
  apply BitVec.eq_of_getLsbD_eq
  intro index inside
  rw [getLsbD_remainder (by rw [length_byteBits]; omega) inside]
  by_cases low : index < 8
  · have mirrored : 8 - 1 - (7 - index) = index := by omega
    have place : 7 - index < 8 := by omega
    simp [byteBits, low, inside, BitVec.getMsbD, mirrored, place]
  · have beyond : byte.toBitVec.getLsbD index = false :=
      BitVec.getLsbD_of_ge _ _ (by omega)
    simp [byteBits, low, beyond]

/-! ## Accepted payloads -/

theorem remainder_append_byteBits (row : List Bool) (byte : UInt8) :
    remainder (row ++ byteBits byte) = shifts 8 (remainder row) ^^^ byte.toUInt16 := by
  rw [remainder_append, length_byteBits, remainder_byteBits]

theorem bits_concat (front : Bytes) (byte : UInt8) :
    bits (front ++ [byte]) = bits front ++ byteBits byte := by
  rw [bits_append, bits_cons]
  exact congrArg (bits front ++ ·) (List.append_nil _)

/-- The register runs sixteen places ahead of the bits it has taken in. -/
theorem checksum_eq_shifts_remainder (bytes : Bytes) :
    checksum bytes = shifts 16 (remainder (bits bytes)) := by
  induction bytes using List.reverseRecOn with
  | nil => exact (shifts_zero 16).symm
  | append_singleton front byte induction =>
      rw [bits_concat, remainder_append_byteBits, checksum, List.foldl_append, ← checksum,
        induction, List.foldl_cons, List.foldl_nil, absorb, ← shifts_eight_toUInt16,
        shifts_xor, shifts_xor, shifts_shifts, shifts_shifts, shifts_shifts]

theorem remainder_bits_append_pair (content : Bytes) (high low : UInt8) :
    remainder (bits (content ++ [high, low])) =
      checksum content ^^^ ofTrailer high low := by
  have split : content ++ [high, low] = content ++ [high] ++ [low] := by simp
  rw [split, bits_concat, bits_concat, remainder_append_byteBits,
    remainder_append_byteBits, shifts_xor, shifts_shifts, ← checksum_eq_shifts_remainder,
    shifts_eight_toUInt16, ofTrailer_eq_xor, UInt16.xor_assoc]

theorem verify_of_long {payload : Bytes} (long : width ≤ payload.length) :
    verify payload = decide (remainder (bits payload) = 0) := by
  rcases exists_eq_append_pair long with ⟨content, high, low, rfl⟩
  rw [verify, split, check_append_pair, remainder_bits_append_pair]
  by_cases fits : checksum content = ofTrailer high low
  · rw [if_pos fits, decide_eq_true (UInt16.xor_eq_zero_iff.mpr fits)]
    rfl
  · rw [if_neg fits, decide_eq_false (fits ∘ UInt16.xor_eq_zero_iff.mp)]
    rfl

theorem long_of_verify {payload : Bytes} (accepted : verify payload = true) :
    width ≤ payload.length := by
  match payload with
  | [] | [_] => cases accepted
  | _ :: _ :: rest => exact Nat.le_add_left 2 rest.length

theorem remainder_of_verify {payload : Bytes} (accepted : verify payload = true) :
    remainder (bits payload) = 0 := by
  rw [verify_of_long (long_of_verify accepted)] at accepted
  exact of_decide_eq_true accepted

end PanelLink.Checksum
