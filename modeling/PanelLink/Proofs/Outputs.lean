import Mathlib.Data.Nat.BitIndices
import Mathlib.Data.Nat.Bitwise
import PanelLink.OutputState
import PanelLink.Proofs.Spelling

/-!
The outputs as four bytes, as a word of thirty-two bits, as the list of those that are on
and as text. Each is computed from the bytes on its own, and all of them agree: the list
is that of the bits that are set, the text is the word in hexadecimal digits, and the list
alone gives the bytes back.
-/

namespace PanelLink

theorem and_two_pow_eq_zero_iff (number index : Nat) :
    number &&& 2 ^ index = 0 ↔ number.testBit index = false := by
  rw [Nat.and_two_pow]
  cases number.testBit index <;> simp

/-! ## Bytes as numbers -/

def bigEndian (bytes : Bytes) : Nat :=
  bytes.foldl (fun value byte => 256 * value + byte.toNat) 0

theorem bigEndian_concat (bytes : Bytes) (last : UInt8) :
    bigEndian (bytes ++ [last]) = 256 * bigEndian bytes + last.toNat :=
  List.foldl_concat ..

theorem eq_of_bigEndian_eq {bytes others : Bytes}
    (sameLength : bytes.length = others.length)
    (same : bigEndian bytes = bigEndian others) : bytes = others := by
  induction bytes using List.reverseRecOn generalizing others with
  | nil => exact (List.length_eq_zero_iff.mp sameLength.symm).symm
  | append_singleton bytes last induction =>
      rcases List.eq_nil_or_concat' others with rfl | ⟨others, last', rfl⟩
      · simp at sameLength
      · rw [bigEndian_concat, bigEndian_concat] at same
        have shorter : bytes.length = others.length := by simpa using sameLength
        have small := last.toNat_lt
        have small' := last'.toNat_lt
        have sameLast : last.toNat = last'.toNat := by omega
        have sameHigher : bigEndian bytes = bigEndian others := by omega
        rw [induction shorter sameHigher, UInt8.toNat_inj.mp sameLast]

namespace Text

def upperHex : List Char := "0123456789ABCDEF".toList

theorem getElem?_upperHex {digit : Nat} (small : digit < 16) :
    upperHex[digit]? = some (hexDigit .upper digit) := by
  have all : ∀ digit : Fin 16, upperHex[digit.val]? = some (hexDigit .upper digit) := by
    decide
  exact all ⟨digit, small⟩

theorem Numeral.unique {alphabet text : List Char} (distinct : alphabet.Nodup)
    {value other : Nat} (numeral : Numeral alphabet text value)
    (again : Numeral alphabet text other) : other = value := by
  induction numeral generalizing other with
  | nil =>
      generalize empty : ([] : List Char) = row at again
      cases again with
      | nil => rfl
      | concat => simp at empty
  | concat higher shown induction =>
      rcases numeral_concat_iff.mp again with
        ⟨otherHigher, digit, numeral, shownAgain, rfl⟩
      have inside := (List.getElem?_eq_some_iff.mp shown).1
      rw [induction numeral,
        (List.getElem?_inj inside distinct).mp (shown.trans shownAgain.symm)]

theorem numeral_flatMap_hexDigits (bytes : Bytes) :
    Numeral upperHex (bytes.flatMap fun byte => hexDigits .upper 2 byte.toNat)
      (bigEndian bytes) := by
  induction bytes using List.reverseRecOn with
  | nil => exact .nil
  | append_singleton bytes last induction =>
      have high : last.toNat / 16 % 16 < 16 := Nat.mod_lt _ (by decide)
      have low : last.toNat % 16 < 16 := Nat.mod_lt _ (by decide)
      have both :=
        (induction.concat (getElem?_upperHex high)).concat (getElem?_upperHex low)
      have small : last.toNat < 256 := last.toNat_lt
      have whole : 256 * bigEndian bytes + last.toNat =
          16 * (16 * bigEndian bytes + last.toNat / 16 % 16) + last.toNat % 16 := by omega
      rw [bigEndian_concat, whole, List.flatMap_append, List.flatMap_singleton]
      rw [List.append_assoc] at both
      exact both

end Text

/-! ## States -/

namespace OutputState

theorem toNat_shiftLeft (byte : UInt8) {amount : UInt32} (inRange : amount.toNat ≤ 24) :
    (byte.toUInt32 <<< amount).toNat = 2 ^ amount.toNat * byte.toNat := by
  have modest : amount.toNat % 32 = amount.toNat := Nat.mod_eq_of_lt (by omega)
  have fits : 2 ^ amount.toNat * byte.toNat < 2 ^ 32 := by
    calc 2 ^ amount.toNat * byte.toNat
      _ < 2 ^ amount.toNat * 2 ^ 8 :=
        Nat.mul_lt_mul_of_pos_left byte.toNat_lt (Nat.two_pow_pos _)
      _ = 2 ^ (amount.toNat + 8) := (Nat.pow_add ..).symm
      _ ≤ 2 ^ 32 := Nat.pow_le_pow_right (by decide) (by omega)
  rw [UInt32.toNat_shiftLeft, UInt8.toNat_toUInt32, modest, Nat.shiftLeft_eq,
    Nat.mul_comm, Nat.mod_eq_of_lt fits]

theorem toNat_bits (state : OutputState) :
    state.bits.toNat = bigEndian state.toBytes := by
  have second := state.second.toNat_lt
  have third := state.third.toNat_lt
  have upper : 2 ^ 24 * state.first.toNat ||| 2 ^ 16 * state.second.toNat =
      2 ^ 16 * (256 * state.first.toNat + state.second.toNat) := by
    rw [← Nat.two_pow_add_eq_or_of_lt (by omega)]
    omega
  have middle :
      2 ^ 16 * (256 * state.first.toNat + state.second.toNat) |||
        2 ^ 8 * state.third.toNat =
      2 ^ 8 * (256 * (256 * state.first.toNat + state.second.toNat) +
        state.third.toNat) := by
    rw [← Nat.two_pow_add_eq_or_of_lt (by omega)]
    omega
  rw [bits, UInt32.toNat_or, UInt32.toNat_or, UInt32.toNat_or,
    toNat_shiftLeft _ (by decide), toNat_shiftLeft _ (by decide),
    toNat_shiftLeft _ (by decide), UInt8.toNat_toUInt32]
  change 2 ^ 24 * state.first.toNat ||| 2 ^ 16 * state.second.toNat |||
    2 ^ 8 * state.third.toNat ||| state.fourth.toNat = _
  rw [upper, middle, ← Nat.two_pow_add_eq_or_of_lt state.fourth.toNat_lt]
  simp [bigEndian, toBytes]

theorem bits_injective {state other : OutputState} (same : other.bits = state.bits) :
    other = state := by
  have sameLength : other.toBytes.length = state.toBytes.length := rfl
  have sameBytes : other.toBytes = state.toBytes := by
    apply eq_of_bigEndian_eq sameLength
    rw [← toNat_bits, ← toNat_bits, same]
  cases state
  cases other
  simp only [toBytes, List.cons.injEq, and_true] at sameBytes
  simpa using sameBytes

theorem testBit_of_le (state : OutputState) {index : Nat} (beyond : 32 ≤ index) :
    state.bits.toNat.testBit index = false := by
  apply Nat.testBit_lt_two_pow
  exact Nat.lt_of_lt_of_le state.bits.toNat_lt (Nat.pow_le_pow_right (by decide) beyond)

theorem isOn_eq_testBit (state : OutputState) (output : UInt8) :
    state.isOn output = state.bits.toNat.testBit output.toNat := by
  by_cases inRange : output < 32
  · have below : output.toNat < 32 := UInt8.lt_iff_toNat_lt.mp inRange
    have single : ((1 : UInt32) <<< output.toUInt32).toNat = 2 ^ output.toNat := by
      rw [UInt32.toNat_shiftLeft, UInt8.toNat_toUInt32, Nat.mod_eq_of_lt below,
        UInt32.toNat_one, Nat.one_shiftLeft,
        Nat.mod_eq_of_lt (Nat.pow_lt_pow_right (by decide) below)]
    have unset : state.bits &&& (1 : UInt32) <<< output.toUInt32 = 0 ↔
        state.bits.toNat.testBit output.toNat = false := by
      rw [← UInt32.toNat_inj, UInt32.toNat_and, single, UInt32.toNat_zero]
      exact and_two_pow_eq_zero_iff state.bits.toNat output.toNat
    rw [isOn, decide_eq_true inRange, Bool.true_and]
    cases set : state.bits.toNat.testBit output.toNat <;> simp [unset, set]
  · have beyond : 32 ≤ output.toNat :=
      Nat.le_of_not_lt fun below => inRange (UInt8.lt_iff_toNat_lt.mpr below)
    rw [isOn, decide_eq_false inRange, Bool.false_and, testBit_of_le state beyond]

theorem mem_on {state : OutputState} {output : UInt8} :
    output ∈ state.on ↔ state.isOn output = true := by
  rw [on, List.mem_filter, and_iff_right_iff_imp]
  intro lit
  rw [isOn, Bool.and_eq_true, decide_eq_true_eq] at lit
  have below : output.toNat < 32 := UInt8.lt_iff_toNat_lt.mp lit.1
  exact List.mem_map.mpr ⟨output.toNat, List.mem_range.mpr below, UInt8.ofNat_toNat⟩

theorem pairwise_on (state : OutputState) : state.on.Pairwise (· < ·) := by
  have ascending : ((List.range 32).map UInt8.ofNat).Pairwise (· < ·) := by decide
  exact ascending.filter _

theorem map_on_eq_bitIndices (state : OutputState) :
    state.on.map UInt8.toNat = state.bits.toNat.bitIndices := by
  have ascending : (state.on.map UInt8.toNat).SortedLT := by
    rw [List.sortedLT_iff_pairwise, List.pairwise_map]
    exact state.pairwise_on.imp UInt8.lt_iff_toNat_lt.mp
  apply ascending.eq_of_mem_iff Nat.bitIndices_sorted
  intro index
  rw [Nat.mem_bitIndices, List.mem_map]
  constructor
  · rintro ⟨output, listed, rfl⟩
    rw [← isOn_eq_testBit]
    exact mem_on.mp listed
  · intro set
    have below : index < 32 := by
      apply Nat.lt_of_not_le
      intro beyond
      rw [state.testBit_of_le beyond] at set
      cases set
    have same : (UInt8.ofNat index).toNat = index :=
      UInt8.toNat_ofNat_of_lt' (Nat.lt_trans below (by decide))
    refine ⟨UInt8.ofNat index, ?_, same⟩
    rw [mem_on, isOn_eq_testBit, same, set]

theorem sum_on (state : OutputState) :
    (state.on.map fun output => 2 ^ output.toNat).sum = state.bits.toNat := by
  have powers :
      (state.on.map fun output => 2 ^ output.toNat) =
        (state.on.map UInt8.toNat).map (2 ^ ·) :=
    List.map_map.symm
  rw [powers, map_on_eq_bitIndices, Nat.sum_map_two_pow_bitIndices]

theorem numeral_text_iff (state : OutputState) (value : Nat) :
    Text.Numeral Text.upperHex state.text.toList value ↔ value = state.bits.toNat := by
  have numeral := Text.numeral_flatMap_hexDigits state.toBytes
  rw [← toNat_bits] at numeral
  rw [text, String.toList_ofList]
  constructor
  · exact numeral.unique (by decide)
  · rintro rfl
    exact numeral

/-- The outputs that are on are listed in order, and are the bits of the word. The text is
the word in eight hexadecimal digits with capitals, which can be read in no other way. No
output past the last is on, and no other state has the same list. -/
theorem renderings_agree (state : OutputState) :
    state.on.Pairwise (· < ·) ∧ (∀ output, output ∈ state.on ↔ state.isOn output = true) ∧
    (state.on.map fun output => 2 ^ output.toNat).sum = state.bits.toNat ∧
    state.text.length = 8 ∧
    (∀ value, Text.Numeral Text.upperHex state.text.toList value ↔
      value = state.bits.toNat) ∧
    (∀ output, 32 ≤ output → state.isOn output = false) ∧
    ∀ other : OutputState, other.on = state.on → other = state := by
  refine ⟨state.pairwise_on, fun output => mem_on, state.sum_on, ?_,
    state.numeral_text_iff, ?_, ?_⟩
  · rw [text, String.length_ofList]
    rfl
  · intro output beyond
    rw [isOn_eq_testBit, testBit_of_le]
    exact UInt8.le_iff_toNat_le.mp beyond
  · intro other same
    apply bits_injective
    rw [← UInt32.toNat_inj, ← sum_on, ← sum_on, same]

theorem renderings_agree_at_ends :
    let state : OutputState := ⟨0x80, 0, 0, 0x01⟩
    state.on = [0, 31] ∧ state.bits = 0x80000001 ∧ state.text = "80000001" ∧
      Text.Numeral Text.upperHex "80000001".toList 0x80000001 ∧ state.isOn 32 = false ∧
      ∀ other : OutputState, other.on = [0, 31] → other = state := by
  intro state
  have listed : state.on = [0, 31] := by decide +kernel
  have shown : state.text = "80000001" := by decide +kernel
  have word : state.bits = 0x80000001 := by decide +kernel
  rcases renderings_agree state with ⟨_, _, _, _, read, beyond, alone⟩
  rw [shown, word] at read
  rw [listed] at alone
  exact ⟨listed, word, shown, (read _).mpr rfl, beyond 32 (by decide), alone⟩

end OutputState

end PanelLink
