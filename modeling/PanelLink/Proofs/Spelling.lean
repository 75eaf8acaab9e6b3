import Mathlib.Data.List.Forall2
import Mathlib.Data.List.Induction
import Mathlib.Data.List.TakeWhile
import PanelLink.Text.Blank
import PanelLink.Text.Decimal

/-!
How words and numbers are spelled: what is left of a text without the blanks around it, a
name in small letters or capitals, and the value of a row of digits. All of this is said
without reading the text from one end to the other, and the functions that do read it
agree.
-/

namespace PanelLink.Text

/-! ## Blanks -/

/-- The word is the text without the blanks around it. There is none left at its ends. -/
structure Trimmed (text word : List Char) : Prop where
  around : ∃ before after, text = before ++ word ++ after ∧
    (∀ character ∈ before, isBlank character = true) ∧
    ∀ character ∈ after, isBlank character = true
  starts : ∀ character ∈ word.head?, isBlank character = false
  ends : ∀ character ∈ word.getLast?, isBlank character = false

theorem isBlank_of_mem_head?_dropWhile (text : List Char) :
    ∀ character ∈ (text.dropWhile isBlank).head?, isBlank character = false := by
  intro character first
  have stopped := List.head?_dropWhile_not isBlank text
  rwa [Option.mem_def.mp first] at stopped

theorem dropWhile_isBlank_append {word : List Char} (filled : word ≠ [])
    (starts : ∀ character ∈ word.head?, isBlank character = false) (rest : List Char) :
    (word ++ rest).dropWhile isBlank = word ++ rest := by
  cases word with
  | nil => exact absurd rfl filled
  | cons first others =>
      apply List.dropWhile_cons_of_neg
      exact Bool.eq_false_iff.mp (starts first rfl)

theorem trimmed_trim (text : List Char) : Trimmed text (trim text) := by
  -- The inner text starts with no blank, and reversed it is some blanks and the word
  -- reversed.
  have split : text.dropWhile isBlank =
      trim text ++ ((text.dropWhile isBlank).reverse.takeWhile isBlank).reverse := by
    rw [trim, ← List.reverse_append, List.takeWhile_append_dropWhile,
      List.reverse_reverse]
  refine ⟨⟨text.takeWhile isBlank,
      ((text.dropWhile isBlank).reverse.takeWhile isBlank).reverse, ?_, ?_, ?_⟩,
    ?_, ?_⟩
  · rw [List.append_assoc, ← split, List.takeWhile_append_dropWhile]
  · intro character member
    exact List.mem_takeWhile_imp member
  · intro character member
    exact List.mem_takeWhile_imp (List.mem_reverse.mp member)
  · intro character first
    apply isBlank_of_mem_head?_dropWhile text
    rw [split]
    exact List.mem_head?_append_of_mem_head? first
  · intro character last
    rw [trim, List.getLast?_reverse] at last
    exact isBlank_of_mem_head?_dropWhile _ character last

theorem trim_of_trimmed {text word : List Char} (trimmed : Trimmed text word) :
    trim text = word := by
  rcases trimmed.around with ⟨before, after, rfl, blankBefore, blankAfter⟩
  have blankBehind : ∀ character ∈ after.reverse, isBlank character = true := by
    intro character member
    exact blankAfter character (List.mem_reverse.mp member)
  rw [trim, List.append_assoc, List.dropWhile_append_of_pos blankBefore]
  by_cases filled : word = []
  · subst filled
    rw [List.nil_append, List.dropWhile_eq_nil_iff.mpr blankAfter]
    rfl
  · have ends : ∀ character ∈ word.reverse.head?, isBlank character = false := by
      rw [List.head?_reverse]
      exact trimmed.ends
    have kept := dropWhile_isBlank_append (List.reverse_ne_nil_iff.mpr filled) ends []
    rw [dropWhile_isBlank_append filled trimmed.starts, List.reverse_append,
      List.dropWhile_append_of_pos blankBehind, ← List.append_nil word.reverse, kept,
      List.append_nil, List.reverse_reverse]

theorem trim_eq_iff {text word : List Char} : trim text = word ↔ Trimmed text word := by
  constructor
  · rintro rfl
    exact trimmed_trim text
  · exact trim_of_trimmed

example : trim [' ', 'a', ' ', 'b', '\t'] = ['a', ' ', 'b'] := rfl

theorem trimmed_self {word : List Char}
    (solid : ∀ character ∈ word, isBlank character = false) : Trimmed word word where
  around := ⟨[], [], by simp, nofun, nofun⟩
  starts := fun character first => solid character (List.mem_of_mem_head? first)
  ends := fun character last => solid character (List.mem_of_getLast? last)

/-! ## Names -/

def InAnyCase (name : String) (spelled : List Char) : Prop :=
  List.Forall₂ (fun letter character => character = letter ∨ character = letter.toUpper)
    name.toList spelled

theorem inAnyCase_self (name : String) : InAnyCase name name.toList :=
  List.forall₂_same.mpr fun _ _ => .inl rfl

theorem toLower_eq_iff {letter : Char} (small : letter.isLower = true)
    (character : Char) :
    character.toLower = letter ↔ character = letter ∨ character = letter.toUpper := by
  have range : 'a'.val ≤ letter.val ∧ letter.val ≤ 'z'.val := by
    unfold Char.isLower at small
    simpa using small
  have raised : letter.toUpper.val = letter.val + ('A'.val - 'a'.val) := by
    unfold Char.toUpper
    rw [dif_pos range]
  constructor
  · intro lowered
    unfold Char.toLower at lowered
    split at lowered
    · right
      apply Char.ext
      rw [raised, ← lowered, UInt32.add_assoc]
      exact (UInt32.add_zero _).symm
    · exact .inl lowered
  · rintro (rfl | rfl)
    · have noCapital : ¬('A'.val ≤ character.val ∧ character.val ≤ 'Z'.val) :=
        fun capital =>
        absurd (UInt32.le_trans range.1 capital.2) (by decide)
      unfold Char.toLower
      rw [dif_neg noCapital]
    · have capital : 'A'.val ≤ letter.toUpper.val ∧ letter.toUpper.val ≤ 'Z'.val := by
        have sum :
            letter.toUpper.val.toNat = (letter.val.toNat + 4294967264) % 2 ^ 32 := by
          rw [raised, UInt32.toNat_add]
          rfl
        have least : 97 ≤ letter.val.toNat := UInt32.le_iff_toNat_le.mp range.1
        have greatest : letter.val.toNat ≤ 122 := UInt32.le_iff_toNat_le.mp range.2
        constructor
        · apply UInt32.le_iff_toNat_le.mpr
          change 65 ≤ _
          omega
        · apply UInt32.le_iff_toNat_le.mpr
          change _ ≤ 90
          omega
      unfold Char.toLower
      rw [dif_pos capital]
      apply Char.ext
      change letter.toUpper.val + _ = letter.val
      rw [raised, UInt32.add_assoc]
      exact UInt32.add_zero _

theorem map_toLower_eq_iff {name : String} (small : name.toList.all Char.isLower = true)
    {spelled : List Char} :
    String.ofList (spelled.map Char.toLower) = name ↔ InAnyCase name spelled := by
  rw [← String.toList_inj, String.toList_ofList, InAnyCase]
  generalize name.toList = letters at small ⊢
  induction letters generalizing spelled with
  | nil => rw [List.map_eq_nil_iff, List.forall₂_nil_left_iff]
  | cons letter others induction =>
      rw [List.all_cons, Bool.and_eq_true] at small
      cases spelled with
      | nil => simp
      | cons character rest =>
          rw [List.map_cons, List.cons.injEq, List.forall₂_cons,
            toLower_eq_iff small.1, induction small.2]

theorem InAnyCase.not_mem {name : String} (small : name.toList.all Char.isLower = true)
    {spelled : List Char} (named : InAnyCase name spelled) {character : Char}
    (foreign : character.toLower ∉ name.toList) : character ∉ spelled := by
  intro member
  rw [← map_toLower_eq_iff small, ← String.toList_inj, String.toList_ofList] at named
  apply foreign
  rw [← named]
  exact List.mem_map_of_mem member

/-! ## Numbers -/

/-- A row of digits, the highest first, and its value. A digit is a place in the alphabet,
and the base is the number of places. -/
inductive Numeral (alphabet : List Char) : List Char → Nat → Prop where
  | nil : Numeral alphabet [] 0
  | concat {text : List Char} {value digit : Nat} {character : Char}
      (higher : Numeral alphabet text value)
      (shown : alphabet[digit]? = some character) :
      Numeral alphabet (text ++ [character]) (alphabet.length * value + digit)

def decimal : List Char := "0123456789".toList

inductive Unsigned : List Char → Nat → Prop where
  | plain {digits : List Char} {value : Nat} (filled : digits ≠ [])
      (numeral : Numeral decimal digits value) :
      Unsigned digits value
  | plus {digits : List Char} {value : Nat} (filled : digits ≠ [])
      (numeral : Numeral decimal digits value) :
      Unsigned ('+' :: digits) value

theorem numeral_concat_iff {alphabet text : List Char} {character : Char} {value : Nat} :
    Numeral alphabet (text ++ [character]) value ↔
      ∃ higher digit, Numeral alphabet text higher ∧ alphabet[digit]? = some character ∧
        value = alphabet.length * higher + digit := by
  constructor
  · intro numeral
    generalize whole : text ++ [character] = row at numeral
    cases numeral with
    | nil => simp at whole
    | concat higher shown =>
        rcases List.append_inj' whole rfl with ⟨rfl, same⟩
        cases same
        exact ⟨_, _, higher, shown, rfl⟩
  · rintro ⟨higher, digit, numeral, shown, rfl⟩
    exact .concat numeral shown

theorem getElem?_decimal {digit : Nat} (small : digit < 10) :
    decimal[digit]? = some (Nat.digitChar digit) := by
  have all : ∀ digit : Fin 10, decimal[digit.val]? = some (Nat.digitChar digit) := by
    decide
  exact all ⟨digit, small⟩

theorem digit?_eq_some_iff {character : Char} {digit : Nat} :
    digit? character = some digit ↔ decimal[digit]? = some character := by
  constructor
  · intro read
    rw [digit?] at read
    split at read
    · rename_i range
      cases read
      have least : 48 ≤ character.toNat := range.1
      have greatest : character.toNat ≤ 57 := range.2
      have small : character.toNat - 48 < 10 := by omega
      have same : Nat.digitChar (character.toNat - 48) = character := by
        rw [← Char.toNat_inj, Nat.toNat_digitChar_of_lt_ten small]
        omega
      exact (getElem?_decimal small).trans (congrArg some same)
    · cases read
  · intro shown
    have small : digit < 10 := (List.getElem?_eq_some_iff.mp shown).1
    have all : ∀ digit : Fin 10, digit? (Nat.digitChar digit) = some digit.val := by
      decide
    rw [getElem?_decimal small] at shown
    cases shown
    exact all ⟨digit, small⟩

theorem digitsFrom?_concat (value : Nat) (text : List Char) (character : Char) :
    digitsFrom? value (text ++ [character]) =
      (digitsFrom? value text).bind fun higher =>
        (digit? character).map (10 * higher + ·) := by
  induction text generalizing value with
  | nil =>
      rw [List.nil_append, digitsFrom?, digitsFrom?]
      cases digit? character <;> rfl
  | cons first rest induction =>
      rw [List.cons_append, digitsFrom?, digitsFrom?]
      cases digit? first with
      | none => rfl
      | some digit => exact induction _

theorem digitsFrom?_eq_some_iff {text : List Char} {value : Nat} :
    digitsFrom? 0 text = some value ↔ Numeral decimal text value := by
  induction text using List.reverseRecOn generalizing value with
  | nil =>
      constructor
      · intro read
        cases read
        exact .nil
      · intro numeral
        generalize empty : ([] : List Char) = row at numeral
        cases numeral with
        | nil => rfl
        | concat => simp at empty
  | append_singleton text character induction =>
      rw [digitsFrom?_concat, numeral_concat_iff]
      simp only [Option.bind_eq_some_iff, Option.map_eq_some_iff, induction,
        digit?_eq_some_iff]
      constructor
      · rintro ⟨higher, numeral, digit, shown, rfl⟩
        exact ⟨higher, digit, numeral, shown, rfl⟩
      · rintro ⟨higher, digit, numeral, shown, rfl⟩
        exact ⟨higher, numeral, digit, shown, rfl⟩

theorem digits?_eq_some_iff {text : List Char} {value : Nat} :
    digits? text = some value ↔ text ≠ [] ∧ Numeral decimal text value := by
  cases text with
  | nil => simp [digits?]
  | cons first rest =>
      rw [digits?, digitsFrom?_eq_some_iff, and_iff_right (List.cons_ne_nil _ _)]

theorem Numeral.mem_alphabet {alphabet text : List Char} {value : Nat}
    (numeral : Numeral alphabet text value) :
    ∀ character ∈ text, character ∈ alphabet := by
  induction numeral with
  | nil => exact nofun
  | concat higher shown induction =>
      intro character member
      rcases List.mem_append.mp member with before | last
      · exact induction character before
      · rw [List.mem_singleton.mp last]
        exact List.mem_of_getElem? shown

theorem Unsigned.isBlank_eq_false {text : List Char} {value : Nat}
    (unsigned : Unsigned text value) : ∀ character ∈ text, isBlank character = false := by
  have solid : ('+' :: decimal).any isBlank = false := by decide
  intro character member
  apply Bool.eq_false_iff.mpr
  apply List.any_eq_false.mp solid
  cases unsigned with
  | plain filled numeral =>
      exact List.mem_cons_of_mem _ (numeral.mem_alphabet character member)
  | plus filled numeral =>
      rcases List.mem_cons.mp member with rfl | digit
      · exact List.mem_cons_self
      · exact List.mem_cons_of_mem _ (numeral.mem_alphabet character digit)

theorem Unsigned.ne_nil {text : List Char} {value : Nat}
    (unsigned : Unsigned text value) : text ≠ [] := by
  cases unsigned with
  | plain filled => exact filled
  | plus => exact List.cons_ne_nil _ _

theorem Unsigned.ends {text : List Char} {value : Nat} (unsigned : Unsigned text value) :
    ∀ character ∈ text.getLast?, character ∈ decimal := by
  intro character last
  cases unsigned with
  | plain filled numeral =>
      exact numeral.mem_alphabet character (List.mem_of_getLast? last)
  | plus filled numeral =>
      rw [List.getLast?_cons_of_ne_nil filled] at last
      exact numeral.mem_alphabet character (List.mem_of_getLast? last)

theorem unsigned?_eq_some_iff {bound value : Nat} {text : List Char} :
    unsigned? bound text = some value ↔ Unsigned text value ∧ value < bound := by
  unfold unsigned?
  rw [Option.filter_eq_some_iff, digits?_eq_some_iff, decide_eq_true_eq]
  apply and_congr_left
  intro _
  split
  · rename_i digits
    constructor
    · rintro ⟨filled, numeral⟩
      exact .plus filled numeral
    · intro unsigned
      cases unsigned with
      | plain filled numeral =>
          exact absurd (numeral.mem_alphabet '+' List.mem_cons_self) (by decide)
      | plus filled numeral => exact ⟨filled, numeral⟩
  · rename_i unmarked
    constructor
    · rintro ⟨filled, numeral⟩
      exact .plain filled numeral
    · intro unsigned
      cases unsigned with
      | plain filled numeral => exact ⟨filled, numeral⟩
      | plus filled numeral => exact absurd rfl (unmarked _)

theorem numeral_toDigits (number : Nat) :
    Numeral decimal (Nat.toDigits 10 number) number := by
  induction number using Nat.strongRecOn with
  | ind number induction =>
      rw [Nat.toDigits_eq_if (by decide)]
      split
      · rename_i small
        have single := Numeral.nil.concat (getElem?_decimal small)
        rwa [Nat.mul_zero, Nat.zero_add] at single
      · have fewer : number / 10 < number := by omega
        have whole := (induction (number / 10) fewer).concat
          (getElem?_decimal (Nat.mod_lt number (by decide)))
        rwa [show decimal.length = 10 from rfl, Nat.div_add_mod] at whole

theorem unsigned_repr (number : Nat) : Unsigned (Nat.repr number).toList number := by
  rw [Nat.toList_repr]
  exact .plain Nat.toDigits_ne_nil (numeral_toDigits number)

end PanelLink.Text
