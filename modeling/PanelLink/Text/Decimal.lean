/-!
Whole numbers from text: an optional plus sign and at least one decimal digit, with a
value below a bound. Leading zeros are allowed, blanks and separators are not.
-/

namespace PanelLink.Text

def digit? (character : Char) : Option Nat :=
  if '0' ≤ character ∧ character ≤ '9' then some (character.toNat - '0'.toNat) else none

def digitsFrom? (value : Nat) : List Char → Option Nat
  | [] => some value
  | character :: rest =>
      (digit? character).bind fun digit => digitsFrom? (10 * value + digit) rest

def digits? : List Char → Option Nat
  | [] => none
  | first :: rest => digitsFrom? 0 (first :: rest)

def unsigned? (bound : Nat) (text : List Char) : Option Nat :=
  let digits := match text with
    | '+' :: rest => rest
    | text => text
  (digits? digits).filter (· < bound)

theorem lt_of_unsigned? {bound value : Nat} {text : List Char}
    (read : unsigned? bound text = some value) : value < bound :=
  of_decide_eq_true (Option.filter_eq_some_iff.mp read).2

/-- A number below `bound` where a minus sign is read too, so that only zero can carry it.
-/
def signed? (bound : Nat) (text : List Char) : Option Nat :=
  match text with
  | '-' :: rest => (digits? rest).filter (· = 0)
  | text => unsigned? bound text

end PanelLink.Text
