/-! Hexadecimal text with a least number of digits. -/

namespace PanelLink.Text

inductive LetterCase where
  | lower
  | upper
deriving DecidableEq, Repr

def hexDigit (letters : LetterCase) (value : Nat) : Char :=
  if value < 10 then Char.ofNat ('0'.toNat + value)
  else match letters with
    | .lower => Char.ofNat ('a'.toNat + (value - 10))
    | .upper => Char.ofNat ('A'.toNat + (value - 10))

def hexDigits (letters : LetterCase) : (count : Nat) → (value : Nat) → List Char
  | 0, _ => []
  | count + 1, value =>
      hexDigits letters count (value / 16) ++ [hexDigit letters (value % 16)]

def hex (letters : LetterCase) (count value : Nat) : String :=
  String.ofList (hexDigits letters count value)

end PanelLink.Text
