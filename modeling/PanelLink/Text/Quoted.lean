import PanelLink.Text.Combining
import PanelLink.Text.Hex
import PanelLink.Text.Ignorable
import PanelLink.Text.Unprinted

/-!
Text between double quotes, with every character that would not show as itself written
out: the quote, the backslash and the usual control characters by a letter, combining
marks and all that does not print or may be passed over by its code.
-/

namespace PanelLink.Text

def shortHex (code : Nat) : List Char :=
  match (hexDigits .lower 6 code).dropWhile (· = '0') with
  | [] => ['0']
  | digits => digits

def quoteChar (character : Char) : List Char :=
  match character with
  | '\t' => ['\\', 't']
  | '\r' => ['\\', 'r']
  | '\n' => ['\\', 'n']
  | '\x00' => ['\\', '0']
  | '\\' => ['\\', '\\']
  | '"' => ['\\', '"']
  | character =>
      if isCombining character || isIgnorable character || isUnprinted character then
        ['\\', 'u', '\x7b'] ++ shortHex character.toNat ++ ['\x7d']
      else [character]

def quoted (text : String) : String :=
  "\"" ++ String.ofList (text.toList.flatMap quoteChar) ++ "\""

end PanelLink.Text
