import PanelLink.Text.Hex

/-!
JSON values, and their text on one line without blanks. In a string the quote, the
backslash and control characters are escaped, and nothing else is.
-/

namespace PanelLink.Text

inductive Json where
  | null
  | number (value : Nat)
  | string (text : String)
  | array (values : List Json)
  | object (fields : List (String × Json))

namespace Json

def orNull {α : Type} (toJson : α → Json) : Option α → Json
  | none => null
  | some value => toJson value

def escapeChar (character : Char) : List Char :=
  match character with
  | '"' => ['\\', '"']
  | '\\' => ['\\', '\\']
  | '\x08' => ['\\', 'b']
  | '\t' => ['\\', 't']
  | '\n' => ['\\', 'n']
  | '\x0c' => ['\\', 'f']
  | '\r' => ['\\', 'r']
  | character =>
      if character.toNat < 0x20 then ['\\', 'u'] ++ hexDigits .lower 4 character.toNat
      else [character]

def quoted (text : String) : String :=
  "\"" ++ String.ofList (text.toList.flatMap escapeChar) ++ "\""

mutual

def render : Json → String
  | null => "null"
  | number value => Nat.repr value
  | string text => quoted text
  | array values => "[" ++ ",".intercalate (renderAll values) ++ "]"
  | object fields => "\x7b" ++ ",".intercalate (renderFields fields) ++ "\x7d"

def renderAll : List Json → List String
  | [] => []
  | value :: rest => value.render :: renderAll rest

def renderFields : List (String × Json) → List String
  | [] => []
  | (key, value) :: rest => (quoted key ++ ":" ++ value.render) :: renderFields rest

end

end Json

end PanelLink.Text
