import PanelLink.Command
import PanelLink.Text.Blank
import PanelLink.Text.Decimal

/-!
Commands as the user writes them: `refresh` and `none` alone, `toggle`, `on` and `off`
with a colon and a button. Names may be in any case, and blanks around the word and around
the number are ignored.
-/

namespace PanelLink

inductive CommandWordError where
  | invalidButton (text : String)
  | buttonOutOfRange (button : UInt8)
  | takesNoButton (name word : String)
  | needsButton (name : String)
  | unknown (word : String)
deriving DecidableEq, Repr

namespace CommandWordError

def message : CommandWordError → String
  | invalidButton text => "invalid button: " ++ text
  | buttonOutOfRange button =>
      "invalid command: " ++ (LinkError.buttonOutOfRange button).message
  | takesNoButton name word => "`" ++ name ++ "` takes no button: " ++ word
  | needsButton name => "`" ++ name ++ "` needs a button, e.g. " ++ name ++ ":3"
  | unknown word => "unknown command: " ++ word

end CommandWordError

namespace Command

inductive Name where
  | alone (command : Command)
  | withButton (action : Action)
deriving DecidableEq, Repr

def nameOf? (name : List Char) : Option Name :=
  let lower := String.ofList (name.map Char.toLower)
  if lower = "refresh" then some (.alone .refresh)
  else if lower = "none" then some (.alone .idle)
  else if lower = Action.toggle.name then some (.withButton .toggle)
  else if lower = Action.on.name then some (.withButton .on)
  else if lower = Action.off.name then some (.withButton .off)
  else none

def splitColon : List Char → List Char × Option (List Char)
  | [] => ([], none)
  | character :: rest =>
      if character = ':' then ([], some rest)
      else
        let (name, button) := splitColon rest
        (character :: name, button)

def buttonOf (text : List Char) : Except CommandWordError UInt8 :=
  match Text.unsigned? UInt8.size (Text.trim text) with
  | none => .error (.invalidButton (String.ofList text))
  | some value =>
      (Button.check (UInt8.ofNat value)).mapError fun _ =>
        .buttonOutOfRange (UInt8.ofNat value)

def ofWord (text : String) : Except CommandWordError Command :=
  let word := Text.trim text.toList
  let (name, button) := splitColon word
  match nameOf? name, button with
  | some (.alone command), none => .ok command
  | some (.withButton action), some button => (buttonOf button).map (act action)
  | some (.alone _), some _ =>
      .error (.takesNoButton (String.ofList name) (String.ofList word))
  | some (.withButton _), none => .error (.needsButton (String.ofList name))
  | none, _ => .error (.unknown (String.ofList word))

end Command

end PanelLink
