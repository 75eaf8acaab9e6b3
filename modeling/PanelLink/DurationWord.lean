import PanelLink.Clock
import PanelLink.Text.Blank
import PanelLink.Text.Decimal

/-!
Durations as the user writes them: a whole number of milliseconds with `ms` behind it, or
of seconds with `s` or nothing. A duration is never zero.
-/

namespace PanelLink

inductive DurationError where
  | empty
  | invalid (word : String)
  | zero
deriving DecidableEq, Repr

namespace DurationError

def message : DurationError → String
  | empty => "duration must not be empty"
  | invalid word => "invalid duration value: " ++ word
  | zero => "duration must be greater than zero"

end DurationError

inductive TimeUnit where
  | milliseconds
  | seconds
deriving DecidableEq, Repr

namespace Duration

def splitUnit (word : List Char) : List Char × TimeUnit :=
  match word.reverse with
  | 's' :: 'm' :: number => (number.reverse, .milliseconds)
  | 's' :: number => (number.reverse, .seconds)
  | _ => (word, .seconds)

def ofUnit (value : Nat) : TimeUnit → Duration
  | .milliseconds => ofMillis value
  | .seconds => ofSeconds value

def numberBound : Nat := UInt64.size

def ofWord (text : String) : Except DurationError Duration :=
  match Text.trim text.toList with
  | [] => .error .empty
  | word =>
      let (number, unit) := splitUnit word
      match Text.unsigned? numberBound number with
      | none => .error (.invalid (String.ofList word))
      | some value => if value = 0 then .error .zero else .ok (ofUnit value unit)

end Duration

end PanelLink
