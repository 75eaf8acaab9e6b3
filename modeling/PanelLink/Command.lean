import PanelLink.Button
import PanelLink.Frame

/-!
Commands to the panel. Each is one byte: what to do in the three high bits, the button in
the five low ones. Up to 125 commands travel in one frame.
-/

namespace PanelLink

inductive Action where
  | toggle
  | off
  | on
deriving DecidableEq, Repr

namespace Action

def name : Action → String
  | toggle => "toggle"
  | off => "off"
  | on => "on"

def bits : Action → UInt8
  | toggle => 0x40
  | off => 0x80
  | on => 0xC0

end Action

inductive Command where
  | idle
  | refresh
  | act (action : Action) (button : UInt8)
deriving DecidableEq, Repr

namespace Command

def checked (action : Action) (button : UInt8) : Except LinkError Command :=
  (Button.check button).map (act action)

theorem checked_cases (action : Action) (button : UInt8) :
    (button ≤ 31 ∧ checked action button = .ok (act action button)) ∨
      (31 < button ∧ checked action button = .error (.buttonOutOfRange button)) := by
  by_cases inRange : button ≤ Button.last
  · left
    refine ⟨inRange, ?_⟩
    rw [checked, Button.check, if_pos inRange]
    rfl
  · right
    refine ⟨UInt8.not_le.mp inRange, ?_⟩
    rw [checked, Button.check, if_neg inRange]
    rfl

def toByte : Command → UInt8
  | idle => 0x00
  | refresh => 0x20
  | act action button => action.bits ||| Button.ofByte button

def ofByte (byte : UInt8) : Except LinkError Command :=
  let kind := byte &&& 0xE0
  let button := Button.ofByte byte
  if kind = 0x00 then .ok idle
  else if kind = 0x20 then .ok refresh
  else if kind = Action.toggle.bits then .ok (act .toggle button)
  else if kind = Action.off.bits then .ok (act .off button)
  else if kind = Action.on.bits then .ok (act .on button)
  else .error (.invalidCommand byte)

def button? : Command → Option UInt8
  | idle | refresh => none
  | act _ button => some button

def text : Command → String
  | idle => "none"
  | refresh => "refresh"
  | act action button => action.name ++ ":" ++ Nat.repr button.toNat

/-! ## Frames of commands -/

def batchSize : Nat := 125

def frame (commands : List Command) : Bytes := Frame.encode (commands.map toByte)

def batches : List Command → List (List Command)
  | [] => []
  | first :: rest =>
      (first :: rest.take (batchSize - 1)) :: batches (rest.drop (batchSize - 1))
termination_by commands => commands.length
decreasing_by simp only [List.length_drop, List.length_cons]; omega

def frames (commands : List Command) : List Bytes := (batches commands).map frame

end Command

end PanelLink
