import PanelLink.Button

/-!
A button event is one byte: bit six says that it is an event at all, bit seven that the
button was let go, and the low five bits name the button.
-/

namespace PanelLink

inductive EventKind where
  | press
  | release
deriving DecidableEq, Repr

namespace EventKind

def name : EventKind → String
  | press => "press"
  | release => "release"

def bits : EventKind → UInt8
  | press => 0x40
  | release => 0xC0

end EventKind

structure ButtonEvent where
  kind : EventKind
  button : UInt8
deriving DecidableEq, Repr

namespace ButtonEvent

def masked (kind : EventKind) (button : UInt8) : ButtonEvent :=
  ⟨kind, Button.ofByte button⟩

/-- The event a byte stands for. A byte with bit six clear is padding. -/
def ofByte? (byte : UInt8) : Option ButtonEvent :=
  if byte &&& 0x40 = 0 then none
  else some (masked (if byte &&& 0x80 = 0 then .press else .release) byte)

def toByte (event : ButtonEvent) : UInt8 := event.kind.bits ||| Button.ofByte event.button

def text (event : ButtonEvent) : String :=
  match event.kind with
  | .press => "Press start " ++ Nat.repr event.button.toNat
  | .release => "Press end " ++ Nat.repr event.button.toNat

end ButtonEvent

end PanelLink
