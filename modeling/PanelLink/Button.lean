import PanelLink.LinkError

/-! A panel has thirty-two buttons, numbered in the low five bits of a byte. -/

namespace PanelLink.Button

def last : UInt8 := 31

def ofByte (byte : UInt8) : UInt8 := byte &&& 0x1F

def check (button : UInt8) : Except LinkError UInt8 :=
  if button ≤ last then .ok button else .error (.buttonOutOfRange button)

end PanelLink.Button
