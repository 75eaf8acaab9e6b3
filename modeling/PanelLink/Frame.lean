import PanelLink.Checksum
import PanelLink.Escape

/-! A frame is a content together with the checksum it travelled or will travel with. -/

namespace PanelLink

structure Frame where
  content : Bytes
  checksum : UInt16
deriving DecidableEq, Repr

namespace Frame

def defaultLimit : Nat := 512

def ofContent (content : Bytes) : Frame := ⟨content, PanelLink.checksum content⟩

/-- The length on the line of the content with the checksum the frame holds. -/
def wireSize (frame : Frame) : Nat :=
  Escape.encodedLength (frame.content ++ Checksum.trailer frame.checksum)

def encode (content : Bytes) : Bytes := Escape.encode (Checksum.append content)

def ofPayload (payload : Bytes) : Except FrameError Frame :=
  (Checksum.check payload).map fun (content, received) => ⟨content, received⟩

def fits (limit length : Nat) : Bool := length - 2 ≤ limit

end Frame

end PanelLink
