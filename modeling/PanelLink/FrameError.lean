import PanelLink.Failure
import PanelLink.Text.Hex

/-!
What can go wrong between a content and its bytes on the line. A damaged frame is dropped
and the line goes on; a failing or closed line does not.
-/

namespace PanelLink

inductive FrameError where
  | truncatedEscape
  | invalidEscape (byte : UInt8)
  /-- A frame boundary inside an escaped text. -/
  | strayEnd
  | checksumMismatch (computed received : UInt16)
  | shortFrame (length minimum : Nat)
  /-- More than `limit` bytes since the last frame boundary, or to be sent between two. -/
  | oversize (limit : Nat)
  | transfer (failure : Failure)
  | closed
deriving DecidableEq, Repr

inductive FrameErrorClass where
  | framing
  | checksum
  | short
  | oversize
  | transfer
  | closed
deriving DecidableEq, Repr

namespace FrameError

def message : FrameError → String
  | truncatedEscape => "truncated escape sequence at end of frame"
  | invalidEscape byte =>
      "invalid escape sequence (0xDB followed by 0x" ++ Text.hex .lower 2 byte.toNat ++
        ")"
  | strayEnd => "unescaped END byte inside frame content"
  | checksumMismatch computed received =>
      "checksum mismatch (computed 0x" ++ Text.hex .lower 4 computed.toNat ++
        ", received 0x" ++ Text.hex .lower 4 received.toNat ++ ")"
  | shortFrame length minimum =>
      "frame too short (" ++ Nat.repr length ++ " bytes, min " ++ Nat.repr minimum ++ ")"
  | oversize limit => "frame exceeds " ++ Nat.repr limit ++ " bytes without END marker"
  | transfer failure => "frame I/O error: " ++ failure.text
  | closed => "connection closed"

def sort : FrameError → FrameErrorClass
  | truncatedEscape | invalidEscape _ | strayEnd => .framing
  | checksumMismatch _ _ => .checksum
  | shortFrame _ _ => .short
  | oversize _ => .oversize
  | transfer _ => .transfer
  | closed => .closed

def recoverable : FrameError → Bool
  | transfer _ | closed => false
  | _ => true

def isTimeout : FrameError → Bool
  | transfer failure => failure.isTimeout
  | _ => false

end FrameError

end PanelLink
