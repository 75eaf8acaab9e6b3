import PanelLink.FrameError
import PanelLink.PortError

/-! What can go wrong between the program and the panel. -/

namespace PanelLink

inductive LinkError where
  | port (cause : PortError)
  | frame (cause : FrameError)
  | shortTelemetry (length minimum : Nat)
  | buttonOutOfRange (button : UInt8)
  | invalidCommand (byte : UInt8)
deriving DecidableEq, Repr

namespace LinkError

def rangePieces (button : UInt8) : List String :=
  ["button ", Nat.repr button.toNat, " out of range (0-31)"]

def message : LinkError → String
  | port cause => "transport error: " ++ cause.message
  | frame cause => "frame error: " ++ cause.message
  | shortTelemetry length minimum =>
      "telemetry frame too short (" ++ Nat.repr length ++ " bytes, min " ++
        Nat.repr minimum ++ ")"
  | buttonOutOfRange button => String.join (rangePieces button)
  | invalidCommand byte => "invalid command byte 0x" ++ Text.hex .lower 2 byte.toNat

def recoverable : LinkError → Bool
  | frame cause => cause.recoverable
  | shortTelemetry _ _ => true
  | port _ | buttonOutOfRange _ | invalidCommand _ => false

def isTimeout : LinkError → Bool
  | frame cause => cause.isTimeout
  | _ => false

end LinkError

end PanelLink
