/-!
Failures of the operating system's reads, writes and flushes. A failure is a kind, which
decides how the program reacts, and a text, which is only shown.
-/

namespace PanelLink

abbrev Bytes := List UInt8

inductive FailureKind where
  | notFound
  | permissionDenied
  | connectionRefused
  | connectionReset
  | notConnected
  | brokenPipe
  | wouldBlock
  | invalidInput
  | invalidData
  | timedOut
  | writeZero
  | interrupted
  | unexpectedEof
  | other
deriving DecidableEq, Repr

namespace FailureKind

def description : FailureKind → String
  | notFound => "entity not found"
  | permissionDenied => "permission denied"
  | connectionRefused => "connection refused"
  | connectionReset => "connection reset"
  | notConnected => "not connected"
  | brokenPipe => "broken pipe"
  | wouldBlock => "operation would block"
  | invalidInput => "invalid input parameter"
  | invalidData => "invalid data"
  | timedOut => "timed out"
  | writeZero => "write zero"
  | interrupted => "operation interrupted"
  | unexpectedEof => "unexpected end of file"
  | other => "other error"

/-- Waiting ran out: nothing is broken, and the same call may be made again. -/
def isTimeout (kind : FailureKind) : Bool :=
  kind = timedOut || kind = wouldBlock

end FailureKind

structure Failure where
  kind : FailureKind
  text : String
deriving DecidableEq, Repr

namespace Failure

def ofKind (kind : FailureKind) : Failure := ⟨kind, kind.description⟩

def isInterrupted (failure : Failure) : Bool := failure.kind = .interrupted

def isTimeout (failure : Failure) : Bool := failure.kind.isTimeout

end Failure

end PanelLink
