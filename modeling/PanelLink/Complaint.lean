import PanelLink.LinkError

/-!
How a run of the program ends when it cannot do its work: an exit status that sorts the
cause, and a line of text that starts with what the program was doing.
-/

namespace PanelLink

inductive ExitStatus where
  | success
  | failure
  | transport
  | permission
  | badData
  | usage
  | timeout
  | internal
deriving DecidableEq, Repr

namespace ExitStatus

def code : ExitStatus → Nat
  | success => 0
  | failure => 1
  | transport => 3
  | permission => 50
  | badData => 60
  | usage => 64
  | timeout => 124
  | internal => 125

end ExitStatus

structure Complaint where
  status : ExitStatus
  message : String
deriving DecidableEq, Repr

namespace Complaint

def usage (message : String) : Complaint := ⟨.usage, message⟩

private def during (context : String) (status : ExitStatus) (message : String) :
    Complaint :=
  ⟨status, context ++ ": " ++ message⟩

def ofSignals (message : String) : Complaint :=
  during "signal handler setup failed" .internal message

def failureStatus : FailureKind → ExitStatus
  | .permissionDenied => .permission
  | .timedOut | .wouldBlock => .timeout
  | .brokenPipe | .unexpectedEof => .failure
  | _ => .internal

def ofFailure (context : String) (failure : Failure) : Complaint :=
  during context (failureStatus failure.kind) failure.text

def portStatus : PortError → ExitStatus
  | .transfer failure => failureStatus failure.kind
  | error =>
      if error.failureKind? = some .permissionDenied then .permission else .transport

def ofPortError (context : String) (error : PortError) : Complaint :=
  during context (portStatus error) error.message

/-- A failure of the line is shown by its own text, without the frame's. -/
def ofFrameError (context : String) : FrameError → Complaint
  | .transfer failure => ofFailure context failure
  | .closed => during context .failure FrameError.closed.message
  | error => during context .badData error.message

def ofLinkError (context : String) : LinkError → Complaint
  | .port cause => ofPortError context cause
  | .frame cause => ofFrameError context cause
  | error@(.shortTelemetry _ _) => during context .badData error.message
  | error@(.buttonOutOfRange _) | error@(.invalidCommand _) =>
      during context .usage error.message

end Complaint

end PanelLink
