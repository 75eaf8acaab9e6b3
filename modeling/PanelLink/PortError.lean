import PanelLink.Failure

/-! What can go wrong with a serial port, apart from the bytes on it. -/

namespace PanelLink

inductive SerialFaultKind where
  | noDevice
  | invalidInput
  | unknown
  | transfer (kind : FailureKind)
deriving DecidableEq, Repr

structure SerialFault where
  kind : SerialFaultKind
  text : String
deriving DecidableEq, Repr

namespace SerialFault

def failureKind? (fault : SerialFault) : Option FailureKind :=
  match fault.kind with
  | .transfer kind => some kind
  | .noDevice => some .notFound
  | .invalidInput | .unknown => none

end SerialFault

inductive PortError where
  | opening (path : String) (fault : SerialFault)
  | configuring (fault : SerialFault)
  | listing (fault : SerialFault)
  | transfer (failure : Failure)
deriving DecidableEq, Repr

namespace PortError

def message : PortError → String
  | opening path fault => "failed to open " ++ path ++ ": " ++ fault.text
  | configuring fault => "failed to configure serial port: " ++ fault.text
  | listing fault => "failed to list serial ports: " ++ fault.text
  | transfer failure => "transport I/O error: " ++ failure.text

def failureKind? : PortError → Option FailureKind
  | opening _ fault | configuring fault | listing fault => fault.failureKind?
  | transfer failure => some failure.kind

end PortError

end PanelLink
