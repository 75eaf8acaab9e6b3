import PanelLink.Clock
import PanelLink.Inlet
import PanelLink.PortError
import PanelLink.Sink
import PanelLink.Text.Quoted

/-!
An open serial port: a source and a sink with a name and a time limit. The calls that
change its settings fail, when they do, always in the same way.
-/

namespace PanelLink

structure PortSettings where
  device : String := "/dev/ttyUSB0"
  baud : UInt32 := 9600
  timeout : Duration := .ofSeconds 1
deriving DecidableEq, Repr

/-- Whether a flush can be timed. It is given up after the time limit, and the clock has
to show when. -/
def PortSettings.canFlush (now : Instant) (settings : PortSettings) : Bool :=
  (now.after? settings.timeout).isSome

structure PortFaults where
  setTimeout : Option SerialFault := none
  duplicate : Option SerialFault := none
  clear : Option SerialFault := none
deriving DecidableEq, Repr

structure Port where
  name : Option String := none
  timeout : Duration := ⟨0⟩
  source : Source := { script := [] }
  sink : Sink := {}
  faults : PortFaults := {}
deriving DecidableEq, Repr

namespace Port

private def configured (fault : Option SerialFault) (port : Port) :
    Except PortError Port :=
  match fault with
  | some fault => .error (.configuring fault)
  | none => .ok port

def setTimeout (timeout : Duration) (port : Port) : Except PortError Port :=
  configured port.faults.setTimeout { port with timeout }

def duplicate (port : Port) : Except PortError Port :=
  configured port.faults.duplicate port

def clear (port : Port) : Except PortError Port :=
  configured port.faults.clear { port with source := port.source.clear }

def read (capacity : Nat) (port : Port) : Reading × Port :=
  let (reading, source) := port.source.read capacity
  (reading, { port with source })

def write (bytes : Bytes) (port : Port) : Except Failure Nat × Port :=
  let (result, sink) := port.sink.write bytes
  (result, { port with sink })

def flush (port : Port) : Except Failure Unit × Port :=
  let (result, sink) := port.sink.flush
  (result, { port with sink })

def frameError : PortError → FrameError
  | .transfer failure => .transfer failure
  | error => .transfer ⟨.other, error.message⟩

def inlet (limit : Nat) (readTimeout : Option Duration) (port : Port) :
    Except FrameError (Inlet × Port) :=
  match readTimeout with
  | none => .ok (.start limit port.source, port)
  | some timeout =>
      ((port.setTimeout timeout).mapError frameError).map fun port =>
        (.start limit port.source, port)

def describe (port : Port) : String :=
  let name := match port.name with
    | none => "None"
    | some name => "Some(" ++ Text.quoted name ++ ")"
  "LinkStream \x7b name: " ++ name ++ " \x7d"

end Port

end PanelLink
