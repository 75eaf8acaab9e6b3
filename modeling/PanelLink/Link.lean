import PanelLink.Command
import PanelLink.Outlet
import PanelLink.Port
import PanelLink.Telemetry

/-! A link to the panel: commands go out through its outlet, telemetry comes in through
its inlet. -/

namespace PanelLink

structure Link where
  inlet : Inlet
  outlet : Outlet
deriving DecidableEq, Repr

namespace Link

def start (limit : Nat) (source : Source) (sink : Sink) : Link :=
  ⟨.start limit source, .start limit sink⟩

def written (link : Link) : Bytes := link.outlet.sink.accepted

def arrive (bytes : Bytes) (link : Link) : Link :=
  { link with inlet := { link.inlet with source := link.inlet.source.extend bytes } }

/-! ## Sending -/

def sendFrames : List Bytes → Outlet → Except FrameError Unit × Outlet
  | [], outlet => (.ok (), outlet)
  | frame :: rest, outlet =>
      match outlet.sendEncoded frame with
      | (.ok (), outlet) => sendFrames rest outlet
      | (.error error, outlet) => (.error error, outlet)

def send (commands : List Command) (link : Link) : Except LinkError (List Bytes) × Link :=
  let frames := Command.frames commands
  let (result, outlet) := sendFrames frames link.outlet
  ((result.mapError .frame).map fun () => frames, { link with outlet })

def toggle (button : UInt8) (link : Link) : Except LinkError Unit × Link :=
  match Command.checked .toggle button with
  | .error error => (.error error, link)
  | .ok command =>
      let (result, link) := link.send [command]
      (result.map fun _ => (), link)

def requestRefresh (link : Link) : Except LinkError Unit × Link :=
  let (result, link) := link.send [.refresh]
  (result.map fun _ => (), link)

/-! ## Receiving -/

def receiveFrame (link : Link) : Except LinkError Frame × Link :=
  let (result, inlet) := link.inlet.receive
  (result.mapError .frame, { link with inlet })

def receive (link : Link) : Except LinkError Telemetry × Link :=
  let (result, link) := link.receiveFrame
  (result.bind fun frame => Telemetry.ofContent frame.content, link)

/-! ## Opening -/

/-- What is found where the settings point: nothing that opens, or a port. What the port
holds is dropped when it is opened; `arrivals` is what its line brings from then on. -/
inductive Attachment where
  | missing (fault : SerialFault)
  | present (port : Port) (arrivals : Source)
deriving DecidableEq, Repr

def openPort (settings : PortSettings) (limit : Nat) (readTimeout : Option Duration) :
    Attachment → Except LinkError Link
  | .missing fault => .error (.port (.opening settings.device fault))
  | .present port arrivals => do
      let port ← ({ port with timeout := settings.timeout }.clear).mapError LinkError.port
      let reading ← { port with source := arrivals }.duplicate.mapError LinkError.port
      let (inlet, _) ← (reading.inlet limit readTimeout).mapError LinkError.frame
      return ⟨inlet, .start limit port.sink⟩

def openDefault (settings : PortSettings) (attachment : Attachment) :
    Except LinkError Link :=
  openPort settings Frame.defaultLimit (some settings.timeout) attachment

/-! ## Flushing -/

def flushCalls (link : Link) : Nat := link.outlet.sink.flushCalls

def withoutFlush (link : Link) : Link :=
  let sink := link.outlet.sink
  let flushes := .failure (.ofKind .timedOut) :: sink.flushes
  { link with outlet := { link.outlet with sink := { sink with flushes } } }


def describe (_link : Link) : String := "DeviceLink \x7b .. \x7d"

end Link

end PanelLink
