import PanelLink.Frame
import PanelLink.Sink

/-!
An outlet writes frames to a sink. A frame that no receiver with the same limit would take
is refused before anything is written; any other is written to its end and flushed.
-/

namespace PanelLink

structure Outlet where
  limit : Nat
  sink : Sink
deriving DecidableEq, Repr

namespace Outlet

def start (limit : Nat) (sink : Sink) : Outlet := ⟨limit, sink⟩

def refusalError : Refusal → FrameError
  | .stalled => .closed
  | .failed cause => .transfer cause

def flush (outlet : Outlet) : Except FrameError Unit × Outlet :=
  let (result, sink) := outlet.sink.flushAll
  (result.mapError .transfer, { outlet with sink })

def sendEncoded (frame : Bytes) (outlet : Outlet) : Except FrameError Unit × Outlet :=
  if Frame.fits outlet.limit frame.length then
    match outlet.sink.writeAll frame with
    | (.ok (), sink) => flush { outlet with sink }
    | (.error refusal, sink) => (.error (refusalError refusal), { outlet with sink })
  else (.error (.oversize outlet.limit), outlet)

def send (content : Bytes) (outlet : Outlet) : Except FrameError Unit × Outlet :=
  outlet.sendEncoded (Frame.encode content)

/-- Send the content of `frame`. The checksum on the line is computed, whatever the frame
holds. -/
def sendFrame (frame : Frame) (outlet : Outlet) : Except FrameError Unit × Outlet :=
  outlet.send frame.content

end Outlet

end PanelLink
