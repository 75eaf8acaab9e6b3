import PanelLink.Event
import PanelLink.OutputState

/-!
Telemetry from the panel: thirty-two event slots, each an event or padding, and behind
them the state of the outputs when the panel sends it.
-/

namespace PanelLink

namespace Telemetry

def slotCount : Nat := 32

end Telemetry

structure Telemetry where
  slots : Bytes
  state : Option OutputState
  slots_length : slots.length = Telemetry.slotCount
deriving DecidableEq, Repr

namespace Telemetry

def ofEvents (events : List ButtonEvent) (state : Option OutputState) : Telemetry where
  slots :=
    let used := (events.take slotCount).map ButtonEvent.toByte
    used ++ List.replicate (slotCount - used.length) 0
  state := state
  slots_length := by
    simp only [List.length_append, List.length_map, List.length_take,
      List.length_replicate]
    omega

def toBytes (telemetry : Telemetry) : Bytes :=
  telemetry.slots ++ (telemetry.state.map OutputState.toBytes).getD []

/-- The telemetry in a content. Bytes behind the output state are ignored. -/
def ofContent (content : Bytes) : Except LinkError Telemetry :=
  if enough : slotCount ≤ content.length then
    .ok {
      slots := content.take slotCount
      state := OutputState.ofBytes? (content.drop slotCount)
      slots_length := by simp [enough] }
  else .error (.shortTelemetry content.length slotCount)

def events (telemetry : Telemetry) : List ButtonEvent :=
  telemetry.slots.filterMap ButtonEvent.ofByte?

end Telemetry

/-! ## Walking through the events -/

structure EventCursor where
  remaining : Bytes
deriving DecidableEq, Repr

namespace EventCursor

def start (telemetry : Telemetry) : EventCursor := ⟨telemetry.slots⟩

def firstEvent : Bytes → Option ButtonEvent × Bytes
  | [] => (none, [])
  | slot :: rest =>
      match ButtonEvent.ofByte? slot with
      | some event => (some event, rest)
      | none => firstEvent rest

def next (cursor : EventCursor) : Option ButtonEvent × EventCursor :=
  let (event, remaining) := firstEvent cursor.remaining
  (event, ⟨remaining⟩)

def sizeHint (cursor : EventCursor) : Nat × Nat := (0, cursor.remaining.length)

def rest (cursor : EventCursor) : List ButtonEvent :=
  cursor.remaining.filterMap ButtonEvent.ofByte?

end EventCursor

end PanelLink
