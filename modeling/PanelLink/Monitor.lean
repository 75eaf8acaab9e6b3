import PanelLink.Complaint
import PanelLink.Link
import PanelLink.Schedule

/-!
Monitoring takes turns: ask for a refresh when one is due, receive once, and keep the
telemetry if there was any. Timeouts are always passed over and bad frames unless the
monitor is strict. It ends when enough records have been kept, or at the first thing that
cannot be passed over.
-/

namespace PanelLink

structure MonitorSettings where
  count : Option Nat := none
  strict : Bool := false
  /-- The monitor is stopped from outside after this many records. -/
  stopAfter : Option Nat := none
deriving DecidableEq, Repr

inductive MonitorEnding where
  | finished (printed : Nat)
  | failed (complaint : Complaint)
  | clockOverflow
  /-- The line stays silent for ever, and the monitor waits with it. -/
  | waiting
deriving DecidableEq, Repr

structure Monitor where
  link : Link
  schedule : RefreshSchedule
  records : List Telemetry
  printed : Nat
deriving DecidableEq, Repr

namespace Monitor

def start (link : Link) (schedule : RefreshSchedule) : Monitor := ⟨link, schedule, [], 0⟩

/-- Whoever stops the monitor goes by the records, and the monitor itself by its count. -/
def isDone (settings : MonitorSettings) (monitor : Monitor) : Bool :=
  settings.stopAfter.any (· ≤ monitor.records.length) ||
    settings.count.any (· ≤ monitor.printed)

inductive Verdict where
  | keep (telemetry : Telemetry)
  | pass
  | fail (error : LinkError)
deriving DecidableEq, Repr

def judge (strict : Bool) : Except LinkError Telemetry → Verdict
  | .ok telemetry => .keep telemetry
  | .error error =>
      if error.isTimeout || error.recoverable && !strict then .pass else .fail error

def listen (settings : MonitorSettings) (monitor : Monitor) :
    Option MonitorEnding × Monitor :=
  let (outcome, link) := monitor.link.receive
  let monitor := { monitor with link }
  match judge settings.strict outcome with
  | .keep telemetry =>
      (none, { monitor with
        records := monitor.records ++ [telemetry]
        printed := monitor.printed + 1 })
  | .pass => (none, monitor)
  | .fail error => (some (.failed (.ofLinkError "receive failed" error)), monitor)

def turn (settings : MonitorSettings) (now : Instant) (monitor : Monitor) :
    Option MonitorEnding × Monitor :=
  if monitor.isDone settings then (some (.finished monitor.printed), monitor)
  else match monitor.schedule.check now with
    | none => (some .clockOverflow, monitor)
    | some (false, schedule) => listen settings { monitor with schedule }
    | some (true, schedule) =>
        match monitor.link.requestRefresh with
        | (.ok (), link) => listen settings { monitor with schedule, link }
        | (.error error, link) =>
            (some (.failed (.ofLinkError "refresh failed" error)),
              { monitor with schedule, link })

def turns (settings : MonitorSettings) (clock : Nat → Instant) :
    (fuel index : Nat) → Monitor → MonitorEnding × Monitor
  | 0, _, monitor => (.waiting, monitor)
  | fuel + 1, index, monitor =>
      match monitor.turn settings (clock index) with
      | (some ending, monitor) => (ending, monitor)
      | (none, monitor) => turns settings clock fuel (index + 1) monitor

/-- A turn that is not the last uses up some of this. -/
def weight (monitor : Monitor) : Nat := monitor.link.inlet.weight

def run (settings : MonitorSettings) (clock : Nat → Instant) (monitor : Monitor) :
    MonitorEnding × Monitor :=
  turns settings clock (monitor.weight + 1) 0 monitor

end Monitor

end PanelLink
