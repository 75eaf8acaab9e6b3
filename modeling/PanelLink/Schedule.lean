import PanelLink.Clock

/-!
When to ask the panel for telemetry: at once if that is wanted or an interval is set, and
then, with an interval, that long after each time it was asked.
-/

namespace PanelLink

structure RefreshSchedule where
  interval : Option Duration
  /-- From when on the next refresh is due, if there is to be one. -/
  next : Option Instant
deriving DecidableEq, Repr

namespace RefreshSchedule

def start (initial : Bool) (interval : Option Duration) (now : Instant) :
    RefreshSchedule :=
  ⟨interval, if initial || interval.isSome then some now else none⟩

def never : RefreshSchedule := ⟨none, none⟩

/-- Whether a refresh is due, and the schedule from then on. There is no answer when the
clock cannot show the time of the refresh after that. -/
def check (now : Instant) (schedule : RefreshSchedule) :
    Option (Bool × RefreshSchedule) :=
  match schedule.next with
  | none => some (false, schedule)
  | some due =>
      if due ≤ now then
        match schedule.interval with
        | none => some (true, { schedule with next := none })
        | some interval =>
            (now.after? interval).map fun next =>
              (true, { schedule with next := some next })
      else some (false, schedule)

def checks : List Instant → RefreshSchedule → Option (List Bool)
  | [], _ => some []
  | now :: later, schedule => do
      let (due, schedule) ← schedule.check now
      return due :: (← checks later schedule)

end RefreshSchedule

end PanelLink
