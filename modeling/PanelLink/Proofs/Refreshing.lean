import PanelLink.Proofs.Accepting
import PanelLink.Proofs.Monitoring
import PanelLink.Proofs.Scheduling

/-!
Asking for telemetry does not disturb a monitor. A monitor with a refresh schedule and one
that never asks receive the same, turn by turn, since what goes out has no influence on
what comes in. On a sink that takes everything, what goes out is one frame for each turn
that is due.
-/

namespace PanelLink

/-! ## Asking -/

structure Outlet.TakesRefresh (outlet : Outlet) : Prop where
  accepting : outlet.sink.Accepting
  roomy : 3 ≤ outlet.limit

theorem Link.requestRefresh_of_takesRefresh {link : Link}
    (takes : link.outlet.TakesRefresh) :
    ∃ outlet, link.requestRefresh = (.ok (), { link with outlet }) ∧ outlet.TakesRefresh ∧
      outlet.sink.accepted = link.written ++ Frame.encode [0x20] := by
  have fits :
      Frame.fits link.outlet.limit (Frame.encode [Command.refresh.toByte]).length =
        true :=
    decide_eq_true takes.roomy
  rcases link.send_singleton takes.accepting fits with ⟨sink, sent, accepted, accepting⟩
  refine ⟨{ link.outlet with sink }, ?_, ⟨accepting, takes.roomy⟩, accepted⟩
  rw [requestRefresh, sent]
  rfl

/-! ## Schedules -/

namespace RefreshSchedule

theorem count_checks_once {now : Instant} {clock : Nat → Instant} {index count : Nat}
    {dues : List Bool} (since : now ≤ clock index)
    (checked : (start true none now).checks ((List.range' index count).map clock) =
      some dues) :
    dues.count true = if count = 0 then 0 else 1 := by
  cases count with
  | zero =>
      cases checked
      rfl
  | succ count =>
      have due : (start true none now).check (clock index) = some (true, never) := by
        simp [start, check, since, never]
      rcases checks_cons_eq_some checked with ⟨_, _, rest, first, others, rfl⟩
      rw [due] at first
      cases first
      rw [checks_of_next_eq_none rfl] at others
      cases others
      simp [List.count_replicate]

theorem check_of_zero {now due : Instant} {answer : Bool × RefreshSchedule}
    (reached : due ≤ now) (checked : check now ⟨some ⟨0⟩, some due⟩ = some answer) :
    answer = (true, ⟨some ⟨0⟩, some now⟩) := by
  rcases answer with ⟨fired, later⟩
  rcases check_cases checked with ⟨sameInterval, ⟨_, _, unreached⟩ | ⟨rfl, _, moved⟩⟩
  · exact absurd reached (unreached due rfl)
  · rcases later with ⟨interval, next⟩
    cases sameInterval
    have same : next = some now := by simpa using moved
    rw [same]

theorem count_checks_of_zero {clock : Nat → Instant}
    (ordered : ∀ index, clock index ≤ clock (index + 1)) {count index : Nat}
    {due : Instant} {dues : List Bool} (reached : due ≤ clock index)
    (checked : checks ((List.range' index count).map clock) ⟨some ⟨0⟩, some due⟩ =
      some dues) :
    dues.count true = count := by
  induction count generalizing index due dues with
  | zero =>
      cases checked
      rfl
  | succ count induction =>
      rcases checks_cons_eq_some checked with ⟨_, _, rest, now, others, rfl⟩
      cases check_of_zero reached now
      rw [List.count_cons_self, induction (ordered index) others]

end RefreshSchedule

namespace Monitor

/-! ## Receiving -/

/-- Two monitors that differ at most in when and where they send. -/
structure Agrees (monitor other : Monitor) : Prop where
  inlet : monitor.link.inlet = other.link.inlet
  records : monitor.records = other.records
  printed : monitor.printed = other.printed

theorem Agrees.trans {first second third : Monitor} (left : Agrees first second)
    (right : Agrees second third) : Agrees first third :=
  ⟨left.inlet.trans right.inlet, left.records.trans right.records,
    left.printed.trans right.printed⟩

theorem Agrees.isDone {monitor other : Monitor} (agrees : Agrees monitor other)
    (settings : MonitorSettings) : monitor.isDone settings = other.isDone settings := by
  simp only [Monitor.isDone, agrees.records, agrees.printed]

theorem Agrees.received {monitor other : Monitor} (agrees : Agrees monitor other) :
    monitor.link.receive.1 = other.link.receive.1 := by
  simp only [Link.receive, Link.receiveFrame, agrees.inlet]

theorem Agrees.listen {monitor other : Monitor} (agrees : Agrees monitor other)
    (settings : MonitorSettings) :
    ∃ ending next otherNext, monitor.listen settings = (ending, next) ∧
      other.listen settings = (ending, otherNext) ∧ Agrees next otherNext ∧
      next.link.outlet = monitor.link.outlet ∧ next.schedule = monitor.schedule ∧
      otherNext.schedule = other.schedule := by
  have inlet : monitor.link.receive.2.inlet = other.link.receive.2.inlet := by
    rw [Link.inlet_receive, Link.inlet_receive, agrees.inlet]
  simp only [Monitor.listen, agrees.received]
  cases judge settings.strict other.link.receive.1 with
  | keep telemetry =>
      have records := congrArg (· ++ [telemetry]) agrees.records
      have printed := congrArg (· + 1) agrees.printed
      exact ⟨_, _, _, rfl, rfl, ⟨inlet, records, printed⟩, rfl, rfl, rfl⟩
  | pass =>
      exact ⟨_, _, _, rfl, rfl, ⟨inlet, agrees.records, agrees.printed⟩, rfl, rfl, rfl⟩
  | fail error =>
      exact ⟨_, _, _, rfl, rfl, ⟨inlet, agrees.records, agrees.printed⟩, rfl, rfl, rfl⟩

/-! ## Turns that receive -/

/-- The monitor of a turn as it goes on to receive: it is not done, and a refresh that was
due has gone out. -/
def readied (settings : MonitorSettings) (now : Instant) (monitor : Monitor) :
    Option Monitor :=
  if monitor.isDone settings then none
  else match monitor.schedule.check now with
    | none => none
    | some (false, schedule) => some { monitor with schedule }
    | some (true, schedule) =>
        match monitor.link.requestRefresh with
        | (.ok (), link) => some { monitor with schedule, link }
        | (.error _, _) => none

def heardWithin (settings : MonitorSettings) (clock : Nat → Instant) :
    (fuel index : Nat) → Monitor → List (Except LinkError Telemetry)
  | 0, _, _ => []
  | fuel + 1, index, monitor =>
      match monitor.readied settings (clock index) with
      | none => []
      | some ready =>
          ready.link.receive.1 ::
            match ready.listen settings with
            | (some _, _) => []
            | (none, next) => heardWithin settings clock fuel (index + 1) next

/-- The outcomes of all calls to receive that a run makes. -/
def heard (settings : MonitorSettings) (clock : Nat → Instant) (monitor : Monitor) :
    List (Except LinkError Telemetry) :=
  monitor.heardWithin settings clock (monitor.weight + 1) 0

theorem turn_of_readied {settings : MonitorSettings} {now : Instant}
    {monitor ready : Monitor} (prepared : monitor.readied settings now = some ready) :
    monitor.turn settings now = ready.listen settings := by
  rw [readied] at prepared
  rw [turn]
  split at prepared
  · cases prepared
  · rename_i undone
    rw [if_neg undone]
    split at prepared
    · cases prepared
    · cases prepared
      simp only [*]
    · split at prepared
      · cases prepared
        simp only [*]
      · cases prepared

theorem heardWithin_of_isDone {settings : MonitorSettings} {monitor : Monitor}
    (done : monitor.isDone settings = true) (clock : Nat → Instant) (fuel index : Nat) :
    monitor.heardWithin settings clock fuel index = [] := by
  cases fuel with
  | zero => rfl
  | succ fuel => simp [heardWithin, readied, done]

section Prepared

variable {settings : MonitorSettings} {clock : Nat → Instant} {index : Nat}
  {monitor ready : Monitor}
  (prepared : monitor.readied settings (clock index) = some ready)

include prepared

theorem turns_of_last {ending : MonitorEnding} {last : Monitor}
    (listened : ready.listen settings = (some ending, last)) (fuel : Nat) :
    turns settings clock (fuel + 1) index monitor = (ending, last) ∧
      monitor.heardWithin settings clock (fuel + 1) index = [ready.link.receive.1] := by
  rw [turns, turn_of_readied prepared, heardWithin, prepared]
  simp only [listened, and_self]

theorem turns_of_next {next : Monitor} (listened : ready.listen settings = (none, next))
    (fuel : Nat) :
    turns settings clock (fuel + 1) index monitor =
      turns settings clock fuel (index + 1) next ∧
      monitor.heardWithin settings clock (fuel + 1) index =
        ready.link.receive.1 :: next.heardWithin settings clock fuel (index + 1) := by
  rw [turns, turn_of_readied prepared, heardWithin, prepared]
  simp only [listened, and_self]

end Prepared

def asking (due : Bool) : Bytes := if due then Frame.encode [0x20] else []

theorem readied_of_check {settings : MonitorSettings} {now : Instant} {monitor : Monitor}
    {due : Bool} {schedule : RefreshSchedule} (undone : monitor.isDone settings = false)
    (checked : monitor.schedule.check now = some (due, schedule))
    (takes : monitor.link.outlet.TakesRefresh) :
    ∃ ready, monitor.readied settings now = some ready ∧ Agrees ready monitor ∧
      ready.schedule = schedule ∧ ready.link.outlet.TakesRefresh ∧
      ready.link.written = monitor.link.written ++ asking due := by
  cases due with
  | false =>
      refine ⟨{ monitor with schedule }, ?_, ⟨rfl, rfl, rfl⟩, rfl, takes,
        (List.append_nil _).symm⟩
      simp [readied, undone, checked]
  | true =>
      rcases Link.requestRefresh_of_takesRefresh takes with
        ⟨outlet, asked, stillTakes, accepted⟩
      refine ⟨{ monitor with schedule, link := { monitor.link with outlet } }, ?_,
        ⟨rfl, rfl, rfl⟩, rfl, stillTakes, accepted⟩
      simp [readied, undone, checked, asked]

theorem readied_of_next_eq_none {settings : MonitorSettings} {monitor : Monitor}
    (now : Instant) (undone : monitor.isDone settings = false)
    (quiet : monitor.schedule.next = none) :
    monitor.readied settings now = some monitor := by
  simp [readied, undone, RefreshSchedule.check, quiet]

/-! ## Runs -/

structure Undisturbed (settings : MonitorSettings) (clock : Nat → Instant)
    (fuel index : Nat) (dues : List Bool) (monitor other : Monitor) : Prop where
  ending : (turns settings clock fuel index monitor).1 =
    (turns settings clock fuel index other).1
  records : (turns settings clock fuel index monitor).2.records =
    (turns settings clock fuel index other).2.records
  heard : monitor.heardWithin settings clock fuel index =
    other.heardWithin settings clock fuel index
  written : (turns settings clock fuel index monitor).2.link.written =
    monitor.link.written ++ dues.flatMap asking

theorem undisturbed_of_isDone {settings : MonitorSettings} {clock : Nat → Instant}
    {index : Nat} {monitor other : Monitor} (agrees : Agrees monitor other)
    (done : other.isDone settings = true) (fuel : Nat) :
    Undisturbed settings clock (fuel + 1) index [] monitor other := by
  have bothDone := (agrees.isDone settings).trans done
  constructor
  · simp [turns, turn, done, bothDone, agrees.printed]
  · simp [turns, turn, done, bothDone, agrees.records]
  · rw [heardWithin_of_isDone bothDone, heardWithin_of_isDone done]
  · simp [turns, turn, bothDone]

section Receiving

variable {settings : MonitorSettings} {clock : Nat → Instant} {index : Nat} {due : Bool}
  {monitor other ready otherReady next otherNext : Monitor}
  (prepared : monitor.readied settings (clock index) = some ready)
  (otherPrepared : other.readied settings (clock index) = some otherReady)
  (received : ready.link.receive.1 = otherReady.link.receive.1)
  (written : next.link.written = monitor.link.written ++ asking due)

include prepared otherPrepared received written

theorem undisturbed_of_last {ending : MonitorEnding}
    (listened : ready.listen settings = (some ending, next))
    (otherListened : otherReady.listen settings = (some ending, otherNext))
    (agrees : Agrees next otherNext) (fuel : Nat) :
    Undisturbed settings clock (fuel + 1) index [due] monitor other := by
  rcases turns_of_last prepared listened fuel with ⟨turned, heard⟩
  rcases turns_of_last otherPrepared otherListened fuel with ⟨otherTurned, otherHeard⟩
  constructor
  · rw [turned, otherTurned]
  · rw [turned, otherTurned]
    exact agrees.records
  · rw [heard, otherHeard, received]
  · rw [turned, written, List.flatMap_singleton]

theorem undisturbed_of_next {fuel : Nat} {dues : List Bool}
    (listened : ready.listen settings = (none, next))
    (otherListened : otherReady.listen settings = (none, otherNext))
    (rest : Undisturbed settings clock fuel (index + 1) dues next otherNext) :
    Undisturbed settings clock (fuel + 1) index (due :: dues) monitor other := by
  rcases turns_of_next prepared listened fuel with ⟨turned, heard⟩
  rcases turns_of_next otherPrepared otherListened fuel with ⟨otherTurned, otherHeard⟩
  constructor
  · rw [turned, otherTurned, rest.ending]
  · rw [turned, otherTurned, rest.records]
  · rw [heard, otherHeard, received, rest.heard]
  · rw [turned, rest.written, written, List.flatMap_cons, List.append_assoc]

end Receiving

/-- The clock is read once in each turn that receives. If no reading takes the schedule
beyond the clock, asking leaves the turns as they are. -/
theorem turns_undisturbed {settings : MonitorSettings} {clock : Nat → Instant}
    {fuel index : Nat} {monitor quiet : Monitor} {dues : List Bool}
    (agrees : Agrees monitor quiet)
    (silent : quiet.schedule.next = none) (takes : monitor.link.outlet.TakesRefresh)
    (checked : monitor.schedule.checks
      ((List.range' index
        (quiet.heardWithin settings clock fuel index).length).map clock) = some dues) :
    Undisturbed settings clock fuel index dues monitor quiet := by
  -- Turn by turn the two stay in agreement, while the schedule and the outlet of the
  -- first go their own way.
  induction fuel generalizing index monitor quiet dues with
  | zero =>
      cases checked
      exact ⟨rfl, agrees.records, rfl, (List.append_nil _).symm⟩
  | succ fuel induction =>
      cases done : quiet.isDone settings with
      | true =>
          rw [heardWithin_of_isDone done] at checked
          cases checked
          exact undisturbed_of_isDone agrees done fuel
      | false =>
          have quietPrepared := readied_of_next_eq_none (clock index) done silent
          rw [heardWithin, quietPrepared] at checked
          rcases RefreshSchedule.checks_cons_eq_some checked with
            ⟨due, schedule, rest, now, later, rfl⟩
          rcases readied_of_check ((agrees.isDone settings).trans done) now takes with
            ⟨ready, prepared, unchanged, readySchedule, stillTakes, written⟩
          have readyAgrees := unchanged.trans agrees
          rcases readyAgrees.listen settings with
            ⟨ending, next, quietNext, listened, quietListened, nextAgrees, sameOutlet,
              sameSchedule, quietSchedule⟩
          have nextWritten : next.link.written = monitor.link.written ++ asking due := by
            rw [Link.written, sameOutlet]
            exact written
          rw [quietListened] at later
          cases ending with
          | some ending =>
              cases later
              exact undisturbed_of_last prepared quietPrepared readyAgrees.received
                nextWritten listened quietListened nextAgrees fuel
          | none =>
              rw [← readySchedule, ← sameSchedule] at later
              rw [← quietSchedule] at silent
              rw [← sameOutlet] at stillTakes
              exact undisturbed_of_next prepared quietPrepared readyAgrees.received
                nextWritten listened quietListened
                (induction nextAgrees silent stillTakes later)

theorem heardWithin_eq_receptions {settings : MonitorSettings} {clock : Nat → Instant}
    {fuel index : Nat} {quiet : Monitor} (silent : quiet.schedule.next = none) :
    quiet.heardWithin settings clock fuel index =
      quiet.link.receptions (quiet.heardWithin settings clock fuel index).length := by
  induction fuel generalizing index quiet with
  | zero => rfl
  | succ fuel induction =>
      cases done : quiet.isDone settings with
      | true =>
          rw [heardWithin_of_isDone done]
          rfl
      | false =>
          have quietReadied := readied_of_next_eq_none (clock index) done silent
          cases fatal : isFatal settings.strict quiet.link.receive.1 with
          | false =>
              rw [(turns_of_next quietReadied (listen_of_passable fatal) fuel).2,
                List.length_cons, Link.receptions]
              exact congrArg _ (induction silent)
          | true =>
              cases received : quiet.link.receive.1 with
              | ok telemetry => simp [received, isFatal] at fatal
              | error error =>
                  rw [received] at fatal
                  rw [(turns_of_last quietReadied
                    (listen_of_fatal received fatal) fuel).2]
                  rfl

theorem flatMap_asking (dues : List Bool) :
    dues.flatMap asking =
      (List.replicate (dues.count true) (Frame.encode [0x20])).flatten := by
  induction dues with
  | nil => rfl
  | cons due dues induction =>
      cases due with
      | false => simpa [asking] using induction
      | true => simp [asking, induction, List.replicate_succ]

end Monitor

end PanelLink
