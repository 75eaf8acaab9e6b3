import PanelLink.Monitor
import PanelLink.Proofs.Draining

/-!
A monitor that never asks for telemetry keeps what the line brings by itself. It passes
over timeouts, and over bad frames unless it is strict, until it has kept enough or meets
something it cannot pass over. One of the two always comes to it, since a line that has
run out is closed.
-/

namespace PanelLink

/-! ## Receiving again and again -/

namespace Link

def receptions (link : Link) : (count : Nat) → List (Except LinkError Telemetry)
  | 0 => []
  | count + 1 => link.receive.1 :: link.receive.2.receptions count

theorem inlet_receive (link : Link) : link.receive.2.inlet = link.inlet.receive.2 := rfl

theorem receive_of_forecast_eq_nil {link : Link} (nothing : link.inlet.forecast = [])
    (closing : link.inlet.source.afterwards = .closed) :
    link.receive.1 = .error (.frame .closed) := by
  have received : link.inlet.receive.1 = .error .closed := by
    rw [link.inlet.receive_forecast.1, nothing, closing]
    rfl
  simp [receive, receiveFrame, received, Except.mapError, Except.bind]

end Link

namespace Monitor

def isFatal (strict : Bool) : Except LinkError Telemetry → Bool
  | .ok _ => false
  | .error error => !error.isTimeout && (!error.recoverable || strict)

theorem judge_error (strict : Bool) (error : LinkError) :
    judge strict (.error error) =
      if isFatal strict (.error error) then .fail error else .pass := by
  rw [judge, isFatal]
  cases error.isTimeout <;> cases error.recoverable <;> cases strict <;> rfl

/-- A closed line brings about something fatal, and before it no more than the line has to
offer. -/
theorem exists_isFatal (strict : Bool) (link : Link)
    (closing : link.inlet.source.afterwards = .closed) :
    ∃ before error, link.receptions (before.length + 1) = before ++ [.error error] ∧
      (∀ outcome ∈ before, isFatal strict outcome = false) ∧
      isFatal strict (.error error) = true ∧ before.length ≤ link.inlet.weight := by
  by_cases fatal : isFatal strict link.receive.1 = true
  · cases received : link.receive.1 with
    | ok telemetry =>
        rw [received] at fatal
        cases fatal
    | error error =>
        rw [received] at fatal
        refine ⟨[], error, ?_, ?_, fatal, Nat.zero_le _⟩
        · simp [Link.receptions, received]
        · intro outcome member
          cases member
  · have coming : link.inlet.forecast ≠ [] := by
      intro nothing
      rw [Link.receive_of_forecast_eq_nil nothing closing] at fatal
      exact fatal rfl
    have lighter := link.inlet.weight_receive_lt coming
    have closingNext : link.receive.2.inlet.source.afterwards = .closed :=
      link.inlet.receive_forecast.2.2.trans closing
    rcases exists_isFatal strict link.receive.2 closingNext with
      ⟨before, error, received, passed, last, bounded⟩
    refine ⟨link.receive.1 :: before, error, ?_, ?_, last, ?_⟩
    · rw [List.length_cons, Link.receptions, received, List.cons_append]
    · intro outcome member
      rcases List.mem_cons.mp member with here | later
      · rw [here]
        exact Bool.eq_false_iff.mpr fatal
      · exact passed outcome later
    · rw [Link.inlet_receive] at bounded
      rw [List.length_cons]
      omega
termination_by link.inlet.weight
decreasing_by exact lighter

end Monitor

/-! ## Enough records -/

namespace MonitorSettings

/-- After how many records the monitor stops, by itself or from outside. -/
def cut (settings : MonitorSettings) : Option Nat :=
  settings.count.merge min settings.stopAfter

def keep (settings : MonitorSettings) (records : List Telemetry) : List Telemetry :=
  settings.cut.elim records records.take

end MonitorSettings

namespace Monitor

structure Within (settings : MonitorSettings) (monitor : Monitor) : Prop where
  printed_eq : monitor.printed = monitor.records.length
  atMost : ∀ enough ∈ settings.cut, monitor.records.length ≤ enough

theorem isDone_eq {settings : MonitorSettings} {monitor : Monitor}
    (within : monitor.Within settings) :
    monitor.isDone settings = settings.cut.any (· ≤ monitor.records.length) := by
  rcases settings with ⟨count, strict, stopAfter⟩
  rw [isDone, within.printed_eq, Bool.eq_iff_iff]
  cases count <;> cases stopAfter <;> simp [MonitorSettings.cut]
  omega

/-! ## Turns -/

theorem turn_of_next_eq_none {settings : MonitorSettings} {monitor : Monitor}
    (now : Instant) (quiet : monitor.schedule.next = none) :
    monitor.turn settings now =
      if monitor.isDone settings then (some (.finished monitor.printed), monitor)
      else monitor.listen settings := by
  rw [turn, RefreshSchedule.check, quiet]

def advance (monitor : Monitor) : Monitor := { monitor with
  link := monitor.link.receive.2
  records := monitor.records ++ monitor.link.receive.1.toOption.toList
  printed := monitor.printed + monitor.link.receive.1.toOption.toList.length }

theorem listen_of_passable {settings : MonitorSettings} {monitor : Monitor}
    (passable : isFatal settings.strict monitor.link.receive.1 = false) :
    monitor.listen settings = (none, monitor.advance) := by
  cases received : monitor.link.receive.1 with
  | ok telemetry => simp [listen, advance, received, judge, Except.toOption]
  | error error =>
      rw [received] at passable
      simp [listen, advance, received, judge_error, passable, Except.toOption]

theorem listen_of_fatal {settings : MonitorSettings} {monitor : Monitor}
    {error : LinkError} (received : monitor.link.receive.1 = .error error)
    (fatal : isFatal settings.strict (.error error) = true) :
    monitor.listen settings =
      (some (.failed (.ofLinkError "receive failed" error)),
        { monitor with link := monitor.link.receive.2 }) := by
  simp [listen, received, judge_error, fatal]

/-- The end of a monitor that could keep `records` before it meets `error`. -/
structure EndsAt (settings : MonitorSettings) (records : List Telemetry)
    (error : LinkError) (result : MonitorEnding × Monitor) : Prop where
  kept : result.2.records = settings.keep records
  ending : result.1 =
    if settings.cut.any (· ≤ records.length) then .finished (settings.keep records).length
    else .failed (.ofLinkError "receive failed" error)

theorem endsAt_finished {settings : MonitorSettings} {monitor : Monitor}
    (more : List Telemetry) (error : LinkError) (within : monitor.Within settings)
    (done : monitor.isDone settings = true) :
    EndsAt settings (monitor.records ++ more) error
      (.finished monitor.printed, monitor) := by
  rw [isDone_eq within] at done
  cases cutting : settings.cut with
  | none => simp [cutting] at done
  | some enough =>
      have reached : enough ≤ monitor.records.length := by simpa [cutting] using done
      have exactly : monitor.records.length = enough :=
        Nat.le_antisymm (within.atMost enough cutting) reached
      have kept : monitor.records = settings.keep (monitor.records ++ more) := by
        simp [MonitorSettings.keep, cutting, ← exactly]
      refine ⟨kept, ?_⟩
      rw [← kept, within.printed_eq]
      simp [cutting, ← exactly]

theorem endsAt_failed {settings : MonitorSettings} {monitor later : Monitor}
    (error : LinkError) (within : monitor.Within settings)
    (same : later.records = monitor.records) (undone : monitor.isDone settings = false) :
    EndsAt settings monitor.records error
      (.failed (.ofLinkError "receive failed" error), later) := by
  rw [isDone_eq within] at undone
  constructor
  · rw [same]
    cases cutting : settings.cut with
    | none => simp [MonitorSettings.keep, cutting]
    | some enough =>
        have short : monitor.records.length < enough := by simpa [cutting] using undone
        rw [MonitorSettings.keep, cutting, Option.elim_some,
          List.take_of_length_le (Nat.le_of_lt short)]
  · simp [undone]

theorem within_start (settings : MonitorSettings) (link : Link)
    (schedule : RefreshSchedule) : (start link schedule).Within settings :=
  ⟨rfl, fun enough _ => Nat.zero_le enough⟩

theorem within_advance {settings : MonitorSettings} {monitor : Monitor}
    (within : monitor.Within settings) (undone : monitor.isDone settings = false) :
    monitor.advance.Within settings := by
  constructor
  · rw [advance, List.length_append, within.printed_eq]
  · intro enough cutting
    rw [isDone_eq within, Option.mem_def.mp cutting] at undone
    have short : monitor.records.length < enough := by simpa using undone
    have atMostOne := Option.length_toList_le (o := monitor.link.receive.1.toOption)
    rw [advance, List.length_append]
    omega

theorem turns_endsAt {settings : MonitorSettings} {clock : Nat → Instant}
    {before : List (Except LinkError Telemetry)} {error : LinkError}
    (fatal : isFatal settings.strict (.error error) = true)
    (passed : ∀ outcome ∈ before, isFatal settings.strict outcome = false)
    {monitor : Monitor} (quiet : monitor.schedule.next = none)
    (within : monitor.Within settings)
    (received : monitor.link.receptions (before.length + 1) = before ++ [.error error])
    {fuel : Nat} (enough : before.length < fuel) (index : Nat) :
    EndsAt settings (monitor.records ++ before.filterMap Except.toOption) error
      (turns settings clock fuel index monitor) := by
  induction fuel generalizing monitor before index with
  | zero => cases enough
  | succ fuel induction =>
      rw [turns, turn_of_next_eq_none _ quiet]
      cases finished : monitor.isDone settings with
      | true => exact endsAt_finished _ error within finished
      | false =>
          rw [if_neg Bool.false_ne_true]
          cases before with
          | nil =>
              have now : monitor.link.receive.1 = .error error :=
                List.head_eq_of_cons_eq received
              rw [listen_of_fatal now fatal, List.filterMap_nil, List.append_nil]
              exact endsAt_failed error within rfl finished
          | cons outcome rest =>
              rcases List.cons.inj received with ⟨now, later⟩
              have passable := passed outcome List.mem_cons_self
              have passedRest :
                  ∀ other ∈ rest, isFatal settings.strict other = false := by
                intro other member
                exact passed other (List.mem_cons_of_mem outcome member)
              have quietNext : monitor.advance.schedule.next = none := quiet
              have receivedNext : monitor.advance.link.receptions (rest.length + 1) =
                  rest ++ [.error error] := later
              have joined :
                  monitor.records ++ (outcome :: rest).filterMap Except.toOption =
                    monitor.advance.records ++ rest.filterMap Except.toOption := by
                rw [advance, now, List.append_assoc]
                cases outcome <;> rfl
              rw [← now] at passable
              rw [listen_of_passable passable, joined]
              exact induction passedRest quietNext (within_advance within finished)
                receivedNext (Nat.lt_of_succ_lt_succ enough) (index + 1)

/-! ## Whole runs -/

theorem code_of_recoverable {error : LinkError} (context : String)
    (recoverable : error.recoverable = true) :
    (Complaint.ofLinkError context error).status.code = 60 := by
  cases error with
  | frame cause =>
      cases cause with
      | transfer failure => cases recoverable
      | closed => cases recoverable
      | _ => rfl
  | shortTelemetry length minimum => rfl
  | _ => cases recoverable

/-- Without refreshes, a monitor keeps the telemetry received before the first fatal
outcome, up to as many records as it is to keep. It finishes if there are that many, at
once if none are wanted, and fails with that outcome otherwise. -/
theorem run_without_refresh (limit : Nat) (script : List Reading) (sink : Sink)
    (settings : MonitorSettings) (clock : Nat → Instant) (now : Instant) :
    let link := Link.start limit { script } sink
    let monitor := start link (.start false none now)
    let result := monitor.run settings clock
    ∃ before error,
      link.receptions (before.length + 1) = before ++ [.error error] ∧
      (∀ outcome ∈ before, isFatal settings.strict outcome = false) ∧
      isFatal settings.strict (.error error) = true ∧
      EndsAt settings (before.filterMap Except.toOption) error result ∧
      (error.recoverable = true →
        (Complaint.ofLinkError "receive failed" error).status.code = 60) ∧
      (settings.cut = some 0 → result = (.finished 0, monitor)) := by
  intro link monitor result
  rcases exists_isFatal settings.strict link rfl with
    ⟨before, error, received, passed, fatal, bounded⟩
  have within : monitor.Within settings := within_start settings link _
  refine ⟨before, error, received, passed, fatal, ?_, code_of_recoverable _, ?_⟩
  · exact turns_endsAt fatal passed rfl within received (Nat.lt_succ_of_le bounded) 0
  · intro nothing
    have done : monitor.isDone settings = true := by
      rw [isDone_eq within, nothing]
      rfl
    have quiet : monitor.schedule.next = none := rfl
    have last : monitor.turn settings (clock 0) = (some (.finished 0), monitor) := by
      rw [turn_of_next_eq_none _ quiet, if_pos done]
      rfl
    simp only [result, run, turns, last]

end Monitor

end PanelLink
