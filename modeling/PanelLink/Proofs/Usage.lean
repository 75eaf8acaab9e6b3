import PanelLink.Program
import PanelLink.Proofs.Encoding

/-!
A run ends in a complaint about its usage if and only if one of the arguments makes no
sense, and then it has done nothing else: all arguments are checked before the device is
opened. What goes wrong later comes of the line, the terminal or the input, and no such
error is put down to the user.
-/

namespace PanelLink

/-! ## Invalid arguments -/

def Request.opensDevice : Request → Bool
  | .send _ | .toggle _ | .monitor .. => true
  | .ports | .version _ => false

def Request.Invalid : Request → Prop
  | .send words => ∃ word ∈ words, (Command.ofWord word).isOk = false
  | .toggle buttons => ∃ button ∈ buttons, 31 < button
  | .monitor _ _ _ interval => ∃ word ∈ interval, (Duration.ofWord word).isOk = false
  | .ports | .version _ => False

/-- Some argument makes no sense. Where no device is opened, the time limit is of no
interest. -/
def Arguments.Invalid (arguments : Arguments) : Prop :=
  arguments.request.Invalid ∨
    arguments.request.opensDevice = true ∧
      (Duration.ofWord arguments.timeout).isOk = false

theorem Arguments.opensDevice_of_invalid {arguments : Arguments}
    (invalid : arguments.Invalid) : arguments.request.opensDevice = true := by
  rcases invalid with wrong | ⟨opens, _⟩
  · cases asked : arguments.request with
    | send | toggle | monitor => rfl
    | ports | version =>
        rw [asked] at wrong
        cases wrong
  · exact opens

/-! ## Errors of the line -/

def LinkError.ofLine : LinkError → Bool
  | port _ | frame _ | shortTelemetry _ _ => true
  | buttonOutOfRange _ | invalidCommand _ => false

namespace Complaint

theorem failureStatus_ne_usage (kind : FailureKind) : failureStatus kind ≠ .usage := by
  cases kind <;> decide

theorem status_ofFailure_ne_usage (context : String) (failure : Failure) :
    (ofFailure context failure).status ≠ .usage :=
  failureStatus_ne_usage failure.kind

theorem status_ofPortError_ne_usage (context : String) (error : PortError) :
    (ofPortError context error).status ≠ .usage := by
  have decided : portStatus error ≠ .usage := by
    unfold portStatus
    split
    · exact failureStatus_ne_usage _
    · split <;> decide
  exact decided

theorem status_ofLinkError_ne_usage (context : String) {error : LinkError}
    (line : error.ofLine = true) : (ofLinkError context error).status ≠ .usage := by
  cases error with
  | port cause => exact status_ofPortError_ne_usage context cause
  | frame cause =>
      cases cause with
      | transfer failure => exact status_ofFailure_ne_usage context failure
      | _ =>
          intro blamed
          cases blamed
  | shortTelemetry length minimum =>
      intro blamed
      cases blamed
  | _ => cases line

end Complaint

namespace Link

theorem ofLine_of_send {commands : List Command} {link : Link} {error : LinkError}
    (failed : (link.send commands).1 = .error error) : error.ofLine = true := by
  have mapped :
      (sendFrames (Command.frames commands) link.outlet).1.mapError LinkError.frame =
        .error error := eq_error_of_map_eq_error failed
  rcases exists_of_mapError_eq_error mapped with ⟨cause, _, rfl⟩
  rfl

theorem ofLine_of_requestRefresh {link : Link} {error : LinkError}
    (failed : link.requestRefresh.1 = .error error) : error.ofLine = true :=
  ofLine_of_send (eq_error_of_map_eq_error failed)

theorem toggle_error_cases {button : UInt8} {link : Link} {error : LinkError}
    (failed : (link.toggle button).1 = .error error) :
    error = .buttonOutOfRange button ∨ error.ofLine = true := by
  rcases Command.checked_cases .toggle button with ⟨_, checked⟩ | ⟨_, checked⟩
  · right
    rw [toggle, checked] at failed
    exact ofLine_of_send (eq_error_of_map_eq_error failed)
  · left
    rw [toggle, checked] at failed
    cases failed
    rfl

theorem ofLine_of_receive {link : Link} {error : LinkError}
    (failed : link.receive.1 = .error error) : error.ofLine = true := by
  have opened : (link.inlet.receive.1.mapError LinkError.frame).bind
      (fun frame => Telemetry.ofContent frame.content) = .error error := failed
  cases received : link.inlet.receive.1 with
  | error cause =>
      rw [received] at opened
      cases opened
      rfl
  | ok frame =>
      have decoded : Telemetry.ofContent frame.content = .error error := by
        rw [received] at opened
        exact opened
      unfold Telemetry.ofContent at decoded
      split at decoded
      · cases decoded
      · cases decoded
        rfl

theorem ofLine_of_openPort {settings : PortSettings} {limit : Nat}
    {readTimeout : Option Duration} {attachment : Attachment} {error : LinkError}
    (failed : openPort settings limit readTimeout attachment = .error error) :
    error.ofLine = true := by
  cases attachment with
  | missing fault =>
      cases failed
      rfl
  | present port arrivals =>
      rcases bind_eq_error_cases failed with clearing | ⟨cleared, _, failed⟩
      · rcases exists_of_mapError_eq_error clearing with ⟨cause, _, rfl⟩
        rfl
      · rcases bind_eq_error_cases failed with duplicating | ⟨reading, _, failed⟩
        · rcases exists_of_mapError_eq_error duplicating with ⟨cause, _, rfl⟩
          rfl
        · rcases bind_eq_error_cases failed with attaching | ⟨attached, _, failed⟩
          · rcases exists_of_mapError_eq_error attaching with ⟨cause, _, rfl⟩
            rfl
          · cases failed

end Link

/-! ## The console -/

namespace Console

def Blameless {α : Type} (result : Except Complaint α) : Prop :=
  ∀ complaint, result = .error complaint → complaint.status ≠ .usage

theorem blameless_ok {α : Type} (value : α) : Blameless (.ok value) := by
  intro complaint failed
  cases failed

theorem Blameless.map {α β : Type} {result : Except Complaint α}
    (blameless : Blameless result) (transform : α → β) :
    Blameless (result.map transform) := by
  intro complaint failed
  exact blameless complaint (eq_error_of_map_eq_error failed)

theorem blameless_ofFailure {α : Type} (context : String) (cause : Failure) :
    Blameless (.error (.ofFailure context cause) : Except Complaint α) := by
  intro complaint failed
  cases failed
  exact Complaint.status_ofFailure_ne_usage context cause

theorem blameless_say (context : String) (pieces : List String) (console : Console) :
    Blameless (console.say context pieces).1 := by
  induction pieces generalizing console with
  | nil => exact blameless_ok ()
  | cons piece rest induction =>
      rw [say]
      split
      · exact induction _
      · exact blameless_ofFailure context _

theorem blameless_remark (pieces : List String) (console : Console) :
    Blameless (console.remark pieces).1 :=
  blameless_say "write failed" (pieces ++ ["\n"]) console

theorem blameless_ask (console : Console) : Blameless console.ask.1 := by
  unfold ask
  split
  · rename_i complaint later said
    have blameless := blameless_say "prompt failed" [prompt] console
    rwa [said] at blameless
  · rename_i later said
    dsimp only
    cases later.terminal.flush.1 with
    | ok => exact blameless_ok ()
    | error cause => exact blameless_ofFailure "prompt failed" cause

/-- A button that does not exist is remarked on, so that only the line can fail. -/
theorem blameless_press (button : UInt8) (console : Console) :
    Blameless (console.press button).1 := by
  unfold press
  split
  · exact blameless_ok ()
  · exact blameless_remark _ _
  · rename_i error later other toggled
    intro complaint failed
    cases failed
    rcases Link.toggle_error_cases (congrArg Prod.fst toggled) with outOfRange | line
    · exact absurd outOfRange (other button)
    · exact Complaint.status_ofLinkError_ne_usage "toggle failed" line

theorem blameless_answer (line : Except Failure Bytes) (console : Console) :
    Blameless (console.answer line).1 := by
  unfold answer
  split
  · exact blameless_ofFailure "read failed" _
  · exact blameless_ok _
  · exact blameless_ok _
  · exact (blameless_press _ console).map _
  · exact (blameless_remark _ console).map _

theorem blameless_finish (console : Console) : Blameless console.finish.1 :=
  (blameless_remark [] console).map _

theorem blameless_run (lines : List (Except Failure Bytes)) (console : Console) :
    Blameless (console.run lines).1 := by
  induction lines generalizing console with
  | nil =>
      have asking := blameless_ask console
      rw [run]
      split
      · rename_i asked
        intro complaint failed
        cases failed
        exact asking _ (congrArg Prod.fst asked)
      · exact blameless_finish _
  | cons line rest induction =>
      have asking := blameless_ask console
      rw [run]
      split
      · rename_i asked
        intro complaint failed
        cases failed
        exact asking _ (congrArg Prod.fst asked)
      · rename_i later asked
        have answering := blameless_answer line later
        split
        · rename_i answered
          intro complaint failed
          cases failed
          exact answering _ (congrArg Prod.fst answered)
        · exact blameless_finish _
        · exact induction _

end Console

/-! ## The monitor -/

namespace Monitor

theorem eq_error_of_judge_eq_fail {strict : Bool} {outcome : Except LinkError Telemetry}
    {error : LinkError} (judged : judge strict outcome = .fail error) :
    outcome = .error error := by
  cases outcome with
  | ok telemetry => cases judged
  | error cause =>
      rw [judge] at judged
      split at judged
      · cases judged
      · cases judged
        rfl

variable {settings : MonitorSettings} {monitor later : Monitor} {complaint : Complaint}

theorem status_of_listen_failed
    (ended : monitor.listen settings = (some (.failed complaint), later)) :
    complaint.status ≠ .usage := by
  simp only [listen] at ended
  split at ended
  · cases ended
  · cases ended
  · rename_i error judged
    cases ended
    exact Complaint.status_ofLinkError_ne_usage "receive failed"
      (Link.ofLine_of_receive (eq_error_of_judge_eq_fail judged))

theorem status_of_turn_failed {now : Instant}
    (ended : monitor.turn settings now = (some (.failed complaint), later)) :
    complaint.status ≠ .usage := by
  unfold turn at ended
  split at ended
  · cases ended
  · split at ended
    · cases ended
    · exact status_of_listen_failed ended
    · split at ended
      · exact status_of_listen_failed ended
      · rename_i error link refreshed
        cases ended
        exact Complaint.status_ofLinkError_ne_usage "refresh failed"
          (Link.ofLine_of_requestRefresh (congrArg Prod.fst refreshed))

theorem status_of_turns_failed {clock : Nat → Instant} {fuel index : Nat}
    (ended : turns settings clock fuel index monitor = (.failed complaint, later)) :
    complaint.status ≠ .usage := by
  induction fuel generalizing index monitor with
  | zero => cases ended
  | succ fuel induction =>
      rw [turns] at ended
      split at ended
      · rename_i taken
        cases ended
        exact status_of_turn_failed taken
      · exact induction ended

end Monitor

/-! ## Whole runs -/

theorem ExitStatus.code_eq_usage_iff (status : ExitStatus) :
    status.code = 64 ↔ status = .usage := by
  cases status <;> decide

namespace Ending

theorem exitCode?_eq_usage_iff (ending : Ending) :
    ending.exitCode? = some 64 ↔
    ∃ complaint, ending = .failed complaint ∧ complaint.status = .usage := by
  cases ending with
  | failed complaint => simp [exitCode?, ExitStatus.code_eq_usage_iff]
  | _ => simp [exitCode?, ExitStatus.code]

theorem eq_failed_of_ofMonitor {ending : MonitorEnding} {complaint : Complaint}
    (failed : ofMonitor ending = .failed complaint) : ending = .failed complaint := by
  cases ending with
  | failed other =>
      cases failed
      rfl
  | _ => cases failed

theorem exitCode?_of_onClock {canFlush : Bool} {before later : Link} {ending : Ending}
    (usage : (ending.onClock canFlush before later).exitCode? = some 64) :
    ending.exitCode? = some 64 := by
  unfold onClock at usage
  split at usage
  · cases usage
  · exact usage

end Ending

theorem Outcome.exitCode?_of_onClock {canFlush : Bool} {link : Link} {outcome : Outcome}
    (usage : (outcome.onClock canFlush link).ending.exitCode? = some 64) :
    outcome.ending.exitCode? = some 64 := by
  unfold onClock at usage
  split at usage
  · exact Ending.exitCode?_of_onClock usage
  · exact usage

theorem Outcome.exitCode?_ofReport (host : Host) (report : List Printout)
    (device : DeviceUse) :
    (Outcome.ofReport host report device).ending.exitCode? ≠ some 64 := by
  simp only [ofReport]
  split <;> decide

namespace Program

theorem settings_of_error {arguments : Arguments} {error : DurationError}
    (read : Duration.ofWord arguments.timeout = .error error) :
    settings arguments = .error error := by
  rw [settings, read]
  rfl

theorem exitCode?_of_openLink {arguments : Arguments}
    {attachment : String → Link.Attachment} {outcome : Outcome}
    (valid : (Duration.ofWord arguments.timeout).isOk = true)
    (failed : openLink arguments attachment = .error outcome) :
    outcome.ending.exitCode? ≠ some 64 := by
  intro usage
  rw [openLink] at failed
  split at failed
  · rename_i error refused
    rw [eq_error_of_map_eq_error refused] at valid
    cases valid
  · rcases exists_of_mapError_eq_error failed with ⟨error, opening, rfl⟩
    rcases (Ending.exitCode?_eq_usage_iff _).mp usage with ⟨complaint, same, blamed⟩
    cases same
    exact Complaint.status_ofLinkError_ne_usage "open failed"
      (Link.ofLine_of_openPort opening) blamed

def Complains (run : Host → Outcome) : Prop :=
  ∃ complaint, complaint.status = .usage ∧ ∀ host, run host = .ofComplaint complaint

/-- All depends on the time limit: if it makes no sense, the run is a complaint about
that, and if it does, the run ends in no complaint about the usage. -/
structure ChecksTimeout (arguments : Arguments) (run : Host → Outcome) : Prop where
  complains : (Duration.ofWord arguments.timeout).isOk = false → Complains run
  blameless : (Duration.ofWord arguments.timeout).isOk = true →
    ∀ host, (run host).ending.exitCode? ≠ some 64

theorem withLink_checksTimeout (arguments : Arguments) {action : Host → Link → Outcome}
    (blameless : ∀ host link, (action host link).ending.exitCode? ≠ some 64) :
    ChecksTimeout arguments fun host => withLink arguments host (action host) := by
  constructor
  · intro invalid
    cases read : Duration.ofWord arguments.timeout with
    | ok timeout =>
        rw [read] at invalid
        cases invalid
    | error error =>
        refine ⟨.usage error.message, rfl, ?_⟩
        intro host
        simp only [withLink, openLink, settings_of_error read]
  · intro valid host usage
    unfold withLink at usage
    split at usage
    · rename_i outcome failed
      exact exitCode?_of_openLink valid failed usage
    · exact blameless _ _ (Outcome.exitCode?_of_onClock usage)

theorem sendCommands_checksTimeout (arguments : Arguments) (format : Host → OutputFormat)
    (commands : List Command) :
    ChecksTimeout arguments fun host =>
      sendCommands arguments host (format host) commands := by
  apply withLink_checksTimeout
  intro host link usage
  split at usage
  · rename_i error later sent
    rcases (Ending.exitCode?_eq_usage_iff _).mp usage with ⟨complaint, failed, blamed⟩
    cases failed
    exact Complaint.status_ofLinkError_ne_usage "send failed"
      (Link.ofLine_of_send (congrArg Prod.fst sent)) blamed
  · exact Outcome.exitCode?_ofReport host _ _ usage

theorem converse_checksTimeout (arguments : Arguments) :
    ChecksTimeout arguments (converse arguments) := by
  apply withLink_checksTimeout
  intro host link usage
  rcases (Ending.exitCode?_eq_usage_iff _).mp usage with ⟨complaint, failed, blamed⟩
  have blameless := Console.blameless_run host.input.lines (.start host.terminal link)
  cases ran : (Console.start host.terminal link).run host.input.lines with
  | mk result console =>
      rw [ran] at failed blameless
      cases result with
      | ok => cases failed
      | error other =>
          cases failed
          exact blameless complaint rfl blamed

/-! ### Requests

The arguments of a request are checked first. If one of them makes no sense, that is the
whole run, and else all depends on the time limit. -/

theorem send_cases (arguments : Arguments) (format : Host → OutputFormat)
    (words : List String) :
    ((Request.send words).Invalid ∧
        Complains fun host => send arguments host (format host) words) ∨
      (¬(Request.send words).Invalid ∧
        ChecksTimeout arguments fun host => send arguments host (format host) words) := by
  rcases mapM_cases Command.ofWord words with
    ⟨commands, passed, fine⟩ | ⟨word, member, error, rejected, failed⟩
  · right
    constructor
    · rintro ⟨word, member, wrong⟩
      rw [fine word member] at wrong
      cases wrong
    · simp only [send, passed]
      exact sendCommands_checksTimeout arguments format commands
  · left
    refine ⟨⟨word, member, by rw [rejected]; rfl⟩, .usage error.message, rfl, ?_⟩
    intro host
    simp only [send, failed]

theorem toggle_cases (arguments : Arguments) (format : Host → OutputFormat)
    (buttons : List UInt8) :
    ((Request.toggle buttons).Invalid ∧
        Complains fun host => toggle arguments host (format host) buttons) ∨
      (¬(Request.toggle buttons).Invalid ∧
        ChecksTimeout arguments fun host =>
          toggle arguments host (format host) buttons) := by
  cases buttons with
  | nil =>
      right
      constructor
      · rintro ⟨_, member, _⟩
        cases member
      · exact converse_checksTimeout arguments
  | cons first others =>
      have nonempty : ¬(first :: others).isEmpty = true := Bool.false_ne_true
      simp only [toggle, if_neg nonempty]
      rcases mapM_cases (Command.checked .toggle) (first :: others) with
        ⟨commands, passed, fine⟩ | ⟨button, member, error, rejected, failed⟩
      · right
        constructor
        · rintro ⟨button, member, outOfRange⟩
          have accepted := fine button member
          rcases Command.checked_cases .toggle button with ⟨inRange, _⟩ | ⟨_, refused⟩
          · exact absurd inRange (UInt8.not_le.mpr outOfRange)
          · rw [refused] at accepted
            cases accepted
        · simp only [passed]
          exact sendCommands_checksTimeout arguments format commands
      · left
        rcases Command.checked_cases .toggle button with
          ⟨_, accepted⟩ | ⟨outOfRange, refused⟩
        · rw [accepted] at rejected
          cases rejected
        · rw [refused] at rejected
          cases rejected
          refine ⟨⟨button, member, outOfRange⟩,
            .ofLinkError "invalid button" (.buttonOutOfRange button), rfl, ?_⟩
          intro host
          simp only [failed]

theorem watch_blameless (host : Host) (format : OutputFormat)
    (monitorSettings : MonitorSettings) (schedule : RefreshSchedule) (link : Link) :
    (watch host format monitorSettings schedule link).ending.exitCode? ≠ some 64 := by
  intro usage
  rcases (Ending.exitCode?_eq_usage_iff _).mp usage with ⟨complaint, failed, blamed⟩
  simp only [watch] at failed
  split at failed
  · have ended := Ending.eq_failed_of_ofMonitor failed
    exact Monitor.status_of_turns_failed (Prod.ext ended rfl) blamed
  · cases failed

theorem monitor_checksTimeout (arguments : Arguments) (format : Host → OutputFormat)
    (monitorSettings : MonitorSettings) (refresh : Bool) {interval : Option String}
    {duration : Option Duration} (read : interval.mapM Duration.ofWord = .ok duration) :
    ChecksTimeout arguments fun host =>
      monitor arguments host (format host) monitorSettings refresh interval := by
  simp only [monitor, read]
  apply withLink_checksTimeout
  intro host link usage
  split at usage
  · cases usage
  · exact watch_blameless host _ _ _ link usage

theorem monitor_cases (arguments : Arguments) (format : Host → OutputFormat)
    (monitorSettings : MonitorSettings) (refresh : Bool) (interval : Option String) :
    ((∃ word ∈ interval, (Duration.ofWord word).isOk = false) ∧
        Complains fun host =>
          monitor arguments host (format host) monitorSettings refresh interval) ∨
      ((¬∃ word ∈ interval, (Duration.ofWord word).isOk = false) ∧
        ChecksTimeout arguments fun host =>
          monitor arguments host (format host) monitorSettings refresh interval) := by
  cases interval with
  | none =>
      right
      constructor
      · rintro ⟨_, given, _⟩
        cases given
      · exact monitor_checksTimeout arguments format monitorSettings refresh rfl
  | some word =>
      have mapped : (some word).mapM Duration.ofWord = some <$> Duration.ofWord word :=
        Option.mapM_some word Duration.ofWord
      cases read : Duration.ofWord word with
      | ok duration =>
          rw [read] at mapped
          right
          constructor
          · rintro ⟨_, given, wrong⟩
            cases given
            rw [read] at wrong
            cases wrong
          · exact monitor_checksTimeout arguments format monitorSettings refresh mapped
      | error error =>
          rw [read] at mapped
          left
          refine ⟨⟨word, rfl, by rw [read]; rfl⟩, .usage error.message, rfl, ?_⟩
          intro host
          have refused : (some word).mapM Duration.ofWord = .error error := mapped
          simp only [monitor, refused]

theorem run_cases_of_opensDevice {arguments : Arguments}
    (opens : arguments.request.opensDevice = true) :
    (arguments.request.Invalid ∧ Complains (run arguments)) ∨
      (¬arguments.request.Invalid ∧ ChecksTimeout arguments (run arguments)) := by
  cases asked : arguments.request with
  | send words =>
      have whole : run arguments = fun host =>
          send arguments host (chosenFormat arguments host.interactive) words := by
        funext host
        simp only [run, asked]
      rw [whole]
      exact send_cases arguments _ words
  | toggle buttons =>
      have whole : run arguments = fun host =>
          toggle arguments host (chosenFormat arguments host.interactive) buttons := by
        funext host
        simp only [run, asked]
      rw [whole]
      exact toggle_cases arguments _ buttons
  | monitor count strict refresh interval =>
      have whole : run arguments = fun host =>
          monitor arguments host (chosenFormat arguments host.interactive)
            { count, strict } refresh interval := by
        funext host
        simp only [run, asked]
      rw [whole]
      exact monitor_cases arguments _ { count, strict } refresh interval
  | _ =>
      rw [asked] at opens
      cases opens

theorem exitCode?_of_not_opensDevice {arguments : Arguments} (host : Host)
    (closed : arguments.request.opensDevice = false) :
    (run arguments host).ending.exitCode? ≠ some 64 := by
  intro usage
  cases asked : arguments.request with
  | ports =>
      simp only [run, asked, listPorts] at usage
      split at usage
      · rcases (Ending.exitCode?_eq_usage_iff _).mp usage with ⟨complaint, failed, blamed⟩
        cases failed
        exact Complaint.status_ofPortError_ne_usage "port enumeration failed" _ blamed
      · exact Outcome.exitCode?_ofReport host _ _ usage
  | version extended =>
      simp only [run, asked] at usage
      exact Outcome.exitCode?_ofReport host _ _ usage
  | _ =>
      rw [asked] at closed
      cases closed

theorem run_cases (arguments : Arguments) :
    (arguments.Invalid ∧ Complains (run arguments)) ∨
      (¬arguments.Invalid ∧ ∀ host, (run arguments host).ending.exitCode? ≠ some 64) := by
  cases opens : arguments.request.opensDevice with
  | false =>
      right
      refine ⟨?_, fun host => exitCode?_of_not_opensDevice host opens⟩
      intro invalid
      rw [Arguments.opensDevice_of_invalid invalid] at opens
      cases opens
  | true =>
      rcases run_cases_of_opensDevice opens with ⟨invalid, complains⟩ | ⟨valid, checks⟩
      · exact .inl ⟨.inl invalid, complains⟩
      · cases timed : (Duration.ofWord arguments.timeout).isOk with
        | false => exact .inl ⟨.inr ⟨opens, timed⟩, checks.complains timed⟩
        | true =>
            right
            refine ⟨?_, checks.blameless timed⟩
            rintro (wrong | ⟨_, untimed⟩)
            · exact valid wrong
            · rw [timed] at untimed
              cases untimed

theorem run_of_invalid {arguments : Arguments} (invalid : arguments.Invalid)
    (host : Host) :
    ∃ complaint, complaint.status = .usage ∧
    run arguments host = .ofComplaint complaint := by
  rcases run_cases arguments with ⟨_, complaint, blamed, whole⟩ | ⟨valid, _⟩
  · exact ⟨complaint, blamed, whole host⟩
  · exact absurd invalid valid

theorem exitCode?_of_invalid {arguments : Arguments} (invalid : arguments.Invalid)
    (host : Host) : (run arguments host).ending.exitCode? = some 64 := by
  rcases run_of_invalid invalid host with ⟨complaint, blamed, whole⟩
  rw [whole, Ending.exitCode?_eq_usage_iff]
  exact ⟨complaint, rfl, blamed⟩

/-- A run ends with the exit code for wrong usage if and only if some argument makes no
sense. In that case the device is not touched and nothing is written to it, and no other
host would make a difference. -/
theorem usage_iff_invalid (arguments : Arguments) (host : Host) :
    let outcome := run arguments host
    (outcome.ending.exitCode? = some 64 ↔ arguments.Invalid) ∧
      (arguments.Invalid → outcome.device = .untouched ∧ outcome.device.written = [] ∧
        ∀ other : Host, run arguments other = outcome) := by
  intro outcome
  rcases run_cases arguments with ⟨invalid, complaint, blamed, whole⟩ | ⟨valid, blameless⟩
  · have here : outcome = .ofComplaint complaint := whole host
    refine ⟨⟨fun _ => invalid, fun _ => ?_⟩, fun _ => ?_⟩
    · rw [here, Ending.exitCode?_eq_usage_iff]
      exact ⟨complaint, rfl, blamed⟩
    · rw [here]
      exact ⟨rfl, rfl, whole⟩
  · refine ⟨⟨fun usage => absurd usage (blameless host),
        fun invalid => absurd invalid valid⟩, ?_⟩
    intro invalid
    exact absurd invalid valid

theorem usage_of_missing_button :
    let asking (request : Request) : Arguments :=
      { device := "/dev/ttyUSB0", baud := 9600, timeout := "1s", format := none
        logFormat := .text, logLevel := .info, request }
    let host : Host :=
      { attachment := fun _ => .present {} { script := [] }
        input := { bytes := Text.bytes "32\n" } }
    (asking (.send ["toggle:1", "on:32"])).Invalid ∧
      (run (asking (.send ["toggle:1", "on:32"])) host).ending.exitCode? = some 64 ∧
      (run (asking (.send ["toggle:1", "on:32"])) host).device = .untouched ∧
      (run (asking (.toggle [])) host).ending.exitCode? ≠ some 64 := by
  intro asking host
  have invalid : (asking (.send ["toggle:1", "on:32"])).Invalid := by
    left
    exact ⟨"on:32", by simp, by decide +kernel⟩
  have valid : ¬(asking (.toggle [])).Invalid := by
    rintro (⟨_, member, _⟩ | ⟨_, untimed⟩)
    · cases member
    · exact absurd untimed (by decide +kernel)
  rcases usage_iff_invalid (asking (.send ["toggle:1", "on:32"])) host with
    ⟨usage, complains⟩
  refine ⟨invalid, usage.mpr invalid, (complains invalid).1, ?_⟩
  intro blamed
  exact valid ((usage_iff_invalid (asking (.toggle [])) host).1.mp blamed)

end Program

end PanelLink
