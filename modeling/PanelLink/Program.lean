import PanelLink.Arguments
import PanelLink.CommandWord
import PanelLink.Console
import PanelLink.DurationWord
import PanelLink.Monitor

/-!
The program as a function of its arguments and of all that it meets: the devices, the
terminal, the clock. Every argument is checked before the device is opened.
-/

namespace PanelLink

structure Host where
  attachment : String → Link.Attachment
  input : Input := {}
  terminal : Sink := {}
  signals : Except String Unit := .ok ()
  /-- The clock as it is read: once before the device is opened, then once for each turn
  of the monitor. The first reading also serves to time the flushes of the device. -/
  clock : Nat → Instant := fun _ => ⟨0⟩
  /-- The time shown with each telemetry record, by its number. -/
  timestamp : Nat → String := fun _ => "0"
  canFlush : PortSettings → Instant → Bool := fun settings now => settings.canFlush now
  typesetting : Typesetting := {}
  ports : Except PortError (List PortInfo) := .ok []
  /-- Whether a person reads the output as it comes. -/
  interactive : Bool := false
  target : String := "unknown"
  system : String := "unknown"
  processor : String := "unknown"

inductive Ending where
  | success
  | failed (complaint : Complaint)
  /-- The clock has overflowed, or a line could not be printed. -/
  | crash
  | never
deriving DecidableEq, Repr

namespace Ending

def exitCode? : Ending → Option Nat
  | success => some ExitStatus.success.code
  | failed complaint => some complaint.status.code
  | crash => some 101
  | never => none

def errorMark : String := "error: "

def errorOutput : Ending → String
  | failed complaint => errorMark ++ complaint.message ++ "\n"
  | _ => ""

def ofMonitor : MonitorEnding → Ending
  | .finished _ => success
  | .failed complaint => failed complaint
  | .clockOverflow => crash
  | .waiting => never

/-- The end of a run that met a link as `before` and left it as `later`. Where flushes
cannot be timed, the first one is the end, whatever would have come of it. -/
def onClock (canFlush : Bool) (before later : Link) (ending : Ending) : Ending :=
  if !canFlush && before.flushCalls < later.flushCalls then crash else ending

end Ending

inductive DeviceUse where
  | untouched
  /-- It was tried, and there was no link in the end. -/
  | refused
  | used (link : Link)
deriving DecidableEq, Repr

namespace DeviceUse

def link? : DeviceUse → Option Link
  | untouched | refused => none
  | used link => some link

def written : DeviceUse → Bytes
  | untouched | refused => []
  | used link => link.written

end DeviceUse

structure Outcome where
  ending : Ending
  output : Bytes := []
  device : DeviceUse := .untouched
deriving DecidableEq, Repr

namespace Outcome

def ofComplaint (complaint : Complaint) : Outcome := { ending := .failed complaint }

def ofReport (host : Host) (report : List Printout) (device : DeviceUse) : Outcome :=
  let (printed, terminal) := Report.print report host.terminal
  { ending := if printed then .success else .crash, output := terminal.accepted, device }

def onClock (canFlush : Bool) (link : Link) (outcome : Outcome) : Outcome :=
  match outcome.device with
  | .used later => { outcome with ending := outcome.ending.onClock canFlush link later }
  | _ => outcome

end Outcome

namespace Program

def name : String := "togglink"

def version : String := "0.1.0"

/-! ## Opening the device -/

def settings (arguments : Arguments) : Except DurationError PortSettings :=
  (Duration.ofWord arguments.timeout).map fun timeout =>
    { device := arguments.device, baud := arguments.baud, timeout }

def openLink (arguments : Arguments) (attachment : String → Link.Attachment) :
    Except Outcome Link :=
  match settings arguments with
  | .error error => .error (.ofComplaint (.usage error.message))
  | .ok settings =>
      (Link.openDefault settings (attachment settings.device)).mapError fun error =>
        { ending := .failed (.ofLinkError "open failed" error), device := .refused }

def canFlush (arguments : Arguments) (host : Host) : Bool :=
  match settings arguments with
  | .error _ => true
  | .ok settings => host.canFlush settings (host.clock 0)

def withLink (arguments : Arguments) (host : Host) (action : Link → Outcome) : Outcome :=
  match openLink arguments host.attachment with
  | .error outcome => outcome
  | .ok link =>
      let canFlush := canFlush arguments host
      (action (if canFlush then link else link.withoutFlush)).onClock canFlush link

/-! ## The subcommands -/

def sendCommands (arguments : Arguments) (host : Host) (format : OutputFormat)
    (commands : List Command) : Outcome :=
  withLink arguments host fun link =>
    match link.send commands with
    | (.error error, link) =>
        { ending := .failed (.ofLinkError "send failed" error), device := .used link }
    | (.ok frames, link) =>
        .ofReport host
          (Report.sent host.typesetting format arguments.device commands frames)
          (.used link)

def send (arguments : Arguments) (host : Host) (format : OutputFormat)
    (words : List String) : Outcome :=
  match words.mapM Command.ofWord with
  | .error error => .ofComplaint (.usage error.message)
  | .ok commands => sendCommands arguments host format commands

def converse (arguments : Arguments) (host : Host) : Outcome :=
  withLink arguments host fun link =>
    let (result, console) := (Console.start host.terminal link).run host.input.lines
    { ending := match result with
        | .ok _ => .success
        | .error complaint => .failed complaint
      output := console.terminal.accepted
      device := .used console.link }

def toggle (arguments : Arguments) (host : Host) (format : OutputFormat)
    (buttons : List UInt8) : Outcome :=
  if buttons.isEmpty then converse arguments host
  else match buttons.mapM (Command.checked .toggle) with
    | .error error => .ofComplaint (.ofLinkError "invalid button" error)
    | .ok commands => sendCommands arguments host format commands

/-- Take turns on the link and print the records. A record that cannot be printed is the
last: the run crashes there as if it had been stopped. -/
def watch (host : Host) (format : OutputFormat) (monitorSettings : MonitorSettings)
    (schedule : RefreshSchedule) (link : Link) : Outcome :=
  let run (monitorSettings : MonitorSettings) :=
    (Monitor.start link schedule).run monitorSettings fun turn => host.clock (turn + 1)
  let (ending, monitor) := run monitorSettings
  let reports := monitor.records.zipIdx.map fun (record, index) =>
    Report.telemetry host.typesetting format (host.timestamp index) record
  let (printed, terminal) := Report.printAll reports host.terminal
  if printed = reports.length then
    { ending := .ofMonitor ending, output := terminal.accepted,
      device := .used monitor.link }
  else
    let (_, monitor) := run { monitorSettings with stopAfter := some (printed + 1) }
    { ending := .crash, output := terminal.accepted, device := .used monitor.link }

def monitor (arguments : Arguments) (host : Host) (format : OutputFormat)
    (monitorSettings : MonitorSettings) (refresh : Bool) (interval : Option String) :
    Outcome :=
  match interval.mapM Duration.ofWord with
  | .error error => .ofComplaint (.usage error.message)
  | .ok interval =>
      let schedule := RefreshSchedule.start refresh interval (host.clock 0)
      withLink arguments host fun link =>
        match host.signals with
        | .error message =>
            { ending := .failed (.ofSignals message), device := .used link }
        | .ok () => watch host format monitorSettings schedule link

def listPorts (host : Host) (format : OutputFormat) : Outcome :=
  match host.ports with
  | .error error => .ofComplaint (.ofPortError "port enumeration failed" error)
  | .ok found => .ofReport host (Report.ports host.typesetting format found) .untouched

def versionLine : String := name ++ " " ++ version

def versionLines (host : Host) (extended : Bool) : List String :=
  if extended then [
    "name: " ++ name,
    "version: " ++ version,
    "target: " ++ host.target,
    "target_os: " ++ host.system,
    "target_arch: " ++ host.processor,
    "git_hash: unknown",
    "features: async=true, cli=true",
    "protocol: slip+crc16-xmodem, max_frame=" ++ Nat.repr Frame.defaultLimit]
  else [versionLine]

/-! ## The whole run -/

def chosenFormat (arguments : Arguments) (interactive : Bool) : OutputFormat :=
  arguments.format.getD (if interactive then .pretty else .json)

def run (arguments : Arguments) (host : Host) : Outcome :=
  let format := chosenFormat arguments host.interactive
  match arguments.request with
  | .send words => send arguments host format words
  | .toggle buttons => toggle arguments host format buttons
  | .monitor count strict refresh interval =>
      monitor arguments host format { count, strict } refresh interval
  | .ports => listPorts host format
  | .version extended =>
      .ofReport host (Report.ofLines (versionLines host extended)) .untouched

structure Execution where
  exitCode : Option Nat
  output : Bytes := []
  errorOutput : String := ""
  device : DeviceUse := .untouched
deriving DecidableEq, Repr

namespace Execution

/-- The lines that report errors. A message of more than one line may look like more than
one report, or end in lines that look like none. -/
def errorLines (execution : Execution) : List String :=
  (Text.textLines execution.errorOutput).filter fun line =>
    line.toList.take Ending.errorMark.length = Ending.errorMark.toList

def ofOutcome (outcome : Outcome) : Execution where
  exitCode := outcome.ending.exitCode?
  output := outcome.output
  errorOutput := outcome.ending.errorOutput
  device := outcome.device

end Execution

/-- What is printed when the command line is not carried out. The text of help and of
complaints about the command line is left to the outer layer. -/
def faultReport : Arguments.Fault → List Printout
  | .versionRequested => Report.ofLines [versionLine]
  | _ => []

def execute (environment : Arguments.Environment) (words : List String) (host : Host) :
    Execution :=
  match Arguments.parse environment words with
  | .error fault =>
      { exitCode := some fault.exitCode
        output := (Report.print (faultReport fault) host.terminal).2.accepted }
  | .ok arguments => .ofOutcome (run arguments host)

end Program

end PanelLink
