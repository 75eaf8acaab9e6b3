import PanelLink.Program
import Std.Time.DateTime.Timestamp

/-!
The command line, where the program meets the machine. What to do is decided elsewhere;
here devices are opened, bytes are moved and the clock is read.
-/

namespace PanelLink.CommandLine

/-! ## Failures and faults as the machine reports them -/

def failureOf (error : IO.Error) : Failure :=
  let kind : FailureKind := match error with
    | .permissionDenied .. => .permissionDenied
    | .noFileOrDirectory .. | .noSuchThing .. => .notFound
    | .timeExpired .. => .timedOut
    | .interrupted .. => .interrupted
    | .resourceVanished .. => .brokenPipe
    | .unexpectedEof => .unexpectedEof
    | _ => .other
  ⟨kind, toString error⟩

def serialFaultOf (error : IO.Error) : SerialFault :=
  let failure := failureOf error
  if failure.kind = .notFound then ⟨.noDevice, "No such file or directory"⟩
  else ⟨.transfer failure.kind, failure.text⟩

def openDevice (path : String) : IO (Except SerialFault IO.FS.Handle) := do
  try
    return .ok (← IO.FS.Handle.mk path .readWrite)
  catch error =>
    return .error (serialFaultOf error)

/-! ## Moving bytes -/

def toArray (bytes : Bytes) : ByteArray := ⟨bytes.toArray⟩

def print (bytes : Bytes) : IO Unit := do
  let output ← IO.getStdout
  output.write (toArray bytes)
  output.flush

def printReport (report : List Printout) : IO Unit :=
  print (report.flatMap Printout.bytes)

def readLine : IO (Except Failure Bytes) := do
  try
    return .ok (Text.bytes (← (← IO.getStdin).getLine))
  catch error =>
    return .error (failureOf error)

def transmit (device : IO.FS.Handle) (before after : Link) : IO Unit := do
  let bytes := after.written.drop before.written.length
  unless bytes.isEmpty do
    device.write (toArray bytes)
    device.flush

/-- Read once from the device. A device that brings no bytes has closed. -/
def replenish (device : IO.FS.Handle) (link : Link) : IO Link := do
  let bytes ← device.read (USize.ofNat Inlet.chunkSize)
  let arrived := link.arrive bytes.toList
  if bytes.isEmpty then
    let source : Source := { arrived.inlet.source with afterwards := .closed }
    return { arrived with inlet := { arrived.inlet with source } }
  return arrived

def clock : IO Instant := return ⟨(← IO.monoNanosNow)⟩

def timestamp : IO String := do
  let now ← Std.Time.Timestamp.now
  return toString now.toSecondsSinceUnixEpoch.val

/-! ## Conversations -/

def exitWith (ending : Ending) : IO UInt32 := do
  IO.eprint ending.errorOutput
  return UInt32.ofNat (ending.exitCode?.getD 0)

def endingOf : Except Complaint Nat → Ending
  | .ok _ => .success
  | .error complaint => .failed complaint

partial def converse (device : IO.FS.Handle) (console : Console) :
    IO (Ending × Link) := do
  let display (console : Console) : IO Console := do
    print console.terminal.accepted
    return { console with terminal := {} }
  let (asked, console) := console.ask
  let console ← display console
  match asked with
  | .error complaint => return (.failed complaint, console.link)
  | .ok () =>
      let line ← readLine
      if line matches .ok [] then
        let (result, console) := console.finish
        discard (display console)
        return (endingOf result, console.link)
      let (result, later) := console.answer line
      transmit device console.link later.link
      let later ← display later
      match result with
      | .error complaint => return (.failed complaint, later.link)
      | .ok .goOn => converse device later
      | .ok .quit =>
          let (result, later) := later.finish
          discard (display later)
          return (endingOf result, later.link)

partial def watch (device : IO.FS.Handle) (format : OutputFormat)
    (settings : MonitorSettings) (monitor : Monitor) : IO (Ending × Link) := do
  let (ending, later) := monitor.turn settings (← clock)
  transmit device monitor.link later.link
  for record in later.records.drop monitor.records.length do
    printReport (Report.telemetry {} format (← timestamp) record)
  match ending with
  | some ending => return (.ofMonitor ending, later.link)
  | none =>
      if later.isDone settings || later.weight ≠ 0 then watch device format settings later
      else
        watch device format settings
          { later with link := ← replenish device later.link }

/-! ## The machine's ports -/

def portCandidates : List PortInfo :=
  let numbered (stem : String) (kind : PortKind) (count : Nat) : List PortInfo :=
    (List.range count).map fun number => ⟨stem ++ Nat.repr number, kind, none⟩
  numbered "/dev/ttyACM" .usb 16 ++ numbered "/dev/ttyUSB" .usb 16 ++
    numbered "/dev/ttyS" .unknown 4

def isPresent (port : PortInfo) : IO Bool := do
  try
    let _ ← IO.FS.realPath port.name
    return true
  catch _ =>
    return false

/-! ## The run -/

def runOnLink (arguments : Arguments)
    (action : IO.FS.Handle → Link → IO (Ending × Link)) : IO Ending := do
  match ← openDevice arguments.device with
  | .error fault =>
      match Program.openLink arguments fun _ => .missing fault with
      | .error outcome => return outcome.ending
      | .ok _ => return .success
  | .ok device =>
      let quiet : Source := { script := [], afterwards := .silent }
      let now ← clock
      let host : Host :=
        { attachment := fun _ => .present {} quiet, clock := fun _ => now }
      match Program.openLink arguments host.attachment with
      | .error outcome => return outcome.ending
      | .ok link =>
          let canFlush := Program.canFlush arguments host
          let (ending, later) ←
            action device (if canFlush then link else link.withoutFlush)
          return ending.onClock canFlush link later

def runAtOnce (arguments : Arguments) (interactive : Bool) : IO Ending :=
  runOnLink arguments fun device link => do
    let now ← clock
    let outcome := Program.run arguments {
      attachment := fun _ => .present {} link.inlet.source
      clock := fun _ => now
      interactive }
    device.write (toArray outcome.device.written)
    device.flush
    print outcome.output
    return (outcome.ending, outcome.device.link?.getD link)

/-- Carry out what the arguments ask for. A rehearsal without any device shows whether one
is needed: if it is not touched, that was the whole run. -/
def run (arguments : Arguments) : IO Ending := do
  let interactive ← (← IO.getStdout).isTty
  let found ←
    if arguments.request = .ports then portCandidates.filterM isPresent else pure []
  let rehearsal := Program.run arguments {
    attachment := fun _ => .missing ⟨.noDevice, ""⟩
    ports := .ok found
    interactive }
  if rehearsal.device = .untouched then
    print rehearsal.output
    return rehearsal.ending
  match arguments.request with
  | .toggle [] => runOnLink arguments fun device link => converse device (.start {} link)
  | .monitor count strict refresh interval =>
      let interval := interval.bind fun word => (Duration.ofWord word).toOption
      let schedule := RefreshSchedule.start refresh interval (← clock)
      let format := Program.chosenFormat arguments interactive
      runOnLink arguments fun device link =>
        watch device format { count, strict } (.start link schedule)
  | _ => runAtOnce arguments interactive

def helpText : String :=
  "Toggle outputs and watch buttons on a panel\n\n" ++
  "Usage: " ++ Program.name ++ " [OPTIONS] <COMMAND>\n\n" ++
  "Commands:\n" ++
  "  send     Send commands (toggle:N, on:N, off:N, refresh, none)\n" ++
  "  toggle   Toggle outputs; without arguments, prompt for buttons\n" ++
  "  monitor  Print button events and output state\n" ++
  "  ports    List serial ports on this host\n" ++
  "  version  Show version information\n" ++
  "  help     Print this message\n\n" ++
  "Options:\n" ++
  "  --device <DEVICE>  --baud <BAUD>  --timeout <TIMEOUT>  --format <FORMAT>\n" ++
  "  --log-format <FORMAT>  --log-level <LEVEL>  -h, --help  -V, --version\n"

def faultText : Arguments.Fault → String
  | .helpRequested | .versionRequested => ""
  | .nothingGiven => helpText
  | .missingSubcommand => "error: a subcommand is required"
  | .unknownSubcommand => "error: unrecognized subcommand"
  | .unknownArgument => "error: unexpected argument"
  | .missingArgument => "error: a required argument was not provided"
  | .repeatedOption => "error: an argument cannot be used multiple times"
  | .surplusValue => "error: unexpected value for an argument that takes none"
  | .invalidValue | .invalidNumber => "error: invalid value for an argument"

end PanelLink.CommandLine

open PanelLink in
def main (words : List String) : IO UInt32 := do
  let environment : Arguments.Environment := {
    device := ← IO.getEnv "TOGGLINK_DEVICE"
    baud := ← IO.getEnv "TOGGLINK_BAUD"
    logFormat := ← IO.getEnv "TOGGLINK_LOG_FORMAT"
    logLevel := ← IO.getEnv "TOGGLINK_LOG_LEVEL" }
  match Arguments.parse environment words with
  | .error fault =>
      if fault = .helpRequested then IO.print CommandLine.helpText
      CommandLine.printReport (Program.faultReport fault)
      unless fault.exitCode = 0 do IO.eprintln (CommandLine.faultText fault)
      return UInt32.ofNat fault.exitCode
  | .ok arguments =>
      let ending ←
        try
          CommandLine.run arguments
        catch error =>
          pure (.failed (.ofFailure "device failed" (CommandLine.failureOf error)))
      CommandLine.exitWith ending
