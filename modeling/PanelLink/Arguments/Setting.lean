import PanelLink.Report
import PanelLink.Text.Decimal

/-!
The options of the command line and what may be given for them. Settings take a value and
switches take none. Some settings can also come from the environment.
-/

namespace PanelLink

inductive LogFormat where
  | text
  | json
deriving DecidableEq, Repr

inductive LogLevel where
  | error
  | warn
  | info
  | debug
  | trace
deriving DecidableEq, Repr

namespace LogLevel

def name : LogLevel → String
  | error => "error"
  | warn => "warn"
  | info => "info"
  | debug => "debug"
  | trace => "trace"

end LogLevel

namespace Arguments

/-- Why a command line is not carried out. Asking for help or for the version is one of
the reasons. -/
inductive Fault where
  | helpRequested
  | versionRequested
  | nothingGiven
  | missingSubcommand
  | unknownSubcommand
  | unknownArgument
  | missingArgument
  | repeatedOption
  | surplusValue
  /-- A value is missing, empty where it must not be, or not one of those allowed. -/
  | invalidValue
  | invalidNumber
deriving DecidableEq, Repr

namespace Fault

def exitCode : Fault → Nat
  | helpRequested | versionRequested => 0
  | _ => 2

end Fault

inductive Setting where
  | device
  | baud
  | timeout
  | format
  | logFormat
  | logLevel
  | count
  | refreshInterval
deriving DecidableEq, Repr

inductive Switch where
  | strict
  | refresh
  | extended
  | help
  | version
deriving DecidableEq, Repr

inductive Subcommand where
  | send
  | toggle
  | monitor
  | ports
  | version
deriving DecidableEq, Repr

namespace Subcommand

def ofName? : String → Option Subcommand
  | "send" => some send
  | "toggle" => some toggle
  | "monitor" => some monitor
  | "ports" => some ports
  | "version" => some version
  | _ => none

end Subcommand

inductive Level where
  | top
  | inside (subcommand : Subcommand)
deriving DecidableEq, Repr

inductive Item where
  | setting (setting : Setting)
  | switch (switch : Switch)
deriving DecidableEq, Repr

def globalItem? : String → Option Item
  | "device" => some (.setting .device)
  | "baud" => some (.setting .baud)
  | "timeout" => some (.setting .timeout)
  | "format" => some (.setting .format)
  | "log-format" => some (.setting .logFormat)
  | "log-level" => some (.setting .logLevel)
  | "help" => some (.switch .help)
  | _ => none

def localItem? : Level → String → Option Item
  | .top, "version" => some (.switch .version)
  | .inside .monitor, "count" => some (.setting .count)
  | .inside .monitor, "strict" => some (.switch .strict)
  | .inside .monitor, "refresh" => some (.switch .refresh)
  | .inside .monitor, "refresh-interval" => some (.setting .refreshInterval)
  | .inside .version, "extended" => some (.switch .extended)
  | _, _ => none

def item? (level : Level) (name : String) : Option Item :=
  globalItem? name <|> localItem? level name

def letter? (level : Level) : Char → Option Switch
  | 'h' => some .help
  | 'V' => if level = .top then some .version else none
  | _ => none

/-! ## Values -/

structure Given where
  device : Option String := none
  baud : Option UInt32 := none
  timeout : Option String := none
  format : Option OutputFormat := none
  logFormat : Option LogFormat := none
  logLevel : Option LogLevel := none
  count : Option Nat := none
  refreshInterval : Option String := none
  strict : Bool := false
  refresh : Bool := false
  extended : Bool := false
  words : List String := []
  /-- The same words as buttons, where buttons are wanted. -/
  buttons : List UInt8 := []
deriving DecidableEq, Repr

def deviceOf (text : String) : Except Fault String :=
  if text.isEmpty then .error .invalidValue else .ok text

def baudOf (text : String) : Except Fault UInt32 :=
  match Text.signed? UInt32.size text.toList with
  | some value => .ok (UInt32.ofNat value)
  | none => .error .invalidNumber

def countOf (text : String) : Except Fault Nat :=
  match Text.unsigned? UInt64.size text.toList with
  | some value => .ok value
  | none => .error .invalidNumber

def buttonOf (text : String) : Except Fault UInt8 :=
  match Text.signed? UInt8.size text.toList with
  | some value => .ok (UInt8.ofNat value)
  | none => .error .invalidNumber

def outputFormatOf : String → Except Fault OutputFormat
  | "json" => .ok .json
  | "table" => .ok .table
  | "pretty" => .ok .pretty
  | "raw" => .ok .raw
  | _ => .error .invalidValue

def logFormatOf : String → Except Fault LogFormat
  | "text" => .ok .text
  | "json" => .ok .json
  | _ => .error .invalidValue

def logLevelOf : String → Except Fault LogLevel
  | "error" => .ok .error
  | "warn" => .ok .warn
  | "info" => .ok .info
  | "debug" => .ok .debug
  | "trace" => .ok .trace
  | _ => .error .invalidValue

/-- Fill a place that must still be empty. That it is not counts before what is wrong with
the value. -/
private def fill (place : Option α) (value : Except Fault α) : Except Fault (Option α) :=
  if place.isSome then .error .repeatedOption else value.map some

namespace Given

def store (given : Given) (text : String) : Setting → Except Fault Given
  | .device => (fill given.device (deviceOf text)).map fun device => { given with device }
  | .baud => (fill given.baud (baudOf text)).map fun baud => { given with baud }
  | .timeout => (fill given.timeout (.ok text)).map fun timeout => { given with timeout }
  | .format =>
      (fill given.format (outputFormatOf text)).map fun format => { given with format }
  | .logFormat =>
      (fill given.logFormat (logFormatOf text)).map fun logFormat =>
        { given with logFormat }
  | .logLevel =>
      (fill given.logLevel (logLevelOf text)).map fun logLevel => { given with logLevel }
  | .count => (fill given.count (countOf text)).map fun count => { given with count }
  | .refreshInterval =>
      (fill given.refreshInterval (.ok text)).map fun refreshInterval =>
        { given with refreshInterval }

def raise (given : Given) : Switch → Except Fault Given
  | .strict =>
      if given.strict then .error .repeatedOption else .ok { given with strict := true }
  | .refresh =>
      if given.refresh then .error .repeatedOption else .ok { given with refresh := true }
  | .extended =>
      if given.extended then .error .repeatedOption
      else .ok { given with extended := true }
  | .help => .error .helpRequested
  | .version => .error .versionRequested

def addWords (given : Given) (level : Level) (words : List String) : Except Fault Given :=
  match level with
  | .inside .toggle =>
      (words.mapM buttonOf).map fun buttons =>
        { given with buttons := given.buttons ++ buttons }
  | _ => .ok { given with words := given.words ++ words }

end Given

/-! ## The environment -/

structure Environment where
  device : Option String := none
  baud : Option String := none
  logFormat : Option String := none
  logLevel : Option String := none
deriving DecidableEq, Repr

namespace Environment

def ofVariables (value? : String → Option String) : Environment where
  device := value? "TOGGLINK_DEVICE"
  baud := value? "TOGGLINK_BAUD"
  logFormat := value? "TOGGLINK_LOG_FORMAT"
  logLevel := value? "TOGGLINK_LOG_LEVEL"

end Environment

end Arguments

end PanelLink
