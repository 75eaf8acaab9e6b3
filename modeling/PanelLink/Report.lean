import PanelLink.Command
import PanelLink.Sink
import PanelLink.Telemetry
import PanelLink.Text.Json
import PanelLink.Text.Table
import PanelLink.Text.Utf8

/-! What the program prints about telemetry, sent commands and ports, in each of its
formats. -/

namespace PanelLink

inductive OutputFormat where
  | json
  | table
  | pretty
  | raw
deriving DecidableEq, Repr

inductive PortKind where
  | usb
  | pci
  | bluetooth
  | unknown
deriving DecidableEq, Repr

namespace PortKind

def name : PortKind → String
  | usb => "usb"
  | pci => "pci"
  | bluetooth => "bluetooth"
  | unknown => "unknown"

end PortKind

structure PortInfo where
  name : String
  kind : PortKind
  product : Option String
deriving DecidableEq, Repr

structure Typesetting where
  json : Text.Json → String := Text.Json.render
  table : (header : List String) → (rows : List (List String)) → String :=
    Text.Table.render

inductive Printout where
  | line (text : String)
  | raw (bytes : Bytes)
deriving DecidableEq, Repr

def Printout.bytes : Printout → Bytes
  | line text => Text.bytes (text ++ "\n")
  | raw bytes => bytes

namespace Report

open Text

def ofLines (lines : List String) : List Printout := lines.map .line

/-! ## Printing -/

/-- Print a report, and tell whether that could be done. A line that the terminal does not
take is the end of it; what becomes of raw bytes is not looked at. -/
def print : List Printout → Sink → Bool × Sink
  | [], terminal => (true, terminal)
  | part@(.line _) :: rest, terminal =>
      match terminal.writeAll part.bytes with
      | (.ok (), terminal) => print rest terminal
      | (.error _, terminal) => (false, terminal)
  | part@(.raw _) :: rest, terminal => print rest (terminal.writeAll part.bytes).2.flush.2

def printAll : List (List Printout) → Sink → Nat × Sink
  | [], terminal => (0, terminal)
  | report :: rest, terminal =>
      match print report terminal with
      | (false, terminal) => (0, terminal)
      | (true, terminal) =>
          let (count, terminal) := printAll rest terminal
          (count + 1, terminal)

/-! ## Telemetry -/

variable (typesetting : Typesetting)

def eventJson (event : ButtonEvent) : Json :=
  .object [("button", .number event.button.toNat), ("kind", .string event.kind.name)]

def telemetryJson (timestamp : String) (telemetry : Telemetry) : Json :=
  .object [
    ("events", .array (telemetry.events.map eventJson)),
    ("output_state", .orNull (fun state => .string state.text) telemetry.state),
    ("outputs_on",
      .orNull (fun state => .array (state.on.map fun output => .number output.toNat))
        telemetry.state),
    ("timestamp", .string timestamp)]

def telemetryRows (telemetry : Telemetry) : List (List String) :=
  (telemetry.events.map fun event => [Nat.repr event.button.toNat, event.kind.name]) ++
    telemetry.state.toList.map fun state => ["outputs", state.text]

def telemetry (format : OutputFormat) (timestamp : String) (record : Telemetry) :
    List Printout :=
  match format with
  | .json => [.line (typesetting.json (telemetryJson timestamp record))]
  | .table => [.line (typesetting.table ["BUTTON", "EVENT"] (telemetryRows record))]
  | .pretty =>
      ofLines (record.events.map ButtonEvent.text ++
        record.state.toList.map OutputState.text)
  | .raw => [.raw record.toBytes]

/-! ## Sent commands -/

def sentJson (device : String) (commands : List Command) (frames : List Bytes) : Json :=
  .object [
    ("device", .string device),
    ("commands", .array (commands.map fun command => .string command.text)),
    ("frames", .number frames.length)]

def sent (format : OutputFormat) (device : String) (commands : List Command)
    (frames : List Bytes) : List Printout :=
  match format with
  | .json => [.line (typesetting.json (sentJson device commands frames))]
  | .table =>
      [.line (typesetting.table ["COMMAND", "BYTE"]
        (commands.map fun command => [command.text, hex .upper 2 command.toByte.toNat]))]
  | .pretty =>
      [.line
        ("sent " ++ ", ".intercalate (commands.map Command.text) ++ " to " ++ device)]
  | .raw => frames.map .raw

/-! ## Ports -/

def portJson (port : PortInfo) : Json :=
  .object [
    ("name", .string port.name),
    ("kind", .string port.kind.name),
    ("product", .orNull .string port.product)]

def portLine (port : PortInfo) : String :=
  match port.product with
  | some product => port.name ++ " (" ++ port.kind.name ++ ", " ++ product ++ ")"
  | none => port.name ++ " (" ++ port.kind.name ++ ")"

def ports (format : OutputFormat) (found : List PortInfo) : List Printout :=
  match format with
  | .json => [.line (typesetting.json (.array (found.map portJson)))]
  | .table =>
      [.line (typesetting.table ["PORT", "KIND", "PRODUCT"]
        (found.map fun port => [port.name, port.kind.name, port.product.getD ""]))]
  | .pretty =>
      if found.isEmpty then [.line "no serial ports found"]
      else ofLines (found.map portLine)
  | .raw => ofLines (found.map PortInfo.name)

end Report

end PanelLink
