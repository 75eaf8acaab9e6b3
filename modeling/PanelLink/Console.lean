import PanelLink.Complaint
import PanelLink.Link
import PanelLink.Text.Blank
import PanelLink.Text.Decimal
import PanelLink.Text.Utf8

/-!
The console asks for buttons, one line each, and toggles them until the input ends or the
user quits. Lines that name no button of the panel are answered with a remark and passed
over.
-/

namespace PanelLink

structure Input where
  bytes : Bytes := []
  failure : Option Failure := none
deriving DecidableEq, Repr

/-- What each attempt to read a line brings. A failure costs the line that it interrupts,
unless reading goes on behind it. -/
def Input.lines (input : Input) : List (Except Failure Bytes) :=
  let lines := (Text.lines input.bytes).map .ok
  match input.failure with
  | none => lines
  | some cause =>
      if cause.isInterrupted then lines
      else if input.bytes.getLast? = some Text.newline then lines ++ [.error cause]
      else lines.dropLast ++ [.error cause]

structure Console where
  terminal : Sink
  link : Link
  sent : Nat
deriving DecidableEq, Repr

namespace Console

def start (terminal : Sink) (link : Link) : Console := ⟨terminal, link, 0⟩

def prompt : String := "Which one to toggle? "

inductive Entry where
  | blank
  | quit
  | button (number : UInt8)
  | other (text : String)
deriving DecidableEq, Repr

def entryOf (line : String) : Entry :=
  let text := Text.trim line.toList
  if text.isEmpty then .blank
  else if text.map Char.toLower = ['q'] then .quit
  else match Text.unsigned? UInt8.size text with
    | some number => .button (UInt8.ofNat number)
    | none => .other (String.ofList text)

/-! ## The terminal -/

def terminalFailure : Refusal → Failure
  | .stalled => ⟨.writeZero, "failed to write whole buffer"⟩
  | .failed cause => cause

def say (context : String) :
    (pieces : List String) → Console → Except Complaint Unit × Console
  | [], console => (.ok (), console)
  | piece :: rest, console =>
      match console.terminal.writeAll (Text.bytes piece) with
      | (.ok (), terminal) => say context rest { console with terminal }
      | (.error refusal, terminal) =>
          (.error (.ofFailure context (terminalFailure refusal)),
            { console with terminal })

def ask (console : Console) : Except Complaint Unit × Console :=
  match console.say "prompt failed" [prompt] with
  | (.error complaint, console) => (.error complaint, console)
  | (.ok (), console) =>
      let (result, terminal) := console.terminal.flush
      (result.mapError (.ofFailure "prompt failed"), { console with terminal })

def remark (pieces : List String) (console : Console) : Except Complaint Unit × Console :=
  console.say "write failed" (pieces ++ ["\n"])

/-! ## Lines -/

def press (button : UInt8) (console : Console) : Except Complaint Unit × Console :=
  match console.link.toggle button with
  | (.ok (), link) => (.ok (), { console with link, sent := console.sent + 1 })
  | (.error (.buttonOutOfRange button), link) =>
      { console with link }.remark (LinkError.rangePieces button)
  | (.error error, link) =>
      (.error (.ofLinkError "toggle failed" error), { console with link })

def notText : Failure := ⟨.invalidData, "stream did not contain valid UTF-8"⟩

inductive Continuation where
  | goOn
  | quit
deriving DecidableEq, Repr

def readEntry (line : Bytes) : Except Failure Entry :=
  match Text.ofBytes? line with
  | none => .error notText
  | some text => .ok (entryOf text)

def answer (line : Except Failure Bytes) (console : Console) :
    Except Complaint Continuation × Console :=
  match line.bind readEntry with
  | .error cause => (.error (.ofFailure "read failed" cause), console)
  | .ok .blank => (.ok .goOn, console)
  | .ok .quit => (.ok .quit, console)
  | .ok (.button button) =>
      let (result, console) := console.press button
      (result.map fun () => .goOn, console)
  | .ok (.other text) =>
      let (result, console) := console.remark ["not a button: ", text]
      (result.map fun () => .goOn, console)

def finish (console : Console) : Except Complaint Nat × Console :=
  let (result, console) := console.remark []
  (result.map fun () => console.sent, console)

def run : (lines : List (Except Failure Bytes)) → Console → Except Complaint Nat × Console
  | [], console =>
      match console.ask with
      | (.error complaint, console) => (.error complaint, console)
      | (.ok (), console) => console.finish
  | line :: rest, console =>
      match console.ask with
      | (.error complaint, console) => (.error complaint, console)
      | (.ok (), console) =>
          match console.answer line with
          | (.error complaint, console) => (.error complaint, console)
          | (.ok .quit, console) => console.finish
          | (.ok .goOn, console) => run rest console

end Console

end PanelLink
