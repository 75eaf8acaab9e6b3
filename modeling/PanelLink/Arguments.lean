import PanelLink.Arguments.Level
import PanelLink.Port

/-!
The command line: settings and switches, a subcommand, and the words behind it. The words
of the subcommand are read and checked to the end before what is still pending at the top.
A setting given on both sides of the subcommand counts as given behind it; one that is not
given comes from the environment, else from a default.
-/

namespace PanelLink

inductive Request where
  | send (words : List String)
  | toggle (buttons : List UInt8)
  | monitor (count : Option Nat) (strict refresh : Bool) (refreshInterval : Option String)
  | ports
  | version (extended : Bool)
deriving DecidableEq, Repr

structure Arguments where
  device : String
  baud : UInt32
  timeout : String
  format : Option OutputFormat
  logFormat : LogFormat
  logLevel : LogLevel
  request : Request
deriving DecidableEq, Repr

namespace Arguments

def readInside (level : Level) : List String → LevelState → Except Fault LevelState
  | [], state => state.settle level
  | word :: rest, state => do readInside level rest (← state.take level word)

def inside (subcommand : Subcommand) (environment : Environment) (words : List String) :
    Except Fault (Given × Given) := do
  let state ← readInside (.inside subcommand) words {}
  let given := state.given
  let complete ← given.fromEnvironment environment
  if subcommand = .send ∧ given.words.isEmpty then .error .missingArgument
  else return (given, complete)

def helpFor : List String → Fault
  | [] => .helpRequested
  | [topic] =>
      if topic = "help" || (Subcommand.ofName? topic).isSome then .helpRequested
      else .unknownSubcommand
  | _ :: _ :: _ => .unknownSubcommand

/-- Read the words up to the subcommand. The state is returned with what is still pending,
and with the subcommand and the words behind it if there is one. -/
def readTop : List String → LevelState →
    Except Fault (LevelState × Option (Subcommand × List String))
  | [], state => .ok (state, none)
  | word :: rest, state =>
      if state.trailing || state.wantsValue then do readTop rest (← state.take .top word)
      else if word = "help" then .error (helpFor rest)
      else match Subcommand.ofName? word with
        | some subcommand => .ok (state, some (subcommand, rest))
        | none => do readTop rest (← state.take .top word)

def requestOf (given : Given) : Subcommand → Request
  | .send => .send given.words
  | .toggle => .toggle given.buttons
  | .monitor => .monitor given.count given.strict given.refresh given.refreshInterval
  | .ports => .ports
  | .version => .version given.extended

def merge (top inner environment : Given) (subcommand : Subcommand) : Arguments :=
  let defaults : PortSettings := {}
  { device := (inner.device <|> top.device <|> environment.device).getD defaults.device
    baud := (inner.baud <|> top.baud <|> environment.baud).getD defaults.baud
    timeout := (inner.timeout <|> top.timeout).getD "1s"
    format := inner.format <|> top.format
    logFormat := (inner.logFormat <|> top.logFormat <|> environment.logFormat).getD .text
    logLevel := (inner.logLevel <|> top.logLevel <|> environment.logLevel).getD .info
    request := requestOf inner subcommand }

def parse (environment : Environment) (words : List String) : Except Fault Arguments := do
  let (state, found) ← readTop words {}
  match found with
  | none => do
      let top := (← state.settle .top).given
      let complete ← top.fromEnvironment environment
      if complete = {} then .error .nothingGiven else .error .missingSubcommand
  | some (subcommand, rest) => do
      let (inner, completeInner) ← inside subcommand environment rest
      let top := (← state.settle .top).given
      let _ ← top.fromEnvironment environment
      return merge top inner completeInner subcommand

end Arguments

end PanelLink
