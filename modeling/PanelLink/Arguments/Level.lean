import PanelLink.Arguments.Setting

/-!
Reading the words of one level from left to right. A value that is a word of its own is
checked only when the next option, or the first word that belongs to no option, is taken,
or when the words have run out; a word that cannot be taken at all is therefore reported
before such a value.
-/

namespace PanelLink.Arguments

inductive Pending where
  | nothing
  | waiting (setting : Setting)
  | value (setting : Setting) (text : String)
  | words (words : List String)
deriving DecidableEq, Repr

structure LevelState where
  given : Given := {}
  pending : Pending := .nothing
  /-- Whether `--` has been met, behind which no word is an option. -/
  trailing : Bool := false
deriving DecidableEq, Repr

namespace LevelState

def settle (level : Level) (state : LevelState) : Except Fault LevelState :=
  let done (given : Except Fault Given) : Except Fault LevelState :=
    given.map fun given => { state with given, pending := .nothing }
  match state.pending with
  | .nothing => .ok state
  | .waiting _ => .error .invalidValue
  | .value setting text => done (state.given.store text setting)
  | .words words => done (state.given.addWords level words)

def raise (level : Level) (switch : Switch) (state : LevelState) :
    Except Fault LevelState := do
  let state ← state.settle level
  let given ← state.given.raise switch
  return { state with given }

def takeItem (level : Level) (item : Item) (attached : Option String)
    (state : LevelState) : Except Fault LevelState :=
  match item, attached with
  | .switch _, some _ => .error .surplusValue
  | .switch switch, none => state.raise level switch
  | .setting setting, none => do
      let state ← state.settle level
      return { state with pending := .waiting setting }
  | .setting setting, some text => do
      let state ← state.settle level
      let given ← state.given.store text setting
      return { state with given }

def takeLetters (level : Level) : List Char → LevelState → Except Fault LevelState
  | [], state => .ok state
  | letter :: rest, state =>
      match letter? level letter with
      | none => .error .unknownArgument
      | some switch => do takeLetters level rest (← state.raise level switch)

def takeWord (level : Level) (word : String) (state : LevelState) :
    Except Fault LevelState :=
  match level, state.pending with
  | .inside .send, .words words | .inside .toggle, .words words =>
      .ok { state with pending := .words (words ++ [word]) }
  | .inside .send, _ | .inside .toggle, _ => do
      let state ← state.settle level
      return { state with pending := .words [word] }
  | .inside _, _ => .error .unknownArgument
  | .top, _ =>
      if state.trailing && (word = "help" || (Subcommand.ofName? word).isSome) then
        .error .unknownArgument
      else .error .unknownSubcommand

end LevelState

inductive Shape where
  | divider
  | long (name : String) (attached : Option String)
  | letters (letters : List Char)
  | plain
deriving DecidableEq, Repr

def splitEquals : List Char → List Char × Option (List Char)
  | [] => ([], none)
  | character :: rest =>
      if character = '=' then ([], some rest)
      else
        let (name, value) := splitEquals rest
        (character :: name, value)

/-- A single hyphen is a plain word. -/
def shapeOf (word : String) : Shape :=
  match word.toList with
  | ['-', '-'] => .divider
  | '-' :: '-' :: rest =>
      let (name, value) := splitEquals rest
      .long (String.ofList name) (value.map String.ofList)
  | '-' :: letter :: rest => .letters (letter :: rest)
  | _ => .plain

def LevelState.take (level : Level) (word : String) (state : LevelState) :
    Except Fault LevelState :=
  if state.trailing then state.takeWord level word
  else match shapeOf word with
    | .divider => .ok { state with trailing := true }
    | .long name attached =>
        match item? level name with
        | none => .error .unknownArgument
        | some item => state.takeItem level item attached
    | .letters letters => state.takeLetters level letters
    | .plain =>
        match state.pending with
        | .waiting setting => .ok { state with pending := .value setting word }
        | _ => state.takeWord level word

def LevelState.wantsValue (state : LevelState) : Bool :=
  match state.pending with
  | .waiting _ => true
  | _ => false

def Given.fromEnvironment (environment : Environment) (given : Given) :
    Except Fault Given := do
  let given ← match given.device, environment.device with
    | none, some text => given.store text .device
    | _, _ => .ok given
  let given ← match given.baud, environment.baud with
    | none, some text => given.store text .baud
    | _, _ => .ok given
  let given ← match given.logFormat, environment.logFormat with
    | none, some text => given.store text .logFormat
    | _, _ => .ok given
  match given.logLevel, environment.logLevel with
    | none, some text => given.store text .logLevel
    | _, _ => .ok given

end PanelLink.Arguments
