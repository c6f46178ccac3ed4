import Gazetteer.CommandLine.Fault
import Gazetteer.Text.Split
import Gazetteer.Variables.Basic

/-!
Reading a command line.  Options stand before or after the command, each at most once on either side, and the
one after it counts.  A setting without an option takes its value from the environment.  The value of an
option is only looked at when the next option or the end of the line is reached, so a fault before it wins.
-/

namespace Gazetteer.CommandLine

/-- What an argument looks like. -/
inductive Word where
  /-- Ends the options. -/
  | mark
  | long (name : String) (value : Option String)
  | short (letter : Char) (rest : List Char)
  | plain (text : String)
  deriving DecidableEq, Repr

def Word.ofArgument (argument : String) : Word :=
  match argument.toList with
  | ['-', '-'] => .mark
  | '-' :: '-' :: cs =>
    let (name, value) := Text.splitAtFirst '=' cs
    .long (.ofList name) (if cs.contains '=' then some (.ofList value) else none)
  | '-' :: c :: cs => .short c cs
  | _ => .plain argument

/-- What has been read at a level. -/
structure State where
  given : List Setting := []
  values : Values := {}
  /-- The last option, if its value has not been looked at, and the value, if it has been read. -/
  awaited : Option (Setting × Option String) := none
  deriving DecidableEq, Repr

namespace State

def take (s : State) (level : Level) (setting : Setting) (value : String) : Except Fault State :=
  if s.given.contains setting then .error (.repeated level setting)
  else
    match s.values.set value setting with
    | .ok values => .ok ⟨s.given ++ [setting], values, none⟩
    | .error fault => .error (.badValue setting value fault)

/-- Looks at the value of the last option. -/
def settle (s : State) (level : Level) : Except Fault State :=
  match s.awaited with
  | none => .ok s
  | some (setting, none) => .error (.noValue setting)
  | some (setting, some value) => s.take level setting value

/-- An option with the value that is attached to it. -/
def option (s : State) (level : Level) (setting : Setting) (attached : Option String) : Except Fault State :=
  (s.settle level).bind fun s =>
    match attached with
    | some value => s.take level setting value
    | none => .ok { s with awaited := some (setting, none) }

/-- A flag ends the reading. -/
def flag (s : State) (level : Level) (fault : Fault) : Except Fault State :=
  (s.settle level).bind fun _ => .error fault

def readLong (s : State) (level : Level) (name : String) (value : Option String) : Except Fault State :=
  match Setting.ofLong? name with
  | some setting => s.option level setting value
  | none =>
    if level.flags.contains name then
      match value with
      | some value => .error (.flagValue level ("--" ++ name) value s.given)
      | none => s.flag level (if name = helpName then .helpWanted else .versionWanted)
    else .error (.noOption level name s.given)

/-- What follows the letter is the value of its option, after an equals sign if there is one. -/
def readShort (s : State) (level : Level) (letter : Char) (rest : List Char) : Except Fault State :=
  match Setting.ofShort? letter, rest with
  | some setting, [] => s.option level setting none
  | some setting, '=' :: value => s.option level setting (some (.ofList value))
  | some setting, value => s.option level setting (some (.ofList value))
  | none, _ =>
    if letter = 'h' then s.flag level .helpWanted
    else if letter = 'V' && level = .root then s.flag level .versionWanted
    else .error (.unexpected level (.ofList ['-', letter]))

end State

/-- What comes of asking for help on commands. -/
def helpFault : List String → Fault
  | [] => .helpWanted
  | command :: rest =>
    if commands.contains command then
      match rest with
      | [] => .helpWanted
      | word :: _ => .noHelpOn (if command = startName then .start else .root) word
    else .noHelpOn .root command

/-- A word that is neither a value nor the command that starts the server. -/
def strayFault (level : Level) (word : String) (rest : List String) : Fault :=
  match level with
  | .start => .unexpected .start word
  | .root => if word = helpName then helpFault rest else .noCommand word

/-- An argument after the mark that ends the options. -/
def lateFault (level : Level) (argument : String) : Fault :=
  match level with
  | .start => .unexpected .start argument
  | .root => if commands.contains argument then .lateCommand argument else .noCommand argument

/-- Reads the arguments of a level; what follows a command is left. -/
def readLevel (level : Level) (s : State) : List String → Except Fault (State × Option (List String))
  | [] => .ok (s, none)
  | argument :: rest =>
    match Word.ofArgument argument with
    | .mark =>
      match rest with
      | [] => .ok (s, none)
      | late :: _ => .error (lateFault level late)
    | .long name value => (s.readLong level name value).bind fun s => readLevel level s rest
    | .short letter letters => (s.readShort level letter letters).bind fun s => readLevel level s rest
    | .plain word =>
      match s.awaited with
      | some (setting, none) => readLevel level { s with awaited := some (setting, some word) } rest
      | _ =>
        if level = .root && word = startName then .ok (s, some rest)
        else .error (strayFault level word rest)

/-- The values that the environment has for settings without an option. -/
def environmentValues (environment : Variables) (given : List Setting) : Except Fault Values :=
  (Setting.all.filter fun setting => !given.contains setting).foldlM
    (fun values setting =>
      match environment.get? setting.environmentName with
      | none => .ok values
      | some value => (values.set value setting).mapError (.badValue setting value ·))
    {}

/-- The values of a level, from its options and from the environment. -/
def State.finish (s : State) (level : Level) (environment : Variables) : Except Fault (Values × Values) :=
  (s.settle level).bind fun s => (environmentValues environment s.given).map fun values => (s.values, values)

/-- What a command line and the environment say. -/
structure Arguments where
  /-- Whether the command is there. -/
  start : Bool
  values : Values
  deriving DecidableEq, Repr

def read (environment : Variables) (arguments : List String) : Except Fault Arguments := do
  let (root, rest) ← readLevel .root {} arguments
  let after ← match rest with
    | none => .ok {}
    | some rest => do
      let (state, _) ← readLevel .start {} rest
      let (values, _) ← state.finish .start environment
      .ok values
  let (before, remaining) ← root.finish .root environment
  .ok ⟨rest.isSome, after.onto (before.onto remaining)⟩

end Gazetteer.CommandLine
