import Gazetteer.About
import Gazetteer.CommandLine.Setting
import Gazetteer.Text.Similarity

/-!
What can end the reading of a command line, and what the program says then.
-/

namespace Gazetteer.CommandLine

/-- Where arguments stand: before the command, or after it. -/
inductive Level where
  | root
  | start
  deriving DecidableEq, Repr

inductive Fault where
  /-- There is no such long option.  With it come the settings read before it. -/
  | noOption (level : Level) (name : String) (given : List Setting)
  /-- Another argument that has no meaning where it stands. -/
  | unexpected (level : Level) (argument : String)
  /-- A command that follows the mark that ends the options. -/
  | lateCommand (command : String)
  | noCommand (word : String)
  /-- Help is wanted on a command that there is not. -/
  | noHelpOn (level : Level) (word : String)
  | noValue (setting : Setting)
  | badValue (setting : Setting) (value : String) (fault : ValueFault)
  | repeated (level : Level) (setting : Setting)
  /-- A flag has a value. -/
  | flagValue (level : Level) (flag value : String) (given : List Setting)
  | helpWanted
  | versionWanted
  deriving DecidableEq, Repr

def startName : String := "start"

def helpName : String := "help"

def versionName : String := "version"

def commands : List String := [startName, helpName]

/-- The long flags. -/
def Level.flags : Level → List String
  | .root => [helpName, versionName]
  | .start => [helpName]

def Level.program : Level → String
  | .root => programName
  | .start => programName ++ " " ++ startName

/-- How the program is called; an option that was given stands for all that can be. -/
def usage (level : Level) (options : List String) : String :=
  let rest :=
    match options, level with
    | [], .root => " [OPTIONS] [COMMAND]"
    | [], .start => " [OPTIONS]"
    | options, _ => String.join (options.map (" " ++ ·))
  "Usage: " ++ level.program ++ rest

def quoted (s : String) : String := "'" ++ s ++ "'"

/-- The option that a name is likely meant for. -/
def similarOption? (level : Level) (name : String) : Option String :=
  (Text.similar name (Setting.all.map (·.long) ++ level.flags)).getLast?

/-- An option as it stands in a usage line. -/
def shownOption (name : String) : String :=
  match Setting.ofLong? name with
  | some setting => setting.shown
  | none => "--" ++ name

namespace Fault

def report : Fault → String
  | .noOption _ name _ => "unexpected argument " ++ quoted ("--" ++ name) ++ " found"
  | .unexpected _ argument | .lateCommand argument => "unexpected argument " ++ quoted argument ++ " found"
  | .noCommand word | .noHelpOn _ word => "unrecognized subcommand " ++ quoted word
  | .noValue setting | .badValue setting _ .empty =>
    "a value is required for " ++ quoted setting.shown ++ " but none was supplied"
  | .badValue setting value fault =>
    "invalid value " ++ quoted value ++ " for " ++ quoted setting.shown ++ ": " ++ fault.message
  | .repeated _ setting => "the argument " ++ quoted setting.shown ++ " cannot be used multiple times"
  | .flagValue _ flag value _ =>
    "unexpected value " ++ quoted value ++ " for " ++ quoted flag ++ " found; no more were expected"
  | .helpWanted => "help"
  | .versionWanted => "version"

def tip? : Fault → Option String
  | .noOption level name _ =>
    (similarOption? level name).map fun other => "a similar argument exists: " ++ quoted ("--" ++ other)
  | .noCommand word =>
    match Text.similar word commands with
    | [] => none
    | [other] => some ("a similar subcommand exists: " ++ quoted other)
    | others => some ("some similar subcommands exist: " ++ ", ".intercalate (others.map quoted))
  | .lateCommand command =>
    some ("subcommand " ++ quoted command ++ " exists; to use it, remove the '--' before it")
  | _ => none

def usage? : Fault → Option String
  | .noOption level name given =>
    let similar := ((similarOption? level name).map shownOption).toList
    some (usage level (given.map (·.shown) ++ similar).eraseDups)
  | .flagValue level _ _ given => some (usage level (given.map (·.shown)))
  | .unexpected level _ | .noHelpOn level _ | .repeated level _ => some (usage level [])
  | .lateCommand _ | .noCommand _ => some (usage .root [])
  | _ => none

/-- The parts of the message, with an empty line between each two. -/
def paragraphs (f : Fault) : List String :=
  ["error: " ++ f.report] ++ (f.tip?.map ("  tip: " ++ ·)).toList ++ f.usage?.toList
    ++ ["For more information, try '--help'."]

def message (f : Fault) : String := "\n\n".intercalate f.paragraphs ++ "\n"

end Fault

def versionText : String := programName ++ " " ++ version

/-- What is printed when help is wanted. -/
def helpText : String :=
  "\n".intercalate
    (["Entity search API over Datasette", "", usage .root [], "", "Options:"]
      ++ Setting.all.map fun s => "  " ++ s.shown ++ " [env: " ++ s.environmentName ++ "]")

end Gazetteer.CommandLine
