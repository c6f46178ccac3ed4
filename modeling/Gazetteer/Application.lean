import Gazetteer.Banner
import Gazetteer.CommandLine.Reading
import Gazetteer.Configuration.Load
import Gazetteer.Server
import Gazetteer.Variables.File

/-!
The program from its start to the point where the server listens, and what it prints on the way.
-/

namespace Gazetteer.Application

/-- What the program leaves behind: an exit code and what it printed. -/
structure Output where
  code : Nat
  printed : String := ""
  complaint : String := ""
  deriving DecidableEq, Repr

/-- The file of variables in the current directory or in the nearest directory above it that has one. -/
def variablesFile? (place : Place) : Option String :=
  (Path.ancestors place.directory).findSome? fun directory =>
    match place.content? (Path.join directory ".env") with
    | some (.file text) => some text
    | _ => none

def allVariables (place : Place) (environment : Variables) : Variables :=
  match variablesFile? place with
  | some text => Variables.File.read environment text
  | none => environment

def failure (printed reason : String) : Output := ⟨1, printed, "\nError: " ++ reason ++ "\n\n"⟩

/-- What is done about a command line that cannot be followed. -/
def refuse : CommandLine.Fault → Output
  | .helpWanted => { code := 0, printed := CommandLine.helpText ++ "\n" }
  | .versionWanted => { code := 0, printed := CommandLine.versionText ++ "\n" }
  | fault => { code := 2, complaint := fault.message }

def clientFailure : String := "Failed to initialize Datasette client"

/-- How far the program comes before it listens. -/
inductive Start where
  | ended (output : Output)
  | ready (configuration : Configuration) (client : Datasette.Client)

def start (place : Place) (environment : Variables) (arguments : List String) : Start :=
  match CommandLine.read (allVariables place environment) arguments with
  | .error fault => .ended (refuse fault)
  | .ok read =>
    match (Configuration.load place read.values).result with
    | .error fault => .ended (failure "" fault.message)
    | .ok configuration =>
      match Datasette.Client.ofSettings configuration.datasette with
      | .error _ => .ended (failure "" clientFailure)
      | .ok client => .ready configuration client

/-- What the program leaves behind if a server that listens is stopped by a signal. -/
def Start.output (network : Server.Network) : Start → Output
  | .ended output => output
  | .ready configuration _ =>
    let banner := Banner.text configuration
    match Server.listen network configuration.host configuration.port with
    | .error fault => failure banner fault.message
    | .ok _ => { code := 0, printed := banner }

end Gazetteer.Application
