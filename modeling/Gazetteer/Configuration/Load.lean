import Gazetteer.CommandLine.Setting
import Gazetteer.Configuration.Basic
import Gazetteer.Configuration.File
import Gazetteer.Files.Place

/-!
Loading the configuration.  Over the defaults lies the file in the home directory, over it the file that is
named or else the one in the current directory, and over that what was set at the start.
-/

namespace Gazetteer.Configuration

inductive LoadFault where
  | noFile (path : String)
  | unreadable (path : String)
  | notParsed (path : String)
  | unusable (fault : Fault)
  deriving DecidableEq, Repr

def LoadFault.message : LoadFault → String
  | .noFile path => "Config file not found: " ++ path
  | .unreadable path => "Failed to read config file: " ++ path
  | .notParsed path => "Failed to parse config file: " ++ path
  | .unusable fault => fault.message

inductive Warning where
  | notNamedJson (path : String)
  | unknownFields (names : List String)
  deriving DecidableEq, Repr

def Warning.message : Warning → String
  | .notNamedJson _ => "Config file has no .json extension, parsing as JSON"
  | .unknownFields _ => "Unknown fields in config file (possible typos)"

/-- A file to be read. -/
structure Source where
  path : String
  /-- Whether it was asked for by name; such a file must exist. -/
  named : Bool
  deriving DecidableEq, Repr

def fileName : String := "entity-search.json"

/-- The file in the home directory. -/
def profilePath (home : String) : String := Path.join (Path.join home ".entity-search") fileName

def existing (place : Place) (path : String) : List Source :=
  if (place.find? path).isSome then [⟨path, false⟩] else []

def profileSources (place : Place) : List Source :=
  (place.home?.map fun home => existing place (profilePath home)).getD []

def overlaySources (place : Place) : Option String → List Source
  | some path => [⟨place.expand path, true⟩]
  | none => existing place fileName

/-- The files to be read, the lowest layer first. -/
def sources (place : Place) (named : Option String) : List Source := profileSources place ++ overlaySources place named

def readDocument (place : Place) (path : String) : Except LoadFault Document :=
  match place.find? path with
  | some (.file text) =>
    match Document.ofText? text with
    | some document => .ok document
    | none => .error (.notParsed path)
  | _ => .error (.unreadable path)

/-- What is known of a file before it is read. -/
def Source.check (place : Place) (s : Source) : Except LoadFault (List Warning) :=
  if !s.named then .ok []
  else if (place.find? s.path).isNone then .error (.noFile s.path)
  else .ok (if Path.isJson s.path then [] else [.notNamedJson s.path])

def Document.warnings (d : Document) : List Warning := if d.unknown.isEmpty then [] else [.unknownFields d.unknown]

/-- A result and the warnings on the way to it. -/
structure Loaded (α : Type) where
  result : Except LoadFault α
  warnings : List Warning

def Source.load (place : Place) (s : Source) : Loaded Sections :=
  match s.check place with
  | .error e => ⟨.error e, []⟩
  | .ok warnings =>
    match readDocument place s.path with
    | .error e => ⟨.error e, warnings⟩
    | .ok document => ⟨.ok document.sections, warnings ++ document.warnings⟩

/-- Files merged one after the other, up to the first that cannot be read. -/
def loadOnto (place : Place) (current : Sections) : List Source → Loaded Sections
  | [] => ⟨.ok current, []⟩
  | s :: rest =>
    let first := s.load place
    match first.result with
    | .error e => ⟨.error e, first.warnings⟩
    | .ok said =>
      let others := loadOnto place (current.merge said) rest
      ⟨others.result, first.warnings ++ others.warnings⟩

/-- A configuration, if it can be used. -/
def checked (c : Configuration) : Except LoadFault Configuration :=
  match c.fault? with
  | some fault => .error (.unusable fault)
  | none => .ok c

def load (place : Place) (values : CommandLine.Values) : Loaded Configuration :=
  let files := loadOnto place {} (sources place values.config)
  ⟨files.result.bind fun file => checked (resolve values.layer file), files.warnings⟩

end Gazetteer.Configuration
