import Gazetteer.Configuration.Layer
import Gazetteer.Json.Parts

/-!
Configuration files.  A file is a JSON object with a section for the server and one for the backend, each of
which may be missing or null.  Other fields of the file are read and then left aside under their names.
-/

namespace Gazetteer.Configuration

open Json

/-- A whole number up to a bound. -/
def naturalOfTree? (bound : Nat) : Tree → Option Nat
  | .number n =>
    match n.number? with
    | some (.integer value) => if 0 ≤ value && value ≤ bound then some value.toNat else none
    | _ => none
  | _ => none

/-- The name of a mode, alone or as the one key of an object with nothing under it. -/
def modeOfTree? : Tree → Option Datasette.ParameterMode
  | .string pieces => (pieceText? pieces).bind Datasette.ParameterMode.ofName?
  | .object [(key, .null)] => (pieceText? key).bind Datasette.ParameterMode.ofName?
  | _ => none

/-- A field that is missing or null is not given. -/
def given? {α : Type} (read? : Tree → Option α) : Option Tree → Option (Option α) :=
  partOr? none (Tree.nullable? read?)

/-- The fields of a section; where it is an array, none may be missing. -/
def sectionFields? (names : List String) : Tree → Option (List (Option Tree))
  | .array items => if items.length = names.length then some (items.map some) else none
  | t => t.parts? names

def serverOfTree? (t : Tree) : Option ServerSection :=
  match sectionFields? ["host", "port"] t with
  | some [host, port] => do
    let host ← given? Tree.text? host
    let port ← given? (naturalOfTree? 0xFFFF) port
    some { host, port }
  | _ => none

def datasetteOfTree? (t : Tree) : Option DatasetteSection :=
  match sectionFields? ["url", "database", "timeout_secs", "param_mode", "max_attempts"] t with
  | some [url, database, timeoutSeconds, mode, maxAttempts] => do
    let url ← given? Tree.text? url
    let database ← given? Tree.text? database
    let timeoutSeconds ← given? (naturalOfTree? 0xFFFFFFFFFFFFFFFF) timeoutSeconds
    let mode ← given? modeOfTree? mode
    let maxAttempts ← given? (naturalOfTree? 0xFFFFFFFF) maxAttempts
    some { url, database, timeoutSeconds, mode, maxAttempts }
  | _ => none

/-- What a file says. -/
structure Document where
  sections : Sections
  /-- The names of the fields that mean nothing, in the order in which they first stand in the file. -/
  unknown : List String
  deriving DecidableEq, Repr

def isSection (name : String) : Bool := name == "server" || name == "datasette"

/-- The names of fields that are no sections; each must have a value that can be read. -/
def unknownNames? : List (String × Tree) → Option (List String)
  | [] => some []
  | (name, t) :: rest =>
    if isSection name then unknownNames? rest
    else (t.value? (greatestDepth - 1)).bind fun _ => (unknownNames? rest).map (name :: ·)

def Document.ofTree? : Tree → Option Document
  | .object members => do
    let fields ← named? members
    let server ← (partNamed? fields "server").bind (given? serverOfTree?)
    let datasette ← (partNamed? fields "datasette").bind (given? datasetteOfTree?)
    let unknown ← unknownNames? fields
    some ⟨{ server, datasette }, unknown.eraseDups⟩
  | _ => none

def Document.ofText? (text : String) : Option Document := (tree? (Text.Utf8.bytes text)).bind Document.ofTree?

end Gazetteer.Configuration
