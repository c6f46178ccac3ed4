import Gazetteer.Filter.Basic
import Gazetteer.Text.Numeral
import Gazetteer.Text.Percent

/-!
Reading parameters from the pairs of a query.  Pairs are grouped by key, in the order in which the keys
first appear, and the first group that cannot be read is the error.
-/

namespace Gazetteer.Http

open Gazetteer.Filter

inductive ParameterFault where
  /-- A key for one value has several. -/
  | repeated
  | numeral (error : Text.NumeralError)
  | unknownChoice (given : String) (choices : List String)
  deriving DecidableEq, Repr

def quoted (name : String) : String := "\x60" ++ name ++ "\x60"

def ParameterFault.message : ParameterFault → String
  | .repeated => "unsupported value"
  | .numeral error => error.message
  | .unknownChoice given choices =>
    "unknown variant " ++ quoted given ++ ", expected one of " ++ ", ".intercalate (choices.map quoted)

structure ParameterError where
  key : String
  fault : ParameterFault
  deriving DecidableEq, Repr

/-- The values of each key. -/
abbrev Groups := List (String × List String)

def addToGroup (key value : String) : Groups → Groups
  | [] => [(key, [value])]
  | (k, values) :: rest =>
    if k = key then (k, values ++ [value]) :: rest else (k, values) :: addToGroup key value rest

def groups (pairs : List (String × String)) : Groups :=
  pairs.foldl (fun groups pair => addToGroup pair.1 pair.2 groups) []

/-- The one value of a key. -/
def single (values : List String) : Except ParameterFault String :=
  match values with
  | [value] => .ok value
  | _ => .error .repeated

/-- The one value of a key that may be empty, which counts as absent. -/
def optional (values : List String) : Except ParameterFault (Option String) :=
  (single values).map fun value => if value.isEmpty then none else some value

def optionalChoice {α : Type} (ofName? : String → Option α) (names : List String) (values : List String) :
    Except ParameterFault (Option α) :=
  match optional values with
  | .error fault => .error fault
  | .ok none => .ok none
  | .ok (some given) =>
    match ofName? given with
    | some choice => .ok (some choice)
    | none => .error (.unknownChoice given names)

/-- The greatest limit that can be read. -/
def greatestReadableLimit : Nat := 0xFFFFFFFF

def readLimit (values : List String) : Except ParameterFault Nat :=
  (single values).bind fun value =>
    (Text.readNatural greatestReadableLimit value.toList).mapError .numeral

/-- The filters with the values of one key. -/
def setKey (f : Filters) (values : List String) : Key → Except ParameterFault Filters
  | .list key => .ok (f.setList values key)
  | .text key => (optional values).map fun value => f.setText value key
  | .lifecycle =>
    (optionalChoice Lifecycle.ofName? Lifecycle.names values).map fun lifecycle => { f with lifecycle }
  | .dateMatch column =>
    (optionalChoice DateMatch.ofName? DateMatch.names values).map fun matching => f.setDateMatch matching column
  | .relation => (optionalChoice Relation.ofName? Relation.names values).map fun relation => { f with relation }
  | .limit => (readLimit values).map fun limit => { f with limit }

/-- Keys that are not known are passed over. -/
def setGroup (f : Filters) (group : String × List String) : Except ParameterError Filters :=
  match Key.ofName? group.1 with
  | none => .ok f
  | some key => (setKey f group.2 key).mapError (ParameterError.mk group.1)

def readFilters (query : List Char) : Except ParameterError Filters :=
  (groups (Text.Form.decodePairs query)).foldlM setGroup {}

def datasetKey : String := "dataset"

/-- The dataset that counts are restricted to. -/
def readDataset (query : List Char) : Except ParameterError (Option String) :=
  match (groups (Text.Form.decodePairs query)).find? (·.1 == datasetKey) with
  | none => .ok none
  | some group => (optional group.2).mapError (ParameterError.mk datasetKey)

end Gazetteer.Http
