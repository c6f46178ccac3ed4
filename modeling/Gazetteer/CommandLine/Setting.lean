import Gazetteer.Configuration.Layer
import Gazetteer.Text.LowerCase
import Gazetteer.Text.Numeral

/-!
What can be set when the program is started, on the command line or by an environment variable.
-/

namespace Gazetteer.CommandLine

inductive Setting where
  | host
  | port
  | config
  | url
  | database
  | timeout
  | mode
  deriving DecidableEq, Repr

namespace Setting

def all : List Setting := [.host, .port, .config, .url, .database, .timeout, .mode]

def long : Setting → String
  | .host => "host"
  | .port => "port"
  | .config => "config"
  | .url => "datasette-url"
  | .database => "database"
  | .timeout => "timeout-secs"
  | .mode => "param-mode"

def short? : Setting → Option Char
  | .host => some 'H'
  | .port => some 'p'
  | .config => some 'c'
  | _ => none

def environmentName : Setting → String
  | .host => "ENTITY_SEARCH_HOST"
  | .port => "ENTITY_SEARCH_PORT"
  | .config => "ENTITY_SEARCH_CONFIG"
  | .url => "ENTITY_SEARCH_DATASETTE_URL"
  | .database => "ENTITY_SEARCH_DATASETTE_DATABASE"
  | .timeout => "ENTITY_SEARCH_DATASETTE_TIMEOUT_SECS"
  | .mode => "ENTITY_SEARCH_DATASETTE_PARAM_MODE"

def ofLong? (name : String) : Option Setting := all.find? (·.long == name)

def ofShort? (c : Char) : Option Setting := all.find? (·.short? == some c)

/-- What stands for the value in messages: the name in capitals. -/
def valueName (s : Setting) : String :=
  .ofList (s.long.toList.map fun c => if c = '-' then '_' else c.toUpper)

/-- The setting as messages show it. -/
def shown (s : Setting) : String := "--" ++ s.long ++ " <" ++ s.valueName ++ ">"

end Setting

/-- What is wrong with a value. -/
inductive ValueFault where
  | empty
  | numeral (error : Text.NumeralError)
  | range (value : Int) (greatest : Nat)
  | mode (value : String)
  deriving DecidableEq, Repr

def ValueFault.message : ValueFault → String
  | .empty => "a value is required"
  | .numeral error => error.message
  | .range value greatest => toString value ++ " is not in 0..=" ++ toString greatest
  | .mode value => "Invalid parameter mode '" ++ value ++ "'. Valid options: bound, inline"

/-- The settings that have values. -/
structure Values where
  config : Option String := none
  layer : Configuration.Layer := {}
  deriving DecidableEq, Repr

namespace Values

def onto (upper lower : Values) : Values where
  config := upper.config.or lower.config
  layer := upper.layer.onto lower.layer

def greatestPort : Nat := 0xFFFF

def readPort (value : String) : Except ValueFault Nat :=
  match Text.readInteger 0x8000000000000000 value.toList with
  | .error e => .error (.numeral e)
  | .ok n => if 0 ≤ n && n ≤ greatestPort then .ok n.toNat else .error (.range n greatestPort)

def readTimeout (value : String) : Except ValueFault Nat :=
  (Text.readNatural 0xFFFFFFFFFFFFFFFF value.toList).mapError .numeral

/-- Modes are named in letters of either case. -/
def readMode (value : String) : Except ValueFault Datasette.ParameterMode :=
  match Datasette.ParameterMode.ofName? (.ofList (value.toList.map Text.lower)) with
  | some mode => .ok mode
  | none => .error (.mode value)

def set (v : Values) (value : String) : Setting → Except ValueFault Values
  | .host => .ok { v with layer := { v.layer with host := some value } }
  | .port => (readPort value).map fun n => { v with layer := { v.layer with port := some n } }
  | .config => if value.isEmpty then .error .empty else .ok { v with config := some value }
  | .url => .ok { v with layer := { v.layer with url := some value } }
  | .database => .ok { v with layer := { v.layer with database := some value } }
  | .timeout => (readTimeout value).map fun n => { v with layer := { v.layer with timeoutSeconds := some n } }
  | .mode => (readMode value).map fun m => { v with layer := { v.layer with mode := some m } }

end Values

end Gazetteer.CommandLine
