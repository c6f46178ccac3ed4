import Gazetteer.Configuration.Layer
import Gazetteer.Net.Address

/-!
The configuration of the program: what the layers leave open has a default, and not every configuration can
be used.
-/

namespace Gazetteer

structure Configuration where
  host : String
  port : Nat
  datasette : Datasette.Settings
  deriving DecidableEq, Repr

namespace Configuration

/-- What is set at the start lies over what files say, and a default under both. -/
def resolve (l : Layer) (file : Sections) : Configuration :=
  let server := file.server.getD {}
  let datasette := file.datasette.getD {}
  { host := (l.host.or server.host).getD "127.0.0.1"
    port := (l.port.or server.port).getD 5390
    datasette :=
      { url := (l.url.or datasette.url).getD "http://127.0.0.1:8001"
        database := (l.database.or datasette.database).getD "entity"
        timeoutSeconds := (l.timeoutSeconds.or datasette.timeoutSeconds).getD 30
        mode := (l.mode.or datasette.mode).getD .bound
        maxAttempts := datasette.maxAttempts.getD 1 } }

/-- What makes a configuration unusable. -/
inductive Fault where
  | noHost
  | hostIsNoAddress (host : String)
  | noPort
  | noUrl
  | urlIsNotHttp (url : String)
  | noDatabase
  | noTime
  | noAttempt
  deriving DecidableEq, Repr

def Fault.reason : Fault → String
  | .noHost => "server.host must not be empty"
  | .hostIsNoAddress host => "server.host must be an IP address. Got: " ++ host
  | .noPort => "server.port must be greater than 0"
  | .noUrl => "datasette.url must not be empty"
  | .urlIsNotHttp url => "datasette.url must start with http:// or https://. Got: " ++ url
  | .noDatabase => "datasette.database must not be empty"
  | .noTime => "datasette.timeout_secs must be greater than 0"
  | .noAttempt => "datasette.max_attempts must be greater than 0"

def Fault.message (fault : Fault) : String := "Configuration error: " ++ fault.reason

def isAddress (host : String) : Bool := (Net.Address.ofChars? host.toList).isSome

def isHttp (url : String) : Bool :=
  "http://".toList.isPrefixOf url.toList || "https://".toList.isPrefixOf url.toList

/-- What can be wrong, in the order in which it is reported, and whether it is. -/
def checks (c : Configuration) : List (Bool × Fault) :=
  [(c.host.isEmpty, .noHost),
    (!isAddress c.host, .hostIsNoAddress c.host),
    (c.port == 0, .noPort),
    (c.datasette.url.isEmpty, .noUrl),
    (!isHttp c.datasette.url, .urlIsNotHttp c.datasette.url),
    (c.datasette.database.isEmpty, .noDatabase),
    (c.datasette.timeoutSeconds == 0, .noTime),
    (c.datasette.maxAttempts == 0, .noAttempt)]

/-- The first thing that is wrong. -/
def fault? (c : Configuration) : Option Fault := (c.checks.find? (·.1)).map (·.2)

end Configuration

end Gazetteer
