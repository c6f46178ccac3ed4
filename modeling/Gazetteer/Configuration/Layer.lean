import Gazetteer.Datasette.Endpoint

/-!
Layers of configuration.  What is set at the start gives some of the fields; a file gives some of them in its sections, each of
which it may leave out.  A file that is merged into others decides the fields it gives and leaves the others as they are.
-/

namespace Gazetteer.Configuration

/-- What is set at the start. -/
structure Layer where
  host : Option String := none
  port : Option Nat := none
  url : Option String := none
  database : Option String := none
  timeoutSeconds : Option Nat := none
  mode : Option Datasette.ParameterMode := none
  deriving DecidableEq, Repr

def Layer.onto (upper lower : Layer) : Layer where
  host := upper.host.or lower.host
  port := upper.port.or lower.port
  url := upper.url.or lower.url
  database := upper.database.or lower.database
  timeoutSeconds := upper.timeoutSeconds.or lower.timeoutSeconds
  mode := upper.mode.or lower.mode

structure ServerSection where
  host : Option String := none
  port : Option Nat := none
  deriving DecidableEq, Repr

structure DatasetteSection where
  url : Option String := none
  database : Option String := none
  timeoutSeconds : Option Nat := none
  mode : Option Datasette.ParameterMode := none
  maxAttempts : Option Nat := none
  deriving DecidableEq, Repr

def ServerSection.merge (current other : ServerSection) : ServerSection where
  host := other.host.or current.host
  port := other.port.or current.port

def DatasetteSection.merge (current other : DatasetteSection) : DatasetteSection where
  url := other.url.or current.url
  database := other.database.or current.database
  timeoutSeconds := other.timeoutSeconds.or current.timeoutSeconds
  mode := other.mode.or current.mode
  maxAttempts := other.maxAttempts.or current.maxAttempts

/-- A section counts as empty where it is missing, unless it is missing in both files. -/
def mergeSection {α : Type} (merge : α → α → α) (empty : α) (current : Option α) : Option α → Option α
  | none => current
  | some other => some (merge (current.getD empty) other)

/-- What a file says, or several that are merged. -/
structure Sections where
  server : Option ServerSection := none
  datasette : Option DatasetteSection := none
  deriving DecidableEq, Repr

def Sections.merge (current other : Sections) : Sections where
  server := mergeSection ServerSection.merge {} current.server other.server
  datasette := mergeSection DatasetteSection.merge {} current.datasette other.datasette

end Gazetteer.Configuration
