/-!
Paths.  A path is a text with names between slashes.  Joining a path to another one that starts at the root
gives the other one alone, and nothing is done about dots or repeated slashes.
-/

namespace Gazetteer.Path

abbrev Name := List Char

def isAbsolute (path : String) : Bool := path.toList.head? == some '/'

/-- A slash stands between the two, unless the first is empty or ends with one. -/
def join (base path : String) : String :=
  if isAbsolute path then path
  else
    match base.toList.getLast? with
    | none | some '/' => base ++ path
    | some _ => base ++ "/" ++ path

def parent : Name := ['.', '.']

/-- Empty names and single dots lead nowhere. -/
def stays (name : Name) : Bool := name.isEmpty || name == ['.']

/-- The names that lead somewhere. -/
def names (path : String) : List Name := (path.toList.splitOn '/').filter fun name => !stays name

/-- The absolute path with the given names. -/
def ofNames (names : List Name) : String :=
  if names.isEmpty then "/" else .ofList (names.flatMap fun name => '/' :: name)

/-- The directory itself and those above it, up to the root. -/
def ancestors (directory : String) : List String :=
  let names := names directory
  (List.range (names.length + 1)).map fun up => ofNames (names.take (names.length - up))

/-- The name of the file that a path leads to, unless it leads to a parent. -/
def fileName? (path : String) : Option Name :=
  (names path).getLast?.filter (· != parent)

/-- What follows the last dot of a file name that does not begin with that dot. -/
def extension? (path : String) : Option (List Char) :=
  (fileName? path).bind fun name =>
    let tail := name.reverse.takeWhile (· != '.')
    if tail.length + 1 < name.length then some tail.reverse else none

/-- Whether the extension is that of a JSON file, in letters of either case. -/
def isJson (path : String) : Bool :=
  match extension? path with
  | some extension => extension.map Char.toLower == ['j', 's', 'o', 'n']
  | none => false

end Gazetteer.Path
