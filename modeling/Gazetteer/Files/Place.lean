import Gazetteer.Files.Tree
import Gazetteer.Text.Blank

/-!
The place where the program runs: a home directory, a current directory and files.
-/

namespace Gazetteer

structure Place where
  home? : Option String
  /-- The current directory, as an absolute path. -/
  directory : String
  /-- What stands at an absolute path. -/
  content? : String → Option FileEntry

namespace Place

/-- A path as seen from the current directory. -/
def absolute (place : Place) (path : String) : String := Path.join place.directory path

/-- A tilde, alone or in front of a slash, stands for the home directory. -/
def unfoldHome (place : Place) (path : String) : String :=
  match place.home?, path.toList with
  | some home, ['~'] => home
  | some home, '~' :: '/' :: rest => Path.join home (.ofList rest)
  | _, _ => path

/-- The path meant by a text: blanks around it do not count, and an empty one is the current directory. -/
def expand (place : Place) (text : String) : String :=
  let path := Text.trim text
  if path.isEmpty then place.directory else place.absolute (place.unfoldHome path)

/-- What stands at a path. -/
def find? (place : Place) (path : String) : Option FileEntry := place.content? (place.absolute path)

end Place

end Gazetteer
