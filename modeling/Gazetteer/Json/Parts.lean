import Gazetteer.Json.Reader

/-!
Reading structures from trees.  The parts of a structure are the members of an object under their names,
where other members are passed over, or the items of an array in their order.
-/

namespace Gazetteer.Json

/-- The members with the texts of their keys, if every key is a text. -/
def named? (members : List (List Piece × Tree)) : Option (List (String × Tree)) :=
  members.mapM fun member => (pieceText? member.1).map (·, member.2)

/-- The part with a name, which may be missing but not stand twice. -/
def partNamed? (named : List (String × Tree)) (name : String) : Option (Option Tree) :=
  match named.filter (·.1 == name) with
  | [] => some none
  | [found] => some (some found.2)
  | _ => none

/-- The trees of the parts with the given names.  No named part may stand twice and no item be left over. -/
def Tree.parts? (names : List String) : Tree → Option (List (Option Tree))
  | .object members => (named? members).bind fun named => names.mapM (partNamed? named)
  | .array items =>
    if items.length ≤ names.length then
      some (items.map some ++ List.replicate (names.length - items.length) none)
    else none
  | _ => none

def Tree.text? : Tree → Option String
  | .string pieces => pieceText? pieces
  | _ => none

def Tree.bool? : Tree → Option Bool
  | .bool b => some b
  | _ => none

/-- A value that may be null. -/
def Tree.nullable? {α : Type} (read? : Tree → Option α) : Tree → Option (Option α)
  | .null => some none
  | t => (read? t).map some

def Tree.list? {α : Type} (read? : Tree → Option α) : Tree → Option (List α)
  | .array items => items.mapM read?
  | _ => none

/-- A part that has a default. -/
def partOr? {α : Type} (default : α) (read? : Tree → Option α) : Option Tree → Option α
  | none => some default
  | some t => read? t

end Gazetteer.Json
