import Gazetteer.Sql.Literal
import Gazetteer.Text.DecimalDigit
import Gazetteer.Text.Numeral

/-!
Placeholders are `:p` and a number.  A text is cut into placeholders and other characters from left to
right, each placeholder with all the digits that follow; inlining puts a literal in the place of each
placeholder that has a value.
-/

namespace Gazetteer.Sql

/-- The placeholder of the value at an index. -/
def placeholder (index : Nat) : String := ":p" ++ toString index

/-- The name under which a value is sent. -/
def parameterName (index : Nat) : String := "p" ++ toString index

inductive Piece where
  | char (c : Char)
  | placeholder (digits : List Char)
  deriving DecidableEq, Repr

/-- The digits of the placeholder that a text starts with. -/
def leadingPlaceholder? : List Char → Option (List Char)
  | ':' :: 'p' :: cs =>
    match cs.takeWhile Text.isDecimalDigit with
    | [] => none
    | digits => some digits
  | _ => none

/-- The pieces of a text after so many characters that belong to the piece before. -/
def piecesAfter : Nat → List Char → List Piece
  | _, [] => []
  | skip + 1, _ :: cs => piecesAfter skip cs
  | 0, c :: cs =>
    match leadingPlaceholder? (c :: cs) with
    | some digits => .placeholder digits :: piecesAfter (digits.length + 1) cs
    | none => .char c :: piecesAfter 0 cs

def pieces (cs : List Char) : List Piece := piecesAfter 0 cs

def Piece.chars : Piece → List Char
  | .char c => [c]
  | .placeholder digits => ':' :: 'p' :: digits

/-- The greatest index that a placeholder can name. -/
def greatestIndex : Nat := 0xFFFFFFFFFFFFFFFF

/-- The index that digits name, if they are ASCII and the number is not too large. -/
def index? (digits : List Char) : Option Nat := (Text.readNatural greatestIndex digits).toOption

def Piece.inlined (values : List String) : Piece → List Char
  | .char c => [c]
  | .placeholder digits =>
    match (index? digits).bind (values[·]?) with
    | some value => literalChars value
    | none => (Piece.placeholder digits).chars

def inlineChars (values : List String) (cs : List Char) : List Char :=
  (pieces cs).flatMap (Piece.inlined values)

/-- The text with a literal for each placeholder that has a value. -/
def inline (sql : String) (values : List String) : String := .ofList (inlineChars values sql.toList)

end Gazetteer.Sql
