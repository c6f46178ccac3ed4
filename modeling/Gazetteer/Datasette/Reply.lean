import Gazetteer.Datasette.Endpoint
import Gazetteer.Http.Status
import Gazetteer.Json.Parts

/-!
Reading what the server replies.  A body that says that the query failed is an error under any status; under
a status of success any other body must be a table.
-/

namespace Gazetteer.Datasette

open Json

/-- What a body says about a failure. -/
structure FailureNote where
  ok : Option Bool
  error : Option String
  deriving DecidableEq, Repr

def FailureNote.ofTree? (t : Tree) : Option FailureNote :=
  match t.parts? ["ok", "error"] with
  | some [ok, error] =>
    (partOr? none (Tree.nullable? Tree.bool?) ok).bind fun ok =>
      (partOr? none (Tree.nullable? Tree.text?) error).map fun error => ⟨ok, error⟩
  | _ => none

/-- A cell lies inside a body, its rows and a row. -/
def cellDepth : Nat := greatestDepth - 3

def tableOfTree? (t : Tree) : Option Table :=
  match t.parts? ["columns", "rows"] with
  | some [columns, rows] =>
    (partOr? [] (Tree.list? Tree.text?) columns).bind fun columns =>
      (partOr? [] (Tree.list? (Tree.list? (Tree.value? cellDepth))) rows).map fun rows => ⟨columns, rows⟩
  | _ => none

/-- What a body of a failed request says: its error, or its text unless that is blank. -/
def failureText? (body : List UInt8) : Option String :=
  match ((tree? body).bind FailureNote.ofTree?).bind (·.error) with
  | some message => some message
  | none =>
    let text := Text.trim (Text.Utf8.decodeLossy body)
    if text.isEmpty then none else some text

def readReply (status : Nat) (body : List UInt8) : Except QueryError Table :=
  if !Http.isSuccess status then
    .error (.remote backendName status ((failureText? body).getD (Http.statusText status)))
  else
    match (tree? body).bind FailureNote.ofTree? with
    | some ⟨some false, error⟩ => .error (.remote backendName status (error.getD "query failed"))
    | _ =>
      match (tree? body).bind tableOfTree? with
      | some table => .ok table
      | none => .error (.malformed backendName .noTable)

end Gazetteer.Datasette
