import Gazetteer.Datasette.Exchange

/-!
What is sent for a query over a connection, and what the bytes that come back amount to.  The connection is
asked to be closed after the response, so a response without a length ends where the connection does.
-/

namespace Gazetteer.Datasette.Wire

def lineBreak : String := "\r\n"

/-- The request for a query from a server with a name. -/
def request (host target : String) : String :=
  lineBreak.intercalate ["GET " ++ target ++ " HTTP/1.0", "host: " ++ host, "accept: */*", "connection: close", "", ""]

/-- The empty line after the headers. -/
def headEnd : List UInt8 := [0x0D, 0x0A, 0x0D, 0x0A]

/-- The bytes before the first empty line and those after it. -/
def splitHead? : List UInt8 → Option (List UInt8 × List UInt8)
  | [] => none
  | b :: bs =>
    if headEnd.isPrefixOf (b :: bs) then some ([], bs.drop (headEnd.length - 1))
    else (splitHead? bs).map fun (head, body) => (b :: head, body)

/-- The lines of a head; each byte is taken for the character with its code. -/
def headLines (head : List UInt8) : List (List Char) :=
  ((head.map fun b => Char.ofNat b.toNat).splitOn '\n').map Text.trimChars

/-- The status in the first line. -/
def status? : List Char → Option Nat
  | line =>
    match line.splitOn ' ' with
    | _ :: code :: _ => if code.length = 3 && code.all Char.isDigit then some (Text.digitsValue code) else none
    | _ => none

def lengthName : String := "content-length"

/-- The length of the body, if a header gives it. -/
def length? (headers : List (List Char)) : Option Nat :=
  headers.findSome? fun header =>
    let (name, value) := Text.splitAtFirst ':' header
    let digits := Text.trimChars value
    if (String.ofList name).toLower = lengthName && !digits.isEmpty && digits.all Char.isDigit then
      some (Text.digitsValue digits)
    else none

/-- The delivery that the bytes of a closed connection make.  Without a head that can be read there is no response. -/
def delivery (bs : List UInt8) : Delivery :=
  match splitHead? bs with
  | none => .closed
  | some (head, body) =>
    match headLines head with
    | [] => .closed
    | first :: headers =>
      match status? first, length? headers with
      | none, _ => .closed
      | some status, none => .reply status body
      | some status, some length =>
        if !Http.hasContent status then .reply status []
        else if length ≤ body.length then .reply status (body.take length)
        else .cutOff

end Gazetteer.Datasette.Wire
