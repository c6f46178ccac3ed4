import Gazetteer.Url.Host

/-!
Addresses on the web, in parts and as text.  Every part holds characters that need no more escaping.
-/

namespace Gazetteer

namespace Url

inductive Path where
  /-- Segments, each with a slash before it. -/
  | segments (parts : List (List Char))
  /-- A text that is not cut into segments. -/
  | opaqueText (cs : List Char)
  deriving DecidableEq, Repr

def Path.chars : Path → List Char
  | .segments parts => parts.flatMap fun part => '/' :: part
  | .opaqueText cs => cs

structure Authority where
  username : List Char
  password : List Char
  host : Host
  /-- The port, unless it is the one that the scheme implies. -/
  port : Option Nat
  deriving DecidableEq, Repr

/-- The user and the password in front of a host. -/
def credentials (username password : List Char) : List Char :=
  if username.isEmpty && password.isEmpty then []
  else username ++ (if password.isEmpty then [] else ':' :: password) ++ ['@']

def Authority.chars (a : Authority) : List Char :=
  credentials a.username a.password ++ a.host.chars
    ++ (a.port.map fun port => ':' :: Nat.toDigits 10 port).getD []

end Url

open Url

structure Url where
  scheme : List Char
  authority : Option Authority
  path : Path
  query : Option (List Char)
  fragment : Option (List Char)
  deriving DecidableEq, Repr

namespace Url

/-- The part between a scheme and a path.  Without an authority a path must not start like one. -/
def authorityChars (u : Url) : List Char :=
  match u.authority with
  | some a => '/' :: '/' :: a.chars
  | none => if u.path.chars.take 2 = ['/', '/'] then ['/', '.'] else []

def optionalPart (mark : Char) (part : Option (List Char)) : List Char := (part.map (mark :: ·)).getD []

def chars (u : Url) : List Char :=
  u.scheme ++ ':' :: (u.authorityChars ++ u.path.chars ++ optionalPart '?' u.query ++ optionalPart '#' u.fragment)

def text (u : Url) : String := .ofList u.chars

/-- What a client asks a server for: the path and the query. -/
def target (u : Url) : String := .ofList (u.path.chars ++ optionalPart '?' u.query)

/-- The pairs in the query. -/
def pairs (u : Url) : List (String × String) := Text.Form.decodePairs (u.query.getD [])

/-- Adds pairs after those that the query has. -/
def addPairs (u : Url) (pairs : List (String × String)) : Url :=
  let before := (u.query.map fun query => if query.isEmpty then [] else query ++ ['&']).getD []
  { u with query := some (before ++ Text.Form.encodePairs pairs) }

end Url

end Gazetteer
