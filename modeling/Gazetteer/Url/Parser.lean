import Gazetteer.Text.Numeral
import Gazetteer.Url.Basic

/-!
Reading addresses on the web.  A text is cut at its first marks: a fragment, a query, a scheme, and then an
authority and a path; each part is escaped as its place demands.
-/

namespace Gazetteer.Url

/-! ### Escapes of the parts -/

def escapedInFragment (n : Nat) : Bool := isControl n || isOneOf " \"<>\x60" n

def escapedInQuery (n : Nat) : Bool := isControl n || isOneOf " \"#<>" n

/-- The web's schemes escape the apostrophe too. -/
def escapedInWebQuery (n : Nat) : Bool := escapedInQuery n || n = 39

def escapedInPath (n : Nat) : Bool := escapedInFragment n || isOneOf "#?\x7b\x7d" n

def escapedInUser (n : Nat) : Bool := escapedInPath n || isOneOf "/:;=@[\\]^|" n

/-! ### Schemes -/

inductive Kind where
  | web
  | file
  | other
  deriving DecidableEq, Repr

def kind (scheme : List Char) : Kind :=
  if ["http", "https", "ws", "wss", "ftp"].any (·.toList == scheme) then .web
  else if scheme = "file".toList then .file
  else .other

def impliedPort? (scheme : List Char) : Option Nat :=
  if scheme = "http".toList || scheme = "ws".toList then some 80
  else if scheme = "https".toList || scheme = "wss".toList then some 443
  else if scheme = "ftp".toList then some 21
  else none

def isSchemeChar (c : Char) : Bool := c.isAlphanum || c = '+' || c = '-' || c = '.'

/-- A scheme in lower case, and what follows its colon. -/
def splitScheme? (cs : List Char) : Option (List Char × List Char) :=
  let (name, rest) := Text.splitAtFirst ':' cs
  if cs.contains ':' && (name.head?.any Char.isAlpha) && name.all isSchemeChar then
    some (name.map Char.toLower, rest)
  else none

/-! ### Paths -/

/-- A segment that means the directory itself. -/
def isHere (segment : List Char) : Bool := [".", "%2e"].any (·.toList == segment.map Char.toLower)

/-- A segment that means the directory above. -/
def isAbove (segment : List Char) : Bool :=
  ["..", ".%2e", "%2e.", "%2e%2e"].any (·.toList == segment.map Char.toLower)

/-- Follows segments from a directory whose segments are given last first.  A path that ends with a segment
for a directory ends with a slash. -/
def resolveSegments : List (List Char) → List (List Char) → List (List Char)
  | stack, [] => stack.reverse
  | stack, [last] =>
    if isAbove last then ([] :: stack.drop 1).reverse
    else if isHere last then ([] :: stack).reverse
    else (last :: stack).reverse
  | stack, segment :: rest =>
    if isAbove segment then resolveSegments (stack.drop 1) rest
    else if isHere segment then resolveSegments stack rest
    else resolveSegments (segment :: stack) rest

def isSlash (kind : Kind) (c : Char) : Bool := c = '/' || (kind != .other && c = '\\')

/-- Backslashes are slashes under the web's schemes. -/
def withSlashes (kind : Kind) (cs : List Char) : List Char := cs.map fun c => if isSlash kind c then '/' else c

/-- The segments of a path without its first slash. -/
def segmentsOf (cs : List Char) : List (List Char) :=
  resolveSegments [] ((cs.splitOn '/').map (escapeWhere escapedInPath))

def dropSlash : List Char → List Char
  | '/' :: cs => cs
  | cs => cs

/-- Empty segments at the start of a file's path are dropped. -/
def filePath (cs : List Char) : Path :=
  match (segmentsOf (dropSlash cs)).dropWhile (·.isEmpty) with
  | [] => .segments [[]]
  | segments => .segments segments

/-! ### Authorities -/

/-- The text up to the last `@`, if there is one, and what follows it. -/
def splitUser? (cs : List Char) : Option (List Char) × List Char :=
  if cs.contains '@' then
    let host := (cs.reverse.takeWhile (· != '@')).reverse
    (some (cs.take (cs.length - host.length - 1)), host)
  else (none, cs)

/-- A host up to the first colon outside brackets, and what follows it. -/
def splitHost : (inBrackets : Bool) → List Char → List Char × List Char
  | _, [] => ([], [])
  | inBrackets, c :: cs =>
    if c = ':' && !inBrackets then ([], c :: cs)
    else
      let rest := splitHost (if c = '[' then true else if c = ']' then false else inBrackets) cs
      (c :: rest.1, rest.2)

def greatestPort : Nat := 0xFFFF

/-- The port after a host; an empty one and the one that the scheme implies are left out. -/
def readPort (scheme : List Char) : List Char → Except Fault (Option Nat)
  | [] => .ok none
  | _ :: digits =>
    let port := Text.digitsValue digits
    if !digits.all Char.isDigit || greatestPort < port then .error .port
    else .ok (if digits.isEmpty || impliedPort? scheme = some port then none else some port)

def readAuthority (kind : Kind) (scheme cs : List Char) : Except Fault Authority := do
  let (user, rest) := splitUser? cs
  if user = some [] && rest.isEmpty then throw .emptyHost
  let (username, password) := Text.splitAtFirst ':' (user.getD [])
  let username := escapeWhere escapedInUser username
  let password := escapeWhere escapedInUser password
  let (hostText, portText) := splitHost false rest
  if kind = .web && hostText.isEmpty then throw .emptyHost
  let host ← if kind = .web then webHost hostText else opaqueHost hostText
  if host.chars.isEmpty && (!portText.isEmpty || !(credentials username password).isEmpty) then throw .emptyHost
  let port ← readPort scheme portText
  return ⟨username, password, host, port⟩

/-! ### Whole texts -/

/-- The path after an authority; under the web's schemes it is never empty. -/
def pathAfter (kind : Kind) (cs : List Char) : Path :=
  if cs.isEmpty && kind = .other then .segments [] else .segments (segmentsOf (dropSlash cs))

/-- The host of a file; the machine itself is left out. -/
def fileAuthority (cs : List Char) : Except Fault Authority :=
  if cs.isEmpty then .ok ⟨[], [], .name [], none⟩
  else (webHost cs).map fun host => ⟨[], [], if host = .name "localhost".toList then .name [] else host, none⟩

def readFile (cs : List Char) : Except Fault (Option Authority × Path) :=
  match withSlashes .file cs with
  | '/' :: '/' :: rest =>
    (fileAuthority (rest.takeWhile (· != '/'))).map fun a => (some a, filePath (rest.dropWhile (· != '/')))
  | path => .ok (some ⟨[], [], .name [], none⟩, filePath path)

def readOther (scheme cs : List Char) : Except Fault (Option Authority × Path) :=
  match cs with
  | '/' :: '/' :: rest =>
    (readAuthority .other scheme (rest.takeWhile (· != '/'))).map fun a =>
      (some a, pathAfter .other (rest.dropWhile (· != '/')))
  | '/' :: rest => .ok (none, .segments (segmentsOf rest))
  | _ => .ok (none, .opaqueText (escapeWhere isControl cs))

/-- Any number of slashes may stand before an authority. -/
def readWeb (scheme cs : List Char) : Except Fault (Option Authority × Path) :=
  let rest := (withSlashes .web cs).dropWhile (· == '/')
  (readAuthority .web scheme (rest.takeWhile (· != '/'))).map fun a =>
    (some a, pathAfter .web (rest.dropWhile (· != '/')))

def readAfterScheme (scheme cs : List Char) : Except Fault (Option Authority × Path) :=
  match kind scheme with
  | .web => readWeb scheme cs
  | .file => readFile cs
  | .other => readOther scheme cs

/-- The part after a mark, if the mark is there. -/
def partAfter? (mark : Char) (cs : List Char) : Option (List Char) :=
  if cs.contains mark then some (Text.splitAtFirst mark cs).2 else none

/-- The text without tabs and line breaks, and without blanks and controls at its ends. -/
def cleanText (cs : List Char) : List Char :=
  let trimmed := ((cs.dropWhile (·.toNat ≤ 0x20)).reverse.dropWhile (·.toNat ≤ 0x20)).reverse
  trimmed.filter fun c => c != '\t' && c != '\n' && c != '\r'

def parse (s : String) : Except Fault Url :=
  let cs := cleanText s.toList
  match splitScheme? cs with
  | none => .error .noScheme
  | some (scheme, rest) =>
    let beforeFragment := (Text.splitAtFirst '#' rest).1
    let escapedQuery := if kind scheme = .other then escapedInQuery else escapedInWebQuery
    (readAfterScheme scheme (Text.splitAtFirst '?' beforeFragment).1).map fun (authority, path) =>
      { scheme, authority, path
        query := (partAfter? '?' beforeFragment).map (escapeWhere escapedQuery)
        fragment := (partAfter? '#' rest).map (escapeWhere escapedInFragment) }

end Gazetteer.Url
