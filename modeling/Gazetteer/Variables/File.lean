import Gazetteer.Text.Letter
import Gazetteer.Variables.Basic

/-!
Files of environment variables.  A line gives a name and a value; the value may hold quoted parts, which may
go on over lines, escaped characters and the values of variables known so far.  Variables that are set keep
their values, and the first line that cannot be read ends the file.
-/

namespace Gazetteer.Variables.File

open Text

/-! ### Lines -/

/-- Lines with the breaks that end them. -/
def breakLines : List Char → List (List Char)
  | [] => []
  | c :: cs =>
    if c = '\n' then [c] :: breakLines cs
    else
      match breakLines cs with
      | [] => [[c]]
      | line :: lines => (c :: line) :: lines

/-- Where the search for the end of a line stands. -/
inductive Quoting where
  | outside
  /-- After a blank, where a comment may begin. -/
  | blank
  | escaped
  | double
  | doubleEscaped
  | single
  | singleEscaped
  deriving DecidableEq, Repr

/-- What a character that stands outside of quotes begins. -/
def Quoting.opened (c : Char) : Quoting :=
  if c = '\\' then .escaped else if c = '"' then .double else if c = '\'' then .single else .outside

def Quoting.next : Quoting → Char → Quoting
  | .outside, c => if isBlank c && c != '\n' && c != '\r' then .blank else opened c
  | .blank, c => opened c
  | .escaped, _ => .outside
  | .double, c => if c = '\\' then .doubleEscaped else if c = '"' then .outside else .double
  | .doubleEscaped, _ => .double
  | .single, c => if c = '\\' then .singleEscaped else if c = '\'' then .outside else .single
  | .singleEscaped, _ => .single

/-- The part of a line before a comment, and where its end stands; `none` if a comment was found. -/
def scanLine : Quoting → List Char → List Char × Option Quoting
  | q, [] => ([], some q)
  | q, c :: cs =>
    if q = .blank && c = '#' then ([], none)
    else
      let (kept, last) := scanLine (q.next c) cs
      (c :: kept, last)

/-- The line without its break. -/
def dropBreak (line : List Char) : List Char :=
  match line.reverse with
  | '\n' :: '\r' :: rest => rest.reverse
  | '\n' :: rest => rest.reverse
  | _ => line

/-- Lines joined where quotes stay open; the last is missing if the file ends before it does. -/
def logicalLines : Quoting → List Char → List (List Char) → List (Option (List Char))
  | q, _, [] => if q = .outside then [] else [none]
  | q, start, line :: rest =>
    let whole := start ++ line
    if (dropBlanks whole).head? = some '#' then some [] :: logicalLines .outside [] rest
    else
      match scanLine q line with
      | (kept, none) => some (start ++ kept) :: logicalLines .outside [] rest
      | (_, some .outside) => some (dropBreak whole) :: logicalLines .outside [] rest
      | (_, some q) => logicalLines q whole rest

/-! ### Values -/

/-- Where the reading of a value stands; `quoted` tells whether a double quote is open. -/
inductive Mode where
  | text (quoted : Bool)
  | single
  | escape (quoted : Bool)
  /-- After a dollar sign, with the name so far. -/
  | name (quoted : Bool) (letters : List Char)
  /-- The same in braces. -/
  | braced (quoted : Bool) (letters : List Char)
  /-- After the value. -/
  | after
  | comment
  deriving DecidableEq, Repr

def escapable : List Char := ['\\', '\'', '"', '$', ' ']

def substitute (known : Variables) (letters : List Char) : List Char :=
  ((known.get? (.ofList letters)).map String.toList).getD []

def textStep (quoted : Bool) (c : Char) : Mode × List Char :=
  if c = '$' then (.name quoted [], [])
  else if c = '\\' then (.escape quoted, [])
  else if c = '"' then (.text (!quoted), [])
  else if quoted then (.text true, [c])
  else if c = '\'' then (.single, [])
  else if c = ' ' || c = '\t' then (.after, [])
  else (.text false, [c])

/-- What a character does and adds to the value.  One that ends a name without braces stands for itself. -/
def step (known : Variables) (mode : Mode) (c : Char) : Option (Mode × List Char) :=
  match mode with
  | .text quoted => some (textStep quoted c)
  | .single => some (if c = '\'' then (.text false, []) else (.single, [c]))
  | .escape quoted =>
    if escapable.contains c then some (.text quoted, [c])
    else if c = 'n' then some (.text quoted, ['\n'])
    else none
  | .name quoted letters =>
    if isLetterOrDigit c then some (.name quoted (letters ++ [c]), [])
    else if c = '\x7b' && letters.isEmpty then some (.braced quoted [], [])
    else if c = '$' then some (.name quoted [], substitute known letters)
    else some (.text quoted, substitute known letters ++ [c])
  | .braced quoted letters =>
    if c = '\x7d' then some (.text quoted, substitute known letters)
    else some (.braced quoted (letters ++ [c]), [])
  | .after => if c = ' ' || c = '\t' then some (.after, []) else if c = '#' then some (.comment, []) else none
  | .comment => some (.comment, [])

/-- What the end of the value adds to it. -/
def finish (known : Variables) : Mode → Option (List Char)
  | .text quoted | .escape quoted => if quoted then none else some []
  | .name quoted letters => if quoted then none else some (substitute known letters)
  | .single | .braced _ _ => none
  | .after | .comment => some []

def value? (known : Variables) : Mode → List Char → Option (List Char)
  | mode, [] => finish known mode
  | mode, c :: cs =>
    (step known mode c).bind fun (next, added) => (value? known next cs).map (added ++ ·)

/-! ### Definitions -/

def isKeyStart (c : Char) : Bool := c.isAlpha || c = '_'

def isKeyChar (c : Char) : Bool := c.isAlphanum || c = '_' || c = '.'

def key? (cs : List Char) : Option (List Char × List Char) :=
  match cs with
  | c :: _ => if isKeyStart c then some (cs.takeWhile isKeyChar, dropBlanks (cs.dropWhile isKeyChar)) else none
  | [] => none

def exportWord : List Char := ['e', 'x', 'p', 'o', 'r', 't']

/-- A name and what follows its equals sign.  The word `export` may stand before the name. -/
def definition? (cs : List Char) : Option (List Char × List Char) :=
  (key? cs).bind fun
    | (key, '=' :: rest) => some (key, rest)
    | (key, rest) =>
      if key = exportWord then
        match key? rest with
        | some (key, '=' :: rest) => some (key, rest)
        | _ => none
      else none

def isRemark (cs : List Char) : Bool := cs.isEmpty || cs.head? == some '#'

/-- The variables after a line that defines one or none. -/
def readLine? (known : Variables) (line : List Char) : Option Variables :=
  let line := trimChars line
  if isRemark line then some known
  else
    (definition? line).bind fun (key, rest) =>
      let rest := dropBlanks rest
      (if isRemark rest then some [] else value? known (.text false) rest).map fun value =>
        let name := String.ofList key
        if (known.get? name).isSome then known else known.add name (.ofList value)

def readLines (known : Variables) : List (Option (List Char)) → Variables
  | some line :: rest =>
    match readLine? known line with
    | some known => readLines known rest
    | none => known
  | _ => known

/-- A mark of the byte order at the beginning of a file does not count. -/
def dropMark : List Char → List Char
  | '\uFEFF' :: cs => cs
  | cs => cs

/-- The variables with those of a file. -/
def read (known : Variables) (text : String) : Variables :=
  readLines known (logicalLines .outside [] (breakLines (dropMark text.toList)))

end Gazetteer.Variables.File
