import Gazetteer.Text.Hex
import Gazetteer.Text.Utf8

/-!
The grammar of JSON.  `lex` cuts bytes into tokens, one byte at a time, and `build` stacks the tokens into
a tree.  The tree holds numbers and strings as they were spelled: whether a number is in range, an escape
stands for a character or a tree is too deep is asked where a value is read from it.
-/

namespace Gazetteer.Json

/-- The spelling of a number. -/
structure Spelling where
  negative : Bool
  whole : List Nat
  fraction : Option (List Nat)
  /-- The sign of the exponent, true for a minus, and its digits. -/
  exponent : Option (Bool × List Nat)
  deriving DecidableEq, Repr

/-- A part of a quoted string: a byte, or a code unit of sixteen bits that was escaped. -/
inductive Piece where
  | byte (value : UInt8)
  | codeUnit (value : Nat)
  deriving DecidableEq, Repr

inductive Token where
  | openArray
  | closeArray
  | openObject
  | closeObject
  | comma
  | colon
  | null
  | bool (value : Bool)
  | number (value : Spelling)
  | string (pieces : List Piece)
  deriving DecidableEq, Repr

/-! ### Numbers -/

def isDigitByte (b : UInt8) : Bool := 0x30 ≤ b && b ≤ 0x39

def takeDigits (bs : List UInt8) : List Nat × List UInt8 :=
  ((bs.takeWhile isDigitByte).map (·.toNat - 0x30), bs.dropWhile isDigitByte)

def exponentPart? : List UInt8 → Option (Option (Bool × List Nat))
  | [] => some none
  | b :: rest =>
    if b = 0x65 || b = 0x45 then
      let (negative, digits) :=
        match rest with
        | 0x2B :: tail => (false, tail)
        | 0x2D :: tail => (true, tail)
        | tail => (false, tail)
      match takeDigits digits with
      | ([], _) => none
      | (ds, []) => some (some (negative, ds))
      | (_, _ :: _) => none
    else none

def fractionPart? : List UInt8 → Option (Option (List Nat) × List UInt8)
  | 0x2E :: rest =>
    match takeDigits rest with
    | ([], _) => none
    | (ds, tail) => some (some ds, tail)
  | tail => some (none, tail)

/-- A sign, a whole part without superfluous zeros, and a fraction and an exponent if there are any. -/
def spelling? (bs : List UInt8) : Option Spelling :=
  let (negative, digits) :=
    match bs with
    | 0x2D :: rest => (true, rest)
    | rest => (false, rest)
  match takeDigits digits with
  | ([], _) => none
  | (0 :: _ :: _, _) => none
  | (whole, rest) => do
    let (fraction, rest) ← fractionPart? rest
    let exponent ← exponentPart? rest
    some ⟨negative, whole, fraction, exponent⟩

/-! ### Tokens -/

/-- Where the lexer stands; lists hold what it has seen of a token, last byte first. -/
inductive Mode where
  | between
  | word (letters : List UInt8)
  | number (bytes : List UInt8)
  | string (pieces : List Piece)
  | escape (pieces : List Piece)
  | hex (pieces : List Piece) (missing value : Nat)
  deriving DecidableEq, Repr

def isSpace (b : UInt8) : Bool := b = 0x20 || b = 0x0A || b = 0x0D || b = 0x09

def isLetter (b : UInt8) : Bool := 0x61 ≤ b && b ≤ 0x7A

def isNumberByte (b : UInt8) : Bool :=
  isDigitByte b || b = 0x2B || b = 0x2D || b = 0x2E || b = 0x45 || b = 0x65

def word? (letters : List UInt8) : Option Token :=
  if letters = Text.Utf8.bytes "null" then some .null
  else if letters = Text.Utf8.bytes "true" then some (.bool true)
  else if letters = Text.Utf8.bytes "false" then some (.bool false)
  else none

/-- The token that ends where the lexer stands, if one does. -/
def Mode.close : Mode → Option (List Token)
  | .between => some []
  | .word letters => (word? letters.reverse).map ([·])
  | .number bytes => (spelling? bytes.reverse).map fun n => [.number n]
  | _ => none

/-- A byte between tokens. -/
def openToken (b : UInt8) : Option (Mode × List Token) :=
  if isSpace b then some (.between, [])
  else if b = 0x5B then some (.between, [.openArray])
  else if b = 0x5D then some (.between, [.closeArray])
  else if b = 0x7B then some (.between, [.openObject])
  else if b = 0x7D then some (.between, [.closeObject])
  else if b = 0x2C then some (.between, [.comma])
  else if b = 0x3A then some (.between, [.colon])
  else if b = 0x22 then some (.string [], [])
  else if isDigitByte b || b = 0x2D then some (.number [b], [])
  else if isLetter b then some (.word [b], [])
  else none

/-- The byte that an escape of one letter stands for. -/
def shortEscape? (b : UInt8) : Option UInt8 :=
  if b = 0x22 || b = 0x5C || b = 0x2F then some b
  else if b = 0x62 then some 0x08
  else if b = 0x66 then some 0x0C
  else if b = 0x6E then some 0x0A
  else if b = 0x72 then some 0x0D
  else if b = 0x74 then some 0x09
  else none

/-- Ends the token before a byte and takes the byte as one between tokens. -/
def reopen (mode : Mode) (b : UInt8) : Option (Mode × List Token) :=
  mode.close.bind fun closed => (openToken b).map fun next => (next.1, closed ++ next.2)

def Mode.step (mode : Mode) (b : UInt8) : Option (Mode × List Token) :=
  match mode with
  | .between => openToken b
  | .word letters => if isLetter b then some (.word (b :: letters), []) else reopen mode b
  | .number bytes => if isNumberByte b then some (.number (b :: bytes), []) else reopen mode b
  | .string pieces =>
    if b = 0x22 then some (.between, [.string pieces.reverse])
    else if b = 0x5C then some (.escape pieces, [])
    else if b < 0x20 then none
    else some (.string (.byte b :: pieces), [])
  | .escape pieces =>
    if b = 0x75 then some (.hex pieces 3 0, [])
    else (shortEscape? b).map fun c => (.string (.byte c :: pieces), [])
  | .hex pieces missing value =>
    (Text.hexValue? b.toNat).map fun digit =>
      let value := 16 * value + digit
      match missing with
      | 0 => (.string (.codeUnit value :: pieces), [])
      | missing + 1 => (.hex pieces missing value, [])

def lexFrom (mode : Mode) : List UInt8 → Option (List Token)
  | [] => mode.close
  | b :: rest => (mode.step b).bind fun next => (lexFrom next.1 rest).map (next.2 ++ ·)

def lex (bs : List UInt8) : Option (List Token) := lexFrom .between bs

/-! ### Trees -/

inductive Tree where
  | null
  | bool (value : Bool)
  | number (value : Spelling)
  | string (pieces : List Piece)
  | array (items : List Tree)
  | object (members : List (List Piece × Tree))
  deriving Repr

/-- A container that is not closed yet, with what it holds so far, last first. -/
inductive Frame where
  | array (items : List Tree)
  | object (members : List (List Piece × Tree)) (key : List Piece)

/-- What may come next. -/
inductive Expected where
  | value
  | itemOrClose
  | memberOrClose
  | member
  | colon
  | commaOrClose
  | nothing (whole : Tree)

structure Build where
  expected : Expected
  frames : List Frame

namespace Build

def start : Build := ⟨.value, []⟩

/-- Puts a finished tree into the innermost container. -/
def deliver (t : Tree) : List Frame → Build
  | [] => ⟨.nothing t, []⟩
  | .array items :: frames => ⟨.commaOrClose, .array (t :: items) :: frames⟩
  | .object members key :: frames => ⟨.commaOrClose, .object ((key, t) :: members) [] :: frames⟩

def value? (frames : List Frame) : Token → Option Build
  | .null => some (deliver .null frames)
  | .bool b => some (deliver (.bool b) frames)
  | .number n => some (deliver (.number n) frames)
  | .string s => some (deliver (.string s) frames)
  | .openArray => some ⟨.itemOrClose, .array [] :: frames⟩
  | .openObject => some ⟨.memberOrClose, .object [] [] :: frames⟩
  | _ => none

def close? : List Frame → Token → Option Build
  | .array items :: frames, .closeArray => some (deliver (.array items.reverse) frames)
  | .object members _ :: frames, .closeObject => some (deliver (.object members.reverse) frames)
  | _, _ => none

def key? : List Frame → Token → Option Build
  | .object members _ :: frames, .string s => some ⟨.colon, .object members s :: frames⟩
  | _, _ => none

def step (b : Build) (t : Token) : Option Build :=
  match b.expected with
  | .value => value? b.frames t
  | .itemOrClose => if t = .closeArray then close? b.frames t else value? b.frames t
  | .memberOrClose => if t = .closeObject then close? b.frames t else key? b.frames t
  | .member => key? b.frames t
  | .colon => if t = .colon then some ⟨.value, b.frames⟩ else none
  | .commaOrClose =>
    if t = .comma then
      match b.frames with
      | .array _ :: _ => some ⟨.value, b.frames⟩
      | .object _ _ :: _ => some ⟨.member, b.frames⟩
      | [] => none
    else close? b.frames t
  | .nothing _ => none

def run (b : Build) : List Token → Option Build
  | [] => some b
  | t :: rest => (b.step t).bind (run · rest)

end Build

/-- The tree that the bytes spell, with nothing but space around it. -/
def tree? (bs : List UInt8) : Option Tree :=
  (lex bs).bind fun tokens =>
    (Build.start.run tokens).bind fun b =>
      match b.expected with
      | .nothing t => some t
      | _ => none

end Gazetteer.Json
