import Gazetteer.Json.Syntax
import Gazetteer.Json.Value

/-!
Reading values from trees.  Strings are UTF-8 with escapes that stand for characters, whole numbers have 64
bits, other numbers are doubles, and at most 127 containers may be open at once.
-/

namespace Gazetteer.Json

/-! ### Strings -/

/-- The character of a code unit that is no surrogate, or of a pair of surrogates. -/
def unitsChar? : Nat → Option Nat → Option Char
  | high, some low =>
    if 0xD800 ≤ high && high ≤ 0xDBFF && 0xDC00 ≤ low && low ≤ 0xDFFF then
      some (Char.ofNat (0x10000 + (high - 0xD800) * 0x400 + (low - 0xDC00)))
    else none
  | code, none => if 0xD800 ≤ code && code ≤ 0xDFFF then none else some (Char.ofNat code)

def isHighSurrogate (code : Nat) : Bool := 0xD800 ≤ code && code ≤ 0xDBFF

/-- The bytes of a string; escaped surrogates must stand in pairs. -/
def pieceBytes? : List Piece → Option (List UInt8)
  | [] => some []
  | .byte b :: rest => (pieceBytes? rest).map (b :: ·)
  | .codeUnit code :: rest =>
    if isHighSurrogate code then
      match rest with
      | .codeUnit low :: rest =>
        (unitsChar? code (some low)).bind fun c => (pieceBytes? rest).map (Text.Utf8.encodeChar c ++ ·)
      | _ => none
    else (unitsChar? code none).bind fun c => (pieceBytes? rest).map (Text.Utf8.encodeChar c ++ ·)

def pieceText? (pieces : List Piece) : Option String := (pieceBytes? pieces).bind Text.Utf8.decode?

/-! ### Numbers -/

def greatestNatural : Nat := 0xFFFFFFFFFFFFFFFF

/-- Digits taken into a significand of 64 bits. -/
structure Significand where
  value : Nat
  /-- The digits that found no room. -/
  excess : Nat
  deriving DecidableEq, Repr

/-- Once a digit finds no room, no later one is taken. -/
def Significand.take (s : Significand) (digit : Nat) : Significand :=
  let next := 10 * s.value + digit
  if s.excess = 0 && next ≤ greatestNatural then ⟨next, 0⟩ else ⟨s.value, s.excess + 1⟩

def Significand.ofDigits (start : Nat) (digits : List Nat) : Significand :=
  digits.foldl Significand.take ⟨start, 0⟩

/-- A double whose significand keeps the leading digits that fit 64 bits. -/
def Spelling.size? (s : Spelling) : Option Number.Binary64 :=
  let whole := Significand.ofDigits 0 s.whole
  let places := s.fraction.getD []
  let all := Significand.ofDigits whole.value places
  let unit : Int := (whole.excess : Int) - ((places.length - all.excess : Nat) : Int)
  let shift : Int :=
    match s.exponent with
    | none => 0
    | some (negative, digits) =>
      let n : Nat := digits.foldl (fun n d => 10 * n + d) 0
      if negative then -Int.ofNat n else Int.ofNat n
  Number.Binary64.ofScientific? all.value (unit + shift)

def Spelling.number? (s : Spelling) : Option Json.Number :=
  let whole := Significand.ofDigits 0 s.whole
  if s.fraction.isSome || s.exponent.isSome || whole.excess ≠ 0 then s.size?.map (.double s.negative)
  else if !s.negative then some (.integer whole.value)
  else if whole.value = 0 || 0x8000000000000000 < whole.value then s.size?.map (.double true)
  else some (.integer (-whole.value))

/-! ### Values -/

/-- The containers that may be open at once. -/
def greatestDepth : Nat := 127

mutual

/-- The value of a tree in which at most `depth` containers are open at once.  A repeated key keeps its
first place and its last value. -/
def Tree.value? (depth : Nat) : Tree → Option Json
  | .null => some .null
  | .bool b => some (.bool b)
  | .number n => n.number?.map .number
  | .string s => (pieceText? s).map .text
  | .array items =>
    match depth with
    | 0 => none
    | depth + 1 => (itemValues? depth items).map .array
  | .object members =>
    match depth with
    | 0 => none
    | depth + 1 => (memberValues? depth members).map fun fields =>
        .object (fields.foldl (fun seen field => insertField field.1 field.2 seen) [])
termination_by structural t => t

def itemValues? (depth : Nat) : List Tree → Option (List Json)
  | [] => some []
  | t :: rest => (t.value? depth).bind fun v => (itemValues? depth rest).map (v :: ·)
termination_by structural ts => ts

def memberValues? (depth : Nat) : List (List Piece × Tree) → Option (List (String × Json))
  | [] => some []
  | (key, t) :: rest =>
    (pieceText? key).bind fun k =>
      (t.value? depth).bind fun v => (memberValues? depth rest).map ((k, v) :: ·)
termination_by structural ts => ts

end

/-- The value that the bytes spell. -/
def parseBytes? (bs : List UInt8) : Option Json := (tree? bs).bind (Tree.value? greatestDepth)

def parse? (s : String) : Option Json := parseBytes? (Text.Utf8.bytes s)

end Gazetteer.Json
