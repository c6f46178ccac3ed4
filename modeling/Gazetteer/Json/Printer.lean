import Gazetteer.Json.Value
import Gazetteer.Text.Hex

/-!
JSON text without spaces.  A double has the fewest digits that read back, a point or an exponent, and
is written positionally when its first digit stands between the fifth decimal place and the sixteenth
digit before the point.
-/

namespace Gazetteer.Json

/-- How doubles are written. -/
structure DoubleStyle where
  /-- The least power of ten of a first digit that is written positionally. -/
  least : Int
  /-- The greatest power of ten of a first digit that is written positionally. -/
  greatest : Int

def doubleStyle : DoubleStyle := ⟨-5, 15⟩

def pointed (digits : List Char) (whole : Nat) : List Char :=
  if digits.length ≤ whole then digits ++ List.replicate (whole - digits.length) '0' ++ ['.', '0']
  else digits.take whole ++ '.' :: digits.drop whole

/-- The text of a double without its sign. -/
def sizeChars (x : Number.Binary64) : List Char :=
  if x.mantissa = 0 then ['0', '.', '0']
  else
    let (value, unit) := x.shortest
    let digits := Nat.toDigits 10 value
    let first := unit + digits.length - 1
    if doubleStyle.least ≤ first && first ≤ doubleStyle.greatest then
      if 0 ≤ first then pointed digits (first.toNat + 1)
      else '0' :: '.' :: (List.replicate ((-first).toNat - 1) '0' ++ digits)
    else
      let mantissa := if digits.length = 1 then digits else digits.take 1 ++ '.' :: digits.drop 1
      let sign := if 0 ≤ first then '+' else '-'
      mantissa ++ 'e' :: sign :: Nat.toDigits 10 first.natAbs

def Number.chars : Number → List Char
  | .integer n => (toString n).toList
  | .double negative size => (if negative then ['-'] else []) ++ sizeChars size

/-- A character inside a quoted text: the two quoting characters and the control characters are escaped. -/
def escapeChar (c : Char) : List Char :=
  if c = '"' then ['\\', '"']
  else if c = '\\' then ['\\', '\\']
  else if c = '\n' then ['\\', 'n']
  else if c = '\r' then ['\\', 'r']
  else if c = '\t' then ['\\', 't']
  else if c.toNat = 8 then ['\\', 'b']
  else if c.toNat = 12 then ['\\', 'f']
  else if c.toNat < 32 then
    ['\\', 'u', '0', '0', Text.hexDigitLower (c.toNat / 16), Text.hexDigitLower (c.toNat % 16)]
  else [c]

def quote (s : String) : List Char := '"' :: (s.toList.flatMap escapeChar ++ ['"'])

mutual

def chars : Json → List Char
  | .null => "null".toList
  | .bool true => "true".toList
  | .bool false => "false".toList
  | .number n => n.chars
  | .text s => quote s
  | .array items => '[' :: (itemChars items ++ [']'])
  | .object fields => '\x7b' :: (fieldChars fields ++ ['\x7d'])
termination_by structural v => v

def itemChars : List Json → List Char
  | [] => []
  | [v] => v.chars
  | v :: rest => v.chars ++ ',' :: itemChars rest
termination_by structural items => items

def fieldChars : List (String × Json) → List Char
  | [] => []
  | [(key, v)] => quote key ++ ':' :: v.chars
  | (key, v) :: rest => quote key ++ ':' :: (v.chars ++ ',' :: fieldChars rest)
termination_by structural fields => fields

end

/-- The JSON text of a value. -/
def render (v : Json) : String := .ofList v.chars

end Gazetteer.Json
