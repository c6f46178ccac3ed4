/-!
Decimal numerals.  Reading accepts ASCII digits alone, with a sign where the caller allows one, and
says which of four things is wrong with any other text.
-/

namespace Gazetteer.Text

def digitValue (c : Char) : Nat := c.toNat - '0'.toNat

/-- The value of a run of ASCII digits. -/
def digitsValue (ds : List Char) : Nat := ds.foldl (fun n d => 10 * n + digitValue d) 0

inductive NumeralError where
  | empty
  | invalidDigit
  | tooLarge
  | tooSmall
  deriving DecidableEq, Repr

def NumeralError.message : NumeralError → String
  | .empty => "cannot parse integer from empty string"
  | .invalidDigit => "invalid digit found in string"
  | .tooLarge => "number too large to fit in target type"
  | .tooSmall => "number too small to fit in target type"

/-- Appends digits to the number read so far; the first character that is no digit, or the first digit
that takes the number over the bound, ends the reading. -/
def readDigits (bound : Nat) (excess : NumeralError) : Nat → List Char → Except NumeralError Nat
  | n, [] => .ok n
  | n, c :: cs =>
    if c.isDigit then
      let next := 10 * n + digitValue c
      if next ≤ bound then readDigits bound excess next cs else .error excess
    else .error .invalidDigit

/-- At least one digit, with a value of at most `bound`. -/
def readDigits1 (bound : Nat) (excess : NumeralError) (cs : List Char) : Except NumeralError Nat :=
  if cs.isEmpty then .error .invalidDigit else readDigits bound excess 0 cs

/-- An optional `+` and digits. -/
def readNatural (bound : Nat) : List Char → Except NumeralError Nat
  | [] => .error .empty
  | '+' :: cs => readDigits1 bound .tooLarge cs
  | cs => readDigits1 bound .tooLarge cs

/-- An optional sign and digits, for the numbers of a two's complement word of `2 * half` values. -/
def readInteger (half : Nat) : List Char → Except NumeralError Int
  | [] => .error .empty
  | '+' :: cs => (readDigits1 (half - 1) .tooLarge cs).map Int.ofNat
  | '-' :: cs => (readDigits1 half .tooSmall cs).map fun n => -(Int.ofNat n)
  | cs => (readDigits1 (half - 1) .tooLarge cs).map Int.ofNat

/-- The digits of a number, with zeros in front up to a width. -/
def padded (width n : Nat) : List Char :=
  let ds := Nat.toDigits 10 n
  List.replicate (width - ds.length) '0' ++ ds

end Gazetteer.Text
