import Gazetteer.Number.Rounding
import Gazetteer.Text.Numeral

/-!
Decimals with a mantissa of 96 bits and at most 28 places.  Reading takes plain numerals and numerals with
an exponent; digits that find no room are rounded off, and a whole part that finds none is no decimal.
-/

namespace Gazetteer.Number

/-- The number `mantissa / 10 ^ scale`, or its negative. -/
structure Decimal where
  negative : Bool
  mantissa : Nat
  scale : Nat
  deriving DecidableEq, Repr

namespace Decimal

def greatestMantissa : Nat := 0xFFFFFFFFFFFFFFFFFFFFFFFF
def greatestScale : Nat := 28

/-! ### Plain numerals -/

/-- A numeral read so far. -/
structure Prefix where
  mantissa : Nat := 0
  scale : Nat := 0
  /-- Whether the point has been read. -/
  pointed : Bool := false
  /-- Whether a digit has been read. -/
  begun : Bool := false
  /-- Whether a digit had to be rounded off. -/
  full : Bool := false
  deriving DecidableEq, Repr

/-- Rounds at a digit for which there is no room.  A mantissa that outgrows its room gives up a place. -/
def Prefix.round? (p : Prefix) (digit : Nat) : Option Prefix :=
  if digit < 5 then some { p with full := true }
  else if p.mantissa < greatestMantissa then some { p with mantissa := p.mantissa + 1, full := true }
  else if p.scale = 0 then none
  else some { p with mantissa := (p.mantissa + 5) / 10, scale := p.scale - 1, full := true }

def Prefix.digit? (p : Prefix) (digit : Nat) : Option Prefix :=
  let next := 10 * p.mantissa + digit
  if p.full then some p
  else if p.pointed && greatestScale ≤ p.scale then p.round? digit
  else if next ≤ greatestMantissa then
    some { p with mantissa := next, scale := if p.pointed then p.scale + 1 else 0, begun := true }
  else if p.pointed then p.round? digit
  else none

/-- A digit, the one point, or an underscore after the first digit. -/
def Prefix.step? (p : Prefix) (c : Char) : Option Prefix :=
  if c.isDigit then p.digit? (Text.digitValue c)
  else if c = '.' then if p.pointed then none else some { p with pointed := true }
  else if c = '_' then if p.begun then some p else none
  else none

def Prefix.run? (p : Prefix) : List Char → Option Prefix
  | [] => some p
  | c :: cs => (p.step? c).bind (run? · cs)

def unsigned? (negative : Bool) (cs : List Char) : Option Decimal :=
  (Prefix.run? {} cs).bind fun p => if p.begun then some ⟨negative, p.mantissa, p.scale⟩ else none

/-- A sign if there is one, digits and a point. -/
def plain? : List Char → Option Decimal
  | '-' :: cs => unsigned? true cs
  | '+' :: cs => unsigned? false cs
  | cs => unsigned? false cs

/-! ### Numerals with an exponent -/

/-- Moves the point to the left; places beyond the last one are rounded off. -/
def lower (d : Decimal) (places : Nat) : Decimal :=
  let scale := d.scale + places
  if scale ≤ greatestScale then { d with scale := scale }
  else { d with mantissa := roundHalfUp d.mantissa (Nat.pow 10 (scale - greatestScale)), scale := greatestScale }

/-- Moves the point to the right. -/
def raise? (d : Decimal) (places : Nat) : Option Decimal :=
  if places ≤ d.scale then some { d with scale := d.scale - places }
  else if places ≤ greatestScale then
    let mantissa := d.mantissa * Nat.pow 10 (places - d.scale)
    if mantissa ≤ greatestMantissa then some { d with mantissa := mantissa, scale := 0 } else none
  else none

def greatestExponent : Nat := 0xFFFFFFFF

def exponentMark (c : Char) : Bool := c = 'e' || c = 'E'

/-- A plain numeral, a mark and a whole exponent. -/
def scientific? (cs : List Char) : Option Decimal :=
  match cs.dropWhile (!exponentMark ·) with
  | [] => none
  | _ :: exponent =>
    (plain? (cs.takeWhile (!exponentMark ·))).bind fun base =>
      match exponent with
      | '-' :: digits =>
        (Text.readNatural greatestExponent digits).toOption.bind fun n =>
          if n ≤ greatestScale then some (base.lower n) else none
      | digits => (Text.readNatural greatestExponent digits).toOption.bind base.raise?

def read? (cs : List Char) : Option Decimal := (plain? cs).or (scientific? cs)

/-! ### Rounding and writing -/

/-- Rounds to at most so many places, a tie to the even digit. -/
def roundTo (places : Nat) (d : Decimal) : Decimal :=
  if d.scale ≤ places then d
  else { d with mantissa := roundHalfEven d.mantissa (Nat.pow 10 (d.scale - places)), scale := places }

/-- Adds up to so many places, as long as the mantissa has room for them. -/
def pad : Nat → Decimal → Decimal
  | 0, d => d
  | places + 1, d =>
    if 10 * d.mantissa ≤ greatestMantissa then
      pad places { d with mantissa := 10 * d.mantissa, scale := d.scale + 1 }
    else d

/-- Zero has no sign. -/
def chars (d : Decimal) : List Char :=
  let digits := Text.padded (d.scale + 1) d.mantissa
  let whole := digits.length - d.scale
  (if d.negative && d.mantissa ≠ 0 then ['-'] else []) ++ digits.take whole ++
    (if d.scale = 0 then [] else '.' :: digits.drop whole)

end Decimal

end Gazetteer.Number
