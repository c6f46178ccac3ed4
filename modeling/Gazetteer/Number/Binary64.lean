import Gazetteer.Number.Rounding

/-!
Doubles that are not negative, as a mantissa of at most 53 bits times a power of two.  All arithmetic is
exact arithmetic on quotients of natural numbers followed by one rounding, and the shortest decimal form
is found by trying each number of digits.
-/

namespace Gazetteer.Number

/-- The number `mantissa * 2 ^ exponent`.  The mantissa has 53 bits unless the exponent is the least one. -/
structure Binary64 where
  mantissa : Nat
  exponent : Int
  deriving DecidableEq, Repr

namespace Binary64

def leastExponent : Int := -1074
def greatestExponent : Int := 971

def zero : Binary64 := ⟨0, leastExponent⟩

/-- A quotient that is multiplied by `base ^ exponent`. -/
def scaled (num den base : Nat) (exponent : Int) : Nat × Nat :=
  if 0 ≤ exponent then (num * Nat.pow base exponent.toNat, den)
  else (num, den * Nat.pow base (-exponent).toNat)

/-- The double nearest to `num / den`, a tie going to the even mantissa; none beyond the largest one. -/
def ofRatio? (num den : Nat) : Option Binary64 :=
  if num = 0 then some zero
  else
    let guess : Int := (num.log2 : Int) - den.log2 - 53
    let wide := scaled num den 2 (-guess)
    let fitting := if wide.1 < wide.2 * Nat.pow 2 53 then guess else guess + 1
    let exponent := max fitting leastExponent
    let unit := scaled num den 2 (-exponent)
    let mantissa := roundHalfEven unit.1 unit.2
    let rounded : Binary64 := if mantissa = Nat.pow 2 53 then ⟨Nat.pow 2 52, exponent + 1⟩ else ⟨mantissa, exponent⟩
    if rounded.exponent ≤ greatestExponent then some rounded else none

def ratio (x : Binary64) : Nat × Nat := scaled x.mantissa 1 2 x.exponent

def times? (x y : Binary64) : Option Binary64 := ofRatio? (x.ratio.1 * y.ratio.1) (x.ratio.2 * y.ratio.2)

def dividedBy? (x y : Binary64) : Option Binary64 := ofRatio? (x.ratio.1 * y.ratio.2) (x.ratio.2 * y.ratio.1)

def ofNat? (n : Nat) : Option Binary64 := ofRatio? n 1

def tenPower (n : Nat) : Binary64 := (ofRatio? (Nat.pow 10 n) 1).getD zero

/-- The greatest power of ten that a double can scale by at once. -/
def greatestTenPower : Nat := 308

/-- Divides by the greatest power of ten, as often as told. -/
def shrinkTimes (x : Binary64) : Nat → Option Binary64
  | 0 => some x
  | times + 1 => (x.dividedBy? (tenPower greatestTenPower)).bind (shrinkTimes · times)

/-- Divides by `10 ^ n`, in steps of the greatest power of ten and with a rounding after each.  Four
steps and more leave nothing of any double. -/
def shrink (x : Binary64) (n : Nat) : Option Binary64 :=
  let steps := (n - 1) / greatestTenPower
  if 4 ≤ steps then some zero
  else (x.shrinkTimes steps).bind (·.dividedBy? (tenPower (n - greatestTenPower * steps)))

/-- Multiplies by `10 ^ n` with one rounding; none if the result is no double. -/
def grow (x : Binary64) (n : Nat) : Option Binary64 :=
  if n ≤ greatestTenPower then x.times? (tenPower n) else if x = zero then some zero else none

/-- The number whose significand and decimal exponent are given, rounded when the significand becomes a
double and again after each scaling. -/
def ofScientific? (significand : Nat) (exponent : Int) : Option Binary64 :=
  (ofNat? significand).bind fun x =>
    if 0 ≤ exponent then x.grow exponent.toNat else x.shrink (-exponent).toNat

/-- The `k` with `10 ^ k ≤ num / den < 10 ^ (k + 1)`, for quotients above `10 ^ -400`. -/
def decimalExponent (num den : Nat) : Int := ((Nat.toDigits 10 (num * Nat.pow 10 400 / den)).length : Int) - 401

/-- The decimal that comes nearest to a double among the multiples of `10 ^ unit` that round to it, a tie
going to the even one. -/
def nearestOnGrid (x : Binary64) (unit : Int) : Option Nat :=
  let steps := scaled x.ratio.1 x.ratio.2 10 (-unit)
  let below := steps.1 / steps.2
  let hits := [below, below + 1].filter fun d =>
    let value := scaled d 1 10 unit
    ofRatio? value.1 value.2 == some x
  match hits with
  | [_, _] => some (roundHalfEven steps.1 steps.2)
  | [only] => some only
  | _ => none

/-- Moves up to so many zeros at the end of a decimal into its exponent. -/
def dropZeros : Nat → Nat × Int → Nat × Int
  | 0, decimal => decimal
  | zeros + 1, (digits, unit) =>
    if digits % 10 = 0 then dropZeros zeros (digits / 10, unit + 1) else (digits, unit)

/-- The decimal with the fewest digits that reads back as the double: digits, and the exponent of ten of
the last one.  Seventeen digits always suffice. -/
def shortest (x : Binary64) : Nat × Int :=
  if x.mantissa = 0 then (0, 0)
  else
    let top := decimalExponent x.ratio.1 x.ratio.2
    let units := (List.range 17).map fun (n : Nat) => top - (n : Int)
    dropZeros 17 ((units.findSome? fun unit => (x.nearestOnGrid unit).map (·, unit)).getD (1, 0))

end Binary64

end Gazetteer.Number
