import Gazetteer.Text.Blank
import Gazetteer.Text.Numeral

/-!
Days of the proleptic Gregorian calendar, from the year -262143 to the year 262142.  A date is read from a
year, month and day with hyphens between them, and written with a year of at least four characters.
-/

namespace Gazetteer

structure Date where
  year : Int
  month : Nat
  day : Nat
  deriving DecidableEq, Repr

namespace Date

def firstYear : Int := -262143
def lastYear : Int := 262142

def isLeap (year : Int) : Bool := year % 4 = 0 && (year % 100 ≠ 0 || year % 400 = 0)

def monthLength (year : Int) (month : Nat) : Nat :=
  match month with
  | 2 => if isLeap year then 29 else 28
  | 4 | 6 | 9 | 11 => 30
  | _ => 31

/-- Whether a year, month and day name a day of the calendar. -/
def isDay (year : Int) (month day : Nat) : Bool :=
  firstYear ≤ year && year ≤ lastYear && 1 ≤ month && month ≤ 12 && 1 ≤ day && day ≤ monthLength year month

def ofParts? (year : Int) (month day : Nat) : Option Date :=
  if isDay year month day then some ⟨year, month, day⟩ else none

/-- The order of days. -/
def lt (a b : Date) : Prop :=
  a.year < b.year ∨ a.year = b.year ∧ (a.month < b.month ∨ a.month = b.month ∧ a.day < b.day)

instance : LT Date := ⟨lt⟩

/-! ### Writing -/

/-- A year takes at least four characters, the sign of a negative one included. -/
def yearChars (year : Int) : List Char :=
  if 0 ≤ year then Text.padded 4 year.toNat else '-' :: Text.padded 3 year.natAbs

def isoChars (d : Date) : List Char :=
  yearChars d.year ++ '-' :: (Text.padded 2 d.month ++ '-' :: Text.padded 2 d.day)

def iso (d : Date) : String := .ofList d.isoChars

/-! ### Reading -/

/-- The number that a text starts with, of at most so many digits if there is a limit, and what follows. -/
def leadingNumber? (limit : Option Nat) (cs : List Char) : Option (Nat × List Char) :=
  let run := cs.takeWhile Char.isDigit
  let digits := match limit with
    | some n => run.take n
    | none => run
  if digits.isEmpty then none else some (Text.digitsValue digits, cs.drop digits.length)

/-- A year of at most four digits, or of any number of them after a sign. -/
def leadingYear? : List Char → Option (Int × List Char)
  | '-' :: cs => (leadingNumber? none cs).map fun found => (-Int.ofNat found.1, found.2)
  | '+' :: cs => (leadingNumber? none cs).map fun found => (Int.ofNat found.1, found.2)
  | cs => (leadingNumber? (some 4) cs).map fun found => (Int.ofNat found.1, found.2)

def hyphen? : List Char → Option (List Char)
  | '-' :: cs => some cs
  | _ => none

/-- A year, a month and a day; blanks may stand before each number and nothing after the last. -/
def read? (cs : List Char) : Option Date := do
  let (year, cs) ← leadingYear? (Text.dropBlanks cs)
  let cs ← hyphen? cs
  let (month, cs) ← leadingNumber? (some 2) (Text.dropBlanks cs)
  let cs ← hyphen? cs
  let (day, cs) ← leadingNumber? (some 2) (Text.dropBlanks cs)
  if cs.isEmpty then ofParts? year month day else none

theorem ofParts?_isDay {year : Int} {month day : Nat} {d : Date} (h : ofParts? year month day = some d) :
    isDay d.year d.month d.day = true := by
  unfold ofParts? at h
  split at h
  · next valid => cases h; exact valid
  · cases h

end Date

end Gazetteer
