import Gazetteer.Calendar.Date
import Gazetteer.Filter.Basic

/-!
The date that a date filter means.  A date in one piece decides alone; without one the year must be
positive, and a month or day that is absent is the first.
-/

namespace Gazetteer.Filter

def greatestPart : Nat := 0xFFFFFFFF

/-- The bound of years read from a part: a word of 32 bits. -/
def yearHalf : Nat := 0x80000000

def readPart (part : Option String) : Option Nat :=
  match part with
  | none => some 1
  | some text => (Text.readNatural greatestPart (Text.trimChars text.toList)).toOption

def readYear (text : String) : Option Int :=
  (Text.readInteger yearHalf (Text.trimChars text.toList)).toOption

namespace DateFilter

def ofParts? (d : DateFilter) : Option Date :=
  d.year.bind fun text =>
    (readYear text).bind fun year =>
      if year ≤ 0 then none
      else (readPart d.month).bind fun month => (readPart d.day).bind fun day => Date.ofParts? year month day

def resolve? (d : DateFilter) : Option Date :=
  match d.date with
  | some text => Date.read? (Text.trimChars text.toList)
  | none => d.ofParts?

end DateFilter

end Gazetteer.Filter
