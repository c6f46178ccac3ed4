/-!
SQL string literals.  A value is cleaned of the characters that literals do not carry, its quotes are
doubled, and single quotes go around it.
-/

namespace Gazetteer.Sql

/-- What becomes of a character in a literal: none is dropped, a line break or control becomes a space. -/
def cleanChar (c : Char) : Option Char :=
  if c = '"' || c = '\\' || c = '%' || c.toNat = 0 then none
  else if c = '\n' || c = '\r' || c = '\t' || c.toNat = 0x08 || c.toNat = 0x1A then some ' '
  else some c

def clean (cs : List Char) : List Char := cs.filterMap cleanChar

def doubleQuote (c : Char) : List Char := if c = '\'' then ['\'', '\''] else [c]

def sanitizeChars (cs : List Char) : List Char := (clean cs).flatMap doubleQuote

/-- The text of a value between the quotes of a literal. -/
def sanitize (value : String) : String := .ofList (sanitizeChars value.toList)

def literalChars (value : String) : List Char := '\'' :: (sanitizeChars value.toList ++ ['\''])

def literal (value : String) : String := .ofList (literalChars value)

end Gazetteer.Sql
