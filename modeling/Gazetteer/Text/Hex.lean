/-!
Hexadecimal digits.
-/

namespace Gazetteer.Text

def hexDigit (n : Nat) : Char := Char.ofNat (if n < 10 then 48 + n else 55 + n)

def hexDigitLower (n : Nat) : Char := Char.ofNat (if n < 10 then 48 + n else 87 + n)

/-- The value of the digit with a code, in either case. -/
def hexValue? (code : Nat) : Option Nat :=
  if 48 ≤ code && code ≤ 57 then some (code - 48)
  else if 65 ≤ code && code ≤ 70 then some (code - 55)
  else if 97 ≤ code && code ≤ 102 then some (code - 87)
  else none

theorem hexValue?_hexDigit : ∀ n < 16, hexValue? (hexDigit n).toNat = some n := by decide

end Gazetteer.Text
