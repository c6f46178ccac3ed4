import Gazetteer.Text.Hex
import Gazetteer.Text.Split
import Gazetteer.Text.Utf8

/-!
Percent escapes and `application/x-www-form-urlencoded` pairs.  Decoding leaves an escape that is not
two hexadecimal digits as it stands.
-/

namespace Gazetteer.Text

def escapeByte (b : UInt8) : List Char := ['%', hexDigit (b.toNat / 16), hexDigit (b.toNat % 16)]

def unescape : List UInt8 → List UInt8
  | 0x25 :: high :: low :: rest =>
    match hexValue? high.toNat, hexValue? low.toNat with
    | some h, some l => .ofNat (16 * h + l) :: unescape rest
    | _, _ => 0x25 :: unescape (high :: low :: rest)
  | b :: rest => b :: unescape rest
  | [] => []

namespace Form

/-- The bytes that stand for themselves: ASCII letters and digits, `*`, `-`, `.` and `_`. -/
def plainByte (b : UInt8) : Bool :=
  let n := b.toNat
  n == 42 || n == 45 || n == 46 || n == 95 || (48 ≤ n && n ≤ 57) || (65 ≤ n && n ≤ 90) || (97 ≤ n && n ≤ 122)

def encodeByte (b : UInt8) : List Char :=
  if plainByte b then [Char.ofNat b.toNat] else if b = 0x20 then ['+'] else escapeByte b

def encodeChars (s : String) : List Char := (Utf8.bytes s).flatMap encodeByte

def encodePair (pair : String × String) : List Char := encodeChars pair.1 ++ '=' :: encodeChars pair.2

def encodePairs : List (String × String) → List Char
  | [] => []
  | [pair] => encodePair pair
  | pair :: rest => encodePair pair ++ '&' :: encodePairs rest

def spaced (bs : List UInt8) : List UInt8 := bs.map fun b => if b = 0x2B then 0x20 else b

def decodeChars (cs : List Char) : String := Utf8.decodeLossy (unescape (spaced (Utf8.encode cs)))

def decodePair (cs : List Char) : String × String :=
  let parts := splitAtFirst '=' cs
  (decodeChars parts.1, decodeChars parts.2)

/-- The pairs of a query, in order; empty parts between two `&` are no pairs. -/
def decodePairs (cs : List Char) : List (String × String) :=
  ((cs.splitOn '&').filter (!·.isEmpty)).map decodePair

end Form

/-- The text that a path segment stands for, if its bytes are UTF-8. -/
def decodeSegment? (cs : List Char) : Option String := Utf8.decode? (unescape (Utf8.encode cs))

end Gazetteer.Text
