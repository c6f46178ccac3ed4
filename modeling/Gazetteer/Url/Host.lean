import Gazetteer.Net.Address
import Gazetteer.Text.LowerCase
import Gazetteer.Text.Percent
import Gazetteer.Url.Punycode

/-!
Hosts of addresses on the web.  A host in brackets is an address of eight groups.  Where the scheme is one of
the web's, any other host is a domain name in ASCII, or four octets when its last part is a number.
-/

namespace Gazetteer.Url

/-- What makes a text no URL. -/
inductive Fault where
  | noScheme
  | emptyHost
  | domainName
  | hostCharacter
  | port
  | ipv4
  | ipv6
  deriving DecidableEq, Repr

def Fault.message : Fault → String
  | .noScheme => "relative URL without a base"
  | .emptyHost => "empty host"
  | .domainName => "invalid international domain name"
  | .hostCharacter => "invalid domain character"
  | .port => "invalid port number"
  | .ipv4 => "invalid IPv4 address"
  | .ipv6 => "invalid IPv6 address"

inductive Host where
  | name (cs : List Char)
  | ipv4 (address : Net.Ipv4)
  | ipv6 (address : Net.Ipv6)
  deriving DecidableEq, Repr

def Host.chars : Host → List Char
  | .name cs => cs
  | .ipv4 x => x.chars
  | .ipv6 x => '[' :: (x.chars ++ [']'])

/-! ### Escaping -/

/-- The bytes that no part of a URL holds as they are. -/
def isControl (n : Nat) : Bool := n < 0x20 || 0x7E < n

def escapeWhere (isEscaped : Nat → Bool) (cs : List Char) : List Char :=
  (Text.Utf8.encode cs).flatMap fun b =>
    if isEscaped b.toNat then Text.escapeByte b else [Char.ofNat b.toNat]

def isOneOf (chars : String) (n : Nat) : Bool := chars.toList.any (·.toNat == n)

/-! ### Domain names -/

/-- The characters that a domain name drops. -/
def isIgnored (c : Char) : Bool :=
  let n := c.toNat
  n = 0xAD || n = 0x34F || (0x180B ≤ n && n ≤ 0x180D) || n = 0x200B || n = 0x2060 || n = 0x2064
    || (0xFE00 ≤ n && n ≤ 0xFE0F) || n = 0xFEFF

/-- The characters that stand for a full stop. -/
def isFullStop (c : Char) : Bool := c = '.' || c.toNat = 0x3002 || c.toNat = 0xFF0E || c.toNat = 0xFF61

/-- A full-width form of an ASCII character as that character. -/
def narrow (c : Char) : Char := if 0xFF01 ≤ c.toNat && c.toNat ≤ 0xFF5E then Char.ofNat (c.toNat - 0xFEE0) else c

def mapDomainChar (c : Char) : Option Char :=
  if isIgnored c then none else if isFullStop c then some '.' else some (Text.lower (narrow c))

/-- The characters that no domain name holds. -/
def isForbidden (c : Char) : Bool :=
  let n := c.toNat
  n ≤ 0x20 || n = 0x7F || isOneOf "%#/:<>?@[\\]^|" n || (0x80 ≤ n && n ≤ 0x9F) || (0x2028 ≤ n && n ≤ 0x202F)
    || (0xE000 ≤ n && n ≤ 0xF8FF) || (0xFFF9 ≤ n && n ≤ 0xFFFF) || 0xE0000 ≤ n

/-- A label in ASCII; an encoded label must be the code of a label that is not ASCII. -/
def asciiLabel? (label : List Char) : Option (List Char) :=
  if label.all Punycode.isAscii then
    if label.take 4 = "xn--".toList then
      (Punycode.decode? (label.drop 4)).bind fun decoded =>
        if decoded.all Punycode.isAscii || decoded.any isForbidden || decoded.map Text.lower != decoded then none
        else if Punycode.encode decoded = label.drop 4 then some label
        else none
    else some label
  else some ("xn--".toList ++ Punycode.encode label)

/-- The domain name in ASCII. -/
def domainName? (bs : List UInt8) : Option (List Char) :=
  (Text.Utf8.decode? bs).bind fun text =>
    let mapped := text.toList.filterMap mapDomainChar
    if mapped.any isForbidden then none
    else ((mapped.splitOn '.').mapM asciiLabel?).map ['.'].intercalate

/-! ### Numbers in domain names -/

inductive Radix where
  | octal
  | decimal
  | hex
  deriving DecidableEq, Repr

def Radix.value : Radix → Nat
  | .octal => 8
  | .decimal => 10
  | .hex => 16

/-- The digits of a part after the letters that tell its radix. -/
def splitRadix : List Char → Radix × List Char
  | '0' :: 'x' :: cs | '0' :: 'X' :: cs => (.hex, cs)
  | '0' :: c :: cs => (.octal, c :: cs)
  | cs => (.decimal, cs)

/-- The number that a part of a domain name is; digits may be missing after the letters of a radix. -/
def partNumber? (cs : List Char) : Option Nat :=
  if cs.isEmpty then none
  else
    let (radix, digits) := splitRadix cs
    digits.foldl
      (fun n c => n.bind fun n =>
        (Text.hexValue? c.toNat).bind fun d => if d < radix.value then some (radix.value * n + d) else none)
      (some 0)

/-- The parts of a name; an empty last one does not count. -/
def nameParts (cs : List Char) : List (List Char) :=
  let parts := cs.splitOn '.'
  if parts.getLast? = some [] then parts.dropLast else parts

def endsInNumber (cs : List Char) : Bool :=
  match (nameParts cs).getLast? with
  | none => false
  | some last => (!last.isEmpty && last.all Char.isDigit) || (partNumber? last).isSome

/-- The value of the parts of an address: one octet each, and the last for all octets that are left. -/
def numbersValue? (numbers : List Nat) : Option Nat :=
  match numbers.getLast? with
  | none => none
  | some last =>
    let front := numbers.dropLast
    if 4 < numbers.length || front.any (255 < ·) || Nat.pow 256 (5 - numbers.length) ≤ last then none
    else some (front.foldl (fun n x => 256 * n + x) 0 * Nat.pow 256 (5 - numbers.length) + last)

def ipv4OfValue (n : Nat) : Net.Ipv4 := ⟨n / 0x1000000 % 256, n / 0x10000 % 256, n / 256 % 256, n % 256⟩

def ipv4OfName? (cs : List Char) : Option Net.Ipv4 :=
  (((nameParts cs).mapM partNumber?).bind numbersValue?).map ipv4OfValue

/-! ### Hosts -/

/-- The address between brackets, where a host starts with one. -/
def bracketed (cs : List Char) : Except Fault Host :=
  if cs.getLast? = some ']' then
    match Net.Ipv6.ofChars? (cs.drop 1).dropLast with
    | some x => .ok (.ipv6 x)
    | none => .error .ipv6
  else .error .ipv6

/-- The host of a URL with a scheme of the web. -/
def webHost (cs : List Char) : Except Fault Host :=
  if cs.head? = some '[' then bracketed cs
  else
    match domainName? (Text.unescape (Text.Utf8.encode cs)) with
    | none => .error .domainName
    | some name =>
      if name.isEmpty then .error .emptyHost
      else if endsInNumber name then
        match ipv4OfName? name with
        | some x => .ok (.ipv4 x)
        | none => .error .ipv4
      else .ok (.name name)

/-- The host of a URL with any other scheme. -/
def opaqueHost (cs : List Char) : Except Fault Host :=
  if cs.head? = some '[' then bracketed cs
  else if cs.any fun c => c.toNat = 0 || isOneOf "\t\n\r #/:<>?@[\\]^|" c.toNat then .error .hostCharacter
  else .ok (.name (escapeWhere isControl cs))

end Gazetteer.Url
