import Gazetteer.Text.Hex

/-!
Internet addresses as text: four decimal octets, or eight groups of hexadecimal digits of which one run of
zeros may be left out and the last two may be written as four octets.
-/

namespace Gazetteer.Net

structure Ipv4 where
  a : Nat
  b : Nat
  c : Nat
  d : Nat
  deriving DecidableEq, Repr

/-- The eight groups. -/
structure Ipv6 where
  groups : List Nat
  deriving DecidableEq, Repr

inductive Address where
  | v4 (address : Ipv4)
  | v6 (address : Ipv6)
  deriving DecidableEq, Repr

/-- Up to three digits without superfluous zeros, of a value up to 255. -/
def octet? (cs : List Char) : Option Nat :=
  let n := cs.foldl (fun n c => 10 * n + (c.toNat - '0'.toNat)) 0
  let short := cs.length = 1 || (2 ≤ cs.length && cs.length ≤ 3 && cs.head? != some '0')
  if cs.all Char.isDigit && short && n ≤ 255 then some n else none

def Ipv4.ofChars? (cs : List Char) : Option Ipv4 :=
  match (cs.splitOn '.').map octet? with
  | [some a, some b, some c, some d] => some ⟨a, b, c, d⟩
  | _ => none

def Ipv4.chars (x : Ipv4) : List Char :=
  Nat.toDigits 10 x.a ++ '.' :: (Nat.toDigits 10 x.b ++ '.' :: (Nat.toDigits 10 x.c ++ '.' :: Nat.toDigits 10 x.d))

/-- The value of hexadecimal digits. -/
def hexNumber? (cs : List Char) : Option Nat :=
  cs.foldl (fun n c => n.bind fun n => (Text.hexValue? c.toNat).map (16 * n + ·)) (some 0)

/-- One to four hexadecimal digits. -/
def group? (cs : List Char) : Option Nat := if 1 ≤ cs.length && cs.length ≤ 4 then hexNumber? cs else none

/-- The groups of parts of which the last may be four octets. -/
def groups? : List (List Char) → Option (List Nat)
  | [] => some []
  | [last] =>
    match group? last with
    | some g => some [g]
    | none => (Ipv4.ofChars? last).map fun x => [256 * x.a + x.b, 256 * x.c + x.d]
  | part :: rest => (group? part).bind fun g => (groups? rest).map (g :: ·)

/-- The text before the first two colons in a row and the text after them. -/
def splitAtGap? : List Char → Option (List Char × List Char)
  | ':' :: ':' :: rest => some ([], rest)
  | c :: rest => (splitAtGap? rest).map fun parts => (c :: parts.1, parts.2)
  | [] => none

/-- The parts between colons; an empty text has none. -/
def colonParts (cs : List Char) : List (List Char) := if cs.isEmpty then [] else cs.splitOn ':'

def groupCount : Nat := 8

def Ipv6.ofChars? (cs : List Char) : Option Ipv6 :=
  match splitAtGap? cs with
  | none => (groups? (colonParts cs)).bind fun gs => if gs.length = groupCount then some ⟨gs⟩ else none
  | some (before, after) =>
    ((colonParts before).mapM group?).bind fun front =>
      (groups? (colonParts after)).bind fun back =>
        let present := front.length + back.length
        if present < groupCount then some ⟨front ++ List.replicate (groupCount - present) 0 ++ back⟩ else none

/-- The length of the run of zeros at the start. -/
def leadingZeros (gs : List Nat) : Nat := (gs.takeWhile (· == 0)).length

/-- Where the longest run of zeros starts, and its length; of runs of one length the first counts. -/
def longestZeros : List Nat → Nat × Nat
  | [] => (0, 0)
  | g :: rest =>
    let here := leadingZeros (g :: rest)
    let (start, length) := longestZeros rest
    if length ≤ here then (0, here) else (start + 1, length)

def groupsText (gs : List Nat) : List Char :=
  [':'].intercalate (gs.map (Nat.toDigits 16))

/-- The longest run of at least two zeros is left out. -/
def Ipv6.chars (x : Ipv6) : List Char :=
  let (start, length) := longestZeros x.groups
  if length < 2 then groupsText x.groups
  else groupsText (x.groups.take start) ++ ':' :: ':' :: groupsText (x.groups.drop (start + length))

def Address.ofChars? (cs : List Char) : Option Address :=
  match Ipv4.ofChars? cs with
  | some x => some (.v4 x)
  | none => (Ipv6.ofChars? cs).map .v6

end Gazetteer.Net
