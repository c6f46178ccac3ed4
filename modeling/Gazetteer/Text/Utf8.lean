/-!
UTF-8.  `encode` writes characters as bytes.  `scan` reads bytes and reports each character, and one
`none` for each longest run of bytes that starts a character and cannot be continued to one.
-/

namespace Gazetteer.Text.Utf8

def encodeChar (c : Char) : List UInt8 :=
  let n := c.toNat
  if n < 0x80 then [.ofNat n]
  else if n < 0x800 then [.ofNat (0xC0 + n / 0x40), .ofNat (0x80 + n % 0x40)]
  else if n < 0x10000 then
    [.ofNat (0xE0 + n / 0x1000), .ofNat (0x80 + n / 0x40 % 0x40), .ofNat (0x80 + n % 0x40)]
  else
    [.ofNat (0xF0 + n / 0x40000), .ofNat (0x80 + n / 0x1000 % 0x40), .ofNat (0x80 + n / 0x40 % 0x40),
      .ofNat (0x80 + n % 0x40)]

def encode (cs : List Char) : List UInt8 := cs.flatMap encodeChar

def bytes (s : String) : List UInt8 := encode s.toList

/-- A character begun: `missing + 1` continuation bytes are owed, the next one within `low` and `high`. -/
structure Begun where
  value : Nat
  missing : Nat
  low : Nat
  high : Nat
  deriving DecidableEq, Repr

/-- What the first byte of a character says. -/
inductive Lead where
  | whole (c : Char)
  | begun (b : Begun)
  | invalid
  deriving DecidableEq, Repr

def lead (byte : Nat) : Lead :=
  if byte < 0x80 then .whole (Char.ofNat byte)
  else if byte < 0xC2 then .invalid
  else if byte < 0xE0 then .begun ⟨byte - 0xC0, 0, 0x80, 0xBF⟩
  else if byte = 0xE0 then .begun ⟨0, 1, 0xA0, 0xBF⟩
  else if byte = 0xED then .begun ⟨0xD, 1, 0x80, 0x9F⟩
  else if byte < 0xF0 then .begun ⟨byte - 0xE0, 1, 0x80, 0xBF⟩
  else if byte = 0xF0 then .begun ⟨0, 2, 0x90, 0xBF⟩
  else if byte < 0xF4 then .begun ⟨byte - 0xF0, 2, 0x80, 0xBF⟩
  else if byte = 0xF4 then .begun ⟨4, 2, 0x80, 0x8F⟩
  else .invalid

/-- Reads on from a character begun, or from between two characters. -/
def scanFrom : Option Begun → List UInt8 → List (Option Char)
  | none, [] => []
  | some _, [] => [none]
  | none, byte :: rest =>
    match lead byte.toNat with
    | .whole c => some c :: scanFrom none rest
    | .begun b => scanFrom (some b) rest
    | .invalid => none :: scanFrom none rest
  | some b, byte :: rest =>
    if b.low ≤ byte.toNat && byte.toNat ≤ b.high then
      let value := b.value * 0x40 + (byte.toNat - 0x80)
      match b.missing with
      | 0 => some (Char.ofNat value) :: scanFrom none rest
      | missing + 1 => scanFrom (some ⟨value, missing, 0x80, 0xBF⟩) rest
    else
      none ::
        match lead byte.toNat with
        | .whole c => some c :: scanFrom none rest
        | .begun b => scanFrom (some b) rest
        | .invalid => none :: scanFrom none rest

def scan (bs : List UInt8) : List (Option Char) := scanFrom none bs

def allSome : List (Option Char) → Option (List Char)
  | [] => some []
  | none :: _ => none
  | some c :: rest => (allSome rest).map (c :: ·)

/-- The text that the bytes spell, if every byte belongs to a character. -/
def decode? (bs : List UInt8) : Option String := (allSome (scan bs)).map .ofList

/-- The text that the bytes spell, with U+FFFD for each part that is no character. -/
def decodeLossy (bs : List UInt8) : String := .ofList ((scan bs).map (·.getD (Char.ofNat 0xFFFD)))

end Gazetteer.Text.Utf8
