/-!
Punycode: labels of domain names in ASCII.  The ASCII characters come first; the others follow in the order
of their values, each as the number of steps from the one before, in digits of base 36 whose thresholds
adapt to the steps seen so far.
-/

namespace Gazetteer.Url.Punycode

def digitChar (d : Nat) : Char := Char.ofNat (if d < 26 then 97 + d else 22 + d)

def digitValue? (c : Char) : Option Nat :=
  let n := c.toNat
  if 97 ≤ n && n ≤ 122 then some (n - 97)
  else if 65 ≤ n && n ≤ 90 then some (n - 65)
  else if 48 ≤ n && n ≤ 57 then some (n - 22)
  else none

def threshold (k bias : Nat) : Nat := if k ≤ bias then 1 else if bias + 26 ≤ k then 26 else k - bias

theorem threshold_pos (k bias : Nat) : 1 ≤ threshold k bias := by
  unfold threshold
  split
  · omega
  · split <;> omega

/-- Takes 35th parts until at most 455 is left, and 36 positions for each. -/
def shrink (delta k : Nat) : Nat × Nat := if 455 < delta then shrink (delta / 35) (k + 36) else (delta, k)
termination_by delta
decreasing_by exact Nat.div_lt_self (by omega) (by omega)

/-- The bias after a step, of which the first is damped more. -/
def adapt (delta count : Nat) (first : Bool) : Nat :=
  let halved := if first then delta / 700 else delta / 2
  let (left, k) := shrink (halved + halved / count) 0
  k + 36 * left / (left + 38)

/-- A number in digits, the least first; a digit below its threshold is the last. -/
def numberChars (bias k q : Nat) : List Char :=
  let t := threshold k bias
  if q < t then [digitChar q]
  else digitChar (t + (q - t) % (36 - t)) :: numberChars bias (k + 36) ((q - t) / (36 - t))
termination_by q
decreasing_by
  have positive := threshold_pos k bias
  exact Nat.lt_of_le_of_lt (Nat.div_le_self _ _) (by omega)

structure Encoder where
  out : List Char
  /-- The steps since the last character that was written. -/
  delta : Nat
  bias : Nat
  /-- The characters handled so far. -/
  handled : Nat

/-- One character seen on the pass that writes the characters of one value. -/
def Encoder.see (basic value : Nat) (e : Encoder) (c : Char) : Encoder :=
  if c.toNat < value then { e with delta := e.delta + 1 }
  else if c.toNat = value then
    { out := e.out ++ numberChars e.bias 36 e.delta, delta := 0
      bias := adapt e.delta (e.handled + 1) (e.handled == basic), handled := e.handled + 1 }
  else e

/-- One pass for each value, in ascending order. -/
def Encoder.passes (input : List Char) (basic : Nat) : List Nat → Nat → Encoder → Encoder
  | [], _, e => e
  | value :: rest, next, e =>
    let start := { e with delta := e.delta + (value - next) * (e.handled + 1) }
    let done := input.foldl (Encoder.see basic value) start
    passes input basic rest (value + 1) { done with delta := done.delta + 1 }

def insertValue (x : Nat) : List Nat → List Nat
  | [] => [x]
  | y :: ys => if x < y then x :: y :: ys else if x = y then y :: ys else y :: insertValue x ys

def isAscii (c : Char) : Bool := c.toNat < 128

def encode (input : List Char) : List Char :=
  let basic := input.filter isAscii
  let values := ((input.filter (!isAscii ·)).map Char.toNat).foldr insertValue []
  let extended := (Encoder.passes input basic.length values 128 ⟨[], 0, 72, basic.length⟩).out
  basic ++ (if basic.isEmpty then [] else ['-']) ++ extended

/-- A number with the given weight of its first digit, added to a start, and what follows it. -/
def number? (bias : Nat) : List Char → (k weight start : Nat) → Option (Nat × List Char)
  | [], _, _, _ => none
  | c :: rest, k, weight, start =>
    (digitValue? c).bind fun d =>
      let t := threshold k bias
      if d < t then some (start + d * weight, rest)
      else number? bias rest (k + 36) (weight * (36 - t)) (start + d * weight)

theorem number?_length (bias : Nat) (cs : List Char) (k weight start : Nat) (found : Nat × List Char)
    (h : number? bias cs k weight start = some found) : found.2.length < cs.length := by
  induction cs generalizing k weight start with
  | nil => simp [number?] at h
  | cons c rest ih =>
    rw [number?, Option.bind_eq_some_iff] at h
    obtain ⟨d, _, h⟩ := h
    dsimp only at h
    split at h
    · cases h; simp
    · have := ih _ _ _ h
      simp only [List.length_cons]
      omega

/-- Puts characters into those found so far, each at the position and of the value that its number gives. -/
def insertAll (bias value position : Nat) (found : List Char) : List Char → Option (List Char)
  | [] => some found
  | c :: rest =>
    match h : number? bias (c :: rest) 36 1 position with
    | none => none
    | some (total, rest') =>
      let count := found.length + 1
      let value := value + total / count
      let position' := total % count
      if value < 0xD800 || (0xDFFF < value && value < 0x110000) then
        insertAll (adapt (total - position) count (position == 0)) value (position' + 1)
          (found.insertIdx position' (Char.ofNat value)) rest'
      else none
termination_by cs => cs.length
decreasing_by
  have := number?_length bias (c :: rest) 36 1 position (total, rest') h
  simpa using this

/-- The text before the last hyphen, and the text after it. -/
def splitAtLastHyphen (cs : List Char) : List Char × List Char :=
  let tail := (cs.reverse.takeWhile (· != '-')).reverse
  if cs.contains '-' then (cs.take (cs.length - tail.length - 1), tail) else ([], cs)

def decode? (cs : List Char) : Option (List Char) :=
  let (basic, extended) := splitAtLastHyphen cs
  insertAll 72 128 0 basic extended

end Gazetteer.Url.Punycode
