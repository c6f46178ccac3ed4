/-!
How alike two words are.  Characters match that are equal and stand near each other, each of them once; the
likeness is the mean of three shares: of the matched characters in each word, and of those among the matched
that stand in the same order.
-/

namespace Gazetteer.Text

/-- The first free place of a character among those near a place. -/
def nearPlace? (reach : Nat) (word : List Char) (used : List Nat) (c : Char) (place : Nat) : Option Nat :=
  (List.range word.length).find? fun i =>
    place ≤ i + reach && i ≤ place + reach && !used.contains i && word[i]? == some c

/-- The characters that match, in order, and the places in the other word that they take. -/
def matching (reach : Nat) (word other : List Char) : List Char × List Nat :=
  word.zipIdx.foldl
    (fun found (c, place) =>
      match nearPlace? reach other found.2 c place with
      | some i => (found.1 ++ [c], found.2 ++ [i])
      | none => found)
    ([], [])

/-- A number that is not negative, as a quotient. -/
structure Quotient where
  dividend : Nat
  divisor : Nat
  deriving DecidableEq, Repr

def Quotient.lt (a b : Quotient) : Bool := a.dividend * b.divisor < b.dividend * a.divisor

def likeness (word other : List Char) : Quotient :=
  let (n, m) := (word.length, other.length)
  let (matched, places) := matching (max n m / 2 - 1) word other
  let taken := (places.mergeSort (· ≤ ·)).filterMap (other[·]?)
  let k := matched.length
  let inOrder := k - ((matched.zip taken).countP fun pair => pair.1 != pair.2) / 2
  if k = 0 then ⟨if n = 0 && m = 0 then 1 else 0, 1⟩
  else ⟨k * m * k + k * n * k + inOrder * n * m, 3 * n * m * k⟩

/-- The words that are more than seven tenths like a word, the most alike last. -/
def similar (word : String) (others : List String) : List String :=
  let scored := others.map fun other => (other, likeness word.toList other.toList)
  ((scored.filter fun s => Quotient.lt ⟨7, 10⟩ s.2).mergeSort fun a b => !b.2.lt a.2).map (·.1)

end Gazetteer.Text
