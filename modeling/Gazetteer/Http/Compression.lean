import Gazetteer.Http.Message
import Gazetteer.Text.Blank

/-!
Choosing a content coding.  Clients list codings with weights from 0 to 1 in thousandths; the heaviest one
that is known is chosen, and of equal weights gzip.
-/

namespace Gazetteer.Http

inductive Coding where
  | identity
  | gzip
  deriving DecidableEq, Repr

namespace Coding

def ofName? (name : String) : Option Coding :=
  let lower := name.toLower
  if lower = "gzip" || lower = "x-gzip" then some .gzip
  else if lower = "identity" then some .identity
  else none

end Coding

def fullWeight : Nat := 1000

/-- The thousandths that up to three decimal places stand for. -/
def thousandths? (places : List Char) : Option Nat :=
  if places.length ≤ 3 && places.all Char.isDigit then
    some ((places ++ List.replicate (3 - places.length) '0').foldl (fun n c => 10 * n + (c.toNat - '0'.toNat)) 0)
  else none

def weightValue? : List Char → Option Nat
  | ['0'] => some 0
  | ['1'] => some fullWeight
  | '0' :: '.' :: places => thousandths? places
  | '1' :: '.' :: places => (thousandths? places).bind fun n => if n = 0 then some fullWeight else none
  | _ => none

def weight? : List Char → Option Nat
  | 'q' :: '=' :: value | 'Q' :: '=' :: value => weightValue? value
  | _ => none

/-- A coding with its weight. -/
structure Offer where
  coding : Coding
  weight : Nat
  deriving DecidableEq, Repr

/-- The offer in one part of a header; parts that are not understood offer nothing. -/
def offer? (part : List Char) : Option Offer :=
  let (name, rest) := Text.splitAtFirst ';' part
  (Coding.ofName? (.ofList (Text.trimChars name))).bind fun coding =>
    if part.contains ';' then (weight? (Text.trimChars rest)).map (Offer.mk coding)
    else some ⟨coding, fullWeight⟩

/-- Characters that a header can be read with. -/
def isHeaderChar (c : Char) : Bool := c = '\t' || (32 ≤ c.toNat && c.toNat < 127)

def offers (headers : List Header) : List Offer :=
  (headers.filter fun header =>
      header.1.toLower = "accept-encoding" && header.2.toList.all isHeaderChar).flatMap fun header =>
    (header.2.toList.splitOn ',').filterMap offer?

/-- The greatest weight that a coding is offered with. -/
def greatestWeight (coding : Coding) (offers : List Offer) : Nat :=
  ((offers.filter (·.coding == coding)).map (·.weight)).foldl max 0

/-- Whether a client prefers compressed content. -/
def prefersGzip (headers : List Header) : Bool :=
  let offered := offers headers
  0 < greatestWeight .gzip offered && greatestWeight .identity offered ≤ greatestWeight .gzip offered

/-- Long content depends on what the client accepts, and is compressed where the client prefers that. -/
def Response.compress (r : Response) (headers : List Header) : Response :=
  if !r.content.isLong then r
  else
    let r := r.addHeader "vary" "accept-encoding"
    if prefersGzip headers then { r.addHeader "content-encoding" "gzip" with gzipped := true } else r

end Gazetteer.Http
