import Gazetteer.Number.Decimal
import Gazetteer.Proofs.Number.Rounding
import Gazetteer.Proofs.Text.Digits

/-!
The texts that spell decimals, and what they spell.  The grammar knows nothing of mantissas; the reader takes no text that
the grammar does not have.
-/

namespace Gazetteer.Number

open Text

/-- The rest of an unsigned numeral, behind its point or before it and behind a digit or before all of them: its digits, of
which so many are decimals, at most one point, and underscores behind the first digit. -/
inductive Figures : (pointed begun : Bool) → List Char → (ds : List Char) → (decimals : Nat) → Prop
  | done {pointed : Bool} : Figures pointed true [] [] 0
  | whole {begun : Bool} {c : Char} {cs ds : List Char} {n : Nat} (digit : c.isDigit = true)
      (rest : Figures false true cs ds n) : Figures false begun (c :: cs) (c :: ds) n
  | decimal {begun : Bool} {c : Char} {cs ds : List Char} {n : Nat} (digit : c.isDigit = true)
      (rest : Figures true true cs ds n) : Figures true begun (c :: cs) (c :: ds) (n + 1)
  | underscore {pointed : Bool} {cs ds : List Char} {n : Nat} (rest : Figures pointed true cs ds n) :
      Figures pointed true ('_' :: cs) ds n
  | point {begun : Bool} {cs ds : List Char} {n : Nat} (rest : Figures true begun cs ds n) :
      Figures false begun ('.' :: cs) ds n

def Unsigned (cs : List Char) (q : ℚ) : Prop := ∃ ds n, Figures false false cs ds n ∧ q = digitsValue ds / 10 ^ n

inductive Plain : List Char → ℚ → Prop
  | unsigned {cs : List Char} {q : ℚ} (numeral : Unsigned cs q) : Plain cs q
  | plus {cs : List Char} {q : ℚ} (numeral : Unsigned cs q) : Plain ('+' :: cs) q
  | minus {cs : List Char} {q : ℚ} (numeral : Unsigned cs q) : Plain ('-' :: cs) (-q)

def IsExponent (cs : List Char) (n : Nat) : Prop := IsNatural cs n ∧ n ≤ 28

/-- A numeral, the value of what stands before its exponent, and its value. -/
inductive Literal : List Char → (base value : ℚ) → Prop
  | plain {cs : List Char} {q : ℚ} (plain : Plain cs q) : Literal cs q q
  | raised {cs es : List Char} {q : ℚ} {c : Char} {n : Nat} (plain : Plain cs q) (mark : c = 'e' ∨ c = 'E')
      (exponent : IsExponent es n) : Literal (cs ++ c :: es) q (q * 10 ^ n)
  | lowered {cs es : List Char} {q : ℚ} {c : Char} {n : Nat} (plain : Plain cs q) (mark : c = 'e' ∨ c = 'E')
      (exponent : IsExponent es n) : Literal (cs ++ c :: '-' :: es) q (q / 10 ^ n)

/-! ### Characters -/

variable {cs ds : List Char} {pointed begun : Bool} {n : Nat} {q : ℚ}

theorem exponentMark_eq_false_of_isDigit {c : Char} (digit : c.isDigit = true) : Decimal.exponentMark c = false := by
  have small : c ≠ 'e' := by
    rintro rfl
    exact absurd digit (by decide)
  have large : c ≠ 'E' := by
    rintro rfl
    exact absurd digit (by decide)
  simp [Decimal.exponentMark, small, large]

theorem Figures.no_mark (figures : Figures pointed begun cs ds n) : ∀ c ∈ cs, Decimal.exponentMark c = false := by
  induction figures with
  | done => nofun
  | whole digit _ ih => exact List.forall_mem_cons.mpr ⟨exponentMark_eq_false_of_isDigit digit, ih⟩
  | decimal digit _ ih => exact List.forall_mem_cons.mpr ⟨exponentMark_eq_false_of_isDigit digit, ih⟩
  | underscore _ ih => exact List.forall_mem_cons.mpr ⟨rfl, ih⟩
  | point _ ih => exact List.forall_mem_cons.mpr ⟨rfl, ih⟩

theorem Plain.no_mark (plain : Plain cs q) : ∀ c ∈ cs, Decimal.exponentMark c = false := by
  cases plain with
  | unsigned numeral =>
    obtain ⟨_, _, figures, -⟩ := numeral
    exact figures.no_mark
  | plus numeral =>
    obtain ⟨_, _, figures, -⟩ := numeral
    exact List.forall_mem_cons.mpr ⟨rfl, figures.no_mark⟩
  | minus numeral =>
    obtain ⟨_, _, figures, -⟩ := numeral
    exact List.forall_mem_cons.mpr ⟨rfl, figures.no_mark⟩

/-! ### What the reader takes -/

namespace Decimal

def Fits (mantissa scale : Nat) : Prop := mantissa ≤ greatestMantissa ∧ scale ≤ greatestScale

/-- A numeral read so far fits, and before its first digit it has nothing that counts. -/
structure Prefix.Sound (p : Prefix) : Prop where
  fits : Fits p.mantissa p.scale
  untouched : p.begun = false → p.mantissa = 0 ∧ p.scale = 0 ∧ p.full = false

theorem Prefix.sound_of_begun {p : Prefix} (fits : Fits p.mantissa p.scale) (begun : p.begun = true) : p.Sound :=
  ⟨fits, fun fresh => absurd begun (Bool.eq_false_iff.mp fresh)⟩

theorem Prefix.sound_start : ({} : Prefix).Sound := ⟨⟨Nat.zero_le _, Nat.zero_le _⟩, fun _ => ⟨rfl, rfl, rfl⟩⟩

theorem Prefix.round?_spec {p p' : Prefix} {digit : Nat} (fits : Fits p.mantissa p.scale)
    (round : p.round? digit = some p') :
    Fits p'.mantissa p'.scale ∧ p'.pointed = p.pointed ∧ p'.begun = p.begun := by
  obtain ⟨mantissa, scale⟩ := fits
  unfold round? at round
  split at round
  · cases round; exact ⟨⟨mantissa, scale⟩, rfl, rfl⟩
  split at round
  next room => cases round; exact ⟨⟨room, scale⟩, rfl, rfl⟩
  split at round
  · cases round
  · cases round
    have smaller : (p.mantissa + 5) / 10 ≤ greatestMantissa := by
      rw [greatestMantissa] at mantissa ⊢
      omega
    exact ⟨⟨smaller, Nat.le_trans (Nat.sub_le _ _) scale⟩, rfl, rfl⟩

/-- A digit leaves the point where it is, and after it the numeral has begun. -/
theorem Prefix.digit?_spec {p p' : Prefix} {digit : Nat} (sound : p.Sound) (small : digit < 10)
    (step : p.digit? digit = some p') : Fits p'.mantissa p'.scale ∧ p'.pointed = p.pointed ∧ p'.begun = true := by
  obtain ⟨fits, untouched⟩ := sound
  unfold digit? at step
  dsimp only at step
  cases begun : p.begun with
  | false =>
    obtain ⟨mantissa, scale, full⟩ := untouched begun
    have room : 10 * 0 + digit ≤ greatestMantissa := by
      rw [greatestMantissa]
      omega
    have before_last : ¬ greatestScale ≤ 0 := by decide
    rw [mantissa, scale, full] at step
    simp only [Bool.false_eq_true, if_false, before_last, decide_false, Bool.and_false, room, if_true] at step
    cases step
    refine ⟨⟨room, ?_⟩, rfl, rfl⟩
    change (if p.pointed then 1 else 0) ≤ greatestScale
    split <;> decide
  | true =>
    split at step
    · cases step; exact ⟨fits, rfl, begun⟩
    split at step
    · exact begun ▸ round?_spec fits step
    next before_last =>
    split at step
    next room =>
      cases step
      refine ⟨⟨room, ?_⟩, rfl, rfl⟩
      change (if p.pointed then p.scale + 1 else 0) ≤ greatestScale
      split
      next pointed =>
        rw [pointed, Bool.true_and, decide_eq_true_eq] at before_last
        exact Nat.lt_of_not_le before_last
      · exact Nat.zero_le _
    split at step
    · exact begun ▸ round?_spec fits step
    · cases step

/-- A character that is read leaves a sound front, and stands in front of a numeral where one stands behind it. -/
theorem Prefix.step?_spec {p p' : Prefix} {c : Char} (sound : p.Sound) (step : p.step? c = some p') :
    p'.Sound ∧ ∀ cs ds n, Figures p'.pointed p'.begun cs ds n → ∃ ds n, Figures p.pointed p.begun (c :: cs) ds n := by
  unfold step? at step
  split at step
  next digit =>
    obtain ⟨fits, pointed, begun⟩ := digit?_spec sound (digitValue_lt digit) step
    refine ⟨sound_of_begun fits begun, fun cs ds n rest => ?_⟩
    rw [pointed, begun] at rest
    cases place : p.pointed with
    | false => exact ⟨c :: ds, n, .whole digit (place ▸ rest)⟩
    | true => exact ⟨c :: ds, n + 1, .decimal digit (place ▸ rest)⟩
  split at step
  next point =>
    split at step
    · cases step
    next before =>
      cases step
      refine ⟨⟨sound.fits, sound.untouched⟩, fun cs ds n rest => ?_⟩
      rw [point, Bool.eq_false_iff.mpr before]
      exact ⟨ds, n, .point rest⟩
  split at step
  next underscore =>
    split at step
    next begun =>
      cases step
      refine ⟨sound, fun cs ds n rest => ?_⟩
      rw [begun] at rest ⊢
      exact ⟨ds, n, underscore ▸ .underscore rest⟩
    · cases step
  · cases step

theorem Prefix.run?_spec {p p' : Prefix} {cs : List Char} (sound : p.Sound) (run : p.run? cs = some p') :
    Fits p'.mantissa p'.scale ∧ (p'.begun = true → ∃ ds n, Figures p.pointed p.begun cs ds n) := by
  induction cs generalizing p with
  | nil =>
    cases run
    exact ⟨sound.fits, fun begun => ⟨[], 0, begun ▸ .done⟩⟩
  | cons c cs ih =>
    rw [run?, Option.bind_eq_some_iff] at run
    obtain ⟨next, step, run⟩ := run
    obtain ⟨sound, extend⟩ := step?_spec sound step
    obtain ⟨fits, figures⟩ := ih sound run
    refine ⟨fits, fun ended => ?_⟩
    obtain ⟨ds, n, rest⟩ := figures ended
    exact extend cs ds n rest

theorem unsigned?_spec {negative : Bool} {cs : List Char} {d : Decimal} (read : unsigned? negative cs = some d) :
    Fits d.mantissa d.scale ∧ ∃ q, Unsigned cs q := by
  rw [unsigned?, Option.bind_eq_some_iff] at read
  obtain ⟨p, run, read⟩ := read
  obtain ⟨fits, figures⟩ := Prefix.run?_spec Prefix.sound_start run
  split at read
  next begun =>
    cases read
    obtain ⟨ds, n, figures⟩ := figures begun
    exact ⟨fits, _, ds, n, figures, rfl⟩
  · cases read

theorem plain?_spec {cs : List Char} {d : Decimal} (read : plain? cs = some d) :
    Fits d.mantissa d.scale ∧ ∃ q, Plain cs q := by
  unfold plain? at read
  split at read
  · exact (unsigned?_spec read).imp_right fun ⟨q, numeral⟩ => ⟨-q, .minus numeral⟩
  · exact (unsigned?_spec read).imp_right fun ⟨q, numeral⟩ => ⟨q, .plus numeral⟩
  · exact (unsigned?_spec read).imp_right fun ⟨q, numeral⟩ => ⟨q, .unsigned numeral⟩

theorem exponentMark_iff {c : Char} : exponentMark c = true ↔ c = 'e' ∨ c = 'E' := by
  simp [exponentMark]

theorem lower_fits {d : Decimal} (fits : Fits d.mantissa d.scale) (places : Nat) :
    Fits (d.lower places).mantissa (d.lower places).scale := by
  unfold lower
  dsimp only
  split
  next inside => exact ⟨fits.1, inside⟩
  · exact ⟨Nat.le_trans (roundHalfUp_le (Nat.pow_pos (by decide))) fits.1, Nat.le_refl _⟩

theorem raise?_spec {d r : Decimal} {places : Nat} (fits : Fits d.mantissa d.scale) (raise : d.raise? places = some r) :
    Fits r.mantissa r.scale ∧ places ≤ 28 := by
  unfold raise? at raise
  split at raise
  next inside =>
    cases raise
    exact ⟨⟨fits.1, Nat.le_trans (Nat.sub_le _ _) fits.2⟩, Nat.le_trans inside fits.2⟩
  split at raise
  next small =>
    dsimp only at raise
    split at raise
    next room =>
      cases raise
      exact ⟨⟨room, Nat.zero_le _⟩, small⟩
    · cases raise
  · cases raise

theorem scientific?_spec {cs : List Char} {d : Decimal} (read : scientific? cs = some d) :
    Fits d.mantissa d.scale ∧ ∃ base value, Literal cs base value := by
  have parts : cs.takeWhile (!exponentMark ·) ++ cs.dropWhile (!exponentMark ·) = cs := List.takeWhile_append_dropWhile
  have first := List.head?_dropWhile_not (!exponentMark ·) cs
  unfold scientific? at read
  split at read
  · cases read
  next c es behind =>
    have mark : exponentMark c = true := by
      rw [behind] at first
      simpa using first
    rw [Option.bind_eq_some_iff] at read
    obtain ⟨base, plain, read⟩ := read
    obtain ⟨fits, q, plain⟩ := plain?_spec plain
    rw [behind] at parts
    split at read
    next digits =>
      rw [Option.bind_eq_some_iff] at read
      obtain ⟨n, exponent, read⟩ := read
      split at read
      next small =>
        cases read
        rw [readNatural_toOption_eq_some_iff] at exponent
        have lowered := Literal.lowered plain (exponentMark_iff.mp mark) ⟨exponent.1, small⟩
        exact ⟨lower_fits fits n, q, _, parts ▸ lowered⟩
      · cases read
    next =>
      rw [Option.bind_eq_some_iff] at read
      obtain ⟨n, exponent, read⟩ := read
      obtain ⟨raised_fits, small⟩ := raise?_spec fits read
      rw [readNatural_toOption_eq_some_iff] at exponent
      have raised := Literal.raised plain (exponentMark_iff.mp mark) ⟨exponent.1, small⟩
      exact ⟨raised_fits, q, _, parts ▸ raised⟩

/-- What is read fits, and the text is one that the grammar has. -/
theorem read?_spec {cs : List Char} {d : Decimal} (read : read? cs = some d) :
    Fits d.mantissa d.scale ∧ ∃ base value, Literal cs base value := by
  rcases Option.or_eq_some_iff.mp read with plain | ⟨-, scientific⟩
  · exact (plain?_spec plain).imp_right fun ⟨q, plain⟩ => ⟨q, q, .plain plain⟩
  · exact scientific?_spec scientific

end Decimal

end Gazetteer.Number
