import Gazetteer.Proofs.Number.Literal
import Mathlib.Tactic.Ring

/-!
Exact reading.  A numeral whose value a decimal has room for is read as that value, also where its digits are more than fit:
those that find no room are zeros then.  The same holds of a numeral with an exponent if what stands before the exponent
has room as well.
-/

namespace Gazetteer.Number

open Text

/-- A number that a decimal has room for: a mantissa of 96 bits over a power of ten, of at most 28 places. -/
def Representable (q : ℚ) : Prop := ∃ m k : ℕ, m < 2 ^ 96 ∧ k ≤ 28 ∧ |q| = m / 10 ^ k

namespace Decimal

def value (d : Decimal) : ℚ := if d.negative then -(d.mantissa / 10 ^ d.scale) else d.mantissa / 10 ^ d.scale

/-! ### Room -/

def HasRoom (n s : Nat) : Prop := ∃ m k, Fits m k ∧ n * 10 ^ k = m * 10 ^ s

theorem div_eq_div_iff_mul {n m s k : Nat} : (n : ℚ) / 10 ^ s = m / 10 ^ k ↔ n * 10 ^ k = m * 10 ^ s := by
  rw [div_eq_div_iff (by positivity) (by positivity)]
  exact_mod_cast Iff.rfl

theorem representable_iff_hasRoom {q : ℚ} {n s : Nat} (size : |q| = n / 10 ^ s) : Representable q ↔ HasRoom n s := by
  have bits (m : Nat) : m < 2 ^ 96 ↔ m ≤ greatestMantissa := by
    rw [greatestMantissa]
    omega
  simp only [Representable, size, div_eq_div_iff_mul, HasRoom, Fits, bits, greatestScale, and_assoc]

theorem abs_value (d : Decimal) : |d.value| = d.mantissa / 10 ^ d.scale := by
  have size : |(d.mantissa : ℚ) / 10 ^ d.scale| = d.mantissa / 10 ^ d.scale := abs_of_nonneg (by positivity)
  rw [value]
  split
  · rw [abs_neg, size]
  · exact size

/-- What is no larger than a number, at as many places as the mantissa of that number has or fewer, is no larger than the
mantissa. -/
theorem le_of_mul_le {a n m j k l : Nat} (below : a * 10 ^ l ≤ n) (same : n * 10 ^ k = m * 10 ^ (j + l)) (fewer : j ≤ k) :
    a ≤ m := by
  have unit : 0 < 10 ^ l * 10 ^ j := by positivity
  refine Nat.le_of_mul_le_mul_right ?_ unit
  calc a * (10 ^ l * 10 ^ j) = a * 10 ^ l * 10 ^ j := (Nat.mul_assoc _ _ _).symm
    _ ≤ n * 10 ^ k := Nat.mul_le_mul below (Nat.pow_le_pow_right (by decide) fewer)
    _ = m * (10 ^ l * 10 ^ j) := by rw [same, Nat.add_comm, Nat.pow_add]

theorem HasRoom.whole_le {a n s l : Nat} (room : HasRoom n s) (below : a * 10 ^ l ≤ n) (inside : s ≤ l) :
    a ≤ greatestMantissa := by
  obtain ⟨m, k, ⟨small, -⟩, same⟩ := room
  have whole : a * 10 ^ s ≤ n := Nat.le_trans (Nat.mul_le_mul_left a (Nat.pow_le_pow_right (by decide) inside)) below
  exact Nat.le_trans (le_of_mul_le whole (by rwa [Nat.zero_add]) (Nat.zero_le k)) small

/-- Where a decimal is full, what stands behind it in a number that has room is nothing. -/
theorem HasRoom.rest_eq_zero {a r s l : Nat} (room : HasRoom (10 ^ (l + 1) * a + r) (s + (l + 1))) (small : r < 10 ^ (l + 1))
    (full : greatestScale ≤ s ∨ greatestMantissa < 10 * a + r / 10 ^ l) : r = 0 := by
  obtain ⟨m, k, ⟨mantissa, scale⟩, same⟩ := room
  rcases Nat.lt_or_ge s k with more | fewer
  · have no_place : ¬ greatestScale ≤ s := by omega
    have front : (10 * a + r / 10 ^ l) * 10 ^ l ≤ 10 ^ (l + 1) * a + r := by
      calc (10 * a + r / 10 ^ l) * 10 ^ l = 10 ^ (l + 1) * a + r / 10 ^ l * 10 ^ l := by ring
        _ ≤ 10 ^ (l + 1) * a + r := Nat.add_le_add_left (Nat.div_mul_le_self _ _) _
    have places : s + (l + 1) = s + 1 + l := by omega
    have bounded := le_of_mul_le front (places ▸ same) more
    have above := full.resolve_left no_place
    omega
  · have cancelled : 10 ^ (l + 1) * a + r = 10 ^ (l + 1) * (m * 10 ^ (s - k)) := by
      have places : s + (l + 1) = l + 1 + (s - k) + k := by omega
      rw [places, Nat.pow_add, Nat.pow_add] at same
      refine Nat.eq_of_mul_eq_mul_right (Nat.pow_pos (by decide)) (same.trans ?_)
      ring
    have divides : 10 ^ (l + 1) ∣ r := (Nat.dvd_add_right ⟨a, rfl⟩).mp ⟨_, cancelled⟩
    exact Nat.eq_zero_of_dvd_of_lt divides small

/-! ### Digits -/

namespace Prefix

variable {p : Prefix} {c : Char} {cs ds : List Char} {n : Nat}

theorem step?_digit (digit : c.isDigit = true) : p.step? c = p.digit? (digitValue c) := by
  rw [step?, if_pos digit]

theorem step?_underscore (begun : p.begun = true) : p.step? '_' = some p := by
  simp [step?, begun]

theorem step?_point (before : p.pointed = false) : p.step? '.' = some { p with pointed := true } := by
  simp [step?, before]

def put (p : Prefix) (digit : Nat) : Prefix :=
  { p with mantissa := 10 * p.mantissa + digit, scale := if p.pointed then p.scale + 1 else 0, begun := true }

theorem digit?_of_room {digit : Nat} (open_end : p.full = false) (place : p.pointed = true → p.scale < greatestScale)
    (room : 10 * p.mantissa + digit ≤ greatestMantissa) : p.digit? digit = some (p.put digit) := by
  have not_last : ¬ (p.pointed && decide (greatestScale ≤ p.scale)) = true := by
    rw [Bool.and_eq_true, decide_eq_true_eq]
    exact fun ⟨pointed, last⟩ => Nat.not_le_of_lt (place pointed) last
  simp only [digit?, put, open_end, Bool.false_eq_true, if_false, not_last, room, if_true]

theorem digit?_zero (pointed : p.pointed = true) (open_end : p.full = false)
    (last : greatestScale ≤ p.scale ∨ greatestMantissa < 10 * p.mantissa) :
    p.digit? 0 = some { p with full := true } := by
  have round : p.round? 0 = some { p with full := true } := if_pos (by decide)
  unfold digit?
  grind

theorem run?_of_full (full : p.full = true) (begun : p.begun = true)
    (figures : Figures true true cs ds n) : p.run? cs = some p := by
  induction cs generalizing ds n with
  | nil => rfl
  | cons c cs ih =>
    cases figures with
    | decimal digit rest =>
      have stays : p.digit? (digitValue c) = some p := if_pos full
      rw [run?, step?_digit digit, stays, Option.bind_some, ih rest]
    | underscore rest => rw [run?, step?_underscore begun, Option.bind_some, ih rest]

theorem decimals_le {pointed begun : Bool} (figures : Figures pointed begun cs ds n) :
    n ≤ ds.length ∧ (pointed = true → n = ds.length) := by
  induction figures with
  | done => exact ⟨Nat.le_refl _, fun _ => rfl⟩
  | whole _ _ ih => exact ⟨Nat.le_succ_of_le ih.1, nofun⟩
  | decimal _ _ ih => exact ⟨Nat.succ_le_succ ih.1, fun _ => congrArg _ (ih.2 rfl)⟩
  | underscore _ ih => exact ih
  | point _ ih => exact ⟨ih.1, nofun⟩

theorem allDigits_of_figures {pointed begun : Bool} (figures : Figures pointed begun cs ds n) : AllDigits ds := by
  induction figures with
  | done => nofun
  | whole digit _ ih => exact List.forall_mem_cons.mpr ⟨digit, ih⟩
  | decimal digit _ ih => exact List.forall_mem_cons.mpr ⟨digit, ih⟩
  | underscore _ ih => exact ih
  | point _ ih => exact ih

/-- Reading on takes what is read to the number `number / 10 ^ places`. -/
def Reads (p : Prefix) (cs : List Char) (number places : Nat) : Prop :=
  ∃ p', p.run? cs = some p' ∧ p'.begun = true ∧ p'.mantissa * 10 ^ places = number * 10 ^ p'.scale

theorem Reads.behind {next : Prefix} {number places : Nat} (step : p.step? c = some next)
    (rest : next.Reads cs number places) : p.Reads (c :: cs) number places := by
  obtain ⟨p', run, value⟩ := rest
  refine ⟨p', ?_, value⟩
  rw [run?, step, Option.bind_some, run]

theorem zeros_of_no_room (digits : AllDigits (c :: ds))
    (room : HasRoom (10 ^ (c :: ds).length * p.mantissa + digitsValue (c :: ds)) (p.scale + (c :: ds).length))
    (no_room : ¬ (p.scale < greatestScale ∧ 10 * p.mantissa + digitValue c ≤ greatestMantissa)) :
    digitsValue (c :: ds) = 0 ∧ digitValue c = 0 := by
  have behind := digitsValue_lt (List.forall_mem_cons.mp digits).2
  have leading : digitsValue (c :: ds) / 10 ^ ds.length = digitValue c := by
    rw [digitsValue_cons, Nat.mul_add_div (Nat.pow_pos (by decide)), Nat.div_eq_of_lt behind, Nat.add_zero]
  have nothing : digitsValue (c :: ds) = 0 := by
    refine room.rest_eq_zero (digitsValue_lt digits) ?_
    rw [leading]
    omega
  exact ⟨nothing, by rw [← leading, nothing, Nat.zero_div]⟩

/-- Digits behind the point that find no room in a number that has room are zeros, and nothing is lost with them. -/
theorem reads_of_no_room (sound : p.Sound) (pointed : p.pointed = true) (open_end : p.full = false)
    (digit : c.isDigit = true) (rest : Figures true true cs ds n)
    (room : HasRoom (10 ^ (c :: ds).length * p.mantissa + digitsValue (c :: ds)) (p.scale + (n + 1)))
    (no_room : ¬ (p.scale < greatestScale ∧ 10 * p.mantissa + digitValue c ≤ greatestMantissa)) :
    p.Reads (c :: cs) (10 ^ (c :: ds).length * p.mantissa + digitsValue (c :: ds)) (p.scale + (n + 1)) := by
  obtain rfl : n = ds.length := (decimals_le rest).2 rfl
  have digits : AllDigits (c :: ds) := List.forall_mem_cons.mpr ⟨digit, allDigits_of_figures rest⟩
  obtain ⟨nothing, zero⟩ := zeros_of_no_room digits room no_room
  have begun : p.begun = true := by
    refine Bool.of_not_eq_false fun fresh => no_room ?_
    obtain ⟨mantissa, scale, -⟩ := sound.untouched fresh
    rw [mantissa, scale, zero]
    decide
  have step : p.step? c = some { p with full := true } := by
    rw [step?_digit digit, zero]
    exact digit?_zero pointed open_end (by omega)
  refine .behind step ⟨{ p with full := true }, run?_of_full rfl begun rest, begun, ?_⟩
  rw [nothing, List.length_cons]
  ring

theorem number_cons (a : Nat) (c : Char) (ds : List Char) :
    10 ^ (c :: ds).length * a + digitsValue (c :: ds) = 10 ^ ds.length * (10 * a + digitValue c) + digitsValue ds := by
  rw [List.length_cons, digitsValue_cons]
  ring

/-- A numeral that has room is read as its value. -/
theorem reads_of_hasRoom {pointed begun : Bool} (figures : Figures pointed begun cs ds n) (place : p.pointed = pointed)
    (start : p.begun = begun) (open_end : p.full = false) (whole : p.pointed = false → p.scale = 0) (sound : p.Sound)
    (room : HasRoom (10 ^ ds.length * p.mantissa + digitsValue ds) (p.scale + n)) :
    p.Reads cs (10 ^ ds.length * p.mantissa + digitsValue ds) (p.scale + n) := by
  -- what stands behind a character makes the same number of what has been read with it, so there is room for it still
  induction figures generalizing p with
  | done =>
    refine ⟨p, rfl, start, ?_⟩
    simp [digitsValue]
  | underscore _ ih => exact .behind (step?_underscore start) (ih place start open_end whole sound room)
  | point _ ih =>
    exact .behind (step?_point place) (ih rfl start open_end (fun before => Bool.noConfusion before)
      ⟨sound.fits, sound.untouched⟩ room)
  | @whole begun c cs ds n digit rest ih =>
    have scale : (p.put (digitValue c)).scale = p.scale := by rw [put, place, whole place]; rfl
    have inside : p.scale + n ≤ ds.length := by
      rw [whole place, Nat.zero_add]
      exact (decimals_le rest).1
    rw [number_cons] at room ⊢
    have front : (10 * p.mantissa + digitValue c) * 10 ^ ds.length ≤
        10 ^ ds.length * (10 * p.mantissa + digitValue c) + digitsValue ds := by
      rw [Nat.mul_comm]
      exact Nat.le_add_right _ _
    have small : 10 * p.mantissa + digitValue c ≤ greatestMantissa := room.whole_le front inside
    have step := digit?_of_room open_end (fun pointed => absurd pointed (Bool.eq_false_iff.mp place)) small
    rw [← scale] at room ⊢
    exact .behind ((step?_digit digit).trans step) (ih (p := p.put (digitValue c)) place rfl open_end
      (fun _ => scale.trans (whole place)) (sound_of_begun ⟨small, scale.trans_le sound.fits.2⟩ rfl) room)
  | @decimal begun c cs ds n digit rest ih =>
    by_cases roomy : p.scale < greatestScale ∧ 10 * p.mantissa + digitValue c ≤ greatestMantissa
    · have scale : (p.put (digitValue c)).scale = p.scale + 1 := by rw [put, place]; rfl
      have step := digit?_of_room open_end (fun _ => roomy.1) roomy.2
      rw [number_cons, Nat.add_comm n 1, ← Nat.add_assoc, ← scale] at room ⊢
      exact .behind ((step?_digit digit).trans step) (ih (p := p.put (digitValue c)) place rfl open_end
        (fun before => absurd place (Bool.eq_false_iff.mp before)) (sound_of_begun ⟨roomy.2, scale ▸ roomy.1⟩ rfl) room)
    · exact reads_of_no_room sound place open_end digit rest room roomy

end Prefix

/-! ### Numerals -/

variable {cs : List Char} {q : ℚ} {d : Decimal} {n : Nat}

theorem unsigned?_exact (negative : Bool) (numeral : Unsigned cs q) (room : Representable q) :
    ∃ d, unsigned? negative cs = some d ∧ d.value = if negative then -q else q := by
  obtain ⟨ds, n, figures, rfl⟩ := numeral
  have size : |(digitsValue ds : ℚ) / 10 ^ n| = digitsValue ds / 10 ^ n := abs_of_nonneg (by positivity)
  have room := (representable_iff_hasRoom size).mp room
  obtain ⟨p, run, ended, number⟩ := Prefix.reads_of_hasRoom (p := {}) figures rfl rfl rfl (fun _ => rfl)
    Prefix.sound_start (by rwa [Nat.mul_zero, Nat.zero_add, Nat.zero_add])
  rw [Nat.mul_zero, Nat.zero_add, Nat.zero_add] at number
  refine ⟨⟨negative, p.mantissa, p.scale⟩, ?_, ?_⟩
  · rw [unsigned?, run, Option.bind_some, if_pos ended]
  · rw [value, div_eq_div_iff_mul.mpr number]

theorem representable_neg : Representable (-q) ↔ Representable q := by rw [Representable, Representable, abs_neg]

theorem plain?_exact (plain : Plain cs q) (room : Representable q) : ∃ d, plain? cs = some d ∧ d.value = q := by
  cases plain with
  | unsigned numeral =>
    obtain ⟨d, read, value⟩ := unsigned?_exact false numeral room
    obtain ⟨ds, n, figures, -⟩ := numeral
    refine ⟨d, ?_, value⟩
    -- no unsigned numeral starts with a sign
    unfold plain?
    split
    · cases figures with
      | whole digit => exact absurd digit (by decide)
    · cases figures with
      | whole digit => exact absurd digit (by decide)
    · exact read
  | plus numeral =>
    obtain ⟨d, read, value⟩ := unsigned?_exact false numeral room
    exact ⟨d, read, value⟩
  | minus numeral =>
    obtain ⟨d, read, value⟩ := unsigned?_exact true numeral (representable_neg.mp room)
    exact ⟨d, read, value⟩

/-! ### Exponents -/

theorem value_eq_mul {r : Decimal} {x : ℚ} (sign : r.negative = d.negative)
    (size : (r.mantissa : ℚ) / 10 ^ r.scale = d.mantissa / 10 ^ d.scale * x) : r.value = d.value * x := by
  rw [value, value, sign, size]
  split
  · rw [neg_mul]
  · rfl

/-- Where places beyond the last one are to be dropped from a number that has room, they are zeros. -/
theorem HasRoom.dropped {a s : Nat} (room : HasRoom a s) (beyond : greatestScale < s) :
    ∃ b, a = b * 10 ^ (s - greatestScale) := by
  obtain ⟨m, k, ⟨-, scale⟩, same⟩ := room
  have places : s = s - greatestScale + (greatestScale - k) + k := by omega
  refine ⟨m * 10 ^ (greatestScale - k), Nat.eq_of_mul_eq_mul_right (Nat.pow_pos (n := k) (by decide : 0 < 10)) ?_⟩
  rw [same]
  nth_rewrite 1 [places]
  ring

theorem value_lower (room : Representable (d.value / 10 ^ n)) : (d.lower n).value = d.value / 10 ^ n := by
  have size : |d.value / 10 ^ n| = d.mantissa / 10 ^ (d.scale + n) := by
    rw [abs_div, abs_value, abs_of_nonneg (by positivity), div_div, pow_add]
  have room := (representable_iff_hasRoom size).mp room
  have moved : (d.mantissa : ℚ) / 10 ^ (d.scale + n) = d.mantissa / 10 ^ d.scale * (1 / 10 ^ n) := by
    rw [div_mul_div_comm, mul_one, pow_add]
  rw [div_eq_mul_one_div]
  unfold lower
  dsimp only
  split
  · exact value_eq_mul rfl moved
  next beyond =>
    obtain ⟨b, all⟩ := room.dropped (Nat.lt_of_not_le beyond)
    refine value_eq_mul rfl (Eq.trans ?_ moved)
    change (roundHalfUp d.mantissa (10 ^ (d.scale + n - greatestScale)) : ℚ) / 10 ^ greatestScale = _
    rw [div_eq_div_iff_mul, all, roundHalfUp_mul (by positivity), Nat.mul_assoc, ← Nat.pow_add,
      Nat.sub_add_cancel (Nat.le_of_not_le beyond)]

theorem value_raise? (small : n ≤ greatestScale) (room : Representable (d.value * 10 ^ n)) :
    ∃ r, d.raise? n = some r ∧ r.value = d.value * 10 ^ n := by
  unfold raise?
  split
  next inside =>
    refine ⟨_, rfl, value_eq_mul rfl ?_⟩
    change (d.mantissa : ℚ) / 10 ^ (d.scale - n) = _
    rw [div_mul_eq_mul_div, div_eq_div_iff (by positivity) (by positivity), mul_assoc, ← pow_add,
      Nat.add_sub_cancel' inside]
  next beyond =>
    have size : (↑(d.mantissa * 10 ^ (n - d.scale)) : ℚ) / 10 ^ 0 = d.mantissa / 10 ^ d.scale * 10 ^ n := by
      have places : n = n - d.scale + d.scale := (Nat.sub_add_cancel (Nat.le_of_not_le beyond)).symm
      nth_rewrite 2 [places]
      push_cast
      field_simp
      ring
    have whole : |d.value * 10 ^ n| = (↑(d.mantissa * 10 ^ (n - d.scale)) : ℚ) / 10 ^ 0 := by
      rw [abs_mul, abs_value, abs_of_nonneg (by positivity : (0 : ℚ) ≤ 10 ^ n), size]
    have room := (representable_iff_hasRoom whole).mp room
    have fits : d.mantissa * 10 ^ (n - d.scale) ≤ greatestMantissa :=
      room.whole_le (Nat.le_of_eq (Nat.mul_one _)) (Nat.le_refl 0)
    refine ⟨{ d with mantissa := d.mantissa * 10 ^ (n - d.scale), scale := 0 }, ?_, value_eq_mul rfl size⟩
    exact if_pos fits

/-! ### All texts -/

theorem parts_of_mark {c : Char} (plain : Plain cs q) (mark : c = 'e' ∨ c = 'E') (es : List Char) :
    (cs ++ c :: es).takeWhile (!exponentMark ·) = cs ∧ (cs ++ c :: es).dropWhile (!exponentMark ·) = c :: es := by
  have front : ∀ c ∈ cs, (!exponentMark c) = true := fun c member => by rw [plain.no_mark c member]; rfl
  have stop : ¬ (!exponentMark c) = true := by rw [exponentMark_iff.mpr mark]; decide
  rw [List.takeWhile_append_of_pos front, List.dropWhile_append_of_pos front]
  refine ⟨?_, List.dropWhile_cons_of_neg stop⟩
  exact (congrArg (cs ++ ·) (List.takeWhile_cons_of_neg stop)).trans (List.append_nil cs)

theorem plain?_of_mark {c : Char} {es : List Char} (mark : c = 'e' ∨ c = 'E') : plain? (cs ++ c :: es) = none := by
  refine Option.eq_none_iff_forall_ne_some.mpr fun d read => ?_
  obtain ⟨-, q, plain⟩ := plain?_spec read
  have unmarked := plain.no_mark c (List.mem_append_right _ List.mem_cons_self)
  rw [exponentMark_iff.mpr mark] at unmarked
  cases unmarked

theorem readNatural_of_isExponent {es : List Char} (exponent : IsExponent es n) :
    (readNatural greatestExponent es).toOption = some n :=
  readNatural_toOption_eq_some_iff.mpr ⟨exponent.1, Nat.le_trans exponent.2 (by decide)⟩

/-- A text that spells a number which a decimal has room for is read as that number, if there is room for what stands before
its exponent too. -/
theorem read?_exact {base value : ℚ} (literal : Literal cs base value) (base_room : Representable base)
    (room : Representable value) : ∃ d, read? cs = some d ∧ d.value = value := by
  cases literal with
  | plain plain =>
    obtain ⟨d, read, value⟩ := plain?_exact plain room
    exact ⟨d, by rw [read?, read, Option.some_or], value⟩
  | @raised cs es _ c n plain mark exponent =>
    obtain ⟨d, read, value⟩ := plain?_exact plain base_room
    obtain ⟨r, raise, raised⟩ := value_raise? exponent.2 (value ▸ room)
    obtain ⟨front, behind⟩ := parts_of_mark plain mark es
    refine ⟨r, ?_, value ▸ raised⟩
    rw [read?, plain?_of_mark mark, Option.none_or, scientific?, front, behind]
    dsimp only
    rw [read, Option.bind_some]
    split
    · exact absurd exponent.1 (not_isNatural_minus _ _)
    · rw [readNatural_of_isExponent exponent, Option.bind_some, raise]
  | @lowered cs es _ c n plain mark exponent =>
    obtain ⟨d, read, value⟩ := plain?_exact plain base_room
    obtain ⟨front, behind⟩ := parts_of_mark plain mark ('-' :: es)
    refine ⟨d.lower n, ?_, value ▸ value_lower (value ▸ room)⟩
    rw [read?, plain?_of_mark mark, Option.none_or, scientific?, front, behind]
    dsimp only
    rw [read, Option.bind_some]
    change ((readNatural greatestExponent es).toOption.bind fun n =>
      if n ≤ greatestScale then some (d.lower n) else none) = some (d.lower n)
    rw [readNatural_of_isExponent exponent, Option.bind_some]
    exact if_pos exponent.2

end Decimal

end Gazetteer.Number
