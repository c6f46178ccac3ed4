import Gazetteer.Proofs.Text.Split
import Gazetteer.Proofs.Text.Utf8
import Gazetteer.Text.Percent

/-!
Form coding loses nothing.  Each byte is read back from its code, whatever follows, so texts are read back from
theirs; the marks between texts are in no code, so pairs are read back too.
-/

namespace Gazetteer.Text

/-! ### Escaped bytes -/

theorem encode_append (cs ds : List Char) : Utf8.encode (cs ++ ds) = Utf8.encode cs ++ Utf8.encode ds :=
  List.flatMap_append

theorem toNat_asciiChar {n : Nat} (ascii : n < 0x80) : (Char.ofNat n).toNat = n := by
  rw [Char.ofNat, dif_pos (.inl (by omega))]
  rfl

theorem encode_asciiChar {n : Nat} (ascii : n < 0x80) : Utf8.encode [Char.ofNat n] = [.ofNat n] := by
  simp [Utf8.encode, Utf8.encodeChar, toNat_asciiChar ascii, ascii]

theorem encode_hexDigit : ∀ n < 16, Utf8.encode [hexDigit n] = [.ofNat (hexDigit n).toNat] := by decide

theorem encode_escapeByte (b : UInt8) : Utf8.encode (escapeByte b) =
    [0x25, .ofNat (hexDigit (b.toNat / 16)).toNat, .ofNat (hexDigit (b.toNat % 16)).toNat] := by
  have small := b.toNat_lt
  have parts : escapeByte b = ['%'] ++ [hexDigit (b.toNat / 16)] ++ [hexDigit (b.toNat % 16)] := rfl
  rw [parts, encode_append, encode_append, encode_hexDigit _ (by omega), encode_hexDigit _ (by omega)]
  rfl

theorem unescape_cons {b : UInt8} (plain : b ≠ 0x25) (rest : List UInt8) :
    unescape (b :: rest) = b :: unescape rest := by
  rw [unescape]
  rintro _ _ _ rfl
  exact absurd rfl plain

theorem unescape_escapeByte (b : UInt8) (rest : List UInt8) :
    unescape (Utf8.encode (escapeByte b) ++ rest) = b :: unescape rest := by
  have small := b.toNat_lt
  have code : ∀ n < 16, (UInt8.ofNat (hexDigit n).toNat).toNat = (hexDigit n).toNat := by decide
  have high := hexValue?_hexDigit (b.toNat / 16) (by omega)
  have low := hexValue?_hexDigit (b.toNat % 16) (by omega)
  have value : 16 * (b.toNat / 16) + b.toNat % 16 = b.toNat := by omega
  rw [← code _ (by omega)] at high low
  simp only [encode_escapeByte, List.cons_append, List.nil_append, unescape, high, low, value, UInt8.ofNat_toNat]

/-- Bytes are read back from codes of which each is read back, whatever follows it. -/
theorem unescape_flatMap {code : UInt8 → List UInt8} {bs : List UInt8}
    (each : ∀ b ∈ bs, ∀ rest, unescape (code b ++ rest) = b :: unescape rest) : unescape (bs.flatMap code) = bs := by
  induction bs with
  | nil => rfl
  | cons b bs ih =>
    rw [List.flatMap_cons, each b List.mem_cons_self, ih fun c member => each c (List.mem_cons_of_mem _ member)]

namespace Form

/-! ### Texts -/

theorem plainByte_ascii {b : UInt8} (plain : plainByte b = true) : b.toNat < 0x80 := by
  simp only [plainByte, Bool.or_eq_true, Bool.and_eq_true, decide_eq_true_eq, beq_iff_eq] at plain
  omega

theorem spaced_escapeByte (b : UInt8) : spaced (Utf8.encode (escapeByte b)) = Utf8.encode (escapeByte b) := by
  have small := b.toNat_lt
  have no_plus : ∀ n < 16, UInt8.ofNat (hexDigit n).toNat ≠ 0x2B := by decide
  simp [encode_escapeByte, spaced, no_plus (b.toNat / 16) (by omega), no_plus (b.toNat % 16) (by omega)]

theorem unescape_spaced_encodeByte (b : UInt8) (rest : List UInt8) :
    unescape (spaced (Utf8.encode (encodeByte b)) ++ rest) = b :: unescape rest := by
  rw [encodeByte]
  split
  next plain =>
    have other : ∀ code : UInt8, plainByte code = false → b ≠ code := by
      rintro code coded rfl
      exact absurd plain (Bool.eq_false_iff.mp coded)
    rw [encode_asciiChar (plainByte_ascii plain), UInt8.ofNat_toNat, spaced, List.map_singleton,
      if_neg (other 0x2B rfl), List.singleton_append, unescape_cons (other 0x25 rfl)]
  next =>
    split
    next space => rw [space]; exact unescape_cons (by decide) rest
    next => rw [spaced_escapeByte, unescape_escapeByte]

theorem decodeChars_encodeChars (s : String) : decodeChars (encodeChars s) = s := by
  have coded : spaced (Utf8.encode (encodeChars s)) =
      (Utf8.bytes s).flatMap fun b => spaced (Utf8.encode (encodeByte b)) := by
    rw [encodeChars, Utf8.encode, List.flatMap_assoc, spaced, List.map_flatMap]
    rfl
  rw [decodeChars, coded, unescape_flatMap fun b _ => unescape_spaced_encodeByte b, Utf8.decodeLossy, Utf8.bytes,
    Utf8.scan_encode, List.map_map]
  simp [Function.comp_def]

/-! ### Pairs -/

theorem mark_not_mem_encodeByte {mark : Char} (isMark : mark ∈ ['#', '&', '=']) (b : UInt8) : mark ∉ encodeByte b := by
  intro member
  have small := b.toNat_lt
  rw [encodeByte] at member
  split at member
  next plain =>
    have coded : ∀ mark ∈ ['#', '&', '='], plainByte (.ofNat mark.toNat) = false := by
      rw [List.forall_mem_cons, List.forall_mem_cons, List.forall_mem_singleton]
      decide
    have same : UInt8.ofNat mark.toNat = b := by
      rw [List.mem_singleton.mp member, toNat_asciiChar (plainByte_ascii plain), UInt8.ofNat_toNat]
    have not_plain := coded mark isMark
    rw [same, plain] at not_plain
    cases not_plain
  next =>
    have digits : ∀ mark ∈ ['#', '&', '='], ∀ n < 16, mark ≠ hexDigit n := by
      rw [List.forall_mem_cons, List.forall_mem_cons, List.forall_mem_singleton]
      decide
    have others : ∀ mark ∈ ['#', '&', '='], mark ≠ '+' ∧ mark ≠ '%' := by simp
    obtain ⟨no_plus, no_percent⟩ := others mark isMark
    split at member
    · exact no_plus (List.mem_singleton.mp member)
    · simp only [escapeByte, List.mem_cons, List.not_mem_nil, or_false] at member
      obtain percent | high | low := member
      · exact no_percent percent
      · exact digits mark isMark _ (by omega) high
      · exact digits mark isMark _ (by omega) low

theorem mark_not_mem_encodeChars {mark : Char} (isMark : mark ∈ ['#', '&', '=']) (s : String) :
    mark ∉ encodeChars s := by
  intro member
  obtain ⟨b, -, inside⟩ := List.mem_flatMap.mp member
  exact mark_not_mem_encodeByte isMark b inside

theorem decodePair_encodePair (pair : String × String) : decodePair (encodePair pair) = pair := by
  have no_equals : '=' ∉ encodeChars pair.1 := mark_not_mem_encodeChars (by decide) pair.1
  have cut := splitAtFirst_append no_equals (encodeChars pair.2)
  rw [decodePair, encodePair]
  simp only [cut, decodeChars_encodeChars]

theorem and_not_mem_encodePair (pair : String × String) : '&' ∉ encodePair pair := by
  rw [encodePair, List.mem_append, List.mem_cons]
  rintro (key | equals | value)
  · exact mark_not_mem_encodeChars (by decide) _ key
  · cases equals
  · exact mark_not_mem_encodeChars (by decide) _ value

theorem decodePairs_append (before after : List Char) :
    decodePairs (before ++ '&' :: after) = decodePairs before ++ decodePairs after := by
  rw [decodePairs, splitOn_append_cons, List.filter_append, List.map_append]
  rfl

theorem decodePairs_encodePair (pair : String × String) : decodePairs (encodePair pair) = [pair] := by
  have one := List.splitOn_eq_singleton (and_not_mem_encodePair pair)
  have some_char : (encodePair pair).isEmpty = false := by simp [encodePair]
  rw [decodePairs, one]
  simp [some_char, decodePair_encodePair]

/-- Pairs that were written are read. -/
theorem decodePairs_encodePairs (pairs : List (String × String)) : decodePairs (encodePairs pairs) = pairs := by
  induction pairs with
  | nil => rfl
  | cons pair rest ih =>
    cases rest with
    | nil => exact decodePairs_encodePair pair
    | cons next rest => rw [encodePairs, decodePairs_append, decodePairs_encodePair, ih, List.singleton_append]; simp

end Form

end Gazetteer.Text
