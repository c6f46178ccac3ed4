import Gazetteer.Text.Utf8

/-!
Scanning undoes encoding: each character is read from its own bytes, whatever follows.  So texts with the same
bytes are the same text.
-/

namespace Gazetteer.Text.Utf8

variable {n byte value missing low high : Nat} (rest : List UInt8)

theorem code_range (c : Char) : c.toNat < 0xD800 ∨ 0xDFFF < c.toNat ∧ c.toNat < 0x110000 := c.valid

/-! ### One byte -/

theorem scanFrom_begun {b : Begun} (small : byte < 256) (begins : lead byte = .begun b) :
    scanFrom none (.ofNat byte :: rest) = scanFrom (some b) rest := by
  have code : (UInt8.ofNat byte).toNat = byte := UInt8.toNat_ofNat_of_lt' small
  simp only [scanFrom, code, begins]

theorem scanFrom_last (small : byte < 256) (inside : low ≤ byte ∧ byte ≤ high) :
    scanFrom (some ⟨value, 0, low, high⟩) (.ofNat byte :: rest) =
      some (Char.ofNat (value * 0x40 + (byte - 0x80))) :: scanFrom none rest := by
  have code : (UInt8.ofNat byte).toNat = byte := UInt8.toNat_ofNat_of_lt' small
  simp [scanFrom, code, inside]

theorem scanFrom_inner (small : byte < 256) (inside : low ≤ byte ∧ byte ≤ high) :
    scanFrom (some ⟨value, missing + 1, low, high⟩) (.ofNat byte :: rest) =
      scanFrom (some ⟨value * 0x40 + (byte - 0x80), missing, 0x80, 0xBF⟩) rest := by
  have code : (UInt8.ofNat byte).toNat = byte := UInt8.toNat_ofNat_of_lt' small
  simp [scanFrom, code, inside]

/-! ### One character -/

theorem scanFrom_one (small : n < 0x80) :
    scanFrom none (.ofNat n :: rest) = some (Char.ofNat n) :: scanFrom none rest := by
  have code : (UInt8.ofNat n).toNat = n := UInt8.toNat_ofNat_of_lt' (Nat.lt_trans small (by decide))
  simp [scanFrom, code, lead, small]

theorem lead_two (low : 0x80 ≤ n) (high : n < 0x800) :
    lead (0xC0 + n / 0x40) = .begun ⟨n / 0x40, 0, 0x80, 0xBF⟩ := by
  simp only [lead]
  grind

/-- The first of three bytes leaves a range to the second that keeps out shorter codes and surrogates. -/
theorem lead_three (low : 0x800 ≤ n) (high : n < 0x10000) (valid : n < 0xD800 ∨ 0xDFFF < n) :
    ∃ least greatest, lead (0xE0 + n / 0x1000) = .begun ⟨n / 0x1000, 1, least, greatest⟩ ∧
      least ≤ 0x80 + n / 0x40 % 0x40 ∧ 0x80 + n / 0x40 % 0x40 ≤ greatest := by
  by_cases short : n / 0x1000 = 0
  · exact ⟨0xA0, 0xBF, by simp [lead, short], by omega, by omega⟩
  by_cases surrogates : n / 0x1000 = 0xD
  · exact ⟨0x80, 0x9F, by simp [lead, surrogates], by omega, by omega⟩
  · refine ⟨0x80, 0xBF, ?_, by omega, by omega⟩
    simp only [lead]
    grind

/-- The first of four bytes leaves a range to the second that keeps out shorter codes and those that are too great. -/
theorem lead_four (low : 0x10000 ≤ n) (high : n < 0x110000) :
    ∃ least greatest, lead (0xF0 + n / 0x40000) = .begun ⟨n / 0x40000, 2, least, greatest⟩ ∧
      least ≤ 0x80 + n / 0x1000 % 0x40 ∧ 0x80 + n / 0x1000 % 0x40 ≤ greatest := by
  by_cases short : n / 0x40000 = 0
  · exact ⟨0x90, 0xBF, by simp [lead, short], by omega, by omega⟩
  by_cases last : n / 0x40000 = 4
  · exact ⟨0x80, 0x8F, by simp [lead, last], by omega, by omega⟩
  · refine ⟨0x80, 0xBF, ?_, by omega, by omega⟩
    simp only [lead]
    grind

theorem scanFrom_encodeChar (c : Char) : scanFrom none (encodeChar c ++ rest) = some c :: scanFrom none rest := by
  have code : Char.ofNat c.toNat = c := Char.ofNat_toNat c
  have range := code_range c
  rw [encodeChar]
  generalize c.toNat = n at code range
  split
  · rename_i one
    rw [List.singleton_append, scanFrom_one rest one, code]
  split
  · rename_i two
    have value : n / 0x40 * 0x40 + (0x80 + n % 0x40 - 0x80) = n := by omega
    rw [List.cons_append, List.singleton_append, scanFrom_begun _ (by omega) (lead_two (by omega) two),
      scanFrom_last rest (by omega) (by omega), value, code]
  split
  · rename_i three
    obtain ⟨least, greatest, begins, above, below⟩ := lead_three (by omega) three (by omega)
    have value : (n / 0x1000 * 0x40 + (0x80 + n / 0x40 % 0x40 - 0x80)) * 0x40 + (0x80 + n % 0x40 - 0x80) = n := by omega
    simp only [List.cons_append, List.nil_append]
    rw [scanFrom_begun _ (by omega) begins, scanFrom_inner _ (by omega) ⟨above, below⟩,
      scanFrom_last rest (by omega) (by omega), value, code]
  · obtain ⟨least, greatest, begins, above, below⟩ := lead_four (n := n) (by omega) (by omega)
    have value : ((n / 0x40000 * 0x40 + (0x80 + n / 0x1000 % 0x40 - 0x80)) * 0x40 + (0x80 + n / 0x40 % 0x40 - 0x80)) *
        0x40 + (0x80 + n % 0x40 - 0x80) = n := by omega
    simp only [List.cons_append, List.nil_append]
    rw [scanFrom_begun _ (by omega) begins, scanFrom_inner _ (by omega) ⟨above, below⟩,
      scanFrom_inner _ (by omega) (by omega), scanFrom_last rest (by omega) (by omega), value, code]

/-! ### Texts -/

theorem scan_encode (cs : List Char) : scan (encode cs) = cs.map some := by
  induction cs with
  | nil => rfl
  | cons c cs ih =>
    have first := scanFrom_encodeChar (encode cs) c
    change scanFrom none (encodeChar c ++ encode cs) = _
    rw [first, List.map_cons, ← ih, scan]

theorem encode_injective {cs ds : List Char} (same : encode cs = encode ds) : cs = ds := by
  have scanned : cs.map some = ds.map some := by rw [← scan_encode, same, scan_encode]
  exact (List.map_inj_right fun _ _ => Option.some.inj).mp scanned

theorem bytes_injective {s t : String} (same : bytes s = bytes t) : s = t :=
  String.toList_injective (encode_injective same)

/-! ### Texts of ASCII characters -/

theorem encode_cons_ascii {c : Char} (ascii : c.toNat < 0x80) (cs : List Char) :
    encode (c :: cs) = .ofNat c.toNat :: encode cs := by
  rw [encode, List.flatMap_cons, encodeChar, if_pos ascii, List.singleton_append, encode]

/-- The bytes of ASCII characters stand in the order of the characters. -/
theorem encode_lt_iff {cs ds : List Char} (ascii : ∀ c ∈ cs, c.toNat < 0x80) (also : ∀ d ∈ ds, d.toNat < 0x80) :
    encode cs < encode ds ↔ cs < ds := by
  induction cs generalizing ds with
  | nil =>
    cases ds with
    | nil => simp [encode]
    | cons d ds =>
      rw [encode_cons_ascii (also d List.mem_cons_self)]
      exact iff_of_true (List.nil_lt_cons _ _) (List.nil_lt_cons _ _)
  | cons c cs ih =>
    cases ds with
    | nil => exact iff_of_false (List.not_lt_nil _) (List.not_lt_nil _)
    | cons d ds =>
      obtain ⟨first, rest⟩ := List.forall_mem_cons.mp ascii
      obtain ⟨other, others⟩ := List.forall_mem_cons.mp also
      have code : (UInt8.ofNat c.toNat).toNat = c.toNat := UInt8.toNat_ofNat_of_lt' (Nat.lt_trans first (by decide))
      have other_code : (UInt8.ofNat d.toNat).toNat = d.toNat :=
        UInt8.toNat_ofNat_of_lt' (Nat.lt_trans other (by decide))
      have below : UInt8.ofNat c.toNat < UInt8.ofNat d.toNat ↔ c < d := by
        rw [UInt8.lt_iff_toNat_lt, code, other_code]
        exact Iff.rfl
      have same : UInt8.ofNat c.toNat = UInt8.ofNat d.toNat ↔ c = d := by
        rw [← UInt8.toNat_inj, code, other_code, Char.toNat_inj]
      rw [encode_cons_ascii first, encode_cons_ascii other, List.cons_lt_cons_iff, List.cons_lt_cons_iff, below, same,
        ih rest others]

end Gazetteer.Text.Utf8
