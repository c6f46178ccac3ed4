import Gazetteer.Proofs.Sql.Comparison

/-!
Comparisons with values.  A placeholder stands for the value that is sent under its name, so a test has the
truth of its text with the value in place, wherever the value stands among others.
-/

namespace Gazetteer.Sql

open Gazetteer.Filter

def bindings (values : List String) : List (String × String) :=
  values.mapIdx fun index value => (parameterName index, value)

def Word.bound (named : List (String × String)) : Word → Word
  | .token (.placeholder digits) =>
    match named.lookup ("p" ++ .ofList digits) with
    | some text => .value text
    | none => .token (.placeholder digits)
  | w => w

/-- The truth of a comparison with values in the place of its placeholders. -/
def compared (truth : List Word → Truth) (text : String) (values : List String) : Truth :=
  truth ((wordsOf text).map (Word.bound (bindings values)))

theorem parameterName_inj {a b : Nat} (same : parameterName a = parameterName b) : a = b := by
  have digits : (toString a).toList = (toString b).toList := by
    simpa [parameterName] using congrArg String.toList same
  rw [← Text.digitsValue_toString a, digits, Text.digitsValue_toString]

theorem lookup_named (values : List String) (first index : Nat) :
    (values.mapIdx fun i value => (parameterName (first + i), value)).lookup (parameterName (first + index)) =
      values[index]? := by
  induction values generalizing first index with
  | nil => rfl
  | cons value rest ih =>
    rw [List.mapIdx_cons, List.lookup_cons]
    cases index with
    | zero => simp
    | succ index =>
      have other : (parameterName (first + (index + 1)) == parameterName first) = false := by
        refine beq_eq_false_iff_ne.mpr fun same => ?_
        have := parameterName_inj same
        omega
      have later := ih (first + 1) index
      simp only [Nat.add_assoc, Nat.add_comm 1] at later
      simpa [other] using later

theorem bound_ofIndex (values : List String) (index : Nat) :
    Word.bound (bindings values) (.token (.ofIndex index)) =
      match values[index]? with
      | some text => .value text
      | none => .token (.ofIndex index) := by
  have found := lookup_named values 0 index
  simp only [Nat.zero_add] at found
  have name : "p" ++ String.ofList (toString index).toList = parameterName index := by
    rw [String.ofList_toList, parameterName]
  simp only [Word.bound, Token.ofIndex, name, bindings, found]

theorem bound_wordsFrom (named : List (String × String)) (run cs : List Char) :
    (wordsFrom run (cs.map .char)).map (Word.bound named) = wordsFrom run (cs.map .char) := by
  have flushed : ∀ run : List Char, (pending run).map (Word.bound named) = pending run := by
    intro run
    cases run <;> rfl
  have own : ∀ c : Char, (Token.char c).words.map (Word.bound named) = (Token.char c).words := by
    intro c
    unfold Token.words
    split
    · rfl
    · rfl
    · split <;> rfl
    · rfl
  induction cs generalizing run with
  | nil => exact flushed run
  | cons c cs ih =>
    rw [List.map_cons, wordsFrom]
    split
    · rw [List.map_append, List.map_append, flushed, own, ih]
    · split
      · exact ih _
      · rw [List.map_append, flushed, ih]

theorem bound_words (named : List (String × String)) (s : String) :
    (words (plain s)).map (Word.bound named) = words (plain s) := bound_wordsFrom named [] s.toList

/-! ### The truth of tests -/

def Test.holds (truth : List Word → Truth) (values : List String) (t : Test) : Truth :=
  truth ((words t.tokens).map (Word.bound (bindings values)))

variable {truth : List Word → Truth} {values : List String}

theorem Test.holds_layout (t : Test) : t.holds truth values =
    truth (words (plain t.layout.before) ++
      (t.layout.operand.words.map (Word.bound (bindings values)) ++ words (plain t.layout.after))) := by
  rw [holds, words_tokens, Layout.words, List.map_append, List.map_append, bound_words, bound_words]

theorem Test.compared_sql {t : Test} (sound : t.Sound) : compared truth t.sql values = t.holds truth values := by
  rw [compared, wordsOf, ← spell_tokens, tokens_spell (template sound).readable, holds]

/-- A test of one value is the test of that value alone. -/
theorem Test.holds_value {t alone : Test} (sound : alone.Sound) {index : Nat} {text : String}
    (found : values[index]? = some text) (before : alone.layout.before = t.layout.before)
    (after : alone.layout.after = t.layout.after) (here : t.layout.operand = .value index)
    (first : alone.layout.operand = .value 0) : t.holds truth values = compared truth alone.sql [text] := by
  have word : (Operand.value index).words.map (Word.bound (bindings values)) = [.value text] := by
    simp [Operand.words, bound_ofIndex, found]
  have word_alone : (Operand.value 0).words.map (Word.bound (bindings [text])) = [.value text] := by
    simp [Operand.words, bound_ofIndex]
  rw [compared_sql sound, holds_layout, holds_layout, before, after, here, first, word, word_alone]

theorem Test.holds_equals (truth : List Word → Truth) (column : Column) {index : Nat} {text : String}
    (found : values[index]? = some text) :
    (Test.equals column index).holds truth values = compared truth (Test.equals column 0).sql [text] := by
  have sound : (Test.equals column 0).Sound := trivial
  exact holds_value sound found rfl rfl rfl rfl

theorem Test.holds_constant {t : Test} (sound : t.Sound) (constant : t.layout.operand.index? = none) :
    t.holds truth values = compared truth t.sql [] := by
  have words : t.layout.operand.words.map (Word.bound (bindings values)) =
      t.layout.operand.words.map (Word.bound (bindings [])) := by
    cases operand : t.layout.operand with
    | absent | blank => rfl
    | value index => simp [operand, Operand.index?] at constant
  rw [compared_sql sound, holds_layout, holds_layout, words]

end Gazetteer.Sql
