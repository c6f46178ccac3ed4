import Gazetteer.Proofs.Sql.Spelling

/-!
The indices that texts mention.  `mentions_spell` reads them off the tokens of a template, and
`Clause.Numbered` says of a clause that it names each of its values, in order and equally often.
-/

namespace Gazetteer.Sql

def Piece.digits? : Piece → Option (List Char)
  | .char _ => none
  | .placeholder digits => some digits

/-- The indices of the placeholders of a text, in order, each with all the digits that follow it. -/
def mentions (cs : List Char) : List Nat := ((pieces cs).filterMap Piece.digits?).map Text.digitsValue

def Token.digits? : Token → Option (List Char)
  | .placeholder digits => some digits
  | _ => none

def placeholders (ts : List Token) : List (List Char) := ts.filterMap Token.digits?

theorem filterMap_digits? (t : Token) : t.pieces.filterMap Piece.digits? = t.digits?.toList := by
  cases t with
  | placeholder digits => rfl
  | _ => simp [Token.pieces, Token.digits?, List.filterMap_map, Function.comp_def, Piece.digits?]

theorem placeholders_spell {ts : List Token} (template : Template ts) :
    (pieces (spell ts)).filterMap Piece.digits? = placeholders ts := by
  rw [pieces_spell template]
  clear template
  induction ts with
  | nil => rfl
  | cons t ts ih =>
    rw [List.flatMap_cons, List.filterMap_append, ih, filterMap_digits?, placeholders, placeholders,
      List.filterMap_cons]
    cases t.digits? with
    | none => rfl
    | some digits => rfl

theorem mentions_spell {ts : List Token} (template : Template ts) :
    mentions (spell ts) = (placeholders ts).map Text.digitsValue := by
  rw [mentions, placeholders_spell template]

theorem mem_placeholders {digits : List Char} {ts : List Token} :
    digits ∈ placeholders ts ↔ .placeholder digits ∈ ts := by
  constructor
  · intro member
    obtain ⟨t, present, same⟩ := List.mem_filterMap.mp member
    cases t with
    | placeholder found => exact Option.some.inj same ▸ present
    | _ => cases same
  · exact fun member => List.mem_filterMap.mpr ⟨_, member, rfl⟩

theorem mem_pieces {digits : List Char} {ps : List Piece} :
    digits ∈ ps.filterMap Piece.digits? ↔ .placeholder digits ∈ ps := by
  constructor
  · intro member
    obtain ⟨p, present, same⟩ := List.mem_filterMap.mp member
    cases p with
    | placeholder found => exact Option.some.inj same ▸ present
    | char c => cases same
  · exact fun member => List.mem_filterMap.mpr ⟨_, member, rfl⟩

/-! ### Conditions -/

def digitsOf (index : Nat) : List Char := (toString index).toList

theorem map_digitsValue (indices : List Nat) : (indices.map digitsOf).map Text.digitsValue = indices := by
  rw [List.map_map]
  exact List.map_id'' (fun index => Text.digitsValue_toString index) indices

def Condition.indices : Condition → List Nat :=
  fold (fun t => t.layout.operand.index?.toList) List.flatten List.flatten

theorem placeholders_append (xs ys : List Token) : placeholders (xs ++ ys) = placeholders xs ++ placeholders ys :=
  List.filterMap_append

theorem placeholders_plain (s : String) : placeholders (plain s) = [] := by
  simp [placeholders, plain, Token.digits?]

theorem Test.placeholders_tokens (t : Test) :
    placeholders t.tokens = t.layout.operand.index?.toList.map digitsOf := by
  rw [Test.tokens, Layout.tokens, placeholders_append, placeholders_append, placeholders_plain, placeholders_plain]
  cases t.layout.operand with
  | absent | blank | value index => rfl

theorem placeholders_intercalate {separator : String} (parts : List (List Token)) :
    placeholders ((plain separator).intercalate parts) = (parts.map placeholders).flatten := by
  induction parts with
  | nil => rfl
  | cons first rest ih =>
    cases rest with
    | nil => simp
    | cons second rest => simp [List.intercalate_cons_cons, placeholders_append, placeholders_plain, ih]

theorem placeholders_joined {separator : String} {parts : List Condition}
    (each : ∀ c ∈ parts, placeholders c.tokens = c.indices.map digitsOf) :
    placeholders ((plain separator).intercalate (parts.map Condition.tokens)) =
      (parts.map Condition.indices).flatten.map digitsOf := by
  have same : parts.map (placeholders ∘ Condition.tokens) = parts.map (List.map digitsOf ∘ Condition.indices) :=
    List.map_congr_left each
  rw [placeholders_intercalate, List.map_map, same, List.map_flatten, List.map_map]

theorem Condition.placeholders_group {separator : String} {parts : List Condition}
    (each : ∀ c ∈ parts, placeholders c.tokens = c.indices.map digitsOf) :
    placeholders (group separator (parts.map tokens)) = (parts.map indices).flatten.map digitsOf := by
  rw [group, placeholders_append, placeholders_append, placeholders_plain, placeholders_plain,
    placeholders_joined each, List.nil_append, List.append_nil]

theorem Condition.placeholders_tokens {c : Condition} (sound : c.Sound) :
    placeholders c.tokens = c.indices.map digitsOf := by
  induction sound with
  | test => exact Test.placeholders_tokens _
  | all _ _ ih => rw [tokens, indices, fold_all, fold_all]; exact placeholders_group ih
  | any _ _ ih => rw [tokens, indices, fold_any, fold_any]; exact placeholders_group ih

/-! ### Clauses -/

namespace Clause

/-- However many values come before, the clause names each of its own so often and in order. -/
def Numbered (times : Nat) (c : Clause) : Prop :=
  ∀ first, (c.condition first).indices =
    (List.range' first c.values.length).flatMap (List.replicate times ·)

theorem indices_place {times : Nat} {clauses : List Clause} (numbered : ∀ c ∈ clauses, c.Numbered times)
    (first : Nat) : (place first clauses).flatMap Condition.indices =
      (List.range' first (allValues clauses).length).flatMap (List.replicate times ·) := by
  induction clauses generalizing first with
  | nil => rfl
  | cons c rest ih =>
    have head := numbered c List.mem_cons_self first
    have tail := ih (fun d member => numbered d (List.mem_cons_of_mem _ member)) (first + c.values.length)
    have split : (allValues (c :: rest)).length = c.values.length + (allValues rest).length := by simp [allValues]
    rw [place, List.flatMap_cons, head, tail, ← List.flatMap_append, split, List.range'_append_1]

def Covers (c : Clause) : Prop :=
  ∀ first index, index ∈ (c.condition first).indices ↔ first ≤ index ∧ index < first + c.values.length

theorem Numbered.covers {times : Nat} {c : Clause} (numbered : c.Numbered times) (some_time : times ≠ 0) :
    c.Covers := by
  intro first index
  simp [numbered first, List.mem_flatMap, List.mem_replicate, some_time, List.mem_range'_1]

theorem mem_indices_place {clauses : List Clause} (covers : ∀ c ∈ clauses, c.Covers) (first index : Nat) :
    index ∈ (place first clauses).flatMap Condition.indices ↔
      first ≤ index ∧ index < first + (allValues clauses).length := by
  induction clauses generalizing first with
  | nil =>
    simp only [place, allValues, List.flatMap_nil, List.not_mem_nil, List.length_nil, false_iff]
    omega
  | cons c rest ih =>
    have head := covers c List.mem_cons_self first index
    have tail := ih (fun d member => covers d (List.mem_cons_of_mem _ member)) (first + c.values.length)
    have split : (allValues (c :: rest)).length = c.values.length + (allValues rest).length := by simp [allValues]
    rw [place, List.flatMap_cons, List.mem_append, head, tail, split]
    omega

end Clause

end Gazetteer.Sql
