import Gazetteer.Proofs.Sql.Formula

/-!
What the reader makes of words that are joined.  `Reads` is what it preserves: words that stand where an
operand may leave every level as it was, with an item of their value.
-/

namespace Gazetteer.Sql

/-! ### Comparisons -/

/-- The depth of parentheses after a word of a comparison, if the word does not end it. -/
def deepen (depth : Nat) (w : Word) : Option Nat :=
  match depth, w with
  | depth, .opening => some (depth + 1)
  | 0, .closing => none
  | depth + 1, .closing => some depth
  | 0, w => if w.isKeyword "AND" || w.isKeyword "OR" then none else some 0
  | depth + 1, _ => some (depth + 1)

def nesting (depth : Nat) (ws : List Word) : Option Nat := ws.foldlM deepen depth

theorem nesting_append {depth middle after : Nat} {xs ys : List Word} (left : nesting depth xs = some middle)
    (right : nesting middle ys = some after) : nesting depth (xs ++ ys) = some after := by
  rw [nesting, List.foldlM_append]
  change (nesting depth xs).bind (nesting · ys) = some after
  rw [left, Option.bind_some, right]

theorem step_comparison {depth after : Nat} {w : Word} (deepens : deepen depth w = some after)
    (before : List Word) (level : Level) (outer : List Level) :
    Reader.step { level, item := .comparison before depth, outer } w =
      some { level, item := .comparison (before ++ [w]) after, outer } := by
  cases depth with
  | zero =>
    cases w with
    | run cs =>
      simp only [deepen, Option.ite_none_left_eq_some, Bool.or_eq_true, not_or, Bool.not_eq_true] at deepens
      obtain ⟨⟨no_and, no_or⟩, same⟩ := deepens
      simp [Reader.step, Reader.stepOutside, no_and, no_or, ← Option.some.inj same]
    | closing => cases deepens
    | opening | token t | value text =>
      obtain rfl := Option.some.inj deepens
      rfl
  | succ depth =>
    cases w with
    | opening | closing | run cs | token t | value text =>
      obtain rfl := Option.some.inj deepens
      rfl

theorem foldlM_comparison {depth after : Nat} {ws : List Word} (nested : nesting depth ws = some after)
    (before : List Word) (level : Level) (outer : List Level) :
    ws.foldlM Reader.step { level, item := .comparison before depth, outer } =
      some { level, item := .comparison (before ++ ws) after, outer } := by
  induction ws generalizing depth before with
  | nil =>
    obtain rfl := Option.some.inj nested
    simp
  | cons w ws ih =>
    rw [nesting, List.foldlM_cons] at nested
    obtain ⟨middle, deepens, rest⟩ := Option.bind_eq_some_iff.mp nested
    rw [List.foldlM_cons, step_comparison deepens]
    simpa using ih rest (before ++ [w])

structure IsComparison (ws : List Word) : Prop where
  named : ws.head?.any Word.isRun = true
  closed : nesting 0 ws = some 0

/-! ### Operands -/

/-- Wherever an operand may stand, the words are read as one item of this value. -/
def Reads (truth : List Word → Truth) (ws : List Word) (value : Truth) : Prop :=
  ∀ level outer, ∃ item f, ws.foldlM Reader.step { level, outer } = some { level, item, outer } ∧
    item.formula? = some f ∧ f.eval truth = value

variable {truth : List Word → Truth}

theorem IsComparison.reads {ws : List Word} (comparison : IsComparison ws) : Reads truth ws (truth ws) := by
  obtain ⟨named, closed⟩ := comparison
  obtain ⟨name, rest, rfl⟩ : ∃ name rest, ws = .run name :: rest := by
    match ws, named with
    | .run name :: rest, _ => exact ⟨name, rest, rfl⟩
  rw [nesting, List.foldlM_cons] at closed
  obtain ⟨depth, deepens, nested⟩ := Option.bind_eq_some_iff.mp closed
  simp only [deepen, Option.ite_none_left_eq_some, Bool.or_eq_true, not_or, Bool.not_eq_true] at deepens
  obtain ⟨⟨no_and, no_or⟩, same⟩ := deepens
  obtain rfl := Option.some.inj same
  intro level outer
  have begins : Reader.step { level, outer } (.run name) = some { level, item := .comparison [.run name] 0, outer } := by
    simp [Reader.step, Reader.stepOutside, no_and, no_or]
  refine ⟨.comparison (.run name :: rest) 0, .comparison (.run name :: rest), ?_, rfl, rfl⟩
  rw [List.foldlM_cons, begins]
  exact foldlM_comparison nested [.run name] level outer

theorem step_of_formula? {r : Reader} {f : Formula} (read : r.item.formula? = some f) (w : Word) :
    r.step w = r.stepOutside w := by
  unfold Reader.step
  split
  · rename_i unfinished
    simp [unfinished, Item.formula?] at read
  · rfl

theorem step_and {level : Level} {item : Item} {outer : List Level} {f : Formula} (read : item.formula? = some f) :
    Reader.step { level, item, outer } .andKeyword =
      some { level := { level with conjuncts := level.conjoin f }, outer } := by
  rw [step_of_formula? read]
  change Reader.conjoin { level, item, outer } = _
  rw [Reader.conjoin, read]
  rfl

theorem step_or {level : Level} {item : Item} {outer : List Level} {f : Formula} (read : item.formula? = some f) :
    Reader.step { level, item, outer } .orKeyword =
      some { level := { alternatives := level.close f }, outer } := by
  rw [step_of_formula? read]
  change Reader.disjoin { level, item, outer } = _
  rw [Reader.disjoin, read]
  rfl

theorem step_closing {level above : Level} {item : Item} {outer : List Level} {f : Formula}
    (read : item.formula? = some f) :
    Reader.step { level, item, outer := above :: outer } .closing =
      some { level := above, item := .group (level.close f), outer } := by
  rw [step_of_formula? read]
  have closes : ({ level, item, outer := above :: outer } : Reader).close =
      some { level := above, item := .group (level.close f), outer } := by
    rw [Reader.close, read]
    rfl
  cases item with
  | absent | comparison ws depth | group g => exact closes

/-! ### Joined operands -/

section joined

variable {α : Type} {text : α → List Word} {value : α → Truth}

theorem eval_conjoin (level : Level) (f : Formula) :
    (level.conjoin f).eval truth = (level.conjuncts.elim .yes (Formula.eval truth)).and (f.eval truth) := by
  cases conjuncts : level.conjuncts with
  | none | some g => simp [Level.conjoin, conjuncts, Formula.eval]

theorem eval_disjoin (level : Level) (f : Formula) :
    (level.disjoin f).eval truth = (level.alternatives.elim .no (Formula.eval truth)).or (f.eval truth) := by
  cases alternatives : level.alternatives with
  | none | some g => simp [Level.disjoin, alternatives, Formula.eval]

theorem foldlM_and {parts : List α} (reads : ∀ p ∈ parts, Reads truth (text p) (value p)) (some_part : parts ≠ [])
    (level : Level) (outer : List Level) :
    ∃ last item f, ([.andKeyword].intercalate (parts.map text)).foldlM Reader.step { level, outer } =
        some { level := last, item, outer } ∧ item.formula? = some f ∧ last.alternatives = level.alternatives ∧
      (last.conjoin f).eval truth =
        (level.conjuncts.elim .yes (Formula.eval truth)).and (Truth.all (parts.map value)) := by
  induction parts generalizing level with
  | nil => exact absurd rfl some_part
  | cons first rest ih =>
    obtain ⟨item, f, run, read, holds⟩ := reads first List.mem_cons_self level outer
    cases rest with
    | nil =>
      refine ⟨level, item, f, by simpa using run, read, rfl, ?_⟩
      simp [eval_conjoin, holds, Truth.all]
    | cons second rest =>
      -- the keyword moves the item into the conjunction, and the rest is read from there
      have later := ih (fun p member => reads p (List.mem_cons_of_mem _ member)) (List.cons_ne_nil _ _)
        { level with conjuncts := level.conjoin f }
      obtain ⟨last, final, g, run_rest, read_rest, alternatives, value_rest⟩ := later
      refine ⟨last, final, g, ?_, read_rest, alternatives, ?_⟩
      · rw [List.map_cons, List.map_cons, List.intercalate_cons_cons, List.foldlM_append, List.foldlM_append, run]
        simpa [step_and read] using run_rest
      · rw [value_rest]
        simp [eval_conjoin, holds, Truth.all, Truth.and_assoc]

theorem foldlM_or {parts : List α} (reads : ∀ p ∈ parts, Reads truth (text p) (value p)) (some_part : parts ≠ [])
    (alternatives : Option Formula) (outer : List Level) :
    ∃ last item f, ([.orKeyword].intercalate (parts.map text)).foldlM Reader.step
        { level := { alternatives }, outer } = some { level := last, item, outer } ∧ item.formula? = some f ∧
      (last.close f).eval truth =
        (alternatives.elim .no (Formula.eval truth)).or (Truth.any (parts.map value)) := by
  induction parts generalizing alternatives with
  | nil => exact absurd rfl some_part
  | cons first rest ih =>
    obtain ⟨item, f, run, read, holds⟩ := reads first List.mem_cons_self { alternatives } outer
    have closed : (Level.close { alternatives } f).eval truth =
        (alternatives.elim .no (Formula.eval truth)).or (value first) := by
      rw [Level.close, eval_disjoin, eval_conjoin, holds]
      simp
    cases rest with
    | nil =>
      refine ⟨_, item, f, by simpa using run, read, ?_⟩
      simp [closed, Truth.any]
    | cons second rest =>
      -- the keyword closes the conjunction, so the rest is read from a level that has none
      have later := ih (fun p member => reads p (List.mem_cons_of_mem _ member)) (List.cons_ne_nil _ _)
        (some (Level.close { alternatives } f))
      obtain ⟨last, final, g, run_rest, read_rest, value_rest⟩ := later
      refine ⟨last, final, g, ?_, read_rest, ?_⟩
      · rw [List.map_cons, List.map_cons, List.intercalate_cons_cons, List.foldlM_append, List.foldlM_append, run]
        simpa [step_or read] using run_rest
      · rw [value_rest]
        simp [closed, Truth.any, Truth.or_assoc]

/-- Parentheses make one operand of what is joined in them. -/
theorem reads_parenthesized {ws : List Word} {v : Truth}
    (inside : ∀ outer, ∃ last item f, ws.foldlM Reader.step { outer } = some { level := last, item, outer } ∧
      item.formula? = some f ∧ (last.close f).eval truth = v) :
    Reads truth (.opening :: (ws ++ [.closing])) v := by
  intro level outer
  obtain ⟨last, item, f, run, read, holds⟩ := inside (level :: outer)
  have opened : Reader.step { level, outer } .opening = some { outer := level :: outer } := rfl
  refine ⟨.group (last.close f), last.close f, ?_, rfl, holds⟩
  rw [List.foldlM_cons, opened]
  simp [List.foldlM_append, run, step_closing read]

theorem foldlM_and_close {parts : List α} (reads : ∀ p ∈ parts, Reads truth (text p) (value p))
    (some_part : parts ≠ []) (outer : List Level) :
    ∃ last item f, ([.andKeyword].intercalate (parts.map text)).foldlM Reader.step { outer } =
        some { level := last, item, outer } ∧ item.formula? = some f ∧
      (last.close f).eval truth = Truth.all (parts.map value) := by
  obtain ⟨last, item, f, run, read, alternatives, holds⟩ := foldlM_and reads some_part {} outer
  refine ⟨last, item, f, run, read, ?_⟩
  rw [Level.close, eval_disjoin, alternatives, holds]
  simp

theorem reads_all {parts : List α} (reads : ∀ p ∈ parts, Reads truth (text p) (value p)) (some_part : parts ≠ []) :
    Reads truth (.opening :: ([.andKeyword].intercalate (parts.map text) ++ [.closing]))
      (Truth.all (parts.map value)) :=
  reads_parenthesized (foldlM_and_close reads some_part)

theorem reads_any {parts : List α} (reads : ∀ p ∈ parts, Reads truth (text p) (value p)) (some_part : parts ≠ []) :
    Reads truth (.opening :: ([.orKeyword].intercalate (parts.map text) ++ [.closing]))
      (Truth.any (parts.map value)) := by
  refine reads_parenthesized fun outer => ?_
  simpa using foldlM_or reads some_part none outer

/-- A text of operands joined by AND is read as their conjunction. -/
theorem readFormula_and {parts : List α} (reads : ∀ p ∈ parts, Reads truth (text p) (value p))
    (some_part : parts ≠ []) :
    (readFormula ([.andKeyword].intercalate (parts.map text))).map (Formula.eval truth) =
      some (Truth.all (parts.map value)) := by
  obtain ⟨last, item, f, run, read, holds⟩ := foldlM_and_close reads some_part []
  rw [readFormula, run, Option.bind_some, Reader.finish, read]
  simp [holds]

end joined

end Gazetteer.Sql
