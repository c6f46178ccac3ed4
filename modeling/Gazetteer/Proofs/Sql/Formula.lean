import Gazetteer.Proofs.Sql.Words

/-!
Reading conditions by the precedence of SQL: comparisons bind tighter than AND, AND tighter than OR, and
parentheses around an operand set a condition apart.  The reader takes one word at a time and keeps a level
for each parenthesis that is open.  A formula is evaluated in three truth values.
-/

namespace Gazetteer.Sql

/-! ### Truth values -/

inductive Truth where
  | no
  | unknown
  | yes
  deriving DecidableEq, Repr

namespace Truth

def and : Truth → Truth → Truth
  | .no, _ => .no
  | _, .no => .no
  | .yes, b => b
  | a, .yes => a
  | .unknown, .unknown => .unknown

def or : Truth → Truth → Truth
  | .yes, _ => .yes
  | _, .yes => .yes
  | .no, b => b
  | a, .no => a
  | .unknown, .unknown => .unknown

def all (ts : List Truth) : Truth := ts.foldr and .yes

def any (ts : List Truth) : Truth := ts.foldr or .no

theorem and_assoc (a b c : Truth) : (a.and b).and c = a.and (b.and c) := by
  cases a <;> cases b <;> cases c <;> rfl

theorem or_assoc (a b c : Truth) : (a.or b).or c = a.or (b.or c) := by
  cases a <;> cases b <;> cases c <;> rfl

@[simp] theorem yes_and (a : Truth) : and .yes a = a := by cases a <;> rfl

@[simp] theorem and_yes (a : Truth) : and a .yes = a := by cases a <;> rfl

@[simp] theorem no_or (a : Truth) : or .no a = a := by cases a <;> rfl

@[simp] theorem or_no (a : Truth) : or a .no = a := by cases a <;> rfl

theorem and_eq_yes_iff (a b : Truth) : a.and b = .yes ↔ a = .yes ∧ b = .yes := by
  cases a <;> cases b <;> decide

theorem all_eq_yes_iff (ts : List Truth) : all ts = .yes ↔ ∀ t ∈ ts, t = .yes := by
  induction ts with
  | nil => simp [all]
  | cons t ts ih => rw [all, List.foldr_cons, and_eq_yes_iff, List.forall_mem_cons, ← ih, all]

end Truth

/-! ### Formulas -/

inductive Formula where
  | comparison (ws : List Word)
  | both (a b : Formula)
  | either (a b : Formula)
  deriving DecidableEq, Repr

def Formula.eval (truth : List Word → Truth) : Formula → Truth
  | .comparison ws => truth ws
  | .both a b => (a.eval truth).and (b.eval truth)
  | .either a b => (a.eval truth).or (b.eval truth)

/-! ### The reader -/

inductive Item where
  | absent
  /-- The words of a comparison, with so many parentheses open in it. -/
  | comparison (ws : List Word) (depth : Nat)
  /-- A condition in parentheses. -/
  | group (f : Formula)
  deriving DecidableEq, Repr

def Item.formula? : Item → Option Formula
  | .absent => none
  | .comparison ws 0 => some (.comparison ws)
  | .comparison _ (_ + 1) => none
  | .group f => some f

/-- What stands in a pair of parentheses before the item: a disjunction, and the conjunction that is the
last member of it so far. -/
structure Level where
  alternatives : Option Formula := none
  conjuncts : Option Formula := none
  deriving DecidableEq, Repr

namespace Level

def conjoin (level : Level) (f : Formula) : Formula := level.conjuncts.elim f (.both · f)

def disjoin (level : Level) (f : Formula) : Formula := level.alternatives.elim f (.either · f)

def close (level : Level) (f : Formula) : Formula := level.disjoin (level.conjoin f)

end Level

structure Reader where
  level : Level := {}
  item : Item := .absent
  /-- The levels outside, the nearest first. -/
  outer : List Level := []
  deriving DecidableEq, Repr

namespace Reader

def conjoin (r : Reader) : Option Reader :=
  r.item.formula?.map fun f => { r with level := { r.level with conjuncts := r.level.conjoin f }, item := .absent }

def disjoin (r : Reader) : Option Reader :=
  r.item.formula?.map fun f => { r with level := { alternatives := r.level.close f }, item := .absent }

def close (r : Reader) : Option Reader :=
  match r.outer with
  | [] => none
  | level :: outer => r.item.formula?.map fun f => { level, item := .group (r.level.close f), outer }

def stepOutside (r : Reader) (w : Word) : Option Reader :=
  if w.isKeyword "AND" then r.conjoin
  else if w.isKeyword "OR" then r.disjoin
  else
    match r.item, w with
    | _, .closing => r.close
    | .absent, .opening => some { outer := r.level :: r.outer }
    | .absent, w => some { r with item := .comparison [w] 0 }
    | .comparison ws depth, .opening => some { r with item := .comparison (ws ++ [.opening]) (depth + 1) }
    | .comparison ws depth, w => some { r with item := .comparison (ws ++ [w]) depth }
    | .group _, _ => none

def step (r : Reader) (w : Word) : Option Reader :=
  match r.item with
  | .comparison ws (depth + 1) =>
    match w with
    | .opening => some { r with item := .comparison (ws ++ [w]) (depth + 2) }
    | .closing => some { r with item := .comparison (ws ++ [w]) depth }
    | w => some { r with item := .comparison (ws ++ [w]) (depth + 1) }
  | _ => r.stepOutside w

def finish (r : Reader) : Option Formula :=
  if r.outer.isEmpty then r.item.formula?.map r.level.close else none

end Reader

def readFormula (ws : List Word) : Option Formula := (ws.foldlM Reader.step {}).bind Reader.finish

example : readFormula (wordsOf "a OR b AND (c OR f(d))") =
    some (.either (.comparison (wordsOf "a"))
      (.both (.comparison (wordsOf "b")) (.either (.comparison (wordsOf "c")) (.comparison (wordsOf "f(d)"))))) := by
  decide

end Gazetteer.Sql
