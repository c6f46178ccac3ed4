import Gazetteer.Text.Split

/-!
The two ways of cutting a text agree: the first part of a split is the text before the first separator, and
the others are the parts of the text after it.
-/

namespace Gazetteer.Text

variable {sep : Char}

theorem splitAtFirst_cons_self (cs : List Char) : splitAtFirst sep (sep :: cs) = ([], cs) := by
  simp [splitAtFirst]

theorem splitAtFirst_cons_of_ne {c : Char} (different : c ≠ sep) (cs : List Char) :
    splitAtFirst sep (c :: cs) = (c :: (splitAtFirst sep cs).1, (splitAtFirst sep cs).2) := by
  simp [splitAtFirst, different]

theorem splitAtFirst_of_not_mem {cs : List Char} (absent : sep ∉ cs) : splitAtFirst sep cs = (cs, []) := by
  induction cs with
  | nil => rfl
  | cons c cs ih =>
    obtain ⟨different, later⟩ := List.ne_and_not_mem_of_not_mem_cons absent
    rw [splitAtFirst_cons_of_ne different.symm, ih later]

theorem splitAtFirst_append {before : List Char} (absent : sep ∉ before) (after : List Char) :
    splitAtFirst sep (before ++ sep :: after) = (before, after) := by
  induction before with
  | nil => exact splitAtFirst_cons_self after
  | cons c before ih =>
    obtain ⟨different, later⟩ := List.ne_and_not_mem_of_not_mem_cons absent
    rw [List.cons_append, splitAtFirst_cons_of_ne different.symm, ih later]

theorem splitOn_eq (cs : List Char) :
    cs.splitOn sep = (splitAtFirst sep cs).1 :: if sep ∈ cs then (splitAtFirst sep cs).2.splitOn sep else [] := by
  induction cs with
  | nil => rfl
  | cons c cs ih =>
    rw [List.splitOn_cons_eq_if_modifyHead]
    by_cases same : c = sep
    · subst same
      simp [splitAtFirst_cons_self]
    · rw [if_neg (by simpa using same), ih, splitAtFirst_cons_of_ne same]
      simp [Ne.symm same]

theorem splitOn_append_cons (before after : List Char) :
    (before ++ sep :: after).splitOn sep = before.splitOn sep ++ after.splitOn sep :=
  List.splitOnP_append_cons before after (beq_self_eq_true sep)

theorem splitOn_first (cs : List Char) : (cs.splitOn sep)[0]? = some (splitAtFirst sep cs).1 := by
  rw [splitOn_eq, List.getElem?_cons_zero]

/-- The second part is the text between the first and the second separator, or nothing. -/
theorem splitOn_second (cs : List Char) :
    (cs.splitOn sep)[1]?.getD [] = (splitAtFirst sep (splitAtFirst sep cs).2).1 := by
  rw [splitOn_eq, List.getElem?_cons_succ]
  split
  · rw [splitOn_first, Option.getD_some]
  · rename_i absent
    rw [splitAtFirst_of_not_mem absent]
    rfl

end Gazetteer.Text
