import Gazetteer.Latch
import Mathlib.Data.List.Basic

/-!
The latch is shared, goes one way and misses nothing.  What an act is answered, and whether it is allowed, is told from the acts
before it; the state of the channel is an invariant of every run.
-/

namespace Gazetteer.Latch

/-! ### Histories -/

def Act.isClone : Act → Bool
  | .clone _ => true
  | _ => false

def Act.isWait : Act → Bool
  | .wait _ => true
  | _ => false

def made (acts : List Act) : Nat := acts.countP Act.isClone + 1

def begun (acts : List Act) : Nat := acts.countP Act.isWait

def Held (acts : List Act) (handle : Nat) : Prop := handle < made acts ∧ .drop handle ∉ acts

def Awaited (acts : List Act) (wait : Nat) : Prop := wait < begun acts ∧ .giveUp wait ∉ acts

def Raised (acts : List Act) : Prop := ∃ handle, .raise handle ∈ acts

def Deserted (acts : List Act) : Prop := ∀ handle < made acts, .drop handle ∈ acts

/-- Acts are done with handles that are held and waits that are not given up. -/
def Allowed (before : List Act) : Act → Prop
  | .clone handle | .raise handle | .look handle | .wait handle | .drop handle => Held before handle
  | .poll wait | .giveUp wait => Awaited before wait

/-- What an act is answered after others. -/
def Answers (before : List Act) : Act → Answer → Prop
  | .clone _, answer => answer = .made (made before)
  | .wait _, answer => answer = .made (begun before)
  | .look _, answer => ∃ value, answer = .raised value ∧ (value = true ↔ Raised before)
  | .poll _, answer => ∃ value, answer = .ended value ∧ (value = true ↔ Raised before ∨ Deserted before)
  | .raise _, answer | .drop _, answer | .giveUp _, answer => answer = .done

def AllAllowed (acts : List Act) : Prop := ∀ n act, acts[n]? = some act → Allowed (acts.take n) act

def AllAnswered (acts : List Act) (answers : List Answer) : Prop :=
  answers.length = acts.length ∧
    ∀ n act answer, acts[n]? = some act → answers[n]? = some answer → Answers (acts.take n) act answer

section Snoc

variable {acts : List Act} {act : Act}

theorem made_snoc : made (acts ++ [act]) = made acts + if act.isClone then 1 else 0 := by
  rw [made, made, List.countP_append, List.countP_singleton]
  omega

theorem begun_snoc : begun (acts ++ [act]) = begun acts + if act.isWait then 1 else 0 := by
  rw [begun, begun, List.countP_append, List.countP_singleton]

theorem raised_snoc : Raised (acts ++ [act]) ↔ Raised acts ∨ ∃ handle, act = .raise handle := by
  simp only [Raised, List.mem_append, List.mem_singleton, exists_or, eq_comm]

theorem Raised.take {n m : Nat} (raised : Raised (acts.take n)) (later : n ≤ m) : Raised (acts.take m) := by
  obtain ⟨handle, member⟩ := raised
  exact ⟨handle, (List.take_subset_take_left acts later) member⟩

theorem Deserted.not_held {handle : Nat} (deserted : Deserted acts) : ¬ Held acts handle :=
  fun held => held.2 (deserted handle held.1)

/-- What a wait ends for does not go away. -/
theorem settled_snoc (settled : Raised acts ∨ Deserted acts) (allowed : Allowed acts act) :
    Raised (acts ++ [act]) ∨ Deserted (acts ++ [act]) := by
  refine settled.imp (fun raised => raised_snoc.mpr (.inl raised)) fun deserted handle bound => ?_
  -- Only a clone could make a further handle, and no handle is left that could be cloned.
  have same : made (acts ++ [act]) = made acts := by
    cases act with
    | clone handle => exact absurd allowed deserted.not_held
    | _ => exact made_snoc
  exact List.mem_append_left _ (deserted handle (same ▸ bound))

theorem getElem?_snoc {α : Type} {items : List α} {last item : α} {n : Nat} :
    (items ++ [last])[n]? = some item ↔ items[n]? = some item ∨ n = items.length ∧ last = item := by
  rw [List.getElem?_append]
  split
  next inside => simp [Nat.ne_of_lt inside]
  next outside =>
    have none_here : items[n]? = none := List.getElem?_eq_none (Nat.le_of_not_lt outside)
    have first_only : n - items.length = 0 ↔ n = items.length := by omega
    simp [none_here, List.getElem?_singleton, first_only]

theorem take_snoc {n : Nat} (here : n ≤ acts.length) : (acts ++ [act]).take n = acts.take n :=
  List.take_append_of_le_length here

theorem allAllowed_snoc : AllAllowed (acts ++ [act]) ↔ AllAllowed acts ∧ Allowed acts act := by
  constructor
  · intro each
    constructor
    · intro n other at_n
      have bound := (List.getElem?_eq_some_iff.mp at_n).1
      have allowed := each n other (getElem?_snoc.mpr (.inl at_n))
      rwa [take_snoc (Nat.le_of_lt bound)] at allowed
    · have allowed := each acts.length act (getElem?_snoc.mpr (.inr ⟨rfl, rfl⟩))
      rwa [take_snoc (Nat.le_refl _), List.take_length] at allowed
  · rintro ⟨each, last⟩ n other at_n
    rcases getElem?_snoc.mp at_n with before | ⟨rfl, rfl⟩
    · rw [take_snoc (Nat.le_of_lt (List.getElem?_eq_some_iff.mp before).1)]
      exact each n other before
    · rwa [take_snoc (Nat.le_refl _), List.take_length]

theorem AllAnswered.snoc {answers : List Answer} {answer : Answer} (each : AllAnswered acts answers)
    (last : Answers acts act answer) : AllAnswered (acts ++ [act]) (answers ++ [answer]) := by
  refine ⟨by rw [List.length_append, List.length_append, each.1]; rfl, fun n other reply at_n reply_at_n => ?_⟩
  rcases getElem?_snoc.mp at_n with before | ⟨rfl, rfl⟩
  · have bound := (List.getElem?_eq_some_iff.mp before).1
    rw [take_snoc (Nat.le_of_lt bound)]
    rcases getElem?_snoc.mp reply_at_n with reply_before | ⟨rfl, -⟩
    · exact each.2 n other reply before reply_before
    · exact absurd each.1 (Nat.ne_of_gt bound).symm
  · rw [take_snoc (Nat.le_refl _), List.take_length]
    rcases getElem?_snoc.mp reply_at_n with reply_before | ⟨-, rfl⟩
    · exact absurd each.1 (Nat.ne_of_gt (List.getElem?_eq_some_iff.mp reply_before).1)
    · exact last

end Snoc

/-! ### Things with numbers -/

/-- Things made so far in their order, without those that are gone. -/
structure Roll {α : Type} (items : List (Option α)) (made : Nat) (gone : Nat → Prop) : Prop where
  length : items.length = made
  present : ∀ number, items[number]?.join.isSome = true ↔ number < made ∧ ¬ gone number
  known : ∀ number, gone number → number < made

namespace Roll

variable {α : Type} {items : List (Option α)} {made number : Nat} {gone : Nat → Prop}

theorem congr {made' : Nat} {gone' : Nat → Prop} (roll : Roll items made gone) (same : made = made')
    (alike : ∀ number, gone number ↔ gone' number) : Roll items made' gone' := by
  obtain rfl := same
  obtain rfl : gone = gone' := funext fun number => propext (alike number)
  exact roll

theorem add (roll : Roll items made gone) (item : α) : Roll (items ++ [some item]) (made + 1) gone where
  length := by simp [roll.length]
  present number := by
    have earlier := roll.present number
    rw [List.getElem?_append, roll.length]
    by_cases old : number < made
    · rw [if_pos old, earlier]
      simp [old, Nat.lt_succ_of_lt old]
    · rw [if_neg old]
      have unknown : ¬ gone number := fun left => old (roll.known number left)
      by_cases last : number = made
      · subst last
        simp [unknown]
      · have beyond : ¬ number < made + 1 := by omega
        have outside : [some item][number - made]? = none := by
          rw [List.getElem?_eq_none_iff, List.length_singleton]
          omega
        simp [outside, beyond]
  known number left := Nat.lt_succ_of_lt (roll.known number left)

theorem getElem?_set {item : Option α} (bound : number < items.length) (other : Nat) :
    (items.set number item)[other]?.join = if other = number then item else items[other]?.join := by
  rw [List.getElem?_set]
  by_cases same : number = other
  · subst same
    simp [bound]
  · simp [same, Ne.symm same]

section Present

variable {item : α} (here : items[number]?.join = some item)

include here

theorem getElem_of_present : ∃ bound : number < items.length, items[number] = some item :=
  List.getElem?_eq_some_iff.mp (Option.join_eq_some_iff.mp here)

theorem mem_of_present : some item ∈ items := by
  obtain ⟨bound, found⟩ := getElem_of_present here
  exact found ▸ List.getElem_mem bound

theorem known_of_present (roll : Roll items made gone) : number < made ∧ ¬ gone number :=
  (roll.present number).mp (Option.isSome_iff_exists.mpr ⟨item, here⟩)

theorem replace (roll : Roll items made gone) (other : α) : Roll (items.set number (some other)) made gone where
  length := by rw [List.length_set, roll.length]
  present n := by
    rw [getElem?_set (getElem_of_present here).1]
    split
    next same => exact iff_of_true rfl (same ▸ known_of_present here roll)
    next => exact roll.present n
  known := roll.known

theorem retire (roll : Roll items made gone) : Roll (items.set number none) made fun n => gone n ∨ n = number where
  length := by rw [List.length_set, roll.length]
  present n := by
    rw [getElem?_set (getElem_of_present here).1]
    split
    next same => simp [same]
    next different => simp [roll.present n, different]
  known n := by
    rintro (left | rfl)
    · exact roll.known n left
    · exact (known_of_present here roll).1

/-- How many things there are of a kind changes with what one of them is replaced by. -/
theorem countP_set (other : Option α) (p : Option α → Bool) :
    (items.set number other).countP p + (if p (some item) then 1 else 0) =
      items.countP p + if p other then 1 else 0 := by
  have counted : p (some item) = true → 0 < items.countP p := fun kind =>
    List.countP_pos_iff.mpr ⟨some item, mem_of_present here, kind⟩
  obtain ⟨bound, found⟩ := getElem_of_present here
  rw [List.countP_set bound, found]
  split
  next kind => have := counted kind; omega
  next => omega

theorem countP_pos : 0 < items.countP Option.isSome :=
  List.countP_pos_iff.mpr ⟨some item, mem_of_present here, rfl⟩

end Present

/-- No thing is there exactly if all are gone. -/
theorem countP_eq_zero_iff (roll : Roll items made gone) :
    items.countP Option.isSome = 0 ↔ ∀ number < made, gone number := by
  constructor
  · intro nothing number bound
    by_contra stays
    obtain ⟨item, here⟩ := Option.isSome_iff_exists.mp ((roll.present number).mpr ⟨bound, stays⟩)
    exact Nat.ne_of_gt (countP_pos here) nothing
  · intro all_gone
    rw [List.countP_eq_zero]
    rintro (- | item) member present
    · cases present
    · obtain ⟨number, bound, found⟩ := List.mem_iff_getElem.mp member
      have here : items[number]?.join = some item := by
        rw [List.getElem?_eq_getElem bound, found]
        rfl
      obtain ⟨known, stays⟩ := known_of_present here roll
      exact stays (all_gone number known)

end Roll

end Gazetteer.Latch
