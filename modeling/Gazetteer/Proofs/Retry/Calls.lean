import Gazetteer.Retry
import Mathlib.Algebra.Ring.Nat

/-!
Which calls are made.  Every call but the last failed in a way that is worth another one and was followed by a
wait; the last did not, or was the last that is allowed, or no word holds the wait after it.
-/

namespace Gazetteer.Retry

/-- The call that ends calls numbered from `first` up to at most `most`, if those in `again` are followed by
another one. -/
structure IsLastCall (again : Nat → Prop) (first most last : Nat) : Prop where
  least : first ≤ last
  greatest : last ≤ most
  followed : ∀ i, first ≤ i → i < last → again i
  ends : last < most → ¬again last

namespace IsLastCall

variable {again : Nat → Prop} {first most last : Nat}

theorem here (allowed : first ≤ most) (ends : first < most → ¬again first) : IsLastCall again first most first where
  least := Nat.le_refl first
  greatest := allowed
  followed _ from_first before := absurd before (Nat.not_lt.mpr from_first)
  ends := ends

theorem cons (followed : again first) (later : IsLastCall again (first + 1) most last) :
    IsLastCall again first most last where
  least := Nat.le_of_succ_le later.least
  greatest := later.greatest
  followed i from_first before := by
    rcases Nat.eq_or_lt_of_le from_first with rfl | behind
    · exact followed
    · exact later.followed i behind before
  ends := later.ends

theorem tail (isLast : IsLastCall again first most last) (before : first < last) :
    IsLastCall again (first + 1) most last where
  least := before
  greatest := isLast.greatest
  followed i least below := isLast.followed i (Nat.le_of_succ_le least) below
  ends := isLast.ends

theorem unique {last' : Nat} (one : IsLastCall again first most last) (other : IsLastCall again first most last') :
    last = last' := by
  rcases Nat.lt_trichotomy last last' with before | same | behind
  · exact absurd (other.followed last one.least before) (one.ends (Nat.lt_of_lt_of_le before other.greatest))
  · exact same
  · exact absurd (one.followed last' other.least behind) (other.ends (Nat.lt_of_lt_of_le behind one.greatest))

end IsLastCall

variable {ε α : Type} {a : Arithmetic} {base left attempt limit last : Nat} {retryable : ε → Bool}
  {outcome : Nat → Except ε α}

def isWorthAnother (retryable : ε → Bool) : Except ε α → Bool
  | .ok _ => false
  | .error e => retryable e

theorem isWorthAnother_iff {ended : Except ε α} :
    isWorthAnother retryable ended = true ↔ ∃ e, ended = .error e ∧ retryable e = true := by
  cases ended with
  | ok value => simp [isWorthAnother]
  | error e => simp [isWorthAnother]

/-! ### One wait -/

/-- Words have room for the power and the wait after a call. -/
def Fits (base attempt : Nat) : Prop := 2 ^ (attempt - 1) < 2 ^ 64 ∧ base * 2 ^ (attempt - 1) < 2 ^ 64

theorem backoff?_unbounded (base attempt : Nat) :
    backoff? .unbounded base attempt = some (base * 2 ^ (attempt - 1)) := rfl

theorem backoff?_wrapping (base attempt : Nat) :
    backoff? .wrapping base attempt = some (base * 2 ^ (attempt - 1) % 2 ^ 64) :=
  congrArg some (Nat.mul_mod_mod base (2 ^ (attempt - 1)) (2 ^ 64))

theorem word?_of_lt (a : Arithmetic) {n : Nat} (room : n < 2 ^ 64) : a.word? n = some n := by
  cases a with
  | unbounded => rfl
  | wrapping => exact congrArg some (Nat.mod_eq_of_lt room)
  | checked => exact if_pos room

/-- Where there is room, all ways of reckoning agree. -/
theorem backoff?_of_fits (a : Arithmetic) (room : Fits base attempt) :
    backoff? a base attempt = some (base * 2 ^ (attempt - 1)) := by
  have power : a.word? (Nat.pow 2 (attempt - 1)) = some (2 ^ (attempt - 1)) := word?_of_lt a room.1
  rw [backoff?, power, Option.bind_some, word?_of_lt a room.2]

theorem backoff?_eq_none_iff : backoff? a base attempt = none ↔ a = .checked ∧ ¬Fits base attempt := by
  cases a with
  | unbounded => simp [backoff?_unbounded]
  | wrapping => simp [backoff?_wrapping]
  | checked =>
    constructor
    · intro stopped
      refine ⟨rfl, fun room => ?_⟩
      rw [backoff?_of_fits .checked room] at stopped
      cases stopped
    · rintro ⟨-, beyond⟩
      rw [backoff?, Option.bind_eq_none_iff]
      intro power held
      obtain ⟨small, same⟩ := Option.ite_none_right_eq_some.mp held
      obtain rfl := Option.some.inj same
      exact if_neg fun room => beyond ⟨small, room⟩

def delay (a : Arithmetic) (base attempt : Nat) : Nat := (backoff? a base attempt).getD 0

theorem delay_of_eq_some {wait : Nat} (held : backoff? a base attempt = some wait) : delay a base attempt = wait := by
  rw [delay, held, Option.getD_some]

/-! ### From one call on -/

def IsFollowed (a : Arithmetic) (base : Nat) (retryable : ε → Bool) (outcome : Nat → Except ε α) (attempt : Nat) : Prop :=
  isWorthAnother retryable (outcome attempt) = true ∧ ∃ wait, backoff? a base attempt = some wait

/-- What comes of the last call: nothing if it should have been followed by another one. -/
def returned? (most : Nat) (retryable : ε → Bool) (outcome : Nat → Except ε α) (last : Nat) : Option (Except ε α) :=
  if last < most ∧ isWorthAnother retryable (outcome last) = true then none else some (outcome last)

/-- What one call with more calls left comes to: it is the last, the program stops after it, or there is another one. -/
theorem runFrom_succ_cases (a : Arithmetic) (base : Nat) (retryable : ε → Bool) (outcome : Nat → Except ε α)
    (left attempt : Nat) :
    (isWorthAnother retryable (outcome attempt) = false ∧
        runFrom a base retryable outcome (left + 1) attempt = ⟨some (outcome attempt), attempt, []⟩) ∨
      (isWorthAnother retryable (outcome attempt) = true ∧ backoff? a base attempt = none ∧
        runFrom a base retryable outcome (left + 1) attempt = ⟨none, attempt, []⟩) ∨
      ∃ e wait, isWorthAnother retryable (outcome attempt) = true ∧ backoff? a base attempt = some wait ∧
        runFrom a base retryable outcome (left + 1) attempt =
          { runFrom a base retryable outcome left (attempt + 1) with
            waits := ⟨e, attempt, wait⟩ :: (runFrom a base retryable outcome left (attempt + 1)).waits } := by
  rw [runFrom]
  cases outcome attempt with
  | ok value => exact .inl ⟨rfl, rfl⟩
  | error e =>
    cases retried : retryable e with
    | false => exact .inl ⟨retried, if_neg (by simp [retried])⟩
    | true =>
      cases held : backoff? a base attempt with
      | none => exact .inr (.inl ⟨retried, rfl, if_pos retried⟩)
      | some wait => exact .inr (.inr ⟨e, wait, retried, rfl, if_pos retried⟩)

theorem runFrom_isLastCall (a : Arithmetic) (base : Nat) (retryable : ε → Bool) (outcome : Nat → Except ε α)
    (left attempt : Nat) :
    IsLastCall (IsFollowed a base retryable outcome) attempt (attempt + left)
      (runFrom a base retryable outcome left attempt).attempts := by
  induction left generalizing attempt with
  | zero => exact .here (Nat.le_refl attempt) fun below => absurd below (Nat.lt_irrefl attempt)
  | succ left ih =>
    obtain ⟨final, ran⟩ | ⟨-, full, ran⟩ | ⟨e, wait, worth, held, ran⟩ :=
      runFrom_succ_cases a base retryable outcome left attempt
    · rw [ran]
      exact .here (Nat.le_add_right _ _) fun _ followed => Bool.false_ne_true (final.symm.trans followed.1)
    · rw [ran]
      exact .here (Nat.le_add_right _ _) fun _ ⟨_, wait, again⟩ => Option.some_ne_none wait (again.symm.trans full)
    · have later := ih (attempt + 1)
      rw [Nat.succ_add_eq_add_succ] at later
      rw [ran]
      exact later.cons ⟨worth, wait, held⟩

theorem runFrom_result? (a : Arithmetic) (base : Nat) (retryable : ε → Bool) (outcome : Nat → Except ε α)
    (left attempt : Nat) :
    (runFrom a base retryable outcome left attempt).result? =
      returned? (attempt + left) retryable outcome (runFrom a base retryable outcome left attempt).attempts := by
  induction left generalizing attempt with
  | zero => exact (if_neg fun more => Nat.lt_irrefl attempt more.1).symm
  | succ left ih =>
    obtain ⟨final, ran⟩ | ⟨worth, -, ran⟩ | ⟨e, wait, -, -, ran⟩ :=
      runFrom_succ_cases a base retryable outcome left attempt
    · rw [ran]
      exact (if_neg fun more => Bool.false_ne_true (final.symm.trans more.2)).symm
    · rw [ran]
      exact (if_pos ⟨Nat.lt_add_of_pos_right left.succ_pos, worth⟩).symm
    · have later := ih (attempt + 1)
      rw [Nat.succ_add_eq_add_succ] at later
      rw [ran]
      exact later

/-- The calls that waits follow are those before the last, and each wait is that of its call. -/
theorem runFrom_waits (a : Arithmetic) (base : Nat) (retryable : ε → Bool) (outcome : Nat → Except ε α)
    (left attempt : Nat) :
    (runFrom a base retryable outcome left attempt).waits.map (fun wait => (wait.attempt, wait.delay)) =
      (List.range' attempt ((runFrom a base retryable outcome left attempt).attempts - attempt)).map
        fun i => (i, delay a base i) := by
  induction left generalizing attempt with
  | zero => simp [runFrom]
  | succ left ih =>
    obtain ⟨-, ran⟩ | ⟨-, -, ran⟩ | ⟨e, wait, -, held, ran⟩ := runFrom_succ_cases a base retryable outcome left attempt
    · simp [ran]
    · simp [ran]
    · have least := (runFrom_isLastCall a base retryable outcome left (attempt + 1)).least
      have one_more : (runFrom a base retryable outcome left (attempt + 1)).attempts - attempt =
          ((runFrom a base retryable outcome left (attempt + 1)).attempts - (attempt + 1)) + 1 := by omega
      rw [ran]
      simp only [List.map_cons, ih (attempt + 1), one_more, List.range'_succ, delay_of_eq_some held]

/-! ### All calls -/

theorem max_one (limit : Nat) : max limit 1 = 1 + (limit - 1) := by omega

theorem run_isLastCall (a : Arithmetic) (limit base : Nat) (retryable : ε → Bool) (outcome : Nat → Except ε α) :
    IsLastCall (IsFollowed a base retryable outcome) 1 (max limit 1) (run a limit base retryable outcome).attempts := by
  rw [max_one]
  exact runFrom_isLastCall a base retryable outcome (limit - 1) 1

theorem run_result? (a : Arithmetic) (limit base : Nat) (retryable : ε → Bool) (outcome : Nat → Except ε α) :
    (run a limit base retryable outcome).result? =
      returned? (max limit 1) retryable outcome (run a limit base retryable outcome).attempts := by
  rw [max_one]
  exact runFrom_result? a base retryable outcome (limit - 1) 1

theorem run_waits (a : Arithmetic) (limit base : Nat) (retryable : ε → Bool) (outcome : Nat → Except ε α) :
    (run a limit base retryable outcome).waits.map (fun wait => (wait.attempt, wait.delay)) =
      (List.range' 1 ((run a limit base retryable outcome).attempts - 1)).map fun i => (i, delay a base i) :=
  runFrom_waits a base retryable outcome (limit - 1) 1

/-! ### Calls that are not stopped -/

def HasRoom (base last : Nat) : Prop := ∀ i, 1 ≤ i → i < last → Fits base i

theorem delay_of_hasRoom (a : Arithmetic) (room : HasRoom base last) (i : Nat) (least : 1 ≤ i) (before : i < last) :
    delay a base i = base * 2 ^ (i - 1) :=
  delay_of_eq_some (backoff?_of_fits a (room i least before))

/-- The waits are the same if words have no bound or are never full. -/
theorem delay_of_unbounded_or_hasRoom (plain : a = .unbounded ∨ HasRoom base last) (i : Nat) (least : 1 ≤ i)
    (before : i < last) : delay a base i = base * 2 ^ (i - 1) := by
  rcases plain with rfl | room
  · exact delay_of_eq_some (backoff?_unbounded base i)
  · exact delay_of_hasRoom a room i least before

theorem exists_backoff? (held : a ≠ .checked ∨ HasRoom base last) {i : Nat} (least : 1 ≤ i) (before : i < last) :
    ∃ wait, backoff? a base i = some wait := by
  refine Option.ne_none_iff_exists'.mp fun stopped => ?_
  obtain ⟨checked, beyond⟩ := backoff?_eq_none_iff.mp stopped
  rcases held with unchecked | room
  · exact unchecked checked
  · exact beyond (room i least before)

/-- Without a bound on words nothing but the outcomes and the limit ends the calls. -/
theorem unbounded_isLastCall (limit base : Nat) (retryable : ε → Bool) (outcome : Nat → Except ε α) :
    IsLastCall (fun i => isWorthAnother retryable (outcome i) = true) 1 (max limit 1)
      (run .unbounded limit base retryable outcome).attempts :=
  have isEnd := run_isLastCall .unbounded limit base retryable outcome
  { isEnd with
    followed := fun i least before => (isEnd.followed i least before).1
    ends := fun below worth => isEnd.ends below ⟨worth, _, backoff?_unbounded base _⟩ }

variable {most : Nat}

/-- Where all waits are held, calls go on for as long as they are worth it. -/
theorem IsLastCall.isFollowed (held : a ≠ .checked ∨ HasRoom base last)
    (isLast : IsLastCall (fun i => isWorthAnother retryable (outcome i) = true) 1 most last) :
    IsLastCall (IsFollowed a base retryable outcome) 1 most last where
  least := isLast.least
  greatest := isLast.greatest
  followed i least before := ⟨isLast.followed i least before, exists_backoff? held least before⟩
  ends below followed := isLast.ends below followed.1

theorem IsLastCall.returned?_eq
    (isLast : IsLastCall (fun i => isWorthAnother retryable (outcome i) = true) 1 most last) :
    returned? most retryable outcome last = some (outcome last) :=
  if_neg fun more => isLast.ends more.1 more.2

/-- A program that stops does so at the first call whose power or wait no word holds. -/
theorem IsLastCall.stops {stop : Nat} (full : ¬HasRoom base last)
    (isLast : IsLastCall (fun i => isWorthAnother retryable (outcome i) = true) 1 most last)
    (isStop : IsLastCall (IsFollowed .checked base retryable outcome) 1 most stop) :
    stop < last ∧ HasRoom base stop ∧ ¬Fits base stop ∧ returned? most retryable outcome stop = none := by
  have fits {i : Nat} (least : 1 ≤ i) (before : i < stop) : Fits base i := by
    obtain ⟨-, wait, held⟩ := isStop.followed i least before
    by_contra beyond
    exact Option.some_ne_none wait (held.symm.trans (backoff?_eq_none_iff.mpr ⟨rfl, beyond⟩))
  have before : stop < last :=
    Nat.lt_of_not_le fun behind => full fun i least below => fits least (Nat.lt_of_lt_of_le below behind)
  have allowed : stop < most := Nat.lt_of_lt_of_le before isLast.greatest
  have worth := isLast.followed stop isStop.least before
  exact ⟨before, fun i least below => fits least below,
    fun room => isStop.ends allowed ⟨worth, _, backoff?_of_fits .checked room⟩, if_pos ⟨allowed, worth⟩⟩

end Gazetteer.Retry
