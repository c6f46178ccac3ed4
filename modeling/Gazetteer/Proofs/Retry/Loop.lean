import Gazetteer.Proofs.Retry.Calls

/-!
The loop that calls again.  It is a relation here, with nothing in it that makes it end; it ends after the last call all the
same, or where the program stops, in one way only, and `Retry.run` is that way.
-/

namespace Gazetteer.Retry

inductive Act (ε α : Type)
  | call (ended : Except ε α)
  | wait (delay : Nat)

variable {ε α : Type}

namespace Act

def ended? : Act ε α → Option (Except ε α)
  | call ended => some ended
  | wait _ => none

def delay? : Act ε α → Option Nat
  | call _ => none
  | wait delay => some delay

end Act

/-- The loop from where `made` calls have been made: what it does, in order, and what it returns with the number of calls,
which is nothing if the program stops. -/
inductive Loop (a : Arithmetic) (limit base : Nat) (retryable : ε → Bool) (outcome : Nat → Except ε α) :
    (made : Nat) → List (Act ε α) → Option (Except ε α) × Nat → Prop
  | succeeds {made : Nat} {value : α} (ended : outcome (made + 1) = .ok value) :
    Loop a limit base retryable outcome made [.call (.ok value)] (some (.ok value), made + 1)
  | fails {made : Nat} {e : ε} (ended : outcome (made + 1) = .error e)
    (last : max limit 1 ≤ made + 1 ∨ retryable e = false) :
    Loop a limit base retryable outcome made [.call (.error e)] (some (.error e), made + 1)
  | stops {made : Nat} {e : ε} (ended : outcome (made + 1) = .error e) (allowed : made + 1 < max limit 1)
    (retried : retryable e = true) (stopped : backoff? a base (made + 1) = none) :
    Loop a limit base retryable outcome made [.call (.error e)] (none, made + 1)
  | again {made : Nat} {e : ε} {wait : Nat} {acts : List (Act ε α)} {returned : Option (Except ε α) × Nat}
    (ended : outcome (made + 1) = .error e) (allowed : made + 1 < max limit 1) (retried : retryable e = true)
    (held : backoff? a base (made + 1) = some wait) (rest : Loop a limit base retryable outcome (made + 1) acts returned) :
    Loop a limit base retryable outcome made (.call (.error e) :: .wait wait :: acts) returned

variable {a : Arithmetic} {limit base made first last : Nat} {retryable : ε → Bool} {outcome : Nat → Except ε α}
  {acts : List (Act ε α)} {returned : Option (Except ε α) × Nat}

/-- Calls with their outcomes, and a wait after each of them but the last. -/
def history (delay : Nat → Nat) (outcome : Nat → Except ε α) (first last : Nat) : List (Act ε α) :=
  (List.range' first (last - first)).flatMap (fun i => [.call (outcome i), .wait (delay i)]) ++ [.call (outcome last)]

theorem history_self (delay : Nat → Nat) (outcome : Nat → Except ε α) (last : Nat) :
    history delay outcome last last = [.call (outcome last)] := by
  simp [history]

theorem history_cons (delay : Nat → Nat) (outcome : Nat → Except ε α) (before : first < last) :
    history delay outcome first last =
      .call (outcome first) :: .wait (delay first) :: history delay outcome (first + 1) last := by
  have one_more : last - first = last - (first + 1) + 1 := by omega
  rw [history, one_more, List.range'_succ, List.flatMap_cons]
  rfl

theorem history_congr {delay delay' : Nat → Nat} (same : ∀ i, first ≤ i → i < last → delay i = delay' i) :
    history delay outcome first last = history delay' outcome first last := by
  have each : ∀ i ∈ List.range' first (last - first),
      [Act.call (outcome i), .wait (delay i)] = [.call (outcome i), .wait (delay' i)] := by
    intro i member
    obtain ⟨least, below⟩ := List.mem_range'_1.mp member
    rw [same i least (by omega)]
  rw [history, history, List.flatMap_def, List.flatMap_def, List.map_congr_left each]

theorem calls_history (delay : Nat → Nat) (outcome : Nat → Except ε α) (before : first ≤ last) :
    (history delay outcome first last).filterMap Act.ended? = (List.range' first (last + 1 - first)).map outcome := by
  have one_more : last + 1 - first = last - first + 1 := by omega
  have reached : first + 1 * (last - first) = last := by omega
  rw [one_more, List.range'_concat, reached, List.map_append, history, List.filterMap_append, List.filterMap_flatMap,
    List.map_eq_flatMap]
  rfl

theorem delays_history (delay : Nat → Nat) (outcome : Nat → Except ε α) (first last : Nat) :
    (history delay outcome first last).filterMap Act.delay? = (List.range' first (last - first)).map delay := by
  rw [history, List.filterMap_append, List.filterMap_flatMap, List.map_eq_flatMap]
  exact List.append_nil _

/-! ### What the loop does -/

theorem loop_isLastCall (loop : Loop a limit base retryable outcome made acts returned) (allowed : made < max limit 1) :
    IsLastCall (IsFollowed a base retryable outcome) (made + 1) (max limit 1) returned.2 ∧
      acts = history (delay a base) outcome (made + 1) returned.2 ∧
      returned.1 = returned? (max limit 1) retryable outcome returned.2 := by
  induction loop with
  | succeeds ended =>
    refine ⟨.here allowed fun _ followed => ?_, ?_, (if_neg fun more => ?_).trans (congrArg some ended) |>.symm⟩
    · simpa [ended, isWorthAnother] using followed.1
    · rw [history_self, ended]
    · simpa [ended, isWorthAnother] using more.2
  | @fails made e ended last =>
    have enough (below : made + 1 < max limit 1) : isWorthAnother retryable (outcome (made + 1)) ≠ true := by
      rcases last with full | refused
      · exact absurd below (Nat.not_lt_of_le full)
      · simp [ended, isWorthAnother, refused]
    refine ⟨.here allowed fun below followed => enough below followed.1, ?_,
      (if_neg fun more => enough more.1 more.2).trans (congrArg some ended) |>.symm⟩
    rw [history_self, ended]
  | stops ended below retried stopped =>
    refine ⟨.here allowed fun _ followed => ?_, ?_, (if_pos ⟨below, isWorthAnother_iff.mpr ⟨_, ended, retried⟩⟩).symm⟩
    · obtain ⟨-, wait, held⟩ := followed
      exact Option.some_ne_none wait (held.symm.trans stopped)
    · rw [history_self, ended]
  | again ended more retried held _ ih =>
    obtain ⟨later, acts_eq, result⟩ := ih more
    refine ⟨later.cons ⟨isWorthAnother_iff.mpr ⟨_, ended, retried⟩, _, held⟩, ?_, result⟩
    rw [history_cons _ _ (Nat.lt_of_succ_le later.least), ended, acts_eq, delay_of_eq_some held]

theorem loop_of_isLastCall
    (isLast : IsLastCall (IsFollowed a base retryable outcome) (made + 1) (max limit 1) last) :
    Loop a limit base retryable outcome made (history (delay a base) outcome (made + 1) last)
      (returned? (max limit 1) retryable outcome last, last) := by
  -- each call leaves one less ahead, and the last call is the same from the next call on
  obtain ⟨ahead, reached⟩ := Nat.exists_eq_add_of_le isLast.least
  induction ahead generalizing made with
  | zero =>
    obtain rfl : last = made + 1 := reached
    rw [history_self, returned?]
    cases ended : outcome (made + 1) with
    | ok value =>
      rw [if_neg fun more => Bool.false_ne_true more.2]
      exact .succeeds ended
    | error e =>
      split
      next more =>
        refine .stops ended more.1 more.2 (Option.eq_none_iff_forall_ne_some.mpr fun wait held => ?_)
        exact isLast.ends more.1 ⟨isWorthAnother_iff.mpr ⟨e, ended, more.2⟩, wait, held⟩
      next last =>
        refine .fails ended ((Nat.lt_or_ge (made + 1) (max limit 1)).symm.imp_right fun below => ?_)
        exact Bool.not_eq_true _ |>.mp fun retried => last ⟨below, retried⟩
  | succ ahead ih =>
    have before : made + 1 < last := by omega
    obtain ⟨worth, wait, held⟩ := isLast.followed (made + 1) (Nat.le_refl _) before
    obtain ⟨e, ended, retried⟩ := isWorthAnother_iff.mp worth
    rw [history_cons _ _ before, ended, delay_of_eq_some held]
    exact .again ended (Nat.lt_of_lt_of_le before isLast.greatest) retried held (ih (isLast.tail before) (by omega))

theorem loop_iff (isLast : IsLastCall (IsFollowed a base retryable outcome) 1 (max limit 1) last) (acts : List (Act ε α))
    (returned : Option (Except ε α) × Nat) :
    Loop a limit base retryable outcome 0 acts returned ↔
      acts = history (delay a base) outcome 1 last ∧ returned = (returned? (max limit 1) retryable outcome last, last) := by
  constructor
  · intro loop
    obtain ⟨other, acts_eq, result⟩ := loop_isLastCall loop (Nat.lt_of_lt_of_le Nat.zero_lt_one (Nat.le_max_right limit 1))
    have same : returned.2 = last := other.unique isLast
    rw [same] at acts_eq result
    exact ⟨acts_eq, Prod.ext result same⟩
  · rintro ⟨rfl, rfl⟩
    exact loop_of_isLastCall isLast

/-! ### How long it waits -/

theorem sum_doubling (base n : Nat) : ((List.range' 1 n).map fun i => base * 2 ^ (i - 1)).sum = base * (2 ^ n - 1) := by
  induction n with
  | zero => rfl
  | succ n ih =>
    -- waits that double come to one less than the next of them would be
    have next : 2 ^ n - 1 + 2 ^ n = 2 ^ (n + 1) - 1 := by
      have positive := Nat.two_pow_pos n
      omega
    rw [List.range'_1_concat, List.map_append, List.sum_append, ih, List.map_singleton, List.sum_singleton,
      Nat.add_sub_cancel_left, ← Nat.mul_add, next]

theorem run_delays (a : Arithmetic) (limit base : Nat) (retryable : ε → Bool) (outcome : Nat → Except ε α) :
    (run a limit base retryable outcome).waits.map Wait.delay =
      (List.range' 1 ((run a limit base retryable outcome).attempts - 1)).map (delay a base) := by
  have delays := congrArg (List.map Prod.snd) (run_waits a limit base retryable outcome)
  rwa [List.map_map, List.map_map] at delays

theorem sum_waits (plain : a = .unbounded ∨ HasRoom base (run a limit base retryable outcome).attempts) :
    ((run a limit base retryable outcome).waits.map Wait.delay).sum =
      base * (2 ^ ((run a limit base retryable outcome).attempts - 1) - 1) := by
  have exact_waits : ∀ i ∈ List.range' 1 ((run a limit base retryable outcome).attempts - 1),
      delay a base i = base * 2 ^ (i - 1) := by
    intro i member
    obtain ⟨least, below⟩ := List.mem_range'_1.mp member
    exact delay_of_unbounded_or_hasRoom plain i least (by omega)
  rw [run_delays, List.map_congr_left exact_waits, sum_doubling]

/-! ### The loop as a whole -/

/-- The operation is called until it succeeds, fails in a way that is refused, or has been called as often as allowed, and at
least once.  The loop ends after that call, in no other way, with what the call came to; the waits between the calls double
for as long as words have room.  A program that stops where they have none does so at the first call after which they have
none, and the waits up to there double too. -/
theorem loop_exact (a : Arithmetic) (limit base : Nat) (retryable : ε → Bool) (outcome : Nat → Except ε α) :
    ∃ last, IsLastCall (fun i => ∃ e, outcome i = .error e ∧ retryable e = true) 1 (max limit 1) last ∧
      (a ≠ .checked ∨ HasRoom base last → ∃ acts,
        (run a limit base retryable outcome).result? = some (outcome last) ∧
        (run a limit base retryable outcome).attempts = last ∧
        Loop a limit base retryable outcome 0 acts (some (outcome last), last) ∧
        (∀ acts' returned, Loop a limit base retryable outcome 0 acts' returned →
          acts' = acts ∧ returned = (some (outcome last), last)) ∧
        acts.filterMap Act.ended? = (List.range' 1 last).map outcome ∧
        acts.filterMap Act.delay? = (run a limit base retryable outcome).waits.map Wait.delay ∧
        (a = .unbounded ∨ HasRoom base last →
          acts = history (fun i => base * 2 ^ (i - 1)) outcome 1 last ∧
          ((run a limit base retryable outcome).waits.map Wait.delay).sum = base * (2 ^ (last - 1) - 1))) ∧
      (a = .checked → ¬HasRoom base last → ∃ stop < last, HasRoom base stop ∧ ¬Fits base stop ∧
        (run a limit base retryable outcome).result? = none ∧
        (run a limit base retryable outcome).attempts = stop ∧
        Loop a limit base retryable outcome 0 (history (fun i => base * 2 ^ (i - 1)) outcome 1 stop) (none, stop) ∧
        ∀ acts' returned, Loop a limit base retryable outcome 0 acts' returned →
          acts' = history (fun i => base * 2 ^ (i - 1)) outcome 1 stop ∧ returned = (none, stop)) := by
  have isEnd := run_isLastCall a limit base retryable outcome
  have result := run_result? a limit base retryable outcome
  have isLast := unbounded_isLastCall limit base retryable outcome
  refine ⟨_, by simpa only [isWorthAnother_iff] using isLast, fun held => ?_, ?_⟩
  · have isEnd' := isLast.isFollowed held
    have unique_end := loop_iff isEnd'
    have reached := isEnd.unique isEnd'
    simp only [isLast.returned?_eq] at unique_end
    rw [reached, isLast.returned?_eq] at result
    refine ⟨history (delay a base) outcome 1 _, result, reached, (unique_end _ _).mpr ⟨rfl, rfl⟩,
      fun acts' returned => (unique_end acts' returned).mp, calls_history _ _ isLast.least, ?_, fun plain => ⟨?_, ?_⟩⟩
    · rw [delays_history, run_delays, reached]
    · exact history_congr (delay_of_unbounded_or_hasRoom plain)
    · rw [← reached] at plain ⊢
      exact sum_waits plain
  · rintro rfl full
    obtain ⟨before, room, beyond, stopped⟩ := isLast.stops full isEnd
    have unique_end := loop_iff isEnd
    simp only [stopped, history_congr (delay_of_hasRoom .checked room)] at unique_end
    exact ⟨_, before, room, beyond, result.trans stopped, rfl, (unique_end _ _).mpr ⟨rfl, rfl⟩,
      fun acts' returned => (unique_end acts' returned).mp⟩

def lateAnswer (attempt : Nat) : Except Unit Nat := if attempt < 3 then .error () else .ok attempt

theorem lateAnswer_waits : HasRoom 100 3 ∧ (run .checked 5 100 (fun _ => true) lateAnswer).attempts = 3 ∧
    ((run .checked 5 100 (fun _ => true) lateAnswer).waits.map Wait.delay).sum = 300 := by
  have room : HasRoom 100 3 := by
    intro i least before
    obtain rfl | rfl : i = 1 ∨ i = 2 := by omega
    · exact ⟨by decide, by decide⟩
    · exact ⟨by decide, by decide⟩
  obtain ⟨last, -, ends, stops⟩ := loop_exact .checked 5 100 (fun _ => true) lateAnswer
  -- three calls are made in fact, and no program stops after so few
  have reached : (run .checked 5 100 (fun _ => true) lateAnswer).attempts = 3 := rfl
  by_cases roomy : HasRoom 100 last
  · obtain ⟨acts, -, attempts, -, -, -, -, exact_waits⟩ := ends (.inr roomy)
    obtain rfl : last = 3 := attempts.symm.trans reached
    exact ⟨room, reached, (exact_waits (.inr room)).2⟩
  · obtain ⟨stop, -, -, -, stopped, -⟩ := stops rfl roomy
    cases stopped

end Gazetteer.Retry
