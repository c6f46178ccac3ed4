import Gazetteer.Proofs.Latch.Invariant
import Mathlib.Data.List.Induction

/-!
Runs of a latch: which acts are allowed and what they are answered is told from the acts before them.
-/

namespace Gazetteer

namespace Latch

variable {w : Watch} {acts : List Act} {act : Act} {l : Latch w}

namespace Tracks

variable (tracks : Tracks acts l)

include tracks

theorem step_isSome_iff : (l.step act).isSome = true ↔ Allowed acts act := by
  cases act with
  | poll wait | giveUp wait =>
    rw [Allowed, tracks.awaited_iff, step, Option.isSome_map]
  | _ handle =>
    rw [Allowed, tracks.held_iff, step, Option.isSome_map]

theorem step (documented : w.Documented) {next : Latch w} {answer : Answer} (stepped : l.step act = some (next, answer)) :
    Tracks (acts ++ [act]) next ∧ Answers acts act answer := by
  have allowed : Allowed acts act := tracks.step_isSome_iff.mp (Option.isSome_iff_exists.mpr ⟨_, stepped⟩)
  cases act with
  | clone handle =>
    obtain ⟨receiver, here, made⟩ := Option.map_eq_some_iff.mp stepped
    cases made
    exact ⟨tracks.clone documented here, congrArg Answer.made tracks.handles.length⟩
  | raise handle =>
    obtain ⟨receiver, -, made⟩ := Option.map_eq_some_iff.mp stepped
    cases made
    exact ⟨tracks.raise documented allowed, rfl⟩
  | look handle =>
    obtain ⟨receiver, -, made⟩ := Option.map_eq_some_iff.mp stepped
    cases made
    refine ⟨tracks.unchanged allowed (.inl ⟨handle, rfl⟩), w.look l.channel receiver, rfl, ?_⟩
    rw [documented.look_eq, tracks.value]
  | wait handle =>
    obtain ⟨receiver, -, made⟩ := Option.map_eq_some_iff.mp stepped
    cases made
    exact ⟨tracks.wait documented allowed, congrArg Answer.made tracks.waits.length⟩
  | drop handle =>
    obtain ⟨receiver, here, made⟩ := Option.map_eq_some_iff.mp stepped
    cases made
    exact ⟨tracks.drop documented here, rfl⟩
  | poll wait =>
    obtain ⟨waiting, here, made⟩ := Option.map_eq_some_iff.mp stepped
    have polled := tracks.poll documented here
    rw [made] at polled
    exact polled
  | giveUp wait =>
    obtain ⟨waiting, here, made⟩ := Option.map_eq_some_iff.mp stepped
    have given_up := tracks.giveUp documented here
    cases waiting <;> cases made <;> exact ⟨given_up, rfl⟩

end Tracks

theorem run_snoc (l : Latch w) (acts : List Act) (act : Act) :
    l.run (acts ++ [act]) = (l.run acts).bind fun (last, answers) =>
      (last.step act).map fun (next, answer) => (next, answers ++ [answer]) := by
  induction acts generalizing l with
  | nil =>
    change (l.step act).bind _ = (l.step act).map _
    cases l.step act <;> rfl
  | cons first acts ih =>
    change (l.step first).bind _ = ((l.step first).bind _).bind _
    cases l.step first with
    | none => rfl
    | some made =>
      change (made.1.run (acts ++ [act])).map _ = ((made.1.run acts).map _).bind _
      rw [ih made.1]
      cases made.1.run acts with
      | none => rfl
      | some reached =>
        change ((reached.1.step act).map _).map _ = (reached.1.step act).map _
        rw [Option.map_map]
        rfl

theorem run_tracks (documented : w.Documented) (acts : List Act) :
    ((({} : Latch w).run acts).isSome = true ↔ AllAllowed acts) ∧
      ∀ l answers, ({} : Latch w).run acts = some (l, answers) → Tracks acts l ∧ AllAnswered acts answers := by
  -- The last act is peeled off, since what it is answered depends on all acts before it.
  induction acts using List.reverseRecOn with
  | nil =>
    refine ⟨iff_of_true rfl fun n act here => (by cases here), fun l answers ran => ?_⟩
    cases ran
    exact ⟨initial_tracks documented, rfl, fun n act answer here => (by cases here)⟩
  | append_singleton acts act ih =>
    rw [run_snoc, allAllowed_snoc, ← ih.1]
    cases ran : ({} : Latch w).run acts with
    | none => simp
    | some reached =>
      obtain ⟨tracks, answered⟩ := ih.2 reached.1 reached.2 ran
      rw [Option.bind_some]
      constructor
      · rw [Option.isSome_map, tracks.step_isSome_iff]
        exact (and_iff_right rfl).symm
      · intro next answers stepped
        obtain ⟨⟨_, answer⟩, step, made⟩ := Option.map_eq_some_iff.mp stepped
        cases made
        obtain ⟨tracked, last⟩ := tracks.step documented step
        exact ⟨tracked, answered.snoc last⟩

/-- A latch that is seen raised is not seen lowered later. -/
theorem AllAnswered.stays_raised {answers : List Answer} (each : AllAnswered acts answers) {n m : Nat} (later : n ≤ m)
    (seen : answers[n]? = some (.raised true)) : answers[m]? ≠ some (.raised false) := by
  intro lowered
  have looked {k : Nat} {value : Bool} (answer : answers[k]? = some (.raised value)) :
      value = true ↔ Raised (acts.take k) := by
    have bound : k < acts.length := each.1 ▸ (List.getElem?_eq_some_iff.mp answer).1
    have told := each.2 k acts[k] (.raised value) (List.getElem?_eq_getElem bound) answer
    cases kind : acts[k] <;> rw [kind] at told
    case look =>
      obtain ⟨_, same, raised⟩ := told
      cases same
      exact raised
    case poll =>
      obtain ⟨_, other, -⟩ := told
      cases other
    all_goals cases told
  have raised := ((looked seen).mp rfl).take later
  cases (looked lowered).mpr raised

end Latch

open Latch in
/-- A latch is shared by its handles and goes one way.  A history of acts runs exactly if each act is on a handle that is held or a
wait that is not given up.  A look at any handle tells whether some handle was raised before it, so that what is seen raised is not
seen lowered later; a poll of any wait, whenever that was begun, tells whether a handle was raised or all of them are dropped; and
nobody can raise a handle in vain, for the value is sent. -/
theorem latch_goes_one_way {w : Watch} (documented : w.Documented) (acts : List Act) :
    ((({} : Latch w).run acts).isSome = true ↔ AllAllowed acts) ∧
      ∀ (l : Latch w) (answers : List Answer), ({} : Latch w).run acts = some (l, answers) →
        AllAnswered acts answers ∧
        (∀ n m : Nat, n ≤ m → answers[n]? = some (.raised true) → answers[m]? ≠ some (.raised false)) ∧
        ∀ handle, Held acts handle → ∃ channel, w.send true l.channel = some channel ∧ (w.view channel).value = true := by
  obtain ⟨allowed, reached⟩ := run_tracks documented acts
  refine ⟨allowed, fun l answers ran => ?_⟩
  obtain ⟨tracks, answered⟩ := reached l answers ran
  refine ⟨answered, fun n m later seen => answered.stays_raised later seen, fun handle held => ?_⟩
  obtain ⟨channel, sent, shown⟩ := tracks.sends documented held
  exact ⟨channel, sent, by rw [shown]⟩

open Latch in
/-- A wait that outlives the handle it was begun with, and another latch that nobody raised before it was dropped. -/
theorem wait_outlives_handle :
    Watch.counted.Documented ∧
      AllAnswered [.wait 0, .clone 0, .drop 0, .poll 0, .raise 1, .poll 0, .look 1]
        [.made 0, .made 1, .done, .ended false, .done, .ended true, .raised true] ∧
      AllAnswered [.wait 0, .look 0, .poll 0, .drop 0, .poll 0] [.made 0, .raised false, .ended false, .done, .ended true] :=
  ⟨Watch.counted_documented, ((latch_goes_one_way Watch.counted_documented _).2 _ _ rfl).1,
    ((latch_goes_one_way Watch.counted_documented _).2 _ _ rfl).1⟩

end Gazetteer
