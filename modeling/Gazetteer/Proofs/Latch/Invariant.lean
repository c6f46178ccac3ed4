import Gazetteer.Proofs.Latch.History

/-!
What the channel of a latch shows after a history.  A handle has a receiver, so that a value is sent as long as there is a handle;
the sender is there as long as one of them shares it.
-/

namespace Gazetteer.Latch

variable {w : Watch} {acts : List Act} {l : Latch w}

def isRunning : Option (Waiting w) → Bool
  | some (.running _) => true
  | _ => false

@[simp] theorem isRunning_running (receiver : w.Receiver) : isRunning (some (.running receiver)) = true := rfl

@[simp] theorem isRunning_none : isRunning (none : Option (Waiting w)) = false := rfl

/-- The latch as a history leaves it. -/
structure Tracks (acts : List Act) (l : Latch w) : Prop where
  handles : Roll l.handles (made acts) fun handle => .drop handle ∈ acts
  waits : Roll l.waits (begun acts) fun wait => .giveUp wait ∈ acts
  shares : l.shares = l.handles.countP Option.isSome
  value : (w.view l.channel).value = true ↔ Raised acts
  isOpen : (w.view l.channel).isOpen = true ↔ l.shares ≠ 0
  receivers : (w.view l.channel).receivers = l.shares + l.waits.countP isRunning
  ended : ∀ wait, l.wait? wait = some .ended → Raised acts ∨ Deserted acts

theorem initial_tracks (documented : w.Documented) : Tracks [] ({} : Latch w) where
  handles := {
    length := rfl
    present number := by
      have one : number < made [] ↔ number = 0 := Nat.lt_one_iff
      cases number <;> simp [one]
    known number dropped := by cases dropped }
  waits := {
    length := rfl
    present number := by simp [begun]
    known number left := by cases left }
  shares := rfl
  value := by
    rw [documented.view_opened]
    simp [Raised]
  isOpen := by
    rw [documented.view_opened]
    simp
  receivers := by
    rw [documented.view_opened]
    rfl
  ended wait here := by simp [wait?] at here

namespace Tracks

variable (tracks : Tracks acts l)

section Readings

include tracks

theorem held_iff (handle : Nat) : Held acts handle ↔ (l.receiver? handle).isSome = true :=
  (tracks.handles.present handle).symm

theorem awaited_iff (wait : Nat) : Awaited acts wait ↔ (l.wait? wait).isSome = true :=
  (tracks.waits.present wait).symm

theorem held_of {handle : Nat} {receiver : w.Receiver} (here : l.receiver? handle = some receiver) : Held acts handle :=
  Roll.known_of_present here tracks.handles

theorem awaited_of {wait : Nat} {waiting : Waiting w} (here : l.wait? wait = some waiting) : Awaited acts wait :=
  Roll.known_of_present here tracks.waits

theorem deserted_iff : Deserted acts ↔ l.shares = 0 := by
  rw [tracks.shares]
  exact tracks.handles.countP_eq_zero_iff.symm

/-- A handle shares the sender and has a receiver. -/
theorem shares_pos {handle : Nat} (held : Held acts handle) : 0 < l.shares := by
  obtain ⟨receiver, here⟩ := Option.isSome_iff_exists.mp ((tracks.held_iff handle).mp held)
  rw [tracks.shares]
  exact Roll.countP_pos here

/-- A value is sent where a handle is held. -/
theorem sends (documented : w.Documented) {handle : Nat} (held : Held acts handle) :
    ∃ channel, w.send true l.channel = some channel ∧ w.view channel = { w.view l.channel with value := true } := by
  have received : (w.view l.channel).receivers ≠ 0 := by
    have pos := tracks.shares_pos held
    rw [tracks.receivers]
    omega
  have sent := documented.view_send true l.channel
  rw [if_neg received] at sent
  exact Option.map_eq_some_iff.mp sent

end Readings

/-! ### What each act keeps -/

section Acts

variable {handle number : Nat} {receiver : w.Receiver} {act : Act}

include tracks

theorem same_handles (made_none : act.isClone = false) (dropped_none : ∀ handle, .drop handle ≠ act) :
    Roll l.handles (made (acts ++ [act])) fun handle => .drop handle ∈ acts ++ [act] :=
  tracks.handles.congr (by simp [made_snoc, made_none]) (by simp [dropped_none])

theorem same_waits (begun_none : act.isWait = false) (given_up_none : ∀ wait, .giveUp wait ≠ act) :
    Roll l.waits (begun (acts ++ [act])) fun wait => .giveUp wait ∈ acts ++ [act] :=
  tracks.waits.congr (by simp [begun_snoc, begun_none]) (by simp [given_up_none])

theorem same_value (raised_none : ∀ handle, act ≠ .raise handle) :
    (w.view l.channel).value = true ↔ Raised (acts ++ [act]) := by
  simp [tracks.value, raised_snoc, raised_none]

theorem clone (documented : w.Documented) (here : l.receiver? handle = some receiver) :
    Tracks (acts ++ [.clone handle]) (l.clone receiver).1 where
  handles := (tracks.handles.add _).congr (by simp [made_snoc, Act.isClone]) (by simp)
  waits := tracks.same_waits rfl (by simp)
  shares := by
    change l.shares + 1 = (l.handles ++ _).countP Option.isSome
    rw [List.countP_append, tracks.shares]
    rfl
  value := by
    change (w.view (w.join l.channel receiver).1).value = true ↔ _
    rw [documented.view_join]
    exact tracks.same_value (by simp)
  isOpen := by
    have pos := tracks.shares_pos (tracks.held_of here)
    change (w.view (w.join l.channel receiver).1).isOpen = true ↔ l.shares + 1 ≠ 0
    rw [documented.view_join]
    simp only [tracks.isOpen]
    omega
  receivers := by
    change (w.view (w.join l.channel receiver).1).receivers = l.shares + 1 + l.waits.countP isRunning
    rw [documented.view_join]
    simp only [tracks.receivers]
    omega
  ended wait ended := settled_snoc (tracks.ended wait ended) (tracks.held_of here)

theorem raise (documented : w.Documented) (held : Held acts handle) :
    Tracks (acts ++ [.raise handle]) l.raise.1 := by
  obtain ⟨channel, sent, shown⟩ := tracks.sends documented held
  have raised : l.raise.1 = { l with channel } := by rw [Latch.raise, sent, Option.getD_some]
  rw [raised]
  exact {
    handles := tracks.same_handles rfl (by simp)
    waits := tracks.same_waits rfl (by simp)
    shares := tracks.shares
    value := by simp [shown, raised_snoc]
    isOpen := by simpa [shown] using tracks.isOpen
    receivers := by simpa [shown] using tracks.receivers
    ended := fun wait ended => settled_snoc (tracks.ended wait ended) held }

/-- Looking at the latch, or at a wait that has ended, leaves everything as it is. -/
theorem unchanged (allowed : Allowed acts act)
    (kind : (∃ handle, act = .look handle) ∨ ∃ wait, act = .poll wait) : Tracks (acts ++ [act]) l where
  handles := by rcases kind with ⟨_, rfl⟩ | ⟨_, rfl⟩ <;> exact tracks.same_handles rfl (by simp)
  waits := by rcases kind with ⟨_, rfl⟩ | ⟨_, rfl⟩ <;> exact tracks.same_waits rfl (by simp)
  shares := tracks.shares
  value := by rcases kind with ⟨_, rfl⟩ | ⟨_, rfl⟩ <;> exact tracks.same_value (by simp)
  isOpen := tracks.isOpen
  receivers := tracks.receivers
  ended wait ended := settled_snoc (tracks.ended wait ended) allowed

theorem wait (documented : w.Documented) (held : Held acts handle) :
    Tracks (acts ++ [.wait handle]) (l.wait receiver).1 where
  handles := tracks.same_handles rfl (by simp)
  waits := (tracks.waits.add _).congr (by simp [begun_snoc, Act.isWait]) (by simp)
  shares := tracks.shares
  value := by
    change (w.view (w.join l.channel receiver).1).value = true ↔ _
    rw [documented.view_join]
    exact tracks.same_value (by simp)
  isOpen := by
    change (w.view (w.join l.channel receiver).1).isOpen = true ↔ l.shares ≠ 0
    rw [documented.view_join]
    exact tracks.isOpen
  receivers := by
    change (w.view (w.join l.channel receiver).1).receivers = l.shares + (l.waits ++ _).countP isRunning
    rw [documented.view_join, List.countP_append]
    simp only [tracks.receivers, isRunning, List.countP_singleton, if_true]
    omega
  ended number ended := by
    refine settled_snoc (tracks.ended number ?_) held
    rcases getElem?_snoc.mp (Option.join_eq_some_iff.mp ended) with before | ⟨-, new⟩
    · exact Option.join_eq_some_iff.mpr before
    · cases new

/-- The sender goes with the last handle. -/
theorem drop (documented : w.Documented) (here : l.receiver? handle = some receiver) :
    Tracks (acts ++ [.drop handle]) (l.drop handle receiver).1 := by
  have held := tracks.held_of here
  have pos := tracks.shares_pos held
  -- The channel is open up to here, since this handle has a share of the sender.
  have closes : w.view (if l.shares - 1 = 0 then w.close l.channel else l.channel) =
      { w.view l.channel with isOpen := decide (l.shares - 1 ≠ 0) } := by
    split
    next last => rw [documented.view_close]; simp [last]
    next others =>
      have stays : (w.view l.channel).isOpen = true := tracks.isOpen.mpr (Nat.ne_of_gt pos)
      simp [others, ← stays]
  have shown : w.view (l.drop handle receiver).1.channel =
      { w.view l.channel with
        receivers := (w.view l.channel).receivers - 1, isOpen := decide (l.shares - 1 ≠ 0) } := by
    change w.view (w.leave _ receiver) = _
    rw [documented.view_leave, closes]
  exact {
    handles := (Roll.retire here tracks.handles).congr (by simp [made_snoc, Act.isClone]) (by simp)
    waits := tracks.same_waits rfl (by simp)
    shares := by
      have fewer := Roll.countP_set here none Option.isSome
      change l.shares - 1 = (l.handles.set handle none).countP Option.isSome
      simp only [Option.isSome_some, Option.isSome_none, if_true, Bool.false_eq_true, if_false] at fewer
      rw [tracks.shares]
      omega
    value := by
      rw [shown]
      exact tracks.same_value (by simp)
    isOpen := by
      rw [shown]
      exact decide_eq_true_iff
    receivers := by
      rw [shown]
      change (w.view l.channel).receivers - 1 = l.shares - 1 + l.waits.countP isRunning
      rw [tracks.receivers]
      omega
    ended := fun wait ended => settled_snoc (tracks.ended wait ended) held }

/-- A wait that is polled or given up leaves the handles alone, and its receiver if it stops there. -/
theorem replace_wait {waiting : Waiting w} {other : Option (Waiting w)} {channel : w.Shared}
    (here : l.wait? number = some waiting) (kind : act = .poll number ∨ act = .giveUp number)
    (waits : Roll (l.waits.set number other) (begun (acts ++ [act])) fun wait => .giveUp wait ∈ acts ++ [act])
    (value : (w.view channel).value = (w.view l.channel).value)
    (isOpen : (w.view channel).isOpen = (w.view l.channel).isOpen)
    (receivers : (w.view channel).receivers + (if isRunning (some waiting) then 1 else 0) =
      (w.view l.channel).receivers + if isRunning other then 1 else 0)
    (settled : other = some .ended → Raised acts ∨ Deserted acts) :
    Tracks (acts ++ [act]) { l with channel, waits := l.waits.set number other } where
  handles := by rcases kind with rfl | rfl <;> exact tracks.same_handles rfl (by simp)
  waits := waits
  shares := tracks.shares
  value := by
    rw [value]
    rcases kind with rfl | rfl <;> exact tracks.same_value (by simp)
  isOpen := by rw [isOpen, tracks.isOpen]
  receivers := by
    have counted := Roll.countP_set here other isRunning
    rw [tracks.receivers] at receivers
    change (w.view channel).receivers = l.shares + (l.waits.set number other).countP isRunning
    omega
  ended wait ended := by
    have allowed : Allowed acts act := by rcases kind with rfl | rfl <;> exact tracks.awaited_of here
    refine settled_snoc ?_ allowed
    have found : (if wait = number then other else l.wait? wait) = some .ended :=
      (Roll.getElem?_set (Roll.getElem_of_present here).1 wait).symm.trans ended
    split at found
    next => exact settled found
    next => exact tracks.ended wait found

/-- A wait that stops leaves the channel with a receiver less. -/
theorem leave_receivers (documented : w.Documented) (here : l.wait? number = some (.running receiver)) (left : w.Receiver) :
    (w.view (w.leave l.channel left)).receivers + 1 = (w.view l.channel).receivers := by
  have counted := Roll.countP_set here none isRunning
  have pos : 0 < l.waits.countP isRunning := by
    simp only [isRunning_running, isRunning_none, if_true, Bool.false_eq_true, if_false] at counted
    omega
  rw [documented.view_leave]
  simp only [tracks.receivers]
  omega

theorem giveUp (documented : w.Documented) {waiting : Waiting w} (here : l.wait? number = some waiting) :
    Tracks (acts ++ [.giveUp number]) (l.giveUp number waiting).1 := by
  have waits : Roll (l.waits.set number none) (begun (acts ++ [.giveUp number]))
      fun wait => .giveUp wait ∈ acts ++ [.giveUp number] :=
    (Roll.retire here tracks.waits).congr (by simp [begun_snoc, Act.isWait]) (by simp)
  cases waiting with
  | ended => exact tracks.replace_wait here (.inr rfl) waits rfl rfl rfl nofun
  | running receiver =>
    have fewer := tracks.leave_receivers documented here receiver
    refine tracks.replace_wait here (.inr rfl) waits ?_ ?_ fewer nofun <;> rw [documented.view_leave]

/-- A wait that is polled ends where the latch is raised or deserted, and has ended there before if it has. -/
theorem poll (documented : w.Documented) {waiting : Waiting w} (here : l.wait? number = some waiting) :
    Tracks (acts ++ [.poll number]) (l.poll number waiting).1 ∧
      ∃ value, (l.poll number waiting).2 = .ended value ∧ (value = true ↔ Raised acts ∨ Deserted acts) := by
  have kept (other : Waiting w) : Roll (l.waits.set number (some other)) (begun (acts ++ [.poll number]))
      fun wait => .giveUp wait ∈ acts ++ [.poll number] :=
    (Roll.replace here tracks.waits other).congr (by simp [begun_snoc, Act.isWait]) (by simp)
  cases waiting with
  | ended =>
    exact ⟨tracks.unchanged (tracks.awaited_of here) (.inr ⟨number, rfl⟩), true, rfl, iff_of_true rfl (tracks.ended number here)⟩
  | running receiver =>
    have progress := documented.waitFor_eq id l.channel receiver
    have fewer := tracks.leave_receivers documented here
    have stopped (left : w.Receiver) (settled : Raised acts ∨ Deserted acts) :
        Tracks (acts ++ [.poll number])
          { l with channel := w.leave l.channel left, waits := l.waits.set number (some .ended) } := by
      refine tracks.replace_wait here (.inl rfl) (kept .ended) ?_ ?_ (fewer left) (fun _ => settled) <;>
        rw [documented.view_leave]
    rcases outcome : w.waitFor id l.channel receiver with ⟨reached, later⟩
    rw [outcome] at progress
    simp only [Latch.poll, outcome]
    -- The value is looked at before the sender: a raise counts also where no handle is left.
    by_cases raised : (w.view l.channel).value = true
    · have found : reached = .found := progress.trans (if_pos raised)
      have settled : Raised acts ∨ Deserted acts := .inl (tracks.value.mp raised)
      rw [found]
      exact ⟨stopped later settled, true, rfl, iff_of_true rfl settled⟩
    have lowered : reached = _ := progress.trans (if_neg raised)
    by_cases opened : (w.view l.channel).isOpen = true
    · have goes_on : ¬ (Raised acts ∨ Deserted acts) := by
        rw [← tracks.value, tracks.deserted_iff]
        exact not_or.mpr ⟨raised, tracks.isOpen.mp opened⟩
      rw [lowered, if_pos opened]
      exact ⟨tracks.replace_wait here (.inl rfl) (kept (.running later)) rfl rfl rfl nofun,
        false, rfl, iff_of_false Bool.false_ne_true goes_on⟩
    · have settled : Raised acts ∨ Deserted acts :=
        .inr (tracks.deserted_iff.mpr (not_not.mp fun shared => opened (tracks.isOpen.mpr shared)))
      rw [lowered, if_neg opened]
      exact ⟨stopped later settled, true, rfl, iff_of_true rfl settled⟩

end Acts

end Tracks

end Gazetteer.Latch
