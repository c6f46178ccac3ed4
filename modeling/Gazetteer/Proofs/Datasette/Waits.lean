import Gazetteer.Configuration.Load
import Gazetteer.Proofs.Datasette.Attempts

/-!
The waits between attempts at a query.  They double from a tenth of a second for as long as words hold them; the one after the
fifty-eighth attempt is the last that they hold.  The limit on attempts may be any number but zero and does not keep them there:
after the fifty-ninth attempt a program stops, or waits for less long than before.
-/

namespace Gazetteer.Datasette

open Retry

variable (c : Client) (a : Arithmetic) (peer : (attempt : Nat) → Delivery)

def Exchange.WaitsDouble (x : Exchange) : Prop :=
  ∀ attempt delay next, .retrying attempt delay ∈ x.notices → .retrying (attempt + 1) next ∈ x.notices → next = 2 * delay

theorem retrying_mem_iff {attempt wait : Nat} : .retrying attempt wait ∈ (c.execute a peer).notices ↔
    1 ≤ attempt ∧ attempt < (c.execute a peer).attempts ∧ wait = delay a baseDelay attempt := by
  have unfailed : .retrying attempt wait ∉ failureNotices (c.execute a peer).attempts (c.execute a peer).result? := by
    rcases (c.execute a peer).result? with - | - | -
    · exact List.not_mem_nil
    · simp [failureNotices]
    · exact List.not_mem_nil
  have least := (execute_isEnd c a peer).least
  rw [execute_notices, List.mem_append, or_iff_left unfailed, retryNotices, List.mem_map]
  constructor
  · rintro ⟨i, member, told⟩
    obtain ⟨rfl, rfl⟩ := Notice.retrying.inj told
    obtain ⟨from_one, below⟩ := List.mem_range'_1.mp member
    exact ⟨from_one, by omega, rfl⟩
  · rintro ⟨from_one, before, rfl⟩
    exact ⟨attempt, List.mem_range'_1.mpr ⟨from_one, by omega⟩, rfl⟩

/-! ### Words that are cut off -/

theorem delay_wrapping (base attempt : Nat) : delay .wrapping base attempt = base * 2 ^ (attempt - 1) % 2 ^ 64 :=
  delay_of_eq_some (backoff?_wrapping base attempt)

theorem delay_wrapping_eq_zero {attempt : Nat} (late : 63 ≤ attempt) : delay .wrapping baseDelay attempt = 0 := by
  obtain ⟨beyond, rfl⟩ := Nat.exists_eq_add_of_le late
  -- a hundred is four times twenty-five, so two of the 64 bits are there already
  have power : 63 + beyond - 1 = 62 + beyond := by omega
  have whole : 100 * 2 ^ (62 + beyond) = 2 ^ 64 * (25 * 2 ^ beyond) := by rw [Nat.pow_add]; omega
  rw [delay_wrapping, power, baseDelay, whole, Nat.mul_mod_right]

theorem waitsDouble_iff : (c.execute .wrapping peer).WaitsDouble ↔ (c.execute .unbounded peer).attempts ≤ 59 := by
  have attempts : (c.execute .wrapping peer).attempts = (c.execute .unbounded peer).attempts :=
    execute_attempts (.inl (by decide))
  rw [← attempts]
  constructor
  · intro double
    refine Nat.le_of_not_lt fun many => ?_
    -- the last wait that a word holds, and the next one
    have cut := double 58 _ _ ((retrying_mem_iff c .wrapping peer).mpr ⟨by decide, by omega, rfl⟩)
      ((retrying_mem_iff c .wrapping peer).mpr ⟨by decide, by omega, rfl⟩)
    exact absurd cut (by decide)
  · intro few attempt wait next told told_next
    have room := hasRoom_iff.mpr few
    obtain ⟨from_one, before, rfl⟩ := (retrying_mem_iff c .wrapping peer).mp told
    obtain ⟨from_two, before_next, rfl⟩ := (retrying_mem_iff c .wrapping peer).mp told_next
    obtain ⟨made, rfl⟩ := Nat.exists_eq_add_of_le' from_one
    rw [delay_of_hasRoom _ room _ from_one before, delay_of_hasRoom _ room _ from_two before_next, Nat.add_sub_cancel,
      Nat.add_sub_cancel, Nat.pow_succ', Nat.mul_left_comm]

/-! ### Words that stop the program -/

theorem execute_stops (many : 59 < (c.execute .unbounded peer).attempts) :
    (c.execute .checked peer).attempts = 59 ∧ (c.execute .checked peer).result? = none := by
  have isEnd := execute_isEnd c .checked peer
  have full : ¬HasRoom baseDelay (c.execute .unbounded peer).attempts := by
    rw [hasRoom_iff]
    omega
  obtain ⟨-, room, beyond, stopped⟩ := (execute_isLastCall c peer).stops full isEnd
  have few := hasRoom_iff.mp room
  have least := isEnd.least
  have late : 59 ≤ (c.execute .checked peer).attempts :=
    Nat.le_of_not_lt fun early => beyond (hasRoom_iff.mpr (Nat.le_refl 59) _ least early)
  exact ⟨by omega, (execute_returned c .checked peer).trans stopped⟩

theorem execute_checked_iff :
    (c.execute .checked peer).result? ≠ none ↔ (c.execute .unbounded peer).attempts ≤ 59 := by
  constructor
  · intro returned
    exact Nat.le_of_not_lt fun many => returned (execute_stops c peer many).2
  · intro few
    rw [execute_result? (.inr few)]
    exact Option.some_ne_none _

/-! ### A peer that never answers -/

theorem attempts_of_transient (failing : ∀ i, ∃ e, c.outcome peer i = .error e ∧ Transient e) :
    (c.execute .unbounded peer).attempts = max c.settings.maxAttempts 1 := by
  have last := execute_isLastCall c peer
  rcases Nat.eq_or_lt_of_le last.greatest with all | fewer
  · exact all
  · exact absurd (isWorthAnother_iff_transient.mpr (failing _)) (last.ends fewer)

theorem attempts_of_refused : (c.execute .unbounded fun _ => .refused).attempts = max c.settings.maxAttempts 1 :=
  attempts_of_transient c _ fun _ => ⟨_, rfl, .unanswered _⟩

theorem forall_attempts_iff : (∀ peer, (c.execute .unbounded peer).attempts ≤ 59) ↔ c.settings.maxAttempts ≤ 59 := by
  constructor
  · intro few
    have refused := few fun _ => .refused
    rw [attempts_of_refused] at refused
    omega
  · intro limited peer
    have most := (execute_isLastCall c peer).greatest
    omega

/-- Words have room for the powers and the waits of a query if and only if fifty-nine attempts at most are called for.  With more
of them a program that stops where a word is full does so after the fifty-ninth and returns nothing; in a program that goes on
the waits double no more, and from the sixty-third attempt on there is no wait at all.  All queries of a client have room, and
all return, if and only if it is limited to fifty-nine attempts. -/
theorem waits_exact_iff :
    (∀ peer,
      (HasRoom baseDelay (c.execute .unbounded peer).attempts ↔ (c.execute .unbounded peer).attempts ≤ 59) ∧
      ((c.execute .checked peer).result? ≠ none ↔ (c.execute .unbounded peer).attempts ≤ 59) ∧
      (59 < (c.execute .unbounded peer).attempts → (c.execute .checked peer).attempts = 59 ∧
        (c.execute .checked peer).notices = retryNotices .checked 59) ∧
      ((c.execute .wrapping peer).WaitsDouble ↔ (c.execute .unbounded peer).attempts ≤ 59) ∧
      ∀ attempt wait, 63 ≤ attempt → .retrying attempt wait ∈ (c.execute .wrapping peer).notices → wait = 0) ∧
    ((∀ peer, HasRoom baseDelay (c.execute .unbounded peer).attempts) ↔ c.settings.maxAttempts ≤ 59) ∧
    ((∀ peer, (c.execute .checked peer).result? ≠ none) ↔ c.settings.maxAttempts ≤ 59) := by
  refine ⟨fun peer => ⟨hasRoom_iff, execute_checked_iff c peer, fun many => ?_, waitsDouble_iff c peer, ?_⟩, ?_, ?_⟩
  · obtain ⟨attempts, stopped⟩ := execute_stops c peer many
    have notices := execute_notices c .checked peer
    rw [attempts, stopped] at notices
    exact ⟨attempts, notices.trans (List.append_nil _)⟩
  · intro attempt wait late told
    obtain ⟨-, -, rfl⟩ := (retrying_mem_iff c .wrapping peer).mp told
    exact delay_wrapping_eq_zero late
  · simp only [hasRoom_iff, forall_attempts_iff]
  · simp only [execute_checked_iff, forall_attempts_iff]

def patient : Configuration where
  host := "127.0.0.1"
  port := 5390
  datasette := ⟨"http://127.0.0.1:8001", "entity", 30, .bound, 60⟩

/-- The configuration is used, and where there is never a connection no word holds the wait before the last attempt: the program
stops there, or the wait is cut to less than the one before. -/
theorem patient_stops : Configuration.checked patient = .ok patient ∧
    ∃ client, Client.ofSettings patient.datasette = .ok client ∧
      (client.execute .unbounded fun _ => .refused).attempts = 60 ∧
      ¬HasRoom baseDelay (client.execute .unbounded fun _ => .refused).attempts ∧
      2 ^ 64 ≤ baseDelay * 2 ^ (59 - 1) ∧
      (client.execute .checked fun _ => .refused).attempts = 59 ∧
      (client.execute .checked fun _ => .refused).result? = none ∧
      .retrying 58 14411518807585587200 ∈ (client.execute .wrapping fun _ => .refused).notices ∧
      .retrying 59 10376293541461622784 ∈ (client.execute .wrapping fun _ => .refused).notices := by
  refine ⟨rfl, _, rfl, ?_⟩
  generalize reached : Client.mk _ _ = client
  have all : (client.execute .unbounded fun _ => .refused).attempts = 60 := by
    rw [attempts_of_refused, ← reached]
    rfl
  have many : 59 < (client.execute .unbounded fun _ => .refused).attempts := by omega
  have wrapped : (client.execute .wrapping fun _ => .refused).attempts = 60 :=
    (execute_attempts (.inl (by decide))).trans all
  obtain ⟨attempts, stopped⟩ := execute_stops client _ many
  refine ⟨all, by rw [hasRoom_iff]; omega, by decide, attempts, stopped, ?_, ?_⟩
  · exact (retrying_mem_iff client _ _).mpr ⟨by decide, by omega, rfl⟩
  · exact (retrying_mem_iff client _ _).mpr ⟨by decide, by omega, rfl⟩

end Gazetteer.Datasette
