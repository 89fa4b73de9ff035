import HS2Client.Python.Waiting
import Mathlib.Algebra.Order.Archimedean.Basic
import Mathlib.Tactic.Linarith
import Mathlib.Tactic.Ring

/-!
# Waiting with a timeout

The timeout is checked after a sleep and before the next poll, and the first two polls are made
without checking it. The sleeps double, so the time of every poll is known from its number.
-/

namespace HS2Client

namespace Py

/-- How long has been slept at a poll. -/
def pollTime (n : Nat) : ℚ := (2 ^ n - 1) / 20

/-- A poll that is made unless an earlier one finds the operation finished. -/
def Due (timeout : ℚ) (n : Nat) : Prop := n ≤ 1 ∨ pollTime n ≤ timeout

theorem pollTime_succ (n : Nat) : pollTime (n + 1) = 2 * pollTime n + 1 / 20 := by
  unfold pollTime
  rw [pow_succ]
  ring

theorem pollTime_mono {m n : Nat} (before : m ≤ n) : pollTime m ≤ pollTime n := by
  have powers : (2 : ℚ) ^ m ≤ 2 ^ n := pow_le_pow_right₀ one_le_two before
  unfold pollTime
  linarith

theorem Due.of_le {timeout : ℚ} {m n : Nat} (due : Due timeout n) (before : m ≤ n) :
    Due timeout m := by
  rcases due with first | inTime
  · exact .inl (before.trans first)
  · exact .inr ((pollTime_mono before).trans inTime)

theorem exists_not_due (timeout : ℚ) : ∃ n, ¬ Due timeout n := by
  obtain ⟨n, large⟩ := pow_unbounded_of_one_lt (20 * timeout + 1) (one_lt_two : (1 : ℚ) < 2)
  have late : timeout < pollTime n := by
    unfold pollTime
    linarith
  refine ⟨n + 2, ?_⟩
  rintro (first | inTime)
  · omega
  · exact absurd (late.trans_le (pollTime_mono (Nat.le_add_right n 2))) inTime.not_gt

/-- Only finitely many polls are due, the first two always among them. -/
theorem exists_last_due (timeout : ℚ) :
    ∃ last, 1 ≤ last ∧ ∀ n, Due timeout n ↔ n ≤ last := by
  classical
  let late := Nat.find (exists_not_due timeout)
  have notDue : ¬ Due timeout late := Nat.find_spec (exists_not_due timeout)
  have second : 1 < late := by
    by_contra early
    exact notDue (.inl (not_lt.mp early))
  refine ⟨late - 1, by omega, fun n => ⟨fun due => ?_, fun early => ?_⟩⟩
  · by_contra beyond
    exact notDue (due.of_le (by omega))
  · by_contra undue
    have bound : late ≤ n := Nat.find_min' (exists_not_due timeout) undue
    omega

/-- The variables before poll `n + 1`. -/
def Waiting.before (n : Nat) : Waiting :=
  ⟨2 ^ n / 20, pollTime (n + 1), (List.range (n + 1)).map pollTime⟩

theorem Waiting.polledAt_polled_before (n : Nat) :
    (Waiting.before n).polled.polledAt = (List.range (n + 2)).map pollTime := by
  rw [List.range_succ, List.map_append]
  rfl

theorem Waiting.slept_polled_before (n : Nat) :
    (Waiting.before n).polled.slept = Waiting.before (n + 1) := by
  have interval : (2 : ℚ) ^ n / 20 * 2 = 2 ^ (n + 1) / 20 := by
    rw [pow_succ]
    ring
  have total : pollTime (n + 1) + 2 ^ n / 20 * 2 = pollTime (n + 2) := by
    unfold pollTime
    ring
  unfold Waiting.slept
  rw [Waiting.polledAt_polled_before]
  exact congrArg₂ (fun interval total => Waiting.mk interval total _) interval total

section Wait

variable {op : Operation} {timeout : ℚ} {polls : Nat → Outcome .getOperationStatus}

theorem waitLoop_finished {n : Nat} (finished : isFinished op (polls (n + 1)) = true)
    (fuel : Nat) :
    waitLoop op timeout polls (fuel + 1) (.before n) =
      some ⟨.ok (), (Waiting.before n).polled⟩ := by
  have number : (Waiting.before n).polledAt.length = n + 1 := by simp [Waiting.before]
  unfold waitLoop
  rw [number, if_pos finished]

theorem waitLoop_unfinished (positive : 0 < timeout) {n : Nat}
    (unfinished : isFinished op (polls (n + 1)) = false) (fuel : Nat) :
    waitLoop op timeout polls (fuel + 1) (.before n) =
      if timeout < pollTime (n + 2) then some ⟨.error .timedOut, .before (n + 1)⟩
      else waitLoop op timeout polls fuel (.before (n + 1)) := by
  have number : (Waiting.before n).polledAt.length = n + 1 := by simp [Waiting.before]
  rw [waitLoop, number, if_neg (by simp [unfinished]), Waiting.slept_polled_before]
  simp [positive, Waiting.before]

/-- As long as the polls are due and find the operation unfinished, the loop goes on. -/
theorem waitLoop_goes_on (positive : 0 < timeout) (n : Nat) {turns : Nat}
    (unfinished : ∀ m, m ≤ n + turns → isFinished op (polls m) = false)
    (due : Due timeout (n + turns + 1)) (fuel : Nat) :
    waitLoop op timeout polls (turns + fuel) (.before n) =
      waitLoop op timeout polls fuel (.before (n + turns)) := by
  induction turns generalizing n with
  | zero => rw [Nat.zero_add, Nat.add_zero]
  | succ turns ih =>
      have inTime : ¬ timeout < pollTime (n + 2) := by
        rcases due.of_le (show n + 2 ≤ n + (turns + 1) + 1 by omega) with first | inTime
        · omega
        · exact not_lt.mpr inTime
      have step : turns + 1 + fuel = turns + fuel + 1 := Nat.add_right_comm turns 1 fuel
      have shift : n + (turns + 1) = n + 1 + turns := by omega
      rw [shift] at unfinished due ⊢
      rw [step, waitLoop_unfinished positive (unfinished (n + 1) (by omega)), if_neg inTime,
        ih (n + 1) unfinished due]

theorem Waiting.before_zero : Waiting.before 0 = ⟨1 / 20, 1 / 20, [0]⟩ := by
  simp [Waiting.before, pollTime]
  norm_num

theorem wait_goes_on (positive : 0 < timeout) {n : Nat}
    (unfinished : ∀ m ≤ n, isFinished op (polls m) = false) (due : Due timeout (n + 1))
    (fuel : Nat) :
    wait op timeout polls (n + fuel) = waitLoop op timeout polls fuel (.before n) := by
  rw [wait, if_neg (by simp [unfinished 0 (Nat.zero_le n)]), ← Waiting.before_zero]
  rw [← Nat.zero_add n] at unfinished due
  rw [waitLoop_goes_on positive 0 unfinished due, Nat.zero_add]

/-- The first due poll that finds the operation finished ends the wait. -/
theorem wait_of_first_finished (positive : 0 < timeout) {n : Nat} (due : Due timeout n)
    (finished : isFinished op (polls n) = true)
    (first : ∀ m < n, isFinished op (polls m) = false) :
    ∃ waited, (∀ fuel ≥ n, wait op timeout polls fuel = some waited) ∧
      waited.result = .ok () ∧ waited.waiting.totalSleep = pollTime n ∧
      waited.waiting.polledAt = (List.range (n + 1)).map pollTime := by
  cases n with
  | zero =>
      refine ⟨⟨.ok (), ⟨0, 0, [0]⟩⟩, fun fuel _ => ?_, rfl, ?_, ?_⟩
      · rw [wait, if_pos finished]
      · simp [pollTime]
      · simp [pollTime]
  | succ n =>
      refine ⟨⟨.ok (), (Waiting.before n).polled⟩, fun fuel enough => ?_, rfl, rfl, ?_⟩
      · obtain ⟨spare, rfl⟩ := Nat.exists_eq_add_of_le enough
        rw [Nat.add_right_comm, Nat.add_assoc,
          wait_goes_on positive (fun m before => first m (Nat.lt_succ_of_le before)) due]
        exact waitLoop_finished finished spare
      · exact Waiting.polledAt_polled_before n

/-- Otherwise the wait ends after the sleep that follows the last due poll. -/
theorem wait_of_unfinished (positive : 0 < timeout) {last : Nat} (second : 1 ≤ last)
    (bounds : ∀ n, Due timeout n ↔ n ≤ last)
    (unfinished : ∀ n ≤ last, isFinished op (polls n) = false) {fuel : Nat}
    (enough : last ≤ fuel) :
    wait op timeout polls fuel = some ⟨.error .timedOut, .before last⟩ := by
  obtain ⟨n, rfl⟩ := Nat.exists_eq_add_of_le' second
  obtain ⟨spare, rfl⟩ := Nat.exists_eq_add_of_le enough
  have late : timeout < pollTime (n + 2) := by
    by_contra inTime
    have due : Due timeout (n + 2) := .inr (not_lt.mp inTime)
    exact absurd ((bounds (n + 2)).mp due) (Nat.not_succ_le_self (n + 1))
  rw [Nat.add_right_comm, Nat.add_assoc,
    wait_goes_on positive (fun m before => unfinished m (Nat.le_succ_of_le before))
      ((bounds (n + 1)).mpr le_rfl),
    waitLoop_unfinished positive (unfinished (n + 1) le_rfl), if_pos late]

end Wait

/-- A wait that has ended as its timeout says. -/
structure KeepsTimeout (timeout : ℚ) (polls : Nat → Outcome .getOperationStatus)
    (waited : Waited) : Prop where
  polledAt : waited.waiting.polledAt =
    (List.range waited.waiting.polledAt.length).map pollTime
  due : ∀ n < waited.waiting.polledAt.length, Due timeout n
  returns : waited.result = .ok () ↔ ∃ n, Due timeout n ∧ Reports .finished (polls n)
  atFirst : waited.result = .ok () → ∃ n, waited.waiting.polledAt.length = n + 1 ∧
    Reports .finished (polls n) ∧ ∀ m < n, ¬ Reports .finished (polls m)
  raises : waited.result = .error .timedOut ↔
    ∀ n, Due timeout n → ¬ Reports .finished (polls n)
  afterLast : waited.result = .error .timedOut →
    ∀ n, Due timeout n ↔ n < waited.waiting.polledAt.length
  sleeps : waited.waiting.totalSleep ≤ max (3 / 20) (2 * timeout + 1 / 20)
  inTime : ∀ time ∈ waited.waiting.polledAt, time ≤ max timeout (1 / 20)

theorem Due.pollTime_le {timeout : ℚ} {n : Nat} (due : Due timeout n) :
    pollTime n ≤ max timeout (1 / 20) := by
  rcases due with first | inTime
  · apply le_max_of_le_right
    apply (pollTime_mono first).trans
    norm_num [pollTime]
  · exact le_max_of_le_left inTime

theorem Due.pollTime_succ_le {timeout : ℚ} {n : Nat} (due : Due timeout n) :
    pollTime (n + 1) ≤ max (3 / 20) (2 * timeout + 1 / 20) := by
  rcases due with first | inTime
  · apply le_max_of_le_left
    apply (pollTime_mono (Nat.succ_le_succ first)).trans
    norm_num [pollTime]
  · apply le_max_of_le_right
    rw [pollTime_succ]
    linarith

theorem forall_polledAt_le {timeout : ℚ} {count : Nat} (due : ∀ n < count, Due timeout n) :
    ∀ time ∈ (List.range count).map pollTime, time ≤ max timeout (1 / 20) := by
  intro time member
  obtain ⟨n, counted, rfl⟩ := List.mem_map.mp member
  exact (due n (List.mem_range.mp counted)).pollTime_le

section Keeps

variable {timeout : ℚ} {polls : Nat → Outcome .getOperationStatus}

theorem keepsTimeout_of_first_finished {n : Nat} (due : Due timeout n)
    (finished : Reports .finished (polls n))
    (first : ∀ m < n, ¬ Reports .finished (polls m)) {waited : Waited}
    (returned : waited.result = .ok ()) (slept : waited.waiting.totalSleep = pollTime n)
    (polledAt : waited.waiting.polledAt = (List.range (n + 1)).map pollTime) :
    KeepsTimeout timeout polls waited := by
  have count : waited.waiting.polledAt.length = n + 1 := by simp [polledAt]
  have dueUpTo : ∀ m < n + 1, Due timeout m := fun m before =>
    due.of_le (Nat.le_of_lt_succ before)
  constructor
  case polledAt => rw [count, polledAt]
  case due => rwa [count]
  case returns => exact iff_of_true returned ⟨n, due, finished⟩
  case atFirst => exact fun _ => ⟨n, count, finished, first⟩
  case raises =>
    rw [returned]
    exact iff_of_false (by simp) fun none => none n due finished
  case afterLast =>
    rw [returned]
    intro raised
    cases raised
  case sleeps =>
    rw [slept]
    exact (pollTime_mono (Nat.le_succ n)).trans due.pollTime_succ_le
  case inTime =>
    rw [polledAt]
    exact forall_polledAt_le dueUpTo

theorem keepsTimeout_of_unfinished {last : Nat} (bounds : ∀ n, Due timeout n ↔ n ≤ last)
    (unfinished : ∀ n ≤ last, ¬ Reports .finished (polls n)) :
    KeepsTimeout timeout polls ⟨.error .timedOut, .before last⟩ := by
  have count : (Waiting.before last).polledAt.length = last + 1 := by simp [Waiting.before]
  have bounds' : ∀ n, Due timeout n ↔ n < last + 1 := fun n =>
    (bounds n).trans Nat.lt_succ_iff.symm
  have none : ∀ n, Due timeout n → ¬ Reports .finished (polls n) := fun n due =>
    unfinished n ((bounds n).mp due)
  constructor
  case polledAt =>
    rw [count]
    rfl
  case due =>
    rw [count]
    exact fun n => (bounds' n).mpr
  case returns =>
    refine iff_of_false (by simp) ?_
    rintro ⟨n, due, finished⟩
    exact none n due finished
  case atFirst =>
    intro returned
    cases returned
  case raises => exact iff_of_true rfl none
  case afterLast =>
    rw [count]
    exact fun _ => bounds'
  case sleeps => exact ((bounds last).mpr le_rfl).pollTime_succ_le
  case inTime => exact forall_polledAt_le fun n => (bounds' n).mpr

end Keeps

/-- For every positive timeout and every sequence of answers the wait ends: at the first due poll
that finds the operation finished, and if there is none, after the last one that is due. -/
theorem wait_keeps_timeout (op : Operation) {timeout : ℚ} (positive : 0 < timeout)
    (polls : Nat → Outcome .getOperationStatus) :
    ∃ enough waited, (∀ fuel ≥ enough, wait op timeout polls fuel = some waited) ∧
      KeepsTimeout timeout polls waited := by
  classical
  obtain ⟨last, second, bounds⟩ := exists_last_due timeout
  by_cases found : ∃ n, Due timeout n ∧ Reports .finished (polls n)
  · obtain ⟨due, finished⟩ := Nat.find_spec found
    have first : ∀ m < Nat.find found, ¬ Reports .finished (polls m) := fun m earlier finished =>
      Nat.find_min found earlier ⟨due.of_le earlier.le, finished⟩
    obtain ⟨waited, ends, returned, slept, polledAt⟩ :=
      wait_of_first_finished positive due ((isFinished_iff op _).mpr finished)
        fun m earlier => (isFinished_eq_false_iff op _).mpr (first m earlier)
    exact ⟨_, waited, ends,
      keepsTimeout_of_first_finished due finished first returned slept polledAt⟩
  · have unfinished : ∀ n ≤ last, ¬ Reports .finished (polls n) := fun n early finished =>
      found ⟨n, (bounds n).mpr early, finished⟩
    exact ⟨last, _, fun fuel => wait_of_unfinished positive second bounds
        fun n early => (isFinished_eq_false_iff op _).mpr (unfinished n early),
      keepsTimeout_of_unfinished bounds unfinished⟩

/-- An operation that fails is waited for with a timeout of 0.1 seconds. -/
theorem wait_keeps_timeout_tenth :
    (0 : ℚ) < 1 / 10 ∧ ∃ enough waited,
      (∀ fuel ≥ enough, wait {} (1 / 10) (fun _ => failedPoll) fuel = some waited) ∧
        KeepsTimeout (1 / 10) (fun _ => failedPoll) waited := by
  have positive : (0 : ℚ) < 1 / 10 := by norm_num
  exact ⟨positive, wait_keeps_timeout {} positive fun _ => failedPoll⟩

end Py

end HS2Client
