import HS2Client.Python.Timeouts
import Mathlib.Algebra.Order.Floor.Semiring
import Mathlib.Data.Nat.Log

/-!
# How soon a wait ends

The polls are made ever more rarely, and each is made at a time that is known from its number. An
operation that is finished from some time on is found finished before twice that time and a
twentieth of a second, and the number of polls that this takes is a logarithm of it.
-/

namespace HS2Client

namespace Py

/-- How many polls are made before a time. -/
def pollsBefore (time : ℚ) : Nat := Nat.clog 2 ⌈20 * time + 1⌉₊

theorem pollsBefore_le_iff (time : ℚ) (n : Nat) : pollsBefore time ≤ n ↔ time ≤ pollTime n := by
  have scaled : time ≤ pollTime n ↔ 20 * time + 1 ≤ ((2 ^ n : Nat) : ℚ) := by
    unfold pollTime
    push_cast
    constructor
    · intro early
      linarith
    · intro early
      linarith
  rw [scaled, ← Nat.ceil_le]
  exact Nat.clog_le_iff_le_pow one_lt_two

/-- The first poll that is not before a time is not made long after it. -/
theorem pollTime_pollsBefore_le (time : ℚ) :
    pollTime (pollsBefore time) ≤ max 0 (2 * time + 1 / 20) := by
  cases number : pollsBefore time with
  | zero =>
      apply le_max_of_le_left
      norm_num [pollTime]
  | succ n =>
      have early : pollTime n < time := by
        by_contra late
        have bound := (pollsBefore_le_iff time n).mpr (not_lt.mp late)
        omega
      apply le_max_of_le_right
      rw [pollTime_succ]
      linarith

section Wait

variable {op : Operation} {timeout : ℚ} {polls : Nat → Outcome .getOperationStatus}

theorem waitLoop_unfinished_untimed (untimed : timeout ≤ 0) {n : Nat}
    (unfinished : isFinished op (polls (n + 1)) = false) (fuel : Nat) :
    waitLoop op timeout polls (fuel + 1) (.before n) =
      waitLoop op timeout polls fuel (.before (n + 1)) := by
  have number : (Waiting.before n).polledAt.length = n + 1 := by simp [Waiting.before]
  rw [waitLoop, number, if_neg (by simp [unfinished]), Waiting.slept_polled_before]
  simp [not_lt.mpr untimed]

/-- Without a timeout the loop goes on to the first poll that finds the operation finished. -/
theorem waitLoop_untimed (untimed : timeout ≤ 0) (n turns : Nat)
    (finished : isFinished op (polls (n + turns + 1)) = true)
    (first : ∀ m ≤ n + turns, isFinished op (polls m) = false) (fuel : Nat) :
    waitLoop op timeout polls (turns + fuel + 1) (.before n) =
      some ⟨.ok (), (Waiting.before (n + turns)).polled⟩ := by
  induction turns generalizing n with
  | zero =>
      rw [Nat.zero_add]
      exact waitLoop_finished finished fuel
  | succ turns ih =>
      have step : turns + 1 + fuel = turns + fuel + 1 := Nat.add_right_comm turns 1 fuel
      have shift : n + (turns + 1) = n + 1 + turns := by omega
      rw [shift] at finished first ⊢
      rw [step, waitLoop_unfinished_untimed untimed (first (n + 1) (by omega))]
      exact ih (n + 1) finished first

theorem wait_of_first_finished_untimed (untimed : timeout ≤ 0) {n : Nat}
    (finished : isFinished op (polls n) = true)
    (first : ∀ m < n, isFinished op (polls m) = false) :
    ∃ waited, (∀ fuel ≥ n, wait op timeout polls fuel = some waited) ∧
      waited.result = .ok () ∧ waited.waiting.totalSleep = pollTime n ∧
      waited.waiting.polledAt = (List.range (n + 1)).map pollTime := by
  cases n with
  | zero =>
      refine ⟨⟨.ok (), ⟨0, 0, [0]⟩⟩, fun fuel _ => ?_, rfl, ?_, ?_⟩
      · rw [wait, if_pos finished]
      · simp [pollTime]
      · simp [pollTime]
  | succ n =>
      refine ⟨⟨.ok (), (Waiting.before n).polled⟩, fun fuel enough => ?_, rfl, rfl, ?_⟩
      · obtain ⟨spare, rfl⟩ := Nat.exists_eq_add_of_le enough
        rw [← Nat.zero_add n] at finished first
        have loop := waitLoop_untimed untimed 0 n finished
          (fun m before => first m (Nat.lt_succ_of_le before)) spare
        rw [wait, if_neg (by simp [first 0 (Nat.succ_pos _)]), ← Waiting.before_zero,
          Nat.add_right_comm, loop, Nat.zero_add]
      · exact Waiting.polledAt_polled_before n

end Wait

/-- From a time on, and not before it, the server answers that the operation is finished. -/
def FinishesAt (answers : ℚ → Outcome .getOperationStatus) (finish : ℚ) : Prop :=
  ∀ time, Reports .finished (answers time) ↔ finish ≤ time

/-- The answers to the polls, each given at the time of the poll. -/
def answered (answers : ℚ → Outcome .getOperationStatus) (n : Nat) : Outcome .getOperationStatus :=
  answers (pollTime n)

/-- A wait that has returned as soon as its polls can. -/
structure ReturnsSoon (finish : ℚ) (waited : Waited) : Prop where
  polledAt : waited.waiting.polledAt =
    (List.range (Nat.clog 2 ⌈20 * finish + 1⌉₊ + 1)).map pollTime
  notBefore : finish ≤ waited.waiting.totalSleep
  withinTwice : waited.waiting.totalSleep ≤ max 0 (2 * finish + 1 / 20)

section Finishing

variable {answers : ℚ → Outcome .getOperationStatus} {finish : ℚ}

theorem FinishesAt.isFinished_iff (finishes : FinishesAt answers finish) (op : Operation)
    (n : Nat) : isFinished op (answered answers n) = true ↔ pollsBefore finish ≤ n :=
  (Py.isFinished_iff op _).trans ((finishes _).trans (pollsBefore_le_iff finish n).symm)

theorem FinishesAt.unfinished (finishes : FinishesAt answers finish) (op : Operation) {n : Nat}
    (early : n < pollsBefore finish) : isFinished op (answered answers n) = false := by
  by_contra finished
  have bound := (finishes.isFinished_iff op n).mp (by simpa using finished)
  omega

/-- A wait that gives the operation time enough ends with the first poll after it is finished. -/
theorem wait_of_finishesAt (finishes : FinishesAt answers finish) (op : Operation) {timeout : ℚ}
    (patient : timeout ≤ 0 ∨ Due timeout (pollsBefore finish)) :
    ∃ waited,
      (∀ fuel ≥ pollsBefore finish, wait op timeout (answered answers) fuel = some waited) ∧
        waited.result = .ok () ∧ ReturnsSoon finish waited := by
  have finished := (finishes.isFinished_iff op _).mpr le_rfl
  have first : ∀ m < pollsBefore finish, isFinished op (answered answers m) = false :=
    fun m early => finishes.unfinished op early
  have ends : ∃ waited,
      (∀ fuel ≥ pollsBefore finish, wait op timeout (answered answers) fuel = some waited) ∧
        waited.result = .ok () ∧ waited.waiting.totalSleep = pollTime (pollsBefore finish) ∧
        waited.waiting.polledAt = (List.range (pollsBefore finish + 1)).map pollTime := by
    by_cases untimed : timeout ≤ 0
    · exact wait_of_first_finished_untimed untimed finished first
    · have due := patient.resolve_left untimed
      exact wait_of_first_finished (not_le.mp untimed) due finished first
  obtain ⟨waited, waits, returned, slept, polledAt⟩ := ends
  refine ⟨waited, waits, returned, polledAt, ?_, ?_⟩
  · rw [slept]
    exact (pollsBefore_le_iff finish _).mp le_rfl
  · rw [slept]
    exact pollTime_pollsBefore_le finish

/-- A timeout that allows fewer polls ends the wait, finished or not. -/
theorem wait_of_impatient (finishes : FinishesAt answers finish) (op : Operation) {timeout : ℚ}
    (positive : 0 < timeout) (impatient : ¬ Due timeout (pollsBefore finish)) :
    ∃ enough waited,
      (∀ fuel ≥ enough, wait op timeout (answered answers) fuel = some waited) ∧
        waited.result = .error .timedOut := by
  obtain ⟨last, second, bounds⟩ := exists_last_due timeout
  have early : last < pollsBefore finish := by
    by_contra inTime
    exact impatient ((bounds _).mpr (not_lt.mp inTime))
  refine ⟨last, _, fun fuel => wait_of_unfinished positive second bounds ?_, rfl⟩
  exact fun n before => finishes.unfinished op (before.trans_lt early)

theorem due_pollsBefore_of_twice {timeout : ℚ} (twice : max 0 (2 * finish + 1 / 20) ≤ timeout) :
    Due timeout (pollsBefore finish) :=
  .inr ((pollTime_pollsBefore_le finish).trans twice)

/-- For an operation that is finished from some time on, and any timeout: a wait returns if the
first poll that can see it is due, as it always is without a timeout or with one of twice the time
and a twentieth of a second. It then returns that soon and after logarithmically many polls, and
so does `execute_sync`. Otherwise it times out. -/
theorem wait_returns_soon (finishes : FinishesAt answers finish) (timeout : ℚ) :
    (∀ op, ∃ enough waited,
      (∀ fuel ≥ enough, wait op timeout (answered answers) fuel = some waited) ∧
      (waited.result = .ok () ↔ timeout ≤ 0 ∨ Due timeout (pollsBefore finish)) ∧
      (timeout ≤ 0 ∨ max 0 (2 * finish + 1 / 20) ≤ timeout → waited.result = .ok ()) ∧
      (waited.result = .ok () → ReturnsSoon finish waited) ∧
      (waited.result ≠ .ok () → waited.result = .error .timedOut)) ∧
    ∀ session statement respond,
      ((Session.executeStatement session statement []).run respond).1.ok = true →
        ∀ fuel ≥ pollsBefore finish,
          executeSync session statement respond (answered answers) fuel =
            some (.ok ((Session.executeStatement session statement []).run respond).2) := by
  constructor
  · intro op
    by_cases patient : timeout ≤ 0 ∨ Due timeout (pollsBefore finish)
    · obtain ⟨waited, waits, returned, soon⟩ := wait_of_finishesAt finishes op patient
      exact ⟨_, waited, waits, iff_of_true returned patient, fun _ => returned, fun _ => soon,
        fun other => absurd returned other⟩
    · obtain ⟨timed, impatient⟩ := not_or.mp patient
      obtain ⟨enough, waited, waits, raised⟩ :=
        wait_of_impatient finishes op (not_le.mp timed) impatient
      have notReturned : waited.result ≠ .ok () := by simp [raised]
      refine ⟨enough, waited, waits, iff_of_false notReturned patient, ?_, ?_, fun _ => raised⟩
      · exact fun large => absurd (large.imp_right due_pollsBefore_of_twice) patient
      · exact fun returned => absurd returned notReturned
  · intro session statement respond executed fuel enough
    obtain ⟨waited, waits, returned, -⟩ := wait_of_finishesAt finishes
      ((Session.executeStatement session statement []).run respond).2 (.inl (le_refl (0 : ℚ)))
    simp only [executeSync, executed, if_true, waits fuel enough, Option.map_some, returned]
    rfl

end Finishing

/-- A statement that takes a tenth of a second is seen to be finished at the third poll, and with
a timeout of 0.12 seconds it is never seen. -/
theorem wait_returns_soon_tenth :
    let answers := fun time : ℚ => if 1 / 10 ≤ time then finishedPoll else failedPoll
    (∃ enough waited, (∀ fuel ≥ enough, wait {} 0 (answered answers) fuel = some waited) ∧
      waited.result = .ok () ∧ waited.waiting.polledAt = [0, 1 / 20, 3 / 20]) ∧
    ∃ enough waited, (∀ fuel ≥ enough, wait {} (3 / 25) (answered answers) fuel = some waited) ∧
      waited.result = .error .timedOut := by
  intro answers
  have finishes : FinishesAt answers (1 / 10) := by
    intro time
    by_cases late : 1 / 10 ≤ time
    · exact iff_of_true ⟨_, if_pos late, rfl, rfl⟩ late
    · rw [show answers time = failedPoll from if_neg late, ← isFinished_iff {}]
      exact iff_of_false (by decide) late
  have number : Nat.clog 2 ⌈20 * (1 / 10 : ℚ) + 1⌉₊ = 2 := by
    rw [show 20 * (1 / 10 : ℚ) + 1 = ((3 : Nat) : ℚ) by norm_num, Nat.ceil_natCast]
    rfl
  constructor
  · obtain ⟨enough, waited, waits, -, patient, soon, -⟩ :=
      (wait_returns_soon finishes 0).1 {}
    have returned := patient (.inl le_rfl)
    refine ⟨enough, waited, waits, returned, ?_⟩
    rw [(soon returned).polledAt, number]
    norm_num [List.range_succ, pollTime]
  · obtain ⟨enough, waited, waits, returns, -, -, raises⟩ :=
      (wait_returns_soon finishes (3 / 25)).1 {}
    refine ⟨enough, waited, waits, raises fun returned => ?_⟩
    rcases returns.mp returned with untimed | first | inTime
    · norm_num at untimed
    · rw [pollsBefore, number] at first
      omega
    · rw [pollsBefore, number] at inTime
      norm_num [pollTime] at inTime

end Py

end HS2Client
