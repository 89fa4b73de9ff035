import HS2Client.Client.Operation
import Mathlib.Algebra.Order.Field.Rat

/-!
# Waiting for an operation

`Operation.wait` polls until `is_finished`, sleeping twice as long after every poll. Sleeping
returns after the time asked for, which is counted in exact seconds. The loop may run for ever,
so it is given a number of polls to make.
-/

namespace HS2Client

def Operation.hasResultSet (op : Operation) : Rpc Bool :=
  (op.getState .unknown).map fun (status, state) => status.ok && state = .finished

namespace Py

/-- Only the state is asked for while waiting. -/
def respondState (outcome : Outcome .getOperationStatus) : Responder
  | .getOperationStatus, _ => outcome
  | _, _ => .exception []

def isFinished (op : Operation) (outcome : Outcome .getOperationStatus) : Bool :=
  op.hasResultSet.run (respondState outcome)

inductive WaitError where
  | status (status : Status)
  | timedOut
  deriving DecidableEq

/-- The variables of the loop, and how long had been slept at each poll. -/
structure Waiting where
  interval : ℚ
  totalSleep : ℚ
  polledAt : List ℚ

namespace Waiting

def polled (waiting : Waiting) : Waiting :=
  { waiting with polledAt := waiting.polledAt ++ [waiting.totalSleep] }

/-- `interval *= 2`, the sleep, and `total_sleep += interval`. -/
def slept (waiting : Waiting) : Waiting :=
  { waiting with
    interval := waiting.interval * 2
    totalSleep := waiting.totalSleep + waiting.interval * 2 }

end Waiting

/-- How the wait ends, and the variables at that time. -/
structure Waited where
  result : Except WaitError Unit
  waiting : Waiting

section Wait

variable (op : Operation) (timeoutSeconds : ℚ) (polls : Nat → Outcome .getOperationStatus)

/-- `while not self.is_finished` -/
def waitLoop : Nat → Waiting → Option Waited
  | 0, _ => none
  | fuel + 1, waiting =>
      if isFinished op (polls waiting.polledAt.length) then some ⟨.ok (), waiting.polled⟩
      else if 0 < timeoutSeconds ∧ timeoutSeconds < waiting.polled.slept.totalSleep then
        some ⟨.error .timedOut, waiting.polled.slept⟩
      else waitLoop fuel waiting.polled.slept

/-- The first poll is made before any sleep. -/
def wait (fuel : Nat) : Option Waited :=
  if isFinished op (polls 0) then some ⟨.ok (), ⟨0, 0, [0]⟩⟩
  else waitLoop op timeoutSeconds polls fuel ⟨1 / 20, 1 / 20, [0]⟩

end Wait

/-- `execute` and `wait` with the default timeout. -/
def executeSync (session : Session) (statement : Bytes) (respond : Responder)
    (polls : Nat → Outcome .getOperationStatus) (fuel : Nat) :
    Option (Except WaitError Operation) :=
  let (status, op) := (session.executeStatement statement []).run respond
  if status.ok then (wait op 0 polls fuel).map fun waited => waited.result.map fun _ => op
  else some (.error (.status status))

/-! ## Operations that have stopped -/

/-- A poll that finds the operation in a state. -/
def Reports (state : OperationState) (outcome : Outcome .getOperationStatus) : Prop :=
  ∃ resp : TGetOperationStatusResp, outcome = .reply resp ∧ resp.status.isSuccess = true ∧
    tOperationStateToOperationState resp.operationState = state

/-- From some poll on, every one reports the state. -/
def SettlesOn (polls : Nat → Outcome .getOperationStatus) (state : OperationState) : Prop :=
  ∃ n, ∀ k ≥ n, Reports state (polls k)

/-- After finitely many polls it returns if the operation is finished, and raises otherwise. -/
def EndsFor (state : OperationState) {Value : Type}
    (run : Nat → Option (Except WaitError Value)) : Prop :=
  ∃ fuel result, run fuel = some result ∧ (result.isOk = true ↔ state = .finished)

theorem isFinished_iff (op : Operation) (outcome : Outcome .getOperationStatus) :
    isFinished op outcome = true ↔ Reports .finished outcome := by
  rcases outcome with what | (resp : TGetOperationStatusResp)
  · simp [isFinished, Operation.hasResultSet, Operation.getState, respondState, tryRpcOrReturn,
      Reports]
  · simp only [isFinished, Operation.hasResultSet, Operation.getState, respondState,
      tryRpcOrReturn, returnNotOk_eq, Rpc.run_map, Rpc.run_send, Reports]
    split_ifs with success <;> simp [success]

theorem isFinished_eq_false_iff (op : Operation) (outcome : Outcome .getOperationStatus) :
    isFinished op outcome = false ↔ ¬ Reports .finished outcome := by
  rw [← isFinished_iff op, Bool.not_eq_true]

/-- Without a timeout the loop goes on to the first poll that finds the operation finished. -/
theorem waitLoop_of_finished {op : Operation} {polls : Nat → Outcome .getOperationStatus} {n : Nat}
    (finished : isFinished op (polls n) = true) (fuel : Nat) (waiting : Waiting)
    (ahead : waiting.polledAt.length ≤ n) (enough : n < waiting.polledAt.length + fuel) :
    ∃ waited, waitLoop op 0 polls fuel waiting = some waited ∧ waited.result = .ok () := by
  induction fuel generalizing waiting with
  | zero => omega
  | succ fuel ih =>
      by_cases now : isFinished op (polls waiting.polledAt.length) = true
      · exact ⟨_, by rw [waitLoop, if_pos now], rfl⟩
      · have later : waiting.polledAt.length ≠ n := fun same => now (same ▸ finished)
        have length : waiting.polled.slept.polledAt.length = waiting.polledAt.length + 1 := by
          simp [Waiting.polled, Waiting.slept]
        rw [waitLoop, if_neg now, if_neg (by simp)]
        exact ih _ (by omega) (by omega)

/-- Without a timeout the loop ends in no other way. -/
theorem waitLoop_ok {op : Operation} {polls : Nat → Outcome .getOperationStatus} {fuel : Nat}
    {waiting : Waiting} {waited : Waited}
    (ends : waitLoop op 0 polls fuel waiting = some waited) : waited.result = .ok () := by
  induction fuel generalizing waiting with
  | zero => cases ends
  | succ fuel ih =>
      rw [waitLoop] at ends
      split_ifs at ends with now late
      · cases ends
        rfl
      · simp at late
      · exact ih ends

theorem wait_ok {op : Operation} {polls : Nat → Outcome .getOperationStatus} {fuel : Nat}
    {waited : Waited} (ends : wait op 0 polls fuel = some waited) : waited.result = .ok () := by
  rw [wait] at ends
  split_ifs at ends with now
  · cases ends
    rfl
  · exact waitLoop_ok ends

theorem wait_of_finished {op : Operation} {polls : Nat → Outcome .getOperationStatus} {n : Nat}
    (finished : isFinished op (polls n) = true) :
    ∃ fuel waited, wait op 0 polls fuel = some waited := by
  by_cases now : isFinished op (polls 0) = true
  · exact ⟨0, _, by rw [wait, if_pos now]⟩
  · have later : n ≠ 0 := fun zero => now (zero ▸ finished)
    obtain ⟨waited, ends, -⟩ := waitLoop_of_finished finished n ⟨1 / 20, 1 / 20, [0]⟩
      (Nat.one_le_iff_ne_zero.mpr later) (by simp)
    exact ⟨n, waited, by rw [wait, if_neg now, ends]⟩

/-- An operation that no poll finds finished keeps the loop going. -/
theorem waitLoop_of_never {op : Operation} {polls : Nat → Outcome .getOperationStatus}
    (never : ∀ n, isFinished op (polls n) = false) (fuel : Nat) (waiting : Waiting) :
    waitLoop op 0 polls fuel waiting = none := by
  induction fuel generalizing waiting with
  | zero => rfl
  | succ fuel ih =>
      rw [waitLoop, if_neg (by simp [never]), if_neg (by simp)]
      exact ih _

theorem wait_of_never {op : Operation} {polls : Nat → Outcome .getOperationStatus}
    (never : ∀ n, isFinished op (polls n) = false) (fuel : Nat) :
    wait op 0 polls fuel = none := by
  rw [wait, if_neg (by simp [never])]
  exact waitLoop_of_never never fuel _

theorem endsFor_wait_iff (op : Operation) {polls : Nat → Outcome .getOperationStatus}
    {state : OperationState} (settles : SettlesOn polls state) :
    (EndsFor state fun fuel => (wait op 0 polls fuel).map Waited.result) ↔ state = .finished := by
  constructor
  · rintro ⟨fuel, result, ends, ok⟩
    obtain ⟨waited, waits, rfl⟩ := Option.map_eq_some_iff.mp ends
    rw [wait_ok waits] at ok
    exact ok.mp rfl
  · rintro rfl
    obtain ⟨n, reports⟩ := settles
    obtain ⟨fuel, waited, ends⟩ :=
      wait_of_finished ((isFinished_iff op _).mpr (reports n le_rfl))
    exact ⟨fuel, waited.result, by simp [ends], by simp [wait_ok ends, Except.isOk, Except.toBool]⟩

theorem endsFor_map {state : OperationState} {Value Other : Type} (f : Value → Other)
    {run : Nat → Option (Except WaitError Value)} (ends : EndsFor state run) :
    EndsFor state fun fuel => (run fuel).map (Except.map f) := by
  obtain ⟨fuel, result, ran, ok⟩ := ends
  refine ⟨fuel, result.map f, by simp [ran], ?_⟩
  cases result <;> exact ok

theorem endsFor_executeSync {session : Session} {statement : Bytes} {respond : Responder}
    {polls : Nat → Outcome .getOperationStatus} {state : OperationState}
    (executed : ((session.executeStatement statement []).run respond).1.ok = true)
    (ends : EndsFor state fun fuel =>
      (wait ((session.executeStatement statement []).run respond).2 0 polls fuel).map
        Waited.result) :
    EndsFor state (executeSync session statement respond polls) := by
  have same : executeSync session statement respond polls = fun fuel =>
      ((wait ((session.executeStatement statement []).run respond).2 0 polls fuel).map
        Waited.result).map
          (Except.map fun _ => ((session.executeStatement statement []).run respond).2) := by
    funext fuel
    simp only [executeSync, executed, if_true, Option.map_map]
    rfl
  rw [same]
  exact endsFor_map _ ends

/-- Waiting without a timeout, and with it `execute_sync`, ends for an operation that stays in one
state exactly when that is `FINISHED`: the loop takes every other one for a state that will still
change. -/
theorem wait_ends_iff_finished (op : Operation) {polls : Nat → Outcome .getOperationStatus}
    {state : OperationState} (settles : SettlesOn polls state) :
    ((EndsFor state fun fuel => (wait op 0 polls fuel).map Waited.result) ∧
      ∀ session statement respond,
        ((Session.executeStatement session statement []).run respond).1.ok = true →
          EndsFor state (executeSync session statement respond polls)) ↔ state = .finished := by
  constructor
  · rintro ⟨ends, -⟩
    exact (endsFor_wait_iff op settles).mp ends
  · intro finished
    refine ⟨(endsFor_wait_iff op settles).mpr finished, ?_⟩
    intro session statement respond executed
    exact endsFor_executeSync executed ((endsFor_wait_iff _ settles).mpr finished)

/-- A poll that finds the operation failed. -/
def failedPoll : Outcome .getOperationStatus :=
  .reply ({ operationState := 5 } : TGetOperationStatusResp)

/-- A poll that finds the operation finished. -/
def finishedPoll : Outcome .getOperationStatus :=
  .reply ({ operationState := 2 } : TGetOperationStatusResp)

/-- A poll that finds the operation running. -/
def runningPoll : Outcome .getOperationStatus :=
  .reply ({ operationState := 1 } : TGetOperationStatusResp)

/-- Two polls find the operation running, and all that follow find it finished. -/
def finishingPolls (n : Nat) : Outcome .getOperationStatus :=
  if n < 2 then runningPoll else finishedPoll

theorem wait_ends_after_finished_poll :
    SettlesOn finishingPolls .finished ∧
      ((EndsFor .finished fun fuel => (wait {} 0 finishingPolls fuel).map Waited.result) ∧
        ∀ session statement respond,
          ((Session.executeStatement session statement []).run respond).1.ok = true →
            EndsFor .finished (executeSync session statement respond finishingPolls)) ∧
      Reports .running (finishingPolls 0) ∧ Reports .running (finishingPolls 1) := by
  have settles : SettlesOn finishingPolls .finished := by
    refine ⟨2, fun n late => ?_⟩
    rw [finishingPolls, if_neg (Nat.not_lt.mpr late)]
    exact ⟨_, rfl, rfl, rfl⟩
  exact ⟨settles, (wait_ends_iff_finished {} settles).mpr rfl, ⟨_, rfl, rfl, rfl⟩,
    ⟨_, rfl, rfl, rfl⟩⟩

/-- A statement that has failed on the server is polled for ever. -/
theorem wait_does_not_end_after_error :
    SettlesOn (fun _ => failedPoll) .error ∧
      (∀ fuel, wait {} 0 (fun _ => failedPoll) fuel = none) ∧
      ¬ EndsFor .error fun fuel => (wait {} 0 (fun _ => failedPoll) fuel).map Waited.result := by
  have settles : SettlesOn (fun _ => failedPoll) .error := ⟨0, fun _ _ => ⟨_, rfl, rfl, rfl⟩⟩
  refine ⟨settles, fun fuel => wait_of_never (fun _ => rfl) fuel, fun ends => ?_⟩
  cases (endsFor_wait_iff {} settles).mp ends

end Py

end HS2Client
