import HS2Client.Client.Connection
import HS2Client.Library.Simulation

/-!
# Replies that come too late

A reply that was not waited for stays on the stream, and every later call takes the reply before
its own. The connection never catches up: each such reply puts all later calls one further behind.
-/

namespace HS2Client

open Runs

/-! ## Numbered queues -/

/-- The queue holds the last `late` of the numbers below `sent`, in order. -/
structure Behind (queue : List Nat) (sent late : Nat) : Prop where
  queue_eq : queue = List.range' (sent - late) late
  late_le : late ≤ sent

theorem behind_start : Behind [] 0 0 := ⟨rfl, le_rfl⟩

section Queue

variable {queue : List Nat} {sent late : Nat}

/-- The next number comes in and stays. -/
theorem Behind.keep (behind : Behind queue sent late) :
    Behind (queue ++ [sent]) (sent + 1) (late + 1) where
  queue_eq := by
    have last : sent - late + late = sent := Nat.sub_add_cancel behind.late_le
    rw [behind.queue_eq, Nat.add_sub_add_right, List.range'_concat, Nat.one_mul, last]
  late_le := Nat.succ_le_succ behind.late_le

/-- The next number comes in and the oldest one goes. -/
theorem Behind.take (behind : Behind queue sent late) {first : Nat} {rest : List Nat}
    (split : queue ++ [sent] = first :: rest) :
    first + late = sent ∧ Behind rest (sent + 1) late := by
  have grown := behind.keep
  have queue_eq := grown.queue_eq
  rw [split, List.range'_succ, List.cons.injEq] at queue_eq
  obtain ⟨rfl, rfl⟩ := queue_eq
  refine ⟨?_, ?_, Nat.le_succ_of_le behind.late_le⟩
  · rw [Nat.add_sub_add_right, Nat.sub_add_cancel behind.late_le]
  · congr 1
    have := behind.late_le
    omega

end Queue

/-! ## The stream -/

namespace Connection

/-- The call sends a request and leaves as many replies behind as there were, and its own. -/
def fallsBehind (connection : Connection) (event : ConnectionEvent) : Bool :=
  match connection.world.rpc? event.call with
  | some (.send method _ _) =>
      event.timesOut ||
        (!event.skips && connection.stream.head?.any fun first => first.method ≠ method)
  | _ => false

/-- How many calls of a run fell behind. -/
def lag (events : List ConnectionEvent) : Nat :=
  (observed step (fun connection event => if connection.fallsBehind event then some () else none)
    {} events).length

/-- The record of a call. -/
def record? (connection : Connection) (event : ConnectionEvent) : Option Record :=
  (connection.step event).records[connection.records.length]?

end Connection

/-- The call takes a reply off the stream or none. -/
theorem receive_cases (method : Method) (event : ConnectionEvent) (stream : List Message)
    (own : Message) (named : own.method = method) :
    let received := receive method event (stream ++ [own])
    if event.timesOut || (!event.skips && stream.head?.any fun first => first.method ≠ method) then
      received.used = none ∧ received.outcome.isSuccess = false ∧ received.stream = stream ++ [own]
    else
      ∃ first rest, stream ++ [own] = first :: rest ∧ received.stream = rest ∧
        (received.used = some first.request ∨
          received.used = none ∧ received.outcome.isSuccess = false) := by
  intro received
  obtain ⟨first, rest, split⟩ : ∃ first rest, stream ++ [own] = first :: rest :=
    List.exists_cons_of_ne_nil (by simp)
  have received_eq : received = receive method event (first :: rest) := by rw [← split]
  have head : stream.head?.any (fun first => first.method ≠ method) =
      decide (first.method ≠ method) := by
    cases stream with
    | nil =>
        obtain ⟨rfl, rfl⟩ := List.cons.inj split
        simp [named]
    | cons head tail =>
        obtain ⟨rfl, -⟩ := List.cons.inj split
        rfl
  rw [head, received_eq, split]
  cases timesOut : event.timesOut with
  | true => exact ⟨by simp [receive, timesOut], by simp [receive, timesOut, Outcome.isSuccess],
      by simp [receive, timesOut]⟩
  | false =>
      by_cases same : first.method = method
      · simp [receive, timesOut, same]
      · cases skips : event.skips <;>
          simp [receive, timesOut, same, skips, Outcome.isSuccess]

namespace Connection

/-- The reply that a call used came in so many requests before its own. -/
structure UsesReply (record : Record) (late : Nat) : Prop where
  request : ∀ used, record.used = some used → record.request = some (used + late)
  used : record.request.isSome = true → record.status.ok = true → record.used.isSome = true

/-- A call that used no reply, and did not succeed if it sent a request. -/
theorem usesReply_of_none {record : Record} (late : Nat) (unused : record.used = none)
    (failed : record.request.isSome = true → record.status.ok = false) :
    UsesReply record late where
  request := by
    intro used found
    rw [unused] at found
    cases found
  used := by
    intro sent succeeded
    rw [failed sent] at succeeded
    cases succeeded

/-- One call finds the replies that were left behind, and leaves them and maybe one more. -/
theorem lags_step {connection : Connection} {late : Nat}
    (lags : Behind (connection.stream.map Message.request) connection.requests late)
    (event : ConnectionEvent) :
    Behind ((connection.step event).stream.map Message.request) (connection.step event).requests
        (late + if connection.fallsBehind event then 1 else 0) ∧
      ∀ record, connection.record? event = some record → UsesReply record late := by
  cases called : connection.world.rpc? event.call with
  | none =>
      refine ⟨by simpa [step, called, fallsBehind] using lags, fun record recorded => ?_⟩
      simp [record?, step, called] at recorded
  | some rpc =>
      cases rpc with
      | done result =>
          refine ⟨by simpa [step, called, fallsBehind] using lags, fun record recorded => ?_⟩
          obtain rfl : (⟨none, none, result.1⟩ : Record) = record := by
            simpa [record?, step, called] using recorded
          exact usesReply_of_none late rfl fun sent => by cases sent
      | send method req resume =>
          have taken := receive_cases method event connection.stream
            ⟨connection.requests, method, event.server method req⟩ rfl
          have recorded : ∀ record, connection.record? event = some record → record =
              ⟨some connection.requests, (receive method event (connection.stream ++
                [⟨connection.requests, method, event.server method req⟩])).used,
                (resume (receive method event (connection.stream ++
                  [⟨connection.requests, method, event.server method req⟩])).outcome).1⟩ := by
            intro record recorded
            simpa [record?, step, called, eq_comm] using recorded
          have ok := World.ok_of_rpc? called
          have stepped : (connection.step event).stream = (receive method event
              (connection.stream ++
                [⟨connection.requests, method, event.server method req⟩])).stream ∧
              (connection.step event).requests = connection.requests + 1 := by
            simp [step, called]
          have late_eq : connection.fallsBehind event = (event.timesOut || (!event.skips &&
              connection.stream.head?.any fun first => first.method ≠ method)) := by
            simp [fallsBehind, called]
          rw [stepped.1, stepped.2, late_eq]
          revert taken recorded
          generalize receive method event _ = received
          intro taken recorded
          split_ifs at taken ⊢ with keeps
          · obtain ⟨unused, failed, kept⟩ := taken
            refine ⟨?_, fun record found => ?_⟩
            · rw [kept, List.map_append]
              exact lags.keep
            · rw [recorded record found]
              exact usesReply_of_none late unused fun _ => (ok _).trans failed
          · obtain ⟨first, rest, split, left, used⟩ := taken
            have numbers := congrArg (List.map Message.request) split
            rw [List.map_append] at numbers
            obtain ⟨number, behind⟩ := lags.take numbers
            refine ⟨by rw [left]; exact behind, fun record found => ?_⟩
            rw [recorded record found]
            rcases used with used | ⟨unused, failed⟩
            · rw [used]
              refine ⟨fun own same => ?_, fun _ _ => rfl⟩
              cases same
              exact congrArg some number.symm
            · exact usesReply_of_none late unused fun _ => (ok _).trans failed

theorem lag_append (events : List ConnectionEvent) (event : ConnectionEvent) :
    lag (events ++ [event]) =
      lag events + if (run step {} events).fallsBehind event then 1 else 0 := by
  unfold lag
  rw [observed_append, List.length_append]
  simp only [observed, List.append_nil]
  split_ifs <;> rfl

theorem lags_run (events : List ConnectionEvent) :
    Behind ((run step {} events).stream.map Message.request) (run step {} events).requests
      (lag events) := by
  induction events using List.reverseRecOn with
  | nil => exact behind_start
  | append_singleton events event ih =>
      rw [run_append, lag_append]
      exact (lags_step ih event).1

/-- In every run, as many replies wait on the stream as calls fell behind, those to the last
requests; every later call that is answered uses the reply to the request that many before its
own, and so never again its own reply. -/
theorem replies_lag (events later : List ConnectionEvent) (event : ConnectionEvent) :
    let connection := run step {} (events ++ later)
    connection.stream.map Message.request =
        List.range' (connection.requests - lag (events ++ later)) (lag (events ++ later)) ∧
      lag events ≤ lag (events ++ later) ∧
      ∀ record, connection.record? event = some record →
        UsesReply record (lag (events ++ later)) ∧
          (0 < lag events → record.request.isSome = true → record.status.ok = true →
            record.used ≠ record.request) := by
  intro connection
  have lags := lags_run (events ++ later)
  have grows : lag events ≤ lag (events ++ later) := by
    unfold lag
    rw [observed_append, List.length_append]
    exact Nat.le_add_right _ _
  refine ⟨lags.queue_eq, grows, fun record recorded => ?_⟩
  have uses := (lags_step lags event).2 record recorded
  refine ⟨uses, fun late sent succeeded own => ?_⟩
  obtain ⟨used, found⟩ := Option.isSome_iff_exists.mp (uses.used sent succeeded)
  have number := (uses.request used found).symm.trans (own.symm.trans found)
  rw [Option.some.injEq] at number
  omega

end Connection

end HS2Client
