import HS2Client.Client.Lifecycle

/-!
# One connection for all objects

All sessions and operations of a service share one Thrift client. A call writes its request
and takes the next reply on the stream if the method name matches; a receive timeout leaves
the reply on the stream. `Attributed` says that a call which returned OK used the reply to
its own request.
-/

namespace HS2Client

open Runs

/-- The server's reply to the request with this number. -/
structure Message where
  request : Nat
  method : Method
  resp : method.Resp

def Message.isSuccess (message : Message) : Bool :=
  (message.method.status message.resp).isSuccess

/-- A call that has returned: the number of its request, the number of the request whose reply
it used, and its status. -/
structure Record where
  request : Option Nat
  used : Option Nat
  status : Status
  deriving DecidableEq

structure Connection where
  world : World := {}
  /-- The replies that were not taken yet, oldest first. -/
  stream : List Message := []
  requests : Nat := 0
  records : List Record := []

/-- A call, the server's response to its request, and how receiving goes. -/
structure ConnectionEvent where
  call : Call
  server : (method : Method) → method.Req → method.Resp
  timesOut : Bool := false
  /-- Whether a reply to another method is dropped from the stream. -/
  skips : Bool := true

structure Received (method : Method) where
  outcome : Outcome method
  used : Option Nat
  stream : List Message

/-- The receiving half of a Thrift call. -/
def receive (method : Method) (event : ConnectionEvent) : List Message → Received method
  | [] => ⟨.exception (ascii "No more data to read."), none, []⟩
  | message :: rest =>
      if event.timesOut then
        ⟨.exception (ascii "EAGAIN (timed out)"), none, message :: rest⟩
      else if same : message.method = method then
        ⟨.reply (same ▸ message.resp), some message.request, rest⟩
      else
        ⟨.exception (ascii "Wrong method name"), none,
          if event.skips then rest else message :: rest⟩

def Connection.step (connection : Connection) (event : ConnectionEvent) : Connection :=
  match connection.world.rpc? event.call with
  | none => connection
  | some (.done (status, world)) =>
      { connection with
        world := world none
        records := connection.records ++ [⟨none, none, status⟩] }
  | some (.send method req resume) =>
      let received := receive method event
        (connection.stream ++ [⟨connection.requests, method, event.server method req⟩])
      let (status, world) := resume received.outcome
      { world := world (some ⟨method, req, received.outcome⟩)
        stream := received.stream
        requests := connection.requests + 1
        records := connection.records ++ [⟨some connection.requests, received.used, status⟩] }

/-- A call that returned OK used the reply to its own request. -/
def Record.Attributed (record : Record) : Prop :=
  record.status.ok = true → record.used = record.request

instance (record : Record) : Decidable record.Attributed :=
  inferInstanceAs (Decidable (_ → _))

/-- The call does not find a successful reply to an earlier request of its own method at the
head of the stream, or times out. -/
def Connection.InStep (connection : Connection) (event : ConnectionEvent) : Prop :=
  event.timesOut = true ∨ ∀ stale ∈ connection.stream.head?,
    (connection.world.request? event.call).map Sigma.fst = some stale.method → stale.isSuccess = false

/-! ## Calls and their outcomes -/

theorem World.ok_of_rpc? {world : World} {call : Call} {method : Method} {req : method.Req}
    {resume : Outcome method → Status × (Option Exchange → World)}
    (sent : world.rpc? call = some (.send method req resume)) (outcome : Outcome method) :
    (resume outcome).1.ok = outcome.isSuccess := by
  cases call with
  | openSession config user =>
      obtain ⟨resume', opens⟩ := Session.opens config user
      rw [rpc?, opens.rpc_eq] at sent
      cases sent
      exact opens.ok outcome
  | executeStatement i statement confOverlay =>
      obtain ⟨creator, _, sent⟩ := Option.map_eq_some_iff.mp sent
      obtain ⟨resume', opens⟩ := creator.session.executes statement confOverlay
      rw [opens.rpc_eq] at sent
      cases sent
      exact opens.ok outcome
  | closeSession i =>
      obtain ⟨object, _, sent⟩ := Option.map_eq_some_iff.mp sent
      rcases object.session.close_cases with ⟨_, done⟩ | ⟨resume', request⟩
      · rw [done] at sent
        cases sent
      · rw [request.rpc_eq] at sent
        cases sent
        exact request.ok outcome
  | onOperation i call =>
      obtain ⟨object, _, sent⟩ := Option.map_eq_some_iff.mp sent
      rcases call.cases object.op with ⟨_, _, done⟩ | ⟨method', req', resume', request⟩
      · rw [done] at sent
        cases sent
      · rw [request.rpc_eq] at sent
        cases sent
        exact request.ok outcome

/-! ## Receiving -/

/-- The reply taken by a call is its own exactly when no other successful reply of its method
comes first. -/
theorem receive_own_iff {method : Method} (event : ConnectionEvent) {stream : List Message}
    {number : Nat} (older : ∀ message ∈ stream, message.request < number) (resp : method.Resp) :
    ((receive method event (stream ++ [⟨number, method, resp⟩])).outcome.isSuccess = true →
        (receive method event (stream ++ [⟨number, method, resp⟩])).used = some number) ↔
      event.timesOut = true ∨
        ∀ stale ∈ stream.head?, some method = some stale.method → stale.isSuccess = false := by
  by_cases timesOut : event.timesOut = true
  · cases stream <;> simp [receive, timesOut, Outcome.isSuccess]
  · cases stream with
    | nil => simp [receive, timesOut]
    | cons stale rest =>
        have differs : stale.request ≠ number := (older stale List.mem_cons_self).ne
        obtain ⟨request, other, reply⟩ := stale
        by_cases same : other = method
        · subst same
          simp [receive, timesOut, Outcome.isSuccess, Message.isSuccess, differs]
        · have reversed : method ≠ other := Ne.symm same
          simp [receive, timesOut, Outcome.isSuccess, same, reversed]

theorem mem_stream_receive {method : Method} {event : ConnectionEvent} {stream : List Message}
    {message : Message} (membership : message ∈ (receive method event stream).stream) :
    message ∈ stream := by
  cases stream with
  | nil => exact membership
  | cons first rest =>
      rw [receive] at membership
      split_ifs at membership
      · exact membership
      · exact List.mem_cons_of_mem _ membership
      · exact List.mem_cons_of_mem _ membership
      · exact membership

/-! ## Runs -/

/-- Replies on the stream answer requests that were sent. -/
def Connection.Numbered (connection : Connection) : Prop :=
  ∀ message ∈ connection.stream, message.request < connection.requests

theorem Connection.numbered_step {connection : Connection} (numbered : connection.Numbered)
    (event : ConnectionEvent) : (connection.step event).Numbered := by
  cases called : connection.world.rpc? event.call with
  | none => simpa only [step, called] using numbered
  | some rpc =>
      cases rpc with
      | done result =>
          simp only [step, called]
          exact numbered
      | send method req resume =>
          simp only [step, called]
          intro message membership
          rcases List.mem_append.mp (mem_stream_receive membership) with earlier | own
          · exact Nat.lt_succ_of_lt (numbered message earlier)
          · obtain rfl := List.mem_singleton.mp own
            exact Nat.lt_succ_self _

/-- One call keeps all records attributed exactly when it is in step. -/
theorem Connection.attributed_step_iff {connection : Connection}
    (numbered : connection.Numbered) (event : ConnectionEvent) :
    (∀ record ∈ (connection.step event).records, record.Attributed) ↔
      (∀ record ∈ connection.records, record.Attributed) ∧ connection.InStep event := by
  cases called : connection.world.rpc? event.call with
  | none =>
      have inStep : connection.InStep event := by simp [InStep, World.request?, called]
      simp only [step, called, inStep, and_true]
  | some rpc =>
      cases rpc with
      | done result =>
          have inStep : connection.InStep event := by simp [InStep, World.request?, called]
          simp [step, called, inStep, Record.Attributed, or_imp, forall_and]
      | send method req resume =>
          have own := receive_own_iff event numbered (event.server method req)
          simp only [step, called, List.mem_append, List.mem_singleton, or_imp, forall_and,
            forall_eq, Record.Attributed, World.ok_of_rpc? called, InStep, World.request?,
            Option.bind_some, Rpc.request?_send, Option.map_some, own]

/-- In every run, every call that returned OK used the reply to its own request if and only if
every call was in step. -/
theorem Connection.attributed_iff (events : List ConnectionEvent) :
    (∀ record ∈ (run Connection.step {} events).records, record.Attributed) ↔
      AllSteps Connection.step Connection.InStep {} events := by
  have general : ∀ connection : Connection, connection.Numbered →
      ((∀ record ∈ (run Connection.step connection events).records, record.Attributed) ↔
        (∀ record ∈ connection.records, record.Attributed) ∧
          AllSteps Connection.step Connection.InStep connection events) := by
    induction events with
    | nil => simp [AllSteps]
    | cons event events ih =>
        intro connection numbered
        rw [run_cons, ih _ (connection.numbered_step numbered event),
          attributed_step_iff numbered, AllSteps, and_assoc]
  rw [general {} (by simp [Numbered])]
  simp

/-- Two operations; a fetch of the first one times out before the second one is fetched. -/
def lateFetch : List ConnectionEvent :=
  [{ call := .openSession [] [], server := successResp },
    { call := .executeStatement 0 (ascii "select 1") [], server := successResp },
    { call := .executeStatement 0 (ascii "select 2") [], server := successResp },
    { call := .onOperation 0 (.fetch 1024 .next), server := successResp, timesOut := true },
    { call := .onOperation 1 (.fetch 1024 .next), server := successResp }]

/-- The fetch of the second operation returns OK with the reply to the fetch of the first. -/
theorem Connection.not_attributed_lateFetch :
    (run Connection.step {} lateFetch).records.map
        (fun record => (record.request, record.used, record.status.ok)) =
      [(some 0, some 0, true), (some 1, some 1, true), (some 2, some 2, true),
        (some 3, none, false), (some 4, some 3, true)] ∧
    ¬ ∀ record ∈ (run Connection.step {} lateFetch).records, record.Attributed := by
  constructor
  · rfl
  · decide

end HS2Client
