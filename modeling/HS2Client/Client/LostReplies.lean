import HS2Client.Client.Connection
import HS2Client.Client.HandleRouting
import HS2Client.Library.Registry

/-!
# Closing over a lossy exchange

The server keeps a table of the handles it knows, removes a handle that it is asked to close
and answers INVALID_HANDLE for one that it does not know. The reply to any request may be
lost: the client then sees an exception, and the server has acted all the same.
-/

namespace HS2Client

open Registry Runs

structure Server where
  sessions : Table TSessionHandle := {}
  operations : Table TOperationHandle := {}

/-- A call, whether its reply is lost, and what the server chooses. -/
structure LossyEvent where
  call : Call
  lost : Bool := false
  /-- Whether the server opens what it is asked to open. -/
  accepts : Bool := true
  newSession : TSessionHandle := {}
  newOperation : TOperationHandle := {}
  other : (method : Method) → method.Req → method.Resp := successResp

def errorStatus : TStatus := { statusCode := TStatusCode.errorStatus }

def unknownHandle : TStatus := { statusCode := TStatusCode.invalidHandleStatus }

namespace Server

/-- The server executes a request: its response and its tables afterwards. A handle is issued
at most once. -/
def handle (server : Server) (event : LossyEvent) :
    (method : Method) → method.Req → method.Resp × Server
  | .openSession, _ =>
      if event.accepts ∧ event.newSession ∉ server.sessions.issued then
        (({ sessionHandle := event.newSession } : TOpenSessionResp),
          { server with sessions := server.sessions.issue event.newSession })
      else (({ status := errorStatus } : TOpenSessionResp), server)
  | .executeStatement, (req : TExecuteStatementReq) =>
      if req.sessionHandle ∉ server.sessions.live then
        (({ status := unknownHandle } : TExecuteStatementResp), server)
      else if event.accepts ∧ event.newOperation ∉ server.operations.issued then
        (({ operationHandle := event.newOperation } : TExecuteStatementResp),
          { server with operations := server.operations.issue event.newOperation })
      else (({ status := errorStatus } : TExecuteStatementResp), server)
  | .closeSession, (req : TSessionReq) =>
      if req.sessionHandle ∈ server.sessions.live then
        (({} : TStatusResp),
          { server with sessions := server.sessions.revoke req.sessionHandle })
      else (({ status := unknownHandle } : TStatusResp), server)
  | .closeOperation, (req : TOperationReq) =>
      if req.operationHandle ∈ server.operations.live then
        (({} : TStatusResp),
          { server with operations := server.operations.revoke req.operationHandle })
      else (({ status := unknownHandle } : TStatusResp), server)
  | method, req => (event.other method req, server)

def acceptsSession (server : Server) (event : LossyEvent) : Bool :=
  event.accepts ∧ event.newSession ∉ server.sessions.issued

def acceptsOperation (server : Server) (event : LossyEvent) (req : TExecuteStatementReq) : Bool :=
  req.sessionHandle ∈ server.sessions.live ∧ event.accepts ∧
    event.newOperation ∉ server.operations.issued

theorem handle_openSession (server : Server) (event : LossyEvent) (req : TOpenSessionReq) :
    (server.handle event .openSession req).2 = if server.acceptsSession event then
      { server with sessions := server.sessions.issue event.newSession } else server := by
  simp only [handle, acceptsSession, decide_eq_true_eq]
  split_ifs <;> rfl

theorem handle_executeStatement (server : Server) (event : LossyEvent)
    (req : TExecuteStatementReq) :
    (server.handle event .executeStatement req).2 = if server.acceptsOperation event req then
      { server with operations := server.operations.issue event.newOperation } else server := by
  by_cases known : req.sessionHandle ∈ server.sessions.live
  · simp only [handle, acceptsOperation, known, not_true, if_false, true_and, decide_eq_true_eq]
    split_ifs <;> rfl
  · simp [handle, acceptsOperation, known]

/-- A request about an operation, other than closing it, leaves the tables alone. -/
theorem handle_other (server : Server) (event : LossyEvent) {method : Method} {req : method.Req}
    {handle : TOperationHandle} (about : method.operationHandle? req = some handle)
    (keeps : method ≠ .closeOperation) : (server.handle event method req).2 = server := by
  cases method <;> first | rfl | exact absurd rfl keeps | cases about

/-- Whether a request makes the server close something. -/
def closes (server : Server) : (method : Method) → method.Req → Bool
  | .closeSession, (req : TSessionReq) => req.sessionHandle ∈ server.sessions.live
  | .closeOperation, (req : TOperationReq) => req.operationHandle ∈ server.operations.live
  | _, _ => false

theorem closes_other (server : Server) {method : Method} {req : method.Req}
    {handle : TOperationHandle} (about : method.operationHandle? req = some handle)
    (keeps : method ≠ .closeOperation) : server.closes method req = false := by
  cases method <;> first | rfl | exact absurd rfl keeps | cases about

end Server

structure Lossy where
  world : World := {}
  server : Server := {}
  /-- The sessions and operations for which the server has executed a close request. -/
  closedSessions : List Nat := []
  closedOperations : List Nat := []

namespace Lossy

def respond (state : Lossy) (event : LossyEvent) : Responder := fun method req =>
  if event.lost then .exception (ascii "No more data to read.")
  else .reply (state.server.handle event method req).1

/-- Whether the server executes a close request in this step. -/
def executesClose (state : Lossy) (event : LossyEvent) : Bool :=
  match state.world.request? event.call with
  | none => false
  | some ⟨method, req⟩ => state.server.closes method req

def serverAfter (state : Lossy) (event : LossyEvent) : Server :=
  match state.world.request? event.call with
  | none => state.server
  | some ⟨method, req⟩ => (state.server.handle event method req).2

def step (state : Lossy) (event : LossyEvent) : Lossy where
  world := state.world.step ⟨event.call, state.respond event⟩
  server := state.serverAfter event
  closedSessions :=
    match event.call with
    | .closeSession i =>
        if state.executesClose event then state.closedSessions ++ [i] else state.closedSessions
    | _ => state.closedSessions
  closedOperations :=
    match event.call with
    | .onOperation i .close =>
        if state.executesClose event then state.closedOperations ++ [i]
        else state.closedOperations
    | _ => state.closedOperations

/-- The status that the call of an event returns. -/
def status? (state : Lossy) (event : LossyEvent) : Option Status :=
  state.world.status? ⟨event.call, state.respond event⟩

/-- What is closed on the server can be closed on the client: the next close whose reply is
delivered returns OK and clears the flag. -/
structure Recovers (state : Lossy) : Prop where
  session : ∀ i ∈ state.closedSessions, ∀ event, event.call = .closeSession i →
    event.lost = false → (state.status? event).map Status.ok = some true ∧
      ((state.step event).world.sessions[i]?.map fun object => object.session.open_) = some false
  operation : ∀ i ∈ state.closedOperations, ∀ event, event.call = .onOperation i .close →
    event.lost = false → (state.status? event).map Status.ok = some true ∧
      ((state.step event).world.operations[i]?.map fun object => object.op.open_) = some false

/-- `open_` is true only while the handle is valid. -/
structure FlagsValid (state : Lossy) : Prop where
  sessions : ∀ object ∈ state.world.sessions, object.session.open_ = true →
    object.session.handle ∈ state.server.sessions.live
  operations : ∀ object ∈ state.world.operations, object.op.open_ = true →
    object.op.handle ∈ state.server.operations.live

/-- The reply to a close request that the server executes is not lost. -/
def ClosesDelivered (state : Lossy) (event : LossyEvent) : Prop :=
  state.executesClose event = true → event.lost = false

/-! ## The invariant -/

def sessionHolders (world : World) : List (Bool × TSessionHandle) :=
  world.sessions.map fun object => (object.session.open_, object.session.handle)

def operationHolders (world : World) : List (Bool × TOperationHandle) :=
  world.operations.map fun object => (object.op.open_, object.op.handle)

structure Agreeing (state : Lossy) : Prop where
  sessions : Agrees (sessionHolders state.world) state.server.sessions state.closedSessions
  operations : Agrees (operationHolders state.world) state.server.operations
    state.closedOperations

variable {state : Lossy} {event : LossyEvent}

theorem openedSession?_respond (state : Lossy) (event : LossyEvent) (req : TOpenSessionReq) :
    Exchange.openedSession? ⟨.openSession, req, state.respond event .openSession req⟩ =
      learned event.lost (state.server.acceptsSession event) event.newSession := by
  by_cases accepted : event.accepts = true ∧ event.newSession ∉ state.server.sessions.issued
  · cases lost : event.lost <;> simp [respond, Server.handle, Server.acceptsSession, learned,
      accepted, lost, Exchange.openedSession?, TStatus.isSuccess, TStatusCode.successStatus]
  · cases lost : event.lost <;> simp [respond, Server.handle, Server.acceptsSession, learned,
      accepted, lost, Exchange.openedSession?, TStatus.isSuccess, errorStatus,
      TStatusCode.errorStatus, TStatusCode.successStatus, TStatusCode.successWithInfoStatus]

theorem openedOperation?_respond (state : Lossy) (event : LossyEvent)
    (req : TExecuteStatementReq) :
    Exchange.openedOperation? ⟨.executeStatement, req,
        state.respond event .executeStatement req⟩ =
      learned event.lost (state.server.acceptsOperation event req) event.newOperation := by
  by_cases known : req.sessionHandle ∈ state.server.sessions.live
  · by_cases accepted : event.accepts = true ∧
        event.newOperation ∉ state.server.operations.issued
    · cases lost : event.lost <;> simp [respond, Server.handle, Server.acceptsOperation, learned,
        known, accepted, lost, Exchange.openedOperation?, TStatus.isSuccess,
        TStatusCode.successStatus]
    · cases lost : event.lost <;> simp [respond, Server.handle, Server.acceptsOperation, learned,
        known, accepted, lost, Exchange.openedOperation?, TStatus.isSuccess, errorStatus,
        TStatusCode.errorStatus, TStatusCode.successStatus, TStatusCode.successWithInfoStatus]
  · cases lost : event.lost <;> simp [respond, Server.handle, Server.acceptsOperation, learned,
      known, lost, Exchange.openedOperation?, TStatus.isSuccess, unknownHandle,
      TStatusCode.invalidHandleStatus, TStatusCode.successStatus,
      TStatusCode.successWithInfoStatus]

theorem agreeing_openSession (agreeing : state.Agreeing) {config : List (Bytes × Bytes)}
    {user : Bytes} (called : event.call = .openSession config user) :
    (state.step event).Agreeing := by
  obtain ⟨resume, opens⟩ := Session.opens config user
  have server : (state.step event).server = if state.server.acceptsSession event then
      { state.server with sessions := state.server.sessions.issue event.newSession }
      else state.server := by
    rw [← Server.handle_openSession _ _ { username := user, configuration := config }]
    simp [step, serverAfter, World.request?, called, World.rpc?, opens.rpc_eq]
  have learns := openedSession?_respond state event
    { username := user, configuration := config }
  have grown := agreeing.sessions.open_
    (fun accepted => (of_decide_eq_true accepted).2)
    ((opens.flag _ _).trans (congrArg Option.isSome learns))
    (fun own known => opens.handle _ _ own (learns.trans known))
  constructor
  · have holders : sessionHolders (state.step event).world = sessionHolders state.world ++
        [((resume (state.respond event .openSession
          { username := user, configuration := config })).2.open_,
          (resume (state.respond event .openSession
            { username := user, configuration := config })).2.handle)] := by
      simp [step, called, World.step_openSession, sessionHolders, opens.rpc_eq]
    have closed : (state.step event).closedSessions = state.closedSessions := by
      simp [step, called]
    rw [holders, closed, server, apply_ite Server.sessions]
    exact grown
  · have holders : operationHolders (state.step event).world = operationHolders state.world := by
      simp [step, called, World.step_openSession, operationHolders]
    have closed : (state.step event).closedOperations = state.closedOperations := by
      simp [step, called]
    rw [holders, closed, server, apply_ite Server.operations, ite_self]
    exact agreeing.operations

theorem agreeing_executeStatement (agreeing : state.Agreeing) {i : Nat} {statement : Bytes}
    {confOverlay : List (Bytes × Bytes)} {creator : SessionObject}
    (present : state.world.sessions[i]? = some creator)
    (called : event.call = .executeStatement i statement confOverlay) :
    (state.step event).Agreeing := by
  obtain ⟨resume, opens⟩ := creator.session.executes statement confOverlay
  let req : TExecuteStatementReq :=
    { sessionHandle := creator.session.handle, statement := statement, confOverlay := confOverlay }
  have server : (state.step event).server = if state.server.acceptsOperation event req then
      { state.server with operations := state.server.operations.issue event.newOperation }
      else state.server := by
    rw [← Server.handle_executeStatement]
    simp [step, serverAfter, World.request?, called, World.rpc?, present, opens.rpc_eq, req]
  have learns := openedOperation?_respond state event req
  have grown := agreeing.operations.open_
    (fun accepted => (of_decide_eq_true accepted).2.2)
    ((opens.flag _ _).trans (congrArg Option.isSome learns))
    (fun own known => (opens.handle _ _ own (learns.trans known)).1)
  constructor
  · have holders : sessionHolders (state.step event).world = sessionHolders state.world := by
      simp [step, called, World.step_executeStatement _ _ present, sessionHolders]
    have closed : (state.step event).closedSessions = state.closedSessions := by
      simp [step, called]
    rw [holders, closed, server, apply_ite Server.sessions, ite_self]
    exact agreeing.sessions
  · have holders : operationHolders (state.step event).world = operationHolders state.world ++
        [((resume (state.respond event .executeStatement req)).2.open_,
          (resume (state.respond event .executeStatement req)).2.handle)] := by
      simp [step, called, World.step_executeStatement _ _ present, operationHolders,
        opens.rpc_eq, req]
    have closed : (state.step event).closedOperations = state.closedOperations := by
      simp [step, called]
    rw [holders, closed, server, apply_ite Server.operations]
    exact grown

/-- A call that sends no request changes nothing. -/
theorem agreeing_idle (agreeing : state.Agreeing)
    (world : state.world.step ⟨event.call, state.respond event⟩ = state.world)
    (idle : state.world.request? event.call = none) : (state.step event).Agreeing := by
  have quiet : state.executesClose event = false := by simp [executesClose, idle]
  have same : state.step event = state := by
    cases called : event.call with
    | onOperation i call => cases call <;> simp_all [step, serverAfter]
    | _ => simp_all [step, serverAfter]
  rwa [same]

theorem agreeing_missing (agreeing : state.Agreeing)
    (missing : state.world.rpc? event.call = none) : (state.step event).Agreeing :=
  agreeing_idle agreeing (World.step_missing _ missing) (by simp [World.request?, missing])

theorem agreeing_closeSession (agreeing : state.Agreeing)
    (delivered : state.ClosesDelivered event) {i : Nat} {object : SessionObject}
    (present : state.world.sessions[i]? = some object)
    (called : event.call = .closeSession i) : (state.step event).Agreeing := by
  rcases object.session.close_cases with ⟨notOpen, done⟩ | ⟨resume, request⟩
  · apply agreeing_idle agreeing
    · rw [called]
      exact ((World.closesSession present _).closed notOpen).2.2
    · simp [World.request?, called, World.rpc?, present, done]
  · have held : (sessionHolders state.world)[i]? = some (true, object.session.handle) := by
      simp [sessionHolders, present, request.isOpen]
    have live := agreeing.sessions.valid i _ held
    have sent := World.request?_closeSession present request.isOpen
    rw [← called] at sent
    have executes : state.executesClose event = true := by
      simp [executesClose, sent, Server.closes, live]
    have answered : (state.respond event .closeSession ⟨object.session.handle⟩).isSuccess = true := by
      simp [respond, delivered executes, Server.handle, live, Outcome.isSuccess, Method.status,
        TStatus.isSuccess, TStatusCode.successStatus]
    have after := request.after (state.respond event .closeSession ⟨object.session.handle⟩)
    rw [if_pos answered] at after
    have server : (state.step event).server =
        { state.server with
          sessions := state.server.sessions.revoke object.session.handle } := by
      simp [step, serverAfter, sent, Server.handle, live]
    constructor
    · have holders : sessionHolders (state.step event).world =
          (sessionHolders state.world).set i (false, object.session.handle) := by
        simp [step, called, World.step_closeSession _ _ present, sessionHolders, request.rpc_eq,
          after, List.map_set]
      have closed : (state.step event).closedSessions = state.closedSessions ++ [i] := by
        simp [step, called, executes]
      rw [holders, closed, server]
      exact agreeing.sessions.release held
    · have holders : operationHolders (state.step event).world = operationHolders state.world := by
        simp [step, called, World.step_closeSession _ _ present, operationHolders]
      have closed : (state.step event).closedOperations = state.closedOperations := by
        simp [step, called]
      rw [holders, closed, server]
      exact agreeing.operations

/-- A call on an operation leaves the sessions of the client alone. -/
theorem sessionHolders_onOperation {i : Nat} {object : OperationObject} {call : OperationCall}
    (present : state.world.operations[i]? = some object)
    (called : event.call = .onOperation i call) :
    sessionHolders (state.step event).world = sessionHolders state.world ∧
      (state.step event).closedSessions = state.closedSessions := by
  constructor
  · simp [step, called, World.step_onOperation _ _ present, sessionHolders]
  · simp [step, called]

theorem agreeing_closeOperation (agreeing : state.Agreeing)
    (delivered : state.ClosesDelivered event) {i : Nat} {object : OperationObject}
    (present : state.world.operations[i]? = some object)
    (called : event.call = .onOperation i .close) : (state.step event).Agreeing := by
  rcases object.op.close_cases with ⟨notOpen, done⟩ | ⟨resume, request⟩
  · apply agreeing_idle agreeing
    · rw [called]
      exact ((World.closesOperation present _).closed notOpen).2.2
    · simp [World.request?, called, World.rpc?, present, OperationCall.rpc, done]
  · have held : (operationHolders state.world)[i]? = some (true, object.op.handle) := by
      simp [operationHolders, present, request.isOpen]
    have live := agreeing.operations.valid i _ held
    have sent := World.request?_closeOperation present request.isOpen
    rw [← called] at sent
    have executes : state.executesClose event = true := by
      simp [executesClose, sent, Server.closes, live]
    have answered : (state.respond event .closeOperation ⟨object.op.handle⟩).isSuccess = true := by
      simp [respond, delivered executes, Server.handle, live, Outcome.isSuccess, Method.status,
        TStatus.isSuccess, TStatusCode.successStatus]
    have after := request.after (state.respond event .closeOperation ⟨object.op.handle⟩)
    rw [if_pos answered] at after
    have server : (state.step event).server =
        { state.server with operations := state.server.operations.revoke object.op.handle } := by
      simp [step, serverAfter, sent, Server.handle, live]
    obtain ⟨sessions, closedSessions⟩ := sessionHolders_onOperation present called
    constructor
    · rw [sessions, closedSessions, server]
      exact agreeing.sessions
    · have holders : operationHolders (state.step event).world =
          (operationHolders state.world).set i (false, object.op.handle) := by
        simp [step, called, World.step_onOperation _ _ present, operationHolders,
          OperationCall.rpc, request.rpc_eq, after, List.map_set]
      have closed : (state.step event).closedOperations = state.closedOperations ++ [i] := by
        simp [step, called, executes]
      rw [holders, closed, server]
      exact agreeing.operations.release held

theorem agreeing_useOperation (agreeing : state.Agreeing) {i : Nat} {object : OperationObject}
    (present : state.world.operations[i]? = some object) {call : OperationCall}
    (other : call ≠ .close) (called : event.call = .onOperation i call) :
    (state.step event).Agreeing := by
  rcases call.cases object.op with ⟨close, _⟩ | ⟨method, req, resume, request⟩
  · exact absurd close other
  · have keeps : method ≠ .closeOperation := fun closing => other (by
      simpa using request.closes.mp closing)
    have after := request.after (state.respond event method req)
    rw [if_neg (by simp [other])] at after
    have server : (state.step event).server = state.server := by
      simp [step, serverAfter, World.request?, called, World.rpc?, present, request.rpc_eq,
        Server.handle_other _ _ request.handle keeps]
    obtain ⟨sessions, closedSessions⟩ := sessionHolders_onOperation present called
    constructor
    · rw [sessions, closedSessions, server]
      exact agreeing.sessions
    · have held : (operationHolders state.world)[i]? =
          some (object.op.open_, object.op.handle) := by
        simp [operationHolders, present]
      obtain ⟨bounded, stored⟩ := List.getElem?_eq_some_iff.mp held
      have holders : operationHolders (state.step event).world =
          operationHolders state.world := by
        simp only [step, called, World.step_onOperation _ _ present, operationHolders,
          request.rpc_eq, Rpc.run_send, after, List.map_set]
        exact stored ▸ List.set_getElem_self bounded
      have closed : (state.step event).closedOperations = state.closedOperations := by
        cases call <;> simp_all [step]
      rw [holders, closed, server]
      exact agreeing.operations

/-- One step whose executed close request is answered. -/
theorem agreeing_step (agreeing : state.Agreeing) (delivered : state.ClosesDelivered event) :
    (state.step event).Agreeing := by
  cases called : event.call with
  | openSession config user => exact agreeing_openSession agreeing called
  | executeStatement i statement confOverlay =>
      cases present : state.world.sessions[i]? with
      | none => exact agreeing_missing agreeing (by simp [called, World.rpc?, present])
      | some creator => exact agreeing_executeStatement agreeing present called
  | closeSession i =>
      cases present : state.world.sessions[i]? with
      | none => exact agreeing_missing agreeing (by simp [called, World.rpc?, present])
      | some object => exact agreeing_closeSession agreeing delivered present called
  | onOperation i call =>
      cases present : state.world.operations[i]? with
      | none => exact agreeing_missing agreeing (by simp [called, World.rpc?, present])
      | some object =>
          by_cases close : call = .close
          · subst close
            exact agreeing_closeOperation agreeing delivered present called
          · exact agreeing_useOperation agreeing present close called

/-! ## Recovery -/

theorem recovers_of_agreeing (agreeing : state.Agreeing) : state.Recovers where
  session := by
    intro i membership event called _
    obtain ⟨handle, held⟩ := agreeing.sessions.released_closed i membership
    rw [sessionHolders, List.getElem?_map] at held
    obtain ⟨object, present, stored⟩ := Option.map_eq_some_iff.mp held
    have notOpen : object.session.open_ = false := (Prod.ext_iff.mp stored).1
    have closes := (World.closesSession present (state.respond event)).closed notOpen
    rw [← called] at closes
    refine ⟨?_, ?_⟩
    · rw [status?, closes.2.1]
      rfl
    · simp only [step, closes.2.2, present, Option.map_some, notOpen]
  operation := by
    intro i membership event called _
    obtain ⟨handle, held⟩ := agreeing.operations.released_closed i membership
    rw [operationHolders, List.getElem?_map] at held
    obtain ⟨object, present, stored⟩ := Option.map_eq_some_iff.mp held
    have notOpen : object.op.open_ = false := (Prod.ext_iff.mp stored).1
    have closes := (World.closesOperation present (state.respond event)).closed notOpen
    rw [← called] at closes
    refine ⟨?_, ?_⟩
    · rw [status?, closes.2.1]
      rfl
    · simp only [step, closes.2.2, present, Option.map_some, notOpen]

theorem flagsValid_of_agreeing (agreeing : state.Agreeing) : state.FlagsValid where
  sessions := by
    intro object membership isOpen
    obtain ⟨i, present⟩ := List.getElem?_of_mem membership
    apply agreeing.sessions.valid i
    simp [sessionHolders, present, isOpen]
  operations := by
    intro object membership isOpen
    obtain ⟨i, present⟩ := List.getElem?_of_mem membership
    apply agreeing.operations.valid i
    simp [operationHolders, present, isOpen]

/-- The server executes a close request only for an object that is open. -/
theorem executesClose_cases (executes : state.executesClose event = true) :
    (∃ i object, event.call = .closeSession i ∧ state.world.sessions[i]? = some object ∧
      object.session.open_ = true ∧ object.session.handle ∈ state.server.sessions.live ∧
      state.world.request? event.call = some ⟨.closeSession, ⟨object.session.handle⟩⟩) ∨
    ∃ i object, event.call = .onOperation i .close ∧
      state.world.operations[i]? = some object ∧
      object.op.open_ = true ∧ object.op.handle ∈ state.server.operations.live ∧
      state.world.request? event.call = some ⟨.closeOperation, ⟨object.op.handle⟩⟩ := by
  rw [executesClose] at executes
  cases called : event.call with
  | openSession config user =>
      obtain ⟨resume, opens⟩ := Session.opens config user
      simp [World.request?, called, World.rpc?, opens.rpc_eq, Server.closes] at executes
  | executeStatement i statement confOverlay =>
      cases present : state.world.sessions[i]? with
      | none => simp [World.request?, called, World.rpc?, present] at executes
      | some creator =>
          obtain ⟨resume, opens⟩ := creator.session.executes statement confOverlay
          simp [World.request?, called, World.rpc?, present, opens.rpc_eq,
            Server.closes] at executes
  | closeSession i =>
      cases present : state.world.sessions[i]? with
      | none => simp [World.request?, called, World.rpc?, present] at executes
      | some object =>
          rcases object.session.close_cases with ⟨_, done⟩ | ⟨resume, request⟩
          · simp [World.request?, called, World.rpc?, present, done] at executes
          · have sent := World.request?_closeSession present request.isOpen
            rw [called, sent] at executes
            exact .inl ⟨i, object, rfl, present, request.isOpen, of_decide_eq_true executes, sent⟩
  | onOperation i call =>
      cases present : state.world.operations[i]? with
      | none => simp [World.request?, called, World.rpc?, present] at executes
      | some object =>
          by_cases close : call = .close
          · subst close
            rcases object.op.close_cases with ⟨_, done⟩ | ⟨resume, request⟩
            · simp [World.request?, called, World.rpc?, present, OperationCall.rpc, done] at executes
            · have sent := World.request?_closeOperation present request.isOpen
              rw [called, sent] at executes
              exact .inr ⟨i, object, rfl, present, request.isOpen, of_decide_eq_true executes, sent⟩
          · rcases call.cases object.op with ⟨same, _⟩ | ⟨method, req, resume, request⟩
            · exact absurd same close
            · have keeps : method ≠ .closeOperation := fun closing => close (by
                simpa using request.closes.mp closing)
              simp [World.request?, called, World.rpc?, present, request.rpc_eq,
                Server.closes_other _ request.handle keeps] at executes

/-- An object that is open with a handle that the server does not know cannot be closed. -/
theorem status?_closeSession_unknown {i : Nat} {object : SessionObject}
    (present : state.world.sessions[i]? = some object) (isOpen : object.session.open_ = true)
    (unknown : object.session.handle ∉ state.server.sessions.live)
    (called : event.call = .closeSession i) :
    (state.status? event).map Status.ok = some false := by
  rw [status?, called]
  apply ((World.closesSession present (state.respond event)).failed isOpen _).1
  cases lost : event.lost <;> simp [SessionObject.closing, Exchange.succeeds, respond, lost,
    Server.handle, unknown, Outcome.isSuccess, Method.status, TStatus.isSuccess, unknownHandle,
    TStatusCode.invalidHandleStatus, TStatusCode.successStatus, TStatusCode.successWithInfoStatus]

theorem status?_closeOperation_unknown {i : Nat} {object : OperationObject}
    (present : state.world.operations[i]? = some object) (isOpen : object.op.open_ = true)
    (unknown : object.op.handle ∉ state.server.operations.live)
    (called : event.call = .onOperation i .close) :
    (state.status? event).map Status.ok = some false := by
  rw [status?, called]
  apply ((World.closesOperation present (state.respond event)).failed isOpen _).1
  cases lost : event.lost <;> simp [OperationObject.closing, Exchange.succeeds, respond, lost,
    Server.handle, unknown, Outcome.isSuccess, Method.status, TStatus.isSuccess, unknownHandle,
    TStatusCode.invalidHandleStatus, TStatusCode.successStatus, TStatusCode.successWithInfoStatus]

/-- Losing the reply to an executed close leaves an object open whose handle is gone, and closing
it again is refused. -/
theorem closesDelivered_of_recovers (recovers : (state.step event).Recovers) :
    state.ClosesDelivered event := by
  intro executes
  by_contra notDelivered
  have lost : event.lost = true := by simpa using notDelivered
  have unanswered : ∀ method req, (state.respond event method req).isSuccess = false := by
    intro method req
    simp [respond, lost, Outcome.isSuccess]
  rcases executesClose_cases executes with
    ⟨i, object, called, present, isOpen, live, sent⟩ |
    ⟨i, object, called, present, isOpen, live, sent⟩
  · have kept := ((World.closesSession present (state.respond event)).failed isOpen
      (unanswered .closeSession ⟨object.session.handle⟩)).2
    rw [← called] at kept
    have stored : (state.step event).world.sessions[i]? = some ⟨object.session, _⟩ := kept
    have unknown : object.session.handle ∉ (state.step event).server.sessions.live := by
      simp [step, serverAfter, sent, Server.handle, live, Table.revoke]
    have recovered := (recovers.session i (by simp [step, called, executes])
      { call := .closeSession i } rfl rfl).1
    rw [status?_closeSession_unknown stored isOpen unknown rfl] at recovered
    cases recovered
  · have kept := ((World.closesOperation present (state.respond event)).failed isOpen
      (unanswered .closeOperation ⟨object.op.handle⟩)).2
    rw [← called] at kept
    have stored : (state.step event).world.operations[i]? = some ⟨object.op, _, _⟩ := kept
    have unknown : object.op.handle ∉ (state.step event).server.operations.live := by
      simp [step, serverAfter, sent, Server.handle, live, Table.revoke]
    have recovered := (recovers.operation i (by simp [step, called, executes])
      { call := .onOperation i .close } rfl rfl).1
    rw [status?_closeOperation_unknown stored isOpen unknown rfl] at recovered
    cases recovered

theorem agreeing_empty : ({} : Lossy).Agreeing := ⟨agrees_empty, agrees_empty⟩

/-- Every state that a run reaches recovers if and only if no reply to an executed close request
is lost in it; the flags then are valid all along. -/
theorem recovers_iff (events : List LossyEvent) :
    (AllSteps Lossy.step (fun state event => (state.step event).Recovers) {} events ↔
        AllSteps Lossy.step Lossy.ClosesDelivered {} events) ∧
      (AllSteps Lossy.step Lossy.ClosesDelivered {} events →
        AllSteps Lossy.step (fun state event => (state.step event).FlagsValid) {} events) := by
  have preserved : ∀ (state : Lossy) event, state.Agreeing → state.ClosesDelivered event →
      (state.step event).Agreeing := fun _ _ => agreeing_step
  constructor
  · refine allSteps_congr Lossy.Agreeing ?_ preserved agreeing_empty events
    intro state event agreeing
    exact ⟨closesDelivered_of_recovers, fun delivered =>
      recovers_of_agreeing (agreeing_step agreeing delivered)⟩
  · apply allSteps_mono Lossy.Agreeing _ preserved agreeing_empty
    exact fun state event agreeing delivered =>
      flagsValid_of_agreeing (agreeing_step agreeing delivered)

/-- A session and an operation are opened; the reply to closing the operation is lost. -/
def lostClose : List LossyEvent :=
  [{ call := .openSession [] [], newSession := ⟨{ guid := [1] }⟩ },
    { call := .executeStatement 0 (ascii "select 1") [],
      newOperation := { operationId := { guid := [2] } } },
    { call := .onOperation 0 .close, lost := true }]

/-- Closing the operation again is answered with INVALID_HANDLE, and it stays open. -/
theorem not_recovers_lostClose :
    let state := run Lossy.step {} lostClose
    let retry : LossyEvent := { call := .onOperation 0 .close }
    state.closedOperations = [0] ∧ state.status? retry = some .invalidHandle ∧
      ((state.step retry).world.operations.map fun object => object.op.open_) = [true] ∧
      ¬ state.Recovers := by
  refine ⟨rfl, rfl, rfl, fun recovers => ?_⟩
  have retried := (recovers.operation 0 (by decide) { call := .onOperation 0 .close } rfl rfl).1
  cases retried

end Lossy

end HS2Client
