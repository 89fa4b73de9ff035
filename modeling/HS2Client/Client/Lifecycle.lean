import HS2Client.Client.Operation
import HS2Client.Library.Leases
import HS2Client.Library.Runs

/-!
# Sessions and operations of a service

The objects that a client of one connected service has created, each with the exchanges that
were made for it, and the calls on them. The outcome of every request is arbitrary.
-/

namespace HS2Client

open Leases

/-! ## Handles in requests -/

def Method.operationHandle? : (method : Method) → method.Req → Option TOperationHandle
  | .openSession, _ => none
  | .closeSession, _ => none
  | .executeStatement, _ => none
  | .getRuntimeProfile, (req : TGetRuntimeProfileReq) => some req.operationHandle
  | .fetchResults, (req : TFetchResultsReq) => some req.operationHandle
  | .getOperationStatus, (req : TOperationReq) => some req.operationHandle
  | .getLog, (req : TOperationReq) => some req.operationHandle
  | .getResultSetMetadata, (req : TOperationReq) => some req.operationHandle
  | .cancelOperation, (req : TOperationReq) => some req.operationHandle
  | .closeOperation, (req : TOperationReq) => some req.operationHandle

def Method.sessionHandle? : (method : Method) → method.Req → Option TSessionHandle
  | .closeSession, (req : TSessionReq) => some req.sessionHandle
  | .executeStatement, (req : TExecuteStatementReq) => some req.sessionHandle
  | .getRuntimeProfile, (req : TGetRuntimeProfileReq) => some req.sessionHandle
  | _, _ => none

namespace Exchange

def operationHandle? (exchange : Exchange) : Option TOperationHandle :=
  exchange.method.operationHandle? exchange.req

def sessionHandle? (exchange : Exchange) : Option TSessionHandle :=
  exchange.method.sessionHandle? exchange.req

/-- The handle in a successful reply to `ExecuteStatement`. -/
def openedOperation? : Exchange → Option TOperationHandle
  | ⟨.executeStatement, _, .reply (resp : TExecuteStatementResp)⟩ =>
      if resp.status.isSuccess then some resp.operationHandle else none
  | _ => none

/-- The handle in a successful reply to `OpenSession`. -/
def openedSession? : Exchange → Option TSessionHandle
  | ⟨.openSession, _, .reply (resp : TOpenSessionResp)⟩ =>
      if resp.status.isSuccess then some resp.sessionHandle else none
  | _ => none

def succeeds (exchange : Exchange) : Bool := exchange.outcome.isSuccess

end Exchange

/-- The exchanges of an operation of the session with this handle. -/
def operationProtocol (session : TSessionHandle) : Protocol Exchange TOperationHandle where
  opens := Exchange.openedOperation?
  closes exchange := exchange.method = .closeOperation && exchange.succeeds
  carries handle exchange := exchange.operationHandle? = some handle ∧
    (exchange.method = .getRuntimeProfile → exchange.sessionHandle? = some session)

def sessionProtocol : Protocol Exchange TSessionHandle where
  opens := Exchange.openedSession?
  closes exchange := exchange.method = .closeSession && exchange.succeeds
  carries handle exchange := exchange.sessionHandle? = some handle

/-! ## Calls -/

inductive OperationCall where
  | getState
  | getLog
  | getProfile
  | getResultSetMetadata
  | fetch (maxRows : Int) (orientation : FetchOrientation)
  | cancel
  | close
  deriving DecidableEq

/-- What a call does to its operation; output arguments are left out. -/
def OperationCall.rpc (op : Operation) : OperationCall → Rpc (Status × Operation)
  | .getState => (op.getState .unknown).map fun result => (result.1, op)
  | .getLog => (op.getLog []).map fun result => (result.1, op)
  | .getProfile => (op.getProfile []).map fun result => (result.1, op)
  | .getResultSetMetadata => (op.getResultSetMetadata []).map fun result => (result.1, op)
  | .fetch maxRows orientation =>
      (op.fetchRows maxRows orientation {}).map fun result => (result.1, op)
  | .cancel => op.cancel.map fun status => (status, op)
  | .close => op.close

inductive Call where
  | openSession (config : List (Bytes × Bytes)) (user : Bytes)
  | executeStatement (session : Nat) (statement : Bytes) (confOverlay : List (Bytes × Bytes))
  | closeSession (session : Nat)
  | onOperation (operation : Nat) (call : OperationCall)
  deriving DecidableEq

structure SessionObject where
  session : Session
  exchanges : List Exchange

structure OperationObject where
  op : Operation
  /-- The position of the session that created it. -/
  creator : Nat
  exchanges : List Exchange

structure World where
  sessions : List SessionObject := []
  operations : List OperationObject := []

namespace World

/-- The request of a call, its status, and the objects after it, to which the exchange is
still to be added. A call on an object that does not exist is none. -/
def rpc? (world : World) : Call → Option (Rpc (Status × (Option Exchange → World)))
  | .openSession config user =>
      some ((({} : Session).openSession config user).map fun (status, session) =>
        (status, fun exchange =>
          { world with sessions := world.sessions ++ [⟨session, exchange.toList⟩] }))
  | .executeStatement i statement confOverlay =>
      world.sessions[i]?.map fun creator =>
        (creator.session.executeStatement statement confOverlay).map fun (status, op) =>
          (status, fun exchange =>
            { world with operations := world.operations ++ [⟨op, i, exchange.toList⟩] })
  | .closeSession i =>
      world.sessions[i]?.map fun object =>
        object.session.close.map fun (status, session) =>
          (status, fun exchange =>
            { world with sessions :=
                world.sessions.set i ⟨session, object.exchanges ++ exchange.toList⟩ })
  | .onOperation i call =>
      world.operations[i]?.map fun object =>
        (call.rpc object.op).map fun (status, op) =>
          (status, fun exchange =>
            { world with operations :=
                world.operations.set i ⟨op, object.creator, object.exchanges ++ exchange.toList⟩ })

end World

structure Event where
  call : Call
  respond : Responder

namespace World

/-- The request that a call sends. -/
def request? (world : World) (call : Call) : Option (Σ method : Method, method.Req) :=
  (world.rpc? call).bind Rpc.request?

def step (world : World) (event : Event) : World :=
  match world.rpc? event.call with
  | none => world
  | some rpc => (rpc.run event.respond).2 (rpc.exchange? event.respond)

/-- The status that a call returns. -/
def status? (world : World) (event : Event) : Option Status :=
  (world.rpc? event.call).map fun rpc => (rpc.run event.respond).1

/-- The exchange that a call makes. -/
def exchange? (world : World) (event : Event) : Option Exchange :=
  (world.rpc? event.call).bind fun rpc => rpc.exchange? event.respond

end World

namespace World

variable (world : World) (respond : Responder)

theorem step_openSession (config : List (Bytes × Bytes)) (user : Bytes) :
    world.step ⟨.openSession config user, respond⟩ =
      { world with sessions := world.sessions ++
          [⟨((({} : Session).openSession config user).run respond).2,
            ((({} : Session).openSession config user).exchange? respond).toList⟩] } := by
  simp [step, rpc?]

theorem step_executeStatement {i : Nat} {creator : SessionObject}
    (present : world.sessions[i]? = some creator) (statement : Bytes)
    (confOverlay : List (Bytes × Bytes)) :
    world.step ⟨.executeStatement i statement confOverlay, respond⟩ =
      { world with operations := world.operations ++
          [⟨((creator.session.executeStatement statement confOverlay).run respond).2, i,
            ((creator.session.executeStatement statement confOverlay).exchange?
              respond).toList⟩] } := by
  simp [step, rpc?, present]

theorem step_closeSession {i : Nat} {object : SessionObject}
    (present : world.sessions[i]? = some object) :
    world.step ⟨.closeSession i, respond⟩ =
      { world with sessions := world.sessions.set i ⟨(object.session.close.run respond).2,
          object.exchanges ++ (object.session.close.exchange? respond).toList⟩ } := by
  simp [step, rpc?, present]

theorem step_onOperation {i : Nat} {object : OperationObject}
    (present : world.operations[i]? = some object) (call : OperationCall) :
    world.step ⟨.onOperation i call, respond⟩ =
      { world with operations := world.operations.set i ⟨((call.rpc object.op).run respond).2,
          object.creator,
          object.exchanges ++ ((call.rpc object.op).exchange? respond).toList⟩ } := by
  simp [step, rpc?, present]

theorem step_missing {event : Event} (missing : world.rpc? event.call = none) :
    world.step event = world := by
  simp [step, missing]

/-- All that a call can do to the objects. -/
inductive Stepped : Call → World → Prop
  | missing {call : Call} (missing : world.rpc? call = none) : Stepped call world
  | openSession (config : List (Bytes × Bytes)) (user : Bytes) :
      Stepped (.openSession config user) { world with sessions := world.sessions ++
        [⟨((({} : Session).openSession config user).run respond).2,
          ((({} : Session).openSession config user).exchange? respond).toList⟩] }
  | executeStatement {i : Nat} {creator : SessionObject}
      (present : world.sessions[i]? = some creator) (statement : Bytes)
      (confOverlay : List (Bytes × Bytes)) :
      Stepped (.executeStatement i statement confOverlay)
        { world with operations := world.operations ++
          [⟨((creator.session.executeStatement statement confOverlay).run respond).2, i,
            ((creator.session.executeStatement statement confOverlay).exchange?
              respond).toList⟩] }
  | closeSession {i : Nat} {object : SessionObject}
      (present : world.sessions[i]? = some object) :
      Stepped (.closeSession i)
        { world with sessions := world.sessions.set i ⟨(object.session.close.run respond).2,
            object.exchanges ++ (object.session.close.exchange? respond).toList⟩ }
  | onOperation {i : Nat} {object : OperationObject}
      (present : world.operations[i]? = some object) (call : OperationCall) :
      Stepped (.onOperation i call)
        { world with operations := world.operations.set i ⟨((call.rpc object.op).run respond).2,
            object.creator,
            object.exchanges ++ ((call.rpc object.op).exchange? respond).toList⟩ }

theorem stepped (call : Call) : world.Stepped respond call (world.step ⟨call, respond⟩) := by
  cases called : world.rpc? call with
  | none =>
      rw [world.step_missing called]
      exact .missing called
  | some rpc =>
      cases call with
      | openSession config user =>
          rw [step_openSession]
          exact .openSession config user
      | executeStatement i statement confOverlay =>
          obtain ⟨creator, present, -⟩ := Option.map_eq_some_iff.mp called
          rw [world.step_executeStatement respond present]
          exact .executeStatement present statement confOverlay
      | closeSession i =>
          obtain ⟨object, present, -⟩ := Option.map_eq_some_iff.mp called
          rw [world.step_closeSession respond present]
          exact .closeSession present
      | onOperation i call =>
          obtain ⟨object, present, -⟩ := Option.map_eq_some_iff.mp called
          rw [world.step_onOperation respond present]
          exact .onOperation present call

end World

/-! ## What a single call does -/

theorem Operation.close_of_closed {op : Operation} (isClosed : op.open_ = false) :
    op.close = .done (.okStatus, op) := by
  rw [Operation.close, if_neg (by simp [isClosed])]

theorem Session.close_of_closed {session : Session} (isClosed : session.open_ = false) :
    session.close = .done (.okStatus, session) := by
  rw [Session.close, if_neg (by simp [isClosed])]

theorem World.request?_closeSession {world : World} {i : Nat} {object : SessionObject}
    (present : world.sessions[i]? = some object) (isOpen : object.session.open_ = true) :
    world.request? (.closeSession i) = some ⟨.closeSession, ⟨object.session.handle⟩⟩ := by
  simp [request?, rpc?, present, Session.close, isOpen]

theorem World.request?_closeOperation {world : World} {i : Nat} {object : OperationObject}
    (present : world.operations[i]? = some object) (isOpen : object.op.open_ = true) :
    world.request? (.onOperation i .close) = some ⟨.closeOperation, ⟨object.op.handle⟩⟩ := by
  simp [request?, rpc?, present, OperationCall.rpc, Operation.close, isOpen]

/-- Closing an operation that is open. -/
structure CloseRequest (op : Operation) (resume : Outcome .closeOperation → Status × Operation) :
    Prop where
  isOpen : op.open_ = true
  rpc_eq : op.close = .send .closeOperation ⟨op.handle⟩ resume
  ok : ∀ outcome, (resume outcome).1.ok = outcome.isSuccess
  after : ∀ outcome, (resume outcome).2 =
    if outcome.isSuccess then { op with open_ := false } else op

theorem Operation.close_cases (op : Operation) :
    (op.open_ = false ∧ op.close = .done (.okStatus, op)) ∨ ∃ resume, CloseRequest op resume := by
  cases isOpen : op.open_ with
  | false => exact .inl ⟨rfl, Operation.close_of_closed isOpen⟩
  | true =>
      refine .inr ⟨_, ⟨isOpen, if_pos isOpen,
        fun outcome => ok_tryRpc_returnNotOk outcome _ _, fun outcome => ?_⟩⟩
      apply (out_tryRpc_returnNotOk outcome _ _).trans
      cases outcome <;> rfl

/-- A request made for an operation, and what becomes of the operation. -/
structure OperationRequest (op : Operation) (closing : Bool) (rpc : Rpc (Status × Operation))
    (method : Method) (req : method.Req) (resume : Outcome method → Status × Operation) :
    Prop where
  isOpen : closing = true → op.open_ = true
  rpc_eq : rpc = .send method req resume
  handle : method.operationHandle? req = some op.handle
  sessionHandle : method = .getRuntimeProfile → method.sessionHandle? req = some op.sessionHandle
  closes : method = .closeOperation ↔ closing = true
  ok : ∀ outcome, (resume outcome).1.ok = outcome.isSuccess
  after : ∀ outcome, (resume outcome).2 =
    if closing && outcome.isSuccess then { op with open_ := false } else op

theorem operationRequest_const {op : Operation} {method : Method} {req : method.Req}
    {Out : Type} {resume : Outcome method → Status × Out}
    (handle : method.operationHandle? req = some op.handle)
    (sessionHandle : method = .getRuntimeProfile →
      method.sessionHandle? req = some op.sessionHandle)
    (keeps : method ≠ .closeOperation)
    (ok : ∀ outcome, (resume outcome).1.ok = outcome.isSuccess) :
    OperationRequest op false ((Rpc.send method req resume).map fun result => (result.1, op))
      method req fun outcome => ((resume outcome).1, op) where
  isOpen := nofun
  rpc_eq := rfl
  handle := handle
  sessionHandle := sessionHandle
  closes := by simp [keeps]
  ok := ok
  after := by simp

/-- A call sends one request with the handle of its operation, except for closing an operation
that is not open. -/
theorem OperationCall.cases (op : Operation) (call : OperationCall) :
    (call = .close ∧ op.open_ = false ∧ call.rpc op = .done (.okStatus, op)) ∨
      ∃ method req resume,
        OperationRequest op (call = .close) (call.rpc op) method req resume := by
  cases call with
  | getState =>
      exact .inr ⟨_, _, _, operationRequest_const rfl nofun nofun fun outcome =>
        ok_tryRpc_returnNotOk outcome _ _⟩
  | getLog =>
      exact .inr ⟨_, _, _, operationRequest_const rfl nofun nofun fun outcome =>
        ok_tryRpc_returnNotOk outcome _ _⟩
  | getProfile =>
      exact .inr ⟨_, _, _, operationRequest_const rfl (fun _ => rfl) nofun fun outcome =>
        ok_tryRpc_returnNotOk outcome _ _⟩
  | getResultSetMetadata =>
      exact .inr ⟨_, _, _, operationRequest_const rfl nofun nofun fun outcome =>
        ok_tryRpc_returnNotOk outcome _ _⟩
  | fetch maxRows orientation =>
      exact .inr ⟨_, _, _, operationRequest_const rfl nofun nofun fun outcome =>
        ok_tryRpc_returnNotOk outcome _ _⟩
  | cancel =>
      refine .inr ⟨.cancelOperation, _, _, ⟨nofun, rfl, rfl, nofun, by decide, ?_, fun _ => rfl⟩⟩
      rintro (what | resp)
      · rfl
      · exact ok_tStatusToStatus _
  | close =>
      rcases op.close_cases with ⟨notOpen, done⟩ | ⟨resume, request⟩
      · exact .inl ⟨rfl, notOpen, done⟩
      · refine .inr ⟨.closeOperation, _, resume, ⟨fun _ => request.isOpen, request.rpc_eq, rfl,
          nofun, by decide, request.ok, fun outcome => ?_⟩⟩
        simpa using request.after outcome

/-- Closing a session that is open. -/
structure SessionRequest (session : Session) (resume : Outcome .closeSession → Status × Session) :
    Prop where
  isOpen : session.open_ = true
  rpc_eq : session.close = .send .closeSession ⟨session.handle⟩ resume
  ok : ∀ outcome, (resume outcome).1.ok = outcome.isSuccess
  after : ∀ outcome, (resume outcome).2 =
    if outcome.isSuccess then { session with open_ := false } else session

theorem Session.close_cases (session : Session) :
    (session.open_ = false ∧ session.close = .done (.okStatus, session)) ∨
      ∃ resume, SessionRequest session resume := by
  cases isOpen : session.open_ with
  | false => exact .inl ⟨rfl, Session.close_of_closed isOpen⟩
  | true =>
      refine .inr ⟨_, ⟨isOpen, if_pos isOpen,
        fun outcome => ok_tryRpc_returnNotOk outcome _ _, fun outcome => ?_⟩⟩
      apply (out_tryRpc_returnNotOk outcome _ _).trans
      cases outcome <;> rfl

/-- Opening a session or an operation stores the handle of a successful reply and nothing of any
other outcome. -/
structure OpensSession (config : List (Bytes × Bytes)) (user : Bytes)
    (resume : Outcome .openSession → Status × Session) : Prop where
  rpc_eq : ({} : Session).openSession config user =
    .send .openSession { username := user, configuration := config } resume
  ok : ∀ outcome, (resume outcome).1.ok = outcome.isSuccess
  flag : ∀ outcome req, (resume outcome).2.open_ =
    (Exchange.openedSession? ⟨.openSession, req, outcome⟩).isSome
  handle : ∀ outcome req own, Exchange.openedSession? ⟨.openSession, req, outcome⟩ = some own →
    (resume outcome).2.handle = own

theorem Session.opens (config : List (Bytes × Bytes)) (user : Bytes) :
    ∃ resume, OpensSession config user resume := by
  refine ⟨_, ⟨rfl, fun outcome => ok_tryRpc_returnNotOk outcome _ _, ?_, ?_⟩⟩
  · intro outcome req
    apply (congrArg Session.open_ (out_tryRpc_returnNotOk outcome _ _)).trans
    rcases outcome with what | (resp : TOpenSessionResp)
    · rfl
    · cases success : resp.status.isSuccess <;>
        simp [Exchange.openedSession?, Method.status, success]
  · intro outcome req own delivered
    apply (congrArg Session.handle (out_tryRpc_returnNotOk outcome _ _)).trans
    rcases outcome with what | (resp : TOpenSessionResp)
    · cases delivered
    · cases success : resp.status.isSuccess <;>
        simp_all [Exchange.openedSession?, Method.status]

structure OpensOperation (session : Session) (statement : Bytes)
    (confOverlay : List (Bytes × Bytes))
    (resume : Outcome .executeStatement → Status × Operation) : Prop where
  rpc_eq : session.executeStatement statement confOverlay = .send .executeStatement
    { sessionHandle := session.handle, statement := statement, confOverlay := confOverlay } resume
  ok : ∀ outcome, (resume outcome).1.ok = outcome.isSuccess
  flag : ∀ outcome req, (resume outcome).2.open_ =
    (Exchange.openedOperation? ⟨.executeStatement, req, outcome⟩).isSome
  handle : ∀ outcome req own,
    Exchange.openedOperation? ⟨.executeStatement, req, outcome⟩ = some own →
      (resume outcome).2.handle = own ∧ (resume outcome).2.sessionHandle = session.handle

theorem Session.executes (session : Session) (statement : Bytes)
    (confOverlay : List (Bytes × Bytes)) :
    ∃ resume, OpensOperation session statement confOverlay resume := by
  refine ⟨_, ⟨rfl, fun outcome => ok_tryRpc_returnNotOk outcome _ _, ?_, ?_⟩⟩
  · intro outcome req
    apply (congrArg Operation.open_ (out_tryRpc_returnNotOk outcome _ _)).trans
    rcases outcome with what | (resp : TExecuteStatementResp)
    · rfl
    · cases success : resp.status.isSuccess <;>
        simp [Exchange.openedOperation?, Method.status, success]
  · intro outcome req own delivered
    have out := out_tryRpc_returnNotOk outcome ({} : Operation) fun resp =>
      { handle := TExecuteStatementResp.operationHandle resp, sessionHandle := session.handle,
        open_ := true }
    rcases outcome with what | (resp : TExecuteStatementResp)
    · cases delivered
    · cases success : resp.status.isSuccess with
      | false => simp [Exchange.openedOperation?, success] at delivered
      | true =>
          simp only [Exchange.openedOperation?, success, if_true, Option.some.injEq] at delivered
          simp only [Method.status, success, if_true] at out
          subst delivered
          exact ⟨congrArg Operation.handle out, congrArg Operation.sessionHandle out⟩

end HS2Client
