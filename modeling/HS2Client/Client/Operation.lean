import HS2Client.Client.Rpc
import HS2Client.ColumnarRowSet

/-!
# Operations

The methods of `Operation`. A method that is `const` in the source returns its status and
the new contents of its output arguments; `close` also returns the operation.
-/

namespace HS2Client

inductive FetchOrientation where
  | next
  | prior
  | relative
  | absolute
  | first
  | last
  deriving DecidableEq, Repr

def fetchOrientationToTFetchOrientation : FetchOrientation → Int
  | .next => 0
  | .prior => 1
  | .relative => 2
  | .absolute => 3
  | .first => 4
  | .last => 5

inductive OperationState where
  | initialized
  | running
  | finished
  | canceled
  | closed
  | error
  | unknown
  | pending
  deriving DecidableEq, Repr

def tOperationStateToOperationState : Int → OperationState
  | 0 => .initialized
  | 1 => .running
  | 2 => .finished
  | 3 => .canceled
  | 4 => .closed
  | 5 => .error
  | 6 => .unknown
  | 7 => .pending
  | _ => .unknown

structure Operation where
  handle : TOperationHandle := {}
  sessionHandle : TSessionHandle := {}
  open_ : Bool := false
  deriving DecidableEq

namespace Operation

def defaultMaxRows : Int := 1024

def getState (op : Operation) (out : OperationState) : Rpc (Status × OperationState) :=
  .send .getOperationStatus ({ operationHandle := op.handle } : TOperationReq) fun outcome =>
    tryRpcOrReturn outcome (·, out) fun (resp : TGetOperationStatusResp) =>
      returnNotOk resp.status (·, out)
        (tStatusToStatus resp.status, tOperationStateToOperationState resp.operationState)

def getLog (op : Operation) (out : Bytes) : Rpc (Status × Bytes) :=
  .send .getLog ({ operationHandle := op.handle } : TOperationReq) fun outcome =>
    tryRpcOrReturn outcome (·, out) fun (resp : TGetLogResp) =>
      returnNotOk resp.status (·, out) (tStatusToStatus resp.status, resp.log)

def getProfile (op : Operation) (out : Bytes) : Rpc (Status × Bytes) :=
  .send .getRuntimeProfile
    ({ operationHandle := op.handle, sessionHandle := op.sessionHandle } :
      TGetRuntimeProfileReq) fun outcome =>
    tryRpcOrReturn outcome (·, out) fun (resp : TGetRuntimeProfileResp) =>
      returnNotOk resp.status (·, out) (tStatusToStatus resp.status, resp.profile)

def getResultSetMetadata (op : Operation) (columnDescs : List ColumnDesc) :
    Rpc (Status × List ColumnDesc) :=
  .send .getResultSetMetadata ({ operationHandle := op.handle } : TOperationReq) fun outcome =>
    tryRpcOrReturn outcome (·, columnDescs) fun (resp : TGetResultSetMetadataResp) =>
      returnNotOk resp.status (·, columnDescs)
        (tStatusToStatus resp.status, resp.schema.columns.map tColumnDescToColumnDesc)

/-- The output arguments of `Fetch`; `hasMoreRows` is `none` for a null pointer. -/
structure FetchOut where
  results : Option ColumnarRowSet := none
  hasMoreRows : Option Bool := none

def fetchRows (op : Operation) (maxRows : Int) (orientation : FetchOrientation)
    (out : FetchOut) : Rpc (Status × FetchOut) :=
  .send .fetchResults
    ({ operationHandle := op.handle,
       orientation := fetchOrientationToTFetchOrientation orientation,
       maxRows := maxRows } : TFetchResultsReq) fun outcome =>
    tryRpcOrReturn outcome (·, out) fun (resp : TFetchResultsResp) =>
      returnNotOk resp.status (·, out)
        (tStatusToStatus resp.status,
          { results := some ⟨resp⟩, hasMoreRows := out.hasMoreRows.map fun _ => resp.hasMoreRows })

def fetch (op : Operation) (out : FetchOut) : Rpc (Status × FetchOut) :=
  op.fetchRows defaultMaxRows .next out

def cancel (op : Operation) : Rpc Status :=
  .send .cancelOperation ({ operationHandle := op.handle } : TOperationReq) fun outcome =>
    tryRpcOrReturn outcome id fun (resp : TStatusResp) => tStatusToStatus resp.status

def close (op : Operation) : Rpc (Status × Operation) :=
  if op.open_ then
    .send .closeOperation ({ operationHandle := op.handle } : TOperationReq) fun outcome =>
      tryRpcOrReturn outcome (·, op) fun (resp : TStatusResp) =>
        returnNotOk resp.status (·, op) (tStatusToStatus resp.status, { op with open_ := false })
  else .done (.okStatus, op)

/-- `ExecuteStatementOperation::Open`, on a fresh operation. -/
def openStatement (op : Operation) (sessionHandle : TSessionHandle) (statement : Bytes)
    (config : List (Bytes × Bytes)) : Rpc (Status × Operation) :=
  .send .executeStatement
    ({ sessionHandle := sessionHandle, statement := statement, confOverlay := config } :
      TExecuteStatementReq) fun outcome =>
    tryRpcOrReturn outcome (·, op) fun (resp : TExecuteStatementResp) =>
      returnNotOk resp.status (·, op)
        (tStatusToStatus resp.status,
          { handle := resp.operationHandle, sessionHandle := sessionHandle, open_ := true })

end Operation

structure Session where
  handle : TSessionHandle := {}
  open_ : Bool := false
  deriving DecidableEq

namespace Session

def close (session : Session) : Rpc (Status × Session) :=
  if session.open_ then
    .send .closeSession ({ sessionHandle := session.handle } : TSessionReq) fun outcome =>
      tryRpcOrReturn outcome (·, session) fun (resp : TStatusResp) =>
        returnNotOk resp.status (·, session)
          (tStatusToStatus resp.status, { session with open_ := false })
  else .done (.okStatus, session)

/-- `Session::Open`; the client protocol keeps the default of the request. -/
def openSession (session : Session) (config : List (Bytes × Bytes)) (user : Bytes) :
    Rpc (Status × Session) :=
  .send .openSession ({ username := user, configuration := config } : TOpenSessionReq)
    fun outcome =>
      tryRpcOrReturn outcome (·, session) fun (resp : TOpenSessionResp) =>
        returnNotOk resp.status (·, session)
          (tStatusToStatus resp.status, { handle := resp.sessionHandle, open_ := true })

/-- The new operation is stored before it is opened, so the caller gets it in any case. -/
def executeStatement (session : Session) (statement : Bytes) (confOverlay : List (Bytes × Bytes)) :
    Rpc (Status × Operation) :=
  ({} : Operation).openStatement session.handle statement confOverlay

end Session

end HS2Client
