import HS2Client.Client.Lifecycle

/-!
# Output arguments

The calls of an operation that fill output arguments: what they leave there, whatever was there
before and whatever the server answers.
-/

namespace HS2Client

open Operation

/-- The calls with output arguments; `Fetch` has two overloads. -/
inductive Query where
  | getState
  | getLog
  | getProfile
  | getResultSetMetadata
  | fetch
  | fetchRows (maxRows : Int) (orientation : FetchOrientation)

namespace Query

/-- The contents of the output arguments. -/
@[reducible] def Out : Query → Type
  | .getState => OperationState
  | .getLog | .getProfile => Bytes
  | .getResultSetMetadata => List ColumnDesc
  | .fetch | .fetchRows _ _ => FetchOut

@[reducible] def method : Query → Method
  | .getState => .getOperationStatus
  | .getLog => .getLog
  | .getProfile => .getRuntimeProfile
  | .getResultSetMetadata => .getResultSetMetadata
  | .fetch | .fetchRows _ _ => .fetchResults

def rpc (op : Operation) : (query : Query) → query.Out → Rpc (Status × query.Out)
  | .getState, out => op.getState out
  | .getLog, out => op.getLog out
  | .getProfile, out => op.getProfile out
  | .getResultSetMetadata, out => op.getResultSetMetadata out
  | .fetch, out => op.fetch out
  | .fetchRows maxRows orientation, out => op.fetchRows maxRows orientation out

/-- The call as one of those on the objects of a client. -/
def call : Query → OperationCall
  | .getState => .getState
  | .getLog => .getLog
  | .getProfile => .getProfile
  | .getResultSetMetadata => .getResultSetMetadata
  | .fetch => .fetch defaultMaxRows .next
  | .fetchRows maxRows orientation => .fetch maxRows orientation

def req (op : Operation) : (query : Query) → query.method.Req
  | .getState => ({ operationHandle := op.handle } : TOperationReq)
  | .getLog => ({ operationHandle := op.handle } : TOperationReq)
  | .getProfile => ({ operationHandle := op.handle, sessionHandle := op.sessionHandle } :
      TGetRuntimeProfileReq)
  | .getResultSetMetadata => ({ operationHandle := op.handle } : TOperationReq)
  | .fetch => ({ operationHandle := op.handle,
                 orientation := fetchOrientationToTFetchOrientation .next,
                 maxRows := defaultMaxRows } : TFetchResultsReq)
  | .fetchRows maxRows orientation =>
      ({ operationHandle := op.handle,
         orientation := fetchOrientationToTFetchOrientation orientation,
         maxRows := maxRows } : TFetchResultsReq)

/-- Whether the caller passes a pointer for each output: only `has_more_rows` may be null. -/
def flagGiven : (query : Query) → query.Out → Bool
  | .getState, _ => true
  | .getLog, _ => true
  | .getProfile, _ => true
  | .getResultSetMetadata, _ => true
  | .fetch, (out : FetchOut) => out.hasMoreRows.isSome
  | .fetchRows _ _, (out : FetchOut) => out.hasMoreRows.isSome

def fetched (flagGiven : Bool) (resp : TFetchResultsResp) : FetchOut where
  results := some ⟨resp⟩
  hasMoreRows := if flagGiven then some resp.hasMoreRows else none

/-- The outputs that a reply determines. -/
def written (flagGiven : Bool) : (query : Query) → query.method.Resp → query.Out
  | .getState, (resp : TGetOperationStatusResp) =>
      tOperationStateToOperationState resp.operationState
  | .getLog, (resp : TGetLogResp) => resp.log
  | .getProfile, (resp : TGetRuntimeProfileResp) => resp.profile
  | .getResultSetMetadata, (resp : TGetResultSetMetadataResp) =>
      resp.schema.columns.map tColumnDescToColumnDesc
  | .fetch, resp => fetched flagGiven resp
  | .fetchRows _ _, resp => fetched flagGiven resp

/-- What a call leaves behind: the outputs of its reply if that is a success, and otherwise
nothing. -/
structure LeavesNoTrace (op : Operation) (query : Query) (out : query.Out) (respond : Responder) :
    Prop where
  asks : (query.rpc op out).request? = some ⟨query.method, query.req op⟩
  ok_iff : ((query.rpc op out).run respond).1.ok = true ↔
    ∃ resp, respond query.method (query.req op) = .reply resp ∧
      ((query.method.status resp).statusCode = TStatusCode.successStatus ∨
        (query.method.status resp).statusCode = TStatusCode.successWithInfoStatus)
  succeeded : ∀ resp, respond query.method (query.req op) = .reply resp →
    (query.method.status resp).isSuccess = true →
      (query.rpc op out).run respond = (tStatusToStatus (query.method.status resp),
        query.written (query.flagGiven out) resp)
  failed : ∀ resp, respond query.method (query.req op) = .reply resp →
    (query.method.status resp).isSuccess = false →
      (query.rpc op out).run respond = (tStatusToStatus (query.method.status resp), out)
  raised : ∀ what, respond query.method (query.req op) = .exception what →
    (query.rpc op out).run respond = (.error what, out)
  operation : ((query.call.rpc op).run respond) = (((query.rpc op out).run respond).1, op)

theorem fetched_isSome (out : FetchOut) (resp : TFetchResultsResp) :
    fetched out.hasMoreRows.isSome resp =
      { results := some ⟨resp⟩, hasMoreRows := out.hasMoreRows.map fun _ => resp.hasMoreRows } := by
  rcases out with ⟨results, none | flag⟩ <;> rfl

/-- Every call is the two macros around its request, with the outputs written last. -/
theorem rpc_eq (op : Operation) (query : Query) (out : query.Out) :
    query.rpc op out = .send query.method (query.req op) fun outcome =>
      tryRpcOrReturn outcome (·, out) fun resp =>
        returnNotOk (query.method.status resp) (·, out)
          (tStatusToStatus (query.method.status resp),
            query.written (query.flagGiven out) resp) := by
  cases query with
  | getState => rfl
  | getLog => rfl
  | getProfile => rfl
  | getResultSetMetadata => rfl
  | fetch =>
      simp only [written, flagGiven, fetched_isSome]
      rfl
  | fetchRows maxRows orientation =>
      simp only [written, flagGiven, fetched_isSome]
      rfl

/-- The status does not depend on the outputs. -/
theorem status_eq (op : Operation) (query : Query) (out : query.Out) (respond : Responder) :
    ((query.rpc op out).run respond).1 =
      tryRpcOrReturn (respond query.method (query.req op)) id fun resp =>
        tStatusToStatus (query.method.status resp) := by
  rw [rpc_eq, Rpc.run_send]
  cases respond query.method (query.req op) with
  | exception what => rfl
  | reply resp =>
      simp only [tryRpcOrReturn, returnNotOk_eq]
      split_ifs <;> rfl

theorem exists_rpc_call_eq (op : Operation) (query : Query) :
    ∃ out, query.call.rpc op = (query.rpc op out).map fun result => (result.1, op) := by
  cases query with
  | getState => exact ⟨.unknown, rfl⟩
  | getLog => exact ⟨[], rfl⟩
  | getProfile => exact ⟨[], rfl⟩
  | getResultSetMetadata => exact ⟨[], rfl⟩
  | fetch => exact ⟨({} : FetchOut), rfl⟩
  | fetchRows maxRows orientation => exact ⟨({} : FetchOut), rfl⟩

theorem run_call (op : Operation) (query : Query) (out : query.Out) (respond : Responder) :
    (query.call.rpc op).run respond = (((query.rpc op out).run respond).1, op) := by
  obtain ⟨other, call_eq⟩ := exists_rpc_call_eq op query
  rw [call_eq, Rpc.run_map, status_eq op query other, status_eq op query out]

theorem leavesNoTrace (op : Operation) (query : Query) (out : query.Out) (respond : Responder) :
    query.LeavesNoTrace op out respond := by
  have ran := congrArg (Rpc.run respond) (rpc_eq op query out)
  rw [Rpc.run_send] at ran
  refine ⟨by rw [rpc_eq]; rfl, ?_, ?_, ?_, ?_, run_call op query out respond⟩
  · rw [ran, ok_tryRpc_returnNotOk]
    cases respond query.method (query.req op) with
    | exception what => simp [Outcome.isSuccess]
    | reply resp => simp [Outcome.isSuccess, TStatus.isSuccess]
  · intro resp replied success
    rw [ran, replied, tryRpcOrReturn, returnNotOk_eq, if_pos success]
  · intro resp replied failure
    rw [ran, replied, tryRpcOrReturn, returnNotOk_eq, if_neg (by simp [failure])]
  · intro what raised
    rw [ran, raised, tryRpcOrReturn]

end Query

end HS2Client
