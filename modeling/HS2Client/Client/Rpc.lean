import HS2Client.Status

/-!
# Calls that make at most one RPC

Every method of the client library sends at most one request and computes its result
from the outcome. `Rpc` separates the request from what is done with the outcome, so that
the same methods can run against arbitrary outcomes, a shared connection or a server.
-/

namespace HS2Client

inductive Outcome (method : Method) where
  /-- A `TException` with its `what()`. -/
  | exception (what : Bytes)
  | reply (resp : method.Resp)

def Outcome.isSuccess {method : Method} : Outcome method → Bool
  | .exception _ => false
  | .reply resp => (method.status resp).isSuccess

inductive Rpc (Result : Type) where
  | done (result : Result)
  | send (method : Method) (req : method.Req) (resume : Outcome method → Result)

/-- What answers each request that may be sent. -/
abbrev Responder := (method : Method) → method.Req → Outcome method

/-- A server that answers every request with success. -/
def successResp : (method : Method) → method.Req → method.Resp
  | .openSession, _ => ({} : TOpenSessionResp)
  | .executeStatement, _ => ({} : TExecuteStatementResp)
  | .getOperationStatus, _ => ({} : TGetOperationStatusResp)
  | .getLog, _ => ({} : TGetLogResp)
  | .getRuntimeProfile, _ => ({} : TGetRuntimeProfileResp)
  | .getResultSetMetadata, _ => ({} : TGetResultSetMetadataResp)
  | .fetchResults, _ => ({} : TFetchResultsResp)
  | .closeSession, _ => ({} : TStatusResp)
  | .cancelOperation, _ => ({} : TStatusResp)
  | .closeOperation, _ => ({} : TStatusResp)

/-- A request with its outcome. -/
structure Exchange where
  method : Method
  req : method.Req
  outcome : Outcome method

namespace Rpc

variable {Result Next : Type}

def run (respond : Responder) : Rpc Result → Result
  | .done result => result
  | .send method req resume => resume (respond method req)

/-- The exchange that takes place, if any. -/
def exchange? (respond : Responder) : Rpc Result → Option Exchange
  | .done _ => none
  | .send method req _ => some ⟨method, req, respond method req⟩

def request? : Rpc Result → Option (Σ method : Method, method.Req)
  | .done _ => none
  | .send method req _ => some ⟨method, req⟩

def map (f : Result → Next) : Rpc Result → Rpc Next
  | .done result => .done (f result)
  | .send method req resume => .send method req fun outcome => f (resume outcome)

@[simp] theorem run_done (respond : Responder) (result : Result) :
    (Rpc.done result).run respond = result := rfl

@[simp] theorem run_send (respond : Responder) (method : Method) (req : method.Req)
    (resume : Outcome method → Result) :
    (Rpc.send method req resume).run respond = resume (respond method req) := rfl

@[simp] theorem exchange?_done (respond : Responder) (result : Result) :
    (Rpc.done result).exchange? respond = none := rfl

@[simp] theorem exchange?_send (respond : Responder) (method : Method) (req : method.Req)
    (resume : Outcome method → Result) :
    (Rpc.send method req resume).exchange? respond =
      some ⟨method, req, respond method req⟩ := rfl

@[simp] theorem exchange?_map (respond : Responder) (f : Result → Next) (rpc : Rpc Result) :
    (rpc.map f).exchange? respond = rpc.exchange? respond := by
  cases rpc <;> rfl

@[simp] theorem request?_done (result : Result) : (Rpc.done result).request? = none := rfl

@[simp] theorem request?_send (method : Method) (req : method.Req)
    (resume : Outcome method → Result) :
    (Rpc.send method req resume).request? = some ⟨method, req⟩ := rfl

@[simp] theorem request?_map (f : Result → Next) (rpc : Rpc Result) :
    (rpc.map f).request? = rpc.request? := by
  cases rpc <;> rfl

@[simp] theorem run_map (respond : Responder) (f : Result → Next) (rpc : Rpc Result) :
    (rpc.map f).run respond = f (rpc.run respond) := by
  cases rpc <;> rfl

end Rpc

/-- `TRY_RPC_OR_RETURN`: an exception becomes an error status. -/
def tryRpcOrReturn {method : Method} {Result : Type} (outcome : Outcome method)
    (leave : Status → Result) (goOn : method.Resp → Result) : Result :=
  match outcome with
  | .exception what => leave (.error what)
  | .reply resp => goOn resp

section Checked

variable {method : Method} {Out : Type} (outcome : Outcome method) (out : Out)
  (result : method.Resp → Out)

/-- Both macros in a row: the call is OK exactly when the outcome is a success. -/
theorem ok_tryRpc_returnNotOk :
    (tryRpcOrReturn outcome (·, out) fun resp =>
      returnNotOk (method.status resp) (·, out)
        (tStatusToStatus (method.status resp), result resp)).1.ok = outcome.isSuccess := by
  cases outcome with
  | exception what => rfl
  | reply resp =>
      simp only [tryRpcOrReturn, returnNotOk_eq, Outcome.isSuccess]
      split_ifs with success <;> simp [success]

theorem out_tryRpc_returnNotOk :
    (tryRpcOrReturn outcome (·, out) fun resp =>
      returnNotOk (method.status resp) (·, out)
        (tStatusToStatus (method.status resp), result resp)).2 =
      match outcome with
      | .exception _ => out
      | .reply resp => if (method.status resp).isSuccess then result resp else out := by
  cases outcome with
  | exception what => rfl
  | reply resp =>
      simp only [tryRpcOrReturn, returnNotOk_eq]
      split_ifs <;> rfl

end Checked

end HS2Client
