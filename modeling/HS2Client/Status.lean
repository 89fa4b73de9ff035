import HS2Client.Thrift.Wire

/-!
# Status

The client's own status and its two readings of a `TStatus`: the conversion
`TStatusToStatus` and the early return of the macro `RETURN_NOT_OK`.
-/

namespace HS2Client

inductive StatusCode where
  | success
  | stillExecuting
  | error
  | invalidHandle
  deriving DecidableEq, Repr

structure Status where
  code : StatusCode
  msg : Bytes := []
  deriving DecidableEq, Repr

namespace Status

def okStatus (msg : Bytes := []) : Status := ⟨.success, msg⟩

def stillExecuting : Status := ⟨.stillExecuting, []⟩

def error (msg : Bytes) : Status := ⟨.error, msg⟩

def invalidHandle : Status := ⟨.invalidHandle, []⟩

def ok (status : Status) : Bool := status.code = .success

@[simp] theorem ok_okStatus (msg : Bytes) : (okStatus msg).ok = true := rfl
@[simp] theorem ok_stillExecuting : stillExecuting.ok = false := rfl
@[simp] theorem ok_error (msg : Bytes) : (error msg).ok = false := rfl
@[simp] theorem ok_invalidHandle : invalidHandle.ok = false := rfl

end Status

/-- The comma-separated info messages. -/
def joinMessages (messages : List Bytes) : Bytes :=
  (messages.intersperse (ascii ",")).flatten

def tStatusToStatus (tstatus : TStatus) : Status :=
  if tstatus.statusCode = TStatusCode.successStatus then .okStatus
  else if tstatus.statusCode = TStatusCode.successWithInfoStatus then
    .okStatus (joinMessages tstatus.infoMessages)
  else if tstatus.statusCode = TStatusCode.stillExecutingStatus then .stillExecuting
  else if tstatus.statusCode = TStatusCode.errorStatus then .error tstatus.errorMessage
  else if tstatus.statusCode = TStatusCode.invalidHandleStatus then .invalidHandle
  else .error (ascii ("Unknown TStatusCode " ++ toString tstatus.statusCode))

/-- The status codes that let a call go on. -/
def TStatus.isSuccess (tstatus : TStatus) : Bool :=
  tstatus.statusCode = TStatusCode.successStatus ∨
    tstatus.statusCode = TStatusCode.successWithInfoStatus

/-- `RETURN_NOT_OK`: leave with the converted status, or go on. -/
def returnNotOk {Result : Type} (tstatus : TStatus) (leave : Status → Result)
    (goOn : Result) : Result :=
  if tstatus.statusCode ≠ TStatusCode.successStatus ∧
      tstatus.statusCode ≠ TStatusCode.successWithInfoStatus then
    leave (tStatusToStatus tstatus)
  else goOn

theorem returnNotOk_eq {Result : Type} (tstatus : TStatus) (leave : Status → Result)
    (goOn : Result) :
    returnNotOk tstatus leave goOn =
      if tstatus.isSuccess then goOn else leave (tStatusToStatus tstatus) := by
  by_cases success : tstatus.isSuccess = true
  · have code := success
    simp only [TStatus.isSuccess, decide_eq_true_eq] at code
    rw [returnNotOk, if_neg (by tauto), if_pos success]
  · have code := success
    simp only [TStatus.isSuccess, decide_eq_true_eq, not_or] at code
    rw [returnNotOk, if_pos code, if_neg success]

/-- Both readings of a wire status agree on what success is. -/
@[simp] theorem ok_tStatusToStatus (tstatus : TStatus) :
    (tStatusToStatus tstatus).ok = tstatus.isSuccess := by
  unfold tStatusToStatus TStatus.isSuccess
  split_ifs <;> simp_all

end HS2Client
