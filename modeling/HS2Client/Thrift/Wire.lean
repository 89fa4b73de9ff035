import HS2Client.Library.FloatingPoint

/-!
# Messages of TCLIService

The part of the HiveServer2 interface that the client reads and writes. Unions are
structures with one member per case, as the generated C++ has them, and an enumeration
that arrives from the server is the `i32` on the wire, which need not be one of the
declared values.
-/

namespace HS2Client

open FloatingPoint

/-- A `std::string`. -/
abbrev Bytes := List UInt8

/-- The bytes of an ASCII literal. -/
def ascii (text : String) : Bytes := text.toList.map fun c => UInt8.ofNat c.toNat

abbrev Double := Datum binary64

abbrev Float32 := Datum binary32

structure THandleIdentifier where
  guid : Bytes := []
  secret : Bytes := []
  deriving DecidableEq, Repr, Inhabited

structure TSessionHandle where
  sessionId : THandleIdentifier := {}
  deriving DecidableEq, Repr, Inhabited

structure TOperationHandle where
  operationId : THandleIdentifier := {}
  operationType : Int := 0
  hasResultSet : Bool := false
  deriving DecidableEq, Repr, Inhabited

/-! ## Status -/

namespace TStatusCode

def successStatus : Int := 0
def successWithInfoStatus : Int := 1
def stillExecutingStatus : Int := 2
def errorStatus : Int := 3
def invalidHandleStatus : Int := 4

end TStatusCode

structure TStatus where
  statusCode : Int := 0
  infoMessages : List Bytes := []
  errorMessage : Bytes := []
  deriving DecidableEq, Repr, Inhabited

/-! ## Result sets -/

/-- `TBoolColumn`, `TByteColumn`, …: values and a null bitmap. -/
structure TValues (Value : Type) where
  values : List Value := []
  nulls : Bytes := []
  deriving DecidableEq

structure TColumn where
  boolVal : TValues Bool := {}
  byteVal : TValues Int8 := {}
  i16Val : TValues Int16 := {}
  i32Val : TValues Int32 := {}
  i64Val : TValues Int64 := {}
  doubleVal : TValues Double := {}
  stringVal : TValues Bytes := {}
  binaryVal : TValues Bytes := {}
  deriving DecidableEq

structure TRowSet where
  columns : List TColumn := []
  deriving DecidableEq

/-! ## Schemas -/

structure TTypeQualifierValue where
  i32Value : Int := 0
  stringValue : Bytes := []
  deriving DecidableEq

structure TPrimitiveTypeEntry where
  type : Int := 0
  qualifiers : List (Bytes × TTypeQualifierValue) := []
  deriving DecidableEq

/-- Of the cases of the union only `primitiveEntry` is ever read. -/
structure TTypeEntry where
  primitiveEntry : Option TPrimitiveTypeEntry := none
  deriving DecidableEq

structure TTypeDesc where
  types : List TTypeEntry := []
  deriving DecidableEq

structure TColumnDesc where
  columnName : Bytes := []
  typeDesc : TTypeDesc := {}
  position : Int := 0
  comment : Bytes := []
  deriving DecidableEq

structure TTableSchema where
  columns : List TColumnDesc := []
  deriving DecidableEq

/-! ## Requests and responses -/

namespace TProtocolVersion

def v6 : Int := 5

end TProtocolVersion

structure TOpenSessionReq where
  clientProtocol : Int := TProtocolVersion.v6
  username : Bytes := []
  configuration : List (Bytes × Bytes) := []
  deriving DecidableEq

structure TOpenSessionResp where
  status : TStatus := {}
  serverProtocolVersion : Int := TProtocolVersion.v6
  sessionHandle : TSessionHandle := {}
  deriving DecidableEq

/-- A request that carries nothing but the handle of a session. -/
structure TSessionReq where
  sessionHandle : TSessionHandle := {}
  deriving DecidableEq

/-- A request that carries nothing but the handle of an operation. -/
structure TOperationReq where
  operationHandle : TOperationHandle := {}
  deriving DecidableEq

/-- A response that carries nothing but a status. -/
structure TStatusResp where
  status : TStatus := {}
  deriving DecidableEq

structure TExecuteStatementReq where
  sessionHandle : TSessionHandle := {}
  statement : Bytes := []
  confOverlay : List (Bytes × Bytes) := []
  runAsync : Bool := false
  deriving DecidableEq

structure TExecuteStatementResp where
  status : TStatus := {}
  operationHandle : TOperationHandle := {}
  deriving DecidableEq

structure TGetOperationStatusResp where
  status : TStatus := {}
  operationState : Int := 0
  deriving DecidableEq

structure TGetLogResp where
  status : TStatus := {}
  log : Bytes := []
  deriving DecidableEq

structure TGetRuntimeProfileReq where
  operationHandle : TOperationHandle := {}
  sessionHandle : TSessionHandle := {}
  deriving DecidableEq

structure TGetRuntimeProfileResp where
  status : TStatus := {}
  profile : Bytes := []
  deriving DecidableEq

structure TGetResultSetMetadataResp where
  status : TStatus := {}
  schema : TTableSchema := {}
  deriving DecidableEq

structure TFetchResultsReq where
  operationHandle : TOperationHandle := {}
  orientation : Int := 0
  maxRows : Int := 0
  deriving DecidableEq

structure TFetchResultsResp where
  status : TStatus := {}
  hasMoreRows : Bool := false
  results : TRowSet := {}
  deriving DecidableEq

/-- The calls of the service that the client makes. -/
inductive Method where
  | openSession
  | closeSession
  | executeStatement
  | getOperationStatus
  | getLog
  | getRuntimeProfile
  | getResultSetMetadata
  | fetchResults
  | cancelOperation
  | closeOperation
  deriving DecidableEq, Repr

namespace Method

@[reducible] def Req : Method → Type
  | .openSession => TOpenSessionReq
  | .closeSession => TSessionReq
  | .executeStatement => TExecuteStatementReq
  | .getRuntimeProfile => TGetRuntimeProfileReq
  | .fetchResults => TFetchResultsReq
  | .getOperationStatus | .getLog | .getResultSetMetadata | .cancelOperation
  | .closeOperation => TOperationReq

@[reducible] def Resp : Method → Type
  | .openSession => TOpenSessionResp
  | .executeStatement => TExecuteStatementResp
  | .getOperationStatus => TGetOperationStatusResp
  | .getLog => TGetLogResp
  | .getRuntimeProfile => TGetRuntimeProfileResp
  | .getResultSetMetadata => TGetResultSetMetadataResp
  | .fetchResults => TFetchResultsResp
  | .closeSession | .cancelOperation | .closeOperation => TStatusResp

/-- Every response carries a status. -/
def status : (method : Method) → method.Resp → TStatus
  | .openSession => TOpenSessionResp.status
  | .executeStatement => TExecuteStatementResp.status
  | .getOperationStatus => TGetOperationStatusResp.status
  | .getLog => TGetLogResp.status
  | .getRuntimeProfile => TGetRuntimeProfileResp.status
  | .getResultSetMetadata => TGetResultSetMetadataResp.status
  | .fetchResults => TFetchResultsResp.status
  | .closeSession | .cancelOperation | .closeOperation => TStatusResp.status

end Method

end HS2Client
