import HS2Client.Thrift.Wire

/-!
# Column types and descriptions

`ColumnType` has one constructor per class of the hierarchy in `types.h`, so that a
value knows both its type id and its class.
-/

namespace HS2Client

inductive TypeId where
  | boolean
  | tinyint
  | smallint
  | int
  | bigint
  | float
  | double
  | string
  | timestamp
  | binary
  | array
  | map
  | struct
  | union
  | userDefined
  | decimal
  | nullType
  | date
  | varchar
  | char
  | invalid
  deriving DecidableEq, Repr

def typeIdToString : TypeId → Bytes
  | .boolean => ascii "BOOLEAN"
  | .tinyint => ascii "TINYINT"
  | .smallint => ascii "SMALLINT"
  | .int => ascii "INT"
  | .bigint => ascii "BIGINT"
  | .float => ascii "FLOAT"
  | .double => ascii "DOUBLE"
  | .string => ascii "STRING"
  | .timestamp => ascii "TIMESTAMP"
  | .binary => ascii "BINARY"
  | .array => ascii "ARRAY"
  | .map => ascii "MAP"
  | .struct => ascii "STRUCT"
  | .union => ascii "UNION"
  | .userDefined => ascii "USER_DEFINED"
  | .decimal => ascii "DECIMAL"
  | .nullType => ascii "NULL_TYPE"
  | .date => ascii "DATE"
  | .varchar => ascii "VARCHAR"
  | .char => ascii "CHAR"
  | .invalid => ascii "INVALID"

inductive ColumnType where
  | primitive (typeId : TypeId)
  | character (typeId : TypeId) (maxLength : Int)
  | decimal (typeId : TypeId) (precision scale : Int)
  deriving DecidableEq

def ColumnType.typeId : ColumnType → TypeId
  | .primitive typeId => typeId
  | .character typeId _ => typeId
  | .decimal typeId _ _ => typeId

def ColumnType.toBytes (type : ColumnType) : Bytes := typeIdToString type.typeId

structure ColumnDesc where
  columnName : Bytes
  type : ColumnType
  position : Int := 0
  comment : Bytes := []
  deriving DecidableEq

def tTypeIdToTypeId : Int → TypeId
  | 0 => .boolean
  | 1 => .tinyint
  | 2 => .smallint
  | 3 => .int
  | 4 => .bigint
  | 5 => .float
  | 6 => .double
  | 7 => .string
  | 8 => .timestamp
  | 9 => .binary
  | 10 => .array
  | 11 => .map
  | 12 => .struct
  | 13 => .union
  | 14 => .userDefined
  | 15 => .decimal
  | 16 => .nullType
  | 17 => .date
  | 18 => .varchar
  | 19 => .char
  | _ => .invalid

/-- `qualifiers.at(key).i32Value`, or nothing where `at` throws. -/
def qualifier (entry : TPrimitiveTypeEntry) (key : String) : Option Int :=
  (entry.qualifiers.lookup (ascii key)).map TTypeQualifierValue.i32Value

def tTypeDescToColumnType (ttypeDesc : TTypeDesc) : ColumnType :=
  match ttypeDesc.types with
  | [⟨some entry⟩] =>
      let typeId := tTypeIdToTypeId entry.type
      if typeId = .char ∨ typeId = .varchar then
        match qualifier entry "characterMaximumLength" with
        | some maxLength => .character typeId maxLength
        | none => .primitive .invalid
      else if typeId = .decimal then
        match qualifier entry "precision", qualifier entry "scale" with
        | some precision, some scale => .decimal typeId precision scale
        | _, _ => .primitive .invalid
      else .primitive typeId
  | _ => .primitive .invalid

def tColumnDescToColumnDesc (tcolumnDesc : TColumnDesc) : ColumnDesc where
  columnName := tcolumnDesc.columnName
  type := tTypeDescToColumnType tcolumnDesc.typeDesc
  position := tcolumnDesc.position
  comment := tcolumnDesc.comment

end HS2Client
