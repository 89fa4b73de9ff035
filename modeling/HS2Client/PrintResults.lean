import HS2Client.Client.Operation

/-!
# Printing result sets

`Util::PrintResults`. The loops index the vectors `column_descs` and `columns` with the same
integer. Following a null pointer, a wrong downcast and an access outside a vector are
undefined behaviour and modelled by `none`. Sizes are below 2^31, as all sizes in Thrift are,
so that the subtraction for the padding does not wrap.
-/

namespace HS2Client

def nullSymbol : Bytes := ascii "NULL"

def trueSymbol : Bytes := ascii "true"

def falseSymbol : Bytes := ascii "false"

/-- A `Column*`, which knows the class it was created with. -/
structure AnyColumn where
  cls : ColumnClass
  column : TypedColumn cls.Value

namespace AnyColumn

def length (any : AnyColumn) : Nat := any.column.length

def isNull (any : AnyColumn) (i : Nat) : Option Bool := any.column.isNull i

/-- `((T*)column)->data()[i]` -/
def data? (any : AnyColumn) (cls : ColumnClass) (i : Nat) : Option cls.Value :=
  if same : any.cls = cls then (same ▸ any.column.data)[i]? else none

end AnyColumn

/-- `source` is the index of the result-set column that the object was created for; no
function reads it. -/
structure PrintInfo where
  source : Nat
  column : AnyColumn
  maxSize : Nat

def addTableBreak (columns : List PrintInfo) : Bytes :=
  (columns.flatMap fun info => ascii "+" ++ List.replicate (info.maxSize + 2) 45) ++ ascii "+\n"

/-! ## Widths -/

def numSpacesNat (n : Nat) : Nat :=
  if n < 10 then 1 else 1 + numSpacesNat (n / 10)

/-- `NumSpaces`; negating the least integer overflows. -/
def numSpaces (n : Int64) : Option Nat :=
  if n < 0 then
    if n = Int64.minValue then none else some (1 + numSpacesNat (-n).toInt.toNat)
  else some (numSpacesNat n.toInt.toNat)

section Widths

variable {Value : Type}

/-- A loop over the rows of a column that keeps the largest size. -/
def maxSizeLoop (sizeOf : Value → Option Nat) (nulls : Bytes) :
    Nat → List Value → Nat → Option Nat
  | _, [], maxSize => some maxSize
  | i, value :: values, maxSize => do
      let isNull ← ({ nulls := nulls, data := [value] } : TypedColumn Value).isNull i
      let size ← if isNull then some nullSymbol.length else sizeOf value
      maxSizeLoop sizeOf nulls (i + 1) values (max maxSize size)

def getIntMaxSize (toInt64 : Value → Int64) (column : TypedColumn Value) (columnName : Bytes) :
    Option Nat :=
  maxSizeLoop (fun value => numSpaces (toInt64 value)) column.nulls 0 column.data
    columnName.length

def getStringMaxSize (column : TypedColumn Bytes) (columnName : Bytes) : Option Nat :=
  maxSizeLoop (fun value => some value.length) column.nulls 0 column.data columnName.length

/-- Whether the column prints a `false`; the loop stops at the first one. -/
def hasFalse (nulls : Bytes) : Nat → List Bool → Option Bool
  | _, [] => some false
  | j, value :: values => do
      let isNull ← ({ nulls := nulls, data := [value] } : TypedColumn Bool).isNull j
      if !isNull && !value then some true else hasFalse nulls (j + 1) values

def getBoolMaxSize (column : TypedColumn Bool) (columnName : Bytes) : Option Nat :=
  (hasFalse column.nulls 0 column.data).map fun found =>
    let maxSize := max columnName.length trueSymbol.length
    if found then max maxSize falseSymbol.length else maxSize

end Widths

/-! ## Collecting the columns -/

/-- `columns.emplace_back(results->GetCol(i), max_size)` -/
def emplaceColumn (results : ColumnarRowSet) (i : Nat) (cls : ColumnClass)
    (maxSize : TypedColumn cls.Value → Option Nat) : Option PrintInfo := do
  let column ← results.getCol cls i
  let size ← maxSize column
  return { source := i, column := ⟨cls, column⟩, maxSize := size }

/-- The switch over the type: a column to collect, or nothing for a type without a case. -/
def collectColumn (results : ColumnarRowSet) (i : Nat) (columnName : Bytes) :
    TypeId → Option (Option PrintInfo)
  | .boolean => some (emplaceColumn results i .bool (getBoolMaxSize · columnName))
  | .tinyint => some (emplaceColumn results i .byte (getIntMaxSize Int8.toInt64 · columnName))
  | .smallint => some (emplaceColumn results i .int16 (getIntMaxSize Int16.toInt64 · columnName))
  | .int => some (emplaceColumn results i .int32 (getIntMaxSize Int32.toInt64 · columnName))
  | .bigint => some (emplaceColumn results i .int64 (getIntMaxSize id · columnName))
  | .string => some (emplaceColumn results i .string (getStringMaxSize · columnName))
  | .binary => some (emplaceColumn results i .binary fun _ => some columnName.length)
  | _ => none

/-- The loop over `column_descs`: what it writes and the columns it collects. -/
def collectColumns (results : ColumnarRowSet) :
    Nat → List ColumnDesc → Option (Bytes × List PrintInfo)
  | _, [] => some ([], [])
  | i, desc :: descs =>
      match collectColumn results i desc.columnName desc.type.typeId with
      | none => do
          let (out, columns) ← collectColumns results (i + 1) descs
          return (ascii "Unrecognized ColumnType = " ++ desc.type.toBytes ++ out, columns)
      | some collected => do
          let info ← collected
          let (out, columns) ← collectColumns results (i + 1) descs
          return (out, info :: columns)

/-! ## The table -/

/-- `| text `, padded to the width of the column. -/
def padded (maxSize : Nat) (text : Bytes) : Bytes :=
  ascii "| " ++ text ++ ascii " " ++ List.replicate (maxSize - text.length) 32

def decimal (n : Int) : Bytes := ascii (toString n)

/-- The cell at row `i` of a column that is printed with the type of `desc`. -/
def cellText (desc : ColumnDesc) (info : PrintInfo) (i : Nat) : Option Bytes := do
  let isNull ← info.column.isNull i
  if isNull then return nullSymbol
  match desc.type.typeId with
  | .boolean => (info.column.data? .bool i).map fun b => if b then trueSymbol else falseSymbol
  | .tinyint => (info.column.data? .byte i).map fun value => decimal value.toInt
  | .smallint => (info.column.data? .int16 i).map fun value => decimal value.toInt
  | .int => (info.column.data? .int32 i).map fun value => decimal value.toInt
  | .bigint => (info.column.data? .int64 i).map fun value => decimal value.toInt
  | .string => info.column.data? .string i
  | .binary => info.column.data? .binary i
  | _ => some (ascii "unrecognized type")

/-- `column_descs[j]` beside `columns[j]`. -/
def pairColumns (descs : List ColumnDesc) (columns : List PrintInfo) :
    Option (List (ColumnDesc × PrintInfo)) :=
  columns.zipIdx.mapM fun (info, j) => descs[j]?.map (·, info)

def headerLine (pairs : List (ColumnDesc × PrintInfo)) : Bytes :=
  (pairs.flatMap fun (desc, info) => padded info.maxSize desc.columnName) ++ ascii "|\n"

def rowLine (pairs : List (ColumnDesc × PrintInfo)) (i : Nat) : Option Bytes := do
  let cells ← pairs.mapM fun (desc, info) => (cellText desc info i).map (padded info.maxSize)
  return cells.flatten ++ ascii "|\n"

/-- One turn of the loop, after a fetch and a metadata call that succeeded. -/
def printTable (results : ColumnarRowSet) (descs : List ColumnDesc) : Option Bytes := do
  let (out, columns) ← collectColumns results 0 descs
  let pairs ← pairColumns descs columns
  let first ← columns[0]?
  let rows ← (List.range first.column.length).mapM (rowLine pairs)
  return out ++ addTableBreak columns ++ headerLine pairs ++ addTableBreak columns ++
    rows.flatten ++ addTableBreak columns

/-- How `PrintResults` ends. -/
inductive Printed where
  | finished (out : Bytes)
  | undefined (out : Bytes)
  | waiting (out : Bytes)
  deriving DecidableEq

/-- The outcomes of the calls of one turn; the second call is only made after a successful
first one. -/
structure TurnOutcomes where
  fetch : Outcome .fetchResults
  metadata : Outcome .getResultSetMetadata

def TurnOutcomes.respond (outcomes : TurnOutcomes) : Responder
  | .fetchResults, _ => outcomes.fetch
  | .getResultSetMetadata, _ => outcomes.metadata
  | _, _ => .exception []

/-- `while (has_more_rows)` -/
def printLoop (op : Operation) (out : Bytes) : Bool → List TurnOutcomes → Printed
  | false, _ => .finished out
  | true, [] => .waiting out
  | true, outcomes :: rest =>
      let (status, fetched) := (op.fetch { hasMoreRows := some true }).run outcomes.respond
      if status.ok then
        let (status, descs) := (op.getResultSetMetadata []).run outcomes.respond
        if status.ok then
          if descs.length = 0 then .finished (out ++ ascii "No result set to print.\n")
          else
            match fetched.results.bind (printTable · descs) with
            | none => .undefined out
            | some table => printLoop op (out ++ table) (fetched.hasMoreRows.getD true) rest
        else .finished (out ++ status.msg)
      else .finished (out ++ status.msg)

def printResults (op : Operation) (outcomes : List TurnOutcomes) : Printed :=
  printLoop op [] true outcomes

end HS2Client
