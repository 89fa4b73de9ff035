import HS2Client.ColumnarRowSet

/-!
# Converting columns to numpy arrays

The converters of `converters.h`. All of them run the same double loop over chunks and
rows, `chunkLoop`, with a step that gets the null bit and the value of the row. An output
array is a `Buffer`: writes go to the next free entry of a fixed capacity, and an array is
only handed out when every entry has been written. Python objects have identities and
reference counts; `calls` numbers the C API calls that may fail.
-/

namespace HS2Client.Py

open FloatingPoint

/-! ## Python objects -/

structure StringObject where
  text : Bytes
  refs : Nat
  deriving DecidableEq

/-- The objects that conversions create or count. A string object is named by its
position in `strings` and is freed when its count reaches zero. -/
structure PyState where
  calls : Nat := 0
  noneRefs : Nat := 0
  trueRefs : Nat := 0
  falseRefs : Nat := 0
  strings : List StringObject := []
  arrays : Nat := 0
  dicts : Nat := 0
  deriving DecidableEq

/-- Which C API calls succeed, and which byte strings make a Python string. -/
structure PyEnv where
  succeeds : Nat → Bool
  validText : Bytes → Bool

inductive ObjRef where
  | none
  | true
  | false
  | string (id : Nat)
  deriving DecidableEq

inductive NumpyArray where
  | int8 (values : List Int8)
  | int16 (values : List Int16)
  | int32 (values : List Int32)
  | int64 (values : List Int64)
  | float32 (values : List Float32)
  | float64 (values : List Double)
  | bool (values : List UInt8)
  | object (slots : List ObjRef)
  deriving DecidableEq

inductive Failure where
  /-- A read or write outside a buffer. -/
  | undefined
  /-- `nullptr`, with an exception set by the Python API. -/
  | apiError
  /-- `nullptr`, with a `NotImplementedError`. -/
  | notImplemented (message : Bytes)
  deriving DecidableEq

namespace PyState

def incref (st : PyState) : ObjRef → PyState
  | .none => { st with noneRefs := st.noneRefs + 1 }
  | .true => { st with trueRefs := st.trueRefs + 1 }
  | .false => { st with falseRefs := st.falseRefs + 1 }
  | .string id =>
      { st with strings := st.strings.modify id fun obj => { obj with refs := obj.refs + 1 } }

def decref (st : PyState) : ObjRef → PyState
  | .none => { st with noneRefs := st.noneRefs - 1 }
  | .true => { st with trueRefs := st.trueRefs - 1 }
  | .false => { st with falseRefs := st.falseRefs - 1 }
  | .string id =>
      { st with strings := st.strings.modify id fun obj => { obj with refs := obj.refs - 1 } }

end PyState

/-- `TRY_NPY_ALLOC`, without the capacity. -/
def tryNpyAlloc (env : PyEnv) (st : PyState) : Bool × PyState :=
  if env.succeeds st.calls then
    (true, { st with calls := st.calls + 1, arrays := st.arrays + 1 })
  else (false, { st with calls := st.calls + 1 })

/-! ## Output arrays and the row loop -/

structure Buffer (Entry : Type) where
  capacity : Nat
  written : List Entry

namespace Buffer

variable {Entry Stop : Type}

def new (capacity : Nat) : Buffer Entry := ⟨capacity, []⟩

/-- `out_values[i++] = entry` -/
def push (out : Buffer Entry) (entry : Entry) (fault : Stop) : Except Stop (Buffer Entry) :=
  if out.written.length < out.capacity then
    .ok { out with written := out.written ++ [entry] }
  else .error fault

def finish (out : Buffer Entry) (array : List Entry → NumpyArray) : Except Failure NumpyArray :=
  if out.written.length = out.capacity then .ok (array out.written) else .error .undefined

end Buffer

section Loops

variable {Value State Stop : Type}

/-- `for (int j = 0; j < col->length(); ++j)` -/
def rowLoop (fault : State → Stop) (step : State → Bool → Value → Except Stop State)
    (nulls : Bytes) : Nat → List Value → State → Except Stop State
  | _, [], state => .ok state
  | j, value :: values, state =>
      match getBit nulls j with
      | none => .error (fault state)
      | some isNull =>
          match step state isNull value with
          | .error stop => .error stop
          | .ok state => rowLoop fault step nulls (j + 1) values state

/-- `for (size_t chunk = 0; chunk < columns.size(); ++chunk)` -/
def chunkLoop (fault : State → Stop) (step : State → Bool → Value → Except Stop State) :
    List (TypedColumn Value) → State → Except Stop State
  | [], state => .ok state
  | col :: columns, state =>
      match rowLoop fault step col.nulls 0 col.data state with
      | .error stop => .error stop
      | .ok state => chunkLoop fault step columns state

def totalLength (columns : List (TypedColumn Value)) : Nat :=
  (columns.map TypedColumn.length).sum

end Loops

/-- `GetColumns<T>` -/
def getColumns (cls : ColumnClass) (batches : List ColumnarRowSet) (colIndex : Nat) :
    Option (List (TypedColumn cls.Value)) :=
  batches.mapM fun batch => batch.getCol cls colIndex

/-! ## The converters -/

/-- Why the optimistic pass stops early. -/
inductive OptimisticStop where
  | undefined
  | haveNull
  deriving DecidableEq

/-- The optimistic pass, common to `ConvertInteger` and `ConvertBoolean`: write until a
null is encountered. -/
def optimisticPass {Value Entry : Type} (entry : Value → Entry)
    (columns : List (TypedColumn Value)) : Except OptimisticStop (Buffer Entry) :=
  chunkLoop (fun _ => .undefined)
    (fun out isNull value =>
      if isNull then .error .haveNull else out.push (entry value) .undefined)
    columns (Buffer.new (totalLength columns))

/-- A pass that writes every row, nulls included. -/
def fillPass {Value Entry : Type} (entry : Bool → Value → Entry)
    (columns : List (TypedColumn Value)) : Except Failure (Buffer Entry) :=
  chunkLoop (fun _ => .undefined)
    (fun out isNull value => out.push (entry isNull value) .undefined)
    columns (Buffer.new (totalLength columns))

/-- `GetBit(nulls, j) ? NAN : col_data[j]`, stored into a double. `NAN` is a float, so the
usual arithmetic conversions make the integer operand a float as well. -/
def nanOrInteger (isNull : Bool) (value : Int) : Double :=
  (if isNull then Datum.nan else binary32.round value : Float32).convert binary64

/-- The template parameters of `ConvertInteger`. -/
structure IntegerKind where
  cls : ColumnClass
  toInt : cls.Value → Int
  array : List cls.Value → NumpyArray

@[reducible] def int8Kind : IntegerKind := ⟨.byte, Int8.toInt, .int8⟩

@[reducible] def int16Kind : IntegerKind := ⟨.int16, Int16.toInt, .int16⟩

@[reducible] def int32Kind : IntegerKind := ⟨.int32, Int32.toInt, .int32⟩

@[reducible] def int64Kind : IntegerKind := ⟨.int64, Int64.toInt, .int64⟩

def convertInteger (env : PyEnv) (kind : IntegerKind)
    (columns : List (TypedColumn kind.cls.Value)) (st : PyState) :
    Except Failure NumpyArray × PyState :=
  match tryNpyAlloc env st with
  | (false, st) => (.error .apiError, st)
  | (true, st) =>
      match optimisticPass id columns with
      | .ok out => (out.finish kind.array, st)
      | .error .undefined => (.error .undefined, st)
      | .error .haveNull =>
          -- There were nulls, delete the array and write doubles instead.
          match tryNpyAlloc env { st with arrays := st.arrays - 1 } with
          | (false, st) => (.error .apiError, st)
          | (true, st) =>
              match fillPass (fun isNull value => nanOrInteger isNull (kind.toInt value))
                  columns with
              | .error failure => (.error failure, st)
              | .ok out => (out.finish .float64, st)

/-- The object path of `ConvertBoolean` takes a reference for every entry. -/
def booleanStep (state : Buffer ObjRef × PyState) (isNull value : Bool) :
    Except (Failure × PyState) (Buffer ObjRef × PyState) :=
  let object := if isNull then ObjRef.none else if value then .true else .false
  match state.1.push object (Failure.undefined, state.2.incref object) with
  | .error stop => .error stop
  | .ok out => .ok (out, state.2.incref object)

def convertBoolean (env : PyEnv) (columns : List (TypedColumn Bool)) (st : PyState) :
    Except Failure NumpyArray × PyState :=
  match tryNpyAlloc env st with
  | (false, st) => (.error .apiError, st)
  | (true, st) =>
      match optimisticPass Bool.toUInt8 columns with
      | .ok out => (out.finish .bool, st)
      | .error .undefined => (.error .undefined, st)
      | .error .haveNull =>
          match tryNpyAlloc env { st with arrays := st.arrays - 1 } with
          | (false, st) => (.error .apiError, st)
          | (true, st) =>
              match chunkLoop (fun state => (.undefined, state.2)) booleanStep columns
                  (Buffer.new (totalLength columns), st) with
              | .error (failure, st) => (.error failure, st)
              | .ok (out, st) => (out.finish .object, st)

/-- `PyDict_GetItem`: the interned string object with this text. The keys of the table are
the objects themselves, and every key is its own value. -/
def internTableGet (st : PyState) (table : List Nat) (text : Bytes) : Option Nat :=
  table.find? fun id => (st.strings[id]?.map StringObject.text) == some text

/-- The new string object stays behind with its reference where the insertion fails. -/
def makePystring (env : PyEnv) (data : Bytes) (table : List Nat) (st : PyState) :
    Option (ObjRef × List Nat) × PyState :=
  if env.succeeds st.calls && env.validText data then
    let str := st.strings.length
    let st := { st with calls := st.calls + 1, strings := st.strings ++ [⟨data, 1⟩] }
    match internTableGet st table data with
    | none =>
        if env.succeeds st.calls then
          -- PyDict_SetItem takes one reference on the key and one on the value.
          let st := ({ st with calls := st.calls + 1 }.incref (.string str)).incref (.string str)
          (some (.string str, table ++ [str]), st)
        else (none, { st with calls := st.calls + 1 })
    | some interned =>
        (some (.string interned, table), (st.decref (.string str)).incref (.string interned))
  else (none, { st with calls := st.calls + 1 })

structure StringLoop where
  out : Buffer ObjRef
  table : List Nat
  st : PyState

def stringStep (env : PyEnv) (state : StringLoop) (isNull : Bool) (value : Bytes) :
    Except (Failure × PyState) StringLoop :=
  if isNull then
    let st := state.st.incref .none
    match state.out.push .none (Failure.undefined, st) with
    | .error stop => .error stop
    | .ok out => .ok { state with out := out, st := st }
  else
    match makePystring env value state.table state.st with
    | (none, st) => .error (.apiError, st)
    | (some (object, table), st) =>
        match state.out.push object (Failure.undefined, st) with
        | .error stop => .error stop
        | .ok out => .ok { out := out, table := table, st := st }

/-- `Py_DECREF(intern_table)` drops the key and the value reference of every entry. -/
def releaseTable (table : List Nat) (st : PyState) : PyState :=
  table.foldl (fun st id => (st.decref (.string id)).decref (.string id))
    { st with dicts := st.dicts - 1 }

def convertString (env : PyEnv) (columns : List (TypedColumn Bytes)) (st : PyState) :
    Except Failure NumpyArray × PyState :=
  match tryNpyAlloc env st with
  | (false, st) => (.error .apiError, st)
  | (true, st) =>
      if env.succeeds st.calls then
        let st := { st with calls := st.calls + 1, dicts := st.dicts + 1 }
        match chunkLoop (fun state => (.undefined, state.st)) (stringStep env) columns
            { out := Buffer.new (totalLength columns), table := [], st := st } with
        | .error (failure, st) => (.error failure, st)
        | .ok state => (state.out.finish .object, releaseTable state.table state.st)
      else (.error .apiError, { st with calls := st.calls + 1 })

/-- `ConvertFloat`: the null value has the output type, and the value is stored through a
conversion to it. -/
def convertFloat {F : Format} (env : PyEnv) (array : List (Datum F) → NumpyArray)
    (columns : List (TypedColumn Double)) (st : PyState) :
    Except Failure NumpyArray × PyState :=
  match tryNpyAlloc env st with
  | (false, st) => (.error .apiError, st)
  | (true, st) =>
      match fillPass (fun isNull value => if isNull then Datum.nan else value.convert F)
          columns with
      | .error failure => (.error failure, st)
      | .ok out => (out.finish array, st)

/-- Which converter `ConvertColumnPandas` calls for a type. -/
inductive PandasConverter where
  | boolean
  | integer (kind : IntegerKind)
  | float
  | double
  | string

def pandasConverter : TypeId → Option PandasConverter
  | .boolean => some .boolean
  | .tinyint => some (.integer int8Kind)
  | .smallint => some (.integer int16Kind)
  | .int => some (.integer int32Kind)
  | .bigint => some (.integer int64Kind)
  | .float => some .float
  | .double => some .double
  | .string | .timestamp => some .string
  | .binary | .array | .map | .struct | .union | .userDefined | .decimal => some .string
  | .nullType | .date => none
  | .varchar | .char => some .string
  | .invalid => none

/-- The column class that the converter asks `GetCol` for. -/
@[reducible] def PandasConverter.cls : PandasConverter → ColumnClass
  | .boolean => .bool
  | .integer kind => kind.cls
  | .float | .double => .double
  | .string => .string

def PandasConverter.convert (env : PyEnv) :
    (converter : PandasConverter) → List (TypedColumn converter.cls.Value) → PyState →
      Except Failure NumpyArray × PyState
  | .boolean => convertBoolean env
  | .integer kind => convertInteger env kind
  | .float => convertFloat (F := binary32) env .float32
  | .double => convertFloat (F := binary64) env .float64
  | .string => convertString env

def convertColumnPandas (env : PyEnv) (batches : List ColumnarRowSet) (colIndex : Nat)
    (type : ColumnType) (st : PyState) : Except Failure NumpyArray × PyState :=
  match pandasConverter type.typeId with
  | none => (.error (.notImplemented type.toBytes), st)
  | some converter =>
      match getColumns converter.cls batches colIndex with
      | none => (.error .undefined, st)
      | some columns => converter.convert env columns st

end HS2Client.Py
