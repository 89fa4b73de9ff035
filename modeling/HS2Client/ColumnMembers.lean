import HS2Client.PrintedColumns
import HS2Client.Python.Converters

/-!
# Members of a column on the wire

`TCLIService.thrift` says which member of a `TColumn` carries the values of a type. A column
object reads the member of its class, and BINARY shares its class with STRING.
-/

namespace HS2Client

open Py

inductive WireMember where
  | boolVal
  | byteVal
  | i16Val
  | i32Val
  | i64Val
  | doubleVal
  | stringVal
  | binaryVal
  deriving DecidableEq, Repr

namespace WireMember

/-- The class of the columns with the member's element type. -/
@[reducible] def cls : WireMember → ColumnClass
  | .boolVal => .bool
  | .byteVal => .byte
  | .i16Val => .int16
  | .i32Val => .int32
  | .i64Val => .int64
  | .doubleVal => .double
  | .stringVal => .string
  | .binaryVal => .binary

def get : (member : WireMember) → TColumn → TValues member.cls.Value
  | .boolVal => TColumn.boolVal
  | .byteVal => TColumn.byteVal
  | .i16Val => TColumn.i16Val
  | .i32Val => TColumn.i32Val
  | .i64Val => TColumn.i64Val
  | .doubleVal => TColumn.doubleVal
  | .stringVal => TColumn.stringVal
  | .binaryVal => TColumn.binaryVal

/-- A column object over exactly this member. -/
def column (member : WireMember) (tcolumn : TColumn) : AnyColumn :=
  ⟨member.cls, { nulls := (member.get tcolumn).nulls, data := (member.get tcolumn).values }⟩

end WireMember

/-- The member that carries a type, with strings for TIMESTAMP, CHAR and VARCHAR. -/
def wireMember : TypeId → Option WireMember
  | .boolean => some .boolVal
  | .tinyint => some .byteVal
  | .smallint => some .i16Val
  | .int => some .i32Val
  | .bigint => some .i64Val
  | .float | .double => some .doubleVal
  | .binary => some .binaryVal
  | .string | .array | .map | .struct | .union | .decimal => some .stringVal
  | .timestamp | .char | .varchar => some .stringVal
  | .userDefined | .nullType | .date | .invalid => none

/-- A column of `rows` rows that sets one member. -/
structure TColumn.Fills (tcolumn : TColumn) (member : WireMember) (rows : Nat) : Prop where
  length_eq : (member.get tcolumn).values.length = rows
  others : ∀ other, other ≠ member → other.get tcolumn = {}

/-- A row set in which every column sets the member of its type. -/
structure FillsSchema (rowSet : ColumnarRowSet) (schema : List TypeId) (rows : Nat) : Prop where
  length_eq : rowSet.resp.results.columns.length = schema.length
  fills : ∀ (i : Nat) typeId tcolumn, schema[i]? = some typeId →
    rowSet.resp.results.columns[i]? = some tcolumn →
    ∃ member, wireMember typeId = some member ∧ tcolumn.Fills member rows

/-- The column objects for a type: what the switch of `PrintResults` collects, and what the
converter of the type gets from each of its batches. -/
inductive Obtains (rowSet : ColumnarRowSet) (i : Nat) (typeId : TypeId) : AnyColumn → Prop where
  | printed {columnName : Bytes} {info : PrintInfo} :
      collectColumn rowSet i columnName typeId = some (some info) →
      Obtains rowSet i typeId info.column
  | converted {converter : PandasConverter} {batches : List ColumnarRowSet}
      {columns : List (TypedColumn converter.cls.Value)} {k : Nat}
      {column : TypedColumn converter.cls.Value} :
      pandasConverter typeId = some converter →
      getColumns converter.cls batches i = some columns →
      batches[k]? = some rowSet → columns[k]? = some column →
      Obtains rowSet i typeId ⟨converter.cls, column⟩

theorem getCol_of_collectColumn {rowSet : ColumnarRowSet} {i : Nat} {columnName : Bytes}
    {typeId : TypeId} {info : PrintInfo}
    (collected : collectColumn rowSet i columnName typeId = some (some info)) :
    ∃ (cls : ColumnClass) (column : TypedColumn cls.Value), printClass typeId = some cls ∧
      rowSet.getCol cls i = some column ∧ info.column = ⟨cls, column⟩ := by
  cases typeId <;> simp only [collectColumn, Option.some.injEq, reduceCtorEq] at collected <;>
    simp only [emplaceColumn, bind, Option.bind_eq_some_iff] at collected <;>
    obtain ⟨column, obtained, size, _, created⟩ := collected <;> cases created <;>
    exact ⟨_, column, rfl, obtained, rfl⟩

theorem getCol_of_getColumns {cls : ColumnClass} {batches : List ColumnarRowSet} {i : Nat}
    {columns : List (TypedColumn cls.Value)} (obtained : getColumns cls batches i = some columns)
    {k : Nat} {batch : ColumnarRowSet} {column : TypedColumn cls.Value}
    (chosen : batches[k]? = some batch) (stored : columns[k]? = some column) :
    batch.getCol cls i = some column := by
  rw [getColumns] at obtained
  induction batches generalizing columns k with
  | nil => simp at chosen
  | cons first batches ih =>
      rw [List.mapM_cons] at obtained
      simp only [bind, Option.bind_eq_some_iff] at obtained
      obtain ⟨head, read, tail, rest, returned⟩ := obtained
      cases returned
      cases k with
      | zero =>
          cases chosen
          cases stored
          exact read
      | succ k => exact ih rest chosen stored

/-- Every object obtained for a column shows the member that was filled. -/
def ReadsMembers (rowSet : ColumnarRowSet) (schema : List TypeId) (rows : Nat) : Prop :=
  ∀ (i : Nat) typeId tcolumn member, schema[i]? = some typeId →
    rowSet.resp.results.columns[i]? = some tcolumn → wireMember typeId = some member →
    (∃ any, Obtains rowSet i typeId any) ∧
      ∀ any, Obtains rowSet i typeId any → any = member.column tcolumn ∧ any.length = rows

/-- The member that is read in place of the one that was filled. -/
def WireMember.readAs : WireMember → WireMember
  | .binaryVal => .stringVal
  | member => member

theorem Obtains.eq_column {rowSet : ColumnarRowSet} {i : Nat} {typeId : TypeId}
    {any : AnyColumn} (obtains : Obtains rowSet i typeId any) {tcolumn : TColumn}
    (present : rowSet.resp.results.columns[i]? = some tcolumn) {member : WireMember}
    (carries : wireMember typeId = some member) : any = member.readAs.column tcolumn := by
  cases obtains with
  | printed collected =>
      obtain ⟨cls, column, selected, read, shown⟩ := getCol_of_collectColumn collected
      rw [ColumnarRowSet.getCol, present] at read
      cases read
      rw [shown]
      cases typeId <;> simp only [printClass, wireMember, Option.some.injEq, reduceCtorEq]
        at selected carries <;> subst selected <;> subst carries <;> rfl
  | @converted converter batches columns k column selected obtained chosen stored =>
      have read := getCol_of_getColumns obtained chosen stored
      rw [ColumnarRowSet.getCol, present] at read
      cases read
      cases typeId <;> simp only [pandasConverter, wireMember, Option.some.injEq, reduceCtorEq]
        at selected carries <;> subst selected <;> subst carries <;> rfl

theorem exists_obtains {rowSet : ColumnarRowSet} {i : Nat} {tcolumn : TColumn}
    (present : rowSet.resp.results.columns[i]? = some tcolumn) {typeId : TypeId}
    {member : WireMember} (carries : wireMember typeId = some member) :
    ∃ any, Obtains rowSet i typeId any := by
  have selected : ∃ converter, pandasConverter typeId = some converter := by
    cases typeId <;> simp_all [pandasConverter, wireMember]
  obtain ⟨converter, selected⟩ := selected
  have read : rowSet.getCol converter.cls i = some
      { nulls := (converter.cls.member tcolumn).nulls
        data := (converter.cls.member tcolumn).values } := by
    rw [ColumnarRowSet.getCol, present]
    rfl
  have obtained : getColumns converter.cls [rowSet] i = some
      [{ nulls := (converter.cls.member tcolumn).nulls
         data := (converter.cls.member tcolumn).values }] := by
    simp [getColumns, read]
  exact ⟨_, .converted (k := 0) selected obtained rfl rfl⟩

theorem binaryVal_eq_of_readAs {tcolumn : TColumn} {rows : Nat}
    (fills : tcolumn.Fills .binaryVal rows)
    (same : WireMember.stringVal.column tcolumn = WireMember.binaryVal.column tcolumn) :
    tcolumn.binaryVal = {} := by
  have empty : tcolumn.stringVal = {} := fills.others .stringVal (by decide)
  simp only [WireMember.column, WireMember.get, AnyColumn.mk.injEq, heq_eq_eq, true_and,
    TypedColumn.mk.injEq] at same
  rw [empty] at same
  cases values : tcolumn.binaryVal with
  | mk data nulls =>
      rw [values] at same
      obtain ⟨rfl, rfl⟩ := same
      rfl

/-- Every column is read as it was filled exactly when no BINARY column carries anything: a
BINARY column is read from `stringVal`. -/
theorem readsMembers_iff {rowSet : ColumnarRowSet} {schema : List TypeId} {rows : Nat}
    (filled : FillsSchema rowSet schema rows) :
    ReadsMembers rowSet schema rows ↔
      ∀ (i : Nat) tcolumn, schema[i]? = some .binary →
        rowSet.resp.results.columns[i]? = some tcolumn → tcolumn.binaryVal = {} := by
  constructor
  · intro reads i tcolumn typed present
    obtain ⟨member, carries, fills⟩ := filled.fills i .binary tcolumn typed present
    cases carries
    obtain ⟨⟨any, obtains⟩, exposes⟩ := reads i .binary tcolumn .binaryVal typed present rfl
    have read := obtains.eq_column present rfl
    rw [(exposes any obtains).1] at read
    exact binaryVal_eq_of_readAs fills read.symm
  · intro empty i typeId tcolumn member typed present carries
    refine ⟨exists_obtains present carries, fun any obtains => ?_⟩
    obtain ⟨own, carries', fills⟩ := filled.fills i typeId tcolumn typed present
    obtain rfl : own = member := Option.some.inj (carries'.symm.trans carries)
    have exposed : any = own.column tcolumn := by
      rw [obtains.eq_column present carries]
      cases own with
      | binaryVal =>
          have binary : typeId = .binary := by cases typeId <;> simp_all [wireMember]
          subst binary
          have unset : tcolumn.stringVal = {} := fills.others .stringVal (by decide)
          simp [WireMember.readAs, WireMember.column, WireMember.get, unset,
            empty i tcolumn typed present]
      | _ => rfl
    refine ⟨exposed, ?_⟩
    rw [exposed]
    exact fills.length_eq

/-- Two rows of an INT, a STRING and a BOOLEAN column; the second of each but the last is null. -/
def intStringBoolean : ColumnarRowSet :=
  ⟨{ results := { columns :=
      [{ i32Val := ⟨[7, 0], [2]⟩ }, { stringVal := ⟨[ascii "ab", []], [2]⟩ },
        { boolVal := ⟨[true, false], [0]⟩ }] } }⟩

theorem readsMembers_intStringBoolean :
    FillsSchema intStringBoolean [.int, .string, .boolean] 2 ∧
      ReadsMembers intStringBoolean [.int, .string, .boolean] 2 := by
  have filled : FillsSchema intStringBoolean [.int, .string, .boolean] 2 := by
    refine ⟨rfl, fun i typeId tcolumn typed present => ?_⟩
    match i with
    | 0 =>
        cases typed
        cases present
        refine ⟨.i32Val, rfl, rfl, fun other differs => ?_⟩
        cases other <;> first | rfl | exact absurd rfl differs
    | 1 =>
        cases typed
        cases present
        refine ⟨.stringVal, rfl, rfl, fun other differs => ?_⟩
        cases other <;> first | rfl | exact absurd rfl differs
    | 2 =>
        cases typed
        cases present
        refine ⟨.boolVal, rfl, rfl, fun other differs => ?_⟩
        cases other <;> first | rfl | exact absurd rfl differs
    | i + 3 => simp at typed
  refine ⟨filled, (readsMembers_iff filled).mpr ?_⟩
  intro i tcolumn typed present
  match i with
  | 0 => cases typed
  | 1 => cases typed
  | 2 => cases typed
  | i + 3 => simp at typed

/-- The objects obtained for a BINARY column of one row have no rows. -/
theorem not_readsMembers_binary_row :
    FillsSchema ⟨{ results := { columns := [{ binaryVal := ⟨[[1]], [0]⟩ }] } }⟩ [.binary] 1 ∧
      ¬ ReadsMembers ⟨{ results := { columns := [{ binaryVal := ⟨[[1]], [0]⟩ }] } }⟩
        [.binary] 1 := by
  constructor
  · refine ⟨rfl, fun i typeId tcolumn typed present => ?_⟩
    cases i with
    | zero =>
        cases typed
        cases present
        refine ⟨.binaryVal, rfl, rfl, fun other differs => ?_⟩
        cases other <;> first | rfl | exact absurd rfl differs
    | succ i => simp at typed
  · intro reads
    obtain ⟨⟨any, obtains⟩, exposes⟩ := reads 0 .binary _ .binaryVal rfl rfl rfl
    have read := obtains.eq_column rfl rfl
    have length := (exposes any obtains).2
    rw [read] at length
    cases length

end HS2Client
