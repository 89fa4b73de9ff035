import HS2Client.Client.Outputs
import HS2Client.PrintedColumns
import HS2Client.PrintedWidths

/-!
# Printed tables

`PrintResults` measures the columns in one pass and prints the cells in another. For the types
whose cells are measured the two passes agree, so the output consists of aligned tables.
-/

namespace HS2Client

open AlignedTable BitPacking

/-- The types whose cells are measured before they are printed. -/
inductive Measured where
  | boolean
  | tinyint
  | smallint
  | int
  | bigint
  | string
  deriving DecidableEq

namespace Measured

def typeId : Measured → TypeId
  | .boolean => .boolean
  | .tinyint => .tinyint
  | .smallint => .smallint
  | .int => .int
  | .bigint => .bigint
  | .string => .string

@[reducible] def cls : Measured → ColumnClass
  | .boolean => .bool
  | .tinyint => .byte
  | .smallint => .int16
  | .int => .int32
  | .bigint => .int64
  | .string => .string

/-- The text of a value that is not null. -/
def text : (kind : Measured) → kind.cls.Value → Bytes
  | .boolean, value => boolText value
  | .tinyint, (value : Int8) => decimal value.toInt
  | .smallint, (value : Int16) => decimal value.toInt
  | .int, (value : Int32) => decimal value.toInt
  | .bigint, (value : Int64) => decimal value.toInt
  | .string, value => value

/-- A column of booleans leaves room for `true` even when it has no rows. -/
def minWidth : Measured → Nat
  | .boolean => 4
  | .tinyint | .smallint | .int | .bigint | .string => 0

/-- The width that is computed for a column. -/
def maxSize : (kind : Measured) → TypedColumn kind.cls.Value → Bytes → Option Nat
  | .boolean => getBoolMaxSize
  | .tinyint => getIntMaxSize Int8.toInt64
  | .smallint => getIntMaxSize Int16.toInt64
  | .int => getIntMaxSize Int32.toInt64
  | .bigint => getIntMaxSize id
  | .string => getStringMaxSize

/-- Whether the digits of a value can be counted. -/
def Countable : (kind : Measured) → kind.cls.Value → Prop
  | .bigint, value => value ≠ Int64.minValue
  | _, _ => True

end Measured

/-- The description of a column that is measured. -/
structure MeasuredDesc where
  desc : ColumnDesc
  kind : Measured
  typed : desc.type.typeId = kind.typeId

namespace MeasuredDesc

variable (measured : MeasuredDesc)

/-- The member of the wire column that is printed. -/
def values (column : TColumn) : TValues measured.kind.cls.Value :=
  measured.kind.cls.member column

/-- What a column of a batch is to look like. -/
def tableColumn (column : TColumn) : Column UInt8 where
  name := measured.desc.columnName
  cells := cellTexts measured.kind.text (measured.values column).nulls 0
    (measured.values column).values
  minWidth := measured.kind.minWidth

/-- The column has so many rows, a bit for each of them and no number that cannot be negated. -/
structure Filled (rows : Nat) (column : TColumn) : Prop where
  length : (measured.values column).values.length = rows
  nulls : rows ≤ 8 * (measured.values column).nulls.length
  countable : ∀ entry ∈ (measured.values column).values.zipIdx,
    bit? (measured.values column).nulls entry.2 ≠ some true → measured.kind.Countable entry.1

end MeasuredDesc

/-- The columns of a batch, as they are to be printed. -/
def tableColumns (schema : List MeasuredDesc) (results : TRowSet) : List (Column UInt8) :=
  List.zipWith MeasuredDesc.tableColumn schema results.columns

/-- A batch has a column for each of the schema, all with the same number of rows. -/
structure FitsSchema (schema : List MeasuredDesc) (rows : Nat) (results : TRowSet) : Prop where
  wide : schema.length ≤ results.columns.length
  filled : ∀ pair ∈ schema.zip results.columns, pair.1.Filled rows pair.2

def glyphs : Glyphs UInt8 where
  corner := 43
  line := 45
  bar := 124
  space := 32
  newline := 10

/-- All columns of a batch have the rows of its first one. -/
def batchRows (schema : List MeasuredDesc) (results : TRowSet) : Nat :=
  (tableColumns schema results).head?.elim 0 fun column => column.cells.length

def batchTable (schema : List MeasuredDesc) (results : TRowSet) : Bytes :=
  render glyphs (tableColumns schema results) (batchRows schema results)

/-! ## One column -/

namespace Measured

theorem maxSize_eq (kind : Measured) (column : TypedColumn kind.cls.Value) (columnName : Bytes)
    (covered : column.length ≤ 8 * column.nulls.length)
    (countable : ∀ entry ∈ column.data.zipIdx, bit? column.nulls entry.2 ≠ some true →
      kind.Countable entry.1) :
    kind.maxSize column columnName =
      some (largest (max columnName.length kind.minWidth)
        ((cellTexts kind.text column.nulls 0 column.data).map List.length)) := by
  cases kind with
  | boolean => exact getBoolMaxSize_eq column columnName covered
  | tinyint =>
      rw [minWidth, Nat.max_zero]
      exact getIntMaxSize_eq Int8.toInt_toInt64 column columnName covered fun entry _ _ =>
        Int8.toInt64_ne_minValue entry.1
  | smallint =>
      rw [minWidth, Nat.max_zero]
      exact getIntMaxSize_eq Int16.toInt_toInt64 column columnName covered fun entry _ _ =>
        Int16.toInt64_ne_minValue entry.1
  | int =>
      rw [minWidth, Nat.max_zero]
      exact getIntMaxSize_eq Int32.toInt_toInt64 column columnName covered fun entry _ _ =>
        Int32.toInt64_ne_minValue entry.1
  | bigint =>
      rw [minWidth, Nat.max_zero]
      exact getIntMaxSize_eq (fun _ => rfl) column columnName covered countable
  | string =>
      rw [minWidth, Nat.max_zero]
      exact getStringMaxSize_eq column columnName covered

/-- The second switch prints the value of the class that the first one has chosen. -/
theorem cellText_eq (kind : Measured) {desc : ColumnDesc} (typed : desc.type.typeId = kind.typeId)
    (source maxSize : Nat) (column : TypedColumn kind.cls.Value) {i : Nat}
    (inside : i < column.data.length) (covered : i < 8 * column.nulls.length) :
    cellText desc { source := source, column := ⟨kind.cls, column⟩, maxSize := maxSize } i =
      some (if bit? column.nulls i = some true then nullSymbol
        else kind.text column.data[i]) := by
  have flag : (AnyColumn.mk kind.cls column).isNull i =
      some (decide (bit? column.nulls i = some true)) := column.isNull_of_lt covered
  unfold cellText
  rw [flag, typed]
  by_cases null : bit? column.nulls i = some true
  · simp [null]
  · cases kind <;> simp [null, typeId, AnyColumn.data?, inside] <;> rfl

end Measured

/-- A collected column is measured and printed as a column of the table. -/
structure Shows (pair : ColumnDesc × PrintInfo) (column : Column UInt8) : Prop where
  name : pair.1.columnName = column.name
  maxSize : pair.2.maxSize = column.width
  length : pair.2.column.length = column.cells.length
  cell : ∀ i < column.cells.length, cellText pair.1 pair.2 i = some (column.cells.getD i [])

theorem MeasuredDesc.collectColumn_eq (measured : MeasuredDesc) (results : ColumnarRowSet)
    (i : Nat) :
    collectColumn results i measured.desc.columnName measured.desc.type.typeId =
      some (emplaceColumn results i measured.kind.cls
        (measured.kind.maxSize · measured.desc.columnName)) := by
  rw [measured.typed]
  cases measured.kind <;> rfl

theorem MeasuredDesc.Filled.shows {measured : MeasuredDesc} {rows : Nat} {column : TColumn}
    (filled : measured.Filled rows column) {results : ColumnarRowSet} {i : Nat}
    (present : results.resp.results.columns[i]? = some column) :
    ∃ info, emplaceColumn results i measured.kind.cls
        (measured.kind.maxSize · measured.desc.columnName) = some info ∧
      Shows (measured.desc, info) (measured.tableColumn column) := by
  have covered : (measured.values column).values.length ≤
      8 * (measured.values column).nulls.length := filled.length.trans_le filled.nulls
  have size := measured.kind.maxSize_eq
    ⟨(measured.values column).nulls, (measured.values column).values⟩ measured.desc.columnName
    covered filled.countable
  refine ⟨⟨i, ⟨_, (measured.values column).nulls, (measured.values column).values⟩,
    (measured.tableColumn column).width⟩, ?_, rfl, rfl, ?_, ?_⟩
  · rw [emplaceColumn, ColumnarRowSet.getCol, present]
    simp only [Option.map_some, bind, Option.bind_some]
    exact congrArg (Option.bind · _) size
  · exact (length_cellTexts ..).symm
  · intro row inside
    have bounded : row < (measured.values column).values.length := by
      simpa [tableColumn] using inside
    rw [measured.kind.cellText_eq measured.typed _ _ _ bounded (bounded.trans_le covered),
      tableColumn, cellTexts]
    simp [bounded]

theorem collectColumns_eq {results : ColumnarRowSet} {rows : Nat} {schema : List MeasuredDesc}
    {before columns : List TColumn}
    (split : results.resp.results.columns = before ++ columns)
    (wide : schema.length ≤ columns.length)
    (filled : ∀ pair ∈ schema.zip columns, pair.1.Filled rows pair.2) :
    ∃ pairs, collectColumns results before.length (schema.map MeasuredDesc.desc) =
        some ([], pairs.map Prod.snd) ∧
      pairs.map Prod.fst = schema.map MeasuredDesc.desc ∧
      List.Forall₂ Shows pairs (List.zipWith MeasuredDesc.tableColumn schema columns) := by
  induction schema generalizing before columns with
  | nil => exact ⟨[], rfl, rfl, .nil⟩
  | cons measured schema ih =>
      cases columns with
      | nil => cases wide
      | cons column columns =>
          obtain ⟨info, emplaced, shows⟩ := (filled (measured, column) List.mem_cons_self).shows
            (show results.resp.results.columns[before.length]? = some column by simp [split])
          have resplit : results.resp.results.columns = (before ++ [column]) ++ columns := by
            simpa using split
          obtain ⟨pairs, collected, descs, others⟩ := ih resplit (Nat.le_of_succ_le_succ wide)
            fun pair member => filled pair (List.mem_cons_of_mem _ member)
          rw [List.length_append, List.length_singleton] at collected
          refine ⟨(measured.desc, info) :: pairs, ?_, congrArg _ descs, .cons shows others⟩
          rw [List.map_cons, collectColumns, measured.collectColumn_eq, emplaced, collected]
          rfl

/-- Without a skipped column each object stands beside its own description. -/
theorem pairColumns_unzip (pairs : List (ColumnDesc × PrintInfo)) :
    pairColumns (pairs.map Prod.fst) (pairs.map Prod.snd) = some pairs := by
  rw [pairColumns_eq_zip (by simp), List.zip_map', List.map_id']

/-! ## One table -/

theorem mapM_eq_map_of_forall₂ {Source Target Result : Type} {related : Source → Target → Prop}
    {sources : List Source} {targets : List Target} (all : List.Forall₂ related sources targets)
    {partly : Source → Option Result} {total : Target → Result}
    (same : ∀ source, ∀ target ∈ targets, related source target →
      partly source = some (total target)) :
    sources.mapM partly = some (targets.map total) := by
  induction all with
  | nil => rfl
  | cons first _ ih =>
      rw [List.mapM_cons, same _ _ List.mem_cons_self first,
        ih fun source target member => same source target (List.mem_cons_of_mem _ member)]
      rfl

section Table

variable {pairs : List (ColumnDesc × PrintInfo)} {columns : List (Column UInt8)}
  (shows : List.Forall₂ Shows pairs columns)

include shows

theorem flatMap_of_shows {printed : ColumnDesc × PrintInfo → Bytes} {drawn : Column UInt8 → Bytes}
    (same : ∀ pair column, Shows pair column → printed pair = drawn column) :
    pairs.flatMap printed = columns.flatMap drawn := by
  induction shows with
  | nil => rfl
  | cons first _ ih => rw [List.flatMap_cons, List.flatMap_cons, same _ _ first, ih]

theorem addTableBreak_eq :
    addTableBreak (pairs.map Prod.snd) = breakLine glyphs columns ++ [glyphs.newline] := by
  rw [addTableBreak, List.flatMap_map, breakLine, List.append_assoc,
    flatMap_of_shows shows fun pair column shown => by rw [shown.maxSize]]
  rfl

omit shows in
/-- The blank after the text is printed before the padding. -/
theorem padded_eq (width : Nat) (text : Bytes) :
    padded width text =
      glyphs.bar :: glyphs.space :: (pad glyphs width text ++ [glyphs.space]) := by
  have moved : (32 : UInt8) :: List.replicate (width - text.length) 32 =
      List.replicate (width - text.length) 32 ++ [32] := by
    rw [← List.replicate_succ, List.replicate_succ']
  have bar : ascii "| " = [124, 32] := rfl
  have blank : ascii " " = [32] := rfl
  rw [padded, pad, bar, blank]
  simp [glyphs, moved]

theorem headerLine_eq :
    headerLine pairs = AlignedTable.headerLine glyphs columns ++ [glyphs.newline] := by
  have names : pairs.flatMap (fun pair => padded pair.2.maxSize pair.1.columnName) =
      columns.flatMap fun column =>
        glyphs.bar :: glyphs.space :: (pad glyphs column.width column.name ++ [glyphs.space]) := by
    apply flatMap_of_shows shows
    intro pair column shown
    rw [← shown.maxSize, ← shown.name]
    exact padded_eq pair.2.maxSize pair.1.columnName
  apply (congrArg (· ++ ascii "|\n") names).trans
  rw [AlignedTable.headerLine, textLine, List.append_assoc]
  rfl

theorem rowLine_eq {row : Nat} (inside : ∀ column ∈ columns, row < column.cells.length) :
    rowLine pairs row =
      some (AlignedTable.rowLine glyphs columns row ++ [glyphs.newline]) := by
  have cells : pairs.mapM
      (fun pair => (cellText pair.1 pair.2 row).map (padded pair.2.maxSize)) =
        some (columns.map fun column => glyphs.bar :: glyphs.space ::
          (pad glyphs column.width (column.cells.getD row []) ++ [glyphs.space])) := by
    apply mapM_eq_map_of_forall₂ shows
    intro pair column member shown
    rw [shown.cell row (inside column member), Option.map_some, padded_eq, ← shown.maxSize]
  apply (congrArg (Option.bind · fun cells => some (cells.flatten ++ ascii "|\n")) cells).trans
  rw [AlignedTable.rowLine, textLine, List.append_assoc, List.flatMap_def]
  rfl

theorem printTable_of_shows {results : ColumnarRowSet} {rows : Nat} (nonempty : pairs ≠ [])
    (collected : collectColumns results 0 (pairs.map Prod.fst) = some ([], pairs.map Prod.snd))
    (lengths : ∀ column ∈ columns, column.cells.length = rows) :
    printTable results (pairs.map Prod.fst) = some (render glyphs columns rows) := by
  have printedRows : (List.range rows).mapM (rowLine pairs) =
      some ((List.range rows).map fun row =>
        AlignedTable.rowLine glyphs columns row ++ [glyphs.newline]) := by
    apply mapM_eq_map_of_forall₂ (List.forall₂_same.mpr fun row _ => rfl)
    rintro row _ member rfl
    apply rowLine_eq shows
    intro column present
    rw [lengths column present]
    exact List.mem_range.mp member
  have first : ∃ info, (pairs.map Prod.snd)[0]? = some info ∧ info.column.length = rows := by
    cases shows with
    | nil => exact absurd rfl nonempty
    | cons shown others =>
        exact ⟨_, rfl, shown.length.trans (lengths _ List.mem_cons_self)⟩
  obtain ⟨info, found, length⟩ := first
  rw [printTable, collected]
  simp only [bind, Option.bind_some, pairColumns_unzip, found, length, printedRows,
    addTableBreak_eq shows, headerLine_eq shows]
  simp [render, lines, List.flatMap_def, Function.comp_def]

end Table

theorem FitsSchema.length_cells {schema : List MeasuredDesc} {rows : Nat} {results : TRowSet}
    (fits : FitsSchema schema rows results) {column : Column UInt8}
    (member : column ∈ tableColumns schema results) : column.cells.length = rows := by
  rw [tableColumns, ← List.map_uncurry_zip_eq_zipWith] at member
  obtain ⟨pair, present, rfl⟩ := List.mem_map.mp member
  exact (length_cellTexts ..).trans (fits.filled pair present).length

theorem FitsSchema.batchRows_eq {schema : List MeasuredDesc} {rows : Nat} {results : TRowSet}
    (fits : FitsSchema schema rows results) (nonempty : schema ≠ []) :
    batchRows schema results = rows := by
  have lengths : ∀ column ∈ tableColumns schema results, column.cells.length = rows :=
    fun column member => fits.length_cells member
  rw [batchRows]
  cases drawn : tableColumns schema results with
  | nil =>
      have wide := fits.wide
      have empty := congrArg List.length drawn
      rw [tableColumns, List.length_zipWith, Nat.min_eq_left wide] at empty
      exact absurd (List.length_eq_zero_iff.mp empty) nonempty
  | cons column columns =>
      rw [drawn] at lengths
      exact lengths column List.mem_cons_self

/-- A batch that fits the schema is printed as its table. -/
theorem FitsSchema.printTable_eq {schema : List MeasuredDesc} {rows : Nat}
    {resp : TFetchResultsResp} (fits : FitsSchema schema rows resp.results)
    (nonempty : schema ≠ []) :
    printTable ⟨resp⟩ (schema.map MeasuredDesc.desc) = some (batchTable schema resp.results) := by
  have split : (ColumnarRowSet.mk resp).resp.results.columns = [] ++ resp.results.columns := rfl
  obtain ⟨pairs, collected, descs, shows⟩ := collectColumns_eq split fits.wide fits.filled
  rw [batchTable, fits.batchRows_eq nonempty]
  rw [← descs] at collected ⊢
  apply printTable_of_shows shows _ collected fun column member => fits.length_cells member
  rintro rfl
  exact nonempty (List.map_eq_nil_iff.mp descs.symm)

/-! ## Whole outputs -/

/-- The message of a call that fails. -/
def Outcome.message {method : Method} : Outcome method → Bytes
  | .exception what => what
  | .reply resp => (tStatusToStatus (method.status resp)).msg

theorem Outcome.exists_reply {method : Method} {outcome : Outcome method}
    (success : outcome.isSuccess = true) :
    ∃ resp, outcome = .reply resp ∧ (method.status resp).isSuccess = true := by
  cases outcome with
  | exception what => cases success
  | reply resp => exact ⟨resp, rfl, success⟩

/-- The status of a call tells whether its outcome is a success, and else carries the message. -/
theorem Query.ok_msg_run (op : Operation) (query : Query) (out : query.Out)
    (respond : Responder) :
    ((query.rpc op out).run respond).1.ok = (respond query.method (query.req op)).isSuccess ∧
      ((query.rpc op out).run respond).1.msg =
        (respond query.method (query.req op)).message := by
  rw [Query.status_eq]
  cases respond query.method (query.req op) with
  | exception what => exact ⟨rfl, rfl⟩
  | reply resp => exact ⟨ok_tStatusToStatus _, rfl⟩

namespace TurnOutcomes

/-- The batch of a turn whose calls both succeed. -/
def batch? (turn : TurnOutcomes) : Option TFetchResultsResp :=
  match turn.fetch with
  | .exception _ => none
  | .reply resp => if resp.status.isSuccess ∧ turn.metadata.isSuccess then some resp else none

/-- The message of the first call that fails. -/
def failure (turn : TurnOutcomes) : Bytes :=
  if turn.fetch.isSuccess then turn.metadata.message else turn.fetch.message

theorem batch?_eq_some {turn : TurnOutcomes} {resp : TFetchResultsResp}
    (fetched : turn.fetch = .reply resp) (success : resp.status.isSuccess = true)
    (described : turn.metadata.isSuccess = true) : turn.batch? = some resp := by
  rw [batch?, fetched]
  exact if_pos ⟨success, described⟩

theorem batch?_eq_none {turn : TurnOutcomes}
    (failed : turn.fetch.isSuccess = false ∨ turn.metadata.isSuccess = false) :
    turn.batch? = none := by
  unfold batch?
  cases fetched : turn.fetch with
  | exception what => rfl
  | reply resp =>
      rw [fetched] at failed
      apply if_neg
      rintro ⟨success, described⟩
      rcases failed with fetchFailed | metadataFailed
      · exact Bool.false_ne_true (fetchFailed.symm.trans success)
      · exact Bool.false_ne_true (metadataFailed.symm.trans described)

/-- Successful metadata gives the schema, and a batch that is fetched fits it. -/
structure Conforms (schema : List MeasuredDesc) (turn : TurnOutcomes) : Prop where
  metadata : ∀ resp, turn.metadata = .reply resp → resp.status.isSuccess = true →
    resp.schema.columns.map tColumnDescToColumnDesc = schema.map MeasuredDesc.desc
  fetch : ∀ resp, turn.fetch = .reply resp → resp.status.isSuccess = true →
    ∃ rows, FitsSchema schema rows resp.results

end TurnOutcomes

/-- The batches that are printed: up to the first one that is the last, or to a failure. -/
def printedBatches : List TurnOutcomes → List TRowSet
  | [] => []
  | turn :: rest =>
      match turn.batch? with
      | none => []
      | some resp => resp.results :: if resp.hasMoreRows then printedBatches rest else []

/-- How the printing ends after its tables. -/
def printedEnd (out : Bytes) : List TurnOutcomes → Printed
  | [] => .waiting out
  | turn :: rest =>
      match turn.batch? with
      | none => .finished (out ++ turn.failure)
      | some resp => if resp.hasMoreRows then printedEnd out rest else .finished out

section Turn

variable (op : Operation) {turn : TurnOutcomes}

theorem fetch_turn {resp : TFetchResultsResp} (fetched : turn.fetch = .reply resp)
    (success : resp.status.isSuccess = true) :
    ((op.fetch { hasMoreRows := some true }).run turn.respond).2 =
      { results := some ⟨resp⟩, hasMoreRows := some resp.hasMoreRows } := by
  have written := (Query.leavesNoTrace op .fetch
    ({ hasMoreRows := some true } : Operation.FetchOut) turn.respond).succeeded resp fetched success
  exact congrArg Prod.snd written

theorem metadata_turn {schema : List MeasuredDesc} (conforms : turn.Conforms schema)
    (described : turn.metadata.isSuccess = true) :
    ((op.getResultSetMetadata []).run turn.respond).2 = schema.map MeasuredDesc.desc := by
  obtain ⟨resp, replied, success⟩ := Outcome.exists_reply described
  have written := (Query.leavesNoTrace op .getResultSetMetadata [] turn.respond).succeeded resp
    replied success
  exact (congrArg Prod.snd written).trans (conforms.metadata resp replied success)

end Turn

section Loop

variable {schema : List MeasuredDesc} (nonempty : schema ≠ [])

include nonempty

/-- One turn prints the table of its batch or the message of the call that fails. -/
theorem printLoop_turn (op : Operation) (out : Bytes) {turn : TurnOutcomes}
    (conforms : turn.Conforms schema) (rest : List TurnOutcomes) :
    printLoop op out true (turn :: rest) =
      match turn.batch? with
      | none => .finished (out ++ turn.failure)
      | some resp =>
          printLoop op (out ++ batchTable schema resp.results) resp.hasMoreRows rest := by
  obtain ⟨fetchOk, fetchMsg⟩ : ((op.fetch { hasMoreRows := some true }).run turn.respond).1.ok =
        turn.fetch.isSuccess ∧
      ((op.fetch { hasMoreRows := some true }).run turn.respond).1.msg = turn.fetch.message :=
    Query.ok_msg_run op .fetch _ turn.respond
  obtain ⟨metadataOk, metadataMsg⟩ : ((op.getResultSetMetadata []).run turn.respond).1.ok =
        turn.metadata.isSuccess ∧
      ((op.getResultSetMetadata []).run turn.respond).1.msg = turn.metadata.message :=
    Query.ok_msg_run op .getResultSetMetadata [] turn.respond
  rw [printLoop]
  dsimp only
  rw [fetchOk, fetchMsg, metadataOk, metadataMsg]
  cases fetchSuccess : turn.fetch.isSuccess with
  | false =>
      rw [TurnOutcomes.batch?_eq_none (.inl fetchSuccess)]
      simp [TurnOutcomes.failure, fetchSuccess]
  | true =>
      cases metadataSuccess : turn.metadata.isSuccess with
      | false =>
          rw [TurnOutcomes.batch?_eq_none (.inr metadataSuccess)]
          simp [TurnOutcomes.failure, fetchSuccess]
      | true =>
          obtain ⟨resp, fetched, success⟩ := Outcome.exists_reply fetchSuccess
          obtain ⟨rows, fits⟩ := conforms.fetch resp fetched success
          rw [metadata_turn op conforms metadataSuccess, fetch_turn op fetched success,
            TurnOutcomes.batch?_eq_some fetched success metadataSuccess]
          simp [fits.printTable_eq nonempty, nonempty]

/-- The output is the tables of the printed batches, and the end. -/
theorem printLoop_eq (op : Operation) (out : Bytes) {turns : List TurnOutcomes}
    (conforms : ∀ turn ∈ turns, turn.Conforms schema) :
    printLoop op out true turns =
      printedEnd (out ++ (printedBatches turns).flatMap (batchTable schema)) turns := by
  induction turns generalizing out with
  | nil => simp [printLoop, printedBatches, printedEnd]
  | cons turn rest ih =>
      rw [printLoop_turn nonempty op out (conforms turn List.mem_cons_self) rest, printedBatches,
        printedEnd]
      cases turn.batch? with
      | none => simp
      | some resp =>
          cases more : resp.hasMoreRows with
          | false => simp [printLoop, more]
          | true =>
              have later := ih (out ++ batchTable schema resp.results) fun other member =>
                conforms other (List.mem_cons_of_mem _ member)
              simpa [more] using later

end Loop

/-- The table of a batch has the names of the schema in its header and one line for each row. Every
text is padded to the width of its column, and all lines have the same length. -/
structure AlignedBatch (schema : List MeasuredDesc) (results : TRowSet) : Prop where
  names : (tableColumns schema results).map Column.name =
    schema.map fun measured => measured.desc.columnName
  rows : ∀ column ∈ tableColumns schema results,
    column.cells.length = batchRows schema results
  lines : (lines glyphs (tableColumns schema results) (batchRows schema results)).length =
    batchRows schema results + 4
  name : ∀ column ∈ tableColumns schema results,
    (pad glyphs column.width column.name).length = column.width
  cell : ∀ column ∈ tableColumns schema results, ∀ cell ∈ column.cells,
    (pad glyphs column.width cell).length = column.width
  line : ∀ line ∈ AlignedTable.lines glyphs (tableColumns schema results)
      (batchRows schema results),
    line.length = ((tableColumns schema results).map fun column => column.width + 3).sum + 1

theorem names_zipWith {schema : List MeasuredDesc} {columns : List TColumn}
    (wide : schema.length ≤ columns.length) :
    (List.zipWith MeasuredDesc.tableColumn schema columns).map Column.name =
      schema.map fun measured => measured.desc.columnName := by
  induction schema generalizing columns with
  | nil => rfl
  | cons measured schema ih =>
      cases columns with
      | nil => cases wide
      | cons column columns =>
          rw [List.zipWith_cons_cons, List.map_cons, List.map_cons,
            ih (Nat.le_of_succ_le_succ wide)]
          rfl

theorem FitsSchema.alignedBatch {schema : List MeasuredDesc} {rows : Nat} {results : TRowSet}
    (fits : FitsSchema schema rows results) (nonempty : schema ≠ []) :
    AlignedBatch schema results where
  names := names_zipWith fits.wide
  rows column member := (fits.length_cells member).trans (fits.batchRows_eq nonempty).symm
  lines := by simp [lines]
  name column _ := length_pad glyphs column.length_name_le
  cell column _ cell member := length_pad glyphs (column.length_le_of_mem member)
  line line member := length_of_mem_lines glyphs member

theorem exists_turn_of_mem_printedBatches {turns : List TurnOutcomes} {results : TRowSet}
    (member : results ∈ printedBatches turns) :
    ∃ turn ∈ turns, ∃ resp, turn.batch? = some resp ∧ resp.results = results := by
  induction turns with
  | nil => cases member
  | cons turn rest ih =>
      rw [printedBatches] at member
      cases found : turn.batch? with
      | none => simp [found] at member
      | some resp =>
          simp only [found] at member
          rcases List.mem_cons.mp member with rfl | later
          · exact ⟨turn, List.mem_cons_self, resp, found, rfl⟩
          · split_ifs at later
            · obtain ⟨other, present, rest⟩ := ih later
              exact ⟨other, List.mem_cons_of_mem _ present, rest⟩
            · cases later

theorem TurnOutcomes.Conforms.fits {schema : List MeasuredDesc} {turn : TurnOutcomes}
    (conforms : turn.Conforms schema) {resp : TFetchResultsResp}
    (batch : turn.batch? = some resp) : ∃ rows, FitsSchema schema rows resp.results := by
  unfold batch? at batch
  cases fetched : turn.fetch with
  | exception what => simp [fetched] at batch
  | reply own =>
      simp only [fetched] at batch
      split_ifs at batch with success
      cases batch
      exact conforms.fetch _ fetched success.1

/-- For a schema of measured columns the output is one aligned table for each batch, followed by
the message of a call that fails. -/
theorem printResults_aligned (op : Operation) {schema : List MeasuredDesc}
    (nonempty : schema ≠ []) {turns : List TurnOutcomes}
    (conforms : ∀ turn ∈ turns, turn.Conforms schema) :
    printResults op turns =
        printedEnd ((printedBatches turns).flatMap (batchTable schema)) turns ∧
      ∀ results ∈ printedBatches turns, AlignedBatch schema results := by
  refine ⟨?_, ?_⟩
  · simpa [printResults] using printLoop_eq nonempty op [] conforms
  · intro results member
    obtain ⟨turn, present, resp, batch, rfl⟩ := exists_turn_of_mem_printedBatches member
    obtain ⟨rows, fits⟩ := (conforms turn present).fits batch
    exact fits.alignedBatch nonempty

/-- A BOOLEAN, a BIGINT and a STRING column. -/
def booleanBigintString : List MeasuredDesc :=
  [⟨{ columnName := ascii "ok", type := .primitive .boolean }, .boolean, rfl⟩,
    ⟨{ columnName := ascii "n", type := .primitive .bigint }, .bigint, rfl⟩,
    ⟨{ columnName := ascii "name", type := .primitive .string }, .string, rfl⟩]

/-- A batch of two rows, with a null in its second row, and an error. -/
def batchThenError : List TurnOutcomes :=
  let metadata : TGetResultSetMetadataResp := { schema := { columns := [
    { columnName := ascii "ok", typeDesc := ⟨[⟨some { type := 0 }⟩]⟩ },
    { columnName := ascii "n", typeDesc := ⟨[⟨some { type := 4 }⟩]⟩ },
    { columnName := ascii "name", typeDesc := ⟨[⟨some { type := 7 }⟩]⟩ }] } }
  let batch : TFetchResultsResp := { hasMoreRows := true, results := { columns := [
    { boolVal := ⟨[true, false], [0]⟩ }, { i64Val := ⟨[-12, 0], [2]⟩ },
    { stringVal := ⟨[ascii "x", ascii "yz"], [0]⟩ }] } }
  [⟨.reply batch, .reply metadata⟩,
    ⟨.reply { status := { statusCode := 3, errorMessage := ascii "gone" } }, .reply metadata⟩]

theorem conforms_batchThenError :
    ∀ turn ∈ batchThenError, turn.Conforms booleanBigintString := by
  intro turn member
  rcases List.mem_cons.mp member with rfl | later
  · refine ⟨fun resp described _ => ?_, fun resp fetched _ => ⟨2, ?_, ?_⟩⟩
    · cases described
      decide
    · cases fetched
      decide
    · cases fetched
      intro pair present
      simp only [booleanBigintString, List.zip_cons_cons, List.zip_nil_right, List.mem_cons,
        List.not_mem_nil, or_false] at present
      rcases present with rfl | rfl | rfl
      · exact ⟨rfl, by decide, fun _ _ _ => trivial⟩
      · refine ⟨rfl, by decide, ?_⟩
        show ∀ entry ∈ ([-12, 0] : List Int64).zipIdx, _ → entry.1 ≠ Int64.minValue
        decide
      · exact ⟨rfl, by decide, fun _ _ _ => trivial⟩
  · rcases List.mem_singleton.mp later with rfl
    refine ⟨fun resp described _ => ?_, fun resp fetched success => ?_⟩
    · cases described
      decide
    · cases fetched
      cases success

theorem printResults_aligned_batchThenError :
    printResults {} batchThenError = .finished (ascii (
      "+-------+------+------+\n" ++
      "| ok    | n    | name |\n" ++
      "+-------+------+------+\n" ++
      "| true  | -12  | x    |\n" ++
      "| false | NULL | yz   |\n" ++
      "+-------+------+------+\n" ++
      "gone")) :=
  (printResults_aligned {} (by decide) conforms_batchThenError).1.trans (by decide +kernel)

end HS2Client
