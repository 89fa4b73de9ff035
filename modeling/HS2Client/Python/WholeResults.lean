import HS2Client.Python.FetchLoop

/-!
# Whole results

`fetchall_pandas` from the rows of the server to the frame. The extension object keeps the schema
once it is known; the rows are fetched before the schema is asked for.
-/

namespace HS2Client.Py

open BitPacking Cursors FloatingPoint Runs

/-! ## The extension object -/

/-- The `Operation` of the extension module. -/
structure PyOperation where
  op : Operation
  cachedMetadata : Option (List ColumnDesc) := none

namespace PyOperation

/-- The property of this name. -/
def schema (self : PyOperation) : Rpc (Except Status (List ColumnDesc) × PyOperation) :=
  match self.cachedMetadata with
  | some metadata => .done (.ok metadata, self)
  | none =>
      (self.op.getResultSetMetadata []).map fun (status, metadata) =>
        if status.ok then (.ok metadata, { self with cachedMetadata := some metadata })
        else (.error status, self)

/-- Asking for the schema keeps the operation. -/
theorem op_schema (self : PyOperation) (respond : Responder) :
    (self.schema.run respond).2.op = self.op := by
  cases known : self.cachedMetadata with
  | some metadata => simp [schema, known]
  | none =>
      simp only [schema, known, Rpc.run_map]
      split_ifs <;> rfl

/-- The object after a read of the property. -/
def readSchema (self : PyOperation) (respond : Responder) : PyOperation :=
  (self.schema.run respond).2

/-- The schema in a successful reply. -/
def described? (op : Operation) (respond : Responder) : Option (List ColumnDesc) :=
  let (status, metadata) := (op.getResultSetMetadata []).run respond
  if status.ok then some metadata else none

theorem readSchema_eq (self : PyOperation) (respond : Responder) :
    self.readSchema respond =
      { self with cachedMetadata := self.cachedMetadata.or (described? self.op respond) } := by
  obtain ⟨op, cachedMetadata⟩ := self
  cases cachedMetadata with
  | some metadata => rfl
  | none =>
      simp only [readSchema, schema, Rpc.run_map, described?, Option.none_or]
      split_ifs <;> rfl

theorem run_readSchema (self : PyOperation) (responds : List Responder) :
    run readSchema self responds = { self with
      cachedMetadata := self.cachedMetadata.or (responds.findSome? (described? self.op)) } := by
  induction responds generalizing self with
  | nil => simp
  | cons respond responds ih =>
      rw [run_cons, ih, readSchema_eq, List.findSome?_cons]
      cases self.cachedMetadata with
      | some metadata => rfl
      | none => cases described? self.op respond <;> rfl

/-- However often the schema is asked for, with any outcomes: a request is sent as long as none
has succeeded and never again, and what is returned is the schema of the first success. -/
theorem schema_reads (op : Operation) (responds : List Responder) (respond : Responder) :
    let self := run readSchema { op } responds
    (self.schema.request? = none ↔ ∃ earlier ∈ responds, (described? op earlier).isSome = true) ∧
      ∀ metadata, (self.schema.run respond).1 = .ok metadata ↔
        (responds ++ [respond]).findSome? (described? op) = some metadata := by
  intro self
  have self_eq : self = ⟨op, responds.findSome? (described? op)⟩ := run_readSchema { op } responds
  rw [self_eq, List.findSome?_append]
  cases known : responds.findSome? (described? op) with
  | some first =>
      obtain ⟨earlier, membership, found⟩ := List.exists_of_findSome?_eq_some known
      refine ⟨iff_of_true rfl ⟨earlier, membership, by rw [found]; rfl⟩, fun metadata => ?_⟩
      simp [schema]
  | none =>
      rw [List.findSome?_eq_none_iff] at known
      refine ⟨iff_of_false nofun ?_, fun metadata => ?_⟩
      · rintro ⟨earlier, membership, found⟩
        rw [known earlier membership] at found
        cases found
      · simp only [schema, Rpc.run_map, described?, Option.none_or, List.findSome?_singleton]
        split_ifs <;> simp

section Frame

variable {Datetimes Decimal : Type}

def fetchallPandas (self : PyOperation) (pandas : PandasEnv Datetimes Decimal) (env : PyEnv)
    (batchsize : Option Int) (outcomes : List (Outcome .fetchResults)) (respond : Responder)
    (st : PyState) :
    Option (Except Raised (List (Bytes × Option (FrameColumn Datetimes Decimal))) ×
      PyOperation × PyState) :=
  match fetchallInternal self.op batchsize outcomes with
  | .waiting => none
  | .raised status _ => some (.error (.status status), self, st)
  | .overflowError => some (.error .overflowError, self, st)
  | .complete _ _ =>
      match self.schema.run respond with
      | (.error status, self) => some (.error (.status status), self, st)
      | (.ok schema, self) =>
          (Py.fetchallPandas pandas env self.op batchsize schema outcomes st).map
            fun (frame, st) => (frame, self, st)

variable (self : PyOperation) (pandas : PandasEnv Datetimes Decimal) (env : PyEnv)
  {batchsize : Option Int} {outcomes unused : List (Outcome .fetchResults)}
  {batches : List (Option ColumnarRowSet)}

/-- Once the rows are fetched, everything depends on the schema. -/
theorem fetchallPandas_of_complete
    (complete : fetchallInternal self.op batchsize outcomes = .complete batches unused)
    (respond : Responder) (st : PyState) :
    let result := self.fetchallPandas pandas env batchsize outcomes respond st
    match (self.schema.run respond).1 with
    | .error status => result = some (.error (.status status), (self.schema.run respond).2, st)
    | .ok schema => result =
        (Py.fetchallPandas pandas env self.op batchsize schema outcomes st).map
          fun (frame, st) => (frame, (self.schema.run respond).2, st) := by
  intro result
  have same := self.op_schema respond
  simp only [result, fetchallPandas]
  rw [complete]
  generalize self.schema.run respond = asked at same ⊢
  obtain ⟨status | schema, after⟩ := asked
  · rfl
  · dsimp only at same ⊢
    rw [same]

end Frame

end PyOperation

/-! ## Tables -/

variable {Row : Type}

/-- A column of a table: what every row has in it. -/
structure TableColumn (Row : Type) where
  desc : ColumnDesc
  converter : PandasConverter
  selected : pandasConverter desc.type.typeId = some converter
  cell : Row → Option converter.cls.Value

def TableColumn.over (column : TableColumn Row) (rows : List Row) : ResultColumn where
  desc := column.desc
  converter := column.converter
  selected := column.selected
  cells := rows.map column.cell

/-- Batches of any rows carry their cells. -/
def Encodes (format : RowFormat Row) (table : List (TableColumn Row)) : Prop :=
  ∀ (rows : List Row) (i : Nat) column, table[i]? = some column →
    ∃ tcolumn, (format.rowSet rows).columns[i]? = some tcolumn ∧
      Carries (column.converter.cls.member tcolumn) (rows.map column.cell)

/-- Successive batches deliver their rows. -/
theorem Encodes.delivers {format : RowFormat Row} {table : List (TableColumn Row)}
    (encodes : Encodes format table) (all : List Row) (reads : List (Read Row)) :
    Delivers (table.map (·.over (reads.map Read.batch).flatten))
      (reads.map (format.response all)) where
  successful := by
    intro reply membership
    obtain ⟨read, -, rfl⟩ := List.mem_map.mp membership
    rfl
  pieces := by
    intro i column present
    obtain ⟨own, stored, rfl⟩ := Option.map_eq_some_iff.mp (List.getElem?_map ▸ present)
    refine ⟨reads.map fun read => read.batch.map own.cell, ?_, ?_⟩
    · show _ = (reads.map Read.batch).flatten.map own.cell
      rw [List.map_flatten, List.map_map]
      rfl
    · rw [List.forall₂_map_left_iff, List.forall₂_map_right_iff, List.forall₂_same]
      exact fun read _ => encodes read.batch i own stored

theorem PandasConverter.TextsValid.mono {env : PyEnv} {converter : PandasConverter}
    {cells fewer : List (Option converter.cls.Value)} (subset : fewer ⊆ cells)
    (valid : converter.TextsValid env cells) : converter.TextsValid env fewer := by
  cases converter with
  | string => exact fun text membership => valid text (subset membership)
  | _ => trivial

/-! ## From the rows to the frame -/

/-- The cursor of a result set of a reachable state is within its rows. -/
theorem position_le_of_reached {format : RowFormat Row} {events : List (FetchEvent Row)} {i : Nat}
    {object : OperationObject} {set : ResultSet Row}
    (present : (run (Fetching.step format) {} events).world.operations[i]? = some object)
    (stored : (run (Fetching.step format) {} events).sets object.op.handle = some set) :
    set.cursor.position ≤ set.cursor.rows.length := by
  have routed := Fetching.routed_run format events
  have opened : object.op.handle ≠ {} := by
    intro unopened
    rw [unopened, routed.unopened] at stored
    cases stored
  obtain ⟨own, found, delivers⟩ := routed.delivers i object present opened
  cases stored.symm.trans found
  exact delivers.chained.position_le

theorem rows_cursorAfter (sizes : List Nat) (cursor : Cursor Row) :
    (cursorAfter sizes cursor).rows = cursor.rows := by
  induction sizes generalizing cursor with
  | nil => rfl
  | cons size sizes ih => exact ih _

/-- A schema that describes a table, of which these rows are left, with distinct names and texts
that make Python strings; the calls of the C API succeed. -/
structure Presents (env : PyEnv) (format : RowFormat Row) (table : List (TableColumn Row))
    (schema : List ColumnDesc) (rows : List Row) : Prop where
  succeeds : ∀ call, env.succeeds call = true
  encodes : Encodes format table
  described : schema = table.map TableColumn.desc
  distinct : (table.map fun column => column.desc.columnName).Nodup
  valid : ∀ column ∈ table, column.converter.TextsValid env (rows.map column.cell)

section Whole

variable {Datetimes Decimal : Type} (pandas : PandasEnv Datetimes Decimal) {env : PyEnv}

/-- Once the loop has ended, the frame of a schema that describes the table is the frame of the
rows that were left. -/
theorem fetchallPandas_served {format : RowFormat Row} {table : List (TableColumn Row)}
    {schema : List ColumnDesc} {op : Operation} {batchsize : Option Int} {rows all : List Row}
    (presents : Presents env format table schema rows) {reads : List (Read Row)}
    (flattened : ((reads.map Read.batch).flatten) = rows)
    {later : List (Outcome .fetchResults)}
    (complete : fetchallInternal op batchsize
        ((reads.map fun read => fetched (format.response all read)) ++ later) =
      .complete (reads.map fun read => some ⟨format.response all read⟩) later) (st : PyState) :
    (fetchallPandas pandas env op batchsize schema
        ((reads.map fun read => fetched (format.response all read)) ++ later) st).map Prod.fst =
      some (resultFrame pandas env ResultColumn.delivered (table.map (·.over rows))) := by
  subst flattened
  have delivers := presents.encodes.delivers all reads
  have names : ((table.map (·.over (reads.map Read.batch).flatten)).map
      fun column => column.desc.columnName).Nodup := by
    rw [List.map_map]
    exact presents.distinct
  have texts : ∀ column ∈ table.map (·.over (reads.map Read.batch).flatten),
      column.converter.TextsValid env column.cells := by
    intro column membership
    obtain ⟨own, stored, rfl⟩ := List.mem_map.mp membership
    exact presents.valid own stored
  have completed : fetchallInternal op batchsize
      ((reads.map (format.response all)).map fetched ++ later) =
      .complete ((reads.map (format.response all)).map fun reply => some ⟨reply⟩) later := by
    rw [List.map_map, List.map_map]
    exact complete
  have framed := fetchallPandas_eq pandas presents.succeeds names texts delivers completed st
  rw [List.map_map, List.map_map] at framed
  rw [presents.described]
  exact framed

end Whole

/-- A table of one INT column. -/
def intTable : List (TableColumn (Option Int32)) :=
  [{ desc := intColumn.desc, converter := .integer int32Kind, selected := rfl, cell := id }]

def intFormat : RowFormat (Option Int32) where
  rowSet rows := { columns := [{ i32Val :=
    { values := rows.map (·.getD 0), nulls := pack (rows.map Option.isNone) } }] }

theorem encodes_intTable : Encodes intFormat intTable := by
  intro rows i column present
  cases i with
  | zero =>
      obtain rfl := Option.some.inj present
      refine ⟨_, rfl, ?_⟩
      show Carries _ (rows.map id)
      rw [List.map_id]
      exact carries_encode (0 : Int32) rows
  | succ i => simp [intTable] at present

/-- A statement with three rows, the first of which is fetched. -/
def intFetches : List (FetchEvent (Option Int32)) :=
  [{ call := .openSession [] [] },
    { call := .executeStatement 0 [] [], newOperation := { operationId := { guid := [1] } },
      rows := [some 1, none, some 3] },
    { call := .onOperation 0 (.fetch 1 .next), limit := 1 }]

def intMetadata : TGetResultSetMetadataResp where
  schema := { columns := [{ columnName := ascii "a", typeDesc := ⟨[⟨some ⟨3, []⟩⟩]⟩ }] }

/-- The server describes the table. -/
def describeInt : Responder
  | .getResultSetMetadata, _ => .reply intMetadata
  | _, _ => .exception []

end HS2Client.Py
