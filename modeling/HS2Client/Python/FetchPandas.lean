import HS2Client.Client.Operation
import HS2Client.Python.PandasColumns

/-!
# Fetching a result set into pandas

`fetchall_internal` and `fetchall_pandas`. The server's side is the sequence of outcomes of
the `FetchResults` calls; how it cuts the result set into replies must not matter.
-/

namespace HS2Client.Py

open FloatingPoint TypedColumn BitPacking

/-! ## The fetch loop -/

/-- Only `FetchResults` is asked in the loop. -/
def respondFetch (outcome : Outcome .fetchResults) : Responder
  | .fetchResults, _ => outcome
  | _, _ => .exception []

inductive FetchAll where
  | complete (batches : List (Option ColumnarRowSet)) (unused : List (Outcome .fetchResults))
  | raised (status : Status) (unused : List (Outcome .fetchResults))
  | overflowError
  | waiting

/-- `while has_more_rows` -/
def fetchallLoop (op : Operation) (batchsize : Int) (batches : List (Option ColumnarRowSet)) :
    Bool → List (Outcome .fetchResults) → FetchAll
  | false, outcomes => .complete batches outcomes
  | true, [] => .waiting
  | true, outcome :: outcomes =>
      let (status, out) :=
        (op.fetchRows batchsize .next { hasMoreRows := some true }).run (respondFetch outcome)
      if status.ok then
        fetchallLoop op batchsize (batches ++ [out.results]) (out.hasMoreRows.getD true) outcomes
      else .raised status outcomes

def defaultBatchsize : Int := 2 ^ 10

/-- The integers that a C `int` holds; storing another one raises an `OverflowError`. -/
def FitsCInt (value : Int) : Prop := -2 ^ 31 ≤ value ∧ value < 2 ^ 31

instance (value : Int) : Decidable (FitsCInt value) := inferInstanceAs (Decidable (_ ∧ _))

def fetchallInternal (op : Operation) (batchsize : Option Int)
    (outcomes : List (Outcome .fetchResults)) : FetchAll :=
  let batchsize := batchsize.getD defaultBatchsize
  if FitsCInt batchsize then fetchallLoop op batchsize [] true outcomes else .overflowError

/-! ## The frame -/

/-- What `fetchall_pandas` uses of pandas and of the decimal module. -/
structure PandasEnv (Datetimes Decimal : Type) where
  toDatetime : List (Option Element) → Except Bytes Datetimes
  decimal : Bytes → Except Bytes Decimal

inductive FrameColumn (Datetimes Decimal : Type) where
  | array (dtype : Dtype) (elements : List (Option Element))
  | datetimes (values : Datetimes)
  | decimals (values : List (Option Decimal))

inductive Raised where
  | status (status : Status)
  | overflowError
  | unicodeDecodeError
  | failure (failure : Failure)
  | exception (message : Bytes)

section Frame

variable {Datetimes Decimal : Type}

/-- `_convert_decimals`, on an array of strings and `None`. -/
def convertDecimals (decimal : Bytes → Except Bytes Decimal) :
    List (Option Element) → Except Bytes (List (Option Decimal))
  | [] => .ok []
  | some .none :: rest => (convertDecimals decimal rest).map (none :: ·)
  | some (.text value) :: rest => do
      let converted ← decimal value
      let others ← convertDecimals decimal rest
      return some converted :: others
  | _ :: _ => .error (ascii "TypeError")

def finishColumn (pandas : PandasEnv Datetimes Decimal) (typeId : TypeId) (dtype : Dtype)
    (elements : List (Option Element)) : Except Raised (FrameColumn Datetimes Decimal) :=
  if typeId = .timestamp then
    ((pandas.toDatetime elements).mapError .exception).map .datetimes
  else if typeId = .decimal then
    ((convertDecimals pandas.decimal elements).mapError .exception).map .decimals
  else .ok (.array dtype elements)

/-- `for i in range(schema.ncolumns)`. A name is decoded before its column is converted; different
bytes decode to different names, so that the bytes stand for the name. A later column of the same
name replaces an earlier one in the dictionary. -/
def convertColumns (pandas : PandasEnv Datetimes Decimal) (env : PyEnv)
    (batches : List ColumnarRowSet) :
    Nat → List ColumnDesc → List (Bytes × FrameColumn Datetimes Decimal) → PyState →
      Except Raised (List (Bytes × FrameColumn Datetimes Decimal)) × PyState
  | _, [], converted, st => (.ok converted, st)
  | i, desc :: schema, converted, st =>
      if env.validText desc.columnName then
        match convertColumnPandas env batches i desc.type st with
        | (.error failure, st) => (.error (.failure failure), st)
        | (.ok array, st) =>
            match finishColumn pandas desc.type.typeId array.dtype (array.elements st) with
            | .error raised => (.error raised, st)
            | .ok column =>
                convertColumns pandas env batches (i + 1) schema
                  ((desc.columnName, column) :: converted) st
      else (.error .unicodeDecodeError, st)

/-- `pd.DataFrame(converted_columns, columns=column_names)` -/
def dataFrame (converted : List (Bytes × FrameColumn Datetimes Decimal))
    (columnNames : List Bytes) : List (Bytes × Option (FrameColumn Datetimes Decimal)) :=
  columnNames.map fun name => (name, converted.lookup name)

/-- `schema` is the value of the property of the same name. A null pointer among the row
sets would be followed by `GetCol`. -/
def fetchallPandas (pandas : PandasEnv Datetimes Decimal) (env : PyEnv) (op : Operation)
    (batchsize : Option Int) (schema : List ColumnDesc)
    (outcomes : List (Outcome .fetchResults)) (st : PyState) :
    Option (Except Raised (List (Bytes × Option (FrameColumn Datetimes Decimal))) × PyState) :=
  match fetchallInternal op batchsize outcomes with
  | .waiting => none
  | .raised status _ => some (.error (.status status), st)
  | .overflowError => some (.error .overflowError, st)
  | .complete batches _ =>
      match batches.mapM id with
      | none => some (.error (.failure .undefined), st)
      | some rowSets =>
          match convertColumns pandas env rowSets 0 schema [] st with
          | (.error raised, st) => some (.error raised, st)
          | (.ok converted, st) =>
              some (.ok (dataFrame converted (schema.map ColumnDesc.columnName)), st)

end Frame

/-! ## Result sets and their delivery -/

/-- A column of a result set, with the converter that its type selects. -/
structure ResultColumn where
  desc : ColumnDesc
  converter : PandasConverter
  selected : pandasConverter desc.type.typeId = some converter
  cells : List (Option converter.cls.Value)

namespace ResultColumn

variable (column : ResultColumn)

def haveNull : Bool := column.cells.any Option.isNone

/-- The values of the cells, in the element type of the array. -/
def expected : List Element := column.cells.map (column.converter.expected column.haveNull)

/-- The entries that the converter makes of the cells. -/
def delivered : List Element := column.cells.map (column.converter.element column.haveNull)

/-- No integer is changed next to a null. -/
def Kept : Prop := ∀ cell ∈ column.cells, column.converter.Keeps column.haveNull cell

theorem delivered_eq_expected (kept : column.Kept) : column.delivered = column.expected :=
  List.map_congr_left fun cell membership =>
    (PandasConverter.element_eq_expected_iff column.selected column.haveNull cell).mpr
      (kept cell membership)

end ResultColumn

/-- A member of a `TColumn` that carries cells: a null's value and the padding bits are
arbitrary. -/
structure Carries {Value : Type} (values : TValues Value) (cells : List (Option Value)) :
    Prop where
  length_eq : values.values.length = cells.length
  covered : cells.length ≤ 8 * values.nulls.length
  null : ∀ (j : Nat) cell, cells[j]? = some cell → bit? values.nulls j = some cell.isNone
  value : ∀ (j : Nat) value, cells[j]? = some (some value) → values.values[j]? = some value

/-- Successful replies that deliver the rows of a result set in order, in pieces. -/
structure Delivers (resultSet : List ResultColumn) (replies : List TFetchResultsResp) :
    Prop where
  successful : ∀ reply ∈ replies, reply.status.isSuccess = true
  pieces : ∀ (i : Nat) column, resultSet[i]? = some column →
    ∃ pieces : List (List (Option column.converter.cls.Value)),
      pieces.flatten = column.cells ∧
      List.Forall₂ (fun reply piece => ∃ tcolumn, reply.results.columns[i]? = some tcolumn ∧
        Carries (column.converter.cls.member tcolumn) piece) replies pieces

/-! ## Reading the pieces -/

section Pieces

variable {Value : Type} {values : TValues Value} {cells : List (Option Value)}

theorem Carries.getBit_eq (carries : Carries values cells) {j : Nat} {cell : Option Value}
    (present : cells[j]? = some cell) : getBit values.nulls j = some cell.isNone := by
  have bounded : j < cells.length := (List.getElem?_eq_some_iff.mp present).1
  have covered := carries.covered
  rw [getBit_of_lt (by omega)]
  exact carries.null j cell present

theorem Carries.readable (carries : Carries values cells) :
    ({ nulls := values.nulls, data := values.values } : TypedColumn Value).Readable := by
  intro j bounded
  have inside : j < cells.length := by rwa [← carries.length_eq]
  rw [carries.getBit_eq (List.getElem?_eq_getElem inside)]
  rfl

theorem Carries.map_cell_rows (carries : Carries values cells) :
    ({ nulls := values.nulls, data := values.values } : TypedColumn Value).rows.map cell =
      cells := by
  apply List.ext_getElem?
  intro j
  cases present : cells[j]? with
  | none =>
      have outside : values.values.length ≤ j := by
        rw [carries.length_eq]
        exact List.getElem?_eq_none_iff.mp present
      simp [rows, rowsFrom, List.getElem?_eq_none outside]
  | some expected =>
      have bounded : j < cells.length := (List.getElem?_eq_some_iff.mp present).1
      have bit := carries.getBit_eq present
      have stored : ∃ value, values.values[j]? = some value :=
        ⟨_, List.getElem?_eq_getElem (by rw [carries.length_eq]; exact bounded)⟩
      obtain ⟨value, stored⟩ := stored
      cases expected with
      | none => simp [rows, rowsFrom, stored, bit, cell]
      | some own =>
          obtain rfl : value = own := by
            have same := carries.value j own present
            rw [stored] at same
            exact Option.some.inj same
          simp [rows, rowsFrom, stored, bit, cell]

end Pieces

theorem getColumns_of_pieces {cls : ColumnClass} {i : Nat} {replies : List TFetchResultsResp}
    {pieces : List (List (Option cls.Value))}
    (carried : List.Forall₂ (fun reply piece => ∃ tcolumn,
      reply.results.columns[i]? = some tcolumn ∧ Carries (cls.member tcolumn) piece)
      replies pieces) :
    ∃ columns, getColumns cls (replies.map ColumnarRowSet.mk) i = some columns ∧
      (∀ column ∈ columns, column.Readable) ∧
      (columns.flatMap rows).map cell = pieces.flatten := by
  induction carried with
  | nil => exact ⟨[], rfl, by simp, rfl⟩
  | @cons reply piece replies pieces first _ ih =>
      obtain ⟨tcolumn, present, carries⟩ := first
      obtain ⟨columns, obtained, readable, read⟩ := ih
      let column : TypedColumn cls.Value :=
        { nulls := (cls.member tcolumn).nulls, data := (cls.member tcolumn).values }
      refine ⟨column :: columns, ?_, ?_, ?_⟩
      · have head : (ColumnarRowSet.mk reply).getCol cls i = some column := by
          simp [ColumnarRowSet.getCol, present, column]
        rw [getColumns] at obtained ⊢
        simp [head, obtained]
      · intro later membership
        rcases List.mem_cons.mp membership with rfl | earlier
        · exact carries.readable
        · exact readable later earlier
      · rw [List.flatMap_cons, List.map_append, List.flatten_cons, read]
        exact congrArg (· ++ pieces.flatten) carries.map_cell_rows

/-- However the column is cut, its array shows its cells. -/
theorem Delivers.convertColumnPandas_shows {env : PyEnv}
    (succeeds : ∀ call, env.succeeds call = true) {resultSet : List ResultColumn}
    {replies : List TFetchResultsResp} (delivers : Delivers resultSet replies) {i : Nat}
    {column : ResultColumn} (present : resultSet[i]? = some column)
    (valid : column.converter.TextsValid env column.cells) (st : PyState) :
    ∃ array, (convertColumnPandas env (replies.map ColumnarRowSet.mk) i column.desc.type st).1 =
        .ok array ∧
      Shows column.converter column.cells array
        (convertColumnPandas env (replies.map ColumnarRowSet.mk) i column.desc.type st).2 := by
  obtain ⟨pieces, whole, carried⟩ := delivers.pieces i column present
  obtain ⟨columns, obtained, readable, read⟩ := getColumns_of_pieces carried
  have converted : convertColumnPandas env (replies.map ColumnarRowSet.mk) i column.desc.type st =
      column.converter.convert env columns st := by
    rw [convertColumnPandas, column.selected]
    simp only [obtained]
  rw [converted, ← whole, ← read]
  apply PandasConverter.convert_shows succeeds column.selected readable
  rw [read, whole]
  exact valid

/-! ## The loop stops after the last reply -/

def fetched (reply : TFetchResultsResp) : Outcome .fetchResults := .reply reply

theorem fetchallLoop_cons (op : Operation) (batchsize : Int)
    (batches : List (Option ColumnarRowSet)) {reply : TFetchResultsResp}
    (successful : reply.status.isSuccess = true) (outcomes : List (Outcome .fetchResults)) :
    fetchallLoop op batchsize batches true (fetched reply :: outcomes) =
      fetchallLoop op batchsize (batches ++ [some ⟨reply⟩]) reply.hasMoreRows outcomes := by
  have answered : (op.fetchRows batchsize .next { hasMoreRows := some true }).run
      (respondFetch (fetched reply)) =
      (tStatusToStatus reply.status,
        { results := some ⟨reply⟩, hasMoreRows := some reply.hasMoreRows }) := by
    simp [Operation.fetchRows, fetched, respondFetch, tryRpcOrReturn, returnNotOk_eq, successful]
  rw [fetchallLoop, answered]
  simp [successful]

theorem fetchallInternal_eq (op : Operation) {batchsize : Option Int}
    (fits : ∀ size ∈ batchsize, FitsCInt size) (outcomes : List (Outcome .fetchResults)) :
    fetchallInternal op batchsize outcomes =
      fetchallLoop op (batchsize.getD defaultBatchsize) [] true outcomes := by
  have inRange : FitsCInt (batchsize.getD defaultBatchsize) := by
    cases batchsize with
    | none => decide
    | some size => exact fits size rfl
  rw [fetchallInternal, if_pos inRange]

theorem fetchallLoop_complete (op : Operation) (batchsize : Int)
    {replies : List TFetchResultsResp} {last : TFetchResultsResp}
    (successful : ∀ reply ∈ replies ++ [last], reply.status.isSuccess = true)
    (more : ∀ reply ∈ replies, reply.hasMoreRows = true) (noMore : last.hasMoreRows = false)
    (batches : List (Option ColumnarRowSet)) (later : List (Outcome .fetchResults)) :
    fetchallLoop op batchsize batches true ((replies ++ [last]).map fetched ++ later) =
      .complete (batches ++ (replies ++ [last]).map fun reply => some ⟨reply⟩) later := by
  induction replies generalizing batches with
  | nil =>
      have ok := successful last (by simp)
      rw [List.nil_append, List.map_singleton, List.singleton_append,
        fetchallLoop_cons _ _ _ ok, noMore, fetchallLoop]
      rfl
  | cons reply replies ih =>
      have ok := successful reply (by simp)
      have rest := ih (fun later present => successful later (List.mem_cons_of_mem _ present))
        (fun later present => more later (List.mem_cons_of_mem _ present))
        (batches ++ [some ⟨reply⟩])
      rw [List.cons_append, List.map_cons, List.cons_append, fetchallLoop_cons _ _ _ ok,
        more reply List.mem_cons_self, rest]
      simp

/-! ## The frame of a result set -/

section Frame

variable {Datetimes Decimal : Type}

/-- The column of the frame that these entries make. -/
def ResultColumn.frameColumn (pandas : PandasEnv Datetimes Decimal) (column : ResultColumn)
    (entries : List Element) : Except Raised (FrameColumn Datetimes Decimal) :=
  finishColumn pandas column.desc.type.typeId (column.converter.dtype column.haveNull)
    (entries.map some)

def namedColumns (pandas : PandasEnv Datetimes Decimal) (env : PyEnv)
    (entries : ResultColumn → List Element) :
    List ResultColumn → Except Raised (List (Bytes × FrameColumn Datetimes Decimal))
  | [] => .ok []
  | column :: resultSet =>
      if env.validText column.desc.columnName then
        match column.frameColumn pandas (entries column) with
        | .error raised => .error raised
        | .ok own =>
            (namedColumns pandas env entries resultSet).map ((column.desc.columnName, own) :: ·)
      else .error .unicodeDecodeError

/-- The frame that a result set stands for, whatever its delivery: the named columns with these
entries, in order. -/
def resultFrame (pandas : PandasEnv Datetimes Decimal) (env : PyEnv)
    (entries : ResultColumn → List Element) (resultSet : List ResultColumn) :
    Except Raised (List (Bytes × Option (FrameColumn Datetimes Decimal))) :=
  (namedColumns pandas env entries resultSet).map fun columns =>
    columns.map fun column => (column.1, some column.2)

theorem namedColumns_congr (pandas : PandasEnv Datetimes Decimal) (env : PyEnv)
    {entries others : ResultColumn → List Element} {resultSet : List ResultColumn}
    (same : ∀ column ∈ resultSet, entries column = others column) :
    namedColumns pandas env entries resultSet = namedColumns pandas env others resultSet := by
  induction resultSet with
  | nil => rfl
  | cons column resultSet ih =>
      rw [namedColumns, namedColumns, same column List.mem_cons_self,
        ih fun later membership => same later (List.mem_cons_of_mem _ membership)]

/-- The frame of kept columns is that of their values. -/
theorem resultFrame_delivered (pandas : PandasEnv Datetimes Decimal) (env : PyEnv)
    {resultSet : List ResultColumn} (kept : ∀ column ∈ resultSet, column.Kept) :
    resultFrame pandas env ResultColumn.delivered resultSet =
      resultFrame pandas env ResultColumn.expected resultSet := by
  rw [resultFrame, namedColumns_congr pandas env fun column membership =>
    column.delivered_eq_expected (kept column membership)]
  rfl

variable (pandas : PandasEnv Datetimes Decimal) {env : PyEnv}

theorem convertColumns_eq (succeeds : ∀ call, env.succeeds call = true)
    {resultSet earlier columns : List ResultColumn} {replies : List TFetchResultsResp}
    (delivers : Delivers resultSet replies)
    (valid : ∀ column ∈ resultSet, column.converter.TextsValid env column.cells)
    (split : resultSet = earlier ++ columns)
    (converted : List (Bytes × FrameColumn Datetimes Decimal)) (st : PyState) :
    (convertColumns pandas env (replies.map ColumnarRowSet.mk) earlier.length
        (columns.map ResultColumn.desc) converted st).1 =
      (namedColumns pandas env ResultColumn.delivered columns).map fun own =>
        own.reverse ++ converted := by
  induction columns generalizing earlier converted st with
  | nil => rfl
  | cons column columns ih =>
      have present : resultSet[earlier.length]? = some column := by
        rw [split, List.getElem?_append_right le_rfl, Nat.sub_self]
        rfl
      obtain ⟨array, returned, shows_⟩ := delivers.convertColumnPandas_shows succeeds present
        (valid column (List.mem_of_getElem? present)) st
      have pair : convertColumnPandas env (replies.map ColumnarRowSet.mk) earlier.length
          column.desc.type st = (.ok array, (convertColumnPandas env
            (replies.map ColumnarRowSet.mk) earlier.length column.desc.type st).2) :=
        Prod.ext returned rfl
      have finished : finishColumn pandas column.desc.type.typeId array.dtype (array.elements
          (convertColumnPandas env (replies.map ColumnarRowSet.mk) earlier.length
            column.desc.type st).2) = column.frameColumn pandas column.delivered := by
        rw [shows_.dtype_eq, shows_.elements_eq, ResultColumn.frameColumn,
          ResultColumn.delivered, List.map_map]
        rfl
      rw [List.map_cons, convertColumns, pair, namedColumns]
      cases decodes : env.validText column.desc.columnName with
      | false => rfl
      | true =>
          simp only [finished, if_true]
          cases own : column.frameColumn pandas column.delivered with
          | error raised => rfl
          | ok frameColumn =>
              have rest := ih (split.trans (List.append_cons earlier column columns))
                ((column.desc.columnName, frameColumn) :: converted)
                (convertColumnPandas env (replies.map ColumnarRowSet.mk) earlier.length
                  column.desc.type st).2
              rw [List.length_append, List.length_singleton] at rest
              simp only [rest]
              cases namedColumns pandas env ResultColumn.delivered columns with
              | error raised => rfl
              | ok others => simp [Except.map]

theorem names_namedColumns {entries : ResultColumn → List Element}
    {resultSet : List ResultColumn} {columns : List (Bytes × FrameColumn Datetimes Decimal)}
    (named : namedColumns pandas env entries resultSet = .ok columns) :
    columns.map Prod.fst = (resultSet.map ResultColumn.desc).map ColumnDesc.columnName := by
  induction resultSet generalizing columns with
  | nil =>
      cases named
      rfl
  | cons column resultSet ih =>
      rw [namedColumns] at named
      split_ifs at named
      cases own : column.frameColumn pandas (entries column) with
      | error raised => simp [own] at named
      | ok frameColumn =>
          cases rest : namedColumns pandas env entries resultSet with
          | error raised => simp [own, rest, Except.map] at named
          | ok others =>
              simp only [own, rest, Except.map, Except.ok.injEq] at named
              rw [← named, List.map_cons, ih rest, List.map_cons, List.map_cons]

/-- Distinct names are looked up as they were stored. -/
theorem dataFrame_of_nodup (columns : List (Bytes × FrameColumn Datetimes Decimal))
    (distinct : (columns.map Prod.fst).Nodup) :
    dataFrame (columns.reverse ++ []) (columns.map Prod.fst) =
      columns.map fun column => (column.1, some column.2) := by
  rw [dataFrame, List.map_map, List.append_nil]
  apply List.map_congr_left
  intro column membership
  obtain ⟨before, after, split⟩ := List.append_of_mem (List.mem_reverse.mpr membership)
  have unique : (columns.reverse.map Prod.fst).Nodup := by
    rw [List.map_reverse]
    exact List.nodup_reverse.mpr distinct
  rw [split, List.map_append, List.map_cons] at unique
  have found : columns.reverse.lookup column.1 = some column.2 := by
    refine List.lookup_eq_some_iff.mpr ⟨before, after, split, fun other earlier => ?_⟩
    have differs := (List.nodup_append.mp unique).2.2 other.1 (List.mem_map_of_mem earlier)
      column.1 List.mem_cons_self
    exact bne_iff_ne.mpr differs.symm
  exact Prod.ext rfl found

/-- No batch of a complete fetch is missing. -/
theorem mapM_rowSets (replies : List TFetchResultsResp) :
    (replies.map fun reply => some (ColumnarRowSet.mk reply)).mapM id =
      some (replies.map ColumnarRowSet.mk) := by
  induction replies with
  | nil => rfl
  | cons reply replies ih => simp [ih]

theorem fetchallPandas_eq (succeeds : ∀ call, env.succeeds call = true)
    {resultSet : List ResultColumn}
    (distinct : (resultSet.map fun column => column.desc.columnName).Nodup)
    (valid : ∀ column ∈ resultSet, column.converter.TextsValid env column.cells)
    {replies : List TFetchResultsResp} {later : List (Outcome .fetchResults)}
    (delivers : Delivers resultSet replies) {op : Operation} {batchsize : Option Int}
    (complete : fetchallInternal op batchsize (replies.map fetched ++ later) =
      .complete (replies.map fun reply => some ⟨reply⟩) later) (st : PyState) :
    (fetchallPandas pandas env op batchsize (resultSet.map ResultColumn.desc)
        (replies.map fetched ++ later) st).map Prod.fst =
      some (resultFrame pandas env ResultColumn.delivered resultSet) := by
  have converted := convertColumns_eq pandas succeeds delivers valid
    (List.nil_append resultSet).symm [] st
  rw [fetchallPandas, complete]
  simp only [mapM_rowSets, resultFrame]
  rw [List.length_nil] at converted
  revert converted
  cases convertColumns pandas env (replies.map ColumnarRowSet.mk) 0
    (resultSet.map ResultColumn.desc) [] st with
  | mk result last =>
      intro converted
      cases named : namedColumns pandas env ResultColumn.delivered resultSet with
      | error raised =>
          rw [named] at converted
          obtain rfl : result = .error raised := converted
          rfl
      | ok columns =>
          rw [named] at converted
          obtain rfl : result = .ok (columns.reverse ++ []) := converted
          have names := names_namedColumns pandas named
          have distinctNames : (columns.map Prod.fst).Nodup := by
            rw [names, List.map_map]
            exact distinct
          simp only [Option.map_some, Except.map, ← names]
          rw [dataFrame_of_nodup columns distinctNames]

end Frame

theorem marksNulls_of_ne {typeId : TypeId} {converter : PandasConverter}
    (selected : pandasConverter typeId = some converter) (notFloat : typeId ≠ .float)
    (notDouble : typeId ≠ .double) : converter.marksNulls = true := by
  cases typeId <;> simp_all [pandasConverter] <;> subst selected <;> rfl

/-- An array that shows the rows of a column: one entry for each, which is missing for a null and,
where nulls are marked, for nothing else. The entry is the value of the row exactly if that is no
integer which its way through a float changes. -/
structure ResultColumn.ShownBy (column : ResultColumn) (array : NumpyArray) (st : PyState) :
    Prop where
  dtype_eq : array.dtype = column.converter.dtype column.haveNull
  elements_eq : array.elements st = column.delivered.map some
  length_eq : (array.elements st).length = column.cells.length
  entry : ∀ (j : Nat) cell, column.cells[j]? = some cell →
    ∃ element, (array.elements st)[j]? = some (some element) ∧
      (cell = none → element.isMissing = true) ∧
      (column.desc.type.typeId ≠ .float → column.desc.type.typeId ≠ .double →
        element.isMissing = true → cell = none) ∧
      (element = column.converter.expected column.haveNull cell ↔
        column.converter.Keeps column.haveNull cell)

theorem ResultColumn.shownBy {column : ResultColumn} {array : NumpyArray} {st : PyState}
    (shows_ : Shows column.converter column.cells array st) : column.ShownBy array st := by
  have elements_eq : array.elements st = column.delivered.map some := by
    rw [shows_.elements_eq, delivered, List.map_map]
    rfl
  refine ⟨shows_.dtype_eq, elements_eq, ?_, ?_⟩
  · rw [shows_.elements_eq, List.length_map]
  · intro j cell stored
    refine ⟨column.converter.element column.haveNull cell, ?_, ?_, ?_, ?_⟩
    · rw [elements_eq, List.getElem?_map, delivered, List.getElem?_map, stored]
      rfl
    · rintro rfl
      exact column.converter.isMissing_element_none _
    · intro notFloat notDouble missing
      cases cell with
      | none => rfl
      | some value =>
          rw [PandasConverter.isMissing_element_some
            (marksNulls_of_ne column.selected notFloat notDouble)] at missing
          cases missing
    · exact PandasConverter.element_eq_expected_iff column.selected column.haveNull cell

/-- The rows of a result set reach pandas whatever the sizes of the batches: the fetch loop
takes all replies up to the last and none after it, every array shows the rows of its column, and
the frame is the one that the result set stands for. -/
theorem fetchallPandas_batching {Datetimes Decimal : Type}
    (pandas : PandasEnv Datetimes Decimal) {env : PyEnv}
    (succeeds : ∀ call, env.succeeds call = true) {resultSet : List ResultColumn}
    (distinct : (resultSet.map fun column => column.desc.columnName).Nodup)
    (valid : ∀ column ∈ resultSet, column.converter.TextsValid env column.cells)
    {replies : List TFetchResultsResp} {last : TFetchResultsResp}
    (delivers : Delivers resultSet (replies ++ [last]))
    (more : ∀ reply ∈ replies, reply.hasMoreRows = true) (noMore : last.hasMoreRows = false)
    (op : Operation) {batchsize : Option Int} (fits : ∀ size ∈ batchsize, FitsCInt size)
    (later : List (Outcome .fetchResults)) (st : PyState) :
    fetchallInternal op batchsize ((replies ++ [last]).map fetched ++ later) =
        .complete ((replies ++ [last]).map fun reply => some ⟨reply⟩) later ∧
      (∀ (i : Nat) column, resultSet[i]? = some column →
        ∃ array after, convertColumnPandas env ((replies ++ [last]).map ColumnarRowSet.mk) i
            column.desc.type st = (.ok array, after) ∧ column.ShownBy array after) ∧
      (fetchallPandas pandas env op batchsize (resultSet.map ResultColumn.desc)
        ((replies ++ [last]).map fetched ++ later) st).map Prod.fst =
        some (resultFrame pandas env ResultColumn.delivered resultSet) ∧
      ((∀ column ∈ resultSet, column.Kept) →
        (fetchallPandas pandas env op batchsize (resultSet.map ResultColumn.desc)
          ((replies ++ [last]).map fetched ++ later) st).map Prod.fst =
          some (resultFrame pandas env ResultColumn.expected resultSet)) := by
  have complete : fetchallInternal op batchsize ((replies ++ [last]).map fetched ++ later) =
      .complete ((replies ++ [last]).map fun reply => some ⟨reply⟩) later := by
    rw [fetchallInternal_eq op fits]
    exact fetchallLoop_complete op _ delivers.successful more noMore [] later
  have frame := fetchallPandas_eq pandas succeeds distinct valid delivers complete st
  refine ⟨complete, ?_, frame, fun kept => ?_⟩
  · intro i column present
    obtain ⟨array, returned, shows_⟩ := delivers.convertColumnPandas_shows succeeds present
      (valid column (List.mem_of_getElem? present)) st
    exact ⟨array, _, Prod.ext returned rfl, column.shownBy shows_⟩
  · rw [frame, resultFrame_delivered pandas env kept]

/-- A server that packs its null flags carries the cells. -/
theorem carries_encode {Value : Type} (filler : Value) (cells : List (Option Value)) :
    Carries ⟨cells.map (·.getD filler), pack (cells.map Option.isNone)⟩ cells where
  length_eq := List.length_map _
  covered := by
    rw [length_pack, List.length_map]
    omega
  null := by
    intro j cell present
    have bounded : j < (cells.map Option.isNone).length := by
      rw [List.length_map]
      exact (List.getElem?_eq_some_iff.mp present).1
    rw [bit?_pack _ bounded, List.getElem_map, (List.getElem?_eq_some_iff.mp present).2]
  value := by
    intro j value present
    rw [List.getElem?_map, present]
    rfl

/-- An INT column. -/
def intCells (cells : List (Option Int32)) : ResultColumn where
  desc := { columnName := ascii "a", type := .primitive .int }
  converter := .integer int32Kind
  selected := rfl
  cells := cells

/-- An INT column with a null. -/
def intColumn : ResultColumn := intCells [some 1, none, some 3]

def intReply (cells : List (Option Int32)) (hasMoreRows : Bool) : TFetchResultsResp where
  hasMoreRows := hasMoreRows
  results := { columns := [{ i32Val :=
    { values := cells.map (·.getD 0), nulls := pack (cells.map Option.isNone) } }] }

theorem delivers_intReplies :
    Delivers [intColumn] ([intReply [some 1, none] true, intReply [some 3] true] ++
      [intReply [] false]) where
  successful := by
    intro reply membership
    simp only [List.cons_append, List.nil_append, List.mem_cons, List.not_mem_nil,
      or_false] at membership
    rcases membership with rfl | rfl | rfl <;> rfl
  pieces := by
    intro i column present
    cases i with
    | zero =>
        obtain rfl : intColumn = column := Option.some.inj present
        refine ⟨[[some (1 : Int32), none], [some (3 : Int32)], []], rfl, ?_⟩
        exact .cons ⟨_, rfl, carries_encode (0 : Int32) _⟩
          (.cons ⟨_, rfl, carries_encode (0 : Int32) _⟩
            (.cons ⟨_, rfl, carries_encode (0 : Int32) _⟩ .nil))
    | succ i => simp at present

theorem fetchallPandas_batching_intReplies :
    (fetchallPandas (⟨fun _ => .ok (), fun _ => .ok ()⟩ : PandasEnv Unit Unit) reliableEnv {}
        (some 2) [intColumn.desc] ([intReply [some 1, none] true, intReply [some 3] true,
          intReply [] false].map fetched) {}).map Prod.fst =
      some (.ok [(ascii "a", some (.array .float64 [some (.float64 (binary64.round (1 : Int))),
        some (.float64 .nan), some (.float64 (binary64.round (3 : Int)))]))]) := by
  have more : ∀ reply ∈ [intReply [some 1, none] true, intReply [some 3] true],
      reply.hasMoreRows = true := by
    intro reply membership
    simp only [List.mem_cons, List.not_mem_nil, or_false] at membership
    rcases membership with rfl | rfl <;> rfl
  have valid : ∀ column ∈ [intColumn], column.converter.TextsValid reliableEnv column.cells := by
    intro column membership
    obtain rfl := List.mem_singleton.mp membership
    exact trivial
  have distinct : ([intColumn].map fun column => column.desc.columnName).Nodup :=
    List.nodup_singleton _
  have kept : ∀ column ∈ [intColumn], column.Kept := by
    intro column membership
    obtain rfl := List.mem_singleton.mp membership
    have one : NearestFits 1 := (nearestFits_iff_fitsFloat (by decide)).mpr ⟨1, 0, by decide, rfl⟩
    have three : NearestFits 3 :=
      (nearestFits_iff_fitsFloat (by decide)).mpr ⟨3, 0, by decide, rfl⟩
    exact List.forall_mem_cons.mpr ⟨.inr one,
      List.forall_mem_cons.mpr ⟨trivial, List.forall_mem_singleton.mpr (.inr three)⟩⟩
  have fits : ∀ size ∈ some (2 : Int), FitsCInt size := by
    rintro size ⟨⟩
    decide
  exact (fetchallPandas_batching ⟨fun _ => .ok (), fun _ => .ok ()⟩ succeeds_reliableEnv
    distinct valid delivers_intReplies more rfl {} fits [] {}).2.2.2 kept

/-- One reply with the rows 2^24 + 1 and NULL, from which the array has another number. -/
theorem fetchallPandas_rounds_beside_null :
    let column := intCells [some 16777217, none]
    let reply := intReply column.cells false
    Delivers [column] [reply] ∧ reply.hasMoreRows = false ∧
      (column.expected[0]?.bind Element.number?) = some 16777217 ∧
      ∃ array after, convertColumnPandas reliableEnv [⟨reply⟩] 0 column.desc.type {} =
          (.ok array, after) ∧ array.number? after 0 ≠ some 16777217 := by
  intro column reply
  have delivers : Delivers [column] [reply] := by
    refine ⟨?_, ?_⟩
    · intro other membership
      obtain rfl := List.mem_singleton.mp membership
      rfl
    · intro i other present
      cases i with
      | zero =>
          obtain rfl : column = other := Option.some.inj present
          exact ⟨[column.cells], rfl, .cons ⟨_, rfl, carries_encode (0 : Int32) _⟩ .nil⟩
      | succ i => simp at present
  have fits : binary64.Representable ((16777217 : Int) : ℚ) := by
    have small : |((16777217 : Int) : ℚ)| < (2 : ℚ) ^ (25 : ℤ) := by norm_num
    rw [Format.representable_intCast_iff (by decide)
      (small.trans (zpow_lt_zpow_right₀ (by norm_num) (by decide)))]
    exact ⟨16777217, 0, by decide, by decide⟩
  obtain ⟨array, returned, shows_⟩ :=
    delivers.convertColumnPandas_shows succeeds_reliableEnv (i := 0) rfl trivial {}
  refine ⟨delivers, rfl, Format.value?_round_eq_iff.mpr fits, array, _, Prod.ext returned rfl, ?_⟩
  have elements := shows_.elements_eq
  simp only [List.map_cons, List.map_nil] at elements
  rw [NumpyArray.number?, elements]
  intro delivered
  apply not_fitsFloat_two_pow_24_add_one
  rw [← value?_nanOrInteger_eq_iff (by decide)]
  exact delivered

end HS2Client.Py
