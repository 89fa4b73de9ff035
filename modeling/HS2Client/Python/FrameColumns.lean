import HS2Client.Python.FetchPandas

/-!
# Columns of the same name

`fetchall_pandas` keeps the converted columns in a dictionary under their names and lets pandas
look them up again. Of several columns of one name the dictionary has only the last.
-/

namespace HS2Client.Py

section Dictionary

variable {Name Value : Type} [BEq Name] [LawfulBEq Name]

/-- Looking up names in a dictionary gives back every stored value exactly when no two values of
one name differ. -/
theorem lookup_reverse_iff (items : List (Name × Value)) :
    (∀ item ∈ items, items.reverse.lookup item.1 = some item.2) ↔
      ∀ item ∈ items, ∀ other ∈ items, item.1 = other.1 → item.2 = other.2 := by
  constructor
  · intro found item member other memberOther same
    have own := found item member
    rw [same, found other memberOther] at own
    exact (Option.some.inj own).symm
  · intro agree item member
    cases found : items.reverse.lookup item.1 with
    | none =>
        have absent := List.lookup_eq_none_iff.mp found item (List.mem_reverse.mpr member)
        simp at absent
    | some value =>
        obtain ⟨before, after, split, -⟩ := List.lookup_eq_some_iff.mp found
        have stored : (item.1, value) ∈ items := by
          rw [← List.mem_reverse, split]
          exact List.mem_append_right before List.mem_cons_self
        rw [agree item member _ stored rfl]

end Dictionary

variable {Datetimes Decimal : Type} (pandas : PandasEnv Datetimes Decimal) (env : PyEnv)

/-- The columns that the loop converts, in order, if all their names decode. -/
def conversions (batches : List ColumnarRowSet) :
    Nat → List ColumnDesc → PyState →
      Except Raised (List (FrameColumn Datetimes Decimal)) × PyState
  | _, [], st => (.ok [], st)
  | i, desc :: schema, st =>
      if env.validText desc.columnName then
        match convertColumnPandas env batches i desc.type st with
        | (.error failure, st) => (.error (.failure failure), st)
        | (.ok array, st) =>
            match finishColumn pandas desc.type.typeId array.dtype (array.elements st) with
            | .error raised => (.error raised, st)
            | .ok column =>
                let (rest, st) := conversions batches (i + 1) schema st
                (rest.map (column :: ·), st)
      else (.error .unicodeDecodeError, st)

/-- The columns under their names. -/
def named (schema : List ColumnDesc) (columns : List (FrameColumn Datetimes Decimal)) :
    List (Bytes × FrameColumn Datetimes Decimal) :=
  (schema.map ColumnDesc.columnName).zip columns

/-- The loop stores each column it converts under its name. -/
theorem convertColumns_eq_conversions (batches : List ColumnarRowSet) (i : Nat)
    (schema : List ColumnDesc) (converted : List (Bytes × FrameColumn Datetimes Decimal))
    (st : PyState) :
    convertColumns pandas env batches i schema converted st =
      ((conversions pandas env batches i schema st).1.map fun columns =>
        (named schema columns).reverse ++ converted,
      (conversions pandas env batches i schema st).2) := by
  induction schema generalizing i converted st with
  | nil => rfl
  | cons desc schema ih =>
      simp only [convertColumns, conversions]
      split_ifs with decodes
      rotate_left
      · rfl
      rcases convertColumnPandas env batches i desc.type st with ⟨failure | array, after⟩
      · rfl
      · dsimp only
        cases finishColumn pandas desc.type.typeId array.dtype (array.elements after) with
        | error raised => rfl
        | ok column =>
            dsimp only
            rw [ih]
            rcases conversions pandas env batches (i + 1) schema after with ⟨raised | columns, last⟩
            · rfl
            · simp [named, Except.map]

/-- Each column of the schema is converted, and each name has been decoded. -/
theorem conversions_covers {batches : List ColumnarRowSet} {i : Nat} {schema : List ColumnDesc}
    {st : PyState} {columns : List (FrameColumn Datetimes Decimal)}
    (converted : (conversions pandas env batches i schema st).1 = .ok columns) :
    columns.length = schema.length ∧
      ∀ desc ∈ schema, env.validText desc.columnName = true := by
  induction schema generalizing i st columns with
  | nil =>
      cases converted
      exact ⟨rfl, by simp⟩
  | cons desc schema ih =>
      rw [conversions] at converted
      split_ifs at converted with decodes
      generalize convertColumnPandas env batches i desc.type st = converts at converted
      rcases converts with ⟨failure | array, after⟩
      · cases converted
      · dsimp only at converted
        cases finished : finishColumn pandas desc.type.typeId array.dtype (array.elements after) with
        | error raised => simp [finished] at converted
        | ok column =>
            cases rest : (conversions pandas env batches (i + 1) schema after).1 with
            | error raised => simp [finished, rest, Except.map] at converted
            | ok others =>
                simp only [finished, rest, Except.map, Except.ok.injEq] at converted
                obtain ⟨length, names⟩ := ih rest
                rw [← converted, List.length_cons, length, List.length_cons]
                exact ⟨rfl, List.forall_mem_cons.mpr ⟨decodes, names⟩⟩

/-- The frame has the converted columns, in order and under their names, exactly when columns of
one name are the same. -/
theorem dataFrame_eq_iff {schema : List ColumnDesc}
    {columns : List (FrameColumn Datetimes Decimal)} (length : columns.length = schema.length) :
    dataFrame (named schema columns).reverse (schema.map ColumnDesc.columnName) =
        (named schema columns).map (fun column => (column.1, some column.2)) ↔
      ∀ column ∈ named schema columns, ∀ other ∈ named schema columns,
        column.1 = other.1 → column.2 = other.2 := by
  have names : schema.map ColumnDesc.columnName = (named schema columns).map Prod.fst := by
    rw [named, List.map_fst_zip (by simp [length])]
  rw [← lookup_reverse_iff, names, dataFrame, List.map_map, List.map_inj_left]
  simp

/-- The row sets that a run of the fetch loop has collected. -/
def FetchAll.rowSets? : FetchAll → Option (List ColumnarRowSet)
  | .complete batches _ => batches.mapM id
  | .raised _ _ => none
  | .overflowError => none
  | .waiting => none

theorem fetchallPandas_returned {op : Operation} {batchsize : Option Int}
    {schema : List ColumnDesc} {outcomes : List (Outcome .fetchResults)} {st after : PyState}
    {frame : List (Bytes × Option (FrameColumn Datetimes Decimal))}
    (returned : fetchallPandas pandas env op batchsize schema outcomes st =
      some (.ok frame, after)) :
    ∃ rowSets columns, (fetchallInternal op batchsize outcomes).rowSets? = some rowSets ∧
      (conversions pandas env rowSets 0 schema st).1 = .ok columns ∧
      frame = dataFrame (named schema columns).reverse (schema.map ColumnDesc.columnName) := by
  unfold fetchallPandas at returned
  generalize fetchallInternal op batchsize outcomes = collected at returned ⊢
  cases collected with
  | waiting => cases returned
  | raised status unused => cases returned
  | overflowError => cases returned
  | complete batches unused =>
      dsimp only [FetchAll.rowSets?] at returned ⊢
      cases pointers : batches.mapM id with
      | none => simp [pointers] at returned
      | some rowSets =>
          simp only [pointers, convertColumns_eq_conversions] at returned
          cases converted : (conversions pandas env rowSets 0 schema st).1 with
          | error raised => simp [converted, Except.map] at returned
          | ok columns =>
              simp only [converted, Except.map, Option.some.injEq, Prod.mk.injEq,
                Except.ok.injEq, List.append_nil] at returned
              exact ⟨rowSets, columns, rfl, converted, returned.1.symm⟩

theorem named_eq_of_nodup {schema : List ColumnDesc}
    {columns : List (FrameColumn Datetimes Decimal)} (length : columns.length = schema.length)
    (distinct : (schema.map ColumnDesc.columnName).Nodup) :
    ∀ column ∈ named schema columns, ∀ other ∈ named schema columns,
      column.1 = other.1 → column.2 = other.2 := by
  have names : ((named schema columns).map Prod.fst).Nodup := by
    rw [named, List.map_fst_zip (by simp [length])]
    exact distinct
  intro column member other present same
  rw [List.inj_on_of_nodup_map names member present same]

/-- A frame that `fetchall_pandas` returns has one column for each column of the schema, in order,
with its name and its conversion, if the names, which all decode, are distinct. The dictionary
forgets all but the last column of a name, which is no loss only if the others are like it. -/
theorem fetchallPandas_columns_of_distinct {op : Operation} {batchsize : Option Int}
    {schema : List ColumnDesc} {outcomes : List (Outcome .fetchResults)} {st after : PyState}
    {frame : List (Bytes × Option (FrameColumn Datetimes Decimal))}
    (returned : fetchallPandas pandas env op batchsize schema outcomes st =
      some (.ok frame, after)) :
    ∃ rowSets columns, (fetchallInternal op batchsize outcomes).rowSets? = some rowSets ∧
      (conversions pandas env rowSets 0 schema st).1 = .ok columns ∧
      columns.length = schema.length ∧
      (∀ desc ∈ schema, env.validText desc.columnName = true) ∧
      ((schema.map ColumnDesc.columnName).Nodup →
        frame = (named schema columns).map fun column => (column.1, some column.2)) ∧
      (frame = (named schema columns).map (fun column => (column.1, some column.2)) ↔
        ∀ column ∈ named schema columns, ∀ other ∈ named schema columns,
          column.1 = other.1 → column.2 = other.2) := by
  obtain ⟨rowSets, columns, fetched, converted, rfl⟩ :=
    fetchallPandas_returned pandas env returned
  obtain ⟨length, names⟩ := conversions_covers pandas env converted
  refine ⟨rowSets, columns, fetched, converted, length, names, ?_, dataFrame_eq_iff length⟩
  intro distinct
  exact (dataFrame_eq_iff length).mpr (named_eq_of_nodup length distinct)

/-- A row with 1 and 2. -/
def twoColumnsReply : TFetchResultsResp where
  results := { columns := [{ i32Val := { values := [1], nulls := [0] } },
    { i32Val := { values := [2], nulls := [0] } }] }

/-- The schema of `select a, b` under two names. -/
def twoNames (first second : String) : List ColumnDesc :=
  [{ columnName := ascii first, type := .primitive .int },
   { columnName := ascii second, type := .primitive .int }]

def unitPandas : PandasEnv Unit Unit := ⟨fun _ => .ok (), fun _ => .ok ()⟩

def int32Column (value : Int) : FrameColumn Unit Unit := .array .int32 [some (.integer value)]

theorem fetchallPandas_columns_distinct_names :
    ∃ after, fetchallPandas unitPandas reliableEnv {} none (twoNames "a" "b")
        [.reply twoColumnsReply] {} =
          some (.ok [(ascii "a", some (int32Column 1)), (ascii "b", some (int32Column 2))], after) ∧
      ∃ rowSets columns,
        (fetchallInternal {} none [.reply twoColumnsReply]).rowSets? = some rowSets ∧
        (conversions unitPandas reliableEnv rowSets 0 (twoNames "a" "b") {}).1 = .ok columns ∧
        [(ascii "a", some (int32Column 1)), (ascii "b", some (int32Column 2))] =
          (named (twoNames "a" "b") columns).map fun column => (column.1, some column.2) := by
  obtain ⟨after, returned⟩ : ∃ after, fetchallPandas unitPandas reliableEnv {} none
      (twoNames "a" "b") [.reply twoColumnsReply] {} = some (.ok [(ascii "a", some (int32Column 1)),
        (ascii "b", some (int32Column 2))], after) := ⟨_, rfl⟩
  obtain ⟨rowSets, columns, fetched, converted, _, _, distinct, _⟩ :=
    fetchallPandas_columns_of_distinct unitPandas reliableEnv returned
  exact ⟨after, returned, rowSets, columns, fetched, converted, distinct (by decide)⟩

/-- Two columns of one name: the frame shows the second one twice. -/
theorem fetchallPandas_loses_first_column :
    (fetchallPandas unitPandas reliableEnv {} none (twoNames "a" "a")
        [.reply twoColumnsReply] {}).map Prod.fst =
          some (.ok [(ascii "a", some (int32Column 2)), (ascii "a", some (int32Column 2))]) ∧
      (conversions unitPandas reliableEnv [⟨twoColumnsReply⟩] 0 (twoNames "a" "a") {}).1 =
        .ok [int32Column 1, int32Column 2] ∧
      [(ascii "a", some (int32Column 2)), (ascii "a", some (int32Column 2))] ≠
        (named (twoNames "a" "a") [int32Column 1, int32Column 2]).map
          (fun column => (column.1, some column.2)) := by
  refine ⟨rfl, rfl, ?_⟩
  simp [named, twoNames, int32Column]

end HS2Client.Py
