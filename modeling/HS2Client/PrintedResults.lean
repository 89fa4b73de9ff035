import HS2Client.PrintedTables
import HS2Client.Python.WholeResults

/-!
# Printed results

`PrintResults` against a server that keeps cursors. Its tables show the rows that were left, each
of them once; if the metadata does not come after a batch, that batch is not printed, and the
cursor is already behind it.
-/

namespace HS2Client

open AlignedTable BitPacking Cursors Py Runs

variable {Row : Type}

/-- A column of a result set whose cells are measured. -/
structure MeasuredColumn (Row : Type) where
  measured : MeasuredDesc
  cell : Row → Option measured.kind.cls.Value

namespace MeasuredColumn

variable (column : MeasuredColumn Row)

def text (row : Row) : Bytes := (column.cell row).elim nullSymbol column.measured.kind.text

/-- The column of a table that shows some rows. -/
def shown (rows : List Row) : Column UInt8 where
  name := column.measured.desc.columnName
  cells := rows.map column.text
  minWidth := column.measured.kind.minWidth

/-- All digits in these rows can be counted. -/
def Countable (rows : List Row) : Prop :=
  ∀ row ∈ rows, ∀ value, column.cell row = some value → column.measured.kind.Countable value

end MeasuredColumn

/-- The table of some rows. -/
def drawn (table : List (MeasuredColumn Row)) (rows : List Row) : Bytes :=
  render glyphs (table.map (·.shown rows)) rows.length

/-- Batches of any rows carry their cells. -/
def EncodesMeasured (format : RowFormat Row) (table : List (MeasuredColumn Row)) : Prop :=
  ∀ (rows : List Row) (i : Nat) column, table[i]? = some column →
    ∃ tcolumn, (format.rowSet rows).columns[i]? = some tcolumn ∧
      Carries (column.measured.values tcolumn) (rows.map column.cell)

/-- What the server does in one turn of the loop: how many rows it returns at most, and what
becomes of the request for the metadata. -/
structure PrintTurn where
  limit : Nat
  loss : Loss := .none
  metadata : TGetResultSetMetadataResp

namespace PrintTurn

variable (Row) (i : Nat) (turn : PrintTurn)

def fetchEvent : FetchEvent Row where
  call := .onOperation i (.fetch Operation.defaultMaxRows .next)
  limit := turn.limit

def metadataEvent : FetchEvent Row where
  call := .onOperation i .getResultSetMetadata
  loss := turn.loss
  other
    | .getResultSetMetadata, _ => turn.metadata
    | method, req => successResp method req

def events : List (FetchEvent Row) := [turn.fetchEvent Row i, turn.metadataEvent Row i]

/-- The outcome of the request for the metadata. -/
def outcome : Outcome .getResultSetMetadata :=
  if turn.loss = .none then .reply turn.metadata else .exception (ascii "No more data to read.")

/-- The rows that are asked for in a turn, as far as the server returns them. -/
def size : Nat := min turn.limit Operation.defaultMaxRows.toNat

end PrintTurn

/-- The outcomes of the calls that the loop makes in these turns. -/
def turnOutcomes (format : RowFormat Row) (op : Operation) (i : Nat) :
    List PrintTurn → Fetching Row → List TurnOutcomes
  | [], _ => []
  | turn :: turns, state =>
      let fetched := state.step format (turn.fetchEvent Row i)
      { fetch := state.respond format (turn.fetchEvent Row i) .fetchResults
          ({ operationHandle := op.handle,
             orientation := fetchOrientationToTFetchOrientation .next,
             maxRows := Operation.defaultMaxRows } : TFetchResultsReq)
        metadata := fetched.respond format (turn.metadataEvent Row i) .getResultSetMetadata
          ({ operationHandle := op.handle } : TOperationReq) } ::
        turnOutcomes format op i turns (fetched.step format (turn.metadataEvent Row i))

/-! ## Batches -/

theorem cellTexts_of_carries {Value : Type} {values : TValues Value} {cells : List (Option Value)}
    (carries : Carries values cells) (text : Value → Bytes) :
    cellTexts text values.nulls 0 values.values = cells.map (·.elim nullSymbol text) := by
  apply List.ext_getElem?
  intro j
  cases present : cells[j]? with
  | none =>
      have outside : values.values.length ≤ j := by
        rw [carries.length_eq]
        exact List.getElem?_eq_none_iff.mp present
      simp [cellTexts, present, List.getElem?_eq_none outside]
  | some cell =>
      have bounded : j < values.values.length := by
        rw [carries.length_eq]
        exact (List.getElem?_eq_some_iff.mp present).1
      have null := carries.null j cell present
      cases cell with
      | none => simp [cellTexts, present, List.getElem?_eq_getElem bounded, null]
      | some value =>
          have stored := carries.value j value present
          simp [cellTexts, present, stored, null]

section Batches

variable {format : RowFormat Row} {table : List (MeasuredColumn Row)}
  (encodes : EncodesMeasured format table) {rows : List Row}

include encodes

theorem length_table_le (rows : List Row) :
    (table.map MeasuredColumn.measured).length ≤ (format.rowSet rows).columns.length := by
  rw [List.length_map]
  by_contra short
  obtain ⟨tcolumn, present, -⟩ := encodes rows _ _
    (List.getElem?_eq_getElem (Nat.lt_of_not_le short))
  exact Nat.lt_irrefl _ (List.getElem?_eq_some_iff.mp present).1

theorem tableColumns_eq :
    tableColumns (table.map MeasuredColumn.measured) (format.rowSet rows) =
      table.map (·.shown rows) := by
  apply List.ext_getElem?
  intro i
  rw [tableColumns, List.getElem?_zipWith, List.getElem?_map, List.getElem?_map]
  cases present : table[i]? with
  | none => rfl
  | some column =>
      obtain ⟨tcolumn, carried, carries⟩ := encodes rows i column present
      rw [carried]
      simp only [Option.map_some, MeasuredDesc.tableColumn, MeasuredColumn.shown,
        cellTexts_of_carries carries, List.map_map]
      rfl

theorem fitsSchema_rowSet (countable : ∀ column ∈ table, column.Countable rows) :
    FitsSchema (table.map MeasuredColumn.measured) rows.length (format.rowSet rows) where
  wide := length_table_le encodes rows
  filled := by
    intro pair membership
    obtain ⟨i, bound, rfl⟩ := List.getElem_of_mem membership
    rw [List.length_zip, List.length_map] at bound
    obtain ⟨tcolumn, carried, carries⟩ := encodes rows i _
      (List.getElem?_eq_getElem (Nat.lt_of_lt_of_le bound (Nat.min_le_left _ _)))
    obtain ⟨inside, rfl⟩ := List.getElem?_eq_some_iff.mp carried
    simp only [List.getElem_zip, List.getElem_map]
    have length := carries.length_eq
    have covered := carries.covered
    rw [List.length_map] at length covered
    refine ⟨length, covered, fun entry listed flag => ?_⟩
    obtain ⟨value, j⟩ := entry
    have stored := List.mk_mem_zipIdx_iff_getElem?.mp listed
    obtain ⟨jBound, -⟩ := List.getElem?_eq_some_iff.mp stored
    have row : (rows.map table[i].cell)[j]? = some (table[i].cell rows[j]) := by
      simp [length ▸ jBound]
    cases found : table[i].cell rows[j] with
    | none =>
        rw [found] at row
        exact absurd (carries.null j none row) flag
    | some own =>
        rw [found] at row
        cases stored.symm.trans (carries.value j own row)
        exact countable _ (List.getElem_mem _) _ (List.getElem_mem _) _ found

theorem batchTable_eq (nonempty : table ≠ [])
    (countable : ∀ column ∈ table, column.Countable rows) :
    batchTable (table.map MeasuredColumn.measured) (format.rowSet rows) = drawn table rows := by
  have fits := fitsSchema_rowSet encodes countable
  rw [batchTable, fits.batchRows_eq (by simpa using nonempty), tableColumns_eq encodes, drawn]

end Batches

/-! ## Turns -/

/-- What the calls of these turns come to, on a cursor. -/
def servedTurns (format : RowFormat Row) : List PrintTurn → Cursor Row → List TurnOutcomes
  | [], _ => []
  | turn :: turns, cursor =>
      let read := cursor.read false turn.size
      ⟨fetched (format.response cursor.rows read), turn.outcome⟩ ::
        servedTurns format turns (cursor.after read)

/-- The request for the metadata leaves the cursors alone. -/
theorem respond_metadata (format : RowFormat Row) {state : Fetching Row} {i : Nat}
    {object : OperationObject} (present : state.world.operations[i]? = some object)
    (turn : PrintTurn) :
    state.respond format (turn.metadataEvent Row i) .getResultSetMetadata
        ({ operationHandle := object.op.handle } : TOperationReq) = turn.outcome ∧
      (state.step format (turn.metadataEvent Row i)).sets = state.sets ∧
      ∃ later, (state.step format (turn.metadataEvent Row i)).world.operations[i]? = some later ∧
        later.op = object.op := by
  have sent : state.world.request? (turn.metadataEvent Row i).call =
      some ⟨.getResultSetMetadata, ({ operationHandle := object.op.handle } : TOperationReq)⟩ := by
    simp [World.request?, PrintTurn.metadataEvent, World.rpc?, present, OperationCall.rpc,
      Operation.getResultSetMetadata]
  refine ⟨rfl, ?_, ?_⟩
  · show state.setsAfter format (turn.metadataEvent Row i) = _
    rw [Fetching.setsAfter_of_request sent]
    split_ifs <;> rfl
  · have bounded := (List.getElem?_eq_some_iff.mp present).1
    have stepped := state.world.step_onOperation
      (state.respond format (turn.metadataEvent Row i)) present .getResultSetMetadata
    show ∃ later, (state.world.step ⟨.onOperation i .getResultSetMetadata,
      state.respond format (turn.metadataEvent Row i)⟩).operations[i]? = some later ∧ _
    rw [stepped]
    exact ⟨_, List.getElem?_set_self bounded, rfl⟩

theorem turnOutcomes_eq (format : RowFormat Row) (turns : List PrintTurn)
    {state : Fetching Row} {i : Nat} {object : OperationObject} {set : ResultSet Row}
    (present : state.world.operations[i]? = some object)
    (stored : state.sets object.op.handle = some set) (live : set.live = true) :
    turnOutcomes format object.op i turns state = servedTurns format turns set.cursor ∧
      (run (Fetching.step format) state (turns.flatMap (PrintTurn.events Row i))).sets
          object.op.handle =
        some { set with cursor := cursorAfter (turns.map PrintTurn.size) set.cursor } := by
  induction turns generalizing state object set with
  | nil => exact ⟨rfl, stored⟩
  | cons turn turns ih =>
      obtain ⟨answered, storedNext, next, presentNext, sameNext⟩ :=
        respond_next format present stored live Operation.defaultMaxRows turn.limit
      obtain ⟨described, kept, later, presentLater, sameLater⟩ :=
        respond_metadata format presentNext turn
      have same : later.op = object.op := sameLater.trans sameNext
      have storedLater : ((state.step format (turn.fetchEvent Row i)).step format
          (turn.metadataEvent Row i)).sets later.op.handle =
          some { set with cursor := set.cursor.after (set.cursor.read false turn.size) } := by
        rw [same]
        exact (congrFun kept object.op.handle).trans storedNext
      obtain ⟨outcomes, sets⟩ := ih presentLater storedLater live
      rw [same] at outcomes sets
      rw [sameNext] at described
      constructor
      · rw [turnOutcomes, servedTurns]
        exact congrArg₂ List.cons (congrArg₂ TurnOutcomes.mk answered described) outcomes
      · exact sets

/-- How the printing ends before turns of which the first one, if any, has no metadata. -/
def endBefore (later : List PrintTurn) (out : Bytes) : Printed :=
  match later with
  | [] => .waiting out
  | failing :: _ => .finished (out ++ failing.outcome.message)

/-- The outcomes have the batches of these reads printed, and then the printing ends so. -/
structure Prints (format : RowFormat Row) (outcomes : List TurnOutcomes) (reads : List (Read Row))
    (ending : Bytes → Printed) : Prop where
  batches : printedBatches outcomes = reads.map fun read => format.rowSet read.batch
  ending : ∀ out, printedEnd out outcomes = ending out

theorem prints_before (format : RowFormat Row) (later : List PrintTurn)
    (stops : ∀ failing ∈ later.head?, failing.outcome.isSuccess = false) (cursor : Cursor Row) :
    Prints format (servedTurns format later cursor) [] (endBefore later) := by
  cases later with
  | nil => exact ⟨rfl, fun _ => rfl⟩
  | cons failing later =>
      let turn : TurnOutcomes :=
        ⟨fetched (format.response cursor.rows (cursor.read false failing.size)), failing.outcome⟩
      have batch : turn.batch? = none :=
        TurnOutcomes.batch?_eq_none (.inr (stops failing rfl))
      constructor
      · rw [servedTurns, printedBatches, batch]
        rfl
      · intro out
        rw [servedTurns, printedEnd, batch]
        rfl

section Turn

variable (format : RowFormat Row) {turn : PrintTurn} (described : turn.outcome.isSuccess = true)
  (cursor : Cursor Row) (outcomes : List TurnOutcomes)

include described

/-- A turn prints its batch, and the loop goes on if it leaves rows. -/
theorem prints_turn :
    let read := cursor.read false turn.size
    let served := TurnOutcomes.mk (fetched (format.response cursor.rows read)) turn.outcome
    printedBatches (served :: outcomes) = format.rowSet read.batch ::
        (if turn.size < cursor.rows.length - cursor.position then printedBatches outcomes
          else []) ∧
      ∀ out, printedEnd out (served :: outcomes) =
        if turn.size < cursor.rows.length - cursor.position then printedEnd out outcomes
        else .finished out := by
  intro read served
  have batch : served.batch? = some (format.response cursor.rows read) :=
    TurnOutcomes.batch?_eq_some rfl rfl described
  have moreRows : (format.response cursor.rows read).hasMoreRows =
      decide (turn.size < cursor.rows.length - cursor.position) :=
    decide_eq_decide.mpr (stop_read_lt turn.size cursor)
  constructor
  · simp only [printedBatches, batch, moreRows, decide_eq_true_eq]
    rfl
  · intro out
    simp only [printedEnd, batch, moreRows, decide_eq_true_eq]

end Turn

/-- The loop prints the batches up to the one that leaves no rows, or to the first turn without
metadata. -/
theorem prints_served (format : RowFormat Row) (turns later : List PrintTurn)
    (described : ∀ turn ∈ turns, turn.outcome.isSuccess = true)
    (stops : ∀ failing ∈ later.head?, failing.outcome.isSuccess = false) (cursor : Cursor Row) :
    let sizes := turns.map PrintTurn.size
    let outcomes := servedTurns format (turns ++ later) cursor
    match requestsUntil (cursor.rows.length - cursor.position) sizes with
    | some n => Prints format outcomes ((readsWith sizes cursor).take n) .finished
    | none => Prints format outcomes (readsWith sizes cursor) (endBefore later) := by
  induction turns generalizing cursor with
  | nil => exact prints_before format later stops cursor
  | cons turn turns ih =>
      have rest := ih (fun other member => described other (List.mem_cons_of_mem _ member))
        (cursor.after (cursor.read false turn.size))
      obtain ⟨batches, ending⟩ := prints_turn format (described turn List.mem_cons_self) cursor
        (servedTurns format (turns ++ later) (cursor.after (cursor.read false turn.size)))
      by_cases more : turn.size < cursor.rows.length - cursor.position
      · have left : cursor.rows.length - (cursor.position + turn.size) =
            cursor.rows.length - cursor.position - turn.size := by omega
        dsimp only at rest
        rw [rows_after, position_after turn.size cursor more, left] at rest
        simp only [more, if_true] at batches ending
        simp only [List.map_cons, requestsUntil, if_neg (Nat.not_le.mpr more)]
        cases needed : requestsUntil (cursor.rows.length - cursor.position - turn.size)
            (turns.map PrintTurn.size) with
        | some n =>
            rw [needed] at rest
            exact ⟨batches.trans (congrArg (_ :: ·) rest.batches), fun out =>
              (ending out).trans (rest.ending out)⟩
        | none =>
            rw [needed] at rest
            exact ⟨batches.trans (congrArg (_ :: ·) rest.batches), fun out =>
              (ending out).trans (rest.ending out)⟩
      · simp only [more, if_false] at batches ending
        simp only [List.map_cons, requestsUntil, if_pos (Nat.not_lt.mp more)]
        exact ⟨batches, ending⟩

/-! ## Whole outputs -/

theorem MeasuredColumn.Countable.mono {column : MeasuredColumn Row} {rows fewer : List Row}
    (countable : column.Countable rows) (subset : fewer ⊆ rows) : column.Countable fewer :=
  fun row member => countable row (subset member)

theorem batch_subset (cursor : Cursor Row) (size : Nat) :
    (cursor.read false size).batch ⊆ cursor.rows.drop cursor.position :=
  List.take_subset _ _

theorem drop_after_subset (cursor : Cursor Row) (size : Nat) :
    (cursor.after (cursor.read false size)).rows.drop
        (cursor.after (cursor.read false size)).position ⊆
      cursor.rows.drop cursor.position := by
  have split : (cursor.after (cursor.read false size)).rows.drop
        (cursor.after (cursor.read false size)).position =
      (cursor.rows.drop cursor.position).drop (cursor.read false size).batch.length := by
    rw [List.drop_drop]
    rfl
  rw [split]
  exact List.drop_subset _ _

section Whole

variable {format : RowFormat Row} {table : List (MeasuredColumn Row)}
  (encodes : EncodesMeasured format table)

/-- The metadata, when it comes, describes the table. -/
def Describing (table : List (MeasuredColumn Row)) (turns : List PrintTurn) : Prop :=
  ∀ turn ∈ turns, turn.metadata.status.isSuccess = true →
    turn.metadata.schema.columns.map tColumnDescToColumnDesc =
      table.map fun column => column.measured.desc

include encodes

theorem conforms_served {turns : List PrintTurn} (describing : Describing table turns)
    {cursor : Cursor Row}
    (countable : ∀ column ∈ table, column.Countable (cursor.rows.drop cursor.position)) :
    ∀ served ∈ servedTurns format turns cursor,
      served.Conforms (table.map MeasuredColumn.measured) := by
  induction turns generalizing cursor with
  | nil => nofun
  | cons turn turns ih =>
      intro served member
      rcases List.mem_cons.mp member with rfl | later
      · refine ⟨fun resp described success => ?_, fun resp replied _ => ?_⟩
        · dsimp only [PrintTurn.outcome] at described
          split_ifs at described
          cases described
          rw [List.map_map]
          exact describing turn List.mem_cons_self success
        · cases replied
          exact ⟨_, fitsSchema_rowSet encodes fun column member =>
            (countable column member).mono (batch_subset cursor turn.size)⟩
      · refine ih (fun other member => describing other (List.mem_cons_of_mem _ member))
          (fun column member => ?_) served later
        exact (countable column member).mono (drop_after_subset cursor turn.size)

/-- What is printed for the reads of a cursor. -/
theorem flatMap_batchTable (nonempty : table ≠ []) {reads : List (Read Row)}
    (countable : ∀ read ∈ reads, ∀ column ∈ table, column.Countable read.batch) :
    (reads.map fun read => format.rowSet read.batch).flatMap
        (batchTable (table.map MeasuredColumn.measured)) =
      (reads.map Read.batch).flatMap (drawn table) := by
  rw [List.flatMap_map, List.flatMap_map]
  exact List.flatMap_congr fun read member =>
    batchTable_eq encodes nonempty (countable read member)

omit encodes in
theorem readsWith_subset {sizes : List Nat} {cursor : Cursor Row} :
    ∀ read ∈ readsWith sizes cursor, read.batch ⊆ cursor.rows.drop cursor.position := by
  induction sizes generalizing cursor with
  | nil => nofun
  | cons size sizes ih =>
      intro read member
      rcases List.mem_cons.mp member with rfl | later
      · exact batch_subset cursor size
      · exact fun row inside => drop_after_subset cursor size (ih read later inside)

omit encodes in
/-- Successive reads return what lies between the first cursor and the last one. -/
theorem flatten_reads (sizes : List Nat) (cursor : Cursor Row) :
    cursor.position ≤ (cursorAfter sizes cursor).position ∧
      ((readsWith sizes cursor).map Read.batch).flatten =
        (cursor.rows.drop cursor.position).take
          ((cursorAfter sizes cursor).position - cursor.position) := by
  induction sizes generalizing cursor with
  | nil => simp [cursorAfter, readsWith]
  | cons size sizes ih =>
      obtain ⟨grows, flattened⟩ := ih (cursor.after (cursor.read false size))
      have moved : (cursor.after (cursor.read false size)).position =
          cursor.position + (cursor.read false size).batch.length := rfl
      rw [moved] at grows flattened
      refine ⟨by rw [cursorAfter]; omega, ?_⟩
      have batch : (cursor.read false size).batch = (cursor.rows.drop cursor.position).take
          (cursor.read false size).batch.length :=
        List.prefix_iff_eq_take.mp (List.take_prefix _ _)
      have length : (cursorAfter sizes (cursor.after (cursor.read false size))).position -
            cursor.position =
          (cursor.read false size).batch.length +
            ((cursorAfter sizes (cursor.after (cursor.read false size))).position -
              (cursor.position + (cursor.read false size).batch.length)) := by
        omega
      rw [readsWith, List.map_cons, List.flatten_cons, flattened, cursorAfter, length,
        List.take_add, ← batch, List.drop_drop]
      rfl

omit encodes in
theorem readsWith_append (sizes : List Nat) (size : Nat) (cursor : Cursor Row) :
    readsWith (sizes ++ [size]) cursor =
        readsWith sizes cursor ++ [(cursorAfter sizes cursor).read false size] ∧
      cursorAfter (sizes ++ [size]) cursor =
        (cursorAfter sizes cursor).after ((cursorAfter sizes cursor).read false size) := by
  induction sizes generalizing cursor with
  | nil => exact ⟨rfl, rfl⟩
  | cons first sizes ih =>
      obtain ⟨reads, last⟩ := ih (cursor.after (cursor.read false first))
      exact ⟨congrArg (_ :: ·) reads, last⟩

end Whole

/-- The table of one INT column. -/
def measuredInt : List (MeasuredColumn (Option Int32)) :=
  [⟨⟨intColumn.desc, .int, rfl⟩, id⟩]

theorem encodes_measuredInt : EncodesMeasured intFormat measuredInt := by
  intro rows i column present
  cases i with
  | zero =>
      obtain rfl := Option.some.inj present
      exact encodes_intTable rows 0 _ rfl
  | succ i => simp [measuredInt] at present

end HS2Client
