import HS2Client.Python.Converters
import Mathlib.Algebra.BigOperators.Group.List.Basic

/-!
# What the row loops compute

The double loop over chunks and rows is one fold over the rows of all chunks, so that a
converter only sees the concatenation of its chunks. Each pass gets one lemma in those
terms, and `ConvertInteger` and `ConvertBoolean` theirs from the two passes.
-/

namespace HS2Client

open FloatingPoint BitPacking

namespace TypedColumn

variable {Value : Type}

/-- Every null bit of the column lies inside its bitmap or on the terminator. -/
def Readable (column : TypedColumn Value) : Prop :=
  ∀ j < column.length, (getBit column.nulls j).isSome

def rowsFrom (nulls : Bytes) (j : Nat) (values : List Value) : List (Bool × Value) :=
  (values.zipIdx j).map fun (value, j) => (getBit nulls j == some true, value)

/-- The rows of a column, each with its null bit. -/
def rows (column : TypedColumn Value) : List (Bool × Value) :=
  rowsFrom column.nulls 0 column.data

/-- The rows as the loops read them: no null bit where it lies outside the bitmap. -/
def readsFrom (nulls : Bytes) (j : Nat) (values : List Value) : List (Option Bool × Value) :=
  (values.zipIdx j).map fun (value, j) => (getBit nulls j, value)

def reads (column : TypedColumn Value) : List (Option Bool × Value) :=
  readsFrom column.nulls 0 column.data

/-- The row that was read, which is not null where there is no bit. -/
def readRow (read : Option Bool × Value) : Bool × Value := (read.1 == some true, read.2)

theorem rows_eq_map_reads (column : TypedColumn Value) :
    column.rows = column.reads.map readRow := by
  rw [reads, readsFrom, List.map_map]
  rfl

theorem flatMap_rows (columns : List (TypedColumn Value)) :
    columns.flatMap rows = (columns.flatMap reads).map readRow := by
  rw [List.map_flatMap]
  apply List.flatMap_congr
  intro column _
  exact column.rows_eq_map_reads

theorem reads_of_readable {column : TypedColumn Value} (readable : column.Readable) :
    column.reads = column.rows.map fun row => (some row.1, row.2) := by
  have same : ∀ read ∈ column.reads, (some (readRow read).1, (readRow read).2) = read := by
    intro read member
    obtain ⟨⟨value, j⟩, present, rfl⟩ := List.mem_map.mp member
    have bounded : j < column.length :=
      (List.getElem?_eq_some_iff.mp (List.mem_zipIdx_iff_getElem?.mp present)).1
    obtain ⟨bit, found⟩ := Option.isSome_iff_exists.mp (readable j bounded)
    cases bit <;> simp [readRow, found]
  rw [rows_eq_map_reads, List.map_map]
  exact ((List.map_congr_left same).trans (List.map_id' _)).symm

@[simp] theorem length_rows (column : TypedColumn Value) : column.rows.length = column.length := by
  simp [rows, rowsFrom, length]

/-- What the server says about a row: nothing for a null. -/
def cell (row : Bool × Value) : Option Value := if row.1 then none else some row.2

end TypedColumn

namespace Py

open TypedColumn

section Loops

variable {Value State Stop : Type} {fault : State → Stop}
  {step : State → Bool → Value → Except Stop State}

/-- The step of a row whose null bit may be out of reach. -/
def readStep (fault : State → Stop) (step : State → Bool → Value → Except Stop State)
    (state : State) (read : Option Bool × Value) : Except Stop State :=
  match read.1 with
  | none => .error (fault state)
  | some isNull => step state isNull read.2

theorem rowLoop_eq (nulls : Bytes) (j : Nat) (values : List Value) (state : State) :
    rowLoop fault step nulls j values state =
      (readsFrom nulls j values).foldlM (readStep fault step) state := by
  induction values generalizing j state with
  | nil => rfl
  | cons value values ih =>
      have row : readsFrom nulls j (value :: values) =
          (getBit nulls j, value) :: readsFrom nulls (j + 1) values := rfl
      rw [row, List.foldlM_cons, rowLoop, readStep]
      cases getBit nulls j with
      | none => rfl
      | some isNull =>
          dsimp only
          cases step state isNull value with
          | error stop => rfl
          | ok next => exact ih (j + 1) next

/-- The double loop folds its step over the rows of all chunks. -/
theorem chunkLoop_eq (columns : List (TypedColumn Value)) (state : State) :
    chunkLoop fault step columns state =
      (columns.flatMap reads).foldlM (readStep fault step) state := by
  induction columns generalizing state with
  | nil => rfl
  | cons column columns ih =>
      have chunk : rowLoop fault step column.nulls 0 column.data state =
          column.reads.foldlM (readStep fault step) state := rowLoop_eq _ _ _ _
      rw [chunkLoop, chunk, List.flatMap_cons, List.foldlM_append]
      cases column.reads.foldlM (readStep fault step) state with
      | error stop => rfl
      | ok next => exact ih next

theorem chunkLoop_eq_foldlM {columns : List (TypedColumn Value)} (state : State)
    (readable : ∀ column ∈ columns, column.Readable) :
    chunkLoop fault step columns state =
      (columns.flatMap rows).foldlM (fun state row => step state row.1 row.2) state := by
  have read : columns.flatMap reads =
      (columns.flatMap rows).map fun row => (some row.1, row.2) := by
    rw [List.map_flatMap]
    apply List.flatMap_congr
    intro column member
    exact reads_of_readable (readable column member)
  rw [chunkLoop_eq, read, List.foldlM_map]
  rfl

theorem totalLength_eq (columns : List (TypedColumn Value)) :
    totalLength columns = (columns.flatMap rows).length := by
  simp [totalLength, List.length_flatMap]

end Loops

/-! ## The passes -/

section Passes

variable {Value Entry Stop : Type}

theorem Buffer.push_of_lt {out : Buffer Entry} (room : out.written.length < out.capacity)
    (entry : Entry) (fault : Stop) :
    out.push entry fault = .ok { out with written := out.written ++ [entry] } := by
  rw [Buffer.push, if_pos room]

theorem foldlM_optimistic (entry : Value → Entry) (rows : List (Bool × Value))
    (out : Buffer Entry) (room : out.written.length + rows.length ≤ out.capacity) :
    rows.foldlM (fun (out : Buffer Entry) row =>
      if row.1 then Except.error OptimisticStop.haveNull
      else out.push (entry row.2) .undefined) out =
      if rows.any Prod.fst then .error .haveNull
      else .ok { out with written := out.written ++ rows.map fun row => entry row.2 } := by
  induction rows generalizing out with
  | nil => simp [pure, Except.pure]
  | cons row rows ih =>
      obtain ⟨isNull, value⟩ := row
      cases isNull with
      | true => rfl
      | false =>
          rw [List.length_cons] at room
          have rest := ih { out with written := out.written ++ [entry value] }
            (by simp only [List.length_append, List.length_singleton]; omega)
          rw [List.foldlM_cons, if_neg Bool.false_ne_true, Buffer.push_of_lt (by omega)]
          simpa [bind, Except.bind, -List.any_eq_true] using rest

theorem foldlM_fill (entry : Bool → Value → Entry) (rows : List (Bool × Value))
    (out : Buffer Entry) (room : out.written.length + rows.length ≤ out.capacity) :
    rows.foldlM (fun (out : Buffer Entry) row =>
      out.push (entry row.1 row.2) Failure.undefined) out =
      .ok { out with written := out.written ++ rows.map fun row => entry row.1 row.2 } := by
  induction rows generalizing out with
  | nil => simp [pure, Except.pure]
  | cons row rows ih =>
      rw [List.length_cons] at room
      have rest := ih { out with written := out.written ++ [entry row.1 row.2] }
        (by simp only [List.length_append, List.length_singleton]; omega)
      rw [List.foldlM_cons, Buffer.push_of_lt (by omega)]
      simpa [bind, Except.bind] using rest

variable {columns : List (TypedColumn Value)}

theorem optimisticPass_eq (readable : ∀ column ∈ columns, column.Readable)
    (entry : Value → Entry) :
    optimisticPass entry columns =
      if (columns.flatMap rows).any Prod.fst then .error .haveNull
      else .ok ⟨totalLength columns, (columns.flatMap rows).map fun row => entry row.2⟩ := by
  rw [optimisticPass, chunkLoop_eq_foldlM _ readable, foldlM_optimistic]
  · simp [Buffer.new]
  · simp [Buffer.new, totalLength_eq]

theorem fillPass_eq (readable : ∀ column ∈ columns, column.Readable)
    (entry : Bool → Value → Entry) :
    fillPass entry columns =
      .ok ⟨totalLength columns, (columns.flatMap rows).map fun row => entry row.1 row.2⟩ := by
  rw [fillPass, chunkLoop_eq_foldlM _ readable, foldlM_fill]
  · simp [Buffer.new]
  · simp [Buffer.new, totalLength_eq]

theorem Buffer.finish_full (rows : List (Bool × Value)) (entry : Bool × Value → Entry)
    (array : List Entry → NumpyArray) (capacity : Nat) (full : capacity = rows.length) :
    Buffer.finish ⟨capacity, rows.map entry⟩ array = .ok (array (rows.map entry)) := by
  simp [Buffer.finish, full]

end Passes

end Py

end HS2Client
