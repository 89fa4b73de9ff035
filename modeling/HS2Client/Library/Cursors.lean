import Mathlib.Data.List.Basic

/-!
# Reading a list through a cursor

A cursor stands somewhere in a list of rows. A read takes rows from there, or from the start, and
moves the cursor behind them. `Chained` says of a sequence of reads that each one went on where
the one before it ended, unless it began at the start.
-/

namespace Cursors

variable {Row : Type}

structure Cursor (Row : Type) where
  rows : List Row
  position : Nat := 0

structure Read (Row : Type) where
  start : Nat
  batch : List Row
  fromStart : Bool

def Read.stop (read : Read Row) : Nat := read.start + read.batch.length

namespace Cursor

/-- Read at most `limit` rows. -/
def read (cursor : Cursor Row) (fromStart : Bool) (limit : Nat) : Read Row :=
  let start := if fromStart then 0 else cursor.position
  ⟨start, (cursor.rows.drop start).take limit, fromStart⟩

def after (cursor : Cursor Row) (read : Read Row) : Cursor Row :=
  { cursor with position := read.stop }

end Cursor

/-- The reads of a list that lead from its start to a position. -/
inductive Chained (rows : List Row) : List (Read Row) → Nat → Prop
  | nil : Chained rows [] 0
  | snoc {reads : List (Read Row)} {position : Nat} {read : Read Row}
      (chained : Chained rows reads position)
      (begins : read.start = if read.fromStart then 0 else position)
      (takes : read.batch <+: rows.drop read.start)
      (inside : read.stop ≤ rows.length) : Chained rows (reads ++ [read]) read.stop

namespace Chained

variable {rows : List Row} {reads : List (Read Row)} {position : Nat}

theorem position_le (chained : Chained rows reads position) : position ≤ rows.length := by
  cases chained with
  | nil => exact Nat.zero_le _
  | snoc _ _ _ inside => exact inside

theorem stop_le (chained : Chained rows reads position) :
    ∀ read ∈ reads, read.stop ≤ rows.length := by
  induction chained with
  | nil => simp
  | snoc _ _ _ inside ih =>
      intro read member
      rcases List.mem_append.mp member with earlier | last
      · exact ih read earlier
      · obtain rfl := List.mem_singleton.mp last
        exact inside

theorem read {cursor : Cursor Row} (chained : Chained cursor.rows reads cursor.position)
    (fromStart : Bool) (limit : Nat) :
    Chained (cursor.after (cursor.read fromStart limit)).rows
      (reads ++ [cursor.read fromStart limit])
      (cursor.after (cursor.read fromStart limit)).position := by
  have within := chained.position_le
  refine .snoc chained rfl (List.take_prefix _ _) ?_
  show (cursor.read fromStart limit).stop ≤ cursor.rows.length
  unfold Read.stop Cursor.read
  cases fromStart with
  | true =>
      simp only [if_true, List.drop_zero, List.length_take]
      omega
  | false =>
      simp only [Bool.false_eq_true, if_false, List.length_take, List.length_drop]
      omega

/-- Reads that only go on have read the rows before the cursor, each of them once and in order. -/
theorem flatten_eq (chained : Chained rows reads position)
    (goesOn : ∀ read ∈ reads, read.fromStart = false) :
    (reads.map Read.batch).flatten = rows.take position := by
  induction chained with
  | nil => rfl
  | @snoc reads position read chained begins takes inside ih =>
      have earlier := ih fun other member => goesOn other (List.mem_append_left _ member)
      have continues : read.fromStart = false :=
        goesOn read (List.mem_append_right _ List.mem_cons_self)
      rw [continues] at begins
      have start : read.start = position := begins
      rw [List.map_append, List.flatten_append, earlier, Read.stop, start]
      rw [start] at takes
      have batch : read.batch = (rows.drop position).take read.batch.length :=
        List.prefix_iff_eq_take.mp takes
      rw [List.take_add, ← batch]
      simp

end Chained

end Cursors
