import HS2Client.Client.Fetching
import HS2Client.Python.FetchPandas

/-!
# The fetch loop against a cursor

`fetchall_internal` on an operation of a server that keeps cursors, wherever other calls have left
its cursor. The loop makes as many requests as the rows that are left need and returns them all;
it does not end if it asks for no rows while some are left.
-/

namespace HS2Client.Py

open Cursors Runs

variable {Row : Type}

/-- The reads of a cursor that is asked for the next rows again and again. -/
def readsWith : List Nat → Cursor Row → List (Read Row)
  | [], _ => []
  | size :: sizes, cursor =>
      cursor.read false size :: readsWith sizes (cursor.after (cursor.read false size))

/-- How many requests it takes until no rows are left; the first one is made in any case. -/
def requestsUntil : Nat → List Nat → Option Nat
  | _, [] => none
  | left, size :: sizes =>
      if left ≤ size then some 1 else (requestsUntil (left - size) sizes).map (· + 1)

/-- The requests of the loop; the server answers each with at most `limit` rows. -/
def fetchEvents (Row : Type) (i : Nat) (batchsize : Int) (limits : List Nat) :
    List (FetchEvent Row) :=
  limits.map fun limit => { call := .onOperation i (.fetch batchsize .next), limit := limit }

/-- The outcomes of these requests, none of which is lost. -/
def fetchOutcomes (format : RowFormat Row) (op : Operation) (batchsize : Int) :
    List (FetchEvent Row) → Fetching Row → List (Outcome .fetchResults)
  | [], _ => []
  | event :: events, state =>
      state.respond format event .fetchResults
          ({ operationHandle := op.handle,
             orientation := fetchOrientationToTFetchOrientation .next,
             maxRows := batchsize } : TFetchResultsReq) ::
        fetchOutcomes format op batchsize events (state.step format event)

/-! ## The reads -/

/-- As many requests of one size as the rows left need. -/
theorem requestsUntil_replicate {left size : Nat} (positive : 0 < size) (count : Nat) :
    requestsUntil left (List.replicate count size) =
      if max 1 ((left + size - 1) / size) ≤ count then some (max 1 ((left + size - 1) / size))
      else none := by
  induction count generalizing left with
  | zero => simp [requestsUntil]
  | succ count ih =>
      rw [List.replicate_succ, requestsUntil]
      by_cases last : left ≤ size
      · have one : (left + size - 1) / size ≤ 1 := by
          rw [← Nat.lt_succ_iff, Nat.div_lt_iff_lt_mul positive]
          omega
        rw [if_pos last, max_eq_left one, if_pos (by omega)]
      · have step : (left + size - 1) / size = (left - size + size - 1) / size + 1 := by
          rw [← Nat.add_div_right _ positive]
          congr 1
          omega
        have some_left : 1 ≤ (left - size + size - 1) / size := by
          rw [Nat.le_div_iff_mul_le positive]
          omega
        rw [if_neg last, ih, step, max_eq_right some_left, max_eq_right (by omega)]
        split_ifs with enough enough' enough'
        · rfl
        · omega
        · omega
        · rfl

section Reads

variable (size : Nat) (cursor : Cursor Row)

theorem batch_read :
    (cursor.read false size).batch = (cursor.rows.drop cursor.position).take size := rfl

theorem stop_read_lt :
    (cursor.read false size).stop < cursor.rows.length ↔
      size < cursor.rows.length - cursor.position := by
  simp only [Read.stop, Cursor.read, Bool.false_eq_true, if_false, List.length_take,
    List.length_drop]
  omega

theorem rows_after : (cursor.after (cursor.read false size)).rows = cursor.rows := rfl

theorem position_after (more : size < cursor.rows.length - cursor.position) :
    (cursor.after (cursor.read false size)).position = cursor.position + size := by
  simp only [Cursor.after, Read.stop, Cursor.read, Bool.false_eq_true, if_false, List.length_take,
    List.length_drop]
  omega

end Reads

/-- The reads up to the one that leaves no rows return all the rows that were left. -/
theorem flatten_readsWith {sizes : List Nat} {cursor : Cursor Row} {n : Nat}
    (needed : requestsUntil (cursor.rows.length - cursor.position) sizes = some n) :
    (((readsWith sizes cursor).take n).map Read.batch).flatten =
      cursor.rows.drop cursor.position := by
  induction sizes generalizing cursor n with
  | nil => cases needed
  | cons size sizes ih =>
      rw [requestsUntil] at needed
      split_ifs at needed with last
      · cases needed
        rw [readsWith, List.take_succ_cons, List.take_zero, List.map_singleton,
          List.flatten_singleton, batch_read, List.take_of_length_le]
        rw [List.length_drop]
        exact last
      · obtain ⟨later, neededLater, rfl⟩ := Option.map_eq_some_iff.mp needed
        have moved := position_after size cursor (by omega)
        have rest := @ih (cursor.after (cursor.read false size)) later (by
          rw [rows_after, moved, ← neededLater]
          congr 1
          omega)
        rw [readsWith, List.take_succ_cons, List.map_cons, List.flatten_cons, rest, batch_read,
          rows_after, moved, ← List.drop_drop, List.take_append_drop]

/-- The loop against the replies to its reads. -/
theorem fetchallLoop_reads (op : Operation) (batchsize : Int) (format : RowFormat Row)
    (sizes : List Nat) (cursor : Cursor Row) (batches : List (Option ColumnarRowSet)) :
    let reads := readsWith sizes cursor
    let reply := fun read => fetched (format.response cursor.rows read)
    match requestsUntil (cursor.rows.length - cursor.position) sizes with
    | some n =>
        fetchallLoop op batchsize batches true (reads.map reply) =
          .complete
            (batches ++ (reads.take n).map fun read => some ⟨format.response cursor.rows read⟩)
            ((reads.map reply).drop n)
    | none => fetchallLoop op batchsize batches true (reads.map reply) = .waiting := by
  induction sizes generalizing cursor batches with
  | nil => rfl
  | cons size sizes ih =>
      have first : fetchallLoop op batchsize batches true
          ((readsWith (size :: sizes) cursor).map fun read =>
            fetched (format.response cursor.rows read)) =
          fetchallLoop op batchsize
            (batches ++ [some ⟨format.response cursor.rows (cursor.read false size)⟩])
            (decide (size < cursor.rows.length - cursor.position))
            ((readsWith sizes (cursor.after (cursor.read false size))).map fun read =>
              fetched (format.response cursor.rows read)) := by
        rw [readsWith, List.map_cons, fetchallLoop_cons _ _ _ rfl]
        congr 1
        exact decide_eq_decide.mpr (stop_read_lt size cursor)
      by_cases more : size < cursor.rows.length - cursor.position
      · have rest := ih (cursor.after (cursor.read false size))
          (batches ++ [some ⟨format.response cursor.rows (cursor.read false size)⟩])
        have left : cursor.rows.length - (cursor.position + size) =
            cursor.rows.length - cursor.position - size := by omega
        rw [rows_after, position_after size cursor more, left] at rest
        rw [decide_eq_true more] at first
        rw [requestsUntil, if_neg (by omega)]
        cases needed : requestsUntil (cursor.rows.length - cursor.position - size) sizes with
        | none =>
            rw [needed] at rest
            exact first.trans rest
        | some n =>
            rw [needed] at rest
            exact (first.trans rest).trans (by simp [readsWith])
      · rw [decide_eq_false more, fetchallLoop] at first
        rw [requestsUntil, if_pos (by omega)]
        exact first.trans (by simp [readsWith])

/-! ## The outcomes -/

/-- The request of the loop is served from the result set of the operation. -/
theorem respond_next (format : RowFormat Row) {state : Fetching Row} {i : Nat}
    {object : OperationObject} {set : ResultSet Row}
    (present : state.world.operations[i]? = some object)
    (stored : state.sets object.op.handle = some set) (live : set.live = true) (batchsize : Int)
    (limit : Nat) :
    let event : FetchEvent Row :=
      { call := .onOperation i (.fetch batchsize .next), limit := limit }
    let read := set.cursor.read false (min limit batchsize.toNat)
    state.respond format event .fetchResults
        { operationHandle := object.op.handle,
          orientation := fetchOrientationToTFetchOrientation .next, maxRows := batchsize } =
        fetched (format.response set.cursor.rows read) ∧
      (state.step format event).sets object.op.handle =
        some { set with cursor := set.cursor.after read } ∧
      ∃ later, (state.step format event).world.operations[i]? = some later ∧
        later.op = object.op := by
  intro event read
  let req : TFetchResultsReq :=
    { operationHandle := object.op.handle,
      orientation := fetchOrientationToTFetchOrientation .next, maxRows := batchsize }
  have handled : state.sets.handle format event .fetchResults req =
      (format.response set.cursor.rows read,
        Function.update state.sets object.op.handle
          (some { set with cursor := set.cursor.after read })) := by
    simp [ResultSets.handle, req, stored, live, event, ResultSets.fetch, orientationFromStart?,
      read]
  have sent : state.world.request? event.call = some ⟨.fetchResults, req⟩ := by
    simp [World.request?, event, World.rpc?, present, OperationCall.rpc, Operation.fetchRows, req]
  refine ⟨?_, ?_, ?_⟩
  · show (if event.loss = .none then _ else _) = _
    rw [if_pos rfl, handled]
    rfl
  · show state.setsAfter format event object.op.handle = _
    rw [Fetching.setsAfter_of_request sent, if_neg (by simp [event]), handled]
    exact Function.update_self ..
  · have bounded := (List.getElem?_eq_some_iff.mp present).1
    have stepped := state.world.step_onOperation (state.respond format event) present
      (.fetch batchsize .next)
    show ∃ later, (state.world.step ⟨event.call, _⟩).operations[i]? = some later ∧ _
    rw [stepped]
    exact ⟨_, List.getElem?_set_self bounded, rfl⟩

/-- The cursor after reads of these sizes. -/
def cursorAfter : List Nat → Cursor Row → Cursor Row
  | [], cursor => cursor
  | size :: sizes, cursor => cursorAfter sizes (cursor.after (cursor.read false size))

theorem fetchOutcomes_eq {format : RowFormat Row} {i : Nat} (limits : List Nat)
    {state : Fetching Row} {object : OperationObject} {set : ResultSet Row}
    (present : state.world.operations[i]? = some object)
    (stored : state.sets object.op.handle = some set) (live : set.live = true) (batchsize : Int) :
    let sizes := limits.map (min · batchsize.toNat)
    fetchOutcomes format object.op batchsize (fetchEvents Row i batchsize limits) state =
        (readsWith sizes set.cursor).map
          (fun read => fetched (format.response set.cursor.rows read)) ∧
      (run (Fetching.step format) state (fetchEvents Row i batchsize limits)).sets
          object.op.handle = some { set with cursor := cursorAfter sizes set.cursor } := by
  induction limits generalizing state object set with
  | nil => exact ⟨rfl, stored⟩
  | cons limit limits ih =>
      obtain ⟨answered, storedLater, later, presentLater, same⟩ :=
        respond_next format present stored live batchsize limit
      rw [← same] at storedLater
      obtain ⟨outcomes, sets⟩ := ih presentLater storedLater live
      constructor
      · rw [fetchEvents, List.map_cons, fetchOutcomes, answered, List.map_cons, readsWith,
          List.map_cons, ← same]
        exact congrArg (_ :: ·) outcomes
      · rw [same] at sets
        exact sets

theorem cursorAfter_exhausted {sizes : List Nat} {cursor : Cursor Row} {n : Nat}
    (needed : requestsUntil (cursor.rows.length - cursor.position) sizes = some n)
    (inside : cursor.position ≤ cursor.rows.length) :
    (cursorAfter (sizes.take n) cursor).position = cursor.rows.length := by
  induction sizes generalizing cursor n with
  | nil => cases needed
  | cons size sizes ih =>
      rw [requestsUntil] at needed
      split_ifs at needed with last
      · cases needed
        rw [List.take_succ_cons, List.take_zero, cursorAfter, cursorAfter]
        simp only [Cursor.after, Read.stop, Cursor.read, Bool.false_eq_true, if_false,
          List.length_take, List.length_drop]
        omega
      · obtain ⟨later, neededLater, rfl⟩ := Option.map_eq_some_iff.mp needed
        have moved := position_after size cursor (by omega)
        rw [List.take_succ_cons, cursorAfter]
        apply ih
        · rw [rows_after, moved, ← neededLater]
          congr 1
          omega
        · rw [rows_after, moved]
          omega

/-- The loop against a live result set. -/
theorem fetchallInternal_served (format : RowFormat Row) {state : Fetching Row} {i : Nat}
    {object : OperationObject} {set : ResultSet Row}
    (present : state.world.operations[i]? = some object)
    (stored : state.sets object.op.handle = some set) (live : set.live = true)
    {batchsize : Option Int} (fits : ∀ size ∈ batchsize, FitsCInt size) (limits : List Nat) :
    let size := batchsize.getD defaultBatchsize
    let outcomes := fetchOutcomes format object.op size (fetchEvents Row i size limits) state
    let reads := readsWith (limits.map (min · size.toNat)) set.cursor
    outcomes = (reads.map fun read => fetched (format.response set.cursor.rows read)) ∧
    match requestsUntil (set.cursor.rows.length - set.cursor.position)
        (limits.map (min · size.toNat)) with
    | some n =>
        fetchallInternal object.op batchsize outcomes =
            .complete
              ((reads.take n).map fun read => some ⟨format.response set.cursor.rows read⟩)
              (outcomes.drop n) ∧
          ((reads.take n).map Read.batch).flatten = set.cursor.rows.drop set.cursor.position
    | none => fetchallInternal object.op batchsize outcomes = .waiting := by
  intro size outcomes reads
  have outcomes_eq : outcomes =
      reads.map fun read => fetched (format.response set.cursor.rows read) :=
    (fetchOutcomes_eq limits present stored live size).1
  refine ⟨outcomes_eq, ?_⟩
  rw [fetchallInternal_eq object.op fits]
  have loop := fetchallLoop_reads object.op size format (limits.map (min · size.toNat))
    set.cursor []
  rw [outcomes_eq]
  cases needed : requestsUntil (set.cursor.rows.length - set.cursor.position)
      (limits.map (min · size.toNat)) with
  | none =>
      rw [needed] at loop
      exact loop
  | some n =>
      rw [needed] at loop
      exact ⟨loop, flatten_readsWith needed⟩

end HS2Client.Py
