import HS2Client.Python.Interning

/-!
# References of string columns

An array that `ConvertString` returns shares its strings by content, and nothing else holds them.
Where it returns `nullptr`, what it has created until then stays behind.
-/

namespace HS2Client.Py

open TypedColumn

/-! ## Returned arrays -/

/-- The slots of an array for the rows of a column, row by row and object by object. -/
structure SharesByContent (before after : PyState) (slots : List ObjRef)
    (rows : List (Bool × Bytes)) : Prop where
  length : slots.length = rows.length
  null : ∀ (i : Nat) (row : Bool × Bytes), rows[i]? = some row →
    (slots[i]? = some .none ↔ row.1 = true)
  content : ∀ (i : Nat) (text : Bytes), rows[i]? = some (false, text) →
    ∃ id, slots[i]? = some (.string id) ∧ after.textAt id = some text
  shared : ∀ (i j : Nat) (text other : Bytes), rows[i]? = some (false, text) →
    rows[j]? = some (false, other) → (slots[i]? = slots[j]? ↔ text = other)
  created : ∀ id, .string id ∈ slots → before.strings.length ≤ id
  counted : ∀ id, before.strings.length ≤ id → after.refsAt id = slots.count (.string id)
  kept : ∀ id < before.strings.length, after.strings[id]? = before.strings[id]?
  noneRefs : after.noneRefs = before.noneRefs + rows.countP Prod.fst
  arrays : after.arrays = before.arrays + 1
  dicts : after.dicts = before.dicts

section Shown

variable {st : PyState} {slots : List ObjRef} {rows : List (Bool × Bytes)}

theorem exists_slot (shown : List.Forall₂ (ObjRef.Shows st) slots (rows.map cell)) {i : Nat}
    {row : Bool × Bytes} (present : rows[i]? = some row) :
    ∃ object, slots[i]? = some object ∧ object.Shows st (cell row) := by
  induction rows generalizing slots i with
  | nil => cases present
  | cons first rows ih =>
      obtain _ | ⟨shows_, rest⟩ := shown
      cases i with
      | zero =>
          obtain rfl : first = row := by simpa using present
          exact ⟨_, rfl, shows_⟩
      | succ i => exact ih rest present

theorem exists_string (shown : List.Forall₂ (ObjRef.Shows st) slots (rows.map cell)) {i : Nat}
    {text : Bytes} (present : rows[i]? = some (false, text)) :
    ∃ id, slots[i]? = some (.string id) ∧ st.textAt id = some text := by
  obtain ⟨object, found, shows_⟩ := exists_slot shown present
  cases object with
  | string id => exact ⟨id, found, shows_⟩
  | none => cases shows_
  | true => cases shows_
  | false => cases shows_

theorem eq_none_iff {object : ObjRef} {row : Bool × Bytes}
    (shows_ : object.Shows st (cell row)) : object = .none ↔ row.1 = true := by
  obtain ⟨isNull, text⟩ := row
  cases object <;> cases isNull <;> simp_all [ObjRef.Shows, cell]

theorem count_none (shown : List.Forall₂ (ObjRef.Shows st) slots (rows.map cell)) :
    slots.count .none = rows.countP Prod.fst := by
  induction rows generalizing slots with
  | nil =>
      cases shown
      rfl
  | cons row rows ih =>
      obtain _ | ⟨shows_, rest⟩ := shown
      simp only [List.count_cons, List.countP_cons, ih rest, beq_iff_eq, eq_none_iff shows_]

end Shown

theorem Interned.sharesByContent {before after : PyState} {slots : List ObjRef}
    {rows : List (Bool × Bytes)} (interned : Interned before after slots (rows.map cell)) :
    SharesByContent before after slots rows where
  length := by simpa using interned.shown.length_eq
  null := by
    intro i row present
    obtain ⟨object, found, shows_⟩ := exists_slot interned.shown present
    rw [found, Option.some.injEq, eq_none_iff shows_]
  content := fun i text present => exists_string interned.shown present
  shared := by
    intro i j text other first second
    obtain ⟨id, found, shows_⟩ := exists_string interned.shown first
    obtain ⟨id', found', shows'⟩ := exists_string interned.shown second
    rw [found, found', Option.some.injEq, ObjRef.string.injEq]
    constructor
    · rintro rfl
      rw [shows_] at shows'
      exact Option.some.inj shows'
    · rintro rfl
      apply interned.shared id id' (List.mem_of_getElem? found) (List.mem_of_getElem? found')
      rw [shows_, shows']
  created := interned.created
  counted := interned.counted
  kept := interned.kept
  noneRefs := by rw [interned.noneRefs, count_none interned.shown]
  arrays := interned.arrays
  dicts := interned.dicts

/-- Whenever `ConvertString` returns an array, its slots share the strings by content and are the
only references to them, and it does return one unless a call that it makes fails, a text is not
valid or a null bit is out of reach. -/
theorem convertString_shares_by_content (env : PyEnv) (columns : List (TypedColumn Bytes))
    (st : PyState) :
    (∀ array after, convertString env columns st = (.ok array, after) →
      ∃ slots, array = .object slots ∧
        SharesByContent st after slots (columns.flatMap rows)) ∧
      ((∀ call, st.calls ≤ call → call < (convertString env columns st).2.calls →
          env.succeeds call = true) →
        (∀ row ∈ columns.flatMap rows, row.1 = false → env.validText row.2 = true) →
        (∀ column ∈ columns, column.Readable) →
        ∃ array, (convertString env columns st).1 = .ok array) := by
  refine ⟨?_, convertString_returns⟩
  intro array after returned
  obtain ⟨slots, same, interned⟩ := interned_of_returned returned
  exact ⟨slots, same, interned.sharesByContent⟩

/-- The rows `a` and null in one batch, `a` and `b` in the next. -/
def twoBatches : List (TypedColumn Bytes) := [⟨[2], [[97], []]⟩, ⟨[0], [[97], [98]]⟩]

theorem convertString_shares_two_batches :
    ∃ slots, (convertString reliableEnv twoBatches {}).1 = .ok (.object slots) ∧
      slots = [.string 0, .none, .string 0, .string 2] ∧
      SharesByContent {} (convertString reliableEnv twoBatches {}).2 slots
        (twoBatches.flatMap rows) := by
  obtain ⟨shares, returns⟩ := convertString_shares_by_content reliableEnv twoBatches {}
  have readable : ∀ column ∈ twoBatches, column.Readable := by
    intro column member
    simp only [twoBatches, List.mem_cons, List.not_mem_nil, or_false] at member
    rcases member with rfl | rfl <;> simp [Readable] <;> decide
  obtain ⟨array, returned⟩ := returns (fun _ _ _ => rfl) (fun _ _ _ => rfl) readable
  obtain ⟨slots, rfl, shared⟩ := shares array _ (Prod.ext returned rfl)
  have evaluated : (convertString reliableEnv twoBatches {}).1 =
      .ok (.object [.string 0, .none, .string 0, .string 2]) := by decide
  rw [evaluated] at returned
  cases returned
  exact ⟨_, evaluated, rfl, shared⟩

/-! ## Failed conversions -/

/-- Every reference that was taken has been given back. -/
structure Released (before after : PyState) : Prop where
  arrays : after.arrays = before.arrays
  dicts : after.dicts = before.dicts
  noneRefs : after.noneRefs = before.noneRefs
  trueRefs : after.trueRefs = before.trueRefs
  falseRefs : after.falseRefs = before.falseRefs
  strings : ∀ id, after.refsAt id = before.refsAt id

/-- The array with the slots for some rows and the table stay, and hold their strings. -/
structure LeftBehind (before after : PyState) (slots : List ObjRef)
    (rows : List (Bool × Bytes)) : Prop where
  shown : List.Forall₂ (ObjRef.Shows after) slots (rows.map cell)
  held : ∀ id, .string id ∈ slots → after.refsAt id = slots.count (.string id) + 2
  noneRefs : after.noneRefs = before.noneRefs + rows.countP Prod.fst
  arrays : after.arrays = before.arrays + 1
  dicts : after.dicts = before.dicts + 1

section Failed

variable {env : PyEnv} {columns : List (TypedColumn Bytes)} {st after : PyState}

/-- Nothing is given back where the loop stops. -/
theorem StringLoop.Stops.keeps {state : StringLoop} {read : Option Bool × Bytes}
    {failure : Failure} (stops : state.Stops env read (failure, after)) :
    after.noneRefs = state.st.noneRefs ∧ after.arrays = state.st.arrays ∧
      after.dicts = state.st.dicts ∧
      ∀ id < state.st.strings.length, after.strings[id]? = state.st.strings[id]? := by
  cases stops with
  | unread value => exact ⟨rfl, rfl, rfl, fun _ _ => rfl⟩
  | notCreated value fails => exact ⟨rfl, rfl, rfl, fun _ _ => rfl⟩
  | notEntered value fails =>
      exact ⟨rfl, rfl, rfl, fun id inside => state.st.getElem?_newString_of_lt value inside⟩

theorem leftBehind_of_stops {capacity : Nat} {past : List (Option Bool × Bytes)}
    {state : StringLoop} {read : Option Bool × Bytes} {failure : Failure}
    (reaches : state.Reaches st.entered capacity past)
    (stops : state.Stops env read (failure, after)) :
    LeftBehind st after state.out.written (past.map readRow) := by
  have same : past.map readCell = (past.map readRow).map cell := by
    rw [List.map_map]
    rfl
  obtain ⟨accounts, -, -⟩ := reaches
  obtain ⟨noneRefs, arrays, dicts, kept⟩ := stops.keeps
  rw [same] at accounts
  constructor
  case shown =>
    refine accounts.shown.imp fun _ _ => StringLoop.Accounts.shows_mono ?_
    intro id text present
    unfold PyState.textAt
    rw [kept id (PyState.lt_length_of_textAt present)]
    exact present
  case held =>
    intro id member
    have entry := accounts.held id member
    have bounds := accounts.fresh id entry
    have stays : after.refsAt id = state.st.refsAt id := by
      unfold PyState.refsAt
      rw [kept id bounds.2]
    rw [stays, accounts.counted id bounds.1, List.count_eq_one_of_mem accounts.nodup entry]
  case noneRefs =>
    rw [noneRefs, accounts.noneRefs, count_none accounts.shown]
    rfl
  case arrays => exact arrays.trans accounts.arrays
  case dicts => exact dicts.trans accounts.dicts

/-- `ConvertString` gives back what it has taken only if that is nothing: the allocation of the
array is the call that fails. Where a row fails, the strings and slots of the rows before it stay
behind. -/
theorem convertString_releases_iff
    (failed : (convertString env columns st).1 = .error .apiError) :
    (Released st (convertString env columns st).2 ↔ env.succeeds st.calls = false) ∧
      (env.succeeds st.calls = true → env.succeeds (st.calls + 1) = true →
        ∃ before row later slots, columns.flatMap rows = before ++ row :: later ∧
          row.1 = false ∧ LeftBehind st (convertString env columns st).2 slots before) := by
  have conversion := stringConversion env columns st
  revert failed conversion
  generalize convertString env columns st = outcome
  intro failed conversion
  cases conversion with
  | noArray fails =>
      refine ⟨iff_of_true ⟨rfl, rfl, rfl, rfl, rfl, fun _ => rfl⟩ fails, fun allocated => ?_⟩
      simp [fails] at allocated
  | noTable allocated fails =>
      refine ⟨iff_of_false (fun released => ?_) (by simp [allocated]), fun _ created => ?_⟩
      · exact Nat.succ_ne_self _ released.arrays
      · simp [fails] at created
  | returned last accounts => cases failed
  | @stopped allocated past rest read state failure after split reaches stops =>
      have left := leftBehind_of_stops reaches stops
      refine ⟨iff_of_false (fun released => ?_) (by simp [allocated]), fun _ _ => ?_⟩
      · exact Nat.succ_ne_self _ (left.arrays.symm.trans released.arrays)
      · refine ⟨past.map readRow, readRow read, rest.map readRow, _, ?_, ?_, left⟩
        · rw [flatMap_rows, split, List.map_append, List.map_cons]
        · cases stops with
          | unread value => cases failed
          | notCreated value fails => rfl
          | notEntered value fails => rfl

end Failed

/-- Every call succeeds, but the byte 255 alone makes no string. -/
def strictEnv : PyEnv := ⟨fun _ => true, fun text => text ≠ [255]⟩

/-- The row `a`, a null, and one that makes no string. -/
def invalidThird : List (TypedColumn Bytes) := [⟨[2], [[97], [], [255]]⟩]

theorem convertString_releases_iff_invalidThird :
    (convertString strictEnv invalidThird {}).1 = .error .apiError ∧
      (Released {} (convertString strictEnv invalidThird {}).2 ↔
        strictEnv.succeeds 0 = false) ∧
      ∃ before row later slots, invalidThird.flatMap rows = before ++ row :: later ∧
        row.1 = false ∧
        LeftBehind {} (convertString strictEnv invalidThird {}).2 slots before := by
  have failed : (convertString strictEnv invalidThird {}).1 = .error .apiError := by decide
  obtain ⟨released, left⟩ := convertString_releases_iff failed
  exact ⟨failed, released, left rfl rfl⟩

/-- The string `a` is left with three references, next to the array, the table and a reference on
`None`. -/
theorem convertString_leaks_invalidThird :
    convertString strictEnv invalidThird {} =
        (.error .apiError,
          { calls := 5, noneRefs := 1, strings := [⟨[97], 3⟩], arrays := 1, dicts := 1 }) ∧
      ¬ Released {} (convertString strictEnv invalidThird {}).2 := by
  refine ⟨by decide, fun released => ?_⟩
  exact absurd released.arrays (by decide)

end HS2Client.Py
