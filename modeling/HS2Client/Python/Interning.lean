import HS2Client.Library.Runs
import HS2Client.Python.NumericArrays

/-!
# Interned strings

`ConvertString` shares one string object between all rows with equal text. The invariant of
its loop accounts for every reference: an object created by the conversion is held once by
each slot that refers to it and twice by the intern table.
-/

namespace HS2Client.Py

open TypedColumn

namespace PyState

def textAt (st : PyState) (id : Nat) : Option Bytes := st.strings[id]?.map StringObject.text

def refsAt (st : PyState) (id : Nat) : Nat := (st.strings[id]?.map StringObject.refs).getD 0

@[simp] theorem length_strings_incref (st : PyState) (object : ObjRef) :
    (st.incref object).strings.length = st.strings.length := by
  cases object <;> simp [incref]

@[simp] theorem length_strings_decref (st : PyState) (object : ObjRef) :
    (st.decref object).strings.length = st.strings.length := by
  cases object <;> simp [decref]

@[simp] theorem textAt_incref (st : PyState) (object : ObjRef) (id : Nat) :
    (st.incref object).textAt id = st.textAt id := by
  cases object with
  | string target =>
      simp only [textAt, incref, List.getElem?_modify]
      cases st.strings[id]? <;> by_cases same : target = id <;> simp [same]
  | _ => rfl

@[simp] theorem textAt_decref (st : PyState) (object : ObjRef) (id : Nat) :
    (st.decref object).textAt id = st.textAt id := by
  cases object with
  | string target =>
      simp only [textAt, decref, List.getElem?_modify]
      cases st.strings[id]? <;> by_cases same : target = id <;> simp [same]
  | _ => rfl

theorem refsAt_incref_string (st : PyState) {target : Nat} (exists_ : target < st.strings.length)
    (id : Nat) :
    (st.incref (.string target)).refsAt id = st.refsAt id + if target = id then 1 else 0 := by
  simp only [refsAt, incref, List.getElem?_modify]
  by_cases same : target = id
  · subst same
    simp [List.getElem?_eq_getElem exists_]
  · simp [same]

theorem refsAt_decref_string (st : PyState) (target id : Nat) :
    (st.decref (.string target)).refsAt id = st.refsAt id - if target = id then 1 else 0 := by
  simp only [refsAt, decref, List.getElem?_modify]
  cases st.strings[id]? <;> by_cases same : target = id <;> simp [same]

theorem getElem?_strings_incref_ne (st : PyState) {target id : Nat} (other : target ≠ id) :
    (st.incref (.string target)).strings[id]? = st.strings[id]? := by
  simp [incref, other]

theorem getElem?_strings_decref_ne (st : PyState) {target id : Nat} (other : target ≠ id) :
    (st.decref (.string target)).strings[id]? = st.strings[id]? := by
  simp [decref, other]

theorem lt_length_of_textAt {st : PyState} {id : Nat} {text : Bytes}
    (present : st.textAt id = some text) : id < st.strings.length := by
  obtain ⟨obj, found, _⟩ := Option.map_eq_some_iff.mp present
  exact (List.getElem?_eq_some_iff.mp found).1

theorem refsAt_of_length_le {st : PyState} {id : Nat} (outside : st.strings.length ≤ id) :
    st.refsAt id = 0 := by
  simp [refsAt, List.getElem?_eq_none outside]

/-- `str = PyUnicode_FromStringAndSize(…)`: a new object with one reference. -/
def newString (st : PyState) (data : Bytes) : PyState :=
  { st with calls := st.calls + 1, strings := st.strings ++ [⟨data, 1⟩] }

theorem textAt_newString (st : PyState) (data : Bytes) (id : Nat) :
    (st.newString data).textAt id =
      if id = st.strings.length then some data else st.textAt id := by
  by_cases same : id = st.strings.length
  · simp [textAt, newString, same]
  · rcases Nat.lt_or_gt_of_ne same with inside | outside
    · simp [textAt, newString, same, List.getElem?_append_left inside]
    · have none : (st.strings ++ [(⟨data, 1⟩ : StringObject)]).length ≤ id := by simp; omega
      simp [textAt, newString, same, List.getElem?_eq_none none,
        List.getElem?_eq_none outside.le]

theorem refsAt_newString (st : PyState) (data : Bytes) (id : Nat) :
    (st.newString data).refsAt id = st.refsAt id + if st.strings.length = id then 1 else 0 := by
  by_cases same : st.strings.length = id
  · simp [refsAt, newString, ← same]
  · rcases Nat.lt_or_gt_of_ne same with outside | inside
    · have none : (st.strings ++ [(⟨data, 1⟩ : StringObject)]).length ≤ id := by simp; omega
      simp [refsAt, newString, same, List.getElem?_eq_none none,
        List.getElem?_eq_none outside.le]
    · simp [refsAt, newString, same, List.getElem?_append_left inside]

theorem getElem?_newString_of_lt (st : PyState) (data : Bytes) {id : Nat}
    (inside : id < st.strings.length) :
    (st.newString data).strings[id]? = st.strings[id]? := by
  rw [newString, List.getElem?_append_left inside]

@[simp] theorem length_newString (st : PyState) (data : Bytes) :
    (st.newString data).strings.length = st.strings.length + 1 := by
  simp [newString]

/-- A new string after `PyDict_SetItem`, which takes one reference on the key and one on the
value. -/
def internString (st : PyState) (data : Bytes) : PyState :=
  { ((st.newString data).incref (.string st.strings.length)).incref
      (.string st.strings.length) with calls := st.calls + 2 }

/-- A new string after it was dropped for an interned one. -/
def shareString (st : PyState) (data : Bytes) (interned : Nat) : PyState :=
  ((st.newString data).decref (.string st.strings.length)).incref (.string interned)

@[simp] theorem length_internString (st : PyState) (data : Bytes) :
    (st.internString data).strings.length = st.strings.length + 1 := by
  simp [internString]

@[simp] theorem length_shareString (st : PyState) (data : Bytes) (interned : Nat) :
    (st.shareString data interned).strings.length = st.strings.length + 1 := by
  rw [shareString, length_strings_incref, length_strings_decref, length_newString]

theorem textAt_internString (st : PyState) (data : Bytes) (id : Nat) :
    (st.internString data).textAt id =
      if id = st.strings.length then some data else st.textAt id := by
  have taken : (st.internString data).textAt id =
      (((st.newString data).incref (.string st.strings.length)).incref
        (.string st.strings.length)).textAt id := rfl
  rw [taken, textAt_incref, textAt_incref, textAt_newString]

theorem textAt_shareString (st : PyState) (data : Bytes) (interned id : Nat) :
    (st.shareString data interned).textAt id =
      if id = st.strings.length then some data else st.textAt id := by
  rw [shareString, textAt_incref, textAt_decref, textAt_newString]

theorem refsAt_internString (st : PyState) (data : Bytes) (id : Nat) :
    (st.internString data).refsAt id =
      st.refsAt id + if st.strings.length = id then 3 else 0 := by
  have inside : st.strings.length < (st.newString data).strings.length := by simp
  have taken : (st.internString data).refsAt id =
      (((st.newString data).incref (.string st.strings.length)).incref
        (.string st.strings.length)).refsAt id := rfl
  rw [taken, refsAt_incref_string _ (by rwa [length_strings_incref]),
    refsAt_incref_string _ inside, refsAt_newString]
  split_ifs <;> omega

theorem refsAt_shareString (st : PyState) (data : Bytes) {interned : Nat}
    (exists_ : interned < st.strings.length) (id : Nat) :
    (st.shareString data interned).refsAt id =
      st.refsAt id + if interned = id then 1 else 0 := by
  rw [shareString, refsAt_incref_string _ (by simp; omega), refsAt_decref_string,
    refsAt_newString]
  omega

theorem getElem?_internString_of_lt (st : PyState) (data : Bytes) {id : Nat}
    (inside : id < st.strings.length) :
    (st.internString data).strings[id]? = st.strings[id]? := by
  have other : st.strings.length ≠ id := by omega
  have taken : (st.internString data).strings =
      (((st.newString data).incref (.string st.strings.length)).incref
        (.string st.strings.length)).strings := rfl
  rw [taken, getElem?_strings_incref_ne _ other, getElem?_strings_incref_ne _ other,
    st.getElem?_newString_of_lt data inside]

theorem getElem?_shareString_of_lt (st : PyState) (data : Bytes) {interned id : Nat}
    (inside : id < st.strings.length) (other : interned ≠ id) :
    (st.shareString data interned).strings[id]? = st.strings[id]? := by
  rw [shareString, getElem?_strings_incref_ne _ other, getElem?_strings_decref_ne _ (by omega),
    st.getElem?_newString_of_lt data inside]

end PyState

/-! ## The invariant of the loop -/

/-- An entry of the output array shows a cell: `None` for a null, else the text. -/
def ObjRef.Shows (st : PyState) : ObjRef → Option Bytes → Prop
  | .none, .none => True
  | .string id, some text => st.textAt id = some text
  | _, _ => False

structure StringLoop.Accounts (base : PyState) (cells : List (Option Bytes))
    (state : StringLoop) : Prop where
  grown : base.strings.length ≤ state.st.strings.length
  kept : ∀ id < base.strings.length, state.st.strings[id]? = base.strings[id]?
  fresh : ∀ id ∈ state.table, base.strings.length ≤ id ∧ id < state.st.strings.length
  nodup : state.table.Nodup
  distinct : ∀ id ∈ state.table, ∀ other ∈ state.table,
    state.st.textAt id = state.st.textAt other → id = other
  held : ∀ id, .string id ∈ state.out.written → id ∈ state.table
  counted : ∀ id, base.strings.length ≤ id →
    state.st.refsAt id = state.out.written.count (.string id) + 2 * state.table.count id
  shown : List.Forall₂ (ObjRef.Shows state.st) state.out.written cells
  noneRefs : state.st.noneRefs = base.noneRefs + state.out.written.count .none
  arrays : state.st.arrays = base.arrays
  dicts : state.st.dicts = base.dicts

theorem internTableGet_some {st : PyState} {table : List Nat} {text : Bytes} {id : Nat}
    (found : internTableGet st table text = some id) : id ∈ table ∧ st.textAt id = some text := by
  refine ⟨List.mem_of_find?_eq_some found, ?_⟩
  simpa [PyState.textAt] using List.find?_some found

theorem internTableGet_none {st : PyState} {table : List Nat} {text : Bytes}
    (missing : internTableGet st table text = none) : ∀ id ∈ table, st.textAt id ≠ some text := by
  intro id membership same
  have differs := List.find?_eq_none.mp missing id membership
  simp [PyState.textAt] at same differs
  obtain ⟨obj, stored, equal⟩ := same
  exact differs obj stored equal

namespace StringLoop.Accounts

variable {base : PyState} {cells : List (Option Bytes)} {state : StringLoop}

theorem shows_mono {st next : PyState}
    (texts : ∀ id text, st.textAt id = some text → next.textAt id = some text)
    {object : ObjRef} {cell : Option Bytes} (shows_ : object.Shows st cell) :
    object.Shows next cell := by
  cases object <;> cases cell <;> simp_all [ObjRef.Shows]

theorem forall₂_snoc {slots : List ObjRef} {st next : PyState} {object : ObjRef}
    {cell : Option Bytes} (shown : List.Forall₂ (ObjRef.Shows st) slots cells)
    (texts : ∀ id text, st.textAt id = some text → next.textAt id = some text)
    (shows_ : object.Shows next cell) :
    List.Forall₂ (ObjRef.Shows next) (slots ++ [object]) (cells ++ [cell]) :=
  List.rel_append (shown.imp fun _ _ => shows_mono texts) (.cons shows_ .nil)

theorem length_written (accounts : state.Accounts base cells) :
    state.out.written.length = cells.length := accounts.shown.length_eq

/-- `Py_INCREF(Py_None); out_values[i++] = Py_None;` -/
theorem null (accounts : state.Accounts base cells) :
    StringLoop.Accounts base (cells ++ [none])
      { state with
        out := { state.out with written := state.out.written ++ [.none] }
        st := state.st.incref .none } where
  grown := accounts.grown
  kept := accounts.kept
  fresh := accounts.fresh
  nodup := accounts.nodup
  distinct := accounts.distinct
  held := by
    intro id membership
    apply accounts.held
    simpa using membership
  counted := by
    intro id created
    rw [List.count_append, List.count_singleton, if_neg (by simp), Nat.add_zero]
    exact accounts.counted id created
  shown := forall₂_snoc accounts.shown (fun _ _ present => present) trivial
  noneRefs := by
    simp [PyState.incref, accounts.noneRefs, Nat.add_assoc]
  arrays := accounts.arrays
  dicts := accounts.dicts

theorem textAt_newString_of_mem (accounts : state.Accounts base cells) {data : Bytes} {id : Nat}
    (membership : id ∈ state.table) :
    (state.st.newString data).textAt id = state.st.textAt id := by
  have inside := (accounts.fresh id membership).2
  rw [PyState.textAt_newString, if_neg (Nat.ne_of_lt inside)]

theorem textAt_internString_of_mem (accounts : state.Accounts base cells) {data : Bytes} {id : Nat}
    (membership : id ∈ state.table) :
    (state.st.internString data).textAt id = state.st.textAt id := by
  have inside := (accounts.fresh id membership).2
  rw [PyState.textAt_internString, if_neg (Nat.ne_of_lt inside)]

/-- A text that is new to the table keeps the texts in it distinct. -/
theorem distinct_internString (accounts : state.Accounts base cells) {data : Bytes}
    (missing : ∀ id ∈ state.table, state.st.textAt id ≠ some data) :
    ∀ id ∈ state.table ++ [state.st.strings.length],
      ∀ other ∈ state.table ++ [state.st.strings.length],
        (state.st.internString data).textAt id = (state.st.internString data).textAt other →
          id = other := by
  have ownText : (state.st.internString data).textAt state.st.strings.length = some data := by
    rw [PyState.textAt_internString, if_pos rfl]
  intro id membership other present same
  rcases List.mem_append.mp membership with earlier | new <;>
    rcases List.mem_append.mp present with earlier' | new'
  · rw [accounts.textAt_internString_of_mem earlier,
      accounts.textAt_internString_of_mem earlier'] at same
    exact accounts.distinct id earlier other earlier' same
  · rw [List.mem_singleton] at new'
    rw [new', ownText, accounts.textAt_internString_of_mem earlier] at same
    exact absurd same (missing id earlier)
  · rw [List.mem_singleton] at new
    rw [new, ownText, accounts.textAt_internString_of_mem earlier'] at same
    exact absurd same.symm (missing other earlier')
  · rw [List.mem_singleton] at new new'
    rw [new, new']

/-- The text is not in the table yet: its object enters it. -/
theorem intern (accounts : state.Accounts base cells) {data : Bytes}
    (missing : ∀ id ∈ state.table, state.st.textAt id ≠ some data) :
    StringLoop.Accounts base (cells ++ [some data])
      { out := { state.out with
          written := state.out.written ++ [.string state.st.strings.length] }
        table := state.table ++ [state.st.strings.length]
        st := state.st.internString data } where
  grown := by
    rw [PyState.length_internString]
    exact Nat.le_succ_of_le accounts.grown
  kept := by
    intro id old
    have grown := accounts.grown
    rw [PyState.getElem?_internString_of_lt _ _ (by omega), accounts.kept id old]
  fresh := by
    intro id membership
    have grown := accounts.grown
    rw [PyState.length_internString]
    rcases List.mem_append.mp membership with earlier | new
    · have bounds := accounts.fresh id earlier
      omega
    · rw [List.mem_singleton] at new
      omega
  nodup := by
    refine List.nodup_append.mpr ⟨accounts.nodup, List.nodup_singleton _, ?_⟩
    intro id earlier other new
    have bounds := accounts.fresh id earlier
    rw [List.mem_singleton] at new
    omega
  distinct := accounts.distinct_internString missing
  held := by
    intro id membership
    rcases List.mem_append.mp membership with earlier | new
    · exact List.mem_append_left _ (accounts.held id earlier)
    · apply List.mem_append_right
      simpa using new
  counted := by
    intro id created
    have count := accounts.counted id created
    rw [PyState.refsAt_internString]
    simp only [List.count_append, List.count_singleton, beq_iff_eq, ObjRef.string.injEq]
    split_ifs <;> omega
  shown := by
    apply forall₂_snoc accounts.shown
    · intro id text present
      have inside := PyState.lt_length_of_textAt present
      rw [PyState.textAt_internString, if_neg (Nat.ne_of_lt inside), present]
    · rw [ObjRef.Shows, PyState.textAt_internString, if_pos rfl]
  noneRefs := by
    rw [List.count_append, List.count_singleton, if_neg (by simp), Nat.add_zero]
    exact accounts.noneRefs
  arrays := accounts.arrays
  dicts := accounts.dicts

theorem textAt_shareString_of_lt {data : Bytes} {interned id : Nat}
    (inside : id < state.st.strings.length) :
    (state.st.shareString data interned).textAt id = state.st.textAt id := by
  rw [PyState.textAt_shareString, if_neg (Nat.ne_of_lt inside)]

/-- The text is in the table: the new object is dropped for the interned one. -/
theorem share (accounts : state.Accounts base cells) {data : Bytes} {interned : Nat}
    (membership : interned ∈ state.table) (same : state.st.textAt interned = some data) :
    StringLoop.Accounts base (cells ++ [some data])
      { state with
        out := { state.out with written := state.out.written ++ [.string interned] }
        st := state.st.shareString data interned } where
  grown := by
    rw [PyState.length_shareString]
    exact Nat.le_succ_of_le accounts.grown
  kept := by
    intro id old
    have grown := accounts.grown
    have bounds := accounts.fresh interned membership
    rw [PyState.getElem?_shareString_of_lt _ _ (by omega) (by omega), accounts.kept id old]
  fresh := by
    intro id present
    rw [PyState.length_shareString]
    have inside := accounts.fresh id present
    omega
  nodup := accounts.nodup
  distinct := by
    intro id present other present' equal
    rw [textAt_shareString_of_lt (accounts.fresh id present).2,
      textAt_shareString_of_lt (accounts.fresh other present').2] at equal
    exact accounts.distinct id present other present' equal
  held := by
    intro id present
    rcases List.mem_append.mp present with earlier | new
    · exact accounts.held id earlier
    · obtain rfl : id = interned := by simpa using new
      exact membership
  counted := by
    intro id created
    have count := accounts.counted id created
    rw [PyState.refsAt_shareString _ _ (accounts.fresh interned membership).2]
    simp only [List.count_append, List.count_singleton, beq_iff_eq, ObjRef.string.injEq]
    omega
  shown := by
    apply forall₂_snoc accounts.shown
    · intro id text present
      rw [textAt_shareString_of_lt (PyState.lt_length_of_textAt present), present]
    · rw [ObjRef.Shows, textAt_shareString_of_lt (accounts.fresh interned membership).2, same]
  noneRefs := by
    rw [List.count_append, List.count_singleton, if_neg (by simp), Nat.add_zero]
    exact accounts.noneRefs
  arrays := accounts.arrays
  dicts := accounts.dicts

end StringLoop.Accounts

/-! ## The loop -/

/-- The cell of a row as it is read. -/
def readCell (read : Option Bool × Bytes) : Option Bytes := cell (readRow read)

/-- Where the loop stops: at a row whose null bit is out of reach, or whose string cannot be
created or entered into the table. -/
inductive StringLoop.Stops (env : PyEnv) (state : StringLoop) :
    Option Bool × Bytes → Failure × PyState → Prop
  | unread (value : Bytes) : Stops env state (none, value) (.undefined, state.st)
  | notCreated (value : Bytes)
      (fails : env.succeeds state.st.calls = false ∨ env.validText value = false) :
      Stops env state (some false, value)
        (.apiError, { state.st with calls := state.st.calls + 1 })
  | notEntered (value : Bytes) (fails : env.succeeds (state.st.calls + 1) = false) :
      Stops env state (some false, value)
        (.apiError, { state.st.newString value with calls := state.st.calls + 2 })

section Loop

variable (env : PyEnv)

theorem makePystring_eq (data : Bytes) (table : List Nat) (st : PyState) :
    makePystring env data table st =
      if env.succeeds st.calls && env.validText data then
        match internTableGet (st.newString data) table data with
        | none =>
            if env.succeeds (st.calls + 1) then
              (some (.string st.strings.length, table ++ [st.strings.length]),
                st.internString data)
            else (none, { st.newString data with calls := st.calls + 2 })
        | some interned => (some (.string interned, table), st.shareString data interned)
      else (none, { st with calls := st.calls + 1 }) := rfl

/-- A string that is made is accounted for in the next slot. -/
theorem makePystring_outcome {base : PyState} {cells : List (Option Bytes)} {state : StringLoop}
    (accounts : state.Accounts base cells) (value : Bytes) :
    match makePystring env value state.table state.st with
    | (none, after) => state.Stops env (some false, value) (.apiError, after)
    | (some (object, table), after) => state.st.calls ≤ after.calls ∧
        StringLoop.Accounts base (cells ++ [some value])
          { out := { state.out with written := state.out.written ++ [object] }
            table := table
            st := after } := by
  rw [makePystring_eq]
  by_cases created : (env.succeeds state.st.calls && env.validText value) = true
  · rw [if_pos created]
    cases found : internTableGet (state.st.newString value) state.table value with
    | none =>
        dsimp only
        by_cases entered : env.succeeds (state.st.calls + 1) = true
        · rw [if_pos entered]
          refine ⟨Nat.le_add_right _ 2, accounts.intern fun id membership => ?_⟩
          rw [← accounts.textAt_newString_of_mem membership]
          exact internTableGet_none found id membership
        · rw [if_neg entered]
          exact .notEntered value (by simpa using entered)
    | some interned =>
        obtain ⟨membership, same⟩ := internTableGet_some found
        rw [accounts.textAt_newString_of_mem membership] at same
        exact ⟨Nat.le_add_right _ 1, accounts.share membership same⟩
  · rw [if_neg created]
    apply StringLoop.Stops.notCreated
    rwa [Bool.and_eq_true, not_and_or, Bool.not_eq_true, Bool.not_eq_true] at created

def stringReadStep : StringLoop → Option Bool × Bytes → Except (Failure × PyState) StringLoop :=
  readStep (fun state => (.undefined, state.st)) (stringStep env)

/-- A row is accounted for, or the loop stops at it. -/
def StringLoop.Accounted (base : PyState) (cells : List (Option Bytes)) (state : StringLoop)
    (read : Option Bool × Bytes) : Except (Failure × PyState) StringLoop → Prop
  | .ok next => next.Accounts base (cells ++ [readCell read]) ∧
      next.out.capacity = state.out.capacity ∧ state.st.calls ≤ next.st.calls
  | .error stop => state.out.written.length < state.out.capacity → state.Stops env read stop

theorem accounted_push {base : PyState} {cells : List (Option Bytes)} {state : StringLoop}
    {read : Option Bool × Bytes} {object : ObjRef} {table : List Nat} {after : PyState}
    (calls : state.st.calls ≤ after.calls)
    (accounts : StringLoop.Accounts base (cells ++ [readCell read])
      { out := { state.out with written := state.out.written ++ [object] }
        table := table
        st := after }) :
    state.Accounted env base cells read
      (match state.out.push object (Failure.undefined, after) with
        | .error stop => .error stop
        | .ok out => .ok { out := out, table := table, st := after }) := by
  by_cases room : state.out.written.length < state.out.capacity
  · rw [Buffer.push_of_lt room]
    exact ⟨accounts, rfl, calls⟩
  · rw [Buffer.push, if_neg room]
    exact fun free => absurd free room

theorem accounted_stringReadStep {base : PyState} {cells : List (Option Bytes)}
    {state : StringLoop} (accounts : state.Accounts base cells) (read : Option Bool × Bytes) :
    state.Accounted env base cells read (stringReadStep env state read) := by
  obtain ⟨_ | _ | _, value⟩ := read
  · exact fun _ => .unread value
  · have step : stringReadStep env state (some false, value) =
        match makePystring env value state.table state.st with
        | (none, st) => .error (.apiError, st)
        | (some (object, table), st) =>
            match state.out.push object (Failure.undefined, st) with
            | .error stop => .error stop
            | .ok out => .ok { out := out, table := table, st := st } := rfl
    have outcome := makePystring_outcome env accounts value
    rw [step]
    revert outcome
    rcases makePystring env value state.table state.st with ⟨_ | ⟨object, table⟩, after⟩
    · exact fun stops _ => stops
    · rintro ⟨calls, accounts'⟩
      exact accounted_push env calls accounts'
  · exact accounted_push env le_rfl accounts.null

/-- The loop before some row, with the rows in front of it. -/
structure StringLoop.Reaches (base : PyState) (capacity : Nat)
    (past : List (Option Bool × Bytes)) (state : StringLoop) : Prop where
  accounts : state.Accounts base (past.map readCell)
  capacity : state.out.capacity = capacity
  calls : base.calls ≤ state.st.calls

theorem reaches_start (base : PyState) (capacity : Nat) :
    StringLoop.Reaches base capacity [] ⟨Buffer.new capacity, [], base⟩ := by
  refine ⟨?_, rfl, le_rfl⟩
  constructor <;> simp [Buffer.new]
  exact fun id => PyState.refsAt_of_length_le

theorem StringLoop.Reaches.step {base : PyState} {capacity : Nat}
    {past : List (Option Bool × Bytes)} {state next : StringLoop}
    (reaches : state.Reaches base capacity past) {read : Option Bool × Bytes}
    (stepped : stringReadStep env state read = .ok next) :
    next.Reaches base capacity (past ++ [read]) := by
  have accounted := accounted_stringReadStep env reaches.accounts read
  rw [stepped] at accounted
  obtain ⟨accounts, same, later⟩ := accounted
  refine ⟨?_, same.trans reaches.capacity, reaches.calls.trans later⟩
  rwa [List.map_append]

theorem StringLoop.Reaches.stops {base : PyState} {capacity : Nat}
    {past : List (Option Bool × Bytes)} {state : StringLoop}
    (reaches : state.Reaches base capacity past) {read : Option Bool × Bytes}
    {stop : Failure × PyState} (stopped : stringReadStep env state read = .error stop)
    (room : past.length < capacity) : state.Stops env read stop := by
  have accounted := accounted_stringReadStep env reaches.accounts read
  rw [stopped] at accounted
  apply accounted
  rwa [reaches.accounts.length_written, reaches.capacity, List.length_map]

variable (columns : List (TypedColumn Bytes))

theorem map_readCell_reads :
    (columns.flatMap reads).map readCell = (columns.flatMap rows).map cell := by
  rw [flatMap_rows, List.map_map]
  rfl

theorem totalLength_eq_reads : totalLength columns = (columns.flatMap reads).length := by
  rw [totalLength_eq, flatMap_rows, List.length_map]

/-- How the loop ends: it has reached all rows, or stops at the first one that it cannot
convert. -/
def StringLoop.Ends (base : PyState) : Except (Failure × PyState) StringLoop → Prop
  | .ok last => last.Reaches base (totalLength columns) (columns.flatMap reads)
  | .error stop => ∃ before read later, columns.flatMap reads = before ++ read :: later ∧
      ∃ state, StringLoop.Reaches base (totalLength columns) before state ∧
        state.Stops env read stop

/-- The loop of `ConvertString`, for an empty array and an empty table. -/
def stringLoop (base : PyState) : Except (Failure × PyState) StringLoop :=
  chunkLoop (fun state => (.undefined, state.st)) (stringStep env) columns
    { out := Buffer.new (totalLength columns), table := [], st := base }

theorem ends_stringLoop (base : PyState) :
    StringLoop.Ends env columns base (stringLoop env columns base) := by
  have ends := Runs.foldlM_invariant (StringLoop.Reaches base (totalLength columns))
    (fun _ _ _ _ reaches stepped => reaches.step env stepped)
    (reaches_start base (totalLength columns)) (columns.flatMap reads)
  have folds : stringLoop env columns base = (columns.flatMap reads).foldlM (stringReadStep env)
      ⟨Buffer.new (totalLength columns), [], base⟩ := chunkLoop_eq columns _
  rw [folds]
  revert ends
  cases (columns.flatMap reads).foldlM (stringReadStep env)
    ⟨Buffer.new (totalLength columns), [], base⟩ with
  | ok last => exact id
  | error stop =>
      rintro ⟨before, read, later, state, split, reaches, stopped⟩
      refine ⟨before, read, later, split, state, reaches, reaches.stops env stopped ?_⟩
      rw [totalLength_eq_reads, split]
      simp

end Loop

/-! ## After the loop -/

section Release

variable (st : PyState) (table : List Nat)

/-- `releaseTable` without the dictionary itself. -/
def dropEntries : PyState :=
  table.foldl (fun st id => (st.decref (.string id)).decref (.string id)) st

theorem textAt_dropEntries (id : Nat) : (dropEntries st table).textAt id = st.textAt id := by
  induction table generalizing st with
  | nil => rfl
  | cons entry table ih =>
      rw [dropEntries, List.foldl_cons]
      exact (ih _).trans (by rw [PyState.textAt_decref, PyState.textAt_decref])

theorem refsAt_dropEntries (id : Nat) :
    (dropEntries st table).refsAt id = st.refsAt id - 2 * table.count id := by
  induction table generalizing st with
  | nil => rfl
  | cons entry table ih =>
      rw [dropEntries, List.foldl_cons]
      apply (ih _).trans
      rw [PyState.refsAt_decref_string, PyState.refsAt_decref_string, List.count_cons]
      simp only [beq_iff_eq]
      omega

theorem getElem?_dropEntries {id : Nat} (outside : id ∉ table) :
    (dropEntries st table).strings[id]? = st.strings[id]? := by
  induction table generalizing st with
  | nil => rfl
  | cons entry table ih =>
      rw [List.mem_cons, not_or] at outside
      rw [dropEntries, List.foldl_cons]
      apply (ih _ outside.2).trans
      rw [PyState.getElem?_strings_decref_ne _ (Ne.symm outside.1),
        PyState.getElem?_strings_decref_ne _ (Ne.symm outside.1)]

theorem dropEntries_counts :
    (dropEntries st table).noneRefs = st.noneRefs ∧ (dropEntries st table).arrays = st.arrays ∧
      (dropEntries st table).dicts = st.dicts := by
  induction table generalizing st with
  | nil => exact ⟨rfl, rfl, rfl⟩
  | cons entry table ih =>
      rw [dropEntries, List.foldl_cons]
      exact ih _

end Release

/-- The array and the table have been created. -/
def PyState.entered (st : PyState) : PyState :=
  { st with calls := st.calls + 2, arrays := st.arrays + 1, dicts := st.dicts + 1 }

/-- What the conversion leaves behind: one object per text, held by its slots alone. -/
structure Interned (before after : PyState) (slots : List ObjRef)
    (cells : List (Option Bytes)) : Prop where
  shown : List.Forall₂ (ObjRef.Shows after) slots cells
  created : ∀ id, .string id ∈ slots → before.strings.length ≤ id
  shared : ∀ id other, .string id ∈ slots → .string other ∈ slots →
    after.textAt id = after.textAt other → id = other
  counted : ∀ id, before.strings.length ≤ id → after.refsAt id = slots.count (.string id)
  kept : ∀ id < before.strings.length, after.strings[id]? = before.strings[id]?
  noneRefs : after.noneRefs = before.noneRefs + slots.count .none
  arrays : after.arrays = before.arrays + 1
  dicts : after.dicts = before.dicts

theorem interned_release {before : PyState} {cells : List (Option Bytes)} {state : StringLoop}
    (accounts : state.Accounts before.entered cells) :
    Interned before (releaseTable state.table state.st) state.out.written cells := by
  have released : releaseTable state.table state.st =
      dropEntries { state.st with dicts := state.st.dicts - 1 } state.table := rfl
  have texts : ∀ id, (releaseTable state.table state.st).textAt id = state.st.textAt id := by
    intro id
    rw [released, textAt_dropEntries]
    rfl
  obtain ⟨noneRefs, arrays, dicts⟩ :=
    dropEntries_counts { state.st with dicts := state.st.dicts - 1 } state.table
  constructor
  case shown =>
    refine accounts.shown.imp fun _ _ => StringLoop.Accounts.shows_mono ?_
    intro id text present
    rw [texts, present]
  case created =>
    intro id membership
    exact (accounts.fresh id (accounts.held id membership)).1
  case shared =>
    intro id other membership membership' same
    rw [texts, texts] at same
    exact accounts.distinct id (accounts.held id membership) other
      (accounts.held other membership') same
  case counted =>
    intro id created
    rw [released, refsAt_dropEntries]
    exact Nat.sub_eq_of_eq_add (accounts.counted id created)
  case kept =>
    intro id old
    have outside : id ∉ state.table := fun membership =>
      absurd (accounts.fresh id membership).1 (Nat.not_le_of_lt old)
    rw [released, getElem?_dropEntries _ _ outside]
    exact accounts.kept id old
  case noneRefs =>
    rw [released, noneRefs]
    exact accounts.noneRefs
  case arrays =>
    rw [released, arrays]
    exact accounts.arrays
  case dicts =>
    rw [released, dicts]
    exact Nat.sub_eq_of_eq_add accounts.dicts

/-- Everything that `ConvertString` can do. -/
inductive StringConversion (env : PyEnv) (columns : List (TypedColumn Bytes)) (st : PyState) :
    Except Failure NumpyArray × PyState → Prop
  | noArray (fails : env.succeeds st.calls = false) :
      StringConversion env columns st (.error .apiError, { st with calls := st.calls + 1 })
  | noTable (allocated : env.succeeds st.calls = true)
      (fails : env.succeeds (st.calls + 1) = false) :
      StringConversion env columns st
        (.error .apiError, { st with calls := st.calls + 2, arrays := st.arrays + 1 })
  | returned (last : StringLoop)
      (accounts : last.Accounts st.entered ((columns.flatMap rows).map cell)) :
      StringConversion env columns st
        (.ok (.object last.out.written), releaseTable last.table last.st)
  | stopped (allocated : env.succeeds st.calls = true)
      {before later : List (Option Bool × Bytes)} {read : Option Bool × Bytes}
      {state : StringLoop} {failure : Failure} {after : PyState}
      (split : columns.flatMap reads = before ++ read :: later)
      (reaches : state.Reaches st.entered (totalLength columns) before)
      (stops : state.Stops env read (failure, after)) :
      StringConversion env columns st (.error failure, after)

theorem stringConversion (env : PyEnv) (columns : List (TypedColumn Bytes)) (st : PyState) :
    StringConversion env columns st (convertString env columns st) := by
  unfold convertString tryNpyAlloc
  by_cases allocated : env.succeeds st.calls = true
  · rw [if_pos allocated]
    dsimp only
    by_cases created : env.succeeds (st.calls + 1) = true
    · rw [if_pos created]
      have ends := ends_stringLoop env columns st.entered
      split
      case h_1 failure after ran =>
        have stopped : stringLoop env columns st.entered = .error (failure, after) := ran
        rw [stopped] at ends
        obtain ⟨before, read, later, split, state, reaches, stops⟩ := ends
        exact .stopped allocated split reaches stops
      case h_2 last ran =>
        have ended : stringLoop env columns st.entered = .ok last := ran
        rw [ended] at ends
        obtain ⟨accounts, capacity, -⟩ := ends
        have full : last.out.written.length = last.out.capacity := by
          rw [accounts.length_written, capacity, totalLength_eq_reads, List.length_map]
        rw [map_readCell_reads] at accounts
        rw [Buffer.finish, if_pos full]
        exact .returned last accounts
    · rw [if_neg created]
      exact .noTable allocated (by simpa using created)
  · rw [if_neg allocated]
    exact .noArray (by simpa using allocated)

section Conversion

variable {env : PyEnv} {columns : List (TypedColumn Bytes)} {st : PyState}

/-- An array that `ConvertString` returns is the only thing that keeps its strings. -/
theorem interned_of_returned {array : NumpyArray} {after : PyState}
    (returned : convertString env columns st = (.ok array, after)) :
    ∃ slots, array = .object slots ∧
      Interned st after slots ((columns.flatMap rows).map cell) := by
  have conversion := stringConversion env columns st
  rw [returned] at conversion
  cases conversion with
  | returned last accounts =>
      exact ⟨last.out.written, rfl, interned_release accounts⟩

theorem mem_rows_of_mem_reads {isNull : Bool} {value : Bytes}
    (member : (some isNull, value) ∈ columns.flatMap reads) :
    (isNull, value) ∈ columns.flatMap rows := by
  rw [flatMap_rows]
  apply List.mem_map.mpr
  exact ⟨_, member, by cases isNull <;> rfl⟩

theorem exists_isNull_of_readable (readable : ∀ column ∈ columns, column.Readable)
    {read : Option Bool × Bytes} (member : read ∈ columns.flatMap reads) :
    ∃ isNull, read.1 = some isNull := by
  obtain ⟨column, chunk, row⟩ := List.mem_flatMap.mp member
  rw [reads_of_readable (readable column chunk)] at row
  obtain ⟨⟨isNull, value⟩, -, rfl⟩ := List.mem_map.mp row
  exact ⟨isNull, rfl⟩

/-- It returns one unless a call that it makes fails, a text is not valid or a null bit is out of
reach. -/
theorem convertString_returns
    (succeeds : ∀ call, st.calls ≤ call → call < (convertString env columns st).2.calls →
      env.succeeds call = true)
    (valid : ∀ row ∈ columns.flatMap rows, row.1 = false → env.validText row.2 = true)
    (readable : ∀ column ∈ columns, column.Readable) :
    ∃ array, (convertString env columns st).1 = .ok array := by
  have conversion := stringConversion env columns st
  revert succeeds conversion
  generalize convertString env columns st = outcome
  intro succeeds conversion
  cases conversion with
  | noArray fails => simp [succeeds st.calls le_rfl (Nat.lt_succ_self _)] at fails
  | noTable allocated fails =>
      simp [succeeds (st.calls + 1) (Nat.le_succ _) (Nat.lt_succ_self _)] at fails
  | returned last accounts => exact ⟨_, rfl⟩
  | @stopped allocated before later read state failure after split reaches stops =>
      have member : read ∈ columns.flatMap reads := by simp [split]
      have entered : st.calls ≤ state.st.calls := Nat.le_of_add_right_le reaches.calls
      cases stops with
      | unread value =>
          obtain ⟨isNull, found⟩ := exists_isNull_of_readable readable member
          cases found
      | notCreated value fails =>
          rcases fails with fails | invalid
          · simp [succeeds state.st.calls entered (Nat.lt_succ_self _)] at fails
          · simp [valid _ (mem_rows_of_mem_reads member) rfl] at invalid
      | notEntered value fails =>
          simp [succeeds (state.st.calls + 1) (Nat.le_succ_of_le entered)
            (Nat.lt_succ_self _)] at fails

/-- Where every string can be created, `ConvertString` shows every row and balances its
references. -/
theorem convertString_interned (succeeds : ∀ call, env.succeeds call = true)
    (readable : ∀ column ∈ columns, column.Readable)
    (valid : ∀ row ∈ columns.flatMap rows, row.1 = false → env.validText row.2 = true)
    (st : PyState) :
    ∃ slots, (convertString env columns st).1 = .ok (.object slots) ∧
      Interned st (convertString env columns st).2 slots ((columns.flatMap rows).map cell) := by
  obtain ⟨array, returned⟩ := convertString_returns (fun call _ _ => succeeds call) valid readable
  obtain ⟨slots, rfl, interned⟩ := interned_of_returned (Prod.ext returned rfl)
  exact ⟨slots, returned, interned⟩

end Conversion

end HS2Client.Py
