import HS2Client.Python.StringReferences

/-!
# References of converted arrays

Over any sequence of conversions, failed ones among them, the references that are held are those
in the slots of the arrays that were returned.
-/

namespace HS2Client.Py

open Runs TypedColumn

/-- The references in an array of objects. -/
def NumpyArray.slots : NumpyArray → List ObjRef
  | .object slots => slots
  | _ => []

/-- The arrays hold everything that was created or counted in between. -/
structure Owns (before after : PyState) (returned : List NumpyArray) : Prop where
  noneRefs : after.noneRefs =
    before.noneRefs + (returned.flatMap NumpyArray.slots).count .none
  trueRefs : after.trueRefs =
    before.trueRefs + (returned.flatMap NumpyArray.slots).count .true
  falseRefs : after.falseRefs =
    before.falseRefs + (returned.flatMap NumpyArray.slots).count .false
  created : ∀ id, .string id ∈ returned.flatMap NumpyArray.slots → before.strings.length ≤ id
  strings : ∀ id, before.strings.length ≤ id →
    after.refsAt id = (returned.flatMap NumpyArray.slots).count (.string id)
  kept : ∀ id < before.strings.length, after.strings[id]? = before.strings[id]?
  arrays : after.arrays = before.arrays + returned.length
  dicts : after.dicts = before.dicts

section Owns

variable {before middle after : PyState} {first second returned : List NumpyArray}

/-- Only calls and arrays without references. -/
theorem owns_plain (st : PyState) (calls : Nat) (returned : List NumpyArray)
    (plain : returned.flatMap NumpyArray.slots = []) :
    Owns st { st with calls := calls, arrays := st.arrays + returned.length } returned := by
  constructor
  · rw [plain]
    rfl
  · rw [plain]
    rfl
  · rw [plain]
    rfl
  · simp [plain]
  · intro id outside
    rw [plain, List.count_nil]
    exact PyState.refsAt_of_length_le outside
  · exact fun _ _ => rfl
  · rfl
  · rfl

theorem Owns.length_le (owns : Owns before after returned) :
    before.strings.length ≤ after.strings.length := by
  by_contra shorter
  have lost := owns.kept after.strings.length (by omega)
  rw [List.getElem?_eq_none le_rfl, eq_comm, List.getElem?_eq_none_iff] at lost
  omega

theorem Owns.lt_length (owns : Owns before after returned) {id : Nat}
    (member : .string id ∈ returned.flatMap NumpyArray.slots) : id < after.strings.length := by
  by_contra outside
  have counted := owns.strings id (owns.created id member)
  rw [PyState.refsAt_of_length_le (by omega), eq_comm, List.count_eq_zero] at counted
  exact counted member

/-- What comes later adds its own references and leaves the others alone. -/
theorem Owns.trans (owns : Owns before middle first) (later : Owns middle after second) :
    Owns before after (first ++ second) := by
  have length := owns.length_le
  constructor
  · rw [later.noneRefs, owns.noneRefs, List.flatMap_append, List.count_append, Nat.add_assoc]
  · rw [later.trueRefs, owns.trueRefs, List.flatMap_append, List.count_append, Nat.add_assoc]
  · rw [later.falseRefs, owns.falseRefs, List.flatMap_append, List.count_append, Nat.add_assoc]
  · intro id member
    rw [List.flatMap_append, List.mem_append] at member
    rcases member with earlier | new
    · exact owns.created id earlier
    · exact length.trans (later.created id new)
  · intro id outside
    rw [List.flatMap_append, List.count_append]
    by_cases inside : id < middle.strings.length
    · have unused : .string id ∉ second.flatMap NumpyArray.slots := fun new =>
        absurd (later.created id new) (Nat.not_le_of_lt inside)
      rw [List.count_eq_zero.mpr unused, Nat.add_zero, ← owns.strings id outside]
      unfold PyState.refsAt
      rw [later.kept id inside]
    · have unused : .string id ∉ first.flatMap NumpyArray.slots := fun earlier =>
        inside (owns.lt_length earlier)
      rw [List.count_eq_zero.mpr unused, Nat.zero_add]
      exact later.strings id (Nat.le_of_not_lt inside)
  · intro id inside
    rw [later.kept id (Nat.lt_of_lt_of_le inside length)]
    exact owns.kept id inside
  · rw [later.arrays, owns.arrays, List.length_append, Nat.add_assoc]
  · rw [later.dicts, owns.dicts]

end Owns

/-- A conversion hands out what it holds, and holds nothing if it hands out nothing. Nothing is said
of one that reads out of reach. -/
def Balanced (before : PyState) : Except Failure NumpyArray × PyState → Prop
  | (.ok array, after) => Owns before after [array]
  | (.error .undefined, _) => True
  | (.error _, after) => Owns before after []

theorem owns_nothing (st : PyState) (calls : Nat) : Owns st { st with calls := calls } [] :=
  owns_plain st calls [] rfl

/-- A fill pass stops only where it would read or write out of reach. -/
theorem error_of_fillPass {Value Entry : Type} {entry : Bool → Value → Entry}
    {columns : List (TypedColumn Value)} {failure : Failure}
    (stopped : fillPass entry columns = .error failure) : failure = .undefined := by
  rw [fillPass, chunkLoop_eq] at stopped
  obtain ⟨state, ⟨_ | isNull, value⟩, fails⟩ := exists_of_foldlM_error stopped
  · exact (Except.error.inj fails).symm
  · simp only [readStep, Buffer.push] at fails
    split_ifs at fails
    exact (Except.error.inj fails).symm

section Numeric

variable {env : PyEnv} {st : PyState}

theorem balanced_finish {Entry : Type} {array : List Entry → NumpyArray}
    (plain : ∀ entries, (array entries).slots = []) (out : Buffer Entry) (calls : Nat) :
    Balanced st (out.finish array, { st with calls := calls, arrays := st.arrays + 1 }) := by
  have single : [array out.written].flatMap NumpyArray.slots = [] := by
    rw [List.flatMap_singleton, plain]
  unfold Buffer.finish
  split_ifs
  · exact owns_plain st calls [_] single
  · trivial

theorem balanced_convertFloat {F : FloatingPoint.Format}
    {array : List (FloatingPoint.Datum F) → NumpyArray}
    (plain : ∀ entries, (array entries).slots = []) (columns : List (TypedColumn Double)) :
    Balanced st (convertFloat env array columns st) := by
  unfold convertFloat tryNpyAlloc
  by_cases allocated : env.succeeds st.calls = true
  · rw [if_pos allocated]
    dsimp only
    cases filled : fillPass (fun isNull value => if isNull then FloatingPoint.Datum.nan
        else value.convert F) columns with
    | error failure =>
        obtain rfl := error_of_fillPass filled
        trivial
    | ok out => exact balanced_finish plain out _
  · rw [if_neg allocated]
    exact owns_nothing st _

theorem balanced_convertInteger {kind : IntegerKind}
    (plain : ∀ entries, (kind.array entries).slots = [])
    (columns : List (TypedColumn kind.cls.Value)) :
    Balanced st (convertInteger env kind columns st) := by
  unfold convertInteger tryNpyAlloc
  by_cases allocated : env.succeeds st.calls = true
  · rw [if_pos allocated]
    dsimp only
    rcases optimisticPass id columns with (_ | _) | out
    · trivial
    · dsimp only
      by_cases again : env.succeeds (st.calls + 1) = true
      · rw [if_pos again]
        dsimp only
        cases filled : fillPass (fun isNull value => nanOrInteger isNull (kind.toInt value))
            columns with
        | error failure =>
            obtain rfl := error_of_fillPass filled
            trivial
        | ok out => exact balanced_finish (fun _ => rfl) out _
      · rw [if_neg again]
        exact owns_nothing st _
    · exact balanced_finish plain out _
  · rw [if_neg allocated]
    exact owns_nothing st _

end Numeric

/-! ## Booleans -/

/-- The object path counts every entry that it writes. -/
theorem counted_of_booleanStep {columns : List (TypedColumn Bool)} {st : PyState}
    {result : Buffer ObjRef × PyState}
    (filled : chunkLoop (fun state : Buffer ObjRef × PyState => (Failure.undefined, state.2))
      booleanStep columns (Buffer.new (totalLength columns), st) = .ok result) :
    result.2 = result.1.written.foldl PyState.incref st ∧
      ∀ id, .string id ∉ result.1.written := by
  rw [chunkLoop_eq] at filled
  refine invariant_of_foldlM_ok (fun state : Buffer ObjRef × PyState =>
    state.2 = state.1.written.foldl PyState.incref st ∧ ∀ id, .string id ∉ state.1.written)
    ?_ ⟨rfl, by simp [Buffer.new]⟩ filled
  rintro ⟨out, state⟩ ⟨_ | isNull, value⟩ next ⟨counted, booleans⟩ stepped
  · cases stepped
  · simp only [readStep, booleanStep, Buffer.push] at stepped
    split_ifs at stepped
    all_goals
      cases stepped
      simp_all

theorem error_of_booleanStep {columns : List (TypedColumn Bool)} {start : Buffer ObjRef × PyState}
    {stop : Failure × PyState}
    (stopped : chunkLoop (fun state : Buffer ObjRef × PyState => (Failure.undefined, state.2))
      booleanStep columns start = .error stop) : stop.1 = .undefined := by
  rw [chunkLoop_eq] at stopped
  obtain ⟨⟨out, state⟩, ⟨_ | isNull, value⟩, fails⟩ := exists_of_foldlM_error stopped
  · exact congrArg Prod.fst (Except.error.inj fails).symm
  · simp only [readStep, booleanStep, Buffer.push] at fails
    split_ifs at fails
    all_goals exact congrArg Prod.fst (Except.error.inj fails).symm

theorem foldl_incref (slots : List ObjRef) (st : PyState)
    (booleans : ∀ id, .string id ∉ slots) :
    slots.foldl PyState.incref st =
      { st with
        noneRefs := st.noneRefs + slots.count .none
        trueRefs := st.trueRefs + slots.count .true
        falseRefs := st.falseRefs + slots.count .false } := by
  induction slots generalizing st with
  | nil => rfl
  | cons object slots ih =>
      have rest := ih (st.incref object) fun id member =>
        booleans id (List.mem_cons_of_mem _ member)
      rw [List.foldl_cons, rest]
      cases object with
      | string id => exact absurd List.mem_cons_self (booleans id)
      | _ => simp [PyState.incref, Nat.add_assoc, Nat.add_comm 1]

theorem owns_booleans {slots : List ObjRef} (booleans : ∀ id, .string id ∉ slots) (st : PyState)
    (calls : Nat) :
    Owns st (slots.foldl PyState.incref { st with calls := calls, arrays := st.arrays + 1 })
      [.object slots] := by
  have single : [NumpyArray.object slots].flatMap NumpyArray.slots = slots :=
    List.flatMap_singleton ..
  rw [foldl_incref slots _ booleans]
  constructor
  · rw [single]
  · rw [single]
  · rw [single]
  · rw [single]
    exact fun id member => absurd member (booleans id)
  · intro id outside
    rw [single, List.count_eq_zero.mpr (booleans id)]
    exact PyState.refsAt_of_length_le outside
  · exact fun _ _ => rfl
  · rfl
  · rfl

theorem balanced_convertBoolean {env : PyEnv} {st : PyState}
    (columns : List (TypedColumn Bool)) : Balanced st (convertBoolean env columns st) := by
  unfold convertBoolean tryNpyAlloc
  by_cases allocated : env.succeeds st.calls = true
  · rw [if_pos allocated]
    dsimp only
    rcases optimisticPass Bool.toUInt8 columns with (_ | _) | out
    · trivial
    · dsimp only
      by_cases again : env.succeeds (st.calls + 1) = true
      · rw [if_pos again]
        dsimp only
        split
        case h_1 failure after stopped =>
          obtain rfl : failure = .undefined := error_of_booleanStep stopped
          trivial
        case h_2 out after filled =>
          obtain ⟨counted, booleans⟩ := counted_of_booleanStep filled
          dsimp only at counted booleans
          rw [counted]
          unfold Buffer.finish
          split_ifs
          · exact owns_booleans booleans st _
          · trivial
      · rw [if_neg again]
        exact owns_nothing st _
    · exact balanced_finish (fun _ => rfl) out _
  · rw [if_neg allocated]
    exact owns_nothing st _

/-! ## Strings -/

/-- Strings are no booleans. -/
def SameBooleans (before after : PyState) : Prop :=
  after.trueRefs = before.trueRefs ∧ after.falseRefs = before.falseRefs

theorem sameBooleans_makePystring {env : PyEnv} {data : Bytes} {table : List Nat} {st : PyState} :
    SameBooleans st (makePystring env data table st).2 := by
  rw [makePystring_eq]
  by_cases created : (env.succeeds st.calls && env.validText data) = true
  · rw [if_pos created]
    cases internTableGet (st.newString data) table data with
    | none =>
        dsimp only
        split_ifs <;> exact ⟨rfl, rfl⟩
    | some interned => exact ⟨rfl, rfl⟩
  · rw [if_neg created]
    exact ⟨rfl, rfl⟩

theorem sameBooleans_releaseTable (table : List Nat) (st : PyState) :
    SameBooleans st (releaseTable table st) := by
  unfold releaseTable
  generalize start : ({ st with dicts := st.dicts - 1 } : PyState) = from_
  have same : SameBooleans st from_ := by
    subst start
    exact ⟨rfl, rfl⟩
  clear start
  induction table generalizing from_ with
  | nil => exact same
  | cons id table ih => exact ih _ same

theorem SameBooleans.trans {before middle after : PyState} (first : SameBooleans before middle)
    (second : SameBooleans middle after) : SameBooleans before after :=
  ⟨second.1.trans first.1, second.2.trans first.2⟩

theorem sameBooleans_stringReadStep {env : PyEnv} {state next : StringLoop}
    {read : Option Bool × Bytes} (stepped : stringReadStep env state read = .ok next) :
    SameBooleans state.st next.st := by
  obtain ⟨_ | isNull, value⟩ := read
  · cases stepped
  · simp only [stringReadStep, readStep, stringStep] at stepped
    cases isNull with
    | true =>
        simp only [Buffer.push, if_true] at stepped
        split_ifs at stepped
        cases stepped
        exact ⟨rfl, rfl⟩
    | false =>
        have same : SameBooleans state.st (makePystring env value state.table state.st).2 :=
          sameBooleans_makePystring
        rw [if_neg Bool.false_ne_true] at stepped
        revert stepped same
        rcases makePystring env value state.table state.st with ⟨_ | ⟨object, table⟩, after⟩
        · intro stepped
          cases stepped
        · intro stepped same
          simp only [Buffer.push] at stepped
          split_ifs at stepped
          cases stepped
          exact same

theorem sameBooleans_convertString {env : PyEnv} {columns : List (TypedColumn Bytes)}
    {st after : PyState} {array : NumpyArray}
    (returned : convertString env columns st = (.ok array, after)) : SameBooleans st after := by
  unfold convertString tryNpyAlloc at returned
  by_cases allocated : env.succeeds st.calls = true
  · rw [if_pos allocated] at returned
    dsimp only at returned
    by_cases created : env.succeeds (st.calls + 1) = true
    · rw [if_pos created] at returned
      split at returned
      case h_1 stopped => cases returned
      case h_2 last filled =>
        obtain ⟨-, rfl⟩ := Prod.mk.inj returned
        rw [chunkLoop_eq] at filled
        refine SameBooleans.trans ?_ (sameBooleans_releaseTable last.table last.st)
        exact invariant_of_foldlM_ok (fun state : StringLoop => SameBooleans st state.st)
          (fun _ _ _ same stepped => same.trans (sameBooleans_stringReadStep stepped))
          ⟨rfl, rfl⟩ filled
    · rw [if_neg created] at returned
      cases returned
  · rw [if_neg allocated] at returned
    cases returned

theorem no_booleans {st : PyState} {slots : List ObjRef} {cells : List (Option Bytes)}
    (shown : List.Forall₂ (ObjRef.Shows st) slots cells) :
    ∀ object ∈ slots, object ≠ .true ∧ object ≠ .false := by
  induction shown with
  | nil => simp
  | @cons object cell slots cells shows_ shown ih =>
      intro other member
      rcases List.mem_cons.mp member with rfl | later
      · cases other <;> cases cell <;> simp_all [ObjRef.Shows]
      · exact ih other later

theorem owns_convertString {env : PyEnv} {columns : List (TypedColumn Bytes)} {st after : PyState}
    {array : NumpyArray} (returned : convertString env columns st = (.ok array, after)) :
    Owns st after [array] := by
  obtain ⟨slots, rfl, interned⟩ := interned_of_returned returned
  obtain ⟨trueRefs, falseRefs⟩ := sameBooleans_convertString returned
  have single : [NumpyArray.object slots].flatMap NumpyArray.slots = slots :=
    List.flatMap_singleton ..
  have strings := no_booleans interned.shown
  constructor
  · rw [single]
    exact interned.noneRefs
  · rw [single, trueRefs, List.count_eq_zero.mpr fun member => (strings _ member).1 rfl]
    rfl
  · rw [single, falseRefs, List.count_eq_zero.mpr fun member => (strings _ member).2 rfl]
    rfl
  · rw [single]
    exact interned.created
  · rw [single]
    exact interned.counted
  · exact interned.kept
  · exact interned.arrays
  · exact interned.dicts

/-! ## Sequences of conversions -/

theorem balanced_convert {env : PyEnv} {typeId : TypeId} {converter : PandasConverter}
    (selected : pandasConverter typeId = some converter)
    (columns : List (TypedColumn converter.cls.Value)) (st : PyState)
    (completes : converter = .string → (converter.convert env columns st).1 ≠ .error .apiError) :
    Balanced st (converter.convert env columns st) := by
  cases converter with
  | boolean => exact balanced_convertBoolean columns
  | integer kind =>
      apply balanced_convertInteger
      cases typeId <;> simp_all [pandasConverter] <;> subst selected <;> exact fun _ => rfl
  | float => exact balanced_convertFloat (fun _ => rfl) columns
  | double => exact balanced_convertFloat (fun _ => rfl) columns
  | string =>
      have conversion := stringConversion env columns st
      have owned : ∀ array after, convertString env columns st = (.ok array, after) →
          Owns st after [array] := fun array after => owns_convertString
      have finished : (convertString env columns st).1 ≠ .error .apiError := completes rfl
      show Balanced st (convertString env columns st)
      revert conversion owned finished
      generalize convertString env columns st = result
      intro conversion owned finished
      cases conversion with
      | noArray => exact absurd rfl finished
      | noTable => exact absurd rfl finished
      | returned last accounts => exact owned _ _ rfl
      | stopped allocated split reaches stops =>
          cases stops with
          | unread value => trivial
          | notCreated value fails => exact absurd rfl finished
          | notEntered value fails => exact absurd rfl finished

theorem balanced_convertColumnPandas {env : PyEnv} {batches : List ColumnarRowSet}
    {colIndex : Nat} {type : ColumnType} {st : PyState}
    (inside : (convertColumnPandas env batches colIndex type st).1 ≠ .error .undefined)
    (completes : pandasConverter type.typeId = some .string →
      (convertColumnPandas env batches colIndex type st).1 ≠ .error .apiError) :
    Balanced st (convertColumnPandas env batches colIndex type st) := by
  unfold convertColumnPandas at inside completes ⊢
  cases selected : pandasConverter type.typeId with
  | none => exact owns_nothing st st.calls
  | some converter =>
      rw [selected] at inside completes
      dsimp only at inside completes ⊢
      cases found : getColumns converter.cls batches colIndex with
      | none => trivial
      | some columns =>
          rw [found] at completes
          apply balanced_convert selected
          rintro rfl
          exact completes rfl

/-- A column that is to be converted. -/
structure Conversion where
  batches : List ColumnarRowSet
  colIndex : Nat
  type : ColumnType

/-- The arrays so far, and the next one if its conversion succeeds. -/
def Conversion.perform (env : PyEnv) (state : List NumpyArray × PyState)
    (conversion : Conversion) : List NumpyArray × PyState :=
  match convertColumnPandas env conversion.batches conversion.colIndex conversion.type state.2 with
  | (.ok array, after) => (state.1 ++ [array], after)
  | (.error _, after) => (state.1, after)

/-- The conversion reads nothing out of reach, and it is no string conversion that fails. -/
def Conversion.Regular (env : PyEnv) (state : List NumpyArray × PyState)
    (conversion : Conversion) : Prop :=
  let result :=
    (convertColumnPandas env conversion.batches conversion.colIndex conversion.type state.2).1
  result ≠ .error .undefined ∧
    (pandasConverter conversion.type.typeId = some .string → result ≠ .error .apiError)

/-- After any sequence of conversions, whatever calls of the Python API fail in it, the arrays that
were returned hold exactly the references that were taken. -/
theorem conversions_balanced (env : PyEnv) (conversions : List Conversion) (st : PyState)
    (regular : AllSteps (Conversion.perform env) (Conversion.Regular env) ([], st) conversions) :
    Owns st (run (Conversion.perform env) ([], st) conversions).2
      (run (Conversion.perform env) ([], st) conversions).1 := by
  refine run_invariant (fun state : List NumpyArray × PyState => Owns st state.2 state.1)
    ?_ (owns_nothing st st.calls) regular
  rintro ⟨arrays, before⟩ ⟨batches, colIndex, type⟩ owns ⟨inside, completes⟩
  have balanced := balanced_convertColumnPandas inside completes
  unfold Conversion.perform
  revert balanced inside
  dsimp only
  rcases convertColumnPandas env batches colIndex type before with ⟨failure | array, after⟩
  · intro inside balanced
    cases failure with
    | undefined => exact absurd rfl inside
    | apiError => exact List.append_nil arrays ▸ owns.trans balanced
    | notImplemented message => exact List.append_nil arrays ▸ owns.trans balanced
  · exact fun _ balanced => owns.trans balanced

/-- The fourth call fails: the one that allocates doubles for the second of two columns. -/
def failsFourth : PyEnv := ⟨fun call => call ≠ 3, fun _ => true⟩

/-- A column of booleans and a column of integers, each with a null. -/
def nullBatch : ColumnarRowSet where
  resp := { results := { columns := [{ boolVal := ⟨[true, false], [2]⟩ },
    { i32Val := ⟨[1, 2], [1]⟩ }] } }

def nullColumns : List Conversion :=
  [⟨[nullBatch], 0, .primitive .boolean⟩, ⟨[nullBatch], 1, .primitive .int⟩]

theorem conversions_balanced_nullColumns :
    (run (Conversion.perform failsFourth) ([], {}) nullColumns).1 =
        [.object [.true, .none]] ∧
      Owns {} (run (Conversion.perform failsFourth) ([], {}) nullColumns).2
        [.object [.true, .none]] := by
  have regular : AllSteps (Conversion.perform failsFourth) (Conversion.Regular failsFourth)
      ([], {}) nullColumns := by
    refine ⟨⟨?_, nofun⟩, ⟨?_, nofun⟩, trivial⟩
    · decide
    · decide
  exact ⟨rfl, conversions_balanced failsFourth nullColumns {} regular⟩

end HS2Client.Py
