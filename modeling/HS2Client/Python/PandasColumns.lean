import HS2Client.Python.Interning

/-!
# Converted columns

Each converter delivers an array that is determined by the cells of the column alone: its
element type by whether there is a null, and every entry by its own cell.
-/

namespace HS2Client.Py

open FloatingPoint TypedColumn

/-! ## Booleans -/

def booleanObject (row : Bool × Bool) : ObjRef :=
  if row.1 then .none else if row.2 then .true else .false

theorem foldlM_booleanStep (rows : List (Bool × Bool)) (out : Buffer ObjRef) (st : PyState)
    (room : out.written.length + rows.length ≤ out.capacity) :
    ∃ last, rows.foldlM (fun state row => booleanStep state row.1 row.2) (out, st) =
      .ok ({ out with written := out.written ++ rows.map booleanObject }, last) := by
  induction rows generalizing out st with
  | nil => exact ⟨st, by simp [pure, Except.pure]⟩
  | cons row rows ih =>
      rw [List.length_cons] at room
      obtain ⟨last, rest⟩ := ih { out with written := out.written ++ [booleanObject row] }
        (st.incref (booleanObject row))
        (by simp only [List.length_append, List.length_singleton]; omega)
      refine ⟨last, ?_⟩
      have stepped : booleanStep (out, st) row.1 row.2 =
          .ok ({ out with written := out.written ++ [booleanObject row] },
            st.incref (booleanObject row)) := by
        simp only [booleanStep, booleanObject]
        rw [Buffer.push_of_lt (by omega)]
      rw [List.foldlM_cons, stepped]
      simpa [bind, Except.bind] using rest

theorem convertBoolean_eq {env : PyEnv} (succeeds : ∀ call, env.succeeds call = true)
    {columns : List (TypedColumn Bool)} (readable : ∀ column ∈ columns, column.Readable)
    (st : PyState) :
    (convertBoolean env columns st).1 =
      .ok (if (columns.flatMap rows).any Prod.fst then
        .object ((columns.flatMap rows).map booleanObject)
      else .bool ((columns.flatMap rows).map fun row => row.2.toUInt8)) := by
  rw [convertBoolean, tryNpyAlloc_eq succeeds, optimisticPass_eq readable]
  by_cases haveNull : (columns.flatMap rows).any Prod.fst = true
  · simp only [haveNull, if_true, tryNpyAlloc_eq succeeds, chunkLoop_eq_foldlM _ readable]
    obtain ⟨last, filled⟩ := foldlM_booleanStep (columns.flatMap rows)
      (Buffer.new (totalLength columns))
      { st with calls := st.calls + 1 + 1, arrays := st.arrays + 1 - 1 + 1 }
      (by simp [Buffer.new, totalLength_eq])
    rw [filled]
    exact Buffer.finish_full _ _ _ _ (totalLength_eq columns)
  · simp only [if_neg haveNull]
    exact Buffer.finish_full _ _ _ _ (totalLength_eq columns)

/-! ## What a converter delivers -/

namespace PandasConverter

def dtype (haveNull : Bool) : PandasConverter → Dtype
  | .boolean => if haveNull then .object else .bool
  | .integer kind => if haveNull then .float64 else kind.dtype
  | .float => .float32
  | .double => .float64
  | .string => .object

/-- The entry for a cell, with the doubles that stand for integers next to a null. -/
def entryWith (double : Int → Double) (haveNull : Bool) :
    (converter : PandasConverter) → Option converter.cls.Value → Element
  | .boolean, none => .none
  | .boolean, some (value : Bool) => .bool value
  | .integer _, none => .float64 .nan
  | .integer kind, some value =>
      if haveNull then .float64 (double (kind.toInt value)) else .integer (kind.toInt value)
  | .float, none => .float32 .nan
  | .float, some (value : Double) => .float32 (value.convert binary32)
  | .double, none => .float64 .nan
  | .double, some (value : Double) => .float64 value
  | .string, none => .none
  | .string, some (value : Bytes) => .text value

/-- The value of a cell in the element type of the array: an integer in an array of doubles is the
nearest double. -/
def expected : Bool → (converter : PandasConverter) → Option converter.cls.Value → Element :=
  entryWith fun value => binary64.round value

/-- The entry that the converter makes, see `convertInteger_eq`. -/
def element : Bool → (converter : PandasConverter) → Option converter.cls.Value → Element :=
  entryWith (nanOrInteger false)

/-- An integer next to a null is not changed by its way through a float. -/
def Keeps (haveNull : Bool) : (converter : PandasConverter) → Option converter.cls.Value → Prop
  | .integer kind, some value => haveNull = false ∨ NearestFits (kind.toInt value)
  | _, _ => True

theorem element_eq_expected_iff {typeId : TypeId} {converter : PandasConverter}
    (selected : pandasConverter typeId = some converter) (haveNull : Bool)
    (cell : Option converter.cls.Value) :
    converter.element haveNull cell = converter.expected haveNull cell ↔
      converter.Keeps haveNull cell := by
  cases converter with
  | integer kind =>
      cases cell with
      | none => exact iff_of_true rfl trivial
      | some value =>
          cases haveNull with
          | false => exact iff_of_true rfl (.inl rfl)
          | true =>
              show Element.float64 _ = .float64 _ ↔ true = false ∨ _
              rw [Element.float64.injEq, nanOrInteger_eq_iff (abs_toInt_le selected value)]
              simp
  | _ => cases cell <;> exact iff_of_true rfl trivial

/-- Null values of a floating-point column cannot be told from NaN. -/
def marksNulls : PandasConverter → Bool
  | .float | .double => false
  | _ => true

/-- Every text of the column makes a Python string. -/
def TextsValid (env : PyEnv) :
    (converter : PandasConverter) → List (Option converter.cls.Value) → Prop
  | .string, cells => ∀ text : Bytes, some text ∈ cells → env.validText text = true
  | _, _ => True

end PandasConverter

/-- An array that shows the cells of a column. -/
structure Shows (converter : PandasConverter) (cells : List (Option converter.cls.Value))
    (array : NumpyArray) (st : PyState) : Prop where
  dtype_eq : array.dtype = converter.dtype (cells.any Option.isNone)
  elements_eq : array.elements st =
    cells.map fun cell => some (converter.element (cells.any Option.isNone) cell)

theorem any_isNone_map_cell {Value : Type} (rows : List (Bool × Value)) :
    (rows.map cell).any Option.isNone = rows.any Prod.fst := by
  induction rows with
  | nil => rfl
  | cons row rows ih =>
      obtain ⟨isNull, value⟩ := row
      cases isNull <;> simp_all [cell]

theorem convert_binary64_self (value : Double) : value.convert binary64 = value := by
  cases value with
  | finite x representable => exact Format.round_of_representable representable
  | _ => rfl

section Specs

variable {env : PyEnv} (succeeds : ∀ call, env.succeeds call = true)

include succeeds

theorem shows_boolean {columns : List (TypedColumn Bool)}
    (readable : ∀ column ∈ columns, column.Readable) (st : PyState) :
    ∃ array, (convertBoolean env columns st).1 = .ok array ∧
      Shows .boolean ((columns.flatMap rows).map cell) array
        (convertBoolean env columns st).2 := by
  refine ⟨_, convertBoolean_eq succeeds readable st, ?_, ?_⟩
  · rw [any_isNone_map_cell]
    split_ifs with haveNull <;> simp [NumpyArray.dtype, PandasConverter.dtype, haveNull]
  · rw [any_isNone_map_cell, List.map_map]
    split_ifs with haveNull
    · rw [NumpyArray.elements, List.map_map]
      apply List.map_congr_left
      rintro ⟨isNull, value⟩ _
      cases isNull <;> cases value <;> rfl
    · rw [NumpyArray.elements, List.map_map]
      apply List.map_congr_left
      rintro ⟨isNull, value⟩ membership
      obtain rfl : isNull = false := Bool.eq_false_iff.mpr fun null =>
        haveNull (List.any_eq_true.mpr ⟨_, membership, null⟩)
      cases value <;> rfl

theorem shows_integer {kind : IntegerKind} (delivers : kind.Delivers)
    {columns : List (TypedColumn kind.cls.Value)}
    (readable : ∀ column ∈ columns, column.Readable) (st : PyState) :
    ∃ array, (convertInteger env kind columns st).1 = .ok array ∧
      Shows (.integer kind) ((columns.flatMap rows).map cell) array
        (convertInteger env kind columns st).2 := by
  refine ⟨_, convertInteger_eq succeeds readable st, ?_, ?_⟩
  · rw [any_isNone_map_cell]
    split_ifs with haveNull
    · simp [NumpyArray.dtype, PandasConverter.dtype, haveNull]
    · simp [delivers.dtype_array, PandasConverter.dtype, haveNull]
  · rw [any_isNone_map_cell, List.map_map]
    split_ifs with haveNull
    · rw [NumpyArray.elements, List.map_map]
      apply List.map_congr_left
      rintro ⟨isNull, value⟩ _
      cases isNull with
      | true => rfl
      | false => simp [cell, PandasConverter.element, PandasConverter.entryWith, haveNull]
    · rw [delivers.elements_array, List.map_map]
      apply List.map_congr_left
      rintro ⟨isNull, value⟩ membership
      obtain rfl : isNull = false := Bool.eq_false_iff.mpr fun null =>
        haveNull (List.any_eq_true.mpr ⟨_, membership, null⟩)
      simp [cell, PandasConverter.element, PandasConverter.entryWith, haveNull]

theorem shows_float {columns : List (TypedColumn Double)}
    (readable : ∀ column ∈ columns, column.Readable) (st : PyState) :
    ∃ array, (convertFloat (F := binary32) env .float32 columns st).1 = .ok array ∧
      Shows .float ((columns.flatMap rows).map cell) array
        (convertFloat (F := binary32) env .float32 columns st).2 := by
  refine ⟨_, convertFloat_eq succeeds readable st, rfl, ?_⟩
  rw [NumpyArray.elements, List.map_map, List.map_map]
  apply List.map_congr_left
  rintro ⟨isNull, value⟩ _
  cases isNull <;> rfl

theorem shows_double {columns : List (TypedColumn Double)}
    (readable : ∀ column ∈ columns, column.Readable) (st : PyState) :
    ∃ array, (convertFloat (F := binary64) env .float64 columns st).1 = .ok array ∧
      Shows .double ((columns.flatMap rows).map cell) array
        (convertFloat (F := binary64) env .float64 columns st).2 := by
  refine ⟨_, convertFloat_eq succeeds readable st, rfl, ?_⟩
  rw [NumpyArray.elements, List.map_map, List.map_map]
  apply List.map_congr_left
  rintro ⟨isNull, value⟩ _
  cases isNull with
  | true => rfl
  | false => exact congrArg (some ∘ Element.float64) (convert_binary64_self value)

end Specs

/-- A string that a slot refers to has not been freed. -/
theorem Interned.text?_eq {before after : PyState} {slots : List ObjRef}
    {cells : List (Option Bytes)} (interned : Interned before after slots cells) {id : Nat}
    (membership : .string id ∈ slots) : after.text? id = after.textAt id := by
  have held : after.refsAt id ≠ 0 := by
    rw [interned.counted id (interned.created id membership)]
    exact (List.count_pos_iff.mpr membership).ne'
  rw [PyState.refsAt] at held
  rw [PyState.text?, PyState.textAt]
  cases stored : after.strings[id]? with
  | none => rfl
  | some obj => simp_all

theorem elements_of_shown {st : PyState} {slots : List ObjRef} {cells : List (Option Bytes)}
    (shown : List.Forall₂ (ObjRef.Shows st) slots cells)
    (alive : ∀ id, .string id ∈ slots → st.text? id = st.textAt id) (haveNull : Bool) :
    (NumpyArray.object slots).elements st =
      cells.map fun cell => some (PandasConverter.string.element haveNull cell) := by
  rw [NumpyArray.elements]
  induction shown with
  | nil => rfl
  | @cons object cell slots cells shows_ shown ih =>
      have rest := ih fun id membership => alive id (List.mem_cons_of_mem _ membership)
      rw [List.map_cons, List.map_cons, rest]
      congr 1
      cases object <;> cases cell <;> simp only [ObjRef.Shows] at shows_
      · rfl
      · rw [ObjRef.element?, alive _ List.mem_cons_self, shows_]
        rfl

theorem shows_string {env : PyEnv} (succeeds : ∀ call, env.succeeds call = true)
    {columns : List (TypedColumn Bytes)} (readable : ∀ column ∈ columns, column.Readable)
    (valid : PandasConverter.string.TextsValid env ((columns.flatMap rows).map cell))
    (st : PyState) :
    ∃ array, (convertString env columns st).1 = .ok array ∧
      Shows .string ((columns.flatMap rows).map cell) array (convertString env columns st).2 := by
  obtain ⟨slots, returned, interned⟩ := convertString_interned succeeds readable
    (fun row membership present => valid row.2
      (List.mem_map.mpr ⟨row, membership, by simp [cell, present]⟩)) st
  exact ⟨_, returned, rfl, elements_of_shown interned.shown (fun _ => interned.text?_eq) _⟩

/-- Every converter shows the cells of its column. -/
theorem PandasConverter.convert_shows {env : PyEnv}
    (succeeds : ∀ call, env.succeeds call = true) {typeId : TypeId}
    {converter : PandasConverter} (selected : pandasConverter typeId = some converter)
    {columns : List (TypedColumn converter.cls.Value)}
    (readable : ∀ column ∈ columns, column.Readable)
    (valid : converter.TextsValid env ((columns.flatMap rows).map cell)) (st : PyState) :
    ∃ array, (converter.convert env columns st).1 = .ok array ∧
      Shows converter ((columns.flatMap rows).map cell) array
        (converter.convert env columns st).2 := by
  cases converter with
  | boolean => exact shows_boolean succeeds readable st
  | integer kind => exact shows_integer succeeds (delivers_of_pandasConverter selected) readable st
  | float => exact shows_float succeeds readable st
  | double => exact shows_double succeeds readable st
  | string => exact shows_string succeeds readable valid st

/-! ## Missing entries -/

theorem nanOrInteger_ne_nan (value : Int) : nanOrInteger false value ≠ .nan := by
  rw [nanOrInteger, if_neg Bool.false_ne_true, Format.round]
  split_ifs
  · simp [Datum.convert]
  · rw [Datum.convert, Format.round]
    split_ifs <;> simp
  · simp [Datum.convert]

theorem PandasConverter.isMissing_element_none (converter : PandasConverter) (haveNull : Bool) :
    (converter.element haveNull none).isMissing = true := by
  cases converter <;> rfl

/-- Where a null is marked, only a null is missing. -/
theorem PandasConverter.isMissing_element_some {converter : PandasConverter}
    (marks : converter.marksNulls = true) (haveNull : Bool) (value : converter.cls.Value) :
    (converter.element haveNull (some value)).isMissing = false := by
  cases converter with
  | integer kind =>
      cases haveNull with
      | true => simpa [element, entryWith, Element.isMissing] using nanOrInteger_ne_nan _
      | false => rfl
  | float => cases marks
  | double => cases marks
  | _ => rfl

end HS2Client.Py
