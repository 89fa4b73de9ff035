import HS2Client.Python.RowLoops

/-!
# Arrays of numbers and booleans

What a Python program reads from a converted array, and the arrays that `ConvertInteger`,
`ConvertBoolean` and `ConvertFloat` build, as functions of the rows of all chunks.
-/

namespace HS2Client.Py

open FloatingPoint TypedColumn

/-! ## Reading arrays -/

inductive Element where
  | integer (value : Int)
  | float32 (value : Float32)
  | float64 (value : Double)
  | bool (value : Bool)
  | none
  | text (value : Bytes)
  deriving DecidableEq

namespace Element

/-- `None`, or the NaN that stands for it in an array of floating-point numbers. -/
def isMissing : Element → Bool
  | .none => true
  | .float32 value => value = .nan
  | .float64 value => value = .nan
  | _ => false

/-- The exact number that an element denotes. -/
def number? : Element → Option ℚ
  | .integer value => some value
  | .float32 value => value.value?
  | .float64 value => value.value?
  | _ => .none

end Element

/-- The text of a string object that is alive. -/
def PyState.text? (st : PyState) (id : Nat) : Option Bytes :=
  st.strings[id]?.bind fun obj => if obj.refs = 0 then none else some obj.text

def ObjRef.element? (st : PyState) : ObjRef → Option Element
  | .none => some .none
  | .true => some (.bool Bool.true)
  | .false => some (.bool Bool.false)
  | .string id => (st.text? id).map .text

inductive Dtype where
  | int8
  | int16
  | int32
  | int64
  | float32
  | float64
  | bool
  | object
  deriving DecidableEq, Repr

namespace NumpyArray

def dtype : NumpyArray → Dtype
  | .int8 _ => .int8
  | .int16 _ => .int16
  | .int32 _ => .int32
  | .int64 _ => .int64
  | .float32 _ => .float32
  | .float64 _ => .float64
  | .bool _ => .bool
  | .object _ => .object

/-- The entries as Python sees them; an entry that refers to a freed object has none. -/
def elements (st : PyState) : NumpyArray → List (Option Element)
  | .int8 values => values.map fun value => some (.integer value.toInt)
  | .int16 values => values.map fun value => some (.integer value.toInt)
  | .int32 values => values.map fun value => some (.integer value.toInt)
  | .int64 values => values.map fun value => some (.integer value.toInt)
  | .float32 values => values.map fun value => some (.float32 value)
  | .float64 values => values.map fun value => some (.float64 value)
  | .bool values => values.map fun value => some (.bool (value ≠ 0))
  | .object slots => slots.map (ObjRef.element? st)

/-- The number at a position. -/
def number? (array : NumpyArray) (st : PyState) (i : Nat) : Option ℚ :=
  ((array.elements st)[i]?.join).bind Element.number?

end NumpyArray

/-- The element types that `ConvertColumnPandas` instantiates `ConvertInteger` with. -/
def IntegerKind.dtype (kind : IntegerKind) : Dtype := (kind.array []).dtype

structure IntegerKind.Delivers (kind : IntegerKind) : Prop where
  dtype_array : ∀ values, (kind.array values).dtype = kind.dtype
  elements_array : ∀ st values,
    (kind.array values).elements st = values.map fun value => some (.integer (kind.toInt value))

theorem delivers_of_pandasConverter {typeId : TypeId} {kind : IntegerKind}
    (selected : pandasConverter typeId = some (.integer kind)) : kind.Delivers := by
  cases typeId <;> simp only [pandasConverter, Option.some.injEq, PandasConverter.integer.injEq,
    reduceCtorEq] at selected <;> subst selected <;> exact ⟨fun _ => rfl, fun _ _ => rfl⟩

/-! ## The converters as functions of the rows -/

section Converters

variable {env : PyEnv} (succeeds : ∀ call, env.succeeds call = true)

include succeeds

theorem tryNpyAlloc_eq (st : PyState) :
    tryNpyAlloc env st = (true, { st with calls := st.calls + 1, arrays := st.arrays + 1 }) := by
  rw [tryNpyAlloc, if_pos (succeeds _)]

theorem convertInteger_eq {kind : IntegerKind} {columns : List (TypedColumn kind.cls.Value)}
    (readable : ∀ column ∈ columns, column.Readable) (st : PyState) :
    (convertInteger env kind columns st).1 =
      .ok (if (columns.flatMap rows).any Prod.fst then
        .float64 ((columns.flatMap rows).map fun row => nanOrInteger row.1 (kind.toInt row.2))
      else kind.array ((columns.flatMap rows).map Prod.snd)) := by
  rw [convertInteger, tryNpyAlloc_eq succeeds, optimisticPass_eq readable]
  by_cases haveNull : (columns.flatMap rows).any Prod.fst = true
  · simp only [haveNull, if_true, tryNpyAlloc_eq succeeds, fillPass_eq readable]
    exact Buffer.finish_full _ _ _ _ (totalLength_eq columns)
  · simp only [if_neg haveNull]
    exact Buffer.finish_full _ _ _ _ (totalLength_eq columns)

theorem convertFloat_eq {F : Format} {array : List (Datum F) → NumpyArray}
    {columns : List (TypedColumn Double)}
    (readable : ∀ column ∈ columns, column.Readable) (st : PyState) :
    (convertFloat env array columns st).1 =
      .ok (array ((columns.flatMap rows).map fun row =>
        if row.1 then Datum.nan else row.2.convert F)) := by
  rw [convertFloat, tryNpyAlloc_eq succeeds, fillPass_eq readable]
  exact Buffer.finish_full _ _ _ _ (totalLength_eq columns)

end Converters

/-! ## Integers next to nulls -/

/-- The integers that a float holds. -/
def FitsFloat (value : Int) : Prop :=
  ∃ (mantissa : Int) (shift : Nat), |mantissa| < 2 ^ 24 ∧ value = mantissa * 2 ^ shift

theorem value?_nanOrInteger_eq_iff {value : Int} (bounded : |value| ≤ 2 ^ 53) :
    (nanOrInteger false value).value? = some (value : ℚ) ↔ FitsFloat value := by
  have inRange : |(value : ℚ)| < (2 : ℚ) ^ binary32.maxExponent := by
    have small : |(value : ℚ)| ≤ 2 ^ 53 := by exact_mod_cast bounded
    exact lt_of_le_of_lt small (by norm_num [binary32])
  rw [nanOrInteger, if_neg Bool.false_ne_true,
    Datum.value?_convert_of_extends binary64_extends_binary32, Format.value?_round_eq_iff,
    Format.representable_intCast_iff (by decide) inRange]
  rfl

/-- The double that is nearest to the value is a float. -/
def NearestFits (value : Int) : Prop := binary32.Representable (binary64.roundUnbounded value)

theorem nearestFits_iff_fitsFloat {value : Int} (bounded : |value| ≤ 2 ^ 53) :
    NearestFits value ↔ FitsFloat value := by
  have small : |(value : ℚ)| ≤ 2 ^ 53 := by exact_mod_cast bounded
  have double : binary64.Representable (value : ℚ) := by
    rw [Format.representable_intCast_iff (by decide)
      (lt_of_le_of_lt small (zpow_lt_zpow_right₀ (by norm_num) (by decide : (53 : ℤ) < 1024)))]
    rcases bounded.lt_or_eq with below | top
    · exact ⟨value, 0, below, by simp⟩
    · rcases (abs_eq (by positivity)).mp top with rfl | rfl
      · exact ⟨1, 53, by decide, by decide⟩
      · exact ⟨-1, 53, by decide, by decide⟩
  rw [NearestFits, Format.roundUnbounded_of_representable double,
    Format.representable_intCast_iff (by decide) (lt_of_le_of_lt small (by norm_num [binary32]))]
  rfl

/-- On its way through a float an integer keeps the double that it has without it. -/
theorem nanOrInteger_eq_iff {value : Int} (bounded : |value| ≤ 2 ^ 63) :
    nanOrInteger false value = binary64.round value ↔ NearestFits value := by
  have small : |(value : ℚ)| < (2 : ℚ) ^ (64 : ℤ) := by
    have cast : |(value : ℚ)| ≤ 2 ^ 63 := by exact_mod_cast bounded
    exact lt_of_le_of_lt cast (by norm_num)
  rw [nanOrInteger, if_neg Bool.false_ne_true]
  apply binary64_extends_binary32.convert_round_eq_iff
  · exact lt_of_le_of_lt (binary32.abs_roundUnbounded_le small (by decide))
      (zpow_lt_zpow_right₀ (by norm_num) (by decide))
  · exact lt_of_le_of_lt (binary64.abs_roundUnbounded_le small (by decide))
      (zpow_lt_zpow_right₀ (by norm_num) (by decide))

theorem abs_toInt_le {typeId : TypeId} {kind : IntegerKind}
    (selected : pandasConverter typeId = some (.integer kind)) (value : kind.cls.Value) :
    |kind.toInt value| ≤ 2 ^ 63 := by
  cases typeId <;> simp only [pandasConverter, Option.some.injEq, PandasConverter.integer.injEq,
    reduceCtorEq] at selected <;> subst selected
  · exact abs_le.mpr ⟨le_trans (by decide) (Int8.le_toInt value),
      le_trans (Int8.toInt_lt value).le (by decide)⟩
  · exact abs_le.mpr ⟨le_trans (by decide) (Int16.le_toInt value),
      le_trans (Int16.toInt_lt value).le (by decide)⟩
  · exact abs_le.mpr ⟨le_trans (by decide) (Int32.le_toInt value),
      le_trans (Int32.toInt_lt value).le (by decide)⟩
  · exact abs_le.mpr ⟨le_trans (by decide) (Int64.le_toInt value),
      le_trans (Int64.toInt_lt value).le (by decide)⟩

/-- A row that is not null keeps its value in the converted column exactly when the column
has no null at all or a float holds the value: next to a null every value passes through a
float on its way into the array of doubles. -/
theorem convertInteger_delivers_iff {env : PyEnv} (succeeds : ∀ call, env.succeeds call = true)
    {typeId : TypeId} {kind : IntegerKind}
    (selected : pandasConverter typeId = some (.integer kind))
    {columns : List (TypedColumn kind.cls.Value)}
    (readable : ∀ column ∈ columns, column.Readable) (st : PyState) :
    ∃ array, (convertInteger env kind columns st).1 = .ok array ∧
      ∀ i value, (columns.flatMap rows)[i]? = some (false, value) →
        |kind.toInt value| ≤ 2 ^ 53 →
        (array.number? (convertInteger env kind columns st).2 i = some (kind.toInt value : ℚ) ↔
          (∀ row ∈ columns.flatMap rows, row.1 = false) ∨ FitsFloat (kind.toInt value)) := by
  refine ⟨_, convertInteger_eq succeeds readable st, ?_⟩
  intro i value present bounded
  have elements := (delivers_of_pandasConverter selected).elements_array
  by_cases haveNull : (columns.flatMap rows).any Prod.fst = true
  · have someNull : ¬ ∀ row ∈ columns.flatMap rows, row.1 = false := by
      intro noNull
      obtain ⟨row, membership, null⟩ := List.any_eq_true.mp haveNull
      rw [noNull row membership] at null
      cases null
    rw [if_pos haveNull, or_iff_right someNull, ← value?_nanOrInteger_eq_iff bounded]
    simp [NumpyArray.number?, NumpyArray.elements, present, Element.number?]
  · have noNull : ∀ row ∈ columns.flatMap rows, row.1 = false := by
      intro row membership
      exact Bool.eq_false_iff.mpr fun null =>
        haveNull (List.any_eq_true.mpr ⟨row, membership, null⟩)
    rw [if_neg haveNull, iff_true_intro (Or.inl noNull), iff_true]
    simp [NumpyArray.number?, elements, present, Element.number?]

/-- A runtime in which every call of the C API succeeds. -/
def reliableEnv : PyEnv := ⟨fun _ => true, fun _ => true⟩

theorem succeeds_reliableEnv (call : Nat) : reliableEnv.succeeds call = true := rfl

/-- An INT column of one batch: a value and a null. -/
def besideNull (value : Int32) : List (TypedColumn int32Kind.cls.Value) :=
  [⟨[2], ([value, 0] : List Int32)⟩]

theorem rows_besideNull (value : Int32) :
    (besideNull value).flatMap rows = [(false, value), (true, (0 : Int32))] := rfl

theorem readable_besideNull (value : Int32) :
    ∀ column ∈ besideNull value, column.Readable := by
  have bits : ∀ j < 2, (getBit [2] j).isSome := by decide
  intro column membership
  rw [besideNull, List.mem_singleton] at membership
  rw [membership]
  exact bits

theorem convertInteger_delivers_five_beside_null :
    ∃ array, (convertInteger reliableEnv int32Kind (besideNull 5) {}).1 = .ok array ∧
      array.number? (convertInteger reliableEnv int32Kind (besideNull 5) {}).2 0 =
        some (int32Kind.toInt (5 : Int32) : ℚ) := by
  have selected : pandasConverter .int = some (.integer int32Kind) := rfl
  obtain ⟨array, returned, delivered⟩ :=
    convertInteger_delivers_iff succeeds_reliableEnv selected (readable_besideNull 5) {}
  refine ⟨array, returned, (delivered 0 (5 : Int32) rfl (by decide)).mpr (.inr ?_)⟩
  exact ⟨5, 0, by decide, by decide⟩

theorem not_fitsFloat_two_pow_24_add_one : ¬ FitsFloat 16777217 := by
  rintro ⟨mantissa, shift, bounded, value⟩
  cases shift with
  | zero =>
      rw [pow_zero, mul_one] at value
      rw [← value] at bounded
      exact absurd bounded (by decide)
  | succ shift =>
      rw [pow_succ, ← mul_assoc] at value
      omega

/-- The value 2^24 + 1 is lost beside a null. -/
theorem convertInteger_rounds_beside_null :
    ((besideNull 16777217).flatMap rows)[0]? = some (false, (16777217 : Int32)) ∧
      ∃ array, (convertInteger reliableEnv int32Kind (besideNull 16777217) {}).1 = .ok array ∧
        array.number? (convertInteger reliableEnv int32Kind (besideNull 16777217) {}).2 0 ≠
          some 16777217 := by
  refine ⟨rfl, _, convertInteger_eq succeeds_reliableEnv (readable_besideNull _) {}, ?_⟩
  rw [rows_besideNull]
  intro delivered
  apply not_fitsFloat_two_pow_24_add_one
  rw [← value?_nanOrInteger_eq_iff (by decide)]
  exact delivered

end HS2Client.Py
