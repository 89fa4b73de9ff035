import HS2Client.Library.BitPacking
import HS2Client.Types

/-!
# Columns of a row set

A typed column shares the value vector and the null bitmap of one member of a
`TColumn`. Reading the bitmap past the terminator of its `std::string` is undefined
behaviour and modelled by `none`.
-/

namespace HS2Client

open BitPacking

/-- The byte at `index` of a `c_str()` buffer: after the last byte stands a NUL. -/
def readByte (buffer : Bytes) (index : Nat) : Option UInt8 :=
  if index = buffer.length then some 0 else buffer[index]?

/-- The static table `BITMASK`. -/
def bitmask (position : Nat) : UInt8 := [1, 2, 4, 8, 16, 32, 64, 128].getD position 0

/-- The bit reader of the Python converters. -/
def getBit (bits : Bytes) (i : Nat) : Option Bool :=
  (readByte bits (i / 8)).map fun byte => byte &&& bitmask (i % 8) ≠ 0

/-- The instances of `TypedColumn`. -/
inductive ColumnClass where
  | bool
  | byte
  | int16
  | int32
  | int64
  | double
  | string
  deriving DecidableEq, Repr

namespace ColumnClass

/-- `typedef TypedColumn<std::string> BinaryColumn`, the same class as `StringColumn`. -/
@[reducible] def binary : ColumnClass := .string

@[reducible] def Value : ColumnClass → Type
  | .bool => Bool
  | .byte => Int8
  | .int16 => Int16
  | .int32 => Int32
  | .int64 => Int64
  | .double => Double
  | .string => Bytes

/-- The member that `type_helpers<T>` reads. -/
def member : (cls : ColumnClass) → TColumn → TValues cls.Value
  | .bool => TColumn.boolVal
  | .byte => TColumn.byteVal
  | .int16 => TColumn.i16Val
  | .int32 => TColumn.i32Val
  | .int64 => TColumn.i64Val
  | .double => TColumn.doubleVal
  | .string => TColumn.stringVal

end ColumnClass

structure TypedColumn (Value : Type) where
  nulls : Bytes
  data : List Value

namespace TypedColumn

variable {Value : Type}

def length (column : TypedColumn Value) : Nat := column.data.length

def nullsSize (column : TypedColumn Value) : Nat := column.nulls.length

def isNull (column : TypedColumn Value) (i : Nat) : Option Bool :=
  (readByte column.nulls (i / 8)).map fun byte => byte.toNat &&& (1 <<< (i % 8)) ≠ 0

end TypedColumn

/-- The reply that a `ColumnarRowSet` owns. -/
structure ColumnarRowSet where
  resp : TFetchResultsResp

/-- `GetCol<T>(i)`; an index past the columns of the reply is only caught by an assertion
and reads outside the vector. -/
def ColumnarRowSet.getCol (rowSet : ColumnarRowSet) (cls : ColumnClass) (i : Nat) :
    Option (TypedColumn cls.Value) :=
  rowSet.resp.results.columns[i]?.map fun col =>
    { nulls := (cls.member col).nulls, data := (cls.member col).values }

/-! ## Reading null bitmaps -/

theorem and_bitmask_ne_zero (byte : UInt8) {position : Nat} (bounded : position < 8) :
    decide (byte &&& bitmask position ≠ 0) = byte.toNat.testBit position := by
  have table : ∀ position < 8, (bitmask position).toNat = 2 ^ position := by decide
  have mask := table position bounded
  have zero : byte &&& bitmask position = 0 ↔ byte.toNat &&& 2 ^ position = 0 := by
    rw [← UInt8.toNat_inj, UInt8.toNat_and, mask]
    rfl
  rw [Nat.and_comm, Nat.two_pow_and] at zero
  cases set : byte.toNat.testBit position <;> simp_all

theorem and_shift_ne_zero (byte : UInt8) (position : Nat) :
    decide (byte.toNat &&& (1 <<< position) ≠ 0) = byte.toNat.testBit position := by
  rw [Nat.one_shiftLeft, Nat.and_comm, Nat.two_pow_and]
  cases byte.toNat.testBit position <;> simp

/-- Both readers see the same bit of the same byte. -/
theorem getBit_eq (bits : Bytes) (i : Nat) :
    getBit bits i = (readByte bits (i / 8)).map fun byte => byte.toNat.testBit (i % 8) := by
  simp only [getBit, and_bitmask_ne_zero _ (Nat.mod_lt i (by decide : 8 > 0))]

theorem TypedColumn.isNull_eq_getBit {Value : Type} (column : TypedColumn Value) (i : Nat) :
    column.isNull i = getBit column.nulls i := by
  simp only [getBit_eq, TypedColumn.isNull, and_shift_ne_zero]

/-- Inside the buffer the readers deliver the packed bit. -/
theorem getBit_of_lt {bits : Bytes} {i : Nat} (inside : i / 8 < bits.length) :
    getBit bits i = bit? bits i := by
  rw [getBit_eq, readByte, if_neg (by omega), bit?]

theorem getBit_terminator {bits : Bytes} {i : Nat} (atEnd : i / 8 = bits.length) :
    getBit bits i = some false := by
  simp [getBit_eq, readByte, atEnd]

theorem getBit_outside {bits : Bytes} {i : Nat} (outside : bits.length < i / 8) :
    getBit bits i = none := by
  rw [getBit_eq, readByte, if_neg (by omega), List.getElem?_eq_none (by omega)]
  rfl

/-! ## Bitmaps that a server sends -/

/-- A full bitmap, or the short one of HUE-2722 without its trailing zero bytes. -/
inductive BitmapForm where
  | full
  | short
  deriving DecidableEq

def encodeNulls : BitmapForm → List Bool → Bytes
  | .full, flags => pack flags
  | .short, flags => trim (pack flags)

/-- Every row's flag is read back, by both readers, from inside the buffer. -/
def DecodesNulls (form : BitmapForm) (flags : List Bool) : Prop :=
  ∀ i, ∀ bounded : i < flags.length, ∀ (Value : Type) (data : List Value),
    i / 8 ≤ (encodeNulls form flags).length ∧
      getBit (encodeNulls form flags) i = some flags[i] ∧
      ({ nulls := encodeNulls form flags, data := data } : TypedColumn Value).isNull i =
        some flags[i]

/-- At most one byte is missing from the bitmap: the rows fit one byte, or one of the last
two bytes has a null. -/
def KeepsLastTwoBytes (flags : List Bool) : Prop :=
  flags.length ≤ 8 ∨
    ∃ i, ∃ bounded : i < flags.length, flags[i] = true ∧ flags.length ≤ 8 * (i / 8 + 2)

theorem length_le_of_keepsLastTwoBytes {flags : List Bool} (kept : KeepsLastTwoBytes flags) :
    flags.length ≤ 8 * ((trim (pack flags)).length + 1) := by
  rcases kept with small | ⟨i, bounded, set, near⟩
  · omega
  · have inside : i / 8 < (trim (pack flags)).length := by
      by_contra dropped
      rw [flag_of_length_trim_le bounded (by omega)] at set
      cases set
    omega

theorem keepsLastTwoBytes_of_length_le {flags : List Bool}
    (near : flags.length ≤ 8 * ((trim (pack flags)).length + 1)) : KeepsLastTwoBytes flags := by
  by_cases empty : trim (pack flags) = []
  · left
    simpa [empty] using near
  · obtain ⟨i, bounded, set, last⟩ := exists_flag_of_trim_ne_nil empty
    exact .inr ⟨i, bounded, set, by omega⟩

theorem getBit_pack {flags : List Bool} {i : Nat} (bounded : i < flags.length) :
    getBit (pack flags) i = some flags[i] := by
  rw [getBit_of_lt (by rw [length_pack]; omega), bit?_pack flags bounded]

theorem getBit_trim {flags : List Bool} {i : Nat} (bounded : i < flags.length)
    (inside : i / 8 ≤ (trim (pack flags)).length) :
    getBit (trim (pack flags)) i = some flags[i] := by
  rcases lt_or_eq_of_le inside with kept | atEnd
  · rw [getBit_of_lt kept, bit?_trim kept, bit?_pack flags bounded]
  · rw [getBit_terminator atEnd, flag_of_length_trim_le bounded atEnd.ge]

/-- Decoding undoes the full encoding always and the short one exactly when no more than
one byte was dropped: the code never compares the row with the size of the bitmap. -/
theorem decodesNulls_iff (form : BitmapForm) (flags : List Bool) :
    DecodesNulls form flags ↔ form = .full ∨ KeepsLastTwoBytes flags := by
  constructor
  · intro decodes
    cases form with
    | full => exact .inl rfl
    | short =>
        right
        apply keepsLastTwoBytes_of_length_le
        by_contra far
        have beyond : 8 * ((trim (pack flags)).length + 1) < flags.length := by omega
        have read := (decodes _ beyond Unit []).2.1
        rw [encodeNulls, getBit_outside (by omega)] at read
        cases read
  · intro condition i bounded Value data
    have decoded : i / 8 ≤ (encodeNulls form flags).length ∧
        getBit (encodeNulls form flags) i = some flags[i] := by
      cases form with
      | full =>
          refine ⟨?_, getBit_pack bounded⟩
          rw [encodeNulls, length_pack]
          omega
      | short =>
          have near := length_le_of_keepsLastTwoBytes (condition.resolve_left (by decide))
          have inside : i / 8 ≤ (trim (pack flags)).length := by omega
          exact ⟨inside, getBit_trim bounded inside⟩
    refine ⟨decoded.1, decoded.2, ?_⟩
    rw [TypedColumn.isNull_eq_getBit]
    exact decoded.2

/-- Seventeen rows without a null have an empty short bitmap, and row 16 reads its third byte. -/
theorem not_decodesNulls_seventeen_rows :
    encodeNulls .short (List.replicate 17 false) = [] ∧
      getBit (encodeNulls .short (List.replicate 17 false)) 16 = none ∧
      ¬ DecodesNulls .short (List.replicate 17 false) := by
  have empty : encodeNulls .short (List.replicate 17 false) = [] := by decide
  have read : getBit (encodeNulls .short (List.replicate 17 false)) 16 = none := by
    rw [empty]
    rfl
  refine ⟨empty, read, fun decodes => ?_⟩
  have decoded := (decodes 16 (by decide) Unit []).2.1
  rw [read] at decoded
  cases decoded

end HS2Client
