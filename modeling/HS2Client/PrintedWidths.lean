import HS2Client.Library.AlignedTable
import HS2Client.PrintResults

/-!
# Widths of printed texts

The width of a column is computed before anything is printed: digits are counted, and the loop
over a BOOLEAN column stops at its first `false`. Each of these agrees with the lengths of the
texts that are printed later.
-/

namespace HS2Client

open AlignedTable BitPacking

@[simp] theorem length_ascii (text : String) : (ascii text).length = text.toList.length := by
  simp [ascii]

/-! ## Numerals -/

theorem numSpacesNat_eq (n : Nat) : numSpacesNat n = (Nat.toDigits 10 n).length := by
  induction n using Nat.strongRecOn with
  | ind n ih =>
      unfold numSpacesNat
      split_ifs with small
      · rw [Nat.toDigits_of_lt_base small]
        rfl
      · have bound := not_lt.mp small
        rw [Nat.toDigits_of_base_le (by decide) bound, List.length_append,
          ih (n / 10) (Nat.div_lt_self (Nat.zero_lt_of_lt bound) (by decide)), Nat.add_comm]
        rfl

theorem length_decimal_natCast (n : Nat) : (decimal n).length = numSpacesNat n := by
  rw [numSpacesNat_eq, decimal, length_ascii, ← Nat.toList_repr]
  rfl

theorem length_decimal_neg {n : Nat} (positive : 0 < n) :
    (decimal (-n)).length = 1 + numSpacesNat n := by
  obtain ⟨m, rfl⟩ := Nat.exists_eq_succ_of_ne_zero positive.ne'
  rw [numSpacesNat_eq, decimal, length_ascii, ← Nat.toList_repr, Nat.add_comm]
  have printed : toString (-((m.succ : Nat) : Int)) = "-" ++ Nat.repr m.succ := rfl
  rw [printed, String.toList_append, List.length_append, Nat.add_comm]
  rfl

/-- A negative number that can be negated. -/
theorem exists_toInt_neg {n : Int64} (negative : n < 0) (negatable : n ≠ Int64.minValue) :
    ∃ m : Nat, 0 < m ∧ n.toInt = -m ∧ (-n).toInt = m := by
  have below : n.toInt < 0 := by simpa using Int64.lt_iff_toInt_lt.mp negative
  have above : Int64.minValue.toInt < n.toInt :=
    lt_of_le_of_ne (Int64.le_toInt n) fun same => negatable (Int64.toInt_inj.mp same.symm)
  obtain ⟨m, value⟩ := Int.exists_eq_neg_ofNat below.le
  refine ⟨m, by omega, value, ?_⟩
  rw [Int64.toInt_neg, value, Int.neg_neg, Int.bmod_eq_of_le]
  · omega
  · rw [Int64.toInt_minValue] at above
    omega

/-- Digits are counted as they are printed, for every number that can be negated. -/
theorem numSpaces_eq {n : Int64} (negatable : n ≠ Int64.minValue) :
    numSpaces n = some (decimal n.toInt).length := by
  unfold numSpaces
  split_ifs with negative
  · obtain ⟨m, positive, value, negated⟩ := exists_toInt_neg negative negatable
    rw [negated, value, length_decimal_neg positive]
    rfl
  · have nonnegative : 0 ≤ n.toInt := by
      simpa using mt Int64.lt_iff_toInt_lt.mpr negative
    obtain ⟨m, value⟩ := Int.eq_ofNat_of_zero_le nonnegative
    rw [value, length_decimal_natCast]
    rfl

/-! ## Columns -/

section Columns

variable {Value : Type}

/-- The texts of a column whose rows start at `start`; the bitmap says which rows are null. -/
def cellTexts (text : Value → Bytes) (nulls : Bytes) (start : Nat) (values : List Value) :
    List Bytes :=
  (values.zipIdx start).map fun (value, i) =>
    if bit? nulls i = some true then nullSymbol else text value

theorem cellTexts_cons (text : Value → Bytes) (nulls : Bytes) (start : Nat) (value : Value)
    (values : List Value) :
    cellTexts text nulls start (value :: values) =
      (if bit? nulls start = some true then nullSymbol else text value) ::
        cellTexts text nulls (start + 1) values := rfl

@[simp] theorem length_cellTexts (text : Value → Bytes) (nulls : Bytes) (start : Nat)
    (values : List Value) : (cellTexts text nulls start values).length = values.length := by
  simp [cellTexts]

/-- A flag that can be read is the packed bit; past the last byte nothing is null. -/
theorem TypedColumn.eq_of_isNull (column : TypedColumn Value) {i : Nat} {isNull : Bool}
    (read : column.isNull i = some isNull) :
    isNull = decide (bit? column.nulls i = some true) := by
  rw [column.isNull_eq_getBit] at read
  rcases lt_trichotomy (i / 8) column.nulls.length with inside | atEnd | outside
  · rw [getBit_of_lt inside] at read
    simp [read]
  · have absent : bit? column.nulls i = none := by simp [bit?, atEnd]
    rw [getBit_terminator atEnd] at read
    simpa [absent] using read.symm
  · rw [getBit_outside outside] at read
    cases read

/-- Within a full bitmap the flag of a row is the packed bit. -/
theorem TypedColumn.isNull_of_lt (column : TypedColumn Value) {i : Nat}
    (covered : i < 8 * column.nulls.length) :
    column.isNull i = some (decide (bit? column.nulls i = some true)) := by
  have inside : i / 8 < column.nulls.length := Nat.div_lt_of_lt_mul covered
  rw [column.isNull_eq_getBit, getBit_of_lt inside, bit?, List.getElem?_eq_getElem inside]
  simp

/-- The flag of a row can be read, and a value that is not null has a size. -/
def HasSize (sizeOf : Value → Option Nat) (nulls : Bytes) (entry : Value × Nat) : Prop :=
  ∃ isNull, ({ nulls := nulls, data := [entry.1] } : TypedColumn Value).isNull entry.2 =
    some isNull ∧ (isNull = false → (sizeOf entry.1).isSome)

/-- The loop finds the longest text exactly when every row has a size. -/
theorem maxSizeLoop_eq_iff {sizeOf : Value → Option Nat} {text : Value → Bytes} {nulls : Bytes}
    (start : Nat) {values : List Value} (first : Nat)
    (sized : ∀ value size, sizeOf value = some size → size = (text value).length) :
    maxSizeLoop sizeOf nulls start values first =
        some (largest first ((cellTexts text nulls start values).map List.length)) ↔
      ∀ entry ∈ values.zipIdx start, HasSize sizeOf nulls entry := by
  induction values generalizing start first with
  | nil => exact iff_of_true rfl (by simp)
  | cons value values ih =>
      rw [List.zipIdx_cons, List.forall_mem_cons, maxSizeLoop, cellTexts_cons]
      cases flag : ({ nulls := nulls, data := [value] } : TypedColumn Value).isNull start with
      | none => simp [HasSize, flag]
      | some isNull =>
          have bit := TypedColumn.eq_of_isNull _ flag
          dsimp only at bit
          cases isNull with
          | true =>
              have null : bit? nulls start = some true := of_decide_eq_true bit.symm
              simpa [HasSize, flag, null] using ih (start + 1) (max first nullSymbol.length)
          | false =>
              have present : bit? nulls start ≠ some true := of_decide_eq_false bit.symm
              cases size : sizeOf value with
              | none => simp [HasSize, flag, size]
              | some spaces =>
                  obtain rfl := sized value spaces size
                  simpa [HasSize, flag, size, present] using
                    ih (start + 1) (max first (text value).length)

theorem hasSize_of_covered {sizeOf : Value → Option Nat} {column : TypedColumn Value}
    (covered : column.length ≤ 8 * column.nulls.length) {entry : Value × Nat}
    (member : entry ∈ column.data.zipIdx)
    (sized : bit? column.nulls entry.2 ≠ some true → (sizeOf entry.1).isSome) :
    HasSize sizeOf column.nulls entry := by
  have bounded : entry.2 < column.data.length := by
    have found := List.mem_zipIdx_iff_getElem?.mp member
    exact (List.getElem?_eq_some_iff.mp found).1
  have inside : entry.2 < 8 * column.nulls.length := bounded.trans_le covered
  refine ⟨_, TypedColumn.isNull_of_lt ⟨column.nulls, [entry.1]⟩ inside, fun present => ?_⟩
  exact sized (of_decide_eq_false present)

theorem length_of_numSpaces {n : Int64} {spaces : Nat} (counted : numSpaces n = some spaces) :
    spaces = (decimal n.toInt).length := by
  have negatable : n ≠ Int64.minValue := by
    rintro rfl
    cases counted
  rw [numSpaces_eq negatable] at counted
  exact (Option.some.inj counted).symm

theorem getIntMaxSize_eq {toInt64 : Value → Int64} {toInt : Value → Int}
    (widens : ∀ value, (toInt64 value).toInt = toInt value) (column : TypedColumn Value)
    (columnName : Bytes) (covered : column.length ≤ 8 * column.nulls.length)
    (negatable : ∀ entry ∈ column.data.zipIdx, bit? column.nulls entry.2 ≠ some true →
      toInt64 entry.1 ≠ Int64.minValue) :
    getIntMaxSize toInt64 column columnName =
      some (largest columnName.length
        ((cellTexts (fun value => decimal (toInt value)) column.nulls 0 column.data).map
          List.length)) := by
  apply (maxSizeLoop_eq_iff 0 _ _).mpr
  · intro entry member
    apply hasSize_of_covered covered member
    intro present
    rw [numSpaces_eq (negatable entry member present)]
    rfl
  · intro value spaces counted
    rw [length_of_numSpaces counted, widens]

theorem getStringMaxSize_eq (column : TypedColumn Bytes) (columnName : Bytes)
    (covered : column.length ≤ 8 * column.nulls.length) :
    getStringMaxSize column columnName =
      some (largest columnName.length
        ((cellTexts id column.nulls 0 column.data).map List.length)) := by
  apply (maxSizeLoop_eq_iff 0 _ _).mpr
  · intro entry member
    exact hasSize_of_covered covered member fun _ => rfl
  · intro value size counted
    exact (Option.some.inj counted).symm

/-! ## BOOLEAN columns -/

def boolText (value : Bool) : Bytes := if value then trueSymbol else falseSymbol

theorem length_boolCell_le {nulls : Bytes} {start : Nat} {values : List Bool} {cell : Bytes}
    (member : cell ∈ cellTexts boolText nulls start values) :
    cell.length ≤ falseSymbol.length := by
  obtain ⟨⟨value, i⟩, -, rfl⟩ := List.mem_map.mp member
  dsimp only
  split_ifs
  · decide
  · cases value <;> decide

/-- No text after the first `false` is longer, and no text before it is longer than `true`. -/
theorem hasFalse_eq {nulls : Bytes} (start : Nat) {values : List Bool} {first : Nat}
    (covered : start + values.length ≤ 8 * nulls.length) (atLeast : trueSymbol.length ≤ first) :
    (hasFalse nulls start values).map
        (fun found => if found then max first falseSymbol.length else first) =
      some (largest first ((cellTexts boolText nulls start values).map List.length)) := by
  induction values generalizing start with
  | nil => rfl
  | cons value values ih =>
      rw [List.length_cons] at covered
      have later := ih (start + 1) (by omega)
      have flag := TypedColumn.isNull_of_lt ⟨nulls, [value]⟩
        (show start < 8 * nulls.length by omega)
      rw [hasFalse, flag, cellTexts_cons, List.map_cons, largest_cons]
      by_cases null : bit? nulls start = some true
      · have short : max first nullSymbol.length = first := max_eq_left atLeast
        simpa [null, short] using later
      · cases value with
        | true =>
            have short : max first (boolText true).length = first := max_eq_left atLeast
            simpa [null, short] using later
        | false =>
            have longest : largest (max first falseSymbol.length)
                ((cellTexts boolText nulls (start + 1) values).map List.length) =
                  max first falseSymbol.length := by
              apply largest_eq_first
              intro size member
              obtain ⟨cell, present, rfl⟩ := List.mem_map.mp member
              exact (length_boolCell_le present).trans (le_max_right _ _)
            simpa [null, boolText] using longest.symm

theorem getBoolMaxSize_eq (column : TypedColumn Bool) (columnName : Bytes)
    (covered : column.length ≤ 8 * column.nulls.length) :
    getBoolMaxSize column columnName =
      some (largest (max columnName.length trueSymbol.length)
        ((cellTexts boolText column.nulls 0 column.data).map List.length)) := by
  apply hasFalse_eq
  · simpa [TypedColumn.length] using covered
  · exact le_max_right _ _

end Columns

end HS2Client
