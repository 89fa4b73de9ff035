import HS2Client.PrintedWidths

/-!
# Counting the digits of machine integers

`NumSpaces` recurses on an `int64_t`, first by negation and then by division. In two's complement
the least integer is its own negation, so that the first step does not get anywhere from there.
-/

namespace HS2Client

open AlignedTable

/-- `NumSpaces` as it recurses: the number of spaces, and whether a negation overflowed. There is
nothing as long as it has not returned. -/
def numSpacesFrom : Nat → Int64 → Option (Nat × Bool)
  | 0, _ => none
  | fuel + 1, n =>
      if n < 0 then
        (numSpacesFrom fuel (-n)).map fun (spaces, overflow) =>
          (1 + spaces, n.toBitVec.negOverflow || overflow)
      else if n < 10 then some (1, false)
      else (numSpacesFrom fuel (n / 10)).map fun (spaces, overflow) => (1 + spaces, overflow)

/-- It returns the number without an overflow. -/
def CountsSpaces (n : Int64) (spaces : Nat) : Prop :=
  ∃ enough, ∀ fuel ≥ enough, numSpacesFrom fuel n = some (spaces, false)

theorem toInt_div_ten {n : Int64} {m : Nat} (value : n.toInt = m) :
    (n / 10).toInt = (m / 10 : Nat) := by
  rw [Int64.toInt_div_of_ne_right _ _ (by decide), value]
  rfl

theorem numSpacesFrom_of_nonneg {n : Int64} {m : Nat} (value : n.toInt = m) {fuel : Nat}
    (enough : m < fuel) : numSpacesFrom fuel n = some (numSpacesNat m, false) := by
  induction m using Nat.strongRecOn generalizing n fuel with
  | ind m ih =>
      obtain ⟨fuel, rfl⟩ := Nat.exists_eq_succ_of_ne_zero (Nat.ne_zero_of_lt enough)
      have nonnegative : ¬ n < 0 := by
        rw [Int64.lt_iff_toInt_lt, value]
        exact not_lt.mpr (Int.natCast_nonneg m)
      have digit : n < 10 ↔ m < 10 := by
        rw [Int64.lt_iff_toInt_lt, value]
        exact Int.ofNat_lt
      unfold numSpacesFrom numSpacesNat
      rw [if_neg nonnegative]
      by_cases small : m < 10
      · rw [if_pos (digit.mpr small), if_pos small]
      · rw [if_neg (mt digit.mp small), if_neg small,
          ih (m / 10) (by omega) (toInt_div_ten value) (by omega)]
        rfl

/-- From the least integer the recursion only comes back to it. -/
theorem numSpacesFrom_minValue (fuel : Nat) : numSpacesFrom fuel Int64.minValue = none := by
  induction fuel with
  | zero => rfl
  | succ fuel ih =>
      have negated : -Int64.minValue = Int64.minValue := by decide
      unfold numSpacesFrom
      rw [if_pos (by decide), negated, ih]
      rfl

theorem negOverflow_of_ne {n : Int64} (negatable : n ≠ Int64.minValue) :
    n.toBitVec.negOverflow = false := by
  have differs : n.toBitVec ≠ BitVec.intMin 64 := by
    intro same
    apply negatable
    apply Int64.toBitVec_inj.mp
    exact same
  simp [BitVec.negOverflow_eq, differs]

theorem countsSpaces_of_ne {n : Int64} (negatable : n ≠ Int64.minValue) :
    CountsSpaces n (decimal n.toInt).length := by
  by_cases negative : n < 0
  · obtain ⟨m, positive, value, negated⟩ := exists_toInt_neg negative negatable
    refine ⟨m + 2, fun fuel enough => ?_⟩
    obtain ⟨fuel, rfl⟩ := Nat.exists_eq_succ_of_ne_zero (Nat.ne_zero_of_lt enough)
    have counted := numSpacesFrom_of_nonneg negated
      (Nat.lt_of_succ_le (Nat.le_of_succ_le_succ enough))
    unfold numSpacesFrom
    rw [if_pos negative, counted, value, length_decimal_neg positive]
    simp [negOverflow_of_ne negatable]
  · have nonnegative : 0 ≤ n.toInt := by
      simpa using mt Int64.lt_iff_toInt_lt.mpr negative
    obtain ⟨m, value⟩ := Int.eq_ofNat_of_zero_le nonnegative
    refine ⟨m + 1, fun fuel enough => ?_⟩
    rw [numSpacesFrom_of_nonneg value enough, value, length_decimal_natCast]

theorem CountsSpaces.ne_minValue {n : Int64} {spaces : Nat} (counts : CountsSpaces n spaces) :
    n ≠ Int64.minValue := by
  rintro rfl
  obtain ⟨enough, returned⟩ := counts
  have never := returned enough le_rfl
  rw [numSpacesFrom_minValue] at never
  cases never

/-- `numSpaces` is what the recursion returns. -/
theorem numSpaces_eq_some_iff (n : Int64) (spaces : Nat) :
    numSpaces n = some spaces ↔ CountsSpaces n spaces := by
  constructor
  · intro counted
    rw [length_of_numSpaces counted]
    apply countsSpaces_of_ne
    rintro rfl
    cases counted
  · intro counts
    have negatable := counts.ne_minValue
    obtain ⟨enough, returned⟩ := counts
    obtain ⟨enough', returned'⟩ := countsSpaces_of_ne negatable
    have same := (returned _ (le_max_left enough enough')).symm.trans
      (returned' _ (le_max_right enough enough'))
    simp only [Option.some.injEq, Prod.mk.injEq] at same
    rw [numSpaces_eq negatable, same.1]

theorem isSome_numSpaces_iff (n : Int64) : (numSpaces n).isSome ↔ n ≠ Int64.minValue := by
  constructor
  · rintro counted rfl
    cases counted
  · intro negatable
    rw [numSpaces_eq negatable]
    rfl

/-! ## Columns of integers -/

/-- The type of the values of an integer column, which `NumSpaces` takes as `int64_t`. -/
structure IntegerType where
  Value : Type
  toInt : Value → Int
  toInt64 : Value → Int64
  widens : ∀ value, (toInt64 value).toInt = toInt value

namespace IntegerType

def tinyint : IntegerType := ⟨Int8, Int8.toInt, Int8.toInt64, Int8.toInt_toInt64⟩

def smallint : IntegerType := ⟨Int16, Int16.toInt, Int16.toInt64, Int16.toInt_toInt64⟩

def int : IntegerType := ⟨Int32, Int32.toInt, Int32.toInt64, Int32.toInt_toInt64⟩

def bigint : IntegerType := ⟨Int64, Int64.toInt, id, fun _ => rfl⟩

/-- The lengths that the cells of a column are printed with. -/
def printedLengths (type : IntegerType) (column : TypedColumn type.Value) : List Nat :=
  (cellTexts (fun value => decimal (type.toInt value)) column.nulls 0 column.data).map List.length

/-- Every flag can be read, and no value that is not null is the least integer. -/
def Countable (type : IntegerType) (column : TypedColumn type.Value) : Prop :=
  ∀ entry ∈ column.data.zipIdx, ∃ isNull, column.isNull entry.2 = some isNull ∧
    (isNull = false → type.toInt64 entry.1 ≠ Int64.minValue)

theorem toInt64_ne_minValue {type : IntegerType} (narrow : type ∈ [tinyint, smallint, int])
    (value : type.Value) : type.toInt64 value ≠ Int64.minValue := by
  simp only [List.mem_cons, List.not_mem_nil, or_false] at narrow
  rcases narrow with rfl | rfl | rfl
  · exact Int8.toInt64_ne_minValue value
  · exact Int16.toInt64_ne_minValue value
  · exact Int32.toInt64_ne_minValue value

theorem hasSize_iff (type : IntegerType) (column : TypedColumn type.Value)
    (entry : type.Value × Nat) :
    HasSize (fun value => numSpaces (type.toInt64 value)) column.nulls entry ↔
      ∃ isNull, column.isNull entry.2 = some isNull ∧
        (isNull = false → type.toInt64 entry.1 ≠ Int64.minValue) := by
  simp only [← isSome_numSpaces_iff]
  rfl

theorem getIntMaxSize_eq_iff (type : IntegerType) (column : TypedColumn type.Value)
    (columnName : Bytes) :
    getIntMaxSize type.toInt64 column columnName =
        some (largest columnName.length (type.printedLengths column)) ↔
      type.Countable column := by
  have sized : ∀ value spaces, numSpaces (type.toInt64 value) = some spaces →
      spaces = (decimal (type.toInt value)).length := by
    intro value spaces counted
    rw [length_of_numSpaces counted, type.widens]
  apply (maxSizeLoop_eq_iff 0 columnName.length sized).trans
  apply forall₂_congr
  intro entry member
  exact type.hasSize_iff column entry

end IntegerType

/-- `NumSpaces` returns the length of the numeral exactly for the integers that can be negated,
and `GetIntMaxSize` the longest cell exactly for the columns of such integers. Only a BIGINT
column can hold another one. -/
theorem numSpaces_measures_iff (n : Int64) (type : IntegerType) (column : TypedColumn type.Value)
    (columnName : Bytes) :
    (CountsSpaces n (decimal n.toInt).length ↔ n ≠ Int64.minValue) ∧
      (getIntMaxSize type.toInt64 column columnName =
          some (largest columnName.length (type.printedLengths column)) ↔
        type.Countable column) ∧
      (type ∈ [IntegerType.tinyint, IntegerType.smallint, IntegerType.int] →
        ∀ value, type.toInt64 value ≠ Int64.minValue) := by
  refine ⟨⟨CountsSpaces.ne_minValue, countsSpaces_of_ne⟩, ?_, ?_⟩
  · exact type.getIntMaxSize_eq_iff column columnName
  · exact IntegerType.toInt64_ne_minValue

/-- A BIGINT column of the one row `-9223372036854775808`. -/
def leastBigint : TypedColumn Int64 := ⟨[0], [Int64.minValue]⟩

theorem not_countsSpaces_minValue :
    (∀ fuel, numSpacesFrom fuel Int64.minValue = none) ∧
      (decimal Int64.minValue.toInt).length = 20 ∧ ¬ CountsSpaces Int64.minValue 20 ∧
      IntegerType.bigint.printedLengths leastBigint = [20] ∧
      getIntMaxSize IntegerType.bigint.toInt64 leastBigint (ascii "n") = none := by
  refine ⟨numSpacesFrom_minValue, by decide, ?_, by decide, by decide⟩
  intro counts
  exact counts.ne_minValue rfl

end HS2Client
