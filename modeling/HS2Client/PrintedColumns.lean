import HS2Client.PrintResults

/-!
# Which column is printed where

A column of the printed table takes its header and its type from `column_descs[k]`, its data
and its width from `columns[k]`. A type without a case is skipped in the second vector only.
-/

namespace HS2Client

/-- The class that the switches use for a type, in both of its places. -/
def printClass : TypeId → Option ColumnClass
  | .boolean => some .bool
  | .tinyint => some .byte
  | .smallint => some .int16
  | .int => some .int32
  | .bigint => some .int64
  | .string => some .string
  | .binary => some .binary
  | _ => none

/-- The types that both switches have a case for. -/
def ColumnDesc.printable (desc : ColumnDesc) : Bool :=
  desc.type.typeId ∈
    [TypeId.boolean, .tinyint, .smallint, .int, .bigint, .string, .binary]

theorem ColumnDesc.printable_eq (desc : ColumnDesc) :
    desc.printable = (printClass desc.type.typeId).isSome := by
  unfold printable
  cases desc.type.typeId <;> rfl

/-- The width of a table column with the name and the type of `desc` and this data. -/
def ColumnDesc.width? (desc : ColumnDesc) : AnyColumn → Option Nat
  | ⟨.bool, column⟩ => getBoolMaxSize column desc.columnName
  | ⟨.byte, column⟩ => getIntMaxSize Int8.toInt64 column desc.columnName
  | ⟨.int16, column⟩ => getIntMaxSize Int16.toInt64 column desc.columnName
  | ⟨.int32, column⟩ => getIntMaxSize Int32.toInt64 column desc.columnName
  | ⟨.int64, column⟩ => getIntMaxSize id column desc.columnName
  | ⟨.double, _⟩ => none
  | ⟨.string, column⟩ =>
      if desc.type.typeId = .binary then some desc.columnName.length
      else getStringMaxSize column desc.columnName

/-- An object made for the result-set column `source`, whose description is `desc`. -/
structure MadeFor (results : ColumnarRowSet) (desc : ColumnDesc) (info : PrintInfo) : Prop where
  cls : printClass desc.type.typeId = some info.column.cls
  data : results.getCol info.column.cls info.source = some info.column.column
  width : desc.width? info.column = some info.maxSize

theorem emplaceColumn_some {results : ColumnarRowSet} {i : Nat} {cls : ColumnClass}
    {maxSize : TypedColumn cls.Value → Option Nat} {info : PrintInfo}
    (emplaced : emplaceColumn results i cls maxSize = some info) :
    ∃ column size, results.getCol cls i = some column ∧ maxSize column = some size ∧
      info = ⟨i, ⟨cls, column⟩, size⟩ := by
  simp only [emplaceColumn, bind, Option.bind_eq_some_iff] at emplaced
  obtain ⟨column, read, size, measured, created⟩ := emplaced
  cases created
  exact ⟨column, size, read, measured, rfl⟩

theorem collectColumn_none_iff (results : ColumnarRowSet) (i : Nat) (desc : ColumnDesc) :
    collectColumn results i desc.columnName desc.type.typeId = none ↔
      desc.printable = false := by
  rw [desc.printable_eq]
  cases desc.type.typeId <;> simp [collectColumn, printClass]

theorem collectColumn_some {results : ColumnarRowSet} {i : Nat} {desc : ColumnDesc}
    {info : PrintInfo}
    (collected : collectColumn results i desc.columnName desc.type.typeId = some (some info)) :
    info.source = i ∧ MadeFor results desc info := by
  cases type : desc.type.typeId <;> rw [type] at collected <;>
    simp only [collectColumn, Option.some.injEq, reduceCtorEq] at collected <;>
    obtain ⟨column, size, read, measured, rfl⟩ := emplaceColumn_some collected <;>
    exact ⟨rfl, by rw [type]; rfl, read, by simpa [ColumnDesc.width?, type] using measured⟩

/-- A cell that is not NULL is cast to the class of the type, and a cast to another class than the
object's own is not defined. -/
theorem cellText_isSome_iff {desc : ColumnDesc} {info : PrintInfo} {i : Nat} {cls : ColumnClass}
    (casts : printClass desc.type.typeId = some cls) (inside : i < info.column.length)
    (present : info.column.isNull i = some false) :
    (cellText desc info i).isSome ↔ info.column.cls = cls := by
  have read : (info.column.data? cls i).isSome ↔ info.column.cls = cls := by
    obtain ⟨source, ⟨own, column⟩, maxSize⟩ := info
    simp only [AnyColumn.data?]
    split_ifs with same
    · subst same
      exact iff_of_true (by simpa [AnyColumn.length, TypedColumn.length] using inside) rfl
    · exact iff_of_false (by simp) same
  rw [← read]
  unfold cellText
  cases type : desc.type.typeId <;> rw [type] at casts <;>
    simp only [printClass, Option.some.injEq, reduceCtorEq] at casts <;> subst casts <;>
    simp [present]

/-! ## The collected columns -/

def printableIndices : Nat → List ColumnDesc → List Nat
  | _, [] => []
  | i, desc :: descs =>
      if desc.printable then i :: printableIndices (i + 1) descs
      else printableIndices (i + 1) descs

theorem source_collectColumns {results : ColumnarRowSet} {i : Nat} {descs : List ColumnDesc}
    {out : Bytes} {columns : List PrintInfo}
    (collected : collectColumns results i descs = some (out, columns)) :
    columns.map PrintInfo.source = printableIndices i descs := by
  induction descs generalizing i out columns with
  | nil =>
      cases collected
      rfl
  | cons desc descs ih =>
      rw [collectColumns] at collected
      cases found : collectColumn results i desc.columnName desc.type.typeId with
      | none =>
          rw [found] at collected
          simp only [bind, Option.bind_eq_some_iff] at collected
          obtain ⟨⟨rest, others⟩, collected, returned⟩ := collected
          cases returned
          have skipped := (collectColumn_none_iff results i desc).mp found
          rw [printableIndices, if_neg (by rw [skipped]; exact Bool.false_ne_true), ih collected]
      | some emplaced =>
          rw [found] at collected
          simp only [bind, Option.bind_eq_some_iff] at collected
          obtain ⟨info, rfl, ⟨rest, others⟩, collected, returned⟩ := collected
          cases returned
          obtain ⟨source, made⟩ := collectColumn_some found
          have kept : desc.printable = true := by rw [desc.printable_eq, made.cls]; rfl
          rw [printableIndices, if_pos kept, List.map_cons, source, ih collected]

/-- Each collected object was made for a column of the schema. -/
theorem madeFor_collectColumns {results : ColumnarRowSet} {i : Nat} {descs : List ColumnDesc}
    {out : Bytes} {columns : List PrintInfo}
    (collected : collectColumns results i descs = some (out, columns)) {info : PrintInfo}
    (membership : info ∈ columns) :
    ∃ desc, descs[info.source - i]? = some desc ∧ i ≤ info.source ∧
      MadeFor results desc info := by
  induction descs generalizing i out columns with
  | nil =>
      cases collected
      cases membership
  | cons desc descs ih =>
      rw [collectColumns] at collected
      have later : ∀ {rest others}, collectColumns results (i + 1) descs = some (rest, others) →
          info ∈ others → ∃ own, (desc :: descs)[info.source - i]? = some own ∧
            i ≤ info.source ∧ MadeFor results own info := by
        intro rest others collected membership
        obtain ⟨own, present, bound, made⟩ := ih collected membership
        refine ⟨own, ?_, by omega, made⟩
        rw [show info.source - i = info.source - (i + 1) + 1 by omega, List.getElem?_cons_succ]
        exact present
      cases found : collectColumn results i desc.columnName desc.type.typeId with
      | none =>
          rw [found] at collected
          simp only [bind, Option.bind_eq_some_iff] at collected
          obtain ⟨⟨rest, others⟩, collected, returned⟩ := collected
          cases returned
          exact later collected membership
      | some emplaced =>
          rw [found] at collected
          simp only [bind, Option.bind_eq_some_iff] at collected
          obtain ⟨first, rfl, ⟨rest, others⟩, collected, returned⟩ := collected
          cases returned
          rcases List.mem_cons.mp membership with rfl | earlier
          · obtain ⟨source, made⟩ := collectColumn_some found
            exact ⟨desc, by rw [source, Nat.sub_self]; rfl, source.ge, made⟩
          · exact later collected earlier

theorem mapM_pairColumns (before : List ColumnDesc) {descs : List ColumnDesc}
    {columns : List PrintInfo} (covered : columns.length ≤ descs.length) :
    (columns.zipIdx before.length).mapM (fun (info, j) => (before ++ descs)[j]?.map (·, info)) =
      some (descs.zip columns) := by
  induction columns generalizing before descs with
  | nil => simp
  | cons info columns ih =>
      cases descs with
      | nil => cases covered
      | cons desc descs =>
          have rest := ih (before ++ [desc]) (Nat.le_of_succ_le_succ covered)
          rw [List.length_append, List.length_singleton] at rest
          simp only [List.append_assoc, List.singleton_append] at rest
          rw [List.zipIdx_cons, List.mapM_cons, rest]
          simp

/-- The objects are printed beside the first descriptions, whatever they were made for. -/
theorem pairColumns_eq_zip {descs : List ColumnDesc} {columns : List PrintInfo}
    (covered : columns.length ≤ descs.length) :
    pairColumns descs columns = some (descs.zip columns) :=
  mapM_pairColumns [] covered

theorem length_printableIndices_le (i : Nat) (descs : List ColumnDesc) :
    (printableIndices i descs).length ≤ descs.length := by
  induction descs generalizing i with
  | nil => exact le_rfl
  | cons desc descs ih =>
      rw [printableIndices]
      split_ifs
      · exact Nat.succ_le_succ (ih (i + 1))
      · exact (ih (i + 1)).trans (Nat.le_succ _)

theorem length_collectColumns_le {results : ColumnarRowSet} {i : Nat} {descs : List ColumnDesc}
    {out : Bytes} {columns : List PrintInfo}
    (collected : collectColumns results i descs = some (out, columns)) :
    columns.length ≤ descs.length := by
  rw [← List.length_map PrintInfo.source, source_collectColumns collected]
  exact length_printableIndices_le i descs

/-! ## Column identity -/

/-- Table column `k`, a description and an object that are printed together: the header, the type,
the data and the width are those of result-set column `k`, for which the object was made, and no
cell is cast to another class than the object's. -/
structure KeepsColumn (results : ColumnarRowSet) (descs : List ColumnDesc) (k : Nat)
    (pair : ColumnDesc × PrintInfo) : Prop where
  header : descs[k]? = some pair.1
  source : pair.2.source = k
  data : results.getCol pair.2.column.cls k = some pair.2.column.column
  width : pair.1.width? pair.2.column = some pair.2.maxSize
  casts : ∀ i < pair.2.column.length, pair.2.column.isNull i = some false →
    (cellText pair.1 pair.2 i).isSome

structure KeepsColumns (results : ColumnarRowSet) (descs : List ColumnDesc)
    (columns : List PrintInfo) : Prop where
  printed : ∃ pairs, pairColumns descs columns = some pairs ∧ pairs.map Prod.snd = columns ∧
    ∀ (k : Nat) pair, pairs[k]? = some pair → KeepsColumn results descs k pair
  collected : columns ≠ []

/-- The printable types come first, and there is one. -/
def PrintableFirst (descs : List ColumnDesc) : Prop :=
  ∃ printables others, descs = printables ++ others ∧ printables ≠ [] ∧
    (∀ desc ∈ printables, desc.printable = true) ∧ ∀ desc ∈ others, desc.printable = false

theorem le_of_mem_printableIndices {i : Nat} {descs : List ColumnDesc} {index : Nat}
    (membership : index ∈ printableIndices i descs) : i ≤ index := by
  induction descs generalizing i with
  | nil => cases membership
  | cons desc descs ih =>
      rw [printableIndices] at membership
      split_ifs at membership
      · rcases List.mem_cons.mp membership with rfl | later
        · exact le_rfl
        · exact Nat.le_of_succ_le (ih later)
      · exact Nat.le_of_succ_le (ih membership)

theorem printableIndices_eq_nil {i : Nat} {descs : List ColumnDesc}
    (empty : printableIndices i descs = []) : ∀ desc ∈ descs, desc.printable = false := by
  induction descs generalizing i with
  | nil => simp
  | cons desc descs ih =>
      rw [printableIndices] at empty
      split_ifs at empty with kept
      intro other membership
      rcases List.mem_cons.mp membership with rfl | later
      · exact Bool.eq_false_iff.mpr kept
      · exact ih empty other later

theorem printableIndices_of_unprintable (i : Nat) {descs : List ColumnDesc}
    (unprintable : ∀ desc ∈ descs, desc.printable = false) : printableIndices i descs = [] := by
  induction descs generalizing i with
  | nil => rfl
  | cons desc descs ih =>
      have skipped := unprintable desc List.mem_cons_self
      rw [printableIndices, if_neg (by rw [skipped]; exact Bool.false_ne_true)]
      exact ih _ fun other later => unprintable other (List.mem_cons_of_mem _ later)

theorem getElem?_printableIndices_append (i : Nat) {printables others : List ColumnDesc}
    (kept : ∀ desc ∈ printables, desc.printable = true)
    (skipped : ∀ desc ∈ others, desc.printable = false) (k index : Nat)
    (present : (printableIndices i (printables ++ others))[k]? = some index) :
    index = i + k := by
  induction printables generalizing i k with
  | nil =>
      rw [List.nil_append, printableIndices_of_unprintable i skipped] at present
      cases present
  | cons desc printables ih =>
      rw [List.cons_append, printableIndices, if_pos (kept desc List.mem_cons_self)] at present
      cases k with
      | zero => exact (Option.some.inj present).symm
      | succ k =>
          have later := ih (i + 1)
            (fun other membership => kept other (List.mem_cons_of_mem _ membership)) k present
          omega

/-- Consecutive indices from the start leave no gap for a skipped type. -/
theorem split_of_consecutive {i : Nat} {descs : List ColumnDesc}
    (consecutive : ∀ (k index : Nat), (printableIndices i descs)[k]? = some index → index = i + k) :
    ∃ printables others, descs = printables ++ others ∧
      (∀ desc ∈ printables, desc.printable = true) ∧
      ∀ desc ∈ others, desc.printable = false := by
  induction descs generalizing i with
  | nil => exact ⟨[], [], rfl, by simp, by simp⟩
  | cons desc descs ih =>
      by_cases kept : desc.printable = true
      · rw [printableIndices, if_pos kept] at consecutive
        obtain ⟨printables, others, rfl, all, none⟩ := ih fun k index present => by
          have next := consecutive (k + 1) index present
          omega
        refine ⟨desc :: printables, others, rfl, ?_, none⟩
        intro other membership
        rcases List.mem_cons.mp membership with rfl | later
        · exact kept
        · exact all other later
      · refine ⟨[], desc :: descs, rfl, by simp, ?_⟩
        rw [printableIndices, if_neg kept] at consecutive
        have empty : printableIndices (i + 1) descs = [] := by
          cases indices : printableIndices (i + 1) descs with
          | nil => rfl
          | cons first rest =>
              have start := consecutive 0 first (by rw [indices]; rfl)
              have bound := le_of_mem_printableIndices
                (indices ▸ List.mem_cons_self : first ∈ printableIndices (i + 1) descs)
              omega
        intro other membership
        rcases List.mem_cons.mp membership with rfl | later
        · exact Bool.eq_false_iff.mpr kept
        · exact printableIndices_eq_nil empty other later

theorem KeepsColumns.source_eq {results : ColumnarRowSet} {descs : List ColumnDesc}
    {columns : List PrintInfo} (keeps : KeepsColumns results descs columns) {k : Nat}
    {info : PrintInfo} (stored : columns[k]? = some info) : info.source = k := by
  obtain ⟨pairs, _, rfl, same⟩ := keeps.printed
  rw [List.getElem?_map] at stored
  obtain ⟨pair, present, rfl⟩ := Option.map_eq_some_iff.mp stored
  exact (same k pair present).source

theorem MadeFor.keepsColumn {results : ColumnarRowSet} {descs : List ColumnDesc}
    {pair : ColumnDesc × PrintInfo} (made : MadeFor results pair.1 pair.2)
    (header : descs[pair.2.source]? = some pair.1) :
    KeepsColumn results descs pair.2.source pair where
  header := header
  source := rfl
  data := made.data
  width := made.width
  casts _ inside present := (cellText_isSome_iff made.cls inside present).mpr rfl

/-- Objects that stand in the places they were made for are printed with their own columns. -/
theorem keepsColumn_of_source_eq {results : ColumnarRowSet} {descs : List ColumnDesc} {out : Bytes}
    {columns : List PrintInfo} (collected : collectColumns results 0 descs = some (out, columns))
    (same : ∀ (k : Nat) info, columns[k]? = some info → info.source = k) {k : Nat}
    {pair : ColumnDesc × PrintInfo} (printed : (descs.zip columns)[k]? = some pair) :
    KeepsColumn results descs k pair := by
  obtain ⟨header, stored⟩ := List.getElem?_zip_eq_some.mp printed
  obtain rfl : pair.2.source = k := same k pair.2 stored
  obtain ⟨own, present, _, made⟩ :=
    madeFor_collectColumns collected (List.mem_of_getElem? stored)
  rw [Nat.sub_zero, header] at present
  obtain rfl : pair.1 = own := Option.some.inj present
  exact made.keepsColumn header

/-- A table keeps the identity of its columns exactly when the printable types come first in
the schema. -/
theorem keepsColumns_iff {results : ColumnarRowSet} {descs : List ColumnDesc} {out : Bytes}
    {columns : List PrintInfo} (collected : collectColumns results 0 descs = some (out, columns)) :
    descs = [] ∨ KeepsColumns results descs columns ↔ descs = [] ∨ PrintableFirst descs := by
  have sources := source_collectColumns collected
  apply or_congr_right
  constructor
  · intro keeps
    obtain ⟨printables, others, rfl, all, none⟩ := split_of_consecutive
      (fun k index present => by
        rw [← sources, List.getElem?_map] at present
        obtain ⟨info, stored, rfl⟩ := Option.map_eq_some_iff.mp present
        rw [keeps.source_eq stored, Nat.zero_add])
    refine ⟨printables, others, rfl, ?_, all, none⟩
    rintro rfl
    apply keeps.collected
    rw [List.nil_append, printableIndices_of_unprintable 0 none] at sources
    exact List.map_eq_nil_iff.mp sources
  · rintro ⟨printables, others, rfl, nonempty, all, none⟩
    have same : ∀ (k : Nat) info, columns[k]? = some info → info.source = k := by
      intro k info stored
      have present : (printableIndices 0 (printables ++ others))[k]? = some info.source := by
        rw [← sources, List.getElem?_map, stored]
        rfl
      rw [getElem?_printableIndices_append 0 all none k _ present, Nat.zero_add]
    have covered := length_collectColumns_le collected
    refine ⟨⟨_, pairColumns_eq_zip covered, List.map_snd_zip covered,
      fun k pair printed => keepsColumn_of_source_eq collected same printed⟩, ?_⟩
    rintro rfl
    have unprintable := printableIndices_eq_nil sources.symm
    obtain ⟨first, rest, rfl⟩ := List.exists_cons_of_ne_nil nonempty
    have kept := all first List.mem_cons_self
    rw [unprintable first (by simp)] at kept
    cases kept

def primitiveDesc (columnName : String) (typeId : TypeId) : ColumnDesc :=
  { columnName := ascii columnName, type := .primitive typeId }

/-- One row: a text and a double. -/
def stringDouble : ColumnarRowSet :=
  ⟨{ results := { columns := [{ stringVal := ⟨[ascii "text"], [0]⟩ },
    { doubleVal := ⟨[.nan], [0]⟩ }] } }⟩

/-- The DOUBLE column is not in the table, and the STRING column is printed as it is. -/
theorem keepsColumns_of_unprintable_last :
    let descs := [primitiveDesc "s" .string, primitiveDesc "d" .double]
    ∃ out columns, collectColumns stringDouble 0 descs = some (out, columns) ∧
      KeepsColumns stringDouble descs columns ∧
      printTable stringDouble descs = some (ascii "Unrecognized ColumnType = DOUBLE" ++
        ascii "+------+\n| s    |\n+------+\n| text |\n+------+\n") := by
  intro descs
  obtain ⟨out, columns, collected⟩ :
      ∃ out columns, collectColumns stringDouble 0 descs = some (out, columns) :=
    ⟨_, _, rfl⟩
  have first : PrintableFirst descs := by
    refine ⟨[primitiveDesc "s" .string], [primitiveDesc "d" .double], rfl, by simp, ?_, ?_⟩ <;>
      simp [ColumnDesc.printable, primitiveDesc, ColumnType.typeId]
  have keeps := ((keepsColumns_iff collected).mpr (.inr first)).resolve_left (by simp [descs])
  exact ⟨out, columns, collected, keeps, by decide⟩

/-- One row: a double, `true` and a text. -/
def doubleBooleanString : ColumnarRowSet :=
  ⟨{ results := { columns :=
    [{ doubleVal := ⟨[.nan], [0]⟩ }, { boolVal := ⟨[true], [0]⟩ },
      { stringVal := ⟨[ascii "x"], [0]⟩ }] } }⟩

/-- After a DOUBLE the BOOLEAN column is printed under the name of the DOUBLE column, and the
STRING column object is cast to the class of the BOOLEAN column. -/
theorem not_keepsColumns_double_first :
    let descs := [primitiveDesc "d" .double, primitiveDesc "b" .boolean, primitiveDesc "s" .string]
    ∃ out columns, collectColumns doubleBooleanString 0 descs = some (out, columns) ∧
      columns.map PrintInfo.source = [1, 2] ∧
      ((pairColumns descs columns).map fun pairs =>
        pairs.map fun (desc, info) => (desc.columnName, info.column.cls)) =
          some [(ascii "d", .bool), (ascii "b", .string)] ∧
      ¬ KeepsColumns doubleBooleanString descs columns ∧
      printTable doubleBooleanString descs = none := by
  refine ⟨_, _, rfl, rfl, rfl, ?_, rfl⟩
  intro keeps
  have same := keeps.source_eq (k := 0) rfl
  cases same

end HS2Client
