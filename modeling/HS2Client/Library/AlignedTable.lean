import Mathlib.Algebra.BigOperators.Group.List.Basic
import Mathlib.Algebra.GroupWithZero.Nat
import Mathlib.Algebra.Order.Group.Nat

/-!
# Tables with aligned columns

Every column of a table has one width, in which its name and all its cells fit. Texts are lists
over an arbitrary alphabet.
-/

namespace AlignedTable

universe u

/-- The symbols that a table is drawn with. -/
structure Glyphs (Symbol : Type u) where
  corner : Symbol
  line : Symbol
  bar : Symbol
  space : Symbol
  newline : Symbol

structure Column (Symbol : Type u) where
  name : List Symbol
  cells : List (List Symbol)
  minWidth : Nat

variable {Symbol : Type u}

/-- The largest of some sizes and a first one. -/
def largest (first : Nat) (sizes : List Nat) : Nat := sizes.foldl max first

@[simp] theorem largest_cons (first size : Nat) (sizes : List Nat) :
    largest first (size :: sizes) = largest (max first size) sizes := rfl

theorem first_le_largest (first : Nat) (sizes : List Nat) : first ≤ largest first sizes := by
  induction sizes generalizing first with
  | nil => exact le_rfl
  | cons size sizes ih => exact (le_max_left first size).trans (ih _)

theorem le_largest {first size : Nat} {sizes : List Nat} (member : size ∈ sizes) :
    size ≤ largest first sizes := by
  induction sizes generalizing first with
  | nil => cases member
  | cons other sizes ih =>
      rcases List.mem_cons.mp member with rfl | later
      · exact (le_max_right first size).trans (first_le_largest _ sizes)
      · exact ih later

theorem largest_eq_first {first : Nat} {sizes : List Nat}
    (bounded : ∀ size ∈ sizes, size ≤ first) : largest first sizes = first := by
  induction sizes with
  | nil => rfl
  | cons size sizes ih =>
      rw [largest_cons, max_eq_left (bounded size List.mem_cons_self)]
      exact ih fun other member => bounded other (List.mem_cons_of_mem _ member)

namespace Column

/-- The largest of the lengths of the name and the cells and the minimum. -/
def width (column : Column Symbol) : Nat :=
  largest (max column.name.length column.minWidth) (column.cells.map List.length)

theorem length_name_le (column : Column Symbol) : column.name.length ≤ column.width :=
  (le_max_left _ _).trans (first_le_largest _ _)

theorem length_le_of_mem (column : Column Symbol) {cell : List Symbol}
    (member : cell ∈ column.cells) : cell.length ≤ column.width :=
  le_largest (List.mem_map_of_mem member)

theorem length_cell_le (column : Column Symbol) (row : Nat) :
    (column.cells.getD row []).length ≤ column.width := by
  rw [List.getD_eq_getElem?_getD]
  cases found : column.cells[row]? with
  | none => exact Nat.zero_le _
  | some cell => exact column.length_le_of_mem (List.mem_of_getElem? found)

end Column

variable (glyphs : Glyphs Symbol)

def pad (width : Nat) (text : List Symbol) : List Symbol :=
  text ++ List.replicate (width - text.length) glyphs.space

theorem length_pad {width : Nat} {text : List Symbol} (fits : text.length ≤ width) :
    (pad glyphs width text).length = width := by
  rw [pad, List.length_append, List.length_replicate, Nat.add_sub_cancel' fits]

/-! ## Lines -/

def breakLine (columns : List (Column Symbol)) : List Symbol :=
  (columns.flatMap fun column =>
    glyphs.corner :: List.replicate (column.width + 2) glyphs.line) ++ [glyphs.corner]

/-- One text for each column, between bars and padded to its width. -/
def textLine (text : Column Symbol → List Symbol) (columns : List (Column Symbol)) : List Symbol :=
  (columns.flatMap fun column =>
    glyphs.bar :: glyphs.space :: (pad glyphs column.width (text column) ++ [glyphs.space])) ++
      [glyphs.bar]

def headerLine (columns : List (Column Symbol)) : List Symbol :=
  textLine glyphs Column.name columns

def rowLine (columns : List (Column Symbol)) (row : Nat) : List Symbol :=
  textLine glyphs (fun column => column.cells.getD row []) columns

/-- The lines of a table, without their newlines. -/
def lines (columns : List (Column Symbol)) (rows : Nat) : List (List Symbol) :=
  breakLine glyphs columns :: headerLine glyphs columns :: breakLine glyphs columns ::
    ((List.range rows).map (rowLine glyphs columns) ++ [breakLine glyphs columns])

def render (columns : List (Column Symbol)) (rows : Nat) : List Symbol :=
  (lines glyphs columns rows).flatMap fun line => line ++ [glyphs.newline]

/-- The length that all lines of a table have. -/
def lineLength (columns : List (Column Symbol)) : Nat :=
  (columns.map fun column => column.width + 3).sum + 1

theorem length_breakLine (columns : List (Column Symbol)) :
    (breakLine glyphs columns).length = lineLength columns := by
  rw [breakLine, lineLength, List.length_append, List.length_flatMap]
  simp [Nat.add_assoc]

theorem length_textLine {text : Column Symbol → List Symbol}
    (fits : ∀ column, (text column).length ≤ column.width) (columns : List (Column Symbol)) :
    (textLine glyphs text columns).length = lineLength columns := by
  rw [textLine, lineLength, List.length_append, List.length_flatMap]
  simp [length_pad glyphs (fits _), Nat.add_assoc]

theorem length_of_mem_lines {columns : List (Column Symbol)} {rows : Nat} {line : List Symbol}
    (member : line ∈ lines glyphs columns rows) : line.length = lineLength columns := by
  simp only [lines, List.mem_cons, List.mem_append, List.mem_map, List.not_mem_nil,
    or_false] at member
  rcases member with rfl | rfl | rfl | ⟨row, -, rfl⟩ | rfl
  · exact length_breakLine glyphs columns
  · exact length_textLine glyphs Column.length_name_le columns
  · exact length_breakLine glyphs columns
  · exact length_textLine glyphs (fun column => column.length_cell_le row) columns
  · exact length_breakLine glyphs columns

end AlignedTable
