import HS2Client.DbApi.Escape
import HS2Client.DbApi.Named
import HS2Client.DbApi.Positional
import HS2Client.Library.Lexing
import HS2Client.Library.Simulation

/-!
# Bound statements and their tokens

A statement with bound parameters is read by a server as tokens. Whatever the language around the
literals is, a string bound to a name or a position becomes one literal with that string, and
nothing else of the statement depends on it.
-/

namespace HS2Client.DbApi

open Escaping

/-- What a value is in the statement: a string is quoted, anything else stands for itself. -/
def Value.piece : Value → Piece Char
  | .none => .raw "NULL".toList
  | .str text => .quoted text
  | .other rendered => .raw rendered

/-- Values that are both strings, or the same. -/
inductive Value.Alike : Value → Value → Prop
  | str (text other : Text) : Alike (.str text) (.str other)
  | same (value : Value) : Alike value value

theorem Value.Alike.piece {value other : Value} (alike : value.Alike other) :
    Piece.Alike value.piece other.piece := by
  cases alike with
  | str text other => exact .quoted text other
  | same value =>
      cases value with
      | none => exact .raw _
      | str text => exact .quoted text text
      | other rendered => exact .raw rendered

theorem written_piece (value : Value) :
    sqlLiteral.written value.piece = stringParameter value := by
  cases value with
  | none => rfl
  | str text =>
      rw [stringParameter, escape_eq_encode]
      rfl
  | other rendered => rfl

namespace NamedTemplate

variable {py : PyText} (template : NamedTemplate py)

/-- The statement with the values of a dictionary; a name without a value is left out. -/
def pieces (parameters : List (Text × Value)) : List (Piece Char) :=
  .raw template.first :: template.rest.flatMap fun item =>
    ((parameters.lookup item.1.name).map Value.piece).toList ++ [.raw item.2]

theorem written_pieces (parameters : List (Text × Value)) :
    (template.pieces parameters).flatMap sqlLiteral.written =
      template.substitute fun name => (rendered? parameters name).getD [] := by
  rw [pieces, List.flatMap_cons, substitute, List.flatMap_assoc]
  congr 2
  funext item
  rw [List.flatMap_append, rendered?]
  cases parameters.lookup item.1.name with
  | none => simp
  | some value => simp [written_piece]

theorem bindParametersDict_written {parameters : List (Text × Value)}
    (keys : ∀ name ∈ template.references, name ∈ parameters.map Prod.fst) :
    bindParametersDict py template.statement parameters =
      .ok ((template.pieces parameters).flatMap sqlLiteral.written) := by
  rw [written_pieces]
  exact template.bindParametersDict_of_keys keys

/-- Both dictionaries have a value for the name, and the values are alike. -/
def SameKind (parameters others : List (Text × Value)) (name : Text) : Prop :=
  ∃ value other, parameters.lookup name = some value ∧ others.lookup name = some other ∧
    value.Alike other

theorem pieces_alike {parameters others : List (Text × Value)}
    (alike : ∀ name ∈ template.references, SameKind parameters others name) :
    List.Forall₂ Piece.Alike (template.pieces parameters) (template.pieces others) := by
  have items : ∀ items : List (Reference × Text),
      (∀ item ∈ items, SameKind parameters others item.1.name) →
      List.Forall₂ Piece.Alike
        (items.flatMap fun item =>
          ((parameters.lookup item.1.name).map Value.piece).toList ++ [.raw item.2])
        (items.flatMap fun item =>
          ((others.lookup item.1.name).map Value.piece).toList ++ [.raw item.2]) := by
    intro items
    induction items with
    | nil => exact fun _ => .nil
    | cons item items ih =>
        intro kinds
        obtain ⟨value, other, found, foundOther, alike⟩ := kinds item List.mem_cons_self
        rw [List.flatMap_cons, List.flatMap_cons, found, foundOther]
        exact .cons alike.piece (.cons (.raw item.2)
          (ih fun later member => kinds later (List.mem_cons_of_mem item member)))
  refine .cons (.raw template.first) (items template.rest fun item member => ?_)
  exact alike item.1.name (List.mem_map_of_mem member)

theorem mem_keys_of_lookup {parameters : List (Text × Value)} {name : Text} {value : Value}
    (found : parameters.lookup name = some value) : name ∈ parameters.map Prod.fst := by
  by_contra missing
  have none := (rendered?_eq_none_iff parameters name).mpr missing
  rw [rendered?, found] at none
  cases none

end NamedTemplate

namespace PositionalTemplate

variable (template : PositionalTemplate)

/-- The statement with the values of a list; a number without a value is left out. -/
def pieces (values : List Value) : List (Piece Char) :=
  .raw template.first :: template.rest.flatMap fun item =>
    (values[item.1 - 1]?.map Value.piece).toList ++ [.raw item.2]

theorem written_pieces (values : List Value) :
    (template.pieces values).flatMap sqlLiteral.written =
      template.substitute (values.map stringParameter) := by
  rw [pieces, List.flatMap_cons, substitute, List.flatMap_assoc]
  congr 2
  funext item
  rw [List.flatMap_append, List.getD_eq_getElem?_getD, List.getElem?_map]
  cases values[item.1 - 1]? with
  | none => simp
  | some value => simp [written_piece]

theorem pieces_alike {values others : List Value}
    (alike : List.Forall₂ Value.Alike values others) :
    List.Forall₂ Piece.Alike (template.pieces values) (template.pieces others) := by
  have items : ∀ items : List (Nat × Text), List.Forall₂ Piece.Alike
      (items.flatMap fun item => (values[item.1 - 1]?.map Value.piece).toList ++ [.raw item.2])
      (items.flatMap fun item => (others[item.1 - 1]?.map Value.piece).toList ++ [.raw item.2]) := by
    intro items
    induction items with
    | nil => exact .nil
    | cons item items ih =>
        rw [List.flatMap_cons, List.flatMap_cons]
        rcases Runs.forall₂_getElem? alike (item.1 - 1) with
          ⟨absent, absentToo⟩ | ⟨value, other, found, foundOther, own⟩
        · rw [absent, absentToo]
          exact .cons (.raw item.2) ih
        · rw [found, foundOther]
          exact .cons own.piece (.cons (.raw item.2) ih)
  exact .cons (.raw template.first) (items template.rest)

/-- Every value is free of markers in the statement, and every number has a value. -/
structure Fits (values : List Value) : Prop where
  clean : ∀ parameter ∈ values.map stringParameter, MarkerCharFree parameter
  refers : template.RefersTo (values.map stringParameter)

theorem bindParametersList_written {values : List Value} (fits : template.Fits values) :
    bindParametersList template.numericForm values =
      .ok ((template.pieces values).flatMap sqlLiteral.written) := by
  rw [written_pieces]
  exact replaceNumericMarkers_numericForm fits.clean fits.refers

end PositionalTemplate

/-- Names in double quotes, in which a single quote opens nothing. -/
def quotedNames : Host Char Bool where
  next inName c := if c = '"' then !inName else inName
  opens inName := !inName

/-- `"a'b" = :x OR y = %(x)s` -/
def twiceQuoted : NamedTemplate asciiText where
  first := "\"a'b\" = ".toList
  rest := [(⟨.named, "x".toList⟩, " OR y = ".toList), (⟨.pyformat, "x".toList⟩, [])]
  names := by
    intro item member
    simp only [List.mem_cons, List.not_mem_nil, or_false] at member
    rcases member with rfl | rfl <;> exact ⟨'x', [], rfl, rfl, by simp⟩
  clean := by decide
  stops := by
    intro item member named c following
    simp only [List.mem_cons, List.not_mem_nil, or_false] at member
    rcases member with rfl | rfl
    · obtain rfl : ' ' = c := Option.some.inj following
      rfl
    · cases named

/-- `"a'b" = :1 OR y = :2` -/
def twoConditions : PositionalTemplate where
  first := "\"a'b\" = ".toList
  rest := [(1, " OR y = ".toList), (2, [])]
  clean := by decide
  stops := by simp
  separated := by decide

instance (values : List Value) : Decidable (twoConditions.Fits values) :=
  decidable_of_iff
    ((∀ parameter ∈ values.map stringParameter, MarkerCharFree parameter) ∧
      twoConditions.RefersTo (values.map stringParameter))
    ⟨fun both => ⟨both.1, both.2⟩, fun fits => ⟨fits.clean, fits.refers⟩⟩

end HS2Client.DbApi
