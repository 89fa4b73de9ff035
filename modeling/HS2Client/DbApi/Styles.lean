import HS2Client.DbApi.Named
import HS2Client.DbApi.Positional
import Mathlib.Data.List.Forall2

/-!
# The five styles

`_bind_parameters` takes a list for the positional styles and a dictionary for the other two. The
statement does not depend on the style, if the names find the values that the numbers count.
-/

namespace HS2Client.DbApi

/-- What is told apart: lists and tuples, dictionaries, and anything else. -/
inductive Parameters where
  | list (values : List Value)
  | dict (items : List (Text × Value))
  | other

inductive BindError where
  | list (error : DbError)
  | dict (error : DictError)
  deriving DecidableEq

def bindParameters (py : PyText) (operation : Text) : Parameters → Except BindError Text
  | .list values => (bindParametersList operation values).mapError .list
  | .dict items => (bindParametersDict py operation items).mapError .dict
  | .other => .error (.list (.programmingError
      "Query parameters argument should be a list, tuple, or dict object"))

variable {py : PyText}

/-- Each reference by name finds the value with the number in its place. -/
structure SameValues (named : NamedTemplate py) (items : List (Text × Value))
    (template : PositionalTemplate) (values : List Value) : Prop where
  first : named.first = template.first
  rest : List.Forall₂ (fun item numbered =>
    items.lookup item.1.name = values[numbered.1 - 1]? ∧ item.2 = numbered.2)
      named.rest template.rest

namespace SameValues

variable {named : NamedTemplate py} {items : List (Text × Value)} {template : PositionalTemplate}
  {values : List Value} (same : SameValues named items template values)

include same

theorem substitute_eq :
    (named.substitute fun name => (NamedTemplate.rendered? items name).getD []) =
      template.substitute (values.map stringParameter) := by
  have pieces : (named.rest.map fun item =>
        (NamedTemplate.rendered? items item.1.name).getD [] ++ item.2) =
      template.rest.map fun item => (values.map stringParameter).getD (item.1 - 1) [] ++ item.2 := by
    rw [← List.forall₂_eq_eq_eq, List.forall₂_map_left_iff, List.forall₂_map_right_iff]
    apply same.rest.imp
    rintro item numbered ⟨value, segment⟩
    rw [NamedTemplate.rendered?, value, segment, List.getD_eq_getElem?_getD, List.getElem?_map]
  rw [NamedTemplate.substitute, PositionalTemplate.substitute, same.first, List.flatMap_def, pieces,
    List.flatMap_def]

/-- The names without a value are those whose number has none. -/
theorem keys_iff (positive : ∀ item ∈ template.rest, 1 ≤ item.1) :
    (∀ name ∈ named.references, name ∈ items.map Prod.fst) ↔
      template.RefersTo (values.map stringParameter) := by
  have places : (∀ item ∈ named.rest, item.1.name ∈ items.map Prod.fst) ↔
      ∀ item ∈ template.rest, item.1 - 1 < values.length := by
    have related := same.rest
    generalize named.rest = references at related ⊢
    generalize template.rest = numbers at related ⊢
    induction related with
    | nil => simp
    | @cons item numbered _ _ own _ ih =>
        have key : item.1.name ∈ items.map Prod.fst ↔ numbered.1 - 1 < values.length := by
          rw [← not_iff_not, ← NamedTemplate.rendered?_eq_none_iff, NamedTemplate.rendered?, own.1,
            Option.isNone_map, Option.isNone_iff_eq_none, List.getElem?_eq_none_iff, not_lt]
        rw [List.forall_mem_cons, List.forall_mem_cons]
        exact and_congr key ih
  refine List.forall_mem_map.trans (places.trans (forall₂_congr fun item member => ?_))
  have number := positive item member
  rw [List.length_map]
  omega

end SameValues

section Styles

variable {named : NamedTemplate py} {items : List (Text × Value)} {template : PositionalTemplate}
  {values : List Value}

theorem bindParameters_of_inOrder (py : PyText) {form : Text}
    (binds : template.BindsInOrder form (values.map stringParameter)) :
    (values.length = template.rest.length →
      bindParameters py form (.list values) =
        bindParameters py template.numericForm (.list values)) ∧
    (values.length ≠ template.rest.length →
      ∃ message, bindParameters py form (.list values) =
        .error (.list (.programmingError message))) := by
  rw [PositionalTemplate.BindsInOrder, List.length_map] at binds
  constructor
  · intro lengths
    exact congrArg (Except.mapError BindError.list) (binds.2 lengths)
  · intro lengths
    obtain ⟨message, raised⟩ := binds.1.mpr lengths
    exact ⟨message, congrArg (Except.mapError BindError.list) raised⟩

end Styles

/-- `a:x b%(y)s` -/
def xAndY : NamedTemplate asciiText where
  first := "a".toList
  rest := [(⟨.named, "x".toList⟩, " b".toList), (⟨.pyformat, "y".toList⟩, [])]
  names := by
    rw [List.forall_mem_cons, List.forall_mem_singleton]
    exact ⟨⟨'x', [], rfl, by decide, by simp⟩, ⟨'y', [], rfl, by decide, by simp⟩⟩
  clean := by decide
  stops := by
    rw [List.forall_mem_cons, List.forall_mem_singleton]
    refine ⟨fun _ c following => ?_, fun named => ?_⟩
    · obtain rfl : ' ' = c := Option.some.inj following
      rfl
    · cases named

end HS2Client.DbApi
