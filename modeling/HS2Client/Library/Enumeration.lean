import Mathlib.Data.List.Nodup
import Mathlib.Logic.Function.Basic

/-!
# Partial maps enumerated by lists

A list of keys without repetition and the list of the values at them enumerate a partial map.
Changing a value sets it at the place of its key, and a new key is added at the end.
-/

namespace Enumeration

variable {Key Value : Type}

structure Enumerates (map : Key → Option Value) (keys : List Key) (values : List Value) :
    Prop where
  nodup : keys.Nodup
  complete : ∀ key, (map key).isSome = true → key ∈ keys
  values_eq : keys.map map = values.map some

namespace Enumerates

variable {map : Key → Option Value} {keys : List Key} {values : List Value} {key : Key}
  {value : Value}

theorem isSome (enumerates : Enumerates map keys values) (member : key ∈ keys) :
    (map key).isSome = true := by
  have present : map key ∈ values.map some := by
    rw [← enumerates.values_eq]
    exact List.mem_map_of_mem member
  obtain ⟨value, -, eq⟩ := List.mem_map.mp present
  rw [← eq]
  rfl

theorem mem_of_eq_some (enumerates : Enumerates map keys values) (present : map key = some value) :
    key ∈ keys :=
  enumerates.complete key (by rw [present]; rfl)

variable [DecidableEq Key]

theorem getElem?_idxOf (enumerates : Enumerates map keys values)
    (present : map key = some value) : values[keys.idxOf key]? = some value := by
  have member := enumerates.mem_of_eq_some present
  have stored : (keys.map map)[keys.idxOf key]? = some (some value) := by
    rw [List.getElem?_map, List.getElem?_idxOf member, Option.map_some, present]
  rw [enumerates.values_eq, List.getElem?_map] at stored
  simpa using stored

theorem mem_values (enumerates : Enumerates map keys values) :
    value ∈ values ↔ ∃ key, map key = some value := by
  constructor
  · intro member
    have present : some value ∈ keys.map map := by
      rw [enumerates.values_eq]
      exact List.mem_map_of_mem member
    obtain ⟨key, -, eq⟩ := List.mem_map.mp present
    exact ⟨key, eq⟩
  · rintro ⟨key, present⟩
    exact List.mem_of_getElem? (enumerates.getElem?_idxOf present)

theorem set (enumerates : Enumerates map keys values) (present : (map key).isSome = true)
    (value : Value) :
    Enumerates (Function.update map key (some value)) keys
      (values.set (keys.idxOf key) value) where
  nodup := enumerates.nodup
  complete := by
    intro other isSome
    by_cases same : other = key
    · rw [same]
      exact enumerates.complete key present
    · rw [Function.update_of_ne same] at isSome
      exact enumerates.complete other isSome
  values_eq := by
    rw [enumerates.nodup.map_update, if_pos (enumerates.complete key present),
      enumerates.values_eq, List.map_set]

theorem concat (enumerates : Enumerates map keys values) (absent : map key = none)
    (value : Value) :
    Enumerates (Function.update map key (some value)) (keys ++ [key]) (values ++ [value]) := by
  have fresh : key ∉ keys := by
    intro member
    have isSome := enumerates.isSome member
    rw [absent] at isSome
    cases isSome
  constructor
  · rw [← List.concat_eq_append]
    exact enumerates.nodup.concat fresh
  · intro other isSome
    by_cases same : other = key
    · simp [same]
    · rw [Function.update_of_ne same] at isSome
      exact List.mem_append_left _ (enumerates.complete other isSome)
  · rw [List.map_append, enumerates.nodup.map_update, if_neg fresh, enumerates.values_eq]
    simp

end Enumerates

theorem enumerates_nil : Enumerates (fun _ : Key => (none : Option Value)) [] [] :=
  ⟨List.nodup_nil, by simp, rfl⟩

end Enumeration
