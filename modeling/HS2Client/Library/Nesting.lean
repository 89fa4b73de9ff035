import Mathlib.Data.List.Basic

/-!
# Nested lifetimes

Things are opened, each at most once and possibly inside another one that is open, and are
closed when everything that was opened inside them is closed. A trace is nested when every
action is allowed after the ones before it.
-/

namespace Nesting

inductive Action (Id : Type) where
  | opens (id : Id) (parent : Option Id)
  | uses (id : Id)
  | closes (id : Id)
  deriving DecidableEq

variable {Id : Type}

def Opened (trace : List (Action Id)) (id : Id) : Prop := ∃ parent, .opens id parent ∈ trace

def IsOpen (trace : List (Action Id)) (id : Id) : Prop := Opened trace id ∧ .closes id ∉ trace

def Allowed (trace : List (Action Id)) : Action Id → Prop
  | .opens id parent => ¬ Opened trace id ∧ ∀ above ∈ parent, IsOpen trace above
  | .uses id => IsOpen trace id
  | .closes id => IsOpen trace id ∧ ∀ child, .opens child (some id) ∈ trace → .closes child ∈ trace

def Nested (trace : List (Action Id)) : Prop :=
  ∀ before action after, trace = before ++ action :: after → Allowed before action

/-- The action happens at `id` or directly inside it. -/
def Action.Touches (id : Id) : Action Id → Prop
  | .opens child parent => child = id ∨ parent = some id
  | .uses used => used = id
  | .closes closed => closed = id

/-- What is opened or closed. -/
def Action.subject? : Action Id → Option Id
  | .opens id _ => some id
  | .uses _ => none
  | .closes id => some id

variable {trace before after : List (Action Id)} {action : Action Id} {id child : Id}

theorem opened_append : Opened (before ++ after) id ↔ Opened before id ∨ Opened after id := by
  simp only [Opened, List.mem_append, exists_or]

theorem opened_concat (other : action.subject? ≠ some id) :
    Opened (trace ++ [action]) id ↔ Opened trace id := by
  refine ⟨?_, fun opened => opened_append.mpr (.inl opened)⟩
  rintro ⟨parent, member⟩
  rcases List.mem_append.mp member with earlier | last
  · exact ⟨parent, earlier⟩
  · cases List.mem_singleton.mp last
    exact absurd rfl other

theorem isOpen_concat (other : action.subject? ≠ some id) :
    IsOpen (trace ++ [action]) id ↔ IsOpen trace id := by
  have notClosed : .closes id ≠ action := by
    rintro rfl
    exact other rfl
  simp [IsOpen, opened_concat other, notClosed]

theorem not_isOpen_closes : ¬ IsOpen (trace ++ [.closes id]) id := fun isOpen =>
  isOpen.2 (by simp)

theorem nested_nil : Nested ([] : List (Action Id)) := by
  intro before action after split
  simp at split

theorem nested_concat (nested : Nested trace) (allowed : Allowed trace action) :
    Nested (trace ++ [action]) := by
  intro before other after split
  rcases List.eq_nil_or_concat' after with rfl | ⟨between, last, rfl⟩
  · obtain ⟨rfl, rfl⟩ := List.append_singleton_inj.mp split
    exact allowed
  · rw [← List.cons_append, ← List.append_assoc] at split
    obtain ⟨earlier, _⟩ := List.append_singleton_inj.mp split
    exact nested before other between earlier

namespace Nested

theorem opened_of_closed (nested : Nested trace) (closed : .closes id ∈ trace) :
    Opened trace id := by
  obtain ⟨before, after, rfl⟩ := List.append_of_mem closed
  exact opened_append.mpr (.inl (nested before _ _ rfl).1.1)

theorem isOpen_opens (nested : Nested trace) (fresh : ¬ Opened trace id) {parent : Option Id} :
    IsOpen (trace ++ [.opens id parent]) id := by
  refine ⟨⟨parent, by simp⟩, fun closed => ?_⟩
  rcases List.mem_append.mp closed with earlier | last
  · exact fresh (nested.opened_of_closed earlier)
  · cases List.mem_singleton.mp last

/-- Nothing happens at something that is closed, or directly inside it. -/
theorem not_touches (nested : Nested (before ++ after)) (closed : .closes id ∈ before) :
    ∀ action ∈ after, ¬ action.Touches id := by
  intro action later touches
  obtain ⟨between, rest, rfl⟩ := List.append_of_mem later
  have notOpen : ¬ IsOpen (before ++ between) id := fun isOpen =>
    isOpen.2 (List.mem_append_left between closed)
  have allowed : Allowed (before ++ between) action := nested _ action rest (by simp)
  cases action with
  | opens child parent =>
      rcases touches with rfl | rfl
      · obtain ⟨first, second, rfl⟩ := List.append_of_mem closed
        have opened := (nested first _ _ (List.append_assoc ..)).1.1
        exact allowed.1 (opened_append.mpr (.inl (opened_append.mpr (.inl opened))))
      · exact notOpen (allowed.2 id rfl)
  | uses used =>
      cases touches
      exact notOpen allowed
  | closes other =>
      cases touches
      exact notOpen allowed.1

/-- What is opened inside something that gets closed is closed before. -/
theorem children_first (nested : Nested (before ++ .closes id :: after))
    (inside : .opens child (some id) ∈ before ++ .closes id :: after) : .closes child ∈ before := by
  rcases List.mem_append.mp inside with earlier | later
  · exact (nested before _ _ rfl).2 child earlier
  · rcases List.mem_cons.mp later with same | later
    · cases same
    · have nested : Nested ((before ++ [.closes id]) ++ after) := by simpa using nested
      exact absurd (Or.inr rfl) (nested.not_touches (List.mem_append_right _ (.head _)) _ later)

theorem child_closed (nested : Nested (before ++ after)) (closed : .closes id ∈ before)
    (inside : .opens child (some id) ∈ before ++ after) : .closes child ∈ before := by
  obtain ⟨first, second, rfl⟩ := List.append_of_mem closed
  rw [List.append_assoc] at nested inside
  exact List.mem_append_left _ (nested.children_first inside)

theorem closes_once [DecidableEq Id] (nested : Nested trace) (id : Id) :
    trace.count (.closes id) ≤ 1 := by
  by_cases closed : .closes id ∈ trace
  · obtain ⟨before, after, rfl⟩ := List.append_of_mem closed
    have first : before.count (.closes id) = 0 :=
      List.count_eq_zero.mpr (nested before _ _ rfl).1.2
    rw [← List.singleton_append, ← List.append_assoc] at nested
    have last : after.count (.closes id) = 0 :=
      List.count_eq_zero.mpr fun later => nested.not_touches (by simp) _ later rfl
    simp [first, last]
  · simp [List.count_eq_zero.mpr closed]

end Nested

end Nesting
