import HS2Client.Library.Runs
import Mathlib.Data.List.Forall2

/-!
# Simulation of one system by another

Some events of a system can be observed. A concrete system that keeps a record is simulated by
an abstract one if each of its steps is explained by a run of the abstract system with the same
observations; its runs are then explained as well.
-/

namespace Runs

variable {State Event Seen : Type}

/-- The observations in a run, in their order. -/
def observed (step : State → Event → State) (observe : State → Event → Option Seen) :
    State → List Event → List Seen
  | _, [] => []
  | state, event :: events =>
      (observe state event).toList ++ observed step observe (step state event) events

variable {step : State → Event → State} {observe : State → Event → Option Seen}

theorem run_append (start : State) (events later : List Event) :
    run step start (events ++ later) = run step (run step start events) later :=
  List.foldl_append

theorem observed_append (start : State) (events later : List Event) :
    observed step observe start (events ++ later) =
      observed step observe start events ++ observed step observe (run step start events) later := by
  induction events generalizing start with
  | nil => rfl
  | cons event events ih =>
      simp only [List.cons_append, observed, run_cons]
      rw [ih, List.append_assoc]

/-- A run from one state to another makes the given observations. -/
def Explains (step : State → Event → State) (observe : State → Event → Option Seen)
    (start : State) (seen : List Seen) (last : State) : Prop :=
  ∃ events, run step start events = last ∧ observed step observe start events = seen

theorem explains_nil (start : State) : Explains step observe start [] start :=
  ⟨[], rfl, rfl⟩

theorem explains_event {start : State} (event : Event) {seen : List Seen}
    (observes : (observe start event).toList = seen) :
    Explains step observe start seen (step start event) :=
  ⟨[event], rfl, (List.append_nil _).trans observes⟩

theorem Explains.trans {first second third : State} {seen later : List Seen}
    (before : Explains step observe first seen second)
    (after : Explains step observe second later third) :
    Explains step observe first (seen ++ later) third := by
  obtain ⟨events, rfl, rfl⟩ := before
  obtain ⟨events', rfl, rfl⟩ := after
  exact ⟨events ++ events', run_append _ _ _, observed_append _ _ _⟩

/-- Steps that are explained make runs that are explained. -/
theorem run_simulated {Concrete Command : Type} {perform : Concrete → Command → Concrete}
    (relation : Concrete → State → Prop) (record : Concrete → List Seen)
    (simulated : ∀ concrete abstract command, relation concrete abstract →
      ∃ seen next, Explains step observe abstract seen next ∧
        relation (perform concrete command) next ∧
        record (perform concrete command) = record concrete ++ seen)
    {concrete : Concrete} {abstract : State} (related : relation concrete abstract)
    (commands : List Command) :
    ∃ seen last, Explains step observe abstract seen last ∧
      relation (run perform concrete commands) last ∧
      record (run perform concrete commands) = record concrete ++ seen := by
  induction commands generalizing concrete abstract with
  | nil => exact ⟨[], abstract, explains_nil abstract, related, by simp⟩
  | cons command commands ih =>
      obtain ⟨seen, next, explains, related, recorded⟩ := simulated concrete abstract command related
      obtain ⟨later, last, explains', related', recorded'⟩ := ih related
      refine ⟨seen ++ later, last, explains.trans explains', related', ?_⟩
      rw [run_cons, recorded', recorded, List.append_assoc]

/-- Two systems that take the same events in step make the same observations, up to how these are
written down. -/
theorem observed_lockstep {Concrete Shown : Type} {perform : Concrete → Event → Concrete}
    {shows : Concrete → Event → Option Shown} (relation : Concrete → State → Prop)
    (translate : Seen → Shown)
    (lockstep : ∀ concrete state event, relation concrete state →
      shows concrete event = (observe state event).map translate ∧
        relation (perform concrete event) (step state event))
    {concrete : Concrete} {state : State} (related : relation concrete state)
    (events : List Event) :
    observed perform shows concrete events =
        (observed step observe state events).map translate ∧
      relation (run perform concrete events) (run step state events) := by
  induction events generalizing concrete state with
  | nil => exact ⟨rfl, related⟩
  | cons event events ih =>
      obtain ⟨same, next⟩ := lockstep concrete state event related
      obtain ⟨rest, last⟩ := ih next
      refine ⟨?_, last⟩
      rw [observed, observed, same, rest, List.map_append]
      cases observe state event <;> rfl

/-! ## Lists that correspond -/

section Corresponding

variable {Left Right : Type} {relation : Left → Right → Prop} {lefts : List Left}
  {rights : List Right}

theorem forall₂_getElem? (related : List.Forall₂ relation lefts rights) (i : Nat) :
    lefts[i]? = none ∧ rights[i]? = none ∨
      ∃ left right, lefts[i]? = some left ∧ rights[i]? = some right ∧ relation left right := by
  induction related generalizing i with
  | nil => exact .inl ⟨rfl, rfl⟩
  | @cons left right _ _ first _ ih =>
      cases i with
      | zero => exact .inr ⟨left, right, rfl, rfl, first⟩
      | succ i => exact ih i

theorem forall₂_set (related : List.Forall₂ relation lefts rights) (i : Nat) {left : Left}
    {right : Right} (new : relation left right) :
    List.Forall₂ relation (lefts.set i left) (rights.set i right) := by
  induction related generalizing i with
  | nil => exact .nil
  | cons first rest ih =>
      cases i with
      | zero => exact .cons new rest
      | succ i => exact .cons first (ih i)

theorem forall₂_eraseIdx (related : List.Forall₂ relation lefts rights) (i : Nat) :
    List.Forall₂ relation (lefts.eraseIdx i) (rights.eraseIdx i) := by
  induction related generalizing i with
  | nil => exact .nil
  | cons first rest ih =>
      cases i with
      | zero => exact rest
      | succ i => exact .cons first (ih i)

end Corresponding

end Runs
