import Mathlib.Init

/-!
# Runs of a deterministic system

A run is a list of events. A condition on steps is a condition on the state in which an
event happens; every invariant that the conforming steps preserve holds after every run of
conforming steps.
-/

namespace Runs

variable {State Event : Type}

def run (step : State → Event → State) (start : State) (events : List Event) : State :=
  events.foldl step start

/-- Every event meets the condition in the state in which it happens. -/
def AllSteps (step : State → Event → State) (condition : State → Event → Prop) :
    State → List Event → Prop
  | _, [] => True
  | state, event :: events =>
      condition state event ∧ AllSteps step condition (step state event) events

variable {step : State → Event → State} {condition : State → Event → Prop}

@[simp] theorem run_nil (start : State) : run step start [] = start := rfl

@[simp] theorem run_cons (start : State) (event : Event) (events : List Event) :
    run step start (event :: events) = run step (step start event) events := rfl

theorem run_invariant (invariant : State → Prop)
    (preserved : ∀ state event, invariant state → condition state event →
      invariant (step state event))
    {start : State} (initially : invariant start) {events : List Event}
    (conforms : AllSteps step condition start events) : invariant (run step start events) := by
  induction events generalizing start with
  | nil => exact initially
  | cons event events ih =>
      obtain ⟨first, rest⟩ := conforms
      exact ih (preserved start event initially first) rest

theorem allSteps_of_forall (always : ∀ state event, condition state event) (start : State)
    (events : List Event) : AllSteps step condition start events := by
  induction events generalizing start with
  | nil => trivial
  | cons event events ih => exact ⟨always start event, ih _⟩

theorem allSteps_and {other : State → Event → Prop} {start : State} {events : List Event}
    (conforms : AllSteps step condition start events)
    (conformsToo : AllSteps step other start events) :
    AllSteps step (fun state event => condition state event ∧ other state event) start events := by
  induction events generalizing start with
  | nil => trivial
  | cons event events ih =>
      exact ⟨⟨conforms.1, conformsToo.1⟩, ih conforms.2 conformsToo.2⟩

/-- A condition gives another one in the states of an invariant that it preserves. -/
theorem allSteps_mono (invariant : State → Prop) {other : State → Event → Prop}
    (implies : ∀ state event, invariant state → condition state event → other state event)
    (preserved : ∀ state event, invariant state → condition state event →
      invariant (step state event))
    {start : State} (initially : invariant start) {events : List Event}
    (conforms : AllSteps step condition start events) : AllSteps step other start events := by
  induction events generalizing start with
  | nil => trivial
  | cons event events ih =>
      obtain ⟨first, rest⟩ := conforms
      exact ⟨implies start event initially first,
        ih (preserved start event initially first) rest⟩

/-- Two conditions that agree in the states of an invariant, which one of them preserves, are
met by the same runs. -/
theorem allSteps_congr (invariant : State → Prop) {other : State → Event → Prop}
    (agree : ∀ state event, invariant state → (condition state event ↔ other state event))
    (preserved : ∀ state event, invariant state → other state event →
      invariant (step state event))
    {start : State} (initially : invariant start) (events : List Event) :
    AllSteps step condition start events ↔ AllSteps step other start events := by
  constructor
  · apply allSteps_mono invariant _ _ initially
    · exact fun state event holds => (agree state event holds).mp
    · exact fun state event holds met =>
        preserved state event holds ((agree state event holds).mp met)
  · apply allSteps_mono invariant _ preserved initially
    exact fun state event holds => (agree state event holds).mpr

instance decidableAllSteps [∀ state event, Decidable (condition state event)] :
    (start : State) → (events : List Event) → Decidable (AllSteps step condition start events)
  | _, [] => isTrue trivial
  | start, event :: events =>
      have := decidableAllSteps (step start event) events
      inferInstanceAs (Decidable (_ ∧ _))

/-! ## Runs that may stop -/

/-- An invariant of the events so far that every step keeps holds where a run ends, and where it
stops, up to the event that stops it. -/
theorem foldlM_invariant {Stop : Type} {attempt : State → Event → Except Stop State}
    (invariant : List Event → State → Prop)
    (preserved : ∀ past state event next, invariant past state →
      attempt state event = .ok next → invariant (past ++ [event]) next)
    {past : List Event} {start : State} (initially : invariant past start)
    (events : List Event) :
    match events.foldlM attempt start with
    | .ok last => invariant (past ++ events) last
    | .error stop => ∃ before event later state, events = before ++ event :: later ∧
        invariant (past ++ before) state ∧ attempt state event = .error stop := by
  induction events generalizing past start with
  | nil => simpa [pure, Except.pure] using initially
  | cons event events ih =>
      rw [List.foldlM_cons]
      cases attempted : attempt start event with
      | error stop => exact ⟨[], event, events, start, rfl, by simpa using initially, attempted⟩
      | ok next =>
          have rest := ih (preserved past start event next initially attempted)
          dsimp only [bind, Except.bind]
          cases ran : events.foldlM attempt next with
          | ok last => simpa [ran] using rest
          | error stop =>
              rw [ran] at rest
              obtain ⟨before, stopping, later, state, rfl, holds, stopped⟩ := rest
              exact ⟨event :: before, stopping, later, state, rfl, by simpa using holds, stopped⟩

section Ended

variable {Stop : Type} {attempt : State → Event → Except Stop State} {start last : State}
  {events : List Event}

theorem invariant_of_foldlM_ok (invariant : State → Prop)
    (preserved : ∀ state event next, invariant state → attempt state event = .ok next →
      invariant next)
    (initially : invariant start) (ran : events.foldlM attempt start = .ok last) :
    invariant last := by
  induction events generalizing start with
  | nil =>
      cases ran
      exact initially
  | cons event events ih =>
      rw [List.foldlM_cons] at ran
      cases attempted : attempt start event with
      | error stop =>
          rw [attempted] at ran
          cases ran
      | ok next =>
          rw [attempted] at ran
          exact ih (preserved start event next initially attempted) ran

theorem exists_of_foldlM_error {stop : Stop} (ran : events.foldlM attempt start = .error stop) :
    ∃ state event, attempt state event = .error stop := by
  induction events generalizing start with
  | nil => cases ran
  | cons event events ih =>
      rw [List.foldlM_cons] at ran
      cases attempted : attempt start event with
      | error early =>
          rw [attempted] at ran
          cases ran
          exact ⟨start, event, attempted⟩
      | ok next =>
          rw [attempted] at ran
          exact ih ran

end Ended

end Runs
