import Mathlib.Data.List.Basic

/-!
# Handles issued by a registry

A registry issues handles that it never issued before and revokes live ones. A holder
remembers a handle and whether it believes to hold it. `Agrees` says that the holders are
right: what they hold is live, and no two of them hold the same handle.
-/

namespace Registry

variable {Handle : Type}

structure Table (Handle : Type) where
  issued : List Handle := []
  live : List Handle := []

namespace Table

def issue (table : Table Handle) (handle : Handle) : Table Handle :=
  ⟨handle :: table.issued, handle :: table.live⟩

def revoke [DecidableEq Handle] (table : Table Handle) (handle : Handle) : Table Handle :=
  { table with live := table.live.filter (· ≠ handle) }

end Table

/-- `released` lists the holders whose handle was revoked on their request. -/
structure Agrees (holders : List (Bool × Handle)) (table : Table Handle)
    (released : List Nat) : Prop where
  live_issued : ∀ handle ∈ table.live, handle ∈ table.issued
  valid : ∀ (i : Nat) handle, holders[i]? = some (true, handle) → handle ∈ table.live
  distinct : ∀ (i j : Nat) handle, holders[i]? = some (true, handle) →
    holders[j]? = some (true, handle) → i = j
  released_closed : ∀ i ∈ released, ∃ handle, holders[i]? = some (false, handle)

variable {holders : List (Bool × Handle)} {table : Table Handle} {released : List Nat}

theorem agrees_empty : Agrees ([] : List (Bool × Handle)) {} [] where
  live_issued := by simp
  valid := by simp
  distinct := by simp
  released_closed := by simp

/-- A handle that nobody learns of. -/
theorem Agrees.issue (agrees : Agrees holders table released) (handle : Handle) :
    Agrees holders (table.issue handle) released where
  live_issued := by
    intro other membership
    rcases List.mem_cons.mp membership with rfl | earlier
    · exact List.mem_cons_self
    · exact List.mem_cons_of_mem _ (agrees.live_issued other earlier)
  valid := fun i other held => List.mem_cons_of_mem _ (agrees.valid i other held)
  distinct := agrees.distinct
  released_closed := agrees.released_closed

theorem getElem?_snoc {Item : Type} {items : List Item} {last item : Item} {i : Nat}
    (present : (items ++ [last])[i]? = some item) :
    items[i]? = some item ∨ i = items.length ∧ last = item := by
  rcases Nat.lt_trichotomy i items.length with inside | rfl | outside
  · rw [List.getElem?_append_left inside] at present
    exact .inl present
  · rw [List.getElem?_concat_length] at present
    exact .inr ⟨rfl, Option.some.inj present⟩
  · rw [List.getElem?_eq_none (by simp; omega)] at present
    cases present

theorem Agrees.released_append (agrees : Agrees holders table released)
    (last : Bool × Handle) :
    ∀ i ∈ released, ∃ handle, (holders ++ [last])[i]? = some (false, handle) := by
  intro i membership
  obtain ⟨handle, stored⟩ := agrees.released_closed i membership
  refine ⟨handle, ?_⟩
  rw [List.getElem?_append_left (List.getElem?_eq_some_iff.mp stored).1]
  exact stored

/-- A new holder without a handle. -/
theorem Agrees.refuse (agrees : Agrees holders table released) (handle : Handle) :
    Agrees (holders ++ [(false, handle)]) table released where
  live_issued := agrees.live_issued
  valid := by
    intro i other held
    rcases getElem?_snoc held with earlier | ⟨_, own⟩
    · exact agrees.valid i other earlier
    · cases own
  distinct := by
    intro i j other held held'
    rcases getElem?_snoc held with earlier | ⟨_, own⟩
    · rcases getElem?_snoc held' with earlier' | ⟨_, own⟩
      · exact agrees.distinct i j other earlier earlier'
      · cases own
    · cases own
  released_closed := agrees.released_append _

/-- A new holder of a handle that was never issued before. -/
theorem Agrees.grant (agrees : Agrees holders table released) {handle : Handle}
    (fresh : handle ∉ table.issued) :
    Agrees (holders ++ [(true, handle)]) (table.issue handle) released where
  live_issued := (agrees.issue handle).live_issued
  valid := by
    intro i other held
    rcases getElem?_snoc held with earlier | ⟨_, own⟩
    · exact List.mem_cons_of_mem _ (agrees.valid i other earlier)
    · cases own
      exact List.mem_cons_self
  distinct := by
    intro i j other held held'
    have unheld : ∀ k : Nat, holders[k]? ≠ some (true, handle) := fun k held =>
      fresh (agrees.live_issued _ (agrees.valid k handle held))
    rcases getElem?_snoc held with earlier | ⟨last, own⟩ <;>
      rcases getElem?_snoc held' with earlier' | ⟨last', own'⟩
    · exact agrees.distinct i j other earlier earlier'
    · cases own'
      exact absurd earlier (unheld i)
    · cases own
      exact absurd earlier' (unheld j)
    · rw [last, last']
  released_closed := agrees.released_append _

/-- The handle that a new holder learns of. -/
def learned (lost accepted : Bool) (handle : Handle) : Option Handle :=
  if lost then none else if accepted then some handle else none

/-- A new holder asks for a handle; the answer may be lost. -/
theorem Agrees.open_ (agrees : Agrees holders table released) {lost accepted : Bool}
    {handle : Handle} (fresh : accepted = true → handle ∉ table.issued) {holds : Bool}
    {stored : Handle} (flag : holds = (learned lost accepted handle).isSome)
    (kept : ∀ own, learned lost accepted handle = some own → stored = own) :
    Agrees (holders ++ [(holds, stored)]) (if accepted then table.issue handle else table)
      released := by
  rw [flag]
  cases accepted with
  | false => cases lost <;> exact agrees.refuse stored
  | true =>
      cases lost with
      | true => exact (agrees.issue handle).refuse stored
      | false =>
          rw [kept handle rfl]
          exact agrees.grant (fresh rfl)

/-- A holder gives its handle back and knows it. -/
theorem Agrees.release [DecidableEq Handle] (agrees : Agrees holders table released) {i : Nat}
    {handle : Handle} (held : holders[i]? = some (true, handle)) :
    Agrees (holders.set i (false, handle)) (table.revoke handle) (released ++ [i]) where
  live_issued := by
    intro other membership
    exact agrees.live_issued other (List.mem_of_mem_filter membership)
  valid := by
    intro j other held'
    rw [List.getElem?_set] at held'
    split_ifs at held' with same bounded
    · cases held'
    · refine List.mem_filter.mpr ⟨agrees.valid j other held', ?_⟩
      rw [decide_eq_true_eq]
      rintro rfl
      exact same (agrees.distinct i j other held held')
  distinct := by
    intro j k other held' held''
    rw [List.getElem?_set] at held' held''
    split_ifs at held' held''
    all_goals first
      | cases held'
      | cases held''
      | exact agrees.distinct j k other held' held''
  released_closed := by
    have bounded : i < holders.length := (List.getElem?_eq_some_iff.mp held).1
    intro j membership
    by_cases same : i = j
    · subst same
      exact ⟨handle, List.getElem?_set_self bounded⟩
    · rcases List.mem_append.mp membership with earlier | last
      · obtain ⟨other, stored⟩ := agrees.released_closed j earlier
        exact ⟨other, by rw [List.getElem?_set_ne same]; exact stored⟩
      · exact absurd (List.mem_singleton.mp last).symm same

end Registry
