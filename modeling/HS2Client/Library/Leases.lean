import Mathlib.Data.List.Basic

/-!
# Handles that are opened and closed by exchanges

An object opens a handle with its first exchange, uses it in later ones and gives it back
with a successful close. `Follows` relates the object's own record of this, a flag and a
handle, to the exchanges that really took place.
-/

namespace Leases

variable {Exchange Handle : Type}

/-- How the exchanges of one kind of object are read. -/
structure Protocol (Exchange Handle : Type) where
  /-- The handle that a successful opening exchange delivers. -/
  opens : Exchange → Option Handle
  /-- A close that was answered with success. -/
  closes : Exchange → Bool
  carries : Handle → Exchange → Prop

def opened (protocol : Protocol Exchange Handle) (exchanges : List Exchange) : Option Handle :=
  exchanges.head?.bind protocol.opens

structure Follows (protocol : Protocol Exchange Handle) (open_ : Bool) (handle : Handle)
    (exchanges : List Exchange) : Prop where
  started : exchanges ≠ []
  opening : ∀ first, exchanges.head? = some first → protocol.closes first = false
  open_iff : open_ = true ↔ (opened protocol exchanges).isSome = true ∧
    exchanges.tail.countP protocol.closes = 0
  handle_eq : ∀ own, opened protocol exchanges = some own → handle = own
  once : exchanges.countP protocol.closes ≤ 1
  routed : ∀ own, opened protocol exchanges = some own →
    ∀ exchange ∈ exchanges.tail, protocol.carries own exchange

variable {protocol : Protocol Exchange Handle} {open_ : Bool} {handle : Handle}
  {exchanges : List Exchange}

theorem follows_start {exchange : Exchange} (opening : protocol.closes exchange = false)
    (flag : open_ = (protocol.opens exchange).isSome)
    (stored : ∀ own, protocol.opens exchange = some own → handle = own) :
    Follows protocol open_ handle [exchange] where
  started := List.cons_ne_nil _ _
  opening := by
    intro first present
    cases present
    exact opening
  open_iff := by simp [opened, flag]
  handle_eq := stored
  once := by simp [opening]
  routed := by simp

theorem opened_append (started : exchanges ≠ []) (exchange : Exchange) :
    opened protocol (exchanges ++ [exchange]) = opened protocol exchanges := by
  rw [opened, opened, List.head?_append_of_ne_nil _ started]

theorem Follows.opening_append (follows : Follows protocol open_ handle exchanges)
    (exchange : Exchange) :
    ∀ first, (exchanges ++ [exchange]).head? = some first → protocol.closes first = false := by
  rw [List.head?_append_of_ne_nil _ follows.started]
  exact follows.opening

theorem Follows.handle_eq_append (follows : Follows protocol open_ handle exchanges)
    (exchange : Exchange) :
    ∀ own, opened protocol (exchanges ++ [exchange]) = some own → handle = own := by
  rw [opened_append follows.started]
  exact follows.handle_eq

theorem Follows.routed_append (follows : Follows protocol open_ handle exchanges)
    {exchange : Exchange}
    (carried : ∀ own, opened protocol exchanges = some own → protocol.carries own exchange) :
    ∀ own, opened protocol (exchanges ++ [exchange]) = some own →
      ∀ other ∈ (exchanges ++ [exchange]).tail, protocol.carries own other := by
  intro own delivered other membership
  rw [opened_append follows.started] at delivered
  rw [List.tail_append_of_ne_nil follows.started] at membership
  rcases List.mem_append.mp membership with earlier | last
  · exact follows.routed own delivered other earlier
  · obtain rfl := List.mem_singleton.mp last
    exact carried own delivered

/-- An exchange that does not close changes nothing. -/
theorem Follows.keep (follows : Follows protocol open_ handle exchanges) {exchange : Exchange}
    (keeps : protocol.closes exchange = false)
    (carried : ∀ own, opened protocol exchanges = some own → protocol.carries own exchange) :
    Follows protocol open_ handle (exchanges ++ [exchange]) where
  started := by simp
  opening := follows.opening_append exchange
  open_iff := by
    rw [opened_append follows.started, List.tail_append_of_ne_nil follows.started,
      List.countP_append, follows.open_iff]
    simp [keeps]
  handle_eq := follows.handle_eq_append exchange
  once := by
    rw [List.countP_append]
    simpa [keeps] using follows.once
  routed := follows.routed_append carried

/-- A successful close, sent while the flag is up, takes it down. -/
theorem Follows.close (follows : Follows protocol true handle exchanges) {exchange : Exchange}
    (closes : protocol.closes exchange = true)
    (carried : ∀ own, opened protocol exchanges = some own → protocol.carries own exchange) :
    Follows protocol false handle (exchanges ++ [exchange]) where
  started := by simp
  opening := follows.opening_append exchange
  open_iff := by
    rw [List.tail_append_of_ne_nil follows.started, List.countP_append]
    simp [closes]
  handle_eq := follows.handle_eq_append exchange
  once := by
    obtain ⟨first, rest, rfl⟩ := List.exists_cons_of_ne_nil follows.started
    have first_opens := follows.opening first rfl
    have none := (follows.open_iff.mp rfl).2
    rw [List.tail_cons] at none
    rw [List.countP_append, List.countP_cons, none]
    simp [first_opens, closes]
  routed := follows.routed_append carried

theorem Follows.countP_closes (follows : Follows protocol open_ handle exchanges) {own : Handle}
    (delivered : opened protocol exchanges = some own) :
    exchanges.countP protocol.closes = if open_ then 0 else 1 := by
  obtain ⟨first, rest, rfl⟩ := List.exists_cons_of_ne_nil follows.started
  have first_opens := follows.opening first rfl
  have once := follows.once
  have open_iff := follows.open_iff
  rw [delivered, List.tail_cons] at open_iff
  rw [List.countP_cons, first_opens] at once ⊢
  cases open_ with
  | true => simpa using open_iff
  | false =>
      have some_close : rest.countP protocol.closes ≠ 0 := by simpa using open_iff
      simp only [Bool.false_eq_true, if_false, Nat.add_zero] at once ⊢
      omega

end Leases
