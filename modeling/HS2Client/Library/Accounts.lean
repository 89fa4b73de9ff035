import HS2Client.Library.Registry

/-!
# Exact accounts of the handles of a registry

A registry issues handles and ends them, on request or on its own, and its answers may be lost.
The ledger keeps the two things that nobody is told: the handles whose issue was not heard of,
and those that were ended without an answer that says so. `Accounts` says that registry and
holders disagree about no other handle.
-/

namespace Registry

variable {Handle : Type}

structure Ledger (Handle : Type) where
  issued : List Handle := []
  live : List Handle := []
  /-- Issued in an answer that was lost. -/
  strays : List Handle := []
  /-- Ended without an answer that says so. -/
  silent : List Handle := []

namespace Ledger

variable [DecidableEq Handle]

/-- At most one handle is issued; the answer is heard or not. -/
def issue (ledger : Ledger Handle) (heard : Bool) : Option Handle → Ledger Handle
  | none => ledger
  | some handle =>
      { ledger with
        issued := handle :: ledger.issued
        live := handle :: ledger.live
        strays := if heard then ledger.strays else handle :: ledger.strays }

/-- At most one handle is ended on request; the answer is heard or not. -/
def close (ledger : Ledger Handle) (heard : Bool) : Option Handle → Ledger Handle
  | none => ledger
  | some handle =>
      { ledger with
        live := ledger.live.filter (· ≠ handle)
        silent := if heard then ledger.silent else handle :: ledger.silent }

/-- Those of the handles that are live are ended without an answer. -/
def drop (ledger : Ledger Handle) (ended : List Handle) : Ledger Handle :=
  { ledger with
    live := ledger.live.filter (· ∉ ended)
    silent := ledger.live.filter (· ∈ ended) ++ ledger.silent }

/-- A request is answered, and other handles end. -/
def after (ledger : Ledger Handle) (heard : Bool) (new closed : Option Handle)
    (ended : List Handle) : Ledger Handle :=
  ((ledger.issue heard new).close heard closed).drop ended

end Ledger

/-- What a holder was given, if anything, and whether it believes to hold it. -/
abbrev Entry (Handle : Type) := Option Handle × Bool

structure Accounts (entries : List (Entry Handle)) (ledger : Ledger Handle) : Prop where
  issued_iff : ∀ handle, handle ∈ ledger.issued ↔
    handle ∈ ledger.strays ∨ ∃ (i : Nat) (holds : Bool), entries[i]? = some (some handle, holds)
  live_iff : ∀ handle, handle ∈ ledger.live ↔ handle ∉ ledger.silent ∧
    (handle ∈ ledger.strays ∨ ∃ i : Nat, entries[i]? = some (some handle, true))
  silent : ∀ handle ∈ ledger.silent,
    handle ∈ ledger.strays ∨ ∃ i : Nat, entries[i]? = some (some handle, true)
  stray : ∀ handle ∈ ledger.strays, ∀ (i : Nat) holds, entries[i]? ≠ some (some handle, holds)
  single : ∀ (i j : Nat) handle holds holds', entries[i]? = some (some handle, holds) →
    entries[j]? = some (some handle, holds') → i = j
  refused : ∀ (i : Nat) holds, entries[i]? = some (none, holds) → holds = false

theorem accounts_empty : Accounts ([] : List (Entry Handle)) {} where
  issued_iff := by simp
  live_iff := by simp
  silent := by simp
  stray := by simp
  single := by simp
  refused := by simp

namespace Accounts

variable {entries : List (Entry Handle)} {ledger : Ledger Handle}

theorem given_append_iff {i : Nat} {entry last : Entry Handle} :
    (entries ++ [last])[i]? = some entry ↔
      entries[i]? = some entry ∨ i = entries.length ∧ last = entry := by
  constructor
  · exact getElem?_snoc
  · rintro (earlier | ⟨rfl, rfl⟩)
    · rw [List.getElem?_append_left (List.getElem?_eq_some_iff.mp earlier).1]
      exact earlier
    · exact List.getElem?_concat_length

/-- What is not issued is not known anywhere. -/
theorem unknown_of_fresh (accounts : Accounts entries ledger) {handle : Handle}
    (fresh : handle ∉ ledger.issued) :
    handle ∉ ledger.strays ∧ handle ∉ ledger.silent ∧
      ∀ (i : Nat) holds, entries[i]? ≠ some (some handle, holds) := by
  have unheld : ∀ (i : Nat) holds, entries[i]? ≠ some (some handle, holds) := fun i holds given =>
    fresh ((accounts.issued_iff handle).mpr (.inr ⟨i, holds, given⟩))
  have noStray : handle ∉ ledger.strays := fun stray =>
    fresh ((accounts.issued_iff handle).mpr (.inl stray))
  refine ⟨noStray, fun silent => ?_, unheld⟩
  rcases accounts.silent handle silent with stray | ⟨i, held⟩
  · exact noStray stray
  · exact unheld i true held

/-- A new holder that is given nothing. -/
theorem refuse (accounts : Accounts entries ledger) :
    Accounts (entries ++ [(none, false)]) ledger := by
  have given : ∀ (i : Nat) handle holds, (entries ++ [(none, false)])[i]? =
      some (some handle, holds) ↔ entries[i]? = some (some handle, holds) := by
    simp [given_append_iff]
  constructor
  · simpa only [given] using accounts.issued_iff
  · simpa only [given] using accounts.live_iff
  · simpa only [given] using accounts.silent
  · simpa only [ne_eq, given] using accounts.stray
  · simpa only [given] using accounts.single
  · intro i holds present
    rcases given_append_iff.mp present with earlier | ⟨-, own⟩
    · exact accounts.refused i holds earlier
    · exact (congrArg Prod.snd own).symm

/-- A handle that was never issued before goes astray. -/
theorem goAstray (accounts : Accounts entries ledger) {handle : Handle}
    (fresh : handle ∉ ledger.issued) :
    Accounts entries (ledger.issue false (some handle)) := by
  obtain ⟨-, notSilent, unheld⟩ := accounts.unknown_of_fresh fresh
  constructor
  · intro other
    simp only [Ledger.issue, List.mem_cons, accounts.issued_iff, Bool.false_eq_true, if_false]
    tauto
  · intro other
    simp only [Ledger.issue, List.mem_cons, accounts.live_iff, Bool.false_eq_true, if_false]
    constructor
    · rintro (rfl | ⟨kept, known⟩)
      · exact ⟨notSilent, .inl (.inl rfl)⟩
      · exact ⟨kept, known.imp_left .inr⟩
    · rintro ⟨kept, (rfl | stray) | held⟩
      · exact .inl rfl
      · exact .inr ⟨kept, .inl stray⟩
      · exact .inr ⟨kept, .inr held⟩
  · intro other silent
    exact (accounts.silent other silent).imp_left (List.mem_cons_of_mem _)
  · intro other membership i holds given
    rcases List.mem_cons.mp membership with rfl | earlier
    · exact unheld i holds given
    · exact accounts.stray other earlier i holds given
  · exact accounts.single
  · exact accounts.refused

/-- A new holder is given a handle that was never issued before. -/
theorem grant (accounts : Accounts entries ledger) {handle : Handle}
    (fresh : handle ∉ ledger.issued) :
    Accounts (entries ++ [(some handle, true)]) (ledger.issue true (some handle)) := by
  obtain ⟨notStray, notSilent, unheld⟩ := accounts.unknown_of_fresh fresh
  have given : ∀ (i : Nat) other holds, (entries ++ [(some handle, true)])[i]? =
      some (some other, holds) ↔ entries[i]? = some (some other, holds) ∨
        i = entries.length ∧ handle = other ∧ holds = true := by
    intro i other holds
    rw [given_append_iff, Prod.mk.injEq, Option.some.injEq, eq_comm (a := true)]
  have last : (entries ++ [(some handle, true)])[entries.length]? = some (some handle, true) :=
    List.getElem?_concat_length
  have held_iff : ∀ other, (∃ i : Nat, (entries ++ [(some handle, true)])[i]? =
      some (some other, true)) ↔
        (∃ i : Nat, entries[i]? = some (some other, true)) ∨ handle = other := by
    intro other
    simp only [given, and_true, exists_or, exists_eq_left]
  constructor
  · intro other
    simp only [Ledger.issue, List.mem_cons, accounts.issued_iff, if_true, given]
    constructor
    · rintro (rfl | stray | ⟨i, holds, held⟩)
      · exact .inr ⟨_, true, .inr ⟨rfl, rfl, rfl⟩⟩
      · exact .inl stray
      · exact .inr ⟨i, holds, .inl held⟩
    · rintro (stray | ⟨i, holds, held | ⟨-, rfl, -⟩⟩)
      · exact .inr (.inl stray)
      · exact .inr (.inr ⟨i, holds, held⟩)
      · exact .inl rfl
  · intro other
    simp only [Ledger.issue, List.mem_cons, accounts.live_iff, if_true, held_iff]
    constructor
    · rintro (rfl | ⟨kept, stray | held⟩)
      · exact ⟨notSilent, .inr (.inr rfl)⟩
      · exact ⟨kept, .inl stray⟩
      · exact ⟨kept, .inr (.inl held)⟩
    · rintro ⟨kept, stray | held | rfl⟩
      · exact .inr ⟨kept, .inl stray⟩
      · exact .inr ⟨kept, .inr held⟩
      · exact .inl rfl
  · intro other silent
    rw [held_iff]
    exact (accounts.silent other silent).imp_right .inl
  · intro other stray i holds held
    rcases (given _ _ _).mp held with earlier | ⟨-, rfl, -⟩
    · exact accounts.stray other stray i holds earlier
    · exact notStray stray
  · intro i j other holds holds' held held'
    rcases (given _ _ _).mp held with earlier | ⟨rfl, rfl, -⟩ <;>
      rcases (given _ _ _).mp held' with earlier' | ⟨rfl, same, -⟩
    · exact accounts.single i j other holds holds' earlier earlier'
    · subst same
      exact absurd earlier (unheld i holds)
    · exact absurd earlier' (unheld j holds')
    · rfl
  · intro i holds present
    rcases given_append_iff.mp present with earlier | ⟨-, own⟩
    · exact accounts.refused i holds earlier
    · cases own

/-- A new holder asks for a handle; the answer may be lost. -/
theorem open_ (accounts : Accounts entries ledger) {new : Option Handle}
    (fresh : ∀ handle ∈ new, handle ∉ ledger.issued) (heard : Bool) :
    Accounts (entries ++ [(if heard then new else none, (if heard then new else none).isSome)])
      (ledger.issue heard new) := by
  cases new with
  | none => cases heard <;> exact accounts.refuse
  | some handle =>
      cases heard with
      | true => exact accounts.grant (fresh handle rfl)
      | false => exact (accounts.goAstray (fresh handle rfl)).refuse

variable [DecidableEq Handle]

/-- Handles are ended without an answer. -/
theorem drop (accounts : Accounts entries ledger) (ended : List Handle) :
    Accounts entries (ledger.drop ended) where
  issued_iff := accounts.issued_iff
  live_iff := by
    intro handle
    simp only [Ledger.drop, List.mem_filter, List.mem_append, decide_eq_true_eq,
      accounts.live_iff]
    tauto
  silent := by
    intro handle membership
    rcases List.mem_append.mp membership with now | earlier
    · exact ((accounts.live_iff handle).mp (List.mem_of_mem_filter now)).2
    · exact accounts.silent handle earlier
  stray := accounts.stray
  single := accounts.single
  refused := accounts.refused

/-- A holder gives a live handle back and hears of it. -/
theorem release (accounts : Accounts entries ledger) {i : Nat} {handle : Handle}
    (held : entries[i]? = some (some handle, true)) (live : handle ∈ ledger.live) :
    Accounts (entries.set i (some handle, false)) (ledger.close true (some handle)) := by
  have bounded : i < entries.length := (List.getElem?_eq_some_iff.mp held).1
  have given : ∀ (j : Nat) other holds, (entries.set i (some handle, false))[j]? =
      some (some other, holds) ↔
        if i = j then handle = other ∧ false = holds
        else entries[j]? = some (some other, holds) := by
    intro j other holds
    by_cases same : i = j
    · subst same
      simp [bounded]
    · simp [List.getElem?_set_ne same, same]
  have notStray : handle ∉ ledger.strays := fun stray =>
    accounts.stray handle stray i true held
  have notSilent : handle ∉ ledger.silent := ((accounts.live_iff handle).mp live).1
  have held_iff : ∀ other, (∃ j : Nat, (entries.set i (some handle, false))[j]? =
      some (some other, true)) ↔
        (∃ j : Nat, entries[j]? = some (some other, true)) ∧ other ≠ handle := by
    intro other
    simp only [given]
    constructor
    · rintro ⟨j, held'⟩
      split_ifs at held' with same
      · cases held'.2
      · refine ⟨⟨j, held'⟩, ?_⟩
        rintro rfl
        exact same (accounts.single i j other true true held held')
    · rintro ⟨⟨j, held'⟩, different⟩
      refine ⟨j, ?_⟩
      rw [if_neg]
      · exact held'
      · rintro rfl
        cases held.symm.trans held'
        exact different rfl
  have given_iff : ∀ other, (∃ (j : Nat) (holds : Bool),
      (entries.set i (some handle, false))[j]? = some (some other, holds)) ↔
        ∃ (j : Nat) (holds : Bool), entries[j]? = some (some other, holds) := by
    intro other
    simp only [given]
    constructor
    · rintro ⟨j, holds, held'⟩
      split_ifs at held'
      · obtain ⟨rfl, -⟩ := held'
        exact ⟨i, true, held⟩
      · exact ⟨j, holds, held'⟩
    · rintro ⟨j, holds, held'⟩
      by_cases same : i = j
      · subst same
        cases held.symm.trans held'
        exact ⟨i, false, by simp⟩
      · exact ⟨j, holds, by rwa [if_neg same]⟩
  constructor
  · intro other
    rw [given_iff]
    exact accounts.issued_iff other
  · intro other
    simp only [Ledger.close, List.mem_filter, accounts.live_iff, decide_eq_true_eq, if_true,
      held_iff]
    constructor
    · rintro ⟨⟨kept, stray | held'⟩, different⟩
      · exact ⟨kept, .inl stray⟩
      · exact ⟨kept, .inr ⟨held', different⟩⟩
    · rintro ⟨kept, stray | ⟨held', different⟩⟩
      · refine ⟨⟨kept, .inl stray⟩, ?_⟩
        rintro rfl
        exact notStray stray
      · exact ⟨⟨kept, .inr held'⟩, different⟩
  · intro other silent
    rw [held_iff]
    refine (accounts.silent other silent).imp_right fun held' => ⟨held', ?_⟩
    rintro rfl
    exact notSilent silent
  · intro other stray j holds held'
    obtain ⟨k, holds', held''⟩ := (given_iff other).mp ⟨j, holds, held'⟩
    exact accounts.stray other stray k holds' held''
  · intro j k other holds holds' held' held''
    rw [given] at held' held''
    split_ifs at held' held'' with same same' same'
    · rw [← same, ← same']
    · obtain ⟨rfl, -⟩ := held'
      rw [← same]
      exact accounts.single i k handle true holds' held held''
    · obtain ⟨rfl, -⟩ := held''
      rw [← same']
      exact accounts.single j i handle holds true held' held
    · exact accounts.single j k other holds holds' held' held''
  · intro j holds present
    rw [List.getElem?_set] at present
    split_ifs at present
    · cases present
    · exact accounts.refused j holds present

/-- A holder gives a live handle back and does not hear of it. -/
theorem releaseUnheard (accounts : Accounts entries ledger) {i : Nat} {handle : Handle}
    (held : entries[i]? = some (some handle, true)) :
    Accounts entries (ledger.close false (some handle)) where
  issued_iff := accounts.issued_iff
  live_iff := by
    intro other
    simp only [Ledger.close, List.mem_filter, accounts.live_iff, decide_eq_true_eq,
      Bool.false_eq_true, if_false, List.mem_cons]
    tauto
  silent := by
    intro other membership
    rcases List.mem_cons.mp membership with rfl | earlier
    · exact .inr ⟨i, held⟩
    · exact accounts.silent other earlier
  stray := accounts.stray
  single := accounts.single
  refused := accounts.refused

/-- A holder asks to give its handle back; `done` says whether that is done, and the answer may be
lost. -/
theorem close_ (accounts : Accounts entries ledger) {i : Nat} {handle : Handle}
    (held : entries[i]? = some (some handle, true)) {done : Bool}
    (live : done = true → handle ∈ ledger.live) (heard : Bool) :
    Accounts (entries.set i (some handle, !(heard && done)))
      (ledger.close heard (if done then some handle else none)) := by
  have unchanged : entries.set i (some handle, true) = entries := by
    obtain ⟨bounded, stored⟩ := List.getElem?_eq_some_iff.mp held
    exact stored ▸ List.set_getElem_self bounded
  cases done with
  | false => simpa [unchanged, Ledger.close] using accounts
  | true =>
      cases heard with
      | true => simpa using accounts.release held (live rfl)
      | false => simpa [unchanged] using accounts.releaseUnheard held

/-! ### A step of the registry -/

theorem opened (accounts : Accounts entries ledger) {new : Option Handle}
    (fresh : ∀ handle ∈ new, handle ∉ ledger.issued) (heard : Bool) (ended : List Handle) :
    Accounts (entries ++ [(if heard then new else none, (if heard then new else none).isSome)])
      (ledger.after heard new none ended) :=
  (accounts.open_ fresh heard).drop ended

theorem closed (accounts : Accounts entries ledger) {i : Nat} {handle : Handle}
    (held : entries[i]? = some (some handle, true)) {done : Bool}
    (live : done = true → handle ∈ ledger.live) (heard : Bool) (ended : List Handle) :
    Accounts (entries.set i (some handle, !(heard && done)))
      (ledger.after heard none (if done then some handle else none) ended) :=
  (accounts.close_ held live heard).drop ended

/-- A request that neither issues nor closes a handle. -/
theorem elsewhere (accounts : Accounts entries ledger) {entries' : List (Entry Handle)}
    (same : entries' = entries) {new closed : Option Handle}
    (quiet : new = none ∧ closed = none) (heard : Bool) (ended : List Handle) :
    Accounts entries' (ledger.after heard new closed ended) := by
  obtain ⟨rfl, rfl⟩ := quiet
  rw [same]
  exact accounts.drop ended

end Accounts

/-! ## What is held -/

def held (entries : List (Entry Handle)) : List Handle :=
  entries.filterMap fun entry => if entry.2 then entry.1 else none

theorem mem_held {entries : List (Entry Handle)} {handle : Handle} :
    handle ∈ held entries ↔ ∃ i : Nat, entries[i]? = some (some handle, true) := by
  rw [held, List.mem_filterMap]
  constructor
  · rintro ⟨⟨given, holds⟩, member, same⟩
    cases holds with
    | false => cases same
    | true =>
        obtain rfl : given = some handle := same
        exact List.getElem?_of_mem member
  · rintro ⟨i, present⟩
    exact ⟨_, List.mem_of_getElem? present, rfl⟩

theorem Accounts.nodup_held {entries : List (Entry Handle)} {ledger : Ledger Handle}
    (accounts : Accounts entries ledger) : (held entries).Nodup := by
  have single := accounts.single
  clear accounts
  induction entries with
  | nil => exact List.nodup_nil
  | cons entry entries ih =>
      have rest := ih fun i j handle holds holds' given given' =>
        Nat.succ.inj (single (i + 1) (j + 1) handle holds holds' given given')
      obtain ⟨given, holds⟩ := entry
      cases holds with
      | false => exact rest
      | true =>
          cases given with
          | none => exact rest
          | some handle =>
              refine List.nodup_cons.mpr ⟨fun again => ?_, rest⟩
              obtain ⟨j, present⟩ := mem_held.mp again
              cases single 0 (j + 1) handle true true rfl present

/-- The holders of these handles and the registry disagree about the strays and the silently ended
handles only. -/
structure Reconciled (held : List Handle) (ledger : Ledger Handle) : Prop where
  live_iff : ∀ handle, handle ∈ ledger.live ↔
    handle ∉ ledger.silent ∧ (handle ∈ ledger.strays ∨ handle ∈ held)
  silent : ∀ handle ∈ ledger.silent, handle ∈ ledger.strays ∨ handle ∈ held
  stray : ∀ handle ∈ ledger.strays, handle ∉ held
  issued : ∀ handle, handle ∈ ledger.strays ∨ handle ∈ held → handle ∈ ledger.issued
  nodup : held.Nodup

theorem Accounts.reconciled {entries : List (Entry Handle)} {ledger : Ledger Handle}
    (accounts : Accounts entries ledger) : Reconciled (held entries) ledger where
  live_iff := by simpa only [mem_held] using accounts.live_iff
  silent := by simpa only [mem_held] using accounts.silent
  stray := by
    intro handle stray holds
    obtain ⟨i, present⟩ := mem_held.mp holds
    exact accounts.stray handle stray i true present
  issued := by
    rintro handle (stray | holds)
    · exact (accounts.issued_iff handle).mpr (.inl stray)
    · obtain ⟨i, present⟩ := mem_held.mp holds
      exact (accounts.issued_iff handle).mpr (.inr ⟨i, true, present⟩)
  nodup := accounts.nodup_held

/-! ## Later -/

/-- What nobody was told stays so. -/
structure Ledger.Grows (ledger later : Ledger Handle) : Prop where
  issued : ∀ handle ∈ ledger.issued, handle ∈ later.issued
  strays_iff : ∀ handle ∈ ledger.issued, (handle ∈ later.strays ↔ handle ∈ ledger.strays)
  silent : ∀ handle ∈ ledger.silent, handle ∈ later.silent

namespace Ledger.Grows

variable {ledger : Ledger Handle}

theorem rfl (ledger : Ledger Handle) : ledger.Grows ledger :=
  ⟨fun _ => id, fun _ _ => Iff.rfl, fun _ => id⟩

theorem trans {next later : Ledger Handle} (grows : ledger.Grows next)
    (growsOn : next.Grows later) : ledger.Grows later where
  issued handle issued := growsOn.issued handle (grows.issued handle issued)
  strays_iff handle issued :=
    (growsOn.strays_iff handle (grows.issued handle issued)).trans (grows.strays_iff handle issued)
  silent handle silent := growsOn.silent handle (grows.silent handle silent)

theorem issue {new : Option Handle} (fresh : ∀ handle ∈ new, handle ∉ ledger.issued)
    (heard : Bool) : ledger.Grows (ledger.issue heard new) := by
  cases new with
  | none => exact .rfl ledger
  | some handle =>
      refine ⟨fun _ => List.mem_cons_of_mem _, fun other issued => ?_, fun _ => id⟩
      have different : other ≠ handle := by
        rintro ⟨⟩
        exact fresh handle (Option.mem_some_self handle) issued
      cases heard <;> simp [Ledger.issue, different]

variable [DecidableEq Handle]

theorem close (closed : Option Handle) (heard : Bool) :
    ledger.Grows (ledger.close heard closed) := by
  cases closed with
  | none => exact .rfl ledger
  | some handle =>
      refine ⟨fun _ => id, fun _ _ => Iff.rfl, fun other silent => ?_⟩
      cases heard
      · exact List.mem_cons_of_mem _ silent
      · exact silent

theorem drop (ended : List Handle) : ledger.Grows (ledger.drop ended) :=
  ⟨fun _ => id, fun _ _ => Iff.rfl, fun _ => List.mem_append_right _⟩

theorem after {new : Option Handle} (fresh : ∀ handle ∈ new, handle ∉ ledger.issued)
    (heard : Bool) (closed : Option Handle) (ended : List Handle) :
    ledger.Grows (ledger.after heard new closed ended) :=
  ((issue fresh heard).trans (close closed heard)).trans (drop ended)

end Ledger.Grows

/-- A stray is never held, and a handle that is held though it is not live stays so. -/
theorem Reconciled.unmended {held later : List Handle} {ledger after : Ledger Handle}
    (reconciled : Reconciled held ledger) (grows : ledger.Grows after)
    (still : Reconciled later after) :
    (∀ handle ∈ ledger.strays, handle ∉ later) ∧
      ∀ handle ∈ held, handle ∉ ledger.live → handle ∈ later ∧ handle ∉ after.live := by
  constructor
  · intro handle stray
    have issued := reconciled.issued handle (.inl stray)
    exact still.stray handle ((grows.strays_iff handle issued).mpr stray)
  · intro handle holds dead
    have silent : handle ∈ ledger.silent := by
      by_contra kept
      exact dead ((reconciled.live_iff handle).mpr ⟨kept, .inr holds⟩)
    have silentStill := grows.silent handle silent
    have notStray : handle ∉ after.strays := fun stray => reconciled.stray handle
      ((grows.strays_iff handle (reconciled.issued handle (.inr holds))).mp stray) holds
    exact ⟨(still.silent handle silentStill).resolve_left notStray,
      fun live => ((still.live_iff handle).mp live).1 silentStill⟩

end Registry
