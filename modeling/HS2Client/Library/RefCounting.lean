import Mathlib.Data.List.Basic

/-!
# Reference counts along parent pointers

An object may hold a reference to one other object, its parent, that is older than itself.
Releasing the last reference to an object runs its finalizer, marks it dead and releases its
parent. `Counted` says that the counts are those of the references that exist.
-/

namespace RefCounting

variable {Value Output : Type}

structure Cell (Value : Type) where
  /-- Zero once the object is dead. -/
  count : Nat
  value : Value

abbrev Heap (Value : Type) := List (Cell Value)

def Heap.acquire (heap : Heap Value) (i : Nat) : Heap Value :=
  match heap[i]? with
  | none => heap
  | some cell => heap.set i { cell with count := cell.count + 1 }

/-- Give up a reference; the fuel bounds the number of objects that die of it. -/
def release (parent : Value → Option Nat) (finalize : Nat → Value → Value × List Output) :
    Nat → Heap Value → Nat → Heap Value × List Output
  | 0, heap, _ => (heap, [])
  | fuel + 1, heap, i =>
      match heap[i]? with
      | none => (heap, [])
      | some cell =>
          if cell.count = 1 then
            let (value, output) := finalize i cell.value
            match parent cell.value with
            | none => (heap.set i ⟨0, value⟩, output)
            | some p =>
                let (heap, rest) := release parent finalize fuel (heap.set i ⟨0, value⟩) p
                (heap, output ++ rest)
          else (heap.set i { cell with count := cell.count - 1 }, [])

variable (parent : Value → Option Nat)

/-- The object is alive and holds a reference to its parent `i`. -/
def Cell.refersTo (i : Nat) (cell : Cell Value) : Bool :=
  cell.count != 0 && parent cell.value == some i

/-- The counts are those of the given references together with the objects' own. -/
structure Counted (refs : List Nat) (heap : Heap Value) : Prop where
  counts : ∀ i cell, heap[i]? = some cell →
    cell.count = refs.count i + heap.countP (Cell.refersTo parent i)
  older : ∀ i cell p, heap[i]? = some cell → parent cell.value = some p → p < i
  bounded : ∀ i ∈ refs, i < heap.length

theorem counted_nil : Counted parent [] ([] : Heap Value) :=
  ⟨nofun, nofun, nofun⟩

variable {parent} {refs : List Nat} {heap : Heap Value} {i : Nat} {cell : Cell Value}

theorem countP_set_eq (present : heap[i]? = some cell) (test : Cell Value → Bool)
    (new : Cell Value) :
    (heap.set i new).countP test + (if test cell then 1 else 0) =
      heap.countP test + (if test new then 1 else 0) := by
  obtain ⟨bound, rfl⟩ := List.getElem?_eq_some_iff.mp present
  have positive : test heap[i] = true → 0 < heap.countP test := fun passes =>
    List.countP_pos_iff.mpr ⟨_, List.getElem_mem bound, passes⟩
  rw [List.countP_set bound]
  split_ifs with passes
  all_goals
    have := positive
    simp_all
    try omega

namespace Counted

theorem present (counted : Counted parent (i :: refs) heap) : ∃ cell, heap[i]? = some cell :=
  ⟨_, List.getElem?_eq_getElem (counted.bounded i List.mem_cons_self)⟩

theorem perm {others : List Nat} (counted : Counted parent refs heap)
    (same : refs.Perm others) : Counted parent others heap where
  counts := by
    intro j object at_j
    rw [← same.count_eq]
    exact counted.counts j object at_j
  older := counted.older
  bounded := fun j held => counted.bounded j (same.mem_iff.mpr held)

/-- What one object gains or loses, in references to it and from it, is what the given
references lose or gain. -/
theorem replace {others : List Nat} {new : Cell Value} (counted : Counted parent refs heap)
    (present : heap[i]? = some cell) (sameParent : parent new.value = parent cell.value)
    (balanced : ∀ j, others.count j + (if new.refersTo parent j then 1 else 0) +
        (if j = i then cell.count else 0) =
      refs.count j + (if cell.refersTo parent j then 1 else 0) + if j = i then new.count else 0)
    (bounded : ∀ j ∈ others, j < heap.length) :
    Counted parent others (heap.set i new) where
  counts := by
    intro j object at_j
    have moved := countP_set_eq present (Cell.refersTo parent j) new
    have balance := balanced j
    by_cases same : j = i
    · subst same
      have old := counted.counts j cell present
      obtain ⟨bound, _⟩ := List.getElem?_eq_some_iff.mp present
      rw [List.getElem?_set_self bound, Option.some.injEq] at at_j
      subst at_j
      simp only [if_true] at balance
      omega
    · rw [List.getElem?_set_ne (Ne.symm same)] at at_j
      have old := counted.counts j object at_j
      simp only [same, if_false] at balance
      omega
  older := by
    intro j object p at_j holds
    by_cases same : j = i
    · subst same
      obtain ⟨bound, _⟩ := List.getElem?_eq_some_iff.mp present
      rw [List.getElem?_set_self bound, Option.some.injEq] at at_j
      subst at_j
      exact counted.older j cell p present (sameParent ▸ holds)
    · rw [List.getElem?_set_ne (Ne.symm same)] at at_j
      exact counted.older j object p at_j holds
  bounded := by simpa using bounded

theorem acquire (counted : Counted parent refs heap) (present : heap[i]? = some cell)
    (alive : cell.count ≠ 0) :
    Counted parent (i :: refs) (heap.set i { cell with count := cell.count + 1 }) := by
  refine counted.replace present rfl (fun j => ?_) ?_
  · have kept : Cell.refersTo parent j { cell with count := cell.count + 1 } =
        cell.refersTo parent j := by simp [Cell.refersTo, alive]
    rw [kept, List.count_cons, beq_eq_decide]
    simp only [decide_eq_true_eq, @eq_comm _ i j]
    split_ifs <;> omega
  · obtain ⟨bound, _⟩ := List.getElem?_eq_some_iff.mp present
    simpa [bound] using counted.bounded

theorem update (counted : Counted parent refs heap) (present : heap[i]? = some cell)
    {value : Value} (sameParent : parent value = parent cell.value) :
    Counted parent refs (heap.set i { cell with value := value }) :=
  counted.replace present sameParent (fun j => by simp [Cell.refersTo, sameParent]) counted.bounded

theorem decrement (counted : Counted parent (i :: refs) heap) (present : heap[i]? = some cell)
    (shared : cell.count ≠ 1) :
    Counted parent refs (heap.set i { cell with count := cell.count - 1 }) := by
  have several : 2 ≤ cell.count := by
    have counts := counted.counts i cell present
    rw [List.count_cons_self] at counts
    omega
  refine counted.replace present rfl (fun j => ?_)
    fun j held => counted.bounded j (List.mem_cons_of_mem i held)
  have kept : Cell.refersTo parent j { cell with count := cell.count - 1 } =
      cell.refersTo parent j := by
    have before : (cell.count != 0) = true := by simp; omega
    have after : (cell.count - 1 != 0) = true := by simp; omega
    rw [Cell.refersTo, Cell.refersTo, before, after]
  rw [kept, List.count_cons, beq_eq_decide]
  simp only [decide_eq_true_eq, @eq_comm _ i j]
  split_ifs <;> omega

theorem kill (counted : Counted parent (i :: refs) heap) (present : heap[i]? = some cell)
    (last : cell.count = 1) {value : Value} (sameParent : parent value = parent cell.value) :
    Counted parent ((parent cell.value).toList ++ refs) (heap.set i ⟨0, value⟩) := by
  refine counted.replace present sameParent (fun j => ?_) ?_
  · have own : (parent cell.value).toList.count j =
        if cell.refersTo parent j then 1 else 0 := by
      cases holds : parent cell.value <;> simp [Cell.refersTo, last, holds, List.count_cons]
    rw [List.count_append, own, List.count_cons, beq_eq_decide, last]
    simp only [decide_eq_true_eq, @eq_comm _ i j, Cell.refersTo]
    simp
    split_ifs <;> omega
  · intro j held
    rcases List.mem_append.mp held with own | rest
    · obtain ⟨bound, _⟩ := List.getElem?_eq_some_iff.mp present
      exact Nat.lt_trans (counted.older i cell j present (Option.mem_toList.mp own)) bound
    · exact counted.bounded j (List.mem_cons_of_mem i rest)

theorem not_refersTo_length (counted : Counted parent refs heap) :
    heap.countP (Cell.refersTo parent heap.length) = 0 := by
  rw [List.countP_eq_zero]
  intro child member refers
  obtain ⟨k, bound, rfl⟩ := List.getElem_of_mem member
  simp only [Cell.refersTo, Bool.and_eq_true, beq_iff_eq] at refers
  have := counted.older k _ _ (List.getElem?_eq_getElem bound) refers.2
  omega

/-- A new object takes over the reference to its parent. -/
theorem create {value : Value} (counted : Counted parent ((parent value).toList ++ refs) heap) :
    Counted parent (heap.length :: refs) (heap ++ [⟨1, value⟩]) where
  counts := by
    intro j object at_j
    have own : (parent value).toList.count j =
        if Cell.refersTo parent j ⟨1, value⟩ then 1 else 0 := by
      cases holds : parent value <;> simp [Cell.refersTo, holds, List.count_cons]
    rw [List.countP_append, List.countP_singleton, ← own]
    rcases Nat.lt_trichotomy j heap.length with old | rfl | outside
    · rw [List.getElem?_append_left old] at at_j
      have counts := counted.counts j object at_j
      rw [List.count_append] at counts
      rw [List.count_cons_of_ne (by omega), counts]
      omega
    · rw [List.getElem?_concat_length, Option.some.injEq] at at_j
      subst at_j
      have unknown : ((parent value).toList ++ refs).count heap.length = 0 :=
        List.count_eq_zero.mpr fun held => Nat.lt_irrefl _ (counted.bounded _ held)
      rw [List.count_append] at unknown
      rw [List.count_cons_self, counted.not_refersTo_length]
      show 1 = _
      omega
    · rw [List.getElem?_eq_none (by simp; omega)] at at_j
      cases at_j
  older := by
    intro j object p at_j holds
    rcases Nat.lt_trichotomy j heap.length with old | rfl | outside
    · rw [List.getElem?_append_left old] at at_j
      exact counted.older j object p at_j holds
    · rw [List.getElem?_concat_length, Option.some.injEq] at at_j
      subst at_j
      exact counted.bounded p (List.mem_append_left _ (Option.mem_toList.mpr holds))
    · rw [List.getElem?_eq_none (by simp; omega)] at at_j
      cases at_j
  bounded := by
    intro j held
    rw [List.length_append]
    rcases List.mem_cons.mp held with new | rest
    · simp [new]
    · exact Nat.lt_add_right _ (counted.bounded j (List.mem_append_right _ rest))

/-- A dead object is not referred to. -/
theorem not_refersTo (counted : Counted parent refs heap) (present : heap[i]? = some cell)
    (dead : cell.count = 0) : ∀ child ∈ heap, child.refersTo parent i = false := by
  have none := counted.counts i cell present
  have zero : heap.countP (Cell.refersTo parent i) = 0 := by omega
  intro child member
  simpa using List.countP_eq_zero.mp zero child member

theorem parent_alive (counted : Counted parent refs heap) {p : Nat}
    (present : heap[i]? = some cell) (alive : cell.count ≠ 0) (holds : parent cell.value = some p) :
    ∃ above, heap[p]? = some above ∧ above.count ≠ 0 := by
  obtain ⟨bound, rfl⟩ := List.getElem?_eq_some_iff.mp present
  have below : p < heap.length := Nat.lt_trans (counted.older i _ p present holds) bound
  refine ⟨heap[p], List.getElem?_eq_getElem below, fun dead => ?_⟩
  have := counted.not_refersTo (List.getElem?_eq_getElem below) dead _ (List.getElem_mem bound)
  simp [Cell.refersTo, alive, holds] at this

theorem reference_alive (counted : Counted parent refs heap) (held : i ∈ refs) :
    ∃ cell, heap[i]? = some cell ∧ cell.count ≠ 0 := by
  have present := List.getElem?_eq_getElem (counted.bounded i held)
  refine ⟨_, present, ?_⟩
  have counts := counted.counts i _ present
  have := List.count_pos_iff.mpr held
  omega

/-- Without references from outside every object is dead. -/
theorem all_dead (counted : Counted parent [] heap) :
    ∀ (i : Nat) (cell : Cell Value), heap[i]? = some cell → cell.count = 0 := by
  -- The youngest live object has no live child, so nothing refers to it.
  suffices youngest : ∀ (n i : Nat) (cell : Cell Value), heap.length - i ≤ n →
      heap[i]? = some cell → cell.count = 0 from
    fun i cell => youngest _ i cell (Nat.le_refl _)
  intro n
  induction n with
  | zero =>
      intro i cell old present
      obtain ⟨bound, _⟩ := List.getElem?_eq_some_iff.mp present
      omega
  | succ n ih =>
      intro i cell old present
      rw [counted.counts i cell present, List.count_nil, Nat.zero_add, List.countP_eq_zero]
      intro child member refers
      obtain ⟨k, bound, rfl⟩ := List.getElem_of_mem member
      simp only [Cell.refersTo, Bool.and_eq_true, beq_iff_eq, bne_iff_ne] at refers
      have younger := counted.older k _ _ (List.getElem?_eq_getElem bound) refers.2
      exact refers.1 (ih k _ (by omega) (List.getElem?_eq_getElem bound))

end Counted

/-- A property of the heap and of all output so far holds after a release if it is kept when an
object loses one of several references and when an object without live children dies. -/
theorem release_invariant {finalize : Nat → Value → Value × List Output}
    (invariant : Heap Value → List Output → Prop)
    (keepsParent : ∀ i value, parent (finalize i value).1 = parent value)
    (decrements : ∀ heap output i cell, invariant heap output → heap[i]? = some cell →
      1 < cell.count → invariant (heap.set i { cell with count := cell.count - 1 }) output)
    (finalizes : ∀ heap output i cell, invariant heap output → heap[i]? = some cell →
      cell.count ≠ 0 → (∀ child ∈ heap, child.refersTo parent i = false) →
      invariant (heap.set i ⟨0, (finalize i cell.value).1⟩)
        (output ++ (finalize i cell.value).2))
    {fuel : Nat} (enough : i < fuel) (counted : Counted parent (i :: refs) heap)
    {output : List Output} (holds : invariant heap output) :
    Counted parent refs (release parent finalize fuel heap i).1 ∧
      invariant (release parent finalize fuel heap i).1
        (output ++ (release parent finalize fuel heap i).2) := by
  induction fuel generalizing heap i output with
  | zero => exact absurd enough (Nat.not_lt_zero i)
  | succ fuel ih =>
      obtain ⟨cell, present⟩ := counted.present
      have counts := counted.counts i cell present
      rw [List.count_cons_self] at counts
      by_cases last : cell.count = 1
      · have childless : ∀ child ∈ heap, child.refersTo parent i = false := by
          have none : heap.countP (Cell.refersTo parent i) = 0 := by omega
          intro child member
          simpa using List.countP_eq_zero.mp none child member
        have killed := counted.kill present last (keepsParent i cell.value)
        have finalized := finalizes heap output i cell holds present (by omega) childless
        cases above : parent cell.value with
        | none =>
            rw [above] at killed
            simpa [release, present, last, above] using ⟨killed, finalized⟩
        | some p =>
            rw [above] at killed
            have older := counted.older i cell p present above
            simpa [release, present, last, above] using ih (by omega) killed finalized
      · have decremented := decrements heap output i cell holds present (by omega)
        simpa [release, present, last] using ⟨counted.decrement present last, decremented⟩

/-! ## Reading -/

/-- What is read from an object; a dead one is not there any more. -/
def Heap.live? (heap : Heap Value) (i : Nat) : Option Value :=
  match heap[i]? with
  | none => none
  | some cell => if cell.count = 0 then none else some cell.value

/-- What the objects hold or held. -/
def Heap.values (heap : Heap Value) : List Value := heap.map Cell.value

@[simp] theorem Heap.values_append (heap : Heap Value) (cell : Cell Value) :
    Heap.values (heap ++ [cell]) = heap.values ++ [cell.value] := by simp [Heap.values]

theorem Heap.values_set (present : heap[i]? = some cell) (count : Nat) :
    Heap.values (heap.set i { cell with count }) = heap.values := by
  obtain ⟨bound, rfl⟩ := List.getElem?_eq_some_iff.mp present
  rw [Heap.values, List.map_set]
  exact List.ext_getElem (by simp [Heap.values]) fun j _ _ => by
    rw [List.getElem_set]
    split_ifs with same
    · subst same
      simp [Heap.values]
    · rfl

@[simp] theorem Heap.values_acquire (heap : Heap Value) (i : Nat) :
    (heap.acquire i).values = heap.values := by
  unfold Heap.acquire
  split
  · rfl
  · rename_i cell present
    exact values_set present _

@[simp] theorem Heap.length_acquire (heap : Heap Value) (i : Nat) :
    (heap.acquire i).length = heap.length := by
  simpa [Heap.values] using congrArg List.length (heap.values_acquire i)

namespace Counted

theorem live {value : Value} (counted : Counted parent refs heap) (held : i ∈ refs)
    (present : heap.values[i]? = some value) : heap.live? i = some value := by
  obtain ⟨cell, found, alive⟩ := counted.reference_alive held
  simp only [Heap.values, List.getElem?_map, found, Option.map_some, Option.some.injEq] at present
  simp [Heap.live?, found, alive, present]

/-- What an object refers to can be read as long as the object can. -/
theorem live_parent {value above : Value} {p : Nat} (counted : Counted parent refs heap)
    (live : heap.live? i = some value) (holds : parent value = some p)
    (present : heap.values[p]? = some above) : heap.live? p = some above := by
  unfold Heap.live? at live
  split at live
  · cases live
  · rename_i cell found
    split_ifs at live with dead
    rw [Option.some.injEq] at live
    obtain ⟨object, foundAbove, alive⟩ := counted.parent_alive found dead (live ▸ holds)
    simp only [Heap.values, List.getElem?_map, foundAbove, Option.map_some,
      Option.some.injEq] at present
    simp [Heap.live?, foundAbove, alive, present]

end Counted

/-- Deallocation that changes nothing but the counts. -/
def freeze (_ : Nat) (value : Value) : Value × List Unit := (value, [])

theorem counted_release (counted : Counted parent (i :: refs) heap) :
    Counted parent refs (release parent freeze (i + 1) heap i).1 ∧
      (release parent freeze (i + 1) heap i).1.values = heap.values := by
  let same (after : Heap Value) (_ : List Unit) : Prop := after.values = heap.values
  have initially : same heap [] := rfl
  refine @release_invariant _ Unit parent refs heap i freeze same (fun _ _ => rfl) ?_ ?_ _
    (Nat.lt_succ_self i) counted [] initially
  · intro after _ j cell kept present _
    exact (Heap.values_set present _).trans kept
  · intro after _ j cell kept present _ _
    exact (Heap.values_set present 0).trans kept

theorem counted_acquire (counted : Counted parent refs heap) (held : i ∈ refs) :
    Counted parent (i :: refs) (heap.acquire i) := by
  obtain ⟨cell, present, alive⟩ := counted.reference_alive held
  simpa [Heap.acquire, present] using counted.acquire present alive

/-- Where one of several holders changes what it holds, so do the references of all. -/
theorem perm_filterMap_set {Holder : Type} (held : Holder → Option Nat) {holders : List Holder}
    {i : Nat} {old : Holder} (present : holders[i]? = some old) (new : Holder) :
    ((held old).toList ++ (holders.set i new).filterMap held).Perm
      ((held new).toList ++ holders.filterMap held) := by
  have split (first : Holder) (rest : List Holder) :
      (first :: rest).filterMap held = (held first).toList ++ rest.filterMap held := by
    cases found : held first <;> simp [found]
  induction holders generalizing i with
  | nil => cases present
  | cons first rest ih =>
      cases i with
      | zero =>
          cases present
          rw [List.set_cons_zero, split, split]
          exact List.perm_append_comm_assoc _ _ _
      | succ i =>
          rw [List.set_cons_succ, split, split]
          exact (List.perm_append_comm_assoc _ _ _).trans
            (((ih present).append_left _).trans (List.perm_append_comm_assoc _ _ _))

end RefCounting
