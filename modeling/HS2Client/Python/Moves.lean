import HS2Client.Python.GarbageCollection

/-!
# Moves on the heap of the extension types

Whatever a program does, the heap changes by moves: an object that is alive is counted, used or
deallocated, or a new one is created. The outcome of every request is arbitrary.
-/

namespace HS2Client.Py

open RefCounting

/-- What a method does to its object, with the entries made for it. -/
inductive Touched (respond : Responder) (address : Nat) :
    PyObject → PyObject → List Entry → Prop
  | kept (object : PyObject) : Touched respond address object object []
  | service (user : Bytes) (owned : Option Service) :
      Touched respond address (.service user owned)
        (.service user (closeService address owned).1) (closeService address owned).2
  | session (parent : Nat) (owned : Option Session) :
      Touched respond address (.session parent owned)
        (.session parent (closeSession respond address parent owned).1)
        (closeSession respond address parent owned).2
  | operation (parent : Nat) (owned : Option Operation) (call : OperationCall) :
      Touched respond address (.operation parent owned)
        (.operation parent (callOperation respond address parent call owned).1)
        (callOperation respond address parent call owned).2

/-- What a constructor makes, with the entries made for it. The parent is of the right class and
owns its C++ object. -/
inductive Created (respond : Responder) (heap : Heap PyObject) (address : Nat) :
    PyObject → List Entry → Prop
  | unconnected (user : Bytes) (owned : Option Service)
      (notConnected : ∀ service ∈ owned, service.isConnected = false) :
      Created respond heap address (.service user owned) []
  | connected (user : Bytes) :
      Created respond heap address (.service user (some ⟨true⟩)) [.connected address]
  | session {service count : Nat} {user : Bytes} {owned : Service}
      (present : heap[service]? = some ⟨count, .service user (some owned)⟩) :
      Created respond heap address
        (.session service (some ((({} : Session).openSession [] user).run respond).2))
        (((({} : Session).openSession [] user).exchange? respond).toList.map
          (.session address service))
  | unexecuted {parent count service : Nat} {session : Session}
      (present : heap[parent]? = some ⟨count, .session service (some session)⟩) :
      Created respond heap address (.operation parent none) []
  | operation {parent count service : Nat} {session : Session}
      (present : heap[parent]? = some ⟨count, .session service (some session)⟩)
      (statement : Bytes) :
      Created respond heap address
        (.operation parent (some ((session.executeStatement statement []).run respond).2))
        (((session.executeStatement statement []).exchange? respond).toList.map
          (.operation address parent))

/-- An object is used, or deallocated when no live object refers to it. -/
structure Touches (respond : Responder) (heap : Heap PyObject) (address : Nat)
    (cell : Cell PyObject) (count : Nat) (object : PyObject) (entries : List Entry) : Prop where
  present : heap[address]? = some cell
  alive : cell.count ≠ 0
  touched : Touched respond address cell.value object entries
  last : count = 0 → (object, entries) = cell.value.dealloc respond address ∧
    ∀ child ∈ heap, child.refersTo PyObject.parent address = false

inductive Moves (respond : Responder) (heap : Heap PyObject) (log : List Entry) :
    Heap PyObject → List Entry → Prop
  | start : Moves respond heap log heap log
  | touch {heap' : Heap PyObject} {log' : List Entry} {address count : Nat}
      {cell : Cell PyObject} {object : PyObject} {entries : List Entry}
      (earlier : Moves respond heap log heap' log')
      (touches : Touches respond heap' address cell count object entries) :
      Moves respond heap log (heap'.set address ⟨count, object⟩) (log' ++ entries)
  | create {heap' : Heap PyObject} {log' : List Entry} {object : PyObject}
      {entries : List Entry} (earlier : Moves respond heap log heap' log')
      (created : Created respond heap' heap'.length object entries) :
      Moves respond heap log (heap' ++ [⟨1, object⟩]) (log' ++ entries)

/-! ## What the moves leave as it is -/

inductive Kind where
  | service
  | session
  | operation
  deriving DecidableEq

def Kind.parent : Kind → Option Kind
  | .service => none
  | .session => some .service
  | .operation => some .session

namespace PyObject

def kind : PyObject → Kind
  | .service _ _ => .service
  | .session _ _ => .session
  | .operation _ _ => .operation

/-- The `unique_ptr` is not null. -/
def owns : PyObject → Bool
  | .service _ owned => owned.isSome
  | .session _ owned => owned.isSome
  | .operation _ owned => owned.isSome

end PyObject

structure SameOutline (before after : PyObject) : Prop where
  kind : after.kind = before.kind
  parent : after.parent = before.parent
  owns : after.owns = before.owns

theorem SameOutline.trans {first second third : PyObject} (before : SameOutline first second)
    (after : SameOutline second third) : SameOutline first third :=
  ⟨after.kind.trans before.kind, after.parent.trans before.parent, after.owns.trans before.owns⟩

theorem Touched.sameOutline {respond : Responder} {address : Nat} {before after : PyObject}
    {entries : List Entry} (touched : Touched respond address before after entries) :
    SameOutline before after := by
  cases touched with
  | kept => exact ⟨rfl, rfl, rfl⟩
  | service user owned =>
      refine ⟨rfl, rfl, ?_⟩
      rcases owned with _ | service
      · rfl
      · simp only [closeService]
        split_ifs <;> rfl
  | session parent owned => cases owned <;> exact ⟨rfl, rfl, rfl⟩
  | operation parent owned call => cases owned <;> exact ⟨rfl, rfl, rfl⟩

/-- The parent of every object is of the right class and owns its C++ object. -/
def Housed (heap : Heap PyObject) : Prop :=
  ∀ (i p : Nat) (cell : Cell PyObject), heap[i]? = some cell → cell.value.parent = some p →
    ∃ above : Cell PyObject, heap[p]? = some above ∧
      cell.value.kind.parent = some above.value.kind ∧ above.value.owns = true

theorem Created.hosted {respond : Responder} {heap : Heap PyObject} {address p : Nat}
    {object : PyObject} {entries : List Entry}
    (created : Created respond heap address object entries) (holds : object.parent = some p) :
    ∃ above : Cell PyObject, heap[p]? = some above ∧
      object.kind.parent = some above.value.kind ∧ above.value.owns = true := by
  cases created with
  | unconnected => cases holds
  | connected => cases holds
  | session present =>
      cases holds
      exact ⟨_, present, rfl, rfl⟩
  | unexecuted present =>
      cases holds
      exact ⟨_, present, rfl, rfl⟩
  | operation present =>
      cases holds
      exact ⟨_, present, rfl, rfl⟩

theorem touched_dealloc (respond : Responder) (address : Nat) (object : PyObject) :
    Touched respond address object (object.dealloc respond address).1
      (object.dealloc respond address).2 := by
  cases object with
  | service user owned => exact .service user owned
  | session parent owned => exact .session parent owned
  | operation parent owned => exact .operation parent owned .close

namespace Touches

variable {respond : Responder} {heap : Heap PyObject} {address count : Nat}
  {cell : Cell PyObject} {object : PyObject} {entries : List Entry}

theorem here (touches : Touches respond heap address cell count object entries) :
    (heap.set address ⟨count, object⟩)[address]? = some ⟨count, object⟩ :=
  List.getElem?_set_self (List.getElem?_eq_some_iff.mp touches.present).1

theorem persists (touches : Touches respond heap address cell count object entries) {i : Nat}
    {old : Cell PyObject} (present : heap[i]? = some old) :
    ∃ later : Cell PyObject, (heap.set address ⟨count, object⟩)[i]? = some later ∧
      SameOutline old.value later.value := by
  by_cases same : address = i
  · subst same
    cases touches.present.symm.trans present
    exact ⟨_, touches.here, touches.touched.sameOutline⟩
  · exact ⟨old, (List.getElem?_set_ne same).trans present, rfl, rfl, rfl⟩

theorem earlier (touches : Touches respond heap address cell count object entries) {i : Nat}
    {later : Cell PyObject} (present : (heap.set address ⟨count, object⟩)[i]? = some later) :
    ∃ old : Cell PyObject, heap[i]? = some old ∧ SameOutline old.value later.value := by
  by_cases same : address = i
  · subst same
    cases touches.here.symm.trans present
    exact ⟨cell, touches.present, touches.touched.sameOutline⟩
  · rw [List.getElem?_set_ne same] at present
    exact ⟨later, present, rfl, rfl, rfl⟩

theorem housed (touches : Touches respond heap address cell count object entries)
    (housed : Housed heap) : Housed (heap.set address ⟨count, object⟩) := by
  intro i p later present holds
  obtain ⟨old, before, outline⟩ := touches.earlier present
  obtain ⟨above, atParent, kind, owns⟩ := housed i p old before (outline.parent ▸ holds)
  obtain ⟨after, atParent', outline'⟩ := touches.persists atParent
  refine ⟨after, atParent', ?_, outline'.owns.trans owns⟩
  rw [outline.kind, outline'.kind]
  exact kind

end Touches

theorem Created.housed {respond : Responder} {heap : Heap PyObject} {object : PyObject}
    {entries : List Entry} (created : Created respond heap heap.length object entries)
    (housed : Housed heap) : Housed (heap ++ [⟨1, object⟩]) := by
  have kept : ∀ (p : Nat) (above : Cell PyObject), heap[p]? = some above →
      (heap ++ [⟨1, object⟩])[p]? = some above := by
    intro p above present
    exact (List.getElem?_append_left (List.getElem?_eq_some_iff.mp present).1).trans present
  intro i p cell present holds
  rcases Nat.lt_trichotomy i heap.length with old | rfl | outside
  · rw [List.getElem?_append_left old] at present
    obtain ⟨above, atParent, hosts⟩ := housed i p cell present holds
    exact ⟨above, kept p above atParent, hosts⟩
  · rw [List.getElem?_concat_length] at present
    cases present
    obtain ⟨above, atParent, hosts⟩ := created.hosted holds
    exact ⟨above, kept p above atParent, hosts⟩
  · rw [List.getElem?_eq_none (by simp; omega)] at present
    cases present

namespace Moves

variable {respond : Responder} {heap heap' : Heap PyObject} {log log' : List Entry}

theorem persists (moves : Moves respond heap log heap' log') {i : Nat} {cell : Cell PyObject}
    (present : heap[i]? = some cell) :
    ∃ later : Cell PyObject, heap'[i]? = some later ∧ SameOutline cell.value later.value := by
  induction moves with
  | start => exact ⟨cell, present, rfl, rfl, rfl⟩
  | touch _ touches ih =>
      obtain ⟨middle, found, outline⟩ := ih
      obtain ⟨later, found', outline'⟩ := touches.persists found
      exact ⟨later, found', outline.trans outline'⟩
  | create _ _ ih =>
      obtain ⟨later, found, outline⟩ := ih
      have bound := (List.getElem?_eq_some_iff.mp found).1
      exact ⟨later, (List.getElem?_append_left bound).trans found, outline⟩

theorem housed (moves : Moves respond heap log heap' log') (housed : Housed heap) :
    Housed heap' := by
  induction moves with
  | start => exact housed
  | touch _ touches ih => exact touches.housed ih
  | create _ created ih => exact created.housed ih

theorem trans {heap'' : Heap PyObject} {log'' : List Entry}
    (first : Moves respond heap log heap' log') (later : Moves respond heap' log' heap'' log'') :
    Moves respond heap log heap'' log'' := by
  induction later with
  | start => exact first
  | touch _ touches ih => exact .touch ih touches
  | create _ created ih => exact .create ih created

theorem recount {address count : Nat} {cell : Cell PyObject}
    (earlier : Moves respond heap log heap' log') (present : heap'[address]? = some cell)
    (alive : cell.count ≠ 0) (positive : count ≠ 0) :
    Moves respond heap log (heap'.set address ⟨count, cell.value⟩) log' := by
  have touches : Touches respond heap' address cell count cell.value [] :=
    ⟨present, alive, .kept cell.value, fun last => absurd last positive⟩
  simpa using earlier.touch touches

theorem acquire {address : Nat} {cell : Cell PyObject}
    (earlier : Moves respond heap log heap' log') (present : heap'[address]? = some cell)
    (alive : cell.count ≠ 0) : Moves respond heap log (heap'.acquire address) log' := by
  rw [Heap.acquire, present]
  exact earlier.recount present alive (Nat.succ_ne_zero _)

/-- Giving up a reference, whatever dies of it. -/
theorem release {address : Nat} {references : List Nat}
    (earlier : Moves respond heap log heap' log')
    (counted : Counted PyObject.parent (address :: references) heap') :
    let released := RefCounting.release PyObject.parent (PyObject.dealloc respond) (address + 1)
      heap' address
    Counted PyObject.parent references released.1 ∧
      Moves respond heap log released.1 (log' ++ released.2) := by
  apply release_invariant (fun after output => Moves respond heap log after output)
    _ _ _ (Nat.lt_succ_self address) counted earlier
  · intro i object
    exact (touched_dealloc respond i object).sameOutline.parent
  · intro after output i cell moves present several
    exact moves.recount present (by omega) (by omega)
  · intro after output i cell moves present alive childless
    exact moves.touch ⟨present, alive, touched_dealloc respond i cell.value,
      fun _ => ⟨rfl, childless⟩⟩

end Moves

end HS2Client.Py
