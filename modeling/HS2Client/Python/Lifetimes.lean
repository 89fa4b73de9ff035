import HS2Client.Python.GarbageCollection

/-!
# Lifetimes of the extension types

The log of an interpreter is read as a trace of nested lifetimes: operations inside sessions
inside services. `Orderly` relates the trace to the flags of the objects on the heap; giving up
a reference keeps it, whatever is deallocated by it.
-/

namespace HS2Client.Py

open Nesting RefCounting Runs

inductive Ref where
  | service (address : Nat)
  | session (address : Nat)
  | operation (address : Nat)
  deriving DecidableEq

def Ref.address : Ref → Nat
  | .service address => address
  | .session address => address
  | .operation address => address

namespace PyObject

def ref (address : Nat) : PyObject → Ref
  | .service _ _ => .service address
  | .session _ _ => .session address
  | .operation _ _ => .operation address

def parentRef : PyObject → Option Ref
  | .service _ _ => none
  | .session parent _ => some (.service parent)
  | .operation parent _ => some (.session parent)

/-- The flag of the C++ object. -/
def isOpen : PyObject → Bool
  | .service _ owned => owned.any Service.isConnected
  | .session _ owned => owned.any Session.open_
  | .operation _ owned => owned.any Operation.open_

def isOperation : PyObject → Bool
  | .operation _ _ => true
  | _ => false

@[simp] theorem address_ref (address : Nat) (object : PyObject) :
    (object.ref address).address = address := by
  cases object <;> rfl

theorem not_isOperation_of_parentRef {object above : PyObject} {address : Nat}
    (holds : object.parentRef = some (above.ref address)) : above.isOperation = false := by
  cases above with
  | operation parent owned => cases object <;> simp [parentRef, ref] at holds
  | _ => rfl

theorem parent_eq (object : PyObject) : object.parent = object.parentRef.map Ref.address := by
  cases object <;> rfl

end PyObject

namespace Entry

def ref : Entry → Ref
  | .connected service => .service service
  | .disconnected service => .service service
  | .session address _ _ => .session address
  | .operation address _ _ => .operation address

def parentRef : Entry → Option Ref
  | .connected _ => none
  | .disconnected _ => none
  | .session _ above _ => some (.service above)
  | .operation _ above _ => some (.session above)

/-- A request that neither opens nor closes its object is a use of the parent. -/
def action : Entry → Action Ref
  | .connected address => .opens (.service address) none
  | .disconnected address => .closes (.service address)
  | .session address above exchange =>
      match exchange.method with
      | .openSession =>
          if exchange.succeeds then .opens (.session address) (some (.service above))
          else .uses (.service above)
      | .closeSession => .closes (.session address)
      | _ => .uses (.service above)
  | .operation address above exchange =>
      match exchange.method with
      | .executeStatement =>
          if exchange.succeeds then .opens (.operation address) (some (.session above))
          else .uses (.session above)
      | .closeOperation => .closes (.operation address)
      | _ => .uses (.session above)

/-- An entry opens or closes its own object, the former inside the object's parent, or uses the
parent. -/
theorem action_cases (entry : Entry) :
    entry.action = .opens entry.ref entry.parentRef ∨ entry.action = .closes entry.ref ∨
      ∃ above, entry.parentRef = some above ∧ entry.action = .uses above := by
  cases entry with
  | connected address => exact .inl rfl
  | disconnected address => exact .inr (.inl rfl)
  | session address above exchange =>
      obtain ⟨method, req, outcome⟩ := exchange
      cases method <;> simp only [action, ref, parentRef]
      all_goals first | split_ifs <;> simp | simp
  | operation address above exchange =>
      obtain ⟨method, req, outcome⟩ := exchange
      cases method <;> simp only [action, ref, parentRef]
      all_goals first | split_ifs <;> simp | simp

theorem ref_of_subject? {entry : Entry} {ref : Ref} (subject : entry.action.subject? = some ref) :
    entry.ref = ref := by
  rcases entry.action_cases with opens | closes | ⟨above, _, uses⟩
  · simpa [opens, Action.subject?] using subject
  · simpa [closes, Action.subject?] using subject
  · simp [uses, Action.subject?] at subject

theorem of_opens {entry : Entry} {ref : Ref} {parent : Option Ref}
    (opens : entry.action = .opens ref parent) : entry.ref = ref ∧ entry.parentRef = parent := by
  rcases entry.action_cases with own | closes | ⟨above, _, uses⟩
  · simpa [opens, eq_comm] using own
  · simp [opens] at closes
  · simp [opens] at uses

end Entry

def trace (log : List Entry) : List (Action Ref) := log.map Entry.action

/-- What the trace says of an object and what its flag says. -/
structure Tracked (trace : List (Action Ref)) (address : Nat) (cell : Cell PyObject) : Prop where
  isOpen : cell.value.isOpen = true ↔ IsOpen trace (cell.value.ref address)
  dead : cell.count = 0 → cell.value.isOpen = false
  /-- Only operations are closed while they are alive. -/
  alive : cell.count ≠ 0 → Opened trace (cell.value.ref address) →
    cell.value.isOperation = false → cell.value.isOpen = true
  parent : ∀ above ∈ cell.value.parentRef, Opened trace above

structure Orderly (heap : Heap PyObject) (log : List Entry) : Prop where
  nested : Nested (trace log)
  tracked : ∀ i cell, heap[i]? = some cell → Tracked (trace log) i cell
  attributed : ∀ entry ∈ log, ∃ cell, heap[entry.ref.address]? = some cell ∧
    cell.value.ref entry.ref.address = entry.ref ∧ cell.value.parentRef = entry.parentRef

theorem orderly_nil : Orderly [] [] :=
  ⟨nested_nil, by simp, List.forall_mem_nil _⟩

/-- An action on another object changes nothing. -/
theorem Tracked.concat {before : List (Action Ref)} {address : Nat} {cell : Cell PyObject}
    (tracked : Tracked before address cell) {action : Action Ref}
    (other : action.subject? ≠ some (cell.value.ref address)) :
    Tracked (before ++ [action]) address cell where
  isOpen := tracked.isOpen.trans (isOpen_concat other).symm
  dead := tracked.dead
  alive := fun alive opened => tracked.alive alive ((opened_concat other).mp opened)
  parent := fun above holds => opened_append.mpr (.inl (tracked.parent above holds))

theorem nil_or_singleton {entries : List Entry} (single : entries.length ≤ 1) :
    entries = [] ∨ ∃ entry, entries = [entry] := by
  rcases Nat.le_one_iff_eq_zero_or_eq_one.mp single with none | one
  · exact .inl (List.length_eq_zero_iff.mp none)
  · exact .inr (List.length_eq_one_iff.mp one)

/-- One object changes, or is new, and at most one entry is made for it. -/
theorem Orderly.extend {heap heap' : Heap PyObject} {log : List Entry} (orderly : Orderly heap log)
    (i : Nat) (new : Cell PyObject) (others : ∀ j, j ≠ i → heap'[j]? = heap[j]?)
    (here : heap'[i]? = some new)
    (same : ∀ cell, heap[i]? = some cell →
      cell.value.ref i = new.value.ref i ∧ cell.value.parentRef = new.value.parentRef)
    {entries : List Entry} (single : entries.length ≤ 1)
    (allowed : ∀ entry ∈ entries, Allowed (trace log) entry.action)
    (own : ∀ entry ∈ entries, entry.ref = new.value.ref i ∧
      entry.parentRef = new.value.parentRef)
    (tracked : Tracked (trace (log ++ entries)) i new) : Orderly heap' (log ++ entries) where
  nested := by
    rcases nil_or_singleton single with rfl | ⟨entry, rfl⟩
    · simpa using orderly.nested
    · simpa [trace] using nested_concat orderly.nested (allowed entry (.head _))
  tracked := by
    intro j cell present
    by_cases moved : j = i
    · subst moved
      cases here.symm.trans present
      exact tracked
    · rw [others j moved] at present
      have old := orderly.tracked j cell present
      rcases nil_or_singleton single with rfl | ⟨entry, rfl⟩
      · simpa using old
      · suffices other : entry.action.subject? ≠ some (cell.value.ref j) by
          simpa [trace] using old.concat other
        intro subject
        have address := congrArg Ref.address
          ((Entry.ref_of_subject? subject).symm.trans (own entry (.head _)).1)
        simp only [PyObject.address_ref] at address
        exact moved address
  attributed := by
    intro entry member
    rcases List.mem_append.mp member with earlier | last
    · obtain ⟨cell, present, ref, above⟩ := orderly.attributed entry earlier
      by_cases moved : entry.ref.address = i
      · subst moved
        obtain ⟨sameRef, sameParent⟩ := same cell present
        exact ⟨new, here, sameRef.symm.trans ref, sameParent.symm.trans above⟩
      · exact ⟨cell, (others _ moved).trans present, ref, above⟩
    · obtain ⟨ref, above⟩ := own entry last
      have address : entry.ref.address = i := by rw [ref, PyObject.address_ref]
      exact ⟨new, by rw [address, here], by rw [address, ref], above.symm⟩

namespace Orderly

variable {heap : Heap PyObject} {log : List Entry} {i : Nat} {cell : Cell PyObject}

theorem recorded (orderly : Orderly heap log) {ref : Ref} {parent : Option Ref}
    (opens : .opens ref parent ∈ trace log) :
    ∃ cell, heap[ref.address]? = some cell ∧ cell.value.ref ref.address = ref ∧
      cell.value.parentRef = parent := by
  obtain ⟨entry, member, action⟩ := List.mem_map.mp opens
  obtain ⟨rfl, rfl⟩ := Entry.of_opens action
  exact orderly.attributed entry member

theorem closed_of_dead (orderly : Orderly heap log) {ref : Ref}
    (opened : Opened (trace log) ref)
    (dead : ∀ cell, heap[ref.address]? = some cell → cell.count = 0) :
    .closes ref ∈ trace log := by
  obtain ⟨parent, opens⟩ := opened
  obtain ⟨cell, present, own, _⟩ := orderly.recorded opens
  have tracked := orderly.tracked _ cell present
  by_contra notClosed
  have isOpen := tracked.isOpen.mpr (own.symm ▸ ⟨⟨parent, opens⟩, notClosed⟩)
  rw [tracked.dead (dead cell present)] at isOpen
  cases isOpen

theorem parent_recorded (orderly : Orderly heap log) (present : heap[i]? = some cell) {above : Ref}
    (holds : cell.value.parentRef = some above) :
    Opened (trace log) above ∧ ∃ owner, heap[above.address]? = some owner ∧
      owner.value.ref above.address = above := by
  obtain ⟨parent, opens⟩ := (orderly.tracked i cell present).parent above holds
  obtain ⟨owner, atParent, own, _⟩ := orderly.recorded opens
  exact ⟨⟨parent, opens⟩, owner, atParent, own⟩

/-- The parent of a live object is open. -/
theorem parent_isOpen (orderly : Orderly heap log) {refs : List Nat}
    (counted : Counted PyObject.parent refs heap) (present : heap[i]? = some cell)
    (alive : cell.count ≠ 0) {above : Ref} (holds : cell.value.parentRef = some above) :
    IsOpen (trace log) above := by
  obtain ⟨opened, owner, atParent, own⟩ := orderly.parent_recorded present holds
  obtain ⟨owner', atParent', ownerAlive⟩ :=
    counted.parent_alive present alive (by rw [PyObject.parent_eq, holds]; rfl)
  cases atParent.symm.trans atParent'
  have tracked := orderly.tracked _ owner atParent
  have isOpen := tracked.alive ownerAlive (own.symm ▸ opened)
    (PyObject.not_isOperation_of_parentRef (holds.trans (congrArg some own.symm)))
  exact own ▸ tracked.isOpen.mp isOpen

/-- An object that no live object refers to may be closed. -/
theorem allowed_closes (orderly : Orderly heap log) (present : heap[i]? = some cell)
    (isOpen : cell.value.isOpen = true)
    (childless : ∀ child ∈ heap, child.refersTo PyObject.parent i = false) :
    Allowed (trace log) (.closes (cell.value.ref i)) := by
  refine ⟨(orderly.tracked i cell present).isOpen.mp isOpen, fun child opens => ?_⟩
  refine orderly.closed_of_dead ⟨_, opens⟩ fun object atChild => ?_
  obtain ⟨object', atChild', _, inside⟩ := orderly.recorded opens
  cases atChild.symm.trans atChild'
  by_contra alive
  have refers := childless object (List.mem_of_getElem? atChild)
  simp [Cell.refersTo, PyObject.parent_eq, inside, alive] at refers

/-- Nothing is created under an operation. -/
theorem operation_childless (orderly : Orderly heap log) (present : heap[i]? = some cell)
    (kind : cell.value.isOperation = true) :
    ∀ child ∈ heap, child.refersTo PyObject.parent i = false := by
  intro child member
  obtain ⟨k, bound, rfl⟩ := List.getElem_of_mem member
  rw [Bool.eq_false_iff]
  intro refers
  simp only [Cell.refersTo, PyObject.parent_eq, Bool.and_eq_true, beq_iff_eq] at refers
  obtain ⟨above, holds, rfl⟩ := Option.map_eq_some_iff.mp refers.2
  obtain ⟨_, owner, atParent, own⟩ :=
    orderly.parent_recorded (List.getElem?_eq_getElem bound) holds
  cases present.symm.trans atParent
  have other := PyObject.not_isOperation_of_parentRef (holds.trans (congrArg some own.symm))
  exact Bool.false_ne_true (other.symm.trans kind)

theorem set (orderly : Orderly heap log) (present : heap[i]? = some cell) (new : Cell PyObject)
    (sameRef : new.value.ref i = cell.value.ref i)
    (sameParent : new.value.parentRef = cell.value.parentRef)
    (entries : List Entry) (single : entries.length ≤ 1)
    (allowed : ∀ entry ∈ entries, Allowed (trace log) entry.action)
    (own : ∀ entry ∈ entries, entry.ref = cell.value.ref i ∧
      entry.parentRef = cell.value.parentRef)
    (tracked : Tracked (trace (log ++ entries)) i new) :
    Orderly (heap.set i new) (log ++ entries) := by
  obtain ⟨bound, _⟩ := List.getElem?_eq_some_iff.mp present
  refine orderly.extend i new (fun j other => List.getElem?_set_ne (Ne.symm other))
    (List.getElem?_set_self bound) ?_ single allowed ?_ tracked
  · intro old atOld
    cases present.symm.trans atOld
    exact ⟨sameRef.symm, sameParent.symm⟩
  · rw [sameRef, sameParent]
    exact own

/-- Counts change between nonzero values. -/
theorem recount (orderly : Orderly heap log) (present : heap[i]? = some cell) {count : Nat}
    (before : cell.count ≠ 0) (after : count ≠ 0) :
    Orderly (heap.set i { cell with count := count }) log := by
  have tracked := orderly.tracked i cell present
  rw [← List.append_nil log] at tracked ⊢
  exact orderly.set present { cell with count := count } rfl rfl [] (Nat.zero_le 1) (by simp)
    (by simp) ⟨tracked.isOpen, fun dead => absurd dead after, fun _ => tracked.alive before,
      tracked.parent⟩

end Orderly

/-! ## Deallocation -/

/-- What `__dealloc__` does: an object that is open sends its closing request, and none is open
afterwards. -/
structure Deallocates (object : PyObject) (address : Nat) (after : PyObject × List Entry) :
    Prop where
  ref : after.1.ref address = object.ref address
  parent : after.1.parentRef = object.parentRef
  isClosed : after.1.isOpen = false
  silent : object.isOpen = false → after.2 = []
  closes : object.isOpen = true → ∃ entry, after.2 = [entry] ∧
    entry.ref = object.ref address ∧ entry.parentRef = object.parentRef ∧
      entry.action = .closes (object.ref address)

theorem deallocates_closed {object : PyObject} (address : Nat) (closed : object.isOpen = false) :
    Deallocates object address (object, []) where
  ref := rfl
  parent := rfl
  isClosed := closed
  silent := fun _ => rfl
  closes := fun isOpen => absurd (closed.symm.trans isOpen) Bool.false_ne_true

theorem deallocates_open {object after : PyObject} {address : Nat} {entry : Entry}
    (isOpen : object.isOpen = true) (isClosed : after.isOpen = false)
    (ref : after.ref address = object.ref address) (parent : after.parentRef = object.parentRef)
    (own : entry.ref = object.ref address) (above : entry.parentRef = object.parentRef)
    (closes : entry.action = .closes (object.ref address)) :
    Deallocates object address (after, [entry]) where
  ref := ref
  parent := parent
  isClosed := isClosed
  silent := fun closed => absurd (closed.symm.trans isOpen) Bool.false_ne_true
  closes := fun _ => ⟨entry, rfl, own, above, closes⟩

section Dealloc

variable {respond : Responder}
  (closeOperation : ∀ req, (respond .closeOperation req).isSuccess = true)
  (closeSession : ∀ req, (respond .closeSession req).isSuccess = true)

include closeSession in
theorem deallocates_session (parent : Nat) (session : Session) (address : Nat) :
    Deallocates (.session parent (some session)) address
      ((PyObject.session parent (some session)).dealloc respond address) := by
  rcases session.close_cases with ⟨closed, done⟩ | ⟨resume, request⟩
  · have unchanged : (PyObject.session parent (some session)).dealloc respond address =
        (.session parent (some session), []) := by
      simp [PyObject.dealloc, Py.closeSession, done]
    rw [unchanged]
    exact deallocates_closed address closed
  · have sent : (PyObject.session parent (some session)).dealloc respond address =
        (.session parent (some { session with open_ := false }),
          [.session address parent ⟨.closeSession, ⟨session.handle⟩,
            respond .closeSession ⟨session.handle⟩⟩]) := by
      simp [PyObject.dealloc, Py.closeSession, request.rpc_eq, request.after, closeSession]
    rw [sent]
    exact deallocates_open request.isOpen rfl rfl rfl rfl rfl rfl

include closeOperation in
theorem deallocates_operation (parent : Nat) (op : Operation) (address : Nat) :
    Deallocates (.operation parent (some op)) address
      ((PyObject.operation parent (some op)).dealloc respond address) := by
  rcases op.close_cases with ⟨closed, done⟩ | ⟨resume, request⟩
  · have unchanged : (PyObject.operation parent (some op)).dealloc respond address =
        (.operation parent (some op), []) := by
      simp [PyObject.dealloc, callOperation, OperationCall.rpc, done]
    rw [unchanged]
    exact deallocates_closed address closed
  · have sent : (PyObject.operation parent (some op)).dealloc respond address =
        (.operation parent (some { op with open_ := false }),
          [.operation address parent ⟨.closeOperation, ⟨op.handle⟩,
            respond .closeOperation ⟨op.handle⟩⟩]) := by
      simp [PyObject.dealloc, callOperation, OperationCall.rpc, request.rpc_eq,
        request.after, closeOperation]
    rw [sent]
    exact deallocates_open request.isOpen rfl rfl rfl rfl rfl rfl

include closeOperation closeSession in
theorem deallocates (object : PyObject) (address : Nat) :
    Deallocates object address (object.dealloc respond address) := by
  cases object with
  | service user owned =>
      rcases owned with _ | ⟨_ | _⟩
      · exact deallocates_closed address rfl
      · exact deallocates_closed address rfl
      · exact deallocates_open rfl rfl rfl rfl rfl rfl rfl
  | session parent owned =>
      cases owned with
      | none => exact deallocates_closed address rfl
      | some session => exact deallocates_session closeSession parent session address
  | operation parent owned =>
      cases owned with
      | none => exact deallocates_closed address rfl
      | some op => exact deallocates_operation closeOperation parent op address

include closeOperation closeSession in
theorem Orderly.dealloc {heap : Heap PyObject} {log : List Entry} (orderly : Orderly heap log)
    {i : Nat} {cell : Cell PyObject} (present : heap[i]? = some cell)
    (childless : ∀ child ∈ heap, child.refersTo PyObject.parent i = false) :
    Orderly (heap.set i ⟨0, (cell.value.dealloc respond i).1⟩)
      (log ++ (cell.value.dealloc respond i).2) := by
  have after := deallocates closeOperation closeSession cell.value i
  have tracked := orderly.tracked i cell present
  generalize cell.value.dealloc respond i = left at after ⊢
  cases isOpen : cell.value.isOpen with
  | false =>
      have silent := after.silent isOpen
      refine orderly.set present ⟨0, left.1⟩ after.ref after.parent left.2 (by simp [silent])
        (by simp [silent]) (by simp [silent])
        ⟨?_, fun _ => after.isClosed, fun alive => absurd rfl alive, ?_⟩
      · rw [after.isClosed, after.ref, silent, List.append_nil, ← tracked.isOpen, isOpen]
      · rw [after.parent, silent, List.append_nil]
        exact tracked.parent
  | true =>
      obtain ⟨entry, sent, ref, above, closes⟩ := after.closes isOpen
      have allowed := orderly.allowed_closes present isOpen childless
      have extended : trace (log ++ left.2) = trace log ++ [.closes (cell.value.ref i)] := by
        simp [trace, sent, closes]
      refine orderly.set present ⟨0, left.1⟩ after.ref after.parent left.2 (by simp [sent]) ?_ ?_
        ⟨?_, fun _ => after.isClosed, fun alive => absurd rfl alive, ?_⟩
      · simpa [sent, closes] using allowed
      · simp [sent, ref, above]
      · simp [extended, after.isClosed, after.ref, not_isOpen_closes]
      · rw [after.parent, extended]
        exact fun holder holds => opened_append.mpr (.inl (tracked.parent holder holds))

include closeOperation closeSession in
theorem decref_keeps {interpreter : Interpreter} {i : Nat} {refs : List Nat}
    (counted : Counted PyObject.parent (i :: refs) interpreter.heap)
    (orderly : Orderly interpreter.heap interpreter.log) :
    Counted PyObject.parent refs (interpreter.decref respond i).heap ∧
      Orderly (interpreter.decref respond i).heap (interpreter.decref respond i).log := by
  refine release_invariant Orderly ?_ ?_ ?_ (Nat.lt_succ_self i) counted orderly
  · intro address object
    have after := deallocates closeOperation closeSession object address
    rw [PyObject.parent_eq, PyObject.parent_eq, after.parent]
  · intro heap log address cell orderly present shared
    exact orderly.recount present (by omega) (by omega)
  · intro heap log address cell orderly present _ childless
    exact orderly.dealloc closeOperation closeSession present childless

end Dealloc

end HS2Client.Py
