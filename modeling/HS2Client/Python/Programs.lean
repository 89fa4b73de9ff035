import HS2Client.Python.Lifetimes

/-!
# Programs

Every command of a program keeps the reference counts right and the log a trace of nested
lifetimes. A program gets hold of an object only when it was opened, and of a service or a
session only while it is open.
-/

namespace HS2Client.Py

open Nesting RefCounting Runs

/-- A method of an operation: it sends nothing, makes some use of the session, or closes an
operation that is open. -/
theorem callOperation_cases {respond : Responder}
    (closeOperation : ∀ req, (respond .closeOperation req).isSuccess = true)
    (address parent : Nat) (call : OperationCall) (owned : Option Operation) :
    ∃ called entries, callOperation respond address parent call owned = (called, entries) ∧
      (∀ entry ∈ entries, entry.ref = .operation address ∧
        entry.parentRef = some (.session parent)) ∧
      ((entries = [] ∧ called.any Operation.open_ = owned.any Operation.open_) ∨
        (∃ entry, entries = [entry] ∧ entry.action = .uses (.session parent) ∧
          called.any Operation.open_ = owned.any Operation.open_) ∨
        ∃ entry, entries = [entry] ∧ entry.action = .closes (.operation address) ∧
          owned.any Operation.open_ = true ∧ called.any Operation.open_ = false) := by
  cases owned with
  | none => exact ⟨none, [], rfl, List.forall_mem_nil _, .inl ⟨rfl, rfl⟩⟩
  | some op =>
      rcases OperationCall.cases op call with ⟨_, _, done⟩ | ⟨method, req, resume, request⟩
      · refine ⟨some op, [], ?_, List.forall_mem_nil _, .inl ⟨rfl, rfl⟩⟩
        simp [callOperation, done]
      · refine ⟨some (resume (respond method req)).2,
          [.operation address parent ⟨method, req, respond method req⟩], ?_, ?_, .inr ?_⟩
        · simp [callOperation, request.rpc_eq]
        · simp [Entry.ref, Entry.parentRef]
        · have after := request.after (respond method req)
          by_cases closing : call = .close
          · obtain rfl := request.closes.mpr (by simp [closing])
            refine .inr ⟨_, rfl, rfl, request.isOpen (by simp [closing]), ?_⟩
            simp [after, closing, closeOperation]
          · refine .inl ⟨_, rfl, ?_, by simp [after, closing]⟩
            have keeps : method ≠ .closeOperation := fun same => by
              simpa [closing] using request.closes.mp same
            have handle := request.handle
            cases method with
            | executeStatement => cases handle
            | closeOperation => exact absurd rfl keeps
            | _ => rfl

theorem isSome_openedSession? (req : TOpenSessionReq) (outcome : Outcome .openSession) :
    (Exchange.openedSession? ⟨.openSession, req, outcome⟩).isSome = outcome.isSuccess := by
  rcases outcome with what | (resp : TOpenSessionResp)
  · rfl
  · cases success : resp.status.isSuccess <;>
      simp [Exchange.openedSession?, Outcome.isSuccess, Method.status, success]

theorem isSome_openedOperation? (req : TExecuteStatementReq) (outcome : Outcome .executeStatement) :
    (Exchange.openedOperation? ⟨.executeStatement, req, outcome⟩).isSome = outcome.isSuccess := by
  rcases outcome with what | (resp : TExecuteStatementResp)
  · rfl
  · cases success : resp.status.isSuccess <;>
      simp [Exchange.openedOperation?, Outcome.isSuccess, Method.status, success]

structure Interpreter.Consistent (interpreter : Interpreter) : Prop where
  counted : Counted PyObject.parent interpreter.references interpreter.heap
  orderly : Orderly interpreter.heap interpreter.log
  /-- The program gets references to objects that were opened successfully only. -/
  opened : ∀ i ∈ interpreter.references, ∃ ref : Ref, ref.address = i ∧
    Opened (trace interpreter.log) ref

theorem opened_log {log : List Entry} {ref : Ref} (opened : Opened (trace log) ref)
    (entries : List Entry) : Opened (trace (log ++ entries)) ref := by
  rw [trace, List.map_append]
  exact opened_append.mpr (.inl opened)

/-- A new object is open when its entry says so, and has no other entry that closes it. -/
structure Allocates (object : PyObject) (address : Nat) (entries : List Entry) : Prop where
  single : entries.length ≤ 1
  own : ∀ entry ∈ entries, entry.ref = object.ref address ∧ entry.parentRef = object.parentRef
  notClosing : ∀ entry ∈ entries, entry.action ≠ .closes (object.ref address)
  isOpen : object.isOpen = true ↔
    .opens (object.ref address) object.parentRef ∈ entries.map Entry.action

namespace Allocates

variable {object : PyObject} {address : Nat} {entries : List Entry}

theorem cases (allocates : Allocates object address entries) :
    (object.isOpen = false ∧ entries = []) ∨
    (object.isOpen = true ∧ ∃ entry, entries = [entry] ∧
      entry.action = .opens (object.ref address) object.parentRef) ∨
    ∃ entry above, object.isOpen = false ∧ entries = [entry] ∧ object.parentRef = some above ∧
      entry.action = .uses above := by
  have isOpen := allocates.isOpen
  rcases nil_or_singleton allocates.single with rfl | ⟨entry, rfl⟩
  · exact .inl ⟨by simpa using isOpen, rfl⟩
  · obtain ⟨ref, above⟩ := allocates.own entry (.head _)
    rcases entry.action_cases with opens | closes | ⟨holder, holds, uses⟩
    · rw [ref, above] at opens
      exact .inr (.inl ⟨isOpen.mpr (by simp [opens]), entry, rfl, opens⟩)
    · exact absurd (ref ▸ closes) (allocates.notClosing entry (.head _))
    · have shut : object.isOpen = false := by simpa [uses] using isOpen
      exact .inr (.inr ⟨entry, holder, shut, rfl, above ▸ holds, uses⟩)

theorem orderly {heap : Heap PyObject} {log : List Entry} (orderly : Orderly heap log)
    (allocates : Allocates object heap.length entries)
    (inside : ∀ above ∈ object.parentRef, IsOpen (trace log) above) :
    Orderly (heap ++ [⟨1, object⟩]) (log ++ entries) := by
  have fresh : ¬ Opened (trace log) (object.ref heap.length) := by
    rintro ⟨parent, opens⟩
    obtain ⟨cell, present, _⟩ := orderly.recorded opens
    simp at present
  have parent : ∀ above ∈ object.parentRef, Opened (trace (log ++ entries)) above :=
    fun above holds => opened_log (inside above holds).1 entries
  refine orderly.extend heap.length ⟨1, object⟩ (fun j other => ?_) (by simp) (by simp)
    allocates.single ?_ allocates.own ?_
  · rcases Nat.lt_or_gt_of_ne other with old | outside
    · exact List.getElem?_append_left old
    · rw [List.getElem?_eq_none (by simp; omega), List.getElem?_eq_none (by omega)]
  · rcases allocates.cases with ⟨_, rfl⟩ | ⟨_, entry, rfl, opens⟩ | ⟨entry, above, _, rfl, holds, uses⟩
    · simp
    · simpa [opens] using ⟨fresh, inside⟩
    · simp only [List.mem_singleton, forall_eq, uses]
      exact inside above holds
  · rcases allocates.cases with ⟨shut, rfl⟩ | ⟨isOpen, entry, rfl, opens⟩ |
      ⟨entry, above, shut, rfl, holds, uses⟩
    · rw [List.append_nil] at parent ⊢
      exact ⟨by simpa [shut] using fun isOpen => fresh isOpen.1, fun dead => absurd dead (by simp),
        fun _ opened => absurd opened fresh, parent⟩
    · have opened : trace (log ++ [entry]) =
          trace log ++ [.opens (object.ref heap.length) object.parentRef] := by
        simp [trace, opens]
      refine ⟨?_, fun dead => absurd dead (by simp), fun _ _ _ => isOpen, parent⟩
      simpa [isOpen, opened] using orderly.nested.isOpen_opens fresh
    · have used : trace (log ++ [entry]) = trace log ++ [.uses above] := by simp [trace, uses]
      have still : ¬ Opened (trace (log ++ [entry])) (object.ref heap.length) := by
        rw [used, opened_concat (by simp [Action.subject?])]
        exact fresh
      exact ⟨by simpa [shut] using fun isOpen => still isOpen.1, fun dead => absurd dead (by simp),
        fun _ opened => absurd opened still, parent⟩

/-- The object is dropped before it sends anything. -/
theorem silent (shut : object.isOpen = false) : Allocates object address [] :=
  ⟨Nat.zero_le 1, List.forall_mem_nil _, List.forall_mem_nil _, by simp [shut]⟩

theorem connected (user : Bytes) (address : Nat) :
    Allocates (.service user (some ⟨true⟩)) address [.connected address] where
  single := Nat.le_refl 1
  own := by simp [Entry.ref, Entry.parentRef, PyObject.ref, PyObject.parentRef]
  notClosing := by simp [Entry.action]
  isOpen := by simp [PyObject.isOpen, Entry.action, PyObject.ref, PyObject.parentRef]

theorem session {session : Session} {outcome : Outcome .openSession} (address service : Nat)
    (req : TOpenSessionReq) (flag : session.open_ = outcome.isSuccess) :
    Allocates (.session service (some session)) address
      [.session address service ⟨.openSession, req, outcome⟩] where
  single := Nat.le_refl 1
  own := by simp [Entry.ref, Entry.parentRef, PyObject.ref, PyObject.parentRef]
  notClosing := by
    cases success : outcome.isSuccess <;> simp [Entry.action, Exchange.succeeds, success]
  isOpen := by
    cases success : outcome.isSuccess <;>
      simp [PyObject.isOpen, flag, Entry.action, Exchange.succeeds, success, PyObject.ref,
        PyObject.parentRef]

theorem operation {op : Operation} {outcome : Outcome .executeStatement} (address session : Nat)
    (req : TExecuteStatementReq) (flag : op.open_ = outcome.isSuccess) :
    Allocates (.operation session (some op)) address
      [.operation address session ⟨.executeStatement, req, outcome⟩] where
  single := Nat.le_refl 1
  own := by simp [Entry.ref, Entry.parentRef, PyObject.ref, PyObject.parentRef]
  notClosing := by
    cases success : outcome.isSuccess <;> simp [Entry.action, Exchange.succeeds, success]
  isOpen := by
    cases success : outcome.isSuccess <;>
      simp [PyObject.isOpen, flag, Entry.action, Exchange.succeeds, success, PyObject.ref,
        PyObject.parentRef]

end Allocates

namespace Interpreter

variable {interpreter : Interpreter}

theorem object?_eq_some {i : Nat} {cell : Cell PyObject}
    (found : interpreter.object? i = some cell) :
    i ∈ interpreter.references ∧ interpreter.heap[i]? = some cell := by
  rw [object?] at found
  split_ifs at found with held
  exact ⟨held, found⟩

namespace Consistent

theorem alive (consistent : interpreter.Consistent) {i : Nat} {cell : Cell PyObject}
    (found : interpreter.object? i = some cell) : cell.count ≠ 0 := by
  obtain ⟨held, present⟩ := object?_eq_some found
  obtain ⟨cell', present', alive⟩ := consistent.counted.reference_alive held
  cases present.symm.trans present'
  exact alive

theorem opened_ref (consistent : interpreter.Consistent) {i : Nat} {cell : Cell PyObject}
    (found : interpreter.object? i = some cell) :
    Opened (trace interpreter.log) (cell.value.ref i) := by
  obtain ⟨held, present⟩ := object?_eq_some found
  obtain ⟨ref, rfl, parent, opens⟩ := consistent.opened i held
  obtain ⟨cell', present', own, _⟩ := consistent.orderly.recorded opens
  cases present.symm.trans present'
  exact own.symm ▸ ⟨parent, opens⟩

/-- A service or session that the program refers to is open. -/
theorem isOpen (consistent : interpreter.Consistent) {i : Nat} {cell : Cell PyObject}
    (found : interpreter.object? i = some cell) (kind : cell.value.isOperation = false) :
    IsOpen (trace interpreter.log) (cell.value.ref i) := by
  have tracked := consistent.orderly.tracked i cell (object?_eq_some found).2
  exact tracked.isOpen.mp (tracked.alive (consistent.alive found) (consistent.opened_ref found) kind)

/-- `Py_INCREF` of a live object. -/
theorem acquire (consistent : interpreter.Consistent) {i : Nat} {cell : Cell PyObject}
    (present : interpreter.heap[i]? = some cell) (alive : cell.count ≠ 0) :
    Counted PyObject.parent (i :: interpreter.references) (interpreter.heap.acquire i) ∧
      Orderly (interpreter.heap.acquire i) interpreter.log := by
  rw [Heap.acquire, present]
  exact ⟨consistent.counted.acquire present alive,
    consistent.orderly.recount present alive (Nat.succ_ne_zero _)⟩

theorem give (consistent : interpreter.Consistent) {i : Nat} {cell : Cell PyObject}
    (present : interpreter.heap[i]? = some cell) (alive : cell.count ≠ 0)
    (opened : Opened (trace interpreter.log) (cell.value.ref i)) :
    ((interpreter.acquire i).give i).Consistent := by
  obtain ⟨counted, orderly⟩ := consistent.acquire present alive
  refine ⟨counted, orderly, fun j held => ?_⟩
  rcases List.mem_cons.mp held with rfl | earlier
  · exact ⟨_, PyObject.address_ref _ _, opened⟩
  · exact consistent.opened j earlier

/-- The program can take the parent of an object it holds. -/
theorem give_parent (consistent : interpreter.Consistent) {object parent : Nat}
    {cell : Cell PyObject} (found : interpreter.object? object = some cell)
    (holds : cell.value.parent = some parent) :
    ((interpreter.acquire parent).give parent).Consistent := by
  obtain ⟨_, present⟩ := object?_eq_some found
  obtain ⟨above, atParent, alive⟩ :=
    consistent.counted.parent_alive present (consistent.alive found) holds
  rw [PyObject.parent_eq] at holds
  obtain ⟨ref, holder, rfl⟩ := Option.map_eq_some_iff.mp holds
  obtain ⟨opened, owner, atParent', own⟩ := consistent.orderly.parent_recorded present holder
  cases atParent.symm.trans atParent'
  exact consistent.give atParent alive (own.symm ▸ opened)

theorem allocate (consistent : interpreter.Consistent) {object : PyObject} {entries : List Entry}
    (allocates : Allocates object interpreter.heap.length entries)
    (held : ∀ above ∈ object.parentRef, ∃ cell, interpreter.object? above.address = some cell ∧
      cell.value.ref above.address = above) :
    Counted PyObject.parent (interpreter.heap.length :: interpreter.references)
        (interpreter.allocate object entries).heap ∧
      Orderly (interpreter.allocate object entries).heap
        (interpreter.allocate object entries).log := by
  cases above : object.parentRef with
  | none =>
      have parent : object.parent = none := by rw [PyObject.parent_eq, above]; rfl
      simp only [Interpreter.allocate, parent]
      refine ⟨Counted.create (by simpa [parent] using consistent.counted),
        allocates.orderly consistent.orderly (by simp [above])⟩
  | some ref =>
      obtain ⟨cell, found, own⟩ := held ref above
      obtain ⟨_, present⟩ := object?_eq_some found
      have parent : object.parent = some ref.address := by rw [PyObject.parent_eq, above]; rfl
      have kind := PyObject.not_isOperation_of_parentRef (above.trans (congrArg some own.symm))
      obtain ⟨counted, orderly⟩ := consistent.acquire present (consistent.alive found)
      have length : (interpreter.heap.acquire ref.address).length = interpreter.heap.length := by
        simp [Heap.acquire, present]
      simp only [Interpreter.allocate, parent]
      rw [← length] at allocates ⊢
      refine ⟨Counted.create (by simpa [parent] using counted),
        allocates.orderly orderly fun holder holds => ?_⟩
      cases above.symm.trans holds
      exact own ▸ consistent.isOpen found kind

end Consistent

section Finish

variable {respond : Responder}
  (closeOperation : ∀ req, (respond .closeOperation req).isSuccess = true)
  (closeSession : ∀ req, (respond .closeSession req).isSuccess = true)

include closeOperation closeSession in
theorem consistent_decref {i : Nat}
    (counted : Counted PyObject.parent (i :: interpreter.references) interpreter.heap)
    (orderly : Orderly interpreter.heap interpreter.log)
    (opened : ∀ i ∈ interpreter.references, ∃ ref : Ref, ref.address = i ∧
      Opened (trace interpreter.log) ref) :
    (interpreter.decref respond i).Consistent := by
  obtain ⟨counted, orderly⟩ := decref_keeps closeOperation closeSession counted orderly
  refine ⟨counted, orderly, fun j held => ?_⟩
  obtain ⟨ref, address, before⟩ := opened j held
  exact ⟨ref, address, opened_log before _⟩

include closeOperation closeSession in
/-- A constructor call, whether it returns or raises. -/
theorem Consistent.finish (consistent : interpreter.Consistent) (object : PyObject)
    (entries : List Entry) (allocates : Allocates object interpreter.heap.length entries)
    (held : ∀ above ∈ object.parentRef, ∃ cell, interpreter.object? above.address = some cell ∧
      cell.value.ref above.address = above) :
    ((interpreter.allocate object entries).finish respond interpreter.heap.length
      object.isOpen).Consistent := by
  obtain ⟨counted, orderly⟩ := consistent.allocate allocates held
  have opened : ∀ i ∈ interpreter.references, ∃ ref : Ref, ref.address = i ∧
      Opened (trace (interpreter.allocate object entries).log) ref := fun i held => by
    obtain ⟨ref, address, before⟩ := consistent.opened i held
    exact ⟨ref, address, opened_log before entries⟩
  cases isOpen : object.isOpen with
  | false => exact consistent_decref closeOperation closeSession counted orderly opened
  | true =>
      refine ⟨counted, orderly, fun i held => ?_⟩
      rcases List.mem_cons.mp held with rfl | earlier
      · refine ⟨_, PyObject.address_ref _ object, object.parentRef, ?_⟩
        simpa [Interpreter.finish, Interpreter.give, Interpreter.allocate, trace] using
          Or.inr (List.mem_map.mp (allocates.isOpen.mp isOpen))
      · exact opened i earlier

include closeOperation closeSession in
theorem Consistent.connect (consistent : interpreter.Consistent) (user : Bytes)
    (connecting : Connecting) : (interpreter.connect respond user connecting).Consistent := by
  cases connecting with
  | notImplemented =>
      exact consistent.finish closeOperation closeSession (.service user none) []
        (.silent rfl) nofun
  | refused =>
      exact consistent.finish closeOperation closeSession (.service user (some ⟨false⟩)) []
        (.silent rfl) nofun
  | connected =>
      exact consistent.finish closeOperation closeSession (.service user (some ⟨true⟩))
        [.connected interpreter.heap.length] (.connected user _) nofun

include closeOperation closeSession in
theorem Consistent.openSession (consistent : interpreter.Consistent) {service count : Nat}
    {user : Bytes} {owned : Option Service}
    (found : interpreter.object? service = some ⟨count, .service user owned⟩) :
    (interpreter.openSession respond service user).Consistent := by
  obtain ⟨resume, opens⟩ := Session.opens [] user
  let req : TOpenSessionReq := { username := user, configuration := [] }
  have flag : (resume (respond .openSession req)).2.open_ =
      (respond .openSession req).isSuccess :=
    (opens.flag _ req).trans (isSome_openedSession? req _)
  have finished := consistent.finish closeOperation closeSession
    (.session service (some (resume (respond .openSession req)).2)) _
    (.session interpreter.heap.length service req flag) ?_
  · have ok := (opens.ok (respond .openSession req)).trans flag.symm
    rw [Interpreter.openSession, opens.rpc_eq]
    show (Interpreter.finish respond _ _ (resume (respond .openSession req)).1.ok).Consistent
    rw [ok]
    exact finished
  · intro above holds
    cases holds
    exact ⟨_, found, rfl⟩

include closeOperation closeSession in
theorem Consistent.execute (consistent : interpreter.Consistent) {parent count above : Nat}
    {session : Session}
    (found : interpreter.object? parent = some ⟨count, .session above (some session)⟩)
    (statement : Option Bytes) :
    (interpreter.execute respond parent session statement).Consistent := by
  have held : ∀ owned, ∀ above ∈ (PyObject.operation parent owned).parentRef, ∃ cell,
      interpreter.object? above.address = some cell ∧ cell.value.ref above.address = above := by
    intro owned above holds
    cases holds
    exact ⟨_, found, rfl⟩
  cases statement with
  | none =>
      exact consistent.finish closeOperation closeSession (.operation parent none) []
        (.silent rfl) (held none)
  | some statement =>
      obtain ⟨resume, opens⟩ := session.executes statement []
      let req : TExecuteStatementReq :=
        { sessionHandle := session.handle, statement := statement, confOverlay := [] }
      have flag : (resume (respond .executeStatement req)).2.open_ =
          (respond .executeStatement req).isSuccess :=
        (opens.flag _ req).trans (isSome_openedOperation? req _)
      have ok := (opens.ok (respond .executeStatement req)).trans flag.symm
      have finished := consistent.finish closeOperation closeSession
        (.operation parent (some (resume (respond .executeStatement req)).2)) _
        (.operation interpreter.heap.length parent req flag) (held _)
      rw [Interpreter.execute, opens.rpc_eq]
      show (Interpreter.finish respond _ _ (resume (respond .executeStatement req)).1.ok).Consistent
      rw [ok]
      exact finished

include closeOperation in
theorem Consistent.call (consistent : interpreter.Consistent) {address count parent : Nat}
    {owned : Option Operation}
    (found : interpreter.object? address = some ⟨count, .operation parent owned⟩)
    (call : OperationCall) :
    (interpreter.call respond address count parent owned call).Consistent := by
  obtain ⟨_, present⟩ := object?_eq_some found
  have alive := consistent.alive found
  have tracked := consistent.orderly.tracked address _ present
  obtain ⟨called, entries, called_eq, own, cases⟩ :=
    callOperation_cases closeOperation address parent call owned
  simp only [Interpreter.call, called_eq]
  refine ⟨consistent.counted.update present rfl, ?_, fun i held => ?_⟩
  · have parents : ∀ above ∈ (PyObject.operation parent called).parentRef,
        Opened (trace (interpreter.log ++ entries)) above := fun above holds =>
      opened_log (tracked.parent above holds) entries
    rcases cases with ⟨rfl, flag⟩ | ⟨entry, rfl, uses, flag⟩ | ⟨entry, rfl, closes, isOpen, shut⟩
    · refine consistent.orderly.set present ⟨count, .operation parent called⟩ rfl rfl []
        (Nat.zero_le 1) (List.forall_mem_nil _) own ⟨?_, fun dead => absurd dead alive, nofun, parents⟩
      rw [List.append_nil]
      exact (Bool.eq_iff_iff.mp flag).trans tracked.isOpen
    · refine consistent.orderly.set present ⟨count, .operation parent called⟩ rfl rfl [entry]
        (Nat.le_refl 1) ?_ own ⟨?_, fun dead => absurd dead alive, nofun, parents⟩
      · simp only [List.mem_singleton, forall_eq, uses]
        exact consistent.orderly.parent_isOpen consistent.counted present alive rfl
      · have used : trace (interpreter.log ++ [entry]) =
            trace interpreter.log ++ [.uses (.session parent)] := by simp [trace, uses]
        rw [used, isOpen_concat (by simp [Action.subject?])]
        exact (Bool.eq_iff_iff.mp flag).trans tracked.isOpen
    · refine consistent.orderly.set present ⟨count, .operation parent called⟩ rfl rfl [entry]
        (Nat.le_refl 1) ?_ own ⟨?_, fun _ => shut, nofun, parents⟩
      · simp only [List.mem_singleton, forall_eq, closes]
        exact consistent.orderly.allowed_closes present isOpen
          (consistent.orderly.operation_childless present rfl)
      · have closed : trace (interpreter.log ++ [entry]) =
            trace interpreter.log ++ [.closes (.operation address)] := by simp [trace, closes]
        rw [closed]
        exact iff_of_false (by simp [PyObject.isOpen, shut]) not_isOpen_closes
  · obtain ⟨ref, address, opened⟩ := consistent.opened i held
    exact ⟨ref, address, opened_log opened entries⟩

end Finish

theorem Consistent.step (consistent : interpreter.Consistent) (step : ProgramStep) :
    (interpreter.step step).Consistent := by
  obtain ⟨command, respond, closeOperation, closeSession⟩ := step
  cases command with
  | connect user connecting =>
      exact consistent.connect closeOperation closeSession user connecting
  | openSession service =>
      simp only [Interpreter.step, Interpreter.obey]
      split
      · rename_i found
        exact consistent.openSession closeOperation closeSession found
      · exact consistent
  | execute session statement =>
      simp only [Interpreter.step, Interpreter.obey]
      split
      · rename_i found
        exact consistent.execute closeOperation closeSession found statement
      · exact consistent
  | call operation call =>
      simp only [Interpreter.step, Interpreter.obey]
      split
      · rename_i found
        exact consistent.call closeOperation found call
      · exact consistent
  | copy object =>
      simp only [Interpreter.step, Interpreter.obey]
      split
      · rename_i found
        exact consistent.give (object?_eq_some found).2 (consistent.alive found)
          (consistent.opened_ref found)
      · exact consistent
  | parent object =>
      simp only [Interpreter.step, Interpreter.obey]
      split
      · rename_i parent found
        obtain ⟨cell, found, holds⟩ := Option.bind_eq_some_iff.mp found
        exact consistent.give_parent found holds
      · exact consistent
  | drop object =>
      simp only [Interpreter.step, Interpreter.obey]
      split
      · rename_i found
        obtain ⟨held, _⟩ := object?_eq_some found
        exact consistent_decref closeOperation closeSession
          (consistent.counted.perm (List.perm_cons_erase held)) consistent.orderly fun i kept =>
            consistent.opened i (List.mem_of_mem_erase kept)
      · exact consistent

theorem consistent_run (program : List ProgramStep) :
    (run Interpreter.step {} program).Consistent := by
  have conforms : AllSteps Interpreter.step (fun _ _ => True) {} program :=
    allSteps_of_forall (fun _ _ => trivial) _ _
  apply run_invariant Interpreter.Consistent _ _ conforms
  · exact fun _ step consistent _ => consistent.step step
  · exact ⟨counted_nil _, orderly_nil, by simp⟩

end Interpreter

end HS2Client.Py
