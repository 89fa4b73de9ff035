import HS2Client.Python.Representation

/-!
# Reclaiming the extension types

References never lead to an object that is dead or lacks its C++ object, and what is dead stays
as it is, with no request made for it any more. An object that was deallocated is still open
only if its own last request was a close that failed.
-/

namespace HS2Client

/-- A request to close that did not succeed. -/
def Exchange.failsToClose (exchange : Exchange) : Bool :=
  (exchange.method = .closeSession || exchange.method = .closeOperation) && !exchange.succeeds

end HS2Client

namespace HS2Client.Py

open Leases RefCounting Runs

/-! ## The dead -/

theorem Moves.dead {respond : Responder} {heap heap' : Heap PyObject} {log log' : List Entry}
    (moves : Moves respond heap log heap' log') {i : Nat} {cell : Cell PyObject}
    (present : heap[i]? = some cell) (dead : cell.count = 0) :
    heap'[i]? = some cell ∧ history i log' = history i log := by
  induction moves with
  | start => exact ⟨present, rfl⟩
  | @touch _ _ address _ _ _ _ _ touches ih =>
      have other : i ≠ address := by
        rintro rfl
        cases ih.1.symm.trans touches.present
        exact touches.alive dead
      rw [List.getElem?_set_ne other.symm, history_append,
        touches.touched.own.history_of_ne other, List.append_nil]
      exact ih
  | create _ created ih =>
      have old := (List.getElem?_eq_some_iff.mp ih.1).1
      rw [List.getElem?_append_left old, history_append,
        created.own.history_of_ne (Nat.ne_of_lt old), List.append_nil]
      exact ih

namespace Interpreter

/-- What a program can rely on, now and after more instructions. -/
structure Safe (interpreter after : Interpreter) : Prop where
  referred : ∀ i ∈ interpreter.references, ∃ cell : Cell PyObject,
    interpreter.heap[i]? = some cell ∧ cell.count ≠ 0 ∧ cell.value.owns = true
  parents : ∀ (i p : Nat) (cell : Cell PyObject), interpreter.heap[i]? = some cell →
    cell.count ≠ 0 → cell.value.parent = some p → ∃ above : Cell PyObject,
      interpreter.heap[p]? = some above ∧ above.count ≠ 0 ∧ above.value.owns = true ∧
        cell.value.kind.parent = some above.value.kind
  dead : ∀ (i : Nat) (cell : Cell PyObject), interpreter.heap[i]? = some cell →
    cell.count = 0 → after.heap[i]? = some cell ∧ history i after.log = history i interpreter.log
  reclaimed : interpreter.references = [] →
    ∀ (i : Nat) (cell : Cell PyObject), interpreter.heap[i]? = some cell → cell.count = 0

/-- Whatever becomes of the requests: the program never holds a reference to an object that is
dead or without its C++ object, parents outlive their children, the dead are not touched by
anything that comes later, and without references nothing is alive. -/
theorem program_safe (program later : List Instructed) :
    (run perform {} program).Safe (run perform {} (program ++ later)) := by
  obtain ⟨healthy, -⟩ := perform_invariant (fun _ _ => True) (fun _ _ _ _ _ _ _ => trivial)
    healthy_empty trivial program
  have counted := healthy.counted
  constructor
  · intro i held
    obtain ⟨cell, present, owns⟩ := healthy.owned i held
    obtain ⟨cell', present', alive⟩ := counted.reference_alive held
    cases present.symm.trans present'
    exact ⟨cell, present, alive, owns⟩
  · intro i p cell present alive holds
    obtain ⟨above, atParent, kind, owns⟩ := healthy.housed i p cell present holds
    obtain ⟨above', atParent', aboveAlive⟩ := counted.parent_alive present alive holds
    cases atParent.symm.trans atParent'
    exact ⟨above, atParent, aboveAlive, owns, kind⟩
  · intro i cell present dead
    rw [run_append]
    refine (perform_invariant (fun heap log => heap[i]? = some cell ∧
      history i log = history i (run perform {} program).log) ?_ healthy ⟨present, rfl⟩ later).2
    intro respond heap log heap' log' holds moves
    obtain ⟨kept, quiet⟩ := moves.dead holds.1 dead
    exact ⟨kept, quiet.trans holds.2⟩
  · intro none
    rw [none] at counted
    exact counted.all_dead

end Interpreter

/-! ## What is left open -/

/-- The object owns a session or an operation that is open. -/
def PyObject.holdsHandle : PyObject → Bool
  | .service _ _ => false
  | .session _ owned => owned.any Session.open_
  | .operation _ owned => owned.any Operation.open_

theorem closeSession_send {session : Session} {resume : Outcome .closeSession → Status × Session}
    (request : SessionRequest session resume) (respond : Responder) (address parent : Nat) :
    closeSession respond address parent (some session) =
      (some (resume (respond .closeSession ⟨session.handle⟩)).2,
        [.session address parent ⟨.closeSession, ⟨session.handle⟩,
          respond .closeSession ⟨session.handle⟩⟩]) := by
  simp [closeSession, request.rpc_eq]

theorem callOperation_send {op : Operation} {call : OperationCall} {closing : Bool}
    {method : Method} {req : method.Req} {resume : Outcome method → Status × Operation}
    (request : OperationRequest op closing (call.rpc op) method req resume) (respond : Responder)
    (address parent : Nat) :
    callOperation respond address parent call (some op) =
      (some (resume (respond method req)).2,
        [.operation address parent ⟨method, req, respond method req⟩]) := by
  simp [callOperation, request.rpc_eq]

/-- A use makes no exchange and leaves the handle alone, or makes one, and after a close that
failed the handle is still held. -/
theorem Touched.exchanges_cases {respond : Responder} {address : Nat} {before after : PyObject}
    {entries : List Entry} (touched : Touched respond address before after entries) :
    (exchanges entries = [] ∧ after.holdsHandle = before.holdsHandle) ∨
      ∃ exchange, exchanges entries = [exchange] ∧
        (exchange.failsToClose = true → after.holdsHandle = true) := by
  cases touched with
  | kept => exact .inl ⟨rfl, rfl⟩
  | service user owned => exact .inl ⟨exchanges_closeService address owned, rfl⟩
  | session parent owned =>
      cases owned with
      | none => exact .inl ⟨rfl, rfl⟩
      | some session =>
          rcases session.close_cases with ⟨_, done⟩ | ⟨resume, request⟩
          · exact .inl (by simp [closeSession, done, exchanges])
          · rw [closeSession_send request]
            refine .inr ⟨_, rfl, fun fails => ?_⟩
            have failed : (respond .closeSession ⟨session.handle⟩).isSuccess = false := by
              simpa [Exchange.failsToClose, Exchange.succeeds] using fails
            simp [PyObject.holdsHandle, request.after, failed, request.isOpen]
  | operation parent owned call =>
      cases owned with
      | none => exact .inl ⟨rfl, rfl⟩
      | some op =>
          rcases call.cases op with ⟨_, _, done⟩ | ⟨method, req, resume, request⟩
          · exact .inl (by simp [callOperation, done, exchanges])
          · rw [callOperation_send request]
            refine .inr ⟨_, rfl, fun fails => ?_⟩
            obtain ⟨closes, failed⟩ := Bool.and_eq_true_iff.mp fails
            have closing : method = .closeOperation := by
              have handle := request.handle
              cases method <;> simp_all [Method.operationHandle?]
            have failed : (respond method req).isSuccess = false := by
              simpa [Exchange.succeeds] using failed
            simp [PyObject.holdsHandle, request.after, failed,
              request.isOpen (request.closes.mp closing)]

/-- What holds a handle after its deallocation failed to close. -/
theorem dealloc_holdsHandle {respond : Responder} {address : Nat} {object : PyObject}
    (holds : (object.dealloc respond address).1.holdsHandle = true) :
    ∃ exchange, exchanges (object.dealloc respond address).2 = [exchange] ∧
      exchange.failsToClose = true := by
  cases object with
  | service user owned => cases holds
  | session parent owned =>
      cases owned with
      | none => cases holds
      | some session =>
          simp only [PyObject.dealloc] at holds ⊢
          rcases session.close_cases with ⟨shut, done⟩ | ⟨resume, request⟩
          · simp [closeSession, done, PyObject.holdsHandle, shut] at holds
          · rw [closeSession_send request] at holds ⊢
            refine ⟨_, rfl, ?_⟩
            cases success : (respond .closeSession ⟨session.handle⟩).isSuccess with
            | true => simp [PyObject.holdsHandle, request.after, success] at holds
            | false => simp [Exchange.failsToClose, Exchange.succeeds, success]
  | operation parent owned =>
      cases owned with
      | none => cases holds
      | some op =>
          simp only [PyObject.dealloc] at holds ⊢
          rcases OperationCall.cases op .close with ⟨_, shut, done⟩ | ⟨method, req, resume, request⟩
          · simp [callOperation, done, PyObject.holdsHandle, shut] at holds
          · obtain rfl := request.closes.mpr (by simp)
            rw [callOperation_send request] at holds ⊢
            refine ⟨_, rfl, ?_⟩
            cases success : (respond .closeOperation req).isSuccess with
            | true => simp [PyObject.holdsHandle, request.after, success] at holds
            | false => simp [Exchange.failsToClose, Exchange.succeeds, success]

theorem Created.not_failsToClose {respond : Responder} {heap : Heap PyObject} {address : Nat}
    {object : PyObject} {entries : List Entry}
    (created : Created respond heap address object entries) :
    ∀ exchange ∈ exchanges entries, exchange.failsToClose = false := by
  cases created with
  | unconnected => simp [exchanges]
  | connected => simp [exchanges, Entry.exchange?]
  | @session _ _ user =>
      obtain ⟨resume, opens⟩ := Session.opens [] user
      simp [opens.rpc_eq, exchanges, Entry.exchange?, Exchange.failsToClose]
  | unexecuted => simp [exchanges]
  | @operation _ _ _ session _ statement =>
      obtain ⟨resume, opens⟩ := session.executes statement []
      simp [opens.rpc_eq, exchanges, Entry.exchange?, Exchange.failsToClose]

/-- An object with its own exchanges. -/
structure Settled (cell : Cell PyObject) (made : List Exchange) : Prop where
  failed : ∀ exchange, made.getLast? = some exchange → exchange.failsToClose = true →
    cell.value.holdsHandle = true
  dead : cell.count = 0 → cell.value.holdsHandle = true →
    ∃ exchange, made.getLast? = some exchange ∧ exchange.failsToClose = true

theorem Settled.touch {respond : Responder} {heap : Heap PyObject} {address count : Nat}
    {cell : Cell PyObject} {object : PyObject} {entries : List Entry} {made : List Exchange}
    (settled : Settled cell made)
    (touches : Touches respond heap address cell count object entries) :
    Settled ⟨count, object⟩ (made ++ exchanges entries) where
  failed := by
    intro exchange isLast fails
    rcases touches.touched.exchanges_cases with ⟨none, flag⟩ | ⟨sent, one, holds⟩
    · rw [none, List.append_nil] at isLast
      exact flag.trans (settled.failed exchange isLast fails)
    · rw [one, List.getLast?_concat, Option.some.injEq] at isLast
      subst isLast
      exact holds fails
  dead := by
    intro none holds
    have finalized := (touches.last none).1
    have object_eq : object = (cell.value.dealloc respond address).1 := congrArg Prod.fst finalized
    have entries_eq : entries = (cell.value.dealloc respond address).2 :=
      congrArg Prod.snd finalized
    rw [object_eq] at holds
    obtain ⟨exchange, sent, fails⟩ := dealloc_holdsHandle holds
    refine ⟨exchange, ?_, fails⟩
    rw [entries_eq, sent, List.getLast?_concat]

theorem settled_create {respond : Responder} {heap : Heap PyObject} {address : Nat}
    {object : PyObject} {entries : List Entry}
    (created : Created respond heap address object entries) :
    Settled ⟨1, object⟩ (exchanges entries) where
  failed := by
    intro exchange isLast fails
    rw [created.not_failsToClose exchange (List.mem_of_getLast? isLast)] at fails
    cases fails
  dead := fun none => absurd none Nat.one_ne_zero

structure AllSettled (heap : Heap PyObject) (log : List Entry) : Prop where
  recorded : Recorded heap log
  settled : ∀ (i : Nat) (cell : Cell PyObject), heap[i]? = some cell →
    Settled cell (exchanges (history i log))

theorem allSettled_nil : AllSettled [] [] := ⟨by simp [Recorded], by simp⟩

namespace AllSettled

variable {respond : Responder} {heap : Heap PyObject} {log entries : List Entry}
  {address count : Nat} {cell : Cell PyObject} {object : PyObject}

theorem touch (all : AllSettled heap log)
    (touches : Touches respond heap address cell count object entries) :
    AllSettled (heap.set address ⟨count, object⟩) (log ++ entries) where
  recorded := all.recorded.touch touches
  settled := by
    intro i later present
    by_cases same : i = address
    · subst same
      cases touches.here.symm.trans present
      rw [history_append, touches.touched.own.history_self, exchanges_append]
      exact (all.settled i cell touches.present).touch touches
    · rw [List.getElem?_set_ne (Ne.symm same)] at present
      rw [history_append, touches.touched.own.history_of_ne same, List.append_nil]
      exact all.settled i later present

theorem create (all : AllSettled heap log)
    (created : Created respond heap heap.length object entries) :
    AllSettled (heap ++ [⟨1, object⟩]) (log ++ entries) where
  recorded := all.recorded.create created
  settled := by
    intro i later present
    rcases Nat.lt_trichotomy i heap.length with old | rfl | outside
    · rw [List.getElem?_append_left old] at present
      rw [history_append, created.own.history_of_ne (Nat.ne_of_lt old), List.append_nil]
      exact all.settled i later present
    · rw [List.getElem?_concat_length] at present
      cases present
      rw [history_append, history_fresh all.recorded, created.own.history_self]
      exact settled_create created
    · rw [List.getElem?_eq_none (by simp; omega)] at present
      cases present

theorem moves {heap' : Heap PyObject} {log' : List Entry} (all : AllSettled heap log)
    (moves : Moves respond heap log heap' log') : AllSettled heap' log' := by
  induction moves with
  | start => exact all
  | touch _ touches ih => exact ih.touch touches
  | create _ created ih => exact ih.create created

end AllSettled

/-! ## Handles -/

/-- The Python objects follow the handles of the C++ objects they own. -/
structure FollowHandles (heap : Heap PyObject) (log : List Entry) : Prop where
  sessions : ∀ (i count service : Nat) (session : Session),
    heap[i]? = some ⟨count, .session service (some session)⟩ →
      Follows sessionProtocol session.open_ session.handle (exchanges (history i log))
  operations : ∀ (i count parent : Nat) (op : Operation),
    heap[i]? = some ⟨count, .operation parent (some op)⟩ →
      ∃ (above service : Nat) (session : Session),
        heap[parent]? = some ⟨above, .session service (some session)⟩ ∧
          FollowsSession session.handle op (exchanges (history i log))

theorem Represents.followHandles {heap : Heap PyObject} {log : List Entry} {world : World}
    {sessions operations : List Nat} (represents : Represents heap log world sessions operations)
    (sound : world.Sound) : FollowHandles heap log where
  sessions := by
    intro i count service session present
    have owns : sessionAt? heap log i = some ⟨session, exchanges (history i log)⟩ := by
      simp [sessionAt?, present, PyObject.session?]
    exact sound.sessions _ (represents.sessionsAt.mem_values.mpr ⟨i, owns⟩)
  operations := by
    intro i count parent op present
    have owns : operationAt? heap log sessions i =
        some ⟨op, sessions.idxOf parent, exchanges (history i log)⟩ := by
      simp [operationAt?, present, PyObject.operation?]
    obtain ⟨creator, created, follows⟩ :=
      sound.operations _ (represents.operationsAt.mem_values.mpr ⟨i, owns⟩)
    obtain ⟨⟨above, value⟩, atParent, kind, owned⟩ :=
      represents.housed i parent _ present rfl
    cases value with
    | service user service => cases kind
    | operation above op => cases kind
    | session service session =>
        obtain ⟨session, rfl⟩ := Option.isSome_iff_exists.mp owned
        have ownsAbove : sessionAt? heap log parent =
            some ⟨session, exchanges (history parent log)⟩ := by
          simp [sessionAt?, atParent, PyObject.session?]
        cases (represents.sessionsAt.getElem?_idxOf ownsAbove).symm.trans created
        exact ⟨above, service, session, atParent, follows⟩

theorem program_followHandles (program : List Instructed) :
    let interpreter := run Interpreter.perform {} program
    FollowHandles interpreter.heap interpreter.log := by
  obtain ⟨_, _, ⟨events, rfl, _⟩, ⟨_, sessions, operations, represents⟩, _⟩ :=
    simulated_from Interpreter.healthy_empty represented_nil program
  exact represents.followHandles (World.sound_run events)

/-- The exchanges of an object that is gone: once it had a handle, every request carried it, and
one close succeeded unless the last request was a close that failed. -/
def Reclaimed {Handle : Type} (protocol : Protocol Exchange Handle) (made : List Exchange) :
    Prop :=
  ∀ handle, opened protocol made = some handle →
    (∀ exchange ∈ made.tail, protocol.carries handle exchange) ∧
      made.countP protocol.closes = if made.getLast?.any Exchange.failsToClose then 0 else 1

theorem Settled.reclaimed {Handle : Type} {protocol : Protocol Exchange Handle} {open_ : Bool}
    {handle : Handle} {made : List Exchange} {object : PyObject}
    (settled : Settled ⟨0, object⟩ made) (flag : object.holdsHandle = open_)
    (follows : Follows protocol open_ handle made) : Reclaimed protocol made := by
  intro own delivered
  refine ⟨follows.routed own delivered, (follows.countP_closes delivered).trans ?_⟩
  congr 1
  rw [eq_iff_iff, ← flag]
  constructor
  · intro holds
    obtain ⟨exchange, isLast, fails⟩ := settled.dead rfl holds
    rw [isLast]
    exact fails
  · intro fails
    cases isLast : made.getLast? with
    | none =>
        rw [isLast] at fails
        cases fails
    | some exchange =>
        rw [isLast] at fails
        exact settled.failed exchange isLast fails

/-- Of every session and operation that a program let go. -/
theorem program_reclaims (program : List Instructed) :
    let interpreter := run Interpreter.perform {} program
    (∀ (i service : Nat) (session : Session),
      interpreter.heap[i]? = some ⟨0, .session service (some session)⟩ →
        Reclaimed sessionProtocol (exchanges (history i interpreter.log))) ∧
    ∀ (i parent : Nat) (op : Operation),
      interpreter.heap[i]? = some ⟨0, .operation parent (some op)⟩ →
        ∃ (count service : Nat) (session : Session),
          interpreter.heap[parent]? = some ⟨count, .session service (some session)⟩ ∧
            Reclaimed (operationProtocol session.handle)
              (exchanges (history i interpreter.log)) := by
  have follow := program_followHandles program
  obtain ⟨-, all⟩ := Interpreter.perform_invariant AllSettled
    (fun _ _ _ _ _ all moves => all.moves moves) Interpreter.healthy_empty allSettled_nil program
  refine ⟨fun i service session present => ?_, fun i parent op present => ?_⟩
  · exact (all.settled i _ present).reclaimed rfl (follow.sessions i 0 service session present)
  · obtain ⟨count, service, session, atParent, follows⟩ :=
      follow.operations i 0 parent op present
    exact ⟨count, service, session, atParent,
      (all.settled i _ present).reclaimed rfl follows.follows⟩

end HS2Client.Py
