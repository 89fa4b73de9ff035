import HS2Client.Client.HandleRouting
import HS2Client.Library.Enumeration
import HS2Client.Library.Simulation
import HS2Client.Python.Instructions

/-!
# Programs are runs over the C++ objects

The sessions and operations that the Python objects on the heap own, each with its exchanges in
the log, are the objects of a run over sessions and operations, with the same exchanges in the
same order. Deallocation is a close like any other.
-/

namespace HS2Client.World

variable {world : World} {respond : Responder} {i : Nat}

theorem exchange?_closeSession {object : SessionObject}
    (present : world.sessions[i]? = some object) :
    world.exchange? ⟨.closeSession i, respond⟩ = object.session.close.exchange? respond := by
  simp [exchange?, rpc?, present]

theorem exchange?_onOperation {object : OperationObject}
    (present : world.operations[i]? = some object) (call : OperationCall) :
    world.exchange? ⟨.onOperation i call, respond⟩ = (call.rpc object.op).exchange? respond := by
  simp [exchange?, rpc?, present]

theorem exchange?_executeStatement {object : SessionObject}
    (present : world.sessions[i]? = some object) (statement : Bytes)
    (confOverlay : List (Bytes × Bytes)) :
    world.exchange? ⟨.executeStatement i statement confOverlay, respond⟩ =
      (object.session.executeStatement statement confOverlay).exchange? respond := by
  simp [exchange?, rpc?, present]

end HS2Client.World

namespace HS2Client.Py

open Enumeration RefCounting Runs

def Entry.exchange? : Entry → Option Exchange
  | .connected _ => none
  | .disconnected _ => none
  | .session _ _ exchange => some exchange
  | .operation _ _ exchange => some exchange

/-- The requests of a program and how they ended, in their order. -/
def exchanges (log : List Entry) : List Exchange := log.filterMap Entry.exchange?

def history (address : Nat) (log : List Entry) : List Entry :=
  log.filter fun entry => entry.ref.address = address

/-- The session that an object owns, with its exchanges. -/
def PyObject.session? (made : List Exchange) : PyObject → Option SessionObject
  | .session _ (some owned) => some ⟨owned, made⟩
  | _ => none

/-- The creator of an operation is the place of the address of its parent. -/
def PyObject.operation? (sessions : List Nat) (made : List Exchange) :
    PyObject → Option OperationObject
  | .operation parent (some op) => some ⟨op, sessions.idxOf parent, made⟩
  | _ => none

def sessionAt? (heap : Heap PyObject) (log : List Entry) (address : Nat) : Option SessionObject :=
  heap[address]?.bind fun cell => cell.value.session? (exchanges (history address log))

def operationAt? (heap : Heap PyObject) (log : List Entry) (sessions : List Nat) (address : Nat) :
    Option OperationObject :=
  heap[address]?.bind fun cell => cell.value.operation? sessions (exchanges (history address log))

/-- No entry is about an object to come. -/
def Recorded (heap : Heap PyObject) (log : List Entry) : Prop :=
  ∀ entry ∈ log, entry.ref.address < heap.length

/-- The world has the C++ objects that are owned from the heap, those at the given addresses. -/
structure Represents (heap : Heap PyObject) (log : List Entry) (world : World)
    (sessions operations : List Nat) : Prop where
  sessionsAt : Enumerates (sessionAt? heap log) sessions world.sessions
  operationsAt : Enumerates (operationAt? heap log sessions) operations world.operations
  housed : Housed heap
  recorded : Recorded heap log

def Represented (heap : Heap PyObject) (log : List Entry) (world : World) : Prop :=
  ∃ sessions operations, Represents heap log world sessions operations

theorem represented_nil : Represented [] [] {} :=
  ⟨[], [], enumerates_nil, enumerates_nil, by simp [Housed], by simp [Recorded]⟩

/-! ## Entries -/

theorem exchanges_append (log entries : List Entry) :
    exchanges (log ++ entries) = exchanges log ++ exchanges entries :=
  List.filterMap_append

theorem history_append (address : Nat) (log entries : List Entry) :
    history address (log ++ entries) = history address log ++ history address entries :=
  List.filter_append ..

/-- The entries of one object. -/
def OwnEntries (address : Nat) (entries : List Entry) : Prop :=
  ∀ entry ∈ entries, entry.ref.address = address

theorem OwnEntries.history_self {address : Nat} {entries : List Entry}
    (own : OwnEntries address entries) : history address entries = entries :=
  List.filter_eq_self.mpr fun entry member => by simp [own entry member]

theorem OwnEntries.history_of_ne {address other : Nat} {entries : List Entry}
    (own : OwnEntries address entries) (different : other ≠ address) :
    history other entries = [] :=
  List.filter_eq_nil_iff.mpr fun entry member => by
    simp [own entry member, different.symm]

theorem ownEntries_session (address service : Nat) (exchanges : List Exchange) :
    OwnEntries address (exchanges.map (.session address service)) := by
  intro entry member
  obtain ⟨exchange, -, rfl⟩ := List.mem_map.mp member
  rfl

theorem ownEntries_operation (address session : Nat) (exchanges : List Exchange) :
    OwnEntries address (exchanges.map (.operation address session)) := by
  intro entry member
  obtain ⟨exchange, -, rfl⟩ := List.mem_map.mp member
  rfl

theorem Touched.own {respond : Responder} {address : Nat} {before after : PyObject}
    {entries : List Entry} (touched : Touched respond address before after entries) :
    OwnEntries address entries := by
  cases touched with
  | kept => simp [OwnEntries]
  | service user owned =>
      rcases owned with _ | service
      · simp [OwnEntries, closeService]
      · simp only [closeService]
        split_ifs <;> simp [OwnEntries, Entry.ref, Ref.address]
  | session parent owned =>
      cases owned with
      | none => simp [OwnEntries, closeSession]
      | some session => exact ownEntries_session address parent _
  | operation parent owned call =>
      cases owned with
      | none => simp [OwnEntries, callOperation]
      | some op => exact ownEntries_operation address parent _

theorem Created.own {respond : Responder} {heap : Heap PyObject} {address : Nat}
    {object : PyObject} {entries : List Entry}
    (created : Created respond heap address object entries) : OwnEntries address entries := by
  cases created with
  | unconnected => simp [OwnEntries]
  | connected => simp [OwnEntries, Entry.ref, Ref.address]
  | session => exact ownEntries_session address _ _
  | unexecuted => simp [OwnEntries]
  | operation => exact ownEntries_operation address _ _

@[simp] theorem exchanges_session (address service : Nat) (made : List Exchange) :
    exchanges (made.map (.session address service)) = made := by
  simp [exchanges, List.filterMap_map, Function.comp_def, Entry.exchange?]

@[simp] theorem exchanges_operation (address session : Nat) (made : List Exchange) :
    exchanges (made.map (.operation address session)) = made := by
  simp [exchanges, List.filterMap_map, Function.comp_def, Entry.exchange?]

theorem exchanges_closeService (address : Nat) (owned : Option Service) :
    exchanges (closeService address owned).2 = [] := by
  rcases owned with _ | service
  · rfl
  · simp only [closeService]
    split_ifs <;> rfl

/-! ## What a move does to the objects that are represented -/

section At

variable {respond : Responder} {heap : Heap PyObject} {log entries : List Entry}
  {address count : Nat} {cell : Cell PyObject} {object : PyObject} (sessions : List Nat)

/-- Looking at every object with its exchanges, before and after a use of one. -/
theorem bind_touch {Value : Type} (log : List Entry) (look : List Exchange → PyObject → Option Value)
    (touches : Touches respond heap address cell count object entries) :
    (fun i => (heap.set address ⟨count, object⟩)[i]?.bind fun cell =>
        look (exchanges (history i (log ++ entries))) cell.value) =
      Function.update (fun i => heap[i]?.bind fun cell =>
        look (exchanges (history i log)) cell.value) address
          (look (exchanges (history address log) ++ exchanges entries) object) := by
  funext i
  by_cases same : i = address
  · subst same
    rw [touches.here, Function.update_self, history_append, exchanges_append,
      touches.touched.own.history_self]
    rfl
  · rw [List.getElem?_set_ne (Ne.symm same), Function.update_of_ne same, history_append,
      touches.touched.own.history_of_ne same, List.append_nil]

theorem sessionAt?_touch (log : List Entry)
    (touches : Touches respond heap address cell count object entries) :
    sessionAt? (heap.set address ⟨count, object⟩) (log ++ entries) =
      Function.update (sessionAt? heap log) address
        (object.session? (exchanges (history address log) ++ exchanges entries)) :=
  bind_touch log (fun made object => object.session? made) touches

theorem operationAt?_touch (log : List Entry)
    (touches : Touches respond heap address cell count object entries) :
    operationAt? (heap.set address ⟨count, object⟩) (log ++ entries) sessions =
      Function.update (operationAt? heap log sessions) address
        (object.operation? sessions (exchanges (history address log) ++ exchanges entries)) :=
  bind_touch log (fun made object => object.operation? sessions made) touches

theorem Recorded.touch (recorded : Recorded heap log)
    (touches : Touches respond heap address cell count object entries) :
    Recorded (heap.set address ⟨count, object⟩) (log ++ entries) := by
  intro entry member
  rw [List.length_set]
  rcases List.mem_append.mp member with earlier | new
  · exact recorded entry earlier
  · rw [touches.touched.own entry new]
    exact (List.getElem?_eq_some_iff.mp touches.present).1

theorem Recorded.create (recorded : Recorded heap log)
    (created : Created respond heap heap.length object entries) :
    Recorded (heap ++ [⟨1, object⟩]) (log ++ entries) := by
  intro entry member
  rw [List.length_append]
  rcases List.mem_append.mp member with earlier | new
  · exact Nat.lt_add_right _ (recorded entry earlier)
  · rw [created.own entry new]
    exact Nat.lt_succ_self _

theorem history_fresh (recorded : Recorded heap log) :
    history heap.length log = [] :=
  List.filter_eq_nil_iff.mpr fun entry member => by
    simp [Nat.ne_of_lt (recorded entry member)]

theorem bind_create {Value : Type} (look : List Exchange → PyObject → Option Value)
    (created : Created respond heap heap.length object entries)
    (recorded : Recorded heap log) :
    (fun i => (heap ++ [⟨1, object⟩])[i]?.bind fun cell =>
        look (exchanges (history i (log ++ entries))) cell.value) =
      Function.update (fun i => heap[i]?.bind fun cell =>
        look (exchanges (history i log)) cell.value) heap.length
          (look (exchanges entries) object) := by
  funext i
  rcases Nat.lt_trichotomy i heap.length with old | rfl | outside
  · rw [List.getElem?_append_left old, Function.update_of_ne (Nat.ne_of_lt old), history_append,
      created.own.history_of_ne (Nat.ne_of_lt old), List.append_nil]
  · rw [List.getElem?_concat_length, Function.update_self, history_append,
      history_fresh recorded, created.own.history_self]
    rfl
  · rw [List.getElem?_eq_none (by simp; omega), Function.update_of_ne (Nat.ne_of_gt outside),
      List.getElem?_eq_none (by omega)]
    rfl

theorem sessionAt?_create (created : Created respond heap heap.length object entries)
    (recorded : Recorded heap log) :
    sessionAt? (heap ++ [⟨1, object⟩]) (log ++ entries) =
      Function.update (sessionAt? heap log) heap.length (object.session? (exchanges entries)) :=
  bind_create (fun made object => object.session? made) created recorded

theorem operationAt?_create (created : Created respond heap heap.length object entries)
    (recorded : Recorded heap log) :
    operationAt? (heap ++ [⟨1, object⟩]) (log ++ entries) sessions =
      Function.update (operationAt? heap log sessions) heap.length
        (object.operation? sessions (exchanges entries)) :=
  bind_create (fun made object => object.operation? sessions made) created recorded

end At

namespace Represents

variable {respond : Responder} {heap : Heap PyObject} {log entries : List Entry} {world : World}
  {sessions operations : List Nat} {address count : Nat} {cell : Cell PyObject}
  {object : PyObject}

/-- A use that sends nothing and leaves the C++ object alone. -/
theorem touch_quiet (represents : Represents heap log world sessions operations)
    (touches : Touches respond heap address cell count object entries)
    (quiet : exchanges entries = [])
    (session : ∀ made, object.session? made = cell.value.session? made)
    (operation : ∀ made, object.operation? sessions made = cell.value.operation? sessions made) :
    Represents (heap.set address ⟨count, object⟩) (log ++ entries) world sessions operations where
  sessionsAt := by
    rw [sessionAt?_touch log touches, quiet, List.append_nil, session,
      Function.update_eq_self_iff.mpr]
    · exact represents.sessionsAt
    · simp [sessionAt?, touches.present]
  operationsAt := by
    rw [operationAt?_touch sessions log touches, quiet, List.append_nil, operation,
      Function.update_eq_self_iff.mpr]
    · exact represents.operationsAt
    · simp [operationAt?, touches.present]
  housed := touches.housed represents.housed
  recorded := represents.recorded.touch touches

theorem touch_session (represents : Represents heap log world sessions operations)
    {parent : Nat} {session : Session}
    (owner : cell.value = .session parent (some session))
    (touches : Touches respond heap address cell count
      (.session parent (some (session.close.run respond).2))
      ((session.close.exchange? respond).toList.map (.session address parent))) :
    let after := world.step ⟨.closeSession (sessions.idxOf address), respond⟩
    Explains World.step World.exchange? world (session.close.exchange? respond).toList after ∧
      Represents (heap.set address ⟨count, .session parent (some (session.close.run respond).2)⟩)
        (log ++ (session.close.exchange? respond).toList.map (.session address parent)) after
        sessions operations := by
  have owns : sessionAt? heap log address =
      some ⟨session, exchanges (history address log)⟩ := by
    simp [sessionAt?, touches.present, owner, PyObject.session?]
  have present := represents.sessionsAt.getElem?_idxOf owns
  refine ⟨explains_event _ ?_, ?_, ?_, touches.housed represents.housed,
    represents.recorded.touch touches⟩
  · rw [World.exchange?_closeSession present]
  · rw [world.step_closeSession respond present, sessionAt?_touch log touches, exchanges_session]
    exact represents.sessionsAt.set (by rw [owns]; rfl) _
  · rw [world.step_closeSession respond present, operationAt?_touch sessions log touches,
      Function.update_eq_self_iff.mpr]
    · exact represents.operationsAt
    · simp [operationAt?, touches.present, owner, PyObject.operation?]

theorem touch_operation (represents : Represents heap log world sessions operations)
    {parent : Nat} {op : Operation} {call : OperationCall}
    (owner : cell.value = .operation parent (some op))
    (touches : Touches respond heap address cell count
      (.operation parent (some ((call.rpc op).run respond).2))
      (((call.rpc op).exchange? respond).toList.map (.operation address parent))) :
    let after := world.step ⟨.onOperation (operations.idxOf address) call, respond⟩
    Explains World.step World.exchange? world ((call.rpc op).exchange? respond).toList after ∧
      Represents
        (heap.set address ⟨count, .operation parent (some ((call.rpc op).run respond).2)⟩)
        (log ++ ((call.rpc op).exchange? respond).toList.map (.operation address parent)) after
        sessions operations := by
  have owns : operationAt? heap log sessions address =
      some ⟨op, sessions.idxOf parent, exchanges (history address log)⟩ := by
    simp [operationAt?, touches.present, owner, PyObject.operation?]
  have present := represents.operationsAt.getElem?_idxOf owns
  refine ⟨explains_event _ ?_, ?_, ?_, touches.housed represents.housed,
    represents.recorded.touch touches⟩
  · rw [World.exchange?_onOperation present]
  · rw [world.step_onOperation respond present, sessionAt?_touch log touches,
      Function.update_eq_self_iff.mpr]
    · exact represents.sessionsAt
    · simp [sessionAt?, touches.present, owner, PyObject.session?]
  · rw [world.step_onOperation respond present, operationAt?_touch sessions log touches,
      exchanges_operation]
    exact represents.operationsAt.set (by rw [owns]; rfl) _

/-- The same use of a Python object and of the C++ object that it owns. -/
theorem touch (represents : Represents heap log world sessions operations)
    (touches : Touches respond heap address cell count object entries) :
    ∃ after, Explains World.step World.exchange? world (exchanges entries) after ∧
      Represents (heap.set address ⟨count, object⟩) (log ++ entries) after sessions
        operations := by
  have touched := touches.touched
  generalize owner : cell.value = value at touched
  cases touched with
  | kept =>
      refine ⟨world, explains_nil world, represents.touch_quiet touches rfl ?_ ?_⟩
      · simp [owner]
      · simp [owner]
  | service user owned =>
      have quiet := exchanges_closeService address owned
      refine ⟨world, ?_, represents.touch_quiet touches quiet ?_ ?_⟩
      · rw [quiet]
        exact explains_nil world
      · simp [owner, PyObject.session?]
      · simp [owner, PyObject.operation?]
  | session parent owned =>
      cases owned with
      | none =>
          refine ⟨world, explains_nil world, represents.touch_quiet touches rfl ?_ ?_⟩
          · simp [owner, closeSession]
          · simp [owner, closeSession]
      | some session =>
          simp only [closeSession] at touches ⊢
          rw [exchanges_session]
          exact ⟨_, represents.touch_session owner touches⟩
  | operation parent owned call =>
      cases owned with
      | none =>
          refine ⟨world, explains_nil world, represents.touch_quiet touches rfl ?_ ?_⟩
          · simp [owner, callOperation]
          · simp [owner, callOperation]
      | some op =>
          simp only [callOperation] at touches ⊢
          rw [exchanges_operation]
          exact ⟨_, represents.touch_operation owner touches⟩

/-- The parent of an operation is a session that owns its C++ object. -/
theorem parent_mem (represents : Represents heap log world sessions operations) {parent : Nat}
    {owned : Option Operation} (present : heap[address]? = some cell)
    (owner : cell.value = .operation parent owned) : parent ∈ sessions := by
  obtain ⟨above, atParent, kind, owns⟩ :=
    represents.housed address parent cell present (by rw [owner]; rfl)
  obtain ⟨more, value⟩ := above
  rw [owner] at kind
  apply represents.sessionsAt.complete
  cases value with
  | service user service => cases kind
  | operation above op => cases kind
  | session above session =>
      obtain ⟨session, rfl⟩ := Option.isSome_iff_exists.mp owns
      simp [sessionAt?, atParent, PyObject.session?]

theorem operationAt?_sessions (represents : Represents heap log world sessions operations)
    (later : List Nat) :
    operationAt? heap log (sessions ++ later) = operationAt? heap log sessions := by
  funext i
  unfold operationAt?
  cases present : heap[i]? with
  | none => rfl
  | some cell =>
      cases owner : cell.value with
      | service user owned => simp [owner, PyObject.operation?]
      | session parent owned => simp [owner, PyObject.operation?]
      | operation parent owned =>
          have member := represents.parent_mem present owner
          cases owned with
          | none => simp [owner, PyObject.operation?]
          | some op => simp [owner, PyObject.operation?, List.idxOf_append_of_mem member]

theorem sessionAt?_length (heap : Heap PyObject) (log : List Entry) :
    sessionAt? heap log heap.length = none := by
  simp [sessionAt?]

theorem operationAt?_length (heap : Heap PyObject) (log : List Entry) (sessions : List Nat) :
    operationAt? heap log sessions heap.length = none := by
  simp [operationAt?]

/-- The enumeration of the sessions after an object that owns none is created. -/
theorem sessionsAt_create (represents : Represents heap log world sessions operations)
    (created : Created respond heap heap.length object entries)
    (other : object.session? (exchanges entries) = none) :
    Enumerates (sessionAt? (heap ++ [⟨1, object⟩]) (log ++ entries)) sessions world.sessions := by
  rw [sessionAt?_create created represents.recorded, other,
    Function.update_eq_self_iff.mpr (sessionAt?_length heap log).symm]
  exact represents.sessionsAt

theorem operationsAt_create (represents : Represents heap log world sessions operations)
    (created : Created respond heap heap.length object entries)
    (other : object.operation? sessions (exchanges entries) = none) :
    Enumerates (operationAt? (heap ++ [⟨1, object⟩]) (log ++ entries) sessions) operations
      world.operations := by
  rw [operationAt?_create sessions created represents.recorded, other,
    Function.update_eq_self_iff.mpr (operationAt?_length heap log sessions).symm]
  exact represents.operationsAt

theorem create_quiet (represents : Represents heap log world sessions operations)
    (created : Created respond heap heap.length object entries)
    (session : object.session? (exchanges entries) = none)
    (operation : object.operation? sessions (exchanges entries) = none) :
    Represents (heap ++ [⟨1, object⟩]) (log ++ entries) world sessions operations where
  sessionsAt := represents.sessionsAt_create created session
  operationsAt := represents.operationsAt_create created operation
  housed := created.housed represents.housed
  recorded := represents.recorded.create created

theorem create_session (represents : Represents heap log world sessions operations)
    {service : Nat} {user : Bytes} {session : Session} {made : List Exchange}
    (opened : session = ((({} : Session).openSession [] user).run respond).2)
    (sent : made = ((({} : Session).openSession [] user).exchange? respond).toList)
    (created : Created respond heap heap.length (.session service (some session))
      (made.map (.session heap.length service))) :
    Represents (heap ++ [⟨1, .session service (some session)⟩])
      (log ++ made.map (.session heap.length service))
      (world.step ⟨.openSession [] user, respond⟩) (sessions ++ [heap.length]) operations := by
  rw [world.step_openSession]
  refine ⟨?_, ?_, created.housed represents.housed, represents.recorded.create created⟩
  · rw [sessionAt?_create created represents.recorded, exchanges_session, ← opened, ← sent]
    exact represents.sessionsAt.concat (sessionAt?_length heap log) _
  · rw [operationAt?_create _ created represents.recorded,
      represents.operationAt?_sessions [heap.length], Function.update_eq_self_iff.mpr]
    · exact represents.operationsAt
    · rw [operationAt?_length]
      rfl

theorem create_operation (represents : Represents heap log world sessions operations)
    {parent more service : Nat} {session : Session} {statement : Bytes} {op : Operation}
    {made : List Exchange}
    (present : heap[parent]? = some ⟨more, .session service (some session)⟩)
    (opened : op = ((session.executeStatement statement []).run respond).2)
    (sent : made = ((session.executeStatement statement []).exchange? respond).toList)
    (created : Created respond heap heap.length (.operation parent (some op))
      (made.map (.operation heap.length parent))) :
    let event : Event := ⟨.executeStatement (sessions.idxOf parent) statement [], respond⟩
    (world.exchange? event).toList = made ∧
      Represents (heap ++ [⟨1, .operation parent (some op)⟩])
        (log ++ made.map (.operation heap.length parent)) (world.step event) sessions
        (operations ++ [heap.length]) := by
  have owns : sessionAt? heap log parent = some ⟨session, exchanges (history parent log)⟩ := by
    simp [sessionAt?, present, PyObject.session?]
  have stored := represents.sessionsAt.getElem?_idxOf owns
  refine ⟨?_, ?_, ?_, created.housed represents.housed, represents.recorded.create created⟩
  · rw [World.exchange?_executeStatement stored, sent]
  · rw [world.step_executeStatement respond stored]
    exact represents.sessionsAt_create created rfl
  · rw [world.step_executeStatement respond stored,
      operationAt?_create sessions created represents.recorded, exchanges_operation, ← opened,
      ← sent]
    exact represents.operationsAt.concat (operationAt?_length heap log sessions) _

/-- The same creation of a Python object and of the C++ object that it owns. -/
theorem create (represents : Represents heap log world sessions operations)
    (created : Created respond heap heap.length object entries) :
    ∃ after, Explains World.step World.exchange? world (exchanges entries) after ∧
      Represented (heap ++ [⟨1, object⟩]) (log ++ entries) after := by
  have made := created
  cases created with
  | unconnected user owned notConnected =>
      exact ⟨world, explains_nil world, sessions, operations,
        represents.create_quiet made rfl rfl⟩
  | connected user =>
      exact ⟨world, explains_nil world, sessions, operations,
        represents.create_quiet made rfl rfl⟩
  | session present =>
      rw [exchanges_session]
      refine ⟨_, explains_event _ ?_, _, _, represents.create_session rfl rfl made⟩
      simp [World.exchange?, World.rpc?]
  | unexecuted present =>
      exact ⟨world, explains_nil world, sessions, operations,
        represents.create_quiet made rfl rfl⟩
  | operation present statement =>
      obtain ⟨sent, after⟩ := represents.create_operation present rfl rfl made
      rw [exchanges_operation]
      exact ⟨_, explains_event _ sent, _, _, after⟩

end Represents

/-! ## Programs -/

/-- What the moves of an instruction send, a run over the C++ objects sends. -/
theorem Represented.moves {respond : Responder} {heap heap' : Heap PyObject}
    {log log' : List Entry} {world : World} (represented : Represented heap log world)
    (moves : Moves respond heap log heap' log') :
    ∃ seen after, Explains World.step World.exchange? world seen after ∧
      Represented heap' log' after ∧ exchanges log' = exchanges log ++ seen := by
  induction moves with
  | start => exact ⟨[], world, explains_nil world, represented, by simp⟩
  | touch _ touches ih =>
      obtain ⟨seen, middle, explains, ⟨sessions, operations, represents⟩, sent⟩ := ih
      obtain ⟨after, explains', represents'⟩ := represents.touch touches
      refine ⟨_, after, explains.trans explains', ⟨sessions, operations, represents'⟩, ?_⟩
      rw [exchanges_append, sent, List.append_assoc]
  | create _ created ih =>
      obtain ⟨seen, middle, explains, ⟨sessions, operations, represents⟩, sent⟩ := ih
      obtain ⟨after, explains', represented'⟩ := represents.create created
      refine ⟨_, after, explains.trans explains', represented', ?_⟩
      rw [exchanges_append, sent, List.append_assoc]

theorem simulated_from {start : Interpreter} {world : World} (healthy : start.Healthy)
    (represented : Represented start.heap start.log world) (program : List Instructed) :
    let interpreter := run Interpreter.perform start program
    ∃ seen after, Explains World.step World.exchange? world seen after ∧
      (interpreter.Healthy ∧ Represented interpreter.heap interpreter.log after) ∧
      exchanges interpreter.log = exchanges start.log ++ seen := by
  apply run_simulated (fun (interpreter : Interpreter) world =>
      interpreter.Healthy ∧ Represented interpreter.heap interpreter.log world)
    (fun interpreter => exchanges interpreter.log) _ ⟨healthy, represented⟩ program
  rintro interpreter world instructed ⟨healthy, represented⟩
  obtain ⟨healthy', moves⟩ := healthy.perform instructed
  obtain ⟨seen, after, explains, represented', sent⟩ := represented.moves moves
  exact ⟨seen, after, explains, ⟨healthy', represented'⟩, sent⟩

/-- Every program, whatever becomes of its requests, is a run over the C++ objects: the same
requests in the same order, and the same sessions and operations afterwards. A program that goes
on is a run that goes on. -/
theorem program_simulated (program later : List Instructed) :
    let interpreter := run Interpreter.perform {} program
    let after := run Interpreter.perform {} (program ++ later)
    ∃ events further,
      observed World.step World.exchange? {} events = exchanges interpreter.log ∧
      Represented interpreter.heap interpreter.log (run World.step {} events) ∧
      observed World.step World.exchange? {} (events ++ further) = exchanges after.log ∧
      Represented after.heap after.log (run World.step {} (events ++ further)) := by
  obtain ⟨seen, _, ⟨events, rfl, sees⟩, ⟨healthy, represented⟩, sent⟩ :=
    simulated_from Interpreter.healthy_empty represented_nil program
  obtain ⟨seen', _, ⟨further, rfl, sees'⟩, ⟨_, represented'⟩, sent'⟩ :=
    simulated_from healthy represented later
  refine ⟨events, further, sees.trans sent.symm, represented, ?_, ?_⟩
  · rw [observed_append, sees, sees', run_append, sent', sent]
    rfl
  · rw [run_append, run_append]
    exact represented'

end HS2Client.Py
