import HS2Client.Python.Moves
import HS2Client.Python.Programs

/-!
# Programs under any outcome

The commands of a program together with the explicit closing of sessions and services, where
every request may fail, those to close included. Every instruction is a sequence of moves.
-/

namespace HS2Client.Py

open RefCounting Runs

inductive Instruction where
  | command (command : Command)
  /-- `Session.close` -/
  | closeSession (session : Nat)
  /-- `Service.close` -/
  | closeService (service : Nat)
  deriving DecidableEq

structure Instructed where
  instruction : Instruction
  respond : Responder

namespace Interpreter

def closeSession (respond : Responder) (interpreter : Interpreter) (address count parent : Nat)
    (session : Option Session) : Interpreter :=
  let closed := Py.closeSession respond address parent session
  { interpreter with
    heap := interpreter.heap.set address ⟨count, .session parent closed.1⟩
    log := interpreter.log ++ closed.2 }

def closeService (interpreter : Interpreter) (address count : Nat) (user : Bytes)
    (service : Option Service) : Interpreter :=
  let closed := Py.closeService address service
  { interpreter with
    heap := interpreter.heap.set address ⟨count, .service user closed.1⟩
    log := interpreter.log ++ closed.2 }

def perform (interpreter : Interpreter) (instructed : Instructed) : Interpreter :=
  match instructed.instruction with
  | .command command => interpreter.obey instructed.respond command
  | .closeSession session =>
      match interpreter.object? session with
      | some ⟨count, .session parent owned⟩ =>
          interpreter.closeSession instructed.respond session count parent owned
      | _ => interpreter
  | .closeService service =>
      match interpreter.object? service with
      | some ⟨count, .service user owned⟩ => interpreter.closeService service count user owned
      | _ => interpreter

end Interpreter

/-! ## Instructions as moves -/

namespace Interpreter

/-- The objects are the same up to their counts. -/
def Recounts (before after : Heap PyObject) : Prop :=
  ∀ (i : Nat) (cell : Cell PyObject), before[i]? = some cell →
    ∃ count, after[i]? = some ⟨count, cell.value⟩

theorem recounts_refl (heap : Heap PyObject) : Recounts heap heap :=
  fun _ cell present => ⟨cell.count, present⟩

theorem recounts_acquire (heap : Heap PyObject) (address : Nat) :
    Recounts heap (heap.acquire address) := by
  intro i cell present
  unfold Heap.acquire
  split
  · exact ⟨cell.count, present⟩
  · rename_i acquired found
    by_cases same : address = i
    · subst same
      cases found.symm.trans present
      exact ⟨_, List.getElem?_set_self (List.getElem?_eq_some_iff.mp present).1⟩
    · exact ⟨cell.count, (List.getElem?_set_ne same).trans present⟩

/-- The counts on the heap are right, the heap and the log were reached by moves, and what the
program refers to owns its C++ object. -/
structure Reached (respond : Responder) (heap : Heap PyObject) (log : List Entry)
    (references : List Nat) (interpreter : Interpreter) : Prop where
  counted : Counted PyObject.parent references interpreter.heap
  moves : Moves respond heap log interpreter.heap interpreter.log
  housed : Housed interpreter.heap
  owned : ∀ i ∈ interpreter.references, ∃ cell : Cell PyObject,
    interpreter.heap[i]? = some cell ∧ cell.value.owns = true

variable {respond : Responder} {heap : Heap PyObject} {log : List Entry}
  {interpreter : Interpreter}

namespace Reached

theorem extend {references references' : List Nat} {after : Interpreter}
    (reached : Reached respond heap log references interpreter)
    (moves : Moves respond interpreter.heap interpreter.log after.heap after.log)
    (counted : Counted PyObject.parent references' after.heap)
    (given : ∀ i ∈ after.references, i ∈ interpreter.references ∨
      ∃ cell : Cell PyObject, after.heap[i]? = some cell ∧ cell.value.owns = true) :
    Reached respond heap log references' after where
  counted := counted
  moves := reached.moves.trans moves
  housed := moves.housed reached.housed
  owned := by
    intro i held
    rcases given i held with earlier | new
    · obtain ⟨cell, present, owns⟩ := reached.owned i earlier
      obtain ⟨later, present', outline⟩ := moves.persists present
      exact ⟨later, present', outline.owns.trans owns⟩
    · exact new

theorem alive (reached : Reached respond heap log interpreter.references interpreter) {i : Nat}
    {cell : Cell PyObject} (found : interpreter.object? i = some cell) : cell.count ≠ 0 := by
  obtain ⟨held, present⟩ := object?_eq_some found
  obtain ⟨cell', present', alive⟩ := reached.counted.reference_alive held
  cases present.symm.trans present'
  exact alive

theorem decref {address : Nat} {references : List Nat}
    (reached : Reached respond heap log (address :: references) interpreter) :
    Reached respond heap log references (interpreter.decref respond address) := by
  obtain ⟨counted, moves⟩ := Moves.start.release reached.counted
  exact reached.extend moves counted fun i held => .inl held

theorem allocate (reached : Reached respond heap log interpreter.references interpreter)
    {object : PyObject} {entries : List Entry}
    (held : ∀ parent ∈ object.parent, ∃ cell, interpreter.object? parent = some cell)
    (created : ∀ after, Recounts interpreter.heap after →
      Created respond after interpreter.heap.length object entries) :
    Reached respond heap log (interpreter.heap.length :: interpreter.references)
      (interpreter.allocate object entries) := by
  cases above : object.parent with
  | none =>
      have made := created interpreter.heap (recounts_refl _)
      apply reached.extend
      · simp only [Interpreter.allocate, above]
        exact Moves.start.create made
      · simp only [Interpreter.allocate, above]
        exact Counted.create (by simpa [above] using reached.counted)
      · exact fun i held => .inl held
  | some parent =>
      obtain ⟨cell, found⟩ := held parent above
      obtain ⟨_, present⟩ := object?_eq_some found
      have alive := reached.alive found
      have length : (interpreter.heap.acquire parent).length = interpreter.heap.length := by
        simp [Heap.acquire, present]
      have counted : Counted PyObject.parent (parent :: interpreter.references)
          (interpreter.heap.acquire parent) := by
        rw [Heap.acquire, present]
        exact reached.counted.acquire present alive
      have made := created _ (recounts_acquire interpreter.heap parent)
      rw [← length] at made ⊢
      apply reached.extend
      · simp only [Interpreter.allocate, above]
        exact (Moves.start.acquire present alive).create made
      · simp only [Interpreter.allocate, above]
        exact Counted.create (by simpa [above] using counted)
      · exact fun i held => .inl held

theorem getLast_allocate (interpreter : Interpreter) (object : PyObject) (entries : List Entry) :
    (interpreter.allocate object entries).heap[interpreter.heap.length]? =
      some ⟨1, object⟩ := by
  cases above : object.parent with
  | none => simp [Interpreter.allocate, above]
  | some parent =>
      have length : (interpreter.heap.acquire parent).length = interpreter.heap.length := by
        unfold Heap.acquire
        split <;> simp
      simp only [Interpreter.allocate, above]
      rw [← length]
      exact List.getElem?_concat_length

/-- A constructor call, whether it returns or raises. -/
theorem construct (reached : Reached respond heap log interpreter.references interpreter)
    (object : PyObject) (entries : List Entry)
    (held : ∀ parent ∈ object.parent, ∃ cell, interpreter.object? parent = some cell)
    (created : ∀ after, Recounts interpreter.heap after →
      Created respond after interpreter.heap.length object entries) {ok : Bool}
    (owns : ok = true → object.owns = true) :
    let after := (interpreter.allocate object entries).finish respond interpreter.heap.length ok
    Reached respond heap log after.references after := by
  have allocated := reached.allocate held created
  cases ok with
  | false => exact allocated.decref
  | true =>
      refine allocated.extend .start allocated.counted fun i held => ?_
      rcases List.mem_cons.mp held with rfl | earlier
      · exact .inr ⟨_, getLast_allocate interpreter object entries, owns rfl⟩
      · exact .inl earlier

theorem connect (reached : Reached respond heap log interpreter.references interpreter)
    (user : Bytes) (connecting : Connecting) :
    Reached respond heap log (interpreter.connect respond user connecting).references
      (interpreter.connect respond user connecting) := by
  cases connecting with
  | notImplemented =>
      exact reached.construct (.service user none) [] (by simp [PyObject.parent])
        (fun _ _ => .unconnected user none (by simp)) (by simp)
  | refused =>
      exact reached.construct (.service user (some ⟨false⟩)) [] (by simp [PyObject.parent])
        (fun _ _ => .unconnected user _ (by simp)) (by simp)
  | connected =>
      exact reached.construct (.service user (some ⟨true⟩)) [.connected interpreter.heap.length]
        (by simp [PyObject.parent]) (fun _ _ => .connected user) fun _ => rfl

theorem openSession (reached : Reached respond heap log interpreter.references interpreter)
    {service count : Nat} {user : Bytes} {owned : Option Service}
    (found : interpreter.object? service = some ⟨count, .service user owned⟩) :
    Reached respond heap log (interpreter.openSession respond service user).references
      (interpreter.openSession respond service user) := by
  obtain ⟨held, present⟩ := object?_eq_some found
  obtain ⟨cell, present', owns⟩ := reached.owned service held
  cases present.symm.trans present'
  obtain ⟨owned, rfl⟩ := Option.isSome_iff_exists.mp owns
  apply reached.construct
  · intro parent holds
    cases holds
    exact ⟨_, found⟩
  · intro after recounts
    obtain ⟨later, present⟩ := recounts service _ present
    exact .session present
  · exact fun _ => rfl

theorem execute (reached : Reached respond heap log interpreter.references interpreter)
    {parent count service : Nat} {session : Session}
    (found : interpreter.object? parent = some ⟨count, .session service (some session)⟩)
    (statement : Option Bytes) :
    Reached respond heap log (interpreter.execute respond parent session statement).references
      (interpreter.execute respond parent session statement) := by
  have held : ∀ owned, ∀ above ∈ (PyObject.operation parent owned).parent,
      ∃ cell, interpreter.object? above = some cell := by
    intro owned above holds
    cases holds
    exact ⟨_, found⟩
  have present := (object?_eq_some found).2
  cases statement with
  | none =>
      refine reached.construct _ [] (held none) (fun after recounts => ?_) (by simp)
      obtain ⟨later, present⟩ := recounts parent _ present
      exact .unexecuted present
  | some statement =>
      refine reached.construct _ _ (held _) (fun after recounts => ?_) fun _ => rfl
      obtain ⟨later, present⟩ := recounts parent _ present
      exact .operation present statement

/-- A method that leaves the references alone. -/
theorem touch (reached : Reached respond heap log interpreter.references interpreter)
    {address : Nat} {cell : Cell PyObject} (found : interpreter.object? address = some cell)
    {object : PyObject} {entries : List Entry}
    (touched : Touched respond address cell.value object entries) :
    Reached respond heap log interpreter.references
      { interpreter with
        heap := interpreter.heap.set address ⟨cell.count, object⟩
        log := interpreter.log ++ entries } := by
  have present := (object?_eq_some found).2
  have alive := reached.alive found
  apply reached.extend
  · exact Moves.start.touch ⟨present, alive, touched, fun last => absurd last alive⟩
  · exact reached.counted.update present touched.sameOutline.parent
  · exact fun i held => .inl held

theorem share (reached : Reached respond heap log interpreter.references interpreter)
    {address : Nat} {cell : Cell PyObject} (present : interpreter.heap[address]? = some cell)
    (alive : cell.count ≠ 0) (owns : cell.value.owns = true) :
    Reached respond heap log ((interpreter.acquire address).give address).references
      ((interpreter.acquire address).give address) := by
  have moves : Moves respond interpreter.heap interpreter.log
      (interpreter.heap.acquire address) interpreter.log := Moves.start.acquire present alive
  apply reached.extend moves
  · show Counted PyObject.parent (address :: interpreter.references)
      (interpreter.heap.acquire address)
    rw [Heap.acquire, present]
    exact reached.counted.acquire present alive
  · intro i held
    rcases List.mem_cons.mp held with rfl | earlier
    · obtain ⟨later, present', outline⟩ := moves.persists present
      exact .inr ⟨later, present', outline.owns.trans owns⟩
    · exact .inl earlier

theorem obey (reached : Reached respond heap log interpreter.references interpreter)
    (command : Command) :
    Reached respond heap log (interpreter.obey respond command).references
      (interpreter.obey respond command) := by
  cases command with
  | connect user connecting => exact reached.connect user connecting
  | openSession service =>
      simp only [Interpreter.obey]
      split
      · rename_i found
        exact reached.openSession found
      · exact reached
  | execute parent statement =>
      simp only [Interpreter.obey]
      split
      · rename_i found
        exact reached.execute found statement
      · exact reached
  | call operation call =>
      simp only [Interpreter.obey]
      split
      · rename_i found
        exact reached.touch found (.operation _ _ call)
      · exact reached
  | copy object =>
      simp only [Interpreter.obey]
      split
      · rename_i found
        obtain ⟨held, present⟩ := object?_eq_some found
        obtain ⟨cell, present', owns⟩ := reached.owned object held
        cases present.symm.trans present'
        exact reached.share present (reached.alive found) owns
      · exact reached
  | parent object =>
      simp only [Interpreter.obey]
      split
      · rename_i parent holds
        obtain ⟨cell, found, holds⟩ := Option.bind_eq_some_iff.mp holds
        obtain ⟨above, present, alive⟩ := reached.counted.parent_alive (object?_eq_some found).2
          (reached.alive found) holds
        obtain ⟨above', present', _, owns⟩ :=
          reached.housed object parent cell (object?_eq_some found).2 holds
        cases present.symm.trans present'
        exact reached.share present alive owns
      · exact reached
  | drop object =>
      simp only [Interpreter.obey]
      split
      · rename_i found
        obtain ⟨held, _⟩ := object?_eq_some found
        have given : Reached respond heap log (object :: interpreter.references.erase object)
            { interpreter with references := interpreter.references.erase object } :=
          ⟨reached.counted.perm (List.perm_cons_erase held), reached.moves, reached.housed,
            fun i kept => reached.owned i (List.mem_of_mem_erase kept)⟩
        exact given.decref
      · exact reached

/-- An instruction goes on from what was reached before it. -/
theorem perform {instruction : Instruction}
    (reached : Reached respond heap log interpreter.references interpreter) :
    Reached respond heap log (interpreter.perform ⟨instruction, respond⟩).references
      (interpreter.perform ⟨instruction, respond⟩) := by
  unfold Interpreter.perform
  cases instruction with
  | command command => exact reached.obey command
  | closeSession session =>
      dsimp only
      split
      · rename_i found
        exact reached.touch found (.session _ _)
      · exact reached
  | closeService service =>
      dsimp only
      split
      · rename_i found
        exact reached.touch found (.service _ _)
      · exact reached

end Reached

/-- The reference counts are right, and no reference leads to an object without its C++ object. -/
structure Healthy (interpreter : Interpreter) : Prop where
  counted : Counted PyObject.parent interpreter.references interpreter.heap
  housed : Housed interpreter.heap
  owned : ∀ i ∈ interpreter.references, ∃ cell : Cell PyObject,
    interpreter.heap[i]? = some cell ∧ cell.value.owns = true

/-- Every instruction is a sequence of moves. -/
theorem Healthy.perform (healthy : interpreter.Healthy) (instructed : Instructed) :
    (interpreter.perform instructed).Healthy ∧
      Moves instructed.respond interpreter.heap interpreter.log
        (interpreter.perform instructed).heap (interpreter.perform instructed).log := by
  have reached : Reached instructed.respond interpreter.heap interpreter.log
      (interpreter.perform instructed).references (interpreter.perform instructed) :=
    Reached.perform ⟨healthy.counted, .start, healthy.housed, healthy.owned⟩
  exact ⟨⟨reached.counted, reached.housed, reached.owned⟩, reached.moves⟩

theorem healthy_empty : ({} : Interpreter).Healthy :=
  ⟨counted_nil _, by simp [Housed], by simp⟩

/-- What the moves preserve, every program preserves. -/
theorem perform_invariant (invariant : Heap PyObject → List Entry → Prop)
    (preserved : ∀ respond heap log heap' log', invariant heap log →
      Moves respond heap log heap' log' → invariant heap' log')
    {start : Interpreter} (healthy : start.Healthy) (initially : invariant start.heap start.log)
    (program : List Instructed) :
    (run Interpreter.perform start program).Healthy ∧
      invariant (run Interpreter.perform start program).heap
        (run Interpreter.perform start program).log := by
  have conforms : AllSteps Interpreter.perform (fun _ _ => True) start program :=
    allSteps_of_forall (fun _ _ => trivial) _ _
  refine run_invariant (fun state : Interpreter =>
    state.Healthy ∧ invariant state.heap state.log) ?_ ⟨healthy, initially⟩ conforms
  rintro state instructed ⟨healthy, holds⟩ -
  obtain ⟨after, moves⟩ := healthy.perform instructed
  exact ⟨after, preserved _ _ _ _ _ holds moves⟩

end Interpreter

end HS2Client.Py
