import HS2Client.Python.Programs

/-!
# Children are closed before their parents

What nested lifetimes say of the requests themselves: operations are closed before their
session, sessions before their service, and each of them once.
-/

namespace HS2Client.Py

open Nesting RefCounting Runs

namespace Entry

def opensSession (address service : Nat) : Entry → Bool
  | .session own above exchange =>
      own = address && above = service && exchange.method = .openSession && exchange.succeeds
  | _ => false

def closesSession (address : Nat) : Entry → Bool
  | .session own _ exchange => own = address && exchange.method = .closeSession
  | _ => false

def opensOperation (address above : Nat) : Entry → Bool
  | .operation own parent exchange =>
      own = address && parent = above && exchange.method = .executeStatement && exchange.succeeds
  | _ => false

def closesOperation (address : Nat) : Entry → Bool
  | .operation own _ exchange => own = address && exchange.method = .closeOperation
  | _ => false

theorem opensSession_iff {entry : Entry} {address service : Nat} :
    entry.opensSession address service = true ↔
      entry.action = .opens (.session address) (some (.service service)) := by
  rcases entry with _ | _ | ⟨_, _, method, _, outcome⟩ | ⟨_, _, method, _, outcome⟩
  · simp [opensSession, action]
  · simp [opensSession, action]
  · cases method <;> cases success : outcome.isSuccess <;>
      simp [opensSession, action, Exchange.succeeds, success]
  · cases method <;> cases success : outcome.isSuccess <;>
      simp [opensSession, action, Exchange.succeeds, success]

theorem closesSession_iff {entry : Entry} {address : Nat} :
    entry.closesSession address = true ↔ entry.action = .closes (.session address) := by
  rcases entry with _ | _ | ⟨_, _, method, _, outcome⟩ | ⟨_, _, method, _, outcome⟩
  · simp [closesSession, action]
  · simp [closesSession, action]
  · cases method <;> cases success : outcome.isSuccess <;>
      simp [closesSession, action, Exchange.succeeds, success]
  · cases method <;> cases success : outcome.isSuccess <;>
      simp [closesSession, action, Exchange.succeeds, success]

theorem opensOperation_iff {entry : Entry} {address above : Nat} :
    entry.opensOperation address above = true ↔
      entry.action = .opens (.operation address) (some (.session above)) := by
  rcases entry with _ | _ | ⟨_, _, method, _, outcome⟩ | ⟨_, _, method, _, outcome⟩
  · simp [opensOperation, action]
  · simp [opensOperation, action]
  · cases method <;> cases success : outcome.isSuccess <;>
      simp [opensOperation, action, Exchange.succeeds, success]
  · cases method <;> cases success : outcome.isSuccess <;>
      simp [opensOperation, action, Exchange.succeeds, success]

theorem closesOperation_iff {entry : Entry} {address : Nat} :
    entry.closesOperation address = true ↔ entry.action = .closes (.operation address) := by
  rcases entry with _ | _ | ⟨_, _, method, _, outcome⟩ | ⟨_, _, method, _, outcome⟩
  · simp [closesOperation, action]
  · simp [closesOperation, action]
  · cases method <;> cases success : outcome.isSuccess <;>
      simp [closesOperation, action, Exchange.succeeds, success]
  · cases method <;> cases success : outcome.isSuccess <;>
      simp [closesOperation, action, Exchange.succeeds, success]

theorem eq_disconnected {entry : Entry} {service : Nat}
    (closes : entry.action = .closes (.service service)) : entry = .disconnected service := by
  have own : entry.ref = .service service := ref_of_subject? (by rw [closes]; rfl)
  cases entry with
  | connected address => cases closes
  | disconnected address =>
      cases own
      rfl
  | session address above exchange => cases own
  | operation address above exchange => cases own

/-- The entry is a request on the connection of the service. -/
def SentOver (log : List Entry) (service : Nat) : Entry → Prop
  | .connected _ => False
  | .disconnected _ => False
  | .session _ above _ => above = service
  | .operation _ above _ => ∃ opening ∈ log, opening.opensSession above service = true

end Entry

/-- In a log of this kind every session and every operation is closed at most once, and only
after it was opened; the operations of a session are closed when the session is closed, and the
sessions of a service when the service is disconnected, after which nothing is sent. -/
structure ClosesChildrenFirst (log : List Entry) : Prop where
  sessionOnce : ∀ session, log.countP (Entry.closesSession session) ≤ 1
  operationOnce : ∀ op, log.countP (Entry.closesOperation op) ≤ 1
  sessionOpened : ∀ session, ∀ closing ∈ log, closing.closesSession session = true →
    ∃ service, ∃ opening ∈ log, opening.opensSession session service = true
  operationOpened : ∀ op, ∀ closing ∈ log, closing.closesOperation op = true →
    ∃ session, ∃ opening ∈ log, opening.opensOperation op session = true
  operationsFirst : ∀ before closing after session, log = before ++ closing :: after →
    closing.closesSession session = true → ∀ op, ∀ opening ∈ log,
      opening.opensOperation op session = true → before.countP (Entry.closesOperation op) = 1
  sessionsFirst : ∀ before after service, log = before ++ .disconnected service :: after →
    ∀ session, ∀ opening ∈ log, opening.opensSession session service = true →
      before.countP (Entry.closesSession session) = 1
  silence : ∀ before after service, log = before ++ .disconnected service :: after →
    ∀ entry ∈ after, ¬ entry.SentOver log service

structure ClosesEverything (log : List Entry) : Prop where
  services : ∀ service, .connected service ∈ log → .disconnected service ∈ log
  sessions : ∀ session service, ∀ opening ∈ log, opening.opensSession session service = true →
    log.countP (Entry.closesSession session) = 1
  operations : ∀ op session, ∀ opening ∈ log, opening.opensOperation op session = true →
    log.countP (Entry.closesOperation op) = 1

theorem countP_closesSession (log : List Entry) (session : Nat) :
    log.countP (Entry.closesSession session) = (trace log).count (.closes (.session session)) := by
  rw [trace, List.count, List.countP_map]
  apply List.countP_congr
  intro entry _
  simp [Entry.closesSession_iff]

theorem countP_closesOperation (log : List Entry) (op : Nat) :
    log.countP (Entry.closesOperation op) = (trace log).count (.closes (.operation op)) := by
  rw [trace, List.count, List.countP_map]
  apply List.countP_congr
  intro entry _
  simp [Entry.closesOperation_iff]

theorem Orderly.not_sent {heap : Heap PyObject} {before after : List Entry}
    (orderly : Orderly heap (before ++ after)) {above : Ref}
    (closed : .closes above ∈ trace before) {entry : Entry} (later : entry ∈ after) :
    entry.parentRef ≠ some above := by
  intro inside
  have nested := orderly.nested
  rw [trace, List.map_append] at nested
  have occurs : entry.action ∈ after.map Entry.action := List.mem_map_of_mem later
  have untouched := nested.not_touches closed _ occurs
  rcases entry.action_cases with opens | closes | ⟨holder, holds, uses⟩
  · rw [opens] at untouched
    exact untouched (.inr inside)
  · have member : .closes entry.ref ∈ trace (before ++ after) := by
      rw [← closes]
      exact List.mem_map_of_mem (List.mem_append_right before later)
    obtain ⟨parent, opened⟩ := orderly.nested.opened_of_closed member
    obtain ⟨cell, present, _, recorded⟩ := orderly.recorded opened
    obtain ⟨cell', present', _, attributed⟩ :=
      orderly.attributed entry (List.mem_append_right before later)
    cases present.symm.trans present'
    rw [← recorded, attributed, inside, trace, List.map_append] at opened
    have already := nested.child_closed closed opened
    apply nested.not_touches already _ occurs
    rw [closes]
    rfl
  · rw [uses] at untouched
    exact untouched (Option.some.inj (holds.symm.trans inside))

/-- Nothing is sent over a connection that is closed. -/
theorem Orderly.not_sentOver {heap : Heap PyObject} {before after : List Entry} {service : Nat}
    (orderly : Orderly heap (before ++ .disconnected service :: after)) {entry : Entry}
    (later : entry ∈ after) :
    ¬ entry.SentOver (before ++ .disconnected service :: after) service := by
  have closed : .closes (.service service) ∈ trace (before ++ [.disconnected service]) := by
    simp [trace, Entry.action]
  rw [List.append_cons] at orderly ⊢
  intro sent
  cases entry with
  | connected address => exact sent
  | disconnected address => exact sent
  | session address above exchange =>
      cases sent
      exact orderly.not_sent closed later rfl
  | operation address above exchange =>
      obtain ⟨opening, member, opens⟩ := sent
      have nested := orderly.nested
      rw [trace, List.map_append] at nested
      have sessionClosed :
          .closes (.session above) ∈ trace (before ++ [.disconnected service]) := by
        apply nested.child_closed closed
        rw [← List.map_append, ← Entry.opensSession_iff.mp opens]
        exact List.mem_map_of_mem member
      exact orderly.not_sent sessionClosed later rfl

theorem count_closes_before {before after : List Entry} {closing opening : Entry} {above child : Ref}
    (nested : Nested (trace (before ++ closing :: after)))
    (closes : closing.action = .closes above) (member : opening ∈ before ++ closing :: after)
    (opens : opening.action = .opens child (some above)) :
    (trace before).count (.closes child) = 1 := by
  have opened : .opens child (some above) ∈ trace (before ++ closing :: after) := by
    rw [← opens]
    exact List.mem_map_of_mem member
  rw [trace, List.map_append, List.map_cons, closes] at nested opened
  have once := nested.closes_once child
  have already := List.count_pos_iff.mpr (nested.children_first opened)
  rw [List.count_append] at once
  rw [trace]
  omega

theorem exists_opening {log : List Entry} (nested : Nested (trace log)) {closing : Entry} {ref : Ref}
    (member : closing ∈ log) (closes : closing.action = .closes ref) :
    ∃ opening ∈ log, opening.ref = ref ∧ opening.action = .opens ref opening.parentRef := by
  have closed : .closes ref ∈ trace log := by
    rw [← closes]
    exact List.mem_map_of_mem member
  obtain ⟨parent, opened⟩ := nested.opened_of_closed closed
  obtain ⟨opening, member, opens⟩ := List.mem_map.mp opened
  obtain ⟨own, rfl⟩ := Entry.of_opens opens
  exact ⟨opening, member, own, opens⟩

theorem Orderly.closesChildrenFirst {heap : Heap PyObject} {log : List Entry}
    (orderly : Orderly heap log) : ClosesChildrenFirst log where
  sessionOnce session := by
    rw [countP_closesSession]
    exact orderly.nested.closes_once _
  operationOnce op := by
    rw [countP_closesOperation]
    exact orderly.nested.closes_once _
  sessionOpened session closing member closes := by
    obtain ⟨opening, member, own, opens⟩ :=
      exists_opening orderly.nested member (Entry.closesSession_iff.mp closes)
    cases opening with
    | session address service exchange =>
        exact ⟨service, _, member, Entry.opensSession_iff.mpr opens⟩
    | _ => cases own
  operationOpened op closing member closes := by
    obtain ⟨opening, member, own, opens⟩ :=
      exists_opening orderly.nested member (Entry.closesOperation_iff.mp closes)
    cases opening with
    | operation address session exchange =>
        exact ⟨session, _, member, Entry.opensOperation_iff.mpr opens⟩
    | _ => cases own
  operationsFirst := by
    rintro before closing after session rfl closes op opening member opens
    rw [countP_closesOperation]
    exact count_closes_before orderly.nested (Entry.closesSession_iff.mp closes) member
      (Entry.opensOperation_iff.mp opens)
  sessionsFirst := by
    rintro before after service rfl session opening member opens
    rw [countP_closesSession]
    exact count_closes_before orderly.nested rfl member (Entry.opensSession_iff.mp opens)
  silence := by
    rintro before after service rfl entry later
    exact orderly.not_sentOver later

theorem Interpreter.Consistent.closesEverything {interpreter : Interpreter}
    (consistent : interpreter.Consistent) (dropped : interpreter.references = []) :
    ClosesEverything interpreter.log := by
  obtain ⟨counted, orderly, _⟩ := consistent
  rw [dropped] at counted
  have closed : ∀ opening ∈ interpreter.log, ∀ ref parent,
      opening.action = .opens ref parent → .closes ref ∈ trace interpreter.log := by
    intro opening member ref parent opens
    refine orderly.closed_of_dead ⟨parent, ?_⟩ fun cell => counted.all_dead _ cell
    rw [← opens]
    exact List.mem_map_of_mem member
  refine ⟨fun service member => ?_, fun session service opening member opens => ?_,
    fun op session opening member opens => ?_⟩
  · obtain ⟨closing, closes, action⟩ := List.mem_map.mp (closed _ member _ _ rfl)
    rwa [Entry.eq_disconnected action] at closes
  · rw [countP_closesSession]
    have once := orderly.nested.closes_once (.session session)
    have := List.count_pos_iff.mpr (closed opening member _ _ (Entry.opensSession_iff.mp opens))
    omega
  · rw [countP_closesOperation]
    have once := orderly.nested.closes_once (.operation op)
    have := List.count_pos_iff.mpr (closed opening member _ _ (Entry.opensOperation_iff.mp opens))
    omega

/-- Whatever a program does and in whatever order it drops its references, children are closed
before their parents and at most once, and nothing is left open in the end. -/
theorem program_closesChildrenFirst (program : List ProgramStep) :
    ClosesChildrenFirst (run Interpreter.step {} program).log ∧
      ((run Interpreter.step {} program).references = [] →
        ClosesEverything (run Interpreter.step {} program).log) := by
  have consistent := Interpreter.consistent_run program
  exact ⟨consistent.orderly.closesChildrenFirst, consistent.closesEverything⟩

/-- The objects of `test_service_session_scope`, against a server that answers everything. -/
def serviceSessionScope : List ProgramStep :=
  [.connect [] .connected, .openSession 0, .drop 0, .execute 1 (some (ascii "show tables")),
    .drop 1, .drop 2].map fun command =>
      { command := command, respond := fun method req => .reply (successResp method req),
        closeOperation := fun _ => rfl, closeSession := fun _ => rfl }

theorem serviceSessionScope_closesEverything :
    trace (run Interpreter.step {} serviceSessionScope).log =
        [.opens (.service 0) none, .opens (.session 1) (some (.service 0)),
          .opens (.operation 2) (some (.session 1)), .closes (.operation 2),
          .closes (.session 1), .closes (.service 0)] ∧
      ClosesEverything (run Interpreter.step {} serviceSessionScope).log :=
  ⟨by decide, (program_closesChildrenFirst serviceSessionScope).2 (by decide)⟩

end HS2Client.Py
