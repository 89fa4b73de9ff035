import HS2Client.Client.HandleRouting
import HS2Client.Library.Accounts
import HS2Client.Library.Runs

/-!
# Client and server

Any server, and any loss of requests and replies. The server may refuse what it is asked, and end
handles on its own: those of the operations of a session that it closes, or those that expire. Two
things are asked of it. It issues a handle only once, and a close that it answers with success was
about a live handle.
-/

namespace HS2Client

open Leases Registry Runs

inductive Fate where
  | delivered
  | replyLost (what : Bytes)
  | requestLost (what : Bytes)

/-- A call, the fate of its messages and what the server does. -/
structure Contact where
  call : Call
  fate : Fate := .delivered
  answer : (method : Method) → method.Req → method.Resp := successResp
  /-- The handles that the server ends otherwise than by closing them with success. -/
  endedSessions : List TSessionHandle := []
  endedOperations : List TOperationHandle := []

namespace Contact

def arrives (contact : Contact) : Bool :=
  match contact.fate with
  | .delivered => true
  | .replyLost _ => true
  | .requestLost _ => false

def heard (contact : Contact) : Bool :=
  match contact.fate with
  | .delivered => true
  | .replyLost _ => false
  | .requestLost _ => false

def respond (contact : Contact) : Responder := fun method req =>
  match contact.fate with
  | .delivered => .reply (contact.answer method req)
  | .replyLost what => .exception what
  | .requestLost what => .exception what

end Contact

namespace Exchange

def closedSession? (exchange : Exchange) : Option TSessionHandle :=
  if exchange.method = .closeSession ∧ exchange.succeeds then exchange.sessionHandle? else none

def closedOperation? (exchange : Exchange) : Option TOperationHandle :=
  if exchange.method = .closeOperation ∧ exchange.succeeds then exchange.operationHandle?
  else none

end Exchange

/-- The client, and what the server has issued and ended. -/
structure Contacted where
  world : World := {}
  sessions : Ledger TSessionHandle := {}
  operations : Ledger TOperationHandle := {}

namespace Contacted

/-- The request with the answer that the server gives it, if it arrives. -/
def served? (state : Contacted) (contact : Contact) : Option Exchange :=
  if contact.arrives then
    (state.world.request? contact.call).map fun ⟨method, req⟩ =>
      ⟨method, req, .reply (contact.answer method req)⟩
  else none

def newSession? (state : Contacted) (contact : Contact) : Option TSessionHandle :=
  (state.served? contact).bind Exchange.openedSession?

def newOperation? (state : Contacted) (contact : Contact) : Option TOperationHandle :=
  (state.served? contact).bind Exchange.openedOperation?

def closedSession? (state : Contacted) (contact : Contact) : Option TSessionHandle :=
  (state.served? contact).bind Exchange.closedSession?

def closedOperation? (state : Contacted) (contact : Contact) : Option TOperationHandle :=
  (state.served? contact).bind Exchange.closedOperation?

def step (state : Contacted) (contact : Contact) : Contacted where
  world := state.world.step ⟨contact.call, contact.respond⟩
  sessions := state.sessions.after contact.heard (state.newSession? contact)
    (state.closedSession? contact) contact.endedSessions
  operations := state.operations.after contact.heard (state.newOperation? contact)
    (state.closedOperation? contact) contact.endedOperations

/-- What is asked of the server. -/
structure Lawful (state : Contacted) (contact : Contact) : Prop where
  newSession : ∀ handle ∈ state.newSession? contact, handle ∉ state.sessions.issued
  newOperation : ∀ handle ∈ state.newOperation? contact, handle ∉ state.operations.issued
  closedSession : ∀ handle ∈ state.closedSession? contact, handle ∈ state.sessions.live
  closedOperation : ∀ handle ∈ state.closedOperation? contact, handle ∈ state.operations.live

end Contacted

def sessionEntry (object : SessionObject) : Entry TSessionHandle :=
  (opened sessionProtocol object.exchanges, object.session.open_)

def operationEntry (object : OperationObject) : Entry TOperationHandle :=
  (object.exchanges.head?.bind Exchange.openedOperation?, object.op.open_)

/-- The handles of the sessions that are open for the client. -/
def World.openSessions (world : World) : List TSessionHandle :=
  (world.sessions.filter fun object => object.session.open_).map fun object =>
    object.session.handle

def World.openOperations (world : World) : List TOperationHandle :=
  (world.operations.filter fun object => object.op.open_).map fun object => object.op.handle

/-! ## The entries after a call -/

section Entries

variable {world : World} {respond : Responder}

theorem sessionEntries_openSession (config : List (Bytes × Bytes)) (user : Bytes) :
    let delivered := Exchange.openedSession? ⟨.openSession,
      { username := user, configuration := config }, respond .openSession
        { username := user, configuration := config }⟩
    (world.step ⟨.openSession config user, respond⟩).sessions.map sessionEntry =
      world.sessions.map sessionEntry ++ [(delivered, delivered.isSome)] := by
  intro delivered
  obtain ⟨resume, opens⟩ := Session.opens config user
  rw [World.step_openSession, opens.rpc_eq, List.map_append, List.map_singleton]
  simp only [sessionEntry, Rpc.run_send, Rpc.exchange?_send, Option.toList_some]
  rw [opens.flag _ { username := user, configuration := config }]
  rfl

theorem operationEntries_executeStatement {i : Nat} {creator : SessionObject}
    (present : world.sessions[i]? = some creator) (statement : Bytes)
    (confOverlay : List (Bytes × Bytes)) :
    let req : TExecuteStatementReq :=
      { sessionHandle := creator.session.handle, statement := statement,
        confOverlay := confOverlay }
    let delivered := Exchange.openedOperation?
      ⟨.executeStatement, req, respond .executeStatement req⟩
    (world.step ⟨.executeStatement i statement confOverlay, respond⟩).operations.map
        operationEntry =
      world.operations.map operationEntry ++ [(delivered, delivered.isSome)] := by
  intro req delivered
  obtain ⟨resume, opens⟩ := creator.session.executes statement confOverlay
  rw [World.step_executeStatement _ _ present, opens.rpc_eq, List.map_append, List.map_singleton]
  simp only [operationEntry, Rpc.run_send, Rpc.exchange?_send, Option.toList_some]
  rw [opens.flag _ req]
  rfl

theorem sessionEntry_of_open {object : SessionObject}
    (follows : Follows sessionProtocol object.session.open_ object.session.handle
      object.exchanges) (isOpen : object.session.open_ = true) :
    sessionEntry object = (some object.session.handle, true) := by
  obtain ⟨own, delivered⟩ := Option.isSome_iff_exists.mp (follows.open_iff.mp isOpen).1
  rw [sessionEntry, isOpen, delivered, follows.handle_eq own delivered]

theorem operationEntry_of_open {session : TSessionHandle} {object : OperationObject}
    (own : FollowsSession session object.op object.exchanges) (isOpen : object.op.open_ = true) :
    operationEntry object = (some object.op.handle, true) := by
  obtain ⟨handle, delivered⟩ := Option.isSome_iff_exists.mp (own.follows.open_iff.mp isOpen).1
  have entry : operationEntry object =
      (opened (operationProtocol session) object.exchanges, object.op.open_) := rfl
  rw [entry, isOpen, delivered, own.follows.handle_eq handle delivered]

theorem getElem?_sessionEntry {i : Nat} {handle : TSessionHandle} (sound : world.Sound) :
    (world.sessions.map sessionEntry)[i]? = some (some handle, true) ↔
      ∃ object, world.sessions[i]? = some object ∧ object.session.open_ = true ∧
        object.session.handle = handle := by
  rw [List.getElem?_map, Option.map_eq_some_iff]
  constructor
  · rintro ⟨object, present, entry⟩
    have isOpen : object.session.open_ = true := congrArg Prod.snd entry
    have follows := sound.sessions object (List.mem_of_getElem? present)
    exact ⟨object, present, isOpen, follows.handle_eq handle (congrArg Prod.fst entry)⟩
  · rintro ⟨object, present, isOpen, rfl⟩
    exact ⟨object, present,
      sessionEntry_of_open (sound.sessions object (List.mem_of_getElem? present)) isOpen⟩

theorem getElem?_operationEntry {i : Nat} {handle : TOperationHandle}
    (sound : world.Sound) :
    (world.operations.map operationEntry)[i]? = some (some handle, true) ↔
      ∃ object, world.operations[i]? = some object ∧ object.op.open_ = true ∧
        object.op.handle = handle := by
  rw [List.getElem?_map, Option.map_eq_some_iff]
  constructor
  · rintro ⟨object, present, entry⟩
    have isOpen : object.op.open_ = true := congrArg Prod.snd entry
    obtain ⟨creator, -, own⟩ := sound.operations object (List.mem_of_getElem? present)
    exact ⟨object, present, isOpen, own.follows.handle_eq handle (congrArg Prod.fst entry)⟩
  · rintro ⟨object, present, isOpen, rfl⟩
    obtain ⟨creator, -, own⟩ := sound.operations object (List.mem_of_getElem? present)
    exact ⟨object, present, operationEntry_of_open own isOpen⟩

theorem set_of_getElem? {Entry : Type} {entries : List Entry} {i : Nat} {entry : Entry}
    (stored : entries[i]? = some entry) : entries.set i entry = entries := by
  obtain ⟨bounded, same⟩ := List.getElem?_eq_some_iff.mp stored
  exact same ▸ List.set_getElem_self bounded

/-- A close that is sent. -/
theorem sessionEntries_closeSession (sound : world.Sound) {i : Nat} {object : SessionObject}
    (present : world.sessions[i]? = some object) (isOpen : object.session.open_ = true) :
    (world.step ⟨.closeSession i, respond⟩).sessions.map sessionEntry =
      (world.sessions.map sessionEntry).set i (some object.session.handle,
        !(respond .closeSession ⟨object.session.handle⟩).isSuccess) := by
  have follows := sound.sessions object (List.mem_of_getElem? present)
  rcases object.session.close_cases with ⟨notOpen, -⟩ | ⟨resume, request⟩
  · rw [isOpen] at notOpen
    cases notOpen
  · rw [World.step_closeSession _ _ present, request.rpc_eq, List.map_set]
    simp only [Rpc.run_send, Rpc.exchange?_send, Option.toList_some, request.after]
    congr 1
    have entry := congrArg Prod.fst (sessionEntry_of_open follows isOpen)
    simp only [sessionEntry] at entry ⊢
    rw [opened_append follows.started, entry]
    split_ifs with success
    · rw [success]
      rfl
    · rw [Bool.eq_false_iff.mpr success, isOpen]
      rfl

theorem operationEntries_close (sound : world.Sound) {i : Nat} {object : OperationObject}
    (present : world.operations[i]? = some object) (isOpen : object.op.open_ = true) :
    (world.step ⟨.onOperation i .close, respond⟩).operations.map operationEntry =
      (world.operations.map operationEntry).set i (some object.op.handle,
        !(respond .closeOperation ⟨object.op.handle⟩).isSuccess) := by
  obtain ⟨creator, -, own⟩ := sound.operations object (List.mem_of_getElem? present)
  rcases object.op.close_cases with ⟨notOpen, -⟩ | ⟨resume, request⟩
  · rw [isOpen] at notOpen
    cases notOpen
  · rw [World.step_onOperation _ _ present, List.map_set]
    simp only [OperationCall.rpc, request.rpc_eq, Rpc.run_send, Rpc.exchange?_send,
      Option.toList_some, request.after]
    congr 1
    have entry := congrArg Prod.fst (operationEntry_of_open own isOpen)
    simp only [operationEntry] at entry ⊢
    rw [List.head?_append_of_ne_nil _ own.follows.started, entry]
    split_ifs with success
    · rw [success]
      rfl
    · rw [Bool.eq_false_iff.mpr success, isOpen]
      rfl

/-- A call on an operation that closes nothing. -/
theorem operationEntries_use (sound : world.Sound) {i : Nat} {object : OperationObject}
    (present : world.operations[i]? = some object) {call : OperationCall} (other : call ≠ .close) :
    (world.step ⟨.onOperation i call, respond⟩).operations.map operationEntry =
      world.operations.map operationEntry := by
  obtain ⟨creator, -, own⟩ := sound.operations object (List.mem_of_getElem? present)
  rcases call.cases object.op with ⟨close, _⟩ | ⟨method, req, resume, request⟩
  · exact absurd close other
  · have after := request.after (respond method req)
    rw [if_neg (by simp [other])] at after
    have kept : operationEntry ⟨((call.rpc object.op).run respond).2, object.creator,
        object.exchanges ++ ((call.rpc object.op).exchange? respond).toList⟩ =
        operationEntry object := by
      simp only [operationEntry, request.rpc_eq, Rpc.run_send, Rpc.exchange?_send,
        Option.toList_some, after]
      rw [List.head?_append_of_ne_nil _ own.follows.started]
    rw [World.step_onOperation _ _ present, List.map_set, kept]
    apply set_of_getElem?
    rw [List.getElem?_map, present]
    rfl

end Entries

/-- The calls that send a request, with the object that each is about. -/
inductive World.Requests (world : World) : Call → Prop
  | openSession (config : List (Bytes × Bytes)) (user : Bytes) :
      Requests world (.openSession config user)
  | executeStatement {i : Nat} {creator : SessionObject}
      (present : world.sessions[i]? = some creator) (statement : Bytes)
      (confOverlay : List (Bytes × Bytes)) :
      Requests world (.executeStatement i statement confOverlay)
  | closeSession {i : Nat} {object : SessionObject} (present : world.sessions[i]? = some object)
      (isOpen : object.session.open_ = true) : Requests world (.closeSession i)
  | close {i : Nat} {object : OperationObject} (present : world.operations[i]? = some object)
      (isOpen : object.op.open_ = true) : Requests world (.onOperation i .close)
  | use {i : Nat} {object : OperationObject} (present : world.operations[i]? = some object)
      {call : OperationCall} (other : call ≠ .close) : Requests world (.onOperation i call)

/-- A call that sends no request changes nothing. -/
theorem World.idle_or_requests (world : World) (call : Call) :
    (world.request? call = none ∧ ∀ respond, world.step ⟨call, respond⟩ = world) ∨
      world.Requests call := by
  cases found : world.rpc? call with
  | none =>
      exact .inl ⟨by rw [request?, found]; rfl, fun respond => world.step_missing found⟩
  | some rpc =>
      cases call with
      | openSession config user => exact .inr (.openSession config user)
      | executeStatement i statement confOverlay =>
          obtain ⟨creator, present, -⟩ := Option.map_eq_some_iff.mp found
          exact .inr (.executeStatement present statement confOverlay)
      | closeSession i =>
          obtain ⟨object, present, -⟩ := Option.map_eq_some_iff.mp found
          cases isOpen : object.session.open_ with
          | true => exact .inr (.closeSession present isOpen)
          | false =>
              refine .inl ⟨?_, fun respond => ((closesSession present respond).closed isOpen).2.2⟩
              simp [request?, rpc?, present, Session.close_of_closed isOpen]
      | onOperation i call =>
          obtain ⟨object, present, -⟩ := Option.map_eq_some_iff.mp found
          by_cases closing : call = .close
          · subst closing
            cases isOpen : object.op.open_ with
            | true => exact .inr (.close present isOpen)
            | false =>
                refine .inl ⟨?_, fun respond =>
                  ((closesOperation present respond).closed isOpen).2.2⟩
                simp [request?, rpc?, present, OperationCall.rpc,
                  Operation.close_of_closed isOpen]
          · exact .inr (.use present closing)

/-- The request of a call on an operation that closes nothing. -/
theorem World.request?_use {world : World} {i : Nat} {object : OperationObject}
    (present : world.operations[i]? = some object) {call : OperationCall} (other : call ≠ .close) :
    ∃ method req, world.request? (.onOperation i call) = some ⟨method, req⟩ ∧
      method.operationHandle? req = some object.op.handle ∧ method ≠ .closeOperation := by
  rcases call.cases object.op with ⟨close, -⟩ | ⟨method, req, resume, request⟩
  · exact absurd close other
  · refine ⟨method, req, ?_, request.handle, fun closes => other ?_⟩
    · simp [request?, rpc?, present, request.rpc_eq]
    · exact of_decide_eq_true (request.closes.mp closes)

/-! ## The accounts after a call -/

namespace Contact

theorem isSuccess_respond (contact : Contact) (method : Method) (req : method.Req) :
    (contact.respond method req).isSuccess =
      (contact.heard && (Outcome.reply (contact.answer method req)).isSuccess) := by
  obtain ⟨call, fate, answer, -, -⟩ := contact
  cases fate <;> rfl

theorem openedSession?_respond (contact : Contact) (req : TOpenSessionReq) :
    Exchange.openedSession? ⟨.openSession, req, contact.respond .openSession req⟩ =
      if contact.heard then
        Exchange.openedSession? ⟨.openSession, req, .reply (contact.answer .openSession req)⟩
      else none := by
  obtain ⟨call, fate, answer, -, -⟩ := contact
  cases fate <;> rfl

theorem openedOperation?_respond (contact : Contact) (req : TExecuteStatementReq) :
    Exchange.openedOperation? ⟨.executeStatement, req, contact.respond .executeStatement req⟩ =
      if contact.heard then
        Exchange.openedOperation?
          ⟨.executeStatement, req, .reply (contact.answer .executeStatement req)⟩
      else none := by
  obtain ⟨call, fate, answer, -, -⟩ := contact
  cases fate <;> rfl

theorem arrives_of_heard {contact : Contact} (heard : contact.heard = true) :
    contact.arrives = true := by
  cases fate : contact.fate with
  | delivered => simp [arrives, fate]
  | replyLost what => simp [arrives, fate]
  | requestLost what => simp [Contact.heard, fate] at heard

end Contact

namespace Contacted

variable {state : Contacted} {contact : Contact}

structure Accounted (state : Contacted) : Prop where
  sound : state.world.Sound
  sessions : Accounts (state.world.sessions.map sessionEntry) state.sessions
  operations : Accounts (state.world.operations.map operationEntry) state.operations

/-- What a request brings about on the server. -/
theorem served?_of_request {method : Method} {req : method.Req}
    (sent : state.world.request? contact.call = some ⟨method, req⟩) :
    state.served? contact = if contact.arrives then
      some ⟨method, req, .reply (contact.answer method req)⟩ else none := by
  rw [served?, sent]
  rfl

section Sessions

/-- A request about anything but opening and closing sessions leaves them alone. -/
theorem sessions_elsewhere {method : Method} {req : method.Req}
    (sent : state.world.request? contact.call = some ⟨method, req⟩)
    (opens : method ≠ .openSession) (closes : method ≠ .closeSession) :
    state.newSession? contact = none ∧ state.closedSession? contact = none := by
  rw [newSession?, closedSession?, served?_of_request sent]
  cases contact.arrives with
  | false => exact ⟨rfl, rfl⟩
  | true =>
      refine ⟨?_, if_neg fun closing => closes closing.1⟩
      cases method <;> first | rfl | exact absurd rfl opens

theorem accounts_openSession
    (accounts : Accounts (state.world.sessions.map sessionEntry) state.sessions)
    (lawful : state.Lawful contact) {config : List (Bytes × Bytes)} {user : Bytes}
    (called : contact.call = .openSession config user) :
    Accounts ((state.step contact).world.sessions.map sessionEntry)
      (state.step contact).sessions := by
  have sent : state.world.request? contact.call =
      some ⟨.openSession, { username := user, configuration := config }⟩ := by
    rw [called]
    rfl
  have entries : (state.step contact).world.sessions.map sessionEntry =
      state.world.sessions.map sessionEntry ++
        [(if contact.heard then state.newSession? contact else none,
          (if contact.heard then state.newSession? contact else none).isSome)] := by
    have delivered : (if contact.heard then state.newSession? contact else none) =
        Exchange.openedSession? ⟨.openSession, { username := user, configuration := config },
          contact.respond .openSession { username := user, configuration := config }⟩ := by
      rw [contact.openedSession?_respond]
      split_ifs with heard
      · rw [newSession?, served?_of_request sent, if_pos (Contact.arrives_of_heard heard)]
        rfl
      · rfl
    rw [delivered, step, called]
    exact sessionEntries_openSession config user
  have closed : state.closedSession? contact = none := by
    rw [closedSession?, served?_of_request sent]
    cases contact.arrives <;> rfl
  rw [entries, step, closed]
  exact accounts.opened lawful.newSession contact.heard _

theorem accounts_closeSession (sound : state.world.Sound)
    (accounts : Accounts (state.world.sessions.map sessionEntry) state.sessions)
    (lawful : state.Lawful contact) {i : Nat} {object : SessionObject}
    (present : state.world.sessions[i]? = some object) (isOpen : object.session.open_ = true)
    (called : contact.call = .closeSession i) :
    Accounts ((state.step contact).world.sessions.map sessionEntry)
      (state.step contact).sessions := by
  have sent := World.request?_closeSession present isOpen
  rw [← called] at sent
  have held := (getElem?_sessionEntry sound).mpr ⟨object, present, isOpen, rfl⟩
  let done := contact.arrives && (Outcome.reply (contact.answer .closeSession
    ⟨object.session.handle⟩)).isSuccess
  have closed : state.closedSession? contact =
      if done then some object.session.handle else none := by
    rw [closedSession?, served?_of_request sent]
    cases arrives : contact.arrives <;>
      simp [done, arrives, Exchange.closedSession?, Exchange.succeeds, Exchange.sessionHandle?,
        Method.sessionHandle?]
  have answered : (contact.respond .closeSession ⟨object.session.handle⟩).isSuccess =
      (contact.heard && done) := by
    rw [contact.isSuccess_respond]
    cases heard : contact.heard with
    | false => rfl
    | true => simp [done, Contact.arrives_of_heard heard]
  have entries : (state.step contact).world.sessions.map sessionEntry =
      (state.world.sessions.map sessionEntry).set i
        (some object.session.handle, !(contact.heard && done)) := by
    rw [← answered, step, called]
    exact sessionEntries_closeSession sound present isOpen
  have new : state.newSession? contact = none := by
    rw [newSession?, served?_of_request sent]
    cases contact.arrives <;> rfl
  have live : done = true → object.session.handle ∈ state.sessions.live := fun executed =>
    lawful.closedSession _ (by rw [closed, if_pos executed]; rfl)
  rw [entries, step, new, closed]
  exact accounts.closed held live contact.heard _

end Sessions

section Operations

theorem operations_elsewhere {method : Method} {req : method.Req}
    (sent : state.world.request? contact.call = some ⟨method, req⟩)
    (opens : method ≠ .executeStatement) (closes : method ≠ .closeOperation) :
    state.newOperation? contact = none ∧ state.closedOperation? contact = none := by
  rw [newOperation?, closedOperation?, served?_of_request sent]
  cases contact.arrives with
  | false => exact ⟨rfl, rfl⟩
  | true =>
      refine ⟨?_, if_neg fun closing => closes closing.1⟩
      cases method <;> first | rfl | exact absurd rfl opens

theorem accounts_executeStatement
    (accounts : Accounts (state.world.operations.map operationEntry) state.operations)
    (lawful : state.Lawful contact) {i : Nat} {statement : Bytes}
    {confOverlay : List (Bytes × Bytes)} {creator : SessionObject}
    (present : state.world.sessions[i]? = some creator)
    (called : contact.call = .executeStatement i statement confOverlay) :
    Accounts ((state.step contact).world.operations.map operationEntry)
      (state.step contact).operations := by
  let req : TExecuteStatementReq :=
    { sessionHandle := creator.session.handle, statement := statement, confOverlay := confOverlay }
  have sent : state.world.request? contact.call = some ⟨.executeStatement, req⟩ := by
    simp [called, World.request?, World.rpc?, present, Session.executeStatement,
      Operation.openStatement, req]
  have entries : (state.step contact).world.operations.map operationEntry =
      state.world.operations.map operationEntry ++
        [(if contact.heard then state.newOperation? contact else none,
          (if contact.heard then state.newOperation? contact else none).isSome)] := by
    have delivered : (if contact.heard then state.newOperation? contact else none) =
        Exchange.openedOperation?
          ⟨.executeStatement, req, contact.respond .executeStatement req⟩ := by
      rw [contact.openedOperation?_respond]
      split_ifs with heard
      · rw [newOperation?, served?_of_request sent, if_pos (Contact.arrives_of_heard heard)]
        rfl
      · rfl
    rw [delivered, step, called]
    exact operationEntries_executeStatement present statement confOverlay
  have closed : state.closedOperation? contact = none := by
    rw [closedOperation?, served?_of_request sent]
    cases contact.arrives <;> rfl
  rw [entries, step, closed]
  exact accounts.opened lawful.newOperation contact.heard _

theorem accounts_closeOperation (sound : state.world.Sound)
    (accounts : Accounts (state.world.operations.map operationEntry) state.operations)
    (lawful : state.Lawful contact) {i : Nat} {object : OperationObject}
    (present : state.world.operations[i]? = some object) (isOpen : object.op.open_ = true)
    (called : contact.call = .onOperation i .close) :
    Accounts ((state.step contact).world.operations.map operationEntry)
      (state.step contact).operations := by
  have sent := World.request?_closeOperation present isOpen
  rw [← called] at sent
  have held := (getElem?_operationEntry sound).mpr ⟨object, present, isOpen, rfl⟩
  let done := contact.arrives && (Outcome.reply (contact.answer .closeOperation
    ⟨object.op.handle⟩)).isSuccess
  have closed : state.closedOperation? contact =
      if done then some object.op.handle else none := by
    rw [closedOperation?, served?_of_request sent]
    cases arrives : contact.arrives <;>
      simp [done, arrives, Exchange.closedOperation?, Exchange.succeeds,
        Exchange.operationHandle?, Method.operationHandle?]
  have answered : (contact.respond .closeOperation ⟨object.op.handle⟩).isSuccess =
      (contact.heard && done) := by
    rw [contact.isSuccess_respond]
    cases heard : contact.heard with
    | false => rfl
    | true => simp [done, Contact.arrives_of_heard heard]
  have entries : (state.step contact).world.operations.map operationEntry =
      (state.world.operations.map operationEntry).set i
        (some object.op.handle, !(contact.heard && done)) := by
    rw [← answered, step, called]
    exact operationEntries_close sound present isOpen
  have new : state.newOperation? contact = none := by
    rw [newOperation?, served?_of_request sent]
    cases contact.arrives <;> rfl
  have live : done = true → object.op.handle ∈ state.operations.live := fun executed =>
    lawful.closedOperation _ (by rw [closed, if_pos executed]; rfl)
  rw [entries, step, new, closed]
  exact accounts.closed held live contact.heard _

end Operations

/-! ## Runs -/

theorem accounted_step (accounted : state.Accounted) (lawful : state.Lawful contact) :
    (state.step contact).Accounted := by
  obtain ⟨sound, sessions, operations⟩ := accounted
  have stays : (state.step contact).world.Sound := World.sound_step sound _
  rcases state.world.idle_or_requests contact.call with ⟨idle, unchanged⟩ | requests
  · have world : (state.step contact).world = state.world := unchanged _
    have nothing : state.served? contact = none := by simp [served?, idle]
    refine ⟨stays, sessions.elsewhere (by rw [world]) ⟨?_, ?_⟩ _ _,
      operations.elsewhere (by rw [world]) ⟨?_, ?_⟩ _ _⟩
    · rw [newSession?, nothing]
      rfl
    · rw [closedSession?, nothing]
      rfl
    · rw [newOperation?, nothing]
      rfl
    · rw [closedOperation?, nothing]
      rfl
  generalize called : contact.call = call at requests
  cases requests with
  | openSession config user =>
      have sent : state.world.request? contact.call =
          some ⟨.openSession, { username := user, configuration := config }⟩ := by
        rw [called]
        rfl
      refine ⟨stays, accounts_openSession sessions lawful called,
        operations.elsewhere ?_
          (operations_elsewhere sent (by decide) (by decide)) _ _⟩
      simp [step, called, World.step_openSession]
  | @executeStatement i creator present statement confOverlay =>
      have sent : state.world.request? contact.call = some ⟨.executeStatement,
          { sessionHandle := creator.session.handle, statement := statement,
            confOverlay := confOverlay }⟩ := by
        simp [called, World.request?, World.rpc?, present, Session.executeStatement,
          Operation.openStatement]
      refine ⟨stays, sessions.elsewhere ?_
          (sessions_elsewhere sent (by decide) (by decide)) _ _,
        accounts_executeStatement operations lawful present called⟩
      simp [step, called, World.step_executeStatement _ _ present]
  | closeSession present isOpen =>
      have sent := World.request?_closeSession present isOpen
      rw [← called] at sent
      refine ⟨stays, accounts_closeSession sound sessions lawful present isOpen called,
        operations.elsewhere ?_
          (operations_elsewhere sent (by decide) (by decide)) _ _⟩
      simp [step, called, World.step_closeSession _ _ present]
  | close present isOpen =>
      have sent := World.request?_closeOperation present isOpen
      rw [← called] at sent
      refine ⟨stays, sessions.elsewhere ?_
          (sessions_elsewhere sent (by decide) (by decide)) _ _,
        accounts_closeOperation sound operations lawful present isOpen called⟩
      simp [step, called, World.step_onOperation _ _ present]
  | use present other =>
      obtain ⟨method, req, sent, about, keeps⟩ := World.request?_use present other
      rw [← called] at sent
      refine ⟨stays, sessions.elsewhere ?_ (sessions_elsewhere sent ?_ ?_) _ _,
        operations.elsewhere ?_ (operations_elsewhere sent ?_ keeps) _ _⟩
      · simp [step, called, World.step_onOperation _ _ present]
      · rintro rfl
        cases about
      · rintro rfl
        cases about
      · rw [step, called]
        exact operationEntries_use sound present other
      · rintro rfl
        cases about

theorem accounted_empty : ({} : Contacted).Accounted :=
  ⟨⟨by simp, by simp⟩, accounts_empty, accounts_empty⟩

theorem held_sessionEntry {world : World} (sound : world.Sound) :
    held (world.sessions.map sessionEntry) = world.openSessions := by
  rw [held, World.openSessions, List.filterMap_map, ← List.filterMap_eq_map,
    ← List.filterMap_eq_filter, List.filterMap_filterMap]
  apply List.filterMap_congr
  intro object member
  cases isOpen : object.session.open_ with
  | false => simp [sessionEntry, isOpen, Option.guard]
  | true => simp [sessionEntry_of_open (sound.sessions object member) isOpen, isOpen]

theorem held_operationEntry {world : World} (sound : world.Sound) :
    held (world.operations.map operationEntry) = world.openOperations := by
  rw [held, World.openOperations, List.filterMap_map, ← List.filterMap_eq_map,
    ← List.filterMap_eq_filter, List.filterMap_filterMap]
  apply List.filterMap_congr
  intro object member
  cases isOpen : object.op.open_ with
  | false => simp [operationEntry, isOpen, Option.guard]
  | true =>
      obtain ⟨creator, -, own⟩ := sound.operations object member
      simp [operationEntry_of_open own isOpen, isOpen]

theorem Accounted.reconciled (accounted : state.Accounted) :
    Reconciled state.world.openSessions state.sessions ∧
      Reconciled state.world.openOperations state.operations := by
  rw [← held_sessionEntry accounted.sound, ← held_operationEntry accounted.sound]
  exact ⟨accounted.sessions.reconciled, accounted.operations.reconciled⟩

theorem grows_step (lawful : state.Lawful contact) :
    state.sessions.Grows (state.step contact).sessions ∧
      state.operations.Grows (state.step contact).operations :=
  ⟨.after lawful.newSession _ _ _, .after lawful.newOperation _ _ _⟩

theorem grows_run {contacts : List Contact} (lawful : AllSteps step Lawful state contacts) :
    state.sessions.Grows (run step state contacts).sessions ∧
      state.operations.Grows (run step state contacts).operations := by
  induction contacts generalizing state with
  | nil => exact ⟨.rfl _, .rfl _⟩
  | cons contact contacts ih =>
      obtain ⟨first, rest⟩ := lawful
      obtain ⟨sessions, operations⟩ := grows_step first
      exact ⟨sessions.trans (ih rest).1, operations.trans (ih rest).2⟩

/-- Client and server agree about every handle but the strays, which no open object carries, and
those that were ended in silence, which are not live though open objects may carry them; and no
later call mends that. -/
theorem contacts_accounted (contacts : List Contact)
    (lawful : AllSteps step Lawful {} contacts) :
    let state := run step {} contacts
    Reconciled state.world.openSessions state.sessions ∧
      Reconciled state.world.openOperations state.operations ∧
      ∀ later, AllSteps step Lawful state later →
        let after := run step state later
        ((∀ handle ∈ state.sessions.strays, handle ∉ after.world.openSessions) ∧
          ∀ handle ∈ state.world.openSessions, handle ∉ state.sessions.live →
            handle ∈ after.world.openSessions ∧ handle ∉ after.sessions.live) ∧
        (∀ handle ∈ state.operations.strays, handle ∉ after.world.openOperations) ∧
          ∀ handle ∈ state.world.openOperations, handle ∉ state.operations.live →
            handle ∈ after.world.openOperations ∧ handle ∉ after.operations.live := by
  intro state
  have preserved : ∀ (state : Contacted) contact, state.Accounted → state.Lawful contact →
      (state.step contact).Accounted := fun _ _ => accounted_step
  have accounted : state.Accounted :=
    run_invariant Accounted preserved accounted_empty lawful
  obtain ⟨sessions, operations⟩ := accounted.reconciled
  refine ⟨sessions, operations, fun later lawfulLater => ?_⟩
  obtain ⟨sessionsGrow, operationsGrow⟩ := grows_run lawfulLater
  obtain ⟨sessionsAfter, operationsAfter⟩ :=
    (run_invariant Accounted preserved accounted lawfulLater).reconciled
  exact ⟨sessions.unmended sessionsGrow sessionsAfter,
    operations.unmended operationsGrow operationsAfter⟩

/-- A server that opens what it is asked to, with these handles. -/
def opening (session : TSessionHandle) (operation : TOperationHandle) :
    (method : Method) → method.Req → method.Resp
  | .openSession, _ => ({ sessionHandle := session } : TOpenSessionResp)
  | .executeStatement, _ => ({ operationHandle := operation } : TExecuteStatementResp)
  | method, req => successResp method req

/-- The reply that opens a second session and the one to closing the first operation are lost; the
first session is closed and its other operation is canceled. -/
def canceledAndLost : List Contact :=
  [{ call := .openSession [] [], answer := opening ⟨{ guid := [1] }⟩ {} },
    { call := .openSession [] [], fate := .replyLost [], answer := opening ⟨{ guid := [2] }⟩ {} },
    { call := .executeStatement 0 (ascii "select 1") [],
      answer := opening {} { operationId := { guid := [3] } } },
    { call := .executeStatement 0 (ascii "select 2") [],
      answer := opening {} { operationId := { guid := [4] } } },
    { call := .onOperation 0 .close, fate := .replyLost [] },
    { call := .closeSession 0, endedOperations := [{ operationId := { guid := [4] } }] }]

theorem contacts_accounted_canceledAndLost :
    let state := run step {} canceledAndLost
    AllSteps step Lawful {} canceledAndLost ∧
      Reconciled state.world.openSessions state.sessions ∧
      Reconciled state.world.openOperations state.operations ∧
      state.world.openSessions = [] ∧ state.sessions.live = [⟨{ guid := [2] }⟩] ∧
      state.world.openOperations =
        [{ operationId := { guid := [3] } }, { operationId := { guid := [4] } }] ∧
      state.operations.live = [] := by
  have lawful : AllSteps step Lawful {} canceledAndLost := by
    refine ⟨?_, ?_, ?_, ?_, ?_, ?_, trivial⟩ <;> constructor <;> decide
  obtain ⟨sessions, operations, -⟩ := contacts_accounted canceledAndLost lawful
  exact ⟨lawful, sessions, operations, rfl, rfl, rfl, rfl⟩

end Contacted

end HS2Client
