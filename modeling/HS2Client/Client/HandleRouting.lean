import HS2Client.Client.Lifecycle

/-!
# Every object follows its own handle

The invariant of all runs over sessions and operations, and what closing does in the states
they reach.
-/

namespace HS2Client

open Leases Runs

/-! ## One object -/

theorem follows_close {session : Session} {exchanges : List Exchange}
    (follows : Follows sessionProtocol session.open_ session.handle exchanges)
    (respond : Responder) :
    Follows sessionProtocol (session.close.run respond).2.open_
      (session.close.run respond).2.handle
      (exchanges ++ (session.close.exchange? respond).toList) := by
  rcases session.close_cases with ⟨_, done⟩ | ⟨resume, request⟩
  · rw [done]
    simpa using follows
  · rw [request.rpc_eq, Rpc.run_send, request.after]
    have carried : ∀ own, opened sessionProtocol exchanges = some own →
        sessionProtocol.carries own ⟨.closeSession, ⟨session.handle⟩,
          respond .closeSession ⟨session.handle⟩⟩ := by
      intro own delivered
      rw [follows.handle_eq own delivered]
      rfl
    cases success : (respond .closeSession ⟨session.handle⟩).isSuccess with
    | true =>
        rw [request.isOpen] at follows
        exact follows.close (by simp [sessionProtocol, Exchange.succeeds, success]) carried
    | false => exact follows.keep (by simp [sessionProtocol, Exchange.succeeds, success]) carried

/-- An operation with the exchanges made for it, created by a session with this handle. -/
structure FollowsSession (session : TSessionHandle) (op : Operation)
    (exchanges : List Exchange) : Prop where
  follows : Follows (operationProtocol session) op.open_ op.handle exchanges
  created : ∀ own, opened (operationProtocol session) exchanges = some own →
    op.sessionHandle = session

theorem followsSession_call {session : TSessionHandle} {op : Operation}
    {exchanges : List Exchange} (own : FollowsSession session op exchanges)
    (call : OperationCall) (respond : Responder) :
    FollowsSession session ((call.rpc op).run respond).2
      (exchanges ++ ((call.rpc op).exchange? respond).toList) := by
  obtain ⟨follows, created⟩ := own
  rcases call.cases op with ⟨_, _, done⟩ | ⟨method, req, resume, request⟩
  · rw [done]
    simpa using (⟨follows, created⟩ : FollowsSession session op exchanges)
  · rw [request.rpc_eq, Rpc.run_send, request.after]
    have carried : ∀ own, opened (operationProtocol session) exchanges = some own →
        (operationProtocol session).carries own ⟨method, req, respond method req⟩ := by
      intro own delivered
      rw [← follows.handle_eq own delivered]
      refine ⟨request.handle, fun profile => ?_⟩
      rw [← created own delivered]
      exact request.sessionHandle profile
    simp only [Rpc.exchange?_send, Option.toList_some]
    cases closing : (decide (call = .close) && (respond method req).isSuccess) with
    | true =>
        obtain ⟨close, success⟩ := Bool.and_eq_true_iff.mp closing
        rw [request.isOpen close] at follows
        refine ⟨follows.close ?_ carried, ?_⟩
        · simp [operationProtocol, Exchange.succeeds, success, request.closes.mpr close]
        · rw [opened_append follows.started]
          exact created
    | false =>
        refine ⟨follows.keep ?_ carried, ?_⟩
        · rw [← closing]
          simp only [operationProtocol, Exchange.succeeds]
          congr 1
          exact Bool.eq_iff_iff.mpr (by rw [decide_eq_true_iff]; exact request.closes)
        · rw [opened_append follows.started]
          exact created

theorem follows_openSession (config : List (Bytes × Bytes)) (user : Bytes)
    (respond : Responder) :
    Follows sessionProtocol ((({} : Session).openSession config user).run respond).2.open_
      ((({} : Session).openSession config user).run respond).2.handle
      ((({} : Session).openSession config user).exchange? respond).toList := by
  obtain ⟨resume, opens⟩ := Session.opens config user
  rw [opens.rpc_eq, Rpc.run_send, Rpc.exchange?_send, Option.toList_some]
  exact follows_start rfl (opens.flag _ _) (opens.handle _ _)

theorem followsSession_executeStatement (session : Session) (statement : Bytes)
    (confOverlay : List (Bytes × Bytes)) (respond : Responder) :
    FollowsSession session.handle
      ((session.executeStatement statement confOverlay).run respond).2
      ((session.executeStatement statement confOverlay).exchange? respond).toList := by
  obtain ⟨resume, opens⟩ := session.executes statement confOverlay
  rw [opens.rpc_eq, Rpc.run_send, Rpc.exchange?_send, Option.toList_some]
  exact ⟨follows_start rfl (opens.flag _ _) fun own delivered =>
    (opens.handle _ _ own delivered).1, fun own delivered => (opens.handle _ _ own delivered).2⟩

/-! ## All objects -/

structure World.Sound (world : World) : Prop where
  sessions : ∀ object ∈ world.sessions,
    Follows sessionProtocol object.session.open_ object.session.handle object.exchanges
  operations : ∀ object ∈ world.operations, ∃ creator,
    world.sessions[object.creator]? = some creator ∧
      FollowsSession creator.session.handle object.op object.exchanges

theorem handle_run_close (session : Session) (respond : Responder) :
    (session.close.run respond).2.handle = session.handle := by
  rcases session.close_cases with ⟨_, done⟩ | ⟨resume, request⟩
  · rw [done]
    rfl
  · rw [request.rpc_eq, Rpc.run_send, request.after]
    split_ifs <;> rfl

/-- The operations stay with their sessions as long as these keep their places and handles. -/
theorem World.Sound.operations_of_kept {world after : World} (sound : world.Sound)
    (kept : ∀ (i : Nat) creator, world.sessions[i]? = some creator →
      ∃ later, after.sessions[i]? = some later ∧
        later.session.handle = creator.session.handle) :
    ∀ object ∈ world.operations, ∃ creator, after.sessions[object.creator]? = some creator ∧
      FollowsSession creator.session.handle object.op object.exchanges := by
  intro object membership
  obtain ⟨creator, present, own⟩ := sound.operations object membership
  obtain ⟨later, stored, handle⟩ := kept object.creator creator present
  refine ⟨later, stored, ?_⟩
  rw [handle]
  exact own

theorem World.Sound.closeSession {world : World} (sound : world.Sound) {i : Nat}
    {closed : SessionObject} (present : world.sessions[i]? = some closed) (respond : Responder) :
    World.Sound { world with
      sessions := world.sessions.set i ⟨(closed.session.close.run respond).2,
        closed.exchanges ++ (closed.session.close.exchange? respond).toList⟩ } := by
  refine ⟨?_, sound.operations_of_kept ?_⟩
  · intro object membership
    rcases List.mem_or_eq_of_mem_set membership with other | rfl
    · exact sound.sessions object other
    · exact follows_close (sound.sessions closed (List.mem_of_getElem? present)) respond
  · intro j creator stored
    by_cases same : i = j
    · subst same
      obtain rfl : closed = creator := Option.some.inj (present.symm.trans stored)
      exact ⟨_, List.getElem?_set_self (List.getElem?_eq_some_iff.mp present).1,
        handle_run_close closed.session respond⟩
    · refine ⟨creator, ?_, rfl⟩
      rw [List.getElem?_set_ne same]
      exact stored

/-- One call keeps the invariant, whatever the outcome of its request. -/
theorem World.sound_step {world : World} (sound : world.Sound) (event : Event) :
    (world.step event).Sound := by
  obtain ⟨call, respond⟩ := event
  have stepped := world.stepped respond call
  generalize world.step ⟨call, respond⟩ = after at stepped ⊢
  cases stepped with
  | missing => exact sound
  | openSession config user =>
      refine ⟨?_, sound.operations_of_kept ?_⟩
      · intro object membership
        rcases List.mem_append.mp membership with earlier | new
        · exact sound.sessions object earlier
        · obtain rfl := List.mem_singleton.mp new
          exact follows_openSession config user respond
      · intro i creator present
        refine ⟨creator, ?_, rfl⟩
        rw [List.getElem?_append_left (List.getElem?_eq_some_iff.mp present).1]
        exact present
  | @executeStatement i creator present statement confOverlay =>
      refine ⟨sound.sessions, ?_⟩
      intro object membership
      rcases List.mem_append.mp membership with earlier | new
      · exact sound.operations object earlier
      · obtain rfl := List.mem_singleton.mp new
        exact ⟨creator, present,
          followsSession_executeStatement creator.session statement confOverlay respond⟩
  | closeSession present => exact sound.closeSession present respond
  | @onOperation i called present call =>
      refine ⟨sound.sessions, ?_⟩
      intro object membership
      rcases List.mem_or_eq_of_mem_set membership with other | rfl
      · exact sound.operations object other
      · obtain ⟨creator, stored, own⟩ := sound.operations called (List.mem_of_getElem? present)
        exact ⟨creator, stored, followsSession_call own call respond⟩

theorem World.sound_run (events : List Event) : (run World.step {} events).Sound := by
  have conforms : AllSteps World.step (fun _ _ => True) {} events :=
    allSteps_of_forall (fun _ _ => trivial) _ _
  refine run_invariant World.Sound (fun world event sound _ => sound_step sound event) ?_ conforms
  exact ⟨by simp, by simp⟩

/-! ## Closing -/

/-- The exchange of the request that closes a session. -/
def SessionObject.closing (object : SessionObject) (respond : Responder) : Exchange :=
  ⟨.closeSession, ⟨object.session.handle⟩, respond .closeSession ⟨object.session.handle⟩⟩

/-- The exchange of the request that closes an operation. -/
def OperationObject.closing (object : OperationObject) (respond : Responder) : Exchange :=
  ⟨.closeOperation, ⟨object.op.handle⟩, respond .closeOperation ⟨object.op.handle⟩⟩

/-- Closing a session that is not open does nothing. For an open one `CloseSession` is sent with its
handle: a success takes the flag down, and a failure leaves the session open with its handle. -/
structure World.ClosesSession (world : World) (i : Nat) (object : SessionObject)
    (respond : Responder) : Prop where
  closed : object.session.open_ = false →
    world.exchange? ⟨.closeSession i, respond⟩ = none ∧
      world.status? ⟨.closeSession i, respond⟩ = some .okStatus ∧
      world.step ⟨.closeSession i, respond⟩ = world
  requested : object.session.open_ = true →
    world.exchange? ⟨.closeSession i, respond⟩ = some (object.closing respond)
  succeeded : object.session.open_ = true → (object.closing respond).succeeds = true →
    (world.status? ⟨.closeSession i, respond⟩).map Status.ok = some true ∧
      (world.step ⟨.closeSession i, respond⟩).sessions[i]? =
        some ⟨{ object.session with open_ := false }, object.exchanges ++ [object.closing respond]⟩
  failed : object.session.open_ = true → (object.closing respond).succeeds = false →
    (world.status? ⟨.closeSession i, respond⟩).map Status.ok = some false ∧
      (world.step ⟨.closeSession i, respond⟩).sessions[i]? =
        some ⟨object.session, object.exchanges ++ [object.closing respond]⟩

/-- The same for an operation and `CloseOperation`. -/
structure World.ClosesOperation (world : World) (i : Nat) (object : OperationObject)
    (respond : Responder) : Prop where
  closed : object.op.open_ = false →
    world.exchange? ⟨.onOperation i .close, respond⟩ = none ∧
      world.status? ⟨.onOperation i .close, respond⟩ = some .okStatus ∧
      world.step ⟨.onOperation i .close, respond⟩ = world
  requested : object.op.open_ = true →
    world.exchange? ⟨.onOperation i .close, respond⟩ = some (object.closing respond)
  succeeded : object.op.open_ = true → (object.closing respond).succeeds = true →
    (world.status? ⟨.onOperation i .close, respond⟩).map Status.ok = some true ∧
      (world.step ⟨.onOperation i .close, respond⟩).operations[i]? =
        some ⟨{ object.op with open_ := false }, object.creator,
          object.exchanges ++ [object.closing respond]⟩
  failed : object.op.open_ = true → (object.closing respond).succeeds = false →
    (world.status? ⟨.onOperation i .close, respond⟩).map Status.ok = some false ∧
      (world.step ⟨.onOperation i .close, respond⟩).operations[i]? =
        some ⟨object.op, object.creator, object.exchanges ++ [object.closing respond]⟩

theorem World.closesSession {world : World} {i : Nat} {object : SessionObject}
    (present : world.sessions[i]? = some object) (respond : Responder) :
    world.ClosesSession i object respond := by
  have bounded : i < world.sessions.length := (List.getElem?_eq_some_iff.mp present).1
  have stored : world.sessions[i] = object := (List.getElem?_eq_some_iff.mp present).2
  rcases object.session.close_cases with ⟨notOpen, done⟩ | ⟨resume, request⟩
  · have shut : ¬ object.session.open_ = true := by simp [notOpen]
    refine ⟨fun _ => ⟨?_, ?_, ?_⟩, (absurd · shut), (absurd · shut), (absurd · shut)⟩
    · simp [exchange?, rpc?, present, done]
    · simp [status?, rpc?, present, done]
    · rw [world.step_closeSession respond present, done]
      simp only [Rpc.run_done, Rpc.exchange?_done, Option.toList_none, List.append_nil]
      exact congrArg (World.mk · world.operations) (stored ▸ List.set_getElem_self bounded)
  · have status : (world.status? ⟨.closeSession i, respond⟩).map Status.ok =
        some (object.closing respond).succeeds := by
      have ok := request.ok (respond .closeSession ⟨object.session.handle⟩)
      simpa [status?, rpc?, present, request.rpc_eq, SessionObject.closing, Exchange.succeeds]
        using ok
    have after : (world.step ⟨.closeSession i, respond⟩).sessions[i]? =
        some ⟨if (object.closing respond).succeeds then { object.session with open_ := false }
          else object.session, object.exchanges ++ [object.closing respond]⟩ := by
      rw [world.step_closeSession respond present, request.rpc_eq, Rpc.run_send, request.after]
      exact List.getElem?_set_self bounded
    refine ⟨fun notOpen => absurd (request.isOpen.symm.trans notOpen) (by decide), fun _ => ?_,
      fun _ success => ⟨success ▸ status, ?_⟩, fun _ failure => ⟨failure ▸ status, ?_⟩⟩
    · simp [exchange?, rpc?, present, request.rpc_eq, SessionObject.closing]
    · simpa only [success, if_true] using after
    · simpa only [failure, Bool.false_eq_true, if_false] using after

theorem World.closesOperation {world : World} {i : Nat} {object : OperationObject}
    (present : world.operations[i]? = some object) (respond : Responder) :
    world.ClosesOperation i object respond := by
  have bounded : i < world.operations.length := (List.getElem?_eq_some_iff.mp present).1
  have stored : world.operations[i] = object := (List.getElem?_eq_some_iff.mp present).2
  rcases object.op.close_cases with ⟨notOpen, done⟩ | ⟨resume, request⟩
  · have shut : ¬ object.op.open_ = true := by simp [notOpen]
    refine ⟨fun _ => ⟨?_, ?_, ?_⟩, (absurd · shut), (absurd · shut), (absurd · shut)⟩
    · simp [exchange?, rpc?, present, OperationCall.rpc, done]
    · simp [status?, rpc?, present, OperationCall.rpc, done]
    · rw [world.step_onOperation respond present, OperationCall.rpc, done]
      simp only [Rpc.run_done, Rpc.exchange?_done, Option.toList_none, List.append_nil]
      exact congrArg (World.mk world.sessions) (stored ▸ List.set_getElem_self bounded)
  · have status : (world.status? ⟨.onOperation i .close, respond⟩).map Status.ok =
        some (object.closing respond).succeeds := by
      have ok := request.ok (respond .closeOperation ⟨object.op.handle⟩)
      simpa [status?, rpc?, present, OperationCall.rpc, request.rpc_eq, OperationObject.closing,
        Exchange.succeeds] using ok
    have after : (world.step ⟨.onOperation i .close, respond⟩).operations[i]? =
        some ⟨if (object.closing respond).succeeds then { object.op with open_ := false }
          else object.op, object.creator, object.exchanges ++ [object.closing respond]⟩ := by
      rw [world.step_onOperation respond present, OperationCall.rpc, request.rpc_eq,
        Rpc.run_send, request.after]
      exact List.getElem?_set_self bounded
    refine ⟨fun notOpen => absurd (request.isOpen.symm.trans notOpen) (by decide), fun _ => ?_,
      fun _ success => ⟨success ▸ status, ?_⟩, fun _ failure => ⟨failure ▸ status, ?_⟩⟩
    · simp [exchange?, rpc?, present, OperationCall.rpc, request.rpc_eq, OperationObject.closing]
    · simpa only [success, if_true] using after
    · simpa only [failure, Bool.false_eq_true, if_false] using after

/-- In every run over sessions and operations, with any outcome of each request: an object is
open exactly between its own successful opening and its own successful close, of which there is
at most one, it keeps the handle of its opening reply, and every later request made for it
carries that handle; closing is safe in every state. -/
theorem World.lifecycle (events : List Event) :
    let world := run World.step {} events
    world.Sound ∧
      (∀ (i : Nat) object, world.sessions[i]? = some object → ∀ respond,
        world.ClosesSession i object respond) ∧
      ∀ (i : Nat) object, world.operations[i]? = some object → ∀ respond,
        world.ClosesOperation i object respond :=
  ⟨World.sound_run events, fun _ _ present respond => World.closesSession present respond,
    fun _ _ present respond => World.closesOperation present respond⟩

/-- A session, an operation, a close whose reply does not come, the close again, and once more. -/
def retriedClose : List Event :=
  let answered : Responder := fun
    | .openSession, _ => .reply ({ sessionHandle := ⟨{ guid := [1] }⟩ } : TOpenSessionResp)
    | .executeStatement, _ =>
        .reply ({ operationHandle := { operationId := { guid := [2] } } } : TExecuteStatementResp)
    | method, req => .reply (successResp method req)
  [⟨.openSession [] (ascii "user"), answered⟩,
    ⟨.executeStatement 0 (ascii "select 1") [], answered⟩,
    ⟨.onOperation 0 .close, fun _ _ => .exception (ascii "timed out")⟩,
    ⟨.onOperation 0 .close, answered⟩,
    ⟨.onOperation 0 .close, answered⟩]

/-- The operation is closed by its second request, and the third close sends none. -/
theorem World.lifecycle_retriedClose :
    let world := run World.step {} retriedClose
    (world.sessions.map fun object => object.session.open_) = [true] ∧
      (world.operations.map fun object => object.op.open_) = [false] ∧
      (world.operations.map fun object =>
        object.exchanges.map fun exchange => (exchange.method, exchange.succeeds)) =
          [[(.executeStatement, true), (.closeOperation, false), (.closeOperation, true)]] ∧
      (world.operations.map fun object => object.exchanges.tail.map Exchange.operationHandle?) =
        [[some { operationId := { guid := [2] } }, some { operationId := { guid := [2] } }]] ∧
      world.Sound :=
  ⟨rfl, rfl, rfl, rfl, (World.lifecycle retriedClose).1⟩

end HS2Client
