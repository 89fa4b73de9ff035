import HS2Client.Client.LostReplies
import HS2Client.Library.Cursors

/-!
# Fetching from several operations

A server that keeps a cursor for every statement it executes, as the interface describes it:
`FETCH_NEXT` gets the next rowset, `FETCH_FIRST` the first one, the other orientations are not
supported, and a reply says whether rows are left. A request or its reply may be lost. Calls on
any number of operations come in any order.
-/

namespace HS2Client

open Cursors Runs

variable {Row : Type}

structure ResultSet (Row : Type) where
  cursor : Cursor Row
  live : Bool := true

/-- The result set of every handle that was issued. -/
abbrev ResultSets (Row : Type) := TOperationHandle → Option (ResultSet Row)

inductive Loss where
  | none
  | request
  | reply
  deriving DecidableEq

/-- A call, what is lost of its request, and what the server chooses. -/
structure FetchEvent (Row : Type) where
  call : Call
  loss : Loss := .none
  /-- Whether the server does what it is asked to do. -/
  accepts : Bool := true
  newOperation : TOperationHandle := {}
  /-- The result of a new statement. -/
  rows : List Row := []
  /-- The server may return fewer rows than it is asked for. -/
  limit : Nat := 0
  other : (method : Method) → method.Req → method.Resp := successResp

/-- Only these two orientations are supported. -/
def orientationFromStart? (orientation : Int) : Option Bool :=
  if orientation = fetchOrientationToTFetchOrientation .next then some false
  else if orientation = fetchOrientationToTFetchOrientation .first then some true
  else none

/-- How a batch of rows is put into a reply. -/
structure RowFormat (Row : Type) where
  rowSet : List Row → TRowSet

def RowFormat.response (format : RowFormat Row) (rows : List Row) (read : Read Row) :
    TFetchResultsResp where
  hasMoreRows := read.stop < rows.length
  results := format.rowSet read.batch

/-- A read that the server made for a request, and whether its reply arrived. -/
structure LoggedRead (Row : Type) where
  req : TFetchResultsReq
  read : Read Row
  arrived : Bool

namespace ResultSets

/-- A fetch from a live result set. -/
def fetch (format : RowFormat Row) (sets : ResultSets Row) (event : FetchEvent Row)
    (req : TFetchResultsReq) (set : ResultSet Row) : TFetchResultsResp × ResultSets Row :=
  match orientationFromStart? req.orientation with
  | some fromStart =>
      let read := set.cursor.read fromStart (min event.limit req.maxRows.toNat)
      (format.response set.cursor.rows read,
        Function.update sets req.operationHandle
          (some { set with cursor := set.cursor.after read }))
  | none => ({ status := errorStatus }, sets)

/-- The server executes a request. A handle is issued at most once, and never the one that a
client object has before it is opened. -/
def handle (format : RowFormat Row) (sets : ResultSets Row) (event : FetchEvent Row) :
    (method : Method) → method.Req → method.Resp × ResultSets Row
  | .executeStatement, _ =>
      if event.accepts ∧ event.newOperation ≠ {} ∧ (sets event.newOperation).isNone then
        (({ operationHandle := event.newOperation } : TExecuteStatementResp),
          Function.update sets event.newOperation (some { cursor := { rows := event.rows } }))
      else (({ status := errorStatus } : TExecuteStatementResp), sets)
  | .fetchResults, (req : TFetchResultsReq) =>
      match sets req.operationHandle with
      | some set =>
          if set.live then
            if event.accepts then sets.fetch format event req set
            else (({ status := errorStatus } : TFetchResultsResp), sets)
          else (({ status := unknownHandle } : TFetchResultsResp), sets)
      | none => (({ status := unknownHandle } : TFetchResultsResp), sets)
  | .closeOperation, (req : TOperationReq) =>
      match sets req.operationHandle with
      | some set =>
          if set.live then
            (({} : TStatusResp),
              Function.update sets req.operationHandle (some { set with live := false }))
          else (({ status := unknownHandle } : TStatusResp), sets)
      | none => (({ status := unknownHandle } : TStatusResp), sets)
  | method, req => (event.other method req, sets)

/-- What the server reads for a request. -/
def logged? (sets : ResultSets Row) (event : FetchEvent Row) :
    (method : Method) → method.Req → Option (LoggedRead Row)
  | .fetchResults, (req : TFetchResultsReq) => do
      let set ← sets req.operationHandle
      let fromStart ← orientationFromStart? req.orientation
      if set.live ∧ event.accepts then
        some ⟨req, set.cursor.read fromStart (min event.limit req.maxRows.toNat),
          event.loss = .none⟩
      else none
  | _, _ => none

end ResultSets

/-- `log` has the reads of the server from each result set, in order; no call looks at it. -/
structure Fetching (Row : Type) where
  world : World := {}
  sets : ResultSets Row := fun _ => none
  log : TOperationHandle → List (LoggedRead Row) := fun _ => []

namespace Fetching

def respond (format : RowFormat Row) (state : Fetching Row) (event : FetchEvent Row) : Responder :=
  fun method req =>
    if event.loss = .none then .reply (state.sets.handle format event method req).1
    else .exception (ascii "No more data to read.")

def setsAfter (format : RowFormat Row) (state : Fetching Row) (event : FetchEvent Row) :
    ResultSets Row :=
  match state.world.request? event.call with
  | none => state.sets
  | some ⟨method, req⟩ =>
      if event.loss = .request then state.sets
      else (state.sets.handle format event method req).2

/-- What the server reads for a call. -/
def logged? (state : Fetching Row) (event : FetchEvent Row) : Option (LoggedRead Row) :=
  match state.world.request? event.call with
  | none => none
  | some ⟨method, req⟩ =>
      if event.loss = .request then none else state.sets.logged? event method req

def logAfter (state : Fetching Row) (event : FetchEvent Row) :
    TOperationHandle → List (LoggedRead Row) :=
  match state.logged? event with
  | none => state.log
  | some entry =>
      Function.update state.log entry.req.operationHandle
        (state.log entry.req.operationHandle ++ [entry])

def step (format : RowFormat Row) (state : Fetching Row) (event : FetchEvent Row) :
    Fetching Row where
  world := state.world.step ⟨event.call, state.respond format event⟩
  sets := state.setsAfter format event
  log := state.logAfter event

end Fetching

/-- A fetch that succeeded, with its reply. -/
def Exchange.fetched? : Exchange → Option (TFetchResultsReq × TFetchResultsResp)
  | ⟨.fetchResults, (req : TFetchResultsReq), .reply (resp : TFetchResultsResp)⟩ =>
      if resp.status.isSuccess then some (req, resp) else none
  | _ => none

/-- The request of a read is about this result set, and the read is as it was asked for. -/
structure LoggedRead.Answers (entry : LoggedRead Row) (handle : TOperationHandle) : Prop where
  handle_eq : entry.req.operationHandle = handle
  fromStart_eq : orientationFromStart? entry.req.orientation = some entry.read.fromStart
  length_le : entry.read.batch.length ≤ entry.req.maxRows.toNat

/-! ## One request -/

/-- What a request about a result set does to it. -/
inductive Served (set : ResultSet Row) : ResultSet Row → Option (Read Row) → Prop
  | kept (live : Bool) : Served set { set with live := live } none
  | read (fromStart : Bool) (limit : Nat) :
      Served set { set with cursor := set.cursor.after (set.cursor.read fromStart limit) }
        (some (set.cursor.read fromStart limit))

namespace ResultSets

variable (format : RowFormat Row) (sets : ResultSets Row) (event : FetchEvent Row)

/-- A request about an operation changes its result set only, and answers a fetch with what was
read. -/
structure Serves (handle : TOperationHandle) (set : ResultSet Row) (method : Method)
    (req : method.Req) (after : ResultSet Row) (added? : Option (LoggedRead Row)) : Prop where
  sets_eq : (sets.handle format event method req).2 = Function.update sets handle (some after)
  logged_eq : sets.logged? event method req = added?
  served : Served set after (added?.map LoggedRead.read)
  answers : ∀ entry ∈ added?, entry.Answers handle ∧ entry.arrived = decide (event.loss = .none)
  fetched_eq : Exchange.fetched? ⟨method, req, .reply (sets.handle format event method req).1⟩ =
    added?.map fun entry => (entry.req, format.response set.cursor.rows entry.read)

variable {format sets event} {handle : TOperationHandle} {set : ResultSet Row}

theorem update_present (present : sets handle = some set) :
    Function.update sets handle (some set) = sets :=
  Function.update_eq_self_iff.mpr present.symm

/-- The server refuses, or the request does not concern the cursor. -/
theorem serves_kept {method : Method} {req : method.Req} (present : sets handle = some set)
    (kept : (sets.handle format event method req).2 = sets)
    (unread : sets.logged? event method req = none)
    (unfetched : Exchange.fetched?
      ⟨method, req, .reply (sets.handle format event method req).1⟩ = none) :
    Serves format sets event handle set method req set none :=
  ⟨kept.trans (update_present present).symm, unread, .kept set.live, by simp, unfetched⟩

theorem serves_fetch {req : TFetchResultsReq} (present : sets req.operationHandle = some set) :
    ∃ after added?, Serves format sets event req.operationHandle set .fetchResults req after
      added? := by
  have handled : sets.handle format event .fetchResults req =
      if set.live then
        if event.accepts then sets.fetch format event req set
        else (({ status := errorStatus } : TFetchResultsResp), sets)
      else (({ status := unknownHandle } : TFetchResultsResp), sets) := by
    simp [ResultSets.handle, present]
  have logged : sets.logged? event .fetchResults req =
      (orientationFromStart? req.orientation).bind fun fromStart =>
        if set.live ∧ event.accepts then
          some ⟨req, set.cursor.read fromStart (min event.limit req.maxRows.toNat),
            event.loss = .none⟩
        else none := by
    simp [ResultSets.logged?, present]
  by_cases taken : set.live = true ∧ event.accepts = true
  · rw [if_pos taken.1, if_pos taken.2] at handled
    cases supported : orientationFromStart? req.orientation with
    | none =>
        have refused : sets.handle format event .fetchResults req =
            (({ status := errorStatus } : TFetchResultsResp), sets) := by
          rw [handled, fetch, supported]
        exact ⟨set, none, serves_kept present (by rw [refused]) (by rw [logged, supported]; rfl)
          (by rw [refused]; rfl)⟩
    | some fromStart =>
        rw [supported, Option.bind_some, if_pos taken] at logged
        refine ⟨_, _, ⟨?_, logged, .read fromStart (min event.limit req.maxRows.toNat), ?_, ?_⟩⟩
        · rw [handled, fetch, supported]
        · rintro entry ⟨⟩
          refine ⟨⟨rfl, supported, ?_⟩, rfl⟩
          exact (List.length_take_le _ _).trans (min_le_right _ _)
        · rw [handled, fetch, supported]
          rfl
  · have refused : (sets.handle format event .fetchResults req).2 = sets ∧
        Exchange.fetched? ⟨.fetchResults, req,
          .reply (sets.handle format event .fetchResults req).1⟩ = none := by
      rw [handled]
      by_cases live : set.live = true
      · have refuses : event.accepts ≠ true := fun accepts => taken ⟨live, accepts⟩
        rw [if_pos live, if_neg refuses]
        exact ⟨rfl, rfl⟩
      · rw [if_neg live]
        exact ⟨rfl, rfl⟩
    have unread : sets.logged? event .fetchResults req = none := by
      rw [logged]
      cases orientationFromStart? req.orientation with
      | none => rfl
      | some fromStart => exact if_neg taken
    exact ⟨set, none, serves_kept present refused.1 unread refused.2⟩

theorem serves_close {req : TOperationReq} (present : sets req.operationHandle = some set) :
    ∃ after, Serves format sets event req.operationHandle set .closeOperation req after none := by
  cases live : set.live with
  | true =>
      refine ⟨{ set with live := false }, ?_, rfl, .kept false, by simp, rfl⟩
      simp [ResultSets.handle, present, live]
  | false =>
      refine ⟨set, serves_kept present ?_ rfl rfl⟩
      simp [ResultSets.handle, present, live]

theorem serves {method : Method} {req : method.Req}
    (about : method.operationHandle? req = some handle) (present : sets handle = some set) :
    ∃ after added?, Serves format sets event handle set method req after added? := by
  cases method with
  | openSession => cases about
  | closeSession => cases about
  | executeStatement => cases about
  | fetchResults =>
      cases about
      exact serves_fetch present
  | closeOperation =>
      cases about
      obtain ⟨after, served⟩ : ∃ after, Serves format sets event _ set .closeOperation req after
          none := serves_close present
      exact ⟨after, none, served⟩
  | _ => exact ⟨set, none, serves_kept present rfl rfl rfl⟩

theorem handle_of_absent {method : Method} {req : method.Req}
    (about : method.operationHandle? req = some handle) (absent : sets handle = none) :
    (sets.handle format event method req).2 = sets := by
  cases method with
  | executeStatement => cases about
  | fetchResults =>
      cases about
      simp [ResultSets.handle, absent]
  | closeOperation =>
      cases about
      simp [ResultSets.handle, absent]
  | _ => rfl

theorem logged?_of_absent {method : Method} {req : method.Req}
    (about : method.operationHandle? req = some handle) (absent : sets handle = none) :
    sets.logged? event method req = none := by
  cases method with
  | fetchResults =>
      cases about
      simp [ResultSets.logged?, absent]
  | _ => rfl

end ResultSets

/-! ## Runs -/

/-- The exchanges of an operation against the log of its result set: the fetches that succeeded are
those whose read was logged and whose reply arrived. -/
structure Delivers (format : RowFormat Row) (handle : TOperationHandle) (set : ResultSet Row)
    (exchanges : List Exchange) (log : List (LoggedRead Row)) : Prop where
  chained : Chained set.cursor.rows (log.map LoggedRead.read) set.cursor.position
  answers : ∀ entry ∈ log, entry.Answers handle
  fetched : exchanges.filterMap Exchange.fetched? =
    (log.filter LoggedRead.arrived).map fun entry =>
      (entry.req, format.response set.cursor.rows entry.read)

namespace Delivers

variable {format : RowFormat Row} {handle : TOperationHandle} {set after : ResultSet Row}
  {exchanges : List Exchange} {log : List (LoggedRead Row)} {exchange : Exchange}
  {added? : Option (LoggedRead Row)}

theorem quiet (delivers : Delivers format handle set exchanges log)
    (none : exchange.fetched? = none) :
    Delivers format handle set (exchanges ++ [exchange]) log := by
  refine ⟨delivers.chained, delivers.answers, ?_⟩
  rw [List.filterMap_append, delivers.fetched]
  simp [none]

/-- The server has read, and its reply arrives or is lost. -/
theorem serve (delivers : Delivers format handle set exchanges log)
    (served : Served set after (added?.map LoggedRead.read))
    (answers : ∀ entry ∈ added?, entry.Answers handle)
    (fetched : exchange.fetched? = (added?.filter LoggedRead.arrived).map fun entry =>
      (entry.req, format.response set.cursor.rows entry.read)) :
    Delivers format handle after (exchanges ++ [exchange]) (log ++ added?.toList) := by
  cases added? with
  | none =>
      cases served with
      | kept live =>
          rw [Option.toList_none, List.append_nil]
          exact ⟨delivers.chained, delivers.answers, (delivers.quiet fetched).fetched⟩
  | some entry =>
      obtain ⟨req, read, arrived⟩ := entry
      cases served with
      | read fromStart limit =>
          refine ⟨?_, ?_, ?_⟩
          · rw [List.map_append]
            exact delivers.chained.read fromStart limit
          · intro other member
            rcases List.mem_append.mp member with earlier | last
            · exact delivers.answers other earlier
            · obtain rfl := List.mem_singleton.mp last
              exact answers _ rfl
          · rw [List.filterMap_append, delivers.fetched, List.filter_append, List.map_append]
            cases arrived with
            | true => simp [fetched, Cursor.after]
            | false => simp [fetched, Cursor.after]

end Delivers

/-- Every operation that has a handle is alone with its result set. -/
structure Routed (format : RowFormat Row) (operations : List OperationObject)
    (sets : ResultSets Row) (log : TOperationHandle → List (LoggedRead Row)) : Prop where
  unopened : sets {} = none
  silent : ∀ handle, sets handle = none → log handle = []
  delivers : ∀ (i : Nat) (object : OperationObject), operations[i]? = some object →
    object.op.handle ≠ {} → ∃ set, sets object.op.handle = some set ∧
      Delivers format object.op.handle set object.exchanges (log object.op.handle)
  distinct : ∀ (i j : Nat) (object other : OperationObject),
    operations[i]? = some object → operations[j]? = some other →
    object.op.handle ≠ {} → object.op.handle = other.op.handle → i = j

namespace Routed

variable {format : RowFormat Row} {operations : List OperationObject} {sets : ResultSets Row}
  {log : TOperationHandle → List (LoggedRead Row)}

/-- A handle is issued, to nobody so far. -/
theorem issue (routed : Routed format operations sets log) {handle : TOperationHandle}
    (named : handle ≠ {}) (fresh : sets handle = none) (set : ResultSet Row) :
    Routed format operations (Function.update sets handle (some set)) log where
  unopened := by
    rw [Function.update_of_ne named.symm]
    exact routed.unopened
  silent := by
    intro other absent
    by_cases same : other = handle
    · rw [same, Function.update_self] at absent
      cases absent
    · rw [Function.update_of_ne same] at absent
      exact routed.silent other absent
  delivers := by
    intro i object present opened
    obtain ⟨own, stored, delivers⟩ := routed.delivers i object present opened
    refine ⟨own, ?_, delivers⟩
    rw [Function.update_of_ne]
    · exact stored
    · rintro rfl
      rw [fresh] at stored
      cases stored
  distinct := routed.distinct

/-- A new operation without a handle, or with one that nobody else has. -/
theorem snoc (routed : Routed format operations sets log) {object : OperationObject}
    (delivers : object.op.handle ≠ {} → ∃ set, sets object.op.handle = some set ∧
      Delivers format object.op.handle set object.exchanges (log object.op.handle))
    (distinct : object.op.handle ≠ {} → ∀ other ∈ operations,
      other.op.handle ≠ object.op.handle) :
    Routed format (operations ++ [object]) sets log where
  unopened := routed.unopened
  silent := routed.silent
  delivers := by
    intro i other present opened
    rcases Registry.getElem?_snoc present with earlier | ⟨-, rfl⟩
    · exact routed.delivers i other earlier opened
    · exact delivers opened
  distinct := by
    intro i j first second atFirst atSecond opened same
    rcases Registry.getElem?_snoc atFirst with earlier | ⟨iLast, rfl⟩
    · rcases Registry.getElem?_snoc atSecond with earlier' | ⟨jLast, rfl⟩
      · exact routed.distinct i j first second earlier earlier' opened same
      · exact absurd same (distinct (same ▸ opened) first (List.mem_of_getElem? earlier))
    · rcases Registry.getElem?_snoc atSecond with earlier' | ⟨jLast, rfl⟩
      · exact absurd same.symm (distinct opened second (List.mem_of_getElem? earlier'))
      · exact iLast.trans jLast.symm

/-- An operation gets the handle that is issued. -/
theorem open_ (routed : Routed format operations sets log) {object : OperationObject}
    (named : object.op.handle ≠ {}) (fresh : sets object.op.handle = none) (set : ResultSet Row)
    (delivers : Delivers format object.op.handle set object.exchanges []) :
    Routed format (operations ++ [object])
      (Function.update sets object.op.handle (some set)) log := by
  apply (routed.issue named fresh set).snoc
  · intro _
    refine ⟨set, Function.update_self .., ?_⟩
    rw [routed.silent _ fresh]
    exact delivers
  · intro _ other member same
    obtain ⟨i, present⟩ := List.getElem?_of_mem member
    obtain ⟨own, stored, _⟩ := routed.delivers i other present (same ▸ named)
    rw [same, fresh] at stored
    cases stored

/-- One operation makes an exchange about its handle, and its result set follows. -/
theorem exchange (routed : Routed format operations sets log) {i : Nat}
    {object later : OperationObject}
    (present : operations[i]? = some object) (kept : later.op.handle = object.op.handle)
    {sets' : ResultSets Row} {log' : TOperationHandle → List (LoggedRead Row)}
    (frame : ∀ handle, handle ≠ object.op.handle →
      sets' handle = sets handle ∧ log' handle = log handle)
    (idle : object.op.handle = {} → sets' = sets ∧ log' = log)
    (delivers : object.op.handle ≠ {} → ∃ set, sets' object.op.handle = some set ∧
      Delivers format object.op.handle set later.exchanges (log' object.op.handle)) :
    Routed format (operations.set i later) sets' log' := by
  have bounded := (List.getElem?_eq_some_iff.mp present).1
  have earlier : ∀ (j : Nat) (other : OperationObject), (operations.set i later)[j]? = some other →
      (j = i ∧ other = later) ∨ (j ≠ i ∧ operations[j]? = some other) := by
    intro j other at_j
    by_cases same : j = i
    · subst same
      rw [List.getElem?_set_self bounded, Option.some.injEq] at at_j
      exact .inl ⟨rfl, at_j.symm⟩
    · rw [List.getElem?_set_ne (Ne.symm same)] at at_j
      exact .inr ⟨same, at_j⟩
  constructor
  · by_cases unopened : object.op.handle = {}
    · rw [(idle unopened).1]
      exact routed.unopened
    · rw [(frame {} (Ne.symm unopened)).1]
      exact routed.unopened
  · intro handle absent
    by_cases unopened : object.op.handle = {}
    · obtain ⟨sameSets, sameLog⟩ := idle unopened
      rw [sameSets] at absent
      rw [sameLog]
      exact routed.silent handle absent
    · by_cases own : handle = object.op.handle
      · obtain ⟨set, stored, -⟩ := delivers unopened
        rw [own, stored] at absent
        cases absent
      · rw [(frame handle own).1] at absent
        rw [(frame handle own).2]
        exact routed.silent handle absent
  · intro j other at_j opened
    rcases earlier j other at_j with ⟨rfl, rfl⟩ | ⟨different, before⟩
    · rw [kept] at opened ⊢
      exact delivers opened
    · have apart : other.op.handle ≠ object.op.handle := fun same =>
        different (routed.distinct j i other object before present opened same)
      rw [(frame _ apart).1, (frame _ apart).2]
      exact routed.delivers j other before opened
  · have before : ∀ (j : Nat) (other : OperationObject),
        (operations.set i later)[j]? = some other →
        ∃ old, operations[j]? = some old ∧ old.op.handle = other.op.handle := by
      intro j other at_j
      rcases earlier j other at_j with ⟨rfl, rfl⟩ | ⟨_, before⟩
      · exact ⟨object, present, kept.symm⟩
      · exact ⟨other, before, rfl⟩
    intro j k first second atFirst atSecond opened same
    obtain ⟨old, wasFirst, firstHandle⟩ := before j first atFirst
    obtain ⟨old', wasSecond, secondHandle⟩ := before k second atSecond
    exact routed.distinct j k old old' wasFirst wasSecond (firstHandle ▸ opened)
      (firstHandle.trans (same.trans secondHandle.symm))

end Routed

namespace Fetching

variable {format : RowFormat Row} {state : Fetching Row} {event : FetchEvent Row}

theorem setsAfter_of_request {method : Method} {req : method.Req}
    (sent : state.world.request? event.call = some ⟨method, req⟩) :
    state.setsAfter format event = if event.loss = .request then state.sets
      else (state.sets.handle format event method req).2 := by
  rw [setsAfter, sent]

theorem setsAfter_of_idle (idle : state.world.request? event.call = none) :
    state.setsAfter format event = state.sets := by
  rw [setsAfter, idle]

theorem logAfter_of_unread (unread : state.logged? event = none) :
    state.logAfter event = state.log := by
  rw [logAfter, unread]

theorem logged?_of_request {method : Method} {req : method.Req}
    (sent : state.world.request? event.call = some ⟨method, req⟩) :
    state.logged? event =
      if event.loss = .request then none else state.sets.logged? event method req := by
  rw [logged?, sent]

theorem logged?_of_idle (idle : state.world.request? event.call = none) :
    state.logged? event = none := by
  rw [logged?, idle]

theorem setsAfter_openSession {config : List (Bytes × Bytes)} {user : Bytes}
    (called : event.call = .openSession config user) :
    state.setsAfter format event = state.sets := by
  obtain ⟨resume, opens⟩ := Session.opens config user
  have sent : state.world.request? event.call =
      some ⟨.openSession, { username := user, configuration := config }⟩ := by
    simp [World.request?, called, World.rpc?, opens.rpc_eq]
  rw [setsAfter_of_request sent]
  exact ite_self _

theorem setsAfter_closeSession {i : Nat} {object : SessionObject}
    (called : event.call = .closeSession i)
    (present : state.world.sessions[i]? = some object) :
    state.setsAfter format event = state.sets := by
  rcases object.session.close_cases with ⟨_, done⟩ | ⟨resume, request⟩
  · apply setsAfter_of_idle
    simp [World.request?, called, World.rpc?, present, done]
  · have sent : state.world.request? event.call =
        some ⟨.closeSession, ⟨object.session.handle⟩⟩ := by
      rw [called]
      exact World.request?_closeSession present request.isOpen
    rw [setsAfter_of_request sent]
    exact ite_self _

theorem logAfter_openSession {config : List (Bytes × Bytes)} {user : Bytes}
    (called : event.call = .openSession config user) : state.logAfter event = state.log := by
  obtain ⟨resume, opens⟩ := Session.opens config user
  have sent : state.world.request? event.call =
      some ⟨.openSession, { username := user, configuration := config }⟩ := by
    simp [World.request?, called, World.rpc?, opens.rpc_eq]
  exact logAfter_of_unread ((logged?_of_request sent).trans (ite_self _))

theorem logAfter_closeSession {i : Nat} {object : SessionObject}
    (called : event.call = .closeSession i)
    (present : state.world.sessions[i]? = some object) : state.logAfter event = state.log := by
  rcases object.session.close_cases with ⟨_, done⟩ | ⟨resume, request⟩
  · apply logAfter_of_unread
    apply logged?_of_idle
    simp [World.request?, called, World.rpc?, present, done]
  · have sent : state.world.request? event.call =
        some ⟨.closeSession, ⟨object.session.handle⟩⟩ := by
      rw [called]
      exact World.request?_closeSession present request.isOpen
    exact logAfter_of_unread ((logged?_of_request sent).trans (ite_self _))

/-- A read is logged under its handle. -/
theorem logAfter_eq (state : Fetching Row) {event : FetchEvent Row}
    {added? : Option (LoggedRead Row)} {handle : TOperationHandle}
    (logged : state.logged? event = if event.loss = .request then none else added?)
    (answers : ∀ entry ∈ added?, entry.Answers handle) :
    (∀ other, other ≠ handle → state.logAfter event other = state.log other) ∧
      state.logAfter event handle = state.log handle ++
        (if event.loss = .request then none else added?).toList := by
  rw [logAfter, logged]
  by_cases lost : event.loss = .request
  · simp [lost]
  · rw [if_neg lost]
    cases added? with
    | none => simp
    | some entry =>
        obtain rfl := (answers entry rfl).handle_eq
        refine ⟨fun other different => Function.update_of_ne different .., ?_⟩
        exact Function.update_self ..

theorem handle_executeStatement_run (session : Session) (statement : Bytes)
    (confOverlay : List (Bytes × Bytes)) (respond : Responder) :
    let req : TExecuteStatementReq :=
      { sessionHandle := session.handle, statement := statement, confOverlay := confOverlay }
    ((session.executeStatement statement confOverlay).run respond).2.handle =
      (Exchange.openedOperation?
        ⟨.executeStatement, req, respond .executeStatement req⟩).getD {} := by
  apply (congrArg Operation.handle (out_tryRpc_returnNotOk (respond .executeStatement
    ({ sessionHandle := session.handle, statement := statement,
       confOverlay := confOverlay } : TExecuteStatementReq)) ({} : Operation) _)).trans
  generalize respond .executeStatement _ = outcome
  rcases outcome with what | (resp : TExecuteStatementResp)
  · rfl
  · cases success : resp.status.isSuccess <;>
      simp [Exchange.openedOperation?, Method.status, success]

/-- The server issues its new handle. -/
def issues (state : Fetching Row) (event : FetchEvent Row) : Bool :=
  event.accepts ∧ event.newOperation ≠ {} ∧ (state.sets event.newOperation).isNone

theorem handle_executeStatement (format : RowFormat Row) (state : Fetching Row)
    (event : FetchEvent Row) (req : TExecuteStatementReq) :
    (state.sets.handle format event .executeStatement req).2 =
        (if state.issues event then Function.update state.sets event.newOperation
          (some { cursor := { rows := event.rows } }) else state.sets) ∧
      Exchange.openedOperation? ⟨.executeStatement, req,
          state.respond format event .executeStatement req⟩ =
        if state.issues event ∧ event.loss = .none then some event.newOperation else none := by
  by_cases accepted : event.accepts = true ∧ event.newOperation ≠ {} ∧
      (state.sets event.newOperation).isNone
  · have issued : state.issues event = true := decide_eq_true accepted
    rw [if_pos issued]
    refine ⟨by rw [ResultSets.handle, if_pos accepted], ?_⟩
    by_cases arrives : event.loss = .none
    · rw [if_pos ⟨issued, arrives⟩, respond, if_pos arrives, ResultSets.handle, if_pos accepted]
      rfl
    · rw [if_neg fun both => arrives both.2, respond, if_neg arrives]
      rfl
  · have refused : state.issues event = false := decide_eq_false accepted
    rw [refused]
    refine ⟨by rw [ResultSets.handle, if_neg accepted]; rfl, ?_⟩
    by_cases arrives : event.loss = .none
    · rw [respond, if_pos arrives, ResultSets.handle, if_neg accepted]
      rfl
    · rw [respond, if_neg arrives]
      rfl

theorem routed_executeStatement (routed : Routed format state.world.operations state.sets state.log)
    {i : Nat} {statement : Bytes} {confOverlay : List (Bytes × Bytes)} {creator : SessionObject}
    (called : event.call = .executeStatement i statement confOverlay)
    (present : state.world.sessions[i]? = some creator) :
    Routed format (state.step format event).world.operations (state.step format event).sets
      (state.step format event).log := by
  let req : TExecuteStatementReq :=
    { sessionHandle := creator.session.handle, statement := statement, confOverlay := confOverlay }
  obtain ⟨resume, opens⟩ := creator.session.executes statement confOverlay
  have sent : state.world.request? event.call = some ⟨.executeStatement, req⟩ := by
    simp [World.request?, called, World.rpc?, present, opens.rpc_eq, req]
  obtain ⟨sets, opened⟩ := handle_executeStatement format state event req
  have handle := (handle_executeStatement_run creator.session statement confOverlay
    (state.respond format event)).trans (congrArg (Option.getD · {}) opened)
  have unread : state.logged? event = none := (logged?_of_request sent).trans (ite_self _)
  simp only [step, setsAfter_of_request sent, logAfter_of_unread unread, sets, called]
  rw [state.world.step_executeStatement (state.respond format event) present]
  dsimp only
  generalize ((creator.session.executeStatement statement confOverlay).run
    (state.respond format event)).2 = op at handle ⊢
  have exchanges : ((creator.session.executeStatement statement confOverlay).exchange?
      (state.respond format event)).toList =
        [⟨.executeStatement, req, state.respond format event .executeStatement req⟩] := by
    rw [opens.rpc_eq]
    rfl
  rw [exchanges]
  by_cases issued : state.issues event = true
  · obtain ⟨-, named, fresh⟩ := of_decide_eq_true issued
    have fresh := Option.isNone_iff_eq_none.mp fresh
    by_cases arrives : event.loss = .none
    · rw [if_pos ⟨issued, arrives⟩] at handle
      have own : op.handle = event.newOperation := handle
      rw [if_neg (by rw [arrives]; decide), if_pos issued, ← own]
      rw [← own] at named fresh
      have delivers : Delivers format op.handle { cursor := { rows := event.rows } }
          (OperationObject.mk op i [⟨.executeStatement, req,
            state.respond format event .executeStatement req⟩]).exchanges [] :=
        ⟨.nil, by simp, rfl⟩
      exact routed.open_ named fresh _ delivers
    · rw [if_neg fun both => arrives both.2] at handle
      have none : op.handle = {} := handle
      split_ifs
      · exact routed.snoc (fun opened => absurd none opened) fun opened => absurd none opened
      · exact (routed.issue named fresh _).snoc (fun opened => absurd none opened)
          fun opened => absurd none opened
  · rw [if_neg fun both => issued both.1] at handle
    have none : op.handle = {} := handle
    rw [if_neg issued, ite_self]
    exact routed.snoc (fun opened => absurd none opened) fun opened => absurd none opened

theorem fetched?_respond {method : Method} {req : method.Req}
    {read? : Option (TFetchResultsReq × TFetchResultsResp)}
    (fetched : Exchange.fetched? ⟨method, req,
      .reply (state.sets.handle format event method req).1⟩ = read?) :
    Exchange.fetched? ⟨method, req, state.respond format event method req⟩ =
      if event.loss = .none then read? else none := by
  by_cases arrives : event.loss = .none
  · rw [if_pos arrives, respond, if_pos arrives]
    exact fetched
  · rw [if_neg arrives, respond, if_neg arrives]
    cases method <;> rfl

theorem routed_onOperation
    (routed : Routed format state.world.operations state.sets state.log) {i : Nat}
    {call : OperationCall} {object : OperationObject} (called : event.call = .onOperation i call)
    (present : state.world.operations[i]? = some object) :
    Routed format (state.step format event).world.operations (state.step format event).sets
      (state.step format event).log := by
  simp only [step, called]
  rw [state.world.step_onOperation (state.respond format event) present]
  rcases call.cases object.op with ⟨_, _, done⟩ | ⟨method, req, resume, request⟩
  · have idle : state.world.request? event.call = none := by
      simp [World.request?, called, World.rpc?, present, done]
    rw [setsAfter_of_idle idle, logAfter_of_unread (logged?_of_idle idle), done]
    simp only [Rpc.run_done, Rpc.exchange?_done, Option.toList_none, List.append_nil]
    exact routed.exchange present rfl (fun _ _ => ⟨rfl, rfl⟩) (fun _ => ⟨rfl, rfl⟩)
      (routed.delivers i object present)
  · have sent : state.world.request? event.call = some ⟨method, req⟩ := by
      simp [World.request?, called, World.rpc?, present, request.rpc_eq]
    have logged := logged?_of_request sent
    rw [setsAfter_of_request sent, request.rpc_eq]
    simp only [Rpc.run_send, Rpc.exchange?_send, Option.toList_some]
    have kept : (resume (state.respond format event method req)).2.handle = object.op.handle := by
      rw [request.after]
      split_ifs <;> rfl
    cases stored : state.sets object.op.handle with
    | none =>
        rw [ResultSets.logged?_of_absent request.handle stored, ite_self] at logged
        rw [ResultSets.handle_of_absent request.handle stored, ite_self,
          logAfter_of_unread logged]
        refine routed.exchange present kept (fun _ _ => ⟨rfl, rfl⟩) (fun _ => ⟨rfl, rfl⟩)
          fun opened => ?_
        obtain ⟨set, some, _⟩ := routed.delivers i object present opened
        rw [stored] at some
        cases some
    | some set =>
        obtain ⟨after, added?, serves⟩ : ∃ after added?, state.sets.Serves format event
            object.op.handle set method req after added? :=
          ResultSets.serves request.handle stored
        have fetched := fetched?_respond serves.fetched_eq
        rw [serves.logged_eq] at logged
        have log := state.logAfter_eq logged fun entry member => (serves.answers entry member).1
        apply routed.exchange present kept
        · intro handle different
          refine ⟨?_, log.1 handle different⟩
          split_ifs
          · rfl
          · rw [serves.sets_eq, Function.update_of_ne different]
        · intro unopened
          rw [unopened, routed.unopened] at stored
          cases stored
        · intro opened
          obtain ⟨set', stored', delivers⟩ := routed.delivers i object present opened
          cases stored.symm.trans stored'
          rw [log.2]
          by_cases lost : event.loss = .request
          · rw [if_neg (by rw [lost]; decide)] at fetched
            rw [if_pos lost, if_pos lost, Option.toList_none, List.append_nil]
            exact ⟨set, stored, delivers.quiet fetched⟩
          · rw [if_neg lost, if_neg lost, serves.sets_eq, Function.update_self]
            refine ⟨after, rfl, delivers.serve serves.served
              (fun entry member => (serves.answers entry member).1) ?_⟩
            rw [fetched]
            cases added? with
            | none => simp
            | some entry =>
                have arrived := (serves.answers entry rfl).2
                by_cases arrives : event.loss = .none <;> simp [arrived, arrives]

theorem routed_of_eq (routed : Routed format state.world.operations state.sets state.log)
    (operations : (state.step format event).world.operations = state.world.operations)
    (sets : (state.step format event).sets = state.sets)
    (log : (state.step format event).log = state.log) :
    Routed format (state.step format event).world.operations (state.step format event).sets
      (state.step format event).log := by
  rw [operations, sets, log]
  exact routed

/-- One call keeps the operations and their result sets apart. -/
theorem routed_step (routed : Routed format state.world.operations state.sets state.log)
    (event : FetchEvent Row) :
    Routed format (state.step format event).world.operations (state.step format event).sets
      (state.step format event).log := by
  cases found : state.world.rpc? event.call with
  | none =>
      apply routed_of_eq routed
      · exact congrArg World.operations (state.world.step_missing found)
      · exact setsAfter_of_idle (by rw [World.request?, found]; rfl)
      · exact logAfter_of_unread (logged?_of_idle (by rw [World.request?, found]; rfl))
  | some rpc =>
      cases called : event.call with
      | openSession config user =>
          apply routed_of_eq routed
          · simp [step, called, World.step_openSession]
          · exact setsAfter_openSession called
          · exact logAfter_openSession called
      | executeStatement i statement confOverlay =>
          rw [called] at found
          obtain ⟨creator, present, -⟩ := Option.map_eq_some_iff.mp found
          exact routed_executeStatement routed called present
      | closeSession i =>
          rw [called] at found
          obtain ⟨object, present, -⟩ := Option.map_eq_some_iff.mp found
          apply routed_of_eq routed
          · simp [step, called, state.world.step_closeSession _ present]
          · exact setsAfter_closeSession called present
          · exact logAfter_closeSession called present
      | onOperation i call =>
          rw [called] at found
          obtain ⟨object, present, -⟩ := Option.map_eq_some_iff.mp found
          exact routed_onOperation routed called present

theorem routed_run (format : RowFormat Row) (events : List (FetchEvent Row)) :
    let state := run (Fetching.step format) {} events
    Routed format state.world.operations state.sets state.log := by
  have conforms : AllSteps (Fetching.step format) (fun _ _ => True) {} events :=
    allSteps_of_forall (fun _ _ => trivial) _ _
  refine run_invariant (fun state : Fetching Row =>
    Routed format state.world.operations state.sets state.log) ?_ ?_ conforms
  · exact fun state event routed _ => routed_step routed event
  · exact ⟨rfl, fun _ _ => rfl, by simp, by simp⟩

theorem arrived_of_logged? {entry : LoggedRead Row} (logged : state.logged? event = some entry) :
    entry.arrived = decide (event.loss = .none) := by
  rw [logged?] at logged
  split at logged
  · cases logged
  · split_ifs at logged with lost
    rename_i method req sent
    cases method with
    | fetchResults =>
        simp only [ResultSets.logged?, bind, Option.bind_eq_some_iff] at logged
        obtain ⟨set, _, fromStart, _, taken⟩ := logged
        split_ifs at taken
        cases taken
        rfl
    | _ => cases logged

/-- Only a call that loses something marks a read as lost. -/
theorem arrived_step (safe : event.loss = .none)
    (all : ∀ handle, ∀ entry ∈ state.log handle, entry.arrived = true) :
    ∀ handle, ∀ entry ∈ (state.step format event).log handle, entry.arrived = true := by
  intro handle entry member
  simp only [step, logAfter] at member
  cases logged : state.logged? event with
  | none =>
      rw [logged] at member
      exact all handle entry member
  | some last =>
      rw [logged] at member
      by_cases own : handle = last.req.operationHandle
      · subst own
        simp only [Function.update_self] at member
        rcases List.mem_append.mp member with earlier | new
        · exact all _ entry earlier
        · obtain rfl := List.mem_singleton.mp new
          simpa [safe] using arrived_of_logged? logged
      · simp only [Function.update_of_ne own] at member
        exact all handle entry member

theorem arrived_run (format : RowFormat Row) {events : List (FetchEvent Row)}
    (safe : ∀ event ∈ events, event.loss = .none) {state : Fetching Row}
    (all : ∀ handle, ∀ entry ∈ state.log handle, entry.arrived = true) :
    ∀ handle, ∀ entry ∈ (run (Fetching.step format) state events).log handle,
      entry.arrived = true := by
  induction events generalizing state with
  | nil => exact all
  | cons event events ih =>
      exact ih (fun later member => safe later (List.mem_cons_of_mem _ member))
        (arrived_step (safe event List.mem_cons_self) all)

/-- In every run, with calls on any operations in any order and with any losses: the fetches of an
operation that succeeded are, in their order, those for which the server made a read of its own
result set that is in the log and whose reply was not lost, and each got the rows of that read.
Every read in the log went on where the one before it ended, or began at the start when it was
asked to. Without such a request, all batches together are the rows before the cursor, each row
once; a reply says that no rows are left only at the end. -/
theorem fetches_deliver (format : RowFormat Row) (events : List (FetchEvent Row)) (i : Nat)
    (object : OperationObject) :
    let state := run (Fetching.step format) {} events
    let log := state.log object.op.handle
    state.world.operations[i]? = some object → object.op.handle ≠ {} →
      ∃ set, state.sets object.op.handle = some set ∧
        Delivers format object.op.handle set object.exchanges log ∧
        ((∀ entry ∈ log, entry.read.fromStart = false) →
          ((log.map LoggedRead.read).map Read.batch).flatten =
            set.cursor.rows.take set.cursor.position) ∧
        (∀ entry ∈ log, (format.response set.cursor.rows entry.read).hasMoreRows = false ↔
          entry.read.stop = set.cursor.rows.length) ∧
        ((∀ event ∈ events, event.loss = .none) → ∀ entry ∈ log, entry.arrived = true) := by
  intro state log present opened
  obtain ⟨set, stored, delivers⟩ := (routed_run format events).delivers i object present opened
  refine ⟨set, stored, delivers, fun goesOn => ?_, fun entry member => ?_, fun safe => ?_⟩
  · apply delivers.chained.flatten_eq
    intro read member
    obtain ⟨entry, listed, rfl⟩ := List.mem_map.mp member
    exact goesOn entry listed
  · have inside := delivers.chained.stop_le entry.read (List.mem_map_of_mem member)
    simp only [RowFormat.response, decide_eq_false_iff_not]
    omega
  · exact arrived_run format safe (by simp) object.op.handle

end Fetching

/-- Two statements, fetched from in turn; the reply to the second fetch from the first one is
lost. -/
def interleavedFetches : List (FetchEvent Nat) :=
  let first : TOperationHandle := { operationId := { guid := [1] } }
  let second : TOperationHandle := { operationId := { guid := [2] } }
  [{ call := .openSession [] [] },
    { call := .executeStatement 0 [] [], newOperation := first, rows := [10, 11, 12, 13] },
    { call := .executeStatement 0 [] [], newOperation := second, rows := [20] },
    { call := .onOperation 0 (.fetch 1 .next), limit := 1 },
    { call := .onOperation 1 (.fetch 9 .next), limit := 9 },
    { call := .onOperation 0 (.fetch 1 .next), limit := 1, loss := .reply },
    { call := .onOperation 0 (.fetch 9 .next), limit := 9 }]

/-- As many empty columns as there are rows. -/
def countedRows : RowFormat Nat where
  rowSet rows := { columns := List.replicate rows.length {} }

theorem fetches_deliver_interleaved :
    let state := run (Fetching.step countedRows) {} interleavedFetches
    ∃ object : OperationObject, state.world.operations[0]? = some object ∧
      object.op.handle ≠ {} ∧
      ((object.exchanges.filterMap Exchange.fetched?).map fun fetched =>
        (fetched.1.maxRows, fetched.2.results.columns.length, fetched.2.hasMoreRows)) =
          [(1, 1, true), (9, 2, false)] ∧
      ((state.log object.op.handle).map fun entry => (entry.read.batch, entry.arrived)) =
        [([10], true), ([11], false), ([12, 13], true)] ∧
      ∃ set, state.sets object.op.handle = some set ∧
        Delivers countedRows object.op.handle set object.exchanges
          (state.log object.op.handle) := by
  refine ⟨_, rfl, by decide, rfl, rfl, ?_⟩
  obtain ⟨set, stored, delivers, -⟩ :=
    Fetching.fetches_deliver countedRows interleavedFetches 0 _ rfl (by decide)
  exact ⟨set, stored, delivers⟩

end HS2Client
