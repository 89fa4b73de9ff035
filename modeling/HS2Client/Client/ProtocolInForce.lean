import HS2Client.Client.Outputs
import HS2Client.Client.Service

/-!
# The protocol version in force

The version given to `Connect` is kept in the service, but a request to open a session carries
the default of its field and the version that the server announces is not read. Only a server
that speaks a columnar version fills the columns of its results.
-/

namespace HS2Client

open Runs

/-- The version in a successful reply to `OpenSession`. -/
def Exchange.announced? : Exchange → Option Int
  | ⟨.openSession, _, .reply (resp : TOpenSessionResp)⟩ =>
      if resp.status.isSuccess then some resp.serverProtocolVersion else none
  | _ => none

namespace World

/-- The version that the server announced to the session of an operation. -/
def announced? (world : World) (i : Nat) : Option Int :=
  world.operations[i]?.bind fun object =>
    world.sessions[object.creator]?.bind fun creator =>
      creator.exchanges.findSome? Exchange.announced?

/-- A session that is opened was asked for with the given version, and the server announced a
columnar one. -/
def InForce (version : Int) (world : World) (event : Event) : Prop :=
  ∀ config user status, event.call = .openSession config user →
    world.status? event = some status → status.ok = true →
      ∃ (req : TOpenSessionReq) (resp : TOpenSessionResp),
        world.exchange? event = some ⟨.openSession, req, .reply resp⟩ ∧
          req.clientProtocol = version ∧ TProtocolVersion.v6 ≤ resp.serverProtocolVersion

/-- The server fills the columns of a result, one for each column of its schema, if it announced
a columnar version, and leaves them out otherwise. -/
def FillsColumns (schema : Nat → TTableSchema) (world : World) (event : Event) : Prop :=
  ∀ i maxRows orientation version, event.call = .onOperation i (.fetch maxRows orientation) →
    world.announced? i = some version →
      ∀ (req : TFetchResultsReq) (resp : TFetchResultsResp),
        world.exchange? event = some ⟨.fetchResults, req, .reply resp⟩ →
          resp.status.isSuccess = true →
            resp.results.columns.length =
              if TProtocolVersion.v6 ≤ version then (schema i).columns.length else 0

/-- A row set that is fetched has a column at every index of its schema. -/
def HasColumns (schema : Nat → TTableSchema) (world : World) (event : Event) : Prop :=
  ∀ i maxRows orientation object out, event.call = .onOperation i (.fetch maxRows orientation) →
    world.operations[i]? = some object → (world.announced? i).isSome →
      ((object.op.fetchRows maxRows orientation out).run event.respond).1.ok = true →
        ∃ rowSet,
          ((object.op.fetchRows maxRows orientation out).run event.respond).2.results =
            some rowSet ∧
          ∀ j < (schema i).columns.length, ∀ cls, (rowSet.getCol cls j).isSome

/-- The server opens a session only for a service of version 6, and announces a columnar
version. -/
def Announces (version : ProtocolVersion) (_ : World) (event : Event) : Prop :=
  ∀ config user (resp : TOpenSessionResp), event.call = .openSession config user →
    event.respond .openSession { username := user, configuration := config } = .reply resp →
      resp.status.isSuccess = true →
        version = .v6 ∧ TProtocolVersion.v6 ≤ resp.serverProtocolVersion

/-! ## Requests for a session -/

theorem exchange?_openSession (world : World) (config : List (Bytes × Bytes)) (user : Bytes)
    (respond : Responder) :
    world.exchange? ⟨.openSession config user, respond⟩ =
      some ⟨.openSession, { username := user, configuration := config },
        respond .openSession { username := user, configuration := config }⟩ := by
  simp [exchange?, rpc?, Session.openSession]

theorem ok_status?_openSession (world : World) (config : List (Bytes × Bytes)) (user : Bytes)
    (respond : Responder) :
    ∃ status, world.status? ⟨.openSession config user, respond⟩ = some status ∧
      status.ok =
        (respond .openSession { username := user, configuration := config }).isSuccess := by
  obtain ⟨resume, opens⟩ := Session.opens config user
  refine ⟨_, rfl, ?_⟩
  simp [opens.rpc_eq, opens.ok]

theorem v6_eq_iff (version : ProtocolVersion) :
    TProtocolVersion.v6 = protocolVersionToTProtocolVersion version ↔ version = .v6 := by
  cases version <;> decide

theorem inForce_iff_announces (version : ProtocolVersion) (world : World) (event : Event) :
    world.InForce (protocolVersionToTProtocolVersion version) event ↔
      world.Announces version event := by
  obtain ⟨call, respond⟩ := event
  constructor
  · rintro inForce config user resp rfl replied success
    obtain ⟨status, returned, ok⟩ := ok_status?_openSession world config user respond
    dsimp only at replied
    rw [replied] at ok
    obtain ⟨req, resp', exchanged, asked, announced⟩ :=
      inForce config user status rfl returned (ok.trans success)
    rw [exchange?_openSession, replied] at exchanged
    cases exchanged
    exact ⟨(v6_eq_iff version).mp asked, announced⟩
  · rintro announces config user status rfl returned ok
    obtain ⟨status', returned', ok'⟩ := ok_status?_openSession world config user respond
    cases returned.symm.trans returned'
    rw [ok] at ok'
    cases replied : respond .openSession { username := user, configuration := config } with
    | exception what => simp [replied, Outcome.isSuccess] at ok'
    | reply resp =>
        rw [replied] at ok'
        obtain ⟨rfl, announced⟩ := announces config user resp rfl replied ok'.symm
        refine ⟨{ username := user, configuration := config }, resp, ?_, rfl, announced⟩
        rw [exchange?_openSession, replied]

/-! ## Row sets of columnar sessions -/

/-- Every version that was announced is columnar. -/
def Columnar (world : World) : Prop :=
  ∀ object ∈ world.sessions, ∀ exchange ∈ object.exchanges, ∀ version,
    exchange.announced? = some version → TProtocolVersion.v6 ≤ version

theorem announced?_openSession {version : ProtocolVersion} {world : World}
    {config : List (Bytes × Bytes)} {user : Bytes} {respond : Responder} {announced : Int}
    (announces : world.Announces version ⟨.openSession config user, respond⟩)
    (reads : Exchange.announced? ⟨.openSession, { username := user, configuration := config },
      respond .openSession { username := user, configuration := config }⟩ = some announced) :
    TProtocolVersion.v6 ≤ announced := by
  cases replied : respond .openSession { username := user, configuration := config } with
  | exception what => simp [replied, Exchange.announced?] at reads
  | reply resp =>
      simp only [replied, Exchange.announced?, Option.ite_none_right_eq_some,
        Option.some.injEq] at reads
      rw [← reads.2]
      exact (announces config user resp rfl replied reads.1).2

theorem announced?_close {session : Session} {respond : Responder} {exchange : Exchange}
    (exchanged : session.close.exchange? respond = some exchange) :
    exchange.announced? = none := by
  rcases session.close_cases with ⟨-, done⟩ | ⟨resume, request⟩
  · simp [done] at exchanged
  · rw [request.rpc_eq, Rpc.exchange?_send, Option.some.injEq] at exchanged
    subst exchanged
    rfl

theorem columnar_step {version : ProtocolVersion} {world : World} {event : Event}
    (columnar : world.Columnar) (announces : world.Announces version event) :
    (world.step event).Columnar := by
  obtain ⟨call, respond⟩ := event
  have stepped := world.stepped respond call
  generalize world.step ⟨call, respond⟩ = after at stepped ⊢
  cases stepped with
  | missing => exact columnar
  | openSession config user =>
      intro object member exchange exchanged announced reads
      rcases List.mem_append.mp member with old | new
      · exact columnar object old exchange exchanged announced reads
      · rw [List.mem_singleton] at new
        subst new
        simp only [Session.openSession, Rpc.exchange?_send, Option.toList_some,
          List.mem_singleton] at exchanged
        subst exchanged
        exact announced?_openSession announces reads
  | executeStatement => exact columnar
  | @closeSession i closed present =>
      intro object member exchange exchanged announced reads
      rcases List.mem_or_eq_of_mem_set member with old | rfl
      · exact columnar object old exchange exchanged announced reads
      · rcases List.mem_append.mp exchanged with old | new
        · exact columnar closed (List.mem_of_getElem? present) exchange old announced reads
        · rw [announced?_close (Option.mem_toList.mp new)] at reads
          cases reads
  | onOperation => exact columnar

theorem v6_le_announced? {world : World} (columnar : world.Columnar) {i : Nat} {version : Int}
    (announced : world.announced? i = some version) : TProtocolVersion.v6 ≤ version := by
  obtain ⟨object, -, announced⟩ := Option.bind_eq_some_iff.mp announced
  obtain ⟨creator, present, announced⟩ := Option.bind_eq_some_iff.mp announced
  obtain ⟨exchange, member, reads⟩ := List.exists_of_findSome?_eq_some announced
  exact columnar creator (List.mem_of_getElem? present) exchange member version reads

theorem hasColumns_of_fillsColumns {schema : Nat → TTableSchema} {world : World} {event : Event}
    (columnar : world.Columnar) (fills : world.FillsColumns schema event) :
    world.HasColumns schema event := by
  obtain ⟨call, respond⟩ := event
  rintro i maxRows orientation object out rfl present announced ok
  obtain ⟨version, announced⟩ := Option.isSome_iff_exists.mp announced
  have traces := Query.leavesNoTrace object.op (.fetchRows maxRows orientation) out respond
  obtain ⟨(resp : TFetchResultsResp), replied, success⟩ := traces.ok_iff.mp ok
  have success : resp.status.isSuccess = true := decide_eq_true success
  refine ⟨⟨resp⟩, ?_, fun j bounded cls => ?_⟩
  · exact congrArg (fun result => result.2.results) (traces.succeeded resp replied success)
  · have exchanged : world.exchange? ⟨.onOperation i (.fetch maxRows orientation), respond⟩ =
        some ⟨.fetchResults, Query.req object.op (.fetchRows maxRows orientation),
          .reply resp⟩ := by
      rw [← replied]
      simp [exchange?, rpc?, present, OperationCall.rpc, Operation.fetchRows, Query.req]
    have filled := fills i maxRows orientation version rfl announced _ resp exchanged success
    rw [if_pos (v6_le_announced? columnar announced)] at filled
    simpa [ColumnarRowSet.getCol, filled] using bounded

theorem protocolVersion_connect (host : Bytes) (port connTimeout : Int)
    (version : ProtocolVersion) (opening : TransportOutcome) :
    (Service.connect host port connTimeout version opening).2.impl.protocolVersion =
      protocolVersionToTProtocolVersion version := by
  unfold Service.connect Service.open_
  split_ifs
  · rfl
  · cases opening <;> rfl

/-- The version of `Connect` is in force, and with it every row set has its columns, exactly when
every session is opened for a service of version 6 by a server that announces a columnar version:
the request always carries version 6, and the reply is not checked. -/
theorem inForce_iff (host : Bytes) (port connTimeout : Int) (version : ProtocolVersion)
    (opening : TransportOutcome) (events : List Event) :
    (AllSteps step (InForce
        (Service.connect host port connTimeout version opening).2.impl.protocolVersion) {} events ∧
      ∀ schema, AllSteps step (FillsColumns schema) {} events →
        AllSteps step (HasColumns schema) {} events) ↔
      AllSteps step (Announces version) {} events := by
  have inForce : AllSteps step (InForce (protocolVersionToTProtocolVersion version)) {} events ↔
      AllSteps step (Announces version) {} events :=
    allSteps_congr (fun _ => True) (fun world event _ => inForce_iff_announces version world event)
      (fun _ _ _ _ => trivial) trivial events
  rw [protocolVersion_connect, inForce, and_iff_left_iff_imp]
  intro announces schema fills
  apply allSteps_mono Columnar _ _ _ (allSteps_and announces fills)
  · exact fun world event columnar conforms => hasColumns_of_fillsColumns columnar conforms.2
  · exact fun world event columnar conforms => columnar_step columnar conforms.1
  · exact nofun

/-- A server of version 1: it opens a session, runs a statement of one column and answers a fetch
without columns. -/
def oldServer : Responder
  | .openSession, _ => .reply ({ serverProtocolVersion := 0 } : TOpenSessionResp)
  | method, req => .reply (successResp method req)

def oldServerRun : List Event :=
  [⟨.openSession [] (ascii "user"), oldServer⟩,
   ⟨.executeStatement 0 (ascii "select 1") [], oldServer⟩,
   ⟨.onOperation 0 (.fetch 1024 .next), oldServer⟩]

/-- A service of version 7 asks for version 6; and no version keeps a server of version 1 from
opening a session, whose row sets lack the columns of their schema. -/
theorem not_inForce_v7_and_old_server :
    (Service.connect (ascii "localhost") 21050 0 .v7 .success).1.ok = true ∧
      ¬ AllSteps step (InForce
        (Service.connect (ascii "localhost") 21050 0 .v7 .success).2.impl.protocolVersion) {}
        [⟨.openSession [] (ascii "user"), fun method req => .reply (successResp method req)⟩] ∧
      AllSteps step (FillsColumns fun _ => ⟨[{}]⟩) {} oldServerRun ∧
      ¬ AllSteps step (HasColumns fun _ => ⟨[{}]⟩) {} oldServerRun := by
  refine ⟨rfl, ?_, ⟨nofun, nofun, ?_, trivial⟩, ?_⟩
  · rintro ⟨inForce, -⟩
    rw [protocolVersion_connect] at inForce
    have announced := (inForce_iff_announces .v7 {} _).mp inForce [] (ascii "user") {} rfl rfl rfl
    cases announced.1
  · rintro i maxRows orientation version call announced req resp exchanged -
    cases call
    cases announced
    cases exchanged
    rfl
  · rintro ⟨-, -, hasColumns, -⟩
    obtain ⟨rowSet, results, columns⟩ := hasColumns 0 1024 .next _ {} rfl rfl rfl rfl
    cases results
    cases columns 0 (by decide) .bool

end World

end HS2Client
