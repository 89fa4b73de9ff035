import HS2Client.Client.Lifecycle

/-!
# Services

The connection that sessions are opened on. A `Service` is handed to the caller even when
connecting failed, with whatever of its socket, transport, protocol and client was made by
then; following a null pointer is modelled by `none`.
-/

namespace HS2Client

open Runs

inductive ProtocolVersion where
  | v1
  | v2
  | v3
  | v4
  | v5
  | v6
  | v7
  deriving DecidableEq, Repr

def protocolVersionToTProtocolVersion : ProtocolVersion → Int
  | .v1 => 0
  | .v2 => 1
  | .v3 => 2
  | .v4 => 3
  | .v5 => 4
  | .v6 => TProtocolVersion.v6
  | .v7 => 6

/-! ## The Thrift runtime -/

/-- The timeouts that a socket is given are not kept: only Thrift reads them. -/
structure TSocket where
  host : Bytes
  port : Int
  deriving DecidableEq

/-- A `TBufferedTransport` over the socket of the service. -/
structure TTransport where
  isOpen : Bool := false
  deriving DecidableEq

/-- A `TBinaryProtocol` over the transport of the service. -/
structure TProtocol where
  deriving DecidableEq

/-- An `ImpalaHiveServer2ServiceClient` over the protocol of the service. -/
structure ServiceClient where
  deriving DecidableEq

/-- The outcome of opening or closing a transport. An exception says nothing about whether the
transport is open afterwards. -/
inductive TransportOutcome where
  | success
  | exception (what : Bytes) (isOpen : Bool)
  deriving DecidableEq

/-- What becomes of a request on a transport that is open or not, and whether the transport is
open afterwards. -/
structure Transmission where
  respond : Bool → Responder
  isOpenAfter : Bool
  /-- A request on a transport that is not open raises. -/
  raises : ∀ method req, ∃ what, respond false method req = .exception what

/-! ## Services -/

structure ServiceImpl where
  protocolVersion : Int
  socket : Option TSocket := none
  transport : Option TTransport := none
  protocol : Option TProtocol := none
  deriving DecidableEq

structure Service where
  host : Bytes
  port : Int
  connTimeout : Int
  impl : ServiceImpl
  /-- The client of the `ThriftRPC` that sessions and operations share. -/
  client : Option ServiceClient := none
  deriving DecidableEq

namespace Service

/-- The constructor. -/
def create (host : Bytes) (port connTimeout : Int) (protocolVersion : ProtocolVersion) :
    Service where
  host := host
  port := port
  connTimeout := connTimeout
  impl := { protocolVersion := protocolVersionToTProtocolVersion protocolVersion }

/-- The transport, if there is one, becomes open or not. -/
def withTransport (service : Service) (isOpen : Bool) : Service :=
  { service with
    impl := { service.impl with transport := service.impl.transport.map fun _ => ⟨isOpen⟩ } }

/-- The objects that `Open` makes before it opens the transport. -/
def makeClient (service : Service) : Service :=
  { service with
    impl := { service.impl with
      socket := some { host := service.host, port := service.port }
      transport := some {}
      protocol := some {} }
    client := some {} }

def open_ (service : Service) (opening : TransportOutcome) : Status × Service :=
  if service.impl.protocolVersion < TProtocolVersion.v6 then
    (.error (ascii ("Unsupported protocol: " ++ toString service.impl.protocolVersion)), service)
  else
    match opening with
    | .success => (.okStatus, service.makeClient.withTransport true)
    | .exception what isOpen => (.error what, service.makeClient.withTransport isOpen)

/-- The status of `Connect` and the service in its output argument. -/
def connect (host : Bytes) (port connTimeout : Int) (protocolVersion : ProtocolVersion)
    (opening : TransportOutcome) : Status × Service :=
  (create host port connTimeout protocolVersion).open_ opening

def isConnected (service : Service) : Bool :=
  match service.impl.transport with
  | none => false
  | some transport => transport.isOpen

def close (service : Service) (closing : TransportOutcome) : Option (Status × Service) :=
  if !service.isConnected then some (.okStatus, service)
  else
    service.impl.transport.map fun _ =>
      match closing with
      | .success => (.okStatus, service.withTransport false)
      | .exception what isOpen => (.error what, service.withTransport isOpen)

def setRecvTimeout (service : Service) (_timeout : Int) : Option Service :=
  service.impl.socket.map fun _ => service

def setSendTimeout (service : Service) (_timeout : Int) : Option Service :=
  service.impl.socket.map fun _ => service

/-- A call of the client library over the connection of the service: to send its request it
follows the pointer to the client. -/
def transmit {Result : Type} (service : Service) (transmission : Transmission) :
    Rpc Result → Option (Result × Service)
  | .done result => some (result, service)
  | .send method req resume =>
      service.client.map fun _ =>
        (resume (transmission.respond service.isConnected method req),
          service.withTransport transmission.isOpenAfter)

def openSession (service : Service) (user : Bytes) (config : List (Bytes × Bytes))
    (transmission : Transmission) : Option ((Status × Session) × Service) :=
  service.transmit transmission (({} : Session).openSession config user)

end Service

inductive ServiceCall where
  | isConnected
  | close (closing : TransportOutcome)
  | openSession (user : Bytes) (config : List (Bytes × Bytes)) (transmission : Transmission)
  | setRecvTimeout (timeout : Int)
  | setSendTimeout (timeout : Int)

/-- The service after a call. -/
def Service.perform (service : Service) : ServiceCall → Option Service
  | .isConnected => some service
  | .close closing => (service.close closing).map Prod.snd
  | .openSession user config transmission =>
      (service.openSession user config transmission).map Prod.snd
  | .setRecvTimeout timeout => service.setRecvTimeout timeout
  | .setSendTimeout timeout => service.setSendTimeout timeout

/-- A call, unless an earlier one has followed a null pointer. -/
def Service.step (state : Option Service) (call : ServiceCall) : Option Service :=
  state.bind fun service => service.perform call

/-! ## Safe use -/

/-- What a caller may rely on, whether the service is connected or not. -/
def ServiceCall.Safe (service : Service) : ServiceCall → Prop
  | .isConnected => True
  | .close closing => ∃ status after, service.close closing = some (status, after) ∧
      (service.isConnected = false → status = .okStatus ∧ after = service)
  | .openSession user config transmission => ∃ status session after,
      service.openSession user config transmission = some ((status, session), after) ∧
        (status.ok = true → service.isConnected = true) ∧
        (service.isConnected = false → status.code = .error) ∧
        (status.ok = false → session.close = .done (.okStatus, session))
  | .setRecvTimeout timeout => (service.setRecvTimeout timeout).isSome
  | .setSendTimeout timeout => (service.setSendTimeout timeout).isSome

/-- No earlier call has followed a null pointer, and this one is safe. -/
def Service.SafeStep (state : Option Service) (call : ServiceCall) : Prop :=
  ∃ service, state = some service ∧ call.Safe service

/-- The calls that test the pointers before they follow them. -/
def ServiceCall.isGuarded : ServiceCall → Bool
  | .isConnected => true
  | .close _ => true
  | .openSession _ _ _ => false
  | .setRecvTimeout _ => false
  | .setSendTimeout _ => false

namespace Service

/-- Everything that `Open` makes is there. -/
structure Complete (service : Service) : Prop where
  socket : service.impl.socket.isSome
  transport : service.impl.transport.isSome
  client : service.client.isSome

/-- Nothing of it is there. -/
structure Bare (service : Service) : Prop where
  socket : service.impl.socket = none
  transport : service.impl.transport = none
  client : service.client = none

variable {service : Service}

theorem complete_withTransport (complete : service.Complete) (isOpen : Bool) :
    (service.withTransport isOpen).Complete where
  socket := complete.socket
  transport := by simpa [withTransport] using complete.transport
  client := complete.client

theorem complete_makeClient (service : Service) : service.makeClient.Complete := ⟨rfl, rfl, rfl⟩

theorem connect_complete (host : Bytes) (port connTimeout : Int) {version : ProtocolVersion}
    (supported : TProtocolVersion.v6 ≤ protocolVersionToTProtocolVersion version)
    (opening : TransportOutcome) : (connect host port connTimeout version opening).2.Complete := by
  have accepted : ¬ (create host port connTimeout version).impl.protocolVersion <
      TProtocolVersion.v6 := not_lt.mpr supported
  cases opening with
  | success =>
      simpa [connect, open_, accepted] using complete_withTransport (complete_makeClient _) true
  | exception what isOpen =>
      simpa [connect, open_, accepted] using complete_withTransport (complete_makeClient _) isOpen

theorem connect_bare (host : Bytes) (port connTimeout : Int) {version : ProtocolVersion}
    (unsupported : ¬ TProtocolVersion.v6 ≤ protocolVersionToTProtocolVersion version)
    (opening : TransportOutcome) : (connect host port connTimeout version opening).2.Bare := by
  have refused : (create host port connTimeout version).impl.protocolVersion <
      TProtocolVersion.v6 := not_le.mp unsupported
  have unchanged : (connect host port connTimeout version opening).2 =
      create host port connTimeout version := by
    simp [connect, open_, refused]
  rw [unchanged]
  exact ⟨rfl, rfl, rfl⟩

/-! ### A service with everything in place -/

theorem close_of_not_connected (notConnected : service.isConnected = false)
    (closing : TransportOutcome) : service.close closing = some (.okStatus, service) := by
  simp [close, notConnected]

theorem close_of_connected (connected : service.isConnected = true)
    (closing : TransportOutcome) :
    ∃ status isOpen, service.close closing = some (status, service.withTransport isOpen) := by
  obtain ⟨transport, present⟩ : ∃ transport, service.impl.transport = some transport := by
    cases absent : service.impl.transport with
    | none => simp [isConnected, absent] at connected
    | some transport => exact ⟨transport, rfl⟩
  cases closing with
  | success => exact ⟨.okStatus, false, by simp [close, connected, present]⟩
  | exception what isOpen => exact ⟨.error what, isOpen, by simp [close, connected, present]⟩

theorem safe_close (closing : TransportOutcome) : (ServiceCall.close closing).Safe service := by
  cases connected : service.isConnected with
  | false =>
      exact ⟨.okStatus, service, close_of_not_connected connected closing, fun _ => ⟨rfl, rfl⟩⟩
  | true =>
      obtain ⟨status, isOpen, closed⟩ := close_of_connected connected closing
      exact ⟨status, _, closed, fun notConnected => by simp [connected] at notConnected⟩

theorem openSession_of_client (present : service.client.isSome) (user : Bytes)
    (config : List (Bytes × Bytes)) (transmission : Transmission) :
    service.openSession user config transmission =
      some ((({} : Session).openSession config user).run
        (transmission.respond service.isConnected),
        service.withTransport transmission.isOpenAfter) := by
  obtain ⟨client, present⟩ := Option.isSome_iff_exists.mp present
  simp [openSession, transmit, Session.openSession, present]

/-- A session whose opening failed has nothing to close. -/
theorem close_of_openSession_failed (config : List (Bytes × Bytes)) (user : Bytes)
    (respond : Responder)
    (failed : ((({} : Session).openSession config user).run respond).1.ok = false) :
    ((({} : Session).openSession config user).run respond).2.close =
      .done (.okStatus, ((({} : Session).openSession config user).run respond).2) := by
  apply Session.close_of_closed
  obtain ⟨resume, opens⟩ := Session.opens config user
  rw [opens.rpc_eq, Rpc.run_send] at failed ⊢
  rw [opens.ok] at failed
  generalize respond .openSession _ = outcome at failed ⊢
  rw [opens.flag outcome {}]
  rcases outcome with what | (resp : TOpenSessionResp)
  · rfl
  · simp_all [Outcome.isSuccess, Method.status, Exchange.openedSession?]

theorem safe_openSession (present : service.client.isSome) (user : Bytes)
    (config : List (Bytes × Bytes)) (transmission : Transmission) :
    (ServiceCall.openSession user config transmission).Safe service := by
  have raised : service.isConnected = false →
      ((({} : Session).openSession config user).run
        (transmission.respond service.isConnected)).1.code = .error := by
    intro notConnected
    obtain ⟨what, raises⟩ := transmission.raises .openSession
      { username := user, configuration := config }
    rw [notConnected, Session.openSession, Rpc.run_send, raises]
    rfl
  have opened := openSession_of_client present user config transmission
  have closes := close_of_openSession_failed config user
    (transmission.respond service.isConnected)
  generalize (({} : Session).openSession config user).run _ = result at raised opened closes
  obtain ⟨status, session⟩ := result
  refine ⟨status, session, _, opened, ?_, raised, closes⟩
  intro ok
  by_contra notConnected
  have code : status.code = .error := raised (Bool.eq_false_iff.mpr notConnected)
  simp [Status.ok, code] at ok

theorem safe_of_complete (complete : service.Complete) (call : ServiceCall) :
    call.Safe service := by
  cases call with
  | isConnected => trivial
  | close closing => exact safe_close closing
  | openSession user config transmission =>
      exact safe_openSession complete.client user config transmission
  | setRecvTimeout timeout => simpa [ServiceCall.Safe, setRecvTimeout] using complete.socket
  | setSendTimeout timeout => simpa [ServiceCall.Safe, setSendTimeout] using complete.socket

theorem perform_complete (complete : service.Complete) (call : ServiceCall) :
    ∃ after, service.perform call = some after ∧ after.Complete := by
  obtain ⟨socket, present⟩ := Option.isSome_iff_exists.mp complete.socket
  cases call with
  | isConnected => exact ⟨service, rfl, complete⟩
  | close closing =>
      cases connected : service.isConnected with
      | false => exact ⟨service, by simp [perform, close_of_not_connected connected], complete⟩
      | true =>
          obtain ⟨status, isOpen, closed⟩ := close_of_connected connected closing
          exact ⟨_, by simp [perform, closed], complete_withTransport complete isOpen⟩
  | openSession user config transmission =>
      refine ⟨_, ?_, complete_withTransport complete transmission.isOpenAfter⟩
      simp [perform, openSession_of_client complete.client]
  | setRecvTimeout timeout =>
      exact ⟨_, congrArg (Option.map _) present, complete⟩
  | setSendTimeout timeout =>
      exact ⟨_, congrArg (Option.map _) present, complete⟩

/-! ### A service without anything -/

theorem isConnected_of_bare (bare : service.Bare) : service.isConnected = false := by
  simp [isConnected, bare.transport]

theorem safe_iff_of_bare (bare : service.Bare) (call : ServiceCall) :
    call.Safe service ↔ call.isGuarded = true := by
  cases call with
  | isConnected => simp [ServiceCall.Safe, ServiceCall.isGuarded]
  | close closing => simp [safe_close, ServiceCall.isGuarded]
  | openSession user config transmission =>
      simp [ServiceCall.Safe, openSession, transmit, Session.openSession, bare.client,
        ServiceCall.isGuarded]
  | setRecvTimeout timeout =>
      simp [ServiceCall.Safe, setRecvTimeout, bare.socket, ServiceCall.isGuarded]
  | setSendTimeout timeout =>
      simp [ServiceCall.Safe, setSendTimeout, bare.socket, ServiceCall.isGuarded]

theorem perform_of_bare (bare : service.Bare) {call : ServiceCall}
    (guarded : call.isGuarded = true) : service.perform call = some service := by
  cases call with
  | isConnected => rfl
  | close closing => simp [perform, close_of_not_connected (isConnected_of_bare bare)]
  | openSession user config transmission => cases guarded
  | setRecvTimeout timeout => cases guarded
  | setSendTimeout timeout => cases guarded

theorem safeStep_some_iff {call : ServiceCall} : SafeStep (some service) call ↔
    call.Safe service := by
  constructor
  · rintro ⟨other, same, safe⟩
    cases same
    exact safe
  · exact fun safe => ⟨service, rfl, safe⟩

/-- A service without anything stays so, and only the guarded calls are safe on it. -/
theorem allSteps_of_bare (bare : service.Bare) (calls : List ServiceCall) :
    AllSteps step SafeStep (some service) calls ↔ ∀ call ∈ calls, call.isGuarded = true := by
  induction calls with
  | nil => simp [AllSteps]
  | cons call calls ih =>
      simp only [AllSteps, safeStep_some_iff, safe_iff_of_bare bare, List.forall_mem_cons]
      apply and_congr_right
      intro guarded
      rw [step, Option.bind_some, perform_of_bare bare guarded]
      exact ih

theorem allSteps_of_complete (complete : service.Complete) (calls : List ServiceCall) :
    AllSteps step SafeStep (some service) calls := by
  apply allSteps_mono (fun state => ∃ service, state = some service ∧ service.Complete) _ _
    ⟨service, rfl, complete⟩
    (allSteps_of_forall (fun _ _ => trivial) _ calls : AllSteps step (fun _ _ => True) _ calls)
  · rintro state call ⟨service, rfl, complete⟩ -
    exact safeStep_some_iff.mpr (safe_of_complete complete call)
  · rintro state call ⟨service, rfl, complete⟩ -
    exact perform_complete complete call

/-- Every call on the service that `Connect` leaves is safe if the version is supported; after an
unsupported one `Open` has returned before it made a socket and a client, and the calls that
use these without a test follow null pointers. -/
theorem safe_after_connect_iff (host : Bytes) (port connTimeout : Int)
    (version : ProtocolVersion) (opening : TransportOutcome) (calls : List ServiceCall) :
    AllSteps step SafeStep (some (connect host port connTimeout version opening).2) calls ↔
      TProtocolVersion.v6 ≤ protocolVersionToTProtocolVersion version ∨
        ∀ call ∈ calls, call.isGuarded = true := by
  by_cases supported : TProtocolVersion.v6 ≤ protocolVersionToTProtocolVersion version
  · have complete := connect_complete host port connTimeout supported opening
    exact iff_of_true (allSteps_of_complete complete calls) (.inl supported)
  · have bare := connect_bare host port connTimeout supported opening
    rw [allSteps_of_bare bare]
    exact (or_iff_right supported).symm

/-- After connecting with version 2, setting a timeout follows the null socket. -/
theorem not_safe_after_unsupported_version :
    (connect (ascii "localhost") 21050 0 .v2 .success).2.setRecvTimeout 1000 = none ∧
      ¬ AllSteps step SafeStep (some (connect (ascii "localhost") 21050 0 .v2 .success).2)
        [.setRecvTimeout 1000] := by
  refine ⟨rfl, ?_⟩
  rintro ⟨⟨service, same, safe⟩, -⟩
  cases same
  cases safe

end Service

end HS2Client
