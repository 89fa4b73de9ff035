import HS2Client.Client.Lifecycle
import HS2Client.Library.Nesting
import HS2Client.Library.RefCounting

/-!
# Garbage collection of the extension types

`Service`, `Session` and `Operation` of the Python extension own the C++ objects and close them
when they are deallocated. The interpreter below counts references: a program holds some, every
session one to its service and every operation one to its session. `__dealloc__` runs before
the reference to the parent is given up.
-/

namespace HS2Client.Py

open Nesting RefCounting Runs

/-- What closing sees of the C++ service: whether its transport is open. -/
structure Service where
  isConnected : Bool
  deriving DecidableEq

/-- The extension types. `parent` is an address, and a null `unique_ptr` is `none`. -/
inductive PyObject where
  | service (user : Bytes) (service : Option Service)
  | session (parent : Nat) (session : Option Session)
  | operation (parent : Nat) (op : Option Operation)

/-- What happens on a connection. The exchanges of an object are recorded with its address and
that of its parent; its opening exchange is its own. -/
inductive Entry where
  | connected (service : Nat)
  | disconnected (service : Nat)
  | session (address service : Nat) (exchange : Exchange)
  | operation (address session : Nat) (exchange : Exchange)

def PyObject.parent : PyObject → Option Nat
  | .service _ _ => none
  | .session parent _ => some parent
  | .operation parent _ => some parent

/-- `Service.close` -/
def closeService (address : Nat) : Option Service → Option Service × List Entry
  | none => (none, [])
  | some service =>
      if service.isConnected then (some ⟨false⟩, [.disconnected address])
      else (some service, [])

def closeSession (respond : Responder) (address parent : Nat) :
    Option Session → Option Session × List Entry
  | none => (none, [])
  | some session =>
      (some (session.close.run respond).2,
        (session.close.exchange? respond).toList.map (.session address parent))

/-- The methods of `Operation`; `close_operation` is the only one that looks for null. -/
def callOperation (respond : Responder) (address parent : Nat) (call : OperationCall) :
    Option Operation → Option Operation × List Entry
  | none => (none, [])
  | some op =>
      (some ((call.rpc op).run respond).2,
        ((call.rpc op).exchange? respond).toList.map (.operation address parent))

/-- `__dealloc__` -/
def PyObject.dealloc (respond : Responder) (address : Nat) : PyObject → PyObject × List Entry
  | .service user owned =>
      let closed := closeService address owned
      (.service user closed.1, closed.2)
  | .session parent owned =>
      let closed := closeSession respond address parent owned
      (.session parent closed.1, closed.2)
  | .operation parent owned =>
      let closed := callOperation respond address parent .close owned
      (.operation parent closed.1, closed.2)

/-! ## Programs -/

/-- How `Service.__cinit__` ends: with an exception before there is a C++ service, as for an
unknown protocol, with one from opening the transport, or connected. -/
inductive Connecting where
  | notImplemented
  | refused
  | connected
  deriving DecidableEq

inductive Command where
  | connect (user : Bytes) (connecting : Connecting)
  | openSession (service : Nat)
  /-- A statement that is not text is `none`. -/
  | execute (session : Nat) (statement : Option Bytes)
  | call (operation : Nat) (call : OperationCall)
  | copy (object : Nat)
  /-- Read the attribute `parent`. -/
  | parent (object : Nat)
  | drop (object : Nat)
  deriving DecidableEq

/-- A command and what answers the requests that it leads to. Requests to close succeed. -/
structure ProgramStep where
  command : Command
  respond : Responder
  closeOperation : ∀ req, (respond .closeOperation req).isSuccess = true
  closeSession : ∀ req, (respond .closeSession req).isSuccess = true

structure Interpreter where
  heap : Heap PyObject := []
  /-- The references that the program holds. -/
  references : List Nat := []
  log : List Entry := []

namespace Interpreter

def decref (respond : Responder) (interpreter : Interpreter) (address : Nat) : Interpreter :=
  let released := release PyObject.parent (PyObject.dealloc respond) (address + 1)
    interpreter.heap address
  { interpreter with heap := released.1, log := interpreter.log ++ released.2 }

/-- Hand a reference to the program. -/
def give (interpreter : Interpreter) (address : Nat) : Interpreter :=
  { interpreter with references := address :: interpreter.references }

/-- A new object, with a reference in a local variable and one to its parent. -/
def allocate (interpreter : Interpreter) (object : PyObject) (entries : List Entry) :
    Interpreter :=
  let heap := match object.parent with
    | none => interpreter.heap
    | some parent => interpreter.heap.acquire parent
  { interpreter with heap := heap ++ [⟨1, object⟩], log := interpreter.log ++ entries }

/-- The local variable is returned, or goes out of scope with an exception. -/
def finish (respond : Responder) (interpreter : Interpreter) (address : Nat) (ok : Bool) :
    Interpreter :=
  if ok then interpreter.give address else interpreter.decref respond address

def connect (respond : Responder) (interpreter : Interpreter) (user : Bytes) :
    Connecting → Interpreter
  | .notImplemented =>
      (interpreter.allocate (.service user none) []).finish respond interpreter.heap.length false
  | .refused =>
      (interpreter.allocate (.service user (some ⟨false⟩)) []).finish respond
        interpreter.heap.length false
  | .connected =>
      (interpreter.allocate (.service user (some ⟨true⟩))
        [.connected interpreter.heap.length]).finish respond interpreter.heap.length true

def openSession (respond : Responder) (interpreter : Interpreter) (service : Nat) (user : Bytes) :
    Interpreter :=
  let address := interpreter.heap.length
  let rpc := ({} : Session).openSession [] user
  let opened := rpc.run respond
  (interpreter.allocate (.session service (some opened.2))
    ((rpc.exchange? respond).toList.map (.session address service))).finish respond address
      opened.1.ok

def execute (respond : Responder) (interpreter : Interpreter) (parent : Nat) (session : Session) :
    Option Bytes → Interpreter
  | none =>
      (interpreter.allocate (.operation parent none) []).finish respond interpreter.heap.length
        false
  | some statement =>
      let address := interpreter.heap.length
      let rpc := session.executeStatement statement []
      let opened := rpc.run respond
      (interpreter.allocate (.operation parent (some opened.2))
        ((rpc.exchange? respond).toList.map (.operation address parent))).finish respond address
          opened.1.ok

def call (respond : Responder) (interpreter : Interpreter) (address count parent : Nat)
    (op : Option Operation) (call : OperationCall) : Interpreter :=
  let called := callOperation respond address parent call op
  { interpreter with
    heap := interpreter.heap.set address ⟨count, .operation parent called.1⟩
    log := interpreter.log ++ called.2 }

def acquire (interpreter : Interpreter) (address : Nat) : Interpreter :=
  { interpreter with heap := interpreter.heap.acquire address }

/-- The object to which the program applies a command, if it has a reference to it. -/
def object? (interpreter : Interpreter) (address : Nat) : Option (Cell PyObject) :=
  if address ∈ interpreter.references then interpreter.heap[address]? else none

/-- One command, with any answers to its requests. On an object that the program does not refer
to or that is of another class it does nothing. -/
def obey (respond : Responder) (interpreter : Interpreter) : Command → Interpreter
  | .connect user connecting => interpreter.connect respond user connecting
  | .openSession service =>
      match interpreter.object? service with
      | some ⟨_, .service user _⟩ => interpreter.openSession respond service user
      | _ => interpreter
  | .execute parent statement =>
      match interpreter.object? parent with
      | some ⟨_, .session _ (some session)⟩ =>
          interpreter.execute respond parent session statement
      | _ => interpreter
  | .call operation call =>
      match interpreter.object? operation with
      | some ⟨count, .operation parent op⟩ =>
          interpreter.call respond operation count parent op call
      | _ => interpreter
  | .copy object =>
      match interpreter.object? object with
      | some _ => (interpreter.acquire object).give object
      | none => interpreter
  | .parent object =>
      match (interpreter.object? object).bind fun cell => cell.value.parent with
      | some parent => (interpreter.acquire parent).give parent
      | none => interpreter
  | .drop object =>
      match interpreter.object? object with
      | some _ =>
          { interpreter with references := interpreter.references.erase object }.decref
            respond object
      | none => interpreter

def step (interpreter : Interpreter) (step : ProgramStep) : Interpreter :=
  interpreter.obey step.respond step.command

end Interpreter

end HS2Client.Py
