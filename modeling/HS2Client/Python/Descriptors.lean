import HS2Client.ColumnTypes
import HS2Client.Library.RefCounting
import HS2Client.PrintResults
import HS2Client.Python.WholeResults

/-!
# Column descriptors

A `Schema` owns the column descriptions. A `ColumnDesc` and a `ColumnType` only point to them,
and each keeps the object alive that it was read from. Programs run on these objects, where a
read of freed memory shows nothing, and on the values that the objects stand for.
-/

namespace HS2Client.Py

open RefCounting Runs

/-! ## Attributes -/

inductive Attribute where
  | ncolumns
  | name
  | position
  | comment
  | shortRepr
  | maxLength
  | precision
  | scale
  | repr

inductive MetadataError where
  | status (status : Status)
  | indexError (message : Bytes)
  | overflowError
  | attributeError
  | unicodeDecodeError
  /-- There is no such local variable, or operation. -/
  | nameError

inductive Reading where
  /-- An object, in a new variable. -/
  | object
  | none
  | int (value : Int)
  | text (text : Bytes)
  /-- The default `repr`, with the address. -/
  | address

abbrev Reply := Except MetadataError Reading

section Texts

variable (decodes : Bytes → Bool)

/-- Python 2 takes all bytes as they are. -/
def frombytes (text : Bytes) : Except MetadataError Bytes :=
  if decodes text then .ok text else .error .unicodeDecodeError

def typeName (type : ColumnType) : Except MetadataError Bytes := frombytes decodes type.toBytes

def characterRepr (maxLength : Int) (name : Bytes) : Bytes :=
  name ++ ascii "(" ++ decimal maxLength ++ ascii ")"

def decimalRepr (precision scale : Int) (name : Bytes) : Bytes :=
  name ++ ascii "(" ++ decimal precision ++ ascii ", " ++ decimal scale ++ ascii ")"

/-- `ColumnDesc.__repr__`; the short form of a type has nothing that `repr` escapes. -/
def columnRepr (name shortRepr : Bytes) : Bytes :=
  ascii "HS2Column(name=" ++ name ++ ascii ", type='" ++ shortRepr ++ ascii "')"

def schemaAttribute (columns : List ColumnDesc) : Attribute → Reply
  | .ncolumns => .ok (.int columns.length)
  | .repr => .ok .address
  | _ => .error .attributeError

def descAttribute (desc : ColumnDesc) (shortRepr : Except MetadataError Bytes) : Attribute → Reply
  | .name => (frombytes decodes desc.columnName).map .text
  | .position => .ok (.int desc.position)
  | .comment =>
      if desc.comment.length = 0 then .ok .none
      else (frombytes decodes desc.comment).map .text
  | .repr => do
      let name ← frombytes decodes desc.columnName
      let type ← shortRepr
      return .text (columnRepr name type)
  | _ => .error .attributeError

/-- `(<int> self.columns.size())` -/
def intSize (columns : List ColumnDesc) : Int := (columns.length : Int).bmod (2 ^ 32)

theorem intSize_le (columns : List ColumnDesc) : intSize columns ≤ columns.length := by
  have kept : (columns.length : Int) % ((2 ^ 32 : Nat) : Int) ≤ columns.length := by omega
  unfold intSize Int.bmod
  dsimp only
  split_ifs <;> omega

/-- The index that `Schema.column` uses; its argument is converted to `int` first. -/
def columnIndex (columns : List ColumnDesc) (i : Int) :
    Except MetadataError (Fin columns.length) :=
  if i < -2 ^ 31 ∨ 2 ^ 31 ≤ i then .error .overflowError
  else if inside : 0 ≤ i ∧ i < intSize columns then
    have below : i.toNat < columns.length := by
      have := intSize_le columns
      omega
    .ok ⟨i.toNat, below⟩
  else .error (.indexError (ascii "Column index " ++ decimal i ++ ascii " is out of bounds"))

/-! ## Objects -/

/-- A column in the `vector` of a `Schema`: a `const CColumnDesc*`, or a `const CColumnType*` to
its type. -/
structure ColumnPointer where
  schema : Nat
  index : Nat

inductive TypeClass where
  | primitiveType
  | characterType
  | decimalType

inductive MetadataObject where
  | schema (columns : List ColumnDesc)
  | columnDesc (parent : Nat) (desc : Option ColumnPointer)
  | columnType (parent : Nat) (cls : TypeClass) (base : ColumnPointer)

def MetadataObject.parent : MetadataObject → Option Nat
  | .schema _ => none
  | .columnDesc parent _ => some parent
  | .columnType parent _ _ => some parent

/-- The class that the property `type` chooses. -/
def typeClass (typeId : TypeId) : TypeClass :=
  if typeId = .decimal then .decimalType
  else if typeId = .char ∨ typeId = .varchar then .characterType
  else .primitiveType

namespace TypeClass

variable (cls : TypeClass) (type : ColumnType)

/-- `subtype` comes from a `static_cast`. -/
def shortRepr? : Option (Except MetadataError Bytes) :=
  match cls with
  | .primitiveType => some (typeName decodes type)
  | .characterType =>
      type.asCharacter?.map fun maxLength => (typeName decodes type).map (characterRepr maxLength)
  | .decimalType =>
      type.asDecimal?.map fun (precision, scale) =>
        (typeName decodes type).map (decimalRepr precision scale)

def attribute? (asked : Attribute) : Option Reply :=
  match cls, asked with
  | _, .name => some ((typeName decodes type).map .text)
  | cls, .shortRepr => (cls.shortRepr? decodes type).map fun shown => shown.map .text
  | .characterType, .maxLength => type.asCharacter?.map fun maxLength => .ok (.int maxLength)
  | .decimalType, .precision => type.asDecimal?.map fun (precision, _) => .ok (.int precision)
  | .decimalType, .scale => type.asDecimal?.map fun (_, scale) => .ok (.int scale)
  | _, .repr => some (.ok .address)
  | _, _ => some (.error .attributeError)

end TypeClass

/-! ## Programs -/

inductive MetadataCommand where
  /-- Read the property `schema` of an operation. -/
  | schema (operation : Nat)
  /-- The operation is deallocated. -/
  | deallocate (operation : Nat)
  | column (variableIndex : Nat) (i : Int)
  | type (variableIndex : Nat)
  | read (variableIndex : Nat) (asked : Attribute)
  | copy (variableIndex : Nat)
  | drop (variableIndex : Nat)

structure MetadataStep where
  command : MetadataCommand
  respond : Responder

/-- The request of a step and what the program sees of it. -/
structure Seen (Shown : Type) where
  request? : Option (Σ method : Method, method.Req)
  shown : Shown

def Seen.map {Shown Other : Type} (f : Shown → Other) (seen : Seen Shown) : Seen Other :=
  ⟨seen.request?, f seen.shown⟩

/-! ## Programs on objects -/

/-- The extension object of an operation; `cached_metadata` is an address. -/
structure OperationWrapper where
  op : Operation
  cachedMetadata : Option Nat := none

/-- An operation that was deallocated is `none`. -/
structure Wrappers where
  heap : Heap MetadataObject := []
  operations : List (Option OperationWrapper)
  /-- The references that the program holds, the newest one first. -/
  locals : List Nat := []

/-- The column that is pointed to, unless it was freed. -/
def column? (heap : Heap MetadataObject) (pointer : ColumnPointer) : Option ColumnDesc :=
  match heap.live? pointer.schema with
  | some (.schema columns) => columns[pointer.index]?
  | _ => none

/-- The attribute of a live object. -/
def attribute? (heap : Heap MetadataObject) (object : MetadataObject) (asked : Attribute) :
    Option Reply :=
  match object with
  | .schema columns => some (schemaAttribute columns asked)
  | .columnDesc _ pointer => do
      let desc ← pointer.bind (column? heap)
      let shortRepr ← (typeClass desc.type.typeId).shortRepr? decodes desc.type
      return descAttribute decodes desc shortRepr asked
  | .columnType _ cls base => do
      let desc ← column? heap base
      cls.attribute? decodes desc.type asked

def decref (heap : Heap MetadataObject) (address : Nat) : Heap MetadataObject :=
  (release MetadataObject.parent freeze (address + 1) heap address).1

namespace Wrappers

def start (ops : List Operation) : Wrappers where
  operations := ops.map fun op => some { op }

variable (wrappers : Wrappers)

/-- A step without a request that changes nothing. -/
def answer (reply : Option Reply) : Wrappers × Seen (Option Reply) := (wrappers, ⟨none, reply⟩)

/-- A new object in a new variable; it takes a reference to its parent. -/
def allocate (parent : Nat) (object : MetadataObject) : Wrappers where
  heap := wrappers.heap.acquire parent ++ [⟨1, object⟩]
  operations := wrappers.operations
  locals := wrappers.heap.length :: wrappers.locals

def schema (respond : Responder) (i : Nat) (self : OperationWrapper) :
    Wrappers × Seen (Option Reply) :=
  match self.cachedMetadata with
  | some metadata =>
      ({ wrappers with
        heap := wrappers.heap.acquire metadata
        locals := metadata :: wrappers.locals }, ⟨none, some (.ok .object)⟩)
  | none =>
      let rpc := self.op.getResultSetMetadata []
      let returned := rpc.run respond
      let metadata := wrappers.heap.length
      let heap := wrappers.heap ++ [⟨1, .schema returned.2⟩]
      if returned.1.ok then
        ({ heap := heap.acquire metadata
           operations := wrappers.operations.set i
            (some { self with cachedMetadata := some metadata })
           locals := metadata :: wrappers.locals }, ⟨rpc.request?, some (.ok .object)⟩)
      else
        ({ wrappers with heap := decref heap metadata },
          ⟨rpc.request?, some (.error (.status returned.1))⟩)

def deallocate (i : Nat) (self : OperationWrapper) : Wrappers where
  heap := match self.cachedMetadata with
    | some metadata => decref wrappers.heap metadata
    | none => wrappers.heap
  operations := wrappers.operations.set i none
  locals := wrappers.locals

/-- `Schema.column` -/
def column (self : Nat) (columns : List ColumnDesc) (i : Int) : Wrappers × Seen (Option Reply) :=
  match columnIndex columns i with
  | .error .overflowError => wrappers.answer (some (.error .overflowError))
  | .error error =>
      -- The object exists before the index is looked at, and has no pointer yet.
      ({ wrappers with
        heap := decref (wrappers.allocate self (.columnDesc self none)).heap wrappers.heap.length },
        ⟨none, some (.error error)⟩)
  | .ok index =>
      (wrappers.allocate self (.columnDesc self (some ⟨self, index⟩)),
        ⟨none, some (.ok .object)⟩)

/-- `ColumnDesc.type` -/
def type (self : Nat) (desc : Option ColumnPointer) : Wrappers × Seen (Option Reply) :=
  match desc with
  | none => wrappers.answer none
  | some pointer =>
      match column? wrappers.heap pointer with
      | none => wrappers.answer none
      | some desc =>
          (wrappers.allocate self (.columnType self (typeClass desc.type.typeId) pointer),
            ⟨none, some (.ok .object)⟩)

/-- Use the extension object of an operation. -/
def onOperation (i : Nat) (body : OperationWrapper → Wrappers × Seen (Option Reply)) :
    Wrappers × Seen (Option Reply) :=
  match wrappers.operations[i]? with
  | some (some self) => body self
  | _ => wrappers.answer (some (.error .nameError))

/-- Use the object in a local variable, with its address. -/
def onLocal (v : Nat) (body : Nat → MetadataObject → Wrappers × Seen (Option Reply)) :
    Wrappers × Seen (Option Reply) :=
  match wrappers.locals[v]? with
  | none => wrappers.answer (some (.error .nameError))
  | some address =>
      match wrappers.heap.live? address with
      | none => wrappers.answer none
      | some object => body address object

/-- A step of a program; a read through a pointer to freed memory shows nothing. -/
def perform (step : MetadataStep) : Wrappers × Seen (Option Reply) :=
  match step.command with
  | .schema i => wrappers.onOperation i fun self => wrappers.schema step.respond i self
  | .deallocate i => wrappers.onOperation i fun self =>
      (wrappers.deallocate i self, ⟨none, some (.ok .none)⟩)
  | .column v i => wrappers.onLocal v fun address object =>
      match object with
      | .schema columns => wrappers.column address columns i
      | _ => wrappers.answer (some (.error .attributeError))
  | .type v => wrappers.onLocal v fun address object =>
      match object with
      | .columnDesc _ desc => wrappers.type address desc
      | _ => wrappers.answer (some (.error .attributeError))
  | .read v asked => wrappers.onLocal v fun _ object =>
      wrappers.answer (attribute? decodes wrappers.heap object asked)
  | .copy v => wrappers.onLocal v fun address _ =>
      ({ wrappers with
        heap := wrappers.heap.acquire address
        locals := address :: wrappers.locals }, ⟨none, some (.ok .object)⟩)
  | .drop v => wrappers.onLocal v fun address _ =>
      ({ wrappers with
        heap := decref wrappers.heap address
        locals := wrappers.locals.eraseIdx v }, ⟨none, some (.ok .none)⟩)

end Wrappers

/-! ## Programs on values -/

inductive MetadataValue where
  | schema (columns : List ColumnDesc)
  | columnDesc (desc : ColumnDesc)
  | columnType (type : ColumnType)

/-- The short form of a type, with the parameters that it has. -/
def typeRepr (type : ColumnType) : Except MetadataError Bytes :=
  match type with
  | .primitive _ => typeName decodes type
  | .character _ maxLength => (typeName decodes type).map (characterRepr maxLength)
  | .decimal _ precision scale => (typeName decodes type).map (decimalRepr precision scale)

def typeAttribute (type : ColumnType) (asked : Attribute) : Reply :=
  match type, asked with
  | type, .name => (typeName decodes type).map .text
  | type, .shortRepr => (typeRepr decodes type).map .text
  | .character _ maxLength, .maxLength => .ok (.int maxLength)
  | .decimal _ precision _, .precision => .ok (.int precision)
  | .decimal _ _ scale, .scale => .ok (.int scale)
  | _, .repr => .ok .address
  | _, _ => .error .attributeError

def MetadataValue.attribute (value : MetadataValue) (asked : Attribute) : Reply :=
  match value with
  | .schema columns => schemaAttribute columns asked
  | .columnDesc desc => descAttribute decodes desc (typeRepr decodes desc.type) asked
  | .columnType type => typeAttribute decodes type asked

structure Descriptions where
  operations : List (Option PyOperation)
  locals : List MetadataValue := []

namespace Descriptions

def start (ops : List Operation) : Descriptions where
  operations := ops.map fun op => some { op }

variable (descriptions : Descriptions)

def answer (reply : Reply) : Descriptions × Seen Reply := (descriptions, ⟨none, reply⟩)

def give (value : MetadataValue) : Descriptions × Seen Reply :=
  ({ descriptions with locals := value :: descriptions.locals }, ⟨none, .ok .object⟩)

def schema (respond : Responder) (i : Nat) (self : PyOperation) : Descriptions × Seen Reply :=
  let read := self.schema.run respond
  let operations := descriptions.operations.set i (some read.2)
  match read.1 with
  | .ok columns =>
      ({ operations, locals := .schema columns :: descriptions.locals },
        ⟨self.schema.request?, .ok .object⟩)
  | .error status =>
      ({ descriptions with operations }, ⟨self.schema.request?, .error (.status status)⟩)

def onOperation (i : Nat) (body : PyOperation → Descriptions × Seen Reply) :
    Descriptions × Seen Reply :=
  match descriptions.operations[i]? with
  | some (some self) => body self
  | _ => descriptions.answer (.error .nameError)

def onLocal (v : Nat) (body : MetadataValue → Descriptions × Seen Reply) :
    Descriptions × Seen Reply :=
  match descriptions.locals[v]? with
  | none => descriptions.answer (.error .nameError)
  | some value => body value

/-- `Schema.column` -/
def column (columns : List ColumnDesc) (i : Int) : Descriptions × Seen Reply :=
  match columnIndex columns i with
  | .error error => descriptions.answer (.error error)
  | .ok index => descriptions.give (.columnDesc columns[index])

def perform (step : MetadataStep) : Descriptions × Seen Reply :=
  match step.command with
  | .schema i => descriptions.onOperation i fun self => descriptions.schema step.respond i self
  | .deallocate i => descriptions.onOperation i fun _ =>
      ({ descriptions with operations := descriptions.operations.set i none },
        ⟨none, .ok .none⟩)
  | .column v i => descriptions.onLocal v fun value =>
      match value with
      | .schema columns => descriptions.column columns i
      | _ => descriptions.answer (.error .attributeError)
  | .type v => descriptions.onLocal v fun value =>
      match value with
      | .columnDesc desc => descriptions.give (.columnType desc.type)
      | _ => descriptions.answer (.error .attributeError)
  | .read v asked => descriptions.onLocal v fun value =>
      descriptions.answer (value.attribute decodes asked)
  | .copy v => descriptions.onLocal v fun value => descriptions.give value
  | .drop v => descriptions.onLocal v fun _ =>
      ({ descriptions with locals := descriptions.locals.eraseIdx v }, ⟨none, .ok .none⟩)

end Descriptions

/-! ## Runs -/

namespace Wrappers

def step (wrappers : Wrappers) (step : MetadataStep) : Wrappers :=
  (wrappers.perform decodes step).1

def seen (wrappers : Wrappers) (step : MetadataStep) : Option (Seen (Option Reply)) :=
  some (wrappers.perform decodes step).2

end Wrappers

namespace Descriptions

def step (descriptions : Descriptions) (step : MetadataStep) : Descriptions :=
  (descriptions.perform decodes step).1

def seen (descriptions : Descriptions) (step : MetadataStep) : Option (Seen Reply) :=
  some (descriptions.perform decodes step).2

end Descriptions

end Texts

end HS2Client.Py
