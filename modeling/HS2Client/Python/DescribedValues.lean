import HS2Client.Library.Simulation
import HS2Client.Python.Descriptors

/-!
# Descriptors as values

To a program the objects of the schema are values: whatever it drops, and whenever the operation
is deallocated, what it still holds shows what the server described.
-/

namespace HS2Client.Py

open RefCounting Runs

section Texts

variable (decodes : Bytes → Bool)

/-! ## Agreement -/

/-- A type has the class that its id stands for. -/
def Classed (type : ColumnType) : Prop :=
  match type with
  | .primitive typeId => typeClass typeId = .primitiveType
  | .character typeId _ => typeClass typeId = .characterType
  | .decimal typeId _ _ => typeClass typeId = .decimalType

theorem classed_tColumnDesc (tdesc : TColumnDesc) :
    Classed (tColumnDescToColumnDesc tdesc).type := by
  have conversion : Converted tdesc.typeDesc (tColumnDescToColumnDesc tdesc).type :=
    converted tdesc.typeDesc
  generalize (tColumnDescToColumnDesc tdesc).type = type at conversion
  cases conversion with
  | unsupported _ => rfl
  | character entry types isCharacter maxLength given =>
      rcases isCharacter with isChar | isVarchar
      · simp [Classed, typeClass, isChar]
      · simp [Classed, typeClass, isVarchar]
  | decimal entry types isDecimal precision scale _ _ => simp [Classed, typeClass, isDecimal]
  | primitive entry types other => simp_all [Classed, typeClass]

variable {type : ColumnType}

theorem shortRepr?_eq (classed : Classed type) :
    (typeClass type.typeId).shortRepr? decodes type = some (typeRepr decodes type) := by
  cases type <;> rw [ColumnType.typeId, show typeClass _ = _ from classed] <;> rfl

theorem attribute?_eq (classed : Classed type) (asked : Attribute) :
    (typeClass type.typeId).attribute? decodes type asked =
      some (typeAttribute decodes type asked) := by
  cases type <;> rw [ColumnType.typeId, show typeClass _ = _ from classed] <;> cases asked <;> rfl

/-- The pointer leads to the description in the schema that it was taken from. -/
structure PointsTo (objects : List MetadataObject) (pointer : ColumnPointer) (desc : ColumnDesc) :
    Prop where
  classed : Classed desc.type
  column : ∃ columns, objects[pointer.schema]? = some (.schema columns) ∧
    columns[pointer.index]? = some desc

/-- The value that an object stands for. -/
inductive Denotes (objects : List MetadataObject) : Nat → MetadataValue → Prop
  | schema {address : Nat} {columns : List ColumnDesc}
      (present : objects[address]? = some (.schema columns))
      (classed : ∀ desc ∈ columns, Classed desc.type) : Denotes objects address (.schema columns)
  | columnDesc {address : Nat} {pointer : ColumnPointer} {desc : ColumnDesc}
      (present : objects[address]? = some (.columnDesc pointer.schema (some pointer)))
      (target : PointsTo objects pointer desc) : Denotes objects address (.columnDesc desc)
  | columnType {address parent : Nat} {pointer : ColumnPointer} {desc : ColumnDesc}
      (present : objects[address]? =
        some (.columnType parent (typeClass desc.type.typeId) pointer))
      (keeps : objects[parent]? = some (.columnDesc pointer.schema (some pointer)))
      (target : PointsTo objects pointer desc) : Denotes objects address (.columnType desc.type)

inductive OperationDenotes (objects : List MetadataObject) :
    Option OperationWrapper → Option PyOperation → Prop
  | deallocated : OperationDenotes objects none none
  | fresh (op : Operation) : OperationDenotes objects (some ⟨op, none⟩) (some ⟨op, none⟩)
  | cached (op : Operation) {metadata : Nat} {columns : List ColumnDesc}
      (denotes : Denotes objects metadata (.schema columns)) :
      OperationDenotes objects (some ⟨op, some metadata⟩) (some ⟨op, some columns⟩)

section Grows

variable {objects : List MetadataObject}

theorem getElem?_grows {i : Nat} {object : MetadataObject} (present : objects[i]? = some object)
    (more : List MetadataObject) : (objects ++ more)[i]? = some object := by
  rw [List.getElem?_append_left (List.getElem?_eq_some_iff.mp present).1]
  exact present

theorem PointsTo.grows {pointer : ColumnPointer} {desc : ColumnDesc}
    (target : PointsTo objects pointer desc) (more : List MetadataObject) :
    PointsTo (objects ++ more) pointer desc where
  classed := target.classed
  column := by
    obtain ⟨columns, present, column⟩ := target.column
    exact ⟨columns, getElem?_grows present more, column⟩

theorem Denotes.grows {address : Nat} {value : MetadataValue}
    (denotes : Denotes objects address value) (more : List MetadataObject) :
    Denotes (objects ++ more) address value := by
  cases denotes with
  | schema present classed => exact .schema (getElem?_grows present more) classed
  | columnDesc present target => exact .columnDesc (getElem?_grows present more) (target.grows more)
  | columnType present keeps target =>
      exact .columnType (getElem?_grows present more) (getElem?_grows keeps more)
        (target.grows more)

theorem OperationDenotes.grows {wrapper : Option OperationWrapper} {self : Option PyOperation}
    (denotes : OperationDenotes objects wrapper self) (more : List MetadataObject) :
    OperationDenotes (objects ++ more) wrapper self := by
  cases denotes with
  | deallocated => exact .deallocated
  | fresh op => exact .fresh op
  | cached op denotes => exact .cached op (denotes.grows more)

end Grows

/-! ## Reads -/

section Reads

variable {heap : Heap MetadataObject} {held : List Nat}

/-- A live object keeps alive what it points to. -/
theorem column?_of_live (counted : Counted MetadataObject.parent held heap) {address : Nat}
    {object : MetadataObject} {pointer : ColumnPointer} {desc : ColumnDesc}
    (live : heap.live? address = some object) (keeps : object.parent = some pointer.schema)
    (target : PointsTo heap.values pointer desc) : column? heap pointer = some desc := by
  obtain ⟨columns, present, column⟩ := target.column
  simp [column?, counted.live_parent live keeps present, column]

/-- A live object with the value that it stands for, which can be read. -/
inductive Stands (heap : Heap MetadataObject) : MetadataObject → MetadataValue → Prop
  | schema (columns : List ColumnDesc) (classed : ∀ desc ∈ columns, Classed desc.type) :
      Stands heap (.schema columns) (.schema columns)
  | columnDesc {pointer : ColumnPointer} {desc : ColumnDesc}
      (target : PointsTo heap.values pointer desc) (column : column? heap pointer = some desc) :
      Stands heap (.columnDesc pointer.schema (some pointer)) (.columnDesc desc)
  | columnType (parent : Nat) {pointer : ColumnPointer} {desc : ColumnDesc}
      (target : PointsTo heap.values pointer desc) (column : column? heap pointer = some desc) :
      Stands heap (.columnType parent (typeClass desc.type.typeId) pointer)
        (.columnType desc.type)

theorem stands_of_held (counted : Counted MetadataObject.parent held heap) {address : Nat}
    (isHeld : address ∈ held) {value : MetadataValue}
    (denotes : Denotes heap.values address value) :
    ∃ object, heap.values[address]? = some object ∧ heap.live? address = some object ∧
      Stands heap object value := by
  cases denotes with
  | schema present classed =>
      exact ⟨_, present, counted.live isHeld present, .schema _ classed⟩
  | columnDesc present target =>
      have live := counted.live isHeld present
      exact ⟨_, present, live, .columnDesc target (column?_of_live counted live rfl target)⟩
  | columnType present keeps target =>
      have live := counted.live isHeld present
      have above := counted.live_parent live rfl keeps
      exact ⟨_, present, live, .columnType _ target (column?_of_live counted above rfl target)⟩

theorem Stands.attribute?_eq {object : MetadataObject} {value : MetadataValue}
    (stands : Stands heap object value) (asked : Attribute) :
    attribute? decodes heap object asked = some (value.attribute decodes asked) := by
  cases stands with
  | schema columns classed => rfl
  | columnDesc target column =>
      simp [attribute?, column, shortRepr?_eq decodes target.classed, MetadataValue.attribute]
  | columnType parent target column =>
      simp [attribute?, column, Py.attribute?_eq decodes target.classed, MetadataValue.attribute]

end Reads

/-! ## Steps -/

def references (operations : List (Option OperationWrapper)) : List Nat :=
  operations.filterMap (·.bind OperationWrapper.cachedMetadata)

/-- The counts are right, and every object that is held stands for its value. -/
structure Depicts (wrappers : Wrappers) (descriptions : Descriptions) : Prop where
  counted : Counted MetadataObject.parent (wrappers.locals ++ references wrappers.operations)
    wrappers.heap
  locals : List.Forall₂ (Denotes wrappers.heap.values) wrappers.locals descriptions.locals
  operations : List.Forall₂ (OperationDenotes wrappers.heap.values) wrappers.operations
    descriptions.operations

/-- A step leads to related states and shows the same. -/
structure Agrees (left : Wrappers × Seen (Option Reply)) (right : Descriptions × Seen Reply) :
    Prop where
  depicts : Depicts left.1 right.1
  seen : left.2 = right.2.map some

theorem depicts_start (ops : List Operation) :
    Depicts (Wrappers.start ops) (Descriptions.start ops) where
  counted := by
    have none : references (Wrappers.start ops).operations = [] := by
      simp [references, Wrappers.start, List.filterMap_map]
    rw [none]
    exact counted_nil MetadataObject.parent
  locals := .nil
  operations := by
    simp only [Wrappers.start, Descriptions.start, List.forall₂_map_left_iff,
      List.forall₂_map_right_iff, List.forall₂_same]
    exact fun op _ => .fresh op

section Steps

variable {wrappers : Wrappers} {descriptions : Descriptions}

theorem agrees_answer (depicts : Depicts wrappers descriptions) (reply : Reply) :
    Agrees (wrappers.answer (some reply)) (descriptions.answer reply) :=
  ⟨depicts, rfl⟩

theorem agrees_onLocal (depicts : Depicts wrappers descriptions) (v : Nat)
    {body : Nat → MetadataObject → Wrappers × Seen (Option Reply)}
    {spec : MetadataValue → Descriptions × Seen Reply}
    (agrees : ∀ address object value, wrappers.locals[v]? = some address →
      wrappers.heap.values[address]? = some object → Denotes wrappers.heap.values address value →
      Stands wrappers.heap object value → Agrees (body address object) (spec value)) :
    Agrees (wrappers.onLocal v body) (descriptions.onLocal v spec) := by
  unfold Wrappers.onLocal Descriptions.onLocal
  rcases forall₂_getElem? depicts.locals v with
    ⟨absent, absent'⟩ | ⟨address, value, found, found', denotes⟩
  · rw [absent, absent']
    exact agrees_answer depicts _
  · have isHeld : address ∈ wrappers.locals ++ references wrappers.operations :=
      List.mem_append_left _ (List.mem_of_getElem? found)
    obtain ⟨object, present, live, stands⟩ := stands_of_held depicts.counted isHeld denotes
    simp only [found, found', live]
    exact agrees address object value found present denotes stands

theorem agrees_onOperation (depicts : Depicts wrappers descriptions) (i : Nat)
    {body : OperationWrapper → Wrappers × Seen (Option Reply)}
    {spec : PyOperation → Descriptions × Seen Reply}
    (agrees : ∀ wrapper self, wrappers.operations[i]? = some (some wrapper) →
      descriptions.operations[i]? = some (some self) →
      OperationDenotes wrappers.heap.values (some wrapper) (some self) →
      Agrees (body wrapper) (spec self)) :
    Agrees (wrappers.onOperation i body) (descriptions.onOperation i spec) := by
  unfold Wrappers.onOperation Descriptions.onOperation
  rcases forall₂_getElem? depicts.operations i with
    ⟨absent, absent'⟩ | ⟨wrapper, self, found, found', denotes⟩
  · rw [absent, absent']
    exact agrees_answer depicts _
  · rw [found, found']
    cases denotes with
    | deallocated => exact agrees_answer depicts _
    | fresh op => exact agrees _ _ found found' (.fresh op)
    | cached op denotes => exact agrees _ _ found found' (.cached op denotes)

/-- The old locals on a heap that has grown. -/
theorem Depicts.locals_grown (depicts : Depicts wrappers descriptions)
    {objects more : List MetadataObject} (grown : objects = wrappers.heap.values ++ more) :
    List.Forall₂ (Denotes objects) wrappers.locals descriptions.locals :=
  grown ▸ depicts.locals.imp fun _ _ denotes => denotes.grows more

theorem Depicts.operations_grown (depicts : Depicts wrappers descriptions)
    {objects more : List MetadataObject} (grown : objects = wrappers.heap.values ++ more) :
    List.Forall₂ (OperationDenotes objects) wrappers.operations descriptions.operations :=
  grown ▸ depicts.operations.imp fun _ _ denotes => denotes.grows more

theorem counted_allocate (depicts : Depicts wrappers descriptions) {parent : Nat}
    (isHeld : parent ∈ wrappers.locals) {object : MetadataObject}
    (keeps : object.parent = some parent) :
    Counted MetadataObject.parent
      (wrappers.heap.length :: (wrappers.locals ++ references wrappers.operations))
      (wrappers.allocate parent object).heap := by
  have acquired := counted_acquire depicts.counted (List.mem_append_left _ isHeld)
  have taken : Counted MetadataObject.parent (object.parent.toList ++
      (wrappers.locals ++ references wrappers.operations)) (wrappers.heap.acquire parent) := by
    rw [keeps]
    exact acquired
  have created := taken.create
  rw [Heap.length_acquire] at created
  exact created

theorem values_allocate (parent : Nat) (object : MetadataObject) :
    (wrappers.allocate parent object).heap.values = wrappers.heap.values ++ [object] := by
  simp [Wrappers.allocate]

/-- A new object is held by a new variable. -/
theorem agrees_allocate (depicts : Depicts wrappers descriptions) {parent : Nat}
    (isHeld : parent ∈ wrappers.locals) {object : MetadataObject} {value : MetadataValue}
    (keeps : object.parent = some parent)
    (denotes : Denotes (wrappers.heap.values ++ [object]) wrappers.heap.length value) :
    Agrees (wrappers.allocate parent object, ⟨none, some (.ok .object)⟩)
      (descriptions.give value) := by
  have grown : (wrappers.allocate parent object).heap.values = wrappers.heap.values ++ [object] :=
    values_allocate parent object
  refine ⟨⟨counted_allocate depicts isHeld keeps, ?_, depicts.operations_grown grown⟩, rfl⟩
  exact .cons (grown ▸ denotes) (depicts.locals_grown grown)

/-- A new object goes out of scope. -/
theorem depicts_decref (depicts : Depicts wrappers descriptions)
    {heap : Heap MetadataObject} {address : Nat} {more : List MetadataObject}
    (counted : Counted MetadataObject.parent
      (address :: (wrappers.locals ++ references wrappers.operations)) heap)
    (grown : heap.values = wrappers.heap.values ++ more) :
    Depicts { wrappers with heap := decref heap address } descriptions := by
  obtain ⟨released, same⟩ := counted_release counted
  have values := same.trans grown
  exact ⟨released, depicts.locals_grown values, depicts.operations_grown values⟩

theorem agrees_column (depicts : Depicts wrappers descriptions) {self : Nat}
    (isHeld : self ∈ wrappers.locals) {columns : List ColumnDesc}
    (present : wrappers.heap.values[self]? = some (.schema columns))
    (classed : ∀ desc ∈ columns, Classed desc.type) (i : Int) :
    Agrees (wrappers.column self columns i) (descriptions.column columns i) := by
  unfold Wrappers.column Descriptions.column
  cases indexed : columnIndex columns i with
  | ok index =>
      have target : PointsTo wrappers.heap.values ⟨self, index⟩ columns[index] :=
        ⟨classed _ (List.getElem_mem _), columns, present, by simp⟩
      refine agrees_allocate depicts isHeld rfl (.columnDesc ?_ (target.grows _))
      simp [Heap.values]
  | error error =>
      have keeps : (MetadataObject.columnDesc self none).parent = some self := rfl
      have discarded := depicts_decref depicts (counted_allocate depicts isHeld keeps)
        (values_allocate self _)
      cases error with
      | overflowError => exact agrees_answer depicts _
      | _ => exact ⟨discarded, rfl⟩

theorem agrees_type (depicts : Depicts wrappers descriptions) {self : Nat}
    (isHeld : self ∈ wrappers.locals) {pointer : ColumnPointer} {desc : ColumnDesc}
    (present : wrappers.heap.values[self]? = some (.columnDesc pointer.schema (some pointer)))
    (target : PointsTo wrappers.heap.values pointer desc)
    (column : column? wrappers.heap pointer = some desc) :
    Agrees (wrappers.type self (some pointer)) (descriptions.give (.columnType desc.type)) := by
  simp only [Wrappers.type, column]
  refine agrees_allocate depicts isHeld rfl
    (.columnType ?_ (getElem?_grows present _) (target.grows _))
  simp [Heap.values]

/-- Another reference to an object that is held somewhere. -/
theorem agrees_acquire (depicts : Depicts wrappers descriptions) {address : Nat}
    (isHeld : address ∈ wrappers.locals ++ references wrappers.operations)
    {value : MetadataValue} (denotes : Denotes wrappers.heap.values address value) :
    Agrees
      ({ wrappers with
        heap := wrappers.heap.acquire address
        locals := address :: wrappers.locals }, ⟨none, some (.ok .object)⟩)
      (descriptions.give value) := by
  have same : (wrappers.heap.acquire address).values = wrappers.heap.values ++ [] := by simp
  refine ⟨⟨counted_acquire depicts.counted isHeld, ?_, depicts.operations_grown same⟩, rfl⟩
  exact .cons (by simpa using denotes) (depicts.locals_grown same)

theorem depicts_drop (depicts : Depicts wrappers descriptions) {v address : Nat}
    (found : wrappers.locals[v]? = some address) :
    Depicts
      { wrappers with
        heap := decref wrappers.heap address
        locals := wrappers.locals.eraseIdx v }
      { descriptions with locals := descriptions.locals.eraseIdx v } := by
  obtain ⟨bound, rfl⟩ := List.getElem?_eq_some_iff.mp found
  have first := (List.getElem_cons_eraseIdx_perm bound).symm
  obtain ⟨released, same⟩ := counted_release
    (depicts.counted.perm (first.append_right (references wrappers.operations)))
  have values := same.trans (List.append_nil _).symm
  exact ⟨released, forall₂_eraseIdx (depicts.locals_grown values) v,
    depicts.operations_grown values⟩

theorem depicts_deallocate (depicts : Depicts wrappers descriptions) {i : Nat}
    {wrapper : OperationWrapper} (found : wrappers.operations[i]? = some (some wrapper)) :
    Depicts (wrappers.deallocate i wrapper)
      { descriptions with operations := descriptions.operations.set i none } := by
  have moved := perm_filterMap_set (·.bind OperationWrapper.cachedMetadata) found none
  obtain ⟨op, _ | metadata⟩ := wrapper
  · have counted := depicts.counted.perm (moved.symm.append_left wrappers.locals)
    exact ⟨counted, depicts.locals, forall₂_set depicts.operations i .deallocated⟩
  · have counted := depicts.counted.perm
      ((moved.symm.append_left wrappers.locals).trans List.perm_middle)
    obtain ⟨released, same⟩ := counted_release counted
    have values := same.trans (List.append_nil _).symm
    exact ⟨released, depicts.locals_grown values,
      forall₂_set (depicts.operations_grown values) i .deallocated⟩

theorem classed_getResultSetMetadata (op : Operation) (respond : Responder) :
    ∀ desc ∈ ((op.getResultSetMetadata []).run respond).2, Classed desc.type := by
  simp only [Operation.getResultSetMetadata, Rpc.run_send]
  cases respond .getResultSetMetadata _ with
  | exception what => simp [tryRpcOrReturn]
  | reply resp =>
      simp only [tryRpcOrReturn, returnNotOk]
      split_ifs
      · simp
      · intro desc membership
        obtain ⟨tdesc, -, rfl⟩ := List.mem_map.mp membership
        exact classed_tColumnDesc tdesc

theorem agrees_schema (depicts : Depicts wrappers descriptions) (respond : Responder)
    {i : Nat} {wrapper : OperationWrapper} {self : PyOperation}
    (found : wrappers.operations[i]? = some (some wrapper))
    (found' : descriptions.operations[i]? = some (some self))
    (denotes : OperationDenotes wrappers.heap.values (some wrapper) (some self)) :
    Agrees (wrappers.schema respond i wrapper) (descriptions.schema respond i self) := by
  have unchanged : descriptions.operations.set i (some self) = descriptions.operations := by
    obtain ⟨bound, present⟩ := List.getElem?_eq_some_iff.mp found'
    rw [← present, List.set_getElem_self]
  cases denotes with
  | @cached op metadata columns denotes =>
      have isHeld : metadata ∈ references wrappers.operations :=
        List.mem_filterMap.mpr ⟨_, List.mem_of_getElem? found, rfl⟩
      have agrees := agrees_acquire depicts (List.mem_append_right _ isHeld) denotes
      simpa [Wrappers.schema, Descriptions.schema, PyOperation.schema, unchanged,
        Descriptions.give] using agrees
  | fresh op =>
      have classed := classed_getResultSetMetadata op respond
      simp only [Wrappers.schema, Descriptions.schema, PyOperation.schema, Rpc.run_map,
        Rpc.request?_map]
      generalize (op.getResultSetMetadata []).run respond = returned at classed ⊢
      have created := @Counted.create _ MetadataObject.parent _ _ (.schema returned.2)
        depicts.counted
      have grown : Heap.values (wrappers.heap ++ [⟨1, .schema returned.2⟩]) =
          wrappers.heap.values ++ [.schema returned.2] := Heap.values_append _ _
      have new : Denotes (wrappers.heap.values ++ [.schema returned.2]) wrappers.heap.length
          (.schema returned.2) := .schema (by simp [Heap.values]) classed
      split_ifs with ok
      · have acquired := counted_acquire created List.mem_cons_self
        have moved := perm_filterMap_set (·.bind OperationWrapper.cachedMetadata) found
          (some ⟨op, some wrappers.heap.length⟩)
        have values := (Heap.values_acquire _ wrappers.heap.length).trans grown
        refine ⟨⟨?_, .cons (values ▸ new) (depicts.locals_grown values), ?_⟩, rfl⟩
        · refine acquired.perm (List.Perm.cons _ ?_)
          exact List.perm_middle.symm.trans (moved.symm.append_left _)
        · exact forall₂_set (depicts.operations_grown values) i (.cached op (values ▸ new))
      · simp only [unchanged]
        exact ⟨depicts_decref depicts created grown, rfl⟩

theorem agrees_perform (depicts : Depicts wrappers descriptions) (step : MetadataStep) :
    Agrees (wrappers.perform decodes step) (descriptions.perform decodes step) := by
  obtain ⟨command, respond⟩ := step
  cases command with
  | schema i =>
      exact agrees_onOperation depicts i fun wrapper self found found' denotes =>
        agrees_schema depicts respond found found' denotes
  | deallocate i =>
      exact agrees_onOperation depicts i fun wrapper self found _ _ =>
        ⟨depicts_deallocate depicts found, rfl⟩
  | column v i =>
      refine agrees_onLocal depicts v fun address object value found present _ stands => ?_
      have isHeld := List.mem_of_getElem? found
      cases stands with
      | schema columns classed => exact agrees_column depicts isHeld present classed i
      | columnDesc target column => exact agrees_answer depicts _
      | columnType parent target column => exact agrees_answer depicts _
  | type v =>
      refine agrees_onLocal depicts v fun address object value found present _ stands => ?_
      have isHeld := List.mem_of_getElem? found
      cases stands with
      | schema columns classed => exact agrees_answer depicts _
      | columnDesc target column => exact agrees_type depicts isHeld present target column
      | columnType parent target column => exact agrees_answer depicts _
  | read v asked =>
      refine agrees_onLocal depicts v fun address object value _ _ _ stands => ?_
      rw [stands.attribute?_eq decodes asked]
      exact agrees_answer depicts _
  | copy v =>
      refine agrees_onLocal depicts v fun address object value found _ denotes _ => ?_
      exact agrees_acquire depicts
        (List.mem_append_left _ (List.mem_of_getElem? found)) denotes
  | drop v =>
      exact agrees_onLocal depicts v fun address object value found _ _ _ =>
        ⟨depicts_drop depicts found, rfl⟩

end Steps

/-- In every program, whatever objects it drops and operations it lets go of in whatever order,
all requests are sent and all replies are given as if every object were the value that it was
read from; no pointer to freed memory is ever followed. Nothing stays alive that is not held. -/
theorem wrappers_are_values (ops : List Operation) (steps : List MetadataStep) :
    let wrappers := run (Wrappers.step decodes) (Wrappers.start ops) steps
    observed (Wrappers.step decodes) (Wrappers.seen decodes) (Wrappers.start ops) steps =
      (observed (Descriptions.step decodes) (Descriptions.seen decodes) (Descriptions.start ops)
        steps).map (Seen.map some) ∧
    (wrappers.locals = [] → (∀ operation ∈ wrappers.operations, operation = none) →
      ∀ cell ∈ wrappers.heap, cell.count = 0) := by
  intro wrappers
  have lockstep : ∀ wrappers descriptions step, Depicts wrappers descriptions →
      Wrappers.seen decodes wrappers step =
          (Descriptions.seen decodes descriptions step).map (Seen.map some) ∧
        Depicts (Wrappers.step decodes wrappers step)
          (Descriptions.step decodes descriptions step) := by
    intro wrappers descriptions step depicts
    have agrees := agrees_perform decodes depicts step
    exact ⟨congrArg some agrees.seen, agrees.depicts⟩
  obtain ⟨same, depicts⟩ :=
    observed_lockstep Depicts (Seen.map some) lockstep (depicts_start ops) steps
  refine ⟨same, fun nothing gone cell membership => ?_⟩
  have none : wrappers.locals ++ references wrappers.operations = [] := by
    rw [nothing, List.nil_append, references, List.filterMap_eq_nil_iff]
    intro operation listed
    rw [gone operation listed]
    rfl
  have counted := depicts.counted
  rw [none] at counted
  obtain ⟨i, bound, rfl⟩ := List.getElem_of_mem membership
  exact counted.all_dead i _ (List.getElem?_eq_getElem bound)

end Texts

/-- A decimal column outlives the operation, the schema and the description that it was read
from. -/
example :
    let respond : Responder := fun
      | .getResultSetMetadata, _ => .reply fourColumns
      | _, _ => .exception []
    let commands : List MetadataCommand := [.schema 0, .column 0 0, .type 0, .drop 1, .drop 1,
      .deallocate 0, .read 0 .shortRepr, .schema 0]
    let seen := observed (Wrappers.step fun _ => true) (Wrappers.seen fun _ => true)
      (Wrappers.start [{}]) (commands.map (⟨·, respond⟩))
    seen.map Seen.shown = [some (.ok .object), some (.ok .object), some (.ok .object),
      some (.ok .none), some (.ok .none), some (.ok .none),
      some (.ok (.text (ascii "DECIMAL(9, 2)"))), some (.error .nameError)] := by
  rfl

end HS2Client.Py
