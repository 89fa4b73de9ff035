import HS2Client.Client.Outputs
import Mathlib.Tactic.IntervalCases

/-!
# Column metadata

What `GetResultSetMetadata` makes of the schema in a reply, and the downcasts that rely on it. A
`static_cast` to a class that the object does not have is modelled by `none`.
-/

namespace HS2Client

/-! ## Downcasts -/

/-- The length of a `CharacterType`. -/
def ColumnType.asCharacter? : ColumnType → Option Int
  | .character _ maxLength => some maxLength
  | _ => none

/-- The precision and the scale of a `DecimalType`. -/
def ColumnType.asDecimal? : ColumnType → Option (Int × Int)
  | .decimal _ precision scale => some (precision, scale)
  | _ => none

namespace ColumnDesc

def getCharacterType (desc : ColumnDesc) : Option Int := desc.type.asCharacter?

def getDecimalType (desc : ColumnDesc) : Option (Int × Int) := desc.type.asDecimal?

end ColumnDesc

namespace Py

/-- The classes of the extension module. -/
inductive PyColumnType where
  | primitive (base : ColumnType)
  | character (base : ColumnType) (maxLength : Int)
  | decimal (base : ColumnType) (precision scale : Int)
  deriving DecidableEq

/-- The property `type` of `ColumnDesc`. -/
def columnType (desc : ColumnDesc) : Option PyColumnType :=
  if desc.type.typeId = .decimal then
    desc.getDecimalType.map fun (precision, scale) => .decimal desc.type precision scale
  else if desc.type.typeId = .char ∨ desc.type.typeId = .varchar then
    desc.getCharacterType.map fun maxLength => .character desc.type maxLength
  else some (.primitive desc.type)

end Py

/-! ## The type of a column -/

/-- The types in the order in which `TTypeId` of `TCLIService.thrift` numbers them. -/
def thriftTypes : List TypeId :=
  [.boolean, .tinyint, .smallint, .int, .bigint, .float, .double, .string, .timestamp, .binary,
    .array, .map, .struct, .union, .userDefined, .decimal, .nullType, .date, .varchar, .char]

/-- A type that the client has no `ColumnType` for. The numbers are those of `VARCHAR_TYPE`,
`CHAR_TYPE` and `DECIMAL_TYPE`. -/
inductive Unsupported (typeDesc : TTypeDesc) : Prop
  | notSingle (count : typeDesc.types.length ≠ 1)
  | notPrimitive (types : typeDesc.types = [⟨none⟩])
  | unknownId (entry : TPrimitiveTypeEntry) (types : typeDesc.types = [⟨some entry⟩])
      (outside : entry.type < 0 ∨ 20 ≤ entry.type)
  | noLength (entry : TPrimitiveTypeEntry) (types : typeDesc.types = [⟨some entry⟩])
      (isCharacter : entry.type = 18 ∨ entry.type = 19)
      (missing : qualifier entry "characterMaximumLength" = none)
  | noPrecisionOrScale (entry : TPrimitiveTypeEntry) (types : typeDesc.types = [⟨some entry⟩])
      (isDecimal : entry.type = 15)
      (missing : qualifier entry "precision" = none ∨ qualifier entry "scale" = none)

theorem tTypeIdToTypeId_eq_invalid_iff (id : Int) :
    tTypeIdToTypeId id = .invalid ↔ id < 0 ∨ 20 ≤ id := by
  unfold tTypeIdToTypeId
  split <;> simp_all
  omega

theorem tTypeIdToTypeId_eq_character_iff (id : Int) :
    tTypeIdToTypeId id = .char ∨ tTypeIdToTypeId id = .varchar ↔ id = 18 ∨ id = 19 := by
  unfold tTypeIdToTypeId
  split <;> simp_all

theorem tTypeIdToTypeId_eq_decimal_iff (id : Int) :
    tTypeIdToTypeId id = .decimal ↔ id = 15 := by
  unfold tTypeIdToTypeId
  split <;> simp_all

/-- The number of a type is its place in the enumeration. -/
theorem thriftTypes_getElem? {id : Int} (valid : tTypeIdToTypeId id ≠ .invalid) :
    0 ≤ id ∧ thriftTypes[id.toNat]? = some (tTypeIdToTypeId id) := by
  have bounds : ¬ (id < 0 ∨ 20 ≤ id) := (tTypeIdToTypeId_eq_invalid_iff id).not.mp valid
  simp only [not_or, not_lt, not_le] at bounds
  obtain ⟨nonneg, below⟩ := bounds
  refine ⟨nonneg, ?_⟩
  clear valid
  interval_cases id <;> rfl

/-- What a type becomes. -/
inductive Converted (typeDesc : TTypeDesc) : ColumnType → Prop
  | unsupported (unsupported : Unsupported typeDesc) : Converted typeDesc (.primitive .invalid)
  | character (entry : TPrimitiveTypeEntry) (types : typeDesc.types = [⟨some entry⟩])
      (isCharacter : tTypeIdToTypeId entry.type = .char ∨ tTypeIdToTypeId entry.type = .varchar)
      (maxLength : Int) (given : qualifier entry "characterMaximumLength" = some maxLength) :
      Converted typeDesc (.character (tTypeIdToTypeId entry.type) maxLength)
  | decimal (entry : TPrimitiveTypeEntry) (types : typeDesc.types = [⟨some entry⟩])
      (isDecimal : tTypeIdToTypeId entry.type = .decimal) (precision scale : Int)
      (precisionGiven : qualifier entry "precision" = some precision)
      (scaleGiven : qualifier entry "scale" = some scale) :
      Converted typeDesc (.decimal (tTypeIdToTypeId entry.type) precision scale)
  | primitive (entry : TPrimitiveTypeEntry) (types : typeDesc.types = [⟨some entry⟩])
      (other : tTypeIdToTypeId entry.type ∉ [.char, .varchar, .decimal, .invalid]) :
      Converted typeDesc (.primitive (tTypeIdToTypeId entry.type))

theorem converted_entry (typeDesc : TTypeDesc) {entry : TPrimitiveTypeEntry}
    (types : typeDesc.types = [⟨some entry⟩]) :
    Converted typeDesc (tTypeDescToColumnType typeDesc) := by
  simp only [tTypeDescToColumnType, types]
  split_ifs with isCharacter isDecimal
  · cases given : qualifier entry "characterMaximumLength" with
    | none =>
        have number := (tTypeIdToTypeId_eq_character_iff entry.type).mp isCharacter
        exact .unsupported (.noLength entry types number given)
    | some maxLength => exact .character entry types isCharacter maxLength given
  · have number := (tTypeIdToTypeId_eq_decimal_iff entry.type).mp isDecimal
    cases precisionGiven : qualifier entry "precision" with
    | none => exact .unsupported (.noPrecisionOrScale entry types number (.inl precisionGiven))
    | some precision =>
        cases scaleGiven : qualifier entry "scale" with
        | none => exact .unsupported (.noPrecisionOrScale entry types number (.inr scaleGiven))
        | some scale =>
            exact .decimal entry types isDecimal precision scale precisionGiven scaleGiven
  · by_cases invalid : tTypeIdToTypeId entry.type = .invalid
    · rw [invalid]
      exact .unsupported
        (.unknownId entry types ((tTypeIdToTypeId_eq_invalid_iff entry.type).mp invalid))
    · apply Converted.primitive entry types
      simp only [not_or] at isCharacter
      simp [isCharacter, isDecimal, invalid]

theorem converted (typeDesc : TTypeDesc) :
    Converted typeDesc (tTypeDescToColumnType typeDesc) := by
  rcases types : typeDesc.types with _ | ⟨⟨_ | entry⟩, _ | ⟨second, others⟩⟩
  · rw [tTypeDescToColumnType, types]
    exact .unsupported (.notSingle (by simp [types]))
  · rw [tTypeDescToColumnType, types]
    exact .unsupported (.notPrimitive types)
  · rw [tTypeDescToColumnType, types]
    exact .unsupported (.notSingle (by simp [types]))
  · exact converted_entry typeDesc types
  · rw [tTypeDescToColumnType, types]
    exact .unsupported (.notSingle (by simp [types]))

theorem Unsupported.entry_cases {typeDesc : TTypeDesc} (unsupported : Unsupported typeDesc)
    {entry : TPrimitiveTypeEntry} (types : typeDesc.types = [⟨some entry⟩]) :
    tTypeIdToTypeId entry.type = .invalid ∨
      ((tTypeIdToTypeId entry.type = .char ∨ tTypeIdToTypeId entry.type = .varchar) ∧
        qualifier entry "characterMaximumLength" = none) ∨
      (tTypeIdToTypeId entry.type = .decimal ∧
        (qualifier entry "precision" = none ∨ qualifier entry "scale" = none)) := by
  cases unsupported with
  | notSingle count => simp [types] at count
  | notPrimitive none => simp [types] at none
  | unknownId other same outside =>
      cases types.symm.trans same
      exact .inl ((tTypeIdToTypeId_eq_invalid_iff entry.type).mpr outside)
  | noLength other same isCharacter missing =>
      cases types.symm.trans same
      have id := (tTypeIdToTypeId_eq_character_iff entry.type).mpr isCharacter
      exact .inr (.inl ⟨id, missing⟩)
  | noPrecisionOrScale other same isDecimal missing =>
      cases types.symm.trans same
      have id := (tTypeIdToTypeId_eq_decimal_iff entry.type).mpr isDecimal
      exact .inr (.inr ⟨id, missing⟩)

/-- The type id is `INVALID` exactly for an unsupported type. -/
theorem Converted.typeId_eq_invalid_iff {typeDesc : TTypeDesc} {type : ColumnType}
    (converted : Converted typeDesc type) : type.typeId = .invalid ↔ Unsupported typeDesc := by
  cases converted with
  | unsupported unsupported => exact iff_of_true rfl unsupported
  | character entry types isCharacter maxLength given =>
      refine iff_of_false ?_ fun unsupported => ?_
      · rcases isCharacter with id | id <;> simp [ColumnType.typeId, id]
      · have cases := unsupported.entry_cases types
        rcases isCharacter with id | id <;> simp [id, given] at cases
  | decimal entry types isDecimal precision scale precisionGiven scaleGiven =>
      refine iff_of_false (by simp [ColumnType.typeId, isDecimal]) fun unsupported => ?_
      have cases := unsupported.entry_cases types
      simp [isDecimal, precisionGiven, scaleGiven] at cases
  | primitive entry types other =>
      simp only [List.mem_cons, List.not_mem_nil, or_false, not_or] at other
      refine iff_of_false (by simp [ColumnType.typeId, other]) fun unsupported => ?_
      have cases := unsupported.entry_cases types
      simp [other] at cases

theorem Converted.typeId_eq {typeDesc : TTypeDesc} {type : ColumnType}
    (converted : Converted typeDesc type) (supported : ¬ Unsupported typeDesc) :
    ∃ entry, typeDesc.types = [⟨some entry⟩] ∧ 0 ≤ entry.type ∧
      thriftTypes[entry.type.toNat]? = some type.typeId := by
  have valid : type.typeId ≠ .invalid := converted.typeId_eq_invalid_iff.not.mpr supported
  cases converted with
  | unsupported unsupported => exact absurd unsupported supported
  | character entry types => exact ⟨entry, types, thriftTypes_getElem? valid⟩
  | decimal entry types => exact ⟨entry, types, thriftTypes_getElem? valid⟩
  | primitive entry types => exact ⟨entry, types, thriftTypes_getElem? valid⟩

/-- Only a `CharacterType` has the id of a character type. -/
theorem Converted.eq_character {typeDesc : TTypeDesc} {type : ColumnType}
    (converted : Converted typeDesc type) (id : type.typeId = .char ∨ type.typeId = .varchar) :
    ∃ entry maxLength, typeDesc.types = [⟨some entry⟩] ∧
      qualifier entry "characterMaximumLength" = some maxLength ∧
      type = .character type.typeId maxLength := by
  cases converted with
  | unsupported => simp [ColumnType.typeId] at id
  | character entry types _ maxLength given => exact ⟨entry, maxLength, types, given, rfl⟩
  | decimal entry types isDecimal => simp [ColumnType.typeId, isDecimal] at id
  | primitive entry types other => simp_all [ColumnType.typeId]

/-- Only a `DecimalType` has the id of the decimal type. -/
theorem Converted.eq_decimal {typeDesc : TTypeDesc} {type : ColumnType}
    (converted : Converted typeDesc type) (id : type.typeId = .decimal) :
    ∃ entry precision scale, typeDesc.types = [⟨some entry⟩] ∧
      qualifier entry "precision" = some precision ∧ qualifier entry "scale" = some scale ∧
      type = .decimal type.typeId precision scale := by
  cases converted with
  | unsupported => simp [ColumnType.typeId] at id
  | character entry types isCharacter => simp_all [ColumnType.typeId]
  | decimal entry types _ precision scale precisionGiven scaleGiven =>
      exact ⟨entry, precision, scale, types, precisionGiven, scaleGiven, rfl⟩
  | primitive entry types other => simp_all [ColumnType.typeId]

/-! ## Metadata -/

/-- A column description stands for the one in the reply, and every cast on it is to the class of
its type. -/
structure Describes (tdesc : TColumnDesc) (desc : ColumnDesc) : Prop where
  columnName : desc.columnName = tdesc.columnName
  position : desc.position = tdesc.position
  comment : desc.comment = tdesc.comment
  invalid_iff : desc.type.typeId = .invalid ↔ Unsupported tdesc.typeDesc
  typeId : ¬ Unsupported tdesc.typeDesc → ∃ entry, tdesc.typeDesc.types = [⟨some entry⟩] ∧
    0 ≤ entry.type ∧ thriftTypes[entry.type.toNat]? = some desc.type.typeId
  character : desc.type.typeId = .char ∨ desc.type.typeId = .varchar →
    ∃ entry maxLength, tdesc.typeDesc.types = [⟨some entry⟩] ∧
      qualifier entry "characterMaximumLength" = some maxLength ∧
      desc.type = .character desc.type.typeId maxLength ∧ desc.getCharacterType = some maxLength
  decimal : desc.type.typeId = .decimal →
    ∃ entry precision scale, tdesc.typeDesc.types = [⟨some entry⟩] ∧
      qualifier entry "precision" = some precision ∧ qualifier entry "scale" = some scale ∧
      desc.type = .decimal desc.type.typeId precision scale ∧
      desc.getDecimalType = some (precision, scale)
  python : (Py.columnType desc).isSome

theorem describes (tdesc : TColumnDesc) : Describes tdesc (tColumnDescToColumnDesc tdesc) := by
  have conversion : Converted tdesc.typeDesc (tColumnDescToColumnDesc tdesc).type :=
    converted tdesc.typeDesc
  generalize desc_eq : tColumnDescToColumnDesc tdesc = desc at conversion
  have decimal : desc.type.typeId = .decimal → ∃ entry precision scale,
      tdesc.typeDesc.types = [⟨some entry⟩] ∧ qualifier entry "precision" = some precision ∧
      qualifier entry "scale" = some scale ∧
      desc.type = .decimal desc.type.typeId precision scale ∧
      desc.getDecimalType = some (precision, scale) := by
    intro id
    obtain ⟨entry, precision, scale, types, precisionGiven, scaleGiven, type⟩ :=
      conversion.eq_decimal id
    refine ⟨entry, precision, scale, types, precisionGiven, scaleGiven, type, ?_⟩
    rw [ColumnDesc.getDecimalType, type]
    rfl
  have character : desc.type.typeId = .char ∨ desc.type.typeId = .varchar →
      ∃ entry maxLength, tdesc.typeDesc.types = [⟨some entry⟩] ∧
        qualifier entry "characterMaximumLength" = some maxLength ∧
        desc.type = .character desc.type.typeId maxLength ∧
        desc.getCharacterType = some maxLength := by
    intro id
    obtain ⟨entry, maxLength, types, given, type⟩ := conversion.eq_character id
    refine ⟨entry, maxLength, types, given, type, ?_⟩
    rw [ColumnDesc.getCharacterType, type]
    rfl
  refine ⟨desc_eq ▸ rfl, desc_eq ▸ rfl, desc_eq ▸ rfl, conversion.typeId_eq_invalid_iff,
    conversion.typeId_eq, character, decimal, ?_⟩
  unfold Py.columnType
  split_ifs with isDecimal isCharacter
  · obtain ⟨_, _, _, _, _, _, _, casts⟩ := decimal isDecimal
    rw [casts]
    rfl
  · obtain ⟨_, _, _, _, _, casts⟩ := character isCharacter
    rw [casts]
    rfl
  · rfl

/-- A decimal and a character type with their qualifiers, a character type without its length, and
an unknown type. -/
def fourColumns : TGetResultSetMetadataResp where
  schema := { columns := [
    { columnName := ascii "d", position := 1,
      typeDesc := ⟨[⟨some { type := 15, qualifiers :=
        [(ascii "precision", { i32Value := 9 }), (ascii "scale", { i32Value := 2 })] }⟩]⟩ },
    { columnName := ascii "c", position := 2,
      typeDesc := ⟨[⟨some { type := 19, qualifiers :=
        [(ascii "characterMaximumLength", { i32Value := 7 })] }⟩]⟩ },
    { columnName := ascii "v", position := 3, typeDesc := ⟨[⟨some { type := 18 }⟩]⟩ },
    { columnName := ascii "x", position := 4, typeDesc := ⟨[⟨some { type := 77 }⟩]⟩ }] }

end HS2Client
