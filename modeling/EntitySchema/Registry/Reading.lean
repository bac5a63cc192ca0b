import EntitySchema.Json.Shape
import EntitySchema.Registry.Basic

/-!
# Registry/Reading — registries from text

A registry text is an object with the entities under `models`.  Every record in it has the two
spellings of `Json/Shape`, entities excepted, which must be objects: their flags are members of the
entity itself.  The flags are looked at last, when all members of the entity have been read; until
then their values, like those under unknown keys, are only kept.
-/

namespace EntitySchema

open Json

/-- Naming forms as they are read. -/
def Forms.shape : Shape Forms where
  name := "NamingForms"
  initial := {}
  fields := [
    optional "singular" Node.asString fun s f => { f with singular := s },
    optional "plural" Node.asString fun s f => { f with plural := s }]

/-- Timestamp columns as they are read; `null` disables one. -/
def Timestamps.shape : Shape Timestamps where
  name := "TimestampColumns"
  initial := {}
  fields := [
    optional "createdAt" (Node.asOption Node.asString) fun c t => { t with createdAt := c },
    optional "updatedAt" (Node.asOption Node.asString) fun c t => { t with updatedAt := c }]

/-- Attributes as they are read. -/
def Attribute.shape : Shape Attribute where
  name := "AttributeSpec"
  initial := { storageType := "" }
  fields := [
    required "type" Node.asString fun s a => { a with storageType := s },
    optional "primaryKey" Node.asBool fun b a => { a with primaryKey := b },
    optional "autoIncrement" Node.asBool fun b a => { a with autoIncrement := b },
    optional "allowNull" Node.asBool fun b a => { a with allowNull := b },
    optional "gqType" (Node.asOption Node.asString) fun o a => { a with overrideType := o },
    optional "gqSearch" Node.asBool fun b a => { a with searchable := b },
    optional "gqCreate" Node.asBool fun b a => { a with creatable := b },
    optional "gqUpdate" Node.asBool fun b a => { a with updatable := b }]

namespace Multiplicity

/-- The multiplicity that a word stands for. -/
def ofWord (word : String) : Taken Multiplicity :=
  if word = "one" then .ok .one
  else if word = "many" then .ok .many
  else .mismatch (.unknownVariant word "`one` or `many`")

/-- Takes `null` and nothing else. -/
def takeUnit : Node → Taken Unit
  | .null => .ok ()
  | n => n.refuse "unit"

/-- Passes if the one member of an object is its last. -/
def checkClosed : List (Literal × Node) → Option TextFault → Taken Unit
  | [], none => .ok ()
  | [], some (.truncated u) => .error (.text (.truncated u))
  | _, _ => .malformed .expectedValue

/-- Takes a value for a multiplicity: its word, or an object with the word over `null`.  Behind the
brace only a string will do: a number or a word there, or the other brace, is no key and is refused
as such before it is read, never as a value of the wrong type. -/
def take : Node → Taken Multiplicity
  | .string l => do ofWord (← Taken.ofText l.text)
  | .object ((k, n) :: rest) f => do
    let m ← ofWord (← Taken.ofText k.text)
    takeUnit n
    checkClosed rest f
    return m
  | .object [] (some (.truncated _)) => .error (.text (.truncated .value))
  | .object [] _ => .malformed .keyNotString
  | .keyless _ => .malformed .keyNotString
  | .fault f => if f.isInsideToken then .malformed .expectedValue else .error (.text f)
  | _ => .malformed .expectedValue

end Multiplicity

/-- Associations as they are read. -/
def Association.shape : Shape Association where
  name := "AssociationSpec"
  initial := { fieldName := "", target := "", multiplicity := .one }
  fields := [
    optional "alias" Node.asString fun s a => { a with fieldName := s },
    required "target" Node.asString fun s a => { a with target := s },
    optional "name" (Node.asOption Node.asString) fun o a => { a with name := o },
    required "multiplicity" Multiplicity.take fun m a => { a with multiplicity := m }]

/-- The fields of an entity, its flags apart. -/
def Entity.fieldReaders : List (FieldReader Entity) := [
  optional "name" Node.asString fun s e => { e with name := s },
  optional "naming" Forms.shape.take fun f e => { e with forms := f },
  optional "attributes" (Node.asMap Attribute.shape.take) fun m e => { e with attributes := m },
  optional "associations" (Node.asMap Association.shape.take) fun m e =>
    { e with associations := m },
  optional "timestamps" (Node.asOption Timestamps.shape.take) fun t e => { e with timestamps := t }]

/-- The flags of an entity. -/
def Flags.fieldReaders : List (FieldReader Flags) := [
  optional "generateGqSearch" Node.asBool fun b f => { f with search := b },
  optional "generateGqCreate" Node.asBool fun b f => { f with create := b },
  optional "generateGqUpdate" Node.asBool fun b f => { f with update := b },
  optional "generateGqDelete" Node.asBool fun b f => { f with delete := b },
  optional "generateGqSearchOperation" Node.asBool fun b f => { f with searchOperation := b },
  optional "generateGqTableHandler" Node.asBool fun b f => { f with tableHandler := b }]

/-- Arrays and objects that may stand inside one another in a value that is kept: the text as a
whole allows 127, and three of them are around a member of an entity. -/
def Entity.memberRoom : Nat := 124

/-- Takes an object for an entity: first its fields, then, from the same members, its flags. -/
def Entity.take : Node → Taken Entity
  | .object members f => do
    let (_, e) ← Shape.takeMembers Entity.fieldReaders
      (fun n => .ofText (n.keep Entity.memberRoom)) [] { name := "" } members
    Taken.ofText (pass f)
    let (_, flags) ← Shape.takeMembers Flags.fieldReaders (fun _ => .ok ()) [] {} members
    return { e with flags }
  | .keyless _ => .malformed .keyNotString
  | n => n.refuse "struct Entity"

namespace Registry

/-- The text of a registry as it is read: the entities under their keys. -/
def shape : Shape (OrderedMap Entity) where
  name := "RegistryFile"
  initial := .empty
  fields := [optional "models" (Node.asMap Entity.take) fun m _ => m]

/-- Registers entities under their keys, in order. -/
def ofModels (models : OrderedMap Entity) : Registry :=
  ofList (models.toList.map fun p => { p.2 with name := p.1 })

/-- Passes if only white space is left. -/
def checkEnd : Option (List Char) → Taken Unit
  | some cs => if (skipSpace cs).isEmpty then .ok () else .malformed .trailingCharacters
  | none => .error (.text (.truncated .value))

/-- Reads a registry. -/
def read (text : String) : Taken Registry := do
  let s := Node.read text.toList
  let models ← shape.take s.result
  checkEnd s.rest
  return ofModels models

/-- **What is read is reachable by registering.** -/
theorem reachable_ofModels (models : OrderedMap Entity) : (ofModels models).Reachable :=
  reachable_ofList _

end Registry

end EntitySchema
