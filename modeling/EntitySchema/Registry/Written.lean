import EntitySchema.Json.Value
import EntitySchema.Registry.Basic

/-!
# Registry/Written — the written form of a registry

A registry is written as one object with an entity per name.  An entity's own name and the field names
of its associations are not written, since they are the keys; nor is what follows from the timestamps.
Absent override types, association names and timestamps are left out, whereas a disabled timestamp
column is written as `null`.
-/

namespace EntitySchema

open Json

/-- A member that is left out where there is no value. -/
def optionalMember (key : String) : Option String → List (String × Value)
  | none => []
  | some s => [(key, .string s)]

/-- The written form of naming forms. -/
def Forms.toJson (f : Forms) : Value :=
  .object [("singular", .string f.singular), ("plural", .string f.plural)]

/-- The written form of an attribute. -/
def Attribute.toJson (a : Attribute) : Value :=
  .object <|
    [("type", .string a.storageType), ("primaryKey", .bool a.primaryKey),
      ("autoIncrement", .bool a.autoIncrement), ("allowNull", .bool a.allowNull)] ++
    optionalMember "gqType" a.overrideType ++
    [("gqSearch", .bool a.searchable), ("gqCreate", .bool a.creatable),
      ("gqUpdate", .bool a.updatable)]

/-- The word for a multiplicity. -/
def Multiplicity.word : Multiplicity → String
  | one => "one"
  | many => "many"

/-- The written form of an association. -/
def Association.toJson (a : Association) : Value :=
  .object <|
    ("target", .string a.target) :: optionalMember "name" a.name ++
    [("multiplicity", .string a.multiplicity.word)]

/-- The members that the flags of an entity are written as. -/
def Flags.members (f : Flags) : List (String × Value) := [
  ("generateGqSearch", .bool f.search),
  ("generateGqCreate", .bool f.create),
  ("generateGqUpdate", .bool f.update),
  ("generateGqDelete", .bool f.delete),
  ("generateGqSearchOperation", .bool f.searchOperation),
  ("generateGqTableHandler", .bool f.tableHandler)]

/-- The written form of a column name that may be disabled. -/
def columnToJson : Option String → Value
  | none => .null
  | some s => .string s

/-- The written form of timestamp columns. -/
def Timestamps.toJson (t : Timestamps) : Value :=
  .object [("createdAt", columnToJson t.createdAt), ("updatedAt", columnToJson t.updatedAt)]

/-- The members that the timestamps of an entity are written as. -/
def timestampMembers : Option Timestamps → List (String × Value)
  | none => []
  | some t => [("timestamps", t.toJson)]

/-- The written form of a map. -/
def OrderedMap.toJson {α : Type} (write : α → Value) (m : OrderedMap α) : Value :=
  .object (m.toList.map fun p => (p.1, write p.2))

/-- The written form of an entity. -/
def Entity.toJson (e : Entity) : Value :=
  .object <|
    [("naming", e.forms.toJson), ("attributes", e.attributes.toJson Attribute.toJson),
      ("associations", e.associations.toJson Association.toJson)] ++
    e.flags.members ++ timestampMembers e.timestamps

/-- The written form of a registry. -/
def Registry.toJson (r : Registry) : Value :=
  .object [("models", .object (r.entities.map fun e => (e.name, e.toJson)))]

/-- The text of a registry. -/
def Registry.written (r : Registry) : String := r.toJson.text

end EntitySchema
