import EntitySchema.Schema.Filter

/-!
# Schema/EntityTypes — the three types of an entity

An entity is declared as an object type, which has a field per attribute and one or two per resolved
association; as an input type for creating rows; and as one for updating them.  Override types show
on the object type alone.
-/

namespace EntitySchema.Schema

open Sdl

/-- The type `name`, non-null unless the column accepts null. -/
def nullableType (name : String) (allowNull : Bool) : TypeRef :=
  if allowNull then .named name else .namedRequired name

/-- The field of an attribute on the object type; a primary key is always `ID!`. -/
def attributeField (name : String) (a : Attribute) : Field :=
  ⟨name, [],
    if a.primaryKey then .namedRequired Scalar.id.name else nullableType a.outputType a.allowNull⟩

/-- The field of an attribute on the create input.  A key that the store assigns has none; a managed
timestamp may be left out. -/
def createArgument? (name : String) (a : Attribute) : Option Argument :=
  if !a.creatable then none
  else if a.primaryKey then
    if a.autoIncrement then none else some ⟨name, .namedRequired Scalar.id.name⟩
  else some ⟨name, nullableType a.inputType (a.allowNull || a.isTimestamp)⟩

/-- The field of an attribute on the update input, never required; a primary key has none. -/
def updateArgument? (name : String) (a : Attribute) : Option Argument :=
  if !a.updatable || a.primaryKey then none else some ⟨name, .named a.inputType⟩

/-- The fields of the create input. -/
def createArguments (e : Entity) : List Argument :=
  e.attributes.toList.filterMap fun p => createArgument? p.1 p.2

/-- The fields of the update input. -/
def updateArguments (e : Entity) : List Argument :=
  e.attributes.toList.filterMap fun p => updateArgument? p.1 p.2

/-- The fields of an association.  One row: a required reference.  Many rows: a list and its count,
both with the target's search arguments.  An unknown target: none. -/
def associationFields (r : Registry) (a : Association) : List Field :=
  match r.resolve? a with
  | none => []
  | some t =>
    match a.multiplicity with
    | .one => [⟨a.fieldName, [], .namedRequired t.typeName⟩]
    | .many => [
      ⟨a.fieldName, searchArguments t.entity, .requiredListRequired t.typeName⟩,
      ⟨Naming.countField a.fieldName, searchArguments t.entity, .namedRequired Scalar.int.name⟩]

/-- The fields of all associations of an entity. -/
def allAssociationFields (r : Registry) (e : Entity) : List Field :=
  e.associations.values.flatMap (associationFields r)

/-- The declarations made for one entity. -/
structure EntityTypes where
  object : TypeDefinition
  createInput : TypeDefinition
  updateInput : TypeDefinition

/-- The declarations of `e`, whose associations are resolved in `r`. -/
def entityTypes (r : Registry) (e : Entity) : EntityTypes where
  object := .object e.typeName
    (e.attributes.toList.map (fun p => attributeField p.1 p.2) ++ allAssociationFields r e)
  createInput := .input (Naming.createInput e.typeName) (createArguments e)
  updateInput := .input (Naming.updateInput e.typeName) (updateArguments e)

/-- The declarations in the order in which they are written. -/
def EntityTypes.definitions (t : EntityTypes) : List Definition :=
  [.type t.object, .type t.createInput, .type t.updateInput]

end EntitySchema.Schema
