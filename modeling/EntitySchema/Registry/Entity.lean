import EntitySchema.Naming
import EntitySchema.OrderedMap
import EntitySchema.Scalar

/-!
# Registry/Entity — entities, their attributes and their associations

An entity is declared with as little as its name.  What follows from the rest — naming forms left
empty, which attributes are managed timestamps, field names of associations — is filled in by
`Entity.complete`, once, when the entity is registered.
-/

namespace EntitySchema

/-- Singular and plural form of an entity's name, used for root fields. -/
structure Forms where
  singular : String := ""
  plural : String := ""
  deriving DecidableEq, Repr

/-- What is generated for an entity. -/
structure Flags where
  /-- List, count and single-row queries. -/
  search : Bool := true
  /-- The create mutation. -/
  create : Bool := true
  /-- The update mutation. -/
  update : Bool := true
  /-- The delete mutation. -/
  delete : Bool := true
  /-- Filters take operators instead of exact values. -/
  searchOperation : Bool := true
  /-- Searches take paging, ordering and grouping controls. -/
  tableHandler : Bool := true
  deriving DecidableEq, Repr

/-- The columns that the store fills in with the time of a change; `none` disables one. -/
structure Timestamps where
  createdAt : Option String := some "createdAt"
  updatedAt : Option String := some "updatedAt"
  deriving DecidableEq, Repr

/-- Is the attribute one of the managed columns? -/
def Timestamps.contains (t : Timestamps) (column : String) : Bool :=
  t.createdAt == some column || t.updatedAt == some column

/-- A column of an entity. -/
structure Attribute where
  storageType : String
  primaryKey : Bool := false
  autoIncrement : Bool := false
  allowNull : Bool := true
  /-- A schema type that takes the storage type's place on the object type. -/
  overrideType : Option String := none
  searchable : Bool := true
  creatable : Bool := true
  updatable : Bool := true
  /-- Is the column filled in by the store?  Derived from the entity's timestamps. -/
  isTimestamp : Bool := false
  deriving DecidableEq, Repr

/-- Type name on the object type; an override goes through the storage table as well. -/
def Attribute.outputType (a : Attribute) : String :=
  schemaTypeOf (a.overrideType.getD a.storageType)

/-- Type name in inputs; an override has no say, since it may name a type that is no input. -/
def Attribute.inputType (a : Attribute) : String := schemaTypeOf a.storageType

/-- Does an association lead to one row or to many? -/
inductive Multiplicity
  | one
  | many
  deriving DecidableEq, Repr

/-- A relation to another entity. -/
structure Association where
  /-- Name of the field on the object type. -/
  fieldName : String
  /-- Name of the entity it leads to. -/
  target : String
  /-- Declared name, tried before the target. -/
  name : Option String := none
  multiplicity : Multiplicity
  deriving DecidableEq, Repr

/-- The registered names that an association may mean, in the order in which they are tried. -/
def Association.candidates (a : Association) : List String :=
  [a.name.getD a.fieldName, a.target]

/-- An entity of the data model. -/
structure Entity where
  name : String
  forms : Forms := {}
  attributes : OrderedMap Attribute := .empty
  associations : OrderedMap Association := .empty
  flags : Flags := {}
  timestamps : Option Timestamps := none
  deriving DecidableEq

namespace Entity

/-- Adds an attribute; one of the same name is replaced in place. -/
def withAttribute (e : Entity) (name : String) (a : Attribute) : Entity :=
  { e with attributes := e.attributes.insert name a }

/-- Adds an association under its field name; one of the same field name is replaced in place. -/
def withAssociation (e : Entity) (a : Association) : Entity :=
  { e with associations := e.associations.insert a.fieldName a }

/-- Adds an association to many rows. -/
def hasMany (e : Entity) (fieldName target : String) : Entity :=
  e.withAssociation { fieldName, target, multiplicity := .many }

/-- Adds an association to one row. -/
def hasOne (e : Entity) (fieldName target : String) : Entity :=
  e.withAssociation { fieldName, target, multiplicity := .one }

/-- Name of the entity's object type. -/
def typeName (e : Entity) : String := Naming.typeName e.name

/-- The primary key attributes, in order of declaration. -/
def primaryKeys (e : Entity) : List (String × Attribute) :=
  e.attributes.toList.filter (·.2.primaryKey)

/-- Is the attribute managed by the store? -/
def isManaged (e : Entity) (column : String) : Bool :=
  e.timestamps.any (·.contains column)

end Entity

/-- Fills in the forms left empty: the singular is the name, the plural the singular's plural. -/
def Forms.complete (name : String) (f : Forms) : Forms :=
  let singular := if f.singular = "" then name else f.singular
  { singular, plural := if f.plural = "" then Naming.pluralize singular else f.plural }

/-- Takes the field name from the key where none is given. -/
def Association.complete (key : String) (a : Association) : Association :=
  if a.fieldName = "" then { a with fieldName := key } else a

/-- The entity with all derived data filled in. -/
def Entity.complete (e : Entity) : Entity :=
  { e with
    forms := e.forms.complete e.name
    attributes := e.attributes.mapWithKey fun key a => { a with isTimestamp := e.isManaged key }
    associations := e.associations.mapWithKey Association.complete }

end EntitySchema
