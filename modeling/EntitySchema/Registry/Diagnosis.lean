import EntitySchema.Registry.Basic

/-!
# Registry/Diagnosis — what a registry leaves unclear

Generation skips what it cannot make sense of.  `Registry.diagnose` lists those places: entities
without exactly one primary key, associations whose target is not registered, and fields of one
object type that share a name.  Issues of one entity stand together, entities in their order.
-/

namespace EntitySchema

/-- A place where registry or request do not fit together. -/
inductive Issue
  | missingPrimaryKey (entity : String)
  | multiplePrimaryKeys (entity : String) (count : Nat)
  | unresolvedAssociation (entity fieldName target : String)
  | duplicateField (entity field : String)
  /-- A name asked for that is not registered. -/
  | unknownEntity (entity : String)
  deriving DecidableEq, Repr

/-- The issue in words. -/
def Issue.message : Issue → String
  | missingPrimaryKey e => "entity '" ++ e ++ "' has no primary key"
  | multiplePrimaryKeys e n => "entity '" ++ e ++ "' has " ++ toString n ++ " primary keys"
  | unresolvedAssociation e f t =>
    "association '" ++ e ++ "." ++ f ++ "' targets unknown entity '" ++ t ++ "'"
  | duplicateField e f => "entity '" ++ e ++ "' emits field '" ++ f ++ "' more than once"
  | unknownEntity e => "entity '" ++ e ++ "' is not registered"

/-- The entity that an issue is about. -/
def Issue.entity : Issue → String
  | missingPrimaryKey e => e
  | multiplePrimaryKeys e _ => e
  | unresolvedAssociation e _ _ => e
  | duplicateField e _ => e
  | unknownEntity e => e

/-- The names that stand in `names` for the second time, counting those of `before`; each once, in
the order of those second places. -/
def repeatsAfter (before : List String) : List String → List String
  | [] => []
  | n :: names =>
    if before.count n = 1 then n :: repeatsAfter (n :: before) names
    else repeatsAfter (n :: before) names

/-- The names that stand more than once, in the order of their second places. -/
def repeats (names : List String) : List String := repeatsAfter [] names

namespace Registry

/-- The fields that an association claims: none if its target is unknown, and for many rows a
count besides the list. -/
def associationFieldNames (r : Registry) (a : Association) : List String :=
  match r.resolve? a, a.multiplicity with
  | none, _ => []
  | some _, .one => [a.fieldName]
  | some _, .many => [a.fieldName, Naming.countField a.fieldName]

/-- The field names of an entity's object type. -/
def fieldNames (r : Registry) (e : Entity) : List String :=
  e.attributes.keys ++ e.associations.values.flatMap r.associationFieldNames

/-- What is wrong with the number of an entity's primary keys. -/
def primaryKeyIssues (e : Entity) : List Issue :=
  match e.primaryKeys.length with
  | 0 => [.missingPrimaryKey e.name]
  | 1 => []
  | n => [.multiplePrimaryKeys e.name n]

/-- The associations of an entity that lead nowhere. -/
def unresolvedIssues (r : Registry) (e : Entity) : List Issue :=
  (e.associations.values.filter fun a => (r.resolve? a).isNone).map fun a =>
    .unresolvedAssociation e.name a.fieldName a.target

/-- All issues of one entity. -/
def entityIssues (r : Registry) (e : Entity) : List Issue :=
  primaryKeyIssues e ++ r.unresolvedIssues e ++
    (repeats (r.fieldNames e)).map (Issue.duplicateField e.name)

/-- All issues of a registry, entity by entity. -/
def diagnose (r : Registry) : List Issue := r.entities.flatMap r.entityIssues

end Registry

end EntitySchema
