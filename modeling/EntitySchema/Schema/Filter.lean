import EntitySchema.Registry.Basic
import EntitySchema.Sdl.Document

/-!
# Schema/Filter — the operator input type and the arguments of a search

Every filter on a column goes through one input type, which has a field per comparison operator.  The
arguments of a search are: a filter per searchable attribute, in order of declaration; an operator
filter per primary key; and the controls for paging, ordering and grouping.
-/

namespace EntitySchema.Schema

open Sdl

/-- Name of the operator input type. -/
def operatorInput : String := "_inputStringOperator"

/-- The comparison operators with the type of their operand. -/
def operators : List Argument :=
  single ["eq", "ne", "gte", "gt", "lte", "lt", "not"] ++
  several ["is", "in", "notIn"] ++
  single ["like", "notLike", "iLike", "notILike", "startsWith", "endsWith", "substring",
    "regexp", "notRegexp", "iRegexp", "notIRegexp"] ++
  several ["between", "notBetween", "overlap", "contains", "contained", "adjacent",
    "strictLeft", "strictRight", "noExtendRight", "noExtendLeft",
    "and", "or", "any", "all", "values", "col", "placeholder"]
where
  /-- Operators on one value. -/
  single (names : List String) : List Argument :=
    names.map fun n => ⟨n, .named Scalar.string.name⟩
  /-- Operators on a list of values. -/
  several (names : List String) : List Argument :=
    names.map fun n => ⟨n, .namedList Scalar.string.name⟩

/-- The declaration of the operator input type. -/
def operatorInputType : TypeDefinition := .input operatorInput operators

/-- The type of a filter by operators. -/
def operatorFilter (required : Bool) : TypeRef :=
  if required then .namedRequired operatorInput else .named operatorInput

/-- The search argument for an attribute.  Primary keys have none here, since `primaryKeyFilters`
brings theirs, nor have computed columns. -/
def searchArgument? (e : Entity) (name : String) (a : Attribute) : Option Argument :=
  if !a.searchable || isVirtual a.storageType || a.primaryKey then none
  else some ⟨name, if e.flags.searchOperation then operatorFilter false else .named a.inputType⟩

/-- Operator filters on the primary keys: optional in a search, required to address rows. -/
def primaryKeyFilters (e : Entity) (required : Bool) : List Argument :=
  e.primaryKeys.map fun p => ⟨p.1, operatorFilter required⟩

/-- Controls for paging, ordering and grouping. -/
def tableHandler : List Argument := [
  ⟨"_offset", .named Scalar.int.name⟩,
  ⟨"_limit", .named Scalar.int.name⟩,
  ⟨"_orderBy", (TypeRef.requiredListRequired Scalar.string.name).list⟩,
  ⟨"_group", .requiredList Scalar.string.name⟩]

/-- The arguments of a search among an entity's rows. -/
def searchArguments (e : Entity) : List Argument :=
  e.attributes.toList.filterMap (fun p => searchArgument? e p.1 p.2) ++
    primaryKeyFilters e false ++
    if e.flags.tableHandler then tableHandler else []

end EntitySchema.Schema
