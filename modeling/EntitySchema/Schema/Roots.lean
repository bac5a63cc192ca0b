import EntitySchema.Schema.EntityTypes

/-!
# Schema/Roots — what an entity adds to the root types

A searchable entity adds a list, a count and a single-row lookup to the queries, all with the same
arguments.  To the mutations it adds create, update and delete, each under a flag of its own; update
and delete address rows by required filters on the primary keys.
-/

namespace EntitySchema.Schema

open Sdl

/-- The query fields of an entity. -/
def queryFields (e : Entity) : List Field :=
  if e.flags.search then [
    ⟨e.forms.plural, searchArguments e, .requiredListRequired e.typeName⟩,
    ⟨Naming.countField e.forms.plural, searchArguments e, .named Scalar.int.name⟩,
    ⟨e.forms.singular, searchArguments e, .named e.typeName⟩]
  else []

/-- The mutation that creates a row. -/
def createMutation (e : Entity) : Field :=
  ⟨"create" ++ Naming.capitalize e.forms.singular,
    [⟨"input", .named (Naming.createInput e.typeName)⟩],
    .namedRequired e.typeName⟩

/-- The mutation that updates rows and answers how many. -/
def updateMutation (e : Entity) : Field :=
  ⟨"update" ++ Naming.capitalize e.forms.singular,
    primaryKeyFilters e true ++ [⟨"input", .named (Naming.updateInput e.typeName)⟩],
    .namedListRequired Scalar.int.name⟩

/-- The mutation that deletes rows and answers how many. -/
def deleteMutation (e : Entity) : Field :=
  ⟨"delete" ++ Naming.capitalize e.forms.singular, primaryKeyFilters e true,
    .namedRequired Scalar.int.name⟩

/-- The mutation fields of an entity. -/
def mutationFields (e : Entity) : List Field :=
  (if e.flags.create then [createMutation e] else []) ++
    (if e.flags.update then [updateMutation e] else []) ++
    (if e.flags.delete then [deleteMutation e] else [])

end EntitySchema.Schema
