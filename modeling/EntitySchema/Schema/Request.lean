import EntitySchema.Config
import EntitySchema.Registry.Diagnosis
import EntitySchema.Schema.Roots

/-!
# Schema/Request — the schema of a registry under a configuration

A request joins a registry, a configuration and the names to expose.  Its document is made of the
operator input type, three types per entity, the type fragments, and the two root types, whose fields
come from the exposed entities only.  The list of exposed names counts as an ordered set of
registered names: repeats and unknown names add nothing.

The lenient text leaves out what the registry leaves unclear; the strict one is refused as long as
there are issues, and is the same text otherwise.
-/

namespace EntitySchema

open Sdl Schema

/-- What a schema is generated from. -/
structure Request where
  registry : Registry
  config : Config := {}
  /-- The names exposed through the root types; `none` exposes every entity. -/
  exposed : Option (List String) := none

namespace Request

/-- The names asked for, each once, in order of first mention. -/
def exposedNames (q : Request) : Option (List String) := q.exposed.map List.eraseDups

/-- The entities exposed through the root types. -/
def exposedEntities (q : Request) : List Entity :=
  match q.exposedNames with
  | none => q.registry.entities
  | some names => names.filterMap q.registry.get?

/-- The names asked for that are not registered. -/
def unknownNames (q : Request) : List String :=
  (q.exposedNames.getD []).filter fun n => !q.registry.contains n

/-- All issues: those of the registry, then the unknown names. -/
def issues (q : Request) : List Issue :=
  q.registry.diagnose ++ q.unknownNames.map Issue.unknownEntity

/-- The root type of queries. -/
def queryType (q : Request) : TypeDefinition :=
  { kind := .object, name := "Query", fields := q.exposedEntities.flatMap queryFields,
    fragments := q.config.extensions.queries }

/-- The root type of mutations. -/
def mutationType (q : Request) : TypeDefinition :=
  { kind := .object, name := "Mutation", fields := q.exposedEntities.flatMap mutationFields,
    fragments := q.config.extensions.mutations }

/-- The types of all entities, in order. -/
def entityDefinitions (r : Registry) : List Definition :=
  r.entities.flatMap fun e => (entityTypes r e).definitions

/-- The whole schema. -/
def document (q : Request) : Document :=
  .type operatorInputType :: entityDefinitions q.registry ++
    q.config.extensions.types.map Definition.fragment ++
    [.type q.queryType, .type q.mutationType]

/-- The text of the schema, whatever the issues. -/
def text (q : Request) : String := q.document.text q.config.indent

/-- The text of the schema if there are no issues, else the issues. -/
def strictText (q : Request) : Except (List Issue) String :=
  if q.issues.isEmpty then .ok q.text else .error q.issues

/-- The text under the strictness that the configuration asks for. -/
def generate (q : Request) : Except (List Issue) String :=
  if q.config.strict then q.strictText else .ok q.text

/-- The text of a registry with nothing set but the extensions. -/
def textWith (r : Registry) (x : Extensions) : String :=
  text { registry := r, config := { extensions := x } }

end Request

/-- The refusal of a strict request in words. -/
def Issue.refusal (issues : List Issue) : String :=
  "Registry is inconsistent (" ++ toString issues.length ++ " issue(s)): " ++
    "; ".intercalate (issues.map Issue.message)

end EntitySchema
