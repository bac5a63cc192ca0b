import EntitySchema.Schema.Request

/-!
# CommandLine/Log — what a command tells while it works

A command tells the log of every registered entity, of the configuration that it looks for, of the
issues that a lenient schema passes over, and of each step in which a schema is put together.  A line
of the log stands on the standard error, in front of the line that says how the command went.  Which
events get a line is for the environment to say, if it does; or else an event needs the level of a
warning, and with `--verbose` that of a debugging aid (`LogEvent.isShown`).
-/

namespace EntitySchema

/-- How much an event matters. -/
inductive LogLevel
  | trace
  | debug
  | info
  | warn
  deriving DecidableEq, Repr

/-- The place of a level among the others, the least one first. -/
def LogLevel.rank : LogLevel → Nat
  | trace => 0
  | debug => 1
  | info => 2
  | warn => 3

/-- The level as a word. -/
def LogLevel.name : LogLevel → String
  | trace => "TRACE"
  | debug => "DEBUG"
  | info => "INFO"
  | warn => "WARN"

/-- What the log is told. -/
inductive LogEvent
  | registered (entity : String) (attributes associations : Nat)
  | loaded (count : Nat)
  /-- There is no configuration to read. -/
  | unconfigured
  | loadingConfig (path : String)
  | inconsistency (issue : Issue)
  | generatingTypes (entity typeName : String)
  | skippedAssociation (entity fieldName target : String)
  | expandedAssociation (fieldName typeName : String)
  | searchDisabled (entity : String)
  | mutationsMade (entity : String) (count : Nat)
  | assembled (entities exposed queryFields mutationFields : Nat)
  | generated (entities bytes : Nat)
  deriving DecidableEq, Repr

namespace LogEvent

/-- The level of an event. -/
def level : LogEvent → LogLevel
  | registered _ _ _ => .trace
  | loaded _ => .debug
  | unconfigured => .debug
  | loadingConfig _ => .debug
  | inconsistency _ => .warn
  | generatingTypes _ _ => .trace
  | skippedAssociation _ _ _ => .debug
  | expandedAssociation _ _ => .trace
  | searchDisabled _ => .trace
  | mutationsMade _ _ => .trace
  | assembled _ _ _ _ => .debug
  | generated _ _ => .info

/-- The event in words. -/
def message : LogEvent → String
  | registered _ _ _ => "Registered entity"
  | loaded _ => "Loaded model registry"
  | unconfigured => "No config file found, using defaults"
  | loadingConfig _ => "Loading config"
  | inconsistency _ => "Registry inconsistency"
  | generatingTypes _ _ => "Generating entity types"
  | skippedAssociation _ _ _ => "Skipping association with unresolved target"
  | expandedAssociation _ _ => "Expanding association"
  | searchDisabled _ => "Search disabled, no query fields"
  | mutationsMade _ _ => "Generated mutation fields"
  | assembled _ _ _ _ => "Assembled schema document"
  | generated _ _ => "Generated schema"

/-- What is said of an event besides, each thing with its name. -/
def details : LogEvent → List (String × String)
  | registered e n m =>
    [("entity", e), ("attributes", toString n), ("associations", toString m)]
  | loaded n => [("count", toString n)]
  | unconfigured => []
  | loadingConfig p => [("path", p)]
  | inconsistency i => [("issue", i.message)]
  | generatingTypes e t => [("entity", e), ("type_name", t)]
  | skippedAssociation e f t => [("entity", e), ("alias", f), ("target", t)]
  | expandedAssociation f t => [("alias", f), ("target", t)]
  | searchDisabled e => [("entity", e)]
  | mutationsMade e n => [("entity", e), ("count", toString n)]
  | assembled n x q m =>
    [("entities", toString n), ("exposed", toString x), ("query_fields", toString q),
      ("mutation_fields", toString m)]
  | generated n b => [("entities", toString n), ("bytes", toString b)]

/-- The line of an event behind its time, without colors. -/
def line (e : LogEvent) : String :=
  let word := e.level.name
  let indent := String.ofList (List.replicate (5 - word.length) ' ')
  indent ++ word ++ " " ++ e.message ++
    String.join (e.details.map fun (name, value) => " " ++ name ++ "=" ++ value)

/-- Does an event get a line?  `filter` is what the environment says, if it says something that makes
sense. -/
def isShown (filter : Option (LogEvent → Bool)) (verbose : Bool) (e : LogEvent) : Bool :=
  match filter with
  | some shows => shows e
  | none => (if verbose then LogLevel.debug else .warn).rank ≤ e.level.rank

end LogEvent

/-! ## Events -/

/-- What is told while a registry is loaded. -/
def Registry.log (r : Registry) : List LogEvent :=
  r.entities.map (fun e => .registered e.name e.attributes.size e.associations.size) ++
    [.loaded r.size]

namespace Request

/-- What is told of an association of an entity while its fields are made. -/
def associationEvent (r : Registry) (e : Entity) (a : Association) : LogEvent :=
  match r.resolve? a with
  | none => .skippedAssociation e.name a.fieldName a.target
  | some t => .expandedAssociation a.fieldName t.typeName

/-- What is told while the types of an entity are made. -/
def entityLog (r : Registry) (e : Entity) : List LogEvent :=
  .generatingTypes e.name e.typeName :: e.associations.values.map (associationEvent r e)

/-- What is told while the document is put together. -/
def documentLog (q : Request) : List LogEvent :=
  q.registry.entities.flatMap (entityLog q.registry) ++
    (q.exposedEntities.filter fun e => !e.flags.search).map (fun e => .searchDisabled e.name) ++
    q.exposedEntities.map (fun e => .mutationsMade e.name (Schema.mutationFields e).length) ++
    [.assembled q.registry.size q.exposedEntities.length q.queryType.fields.length
      q.mutationType.fields.length]

/-- What is told while the text is made.  A lenient schema passes over the issues with a warning each;
a strict one that is refused is not begun. -/
def log (q : Request) : List LogEvent :=
  if q.config.strict then
    if q.issues.isEmpty then q.documentLog else []
  else q.issues.map .inconsistency ++ q.documentLog

end Request

end EntitySchema
