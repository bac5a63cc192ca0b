import EntitySchema.Proofs.Schema.Definitions

/-!
# Proofs/Schema/Sources — what each field of a document is made from

A document by itself does not tell which attribute, association or flag a field comes from: two
entities may share a type name, and two fields a name.  `Request.traced` is the document with every
field's `Source` beside it; without the sources it is the document (`Request.map_forget_traced`), and
each source leads to the type that the field stands in (`Request.atHome_of_mem_traced`).
-/

namespace EntitySchema

open Sdl

namespace Schema

/-- What a field is made from. -/
inductive Source
  /-- A comparison operator. -/
  | operator
  /-- An attribute, on the object type of its entity. -/
  | attribute (entity name : String) (primaryKey : Bool)
  /-- An association, on the object type of its entity, that is resolved to the entity `target`. -/
  | association (entity name : String) (multiplicity : Multiplicity) (target : String)
  /-- An attribute, on the create input of its entity. -/
  | createInput (entity name : String)
  /-- An attribute, on the update input of its entity. -/
  | updateInput (entity name : String)
  /-- The queries of an entity. -/
  | query (entity : String)
  /-- A mutation of an entity. -/
  | mutation (verb : Verb) (entity : String)
  deriving DecidableEq

/-- The name of the type that declares the fields from a source. -/
def Source.home : Source → String
  | .operator => operatorInput
  | .attribute e _ _ => Naming.typeName e
  | .association e _ _ _ => Naming.typeName e
  | .createInput e _ => Naming.createInput (Naming.typeName e)
  | .updateInput e _ => Naming.updateInput (Naming.typeName e)
  | .query _ => "Query"
  | .mutation _ _ => "Mutation"

/-- Fields with what they are made from. -/
abbrev TracedFields := List (Source × Field)

/-- A type declaration with what its fields are made from. -/
structure TracedType where
  kind : Kind
  name : String
  fields : TracedFields
  fragments : List String

/-- The declaration by itself. -/
def TracedType.forget (t : TracedType) : TypeDefinition :=
  ⟨t.kind, t.name, t.fields.map Prod.snd, t.fragments⟩

/-- A top-level declaration with what its fields are made from. -/
inductive TracedDefinition
  | type (definition : TracedType)
  | fragment (text : String)

/-- The definition by itself. -/
def TracedDefinition.forget : TracedDefinition → Definition
  | type t => .type t.forget
  | fragment s => .fragment s

variable (r : Registry) (e : Entity)

/-- The fields of an entity's attributes on its object type. -/
def tracedAttributes : TracedFields :=
  e.attributes.toList.map fun p => (.attribute e.name p.1 p.2.primaryKey, attributeField p.1 p.2)

/-- The fields of an association of `e`. -/
def tracedAssociation (p : String × Association) : TracedFields :=
  match r.resolve? p.2 with
  | none => []
  | some t => (associationFields r p.2).map fun f =>
      (.association e.name p.1 p.2.multiplicity t.entity.name, f)

/-- The fields that an entity's attributes are read as on an input. -/
def tracedArguments (read : String → Attribute → Option Argument)
    (source : String → String → Source) : TracedFields :=
  e.attributes.toList.filterMap fun p =>
    ((read p.1 p.2).map Argument.toField).map (Prod.mk (source e.name p.1))

/-- The fields of an entity's create input. -/
def tracedCreateInput : TracedFields := tracedArguments e createArgument? .createInput

/-- The fields of an entity's update input. -/
def tracedUpdateInput : TracedFields := tracedArguments e updateArgument? .updateInput

/-- The query fields of an entity. -/
def tracedQueries : TracedFields := (queryFields e).map fun f => (.query e.name, f)

/-- The mutation fields of an entity. -/
def tracedMutations : TracedFields :=
  (Verb.all.filter (·.flag e.flags)).map fun v => (.mutation v e.name, v.mutation e)

/-- The three declarations of an entity. -/
def tracedTypes : List TracedDefinition := [
  .type ⟨.object, e.typeName,
    tracedAttributes e ++ e.associations.toList.flatMap (tracedAssociation r e), []⟩,
  .type ⟨.input, Naming.createInput e.typeName, tracedCreateInput e, []⟩,
  .type ⟨.input, Naming.updateInput e.typeName, tracedUpdateInput e, []⟩]

/-- The declaration of the operator input type. -/
def tracedOperators : TracedDefinition :=
  .type ⟨.input, operatorInput, operators.map fun a => (.operator, a.toField), []⟩

/-! ## Without the sources -/

theorem map_snd_tracedAssociation (p : String × Association) :
    (tracedAssociation r e p).map Prod.snd = associationFields r p.2 := by
  rw [tracedAssociation]
  split
  · next h => rw [associationFields, h]; rfl
  · rw [List.map_map]
    exact List.map_id _

theorem map_snd_object :
    (tracedAttributes e ++ e.associations.toList.flatMap (tracedAssociation r e)).map Prod.snd
      = (entityTypes r e).object.fields := by
  have ha : (tracedAttributes e).map Prod.snd
      = e.attributes.toList.map fun p => attributeField p.1 p.2 := List.map_map
  have hb : (e.associations.toList.flatMap (tracedAssociation r e)).map Prod.snd
      = allAssociationFields r e := by
    rw [List.map_flatMap, allAssociationFields, OrderedMap.values, List.flatMap_map]
    exact congrArg (List.flatMap · _) (funext fun p => map_snd_tracedAssociation r e p)
  rw [List.map_append, ha, hb]
  rfl

theorem map_snd_tracedArguments (read : String → Attribute → Option Argument)
    (source : String → String → Source) :
    (tracedArguments e read source).map Prod.snd
      = (e.attributes.toList.filterMap fun p => read p.1 p.2).map Argument.toField := by
  rw [tracedArguments, List.map_filterMap, List.map_filterMap]
  simp only [Option.map_map, Function.comp_def]

theorem map_snd_tracedQueries : (tracedQueries e).map Prod.snd = queryFields e := by
  rw [tracedQueries, List.map_map]
  exact List.map_id _

theorem map_snd_tracedMutations : (tracedMutations e).map Prod.snd = mutationFields e := by
  rw [tracedMutations, List.map_map, mutationFields_eq]
  rfl

theorem map_forget_tracedTypes :
    (tracedTypes r e).map TracedDefinition.forget = (entityTypes r e).definitions := by
  simp only [tracedTypes, List.map_cons, List.map_nil, TracedDefinition.forget, TracedType.forget,
    map_snd_object, tracedCreateInput, tracedUpdateInput, map_snd_tracedArguments]
  rfl

/-! ## Where the sources lead -/

/-- Every field stands in the type that its source leads to. -/
def TracedDefinition.AtHome : TracedDefinition → Prop
  | type t => ∀ p ∈ t.fields, p.1.home = t.name
  | fragment _ => True

theorem home_tracedAttributes : ∀ p ∈ tracedAttributes e, p.1.home = e.typeName := by
  intro p hp
  obtain ⟨a, -, rfl⟩ := List.mem_map.mp hp
  rfl

theorem home_tracedAssociation (a : String × Association) :
    ∀ p ∈ tracedAssociation r e a, p.1.home = e.typeName := by
  intro p hp
  rw [tracedAssociation] at hp
  split at hp
  · exact absurd hp List.not_mem_nil
  · obtain ⟨f, -, rfl⟩ := List.mem_map.mp hp
    rfl

theorem home_tracedArguments {read : String → Attribute → Option Argument}
    {source : String → String → Source} {home : String}
    (h : ∀ name, (source e.name name).home = home) :
    ∀ p ∈ tracedArguments e read source, p.1.home = home := by
  intro p hp
  obtain ⟨a, -, ha⟩ := List.mem_filterMap.mp hp
  obtain ⟨f, -, rfl⟩ := Option.map_eq_some_iff.mp ha
  exact h a.1

theorem atHome_of_mem_tracedTypes {d : TracedDefinition} (hd : d ∈ tracedTypes r e) : d.AtHome := by
  simp only [tracedTypes, List.mem_cons, List.not_mem_nil, or_false] at hd
  rcases hd with rfl | rfl | rfl
  · intro p hp
    rcases List.mem_append.mp hp with hp | hp
    · exact home_tracedAttributes e p hp
    · obtain ⟨a, -, ha⟩ := List.mem_flatMap.mp hp
      exact home_tracedAssociation r e a p ha
  · exact home_tracedArguments e fun _ => rfl
  · exact home_tracedArguments e fun _ => rfl

end Schema

namespace Request

open Schema

/-- The root type of queries with what its fields are made from. -/
def tracedQueryType (q : Request) : TracedType :=
  ⟨.object, "Query", q.exposedEntities.flatMap tracedQueries, q.config.extensions.queries⟩

/-- The root type of mutations with what its fields are made from. -/
def tracedMutationType (q : Request) : TracedType :=
  ⟨.object, "Mutation", q.exposedEntities.flatMap tracedMutations, q.config.extensions.mutations⟩

/-- The document with what its fields are made from. -/
def traced (q : Request) : List TracedDefinition :=
  tracedOperators :: q.registry.entities.flatMap (tracedTypes q.registry) ++
    q.config.extensions.types.map TracedDefinition.fragment ++
    [.type q.tracedQueryType, .type q.tracedMutationType]

/-- **Without the sources the traced document is the document.** -/
theorem map_forget_traced (q : Request) : q.traced.map TracedDefinition.forget = q.document := by
  have hquery : q.tracedQueryType.forget = q.queryType := by
    rw [TracedType.forget, tracedQueryType, queryType, List.map_flatMap]
    simp only [map_snd_tracedQueries]
  have hmutation : q.tracedMutationType.forget = q.mutationType := by
    rw [TracedType.forget, tracedMutationType, mutationType, List.map_flatMap]
    simp only [map_snd_tracedMutations]
  have htypes : (q.registry.entities.flatMap (tracedTypes q.registry)).map TracedDefinition.forget
      = entityDefinitions q.registry := by
    rw [List.map_flatMap]
    exact congrArg (List.flatMap · _) (funext fun e => map_forget_tracedTypes q.registry e)
  rw [traced, List.map_append, List.map_append, List.map_cons, htypes, List.map_map, document,
    ← hquery, ← hmutation]
  rfl

/-- **In a traced document every field stands in the type that its source leads to.** -/
theorem atHome_of_mem_traced {q : Request} {d : TracedDefinition} (hd : d ∈ q.traced) :
    d.AtHome := by
  simp only [traced, List.mem_append, List.mem_cons, List.mem_flatMap, List.mem_map,
    List.not_mem_nil, or_false] at hd
  rcases hd with ((rfl | ⟨e, -, hd⟩) | ⟨s, -, rfl⟩) | rfl | rfl
  · intro p hp
    obtain ⟨a, -, rfl⟩ := List.mem_map.mp hp
    rfl
  · exact atHome_of_mem_tracedTypes _ e hd
  · trivial
  · intro p hp
    obtain ⟨e, -, he⟩ := List.mem_flatMap.mp hp
    obtain ⟨f, -, rfl⟩ := List.mem_map.mp he
    rfl
  · intro p hp
    obtain ⟨e, -, he⟩ := List.mem_flatMap.mp hp
    obtain ⟨v, -, rfl⟩ := List.mem_map.mp he
    rfl

/-- The traced document is the document, with every field where its source leads to. -/
structure Faithful (q : Request) : Prop where
  forget : q.traced.map TracedDefinition.forget = q.document
  home : ∀ d ∈ q.traced, d.AtHome

theorem faithful (q : Request) : q.Faithful :=
  ⟨q.map_forget_traced, fun _ => atHome_of_mem_traced⟩

end Request

end EntitySchema
