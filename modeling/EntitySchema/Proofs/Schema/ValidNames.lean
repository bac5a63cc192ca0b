import EntitySchema.Proofs.Naming
import EntitySchema.Proofs.Schema.References

/-!
# Proofs/Schema/ValidNames — valid names in, valid names out

Where entities are registered whose names, types and field names are names of the schema language
(`Entity.WellNamed`), so is everything that the document calls by a name.

Registering makes the forms left empty from other names, and field names of associations from their
keys (`Entity.WellNamed.complete`); by induction on the entities registered, all of a registry is
named (`Registry.isNamed_ofList`).  From there on there is one lemma for each function that makes
fields or arguments.  Types are another matter: `FieldRefers` says what all of them refer to.
-/

namespace EntitySchema

open Sdl Schema

/-! ## Entities -/

/-- The names that an entity is declared with are names; its forms and the field names of its
associations may be left out. -/
structure Entity.WellNamed (e : Entity) : Prop where
  name : Naming.isName e.name
  singular : e.forms.singular = "" ∨ Naming.isName e.forms.singular
  plural : e.forms.plural = "" ∨ Naming.isName e.forms.plural
  attributes : ∀ p ∈ e.attributes.toList, Naming.isName p.1 ∧ Naming.isName p.2.storageType ∧
    ∀ o ∈ p.2.overrideType, Naming.isName o
  /-- An association without a field name is called by its key. -/
  associations : ∀ p ∈ e.associations.toList,
    Naming.isName p.2.fieldName ∨ p.2.fieldName = "" ∧ Naming.isName p.1

instance (e : Entity) : Decidable e.WellNamed :=
  decidable_of_iff
    (Naming.isName e.name ∧ (e.forms.singular = "" ∨ Naming.isName e.forms.singular) ∧
      (e.forms.plural = "" ∨ Naming.isName e.forms.plural) ∧
      (∀ p ∈ e.attributes.toList, Naming.isName p.1 ∧ Naming.isName p.2.storageType ∧
        ∀ o ∈ p.2.overrideType, Naming.isName o) ∧
      ∀ p ∈ e.associations.toList,
        Naming.isName p.2.fieldName ∨ p.2.fieldName = "" ∧ Naming.isName p.1)
    ⟨fun ⟨hn, hs, hp, ht, ha⟩ => ⟨hn, hs, hp, ht, ha⟩,
      fun h => ⟨h.name, h.singular, h.plural, h.attributes, h.associations⟩⟩

/-- The names that are used of an entity are names. -/
structure Entity.IsNamed (e : Entity) : Prop where
  name : Naming.isName e.name
  singular : Naming.isName e.forms.singular
  plural : Naming.isName e.forms.plural
  attributes : ∀ p ∈ e.attributes.toList, Naming.isName p.1 ∧ Naming.isName p.2.storageType ∧
    ∀ o ∈ p.2.overrideType, Naming.isName o
  associations : ∀ a ∈ e.associations.values, Naming.isName a.fieldName

theorem Forms.isName_complete {name : String} {f : Forms} (hname : Naming.isName name)
    (hs : f.singular = "" ∨ Naming.isName f.singular)
    (hp : f.plural = "" ∨ Naming.isName f.plural) :
    Naming.isName (f.complete name).singular ∧ Naming.isName (f.complete name).plural := by
  have hsingular : Naming.isName (f.complete name).singular := by
    simp only [Forms.complete]
    split
    · exact hname
    · next hne => exact hs.resolve_left hne
  refine ⟨hsingular, ?_⟩
  simp only [Forms.complete]
  split
  · exact Naming.isName_pluralize hsingular
  · next hne => exact hp.resolve_left hne

theorem Association.isName_complete {key : String} {a : Association}
    (h : Naming.isName a.fieldName ∨ a.fieldName = "" ∧ Naming.isName key) :
    Naming.isName (a.complete key).fieldName := by
  rw [Association.complete]
  split
  · next he =>
    refine (h.resolve_left fun hn => ?_).2
    rw [he] at hn
    exact absurd hn (by decide)
  · next hne => exact h.resolve_right fun hn => hne hn.1

/-- **Completing names what was left without a name.** -/
theorem Entity.WellNamed.complete {e : Entity} (h : e.WellNamed) : e.complete.IsNamed where
  name := h.name
  singular := (Forms.isName_complete h.name h.singular h.plural).1
  plural := (Forms.isName_complete h.name h.singular h.plural).2
  attributes := List.forall_mem_map.mpr h.attributes
  associations := List.forall_mem_map.mpr (List.forall_mem_map.mpr fun p hp =>
    Association.isName_complete (h.associations p hp))

/-! ## Registries -/

namespace Registry

/-- The names that are used of every entity are names. -/
def IsNamed (r : Registry) : Prop := ∀ e ∈ r.entities, e.IsNamed

theorem isNamed_empty : empty.IsNamed := fun _ h => absurd h List.not_mem_nil

theorem IsNamed.register {r : Registry} (h : r.IsNamed) {e : Entity} (he : e.WellNamed) :
    (r.register e).IsNamed := by
  intro d hd
  obtain ⟨p, hp, rfl⟩ := List.mem_map.mp hd
  rcases OrderedMap.mem_put hp with rfl | hp
  · exact he.complete
  · exact h p.2 (List.mem_map.mpr ⟨p, hp, rfl⟩)

/-- **What is registered under names has names.** -/
theorem isNamed_ofList {es : List Entity} (h : ∀ e ∈ es, e.WellNamed) : (ofList es).IsNamed := by
  have hf : ∀ (es : List Entity) (r : Registry), r.IsNamed → (∀ e ∈ es, e.WellNamed) →
      (es.foldl Registry.register r).IsNamed := by
    intro es
    induction es with
    | nil => exact fun _ hr _ => hr
    | cons e es ih =>
      intro r hr h
      rw [List.forall_mem_cons] at h
      exact ih (r.register e) (hr.register h.1) h.2
  exact hf es empty isNamed_empty h

end Registry

/-! ## Types -/

theorem Naming.isName_schemaTypeOf {s : String} (h : isName s) : isName (schemaTypeOf s) := by
  rw [schemaTypeOf]
  split
  · next c _ => cases c <;> decide
  · exact h

theorem Entity.IsNamed.typeName {e : Entity} (h : e.IsNamed) : Naming.isName e.typeName :=
  Naming.isName_capitalize h.name

theorem Scalar.IsName.isName {n : String} (h : Scalar.IsName n) : Naming.isName n := by
  obtain ⟨s, rfl⟩ := h
  cases s <;> decide

namespace Request

variable {q : Request}

theorem InputReference.isName (h : q.registry.IsNamed) {n : String} :
    q.InputReference n → Naming.isName n
  | .inl hn => hn.isName
  | .inr (.inl ⟨_, .inl hn⟩) => hn ▸ by decide
  | .inr (.inl ⟨_, .inr ⟨e, he, .inl hn⟩⟩) =>
    hn ▸ Naming.isName_concat (by decide) (h e he).typeName
  | .inr (.inl ⟨_, .inr ⟨e, he, .inr hn⟩⟩) =>
    hn ▸ Naming.isName_concat (by decide) (h e he).typeName
  | .inr (.inr ⟨e, he, p, hp, hn⟩) => hn ▸ Naming.isName_schemaTypeOf ((h e he).attributes p hp).2.1

theorem OutputReference.isName (h : q.registry.IsNamed) {t : TypeDefinition} {f : Field} :
    q.OutputReference t f → Naming.isName f.type.baseName
  | .inl hn => hn.isName
  | .inr (.inl ⟨e, he, hn, _⟩) => hn ▸ (h e he).typeName
  | .inr (.inr ⟨e, he, _, p, hp, _, _, hn⟩) => by
      obtain ⟨-, hs, ho⟩ := (h e he).attributes p hp
      rw [hn]
      cases hov : p.2.overrideType with
      | none => exact Naming.isName_schemaTypeOf hs
      | some o => exact Naming.isName_schemaTypeOf (ho o hov)

theorem FieldRefers.isName (h : q.registry.IsNamed) {t : TypeDefinition} {f : Field}
    (hf : q.FieldRefers t f) : Naming.isName f.type.baseName ∧
      ∀ a ∈ f.arguments, Naming.isName a.type.baseName := by
  refine ⟨?_, fun a ha => (hf.arguments a ha).isName h⟩
  cases hkind : t.kind with
  | object => exact (hf.output hkind).isName h
  | input => exact (hf.input hkind).isName h

end Request

/-! ## Fields and arguments -/

/-- The field and its arguments are called by names. -/
structure Sdl.Field.IsNamed (f : Field) : Prop where
  name : Naming.isName f.name
  arguments : ∀ a ∈ f.arguments, Naming.isName a.name

/-- The type, its fields and their arguments are called by names, and refer to names. -/
structure Sdl.TypeDefinition.IsNamed (t : TypeDefinition) : Prop where
  name : Naming.isName t.name
  fields : ∀ f ∈ t.fields, f.IsNamed
  types : ∀ f ∈ t.fields, Naming.isName f.type.baseName ∧
    ∀ a ∈ f.arguments, Naming.isName a.type.baseName

namespace Schema

/-- A field of an input type. -/
theorem isNamed_input {name : String} {args : List Argument}
    (h : ∀ a ∈ args, Naming.isName a.name) :
    ∀ f ∈ (TypeDefinition.input name args).fields, f.IsNamed :=
  List.forall_mem_map.mpr fun a ha => ⟨h a ha, List.forall_mem_nil _⟩

variable {e : Entity}

/-- Arguments made from attributes are called by names. -/
theorem isName_filterMap (h : e.IsNamed) {g : String → Attribute → Option Argument}
    (hg : ∀ n a, ∀ x ∈ g n a, x.name = n) :
    ∀ x ∈ e.attributes.toList.filterMap fun p => g p.1 p.2, Naming.isName x.name := by
  intro x hx
  obtain ⟨p, hp, hx⟩ := List.mem_filterMap.mp hx
  rw [hg _ _ x hx]
  exact (h.attributes p hp).1

theorem isName_createArguments (h : e.IsNamed) : ∀ a ∈ createArguments e, Naming.isName a.name :=
  isName_filterMap h fun _ _ _ => name_of_mem_createArgument?

theorem isName_updateArguments (h : e.IsNamed) : ∀ a ∈ updateArguments e, Naming.isName a.name :=
  isName_filterMap h fun _ _ _ => name_of_mem_updateArgument?

theorem isName_primaryKeyFilters (h : e.IsNamed) (required : Bool) :
    ∀ a ∈ primaryKeyFilters e required, Naming.isName a.name :=
  List.forall_mem_map.mpr fun p hp => (h.attributes p (List.mem_filter.mp hp).1).1

theorem isName_searchArguments (h : e.IsNamed) :
    ∀ a ∈ searchArguments e, Naming.isName a.name := by
  rw [searchArguments, List.forall_mem_append, List.forall_mem_append]
  refine ⟨⟨isName_filterMap h fun _ _ _ => name_of_mem_searchArgument?,
    isName_primaryKeyFilters h false⟩, ?_⟩
  split
  · decide
  · exact fun _ ha => absurd ha List.not_mem_nil

/-- The fields of an association are called by its field name, and take what a search takes. -/
theorem isNamed_associationFields {r : Registry} (h : r.IsNamed) {a : Association}
    (ha : Naming.isName a.fieldName) : ∀ f ∈ associationFields r a, f.IsNamed := by
  rw [associationFields]
  split
  · exact fun _ hf => absurd hf List.not_mem_nil
  · next t ht =>
    have hargs := isName_searchArguments
      (h t.entity (Registry.mem_entities_of_get? (Registry.get?_of_resolve? ht)))
    split
    · exact List.forall_mem_singleton.mpr ⟨ha, List.forall_mem_nil _⟩
    · rw [List.forall_mem_cons, List.forall_mem_singleton]
      exact ⟨⟨ha, hargs⟩, Naming.isName_append ha (by decide), hargs⟩

theorem isNamed_object {r : Registry} (h : r.IsNamed) (he : e.IsNamed) :
    ∀ f ∈ (entityTypes r e).object.fields, f.IsNamed := by
  refine List.forall_mem_append.mpr
    ⟨List.forall_mem_map.mpr fun p hp => ⟨(he.attributes p hp).1, List.forall_mem_nil _⟩,
      fun f hf => ?_⟩
  obtain ⟨a, ha, hf⟩ := List.mem_flatMap.mp hf
  exact isNamed_associationFields h (he.associations a ha) f hf

theorem isNamed_queryFields (h : e.IsNamed) : ∀ f ∈ queryFields e, f.IsNamed := by
  have hargs := isName_searchArguments h
  rw [queryFields]
  split
  · rw [List.forall_mem_cons, List.forall_mem_cons, List.forall_mem_singleton]
    exact ⟨⟨h.plural, hargs⟩, ⟨Naming.isName_append h.plural (by decide), hargs⟩,
      h.singular, hargs⟩
  · exact fun _ hf => absurd hf List.not_mem_nil

theorem isNamed_mutation (h : e.IsNamed) (v : Verb) : (v.mutation e).IsNamed where
  name := by
    rw [v.name_mutation]
    exact Naming.isName_concat (by cases v <;> decide) (Naming.isName_capitalize h.singular)
  arguments := by
    have hinput : Naming.isName "input" := by decide
    cases v with
    | create => exact List.forall_mem_singleton.mpr hinput
    | update =>
      exact List.forall_mem_append.mpr
        ⟨isName_primaryKeyFilters h true, List.forall_mem_singleton.mpr hinput⟩
    | delete => exact isName_primaryKeyFilters h true

theorem isNamed_mutationFields (h : e.IsNamed) : ∀ f ∈ mutationFields e, f.IsNamed := by
  rw [mutationFields_eq]
  exact List.forall_mem_map.mpr fun v _ => isNamed_mutation h v

end Schema

/-! ## The whole document -/

namespace Request

variable {q : Request}

theorem isNamed_of_exposed (h : q.registry.IsNamed) {g : Entity → List Field}
    (hg : ∀ {e : Entity}, e.IsNamed → ∀ f ∈ g e, f.IsNamed) :
    ∀ f ∈ q.exposedEntities.flatMap g, f.IsNamed := by
  intro f hf
  obtain ⟨e, he, hf⟩ := List.mem_flatMap.mp hf
  exact hg (h e (q.exposedEntities_subset he)) f hf

/-- **What a document declares and calls by a name is called by a name**, if what is used of its
registry is. -/
theorem isNamed_of_mem (h : q.registry.IsNamed) (hs : q.registry.Settled) {t : TypeDefinition}
    (ht : Definition.type t ∈ q.document) : t.IsNamed := by
  have htypes := fun f hf => (fieldRefers_of_mem hs ht f hf).isName h
  rcases type_mem_document_iff.mp ht with rfl | ⟨e, he, rfl | rfl | rfl⟩ | rfl | rfl
  · exact ⟨by decide, isNamed_input (by decide), htypes⟩
  · exact ⟨(h e he).typeName, isNamed_object h (h e he), htypes⟩
  · exact ⟨Naming.isName_concat (by decide) (h e he).typeName,
      isNamed_input (isName_createArguments (h e he)), htypes⟩
  · exact ⟨Naming.isName_concat (by decide) (h e he).typeName,
      isNamed_input (isName_updateArguments (h e he)), htypes⟩
  · exact ⟨(by decide : Naming.isName "Query"), isNamed_of_exposed h isNamed_queryFields, htypes⟩
  · exact ⟨(by decide : Naming.isName "Mutation"), isNamed_of_exposed h isNamed_mutationFields,
      htypes⟩

/-- **Valid names in, valid names out**, whatever is exposed: where entities are registered that are
declared with names, every type, field and argument of the document is called by a name, and refers
to one. -/
theorem valid_names (es : List Entity) (h : ∀ e ∈ es, e.WellNamed) (config : Config)
    (exposed : Option (List String)) :
    ∀ t, Definition.type t ∈ document { registry := .ofList es, config, exposed } → t.IsNamed :=
  fun _ ht => isNamed_of_mem (Registry.isNamed_ofList h)
    (Registry.reachable_ofList es).settled ht

/-- The bookshop, whose books alone are exposed. -/
theorem valid_names_bookshop :
    (∀ e ∈ [Registry.author, Registry.book], e.WellNamed) ∧
      ∀ t, Definition.type t ∈ document { registry := .bookshop, exposed := some ["book"] } →
        t.IsNamed :=
  have h : ∀ e ∈ [Registry.author, Registry.book], e.WellNamed := by decide +kernel
  ⟨h, valid_names _ h {} (some ["book"])⟩

end Request

end EntitySchema
