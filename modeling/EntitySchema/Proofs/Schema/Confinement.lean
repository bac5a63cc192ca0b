import EntitySchema.Proofs.Schema.Sources
import EntitySchema.Registry.Diagnosis
import Mathlib.Data.List.Basic

/-!
# Proofs/Schema/Confinement — every setting shows in its own places only

Let two registries be the same but for one kind of setting on one entity.  Then they have the same
issues, and their documents are the same outside of the places where that kind of setting may show.

A kind of setting is a `Setting`; `Setting.place?` is the table of the places, read off the source of
each field.  Two registries are the same but for a setting if they are the same when it is reset
(`Registry.SameBut`), and what a document shows elsewhere is what is left of its fields when those
places are hidden (`Request.outside`).  So all comes down to one run: resetting the setting leaves the
outside as it is, for each of the functions that make fields.
-/

namespace EntitySchema

open Sdl Schema

/-- Kinds of settings of an entity. -/
inductive Setting
  /-- The override types of attributes. -/
  | overrideTypes
  /-- Which attributes can be set on creation: whether they are creatable, which keys the store
  assigns, and the timestamp columns. -/
  | creation
  /-- Which attributes can be updated. -/
  | updating
  /-- Which attributes accept null. -/
  | nullability
  /-- Which attributes can be searched for, how, and with which controls. -/
  | searching
  /-- Whether there are queries. -/
  | queries
  /-- Whether there is a mutation. -/
  | mutation (verb : Verb)

/-! ## Registries without a setting -/

namespace Setting

/-- The attribute with the setting at its default. -/
def resetAttribute : Setting → Attribute → Attribute
  | overrideTypes, a => { a with overrideType := none }
  | creation, a => { a with creatable := true, autoIncrement := false, isTimestamp := false }
  | updating, a => { a with updatable := true }
  | nullability, a => { a with allowNull := true }
  | searching, a => { a with searchable := true }
  | queries, a => a
  | mutation _, a => a

/-- The flags with the setting at its default. -/
def resetFlags : Setting → Flags → Flags
  | searching, f => { f with searchOperation := true, tableHandler := true }
  | queries, f => { f with search := true }
  | mutation .create, f => { f with create := true }
  | mutation .update, f => { f with update := true }
  | mutation .delete, f => { f with delete := true }
  | _, f => f

/-- The timestamp columns with the setting at its default. -/
def resetTimestamps : Setting → Option Timestamps → Option Timestamps
  | creation, _ => none
  | _, t => t

end Setting

/-- The entity with the setting at its default. -/
def Entity.reset (k : Setting) (e : Entity) : Entity :=
  { e with
    attributes := e.attributes.mapWithKey fun _ => k.resetAttribute
    flags := k.resetFlags e.flags
    timestamps := k.resetTimestamps e.timestamps }

/-- The entity with the setting at its default, if it is the one of that name. -/
def Entity.resetAt (k : Setting) (n : String) (e : Entity) : Entity :=
  if e.name = n then e.reset k else e

/-- The registry with the setting of the entity `n` at its default. -/
def Registry.reset (k : Setting) (n : String) (r : Registry) : Registry :=
  ⟨r.table.mapWithKey fun _ => Entity.resetAt k n⟩

/-- The registries are the same, in the same order, but for the setting `k` of the entity `n` and
what is derived from it. -/
def Registry.SameBut (k : Setting) (n : String) (r s : Registry) : Prop := r.reset k n = s.reset k n

instance (k : Setting) (n : String) (r s : Registry) : Decidable (r.SameBut k n s) :=
  inferInstanceAs (Decidable (_ = _))

/-! ## Documents without the places of a setting -/

/-- What a setting may change about a field. -/
inductive Aspect
  /-- Whether it is there, and all about it. -/
  | presence
  | type
  | arguments

/-- What is left of a field when an aspect is hidden. -/
def Aspect.hide? : Aspect → Field → Option Field
  | presence, _ => none
  | type, f => some { f with type := .named "" }
  | arguments, f => some { f with arguments := [] }

/-- **The places of each setting**: the entity whose setting may show in fields from that source, and
in which aspect. -/
def Setting.place? : Setting → Source → Option (String × Aspect)
  -- on the object type alone: inputs go by the storage type, and keys are `ID!` whatever they are
  | overrideTypes, .attribute e _ false => some (e, .type)
  | creation, .createInput e _ => some (e, .presence)
  | updating, .updateInput e _ => some (e, .presence)
  | nullability, .attribute e _ _ => some (e, .type)
  | nullability, .createInput e _ => some (e, .type)
  | searching, .query e => some (e, .arguments)
  -- here `e` is the target: its search settings show on the object types of other entities
  | searching, .association _ _ .many e => some (e, .arguments)
  | queries, .query e => some (e, .presence)
  | mutation v, .mutation w e => if v = w then some (e, .presence) else none
  | _, _ => none

/-- What is left of a field when the places of the setting `k` of the entity `n` are hidden. -/
def Setting.outside? (k : Setting) (n : String) (s : Source) (f : Field) : Option Field :=
  match k.place? s with
  | some (e, a) => if e = n then a.hide? f else some f
  | none => some f

/-- What is left of a list of fields. -/
def Schema.TracedFields.outside (k : Setting) (n : String) (fields : TracedFields) : TracedFields :=
  fields.filterMap fun p => (k.outside? n p.1 p.2).map (Prod.mk p.1)

/-- What is left of a definition. -/
def Schema.TracedDefinition.outside (k : Setting) (n : String) : TracedDefinition → TracedDefinition
  | type t => .type { t with fields := TracedFields.outside k n t.fields }
  | fragment s => .fragment s

/-- What is left of a document. -/
def Request.outside (k : Setting) (n : String) (q : Request) : List TracedDefinition :=
  q.traced.map (TracedDefinition.outside k n)

/-! ## What resetting keeps -/

section Reset

variable (k : Setting) (n : String) (r : Registry) (e : Entity)

@[simp] theorem Setting.primaryKey_resetAttribute (a : Attribute) :
    (k.resetAttribute a).primaryKey = a.primaryKey := by
  cases k <;> rfl

/-- A flag that makes queries is reset with the queries alone. -/
theorem Setting.search_resetFlags {k : Setting} (hk : k ≠ .queries) (f : Flags) :
    (k.resetFlags f).search = f.search := by
  cases k with
  | queries => exact absurd rfl hk
  | mutation v => cases v <;> rfl
  | _ => rfl

/-- A flag that makes a mutation is reset with that mutation alone. -/
theorem Setting.flag_resetFlags {k : Setting} {v : Verb} (hk : k ≠ .mutation v) (f : Flags) :
    v.flag (k.resetFlags f) = v.flag f := by
  cases k with
  | mutation w =>
    cases v <;> cases w <;> first | rfl | exact absurd rfl hk
  | _ => cases v <;> rfl

/-- The flags that shape a search are reset with the search settings alone. -/
theorem Setting.shape_resetFlags {k : Setting} (hk : k ≠ .searching) (f : Flags) :
    (k.resetFlags f).searchOperation = f.searchOperation ∧
      (k.resetFlags f).tableHandler = f.tableHandler := by
  cases k with
  | searching => exact absurd rfl hk
  | mutation v => cases v <;> exact ⟨rfl, rfl⟩
  | _ => exact ⟨rfl, rfl⟩

variable {k n e} in
/-- **What resetting leaves as it is need be shown for the entity `n` alone.** -/
theorem Entity.resetAt_keeps {β : Type} (f : Entity → β) (h : e.name = n → f (e.reset k) = f e) :
    f (e.resetAt k n) = f e := by
  rw [Entity.resetAt]
  split
  · next hn => exact h hn
  · rfl

@[simp] theorem Entity.name_resetAt : (e.resetAt k n).name = e.name :=
  Entity.resetAt_keeps Entity.name fun _ => rfl

@[simp] theorem Entity.forms_resetAt : (e.resetAt k n).forms = e.forms :=
  Entity.resetAt_keeps Entity.forms fun _ => rfl

@[simp] theorem Entity.associations_resetAt : (e.resetAt k n).associations = e.associations :=
  Entity.resetAt_keeps Entity.associations fun _ => rfl

@[simp] theorem Entity.typeName_resetAt : (e.resetAt k n).typeName = e.typeName :=
  congrArg Naming.typeName (e.name_resetAt k n)

@[simp] theorem Entity.keys_attributes_resetAt :
    (e.resetAt k n).attributes.keys = e.attributes.keys :=
  Entity.resetAt_keeps (·.attributes.keys) fun _ => OrderedMap.keys_mapWithKey _ _

/-- The primary keys are the same attributes, reset. -/
theorem Entity.primaryKeys_reset :
    (e.reset k).primaryKeys = e.primaryKeys.map fun p => (p.1, k.resetAttribute p.2) := by
  rw [Entity.primaryKeys, Entity.primaryKeys, Entity.reset, OrderedMap.toList_mapWithKey,
    List.filter_map]
  simp only [Function.comp_def, Setting.primaryKey_resetAttribute]

@[simp] theorem Registry.entities_reset : (r.reset k n).entities = r.entities.map (·.resetAt k n) := by
  simp [Registry.entities, Registry.reset, OrderedMap.values, Function.comp_def]

@[simp] theorem Registry.get?_reset (name : String) :
    (r.reset k n).get? name = (r.get? name).map (·.resetAt k n) :=
  OrderedMap.get?_mapWithKey _ _ _

/-- **An association keeps its target**: resolving reads no more than the names. -/
theorem Registry.resolve?_reset (a : Association) :
    (r.reset k n).resolve? a = (r.resolve? a).map fun t => ⟨t.key, t.entity.resetAt k n⟩ := by
  rw [Registry.resolve?, Registry.resolve?, List.map_findSome?]
  simp only [Registry.get?_reset, Option.map_map, Function.comp_def]

end Reset

/-! ## Issues -/

namespace Registry

variable (k : Setting) (n : String) (r : Registry) (e : Entity)

theorem primaryKeyIssues_resetAt : primaryKeyIssues (e.resetAt k n) = primaryKeyIssues e := by
  refine Entity.resetAt_keeps primaryKeyIssues fun _ => ?_
  rw [primaryKeyIssues, Entity.primaryKeys_reset, List.length_map]
  rfl

theorem unresolvedIssues_reset :
    (r.reset k n).unresolvedIssues (e.resetAt k n) = r.unresolvedIssues e := by
  simp only [unresolvedIssues, resolve?_reset, Option.isNone_map, Entity.associations_resetAt,
    Entity.name_resetAt]

theorem associationFieldNames_reset (a : Association) :
    (r.reset k n).associationFieldNames a = r.associationFieldNames a := by
  rw [associationFieldNames, associationFieldNames, resolve?_reset]
  cases r.resolve? a <;> cases a.multiplicity <;> rfl

theorem fieldNames_reset : (r.reset k n).fieldNames (e.resetAt k n) = r.fieldNames e := by
  rw [fieldNames, fieldNames, Entity.keys_attributes_resetAt, Entity.associations_resetAt,
    funext (associationFieldNames_reset k n r)]

/-- **No setting has a say in the issues.** -/
theorem diagnose_reset : (r.reset k n).diagnose = r.diagnose := by
  have he : ∀ e, (r.reset k n).entityIssues (e.resetAt k n) = r.entityIssues e := by
    intro e
    rw [entityIssues, entityIssues, primaryKeyIssues_resetAt, unresolvedIssues_reset,
      fieldNames_reset, Entity.name_resetAt]
  rw [diagnose, diagnose, entities_reset, List.flatMap_map, funext he]

end Registry

/-! ## Fields, one generator after the other -/

namespace Schema

section Lists

variable {α : Type} {k : Setting} {n : String}

/-- Nothing is left of a field whose presence is a place of the setting. -/
theorem bind_outside?_of_presence {s : Source} (h : k.place? s = some (n, .presence)) :
    ∀ o : Option Field, o.bind (k.outside? n s) = none
  | none => rfl
  | some f => by simp only [Option.bind_some, Setting.outside?, h, if_true, Aspect.hide?]

theorem TracedFields.outside_append (k : Setting) (n : String) (fs gs : TracedFields) :
    TracedFields.outside k n (fs ++ gs) = TracedFields.outside k n fs ++ TracedFields.outside k n gs :=
  List.filterMap_append

theorem TracedFields.outside_flatMap (k : Setting) (n : String) (l : List α) (f : α → TracedFields) :
    TracedFields.outside k n (l.flatMap f) = l.flatMap fun a => TracedFields.outside k n (f a) :=
  List.filterMap_flatMap

/-- Fields that are the same outside one by one are so as a list. -/
theorem TracedFields.outside_filterMap_congr {l : List α} {s : α → Source} {f g : α → Option Field}
    (h : ∀ a ∈ l, (f a).bind (k.outside? n (s a)) = (g a).bind (k.outside? n (s a))) :
    TracedFields.outside k n (l.filterMap fun a => (f a).map (Prod.mk (s a)))
      = TracedFields.outside k n (l.filterMap fun a => (g a).map (Prod.mk (s a))) := by
  have hcut : ∀ (o : Option Field) (a : α),
      ((o.map (Prod.mk (s a))).bind fun p => (k.outside? n p.1 p.2).map (Prod.mk p.1))
        = (o.bind (k.outside? n (s a))).map (Prod.mk (s a)) := by
    intro o a
    cases o <;> rfl
  rw [TracedFields.outside, TracedFields.outside, List.filterMap_filterMap, List.filterMap_filterMap]
  refine List.filterMap_congr fun a ha => ?_
  rw [hcut, hcut, h a ha]

/-- The same for fields that are all there. -/
theorem TracedFields.outside_map_congr {l : List α} {s : α → Source} {f g : α → Field}
    (h : ∀ a ∈ l, k.outside? n (s a) (f a) = k.outside? n (s a) (g a)) :
    TracedFields.outside k n (l.map fun a => (s a, f a))
      = TracedFields.outside k n (l.map fun a => (s a, g a)) := by
  rw [← List.filterMap_eq_map, ← List.filterMap_eq_map]
  exact TracedFields.outside_filterMap_congr (f := some ∘ f) (g := some ∘ g) h

end Lists

variable (k : Setting) (n : String) (r : Registry) (e : Entity)

/-! ### Attributes -/

theorem outside?_attributeField (name : String) (a : Attribute) :
    k.outside? n (.attribute n name a.primaryKey) (attributeField name (k.resetAttribute a))
      = k.outside? n (.attribute n name a.primaryKey) (attributeField name a) := by
  cases k with
  | overrideTypes =>
    -- a primary key is `ID!` whatever its override, so its field has no hidden place
    cases h : a.primaryKey <;>
      simp [Setting.outside?, Setting.place?, Aspect.hide?, attributeField, Setting.resetAttribute, h]
  | nullability => simp [Setting.outside?, Setting.place?, Aspect.hide?, attributeField]
  | _ => rfl

theorem outside?_createArgument (name : String) (a : Attribute) :
    ((createArgument? name (k.resetAttribute a)).map Argument.toField).bind
        (k.outside? n (.createInput n name))
      = ((createArgument? name a).map Argument.toField).bind
        (k.outside? n (.createInput n name)) := by
  cases k with
  | creation => rw [bind_outside?_of_presence rfl, bind_outside?_of_presence rfl]
  | nullability =>
    -- the field is there or not as before, since null values have no say in that
    cases hc : a.creatable <;> cases hp : a.primaryKey <;> cases hi : a.autoIncrement <;>
      simp [Setting.outside?, Setting.place?, Aspect.hide?, Setting.resetAttribute, createArgument?,
        Argument.toField, hc, hp, hi]
  | _ => rfl

theorem outside?_updateArgument (name : String) (a : Attribute) :
    ((updateArgument? name (k.resetAttribute a)).map Argument.toField).bind
        (k.outside? n (.updateInput n name))
      = ((updateArgument? name a).map Argument.toField).bind
        (k.outside? n (.updateInput n name)) := by
  cases k with
  | updating => rw [bind_outside?_of_presence rfl, bind_outside?_of_presence rfl]
  | _ => rfl

theorem outside_tracedAttributes :
    TracedFields.outside k n (tracedAttributes (e.resetAt k n))
      = TracedFields.outside k n (tracedAttributes e) := by
  refine Entity.resetAt_keeps (fun d => TracedFields.outside k n (tracedAttributes d)) fun hn => ?_
  subst hn
  rw [tracedAttributes, Entity.reset, OrderedMap.toList_mapWithKey, List.map_map]
  simp only [Function.comp_def, Setting.primaryKey_resetAttribute]
  exact TracedFields.outside_map_congr fun p _ => outside?_attributeField k e.name p.1 p.2

/-- A reader of attributes that makes the same of a reset attribute, hidden places apart, makes the
same input. -/
theorem outside_tracedArguments {read : String → Attribute → Option Argument}
    {source : String → String → Source}
    (h : ∀ name a, ((read name (k.resetAttribute a)).map Argument.toField).bind
        (k.outside? n (source n name))
      = ((read name a).map Argument.toField).bind (k.outside? n (source n name))) :
    TracedFields.outside k n (tracedArguments (e.resetAt k n) read source)
      = TracedFields.outside k n (tracedArguments e read source) := by
  refine Entity.resetAt_keeps
    (fun d => TracedFields.outside k n (tracedArguments d read source)) fun hn => ?_
  subst hn
  rw [tracedArguments, Entity.reset, OrderedMap.toList_mapWithKey, List.filterMap_map]
  exact TracedFields.outside_filterMap_congr fun p _ => h p.1 p.2

theorem outside_tracedCreateInput :
    TracedFields.outside k n (tracedCreateInput (e.resetAt k n))
      = TracedFields.outside k n (tracedCreateInput e) :=
  outside_tracedArguments k n e (outside?_createArgument k n)

theorem outside_tracedUpdateInput :
    TracedFields.outside k n (tracedUpdateInput (e.resetAt k n))
      = TracedFields.outside k n (tracedUpdateInput e) :=
  outside_tracedArguments k n e (outside?_updateArgument k n)

/-! ### Searches -/

theorem primaryKeyFilters_reset (required : Bool) :
    primaryKeyFilters (e.reset k) required = primaryKeyFilters e required := by
  rw [primaryKeyFilters, Entity.primaryKeys_reset, List.map_map]
  rfl

/-- Searches read no more than the search settings. -/
theorem searchArguments_resetAt {k : Setting} (hk : k ≠ .searching) :
    searchArguments (e.resetAt k n) = searchArguments e := by
  refine Entity.resetAt_keeps searchArguments fun _ => ?_
  obtain ⟨hoperation, hhandler⟩ := Setting.shape_resetFlags hk e.flags
  have hargument : ∀ (name : String) (a : Attribute),
      searchArgument? (e.reset k) name (k.resetAttribute a) = searchArgument? e name a := by
    intro name a
    rw [searchArgument?, searchArgument?, Entity.reset, hoperation]
    cases k with
    | searching => exact absurd rfl hk
    | _ => rfl
  have hattributes : (e.reset k).attributes.toList.filterMap
        (fun p => searchArgument? (e.reset k) p.1 p.2)
      = e.attributes.toList.filterMap fun p => searchArgument? e p.1 p.2 := by
    have hl : (e.reset k).attributes.toList
        = e.attributes.toList.map fun p => (p.1, k.resetAttribute p.2) := rfl
    rw [hl, List.filterMap_map]
    exact List.filterMap_congr fun p _ => hargument p.1 p.2
  have hcontrols : (e.reset k).flags.tableHandler = e.flags.tableHandler := hhandler
  rw [searchArguments, searchArguments, hattributes, primaryKeyFilters_reset, hcontrols]

/-- **A field with the search arguments of an entity is the same outside**, if its arguments are a
place of the search settings of that entity. -/
theorem outside?_search {s : Source}
    (hs : Setting.searching.place? s = some (e.name, .arguments)) (name : String) (ty : TypeRef) :
    k.outside? n s ⟨name, searchArguments (e.resetAt k n), ty⟩
      = k.outside? n s ⟨name, searchArguments e, ty⟩ := by
  by_cases hk : k = .searching
  · subst hk
    refine Entity.resetAt_keeps
      (fun d => Setting.outside? .searching n s ⟨name, searchArguments d, ty⟩) fun hn => ?_
    simp only [Setting.outside?, hs, hn, if_true, Aspect.hide?]
  · rw [searchArguments_resetAt n e hk]

theorem outside_tracedAssociation (p : String × Association) :
    TracedFields.outside k n (tracedAssociation (r.reset k n) (e.resetAt k n) p)
      = TracedFields.outside k n (tracedAssociation r e p) := by
  rw [tracedAssociation, tracedAssociation, Registry.resolve?_reset, associationFields,
    associationFields, Registry.resolve?_reset, Entity.name_resetAt]
  cases r.resolve? p.2 with
  | none => rfl
  | some t =>
    simp only [Option.map_some, Entity.name_resetAt]
    cases p.2.multiplicity with
    | one => rfl
    | many =>
      have hsearch := outside?_search k n t.entity
        (s := .association e.name p.1 .many t.entity.name) rfl
      simp only [TracedFields.outside, List.map_cons, List.map_nil, List.filterMap_cons,
        List.filterMap_nil, hsearch]
      rfl

/-! ### Root types -/

theorem outside_tracedQueries :
    TracedFields.outside k n (tracedQueries (e.resetAt k n))
      = TracedFields.outside k n (tracedQueries e) := by
  by_cases hk : k = .queries
  · refine Entity.resetAt_keeps (fun d => TracedFields.outside k n (tracedQueries d)) fun hn => ?_
    have hhidden : ∀ d : Entity, d.name = n → TracedFields.outside k n (tracedQueries d) = [] := by
      intro d hd
      simp [hk, tracedQueries, TracedFields.outside, Setting.outside?, Setting.place?, hd,
        Aspect.hide?]
    rw [hhidden e hn, hhidden (e.reset k) hn]
  · have hflag : (e.resetAt k n).flags.search = e.flags.search :=
      Entity.resetAt_keeps (·.flags.search) fun _ => Setting.search_resetFlags hk e.flags
    have hsearch := outside?_search k n e (s := .query e.name) rfl
    rw [tracedQueries, tracedQueries, queryFields, queryFields, hflag]
    cases e.flags.search with
    | false => rfl
    | true =>
      simp only [TracedFields.outside, if_true, List.map_cons, List.map_nil, List.filterMap_cons,
        List.filterMap_nil, hsearch, Entity.name_resetAt, Entity.forms_resetAt,
        Entity.typeName_resetAt]

/-- A mutation reads the names and the primary keys of its entity only. -/
theorem mutation_reset (v : Verb) : v.mutation (e.reset k) = v.mutation e := by
  have hforms : (e.reset k).forms = e.forms := rfl
  have htype : (e.reset k).typeName = e.typeName := rfl
  cases v <;>
    simp only [Verb.mutation, createMutation, updateMutation, deleteMutation, hforms, htype,
      primaryKeyFilters_reset]

theorem tracedMutations_eq : tracedMutations e = Verb.all.filterMap fun v =>
    (if v.flag e.flags then some (v.mutation e) else none).map (Prod.mk (.mutation v e.name)) := by
  rw [tracedMutations, ← List.filterMap_eq_map, List.filterMap_filter]
  refine List.filterMap_congr fun v _ => ?_
  split <;> rfl

theorem outside_tracedMutations :
    TracedFields.outside k n (tracedMutations (e.resetAt k n))
      = TracedFields.outside k n (tracedMutations e) := by
  refine Entity.resetAt_keeps (fun d => TracedFields.outside k n (tracedMutations d)) fun hn => ?_
  have hname : (e.reset k).name = e.name := rfl
  rw [tracedMutations_eq, tracedMutations_eq, hname]
  refine TracedFields.outside_filterMap_congr fun v _ => ?_
  by_cases hk : k = .mutation v
  · have hplace : k.place? (.mutation v e.name) = some (n, .presence) := by
      rw [hk, hn]
      exact if_pos rfl
    rw [bind_outside?_of_presence hplace, bind_outside?_of_presence hplace]
  · have hflag : v.flag (e.reset k).flags = v.flag e.flags := Setting.flag_resetFlags hk e.flags
    rw [hflag, mutation_reset]

/-! ### Definitions -/

theorem outside_tracedTypes :
    (tracedTypes (r.reset k n) (e.resetAt k n)).map (TracedDefinition.outside k n)
      = (tracedTypes r e).map (TracedDefinition.outside k n) := by
  have hassociations :
      TracedFields.outside k n ((e.resetAt k n).associations.toList.flatMap
          (tracedAssociation (r.reset k n) (e.resetAt k n)))
        = TracedFields.outside k n (e.associations.toList.flatMap (tracedAssociation r e)) := by
    rw [TracedFields.outside_flatMap, TracedFields.outside_flatMap, Entity.associations_resetAt]
    exact congrArg (List.flatMap · _) (funext (outside_tracedAssociation k n r e))
  simp only [tracedTypes, List.map_cons, List.map_nil, TracedDefinition.outside,
    TracedFields.outside_append, hassociations, outside_tracedAttributes, outside_tracedCreateInput,
    outside_tracedUpdateInput, Entity.typeName_resetAt]

end Schema

/-! ## Documents -/

namespace Request

variable (k : Setting) (n : String) (q : Request)

/-- The request with the setting at its default. -/
def reset : Request := { q with registry := q.registry.reset k n }

/-- **The same entities are exposed**, reset. -/
theorem exposedEntities_reset :
    (q.reset k n).exposedEntities = q.exposedEntities.map (·.resetAt k n) := by
  have hnames : (q.reset k n).exposedNames = q.exposedNames := rfl
  rw [exposedEntities, exposedEntities, hnames]
  cases q.exposedNames with
  | none => exact Registry.entities_reset k n q.registry
  | some names =>
    rw [List.map_filterMap]
    exact List.filterMap_congr fun name _ => Registry.get?_reset k n q.registry name

/-- What the exposed entities add is the same outside if it is so for each entity. -/
theorem outside_flatMap_exposedEntities {f : Entity → TracedFields}
    (h : ∀ e, TracedFields.outside k n (f (e.resetAt k n)) = TracedFields.outside k n (f e)) :
    TracedFields.outside k n ((q.reset k n).exposedEntities.flatMap f)
      = TracedFields.outside k n (q.exposedEntities.flatMap f) := by
  rw [TracedFields.outside_flatMap, TracedFields.outside_flatMap, exposedEntities_reset,
    List.flatMap_map]
  exact congrArg (List.flatMap · _) (funext h)

theorem outside_tracedQueryType :
    TracedDefinition.outside k n (.type (q.reset k n).tracedQueryType)
      = TracedDefinition.outside k n (.type q.tracedQueryType) := by
  rw [TracedDefinition.outside, TracedDefinition.outside, tracedQueryType, tracedQueryType,
    outside_flatMap_exposedEntities k n q (outside_tracedQueries k n)]
  rfl

theorem outside_tracedMutationType :
    TracedDefinition.outside k n (.type (q.reset k n).tracedMutationType)
      = TracedDefinition.outside k n (.type q.tracedMutationType) := by
  rw [TracedDefinition.outside, TracedDefinition.outside, tracedMutationType, tracedMutationType,
    outside_flatMap_exposedEntities k n q (outside_tracedMutations k n)]
  rfl

/-- **Resetting a setting shows in its own places only.** -/
theorem outside_reset : (q.reset k n).outside k n = q.outside k n := by
  have htypes : ((q.reset k n).registry.entities.flatMap (tracedTypes (q.reset k n).registry)).map
        (TracedDefinition.outside k n)
      = (q.registry.entities.flatMap (tracedTypes q.registry)).map
        (TracedDefinition.outside k n) := by
    have hr : (q.reset k n).registry = q.registry.reset k n := rfl
    rw [List.map_flatMap, List.map_flatMap, hr, Registry.entities_reset, List.flatMap_map]
    exact congrArg (List.flatMap · _) (funext (outside_tracedTypes k n q.registry))
  simp only [outside, traced, List.map_append, List.map_cons, List.map_nil, htypes,
    outside_tracedQueryType, outside_tracedMutationType]
  rfl

/-- **Every setting is confined to its own places.**  Two registries that are the same but for one
kind of setting of one entity have the same issues; and under the same configuration and exposure
their documents, traced faithfully, are the same outside of the places where that setting may
show. -/
theorem setting_confined {k : Setting} {n : String} {r s : Registry} (h : r.SameBut k n s)
    (config : Config) (exposed : Option (List String)) :
    let q : Request := { registry := r, config, exposed }
    let p : Request := { registry := s, config, exposed }
    r.diagnose = s.diagnose ∧ q.Faithful ∧ p.Faithful ∧ q.outside k n = p.outside k n := by
  intro q p
  have hreset : q.reset k n = p.reset k n :=
    congrArg (fun t => Request.mk t config exposed) h
  refine ⟨?_, q.faithful, p.faithful, ?_⟩
  · calc r.diagnose = (r.reset k n).diagnose := (Registry.diagnose_reset k n r).symm
      _ = (s.reset k n).diagnose := congrArg Registry.diagnose h
      _ = s.diagnose := Registry.diagnose_reset k n s
  · calc q.outside k n = (q.reset k n).outside k n := (outside_reset k n q).symm
      _ = (p.reset k n).outside k n := congrArg (outside k n) hreset
      _ = p.outside k n := outside_reset k n p

/-- The bookshop, its authors without timestamps. -/
def plainAuthors : Registry := .ofList [{ Registry.author with timestamps := none }, Registry.book]

/-- The bookshop, its books searched for without controls. -/
def plainBooks : Registry :=
  .ofList [Registry.author, { Registry.book with flags := { tableHandler := false } }]

/-- In the bookshop the timestamps of the authors show, but in their create input only; and so do the
search settings of the books, but only in the arguments of searches for books. -/
theorem setting_confined_bookshop :
    plainAuthors.Reachable ∧ plainBooks.Reachable ∧
      Registry.bookshop.SameBut .creation "author" plainAuthors ∧
      Registry.bookshop.SameBut .searching "book" plainBooks ∧
      ({ registry := Registry.bookshop } : Request).document
        ≠ ({ registry := plainAuthors } : Request).document ∧
      ({ registry := Registry.bookshop } : Request).document
        ≠ ({ registry := plainBooks } : Request).document ∧
      ({ registry := Registry.bookshop } : Request).outside .creation "author"
        = ({ registry := plainAuthors } : Request).outside .creation "author" ∧
      ({ registry := Registry.bookshop } : Request).outside .searching "book"
        = ({ registry := plainBooks } : Request).outside .searching "book" := by
  have ha : Registry.bookshop.SameBut .creation "author" plainAuthors := by decide
  have hb : Registry.bookshop.SameBut .searching "book" plainBooks := by decide
  obtain ⟨-, -, -, hauthors⟩ := setting_confined ha {} none
  obtain ⟨-, -, -, hbooks⟩ := setting_confined hb {} none
  exact ⟨Registry.reachable_ofList _, Registry.reachable_ofList _, ha, hb, by decide, by decide,
    hauthors, hbooks⟩

end Request

end EntitySchema
