import EntitySchema.Proofs.Schema.Issues
import Mathlib.Data.List.Nodup

/-!
# Proofs/Schema/UniqueNames — where the names of a strict text can meet

A strict text is given only if no object type of an entity has a field name twice; so much is
diagnosed.  The root types take their names from the forms of all exposed entities, and arguments mix
the names of attributes with fixed ones: neither is looked at.  What has to hold besides is spelled
out in `Request.RootsApart` and `Request.ArgumentsApart`, and a strict text has all its names apart
exactly where both hold.

For each function that makes fields or arguments, one lemma says when their names are all different.
-/

namespace EntitySchema

open Sdl Schema

/-- The fields of a type have different names, and so have the arguments of each of its fields. -/
structure Sdl.TypeDefinition.NamesApart (t : TypeDefinition) : Prop where
  fields : (t.fields.map Field.name).Nodup
  arguments : ∀ f ∈ t.fields, (f.arguments.map Argument.name).Nodup

/-! ## Arguments -/

/-- Is the attribute, not being a key, a filter of searches? -/
def Attribute.isFilter (a : Attribute) : Bool :=
  a.searchable && !isVirtual a.storageType && !a.primaryKey

/-- No filter of a search is named like one of the controls that come with it. -/
def Entity.SearchApart (e : Entity) : Prop :=
  e.flags.tableHandler = true → ∀ p ∈ e.attributes.toList, p.2.isFilter || p.2.primaryKey →
    p.1 ∉ tableHandler.map Argument.name

instance (e : Entity) : Decidable e.SearchApart :=
  inferInstanceAs (Decidable (_ → _))

namespace Schema

variable {e : Entity}

theorem map_name_searchArgument? (e : Entity) : ∀ l : List (String × Attribute),
    (l.filterMap fun p => searchArgument? e p.1 p.2).map Argument.name
      = (l.filter (·.2.isFilter)).map Prod.fst
  | [] => rfl
  | p :: l => by
      have ih := map_name_searchArgument? e l
      cases hf : p.2.isFilter with
      | true =>
        have hs : (!p.2.searchable || isVirtual p.2.storageType || p.2.primaryKey) = false := by
          simpa [Attribute.isFilter, and_assoc] using hf
        rw [List.filter_cons, hf, if_pos rfl, List.map_cons, ← ih,
          List.filterMap_cons_some (by rw [searchArgument?, hs]; rfl), List.map_cons]
      | false =>
        have hs : (!p.2.searchable || isVirtual p.2.storageType || p.2.primaryKey) = true := by
          rw [← Bool.not_eq_false']
          simpa [Attribute.isFilter, and_assoc] using hf
        rw [List.filter_cons, hf, if_neg Bool.false_ne_true, ← ih,
          List.filterMap_cons_none (by rw [searchArgument?, hs]; rfl)]

theorem map_name_primaryKeyFilters (e : Entity) (required : Bool) :
    (primaryKeyFilters e required).map Argument.name = e.primaryKeys.map Prod.fst := by
  rw [primaryKeyFilters, List.map_map]
  rfl

theorem nodup_primaryKeys (e : Entity) : (e.primaryKeys.map Prod.fst).Nodup :=
  e.attributes.nodup_keys.sublist (List.filter_sublist.map Prod.fst)

/-- The filters of a search have different names: no attribute is both a key and no key. -/
theorem nodup_filters (e : Entity) :
    ((e.attributes.toList.filter (·.2.isFilter)).map Prod.fst ++ e.primaryKeys.map Prod.fst).Nodup := by
  have hkeys := e.attributes.nodup_keys
  refine List.nodup_append.mpr ⟨hkeys.sublist (List.filter_sublist.map Prod.fst),
    nodup_primaryKeys e, ?_⟩
  intro n hn m hm hnm
  subst hnm
  obtain ⟨p, hp, rfl⟩ := List.mem_map.mp hn
  obtain ⟨k, hk, hpk⟩ := List.mem_map.mp hm
  obtain ⟨hp, hf⟩ := List.mem_filter.mp hp
  obtain ⟨hk, hkey⟩ := List.mem_filter.mp hk
  obtain rfl := List.inj_on_of_nodup_map hkeys hk hp hpk
  rw [Attribute.isFilter, hkey, Bool.not_true, Bool.and_false] at hf
  exact Bool.false_ne_true hf

/-- **The arguments of a search have different names just if no filter is named like a control.** -/
theorem nodup_searchArguments_iff (e : Entity) :
    ((searchArguments e).map Argument.name).Nodup ↔ e.SearchApart := by
  have hc : (tableHandler.map Argument.name).Nodup := by decide
  rw [searchArguments, List.map_append, List.map_append, map_name_searchArgument?,
    map_name_primaryKeyFilters, Entity.SearchApart]
  cases e.flags.tableHandler with
  | false => simpa using nodup_filters e
  | true =>
    rw [if_pos rfl, List.nodup_append]
    refine ⟨fun h _ p hp hf hn => ?_, fun h => ⟨nodup_filters e, hc, fun n hn m hm hnm => ?_⟩⟩
    · refine h.2.2 p.1 (List.mem_append.mpr ?_) p.1 hn rfl
      rcases Bool.or_eq_true _ _ ▸ hf with hf | hf
      · exact Or.inl (List.mem_map_of_mem (List.mem_filter.mpr ⟨hp, hf⟩))
      · exact Or.inr (List.mem_map_of_mem (List.mem_filter.mpr ⟨hp, hf⟩))
    · subst hnm
      rcases List.mem_append.mp hn with hn | hn
      · obtain ⟨p, hp, rfl⟩ := List.mem_map.mp hn
        obtain ⟨hp, hf⟩ := List.mem_filter.mp hp
        exact h rfl p hp (by rw [hf]; rfl) hm
      · obtain ⟨p, hp, rfl⟩ := List.mem_map.mp hn
        obtain ⟨hp, hf⟩ := List.mem_filter.mp hp
        exact h rfl p hp (by rw [hf, Bool.or_true]) hm

/-- The arguments of an update have different names just if no key is named like the last one. -/
theorem nodup_updateMutation_iff (e : Entity) :
    ((updateMutation e).arguments.map Argument.name).Nodup ↔
      "input" ∉ e.primaryKeys.map Prod.fst := by
  rw [updateMutation, List.map_append, map_name_primaryKeyFilters, List.nodup_append]
  refine ⟨fun h hn => h.2.2 "input" hn "input" (List.mem_singleton.mpr rfl) rfl, fun h => ?_⟩
  refine ⟨nodup_primaryKeys e, List.nodup_singleton _, fun n hn m hm hnm => ?_⟩
  have hi : n = "input" := hnm.trans (List.mem_singleton.mp hm)
  exact h (hi ▸ hn)

theorem nodup_deleteMutation (e : Entity) :
    ((deleteMutation e).arguments.map Argument.name).Nodup := by
  rw [deleteMutation, map_name_primaryKeyFilters]
  exact nodup_primaryKeys e

/-- Arguments made from attributes, each under its name, have different names. -/
theorem nodup_map_name_filterMap {f : String × Attribute → Option Argument}
    (hf : ∀ p, ∀ a ∈ f p, a.name = p.1) {l : List (String × Attribute)}
    (h : (l.map Prod.fst).Nodup) : ((l.filterMap f).map Argument.name).Nodup := by
  refine h.sublist ?_
  clear h
  induction l with
  | nil => exact List.Sublist.refl _
  | cons p l ih =>
    rw [List.map_cons]
    cases ha : f p with
    | none =>
      rw [List.filterMap_cons_none ha]
      exact ih.cons p.1
    | some a =>
      rw [List.filterMap_cons_some ha, List.map_cons, hf p a ha]
      exact ih.cons_cons p.1

theorem nodup_createArguments (e : Entity) : ((createArguments e).map Argument.name).Nodup :=
  nodup_map_name_filterMap (fun _ _ ha => name_of_mem_createArgument? ha) e.attributes.nodup_keys

theorem nodup_updateArguments (e : Entity) : ((updateArguments e).map Argument.name).Nodup :=
  nodup_map_name_filterMap (fun _ _ ha => name_of_mem_updateArgument? ha) e.attributes.nodup_keys

/-- An input type has its names apart if its fields have. -/
theorem namesApart_input {name : String} {args : List Argument}
    (h : (args.map Argument.name).Nodup) : (TypeDefinition.input name args).NamesApart where
  fields := by
    rw [TypeDefinition.input, List.map_map]
    exact h
  arguments f hf := by
    obtain ⟨a, -, rfl⟩ := List.mem_map.mp hf
    exact List.nodup_nil

theorem namesApart_operatorInputType : operatorInputType.NamesApart :=
  namesApart_input (by decide)

/-! ## Object types -/

/-- The names in an object type are apart if no field name repeats and if the searches among the
targets of its associations to many rows have theirs apart. -/
theorem namesApart_object_iff {r : Registry} (h : repeats (r.fieldNames e) = []) :
    (entityTypes r e).object.NamesApart ↔ ∀ a ∈ e.associations.values, a.multiplicity = .many →
      ∀ t, r.resolve? a = some t → t.entity.SearchApart := by
  have hfields : ((entityTypes r e).object.fields.map Field.name).Nodup := by
    rw [← Registry.fieldNames_eq]
    exact repeats_eq_nil_iff.mp h
  refine ⟨fun hn a ha hm t ht => ?_, fun hs => ⟨hfields, fun f hf => ?_⟩⟩
  · have hl : (⟨a.fieldName, searchArguments t.entity, .requiredListRequired t.typeName⟩ : Field)
        ∈ associationFields r a := by
      rw [associationFields, ht, hm]
      exact List.mem_cons_self
    have hf := List.mem_append_right (e.attributes.toList.map fun p => attributeField p.1 p.2)
      (List.mem_flatMap.mpr ⟨a, ha, hl⟩)
    exact (nodup_searchArguments_iff t.entity).mp (hn.arguments _ hf)
  · rcases List.mem_append.mp hf with hf | hf
    · obtain ⟨p, -, rfl⟩ := List.mem_map.mp hf
      exact List.nodup_nil
    · obtain ⟨a, ha, hf⟩ := List.mem_flatMap.mp hf
      rw [associationFields] at hf
      split at hf
      · exact absurd hf List.not_mem_nil
      rename_i t ht
      split at hf
      · obtain rfl := List.mem_singleton.mp hf
        exact List.nodup_nil
      · next hm =>
        have hsearch := (nodup_searchArguments_iff t.entity).mpr (hs a ha hm t ht)
        simp only [List.mem_cons, List.not_mem_nil, or_false] at hf
        rcases hf with rfl | rfl
        · exact hsearch
        · exact hsearch

/-! ## Root types -/

/-- The names under which an entity is queried: of the list, of its count and of the single row. -/
def queryNames (e : Entity) : List String :=
  if e.flags.search then [e.forms.plural, Naming.countField e.forms.plural, e.forms.singular] else []

theorem map_name_queryFields (e : Entity) : (queryFields e).map Field.name = queryNames e := by
  rw [queryFields, queryNames]
  split <;> rfl

theorem ne_countField (n : String) : n ≠ Naming.countField n := by
  intro h
  have hl := congrArg String.length h
  rw [Naming.countField, String.length_append] at hl
  have : "Count".length = 5 := rfl
  omega

/-- The query names of one entity differ if its singular is neither its plural nor the count. -/
theorem nodup_queryNames_iff (e : Entity) : (queryNames e).Nodup ↔ (e.flags.search = true →
    e.forms.singular ≠ e.forms.plural ∧ e.forms.singular ≠ Naming.countField e.forms.plural) := by
  rw [queryNames]
  split
  · next h =>
    have := ne_countField e.forms.plural
    simp only [List.nodup_cons, List.mem_cons, List.not_mem_nil, or_false, not_or, not_false_iff,
      List.nodup_nil, and_true, h, true_imp_iff, ne_eq, eq_comm (a := e.forms.singular)]
    tauto
  · next h => simp [h]

/-- The names of an entity's mutations. -/
def mutationNames (e : Entity) : List String :=
  (Verb.all.filter (·.flag e.flags)).map fun v => v.word ++ Naming.capitalize e.forms.singular

theorem map_name_mutationFields (e : Entity) :
    (mutationFields e).map Field.name = mutationNames e := by
  rw [mutationFields_eq, mutationNames, List.map_map]
  exact List.map_congr_left fun v _ => v.name_mutation e

theorem nodup_mutationNames (e : Entity) : (mutationNames e).Nodup := by
  have hall : Verb.all.Nodup := by decide
  exact List.Nodup.map_on (fun v _ w _ h => (Verb.word_append_inj h).1) (hall.filter _)

/-- Mutations of two entities meet where one verb is asked for by both, and their singulars are the
same when capitalized. -/
theorem disjoint_mutationNames_iff (d e : Entity) :
    (mutationNames d).Disjoint (mutationNames e) ↔
      ∀ v : Verb, v.flag d.flags = true → v.flag e.flags = true →
        Naming.capitalize d.forms.singular ≠ Naming.capitalize e.forms.singular := by
  refine ⟨fun h v hd he hs => ?_, fun h n hn hm => ?_⟩
  · have hn : v.word ++ Naming.capitalize d.forms.singular ∈ mutationNames d :=
      List.mem_map.mpr ⟨v, List.mem_filter.mpr ⟨v.mem_all, hd⟩, rfl⟩
    have hm : v.word ++ Naming.capitalize d.forms.singular ∈ mutationNames e :=
      List.mem_map.mpr ⟨v, List.mem_filter.mpr ⟨v.mem_all, he⟩, by rw [hs]⟩
    exact h hn hm
  · obtain ⟨v, hv, rfl⟩ := List.mem_map.mp hn
    obtain ⟨w, hw, hwv⟩ := List.mem_map.mp hm
    obtain ⟨rfl, hs⟩ := Verb.word_append_inj hwv
    exact h w (List.mem_filter.mp hv).2 (List.mem_filter.mp hw).2 hs.symm

theorem disjoint_queryNames_iff (d e : Entity) : (queryNames d).Disjoint (queryNames e) ↔
    ∀ n ∈ queryNames d, n ∉ queryNames e :=
  ⟨fun h _ hd he => h hd he, fun h n hd he => h n hd he⟩

end Schema

namespace Request

variable {q : Request}

/-- All names of a document are apart, type by type and field by field. -/
def NamesApart (q : Request) : Prop := ∀ t, Definition.type t ∈ q.document → t.NamesApart

/-- The fields of the root types have different names. -/
structure RootsApart (q : Request) : Prop where
  /-- The singular of an entity is neither its plural nor the name of its count. -/
  forms : ∀ e ∈ q.exposedEntities, e.flags.search = true →
    e.forms.singular ≠ e.forms.plural ∧ e.forms.singular ≠ Naming.countField e.forms.plural
  /-- No two entities are queried under one name. -/
  queries : q.exposedEntities.Pairwise fun d e => ∀ n ∈ queryNames d, n ∉ queryNames e
  /-- No two entities with the same mutation have the same capitalized singular. -/
  mutations : q.exposedEntities.Pairwise fun d e => ∀ v : Verb, v.flag d.flags = true →
    v.flag e.flags = true →
      Naming.capitalize d.forms.singular ≠ Naming.capitalize e.forms.singular

/-- Is there a search among the rows of that entity, from the root or from another entity? -/
def Searched (q : Request) (e : Entity) : Prop :=
  (e ∈ q.exposedEntities ∧ e.flags.search = true) ∨
  ∃ d ∈ q.registry.entities, ∃ a ∈ d.associations.values, a.multiplicity = .many ∧
    ∃ t, q.registry.resolve? a = some t ∧ t.entity = e

/-- The arguments of each field have different names. -/
structure ArgumentsApart (q : Request) : Prop where
  /-- No filter of a search is named like a control. -/
  searches : ∀ e, q.Searched e → e.SearchApart
  /-- No key of rows to update is named like the argument for their new content. -/
  updates : ∀ e ∈ q.exposedEntities, e.flags.update = true → "input" ∉ e.primaryKeys.map Prod.fst

theorem nodup_queryType_iff : (q.queryType.fields.map Field.name).Nodup ↔
    (∀ e ∈ q.exposedEntities, e.flags.search = true →
      e.forms.singular ≠ e.forms.plural ∧
        e.forms.singular ≠ Naming.countField e.forms.plural) ∧
    q.exposedEntities.Pairwise fun d e => ∀ n ∈ queryNames d, n ∉ queryNames e := by
  have hn : q.queryType.fields.map Field.name = q.exposedEntities.flatMap queryNames := by
    rw [queryType, List.map_flatMap]
    exact List.flatMap_congr fun e _ => map_name_queryFields e
  rw [hn, List.nodup_flatMap]
  exact and_congr (forall₂_congr fun e _ => nodup_queryNames_iff e)
    (List.Pairwise.iff fun _ _ => disjoint_queryNames_iff _ _)

theorem nodup_mutationType_iff : (q.mutationType.fields.map Field.name).Nodup ↔
    q.exposedEntities.Pairwise fun d e => ∀ v : Verb, v.flag d.flags = true →
      v.flag e.flags = true →
        Naming.capitalize d.forms.singular ≠ Naming.capitalize e.forms.singular := by
  have hn : q.mutationType.fields.map Field.name = q.exposedEntities.flatMap mutationNames := by
    rw [mutationType, List.map_flatMap]
    exact List.flatMap_congr fun e _ => map_name_mutationFields e
  rw [hn, List.nodup_flatMap, List.Pairwise.iff fun _ _ => disjoint_mutationNames_iff _ _]
  exact and_iff_right fun e _ => nodup_mutationNames e

theorem nodup_queryArguments_iff :
    (∀ f ∈ q.queryType.fields, (f.arguments.map Argument.name).Nodup) ↔
      ∀ e ∈ q.exposedEntities, e.flags.search = true → e.SearchApart := by
  refine ⟨fun h e he hs => ?_, fun h f hf => ?_⟩
  · have hf : (⟨e.forms.plural, searchArguments e, .requiredListRequired e.typeName⟩ : Field)
        ∈ queryFields e := by
      rw [queryFields, if_pos hs]
      exact List.mem_cons_self
    exact (nodup_searchArguments_iff e).mp (h _ (List.mem_flatMap.mpr ⟨e, he, hf⟩))
  · obtain ⟨e, he, hf⟩ := List.mem_flatMap.mp hf
    rw [queryFields] at hf
    split at hf
    · next hs =>
      have hsearch := (nodup_searchArguments_iff e).mpr (h e he hs)
      simp only [List.mem_cons, List.not_mem_nil, or_false] at hf
      rcases hf with rfl | rfl | rfl
      · exact hsearch
      · exact hsearch
      · exact hsearch
    · exact absurd hf List.not_mem_nil

theorem nodup_mutationArguments_iff :
    (∀ f ∈ q.mutationType.fields, (f.arguments.map Argument.name).Nodup) ↔
      ∀ e ∈ q.exposedEntities, e.flags.update = true →
        "input" ∉ e.primaryKeys.map Prod.fst := by
  refine ⟨fun h e he hu => ?_, fun h f hf => ?_⟩
  · have hf : updateMutation e ∈ mutationFields e := by
      rw [mutationFields_eq]
      exact List.mem_map.mpr ⟨.update, List.mem_filter.mpr ⟨Verb.update.mem_all, hu⟩, rfl⟩
    exact (nodup_updateMutation_iff e).mp (h _ (List.mem_flatMap.mpr ⟨e, he, hf⟩))
  · obtain ⟨e, he, hf⟩ := List.mem_flatMap.mp hf
    rw [mutationFields_eq] at hf
    obtain ⟨v, hv, rfl⟩ := List.mem_map.mp hf
    cases v with
    | create => exact List.nodup_singleton _
    | update => exact (nodup_updateMutation_iff e).mpr (h e he (List.mem_filter.mp hv).2)
    | delete => exact nodup_deleteMutation e

/-- The names of a document are apart if those of its object types and of its roots are. -/
theorem namesApart_iff : q.NamesApart ↔
    (∀ e ∈ q.registry.entities, (entityTypes q.registry e).object.NamesApart) ∧
      q.queryType.NamesApart ∧ q.mutationType.NamesApart := by
  refine ⟨fun h => ⟨fun e he => h _ ?_, h _ ?_, h _ ?_⟩, fun ⟨ho, hq, hm⟩ t ht => ?_⟩
  · exact type_mem_document_iff.mpr (Or.inr (Or.inl ⟨e, he, Or.inl rfl⟩))
  · exact type_mem_document_iff.mpr (Or.inr (Or.inr (Or.inl rfl)))
  · exact type_mem_document_iff.mpr (Or.inr (Or.inr (Or.inr rfl)))
  · rcases type_mem_document_iff.mp ht with rfl | ⟨e, he, rfl | rfl | rfl⟩ | rfl | rfl
    · exact namesApart_operatorInputType
    · exact ho e he
    · exact namesApart_input (nodup_createArguments e)
    · exact namesApart_input (nodup_updateArguments e)
    · exact hq
    · exact hm

theorem repeats_fieldNames_eq_nil (hi : q.issues = []) {e : Entity}
    (he : e ∈ q.registry.entities) : repeats (q.registry.fieldNames e) = [] := by
  have h := entityIssues_eq_nil hi he
  rw [Registry.entityIssues, List.append_eq_nil_iff, List.map_eq_nil_iff] at h
  exact h.2

/-- Only registered entities are searched. -/
theorem Searched.mem_entities {e : Entity} (h : q.Searched e) : e ∈ q.registry.entities := by
  rcases h with ⟨he, -⟩ | ⟨d, -, a, -, -, t, ht, rfl⟩
  · exact q.exposedEntities_subset he
  · exact Registry.mem_entities_of_get? (Registry.get?_of_resolve? ht)

theorem fieldNames_nodup_of_ne_root (hi : q.issues = []) {t : TypeDefinition}
    (ht : Definition.type t ∈ q.document) (hq : t ≠ q.queryType) (hm : t ≠ q.mutationType) :
    (t.fields.map Field.name).Nodup := by
  rcases type_mem_document_iff.mp ht with rfl | ⟨e, he, rfl | rfl | rfl⟩ | rfl | rfl
  · exact namesApart_operatorInputType.fields
  · rw [← Registry.fieldNames_eq]
    exact repeats_eq_nil_iff.mp (repeats_fieldNames_eq_nil hi he)
  · exact (namesApart_input (nodup_createArguments e)).fields
  · exact (namesApart_input (nodup_updateArguments e)).fields
  · exact absurd rfl hq
  · exact absurd rfl hm

theorem argumentsApart_iff : q.ArgumentsApart ↔
    (∀ d ∈ q.registry.entities, ∀ a ∈ d.associations.values, a.multiplicity = .many →
      ∀ t, q.registry.resolve? a = some t → t.entity.SearchApart) ∧
    (∀ e ∈ q.exposedEntities, e.flags.search = true → e.SearchApart) ∧
    ∀ e ∈ q.exposedEntities, e.flags.update = true → "input" ∉ e.primaryKeys.map Prod.fst := by
  refine ⟨fun h => ⟨?_, fun e he hs => h.searches e (Or.inl ⟨he, hs⟩), h.updates⟩, ?_⟩
  · intro d hd a ha hm t ht
    exact h.searches t.entity (Or.inr ⟨d, hd, a, ha, hm, t, ht, rfl⟩)
  · rintro ⟨hassociations, hqueries, hupdates⟩
    refine ⟨fun e he => ?_, hupdates⟩
    rcases he with ⟨he, hs⟩ | ⟨d, hd, a, ha, hm, t, ht, rfl⟩
    · exact hqueries e he hs
    · exact hassociations d hd a ha hm t ht

/-- **Where the names of a strict text can meet.**  No type but the two roots has a field name
twice; and all names are apart, type by type and field by field, just if the names of the root fields
and those of the arguments are. -/
theorem strict_namesApart_iff {text : String} (h : q.strictText = .ok text) :
    (∀ t, Definition.type t ∈ q.document → t ≠ q.queryType → t ≠ q.mutationType →
      (t.fields.map Field.name).Nodup) ∧
    (q.NamesApart ↔ q.RootsApart ∧ q.ArgumentsApart) := by
  have hi := (strictText_eq_ok_iff.mp h).1
  refine ⟨fun t => fieldNames_nodup_of_ne_root hi, ?_⟩
  have hobjects : (∀ e ∈ q.registry.entities, (entityTypes q.registry e).object.NamesApart) ↔
      ∀ e ∈ q.registry.entities, ∀ a ∈ e.associations.values, a.multiplicity = .many →
        ∀ t, q.registry.resolve? a = some t → t.entity.SearchApart :=
    forall₂_congr fun e he => namesApart_object_iff (repeats_fieldNames_eq_nil hi he)
  rw [namesApart_iff, hobjects, argumentsApart_iff]
  constructor
  · rintro ⟨ho, hq, hm⟩
    obtain ⟨hforms, hqueries⟩ := nodup_queryType_iff.mp hq.fields
    exact ⟨⟨hforms, hqueries, nodup_mutationType_iff.mp hm.fields⟩, ho,
      nodup_queryArguments_iff.mp hq.arguments, nodup_mutationArguments_iff.mp hm.arguments⟩
  · rintro ⟨hroots, ho, hqueries, hupdates⟩
    exact ⟨ho,
      ⟨nodup_queryType_iff.mpr ⟨hroots.forms, hroots.queries⟩, nodup_queryArguments_iff.mpr hqueries⟩,
      ⟨nodup_mutationType_iff.mpr hroots.mutations, nodup_mutationArguments_iff.mpr hupdates⟩⟩

/-- In the library all names are apart. -/
theorem strict_namesApart_library : library.strictText = .ok library.text ∧ library.NamesApart :=
  have hentities : ∀ e ∈ library.registry.entities, e.SearchApart := by decide
  ⟨strictText_library, (strict_namesApart_iff strictText_library).2.mpr ⟨⟨by decide, by decide, by decide⟩,
    ⟨fun e he => hentities e he.mem_entities, by decide⟩⟩⟩

/-- Sheep, whose plural is their singular. -/
def flock : Request where
  registry := .ofList [
    { name := "sheep"
      forms := { plural := "sheep" }
      attributes := .ofList [("id", { storageType := "INTEGER", primaryKey := true })] }]

/-- **A strict text may have a root field twice**: the list of sheep and the single sheep are queried
under one name, and nothing is diagnosed. -/
theorem strict_flock_meets : ¬ ∀ q : Request, q.registry.Reachable →
    q.config.extensions.isEmpty = true → (∃ text, q.strictText = .ok text) → q.NamesApart := by
  intro h
  have hs : flock.strictText = .ok flock.text := strictText_eq_ok_iff.mpr ⟨by decide, rfl⟩
  have hn := h flock (Registry.reachable_ofList _) rfl ⟨flock.text, hs⟩ flock.queryType
    (type_mem_document_iff.mpr (Or.inr (Or.inr (Or.inl rfl))))
  exact absurd hn.fields (by decide)

end Request

end EntitySchema
