import EntitySchema.Proofs.FirstMentions
import EntitySchema.Proofs.Schema.Issues
import Mathlib.Data.List.Forall2

/-!
# Proofs/Schema/Exposure — the names exposed are an ordered set of registered names

Which names are exposed shows in the fields of the two root types and nowhere else.  There a list of
names stands for the registered ones among them, each once and in the order in which they are first
mentioned (`FirstMentions`); repeats and unknown names add nothing, and the names of the registry in
their own order are as good as no list at all.  The unknown names are reported in the same way.

The generator leaves out repeats before it looks names up.  As nothing changes if unknown names are
left out before that (`filter_eraseDups`), all comes down to the names that are registered.
-/

namespace EntitySchema

open Sdl Schema

/-! ## Entities exposed -/

/-- Looking up all keys gives all values. -/
theorem OrderedMap.filterMap_get?_keys {α : Type} (m : OrderedMap α) :
    m.keys.filterMap m.get? = m.values := by
  have h : ∀ p ∈ m.toList, m.get? p.1 = some p.2 := fun p hp => get?_eq_some_iff.mpr hp
  rw [keys, List.filterMap_map, values, ← List.filterMap_eq_map]
  exact List.filterMap_congr h

namespace Registry

/-- Names that are all registered are looked up one by one. -/
theorem forall₂_filterMap_get? {r : Registry} : ∀ {ns : List String},
    (∀ n ∈ ns, r.contains n = true) →
      List.Forall₂ (fun n e => r.get? n = some e) ns (ns.filterMap r.get?)
  | [], _ => .nil
  | n :: ns, h => by
      have hn := h n List.mem_cons_self
      rw [contains, OrderedMap.contains_eq_isSome_get?] at hn
      obtain ⟨e, he⟩ := Option.isSome_iff_exists.mp hn
      have he : r.get? n = some e := he
      rw [List.filterMap_cons_some he]
      exact .cons he (forall₂_filterMap_get? fun m hm => h m (List.mem_cons_of_mem n hm))

end Registry

namespace Request

/-- The request with the names given exposed. -/
def expose (q : Request) (names : List String) : Request := { q with exposed := some names }

/-- The request with every entity exposed. -/
def exposeAll (q : Request) : Request := { q with exposed := none }

variable (q : Request) (names : List String)

/-- Unknown names add no entity, so they may be left out before the repeats. -/
theorem exposedEntities_expose : (q.expose names).exposedEntities
    = (names.filter q.registry.contains).eraseDups.filterMap q.registry.get? := by
  have hf : ∀ n, (if q.registry.contains n = true then q.registry.get? n else none)
      = q.registry.get? n := by
    intro n
    rw [Registry.contains, OrderedMap.contains_eq_isSome_get?]
    change (if (q.registry.get? n).isSome = true then _ else _) = _
    cases q.registry.get? n <;> rfl
  change names.eraseDups.filterMap q.registry.get? = _
  rw [← filter_eraseDups, List.filterMap_filter]
  simp only [hf]

/-! ## The document -/

/-- The definitions in front of the root types. -/
def frontDefinitions : Document :=
  .type operatorInputType :: entityDefinitions q.registry ++
    q.config.extensions.types.map Definition.fragment

/-- The names expose the entities: those that stand under the registered ones among them, and the
generated fields of the root types are theirs, one entity after the other. -/
structure Exposes (es : List Entity) : Prop where
  entities : ∃ ns, FirstMentions names q.registry.contains ns ∧
    List.Forall₂ (fun n e => q.registry.get? n = some e) ns es
  document : (q.expose names).document = q.frontDefinitions ++
    [.type { q.exposeAll.queryType with fields := es.flatMap queryFields },
      .type { q.exposeAll.mutationType with fields := es.flatMap mutationFields }]

theorem exposes_exposedEntities : q.Exposes names (q.expose names).exposedEntities where
  entities := by
    refine ⟨names.eraseDups.filter q.registry.contains, firstMentions_filter _ _, ?_⟩
    rw [exposedEntities_expose, ← filter_eraseDups]
    exact Registry.forall₂_filterMap_get? fun n hn => (List.mem_filter.mp hn).2
  document := rfl

variable {q names}

/-- Where the same entities are exposed the documents are the same. -/
theorem document_congr {names' : List String}
    (h : (q.expose names).exposedEntities = (q.expose names').exposedEntities) :
    (q.expose names).document = (q.expose names').document := by
  rw [(q.exposes_exposedEntities names).document, (q.exposes_exposedEntities names').document, h]

theorem exposedEntities_perm {names' : List String} (h : names'.Perm names) :
    (q.expose names').exposedEntities.Perm (q.expose names).exposedEntities :=
  (eraseDups_perm h).filterMap _

/-- A name that was mentioned before and a name that is not registered expose nothing. -/
theorem exposedEntities_insert {before behind : List String} {n : String}
    (h : n ∈ before ∨ q.registry.contains n = false) :
    (q.expose (before ++ n :: behind)).exposedEntities
      = (q.expose (before ++ behind)).exposedEntities := by
  rcases h with h | h
  · exact congrArg (List.filterMap q.registry.get?) (eraseDups_repeat h behind)
  · rw [exposedEntities_expose, exposedEntities_expose, List.filter_append, List.filter_append,
      List.filter_cons_of_neg (by rw [h]; exact Bool.false_ne_true)]

theorem exposedEntities_names (q : Request) :
    (q.expose q.registry.names).exposedEntities = q.exposeAll.exposedEntities := by
  have hn : q.registry.names.eraseDups = q.registry.names :=
    eraseDups_eq_self q.registry.table.nodup_keys
  change q.registry.names.eraseDups.filterMap q.registry.get? = q.registry.entities
  rw [hn]
  exact OrderedMap.filterMap_get?_keys q.registry.table

/-- **The names exposed are an ordered set of registered names.**  They show in the generated fields
of the two root types alone, which come from the registered names in the order of their first
mention; so another order of the names gives the same fields per entity in another order, a name
mentioned before and an unknown name add nothing, and the names of the registry expose what no list
exposes.  The unknown names are reported in the order of their first mention. -/
theorem exposure (q : Request) (names : List String) :
    q.exposeAll.document = q.frontDefinitions ++
        [.type q.exposeAll.queryType, .type q.exposeAll.mutationType] ∧
      (∃ es, q.Exposes names es ∧
        ∀ names', names'.Perm names → ∃ es', es'.Perm es ∧ q.Exposes names' es') ∧
      (∀ before n behind, names = before ++ n :: behind →
        n ∈ before ∨ q.registry.contains n = false →
          (q.expose names).document = (q.expose (before ++ behind)).document) ∧
      (q.expose q.registry.names).document = q.exposeAll.document ∧
      ∃ ns, FirstMentions names (fun n => !q.registry.contains n) ns ∧
        (q.expose names).issues.filter Issue.isUnknown = ns.map Issue.unknownEntity := by
  refine ⟨rfl, ⟨_, q.exposes_exposedEntities names, fun names' h => ?_⟩, ?_, ?_, ?_⟩
  · exact ⟨_, exposedEntities_perm h, q.exposes_exposedEntities names'⟩
  · rintro before n behind rfl h
    exact document_congr (exposedEntities_insert h)
  · rw [(q.exposes_exposedEntities _).document, exposedEntities_names]
    rfl
  · refine ⟨_, firstMentions_filter _ _, ?_⟩
    rw [filter_issues_isUnknown]
    rfl

/-- The bookshop with its books exposed before its authors. -/
def shelves : Request := { registry := .bookshop, exposed := some ["book", "author"] }

/-- A second mention of the books and an unknown name between them change nothing, and the authors
may come first. -/
theorem exposure_shelves :
    shelves.registry.contains "ghost" = false ∧ ["author", "book"].Perm ["book", "author"] ∧
      (shelves.expose ["book", "ghost", "author"]).document
        = (shelves.expose ["book", "author"]).document ∧
      (shelves.expose ["book", "author", "book"]).document
        = (shelves.expose ["book", "author"]).document ∧
      ∃ es es', es'.Perm es ∧ shelves.Exposes ["book", "author"] es ∧
        shelves.Exposes ["author", "book"] es' := by
  have hghost : shelves.registry.contains "ghost" = false := by decide
  have hperm : ["author", "book"].Perm ["book", "author"] := .swap _ _ _
  obtain ⟨-, ⟨es, hes, hes'⟩, -⟩ := exposure shelves ["book", "author"]
  obtain ⟨es', hp, he⟩ := hes' _ hperm
  obtain ⟨-, -, hunknown, -⟩ := exposure shelves ["book", "ghost", "author"]
  obtain ⟨-, -, hrepeat, -⟩ := exposure shelves ["book", "author", "book"]
  exact ⟨hghost, hperm, hunknown ["book"] "ghost" ["author"] rfl (Or.inr hghost),
    hrepeat ["book", "author"] "book" [] rfl (Or.inl List.mem_cons_self), es, es', hp, hes, he⟩

end Request

end EntitySchema
