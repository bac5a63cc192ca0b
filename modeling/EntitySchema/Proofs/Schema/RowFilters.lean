import EntitySchema.Proofs.Schema.Sources
import EntitySchema.Proofs.Schema.UniqueNames

/-!
# Proofs/Schema/RowFilters — what picks the rows of an update or a delete

An update and a delete say which rows they are about by operator filters that are required.  There is
one for each primary key of the entity, in order of declaration, and no other argument is of that
type (`Schema.rowFilters_mutation`).  So an entity with a key has its rows picked by it, in lenient
texts as in strict ones.

An entity without a key has none, and nothing keeps its mutations out of a lenient text: there an
update and a delete are about every row at once (`Request.diary_picks_all`).  The missing key is
reported, and so a strict text is free of such mutations.
-/

namespace EntitySchema

open Sdl Schema

/-! ## Filters of one mutation -/

/-- Is the mutation about rows that are there already? -/
def Verb.picksRows : Verb → Bool
  | create => false
  | update => true
  | delete => true

namespace Schema

/-- The operator filters that a field requires, by the names of the arguments. -/
def rowFilters (f : Field) : List String :=
  (f.arguments.filter fun a => a.type = operatorFilter true).map Argument.name

theorem filter_primaryKeyFilters (e : Entity) :
    (primaryKeyFilters e true).filter (fun a => a.type = operatorFilter true)
      = primaryKeyFilters e true := by
  refine List.filter_eq_self.mpr fun a ha => ?_
  obtain ⟨p, -, rfl⟩ := List.mem_map.mp ha
  exact decide_eq_true rfl

/-- **Rows are picked by the primary keys, and by nothing else.** -/
theorem rowFilters_mutation {v : Verb} (hv : v.picksRows = true) (e : Entity) :
    rowFilters (v.mutation e) = e.primaryKeys.map Prod.fst := by
  cases v with
  | create => exact nomatch hv
  | update =>
    -- the argument for the new content is no filter, as it may be left out
    have hinput : [(⟨"input", .named (Naming.updateInput e.typeName)⟩ : Argument)].filter
        (fun a => a.type = operatorFilter true) = [] := rfl
    rw [rowFilters, Verb.mutation, updateMutation, List.filter_append, hinput, List.append_nil,
      filter_primaryKeyFilters, map_name_primaryKeyFilters]
  | delete =>
    rw [rowFilters, Verb.mutation, deleteMutation, filter_primaryKeyFilters,
      map_name_primaryKeyFilters]

/-! ## Mutations among the fields -/

/-- Is the field a mutation of an entity? -/
def Source.isMutation : Source → Bool
  | .mutation _ _ => true
  | _ => false

/-- The types of an entity hold no mutations, whatever their names. -/
theorem not_isMutation_of_mem_tracedTypes {r : Registry} {e : Entity} {t : TracedType}
    (ht : TracedDefinition.type t ∈ tracedTypes r e) : ∀ p ∈ t.fields, p.1.isMutation = false := by
  simp only [tracedTypes, List.mem_cons, List.not_mem_nil, or_false, TracedDefinition.type.injEq]
    at ht
  intro p hp
  rcases ht with rfl | rfl | rfl
  · rcases List.mem_append.mp hp with hp | hp
    · obtain ⟨a, -, rfl⟩ := List.mem_map.mp hp
      rfl
    · obtain ⟨a, -, ha⟩ := List.mem_flatMap.mp hp
      rw [tracedAssociation] at ha
      split at ha
      · exact absurd ha List.not_mem_nil
      · obtain ⟨f, -, rfl⟩ := List.mem_map.mp ha
        rfl
  · obtain ⟨a, -, ha⟩ := List.mem_filterMap.mp hp
    obtain ⟨f, -, rfl⟩ := Option.map_eq_some_iff.mp ha
    rfl
  · obtain ⟨a, -, ha⟩ := List.mem_filterMap.mp hp
    obtain ⟨f, -, rfl⟩ := Option.map_eq_some_iff.mp ha
    rfl

end Schema

namespace Request

variable {q : Request}

/-- The field `f` of the document is the mutation `v` of the entity `n`. -/
def Mutates (q : Request) (v : Verb) (n : String) (f : Field) : Prop :=
  ∃ t, TracedDefinition.type t ∈ q.traced ∧ (Source.mutation v n, f) ∈ t.fields

theorem mem_tracedMutationType_iff {v : Verb} {n : String} {f : Field} :
    (Source.mutation v n, f) ∈ q.tracedMutationType.fields ↔
      ∃ e ∈ q.exposedEntities, e.name = n ∧ v.flag e.flags = true ∧ f = v.mutation e := by
  constructor
  · intro h
    obtain ⟨e, he, h⟩ := List.mem_flatMap.mp h
    obtain ⟨w, hw, h⟩ := List.mem_map.mp h
    obtain ⟨hs, rfl⟩ := Prod.mk.inj h
    obtain ⟨rfl, rfl⟩ := Source.mutation.inj hs
    exact ⟨e, he, rfl, (List.mem_filter.mp hw).2, rfl⟩
  · rintro ⟨e, he, rfl, hv, rfl⟩
    exact List.mem_flatMap.mpr ⟨e, he, List.mem_map.mpr
      ⟨v, List.mem_filter.mpr ⟨v.mem_all, hv⟩, rfl⟩⟩

/-- **The mutations of a document are those of the exposed entities, as their flags ask for.** -/
theorem mutates_iff {v : Verb} {n : String} {f : Field} : q.Mutates v n f ↔
    ∃ e ∈ q.exposedEntities, e.name = n ∧ v.flag e.flags = true ∧ f = v.mutation e := by
  rw [← mem_tracedMutationType_iff]
  refine ⟨?_, fun h => ⟨q.tracedMutationType, by simp [traced], h⟩⟩
  rintro ⟨t, ht, hf⟩
  simp only [traced, tracedOperators, List.mem_append, List.mem_cons, List.mem_flatMap,
    List.mem_map, List.not_mem_nil, or_false, TracedDefinition.type.injEq, reduceCtorEq, and_false,
    exists_false] at ht
  rcases ht with (rfl | ⟨e, -, ht⟩) | rfl | rfl
  · obtain ⟨a, -, ha⟩ := List.mem_map.mp hf
    exact absurd (congrArg Prod.fst ha) (by simp)
  · exact absurd (not_isMutation_of_mem_tracedTypes ht _ hf) (by simp [Source.isMutation])
  · obtain ⟨e, -, he⟩ := List.mem_flatMap.mp hf
    obtain ⟨g, -, hg⟩ := List.mem_map.mp he
    exact absurd (congrArg Prod.fst hg) (by simp)
  · exact hf

/-! ## Keys that are missing -/

/-- A missing key is among the issues just if there is none. -/
theorem missingPrimaryKey_mem_issues_iff (h : q.registry.Settled) {e : Entity}
    (he : e ∈ q.registry.entities) :
    Issue.missingPrimaryKey e.name ∈ q.issues ↔ e.primaryKeys = [] := by
  rw [← List.count_pos_iff, (accounted h).missingKey e he, ← List.length_eq_zero_iff]
  split
  · next hk => exact iff_of_true Nat.one_pos hk
  · next hk => exact iff_of_false (Nat.lt_irrefl 0) hk

/-- Where nothing is reported an entity has one key. -/
theorem exists_primaryKeys_eq (h : q.registry.Settled) (hi : q.issues = []) {e : Entity}
    (he : e ∈ q.registry.entities) : ∃ p, e.primaryKeys = [p] := by
  have hmissing := (accounted h).missingKey e he
  have hseveral := (accounted h).severalKeys e he e.primaryKeys.length
  rw [hi, List.count_nil] at hmissing hseveral
  refine List.length_eq_one_iff.mp ?_
  split at hmissing
  · exact absurd hmissing Nat.zero_ne_one
  · split at hseveral
    · exact absurd hseveral Nat.zero_ne_one
    · omega

/-- What picks the rows of a mutation `f` of the entity `e`. -/
structure PicksByKey (q : Request) (e : Entity) (f : Field) : Prop where
  /-- The primary keys, in order of declaration. -/
  filters : rowFilters f = e.primaryKeys.map Prod.fst
  /-- Each of them once. -/
  nodup : (rowFilters f).Nodup
  /-- There is no filter just if the key is reported as missing. -/
  none_iff : rowFilters f = [] ↔ .missingPrimaryKey e.name ∈ q.issues
  /-- A strict text has one. -/
  strict : ∀ text, q.strictText = .ok text → ∃ key, rowFilters f = [key]

theorem picksByKey (h : q.registry.Settled) {e : Entity} (he : e ∈ q.registry.entities) {v : Verb}
    (hv : v.picksRows = true) : q.PicksByKey e (v.mutation e) where
  filters := rowFilters_mutation hv e
  nodup := by
    rw [rowFilters_mutation hv]
    exact nodup_primaryKeys e
  none_iff := by
    rw [rowFilters_mutation hv, List.map_eq_nil_iff, missingPrimaryKey_mem_issues_iff h he]
  strict text ht := by
    obtain ⟨p, hp⟩ := exists_primaryKeys_eq h (strictText_eq_ok_iff.mp ht).1 he
    exact ⟨p.1, by rw [rowFilters_mutation hv, hp]; rfl⟩

/-- **Updates and deletes pick their rows by the primary keys of the entity.**  In every document,
traced faithfully, the operator filters that such a mutation requires are the keys, each once and in
order of declaration.  There is none just if the entity has no key, which is reported; so in a strict
text there is always one. -/
theorem rows_picked_by_key (q : Request) (h : q.registry.Reachable) :
    q.Faithful ∧ ∀ v n f, q.Mutates v n f → v.picksRows = true →
      ∃ e ∈ q.registry.entities, e.name = n ∧
        f.name = v.word ++ Naming.capitalize e.forms.singular ∧ q.PicksByKey e f := by
  refine ⟨q.faithful, fun v n f hf hv => ?_⟩
  obtain ⟨e, he, rfl, -, rfl⟩ := mutates_iff.mp hf
  have he := q.exposedEntities_subset he
  exact ⟨e, he, rfl, v.name_mutation e, picksByKey h.settled he hv⟩

/-- In the bookshop books are deleted by their ISBN. -/
theorem rows_picked_by_key_bookshop :
    Registry.bookshop.Reachable ∧
      ({ registry := .bookshop } : Request).Mutates .delete "book"
        (deleteMutation Registry.book.complete) ∧
      rowFilters (deleteMutation Registry.book.complete) = ["isbn"] ∧
      Issue.missingPrimaryKey "book" ∉ ({ registry := .bookshop } : Request).issues := by
  let q : Request := { registry := .bookshop }
  have hbook : Registry.book.complete ∈ q.exposedEntities := by decide
  have hm : q.Mutates .delete "book" (deleteMutation Registry.book.complete) :=
    mutates_iff.mpr ⟨_, hbook, rfl, rfl, rfl⟩
  obtain ⟨e, he, hname, -, hkey⟩ :=
    (rows_picked_by_key q Registry.reachable_bookshop).2 _ _ _ hm rfl
  have hfilters : rowFilters (deleteMutation Registry.book.complete) = ["isbn"] := by decide
  refine ⟨Registry.reachable_bookshop, hm, hfilters, fun hn => ?_⟩
  rw [← hname, ← hkey.none_iff, hfilters] at hn
  exact nomatch hn

/-- A diary, whose lines have no key. -/
def diary : Request where
  registry := .ofList [
    { name := "line", attributes := .ofList [("text", { storageType := "STRING" })] }]

/-- **Without a key every row is picked**: lines are deleted by a mutation that takes no filter. -/
theorem diary_picks_all : ¬ ∀ q : Request, q.registry.Reachable → ∀ v n f, q.Mutates v n f →
    v.picksRows = true → rowFilters f ≠ [] := by
  intro h
  have hm : diary.Mutates .delete "line" ⟨"deleteLine", [], .namedRequired Scalar.int.name⟩ :=
    mutates_iff.mpr (by decide)
  exact h diary (Registry.reachable_ofList _) _ _ _ hm rfl rfl

end Request

end EntitySchema
