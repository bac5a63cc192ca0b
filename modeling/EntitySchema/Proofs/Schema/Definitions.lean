import EntitySchema.Proofs.Registry.Reachable
import EntitySchema.Schema.Request

/-!
# Proofs/Schema/Definitions — what a document is made of

Which types a document declares (`Request.type_mem_document_iff`), which entities the root types
take their fields from, which mutations an entity has, what an argument made from an attribute is
called, and what an association that is resolved leads to: an entity of the registry, whose type
name it carries.
-/

namespace EntitySchema

open Sdl Schema

/-! ## Entities found -/

theorem Registry.mem_entities_of_get? {r : Registry} {name : String} {e : Entity}
    (h : r.get? name = some e) : e ∈ r.entities :=
  List.mem_map.mpr ⟨(name, e), OrderedMap.get?_eq_some_iff.mp h, rfl⟩

/-- An entity is found under its own name. -/
theorem Registry.Settled.name_of_get? {r : Registry} (h : r.Settled) {name : String} {e : Entity}
    (he : r.get? name = some e) : e.name = name :=
  (h _ (OrderedMap.get?_eq_some_iff.mp he)).1

/-- A resolved association leads to the entity registered under the name that matched. -/
theorem Registry.get?_of_resolve? {r : Registry} {a : Association} {t : Target}
    (h : r.resolve? a = some t) : r.get? t.key = some t.entity := by
  rw [Registry.resolve?, List.findSome?_eq_some_iff] at h
  obtain ⟨-, key, -, -, ht, -⟩ := h
  obtain ⟨e, he, rfl⟩ := Option.map_eq_some_iff.mp ht
  exact he

/-- **The type name of a resolved association is that of the entity it leads to.** -/
theorem Registry.Settled.typeName_of_resolve? {r : Registry} (h : r.Settled) {a : Association}
    {t : Target} (ht : r.resolve? a = some t) : t.typeName = t.entity.typeName :=
  congrArg Naming.typeName (h.name_of_get? (Registry.get?_of_resolve? ht)).symm

/-! ## Arguments made from attributes -/

namespace Schema

variable {n : String} {a : Attribute} {x : Argument}

theorem name_of_mem_searchArgument? {e : Entity} (h : x ∈ searchArgument? e n a) : x.name = n := by
  rw [searchArgument?, Option.mem_def] at h
  split at h
  · exact absurd h (by simp)
  · obtain rfl := Option.some.inj h
    rfl

theorem name_of_mem_createArgument? (h : x ∈ createArgument? n a) : x.name = n := by
  rw [createArgument?, Option.mem_def] at h
  split at h
  · exact absurd h (by simp)
  split at h
  · split at h
    · exact absurd h (by simp)
    · obtain rfl := Option.some.inj h
      rfl
  · obtain rfl := Option.some.inj h
    rfl

theorem name_of_mem_updateArgument? (h : x ∈ updateArgument? n a) : x.name = n := by
  rw [updateArgument?, Option.mem_def] at h
  split at h
  · exact absurd h (by simp)
  · obtain rfl := Option.some.inj h
    rfl

end Schema

/-! ## Mutations by verb -/

/-- What a mutation does to the rows of an entity. -/
inductive Verb
  | create
  | update
  | delete
  deriving DecidableEq

namespace Verb

/-- The verbs, in the order of the mutations. -/
def all : List Verb := [create, update, delete]

/-- The word that the name of a mutation starts with. -/
def word : Verb → String
  | create => "create"
  | update => "update"
  | delete => "delete"

/-- The flag that asks for a mutation. -/
def flag : Verb → Flags → Bool
  | create => Flags.create
  | update => Flags.update
  | delete => Flags.delete

/-- The mutation of an entity. -/
def mutation : Verb → Entity → Field
  | create => createMutation
  | update => updateMutation
  | delete => deleteMutation

theorem mem_all : ∀ v : Verb, v ∈ all
  | create => by decide
  | update => by decide
  | delete => by decide

instance (p : Verb → Prop) [DecidablePred p] : Decidable (∀ v, p v) :=
  decidable_of_iff (∀ v ∈ all, p v) ⟨fun h v => h v v.mem_all, fun h v _ => h v⟩

/-- **A mutation is named for its verb and the capitalized singular.** -/
theorem name_mutation (v : Verb) (e : Entity) :
    (v.mutation e).name = v.word ++ Naming.capitalize e.forms.singular := by
  cases v <;> rfl

/-- Words are equally long, so a name tells the verb and the rest that it was made from. -/
theorem word_append_inj {v w : Verb} {a b : String} (h : v.word ++ a = w.word ++ b) :
    v = w ∧ a = b := by
  have hlen : ∀ u : Verb, u.word.toList.length = 6 := fun u => by cases u <;> decide
  have hl := congrArg String.toList h
  rw [String.toList_append, String.toList_append] at hl
  obtain ⟨hvw, hab⟩ := List.append_inj hl ((hlen v).trans (hlen w).symm)
  refine ⟨?_, String.toList_inj.mp hab⟩
  have hword : v.word = w.word := String.toList_inj.mp hvw
  revert hword
  cases v <;> cases w <;> decide

end Verb

/-- **The mutations of an entity are those whose flags are set.** -/
theorem Schema.mutationFields_eq (e : Entity) :
    mutationFields e = (Verb.all.filter (·.flag e.flags)).map (·.mutation e) := by
  rw [mutationFields]
  cases hc : e.flags.create <;> cases hu : e.flags.update <;> cases hd : e.flags.delete <;>
    simp [Verb.all, Verb.flag, Verb.mutation, List.filter, hc, hu, hd]

namespace Request

/-- Only registered entities are exposed. -/
theorem exposedEntities_subset (q : Request) : q.exposedEntities ⊆ q.registry.entities := by
  rw [Request.exposedEntities]
  split
  · exact List.Subset.refl _
  · intro e he
    obtain ⟨name, -, hn⟩ := List.mem_filterMap.mp he
    exact Registry.mem_entities_of_get? hn

/-! ## Types declared -/

/-- **The types of a document**: the operators, three types per entity, and the two root types. -/
theorem type_mem_document_iff {q : Request} {t : TypeDefinition} :
    Definition.type t ∈ q.document ↔
      t = operatorInputType ∨
      (∃ e ∈ q.registry.entities, t = (entityTypes q.registry e).object ∨
        t = (entityTypes q.registry e).createInput ∨ t = (entityTypes q.registry e).updateInput) ∨
      t = q.queryType ∨ t = q.mutationType := by
  simp [Request.document, entityDefinitions, EntityTypes.definitions]

end Request

end EntitySchema
