import EntitySchema.Proofs.Registry.Reachable

/-!
# Proofs/Registry/Invariant — what holds of every registry

A registry comes about by registering one entity after the other, from a list of entities or from a
text (`Registry.Obtained`).  Whatever the entities said about themselves, in the end each stands once
and under its own name, its derived data are those that its declaration asks for, and registering it
again changes nothing (`Registry.Sound`).

All of it follows from what one registration does: it completes the entity, a completed entity is
filled in (`Entity.filled_complete`), and completing it again changes nothing.
-/

namespace EntitySchema

/-! ## What completing fills in -/

/-- The derived data of an entity are in place: forms are empty only where there is nothing to derive
them from, the managed timestamps are marked and nothing else is, and an association has a field name
unless its key is empty. -/
structure Entity.Filled (e : Entity) : Prop where
  singular : e.forms.singular = "" → e.name = ""
  plural : e.forms.plural = "" → e.forms.singular = ""
  timestamp : ∀ p ∈ e.attributes.toList, p.2.isTimestamp = true ↔
    ∃ t, e.timestamps = some t ∧ (t.createdAt = some p.1 ∨ t.updatedAt = some p.1)
  fieldName : ∀ p ∈ e.associations.toList, p.2.fieldName = "" → p.1 = ""

theorem Forms.name_eq_empty {name : String} {f : Forms} (h : (f.complete name).singular = "") :
    name = "" := by
  by_cases hs : f.singular = ""
  · rwa [Forms.complete, if_pos hs] at h
  · rw [Forms.complete, if_neg hs] at h
    exact absurd h hs

theorem Naming.eq_empty_of_pluralize {word : String} (h : Naming.pluralize word = "") :
    word = "" := by
  by_cases hw : word = ""
  · exact hw
  · have hl := Naming.length_lt_pluralize hw
    rw [h] at hl
    exact absurd hl (Nat.not_lt_zero _)

theorem Forms.singular_eq_empty {name : String} {f : Forms}
    (h : (f.complete name).plural = "") : (f.complete name).singular = "" := by
  by_cases hp : f.plural = ""
  · rw [Forms.complete, if_pos hp] at h
    exact Naming.eq_empty_of_pluralize h
  · rw [Forms.complete, if_neg hp] at h
    exact absurd h hp

theorem Entity.isManaged_iff {e : Entity} {column : String} : e.isManaged column = true ↔
    ∃ t, e.timestamps = some t ∧ (t.createdAt = some column ∨ t.updatedAt = some column) := by
  simp [Entity.isManaged, Timestamps.contains, Option.any_eq_true]

theorem Association.key_eq_empty {key : String} {a : Association}
    (h : (a.complete key).fieldName = "") : key = "" := by
  by_cases ha : a.fieldName = ""
  · rwa [Association.complete, if_pos ha] at h
  · rw [Association.complete, if_neg ha] at h
    exact absurd h ha

/-- **A completed entity has its derived data in place.** -/
theorem Entity.filled_complete (e : Entity) : e.complete.Filled where
  singular := Forms.name_eq_empty
  plural := Forms.singular_eq_empty
  timestamp := by
    intro p hp
    obtain ⟨q, -, rfl⟩ := List.mem_map.mp hp
    exact Entity.isManaged_iff
  fieldName := by
    intro p hp h
    obtain ⟨q, -, rfl⟩ := List.mem_map.mp hp
    exact Association.key_eq_empty h

/-- The entity with its attributes marked as timestamps at will. -/
def Entity.marked (e : Entity) (marks : String → Bool) : Entity :=
  { e with attributes := e.attributes.mapWithKey fun key a => { a with isTimestamp := marks key } }

/-- **Marks made beforehand have no say.** -/
theorem Entity.complete_marked (e : Entity) (marks : String → Bool) :
    (e.marked marks).complete = e.complete := by
  have ha : (e.marked marks).complete.attributes = e.complete.attributes :=
    OrderedMap.ext_toList (List.map_map.trans rfl)
  calc (e.marked marks).complete
      = { e.complete with attributes := (e.marked marks).complete.attributes } := rfl
    _ = e.complete := by rw [ha]

/-! ## Registries -/

namespace Registry

/-- The registries that can be obtained: the empty one, by registering one more entity, from a list
of entities, and from a text that is read without fault. -/
inductive Obtained : Registry → Prop
  | empty : Obtained .empty
  | register {r : Registry} (e : Entity) : Obtained r → Obtained (r.register e)
  | ofList (es : List Entity) : Obtained (.ofList es)
  | read {text : String} {r : Registry} : Registry.read text = .ok r → Obtained r

/-- Lists and texts lead no further than registering does. -/
theorem Obtained.reachable {r : Registry} (h : r.Obtained) : r.Reachable := by
  induction h with
  | empty => exact .empty
  | register e _ ih => exact .register e ih
  | ofList es => exact reachable_ofList es
  | read h => exact reachable_of_read h

/-- What registering makes sure of. -/
structure Sound (r : Registry) : Prop where
  /-- Every entity stands under its own name. -/
  ownName : ∀ p ∈ r.table.toList, p.2.name = p.1
  /-- No name occurs twice. -/
  nodup_name : (r.entities.map Entity.name).Nodup
  /-- Every entity has its derived data in place. -/
  filled : ∀ e ∈ r.entities, e.Filled
  /-- An entity that is taken out and registered again changes nothing. -/
  register_self : ∀ e ∈ r.entities, r.register e = r

/-- The entity as it stands is written where it stands. -/
theorem Settled.register_self {r : Registry} (h : r.Settled) {e : Entity} (he : e ∈ r.entities) :
    r.register e = r := by
  obtain ⟨⟨key, d⟩, hp, rfl⟩ := List.mem_map.mp he
  obtain ⟨hname, hcomplete⟩ := h _ hp
  have hget : r.table.get? key = some d := OrderedMap.get?_eq_some_iff.mpr hp
  dsimp only at hname hcomplete
  rw [Registry.register, hcomplete, hname, OrderedMap.insert_eq_self hget]

theorem Settled.sound {r : Registry} (h : r.Settled) : r.Sound where
  ownName p hp := (h p hp).1
  nodup_name := h.nodup_name
  filled e he := by
    obtain ⟨p, hp, rfl⟩ := List.mem_map.mp he
    rw [← (h p hp).2]
    exact p.2.filled_complete
  register_self _ := h.register_self

/-- **The invariant of all registries.**  However a registry was obtained, each of its entities
stands once and under its own name, has its derived data in place, and leaves the registry as it is
when it is registered again; and what an entity claimed about its timestamps has no say. -/
theorem Obtained.invariant {r : Registry} (h : r.Obtained) :
    r.Sound ∧ ∀ (e : Entity) (marks : String → Bool),
      r.register (e.marked marks) = r.register e := by
  refine ⟨h.reachable.settled.sound, fun e marks => ?_⟩
  rw [Registry.register, Registry.register, Entity.complete_marked]
  rfl

/-- A note: half of its forms are given, and its title is marked for no reason. -/
def note : Entity where
  name := "note"
  forms := { plural := "notebook" }
  attributes := .ofList [
    ("id", { storageType := "INTEGER", primaryKey := true }),
    ("title", { storageType := "STRING", isTimestamp := true }),
    ("madeAt", { storageType := "DATE" })]
  associations := .ofList [
    ("writer", { fieldName := "", target := "author", multiplicity := .one })]
  timestamps := some { createdAt := some "madeAt", updatedAt := none }

/-- A note among the books of the bookshop. -/
theorem sound_bookshop_note :
    (bookshop.register note).Obtained ∧ (bookshop.register note).Sound ∧
      (bookshop.register note).register note = bookshop.register note :=
  have h : (bookshop.register note).Obtained := .register note (.ofList _)
  ⟨h, (Obtained.invariant h).1, by decide⟩

end Registry

end EntitySchema
