import EntitySchema.Registry.Reading

/-!
# Proofs/Registry/Reachable — what registering makes sure of

Completing an entity a second time changes nothing (`Entity.complete_complete`), so every entity of
a reachable registry is complete, and it stands under its own name (`Registry.Reachable.settled`).
Reading a text leads to a reachable registry as well.
-/

namespace EntitySchema

/-! ## Completing twice -/

/-- **Forms that are complete stay as they are.** -/
theorem Forms.complete_complete (name : String) (f : Forms) :
    (f.complete name).complete name = f.complete name := by
  by_cases hs : f.singular = ""
  · by_cases hp : f.plural = ""
    · by_cases hn : name = ""
      · simp [Forms.complete, hs, hp, hn]
      · simp [Forms.complete, hs, hp, hn]
    · simp [Forms.complete, hs, hp]
  · by_cases hp : f.plural = ""
    · simp [Forms.complete, hs, hp]
    · simp [Forms.complete, hs, hp]

theorem Association.complete_complete (key : String) (a : Association) :
    (a.complete key).complete key = a.complete key := by
  by_cases h : a.fieldName = ""
  · simp [Association.complete, h]
  · simp [Association.complete, h]

/-- **An entity that is complete stays as it is.** -/
theorem Entity.complete_complete (e : Entity) : e.complete.complete = e.complete := by
  have hf := Forms.complete_complete e.name e.forms
  have ht : e.complete.complete.attributes = e.complete.attributes :=
    OrderedMap.mapWithKey_idem (f := fun key (a : Attribute) =>
      { a with isTimestamp := e.isManaged key }) (fun _ _ => rfl) e.attributes
  have ha : e.complete.complete.associations = e.complete.associations :=
    OrderedMap.mapWithKey_idem Association.complete_complete e.associations
  calc e.complete.complete
      = { e.complete with
          forms := (e.forms.complete e.name).complete e.name
          attributes := e.complete.complete.attributes
          associations := e.complete.complete.associations } := rfl
    _ = e.complete := by rw [hf, ht, ha]; rfl

/-! ## The invariant of registering -/

/-- Every entity stands under its own name, with its derived data filled in. -/
def Registry.Settled (r : Registry) : Prop :=
  ∀ p ∈ r.table.toList, p.2.name = p.1 ∧ p.2.complete = p.2

namespace Registry

theorem settled_empty : Registry.empty.Settled := fun _ h => absurd h List.not_mem_nil

theorem Settled.register {r : Registry} (h : r.Settled) (e : Entity) : (r.register e).Settled := by
  intro p hp
  rcases OrderedMap.mem_put hp with rfl | hp
  · exact ⟨rfl, e.complete_complete⟩
  · exact h p hp

/-- **In a reachable registry every entity is complete and stands under its own name.** -/
theorem Reachable.settled {r : Registry} (h : r.Reachable) : r.Settled := by
  induction h with
  | empty => exact settled_empty
  | register e _ ih => exact ih.register e

/-- **What is read from a text is reachable by registering.** -/
theorem reachable_of_read {text : String} {r : Registry} (h : Registry.read text = .ok r) :
    r.Reachable := by
  obtain ⟨models, -, h⟩ := Json.bind_eq_ok.mp h
  obtain ⟨-, -, h⟩ := Json.bind_eq_ok.mp h
  obtain rfl := Except.ok.inj h
  exact reachable_ofModels models

/-- **Registering a list of entities fills the table with their complete forms.** -/
theorem table_ofList (es : List Entity) :
    (Registry.ofList es).table = .ofList (es.map fun e => (e.name, e.complete)) := by
  have hf : ∀ (es : List Entity) (r : Registry), (es.foldl Registry.register r).table
      = (es.map fun e => (e.name, e.complete)).foldl (fun m p => m.insert p.1 p.2) r.table := by
    intro es
    induction es with
    | nil => exact fun _ => rfl
    | cons e es ih => exact fun r => ih (r.register e)
  exact hf es empty

/-- Entities with different names are registered as they are listed. -/
theorem toList_ofList {es : List Entity} (h : (es.map Entity.name).Nodup) :
    (Registry.ofList es).table.toList = es.map fun e => (e.name, e.complete) := by
  rw [table_ofList]
  refine OrderedMap.toList_foldl_insert _ .empty ?_
  rw [OrderedMap.toList_empty, List.nil_append, List.map_map]
  exact h

theorem Settled.map_name {r : Registry} (h : r.Settled) : r.entities.map Entity.name = r.names := by
  rw [Registry.entities, Registry.names, OrderedMap.values, OrderedMap.keys, List.map_map]
  exact List.map_congr_left fun p hp => (h p hp).1

/-- No two entities of a settled registry share their name. -/
theorem Settled.nodup_name {r : Registry} (h : r.Settled) : (r.entities.map Entity.name).Nodup := by
  rw [h.map_name]
  exact r.table.nodup_keys

/-! ## A registry to look at -/

/-- An author: the books come under a field name that is not their key, and their count under the
name of an attribute; the agency of an author is not registered. -/
def author : Entity where
  name := "author"
  attributes := .ofList [
    ("id", { storageType := "INTEGER", primaryKey := true, autoIncrement := true }),
    ("booksCount", { storageType := "INTEGER" }),
    ("createdAt", { storageType := "DATE", allowNull := false }),
    ("mood", { storageType := "STRING", overrideType := some "Mood" })]
  associations := .ofList [
    ("works", { fieldName := "books", target := "book", multiplicity := .many }),
    ("agent", { fieldName := "agent", target := "agency", multiplicity := .one })]
  timestamps := some { updatedAt := none }

/-- A book, with its author. -/
def book : Entity where
  name := "book"
  attributes := .ofList [("isbn", { storageType := "STRING", primaryKey := true })]
  associations := .ofList [
    ("author", { fieldName := "author", target := "author", multiplicity := .one })]

/-- Authors and books. -/
def bookshop : Registry := .ofList [author, book]

theorem reachable_bookshop : bookshop.Reachable := reachable_ofList _

end Registry

end EntitySchema
