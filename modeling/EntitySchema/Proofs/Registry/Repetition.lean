import EntitySchema.Proofs.Json.Entries
import EntitySchema.Proofs.Registry.Respelling

/-!
# Proofs/Registry/Repetition — a name that comes twice keeps its first place and its last value

Entities, attributes and associations come under names, and nothing keeps a name from coming twice.
Whether entities are registered one by one, put together by calls or read from a text, what comes
under one name is filled in as `OrderedMap.FilledFrom` says; what is derived for an entity, when it
is registered, changes neither the place of a name nor the entry that its value comes from.

In a text the three maps stand inside one another.  An entity is taken for the last value under its
name, and so its attributes and associations are those of that value alone (`Entity.ReadFrom`).
-/

namespace EntitySchema

open Json

/-! ## Entities by calls -/

/-- A call that adds to an entity. -/
inductive Entity.Call
  | withAttribute (name : String) (a : Attribute)
  | withAssociation (a : Association)
  | hasMany (fieldName target : String)
  | hasOne (fieldName target : String)

namespace Entity.Call

/-- The entity that the call returns. -/
def run (e : Entity) : Call → Entity
  | withAttribute name a => e.withAttribute name a
  | withAssociation a => e.withAssociation a
  | hasMany fieldName target => e.hasMany fieldName target
  | hasOne fieldName target => e.hasOne fieldName target

/-- The attribute that the call adds, under its name. -/
def attribute? : Call → Option (String × Attribute)
  | withAttribute name a => some (name, a)
  | _ => none

/-- The association that the call adds, under its field name. -/
def association? : Call → Option (String × Association)
  | withAttribute _ _ => none
  | withAssociation a => some (a.fieldName, a)
  | hasMany fieldName target => some (fieldName, { fieldName, target, multiplicity := .many })
  | hasOne fieldName target => some (fieldName, { fieldName, target, multiplicity := .one })

theorem attributes_run (e : Entity) (c : Call) : (run e c).attributes =
    c.attribute?.elim e.attributes fun p => e.attributes.insert p.1 p.2 := by
  cases c
  all_goals rfl

theorem associations_run (e : Entity) (c : Call) : (run e c).associations =
    c.association?.elim e.associations fun p => e.associations.insert p.1 p.2 := by
  cases c
  all_goals rfl

/-- **Calls write into a map one after the other**, if each writes what it adds there. -/
theorem foldl_run {α : Type} {get : Entity → OrderedMap α} {added? : Call → Option (String × α)}
    (h : ∀ e c, get (run e c) = (added? c).elim (get e) fun p => (get e).insert p.1 p.2)
    (calls : List Call) (e : Entity) :
    get (calls.foldl run e) = .ofList ((get e).toList ++ calls.filterMap added?) := by
  rw [← OrderedMap.foldl_insert]
  induction calls generalizing e with
  | nil => rfl
  | cons c calls ih =>
    rw [List.foldl_cons, ih, h, List.filterMap_cons]
    cases added? c with
    | none => rfl
    | some p => rfl

end Entity.Call

/-! ## Entities in a text -/

namespace Entity

theorem writesAlone_attributes :
    WritesAlone fieldReaders "attributes" (Node.asMap Attribute.shape.take) attributes where
  own := ⟨_, rfl, writes_of fun _ _ => rfl⟩
  other := by
    simp only [fieldReaders, List.forall_mem_cons]
    refine ⟨?_, ?_, fun h => absurd rfl h, ?_, ?_, List.forall_mem_nil _⟩
    all_goals exact fun _ => spares_of fun _ _ => rfl

theorem writesAlone_associations :
    WritesAlone fieldReaders "associations" (Node.asMap Association.shape.take) associations where
  own := ⟨_, rfl, writes_of fun _ _ => rfl⟩
  other := by
    simp only [fieldReaders, List.forall_mem_cons]
    refine ⟨?_, ?_, ?_, fun h => absurd rfl h, ?_, List.forall_mem_nil _⟩
    all_goals exact fun _ => spares_of fun _ _ => rfl

/-- What is taken for an entity is an object. -/
theorem object_of_take {n : Node} {e : Entity} (h : Entity.take n = .ok e) :
    ∃ ms, n = .object ms none := by
  unfold Entity.take at h
  split at h
  · obtain ⟨r, -, h⟩ := bind_eq_ok.mp h
    obtain ⟨_, hf, -⟩ := bind_eq_ok.mp h
    exact ⟨_, congrArg _ (eq_none_of_pass hf)⟩
  · exact nomatch h
  · exact absurd h Node.refuse_ne_ok

/-- A registered entity comes from the value `v` under its name: it is what `v` is taken for,
completed, and its maps are filled from those in `v`. -/
structure ReadFrom (name : String) (v : Node) (d : Entity) : Prop where
  value : ∃ e, Entity.take v = .ok e ∧ d = { e with name }.complete
  attributes : ∃ entries, v.EntriesUnder "attributes" entries ∧
    d.attributes.FilledFrom entries fun column w a =>
      ∃ b, Attribute.shape.take w = .ok b ∧ a = { b with isTimestamp := d.isManaged column }
  associations : ∃ entries, v.EntriesUnder "associations" entries ∧
    d.associations.FilledFrom entries fun key w a =>
      ∃ b, Association.shape.take w = .ok b ∧ a = b.complete key

/-- The maps of an entity are filled from those under their keys. -/
theorem exists_entriesUnder_of_take {v : Node} {e : Entity} (h : Entity.take v = .ok e) :
    (∃ entries, v.EntriesUnder "attributes" entries ∧
      e.attributes.FilledFrom entries fun _ w a => Attribute.shape.take w = .ok a) ∧
    ∃ entries, v.EntriesUnder "associations" entries ∧
      e.associations.FilledFrom entries fun _ w a => Association.shape.take w = .ok a := by
  obtain ⟨ms, rfl⟩ := object_of_take h
  obtain ⟨r, hr, q, -, rfl⟩ := take_object_eq_ok_iff.mp h
  exact ⟨writesAlone_attributes.exists_entriesUnder rfl hr,
    writesAlone_associations.exists_entriesUnder rfl hr⟩

/-- **What is taken for an entity is registered as it stands in the text.** -/
theorem readFrom_complete {name : String} {v : Node} {e : Entity} (h : Entity.take v = .ok e) :
    ReadFrom name v { e with name }.complete := by
  obtain ⟨⟨as, has, hattributes⟩, bs, hbs, hassociations⟩ := exists_entriesUnder_of_take h
  exact {
    value := ⟨e, h, rfl⟩
    attributes := ⟨as, has, hattributes.mapWithKey fun column a =>
      ({ a with isTimestamp := e.isManaged column } : Attribute)⟩
    associations := ⟨bs, hbs, hassociations.mapWithKey Association.complete⟩ }

end Entity

/-! ## Registries -/

namespace Registry

/-- The entries of the map of entities.  A registry text is an object with the map under its key, or
the array of the map alone. -/
inductive ModelEntries : Node → List (String × Node) → Prop
  | object {n : Node} {entries : List (String × Node)} :
      n.EntriesUnder "models" entries → ModelEntries n entries
  | array {v : Node} {entries : List (String × Node)} :
      v.Entries entries → ModelEntries (.array [v] none) entries
  | nothing : ModelEntries (.array [] none) []

theorem writesAlone_models :
    WritesAlone shape.fields "models" (Node.asMap Entity.take) id where
  own := ⟨_, rfl, writes_of fun _ _ => rfl⟩
  other := by
    simp only [shape, List.forall_mem_cons]
    exact ⟨fun h => absurd rfl h, nofun⟩

/-- **The entities of a text are taken from the entries of its one map.** -/
theorem exists_modelEntries {n : Node} {models : OrderedMap Entity}
    (h : shape.take n = .ok models) : ∃ entries, ModelEntries n entries ∧
      models.FilledFrom entries fun _ v e => Entity.take v = .ok e := by
  unfold Shape.take at h
  split at h
  · obtain ⟨r, hr, h⟩ := bind_eq_ok.mp h
    obtain ⟨_, hf, h⟩ := bind_eq_ok.mp h
    obtain ⟨_, -, h⟩ := bind_eq_ok.mp h
    obtain rfl := eq_none_of_pass hf
    obtain rfl := Except.ok.inj h
    obtain ⟨entries, hentries, hfilled⟩ := writesAlone_models.exists_entriesUnder rfl hr
    exact ⟨entries, .object hentries, hfilled⟩
  · exact nomatch h
  · next items f =>
    cases items with
    | nil =>
      obtain ⟨_, -, h⟩ := bind_eq_ok.mp h
      obtain ⟨-, rfl, rfl⟩ := Shape.takeItems_nil_eq_ok h
      exact ⟨[], .nothing, OrderedMap.filledFrom_of_forall₂ .nil⟩
    | cons v items =>
      obtain ⟨set, hset, h⟩ := bind_eq_ok.mp h
      obtain ⟨m, hm, rfl⟩ := map_eq_ok.mp hset
      obtain ⟨rfl, rfl, rfl⟩ := Shape.takeItems_nil_eq_ok h
      obtain ⟨entries, hentries, hfilled⟩ := Node.exists_entries_of_asMap hm
      exact ⟨entries, .array hentries, hfilled⟩
  · exact absurd h Node.refuse_ne_ok

/-- A text gives every entity its key for a name, and completes it. -/
theorem table_ofModels (models : OrderedMap Entity) : (ofModels models).table =
    models.mapWithKey fun name e => { e with name }.complete := by
  refine OrderedMap.ext_toList ?_
  rw [ofModels, toList_ofList, List.map_map, OrderedMap.toList_mapWithKey]
  · rfl
  · rw [List.map_map]
    exact models.nodup_keys

/-- **First position, last value.**  Entities that are registered one by one, the attributes and
associations that calls add to an entity, and the entities of a text with their attributes and
associations all keep the order in which their names first come up, and each is what its last entry
makes it. -/
theorem first_position_last_value :
    (∀ es : List Entity, (ofList es).table.FilledFrom (es.map fun e => (e.name, e))
      fun _ e d => d = e.complete) ∧
    (∀ (e : Entity) (calls : List Entity.Call),
      (calls.foldl Entity.Call.run e).attributes.FilledFrom
        (e.attributes.toList ++ calls.filterMap Entity.Call.attribute?) (fun _ a b => b = a) ∧
      (calls.foldl Entity.Call.run e).associations.FilledFrom
        (e.associations.toList ++ calls.filterMap Entity.Call.association?) fun _ a b => b = a) ∧
    ∀ (text : String) (r : Registry), read text = .ok r →
      ∃ n : Node, n.Spells text ∧
        ∃ entries, ModelEntries n entries ∧ r.table.FilledFrom entries Entity.ReadFrom := by
  refine ⟨fun es => ?_, fun e calls => ⟨?_, ?_⟩, fun text r h => ?_⟩
  · rw [table_ofList]
    refine OrderedMap.filledFrom_of_forall₂ ?_
    rw [List.forall₂_map_left_iff, List.forall₂_map_right_iff, List.forall₂_same]
    exact fun _ _ => ⟨rfl, rfl⟩
  · rw [Entity.Call.foldl_run Entity.Call.attributes_run]
    exact OrderedMap.filledFrom_ofList _
  · rw [Entity.Call.foldl_run Entity.Call.associations_run]
    exact OrderedMap.filledFrom_ofList _
  · obtain ⟨n, hn, models, htake, rfl⟩ := read_eq_ok_iff.mp h
    obtain ⟨entries, hentries, hfilled⟩ := exists_modelEntries htake
    refine ⟨n, hn, entries, hentries, ?_⟩
    rw [table_ofModels]
    refine (hfilled.mapWithKey _).imp fun name v d hd => ?_
    obtain ⟨e, he, rfl⟩ := hd
    exact Entity.readFrom_complete he

/-- A bee between two hives; its wings come twice, and so does its home. -/
def swarm : Value :=
  .object [("models", .object [
    ("hive", .object []),
    ("bee", .object [
      ("attributes", .object [
        ("wings", .object [("type", .string "TEXT")]),
        ("born", .object [("type", .string "DATE")]),
        ("wings", .object [("type", .string "INTEGER")])]),
      ("associations", .object [
        ("home", .object [("target", .string "tree"), ("multiplicity", .string "one")]),
        ("sister", .object [("target", .string "bee"), ("multiplicity", .string "many")]),
        ("home", .object [("target", .string "hive"), ("multiplicity", .string "one")])])]),
    ("hive", .object [("naming", .object [("singular", .string "nest")])])])]

/-- The swarm is read, and each name keeps its first position and its last value. -/
theorem first_position_last_value_swarm : ∃ r, read swarm.text = .ok r ∧
    ∃ n : Node, n.Spells swarm.text ∧
      ∃ entries, ModelEntries n entries ∧ r.table.FilledFrom entries Entity.ReadFrom := by
  have hok : (shape.take swarm.node).isOk = true := by decide +kernel
  obtain ⟨models, htake⟩ := exists_eq_ok_of_isOk hok
  have hr := read_eq_ok_iff.mpr ⟨swarm.node, swarm.node_spells, models, htake, rfl⟩
  exact ⟨_, hr, first_position_last_value.2.2 _ _ hr⟩

example : (shape.take swarm.node).toOption.map (fun models =>
    (ofModels models).entities.map fun e =>
      (e.forms.singular, e.attributes.values.map Attribute.storageType,
        e.associations.values.map Association.target)) =
    some [("nest", [], []), ("bee", ["INTEGER", "DATE"], ["hive", "bee"])] := by decide +kernel

end Registry

end EntitySchema
