import EntitySchema.Proofs.Json.RoundTrip
import EntitySchema.Proofs.Registry.Reachable
import EntitySchema.Registry.Written

/-!
# Proofs/Registry/RoundTrip — a written registry is read back

Members written for the fields of a record are taken back one by one (`Json.Written.takeMembers`),
and so are attributes, associations and entities, each without what is not written about it
(`Entity.told`).  Registering fills that in again (`Entity.complete_told`), except that the field
name of an association comes from its key then.  So every registry is read back up to those field
names (`Registry.rekeyed`), one that was itself read included (`Registry.reachable_of_read`).
-/

namespace EntitySchema

open Json

/-! ## Taking what was written -/

namespace Json

theorem Taken.ok_bind {α β : Type} (a : α) (f : α → Taken β) :
    (Except.ok a : Taken α) >>= f = f a := rfl

theorem Node.asString_node (s : String) : (Value.string s).node.asString = .ok s := by
  rw [Value.node, Node.asString, Literal.text_ofText, Taken.ofText]

theorem Node.asBool_node (b : Bool) : (Value.bool b).node.asBool = .ok b := rfl

/-- A column that may be disabled is read as it was written. -/
theorem Node.asColumn_node (c : Option String) :
    (columnToJson c).node.asOption Node.asString = .ok c := by
  cases c with
  | none => rfl
  | some s => exact congrArg (Except.map some) (Node.asString_node s)

variable {σ : Type} {all : List (FieldReader σ)} {other : Node → Taken Unit}

theorem take_optional {α : Type} {key : String} {take : Node → Taken α} {set : α → σ → σ} {n : Node}
    {a : α} (h : take n = .ok a) : (Json.optional key take set).take n = .ok (set a) :=
  congrArg (Except.map set) h

theorem take_required {α : Type} {key : String} {take : Node → Taken α} {set : α → σ → σ} {n : Node}
    {a : α} (h : take n = .ok a) : (Json.required key take set).take n = .ok (set a) :=
  congrArg (Except.map set) h

/-- Members written for fields, in the order of the fields; one that is not required may be left
out, and members with unknown keys may stand between.  Taking the members changes a record by the
function given. -/
inductive Written (all : List (FieldReader σ)) (other : Node → Taken Unit) :
    List (FieldReader σ) → List (String × Value) → (σ → σ) → Prop
  | nil : Written all other [] [] id
  | field {f fields v g members set} : f.take v.node = .ok g →
      Written all other fields members set →
        Written all other (f :: fields) ((f.key, v) :: members) (set ∘ g)
  | left {f fields members set} : f.required = false → Written all other fields members set →
      Written all other (f :: fields) members set
  | unknown {fields key v members set} : key ∉ all.map FieldReader.key → other v.node = .ok () →
      Written all other fields members set →
        Written all other fields ((key, v) :: members) set

theorem find?_key {f : FieldReader σ} : ∀ {all : List (FieldReader σ)},
    (all.map FieldReader.key).Nodup → f ∈ all → all.find? (·.key == f.key) = some f
  | [], _, h => absurd h List.not_mem_nil
  | g :: all, hd, h => by
      rw [List.map_cons, List.nodup_cons] at hd
      rcases List.mem_cons.mp h with rfl | h
      · exact List.find?_cons_of_pos (beq_self_eq_true _)
      · have hne : g.key ≠ f.key := fun e => hd.1 (e ▸ List.mem_map_of_mem h)
        rw [List.find?_cons_of_neg (by simpa using hne)]
        exact find?_key hd.2 h

/-- **Members written for fields are taken as they were meant.** -/
theorem Written.takeMembers (hall : (all.map FieldReader.key).Nodup)
    {fields : List (FieldReader σ)} {members : List (String × Value)} {set : σ → σ}
    (h : Written all other fields members set) : ∀ (seen : List String) (s : σ),
      fields.Sublist all → (∀ f ∈ fields, f.key ∉ seen) →
        ∃ seen', Shape.takeMembers all other seen s (memberNodes members) = .ok (seen', set s) ∧
          (∀ k ∈ seen, k ∈ seen') ∧ ∀ f ∈ fields, f.required = true → f.key ∈ seen' := by
  induction h with
  | nil => exact fun seen s _ _ => ⟨seen, rfl, fun _ hk => hk, by simp⟩
  | @field f fields v g members set ht _ ih =>
    intro seen s hsub hseen
    have hf : f ∈ all := hsub.subset List.mem_cons_self
    have hs : seen.contains f.key = false := by simpa using hseen f List.mem_cons_self
    have hd : f.key ∉ fields.map FieldReader.key :=
      (List.nodup_cons.mp (hall.sublist (hsub.map FieldReader.key))).1
    obtain ⟨seen', he, hk, hr⟩ := ih (f.key :: seen) (g s) (List.sublist_of_cons_sublist hsub) (by
      intro f' hf' hm
      rcases List.mem_cons.mp hm with e | hm
      · exact hd (e ▸ List.mem_map_of_mem hf')
      · exact hseen f' (List.mem_cons_of_mem _ hf') hm)
    refine ⟨seen', ?_, fun k hm => hk k (List.mem_cons_of_mem _ hm), fun f' hf' hreq => ?_⟩
    · rw [memberNodes, Shape.takeMembers, Literal.text_ofText, Taken.ofText, Taken.ok_bind,
        find?_key hall hf]
      simp only [hs, ht, Taken.ok_bind, Bool.false_eq_true, if_false]
      exact he
    · rcases List.mem_cons.mp hf' with rfl | hf'
      · exact hk _ List.mem_cons_self
      · exact hr f' hf' hreq
  | @left f fields members set hf _ ih =>
    intro seen s hsub hseen
    obtain ⟨seen', he, hk, hr⟩ := ih seen s (List.sublist_of_cons_sublist hsub)
      fun f' hf' => hseen f' (List.mem_cons_of_mem _ hf')
    refine ⟨seen', he, hk, fun f' hf' hreq => ?_⟩
    rcases List.mem_cons.mp hf' with rfl | hf'
    · rw [hf] at hreq
      exact absurd hreq (by decide)
    · exact hr f' hf' hreq
  | @unknown fields key v members set hkey ho _ ih =>
    intro seen s hsub hseen
    obtain ⟨seen', he, hkr⟩ := ih seen s hsub hseen
    have hf : all.find? (·.key == key) = none := by
      rw [List.find?_eq_none]
      exact fun f hf e => hkey (List.mem_map.mpr ⟨f, hf, by simpa using e⟩)
    refine ⟨seen', ?_, hkr⟩
    rw [memberNodes, Shape.takeMembers, Literal.text_ofText, Taken.ofText, Taken.ok_bind, hf]
    simp only [ho, Taken.ok_bind]
    exact he

/-- **A record written as an object is taken back.** -/
theorem Shape.take_object (shape : Shape σ) (hall : (shape.fields.map FieldReader.key).Nodup)
    {members : List (String × Value)} {set : σ → σ}
    (h : Written shape.fields (fun n => .ofText n.skip) shape.fields members set) :
    shape.take (Value.object members).node = .ok (set shape.initial) := by
  obtain ⟨seen, he, -, hr⟩ := h.takeMembers hall [] shape.initial (List.Sublist.refl _)
    fun _ _ => List.not_mem_nil
  have hreq : shape.fields.find? (fun f => f.required && !seen.contains f.key) = none := by
    rw [List.find?_eq_none]
    intro f hf hb
    simp only [Bool.and_eq_true, Bool.not_eq_true', List.contains_eq_mem,
      decide_eq_false_iff_not] at hb
    exact hb.2 (hr f hf hb.1)
  rw [Value.node, Shape.take, Shape.ofMembers, he, Taken.ok_bind]
  simp only [pass, Taken.ofText, Taken.ok_bind, Shape.checkRequired, hreq]
  rfl

end Json

theorem Forms.take_toJson (f : Forms) : Forms.shape.take f.toJson.node = .ok f :=
  Forms.shape.take_object (by decide) <|
    .field (take_optional (Node.asString_node f.singular)) <|
    .field (take_optional (Node.asString_node f.plural)) <|
    .nil

theorem Timestamps.take_toJson (t : Timestamps) : Timestamps.shape.take t.toJson.node = .ok t :=
  Timestamps.shape.take_object (by decide) <|
    .field (take_optional (Node.asColumn_node t.createdAt)) <|
    .field (take_optional (Node.asColumn_node t.updatedAt)) <|
    .nil

/-- A text that may be absent is written as a member or left out. -/
theorem Json.Written.text {σ : Type} {all fields : List (FieldReader σ)} {other : Node → Taken Unit}
    {members : List (String × Value)} {g : σ → σ} {key : String}
    {set : Option String → σ → σ} (o : Option String) (h : Written all other fields members g) :
    Written all other (Json.optional key (Node.asOption Node.asString) set :: fields)
      (optionalMember key o ++ members) (g ∘ if o.isSome then set o else id) := by
  cases o with
  | none => exact .left rfl h
  | some s => exact .field (take_optional (congrArg (Except.map some) (Node.asString_node s))) h

theorem Attribute.take_toJson (a : Attribute) :
    Attribute.shape.take a.toJson.node = .ok { a with isTimestamp := false } := by
  refine (Attribute.shape.take_object (by decide) <|
    .field (take_required (Node.asString_node a.storageType)) <|
    .field (take_optional (Node.asBool_node a.primaryKey)) <|
    .field (take_optional (Node.asBool_node a.autoIncrement)) <|
    .field (take_optional (Node.asBool_node a.allowNull)) <|
    .text a.overrideType <|
    .field (take_optional (Node.asBool_node a.searchable)) <|
    .field (take_optional (Node.asBool_node a.creatable)) <|
    .field (take_optional (Node.asBool_node a.updatable)) <|
    .nil).trans ?_
  obtain ⟨_, _, _, _, overrideType, _, _, _, _⟩ := a
  cases overrideType <;> rfl

theorem Multiplicity.take_word (m : Multiplicity) :
    Multiplicity.take (Value.string m.word).node = .ok m := by
  rw [Value.node, Multiplicity.take, Literal.text_ofText, Taken.ofText, Taken.ok_bind]
  cases m <;> rfl

theorem Association.take_toJson (a : Association) :
    Association.shape.take a.toJson.node = .ok { a with fieldName := "" } := by
  refine (Association.shape.take_object (by decide) <|
    .left rfl <|
    .field (take_required (Node.asString_node a.target)) <|
    .text a.name <|
    .field (take_required (Multiplicity.take_word a.multiplicity)) <|
    .nil).trans ?_
  obtain ⟨_, _, name, _⟩ := a
  cases name <;> rfl

/-- Written members are taken into a map one by one. -/
theorem Json.Node.takeMembers_toJson {α β : Type} {take : Node → Taken β} {write : α → Value}
    {f : α → β} (h : ∀ a, take (write a).node = .ok (f a)) :
    ∀ (l : List (String × α)) (m : OrderedMap β),
      Node.takeMembers take m (memberNodes (l.map fun p => (p.1, write p.2)))
        = .ok ((l.map fun p => (p.1, f p.2)).foldl (fun m p => m.insert p.1 p.2) m)
  | [], m => rfl
  | p :: l, m => by
      rw [List.map_cons, memberNodes, Node.takeMembers, Literal.text_ofText, Taken.ofText,
        Taken.ok_bind, h, Taken.ok_bind, takeMembers_toJson h l]
      rfl

/-- **A written map is taken back with its keys in their order.** -/
theorem OrderedMap.take_toJson {α β : Type} {take : Node → Taken β} {write : α → Value}
    {f : α → β} (h : ∀ a, take (write a).node = .ok (f a)) (m : OrderedMap α) :
    Node.asMap take (m.toJson write).node = .ok (m.mapWithKey fun _ => f) := by
  have hd := (m.mapWithKey fun _ => f).nodup_keys
  rw [OrderedMap.toJson, Value.node, Node.asMap, Node.takeMembers_toJson h]
  refine congrArg Except.ok (OrderedMap.ext_toList ?_)
  exact OrderedMap.toList_foldl_insert _ .empty hd

/-- What a text tells about an entity: all but its name, the field names of its associations and
which attributes are managed. -/
def Entity.told (e : Entity) : Entity :=
  { e with
    name := ""
    attributes := e.attributes.mapWithKey fun _ a => { a with isTimestamp := false }
    associations := e.associations.mapWithKey fun _ a => { a with fieldName := "" } }

/-- The members that an entity is written as. -/
def Entity.members (e : Entity) : List (String × Value) :=
  [("naming", e.forms.toJson), ("attributes", e.attributes.toJson Attribute.toJson),
    ("associations", e.associations.toJson Association.toJson)] ++
  e.flags.members ++ timestampMembers e.timestamps

theorem Json.Written.timestamps {all : List (FieldReader Entity)} {other : Node → Taken Unit}
    {set : Option Timestamps → Entity → Entity} : ∀ o : Option Timestamps,
    Written all other [Json.optional "timestamps" (Node.asOption Timestamps.shape.take) set]
      (timestampMembers o) (id ∘ if o.isSome then set o else id)
  | none => .left rfl .nil
  | some t => .field (take_optional (congrArg (Except.map some) t.take_toJson)) .nil

theorem Entity.written_fields (e : Entity) :
    ∃ set, Written Entity.fieldReaders (fun n => .ofText (n.keep Entity.memberRoom))
      Entity.fieldReaders e.members set ∧ set { name := "" } = { e.told with flags := {} } := by
  refine ⟨_, .left rfl <|
    .field (take_optional e.forms.take_toJson) <|
    .field (take_optional (e.attributes.take_toJson Attribute.take_toJson)) <|
    .field (take_optional (e.associations.take_toJson Association.take_toJson)) <|
    .unknown (by decide) rfl <| .unknown (by decide) rfl <| .unknown (by decide) rfl <|
    .unknown (by decide) rfl <| .unknown (by decide) rfl <| .unknown (by decide) rfl <|
    .timestamps e.timestamps, ?_⟩
  obtain ⟨_, _, _, _, _, timestamps⟩ := e
  cases timestamps <;> rfl

theorem Entity.written_flags (e : Entity) :
    ∃ set, Written Flags.fieldReaders (fun _ => .ok ()) Flags.fieldReaders e.members set ∧
      set {} = e.flags := by
  have ht : Written Flags.fieldReaders (fun _ => .ok ()) [] (timestampMembers e.timestamps) id := by
    cases e.timestamps with
    | none => exact .nil
    | some t => exact .unknown (by decide) rfl .nil
  exact ⟨_, .unknown (by decide) rfl <| .unknown (by decide) rfl <| .unknown (by decide) rfl <|
    .field (take_optional (Node.asBool_node e.flags.search)) <|
    .field (take_optional (Node.asBool_node e.flags.create)) <|
    .field (take_optional (Node.asBool_node e.flags.update)) <|
    .field (take_optional (Node.asBool_node e.flags.delete)) <|
    .field (take_optional (Node.asBool_node e.flags.searchOperation)) <|
    .field (take_optional (Node.asBool_node e.flags.tableHandler)) ht, rfl⟩

/-- **A written entity is taken back**, as far as it was written. -/
theorem Entity.take_toJson (e : Entity) : Entity.take e.toJson.node = .ok e.told := by
  obtain ⟨set, hw, hs⟩ := e.written_fields
  obtain ⟨set', hw', hs'⟩ := e.written_flags
  obtain ⟨_, hf, -⟩ := hw.takeMembers (by decide) [] { name := "" } (List.Sublist.refl _)
    fun _ _ => List.not_mem_nil
  obtain ⟨_, hf', -⟩ := hw'.takeMembers (by decide) [] {} (List.Sublist.refl _)
    fun _ _ => List.not_mem_nil
  have hj : e.toJson.node = .object (memberNodes e.members) none := rfl
  rw [hj, Entity.take, hf, Taken.ok_bind]
  simp only [Json.pass, Taken.ofText, Taken.ok_bind, hf']
  rw [hs, hs']
  rfl

/-! ## What comes back -/

/-- The association with its key for its field name. -/
def Association.rekeyed (key : String) (a : Association) : Association :=
  { a with fieldName := key }

/-- The entity with the field name of every association taken from its key. -/
def Entity.rekeyed (e : Entity) : Entity :=
  { e with associations := e.associations.mapWithKey Association.rekeyed }

/-- The registry with the field name of every association taken from its key. -/
def Registry.rekeyed (r : Registry) : Registry := ⟨r.table.mapWithKey fun _ e => e.rekeyed⟩

/-- **What is not told is filled in again**, but for the field names of associations. -/
theorem Entity.complete_told {e : Entity} (h : e.complete = e) :
    { e.told with name := e.name }.complete = e.rekeyed := by
  have hf : e.forms.complete e.name = e.forms := congrArg Entity.forms h
  have ht : (e.attributes.mapWithKey fun _ a => { a with isTimestamp := false }).mapWithKey
      (fun key a => { a with isTimestamp := e.isManaged key }) = e.attributes := by
    have hc := congrArg (fun e => e.attributes.toList) h
    refine OrderedMap.ext_toList (Eq.trans ?_ hc)
    simp [Entity.complete]
  have ha : (e.associations.mapWithKey fun _ a => { a with fieldName := "" }).mapWithKey
      Association.complete = e.associations.mapWithKey Association.rekeyed :=
    OrderedMap.ext_toList (by simp [Association.complete, Association.rekeyed])
  calc { e.told with name := e.name }.complete
      = { e with
          forms := e.forms.complete e.name
          attributes := (e.attributes.mapWithKey fun _ a =>
            { a with isTimestamp := false }).mapWithKey
              (fun key a => { a with isTimestamp := e.isManaged key })
          associations := (e.associations.mapWithKey fun _ a =>
            { a with fieldName := "" }).mapWithKey Association.complete } := rfl
    _ = e.rekeyed := by rw [hf, ht, ha, Entity.rekeyed]

theorem Registry.take_toJson {r : Registry} (h : r.Settled) :
    Registry.shape.take r.toJson.node = .ok (r.table.mapWithKey fun _ => Entity.told) := by
  have hm : r.entities.map (fun e => (e.name, e.toJson))
      = r.table.toList.map fun p => (p.1, p.2.toJson) := by
    rw [Registry.entities, OrderedMap.values, List.map_map]
    exact List.map_congr_left fun p hp => Prod.ext (h p hp).1 rfl
  rw [Registry.toJson, hm]
  exact Registry.shape.take_object (by decide) <|
    .field (take_optional (r.table.take_toJson Entity.take_toJson)) .nil

theorem Registry.ofModels_told {r : Registry} (h : r.Settled) :
    Registry.ofModels (r.table.mapWithKey fun _ => Entity.told) = r.rekeyed := by
  have hn : ((r.table.mapWithKey fun _ => Entity.told).toList.map fun p =>
      { p.2 with name := p.1 }) = r.table.toList.map fun p => { p.2.told with name := p.1 } := by
    simp
  have ht : (Registry.ofModels (r.table.mapWithKey fun _ => Entity.told)).table
      = r.rekeyed.table := by
    refine OrderedMap.ext_toList ?_
    rw [Registry.ofModels, hn, Registry.toList_ofList, List.map_map]
    · refine List.map_congr_left fun p hp => ?_
      obtain ⟨hname, hc⟩ := h p hp
      refine Prod.ext rfl ?_
      change { p.2.told with name := p.1 }.complete = p.2.rekeyed
      rw [← hname]
      exact Entity.complete_told hc
    · simpa only [List.map_map, Function.comp_def] using r.table.nodup_keys
  exact congrArg Registry.mk ht

theorem Registry.read_written_of_settled {r : Registry} (h : r.Settled) :
    Registry.read r.written = .ok r.rekeyed := by
  have ht : r.written.toList = r.toJson.chars := String.toList_ofList
  rw [Registry.read, ht, Node.read_chars, Registry.take_toJson h, Taken.ok_bind,
    Registry.ofModels_told h]
  rfl

/-! ## When nothing changes -/

/-- Every association has its key for its field name. -/
def Entity.IsKeyed (e : Entity) : Prop := ∀ p ∈ e.associations.toList, p.2.fieldName = p.1

theorem Association.rekeyed_eq_self_iff {key : String} {a : Association} :
    a.rekeyed key = a ↔ a.fieldName = key :=
  ⟨fun h => (congrArg Association.fieldName h).symm, fun h => by rw [Association.rekeyed, ← h]⟩

theorem Entity.rekeyed_eq_self_iff {e : Entity} : e.rekeyed = e ↔ e.IsKeyed := by
  have ha : e.associations.mapWithKey Association.rekeyed = e.associations ↔ e.IsKeyed := by
    rw [OrderedMap.mapWithKey_eq_self_iff]
    exact forall₂_congr fun p _ => Association.rekeyed_eq_self_iff
  refine ⟨fun h => ha.mp (congrArg Entity.associations h), fun h => ?_⟩
  rw [Entity.rekeyed, ha.mpr h]

theorem Registry.forall_mem_entities {r : Registry} {p : Entity → Prop} :
    (∀ e ∈ r.entities, p e) ↔ ∀ q ∈ r.table.toList, p q.2 := List.forall_mem_map

theorem Registry.rekeyed_eq_self_iff {r : Registry} :
    r.rekeyed = r ↔ ∀ e ∈ r.entities, e.IsKeyed := by
  have ht : (r.table.mapWithKey fun _ e => e.rekeyed) = r.table ↔ ∀ e ∈ r.entities, e.IsKeyed := by
    rw [OrderedMap.mapWithKey_eq_self_iff, Registry.forall_mem_entities]
    exact forall₂_congr fun p _ => Entity.rekeyed_eq_self_iff
  refine ⟨fun h => ht.mp (congrArg Registry.table h), fun h => ?_⟩
  rw [Registry.rekeyed, ht.mpr h]

theorem Entity.sameEntity_rekeyed_iff {e : Entity} :
    Registry.agrees.sameEntity e.rekeyed e = true ↔ e.IsKeyed := by
  have hself : e.attributes.agrees (· == ·) e.attributes = true :=
    OrderedMap.agrees_self (fun a => beq_self_eq_true a) e.attributes
  have hsame : Registry.agrees.sameEntity e.rekeyed e
      = e.rekeyed.associations.agrees (· == ·) e.associations := by
    change (e.name == e.name && e.forms == e.forms && e.flags == e.flags &&
      e.timestamps == e.timestamps && e.attributes.agrees (· == ·) e.attributes && _) = _
    simp only [beq_self_eq_true, Bool.true_and, hself]
  rw [hsame]
  refine OrderedMap.agrees_mapWithKey_iff.trans (forall₂_congr fun p _ => ?_)
  rw [beq_iff_eq, Association.rekeyed_eq_self_iff]

/-- Telling registries apart without regard to order tells no more apart. -/
theorem Registry.rekeyed_agrees_iff {r : Registry} :
    r.rekeyed.agrees r = true ↔ ∀ e ∈ r.entities, e.IsKeyed := by
  refine OrderedMap.agrees_mapWithKey_iff.trans ?_
  rw [Registry.forall_mem_entities]
  exact forall₂_congr fun p _ => Entity.sameEntity_rekeyed_iff

theorem Entity.toJson_rekeyed (e : Entity) : e.rekeyed.toJson = e.toJson := by
  have ha : e.rekeyed.associations.toJson Association.toJson
      = e.associations.toJson Association.toJson := by
    rw [OrderedMap.toJson, Entity.rekeyed, OrderedMap.toList_mapWithKey, List.map_map]
    rfl
  rw [Entity.toJson, ha]
  rfl

/-- **The field names of associations are not written.** -/
theorem Registry.written_rekeyed (r : Registry) : r.rekeyed.written = r.written := by
  have he : r.rekeyed.entities = r.entities.map Entity.rekeyed := by
    simp [Registry.entities, Registry.rekeyed, OrderedMap.values]
  have hj : r.rekeyed.toJson = r.toJson := by
    rw [Registry.toJson, he, List.map_map]
    simp only [Function.comp_def, Entity.toJson_rekeyed]
    rfl
  rw [Registry.written, hj, Registry.written]

/-! ## The round trip -/

/-- **A registry that was written is read back**: the same entities under the same names in the same
order and with the same content, except that the field name of an association is its key now.  So
nothing has changed just if every field name was the key already, and writing the registry that was
read gives the same text in any case. -/
theorem Registry.read_written {r : Registry} (h : r.Reachable) :
    Registry.read r.written = .ok r.rekeyed ∧
      (r.rekeyed = r ↔ ∀ e ∈ r.entities, e.IsKeyed) ∧
      (r.rekeyed.agrees r = true ↔ ∀ e ∈ r.entities, e.IsKeyed) ∧
      r.rekeyed.written = r.written :=
  ⟨r.read_written_of_settled h.settled, rekeyed_eq_self_iff, rekeyed_agrees_iff,
    r.written_rekeyed⟩

/-- The bookshop is read back with an author's books under their key. -/
theorem Registry.read_written_bookshop :
    Registry.bookshop.Reachable ∧
      Registry.read Registry.bookshop.written = .ok Registry.bookshop.rekeyed ∧
      Registry.bookshop.rekeyed ≠ Registry.bookshop ∧
      Registry.bookshop.rekeyed.written = Registry.bookshop.written := by
  obtain ⟨hread, -, -, hwritten⟩ := Registry.read_written Registry.reachable_bookshop
  exact ⟨Registry.reachable_bookshop, hread, by decide, hwritten⟩

end EntitySchema
