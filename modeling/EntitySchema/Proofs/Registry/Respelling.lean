import EntitySchema.Proofs.Json.Respelling
import EntitySchema.Proofs.Json.Spelling
import EntitySchema.Proofs.Registry.RoundTrip
import Mathlib

/-!
# Proofs/Registry/Respelling — the content of a registry text counts, not how it is spelled

Every record of a registry text has a layout, and its fields follow it (`Json.Follows`).  So members
may change places, come and go where they say nothing new, and scalar records may be listed
(`Respelled`).  An entity is read in two passes over the same members, fields first and flags
second; what is a field to the one pass is an unknown member to the other, so each change is looked
at twice.  The name of an entity may be any other, since the key takes its place
(`Registry.ofModels_viewValues`).

The one thing that content does not decide is how large a number may stand under an unknown key of
an entity.  It is kept until the flags are read, and so its value is found, by a product that can
overflow below the greatest number of the format (`Registry.not_read_respelled_of_inDoubleRange`).
-/

namespace EntitySchema

open Json

/-! ## Numbers -/

/-- The number is at most the greatest of the double format. -/
def Json.Numeral.InDoubleRange (n : Numeral) : Prop :=
  let fraction := n.fraction.getD []
  let scale := exponentValue n.exponent - fraction.length
  digitsValue (n.whole ++ fraction) * powerOf 10 scale
    ≤ (powerOf 2 53 - 1) * powerOf 2 Binary64.maxExponent * powerOf 10 (-scale)

/-! ## Layouts -/

/-- Naming forms. -/
def Forms.layout : Layout := [("singular", some (.string "")), ("plural", some (.string ""))]

/-- Timestamp columns. -/
def Timestamps.layout : Layout := [
  ("createdAt", some (.string "createdAt")), ("updatedAt", some (.string "updatedAt"))]

/-- Attributes, which have no type by default. -/
def Attribute.layout : Layout := [
  ("type", none), ("primaryKey", some (.bool false)), ("autoIncrement", some (.bool false)),
  ("allowNull", some (.bool true)), ("gqType", some .null), ("gqSearch", some (.bool true)),
  ("gqCreate", some (.bool true)), ("gqUpdate", some (.bool true))]

/-- Associations, which have neither target nor multiplicity by default. -/
def Association.layout : Layout := [
  ("alias", some (.string "")), ("target", none), ("name", some .null), ("multiplicity", none)]

/-- Entities, their flags apart. -/
def Entity.fieldLayout : Layout := [
  ("name", some (.string "")), ("naming", some .emptyObject), ("attributes", some .emptyObject),
  ("associations", some .emptyObject), ("timestamps", some .null)]

/-- The flags of an entity. -/
def Flags.layout : Layout := [
  ("generateGqSearch", some (.bool true)), ("generateGqCreate", some (.bool true)),
  ("generateGqUpdate", some (.bool true)), ("generateGqDelete", some (.bool true)),
  ("generateGqSearchOperation", some (.bool true)), ("generateGqTableHandler", some (.bool true))]

/-- Entities, whose flags are members of their own. -/
def Entity.layout : Layout := Entity.fieldLayout ++ Flags.layout

/-- Registries. -/
def Registry.layout : Layout := [("models", some .emptyObject)]

/-! ## Steps -/

/-- One change under a known key of an entity.  The name may be any other. -/
inductive EntityChange (fits : Node → Prop) : String → Node → Node → Prop
  | name {l l' : Literal} {s : String} : l'.Says s →
      EntityChange fits "name" (.string l) (.string l')
  | naming {n n' : Node} : RecordStep Forms.layout fits n n' → EntityChange fits "naming" n n'
  | attributes {n n' : Node} : MapStep (RecordStep Attribute.layout fits) n n' →
      EntityChange fits "attributes" n n'
  | associations {n n' : Node} : MapStep (RecordStep Association.layout fits) n n' →
      EntityChange fits "associations" n n'
  | timestamps {n n' : Node} : RecordStep Timestamps.layout fits n n' →
      EntityChange fits "timestamps" n n'

/-- One change to an entity, whose flags are members of its own.  Its unknown members are kept until
all have been read, those of other records passed over. -/
def EntityStep (kept skipped : Node → Prop) : Node → Node → Prop :=
  ObjectStep (MembersStep Entity.layout kept (EntityChange skipped))

/-- One change under the key of the entities. -/
inductive RegistryChange (kept skipped : Node → Prop) : String → Node → Node → Prop
  | models {n n' : Node} : MapStep (EntityStep kept skipped) n n' →
      RegistryChange kept skipped "models" n n'

/-- One change to the text of a registry, which is an object or else the array of its one field. -/
inductive RegistryStep (kept skipped : Node → Prop) : Node → Node → Prop
  | object {n n' : Node} :
      ObjectStep (MembersStep Registry.layout skipped (RegistryChange kept skipped)) n n' →
      RegistryStep kept skipped n n'
  | array {n n' : Node} {items : List Node} : MapStep (EntityStep kept skipped) n n' →
      RegistryStep kept skipped (.array (n :: items) none) (.array (n' :: items) none)

/-- The arrays and objects that may stand inside one another under an unknown key. -/
def unknownDepth : Nat := 99

/-- **One tree becomes the other by changes of the spelling.**  Under unknown keys, numbers are as
wanted: `kept` in an entity, `skipped` in any other record. -/
def Respelled (kept skipped : Numeral → Prop) : Node → Node → Prop :=
  Relation.ReflTransGen
    (RegistryStep (Node.Fits kept unknownDepth) (Node.Fits skipped unknownDepth))

/-! ## The fields follow their layouts -/

theorem Forms.follows : Follows Forms.shape.fields Forms.shape.initial id Forms.layout where
  keys_nodup := by decide
  fields_match :=
    .cons (matches_optional fun n hn => ⟨"", Default.asString_of_saidBy hn, rfl⟩) <|
    .cons (matches_optional fun n hn => ⟨"", Default.asString_of_saidBy hn, rfl⟩) .nil
  commute := by
    refine .cons (List.forall_mem_cons.mpr ⟨commutes_of fun _ _ _ => rfl, nofun⟩) ?_
    exact .cons nofun .nil
  respect := fun f _ => respects_id f

theorem Attribute.follows :
    Follows Attribute.shape.fields Attribute.shape.initial id Attribute.layout where
  keys_nodup := by decide
  fields_match :=
    .cons matches_required <|
    .cons (matches_optional fun n hn => ⟨false, Default.asBool_of_saidBy hn, rfl⟩) <|
    .cons (matches_optional fun n hn => ⟨false, Default.asBool_of_saidBy hn, rfl⟩) <|
    .cons (matches_optional fun n hn => ⟨true, Default.asBool_of_saidBy hn, rfl⟩) <|
    .cons (matches_optional fun n hn => ⟨none, Default.asOption_of_saidBy hn, rfl⟩) <|
    .cons (matches_optional fun n hn => ⟨true, Default.asBool_of_saidBy hn, rfl⟩) <|
    .cons (matches_optional fun n hn => ⟨true, Default.asBool_of_saidBy hn, rfl⟩) <|
    .cons (matches_optional fun n hn => ⟨true, Default.asBool_of_saidBy hn, rfl⟩) .nil
  commute := by
    simp only [Attribute.shape, List.pairwise_cons, List.forall_mem_cons, List.not_mem_nil,
      List.Pairwise.nil, false_implies, implies_true, and_true]
    and_intros
    all_goals exact commutes_of fun _ _ _ => rfl
  respect := fun f _ => respects_id f

theorem Forms.take_of_saidBy {n : Node} (h : Default.emptyObject.SaidBy n) :
    Forms.shape.take n = .ok {} := by
  obtain rfl := h
  rfl

theorem Timestamps.follows :
    Follows Timestamps.shape.fields Timestamps.shape.initial id Timestamps.layout where
  keys_nodup := by decide
  fields_match :=
    .cons (matches_optional fun n hn => ⟨some "createdAt", Default.asColumn_of_saidBy hn, rfl⟩) <|
    .cons (matches_optional fun n hn => ⟨some "updatedAt", Default.asColumn_of_saidBy hn, rfl⟩) .nil
  commute := by
    refine .cons (List.forall_mem_cons.mpr ⟨commutes_of fun _ _ _ => rfl, nofun⟩) ?_
    exact .cons nofun .nil
  respect := fun f _ => respects_id f

theorem Association.follows :
    Follows Association.shape.fields Association.shape.initial id Association.layout where
  keys_nodup := by decide
  fields_match :=
    .cons (matches_optional fun n hn => ⟨"", Default.asString_of_saidBy hn, rfl⟩) <|
    .cons matches_required <|
    .cons (matches_optional fun n hn => ⟨none, Default.asOption_of_saidBy hn, rfl⟩) <|
    .cons matches_required .nil
  commute := by
    simp only [Association.shape, List.pairwise_cons, List.forall_mem_cons, List.not_mem_nil,
      List.Pairwise.nil, false_implies, implies_true, and_true]
    and_intros
    all_goals exact commutes_of fun _ _ _ => rfl
  respect := fun f _ => respects_id f

/-- The entity without its name, which the registry replaces by the key. -/
def Entity.anonymous (e : Entity) : Entity := { e with name := "" }

theorem Entity.follows :
    Follows Entity.fieldReaders { name := "" } Entity.anonymous Entity.fieldLayout where
  keys_nodup := by decide
  fields_match :=
    .cons (matches_optional fun n hn => ⟨"", Default.asString_of_saidBy hn, rfl⟩) <|
    .cons (matches_optional fun n hn => ⟨{}, Forms.take_of_saidBy hn, rfl⟩) <|
    .cons (matches_optional fun n hn => ⟨.empty, Default.asMap_of_saidBy hn, rfl⟩) <|
    .cons (matches_optional fun n hn => ⟨.empty, Default.asMap_of_saidBy hn, rfl⟩) <|
    .cons (matches_optional fun n hn => ⟨none, Default.asOption_of_saidBy hn, rfl⟩) .nil
  commute := by
    simp only [Entity.fieldReaders, List.pairwise_cons, List.forall_mem_cons, List.not_mem_nil,
      List.Pairwise.nil, false_implies, implies_true, and_true]
    and_intros
    all_goals exact commutes_of fun _ _ _ => rfl
  respect := by
    simp only [Entity.fieldReaders, List.forall_mem_cons]
    refine ⟨?_, ?_, ?_, ?_, ?_, nofun⟩
    · exact respects_of fun _ _ _ h => h
    · exact respects_of fun f _ _ h => congrArg (fun e => { e with forms := f }) h
    · exact respects_of fun m _ _ h => congrArg (fun e => { e with attributes := m }) h
    · exact respects_of fun m _ _ h => congrArg (fun e => { e with associations := m }) h
    · exact respects_of fun t _ _ h => congrArg (fun e => { e with timestamps := t }) h

theorem Flags.follows : Follows Flags.fieldReaders {} id Flags.layout where
  keys_nodup := by decide
  fields_match :=
    .cons (matches_optional fun n hn => ⟨true, Default.asBool_of_saidBy hn, rfl⟩) <|
    .cons (matches_optional fun n hn => ⟨true, Default.asBool_of_saidBy hn, rfl⟩) <|
    .cons (matches_optional fun n hn => ⟨true, Default.asBool_of_saidBy hn, rfl⟩) <|
    .cons (matches_optional fun n hn => ⟨true, Default.asBool_of_saidBy hn, rfl⟩) <|
    .cons (matches_optional fun n hn => ⟨true, Default.asBool_of_saidBy hn, rfl⟩) <|
    .cons (matches_optional fun n hn => ⟨true, Default.asBool_of_saidBy hn, rfl⟩) .nil
  commute := by
    simp only [Flags.fieldReaders, List.pairwise_cons, List.forall_mem_cons, List.not_mem_nil,
      List.Pairwise.nil, false_implies, implies_true, and_true]
    and_intros
    all_goals exact commutes_of fun _ _ _ => rfl
  respect := fun f _ => respects_id f

theorem Registry.follows : Follows Registry.shape.fields Registry.shape.initial
    (viewValues Entity.anonymous) Registry.layout where
  keys_nodup := by decide
  fields_match :=
    .cons (matches_optional fun n hn => ⟨.empty, Default.asMap_of_saidBy hn, rfl⟩) .nil
  commute := .cons nofun .nil
  respect := List.forall_mem_cons.mpr ⟨respects_of fun _ _ _ _ => rfl, nofun⟩

/-! ## Steps make no difference -/

section Steps

variable {inRange : Numeral → Prop} {depth : Nat} {key : String} {n n' : Node}
  {ms ms' : List (Literal × Node)}

theorem viewValues_id {α : Type} (m : OrderedMap α) : viewValues id m = m :=
  OrderedMap.mapWithKey_eq_self_iff.mpr fun _ _ => rfl

/-- **What may change under a known key of an entity is no matter to the entity without its
name.** -/
theorem EntityChange.tolerated (h : EntityChange (Node.Fits inRange depth) key n n') :
    ∃ f, Entity.fieldReaders.find? (·.key == key) = some f ∧
      f.Tolerates { name := "" } Entity.anonymous n n' := by
  have hmap : ∀ {α : Type} {m m' : OrderedMap α}, viewValues id m' = viewValues id m → m' = m :=
    fun h => by rwa [viewValues_id, viewValues_id] at h
  cases h with
  | @name l l' s hl =>
    refine ⟨_, rfl, fun set hset => ?_⟩
    obtain ⟨s', -, rfl⟩ := map_eq_ok.mp hset
    exact ⟨_, map_eq_ok.mpr ⟨s, ofText_text_eq_ok_iff.mpr hl, rfl⟩, rfl⟩
  | naming h =>
    refine ⟨_, rfl, Forms.follows.preserves_record.tolerates (fun f f' hf => ?_) h⟩
    obtain rfl : f' = f := hf
    rfl
  | attributes h =>
    refine ⟨_, rfl, Attribute.follows.preserves_record.map.tolerates (fun m m' hm => ?_) h⟩
    rw [hmap hm]
  | associations h =>
    refine ⟨_, rfl, Association.follows.preserves_record.map.tolerates (fun m m' hm => ?_) h⟩
    rw [hmap hm]
  | timestamps h =>
    refine ⟨_, rfl, (Timestamps.follows.preserves_record.option fun _ _ h => h.ne_null).tolerates
      (fun t t' ht => ?_) h⟩
    obtain rfl : t' = t := by simpa using ht
    rfl

/-- The flags are apart from what may change. -/
theorem EntityChange.notMem_flags {fits : Node → Prop} (h : EntityChange fits key n n') :
    key ∉ Flags.layout.keys := by
  cases h
  all_goals decide

theorem Default.keep_of_saidBy {d : Default} (h : d.SaidBy n) :
    n.keep Entity.memberRoom = .ok () := by
  cases d with
  | null => exact (h : n = .null) ▸ rfl
  | bool b => exact (h : n = .bool b) ▸ rfl
  | string s =>
    obtain ⟨l, rfl, hl⟩ := h
    have ht : l.text = .ok s := hl
    rw [Node.keep, ht]
    rfl
  | emptyObject => exact (h : n = .object [] none) ▸ rfl

theorem Entity.mem_layout_keys : key ∈ Entity.layout.keys ↔
    key ∈ Entity.fieldLayout.keys ∨ key ∈ Flags.layout.keys := by
  rw [Entity.layout, Layout.keys, List.map_append, List.mem_append, Layout.keys, Layout.keys]

/-- No flag is a field. -/
theorem Entity.notMem_flags : ∀ key ∈ Entity.fieldLayout.keys, key ∉ Flags.layout.keys := by decide

/-- A step on the members of an entity makes no difference to its fields, in the first pass… -/
theorem EntityStep.keeps_fields (hd : depth ≤ Entity.memberRoom)
    (h : MembersStep Entity.layout (Node.Fits Numeral.IsRead depth)
      (EntityChange (Node.Fits inRange depth)) ms ms') :
    Keeps Entity.fieldReaders (fun n => .ofText (n.keep Entity.memberRoom)) { name := "" }
      Entity.anonymous ms ms' := by
  have hkept : ∀ {n : Node}, n.keep Entity.memberRoom = .ok () →
      Taken.ofText (n.keep Entity.memberRoom) = .ok () := fun h => by rw [h]; rfl
  have hfield : ∀ {key : String}, key ∉ Entity.layout.keys → key ∉ Entity.fieldLayout.keys :=
    fun hkey hmem => hkey (Entity.mem_layout_keys.mpr (Or.inl hmem))
  have hflag : ∀ {key : String} {d : Option Default}, (key, d) ∈ Flags.layout →
      key ∉ Entity.fieldLayout.keys := fun hmem hkey =>
    Entity.notMem_flags _ hkey (List.mem_map_of_mem hmem)
  cases h with
  | permute hp => exact Entity.follows.keeps_permute hp
  | addUnknown hk hkey hn => exact Entity.follows.keeps_add hk (hfield hkey) (hkept (hn.keep hd))
  | removeUnknown hk hkey => exact Entity.follows.keeps_remove hk (hfield hkey)
  | spellDefault hk hmem hn hms =>
    rcases List.mem_append.mp hmem with hmem | hmem
    · exact Entity.follows.keeps_spell hk hmem hn hms
    · exact Entity.follows.keeps_add hk (hflag hmem) (hkept (Default.keep_of_saidBy hn))
  | omitDefault hk hmem hn =>
    rcases List.mem_append.mp hmem with hmem | hmem
    · exact Entity.follows.keeps_omit hk hmem hn
    · exact Entity.follows.keeps_remove hk (hflag hmem)
  | inside hk hn =>
    obtain ⟨f, hf, ht⟩ := hn.tolerated
    exact Entity.follows.keeps_inside hk hf ht

/-- …nor to its flags, in the second. -/
theorem EntityStep.keeps_flags {kept skipped : Node → Prop}
    (h : MembersStep Entity.layout kept (EntityChange skipped) ms ms') :
    Keeps Flags.fieldReaders (fun _ => .ok ()) {} id ms ms' := by
  have hflag : ∀ {key : String}, key ∉ Entity.layout.keys → key ∉ Flags.layout.keys :=
    fun hkey hmem => hkey (Entity.mem_layout_keys.mpr (Or.inr hmem))
  have hfield : ∀ {key : String} {d : Option Default}, (key, d) ∈ Entity.fieldLayout →
      key ∉ Flags.layout.keys := fun hmem =>
    Entity.notMem_flags _ (List.mem_map_of_mem hmem)
  cases h with
  | permute hp => exact Flags.follows.keeps_permute hp
  | addUnknown hk hkey _ => exact Flags.follows.keeps_add hk (hflag hkey) rfl
  | removeUnknown hk hkey => exact Flags.follows.keeps_remove hk (hflag hkey)
  | spellDefault hk hmem hn hms =>
    rcases List.mem_append.mp hmem with hmem | hmem
    · exact Flags.follows.keeps_add hk (hfield hmem) rfl
    · exact Flags.follows.keeps_spell hk hmem hn hms
  | omitDefault hk hmem hn =>
    rcases List.mem_append.mp hmem with hmem | hmem
    · exact Flags.follows.keeps_remove hk (hfield hmem)
    · exact Flags.follows.keeps_omit hk hmem hn
  | inside hk hn => exact Flags.follows.keeps_other hk hn.notMem_flags rfl

/-- An object is taken for an entity in two passes. -/
theorem Entity.take_object_eq_ok_iff {e : Entity} : Entity.take (.object ms none) = .ok e ↔
    ∃ r, Shape.takeMembers Entity.fieldReaders (fun n => .ofText (n.keep Entity.memberRoom)) []
        { name := "" } ms = .ok r ∧
      ∃ q, Shape.takeMembers Flags.fieldReaders (fun _ => .ok ()) [] {} ms = .ok q ∧
        { r.2 with flags := q.2 } = e := by
  rw [Entity.take, bind_eq_ok]
  refine exists_congr fun r => and_congr Iff.rfl ?_
  constructor
  · intro h
    obtain ⟨_, -, h⟩ := bind_eq_ok.mp h
    obtain ⟨q, hq, h⟩ := bind_eq_ok.mp h
    exact ⟨q, hq, Except.ok.inj h⟩
  · rintro ⟨q, hq, rfl⟩
    exact bind_eq_ok.mpr ⟨(), rfl, bind_eq_ok.mpr ⟨q, hq, rfl⟩⟩

/-- **A step on an entity makes no difference but for its name.** -/
theorem preserves_entityStep (hd : depth ≤ Entity.memberRoom) :
    Preserves Entity.take Entity.anonymous
      (EntityStep (Node.Fits Numeral.IsRead depth) (Node.Fits inRange depth)) := by
  rintro _ _ e ⟨ms, ms', rfl, rfl, hstep⟩ h
  obtain ⟨r, hr, q, hq, rfl⟩ := Entity.take_object_eq_ok_iff.mp h
  obtain ⟨r', hr', halike⟩ := EntityStep.keeps_fields hd hstep r hr
  obtain ⟨q', hq', halike'⟩ := EntityStep.keeps_flags hstep q hq
  refine ⟨_, Entity.take_object_eq_ok_iff.mpr ⟨r', hr', q', hq', rfl⟩, ?_⟩
  have hflags : q'.2 = q.2 := halike'.view
  rw [hflags]
  exact congrArg (fun e => { e with flags := q.2 }) halike.view

/-- **A step on a registry makes no difference but for the names in its entities.** -/
theorem preserves_registryStep (hd : depth ≤ Entity.memberRoom) :
    Preserves Registry.shape.take (viewValues Entity.anonymous)
      (RegistryStep (Node.Fits Numeral.IsRead depth) (Node.Fits inRange depth)) := by
  have hmap : Preserves (Node.asMap Entity.take) (viewValues Entity.anonymous)
      (MapStep (EntityStep (Node.Fits Numeral.IsRead depth) (Node.Fits inRange depth))) :=
    (preserves_entityStep hd).map
  rintro _ _ m hstep h
  cases hstep with
  | object hstep =>
    refine Registry.follows.preserves_object (fun key n n' hchange => ?_) hstep h
    cases hchange with
    | models hmodels => exact ⟨_, rfl, hmap.tolerates (fun _ _ h => h) hmodels⟩
  | @array n n' items hmodels =>
    obtain ⟨set, hset, hrest⟩ := bind_eq_ok.mp h
    obtain ⟨set', hset', hview⟩ := hmap.tolerates (fun _ _ h => h) hmodels set hset
    cases items with
    | nil =>
      obtain rfl := Except.ok.inj hrest
      exact ⟨set' .empty, bind_eq_ok.mpr ⟨set', hset', rfl⟩, hview⟩
    | cons item items =>
      unfold Shape.takeItems at hrest
      split at hrest
      all_goals contradiction

end Steps

/-! ## Reading -/

namespace Registry

/-- The names in entities are replaced by their keys. -/
theorem ofModels_viewValues (models : OrderedMap Entity) :
    ofModels (viewValues Entity.anonymous models) = ofModels models := by
  rw [ofModels, ofModels, viewValues, OrderedMap.toList_mapWithKey, List.map_map]
  rfl

/-- **A text is read as the registry that its tree is taken for.** -/
theorem read_eq_ok_iff {text : String} {r : Registry} : read text = .ok r ↔
    ∃ n : Node, n.Spells text ∧ ∃ models, shape.take n = .ok models ∧ ofModels models = r := by
  rw [read, bind_eq_ok]
  constructor
  · rintro ⟨models, htake, h⟩
    obtain ⟨_, hend, h⟩ := bind_eq_ok.mp h
    refine ⟨(Node.read text.toList).result, Node.spells_iff.mpr ?_, models, htake, Except.ok.inj h⟩
    cases hrest : (Node.read text.toList).rest with
    | none =>
      rw [hrest] at hend
      contradiction
    | some rest =>
      rw [hrest, checkEnd] at hend
      refine ⟨rest, by rw [← hrest], skipSpace_eq_nil_iff.mp ?_⟩
      split at hend
      · next he => exact List.isEmpty_iff.mp he
      · contradiction
  · rintro ⟨n, hn, models, htake, rfl⟩
    obtain ⟨rest, hread, hblank⟩ := Node.spells_iff.mp hn
    rw [hread]
    refine ⟨models, htake, bind_eq_ok.mpr ⟨(), ?_, rfl⟩⟩
    rw [checkEnd, skipSpace_eq_nil_iff.mpr hblank]
    rfl

theorem take_respelled {skipped : Numeral → Prop} {n n' : Node} {models : OrderedMap Entity}
    (hstep : Respelled Numeral.IsRead skipped n n') (h : shape.take n = .ok models) :
    ∃ models', shape.take n' = .ok models' ∧ ofModels models' = ofModels models := by
  induction hstep with
  | refl => exact ⟨models, h, rfl⟩
  | tail _ hstep ih =>
    obtain ⟨models', h', hsame⟩ := ih
    obtain ⟨models'', h'', hview⟩ := preserves_registryStep (by decide) hstep h'
    refine ⟨models'', h'', ?_⟩
    rw [← ofModels_viewValues models'', hview, ofModels_viewValues, hsame]

/-- **The spelling of a registry makes no difference.**  A text that is read as a registry spells
one tree; and whatever that tree is respelled to, every text that spells the outcome is read too, as
the same registry. -/
theorem read_respelled {text : String} {r : Registry} (h : read text = .ok r) :
    (∃! n : Node, n.Spells text) ∧ ∀ (n n' : Node) (text' : String), n.Spells text →
      Respelled Numeral.IsRead (fun _ => True) n n' → n'.Spells text' → read text' = .ok r := by
  obtain ⟨n, hn, models, htake, hr⟩ := read_eq_ok_iff.mp h
  refine ⟨⟨n, hn, fun n' hn' => hn'.unique hn⟩, fun n₁ n' text' hn₁ hstep hn' => ?_⟩
  obtain rfl := hn₁.unique hn
  obtain ⟨models', htake', hsame⟩ := take_respelled hstep htake
  exact read_eq_ok_iff.mpr ⟨n', hn', models', htake', hsame.trans hr⟩

/-- A registry of one entity with the given members. -/
def oneEntity (members : List (Literal × Node)) : Node :=
  .object [(.ofText "models", .object [(.ofText "bee", .object members none)] none)] none

theorem respelled_oneEntity {kept skipped : Numeral → Prop} {ms ms' : List (Literal × Node)}
    (h : MembersStep Entity.layout (Node.Fits kept unknownDepth)
      (EntityChange (Node.Fits skipped unknownDepth)) ms ms') :
    Respelled kept skipped (oneEntity ms) (oneEntity ms') := by
  have hmodels : MapStep (EntityStep (Node.Fits kept unknownDepth) (Node.Fits skipped unknownDepth))
      (.object [(.ofText "bee", .object ms none)] none)
      (.object [(.ofText "bee", .object ms' none)] none) :=
    ⟨_, _, rfl, rfl, [], _, _, _, [], rfl, rfl, ms, ms', rfl, rfl, h⟩
  exact .single (.object ⟨_, _, rfl, rfl, .inside (Literal.text_ofText "models") (.models hmodels)⟩)

/-- A registry whose bee has a plural… -/
def bee : Value :=
  .object [("models", .object [("bee", .object [
    ("naming", .object [("plural", .string "hive")])])])]

/-- …and the same with forms listed, a name of no consequence and a member that nobody knows. -/
def beeRespelled : Value :=
  .object [("models", .object [("bee", .object [
    ("name", .string "wasp"), ("naming", .array [.string "", .string "hive"]),
    ("stripes", .array [.number 42])])])]

theorem respelled_bee : Respelled Numeral.IsRead (fun _ => True) bee.node beeRespelled.node := by
  have htext : ∀ s, (Literal.ofText s).Says s := Literal.text_ofText
  have hother : ∀ {s t : String}, s ≠ t → ¬ (Literal.ofText s).Says t :=
    fun hne h => hne ((htext _).unique h)
  have hfits : (Value.array [.number 42]).node.Fits Numeral.IsRead unknownDepth :=
    ⟨rfl, 98, rfl, ⟨_, rfl⟩, trivial⟩
  -- the singular is spelled out, and then both forms are listed
  refine .trans (respelled_oneEntity <| .inside (htext "naming") <| .naming <| .inl ⟨_, _, rfl, rfl,
    .spellDefault (htext "singular") (.head _) ⟨_, rfl, htext ""⟩ ?_⟩) ?_
  · exact List.forall_mem_cons.mpr ⟨hother (by decide), nofun⟩
  refine .trans (respelled_oneEntity <| .inside (htext "naming") <| .naming <| .inr ⟨_, rfl, rfl,
    .cons (htext "singular") <| .cons (htext "plural") .nil⟩) ?_
  -- a member that nobody knows comes, and goes to the end
  refine .trans (respelled_oneEntity <| .addUnknown (htext "stripes") (by decide) hfits) ?_
  refine .trans (respelled_oneEntity <| .permute (.swap _ _ [])) ?_
  -- the name is spelled out, and then is another
  refine .trans (respelled_oneEntity <|
    .spellDefault (htext "name") (.head _) ⟨_, rfl, htext ""⟩ ?_) ?_
  · exact List.forall_mem_cons.mpr ⟨hother (by decide),
      List.forall_mem_cons.mpr ⟨hother (by decide), nofun⟩⟩
  exact respelled_oneEntity <| .inside (htext "name") <| .name (htext "wasp")

/-- The bee is the same. -/
theorem read_respelled_bee : Respelled Numeral.IsRead (fun _ => True) bee.node beeRespelled.node ∧
    ∃ r, read bee.text = .ok r ∧ read beeRespelled.text = .ok r := by
  have hok : (read bee.text).isOk = true := by decide +kernel
  obtain ⟨r, hr⟩ := exists_eq_ok_of_isOk hok
  exact ⟨respelled_bee, r, hr,
    (read_respelled hr).2 _ _ _ bee.node_spells respelled_bee beeRespelled.node_spells⟩

/-- A number just below the greatest of the double format: `1797693134862315708e290`. -/
def nearlyGreatest : Numeral :=
  ⟨false, [1, 7, 9, 7, 6, 9, 3, 1, 3, 4, 8, 6, 2, 3, 1, 5, 7, 0, 8], none, some (false, [2, 9, 0])⟩

/-- **Not every number of the double format may stand under an unknown key of an entity**: the
reader rounds the significand before it scales it, and finds the product too large. -/
theorem not_read_respelled_of_inDoubleRange :
    ¬ ∀ (text text' : String) (r : Registry) (n n' : Node), read text = .ok r → n.Spells text →
      Respelled Numeral.InDoubleRange Numeral.InDoubleRange n n' → n'.Spells text' →
      read text' = .ok r := by
  intro h
  let text := "\x7b\"models\":\x7b\"bee\":\x7b\x7d\x7d\x7d"
  let text' := "\x7b\"models\":\x7b\"bee\":\x7b\"x\":1797693134862315708e290\x7d\x7d\x7d"
  have hok : (read text).isOk = true := by decide +kernel
  have hnot : (read text').isOk = false := by decide +kernel
  have hspells : (oneEntity []).Spells text := Node.spells_iff.mpr ⟨[], by cbv, Blank.nil⟩
  have hspells' : (oneEntity [(.ofText "x", .number nearlyGreatest)]).Spells text' :=
    Node.spells_iff.mpr ⟨[], by cbv, Blank.nil⟩
  have hrange : nearlyGreatest.InDoubleRange := by
    unfold Numeral.InDoubleRange
    decide +kernel
  have hstep : Respelled Numeral.InDoubleRange Numeral.InDoubleRange (oneEntity [])
      (oneEntity [(.ofText "x", .number nearlyGreatest)]) :=
    respelled_oneEntity <| .addUnknown (Literal.text_ofText "x") (by decide) hrange
  obtain ⟨r, hr⟩ := exists_eq_ok_of_isOk hok
  rw [h _ _ r _ _ hr hspells hstep hspells'] at hnot
  exact Bool.noConfusion hnot

end Registry

end EntitySchema
