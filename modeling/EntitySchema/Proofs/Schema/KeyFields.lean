import EntitySchema.Proofs.Schema.References
import EntitySchema.Proofs.Schema.RowFilters
import EntitySchema.Proofs.Schema.Searches

/-!
# Proofs/Schema/KeyFields — the one key of an entity

If nothing is unclear in a registry each of its entities has one primary key.  Everything that is
made for the entity then agrees on it: the object type has one field made from a key, of type `ID!`
whatever the column is stored or overridden as; updates and deletes pick their rows by it, searches
have one filter on it, and the update input does without it (`Registry.one_key_field`).

Other fields may be of type `ID!` too: an attribute that is stored or overridden as `ID`, or an
association to one row of an entity whose object type has that name.  Where there are neither, the
field of the key is the only one.
-/

namespace EntitySchema

open Sdl Schema

namespace Schema

/-- The field of a key. -/
def keyField (key : String) : Field := ⟨key, [], .nonNull (.named Scalar.id.name)⟩

/-- Is the field made from an attribute that is a primary key? -/
def Source.isKey : Source → Bool
  | .attribute _ _ primaryKey => primaryKey
  | _ => false

variable (r : Registry) (e : Entity)

/-- The fields of an entity's object type with what they are made from. -/
def tracedObject : TracedFields :=
  tracedAttributes e ++ e.associations.toList.flatMap (tracedAssociation r e)

/-- Everything that is made for the entity agrees on `key` being its key. -/
structure OneKey (key : String) : Prop where
  declared : e.primaryKeys.map Prod.fst = [key]
  /-- The fields of the object type are traced faithfully. -/
  traced : (tracedObject r e).map Prod.snd = (entityTypes r e).object.fields
  /-- One of them is made from a key, and it is `ID!`. -/
  object : (tracedObject r e).filter (·.1.isKey) = [(.attribute e.name key true, keyField key)]
  /-- No other field is `ID!`, unless something else has the type `ID`. -/
  only : (∀ p ∈ e.attributes.toList, p.2.primaryKey = false → p.2.outputType ≠ Scalar.id.name) →
    (∀ d ∈ r.entities, d.typeName ≠ Scalar.id.name) →
    (entityTypes r e).object.fields.filter (·.type = .nonNull (.named Scalar.id.name))
      = [keyField key]
  /-- The mutations are traced faithfully. -/
  tracedMutations : (Schema.tracedMutations e).map Prod.snd = mutationFields e
  /-- The updates and deletes among them pick their rows by the key alone. -/
  mutations : ∀ v f, (.mutation v e.name, f) ∈ Schema.tracedMutations e → v.picksRows = true →
    rowFilters f = [key]
  /-- A search has one filter on the key, unless a control has its name. -/
  search : (e.flags.tableHandler = true → key ∉ tableHandler.map Argument.name) →
    (searchArguments e).filter (·.name = key) = [⟨key, operatorFilter false⟩]
  update : key ∉ (entityTypes r e).updateInput.fields.map Field.name

variable {r e}

/-! ## On the object type -/

theorem attributeField_of_primaryKey {a : Attribute} (ha : a.primaryKey = true) (name : String) :
    attributeField name a = keyField name := by
  rw [attributeField, if_pos ha]
  rfl

/-- **The fields made from keys are those of the keys, in order of declaration.** -/
theorem filter_isKey_tracedObject (r : Registry) (e : Entity) :
    (tracedObject r e).filter (·.1.isKey)
      = e.primaryKeys.map fun p => (.attribute e.name p.1 true, keyField p.1) := by
  have hassociations : (e.associations.toList.flatMap (tracedAssociation r e)).filter
      (·.1.isKey) = [] := by
    refine List.filter_eq_nil_iff.mpr fun p hp => ?_
    obtain ⟨a, -, hp⟩ := List.mem_flatMap.mp hp
    rw [tracedAssociation] at hp
    split at hp
    · exact absurd hp List.not_mem_nil
    · obtain ⟨f, -, rfl⟩ := List.mem_map.mp hp
      exact Bool.false_ne_true
  rw [tracedObject, List.filter_append, hassociations, List.append_nil, tracedAttributes,
    List.filter_map, Entity.primaryKeys]
  refine List.map_congr_left fun p hp => ?_
  have hkey : p.2.primaryKey = true := (List.mem_filter.mp hp).2
  rw [attributeField_of_primaryKey hkey, hkey]

/-- Only a key is made into `ID!`, if nothing else has the type `ID`. -/
theorem type_attributeField_eq_id_iff {p : String × Attribute}
    (hp : p.2.primaryKey = false → p.2.outputType ≠ Scalar.id.name) :
    (attributeField p.1 p.2).type = .nonNull (.named Scalar.id.name) ↔ p.2.primaryKey = true := by
  cases hkey : p.2.primaryKey with
  | true => exact iff_of_true (by rw [attributeField_of_primaryKey hkey]; rfl) rfl
  | false =>
    refine iff_of_false (fun h => hp hkey ?_) Bool.false_ne_true
    have hbase := congrArg TypeRef.baseName h
    rwa [attributeField, hkey, if_neg Bool.false_ne_true,
      Request.baseName_nullableType] at hbase

/-- An association is never made into `ID!`, if no entity has the type name `ID`. -/
theorem type_associationFields_ne_id (h : r.Settled)
    (hid : ∀ d ∈ r.entities, d.typeName ≠ Scalar.id.name) (a : Association) :
    ∀ f ∈ associationFields r a, f.type ≠ .nonNull (.named Scalar.id.name) := by
  intro f hf
  rw [associationFields] at hf
  split at hf
  · exact absurd hf List.not_mem_nil
  · next t ht =>
    split at hf
    · obtain rfl := List.mem_singleton.mp hf
      intro htype
      have hmem := Registry.mem_entities_of_get? (Registry.get?_of_resolve? ht)
      refine hid t.entity hmem ?_
      rw [← h.typeName_of_resolve? ht]
      exact TypeRef.named.inj (TypeRef.nonNull.inj htype)
    · rcases List.mem_pair.mp hf with rfl | rfl
      · exact fun hlist => TypeRef.noConfusion (TypeRef.nonNull.inj hlist)
      · have hcount : TypeRef.namedRequired Scalar.int.name ≠ .nonNull (.named Scalar.id.name) := by
          decide
        exact hcount

/-- **The fields of type `ID!` are those of the keys**, if nothing else has the type `ID`. -/
theorem filter_id_object (h : r.Settled)
    (hp : ∀ p ∈ e.attributes.toList, p.2.primaryKey = false → p.2.outputType ≠ Scalar.id.name)
    (hid : ∀ d ∈ r.entities, d.typeName ≠ Scalar.id.name) :
    (entityTypes r e).object.fields.filter (·.type = .nonNull (.named Scalar.id.name))
      = e.primaryKeys.map fun p => keyField p.1 := by
  have hassociations : (allAssociationFields r e).filter
      (·.type = .nonNull (.named Scalar.id.name)) = [] := by
    refine List.filter_eq_nil_iff.mpr fun f hf => ?_
    obtain ⟨a, -, hf⟩ := List.mem_flatMap.mp hf
    exact mt of_decide_eq_true (type_associationFields_ne_id h hid a f hf)
  have hattributes : e.attributes.toList.filter
      (fun p => (attributeField p.1 p.2).type = .nonNull (.named Scalar.id.name))
        = e.primaryKeys := by
    refine List.filter_congr fun p hmem => ?_
    rw [Bool.eq_iff_iff, decide_eq_true_iff]
    exact type_attributeField_eq_id_iff (hp p hmem)
  rw [entityTypes, TypeDefinition.object, List.filter_append, hassociations, List.append_nil,
    List.filter_map]
  refine (congrArg _ hattributes).trans (List.map_congr_left fun p hmem => ?_)
  exact attributeField_of_primaryKey (List.mem_filter.mp hmem).2 p.1

/-! ## Where one key is declared -/

section

variable {key : String} {a : Attribute} (hkey : e.primaryKeys = [(key, a)])

include hkey

/-- **A search has one filter on the key**, unless a control has its name. -/
theorem filter_searchArguments
    (hcontrols : e.flags.tableHandler = true → key ∉ tableHandler.map Argument.name) :
    (searchArguments e).filter (·.name = key) = [⟨key, operatorFilter false⟩] := by
  have hparts := searchParts e
  have hkeys : primaryKeyFilters e false = [⟨key, operatorFilter false⟩] := by
    rw [primaryKeyFilters, hkey]
    rfl
  have hnodup := hparts.nodup
  rw [hkeys, List.map_append, List.nodup_append] at hnodup
  have hown : (e.attributes.toList.filterMap fun p => searchArgument? e p.1 p.2).filter
      (·.name = key) = [] := by
    refine List.filter_eq_nil_iff.mpr fun b hb => mt of_decide_eq_true ?_
    exact hnodup.2.2 _ (List.mem_map_of_mem hb) _ List.mem_cons_self
  have hlast : (if e.flags.tableHandler then tableHandler else []).filter (·.name = key) = [] := by
    split
    · next ht =>
      refine List.filter_eq_nil_iff.mpr fun b hb => mt of_decide_eq_true fun hn => ?_
      exact hcontrols ht (hn ▸ List.mem_map_of_mem hb)
    · rfl
  rw [hparts.arguments, List.filter_append, List.filter_append, hown, hlast, hkeys,
    List.append_nil, List.nil_append, List.filter_singleton, decide_eq_true rfl]
  rfl

/-- The update input has no field of the name of the key. -/
theorem key_notMem_updateArguments : key ∉ (updateArguments e).map Argument.name := by
  have hmem : (key, a) ∈ e.primaryKeys := hkey ▸ List.mem_singleton_self _
  obtain ⟨hmem, ha⟩ := List.mem_filter.mp hmem
  intro hn
  obtain ⟨b, hb, hname⟩ := List.mem_map.mp hn
  obtain ⟨p, hp, hb⟩ := List.mem_filterMap.mp hb
  -- the name belongs to one attribute only, and that is the key
  have hsame : p = (key, a) := List.inj_on_of_nodup_map e.attributes.nodup_keys hp hmem
    ((name_of_mem_updateArgument? hb).symm.trans hname)
  rw [hsame, updateArgument?, ha, Bool.or_true, if_pos rfl] at hb
  contradiction

theorem oneKey (h : r.Settled) : OneKey r e key where
  declared := by rw [hkey]; rfl
  traced := map_snd_object r e
  object := by rw [filter_isKey_tracedObject, hkey]; rfl
  only hp hid := by rw [filter_id_object h hp hid, hkey]; rfl
  tracedMutations := map_snd_tracedMutations e
  mutations v f hf hv := by
    obtain ⟨w, -, hw⟩ := List.mem_map.mp hf
    obtain ⟨hs, rfl⟩ := Prod.mk.inj hw
    obtain ⟨rfl, -⟩ := Source.mutation.inj hs
    rw [rowFilters_mutation hv, hkey]
    rfl
  search := filter_searchArguments hkey
  update := by
    have hnames : (entityTypes r e).updateInput.fields.map Field.name
        = (updateArguments e).map Argument.name := List.map_map
    rw [hnames]
    exact key_notMem_updateArguments hkey

end

end Schema

namespace Registry

variable {r : Registry} {e : Entity}

/-- **Where nothing is unclear, an entity has one key in all that is made for it.**  Its object type
has one field made from a primary key, which is `ID!`; this is the only such field if no other
attribute is shown as `ID` and no entity has that type name.  The updates and deletes that are made
for it pick their rows by the key, its searches have one filter on it, and the update input has no
field of that name. -/
theorem one_key_field (h : r.Reachable) (hd : r.diagnose = []) (he : e ∈ r.entities) :
    ∃ key, OneKey r e key := by
  have hissues : ({ registry := r } : Request).issues = [] := by
    rw [Request.issues, hd]
    rfl
  obtain ⟨⟨key, a⟩, hkey⟩ := Request.exists_primaryKeys_eq h.settled hissues he
  exact ⟨key, oneKey hkey h.settled⟩

/-- An entry of an account, whose number may be missing and is overridden as `BIGINT`. -/
def entry : Entity where
  name := "entry"
  attributes := .ofList [
    ("text", { storageType := "TEXT", allowNull := false }),
    ("number", { storageType := "INTEGER", primaryKey := true, overrideType := some "BIGINT" })]
  associations := .ofList [
    ("account", { fieldName := "account", target := "account", multiplicity := .one })]

/-- Accounts with their entries. -/
def ledger : Registry := .ofList [
  { name := "account"
    attributes := .ofList [("iban", { storageType := "STRING", primaryKey := true })]
    associations := .ofList [
      ("entries", { fieldName := "entries", target := "entry", multiplicity := .many })] },
  entry]

/-- Entries have their number for a key, and no other field that is `ID!`. -/
theorem one_key_field_ledger :
    ledger.Reachable ∧ ledger.diagnose = [] ∧ entry.complete ∈ ledger.entities ∧
      OneKey ledger entry.complete "number" ∧
      (entityTypes ledger entry.complete).object.fields.filter
        (·.type = .nonNull (.named Scalar.id.name)) = [keyField "number"] := by
  have hreachable : ledger.Reachable := reachable_ofList _
  have hdiagnose : ledger.diagnose = [] := by decide
  have hentry : entry.complete ∈ ledger.entities := by decide
  obtain ⟨key, hkey⟩ := one_key_field hreachable hdiagnose hentry
  obtain rfl : key = "number" := by
    have hdeclared : entry.complete.primaryKeys.map Prod.fst = ["number"] := by decide
    exact (List.cons.inj (hkey.declared.symm.trans hdeclared)).1
  exact ⟨hreachable, hdiagnose, hentry, hkey, hkey.only (by decide) (by decide)⟩

end Registry

end EntitySchema
