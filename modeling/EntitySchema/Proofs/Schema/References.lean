import EntitySchema.Proofs.Schema.Definitions

/-!
# Proofs/Schema/References — what type references refer to

Fields of object types refer to scalars, to the object types of entities, or to what an attribute
is stored or overridden as; arguments and fields of input types refer to scalars, to declared input
types, or to what an attribute is stored as.  Where the storage table knows every storage and
override type, each reference is to a scalar or to a type that the document declares, with the
keyword that its position asks for.

There is one lemma for each function that makes fields or arguments; what an association refers to
is declared because the name that it was resolved by is the target's own.
-/

namespace EntitySchema

open Sdl Schema

/-- Is that the name of a built-in scalar? -/
def Scalar.IsName (n : String) : Prop := ∃ s : Scalar, n = s.name

/-- Every storage and override type is a key of the storage table. -/
def Registry.TypesKnown (r : Registry) : Prop :=
  ∀ e ∈ r.entities, ∀ p ∈ e.attributes.toList, (Scalar.ofStorage? p.2.storageType).isSome ∧
    ∀ o ∈ p.2.overrideType, (Scalar.ofStorage? o).isSome

instance (r : Registry) : Decidable r.TypesKnown :=
  inferInstanceAs (Decidable (∀ e ∈ r.entities, ∀ p ∈ e.attributes.toList,
    (Scalar.ofStorage? p.2.storageType).isSome ∧
      ∀ o ∈ p.2.overrideType, (Scalar.ofStorage? o).isSome))

namespace Request

/-- The document declares a type of that name by the keyword of `kind`. -/
def Declares (q : Request) (kind : Kind) (n : String) : Prop :=
  ∃ t, Definition.type t ∈ q.document ∧ t.kind = kind ∧ t.name = n

/-- What a field `f` of an object type `t` may refer to: a scalar, the declared object type of an
entity, or, for the field of an attribute that is no key, the attribute's override or storage
type. -/
def OutputReference (q : Request) (t : TypeDefinition) (f : Field) : Prop :=
  Scalar.IsName f.type.baseName ∨
  (∃ e ∈ q.registry.entities, f.type.baseName = e.typeName ∧
    Definition.type (entityTypes q.registry e).object ∈ q.document) ∨
  ∃ e ∈ q.registry.entities, t = (entityTypes q.registry e).object ∧
    ∃ p ∈ e.attributes.toList, f = attributeField p.1 p.2 ∧ p.2.primaryKey = false ∧
      f.type.baseName = schemaTypeOf (p.2.overrideType.getD p.2.storageType)

/-- What an argument or a field of an input type may refer to: a scalar, the declared type of the
operators or of an entity's create or update input, or an attribute's storage type. -/
def InputReference (q : Request) (n : String) : Prop :=
  Scalar.IsName n ∨
  (q.Declares .input n ∧ (n = operatorInput ∨ ∃ e ∈ q.registry.entities,
    n = Naming.createInput e.typeName ∨ n = Naming.updateInput e.typeName)) ∨
  ∃ e ∈ q.registry.entities, ∃ p ∈ e.attributes.toList, n = schemaTypeOf p.2.storageType

/-- The references of a field `f` of a type `t`: its own, by the kind of `t`, and those of its
arguments. -/
structure FieldRefers (q : Request) (t : TypeDefinition) (f : Field) : Prop where
  output : t.kind = .object → q.OutputReference t f
  input : t.kind = .input → q.InputReference f.type.baseName
  arguments : ∀ a ∈ f.arguments, q.InputReference a.type.baseName

variable {q : Request}

/-! ## Inputs -/

theorem InputReference.scalar (s : Scalar) : q.InputReference s.name := Or.inl ⟨s, rfl⟩

theorem InputReference.operator : q.InputReference operatorInput :=
  Or.inr (Or.inl ⟨⟨operatorInputType, type_mem_document_iff.mpr (Or.inl rfl), rfl, rfl⟩,
    Or.inl rfl⟩)

theorem InputReference.operatorFilter (required : Bool) :
    q.InputReference (operatorFilter required).baseName := by
  cases required with
  | true => exact .operator
  | false => exact .operator

variable {e : Entity}

theorem InputReference.createInput (he : e ∈ q.registry.entities) :
    q.InputReference (Naming.createInput e.typeName) :=
  Or.inr (Or.inl ⟨⟨(entityTypes q.registry e).createInput,
    type_mem_document_iff.mpr (Or.inr (Or.inl ⟨e, he, Or.inr (Or.inl rfl)⟩)), rfl, rfl⟩,
    Or.inr ⟨e, he, Or.inl rfl⟩⟩)

theorem InputReference.updateInput (he : e ∈ q.registry.entities) :
    q.InputReference (Naming.updateInput e.typeName) :=
  Or.inr (Or.inl ⟨⟨(entityTypes q.registry e).updateInput,
    type_mem_document_iff.mpr (Or.inr (Or.inl ⟨e, he, Or.inr (Or.inr rfl)⟩)), rfl, rfl⟩,
    Or.inr ⟨e, he, Or.inr rfl⟩⟩)

theorem InputReference.attribute (he : e ∈ q.registry.entities) {p : String × Attribute}
    (hp : p ∈ e.attributes.toList) : q.InputReference p.2.inputType :=
  Or.inr (Or.inr ⟨e, he, p, hp, rfl⟩)

theorem inputReference_primaryKeyFilters (required : Bool) :
    ∀ a ∈ primaryKeyFilters e required, q.InputReference a.type.baseName := by
  intro a ha
  obtain ⟨p, -, rfl⟩ := List.mem_map.mp ha
  exact .operatorFilter required

theorem inputReference_searchArguments (he : e ∈ q.registry.entities) :
    ∀ a ∈ searchArguments e, q.InputReference a.type.baseName := by
  intro a ha
  rw [searchArguments, List.mem_append, List.mem_append] at ha
  rcases ha with (ha | ha) | ha
  · obtain ⟨p, hp, ha⟩ := List.mem_filterMap.mp ha
    rw [searchArgument?] at ha
    split at ha
    · exact absurd ha (by simp)
    · obtain rfl := Option.some.inj ha
      split
      · exact .operatorFilter false
      · exact .attribute he hp
  · exact inputReference_primaryKeyFilters false a ha
  · split at ha
    · simp only [tableHandler, List.mem_cons, List.not_mem_nil, or_false] at ha
      rcases ha with rfl | rfl | rfl | rfl
      · exact .scalar .int
      · exact .scalar .int
      · exact .scalar .string
      · exact .scalar .string
    · exact absurd ha List.not_mem_nil

theorem baseName_nullableType (name : String) (allowNull : Bool) :
    (nullableType name allowNull).baseName = name := by
  cases allowNull <;> rfl

theorem inputReference_createArguments (he : e ∈ q.registry.entities) :
    ∀ a ∈ createArguments e, q.InputReference a.type.baseName := by
  intro a ha
  obtain ⟨p, hp, ha⟩ := List.mem_filterMap.mp ha
  rw [createArgument?] at ha
  split at ha
  · exact absurd ha (by simp)
  split at ha
  · split at ha
    · exact absurd ha (by simp)
    · obtain rfl := Option.some.inj ha
      exact .scalar .id
  · obtain rfl := Option.some.inj ha
    rw [baseName_nullableType]
    exact .attribute he hp

theorem inputReference_updateArguments (he : e ∈ q.registry.entities) :
    ∀ a ∈ updateArguments e, q.InputReference a.type.baseName := by
  intro a ha
  obtain ⟨p, hp, ha⟩ := List.mem_filterMap.mp ha
  rw [updateArgument?] at ha
  split at ha
  · exact absurd ha (by simp)
  · obtain rfl := Option.some.inj ha
    exact .attribute he hp

theorem inputReference_operators : ∀ a ∈ operators, q.InputReference a.type.baseName := by
  have h : ∀ a ∈ operators, a.type.baseName = Scalar.string.name := by decide
  intro a ha
  rw [h a ha]
  exact .scalar .string

/-- A field of an input type, which has no arguments of its own. -/
theorem FieldRefers.ofArgument {name : String} {args : List Argument}
    (h : ∀ a ∈ args, q.InputReference a.type.baseName) :
    ∀ f ∈ (TypeDefinition.input name args).fields, q.FieldRefers (.input name args) f := by
  intro f hf
  obtain ⟨a, ha, rfl⟩ := List.mem_map.mp hf
  exact ⟨nofun, fun _ => h a ha, nofun⟩

/-! ## Outputs -/

theorem OutputReference.scalar {t : TypeDefinition} {f : Field} (s : Scalar)
    (h : f.type.baseName = s.name) : q.OutputReference t f := Or.inl ⟨s, h⟩

theorem OutputReference.entity (he : e ∈ q.registry.entities) {t : TypeDefinition} {f : Field}
    (h : f.type.baseName = e.typeName) : q.OutputReference t f :=
  Or.inr (Or.inl ⟨e, he, h, type_mem_document_iff.mpr (Or.inr (Or.inl ⟨e, he, Or.inl rfl⟩))⟩)

/-- A field of an object type. -/
theorem FieldRefers.ofOutput {t : TypeDefinition} {f : Field} (ht : t.kind = .object)
    (h : q.OutputReference t f) (ha : ∀ a ∈ f.arguments, q.InputReference a.type.baseName) :
    q.FieldRefers t f :=
  ⟨fun _ => h, fun hk => (nomatch ht.symm.trans hk), ha⟩

theorem fieldRefers_attributeField (he : e ∈ q.registry.entities) {p : String × Attribute}
    (hp : p ∈ e.attributes.toList) :
    q.FieldRefers (entityTypes q.registry e).object (attributeField p.1 p.2) := by
  refine .ofOutput rfl ?_ nofun
  cases hk : p.2.primaryKey with
  | true =>
    refine .scalar .id ?_
    rw [attributeField, hk]
    rfl
  | false =>
    refine Or.inr (Or.inr ⟨e, he, rfl, p, hp, rfl, hk, ?_⟩)
    rw [attributeField, hk]
    exact baseName_nullableType p.2.outputType p.2.allowNull

/-- The target of a resolved association is registered, so its type is declared, under the name that
the association's field refers to. -/
theorem fieldRefers_associationFields (h : q.registry.Settled) {t : TypeDefinition}
    (ht : t.kind = .object) (a : Association) :
    ∀ f ∈ associationFields q.registry a, q.FieldRefers t f := by
  intro f hf
  rw [associationFields] at hf
  split at hf
  · exact absurd hf List.not_mem_nil
  rename_i u hu
  have he : u.entity ∈ q.registry.entities :=
    Registry.mem_entities_of_get? (Registry.get?_of_resolve? hu)
  have hn : u.typeName = u.entity.typeName := h.typeName_of_resolve? hu
  split at hf
  · obtain rfl := List.mem_singleton.mp hf
    exact .ofOutput ht (.entity he hn) nofun
  · simp only [List.mem_cons, List.not_mem_nil, or_false] at hf
    rcases hf with rfl | rfl
    · exact .ofOutput ht (.entity he hn) (inputReference_searchArguments he)
    · exact .ofOutput ht (.scalar .int rfl) (inputReference_searchArguments he)

theorem fieldRefers_object (h : q.registry.Settled) (he : e ∈ q.registry.entities) :
    ∀ f ∈ (entityTypes q.registry e).object.fields,
      q.FieldRefers (entityTypes q.registry e).object f := by
  intro f hf
  rcases List.mem_append.mp hf with hf | hf
  · obtain ⟨p, hp, rfl⟩ := List.mem_map.mp hf
    exact fieldRefers_attributeField he hp
  · obtain ⟨a, -, hf⟩ := List.mem_flatMap.mp hf
    exact fieldRefers_associationFields h rfl a f hf

theorem fieldRefers_queryFields (he : e ∈ q.registry.entities) :
    ∀ f ∈ queryFields e, q.FieldRefers q.queryType f := by
  intro f hf
  rw [queryFields] at hf
  split at hf
  · simp only [List.mem_cons, List.not_mem_nil, or_false] at hf
    rcases hf with rfl | rfl | rfl
    · exact .ofOutput rfl (.entity he rfl) (inputReference_searchArguments he)
    · exact .ofOutput rfl (.scalar .int rfl) (inputReference_searchArguments he)
    · exact .ofOutput rfl (.entity he rfl) (inputReference_searchArguments he)
  · exact absurd hf List.not_mem_nil

/-- A mutation under its flag. -/
theorem eq_of_mem_ite {α : Type} {c : Prop} [Decidable c] {a b : α}
    (h : b ∈ if c then [a] else []) : b = a := by
  split at h
  · exact List.mem_singleton.mp h
  · exact absurd h List.not_mem_nil

theorem fieldRefers_mutationFields (he : e ∈ q.registry.entities) :
    ∀ f ∈ mutationFields e, q.FieldRefers q.mutationType f := by
  intro f hf
  rw [mutationFields, List.mem_append, List.mem_append] at hf
  rcases hf with (hf | hf) | hf
  · obtain rfl := eq_of_mem_ite hf
    refine .ofOutput rfl (.entity he rfl) fun a ha => ?_
    obtain rfl := List.mem_singleton.mp ha
    exact .createInput he
  · obtain rfl := eq_of_mem_ite hf
    refine .ofOutput rfl (.scalar .int rfl) fun a ha => ?_
    rcases List.mem_append.mp ha with ha | ha
    · exact inputReference_primaryKeyFilters true a ha
    · obtain rfl := List.mem_singleton.mp ha
      exact .updateInput he
  · obtain rfl := eq_of_mem_ite hf
    exact .ofOutput rfl (.scalar .int rfl) (inputReference_primaryKeyFilters true)

/-- The fields of a root type come from exposed entities, which are registered. -/
theorem fieldRefers_of_exposed {t : TypeDefinition} {g : Entity → List Field}
    (h : ∀ e ∈ q.registry.entities, ∀ f ∈ g e, q.FieldRefers t f) :
    ∀ f ∈ q.exposedEntities.flatMap g, q.FieldRefers t f := by
  intro f hf
  obtain ⟨e, he, hf⟩ := List.mem_flatMap.mp hf
  exact h e (q.exposedEntities_subset he) f hf

/-! ## The whole document -/

theorem fieldRefers_of_mem (h : q.registry.Settled) {t : TypeDefinition}
    (ht : Definition.type t ∈ q.document) : ∀ f ∈ t.fields, q.FieldRefers t f := by
  rcases type_mem_document_iff.mp ht with rfl | ⟨e, he, rfl | rfl | rfl⟩ | rfl | rfl
  · exact .ofArgument inputReference_operators
  · exact fieldRefers_object h he
  · exact .ofArgument (inputReference_createArguments he)
  · exact .ofArgument (inputReference_updateArguments he)
  · exact fieldRefers_of_exposed fun e he => fieldRefers_queryFields he
  · exact fieldRefers_of_exposed fun e he => fieldRefers_mutationFields he

/-- What the storage table knows is shown as a scalar. -/
theorem isName_schemaTypeOf {s : String} (h : (Scalar.ofStorage? s).isSome) :
    Scalar.IsName (schemaTypeOf s) := by
  obtain ⟨c, hc⟩ := Option.isSome_iff_exists.mp h
  refine ⟨c, ?_⟩
  rw [schemaTypeOf, hc]

theorem InputReference.resolve (h : q.registry.TypesKnown) {n : String} :
    q.InputReference n → Scalar.IsName n ∨ q.Declares .input n
  | .inl hn => .inl hn
  | .inr (.inl hn) => .inr hn.1
  | .inr (.inr ⟨e, he, p, hp, hn⟩) => .inl (hn ▸ isName_schemaTypeOf (h e he p hp).1)

theorem OutputReference.resolve (h : q.registry.TypesKnown) {t : TypeDefinition} {f : Field} :
    q.OutputReference t f → Scalar.IsName f.type.baseName ∨ q.Declares .object f.type.baseName
  | .inl hn => .inl hn
  | .inr (.inl ⟨_, _, hn, hd⟩) => .inr ⟨_, hd, rfl, hn.symm⟩
  | .inr (.inr ⟨e, he, _, p, hp, _, _, hn⟩) => by
      obtain ⟨hs, ho⟩ := h e he p hp
      refine .inl (hn ▸ isName_schemaTypeOf ?_)
      cases hov : p.2.overrideType with
      | none => exact hs
      | some o => exact ho o hov

/-- **No reference dangles.**  Every field of every declared type refers as its position allows; and
where the storage table knows all types of the registry, to a scalar or to a type that the document
declares, an object type from fields of object types and an input type from all else. -/
theorem no_dangling_reference (q : Request) (h : q.registry.Reachable) :
    (∀ t, Definition.type t ∈ q.document → ∀ f ∈ t.fields, q.FieldRefers t f) ∧
    (q.registry.TypesKnown → ∀ t, Definition.type t ∈ q.document → ∀ f ∈ t.fields,
      (Scalar.IsName f.type.baseName ∨ q.Declares t.kind f.type.baseName) ∧
      ∀ a ∈ f.arguments, Scalar.IsName a.type.baseName ∨ q.Declares .input a.type.baseName) := by
  refine ⟨fun t ht => fieldRefers_of_mem h.settled ht, fun hk t ht f hf => ?_⟩
  have hr := fieldRefers_of_mem h.settled ht f hf
  refine ⟨?_, fun a ha => (hr.arguments a ha).resolve hk⟩
  cases hkind : t.kind with
  | object => exact (hr.output hkind).resolve hk
  | input => exact (hr.input hkind).resolve hk

/-- The books of the bookshop, among authors whose mood is nothing but a string. -/
def books : Request where
  registry := .ofList [
    Registry.author.withAttribute "mood" { storageType := "STRING" }, Registry.book]
  exposed := some ["book"]

theorem typesKnown_books : books.registry.TypesKnown := by decide

/-- In the bookshop the mood of an author refers to what it is overridden as; among the books every
reference is to a scalar or a declared type. -/
theorem no_dangling_reference_bookshop :
    (∀ t, Definition.type t ∈ ({ registry := Registry.bookshop } : Request).document →
      ∀ f ∈ t.fields, FieldRefers { registry := Registry.bookshop } t f) ∧
    books.registry.TypesKnown ∧
    ∀ t, Definition.type t ∈ books.document → ∀ f ∈ t.fields,
      (Scalar.IsName f.type.baseName ∨ books.Declares t.kind f.type.baseName) ∧
      ∀ a ∈ f.arguments, Scalar.IsName a.type.baseName ∨ books.Declares .input a.type.baseName :=
  ⟨(no_dangling_reference { registry := Registry.bookshop } Registry.reachable_bookshop).1,
    typesKnown_books,
    (no_dangling_reference books (Registry.reachable_ofList _)).2 typesKnown_books⟩

end Request

end EntitySchema
