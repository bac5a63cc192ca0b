import EntitySchema.Proofs.Naming
import EntitySchema.Proofs.Schema.Definitions
import Mathlib.Data.List.Nodup
import Mathlib.Data.List.ProdSigma

/-!
# Proofs/Schema/TypeNames — types found by their names

The name of a declared type is a mark with a word behind it: no mark for object types, one for the
operators and one for each kind of input type (`Mark`).  Words that do not begin with an underscore
can be told from their marks (`Mark.append_inj`), so as long as the words of one mark are different,
so are the names, and looking a type up by its name finds that type and no other one.
-/

namespace EntitySchema

open Sdl Schema

/-! ## Types by name -/

/-- The types that a document declares, in order. -/
def Sdl.Document.types (d : Document) : List TypeDefinition := d.filterMap Definition.type?

/-- The names of the types that a document declares, in order. -/
def Sdl.Document.typeNames (d : Document) : List String := d.types.map TypeDefinition.name

theorem Sdl.Document.mem_types {d : Document} {t : TypeDefinition} :
    t ∈ d.types ↔ Definition.type t ∈ d := by
  rw [types, List.mem_filterMap]
  constructor
  · rintro ⟨_ | _, hx, h⟩
    · obtain rfl := Option.some.inj h
      exact hx
    · exact nomatch h
  · exact fun h => ⟨_, h, rfl⟩

/-- **Where no two types share their name, every type is found by its own.** -/
theorem Sdl.Document.type?_eq_some {d : Document} (hd : d.typeNames.Nodup) {t : TypeDefinition}
    (ht : Definition.type t ∈ d) : d.type? t.name = some t := by
  have ht := mem_types.mpr ht
  obtain ⟨u, hu⟩ : ∃ u, d.types.find? (·.name == t.name) = some u :=
    Option.isSome_iff_exists.mp (List.find?_isSome.mpr ⟨t, ht, beq_self_eq_true _⟩)
  have hname : u.name = t.name := by simpa using List.find?_some hu
  rwa [List.inj_on_of_nodup_map hd (List.mem_of_find?_eq_some hu) ht hname] at hu

/-! ## Marks -/

namespace Schema

/-- What stands in front of the name of a type. -/
inductive Mark
  /-- Nothing, in front of object types. -/
  | object
  /-- The mark of the operators. -/
  | operator
  /-- The mark of create inputs. -/
  | createInput
  /-- The mark of update inputs. -/
  | updateInput
  deriving DecidableEq

namespace Mark

/-- The mark as it is written. -/
def text : Mark → String
  | object => ""
  | operator => "_input"
  | createInput => "_createInput"
  | updateInput => "_updateInput"

/-- The marks of the types of an entity, in order. -/
def ofEntity : List Mark := [object, createInput, updateInput]

/-- The letter that tells the mark, if there is a mark. -/
def letter : Mark → Option Char
  | object => none
  | operator => some 'i'
  | createInput => some 'c'
  | updateInput => some 'u'

theorem letter_inj {m n : Mark} (h : m.letter = n.letter) : m = n := by
  revert h
  cases m <;> cases n <;> decide

/-- The letter behind an underscore at the beginning. -/
def letter? : List Char → Option Char
  | '_' :: c :: _ => some c
  | _ => none

theorem letter?_append {m : Mark} {word : String} (h : Naming.IsPlain word) :
    letter? (m.text ++ word).toList = m.letter := by
  rw [String.toList_append]
  cases m with
  | object =>
    change letter? word.toList = none
    rw [letter?.eq_def]
    split
    · next hw => exact absurd (congrArg List.head? hw) h
    · rfl
  | operator => rfl
  | createInput => rfl
  | updateInput => rfl

/-- **A name tells the mark and the word that it was made from.** -/
theorem append_inj {m n : Mark} {a b : String} (ha : Naming.IsPlain a) (hb : Naming.IsPlain b)
    (h : m.text ++ a = n.text ++ b) : m = n ∧ a = b := by
  obtain rfl : m = n := letter_inj (by rw [← letter?_append ha, h, letter?_append hb])
  refine ⟨rfl, ?_⟩
  have hl := congrArg String.toList h
  rw [String.toList_append, String.toList_append] at hl
  exact String.toList_inj.mp (List.append_cancel_left hl)

end Mark

end Schema

/-! ## Names of entities that keep the types apart -/

/-- The names of the entities lead to different type names, which are not those of the root types
either, and none of them begins with an underscore. -/
structure Registry.TypesApart (r : Registry) : Prop where
  /-- No two names have the same type name. -/
  distinct : ∀ m ∈ r.names, ∀ n ∈ r.names, Naming.typeName m = Naming.typeName n → m = n
  /-- No name begins with an underscore. -/
  plain : ∀ n ∈ r.names, Naming.IsPlain n
  /-- No type name is that of a root type. -/
  roots : ∀ n ∈ r.names, Naming.typeName n ≠ "Query" ∧ Naming.typeName n ≠ "Mutation"

instance (r : Registry) : Decidable r.TypesApart :=
  decidable_of_iff
    ((∀ m ∈ r.names, ∀ n ∈ r.names, Naming.typeName m = Naming.typeName n → m = n) ∧
      (∀ n ∈ r.names, Naming.IsPlain n) ∧
      ∀ n ∈ r.names, Naming.typeName n ≠ "Query" ∧ Naming.typeName n ≠ "Mutation")
    ⟨fun ⟨hd, hp, hr⟩ => ⟨hd, hp, hr⟩, fun h => ⟨h.distinct, h.plain, h.roots⟩⟩

namespace Registry

variable {r : Registry}

theorem Settled.map_typeName (h : r.Settled) :
    r.entities.map Entity.typeName = r.names.map Naming.typeName := by
  rw [← h.map_name, List.map_map]
  rfl

theorem Settled.exists_name (h : r.Settled) {w : String} (hw : w ∈ r.entities.map Entity.typeName) :
    ∃ n ∈ r.names, Naming.typeName n = w := by
  rw [h.map_typeName] at hw
  exact List.mem_map.mp hw

/-- **No two entities have the same type name.** -/
theorem TypesApart.nodup_typeName (ha : r.TypesApart) (h : r.Settled) :
    (r.entities.map Entity.typeName).Nodup := by
  rw [h.map_typeName]
  exact r.table.nodup_keys.map_on ha.distinct

end Registry

/-! ## The names of a document -/

namespace Request

/-- The words and marks of the root types. -/
def rootWords : List (String × Mark) := [("Query", .object), ("Mutation", .object)]

/-- The words and marks that the names of the types of a document are made from, in order. -/
def markedWords (q : Request) : List (String × Mark) :=
  ("StringOperator", .operator) ::
    (q.registry.entities.map Entity.typeName ×ˢ Mark.ofEntity ++ rootWords)

/-- The name that is made from a word and a mark. -/
def markedName (p : String × Mark) : String := p.2.text ++ p.1

theorem typeNames_entityDefinitions (r : Registry) :
    Document.typeNames (entityDefinitions r)
      = (r.entities.map Entity.typeName ×ˢ Mark.ofEntity).map markedName := by
  simp only [Document.typeNames, Document.types, entityDefinitions, List.filterMap_flatMap,
    List.map_flatMap, SProd.sprod, List.product, List.flatMap_map, List.map_map]
  refine List.flatMap_congr fun e _ => ?_
  change [e.typeName, _, _] = ["" ++ e.typeName, _, _]
  rw [String.empty_append]
  rfl

/-- **The names of a document are made from its words and marks.** -/
theorem typeNames_document (q : Request) :
    q.document.typeNames = q.markedWords.map markedName := by
  have hfragments : (q.config.extensions.types.map Definition.fragment).filterMap Definition.type?
      = [] := by
    rw [List.filterMap_map]
    exact List.filterMap_eq_nil_iff.mpr fun _ _ => rfl
  calc q.document.typeNames
      = operatorInput :: (Document.typeNames (entityDefinitions q.registry) ++
          ["Query", "Mutation"]) := by
        rw [Document.typeNames, Document.types, Request.document, List.cons_append,
          List.cons_append, List.filterMap_cons, List.filterMap_append, List.filterMap_append,
          hfragments, List.append_nil]
        exact congrArg (List.cons _) List.map_append
    _ = q.markedWords.map markedName := by
        rw [typeNames_entityDefinitions, markedWords, List.map_cons, List.map_append]
        rfl

variable {q : Request}

theorem isPlain_of_mem_markedWords (h : q.registry.Settled) (ha : q.registry.TypesApart)
    {p : String × Mark} (hp : p ∈ q.markedWords) : Naming.IsPlain p.1 := by
  have hroots : ∀ p ∈ rootWords, Naming.IsPlain p.1 := by decide
  rw [markedWords, List.mem_cons, List.mem_append] at hp
  rcases hp with rfl | hp | hp
  · decide
  · obtain ⟨n, hn, hw⟩ := h.exists_name (List.mem_product.mp hp).1
    rw [← hw]
    exact (ha.plain n hn).capitalize
  · exact hroots p hp

theorem nodup_markedWords (h : q.registry.Settled) (ha : q.registry.TypesApart) :
    q.markedWords.Nodup := by
  refine List.nodup_cons.mpr ⟨fun hp => ?_, List.nodup_append.mpr
    ⟨(ha.nodup_typeName h).product (by decide), by decide, ?_⟩⟩
  · rw [List.mem_append] at hp
    rcases hp with hp | hp
    · exact absurd (List.mem_product.mp hp).2 (by decide)
    · exact absurd hp (by decide)
  · rintro p hp b hb rfl
    obtain ⟨n, hn, hw⟩ := h.exists_name (List.mem_product.mp hp).1
    have hroots : ∀ p ∈ rootWords, p.1 = "Query" ∨ p.1 = "Mutation" := by decide
    rcases hroots p hb with hp' | hp'
    · exact (ha.roots n hn).1 (hw.trans hp')
    · exact (ha.roots n hn).2 (hw.trans hp')

/-- **No two types of a document have the same name.** -/
theorem nodup_typeNames (h : q.registry.Settled) (ha : q.registry.TypesApart) :
    q.document.typeNames.Nodup := by
  rw [typeNames_document]
  refine (nodup_markedWords h ha).map_on fun a hpa b hpb hab => ?_
  obtain ⟨hm, hw⟩ := Mark.append_inj (isPlain_of_mem_markedWords h ha hpa)
    (isPlain_of_mem_markedWords h ha hpb) hab
  exact Prod.ext hw hm

/-! ## Finding -/

/-- Every type of the document is found by its name. -/
structure FindsTypes (q : Request) : Prop where
  /-- No two types of the document have the same name. -/
  nodup : q.document.typeNames.Nodup
  /-- Without type fragments, all definitions of the document are types. -/
  types : q.config.extensions.types = [] → ∀ text, Definition.fragment text ∉ q.document
  /-- An entity's type name, and the names of its inputs, lead to what is declared for it. -/
  entity : ∀ e ∈ q.registry.entities,
    q.document.type? e.typeName = some (entityTypes q.registry e).object ∧
    q.document.type? (Naming.createInput e.typeName)
      = some (entityTypes q.registry e).createInput ∧
    q.document.type? (Naming.updateInput e.typeName) = some (entityTypes q.registry e).updateInput
  /-- The names of the root types lead to the root types. -/
  roots : q.document.type? "Query" = some q.queryType ∧
    q.document.type? "Mutation" = some q.mutationType

theorem fragment_notMem_document (h : q.config.extensions.types = []) (text : String) :
    Definition.fragment text ∉ q.document := by
  simp [Request.document, entityDefinitions, EntityTypes.definitions, h]

/-- **Every entity can be found again by its type name**, whatever the configuration, its fragments
and the entities exposed: where the names of the entities keep the types apart, looking up the type
name of an entity, or the name of one of its inputs, gives the type made for it. -/
theorem types_found_by_name (q : Request) (h : q.registry.Reachable)
    (ha : q.registry.TypesApart) : q.FindsTypes where
  nodup := nodup_typeNames h.settled ha
  types := fragment_notMem_document
  entity e he := by
    have hn := nodup_typeNames h.settled ha
    have hfind : ∀ t, t = (entityTypes q.registry e).object ∨
        t = (entityTypes q.registry e).createInput ∨ t = (entityTypes q.registry e).updateInput →
        q.document.type? t.name = some t := fun t ht =>
      Document.type?_eq_some hn (type_mem_document_iff.mpr (.inr (.inl ⟨e, he, ht⟩)))
    exact ⟨hfind _ (.inl rfl), hfind _ (.inr (.inl rfl)), hfind _ (.inr (.inr rfl))⟩
  roots := by
    have hn := nodup_typeNames h.settled ha
    exact ⟨Document.type?_eq_some hn (type_mem_document_iff.mpr (.inr (.inr (.inl rfl)))),
      Document.type?_eq_some hn (type_mem_document_iff.mpr (.inr (.inr (.inr rfl))))⟩

/-- The bookshop, whose books alone are exposed, beside a query given as text. -/
theorem types_found_by_name_bookshop :
    Registry.bookshop.Reachable ∧ Registry.bookshop.TypesApart ∧
      FindsTypes { registry := .bookshop, exposed := some ["book"],
                   config := { extensions := { queries := ["now: String"] } } } :=
  have ha : Registry.bookshop.TypesApart := by decide +kernel
  ⟨Registry.reachable_bookshop, ha, types_found_by_name _ Registry.reachable_bookshop ha⟩

/-- Without the condition on the root types, an entity named `query` is found in place of the root
type. -/
example : Document.type? (document { registry := .ofList [{ name := "query" }] }) "Query"
    ≠ some (queryType { registry := .ofList [{ name := "query" }] }) := by
  decide +kernel

end Request

end EntitySchema
