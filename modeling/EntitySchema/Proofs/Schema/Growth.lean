import EntitySchema.Proofs.Schema.Issues
import Mathlib.Data.List.Flatten

/-!
# Proofs/Schema/Growth — one more entity leaves the rest of the schema as it was

An entity that is registered under a new name goes behind the others, which stay as they are.  It can
show in their types in one way only: as the target of an association.  What was resolved before stays
resolved, so fields of associations may come but never go (`Registry.fieldNames_sublist`), and with
them duplicates may come; associations that lead nowhere may go.

A resolved association keeps its target with one exception: the new entity captures it when it bears
the name that is tried first (`Registry.resolve?_register`).
-/

namespace EntitySchema

open Sdl Schema

/-! ## Issues by what they are about -/

/-- The parts of an entity that issues are about. -/
inductive Issue.Part
  | keys
  | associations
  | fieldNames
  deriving DecidableEq

/-- The part of an entity that the issue is about. -/
def Issue.part? : Issue → Option Issue.Part
  | missingPrimaryKey _ => some .keys
  | multiplePrimaryKeys _ _ => some .keys
  | unresolvedAssociation _ _ _ => some .associations
  | duplicateField _ _ => some .fieldNames
  | unknownEntity _ => none

namespace Registry

/-- The issues of a registry about one part of the entity of that name. -/
def issuesAbout (r : Registry) (name : String) (p : Issue.Part) : List Issue :=
  r.diagnose.filter fun i => i.part? == some p && i.isAbout name

/-- The issues of an entity about one of its parts. -/
def partIssues (r : Registry) (e : Entity) : Issue.Part → List Issue
  | .keys => primaryKeyIssues e
  | .associations => r.unresolvedIssues e
  | .fieldNames => (repeats (r.fieldNames e)).map (Issue.duplicateField e.name)

variable {r s : Registry} {d e : Entity}

theorem part?_of_mem_partIssues {i : Issue} : ∀ {p : Issue.Part}, i ∈ r.partIssues e p →
    i.part? = some p
  | .keys, h => by
      rw [partIssues, primaryKeyIssues] at h
      split at h
      · obtain rfl := List.mem_singleton.mp h
        rfl
      · exact absurd h List.not_mem_nil
      · obtain rfl := List.mem_singleton.mp h
        rfl
  | .associations, h => by
      obtain ⟨a, -, rfl⟩ := List.mem_map.mp h
      rfl
  | .fieldNames, h => by
      obtain ⟨f, -, rfl⟩ := List.mem_map.mp h
      rfl

theorem filter_partIssues (p p' : Issue.Part) :
    (r.partIssues e p').filter (·.part? == some p) = if p' = p then r.partIssues e p else [] := by
  split
  · next h =>
    subst h
    refine List.filter_eq_self.mpr fun i hi => ?_
    rw [part?_of_mem_partIssues hi, beq_self_eq_true]
  · next h =>
    refine List.filter_eq_nil_iff.mpr fun i hi => ?_
    rw [part?_of_mem_partIssues hi]
    simpa using h

/-- **The issues about a part of an entity are those that are found there.** -/
theorem Settled.issuesAbout_eq (h : r.Settled) (he : e ∈ r.entities) (p : Issue.Part) :
    r.issuesAbout e.name p = r.partIssues e p := by
  have hparts : r.entityIssues e
      = r.partIssues e .keys ++ r.partIssues e .associations ++ r.partIssues e .fieldNames := rfl
  rw [issuesAbout, ← List.filter_filter, h.filter_diagnose he, hparts, List.filter_append,
    List.filter_append, filter_partIssues, filter_partIssues, filter_partIssues]
  cases p <;> simp

/-! ## Where more is resolved -/

/-- What one registry resolves the other resolves too. -/
def ResolvesIn (r s : Registry) : Prop :=
  ∀ a, (r.resolve? a).isSome = true → (s.resolve? a).isSome = true

theorem associationFieldNames_sublist (h : r.ResolvesIn s) (a : Association) :
    (r.associationFieldNames a).Sublist (s.associationFieldNames a) := by
  rw [associationFieldNames, associationFieldNames]
  cases hr : r.resolve? a with
  | none => exact List.nil_sublist _
  | some t =>
    obtain ⟨t', hs⟩ := Option.isSome_iff_exists.mp (h a (hr ▸ rfl))
    rw [hs]
    cases a.multiplicity with
    | one => exact List.Sublist.refl _
    | many => exact List.Sublist.refl _

theorem flatMap_associationFieldNames_sublist (h : r.ResolvesIn s) (e : Entity) :
    (e.associations.values.flatMap r.associationFieldNames).Sublist
      (e.associations.values.flatMap s.associationFieldNames) :=
  List.Sublist.flatMap_right _ fun a _ => associationFieldNames_sublist h a

/-- **Fields may come, but none goes.** -/
theorem fieldNames_sublist (h : r.ResolvesIn s) (e : Entity) :
    (r.fieldNames e).Sublist (s.fieldNames e) :=
  (List.Sublist.refl _).append (flatMap_associationFieldNames_sublist h e)

/-- What repeats in a part of a list repeats in the list. -/
theorem repeats_subset {names names' : List String} (h : names.Sublist names') :
    repeats names ⊆ repeats names' := fun n hn =>
  mem_repeats.mpr (Nat.le_trans (mem_repeats.mp hn) (h.count_le n))

/-- **Associations that lead nowhere may go, but none comes.** -/
theorem unresolvedIssues_sublist (h : r.ResolvesIn s) (e : Entity) :
    (s.unresolvedIssues e).Sublist (r.unresolvedIssues e) := by
  refine List.Sublist.map _ (List.monotone_filter_right _ fun a ha => ?_)
  cases hr : r.resolve? a with
  | none => rfl
  | some t =>
    have hs := h a (hr ▸ rfl)
    rw [Option.isNone_iff_eq_none.mp ha] at hs
    exact nomatch hs

end Registry

/-! ## One more entity -/

/-- The name that is tried first for the target of an association. -/
def Association.firstCandidate (a : Association) : String := a.name.getD a.fieldName

namespace Registry

variable {r s : Registry} {d e : Entity}

theorem resolve?_eq (r : Registry) (a : Association) :
    r.resolve? a = ((r.get? a.firstCandidate).map (Target.mk a.firstCandidate)).or
      ((r.get? a.target).map (Target.mk a.target)) := by
  rw [resolve?, Association.candidates, List.findSome?_cons, List.findSome?_cons,
    List.findSome?_nil, Association.firstCandidate]
  cases r.get? (a.name.getD a.fieldName) <;> cases r.get? a.target <;> rfl

/-- **A new entity captures the associations that try its name first**, and no other association
that was resolved before. -/
theorem resolve?_register (he : r.get? e.name = none) {a : Association} {t : Target}
    (h : r.resolve? a = some t) :
    (r.register e).resolve? a
      = some (if a.firstCandidate = e.name then ⟨e.name, e.complete⟩ else t) := by
  rw [resolve?_eq] at h ⊢
  rw [get?_register, get?_register]
  by_cases hfirst : a.firstCandidate = e.name
  · rw [if_pos hfirst, if_pos hfirst, hfirst]
    rfl
  · rw [if_neg hfirst, if_neg hfirst]
    cases hget : r.get? a.firstCandidate with
    | some d =>
      rw [hget] at h
      exact h
    | none =>
      -- then it was the target that is registered, and so its name is not the new one
      rw [hget] at h
      have htarget : a.target ≠ e.name := by
        intro ht
        rw [ht, he] at h
        exact nomatch h
      rw [if_neg htarget]
      exact h

theorem resolvesIn_register (he : r.get? e.name = none) : r.ResolvesIn (r.register e) := by
  intro a ha
  obtain ⟨t, ht⟩ := Option.isSome_iff_exists.mp ha
  rw [resolve?_register he ht]
  rfl

/-- **A new entity goes behind the others.** -/
theorem entities_register (he : r.get? e.name = none) :
    (r.register e).entities = r.entities ++ [e.complete] := by
  have hkey : e.name ∉ r.table.keys := OrderedMap.get?_eq_none_iff.mp he
  have hlist : (r.register e).table.toList = r.table.toList ++ [(e.name, e.complete)] :=
    OrderedMap.put_of_notMem _ _ _ hkey
  rw [entities, entities, OrderedMap.values, OrderedMap.values, hlist, List.map_append]
  rfl

/-- An entity that was there is there as it was. -/
theorem Settled.get?_register_of_mem (h : r.Settled) (he : r.get? e.name = none)
    (hd : d ∈ r.entities) : (r.register e).get? d.name = some d := by
  obtain ⟨⟨key, d⟩, hp, rfl⟩ := List.mem_map.mp hd
  have hname : d.name = key := (h _ hp).1
  have hget : r.get? d.name = some d := hname ▸ OrderedMap.get?_eq_some_iff.mpr hp
  have hne : d.name ≠ e.name := fun hn => by
    rw [hn, he] at hget
    exact nomatch hget
  rw [get?_register, if_neg hne, hget]

/-! ## What stays -/

/-- What the schema of `s` keeps of the schema of `r`, for an entity that is `d` in `r` and `d'` in
`s`. -/
structure Keeps (r s : Registry) (d d' : Entity) : Prop where
  /-- The fields of the attributes, which come first. -/
  attributes : (entityTypes s d').object.fields.take d'.attributes.size
    = (entityTypes r d).object.fields.take d.attributes.size
  /-- The fields of associations that were there, by name and in their order. -/
  associations : (((entityTypes r d).object.fields.drop d.attributes.size).map Field.name).Sublist
    (((entityTypes s d').object.fields.drop d'.attributes.size).map Field.name)
  createInput : (entityTypes s d').createInput = (entityTypes r d).createInput
  updateInput : (entityTypes s d').updateInput = (entityTypes r d).updateInput
  queries : queryFields d' = queryFields d
  mutations : mutationFields d' = mutationFields d
  keyIssues : s.issuesAbout d'.name .keys = r.issuesAbout d.name .keys
  /-- Associations that lead nowhere may go. -/
  unresolved : (s.issuesAbout d'.name .associations).Sublist (r.issuesAbout d.name .associations)
  /-- Duplicates may come. -/
  duplicates : r.issuesAbout d.name .fieldNames ⊆ s.issuesAbout d'.name .fieldNames

theorem take_object_fields (r : Registry) (e : Entity) :
    (entityTypes r e).object.fields.take e.attributes.size
      = e.attributes.toList.map fun p => attributeField p.1 p.2 :=
  List.take_left' (List.length_map _)

theorem drop_object_fields (r : Registry) (e : Entity) :
    (entityTypes r e).object.fields.drop e.attributes.size = allAssociationFields r e :=
  List.drop_left' (List.length_map _)

/-- **An entity of two settled registries keeps its place in the schema**, if the one resolves what
the other does. -/
theorem ResolvesIn.keeps (h : r.ResolvesIn s) (hr : r.Settled) (hs : s.Settled)
    (hdr : d ∈ r.entities) (hds : d ∈ s.entities) : r.Keeps s d d where
  attributes := by rw [take_object_fields, take_object_fields]
  associations := by
    rw [drop_object_fields, drop_object_fields, map_name_allAssociationFields,
      map_name_allAssociationFields]
    exact flatMap_associationFieldNames_sublist h d
  createInput := rfl
  updateInput := rfl
  queries := rfl
  mutations := rfl
  keyIssues := by
    rw [hs.issuesAbout_eq hds, hr.issuesAbout_eq hdr]
    rfl
  unresolved := by
    rw [hs.issuesAbout_eq hds, hr.issuesAbout_eq hdr]
    exact unresolvedIssues_sublist h d
  duplicates := by
    rw [hs.issuesAbout_eq hds, hr.issuesAbout_eq hdr]
    exact List.map_subset _ (repeats_subset (fieldNames_sublist h d))

/-- **One more entity leaves the rest of the schema as it was.**  Registered under a new name it goes
behind the others, which keep all that was made of them but for fields of associations that come in
between.  An association that was resolved leads where it led, unless the name that it tries first
was not registered and is that of the new entity. -/
theorem register_monotone {r : Registry} (h : r.Reachable) {e : Entity}
    (he : r.contains e.name = false) :
    (r.register e).entities = r.entities ++ [e.complete] ∧
      (∀ d ∈ r.entities, ∃ d', (r.register e).get? d.name = some d' ∧ r.Keeps (r.register e) d d') ∧
      ∀ a t, r.resolve? a = some t → (r.register e).resolve? a
        = some (if r.contains a.firstCandidate = false ∧ a.firstCandidate = e.name
            then ⟨e.name, e.complete⟩ else t) := by
  have hget : r.get? e.name = none := by
    rwa [contains, OrderedMap.contains_eq_isSome_get?, Option.isSome_eq_false_iff,
      Option.isNone_iff_eq_none] at he
  refine ⟨entities_register hget, fun d hd => ?_, fun a t ha => ?_⟩
  · have hmem : d ∈ (r.register e).entities := by
      rw [entities_register hget]
      exact List.mem_append_left _ hd
    exact ⟨d, h.settled.get?_register_of_mem hget hd,
      (resolvesIn_register hget).keeps h.settled (h.settled.register e) hd hmem⟩
  · rw [resolve?_register hget ha]
    refine congrArg some (if_congr ⟨fun hf => ⟨?_, hf⟩, And.right⟩ rfl rfl)
    rw [hf, he]

/-- The books of an author. -/
def works : Association := { fieldName := "books", target := "book", multiplicity := .many }

/-- Shelves, registered under the field name that authors have for their books. -/
def shelf : Entity := { name := "books" }

/-- Where shelves are registered the books of an author are shelves, and all else about authors is as
it was in the bookshop. -/
theorem register_monotone_bookshop :
    bookshop.Reachable ∧ bookshop.contains shelf.name = false ∧
      author.complete ∈ bookshop.entities ∧ works ∈ author.complete.associations.values ∧
      bookshop.resolve? works = some ⟨"book", book.complete⟩ ∧
      (bookshop.register shelf).resolve? works = some ⟨"books", shelf.complete⟩ ∧
      ∃ d', (bookshop.register shelf).get? "author" = some d' ∧
        bookshop.Keeps (bookshop.register shelf) author.complete d' := by
  have hnew : bookshop.contains shelf.name = false := by decide
  have hauthor : author.complete ∈ bookshop.entities := by decide
  have hworks : bookshop.resolve? works = some ⟨"book", book.complete⟩ := rfl
  obtain ⟨-, hkeeps, hresolve⟩ := register_monotone reachable_bookshop hnew
  refine ⟨reachable_bookshop, hnew, hauthor, by decide, hworks, ?_, hkeeps _ hauthor⟩
  rw [hresolve works _ hworks, if_pos ⟨hnew, rfl⟩]
  rfl

end Registry

end EntitySchema
