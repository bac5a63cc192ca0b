import EntitySchema.Proofs.Registry.Reachable
import EntitySchema.Registry.Diagnosis
import EntitySchema.Schema.EntityTypes
import Mathlib.Data.List.Basic

/-!
# Proofs/Schema/Duplicates — diagnosed duplicates are generated duplicates

The diagnosis lists an entity's field names on its own, without generating the fields.  The two
lists are the same (`Registry.fieldNames_eq`), so the duplicates that are diagnosed for an entity
are the names that its object type has more than once, in the order in which each comes for the
second time.
-/

namespace EntitySchema

open Schema

/-! ## Names that stand more than once -/

/-- The position at which a name stands for the second time. -/
def secondPlace (n : String) : List String → Nat
  | [] => 0
  | m :: names => 1 + if m = n then names.idxOf n else secondPlace n names

theorem secondPlace_of_count_eq_one {n : String} (rest : List String) : ∀ {before : List String},
    before.count n = 1 → secondPlace n (before ++ n :: rest) = before.length
  | [], h => nomatch h
  | m :: before, h => by
      rw [List.cons_append, secondPlace, List.length_cons, Nat.add_comm]
      by_cases hm : m = n
      · subst hm
        have hn : m ∉ before := by
          rw [List.count_cons_self] at h
          exact List.count_eq_zero.mp (by omega)
        rw [if_pos rfl, List.idxOf_append_of_notMem hn, List.idxOf_cons_self, Nat.add_zero]
      · rw [List.count_cons_of_ne hm] at h
        rw [if_neg hm, secondPlace_of_count_eq_one rest h]

theorem length_le_secondPlace {n : String} (rest : List String) : ∀ {before : List String},
    before.count n ≤ 1 → before.length ≤ secondPlace n (before ++ rest)
  | [], _ => Nat.zero_le _
  | m :: before, h => by
      rw [List.cons_append, secondPlace, List.length_cons, Nat.add_comm]
      by_cases hm : m = n
      · subst hm
        have hn : m ∉ before := by
          rw [List.count_cons_self] at h
          exact List.count_eq_zero.mp (by omega)
        rw [if_pos rfl, List.idxOf_append_of_notMem hn]
        omega
      · rw [List.count_cons_of_ne hm] at h
        have := length_le_secondPlace rest h
        rw [if_neg hm]
        omega

/-- Behind `before` come for the second time the names that stand twice in all, but not before. -/
theorem mem_repeatsAfter {n : String} : ∀ (names before : List String),
    n ∈ repeatsAfter before names ↔ before.count n ≤ 1 ∧ 2 ≤ before.count n + names.count n
  | [], before => by
      rw [repeatsAfter, List.count_nil]
      refine ⟨fun h => absurd h List.not_mem_nil, fun h => ?_⟩
      omega
  | m :: names, before => by
      have ih := mem_repeatsAfter (n := n) names (m :: before)
      have hrest : n ∈ repeatsAfter before (m :: names) ↔
          (before.count m = 1 ∧ n = m) ∨ n ∈ repeatsAfter (m :: before) names := by
        rw [repeatsAfter]
        by_cases hc : before.count m = 1
        · simp [hc]
        · simp [hc]
      rw [hrest, ih]
      by_cases hm : m = n
      · subst hm
        simp only [List.count_cons_self, and_true]
        omega
      · simp only [List.count_cons_of_ne hm, Ne.symm hm, and_false, false_or]

/-- **Names are listed in the order of their second places.** -/
theorem pairwise_repeatsAfter : ∀ names before : List String,
    (repeatsAfter before names).Pairwise fun m n =>
      secondPlace m (before.reverse ++ names) < secondPlace n (before.reverse ++ names)
  | [], _ => List.Pairwise.nil
  | m :: names, before => by
      have ih := pairwise_repeatsAfter names (m :: before)
      have hl : before.reverse ++ m :: names = (m :: before).reverse ++ names := by simp
      rw [repeatsAfter]
      split
      · next hm =>
        refine List.pairwise_cons.mpr ⟨fun n hn => ?_, hl ▸ ih⟩
        -- `m` stands here, and whatever is listed later comes behind it
        have hm' : secondPlace m (before.reverse ++ m :: names) = before.reverse.length :=
          secondPlace_of_count_eq_one names (by rw [List.count_reverse, hm])
        have hc : (m :: before).reverse.count n ≤ 1 := by
          rw [List.count_reverse]
          exact ((mem_repeatsAfter names (m :: before)).mp hn).1
        have hn' := length_le_secondPlace names hc
        rw [hm', hl]
        simp only [List.length_reverse, List.length_cons] at hn' ⊢
        omega
      · rw [hl]
        exact ih

theorem mem_repeats {n : String} {names : List String} : n ∈ repeats names ↔ 2 ≤ names.count n := by
  rw [repeats, mem_repeatsAfter]
  simp

theorem pairwise_repeats (names : List String) :
    (repeats names).Pairwise fun m n => secondPlace m names < secondPlace n names :=
  pairwise_repeatsAfter names []

theorem nodup_repeats (names : List String) : (repeats names).Nodup :=
  (pairwise_repeats names).imp fun h e => by
    subst e
    exact absurd h (Nat.lt_irrefl _)

theorem repeats_eq_nil_iff {names : List String} : repeats names = [] ↔ names.Nodup := by
  rw [List.nodup_iff_count, List.eq_nil_iff_forall_not_mem]
  refine forall_congr' fun n => ?_
  rw [mem_repeats]
  omega

/-! ## Field names without the fields -/

theorem Registry.associationFieldNames_eq (r : Registry) (a : Association) :
    r.associationFieldNames a = (associationFields r a).map Sdl.Field.name := by
  rw [Registry.associationFieldNames, associationFields]
  cases r.resolve? a with
  | none => rfl
  | some t => cases a.multiplicity <;> rfl

theorem Schema.map_name_allAssociationFields (r : Registry) (e : Entity) :
    (allAssociationFields r e).map Sdl.Field.name
      = e.associations.values.flatMap r.associationFieldNames := by
  rw [allAssociationFields, List.map_flatMap]
  exact List.flatMap_congr fun a _ => (r.associationFieldNames_eq a).symm

/-- **The field names that the diagnosis goes by are those of the object type.** -/
theorem Registry.fieldNames_eq (r : Registry) (e : Entity) :
    r.fieldNames e = (entityTypes r e).object.fields.map Sdl.Field.name := by
  have ha : e.attributes.keys
      = (e.attributes.toList.map fun p => attributeField p.1 p.2).map Sdl.Field.name := by
    rw [List.map_map]
    rfl
  rw [Registry.fieldNames, ha, ← map_name_allAssociationFields, ← List.map_append]
  rfl

/-! ## Issues of one entity -/

/-- The name that is reported as a duplicate of that entity, if the issue is such a report. -/
def Issue.duplicateOf? (entity : String) : Issue → Option String
  | .duplicateField e field => if e = entity then some field else none
  | _ => none

theorem Registry.filterMap_entityIssues (r : Registry) (e : Entity) (name : String) :
    (r.entityIssues e).filterMap (Issue.duplicateOf? name)
      = if e.name = name then repeats (r.fieldNames e) else [] := by
  have hk : (Registry.primaryKeyIssues e).filterMap (Issue.duplicateOf? name) = [] := by
    rw [Registry.primaryKeyIssues]
    split <;> rfl
  have hu : (r.unresolvedIssues e).filterMap (Issue.duplicateOf? name) = [] := by
    rw [Registry.unresolvedIssues, List.filterMap_map]
    exact List.filterMap_eq_nil_iff.mpr fun _ _ => rfl
  rw [Registry.entityIssues, List.filterMap_append, List.filterMap_append, hk, hu,
    List.filterMap_map]
  split
  · next h =>
    have hf : Issue.duplicateOf? name ∘ Issue.duplicateField e.name = some := by
      funext f
      exact if_pos h
    rw [hf, List.filterMap_some]
    rfl
  · next h => exact List.filterMap_eq_nil_iff.mpr fun f _ => if_neg h

/-- Where all but one item of a list come to nothing, that item is all there is. -/
theorem flatMap_eq_of_nodup {β : Type} {e : Entity} (f : Entity → List β)
    (hf : ∀ d : Entity, d.name ≠ e.name → f d = []) : ∀ {es : List Entity},
      (es.map Entity.name).Nodup → e ∈ es → es.flatMap f = f e
  | [], _, h => absurd h List.not_mem_nil
  | d :: es, hd, h => by
      rw [List.map_cons, List.nodup_cons] at hd
      rw [List.flatMap_cons]
      rcases List.mem_cons.mp h with rfl | h
      · have hnil : es.flatMap f = [] := List.flatMap_eq_nil_iff.mpr fun d hd' =>
          hf d fun hn => hd.1 (hn ▸ List.mem_map_of_mem hd')
        rw [hnil, List.append_nil]
      · have hne : d.name ≠ e.name := fun hn => hd.1 (hn ▸ List.mem_map_of_mem h)
        rw [hf d hne, List.nil_append, flatMap_eq_of_nodup f hf hd.2 h]

/-- The diagnosis reports as duplicates of an entity what repeats among its field names. -/
theorem Registry.filterMap_diagnose {r : Registry} (h : r.Settled) {e : Entity}
    (he : e ∈ r.entities) :
    r.diagnose.filterMap (Issue.duplicateOf? e.name) = repeats (r.fieldNames e) := by
  have hf : ∀ d : Entity, d.name ≠ e.name →
      (r.entityIssues d).filterMap (Issue.duplicateOf? e.name) = [] := fun d hd => by
    rw [filterMap_entityIssues, if_neg hd]
  rw [Registry.diagnose, List.filterMap_flatMap,
    flatMap_eq_of_nodup (fun d => (r.entityIssues d).filterMap _) hf h.nodup_name he,
    filterMap_entityIssues, if_pos rfl]

/-- **The duplicates diagnosed for an entity are those of its object type**: the names that two or
more of its fields carry, each once, in the order in which each comes for the second time.  So none
is diagnosed just if the field names are all different. -/
theorem Registry.diagnosed_duplicates {r : Registry} (h : r.Reachable) {e : Entity}
    (he : e ∈ r.entities) :
    let names := (entityTypes r e).object.fields.map Sdl.Field.name
    let reported := r.diagnose.filterMap (Issue.duplicateOf? e.name)
    (∀ n, n ∈ reported ↔ 2 ≤ names.count n) ∧
      reported.Nodup ∧
      (reported.Pairwise fun m n => secondPlace m names < secondPlace n names) ∧
      (reported = [] ↔ names.Nodup) := by
  intro names reported
  have hr : reported = repeats names :=
    (filterMap_diagnose h.settled he).trans (congrArg repeats (r.fieldNames_eq e))
  rw [hr]
  exact ⟨fun n => mem_repeats, nodup_repeats names, pairwise_repeats names, repeats_eq_nil_iff⟩

/-- An author of the bookshop has two fields `booksCount`. -/
theorem Registry.diagnosed_duplicates_bookshop :
    Registry.bookshop.Reachable ∧ Registry.author.complete ∈ Registry.bookshop.entities ∧
      "booksCount" ∈ Registry.bookshop.diagnose.filterMap (Issue.duplicateOf? "author") :=
  have he : Registry.author.complete ∈ Registry.bookshop.entities := by decide
  ⟨Registry.reachable_bookshop, he,
    ((Registry.diagnosed_duplicates Registry.reachable_bookshop he).1 "booksCount").mpr (by decide)⟩

end EntitySchema
