import EntitySchema.Proofs.Schema.Definitions
import EntitySchema.Proofs.Schema.Duplicates

/-!
# Proofs/Schema/Issues — the issues account for all that is left out

The diagnosis and the generator walk through the registry one apart from the other.  What the
generator passes over the diagnosis reports, as often as it is passed over; and where nothing is
reported, nothing is left out: every association has its fields and every name asked for is known.

Names tell the entities of a registry apart, so the issues about one entity are cut out of the list
of all issues by its name (`Request.filter_issues_isAbout`).  Counting issues is then counting within
`Registry.entityIssues`.
-/

namespace EntitySchema

open Schema

/-! ## Issues by what they are about -/

/-- Is the issue about a name that is not registered? -/
def Issue.isUnknown : Issue → Bool
  | unknownEntity _ => true
  | _ => false

/-- Is the issue about the registered entity of that name? -/
def Issue.isAbout (name : String) (i : Issue) : Bool := !i.isUnknown && i.entity == name

namespace Registry

theorem isAbout_of_mem_entityIssues {r : Registry} {e : Entity} {i : Issue}
    (h : i ∈ r.entityIssues e) : i.isUnknown = false ∧ i.entity = e.name := by
  rw [Registry.entityIssues, List.mem_append, List.mem_append] at h
  rcases h with (h | h) | h
  · rw [Registry.primaryKeyIssues] at h
    split at h
    · obtain rfl := List.mem_singleton.mp h
      exact ⟨rfl, rfl⟩
    · exact absurd h List.not_mem_nil
    · obtain rfl := List.mem_singleton.mp h
      exact ⟨rfl, rfl⟩
  · obtain ⟨a, -, rfl⟩ := List.mem_map.mp h
    exact ⟨rfl, rfl⟩
  · obtain ⟨f, -, rfl⟩ := List.mem_map.mp h
    exact ⟨rfl, rfl⟩

theorem filter_entityIssues (r : Registry) (e : Entity) (name : String) :
    (r.entityIssues e).filter (Issue.isAbout name) = if e.name = name then r.entityIssues e else [] := by
  split
  · next h =>
    refine List.filter_eq_self.mpr fun i hi => ?_
    obtain ⟨hu, he⟩ := isAbout_of_mem_entityIssues hi
    rw [Issue.isAbout, hu, he, h, beq_self_eq_true]
    rfl
  · next h =>
    refine List.filter_eq_nil_iff.mpr fun i hi => ?_
    obtain ⟨-, he⟩ := isAbout_of_mem_entityIssues hi
    rw [Issue.isAbout, he, beq_false_of_ne h, Bool.and_false]
    exact Bool.false_ne_true

theorem Settled.filter_diagnose {r : Registry} (h : r.Settled) {e : Entity} (he : e ∈ r.entities) :
    r.diagnose.filter (Issue.isAbout e.name) = r.entityIssues e := by
  have hf : ∀ d : Entity, d.name ≠ e.name →
      (r.entityIssues d).filter (Issue.isAbout e.name) = [] := fun d hd => by
    rw [filter_entityIssues, if_neg hd]
  rw [Registry.diagnose, List.filter_flatMap,
    flatMap_eq_of_nodup (fun d => (r.entityIssues d).filter _) hf h.nodup_name he,
    filter_entityIssues, if_pos rfl]

end Registry

namespace Request

variable {q : Request}

/-- **The issues about one entity are those that its diagnosis lists.** -/
theorem filter_issues_isAbout (h : q.registry.Settled) {e : Entity} (he : e ∈ q.registry.entities) :
    q.issues.filter (Issue.isAbout e.name) = q.registry.entityIssues e := by
  have hu : (q.unknownNames.map Issue.unknownEntity).filter (Issue.isAbout e.name) = [] := by
    refine List.filter_eq_nil_iff.mpr fun i hi => ?_
    obtain ⟨n, -, rfl⟩ := List.mem_map.mp hi
    exact Bool.false_ne_true
  rw [Request.issues, List.filter_append, h.filter_diagnose he, hu, List.append_nil]

theorem filter_issues_isUnknown (q : Request) :
    q.issues.filter Issue.isUnknown = q.unknownNames.map Issue.unknownEntity := by
  have hd : q.registry.diagnose.filter Issue.isUnknown = [] := by
    refine List.filter_eq_nil_iff.mpr fun i hi => ?_
    obtain ⟨e, -, hi⟩ := List.mem_flatMap.mp hi
    rw [(Registry.isAbout_of_mem_entityIssues hi).1]
    exact Bool.false_ne_true
  have hu : (q.unknownNames.map Issue.unknownEntity).filter Issue.isUnknown
      = q.unknownNames.map Issue.unknownEntity := by
    refine List.filter_eq_self.mpr fun i hi => ?_
    obtain ⟨n, -, rfl⟩ := List.mem_map.mp hi
    rfl
  rw [Request.issues, List.filter_append, hd, hu, List.nil_append]

/-- **Issues stand by entity**, in the order of the entities, and those about unknown names last. -/
theorem issues_grouped (h : q.registry.Settled) :
    q.issues = (q.registry.entities.flatMap fun e => q.issues.filter (Issue.isAbout e.name)) ++
      q.issues.filter Issue.isUnknown := by
  have hd : (q.registry.entities.flatMap fun e => q.issues.filter (Issue.isAbout e.name))
      = q.registry.diagnose :=
    List.flatMap_congr fun e he => filter_issues_isAbout h he
  rw [hd, filter_issues_isUnknown]
  rfl

/-- An issue about an entity is counted among that entity's own. -/
theorem count_issues (h : q.registry.Settled) {e : Entity} (he : e ∈ q.registry.entities) {i : Issue}
    (hi : i.isAbout e.name) : q.issues.count i = (q.registry.entityIssues e).count i := by
  rw [← filter_issues_isAbout h he, List.count_filter hi]

end Request

/-! ## Counting within one entity -/

theorem Schema.associationFields_eq_nil_iff {r : Registry} {a : Association} :
    associationFields r a = [] ↔ r.resolve? a = none := by
  rw [associationFields]
  cases r.resolve? a with
  | none => simp
  | some t => cases a.multiplicity <;> simp

namespace Registry

variable {r : Registry} {e : Entity} {i : Issue}

theorem count_primaryKeyIssues_eq_zero (h : ∀ n, i ≠ .missingPrimaryKey n)
    (h' : ∀ n k, i ≠ .multiplePrimaryKeys n k) : (primaryKeyIssues e).count i = 0 := by
  refine List.count_eq_zero.mpr fun hi => ?_
  rw [primaryKeyIssues] at hi
  split at hi
  · exact h _ (List.mem_singleton.mp hi)
  · exact absurd hi List.not_mem_nil
  · exact h' _ _ (List.mem_singleton.mp hi)

theorem count_unresolvedIssues_eq_zero (h : ∀ n f t, i ≠ .unresolvedAssociation n f t) :
    (r.unresolvedIssues e).count i = 0 := by
  refine List.count_eq_zero.mpr fun hi => ?_
  obtain ⟨a, -, ha⟩ := List.mem_map.mp hi
  exact h _ _ _ ha.symm

theorem count_duplicates_eq_zero {names : List String} (h : ∀ n f, i ≠ .duplicateField n f) :
    (names.map (Issue.duplicateField e.name)).count i = 0 := by
  refine List.count_eq_zero.mpr fun hi => ?_
  obtain ⟨f, -, hf⟩ := List.mem_map.mp hi
  exact h _ _ hf.symm

/-- An association without a target is reported as often as it contributes no field. -/
theorem count_unresolvedAssociation (r : Registry) (e : Entity) (fieldName target : String) :
    (r.entityIssues e).count (.unresolvedAssociation e.name fieldName target)
      = e.associations.values.countP fun a =>
          a.fieldName == fieldName && a.target == target && (associationFields r a).isEmpty := by
  have hu : (r.unresolvedIssues e).count (.unresolvedAssociation e.name fieldName target)
      = e.associations.values.countP fun a =>
          a.fieldName == fieldName && a.target == target && (associationFields r a).isEmpty := by
    rw [unresolvedIssues, List.count, List.countP_map, List.countP_filter]
    refine List.countP_congr fun a _ => ?_
    simp [associationFields_eq_nil_iff, and_assoc]
  rw [entityIssues, List.count_append, List.count_append, hu,
    count_primaryKeyIssues_eq_zero (by simp) (by simp), count_duplicates_eq_zero (by simp),
    Nat.zero_add, Nat.add_zero]

theorem count_primaryKeyIssues (r : Registry) (e : Entity)
    (h : ∀ n f t, i ≠ .unresolvedAssociation n f t) (h' : ∀ n f, i ≠ .duplicateField n f) :
    (r.entityIssues e).count i = (primaryKeyIssues e).count i := by
  rw [entityIssues, List.count_append, List.count_append, count_unresolvedIssues_eq_zero h,
    count_duplicates_eq_zero h', Nat.add_zero]

theorem count_missingPrimaryKey (r : Registry) (e : Entity) :
    (r.entityIssues e).count (.missingPrimaryKey e.name)
      = if e.primaryKeys.length = 0 then 1 else 0 := by
  rw [count_primaryKeyIssues r e (by simp) (by simp), primaryKeyIssues]
  rcases e.primaryKeys.length with _ | _ | k
  · simp
  · simp
  · simp

theorem count_multiplePrimaryKeys (r : Registry) (e : Entity) (n : Nat) :
    (r.entityIssues e).count (.multiplePrimaryKeys e.name n)
      = if n = e.primaryKeys.length ∧ 2 ≤ n then 1 else 0 := by
  rw [count_primaryKeyIssues r e (by simp) (by simp), primaryKeyIssues]
  rcases e.primaryKeys.length with _ | _ | k
  · exact (if_neg (by omega)).symm
  · exact (if_neg (by omega)).symm
  · by_cases hn : n = k + 2
    · subst hn
      simp
    · have hne : Issue.multiplePrimaryKeys e.name (k + 2) ≠ .multiplePrimaryKeys e.name n :=
        fun h => hn (Issue.multiplePrimaryKeys.inj h).2.symm
      rw [if_neg fun h => hn h.1]
      exact List.count_eq_zero.mpr fun h => hne (List.mem_singleton.mp h).symm

/-! ## Where nothing is reported -/

theorem resolves_of_unresolvedIssues_eq_nil (h : r.unresolvedIssues e = []) {a : Association}
    (ha : a ∈ e.associations.values) : r.resolve? a ≠ none := by
  intro hn
  have hm : a ∈ e.associations.values.filter fun a => (r.resolve? a).isNone :=
    List.mem_filter.mpr ⟨ha, by rw [hn]; rfl⟩
  exact absurd (List.map_eq_nil_iff.mp h ▸ hm) List.not_mem_nil

end Registry

theorem Schema.length_associationFields {r : Registry} {a : Association} (h : r.resolve? a ≠ none) :
    (associationFields r a).length = if a.multiplicity = .one then 1 else 2 := by
  obtain ⟨t, ht⟩ := Option.ne_none_iff_exists'.mp h
  rw [associationFields, ht]
  cases a.multiplicity <;> rfl

/-- Where all associations are resolved, one row makes one field and many rows make two. -/
theorem Schema.length_flatMap_associationFields {r : Registry} : ∀ {as : List Association},
    (∀ a ∈ as, r.resolve? a ≠ none) → (as.flatMap (associationFields r)).length
      = as.countP (·.multiplicity == .one) + 2 * as.countP (·.multiplicity == .many)
  | [], _ => rfl
  | a :: as, h => by
      have ih := length_flatMap_associationFields fun b hb => h b (List.mem_cons_of_mem a hb)
      rw [List.flatMap_cons, List.length_append, ih, length_associationFields (h a List.mem_cons_self),
        List.countP_cons, List.countP_cons]
      cases a.multiplicity with
      | one => simp; omega
      | many => simp; omega

namespace Request

variable {q : Request}

/-- What the issues of a request account for. -/
structure Accounted (q : Request) : Prop where
  /-- An association is reported as often as it adds nothing to its entity's object type. -/
  unresolved : ∀ e ∈ q.registry.entities, ∀ fieldName target,
    q.issues.count (.unresolvedAssociation e.name fieldName target)
      = e.associations.values.countP fun a =>
          a.fieldName == fieldName && a.target == target && (associationFields q.registry a).isEmpty
  /-- A missing primary key is reported once, and only where there is none. -/
  missingKey : ∀ e ∈ q.registry.entities,
    q.issues.count (.missingPrimaryKey e.name) = if e.primaryKeys.length = 0 then 1 else 0
  /-- Several primary keys are reported once, with their number. -/
  severalKeys : ∀ e ∈ q.registry.entities, ∀ n,
    q.issues.count (.multiplePrimaryKeys e.name n)
      = if n = e.primaryKeys.length ∧ 2 ≤ n then 1 else 0
  /-- Issues stand by entity, in the order of the entities, those about unknown names last. -/
  grouped : q.issues
    = (q.registry.entities.flatMap fun e => q.issues.filter (Issue.isAbout e.name)) ++
        q.issues.filter Issue.isUnknown

/-- A text of a request that leaves nothing out. -/
structure LeavesNothingOut (q : Request) (text : String) : Prop where
  text_eq : text = q.text
  /-- Every attribute has a field, and every association one or two. -/
  fields : ∀ e ∈ q.registry.entities, (entityTypes q.registry e).object.fields.length
    = e.attributes.size + e.associations.values.countP (·.multiplicity == .one)
        + 2 * e.associations.values.countP (·.multiplicity == .many)
  /-- Every name asked for is registered. -/
  exposed : ∀ names, q.exposed = some names → ∀ n ∈ names, q.registry.contains n

theorem accounted (h : q.registry.Settled) : q.Accounted where
  unresolved e he fieldName target := by
    rw [count_issues h he (by simp [Issue.isAbout, Issue.isUnknown, Issue.entity]),
      Registry.count_unresolvedAssociation]
  missingKey e he := by
    rw [count_issues h he (by simp [Issue.isAbout, Issue.isUnknown, Issue.entity]),
      Registry.count_missingPrimaryKey]
  severalKeys e he n := by
    rw [count_issues h he (by simp [Issue.isAbout, Issue.isUnknown, Issue.entity]),
      Registry.count_multiplePrimaryKeys]
  grouped := issues_grouped h

theorem strictText_eq_ok_iff {text : String} :
    q.strictText = .ok text ↔ q.issues = [] ∧ text = q.text := by
  rw [Request.strictText]
  by_cases h : q.issues = []
  · simp [h, eq_comm]
  · simp [h]

theorem entityIssues_eq_nil (h : q.issues = []) {e : Entity} (he : e ∈ q.registry.entities) :
    q.registry.entityIssues e = [] := by
  rw [Request.issues, List.append_eq_nil_iff] at h
  exact List.flatMap_eq_nil_iff.mp h.1 e he

theorem leavesNothingOut (h : q.issues = []) : q.LeavesNothingOut q.text where
  text_eq := rfl
  fields e he := by
    have hi := entityIssues_eq_nil h he
    rw [Registry.entityIssues, List.append_eq_nil_iff, List.append_eq_nil_iff] at hi
    have ha := length_flatMap_associationFields fun a ha =>
      Registry.resolves_of_unresolvedIssues_eq_nil (a := a) hi.1.2 ha
    rw [Nat.add_assoc, ← ha]
    exact List.length_append.trans (congrArg (· + _) (List.length_map _))
  exposed names hn n hmem := by
    rw [Request.issues, List.append_eq_nil_iff, List.map_eq_nil_iff] at h
    have hx : q.exposedNames = some names.eraseDups := congrArg (Option.map List.eraseDups) hn
    have hf := List.filter_eq_nil_iff.mp h.2 n (by
      rw [hx]
      exact List.mem_eraseDups.mpr hmem)
    simpa using hf

/-- **The issues account for all that is left out.**  Each association that adds no field is
reported, as often as that happens; each entity without exactly one primary key is reported, with
the number of its keys; the issues stand by entity.  A strict text is given just if there are no
issues, and then nothing is left out. -/
theorem issues_complete (q : Request) (h : q.registry.Reachable) :
    q.Accounted ∧ ((∃ text, q.strictText = .ok text) ↔ q.issues = []) ∧
      ∀ text, q.strictText = .ok text → q.LeavesNothingOut text := by
  refine ⟨accounted h.settled, ⟨?_, fun hi => ⟨q.text, strictText_eq_ok_iff.mpr ⟨hi, rfl⟩⟩⟩, ?_⟩
  · rintro ⟨text, ht⟩
    exact (strictText_eq_ok_iff.mp ht).1
  · intro text ht
    obtain ⟨hi, rfl⟩ := strictText_eq_ok_iff.mp ht
    exact leavesNothingOut hi

/-- Authors with their books, and all that they lead to. -/
def library : Request where
  registry := .ofList [
    { name := "author"
      attributes := .ofList [("id", { storageType := "INTEGER", primaryKey := true })]
      associations := .ofList [
        ("works", { fieldName := "books", target := "book", multiplicity := .many })] },
    Registry.book]
  exposed := some ["book", "author", "book"]

theorem strictText_library : library.strictText = .ok library.text :=
  strictText_eq_ok_iff.mpr ⟨by decide, rfl⟩

/-- In the bookshop an author's agency is reported once; in the library nothing is left out. -/
theorem issues_complete_library :
    Registry.bookshop.Reachable ∧
      ({ registry := Registry.bookshop } : Request).issues.count
        (.unresolvedAssociation "author" "agent" "agency") = 1 ∧
      library.registry.Reachable ∧ library.strictText = .ok library.text ∧
      library.LeavesNothingOut library.text :=
  have hb := (issues_complete { registry := Registry.bookshop } Registry.reachable_bookshop).1
  ⟨Registry.reachable_bookshop,
    (hb.unresolved Registry.author.complete (by decide) "agent" "agency").trans (by decide),
    Registry.reachable_ofList _, strictText_library,
    (issues_complete library (Registry.reachable_ofList _)).2.2 _ strictText_library⟩

end Request

end EntitySchema
