import EntitySchema.Proofs.Filling
import EntitySchema.Proofs.Json.Respelling

/-!
# Proofs/Json/Entries — objects as lists of entries

An object that is taken for a map fills it from its members, in order and repeats included
(`Node.exists_entries_of_asMap`).  In an object that is taken for a record a known key comes up once
at most, so the place that its field alone writes is as it was or holds what stands under that key
(`WritesAlone.takeMembers`).
-/

namespace EntitySchema.Json

/-- The members of an object, each under the text that its key spells. -/
def Node.Entries (n : Node) (entries : List (String × Node)) : Prop :=
  ∃ ms, n = .object ms none ∧ List.Forall₂ (fun m e => m.1.Says e.1 ∧ m.2 = e.2) ms entries

/-- One member has the key, and `v` stands there. -/
def OnlyUnder (key : String) (ms : List (Literal × Node)) (v : Node) : Prop :=
  ∃ before k after, ms = before ++ (k, v) :: after ∧ k.Says key ∧
    ∀ m ∈ before ++ after, ¬ m.1.Says key

/-- The entries of the map under a key of a record, which has none if the key does not come up. -/
def Node.EntriesUnder (n : Node) (key : String) (entries : List (String × Node)) : Prop :=
  ∃ ms, n = .object ms none ∧
    (((∀ m ∈ ms, ¬ m.1.Says key) ∧ entries = []) ∨ ∃ v, OnlyUnder key ms v ∧ v.Entries entries)

/-! ## Values that are refused -/

theorem Node.refuse_ne_ok {α : Type} {expected : String} {n : Node} {a : α} :
    n.refuse expected ≠ .ok a := by
  rw [refuse]
  split
  · exact nofun
  · exact nofun

theorem eq_none_of_pass {f : Option TextFault} {u : Unit} (h : Taken.ofText (pass f) = .ok u) :
    f = none := by
  cases f with
  | none => rfl
  | some f => exact nomatch h

/-! ## Maps -/

section Map

variable {α : Type} {take : Node → Taken α} {n : Node} {ms : List (Literal × Node)}
  {m r : OrderedMap α}

/-- Members are taken one by one, and written in that order. -/
theorem Node.takeMembers_eq_foldl (h : Node.takeMembers take m ms = .ok r) :
    ∃ (entries : List (String × Node)) (pairs : List (String × α)),
      List.Forall₂ (fun m e => m.1.Says e.1 ∧ m.2 = e.2) ms entries ∧
      List.Forall₂ (fun e p => e.1 = p.1 ∧ take e.2 = .ok p.2) entries pairs ∧
      r = pairs.foldl (fun m p => m.insert p.1 p.2) m := by
  induction ms generalizing m with
  | nil => exact ⟨[], [], .nil, .nil, (Except.ok.inj h).symm⟩
  | cons member ms ih =>
    obtain ⟨k, v⟩ := member
    obtain ⟨key, hk, a, ha, h⟩ := Node.takeMembers_cons_eq_ok_iff.mp h
    obtain ⟨entries, pairs, hms, hes, hr⟩ := ih h
    exact ⟨(key, v) :: entries, (key, a) :: pairs, .cons ⟨hk, rfl⟩ hms, .cons ⟨rfl, ha⟩ hes, hr⟩

/-- What is taken for a map is an object. -/
theorem Node.object_of_asMap (h : n.asMap take = .ok m) :
    ∃ ms, n = .object ms none ∧ Node.takeMembers take .empty ms = .ok m := by
  unfold asMap at h
  split at h
  · obtain ⟨r, hms, h⟩ := bind_eq_ok.mp h
    obtain ⟨_, hf, h⟩ := bind_eq_ok.mp h
    obtain rfl := Except.ok.inj h
    exact ⟨_, congrArg _ (eq_none_of_pass hf), hms⟩
  · exact nomatch h
  · exact absurd h refuse_ne_ok

/-- **A map is filled from the members of an object.** -/
theorem Node.exists_entries_of_asMap (h : n.asMap take = .ok m) :
    ∃ entries, n.Entries entries ∧ m.FilledFrom entries fun _ v a => take v = .ok a := by
  obtain ⟨ms, rfl, hms⟩ := object_of_asMap h
  obtain ⟨entries, pairs, hentries, hpairs, rfl⟩ := takeMembers_eq_foldl hms
  exact ⟨entries, ⟨ms, rfl, hentries⟩, OrderedMap.filledFrom_of_forall₂ hpairs⟩

end Map

/-! ## Records -/

section Record

variable {σ α : Type} {fields : List (FieldReader σ)} {other : Node → Taken Unit}
  {seen : List String} {s : σ} {ms : List (Literal × Node)} {r : List String × σ}
  {key : String} {take : Node → Taken α} {get : σ → α}

/-- The field under the key writes what it has taken to the place that `get` reads, and no other
field writes there. -/
structure WritesAlone (fields : List (FieldReader σ)) (key : String) (take : Node → Taken α)
    (get : σ → α) : Prop where
  own : ∃ f, fields.find? (·.key == key) = some f ∧
    ∀ n set, f.take n = .ok set → ∃ a, take n = .ok a ∧ ∀ s, get (set s) = a
  other : ∀ f ∈ fields, f.key ≠ key → ∀ n set, f.take n = .ok set → ∀ s, get (set s) = get s

namespace WritesAlone

variable {k : Literal} {v : Node} (hw : WritesAlone fields key take get)

include hw

/-- A member under another key leaves the place as it is. -/
theorem takeMember_other (hk : ¬ k.Says key)
    (h : Shape.takeMembers fields other seen s ((k, v) :: ms) = .ok r) :
    ∃ seen' s', get s' = get s ∧ Shape.takeMembers fields other seen' s' ms = .ok r := by
  obtain ⟨key', hk', ⟨-, -, h⟩ | ⟨f, set, hf, -, ht, h⟩⟩ := takeMembers_cons_eq_ok_iff.mp h
  · exact ⟨seen, s, rfl, h⟩
  · have hne : f.key ≠ key := by
      rw [key_of_find? hf]
      rintro rfl
      exact hk hk'
    exact ⟨_, _, hw.other f (List.mem_of_find?_eq_some hf) hne v set ht s, h⟩

/-- The member under the key fills the place, and no other comes behind it. -/
theorem takeMember_own (hk : k.Says key)
    (h : Shape.takeMembers fields other seen s ((k, v) :: ms) = .ok r) :
    (∀ m ∈ ms, ¬ m.1.Says key) ∧ ∃ seen' s', take v = .ok (get s') ∧
      Shape.takeMembers fields other seen' s' ms = .ok r := by
  obtain ⟨f, hf, hown⟩ := hw.own
  obtain ⟨key', hk', hcase⟩ := takeMembers_cons_eq_ok_iff.mp h
  obtain rfl := hk'.unique hk
  rcases hcase with ⟨hnone, -, -⟩ | ⟨f', set, hf', -, ht, h⟩
  · exact nomatch hnone.symm.trans hf
  · obtain rfl := Option.some.inj (hf'.symm.trans hf)
    obtain ⟨a, ha, hset⟩ := hown v set ht
    refine ⟨not_says_of_mem_seen (Option.isSome_of_eq_some hf) List.mem_cons_self h, _, _, ?_, h⟩
    rw [hset, ha]

/-- Without a member under the key, the place stays as it is. -/
theorem takeMembers_of_absent (hms : ∀ m ∈ ms, ¬ m.1.Says key)
    (h : Shape.takeMembers fields other seen s ms = .ok r) : get r.2 = get s := by
  induction ms generalizing seen s with
  | nil => exact Except.ok.inj h ▸ rfl
  | cons m ms ih =>
    obtain ⟨hm, hms⟩ := List.forall_mem_cons.mp hms
    obtain ⟨seen', s', hs, h⟩ := hw.takeMember_other hm h
    exact (ih hms h).trans hs

/-- **A place holds what stands under its key, if the key comes up at all.** -/
theorem takeMembers (h : Shape.takeMembers fields other seen s ms = .ok r) :
    ((∀ m ∈ ms, ¬ m.1.Says key) ∧ get r.2 = get s) ∨
      ∃ v, OnlyUnder key ms v ∧ take v = .ok (get r.2) := by
  induction ms generalizing seen s with
  | nil => exact Or.inl ⟨nofun, Except.ok.inj h ▸ rfl⟩
  | cons m ms ih =>
    obtain ⟨k, v⟩ := m
    by_cases hk : k.Says key
    · obtain ⟨habsent, seen', s', ht, h⟩ := hw.takeMember_own hk h
      rw [← hw.takeMembers_of_absent habsent h] at ht
      exact Or.inr ⟨v, ⟨[], k, ms, rfl, hk, habsent⟩, ht⟩
    · obtain ⟨seen', s', hs, h⟩ := hw.takeMember_other hk h
      rcases ih h with ⟨hms, hget⟩ | ⟨w, ⟨before, k', after, rfl, hk', hrest⟩, ht⟩
      · exact Or.inl ⟨List.forall_mem_cons.mpr ⟨hk, hms⟩, hget.trans hs⟩
      · exact Or.inr ⟨w, ⟨(k, v) :: before, k', after, rfl, hk',
          List.forall_mem_cons.mpr ⟨hk, hrest⟩⟩, ht⟩

end WritesAlone

/-- **A map that was empty is filled from the entries under its key.** -/
theorem WritesAlone.exists_entriesUnder {take : Node → Taken α} {get : σ → OrderedMap α}
    (hw : WritesAlone fields key (Node.asMap take) get) (hs : get s = .empty)
    (h : Shape.takeMembers fields other seen s ms = .ok r) :
    ∃ entries, (Node.object ms none).EntriesUnder key entries ∧
      (get r.2).FilledFrom entries fun _ v a => take v = .ok a := by
  rcases hw.takeMembers h with ⟨habsent, hget⟩ | ⟨v, hv, htake⟩
  · refine ⟨[], ⟨ms, rfl, Or.inl ⟨habsent, rfl⟩⟩, ?_⟩
    rw [hget, hs]
    exact OrderedMap.filledFrom_of_forall₂ .nil
  · obtain ⟨entries, hentries, hfilled⟩ := Node.exists_entries_of_asMap htake
    exact ⟨entries, ⟨ms, rfl, Or.inr ⟨v, hv, hentries⟩⟩, hfilled⟩

/-- Behind the last field nothing may come. -/
theorem Shape.takeItems_nil_eq_ok {shape : Shape σ} {fault : Option TextFault} {index : Nat}
    {s s' : σ} {items : List Node} (h : shape.takeItems fault index s [] items = .ok s') :
    items = [] ∧ fault = none ∧ s = s' := by
  unfold takeItems at h
  split at h
  · split at h
    · contradiction
    · obtain ⟨_, hf, h⟩ := bind_eq_ok.mp h
      exact ⟨rfl, eq_none_of_pass hf, Except.ok.inj h⟩
  all_goals contradiction

/-! ## Which place a field writes -/

variable {β : Type} {k : String}

/-- A field that writes its own place. -/
theorem writes_of {set : α → σ → σ} (h : ∀ a s, get (set a s) = a) :
    ∀ n g, (optional k take set).take n = .ok g → ∃ a, take n = .ok a ∧ ∀ s, get (g s) = a := by
  intro n g hg
  obtain ⟨a, ha, rfl⟩ := map_eq_ok.mp hg
  exact ⟨a, ha, h a⟩

/-- A field that writes another place. -/
theorem spares_of {take : Node → Taken β} {set : β → σ → σ} (h : ∀ b s, get (set b s) = get s) :
    ∀ n g, (optional k take set).take n = .ok g → ∀ s, get (g s) = get s := by
  intro n g hg
  obtain ⟨b, -, rfl⟩ := map_eq_ok.mp hg
  exact h b

end Record

end EntitySchema.Json
