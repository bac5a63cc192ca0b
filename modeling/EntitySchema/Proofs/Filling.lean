import EntitySchema.OrderedMap
import EntitySchema.Proofs.FirstMentions
import Mathlib.Data.List.Forall2

/-!
# Proofs/Filling — maps filled from a list of entries

Entries are written into a map from left to right, and a key may come up any number of times.  In
the end it stands where it came up first, with the value of its last entry (`FilledFrom`).  What an
entry means for the value is a relation, since entries may be members of a text, and then the values
are what they are taken for.
-/

namespace EntitySchema.OrderedMap

variable {α β γ : Type}

/-- **First position, last value.**  The keys are those of the entries, each once and in the order
in which they first come up; under each stands what the last of its entries means. -/
structure FilledFrom (m : OrderedMap α) (entries : List (String × β))
    (means : String → β → α → Prop) : Prop where
  keys : FirstMentions (entries.map Prod.fst) (fun _ => true) m.keys
  value : ∀ before k b after, entries = before ++ (k, b) :: after → k ∉ after.map Prod.fst →
    ∃ a, m.get? k = some a ∧ means k b a

/-! ## Maps from pairs -/

theorem ofList_concat (pairs : List (String × α)) (p : String × α) :
    ofList (pairs ++ [p]) = (ofList pairs).insert p.1 p.2 := List.foldl_append

/-- A map is made of its own pairs. -/
theorem ofList_toList (m : OrderedMap α) : ofList m.toList = m :=
  ext_toList (toList_foldl_insert m.toList .empty m.nodup_keys)

/-- Writing more pairs is as good as having had them all from the start. -/
theorem foldl_insert (m : OrderedMap α) (pairs : List (String × α)) :
    pairs.foldl (fun m p => m.insert p.1 p.2) m = ofList (m.toList ++ pairs) := by
  rw [ofList, List.foldl_append]
  exact congrArg (fun m => pairs.foldl (fun m p => m.insert p.1 p.2) m) (ofList_toList m).symm

/-- **Every key stands where it came up first.** -/
theorem keys_ofList (pairs : List (String × α)) :
    (ofList pairs).keys = (pairs.map Prod.fst).eraseDups := by
  induction pairs using List.reverseRecOn with
  | nil => rfl
  | append_singleton pairs p ih =>
    rw [ofList_concat, keys_insert, ih, List.map_append, List.map_singleton, eraseDups_concat]
    simp only [List.mem_eraseDups]

/-- Pairs under other keys leave a value as it is. -/
theorem get?_foldl_insert_of_notMem {k : String} : ∀ {pairs : List (String × α)}
    {m : OrderedMap α}, k ∉ pairs.map Prod.fst →
      (pairs.foldl (fun m p => m.insert p.1 p.2) m).get? k = m.get? k
  | [], _, _ => rfl
  | p :: pairs, m, h => by
      rw [List.map_cons, List.mem_cons, not_or] at h
      rw [List.foldl_cons, get?_foldl_insert_of_notMem h.2, get?_insert, if_neg h.1]

/-- **The last pair of a key has its value.** -/
theorem get?_ofList {before after : List (String × α)} {k : String} {v : α}
    (h : k ∉ after.map Prod.fst) : (ofList (before ++ (k, v) :: after)).get? k = some v := by
  rw [ofList, List.foldl_append, List.foldl_cons, get?_foldl_insert_of_notMem h, get?_insert,
    if_pos rfl]

/-! ## Filling -/

section Filling

variable {m : OrderedMap α} {entries : List (String × β)} {pairs : List (String × α)}
  {means means' : String → β → α → Prop}

theorem forall₂_append_cons {R : β → γ → Prop} {b : β} {after : List β} :
    ∀ {before : List β} {cs : List γ}, List.Forall₂ R (before ++ b :: after) cs →
      ∃ before' c after', cs = before' ++ c :: after' ∧ R b c ∧ List.Forall₂ R after after'
  | [], _, .cons h hs => ⟨[], _, _, rfl, h, hs⟩
  | _ :: _, _, .cons _ hs =>
    let ⟨before', c, after', he, h, hs⟩ := forall₂_append_cons hs
    ⟨_ :: before', c, after', congrArg (List.cons _) he, h, hs⟩

/-- A map of pairs is filled from entries that mean them, one by one. -/
theorem filledFrom_of_forall₂
    (h : List.Forall₂ (fun e p => e.1 = p.1 ∧ means e.1 e.2 p.2) entries pairs) :
    (ofList pairs).FilledFrom entries means := by
  have hfst : ∀ {es : List (String × β)} {ps : List (String × α)},
      List.Forall₂ (fun e p => e.1 = p.1 ∧ means e.1 e.2 p.2) es ps →
        es.map Prod.fst = ps.map Prod.fst := fun h => by
    induction h with
    | nil => rfl
    | cons h _ ih => exact congrArg₂ List.cons h.1 ih
  refine ⟨?_, fun before k b after he hk => ?_⟩
  · have := firstMentions_filter (entries.map Prod.fst) fun _ => true
    rwa [List.filter_true, hfst h, ← keys_ofList, ← hfst h] at this
  · subst he
    obtain ⟨before', ⟨k', a⟩, after', rfl, ⟨rfl, hmeans⟩, hafter⟩ := forall₂_append_cons h
    rw [hfst hafter] at hk
    exact ⟨a, get?_ofList hk, hmeans⟩

/-- A map of pairs is filled from those pairs. -/
theorem filledFrom_ofList (pairs : List (String × α)) :
    (ofList pairs).FilledFrom pairs fun _ v a => a = v :=
  filledFrom_of_forall₂ (List.forall₂_same.mpr fun _ _ => ⟨rfl, rfl⟩)

theorem FilledFrom.imp (h : m.FilledFrom entries means)
    (hs : ∀ k b a, means k b a → means' k b a) : m.FilledFrom entries means' where
  keys := h.keys
  value before k b after he hk :=
    let ⟨a, ha, hmeans⟩ := h.value before k b after he hk
    ⟨a, ha, hs k b a hmeans⟩

/-- Values may be changed after the map is filled. -/
theorem FilledFrom.mapWithKey (h : m.FilledFrom entries means) (f : String → α → γ) :
    (m.mapWithKey f).FilledFrom entries fun k b c => ∃ a, means k b a ∧ c = f k a where
  keys := (keys_mapWithKey f m).symm ▸ h.keys
  value before k b after he hk := by
    obtain ⟨a, ha, hmeans⟩ := h.value before k b after he hk
    refine ⟨f k a, ?_, a, hmeans, rfl⟩
    rw [get?_mapWithKey, ha, Option.map_some]

end Filling

end EntitySchema.OrderedMap
