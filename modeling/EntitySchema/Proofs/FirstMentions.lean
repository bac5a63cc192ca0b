import Mathlib.Data.List.Induction
import Mathlib.Data.List.Perm.Basic

/-!
# Proofs/FirstMentions — names in the order in which a list first mentions them

A list of names may say a name more than once.  Its first mentions are the names that count, each
once, in the order in which they first come up (`FirstMentions`); leaving out the repeats is a way
to get them (`firstMentions_filter`).
-/

namespace EntitySchema

/-- `ns` are the names of a list that `p` holds of, each once, in the order in which they are first
mentioned there. -/
structure FirstMentions (names : List String) (p : String → Bool) (ns : List String) : Prop where
  mem_iff : ∀ n, n ∈ ns ↔ n ∈ names ∧ p n = true
  ordered : ns.Pairwise fun m n => names.idxOf m < names.idxOf n

/-- One more name adds itself, unless it was mentioned before. -/
theorem eraseDups_concat (names : List String) (n : String) :
    (names ++ [n]).eraseDups = if n ∈ names then names.eraseDups else names.eraseDups ++ [n] := by
  rw [List.eraseDups_append]
  by_cases h : n ∈ names
  · simp [h, List.removeAll]
  · simp [h, List.removeAll, List.eraseDups_cons]

/-- Names and their repeats may be left out in either order. -/
theorem filter_eraseDups (p : String → Bool) (names : List String) :
    names.eraseDups.filter p = (names.filter p).eraseDups := by
  induction names using List.reverseRecOn with
  | nil => rfl
  | append_singleton names n ih =>
    rw [eraseDups_concat, List.filter_append]
    by_cases hp : p n = true
    · rw [List.filter_cons_of_pos hp, List.filter_nil, eraseDups_concat, ← ih]
      by_cases h : n ∈ names
      · rw [if_pos h, if_pos (List.mem_filter.mpr ⟨h, hp⟩)]
      · rw [if_neg h, if_neg fun hm => h (List.mem_filter.mp hm).1, List.filter_append,
          List.filter_cons_of_pos hp, List.filter_nil]
    · rw [List.filter_cons_of_neg hp, List.filter_nil, List.append_nil, ← ih]
      split
      · rfl
      · rw [List.filter_append, List.filter_cons_of_neg hp, List.filter_nil, List.append_nil]

/-- Without repeats, names stand in the order of their first mentions. -/
theorem pairwise_eraseDups (names : List String) :
    names.eraseDups.Pairwise fun m n => names.idxOf m < names.idxOf n := by
  induction names using List.reverseRecOn with
  | nil => simp
  | append_singleton names n ih =>
    -- a name mentioned before keeps its place when one more name comes behind
    have hold : ∀ m ∈ names, (names ++ [n]).idxOf m = names.idxOf m := fun m hm =>
      List.idxOf_append_of_mem hm
    have hpairs : names.eraseDups.Pairwise fun k m =>
        (names ++ [n]).idxOf k < (names ++ [n]).idxOf m := by
      refine ih.imp_of_mem fun {k m} hk hm h => ?_
      rwa [hold k (List.mem_eraseDups.mp hk), hold m (List.mem_eraseDups.mp hm)]
    rw [eraseDups_concat]
    split
    · exact hpairs
    · next hn =>
      refine List.pairwise_append.mpr ⟨hpairs, List.pairwise_singleton _ _, fun m hm k hk => ?_⟩
      obtain rfl := List.mem_singleton.mp hk
      rw [hold m (List.mem_eraseDups.mp hm), List.idxOf_append_of_notMem hn]
      have := List.idxOf_lt_length_of_mem (List.mem_eraseDups.mp hm)
      omega

theorem nodup_eraseDups (names : List String) : names.eraseDups.Nodup :=
  (pairwise_eraseDups names).imp fun h e => absurd (e ▸ h) (Nat.lt_irrefl _)

theorem eraseDups_eq_self {names : List String} (h : names.Nodup) : names.eraseDups = names := by
  induction names using List.reverseRecOn with
  | nil => rfl
  | append_singleton names n ih =>
    rw [List.nodup_append] at h
    have hn : n ∉ names := fun hm => h.2.2 n hm n (List.mem_singleton_self n) rfl
    rw [eraseDups_concat, if_neg hn, ih h.1]

/-- The names that `p` holds of, taken without their repeats, are the first mentions. -/
theorem firstMentions_filter (names : List String) (p : String → Bool) :
    FirstMentions names p (names.eraseDups.filter p) where
  mem_iff n := by rw [List.mem_filter, List.mem_eraseDups]
  ordered := (pairwise_eraseDups names).filter p

/-- A name that was mentioned before may be left out. -/
theorem eraseDups_repeat {before : List String} {n : String} (h : n ∈ before)
    (behind : List String) : (before ++ n :: behind).eraseDups = (before ++ behind).eraseDups := by
  rw [List.eraseDups_append, List.eraseDups_append]
  simp [h, List.removeAll]

/-- Lists of the same names are, without their repeats, the same up to order. -/
theorem eraseDups_perm {names names' : List String} (h : names'.Perm names) :
    names'.eraseDups.Perm names.eraseDups := by
  refine (List.perm_ext_iff_of_nodup (nodup_eraseDups _) (nodup_eraseDups _)).mpr fun n => ?_
  rw [List.mem_eraseDups, List.mem_eraseDups, h.mem_iff]

end EntitySchema
