/-!
# OrderedMap — a map keyed by text that keeps its keys in order of first insertion

An `OrderedMap α` is a list of key/value pairs in which no key stands twice; the fact is part of the
type.  Inserting under a key that is already there replaces the value *at its old place*, inserting
under a new key appends.  `keys_insert` and `get?_insert` say so; everything else is read off the
list of pairs `toList`.
-/

namespace EntitySchema

/-- Key/value pairs in order of first insertion, each key once. -/
structure OrderedMap (α : Type) where
  /-- The pairs, in order. -/
  toList : List (String × α)
  /-- No key stands twice. -/
  nodup_keys : (toList.map Prod.fst).Nodup

namespace OrderedMap

variable {α β : Type}

/-! ## Pairs -/

/-- Writes `v` under `k` in a list of pairs: in place if `k` is there, at the end if not. -/
def put (k : String) (v : α) : List (String × α) → List (String × α)
  | [] => [(k, v)]
  | p :: rest => if p.1 = k then (k, v) :: rest else p :: put k v rest

theorem map_fst_put_of_mem (k : String) (v : α) : ∀ l : List (String × α),
    k ∈ l.map Prod.fst → (put k v l).map Prod.fst = l.map Prod.fst
  | [], h => by simp at h
  | p :: rest, h => by
      by_cases hp : p.1 = k
      · simp [put, hp]
      · have hr : k ∈ rest.map Prod.fst := by
          rcases List.mem_cons.mp (List.map_cons ▸ h) with h | h
          · exact absurd h.symm hp
          · exact h
        simp only [put, hp, if_false, List.map_cons, map_fst_put_of_mem k v rest hr]

theorem map_fst_put_of_notMem (k : String) (v : α) : ∀ l : List (String × α),
    k ∉ l.map Prod.fst → (put k v l).map Prod.fst = l.map Prod.fst ++ [k]
  | [], _ => rfl
  | p :: rest, h => by
      have hp : p.1 ≠ k := fun e => h (by simp [e])
      have hr : k ∉ rest.map Prod.fst := fun e => h (by
        rw [List.map_cons]
        exact List.mem_cons_of_mem _ e)
      simp only [put, hp, if_false, List.map_cons, map_fst_put_of_notMem k v rest hr,
        List.cons_append]

theorem nodup_put (k : String) (v : α) (l : List (String × α))
    (h : (l.map Prod.fst).Nodup) : ((put k v l).map Prod.fst).Nodup := by
  by_cases hk : k ∈ l.map Prod.fst
  · rw [map_fst_put_of_mem k v l hk]
    exact h
  · rw [map_fst_put_of_notMem k v l hk, List.nodup_append]
    refine ⟨h, by simp, ?_⟩
    intro a ha b hb e
    rw [List.mem_singleton] at hb
    exact hk (hb ▸ e ▸ ha)

theorem lookup_put (k k' : String) (v : α) : ∀ l : List (String × α),
    (put k v l).lookup k' = if k' = k then some v else l.lookup k'
  | [] => by
      by_cases h : k' = k
      · simp [put, h]
      · have hb : (k' == k) = false := beq_false_of_ne h
        simp [put, List.lookup_cons, h, hb]
  | (q, w) :: rest => by
      by_cases hq : q = k
      · subst hq
        by_cases h : k' = q
        · simp [put, h]
        · have hb : (k' == q) = false := beq_false_of_ne h
          simp [put, List.lookup_cons, h, hb]
      · by_cases h : k' = q
        · subst h
          simp [put, hq]
        · have hb : (k' == q) = false := beq_false_of_ne h
          simp only [put, hq, if_false, List.lookup_cons, hb, lookup_put k k' v rest]

theorem mem_put {k : String} {v : α} {p : String × α} : ∀ {l : List (String × α)},
    p ∈ put k v l → p = (k, v) ∨ p ∈ l
  | [], h => Or.inl (List.mem_singleton.mp h)
  | q :: rest, h => by
      by_cases hq : q.1 = k
      · rw [put, if_pos hq, List.mem_cons] at h
        exact h.imp_right (List.mem_cons_of_mem q)
      · rw [put, if_neg hq, List.mem_cons] at h
        rcases h with rfl | h
        · exact Or.inr List.mem_cons_self
        · exact (mem_put h).imp_right (List.mem_cons_of_mem q)

theorem put_of_notMem (k : String) (v : α) : ∀ l : List (String × α),
    k ∉ l.map Prod.fst → put k v l = l ++ [(k, v)]
  | [], _ => rfl
  | p :: rest, h => by
      rw [List.map_cons, List.mem_cons, not_or] at h
      rw [put, if_neg (Ne.symm h.1), put_of_notMem k v rest h.2, List.cons_append]

theorem put_of_lookup {k : String} {v : α} : ∀ {l : List (String × α)},
    l.lookup k = some v → put k v l = l
  | [], h => nomatch h
  | (q, w) :: rest, h => by
      by_cases hq : q = k
      · subst hq
        rw [List.lookup_cons_self] at h
        obtain rfl := Option.some.inj h
        exact if_pos rfl
      · rw [List.lookup_cons, beq_false_of_ne (Ne.symm hq)] at h
        rw [put, if_neg hq, put_of_lookup h]

theorem lookup_of_mem {k : String} {v : α} : ∀ {l : List (String × α)},
    (l.map Prod.fst).Nodup → (k, v) ∈ l → l.lookup k = some v
  | [], _, h => absurd h List.not_mem_nil
  | (q, w) :: rest, hd, h => by
      rw [List.map_cons, List.nodup_cons] at hd
      rcases List.mem_cons.mp h with h | h
      · obtain ⟨rfl, rfl⟩ := Prod.mk.inj h
        exact List.lookup_cons_self
      · have hne : k ≠ q := fun e => hd.1 (List.mem_map.mpr ⟨(k, v), h, e⟩)
        rw [List.lookup_cons, beq_false_of_ne hne]
        exact lookup_of_mem hd.2 h

theorem mem_of_lookup {k : String} {v : α} : ∀ {l : List (String × α)},
    l.lookup k = some v → (k, v) ∈ l
  | [], h => nomatch h
  | (q, w) :: rest, h => by
      by_cases hq : k = q
      · subst hq
        rw [List.lookup_cons_self] at h
        obtain rfl := Option.some.inj h
        exact List.mem_cons_self
      · rw [List.lookup_cons, beq_false_of_ne hq] at h
        exact List.mem_cons_of_mem _ (mem_of_lookup h)

/-! ## Operations -/

/-- The map without entries. -/
def empty : OrderedMap α := ⟨[], List.nodup_nil⟩

instance : Inhabited (OrderedMap α) := ⟨empty⟩

/-- Writes `v` under `k`, in place if the key is known. -/
def insert (m : OrderedMap α) (k : String) (v : α) : OrderedMap α :=
  ⟨put k v m.toList, nodup_put k v m.toList m.nodup_keys⟩

/-- The value under `k`. -/
def get? (m : OrderedMap α) (k : String) : Option α := m.toList.lookup k

/-- The keys, in order of first insertion. -/
def keys (m : OrderedMap α) : List String := m.toList.map Prod.fst

/-- The values, in the order of their keys. -/
def values (m : OrderedMap α) : List α := m.toList.map Prod.snd

/-- Number of keys. -/
def size (m : OrderedMap α) : Nat := m.toList.length

/-- Is `k` a key? -/
def contains (m : OrderedMap α) (k : String) : Bool := m.keys.contains k

/-- Inserts pairs from left to right: a repeated key keeps its first place and its last value. -/
def ofList (pairs : List (String × α)) : OrderedMap α :=
  pairs.foldl (fun m p => m.insert p.1 p.2) empty

/-- Changes every value, knowing its key. -/
def mapWithKey (f : String → α → β) (m : OrderedMap α) : OrderedMap β :=
  ⟨m.toList.map fun p => (p.1, f p.1 p.2), by
    simpa only [List.map_map, Function.comp_def] using m.nodup_keys⟩

/-- Same keys with values that `same` accepts, whatever the order of the two maps. -/
def agrees (same : α → α → Bool) (m n : OrderedMap α) : Bool :=
  m.size == n.size && m.toList.all fun p => (n.get? p.1).any (same p.2)

/-! ## Laws -/

theorem ext_toList {m n : OrderedMap α} (h : m.toList = n.toList) : m = n := by
  obtain ⟨l, hl⟩ := m
  obtain ⟨l', hl'⟩ := n
  subst h
  rfl

instance [DecidableEq α] : DecidableEq (OrderedMap α) := fun m n =>
  if h : m.toList = n.toList then isTrue (ext_toList h)
  else isFalse fun e => h (e ▸ rfl)

@[simp] theorem toList_empty : (empty : OrderedMap α).toList = [] := rfl

@[simp] theorem toList_insert (m : OrderedMap α) (k : String) (v : α) :
    (m.insert k v).toList = put k v m.toList := rfl

/-- **A known key keeps its place, a new key goes to the end.** -/
theorem keys_insert (m : OrderedMap α) (k : String) (v : α) :
    (m.insert k v).keys = if k ∈ m.keys then m.keys else m.keys ++ [k] := by
  by_cases h : k ∈ m.keys
  · rw [if_pos h]
    exact map_fst_put_of_mem k v m.toList h
  · rw [if_neg h]
    exact map_fst_put_of_notMem k v m.toList h

/-- **The last value written under a key is the one found there.** -/
theorem get?_insert (m : OrderedMap α) (k k' : String) (v : α) :
    (m.insert k v).get? k' = if k' = k then some v else m.get? k' :=
  lookup_put k k' v m.toList

@[simp] theorem toList_mapWithKey (f : String → α → β) (m : OrderedMap α) :
    (m.mapWithKey f).toList = m.toList.map fun p => (p.1, f p.1 p.2) := rfl

/-- A value is found under a key just if the pair is there. -/
theorem get?_eq_some_iff {m : OrderedMap α} {k : String} {v : α} :
    m.get? k = some v ↔ (k, v) ∈ m.toList :=
  ⟨mem_of_lookup, lookup_of_mem m.nodup_keys⟩

/-- A key is one under which a value is found. -/
theorem contains_eq_isSome_get? (m : OrderedMap α) (k : String) :
    m.contains k = (m.get? k).isSome := by
  rw [Bool.eq_iff_iff, contains, List.contains_iff_mem, Option.isSome_iff_exists, keys, List.mem_map]
  constructor
  · rintro ⟨p, hp, rfl⟩
    exact ⟨p.2, get?_eq_some_iff.mpr hp⟩
  · rintro ⟨v, hv⟩
    exact ⟨(k, v), get?_eq_some_iff.mp hv, rfl⟩

/-- Nothing is found under what is no key. -/
theorem get?_eq_none_iff {m : OrderedMap α} {k : String} : m.get? k = none ↔ k ∉ m.keys := by
  rw [← Option.not_isSome_iff_eq_none, ← contains_eq_isSome_get?, contains, List.contains_iff_mem]

/-- Writing a value where it stands already changes nothing. -/
theorem insert_eq_self {m : OrderedMap α} {k : String} {v : α} (h : m.get? k = some v) :
    m.insert k v = m :=
  ext_toList (put_of_lookup h)

/-- Pairs whose keys are all different make up a map as they stand. -/
theorem toList_foldl_insert : ∀ (pairs : List (String × α)) (m : OrderedMap α),
    ((m.toList ++ pairs).map Prod.fst).Nodup →
      (pairs.foldl (fun m p => m.insert p.1 p.2) m).toList = m.toList ++ pairs
  | [], m, _ => (List.append_nil _).symm
  | p :: pairs, m, h => by
      have hp : p.1 ∉ m.toList.map Prod.fst := by
        intro hm
        rw [List.map_append, List.nodup_append] at h
        exact h.2.2 _ hm _ List.mem_cons_self rfl
      have hi : (m.insert p.1 p.2).toList = m.toList ++ [p] := put_of_notMem _ _ _ hp
      rw [List.foldl_cons, toList_foldl_insert pairs, hi, List.append_assoc]
      · rfl
      · rw [hi, List.append_assoc]
        exact h

theorem lookup_map_snd (f : String → α → β) (k : String) : ∀ l : List (String × α),
    (l.map fun p => (p.1, f p.1 p.2)).lookup k = (l.lookup k).map (f k)
  | [] => rfl
  | (q, v) :: rest => by
      by_cases hq : k = q
      · subst hq
        rw [List.map_cons, List.lookup_cons_self, List.lookup_cons_self, Option.map_some]
      · have hb : (k == q) = false := beq_false_of_ne hq
        rw [List.map_cons, List.lookup_cons, List.lookup_cons, hb]
        exact lookup_map_snd f k rest

/-- A changed value is found where the value was. -/
theorem get?_mapWithKey (f : String → α → β) (m : OrderedMap α) (k : String) :
    (m.mapWithKey f).get? k = (m.get? k).map (f k) :=
  lookup_map_snd f k m.toList

@[simp] theorem keys_mapWithKey (f : String → α → β) (m : OrderedMap α) :
    (m.mapWithKey f).keys = m.keys := by
  simp [keys, Function.comp_def]

theorem map_put (f : String → α → β) (k : String) (v : α) : ∀ l : List (String × α),
    (put k v l).map (fun p => (p.1, f p.1 p.2)) = put k (f k v) (l.map fun p => (p.1, f p.1 p.2))
  | [] => rfl
  | p :: rest => by
      by_cases hp : p.1 = k
      · rw [put, if_pos hp, List.map_cons, List.map_cons, put, if_pos hp]
      · rw [put, if_neg hp, List.map_cons, map_put f k v rest, List.map_cons, put, if_neg hp]

/-- A value may be changed before or after it is written. -/
theorem mapWithKey_insert (f : String → α → β) (m : OrderedMap α) (k : String) (v : α) :
    (m.insert k v).mapWithKey f = (m.mapWithKey f).insert k (f k v) :=
  ext_toList (map_put f k v m.toList)

/-- A change that keeps what it has changed may be made twice. -/
theorem mapWithKey_idem {f : String → α → α} (h : ∀ k v, f k (f k v) = f k v)
    (m : OrderedMap α) : (m.mapWithKey f).mapWithKey f = m.mapWithKey f :=
  ext_toList (by simp [h])

/-- A change of the values leaves a map as it is just if it leaves every value as it is. -/
theorem mapWithKey_eq_self_iff {f : String → α → α} {m : OrderedMap α} :
    m.mapWithKey f = m ↔ ∀ p ∈ m.toList, f p.1 p.2 = p.2 := by
  have hl : (m.mapWithKey f).toList = m.toList.map id ↔
      ∀ p ∈ m.toList, (p.1, f p.1 p.2) = p := List.map_inj_left
  rw [List.map_id] at hl
  refine ⟨fun h p hp => congrArg Prod.snd (hl.mp (congrArg toList h) p hp), fun h => ?_⟩
  exact ext_toList (hl.mpr fun p hp => Prod.ext rfl (h p hp))

/-- A map agrees with its changed form just if every value agrees with its own. -/
theorem agrees_mapWithKey_iff {same : α → α → Bool} {f : String → α → α} {m : OrderedMap α} :
    (m.mapWithKey f).agrees same m = true ↔ ∀ p ∈ m.toList, same (f p.1 p.2) p.2 = true := by
  have hget : ∀ p ∈ m.toList, m.get? p.1 = some p.2 := fun p hp =>
    get?_eq_some_iff.mpr hp
  have hsize : (m.mapWithKey f).size = m.size := List.length_map _
  rw [agrees, hsize, beq_self_eq_true, Bool.true_and, toList_mapWithKey, List.all_map,
    List.all_eq_true]
  refine ⟨fun h p hp => ?_, fun h p hp => ?_⟩
  · have := h p hp
    rwa [Function.comp_apply, hget p hp, Option.any_some] at this
  · rw [Function.comp_apply, hget p hp, Option.any_some]
    exact h p hp

theorem agrees_self {same : α → α → Bool} (h : ∀ v, same v v = true) (m : OrderedMap α) :
    m.agrees same m = true := by
  have hm : (m.mapWithKey fun _ v => v) = m := mapWithKey_eq_self_iff.mpr fun _ _ => rfl
  have ha : (m.mapWithKey fun _ v => v).agrees same m = true :=
    agrees_mapWithKey_iff.mpr fun p _ => h p.2
  rwa [hm] at ha

end OrderedMap

end EntitySchema
