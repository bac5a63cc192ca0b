import EntitySchema.Json.Shape
import Mathlib.Data.List.Forall2
import Mathlib.Data.List.Nodup
import Mathlib.Data.List.Pairwise

/-!
# Proofs/Json/Respelling — ways to spell a record that make no difference

A record is read member by member: a known key writes its field, and an unknown one is passed over.
So an object may be changed in several ways without a change to the record that is read from it
(`MembersStep`): its members may be put in another order, members may come and go under unknown
keys, and so may those that say what the field would be without them.  `Follows` says what is needed
of the fields for that: a layout that has their keys and defaults right, and that they write
different places.  What is read need only be the same up to a `view`, for the sake of a field that
does not matter in the end.
-/

namespace EntitySchema.Json

/-! ## Steps -/

/-- The literal spells the text. -/
def Literal.Says (l : Literal) (s : String) : Prop := l.text = .ok s

/-- What a field can be by default. -/
inductive Default
  | null
  | bool (b : Bool)
  | string (s : String)
  | emptyObject

/-- A value that says the default. -/
def Default.SaidBy : Default → Node → Prop
  | null, n => n = .null
  | bool b, n => n = .bool b
  | string s, n => ∃ l, n = .string l ∧ l.Says s
  | emptyObject, n => n = .object [] none

/-- The keys of a record, in order of declaration, each with the default of its field if there is
one. -/
abbrev Layout := List (String × Option Default)

/-- The keys of a record, in order of declaration. -/
def Layout.keys (l : Layout) : List String := l.map Prod.fst

mutual

/-- A value without a fault: its literals spell texts, its numbers are as wanted, and at most
`depth` arrays and objects stand inside one another. -/
def Node.Fits (inRange : Numeral → Prop) (depth : Nat) : Node → Prop
  | .null => True
  | .bool _ => True
  | .number n => inRange n
  | .string l => ∃ s, l.Says s
  | .array items f => f = none ∧ ∃ inner, depth = inner + 1 ∧ itemsFit inRange inner items
  | .object members f => f = none ∧ ∃ inner, depth = inner + 1 ∧ membersFit inRange inner members
  | .keyless _ => False
  | .fault _ => False

/-- Items without a fault. -/
def itemsFit (inRange : Numeral → Prop) (depth : Nat) : List Node → Prop
  | [] => True
  | n :: rest => n.Fits inRange depth ∧ itemsFit inRange depth rest

/-- Members without a fault. -/
def membersFit (inRange : Numeral → Prop) (depth : Nat) : List (Literal × Node) → Prop
  | [] => True
  | (k, n) :: rest => (∃ s, k.Says s) ∧ n.Fits inRange depth ∧ membersFit inRange depth rest

end

/-- One change to the members of an object that is read as a record.  Unknown keys hold values that
`fits` allows; `inner` is what may be changed about the value under a key.  Since the order can be
changed, only the first member is put in, taken out or changed. -/
inductive MembersStep (layout : Layout) (fits : Node → Prop) (inner : String → Node → Node → Prop) :
    List (Literal × Node) → List (Literal × Node) → Prop
  | permute {ms ms' : List (Literal × Node)} : ms.Perm ms' → MembersStep layout fits inner ms ms'
  | addUnknown {ms : List (Literal × Node)} {k : Literal} {s : String} {n : Node} :
      k.Says s → s ∉ layout.keys → fits n → MembersStep layout fits inner ms ((k, n) :: ms)
  | removeUnknown {ms : List (Literal × Node)} {k : Literal} {s : String} {n : Node} :
      k.Says s → s ∉ layout.keys → MembersStep layout fits inner ((k, n) :: ms) ms
  | spellDefault {ms : List (Literal × Node)} {k : Literal} {s : String} {d : Default} {n : Node} :
      k.Says s → (s, some d) ∈ layout → d.SaidBy n → (∀ m ∈ ms, ¬ m.1.Says s) →
      MembersStep layout fits inner ms ((k, n) :: ms)
  | omitDefault {ms : List (Literal × Node)} {k : Literal} {s : String} {d : Default} {n : Node} :
      k.Says s → (s, some d) ∈ layout → d.SaidBy n →
      MembersStep layout fits inner ((k, n) :: ms) ms
  | inside {ms : List (Literal × Node)} {k : Literal} {s : String} {n n' : Node} :
      k.Says s → inner s n n' → MembersStep layout fits inner ((k, n) :: ms) ((k, n') :: ms)

/-- One change to the members of an object. -/
def ObjectStep (step : List (Literal × Node) → List (Literal × Node) → Prop) (n n' : Node) : Prop :=
  ∃ ms ms', n = .object ms none ∧ n' = .object ms' none ∧ step ms ms'

/-- An object that has all keys of a record in order of declaration, and the array of its values. -/
def Listed (layout : Layout) (n n' : Node) : Prop :=
  ∃ ms, n = .object ms none ∧ n' = .array (ms.map Prod.snd) none ∧
    List.Forall₂ (fun m key => Literal.Says m.1 key) ms layout.keys

/-- One change to a value that is read as a record of scalars. -/
def RecordStep (layout : Layout) (fits : Node → Prop) (n n' : Node) : Prop :=
  ObjectStep (MembersStep layout fits fun _ _ _ => False) n n' ∨ Listed layout n n'

/-- One change to the value of a member. -/
def ValueStep (inner : Node → Node → Prop) (ms ms' : List (Literal × Node)) : Prop :=
  ∃ before k n n' after, ms = before ++ (k, n) :: after ∧ ms' = before ++ (k, n') :: after ∧
    inner n n'

/-- One change to a value that is read as a map. -/
def MapStep (inner : Node → Node → Prop) : Node → Node → Prop := ObjectStep (ValueStep inner)

/-- A change to what is read makes no difference in the view. -/
def Preserves {α β : Type} (take : Node → Taken α) (view : α → β) (step : Node → Node → Prop) :
    Prop :=
  ∀ ⦃n n' a⦄, step n n' → take n = .ok a → ∃ a', take n' = .ok a' ∧ view a' = view a

/-! ## Taking members -/

section Members

variable {σ τ : Type} {fields : List (FieldReader σ)} {other : Node → Taken Unit}
  {seen seen' : List String} {s s' : σ} {k : Literal} {n : Node} {ms ms' : List (Literal × Node)}
  {r : List String × σ}

theorem Literal.Says.unique {l : Literal} {s t : String} (hs : l.Says s) (ht : l.Says t) : s = t :=
  Except.ok.inj (hs.symm.trans ht)

/-- A text that a literal spells. -/
theorem ofText_text_eq_ok_iff {s : String} : Taken.ofText k.text = .ok s ↔ k.Says s := by
  rw [Literal.Says]
  cases k.text with
  | error f => exact ⟨nofun, nofun⟩
  | ok t =>
    exact ⟨fun h => congrArg Except.ok (Except.ok.inj h),
      fun h => congrArg Except.ok (Except.ok.inj h)⟩

/-- The first member is passed over under an unknown key, and writes its field under a known one. -/
theorem takeMembers_cons_eq_ok_iff : Shape.takeMembers fields other seen s ((k, n) :: ms) = .ok r ↔
    ∃ key, k.Says key ∧
      ((fields.find? (·.key == key) = none ∧ other n = .ok () ∧
          Shape.takeMembers fields other seen s ms = .ok r) ∨
        ∃ f set, fields.find? (·.key == key) = some f ∧ key ∉ seen ∧ f.take n = .ok set ∧
          Shape.takeMembers fields other (key :: seen) (set s) ms = .ok r) := by
  rw [Shape.takeMembers, bind_eq_ok]
  refine exists_congr fun key => and_congr ofText_text_eq_ok_iff ?_
  cases fields.find? (·.key == key) with
  | none =>
    refine bind_eq_ok.trans ⟨fun ⟨_, ho, h⟩ => Or.inl ⟨rfl, ho, h⟩, ?_⟩
    rintro (⟨-, ho, h⟩ | ⟨_, _, h, _⟩)
    · exact ⟨(), ho, h⟩
    · exact nomatch h
  | some f =>
    by_cases hseen : seen.contains key = true
    · dsimp only
      rw [if_pos hseen]
      refine ⟨nofun, ?_⟩
      rintro (⟨h, -, -⟩ | ⟨_, _, -, h, -, -⟩)
      · exact nomatch h
      · exact absurd (List.contains_iff_mem.mp hseen) h
    · dsimp only
      rw [if_neg hseen]
      refine bind_eq_ok.trans ⟨fun ⟨set, ht, h⟩ => Or.inr ⟨f, set, rfl, ?_, ht, h⟩, ?_⟩
      · exact mt List.contains_iff_mem.mpr hseen
      · rintro (⟨h, -, -⟩ | ⟨_, set, hf, -, ht, h⟩)
        · exact nomatch h
        · obtain rfl := Option.some.inj hf
          exact ⟨set, ht, h⟩

/-- No member has a known key that was there before. -/
theorem not_says_of_mem_seen {key : String} (hf : (fields.find? (·.key == key)).isSome)
    (hk : key ∈ seen) (h : Shape.takeMembers fields other seen s ms = .ok r) :
    ∀ m ∈ ms, ¬ m.1.Says key := by
  induction ms generalizing seen s with
  | nil => exact fun _ hm => absurd hm List.not_mem_nil
  | cons m ms ih =>
    obtain ⟨k, n⟩ := m
    obtain ⟨key', hk', hcase⟩ := takeMembers_cons_eq_ok_iff.mp h
    intro m hm hkey
    rcases List.mem_cons.mp hm with rfl | hm
    · obtain rfl := hk'.unique hkey
      rcases hcase with ⟨hnone, -, -⟩ | ⟨f, set, -, hnot, -, -⟩
      · rw [hnone] at hf
        exact nomatch hf
      · exact hnot hk
    · rcases hcase with ⟨-, -, h⟩ | ⟨f, set, -, -, -, h⟩
      · exact ih hk h m hm hkey
      · exact ih (List.mem_cons_of_mem _ hk) h m hm hkey

/-! ## What the fields have to be like -/

/-- Whatever the field is set to, what it does to the view depends on nothing but the view. -/
def FieldReader.Respects (view : σ → τ) (f : FieldReader σ) : Prop :=
  ∀ n set, f.take n = .ok set → ∀ s s', view s = view s' → view (set s) = view (set s')

/-- Two fields may be set in either order. -/
def FieldReader.Commutes (view : σ → τ) (f g : FieldReader σ) : Prop :=
  ∀ n m set set', f.take n = .ok set → g.take m = .ok set' →
    ∀ s, view (set (set' s)) = view (set' (set s))

instance {view : σ → τ} : Std.Symm (FieldReader.Commutes (σ := σ) view) :=
  ⟨fun _ _ h n m set set' hg hf s => (h m n set' set hf hg s).symm⟩

/-- A field has the key and the default of its entry in the layout. -/
structure FieldReader.Matches (init : σ) (view : σ → τ) (f : FieldReader σ)
    (entry : String × Option Default) : Prop where
  key : f.key = entry.1
  required : f.required = entry.2.isNone
  /-- A default that is spelled out says what was there without it. -/
  default : ∀ d n, entry.2 = some d → d.SaidBy n →
    ∃ set, f.take n = .ok set ∧ view (set init) = view init

/-- A change under the field makes no difference to a record in which nothing else was set. -/
def FieldReader.Tolerates (init : σ) (view : σ → τ) (f : FieldReader σ) (n n' : Node) : Prop :=
  ∀ set, f.take n = .ok set → ∃ set', f.take n' = .ok set' ∧ view (set' init) = view (set init)

/-- The fields of a record follow its layout and write different places. -/
structure Follows (fields : List (FieldReader σ)) (init : σ) (view : σ → τ) (layout : Layout) :
    Prop where
  keys_nodup : layout.keys.Nodup
  fields_match : List.Forall₂ (FieldReader.Matches init view) fields layout
  commute : fields.Pairwise (FieldReader.Commutes view)
  respect : ∀ f ∈ fields, f.Respects view

/-- Two outcomes of taking members that differ neither in view nor in the required fields that were
seen. -/
structure Alike (fields : List (FieldReader σ)) (view : σ → τ) (r r' : List String × σ) : Prop where
  view : view r'.2 = view r.2
  seen : ∀ f ∈ fields, f.required = true → (f.key ∈ r'.1 ↔ f.key ∈ r.1)

/-- Taking the changed members comes to something alike. -/
def Keeps (fields : List (FieldReader σ)) (other : Node → Taken Unit) (init : σ) (view : σ → τ)
    (ms ms' : List (Literal × Node)) : Prop :=
  ∀ r, Shape.takeMembers fields other [] init ms = .ok r →
    ∃ r', Shape.takeMembers fields other [] init ms' = .ok r' ∧ Alike fields view r r'

variable {init : σ} {view : σ → τ} {layout : Layout} {key : String}

theorem Alike.refl (fields : List (FieldReader σ)) (view : σ → τ) (r : List String × σ) :
    Alike fields view r r := ⟨rfl, fun _ _ _ => Iff.rfl⟩

theorem Alike.trans {r r' r'' : List String × σ} (h : Alike fields view r r')
    (h' : Alike fields view r' r'') : Alike fields view r r'' :=
  ⟨h'.view.trans h.view, fun f hf hr => (h'.seen f hf hr).trans (h.seen f hf hr)⟩

theorem map_key_eq_keys (hm : List.Forall₂ (FieldReader.Matches init view) fields layout) :
    fields.map FieldReader.key = layout.keys := by
  induction hm with
  | nil => rfl
  | cons hf _ ih => exact congrArg₂ List.cons hf.key ih

/-- An unknown key belongs to no field. -/
theorem find?_of_notMem (hm : List.Forall₂ (FieldReader.Matches init view) fields layout)
    (h : key ∉ layout.keys) : fields.find? (·.key == key) = none := by
  induction hm with
  | nil => rfl
  | @cons f entry fields layout hf _ ih =>
    rw [Layout.keys, List.map_cons, List.mem_cons, not_or] at h
    have hne : f.key ≠ key := hf.key ▸ Ne.symm h.1
    rw [List.find?_cons_of_neg (by simpa using hne)]
    exact ih h.2

/-- A key of the layout belongs to the field that matches its entry. -/
theorem find?_of_mem {d : Option Default} (hd : layout.keys.Nodup)
    (hm : List.Forall₂ (FieldReader.Matches init view) fields layout) (h : (key, d) ∈ layout) :
    ∃ f ∈ fields, fields.find? (·.key == key) = some f ∧ f.Matches init view (key, d) := by
  induction hm with
  | nil => exact absurd h List.not_mem_nil
  | @cons f entry fields layout hf _ ih =>
    rw [Layout.keys, List.map_cons, List.nodup_cons] at hd
    rcases List.mem_cons.mp h with rfl | h
    · refine ⟨f, List.mem_cons_self, List.find?_cons_of_pos ?_, hf⟩
      exact beq_iff_eq.mpr hf.key
    · have hne : f.key ≠ key := by
        rw [hf.key]
        rintro rfl
        exact hd.1 (List.mem_map.mpr ⟨_, h, rfl⟩)
      obtain ⟨g, hg, hfind, hmatch⟩ := ih hd.2 h
      refine ⟨g, List.mem_cons_of_mem _ hg, ?_, hmatch⟩
      rw [List.find?_cons_of_neg (by simpa using hne), hfind]

/-- A state with the same view, and the same keys seen among those that come, makes no
difference. -/
theorem takeMembers_congr (hr : ∀ f ∈ fields, f.Respects view) (hs : view s = view s')
    (hseen : ∀ m ∈ ms, ∀ key, m.1.Says key → (key ∈ seen ↔ key ∈ seen'))
    (h : Shape.takeMembers fields other seen s ms = .ok r) :
    ∃ r', Shape.takeMembers fields other seen' s' ms = .ok r' ∧ view r'.2 = view r.2 ∧
      ∀ key, (key ∈ seen ↔ key ∈ seen') → (key ∈ r'.1 ↔ key ∈ r.1) := by
  induction ms generalizing seen seen' s s' with
  | nil =>
    obtain rfl := Except.ok.inj h
    exact ⟨_, rfl, hs.symm, fun _ hk => hk.symm⟩
  | cons m ms ih =>
    obtain ⟨k, n⟩ := m
    have hrest : ∀ m ∈ ms, ∀ key, m.1.Says key → (key ∈ seen ↔ key ∈ seen') :=
      fun m hm => hseen m (List.mem_cons_of_mem _ hm)
    obtain ⟨key, hk, hcase⟩ := takeMembers_cons_eq_ok_iff.mp h
    rcases hcase with ⟨hf, ho, h⟩ | ⟨f, set, hf, hnot, ht, h⟩
    · obtain ⟨r', h', hview, hkeys⟩ := ih hs hrest h
      exact ⟨r', takeMembers_cons_eq_ok_iff.mpr ⟨key, hk, Or.inl ⟨hf, ho, h'⟩⟩, hview, hkeys⟩
    · have hset : view (set s) = view (set s') :=
        hr f (List.mem_of_find?_eq_some hf) n set ht s s' hs
      have hcons : ∀ m ∈ ms, ∀ k, m.1.Says k → (k ∈ key :: seen ↔ k ∈ key :: seen') :=
        fun m hm k hkey => by rw [List.mem_cons, List.mem_cons, hrest m hm k hkey]
      obtain ⟨r', h', hview, hkeys⟩ := ih hset hcons h
      have hnot' : key ∉ seen' := mt (hseen _ List.mem_cons_self key hk).mpr hnot
      exact ⟨r', takeMembers_cons_eq_ok_iff.mpr ⟨key, hk, Or.inr ⟨f, set, hf, hnot', ht, h'⟩⟩,
        hview, fun k hk => hkeys k (by rw [List.mem_cons, List.mem_cons, hk])⟩

/-- A known key is the key of its field. -/
theorem key_of_find? {f : FieldReader σ} (h : fields.find? (·.key == key) = some f) :
    f.key = key := by
  have hb := List.find?_some h
  exact beq_iff_eq.mp hb

/-- Fields under different keys may be set in either order. -/
theorem Follows.commutes (hl : Follows fields init view layout) {f g : FieldReader σ}
    (hf : f ∈ fields) (hg : g ∈ fields) (hne : f.key ≠ g.key) : f.Commutes view g :=
  hl.commute.forall hf hg fun e => hne (congrArg FieldReader.key e)

/-- Two members next to one another may change places. -/
theorem Follows.takeMembers_swap (hl : Follows fields init view layout) {m₁ m₂ : Literal × Node}
    (h : Shape.takeMembers fields other seen s (m₁ :: m₂ :: ms) = .ok r) :
    ∃ r', Shape.takeMembers fields other seen s (m₂ :: m₁ :: ms) = .ok r' ∧ view r'.2 = view r.2 ∧
      ∀ key, key ∈ r'.1 ↔ key ∈ r.1 := by
  obtain ⟨k₁, n₁⟩ := m₁
  obtain ⟨k₂, n₂⟩ := m₂
  obtain ⟨key₁, hk₁, hcase₁⟩ := takeMembers_cons_eq_ok_iff.mp h
  rcases hcase₁ with ⟨hf₁, ho₁, h⟩ | ⟨f₁, set₁, hf₁, hnot₁, ht₁, h⟩
  · -- the first member writes nothing, so the second finds what it found
    obtain ⟨key₂, hk₂, ⟨hf₂, ho₂, h⟩ | ⟨f₂, set₂, hf₂, hnot₂, ht₂, h⟩⟩ :=
      takeMembers_cons_eq_ok_iff.mp h
    · have hrest := takeMembers_cons_eq_ok_iff.mpr ⟨key₁, hk₁, Or.inl ⟨hf₁, ho₁, h⟩⟩
      exact ⟨r, takeMembers_cons_eq_ok_iff.mpr ⟨key₂, hk₂, Or.inl ⟨hf₂, ho₂, hrest⟩⟩, rfl,
        fun _ => Iff.rfl⟩
    · have hrest := takeMembers_cons_eq_ok_iff.mpr ⟨key₁, hk₁, Or.inl ⟨hf₁, ho₁, h⟩⟩
      exact ⟨r, takeMembers_cons_eq_ok_iff.mpr
        ⟨key₂, hk₂, Or.inr ⟨f₂, set₂, hf₂, hnot₂, ht₂, hrest⟩⟩, rfl, fun _ => Iff.rfl⟩
  · obtain ⟨key₂, hk₂, ⟨hf₂, ho₂, h⟩ | ⟨f₂, set₂, hf₂, hnot₂, ht₂, h⟩⟩ :=
      takeMembers_cons_eq_ok_iff.mp h
    · have hrest := takeMembers_cons_eq_ok_iff.mpr
        ⟨key₁, hk₁, Or.inr ⟨f₁, set₁, hf₁, hnot₁, ht₁, h⟩⟩
      exact ⟨r, takeMembers_cons_eq_ok_iff.mpr ⟨key₂, hk₂, Or.inl ⟨hf₂, ho₂, hrest⟩⟩, rfl,
        fun _ => Iff.rfl⟩
    · rw [List.mem_cons, not_or] at hnot₂
      have hne : f₂.key ≠ f₁.key := by
        rw [key_of_find? hf₁, key_of_find? hf₂]
        exact hnot₂.1
      have hstate : view (set₂ (set₁ s)) = view (set₁ (set₂ s)) :=
        hl.commutes (List.mem_of_find?_eq_some hf₂) (List.mem_of_find?_eq_some hf₁) hne _ _ _ _
          ht₂ ht₁ s
      have hseen : ∀ key, key ∈ key₂ :: key₁ :: seen ↔ key ∈ key₁ :: key₂ :: seen := fun key => by
        simp only [List.mem_cons]
        exact or_left_comm
      obtain ⟨r', h', hview, hkeys⟩ := takeMembers_congr hl.respect hstate
        (fun _ _ key _ => hseen key) h
      have hrest := takeMembers_cons_eq_ok_iff.mpr ⟨key₁, hk₁, Or.inr ⟨f₁, set₁, hf₁,
        (by
          rw [List.mem_cons, not_or]
          exact ⟨Ne.symm hnot₂.1, hnot₁⟩), ht₁, h'⟩⟩
      exact ⟨r', takeMembers_cons_eq_ok_iff.mpr
        ⟨key₂, hk₂, Or.inr ⟨f₂, set₂, hf₂, hnot₂.2, ht₂, hrest⟩⟩, hview,
        fun key => hkeys key (hseen key)⟩

/-- **The order of members makes no difference.** -/
theorem Follows.takeMembers_perm (hl : Follows fields init view layout) (hp : ms.Perm ms')
    (h : Shape.takeMembers fields other seen s ms = .ok r) :
    ∃ r', Shape.takeMembers fields other seen s ms' = .ok r' ∧ view r'.2 = view r.2 ∧
      ∀ key, key ∈ r'.1 ↔ key ∈ r.1 := by
  induction hp generalizing seen s r with
  | nil => exact ⟨r, h, rfl, fun _ => Iff.rfl⟩
  | cons m _ ih =>
    obtain ⟨k, n⟩ := m
    obtain ⟨key, hk, ⟨hf, ho, h⟩ | ⟨f, set, hf, hnot, ht, h⟩⟩ := takeMembers_cons_eq_ok_iff.mp h
    · obtain ⟨r', h', hsame⟩ := ih h
      exact ⟨r', takeMembers_cons_eq_ok_iff.mpr ⟨key, hk, Or.inl ⟨hf, ho, h'⟩⟩, hsame⟩
    · obtain ⟨r', h', hsame⟩ := ih h
      exact ⟨r', takeMembers_cons_eq_ok_iff.mpr ⟨key, hk, Or.inr ⟨f, set, hf, hnot, ht, h'⟩⟩, hsame⟩
  | swap m₁ m₂ ms => exact hl.takeMembers_swap h
  | trans _ _ ih ih' =>
    obtain ⟨r', h', hview, hkeys⟩ := ih h
    obtain ⟨r'', h'', hview', hkeys'⟩ := ih' h'
    exact ⟨r'', h'', hview'.trans hview, fun key => (hkeys' key).trans (hkeys key)⟩

/-! ## One pass over changed members -/

namespace Follows

variable (hl : Follows fields init view layout)

include hl

theorem keeps_permute (hp : ms.Perm ms') : Keeps fields other init view ms ms' := fun _ h => by
  obtain ⟨r', h', hview, hkeys⟩ := hl.takeMembers_perm hp h
  exact ⟨r', h', hview, fun _ _ _ => hkeys _⟩

/-- A member under an unknown key may come. -/
theorem keeps_add (hk : k.Says key) (hkey : key ∉ layout.keys) (ho : other n = .ok ()) :
    Keeps fields other init view ms ((k, n) :: ms) := fun r h =>
  ⟨r, takeMembers_cons_eq_ok_iff.mpr
    ⟨key, hk, Or.inl ⟨find?_of_notMem hl.fields_match hkey, ho, h⟩⟩, .refl ..⟩

/-- A member under an unknown key may go. -/
theorem keeps_remove (hk : k.Says key) (hkey : key ∉ layout.keys) :
    Keeps fields other init view ((k, n) :: ms) ms := fun r h => by
  obtain ⟨key', hk', ⟨-, -, h⟩ | ⟨f, set, hf, -⟩⟩ := takeMembers_cons_eq_ok_iff.mp h
  · exact ⟨r, h, .refl ..⟩
  · obtain rfl := hk.unique hk'
    rw [find?_of_notMem hl.fields_match hkey] at hf
    exact nomatch hf

/-- What is under an unknown key may change. -/
theorem keeps_other {n' : Node} (hk : k.Says key) (hkey : key ∉ layout.keys)
    (ho : other n' = .ok ()) : Keeps fields other init view ((k, n) :: ms) ((k, n') :: ms) :=
  fun r h => by
    obtain ⟨r', h', halike⟩ := hl.keeps_remove hk hkey r h
    obtain ⟨r'', h'', halike'⟩ := hl.keeps_add hk hkey ho r' h'
    exact ⟨r'', h'', halike.trans halike'⟩

/-- A field is found by its key, and matches what the layout has there. -/
theorem find?_key {f : FieldReader σ} (hf : f ∈ fields) :
    fields.find? (·.key == f.key) = some f ∧
      ∀ d, (f.key, d) ∈ layout → f.Matches init view (f.key, d) := by
  have hkeys := map_key_eq_keys hl.fields_match
  have hnodup : (fields.map FieldReader.key).Nodup := hkeys ▸ hl.keys_nodup
  have hfound : ∀ d, (f.key, d) ∈ layout →
      fields.find? (·.key == f.key) = some f ∧ f.Matches init view (f.key, d) := fun d hd => by
    obtain ⟨g, hg, hfind, hmatch⟩ := find?_of_mem hl.keys_nodup hl.fields_match hd
    obtain rfl := List.inj_on_of_nodup_map hnodup hg hf hmatch.key
    exact ⟨hfind, hmatch⟩
  have hmem : f.key ∈ layout.keys := hkeys ▸ List.mem_map_of_mem hf
  obtain ⟨⟨key, d⟩, hd, he⟩ := List.mem_map.mp hmem
  exact ⟨(hfound d (he ▸ hd)).1, fun d hd => (hfound d hd).2⟩

/-- A field with a default is not required. -/
theorem ne_key_of_required {d : Default} (h : (key, some d) ∈ layout) :
    ∀ f ∈ fields, f.required = true → f.key ≠ key := by
  rintro f hf hr rfl
  have hmatch := (hl.find?_key hf).2 _ h
  exact absurd (hr.symm.trans hmatch.required) Bool.noConfusion

/-- A default may be spelled out. -/
theorem keeps_spell {d : Default} (hk : k.Says key) (hd : (key, some d) ∈ layout) (hn : d.SaidBy n)
    (hms : ∀ m ∈ ms, ¬ m.1.Says key) :
    Keeps fields other init view ms ((k, n) :: ms) := fun r h => by
  obtain ⟨f, -, hf, hmatch⟩ := find?_of_mem hl.keys_nodup hl.fields_match hd
  obtain ⟨set, ht, hset⟩ := hmatch.default d n rfl hn
  have hseen : ∀ key', key' ≠ key → (key' ∈ ([] : List String) ↔ key' ∈ [key]) := fun key' hne => by
    simp [hne]
  obtain ⟨r', h', hview, hkeys⟩ := takeMembers_congr hl.respect hset.symm
    (fun m hm key' hkey => hseen key' fun e => hms m hm (e ▸ hkey)) h
  exact ⟨r', takeMembers_cons_eq_ok_iff.mpr
    ⟨key, hk, Or.inr ⟨f, set, hf, List.not_mem_nil, ht, h'⟩⟩, hview,
    fun f hf hr => hkeys f.key (hseen _ (hl.ne_key_of_required hd f hf hr))⟩

/-- A default that is spelled out may be left out. -/
theorem keeps_omit {d : Default} (hk : k.Says key) (hd : (key, some d) ∈ layout) (hn : d.SaidBy n) :
    Keeps fields other init view ((k, n) :: ms) ms := fun r h => by
  obtain ⟨f, -, hf, hmatch⟩ := find?_of_mem hl.keys_nodup hl.fields_match hd
  obtain ⟨set, ht, hset⟩ := hmatch.default d n rfl hn
  obtain ⟨key', hk', ⟨hnone, -, -⟩ | ⟨f', set', hf', -, ht', h⟩⟩ := takeMembers_cons_eq_ok_iff.mp h
  · obtain rfl := hk.unique hk'
    exact nomatch hnone.symm.trans hf
  · obtain rfl := hk.unique hk'
    obtain rfl := Option.some.inj (hf.symm.trans hf')
    obtain rfl := Except.ok.inj (ht.symm.trans ht')
    have hms := not_says_of_mem_seen (by rw [hf]; rfl) List.mem_cons_self h
    have hseen : ∀ key', key' ≠ key → (key' ∈ [key] ↔ key' ∈ ([] : List String)) :=
      fun key' hne => by simp [hne]
    obtain ⟨r', h', hview, hkeys⟩ := takeMembers_congr hl.respect hset
      (fun m hm key' hkey => hseen key' fun e => hms m hm (e ▸ hkey)) h
    exact ⟨r', h', hview, fun f hf hr => hkeys f.key (hseen _ (hl.ne_key_of_required hd f hf hr))⟩

/-- A field may change in what makes no difference. -/
theorem keeps_inside {n' : Node} {f : FieldReader σ} (hk : k.Says key)
    (hf : fields.find? (·.key == key) = some f) (hn : f.Tolerates init view n n') :
    Keeps fields other init view ((k, n) :: ms) ((k, n') :: ms) := fun r h => by
  obtain ⟨key', hk', ⟨hnone, -, -⟩ | ⟨f', set, hf', hnot, ht, h⟩⟩ := takeMembers_cons_eq_ok_iff.mp h
  · obtain rfl := hk.unique hk'
    exact nomatch hnone.symm.trans hf
  · obtain rfl := hk.unique hk'
    obtain rfl := Option.some.inj (hf.symm.trans hf')
    obtain ⟨set', ht', hset⟩ := hn set ht
    obtain ⟨r', h', hview, hkeys⟩ := takeMembers_congr hl.respect hset.symm
      (fun _ _ _ _ => Iff.rfl) h
    exact ⟨r', takeMembers_cons_eq_ok_iff.mpr ⟨_, hk, Or.inr ⟨f, set', hf, hnot, ht', h'⟩⟩, hview,
      fun f _ _ => hkeys f.key Iff.rfl⟩

end Follows

end Members

/-! ## Values without a fault -/

/-- Pieces in front of a fault spell nothing. -/
theorem Piece.exists_decode_eq_error (f : TextFault) (ps : List Piece) :
    ∃ g, Piece.decode (some f) ps = .error g := by
  have hmap : ∀ {c : Char} {x : Except TextFault (List Char)}, (∃ g, x = .error g) →
      ∃ g, x.map (c :: ·) = .error g := by
    rintro c _ ⟨g, rfl⟩
    exact ⟨g, rfl⟩
  generalize hstop : some f = stop
  fun_induction Piece.decode stop ps with
  | case1 hnone => exact nomatch hstop.trans hnone
  | case2 g => exact ⟨g, rfl⟩
  | case3 c ps ih => exact hmap ih
  | case4 => exact ⟨_, rfl⟩
  | case5 u _ _ v ps _ ih => exact hmap ih
  | case6 => exact ⟨_, rfl⟩
  | case7 => exact ⟨_, rfl⟩
  | case8 => exact ⟨_, rfl⟩
  | case9 u ps _ _ ih => exact hmap ih

theorem Literal.Says.fault {l : Literal} {s : String} (h : l.Says s) : l.fault = none := by
  cases hf : l.fault with
  | none => rfl
  | some f =>
    obtain ⟨g, hg⟩ := Piece.exists_decode_eq_error f l.pieces
    rw [Literal.Says, Literal.text, hf, hg] at h
    exact nomatch h

mutual

/-- **A value without a fault is passed over.** -/
theorem Node.Fits.skip {inRange : Numeral → Prop} : ∀ {n : Node} {depth : Nat},
    n.Fits inRange depth → n.skip = .ok ()
  | .null, _, _ => rfl
  | .bool _, _, _ => rfl
  | .number _, _, _ => rfl
  | .string l, _, h => by
      obtain ⟨s, hs⟩ : ∃ s, l.Says s := h
      rw [Node.skip, Literal.skip, hs.fault]
  | .array items f, _, h => by
      obtain ⟨rfl, inner, -, hi⟩ : f = none ∧ ∃ inner, _ = inner + 1 ∧
        itemsFit inRange inner items := h
      rw [Node.skip, skipItems_of_fit hi]
      rfl
  | .object members f, _, h => by
      obtain ⟨rfl, inner, -, hm⟩ : f = none ∧ ∃ inner, _ = inner + 1 ∧
        membersFit inRange inner members := h
      rw [Node.skip, skipMembers_of_fit hm]
      rfl

theorem skipItems_of_fit {inRange : Numeral → Prop} : ∀ {items : List Node} {depth : Nat},
    itemsFit inRange depth items → skipItems items = .ok ()
  | [], _, _ => rfl
  | n :: rest, depth, h => by
      obtain ⟨hn, hrest⟩ : n.Fits inRange depth ∧ itemsFit inRange depth rest := h
      rw [skipItems, hn.skip]
      exact skipItems_of_fit hrest

theorem skipMembers_of_fit {inRange : Numeral → Prop} : ∀ {members : List (Literal × Node)}
    {depth : Nat}, membersFit inRange depth members → skipMembers members = .ok ()
  | [], _, _ => rfl
  | (k, n) :: rest, depth, h => by
      obtain ⟨⟨s, hs⟩, hn, hrest⟩ : (∃ s, k.Says s) ∧ n.Fits inRange depth ∧
        membersFit inRange depth rest := h
      have hk : k.skip = .ok () := by rw [Literal.skip, hs.fault]
      rw [skipMembers, hk, hn.skip]
      exact skipMembers_of_fit hrest

end

/-- The reader finds a number of the double format for the numeral. -/
def Numeral.IsRead (n : Numeral) : Prop := ∃ v, n.value = .ok v

mutual

/-- **A value without a fault is kept**, if there is room for it. -/
theorem Node.Fits.keep : ∀ {n : Node} {depth room : Nat}, n.Fits Numeral.IsRead depth →
    depth ≤ room → n.keep room = .ok ()
  | .null, _, _, _, _ => rfl
  | .bool _, _, _, _, _ => rfl
  | .number n, _, _, h, _ => by
      obtain ⟨v, hv⟩ : ∃ v, n.value = .ok v := h
      rw [Node.keep, hv]
      rfl
  | .string l, _, _, h, _ => by
      obtain ⟨s, hs⟩ : ∃ s, l.text = .ok s := h
      rw [Node.keep, hs]
      rfl
  | .array items f, _, room, h, hr => by
      obtain ⟨rfl, inner, rfl, hi⟩ : f = none ∧ ∃ inner, _ = inner + 1 ∧
        itemsFit Numeral.IsRead inner items := h
      obtain ⟨room, rfl⟩ := Nat.exists_eq_succ_of_ne_zero (Nat.ne_zero_of_lt hr)
      have hitems := keepItems_of_fit hi (Nat.le_of_succ_le_succ hr)
      rw [Node.keep, hitems]
      rfl
  | .object members f, _, room, h, hr => by
      obtain ⟨rfl, inner, rfl, hm⟩ : f = none ∧ ∃ inner, _ = inner + 1 ∧
        membersFit Numeral.IsRead inner members := h
      obtain ⟨room, rfl⟩ := Nat.exists_eq_succ_of_ne_zero (Nat.ne_zero_of_lt hr)
      have hmembers := keepMembers_of_fit hm (Nat.le_of_succ_le_succ hr)
      rw [Node.keep, hmembers]
      rfl

theorem keepItems_of_fit : ∀ {items : List Node} {depth room : Nat},
    itemsFit Numeral.IsRead depth items → depth ≤ room → keepItems room items = .ok ()
  | [], _, _, _, _ => rfl
  | n :: rest, depth, room, h, hr => by
      obtain ⟨hn, hrest⟩ : n.Fits Numeral.IsRead depth ∧ itemsFit Numeral.IsRead depth rest := h
      rw [keepItems, hn.keep hr]
      exact keepItems_of_fit hrest hr

theorem keepMembers_of_fit : ∀ {members : List (Literal × Node)} {depth room : Nat},
    membersFit Numeral.IsRead depth members → depth ≤ room → keepMembers room members = .ok ()
  | [], _, _, _, _ => rfl
  | (k, n) :: rest, depth, room, h, hr => by
      obtain ⟨⟨s, hs⟩, hn, hrest⟩ : (∃ s, k.Says s) ∧ n.Fits Numeral.IsRead depth ∧
        membersFit Numeral.IsRead depth rest := h
      have hk : k.text = .ok s := hs
      rw [keepMembers, hk, hn.keep hr]
      exact keepMembers_of_fit hrest hr

end

/-! ## Records, maps and what may be missing -/

section Values

variable {σ τ α β : Type} {view : σ → τ} {layout : Layout} {n n' : Node}

theorem checkRequired_eq_ok_iff {fields : List (FieldReader σ)} {seen : List String} :
    Shape.checkRequired fields seen = .ok () ↔
      ∀ f ∈ fields, f.required = true → f.key ∈ seen := by
  have hfind : fields.find? (fun f => f.required && !seen.contains f.key) = none ↔
      ∀ f ∈ fields, f.required = true → f.key ∈ seen := by
    simp
  rw [← hfind, Shape.checkRequired]
  cases fields.find? (fun f => f.required && !seen.contains f.key) with
  | none => exact ⟨fun _ => rfl, fun _ => rfl⟩
  | some f => exact ⟨nofun, nofun⟩

/-- An object is taken for a record if its members are, and none that is required is missing. -/
theorem Shape.take_object_eq_ok_iff {shape : Shape σ} {ms : List (Literal × Node)} {s : σ} :
    shape.take (.object ms none) = .ok s ↔ ∃ seen,
      Shape.takeMembers shape.fields (fun n => .ofText n.skip) [] shape.initial ms = .ok (seen, s) ∧
        ∀ f ∈ shape.fields, f.required = true → f.key ∈ seen := by
  rw [Shape.take, Shape.ofMembers, bind_eq_ok]
  constructor
  · rintro ⟨⟨seen, s'⟩, hm, h⟩
    obtain ⟨_, -, h⟩ := bind_eq_ok.mp h
    obtain ⟨_, hreq, h⟩ := bind_eq_ok.mp h
    obtain rfl := Except.ok.inj h
    exact ⟨seen, hm, checkRequired_eq_ok_iff.mp hreq⟩
  · rintro ⟨seen, hm, hreq⟩
    exact ⟨(seen, s), hm, bind_eq_ok.mpr
      ⟨(), rfl, bind_eq_ok.mpr ⟨(), checkRequired_eq_ok_iff.mpr hreq, rfl⟩⟩⟩

/-- **A step on the members of a record makes no difference.** -/
theorem Follows.keeps {fields : List (FieldReader σ)} {other : Node → Taken Unit} {init : σ}
    {fits : Node → Prop} {inner : String → Node → Node → Prop} {ms ms' : List (Literal × Node)}
    (hl : Follows fields init view layout) (hfits : ∀ n, fits n → other n = .ok ())
    (hinner : ∀ key n n', inner key n n' →
      ∃ f, fields.find? (·.key == key) = some f ∧ f.Tolerates init view n n')
    (h : MembersStep layout fits inner ms ms') : Json.Keeps fields other init view ms ms' := by
  cases h with
  | permute hp => exact hl.keeps_permute hp
  | addUnknown hk hkey hn => exact hl.keeps_add hk hkey (hfits _ hn)
  | removeUnknown hk hkey => exact hl.keeps_remove hk hkey
  | spellDefault hk hd hn hms => exact hl.keeps_spell hk hd hn hms
  | omitDefault hk hd hn => exact hl.keeps_omit hk hd hn
  | inside hk hn =>
    obtain ⟨f, hf, ht⟩ := hinner _ _ _ hn
    exact hl.keeps_inside hk hf ht

/-- **A step on a value that is read as a record makes no difference.** -/
theorem Follows.preserves_object {shape : Shape σ} {inRange : Numeral → Prop} {depth : Nat}
    {inner : String → Node → Node → Prop} (hl : Follows shape.fields shape.initial view layout)
    (hinner : ∀ key n n', inner key n n' → ∃ f, shape.fields.find? (·.key == key) = some f ∧
      f.Tolerates shape.initial view n n') :
    Preserves shape.take view
      (ObjectStep (MembersStep layout (Node.Fits inRange depth) inner)) := by
  rintro _ _ s ⟨ms, ms', rfl, rfl, hstep⟩ h
  obtain ⟨seen, hm, hreq⟩ := Shape.take_object_eq_ok_iff.mp h
  have hfits : ∀ n : Node, n.Fits inRange depth → Taken.ofText n.skip = .ok () := fun n hn => by
    rw [hn.skip]
    rfl
  obtain ⟨⟨seen', s'⟩, hm', halike⟩ := hl.keeps hfits hinner hstep _ hm
  exact ⟨s', Shape.take_object_eq_ok_iff.mpr
    ⟨seen', hm', fun f hf hr => (halike.seen f hf hr).mpr (hreq f hf hr)⟩, halike.view⟩

/-- Items are taken as the members are whose keys are those of the fields, in their order. -/
theorem takeItems_of_takeMembers {shape : Shape σ} {other : Node → Taken Unit}
    {fields : List (FieldReader σ)} {ms : List (Literal × Node)}
    (hk : List.Forall₂ (fun m key => Literal.Says m.1 key) ms (fields.map FieldReader.key)) :
    ∀ {seen : List String} {index : Nat} {s : σ} {r : List String × σ},
      (∀ f ∈ fields, shape.fields.find? (·.key == f.key) = some f) →
      Shape.takeMembers shape.fields other seen s ms = .ok r →
      shape.takeItems none index s fields (ms.map Prod.snd) = .ok r.2 := by
  induction fields generalizing ms with
  | nil =>
    cases hk with
    | nil =>
      intro seen index s r _ h
      obtain rfl := Except.ok.inj h
      rfl
  | cons f fields ih =>
    cases hk with
    | @cons m _ ms _ hm hk =>
      intro seen index s r hfields h
      obtain ⟨k, n⟩ := m
      obtain ⟨key, hkey, ⟨hnone, -, -⟩ | ⟨g, set, hg, -, ht, h⟩⟩ := takeMembers_cons_eq_ok_iff.mp h
      · obtain rfl := hkey.unique hm
        exact nomatch hnone.symm.trans (hfields f List.mem_cons_self)
      · obtain rfl := hkey.unique hm
        obtain rfl := Option.some.inj (hg.symm.trans (hfields f List.mem_cons_self))
        rw [List.map_cons, Shape.takeItems]
        exact bind_eq_ok.mpr
          ⟨set, ht, ih hk (fun f hf => hfields f (List.mem_cons_of_mem _ hf)) h⟩

/-- **A record may be spelled as the array of its fields.** -/
theorem Follows.preserves_listed {shape : Shape σ}
    (hl : Follows shape.fields shape.initial view layout) :
    Preserves shape.take view (Listed layout) := by
  rintro _ _ s ⟨ms, rfl, rfl, hk⟩ h
  obtain ⟨seen, hm, -⟩ := Shape.take_object_eq_ok_iff.mp h
  rw [← map_key_eq_keys hl.fields_match] at hk
  exact ⟨s, takeItems_of_takeMembers hk (fun f hf => (hl.find?_key hf).1) hm, rfl⟩

theorem Follows.preserves_record {shape : Shape σ} {inRange : Numeral → Prop} {depth : Nat}
    (hl : Follows shape.fields shape.initial view layout) :
    Preserves shape.take view (RecordStep layout (Node.Fits inRange depth)) := by
  rintro n n' s (hstep | hstep) h
  · exact hl.preserves_object (fun _ _ _ h => absurd h id) hstep h
  · exact hl.preserves_listed hstep h

/-- A step on a value that is there makes no difference where it may also be missing. -/
theorem Preserves.option {take : Node → Taken α} {view : α → β} {step : Node → Node → Prop}
    (h : Preserves take view step) (hnull : ∀ n n', step n n' → n ≠ .null ∧ n' ≠ .null) :
    Preserves (Node.asOption take) (Option.map view) step := by
  have hsome : ∀ n, n ≠ .null → Node.asOption take n = (take n).map some := by
    intro n hn
    cases n with
    | null => exact absurd rfl hn
    | _ => rfl
  intro n n' o hstep ho
  obtain ⟨hn, hn'⟩ := hnull n n' hstep
  rw [hsome n hn] at ho
  obtain ⟨a, ha, rfl⟩ := map_eq_ok.mp ho
  obtain ⟨a', ha', hview⟩ := h hstep ha
  exact ⟨some a', (hsome n' hn').trans (map_eq_ok.mpr ⟨a', ha', rfl⟩),
    congrArg some hview⟩

theorem RecordStep.ne_null {fits : Node → Prop} (h : RecordStep layout fits n n') :
    n ≠ .null ∧ n' ≠ .null := by
  rcases h with ⟨ms, ms', rfl, rfl, -⟩ | ⟨ms, rfl, rfl, -⟩
  · exact ⟨nofun, nofun⟩
  · exact ⟨nofun, nofun⟩

/-- Members are taken into a map one by one. -/
theorem Node.takeMembers_cons_eq_ok_iff {take : Node → Taken α} {m r : OrderedMap α} {k : Literal}
    {ms : List (Literal × Node)} : Node.takeMembers take m ((k, n) :: ms) = .ok r ↔
      ∃ key, k.Says key ∧ ∃ a, take n = .ok a ∧
        Node.takeMembers take (m.insert key a) ms = .ok r := by
  rw [Node.takeMembers, bind_eq_ok]
  refine exists_congr fun key => and_congr ofText_text_eq_ok_iff bind_eq_ok

/-- The map with a view of its values. -/
def viewValues (view : α → β) : OrderedMap α → OrderedMap β := OrderedMap.mapWithKey fun _ => view

section Map

variable {take : Node → Taken α} {view : α → β} {step : Node → Node → Prop}
  {ms before after : List (Literal × Node)} {k : Literal} {m m' r : OrderedMap α}

theorem viewValues_insert {a a' : α} (key : String) (hm : viewValues view m' = viewValues view m)
    (ha : view a' = view a) :
    viewValues view (m'.insert key a') = viewValues view (m.insert key a) := by
  simp only [viewValues, OrderedMap.mapWithKey_insert] at hm ⊢
  rw [hm, ha]

/-- The same members go into maps with the same view. -/
theorem Node.takeMembers_congr (hm : viewValues view m' = viewValues view m)
    (h : Node.takeMembers take m ms = .ok r) :
    ∃ r', Node.takeMembers take m' ms = .ok r' ∧ viewValues view r' = viewValues view r := by
  induction ms generalizing m m' with
  | nil =>
    obtain rfl := Except.ok.inj h
    exact ⟨m', rfl, hm⟩
  | cons member ms ih =>
    obtain ⟨key, hk, a, ha, h⟩ := Node.takeMembers_cons_eq_ok_iff.mp h
    obtain ⟨r', h', hview⟩ := ih (viewValues_insert key hm rfl) h
    exact ⟨r', Node.takeMembers_cons_eq_ok_iff.mpr ⟨key, hk, a, ha, h'⟩, hview⟩

theorem Preserves.takeMembers (hp : Preserves take view step) (hstep : step n n')
    (h : Node.takeMembers take m (before ++ (k, n) :: after) = .ok r) :
    ∃ r', Node.takeMembers take m (before ++ (k, n') :: after) = .ok r' ∧
      viewValues view r' = viewValues view r := by
  induction before generalizing m with
  | nil =>
    obtain ⟨key, hk, a, ha, h⟩ := Node.takeMembers_cons_eq_ok_iff.mp h
    obtain ⟨a', ha', hview⟩ := hp hstep ha
    obtain ⟨r', h', hsame⟩ := Node.takeMembers_congr (viewValues_insert key rfl hview) h
    exact ⟨r', Node.takeMembers_cons_eq_ok_iff.mpr ⟨key, hk, a', ha', h'⟩, hsame⟩
  | cons member before ih =>
    obtain ⟨key, hk, a, ha, h⟩ := Node.takeMembers_cons_eq_ok_iff.mp h
    obtain ⟨r', h', hsame⟩ := ih h
    exact ⟨r', Node.takeMembers_cons_eq_ok_iff.mpr ⟨key, hk, a, ha, h'⟩, hsame⟩

/-- **A step on a value of a map makes no difference.** -/
theorem Preserves.map (hp : Preserves take view step) :
    Preserves (Node.asMap take) (viewValues view) (MapStep step) := by
  rintro _ _ m ⟨_, _, rfl, rfl, before, k, n, n', after, rfl, rfl, hstep⟩ hm
  obtain ⟨m, h, hrest⟩ := bind_eq_ok.mp hm
  obtain ⟨_, -, hend⟩ := bind_eq_ok.mp hrest
  obtain rfl := Except.ok.inj hend
  obtain ⟨r', h', hsame⟩ := hp.takeMembers hstep h
  exact ⟨r', bind_eq_ok.mpr ⟨r', h', rfl⟩, hsame⟩

end Map

/-- A field tolerates what makes no difference to its value. -/
theorem Preserves.tolerates {init : σ} {take : Node → Taken α} {viewValue : α → β} {key : String}
    {set : α → σ → σ} {step : Node → Node → Prop} (h : Preserves take viewValue step)
    (hset : ∀ a a', viewValue a' = viewValue a → view (set a' init) = view (set a init))
    (hstep : step n n') : (Json.optional key take set).Tolerates init view n n' := by
  intro w hw
  obtain ⟨a, ha, rfl⟩ := map_eq_ok.mp hw
  obtain ⟨a', ha', hview⟩ := h hstep ha
  exact ⟨set a', map_eq_ok.mpr ⟨a', ha', rfl⟩, hset a a' hview⟩

end Values

/-! ## Fields and their defaults -/

section Fields

variable {σ τ α β : Type} {init : σ} {view : σ → τ} {key key' : String} {b b' : Bool}
  {take : Node → Taken α} {take' : Node → Taken β} {set : α → σ → σ} {set' : β → σ → σ}

theorem matches_optional {d : Default} (h : ∀ n, d.SaidBy n → ∃ a, take n = .ok a ∧
    view (set a init) = view init) :
    (Json.optional key take set).Matches init view (key, some d) where
  key := rfl
  required := rfl
  default := by
    intro d' n he hn
    obtain rfl := Option.some.inj he
    obtain ⟨a, ha, hset⟩ := h n hn
    exact ⟨set a, map_eq_ok.mpr ⟨a, ha, rfl⟩, hset⟩

theorem matches_required : (Json.required key take set).Matches init view (key, none) where
  key := rfl
  required := rfl
  default := nofun

/-- Fields commute if their values may be written in either order. -/
theorem commutes_of (h : ∀ a b s, view (set a (set' b s)) = view (set' b (set a s))) :
    FieldReader.Commutes view ⟨key, b, fun n => (take n).map set⟩
      ⟨key', b', fun n => (take' n).map set'⟩ := by
  intro n m w w' hw hw' s
  obtain ⟨a, -, rfl⟩ := map_eq_ok.mp hw
  obtain ⟨c, -, rfl⟩ := map_eq_ok.mp hw'
  exact h a c s

theorem respects_of (h : ∀ a s s', view s = view s' → view (set a s) = view (set a s')) :
    FieldReader.Respects view ⟨key, b, fun n => (take n).map set⟩ := by
  intro n w hw s s' hs
  obtain ⟨a, -, rfl⟩ := map_eq_ok.mp hw
  exact h a s s' hs

/-- A view of all there is, is respected. -/
theorem respects_id (f : FieldReader σ) : f.Respects id := fun _ set _ _ _ h => congrArg set h

theorem Default.asString_of_saidBy {s : String} {n : Node} (h : (Default.string s).SaidBy n) :
    n.asString = .ok s := by
  obtain ⟨l, rfl, hl⟩ := h
  exact ofText_text_eq_ok_iff.mpr hl

theorem Default.asBool_of_saidBy {b : Bool} {n : Node} (h : (Default.bool b).SaidBy n) :
    n.asBool = .ok b := by
  obtain rfl := h
  rfl

theorem Default.asOption_of_saidBy {take : Node → Taken α} {n : Node} (h : Default.null.SaidBy n) :
    Node.asOption take n = .ok none := by
  obtain rfl := h
  rfl

theorem Default.asColumn_of_saidBy {s : String} {n : Node} (h : (Default.string s).SaidBy n) :
    Node.asOption Node.asString n = .ok (some s) := by
  obtain ⟨l, rfl, hl⟩ := h
  exact map_eq_ok.mpr ⟨s, ofText_text_eq_ok_iff.mpr hl, rfl⟩

theorem Default.asMap_of_saidBy {take : Node → Taken α} {n : Node}
    (h : Default.emptyObject.SaidBy n) : Node.asMap take n = .ok .empty := by
  obtain rfl := h
  rfl

end Fields

end EntitySchema.Json
