import EntitySchema.Proofs.Sdl.Unambiguous

/-!
# Proofs/Sdl/Wrappers — the marks and brackets of a reference

A reference starts in one of six forms around a name (`TypeRef.Start`) and is wrapped further, by
`required` and `list`, as often as one likes (`TypeRef.Wrap`).  Whatever the calls, no mark comes to
stand directly under another, and every reference of that kind comes of some calls
(`TypeRef.built_wellFormed`).

The written form shows it, if the name itself has no mark in it: the last character tells whether
the reference is non-null, a double mark in the text is one in the reference
(`TypeRef.bang_bang_infix_iff`), and besides the name the text has two characters for each list and
one for each mark (`TypeRef.count_text`), of which there is at most one more than there are lists.
-/

namespace EntitySchema.Sdl

namespace TypeRef

/-! ## Wrappers -/

/-- No non-null mark stands directly under another. -/
def SinglyMarked : TypeRef → Prop
  | named _ => True
  | nonNull t => t.isNonNull = false ∧ t.SinglyMarked
  | listOf t => t.SinglyMarked

instance decidableSinglyMarked : ∀ t : TypeRef, Decidable t.SinglyMarked
  | named _ => inferInstanceAs (Decidable True)
  | nonNull t =>
      have := decidableSinglyMarked t
      inferInstanceAs (Decidable (t.isNonNull = false ∧ t.SinglyMarked))
  | listOf t => decidableSinglyMarked t

/-- The number of lists around the name. -/
def lists : TypeRef → Nat
  | named _ => 0
  | nonNull t => t.lists
  | listOf t => t.lists + 1

/-- The number of non-null marks. -/
def marks : TypeRef → Nat
  | named _ => 0
  | nonNull t => t.marks + 1
  | listOf t => t.marks

theorem required_of_isNonNull_eq_false : ∀ {t : TypeRef}, t.isNonNull = false →
    t.required = nonNull t
  | named _, _ => rfl
  | nonNull _, h => absurd h.symm Bool.false_ne_true
  | listOf _, _ => rfl

@[simp] theorem lists_required : ∀ t : TypeRef, t.required.lists = t.lists
  | named _ => rfl
  | nonNull _ => rfl
  | listOf _ => rfl

theorem SinglyMarked.required : ∀ {t : TypeRef}, t.SinglyMarked → t.required.SinglyMarked
  | named _, h => ⟨rfl, h⟩
  | nonNull _, h => h
  | listOf _, h => ⟨rfl, h⟩

/-- **Between two marks there is a list**: the marks that are not outermost each stand in a list of
their own. -/
theorem SinglyMarked.marks_le : ∀ {t : TypeRef}, t.SinglyMarked →
    t.marks ≤ t.lists + t.isNonNull.toNat
  | named _, _ => Nat.le_refl 0
  | nonNull t, ⟨hn, h⟩ => by
      have ih := h.marks_le
      -- inside the mark is a name or a list, so the bound there leaves room for this one
      rw [hn] at ih
      exact Nat.succ_le_succ ih
  | listOf t, h =>
      calc t.marks ≤ t.lists + t.isNonNull.toNat := marks_le h
        _ ≤ t.lists + 1 := Nat.add_le_add_left t.isNonNull.toNat_le _

/-! ## Their written form -/

/-- No character of the name is a mark or a bracket; the empty name has none. -/
def IsUnmarked (name : String) : Prop := ∀ c ∈ typeMarks, c ∉ name.toList

instance (name : String) : Decidable (IsUnmarked name) :=
  List.decidableBAll (· ∉ name.toList) typeMarks

theorem toList_text_nonNull (t : TypeRef) : (nonNull t).text.toList = t.text.toList ++ ['!'] :=
  String.toList_append

theorem toList_text_listOf (t : TypeRef) :
    (listOf t).text.toList = '[' :: (t.text.toList ++ [']']) := by
  rw [text, String.toList_append, String.toList_append]
  rfl

/-- **Each character of the text is one of the name, of a mark, or of a list's brackets.** -/
theorem count_text (c : Char) : ∀ t : TypeRef, t.text.toList.count c =
    t.baseName.toList.count c + t.marks * ['!'].count c + t.lists * ['[', ']'].count c
  | named name => by simp [text, baseName, marks, lists]
  | nonNull t => by
      rw [toList_text_nonNull, List.count_append, count_text c t, baseName, marks, lists,
        Nat.succ_mul]
      omega
  | listOf t => by
      have hbrackets : ['[', ']'].count c = ['['].count c + [']'].count c := by
        rw [← List.count_append, List.singleton_append]
      rw [toList_text_listOf, ← List.singleton_append, List.count_append, List.count_append,
        count_text c t, baseName, marks, lists, Nat.succ_mul, hbrackets]
      omega

/-- What ends in a bracket does not end in a mark. -/
theorem not_concat_bang_suffix (cs ds : List Char) : ¬cs ++ ['!'] <:+ ds ++ [']'] := by
  intro hs
  have hlength : ['!'].length = [']'].length := rfl
  exact absurd ((List.suffix_append_inj_of_length_eq hlength).mp hs).2 (by decide)

/-- **The last character tells whether a reference is non-null.** -/
theorem bang_suffix_iff : ∀ {t : TypeRef}, IsUnmarked t.baseName →
    (['!'] <:+ t.text.toList ↔ t.isNonNull = true)
  | named _, h =>
      iff_of_false (fun hs => h '!' (by decide) (hs.subset List.mem_cons_self)) Bool.false_ne_true
  | nonNull t, _ => by
      rw [toList_text_nonNull]
      exact iff_of_true (List.suffix_append _ _) rfl
  | listOf t, _ => by
      refine iff_of_false (fun hs => ?_) Bool.false_ne_true
      rw [toList_text_listOf, ← List.cons_append] at hs
      exact not_concat_bang_suffix [] _ hs

/-- **A double mark in the text is a mark directly under another**: it cannot reach over a
bracket. -/
theorem bang_bang_infix_iff : ∀ {t : TypeRef}, IsUnmarked t.baseName →
    (['!', '!'] <:+: t.text.toList ↔ ¬t.SinglyMarked)
  | named _, h =>
      iff_of_false (fun hs => h '!' (by decide) (hs.subset List.mem_cons_self))
        (not_not_intro trivial)
  | nonNull t, h => by
      have hends : ['!'] ++ ['!'] <:+ t.text.toList ++ ['!'] ↔ t.isNonNull = true :=
        List.suffix_append_self_iff.trans (bang_suffix_iff h)
      rw [List.singleton_append] at hends
      rw [toList_text_nonNull, List.infix_concat_iff, hends, bang_bang_infix_iff (t := t) h,
        SinglyMarked, Classical.not_and_iff_not_or_not, Bool.not_eq_false]
  | listOf t, h => by
      have hopening : ¬['!', '!'] <+: '[' :: (t.text.toList ++ [']']) := fun hp =>
        absurd (List.cons_prefix_cons.mp hp).1 (by decide)
      have hclosing : ¬['!', '!'] <:+ t.text.toList ++ [']'] := not_concat_bang_suffix ['!'] _
      rw [toList_text_listOf, List.infix_cons_iff, or_iff_right hopening, List.infix_concat_iff,
        or_iff_right hclosing, bang_bang_infix_iff (t := t) h, SinglyMarked]

/-! ## Well-formed references -/

/-- A reference to `name` under `n` lists, none of its marks directly under another. -/
structure WellFormed (t : TypeRef) (name : String) (n : Nat) : Prop where
  singlyMarked : t.SinglyMarked
  baseName : t.baseName = name
  lists : t.lists = n

/-- The text of a reference under `n` lists: marks and brackets are where they should be. -/
structure WellSpelled (t : TypeRef) (n : Nat) : Prop where
  noDoubleMark : ¬['!', '!'] <:+: t.text.toList
  endsInMark : ['!'] <:+ t.text.toList ↔ t.isNonNull = true
  opening : t.text.toList.count '[' = n
  closing : t.text.toList.count ']' = n
  marks : t.text.toList.count '!' ≤ n + 1

variable {t : TypeRef} {name : String} {n : Nat}

/-- **A reference that is well formed is well spelled**, if its name is unmarked. -/
theorem WellFormed.wellSpelled (h : t.WellFormed name n) (hname : IsUnmarked name) :
    t.WellSpelled n := by
  obtain ⟨hmarked, rfl, rfl⟩ := h
  have hcount : ∀ c ∈ typeMarks, t.text.toList.count c =
      t.marks * ['!'].count c + t.lists * ['[', ']'].count c := fun c hc => by
    rw [count_text, List.count_eq_zero.mpr (hname c hc), Nat.zero_add]
  have hle : t.marks ≤ t.lists + 1 :=
    Nat.le_trans hmarked.marks_le (Nat.add_le_add_left t.isNonNull.toNat_le _)
  constructor
  case noDoubleMark => exact fun hs => (bang_bang_infix_iff hname).mp hs hmarked
  case endsInMark => exact bang_suffix_iff hname
  case opening => simp [hcount '[' (by decide)]
  case closing => simp [hcount ']' (by decide)]
  case marks => simpa [hcount '!' (by decide)] using hle

/-! ## Building references -/

/-- The forms that a reference starts in. -/
inductive Start
  | named
  | namedRequired
  | namedList
  | namedListRequired
  | requiredList
  | requiredListRequired
  deriving DecidableEq, Repr

namespace Start

/-- The reference of that form to a name. -/
def ref : Start → String → TypeRef
  | named => .named
  | namedRequired => .namedRequired
  | namedList => .namedList
  | namedListRequired => .namedListRequired
  | requiredList => .requiredList
  | requiredListRequired => .requiredListRequired

/-- How many lists the form puts around the name. -/
def lists : Start → Nat
  | named | namedRequired => 0
  | namedList | namedListRequired | requiredList | requiredListRequired => 1

theorem wellFormed_ref (name : String) : ∀ s : Start, (s.ref name).WellFormed name s.lists
  | named => ⟨trivial, rfl, rfl⟩
  | namedRequired => ⟨⟨rfl, trivial⟩, rfl, rfl⟩
  | namedList => ⟨trivial, rfl, rfl⟩
  | namedListRequired => ⟨⟨rfl, trivial⟩, rfl, rfl⟩
  | requiredList => ⟨⟨rfl, trivial⟩, rfl, rfl⟩
  | requiredListRequired => ⟨⟨rfl, rfl, trivial⟩, rfl, rfl⟩

end Start

/-- The ways to wrap a reference. -/
inductive Wrap
  | required
  | list
  deriving DecidableEq, Repr

/-- The reference wrapped in that way. -/
def Wrap.apply : Wrap → TypeRef → TypeRef
  | required => TypeRef.required
  | list => TypeRef.list

/-- The reference to a name that starts in a form and is wrapped time and again. -/
def built (start : Start) (name : String) (wraps : List Wrap) : TypeRef :=
  wraps.foldl (fun t w => w.apply t) (start.ref name)

/-- The last call makes the outermost wrapper. -/
theorem built_concat (start : Start) (name : String) (wraps : List Wrap) (w : Wrap) :
    built start name (wraps ++ [w]) = w.apply (built start name wraps) :=
  List.foldl_append

/-- One call: `list` adds a list, `required` none. -/
theorem WellFormed.apply (h : t.WellFormed name n) :
    ∀ w : Wrap, (w.apply t).WellFormed name (n + [w].count .list)
  | .required => ⟨h.singlyMarked.required, (baseName_required t).trans h.baseName,
      (lists_required t).trans h.lists⟩
  | .list => ⟨h.singlyMarked, h.baseName, congrArg (· + 1) h.lists⟩

/-- One call after the other, whatever reference they begin with. -/
theorem WellFormed.foldl : ∀ (wraps : List Wrap) {t : TypeRef} {n : Nat}, t.WellFormed name n →
    (wraps.foldl (fun t w => w.apply t) t).WellFormed name (n + wraps.count .list)
  | [], _, _, h => h
  | w :: wraps, _, n, h => by
      have ih := (h.apply w).foldl wraps
      rwa [Nat.add_assoc, ← List.count_append, List.singleton_append] at ih

/-- **Whatever the calls, what is built is well formed.** -/
theorem wellFormed_built (start : Start) (name : String) (wraps : List Wrap) :
    (built start name wraps).WellFormed name (start.lists + wraps.count .list) :=
  (start.wellFormed_ref name).foldl wraps

/-- **A reference without a double mark can be built**, from its name outwards. -/
theorem SinglyMarked.exists_built : ∀ {t : TypeRef}, t.SinglyMarked →
    ∃ start wraps, built start t.baseName wraps = t
  | named _, _ => ⟨.named, [], rfl⟩
  | nonNull t, ⟨hn, h⟩ => by
      obtain ⟨start, wraps, ht⟩ := h.exists_built
      refine ⟨start, wraps ++ [.required], ?_⟩
      rw [built_concat, baseName, ht]
      exact required_of_isNonNull_eq_false hn
  | listOf t, h => by
      obtain ⟨start, wraps, ht⟩ := exists_built (t := t) h
      refine ⟨start, wraps ++ [.list], ?_⟩
      rw [built_concat, baseName, ht]
      rfl

/-- **Calls make well-formed references, and all of them.**  Whatever form a reference starts in and
however it is wrapped, no mark stands directly under another, the name is the one given, and there
are the lists of the form and one for each call of `list`; if the name is unmarked, the text has a
bracket of each kind for each list, at most one mark more than that, no double mark, and a mark at
its end just if the reference is non-null.  In turn every reference without a double mark is what
some calls make of its name. -/
theorem built_wellFormed :
    (∀ start name wraps,
      (built start name wraps).WellFormed name (start.lists + wraps.count .list) ∧
      (IsUnmarked name → (built start name wraps).WellSpelled (start.lists + wraps.count .list))) ∧
    ∀ t : TypeRef, t.SinglyMarked → ∃ start wraps, built start t.baseName wraps = t :=
  ⟨fun start name wraps => ⟨wellFormed_built start name wraps,
    (wellFormed_built start name wraps).wellSpelled⟩, fun _ h => h.exists_built⟩

/-- A list of lists of posts, none of them null; asking twice for the mark makes no difference. -/
theorem built_wellFormed_posts :
    (built .requiredListRequired "Post" [.required, .list, .required, .required]).text
      = "[[Post!]!]!" ∧
    IsUnmarked "Post" ∧
    (built .requiredListRequired "Post" [.required, .list, .required, .required]).WellFormed
      "Post" 2 ∧
    (built .requiredListRequired "Post" [.required, .list, .required, .required]).WellSpelled 2 ∧
    (nonNull (listOf (named "Post"))).SinglyMarked ∧
    ∃ start wraps, built start "Post" wraps = nonNull (listOf (named "Post")) :=
  have hname : IsUnmarked "Post" := by decide
  have hcalls := built_wellFormed.1 .requiredListRequired "Post"
    [.required, .list, .required, .required]
  have hlist : (nonNull (listOf (named "Post"))).SinglyMarked := by decide
  ⟨by decide, hname, hcalls.1, hcalls.2 hname, hlist, built_wellFormed.2 _ hlist⟩

end TypeRef

end EntitySchema.Sdl
