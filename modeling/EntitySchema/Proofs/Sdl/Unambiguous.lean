import EntitySchema.Sdl.Document

/-!
# Proofs/Sdl/Unambiguous — no two documents have the same text

Where names are words (`IsWord`) and nothing is given as a fragment, the text of a document
determines the document, under any indentation.

The engine is `cut_inj`: a text is cut at the first character that does not belong to what is read.
So a name ends at the first mark, an argument at the comma or the parenthesis behind it, a line at
its line break; and, one level up, where the lines play the part of characters, a block ends at the
first empty line (`endedBy_inj`).
-/

namespace EntitySchema.Sdl

/-! ## Cutting a list -/

section Cut

variable {α : Type} {p : α → Prop} {c d : α}

/-- **Cutting at the first element that fails a test.** -/
theorem cut_inj (hc : ¬p c) (hd : ¬p d) {s t : List α} :
    ∀ {xs ys : List α}, (∀ x ∈ xs, p x) → (∀ y ∈ ys, p y) →
      xs ++ c :: s = ys ++ d :: t → xs = ys ∧ c = d ∧ s = t
  | [], [], _, _, h => ⟨rfl, List.cons.inj h⟩
  | [], y :: _, _, hy, h =>
      absurd ((List.cons.inj h).1 ▸ hy y List.mem_cons_self) hc
  | x :: _, [], hx, _, h =>
      absurd ((List.cons.inj h).1 ▸ hx x List.mem_cons_self) hd
  | x :: xs, y :: ys, hx, hy, h => by
      obtain ⟨rfl, ht⟩ := List.cons.inj h
      obtain ⟨rfl, hcd⟩ := cut_inj hc hd (fun z hz => hx z (List.mem_cons_of_mem _ hz))
        (fun z hz => hy z (List.mem_cons_of_mem _ hz)) ht
      exact ⟨rfl, hcd⟩

/-- The items one after the other, with `sep` behind each. -/
def endedBy (sep : List α) (xss : List (List α)) : List α := xss.flatMap (· ++ sep)

/-- **Items that each end in a separator, the first element of which occurs in none of them.** -/
theorem endedBy_inj (hc : ¬p c) {sep : List α} :
    ∀ {xss yss : List (List α)}, (∀ xs ∈ xss, ∀ x ∈ xs, p x) → (∀ ys ∈ yss, ∀ y ∈ ys, p y) →
      endedBy (c :: sep) xss = endedBy (c :: sep) yss → xss = yss
  | [], [], _, _, _ => rfl
  | [], ys :: yss, _, _, h => by
      rw [endedBy, endedBy, List.flatMap_cons, List.append_assoc] at h
      exact absurd h.symm (List.append_ne_nil_of_right_ne_nil _ (List.cons_ne_nil _ _))
  | xs :: xss, [], _, _, h => by
      rw [endedBy, endedBy, List.flatMap_cons, List.append_assoc] at h
      exact absurd h (List.append_ne_nil_of_right_ne_nil _ (List.cons_ne_nil _ _))
  | xs :: xss, ys :: yss, hx, hy, h => by
      rw [endedBy, endedBy, List.flatMap_cons, List.flatMap_cons, List.append_assoc,
        List.append_assoc, List.cons_append, List.cons_append] at h
      obtain ⟨rfl, -, h⟩ := cut_inj hc hc (hx xs List.mem_cons_self) (hy ys List.mem_cons_self) h
      rw [endedBy_inj hc (fun zs hz => hx zs (List.mem_cons_of_mem _ hz))
        (fun zs hz => hy zs (List.mem_cons_of_mem _ hz)) (List.append_cancel_left h)]

/-- Items with separators between them only lack the last one. -/
theorem intercalate_append_sep (sep : List α) :
    ∀ {xss : List (List α)}, xss ≠ [] → sep.intercalate xss ++ sep = endedBy sep xss
  | [], h => absurd rfl h
  | [xs], _ => by
      rw [List.intercalate_singleton, endedBy, List.flatMap_cons, List.flatMap_nil, List.append_nil]
  | xs :: ys :: yss, _ => by
      rw [List.intercalate_cons_cons, List.append_assoc,
        intercalate_append_sep sep (List.cons_ne_nil ys yss)]
      rfl

/-- A function that tells the elements of two lists apart tells the lists apart. -/
theorem map_inj_of {β : Type} {f : α → β} :
    ∀ {xs ys : List α}, (∀ x ∈ xs, ∀ y ∈ ys, f x = f y → x = y) → xs.map f = ys.map f → xs = ys
  | [], [], _, _ => rfl
  | x :: xs, y :: ys, hf, h => by
      obtain ⟨hxy, h⟩ := List.cons.inj h
      have hf' : ∀ a ∈ xs, ∀ b ∈ ys, f a = f b → a = b := fun a ha b hb =>
        hf a (List.mem_cons_of_mem _ ha) b (List.mem_cons_of_mem _ hb)
      rw [hf x List.mem_cons_self y List.mem_cons_self hxy, map_inj_of hf' h]

end Cut

/-! ## Spelling -/

/-- The ASCII letters and digits, the underscore, and the marks. -/
def IsOneOf (marks : List Char) (c : Char) : Prop := c.isAlphanum ∨ c = '_' ∨ c ∈ marks

instance (marks : List Char) (c : Char) : Decidable (IsOneOf marks c) :=
  inferInstanceAs (Decidable (c.isAlphanum ∨ c = '_' ∨ c ∈ marks))

/-- Every character is an ASCII letter, a digit, an underscore or one of the marks. -/
def Spelled (marks : List Char) (s : String) : Prop := ∀ c ∈ s.toList, IsOneOf marks c

instance (marks : List Char) (s : String) : Decidable (Spelled marks s) :=
  List.decidableBAll (IsOneOf marks) s.toList

/-- A name: one or more ASCII letters, digits and underscores. -/
def IsWord (s : String) : Prop := s ≠ "" ∧ Spelled [] s

instance (s : String) : Decidable (IsWord s) := inferInstanceAs (Decidable (s ≠ "" ∧ Spelled [] s))

namespace Spelled

variable {marks : List Char} {s t : String}

theorem mono {more : List Char} (h : Spelled marks s) (hm : marks ⊆ more) : Spelled more s :=
  fun c hc => (h c hc).imp_right (Or.imp_right (hm ·))

/-- A word is spelled without marks. -/
theorem of_isWord (h : IsWord s) : Spelled marks s := h.2.mono (List.nil_subset _)

theorem append (hs : Spelled marks s) (ht : Spelled marks t) : Spelled marks (s ++ t) := by
  intro c hc
  rw [String.toList_append, List.mem_append] at hc
  exact hc.elim (hs c) (ht c)

theorem intercalate (hs : Spelled marks s) :
    ∀ {l : List String}, (∀ x ∈ l, Spelled marks x) → Spelled marks (s.intercalate l)
  | [], _ => by
      rw [String.intercalate_nil]
      exact nofun
  | [x], h => by
      rw [String.intercalate_singleton]
      exact h x List.mem_cons_self
  | x :: y :: l, h => by
      rw [String.intercalate_cons_cons]
      exact ((h x List.mem_cons_self).append hs).append
        (intercalate hs fun z hz => h z (List.mem_cons_of_mem _ hz))

/-- **A text ends at the first character that it is not spelled with.** -/
theorem cut (hs : Spelled marks s) (ht : Spelled marks t) {c d : Char} (hc : ¬IsOneOf marks c)
    (hd : ¬IsOneOf marks d) {u v : List Char} (h : s.toList ++ c :: u = t.toList ++ d :: v) :
    s = t ∧ c = d ∧ u = v := by
  obtain ⟨hst, h⟩ := cut_inj hc hd hs ht h
  exact ⟨String.toList_inj.mp hst, h⟩

end Spelled

/-! ## Types -/

/-- The marks in a reference to a type. -/
def typeMarks : List Char := ['!', '[', ']']

namespace TypeRef

theorem spelled_text : ∀ t : TypeRef, IsWord t.baseName → Spelled typeMarks t.text
  | named _, h => .of_isWord h
  | nonNull t, h => (spelled_text t h).append (by decide)
  | listOf t, h =>
      ((show Spelled typeMarks "[" by decide).append (spelled_text t h)).append (by decide)

theorem ne_of_isWord {a : String} (ha : IsWord a) {c : Char} (hc : ¬IsOneOf [] c) {s : String}
    (hs : c ∈ s.toList) : a ≠ s :=
  fun h => hc (ha.2 c (h ▸ hs))

theorem bang_mem_text (t : TypeRef) : '!' ∈ (nonNull t).text.toList := by
  rw [text, String.toList_append]
  exact List.mem_append_right _ (by decide)

theorem bracket_mem_text (t : TypeRef) : ']' ∈ (listOf t).text.toList := by
  rw [text, String.toList_append]
  exact List.mem_append_right _ (by decide)

/-- The one ends in `!`, the other in `]`. -/
theorem text_nonNull_ne_listOf (t u : TypeRef) : (nonNull t).text ≠ (listOf u).text := by
  intro h
  have hl := String.toList_inj.mpr h
  rw [text, text, String.toList_append, String.toList_append] at hl
  exact absurd (List.append_inj_right' hl rfl) (by decide)

/-- **A reference can be told from its text**: its last character says which constructor it is made
by, and what stands before is the text of the reference inside. -/
theorem text_inj : ∀ {t u : TypeRef},
    IsWord t.baseName → IsWord u.baseName → t.text = u.text → t = u
  | named _, named _, _, _, h => congrArg named h
  | named _, nonNull u, ht, _, h => absurd h (ne_of_isWord ht (by decide) (bang_mem_text u))
  | named _, listOf u, ht, _, h => absurd h (ne_of_isWord ht (by decide) (bracket_mem_text u))
  | nonNull t, named _, _, hu, h => absurd h.symm (ne_of_isWord hu (by decide) (bang_mem_text t))
  | listOf t, named _, _, hu, h => absurd h.symm (ne_of_isWord hu (by decide) (bracket_mem_text t))
  | nonNull t, listOf u, _, _, h => absurd h (text_nonNull_ne_listOf t u)
  | listOf t, nonNull u, _, _, h => absurd h.symm (text_nonNull_ne_listOf u t)
  | nonNull _, nonNull _, ht, hu, h =>
      congrArg nonNull (text_inj ht hu ((String.append_left_inj "!").mp h))
  | listOf _, listOf _, ht, hu, h =>
      congrArg listOf (text_inj ht hu
        ((String.append_right_inj "[").mp ((String.append_left_inj "]").mp h)))

end TypeRef

/-! ## Arguments -/

/-- The marks in an argument. -/
def argumentMarks : List Char := ':' :: ' ' :: typeMarks

/-- The names in an argument are words. -/
structure Argument.IsPlain (a : Argument) : Prop where
  name : IsWord a.name
  type : IsWord a.type.baseName

instance (a : Argument) : Decidable a.IsPlain :=
  decidable_of_iff (IsWord a.name ∧ IsWord a.type.baseName)
    ⟨fun h => ⟨h.1, h.2⟩, fun h => ⟨h.name, h.type⟩⟩

namespace Argument

theorem toList_text (a : Argument) :
    a.text.toList = a.name.toList ++ ':' :: ' ' :: a.type.text.toList := by
  rw [text, String.toList_append, String.toList_append, List.append_assoc]
  rfl

theorem IsPlain.spelled_text {a : Argument} (h : a.IsPlain) : Spelled argumentMarks a.text :=
  ((Spelled.of_isWord h.name).append (by decide)).append
    ((TypeRef.spelled_text a.type h.type).mono (by decide))

theorem text_inj {a b : Argument} (ha : a.IsPlain) (hb : b.IsPlain) (h : a.text = b.text) :
    a = b := by
  have hl := String.toList_inj.mpr h
  rw [toList_text, toList_text] at hl
  obtain ⟨hn, -, hl⟩ := ha.name.2.cut hb.name.2 (by decide) (by decide) hl
  have ht : a.type = b.type :=
    TypeRef.text_inj ha.type hb.type (String.toList_inj.mp (List.cons.inj hl).2)
  obtain ⟨_, _⟩ := a
  obtain ⟨_, _⟩ := b
  rw [Argument.mk.injEq]
  exact ⟨hn, ht⟩

end Argument

/-! ## Lists of arguments -/

/-- What stands between the parentheses. -/
def listed (args : List Argument) : String := ", ".intercalate (args.map Argument.text)

theorem argumentsText_cons (a : Argument) (args : List Argument) :
    (argumentsText (a :: args)).toList = '(' :: ((listed (a :: args)).toList ++ [')']) := by
  rw [argumentsText, String.toList_append, String.toList_append, List.append_assoc]
  · rfl
  · exact List.cons_ne_nil a args

section Arguments

variable {args others : List Argument}

theorem spelled_listed (h : ∀ a ∈ args, a.IsPlain) :
    Spelled (',' :: argumentMarks) (listed args) := by
  refine Spelled.intercalate (by decide) fun s hs => ?_
  obtain ⟨a, ha, rfl⟩ := List.mem_map.mp hs
  exact (h a ha).spelled_text.mono (List.subset_cons_self _ _)

theorem listed_append_sep (hargs : args ≠ []) :
    (listed args).toList ++ [',', ' ']
      = endedBy [',', ' '] (args.map fun a => a.text.toList) := by
  rw [listed, String.toList_intercalate, List.map_map]
  exact intercalate_append_sep _ (mt List.map_eq_nil_iff.mp hargs)

theorem spelled_of_mem_map (h : ∀ a ∈ args, a.IsPlain) :
    ∀ cs ∈ args.map fun a => a.text.toList, ∀ c ∈ cs, IsOneOf argumentMarks c := by
  intro cs hcs
  obtain ⟨a, ha, rfl⟩ := List.mem_map.mp hcs
  exact (h a ha).spelled_text

/-- An argument ends at the comma behind it. -/
theorem listed_inj (hargs : args ≠ []) (hothers : others ≠ []) (h : ∀ a ∈ args, a.IsPlain)
    (h' : ∀ a ∈ others, a.IsPlain) (heq : listed args = listed others) : args = others := by
  have hl := congrArg (fun s : String => s.toList ++ [',', ' ']) heq
  simp only [listed_append_sep hargs, listed_append_sep hothers] at hl
  have hmap := endedBy_inj (p := IsOneOf argumentMarks) (by decide) (spelled_of_mem_map h)
    (spelled_of_mem_map h') hl
  exact map_inj_of (fun a ha b hb hab => Argument.text_inj (h a ha) (h' b hb)
    (String.toList_inj.mp hab)) hmap

/-- **A list of arguments ends at its parenthesis, and none at the colon.** -/
theorem argumentsText_cut (h : ∀ a ∈ args, a.IsPlain) (h' : ∀ a ∈ others, a.IsPlain)
    {s t : List Char}
    (heq : (argumentsText args).toList ++ ':' :: s = (argumentsText others).toList ++ ':' :: t) :
    args = others ∧ s = t := by
  match args, others with
  | [], [] => exact ⟨rfl, (List.cons.inj heq).2⟩
  | [], b :: bs =>
    rw [argumentsText_cons] at heq
    exact absurd (List.cons.inj heq).1 (by decide)
  | a :: as, [] =>
    rw [argumentsText_cons] at heq
    exact absurd (List.cons.inj heq).1 (by decide)
  | a :: as, b :: bs =>
    rw [argumentsText_cons, argumentsText_cons, List.cons_append, List.cons_append,
      List.append_assoc, List.append_assoc] at heq
    obtain ⟨hl, -, hst⟩ := (spelled_listed h).cut (spelled_listed h') (by decide) (by decide)
      (List.cons.inj heq).2
    exact ⟨listed_inj (List.cons_ne_nil a as) (List.cons_ne_nil b bs) h h' hl,
      (List.cons.inj hst).2⟩

end Arguments

/-- What follows the name of a field starts with a mark. -/
theorem argumentsText_append_eq_cons (args : List Argument) (s : List Char) :
    ∃ c u, (argumentsText args).toList ++ ':' :: s = c :: u ∧ ¬IsOneOf [] c := by
  cases args with
  | nil => exact ⟨':', s, rfl, by decide⟩
  | cons a as =>
    rw [argumentsText_cons, List.cons_append]
    exact ⟨'(', _, rfl, by decide⟩

/-! ## Fields -/

/-- The marks in a field. -/
def fieldMarks : List Char := '(' :: ')' :: ',' :: argumentMarks

/-- The names in a field are words. -/
structure Field.IsPlain (f : Field) : Prop where
  name : IsWord f.name
  arguments : ∀ a ∈ f.arguments, a.IsPlain
  type : IsWord f.type.baseName

instance (f : Field) : Decidable f.IsPlain :=
  decidable_of_iff (IsWord f.name ∧ (∀ a ∈ f.arguments, a.IsPlain) ∧ IsWord f.type.baseName)
    ⟨fun h => ⟨h.1, h.2.1, h.2.2⟩, fun h => ⟨h.name, h.arguments, h.type⟩⟩

namespace Field

theorem toList_text (f : Field) :
    f.text.toList = f.name.toList ++
      ((argumentsText f.arguments).toList ++ ':' :: ' ' :: f.type.text.toList) := by
  rw [text, String.toList_append, String.toList_append, String.toList_append, List.append_assoc,
    List.append_assoc]
  rfl

theorem IsPlain.spelled_text {f : Field} (h : f.IsPlain) : Spelled fieldMarks f.text := by
  have hargs : Spelled fieldMarks (argumentsText f.arguments) := by
    match f.arguments, h.arguments with
    | [], _ => exact (by decide : Spelled fieldMarks "")
    | a :: as, ha =>
      exact ((show Spelled fieldMarks "(" by decide).append
        ((spelled_listed ha).mono (by decide))).append (by decide)
  exact (((Spelled.of_isWord h.name).append hargs).append (by decide)).append
    ((TypeRef.spelled_text f.type h.type).mono (by decide))

/-- **A field can be told from its text.** -/
theorem text_inj {f g : Field} (hf : f.IsPlain) (hg : g.IsPlain) (h : f.text = g.text) : f = g := by
  have hl := String.toList_inj.mpr h
  rw [toList_text, toList_text] at hl
  obtain ⟨c, u, hu, hc⟩ := argumentsText_append_eq_cons f.arguments (' ' :: f.type.text.toList)
  obtain ⟨d, v, hv, hd⟩ := argumentsText_append_eq_cons g.arguments (' ' :: g.type.text.toList)
  rw [hu, hv] at hl
  obtain ⟨hn, rfl, rfl⟩ := hf.name.2.cut hg.name.2 hc hd hl
  obtain ⟨ha, ht⟩ := argumentsText_cut hf.arguments hg.arguments (hu.trans hv.symm)
  have ht : f.type = g.type :=
    TypeRef.text_inj hf.type hg.type (String.toList_inj.mp (List.cons.inj ht).2)
  obtain ⟨_, _, _⟩ := f
  obtain ⟨_, _, _⟩ := g
  rw [Field.mk.injEq]
  exact ⟨hn, ha, ht⟩

end Field

/-! ## Blocks -/

/-- The marks in a line. -/
def lineMarks : List Char := '\x7b' :: '\x7d' :: fieldMarks

/-- The names in a type are words, and all its fields are generated. -/
structure TypeDefinition.IsPlain (t : TypeDefinition) : Prop where
  name : IsWord t.name
  fields : ∀ f ∈ t.fields, f.IsPlain
  fragments : t.fragments = []

instance (t : TypeDefinition) : Decidable t.IsPlain :=
  decidable_of_iff (IsWord t.name ∧ (∀ f ∈ t.fields, f.IsPlain) ∧ t.fragments = [])
    ⟨fun h => ⟨h.1, h.2.1, h.2.2⟩, fun h => ⟨h.name, h.fields, h.fragments⟩⟩

namespace TypeDefinition

/-- The lines behind the first line of a type's block. -/
def body (indent : Nat) (t : TypeDefinition) : List String :=
  if t.isEmpty then [] else t.lines.map (indentation indent ++ ·) ++ ["\x7d"]

/-- The lines of a type's block. -/
def block (indent : Nat) (t : TypeDefinition) : List String :=
  (t.kind.keyword ++ " " ++ t.name ++ if t.isEmpty then "" else " \x7b") :: t.body indent

theorem toList_text (indent : Nat) (t : TypeDefinition) :
    (t.text indent).toList = endedBy ['\n'] ((t.block indent).map String.toList) := by
  rw [text, block, body]
  split
  · simp [endedBy]
  · simp [endedBy, String.toList_join, List.flatMap_map]

variable {n : Nat} {t u : TypeDefinition}

/-- A type without fields has no body; else the closing brace stands under the fields. -/
theorem IsPlain.body_eq (h : t.IsPlain) :
    t.body n = if t.fields = [] then []
      else t.fields.map (fun f => indentation n ++ f.text) ++ ["\x7d"] := by
  rw [body, isEmpty, lines, h.fragments]
  cases hf : t.fields with
  | nil => rfl
  | cons f fs => simp

theorem IsPlain.isEmpty_eq (h : t.IsPlain) : t.isEmpty = t.fields.isEmpty := by
  rw [isEmpty, h.fragments, List.isEmpty_nil, Bool.and_true]

theorem body_inj (ht : t.IsPlain) (hu : u.IsPlain) (h : t.body n = u.body n) :
    t.fields = u.fields := by
  rw [ht.body_eq, hu.body_eq] at h
  split at h <;> split at h
  · rename_i h₁ h₂
    exact h₁.trans h₂.symm
  · exact absurd h.symm (List.append_ne_nil_of_right_ne_nil _ (List.cons_ne_nil _ _))
  · exact absurd h (List.append_ne_nil_of_right_ne_nil _ (List.cons_ne_nil _ _))
  · refine map_inj_of (fun f hf g hg hfg => ?_) (List.append_cancel_right h)
    exact Field.text_inj (ht.fields f hf) (hu.fields g hg) ((String.append_right_inj _).mp hfg)

theorem spelled_keyword (k : Kind) : Spelled [] k.keyword := by
  cases k <;> decide

theorem keyword_inj : ∀ {j k : Kind}, j.keyword = k.keyword → j = k
  | .object, .object, _ => rfl
  | .object, .input, h => absurd h (by decide)
  | .input, .object, h => absurd h (by decide)
  | .input, .input, _ => rfl

/-- The first line tells the keyword, which ends at the space behind it, and the name. -/
theorem keyword_name_inj {j k : Kind} {a b : String}
    (h : j.keyword ++ " " ++ a = k.keyword ++ " " ++ b) : j = k ∧ a = b := by
  have hl := String.toList_inj.mpr h
  rw [String.toList_append, String.toList_append, String.toList_append, String.toList_append,
    List.append_assoc, List.append_assoc] at hl
  obtain ⟨hjk, -, hab⟩ := (spelled_keyword j).cut (spelled_keyword k) (by decide) (by decide) hl
  exact ⟨keyword_inj hjk, String.toList_inj.mp hab⟩

/-- **A type can be told from its block.** -/
theorem block_inj (ht : t.IsPlain) (hu : u.IsPlain) (h : t.block n = u.block n) : t = u := by
  obtain ⟨hhead, hbody⟩ := List.cons.inj h
  have hfields : t.fields = u.fields := body_inj ht hu hbody
  rw [ht.isEmpty_eq, hu.isEmpty_eq, hfields] at hhead
  obtain ⟨hkind, hname⟩ := keyword_name_inj ((String.append_left_inj _).mp hhead)
  have hfragments : t.fragments = u.fragments := ht.fragments.trans hu.fragments.symm
  obtain ⟨_, _, _, _⟩ := t
  obtain ⟨_, _, _, _⟩ := u
  rw [TypeDefinition.mk.injEq]
  exact ⟨hkind, hname, hfields, hfragments⟩

theorem spelled_indentation (n : Nat) : Spelled lineMarks (indentation n) := by
  intro c hc
  rw [indentation, String.toList_ofList] at hc
  rw [List.eq_of_mem_replicate hc]
  decide

theorem text_ne_empty (n : Nat) (t : TypeDefinition) : t.text n ≠ "" := by
  intro h
  rw [text, String.append_eq_empty_iff, String.append_eq_empty_iff, String.append_eq_empty_iff] at h
  exact absurd h.1.1.2 (by decide)

theorem IsPlain.eq_of_mem_body (h : t.IsPlain) {l : String} (hl : l ∈ t.body n) :
    (∃ f ∈ t.fields, l = indentation n ++ f.text) ∨ l = "\x7d" := by
  rw [h.body_eq] at hl
  split at hl
  · exact absurd hl List.not_mem_nil
  rcases List.mem_append.mp hl with hl | hl
  · obtain ⟨f, hf, hl⟩ := List.mem_map.mp hl
    exact Or.inl ⟨f, hf, hl.symm⟩
  · exact Or.inr (List.mem_singleton.mp hl)

/-- No line of a block has a line break in it. -/
theorem IsPlain.spelled_block (h : t.IsPlain) : ∀ l ∈ t.block n, Spelled lineMarks l := by
  intro l hl
  rcases List.mem_cons.mp hl with rfl | hl
  · refine ((((spelled_keyword t.kind).mono (List.nil_subset _)).append (by decide)).append
      (.of_isWord h.name)).append ?_
    split <;> decide
  rcases h.eq_of_mem_body hl with ⟨f, hf, rfl⟩ | rfl
  · exact (spelled_indentation n).append ((h.fields f hf).spelled_text.mono (by decide))
  · decide

/-- No line of a block is empty: each has a name or a brace in it. -/
theorem IsPlain.ne_empty_of_mem_block (h : t.IsPlain) : ∀ l ∈ t.block n, l ≠ "" := by
  intro l hl he
  rcases List.mem_cons.mp hl with rfl | hl
  · rw [String.append_eq_empty_iff, String.append_eq_empty_iff] at he
    exact h.name.1 he.1.2
  rcases h.eq_of_mem_body hl with ⟨f, hf, rfl⟩ | rfl
  · rw [Field.text, String.append_eq_empty_iff, String.append_eq_empty_iff,
      String.append_eq_empty_iff, String.append_eq_empty_iff] at he
    exact (h.fields f hf).name.1 he.2.1.1.1
  · exact absurd he (by decide)

end TypeDefinition

/-! ## Documents -/

/-- A plain type, and no fragment. -/
def Definition.IsPlain : Definition → Prop
  | .type t => t.IsPlain
  | .fragment _ => False

instance : ∀ x : Definition, Decidable x.IsPlain
  | .type t => inferInstanceAs (Decidable t.IsPlain)
  | .fragment _ => inferInstanceAs (Decidable False)

namespace Document

/-- Nothing in the document is given as a fragment, and all names in it are words. -/
def IsPlain (d : Document) : Prop := ∀ x ∈ d, x.IsPlain

instance (d : Document) : Decidable d.IsPlain := inferInstanceAs (Decidable (∀ x ∈ d, x.IsPlain))

theorem IsPlain.exists_types : ∀ {d : Document}, d.IsPlain →
    ∃ ts : List TypeDefinition, d = ts.map .type ∧ ∀ t ∈ ts, t.IsPlain
  | [], _ => ⟨[], rfl, nofun⟩
  | .fragment _ :: _, h => (h _ List.mem_cons_self).elim
  | .type t :: _, h => by
      obtain ⟨ts, rfl, hts⟩ := exists_types fun x hx => h x (List.mem_cons_of_mem _ hx)
      exact ⟨t :: ts, rfl, List.forall_mem_cons.mpr ⟨h _ List.mem_cons_self, hts⟩⟩

variable {n : Nat} {ts us : List TypeDefinition}

/-- The lines of a document: its blocks, with an empty line behind each. -/
def rows (n : Nat) (ts : List TypeDefinition) : List String :=
  endedBy [""] (ts.map (TypeDefinition.block n))

theorem endedBy_map_text (n : Nat) : ∀ ts : List TypeDefinition,
    endedBy ['\n'] (ts.map fun t => (t.text n).toList)
      = endedBy ['\n'] ((rows n ts).map String.toList)
  | [] => rfl
  | t :: ts => by
      have ih := endedBy_map_text n ts
      simp only [endedBy, rows, List.map_cons, List.flatMap_cons, List.map_append,
        List.flatMap_append] at ih ⊢
      rw [ih, t.toList_text]
      rfl

/-- With a line break behind it, the text is the lines with a line break behind each. -/
theorem toList_text_append (hts : ts ≠ []) :
    (Document.text n (ts.map .type)).toList ++ ['\n']
      = endedBy ['\n'] ((rows n ts).map String.toList) := by
  rw [Document.text, String.toList_intercalate, List.map_map, List.map_map, ← endedBy_map_text]
  exact intercalate_append_sep _ (mt List.map_eq_nil_iff.mp hts)

theorem spelled_rows (h : ∀ t ∈ ts, t.IsPlain) :
    ∀ cs ∈ (rows n ts).map String.toList, ∀ c ∈ cs, IsOneOf lineMarks c := by
  intro cs hcs
  obtain ⟨l, hl, rfl⟩ := List.mem_map.mp hcs
  obtain ⟨b, hb, hl⟩ := List.mem_flatMap.mp hl
  obtain ⟨t, ht, rfl⟩ := List.mem_map.mp hb
  rcases List.mem_append.mp hl with hl | hl
  · exact (h t ht).spelled_block l hl
  · rw [List.mem_singleton.mp hl]
    exact nofun

theorem ne_empty_of_mem_blocks (h : ∀ t ∈ ts, t.IsPlain) :
    ∀ b ∈ ts.map (TypeDefinition.block n), ∀ l ∈ b, l ≠ "" := by
  intro b hb
  obtain ⟨t, ht, rfl⟩ := List.mem_map.mp hb
  exact (h t ht).ne_empty_of_mem_block

/-- A block ends at the empty line behind it. -/
theorem rows_inj (h : ∀ t ∈ ts, t.IsPlain) (h' : ∀ u ∈ us, u.IsPlain)
    (heq : rows n ts = rows n us) : ts = us := by
  have hmap := endedBy_inj (p := (· ≠ "")) (not_not_intro rfl) (ne_empty_of_mem_blocks h)
    (ne_empty_of_mem_blocks h') heq
  exact map_inj_of (fun t ht u hu => TypeDefinition.block_inj (h t ht) (h' u hu)) hmap

theorem text_cons_ne_empty (n : Nat) (t : TypeDefinition) (ts : List TypeDefinition) :
    Document.text n ((t :: ts).map .type) ≠ "" := by
  intro h
  refine t.text_ne_empty n ?_
  cases ts with
  | nil => exact (String.intercalate_singleton (s := "\n")).symm.trans h
  | cons u us =>
    rw [Document.text, List.map_cons, List.map_cons, List.map_cons, List.map_cons,
      String.intercalate_cons_cons, String.append_eq_empty_iff, String.append_eq_empty_iff] at h
    exact h.1.1

/-- **No two documents have the same text.** -/
theorem text_eq_iff {d d' : Document} (h : d.IsPlain) (h' : d'.IsPlain) (n : Nat) :
    d.text n = d'.text n ↔ d = d' := by
  refine ⟨fun heq => ?_, fun heq => heq ▸ rfl⟩
  obtain ⟨ts, rfl, hts⟩ := h.exists_types
  obtain ⟨us, rfl, hus⟩ := h'.exists_types
  match ts, us with
  | [], [] => rfl
  | [], u :: us => exact absurd heq.symm (text_cons_ne_empty n u us)
  | t :: ts, [] => exact absurd heq (text_cons_ne_empty n t ts)
  | t :: ts, u :: us =>
    have hl := congrArg (fun s : String => s.toList ++ ['\n']) heq
    simp only [toList_text_append (List.cons_ne_nil t ts),
      toList_text_append (List.cons_ne_nil u us)] at hl
    have hrows := endedBy_inj (p := IsOneOf lineMarks) (by decide) (spelled_rows hts)
      (spelled_rows hus) hl
    rw [List.map_inj_right fun _ _ => String.toList_inj.mp] at hrows
    rw [rows_inj hts hus hrows]

/-- A type with one field of the given type, and a type without fields. -/
def shelf (t : TypeRef) : Document := [
  .type (.object "Book" [⟨"isbn", [⟨"form", .namedList "Form"⟩, ⟨"of_13", .named "Boolean"⟩], t⟩]),
  .type (.object "Shelf" [])]

/-- Even without indentation, a mark under a mark shows. -/
theorem text_shelf_ne :
    (shelf (.nonNull (.namedRequired "ID"))).IsPlain ∧ (shelf (.namedRequired "ID")).IsPlain ∧
      (shelf (.nonNull (.namedRequired "ID"))).text 0 ≠ (shelf (.namedRequired "ID")).text 0 :=
  ⟨by decide, by decide, fun h => absurd ((text_eq_iff (by decide) (by decide) 0).mp h) (by decide)⟩

end Document

end EntitySchema.Sdl
