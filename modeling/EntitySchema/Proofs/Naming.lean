import EntitySchema.Naming
import Mathlib

/-!
# Proofs/Naming — names made of names

A name of the schema language is a letter or an underscore, and behind it letters, digits and
underscores, all of them ASCII (`Naming.isName`).  What is made of names, by a capital letter, by
the ending of a plural, by a prefix or a suffix, is a name again.

Upper case is a matter of all of Unicode.  Two facts are needed of it: what it comes to in ASCII
(`Text.upper_of_ascii`), and that nothing but an underscore has one in its upper case
(`Text.eq_of_underscore_mem_upper`).
-/

namespace EntitySchema

/-! ## Upper case -/

namespace Text

/-- The run of the letters `a` to `z`. -/
def latin : CaseRun := ⟨0x61, 0x7A, 1, -32⟩

/-- In ASCII, shifting the letters `a` to `z` is the upper case of the library. -/
theorem toUpper_eq_shift : ∀ n < 128, (Char.ofNat n).toUpper =
    if latin.contains n then Char.ofNat ((n : Int) + latin.shift).toNat else Char.ofNat n := by
  decide +kernel

/-- **An ASCII character has one upper case character**: no entry with several, and no run but the
first, reaches down to ASCII. -/
theorem upper_of_ascii {c : Char} (h : c.toNat < 128) : upper c = [c.toUpper] := by
  have hlong : longUppercase.lookup c.toNat = none := by
    have hkeys : ∀ p ∈ longUppercase, 128 ≤ p.1 := by decide +kernel
    refine List.lookup_eq_none_iff.mpr fun p hp => ?_
    have := hkeys p hp
    rw [bne_iff_ne]
    omega
  have hrest : caseRuns.tail.find? (·.contains c.toNat) = none := by
    have hfirst : ∀ r ∈ caseRuns.tail, 128 ≤ r.first := by decide +kernel
    refine List.find?_eq_none.mpr fun r hr hc => ?_
    have := hfirst r hr
    simp only [CaseRun.contains, Bool.and_eq_true, decide_eq_true_eq] at hc
    omega
  have hruns : caseRuns = latin :: caseRuns.tail := rfl
  have hshift := toUpper_eq_shift c.toNat h
  rw [c.ofNat_toNat] at hshift
  rw [upper, hlong, hruns, List.find?_cons, hrest, hshift]
  cases latin.contains c.toNat <;> rfl

/-- Only the code point of the underscore makes one. -/
theorem eq_of_ofNat_eq_underscore {n : Nat} (h : Char.ofNat n = '_') : n = 0x5F := by
  rw [Char.ofNat] at h
  split at h
  · exact congrArg Char.toNat h
  · exact absurd h (by decide)

theorem mem_longUppercase {n : Nat} {ns : List Nat} (h : longUppercase.lookup n = some ns) :
    (n, ns) ∈ longUppercase := by
  obtain ⟨l, l', hl, -⟩ := List.lookup_eq_some_iff.mp h
  rw [hl]
  exact List.mem_append_right l List.mem_cons_self

/-- **Nothing but an underscore has one in its upper case.** -/
theorem eq_of_underscore_mem_upper {c : Char} (h : '_' ∈ upper c) : c = '_' := by
  rw [upper] at h
  split at h
  · next ns hns =>
    have hlong : ∀ p ∈ longUppercase, 0x5F ∉ p.2 := by decide +kernel
    obtain ⟨n, hn, he⟩ := List.mem_map.mp h
    exact absurd (eq_of_ofNat_eq_underscore he ▸ hn) (hlong _ (mem_longUppercase hns))
  · split at h
    · next r hr =>
      -- no run is shifted onto the underscore
      have hruns : ∀ r ∈ caseRuns, (r.last : Int) + r.shift < 0x5F ∨ 0x5F < r.first + r.shift := by
        decide +kernel
      have hshift := eq_of_ofNat_eq_underscore (List.mem_singleton.mp h).symm
      have hin := List.find?_some hr
      have := hruns r (List.mem_of_find?_eq_some hr)
      simp only [CaseRun.contains, Bool.and_eq_true, decide_eq_true_eq] at hin
      omega
    · exact (List.mem_singleton.mp h).symm

theorem upper_ne_nil (c : Char) : upper c ≠ [] := by
  rw [upper]
  split
  · next ns hns =>
    have hlong : ∀ p ∈ longUppercase, p.2 ≠ [] := by decide +kernel
    exact mt List.map_eq_nil_iff.mp (hlong _ (mem_longUppercase hns))
  · split <;> exact List.cons_ne_nil _ _

end Text

namespace Naming

/-! ## Words that do not begin with an underscore -/

/-- The word does not begin with an underscore. -/
def IsPlain (word : String) : Prop := word.toList.head? ≠ some '_'

instance (word : String) : Decidable (IsPlain word) :=
  inferInstanceAs (Decidable (_ ≠ _))

/-- **A capital letter is no underscore.** -/
theorem IsPlain.capitalize {word : String} (h : IsPlain word) : IsPlain (capitalize word) := by
  rw [IsPlain, Naming.capitalize]
  rw [IsPlain] at h
  split
  · decide
  · next c rest hw =>
    rw [hw] at h
    obtain ⟨d, ds, hd⟩ := List.exists_cons_of_ne_nil (Text.upper_ne_nil c)
    rw [String.toList_ofList, hd]
    intro hu
    obtain rfl := Option.some.inj hu
    refine h (congrArg some (Text.eq_of_underscore_mem_upper ?_))
    rw [hd]
    exact List.mem_cons_self

/-! ## Names -/

/-- Can the character begin a name? -/
def isNameStart (c : Char) : Bool := c.isAlpha || c == '_'

/-- Can the character stand in a name? -/
def isNameChar (c : Char) : Bool := c.isAlphanum || c == '_'

/-- Is the word a name: a letter or an underscore, and behind it letters, digits and underscores,
all of them ASCII? -/
def isName (word : String) : Bool :=
  match word.toList with
  | [] => false
  | c :: cs => isNameStart c && cs.all isNameChar

theorem isName_iff {word : String} : isName word = true ↔
    ∃ c cs, word.toList = c :: cs ∧ isNameStart c = true ∧ cs.all isNameChar = true := by
  rw [isName]
  cases word.toList with
  | nil => simp
  | cons c cs => simp [and_assoc]

theorem isNameChar_of_isNameStart {c : Char} (h : isNameStart c = true) : isNameChar c = true := by
  rw [isNameStart, Bool.or_eq_true] at h
  rw [isNameChar, Char.isAlphanum, Bool.or_eq_true, Bool.or_eq_true]
  exact h.imp_left Or.inl

/-- Every character of a name can stand in one. -/
theorem all_isNameChar {word : String} (h : isName word = true) :
    word.toList.all isNameChar = true := by
  obtain ⟨c, cs, hw, hc, hcs⟩ := isName_iff.mp h
  rw [hw, List.all_cons, isNameChar_of_isNameStart hc, hcs]
  rfl

/-- **A name stays one with more behind it.** -/
theorem isName_append {word ending : String} (h : isName word = true)
    (he : ending.toList.all isNameChar = true) : isName (word ++ ending) = true := by
  obtain ⟨c, cs, hw, hc, hcs⟩ := isName_iff.mp h
  refine isName_iff.mpr ⟨c, cs ++ ending.toList, ?_, hc, ?_⟩
  · rw [String.toList_append, hw, List.cons_append]
  · rw [List.all_append, hcs, he]
    rfl

/-- **A name behind a name makes a name.** -/
theorem isName_concat {word rest : String} (h : isName word = true) (hr : isName rest = true) :
    isName (word ++ rest) = true :=
  isName_append h (all_isNameChar hr)

theorem ascii_of_isNameStart {c : Char} (h : isNameStart c = true) : c.toNat < 128 := by
  simp only [isNameStart, Char.isAlpha, Char.isUpper, Char.isLower, Bool.or_eq_true,
    Bool.and_eq_true, decide_eq_true_eq, beq_iff_eq, UInt32.le_iff_toNat_le, ge_iff_le] at h
  change ((65 ≤ c.toNat ∧ c.toNat ≤ 90) ∨ (97 ≤ c.toNat ∧ c.toNat ≤ 122)) ∨ c = '_' at h
  rcases h with h | rfl
  · omega
  · decide

theorem isNameStart_toUpper {c : Char} (h : isNameStart c = true) :
    isNameStart c.toUpper = true := by
  rw [isNameStart, Bool.or_eq_true] at h ⊢
  rcases h with h | h
  · rw [Char.isAlpha_toUpper_eq_isAlpha]
    exact Or.inl h
  · rw [eq_of_beq h]
    exact Or.inr (by decide)

/-- **A name stays one when it is capitalized.** -/
theorem isName_capitalize {word : String} (h : isName word = true) :
    isName (capitalize word) = true := by
  obtain ⟨c, cs, hw, hc, hcs⟩ := isName_iff.mp h
  refine isName_iff.mpr ⟨c.toUpper, cs, ?_, isNameStart_toUpper hc, hcs⟩
  rw [capitalize, hw]
  simp only [Text.upper_of_ascii (ascii_of_isNameStart hc)]
  rw [String.toList_ofList, List.singleton_append]

/-! ### Plurals -/

/-- **A plural is the word with an ending**, which takes the place of a last `y` if it is `ies`. -/
theorem pluralize_eq {word : String} (h : word ≠ "") :
    pluralize word = word ++ "s" ∨ pluralize word = word ++ "es" ∨
      ∃ stem y, y.toLower = 'y' ∧ word.toList = stem ++ [y] ∧
        (pluralize word).toList = stem ++ ['i', 'e', 's'] := by
  obtain ⟨last, before, hr⟩ : ∃ last before, word.toList.reverse = last :: before :=
    List.exists_cons_of_ne_nil (by simpa using h)
  have hw : word.toList = before.reverse ++ [last] := by
    rw [← List.reverse_reverse word.toList, hr, List.reverse_cons]
  have happend : ∀ ending : List Char, String.ofList (ending ++ last :: before).reverse
      = word ++ String.ofList ending.reverse := by
    intro ending
    rw [List.reverse_append, List.reverse_cons, ← hw, String.ofList_append, String.ofList_toList]
  rw [pluralize, hr, pluralBackwards]
  split
  · next hy =>
    rw [Bool.and_eq_true, beq_iff_eq] at hy
    refine Or.inr (Or.inr ⟨before.reverse, last, hy.1, hw, ?_⟩)
    rw [String.toList_ofList, List.reverse_cons, List.reverse_cons, List.reverse_cons,
      List.append_assoc, List.append_assoc]
    rfl
  split
  · exact Or.inr (Or.inl (happend ['s', 'e']))
  · exact Or.inl (happend ['s'])

/-- **A name stays one in the plural**, since what is left without a last `y` is empty or a name. -/
theorem isName_pluralize {word : String} (h : isName word = true) :
    isName (pluralize word) = true := by
  obtain ⟨c, cs, hw, hc, hcs⟩ := isName_iff.mp h
  have hne : word ≠ "" := fun he => by
    rw [he] at hw
    exact nomatch hw
  rcases pluralize_eq hne with hp | hp | ⟨stem, y, -, hy, hp⟩
  · rw [hp]
    exact isName_append h (by decide)
  · rw [hp]
    exact isName_append h (by decide)
  · rw [hw] at hy
    cases stem with
    | nil => exact isName_iff.mpr ⟨'i', ['e', 's'], hp, by decide, by decide⟩
    | cons d ds =>
      rw [List.cons_append] at hy
      obtain ⟨rfl, rfl⟩ := List.cons.inj hy
      rw [List.all_append, Bool.and_eq_true] at hcs
      refine isName_iff.mpr ⟨c, ds ++ ['i', 'e', 's'], hp, hc, ?_⟩
      rw [List.all_append, hcs.1]
      decide

end Naming

end EntitySchema
