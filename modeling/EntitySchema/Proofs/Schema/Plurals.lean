import EntitySchema.Proofs.Naming
import EntitySchema.Proofs.Schema.UniqueNames

/-!
# Proofs/Schema/Plurals — a derived plural, and the queries named by it

`Naming.pluralize` takes a word character by character.  The same plural can be cut out of the bytes
of the word: the ending is looked at in a copy in lower case, and a last `y` is cut off one byte
before the end (`Naming.slicedPlural?`).  The cut never falls inside a character, since lower case
leaves everything but ASCII as it is, so what is a `y` in the copy takes up one byte of the word.

A plural is longer than its word, and is the word with an ending but for a last `y`.  So an entity
whose plural is derived has different names for its three queries (`Registry.plural_apart`).
-/

namespace EntitySchema

namespace Naming

/-! ## Cutting bytes -/

/-- The first bytes of a word, if the cut behind them does not fall inside a character. -/
def cutAt? (word : String) (bytes : Nat) : Option String :=
  if h : (⟨bytes⟩ : String.Pos.Raw).IsValid word then some (word.sliceTo (word.pos ⟨bytes⟩ h)).copy
  else none

/-- Is the last character but one a vowel in lower case? -/
def endsInVowelAnd (lower : String) : Bool :=
  match lower.toList.reverse with
  | _ :: c :: _ => ['a', 'e', 'i', 'o', 'u'].contains c
  | _ => false

/-- The plural as it is cut out of the bytes of a word; there is none where the cut would fall inside
a character. -/
def slicedPlural? (word : String) : Option String :=
  if word = "" then some ""
  else
    let lower := word.map Char.toLower
    if lower.endsWith "y" && !endsInVowelAnd lower then
      (cutAt? word (word.utf8ByteSize - 1)).map (· ++ "ies")
    else if ["s", "x", "z", "ch", "sh"].any fun ending => lower.endsWith ending then
      some (word ++ "es")
    else some (word ++ "s")

/-- **A cut between two characters is made.** -/
theorem cutAt?_append (s t : String) : cutAt? (s ++ t) s.utf8ByteSize = some s := by
  have hvalid : (⟨s.utf8ByteSize⟩ : String.Pos.Raw).IsValid (s ++ t) :=
    String.Pos.Raw.isValid_rawEndPos.append_right t
  rw [cutAt?, dif_pos hvalid]
  exact congrArg some String.Pos.splits_append_rawEndPos.copy_sliceTo_eq

/-! ### The ending in lower case -/

section Ending

variable {word : String} {last : Char} {before : List Char}

/-- A word in lower case, backwards. -/
theorem reverse_toList_lower (h : word.toList.reverse = last :: before) :
    (word.map Char.toLower).toList.reverse = last.toLower :: before.map Char.toLower := by
  rw [String.toList_map, ← List.map_reverse, h, List.map_cons]

theorem endsWith_iff (h : word.toList.reverse = last :: before) (ending : String) :
    (word.map Char.toLower).endsWith ending = true ↔
      ending.toList.reverse <+: last.toLower :: before.map Char.toLower := by
  rw [← String.endsWith_toSlice, String.Slice.endsWith_string_iff, String.copy_toSlice,
    ← List.reverse_prefix, reverse_toList_lower h]

theorem endsWith_one (h : word.toList.reverse = last :: before) {ending : String} {c : Char}
    (he : ending.toList = [c]) : (word.map Char.toLower).endsWith ending = (last.toLower == c) := by
  rw [Bool.eq_iff_iff, endsWith_iff h, he, List.reverse_singleton, List.cons_prefix_cons,
    and_iff_left List.nil_prefix, beq_iff_eq, eq_comm]

theorem endsWith_two (h : word.toList.reverse = last :: before) {ending : String} {c d : Char}
    (he : ending.toList = [c, d]) : (word.map Char.toLower).endsWith ending
      = (last.toLower == d && before.head?.any fun b => b.toLower == c) := by
  rw [Bool.eq_iff_iff, endsWith_iff h, he, Bool.and_eq_true, beq_iff_eq]
  have hreverse : [c, d].reverse = [d, c] := rfl
  rw [hreverse, List.cons_prefix_cons, eq_comm]
  cases before with
  | nil => simp
  | cons b before => simp [List.cons_prefix_cons, eq_comm (a := c)]

/-- **The hissing endings are told by one character or two.** -/
theorem any_endsWith (h : word.toList.reverse = last :: before) :
    (["s", "x", "z", "ch", "sh"].any fun ending => (word.map Char.toLower).endsWith ending)
      = isHissing last before.head? := by
  have hs : (word.map Char.toLower).endsWith "s" = (last.toLower == 's') := endsWith_one h rfl
  have hx : (word.map Char.toLower).endsWith "x" = (last.toLower == 'x') := endsWith_one h rfl
  have hz : (word.map Char.toLower).endsWith "z" = (last.toLower == 'z') := endsWith_one h rfl
  have hch : (word.map Char.toLower).endsWith "ch"
      = (last.toLower == 'h' && before.head?.any fun b => b.toLower == 'c') := endsWith_two h rfl
  have hsh : (word.map Char.toLower).endsWith "sh"
      = (last.toLower == 'h' && before.head?.any fun b => b.toLower == 's') := endsWith_two h rfl
  rw [List.any_cons, List.any_cons, List.any_cons, List.any_cons, List.any_cons, List.any_nil, hs,
    hx, hz, hch, hsh, isHissing]
  split
  · next hl => rw [hl]; rfl
  · next hl => rw [hl]; rfl
  · next hl => rw [hl]; rfl
  · next hl =>
    rw [hl]
    cases before.head? with
    | none => rfl
    | some b => simp
  · next hs hx hz hh =>
    rw [beq_false_of_ne hs, beq_false_of_ne hx, beq_false_of_ne hz, beq_false_of_ne hh]
    rfl

theorem endsInVowelAnd_lower (h : word.toList.reverse = last :: before) :
    endsInVowelAnd (word.map Char.toLower) = before.head?.any isVowel := by
  rw [endsInVowelAnd, reverse_toList_lower h]
  cases before with
  | nil => rfl
  | cons c before => rfl

end Ending

/-- What is a `y` in lower case is one in ASCII. -/
theorem eq_y_of_toLower {c : Char} (h : c.toLower = 'y') : c = 'y' ∨ c = 'Y' := by
  rw [Char.toLower] at h
  split at h
  · have hval : c.val + ('a'.val - 'A'.val) = 'Y'.val + ('a'.val - 'A'.val) := congrArg Char.val h
    exact Or.inr (Char.ext ((UInt32.add_left_inj _).mp hval))
  · exact Or.inl h

/-- **The cut never falls inside a character**, and the plural is the one that the characters
make. -/
theorem slicedPlural?_eq (word : String) : slicedPlural? word = some (pluralize word) := by
  by_cases hne : word = ""
  · rw [hne]
    rfl
  obtain ⟨last, before, hr⟩ : ∃ last before, word.toList.reverse = last :: before :=
    List.exists_cons_of_ne_nil (by simpa using hne)
  have hw : word = String.ofList before.reverse ++ String.singleton last := by
    rw [← String.toList_inj, String.toList_append, String.toList_ofList, String.toList_singleton,
      ← List.reverse_cons, ← hr, List.reverse_reverse]
  have happend : ∀ ending : List Char, String.ofList (ending.reverse ++ last :: before).reverse
      = word ++ String.ofList ending := fun ending => by
    rw [List.reverse_append, List.reverse_reverse, List.reverse_cons, String.ofList_append,
      String.ofList_append, hw, String.singleton_eq_ofList]
  have hy : (word.map Char.toLower).endsWith "y" = (last.toLower == 'y') := endsWith_one hr rfl
  rw [slicedPlural?, if_neg hne]
  dsimp only
  rw [hy, endsInVowelAnd_lower hr, any_endsWith hr, pluralize, hr, pluralBackwards]
  split
  · next h =>
    rw [Bool.and_eq_true, beq_iff_eq] at h
    -- the last character is ASCII, so the word without it ends one byte before the end
    have hsize : (String.singleton last).utf8ByteSize = 1 := by
      rcases eq_y_of_toLower h.1 with rfl | rfl
      · rfl
      · rfl
    have hcut : cutAt? word (word.utf8ByteSize - 1) = some (String.ofList before.reverse) := by
      rw [hw, String.utf8ByteSize_append, hsize, Nat.add_sub_cancel]
      exact cutAt?_append _ _
    rw [hcut, List.reverse_cons, List.reverse_cons, List.reverse_cons, List.append_assoc,
      List.append_assoc, String.ofList_append]
    rfl
  split
  · exact congrArg some (happend ['e', 's']).symm
  · exact congrArg some (happend ['s']).symm

/-! ## What a plural begins with -/

/-- The plural is longer than the word and begins with it, but for a last `y` that gives way. -/
structure Lengthens (word plural : String) : Prop where
  longer : word.length < plural.length
  begins : (∃ ending, plural = word ++ ending) ∨
    ∃ stem, (word = stem ++ "y" ∨ word = stem ++ "Y") ∧ plural = stem ++ "ies"

theorem lengthens_pluralize {word : String} (h : word ≠ "") : Lengthens word (pluralize word) where
  longer := length_lt_pluralize h
  begins := by
    rcases pluralize_eq h with hp | hp | ⟨stem, y, hy, hw, hp⟩
    · exact Or.inl ⟨_, hp⟩
    · exact Or.inl ⟨_, hp⟩
    · refine Or.inr ⟨String.ofList stem, ?_, ?_⟩
      · rw [← String.toList_inj, ← String.toList_inj, String.toList_append, String.toList_append,
          String.toList_ofList, hw]
        exact (eq_y_of_toLower hy).imp (fun h => by rw [h]; rfl) fun h => by rw [h]; rfl
      · rw [← String.toList_inj, String.toList_append, String.toList_ofList, hp]
        rfl

end Naming

/-! ## The queries of an entity -/

open Schema

/-- A derived plural is that of the singular, which is not empty if the name is not. -/
theorem Forms.complete_of_plural_eq {name : String} {f : Forms} (hp : f.plural = "")
    (h : name ≠ "" ∨ f.singular ≠ "") : (f.complete name).singular ≠ "" ∧
      (f.complete name).plural = Naming.pluralize (f.complete name).singular := by
  rw [Forms.complete, if_pos hp]
  refine ⟨?_, rfl⟩
  split
  · next hs => exact h.resolve_right (not_not_intro hs)
  · next hs => exact hs

/-- **The queries of an entity have different names if its plural is that of its singular**, which
is shorter than the name of the list and that of the count. -/
theorem Schema.nodup_queryNames_of_pluralize {e : Entity} (hs : e.forms.singular ≠ "")
    (hp : e.forms.plural = Naming.pluralize e.forms.singular) : (queryNames e).Nodup := by
  have hlonger := Naming.length_lt_pluralize hs
  refine (nodup_queryNames_iff e).mpr fun _ => ⟨fun h => ?_, fun h => ?_⟩
  · rw [← hp, ← h] at hlonger
    exact Nat.lt_irrefl _ hlonger
  · have hlength := congrArg String.length h
    rw [Naming.countField, String.length_append, hp] at hlength
    omega

/-- **A derived plural is safe, and never meets its singular.**  However many bytes the characters of
a word take up, its plural can be cut out of them; it is longer than the word, and begins with it but
for a last `y` that gives way to `ies`.  So where an entity is registered that has a name or a
singular, but no plural, and is to be searched for, its list, its count and its single row are
queried under three different names. -/
theorem Registry.plural_apart :
    (∀ word, Naming.slicedPlural? word = some (Naming.pluralize word) ∧
      (word ≠ "" → Naming.Lengthens word (Naming.pluralize word))) ∧
    ∀ (r : Registry) (e : Entity), e.name ≠ "" ∨ e.forms.singular ≠ "" → e.forms.plural = "" →
      e.flags.search = true → ∃ d, (r.register e).get? e.name = some d ∧
        (queryFields d).map Sdl.Field.name
          = [d.forms.plural, d.forms.plural ++ "Count", d.forms.singular] ∧
        ((queryFields d).map Sdl.Field.name).Nodup := by
  refine ⟨fun word => ⟨Naming.slicedPlural?_eq word, Naming.lengthens_pluralize⟩,
    fun r e hn hp hs => ⟨e.complete, ?_, ?_, ?_⟩⟩
  · rw [get?_register, if_pos rfl]
  · rw [map_name_queryFields, queryNames, if_pos (show e.complete.flags.search = true from hs)]
    rfl
  · obtain ⟨hsingular, hplural⟩ := Forms.complete_of_plural_eq hp hn
    rw [map_name_queryFields]
    exact nodup_queryNames_of_pluralize hsingular hplural

/-- A city whose singular has characters of two bytes, and ends in a capital `Y`. -/
def Registry.city : Entity where
  name := "city"
  forms := { singular := "CITÉŸ-SPY" }

/-- Cities are queried as `CITÉŸ-SPies`. -/
theorem Registry.plural_apart_city :
    Naming.slicedPlural? "CITÉŸ-SPY" = some "CITÉŸ-SPies" ∧
      Naming.Lengthens "CITÉŸ-SPY" "CITÉŸ-SPies" ∧
      ∃ d, (Registry.bookshop.register city).get? "city" = some d ∧
        (queryFields d).map Sdl.Field.name = ["CITÉŸ-SPies", "CITÉŸ-SPiesCount", "CITÉŸ-SPY"] ∧
        ((queryFields d).map Sdl.Field.name).Nodup := by
  have hplural : Naming.pluralize "CITÉŸ-SPY" = "CITÉŸ-SPies" := by decide
  obtain ⟨hsliced, hlengthens⟩ := plural_apart.1 "CITÉŸ-SPY"
  obtain ⟨d, hd, hnames, hnodup⟩ :=
    plural_apart.2 Registry.bookshop city (Or.inl (by decide)) rfl rfl
  rw [hplural] at hsliced hlengthens
  refine ⟨hsliced, hlengthens (by decide), d, hd, ?_, hnodup⟩
  rw [get?_register, if_pos rfl] at hd
  obtain rfl := Option.some.inj hd
  rw [hnames]
  decide

end EntitySchema
