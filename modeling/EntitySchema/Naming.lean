import EntitySchema.Text.Uppercase

/-!
# Naming — the names of generated types and fields

Type names are capitalised entity names, input types carry a fixed prefix, count fields a fixed
suffix.  `pluralize` covers the regular English endings: `…y` after a consonant becomes `…ies`, a
hissing ending takes `es`, everything else `s`.  Only the ending is looked at, and only in ASCII, so
the rest of the word is copied as it stands.
-/

namespace EntitySchema.Naming

/-- The word with its first character in upper case. -/
def capitalize (word : String) : String :=
  match word.toList with
  | [] => ""
  | c :: rest => String.ofList (Text.upper c ++ rest)

/-- Name of the object type of the entity `entityName`. -/
def typeName (entityName : String) : String := capitalize entityName

/-- Name of the input type that creates a `typeName`. -/
def createInput (typeName : String) : String := "_createInput" ++ typeName

/-- Name of the input type that updates a `typeName`. -/
def updateInput (typeName : String) : String := "_updateInput" ++ typeName

/-- Name of the field that counts the rows of `listField`. -/
def countField (listField : String) : String := listField ++ "Count"

/-- Is `c` one of `a e i o u`, in either case? -/
def isVowel (c : Char) : Bool := ['a', 'e', 'i', 'o', 'u'].contains c.toLower

/-- Does a word that ends in `last`, with `before` in front of it, end in a hissing sound:
`s`, `x`, `z`, `ch` or `sh`? -/
def isHissing (last : Char) (before : Option Char) : Bool :=
  match last.toLower with
  | 's' | 'x' | 'z' => true
  | 'h' => before.any fun c => c.toLower == 'c' || c.toLower == 's'
  | _ => false

/-- The plural of a word that is given backwards. -/
def pluralBackwards : List Char → List Char
  | [] => []
  | last :: before =>
    if last.toLower == 'y' && !before.head?.any isVowel then 's' :: 'e' :: 'i' :: before
    else if isHissing last before.head? then 's' :: 'e' :: last :: before
    else 's' :: last :: before

/-- The regular plural of an English word; the empty word stays empty. -/
def pluralize (word : String) : String :=
  String.ofList (pluralBackwards word.toList.reverse).reverse

theorem length_lt_pluralBackwards : ∀ {cs : List Char}, cs ≠ [] →
    cs.length < (pluralBackwards cs).length
  | [], h => absurd rfl h
  | last :: before, _ => by
      rw [pluralBackwards]
      split
      · simp only [List.length_cons]
        omega
      split
      · simp only [List.length_cons]
        omega
      · simp only [List.length_cons]
        omega

/-- **A plural is longer than its word.** -/
theorem length_lt_pluralize {word : String} (h : word ≠ "") :
    word.length < (pluralize word).length := by
  have hcs : word.toList.reverse ≠ [] := by simpa using h
  have := length_lt_pluralBackwards hcs
  rw [pluralize, String.length_ofList, List.length_reverse]
  rwa [List.length_reverse, String.length_toList] at this

end EntitySchema.Naming
