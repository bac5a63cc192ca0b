/-!
# Text/Blank — white space, and text that holds nothing else

A character is blank if it has the Unicode property *White_Space*.  The zero-width space, the
byte-order mark and the Mongolian vowel separator do not have it.
-/

namespace EntitySchema.Text

/-- Does `n` lie in one of the closed intervals? -/
def inIntervals (intervals : List (Nat × Nat)) (n : Nat) : Bool :=
  intervals.any fun i => i.1 ≤ n && n ≤ i.2

/-- The code points with the property *White_Space*. -/
def whiteSpace : List (Nat × Nat) := [
  (0x9, 0xD), (0x20, 0x20), (0x85, 0x85), (0xA0, 0xA0), (0x1680, 0x1680), (0x2000, 0x200A),
  (0x2028, 0x2029), (0x202F, 0x202F), (0x205F, 0x205F), (0x3000, 0x3000)]

/-- Is `c` white space? -/
def isBlank (c : Char) : Bool := inIntervals whiteSpace c.toNat

/-- Does the text hold white space only? -/
def isBlankText (s : String) : Bool := s.toList.all isBlank

/-- The characters without the white space at their end. -/
def dropBlankEnd (cs : List Char) : List Char := (cs.reverse.dropWhile isBlank).reverse

/-- The text without the white space at its end. -/
def trimEnd (s : String) : String := String.ofList (dropBlankEnd s.toList)

/-- **What is left ends in a character that is not blank.** -/
theorem getLast?_dropBlankEnd (cs : List Char) :
    ∀ c ∈ (dropBlankEnd cs).getLast?, isBlank c = false := by
  intro c hc
  rw [dropBlankEnd, List.getLast?_reverse] at hc
  have := List.head?_dropWhile_not isBlank cs.reverse
  rw [Option.mem_def.mp hc] at this
  simpa using this

/-- **Only white space is taken away.** -/
theorem dropBlankEnd_append (cs : List Char) :
    ∃ tail : List Char, cs = dropBlankEnd cs ++ tail ∧ ∀ c ∈ tail, isBlank c := by
  refine ⟨(cs.reverse.takeWhile isBlank).reverse, ?_, ?_⟩
  · rw [dropBlankEnd, ← List.reverse_append, List.takeWhile_append_dropWhile, List.reverse_reverse]
  · intro c hc
    rw [List.mem_reverse] at hc
    exact List.all_eq_true.mp List.all_takeWhile c hc

end EntitySchema.Text
