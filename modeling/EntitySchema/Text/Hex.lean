/-!
# Text/Hex — hexadecimal digits
-/

namespace EntitySchema.Text

/-- The digit of a number below 16, in lower case. -/
def hexDigit (n : Nat) : Char :=
  if n < 10 then Char.ofNat ('0'.toNat + n) else Char.ofNat ('a'.toNat + (n - 10))

/-- The value of a digit, in either case. -/
def hexValue? (c : Char) : Option Nat :=
  if '0' ≤ c ∧ c ≤ '9' then some (c.toNat - '0'.toNat)
  else if 'a' ≤ c ∧ c ≤ 'f' then some (c.toNat - 'a'.toNat + 10)
  else if 'A' ≤ c ∧ c ≤ 'F' then some (c.toNat - 'A'.toNat + 10)
  else none

/-- **A digit is read as the number it was written for.** -/
theorem hexValue?_hexDigit (n : Nat) (h : n < 16) : hexValue? (hexDigit n) = some n := by
  have : ∀ n : Fin 16, hexValue? (hexDigit n) = some n.val := by decide
  exact this ⟨n, h⟩

end EntitySchema.Text
