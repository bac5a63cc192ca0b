import EntitySchema.Mismatch

/-!
# Json/Fault — why a text is not read

A text can end too early (`Unfinished`) or break the rules of the format (`Malformed`); a text that
does neither can still hold a value of the wrong shape (`Mismatch`).  A fault says what is wrong and
not where: the line and the column of its place, with which the message of the program ends, are not
kept.
-/

namespace EntitySchema.Json

/-- What was being read when the text ended. -/
inductive Unfinished
  /-- A value of which nothing was there yet. -/
  | value
  /-- A word that had begun. -/
  | word
  /-- A number of which a digit was still to come. -/
  | number
  | string
  | list
  | object
  deriving DecidableEq, Repr

/-- What breaks the rules of the format. -/
inductive Malformed
  | expectedValue
  | expectedWord
  | expectedColon
  | expectedCommaOrBracket
  | expectedCommaOrBrace
  | keyNotString
  | trailingComma
  | trailingCharacters
  | invalidNumber
  | numberOutOfRange
  | invalidEscape
  /-- A code unit whose four characters are not all hexadecimal digits. -/
  | invalidUnit
  | controlCharacter
  | loneSurrogate
  | unpairedSurrogate
  | tooDeep
  deriving DecidableEq, Repr

/-- A fault of the text itself. -/
inductive TextFault
  | truncated (u : Unfinished)
  | malformed (m : Malformed)
  deriving DecidableEq, Repr

/-- Does the fault stand inside a word or a number, whose beginning looked right? -/
def TextFault.isInsideToken : TextFault → Bool
  | .truncated .word => true
  | .truncated .number => true
  | .malformed .expectedWord => true
  | .malformed .invalidNumber => true
  | _ => false

/-- Any reason why a text is not read. -/
inductive Fault
  | text (f : TextFault)
  | mismatch (m : Mismatch)
  deriving DecidableEq, Repr

/-- The early end in words. -/
def Unfinished.message : Unfinished → String
  | value => "EOF while parsing a value"
  | word => "EOF while parsing a value"
  | number => "EOF while parsing a value"
  | string => "EOF while parsing a string"
  | list => "EOF while parsing a list"
  | object => "EOF while parsing an object"

/-- The broken rule in words. -/
def Malformed.message : Malformed → String
  | expectedValue => "expected value"
  | expectedWord => "expected ident"
  | expectedColon => "expected `:`"
  | expectedCommaOrBracket => "expected `,` or `]`"
  | expectedCommaOrBrace => "expected `,` or `\x7d`"
  | keyNotString => "key must be a string"
  | trailingComma => "trailing comma"
  | trailingCharacters => "trailing characters"
  | invalidNumber => "invalid number"
  | numberOutOfRange => "number out of range"
  | invalidEscape => "invalid escape"
  | invalidUnit => "invalid escape"
  | controlCharacter => "control character (\\u0000-\\u001F) found while parsing a string"
  | loneSurrogate => "lone leading surrogate in hex escape"
  | unpairedSurrogate => "unexpected end of hex escape"
  | tooDeep => "recursion limit exceeded"

/-- The fault in words, without its place. -/
def Fault.message : Fault → String
  | text (.truncated u) => u.message
  | text (.malformed m) => m.message
  | mismatch m => m.message

/-! ## Outcomes -/

section Outcomes

variable {ε α β : Type} {x : Except ε α} {b : β}

/-- Two steps succeed just if the first does and the second does with its result. -/
theorem bind_eq_ok {f : α → Except ε β} :
    x >>= f = .ok b ↔ ∃ a, x = .ok a ∧ f a = .ok b := by
  cases x with
  | error e => exact ⟨nofun, fun ⟨_, h, _⟩ => nomatch h⟩
  | ok a => exact ⟨fun h => ⟨a, rfl, h⟩, fun ⟨_, h, hf⟩ => Except.ok.inj h ▸ hf⟩

theorem map_eq_ok {f : α → β} : x.map f = .ok b ↔ ∃ a, x = .ok a ∧ f a = b := by
  cases x with
  | error e => exact ⟨nofun, fun ⟨_, h, _⟩ => nomatch h⟩
  | ok a =>
    exact ⟨fun h => ⟨a, rfl, Except.ok.inj h⟩,
      fun ⟨_, h, hf⟩ => Except.ok.inj h ▸ congrArg Except.ok hf⟩

theorem exists_eq_ok_of_isOk (h : x.isOk) : ∃ a, x = .ok a := by
  cases x with
  | error e => exact absurd h Bool.false_ne_true
  | ok a => exact ⟨a, rfl⟩

theorem exists_eq_error_of_not_isOk (h : ¬ x.isOk) : ∃ e, x = .error e := by
  cases x with
  | error e => exact ⟨e, rfl⟩
  | ok a => exact absurd rfl h

end Outcomes

end EntitySchema.Json
