import EntitySchema.Text.Printable

/-!
# Text/Quoted — text between quotation marks, as messages show it

The quotation mark, the backslash and the common control characters are escaped by a letter.  What
cannot be printed, or would merge with its neighbour, is written as `\u` with its code point in
braces.
-/

namespace EntitySchema.Text

/-- A character by its code point. -/
def codePointEscape (c : Char) : List Char :=
  ['\\', 'u', '\x7b'] ++ Nat.toDigits 16 c.toNat ++ ['\x7d']

/-- How a message shows a character inside quotation marks. -/
def quotedChar (c : Char) : List Char :=
  if c = '\x00' then ['\\', '0']
  else if c = '\t' then ['\\', 't']
  else if c = '\r' then ['\\', 'r']
  else if c = '\n' then ['\\', 'n']
  else if c = '\\' then ['\\', '\\']
  else if c = '"' then ['\\', '"']
  else if mergesBackwards c || !isPrintable c then codePointEscape c
  else [c]

/-- The text between quotation marks. -/
def quoted (s : String) : String :=
  String.ofList ('"' :: s.toList.flatMap quotedChar ++ ['"'])

end EntitySchema.Text
