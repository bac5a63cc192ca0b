import EntitySchema.Text.Hex

/-!
# Json/Value — values of the JSON format and their compact written form

A string is written between quotation marks.  The quotation mark, the backslash and the control
characters are escaped — five of them by a letter, the others by four hexadecimal digits — and every
other character stands for itself.
-/

namespace EntitySchema.Json

/-- A value to be written; object members keep their order. -/
inductive Value
  | null
  | bool (b : Bool)
  | number (n : Nat)
  | string (s : String)
  | array (items : List Value)
  | object (members : List (String × Value))

/-- How a character is written inside a string. -/
def escapeChar (c : Char) : List Char :=
  if c = '"' then ['\\', '"']
  else if c = '\\' then ['\\', '\\']
  else if c = '\x08' then ['\\', 'b']
  else if c = '\t' then ['\\', 't']
  else if c = '\n' then ['\\', 'n']
  else if c = '\x0c' then ['\\', 'f']
  else if c = '\r' then ['\\', 'r']
  else if c.toNat < 0x20 then
    ['\\', 'u', '0', '0', Text.hexDigit (c.toNat / 16), Text.hexDigit (c.toNat % 16)]
  else [c]

/-- The written form of a string, with its quotation marks. -/
def quote (s : String) : List Char := '"' :: s.toList.flatMap escapeChar ++ ['"']

mutual

/-- The characters of a value's compact written form. -/
def Value.chars : Value → List Char
  | .null => ['n', 'u', 'l', 'l']
  | .bool true => ['t', 'r', 'u', 'e']
  | .bool false => ['f', 'a', 'l', 's', 'e']
  | .number n => Nat.toDigits 10 n
  | .string s => quote s
  | .array items => '[' :: itemsChars items ++ [']']
  | .object members => '\x7b' :: membersChars members ++ ['\x7d']

/-- Items, separated by commas. -/
def itemsChars : List Value → List Char
  | [] => []
  | [v] => v.chars
  | v :: rest => v.chars ++ ',' :: itemsChars rest

/-- Members, separated by commas. -/
def membersChars : List (String × Value) → List Char
  | [] => []
  | [(k, v)] => quote k ++ ':' :: v.chars
  | (k, v) :: rest => quote k ++ ':' :: v.chars ++ ',' :: membersChars rest

end

/-- The compact written form of a value. -/
def Value.text (v : Value) : String := String.ofList v.chars

end EntitySchema.Json
