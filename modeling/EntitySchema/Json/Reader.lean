import EntitySchema.Json.Node

/-!
# Json/Reader — from text to tree

Reading goes from left to right and stops at the first fault, which the tree keeps in its place.  The
reader is given a number of steps; each character takes at most two, so `Node.read` gives enough.
-/

namespace EntitySchema.Json

/-- A value with the text behind it; there is none behind a fault. -/
structure Scan (α : Type) where
  result : α
  rest : Option (List Char)

/-- Is the character white space between tokens? -/
def isSpace (c : Char) : Bool := c = ' ' || c = '\n' || c = '\t' || c = '\r'

/-- The text from its first token on. -/
def skipSpace (cs : List Char) : List Char := cs.dropWhile isSpace

/-- Reads the letters of a word, giving `n` for it. -/
def readWord (n : Node) : List Char → List Char → Scan Node
  | [], cs => ⟨n, some cs⟩
  | _ :: _, [] => ⟨.fault (.truncated .word), none⟩
  | w :: ws, c :: cs =>
    if c = w then readWord n ws cs else ⟨.fault (.malformed .expectedWord), none⟩

/-- Reads a number. -/
def readNumber (cs : List Char) : Scan Node :=
  match Numeral.read cs with
  | .ok (n, rest) => ⟨.number n, some rest⟩
  | .error f => ⟨.fault f, none⟩

/-- The items or members read before reading stopped, and the fault in place of the closing mark. -/
structure Body (α : Type) where
  parts : List α
  fault : Option TextFault

/-- A body that ends with one last part. -/
def Scan.stop {α : Type} (part : α) (f : Option TextFault) (rest : Option (List Char)) :
    Scan (Body α) := ⟨⟨[part], f⟩, rest⟩

/-- Puts a part in front of a body. -/
def Scan.cons {α : Type} (part : α) (s : Scan (Body α)) : Scan (Body α) :=
  ⟨⟨part :: s.result.parts, s.result.fault⟩, s.rest⟩

/-- A member whose key is a fault. -/
def brokenMember (f : TextFault) : Literal × Node := (⟨[], some f⟩, .fault f)

mutual

/-- Reads a value. -/
def readValue (steps : Nat) (cs : List Char) : Scan Node :=
  match steps with
  | 0 => ⟨.fault (.truncated .value), none⟩
  | steps + 1 =>
    match skipSpace cs with
    | [] => ⟨.fault (.truncated .value), none⟩
    | c :: cs =>
      if c = 'n' then readWord .null ['u', 'l', 'l'] cs
      else if c = 't' then readWord (.bool true) ['r', 'u', 'e'] cs
      else if c = 'f' then readWord (.bool false) ['a', 'l', 's', 'e'] cs
      else if c = '-' ∨ c.isDigit then readNumber (c :: cs)
      else if c = '"' then
        let s := Literal.read cs
        ⟨.string s.literal, s.rest⟩
      else if c = '[' then
        match skipSpace cs with
        | [] => ⟨.array [] (some (.truncated .list)), none⟩
        | d :: ds =>
          if d = ']' then ⟨.array [] none, some ds⟩
          else
            let s := readItems steps (d :: ds)
            ⟨.array s.result.parts s.result.fault, s.rest⟩
      else if c = '\x7b' then
        match skipSpace cs with
        | [] => ⟨.object [] (some (.truncated .object)), none⟩
        | d :: ds =>
          if d = '\x7d' then ⟨.object [] none, some ds⟩
          else if d = '"' then
            let s := readMembers steps ds
            ⟨.object s.result.parts s.result.fault, s.rest⟩
          else ⟨.keyless (readValue steps (d :: ds)).result, none⟩
      else ⟨.fault (.malformed .expectedValue), none⟩

/-- Reads items, from the first of them to the closing bracket. -/
def readItems (steps : Nat) (cs : List Char) : Scan (Body Node) :=
  match steps with
  | 0 => .stop (.fault (.truncated .value)) none none
  | steps + 1 =>
    let item := readValue steps cs
    match item.rest with
    | none => .stop item.result none none
    | some cs =>
      match skipSpace cs with
      | [] => .stop item.result (some (.truncated .list)) none
      | c :: cs =>
        if c = ']' then .stop item.result none (some cs)
        else if c = ',' then
          if (skipSpace cs).head? = some ']' then
            .cons item.result (.stop (.fault (.malformed .trailingComma)) none none)
          else .cons item.result (readItems steps cs)
        else .stop item.result (some (.malformed .expectedCommaOrBracket)) none

/-- Reads members, from behind the quotation mark of the first key to the closing brace. -/
def readMembers (steps : Nat) (cs : List Char) : Scan (Body (Literal × Node)) :=
  match steps with
  | 0 => .stop (brokenMember (.truncated .value)) none none
  | steps + 1 =>
    let key := Literal.read cs
    match key.rest.map skipSpace with
    | none => .stop (key.literal, .null) none none
    | some [] => .stop (key.literal, .fault (.truncated .object)) none none
    | some (c :: cs) =>
      if c = ':' then
        let value := readValue steps cs
        match value.rest.map skipSpace with
        | none => .stop (key.literal, value.result) none none
        | some [] => .stop (key.literal, value.result) (some (.truncated .object)) none
        | some (c :: cs) =>
          if c = '\x7d' then .stop (key.literal, value.result) none (some cs)
          else if c = ',' then
            .cons (key.literal, value.result) <|
              match skipSpace cs with
              | [] => .stop (brokenMember (.truncated .value)) none none
              | d :: ds =>
                if d = '"' then readMembers steps ds
                else if d = '\x7d' then .stop (brokenMember (.malformed .trailingComma)) none none
                else .stop (brokenMember (.malformed .keyNotString)) none none
          else .stop (key.literal, value.result) (some (.malformed .expectedCommaOrBrace)) none
      else .stop (key.literal, .fault (.malformed .expectedColon)) none none

end

/-- The value at the front of a text, and the text behind it. -/
def Node.read (cs : List Char) : Scan Node := readValue (2 * cs.length + 1) cs

end EntitySchema.Json
