import EntitySchema.Text.Hex
import EntitySchema.Toml.Value

/-!
# Toml/Token — white space, comments, strings and keys

Each reader takes a token from the front of a text and gives the text behind it, or nothing where no
such token stands.  Readers that repeat are given a number of steps; one per character is enough.
-/

namespace EntitySchema.Toml

/-! ## Between tokens -/

/-- Is the character white space within a line? -/
def isLineSpace (c : Char) : Bool := c = ' ' || c = '\t'

/-- The text without white space at its front. -/
def skipLineSpace (cs : List Char) : List Char := cs.dropWhile isLineSpace

/-- May the character not stand in comments and strings? -/
def isControl (c : Char) : Bool := (c.toNat < 0x20 && c ≠ '\t') || c.toNat = 0x7F

/-- Takes a line break. -/
def newline? : List Char → Option (List Char)
  | '\n' :: cs => some cs
  | '\r' :: '\n' :: cs => some cs
  | _ => none

/-- Passes over white space, line breaks and comments; `comment` says that one has begun. -/
def skipTrivia (comment : Bool) : List Char → Option (List Char)
  | [] => some []
  | c :: cs =>
    if c = '\n' then skipTrivia false cs
    else if c = '\r' then if cs.head? = some '\n' then skipTrivia comment cs else none
    else if comment then if isControl c then none else skipTrivia true cs
    else if isLineSpace c then skipTrivia false cs
    else if c = '#' then skipTrivia true cs
    else some (c :: cs)

/-- Takes what is left of a line: white space, a comment, and the line break or the end. -/
def lineEnd? (cs : List Char) : Option (List Char) :=
  match skipLineSpace cs with
  | [] => some []
  | '#' :: cs =>
    let rest := cs.dropWhile fun c => !isControl c
    if rest.isEmpty then some [] else newline? rest
  | cs => newline? cs

/-! ## Strings -/

/-- Takes `count` hexadecimal digits; `n` is the number that the digits before them spell. -/
def hexDigits? (n : Nat) : Nat → List Char → Option (Nat × List Char)
  | 0, cs => some (n, cs)
  | _ + 1, [] => none
  | count + 1, c :: cs => do
    let d ← Text.hexValue? c
    hexDigits? (n * 16 + d) count cs

/-- The character with a code point, unless that is none. -/
def character? (n : Nat) : Option Char := if n.isValidChar then some (Char.ofNat n) else none

/-- Takes an escape, from behind its backslash. -/
def escape? : List Char → Option (Char × List Char)
  | [] => none
  | c :: cs =>
    if c = 'b' then some ('\x08', cs)
    else if c = 't' then some ('\t', cs)
    else if c = 'n' then some ('\n', cs)
    else if c = 'f' then some ('\x0c', cs)
    else if c = 'r' then some ('\r', cs)
    else if c = 'e' then some ('\x1b', cs)
    else if c = '"' then some ('"', cs)
    else if c = '\\' then some ('\\', cs)
    else do
      let count ← if c = 'x' then some 2 else if c = 'u' then some 4 else if c = 'U' then some 8
        else none
      let (n, cs) ← hexDigits? 0 count cs
      return (← character? n, cs)

/-- Puts a character in front of what is read behind it. -/
def cons (c : Char) (r : Option (List Char × List Char)) : Option (List Char × List Char) :=
  r.map fun p => (c :: p.1, p.2)

/-- Takes a string in double quotation marks, from behind the first. -/
def basicString (steps : Nat) (cs : List Char) : Option (List Char × List Char) :=
  match steps, cs with
  | 0, _ => none
  | _, [] => none
  | steps + 1, c :: cs =>
    if c = '"' then some ([], cs)
    else if c = '\\' then do
      let (e, cs) ← escape? cs
      cons e (basicString steps cs)
    else if isControl c then none
    else cons c (basicString steps cs)

/-- Takes a string in single quotation marks, from behind the first. -/
def literalString : List Char → Option (List Char × List Char)
  | [] => none
  | c :: cs =>
    if c = '\'' then some ([], cs)
    else if isControl c then none
    else cons c (literalString cs)

/-- A text without the line break at its front. -/
def dropNewline (cs : List Char) : List Char := (newline? cs).getD cs

/-- Passes over white space and line breaks. -/
def skipBlankLines : List Char → Option (List Char)
  | [] => some []
  | c :: cs =>
    if c = '\r' then if cs.head? = some '\n' then skipBlankLines cs else none
    else if c = '\n' || isLineSpace c then skipBlankLines cs
    else some (c :: cs)

/-- Takes a string between three marks `q`, from behind the first three: of three to five marks in a
row the last three close it, and fewer are part of it.  With `escapes`, a backslash begins an escape,
or takes away the white space up to the next text if the line ends behind it. -/
def longString (q : Char) (escapes : Bool) (steps : Nat) (cs : List Char) : Option (List Char × List Char) :=
  match steps, cs with
  | 0, _ => none
  | _, [] => none
  | steps + 1, c :: cs =>
    if c = q then
      let marks := min 5 ((cs.takeWhile (· = q)).length + 1)
      if 3 ≤ marks then some (List.replicate (marks - 3) q, cs.drop (marks - 1))
      else cons c (longString q escapes steps cs)
    else if c = '\\' && escapes then
      if (newline? (skipLineSpace cs)).isSome then do
        longString q escapes steps (← skipBlankLines cs)
      else do
        let (e, cs) ← escape? cs
        cons e (longString q escapes steps cs)
    else if c = '\n' then cons c (longString q escapes steps cs)
    else if c = '\r' then
      if cs.head? = some '\n' then cons c (longString q escapes steps cs) else none
    else if isControl c then none
    else cons c (longString q escapes steps cs)

/-- Takes a string of any of the four kinds. -/
def string? (cs : List Char) : Option (String × List Char) :=
  (characters cs).map fun p => (String.ofList p.1, p.2)
where
  /-- The characters of the string. -/
  characters : List Char → Option (List Char × List Char)
    | '"' :: '"' :: '"' :: cs => longString '"' true (cs.length + 1) (dropNewline cs)
    | '\'' :: '\'' :: '\'' :: cs => longString '\'' false (cs.length + 1) (dropNewline cs)
    | '"' :: cs => basicString (cs.length + 1) cs
    | '\'' :: cs => literalString cs
    | _ => none

/-! ## Keys -/

/-- May the character stand in a key without quotation marks? -/
def isKeyChar (c : Char) : Bool := c.isAlphanum || c = '-' || c = '_'

/-- Takes one part of a key. -/
def keyPart? : List Char → Option (String × List Char)
  | '"' :: cs => (basicString (cs.length + 1) cs).map fun p => (String.ofList p.1, p.2)
  | '\'' :: cs => (literalString cs).map fun p => (String.ofList p.1, p.2)
  | cs =>
    let part := cs.takeWhile isKeyChar
    if part.isEmpty then none else some (String.ofList part, cs.dropWhile isKeyChar)

/-- How many parts a key may have. -/
def maxParts : Nat := 80

/-- Takes the parts of a key: points stand between them, with white space around; there may be as many
as `room`. -/
def keyParts? (room : Nat) (cs : List Char) : Option (List String × List Char) :=
  match room with
  | 0 => none
  | room + 1 => do
    let (part, cs) ← keyPart? cs
    match skipLineSpace cs with
    | '.' :: cs =>
      let (parts, cs) ← keyParts? room (skipLineSpace cs)
      return (part :: parts, cs)
    | _ => return ([part], cs)

/-- Takes a key. -/
def key? (cs : List Char) : Option (List String × List Char) := keyParts? maxParts cs

end EntitySchema.Toml
