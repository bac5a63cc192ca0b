import EntitySchema.Json.Fault
import EntitySchema.Text.Hex

/-!
# Json/Literal — string literals and what they spell

A literal is read into pieces: characters, and code units written as four hexadecimal digits.  Whether
the code units pair up is a question of its own, which only a reader that wants the text asks
(`Literal.text`); whoever skips a literal does not (`Literal.skip`).
-/

namespace EntitySchema.Json

/-- A piece of a string literal. -/
inductive Piece
  /-- A character, written as it is or escaped by a letter. -/
  | char (c : Char)
  /-- A code unit, written as four hexadecimal digits. -/
  | unit (u : Nat)
  deriving DecidableEq, Repr

/-- The pieces of a literal, up to its end or up to the fault that stopped reading. -/
structure Literal where
  pieces : List Piece
  fault : Option TextFault
  deriving DecidableEq, Repr

/-! ## Reading -/

/-- The character that a letter behind a backslash stands for. -/
def letterEscape? (c : Char) : Option Char :=
  if c = '"' then some '"'
  else if c = '\\' then some '\\'
  else if c = '/' then some '/'
  else if c = 'b' then some '\x08'
  else if c = 'f' then some '\x0c'
  else if c = 'n' then some '\n'
  else if c = 'r' then some '\r'
  else if c = 't' then some '\t'
  else none

/-- The code unit that four hexadecimal digits spell. -/
def unitValue? (a b c d : Char) : Option Nat := do
  let a ← Text.hexValue? a
  let b ← Text.hexValue? b
  let c ← Text.hexValue? c
  let d ← Text.hexValue? d
  return ((a * 16 + b) * 16 + c) * 16 + d

/-- The number of bytes that the characters take. -/
def byteCount (cs : List Char) : Nat := cs.foldl (fun n c => n + c.utf8Size) 0

/-- A literal with the text behind it; there is none behind a fault. -/
structure Literal.Scan where
  literal : Literal
  rest : Option (List Char)

/-- A literal that stops at a fault. -/
def Literal.Scan.broken (f : TextFault) : Literal.Scan := ⟨⟨[], some f⟩, none⟩

/-- Puts a piece in front. -/
def Literal.Scan.cons (p : Piece) (s : Literal.Scan) : Literal.Scan :=
  ⟨⟨p :: s.literal.pieces, s.literal.fault⟩, s.rest⟩

/-- The fault of an escape that is no code unit: fewer than four bytes are left, or they are not
digits. -/
def unitFault (cs : List Char) : TextFault :=
  if byteCount (cs.take 4) < 4 then .truncated .string else .malformed .invalidUnit

/-- Reads a literal behind its opening quotation mark, and the text behind its closing one. -/
def Literal.read : List Char → Literal.Scan
  | [] => .broken (.truncated .string)
  | c :: cs =>
    if c = '"' then ⟨⟨[], none⟩, some cs⟩
    else if c = '\\' then
      match cs with
      | [] => .broken (.truncated .string)
      | e :: cs =>
        if e = 'u' then
          match cs with
          | h₁ :: h₂ :: h₃ :: h₄ :: rest =>
            match unitValue? h₁ h₂ h₃ h₄ with
            | some u => .cons (.unit u) (Literal.read rest)
            | none => .broken (.malformed .invalidUnit)
          | _ => .broken (unitFault cs)
        else
          match letterEscape? e with
          | some c => .cons (.char c) (Literal.read cs)
          | none => .broken (.malformed .invalidEscape)
    else if c.toNat < 0x20 then .broken (.malformed .controlCharacter)
    else .cons (.char c) (Literal.read cs)

/-! ## Meaning -/

/-- Is the code unit the first half of a pair? -/
def isLeading (u : Nat) : Bool := 0xD800 ≤ u && u ≤ 0xDBFF

/-- Is the code unit the second half of a pair? -/
def isTrailing (u : Nat) : Bool := 0xDC00 ≤ u && u ≤ 0xDFFF

/-- The character that two halves make. -/
def pairChar (u v : Nat) : Char := Char.ofNat (0x10000 + (u - 0xD800) * 0x400 + (v - 0xDC00))

/-- The fault behind a first half that is the last piece: a second half was begun and broken, or was not
there. -/
def halfFault : Option TextFault → TextFault
  | some (.truncated u) => .truncated u
  | some (.malformed .invalidUnit) => .malformed .invalidUnit
  | _ => .malformed .unpairedSurrogate

/-- The characters that pieces spell; `stop` is the fault behind the last piece. -/
def Piece.decode (stop : Option TextFault) : List Piece → Except TextFault (List Char)
  | [] =>
    match stop with
    | none => .ok []
    | some f => .error f
  | .char c :: ps => (Piece.decode stop ps).map (c :: ·)
  | .unit u :: ps =>
    if isTrailing u then .error (.malformed .loneSurrogate)
    else if isLeading u then
      match ps with
      | .unit v :: ps =>
        if isTrailing v then (Piece.decode stop ps).map (pairChar u v :: ·)
        else .error (.malformed .loneSurrogate)
      | .char _ :: _ => .error (.malformed .unpairedSurrogate)
      | [] => .error (halfFault stop)
    else (Piece.decode stop ps).map (Char.ofNat u :: ·)

/-- The text of a literal, for a reader that wants it. -/
def Literal.text (l : Literal) : Except TextFault String :=
  (Piece.decode l.fault l.pieces).map String.ofList

/-- The fault of a literal that is only passed over. -/
def Literal.skip (l : Literal) : Except TextFault Unit :=
  match l.fault with
  | none => .ok ()
  | some f => .error f

end EntitySchema.Json
