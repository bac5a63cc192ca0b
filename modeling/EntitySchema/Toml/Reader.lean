import EntitySchema.Toml.Scalar
import EntitySchema.Toml.Table

/-!
# Toml/Reader — from text to a table

A document is a list of lines: headers, assignments, blank lines.  The reader is given a number of
steps, of which each character takes at most two, and arrays and inline tables may stand inside one
another up to eighty deep.  An assignment keeps its key, its equals sign and the start of its value on
one line, unless it stands inside an inline table.
-/

namespace EntitySchema.Toml

/-- The last part of a key and the parts before it. -/
def splitLast : List String → Option (List String × String)
  | [] => none
  | [k] => some ([], k)
  | k :: rest => (splitLast rest).map fun p => (k :: p.1, p.2)

/-- Takes a key with the equals sign behind it; `space` passes over what may stand around the sign. -/
def keyEquals? (space : List Char → Option (List Char)) (cs : List Char) :
    Option ((List String × String) × List Char) := do
  let (parts, cs) ← key? cs
  let key ← splitLast parts
  match ← space cs with
  | '=' :: cs => return (key, ← space cs)
  | _ => none

mutual

/-- Takes a value; `room` arrays and tables may stand inside one another. -/
def value? (steps room : Nat) (cs : List Char) : Option (Value × List Char) :=
  match steps with
  | 0 => none
  | steps + 1 =>
    match cs with
    | [] => none
    | c :: rest =>
      if c = '"' ∨ c = '\'' then (string? cs).map fun p => (.string p.1, p.2)
      else if c = '[' then
        match room with
        | 0 => none
        | room + 1 => (items? steps room rest).map fun p => (.array p.1, p.2)
      else if c = '\x7b' then
        match room with
        | 0 => none
        | room + 1 => (pairs? steps room [] rest).map fun p =>
            (.table (entriesToValues p.1), p.2)
      else word? cs

/-- Takes the items of an array and its closing bracket. -/
def items? (steps room : Nat) (cs : List Char) : Option (List Value × List Char) :=
  match steps with
  | 0 => none
  | steps + 1 => do
    let cs ← skipTrivia false cs
    match cs with
    | ']' :: cs => return ([], cs)
    | cs =>
      let (v, cs) ← value? steps room cs
      match ← skipTrivia false cs with
      | ',' :: cs =>
        let (vs, cs) ← items? steps room cs
        return (v :: vs, cs)
      | ']' :: cs => return ([v], cs)
      | _ => none

/-- Takes the pairs of an inline table and its closing brace; `entries` are those before. -/
def pairs? (steps room : Nat) (entries : Entries) (cs : List Char) :
    Option (Entries × List Char) :=
  match steps with
  | 0 => none
  | steps + 1 => do
    let cs ← skipTrivia false cs
    match cs with
    | '\x7d' :: cs => return (entries, cs)
    | cs =>
      let ((path, key), cs) ← keyEquals? (skipTrivia false) cs
      let (v, cs) ← value? steps room cs
      let entries ← entries.assign path key v
      match ← skipTrivia false cs with
      | ',' :: cs => pairs? steps room entries cs
      | '\x7d' :: cs => return (entries, cs)
      | _ => none

end

/-- How deep arrays and inline tables may stand inside one another. -/
def maxDepth : Nat := 80

/-- Takes the key of a header and the line's end, from behind the opening brackets; `close` is what
must stand behind the key. -/
def header? (close : List Char) (cs : List Char) : Option ((List String × String) × List Char) := do
  let (parts, cs) ← key? (skipLineSpace cs)
  let key ← splitLast parts
  let cs := skipLineSpace cs
  if close.isPrefixOf cs then return (key, ← lineEnd? (cs.drop close.length)) else none

/-- Reads lines; `header` is the path of the table that assignments go to. -/
def lines? (steps : Nat) (header : List String) (entries : Entries) (cs : List Char) :
    Option Entries :=
  match steps with
  | 0 => none
  | steps + 1 => do
    match ← skipTrivia false cs with
    | [] => return entries
    | '[' :: '[' :: cs =>
      let ((path, key), cs) ← header? [']', ']'] cs
      lines? steps (path ++ [key]) (← entries.openElement path key) cs
    | '[' :: cs =>
      let ((path, key), cs) ← header? [']'] cs
      lines? steps (path ++ [key]) (← entries.openTable path key) cs
    | cs =>
      let ((path, key), cs) ← keyEquals? (fun cs => some (skipLineSpace cs)) cs
      let (v, cs) ← value? (2 * cs.length + 1) maxDepth cs
      let cs ← lineEnd? cs
      lines? steps header (← entries.assignUnder header path key v) cs

/-- The text without the mark that may stand at its front. -/
def dropByteOrderMark : List Char → List Char
  | c :: cs => if c.toNat = 0xFEFF then cs else c :: cs
  | [] => []

/-- Reads a document: its entries, or nothing if the text is none. -/
def read? (text : String) : Option (List (String × Value)) :=
  let cs := dropByteOrderMark text.toList
  (lines? (cs.length + 1) [] [] cs).map entriesToValues

end EntitySchema.Toml
