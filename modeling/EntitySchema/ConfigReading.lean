import EntitySchema.Config
import EntitySchema.Toml.Reader

/-!
# ConfigReading — configurations from text

The entries of a configuration are looked at in alphabetical order, whatever their order in the text,
and unknown ones are passed over; so the first entry of the wrong shape in that order is the one
reported.  The extensions can also be given as an array of their three lists.
-/

namespace EntitySchema

open Toml

/-- Why a configuration text is not read. -/
inductive ConfigError
  /-- The text is no document of the format. -/
  | malformed
  /-- A value has the wrong shape. -/
  | mismatch (m : Mismatch)
  /-- The configuration is unfit. -/
  | invalid (f : ConfigFault)
  deriving DecidableEq, Repr

namespace Config

/-- Refuses a value that is not what was expected. -/
def refuse {α : Type} (expected : String) (v : Value) : Except ConfigError α :=
  match v.found? with
  | some f => .error (.mismatch (.wrongType f expected))
  | none => .error .malformed

/-- Takes a value for a text. -/
def takeString : Value → Except ConfigError String
  | .string s => .ok s
  | v => refuse "a string" v

/-- Takes a value for a list of texts. -/
def takeStrings : Value → Except ConfigError (List String)
  | .array items => items.mapM takeString
  | v => refuse "a sequence" v

/-- Takes a value for a truth value. -/
def takeBool : Value → Except ConfigError Bool
  | .bool b => .ok b
  | v => refuse "a boolean" v

/-- Takes a value for a count; an integer beyond 64 bits is no integer of the format. -/
def takeCount : Value → Except ConfigError Nat
  | .integer n =>
    if n < -(powerOf 2 63 : Int) ∨ (powerOf 2 64 : Int) ≤ n then .error .malformed
    else if n < 0 then .error (.mismatch (.wrongValue (.integer n) "usize"))
    else .ok n.toNat
  | v => refuse "usize" v

/-- Takes what stands under a key, if anything does; `base` is the default. -/
def takeEntry {α : Type} (entries : List (String × Value)) (key : String)
    (take : Value → Except ConfigError α) (base : α) : Except ConfigError α :=
  match entries.lookup key with
  | none => .ok base
  | some v => take v

/-- Takes what stands in a place of an array, if the array is that long. -/
def takeItem {α : Type} (items : List Value) (index : Nat)
    (take : Value → Except ConfigError α) (base : α) : Except ConfigError α :=
  match items[index]? with
  | none => .ok base
  | some v => take v

/-- Passes over the entries under other keys, whose numbers are read all the same. -/
def passOver (known : List String) (entries : List (String × Value)) : Except ConfigError Unit :=
  if entriesReadable (fun _ => true) (entries.filter fun e => !known.contains e.1) then .ok ()
  else .error .malformed

/-- Takes a value for extensions.  Items of an array behind its third are not looked at. -/
def takeExtensions : Value → Except ConfigError Extensions
  | .table entries => do
    passOver ["mutations", "queries", "types"] entries
    let mutations ← takeEntry entries "mutations" takeStrings []
    let queries ← takeEntry entries "queries" takeStrings []
    let types ← takeEntry entries "types" takeStrings []
    return { types, queries, mutations }
  | .array items => do
    let types ← takeItem items 0 takeStrings []
    let queries ← takeItem items 1 takeStrings []
    let mutations ← takeItem items 2 takeStrings []
    return { types, queries, mutations }
  | .dateTime => .ok {}
  | v => refuse "struct SchemaExtensions" v

/-- Takes the entries of a document for a configuration. -/
def ofEntries (entries : List (String × Value)) : Except ConfigError Config := do
  let base : Config := {}
  passOver ["extensions", "indent", "strict"] entries
  let extensions ← takeEntry entries "extensions" takeExtensions base.extensions
  let indent ← takeEntry entries "indent" takeCount base.indent
  let strict ← takeEntry entries "strict" takeBool base.strict
  return { indent, strict, extensions }

/-- Reads a configuration and checks that it is fit.  A mismatch is only reported of a document whose
numbers can all be read, the integers fitting 64 bits with a sign. -/
def read (text : String) : Except ConfigError Config :=
  match read? text with
  | none => .error .malformed
  | some entries =>
    match ofEntries entries with
    | .error e => .error (if entriesReadable fitsSigned entries then e else .malformed)
    | .ok c => c.validate.mapError ConfigError.invalid

end Config

end EntitySchema
