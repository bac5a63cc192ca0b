import EntitySchema.Json.Value
import EntitySchema.Sdl.Document

/-!
# Config — how a schema is generated

The indentation of fields, whether inconsistencies are an error, and fragments of text to splice in.
`Config.fault?` says what makes a configuration unfit: an indentation outside 1 to 8, and after that
a fragment that is blank.
-/

namespace EntitySchema

/-- Text spliced into the generated schema. -/
structure Extensions where
  /-- Whole declarations, placed before the root types. -/
  types : List String := []
  /-- Fields added to the queries. -/
  queries : List String := []
  /-- Fields added to the mutations. -/
  mutations : List String := []
  deriving DecidableEq, Repr

/-- Is there nothing to splice in? -/
def Extensions.isEmpty (x : Extensions) : Bool :=
  x.types.isEmpty && x.queries.isEmpty && x.mutations.isEmpty

/-- All fragments. -/
def Extensions.fragments (x : Extensions) : List String := x.types ++ x.queries ++ x.mutations

/-- Settings of the generator. -/
structure Config where
  /-- Spaces before each field. -/
  indent : Nat := Sdl.defaultIndent
  /-- Do inconsistencies count as errors? -/
  strict : Bool := false
  extensions : Extensions := {}
  deriving DecidableEq, Repr

/-- What makes a configuration unfit. -/
inductive ConfigFault
  | indentOutOfRange
  | blankFragment
  deriving DecidableEq, Repr

/-- The fault in words. -/
def ConfigFault.message : ConfigFault → String
  | indentOutOfRange => "indent must be between 1 and 8"
  | blankFragment => "extension fragments must not be blank"

/-- The first reason why a configuration is unfit, if there is one. -/
def Config.fault? (c : Config) : Option ConfigFault :=
  if c.indent < 1 ∨ 8 < c.indent then some .indentOutOfRange
  else if c.extensions.fragments.any Text.isBlankText then some .blankFragment
  else none

/-- The configuration, if it is fit. -/
def Config.validate (c : Config) : Except ConfigFault Config :=
  match c.fault? with
  | some f => .error f
  | none => .ok c

/-- The configuration as a value of the data format that registries are kept in. -/
def Config.toJson (c : Config) : Json.Value :=
  let texts (l : List String) : Json.Value := .array (l.map .string)
  .object [
    ("indent", .number c.indent),
    ("strict", .bool c.strict),
    ("extensions", .object [
      ("types", texts c.extensions.types),
      ("queries", texts c.extensions.queries),
      ("mutations", texts c.extensions.mutations)])]

end EntitySchema
