import EntitySchema.Sdl.TypeRef
import EntitySchema.Text.Blank

/-!
# Sdl/Document — declarations of a schema and their written form

A document is a list of definitions: object and input types made of fields, and fragments of text
that are passed on as they are.  Each definition is written as a block that ends in a line break, and
one empty line stands between two blocks.  A type without fields is written without braces.
-/

namespace EntitySchema.Sdl

/-- An argument of a field, or a field of an input type. -/
structure Argument where
  name : String
  type : TypeRef
  deriving DecidableEq, Repr

/-- A field with its arguments. -/
structure Field where
  name : String
  arguments : List Argument
  type : TypeRef
  deriving DecidableEq, Repr

/-- The two kinds of generated types. -/
inductive Kind
  | object
  | input
  deriving DecidableEq, Repr

/-- A type declaration. -/
structure TypeDefinition where
  kind : Kind
  name : String
  /-- Fields made by the generator. -/
  fields : List Field
  /-- Fields given as text, written behind the others. -/
  fragments : List String
  deriving DecidableEq, Repr

/-- A top-level declaration. -/
inductive Definition
  | type (definition : TypeDefinition)
  /-- A declaration given as text. -/
  | fragment (text : String)
  deriving DecidableEq, Repr

/-- The definitions of a schema, in order. -/
abbrev Document := List Definition

/-! ## Building and finding -/

/-- The argument read as a field without arguments. -/
def Argument.toField (a : Argument) : Field := ⟨a.name, [], a.type⟩

/-- An object type with the given fields. -/
def TypeDefinition.object (name : String) (fields : List Field) : TypeDefinition :=
  ⟨.object, name, fields, []⟩

/-- An input type with the given fields. -/
def TypeDefinition.input (name : String) (fields : List Argument) : TypeDefinition :=
  ⟨.input, name, fields.map Argument.toField, []⟩

/-- Has the type no body? -/
def TypeDefinition.isEmpty (t : TypeDefinition) : Bool := t.fields.isEmpty && t.fragments.isEmpty

/-- The first generated field of that name. -/
def TypeDefinition.field? (t : TypeDefinition) (name : String) : Option Field :=
  t.fields.find? (·.name == name)

/-- The type that a definition declares, if it is not a fragment. -/
def Definition.type? : Definition → Option TypeDefinition
  | .type t => some t
  | .fragment _ => none

/-- The first type declared under that name. -/
def Document.type? (d : Document) (name : String) : Option TypeDefinition :=
  (d.filterMap Definition.type?).find? (·.name == name)

/-! ## Writing -/

/-- `name: Type` -/
def Argument.text (a : Argument) : String := a.name ++ ": " ++ a.type.text

/-- The arguments in parentheses, or nothing where there are none. -/
def argumentsText : List Argument → String
  | [] => ""
  | args => "(" ++ ", ".intercalate (args.map Argument.text) ++ ")"

/-- `name(argument: Type, …): Type` -/
def Field.text (f : Field) : String := f.name ++ argumentsText f.arguments ++ ": " ++ f.type.text

/-- The keyword that introduces a declaration. -/
def Kind.keyword : Kind → String
  | object => "type"
  | input => "input"

/-- `indent` spaces. -/
def indentation (indent : Nat) : String := String.ofList (List.replicate indent ' ')

/-- The lines of a type's body: its fields, then its fragments without white space at their end. -/
def TypeDefinition.lines (t : TypeDefinition) : List String :=
  t.fields.map Field.text ++ t.fragments.map Text.trimEnd

/-- The block of a type, with `indent` spaces before each field. -/
def TypeDefinition.text (indent : Nat) (t : TypeDefinition) : String :=
  t.kind.keyword ++ " " ++ t.name ++
    if t.isEmpty then "\n"
    else " \x7b\n" ++ String.join (t.lines.map fun l => indentation indent ++ l ++ "\n") ++ "\x7d\n"

/-- A fragment as a block: as it is, with a line break behind it if it has none. -/
def fragmentText (text : String) : String :=
  if text.toList.getLast? = some '\n' then text else text ++ "\n"

/-- The block of a definition. -/
def Definition.text (indent : Nat) : Definition → String
  | type t => t.text indent
  | fragment s => fragmentText s

/-- The text of a document: the blocks, with an empty line between neighbours. -/
def Document.text (indent : Nat) (d : Document) : String :=
  "\n".intercalate (d.map (Definition.text indent))

/-- The indentation used where none is asked for. -/
def defaultIndent : Nat := 2

end EntitySchema.Sdl
