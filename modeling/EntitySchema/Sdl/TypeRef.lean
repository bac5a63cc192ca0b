/-!
# Sdl/TypeRef — references to types

A reference is a name under any nesting of list brackets and non-null marks.  `required` never puts
one mark under another, whereas the constructor `nonNull` does what it says; so a reference built by
the named constructors and by `required` and `list` alone carries no double mark.
-/

namespace EntitySchema.Sdl

/-- A type name under list and non-null wrappers. -/
inductive TypeRef
  /-- A bare name. -/
  | named (name : String)
  /-- The non-null form, written with `!` behind it. -/
  | nonNull (inner : TypeRef)
  /-- A list, written in brackets. -/
  | listOf (inner : TypeRef)
  deriving DecidableEq, Repr

namespace TypeRef

/-- Is the outermost wrapper the non-null mark? -/
def isNonNull : TypeRef → Bool
  | nonNull _ => true
  | _ => false

/-- The non-null form of a reference; a reference that has the mark keeps just the one. -/
def required : TypeRef → TypeRef
  | nonNull t => nonNull t
  | t => nonNull t

/-- The list of a reference. -/
def list (t : TypeRef) : TypeRef := listOf t

/-- `T!` -/
def namedRequired (name : String) : TypeRef := (named name).required

/-- `[T]` -/
def namedList (name : String) : TypeRef := (named name).list

/-- `[T]!` -/
def namedListRequired (name : String) : TypeRef := (namedList name).required

/-- `[T!]` -/
def requiredList (name : String) : TypeRef := (namedRequired name).list

/-- `[T!]!` -/
def requiredListRequired (name : String) : TypeRef := (requiredList name).required

/-- The name under all wrappers. -/
def baseName : TypeRef → String
  | named name => name
  | nonNull t => t.baseName
  | listOf t => t.baseName

/-- The written form. -/
def text : TypeRef → String
  | named name => name
  | nonNull t => t.text ++ "!"
  | listOf t => "[" ++ t.text ++ "]"

@[simp] theorem isNonNull_required : ∀ t : TypeRef, t.required.isNonNull = true
  | named _ => rfl
  | nonNull _ => rfl
  | listOf _ => rfl

/-- **Asking twice for the non-null form changes nothing.** -/
theorem required_required : ∀ t : TypeRef, t.required.required = t.required
  | named _ => rfl
  | nonNull _ => rfl
  | listOf _ => rfl

@[simp] theorem baseName_required : ∀ t : TypeRef, t.required.baseName = t.baseName
  | named _ => rfl
  | nonNull _ => rfl
  | listOf _ => rfl

end TypeRef

end EntitySchema.Sdl
