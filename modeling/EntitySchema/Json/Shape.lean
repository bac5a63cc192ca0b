import EntitySchema.Json.Reader
import EntitySchema.OrderedMap

/-!
# Json/Shape — taking typed values out of a tree

A reader takes a tree for a value of a type, or says why it cannot.  Records are described by their
fields (`Shape`), and every shape is read from two spellings: an object, whose members come in any
order and may bring unknown keys, and an array of the fields in order of declaration.  Either way a
field left out keeps its default, unless it is required.
-/

namespace EntitySchema.Json

/-- The outcome of taking a tree for an `α`. -/
abbrev Taken (α : Type) := Except Fault α

/-- A fault of the text as an outcome. -/
def Taken.ofText {α : Type} : Except TextFault α → Taken α
  | .ok a => .ok a
  | .error f => .error (.text f)

/-- A broken rule as an outcome. -/
def Taken.malformed {α : Type} (m : Malformed) : Taken α := .error (.text (.malformed m))

/-- A mismatch as an outcome. -/
def Taken.mismatch {α : Type} (m : Mismatch) : Taken α := .error (.mismatch m)

namespace Node

/-- Refuses a value that is not what was expected. -/
def refuse {α : Type} (expected : String) (n : Node) : Taken α :=
  match n.found with
  | .ok f => .mismatch (.wrongType f expected)
  | .error f => .error (.text f)

/-- Takes a value for a text. -/
def asString : Node → Taken String
  | .string l => .ofText l.text
  | n => n.refuse "a string"

/-- Takes a value for a truth value. -/
def asBool : Node → Taken Bool
  | .bool b => .ok b
  | n => n.refuse "a boolean"

/-- Takes `null` for nothing, and any other value as `take` does. -/
def asOption {α : Type} (take : Node → Taken α) : Node → Taken (Option α)
  | .null => .ok none
  | n => (take n).map some

/-- Takes members into a map, from left to right. -/
def takeMembers {α : Type} (take : Node → Taken α) (m : OrderedMap α) :
    List (Literal × Node) → Taken (OrderedMap α)
  | [] => .ok m
  | (k, n) :: rest => do
    let key ← Taken.ofText k.text
    let value ← take n
    takeMembers take (m.insert key value) rest

/-- Takes an object for a map: a repeated key keeps its first place and its last value. -/
def asMap {α : Type} (take : Node → Taken α) : Node → Taken (OrderedMap α)
  | .object members f => do
    let m ← takeMembers take .empty members
    Taken.ofText (pass f)
    return m
  | .keyless _ => .malformed .keyNotString
  | n => n.refuse "a map"

end Node

/-! ## Records -/

/-- A field of a record of type `σ`. -/
structure FieldReader (σ : Type) where
  key : String
  /-- Does a record without the field count as incomplete? -/
  required : Bool
  /-- Takes a value for the field; the outcome writes it into the record. -/
  take : Node → Taken (σ → σ)

/-- A field with a default. -/
def optional {σ α : Type} (key : String) (take : Node → Taken α) (set : α → σ → σ) :
    FieldReader σ := ⟨key, false, fun n => (take n).map set⟩

/-- A field without a default. -/
def required {σ α : Type} (key : String) (take : Node → Taken α) (set : α → σ → σ) :
    FieldReader σ := ⟨key, true, fun n => (take n).map set⟩

/-- A record type as it is read. -/
structure Shape (σ : Type) where
  /-- The name that messages give it. -/
  name : String
  /-- The record with every field at its default. -/
  initial : σ
  /-- The fields, in order of declaration. -/
  fields : List (FieldReader σ)

namespace Shape

variable {σ : Type}

/-- Takes members into a record.  A key may come once, unknown keys go to `other`; `seen` are the
known keys that came before. -/
def takeMembers (fields : List (FieldReader σ)) (other : Node → Taken Unit) (seen : List String)
    (s : σ) : List (Literal × Node) → Taken (List String × σ)
  | [] => .ok (seen, s)
  | (k, n) :: rest => do
    let key ← Taken.ofText k.text
    match fields.find? (·.key == key) with
    | none =>
      other n
      takeMembers fields other seen s rest
    | some f =>
      if seen.contains key then .mismatch (.duplicateField key)
      else
        let set ← f.take n
        takeMembers fields other (key :: seen) (set s) rest

/-- Passes if every required field was seen, and else names the first that was not. -/
def checkRequired (fields : List (FieldReader σ)) (seen : List String) : Taken Unit :=
  match fields.find? fun f => f.required && !seen.contains f.key with
  | none => .ok ()
  | some f => .mismatch (.missingField f.key)

/-- Takes an object for a record. -/
def ofMembers (shape : Shape σ) (other : Node → Taken Unit) (members : List (Literal × Node))
    (fault : Option TextFault) : Taken σ := do
  let (seen, s) ← takeMembers shape.fields other [] shape.initial members
  Taken.ofText (pass fault)
  checkRequired shape.fields seen
  return s

/-- What an array of the wrong length is told to be. -/
def arrayForm (shape : Shape σ) : String :=
  "struct " ++ shape.name ++ " with " ++ toString shape.fields.length ++
    if shape.fields.length = 1 then " element" else " elements"

/-- Takes items for fields, in order; `index` items came before. -/
def takeItems (shape : Shape σ) (fault : Option TextFault) (index : Nat) (s : σ) :
    List (FieldReader σ) → List Node → Taken σ
  | [], [] =>
    match fault with
    | some (.malformed _) => .malformed .trailingCharacters
    | f => do
      Taken.ofText (pass f)
      return s
  | [], .fault (.malformed .trailingComma) :: _ => .malformed .trailingComma
  | [], _ :: _ => .malformed .trailingCharacters
  | f :: fields, [] => do
    Taken.ofText (pass fault)
    if f.required then .mismatch (.wrongLength index shape.arrayForm)
    else takeItems shape fault (index + 1) s fields []
  | f :: fields, n :: items => do
    let set ← f.take n
    takeItems shape fault (index + 1) (set s) fields items

/-- Takes a value for a record, from either spelling. -/
def take (shape : Shape σ) : Node → Taken σ
  | .object members f => shape.ofMembers (fun n => .ofText n.skip) members f
  | .keyless _ => .malformed .keyNotString
  | .array items f => shape.takeItems f 0 shape.initial shape.fields items
  | n => n.refuse ("struct " ++ shape.name)

end Shape

end EntitySchema.Json
