/-!
# Scalar — built-in scalar types and the storage types that map to them

A column has a storage type (`INTEGER`, `TEXT`, …).  `Scalar.storageTable` says which built-in scalar
each known storage type is shown as; a storage type that the table does not know is taken to be the
name of a schema type already, and passes through unchanged.
-/

namespace EntitySchema

/-- The built-in scalar types of the schema language. -/
inductive Scalar
  | id
  | string
  | int
  | float
  | boolean
  deriving DecidableEq, Repr

namespace Scalar

/-- The scalar's name in the schema language. -/
def name : Scalar → String
  | id => "ID"
  | string => "String"
  | int => "Int"
  | float => "Float"
  | boolean => "Boolean"

/-- Storage types with the scalar they are shown as. -/
def storageTable : List (String × Scalar) := [
  ("ID", id),
  ("TEXT", string), ("STRING", string), ("CHAR", string),
  ("UUID", string), ("UUIDV1", string), ("UUIDV4", string),
  ("DATE", string), ("TIME", string), ("VIRTUAL", string),
  ("INTEGER", int), ("TINYINT", int), ("SMALLINT", int), ("MEDIUMINT", int), ("BIGINT", int),
  ("FLOAT", float), ("DOUBLE", float), ("REAL", float), ("DECIMALS", float), ("DECIMAL", float),
  ("BOOLEAN", boolean)]

/-- The scalar that a storage type is shown as, if the table knows it. -/
def ofStorage? (storageType : String) : Option Scalar := storageTable.lookup storageType

end Scalar

/-- The storage type of a computed column, which has no stored value to search for. -/
def virtualStorage : String := "VIRTUAL"

/-- Is this the storage type of a computed column? -/
def isVirtual (storageType : String) : Bool := storageType == virtualStorage

/-- The schema type of a storage type: its scalar, or the storage type itself. -/
def schemaTypeOf (storageType : String) : String :=
  match Scalar.ofStorage? storageType with
  | some s => s.name
  | none => storageType

end EntitySchema
