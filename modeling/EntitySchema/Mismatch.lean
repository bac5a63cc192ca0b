import EntitySchema.Text.Quoted

/-!
# Mismatch — values that are well formed but of the wrong shape

A reader that expects one shape and finds another says what it found and what it expected.  The
wording is the same for every data format.
-/

namespace EntitySchema

/-- What a reader found in place of what it expected. -/
inductive Found
  | null
  | bool (b : Bool)
  | integer (n : Int)
  /-- A number that is no integer, as it is written. -/
  | float (text : String)
  | string (s : String)
  | sequence
  | map
  deriving DecidableEq, Repr

/-- A value of the wrong shape. -/
inductive Mismatch
  | wrongType (found : Found) (expected : String)
  /-- The right type, but outside the range expected. -/
  | wrongValue (found : Found) (expected : String)
  | wrongLength (length : Nat) (expected : String)
  | duplicateField (name : String)
  | missingField (name : String)
  | unknownVariant (name expected : String)
  deriving DecidableEq, Repr

/-- What was found, in words. -/
def Found.text : Found → String
  | null => "null"
  | bool b => "boolean `" ++ (if b then "true" else "false") ++ "`"
  | integer n => "integer `" ++ toString n ++ "`"
  | float t => "floating point `" ++ t ++ "`"
  | string s => "string " ++ Text.quoted s
  | sequence => "sequence"
  | map => "map"

/-- The mismatch in words. -/
def Mismatch.message : Mismatch → String
  | wrongType f e => "invalid type: " ++ f.text ++ ", expected " ++ e
  | wrongValue f e => "invalid value: " ++ f.text ++ ", expected " ++ e
  | wrongLength n e => "invalid length " ++ toString n ++ ", expected " ++ e
  | duplicateField n => "duplicate field `" ++ n ++ "`"
  | missingField n => "missing field `" ++ n ++ "`"
  | unknownVariant n e => "unknown variant `" ++ n ++ "`, expected " ++ e

end EntitySchema
