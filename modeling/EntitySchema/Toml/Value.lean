import EntitySchema.Decimal.Shortest
import EntitySchema.Mismatch

/-!
# Toml/Value — values of the TOML format

A date or time counts as a table when a reader expects something else; no reader here expects one, so
its parts are not kept.  A number can stand in a document that is none to whoever looks at it
(`Value.unreadable`); the document is read all the same, as long as nobody does.
-/

namespace EntitySchema.Toml

/-- A number that is no integer. -/
inductive Real
  | finite (negative : Bool) (magnitude : Binary64)
  | infinite (negative : Bool)
  | notANumber
  deriving DecidableEq, Repr

/-- A value; table entries stand in the order of the text. -/
inductive Value
  | string (s : String)
  | integer (n : Int)
  | real (r : Real)
  /-- A number too large, without digits, or with characters that are no digits. -/
  | unreadable
  | bool (b : Bool)
  | dateTime
  | array (items : List Value)
  | table (entries : List (String × Value))

/-- Messages write a number without an exponent, however long that gets, and round a tie up. -/
def realLayout : Decimal.Layout := ⟨fun _ => false, .up⟩

/-- A number as a message shows it. -/
def Real.text : Real → String
  | finite negative x => realLayout.text negative x
  | infinite negative => if negative then "-inf" else "inf"
  | notANumber => "NaN"

/-- What a reader finds that expects something else, if the value can be read. -/
def Value.found? : Value → Option Found
  | .string s => some (.string s)
  | .integer n => some (.integer n)
  | .real r => some (.float r.text)
  | .unreadable => none
  | .bool b => some (.bool b)
  | .dateTime => some .map
  | .array _ => some .sequence
  | .table _ => some .map

/-- Does the integer fit 64 bits with a sign? -/
def fitsSigned (n : Int) : Bool := -(powerOf 2 63 : Int) ≤ n && n < powerOf 2 63

mutual

/-- Can all numbers in the value be read, its integers passing a test? -/
def Value.isReadable (test : Int → Bool) : Value → Bool
  | .integer n => test n
  | .unreadable => false
  | .array items => itemsReadable test items
  | .table entries => entriesReadable test entries
  | _ => true

/-- Can all numbers in the items be read? -/
def itemsReadable (test : Int → Bool) : List Value → Bool
  | [] => true
  | v :: rest => v.isReadable test && itemsReadable test rest

/-- Can all numbers in the entries be read? -/
def entriesReadable (test : Int → Bool) : List (String × Value) → Bool
  | [] => true
  | (_, v) :: rest => v.isReadable test && entriesReadable test rest

end

end EntitySchema.Toml
