import EntitySchema.Json.Literal
import EntitySchema.Json.Numeral

/-!
# Json/Node — what reading a text comes to, faults included

Reading never fails: where the text breaks off or breaks a rule, the tree has a fault in that place
and nothing behind it.  Who walks a tree in reading order therefore meets the first fault of the text
where it stands, after every mismatch before it and before every mismatch behind it.

A value can be taken for what it says (`Literal.text`, `Numeral.value`), kept whole (`Node.keep`) or
passed over (`Node.skip`); each of them minds less than the one before.
-/

namespace EntitySchema.Json

/-- A value as read from a text. -/
inductive Node
  | null
  | bool (b : Bool)
  | number (n : Numeral)
  | string (l : Literal)
  /-- The items read, and the fault that stands in place of the closing bracket. -/
  | array (items : List Node) (fault : Option TextFault)
  /-- The members read, and the fault that stands in place of the closing brace. -/
  | object (members : List (Literal × Node)) (fault : Option TextFault)
  /-- An object that begins with something other than a string, and what that is. -/
  | keyless (first : Node)
  /-- A fault in place of a value. -/
  | fault (f : TextFault)

/-- Passes if there is no fault. -/
def pass : Option TextFault → Except TextFault Unit
  | none => .ok ()
  | some f => .error f

/-- A fault as it looks to whoever passes over the value that it stands for: a number that breaks off is
just no number, and behind a comma a value is wanted whatever comes. -/
def TextFault.skipped : TextFault → TextFault
  | .truncated .number => .malformed .invalidNumber
  | .malformed .trailingComma => .malformed .expectedValue
  | f => f

/-- A fault as it looks to whoever passes over the member in whose key it stands. -/
def TextFault.skippedKey : TextFault → TextFault
  | .truncated .value => .truncated .object
  | .malformed .trailingComma => .malformed .keyNotString
  | f => f

mutual

/-- The first fault met by passing over a value. -/
def Node.skip : Node → Except TextFault Unit
  | .null => .ok ()
  | .bool _ => .ok ()
  | .number _ => .ok ()
  | .string l => l.skip
  | .array items f => do
    skipItems items
    pass f
  | .object members f => do
    skipMembers members
    pass f
  | .keyless _ => .error (.malformed .keyNotString)
  | .fault f => .error f.skipped

/-- The first fault met by passing over items. -/
def skipItems : List Node → Except TextFault Unit
  | [] => .ok ()
  | n :: rest => do
    n.skip
    skipItems rest

/-- The first fault met by passing over members. -/
def skipMembers : List (Literal × Node) → Except TextFault Unit
  | [] => .ok ()
  | (k, n) :: rest => do
    k.skip.mapError TextFault.skippedKey
    n.skip
    skipMembers rest

end

mutual

/-- The first fault met by keeping a value whole: every literal has to spell a text, every numeral to
be in range, and at most `room` arrays and objects may stand inside one another. -/
def Node.keep (room : Nat) : Node → Except TextFault Unit
  | .null => .ok ()
  | .bool _ => .ok ()
  | .number n => n.value.map fun _ => ()
  | .string l => l.text.map fun _ => ()
  | .array items f =>
    match room with
    | 0 => .error (.malformed .tooDeep)
    | room + 1 => do
      keepItems room items
      pass f
  | .object members f =>
    match room with
    | 0 => .error (.malformed .tooDeep)
    | room + 1 => do
      keepMembers room members
      pass f
  | .keyless _ =>
    match room with
    | 0 => .error (.malformed .tooDeep)
    | _ + 1 => .error (.malformed .keyNotString)
  | .fault f => .error f

/-- The first fault met by keeping items. -/
def keepItems (room : Nat) : List Node → Except TextFault Unit
  | [] => .ok ()
  | n :: rest => do
    n.keep room
    keepItems room rest

/-- The first fault met by keeping members. -/
def keepMembers (room : Nat) : List (Literal × Node) → Except TextFault Unit
  | [] => .ok ()
  | (k, n) :: rest => do
    let _ ← k.text
    n.keep room
    keepMembers room rest

end

/-- What a reader finds that expects something else; a scalar has to be read for that. -/
def Node.found : Node → Except TextFault Found
  | .null => .ok .null
  | .bool b => .ok (.bool b)
  | .number n => n.value.map Number.found
  | .string l => l.text.map Found.string
  | .array _ _ => .ok .sequence
  | .object _ _ => .ok .map
  | .keyless _ => .ok .map
  | .fault f => .error f

end EntitySchema.Json
