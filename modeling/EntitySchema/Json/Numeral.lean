import EntitySchema.Decimal.Shortest
import EntitySchema.Json.Fault

/-!
# Json/Numeral — number literals and their values

A numeral is read into its digits.  Its value is an integer where it has neither fraction nor
exponent and fits 64 bits, with or without sign; otherwise it is a number of the double format.  The
latter is found from a significand below `2 ^ 64` and a power of ten by one product or quotient, so
it need not be the nearest number to the numeral.
-/

namespace EntitySchema.Json

/-- A number literal; digits are numbers below ten. -/
structure Numeral where
  negative : Bool
  whole : List Nat
  /-- The digits behind the point. -/
  fraction : Option (List Nat)
  /-- Is the exponent negative, and its digits. -/
  exponent : Option (Bool × List Nat)
  deriving DecidableEq, Repr

/-- The value of a number literal. -/
inductive Number
  | integer (n : Int)
  | float (negative : Bool) (magnitude : Binary64)
  deriving DecidableEq, Repr

/-! ## Reading -/

/-- The digits at the front of a text, and the text behind them. -/
def spanDigits (cs : List Char) : List Nat × List Char :=
  ((cs.takeWhile Char.isDigit).map fun c => c.toNat - '0'.toNat, cs.dropWhile Char.isDigit)

/-- The fault where a digit must stand and none does. -/
def digitFault : List Char → TextFault
  | [] => .truncated .number
  | _ :: _ => .malformed .invalidNumber

/-- One or more digits. -/
def readDigits (cs : List Char) : Except TextFault (List Nat × List Char) :=
  match spanDigits cs with
  | ([], rest) => .error (digitFault rest)
  | r => .ok r

/-- The digits before the point: a zero stands alone. -/
def readWhole (cs : List Char) : Except TextFault (List Nat × List Char) :=
  match spanDigits cs with
  | ([], rest) => .error (digitFault rest)
  | (0 :: _ :: _, _) => .error (.malformed .invalidNumber)
  | r => .ok r

/-- The fraction, if a point stands here. -/
def readFraction : List Char → Except TextFault (Option (List Nat) × List Char)
  | '.' :: cs => (readDigits cs).map fun r => (some r.1, r.2)
  | cs => .ok (none, cs)

/-- The sign of an exponent. -/
def readExponentSign : List Char → Bool × List Char
  | '+' :: cs => (false, cs)
  | '-' :: cs => (true, cs)
  | cs => (false, cs)

/-- The exponent, if its mark stands here. -/
def readExponent : List Char → Except TextFault (Option (Bool × List Nat) × List Char)
  | [] => .ok (none, [])
  | c :: cs =>
    if c = 'e' ∨ c = 'E' then
      let (negative, cs) := readExponentSign cs
      (readDigits cs).map fun r => (some (negative, r.1), r.2)
    else .ok (none, c :: cs)

/-- Reads a numeral and the text behind it. -/
def Numeral.read (cs : List Char) : Except TextFault (Numeral × List Char) := do
  let (negative, cs) := match cs with
    | '-' :: rest => (true, rest)
    | cs => (false, cs)
  let (whole, cs) ← readWhole cs
  let (fraction, cs) ← readFraction cs
  let (exponent, cs) ← readExponent cs
  return (⟨negative, whole, fraction, exponent⟩, cs)

/-! ## Value -/

/-- The number that digits spell. -/
def digitsValue (ds : List Nat) : Nat := ds.foldl (fun n d => n * 10 + d) 0

/-- The bound below which a significand is kept. -/
def significandBound : Nat := powerOf 2 64

/-- Takes whole digits into the significand while it stays below the bound; each digit left over is
a power of ten. -/
def takeWhole (n : Nat) : List Nat → Nat × Nat
  | [] => (n, 0)
  | d :: ds =>
    if n * 10 + d < significandBound then takeWhole (n * 10 + d) ds else (n, ds.length + 1)

/-- Takes fraction digits into the significand up to the first that does not fit; each digit taken is
a power of ten less. -/
def takeFraction (n : Nat) : List Nat → Nat × Nat
  | [] => (n, 0)
  | d :: ds =>
    if n * 10 + d < significandBound then
      let r := takeFraction (n * 10 + d) ds
      (r.1, r.2 + 1)
    else (n, 0)

/-- Divides by powers of ten, at most `10 ^ 308` at a time. -/
def scaleDown (x : Binary64) (k : Nat) : Binary64 :=
  if k ≤ 308 then (x.div? (.pow10 k)).getD .zero
  else if x.isZero then .zero
  else scaleDown ((x.div? (.pow10 308)).getD .zero) (k - 308)
termination_by k

/-- `significand · 10 ^ exponent` in the double format, by one product or by quotients. -/
def scale (significand : Nat) (exponent : Int) : Except TextFault Binary64 :=
  let x := (Binary64.ofNat? significand).getD .zero
  if exponent < 0 then .ok (scaleDown x exponent.natAbs)
  else if x.isZero then .ok .zero
  else if 308 < exponent then .error (.malformed .numberOutOfRange)
  else
    match x.mul? (.pow10 exponent.toNat) with
    | some y => .ok y
    | none => .error (.malformed .numberOutOfRange)

/-- The power of ten that the exponent part stands for. -/
def exponentValue : Option (Bool × List Nat) → Int
  | none => 0
  | some (true, ds) => -(digitsValue ds : Int)
  | some (false, ds) => digitsValue ds

/-- The value of a numeral as a number of the double format. -/
def Numeral.float (n : Numeral) : Except TextFault Number :=
  let (w, extra) := takeWhole 0 n.whole
  let (m, taken) := takeFraction w (n.fraction.getD [])
  (scale m (extra - taken + exponentValue n.exponent)).map (Number.float n.negative)

/-- The value of a numeral. -/
def Numeral.value (n : Numeral) : Except TextFault Number :=
  let w := digitsValue n.whole
  match n.fraction, n.exponent with
  | none, none =>
    if n.negative then
      if 0 < w ∧ w ≤ powerOf 2 63 then .ok (.integer (-(w : Int))) else n.float
    else if w < significandBound then .ok (.integer w) else n.float
  | _, _ => n.float

/-- Messages write a number with an exponent below `10 ^ -5` and from `10 ^ 16`. -/
def numberLayout : Decimal.Layout := ⟨fun e => e < -5 || 15 < e, .toEven⟩

/-- A number as a message shows it. -/
def Number.found : Number → Found
  | .integer n => .integer n
  | .float negative x => .float (numberLayout.text negative x)

end EntitySchema.Json
