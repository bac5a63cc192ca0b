import EntitySchema.Decimal.Binary64

/-!
# Decimal/Shortest — the fewest decimal digits that tell a number from its neighbours

Every number of the double format stands for an interval: the reals that round to it, ends included
if the mantissa is even.  For one digit, two digits, … seventeen, the two points next to the number
on the grid of decimals with that many digits are tried; the first grid with a point in the interval
wins, and of two such points the nearer; which way a tie goes is left to the caller (`Tie`).
-/

namespace EntitySchema

/-- A positive decimal: `digits · 10 ^ exponent`. -/
structure Decimal where
  digits : Nat
  exponent : Int
  deriving DecidableEq, Repr

namespace Decimal

/-- The number of decimal digits of `n`. -/
def digitCount (n : Nat) : Nat := (Nat.toDigits 10 n).length

/-- The scaled form of `a · 10 ^ k`, to be compared with `binarySide`. -/
def decimalSide (k p : Int) (a : Nat) : Nat := a * powerOf 10 k * powerOf 2 (-p)

/-- The scaled form of `x · 2 ^ p`, to be compared with `decimalSide`. -/
def binarySide (k p : Int) (x : Nat) : Nat := x * powerOf 2 p * powerOf 10 (-k)

/-- The greatest `e` with `10 ^ e ≤ x`, for a positive number. -/
def floorLog10 (x : Binary64) : Int :=
  let e : Int := (digitCount x.num : Int) - digitCount x.den
  if decimalSide e x.exponent 1 ≤ binarySide e x.exponent x.mantissa then e else e - 1

/-- Which of two decimals as near to the number as each other is taken. -/
inductive Tie
  /-- The one with an even last digit. -/
  | toEven
  /-- The greater. -/
  | up
  deriving DecidableEq, Repr

/-- The best decimal with `n` digits in the interval of `x`, if there is one. -/
def onGrid (tie : Tie) (x : Binary64) (n : Nat) : Option Decimal :=
  let k := floorLog10 x - n + 1
  let p := x.exponent - 2
  let value := binarySide k p (4 * x.mantissa)
  let high := binarySide k p (4 * x.mantissa + 2)
  let low := binarySide k p
    (if x.mantissa = powerOf 2 52 ∧ Binary64.minExponent < x.exponent then 4 * x.mantissa - 1
      else 4 * x.mantissa - 2)
  let unit := decimalSide k p 1
  let inside (a : Nat) : Bool :=
    if x.mantissa % 2 = 0 then low ≤ a * unit && a * unit ≤ high
    else low < a * unit && a * unit < high
  let below := value / unit
  let toBelow := value - below * unit
  let toAbove := (below + 1) * unit - value
  let nearer :=
    if toBelow < toAbove then below
    else if toAbove < toBelow then below + 1
    else if tie = .toEven ∧ below % 2 = 0 then below
    else below + 1
  match inside below, inside (below + 1) with
  | true, true => some ⟨nearer, k⟩
  | true, false => some ⟨below, k⟩
  | false, true => some ⟨below + 1, k⟩
  | false, false => none

/-- The shortest decimal that rounds to `x`, a positive number. -/
def shortest (tie : Tie) (x : Binary64) : Decimal :=
  ((List.range 17).findSome? fun i => onGrid tie x (i + 1)).getD ⟨0, 0⟩

/-- How a number is laid out. -/
structure Layout where
  /-- The decimal exponents of the first digit for which the number is written with an exponent. -/
  withExponent : Int → Bool
  tie : Tie

/-- The digits of a decimal without the zeros at its end. -/
def significantDigits (d : Decimal) : List Char :=
  ((Nat.toDigits 10 d.digits).reverse.dropWhile (· == '0')).reverse

/-- The written form of a number; there is always a point or an exponent. -/
def Layout.text (l : Layout) (negative : Bool) (x : Binary64) : String :=
  let body : List Char :=
    if x.isZero then ['0', '.', '0']
    else
      let d := shortest l.tie x
      let digits := significantDigits d
      let e : Int := d.exponent + digitCount d.digits - 1
      if l.withExponent e then
        let mark := if e < 0 then ['e', '-'] else ['e', '+']
        let tail := if digits.length ≤ 1 then [] else '.' :: digits.drop 1
        digits.take 1 ++ tail ++ mark ++ Nat.toDigits 10 e.natAbs
      else if e < 0 then
        ['0', '.'] ++ List.replicate (e.natAbs - 1) '0' ++ digits
      else
        let whole := e.toNat + 1
        let tail := if digits.length ≤ whole then ['0'] else digits.drop whole
        digits.take whole ++ List.replicate (whole - digits.length) '0' ++ '.' :: tail
  String.ofList (if negative then '-' :: body else body)

end Decimal

end EntitySchema
