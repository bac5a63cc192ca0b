/-!
# Decimal/Binary64 — numbers of the double-precision format, in exact arithmetic

A non-negative finite number of the format is `mantissa · 2 ^ exponent` with a mantissa below `2 ^ 53`
and an exponent from -1074 to 971.  `Binary64.round` gives the number nearest to a quotient, a tie
going to the even mantissa, and nothing where the quotient is too large.  Products and quotients are
exact quotients, rounded once.
-/

namespace EntitySchema

/-- `base ^ e`, or one where `e` is negative.  With a scale `e` of either sign, `powerOf base e` belongs to
the numerator and `powerOf base (-e)` to the denominator. -/
def powerOf (base : Nat) (e : Int) : Nat := Nat.pow base e.toNat

/-- A non-negative finite number of the double-precision format. -/
structure Binary64 where
  mantissa : Nat
  exponent : Int
  deriving DecidableEq, Repr

namespace Binary64

/-- The least exponent. -/
def minExponent : Int := -1074

/-- The greatest exponent. -/
def maxExponent : Int := 971

/-- Zero. -/
def zero : Binary64 := ⟨0, minExponent⟩

/-- `n / d` rounded to a natural number, a tie going to the even one. -/
def roundHalfEven (n d : Nat) : Nat :=
  let m := n / d
  let twice := 2 * (n % d)
  if twice < d then m
  else if d < twice then m + 1
  else if m % 2 = 0 then m else m + 1

/-- Is `d · 2 ^ e` at most `n`? -/
def scaledLe (n d : Nat) (e : Int) : Bool :=
  d * powerOf 2 e ≤ n * powerOf 2 (-e)

/-- The greatest `e` with `2 ^ e ≤ n / d`, for positive `n` and `d`. -/
def floorLog2 (n d : Nat) : Int :=
  let e : Int := (n.log2 : Int) - d.log2
  if scaledLe n d e then e else e - 1

/-- The number nearest to `n / d`, or nothing if that is beyond the format. -/
def round (n d : Nat) : Option Binary64 :=
  if n = 0 then some zero
  else
    let q := max (floorLog2 n d - 52) minExponent
    let m := roundHalfEven (n * powerOf 2 (-q)) (d * powerOf 2 q)
    let x : Binary64 := if m = powerOf 2 53 then ⟨powerOf 2 52, q + 1⟩ else ⟨m, q⟩
    if x.exponent ≤ maxExponent then some x else none

/-- Numerator of the number as a quotient. -/
def num (x : Binary64) : Nat := x.mantissa * powerOf 2 x.exponent

/-- Denominator of the number as a quotient. -/
def den (x : Binary64) : Nat := powerOf 2 (-x.exponent)

/-- The number nearest to a natural number. -/
def ofNat? (n : Nat) : Option Binary64 := round n 1

/-- The rounded product. -/
def mul? (x y : Binary64) : Option Binary64 := round (x.num * y.num) (x.den * y.den)

/-- The rounded quotient; the divisor is not zero. -/
def div? (x y : Binary64) : Option Binary64 := round (x.num * y.den) (x.den * y.num)

/-- The number nearest to `10 ^ k`, for `k` up to 308. -/
def pow10 (k : Nat) : Binary64 := (ofNat? (powerOf 10 k)).getD zero

/-- Is it zero? -/
def isZero (x : Binary64) : Bool := x.mantissa == 0

end Binary64

end EntitySchema
