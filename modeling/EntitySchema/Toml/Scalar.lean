import EntitySchema.Toml.Token

/-!
# Toml/Scalar — numbers, dates and truth values

A value without quotation marks or brackets is one word of letters, digits and `+ - . : _`; a date may
have its time behind a space.  The word alone says what the value is.
-/

namespace EntitySchema.Toml

/-- A digit of a base up to 16. -/
def digit? (base : Nat) (c : Char) : Option Nat := (Text.hexValue? c).filter (· < base)

/-- The digits that characters stand for; an underscore may stand between two of them. -/
def digits? (base : Nat) : List Char → Option (List Nat)
  | [] => none
  | c :: cs => do
    let d ← digit? base c
    match cs with
    | [] => return [d]
    | '_' :: rest => return d :: (← digits? base rest)
    | rest => return d :: (← digits? base rest)

/-- The value of digits. -/
def digitsValue (base : Nat) (ds : List Nat) : Nat := ds.foldl (fun n d => n * base + d) 0

/-- Digits of which the first is zero only if it is the only one. -/
def wholeDigits? (cs : List Char) : Option (List Nat) := do
  let ds ← digits? 10 cs
  match ds with
  | 0 :: _ :: _ => none
  | _ => return ds

/-- Is the number negative, and what stands behind its sign. -/
def sign : List Char → Bool × List Char
  | '+' :: cs => (false, cs)
  | '-' :: cs => (true, cs)
  | cs => (false, cs)

/-- Does an integer fit 128 bits, with or without sign? -/
def fitsWide (n : Int) : Bool := -(powerOf 2 127 : Int) ≤ n && n < powerOf 2 128

/-- Is the character a digit of base 16? -/
def isHexDigit (c : Char) : Bool := (Text.hexValue? c).isSome

/-- The characters without the underscores among them, each of which must stand between two digits of
base 16. -/
def withoutUnderscores? : List Char → Option (List Char)
  | [] => some []
  | '_' :: _ => none
  | [c] => some [c]
  | c :: '_' :: d :: cs =>
    if isHexDigit c && isHexDigit d then (withoutUnderscores? (d :: cs)).map (c :: ·) else none
  | c :: cs => (withoutUnderscores? cs).map (c :: ·)

/-- The integer that characters spell in a base. -/
def integerValue (negative : Bool) (base : Nat) (cs : List Char) : Value :=
  match cs.mapM (digit? base) with
  | some (d :: ds) =>
    let n : Int := digitsValue base (d :: ds)
    let n := if negative then -n else n
    if fitsWide n then .integer n else .unreadable
  | _ => .unreadable

/-- An integer in base 16, 8 or 2, from behind its mark. -/
def markedInteger? (base : Nat) (cs : List Char) : Option Value :=
  if cs.all fun c => c = '_' || (digit? base c).isSome then
    (withoutUnderscores? cs).map (integerValue false base)
  else none

/-- An integer in base ten: digits, of which the first is zero only if it is the only one.  What stands
behind an underscore is not looked at here, and need not be digits of base ten. -/
def plainInteger? (negative : Bool) (cs : List Char) : Option Value :=
  match cs, cs.dropWhile Char.isDigit with
  | ['0'], _ => some (.integer 0)
  | '0' :: _, _ => none
  | cs, [] => (withoutUnderscores? cs).map (integerValue negative 10)
  | cs, '_' :: more =>
    if more.any fun c => c = '.' || c = 'e' || c = 'E' then none
    else (withoutUnderscores? cs).map (integerValue negative 10)
  | _, _ => none

/-- An integer, in base ten with a sign or in base 16, 8 or 2 without. -/
def integer? : List Char → Option Value
  | '0' :: 'x' :: cs => markedInteger? 16 cs
  | '0' :: 'o' :: cs => markedInteger? 8 cs
  | '0' :: 'b' :: cs => markedInteger? 2 cs
  | cs =>
    let (negative, cs) := sign cs
    if cs.isEmpty then none else plainInteger? negative cs

/-- The number nearest to `m · 10 ^ e`, or nothing if that is beyond the double format. -/
def nearest? (m : Nat) (e : Int) : Option Binary64 :=
  let places : Int := e + Decimal.digitCount m
  if m = 0 ∨ places < -400 then some .zero
  else if 400 < places then none
  else Binary64.round (m * powerOf 10 e) (powerOf 10 (-e))

/-- The exponent behind its mark. -/
def exponent? (cs : List Char) : Option Int := do
  let (negative, cs) := sign cs
  let n := digitsValue 10 (← digits? 10 cs)
  return if negative then -(n : Int) else n

/-- A number with a fraction, an exponent, or both. -/
def decimal? (cs : List Char) : Option (Nat × Int) :=
  let isMark (c : Char) : Bool := c = 'e' || c = 'E'
  let mantissa := cs.takeWhile fun c => !isMark c
  let whole := mantissa.takeWhile (· ≠ '.')
  match cs.dropWhile fun c => !isMark c, mantissa.dropWhile (· ≠ '.') with
  | [], [] => none
  | power, fraction => do
    let w ← wholeDigits? whole
    let f ← match fraction with
      | [] => some []
      | _ :: cs => digits? 10 cs
    let e ← match power with
      | [] => some 0
      | _ :: cs => exponent? cs
    return (digitsValue 10 (w ++ f), e - f.length)

/-- A number that is no integer. -/
def real? (cs : List Char) : Option Value :=
  let (negative, cs) := sign cs
  if cs = ['i', 'n', 'f'] then some (.real (.infinite negative))
  else if cs = ['n', 'a', 'n'] then some (.real .notANumber)
  else do
    let (m, e) ← decimal? cs
    match nearest? m e with
    | some x => return .real (.finite negative x)
    | none => return .unreadable

/-! ## Dates and times -/

/-- A number of two decimal digits, between two bounds. -/
def twoDigits? (low high : Nat) : List Char → Option (Nat × List Char)
  | a :: b :: cs => do
    let n := (← digit? 10 a) * 10 + (← digit? 10 b)
    if low ≤ n ∧ n ≤ high then some (n, cs) else none
  | _ => none

/-- Takes a given character. -/
def exactly? (c : Char) : List Char → Option (List Char)
  | d :: cs => if d = c then some cs else none
  | [] => none

/-- The number of days of a month. -/
def daysIn (year month : Nat) : Nat :=
  if month = 2 then
    if year % 4 = 0 ∧ (year % 100 ≠ 0 ∨ year % 400 = 0) then 29 else 28
  else if month = 4 ∨ month = 6 ∨ month = 9 ∨ month = 11 then 30
  else 31

/-- Takes a date. -/
def date? (cs : List Char) : Option (List Char) := do
  let (century, cs) ← twoDigits? 0 99 cs
  let (year, cs) ← twoDigits? 0 99 cs
  let (month, cs) ← twoDigits? 1 12 (← exactly? '-' cs)
  let (_, cs) ← twoDigits? 1 (daysIn (century * 100 + year) month) (← exactly? '-' cs)
  return cs

/-- Takes the fraction of a second, if a point stands here. -/
def secondFraction? : List Char → Option (List Char)
  | '.' :: cs =>
    let rest := cs.dropWhile Char.isDigit
    if rest.length < cs.length then some rest else none
  | cs => some cs

/-- Takes a time of day; the seconds may be left out. -/
def time? (cs : List Char) : Option (List Char) := do
  let (_, cs) ← twoDigits? 0 23 cs
  let (_, cs) ← twoDigits? 0 59 (← exactly? ':' cs)
  match cs with
  | ':' :: cs =>
    let (_, cs) ← twoDigits? 0 60 cs
    secondFraction? cs
  | cs => return cs

/-- Takes the offset from universal time, if there is one. -/
def offset? : List Char → Option (List Char)
  | [] => some []
  | c :: cs =>
    if c = 'Z' ∨ c = 'z' then some cs
    else if c = '+' ∨ c = '-' then do
      let (_, cs) ← twoDigits? 0 23 cs
      let (_, cs) ← twoDigits? 0 59 (← exactly? ':' cs)
      return cs
    else some (c :: cs)

/-- Is the word a date, a time, or a date with a time behind `T` or a space? -/
def isDateTime (cs : List Char) : Bool :=
  match date? cs with
  | some [] => true
  | some (c :: cs) =>
    (c = 'T' || c = 't' || c = ' ') && ((time? cs).bind offset?) == some []
  | none => time? cs == some []

/-! ## Words -/

/-- May the character stand in a word? -/
def isWordChar (c : Char) : Bool :=
  c.isAlphanum || c = '+' || c = '-' || c = '.' || c = ':' || c = '_'

/-- The value that a word stands for. -/
def wordValue? (cs : List Char) : Option Value :=
  if cs = ['t', 'r', 'u', 'e'] then some (.bool true)
  else if cs = ['f', 'a', 'l', 's', 'e'] then some (.bool false)
  else if isDateTime cs then some .dateTime
  else (integer? cs).or (real? cs)

/-- Takes a value written as a word. -/
def word? (cs : List Char) : Option (Value × List Char) :=
  let word := cs.takeWhile isWordChar
  let rest := cs.dropWhile isWordChar
  match rest with
  | ' ' :: d :: more =>
    if date? word = some [] ∧ d.isDigit then
      let more := d :: more
      (wordValue? (word ++ ' ' :: more.takeWhile isWordChar)).map (·, more.dropWhile isWordChar)
    else (wordValue? word).map (·, rest)
  | _ => (wordValue? word).map (·, rest)

end EntitySchema.Toml
