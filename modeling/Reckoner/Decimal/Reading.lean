/-!
# `Reckoner.Decimal.Reading`: numbers as a user may write them

A number is digits with or without a point among them, before or behind them, and
with or without a decimal exponent; `inf`, `infinity` and `nan` are numbers too,
in any mix of cases. A sign may stand in front. Nothing else is a number, and
neither is one with spacing around it.

What is written is a fraction of natural numbers, and it is rounded once
(`ofRatio`): to the nearest double, a halfway case to the even one. What is nearer
to zero than to the smallest double becomes zero, and what lies beyond the largest
becomes infinite.
-/

set_option autoImplicit false

namespace Reckoner.Decimal

/-! ### Rounding a fraction -/

/-- A quotient rounded to the nearest whole number, a half to the even one. -/
def roundDiv (num den : Nat) : Nat :=
  let down := num / den
  let twice := 2 * (num % den)
  if den < twice || (twice = den && down % 2 = 1) then down + 1 else down

/-- The exponent of the last bit of the double nearest to `num / den`: the one with
which the quotient has 53 binary digits, but none below that of the smallest
double. -/
def lastBit (num den : Nat) : Int :=
  -- The binary logarithms are cut down to whole numbers, so the guess may be one too
  -- high, but never too low.
  let guess : Int := (num.log2 : Int) - den.log2 - 52
  let short := num * Nat.pow 2 (-guess).toNat < Nat.pow 2 52 * (den * Nat.pow 2 guess.toNat)
  max (-1074) (if short then guess - 1 else guess)

/-- The double nearest to `num / den`, where `den` is not zero.

The bits of a double count the doubles from zero on: with the last bit at
`2 ^ exponent`, the quotient stands `roundDiv` places behind the start of its
binade, and a quotient that rounds up to the next power of two lands on it. -/
def ofRatio (num den : Nat) : Float :=
  if num = 0 then 0
  else
    let exponent := lastBit num den
    let mantissa :=
      roundDiv (num * Nat.pow 2 (-exponent).toNat) (den * Nat.pow 2 exponent.toNat)
    let place := (exponent + 1074).toNat * Nat.pow 2 52 + mantissa
    Float.ofBits (min place 0x7ff0000000000000).toUInt64

/-! ### Reading -/

/-- The natural number that decimal digits write. -/
def natOfDigits (digits : List Char) : Nat :=
  digits.foldl (fun n c => n * 10 + (c.toNat - 48)) 0

/-- Splits off a sign. -/
def splitSign : List Char → Bool × List Char
  | '-' :: text => (true, text)
  | '+' :: text => (false, text)
  | text => (false, text)

/-- Reads a whole number of at least one digit, with or without a sign. -/
def readInt? (text : List Char) : Option Int :=
  let (negative, digits) := splitSign text
  if digits.isEmpty || !digits.all Char.isDigit then none
  else some (if negative then -(natOfDigits digits : Int) else natOfDigits digits)

/-- Reads the exponent behind the digits of a number. There may be none. -/
def readExponent? : List Char → Option Int
  | [] => some 0
  | c :: text => if c = 'e' || c = 'E' then readInt? text else none

/-- The double nearest to `digits · 10 ^ exponent`. Exponents that put the number
far beyond the doubles on either side are not multiplied out. -/
def ofScientific (digits : Nat) (exponent : Int) : Float :=
  -- Doubles have between -323 and 309 digits before the point, so 400 is beyond all.
  let size := (Nat.toDigits 10 digits).length + exponent
  if digits = 0 || size < -400 then 0
  else if 400 < size then 1 / 0
  else ofRatio (digits * Nat.pow 10 exponent.toNat) (Nat.pow 10 (-exponent).toNat)

/-- Reads an unsigned number that is written with digits. -/
def readDigits? (text : List Char) : Option Float :=
  let whole := text.takeWhile Char.isDigit
  let behind := text.dropWhile Char.isDigit
  let (fraction, suffix) := match behind with
    | '.' :: rest => (rest.takeWhile Char.isDigit, rest.dropWhile Char.isDigit)
    | rest => ([], rest)
  if whole.isEmpty && fraction.isEmpty then none
  else (readExponent? suffix).map fun exponent =>
    ofScientific (natOfDigits (whole ++ fraction)) (exponent - fraction.length)

/-- Reads an unsigned number. -/
def readUnsigned? (text : List Char) : Option Float :=
  let word := String.ofList (text.map Char.toLower)
  if word == "inf" || word == "infinity" then some (1 / 0)
  else if word == "nan" then some (0 / 0)
  else readDigits? text

/-- Reads a number. -/
def read? (text : String) : Option Float :=
  let (negative, rest) := splitSign text.toList
  (readUnsigned? rest).map fun x => if negative then -x else x

end Reckoner.Decimal
