/-!
# `Reckoner.Decimal.Writing`: numbers as the program writes them

A number is written with the fewest digits that read back, always in positional
notation, however long that gets. A whole number has no point. The zero below
zero is `-0`, and what is no number is `inf`, `-inf` or `NaN` (`positional`).

A double is read back from every decimal that lies nearer to it than to its
neighbours. `shortest` finds, of all decimals that read back, one with the
fewest digits, and of those the nearest to the double; of two equally near ones
it takes the larger.

A decimal is `digits · 10 ^ exponent`, so its last digit lies on the grid of the
multiples of `10 ^ exponent`, and the coarser the grid, the fewer the digits. The
search goes through the grids from the coarsest on and stops at the first that
has a point in the interval of reals that read back. All comparisons are between
natural numbers, so nothing is rounded on the way.
-/

set_option autoImplicit false

namespace Reckoner.Decimal

/-- A positive number `digits · 10 ^ exponent`. -/
structure Scientific where
  /-- All digits as one number. -/
  digits : Nat
  /-- The power of ten that the last digit counts. -/
  exponent : Int
deriving DecidableEq, Repr

/-- A positive double as `mantissa · 2 ^ exponent`. -/
structure Binary where
  /-- The significant bits as one number. -/
  mantissa : Nat
  /-- The power of two that the last bit counts. -/
  exponent : Int
  /-- Whether the double below is only half as far away as the one above, as it is
  at the powers of two. -/
  narrow : Bool
deriving DecidableEq, Repr

namespace Binary

/-- The absolute value of a finite double, from its bits. -/
def ofBits (bits : UInt64) : Binary :=
  let exponent : Nat := bits.toNat / Nat.pow 2 52 % Nat.pow 2 11
  let fraction := bits.toNat % Nat.pow 2 52
  -- Without an exponent there is no leading bit, and the last one is the smallest.
  if exponent = 0 then ⟨fraction, -1074, false⟩
  else ⟨Nat.pow 2 52 + fraction, (exponent : Int) - 1075, fraction = 0 && 1 < exponent⟩

/-- How many quarters of the last bit lie between the double and the lower end of
the interval that reads back. The upper end is always two quarters away. -/
def below (b : Binary) : Nat :=
  if b.narrow then 1 else 2

/-- `quarters` quarters of the last bit of `b`, counted in the unit in which both
they and the grid of `10 ^ grid` are whole. -/
def scaled (b : Binary) (grid : Int) (quarters : Nat) : Nat :=
  quarters * Nat.pow 2 (b.exponent - 2).toNat * Nat.pow 10 (-grid).toNat

/-- The distance of two neighbours on the grid of `10 ^ grid`, in the unit of
`scaled`. -/
def gridStep (b : Binary) (grid : Int) : Nat :=
  Nat.pow 10 grid.toNat * Nat.pow 2 (2 - b.exponent).toNat

/-- Whether a point, in the unit of `scaled`, reads back as `b`. The ends of the
interval lie halfway to the neighbours and read back as the even one of two. -/
def readsBack (b : Binary) (grid : Int) (point : Nat) : Bool :=
  let lower := b.scaled grid (4 * b.mantissa - b.below)
  let upper := b.scaled grid (4 * b.mantissa + 2)
  if b.mantissa % 2 = 0 then lower ≤ point && point ≤ upper
  else lower < point && point < upper

/-- The decimal on the grid of `10 ^ grid` that reads back and is nearest to `b`,
if there is one. Only the two points around `b` come into question. -/
def nearestOnGrid? (b : Binary) (grid : Int) : Option Scientific :=
  let value := b.scaled grid (4 * b.mantissa)
  let step := b.gridStep grid
  let down := value / step
  let downFits := b.readsBack grid (down * step)
  let upFits := b.readsBack grid ((down + 1) * step)
  -- Halfway between the two the larger is taken.
  let upNearer := (down + 1) * step - value ≤ value - down * step
  if upFits && (upNearer || !downFits) then some ⟨down + 1, grid⟩
  else if downFits then some ⟨down, grid⟩
  else none

end Binary

/-- The exponents of the grids that doubles need, the coarsest first: from above
the largest double down to below the smallest. -/
def grids : List Int :=
  (List.range 634).map fun (i : Nat) => (309 : Int) - i

/-- The shortest decimal that reads back as the absolute value of a double that
is neither zero nor infinite nor NaN. -/
def shortest (bits : UInt64) : Scientific :=
  (grids.findSome? (Binary.ofBits bits).nearestOnGrid?).getD ⟨0, 0⟩

/-- `digits · 10 ^ exponent` in positional notation. Before the point there is at
least a zero; without digits behind the point there is no point. -/
def Scientific.positional (s : Scientific) : List Char :=
  let digits := Nat.toDigits 10 s.digits
  if 0 ≤ s.exponent then digits ++ List.replicate s.exponent.toNat '0'
  else
    let places := (-s.exponent).toNat
    if places < digits.length then
      digits.take (digits.length - places) ++ '.' :: digits.drop (digits.length - places)
    else '0' :: '.' :: (List.replicate (places - digits.length) '0' ++ digits)

/-- A number as the program writes it. -/
def positional (x : Float) : String :=
  if x.isNaN then "NaN"
  else
    let sign := if x.toBits >>> 63 = 1 then "-" else ""
    if x == 0 then sign ++ "0"
    else if x.isInf then sign ++ "inf"
    else sign ++ String.ofList (shortest x.toBits).positional

end Reckoner.Decimal
