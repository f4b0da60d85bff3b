/-!
# `Reckoner.Arithmetic.Squaring`: powers by repeated squaring

The binary digits of an exponent, read from the lowest, say how to reach a power
with few multiplications: at a digit 1 the result takes in the base, and between
two digits the base is squared. `Squaring.steps` is that list of multiplications
and `Squaring.power` carries it out in any type that has a multiplication, so the
order of the multiplications is the same for doubles as for exact numbers.
-/

set_option autoImplicit false

namespace Reckoner.Arithmetic.Squaring

/-- One multiplication on the way to a power. -/
inductive Step where
  /-- The result is multiplied by the base. -/
  | accumulate
  /-- The base is multiplied by itself. -/
  | square
deriving DecidableEq, Repr

/-- The multiplications for an exponent. The base is not squared after the highest
digit, where nothing would use the square. -/
def steps (exponent : Nat) : List Step :=
  if exponent = 0 then []
  else
    (if exponent % 2 = 1 then [.accumulate] else []) ++
      (if 0 < exponent / 2 then [.square] else []) ++ steps (exponent / 2)
termination_by exponent

/-- A result and the base that it still takes in. -/
structure Progress (α : Type) where
  /-- The product so far. -/
  result : α
  /-- The base, squared as often as digits are behind. -/
  base : α
deriving DecidableEq, Repr

/-- Carries out one multiplication. -/
def Progress.step {α : Type} (mul : α → α → α) (p : Progress α) : Step → Progress α
  | .accumulate => ⟨mul p.result p.base, p.base⟩
  | .square => ⟨p.result, mul p.base p.base⟩

/-- The power of a base to a whole exponent, from the multiplication and its unit. -/
def power {α : Type} (mul : α → α → α) (one base : α) (exponent : Nat) : α :=
  ((steps exponent).foldl (Progress.step mul) ⟨one, base⟩).result

end Reckoner.Arithmetic.Squaring
