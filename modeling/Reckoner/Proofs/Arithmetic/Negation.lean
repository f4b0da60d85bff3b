import Mathlib

/-!
# `Reckoner.Proofs.Arithmetic.Negation`: negation goes along with rounding

The core library defines the arithmetic of doubles in three steps: a double is unpacked into its
sign, its mantissa and its exponent, these are calculated with and rounded, and the result is
packed. Rounding does not look at the sign, and packing keeps it apart, so a sign can be taken out
of a product or a quotient: the equations below are equations of bits.

What carries them is that unpacking and packing undo each other. One half is
`pack_unpack_of_valid` of the library. Of the other half no more is true than negation needs,
since a result too large for its exponent is packed as an infinity: `unpack_pack_neg` says that
negation commutes with the detour.

* `packed_unpacked`, `unpacked_neg`, `neg_packed`, `unpacked_abs`: the same for doubles.
* `mul_neg`, `neg_mul`, `div_neg`, `neg_mul_neg`: negation in products and quotients.
-/

set_option autoImplicit false

namespace Reckoner.Arithmetic

open Float.Model Float.Model.UnpackedFloat

/-! ### Unpacking and packing -/

section Packing

variable {spec : Format}

/-- In the bits of a double the sign is a component of its own, so it can be changed without a
look at the others. Which kind of number they make up is decided by the exponent and the mantissa.
-/
theorem unpack_packComponents_neg (s : Sign) (exponent : BitVec spec.exponentBits)
    (mantissa : BitVec spec.mantissaBitsWithoutImplicit) :
    UnpackedFloat.unpack spec (packComponents spec (-s) exponent mantissa)
      = (UnpackedFloat.unpack spec (packComponents spec s exponent mantissa)).neg := by
  unfold UnpackedFloat.unpack
  simp only [unpackMantissa_packComponents, unpackExponent_packComponents,
    unpackSign_packComponents, Sign.ofBitVec_toBitVec]
  -- The exponent tells the kinds apart: all ones, all zeros, or a normal number.
  split
  · split
    · rfl
    · rfl
  · split
    · split
      · rfl
      · rfl
    · rfl

/-- An infinity comes back from its bits. -/
theorem unpack_packedInfinity (s : Sign) :
    UnpackedFloat.unpack spec (packedInfinity spec s) = .infinity s := by
  unfold UnpackedFloat.unpack packedInfinity
  simp only [unpackMantissa_packComponents, unpackExponent_packComponents,
    unpackSign_packComponents, Sign.ofBitVec_toBitVec]
  rfl

end Packing

/-- Packing keeps the sign apart. -/
theorem unpack_pack_neg (u : UnpackedFloat) :
    UnpackedFloat.unpack .binary64 (UnpackedFloat.pack .binary64 u.neg)
      = (UnpackedFloat.unpack .binary64 (UnpackedFloat.pack .binary64 u)).neg := by
  cases u with
  | notANumber =>
      show UnpackedFloat.unpack _ (packedNaN _) = (UnpackedFloat.unpack _ (packedNaN _)).neg
      rw [unpack_packedNaN]
      rfl
  | infinity s => exact unpack_packComponents_neg s _ _
  | zero s => exact unpack_packComponents_neg s _ _
  | finite s m e hm =>
      -- A finite result is packed as a subnormal or a normal number or, if its exponent is too
      -- large, as an infinity; the sign is packed along with each of them.
      simp only [UnpackedFloat.neg, UnpackedFloat.pack]
      split
      · exact unpack_packComponents_neg s _ _
      · split
        · exact unpack_packComponents_neg s _ _
        · exact unpack_packComponents_neg s _ _

/-- The absolute value of a double is the double or its negative, so what holds of negation holds
of it. -/
theorem abs_eq_or_eq_neg (u : UnpackedFloat) : u.abs = u ∨ u.abs = u.neg := by
  cases u with
  | notANumber => exact .inl rfl
  | infinity s =>
      cases s with
      | negative => exact .inr rfl
      | positive => exact .inl rfl
  | zero s =>
      cases s with
      | negative => exact .inr rfl
      | positive => exact .inl rfl
  | finite s m e hm =>
      cases s with
      | negative => exact .inr rfl
      | positive => exact .inl rfl

/-! ### Doubles, unpacked -/

/-- A double as its sign, its mantissa and its exponent. -/
def unpacked (x : Float) : UnpackedFloat :=
  x.toModel.unpack

/-- The double that a rounded sign, mantissa and exponent make up. -/
def packed (u : UnpackedFloat) : Float :=
  .ofModel (.pack u)

/-- The bits of a double are those that its parts are packed into. There is one NaN only, so this
holds of every double. -/
theorem packed_unpacked (x : Float) : packed (unpacked x) = x := by
  -- The bits of a double hold no other NaN than the one that packing makes.
  obtain ⟨bits, hvalid⟩ := x
  have hbits : UInt64.ofBitVec (UnpackedFloat.pack .binary64 (.unpack .binary64 bits.toBitVec))
      = bits := by
    rw [pack_unpack_of_valid hvalid]
  exact congrArg Float.ofModel (Float.Model.mk.injEq .. ▸ hbits)

/-- Negation commutes with the detour through the bits, also for parts that are too large for a
double. -/
theorem unpacked_packed_neg (u : UnpackedFloat) :
    unpacked (packed u.neg) = (unpacked (packed u)).neg :=
  unpack_pack_neg u

/-- The parts of the negative of a double. -/
theorem unpacked_neg (x : Float) : unpacked (-x) = (unpacked x).neg := by
  show unpacked (packed (unpacked x).neg) = _
  rw [unpacked_packed_neg, packed_unpacked]

/-- The negative of a packed result is the packed negative of it. -/
theorem neg_packed (u : UnpackedFloat) : -packed u = packed u.neg := by
  show packed (unpacked (packed u)).neg = _
  rw [← unpacked_packed_neg, packed_unpacked]

/-- The parts of the absolute value of a double. -/
theorem unpacked_abs (x : Float) : unpacked x.abs = (unpacked x).abs := by
  -- The absolute value is taken on the parts, and packing brings back both cases.
  show unpacked (packed (unpacked x).abs) = _
  rcases abs_eq_or_eq_neg (unpacked x) with h | h
  · rw [h, packed_unpacked]
  · rw [h, unpacked_packed_neg, packed_unpacked]

/-- What is not finite is packed as it is. -/
theorem unpacked_packed_of_not_isFinite {u : UnpackedFloat} (h : u.isFinite = false) :
    unpacked (packed u) = u := by
  cases u with
  | notANumber => exact @unpack_packedNaN .binary64
  | infinity s => exact @unpack_packedInfinity .binary64 s
  | zero s => cases h
  | finite s m e hm => cases h

/-! ### Negation and arithmetic -/

section Signs

variable (s t : Sign)

/-- The sign of a sign taken twice. -/
@[simp] theorem neg_neg_sign : - -s = s := by cases s <;> rfl

/-- A sign can be taken out of a product of signs on the left. -/
@[simp] theorem neg_mul_sign : -s * t = -(s * t) := by cases s <;> cases t <;> rfl

/-- A sign can be taken out of a product of signs on the right. -/
@[simp] theorem mul_neg_sign : s * -t = -(s * t) := by cases s <;> cases t <;> rfl

/-- A sign can be taken out of the divisor of a quotient of signs. -/
@[simp] theorem div_neg_sign : s / -t = -(s / t) := by cases s <;> cases t <;> rfl

end Signs

section Arithmetic

variable {spec : Format}

/-- Rounding looks at the mantissa and the exponent, and hands the sign on. -/
theorem roundWithAccuracy_neg (s : Sign) (m : Nat) (e : Int) (accuracy : Accuracy) :
    roundWithAccuracy spec (-s) m e accuracy = (roundWithAccuracy spec s m e accuracy).neg := by
  unfold roundWithAccuracy
  dsimp only
  split
  · rfl
  · rfl

/-- Before it is packed, a product with a negative on the right is the negative of the product.
The rounded case is the one that `roundWithAccuracy_neg` is for. -/
theorem unpacked_mul_neg (u v : UnpackedFloat) :
    UnpackedFloat.mul spec u v.neg = (UnpackedFloat.mul spec u v).neg := by
  cases u <;> cases v <;>
    simp [UnpackedFloat.mul, UnpackedFloat.neg, roundWithAccuracy_neg]

/-- The same with the negative on the left. -/
theorem unpacked_neg_mul (u v : UnpackedFloat) :
    UnpackedFloat.mul spec u.neg v = (UnpackedFloat.mul spec u v).neg := by
  cases u <;> cases v <;>
    simp [UnpackedFloat.mul, UnpackedFloat.neg, roundWithAccuracy_neg]

/-- The same for a negative divisor. -/
theorem unpacked_div_neg (u v : UnpackedFloat) :
    UnpackedFloat.div spec u v.neg = (UnpackedFloat.div spec u v).neg := by
  cases u <;> cases v <;>
    simp [UnpackedFloat.div, UnpackedFloat.neg, roundWithAccuracy_neg]

end Arithmetic

section Doubles

variable (x y : Float)

/-- The negative of the negative is the double itself, bit by bit. -/
protected theorem neg_neg : - -x = x := by
  have hunpacked : (unpacked x).neg.neg = unpacked x := by
    cases unpacked x <;> simp [UnpackedFloat.neg]
  rw [← packed_unpacked x, neg_packed, neg_packed, hunpacked]

/-- A negative factor on the right makes the product negative and changes nothing else. -/
protected theorem mul_neg : x * -y = -(x * y) := by
  show packed (UnpackedFloat.mul .binary64 (unpacked x) (unpacked (-y))) = -packed _
  rw [unpacked_neg, unpacked_mul_neg, neg_packed]
  rfl

/-- A negative factor on the left makes the product negative and changes nothing else. -/
protected theorem neg_mul : -x * y = -(x * y) := by
  show packed (UnpackedFloat.mul .binary64 (unpacked (-x)) (unpacked y)) = -packed _
  rw [unpacked_neg, unpacked_neg_mul, neg_packed]
  rfl

/-- A negative divisor makes the quotient negative and changes nothing else. -/
protected theorem div_neg : x / -y = -(x / y) := by
  show packed (UnpackedFloat.div .binary64 (unpacked x) (unpacked (-y))) = -packed _
  rw [unpacked_neg, unpacked_div_neg, neg_packed]
  rfl

/-- So a square does not show the sign of what was squared. -/
protected theorem neg_mul_neg : -x * -y = x * y := by
  rw [Arithmetic.neg_mul, Arithmetic.mul_neg, Arithmetic.neg_neg]

end Doubles

end Reckoner.Arithmetic
