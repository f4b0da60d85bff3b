import Reckoner.Arithmetic.Operations
import Reckoner.Proofs.Arithmetic.Magnitude
import Reckoner.Proofs.Arithmetic.Order
import Reckoner.Proofs.Arithmetic.Squaring

/-!
# `Reckoner.Proofs.Arithmetic.NotANumber`: where NaN comes from

An operator whose operands are numbers has a number for its value, or fails, in all but a few
cases. They are the ones in which an infinity is taken from an infinity, multiplied by zero or
divided by an infinity. All of it comes out of the tables of infinities and zeros in the core
library, since rounding makes no NaN.

Whole powers are safe although they multiply over and over. The base and its squares are all on one
side of 1, so a product of them never has an infinity and a zero in it. Other powers are those of
the library behind the language, of which nothing is known here. Whether one of them is NaN is left
open.

* `Operator.Indeterminate`: operands whose value is NaN.
* `isNaN_add_iff` and its like: sums, differences, products and quotients.
* `isNaN_power_iff`: powers.
* `Operator.isNaN_apply_iff`: all operators.
-/

set_option autoImplicit false

namespace Reckoner

open Arithmetic

/-- Two numbers for which an operator neither fails nor has a number for its value. -/
def Operator.Indeterminate (a b : Float) : Operator → Prop
  | .add => a.isInf = true ∧ b.isInf = true ∧ a ≠ b
  | .sub => a.isInf = true ∧ b.isInf = true ∧ a = b
  | .mul => a.isInf = true ∧ b == 0 ∨ a == 0 ∧ b.isInf = true
  | .div => a.isInf = true ∧ b.isInf = true
  -- What the library makes of such a power is not known here.
  | .pow => 0 < a ∧ b.isNaN = false ∧ isWhole b = false ∧ (a.pow b).isNaN = true

namespace Arithmetic

open Float.Model
open Float.Model.UnpackedFloat hiding pack unpack

/-! ### Packing and rounding -/

/-- Bits whose exponent is not all ones are those of a number, whatever the mantissa is. Only
`packedNaN` and the infinities have that exponent. -/
theorem isNaN_unpack_packComponents (s : Sign) {exponent : BitVec 11} (m : BitVec 52)
    (h : exponent ≠ -1#11) :
    (UnpackedFloat.unpack .binary64 (packComponents .binary64 s exponent m)).isNaN = false := by
  rw [UnpackedFloat.unpack]
  simp only [unpackMantissa_packComponents, unpackExponent_packComponents]
  -- With the largest exponent out of the way there are subnormal and normal numbers, and zeros.
  rw [if_neg h]
  split
  · split
    · rfl
    · rfl
  · rfl

/-- Packing makes no NaN. -/
theorem isNaN_packed (u : UnpackedFloat) : (packed u).isNaN = u.isNaN := by
  show (unpacked (packed u)).isNaN = u.isNaN
  cases u with
  | notANumber => rw [unpacked_packed_of_not_isFinite rfl]
  | infinity s => rw [unpacked_packed_of_not_isFinite rfl]
  | zero s => exact isNaN_unpack_packComponents s _ (by decide)
  -- A finite number may be packed as an infinity or with zeros for its exponent.
  | finite s m e hpos =>
      show (UnpackedFloat.unpack .binary64 (UnpackedFloat.pack .binary64 _)).isNaN = false
      rw [UnpackedFloat.pack]
      dsimp only
      split
      · rw [unpack_packedInfinity]
        rfl
      · next hfits =>
          split
          · refine isNaN_unpack_packComponents s _ ?_
            intro hones
            -- An exponent of ones would have been an overflow.
            have htoNat := congrArg BitVec.toNat hones
            rw [BitVec.toNat_ofNat] at htoNat
            norm_num at htoNat hfits
            omega
          · exact isNaN_unpack_packComponents s _ (by decide)

/-- Rounding makes a number out of every mantissa and exponent. That they are too large for a
double is found when they are packed, and then they are an infinity. -/
theorem isNaN_roundWithAccuracy (s : Sign) (m : ℕ) (e : ℤ) (accuracy : Accuracy) :
    (roundWithAccuracy .binary64 s m e accuracy).isNaN = false := by
  unfold roundWithAccuracy
  dsimp only
  split
  · rfl
  · rfl

/-- A sum is rounded by its sign, and so it is a number or a zero. -/
theorem isNaN_normalize (m e : ℤ) (s : Sign) :
    (UnpackedFloat.normalize .binary64 m e s).isNaN = false := by
  unfold UnpackedFloat.normalize
  split
  · exact isNaN_roundWithAccuracy _ _ _ _
  · rfl
  · exact isNaN_roundWithAccuracy _ _ _ _

/-! ### Sums, differences, products and quotients, in parts -/

section Parts

variable {u v : UnpackedFloat}

/-- Two signs differ exactly when one is the negative of the other. This is how the difference of
two infinities is told from their sum. -/
theorem beq_neg_sign (s t : Sign) : (s == -t) = !(s == t) := by cases s <;> cases t <;> rfl

/-- Of the sums of two numbers only those of opposite infinities are NaN. The table is the
library's; finite operands go through `isNaN_normalize`. -/
theorem isNaN_add_parts (hu : u.isNaN = false) (hv : v.isNaN = false) :
    (UnpackedFloat.add .binary64 u v).isNaN = true ↔ u.isInf = true ∧ v.isInf = true ∧ u ≠ v := by
  cases u <;> cases v <;>
    grind [UnpackedFloat.add, UnpackedFloat.isNaN, UnpackedFloat.isInf, isNaN_normalize]

/-- Of the differences only those of equal infinities are NaN. -/
theorem isNaN_sub_parts (hu : u.isNaN = false) (hv : v.isNaN = false) :
    (UnpackedFloat.sub .binary64 u v).isNaN = true ↔ u.isInf = true ∧ v.isInf = true ∧ u = v := by
  cases u <;> cases v <;>
    grind [UnpackedFloat.sub, UnpackedFloat.isNaN, UnpackedFloat.isInf, isNaN_normalize,
      = beq_neg_sign]

/-- Of the products only those of an infinity and a zero are NaN, on either side. -/
theorem isNaN_mul_parts (hu : u.isNaN = false) (hv : v.isNaN = false) :
    (UnpackedFloat.mul .binary64 u v).isNaN = true ↔
      u.isInf = true ∧ (∃ s, v = .zero s) ∨ (∃ s, u = .zero s) ∧ v.isInf = true := by
  cases u <;> cases v <;>
    grind [UnpackedFloat.mul, UnpackedFloat.isNaN, UnpackedFloat.isInf, isNaN_roundWithAccuracy]

/-- Of the quotients those of two infinities and those of two zeros are NaN. A zero divisor under
anything else is an infinity. -/
theorem isNaN_div_parts (hu : u.isNaN = false) (hv : v.isNaN = false) :
    (UnpackedFloat.div .binary64 u v).isNaN = true ↔
      u.isInf = true ∧ v.isInf = true ∨ (∃ s, u = .zero s) ∧ ∃ s, v = .zero s := by
  cases u <;> cases v <;>
    grind [UnpackedFloat.div, UnpackedFloat.isNaN, UnpackedFloat.isInf, isNaN_roundWithAccuracy]

end Parts

/-! ### Sums, differences, products and quotients of doubles -/

/-- Doubles with the same parts are the same, as there is one NaN. -/
theorem unpacked_inj {x y : Float} : unpacked x = unpacked y ↔ x = y := by
  refine ⟨fun h => ?_, fun h => h ▸ rfl⟩
  rw [← packed_unpacked x, h, packed_unpacked]

/-- Exactly the two zeros are equal to zero. -/
theorem beq_zero_iff {x : Float} : x == 0 ↔ ∃ s, unpacked x = .zero s := by
  have hzero : unpacked 0 = .zero .positive := rfl
  show UnpackedFloat.beq (unpacked x) (unpacked 0) = true ↔ _
  rw [hzero]
  -- The zero on the right is the positive one, and the library compares zeros without their
  -- signs.
  cases unpacked x with
  | notANumber => simp [UnpackedFloat.beq, UnpackedFloat.compare]
  | infinity s => cases s <;> simp [UnpackedFloat.beq, UnpackedFloat.compare]
  | zero s => simp [UnpackedFloat.beq, UnpackedFloat.compare]
  | finite s m e hpos => cases s <;> simp [UnpackedFloat.beq, UnpackedFloat.compare]

section Doubles

variable {x y : Float}

/-- A sum of numbers is NaN exactly when the operands are opposite infinities. -/
theorem isNaN_add_iff (hx : x.isNaN = false) (hy : y.isNaN = false) :
    (x + y).isNaN = true ↔ x.isInf = true ∧ y.isInf = true ∧ x ≠ y := by
  have hsum : (x + y).isNaN = (UnpackedFloat.add .binary64 (unpacked x) (unpacked y)).isNaN :=
    isNaN_packed _
  rw [hsum, @isNaN_add_parts (unpacked x) (unpacked y) hx hy, Ne, unpacked_inj]
  rfl

/-- A difference of numbers is NaN exactly when the operands are the same infinity. -/
theorem isNaN_sub_iff (hx : x.isNaN = false) (hy : y.isNaN = false) :
    (x - y).isNaN = true ↔ x.isInf = true ∧ y.isInf = true ∧ x = y := by
  have hdifference : (x - y).isNaN
      = (UnpackedFloat.sub .binary64 (unpacked x) (unpacked y)).isNaN := isNaN_packed _
  rw [hdifference, @isNaN_sub_parts (unpacked x) (unpacked y) hx hy, unpacked_inj]
  rfl

/-- A product of numbers is NaN exactly when one factor is an infinity and the other a zero. -/
theorem isNaN_mul_iff (hx : x.isNaN = false) (hy : y.isNaN = false) :
    (x * y).isNaN = true ↔ x.isInf = true ∧ y == 0 ∨ x == 0 ∧ y.isInf = true := by
  have hproduct : (x * y).isNaN
      = (UnpackedFloat.mul .binary64 (unpacked x) (unpacked y)).isNaN := isNaN_packed _
  rw [hproduct, @isNaN_mul_parts (unpacked x) (unpacked y) hx hy, beq_zero_iff, beq_zero_iff]
  rfl

/-- A quotient of numbers is NaN exactly when it is one of infinities or of zeros. -/
theorem isNaN_div_iff (hx : x.isNaN = false) (hy : y.isNaN = false) :
    (x / y).isNaN = true ↔ x.isInf = true ∧ y.isInf = true ∨ x == 0 ∧ y == 0 := by
  have hquotient : (x / y).isNaN
      = (UnpackedFloat.div .binary64 (unpacked x) (unpacked y)).isNaN := isNaN_packed _
  rw [hquotient, @isNaN_div_parts (unpacked x) (unpacked y) hx hy, beq_zero_iff, beq_zero_iff]
  rfl

end Doubles

/-! ### Powers -/

/-- What has a magnitude of at least 1 is a number. -/
theorem AtLeastOne.isNaN_eq_false {u : UnpackedFloat} (h : AtLeastOne u) : u.isNaN = false := by
  cases h <;> rfl

/-- What has a magnitude of at most 1 is a number. -/
theorem AtMostOne.isNaN_eq_false {u : UnpackedFloat} (h : AtMostOne u) : u.isNaN = false := by
  cases h <;> rfl

/-- The parts of 1, where repeated squaring starts: the least normal mantissa. -/
theorem unpacked_one : ∃ hpos, unpacked 1 = .finite .positive (2 ^ 52) (-52) hpos :=
  ⟨by norm_num, rfl⟩

/-- A product of a number by itself is a number, however many factors it has. -/
theorem isNaN_power_squaring {base : Float} (h : base.isNaN = false) (exponent : ℕ) :
    (Squaring.power (· * ·) 1 base exponent).isNaN = false := by
  obtain ⟨hpos, hone⟩ := unpacked_one
  -- On its side of 1 a magnitude stays when it is multiplied, so zeros and infinities never meet.
  rcases atLeastOne_or_atMostOne h with hbase | hbase
  · have hstart : AtLeastOne (unpacked 1) :=
      hone ▸ .finite .positive hpos Nat.log2_two_pow (le_refl (-52))
    have hpower := Squaring.power_induction (P := fun x => AtLeastOne (unpacked x))
      (fun x y hx hy => hx.mul_doubles hy) hstart hbase exponent
    exact hpower.isNaN_eq_false
  · have hstart : AtMostOne (unpacked 1) :=
      hone ▸ .finite .positive hpos (a := 52) rfl (le_refl (2 ^ 52))
    have hpower := Squaring.power_induction (P := fun x => AtMostOne (unpacked x))
      (fun x y hx hy => hx.mul_doubles hy) hstart hbase exponent
    exact hpower.isNaN_eq_false

/-- A whole power of a number is one, below zero too: the reciprocal of a number is NaN
for none. -/
theorem isNaN_wholePower {base : Float} (h : base.isNaN = false) (whole : Float) :
    (wholePower base whole).isNaN = false := by
  have hproduct := isNaN_power_squaring h whole.abs.toUInt64.toNat
  unfold wholePower
  dsimp only
  split
  · -- The reciprocal of a number is one, since 1 is neither an infinity nor zero.
    by_contra hnan
    rw [Bool.not_eq_false, isNaN_div_iff (by decide +kernel) hproduct] at hnan
    rcases hnan with ⟨hinf, -⟩ | ⟨hzero, -⟩
    · exact absurd hinf (by decide +kernel)
    · exact absurd hzero (by decide +kernel)
  · exact hproduct

/-- A power of two numbers is NaN only where it goes to the library. -/
theorem isNaN_power_iff {base exponent value : Float} (hbase : base.isNaN = false)
    (hexponent : exponent.isNaN = false) (h : power base exponent = some value) :
    value.isNaN = true ↔ 0 < base ∧ exponent.isNaN = false ∧ isWhole exponent = false ∧
      (base.pow exponent).isNaN = true := by
  -- The branches of the power in order: a base of zero, a whole exponent, a negative base, the
  -- library.
  unfold power at h
  split at h
  · next hzero =>
      split at h
      · cases h
        refine iff_of_false (by decide +kernel) ?_
        rintro ⟨hpos, -⟩
        exact not_gt_of_beq hzero hpos
      · cases h
  · next hzero =>
      split at h
      · next hwhole =>
          cases h
          refine iff_of_false (Bool.not_eq_true _ ▸ isNaN_wholePower hbase _) ?_
          rintro ⟨-, -, hnot, -⟩
          cases hnot.symm.trans hwhole
      · next hwhole =>
          split at h
          · cases h
          · next hneg =>
              cases h
              have hpos : 0 < base := by
                rcases lt_or_beq_or_gt (y := 0) hbase (by decide +kernel) with hlt | heq | hgt
                · exact absurd hlt hneg
                · exact absurd heq hzero
                · exact hgt
              simp only [hpos, hexponent, Bool.not_eq_true _ ▸ hwhole, true_and]

end Arithmetic

/-- Of two numbers an operator makes NaN exactly when it is indeterminate on them. -/
theorem Operator.isNaN_apply_iff {op : Operator} {a b v : Float} {pos : ℕ}
    (ha : a.isNaN = false) (hb : b.isNaN = false) (h : op.apply a b pos = .ok v) :
    v.isNaN = true ↔ op.Indeterminate a b := by
  cases op with
  | add =>
      cases h
      exact isNaN_add_iff ha hb
  | sub =>
      cases h
      exact isNaN_sub_iff ha hb
  | mul =>
      cases h
      exact isNaN_mul_iff ha hb
  | div =>
      rw [apply] at h
      split at h
      · cases h
      · next hdivisor =>
          cases h
          rw [isNaN_div_iff ha hb]
          simp [Indeterminate, hdivisor]
  | pow =>
      rw [apply] at h
      split at h
      · next hpower =>
          cases h
          exact isNaN_power_iff ha hb hpower
      · cases h

end Reckoner
