import Reckoner.Proofs.Arithmetic.Naturals

/-!
# `Reckoner.Proofs.Arithmetic.Magnitude`: products stay on their side of 1

Where a double is a number its magnitude is at least 1 or at most 1, and so is the product of two
of one kind. Rounding does not change that: a product of at least 1 has a normal mantissa and is
rounded to one that starts at no lower place, and one of at most 1 is rounded to at most 1. What is
too large is packed as an infinity, which still is at least 1, and what is too small has few bits
left, or none.

So a power never meets an infinity on the one side and a zero on the other: `AtLeastOne` has no
zero in it and `AtMostOne` has no infinity.

* `AtLeastOne`, `AtMostOne`: the two sides of 1.
* `AtLeastOne.mul_doubles`, `AtMostOne.mul_doubles`: products of doubles.
* `atLeastOne_or_atMostOne`: every number is on one of the sides.
-/

set_option autoImplicit false

namespace Reckoner.Arithmetic

open Float.Model Float.Model.UnpackedFloat

/-- A double in parts whose magnitude is at least 1. Its mantissa is normal. -/
inductive AtLeastOne : UnpackedFloat → Prop where
  | infinity (s : Sign) : AtLeastOne (.infinity s)
  | finite (s : Sign) {m : ℕ} {e : ℤ} (hpos : 0 < m) : m.log2 = 52 → -52 ≤ e →
      AtLeastOne (.finite s m e hpos)

/-- A double in parts whose magnitude is at most 1. -/
inductive AtMostOne : UnpackedFloat → Prop where
  | zero (s : Sign) : AtMostOne (.zero s)
  | finite (s : Sign) {m a : ℕ} {e : ℤ} (hpos : 0 < m) : e = -a → m ≤ 2 ^ a →
      AtMostOne (.finite s m e hpos)

/-! ### Rounding a mantissa -/

/-- A mantissa with its last bits shifted out. -/
def shiftedOut (m k : ℕ) : ExtendedMantissa :=
  (⟨m, false, false⟩ : ExtendedMantissa) >>> k

/-- Shifting bit by bit divides by a power of two, the remainders being kept apart. -/
theorem mantissa_shiftedOut (m k : ℕ) : (shiftedOut m k).mantissa = m / 2 ^ k := by
  induction k with
  | zero => exact (Nat.div_one m).symm
  | succ k ih =>
      have hstep : (shiftedOut m (k + 1)).mantissa = (shiftedOut m k).mantissa / 2 := rfl
      rw [hstep, ih, Nat.div_div_eq_div_mul, pow_succ]

/-- A mantissa is rounded to itself or to the next one. -/
theorem roundedMantissa_bounds (em : ExtendedMantissa) :
    em.mantissa ≤ em.roundedMantissa ∧ em.roundedMantissa ≤ em.mantissa + 1 := by
  obtain ⟨m, roundBit, stickyBit⟩ := em
  -- Whether it goes up hangs on the two bits that tell what has been shifted out.
  cases roundBit <;> cases stickyBit <;>
    simp only [ExtendedMantissa.roundedMantissa, ExtendedMantissa.accuracy,
      Accuracy.roundToNearestEven] <;> omega

/-- Rounding goes beyond nothing that the number is not beyond. -/
theorem roundedMantissa_shiftedOut_le {m k c : ℕ} (h : m ≤ c * 2 ^ k) :
    (shiftedOut m k).roundedMantissa ≤ c := by
  -- Below the bound there is room for rounding up. At the bound nothing is shifted out but zeros.
  rcases Nat.lt_or_eq_of_le h with hlt | rfl
  · have hquotient : m / 2 ^ k < c := (Nat.div_lt_iff_lt_mul (Nat.two_pow_pos k)).2 hlt
    have hrounded := (roundedMantissa_bounds (shiftedOut m k)).2
    rw [mantissa_shiftedOut] at hrounded
    omega
  · rw [shiftedOut, shiftRight_mul_two_pow]
    exact Nat.le_refl c

/-- Rounding does not fall below anything that the number is not below. -/
theorem le_roundedMantissa_shiftedOut {m k c : ℕ} (h : c * 2 ^ k ≤ m) :
    c ≤ (shiftedOut m k).roundedMantissa := by
  refine Nat.le_trans ?_ (roundedMantissa_bounds (shiftedOut m k)).1
  rw [mantissa_shiftedOut]
  exact (Nat.le_div_iff_mul_le (Nat.two_pow_pos k)).2 h

/-- The shift of the library, told by the number of bits that go. -/
theorem shiftToTargetExponent_eq {m k : ℕ} {e : ℤ}
    (h : (Format.binary64.targetExponent (totalExponent m e) - e).toNat = k) :
    shiftToTargetExponent .binary64 m e .exact = (shiftedOut m k, e + k) := by
  subst h
  rfl

/-! ### Rounding on one side of 1 -/

/-- Rounding shifts a mantissa twice, the second time for a carry. -/
theorem roundWithAccuracy_eq (s : Sign) (m : ℕ) (e : ℤ) :
    let first := shiftToTargetExponent .binary64 m e .exact
    let last := shiftToTargetExponent .binary64 first.1.roundedMantissa first.2 .exact
    roundWithAccuracy .binary64 s m e .exact
      = if h : last.1.mantissa = 0 then .zero s
        else .finite s last.1.mantissa last.2 (Nat.pos_of_ne_zero h) := rfl

/-- A number of at most 1 is shifted to one of at most 1, rounded or not. -/
theorem shiftToTargetExponent_le {m a : ℕ} (h : m ≤ 2 ^ a) :
    ∃ em, ∃ b : ℕ, shiftToTargetExponent .binary64 m (-a) .exact = (em, -(b : ℤ)) ∧
      em.mantissa ≤ 2 ^ b ∧ em.roundedMantissa ≤ 2 ^ b := by
  have hlog : m.log2 ≤ a :=
    calc m.log2 = Nat.log 2 m := Nat.log2_eq_log_two
      _ ≤ Nat.log 2 (2 ^ a) := Nat.log_mono_right h
      _ = a := Nat.log_pow one_lt_two a
  have htarget : Format.binary64.targetExponent (totalExponent m (-a)) ≤ 0 := by
    simp only [Format.targetExponent, totalExponent, Format.mantissaBits, Format.minExponent]
    omega
  obtain ⟨k, hk⟩ : ∃ k : ℕ,
      (Format.binary64.targetExponent (totalExponent m (-a)) - -(a : ℤ)).toNat = k := ⟨_, rfl⟩
  have hle : m ≤ 2 ^ (a - k) * 2 ^ k := by
    rw [← pow_add, Nat.sub_add_cancel (by omega)]
    exact h
  have hrounded := roundedMantissa_shiftedOut_le hle
  have hexponent : -(a : ℤ) + k = -((a - k : ℕ) : ℤ) := by omega
  refine ⟨shiftedOut m k, a - k, ?_, (roundedMantissa_bounds _).1.trans hrounded, hrounded⟩
  rw [shiftToTargetExponent_eq hk, hexponent]

/-- A mantissa that is at most `2 ^ a` at the exponent `-a` is rounded to one of the same kind.
There are two shifts, and `shiftToTargetExponent_le` is used for each. -/
theorem atMostOne_roundWithAccuracy (s : Sign) {m a : ℕ} (h : m ≤ 2 ^ a) :
    AtMostOne (roundWithAccuracy .binary64 s m (-a) .exact) := by
  -- The first shift rounds, and the second only takes in a carry of the first.
  obtain ⟨em, b, hfirst, -, hrounded⟩ := shiftToTargetExponent_le h
  obtain ⟨last, c, hlast, hmantissa, -⟩ := shiftToTargetExponent_le hrounded
  simp only [roundWithAccuracy_eq, hfirst, hlast]
  split
  · exact .zero s
  · exact .finite s _ rfl hmantissa

/-- A rounded mantissa is normal, or a carry has put one zero too many behind it. -/
theorem exists_normal_mul_two_pow {r : ℕ} (hlower : 2 ^ 52 ≤ r) (hupper : r ≤ 2 ^ 53) :
    ∃ q j : ℕ, q.log2 = 52 ∧ r = q * 2 ^ j ∧ j ≤ 1 := by
  -- At the upper bound the carry has made a power of two.
  rcases Nat.lt_or_eq_of_le hupper with hlt | rfl
  · exact ⟨r, 0, (Nat.log2_eq_iff (by omega)).2 ⟨hlower, hlt⟩, (mul_one r).symm, zero_le_one⟩
  · exact ⟨2 ^ 52, 1, Nat.log2_two_pow, rfl, le_refl 1⟩

/-- A mantissa that is not too short, of a number of at least 1, is normal when it is rounded. -/
theorem atLeastOne_roundWithAccuracy (s : Sign) {m : ℕ} {e : ℤ} (hlog : 52 ≤ m.log2)
    (h : 0 ≤ m.log2 + e) : AtLeastOne (roundWithAccuracy .binary64 s m e .exact) := by
  obtain ⟨k, hk⟩ := Nat.exists_eq_add_of_le hlog
  have hm : m ≠ 0 := by
    rintro rfl
    cases hlog
  have htarget : Format.binary64.targetExponent (totalExponent m e) = e + k :=
    targetExponent_eq (by omega) (by omega)
  have hfirst : shiftToTargetExponent .binary64 m e .exact = (shiftedOut m k, e + k) :=
    shiftToTargetExponent_eq (by omega)
  have hlower : 2 ^ 52 ≤ (shiftedOut m k).roundedMantissa := by
    refine le_roundedMantissa_shiftedOut ?_
    rw [← pow_add, ← hk]
    exact Nat.log2_self_le hm
  have hupper : (shiftedOut m k).roundedMantissa ≤ 2 ^ 53 := by
    refine roundedMantissa_shiftedOut_le ?_
    rw [← pow_add, show 53 + k = m.log2 + 1 by omega]
    exact Nat.lt_log2_self.le
  -- What the first shift leaves is normal after the second.
  obtain ⟨q, j, hq, hr, hj⟩ := exists_normal_mul_two_pow hlower hupper
  have hlast := shiftToTargetExponent_normal j hq (show -1074 ≤ e + k + j by omega)
  rw [add_sub_cancel_right] at hlast
  simp only [roundWithAccuracy_eq, hfirst, hr, hlast]
  rw [dif_neg (pos_of_log2_eq hq).ne']
  exact .finite s _ hq (by omega)

/-! ### Products -/

section Products

variable {u v : UnpackedFloat}

/-- A product of magnitudes of at least 1 is one. The mantissas are normal, so their product has
no fewer digits than rounding leaves and no exponent is needed to make up for it. -/
theorem AtLeastOne.mul (hu : AtLeastOne u) (hv : AtLeastOne v) :
    AtLeastOne (UnpackedFloat.mul .binary64 u v) := by
  cases hu with
  | infinity s =>
      cases hv with
      | infinity t => exact .infinity (s * t)
      | finite t hpos hlog he => exact .infinity (s * t)
  | @finite s m e hpos hlog he =>
      cases hv with
      | infinity t => exact .infinity (s * t)
      | @finite t n d hpos' hlog' hd =>
          have hm := Nat.log2_self_le hpos.ne'
          have hn := Nat.log2_self_le hpos'.ne'
          rw [hlog] at hm
          rw [hlog'] at hn
          -- Two mantissas of 53 digits have a product of 105 or 106.
          have hproduct : 104 ≤ (m * n).log2 := by
            refine (Nat.le_log2 (Nat.mul_pos hpos hpos').ne').2 ?_
            calc 2 ^ 104 = 2 ^ 52 * 2 ^ 52 := by norm_num
              _ ≤ m * n := Nat.mul_le_mul hm hn
          exact atLeastOne_roundWithAccuracy (s * t) (by omega) (by omega)

/-- A product of magnitudes of at most 1 is one. The bounds of the mantissas multiply, and the
exponents add up to the exponent of the product of the bounds. -/
theorem AtMostOne.mul (hu : AtMostOne u) (hv : AtMostOne v) :
    AtMostOne (UnpackedFloat.mul .binary64 u v) := by
  cases hu with
  | zero s =>
      cases hv with
      | zero t => exact .zero (s * t)
      | finite t hpos he hm => exact .zero (s * t)
  | @finite s m a e hpos he hm =>
      cases hv with
      | zero t => exact .zero (s * t)
      | @finite t n b d hpos' hd hn =>
          have hproduct : m * n ≤ 2 ^ (a + b) := by
            rw [pow_add]
            exact Nat.mul_le_mul hm hn
          have hexponent : e + d = -((a + b : ℕ) : ℤ) := by omega
          show AtMostOne (roundWithAccuracy .binary64 (s * t) (m * n) (e + d) .exact)
          rw [hexponent]
          exact atMostOne_roundWithAccuracy (s * t) hproduct

end Products

/-! ### Doubles -/

/-- With an exponent as small as that no mantissa makes more than 1. -/
theorem AtMostOne.of_exponent_le (s : Sign) {m : ℕ} {e : ℤ} (hpos : 0 < m) (hm : m < 2 ^ 53)
    (he : e ≤ -53) : AtMostOne (.finite s m e hpos) := by
  refine .finite s hpos (a := (-e).toNat) (by omega) ?_
  exact hm.le.trans (Nat.pow_le_pow_right two_pos (by omega))

/-- An exponent of zeros goes with numbers that are next to nothing. -/
theorem atMostOne_unpack_packComponents (s : Sign) (m : BitVec 52) :
    AtMostOne (UnpackedFloat.unpack .binary64 (packComponents .binary64 s 0#11 m)) := by
  rw [UnpackedFloat.unpack]
  simp only [unpackMantissa_packComponents, unpackExponent_packComponents,
    unpackSign_packComponents, Sign.ofBitVec_toBitVec]
  rw [if_neg (by decide), if_pos trivial]
  split
  · exact .zero s
  · exact .of_exponent_le s _ (m.isLt.trans (by norm_num)) (by decide)

/-- Packing keeps a number on its side of 1. What is too large becomes an infinity. -/
theorem AtLeastOne.unpacked_packed {u : UnpackedFloat} (h : AtLeastOne u) :
    AtLeastOne (unpacked (packed u)) := by
  cases h with
  | infinity s =>
      rw [unpacked_packed_of_not_isFinite rfl]
      exact .infinity s
  | @finite s m e hpos hlog he =>
      by_cases hfits : e ≤ 971
      · rw [Arithmetic.unpacked_packed hpos hlog (by omega) hfits]
        exact .finite s hpos hlog he
      · have hpack : UnpackedFloat.pack .binary64 (.finite s m e hpos)
            = packedInfinity .binary64 s := by
          rw [UnpackedFloat.pack]
          refine if_pos ?_
          simp only [Format.exponentBias]
          norm_num
          omega
        show AtLeastOne (UnpackedFloat.unpack .binary64 (UnpackedFloat.pack .binary64 _))
        rw [hpack, unpack_packedInfinity]
        exact .infinity s

/-- Packing keeps a number on its side of 1. What is too small loses bits or becomes zero. -/
theorem AtMostOne.unpacked_packed {u : UnpackedFloat} (h : AtMostOne u) :
    AtMostOne (unpacked (packed u)) := by
  cases h with
  | zero s =>
      show AtMostOne (UnpackedFloat.unpack .binary64 (packedZero .binary64 s))
      rw [unpack_packedZero]
      exact .zero s
  | @finite s m a e hpos he hm =>
      -- A normal number comes back as it was. Any other is packed with an exponent of zeros.
      by_cases hnormal : m.log2 = 52 ∧ -1074 ≤ e
      · rw [Arithmetic.unpacked_packed hpos hnormal.1 hnormal.2 (by omega)]
        exact .finite s hpos he hm
      · have hpack : UnpackedFloat.pack .binary64 (.finite s m e hpos)
            = packComponents .binary64 s 0#11 (BitVec.ofNat 52 m) := by
          have hbiased : (e + Format.binary64.exponentBias
              + Format.binary64.mantissaBitsWithoutImplicit).toNat = (e + 1075).toNat := by
            simp only [Format.exponentBias]
            omega
          have hfits : ¬ 2 ^ Format.binary64.exponentBits ≤ (e + 1075).toNat + 1 := by
            norm_num
            omega
          rw [UnpackedFloat.pack]
          simp only [hbiased]
          rw [if_neg hfits]
          split
          · next hlog =>
              have hlog : m.log2 = 52 := Nat.succ.inj hlog
              have hzero : (e + 1075).toNat = 0 := by omega
              rw [hzero]
          · rfl
        show AtMostOne (UnpackedFloat.unpack .binary64 (UnpackedFloat.pack .binary64 _))
        rw [hpack]
        exact atMostOne_unpack_packComponents s _

section Doubles

variable {x y : Float}

/-- The product of two doubles whose magnitude is at least 1. -/
theorem AtLeastOne.mul_doubles (hx : AtLeastOne (unpacked x)) (hy : AtLeastOne (unpacked y)) :
    AtLeastOne (unpacked (x * y)) :=
  (hx.mul hy).unpacked_packed

/-- The product of two doubles whose magnitude is at most 1. -/
theorem AtMostOne.mul_doubles (hx : AtMostOne (unpacked x)) (hy : AtMostOne (unpacked y)) :
    AtMostOne (unpacked (x * y)) :=
  (hx.mul hy).unpacked_packed

/-- The bit that is left out in packing leads the mantissa. -/
theorem two_pow_le_toNat_append (m : BitVec 52) : 2 ^ 52 ≤ (1#1 ++ m).toNat := by
  rw [BitVec.toNat_append]
  exact Nat.left_le_or

/-- With a normal mantissa the exponent says on which side of 1 a number is. -/
theorem atLeastOne_or_atMostOne_of_normal (s : Sign) (m : BitVec 52) (e : ℤ)
    {hpos : 0 < (1#1 ++ m).toNat} :
    AtLeastOne (.finite s (1#1 ++ m).toNat e hpos) ∨
      AtMostOne (.finite s (1#1 ++ m).toNat e hpos) := by
  have hlower := two_pow_le_toNat_append m
  have hupper := (1#1 ++ m).isLt
  rcases lt_or_ge e (-52) with he | he
  · exact .inr (.of_exponent_le s hpos hupper (by omega))
  · exact .inl (.finite s hpos ((Nat.log2_eq_iff (by omega)).2 ⟨hlower, hupper⟩) he)

/-- Every number is on one of the sides of 1. -/
theorem atLeastOne_or_atMostOne (h : x.isNaN = false) :
    AtLeastOne (unpacked x) ∨ AtMostOne (unpacked x) := by
  have hnan : (unpacked x).isNaN = false := h
  -- The cases are those of unpacking: the exponent is all ones, all zeros, or neither.
  revert hnan
  unfold unpacked Float.Model.unpack UnpackedFloat.unpack
  dsimp only
  split
  · split
    · exact fun _ => .inl (.infinity _)
    · intro hnan
      cases hnan
  · split
    · split
      · exact fun _ => .inr (.zero _)
      · intro _
        refine .inr (.of_exponent_le _ _ ((BitVec.isLt _).trans (by norm_num)) ?_)
        rw [‹unpackExponent _ = _›]
        decide
    · exact fun _ => atLeastOne_or_atMostOne_of_normal _ _ _

end Doubles

end Reckoner.Arithmetic
