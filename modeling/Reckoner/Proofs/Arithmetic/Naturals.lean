import Reckoner.Proofs.Arithmetic.Negation

/-!
# `Reckoner.Proofs.Arithmetic.Naturals`: doubles count exactly

A double has a mantissa of 53 bits, so it can stand for any whole number up to `2 ^ 53`. Sums and
products of such numbers that do not go beyond it need no rounding, and are exact.

The arithmetic is defined on mantissas and exponents, of which many stand for one number. A
mantissa is normal when its leading bit is at place 52. Rounding looks for the exponent that goes
with such a mantissa, and whatever has its value is brought to it without a bit lost
(`round_exact`). Packing and unpacking leave it as it is (`unpacked_packed`).

* `exactValue?`: the number that a double stands for.
* `Represents`, `Holds`: to stand for a whole number, with a normal mantissa.
* `holds_ofNat`, `Holds.add`, `Holds.mul`: whole numbers up to `2 ^ 53`, their sums and products.
-/

set_option autoImplicit false

namespace Reckoner.Arithmetic

open Float.Model Float.Model.UnpackedFloat

/-- The number that a double stands for. Infinities and NaN stand for none. -/
def exactValue? (x : Float) : Option ℚ :=
  match unpacked x with
  | .zero _ => some 0
  | .finite s m e _ => some (s.apply m * 2 ^ e)
  | .infinity _ | .notANumber => none

/-! ### Mantissas and exponents -/

/-- Binary digits and zeros behind them: the number of digits is the sum. -/
theorem log2_mul_two_pow {m : ℕ} (h : m ≠ 0) (k : ℕ) : (m * 2 ^ k).log2 = m.log2 + k := by
  have hlo := Nat.log2_self_le h
  have hhi := Nat.lt_log2_self (n := m)
  refine (Nat.log2_eq_iff (by positivity)).2 ⟨?_, ?_⟩
  · rw [pow_add]
    exact Nat.mul_le_mul_right _ hlo
  · rw [Nat.add_right_comm, pow_add]
    exact Nat.mul_lt_mul_of_pos_right hhi (by positivity)

/-- A normal mantissa is not zero. The constructor of finite doubles asks for this. -/
theorem pos_of_log2_eq {q : ℕ} (h : q.log2 = 52) : 0 < q := by
  refine Nat.pos_of_ne_zero ?_
  rintro rfl
  cases h

/-- Bringing a mantissa to a smaller exponent leaves the value as it is. -/
theorem shiftLeft_mul_two_pow (q : ℕ) {e t : ℤ} (hle : e ≤ t) :
    ((q <<< (t - e).toNat : ℕ) : ℚ) * 2 ^ e = q * 2 ^ t := by
  rw [Nat.shiftLeft_eq, Nat.cast_mul, Nat.cast_pow, Nat.cast_ofNat, mul_assoc, ← zpow_natCast,
    ← zpow_add₀ two_ne_zero]
  congr 2
  omega

/-- Of two ways to write a number the one with the smaller exponent has the larger mantissa. -/
theorem eq_mul_two_pow_of_le {m q : ℕ} {e t : ℤ} (h : (m : ℚ) * 2 ^ e = q * 2 ^ t) (hle : e ≤ t) :
    m = q * 2 ^ (t - e).toNat := by
  have htwo : (2 : ℚ) ^ e ≠ 0 := by positivity
  rw [← shiftLeft_mul_two_pow q hle, Nat.shiftLeft_eq] at h
  exact_mod_cast mul_right_cancel₀ htwo h

/-- Every whole number up to `2 ^ 53` has a normal mantissa. -/
theorem exists_normal {n : ℕ} (hpos : 0 < n) (hle : n ≤ 2 ^ 53) :
    ∃ (q : ℕ) (t : ℤ), q.log2 = 52 ∧ (q : ℚ) * 2 ^ t = n ∧ -52 ≤ t ∧ t ≤ 1 := by
  rcases Nat.lt_or_eq_of_le hle with hlt | rfl
  · have hlog : n.log2 < 53 := (Nat.log2_lt (by omega)).2 hlt
    refine ⟨n * 2 ^ (52 - n.log2), -((52 - n.log2 : ℕ) : ℤ), ?_, ?_, by omega, by omega⟩
    · rw [log2_mul_two_pow (by omega)]
      omega
    · rw [Nat.cast_mul, Nat.cast_pow, Nat.cast_ofNat, mul_assoc, ← zpow_natCast,
        ← zpow_add₀ two_ne_zero, add_neg_cancel, zpow_zero, mul_one]
  · exact ⟨2 ^ 52, 1, Nat.log2_two_pow, by norm_num, by norm_num, by norm_num⟩

/-! ### Rounding -/

/-- No bit is lost when the bits that are cut off are zero. -/
theorem shiftRight_mul_two_pow (q k : ℕ) :
    (⟨q * 2 ^ k, false, false⟩ : ExtendedMantissa) >>> k = ⟨q, false, false⟩ := by
  induction k generalizing q with
  | zero =>
      rw [pow_zero, mul_one]
      rfl
  | succ k ih =>
      have hsplit : q * 2 ^ (k + 1) = q * 2 * 2 ^ k := by
        rw [pow_succ]
        ring
      have hlast : (⟨q * 2 * 2 ^ k, false, false⟩ : ExtendedMantissa) >>> (k + 1)
          = ((⟨q * 2 * 2 ^ k, false, false⟩ : ExtendedMantissa) >>> k).shiftRightOne := rfl
      rw [hsplit, hlast, ih]
      simp [ExtendedMantissa.shiftRightOne]

/-- A mantissa of any length is brought to the exponent at which it has 53 digits, unless that is
below the smallest exponent there is. -/
theorem targetExponent_eq {m : ℕ} {e t : ℤ} (h : m.log2 + e = 52 + t) (ht : -1074 ≤ t) :
    Format.binary64.targetExponent (totalExponent m e) = t := by
  simp only [Format.targetExponent, totalExponent, Format.mantissaBits, Format.minExponent]
  omega

/-- A normal mantissa, as it is or with zeros behind it, is at its exponent after the shift. -/
theorem shiftToTargetExponent_normal {q : ℕ} (k : ℕ) {t : ℤ} (hq : q.log2 = 52)
    (ht : -1074 ≤ t) : shiftToTargetExponent .binary64 (q * 2 ^ k) (t - k) .exact
      = (⟨q, false, false⟩, t) := by
  have hne := (pos_of_log2_eq hq).ne'
  have htarget : Format.binary64.targetExponent (totalExponent (q * 2 ^ k) (t - k)) = t := by
    refine targetExponent_eq ?_ ht
    rw [log2_mul_two_pow hne, hq]
    omega
  have hshift : (t - (t - k)).toNat = k := by omega
  simp only [shiftToTargetExponent, shiftToExponent, htarget, hshift,
    ExtendedMantissa.ofMantissaAndAccuracy, shiftRight_mul_two_pow]
  simp

/-- Rounding takes the zeros away. -/
theorem roundWithAccuracy_normal (s : Sign) {q : ℕ} (k : ℕ) {t : ℤ} (hq : q.log2 = 52)
    (ht : -1074 ≤ t) (hpos : 0 < q) :
    roundWithAccuracy .binary64 s (q * 2 ^ k) (t - k) .exact = .finite s q t hpos := by
  have hfirst := shiftToTargetExponent_normal k hq ht
  have hsecond := shiftToTargetExponent_normal 0 hq ht
  rw [pow_zero, mul_one, Nat.cast_zero, sub_zero] at hsecond
  simp only [roundWithAccuracy, hfirst, ExtendedMantissa.roundedMantissa,
    ExtendedMantissa.accuracy, Accuracy.roundToNearestEven, hsecond]
  exact dif_neg hpos.ne'

/-- Rounding brings a number to its normal mantissa. -/
theorem round_exact {s : Sign} {m q : ℕ} {e t : ℤ} (hq : q.log2 = 52) (ht : -1074 ≤ t)
    (hpos : 0 < q) (h : (m : ℚ) * 2 ^ e = q * 2 ^ t) :
    UnpackedFloat.round .binary64 s m e = .finite s q t hpos := by
  rcases le_total e t with hle | hle
  -- The mantissa is normal with zeros behind it, which rounding shifts out.
  · obtain rfl := eq_mul_two_pow_of_le h hle
    have htarget : Format.binary64.targetExponent (totalExponent (q * 2 ^ (t - e).toNat) e) = t := by
      refine targetExponent_eq ?_ ht
      rw [log2_mul_two_pow hpos.ne', hq]
      omega
    have he : t - (t - e).toNat = e := by omega
    have hnone : (e - t).toNat = 0 := by omega
    have hround := roundWithAccuracy_normal s (t - e).toNat hq ht hpos
    rw [he] at hround
    simpa [UnpackedFloat.round, htarget, decreaseExponent, hnone] using hround
  -- The mantissa is too short, and zeros are put behind it before it is rounded.
  · obtain rfl := eq_mul_two_pow_of_le h.symm hle
    have hm : m ≠ 0 := by
      rintro rfl
      simp at hpos
    rw [log2_mul_two_pow hm] at hq
    have htarget : Format.binary64.targetExponent (totalExponent m e) = t := by
      refine targetExponent_eq ?_ ht
      omega
    have he : e - ((e - t).toNat : ℤ) = t := by omega
    have hround := roundWithAccuracy_normal s 0
      (by rw [log2_mul_two_pow hm]; exact hq) ht hpos
    rw [pow_zero, mul_one, Nat.cast_zero, sub_zero] at hround
    simp only [UnpackedFloat.round, htarget, decreaseExponent, Nat.shiftLeft_eq, he]
    exact hround

/-! ### Packing -/

/-- The leading bit of a normal mantissa is left out in packing and put back in unpacking. -/
theorem toNat_one_append_ofNat {q : ℕ} (h : q.log2 = 52) :
    (BitVec.ofNat 1 1 ++ BitVec.ofNat 52 q).toNat = q := by
  have hlower := Nat.log2_self_le (pos_of_log2_eq h).ne'
  have hupper := Nat.lt_log2_self (n := q)
  have hone := Nat.two_pow_add_eq_or_of_lt (Nat.mod_lt q (Nat.two_pow_pos 52)) 1
  rw [h] at hlower hupper
  rw [BitVec.toNat_append, BitVec.toNat_ofNat, BitVec.toNat_ofNat, Nat.shiftLeft_eq,
    mul_comm (1 % 2 ^ 1), Nat.one_mod_two_pow_eq_one.2 one_pos, ← hone]
  omega

/-- Exponents between the one of the smallest numbers and the one of infinities are stored as they
are. -/
theorem toNat_ofNat_exponent {b : ℕ} (hpos : 0 < b) (hlt : b < 2047) :
    (BitVec.ofNat 11 b).toNat = b ∧ BitVec.ofNat 11 b ≠ -BitVec.ofNat 11 1 ∧
      BitVec.ofNat 11 b ≠ BitVec.ofNat 11 0 := by
  have hstored : (BitVec.ofNat 11 b).toNat = b := by
    rw [BitVec.toNat_ofNat]
    omega
  refine ⟨hstored, ?_, ?_⟩
  · intro h
    have htoNat := congrArg BitVec.toNat h
    rw [hstored] at htoNat
    simp at htoNat
    omega
  · intro h
    have htoNat := congrArg BitVec.toNat h
    rw [hstored] at htoNat
    simp at htoNat
    omega

/-- A double is made up of a normal mantissa and its exponent, and falls into them again. -/
theorem unpacked_packed {s : Sign} {q : ℕ} {t : ℤ} (hpos : 0 < q) (hq : q.log2 = 52)
    (hlo : -1074 ≤ t) (hhi : t ≤ 971) :
    unpacked (packed (.finite s q t hpos)) = .finite s q t hpos := by
  -- The exponent is stored with a bias of 1075.
  have hbiased : (t + Format.binary64.exponentBias + Format.binary64.mantissaBitsWithoutImplicit).toNat
      = (t + 1075).toNat := by
    simp only [Format.exponentBias]
    omega
  obtain ⟨hstored, hnotall, hnotzero⟩ :=
    toNat_ofNat_exponent (b := (t + 1075).toNat) (by omega) (by omega)
  have hpack : UnpackedFloat.pack .binary64 (.finite s q t hpos)
      = packComponents .binary64 s (BitVec.ofNat 11 (t + 1075).toNat) (BitVec.ofNat 52 q) := by
    have hfits : ¬ 2 ^ Format.binary64.exponentBits ≤ (t + 1075).toNat + 1 := by
      norm_num
      omega
    rw [UnpackedFloat.pack]
    simp only [hbiased]
    rw [if_neg hfits, if_pos (by rw [hq]; rfl)]
  show UnpackedFloat.unpack .binary64 (UnpackedFloat.pack .binary64 (.finite s q t hpos)) = _
  rw [hpack, UnpackedFloat.unpack]
  simp only [unpackMantissa_packComponents, unpackExponent_packComponents,
    unpackSign_packComponents, Sign.ofBitVec_toBitVec]
  rw [if_neg hnotall, if_neg hnotzero]
  simp only [UnpackedFloat.finite.injEq, hstored, Format.exponentBias]
  refine ⟨trivial, toNat_one_append_ofNat hq, ?_⟩
  omega

/-! ### Doubles that stand for whole numbers -/

/-- A double in parts that stands for a whole number up to `2 ^ 53`, with a normal mantissa. -/
inductive Represents : UnpackedFloat → ℕ → Prop where
  | zero : Represents (.zero .positive) 0
  | finite {q n : ℕ} {t : ℤ} (hpos : 0 < q) : q.log2 = 52 → -52 ≤ t → t ≤ 1 →
      (q : ℚ) * 2 ^ t = n → Represents (.finite .positive q t hpos) n

/-- Rounding makes a number up to `2 ^ 53` of it. -/
theorem represents_round {m n : ℕ} {e : ℤ} (hpos : 0 < n) (hle : n ≤ 2 ^ 53)
    (h : (m : ℚ) * 2 ^ e = n) : Represents (UnpackedFloat.round .binary64 .positive m e) n := by
  obtain ⟨q, t, hq, hn, hlo, hhi⟩ := exists_normal hpos hle
  have hqpos := pos_of_log2_eq hq
  rw [round_exact hq (by omega) hqpos (h.trans hn.symm)]
  exact .finite hqpos hq hlo hhi hn

/-- A whole number up to `2 ^ 53` in any binary form is normalized to the double that represents
it. Zero is a case of its own, as it has no normal mantissa. -/
theorem represents_normalize {m n : ℕ} {e : ℤ} (hle : n ≤ 2 ^ 53) (h : (m : ℚ) * 2 ^ e = n) :
    Represents (UnpackedFloat.normalize .binary64 m e .positive) n := by
  rcases Nat.eq_zero_or_pos n with rfl | hpos
  · have htwo : (2 : ℚ) ^ e ≠ 0 := by positivity
    obtain rfl : m = 0 := by simpa [htwo] using h
    exact .zero
  · have hm : m ≠ 0 := by
      rintro rfl
      have hn : n = 0 := by simpa using h.symm
      omega
    have hcompare : compare (m : ℤ) 0 = .gt := compare_gt_iff_gt.2 (by omega)
    -- What is not zero is rounded with its sign, and a value that fits is rounded to itself.
    rw [UnpackedFloat.normalize, hcompare]
    exact represents_round hpos hle h

/-- A mantissa that is not too short is rounded as it is. -/
theorem represents_roundWithAccuracy {m n : ℕ} {e : ℤ} (hpos : 0 < n) (hle : n ≤ 2 ^ 53)
    (hlog : 52 ≤ m.log2) (h : (m : ℚ) * 2 ^ e = n) :
    Represents (roundWithAccuracy .binary64 .positive m e .exact) n := by
  obtain ⟨q, t, hq, hn, hlo, hhi⟩ := exists_normal hpos hle
  have hqpos := pos_of_log2_eq hq
  have hsame := h.trans hn.symm
  have hm : m ≠ 0 := by
    rintro rfl
    cases hlog
  -- The normal mantissa is no longer than this one, so its exponent is no smaller.
  have hexponent : e ≤ t := by
    by_contra hlt
    have hlonger := eq_mul_two_pow_of_le hsame.symm (by omega)
    rw [hlonger, log2_mul_two_pow hm] at hq
    omega
  have hmin : -1074 ≤ t := by omega
  have hround := roundWithAccuracy_normal .positive (t - e).toNat hq hmin hqpos
  have hshift : t - ((t - e).toNat : ℤ) = e := by omega
  rw [← eq_mul_two_pow_of_le hsame hexponent, hshift] at hround
  rw [hround]
  exact .finite hqpos hq hlo hhi hn

section Operations

variable {u v : UnpackedFloat} {n k : ℕ}

/-- A sum of whole numbers is exact as long as it has 53 digits. -/
theorem Represents.add (hu : Represents u n) (hv : Represents v k) (hle : n + k ≤ 2 ^ 53) :
    Represents (UnpackedFloat.add .binary64 u v) (n + k) := by
  cases hu with
  | zero =>
      rw [zero_add]
      cases hv with
      | zero => exact .zero
      | finite hpos hq hlo hhi hk => exact .finite hpos hq hlo hhi hk
  | @finite q _ t hpos hq hlo hhi hn =>
      cases hv with
      | zero => exact .finite hpos hq hlo hhi hn
      | @finite q' _ t' hpos' hq' hlo' hhi' hk =>
          -- Both are brought to the smaller exponent, without a bit lost.
          have hvalue : ((q <<< (t - min t t').toNat + q' <<< (t' - min t t').toNat : ℕ) : ℚ)
              * 2 ^ min t t' = (n + k : ℕ) := by
            rw [Nat.cast_add, add_mul, shiftLeft_mul_two_pow q (min_le_left t t'),
              shiftLeft_mul_two_pow q' (min_le_right t t'), hn, hk, Nat.cast_add]
          exact represents_normalize hle hvalue

/-- A product of whole numbers is exact as long as it has 53 digits. Two normal mantissas have at
least 105 digits together, so the product is long enough to be rounded, and nothing is lost. -/
theorem Represents.mul (hu : Represents u n) (hv : Represents v k) (hle : n * k ≤ 2 ^ 53) :
    Represents (UnpackedFloat.mul .binary64 u v) (n * k) := by
  cases hu with
  | zero =>
      rw [zero_mul]
      cases hv with
      | zero => exact .zero
      | finite => exact .zero
  | @finite q _ t hpos hq hlo hhi hn =>
      cases hv with
      | zero =>
          rw [mul_zero]
          exact .zero
      | @finite q' _ t' hpos' hq' hlo' hhi' hk =>
          -- The exact product of the mantissas, at the sum of the exponents, is the product of
          -- the values.
          have hvalue : ((q * q' : ℕ) : ℚ) * 2 ^ (t + t') = (n * k : ℕ) := by
            rw [Nat.cast_mul, Nat.cast_mul, zpow_add₀ two_ne_zero, ← hn, ← hk]
            ring
          have hnk : 0 < n * k := by
            have hpositive : (0 : ℚ) < (n * k : ℕ) := by
              rw [← hvalue]
              positivity
            exact_mod_cast hpositive
          have hlog : 52 ≤ (q * q').log2 := by
            refine (Nat.le_log2 (by positivity)).2 ?_
            exact Nat.le_trans (hq ▸ Nat.log2_self_le hpos.ne') (Nat.le_mul_of_pos_right q hpos')
          exact represents_roundWithAccuracy hnk hle hlog hvalue

end Operations

/-- A double stands for a whole number up to `2 ^ 53`. -/
def Holds (x : Float) (n : ℕ) : Prop :=
  Represents (unpacked x) n

/-- Packing a whole number loses nothing, since its exponent is far from both ends. -/
theorem holds_packed {u : UnpackedFloat} {n : ℕ} (h : Represents u n) : Holds (packed u) n := by
  cases h with
  | zero =>
      show Represents (UnpackedFloat.unpack .binary64 (packedZero .binary64 .positive)) 0
      rw [unpack_packedZero]
      exact .zero
  | finite hpos hq hlo hhi hn =>
      rw [Holds, unpacked_packed hpos hq (by omega) (by omega)]
      exact .finite hpos hq hlo hhi hn

/-- A natural number up to `2 ^ 53` is converted exactly. -/
theorem holds_ofNat {n : ℕ} (hle : n ≤ 2 ^ 53) : Holds (packed (UnpackedFloat.ofNat .binary64 n)) n :=
  holds_packed (represents_normalize hle (by simp))

section Doubles

variable {x y : Float} {n k : ℕ}

/-- Sums of doubles that are whole numbers. -/
theorem Holds.add (hx : Holds x n) (hy : Holds y k) (hle : n + k ≤ 2 ^ 53) :
    Holds (x + y) (n + k) :=
  holds_packed (Represents.add hx hy hle)

/-- Products of doubles that are whole numbers. -/
theorem Holds.mul (hx : Holds x n) (hy : Holds y k) (hle : n * k ≤ 2 ^ 53) :
    Holds (x * y) (n * k) :=
  holds_packed (Represents.mul hx hy hle)

/-- A double that holds a whole number has it as its exact value, so `Holds` says no less than it
should. -/
theorem Holds.exactValue?_eq (h : Holds x n) : exactValue? x = some (n : ℚ) := by
  rw [Holds] at h
  rw [exactValue?]
  generalize unpacked x = u at h
  cases h with
  | zero => simp
  | finite hpos hq hlo hhi hn => exact congrArg some hn

end Doubles

end Reckoner.Arithmetic
