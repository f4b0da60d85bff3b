import Reckoner.Arithmetic.Operations
import Reckoner.Proofs.Arithmetic.Negation

/-!
# `Reckoner.Proofs.Arithmetic.Parity`: powers of a number and of its negative

Repeated squaring takes in the base itself at the lowest digit of the exponent only, and its
squares behind that. A square is the same for a number and its negative, so of the sign of the
base no more is left than the lowest digit says: `Squaring.power_neg`.

The exponent comes from a double, and is held in 64 bits. Up to there its lowest digit is that of
the whole number that is meant. Past it every exponent counts as 2 ^ 64 - 1, and so as odd, while
doubles of that size are even numbers, all of them. So a number below zero to an even power is
below zero when the power is that high, which shows where the result does not overflow:
`power_neg_one_of_size`.

* `toUInt64_abs`: what is held of an exponent.
* `wholeValue_even_of_size_le`: whole numbers that do not fit are even.
* `isFinite_nearest`: only finite exponents count as whole.
* `exists_power_neg`: the power of the negative, for all whole exponents.
-/

set_option autoImplicit false

namespace Reckoner.Arithmetic

open Float.Model
open Float.Model.UnpackedFloat hiding pack unpack

/-! ### Repeated squaring -/

namespace Squaring

variable (result base : Float)

/-- A sign of the result so far stays in front of everything that is multiplied to it. -/
theorem foldl_step_neg (l : List Step) :
    (l.foldl (Progress.step (· * ·)) ⟨-result, base⟩).result
      = -(l.foldl (Progress.step (· * ·)) ⟨result, base⟩).result := by
  induction l generalizing result base with
  | nil => rfl
  | cons step l ih =>
      cases step with
      | accumulate =>
          -- A square leaves the sign where it is, and taking in the base hands it on.
          simp only [List.foldl_cons, Progress.step, Arithmetic.neg_mul]
          exact ih _ _
      | square => exact ih _ _

/-- Behind the lowest digit the base occurs only squared. -/
theorem foldl_step_neg_base (half : Nat) :
    (((if 0 < half then [Step.square] else []) ++ steps half).foldl (Progress.step (· * ·))
        ⟨result, -base⟩).result
      = (((if 0 < half then [Step.square] else []) ++ steps half).foldl (Progress.step (· * ·))
        ⟨result, base⟩).result := by
  by_cases h : 0 < half
  · simp only [if_pos h, List.singleton_append, List.foldl_cons, Progress.step,
      Arithmetic.neg_mul_neg]
  · obtain rfl : half = 0 := by omega
    rw [steps]
    rfl

/-- The sign of the base matters at the lowest digit only. -/
theorem power_neg (exponent : Nat) :
    power (· * ·) 1 (-base) exponent
      = if exponent % 2 = 1 then -power (· * ·) 1 base exponent
        else power (· * ·) 1 base exponent := by
  unfold power
  rw [steps]
  split
  · next hzero => rw [hzero]; rfl
  · -- The list of multiplications is taken apart into the lowest digit and all behind it.
    rw [List.append_assoc]
    split
    · next hodd =>
        rw [List.singleton_append, List.foldl_cons, List.foldl_cons, Progress.step,
          Progress.step, Arithmetic.mul_neg, foldl_step_neg_base, foldl_step_neg]
    · exact foldl_step_neg_base 1 base _

end Squaring

/-! ### Whole numbers -/

/-- The whole number that is left of a double when the part behind the point is cut off. -/
def wholeValue (x : Float) : Int :=
  (unpacked x).toInt 0 0

/-- A sign does not change the magnitude of a whole number. -/
theorem natAbs_apply (s : Sign) (n : Int) : (s.apply n).natAbs = n.natAbs := by
  cases s with
  | negative => exact Int.natAbs_neg n
  | positive => rfl

/-- A number that does not fit into 64 bits is held as the largest that does. -/
theorem toNat_ofNatClamp (n : Nat) :
    (UInt64.ofNatClamp n).toNat = min n (UInt64.size - 1) := by
  unfold UInt64.ofNatClamp
  split
  · rw [UInt64.toNat_ofNatLT]
    omega
  · rw [UInt64.toNat_ofNatLT]
    omega

/-- Of an exponent as many factors are held as fit into 64 bits. -/
theorem toUInt64_abs {x : Float} (h : (unpacked x).isFinite = true) :
    x.abs.toUInt64.toNat = min (wholeValue x).natAbs (UInt64.size - 1) := by
  show (UInt64.ofNatClamp ((unpacked x.abs).toInt 0 _).toNat).toNat = _
  rw [toNat_ofNatClamp, unpacked_abs, wholeValue]
  cases hx : unpacked x with
  | notANumber =>
      rw [hx] at h
      cases h
  | infinity s =>
      rw [hx] at h
      cases h
  | zero s => rfl
  | finite s m e hm =>
      simp only [UnpackedFloat.toInt, roundToInt, natAbs_apply]
      rfl

/-- The mantissa of a double has at most 53 digits, the implicit one included. -/
theorem mantissa_lt_of_unpacked {x : Float} {s : Sign} {m : Nat} {e : Int} {hm : 0 < m}
    (h : unpacked x = .finite s m e hm) : m < 9007199254740992 := by
  unfold unpacked Float.Model.unpack UnpackedFloat.unpack at h
  dsimp only at h
  -- Infinities and NaN have the largest exponent, zeros and subnormal numbers the smallest.
  split at h
  · split at h
    · cases h
    · cases h
  · split at h
    · split at h
      · cases h
      · obtain ⟨-, rfl, -⟩ := UnpackedFloat.finite.inj h
        have hlt := (@unpackMantissa .binary64 x.toModel.toBits.toBitVec).isLt
        omega
    · obtain ⟨-, rfl, -⟩ := UnpackedFloat.finite.inj h
      exact BitVec.isLt _

/-- Shifting bits out makes a mantissa no larger. -/
theorem mantissa_shiftRight_le (em : ExtendedMantissa) (n : Nat) :
    (em >>> n).mantissa ≤ em.mantissa := by
  induction n with
  | zero => exact Nat.le_refl _
  | succ n ih => exact Nat.le_trans (Nat.div_le_self _ 2) ih

/-- What is cut off of a mantissa makes it smaller, and without that it has been doubled. -/
theorem cut_le_or_even (m : Nat) (e : Int) :
    let doubled := decreaseExponent m e 0
    let cut := (shiftToExponent doubled.1 doubled.2 .exact 0).1.mantissa
    cut ≤ m ∨ cut % 2 = 0 := by
  intro doubled cut
  by_cases he : 0 < e
  · -- A positive exponent is taken into the mantissa, and nothing is left to cut off.
    obtain ⟨k, rfl⟩ : ∃ k : Nat, e = k + 1 := ⟨(e - 1).toNat, by omega⟩
    right
    have hcut : cut = m <<< (k + 1) := by
      have hzero : ((k : Int) + 1 - ((k + 1 : Nat) : Int)) = 0 := by omega
      show (ExtendedMantissa.mk (m <<< (k + 1)) false false >>>
        (0 - ((k : Int) + 1 - ((k + 1 : Nat) : Int))).toNat).mantissa = _
      rw [hzero]
      rfl
    rw [hcut, Nat.shiftLeft_succ]
    omega
  · left
    have hdoubled : doubled.1 = m := by
      show m <<< (e - 0).toNat = m
      rw [show (e - 0).toNat = 0 by omega]
      rfl
    have hle := mantissa_shiftRight_le (.mk doubled.1 false false) (0 - doubled.2).toNat
    exact Nat.le_trans hle (Nat.le_of_eq hdoubled)

/-- A whole number that does not fit into 64 bits is even when a double holds it. -/
theorem wholeValue_even_of_size_le {x : Float} (h : UInt64.size ≤ (wholeValue x).natAbs) :
    wholeValue x % 2 = 0 := by
  have hsize : UInt64.size = 18446744073709551616 := rfl
  unfold wholeValue at h ⊢
  cases hx : unpacked x with
  | notANumber => rfl
  | infinity s => cases s <;> rfl
  | zero s => rfl
  | finite s m e hm =>
      rw [hx] at h
      have hlt := mantissa_lt_of_unpacked hx
      simp only [UnpackedFloat.toInt, roundToInt, natAbs_apply] at h
      simp only [UnpackedFloat.toInt, roundToInt]
      -- A number cut down from a mantissa is less than `2 ^ 53` and so out of question.
      rcases cut_le_or_even m e with hle | heven
      · omega
      · cases s with
        | negative => simp only [Sign.apply]; omega
        | positive => simp only [Sign.apply]; omega

/-! ### Exponents that count as whole -/

/-- The distance to what is not finite is not finite, whatever it is the distance of. -/
theorem isFinite_sub_eq_false {spec : Format} (u : UnpackedFloat) {v : UnpackedFloat}
    (h : v.isFinite = false) : (UnpackedFloat.sub spec u v).isFinite = false := by
  cases v with
  | notANumber => cases u <;> rfl
  | infinity s =>
      cases u with
      | infinity t => cases s <;> cases t <;> rfl
      | _ => rfl
  | zero s => cases h
  | finite s m e hm => cases h

/-- What is not finite is within no finite bound. -/
theorem abs_le_eq_false {u v : UnpackedFloat} (hu : u.isFinite = false) (hv : v.isFinite = true) :
    u.abs.le v = false := by
  cases u with
  | notANumber => rfl
  | infinity s =>
      cases v with
      | notANumber => cases hv
      | infinity t => cases hv
      | zero t => rfl
      | finite t m e hm => rfl
  | zero s => cases hu
  | finite s m e hm => cases hu

/-- What counts as whole is finite: the distance to an infinity is not small. -/
theorem isFinite_nearest {exponent : Float} (h : isWhole exponent = true) :
    (unpacked (nearest exponent)).isFinite = true := by
  rw [← Bool.not_eq_false]
  intro hnearest
  have htolerance : (unpacked wholeTolerance).isFinite = true := by decide +kernel
  have hdistance := @isFinite_sub_eq_false .binary64 (unpacked exponent) _ hnearest
  have hunpacked : unpacked (exponent - nearest exponent)
      = UnpackedFloat.sub .binary64 (unpacked exponent) (unpacked (nearest exponent)) :=
    unpacked_packed_of_not_isFinite hdistance
  have hle : (unpacked (exponent - nearest exponent).abs).le (unpacked wholeTolerance) = true :=
    of_decide_eq_true (of_decide_eq_true h)
  rw [unpacked_abs, hunpacked, abs_le_eq_false hdistance htolerance] at hle
  cases hle

/-! ### Powers -/

/-- A number and its negative are zero together. -/
theorem neg_beq_zero (x : Float) : (-x == 0) = (x == 0) := by
  have hzero : unpacked 0 = .zero .positive := rfl
  show UnpackedFloat.beq (unpacked (-x)) (unpacked 0) = UnpackedFloat.beq (unpacked x) (unpacked 0)
  rw [hzero, unpacked_neg]
  cases unpacked x with
  | notANumber => rfl
  | infinity s => cases s <;> rfl
  | zero s => rfl
  | finite s m e hm => cases s <;> rfl

/-- The whole power of the negative of a number, by the lowest digit of what is held of the
exponent. A negative exponent does not change this, as a reciprocal keeps the sign. -/
theorem wholePower_neg (base whole : Float) :
    wholePower (-base) whole
      = if whole.abs.toUInt64.toNat % 2 = 1 then -wholePower base whole
        else wholePower base whole := by
  unfold wholePower
  dsimp only
  rw [Squaring.power_neg]
  split
  · split
    · rw [Arithmetic.div_neg]
    · rfl
  · rfl

/-- **Powers respect parity below 2 ^ 64, and lose it from there on.** A whole power of a number
and that of its negative are the same when the exponent is even and less than 2 ^ 64, and else the
negative of each other. From 2 ^ 64 on all whole exponents are even, so there the second case is
always wrong. -/
theorem exists_power_neg {base exponent : Float} (hbase : (base == 0) = false)
    (hwhole : isWhole exponent = true) :
    let n := wholeValue (nearest exponent)
    (UInt64.size ≤ n.natAbs → n % 2 = 0) ∧
      ∃ value, power base exponent = some value ∧
        power (-base) exponent
          = some (if n.natAbs < UInt64.size ∧ n % 2 = 0 then value else -value) := by
  intro n
  -- Both bases are other than zero, so both powers are the whole power to the same exponent.
  have hpower : ∀ base : Float, (base == 0) = false →
      power base exponent = some (wholePower base (nearest exponent)) := by
    intro base hbase
    rw [power, hbase, hwhole]
    rfl
  have hcount : (nearest exponent).abs.toUInt64.toNat = min n.natAbs (UInt64.size - 1) :=
    toUInt64_abs (isFinite_nearest hwhole)
  have hsize : UInt64.size = 18446744073709551616 := rfl
  -- From the limit on, what is held of the exponent is the limit less one, an odd number.
  refine ⟨wholeValue_even_of_size_le, _, hpower base hbase, ?_⟩
  rw [hpower (-base) ((neg_beq_zero base).trans hbase), wholePower_neg, hcount]
  split
  · rw [if_neg (by omega)]
  · rw [if_pos (by omega)]

/-- The powers of 2 and of -2 to an odd exponent. -/
theorem exists_power_neg_three :
    ((2 : Float) == 0) = false ∧ isWhole 3 = true ∧
      ∃ value, power 2 3 = some value ∧ power (-2) 3 = some (-value) := by
  have hbase : ((2 : Float) == 0) = false := by decide +kernel
  have hwhole : isWhole 3 = true := by decide +kernel
  have hodd : ¬ ((wholeValue (nearest 3)).natAbs < UInt64.size ∧
      wholeValue (nearest 3) % 2 = 0) := by
    decide +kernel
  obtain ⟨-, value, hvalue, hnegative⟩ := exists_power_neg hbase hwhole
  rw [if_neg hodd] at hnegative
  exact ⟨hbase, hwhole, value, hvalue, hnegative⟩

/-- At the least exponent past the limit, an even one, -1 and 1 have different powers. -/
theorem power_neg_one_of_size :
    wholeValue (nearest 18446744073709551616) = 18446744073709551616 ∧
      power 1 18446744073709551616 = some 1 ∧
      power (-1) 18446744073709551616 = some (-1) := by
  decide +kernel

end Reckoner.Arithmetic
