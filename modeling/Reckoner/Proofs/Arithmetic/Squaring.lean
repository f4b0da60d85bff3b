import Mathlib.Algebra.Group.Basic
import Mathlib.Algebra.Group.Nat.Defs
import Mathlib.Data.Nat.Bits
import Reckoner.Arithmetic.Squaring

/-!
# `Reckoner.Proofs.Arithmetic.Squaring`: what repeated squaring computes, and at what cost

Repeated squaring takes the binary digits of the exponent from the lowest one on. With each digit
the exponent is halved, the result takes in the base at a digit 1, and the base is squared. What
stays the same meanwhile is the result times the base to what is left of the exponent. In the last
round that would fail, since the base is not squared any more, but then nothing is left of the
exponent. No law but associativity is used, and that 1 is a unit.

* `Squaring.foldl_steps`: one round.
* `Squaring.result_foldl_steps`: the invariant, behind all rounds.
* `Squaring.count_accumulate_steps`, `Squaring.count_square_steps`: how many multiplications of
  either kind there are.
* `power_by_squaring`: the power and the multiplications for it.
-/

set_option autoImplicit false

namespace Reckoner.Arithmetic

namespace Squaring

/-! ### One digit of the exponent -/

/-- No digit, no multiplication. -/
theorem steps_zero : steps 0 = [] := by
  rw [steps]
  rfl

/-- One round of the loop: the lowest digit, the squaring behind it and the digits that
are left. -/
theorem steps_of_pos {n : ℕ} (h : 0 < n) :
    steps n = (if n % 2 = 1 then [.accumulate] else []) ++
      (if 0 < n / 2 then [.square] else []) ++ steps (n / 2) := by
  rw [steps, if_neg (Nat.pos_iff_ne_zero.1 h)]

/-- What one multiplication keeps, a power keeps. -/
theorem power_induction {α : Type} {mul : α → α → α} {P : α → Prop}
    (hmul : ∀ x y, P x → P y → P (mul x y)) {one base : α} (hone : P one) (hbase : P base)
    (exponent : ℕ) : P (power mul one base exponent) := by
  unfold power
  -- Which steps there are does not matter, so the induction is on any list of them.
  generalize steps exponent = l
  induction l generalizing one base with
  | nil => exact hone
  | cons step l ih =>
      cases step with
      | accumulate => exact ih (hmul one base hone hbase) hbase
      | square => exact ih hone (hmul base base hbase hbase)

section Rounds

variable {M : Type} [Monoid M]

/-- One round takes in the base at a digit 1, and squares it if there are digits left. -/
theorem foldl_steps {n : ℕ} (h : 0 < n) (result base : M) :
    (steps n).foldl (Progress.step (· * ·)) ⟨result, base⟩
      = (steps (n / 2)).foldl (Progress.step (· * ·))
          ⟨if n % 2 = 1 then result * base else result,
            if 0 < n / 2 then base * base else base⟩ := by
  rw [steps_of_pos h, List.foldl_append, List.foldl_append]
  split
  · split
    · rfl
    · rfl
  · split
    · rfl
    · rfl

/-- What a round leaves of the base, to what it leaves of the exponent. Behind the last digit the
base is not squared, and is not used either. -/
theorem squared_pow_half (base : M) (n : ℕ) :
    (if 0 < n / 2 then base * base else base) ^ (n / 2) = base ^ (2 * (n / 2)) := by
  split
  · rw [← pow_two, ← pow_mul]
  · next hlast =>
      have hzero : n / 2 = 0 := Nat.eq_zero_of_not_pos hlast
      rw [hzero, Nat.mul_zero, pow_zero]

/-- The result at the end is the one so far times the power that is left. -/
theorem result_foldl_steps (n : ℕ) (result base : M) :
    ((steps n).foldl (Progress.step (· * ·)) ⟨result, base⟩).result = result * base ^ n := by
  -- The recursion of the steps halves the exponent. Result and base change with every round, so
  -- both are general in the induction.
  induction n using steps.induct generalizing result base with
  | case1 =>
      rw [steps_zero, pow_zero, mul_one]
      rfl
  | case2 n hn ih =>
      rw [foldl_steps (Nat.pos_of_ne_zero hn), ih, squared_pow_half]
      split
      · next hodd =>
          rw [mul_assoc, ← pow_succ', ← hodd, Nat.div_add_mod]
      · next heven =>
          have hn : 2 * (n / 2) = n := by omega
          rw [hn]

end Rounds

/-! ### How many multiplications there are -/

/-- The binary digits of a number by the recursion that the loop has, so that both can be counted
together. -/
theorem bits_of_pos {n : ℕ} (h : 0 < n) : n.bits = decide (n % 2 = 1) :: (n / 2).bits := by
  rcases Nat.mod_two_eq_zero_or_one n with heven | hodd
  · have hn : n = 2 * (n / 2) := by omega
    calc n.bits = (2 * (n / 2)).bits := congrArg Nat.bits hn
      _ = false :: (n / 2).bits := Nat.bit0_bits _ (by omega)
      _ = decide (n % 2 = 1) :: (n / 2).bits := by simp [heven]
  · have hn : n = 2 * (n / 2) + 1 := by omega
    calc n.bits = (2 * (n / 2) + 1).bits := congrArg Nat.bits hn
      _ = true :: (n / 2).bits := Nat.bit1_bits _
      _ = decide (n % 2 = 1) :: (n / 2).bits := by simp [hodd]

/-- The result takes in the base once for each digit 1. -/
theorem count_accumulate_steps (n : ℕ) :
    (steps n).count .accumulate = n.bits.count true := by
  induction n using steps.induct with
  | case1 =>
      rw [steps_zero]
      simp
  | case2 n hn ih =>
      have hpos := Nat.pos_of_ne_zero hn
      have hsquare : (if 0 < n / 2 then [Step.square] else []).count .accumulate = 0 := by
        split
        · rfl
        · rfl
      rw [steps_of_pos hpos, bits_of_pos hpos, List.count_append, List.count_append, hsquare, ih,
        List.count_cons]
      by_cases hodd : n % 2 = 1
      · simp [hodd, Nat.add_comm]
      · simp [hodd]

/-- The base is squared between two digits. -/
theorem count_square_steps (n : ℕ) : (steps n).count .square = n.log2 := by
  induction n using steps.induct with
  | case1 =>
      rw [steps_zero]
      simp
  | case2 n hn ih =>
      have htakenIn : (if n % 2 = 1 then [Step.accumulate] else []).count .square = 0 := by
        split
        · rfl
        · rfl
      rw [steps_of_pos (Nat.pos_of_ne_zero hn), List.count_append, List.count_append, htakenIn, ih,
        Nat.log2_def n]
      -- From 2 on a digit is left when the lowest one is taken away.
      by_cases hmore : 2 ≤ n
      · have hhalf : 0 < n / 2 := by omega
        rw [if_pos hmore, if_pos hhalf, List.count_singleton_self]
        omega
      · have hlast : n = 1 := by omega
        simp [hlast]

/-- The highest digit is a 1, so the last multiplication takes in the base. -/
theorem getLast?_steps {n : ℕ} (h : 0 < n) : (steps n).getLast? = some .accumulate := by
  induction n using steps.induct with
  | case1 => cases h
  | case2 n hn ih =>
      rw [steps_of_pos h, List.getLast?_append]
      by_cases hmore : 0 < n / 2
      · rw [ih hmore]
        rfl
      · obtain rfl : n = 1 := by omega
        rw [show 1 / 2 = 0 from rfl, steps_zero]
        rfl

/-- Every square is used: behind it the result takes in the base again. -/
theorem accumulate_mem_of_steps_eq {n : ℕ} {front back : List Step}
    (h : steps n = front ++ .square :: back) : .accumulate ∈ back := by
  have hpos : 0 < n := by
    refine Nat.pos_of_ne_zero ?_
    rintro rfl
    rw [steps_zero] at h
    simp at h
  -- The last step is one of `back`, since a square is never the last.
  have hlast := getLast?_steps hpos
  rw [h, List.getLast?_append, List.getLast?_cons] at hlast
  cases hback : back.getLast? with
  | none => simp [hback] at hlast
  | some last =>
      obtain rfl : last = .accumulate := by simpa [hback] using hlast
      exact List.mem_of_getLast? hback

end Squaring

open Squaring

/-- **Repeated squaring computes powers, and multiplies as little as that takes.** With any
associative multiplication and its unit, the result is the power of the base, whatever the exponent.
The result takes in the base as often as the exponent has binary digits 1, and the base is squared
once less than a positive exponent has binary digits. Every square is used: the result takes in the
base once more behind it. -/
theorem power_by_squaring {M : Type} [Monoid M] (base : M) (n : ℕ) :
    Squaring.power (· * ·) 1 base n = base ^ n ∧
      (steps n).count .accumulate = n.bits.count true ∧
      (steps n).count .square = n.log2 ∧
      ∀ front back, steps n = front ++ .square :: back → .accumulate ∈ back := by
  refine ⟨?_, count_accumulate_steps n, count_square_steps n, ?_⟩
  · rw [Squaring.power, result_foldl_steps, one_mul]
  · intro front back h
    exact accumulate_mem_of_steps_eq h

/-- The exponent 6 has the digits 110: a square, that times the square of it. -/
theorem power_by_squaring_six :
    Squaring.power (· * ·) 1 3 6 = 729 ∧
      (steps 6).count .accumulate = 2 ∧ (steps 6).count .square = 2 ∧
      steps 6 = [.square, .accumulate] ++ .square :: [.accumulate] ∧
      Step.accumulate ∈ [Step.accumulate] := by
  have hsteps : steps 6 = [.square, .accumulate] ++ .square :: [.accumulate] := by decide +kernel
  obtain ⟨hpower, haccumulate, hsquare, hused⟩ := power_by_squaring 3 6
  exact ⟨hpower, haccumulate, hsquare, hsteps, hused _ _ hsteps⟩

end Reckoner.Arithmetic
